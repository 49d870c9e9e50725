import SomeipGateway.Endpoint.Run
import SomeipGateway.Network.Basic

/-! # Where the handles of an endpoint come from

An endpoint learns a remote handle from a Connect_service it received or from the
reply to one it sent, and hands out its own from one counter. `R` below is what it
received from each peer and `S` what it did so far; both only grow. `Knows` says
that every handle an endpoint stores, and every handle in a message it has sent,
can be traced back to them.
-/

namespace SomeipGateway

variable {ι : Type}

/-! ## The two handshake messages -/

def ConnectReceived (R : ι → Set Packet) (x : ι) (key : Key) (r : Nat) : Prop :=
  ∃ metadata, (⟨some key, .connectService key r metadata true⟩ : Packet) ∈ R x

def ReplyReceived (R : ι → Set Packet) (x : ι) (key : Key) (r l : Nat) : Prop :=
  ∃ metadata counts, (⟨some key, .connectServiceReply r l metadata counts⟩ : Packet) ∈ R x

def ConnectSent (S : Set (Effect ι)) (x : ι) (key : Key) (r : Nat) : Prop :=
  ∃ metadata, Effect.send x (some key) (.connectService key r metadata true) true ∈ S

def ReplySent (S : Set (Effect ι)) (x : ι) (key : Key) (r l : Nat) : Prop :=
  ∃ metadata counts, Effect.send x (some key) (.connectServiceReply r l metadata counts) true ∈ S

/-- `r` stands for `key` in the messages exchanged with `x`. -/
def Known (R : ι → Set Packet) (x : ι) (key : Key) (r : Nat) : Prop :=
  ConnectReceived R x key r ∨ ∃ l, ReplyReceived R x key r l

def Payload.Known (R : ι → Set Packet) (payload : Payload ι) : Prop :=
  ∀ origin, payload.origin = some origin →
    SomeipGateway.Known R origin.client origin.about origin.requiredId

/-- A message is tagged with its own service, and the handle an effect carries was
received for the service it is about. Joined endpoints send no Connect. -/
def Effect.Justified (R : ι → Set Packet) : Effect ι → Prop
  | .send _ _ .connect _ | .send _ _ (.connectReply _) _ => False
  | .send _ about (.requestService key _) _ => about = some key
  | .send _ about (.offerService key _) _ => about = some key
  | .send _ about (.connectService key _ _ inUse) _ => about = some key ∧ inUse = true
  | .send x about (.connectServiceReply r _ _ _) _ =>
      ∃ key, about = some key ∧ ConnectReceived R x key r
  | .send x about (.subscribeEvent l _ _) _ =>
      ∃ key r, about = some key ∧ ReplyReceived R x key r l
  | .send x about (.eventUpdate r _ _) _ => ∃ key, about = some key ∧ Known R x key r
  | .send x about (.payloadConsumed r _) _ => ∃ key, about = some key ∧ Known R x key r
  | .updateEvent _ _ _ payload => payload.Known R
  | .releasePayload payload => payload.Known R
  | _ => True

/-- An effect that hands out no handle. -/
def Effect.isQuiet : Effect ι → Bool
  | .send _ _ (.connectService _ _ _ _) _ | .send _ _ (.connectServiceReply _ _ _ _) _ => false
  | _ => true

/-- An effect that mentions no handle. -/
def Effect.isPlain : Effect ι → Bool
  | .send _ about (.requestService key _) _ | .send _ about (.offerService key _) _ =>
      about = some key
  | .send _ _ _ _ | .updateEvent _ _ _ _ | .releasePayload _ => false
  | _ => true

section Monotone

variable {R R' : ι → Set Packet} {S S' : Set (Effect ι)} {x : ι} {key : Key} {r l : Nat}

theorem ConnectReceived.mono (hR : ∀ x, R x ⊆ R' x) (h : ConnectReceived R x key r) :
    ConnectReceived R' x key r :=
  h.imp fun _ hm => hR x hm

theorem ReplyReceived.mono (hR : ∀ x, R x ⊆ R' x) (h : ReplyReceived R x key r l) :
    ReplyReceived R' x key r l :=
  h.imp fun _ hm => hm.imp fun _ hm => hR x hm

theorem Known.mono (hR : ∀ x, R x ⊆ R' x) (h : Known R x key r) : Known R' x key r :=
  h.imp (.mono hR) fun hl => hl.imp fun _ hl => hl.mono hR

theorem Payload.Known.mono {payload : Payload ι} (hR : ∀ x, R x ⊆ R' x) (h : payload.Known R) :
    payload.Known R' :=
  fun origin horigin => (h origin horigin).mono hR

theorem ConnectSent.mono (hS : S ⊆ S') (h : ConnectSent S x key r) : ConnectSent S' x key r :=
  h.imp fun _ hm => hS hm

theorem ReplySent.mono (hS : S ⊆ S') (h : ReplySent S x key r l) : ReplySent S' x key r l :=
  h.imp fun _ hm => hm.imp fun _ hm => hS hm

theorem Effect.Justified.mono {e : Effect ι} (hR : ∀ x, R x ⊆ R' x) (h : e.Justified R) :
    e.Justified R' := by
  cases e with
  | send x about msg ok =>
      cases msg with
      | connect | connectReply | requestService | offerService | connectService => exact h
      | connectServiceReply =>
          obtain ⟨key, habout, hreceived⟩ := h
          exact ⟨key, habout, hreceived.mono hR⟩
      | subscribeEvent =>
          obtain ⟨key, r, habout, hreceived⟩ := h
          exact ⟨key, r, habout, hreceived.mono hR⟩
      | eventUpdate | payloadConsumed =>
          obtain ⟨key, habout, hknown⟩ := h
          exact ⟨key, habout, hknown.mono hR⟩
  | updateEvent key connector eventId payload => exact Payload.Known.mono hR h
  | releasePayload payload => exact Payload.Known.mono hR h
  | subscribeEvent | unsubscribeEvent | destroyServerConnector | destroyClientConnector
  | requestSent | assertFailed => trivial

theorem Effect.justified_of_isPlain {e : Effect ι} (h : e.isPlain = true) :
    e.Justified R ∧ e.isQuiet = true := by
  cases e with
  | send x about msg ok =>
      cases msg with
      | requestService key inUse | offerService key offered =>
          have habout : about = some key := of_decide_eq_true h
          exact ⟨habout, rfl⟩
      | connect | connectReply | connectService | connectServiceReply | subscribeEvent
      | eventUpdate | payloadConsumed => cases h
  | updateEvent | releasePayload => cases h
  | subscribeEvent | unsubscribeEvent | destroyServerConnector | destroyClientConnector
  | requestSent | assertFailed => exact ⟨trivial, rfl⟩

theorem union_append (S : Set (Effect ι)) (es fs : List (Effect ι)) :
    S ∪ {e | e ∈ es ++ fs} = S ∪ {e | e ∈ es} ∪ {e | e ∈ fs} := by
  ext e
  simp [or_assoc]

theorem connectSent_union_quiet {E : List (Effect ι)} (hE : ∀ e ∈ E, e.isQuiet = true)
    (h : ConnectSent (S ∪ {e | e ∈ E}) x key r) : ConnectSent S x key r := by
  obtain ⟨metadata, hm | hm⟩ := h
  · exact ⟨metadata, hm⟩
  · cases hE _ hm

theorem replySent_union_quiet {E : List (Effect ι)} (hE : ∀ e ∈ E, e.isQuiet = true)
    (h : ReplySent (S ∪ {e | e ∈ E}) x key r l) : ReplySent S x key r l := by
  obtain ⟨metadata, counts, hm | hm⟩ := h
  · exact ⟨metadata, counts, hm⟩
  · cases hE _ hm

end Monotone

/-! ## The history of an endpoint -/

/-- Everything done so far is justified, and every handle that was handed out is
below the counter and stands for one service. -/
structure History (R : ι → Set Packet) (S : Set (Effect ι)) (next : Nat) : Prop where
  justified : ∀ e ∈ S, e.Justified R
  connect_lt : ∀ x key r, ConnectSent S x key r → r < next
  connect_unique : ∀ x x' key key' r, ConnectSent S x key r → ConnectSent S x' key' r → key = key'
  reply_lt : ∀ x key r l, ReplySent S x key r l → l < next
  reply_unique : ∀ x x' key key' r r' l, ReplySent S x key r l → ReplySent S x' key' r' l →
    key = key'

namespace History

variable {R R' : ι → Set Packet} {S S' : Set (Effect ι)} {next : Nat}

theorem monoReceived (h : History R S next) (hR : ∀ x, R x ⊆ R' x) : History R' S next :=
  { h with justified := fun e he => (h.justified e he).mono hR }

theorem quiet (h : History R S next) {E : List (Effect ι)}
    (hE : ∀ e ∈ E, e.Justified R ∧ e.isQuiet = true) : History R (S ∪ {e | e ∈ E}) next := by
  have hquiet : ∀ e ∈ E, e.isQuiet = true := fun e he => (hE e he).2
  constructor
  case justified =>
    rintro e (he | he)
    · exact h.justified e he
    · exact (hE e he).1
  case connect_lt => exact fun x key r hr => h.connect_lt x key r (connectSent_union_quiet hquiet hr)
  case connect_unique =>
    intro x x' key key' r hr hr'
    exact h.connect_unique x x' key key' r (connectSent_union_quiet hquiet hr)
      (connectSent_union_quiet hquiet hr')
  case reply_lt => exact fun x key r l hl => h.reply_lt x key r l (replySent_union_quiet hquiet hl)
  case reply_unique =>
    intro x x' key key' r r' l hl hl'
    exact h.reply_unique x x' key key' r r' l (replySent_union_quiet hquiet hl)
      (replySent_union_quiet hquiet hl')

/-- A Connect_service takes the next handle. -/
theorem connect (h : History R S next) (x : ι) (key : Key) (metadata : SharedMemoryMetadata) :
    History R (S ∪ {e | e ∈ [Effect.send x (some key)
      (.connectService key next metadata true) true]}) (next + 1) := by
  have hsplit : ∀ x' key' r', ConnectSent (S ∪ {e | e ∈ [Effect.send x (some key)
      (.connectService key next metadata true) true]}) x' key' r' →
      ConnectSent S x' key' r' ∨ key' = key ∧ r' = next := by
    rintro x' key' r' ⟨metadata', hm | hm⟩
    · exact .inl ⟨metadata', hm⟩
    · have heq := List.mem_singleton.1 hm
      simp only [Effect.send.injEq, Message.connectService.injEq] at heq
      exact .inr ⟨heq.2.2.1.1, heq.2.2.1.2.1⟩
  have hreply : ∀ x' key' r' l', ReplySent (S ∪ {e | e ∈ [Effect.send x (some key)
      (.connectService key next metadata true) true]}) x' key' r' l' → ReplySent S x' key' r' l' := by
    rintro x' key' r' l' ⟨metadata', counts, hm | hm⟩
    · exact ⟨metadata', counts, hm⟩
    · cases List.mem_singleton.1 hm
  constructor
  case justified =>
    rintro e (he | he)
    · exact h.justified e he
    · rw [List.mem_singleton.1 he]
      exact ⟨rfl, rfl⟩
  case connect_lt =>
    intro x' key' r' hr'
    rcases hsplit x' key' r' hr' with hold | ⟨-, hnew⟩
    · have hlt := h.connect_lt x' key' r' hold
      omega
    · omega
  case connect_unique =>
    intro x₁ x₂ key₁ key₂ r h₁ h₂
    rcases hsplit x₁ key₁ r h₁ with hold₁ | ⟨hkey₁, hnew₁⟩
    · have hlt₁ := h.connect_lt x₁ key₁ r hold₁
      rcases hsplit x₂ key₂ r h₂ with hold₂ | ⟨-, hnew₂⟩
      · exact h.connect_unique x₁ x₂ key₁ key₂ r hold₁ hold₂
      · omega
    · rcases hsplit x₂ key₂ r h₂ with hold₂ | ⟨hkey₂, -⟩
      · have hlt₂ := h.connect_lt x₂ key₂ r hold₂
        omega
      · rw [hkey₁, hkey₂]
  case reply_lt =>
    intro x' key' r' l' hl'
    have hlt := h.reply_lt x' key' r' l' (hreply x' key' r' l' hl')
    omega
  case reply_unique =>
    intro x₁ x₂ key₁ key₂ r₁ r₂ l h₁ h₂
    exact h.reply_unique x₁ x₂ key₁ key₂ r₁ r₂ l (hreply _ _ _ _ h₁) (hreply _ _ _ _ h₂)

/-- So does the reply to one. -/
theorem reply (h : History R S next) {x : ι} {key : Key} {r : Nat}
    (hreceived : ConnectReceived R x key r) (metadata : SharedMemoryMetadata)
    (counts : ServiceCounts) :
    History R (S ∪ {e | e ∈ [Effect.send x (some key)
      (.connectServiceReply r next metadata counts) true]}) (next + 1) := by
  have hconnect : ∀ x' key' r', ConnectSent (S ∪ {e | e ∈ [Effect.send x (some key)
      (.connectServiceReply r next metadata counts) true]}) x' key' r' → ConnectSent S x' key' r' := by
    rintro x' key' r' ⟨metadata', hm | hm⟩
    · exact ⟨metadata', hm⟩
    · cases List.mem_singleton.1 hm
  have hsplit : ∀ x' key' r' l', ReplySent (S ∪ {e | e ∈ [Effect.send x (some key)
      (.connectServiceReply r next metadata counts) true]}) x' key' r' l' →
      ReplySent S x' key' r' l' ∨ key' = key ∧ l' = next := by
    rintro x' key' r' l' ⟨metadata', counts', hm | hm⟩
    · exact .inl ⟨metadata', counts', hm⟩
    · have heq := List.mem_singleton.1 hm
      simp only [Effect.send.injEq, Message.connectServiceReply.injEq, Option.some.injEq] at heq
      exact .inr ⟨heq.2.1, heq.2.2.1.2.1⟩
  constructor
  case justified =>
    rintro e (he | he)
    · exact h.justified e he
    · rw [List.mem_singleton.1 he]
      exact ⟨key, rfl, hreceived⟩
  case connect_lt =>
    intro x' key' r' hr'
    have hlt := h.connect_lt x' key' r' (hconnect x' key' r' hr')
    omega
  case connect_unique =>
    intro x₁ x₂ key₁ key₂ r' h₁ h₂
    exact h.connect_unique x₁ x₂ key₁ key₂ r' (hconnect _ _ _ h₁) (hconnect _ _ _ h₂)
  case reply_lt =>
    intro x' key' r' l' hl'
    rcases hsplit x' key' r' l' hl' with hold | ⟨-, hnew⟩
    · have hlt := h.reply_lt x' key' r' l' hold
      omega
    · omega
  case reply_unique =>
    intro x₁ x₂ key₁ key₂ r₁ r₂ l h₁ h₂
    rcases hsplit x₁ key₁ r₁ l h₁ with hold₁ | ⟨hkey₁, hnew₁⟩
    · have hlt₁ := h.reply_lt x₁ key₁ r₁ l hold₁
      rcases hsplit x₂ key₂ r₂ l h₂ with hold₂ | ⟨-, hnew₂⟩
      · exact h.reply_unique x₁ x₂ key₁ key₂ r₁ r₂ l hold₁ hold₂
      · omega
    · rcases hsplit x₂ key₂ r₂ l h₂ with hold₂ | ⟨hkey₂, -⟩
      · have hlt₂ := h.reply_lt x₂ key₂ r₂ l hold₂
        omega
      · rw [hkey₁, hkey₂]

end History

/-! ## Payloads kept in the allocation table -/

def Allocations.Known (R : ι → Set Packet) (table : Allocations ι) : Prop :=
  ∀ key allocations, table.lookup key = some allocations → ∀ allocation ∈ allocations,
    ∀ payload, allocation.payload = some payload → payload.Known R

namespace Allocations.Known

variable {R : ι → Set Packet} {table table' : Allocations ι} {key : Key}
  {effects : List (Effect ι)}

theorem insert (h : table.Known R) {allocations : List (Allocation ι)}
    (hnew : ∀ a ∈ allocations, ∀ payload, a.payload = some payload → payload.Known R) :
    Allocations.Known R (AList.insert key allocations table) := by
  intro key' allocations' hlookup
  rw [Table.lookup_insert_ite] at hlookup
  split at hlookup
  · cases hlookup
    exact hnew
  · exact h key' allocations' hlookup

theorem insertAllocation (h : table.Known R) {payload : Payload ι} {consumerCount : Nat}
    (hpayload : payload.Known R)
    (hinsert : table.insertAllocation key payload consumerCount = some (table', effects)) :
    table'.Known R ∧ ∀ e ∈ effects, e.Justified R ∧ e.isQuiet = true := by
  have hrelease : (Effect.releasePayload payload).Justified R := hpayload
  unfold Allocations.insertAllocation at hinsert
  split at hinsert
  · cases hinsert
    exact ⟨h, by simpa [Effect.isQuiet] using hrelease⟩
  · simp only at hinsert
    split at hinsert
    · cases hinsert
    next allocation hslot =>
      have hwith : ∀ a ∈ table.withSlot key payload.slotHandle, ∀ p, a.payload = some p →
          p.Known R := by
        intro a ha p hp
        rcases Allocations.mem_withSlot ha with rfl | ⟨allocations, hlookup, ha⟩
        · cases hp
        · exact h key allocations hlookup a ha p hp
      cases hinsert
      refine ⟨h.insert fun a ha p hp => ?_, fun e he => ?_⟩
      · rcases List.mem_or_eq_of_mem_set ha with hold | rfl
        · exact hwith a hold p hp
        · cases hp
          cases hstored : allocation.payload with
          | none => exact hpayload
          | some stored => exact hwith allocation (List.mem_of_getElem? hslot) stored hstored
      · split at he
        · rw [List.mem_singleton.1 he]
          exact ⟨hrelease, rfl⟩
        · cases he

theorem payloadConsumed (h : table.Known R) (key : Key) (slot : Nat) :
    (table.payloadConsumed key slot).1.Known R ∧
      ∀ e ∈ (table.payloadConsumed key slot).2, e.Justified R ∧ e.isQuiet = true := by
  unfold Allocations.payloadConsumed
  split
  · exact ⟨h, by simp⟩
  next allocations hlookup =>
    have hold := h key allocations hlookup
    split
    · exact ⟨h, by simp⟩
    next allocation hslot =>
      have hmem := List.mem_of_getElem? hslot
      split
      · exact ⟨h, by simp⟩
      · split
        · refine ⟨h.insert fun a ha p hp => ?_, by simp⟩
          rcases List.mem_or_eq_of_mem_set ha with ha | rfl
          · exact hold a ha p hp
          · exact hold allocation hmem p hp
        · refine ⟨h.insert fun a ha p hp => ?_, fun e he => ?_⟩
          · rcases List.mem_or_eq_of_mem_set ha with ha | rfl
            · exact hold a ha p hp
            · cases hp
          · obtain ⟨payload, hpayload, rfl⟩ := List.mem_map.1 he
            exact ⟨hold allocation hmem payload (by simpa using hpayload), rfl⟩

end Allocations.Known

end SomeipGateway
