import SomeipGateway.Endpoint.Sections

/-! # Endpoints joined by in-order channels

Every ordered pair of distinct endpoints has a first-in first-out channel. A step is a
local step of one endpoint, the delivery of the oldest message of a channel, or
the loss of a connection, which empties both channels. No send fails. The
history of delivered messages is kept beside the channels; no step reads it.
-/

namespace SomeipGateway

structure Packet where
  about : Option Key
  msg : Message
deriving DecidableEq, Repr

structure Network (ι : Type) where
  endpoint : ι → Endpoint ι
  channel : ι → ι → List Packet
  delivered : ι → ι → List Packet

inductive NetworkEvent (ι : Type) where
  | act (at_ : ι) (event : Event ι)
  | deliver (source target : ι)
  | disconnect (x y : ι)
deriving DecidableEq, Repr

/-- The steps of an endpoint that no peer takes part in. -/
def Event.isLocal {ι : Type} : Event ι → Bool
  | .addClient _ | .removeClient _ | .receive _ _ => false
  | _ => true

def NetworkEvent.staysConnected {ι : Type} : NetworkEvent ι → Bool
  | .disconnect _ _ => false
  | _ => true

/-- The endpoints name the service in no other minor version; their messages then do not. -/
def NetworkEvent.keepsVersion {ι : Type} (key : Key) : NetworkEvent ι → Bool
  | .act _ event => event.keepsVersion key
  | _ => true

variable {ι : Type} [DecidableEq ι]

/-- The messages among the effects that are on their way to `client`. -/
def sendsTo (client : ι) (effects : List (Effect ι)) : List Packet :=
  effects.filterMap fun
    | .send target about msg true => if target = client then some ⟨about, msg⟩ else none
    | _ => none

theorem mem_sendsTo {client : ι} {effects : List (Effect ι)} {packet : Packet} :
    packet ∈ sendsTo client effects ↔ .send client packet.about packet.msg true ∈ effects := by
  obtain ⟨about, msg⟩ := packet
  simp only [sendsTo, List.mem_filterMap]
  constructor
  · rintro ⟨e, he, heq⟩
    split at heq
    · split at heq
      next hclient =>
        cases heq
        exact hclient ▸ he
      next => cases heq
    · cases heq
  · intro he
    exact ⟨_, he, by simp⟩

@[simp] theorem sendsTo_append (client : ι) (es fs : List (Effect ι)) :
    sendsTo client (es ++ fs) = sendsTo client es ++ sendsTo client fs :=
  List.filterMap_append

namespace Network

/-- All messages handed to a channel so far. -/
def sent (net : Network ι) (x y : ι) : List Packet :=
  net.delivered x y ++ net.channel x y

def env (metadata : Key → Option SharedMemoryMetadata) : Env ι :=
  ⟨fun _ _ => true, metadata⟩

omit [DecidableEq ι] in
theorem env_link (metadata : Key → Option SharedMemoryMetadata) (x : ι) (msg : Message) :
    (Network.env metadata : Env ι).link x msg = true := rfl

/-- Store the outcome of a step of `x`, and put its messages on their channels. -/
def update (net : Network ι) (x : ι) (r : Endpoint ι × List (Effect ι)) : Network ι :=
  { net with
    endpoint := Function.update net.endpoint x r.1
    channel := Function.update net.channel x fun y => net.channel x y ++ sendsTo y r.2 }

/-- Take the oldest message off a channel. -/
def take (net : Network ι) (x y : ι) (packet : Packet) (rest : List Packet) : Network ι :=
  { net with
    channel := Function.update net.channel x (Function.update (net.channel x) y rest)
    delivered :=
      Function.update net.delivered x
        (Function.update (net.delivered x) y (net.delivered x y ++ [packet])) }

def clear (net : Network ι) (x y : ι) : Network ι :=
  { net with channel := Function.update net.channel x (Function.update (net.channel x) y []) }

def next (metadata : ι → Key → Option SharedMemoryMetadata) (net : Network ι) :
    NetworkEvent ι → Option (Network ι)
  | .act x event =>
      if event.isLocal then
        ((net.endpoint x).step (env (metadata x)) event).map (net.update x)
      else none
  | .deliver x y =>
      match net.channel x y with
      | [] => none
      | packet :: rest =>
          if x = y then none
          else ((net.endpoint y).step (env (metadata y)) (.receive x packet.msg)).map
            ((net.take x y packet rest).update y)
  | .disconnect x y => do
      let r ← (net.endpoint x).step (env (metadata x)) (.removeClient y)
      let net := ((net.clear x y).clear y x).update x r
      let r ← (net.endpoint y).step (env (metadata y)) (.removeClient x)
      some (net.update y r)

variable (net : Network ι) (x y z w : ι) (r : Endpoint ι × List (Effect ι)) (packet : Packet)
  (rest : List Packet)

@[simp] theorem endpoint_update :
    (net.update x r).endpoint z = if z = x then r.1 else net.endpoint z := by
  simp [update, Function.update_apply]

@[simp] theorem channel_update :
    (net.update x r).channel z w =
      net.channel z w ++ if z = x then sendsTo w r.2 else [] := by
  by_cases hz : z = x
  · subst hz
    simp [update]
  · simp [update, hz]

@[simp] theorem delivered_update : (net.update x r).delivered z w = net.delivered z w :=
  rfl

@[simp] theorem endpoint_take : (net.take x y packet rest).endpoint z = net.endpoint z := rfl

@[simp] theorem channel_take :
    (net.take x y packet rest).channel z w =
      if z = x ∧ w = y then rest else net.channel z w := by
  by_cases hz : z = x
  · subst hz
    by_cases hw : w = y <;> simp [take, hw]
  · simp [take, hz]

@[simp] theorem endpoint_clear : (net.clear x y).endpoint z = net.endpoint z := rfl

@[simp] theorem channel_clear :
    (net.clear x y).channel z w = if z = x ∧ w = y then [] else net.channel z w := by
  by_cases hz : z = x
  · subst hz
    by_cases hw : w = y <;> simp [clear, hw]
  · simp [clear, hz]

@[simp] theorem delivered_take :
    (net.take x y packet rest).delivered z w =
      net.delivered z w ++ if z = x ∧ w = y then [packet] else [] := by
  by_cases hz : z = x
  · subst hz
    by_cases hw : w = y
    · subst hw
      simp [take]
    · simp [take, hw]
  · simp [take, hz]

@[simp] theorem sent_update :
    (net.update x r).sent z w = net.sent z w ++ if z = x then sendsTo w r.2 else [] := by
  simp [sent]

variable {net x y z w packet rest}

/-- The outcomes of two endpoints are stored in either order. -/
theorem update_comm {r' : Endpoint ι × List (Effect ι)} (hne : x ≠ y) :
    (net.update x r).update y r' = (net.update y r').update x r := by
  simp only [update, Network.mk.injEq, and_true]
  refine ⟨Function.update_comm hne _ _ _, ?_⟩
  rw [Function.update_of_ne hne.symm, Function.update_of_ne hne]
  exact Function.update_comm hne _ _ _

theorem sent_take (hchannel : net.channel x y = packet :: rest) :
    (net.take x y packet rest).sent z w = net.sent z w := by
  by_cases h : z = x ∧ w = y
  · obtain ⟨rfl, rfl⟩ := h
    simp [sent, hchannel]
  · simp [sent, h]

/-- The outcomes of a step of the network. -/
theorem next_cases {metadata : ι → Key → Option SharedMemoryMetadata} {event : NetworkEvent ι}
    {net' : Network ι} (h : net.next metadata event = some net') :
    (∃ x e r, event = .act x e ∧ e.isLocal = true ∧
      (net.endpoint x).step (env (metadata x)) e = some r ∧ net' = net.update x r) ∨
    (∃ x y packet rest r, event = .deliver x y ∧ x ≠ y ∧ net.channel x y = packet :: rest ∧
      (net.endpoint y).step (env (metadata y)) (.receive x packet.msg) = some r ∧
      net' = (net.take x y packet rest).update y r) ∨
    ∃ x y, event = .disconnect x y := by
  cases event with
  | act x e =>
      simp only [next] at h
      split at h
      next hlocal =>
        obtain ⟨r, hr, rfl⟩ := Option.map_eq_some_iff.1 h
        exact .inl ⟨x, e, r, rfl, hlocal, hr, rfl⟩
      next => cases h
  | deliver x y =>
      simp only [next] at h
      split at h
      · cases h
      next packet rest hchannel =>
        split at h
        · cases h
        next hne =>
          obtain ⟨r, hr, rfl⟩ := Option.map_eq_some_iff.1 h
          exact .inr (.inl ⟨x, y, packet, rest, r, rfl, hne, hchannel, hr, rfl⟩)
  | disconnect x y => exact .inr (.inr ⟨x, y, rfl⟩)

/-- What every critical section keeps, every endpoint of the network keeps. -/
theorem binding_next {metadata : ι → Key → Option SharedMemoryMetadata} {event : NetworkEvent ι}
    {net' : Network ι} {I : Binding ι → Prop} (hI : SectionInvariant (fun _ _ => True) I)
    (h : ∀ x, I (net.endpoint x).binding) (hnext : net.next metadata event = some net') :
    ∀ x, I (net'.endpoint x).binding := by
  have hupdate : ∀ (net : Network ι) {x e r}, (∀ x, I (net.endpoint x).binding) →
      (net.endpoint x).step (env (metadata x)) e = some r →
      ∀ z, I ((net.update x r).endpoint z).binding := by
    intro net x e r h hstep z
    rw [endpoint_update]
    split
    · exact hI.step (e.isFrom_true) (h x) hstep
    · exact h z
  obtain ⟨x, e, r, -, -, hstep, rfl⟩ | ⟨x, y, packet, rest, r, -, -, -, hstep, rfl⟩ |
      ⟨x, y, rfl⟩ := next_cases hnext
  · exact hupdate net h hstep
  · exact hupdate (net.take x y packet rest) h hstep
  · simp only [next, Option.bind_eq_bind, Option.bind_eq_some_iff, Option.some.injEq] at hnext
    obtain ⟨r, hr, r', hr', rfl⟩ := hnext
    exact hupdate _ (hupdate ((net.clear x y).clear y x) h hr) hr'

/-- The endpoints right after each has connected to its peers. -/
def joined (peers : ι → List ι) : Network ι where
  endpoint x := { binding := { connections := peers x } }
  channel _ _ := []
  delivered _ _ := []

/-- No message is in flight. -/
def Quiet (net : Network ι) : Prop :=
  ∀ x y, net.channel x y = []

/-! ## Concrete runs of two endpoints -/

def pairNext : Network Bool → NetworkEvent Bool → Option (Network Bool) :=
  next fun _ _ => some Endpoint.someMetadata

/-- Two endpoints that are connected to each other. -/
def pair : Network Bool :=
  joined fun x => [!x]

/-- No message is in flight between the two endpoints. -/
def isQuiet (net : Network Bool) : Bool :=
  [true, false].all fun x => [true, false].all fun y => (net.channel x y).isEmpty

theorem quiet_iff {net : Network Bool} : net.isQuiet = true ↔ net.Quiet := by
  simp [isQuiet, Quiet, and_comm]

theorem exists_reach_pair (ok : Network Bool → NetworkEvent Bool → Prop)
    [∀ net event, Decidable (ok net event)] (events : List (NetworkEvent Bool))
    (p : Network Bool → Bool) (h : (runFrom pairNext ok pair events).any p = true) :
    ∃ net, Reach pairNext ok pair net ∧ p net = true :=
  exists_reach_of_runFrom pairNext ok pair events p h

end Network

end SomeipGateway
