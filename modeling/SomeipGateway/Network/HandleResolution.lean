import SomeipGateway.Network.Traced

/-! # Handles resolve to the service they were sent for

A mapping is found by a handle that one of the two peers handed out. As long as
no handle is in use in both directions for different services, the mapping found
for a message is the one of the service the message was sent for.
-/

namespace SomeipGateway

variable {ι : Type} [DecidableEq ι]

/-- The packets hand out one handle for two services. -/
def Packet.clashes (p q : Packet) : Bool :=
  match p.msg, q.msg with
  | .connectService key r _ _, .connectService key' r' _ _ => r = r' && key ≠ key'
  | .connectServiceReply _ l _ _, .connectServiceReply _ l' _ _ => l = l' && p.about ≠ q.about
  | _, _ => false

namespace Network

open Endpoint (someKey)

/-- No connection is lost, and a handshake message that is delivered clashes with
none that was delivered in the other direction. -/
def keepsHandlesApart (net : Network ι) : NetworkEvent ι → Bool
  | .act _ _ => true
  | .deliver x y =>
      (net.channel x y).head?.all fun p => (net.delivered y x).all fun q => !p.clashes q
  | .disconnect _ _ => false

/-- A handle that was delivered in both directions between two endpoints stands
for one service. -/
structure HandlesApart (net : Network ι) : Prop where
  connect : ∀ x y key key' r, ConnectReceived (net.received y) x key r →
    ConnectReceived (net.received x) y key' r → key = key'
  reply : ∀ x y key key' r r' l, ReplyReceived (net.received y) x key r l →
    ReplyReceived (net.received x) y key' r' l → key = key'

variable {net net' : Network ι} {x y z : ι} {packet : Packet} {rest : List Packet}

/-- A packet without a clash in the other direction keeps the handles apart. -/
theorem HandlesApart.take (h : net.HandlesApart) (rest : List Packet) (hne : x ≠ y)
    (hok : ∀ q ∈ net.delivered y x, packet.clashes q = false) :
    (net.take x y packet rest).HandlesApart := by
  constructor
  case connect =>
    rintro z w key key' r ⟨m, hm⟩ ⟨m', hm'⟩
    rcases mem_received_take hm with hold | ⟨rfl, rfl, rfl⟩
    · rcases mem_received_take hm' with hold' | ⟨rfl, rfl, rfl⟩
      · exact h.connect z w key key' r ⟨m, hold⟩ ⟨m', hold'⟩
      · have hclash : key' = key := by simpa [Packet.clashes] using hok _ hold
        exact hclash.symm
    · rcases mem_received_take hm' with hold' | ⟨rfl, -, -⟩
      · simpa [Packet.clashes] using hok _ hold'
      · exact absurd rfl hne
  case reply =>
    rintro z w key key' r r' l ⟨m, c, hm⟩ ⟨m', c', hm'⟩
    rcases mem_received_take hm with hold | ⟨rfl, rfl, rfl⟩
    · rcases mem_received_take hm' with hold' | ⟨rfl, rfl, rfl⟩
      · exact h.reply z w key key' r r' l ⟨m, c, hold⟩ ⟨m', c', hold'⟩
      · have hclash : key' = key := by simpa [Packet.clashes] using hok _ hold
        exact hclash.symm
    · rcases mem_received_take hm' with hold' | ⟨rfl, -, -⟩
      · simpa [Packet.clashes] using hok _ hold'
      · exact absurd rfl hne

omit [DecidableEq ι] in
theorem HandlesApart.joined (peers : ι → List ι) : (Network.joined peers).HandlesApart := by
  constructor
  case connect =>
    rintro x y key key' r ⟨metadata, hm⟩
    cases hm
  case reply =>
    rintro x y key key' r r' l ⟨metadata, counts, hm⟩
    cases hm

/-! ## The mapping that is found -/

/-- A mapping that the receiver finds for the message is one of the service the
message was sent for. -/
def Resolves (net : Network ι) (x y : ι) (packet : Packet) : Prop :=
  match packet.msg with
  | .eventUpdate r _ _ | .payloadConsumed r _ =>
      ∀ ids, (net.endpoint y).binding.idMapping.getByRemoteHandle x r = some ids →
        packet.about = some ids.key
  | .subscribeEvent l _ _ =>
      ∀ ids, (net.endpoint y).binding.idMapping.getByLocalHandle x l = some ids →
        packet.about = some ids.key
  | _ => True

/-- A remote handle goes back to a connect in one of the two directions. -/
theorem Traced.known_cases (h : net.Traced) {key : Key} {r : Nat}
    (hknown : Known (net.received x) y key r) :
    ConnectReceived (net.received x) y key r ∨ ConnectReceived (net.received y) x key r := by
  rcases hknown with hconnect | ⟨l, metadata, counts, hreply⟩
  · exact .inl hconnect
  · obtain ⟨key', heq, hconnect⟩ := h.justified (x := y) (y := x) (List.mem_append_left _ hreply)
    cases heq
    exact .inr hconnect

theorem Traced.connect_unique (h : net.Traced) {key key' : Key} {r : Nat}
    (hconnect : ConnectReceived (net.received y) x key r)
    (hconnect' : ConnectReceived (net.received y) x key' r) : key = key' :=
  (h x).binding.history.connect_unique y y key key' r (connectSent_of_received hconnect)
    (connectSent_of_received hconnect')

theorem Traced.resolves_remote (h : net.Traced) (hapart : net.HandlesApart) {key : Key} {r : Nat} {ids : Ids}
    (hknown : Known (net.received x) y key r)
    (hids : (net.endpoint y).binding.idMapping.getByRemoteHandle x r = some ids) :
    key = ids.key := by
  have hr : ids.remoteHandle = r := by simpa using List.find?_some hids
  have hfound := (h y).binding.known_of_mem (List.mem_of_find?_eq_some hids)
  rw [hr] at hfound
  rcases h.known_cases hknown with hmsg | hmsg
  · rcases h.known_cases hfound with hmapping | hmapping
    · exact hapart.connect y x key ids.key r hmsg hmapping
    · exact h.connect_unique hmsg hmapping
  · rcases h.known_cases hfound with hmapping | hmapping
    · exact h.connect_unique hmsg hmapping
    · exact hapart.connect x y key ids.key r hmsg hmapping

theorem Traced.resolves_local (h : net.Traced) (hapart : net.HandlesApart) {key : Key} {r l : Nat} {ids : Ids}
    (hreply : ReplyReceived (net.received x) y key r l)
    (hids : (net.endpoint y).binding.idMapping.getByLocalHandle x l = some ids) :
    key = ids.key := by
  have hl : ids.localHandle = l := by simpa using List.find?_some hids
  have hmem : ids ∈ ((net.endpoint y).binding.view ids.key).ids x :=
    List.mem_filter.2 ⟨List.mem_of_find?_eq_some hids, by simp⟩
  rcases ((h y).binding.view ids.key).ids x ids hmem with hmapping | ⟨-, hmapping⟩
  · rw [hl] at hmapping
    exact hapart.reply y x key ids.key r ids.remoteHandle l hreply hmapping
  · rw [hl] at hmapping
    exact (h y).binding.history.reply_unique x x key ids.key r ids.remoteHandle l
      (replySent_of_received hreply) hmapping

theorem Traced.resolves (h : net.Traced) (hapart : net.HandlesApart) (hpacket : packet ∈ net.sent x y) :
    net.Resolves x y packet := by
  have hjustified := h.justified hpacket
  obtain ⟨about, msg⟩ := packet
  cases msg with
  | connect | connectReply | requestService | offerService | connectService
  | connectServiceReply => trivial
  | subscribeEvent l eventId subscribe =>
      intro ids hids
      obtain ⟨key, r, rfl, hreply⟩ := hjustified
      exact congrArg some (h.resolves_local hapart hreply hids)
  | eventUpdate r eventId handle =>
      intro ids hids
      obtain ⟨key, rfl, hknown⟩ := hjustified
      exact congrArg some (h.resolves_remote hapart hknown hids)
  | payloadConsumed r handle =>
      intro ids hids
      obtain ⟨key, rfl, hknown⟩ := hjustified
      exact congrArg some (h.resolves_remote hapart hknown hids)

end Network

end SomeipGateway
