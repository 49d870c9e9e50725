import SomeipGateway.Handshake.Availability
import SomeipGateway.Handshake.SingleMapping

/-! # A mapping is added where there is none

The handlers of Connect_service and of its reply add a mapping. In a run in which
no connect is out of date when it is handled, there is none for the peer and the
service before.
-/

namespace SomeipGateway

open Handshake

variable {ι : Type} [DecidableEq ι]

theorem sendsTo_send_of_ne {client target : ι} {about : Option Key} {msg : Message} {ok : Bool}
    {effects : List (Effect ι)} (hne : target ≠ client) :
    sendsTo client (.send target about msg ok :: effects) = sendsTo client effects := by
  cases ok <;> simp [sendsTo, hne]

theorem length_sendsTo_cons_le (client : ι) (e : Effect ι) (effects : List (Effect ι)) :
    (sendsTo client (e :: effects)).length ≤ (sendsTo client effects).length + 1 := by
  unfold sendsTo
  rw [List.filterMap_cons]
  split <;> simp

namespace Binding

variable {b : Binding ι} {env : Env ι} {key : Key} {eventId : Nat} {payload : Payload ι}
  {client : ι}

theorem sendsTo_eventUpdates_of_not_mem {clients : List (ι × Ids)}
    (hclient : client ∉ clients.map Prod.fst) :
    sendsTo client (b.eventUpdates env key eventId payload clients).1 = [] := by
  induction clients with
  | nil => rfl
  | cons first rest ih =>
      obtain ⟨c, ids⟩ := first
      rw [List.map_cons, List.mem_cons, not_or] at hclient
      simp only [eventUpdates]
      split
      · rw [Env.send, sendsTo_send_of_ne (Ne.symm hclient.1)]
        exact ih hclient.2
      · exact ih hclient.2

/-- An event is sent to a client once. -/
theorem length_sendsTo_eventUpdates {clients : List (ι × Ids)}
    (hnodup : (clients.map Prod.fst).Nodup) :
    (sendsTo client (b.eventUpdates env key eventId payload clients).1).length ≤ 1 := by
  induction clients with
  | nil => exact Nat.zero_le 1
  | cons first rest ih =>
      obtain ⟨c, ids⟩ := first
      rw [List.map_cons, List.nodup_cons] at hnodup
      simp only [eventUpdates]
      split
      · by_cases hc : c = client
        · subst hc
          have hrest : sendsTo c (b.eventUpdates env key eventId payload rest).1 = [] :=
            sendsTo_eventUpdates_of_not_mem hnodup.1
          refine (length_sendsTo_cons_le _ _ _).trans ?_
          rw [hrest]
          exact le_rfl
        · rw [Env.send, sendsTo_send_of_ne hc]
          exact ih hnodup.2
      · exact ih hnodup.2

end Binding

namespace Endpoint

/-- The service and the local handle of the mapping that the handler of a message
adds. -/
def newMapping (n : Endpoint ι) (client : ι) : Message → Option (Key × Nat)
  | .connectService key _ _ true => some (key, n.binding.nextLocalId)
  | .connectServiceReply requiredId providedId _ _ =>
      match n.binding.pendingConnects.lookup requiredId with
      | none => none
      | some pending =>
          if pending.client = client ∧ (n.binding.serviceStates.lookup pending.key).isSome then
            some (pending.key, providedId)
          else none
  | _ => none

/-- No mapping of the client for another service has the handle. -/
def handleFree (n : Endpoint ι) (client : ι) (key : Key) (localHandle : Nat) : Bool :=
  (n.binding.idMapping.idsOf client).all fun ids =>
    ids.key = key || ids.localHandle ≠ localHandle

variable {env : Env ι} {n n' : Endpoint ι} {client : ι} {key : Key} {msg : Message}
  {localHandle : Nat} {out : List (Effect ι)}

theorem not_mem_addMapping {b : Binding ι} {ids : Ids}
    (habsent : ∀ old ∈ b.idMapping.idsOf client, old.key ≠ ids.key ∧
      old.localHandle ≠ ids.localHandle) :
    (.assertFailed .mappingExists : Effect ι) ∉ (b.addMapping client ids).2 := by
  have hpresent : b.idMapping.isMappingPresent client ids = false := by
    simp only [ConnectionMetadata.isMappingPresent, List.any_eq_false]
    intro old hold
    simp [habsent old hold]
  simp [Binding.addMapping, hpresent]

/-- The assertion in front of `add_mapping` holds where the client has no mapping of
the service and no other one with the handle. -/
theorem not_mem_step_of_absent (hnew : n.newMapping client msg = some (key, localHandle))
    (habsent : ∀ ids ∈ n.binding.idMapping.idsOf client, ids.key ≠ key)
    (hfree : n.handleFree client key localHandle = true)
    (hstep : n.step env (.receive client msg) = some (n', out)) :
    (.assertFailed .mappingExists : Effect ι) ∉ out := by
  have hother : ∀ ids ∈ n.binding.idMapping.idsOf client,
      ids.key ≠ key ∧ ids.localHandle ≠ localHandle := by
    intro ids hids
    have hone := List.all_eq_true.1 hfree ids hids
    exact ⟨habsent ids hids, by simpa [habsent ids hids] using hone⟩
  obtain ⟨m, effects, hact, hperform⟩ := step_eq_some.1 hstep
  cases Handles.of_onReceiveMessage (act_receive_eq_some.1 hact).2 with
  | @connectService k _ _ inUse _ _ hb =>
      cases inUse with
      | false => cases hnew
      | true =>
          obtain ⟨rfl, rfl⟩ : k = key ∧ n.binding.nextLocalId = localHandle := by
            simpa [newMapping] using hnew
          obtain ⟨localMetadata, state, -, -, -, rfl⟩ :=
            Binding.handleConnectServiceMessage_true hb
          rw [perform_inert _ fun e he => ?_] at hperform
          · cases hperform
            simpa [Env.send] using not_mem_addMapping hother
          · rcases List.mem_append.1 he with he | he
            · exact Binding.isInert_of_mem_addMapping he
            · rw [List.mem_singleton.1 he]
              rfl
  | @connectServiceReply _ l _ _ _ _ _ hb =>
      obtain ⟨-, rfl, rfl, rfl⟩ | ⟨k, hpending, ⟨-, rfl, rfl, rfl⟩ |
          ⟨state, localMetadata, hstate, -, rfl, rfl, rfl⟩⟩ :=
        Binding.handleConnectServiceReplyMessage_cases hb
      · rw [perform_inert _ (by simp)] at hperform
        cases hperform
        simp
      · rw [perform_inert _ (by simp)] at hperform
        cases hperform
        simp
      · have hstate : n.binding.serviceStates.lookup k = some state := hstate
        obtain ⟨rfl, rfl⟩ : k = key ∧ l = localHandle := by
          simpa [newMapping, hpending, hstate] using hnew
        rw [perform_inert _ fun e he => Binding.isInert_of_mem_addMapping he] at hperform
        cases hperform
        exact not_mem_addMapping hother
  | connect | connectReply | request | offer | subscribe | eventUpdate
  | payloadConsumed => cases hnew

end Endpoint

namespace Network

open Endpoint (someKey)

variable {net net' : Network Bool} {key : Key} {x y : Bool} {packet : Packet}
  {rest : List Packet} {localHandle : Nat}

/-- No connect for the service is out of date when it is handled, in either
direction, and the handle of its mapping is not taken by another service. -/
def connectsOnce (key : Key) (net : Network Bool) (event : NetworkEvent Bool) : Bool :=
  event.staysConnected &&
    (net.link key true).connectsOnce (net.label key true event) &&
    (net.link key false).connectsOnce (net.label key false event) &&
    match event with
    | .deliver x y =>
        (net.channel x y).head?.all fun packet =>
          ((net.endpoint y).newMapping x packet.msg).all fun new =>
            new.1 ≠ key || (net.endpoint y).handleFree x new.1 new.2
    | _ => true

theorem linked_of_connectsOnce {metadata : Bool → Key → Option SharedMemoryMetadata}
    (h : Reach (next metadata) (fun net event => net.connectsOnce key event = true) pair net)
    (p : Bool) : net.Simulates key ∧ (net.link key p).Linked := by
  refine link_invariant (I := Link.Linked) .init (fun net event hok => ?_)
    (fun net event l' hok hI hstep => hI.step ?_ hstep) h
  · simp only [connectsOnce, Bool.and_eq_true] at hok
    exact hok.1.1.1
  · simp only [connectsOnce, Bool.and_eq_true] at hok
    cases p with
    | true => exact hok.1.1.2
    | false => exact hok.1.2

/-- The message that adds a mapping for the service is one of its handshake. -/
theorem toMsg_of_newMapping (h : net.Simulates key) (hchannel : net.channel x y = packet :: rest)
    (hnew : (net.endpoint y).newMapping x packet.msg = some (key, localHandle)) :
    (∃ r, packet.toMsg key = some (.connect r)) ∨
      ∃ r, packet.toMsg key = some (.reply r) ∧
        (net.endpoint y).binding.pendingConnects.lookup r = some ⟨key, x⟩ := by
  have hsent : packet ∈ net.sent x y := by simp [sent, hchannel]
  have hjustified := h.traced.justified hsent
  obtain ⟨about, msg⟩ := packet
  cases msg with
  | connectService k r metadata inUse =>
      obtain ⟨rfl, rfl⟩ := hjustified
      obtain ⟨rfl, -⟩ : k = key ∧ _ := by simpa [Endpoint.newMapping] using hnew
      exact .inl ⟨r, by simp [Packet.toMsg]⟩
  | connectServiceReply r l metadata counts =>
      simp only [Endpoint.newMapping] at hnew
      split at hnew
      · cases hnew
      next pending hpending =>
        split at hnew
        next hcond =>
          obtain ⟨k, c⟩ := pending
          obtain ⟨rfl, rfl⟩ : k = key ∧ c = x := by
            refine ⟨?_, hcond.1⟩
            simpa using congrArg (Option.map Prod.fst) hnew
          have habout := h.traced.about_reply hsent hpending
          exact .inr ⟨r, by simp [Packet.toMsg, habout], hpending⟩
        next => cases hnew
  | connect | connectReply | requestService | offerService | subscribeEvent | eventUpdate
  | payloadConsumed => cases hnew

/-- The peer has no mapping of the service when one is added. -/
theorem mapped_of_newMapping (h : net.Simulates key) (hlinked : (net.link key y).Linked)
    (hchannel : net.channel (!y) y = packet :: rest)
    (hnew : (net.endpoint y).newMapping (!y) packet.msg = some (key, localHandle)) :
    ∀ ids ∈ (net.endpoint y).binding.idMapping.idsOf (!y), ids.key ≠ key := by
  have hmapped : (net.link key y).provider.mapped = 0 := by
    obtain ⟨r, hmsg⟩ | ⟨r, -, hpending⟩ := toMsg_of_newMapping h hchannel hnew
    · have hup : (net.link key y).up = .connect r :: rest.filterMap (Packet.toMsg key) := by
        simp [link, hchannel, List.filterMap_cons_some hmsg]
      exact (hlinked.mapped_of_connect hup).2
    · have hmem : r ∈ (net.link key y).provider.pending :=
        Binding.mem_awaiting.2 (Binding.view_pending_eq_some.2 hpending)
      exact (hlinked.single.mapped_of_pending hlinked.sound.provider hmem).2
  have hnil := List.length_eq_zero_iff.1 hmapped
  intro ids hids hkey
  exact (List.filter_eq_nil_iff.1 hnil) ids hids (by simpa using hkey)

theorem mapping_absent (metadata : Bool → Key → Option SharedMemoryMetadata) (key : Key)
    (net net' : Network Bool) (x y : Bool) (packet : Packet) (rest : List Packet)
    (localHandle : Nat)
    (h : Reach (next metadata) (fun net event => net.connectsOnce key event = true) pair net)
    (hok : net.connectsOnce key (.deliver x y) = true)
    (hnext : net.next metadata (.deliver x y) = some net')
    (hchannel : net.channel x y = packet :: rest)
    (hnew : (net.endpoint y).newMapping x packet.msg = some (key, localHandle)) :
    (∀ ids ∈ (net.endpoint y).binding.idMapping.idsOf x, ids.key ≠ key) ∧
      (∀ n out, (net.endpoint y).step (env (metadata y)) (.receive x packet.msg) = some (n, out) →
        .assertFailed .mappingExists ∉ out) ∧
      ∀ env eventId payload, (sendsTo x ((net'.endpoint y).binding.eventUpdates env key eventId
        payload ((net'.endpoint y).binding.idMapping.forEachClient key)).1).length ≤ 1 := by
  obtain ⟨_, _, _, heq, -⟩ | ⟨_, _, _, _, _, heq, hne, -⟩ | ⟨_, _, heq⟩ := next_cases hnext
  · cases heq
  · cases heq
    obtain rfl : x = !y := by cases x <;> cases y <;> simp_all
    obtain ⟨hsim, hlinked⟩ := linked_of_connectsOnce h y
    have habsent := mapped_of_newMapping hsim hlinked hchannel hnew
    refine ⟨habsent, fun n out hstep => ?_, fun env eventId payload => ?_⟩
    · have hfree : (net.endpoint y).handleFree (!y) key localHandle = true := by
        simp only [connectsOnce, Bool.and_eq_true] at hok
        simpa [hchannel, hnew] using hok.2
      exact Endpoint.not_mem_step_of_absent hnew habsent hfree hstep
    · exact Binding.length_sendsTo_eventUpdates (ConnectionMetadata.nodup_forEachClient _ _)
  · cases heq

/-- The first connect for the service is about to be handled. -/
theorem mapping_absent_run :
    ∃ net : Network Bool, ∃ packet rest, net.channel false true = packet :: rest ∧
      (net.endpoint true).newMapping false packet.msg = some (someKey 1, 1) ∧
      ∀ ids ∈ (net.endpoint true).binding.idMapping.idsOf false, ids.key ≠ someKey 1 := by
  obtain ⟨net, hreach, hp⟩ := exists_reach_pair
    (fun net event => net.connectsOnce (someKey 1) event = true)
    [.act true (.enableServerConnector (someKey 1) ⟨0, 1⟩),
      .act false (.makeClientConnector (someKey 1) ⟨0, 1⟩), .deliver false true,
      .deliver true false]
    (fun net => net.connectsOnce (someKey 1) (.deliver false true) &&
      ((pairNext net (.deliver false true)).isSome &&
        match net.channel false true with
        | packet :: _ =>
            decide ((net.endpoint true).newMapping false packet.msg = some (someKey 1, 1))
        | [] => false)) (by decide +kernel)
  simp only [Bool.and_eq_true] at hp
  obtain ⟨hok, hsome, hp⟩ := hp
  obtain ⟨net', hnext⟩ := Option.isSome_iff_exists.1 hsome
  split at hp
  next packet rest hchannel =>
    have hnew := of_decide_eq_true hp
    exact ⟨net, packet, rest, hchannel, hnew,
      (mapping_absent _ (someKey 1) net net' false true packet rest 1 hreach hok hnext hchannel
        hnew).1⟩
  next => cases hp

/-- A connect is in flight while the provider withdraws the service and offers it
again. The requester connects a second time, and both connects are handled. -/
theorem mapping_added_twice :
    ∃ net net' : Network Bool, Reach pairNext (fun _ event => event.staysConnected = true) pair net ∧
      pairNext net (.deliver false true) = some net' ∧ ∃ packet rest localHandle,
        net.channel false true = packet :: rest ∧
        (net.endpoint true).newMapping false packet.msg = some (someKey 1, localHandle) ∧
        ∃ ids ∈ (net.endpoint true).binding.idMapping.idsOf false, ids.key = someKey 1 := by
  obtain ⟨net, hreach, hp⟩ := exists_reach_pair (fun _ event => event.staysConnected = true)
    [.act true (.enableServerConnector (someKey 1) ⟨0, 1⟩),
      .act false (.makeClientConnector (someKey 1) ⟨0, 1⟩), .deliver false true,
      .deliver true false, .act true (.disableServerConnector (someKey 1)),
      .act true (.enableServerConnector (someKey 1) ⟨0, 1⟩), .deliver true false,
      .deliver true false, .deliver false true]
    (fun net => (pairNext net (.deliver false true)).isSome &&
      match net.channel false true with
      | packet :: _ =>
          decide ((net.endpoint true).newMapping false packet.msg = some (someKey 1, 2)) &&
            ((net.endpoint true).binding.idMapping.idsOf false).any fun ids => ids.key = someKey 1
      | [] => false) (by decide +kernel)
  rw [Bool.and_eq_true] at hp
  obtain ⟨hsome, hp⟩ := hp
  obtain ⟨net', hnext⟩ := Option.isSome_iff_exists.1 hsome
  split at hp
  next packet rest hchannel =>
    rw [Bool.and_eq_true] at hp
    obtain ⟨ids, hids, hkey⟩ := List.any_eq_true.1 hp.2
    exact ⟨net, net', hreach, hnext, packet, rest, 2, hchannel, of_decide_eq_true hp.1, ids, hids,
      of_decide_eq_true hkey⟩
  next => cases hp

end Network

end SomeipGateway
