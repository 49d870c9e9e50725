import SomeipGateway.Endpoint.Sections

/-! # The pools of the peers

A peer describes its shared memory in the message that makes a mapping, and the
description is looked at when an event update arrives. What holds of every
description received holds of those stored.
-/

namespace SomeipGateway

def Message.isEventUpdate : Message → Bool
  | .eventUpdate _ _ _ => true
  | _ => false

variable {ι : Type} [DecidableEq ι] {P : SharedMemoryMetadata → Prop}

namespace Binding

/-- Every description of a peer's pool that the binding keeps satisfies `P`. -/
structure Pools (P : SharedMemoryMetadata → Prop) (b : Binding ι) : Prop where
  mapped : ∀ c, ∀ ids ∈ b.idMapping.idsOf c, P ids.remoteMetadata
  opened : ∀ path metadata, b.readOnlyManagers.lookup path = some metadata → P metadata

theorem mapped_rule (P : SharedMemoryMetadata → Prop) :
    MetadataRule (fun ids => P ids.remoteMetadata) fun m : ConnectionMetadata ι =>
      ∀ c, ∀ ids ∈ m.idsOf c, P ids.remoteMetadata where
  addMapping := by
    intro m client ids hP h c old hold
    rw [ConnectionMetadata.idsOf_addMapping] at hold
    split at hold
    · rcases List.mem_append.1 hold with hold | hold
      · exact h _ old hold
      · rw [List.mem_singleton.1 hold]
        exact hP
    · exact h c old hold
  removeIf := by
    intro m client p h c old hold
    rw [ConnectionMetadata.idsOf_removeIf] at hold
    split at hold
    · exact h _ old (List.mem_of_mem_filter hold)
    · exact h c old hold
  removeClient := by
    intro m client h c old hold
    rw [ConnectionMetadata.idsOf_removeClient] at hold
    split at hold
    · cases hold
    · exact h c old hold

variable {env : Env ι} {b b' : Binding ι} {key : Key} {effects : List (Effect ι)}

theorem readOnlyManagers_sendRequestService {counts : ServiceCounts} {inUse : Bool}
    (h : b.sendRequestService env key counts inUse = some (b', effects)) :
    b'.readOnlyManagers = b.readOnlyManagers := by
  cases hclient : b.serviceStates.hasClientConnector key with
  | true =>
      rw [sendRequestService_skipped hclient] at h
      cases h
      rfl
  | false =>
      cases inUse with
      | true =>
          obtain ⟨more, hmore, -⟩ := (sendRequestService_true hclient).1 h
          rw [(connects_of_maybeSendConnectServiceLocked hmore).frame]
      | false =>
          rw [sendRequestService_false hclient] at h
          cases h
          rfl

theorem readOnlyManagers_handleRequestServiceMessage {client : ι} {inUse : Bool}
    {result : ClientConnectorResult}
    (h : b.handleRequestServiceMessage env client key inUse result = some (b', effects)) :
    b'.readOnlyManagers = b.readOnlyManagers := by
  cases inUse with
  | false =>
      cases h
      rfl
  | true =>
      obtain ⟨-, rfl, -⟩ | ⟨-, -, rfl, -⟩ | ⟨-, -, hcreate⟩ := handleRequestServiceMessage_true h
      · rfl
      · rfl
      · exact (createClientConnector_frame hcreate).2.2.2

theorem readOnlyManagers_handleOfferServiceMessage {client : ι} {offered : Bool}
    (h : b.handleOfferServiceMessage env client key offered = some (b', effects)) :
    b'.readOnlyManagers = b.readOnlyManagers := by
  cases offered with
  | false =>
      cases h
      rfl
  | true =>
      rw [handleOfferServiceMessage_true] at h
      rw [(connects_of_maybeSendConnectServiceLocked h).frame]
      rfl

/-- Only an event update opens a pool. -/
theorem managers_rule (Q : ReadOnlyMemoryManagers → Prop) :
    SectionInvariant (fun _ msg => msg.isEventUpdate = false)
      (fun b : Binding ι => Q b.readOnlyManagers) where
  sendRequestService h hb := by rwa [readOnlyManagers_sendRequestService hb]
  serviceStateChange h hb := by
    obtain ⟨-, rfl, -⟩ := serviceStateChange_eq_some.1 hb
    exact h
  connectReply h hb := by
    rw [(resumed_of_handleConnectReplyMessage hb).frame]
    exact h
  requestService _ h hb := by rwa [readOnlyManagers_handleRequestServiceMessage hb]
  offerService _ h hb := by rwa [readOnlyManagers_handleOfferServiceMessage hb]
  connectService := by
    intro env b b' client key requiredId metadata inUse effects _ h hb
    cases inUse with
    | false =>
        cases hb
        exact h
    | true =>
        obtain ⟨_, _, -, -, rfl, -⟩ := handleConnectServiceMessage_true hb
        exact h
  connectServiceReply _ h hb := by
    obtain ⟨-, rfl, -⟩ | ⟨_, -, ⟨-, rfl, -⟩ | ⟨_, _, -, -, rfl, -⟩⟩ :=
      handleConnectServiceReplyMessage_cases hb
    · exact h
    · exact h
    · exact h
  subscribeEvent _ h := by
    rw [handleSubscribeEventMessage_frame]
    exact h
  eventUpdate hok := by cases hok
  addServerConnector h := h
  sendEventUpdate h hb := by
    rw [sendEventUpdate_frame hb]
    exact h
  payloadConsumed _ h := by
    rw [handlePayloadConsumedMessage_frame]
    exact h
  addClient h := h
  removeClient h := h

/-- A pool is opened with the description of the mapping that needs it. -/
theorem opened_handleEventUpdateMessage {client : ι} {requiredId eventId : Nat}
    {handle : SharedMemoryHandle} (hb : b.Pools P)
    (h : b.handleEventUpdateMessage client requiredId eventId handle = some (b', effects)) :
    ∀ path metadata, b'.readOnlyManagers.lookup path = some metadata → P metadata := by
  unfold handleEventUpdateMessage at h
  split at h
  · cases h
    exact hb.opened
  next ids hids =>
    have hpool : P ids.remoteMetadata := hb.mapped client ids (List.mem_of_find?_eq_some hids)
    split at h
    · cases h
    · split at h
      · cases h
        exact hb.opened
      · simp only at h
        split at h
        · cases h
        · cases h
          intro path metadata hlookup
          simp only [ReadOnlyMemoryManagers.getReadOnlySharedMemorySlotManager] at hlookup
          split at hlookup
          · exact hb.opened path metadata hlookup
          · simp only [Table.lookup_insert_ite] at hlookup
            split at hlookup
            · cases hlookup
              exact hpool
            · exact hb.opened path metadata hlookup

theorem pools_rule (P : SharedMemoryMetadata → Prop) :
    SectionInvariant (fun _ msg => msg.maps fun ids => P ids.remoteMetadata)
      (Pools (ι := ι) P) :=
  have hmapped := (mapped_rule (ι := ι) P).invariant
  have hopened := managers_rule (ι := ι) fun managers =>
    ∀ path metadata, managers.lookup path = some metadata → P metadata
  { sendRequestService := fun h hb =>
      ⟨hmapped.sendRequestService h.mapped hb, hopened.sendRequestService h.opened hb⟩
    serviceStateChange := fun h hb =>
      ⟨hmapped.serviceStateChange h.mapped hb, hopened.serviceStateChange h.opened hb⟩
    connectReply := fun h hb =>
      ⟨hmapped.connectReply h.mapped hb, hopened.connectReply h.opened hb⟩
    requestService := fun hok h hb =>
      ⟨hmapped.requestService hok h.mapped hb, hopened.requestService rfl h.opened hb⟩
    offerService := fun hok h hb =>
      ⟨hmapped.offerService hok h.mapped hb, hopened.offerService rfl h.opened hb⟩
    connectService := fun hok h hb =>
      ⟨hmapped.connectService hok h.mapped hb, hopened.connectService rfl h.opened hb⟩
    connectServiceReply := fun hok h hb =>
      ⟨hmapped.connectServiceReply hok h.mapped hb, hopened.connectServiceReply rfl h.opened hb⟩
    subscribeEvent := fun hok h =>
      ⟨hmapped.subscribeEvent hok h.mapped, hopened.subscribeEvent rfl h.opened⟩
    eventUpdate := fun hok h hb =>
      ⟨hmapped.eventUpdate hok h.mapped hb, opened_handleEventUpdateMessage h hb⟩
    addServerConnector := fun h => ⟨h.mapped, h.opened⟩
    sendEventUpdate := fun h hb =>
      ⟨hmapped.sendEventUpdate h.mapped hb, hopened.sendEventUpdate h.opened hb⟩
    payloadConsumed := fun hok h =>
      ⟨hmapped.payloadConsumed hok h.mapped, hopened.payloadConsumed rfl h.opened⟩
    addClient := fun h => ⟨h.mapped, h.opened⟩
    removeClient := fun h => ⟨hmapped.removeClient h.mapped, h.opened⟩ }

theorem pools_init (P : SharedMemoryMetadata → Prop) : Pools P ({} : Binding ι) :=
  ⟨by simp, by simp⟩

/-- The pool that an event update reads from, as it was opened first. -/
def pool (b : Binding ι) (ids : Ids) : SharedMemoryMetadata :=
  (b.readOnlyManagers.getReadOnlySharedMemorySlotManager ids.remoteMetadata).1

theorem Pools.pool (h : b.Pools P) {client : ι} {requiredId : Nat} {ids : Ids}
    (hids : b.idMapping.getByRemoteHandle client requiredId = some ids) : P (b.pool ids) := by
  simp only [Binding.pool, ReadOnlyMemoryManagers.getReadOnlySharedMemorySlotManager]
  split
  next opened hopened => exact h.opened _ opened hopened
  next => exact h.mapped client ids (List.mem_of_find?_eq_some hids)

end Binding

end SomeipGateway
