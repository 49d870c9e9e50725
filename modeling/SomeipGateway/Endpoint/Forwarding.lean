import SomeipGateway.Endpoint.EventRecipients

/-! # Forwarding a published payload

The `send_event_update` callback takes any payload a local server publishes. It sends
the slot handle to the mapped clients and keeps the payload in the allocation table
at that index, without a look at the number of slots.
-/

namespace SomeipGateway

variable {ι : Type} [DecidableEq ι]

namespace Allocations

variable {table table' : Allocations ι} {key : Key} {payload : Payload ι} {consumerCount : Nat}
  {effects : List (Effect ι)}

omit [DecidableEq ι] in
/-- The access is inside the table unless the size for the resize wraps. -/
theorem insertAllocation_defined (table : Allocations ι) (key : Key)
    (h : consumerCount = 0 ∨ payload.slotHandle + 1 < 2 ^ 64) :
    ∃ table' effects,
      table.insertAllocation key payload consumerCount = some (table', effects) := by
  unfold insertAllocation
  split
  next => exact ⟨_, _, rfl⟩
  next hcount =>
    obtain ⟨allocation, hallocation⟩ := withSlot_defined table key (h.resolve_left hcount)
    simp only [hallocation]
    exact ⟨_, _, rfl⟩

omit [DecidableEq ι] in
/-- Where the access is inside the table, every other entry stays. -/
theorem entry_of_insertAllocation
    (h : table.insertAllocation key payload consumerCount = some (table', effects)) {key' : Key}
    {index : Nat} (hne : ¬ (key' = key ∧ index = payload.slotHandle)) :
    table'.entry key' index = table.entry key' index := by
  by_cases hcount : consumerCount = 0
  · simp only [insertAllocation, if_pos hcount] at h
    cases h
    rfl
  · rw [entry_insertAllocation h hcount, if_neg hne]

end Allocations

/-- The handle of a payload that is not in shared memory. -/
def kNoSlotHandle : Nat := 2 ^ 64 - 1

def emptyPayload : Payload ι := ⟨kNoSlotHandle, 0, none⟩

namespace Binding

/-- The callback returns, the other allocations are as before, and what is sent to a
mapped client is a slot of the pool that was announced to it. -/
def Forwards (env : Env ι) (b : Binding ι) (key : Key) (eventId : Nat) (payload : Payload ι) :
    Prop :=
  ∃ b' effects, b.sendEventUpdate env key eventId payload = some (b', effects) ∧
    (∀ key' index, ¬ (key' = key ∧ index = payload.slotHandle) →
      b'.allocations.entry key' index = b.allocations.entry key' index) ∧
    ∀ client ids handle ok, (client, ids) ∈ b.idMapping.forEachClient key →
      Effect.send client (some key) (.eventUpdate ids.remoteHandle eventId handle) ok ∈ effects →
      handle.slotIndex < ids.localMetadata.slotCount

/-- Each client that the payload is sent to was announced a pool with its slot. -/
def InAnnouncedPool (b : Binding ι) (key : Key) (payload : Payload ι) : Prop :=
  ∀ p ∈ b.idMapping.forEachClient key, p.1 ∈ b.connections →
    payload.slotHandle < p.2.localMetadata.slotCount

variable {env : Env ι} {b : Binding ι} {key : Key} {eventId : Nat} {payload : Payload ι}

variable (env eventId) in
/-- A payload with a recipient is in a pool, whose size is a 64-bit number. -/
theorem InAnnouncedPool.bound (h : b.InAnnouncedPool key payload)
    (hcounts : ∀ p ∈ b.idMapping.forEachClient key, p.2.localMetadata.slotCount < 2 ^ 64) :
    (b.eventUpdates env key eventId payload (b.idMapping.forEachClient key)).2 = 0 ∨
      payload.slotHandle + 1 < 2 ^ 64 := by
  rw [eventUpdates_snd]
  by_cases hzero : (b.idMapping.forEachClient key).countP (fun p =>
      p.1 ∈ b.connections && env.link p.1
        (.eventUpdate p.2.remoteHandle eventId ⟨payload.slotHandle, payload.size⟩)) = 0
  · exact .inl hzero
  · obtain ⟨p, hp, hreached⟩ := List.countP_pos_iff.1 (Nat.pos_of_ne_zero hzero)
    have hconnected : p.1 ∈ b.connections := by
      simp only [Bool.and_eq_true, decide_eq_true_eq] at hreached
      exact hreached.1
    have hslot := h p hp hconnected
    have hcount := hcounts p hp
    exact .inr (by omega)

/-- What is sent, is sent to a connected client. -/
theorem connected_of_send_mem {client : ι} {ids : Ids} {handle : SharedMemoryHandle} {ok : Bool}
    {clients : List (ι × Ids)}
    (h : Effect.send client (some key) (.eventUpdate ids.remoteHandle eventId handle) ok ∈
      (b.eventUpdates env key eventId payload clients).1) :
    client ∈ b.connections ∧ handle = ⟨payload.slotHandle, payload.size⟩ := by
  obtain ⟨c, i, -, hconnected, heq⟩ | heq := mem_eventUpdates h
  · obtain ⟨rfl, -, hmsg, -⟩ := Effect.send.inj heq
    exact ⟨hconnected, (Message.eventUpdate.inj hmsg).2.2⟩
  · cases heq

/-- Forwarding a payload is safe exactly when its slot is in the pool announced to each
connected client with a mapping. -/
theorem forwards_iff (env : Env ι) (b : Binding ι) (key : Key) (eventId : Nat)
    (payload : Payload ι)
    (hcounts : ∀ p ∈ b.idMapping.forEachClient key, p.2.localMetadata.slotCount < 2 ^ 64) :
    b.Forwards env key eventId payload ↔ b.InAnnouncedPool key payload := by
  constructor
  · rintro ⟨b', effects, hsend, -, hsent⟩ ⟨client, ids⟩ hmem hconnected
    obtain ⟨allocations, more, -, -, rfl⟩ := sendEventUpdate_eq_some.1 hsend
    exact hsent client ids _ _ hmem
      (List.mem_append_left more (send_mem_eventUpdates hmem hconnected))
  · intro hpool
    obtain ⟨allocations, more, hinsert⟩ := Allocations.insertAllocation_defined b.allocations key
      (hpool.bound env eventId hcounts)
    refine ⟨_, _, sendEventUpdate_eq_some.2 ⟨allocations, more, hinsert, rfl, rfl⟩,
      fun key' index hne => Allocations.entry_of_insertAllocation hinsert hne, ?_⟩
    intro client ids handle ok hmem hsent
    rcases List.mem_append.1 hsent with hupdate | hmore
    · obtain ⟨hconnected, rfl⟩ := connected_of_send_mem hupdate
      exact hpool (client, ids) hmem hconnected
    · obtain ⟨released, heq⟩ := Allocations.exists_of_mem_insertAllocation hinsert hmore
      cases heq

/-- A service with one mapped client, a pool of two slots, and an update of slot 0 that
the client has not consumed. -/
def publisher : Binding Nat :=
  let key : Key := ⟨⟨[1], 1, 0⟩, [1]⟩
  { connections := [0]
    idMapping := ({} : ConnectionMetadata Nat).addMapping 0
      ⟨key, 1, 7, ⟨[47, 97], 8, 2⟩, ⟨[47, 98], 8, 2⟩⟩
    allocations := (∅ : Allocations Nat).insert key [⟨some ⟨0, 8, none⟩, 1⟩] }

theorem forwards_slot_of_pool :
    publisher.Forwards ⟨fun _ _ => true, fun _ => none⟩ ⟨⟨[1], 1, 0⟩, [1]⟩ 0 ⟨1, 8, none⟩ :=
  (forwards_iff _ publisher _ 0 _ (by decide)).2 (by unfold InAnnouncedPool; decide)

/-- The handle of `empty_payload` makes the resize drop every allocation of the service
and the access go past the end; a handle above the pool is sent to the client. -/
theorem empty_payload_not_forwarded :
    let env : Env Nat := ⟨fun _ _ => true, fun _ => none⟩
    let key : Key := ⟨⟨[1], 1, 0⟩, [1]⟩
    publisher.allocations.withSlot key kNoSlotHandle = [] ∧
    publisher.sendEventUpdate env key 0 emptyPayload = none ∧
    ¬ publisher.Forwards env key 0 emptyPayload ∧
    (publisher.sendEventUpdate env key 0 ⟨5, 8, none⟩).map Prod.snd =
      some [.send 0 (some key) (.eventUpdate 7 0 ⟨5, 8⟩) true] := by
  intro env key
  have hnone : publisher.sendEventUpdate env key 0 emptyPayload = none := by decide
  refine ⟨by decide, hnone, ?_, by decide⟩
  rintro ⟨b', effects, hsend, -⟩
  rw [hnone] at hsend
  cases hsend

end Binding

end SomeipGateway
