import SomeipGateway.Daemon.EventPath

/-! # The bytes of an event

What the daemons write, where they write it and what arrives at the other end:
writes stay in the slot when the message fits it, an update is forwarded without
its header when its context exists and the header is there, and the bytes survive
the way through both daemons.
-/

namespace SomeipGateway

namespace Daemon

/-! ## Writes of someipd -/

/-- `allocate_event_payload` of the server connector: without a subscriber the call
does not reach the binding. -/
def allocateEventPayload (subscribed : Bool) (σ : SlotManager) : Option WritablePayload :=
  if subscribed then (eventPayloadAllocate σ).map Prod.fst else none

/-- A payload is the whole of a free slot. -/
theorem exists_slot_of_allocateEventPayload {subscribed : Bool} {σ : SlotManager}
    {payload : WritablePayload} (h : allocateEventPayload subscribed σ = some payload) :
    ∃ slot < σ.slotCount, payload = ⟨⟨slotOffset σ.slotSize slot, σ.slotSize⟩, slot⟩ := by
  unfold allocateEventPayload at h
  split at h
  next =>
    obtain ⟨⟨allocated, σ'⟩, hallocate, rfl⟩ := Option.map_eq_some_iff.1 h
    simp only [eventPayloadAllocate, Option.bind_eq_bind, Option.bind_eq_some_iff] at hallocate
    obtain ⟨⟨slot, σ''⟩, hslot, payload, hpayload, hresult⟩ := hallocate
    cases hresult
    rw [makeSharedMemoryWritablePayload, SlotManager.getMemory_of_allocateSlot hslot] at hpayload
    cases hpayload
    exact ⟨slot, (SlotManager.allocateSlot_eq_some hslot).1, rfl⟩
  next => cases h

/-- Nothing is handed out without a subscriber, or when every slot is in use. -/
theorem allocateEventPayload_eq_none {subscribed : Bool} {σ : SlotManager} :
    allocateEventPayload subscribed σ = none ↔
      subscribed = false ∨ ∀ slot < σ.slotCount, σ.referenceCount slot ≠ 0 := by
  cases subscribed with
  | false => simp [allocateEventPayload]
  | true =>
      rw [← SlotManager.allocateSlot_eq_none]
      cases hslot : σ.allocateSlot with
      | none => simp [allocateEventPayload, eventPayloadAllocate, hslot]
      | some result =>
          have hmemory := SlotManager.getMemory_of_allocateSlot hslot
          simp [allocateEventPayload, eventPayloadAllocate, hslot, makeSharedMemoryWritablePayload,
            hmemory]

/-- The handler wrote only inside the span of `wdata()` and published a payload of
the given size. -/
def Handled.staysInside (handled : Handled) (slot : Span) (size : Nat) : Prop :=
  (∀ segment ∈ handled.writes, segment.index + segment.bytes.length ≤ slot.size) ∧
    ∃ payload, handled.published = some payload ∧ payload.data.size = size

theorem handleMessage_staysInside_iff (payload : WritablePayload) (vsomeipEventId : UInt16)
    (msg : SomeipMessage) :
    (handleMessage (some payload) vsomeipEventId msg).staysInside payload.data
        (kSomeipFullHeaderSize + msg.payload.length) ↔
      kSomeipFullHeaderSize + msg.payload.length ≤ payload.data.size := by
  refine ⟨fun h => ?_, fun h => ⟨?_, _, rfl, ?_⟩⟩
  · exact h.1 ⟨kSomeipFullHeaderSize, msg.payload⟩ (by simp [handleMessage])
  · intro segment hsegment
    simp only [handleMessage, List.mem_cons, List.not_mem_nil, or_false] at hsegment
    rcases hsegment with rfl | rfl
    · rw [SomeipMessage.length_header]
      exact Nat.le_trans (Nat.le_add_right _ _) h
    · exact h
  · rw [payload.shrink_of_le h]

/-- For every message, event and slot manager, the handler drops the message or
stays inside the slot if and only if no slot is handed out or the message and its
header fit a slot. -/
theorem message_dropped_or_inside_iff (subscribed : Bool) (σ : SlotManager)
    (vsomeipEventId : UInt16) (msg : SomeipMessage) :
    (handleMessage (allocateEventPayload subscribed σ) vsomeipEventId msg = {} ∨
      ∃ payload, allocateEventPayload subscribed σ = some payload ∧
        (handleMessage (allocateEventPayload subscribed σ) vsomeipEventId msg).staysInside
          payload.data (kSomeipFullHeaderSize + msg.payload.length)) ↔
      (subscribed = false ∨ ∀ slot < σ.slotCount, σ.referenceCount slot ≠ 0) ∨
        kSomeipFullHeaderSize + msg.payload.length ≤ σ.slotSize := by
  rw [← allocateEventPayload_eq_none]
  cases hallocated : allocateEventPayload subscribed σ with
  | none => simp [handleMessage]
  | some payload =>
      obtain ⟨slot, -, rfl⟩ := exists_slot_of_allocateEventPayload hallocated
      have hnotEmpty : ∀ p, handleMessage (some p) vsomeipEventId msg ≠ {} := by
        simp [handleMessage]
      simp only [hnotEmpty, false_or, Option.some.injEq, exists_eq_left', reduceCtorEq]
      exact handleMessage_staysInside_iff _ vsomeipEventId msg

/-- A message of one byte in a slot of one byte. -/
theorem message_written_past_slot :
    let σ : SlotManager := { slotSize := 1, slotCount := 1 }
    let msg : SomeipMessage := ⟨1, 0, 0, 1, 1, 2, 0, [7]⟩
    ∃ payload, allocateEventPayload true σ = some payload ∧
      (∃ segment ∈ (handleMessage (some payload) 1 msg).writes,
        payload.data.size < segment.index + segment.bytes.length) ∧
      (handleMessage (some payload) 1 msg).published = some payload := by
  exact ⟨⟨⟨0, 1⟩, 0⟩, rfl, ⟨⟨16, [7]⟩, by decide, by decide⟩, by decide⟩

/-! ## Forwarding -/

theorem subspan_of_le {span : Span} {offset : Nat} (h : offset ≤ span.size) :
    span.subspan offset = some ⟨span.offset + offset, span.size - offset⟩ := by
  rw [Span.subspan, if_pos h]

theorem subspan_eq_none {span : Span} {offset : Nat} :
    span.subspan offset = none ↔ span.size < offset := by
  simp [Span.subspan]

/-- The event of an index is one that gets a context. -/
def hasContext (skeleton : Bytes → Bool) (serializer : Serializers) (t : ServiceType)
    (event : EventConfig) : Prop :=
  skeleton event.eventName = true ∧ (serializer t.serviceTypeName event.eventName).isSome = true

/-- The loop inserts a context for exactly the ids of the events that have both a
skeleton event and a serializer; ids count modulo 2^16. -/
theorem lookup_insertContexts_isSome {skeleton : Bytes → Bool} {serializer : Serializers}
    {t : ServiceType} {id : Nat} {events : List EventConfig} {contexts : Table Nat EventConfig}
    (hid : id < 2 ^ 16) (e : Nat) :
    ((insertContexts skeleton serializer t id events contexts).lookup e).isSome = true ↔
      (contexts.lookup e).isSome = true ∨
        ∃ i event, events[i]? = some event ∧ (id + i) % 2 ^ 16 = e ∧
          hasContext skeleton serializer t event := by
  induction events generalizing id contexts with
  | nil => simp [insertContexts]
  | cons first rest ih =>
      have hshift : (∃ i event, (first :: rest)[i]? = some event ∧ (id + i) % 2 ^ 16 = e ∧
          hasContext skeleton serializer t event) ↔
          (id = e ∧ hasContext skeleton serializer t first) ∨
            ∃ i event, rest[i]? = some event ∧ ((id + 1) % 2 ^ 16 + i) % 2 ^ 16 = e ∧
              hasContext skeleton serializer t event := by
        constructor
        · rintro ⟨i, event, hevent, hi, hcontext⟩
          cases i with
          | zero =>
              cases hevent
              exact .inl ⟨by omega, hcontext⟩
          | succ i => exact .inr ⟨i, event, hevent, by omega, hcontext⟩
        · rintro (⟨heq, hcontext⟩ | ⟨i, event, hevent, hi, hcontext⟩)
          · exact ⟨0, first, rfl, by omega, hcontext⟩
          · exact ⟨i + 1, event, hevent, by omega, hcontext⟩
      rw [insertContexts, ih (Nat.mod_lt _ (by decide)), hshift, ← or_assoc]
      refine or_congr_left ?_
      split
      next hinsert =>
        rw [Table.lookup_insert_ite]
        by_cases heq : e = id
        · simp [heq, hasContext, hinsert.1, hinsert.2.1]
        · simp [heq, Ne.symm heq]
      next hkeep =>
        refine (or_iff_left_of_imp ?_).symm
        rintro ⟨rfl, hcontext⟩
        by_contra hnone
        exact hkeep ⟨hcontext.1, hcontext.2, by simpa using hnone⟩

theorem skeleton_of_lookup_insertContexts {skeleton : Bytes → Bool} {serializer : Serializers}
    {t : ServiceType} {id : Nat} {events : List EventConfig} {contexts : Table Nat EventConfig}
    (hcontexts : ∀ e config, contexts.lookup e = some config → skeleton config.eventName = true)
    {e : Nat} {config : EventConfig}
    (h : (insertContexts skeleton serializer t id events contexts).lookup e = some config) :
    skeleton config.eventName = true := by
  induction events generalizing id contexts with
  | nil => exact hcontexts e config h
  | cons first rest ih =>
      refine ih (fun e' config' h' => ?_) h
      split at h'
      next hinsert =>
        rw [Table.lookup_insert_ite] at h'
        split at h'
        · cases h'
          exact hinsert.1
        · exact hcontexts e' config' h'
      next => exact hcontexts e' config' h'

theorem lookup_eventContexts_isSome {skeleton : Bytes → Bool} {serializer : Serializers}
    {t : ServiceType} (eventId : Nat) :
    ((eventContexts skeleton serializer t).lookup eventId).isSome = true ↔
      ∃ i event, t.eventList[i]? = some event ∧ i % 2 ^ 16 = eventId ∧
        hasContext skeleton serializer t event := by
  rw [eventContexts, lookup_insertContexts_isSome (by decide)]
  simp

/-- The bytes of a payload after the SOME/IP header. -/
def eventData (memory : Memory) (payload : Span) : Bytes :=
  (memory.load payload.offset payload.size).drop kSomeipFullHeaderSize

theorem eventData_eq (memory : Memory) (payload : Span) :
    eventData memory payload = memory.load (payload.offset + kSomeipFullHeaderSize)
      (payload.size - kSomeipFullHeaderSize) :=
  Memory.drop_load memory payload.offset payload.size kSomeipFullHeaderSize

/-- With a context, a payload that has a header goes to the deserializer without
it. -/
theorem forwardEvent_of_context {skeleton : Bytes → Bool} {serializer : Serializers}
    {t : ServiceType} {eventId : Nat}
    (hcontext : ((eventContexts skeleton serializer t).lookup eventId).isSome = true)
    {payload : Span} (hsize : kSomeipFullHeaderSize ≤ payload.size) (memory : Memory)
    (allocated : Bool) (deserialize : Bytes → Bool) :
    forwardEvent skeleton (eventContexts skeleton serializer t) memory eventId payload allocated
        deserialize =
      if allocated ∧ deserialize (eventData memory payload) then
        .forwarded (eventData memory payload)
      else .dropped := by
  obtain ⟨config, hconfig⟩ := Option.isSome_iff_exists.1 hcontext
  have hskeleton := skeleton_of_lookup_insertContexts (by simp) hconfig
  have hdata := subspan_of_le hsize
  simp only [forwardEvent, hconfig, hskeleton, if_true, hdata, eventData_eq]

theorem forwardEvent_of_no_context {skeleton : Bytes → Bool} {contexts : Table Nat EventConfig}
    {eventId : Nat} (hcontext : contexts.lookup eventId = none) (memory : Memory) (payload : Span)
    (allocated : Bool) (deserialize : Bytes → Bool) :
    forwardEvent skeleton contexts memory eventId payload allocated deserialize = .invalid := by
  simp only [forwardEvent, hcontext]

theorem forwardEvent_of_short {skeleton : Bytes → Bool} {serializer : Serializers}
    {t : ServiceType} {eventId : Nat} {payload : Span}
    (hsize : payload.size < kSomeipFullHeaderSize) (memory : Memory)
    (allocated : Bool) (deserialize : Bytes → Bool) :
    forwardEvent skeleton (eventContexts skeleton serializer t) memory eventId payload allocated
      deserialize = .invalid := by
  cases hconfig : (eventContexts skeleton serializer t).lookup eventId with
  | none => exact forwardEvent_of_no_context hconfig memory payload allocated deserialize
  | some config =>
      have hskeleton := skeleton_of_lookup_insertContexts (by simp) hconfig
      have hdata := subspan_eq_none.2 hsize
      simp only [forwardEvent, hconfig, hskeleton, if_true, hdata]

theorem forwardEvent_safe_iff (skeleton : Bytes → Bool) (serializer : Serializers)
    (t : ServiceType) (memory : Memory) (eventId : Nat) (payload : Span) (allocated : Bool)
    (deserialize : Bytes → Bool) :
    (forwardEvent skeleton (eventContexts skeleton serializer t) memory eventId payload allocated
        deserialize = .dropped ∨
      forwardEvent skeleton (eventContexts skeleton serializer t) memory eventId payload allocated
        deserialize = .forwarded (eventData memory payload)) ↔
      (∃ i event, t.eventList[i]? = some event ∧ i % 2 ^ 16 = eventId ∧
        hasContext skeleton serializer t event) ∧ kSomeipFullHeaderSize ≤ payload.size := by
  rw [← lookup_eventContexts_isSome]
  by_cases hcontext : ((eventContexts skeleton serializer t).lookup eventId).isSome = true
  · by_cases hsize : kSomeipFullHeaderSize ≤ payload.size
    · rw [forwardEvent_of_context hcontext hsize]
      refine iff_of_true ?_ ⟨hcontext, hsize⟩
      split
      · exact .inr rfl
      · exact .inl rfl
    · rw [forwardEvent_of_short (Nat.lt_of_not_le hsize)]
      simp [hsize]
  · rw [forwardEvent_of_no_context (by simpa using hcontext)]
    simp [hcontext]

/-- A length with 32 bits keeps all bytes of a sequence that is not longer. -/
theorem take_mod_eq_iff (bytes : Bytes) :
    bytes.take (bytes.length % 2 ^ 32) = bytes ↔ bytes.length < 2 ^ 32 := by
  rw [List.take_eq_self_iff]
  omega

theorem forwardToVsomeip_safe_iff (t : ServiceType) (serviceInstance : ServiceInstance)
    (memory : Memory) (eventId : Nat) (payload : Span) :
    (forwardToVsomeip t serviceInstance memory eventId payload = .dropped ∨
      ∃ event, t.eventList[eventId]? = some event ∧
        forwardToVsomeip t serviceInstance memory eventId payload =
          .forwarded ⟨t.serviceId, serviceInstance.instanceId, event.eventId,
            eventData memory payload⟩) ↔
      t.eventList.length ≤ eventId ∨ kSomeipFullHeaderSize ≤ payload.size ∧
        payload.size - kSomeipFullHeaderSize < 2 ^ 32 := by
  cases hevent : t.eventList[eventId]? with
  | none =>
      have hlength := List.getElem?_eq_none_iff.1 hevent
      simp [forwardToVsomeip, hlength]
  | some event =>
      have hlength : ¬t.eventList.length ≤ eventId :=
        fun h => by simp [List.getElem?_eq_none h] at hevent
      by_cases hsize : kSomeipFullHeaderSize ≤ payload.size
      · have hdata := subspan_of_le hsize
        have hbytes := take_mod_eq_iff (memory.load (payload.offset + kSomeipFullHeaderSize)
          (payload.size - kSomeipFullHeaderSize))
        rw [Memory.length_load] at hbytes
        simp only [forwardToVsomeip, hevent, hdata, hlength, hsize, eventData_eq, hbytes,
          reduceCtorEq, false_or, true_and, Option.some.injEq, exists_eq_left',
          Forwarding.forwarded.injEq, Notification.mk.injEq]
      · have hdata := subspan_eq_none.2 (Nat.lt_of_not_le hsize)
        simp [forwardToVsomeip, hevent, hdata, hlength, hsize]

/-- For every configuration and every handle of the peer, an update is dropped or
forwarded without its header if and only if, in gatewayd, the event has a skeleton
event and a serializer and the peer announces a header; in someipd, the event is
not configured or the peer announces a header and at most 32 bits of data. -/
theorem update_dropped_or_forwarded_iff (skeleton : Bytes → Bool) (serializer : Serializers)
    (t : ServiceType) (serviceInstance : ServiceInstance) (memory : Memory) (eventId : Nat)
    {metadata : SharedMemoryMetadata} {handle : SharedMemoryHandle} {payload : Span}
    (hpayload : getPayload metadata handle = some payload) (allocated : Bool)
    (deserialize : Bytes → Bool) :
    ((forwardEvent skeleton (eventContexts skeleton serializer t) memory eventId payload allocated
          deserialize = .dropped ∨
        forwardEvent skeleton (eventContexts skeleton serializer t) memory eventId payload
          allocated deserialize = .forwarded (eventData memory payload)) ↔
      (∃ i event, t.eventList[i]? = some event ∧ i % 2 ^ 16 = eventId ∧
        hasContext skeleton serializer t event) ∧
        kSomeipFullHeaderSize ≤ min handle.usedBytes metadata.slotSize) ∧
    ((forwardToVsomeip t serviceInstance memory eventId payload = .dropped ∨
        ∃ event, t.eventList[eventId]? = some event ∧
          forwardToVsomeip t serviceInstance memory eventId payload =
            .forwarded ⟨t.serviceId, serviceInstance.instanceId, event.eventId,
              eventData memory payload⟩) ↔
      t.eventList.length ≤ eventId ∨
        kSomeipFullHeaderSize ≤ min handle.usedBytes metadata.slotSize ∧
          min handle.usedBytes metadata.slotSize - kSomeipFullHeaderSize < 2 ^ 32) := by
  obtain ⟨-, rfl⟩ := getPayload_eq_some.1 hpayload
  exact ⟨forwardEvent_safe_iff skeleton serializer t memory eventId _ allocated deserialize,
    forwardToVsomeip_safe_iff t serviceInstance memory eventId _⟩

/-- A service type with one event, which has a serializer or not. -/
def singleEventType (maxMessageSize : Option UInt32) : ServiceType where
  serviceTypeName := [115]
  serviceId := 1
  versionMajor := 1
  versionMinor := 0
  events := some [⟨1, [97], maxMessageSize⟩]
  localServiceInstances := none
  remoteServiceInstances := some [⟨[105], 1⟩]

theorem update_forwarded_with_context :
    let t := singleEventType (some 8)
    getPayload ⟨[], 32, 2⟩ ⟨1, 18⟩ = some ⟨32, 18⟩ ∧
      (forwardEvent (fun _ => true) (eventContexts (fun _ => true) (nullSerializer [t]) t)
          (fun _ => 7) 0 ⟨32, 18⟩ true (fun _ => true) = .dropped ∨
        forwardEvent (fun _ => true) (eventContexts (fun _ => true) (nullSerializer [t]) t)
          (fun _ => 7) 0 ⟨32, 18⟩ true (fun _ => true) =
          .forwarded (eventData (fun _ => 7) ⟨32, 18⟩)) := by
  refine ⟨rfl, (update_dropped_or_forwarded_iff (fun _ => true) _ (singleEventType (some 8))
    ⟨[105], 1⟩ (fun _ => 7) 0 (rfl : getPayload ⟨[], 32, 2⟩ ⟨1, 18⟩ = some ⟨32, 18⟩) true
    fun _ => true).1.2 ⟨⟨0, _, rfl, rfl, rfl, rfl⟩, by decide⟩⟩

/-- An event without a serializer has no context when its update arrives, and an
update shorter than the header has no bytes after it. -/
theorem update_neither_dropped_nor_forwarded :
    forwardEvent (fun _ => true)
        (eventContexts (fun _ => true) (nullSerializer [singleEventType none])
          (singleEventType none))
        (fun _ => 7) 0 ⟨32, 18⟩ true (fun _ => true) = .invalid ∧
      getPayload ⟨[], 32, 2⟩ ⟨1, 15⟩ = some ⟨32, 15⟩ ∧
      forwardToVsomeip (singleEventType none) ⟨[105], 1⟩ (fun _ => 7) 0 ⟨32, 15⟩ = .invalid := by
  exact ⟨rfl, rfl, rfl⟩

/-! ## The way through both daemons -/

/-- A sample is serialized into a slot by gatewayd, announced, read by someipd and
passed to vsomeip. -/
def sendOut (payload : WritablePayload) (metadata : SharedMemoryMetadata) (memory : Memory)
    (t : ServiceType) (serviceInstance : ServiceInstance) (index : Nat) (event : EventConfig)
    (serialize : Nat → Option Bytes) : Option (Forwarding Notification) :=
  let handled := receiveSample (some payload) (UInt16.ofNat t.serviceId)
    (UInt16.ofNat event.eventId) (UInt8.ofNat t.versionMajor) serialize
  (handled.published.bind fun published => getPayload metadata published.handle).map
    (forwardToVsomeip t serviceInstance (handled.memory payload.data memory) (index % 2 ^ 16))

/-- A message is copied into a slot by someipd, announced, read by gatewayd and
deserialized. -/
def bringIn (payload : WritablePayload) (metadata : SharedMemoryMetadata) (memory : Memory)
    (skeleton : Bytes → Bool) (serializer : Serializers) (t : ServiceType) (index : Nat)
    (vsomeipEventId : UInt16) (msg : SomeipMessage) (allocated : Bool)
    (deserialize : Bytes → Bool) : Option (Forwarding Bytes) :=
  let handled := handleMessage (some payload) vsomeipEventId msg
  (handled.published.bind fun published => getPayload metadata published.handle).map fun read =>
    forwardEvent skeleton (eventContexts skeleton serializer t)
      (handled.memory payload.data memory) (index % 2 ^ 16) read allocated deserialize

/-- The handler put the bytes behind the header of its slot, wrote nothing later and
published header and bytes. -/
structure Handled.Carries (handled : Handled) (payload : WritablePayload) (bytes : Bytes) :
    Prop where
  writes : ∃ header, handled.writes = header ++ [⟨kSomeipFullHeaderSize, bytes⟩]
  published : handled.published = some (payload.shrink (kSomeipFullHeaderSize + bytes.length))

theorem receiveSample_carries {payload : WritablePayload} {serialize : Nat → Option Bytes}
    {bytes : Bytes}
    (h : serialize ((payload.data.size + 2 ^ 64 - kSomeipFullHeaderSize) % 2 ^ 64) = some bytes)
    (serviceId eventId : UInt16) (versionMajor : UInt8) :
    (receiveSample (some payload) serviceId eventId versionMajor serialize).Carries payload
      bytes := by
  simp only [receiveSample, h]
  exact ⟨⟨_, rfl⟩, rfl⟩

theorem handleMessage_carries (payload : WritablePayload) (vsomeipEventId : UInt16)
    (msg : SomeipMessage) :
    (handleMessage (some payload) vsomeipEventId msg).Carries payload msg.payload :=
  ⟨⟨[_], rfl⟩, rfl⟩

section Carried

variable {metadata : SharedMemoryMetadata} {slot : Nat} {handled : Handled}
  {payload : WritablePayload} {bytes : Bytes}

/-- The reader finds a published payload where the writer put it. -/
theorem Handled.Carries.getPayload_eq (h : handled.Carries payload bytes)
    (hpayload : payload = ⟨⟨slotOffset metadata.slotSize slot, metadata.slotSize⟩, slot⟩)
    (hslot : slot < metadata.slotCount)
    (hfits : kSomeipFullHeaderSize + bytes.length ≤ metadata.slotSize) :
    (handled.published.bind fun published => getPayload metadata published.handle) =
      some ⟨payload.data.offset, kSomeipFullHeaderSize + bytes.length⟩ := by
  subst hpayload
  rw [h.published, Option.bind_some, WritablePayload.shrink_of_le _ hfits, getPayload_eq_some]
  simp [WritablePayload.handle, hslot, Nat.min_eq_left hfits]

/-- The bytes behind the header are the ones the handler wrote last. -/
theorem Handled.Carries.eventData_eq (h : handled.Carries payload bytes) (memory : Memory) :
    eventData (handled.memory payload.data memory)
      ⟨payload.data.offset, kSomeipFullHeaderSize + bytes.length⟩ = bytes := by
  obtain ⟨header, hwrites⟩ := h.writes
  rw [Daemon.eventData_eq, Nat.add_sub_cancel_left, Handled.memory, hwrites, List.foldl_append]
  exact Memory.load_store _ _ _

end Carried

/-- A payload of header and data is forwarded as the data, with a length of 32
bits. -/
theorem forwardToVsomeip_of_event {t : ServiceType} {eventId : Nat} {event : EventConfig}
    (hevent : t.eventList[eventId]? = some event) (serviceInstance : ServiceInstance)
    (memory : Memory) (offset size : Nat) :
    forwardToVsomeip t serviceInstance memory eventId ⟨offset, kSomeipFullHeaderSize + size⟩ =
      .forwarded ⟨t.serviceId, serviceInstance.instanceId, event.eventId,
        (eventData memory ⟨offset, kSomeipFullHeaderSize + size⟩).take (size % 2 ^ 32)⟩ := by
  have hdata : (⟨offset, kSomeipFullHeaderSize + size⟩ : Span).subspan kSomeipFullHeaderSize =
      some _ := subspan_of_le (Nat.le_add_right kSomeipFullHeaderSize size)
  simp only [forwardToVsomeip, hevent, hdata, eventData_eq, Nat.add_sub_cancel_left]

section Ways

variable {metadata : SharedMemoryMetadata} {slot : Nat} {payload : WritablePayload}
  (hpayload : payload = ⟨⟨slotOffset metadata.slotSize slot, metadata.slotSize⟩, slot⟩)
  (hslot : slot < metadata.slotCount)

include hpayload hslot

theorem sendOut_eq (memory : Memory) {t : ServiceType} (serviceInstance : ServiceInstance)
    {index : Nat} (event : EventConfig) {received : EventConfig}
    (hreceived : t.eventList[index % 2 ^ 16]? = some received) {serialize : Nat → Option Bytes}
    {bytes : Bytes}
    (hserialize :
      serialize ((payload.data.size + 2 ^ 64 - kSomeipFullHeaderSize) % 2 ^ 64) = some bytes)
    (hfits : kSomeipFullHeaderSize + bytes.length ≤ metadata.slotSize) :
    sendOut payload metadata memory t serviceInstance index event serialize =
      some (.forwarded ⟨t.serviceId, serviceInstance.instanceId, received.eventId,
        bytes.take (bytes.length % 2 ^ 32)⟩) := by
  have hcarries := receiveSample_carries hserialize (UInt16.ofNat t.serviceId)
    (UInt16.ofNat event.eventId) (UInt8.ofNat t.versionMajor)
  simp only [sendOut, hcarries.getPayload_eq hpayload hslot hfits, Option.map_some,
    forwardToVsomeip_of_event hreceived, hcarries.eventData_eq]

theorem bringIn_eq (memory : Memory) {skeleton : Bytes → Bool} {serializer : Serializers}
    {t : ServiceType} {index : Nat} {event : EventConfig}
    (hevent : t.eventList[index]? = some event) (hcontext : hasContext skeleton serializer t event)
    (vsomeipEventId : UInt16) {msg : SomeipMessage}
    (hfits : kSomeipFullHeaderSize + msg.payload.length ≤ metadata.slotSize) (allocated : Bool)
    (deserialize : Bytes → Bool) :
    bringIn payload metadata memory skeleton serializer t index vsomeipEventId msg allocated
        deserialize =
      some (if allocated ∧ deserialize msg.payload then .forwarded msg.payload else .dropped) := by
  have hcarries := handleMessage_carries payload vsomeipEventId msg
  have hlookup := (lookup_eventContexts_isSome (index % 2 ^ 16)).2
    ⟨index, event, hevent, rfl, hcontext⟩
  have hheader : kSomeipFullHeaderSize ≤
      (⟨payload.data.offset, kSomeipFullHeaderSize + msg.payload.length⟩ : Span).size :=
    Nat.le_add_right _ _
  simp only [bringIn, hcarries.getPayload_eq hpayload hslot hfits, Option.map_some,
    forwardEvent_of_context hlookup hheader, hcarries.eventData_eq]

end Ways

/-- For every slot of a pool that reader and writer divide in the same way, whatever
the slot held before: the bytes that reach `notify` are the serialized ones if and
only if their number has 32 bits, and the bytes that reach the deserializer are
those of the received message. -/
theorem payload_bytes_survive {σ : SlotManager} {slot : Nat} {payload : WritablePayload}
    (hpayload : makeSharedMemoryWritablePayload σ slot = some payload)
    {metadata : SharedMemoryMetadata} (hsize : metadata.slotSize = σ.slotSize)
    (hcount : metadata.slotCount = σ.slotCount) (memory : Memory) {t : ServiceType} {index : Nat}
    {event : EventConfig} (hevent : t.eventList[index]? = some event) :
    (∀ (serviceInstance : ServiceInstance) (serialize : Nat → Option Bytes) (bytes : Bytes),
      serialize ((payload.data.size + 2 ^ 64 - kSomeipFullHeaderSize) % 2 ^ 64) = some bytes →
      kSomeipFullHeaderSize + bytes.length ≤ σ.slotSize →
      ((∃ notification, sendOut payload metadata memory t serviceInstance index event serialize =
          some (.forwarded notification) ∧ notification.bytes = bytes) ↔ bytes.length < 2 ^ 32)) ∧
    ∀ (skeleton : Bytes → Bool) (serializer : Serializers) (vsomeipEventId : UInt16)
      (msg : SomeipMessage) (allocated : Bool) (deserialize : Bytes → Bool),
      hasContext skeleton serializer t event →
      kSomeipFullHeaderSize + msg.payload.length ≤ σ.slotSize →
      bringIn payload metadata memory skeleton serializer t index vsomeipEventId msg allocated
          deserialize =
        some (if allocated ∧ deserialize msg.payload then .forwarded msg.payload
          else .dropped) := by
  obtain ⟨span, hspan, hpayload⟩ := Option.map_eq_some_iff.1 hpayload
  rw [SlotManager.getMemory] at hspan
  split at hspan
  next hslot =>
    cases hspan
    rw [← hsize] at hpayload ⊢
    have hslot' : slot < metadata.slotCount := hcount ▸ hslot.1
    refine ⟨fun serviceInstance serialize bytes hserialize hfits => ?_,
      fun skeleton serializer vsomeipEventId msg allocated deserialize hcontext hfits => ?_⟩
    · have hindex : index % 2 ^ 16 < t.eventList.length :=
        Nat.lt_of_le_of_lt (Nat.mod_le _ _) (List.getElem?_eq_some_iff.1 hevent).1
      rw [sendOut_eq hpayload.symm hslot' memory serviceInstance event
        (List.getElem?_eq_getElem hindex) hserialize hfits]
      rw [← take_mod_eq_iff]
      simp
    · exact bringIn_eq hpayload.symm hslot' memory hevent hcontext vsomeipEventId hfits allocated
        deserialize
  next => cases hspan

theorem payload_bytes_survive_second_slot :
    let σ : SlotManager := { slotSize := 32, slotCount := 2, referenceCount := fun _ => 1 }
    let t := singleEventType (some 8)
    makeSharedMemoryWritablePayload σ 1 = some ⟨⟨32, 32⟩, 1⟩ ∧
      ∃ notification, sendOut ⟨⟨32, 32⟩, 1⟩ ⟨[], 32, 2⟩ (fun _ => 9) t ⟨[105], 1⟩ 0
        ⟨1, [97], some 8⟩ (fun _ => some [5, 6]) = some (.forwarded notification) ∧
        notification.bytes = [5, 6] := by
  have hpayload : makeSharedMemoryWritablePayload
      { slotSize := 32, slotCount := 2, referenceCount := fun _ => 1 } 1 = some ⟨⟨32, 32⟩, 1⟩ := rfl
  exact ⟨hpayload, ((payload_bytes_survive hpayload rfl rfl (fun _ => 9) rfl).1 ⟨[105], 1⟩
    (fun _ => some [5, 6]) [5, 6] rfl (by decide)).2 (by decide)⟩

/-- A slot can hold more bytes than the length passed to vsomeip can say. -/
theorem long_payload_cut :
    ∃ (σ : SlotManager) (payload : WritablePayload) (metadata : SharedMemoryMetadata)
      (bytes : Bytes), makeSharedMemoryWritablePayload σ 0 = some payload ∧
      metadata.slotSize = σ.slotSize ∧ metadata.slotCount = σ.slotCount ∧
      σ.slotSize * σ.slotCount < 2 ^ 64 ∧
      kSomeipFullHeaderSize + bytes.length ≤ σ.slotSize ∧
      ∃ notification, sendOut payload metadata (fun _ => 0) (singleEventType (some 8)) ⟨[105], 1⟩ 0
        ⟨1, [97], some 8⟩ (fun _ => some bytes) = some (.forwarded notification) ∧
        notification.bytes ≠ bytes := by
  obtain ⟨bytes, hbytes⟩ : ∃ bytes : Bytes, bytes.length = 2 ^ 32 :=
    ⟨List.replicate (2 ^ 32) 0, List.length_replicate⟩
  have hpayload : (⟨⟨0, 2 ^ 32 + 16⟩, 0⟩ : WritablePayload) =
      ⟨⟨slotOffset (SharedMemoryMetadata.mk [] (2 ^ 32 + 16) 1).slotSize 0, 2 ^ 32 + 16⟩, 0⟩ := rfl
  have hfits : kSomeipFullHeaderSize + bytes.length ≤ 2 ^ 32 + 16 := by
    rw [hbytes]
    decide
  refine ⟨{ slotSize := 2 ^ 32 + 16, slotCount := 1, referenceCount := fun _ => 1 }, _, _, bytes,
    rfl, rfl, rfl, by decide, hfits, _,
    sendOut_eq hpayload Nat.one_pos _ _ _ rfl rfl hfits, fun heq => ?_⟩
  have hlength := (take_mod_eq_iff bytes).1 heq
  omega

end Daemon

end SomeipGateway
