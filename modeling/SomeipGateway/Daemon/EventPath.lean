import SomeipGateway.Binding.SlotManager
import SomeipGateway.Daemon.Config
import SomeipGateway.Lib.Memory

/-! # Events on their way through the daemons

An event leaves the vehicle service through `LocalServiceInstance` of gatewayd,
which writes header and serialized bytes into a slot, and `LocalNetworkService` of
someipd, which reads the slot and notifies vsomeip. It comes in through
`RemoteNetworkService` of someipd and `RemoteServiceInstance` of gatewayd. Payloads
of the binding are built without a separate header and without a lead offset.
-/

namespace SomeipGateway

namespace Daemon

/-! ## Writing a slot -/

/-- A `Writable_payload` of a slot: `data` is what `wdata()` returns. -/
structure WritablePayload where
  data : Span
  slotHandle : Nat
deriving DecidableEq, Repr

/-- A size above the current one is refused. -/
def WritablePayload.shrink (payload : WritablePayload) (size : Nat) : WritablePayload :=
  if payload.data.size < size then payload
  else { payload with data := ⟨payload.data.offset, size⟩ }

theorem WritablePayload.shrink_of_le (payload : WritablePayload) {size : Nat}
    (h : size ≤ payload.data.size) :
    payload.shrink size = { payload with data := ⟨payload.data.offset, size⟩ } := by
  rw [shrink, if_neg (Nat.not_lt.2 h)]

/-- `make_shared_memory_writable_payload` for the guard of a slot. -/
def makeSharedMemoryWritablePayload (σ : SlotManager) (slot : Nat) : Option WritablePayload :=
  (σ.getMemory slot).map fun data => ⟨data, slot⟩

/-- The callback `event_payload_allocate` of the binding. -/
def eventPayloadAllocate (σ : SlotManager) : Option (WritablePayload × SlotManager) := do
  let (slot, σ') ← σ.allocateSlot
  let payload ← makeSharedMemoryWritablePayload σ' slot
  some (payload, σ')

/-- The handle that an `Event_update` carries for a payload. -/
def WritablePayload.handle (payload : WritablePayload) : SharedMemoryHandle :=
  ⟨payload.slotHandle, payload.data.size⟩

/-- Bytes written from an index of `wdata()` on. -/
structure Segment where
  index : Nat
  bytes : Bytes
deriving DecidableEq, Repr

/-- What a handler wrote, and the payload it passed to `update_event` if it did not
drop the event. -/
structure Handled where
  writes : List Segment := []
  published : Option WritablePayload := none
deriving DecidableEq, Repr

/-- The memory after the writes of a handler to its slot. -/
def Handled.memory (handled : Handled) (slot : Span) (memory : Memory) : Memory :=
  handled.writes.foldl (fun m segment => m.store (slot.offset + segment.index) segment.bytes) memory

/-- Most significant byte first. -/
def bytesOfUInt16 (value : UInt16) : Bytes := [(value >>> 8).toUInt8, (value &&& 0xFF).toUInt8]

def bytesOfUInt32 (value : UInt32) : Bytes :=
  [(value >>> 24 &&& 0xFF).toUInt8, (value >>> 16 &&& 0xFF).toUInt8,
    (value >>> 8 &&& 0xFF).toUInt8, (value &&& 0xFF).toUInt8]

/-- The receive handler of `LocalServiceInstance` for one sample. The length field
is left as it is. `serialize` is given the size of the buffer. -/
def receiveSample (allocated : Option WritablePayload) (serviceId eventId : UInt16)
    (versionMajor : UInt8) (serialize : Nat → Option Bytes) : Handled :=
  match allocated with
  | none => {}
  | some payload =>
      let header : List Segment :=
        [⟨0, bytesOfUInt16 serviceId ++ bytesOfUInt16 eventId⟩,
          ⟨8, bytesOfUInt16 0xFFFF ++ bytesOfUInt16 0 ++ [1, versionMajor, 2, 0]⟩]
      match serialize ((payload.data.size + 2 ^ 64 - kSomeipFullHeaderSize) % 2 ^ 64) with
      | none => { writes := header }
      | some bytes =>
          { writes := header ++ [⟨kSomeipFullHeaderSize, bytes⟩]
            published := some (payload.shrink (kSomeipFullHeaderSize + bytes.length)) }

/-- What the message handler of `RemoteNetworkService` reads of a vsomeip message. -/
structure SomeipMessage where
  service : UInt16
  client : UInt16
  session : UInt16
  protocolVersion : UInt8
  interfaceVersion : UInt8
  messageType : UInt8
  returnCode : UInt8
  payload : Bytes
deriving DecidableEq, Repr

def SomeipMessage.header (msg : SomeipMessage) (vsomeipEventId : UInt16) : Bytes :=
  bytesOfUInt16 msg.service ++ bytesOfUInt16 vsomeipEventId ++
    bytesOfUInt32 (UInt32.ofNat (msg.payload.length + 8)) ++
    bytesOfUInt16 msg.client ++ bytesOfUInt16 msg.session ++
    [msg.protocolVersion, msg.interfaceVersion, msg.messageType, msg.returnCode]

theorem SomeipMessage.length_header (msg : SomeipMessage) (vsomeipEventId : UInt16) :
    (msg.header vsomeipEventId).length = kSomeipFullHeaderSize := rfl

/-- The message handler of `RemoteNetworkService`: the header byte by byte, then a
`memcpy` of the payload, without a look at the size of the slot. -/
def handleMessage (allocated : Option WritablePayload) (vsomeipEventId : UInt16)
    (msg : SomeipMessage) : Handled :=
  match allocated with
  | none => {}
  | some payload =>
      { writes := [⟨0, msg.header vsomeipEventId⟩, ⟨kSomeipFullHeaderSize, msg.payload⟩]
        published := some (payload.shrink (kSomeipFullHeaderSize + msg.payload.length)) }

/-! ## Forwarding what was read -/

/-- The end of a forwarded event; `invalid` is a context that was never inserted or
a range outside the payload. -/
inductive Forwarding (α : Type) where
  | dropped
  | forwarded (value : α)
  | invalid
deriving DecidableEq, Repr

/-- The arguments of `notify`. -/
structure Notification where
  serviceId : Nat
  instanceId : Nat
  eventId : Nat
  bytes : Bytes
deriving DecidableEq, Repr

/-- `LocalNetworkService::forward_to_vsomeip`. The length passed to `set_data` has
32 bits. -/
def forwardToVsomeip (t : ServiceType) (serviceInstance : ServiceInstance) (memory : Memory)
    (eventId : Nat) (payload : Span) : Forwarding Notification :=
  match t.eventList[eventId]? with
  | none => .dropped
  | some event =>
      match payload.subspan kSomeipFullHeaderSize with
      | none => .invalid
      | some data =>
          .forwarded ⟨t.serviceId, serviceInstance.instanceId, event.eventId,
            (memory.load data.offset data.size).take (data.size % 2 ^ 32)⟩

/-- The loop of `RemoteServiceInstance::Create`: an event gets a context when the
skeleton has it and there is a serializer for it. `emplace` keeps the first. -/
def insertContexts (skeleton : Bytes → Bool) (serializer : Serializers) (t : ServiceType) :
    Nat → List EventConfig → Table Nat EventConfig → Table Nat EventConfig
  | _, [], contexts => contexts
  | id, event :: rest, contexts =>
      let contexts :=
        if skeleton event.eventName ∧ (serializer t.serviceTypeName event.eventName).isSome ∧
            contexts.lookup id = none then contexts.insert id event
        else contexts
      insertContexts skeleton serializer t ((id + 1) % 2 ^ 16) rest contexts

def eventContexts (skeleton : Bytes → Bool) (serializer : Serializers) (t : ServiceType) :
    Table Nat EventConfig :=
  insertContexts skeleton serializer t 0 t.eventList ∅

/-- `RemoteServiceInstance::forward_event`. For an event without a context,
`operator[]` inserts an empty one, whose configuration is a null pointer.
`allocated` says whether the skeleton has a sample, `deserialize` whether the
serializer accepts the bytes. -/
def forwardEvent (skeleton : Bytes → Bool) (contexts : Table Nat EventConfig) (memory : Memory)
    (eventId : Nat) (payload : Span) (allocated : Bool) (deserialize : Bytes → Bool) :
    Forwarding Bytes :=
  match contexts.lookup eventId with
  | none => .invalid
  | some config =>
      if skeleton config.eventName then
        match payload.subspan kSomeipFullHeaderSize with
        | none => .invalid
        | some data =>
            let message := memory.load data.offset data.size
            if allocated ∧ deserialize message then .forwarded message else .dropped
      else .dropped

end Daemon

end SomeipGateway
