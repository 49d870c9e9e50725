import SomeipGateway.Binding.Decode

/-! # Frames of the messages that are sent

How a critical section builds the frame it hands to a reply channel. Identifiers
and paths are copied into fixed-size strings, which `make_service` and
`make_instance_id` assert to be long enough; numbers have the types of their
fields. `none` stands for the failed assertion, and for a number that its type
does not hold. Every frame that is built is decoded by the receiver as the message
that was sent, whatever the receiver is.
-/

namespace SomeipGateway

/-- A number in a field of `width` bytes. -/
def toWord (width n : Nat) : Option (Word width) :=
  if h : n < 256 ^ width then some ⟨n, h⟩ else none

theorem val_of_toWord {width n : Nat} {w : Word width} (h : toWord width n = some w) :
    w.val = n := by
  rw [toWord] at h
  split at h
  · cases h
    rfl
  · cases h

/-! ## Fixed-size strings -/

def FixedString.char (byte : UInt8) : Word 1 := ⟨byte.toNat, byte.toNat_lt⟩

/-- The array is value-initialised before the string is copied to its front. -/
def fixedStringFromString (maxSize : Nat) (value : Bytes) : Option (FixedString maxSize) := do
  let size ← toWord 8 value.length
  if h : value.length ≤ maxSize then
    some ⟨size, ⟨value.map FixedString.char ++
      List.replicate (maxSize - value.length) (FixedString.char 0), by
        rw [List.length_append, List.length_map, List.length_replicate]
        omega⟩⟩
  else none

theorem read_of_fixedStringFromString {maxSize : Nat} {value : Bytes} {s : FixedString maxSize}
    (h : fixedStringFromString maxSize value = some s) :
    s.toBytes = .ok value ∧ s.stored = value := by
  obtain ⟨size, hsize, h⟩ := Option.bind_eq_some_iff.1 h
  split at h
  next hlength =>
    cases h
    have hfront (rest : List (Word 1)) :
        (value.map FixedString.char ++ rest).take value.length = value.map FixedString.char := by
      rw [List.take_append_of_le_length (by simp), List.take_of_length_le (by simp)]
    have hread : (value.map FixedString.char).map FixedString.byte = value := by
      rw [List.map_map]
      exact (List.map_congr_left fun b _ => UInt8.ofNat_toNat).trans (List.map_id _)
    constructor
    · rw [FixedString.toBytes, FixedSizeContainer.elements_of_inCapacity
        (by simpa [FixedSizeContainer.inCapacity, val_of_toWord hsize] using hlength)]
      show Except.ok (List.map _ (List.take _ _)) = _
      rw [val_of_toWord hsize, List.Vector.toList_mk, hfront, hread]
    · rw [FixedString.stored]
      simp only [val_of_toWord hsize, List.Vector.toList_mk, hfront, hread]
      rw [Nat.sub_eq_zero_of_le hlength, List.replicate_zero, List.append_nil]
  next => cases h

/-! ## The structs that messages hold -/

namespace Wire

def makeService (service : SomeipGateway.Service) : Option Service := do
  let serviceId ← fixedStringFromString maxIdSize service.serviceId
  let major ← toWord 2 service.major
  let minor ← toWord 2 service.minor
  some ⟨serviceId, major, minor⟩

def makeInstanceId (instanceId : Bytes) : Option (FixedString maxIdSize) :=
  fixedStringFromString maxIdSize instanceId

/-- `get_shared_memory_metadata` copies the path of a slot manager. -/
def makeMetadata (m : SomeipGateway.SharedMemoryMetadata) : Option SharedMemoryMetadata := do
  let path ← fixedStringFromString maxSharedMemoryPathSize m.path
  let slotSize ← toWord 8 m.slotSize
  let slotCount ← toWord 8 m.slotCount
  some ⟨path, slotSize, slotCount⟩

def makeHandle (handle : SomeipGateway.SharedMemoryHandle) : Option SharedMemoryHandle := do
  let slotIndex ← toWord 8 handle.slotIndex
  let usedBytes ← toWord 8 handle.usedBytes
  some ⟨slotIndex, usedBytes⟩

theorem readKey_of_make {key : Key} {service : Service} {instanceId : FixedString maxIdSize}
    (hservice : makeService key.service = some service)
    (hinstance : makeInstanceId key.instanceId = some instanceId) :
    readKey service instanceId = .ok key := by
  simp only [makeService, Option.bind_eq_bind, Option.bind_eq_some_iff, Option.some.injEq]
    at hservice
  obtain ⟨serviceId, hid, major, hmajor, minor, hminor, rfl⟩ := hservice
  simp only [readKey, (read_of_fixedStringFromString hid).1,
    (read_of_fixedStringFromString hinstance).1, Bind.bind, Except.bind, val_of_toWord hmajor,
    val_of_toWord hminor]

theorem stored_of_makeMetadata {m : SomeipGateway.SharedMemoryMetadata}
    {metadata : SharedMemoryMetadata} (h : makeMetadata m = some metadata) :
    metadata.stored = m := by
  simp only [makeMetadata, Option.bind_eq_bind, Option.bind_eq_some_iff, Option.some.injEq] at h
  obtain ⟨path, hpath, size, hsize, count, hcount, rfl⟩ := h
  simp only [SharedMemoryMetadata.stored, (read_of_fixedStringFromString hpath).2,
    val_of_toWord hsize, val_of_toWord hcount]

theorem val_of_makeHandle {m : SomeipGateway.SharedMemoryHandle} {handle : SharedMemoryHandle}
    (h : makeHandle m = some handle) : ⟨handle.slotIndex.val, handle.usedBytes.val⟩ = m := by
  simp only [makeHandle, Option.bind_eq_bind, Option.bind_eq_some_iff, Option.some.injEq] at h
  obtain ⟨index, hindex, used, hused, rfl⟩ := h
  simp only [val_of_toWord hindex, val_of_toWord hused]

end Wire

/-- The bytes of the frame that `Reply_channel::send` hands on; a frame is built
at the front of an aligned object. No critical section builds a `Connect`, which the
client sends when its connection is ready, or a `Connect_reply` that refuses. -/
def Message.toBytes : Message → Option Bytes
  | .connect | .connectReply false => none
  | .connectReply true => some (encode .connectReply Wire.ConnectReply.codec ⟨true⟩ 0).bytes
  | .requestService key inUse => do
      let service ← Wire.makeService key.service
      let instanceId ← Wire.makeInstanceId key.instanceId
      some (encode .requestService Wire.ServiceFlag.codec ⟨service, instanceId, inUse⟩ 0).bytes
  | .offerService key offered => do
      let service ← Wire.makeService key.service
      let instanceId ← Wire.makeInstanceId key.instanceId
      some (encode .offerService Wire.ServiceFlag.codec ⟨service, instanceId, offered⟩ 0).bytes
  | .connectService key requiredId metadata inUse => do
      let service ← Wire.makeService key.service
      let instanceId ← Wire.makeInstanceId key.instanceId
      let requiredId ← toWord 8 requiredId
      let metadata ← Wire.makeMetadata metadata
      some (encode .connectService Wire.ConnectService.codec
        ⟨service, instanceId, requiredId, metadata, inUse⟩ 0).bytes
  | .connectServiceReply requiredId providedId metadata counts => do
      let requiredId ← toWord 8 requiredId
      let providedId ← toWord 8 providedId
      let metadata ← Wire.makeMetadata metadata
      let numMethods ← toWord 2 counts.numMethods
      let numEvents ← toWord 2 counts.numEvents
      some (encode .connectServiceReply Wire.ConnectServiceReply.codec
        ⟨requiredId, providedId, metadata, numMethods, numEvents⟩ 0).bytes
  | .subscribeEvent providedId eventId subscribe => do
      let providedId ← toWord 8 providedId
      let eventId ← toWord 2 eventId
      some (encode .subscribeEvent Wire.SubscribeEvent.codec
        ⟨providedId, eventId, subscribe⟩ 0).bytes
  | .eventUpdate requiredId eventId payload => do
      let requiredId ← toWord 8 requiredId
      let eventId ← toWord 2 eventId
      let payload ← Wire.makeHandle payload
      some (encode .eventUpdate Wire.EventUpdate.codec ⟨requiredId, eventId, payload⟩ 0).bytes
  | .payloadConsumed requiredId handle => do
      let requiredId ← toWord 8 requiredId
      let handle ← Wire.makeHandle handle
      some (encode .payloadConsumed Wire.PayloadConsumed.codec ⟨requiredId, handle⟩ 0).bytes

/-! ## Round trip -/

/-- A frame that the base class takes for a message is decoded as it by everyone,
unless it is a `Connect` or a refusal. -/
theorem decode_encode {α : Type} (type : MessageType) (payload : Codec α) {m : α} {msg : Message}
    (hframe : type ≠ .connect ∧ (messageFrame payload).align ∣ 8 ∧ payload.size < 256 ^ 2)
    (hreply : type ≠ .connectReply ∨ ∀ frame, checkAndCast type payload frame = .ok (some m) →
      checkAndCast .connectReply Wire.ConnectReply.codec frame = .ok (some ⟨true⟩))
    (hmsg : ∀ frame rest, frame.bytes = type.code :: rest →
      checkAndCast type payload frame = .ok (some m) → onReceiveMessage frame = .ok (some msg))
    {address : Nat} (haddress : address % 8 = 0) (role : Role) :
    decode ⟨(encode type payload m 0).bytes, address⟩ role = .ok (some (none, msg)) := by
  obtain ⟨hconnect, halign, hsize⟩ := hframe
  obtain ⟨rest, hbytes⟩ := exists_bytes_encode type payload m address
  have hcast := checkAndCast_encode type m
    (Nat.mod_eq_zero_of_dvd (halign.trans (Nat.dvd_of_mod_eq_zero haddress))) hsize
  have h := hmsg _ rest hbytes hcast
  show decode (encode type payload m address) role = _
  cases role with
  | base =>
      rw [decode, h]
      rfl
  | server =>
      rw [decode, serverMessageCallback, hbytes]
      simp only [getMessageType_code, Option.some.injEq, hconnect, if_false, h]
      rfl
  | client =>
      rw [decode, clientOnReceiveMessage, hbytes]
      simp only [getMessageType_code, Option.some.injEq]
      split
      next heq =>
        simp only [hreply.resolve_left (absurd heq) _ hcast, Bind.bind, Except.bind, if_true, h]
        rfl
      next =>
        rw [h]
        rfl

/-- What is sent is what is received: a frame is decoded as the message that it was
built for. -/
theorem Message.decode_toBytes {msg : Message} {bytes : Bytes} (h : msg.toBytes = some bytes)
    {address : Nat} (haddress : address % 8 = 0) (role : Role) :
    decode ⟨bytes, address⟩ role = .ok (some (none, msg)) := by
  cases msg with
  | connect => cases h
  | connectReply status =>
      cases status with
      | false => cases h
      | true =>
          cases h
          apply decode_encode .connectReply Wire.ConnectReply.codec (by decide) (.inr fun _ => id) _
            haddress
          intro frame rest hbytes hcast
          simp only [onReceiveMessage, hbytes, getMessageType_code, dispatch, hcast, Bind.bind,
            Except.bind, Except.map]
  | requestService key inUse =>
      simp only [toBytes, Option.bind_eq_bind, Option.bind_eq_some_iff, Option.some.injEq] at h
      obtain ⟨service, hservice, instanceId, hinstance, rfl⟩ := h
      apply decode_encode .requestService Wire.ServiceFlag.codec (by decide)
        (.inl (by decide)) _ haddress
      intro frame rest hbytes hcast
      simp only [onReceiveMessage, hbytes, getMessageType_code, dispatch, hcast, Bind.bind,
        Except.bind, Except.map, Wire.readKey_of_make hservice hinstance]
  | offerService key offered =>
      simp only [toBytes, Option.bind_eq_bind, Option.bind_eq_some_iff, Option.some.injEq] at h
      obtain ⟨service, hservice, instanceId, hinstance, rfl⟩ := h
      apply decode_encode .offerService Wire.ServiceFlag.codec (by decide)
        (.inl (by decide)) _ haddress
      intro frame rest hbytes hcast
      simp only [onReceiveMessage, hbytes, getMessageType_code, dispatch, hcast, Bind.bind,
        Except.bind, Except.map, Wire.readKey_of_make hservice hinstance]
  | connectService key requiredId metadata inUse =>
      simp only [toBytes, Option.bind_eq_bind, Option.bind_eq_some_iff, Option.some.injEq] at h
      obtain ⟨service, hservice, instanceId, hinstance, id, hid, wire, hwire, rfl⟩ := h
      apply decode_encode .connectService Wire.ConnectService.codec (by decide)
        (.inl (by decide)) _ haddress
      intro frame rest hbytes hcast
      simp only [onReceiveMessage, hbytes, getMessageType_code, dispatch, hcast, Bind.bind,
        Except.bind, Except.map, Wire.readKey_of_make hservice hinstance, val_of_toWord hid,
        Wire.stored_of_makeMetadata hwire]
  | connectServiceReply requiredId providedId metadata counts =>
      simp only [toBytes, Option.bind_eq_bind, Option.bind_eq_some_iff, Option.some.injEq] at h
      obtain ⟨id, hid, id', hid', wire, hwire, methods, hmethods, events, hevents, rfl⟩ := h
      apply decode_encode .connectServiceReply Wire.ConnectServiceReply.codec (by decide)
        (.inl (by decide)) _ haddress
      intro frame rest hbytes hcast
      simp only [onReceiveMessage, hbytes, getMessageType_code, dispatch, hcast, Bind.bind,
        Except.bind, Except.map, val_of_toWord hid, val_of_toWord hid', val_of_toWord hmethods,
        val_of_toWord hevents, Wire.stored_of_makeMetadata hwire]
  | subscribeEvent providedId eventId subscribe =>
      simp only [toBytes, Option.bind_eq_bind, Option.bind_eq_some_iff, Option.some.injEq] at h
      obtain ⟨id, hid, event, hevent, rfl⟩ := h
      apply decode_encode .subscribeEvent Wire.SubscribeEvent.codec (by decide)
        (.inl (by decide)) _ haddress
      intro frame rest hbytes hcast
      simp only [onReceiveMessage, hbytes, getMessageType_code, dispatch, hcast, Bind.bind,
        Except.bind, Except.map, val_of_toWord hid, val_of_toWord hevent]
  | eventUpdate requiredId eventId payload =>
      simp only [toBytes, Option.bind_eq_bind, Option.bind_eq_some_iff, Option.some.injEq] at h
      obtain ⟨id, hid, event, hevent, handle, hhandle, rfl⟩ := h
      apply decode_encode .eventUpdate Wire.EventUpdate.codec (by decide)
        (.inl (by decide)) _ haddress
      intro frame rest hbytes hcast
      simp only [onReceiveMessage, hbytes, getMessageType_code, dispatch, hcast, Bind.bind,
        Except.bind, Except.map, val_of_toWord hid, val_of_toWord hevent,
        Wire.val_of_makeHandle hhandle]
  | payloadConsumed requiredId handle =>
      simp only [toBytes, Option.bind_eq_bind, Option.bind_eq_some_iff, Option.some.injEq] at h
      obtain ⟨id, hid, wire, hwire, rfl⟩ := h
      apply decode_encode .payloadConsumed Wire.PayloadConsumed.codec (by decide)
        (.inl (by decide)) _ haddress
      intro frame rest hbytes hcast
      simp only [onReceiveMessage, hbytes, getMessageType_code, dispatch, hcast, Bind.bind,
        Except.bind, Except.map, val_of_toWord hid, Wire.val_of_makeHandle hwire]

end SomeipGateway
