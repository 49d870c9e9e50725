import SomeipGateway.Binding.Message
import SomeipGateway.Lib.Codec

/-! # Frames

The wire format of the IPC messages: trivially copyable structs behind a header
with the message type and the payload size. `check_and_cast` tests type, length,
alignment and payload size of a frame; the fixed-size containers inside carry a
length of their own, which it does not test. A `Fault` is an access past the end
of the frame or of a container, a failed assertion, or undefined behaviour behind
one.
-/

namespace SomeipGateway

inductive Fault where
  | pastFrame
  | pastCapacity
  | assertion
  | undefined
deriving DecidableEq, Repr

inductive MessageType where
  | connect
  | connectReply
  | requestService
  | offerService
  | connectService
  | connectServiceReply
  | callMethod
  | callMethodHandle
  | callMethodReply
  | cancelMethodCall
  | subscribeEvent
  | subscribeEventReply
  | eventUpdate
  | eventUpdateRequest
  | payloadConsumed
deriving DecidableEq, Repr

namespace MessageType

def code : MessageType → UInt8
  | connect => 1
  | connectReply => 2
  | requestService => 3
  | offerService => 4
  | connectService => 5
  | connectServiceReply => 6
  | callMethod => 7
  | callMethodHandle => 8
  | callMethodReply => 9
  | cancelMethodCall => 10
  | subscribeEvent => 11
  | subscribeEventReply => 12
  | eventUpdate => 13
  | eventUpdateRequest => 14
  | payloadConsumed => 15

def all : List MessageType :=
  [connect, connectReply, requestService, offerService, connectService, connectServiceReply,
    callMethod, callMethodHandle, callMethodReply, cancelMethodCall, subscribeEvent,
    subscribeEventReply, eventUpdate, eventUpdateRequest, payloadConsumed]

end MessageType

/-- The cast of a byte to the enumeration; other values have no enumerator. -/
def getMessageType (byte : UInt8) : Option MessageType :=
  MessageType.all.find? fun type => type.code = byte

theorem getMessageType_code (type : MessageType) : getMessageType type.code = some type := by
  cases type <;> decide

/-! ## Wire structs -/

structure FixedSizeContainer (α : Type) (maxSize : Nat) where
  size : Word 8
  data : List.Vector α maxSize

namespace FixedSizeContainer

variable {α : Type} {maxSize : Nat}

def inCapacity (c : FixedSizeContainer α maxSize) : Bool := c.size.val ≤ maxSize

def codec (element : Codec α) (maxSize : Nat) : Codec (FixedSizeContainer α maxSize) :=
  (Codec.struct (.cons (.word 8) (.cons (element.array maxSize) .nil))).map
    (fun p => ⟨p.1, p.2.1⟩) (fun c => (c.size, c.data, ())) fun _ => rfl

/-- The elements that a loop to `size` visits. -/
def elements (c : FixedSizeContainer α maxSize) : Except Fault (List α) :=
  if c.inCapacity then .ok (c.data.toList.take c.size.val) else .error .pastCapacity

theorem elements_of_inCapacity {c : FixedSizeContainer α maxSize} (h : c.inCapacity = true) :
    c.elements = .ok (c.data.toList.take c.size.val) := if_pos h

theorem elements_of_not_inCapacity {c : FixedSizeContainer α maxSize}
    (h : c.inCapacity = false) : c.elements = .error .pastCapacity := by
  rw [elements, h]
  rfl

end FixedSizeContainer

abbrev FixedString (maxSize : Nat) := FixedSizeContainer (Word 1) maxSize

namespace FixedString

def codec (maxSize : Nat) : Codec (FixedString maxSize) :=
  FixedSizeContainer.codec (.word 1) maxSize

variable {maxSize : Nat}

def byte (w : Word 1) : UInt8 := UInt8.ofNat w.val

/-- `fixed_string_to_string`, and what hash and comparison look at. -/
def toBytes (s : FixedString maxSize) : Except Fault Bytes :=
  s.elements.map (List.map byte)

/-- A copy of the container, to be looked at later. Its bytes past the array are
not known; zeros stand for them. -/
def stored (s : FixedString maxSize) : Bytes :=
  (s.data.toList.take s.size.val).map byte ++ List.replicate (s.size.val - maxSize) 0

end FixedString

/-- `kMax_service_id_size`, `kMax_instance_id_size` and `kMax_client_identifier_size`. -/
def maxIdSize : Nat := 64

/-- `kMax_shared_memory_path_size`, the `NAME_MAX` of the platform. -/
def maxSharedMemoryPathSize : Nat := 255

def maxFindServiceElements : Nat := 16

namespace Wire

structure Service where
  serviceId : FixedString maxIdSize
  major : Word 2
  minor : Word 2

def Service.codec : Codec Service :=
  (Codec.struct (.cons (FixedString.codec maxIdSize)
    (.cons (.struct (.cons (.word 2) (.cons (.word 2) .nil))) .nil))).map
    (fun p => ⟨p.1, p.2.1.1, p.2.1.2.1⟩)
    (fun s => (s.serviceId, (s.major, s.minor, ()), ())) fun _ => rfl

structure SharedMemoryMetadata where
  path : FixedString maxSharedMemoryPathSize
  slotSize : Word 8
  slotCount : Word 8

def SharedMemoryMetadata.codec : Codec SharedMemoryMetadata :=
  (Codec.struct (.cons (FixedString.codec maxSharedMemoryPathSize)
    (.cons (.word 8) (.cons (.word 8) .nil)))).map
    (fun p => ⟨p.1, p.2.1, p.2.2.1⟩) (fun m => (m.path, m.slotSize, m.slotCount, ())) fun _ => rfl

structure ServiceInstance where
  service : Service
  instanceId : FixedString maxIdSize

def ServiceInstance.codec : Codec ServiceInstance :=
  (Codec.struct (.cons Service.codec (.cons (FixedString.codec maxIdSize) .nil))).map
    (fun p => ⟨p.1, p.2.1⟩) (fun s => (s.service, s.instanceId, ())) fun _ => rfl

structure ServiceSharedMemoryConfig where
  service : Service
  instanceId : FixedString maxIdSize
  metadata : SharedMemoryMetadata

def ServiceSharedMemoryConfig.codec : Codec ServiceSharedMemoryConfig :=
  (Codec.struct (.cons Service.codec (.cons (FixedString.codec maxIdSize)
    (.cons SharedMemoryMetadata.codec .nil)))).map
    (fun p => ⟨p.1, p.2.1, p.2.2.1⟩) (fun s => (s.service, s.instanceId, s.metadata, ()))
    fun _ => rfl

structure Connect where
  findServiceElements : FixedSizeContainer ServiceInstance maxFindServiceElements
  sharedMemoryConfigs : FixedSizeContainer ServiceSharedMemoryConfig maxFindServiceElements
  identifier : FixedString maxIdSize

def Connect.codec : Codec Connect :=
  (Codec.struct (.cons (FixedSizeContainer.codec ServiceInstance.codec maxFindServiceElements)
    (.cons (FixedSizeContainer.codec ServiceSharedMemoryConfig.codec maxFindServiceElements)
      (.cons (FixedString.codec maxIdSize) .nil)))).map
    (fun p => ⟨p.1, p.2.1, p.2.2.1⟩)
    (fun m => (m.findServiceElements, m.sharedMemoryConfigs, m.identifier, ())) fun _ => rfl

structure ConnectReply where
  status : Bool

def ConnectReply.codec : Codec ConnectReply :=
  (Codec.struct (.cons .bool .nil)).map (fun p => ⟨p.1⟩) (fun m => (m.status, ())) fun _ => rfl

/-- `Request_service` and `Offer_service`, with `in_use` or `offered`. -/
structure ServiceFlag where
  serviceId : Service
  instanceId : FixedString maxIdSize
  flag : Bool

def ServiceFlag.codec : Codec ServiceFlag :=
  (Codec.struct (.cons Service.codec (.cons (FixedString.codec maxIdSize)
    (.cons .bool .nil)))).map
    (fun p => ⟨p.1, p.2.1, p.2.2.1⟩) (fun m => (m.serviceId, m.instanceId, m.flag, ()))
    fun _ => rfl

structure ConnectService where
  serviceId : Service
  instanceId : FixedString maxIdSize
  requiredId : Word 8
  metadata : SharedMemoryMetadata
  inUse : Bool

def ConnectService.codec : Codec ConnectService :=
  (Codec.struct (.cons Service.codec (.cons (FixedString.codec maxIdSize) (.cons (.word 8)
    (.cons SharedMemoryMetadata.codec (.cons .bool .nil)))))).map
    (fun p => ⟨p.1, p.2.1, p.2.2.1, p.2.2.2.1, p.2.2.2.2.1⟩)
    (fun m => (m.serviceId, m.instanceId, m.requiredId, m.metadata, m.inUse, ())) fun _ => rfl

structure ConnectServiceReply where
  requiredId : Word 8
  providedId : Word 8
  metadata : SharedMemoryMetadata
  numMethods : Word 2
  numEvents : Word 2

def ConnectServiceReply.codec : Codec ConnectServiceReply :=
  (Codec.struct (.cons (.word 8) (.cons (.word 8) (.cons SharedMemoryMetadata.codec
    (.cons (.word 2) (.cons (.word 2) .nil)))))).map
    (fun p => ⟨p.1, p.2.1, p.2.2.1, p.2.2.2.1, p.2.2.2.2.1⟩)
    (fun m => (m.requiredId, m.providedId, m.metadata, m.numMethods, m.numEvents, ()))
    fun _ => rfl

structure SubscribeEvent where
  providedId : Word 8
  eventId : Word 2
  subscribe : Bool

def SubscribeEvent.codec : Codec SubscribeEvent :=
  (Codec.struct (.cons (.word 8) (.cons (.word 2) (.cons .bool .nil)))).map
    (fun p => ⟨p.1, p.2.1, p.2.2.1⟩) (fun m => (m.providedId, m.eventId, m.subscribe, ()))
    fun _ => rfl

structure SharedMemoryHandle where
  slotIndex : Word 8
  usedBytes : Word 8

def SharedMemoryHandle.codec : Codec SharedMemoryHandle :=
  (Codec.struct (.cons (.word 8) (.cons (.word 8) .nil))).map
    (fun p => ⟨p.1, p.2.1⟩) (fun m => (m.slotIndex, m.usedBytes, ())) fun _ => rfl

structure EventUpdate where
  requiredId : Word 8
  eventId : Word 2
  payload : SharedMemoryHandle

def EventUpdate.codec : Codec EventUpdate :=
  (Codec.struct (.cons (.word 8) (.cons (.word 2) (.cons SharedMemoryHandle.codec .nil)))).map
    (fun p => ⟨p.1, p.2.1, p.2.2.1⟩) (fun m => (m.requiredId, m.eventId, m.payload, ()))
    fun _ => rfl

structure PayloadConsumed where
  requiredId : Word 8
  handle : SharedMemoryHandle

def PayloadConsumed.codec : Codec PayloadConsumed :=
  (Codec.struct (.cons (.word 8) (.cons SharedMemoryHandle.codec .nil))).map
    (fun p => ⟨p.1, p.2.1⟩) (fun m => (m.requiredId, m.handle, ())) fun _ => rfl

/-- The sizes that a compiler gives the structs on a 64-bit platform. -/
example : (Connect.codec.size, ServiceFlag.codec.size, ConnectService.codec.size,
    ConnectServiceReply.codec.size, SubscribeEvent.codec.size, EventUpdate.codec.size,
    PayloadConsumed.codec.size) = (9432, 160, 448, 304, 16, 32, 24) := by decide

end Wire

/-! ## Casting a frame -/

/-- The bytes of a frame and the address they are at. -/
structure Frame where
  bytes : Bytes
  address : Nat

def messageFrame {α : Type} (payload : Codec α) : Codec ((Word 1 × Word 2 × Unit) × α × Unit) :=
  .struct (.cons (.struct (.cons (.word 1) (.cons (.word 2) .nil))) (.cons payload .nil))

def checkAndCast {α : Type} (type : MessageType) (payload : Codec α) (frame : Frame) :
    Except Fault (Option α) :=
  match frame.bytes with
  | [] => .ok none
  | byte :: _ =>
      if getMessageType byte ≠ some type then .ok none
      else if frame.bytes.length < (messageFrame payload).size then .ok none
      else if frame.address % (messageFrame payload).align ≠ 0 then .ok none
      else
        match (messageFrame payload).read frame.bytes 0 with
        | none => .error .pastFrame
        | some (header, msg, _) =>
            if header.2.1.val ≠ payload.size then .ok none else .ok (some msg)

/-- The length test keeps every access within the frame. -/
theorem checkAndCast_ne_error {α : Type} {type : MessageType} {payload : Codec α} {frame : Frame}
    {fault : Fault} : checkAndCast type payload frame ≠ .error fault := by
  unfold checkAndCast
  split
  · simp
  next byte rest hbytes =>
    split
    · simp
    · split
      · simp
      next hlength =>
        split
        · simp
        · have hread := (messageFrame payload).read_isSome frame.bytes 0 (by omega)
          obtain ⟨⟨header, msg, _⟩, hread⟩ := Option.isSome_iff_exists.1 hread
          rw [hread]
          simp only
          split <;> simp

/-- The payload that a frame is taken for, if it passes the tests. -/
def Frame.cast? {α : Type} (frame : Frame) (type : MessageType) (payload : Codec α) : Option α :=
  (checkAndCast type payload frame).toOption.join

theorem checkAndCast_eq {α : Type} (type : MessageType) (payload : Codec α) (frame : Frame) :
    checkAndCast type payload frame = .ok (frame.cast? type payload) := by
  cases h : checkAndCast type payload frame with
  | error fault => exact absurd h checkAndCast_ne_error
  | ok msg => simp [Frame.cast?, h, Except.toOption]

/-- The frame of a message, as `Reply_channel::send` hands it to the channel. -/
def encode {α : Type} (type : MessageType) (payload : Codec α) (msg : α) (address : Nat) : Frame :=
  ⟨(messageFrame payload).write
    ((⟨type.code.toNat, type.code.toNat_lt⟩, ⟨payload.size % 256 ^ 2, Nat.mod_lt _ (by decide)⟩, ()),
      msg, ()), address⟩

theorem exists_bytes_encode {α : Type} (type : MessageType) (payload : Codec α) (msg : α)
    (address : Nat) :
    ∃ rest, (encode type payload msg address).bytes = type.code :: rest := by
  have hbyte : UInt8.ofNat (type.code.toNat % 256) = type.code := by
    rw [Nat.mod_eq_of_lt type.code.toNat_lt, UInt8.ofNat_toNat]
  simp only [encode, messageFrame, Codec.struct, Codec.Fields.cons, Codec.word, roundUp,
    Nat.zero_mod, Nat.zero_add, Nat.add_sub_cancel_left, Nat.sub_zero, Nat.mod_self,
    List.replicate_zero, List.nil_append, leBytes, List.cons_append, hbyte]
  exact ⟨_, rfl⟩

theorem checkAndCast_of_read {α : Type} {type : MessageType} {payload : Codec α} {frame : Frame}
    {byte : UInt8} {rest : Bytes} {header : Word 1 × Word 2 × Unit} {msg : α}
    (hbytes : frame.bytes = byte :: rest) (htype : getMessageType byte = some type)
    (hlength : (messageFrame payload).size ≤ frame.bytes.length)
    (haddress : frame.address % (messageFrame payload).align = 0)
    (hread : (messageFrame payload).read frame.bytes 0 = some (header, msg, ()))
    (hsize : header.2.1.val = payload.size) :
    checkAndCast type payload frame = .ok (some msg) := by
  have hlong : ¬ frame.bytes.length < (messageFrame payload).size := by omega
  unfold checkAndCast
  rw [hread]
  split
  next hnil => simp [hnil] at hbytes
  next byte' rest' hcons =>
    obtain ⟨rfl, -⟩ : byte' = byte ∧ rest' = rest := by
      simpa [hbytes, eq_comm] using hcons
    simp [htype, hlong, haddress, hsize]

/-- What a peer sends is what is received. -/
theorem checkAndCast_encode {α : Type} (type : MessageType) {payload : Codec α} (msg : α)
    {address : Nat} (haddress : address % (messageFrame payload).align = 0)
    (hsize : payload.size < 256 ^ 2) :
    checkAndCast type payload (encode type payload msg address) = .ok (some msg) := by
  obtain ⟨rest, hbytes⟩ := exists_bytes_encode type payload msg address
  have hread := (messageFrame payload).read_write []
    ((⟨type.code.toNat, type.code.toNat_lt⟩,
      ⟨payload.size % 256 ^ 2, Nat.mod_lt _ (by decide)⟩, ()), msg, ()) []
  rw [List.nil_append, List.append_nil, List.length_nil] at hread
  exact checkAndCast_of_read hbytes (getMessageType_code type)
    ((messageFrame payload).length_write _).ge haddress hread (Nat.mod_eq_of_lt hsize)

end SomeipGateway
