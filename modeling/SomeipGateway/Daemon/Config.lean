import SomeipGateway.Binding.Message

/-! # The configuration of the daemons

What gatewayd and someipd read of `mw_someip_config`. Vectors of a flatbuffer
table may be absent, which is not the same as being empty.
-/

namespace SomeipGateway

namespace Daemon

/-- Size of a SOME/IP message header. -/
def kSomeipFullHeaderSize : Nat := 16

def kMaxMessageSize : Nat := 1500

def kMaxSampleCount : Nat := 10

/-- `NAME_MAX`, the bound of a shared memory path. -/
def kMaxSharedMemoryPathSize : Nat := 255

/-- An event, with the buffer size of its null serializer if it has one. -/
structure EventConfig where
  eventId : Nat
  eventName : Bytes
  maxMessageSize : Option UInt32 := none
deriving DecidableEq, Repr

structure ServiceInstance where
  instanceSpecifier : Bytes
  instanceId : Nat
deriving DecidableEq, Repr

structure ServiceType where
  serviceTypeName : Bytes
  serviceId : Nat
  versionMajor : Nat
  versionMinor : Nat
  events : Option (List EventConfig)
  localServiceInstances : Option (List ServiceInstance)
  remoteServiceInstances : Option (List ServiceInstance)
deriving DecidableEq, Repr

namespace ServiceType

def eventList (t : ServiceType) : List EventConfig := t.events.getD []

/-- The interface identifier and the instance, which is the service name again.
The minor version is cut to 16 bits. -/
def key (t : ServiceType) : Key :=
  ⟨⟨t.serviceTypeName, t.versionMajor, t.versionMinor % 2 ^ 16⟩, t.serviceTypeName⟩

end ServiceType

/-! ## Serializers -/

/-- A serializer plugin: whether it has a serializer for an event of a service
type, and the maximum serialized size that one reports. -/
abbrev Serializers := Bytes → Bytes → Option UInt64

/-- `lookup_serialization_config` of the null serializer: the first service type of
that name decides. -/
def nullSerializer (types : List ServiceType) : Serializers := fun typeName eventName =>
  match types.find? fun t => t.serviceTypeName = typeName with
  | none => none
  | some t =>
      match t.eventList.find? fun e => e.eventName = eventName with
      | none => none
      | some event => event.maxMessageSize.map UInt32.toUInt64

/-! ## Shared memory paths -/

def ofString (string : String) : Bytes := string.toList.map fun c => UInt8.ofNat c.toNat

/-- `flatten_service_type_name`: leading slashes go, the others become underscores. -/
def flattenServiceTypeName (name : Bytes) : Bytes :=
  (name.dropWhile (· = 47)).map fun byte => if byte = 47 then 95 else byte

def makePath (start name : Bytes) (serviceId : Nat) : Option Bytes :=
  let path := start ++ flattenServiceTypeName name ++ [95] ++ ofString (toString serviceId)
  if kMaxSharedMemoryPathSize < path.length then none else some path

def makeSharedMemoryPath (t : ServiceType) : Option Bytes :=
  makePath (ofString "/") t.serviceTypeName t.serviceId

def makeCounterpartSharedMemoryPath (t : ServiceType) : Option Bytes :=
  makePath (ofString "/counterpart_") t.serviceTypeName t.serviceId

end Daemon

end SomeipGateway
