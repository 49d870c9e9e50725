import SomeipGateway.Binding.Message

/-! # The service records of SOCom

A `Service_record` has a place for one server and one client. The database finds
it by the id and the major version of the interface and by the instance: its key
comparison ignores the minor version, which is checked when a client and a server
of one record are brought together.
-/

namespace SomeipGateway

namespace Socom

abbrev ServerId := Nat

abbrev ClientId := Nat

/-- What `Minor_version_ignoring_key_equal` and the instance tell apart. -/
structure RecordKey where
  serviceId : Bytes
  major : Nat
  instanceId : Bytes
deriving DecidableEq, Repr

def recordKey (key : Key) : RecordKey :=
  ⟨key.service.serviceId, key.service.major, key.instanceId⟩

def isMinorVersionCompatible (server client : Service) : Bool :=
  client.minor ≤ server.minor

/-- Two keys of one record differ at most in the minor version. -/
theorem eq_of_recordKey_eq {key key' : Key} (h : recordKey key = recordKey key')
    (hminor : key.service.minor = key'.service.minor) : key = key' := by
  obtain ⟨⟨id, major, minor⟩, inst⟩ := key
  obtain ⟨⟨id', major', minor'⟩, inst'⟩ := key'
  simp only [recordKey, RecordKey.mk.injEq] at h
  obtain ⟨rfl, rfl, rfl⟩ := h
  cases hminor
  rfl

/-- `Interfaced_server` and `Interfaced_client`: the connector behind the endpoint
or the indication, and the interface it was registered with. -/
structure Interfaced where
  interface : Service
  connector : Nat
deriving DecidableEq, Repr

structure Record where
  server : Option Interfaced := none
  client : Option Interfaced := none
deriving DecidableEq, Repr

namespace Record

/-- `register_server_connector` returns the client it finds. A server that is
there already trips the assertion; without assertions it is replaced. -/
def registerServerConnector (r : Record) (interface : Service) (server : ServerId) :
    Record × Option Interfaced :=
  ({ r with server := some ⟨interface, server⟩ }, r.client)

/-- `register_client_connector` returns the server it finds, and nothing when the
record has a client already. -/
def registerClientConnector (r : Record) (interface : Service) (client : ClientId) :
    Option (Record × Option Interfaced) :=
  if r.client.isSome then none
  else some ({ r with client := some ⟨interface, client⟩ }, r.server)

def resetServer (r : Record) : Record := { r with server := none }

def resetClient (r : Record) : Record := { r with client := none }

theorem registerClientConnector_eq_some {r : Record} {interface : Service} {client : ClientId}
    {result : Record × Option Interfaced} :
    r.registerClientConnector interface client = some result ↔
      r.client = none ∧ result = ({ r with client := some ⟨interface, client⟩ }, r.server) := by
  unfold registerClientConnector
  cases r.client <;> simp [eq_comm]

end Record

/-- A service in the minor version, for examples of runs. -/
def someKey (minor : Nat) : Key := ⟨⟨[1], 1, minor⟩, [1]⟩

end Socom

end SomeipGateway
