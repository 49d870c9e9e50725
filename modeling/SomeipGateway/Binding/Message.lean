import Mathlib.Algebra.Ring.Nat
import SomeipGateway.Lib.Table

/-! # Wire messages and outward calls of the gateway IPC binding

The nine message types that `on_receive_message` dispatches, and the calls a
critical section of the binding makes on its environment: sends on a reply
channel, calls on SOCom connectors, destructors that run after the lock is
released, and assertions that fail without undefined behaviour behind them.

`Keys` numbers the (service, instance) pairs of one process; the pair itself is
the key here. Remote handles and event ids are natural numbers: the generators
of the source are 64 bits wide and only ever count up.
-/

namespace SomeipGateway

abbrev Bytes := List UInt8

structure Service where
  serviceId : Bytes
  major : Nat
  minor : Nat
deriving DecidableEq, Repr

/-- A service and its instance, what `Key_t` stands for. -/
structure Key where
  service : Service
  instanceId : Bytes
deriving DecidableEq, Repr

structure SharedMemoryHandle where
  slotIndex : Nat
  usedBytes : Nat
deriving DecidableEq, Repr

structure SharedMemoryMetadata where
  path : Bytes
  slotSize : Nat
  slotCount : Nat
deriving DecidableEq, Repr

structure ServiceCounts where
  numMethods : Nat := 0
  numEvents : Nat := 0
deriving DecidableEq, Repr

inductive Message where
  | connect
  | connectReply (status : Bool)
  | requestService (key : Key) (inUse : Bool)
  | offerService (key : Key) (offered : Bool)
  | connectService (key : Key) (requiredId : Nat) (metadata : SharedMemoryMetadata)
      (inUse : Bool)
  | connectServiceReply (requiredId providedId : Nat) (metadata : SharedMemoryMetadata)
      (counts : ServiceCounts)
  | subscribeEvent (providedId : Nat) (eventId : Nat) (subscribe : Bool)
  | eventUpdate (requiredId : Nat) (eventId : Nat) (payload : SharedMemoryHandle)
  | payloadConsumed (requiredId : Nat) (handle : SharedMemoryHandle)
deriving DecidableEq, Repr

/-- The destruction callback of a payload read from a peer's pool. `about` is the
service whose connector the payload was handed to; the callback does not read it. -/
structure RemotePayload (ι : Type) where
  client : ι
  requiredId : Nat
  handle : SharedMemoryHandle
  about : Key
deriving DecidableEq, Repr

/-- `socom::Payload`: a local slot, or a view of a peer's slot with its callback. -/
structure Payload (ι : Type) where
  slotHandle : Nat
  size : Nat
  origin : Option (RemotePayload ι) := none
deriving DecidableEq, Repr

/-- The bridge-owned `Client_connector` of a service. `bridged` says that the
runtime asked the service bridges when it was created, so that the connector
owns a `Service_request`. -/
structure ClientConnector where
  bridged : Bool
deriving DecidableEq, Repr

/-- An `Enabled_server_connector` made from a `Connect_service_reply`; its
callbacks capture the peer and the provided id. -/
structure EnabledConnector (ι : Type) where
  client : ι
  providedId : Nat
  requiredId : Nat
  counts : ServiceCounts
deriving DecidableEq, Repr

inductive Assertion where
  | mappingExists
  | connectionMissing
  | connectorMissing
  | updateEventFailed
  | serverConnectorFailed
  | clientIdExists
  | connectRefused
deriving DecidableEq, Repr

inductive Effect (ι : Type) where
  /-- A message handed to the reply channel of `client`, and whether `send`
  succeeded. `about` names the service it is sent for and is not on the wire. -/
  | send (client : ι) (about : Option Key) (msg : Message) (ok : Bool)
  | subscribeEvent (key : Key) (eventId : Nat)
  | unsubscribeEvent (key : Key) (eventId : Nat)
  | updateEvent (key : Key) (connector : EnabledConnector ι) (eventId : Nat)
      (payload : Payload ι)
  | releasePayload (payload : Payload ι)
  | destroyServerConnector (key : Key) (connector : EnabledConnector ι)
  | destroyClientConnector (key : Key) (connector : ClientConnector)
  /-- A `send_request_service` that was not skipped. -/
  | requestSent (key : Key) (inUse : Bool)
  | assertFailed (site : Assertion)
deriving DecidableEq, Repr

/-- What a critical section asks of the transport and of the slot manager
factory. A service without a shared memory configuration has no metadata. -/
structure Env (ι : Type) where
  link : ι → Message → Bool
  metadata : Key → Option SharedMemoryMetadata

variable {ι : Type}

def Env.send (env : Env ι) (client : ι) (about : Option Key) (msg : Message) : Effect ι :=
  .send client about msg (env.link client msg)

/-- Run `f` over a list, threading the state and collecting the effects; `none`
is undefined behaviour in one of the rounds. -/
def foldEffects {σ α : Type} (f : σ → α → Option (σ × List (Effect ι))) :
    σ → List α → Option (σ × List (Effect ι))
  | s, [] => some (s, [])
  | s, a :: rest => do
      let (s, effects) ← f s a
      let (s, more) ← foldEffects f s rest
      some (s, effects ++ more)

end SomeipGateway
