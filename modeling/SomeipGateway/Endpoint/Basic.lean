import SomeipGateway.Binding.BindingBase
import SomeipGateway.Socom.Registry

/-! # An endpoint: the binding inside its process

The binding runs beside a SOCom runtime that has one record per service, with at
most one registered server and one registered client. An outward call of the
binding on a connector acts on the record, and SOCom answers some of them by
calling back into the binding. A step of the endpoint is one API call of an
application, one received message, or the second half of a reply handler, with
everything it calls.
-/

namespace SomeipGateway

/-- Who enabled the server of a record: an application, or the binding with a
connector made from a peer's reply. -/
inductive Server (ι : Type) where
  | application (counts : ServiceCounts)
  | bridge (connector : EnabledConnector ι)
deriving DecidableEq, Repr

def Server.counts {ι : Type} : Server ι → ServiceCounts
  | .application counts => counts
  | .bridge connector => connector.counts

/-- Who registered the client of a record. `bridged` says that it owns a
`Service_request` of the bridge. -/
inductive Client where
  | application (bridged : Bool)
  | bridge
deriving DecidableEq, Repr

/-- `Service_record`, with the events the client is subscribed to at the server. -/
structure Record (ι : Type) where
  server : Option (Server ι) := none
  client : Option Client := none
  subscribed : Finset Nat := ∅
deriving DecidableEq

structure Endpoint (ι : Type) where
  binding : Binding ι := {}
  /-- The records of two minor versions of a service, one in SOCom, are kept apart:
  an endpoint is to use one version of a service (`Event.keepsVersion`). -/
  records : Key → Record ι := fun _ => {}
  /-- The services of which an application holds a server connector, enabled or not;
  it has their identifiers. -/
  made : Finset Key := ∅
  replies : List (PendingReply ι) := []
  /-- The replies whose handler points to a service state that is erased. -/
  dangling : List (PendingReply ι) := []
  payloads : List (Payload ι) := []

inductive Event (ι : Type) where
  | makeClientConnector (key : Key) (counts : ServiceCounts)
  | destroyClientConnector (key : Key)
  | makeServerConnector (key : Key)
  | destroyServerConnector (key : Key)
  /-- The connector that the application holds is enabled, or one that is made for it. -/
  | enableServerConnector (key : Key) (counts : ServiceCounts)
  /-- A connector that the application does not hold is destroyed. -/
  | disableServerConnector (key : Key)
  | subscribeEvent (key : Key) (eventId : Nat)
  | unsubscribeEvent (key : Key) (eventId : Nat)
  | updateEvent (key : Key) (eventId : Nat) (slotHandle size : Nat)
  | dropPayload (index : Nat)
  | addClient (client : ι)
  | removeClient (client : ι)
  | receive (client : ι) (msg : Message)
  | finishReply (client : ι)
deriving DecidableEq, Repr

variable {ι : Type}

/-- The service that the event or its message names. -/
def Event.names : Event ι → Option Key
  | .makeClientConnector key _ | .destroyClientConnector key | .makeServerConnector key
  | .destroyServerConnector key | .enableServerConnector key _ | .disableServerConnector key
  | .subscribeEvent key _ | .unsubscribeEvent key _ | .updateEvent key _ _ _ => some key
  | .receive _ (.requestService key _) | .receive _ (.offerService key _)
  | .receive _ (.connectService key _ _ _) => some key
  | _ => none

/-- The event names the service in no other minor version. -/
def Event.keepsVersion (key : Key) (event : Event ι) : Bool :=
  event.names.all fun k => Socom.recordKey k ≠ Socom.recordKey key || k = key

/-- The event names every service in the minor version that is chosen for it. -/
def Event.keepsVersions (minor : Socom.RecordKey → Nat) (event : Event ι) : Bool :=
  event.names.all fun k => k.service.minor = minor (Socom.recordKey k)

namespace Endpoint

variable [DecidableEq ι]

def setRecord (n : Endpoint ι) (key : Key) (record : Record ι) : Endpoint ι :=
  { n with records := Function.update n.records key record }

def setBinding (n : Endpoint ι) (r : Binding ι × List (Effect ι)) :
    Endpoint ι × List (Effect ι) :=
  ({ n with binding := r.1 }, r.2)

/-! ## What SOCom does with the calls of the binding -/

/-- `on_event_subscription_change` of a server; an application's is not ours. -/
def onEventSubscriptionChange (env : Env ι) (n : Endpoint ι) (key : Key) (eventId : Nat)
    (subscribed : Bool) : Server ι → List (Effect ι)
  | .application _ => []
  | .bridge connector =>
      if connector.client ∈ n.binding.connections then
        [env.send connector.client (some key)
          (.subscribeEvent connector.providedId eventId subscribed)]
      else []

def socomSubscribe (env : Env ι) (n : Endpoint ι) (key : Key) (eventId : Nat) :
    Endpoint ι × List (Effect ι) :=
  let record := n.records key
  match record.server with
  | none => (n, [])
  | some server =>
      if eventId < server.counts.numEvents ∧ eventId ∉ record.subscribed then
        (n.setRecord key { record with subscribed := insert eventId record.subscribed },
          n.onEventSubscriptionChange env key eventId true server)
      else (n, [])

def socomUnsubscribe (env : Env ι) (n : Endpoint ι) (key : Key) (eventId : Nat) :
    Endpoint ι × List (Effect ι) :=
  let record := n.records key
  match record.server with
  | none => (n, [])
  | some server =>
      if eventId < server.counts.numEvents ∧ eventId ∈ record.subscribed then
        (n.setRecord key { record with subscribed := record.subscribed.erase eventId },
          n.onEventSubscriptionChange env key eventId false server)
      else (n, [])

/-- `Update_event` at the client of a record. The application keeps the payload
until it drops it; without a subscriber it is destroyed at once. -/
def socomUpdate (env : Env ι) (n : Endpoint ι) (key : Key) (eventId : Nat)
    (payload : Payload ι) : Option (Endpoint ι × List (Effect ι)) :=
  let record := n.records key
  if eventId ∈ record.subscribed then
    match record.client with
    | none => some (n, [.releasePayload payload])
    | some (.application _) => some ({ n with payloads := n.payloads ++ [payload] }, [])
    | some .bridge => (n.binding.sendEventUpdate env key eventId payload).map n.setBinding
  else some (n, [.releasePayload payload])

/-- The registered client hears that the server comes or goes. -/
def notifyClient (env : Env ι) (n : Endpoint ι) (key : Key) (isAvailable : Bool)
    (counts : ServiceCounts) : Option (Endpoint ι × List (Effect ι)) :=
  match (n.records key).client with
  | some .bridge =>
      (n.binding.serviceStateChange env key isAvailable counts).map n.setBinding
  | _ => some (n, [])

/-- `Impl::disable` of a server: subscriptions are dropped without callbacks. -/
def disableServer (env : Env ι) (n : Endpoint ι) (key : Key) :
    Option (Endpoint ι × List (Effect ι)) :=
  match (n.records key).server with
  | none => some (n, [])
  | some server =>
      (n.setRecord key { n.records key with server := none, subscribed := ∅ }).notifyClient env
        key false server.counts

/-- `Impl::remove_client` of a server: the client is unsubscribed event by event. -/
def unsubscribeAll (env : Env ι) (n : Endpoint ι) (key : Key) : List (Effect ι) :=
  let record := n.records key
  match record.server with
  | none => []
  | some server =>
      ((List.range server.counts.numEvents).filter fun eventId => eventId ∈ record.subscribed)
        |>.flatMap fun eventId => n.onEventSubscriptionChange env key eventId false server

/-- The replies whose service state is gone once the binding is `b`. -/
def erased (n : Endpoint ι) (b : Binding ι) : List (PendingReply ι) :=
  n.replies.filter fun reply =>
    (n.binding.serviceStates.lookup reply.key).isSome &&
      (b.serviceStates.lookup reply.key).isNone

/-- Destruction of the registered client: the registration is freed before its
bridge request is released. -/
def destroyClient (env : Env ι) (n : Endpoint ι) (key : Key) (bridged : Bool) :
    Option (Endpoint ι × List (Effect ι)) := do
  let (b, effects) ←
    (if bridged then n.binding.sendRequestService env key {} false else some (n.binding, []))
  let freed := n.setRecord key { n.records key with client := none, subscribed := ∅ }
  some ({ freed with binding := b, dangling := n.dangling ++ n.erased b },
    n.unsubscribeAll env key ++ effects)

/-- One outward call, and the calls it causes in turn. The runtime hands out one
server connector per service, so the one destroyed is the one in the record. -/
def performOne (env : Env ι) (n : Endpoint ι) :
    Effect ι → Option (Endpoint ι × List (Effect ι))
  | .subscribeEvent key eventId => some (n.socomSubscribe env key eventId)
  | .unsubscribeEvent key eventId => some (n.socomUnsubscribe env key eventId)
  | .updateEvent key connector eventId payload =>
      if connector.counts.numEvents ≤ eventId then
        some (n, [.releasePayload payload, .assertFailed .updateEventFailed])
      else n.socomUpdate env key eventId payload
  | .releasePayload payload =>
      match payload.origin with
      | none => some (n, [])
      | some origin =>
          if origin.client ∈ n.binding.connections then
            some (n, [env.send origin.client (some origin.about)
              (.payloadConsumed origin.requiredId origin.handle)])
          else some (n, [])
  | .destroyServerConnector key _ => n.disableServer env key
  | .destroyClientConnector key connector => n.destroyClient env key connector.bridged
  | .send _ _ _ _ | .requestSent _ _ | .assertFailed _ => some (n, [])

/-- Perform calls in order, each with everything it causes. Calls nest at most
three deep: a client connector, the server connector its request kept alive, and
the offers sent for that. -/
def perform (env : Env ι) : Nat → Endpoint ι → List (Effect ι) →
    Option (Endpoint ι × List (Effect ι))
  | 0, n, effects => some (n, effects)
  | depth + 1, n, effects =>
      foldEffects (fun n effect => do
        let (n, caused) ← n.performOne env effect
        let (n, more) ← perform env depth n caused
        some (n, effect :: more)) n effects

def performAll (env : Env ι) (r : Endpoint ι × List (Effect ι)) :
    Option (Endpoint ι × List (Effect ι)) :=
  perform env 3 r.1 r.2

/-! ## Steps -/

/-- What `make_client_connector` finds in the record. -/
def clientConnectorResult (n : Endpoint ι) (key : Key) : ClientConnectorResult :=
  match (n.records key).client, (n.records key).server with
  | some _, _ => .failed
  | none, some server => .connected server.counts
  | none, none => .waiting

/-- `handle_request_service_message` and the registration of the client it makes:
the record has a bridge client once the binding holds a connector. -/
def receiveRequest (env : Env ι) (n : Endpoint ι) (client : ι) (key : Key) (inUse : Bool) :
    Option (Endpoint ι × List (Effect ι)) := do
  let (b, effects) ←
    n.binding.handleRequestServiceMessage env client key inUse (n.clientConnectorResult key)
  let made := !n.binding.serviceStates.hasClientConnector key &&
    b.serviceStates.hasClientConnector key
  let n := if made then n.setRecord key { n.records key with client := some .bridge } else n
  some ({ n with binding := b }, effects)

/-- `on_receive_message`. -/
def onReceiveMessage (env : Env ι) (n : Endpoint ι) (client : ι) :
    Message → Option (Endpoint ι × List (Effect ι))
  | .connect => some (n, n.binding.handleConnectMessage env client)
  | .connectReply status => (n.binding.handleConnectReplyMessage env status).map n.setBinding
  | .requestService key inUse => n.receiveRequest env client key inUse
  | .offerService key offered =>
      (n.binding.handleOfferServiceMessage env client key offered).map n.setBinding
  | .connectService key requiredId metadata inUse =>
      (n.binding.handleConnectServiceMessage env client key requiredId metadata inUse).map
        n.setBinding
  | .connectServiceReply requiredId providedId metadata counts => do
      let (b, effects, reply) ←
        n.binding.handleConnectServiceReplyMessage env client requiredId providedId metadata counts
      some ({ n with binding := b, replies := n.replies ++ reply.toList }, effects)
  | .subscribeEvent providedId eventId subscribe =>
      some (n.setBinding (n.binding.handleSubscribeEventMessage client providedId eventId subscribe))
  | .eventUpdate requiredId eventId handle =>
      (n.binding.handleEventUpdateMessage client requiredId eventId handle).map n.setBinding
  | .payloadConsumed requiredId handle =>
      some (n.setBinding (n.binding.handlePayloadConsumedMessage client requiredId handle))

/-- The rest of `handle_connect_service_reply_message`: the server connector is
made and enabled without the lock, then stored under it. The service and the
instance are read through the pointer of the first section. -/
def finishReply (env : Env ι) (n : Endpoint ι) (reply : PendingReply ι) :
    Option (Endpoint ι × List (Effect ι)) :=
  let n := { n with replies := n.replies.erase reply }
  if reply ∈ n.dangling then none
  else if (n.records reply.key).server.isSome ∨ reply.key ∈ n.made then
    some (n, [.assertFailed .serverConnectorFailed])
  else do
    let record := { n.records reply.key with server := some (.bridge reply.connector) }
    let (n, offers) ←
      (n.setRecord reply.key record).notifyClient env reply.key true reply.connector.counts
    let (states, dropped) :=
      n.binding.serviceStates.addServerConnector reply.key reply.connector
    some ({ n with binding := { n.binding with serviceStates := states } },
      offers ++ dropped.toList.map (.destroyServerConnector reply.key))

/-- The reply of `client` whose handler is between its critical sections. The
messages of one peer are handled one after the other. -/
def replyOf (n : Endpoint ι) (client : ι) : Option (PendingReply ι) :=
  n.replies.find? fun reply => reply.connector.client = client

def act (env : Env ι) (n : Endpoint ι) : Event ι → Option (Endpoint ι × List (Effect ι))
  | .makeClientConnector key counts =>
      match n.clientConnectorResult key with
      | .failed => some (n, [])
      | .connected _ =>
          some (n.setRecord key { n.records key with client := some (.application false) }, [])
      | .waiting =>
          let n := n.setRecord key { n.records key with client := some (.application true) }
          (n.binding.sendRequestService env key counts true).map n.setBinding
  | .destroyClientConnector key =>
      match (n.records key).client with
      | some (.application bridged) => n.destroyClient env key bridged
      | _ => some (n, [])
  | .makeServerConnector key =>
      if (n.records key).server.isSome then some (n, [])
      else some ({ n with made := insert key n.made }, [])
  | .destroyServerConnector key =>
      match (n.records key).server with
      | some (.application _) => some (n, [])
      | _ => some ({ n with made := n.made.erase key }, [])
  | .enableServerConnector key counts =>
      match (n.records key).server with
      | some _ => some (n, [])
      | none =>
          (n.setRecord key { n.records key with server := some (.application counts) }).notifyClient
            env key true counts
  | .disableServerConnector key =>
      match (n.records key).server with
      | some (.application _) => n.disableServer env key
      | _ => some (n, [])
  | .subscribeEvent key eventId =>
      match (n.records key).client with
      | some (.application _) => some (n.socomSubscribe env key eventId)
      | _ => some (n, [])
  | .unsubscribeEvent key eventId =>
      match (n.records key).client with
      | some (.application _) => some (n.socomUnsubscribe env key eventId)
      | _ => some (n, [])
  | .updateEvent key eventId slotHandle size =>
      match (n.records key).server with
      | some (.application counts) =>
          if eventId < counts.numEvents then
            n.socomUpdate env key eventId { slotHandle := slotHandle, size := size }
          else some (n, [])
      | _ => some (n, [])
  | .dropPayload index =>
      match n.payloads[index]? with
      | none => some (n, [])
      | some payload =>
          some ({ n with payloads := n.payloads.eraseIdx index }, [.releasePayload payload])
  | .addClient client => some (n.setBinding (n.binding.addClient client))
  | .removeClient client => some (n.setBinding (n.binding.removeClient client))
  | .receive client msg =>
      match n.replyOf client with
      | some _ => none
      | none => n.onReceiveMessage env client msg
  | .finishReply client =>
      match n.replyOf client with
      | none => none
      | some reply => n.finishReply env reply

/-- One atomic step with everything it calls. `none` is undefined behaviour, or
a message or a second section that is not due. -/
def step (env : Env ι) (n : Endpoint ι) (event : Event ι) :
    Option (Endpoint ι × List (Effect ι)) :=
  (n.act env event).bind (performAll env)

end Endpoint

end SomeipGateway
