import SomeipGateway.Lib.Run
import SomeipGateway.Lib.Store
import SomeipGateway.Socom.ServerConnector

/-! # Clients and servers of a SOCom runtime

Creating a client and enabling a server are symmetric: a lock section of the
registry enters the one and takes a copy of the other, and the copy is acted upon
after the lock is released. The one who acts calls the indication of the client, which
connects it to the server and tells it that the service is available.

A step below is one lock section or one callback. Who is between two sections keeps
the local variables of the function in a phase or in a stage. Reference tokens are
not counted: a token has a copy as long as somebody is in a place that holds one.
-/

namespace SomeipGateway

namespace Socom

inductive ServiceState where
  | notAvailable
  | available
deriving DecidableEq, Repr

abbrev ConnectionId := Nat

abbrev CallId := Nat

/-- What the reference token of a `Server_connector_endpoint` stands for. -/
structure Connection where
  client : ClientId
  server : ServerId
deriving DecidableEq, Repr

/-! ## Servers, clients and threads -/

inductive ServerPhase where
  | absent
  | disabled
  /-- The server has its record, and the client it found there is being told. -/
  | enabling
  | enabled
  /-- `disable` has left the record. -/
  | unregistered
  /-- No client can connect; `disable` waits for the copies of the listen endpoint. -/
  | stopping
  /-- `send_all` has copied the endpoint of the client. -/
  | notifying (client : ClientId)
  /-- The client has given up its endpoint of the server. -/
  | informing (client : ClientId)
  /-- `disable` waits for the endpoints of the server. -/
  | draining
  /-- The destructor is about to give up the identifier. -/
  | erasing
  | destroyed
deriving DecidableEq, Repr

/-- A connector as the constructor leaves it. -/
def Connector.disabled (numEvents : Nat) : Connector :=
  { Connector.enabled numEvents (fun _ => .update) with listening := false }

structure ServerObject where
  key : Key := ⟨⟨[], 0, 0⟩, []⟩
  connector : Connector := .disabled 0
  phase : ServerPhase := .absent
  /-- How often the server was enabled. -/
  period : Nat := 0
  /-- `disable` is called by the destructor. -/
  destroying : Bool := false

instance : Inhabited ServerObject := ⟨{}⟩

inductive ClientPhase where
  | absent
  /-- `make_client_connector` has entered the record and not returned. -/
  | creating
  | alive
  /-- The destructor has given up the stop token and the server. -/
  | releasing
  /-- The destructor has left the record and waits for the copies of the stop token. -/
  | unregistered
  | destroyed
deriving DecidableEq, Repr

structure ClientObject where
  key : Key := ⟨⟨[], 0, 0⟩, []⟩
  phase : ClientPhase := .absent
  /-- `m_server`. -/
  server : Option ConnectionId := none
  /-- The owner has stored the connector that `make_client_connector` returned. -/
  stored : Bool := false
deriving DecidableEq, Repr

instance : Inhabited ClientObject := ⟨{}⟩

instance : Inhabited Record := ⟨{}⟩

/-- Where the call of an indication is. -/
inductive Stage where
  | called
  /-- The stop token of the client is locked. -/
  | locked
  | connected (connection : ConnectionId)
  /-- `m_server` is set and the callback is due. -/
  | stored (connection : ConnectionId)
  /-- The returned endpoint is about to be destroyed. -/
  | leaving (connection : ConnectionId)
  /-- The stop token is about to be given up. -/
  | released
  | returned
deriving DecidableEq, Repr

structure Indication where
  client : ClientId
  server : ServerId
  stage : Stage
deriving DecidableEq, Repr

/-- Who calls an indication. -/
inductive Caller where
  | creation (client : ClientId)
  | enable (server : ServerId)
deriving DecidableEq, Repr

/-- Who can give up the last endpoint of a server. -/
inductive Thread where
  | indication (caller : Caller)
  | disable (server : ServerId)
  | destructor (client : ClientId)
  | call (id : CallId)
deriving DecidableEq, Repr

/-- A running `remove_client` and the event its loop is at. -/
structure Removal where
  connection : ConnectionId
  event : EventId := 0
deriving DecidableEq, Repr

structure Runtime where
  /-- `m_service_identifiers`, which tells minor versions apart. -/
  identifiers : Finset Key := ∅
  records : Store RecordKey Record := {}
  servers : Store ServerId ServerObject := {}
  clients : Store ClientId ClientObject := {}
  indications : Store Caller (Option Indication) := {}
  connections : Store ConnectionId (Option Connection) := {}
  nextConnection : ConnectionId := 0
  /-- Calls of a client that hold a copy of its endpoint of the server. -/
  calls : Store CallId (Option ConnectionId) := {}
  removals : Store Thread (Option Removal) := {}
  /-- The calls of `on_service_state_change`, the last one first. -/
  states : List (ClientId × ServiceState) := []
  /-- The successful `Connect`s with the period of the server, the last one first. -/
  connects : List (ClientId × ServerId × Nat) := []

/-! ## Classes of phases -/

/-- The server is in its record. -/
abbrev ServerPhase.IsRegistered (phase : ServerPhase) : Prop :=
  phase = .enabling ∨ phase = .enabled

/-- The destructor of the server has not returned. -/
abbrev ServerPhase.IsAlive (phase : ServerPhase) : Prop := phase ≠ .absent ∧ phase ≠ .destroyed

/-- The client is in its record. -/
abbrev ClientPhase.IsRegistered (phase : ClientPhase) : Prop :=
  phase = .creating ∨ phase = .alive ∨ phase = .releasing

/-- The destructor of the client has not returned. -/
abbrev ClientPhase.IsAlive (phase : ClientPhase) : Prop := phase ≠ .absent ∧ phase ≠ .destroyed

/-! ## Who holds a token -/

/-- `m_stop_block_token` is set. -/
def ClientPhase.ownsToken : ClientPhase → Bool
  | .creating | .alive => true
  | _ => false

def ServerPhase.isFor (client : ClientId) : ServerPhase → Bool
  | .notifying c | .informing c => c = client
  | _ => false

def Stage.holdsToken : Stage → Bool
  | .called | .returned => false
  | _ => true

def Stage.connection : Stage → Option ConnectionId
  | .connected t | .stored t | .leaving t => some t
  | _ => none

def Caller.isCreation : Caller → Bool
  | .creation _ => true
  | .enable _ => false

/-- The operations of a client, which go through its endpoint of the server. -/
def Connector.Operation.isCall : Connector.Operation → Bool
  | .subscribeEvent _ _ | .unsubscribeEvent _ | .requestEventUpdate _ => true
  | _ => false

/-- The operations of the owner of a server. -/
def Connector.Operation.isService : Connector.Operation → Bool
  | .updateEvent _ _ | .updateRequestedEvent _ _ | .allocateEventPayload _ => true
  | _ => false

namespace Runtime

/-- Somebody else has a copy of the stop token of the client. -/
def tokenCopied (σ : Runtime) (c : ClientId) : Bool :=
  (σ.indications.any fun _ i => i.any fun i => i.client = c && i.stage.holdsToken) ||
    σ.servers.any fun _ server => server.connector.client = some c || server.phase.isFor c

/-- The creation of a client has a copy of the listen endpoint. -/
def listenerCopied (σ : Runtime) (s : ServerId) : Bool :=
  σ.indications.any fun a i => a.isCreation && i.any fun i => i.server = s

/-- There is an endpoint of the connection. -/
def referenced (σ : Runtime) (t : ConnectionId) : Bool :=
  (σ.clients.any fun _ client => client.server = some t) ||
    (σ.indications.any fun _ i => i.any fun i => i.stage.connection = some t) ||
    σ.calls.any fun _ connection => connection = some t

/-- `m_all_clients_disconnected_block_token` has a copy in the action of a connection. -/
def hasConnections (σ : Runtime) (s : ServerId) : Bool :=
  σ.connections.any fun _ connection => connection.any fun connection => connection.server = s

/-- An endpoint is gone; with the last one of the connection `remove_client` starts. -/
def dropEndpoint (σ : Runtime) (thread : Thread) : Option ConnectionId → Runtime
  | none => σ
  | some t =>
      if σ.referenced t then σ
      else { σ with removals := σ.removals.set thread (some { connection := t }) }

/-! ## Servers -/

/-- The section of `make_server_connector`; a known identifier is an error. -/
def makeServerConnector (σ : Runtime) (s : ServerId) (key : Key) (numEvents : Nat) :
    Option Runtime :=
  if (σ.servers s).phase = .absent then
    if key ∈ σ.identifiers then some σ
    else
      some { σ with
        identifiers := insert key σ.identifiers
        servers := σ.servers.set s
          { key := key, connector := .disabled numEvents, phase := .disabled } }
  else none

/-- The call of the indication after the lock is released; an incompatible minor
version is only logged. -/
def startIndication (server client : Interfaced) : Indication :=
  ⟨client.connector, server.connector,
    if isMinorVersionCompatible server.interface client.interface then .called else .returned⟩

/-- `enable` up to the end of the registry section. -/
def enable (σ : Runtime) (s : ServerId) : Option Runtime :=
  let server := σ.servers s
  if server.phase = .disabled then
    let (record, client) :=
      (σ.records (recordKey server.key)).registerServerConnector server.key.service s
    some { σ with
      records := σ.records.set (recordKey server.key) record
      servers := σ.servers.set s
        { server with
          connector := { server.connector with listening := true }
          phase := .enabling
          period := server.period + 1 }
      indications := σ.indications.set (.enable s)
        (client.map (startIndication ⟨server.key.service, s⟩)) }
  else none

def setServerPhase (σ : Runtime) (s : ServerId) (phase : ServerPhase) : Runtime :=
  { σ with servers := σ.servers.set s { σ.servers s with phase := phase } }

def enableReturns (σ : Runtime) (s : ServerId) : Option Runtime :=
  if (σ.servers s).phase = .enabling ∧ σ.indications (.enable s) = none then
    some (σ.setServerPhase s .enabled)
  else none

/-- `disable` destroys the registration, whose action empties the place of the server
in the record. -/
def disable (σ : Runtime) (s : ServerId) (destroying : Bool) : Option Runtime :=
  let server := σ.servers s
  if server.phase = .enabled then
    some { σ with
      records := σ.records.set (recordKey server.key) (σ.records (recordKey server.key)).resetServer
      servers := σ.servers.set s
        { server with phase := .unregistered, destroying := destroying } }
  else none

/-- The destructor of a connector that is not enabled. -/
def destroyServerConnector (σ : Runtime) (s : ServerId) : Option Runtime :=
  if (σ.servers s).phase = .disabled then some (σ.setServerPhase s .erasing) else none

def stopListening (σ : Runtime) (s : ServerId) : Option Runtime :=
  let server := σ.servers s
  if server.phase = .unregistered then
    some { σ with
      servers := σ.servers.set s
        { server with connector := server.connector.stopListening, phase := .stopping } }
  else none

/-- The section of `send_all`, once the last copy of the listen endpoint is gone. -/
def copyClient (σ : Runtime) (s : ServerId) : Option Runtime :=
  if (σ.servers s).phase = .stopping ∧ σ.listenerCopied s = false then
    match (σ.servers s).connector.client with
    | some c => some (σ.setServerPhase s (.notifying c))
    | none => some (σ.setServerPhase s .draining)
  else none

/-- The section of the client's `receive(Service_state_change)`. -/
def resetServer (σ : Runtime) (s : ServerId) : Option Runtime :=
  match (σ.servers s).phase with
  | .notifying c =>
      let told := σ.setServerPhase s (.informing c)
      some ({ told with clients := σ.clients.set c { σ.clients c with server := none } }.dropEndpoint
        (.disable s) (σ.clients c).server)
  | _ => none

/-- The callback with `not_available`; then the copy of the client's endpoint is gone. -/
def notAvailable (σ : Runtime) (s : ServerId) : Option Runtime :=
  match (σ.servers s).phase with
  | .informing c =>
      if σ.removals (.disable s) = none then
        some { σ.setServerPhase s .draining with states := (c, .notAvailable) :: σ.states }
      else none
  | _ => none

/-- The last connection is gone. -/
def disableReturns (σ : Runtime) (s : ServerId) : Option Runtime :=
  if (σ.servers s).phase = .draining ∧ σ.hasConnections s = false then
    some (σ.setServerPhase s (if (σ.servers s).destroying then .erasing else .disabled))
  else none

/-- The final action of the destructor. -/
def eraseIdentifier (σ : Runtime) (s : ServerId) : Option Runtime :=
  if (σ.servers s).phase = .erasing then
    some { σ.setServerPhase s .destroyed with
      identifiers := σ.identifiers.erase (σ.servers s).key }
  else none

/-! ## Clients -/

/-- `make_client_connector` up to the end of the registry section; a record that has a
client is an error. -/
def makeClientConnector (σ : Runtime) (c : ClientId) (key : Key) : Option Runtime :=
  if (σ.clients c).phase = .absent then
    match (σ.records (recordKey key)).registerClientConnector key.service c with
    | none => some σ
    | some (record, server) =>
        some { σ with
          records := σ.records.set (recordKey key) record
          clients := σ.clients.set c { key := key, phase := .creating }
          indications := σ.indications.set (.creation c)
            (server.map fun server => startIndication server ⟨key.service, c⟩) }
  else none

def setClientPhase (σ : Runtime) (c : ClientId) (phase : ClientPhase) : Runtime :=
  { σ with clients := σ.clients.set c { σ.clients c with phase := phase } }

def creationReturns (σ : Runtime) (c : ClientId) : Option Runtime :=
  if (σ.clients c).phase = .creating ∧ σ.indications (.creation c) = none then
    some (σ.setClientPhase c .alive)
  else none

/-- The owner of the client stores the connector. -/
def storeClientConnector (σ : Runtime) (c : ClientId) : Option Runtime :=
  if (σ.clients c).phase = .alive then
    some { σ with clients := σ.clients.set c { σ.clients c with stored := true } }
  else none

/-- The section of the destructor. -/
def destroyClientConnector (σ : Runtime) (c : ClientId) : Option Runtime :=
  let client := σ.clients c
  if client.phase = .alive then
    some ({ σ with clients := σ.clients.set c { client with phase := .releasing, server := none } }
      |>.dropEndpoint (.destructor c) client.server)
  else none

/-- The destructor destroys the registration, whose action empties the place of the
client in the record. -/
def unregisterClient (σ : Runtime) (c : ClientId) : Option Runtime :=
  let client := σ.clients c
  if client.phase = .releasing ∧ σ.removals (.destructor c) = none then
    some { σ.setClientPhase c .unregistered with
      records := σ.records.set (recordKey client.key) (σ.records (recordKey client.key)).resetClient }
  else none

/-- The last copy of the stop token is gone. -/
def destructorReturns (σ : Runtime) (c : ClientId) : Option Runtime :=
  if (σ.clients c).phase = .unregistered ∧ σ.tokenCopied c = false then
    some (σ.setClientPhase c .destroyed)
  else none

/-! ## The indication of a client -/

def setStage (σ : Runtime) (a : Caller) (i : Indication) (stage : Stage) : Runtime :=
  { σ with indications := σ.indications.set a (some { i with stage := stage }) }

/-- Lock the weak stop token. -/
def lockToken (σ : Runtime) (a : Caller) (i : Indication) : Runtime :=
  if (σ.clients i.client).phase.ownsToken || σ.tokenCopied i.client then σ.setStage a i .locked
  else σ.setStage a i .returned

/-- Send `Connect` to the server. -/
def connect (σ : Runtime) (a : Caller) (i : Indication) : Runtime :=
  let server := σ.servers i.server
  let outcome := server.connector.receiveConnect i.client
  if outcome.error.isSome then σ.setStage a i .released
  else
    { σ.setStage a i (.connected σ.nextConnection) with
      servers := σ.servers.set i.server { server with connector := outcome.connector }
      connections := σ.connections.set σ.nextConnection (some ⟨i.client, i.server⟩)
      nextConnection := σ.nextConnection + 1
      connects := (i.client, i.server, server.period) :: σ.connects }

/-- `set_id_mappings_and_server`. -/
def setIdMappingsAndServer (σ : Runtime) (a : Caller) (i : Indication) (t : ConnectionId) :
    Runtime :=
  let client := σ.clients i.client
  if client.phase.ownsToken then
    { σ.setStage a i (.stored t) with
      clients := σ.clients.set i.client { client with server := some t } }.dropEndpoint
        (.indication a) client.server
  else σ.setStage a i (.leaving t)

/-- One section of the indication, or the callback with `available`. -/
def indicate (σ : Runtime) (a : Caller) : Option Runtime := do
  let i ← σ.indications a
  if σ.removals (.indication a) = none then
    match i.stage with
    | .called => some (σ.lockToken a i)
    | .locked => some (σ.connect a i)
    | .connected t => some (σ.setIdMappingsAndServer a i t)
    | .stored t =>
        some { σ.setStage a i (.leaving t) with states := (i.client, .available) :: σ.states }
    | .leaving t => some ((σ.setStage a i .released).dropEndpoint (.indication a) (some t))
    | .released => some (σ.setStage a i .returned)
    | .returned => some { σ with indications := σ.indications.set a none }
  else none

/-! ## Calls through an endpoint -/

/-- `lock_server` of a call: the endpoint of the server is copied, if there is one. -/
def lockServer (σ : Runtime) (n : CallId) (c : ClientId) : Option Runtime :=
  if σ.calls n = none ∧ σ.removals (.call n) = none then
    some { σ with calls := σ.calls.set n (σ.clients c).server }
  else none

def setConnector (σ : Runtime) (s : ServerId) (connector : Connector) : Runtime :=
  { σ with servers := σ.servers.set s { σ.servers s with connector := connector } }

/-- What the call does at the server. -/
def send (σ : Runtime) (n : CallId) (operation : Connector.Operation) : Option Runtime := do
  let t ← σ.calls n
  let connection ← σ.connections t
  if operation.isCall then
    let outcome ← (σ.servers connection.server).connector.perform operation
    some (σ.setConnector connection.server outcome.connector)
  else none

def callReturns (σ : Runtime) (n : CallId) : Option Runtime := do
  let t ← σ.calls n
  some ({ σ with calls := σ.calls.set n none }.dropEndpoint (.call n) (some t))

/-- What the owner of an enabled server does with its connector. -/
def serve (σ : Runtime) (s : ServerId) (operation : Connector.Operation) : Option Runtime :=
  if (σ.servers s).phase = .enabled ∧ operation.isService = true then do
    let outcome ← (σ.servers s).connector.perform operation
    some (σ.setConnector s outcome.connector)
  else none

/-- One section of `remove_client`. It starts with a reference to the client that is
there, so it needs one. -/
def removeClient (σ : Runtime) (thread : Thread) : Option Runtime := do
  let removal ← σ.removals thread
  let connection ← σ.connections removal.connection
  let connector := (σ.servers connection.server).connector
  if removal.event = 0 ∧ connector.client = none then none
  else if removal.event < connector.numEvents then
    some { σ.setConnector connection.server (connector.unsubscribeEvent removal.event).connector with
      removals := σ.removals.set thread (some { removal with event := removal.event + 1 }) }
  else
    some { σ.setConnector connection.server connector.resetClient with
      connections := σ.connections.set removal.connection none
      removals := σ.removals.set thread none }

/-! ## Steps -/

inductive Label where
  | makeServerConnector (s : ServerId) (key : Key) (numEvents : Nat)
  | enable (s : ServerId)
  | enableReturns (s : ServerId)
  | disable (s : ServerId) (destroying : Bool)
  | destroyServerConnector (s : ServerId)
  | stopListening (s : ServerId)
  | copyClient (s : ServerId)
  | resetServer (s : ServerId)
  | notAvailable (s : ServerId)
  | disableReturns (s : ServerId)
  | eraseIdentifier (s : ServerId)
  | makeClientConnector (c : ClientId) (key : Key)
  | creationReturns (c : ClientId)
  | storeClientConnector (c : ClientId)
  | destroyClientConnector (c : ClientId)
  | unregisterClient (c : ClientId)
  | destructorReturns (c : ClientId)
  | indicate (a : Caller)
  | lockServer (n : CallId) (c : ClientId)
  | send (n : CallId) (operation : Connector.Operation)
  | callReturns (n : CallId)
  | serve (s : ServerId) (operation : Connector.Operation)
  | removeClient (thread : Thread)
deriving DecidableEq, Repr

def next (σ : Runtime) : Label → Option Runtime
  | .makeServerConnector s key numEvents => σ.makeServerConnector s key numEvents
  | .enable s => σ.enable s
  | .enableReturns s => σ.enableReturns s
  | .disable s destroying => σ.disable s destroying
  | .destroyServerConnector s => σ.destroyServerConnector s
  | .stopListening s => σ.stopListening s
  | .copyClient s => σ.copyClient s
  | .resetServer s => σ.resetServer s
  | .notAvailable s => σ.notAvailable s
  | .disableReturns s => σ.disableReturns s
  | .eraseIdentifier s => σ.eraseIdentifier s
  | .makeClientConnector c key => σ.makeClientConnector c key
  | .creationReturns c => σ.creationReturns c
  | .storeClientConnector c => σ.storeClientConnector c
  | .destroyClientConnector c => σ.destroyClientConnector c
  | .unregisterClient c => σ.unregisterClient c
  | .destructorReturns c => σ.destructorReturns c
  | .indicate a => σ.indicate a
  | .lockServer n c => σ.lockServer n c
  | .send n operation => σ.send n operation
  | .callReturns n => σ.callReturns n
  | .serve s operation => σ.serve s operation
  | .removeClient thread => σ.removeClient thread

/-- The states that a runtime reaches when every step is allowed by `ok`. -/
def ReachableVia (ok : Runtime → Label → Prop) (σ : Runtime) : Prop :=
  Reach next ok {} σ

/-- Every call that was started has returned. -/
structure Quiescent (σ : Runtime) : Prop where
  indications : ∀ a, σ.indications a = none
  calls : ∀ n, σ.calls n = none
  removals : ∀ thread, σ.removals thread = none
  servers : ∀ s, (σ.servers s).phase = .absent ∨ (σ.servers s).phase = .disabled ∨
    (σ.servers s).phase = .enabled ∨ (σ.servers s).phase = .destroyed
  clients : ∀ c, (σ.clients c).phase = .absent ∨ (σ.clients c).phase = .alive ∨
    (σ.clients c).phase = .destroyed

end Runtime

end Socom

end SomeipGateway
