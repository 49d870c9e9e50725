import SomeipGateway.Socom.Runtime

/-! # What a step of the runtime can do

Every branch of every section is listed once, with what it found and the state it
leaves. The waits for a reference token are read as statements about all threads.
-/

namespace SomeipGateway

namespace Socom

theorem Connector.receiveConnect_of_listening {σ : Connector} {c : ClientId}
    (h : σ.listening = true) :
    σ.receiveConnect c =
      { connector := { σ with client := some c }
        effects := if σ.client.isSome then [.assertFailed] else [] } :=
  if_pos h

theorem Connector.receiveConnect_of_not_listening {σ : Connector} {c : ClientId}
    (h : σ.listening = false) :
    σ.receiveConnect c = { connector := σ, error := some .serviceNotAvailable } :=
  if_neg (by simp [h])

/-- Calls through an endpoint and operations of the server neither bring nor remove a
client. -/
theorem Connector.perform_of_isCall {connector : Connector}
    {operation : Connector.Operation} {outcome : Outcome}
    (h : connector.perform operation = some outcome) (hoperation : operation.isCall = true) :
    outcome.connector.listening = connector.listening ∧
      outcome.connector.client = connector.client := by
  cases operation with
  | connect | disconnect | updateEvent | updateRequestedEvent | allocateEventPayload =>
      cases hoperation
  | subscribeEvent id mode =>
      obtain ⟨-, rfl⟩ := Connector.withClient_eq_some.1 h
      unfold Connector.subscribeEvent
      split
      · exact ⟨rfl, rfl⟩
      · dsimp only
        split <;> exact ⟨rfl, rfl⟩
  | unsubscribeEvent id =>
      obtain ⟨-, rfl⟩ := Connector.withClient_eq_some.1 h
      unfold Connector.receiveUnsubscribeEvent
      split <;> exact ⟨rfl, rfl⟩
  | requestEventUpdate id =>
      obtain ⟨-, rfl⟩ := Connector.withClient_eq_some.1 h
      unfold Connector.requestEventUpdate
      split
      · exact ⟨rfl, rfl⟩
      · split <;> exact ⟨rfl, rfl⟩

theorem Connector.perform_of_isService {connector : Connector}
    {operation : Connector.Operation} {outcome : Outcome}
    (h : connector.perform operation = some outcome) (hoperation : operation.isService = true) :
    outcome.connector.listening = connector.listening ∧
      outcome.connector.client = connector.client := by
  cases operation with
  | connect | disconnect | subscribeEvent | unsubscribeEvent | requestEventUpdate =>
      cases hoperation
  | updateEvent id payload =>
      cases h
      simp
  | updateRequestedEvent id payload =>
      cases h
      unfold Connector.updateRequestedEvent
      split <;> exact ⟨rfl, rfl⟩
  | allocateEventPayload id =>
      cases h
      simp

@[grind =] theorem ClientPhase.ownsToken_eq_true {phase : ClientPhase} :
    phase.ownsToken = true ↔ phase = .creating ∨ phase = .alive := by
  cases phase <;> simp [ownsToken]

@[grind =] theorem ServerPhase.isFor_eq_true {phase : ServerPhase} {c : ClientId} :
    phase.isFor c = true ↔ phase = .notifying c ∨ phase = .informing c := by
  cases phase <;> simp [isFor]

@[grind =] theorem Stage.holdsToken_eq_true {stage : Stage} :
    stage.holdsToken = true ↔ stage ≠ .called ∧ stage ≠ .returned := by
  cases stage <;> simp [holdsToken]

namespace Runtime

/-- What a step can do, one case for every branch. -/
inductive Step (σ : Runtime) : Label → Runtime → Prop where
  | knownIdentifier {s key numEvents} (hphase : (σ.servers s).phase = .absent)
      (hknown : key ∈ σ.identifiers) : Step σ (.makeServerConnector s key numEvents) σ
  | makeServerConnector {s key numEvents} (hphase : (σ.servers s).phase = .absent)
      (hnew : key ∉ σ.identifiers) :
      Step σ (.makeServerConnector s key numEvents)
        { σ with
          identifiers := insert key σ.identifiers
          servers := σ.servers.set s
            { key := key, connector := .disabled numEvents, phase := .disabled } }
  | enable {s} (hphase : (σ.servers s).phase = .disabled) :
      Step σ (.enable s)
        { σ with
          records := σ.records.set (recordKey (σ.servers s).key)
            { σ.records (recordKey (σ.servers s).key) with
              server := some ⟨(σ.servers s).key.service, s⟩ }
          servers := σ.servers.set s
            { σ.servers s with
              connector := { (σ.servers s).connector with listening := true }
              phase := .enabling
              period := (σ.servers s).period + 1 }
          indications := σ.indications.set (.enable s)
            ((σ.records (recordKey (σ.servers s).key)).client.map
              (startIndication ⟨(σ.servers s).key.service, s⟩)) }
  | enableReturns {s} (hphase : (σ.servers s).phase = .enabling)
      (hreturned : σ.indications (.enable s) = none) :
      Step σ (.enableReturns s) (σ.setServerPhase s .enabled)
  | disable {s destroying} (hphase : (σ.servers s).phase = .enabled) :
      Step σ (.disable s destroying)
        { σ with
          records := σ.records.set (recordKey (σ.servers s).key)
            { σ.records (recordKey (σ.servers s).key) with server := none }
          servers := σ.servers.set s
            { σ.servers s with phase := .unregistered, destroying := destroying } }
  | destroyServerConnector {s} (hphase : (σ.servers s).phase = .disabled) :
      Step σ (.destroyServerConnector s) (σ.setServerPhase s .erasing)
  | stopListening {s} (hphase : (σ.servers s).phase = .unregistered) :
      Step σ (.stopListening s)
        { σ with
          servers := σ.servers.set s
            { σ.servers s with
              connector := (σ.servers s).connector.stopListening, phase := .stopping } }
  | copyClient {s c} (hphase : (σ.servers s).phase = .stopping) (hlisten : σ.listenerCopied s = false)
      (hclient : (σ.servers s).connector.client = some c) :
      Step σ (.copyClient s) (σ.setServerPhase s (.notifying c))
  | noClient {s} (hphase : (σ.servers s).phase = .stopping) (hlisten : σ.listenerCopied s = false)
      (hclient : (σ.servers s).connector.client = none) :
      Step σ (.copyClient s) (σ.setServerPhase s .draining)
  | resetServer {s c} (hphase : (σ.servers s).phase = .notifying c) :
      Step σ (.resetServer s)
        ({ σ.setServerPhase s (.informing c) with
          clients := σ.clients.set c { σ.clients c with server := none } }.dropEndpoint
          (.disable s) (σ.clients c).server)
  | notAvailable {s c} (hphase : (σ.servers s).phase = .informing c)
      (hremoval : σ.removals (.disable s) = none) :
      Step σ (.notAvailable s)
        { σ.setServerPhase s .draining with states := (c, .notAvailable) :: σ.states }
  | disableReturns {s} (hphase : (σ.servers s).phase = .draining)
      (hconnections : σ.hasConnections s = false) :
      Step σ (.disableReturns s)
        (σ.setServerPhase s (if (σ.servers s).destroying then .erasing else .disabled))
  | eraseIdentifier {s} (hphase : (σ.servers s).phase = .erasing) :
      Step σ (.eraseIdentifier s)
        { σ.setServerPhase s .destroyed with
          identifiers := σ.identifiers.erase (σ.servers s).key }
  | recordTaken {c key} (hphase : (σ.clients c).phase = .absent)
      (htaken : (σ.records (recordKey key)).client ≠ none) :
      Step σ (.makeClientConnector c key) σ
  | makeClientConnector {c key} (hphase : (σ.clients c).phase = .absent)
      (hfree : (σ.records (recordKey key)).client = none) :
      Step σ (.makeClientConnector c key)
        { σ with
          records := σ.records.set (recordKey key)
            { σ.records (recordKey key) with client := some ⟨key.service, c⟩ }
          clients := σ.clients.set c { key := key, phase := .creating }
          indications := σ.indications.set (.creation c)
            ((σ.records (recordKey key)).server.map fun server =>
              startIndication server ⟨key.service, c⟩) }
  | creationReturns {c} (hphase : (σ.clients c).phase = .creating)
      (hreturned : σ.indications (.creation c) = none) :
      Step σ (.creationReturns c) (σ.setClientPhase c .alive)
  | storeClientConnector {c} (hphase : (σ.clients c).phase = .alive) :
      Step σ (.storeClientConnector c)
        { σ with clients := σ.clients.set c { σ.clients c with stored := true } }
  | destroyClientConnector {c} (hphase : (σ.clients c).phase = .alive) :
      Step σ (.destroyClientConnector c)
        ({ σ with
          clients := σ.clients.set c
            { σ.clients c with phase := .releasing, server := none } }.dropEndpoint
          (.destructor c) (σ.clients c).server)
  | unregisterClient {c} (hphase : (σ.clients c).phase = .releasing)
      (hremoval : σ.removals (.destructor c) = none) :
      Step σ (.unregisterClient c)
        { σ.setClientPhase c .unregistered with
          records := σ.records.set (recordKey (σ.clients c).key)
            { σ.records (recordKey (σ.clients c).key) with client := none } }
  | destructorReturns {c} (hphase : (σ.clients c).phase = .unregistered)
      (htoken : σ.tokenCopied c = false) :
      Step σ (.destructorReturns c) (σ.setClientPhase c .destroyed)
  | lockToken {a i} (hi : σ.indications a = some i) (hstage : i.stage = .called)
      (htoken : (σ.clients i.client).phase.ownsToken = true ∨ σ.tokenCopied i.client = true) :
      Step σ (.indicate a) (σ.setStage a i .locked)
  | tokenGone {a i} (hi : σ.indications a = some i) (hstage : i.stage = .called)
      (htoken : (σ.clients i.client).phase.ownsToken = false) :
      Step σ (.indicate a) (σ.setStage a i .returned)
  | connect {a i} (hi : σ.indications a = some i) (hstage : i.stage = .locked)
      (hlistening : (σ.servers i.server).connector.listening = true) :
      Step σ (.indicate a)
        { σ.setStage a i (.connected σ.nextConnection) with
          servers := σ.servers.set i.server
            { σ.servers i.server with
              connector := { (σ.servers i.server).connector with client := some i.client } }
          connections := σ.connections.set σ.nextConnection (some ⟨i.client, i.server⟩)
          nextConnection := σ.nextConnection + 1
          connects := (i.client, i.server, (σ.servers i.server).period) :: σ.connects }
  | notListening {a i} (hi : σ.indications a = some i) (hstage : i.stage = .locked)
      (hlistening : (σ.servers i.server).connector.listening = false) :
      Step σ (.indicate a) (σ.setStage a i .released)
  | setServer {a i t} (hi : σ.indications a = some i) (hstage : i.stage = .connected t)
      (hremoval : σ.removals (.indication a) = none)
      (htoken : (σ.clients i.client).phase.ownsToken = true) :
      Step σ (.indicate a)
        ({ σ.setStage a i (.stored t) with
          clients := σ.clients.set i.client
            { σ.clients i.client with server := some t } }.dropEndpoint
          (.indication a) (σ.clients i.client).server)
  | destructorStarted {a i t} (hi : σ.indications a = some i) (hstage : i.stage = .connected t)
      (htoken : (σ.clients i.client).phase.ownsToken = false) :
      Step σ (.indicate a) (σ.setStage a i (.leaving t))
  | available {a i t} (hi : σ.indications a = some i) (hstage : i.stage = .stored t)
      (hremoval : σ.removals (.indication a) = none) :
      Step σ (.indicate a)
        { σ.setStage a i (.leaving t) with states := (i.client, .available) :: σ.states }
  | leave {a i t} (hi : σ.indications a = some i) (hstage : i.stage = .leaving t)
      (hremoval : σ.removals (.indication a) = none) :
      Step σ (.indicate a) ((σ.setStage a i .released).dropEndpoint (.indication a) (some t))
  | releaseToken {a i} (hi : σ.indications a = some i) (hstage : i.stage = .released)
      (hremoval : σ.removals (.indication a) = none) :
      Step σ (.indicate a) (σ.setStage a i .returned)
  | indicationReturns {a i} (hi : σ.indications a = some i) (hstage : i.stage = .returned) :
      Step σ (.indicate a) { σ with indications := σ.indications.set a none }
  | lockServer {n c} (hcall : σ.calls n = none) (hremoval : σ.removals (.call n) = none) :
      Step σ (.lockServer n c) { σ with calls := σ.calls.set n (σ.clients c).server }
  | send {n operation t connection outcome} (hcall : σ.calls n = some t)
      (hconnection : σ.connections t = some connection) (hoperation : operation.isCall = true)
      (houtcome : (σ.servers connection.server).connector.perform operation = some outcome) :
      Step σ (.send n operation) (σ.setConnector connection.server outcome.connector)
  | callReturns {n t} (hcall : σ.calls n = some t) :
      Step σ (.callReturns n)
        ({ σ with calls := σ.calls.set n none }.dropEndpoint (.call n) (some t))
  | serve {s operation outcome} (hphase : (σ.servers s).phase = .enabled)
      (hoperation : operation.isService = true)
      (houtcome : (σ.servers s).connector.perform operation = some outcome) :
      Step σ (.serve s operation) (σ.setConnector s outcome.connector)
  | unsubscribe {thread removal connection} (hremoval : σ.removals thread = some removal)
      (hconnection : σ.connections removal.connection = some connection) :
      Step σ (.removeClient thread)
        { σ.setConnector connection.server
            ((σ.servers connection.server).connector.unsubscribeEvent removal.event).connector with
          removals := σ.removals.set thread (some { removal with event := removal.event + 1 }) }
  | resetClient {thread removal connection} (hremoval : σ.removals thread = some removal)
      (hconnection : σ.connections removal.connection = some connection) :
      Step σ (.removeClient thread)
        { σ.setConnector connection.server
            (σ.servers connection.server).connector.resetClient with
          connections := σ.connections.set removal.connection none
          removals := σ.removals.set thread none }

theorem step_of_indicate {σ σ' : Runtime} {a : Caller} (h : σ.indicate a = some σ') :
    Step σ (.indicate a) σ' := by
  simp only [indicate, Option.bind_eq_bind, Option.bind_eq_some_iff] at h
  obtain ⟨i, hi, h⟩ := h
  split at h
  next hremoval =>
    split at h
    next hstage =>
      cases h
      unfold lockToken
      split
      next htoken => exact .lockToken hi hstage (by simpa using htoken)
      next htoken => exact .tokenGone hi hstage (by simp_all)
    next hstage =>
      cases h
      cases hlistening : (σ.servers i.server).connector.listening with
      | true =>
          simp only [connect, Connector.receiveConnect_of_listening hlistening]
          exact .connect hi hstage hlistening
      | false =>
          simp only [connect, Connector.receiveConnect_of_not_listening hlistening]
          exact .notListening hi hstage hlistening
    next t hstage =>
      cases h
      simp only [setIdMappingsAndServer]
      split
      next htoken => exact .setServer hi hstage hremoval htoken
      next htoken => exact .destructorStarted hi hstage (by simpa using htoken)
    next t hstage =>
      cases h
      exact .available hi hstage hremoval
    next t hstage =>
      cases h
      exact .leave hi hstage hremoval
    next hstage =>
      cases h
      exact .releaseToken hi hstage hremoval
    next hstage =>
      cases h
      exact .indicationReturns hi hstage
  next => cases h

theorem step_of_removeClient {σ σ' : Runtime} {thread : Thread}
    (h : σ.removeClient thread = some σ') : Step σ (.removeClient thread) σ' := by
  simp only [removeClient, Option.bind_eq_bind, Option.bind_eq_some_iff] at h
  obtain ⟨removal, hremoval, connection, hconnection, h⟩ := h
  split at h
  · cases h
  · split at h
    · cases h
      exact .unsubscribe hremoval hconnection
    · cases h
      exact .resetClient hremoval hconnection

theorem Step.of_next {σ σ' : Runtime} {label : Label} (h : σ.next label = some σ') :
    Step σ label σ' := by
  cases label with
  | makeServerConnector s key numEvents =>
      obtain ⟨hphase, h⟩ := Option.ite_none_right_eq_some.1 h
      split at h
      next hknown =>
        cases h
        exact .knownIdentifier hphase hknown
      next hnew =>
        cases h
        exact .makeServerConnector hphase hnew
  | enable s =>
      obtain ⟨hphase, h⟩ := Option.ite_none_right_eq_some.1 h
      cases h
      exact .enable hphase
  | enableReturns s =>
      obtain ⟨hphase, h⟩ := Option.ite_none_right_eq_some.1 h
      cases h
      exact .enableReturns hphase.1 hphase.2
  | disable s destroying =>
      obtain ⟨hphase, h⟩ := Option.ite_none_right_eq_some.1 h
      cases h
      exact .disable hphase
  | destroyServerConnector s =>
      obtain ⟨hphase, h⟩ := Option.ite_none_right_eq_some.1 h
      cases h
      exact .destroyServerConnector hphase
  | stopListening s =>
      obtain ⟨hphase, h⟩ := Option.ite_none_right_eq_some.1 h
      cases h
      exact .stopListening hphase
  | copyClient s =>
      obtain ⟨⟨hphase, hlisten⟩, h⟩ := Option.ite_none_right_eq_some.1 h
      split at h
      next c hclient =>
        cases h
        exact .copyClient hphase hlisten hclient
      next hclient =>
        cases h
        exact .noClient hphase hlisten hclient
  | resetServer s =>
      simp only [next, Runtime.resetServer] at h
      split at h
      next c hphase =>
        cases h
        exact .resetServer hphase
      next => cases h
  | notAvailable s =>
      simp only [next, Runtime.notAvailable] at h
      split at h
      next c hphase =>
        obtain ⟨hremoval, h⟩ := Option.ite_none_right_eq_some.1 h
        cases h
        exact .notAvailable hphase hremoval
      next => cases h
  | disableReturns s =>
      obtain ⟨hphase, h⟩ := Option.ite_none_right_eq_some.1 h
      cases h
      exact .disableReturns hphase.1 hphase.2
  | eraseIdentifier s =>
      obtain ⟨hphase, h⟩ := Option.ite_none_right_eq_some.1 h
      cases h
      exact .eraseIdentifier hphase
  | makeClientConnector c key =>
      obtain ⟨hphase, h⟩ := Option.ite_none_right_eq_some.1 h
      cases hclient : (σ.records (recordKey key)).client with
      | none =>
          simp only [Record.registerClientConnector, hclient, Option.isSome_none,
            Bool.false_eq_true, if_false] at h
          cases h
          exact .makeClientConnector hphase hclient
      | some client =>
          simp only [Record.registerClientConnector, hclient, Option.isSome_some, if_true] at h
          cases h
          exact .recordTaken hphase (by simp [hclient])
  | creationReturns c =>
      obtain ⟨hphase, h⟩ := Option.ite_none_right_eq_some.1 h
      cases h
      exact .creationReturns hphase.1 hphase.2
  | storeClientConnector c =>
      obtain ⟨hphase, h⟩ := Option.ite_none_right_eq_some.1 h
      cases h
      exact .storeClientConnector hphase
  | destroyClientConnector c =>
      obtain ⟨hphase, h⟩ := Option.ite_none_right_eq_some.1 h
      cases h
      exact .destroyClientConnector hphase
  | unregisterClient c =>
      obtain ⟨hphase, h⟩ := Option.ite_none_right_eq_some.1 h
      cases h
      exact .unregisterClient hphase.1 hphase.2
  | destructorReturns c =>
      obtain ⟨hphase, h⟩ := Option.ite_none_right_eq_some.1 h
      cases h
      exact .destructorReturns hphase.1 hphase.2
  | indicate a => exact step_of_indicate h
  | lockServer n c =>
      obtain ⟨hcall, h⟩ := Option.ite_none_right_eq_some.1 h
      cases h
      exact .lockServer hcall.1 hcall.2
  | send n operation =>
      simp only [next, Runtime.send, Option.bind_eq_bind, Option.bind_eq_some_iff] at h
      obtain ⟨t, hcall, connection, hconnection, h⟩ := h
      obtain ⟨hoperation, h⟩ := Option.ite_none_right_eq_some.1 h
      obtain ⟨outcome, houtcome, h⟩ := Option.bind_eq_some_iff.1 h
      cases h
      exact .send hcall hconnection hoperation houtcome
  | callReturns n =>
      simp only [next, Runtime.callReturns, Option.bind_eq_bind, Option.bind_eq_some_iff] at h
      obtain ⟨t, hcall, h⟩ := h
      cases h
      exact .callReturns hcall
  | serve s operation =>
      obtain ⟨hphase, h⟩ := Option.ite_none_right_eq_some.1 h
      obtain ⟨outcome, houtcome, h⟩ := Option.bind_eq_some_iff.1 h
      cases h
      exact .serve hphase.1 hphase.2 houtcome
  | removeClient thread => exact step_of_removeClient h

/-! ## The waits -/

theorem listenerCopied_eq_false {σ : Runtime} {s : ServerId} :
    σ.listenerCopied s = false ↔
      ∀ c i, σ.indications (.creation c) = some i → i.server ≠ s := by
  rw [listenerCopied, Store.any_eq_false (fun a => by cases a <;> rfl)]
  constructor
  · intro h c i hi
    simpa [hi, Caller.isCreation] using h (.creation c)
  · intro h a
    cases a with
    | enable s => rfl
    | creation c =>
        cases hi : σ.indications (.creation c) with
        | none => rfl
        | some i => simpa [Caller.isCreation] using h c i hi

theorem tokenCopied_eq_true {σ : Runtime} {c : ClientId} :
    σ.tokenCopied c = true ↔
      (∃ a i, σ.indications a = some i ∧ i.client = c ∧ i.stage.holdsToken = true) ∨
      (∃ s, (σ.servers s).connector.client = some c) ∨
      ∃ s, (σ.servers s).phase.isFor c = true := by
  rw [tokenCopied, Bool.or_eq_true, Store.any_eq_true (fun _ => rfl),
    Store.any_eq_true (fun _ => rfl)]
  simp [Option.any_eq_true, exists_or]

theorem referenced_eq_true {σ : Runtime} {t : ConnectionId} :
    σ.referenced t = true ↔
      (∃ c, (σ.clients c).server = some t) ∨
      (∃ a i, σ.indications a = some i ∧ i.stage.connection = some t) ∨
      ∃ n, σ.calls n = some t := by
  rw [referenced, Bool.or_eq_true, Bool.or_eq_true, Store.any_eq_true (fun _ => rfl),
    Store.any_eq_true (fun _ => rfl), Store.any_eq_true (fun _ => rfl), or_assoc]
  simp [Option.any_eq_true]

theorem referenced_eq_false {σ : Runtime} {t : ConnectionId} :
    σ.referenced t = false ↔
      (∀ c, (σ.clients c).server ≠ some t) ∧
      (∀ a i, σ.indications a = some i → i.stage.connection ≠ some t) ∧
      ∀ n, σ.calls n ≠ some t := by
  rw [← Bool.not_eq_true, referenced_eq_true]
  simp only [not_or, not_exists, not_and, ne_eq]

theorem hasConnections_eq_false {σ : Runtime} {s : ServerId} :
    σ.hasConnections s = false ↔ ∀ t k, σ.connections t = some k → k.server ≠ s := by
  rw [hasConnections, Store.any_eq_false (fun _ => rfl)]
  refine forall_congr' fun t => ?_
  cases σ.connections t <;> simp

/-! ## Endpoints that are given up -/

section dropEndpoint

variable (σ : Runtime) (thread : Thread) (endpoint : Option ConnectionId)

/-- Giving up an endpoint changes nothing but the removals. -/
theorem dropEndpoint_eq : σ.dropEndpoint thread endpoint =
    { σ with removals := (σ.dropEndpoint thread endpoint).removals } := by
  cases endpoint with
  | none => rfl
  | some t =>
      simp only [dropEndpoint]
      split <;> rfl

@[simp] theorem dropEndpoint_identifiers :
    (σ.dropEndpoint thread endpoint).identifiers = σ.identifiers := by
  rw [dropEndpoint_eq]

@[simp] theorem dropEndpoint_records :
    (σ.dropEndpoint thread endpoint).records = σ.records := by
  rw [dropEndpoint_eq]

@[simp] theorem dropEndpoint_servers :
    (σ.dropEndpoint thread endpoint).servers = σ.servers := by
  rw [dropEndpoint_eq]

@[simp] theorem dropEndpoint_clients :
    (σ.dropEndpoint thread endpoint).clients = σ.clients := by
  rw [dropEndpoint_eq]

@[simp] theorem dropEndpoint_indications :
    (σ.dropEndpoint thread endpoint).indications = σ.indications := by
  rw [dropEndpoint_eq]

@[simp] theorem dropEndpoint_connections :
    (σ.dropEndpoint thread endpoint).connections = σ.connections := by
  rw [dropEndpoint_eq]

@[simp] theorem dropEndpoint_nextConnection :
    (σ.dropEndpoint thread endpoint).nextConnection = σ.nextConnection := by
  rw [dropEndpoint_eq]

@[simp] theorem dropEndpoint_calls :
    (σ.dropEndpoint thread endpoint).calls = σ.calls := by
  rw [dropEndpoint_eq]

@[simp] theorem dropEndpoint_states :
    (σ.dropEndpoint thread endpoint).states = σ.states := by
  rw [dropEndpoint_eq]

@[simp] theorem dropEndpoint_connects :
    (σ.dropEndpoint thread endpoint).connects = σ.connects := by
  rw [dropEndpoint_eq]

@[simp] theorem dropEndpoint_referenced (t : ConnectionId) :
    (σ.dropEndpoint thread endpoint).referenced t = σ.referenced t := by
  simp [referenced]

/-- A removal is an old one, or it is of the endpoint that was the last one. -/
theorem dropEndpoint_removals {thread' : Thread} {removal : Removal}
    (h : (σ.dropEndpoint thread endpoint).removals thread' = some removal) :
    σ.removals thread' = some removal ∨
      thread' = thread ∧ endpoint = some removal.connection ∧
        σ.referenced removal.connection = false := by
  cases endpoint with
  | none => exact .inl h
  | some t =>
      simp only [dropEndpoint] at h
      split at h
      next => exact .inl h
      next hreferenced =>
        rw [Store.set_apply] at h
        split at h
        next hthread =>
          cases h
          exact .inr ⟨hthread, rfl, by simpa using hreferenced⟩
        next => exact .inl h

theorem dropEndpoint_removals_of_ne {thread' : Thread} (h : thread' ≠ thread) :
    (σ.dropEndpoint thread endpoint).removals thread' = σ.removals thread' := by
  cases endpoint with
  | none => rfl
  | some t =>
      simp only [dropEndpoint]
      split
      next => rfl
      next => rw [Store.set_apply, if_neg h]

theorem dropEndpoint_removals_self {t : ConnectionId} (h : σ.referenced t = false) :
    (σ.dropEndpoint thread (some t)).removals thread = some { connection := t } := by
  simp [dropEndpoint, h]

end dropEndpoint

attribute [grind =] Connector.enabled Connector.disabled Connector.stopListening
  Connector.unsubscribeEvent Connector.resetClient

end Runtime

end Socom

end SomeipGateway
