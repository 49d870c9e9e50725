import SomeipGateway.Socom.RuntimeStep

/-! # What a step does to one object

A section changes at most one client, one server and one indication. Their changes are
listed here with what the section found. What a whole state satisfies is then shown for
one object at a time: the label of the step tells which changes go together.
-/

namespace SomeipGateway

namespace Socom

namespace Runtime

variable {σ σ' : Runtime} {label : Label}

/-- An indication connects its client to its server. -/
structure Connects (σ σ' : Runtime) (a : Caller) (i : Indication) : Prop where
  indication : σ.indications a = some i
  stage : i.stage = .locked
  listening : (σ.servers i.server).connector.listening = true
  indicationAfter : σ'.indications a = some { i with stage := .connected σ.nextConnection }
  client : (σ'.servers i.server).connector.client = some i.client
  connection : σ'.connections σ.nextConnection = some ⟨i.client, i.server⟩
  connects : σ'.connects = (i.client, i.server, (σ.servers i.server).period) :: σ.connects

/-- An indication sets the endpoint of its client. -/
structure SetsServer (σ σ' : Runtime) (a : Caller) (i : Indication) (t : ConnectionId) : Prop where
  indication : σ.indications a = some i
  stage : i.stage = .connected t
  token : (σ.clients i.client).phase.ownsToken = true
  indicationAfter : σ'.indications a = some { i with stage := .stored t }
  server : (σ'.clients i.client).server = some t

/-- The last section of `remove_client`. -/
structure Removes (σ σ' : Runtime) (thread : Thread) (r : Removal) (k : Connection) : Prop where
  removal : σ.removals thread = some r
  connection : σ.connections r.connection = some k
  removalAfter : σ'.removals thread = none
  client : (σ'.servers k.server).connector.client = none
  connectionAfter : σ'.connections r.connection = none

theorem Connects.of_step {a : Caller} {i : Indication} (hstep : Step σ (.indicate a) σ')
    (hi : σ.indications a = some i) (hstage : i.stage = .locked)
    (hlistening : (σ.servers i.server).connector.listening = true) : Connects σ σ' a i := by
  cases hstep with
  | connect hj =>
      cases hi.symm.trans hj
      exact ⟨hi, hstage, hlistening, by simp [setStage], by simp, by simp, rfl⟩
  | _ => simp_all

theorem SetsServer.of_step {a : Caller} {i : Indication} {t : ConnectionId}
    (hstep : Step σ (.indicate a) σ') (hi : σ.indications a = some i)
    (hstage : i.stage = .connected t) (htoken : (σ.clients i.client).phase.ownsToken = true) :
    SetsServer σ σ' a i t := by
  cases hstep with
  | setServer hj hstage' hremoval htoken' =>
      cases hi.symm.trans hj
      cases hstage.symm.trans hstage'
      exact ⟨hi, hstage, htoken, by simp [setStage], by simp⟩
  | _ => simp_all

/-! ## Clients -/

/-- The changes of a client. -/
inductive ClientMove (σ σ' : Runtime) (c : ClientId) (client : ClientObject) :
    Label → Prop where
  | kept {label : Label} (heq : client = σ.clients c) : ClientMove σ σ' c client label
  | make {key} (hphase : (σ.clients c).phase = .absent)
      (hfree : (σ.records (recordKey key)).client = none)
      (heq : client = { key := key, phase := .creating }) :
      ClientMove σ σ' c client (.makeClientConnector c key)
  | creationReturns (hphase : (σ.clients c).phase = .creating)
      (hreturned : σ.indications (.creation c) = none)
      (heq : client = { σ.clients c with phase := .alive }) :
      ClientMove σ σ' c client (.creationReturns c)
  | store (hphase : (σ.clients c).phase = .alive)
      (heq : client = { σ.clients c with stored := true }) :
      ClientMove σ σ' c client (.storeClientConnector c)
  | destroy (hphase : (σ.clients c).phase = .alive)
      (heq : client = { σ.clients c with phase := .releasing, server := none }) :
      ClientMove σ σ' c client (.destroyClientConnector c)
  | unregister (hphase : (σ.clients c).phase = .releasing)
      (heq : client = { σ.clients c with phase := .unregistered }) :
      ClientMove σ σ' c client (.unregisterClient c)
  | destructorReturns (hphase : (σ.clients c).phase = .unregistered)
      (htoken : σ.tokenCopied c = false)
      (heq : client = { σ.clients c with phase := .destroyed }) :
      ClientMove σ σ' c client (.destructorReturns c)
  | resetServer {s} (hphase : (σ.servers s).phase = .notifying c)
      (heq : client = { σ.clients c with server := none }) :
      ClientMove σ σ' c client (.resetServer s)
  | setServer {a i t} (hsets : SetsServer σ σ' a i t) (hclient : i.client = c)
      (heq : client = { σ.clients c with server := some t }) :
      ClientMove σ σ' c client (.indicate a)

theorem ClientMove.of_set {c c' : ClientId} {client : ClientObject}
    (h : ClientMove σ σ' c' client label) : ClientMove σ σ' c (σ.clients.set c' client c) label := by
  rw [Store.set_apply]
  split
  next hc =>
    subst hc
    exact h
  next => exact .kept rfl

theorem Step.client (hstep : Step σ label σ') (c : ClientId) :
    ClientMove σ σ' c (σ'.clients c) label := by
  cases hstep with
  | makeClientConnector hphase hfree => exact .of_set (.make hphase hfree rfl)
  | creationReturns hphase hreturned => exact .of_set (.creationReturns hphase hreturned rfl)
  | storeClientConnector hphase => exact .of_set (.store hphase rfl)
  | destroyClientConnector hphase =>
      rw [dropEndpoint_clients]
      exact .of_set (.destroy hphase rfl)
  | unregisterClient hphase hremoval => exact .of_set (.unregister hphase rfl)
  | destructorReturns hphase htoken => exact .of_set (.destructorReturns hphase htoken rfl)
  | resetServer hphase =>
      rw [dropEndpoint_clients]
      exact .of_set (.resetServer hphase rfl)
  | setServer hi hstage hremoval htoken =>
      have hsets := SetsServer.of_step (.setServer hi hstage hremoval htoken) hi hstage htoken
      rw [dropEndpoint_clients]
      exact .of_set (.setServer hsets rfl rfl)
  | _ => first | exact .kept rfl | exact .kept (congrArg (·.get c) (dropEndpoint_clients ..))

/-! ## Servers -/

/-- The changes of a server. What its owner and the clients do at the connector keeps
the client and whether the connector listens. -/
inductive ServerMove (σ σ' : Runtime) (s : ServerId) (server : ServerObject) :
    Label → Prop where
  | kept {label : Label} (heq : server = σ.servers s) : ServerMove σ σ' s server label
  | make {key numEvents} (hphase : (σ.servers s).phase = .absent) (hnew : key ∉ σ.identifiers)
      (heq : server =
        { key := key, connector := .disabled numEvents, phase := .disabled }) :
      ServerMove σ σ' s server (.makeServerConnector s key numEvents)
  | enable (hphase : (σ.servers s).phase = .disabled)
      (heq : server =
        { σ.servers s with
          connector := { (σ.servers s).connector with listening := true }
          phase := .enabling
          period := (σ.servers s).period + 1 }) :
      ServerMove σ σ' s server (.enable s)
  | enableReturns (hphase : (σ.servers s).phase = .enabling)
      (hreturned : σ.indications (.enable s) = none)
      (heq : server = { σ.servers s with phase := .enabled }) :
      ServerMove σ σ' s server (.enableReturns s)
  | disable {destroying} (hphase : (σ.servers s).phase = .enabled)
      (heq : server = { σ.servers s with phase := .unregistered, destroying := destroying }) :
      ServerMove σ σ' s server (.disable s destroying)
  | destroy (hphase : (σ.servers s).phase = .disabled)
      (heq : server = { σ.servers s with phase := .erasing }) :
      ServerMove σ σ' s server (.destroyServerConnector s)
  | stopListening (hphase : (σ.servers s).phase = .unregistered)
      (heq : server =
        { σ.servers s with
          connector := (σ.servers s).connector.stopListening, phase := .stopping }) :
      ServerMove σ σ' s server (.stopListening s)
  | copyClient {c} (hphase : (σ.servers s).phase = .stopping)
      (hlisten : σ.listenerCopied s = false)
      (hclient : (σ.servers s).connector.client = some c)
      (heq : server = { σ.servers s with phase := .notifying c }) :
      ServerMove σ σ' s server (.copyClient s)
  | noClient (hphase : (σ.servers s).phase = .stopping)
      (hlisten : σ.listenerCopied s = false)
      (hclient : (σ.servers s).connector.client = none)
      (heq : server = { σ.servers s with phase := .draining }) :
      ServerMove σ σ' s server (.copyClient s)
  | resetServer {c} (hphase : (σ.servers s).phase = .notifying c)
      (heq : server = { σ.servers s with phase := .informing c }) :
      ServerMove σ σ' s server (.resetServer s)
  | notAvailable {c} (hphase : (σ.servers s).phase = .informing c)
      (heq : server = { σ.servers s with phase := .draining }) :
      ServerMove σ σ' s server (.notAvailable s)
  | disableReturns (hphase : (σ.servers s).phase = .draining)
      (hconnections : σ.hasConnections s = false)
      (heq : server =
        { σ.servers s with
          phase := if (σ.servers s).destroying then .erasing else .disabled }) :
      ServerMove σ σ' s server (.disableReturns s)
  | eraseIdentifier (hphase : (σ.servers s).phase = .erasing)
      (heq : server = { σ.servers s with phase := .destroyed }) :
      ServerMove σ σ' s server (.eraseIdentifier s)
  | connect {a i} (hconnects : Connects σ σ' a i) (hserver : i.server = s)
      (heq : server =
        { σ.servers s with
          connector := { (σ.servers s).connector with client := some i.client } }) :
      ServerMove σ σ' s server (.indicate a)
  | operate {label : Label} {connector} (hlistening : connector.listening = (σ.servers s).connector.listening)
      (hclient : connector.client = (σ.servers s).connector.client)
      (heq : server = { σ.servers s with connector := connector }) :
      ServerMove σ σ' s server label
  | resetClient {thread r k} (hremoves : Removes σ σ' thread r k)
      (hserver : k.server = s)
      (heq : server =
        { σ.servers s with connector := (σ.servers s).connector.resetClient }) :
      ServerMove σ σ' s server (.removeClient thread)

theorem ServerMove.of_set {s s' : ServerId} {server : ServerObject}
    (h : ServerMove σ σ' s' server label) : ServerMove σ σ' s (σ.servers.set s' server s) label := by
  rw [Store.set_apply]
  split
  next hs =>
    subst hs
    exact h
  next => exact .kept rfl

theorem Step.server (hstep : Step σ label σ') (s : ServerId) :
    ServerMove σ σ' s (σ'.servers s) label := by
  cases hstep with
  | makeServerConnector hphase hnew => exact .of_set (.make hphase hnew rfl)
  | enable hphase => exact .of_set (.enable hphase rfl)
  | enableReturns hphase hreturned => exact .of_set (.enableReturns hphase hreturned rfl)
  | disable hphase => exact .of_set (.disable hphase rfl)
  | destroyServerConnector hphase => exact .of_set (.destroy hphase rfl)
  | stopListening hphase => exact .of_set (.stopListening hphase rfl)
  | copyClient hphase hlisten hclient => exact .of_set (.copyClient hphase hlisten hclient rfl)
  | noClient hphase hlisten hclient => exact .of_set (.noClient hphase hlisten hclient rfl)
  | resetServer hphase =>
      rw [dropEndpoint_servers]
      exact .of_set (.resetServer hphase rfl)
  | notAvailable hphase hremoval => exact .of_set (.notAvailable hphase rfl)
  | disableReturns hphase hconnections => exact .of_set (.disableReturns hphase hconnections rfl)
  | eraseIdentifier hphase => exact .of_set (.eraseIdentifier hphase rfl)
  | connect hi hstage hlistening =>
      have hconnects := Connects.of_step (.connect hi hstage hlistening) hi hstage hlistening
      exact .of_set (.connect hconnects rfl rfl)
  | send hcall hconnection hoperation houtcome =>
      obtain ⟨hlistening, hclient⟩ := Connector.perform_of_isCall houtcome hoperation
      exact .of_set (.operate hlistening hclient rfl)
  | serve hphase hoperation houtcome =>
      obtain ⟨hlistening, hclient⟩ := Connector.perform_of_isService houtcome hoperation
      exact .of_set (.operate hlistening hclient rfl)
  | unsubscribe hremoval hconnection =>
      refine .of_set (.operate ?_ ?_ rfl)
      · rfl
      · rfl
  | resetClient hremoval hconnection =>
      exact .of_set (.resetClient ⟨hremoval, hconnection, by simp,
        by simp [setConnector, Connector.resetClient], by simp⟩ rfl rfl)
  | _ => first | exact .kept rfl | exact .kept (congrArg (·.get s) (dropEndpoint_servers ..))

/-! ## Indications -/

/-- The sections of an indication and the stages they lead to. -/
inductive StageMove (σ σ' : Runtime) (a : Caller) (i : Indication) : Stage → Prop where
  | lockToken (hstage : i.stage = .called)
      (htoken : (σ.clients i.client).phase.ownsToken = true ∨ σ.tokenCopied i.client = true) :
      StageMove σ σ' a i .locked
  | tokenGone (hstage : i.stage = .called)
      (htoken : (σ.clients i.client).phase.ownsToken = false) : StageMove σ σ' a i .returned
  | connect (hconnects : Connects σ σ' a i) : StageMove σ σ' a i (.connected σ.nextConnection)
  | notListening (hstage : i.stage = .locked)
      (hlistening : (σ.servers i.server).connector.listening = false) :
      StageMove σ σ' a i .released
  | setServer {t} (hsets : SetsServer σ σ' a i t) : StageMove σ σ' a i (.stored t)
  | destructorStarted {t} (hstage : i.stage = .connected t)
      (htoken : (σ.clients i.client).phase.ownsToken = false) : StageMove σ σ' a i (.leaving t)
  | available {t} (hstage : i.stage = .stored t)
      (hstates : σ'.states = (i.client, .available) :: σ.states) : StageMove σ σ' a i (.leaving t)
  | leave {t} (hstage : i.stage = .leaving t)
      (hlast : (σ.setStage a i .released).referenced t = false →
        σ'.removals (.indication a) = some { connection := t }) : StageMove σ σ' a i .released
  | releaseToken (hstage : i.stage = .released) (hremoval : σ.removals (.indication a) = none) :
      StageMove σ σ' a i .returned

theorem StageMove.ne_returned {a : Caller} {i : Indication} {stage : Stage}
    (h : StageMove σ σ' a i stage) :
    i.stage ≠ .returned := by
  cases h with
  | connect hconnects => simp [hconnects.stage]
  | setServer hsets => simp [hsets.stage]
  | _ => simp_all

theorem StageMove.pending {a : Caller} {i : Indication} {stage : Stage}
    (h : StageMove σ σ' a i stage)
    (hstage : stage = .called ∨ stage = .locked) : i.stage = .called ∨ i.stage = .locked := by
  cases h with
  | lockToken hcalled => exact .inl hcalled
  | _ => simp at hstage

/-- The changes of an indication. -/
inductive IndicationMove (σ σ' : Runtime) (a : Caller) (indication : Option Indication) :
    Label → Prop where
  | kept {label : Label} (heq : indication = σ.indications a) : IndicationMove σ σ' a indication label
  | enable {s} (ha : a = .enable s) (hphase : (σ.servers s).phase = .disabled)
      (heq : indication = (σ.records (recordKey (σ.servers s).key)).client.map
        (startIndication ⟨(σ.servers s).key.service, s⟩)) :
      IndicationMove σ σ' a indication (.enable s)
  | make {c key} (ha : a = .creation c) (hphase : (σ.clients c).phase = .absent)
      (hfree : (σ.records (recordKey key)).client = none)
      (heq : indication = (σ.records (recordKey key)).server.map fun server =>
        startIndication server ⟨key.service, c⟩) :
      IndicationMove σ σ' a indication (.makeClientConnector c key)
  | advance {i stage} (hi : σ.indications a = some i) (hmove : StageMove σ σ' a i stage)
      (heq : indication = some { i with stage := stage }) :
      IndicationMove σ σ' a indication (.indicate a)
  | returns {i} (hi : σ.indications a = some i) (hstage : i.stage = .returned)
      (heq : indication = none) : IndicationMove σ σ' a indication (.indicate a)

theorem IndicationMove.of_set {a a' : Caller} {indication : Option Indication}
    (h : IndicationMove σ σ' a' indication label) :
    IndicationMove σ σ' a (σ.indications.set a' indication a) label := by
  rw [Store.set_apply]
  split
  next ha =>
    subst ha
    exact h
  next => exact .kept rfl

theorem Step.indication (hstep : Step σ label σ') (a : Caller) :
    IndicationMove σ σ' a (σ'.indications a) label := by
  cases hstep with
  | enable hphase => exact .of_set (.enable rfl hphase rfl)
  | makeClientConnector hphase hfree => exact .of_set (.make rfl hphase hfree rfl)
  | lockToken hi hstage htoken => exact .of_set (.advance hi (.lockToken hstage htoken) rfl)
  | tokenGone hi hstage htoken => exact .of_set (.advance hi (.tokenGone hstage htoken) rfl)
  | connect hi hstage hlistening =>
      have hconnects := Connects.of_step (.connect hi hstage hlistening) hi hstage hlistening
      exact .of_set (.advance hi (.connect hconnects) rfl)
  | notListening hi hstage hlistening =>
      exact .of_set (.advance hi (.notListening hstage hlistening) rfl)
  | setServer hi hstage hremoval htoken =>
      have hsets := SetsServer.of_step (.setServer hi hstage hremoval htoken) hi hstage htoken
      rw [dropEndpoint_indications]
      exact .of_set (.advance hi (.setServer hsets) rfl)
  | destructorStarted hi hstage htoken =>
      exact .of_set (.advance hi (.destructorStarted hstage htoken) rfl)
  | available hi hstage hremoval => exact .of_set (.advance hi (.available hstage rfl) rfl)
  | leave hi hstage hremoval =>
      rw [dropEndpoint_indications]
      exact .of_set (.advance hi (.leave hstage (dropEndpoint_removals_self _ _)) rfl)
  | releaseToken hi hstage hremoval => exact .of_set (.advance hi (.releaseToken hstage hremoval) rfl)
  | indicationReturns hi hstage => exact .of_set (.returns hi hstage rfl)
  | _ => first | exact .kept rfl | exact .kept (congrArg (·.get a) (dropEndpoint_indications ..))

@[simp] theorem startIndication_client {server client : Interfaced} :
    (startIndication server client).client = client.connector := rfl

@[simp] theorem startIndication_server {server client : Interfaced} :
    (startIndication server client).server = server.connector := rfl

theorem startIndication_stage {server client : Interfaced} :
    (startIndication server client).stage = .called ∨
      (startIndication server client).stage = .returned := by
  unfold startIndication
  dsimp only
  split
  · exact .inl rfl
  · exact .inr rfl

theorem startIndication_ne_returned {server client : Interfaced}
    (h : (startIndication server client).stage ≠ .returned) :
    isMinorVersionCompatible server.interface client.interface = true := by
  unfold startIndication at h
  dsimp only at h
  split at h
  next hcompatible => exact hcompatible
  next => exact absurd rfl h

/-- Where an indication comes from. -/
inductive IndicationOrigin (σ σ' : Runtime) (a : Caller) (i : Indication) : Label → Prop where
  | old {label : Label} {j} (hj : σ.indications a = some j) (hclient : i.client = j.client)
      (hserver : i.server = j.server) (hstage : i.stage = j.stage ∨ StageMove σ σ' a j i.stage) :
      IndicationOrigin σ σ' a i label
  | enable {s x} (ha : a = .enable s) (hphase : (σ.servers s).phase = .disabled)
      (hclient : (σ.records (recordKey (σ.servers s).key)).client = some x)
      (heq : i = startIndication ⟨(σ.servers s).key.service, s⟩ x) :
      IndicationOrigin σ σ' a i (.enable s)
  | make {c key x} (ha : a = .creation c) (hphase : (σ.clients c).phase = .absent)
      (hfree : (σ.records (recordKey key)).client = none)
      (hserver : (σ.records (recordKey key)).server = some x)
      (heq : i = startIndication x ⟨key.service, c⟩) :
      IndicationOrigin σ σ' a i (.makeClientConnector c key)

theorem Step.indication_origin (hstep : Step σ label σ') {a : Caller} {i : Indication}
    (hi : σ'.indications a = some i) : IndicationOrigin σ σ' a i label := by
  have hmove := hstep.indication a
  rw [hi] at hmove
  cases hmove with
  | kept heq => exact .old heq.symm rfl rfl (.inl rfl)
  | enable ha hphase heq =>
      obtain ⟨x, hx, rfl⟩ := Option.map_eq_some_iff.1 heq.symm
      exact .enable ha hphase hx rfl
  | make ha hphase hfree heq =>
      obtain ⟨x, hx, rfl⟩ := Option.map_eq_some_iff.1 heq.symm
      exact .make ha hphase hfree hx rfl
  | advance hj hmove heq =>
      cases heq
      exact .old hj rfl rfl (.inr hmove)
  | returns hj hstage heq => cases heq

/-- An indication past its start is an old one. -/
theorem Step.indication_old (hstep : Step σ label σ') {a : Caller} {i : Indication}
    (hi : σ'.indications a = some i) (hcalled : i.stage ≠ .called)
    (hreturned : i.stage ≠ .returned) :
    ∃ j, σ.indications a = some j ∧ i.client = j.client ∧ i.server = j.server ∧
      (i.stage = j.stage ∨ StageMove σ σ' a j i.stage) := by
  cases hstep.indication_origin hi with
  | old hj hclient hserver hstage => exact ⟨_, hj, hclient, hserver, hstage⟩
  | enable _ _ _ heq | make _ _ _ _ heq =>
      rw [heq] at hcalled hreturned
      exact absurd startIndication_stage (not_or.2 ⟨hcalled, hreturned⟩)

/-! ## Connections and their endpoints -/

/-- The changes of a connection. -/
inductive ConnectionMove (σ σ' : Runtime) (t : ConnectionId) : Label → Prop where
  | kept {label : Label} (heq : σ'.connections t = σ.connections t) : ConnectionMove σ σ' t label
  | connect {a i} (hconnects : Connects σ σ' a i) (ht : t = σ.nextConnection) :
      ConnectionMove σ σ' t (.indicate a)
  | resetClient {thread r k} (hremoves : Removes σ σ' thread r k)
      (ht : t = r.connection) : ConnectionMove σ σ' t (.removeClient thread)

theorem Step.connection (hstep : Step σ label σ') (t : ConnectionId) :
    ConnectionMove σ σ' t label := by
  cases hstep with
  | connect hi hstage hlistening =>
      by_cases ht : t = σ.nextConnection
      · exact .connect (.of_step (.connect hi hstage hlistening) hi hstage hlistening) ht
      · exact .kept (by simp [ht])
  | @resetClient thread removal connection hremoval hconnection =>
      by_cases ht : t = removal.connection
      · exact .resetClient ⟨hremoval, hconnection, by simp,
          by simp [setConnector, Connector.resetClient], by simp⟩ ht
      · exact .kept (by simp [ht])
  | _ => first | exact .kept rfl | exact .kept (congrArg (·.get t) (dropEndpoint_connections ..))

/-- A connection was there before, or an indication is making it. -/
theorem Step.connection_origin (hstep : Step σ label σ') {t : ConnectionId} {k : Connection}
    (h : σ'.connections t = some k) :
    σ.connections t = some k ∨
      ∃ a i, Connects σ σ' a i ∧ t = σ.nextConnection ∧ k = ⟨i.client, i.server⟩ := by
  cases hstep.connection t with
  | kept heq => exact .inl (heq ▸ h)
  | connect hconnects ht =>
      rw [ht, hconnects.connection] at h
      cases h
      exact .inr ⟨_, _, hconnects, ht, rfl⟩
  | resetClient hremoves ht =>
      rw [ht, hremoves.connectionAfter] at h
      cases h

theorem Step.connects (hstep : Step σ label σ') :
    σ'.connects = σ.connects ∨ ∃ a i, label = .indicate a ∧ Connects σ σ' a i := by
  cases hstep with
  | connect hi hstage hlistening =>
      exact .inr ⟨_, _, rfl, .of_step (.connect hi hstage hlistening) hi hstage hlistening⟩
  | _ => first | exact .inl rfl | exact .inl (dropEndpoint_connects ..)

/-- The endpoint of a client is set by an indication. -/
theorem Step.client_server (hstep : Step σ label σ') {c : ClientId} {t : ConnectionId}
    (h : (σ'.clients c).server = some t) :
    (σ.clients c).server = some t ∨
      ∃ a i, SetsServer σ σ' a i t ∧ i.client = c := by
  cases hstep.client c with
  | setServer hsets hclient heq =>
      rw [heq] at h
      cases h
      exact .inr ⟨_, _, hsets, hclient⟩
  | make hphase hfree heq => simp [heq] at h
  | destroy hphase heq => simp [heq] at h
  | resetServer hphase heq => simp [heq] at h
  | kept heq | creationReturns _ _ heq | store _ heq | unregister _ heq
  | destructorReturns _ _ heq =>
      rw [heq] at h
      exact .inl h

theorem StageMove.connection {a : Caller} {i : Indication} {stage : Stage}
    (h : StageMove σ σ' a i stage)
    {t : ConnectionId} (hstage : stage.connection = some t) :
    i.stage.connection = some t ∨
      t = σ.nextConnection ∧ σ'.connections t = some ⟨i.client, i.server⟩ := by
  cases h with
  | connect hconnects =>
      cases hstage
      exact .inr ⟨rfl, hconnects.connection⟩
  | lockToken | tokenGone | notListening | leave | releaseToken => cases hstage
  | setServer hsets =>
      rw [hsets.stage]
      exact .inl hstage
  | destructorStarted hj _ | available hj _ =>
      rw [hj]
      exact .inl hstage

/-- The endpoint of an indication was there before, or it is connecting. -/
theorem Step.indication_connection (hstep : Step σ label σ') {a : Caller} {i : Indication}
    {t : ConnectionId} (hi : σ'.indications a = some i) (hstage : i.stage.connection = some t) :
    (∃ j, σ.indications a = some j ∧ i.client = j.client ∧ i.server = j.server ∧
      j.stage.connection = some t) ∨
      t = σ.nextConnection ∧ σ'.connections t = some ⟨i.client, i.server⟩ := by
  obtain ⟨j, hj, hclient, hserver, hmove⟩ := hstep.indication_old hi
    (fun h => by simp [h, Stage.connection] at hstage)
    (fun h => by simp [h, Stage.connection] at hstage)
  rcases hmove with heq | hmove
  · exact .inl ⟨j, hj, hclient, hserver, heq ▸ hstage⟩
  · rcases hmove.connection hstage with hold | hnew
    · exact .inl ⟨j, hj, hclient, hserver, hold⟩
    · exact .inr (by rwa [hclient, hserver])

/-- The endpoint of a call is a copy of the one of a client. -/
theorem Step.call (hstep : Step σ label σ') {n : CallId} {t : ConnectionId}
    (h : σ'.calls n = some t) : σ.calls n = some t ∨ ∃ c, (σ.clients c).server = some t := by
  cases hstep with
  | @lockServer m c hcall hremoval =>
      by_cases hn : n = m
      · exact .inr ⟨c, by simpa [hn] using h⟩
      · exact .inl (by simpa [hn] using h)
  | @callReturns m t' hcall =>
      by_cases hn : n = m
      · simp [hn] at h
      · exact .inl (by simpa [hn] using h)
  | _ =>
      first
      | exact .inl h
      | rw [dropEndpoint_calls] at h
        exact .inl h

/-- Endpoints are copies of endpoints, but for the first one of a connection. -/
theorem Step.referenced (hstep : Step σ label σ') {t : ConnectionId}
    (h : σ'.referenced t = true) : σ.referenced t = true ∨ t = σ.nextConnection := by
  simp only [referenced_eq_true] at h ⊢
  rcases h with ⟨c, hc⟩ | ⟨a, i, hi, hstage⟩ | ⟨n, hn⟩
  · rcases hstep.client_server hc with hold | ⟨a, i, hsets, -⟩
    · exact .inl (.inl ⟨c, hold⟩)
    · exact .inl (.inr (.inl ⟨a, i, hsets.indication, by rw [hsets.stage]; rfl⟩))
  · rcases hstep.indication_connection hi hstage with ⟨j, hj, -, -, hold⟩ | ⟨hnew, -⟩
    · exact .inl (.inr (.inl ⟨a, j, hj, hold⟩))
    · exact .inr hnew
  · rcases hstep.call hn with hold | hclient
    · exact .inl (.inr (.inr ⟨n, hold⟩))
    · exact .inl (.inl hclient)

/-- A removal starts when the last endpoint of its connection is given up, and no other
one starts in the same step. -/
theorem Step.removal (hstep : Step σ label σ') {thread : Thread} {removal : Removal}
    (h : σ'.removals thread = some removal) :
    (∃ r, σ.removals thread = some r ∧ r.connection = removal.connection) ∨
      σ.referenced removal.connection = true ∧ σ'.referenced removal.connection = false ∧
        ∀ thread', thread' ≠ thread → σ'.removals thread' = σ.removals thread' := by
  -- the endpoint that `owner` gives up is one of the state before
  have hdrop : ∀ {τ : Runtime} {owner : Thread} {endpoint : Option ConnectionId},
      τ.removals = σ.removals → (∀ t, endpoint = some t → σ.referenced t = true) →
      (τ.dropEndpoint owner endpoint).removals thread = some removal →
      (∃ r, σ.removals thread = some r ∧ r.connection = removal.connection) ∨
        σ.referenced removal.connection = true ∧
          (τ.dropEndpoint owner endpoint).referenced removal.connection = false ∧
          ∀ thread', thread' ≠ thread →
            (τ.dropEndpoint owner endpoint).removals thread' = σ.removals thread' := by
    intro τ owner endpoint hremovals hheld hthread
    rcases dropEndpoint_removals _ _ _ hthread with hold | ⟨rfl, hendpoint, hlast⟩
    · exact .inl ⟨removal, hremovals ▸ hold, rfl⟩
    · refine .inr ⟨hheld _ hendpoint, by rw [dropEndpoint_referenced, hlast], ?_⟩
      intro thread' hne
      rw [dropEndpoint_removals_of_ne _ _ _ hne, hremovals]
  cases hstep with
  | @resetServer s c hphase =>
      exact hdrop rfl (fun t ht => referenced_eq_true.2 (.inl ⟨c, ht⟩)) h
  | @destroyClientConnector c hphase =>
      exact hdrop rfl (fun t ht => referenced_eq_true.2 (.inl ⟨c, ht⟩)) h
  | @setServer a i t hi hstage hremoval htoken =>
      exact hdrop rfl (fun t ht => referenced_eq_true.2 (.inl ⟨i.client, ht⟩)) h
  | @leave a i t hi hstage hremoval =>
      refine hdrop rfl (fun t' ht => referenced_eq_true.2 (.inr (.inl ⟨a, i, hi, ?_⟩))) h
      rw [hstage]
      exact ht
  | @callReturns n t hcall =>
      exact hdrop rfl (fun t' ht => referenced_eq_true.2 (.inr (.inr ⟨n, hcall.trans ht⟩))) h
  | @unsubscribe thread' r connection hr hconnection =>
      by_cases hthread : thread = thread'
      · refine .inl ⟨r, by rw [hthread, hr], ?_⟩
        simp only [hthread, Store.set_apply, if_true] at h
        cases h
        rfl
      · exact .inl ⟨removal, by simpa [hthread] using h, rfl⟩
  | @resetClient thread' r connection hr hconnection =>
      by_cases hthread : thread = thread'
      · simp [hthread] at h
      · exact .inl ⟨removal, by simpa [hthread] using h, rfl⟩
  | _ => exact .inl ⟨removal, h, rfl⟩

/-- A removal of an indication stays until it has removed the client. -/
theorem Step.indication_removal (hstep : Step σ label σ') {a : Caller} {r : Removal}
    (h : σ.removals (.indication a) = some r) :
    (∃ r', σ'.removals (.indication a) = some r' ∧ r'.connection = r.connection) ∨
      ∃ k, Removes σ σ' (.indication a) r k := by
  have hkept : ∀ {τ : Runtime} {owner : Thread} {endpoint : Option ConnectionId},
      τ.removals = σ.removals → Thread.indication a ≠ owner →
      (τ.dropEndpoint owner endpoint).removals (.indication a) = some r := by
    intro τ owner endpoint hremovals hne
    rw [dropEndpoint_removals_of_ne _ _ _ hne, hremovals, h]
  cases hstep with
  | resetServer | destroyClientConnector | callReturns => exact .inl ⟨r, hkept rfl (by simp), rfl⟩
  | setServer _ _ hremoval _ | leave _ _ hremoval =>
      -- an indication whose removal runs makes no other step
      refine .inl ⟨r, hkept rfl ?_, rfl⟩
      rintro hsame
      rw [← hsame, h] at hremoval
      cases hremoval
  | @unsubscribe thread r' k hr hk =>
      by_cases hthread : Thread.indication a = thread
      · rw [← hthread, h] at hr
        cases hr
        exact .inl ⟨{ r with event := r.event + 1 }, by simp [hthread], rfl⟩
      · exact .inl ⟨r, by simpa [hthread] using h, rfl⟩
  | @resetClient thread r' k hr hk =>
      by_cases hthread : Thread.indication a = thread
      · rw [← hthread, h] at hr
        cases hr
        exact .inr ⟨k, h, hk, by simp [hthread], by simp [setConnector, Connector.resetClient],
          by simp⟩
      · exact .inl ⟨r, by simpa [hthread] using h, rfl⟩
  | _ => exact .inl ⟨r, h, rfl⟩

/-! ## Calls of `on_service_state_change` -/

/-- The callbacks that a step makes. -/
inductive StatesMove (σ σ' : Runtime) : Label → Prop where
  | kept {label : Label} (heq : σ'.states = σ.states) : StatesMove σ σ' label
  | available {a i t} (hi : σ.indications a = some i) (hstage : i.stage = .stored t)
      (hafter : σ'.indications a = some { i with stage := .leaving t })
      (hclients : σ'.clients = σ.clients)
      (heq : σ'.states = (i.client, .available) :: σ.states) : StatesMove σ σ' (.indicate a)
  | notAvailable {s c} (hphase : (σ.servers s).phase = .informing c)
      (hafter : (σ'.servers s).phase = .draining)
      (heq : σ'.states = (c, .notAvailable) :: σ.states) : StatesMove σ σ' (.notAvailable s)

theorem Step.states (hstep : Step σ label σ') : StatesMove σ σ' label := by
  cases hstep with
  | available hi hstage hremoval => exact .available hi hstage (by simp [setStage]) rfl rfl
  | notAvailable hphase hremoval => exact .notAvailable hphase (by simp [setServerPhase]) rfl
  | _ => first | exact .kept rfl | exact .kept (dropEndpoint_states ..)

/-! ## Records and identifiers -/

/-- The changes of a record. -/
inductive RecordMove (σ : Runtime) (key : RecordKey) (record : Record) : Label → Prop where
  | kept {label : Label} (heq : record = σ.records key) : RecordMove σ key record label
  | enable {s} (hkey : recordKey (σ.servers s).key = key)
      (heq : record =
        { σ.records key with server := some ⟨(σ.servers s).key.service, s⟩ }) :
      RecordMove σ key record (.enable s)
  | disable {s destroying} (hkey : recordKey (σ.servers s).key = key)
      (hphase : (σ.servers s).phase = .enabled)
      (heq : record = { σ.records key with server := none }) :
      RecordMove σ key record (.disable s destroying)
  | make {c k} (hkey : recordKey k = key) (hfree : (σ.records key).client = none)
      (heq : record = { σ.records key with client := some ⟨k.service, c⟩ }) :
      RecordMove σ key record (.makeClientConnector c k)
  | unregister {c} (hkey : recordKey (σ.clients c).key = key)
      (hphase : (σ.clients c).phase = .releasing)
      (heq : record = { σ.records key with client := none }) :
      RecordMove σ key record (.unregisterClient c)

theorem RecordMove.of_set {key key' : RecordKey} {record : Record}
    (h : RecordMove σ key' record label) :
    RecordMove σ key (σ.records.set key' record key) label := by
  rw [Store.set_apply]
  split
  next hkey =>
    subst hkey
    exact h
  next => exact .kept rfl

theorem Step.record (hstep : Step σ label σ') (key : RecordKey) :
    RecordMove σ key (σ'.records key) label := by
  cases hstep with
  | enable hphase => exact .of_set (.enable rfl rfl)
  | disable hphase => exact .of_set (.disable rfl hphase rfl)
  | makeClientConnector hphase hfree => exact .of_set (.make rfl hfree rfl)
  | unregisterClient hphase hremoval => exact .of_set (.unregister rfl hphase rfl)
  | _ => first | exact .kept rfl | exact .kept (congrArg (·.get key) (dropEndpoint_records ..))

/-- An identifier stays until its server is destroyed. -/
theorem Step.identifier (hstep : Step σ label σ') {key : Key} (h : key ∈ σ.identifiers) :
    key ∈ σ'.identifiers ∨ ∃ s, (σ.servers s).key = key ∧
      (σ.servers s).phase = .erasing ∧ (σ'.servers s).phase = .destroyed := by
  cases hstep with
  | makeServerConnector hphase hnew => exact .inl (Finset.mem_insert_of_mem h)
  | @eraseIdentifier s hphase =>
      by_cases hkey : (σ.servers s).key = key
      · exact .inr ⟨s, hkey, hphase, by simp [setServerPhase]⟩
      · exact .inl (Finset.mem_erase.2 ⟨Ne.symm hkey, h⟩)
  | _ =>
      first
      | exact .inl h
      | rw [dropEndpoint_identifiers]
        exact .inl h

/-! ## What lasts -/

/-- A client keeps its key once it is made. -/
theorem Step.client_key (hstep : Step σ label σ') {c : ClientId}
    (h : (σ.clients c).phase ≠ .absent) :
    (σ'.clients c).phase ≠ .absent ∧ (σ'.clients c).key = (σ.clients c).key := by
  cases hstep.client c <;> grind

/-- A stored connector stays stored. -/
theorem Step.stored (hstep : Step σ label σ') {c : ClientId}
    (hpresent : (σ.clients c).phase ≠ .absent) (h : (σ.clients c).stored = true) :
    (σ'.clients c).stored = true := by
  cases hstep.client c <;> grind

/-- A server keeps its key once it is made. -/
theorem Step.server_key (hstep : Step σ label σ') {s : ServerId}
    (h : (σ.servers s).phase ≠ .absent) :
    (σ'.servers s).phase ≠ .absent ∧ (σ'.servers s).key = (σ.servers s).key := by
  cases hstep.server s <;> grind

/-- A new period of a server starts with `enable`. -/
theorem Step.period (hstep : Step σ label σ') {s : ServerId}
    (h : (σ.servers s).phase ≠ .absent) :
    (σ'.servers s).period = (σ.servers s).period ∨
      (σ.servers s).phase = .disabled ∧ (σ'.servers s).period = (σ.servers s).period + 1 := by
  cases hstep.server s <;> grind

/-- A client that is there is an old one, or it is being made. -/
theorem Step.client_of_alive (hstep : Step σ label σ') {c : ClientId}
    (h : (σ'.clients c).phase.IsAlive) :
    ((σ.clients c).phase.IsAlive ∧ (σ'.clients c).key = (σ.clients c).key) ∨
      label = .makeClientConnector c (σ'.clients c).key ∧
        (σ.records (recordKey (σ'.clients c).key)).client = none := by
  cases hstep.client c <;> grind

/-- A client that has not started its destructor is an old one, or it is being made. -/
theorem Step.client_of_ownsToken (hstep : Step σ label σ') {c : ClientId}
    (h : (σ'.clients c).phase.ownsToken = true) :
    ((σ.clients c).phase.ownsToken = true ∧ (σ'.clients c).key = (σ.clients c).key) ∨
      (σ.clients c).phase = .absent ∧ label = .makeClientConnector c (σ'.clients c).key := by
  cases hstep.client c <;> grind

theorem Step.ownsToken_of_present (hstep : Step σ label σ') {c : ClientId}
    (hpresent : (σ.clients c).phase ≠ .absent) (h : (σ'.clients c).phase.ownsToken = true) :
    (σ.clients c).phase.ownsToken = true := by
  rcases hstep.client_of_ownsToken h with ⟨howns, -⟩ | ⟨habsent, -⟩
  · exact howns
  · exact absurd habsent hpresent

/-- A server that is there is an old one, or it is being made. -/
theorem Step.server_of_alive (hstep : Step σ label σ') {s : ServerId}
    (h : (σ'.servers s).phase.IsAlive) :
    ((σ.servers s).phase.IsAlive ∧ (σ'.servers s).key = (σ.servers s).key) ∨
      ∃ numEvents, label = .makeServerConnector s (σ'.servers s).key numEvents ∧
        (σ'.servers s).key ∉ σ.identifiers := by
  cases hstep.server s <;> grind

/-- A registered server was so before, or it is being enabled. -/
theorem Step.server_of_registered (hstep : Step σ label σ') {s : ServerId}
    (h : (σ'.servers s).phase.IsRegistered) :
    (σ'.servers s).key = (σ.servers s).key ∧
      ((σ.servers s).phase.IsRegistered ∨ label = .enable s) := by
  cases hstep.server s <;> grind

/-- Before its destructor, a client gives up its endpoint only when it is told that the
service goes away. -/
theorem Step.server_ne_none (hstep : Step σ label σ') {c : ClientId}
    (h : (σ.clients c).server ≠ none) (hpresent : (σ.clients c).phase ≠ .absent)
    (howns : (σ'.clients c).phase.ownsToken = true) :
    (σ'.clients c).server ≠ none ∨
      ∃ s, (σ.servers s).phase = .notifying c ∧ (σ'.servers s).phase = .informing c := by
  cases hstep.client c with
  | resetServer hphase heq =>
      refine .inr ⟨_, hphase, ?_⟩
      cases hstep with
      | resetServer hphase' =>
          rw [hphase] at hphase'
          cases hphase'
          simp [setServerPhase]
  | _ => exact .inl (by grind)

/-- `make_client_connector` returns after its indication. -/
theorem Step.creating (hstep : Step σ label σ') {c : ClientId}
    (h : (σ.clients c).phase = .creating) (hindicated : σ.indications (.creation c) ≠ none) :
    (σ'.clients c).phase = .creating := by
  cases hstep.client c <;> grind

/-- `enable` returns after its indication. -/
theorem Step.enabling (hstep : Step σ label σ') {s : ServerId}
    (h : (σ.servers s).phase = .enabling) (hindicated : σ.indications (.enable s) ≠ none) :
    (σ'.servers s).phase = .enabling := by
  cases hstep.server s <;> grind

/-- A server with a copy of its listen endpoint does not get past the first wait of
`disable`. -/
theorem Step.listening (hstep : Step σ label σ') {s : ServerId}
    (h : (σ.servers s).phase.IsRegistered ∨ (σ.servers s).phase = .unregistered ∨
      (σ.servers s).phase = .stopping) (hcopied : σ.listenerCopied s = true) :
    (σ'.servers s).phase.IsRegistered ∨ (σ'.servers s).phase = .unregistered ∨
      (σ'.servers s).phase = .stopping := by
  cases hstep.server s <;> grind

/-- The destructor of a client returns when no copy of the stop token is left. -/
theorem Step.client_alive (hstep : Step σ label σ') {c : ClientId}
    (h : (σ.clients c).phase.IsAlive)
    (htoken : (σ.clients c).phase.ownsToken = true ∨ σ.tokenCopied c = true) :
    (σ'.clients c).phase.IsAlive := by
  cases hstep.client c <;> grind

theorem StageMove.holdsToken {a : Caller} {i : Indication} {stage : Stage}
    (h : StageMove σ σ' a i stage)
    (hstage : stage.holdsToken = true) :
    i.stage.holdsToken = true ∨
      (σ.clients i.client).phase.ownsToken = true ∨ σ.tokenCopied i.client = true := by
  cases h with
  | lockToken hj htoken => exact .inr htoken
  | tokenGone | releaseToken => cases hstage
  | connect hconnects => exact .inl (by rw [hconnects.stage]; rfl)
  | setServer hsets => exact .inl (by rw [hsets.stage]; rfl)
  | notListening hj _ | destructorStarted hj _ | available hj _ | leave hj _ =>
      exact .inl (by rw [hj]; rfl)

/-- The client of a server has connected through an indication. -/
theorem Step.server_client (hstep : Step σ label σ') {s : ServerId} {c : ClientId}
    (h : (σ'.servers s).connector.client = some c) :
    (σ.servers s).connector.client = some c ∨
      ∃ a i, label = .indicate a ∧ Connects σ σ' a i ∧ i.client = c ∧ i.server = s := by
  cases hstep.server s with
  | connect hconnects hserver heq =>
      rw [heq] at h
      cases h
      exact .inr ⟨_, _, rfl, hconnects, rfl, hserver⟩
  | _ => exact .inl (by grind)

/-- Whom a server tells that it goes away was its client after the first wait of
`disable`. -/
theorem Step.server_isFor (hstep : Step σ label σ') {s : ServerId} {c : ClientId}
    (h : (σ'.servers s).phase.isFor c = true) :
    (σ.servers s).phase.isFor c = true ∨
      (σ.servers s).phase = .stopping ∧ σ.listenerCopied s = false ∧
        (σ.servers s).connector.client = some c := by
  cases hstep.server s <;> grind

/-- Copies of the stop token come from the client or from another copy. -/
theorem Step.tokenCopied (hstep : Step σ label σ') {c : ClientId}
    (h : σ'.tokenCopied c = true) :
    (σ.clients c).phase.ownsToken = true ∨ σ.tokenCopied c = true := by
  rcases tokenCopied_eq_true.1 h with ⟨a, i, hi, rfl, hstage⟩ | ⟨s, hs⟩ | ⟨s, hs⟩
  · obtain ⟨hcalled, hreturned⟩ := Stage.holdsToken_eq_true.1 hstage
    obtain ⟨j, hj, hclient, hserver, hmove⟩ := hstep.indication_old hi hcalled hreturned
    rw [hclient]
    rcases hmove with heq | hmove
    · exact .inr (tokenCopied_eq_true.2 (.inl ⟨a, j, hj, rfl, heq ▸ hstage⟩))
    · rcases hmove.holdsToken hstage with hold | htoken
      · exact .inr (tokenCopied_eq_true.2 (.inl ⟨a, j, hj, rfl, hold⟩))
      · exact htoken
  · rcases hstep.server_client hs with hold | ⟨a, i, -, hconnects, rfl, -⟩
    · exact .inr (tokenCopied_eq_true.2 (.inr (.inl ⟨s, hold⟩)))
    · have hstage : i.stage.holdsToken = true := by rw [hconnects.stage]; rfl
      exact .inr (tokenCopied_eq_true.2 (.inl ⟨a, i, hconnects.indication, rfl, hstage⟩))
  · rcases hstep.server_isFor hs with hold | ⟨-, -, hclient⟩
    · exact .inr (tokenCopied_eq_true.2 (.inr (.inr ⟨s, hold⟩)))
    · exact .inr (tokenCopied_eq_true.2 (.inr (.inl ⟨s, hclient⟩)))

end Runtime

end Socom

end SomeipGateway
