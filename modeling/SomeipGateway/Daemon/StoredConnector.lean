import SomeipGateway.Daemon.Config
import SomeipGateway.Socom.Connections

/-! # The connector that the callbacks use

gatewayd and someipd create an instance first and its client connector second; the
callbacks have a pointer to the instance and subscribe through its
`client_connector_`, which is null until `make_client_connector` has returned.
-/

namespace SomeipGateway

namespace Daemon

open Socom

/-- A call of a client connector. -/
structure ConnectorCall where
  connector : ClientId
  operation : Connector.Operation
deriving DecidableEq, Repr

/-! ## The callbacks -/

/-- A loop over the events counts their identifiers. It fails when it follows a null
`client_connector_`. -/
def LocalNetworkService.subscribe (clientConnector : Option ClientId) :
    List EventConfig → EventId → Option (List ConnectorCall)
  | [], _ => some []
  | _ :: events, id => do
      let connector ← clientConnector
      let calls ← subscribe clientConnector events ((id + 1) % 2 ^ 16)
      some (⟨connector, .subscribeEvent id .update⟩ :: calls)

def LocalNetworkService.onServiceStateChange (t : ServiceType)
    (clientConnector : Option ClientId) : Socom.ServiceState → Option (List ConnectorCall)
  | .notAvailable => some []
  | .available => do
      let events ← t.events
      subscribe clientConnector events 0

/-- A loop over the indices casts them to identifiers; `n` indices are left at `i`. -/
def RemoteServiceInstance.subscribe (clientConnector : Option ClientId) :
    (n i : Nat) → Option (List ConnectorCall)
  | 0, _ => some []
  | n + 1, i => do
      let connector ← clientConnector
      let calls ← subscribe clientConnector n (i + 1)
      some (⟨connector, .subscribeEvent (i % 2 ^ 16) .update⟩ :: calls)

def RemoteServiceInstance.onServiceStateChange (t : ServiceType)
    (clientConnector : Option ClientId) : Socom.ServiceState → Option (List ConnectorCall)
  | .notAvailable => some []
  | .available => do
      let events ← t.events
      subscribe clientConnector events.length 0

/-- A subscription to each of `n` events, from the index `i` on. -/
def subscriptions (c : ClientId) (n i : Nat) : List ConnectorCall :=
  (List.range' i n).map fun j => ⟨c, .subscribeEvent (j % 2 ^ 16) .update⟩

theorem subscriptions_succ (c : ClientId) (n i : Nat) :
    subscriptions c (n + 1) i =
      ⟨c, .subscribeEvent (i % 2 ^ 16) .update⟩ :: subscriptions c n (i + 1) := by
  simp [subscriptions, List.range'_succ]

theorem LocalNetworkService.subscribe_some (c : ClientId) (events : List EventConfig) (i : Nat) :
    subscribe (some c) events (i % 2 ^ 16) = some (subscriptions c events.length i) := by
  induction events generalizing i with
  | nil => rfl
  | cons event events ih =>
      have hnext : (i % 2 ^ 16 + 1) % 2 ^ 16 = (i + 1) % 2 ^ 16 := Nat.mod_add_mod ..
      simp only [subscribe, Option.bind_eq_bind, Option.bind_some, hnext, ih, List.length_cons,
        subscriptions_succ]

theorem RemoteServiceInstance.subscribe_some (c : ClientId) (n i : Nat) :
    subscribe (some c) n i = some (subscriptions c n i) := by
  induction n generalizing i with
  | zero => rfl
  | succ n ih => simp [subscribe, ih, subscriptions_succ]

/-- With a connector, every event of the type is subscribed to. -/
theorem LocalNetworkService.onServiceStateChange_some {t : ServiceType}
    {events : List EventConfig} (h : t.events = some events) (c : ClientId) :
    onServiceStateChange t (some c) .available = some (subscriptions c events.length 0) := by
  simp only [onServiceStateChange, h, Option.bind_eq_bind, Option.bind_some]
  exact subscribe_some c events 0

theorem RemoteServiceInstance.onServiceStateChange_some {t : ServiceType}
    {events : List EventConfig} (h : t.events = some events) (c : ClientId) :
    onServiceStateChange t (some c) .available = some (subscriptions c events.length 0) := by
  simp only [onServiceStateChange, h, Option.bind_eq_bind, Option.bind_some]
  exact subscribe_some c events.length 0

/-! ## The connector in a run -/

section run

variable {σ σ' : Runtime} {label : Runtime.Label}

/-- `client_connector_` of the instance whose callbacks the client has. -/
def clientConnector (σ : Runtime) (c : ClientId) : Option ClientId :=
  if (σ.clients c).stored then some c else none

/-- No client is made that finds a server it can connect to, and no server is enabled
that finds a client whose connector was not stored yet. -/
def storedFirst (σ : Runtime) : Runtime.Label → Bool
  | .makeClientConnector _ key =>
      (σ.records (recordKey key)).client.isSome ||
        (σ.records (recordKey key)).server.all fun server =>
          !isMinorVersionCompatible server.interface key.service
  | .enable s =>
      (σ.records (recordKey (σ.servers s).key)).client.all fun client =>
        !isMinorVersionCompatible (σ.servers s).key.service client.interface ||
          (σ.clients client.connector).stored
  | _ => true

/-- The connector of a client that is being connected is stored. -/
def IndicatedStored (σ : Runtime) : Prop :=
  ∀ a i, σ.indications a = some i → i.stage ≠ .returned → (σ.clients i.client).stored = true

theorem storedFirst_makeClientConnector {c : ClientId} {key : Key}
    (h : storedFirst σ (.makeClientConnector c key) = true)
    (hfree : (σ.records (recordKey key)).client = none) (server : Interfaced)
    (hserver : (σ.records (recordKey key)).server = some server) :
    isMinorVersionCompatible server.interface key.service = false := by
  simpa [storedFirst, hfree, hserver] using h

theorem storedFirst_enable {s : ServerId} (h : storedFirst σ (.enable s) = true)
    (client : Interfaced)
    (hclient : (σ.records (recordKey (σ.servers s).key)).client = some client) :
    isMinorVersionCompatible (σ.servers s).key.service client.interface = false ∨
      (σ.clients client.connector).stored = true := by
  simpa [storedFirst, hclient] using h

theorem IndicatedStored.step (h : IndicatedStored σ) (hordered : σ.Ordered)
    (hok : storedFirst σ label = true) (hstep : Runtime.Step σ label σ') :
    IndicatedStored σ' := by
  intro a i hi hstage
  cases hstep.indication_origin hi with
  | old hj hclient hserver hmove =>
      rw [hclient]
      refine hstep.stored (hordered.present hj).1 (h a _ hj ?_)
      rcases hmove with heq | hmove
      · exact heq ▸ hstage
      · exact hmove.ne_returned
  | enable ha hphase hx heq =>
      subst heq
      have hcompatible := Runtime.startIndication_ne_returned hstage
      rcases storedFirst_enable hok _ hx with hapart | hstored
      · cases hapart.symm.trans hcompatible
      · have hregistered := (hordered.clientsRecorded _ _ hx).2.2
        rw [Runtime.startIndication_client]
        exact hstep.stored (by grind) hstored
  | make ha hphase hfree hx heq =>
      -- the client that is made finds no server it can connect to
      subst heq
      have hcompatible := Runtime.startIndication_ne_returned hstage
      cases (storedFirst_makeClientConnector hok hfree _ hx).symm.trans hcompatible

theorem indicatedStored_of_reachable
    (h : Runtime.ReachableVia (fun σ label => storedFirst σ label = true) σ) :
    IndicatedStored σ := by
  refine Reach.invariant_of_reach (I := IndicatedStored) (by simp [IndicatedStored]) ?_ h
  intro σ label σ' hreach hs hok hnext
  exact hs.step (Runtime.ReachableVia.ordered hreach) hok (.of_next hnext)

/-- As long as a client and a server find each other only after the connector of the
client is stored, every callback with `available` finds it and subscribes to every
event. -/
theorem available_finds_connector
    (h : Runtime.ReachableVia (fun σ label => storedFirst σ label = true) σ) {a : Caller}
    {i : Indication} {connection : ConnectionId} (hi : σ.indications a = some i)
    (hstage : i.stage = .stored connection) {t : ServiceType} {events : List EventConfig}
    (hevents : t.events = some events) :
    clientConnector σ i.client = some i.client ∧
    LocalNetworkService.onServiceStateChange t (clientConnector σ i.client) .available =
      some (subscriptions i.client events.length 0) ∧
    RemoteServiceInstance.onServiceStateChange t (clientConnector σ i.client) .available =
      some (subscriptions i.client events.length 0) := by
  have hstored := indicatedStored_of_reachable h a i hi (by simp [hstage])
  have hconnector : clientConnector σ i.client = some i.client := by
    simp [clientConnector, hstored]
  rw [hconnector]
  exact ⟨rfl, LocalNetworkService.onServiceStateChange_some hevents _,
    RemoteServiceInstance.onServiceStateChange_some hevents _⟩

/-- A service type with one event. -/
def oneEventType : ServiceType where
  serviceTypeName := [115]
  serviceId := 1
  versionMajor := 1
  versionMinor := 0
  events := some [⟨1, [97], none⟩]
  localServiceInstances := none
  remoteServiceInstances := none

/-- The server is enabled after the connector was stored. -/
theorem available_finds_connector_stored :
    ∃ σ : Runtime, σ.indications (.enable 1) = some ⟨1, 1, .stored 0⟩ ∧
      LocalNetworkService.onServiceStateChange oneEventType (clientConnector σ 1) .available =
        some [⟨1, .subscribeEvent 0 .update⟩] := by
  obtain ⟨σ, hreach, hp⟩ := exists_reach_of_runFrom Runtime.next
    (fun σ label => storedFirst σ label = true) {}
    (List.flatten [[.makeServerConnector 1 oneEventType.key 1,
        .makeClientConnector 1 oneEventType.key, .creationReturns 1, .storeClientConnector 1,
        .enable 1], List.replicate 3 (.indicate (.enable 1))])
    (fun σ => decide (σ.indications (.enable 1) = some ⟨1, 1, .stored 0⟩)) (by decide)
  have hi := of_decide_eq_true hp
  have hevents : oneEventType.events = some [⟨1, [97], none⟩] := rfl
  exact ⟨σ, hi, (available_finds_connector hreach hi rfl hevents).2.1⟩

/-- The callback is due in `make_client_connector` itself when the server came first,
and in the thread that enables the server when the connector is not stored yet. In both
cases it follows a null pointer. -/
theorem available_before_connector_is_stored :
    (∃ σ : Runtime, Runtime.ReachableVia (fun _ _ => True) σ ∧
      σ.indications (.creation 1) = some ⟨1, 1, .stored 0⟩ ∧
      σ.removals (.indication (.creation 1)) = none ∧ clientConnector σ 1 = none ∧
      LocalNetworkService.onServiceStateChange oneEventType (clientConnector σ 1) .available =
        none) ∧
    ∃ σ : Runtime, Runtime.ReachableVia (fun _ _ => True) σ ∧
      σ.indications (.enable 1) = some ⟨1, 1, .stored 0⟩ ∧
      σ.removals (.indication (.enable 1)) = none ∧ clientConnector σ 1 = none ∧
      RemoteServiceInstance.onServiceStateChange oneEventType (clientConnector σ 1) .available =
        none := by
  obtain ⟨σ, hreach, hp⟩ := exists_reach_of_runFrom Runtime.next (fun _ _ => True) {}
    (List.flatten [[.makeServerConnector 1 oneEventType.key 1, .enable 1, .enableReturns 1,
        .makeClientConnector 1 oneEventType.key], List.replicate 3 (.indicate (.creation 1))])
    (fun σ => decide (σ.indications (.creation 1) = some ⟨1, 1, .stored 0⟩ ∧
      σ.removals (.indication (.creation 1)) = none ∧ clientConnector σ 1 = none)) (by decide)
  obtain ⟨σ', hreach', hp'⟩ := exists_reach_of_runFrom Runtime.next (fun _ _ => True) {}
    (List.flatten [[.makeServerConnector 1 oneEventType.key 1,
        .makeClientConnector 1 oneEventType.key, .enable 1],
      List.replicate 3 (.indicate (.enable 1))])
    (fun σ => decide (σ.indications (.enable 1) = some ⟨1, 1, .stored 0⟩ ∧
      σ.removals (.indication (.enable 1)) = none ∧ clientConnector σ 1 = none)) (by decide)
  obtain ⟨hi, hremoval, hnull⟩ := of_decide_eq_true hp
  obtain ⟨hi', hremoval', hnull'⟩ := of_decide_eq_true hp'
  refine ⟨⟨σ, hreach, hi, hremoval, hnull, ?_⟩, σ', hreach', hi', hremoval', hnull', ?_⟩
  · rw [hnull]
    rfl
  · rw [hnull']
    rfl

end run

end Daemon

end SomeipGateway
