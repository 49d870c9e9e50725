import Mathlib.Logic.Function.Basic
import SomeipGateway.Lib.Run
import SomeipGateway.Socom.Registry

/-! # A SOCom server connector

`server_connector::Impl` keeps one client, and for every event one `Event` for
the subscriber and one for the client that waits for a requested update. An
`Event` holds a pointer to the place of the one client, so it is modelled by
whether the pointer is set.
-/

namespace SomeipGateway

namespace Socom

abbrev EventId := Nat

inductive EventMode where
  | update
  | updateAndInitialValue
deriving DecidableEq, Repr

inductive EventState where
  | unsubscribed
  | subscribed
deriving DecidableEq, Repr

/-- The values of `Error` and `Server_connector_error` that a connector returns. -/
inductive ConnectorError where
  | serviceNotAvailable
  | idOutOfRange
  | noClientSubscribedForEvent
deriving DecidableEq, Repr

/-- What an operation does to the outside: callbacks of the server, messages to
the endpoint of the client, a failed assertion. -/
inductive ConnectorEffect where
  | onEventSubscriptionChange (id : EventId) (state : EventState)
  | onEventUpdateRequest (id : EventId)
  | sendUpdateEvent (client : ClientId) (id : EventId) (payload : Bytes)
  | sendUpdateRequestedEvent (client : ClientId) (id : EventId) (payload : Bytes)
  | sendAllocateEventPayload (client : ClientId) (id : EventId)
  | assertFailed
deriving DecidableEq, Repr

structure Connector where
  numEvents : Nat
  /-- `m_stop_block_token` is set: the connector takes new clients. -/
  listening : Bool
  client : Option ClientId
  subscriber : EventId → Bool
  updateRequester : EventId → Bool
  mode : EventId → EventMode

/-- The connector after an operation, what the operation did, and the error it
returns. Without an error `allocate_event_payload` returns the answer of the
client. -/
structure Outcome where
  connector : Connector
  effects : List ConnectorEffect := []
  error : Option ConnectorError := none

namespace Connector

/-- A connector as `enable` leaves it. The event modes outlive a period. -/
def enabled (numEvents : Nat) (mode : EventId → EventMode) : Connector where
  numEvents := numEvents
  listening := true
  client := none
  subscriber := fun _ => false
  updateRequester := fun _ => false
  mode := mode

/-! ## The lock sections -/

/-- `Event::get_client`. -/
def getClient (σ : Connector) (pointer : EventId → Bool) (id : EventId) : Option ClientId :=
  if pointer id then σ.client else none

/-- `receive(Connect)`: without assertions a client that is there is replaced. -/
def receiveConnect (σ : Connector) (client : ClientId) : Outcome :=
  if σ.listening then
    { connector := { σ with client := some client }
      effects := if σ.client.isSome then [.assertFailed] else [] }
  else { connector := σ, error := some .serviceNotAvailable }

/-- `unsubscribe_event` for one event. -/
def unsubscribeEvent (σ : Connector) (id : EventId) : Outcome where
  connector :=
    { σ with
      subscriber := Function.update σ.subscriber id false
      updateRequester := Function.update σ.updateRequester id false }
  effects := if σ.subscriber id then [.onEventSubscriptionChange id .unsubscribed] else []

/-- The loop of `unsubscribe_event` over the given events. -/
def unsubscribeEvents (σ : Connector) : List EventId → Outcome
  | [] => { connector := σ }
  | id :: rest =>
      let first := σ.unsubscribeEvent id
      let others := first.connector.unsubscribeEvents rest
      { connector := others.connector, effects := first.effects ++ others.effects }

def resetClient (σ : Connector) : Connector := { σ with client := none }

def removeClient (σ : Connector) : Outcome :=
  let unsubscribed := σ.unsubscribeEvents (List.range σ.numEvents)
  { connector := unsubscribed.connector.resetClient, effects := unsubscribed.effects }

/-- The section of `disable`: no new clients, and every event loses its clients
without a callback. -/
def stopListening (σ : Connector) : Connector :=
  { σ with
    listening := false
    subscriber := fun id => if id < σ.numEvents then false else σ.subscriber id
    updateRequester := fun id => if id < σ.numEvents then false else σ.updateRequester id }

/-- `receive(Subscribe_event)`. -/
def subscribeEvent (σ : Connector) (id : EventId) (mode : EventMode) : Outcome :=
  if σ.numEvents ≤ id then { connector := σ, error := some .idOutOfRange }
  else
    let alreadySubscribed := (σ.getClient σ.subscriber id).isSome
    let alreadyUpdateRequester := (σ.getClient σ.updateRequester id).isSome
    let isUpdateRequester := mode = .updateAndInitialValue
    let subscribed := { σ with subscriber := Function.update σ.subscriber id true }
    { connector :=
        if isUpdateRequester then
          { subscribed with
            updateRequester := Function.update σ.updateRequester id true
            mode := Function.update σ.mode id .updateAndInitialValue }
        else subscribed
      effects :=
        (if alreadySubscribed then [] else [.onEventSubscriptionChange id .subscribed]) ++
          if isUpdateRequester ∧ ¬alreadyUpdateRequester then [.onEventUpdateRequest id] else [] }

/-- `receive(Unsubscribe_event)`. -/
def receiveUnsubscribeEvent (σ : Connector) (id : EventId) : Outcome :=
  if σ.numEvents ≤ id then { connector := σ, error := some .idOutOfRange }
  else σ.unsubscribeEvent id

/-- `receive(Request_event_update)`. -/
def requestEventUpdate (σ : Connector) (id : EventId) : Outcome :=
  if σ.numEvents ≤ id then { connector := σ, error := some .idOutOfRange }
  else if (σ.getClient σ.updateRequester id).isSome then { connector := σ }
  else
    { connector := { σ with updateRequester := Function.update σ.updateRequester id true }
      effects := [.onEventUpdateRequest id] }

def updateEvent (σ : Connector) (id : EventId) (payload : Bytes) : Outcome :=
  if σ.numEvents ≤ id then { connector := σ, error := some .idOutOfRange }
  else
    { connector := σ
      effects := (σ.getClient σ.subscriber id).toList.map (.sendUpdateEvent · id payload) }

def updateRequestedEvent (σ : Connector) (id : EventId) (payload : Bytes) : Outcome :=
  if σ.numEvents ≤ id then { connector := σ, error := some .idOutOfRange }
  else
    { connector := { σ with updateRequester := Function.update σ.updateRequester id false }
      effects :=
        (σ.getClient σ.updateRequester id).toList.map (.sendUpdateRequestedEvent · id payload) }

def allocateEventPayload (σ : Connector) (id : EventId) : Outcome :=
  if σ.numEvents ≤ id then { connector := σ, error := some .idOutOfRange }
  else
    match σ.getClient σ.subscriber id with
    | some client => { connector := σ, effects := [.sendAllocateEventPayload client id] }
    | none => { connector := σ, error := some .noClientSubscribedForEvent }

@[simp] theorem unsubscribeEvent_client (σ : Connector) (id : EventId) :
    (σ.unsubscribeEvent id).connector.client = σ.client := rfl

@[simp] theorem unsubscribeEvent_subscriber (σ : Connector) (id : EventId) :
    (σ.unsubscribeEvent id).connector.subscriber = Function.update σ.subscriber id false := rfl

@[simp] theorem unsubscribeEvent_updateRequester (σ : Connector) (id : EventId) :
    (σ.unsubscribeEvent id).connector.updateRequester =
      Function.update σ.updateRequester id false := rfl

@[simp] theorem unsubscribeEvent_numEvents (σ : Connector) (id : EventId) :
    (σ.unsubscribeEvent id).connector.numEvents = σ.numEvents := rfl

@[simp] theorem unsubscribeEvents_numEvents (σ : Connector) (ids : List EventId) :
    (σ.unsubscribeEvents ids).connector.numEvents = σ.numEvents := by
  induction ids generalizing σ with
  | nil => rfl
  | cons id rest ih => simp [unsubscribeEvents, ih]

@[simp] theorem unsubscribeEvents_subscriber (σ : Connector) (ids : List EventId) (id : EventId) :
    (σ.unsubscribeEvents ids).connector.subscriber id =
      (σ.subscriber id && decide (id ∉ ids)) := by
  induction ids generalizing σ with
  | nil => simp [unsubscribeEvents]
  | cons first rest ih =>
      simp only [unsubscribeEvents, ih, unsubscribeEvent_subscriber]
      by_cases hid : id = first
      · simp [hid]
      · simp [hid, Function.update_of_ne]

@[simp] theorem unsubscribeEvents_updateRequester (σ : Connector) (ids : List EventId)
    (id : EventId) :
    (σ.unsubscribeEvents ids).connector.updateRequester id =
      (σ.updateRequester id && decide (id ∉ ids)) := by
  induction ids generalizing σ with
  | nil => simp [unsubscribeEvents]
  | cons first rest ih =>
      simp only [unsubscribeEvents, ih, unsubscribeEvent_updateRequester]
      by_cases hid : id = first
      · simp [hid]
      · simp [hid, Function.update_of_ne]

/-- The loop tells the server about the events that had a subscriber. -/
theorem unsubscribeEvents_effects (σ : Connector) {ids : List EventId} (hids : ids.Nodup) :
    (σ.unsubscribeEvents ids).effects =
      (ids.filter σ.subscriber).map (.onEventSubscriptionChange · .unsubscribed) := by
  induction ids generalizing σ with
  | nil => rfl
  | cons first rest ih =>
      obtain ⟨hfirst, hrest⟩ := List.nodup_cons.1 hids
      have hsame : rest.filter (σ.unsubscribeEvent first).connector.subscriber =
          rest.filter σ.subscriber := by
        refine List.filter_congr fun id hid => ?_
        have hne : id ≠ first := fun heq => hfirst (heq ▸ hid)
        simp [hne]
      simp only [unsubscribeEvents, ih _ hrest, hsame, List.filter_cons]
      cases hsub : σ.subscriber first with
      | false => simp [unsubscribeEvent, hsub]
      | true => simp [unsubscribeEvent, hsub]

/-! ## One enabled period -/

inductive Operation where
  | connect (client : ClientId)
  | subscribeEvent (id : EventId) (mode : EventMode)
  | unsubscribeEvent (id : EventId)
  | requestEventUpdate (id : EventId)
  | disconnect
  | updateEvent (id : EventId) (payload : Bytes)
  | updateRequestedEvent (id : EventId) (payload : Bytes)
  | allocateEventPayload (id : EventId)
deriving DecidableEq, Repr

/-- What a client does goes through the `Client_connection` its endpoint refers
to, so it needs one. -/
def withClient (σ : Connector) (outcome : Outcome) : Option Outcome :=
  if σ.client.isSome then some outcome else none

def perform (σ : Connector) : Operation → Option Outcome
  | .connect client => some (σ.receiveConnect client)
  | .subscribeEvent id mode => σ.withClient (σ.subscribeEvent id mode)
  | .unsubscribeEvent id => σ.withClient (σ.receiveUnsubscribeEvent id)
  | .requestEventUpdate id => σ.withClient (σ.requestEventUpdate id)
  | .disconnect => σ.withClient σ.removeClient
  | .updateEvent id payload => some (σ.updateEvent id payload)
  | .updateRequestedEvent id payload => some (σ.updateRequestedEvent id payload)
  | .allocateEventPayload id => some (σ.allocateEventPayload id)

/-- A connector with the operations of its period, the last one first, and their
effects in the order in which they happened. -/
structure Period where
  connector : Connector
  operations : List Operation
  effects : List ConnectorEffect

def Period.begin (numEvents : Nat) (mode : EventId → EventMode) : Period :=
  ⟨enabled numEvents mode, [], []⟩

def Period.after (period : Period) (operation : Operation) (outcome : Outcome) : Period :=
  ⟨outcome.connector, operation :: period.operations, period.effects ++ outcome.effects⟩

def Period.next (period : Period) (operation : Operation) : Option Period :=
  (period.connector.perform operation).map (period.after operation)

/-- The periods that start when a connector of so many events is enabled. -/
def Period.Reachable (numEvents : Nat) (mode : EventId → EventMode) : Period → Prop :=
  Reach Period.next (fun _ _ => True) (Period.begin numEvents mode)

theorem Period.exists_of_next {period period' : Period} {operation : Operation}
    (h : period.next operation = some period') :
    ∃ outcome, period.connector.perform operation = some outcome ∧
      period' = period.after operation outcome := by
  obtain ⟨outcome, houtcome, rfl⟩ := Option.map_eq_some_iff.1 h
  exact ⟨outcome, houtcome, rfl⟩

theorem withClient_eq_some {σ : Connector} {outcome outcome' : Outcome} :
    σ.withClient outcome = some outcome' ↔ σ.client.isSome = true ∧ outcome' = outcome := by
  unfold withClient
  split
  next h => simp [h, eq_comm]
  next h => simp [h]

/-! ## Every pointer is to a client -/

/-- A pointer that is set belongs to an event of the interface, and the client it
points to is there. -/
def PointsTo (numEvents : Nat) (client : Option ClientId) (pointer : EventId → Bool) : Prop :=
  ∀ id, pointer id = true → id < numEvents ∧ client.isSome = true

theorem PointsTo.set {n : Nat} {client : Option ClientId} {pointer : EventId → Bool}
    (h : PointsTo n client pointer) {id : EventId} (hid : id < n) (hclient : client.isSome = true) :
    PointsTo n client (Function.update pointer id true) := by
  intro e he
  rcases eq_or_ne e id with rfl | hne
  · exact ⟨hid, hclient⟩
  · exact h e (by rwa [Function.update_of_ne hne] at he)

theorem PointsTo.clear {n : Nat} {client : Option ClientId} {pointer : EventId → Bool}
    (h : PointsTo n client pointer) (id : EventId) :
    PointsTo n client (Function.update pointer id false) := by
  intro e he
  rcases eq_or_ne e id with rfl | hne
  · simp at he
  · exact h e (by rwa [Function.update_of_ne hne] at he)

structure Pointed (numEvents : Nat) (σ : Connector) : Prop where
  count : σ.numEvents = numEvents
  subscriber : PointsTo numEvents σ.client σ.subscriber
  updateRequester : PointsTo numEvents σ.client σ.updateRequester

theorem getClient_isSome {n : Nat} {σ : Connector} {pointer : EventId → Bool}
    (h : PointsTo n σ.client pointer) (id : EventId) :
    (σ.getClient pointer id).isSome = pointer id := by
  cases hid : pointer id with
  | false => simp [getClient, hid]
  | true => simp [getClient, hid, (h id hid).2]

theorem Pointed.receiveConnect {n : Nat} {σ : Connector} (h : Pointed n σ) (client : ClientId) :
    Pointed n (σ.receiveConnect client).connector := by
  unfold Connector.receiveConnect
  split
  · exact ⟨h.count, fun id hid => ⟨(h.subscriber id hid).1, rfl⟩,
      fun id hid => ⟨(h.updateRequester id hid).1, rfl⟩⟩
  · exact h

theorem Pointed.subscribeEvent {n : Nat} {σ : Connector} (h : Pointed n σ)
    (hclient : σ.client.isSome = true) (id : EventId) (mode : EventMode) :
    Pointed n (σ.subscribeEvent id mode).connector := by
  unfold Connector.subscribeEvent
  split
  · exact h
  next hid =>
    have hlt : id < n := h.count ▸ Nat.lt_of_not_le hid
    dsimp only
    split
    · exact ⟨h.count, h.subscriber.set hlt hclient, h.updateRequester.set hlt hclient⟩
    · exact ⟨h.count, h.subscriber.set hlt hclient, h.updateRequester⟩

theorem Pointed.requestEventUpdate {n : Nat} {σ : Connector} (h : Pointed n σ)
    (hclient : σ.client.isSome = true) (id : EventId) :
    Pointed n (σ.requestEventUpdate id).connector := by
  unfold Connector.requestEventUpdate
  split
  · exact h
  next hid =>
    have hlt : id < n := h.count ▸ Nat.lt_of_not_le hid
    split
    · exact h
    · exact ⟨h.count, h.subscriber, h.updateRequester.set hlt hclient⟩

theorem Pointed.receiveUnsubscribeEvent {n : Nat} {σ : Connector} (h : Pointed n σ)
    (id : EventId) : Pointed n (σ.receiveUnsubscribeEvent id).connector := by
  unfold Connector.receiveUnsubscribeEvent
  split
  · exact h
  · exact ⟨h.count, h.subscriber.clear id, h.updateRequester.clear id⟩

theorem removeClient_subscriber (σ : Connector) (id : EventId) :
    σ.removeClient.connector.subscriber id = (σ.subscriber id && decide (σ.numEvents ≤ id)) := by
  simp [removeClient, resetClient]

theorem removeClient_updateRequester (σ : Connector) (id : EventId) :
    σ.removeClient.connector.updateRequester id =
      (σ.updateRequester id && decide (σ.numEvents ≤ id)) := by
  simp [removeClient, resetClient]

theorem PointsTo.eq_false {n : Nat} {client : Option ClientId} {pointer : EventId → Bool}
    (h : PointsTo n client pointer) (id : EventId) : (pointer id && decide (n ≤ id)) = false := by
  cases hid : pointer id with
  | false => rfl
  | true => simpa using (h id hid).1

/-- Nothing points to a client that was removed. -/
theorem Pointed.removeClient {n : Nat} {σ : Connector} (h : Pointed n σ) :
    Pointed n σ.removeClient.connector := by
  refine ⟨by simpa [Connector.removeClient, resetClient] using h.count, ?_, ?_⟩
  · intro id hid
    rw [removeClient_subscriber, h.count, h.subscriber.eq_false] at hid
    cases hid
  · intro id hid
    rw [removeClient_updateRequester, h.count, h.updateRequester.eq_false] at hid
    cases hid

theorem Pointed.updateRequestedEvent {n : Nat} {σ : Connector} (h : Pointed n σ) (id : EventId)
    (payload : Bytes) : Pointed n (σ.updateRequestedEvent id payload).connector := by
  unfold Connector.updateRequestedEvent
  split
  · exact h
  · exact ⟨h.count, h.subscriber, h.updateRequester.clear id⟩

@[simp] theorem updateEvent_connector (σ : Connector) (id : EventId) (payload : Bytes) :
    (σ.updateEvent id payload).connector = σ := by
  unfold updateEvent
  split <;> rfl

@[simp] theorem allocateEventPayload_connector (σ : Connector) (id : EventId) :
    (σ.allocateEventPayload id).connector = σ := by
  unfold allocateEventPayload
  split
  · rfl
  · split <;> rfl

theorem Pointed.perform {n : Nat} {σ : Connector} {operation : Operation} {outcome : Outcome}
    (h : Pointed n σ) (houtcome : σ.perform operation = some outcome) :
    Pointed n outcome.connector := by
  cases operation with
  | connect client =>
      cases houtcome
      exact h.receiveConnect client
  | subscribeEvent id mode =>
      obtain ⟨hclient, rfl⟩ := withClient_eq_some.1 houtcome
      exact h.subscribeEvent hclient id mode
  | unsubscribeEvent id =>
      obtain ⟨hclient, rfl⟩ := withClient_eq_some.1 houtcome
      exact h.receiveUnsubscribeEvent id
  | requestEventUpdate id =>
      obtain ⟨hclient, rfl⟩ := withClient_eq_some.1 houtcome
      exact h.requestEventUpdate hclient id
  | disconnect =>
      obtain ⟨hclient, rfl⟩ := withClient_eq_some.1 houtcome
      exact h.removeClient
  | updateEvent id payload =>
      cases houtcome
      simpa using h
  | updateRequestedEvent id payload =>
      cases houtcome
      exact h.updateRequestedEvent id payload
  | allocateEventPayload id =>
      cases houtcome
      simpa using h

theorem Pointed.reachable {n : Nat} {mode : EventId → EventMode} {period : Period}
    (h : Period.Reachable n mode period) : Pointed n period.connector := by
  refine Reach.invariant (I := fun s => Pointed n s.connector) ?_ (fun s a s' hs _ hnext => ?_) h
  · exact ⟨rfl, fun id hid => (Bool.false_ne_true hid).elim,
      fun id hid => (Bool.false_ne_true hid).elim⟩
  obtain ⟨outcome, houtcome, rfl⟩ := Period.exists_of_next hnext
  exact hs.perform houtcome

end Connector

end Socom

end SomeipGateway
