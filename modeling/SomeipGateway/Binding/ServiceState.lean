import Mathlib.Data.Finset.Card
import SomeipGateway.Binding.Message

/-! # `Service_state` and `Service_states`

The per-service state of an endpoint, in both roles: the offers received from
peers and the server connector made from one of them, and the bridge-owned
client connector with the event subscriptions of the peers.
-/

namespace SomeipGateway

structure SubscriptionEndpoint (ι : Type) where
  client : ι
  providedId : Nat
deriving DecidableEq, Repr

structure OfferState where
  offered : Bool := false
  connectSent : Bool := false
  requiredId : Nat := 0
deriving DecidableEq, Repr

structure ServiceState (ι : Type) where
  counts : ServiceCounts := {}
  requested : Bool := false
  offers : Table ι OfferState := ∅
  clientConnector : Option ClientConnector := none
  clientConnectorPending : Bool := false
  enabledConnector : Option (EnabledConnector ι) := none
  eventSubscriptions : Table Nat (Finset (SubscriptionEndpoint ι)) := ∅

namespace ServiceState

variable {ι : Type} [DecidableEq ι]

/-- The subscribers of an event, none when the event has no entry. -/
def subscribers (state : ServiceState ι) (eventId : Nat) : Finset (SubscriptionEndpoint ι) :=
  (state.eventSubscriptions.lookup eventId).getD ∅

/-- The common loop of the two removals below: drop subscribers, and unsubscribe
and forget every event that is left without one. -/
def dropSubscribers (key : Key) (state : ServiceState ι)
    (drop : SubscriptionEndpoint ι → Bool) : ServiceState ι × List (Effect ι) :=
  let left (s : Finset (SubscriptionEndpoint ι)) := s.filter fun endpoint => drop endpoint = false
  ({ state with
      eventSubscriptions := state.eventSubscriptions.filterMapVals fun _ s =>
        if left s = ∅ then none else some (left s) },
    if state.clientConnector.isSome then
      (state.eventSubscriptions.entries.filter fun e => left e.2 = ∅).map fun e =>
        .unsubscribeEvent key e.1
    else [])

def removeEventSubscriptions (key : Key) (state : ServiceState ι) (client : ι) :
    ServiceState ι × List (Effect ι) :=
  state.dropSubscribers key fun endpoint => endpoint.client = client

def removeEventSubscription (key : Key) (state : ServiceState ι)
    (endpoint : SubscriptionEndpoint ι) : ServiceState ι × List (Effect ι) :=
  state.dropSubscribers key fun subscriber => subscriber = endpoint

def updateEventSubscription (key : Key) (state : ServiceState ι)
    (endpoint : SubscriptionEndpoint ι) (eventId : Nat) (subscribe : Bool) :
    ServiceState ι × List (Effect ι) :=
  if subscribe then
    let before := state.subscribers eventId
    let after := insert endpoint before
    ({ state with eventSubscriptions := state.eventSubscriptions.insert eventId after },
      if state.clientConnector.isSome ∧ endpoint ∉ before ∧ after.card = 1 then
        [.subscribeEvent key eventId]
      else [])
  else
    match state.eventSubscriptions.lookup eventId with
    | none => (state, [])
    | some subscribers =>
        let after := subscribers.erase endpoint
        if after = ∅ then
          ({ state with eventSubscriptions := state.eventSubscriptions.erase eventId },
            if state.clientConnector.isSome then [.unsubscribeEvent key eventId] else [])
        else
          ({ state with eventSubscriptions := state.eventSubscriptions.insert eventId after }, [])

/-- The body of the loop of `remove_offers`. -/
def removeOffer (state : ServiceState ι) (client : ι) :
    ServiceState ι × Option (EnabledConnector ι) :=
  match state.offers.lookup client with
  | none => (state, none)
  | some _ =>
      let state := { state with offers := state.offers.erase client }
      if state.offers.entries.isEmpty then
        ({ state with eventSubscriptions := ∅, enabledConnector := none }, state.enabledConnector)
      else (state, none)

/-! ## Subscribers after an update -/

variable (key : Key) (state : ServiceState ι) (endpoint : SubscriptionEndpoint ι)
  (drop : SubscriptionEndpoint ι → Bool) (eventId eventId' : Nat)

@[simp] theorem subscribers_dropSubscribers :
    (state.dropSubscribers key drop).1.subscribers eventId =
      (state.subscribers eventId).filter fun endpoint => drop endpoint = false := by
  simp only [subscribers, dropSubscribers, Table.lookup_filterMapVals]
  cases state.eventSubscriptions.lookup eventId with
  | none => rfl
  | some s =>
      simp only [Option.bind_some, Option.getD_some]
      split
      next hnil => rw [hnil, Option.getD_none]
      next => rfl

theorem subscribers_updateEventSubscription (subscribe : Bool) :
    (state.updateEventSubscription key endpoint eventId subscribe).1.subscribers eventId' =
      if eventId' = eventId then
        if subscribe then insert endpoint (state.subscribers eventId)
        else (state.subscribers eventId).erase endpoint
      else state.subscribers eventId' := by
  by_cases he : eventId' = eventId
  · subst he
    cases subscribe with
    | true => simp [updateEventSubscription, subscribers]
    | false =>
        simp only [updateEventSubscription, subscribers, Bool.false_eq_true, if_false, if_true]
        cases hlookup : state.eventSubscriptions.lookup eventId' with
        | none => simp [hlookup]
        | some s => by_cases hnil : s.erase endpoint = ∅ <;> simp [hnil]
  · rw [if_neg he]
    cases subscribe with
    | true => simp [updateEventSubscription, subscribers, he]
    | false =>
        simp only [updateEventSubscription, subscribers, Bool.false_eq_true, if_false]
        cases state.eventSubscriptions.lookup eventId with
        | none => rfl
        | some s => by_cases hnil : s.erase endpoint = ∅ <;> simp [hnil, he]

/-- No event is kept with an empty set of subscribers. -/
def NoEmptySet : Prop :=
  ∀ eventId s, state.eventSubscriptions.lookup eventId = some s → s ≠ ∅

variable {state}

omit [DecidableEq ι] in
theorem NoEmptySet.of_eq {state' : ServiceState ι} (h : state.NoEmptySet)
    (heq : state'.eventSubscriptions = state.eventSubscriptions) : state'.NoEmptySet := by
  intro eventId s hs
  exact h eventId s (heq ▸ hs)

omit [DecidableEq ι] in
theorem NoEmptySet.of_empty {state : ServiceState ι} (h : state.eventSubscriptions = ∅) :
    state.NoEmptySet := by
  intro eventId s hs
  rw [h] at hs
  cases hs

theorem noEmptySet_dropSubscribers (state : ServiceState ι) :
    (state.dropSubscribers key drop).1.NoEmptySet := by
  intro eventId s hs
  simp only [dropSubscribers, Table.lookup_filterMapVals, Option.bind_eq_some_iff] at hs
  obtain ⟨old, -, hif⟩ := hs
  split at hif
  · cases hif
  next hne =>
    cases hif
    exact hne

theorem NoEmptySet.updateEventSubscription (h : state.NoEmptySet) (subscribe : Bool) :
    (state.updateEventSubscription key endpoint eventId subscribe).1.NoEmptySet := by
  intro e s hs
  cases subscribe with
  | true =>
      simp only [ServiceState.updateEventSubscription, if_true, Table.lookup_insert_ite] at hs
      split at hs
      · cases hs
        exact Finset.insert_ne_empty _ _
      · exact h e s hs
  | false =>
      simp only [ServiceState.updateEventSubscription, Bool.false_eq_true, if_false] at hs
      cases hold : state.eventSubscriptions.lookup eventId with
      | none => exact h e s (by simpa [hold] using hs)
      | some old =>
          by_cases hnil : old.erase endpoint = ∅
          · simp only [hold, hnil, if_true, Table.lookup_erase_ite] at hs
            split at hs
            · cases hs
            · exact h e s hs
          · simp only [hold, hnil, if_false, Table.lookup_insert_ite] at hs
            split at hs
            · cases hs
              exact hnil
            · exact h e s hs

theorem NoEmptySet.removeOffer (h : state.NoEmptySet) (client : ι) :
    (state.removeOffer client).1.NoEmptySet := by
  unfold ServiceState.removeOffer
  split
  · exact h
  · simp only
    split
    · exact .of_empty rfl
    · exact h.of_eq rfl

theorem exists_of_mem_dropSubscribers {e : Effect ι}
    (he : e ∈ (state.dropSubscribers key drop).2) : ∃ eventId, e = .unsubscribeEvent key eventId := by
  simp only [dropSubscribers] at he
  split at he
  · obtain ⟨entry, -, rfl⟩ := List.mem_map.1 he
    exact ⟨entry.1, rfl⟩
  · cases he

theorem updateEventSubscription_frame (state : ServiceState ι) (subscribe : Bool) :
    (state.updateEventSubscription key endpoint eventId subscribe).1 =
      { state with
        eventSubscriptions :=
          (state.updateEventSubscription key endpoint eventId subscribe).1.eventSubscriptions } := by
  unfold ServiceState.updateEventSubscription
  split
  · rfl
  · split
    · rfl
    · simp only
      split <;> rfl

/-- An update calls the client connector for its own event only. -/
theorem exists_of_mem_updateEventSubscription {subscribe : Bool} {e : Effect ι}
    (he : e ∈ (state.updateEventSubscription key endpoint eventId subscribe).2) :
    subscribe = true ∧ e = .subscribeEvent key eventId ∨
      subscribe = false ∧ e = .unsubscribeEvent key eventId := by
  unfold ServiceState.updateEventSubscription at he
  split at he
  next hsubscribe =>
    simp only at he
    split at he
    · exact .inl ⟨hsubscribe, List.mem_singleton.1 he⟩
    · cases he
  next hsubscribe =>
    split at he
    · cases he
    · simp only at he
      split at he
      · simp only at he
        split at he
        · exact .inr ⟨by simpa using hsubscribe, List.mem_singleton.1 he⟩
        · cases he
      · cases he

@[simp] theorem requested_removeOffer (state : ServiceState ι) (client : ι) :
    (state.removeOffer client).1.requested = state.requested := by
  unfold ServiceState.removeOffer
  split
  · rfl
  · simp only
    split <;> rfl

theorem removeOffer_of_lookup_eq_none {state : ServiceState ι} {client : ι}
    (h : state.offers.lookup client = none) : state.removeOffer client = (state, none) := by
  simp [ServiceState.removeOffer, h]

theorem lookup_removeOffer (state : ServiceState ι) (client client' : ι) :
    (state.removeOffer client).1.offers.lookup client' =
      if client' = client then none else state.offers.lookup client' := by
  unfold ServiceState.removeOffer
  split
  next hnone =>
    split
    next hc =>
      subst hc
      exact hnone
    next => rfl
  next =>
    simp only
    split <;> exact Table.lookup_erase_ite _ _ _

theorem subscribers_removeOffer_subset (state : ServiceState ι) (client : ι) (eventId : Nat) :
    (state.removeOffer client).1.subscribers eventId ⊆ state.subscribers eventId := by
  unfold ServiceState.removeOffer
  split
  · exact Finset.Subset.refl _
  · simp only
    split
    · exact Finset.empty_subset _
    · exact Finset.Subset.refl _

/-- The connector outlives an offer only if another peer offers as well. -/
theorem exists_offer_of_removeOffer {state : ServiceState ι} {client : ι}
    {connector : EnabledConnector ι} {offer : OfferState}
    (h : (state.removeOffer client).1.enabledConnector = some connector)
    (hoffer : state.offers.lookup client = some offer) :
    ∃ c, c ≠ client ∧ state.offers.lookup c ≠ none := by
  simp only [ServiceState.removeOffer, hoffer] at h
  split at h
  · cases h
  next hleft =>
    obtain ⟨e, he⟩ := List.exists_mem_of_ne_nil _ (fun hnil => hleft (List.isEmpty_iff.2 hnil))
    have hlookup := Table.lookup_eq_some_of_mem he
    rw [Table.lookup_erase_ite] at hlookup
    split at hlookup
    · cases hlookup
    next hne => exact ⟨e.1, hne, by simp [hlookup]⟩

theorem enabledConnector_removeOffer {state : ServiceState ι} {client : ι}
    {connector : EnabledConnector ι}
    (h : (state.removeOffer client).1.enabledConnector = some connector) :
    state.enabledConnector = some connector := by
  unfold ServiceState.removeOffer at h
  split at h
  · exact h
  · simp only at h
    split at h
    · cases h
    · exact h

theorem enabledConnector_of_removeOffer {state : ServiceState ι} {client : ι}
    {connector : EnabledConnector ι} (h : (state.removeOffer client).2 = some connector) :
    state.enabledConnector = some connector := by
  unfold ServiceState.removeOffer at h
  split at h
  · cases h
  · simp only at h
    split at h
    · exact h
    · cases h

end ServiceState

abbrev ServiceStates (ι : Type) := Table Key (ServiceState ι)

namespace ServiceStates

variable {ι : Type} [DecidableEq ι]

def getOrCreate (states : ServiceStates ι) (key : Key) : ServiceState ι :=
  (states.lookup key).getD {}

def hasConnector (states : ServiceStates ι) (key : Key) : Bool :=
  (states.lookup key).any fun state => state.enabledConnector.isSome

def hasClientConnector (states : ServiceStates ι) (key : Key) : Bool :=
  (states.lookup key).any fun state =>
    state.clientConnectorPending || state.clientConnector.isSome

def addService (states : ServiceStates ι) (key : Key) (counts : ServiceCounts) :
    ServiceStates ι :=
  states.insert key { states.getOrCreate key with counts := counts, requested := true }

/-- Returns the server connector that is destroyed once the lock is released. -/
def processOffer (states : ServiceStates ι) (key : Key) (client : ι) (offered : Bool) :
    ServiceStates ι × Option (EnabledConnector ι) :=
  let state := states.getOrCreate key
  if offered then
    let offer := { (state.offers.lookup client).getD {} with offered := true }
    (states.insert key { state with offers := state.offers.insert client offer }, none)
  else
    (states.insert key
        { state with offers := state.offers.erase client, enabledConnector := none },
      state.enabledConnector)

def processRequestService (states : ServiceStates ι) (key : Key) (counts : ServiceCounts)
    (inUse : Bool) : ServiceStates ι × Option (EnabledConnector ι) :=
  let state := states.getOrCreate key
  if inUse then (states.insert key { state with counts := counts, requested := true }, none)
  else (states.erase key, state.enabledConnector)

/-- Returns the connector that is left without an owner: the new one when the
state is gone, else the one it replaces. -/
def addServerConnector (states : ServiceStates ι) (key : Key) (connector : EnabledConnector ι) :
    ServiceStates ι × Option (EnabledConnector ι) :=
  match states.lookup key with
  | none => (states, some connector)
  | some state =>
      (states.insert key { state with enabledConnector := some connector }, state.enabledConnector)

def markClientConnectorPending (states : ServiceStates ι) (key : Key) : ServiceStates ι :=
  states.insert key { states.getOrCreate key with clientConnectorPending := true }

def clearClientConnectorPending (states : ServiceStates ι) (key : Key) : ServiceStates ι :=
  match states.lookup key with
  | none => states
  | some state => states.insert key { state with clientConnectorPending := false }

/-- `none` stands for the dereference of a missing state. -/
def addClientConnector (states : ServiceStates ι) (key : Key) (connector : ClientConnector) :
    Option (ServiceStates ι) :=
  (states.lookup key).map fun state =>
    states.insert key
      { state with clientConnector := some connector, clientConnectorPending := false }

def removeClientConnector (states : ServiceStates ι) (key : Key) :
    ServiceStates ι × Option ClientConnector :=
  match states.lookup key with
  | none => (states, none)
  | some state =>
      (states.insert key { state with clientConnectorPending := false, clientConnector := none },
        state.clientConnector)

def removeOffers (states : ServiceStates ι) (client : ι) :
    ServiceStates ι × List (Key × EnabledConnector ι) :=
  (states.filterMapVals fun _ state => some (state.removeOffer client).1,
    states.entries.filterMap fun e => (e.2.removeOffer client).2.map (Prod.mk e.1))

def updateEventSubscription (states : ServiceStates ι) (key : Key)
    (endpoint : SubscriptionEndpoint ι) (eventId : Nat) (subscribe : Bool) :
    ServiceStates ι × List (Effect ι) :=
  match states.lookup key with
  | none => (states, [])
  | some state =>
      let (state, effects) := state.updateEventSubscription key endpoint eventId subscribe
      (states.insert key state, effects)

def removeEventSubscriptionsForClient (states : ServiceStates ι) (client : ι) :
    ServiceStates ι × List (Effect ι) :=
  (states.filterMapVals fun key state => some (state.removeEventSubscriptions key client).1,
    states.entries.flatMap fun e => (e.2.removeEventSubscriptions e.1 client).2)

def removeEventSubscriptionsForConnection (states : ServiceStates ι) (key : Key) (client : ι)
    (providedId : Nat) : ServiceStates ι × List (Effect ι) :=
  match states.lookup key with
  | none => (states, [])
  | some state =>
      let (state, effects) := state.removeEventSubscription key ⟨client, providedId⟩
      (states.insert key state, effects)

def clearEventSubscriptions (states : ServiceStates ι) (key : Key) : ServiceStates ι :=
  match states.lookup key with
  | none => states
  | some state => states.insert key { state with eventSubscriptions := ∅ }

end ServiceStates

end SomeipGateway
