import SomeipGateway.Endpoint.Sections

/-! # What a withdrawal and an un-request leave alone

`Offer_service{offered=false}` and `Request_service{in_use=false}` concern one
peer and one service. The handlers touch more than that: a withdrawal by any peer
drops the connector of the service whoever it was made for, and an un-request
drops the subscriptions of the peer for all services.
-/

namespace SomeipGateway

variable {ι : Type} [DecidableEq ι]

namespace Binding

def connector (b : Binding ι) (key : Key) : Option (EnabledConnector ι) :=
  (b.view key).state.bind fun state => state.enabledConnector

def subscribers (b : Binding ι) (key : Key) (eventId : Nat) : Finset (SubscriptionEndpoint ι) :=
  ((b.view key).state.map fun state => state.subscribers eventId).getD ∅

/-- No service keeps an event without subscribers. -/
def NoEmptySets (b : Binding ι) : Prop :=
  ∀ key state, (b.view key).state = some state → state.NoEmptySet

theorem NoEmptySets.congr {b b' : Binding ι} (h : b.NoEmptySets)
    (hstate : ∀ key state', (b'.view key).state = some state' → state'.eventSubscriptions = ∅ ∨
      ∃ state, (b.view key).state = some state ∧
        state'.eventSubscriptions = state.eventSubscriptions) : b'.NoEmptySets := by
  intro key state' hstate'
  obtain hempty | ⟨state, hold, heq⟩ := hstate key state' hstate'
  · exact .of_empty hempty
  · exact (h key state hold).of_eq heq

variable {env : Env ι} {b b' : Binding ι} {key : Key} {client : ι} {effects : List (Effect ι)}

theorem NoEmptySets.resumed (h : b.NoEmptySets) (hresumed : Resumed env b effects b') :
    b'.NoEmptySets := by
  refine h.congr fun key state' hstate' => ?_
  obtain ⟨offers, hoffers, -⟩ := hresumed.state key
  change b'.serviceStates.lookup key = some state' at hstate'
  rw [hoffers, Option.map_eq_some_iff] at hstate'
  obtain ⟨state, hold, rfl⟩ := hstate'
  exact .inr ⟨state, hold, rfl⟩

/-- Replacing the view of one service keeps the property when the new state of
that service takes its subscriptions from the old one or has none. -/
theorem NoEmptySets.replace (h : b.NoEmptySets) (key : Key)
    (hother : ∀ key' ≠ key, b'.view key' = b.view key')
    (hself : ∀ state', (b'.view key).state = some state' →
      state'.eventSubscriptions = ((b.view key).state.getD {}).eventSubscriptions ∨
      state'.NoEmptySet) : b'.NoEmptySets := by
  intro key' state' hstate'
  by_cases hk : key' = key
  · subst hk
    obtain heq | hempty := hself state' hstate'
    · cases hold : (b.view key').state with
      | none => exact .of_empty (by rw [heq, hold]; rfl)
      | some state => exact (h key' state hold).of_eq (by rw [heq, hold]; rfl)
    · exact hempty
  · rw [hother key' hk] at hstate'
    exact h key' state' hstate'

theorem NoEmptySets.replace_state (h : b.NoEmptySets) {state : ServiceState ι}
    (hother : ∀ key' ≠ key, b'.view key' = b.view key') (hself : (b'.view key).state = some state)
    (heq : state.eventSubscriptions = ((b.view key).state.getD {}).eventSubscriptions) :
    b'.NoEmptySets := by
  refine h.replace key hother fun state' hstate' => .inl ?_
  rw [← Option.some.inj (hself.symm.trans hstate')]
  exact heq

theorem NoEmptySets.same (h : b.NoEmptySets) (hsame : b'.serviceStates = b.serviceStates) :
    b'.NoEmptySets := by
  intro key state hstate
  exact h key state (by rw [← hstate]; simp [view, hsame])

theorem NoEmptySets.sendRequestService {counts : ServiceCounts} {inUse : Bool}
    (h : b.NoEmptySets) (hb : b.sendRequestService env key counts inUse = some (b', effects)) :
    b'.NoEmptySets := by
  cases hclient : b.serviceStates.hasClientConnector key with
  | true =>
      rw [sendRequestService_skipped hclient] at hb
      cases hb
      exact h
  | false =>
      cases inUse with
      | true =>
          obtain ⟨more, hmore, -⟩ := (sendRequestService_true hclient).1 hb
          refine NoEmptySets.resumed ?_ (connects_of_maybeSendConnectServiceLocked hmore).resumed
          exact h.replace_state (fun key' hne => view_insertState_of_ne _ hne)
            (congrArg ServiceView.state (view_insertState _)) rfl
      | false =>
          rw [sendRequestService_false hclient] at hb
          cases hb
          refine h.replace key (fun key' hne => view_unrequested_of_ne hne) fun state' hstate' => ?_
          rw [view_unrequested] at hstate'
          cases hstate'

theorem NoEmptySets.requestService {inUse : Bool} {result : ClientConnectorResult}
    (h : b.NoEmptySets)
    (hb : b.handleRequestServiceMessage env client key inUse result = some (b', effects)) :
    b'.NoEmptySets := by
  cases inUse with
  | false =>
      obtain ⟨-, hself, hother⟩ := handleRequestServiceMessage_false hb
      intro key' state' hstate'
      have hdropped : (b'.view key').state =
          (b.view key').state.map fun s => (s.removeEventSubscriptions key' client).1 := by
        by_cases hk : key' = key
        · rw [hk, hself]
        · rw [hother key' hk]
      rw [hdropped] at hstate'
      obtain ⟨state, -, rfl⟩ := Option.map_eq_some_iff.1 hstate'
      exact ServiceState.noEmptySet_dropSubscribers _ _ _
  | true =>
      have hnoted : (b.withInterested key client).NoEmptySets := h.same rfl
      obtain ⟨-, rfl, -⟩ | ⟨-, -, rfl, -⟩ | ⟨-, -, hcreate⟩ := handleRequestServiceMessage_true hb
      · exact hnoted
      · exact hnoted
      · cases result with
        | failed =>
            obtain ⟨-, -, -, hself, hother⟩ := createClientConnector_failed hcreate
            exact hnoted.replace_state hother (congrArg ServiceView.state hself) rfl
        | connected counts =>
            obtain ⟨-, -, -, -, hself, hother⟩ := createClientConnector_connected hcreate
            exact hnoted.replace_state hother (congrArg ServiceView.state hself) rfl
        | waiting =>
            obtain ⟨-, -, -, hself, hother⟩ := createClientConnector_waiting hcreate
            exact hnoted.replace_state hother (congrArg ServiceView.state hself) rfl

theorem NoEmptySets.offerService {offered : Bool} (h : b.NoEmptySets)
    (hb : b.handleOfferServiceMessage env client key offered = some (b', effects)) :
    b'.NoEmptySets := by
  cases offered with
  | false =>
      obtain ⟨-, -, -, hself, hother⟩ := handleOfferServiceMessage_false hb
      refine h.replace key hother fun state' hstate' => ?_
      rw [hself] at hstate'
      cases hstate'
      exact .inr (.of_empty rfl)
  | true =>
      rw [handleOfferServiceMessage_true] at hb
      refine NoEmptySets.resumed ?_ (connects_of_maybeSendConnectServiceLocked hb).resumed
      exact h.replace_state (fun key' hne => view_withOffer_of_ne hne)
        (congrArg ServiceView.state view_withOffer) rfl

theorem NoEmptySets.connectService {requiredId : Nat} {metadata : SharedMemoryMetadata}
    {inUse : Bool} (h : b.NoEmptySets)
    (hb : b.handleConnectServiceMessage env client key requiredId metadata inUse =
      some (b', effects)) : b'.NoEmptySets := by
  cases inUse with
  | true =>
      obtain ⟨_, _, -, -, rfl, -⟩ := handleConnectServiceMessage_true hb
      exact h.same rfl
  | false =>
      simp only [handleConnectServiceMessage, Bool.not_false, if_true, Option.some.injEq] at hb
      obtain rfl : (b.disconnectService client key requiredId).1 = b' := congrArg Prod.fst hb
      intro key' state' hstate'
      by_cases hk : key' = key
      · subst hk
        rw [disconnectService_view] at hstate'
        obtain ⟨state, hstate, rfl⟩ := Option.map_eq_some_iff.1 hstate'
        split
        · exact (h key' state hstate).of_eq rfl
        · exact (ServiceState.noEmptySet_dropSubscribers key' _ state).of_eq rfl
      · rw [disconnectService_view_of_ne hk] at hstate'
        exact h key' state' hstate'

theorem NoEmptySets.subscribeEvent (h : b.NoEmptySets) (client : ι) (providedId eventId : Nat)
    (subscribe : Bool) :
    (b.handleSubscribeEventMessage client providedId eventId subscribe).1.NoEmptySets := by
  cases hids : b.idMapping.getByLocalHandle client providedId with
  | none =>
      rw [handleSubscribeEventMessage_none hids]
      exact h
  | some ids =>
      intro key state' hstate'
      rw [(handleSubscribeEventMessage_some hids).2 key] at hstate'
      obtain ⟨state, hstate, rfl⟩ := Option.map_eq_some_iff.1 hstate'
      split
      · exact (h key state hstate).updateEventSubscription _ _ _ _
      · exact h key state hstate

theorem NoEmptySets.addServerConnector (h : b.NoEmptySets) (key : Key)
    (connector : EnabledConnector ι) :
    { b with serviceStates :=
      (b.serviceStates.addServerConnector key connector).1 }.NoEmptySets := by
  unfold ServiceStates.addServerConnector
  split
  · exact h
  next state hstate =>
    exact h.replace_state (fun key' hne => view_insertState_of_ne _ hne)
      (congrArg ServiceView.state (view_insertState _)) (by simp [view, hstate])

theorem noEmptySets_sections : SectionInvariant (fun _ _ => True) (NoEmptySets (ι := ι)) where
  sendRequestService := NoEmptySets.sendRequestService
  serviceStateChange := fun h hb =>
    h.replace_state (fun key' hne => view_serviceStateChange_of_ne hne hb)
      (congrArg ServiceView.state (view_serviceStateChange hb)) rfl
  sendEventUpdate := fun h hb => by
    rw [sendEventUpdate_frame hb]
    exact h.same rfl
  connectReply := fun h hb => h.resumed (resumed_of_handleConnectReplyMessage hb)
  requestService := fun _ h hb => h.requestService hb
  offerService := fun _ h hb => h.offerService hb
  connectService := fun _ h hb => h.connectService hb
  connectServiceReply := by
    intro env b b' client requiredId providedId metadata counts effects reply _ h hb
    obtain ⟨-, rfl, -⟩ | ⟨key, -, ⟨-, rfl, -⟩ | ⟨_, _, -, -, rfl, -⟩⟩ :=
      handleConnectServiceReplyMessage_cases hb
    · exact h
    · exact h.same rfl
    · exact h.same rfl
  subscribeEvent := fun _ h => h.subscribeEvent _ _ _ _
  eventUpdate := fun _ h hb => by
    rw [handleEventUpdateMessage_frame hb]
    exact h.same rfl
  payloadConsumed := fun _ h => by
    rw [handlePayloadConsumedMessage_frame]
    exact h.same rfl
  addServerConnector := fun h => h.addServerConnector _ _
  addClient := fun h => h.same rfl
  removeClient := by
    intro b client h key state' hstate'
    rw [removeClient_view] at hstate'
    obtain ⟨state, -, rfl⟩ := Option.map_eq_some_iff.1 hstate'
    exact (ServiceState.noEmptySet_dropSubscribers _ _ _).removeOffer client

theorem mem_subscribers {b : Binding ι} {key : Key} {eventId : Nat}
    {endpoint : SubscriptionEndpoint ι} :
    endpoint ∈ b.subscribers key eventId ↔
      ∃ state, (b.view key).state = some state ∧ endpoint ∈ state.subscribers eventId := by
  cases hstate : (b.view key).state <;> simp [subscribers, hstate]

end Binding

namespace Endpoint

variable {env : Env ι} {n n' : Endpoint ι} {out : List (Effect ι)} {key : Key} {client : ι}

/-! ## Un-request -/

/-- The handler runs, and SOCom is asked to unsubscribe; the calls that this
causes are messages. -/
theorem step_unrequest
    (h : n.step env (.receive client (.requestService key false)) = some (n', out)) :
    n.binding.handleRequestServiceMessage env client key false (n.clientConnectorResult key) =
      some (n'.binding, n.binding.unsubscribeEffects client) ∧
    ∀ e ∈ out, e.isInert = true ∨ e ∈ n.binding.unsubscribeEffects client := by
  obtain ⟨m, effects, hact, hperform⟩ := step_eq_some.1 h
  obtain ⟨b, hb, rfl⟩ := receiveRequest_false (act_receive_eq_some.1 hact).2
  obtain rfl := (Binding.handleRequestServiceMessage_false hb).1
  have hcalls : ∀ e ∈ n.binding.unsubscribeEffects client, e.isInert = true ∨
      e ∈ n.binding.unsubscribeEffects client ∧
        ∃ key eventId, e = .subscribeEvent key eventId ∨ e = .unsubscribeEvent key eventId := by
    intro e he
    obtain ⟨key', _, eventId, _, -, -, -, rfl⟩ := Binding.exists_of_mem_unsubscribeEffects he
    exact .inr ⟨he, key', eventId, .inr rfl⟩
  obtain ⟨hsame, hout⟩ := perform_subscriptions hcalls hperform
  exact ⟨by rw [hsame.binding]; exact hb, hout⟩

structure UnrequestIsolated (n n' : Endpoint ι) (out : List (Effect ι)) (key : Key) (client : ι) :
    Prop where
  subscriptions : ∀ key' eventId endpoint, key' ≠ key ∨ endpoint.client ≠ client →
    (endpoint ∈ n'.binding.subscribers key' eventId ↔
      endpoint ∈ n.binding.subscribers key' eventId)
  mappings : ∀ key' c, key' ≠ key ∨ c ≠ client →
    (n'.binding.view key').ids c = (n.binding.view key').ids c
  calls : ∀ key' eventId, key' ≠ key → .unsubscribeEvent key' eventId ∉ out

/-- Handling `Request_service{in_use=false}` stays within the peer and the service
exactly when the peer has no subscription for another service. -/
theorem unrequest_isolated_iff (hreach : Reachable n)
    (h : n.step env (.receive client (.requestService key false)) = some (n', out)) :
    UnrequestIsolated n n' out key client ↔
      ∀ key' ≠ key, ∀ eventId, ∀ endpoint ∈ n.binding.subscribers key' eventId,
        endpoint.client ≠ client := by
  obtain ⟨hb, hout⟩ := step_unrequest h
  obtain ⟨-, hself, hother⟩ := Binding.handleRequestServiceMessage_false hb
  have hsubs : ∀ key' eventId endpoint, endpoint ∈ n'.binding.subscribers key' eventId ↔
      endpoint ∈ n.binding.subscribers key' eventId ∧ endpoint.client ≠ client := by
    intro key' eventId endpoint
    have hstate : (n'.binding.view key').state =
        (n.binding.view key').state.map fun s => (s.removeEventSubscriptions key' client).1 := by
      by_cases hk : key' = key
      · rw [hk, hself]
      · rw [hother key' hk]
    simp only [Binding.mem_subscribers, hstate, Option.map_eq_some_iff]
    constructor
    · rintro ⟨_, ⟨state, hold, rfl⟩, hin⟩
      simp only [ServiceState.removeEventSubscriptions, ServiceState.subscribers_dropSubscribers,
        Finset.mem_filter, decide_eq_false_iff_not] at hin
      exact ⟨⟨state, hold, hin.1⟩, hin.2⟩
    · rintro ⟨⟨state, hold, hin⟩, hne⟩
      refine ⟨_, ⟨state, hold, rfl⟩, ?_⟩
      simp only [ServiceState.removeEventSubscriptions, ServiceState.subscribers_dropSubscribers,
        Finset.mem_filter, decide_eq_false_iff_not]
      exact ⟨hin, hne⟩
  constructor
  · intro hiso key' hne eventId endpoint hin
    have hstays := (hiso.subscriptions key' eventId endpoint (.inl hne)).2 hin
    exact ((hsubs key' eventId endpoint).1 hstays).2
  · intro hnone
    refine ⟨fun key' eventId endpoint hcase => ?_, fun key' c hcase => ?_,
      fun key' eventId hne hmem => ?_⟩
    · rw [hsubs]
      refine ⟨And.left, fun hin => ⟨hin, ?_⟩⟩
      obtain hne | hne := hcase
      · exact hnone key' hne eventId endpoint hin
      · exact hne
    · by_cases hk : key' = key
      · obtain hne | hne := hcase
        · exact absurd hk hne
        · rw [hk, hself]
          simp [hne]
      · rw [hother key' hk]
    · obtain hinert | hmem := hout _ hmem
      · cases hinert
      -- an event is unsubscribed when only `client` is left, and no event is kept without anyone
      obtain ⟨_, state, _, s, hstate, hs, honly, heq⟩ :=
        Binding.exists_of_mem_unsubscribeEffects hmem
      cases heq
      have hempty : s ≠ ∅ :=
        Binding.noEmptySets_sections.reachable (fun _ _ h => by cases h)
          (hreach.mono fun _ label _ => label.2.isFrom_true) key' state hstate
          eventId s hs
      obtain ⟨endpoint, hin⟩ := Finset.nonempty_iff_ne_empty.2 hempty
      refine hnone key' hne eventId endpoint ?_ (honly endpoint hin)
      exact Binding.mem_subscribers.2 ⟨state, hstate, by simpa [ServiceState.subscribers, hs] using hin⟩

/-- Peer 1 is connected to two services and subscribed to event 0 of both. -/
def subscribedToTwo : List (Event Nat) :=
  [.addClient 1,
    .enableServerConnector (someKey 1) ⟨0, 1⟩, .enableServerConnector (someKey 2) ⟨0, 1⟩,
    .receive 1 (.requestService (someKey 1) true), .receive 1 (.requestService (someKey 2) true),
    .receive 1 (.connectService (someKey 1) 1 someMetadata true),
    .receive 1 (.connectService (someKey 2) 2 someMetadata true),
    .receive 1 (.subscribeEvent 1 0 true), .receive 1 (.subscribeEvent 2 0 true)]

/-- Un-requesting the second service ends the subscription for the first. -/
theorem unrequest_drops_other_service :
    ∃ (n n' : Endpoint Nat) (out : List (Effect Nat)), Reachable n ∧
      n.step someEnv (.receive 1 (.requestService (someKey 2) false)) = some (n', out) ∧
      ¬ UnrequestIsolated n n' out (someKey 2) 1 := by
  obtain ⟨n, hreach, hp⟩ := exists_reachable_of_runEvents (fun _ _ => True) subscribedToTwo
    (fun n => decide ((⟨1, 1⟩ : SubscriptionEndpoint Nat) ∈ n.binding.subscribers (someKey 1) 0) &&
      (n.step someEnv (.receive 1 (.requestService (someKey 2) false))).any
        fun (r : Endpoint Nat × List (Effect Nat)) =>
          decide ((⟨1, 1⟩ : SubscriptionEndpoint Nat) ∉ r.1.binding.subscribers (someKey 1) 0))
    (by decide)
  simp only [Bool.and_eq_true, decide_eq_true_eq, Option.any_eq_true] at hp
  obtain ⟨hbefore, ⟨n', out⟩, hstep, hafter⟩ := hp
  exact ⟨n, n', out, hreach, hstep, fun hiso =>
    hafter ((hiso.subscriptions (someKey 1) 0 ⟨1, 1⟩ (.inl (by decide))).2 hbefore)⟩

/-- A peer that is subscribed for one service un-requests it. -/
theorem unrequest_isolated_iff_run :
    ∃ (n n' : Endpoint Nat) (out : List (Effect Nat)), Reachable n ∧
      n.step someEnv (.receive 1 (.requestService (someKey 1) false)) = some (n', out) ∧
      n.binding.subscribers (someKey 1) 0 = {⟨1, 1⟩} ∧
      (UnrequestIsolated n n' out (someKey 1) 1 ↔
        ∀ key' ≠ someKey 1, ∀ eventId, ∀ endpoint ∈ n.binding.subscribers key' eventId,
          endpoint.client ≠ 1) := by
  obtain ⟨n, hreach, hp⟩ := exists_reachable_of_runEvents (fun _ _ => True)
    [.addClient 1, .enableServerConnector (someKey 1) ⟨0, 1⟩,
      .receive 1 (.requestService (someKey 1) true),
      .receive 1 (.connectService (someKey 1) 1 someMetadata true),
      .receive 1 (.subscribeEvent 1 0 true)]
    (fun n => decide (n.binding.subscribers (someKey 1) 0 = {⟨1, 1⟩}) &&
      (n.step someEnv (.receive 1 (.requestService (someKey 1) false))).isSome) (by decide)
  simp only [Bool.and_eq_true, decide_eq_true_eq, Option.isSome_iff_exists] at hp
  obtain ⟨hsubs, ⟨n', out⟩, hstep⟩ := hp
  exact ⟨n, n', out, hreach, hstep, hsubs, unrequest_isolated_iff hreach hstep⟩

/-! ## Withdrawal -/

structure WithdrawalIsolated (n n' : Endpoint ι) (key : Key) (client : ι)
    (connector : EnabledConnector ι) : Prop where
  stays : n'.binding.connector key = some connector
  mapping : (n'.binding.view key).ids connector.client = (n.binding.view key).ids connector.client
  mappings : ∀ key' c, c ≠ client → (n'.binding.view key').ids c = (n.binding.view key').ids c
  subscriptions : ∀ key' eventId endpoint, endpoint.client ≠ client →
    (endpoint ∈ n'.binding.subscribers key' eventId ↔
      endpoint ∈ n.binding.subscribers key' eventId)

/-- No call makes a server connector appear in a service state. -/
theorem connector_perform {depth : Nat} {effects : List (Effect ι)}
    (hcalls : ∀ e ∈ effects, e.isInert = true ∨ ∃ c, e = .destroyServerConnector key c)
    (hnone : n.binding.connector key = none)
    (h : perform env depth n effects = some (n', out)) : n'.binding.connector key = none := by
  refine (perform_preserves (I := fun m => m.binding.connector key = none)
    (E := fun e => e.isInert = true ∨ ∃ c, e = .destroyServerConnector key c) ?_ depth hnone hcalls
    h).1
  intro m e m' caused hm he hone
  obtain hinert | ⟨c, rfl⟩ := he
  · have hself : m.performOne env e = some (m, []) := by
      cases e <;> first | rfl | cases hinert
    rw [hself] at hone
    cases hone
    exact ⟨hm, by simp⟩
  · obtain ⟨-, rfl, rfl⟩ | ⟨server, -, hnotify⟩ := disableServer_cases hone
    · exact ⟨hm, by simp⟩
    · obtain ⟨-, rfl, rfl⟩ | ⟨-, b, hb, rfl⟩ := notifyClient_cases hnotify
      · exact ⟨hm, by simp⟩
      · refine ⟨?_, ?_⟩
        · simp only [Binding.connector, Binding.view_serviceStateChange hb]
          simp only [Binding.connector] at hm
          cases hstate : (m.binding.view key).state <;> simp_all
        · intro e he
          rw [(Binding.serviceStateChange_eq_some.1 hb).2.2] at he
          obtain ⟨client, -, rfl⟩ := List.mem_map.1 he
          exact .inl rfl

/-- After an `Offer_service{offered=false}` from any peer the service has no
server connector, whoever it was made for. -/
theorem withdrawal_never_isolated {connector : EnabledConnector ι}
    (h : n.step env (.receive client (.offerService key false)) = some (n', out)) :
    ¬ WithdrawalIsolated n n' key client connector := by
  obtain ⟨m, effects, hact, hperform⟩ := step_eq_some.1 h
  simp only [act, onReceiveMessage] at hact
  split at hact
  · cases hact
  obtain ⟨b, hb, rfl⟩ := setBinding_eq_some.1 hact
  obtain ⟨rfl, -, -, hself, -⟩ := Binding.handleOfferServiceMessage_false hb
  intro hiso
  have hgone : n'.binding.connector key = none := by
    refine connector_perform (fun e he => .inr ?_) ?_ hperform
    · obtain ⟨c, -, rfl⟩ := List.mem_map.1 he
      exact ⟨c, rfl⟩
    · simp [Binding.connector, hself]
  rw [hiso.stays] at hgone
  cases hgone

/-- Peers 1 and 2 offer a service, and peer 1 answered the connect. -/
def offeredByTwo : List (Event Nat) :=
  [.addClient 1, .addClient 2, .makeClientConnector (someKey 1) {},
    .receive 1 (.offerService (someKey 1) true), .receive 2 (.offerService (someKey 1) true),
    .receive 1 (.connectServiceReply 1 7 someMetadata {}), .finishReply 1]

/-- Peer 2 withdraws, and the connector to peer 1 is gone with its mapping. -/
theorem withdrawal_drops_other_provider :
    ∃ (n n' : Endpoint Nat) (out : List (Effect Nat)) (connector : EnabledConnector Nat),
      Reachable n ∧ n.binding.connector (someKey 1) = some connector ∧ connector.client ≠ 2 ∧
      n.step someEnv (.receive 2 (.offerService (someKey 1) false)) = some (n', out) ∧
      ¬ WithdrawalIsolated n n' (someKey 1) 2 connector := by
  obtain ⟨n, hreach, hp⟩ := exists_reachable_of_runEvents (fun _ _ => True) offeredByTwo
    (fun n => decide (n.binding.connector (someKey 1) = some ⟨1, 7, 1, {}⟩) &&
      (n.step someEnv (.receive 2 (.offerService (someKey 1) false))).any
        fun (r : Endpoint Nat × List (Effect Nat)) =>
          decide (r.1.binding.connector (someKey 1) = none)) (by decide)
  simp only [Bool.and_eq_true, decide_eq_true_eq, Option.any_eq_true] at hp
  obtain ⟨hbefore, ⟨n', out⟩, hstep, hafter⟩ := hp
  refine ⟨n, n', out, _, hreach, hbefore, by decide, hstep, fun hiso => ?_⟩
  cases hafter.symm.trans hiso.stays

/-- The step that the theorem is about is taken with a connector in place. -/
theorem withdrawal_never_isolated_run :
    ∃ (n n' : Endpoint Nat) (out : List (Effect Nat)),
      n.binding.connector (someKey 1) = some ⟨1, 7, 1, {}⟩ ∧
      n.step someEnv (.receive 2 (.offerService (someKey 1) false)) = some (n', out) ∧
      ¬ WithdrawalIsolated n n' (someKey 1) 2 ⟨1, 7, 1, {}⟩ := by
  obtain ⟨n, -, hp⟩ := exists_reachable_of_runEvents (fun _ _ => True) offeredByTwo
    (fun n => decide (n.binding.connector (someKey 1) = some ⟨1, 7, 1, {}⟩) &&
      (n.step someEnv (.receive 2 (.offerService (someKey 1) false))).isSome) (by decide)
  simp only [Bool.and_eq_true, decide_eq_true_eq, Option.isSome_iff_exists] at hp
  obtain ⟨hconn, ⟨n', out⟩, hstep⟩ := hp
  exact ⟨n, n', out, hconn, hstep, withdrawal_never_isolated hstep⟩

end Endpoint

end SomeipGateway
