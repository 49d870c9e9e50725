import SomeipGateway.Endpoint.Foreign
import SomeipGateway.Endpoint.Isolation

/-! # Subscriptions at the provider

A provider keeps three things in step for a service: the peers' endpoints stored
per event, the mappings that the endpoints came from, and the subscription of the
bridge-owned client connector at the SOCom server. SOCom drops its subscriptions
when the server goes away; the stored endpoints stay.
-/

namespace SomeipGateway

variable {ι : Type} [DecidableEq ι]

/-! ## One service -/

namespace ServiceState

/-- Every stored endpoint satisfies `p`. -/
def allStored (state : ServiceState ι) (p : SubscriptionEndpoint ι → Bool) : Bool :=
  state.eventSubscriptions.entries.all fun e => ∀ x ∈ e.2, p x = true

omit [DecidableEq ι] in
theorem allStored_iff {state : ServiceState ι} {p : SubscriptionEndpoint ι → Bool} :
    state.allStored p = true ↔ ∀ eventId, ∀ x ∈ state.subscribers eventId, p x = true := by
  simp only [allStored, List.all_eq_true, decide_eq_true_eq, subscribers]
  constructor
  · intro h eventId x hx
    cases hlookup : state.eventSubscriptions.lookup eventId with
    | none => simp [hlookup] at hx
    | some s => exact h _ (Table.mem_of_lookup_eq_some hlookup) x (by simpa [hlookup] using hx)
  · intro h e he x hx
    exact h e.1 x (by simpa [Table.lookup_eq_some_of_mem he] using hx)

/-- A client connector unsubscribes the events that keep no subscriber. -/
theorem unsubscribeEvent_mem_dropSubscribers {key : Key} {state : ServiceState ι}
    {d : SubscriptionEndpoint ι → Bool} {eventId : Nat} :
    .unsubscribeEvent key eventId ∈ (state.dropSubscribers key d).2 ↔
      state.clientConnector.isSome = true ∧ ∃ s, state.eventSubscriptions.lookup eventId = some s ∧
        s.filter (fun x => d x = false) = ∅ := by
  simp only [dropSubscribers]
  split
  next hcc =>
    simp only [hcc, true_and, List.mem_map, List.mem_filter, decide_eq_true_eq]
    constructor
    · rintro ⟨e, ⟨he, hleft⟩, heq⟩
      cases heq
      exact ⟨e.2, Table.lookup_eq_some_of_mem he, hleft⟩
    · rintro ⟨s, hs, hleft⟩
      exact ⟨⟨eventId, s⟩, ⟨Table.mem_of_lookup_eq_some hs, hleft⟩, rfl⟩
  next hcc => simp [hcc]

end ServiceState

/-- The endpoint is a mapping of its client. -/
def SubscriptionEndpoint.IsCurrent (ids : ι → List Ids) (x : SubscriptionEndpoint ι) : Prop :=
  ∃ entry ∈ ids x.client, entry.localHandle = x.providedId

/-- What a provider keeps for a service in its binding and in its record. The
last field is the agreement; the others make it inductive. -/
structure ProviderAt (state : ServiceState ι) (ids : ι → List Ids) (r : Record ι) : Prop where
  client_cases : r.client = none ∨ r.client = some .bridge
  connector : state.clientConnector.isSome = true ↔ r.client = some .bridge
  pending : state.clientConnectorPending = false
  offers : state.offers = ∅
  enabled : state.enabledConnector = none
  bounded : ∀ e ∈ r.subscribed, ∃ server, r.server = some server ∧ e < server.counts.numEvents
  unregistered : r.client = none → r.subscribed = ∅
  agree : r.server.isSome = true →
    (∀ e, e ∈ r.subscribed ↔ (state.subscribers e).Nonempty) ∧
      ∀ e, ∀ x ∈ state.subscribers e, x.IsCurrent ids

namespace ProviderAt

variable {state : ServiceState ι} {ids ids' : ι → List Ids} {r r' : Record ι} {key : Key}

omit [DecidableEq ι] in
theorem init : ProviderAt ({} : ServiceState ι) ids {} where
  client_cases := .inl rfl
  connector := by simp
  pending := rfl
  offers := rfl
  enabled := rfl
  bounded := by simp
  unregistered := fun _ => rfl
  agree := by simp

omit [DecidableEq ι] in
theorem subscribed_eq_empty (h : ProviderAt state ids r) (hserver : r.server = none) :
    r.subscribed = ∅ := by
  refine Finset.eq_empty_of_forall_notMem fun e he => ?_
  obtain ⟨server, hsome, -⟩ := h.bounded e he
  rw [hserver] at hsome
  cases hsome

omit [DecidableEq ι] in
theorem subscribers_eq_empty (h : ProviderAt state ids r) (hserver : r.server.isSome = true)
    (hclient : r.client = none) (e : Nat) : state.subscribers e = ∅ := by
  by_contra hne
  have hin := ((h.agree hserver).1 e).2 (Finset.nonempty_iff_ne_empty.2 hne)
  rw [h.unregistered hclient] at hin
  cases hin

omit [DecidableEq ι] in
/-- What a provider does not look at changes, and the stored endpoints stay
current. -/
theorem setIds (h : ProviderAt state ids r)
    (hids : r.server.isSome = true → ∀ e, ∀ x ∈ state.subscribers e, x.IsCurrent ids →
      x.IsCurrent ids') (counts : ServiceCounts) (requested : Bool) :
    ProviderAt { state with counts := counts, requested := requested } ids' r := by
  refine ⟨h.client_cases, h.connector, h.pending, h.offers, h.enabled, h.bounded, h.unregistered,
    fun hserver => ⟨(h.agree hserver).1, fun e x hx => ?_⟩⟩
  exact hids hserver e x hx ((h.agree hserver).2 e x hx)

/-- Subscribers are dropped, and SOCom unsubscribes the events that are left
without one. -/
theorem drop (h : ProviderAt state ids r) {d : SubscriptionEndpoint ι → Bool}
    (hids : ∀ x, d x = false → x.IsCurrent ids → x.IsCurrent ids')
    (hserver : r'.server = r.server) (hclient : r'.client = r.client)
    (hsubscribed : ∀ e, e ∈ r'.subscribed ↔
      e ∈ r.subscribed ∧ .unsubscribeEvent key e ∉ (state.dropSubscribers key d).2) :
    ProviderAt (state.dropSubscribers key d).1 ids' r' := by
  refine ⟨hclient ▸ h.client_cases, by rw [hclient]; exact h.connector, h.pending, h.offers,
    h.enabled, fun e he => ?_, fun hnone => ?_, fun hsome => ?_⟩
  · rw [hserver]
    exact h.bounded e ((hsubscribed e).1 he).1
  · refine Finset.eq_empty_of_forall_notMem fun e he => ?_
    have hold := ((hsubscribed e).1 he).1
    rw [h.unregistered (hclient ▸ hnone)] at hold
    cases hold
  · obtain ⟨hiff, hall⟩ := h.agree (hserver ▸ hsome)
    refine ⟨fun e => ?_, fun e x hx => ?_⟩
    · rw [hsubscribed, ServiceState.subscribers_dropSubscribers,
        ServiceState.unsubscribeEvent_mem_dropSubscribers]
      constructor
      · rintro ⟨hin, hkeep⟩
        obtain ⟨x, hx⟩ := (hiff e).1 hin
        -- a subscribed event has a client connector, which would have unsubscribed it
        have hcc : state.clientConnector.isSome = true := by
          refine h.connector.2 (h.client_cases.resolve_left fun hnone => ?_)
          rw [h.unregistered hnone] at hin
          cases hin
        by_contra hempty
        rw [Finset.not_nonempty_iff_eq_empty] at hempty
        refine hkeep ⟨hcc, ?_⟩
        cases hlookup : state.eventSubscriptions.lookup e with
        | none => simp [ServiceState.subscribers, hlookup] at hx
        | some s => exact ⟨s, rfl, by simpa [ServiceState.subscribers, hlookup] using hempty⟩
      · rintro ⟨x, hx⟩
        refine ⟨(hiff e).2 ⟨x, (Finset.mem_filter.1 hx).1⟩, ?_⟩
        rintro ⟨-, s, hs, hleft⟩
        rw [ServiceState.subscribers, hs, Option.getD_some, hleft] at hx
        cases hx
    · rw [ServiceState.subscribers_dropSubscribers, Finset.mem_filter] at hx
      exact hids x hx.2 (hall e x hx.1)

omit [DecidableEq ι] in
/-- The bridge registers its client. -/
theorem register (h : ProviderAt state ids r) (hclient : r.client = none) (counts : ServiceCounts)
    (requested : Bool) (connector : ClientConnector) :
    ProviderAt
      { state with
        counts := counts
        requested := requested
        clientConnector := some connector
        clientConnectorPending := false } ids { r with client := some .bridge } := by
  refine ⟨.inr rfl, by simp, rfl, h.offers, h.enabled, h.bounded, by simp, fun hserver => ?_⟩
  have hnone : ∀ e, state.subscribers e = ∅ := h.subscribers_eq_empty hserver hclient
  refine ⟨fun e => ?_, (h.agree hserver).2⟩
  show e ∈ r.subscribed ↔ (state.subscribers e).Nonempty
  simp [hnone e, h.unregistered hclient]

omit [DecidableEq ι] in
/-- Without a client connector nothing is subscribed, and nothing is stored while
there is a server. -/
theorem of_none (hclient : r.client = none) (hsubscribed : r.subscribed = ∅)
    (hcc : state.clientConnector = none) (hpending : state.clientConnectorPending = false)
    (hoffers : state.offers = ∅) (henabled : state.enabledConnector = none)
    (hstored : r.server.isSome = true → ∀ e, state.subscribers e = ∅) :
    ProviderAt state ids r := by
  refine ⟨.inl hclient, by simp [hcc, hclient], hpending, hoffers, henabled, by simp [hsubscribed],
    fun _ => hsubscribed, fun hserver => ⟨fun e => ?_, fun e x hx => ?_⟩⟩
  · simp [hsubscribed, hstored hserver]
  · rw [hstored hserver] at hx
    cases hx

omit [DecidableEq ι] in
/-- A server appears while no endpoint is stored. -/
theorem enable (h : ProviderAt state ids r) (hserver : r.server = none)
    (hstored : ∀ e, state.subscribers e = ∅) (server : Server ι) :
    ProviderAt state ids { r with server := some server } := by
  have hempty : r.subscribed = ∅ := h.subscribed_eq_empty hserver
  refine ⟨h.client_cases, h.connector, h.pending, h.offers, h.enabled, ?_, h.unregistered,
    fun _ => ⟨fun e => ?_, fun e x hx => ?_⟩⟩
  · simp [hempty]
  · simp [hempty, hstored]
  · simp [hstored] at hx

omit [DecidableEq ι] in
theorem disable (h : ProviderAt state ids r) :
    ProviderAt state ids' { r with server := none, subscribed := ∅ } :=
  ⟨h.client_cases, h.connector, h.pending, h.offers, h.enabled, by simp, by simp, by simp⟩

/-- A current endpoint subscribes. While there is a server, the bridge is its
client and the server knows the event. -/
theorem subscribe (h : ProviderAt state ids r) {x : SubscriptionEndpoint ι} {e : Nat}
    (hcurrent : x.IsCurrent ids)
    (hok : ∀ server, r.server = some server →
      r.client = some .bridge ∧ e < server.counts.numEvents)
    (hserver' : r'.server = r.server) (hclient' : r'.client = r.client)
    (hsubscribed : r'.subscribed =
      if r.server.isSome then insert e r.subscribed else r.subscribed) :
    ProviderAt (state.updateEventSubscription key x e true).1 ids r' := by
  obtain rfl : r' = { r with
      subscribed := if r.server.isSome then insert e r.subscribed else r.subscribed } := by
    cases r'
    simp_all
  have hframe := state.updateEventSubscription_frame key x e true
  generalize hnew : (state.updateEventSubscription key x e true).1 = new at hframe ⊢
  have hsubs : ∀ e', new.subscribers e' =
      if e' = e then insert x (state.subscribers e) else state.subscribers e' := by
    intro e'
    rw [← hnew, ServiceState.subscribers_updateEventSubscription]
    rfl
  cases hserver : r.server with
  | none =>
      have hempty : r.subscribed = ∅ := h.subscribed_eq_empty hserver
      rw [hframe]
      exact ⟨h.client_cases, h.connector, h.pending, h.offers, h.enabled, by simp [hempty],
        by simp [hempty], by simp⟩
  | some server =>
      obtain ⟨hclient, hevent⟩ := hok server hserver
      obtain ⟨hiff, hall⟩ := h.agree (by simp [hserver])
      refine ⟨h.client_cases, by rw [hframe]; exact h.connector, by rw [hframe]; exact h.pending,
        by rw [hframe]; exact h.offers, by rw [hframe]; exact h.enabled, ?_, by simp [hclient],
        fun _ => ⟨fun e' => ?_, fun e' y hy => ?_⟩⟩
      · intro e' he'
        rcases Finset.mem_insert.1 (by simpa using he') with rfl | hold
        · exact ⟨server, rfl, hevent⟩
        · rw [← hserver]
          exact h.bounded e' hold
      · rw [hsubs]
        by_cases heq : e' = e
        · subst heq
          simp
        · simp [heq, hiff]
      · rw [hsubs] at hy
        split at hy
        next heq =>
          subst heq
          rcases Finset.mem_insert.1 hy with rfl | hy
          · exact hcurrent
          · exact hall e' y hy
        next => exact hall e' y hy

/-- An endpoint unsubscribes, and so does the bridge when it was the last one. -/
theorem unsubscribe (h : ProviderAt state ids r) {x : SubscriptionEndpoint ι} {e : Nat}
    (hserver : r'.server = r.server) (hclient : r'.client = r.client)
    (hsubscribed : ∀ e', e' ∈ r'.subscribed ↔ e' ∈ r.subscribed ∧
      .unsubscribeEvent key e' ∉ (state.updateEventSubscription key x e false).2) :
    ProviderAt (state.updateEventSubscription key x e false).1 ids r' := by
  have hframe := state.updateEventSubscription_frame key x e false
  have hsubs : ∀ e', (state.updateEventSubscription key x e false).1.subscribers e' =
      if e' = e then (state.subscribers e).erase x else state.subscribers e' := by
    intro e'
    rw [ServiceState.subscribers_updateEventSubscription]
    rfl
  have hcalls : ∀ e', .unsubscribeEvent key e' ∈ (state.updateEventSubscription key x e false).2 ↔
      e' = e ∧ state.clientConnector.isSome = true ∧ (∃ s, state.eventSubscriptions.lookup e = some s) ∧
        (state.subscribers e).erase x = ∅ := by
    intro e'
    simp only [ServiceState.updateEventSubscription, Bool.false_eq_true, if_false,
      ServiceState.subscribers]
    cases state.eventSubscriptions.lookup e with
    | none => simp
    | some s =>
        by_cases hnil : s.erase x = ∅
        · cases hcc : state.clientConnector <;> simp [hnil]
        · simp [hnil]
  refine ⟨hclient ▸ h.client_cases, by rw [hframe, hclient]; exact h.connector,
    by rw [hframe]; exact h.pending, by rw [hframe]; exact h.offers,
    by rw [hframe]; exact h.enabled, fun e' he' => ?_, fun hnone => ?_, fun hsome => ?_⟩
  · rw [hserver]
    exact h.bounded e' ((hsubscribed e').1 he').1
  · refine Finset.eq_empty_of_forall_notMem fun e' he' => ?_
    have hold := ((hsubscribed e').1 he').1
    rw [h.unregistered (hclient ▸ hnone)] at hold
    cases hold
  · obtain ⟨hiff, hall⟩ := h.agree (hserver ▸ hsome)
    refine ⟨fun e' => ?_, fun e' y hy => ?_⟩
    · rw [hsubscribed, hcalls, hsubs]
      by_cases heq : e' = e
      · subst heq
        simp only [if_true, true_and, hiff]
        constructor
        · rintro ⟨⟨y, hy⟩, hkeep⟩
          have hcc : state.clientConnector.isSome = true := by
            refine h.connector.2 (h.client_cases.resolve_left fun hnone => ?_)
            have hin := (hiff e').2 ⟨y, hy⟩
            rw [h.unregistered hnone] at hin
            cases hin
          by_contra hempty
          rw [Finset.not_nonempty_iff_eq_empty] at hempty
          refine hkeep ⟨hcc, ?_, hempty⟩
          cases hlookup : state.eventSubscriptions.lookup e' with
          | none => simp [ServiceState.subscribers, hlookup] at hy
          | some s => exact ⟨s, rfl⟩
        · rintro ⟨y, hy⟩
          refine ⟨⟨y, Finset.mem_of_mem_erase hy⟩, ?_⟩
          rintro ⟨-, -, hempty⟩
          rw [hempty] at hy
          cases hy
      · simp [heq, hiff]
    · rw [hsubs] at hy
      split at hy
      next heq =>
        subst heq
        exact hall e' y (Finset.mem_of_mem_erase hy)
      next => exact hall e' y hy

end ProviderAt

namespace Endpoint

variable {env : Env ι} {n n' : Endpoint ι} {key : Key} {effects out : List (Effect ι)}

/-! ## Subscription calls -/

theorem subscribed_socomSubscribe (k : Key) (e : Nat) :
    ((n.socomSubscribe env k e).1.records key).subscribed =
      if k = key ∧ ((n.records key).server.any fun server => e < server.counts.numEvents) = true then
        insert e (n.records key).subscribed
      else (n.records key).subscribed := by
  simp only [socomSubscribe]
  by_cases hk : k = key
  · subst hk
    cases hserver : (n.records k).server with
    | none => simp
    | some server =>
        by_cases hin : e ∈ (n.records k).subscribed
        · simp [hin]
        · by_cases hlt : e < server.counts.numEvents <;> simp [hin, hlt]
  · split
    · simp [hk]
    · split <;> simp [hk, Ne.symm hk]

theorem subscribed_socomUnsubscribe (env : Env ι) (k : Key) (e : Nat)
    (hbounded : ∀ e ∈ (n.records key).subscribed,
      ∃ server, (n.records key).server = some server ∧ e < server.counts.numEvents) :
    ((n.socomUnsubscribe env k e).1.records key).subscribed =
      if k = key then (n.records key).subscribed.erase e else (n.records key).subscribed := by
  simp only [socomUnsubscribe]
  by_cases hk : k = key
  · subst hk
    by_cases hin : e ∈ (n.records k).subscribed
    · obtain ⟨server, hserver, hlt⟩ := hbounded e hin
      simp [hserver, hin, hlt]
    · rw [if_pos rfl, Finset.erase_eq_of_notMem hin]
      split <;> simp [hin]
  · split
    · simp [hk]
    · split <;> simp [Ne.symm hk]

/-- A list of unsubscriptions takes its events out of the records. -/
theorem perform_unsubscribe {depth : Nat}
    (hcalls : ∀ e ∈ effects, ∃ k eventId, e = .unsubscribeEvent k eventId)
    (hbounded : ∀ e ∈ (n.records key).subscribed,
      ∃ server, (n.records key).server = some server ∧ e < server.counts.numEvents)
    (h : perform env (depth + 1) n effects = some (n', out)) :
    SameButSubscriptions n n' ∧ ∀ e, e ∈ (n'.records key).subscribed ↔
      e ∈ (n.records key).subscribed ∧ .unsubscribeEvent key e ∉ effects := by
  induction effects generalizing n out with
  | nil =>
      cases h
      exact ⟨.refl _, by simp⟩
  | cons call rest ih =>
      obtain ⟨u, caused, v, more, last, hfirst, hmore, hlast, -⟩ := perform_cons_eq_some.1 h
      obtain ⟨k, eventId, rfl⟩ := hcalls call List.mem_cons_self
      obtain ⟨rfl, rfl⟩ := fst_snd_of_some_eq hfirst
      have hsame := sameButSubscriptions_socomUnsubscribe env n k eventId
      rw [perform_inert depth fun e he =>
        Effect.isInert_of_isSend (tellsPeer_of_mem_socomUnsubscribe he).isSend] at hmore
      cases hmore
      have hsubscribed := subscribed_socomUnsubscribe env k eventId hbounded
      have hstill : ∀ e ∈ ((n.socomUnsubscribe env k eventId).1.records key).subscribed,
          ∃ server, ((n.socomUnsubscribe env k eventId).1.records key).server = some server ∧
            e < server.counts.numEvents := by
        intro e he
        rw [hsame.server]
        refine hbounded e ?_
        rw [hsubscribed] at he
        split at he
        · exact Finset.mem_of_mem_erase he
        · exact he
      obtain ⟨hrest, hiff⟩ := ih (fun e he => hcalls e (List.mem_cons_of_mem _ he)) hstill hlast
      refine ⟨hsame.trans hrest, fun e => ?_⟩
      rw [hiff, hsubscribed]
      by_cases hk : k = key
      · subst hk
        simp only [if_true, Finset.mem_erase, List.mem_cons, Effect.unsubscribeEvent.injEq, true_and]
        tauto
      · simp only [if_neg hk, List.mem_cons, Effect.unsubscribeEvent.injEq]
        tauto

/-! ## The provider role -/

def providerRole : Event ι → Bool
  | .addClient _ | .removeClient _ | .enableServerConnector _ _ | .disableServerConnector _
  | .updateEvent _ _ _ _ | .receive _ .connect | .receive _ (.requestService _ _)
  | .receive _ (.connectService _ _ _ _) | .receive _ (.subscribeEvent _ _ _)
  | .receive _ (.payloadConsumed _ _) => true
  | _ => false

def Provider (key : Key) (n : Endpoint ι) : Prop :=
  ProviderAt ((n.binding.view key).state.getD {}) (n.binding.view key).ids (n.records key)

theorem Provider.sameAt (h : Provider key n) (hsame : SameAt key n n') : Provider key n' := by
  unfold Provider
  rw [hsame.binding.view, hsame.record]
  exact h

theorem Provider.setBinding (h : Provider key n) {b : Binding ι}
    (hview : b.view key = n.binding.view key) : Provider key { n with binding := b } := by
  unfold Provider
  rw [hview]
  exact h

theorem Provider.step_foreign (h : Provider key n) (hforeign : Foreign key n (n', effects))
    {n'' : Endpoint ι} (hperform : perform env 3 n' effects = some (n'', out)) :
    Provider key n'' :=
  h.sameAt (hforeign.perform hperform).1

/-- What keeps the agreement. The service becomes available only while no
endpoint is stored for it; while it is available, a subscription finds the client
connector of the bridge and an event of the server, and the end of a connection
takes no mapping from under a stored endpoint. -/
def keepsAgreement (key : Key) (n : Endpoint ι) : Event ι → Bool
  | .enableServerConnector k _ =>
      k ≠ key || (n.records key).server.isSome ||
        ((n.binding.view key).state.getD {}).allStored fun _ => false
  | .receive client (.subscribeEvent providedId eventId true) =>
      (n.binding.idMapping.getByLocalHandle client providedId).all fun ids =>
        ids.key ≠ key || (n.records key).server.all fun server =>
          (n.records key).client = some .bridge && eventId < server.counts.numEvents
  | .receive client (.connectService k requiredId _ false) =>
      (n.records key).server.isNone || ((n.binding.view key).state.getD {}).allStored fun x =>
        if k = key then
          (n.binding.idMapping.getByRemoteHandle client requiredId).any fun ids =>
            x = ⟨client, ids.localHandle⟩
        else x.client ≠ client || ((n.binding.view key).ids client).any fun ids =>
          ids.localHandle = x.providedId && ids.remoteHandle ≠ requiredId
  | _ => true

theorem Provider.enableServerConnector (h : Provider key n) {counts : ServiceCounts}
    (hok : keepsAgreement key n (.enableServerConnector key counts) = true)
    (hserver : (n.records key).server = none)
    (hnotify : (n.setRecord key
      { n.records key with server := some (.application counts) }).notifyClient env key true
        counts = some (n', effects)) :
    Provider key n' ∧ ∀ e ∈ effects, e.isInert = true := by
  have hstored : ∀ e, ((n.binding.view key).state.getD {}).subscribers e = ∅ := by
    intro e
    have hall : ((n.binding.view key).state.getD {}).allStored (fun _ => false) = true := by
      simpa [keepsAgreement, hserver] using hok
    refine Finset.eq_empty_of_forall_notMem fun x hx => ?_
    cases ServiceState.allStored_iff.1 hall e x hx
  have henabled := ProviderAt.enable h hserver hstored (.application counts)
  obtain ⟨-, rfl, rfl⟩ | ⟨-, b, hb, rfl⟩ := notifyClient_cases hnotify
  · refine ⟨?_, by simp⟩
    simpa [Provider] using henabled
  · refine ⟨?_, fun e he => ?_⟩
    · unfold Provider
      rw [Binding.view_serviceStateChange hb]
      simpa using henabled.setIds (fun _ _ _ _ hx => hx) counts true
    · rw [(Binding.serviceStateChange_eq_some.1 hb).2.2] at he
      obtain ⟨_, -, rfl⟩ := List.mem_map.1 he
      rfl

theorem Provider.disableServer (h : Provider key n)
    (hdisable : n.disableServer env key = some (n', effects)) :
    Provider key n' ∧ ∀ e ∈ effects, e.isInert = true := by
  obtain ⟨-, rfl, rfl⟩ | ⟨server, -, hnotify⟩ := disableServer_cases hdisable
  · exact ⟨h, by simp⟩
  · obtain ⟨-, rfl, rfl⟩ | ⟨-, b, hb, rfl⟩ := notifyClient_cases hnotify
    · refine ⟨?_, by simp⟩
      simpa [Provider] using h.disable
    · refine ⟨?_, fun e he => ?_⟩
      · unfold Provider
        rw [Binding.view_serviceStateChange hb]
        have hdisabled : ProviderAt _ (fun _ => []) _ := ProviderAt.disable h
        simpa using hdisabled.setIds (fun _ _ _ _ hx => hx) server.counts true
      · rw [(Binding.serviceStateChange_eq_some.1 hb).2.2] at he
        obtain ⟨_, -, rfl⟩ := List.mem_map.1 he
        rfl

/-- The calls of a drop over all services, read at one of them. -/
theorem mem_unsubscribeEffects {b : Binding ι} {client : ι} {e : Nat} :
    .unsubscribeEvent key e ∈ b.unsubscribeEffects client ↔
      .unsubscribeEvent key e ∈
        (((b.view key).state.getD {}).removeEventSubscriptions key client).2 := by
  constructor
  · intro h
    obtain ⟨⟨k, state⟩, hmem, he⟩ := List.mem_flatMap.1 h
    obtain ⟨e', heq⟩ := ServiceState.exists_of_mem_dropSubscribers _ _ he
    obtain ⟨rfl, rfl⟩ := Effect.unsubscribeEvent.inj heq
    have hlookup : (b.view key).state = some state := Table.lookup_eq_some_of_mem hmem
    rw [hlookup]
    exact he
  · intro h
    cases hstate : (b.view key).state with
    | none =>
        rw [hstate] at h
        cases h
    | some state =>
        rw [hstate] at h
        exact List.mem_flatMap.2 ⟨⟨key, state⟩, Table.mem_of_lookup_eq_some hstate, h⟩

/-- The subscriptions of a client are dropped in all services, and with them its
mappings of this one or none at all. -/
theorem Provider.dropClient (h : Provider key n) {client : ι} {b : Binding ι} {depth : Nat}
    (hstate : (b.view key).state.getD {} =
      (((n.binding.view key).state.getD {}).removeEventSubscriptions key client).1)
    (hids : ∀ c, c ≠ client → (b.view key).ids c = (n.binding.view key).ids c)
    (hperform : perform env (depth + 1) { n with binding := b }
      (n.binding.unsubscribeEffects client) = some (n', out)) : Provider key n' := by
  have hcalls : ∀ e ∈ n.binding.unsubscribeEffects client, ∃ k eventId,
      e = .unsubscribeEvent k eventId := by
    intro e he
    obtain ⟨k, _, eventId, _, -, -, -, rfl⟩ := Binding.exists_of_mem_unsubscribeEffects he
    exact ⟨k, eventId, rfl⟩
  obtain ⟨hsame, hsubscribed⟩ := perform_unsubscribe (n := { n with binding := b }) hcalls
    h.bounded hperform
  unfold Provider
  rw [hsame.binding, hstate]
  refine ProviderAt.drop h ?_ (hsame.server key) (hsame.client key) fun e => ?_
  · rintro x hx ⟨entry, hin, hlocal⟩
    refine ⟨entry, ?_, hlocal⟩
    rw [hids _ (by simpa using hx)]
    exact hin
  · rw [hsubscribed, mem_unsubscribeEffects]
    rfl

theorem Provider.receiveUnrequest (h : Provider key n) {client : ι} {k : Key}
    (hstep : n.step env (.receive client (.requestService k false)) = some (n', out)) :
    Provider key n' := by
  obtain ⟨m, effects, hact, hperform⟩ := step_eq_some.1 hstep
  obtain ⟨b, hb, rfl⟩ := receiveRequest_false (act_receive_eq_some.1 hact).2
  obtain ⟨rfl, hself, hother⟩ := Binding.handleRequestServiceMessage_false hb
  have hstate : ∀ {s : Option (ServiceState ι)},
      (s.map fun s => (s.removeEventSubscriptions key client).1).getD {} =
        ((s.getD {}).removeEventSubscriptions key client).1 := by
    intro s
    cases s <;> rfl
  by_cases hk : key = k
  · subst hk
    refine h.dropClient ?_ (fun c hne => ?_) hperform
    · rw [hself, hstate]
    · rw [hself]
      simp [hne]
  · refine h.dropClient ?_ (fun c _ => ?_) hperform
    · rw [hother key hk, hstate]
    · rw [hother key hk]

theorem Provider.removeClient (h : Provider key n) {client : ι}
    (hstep : n.step env (.removeClient client) = some (n', out)) : Provider key n' := by
  obtain ⟨m, effects, hact, hperform⟩ := step_eq_some.1 hstep
  obtain ⟨rfl, rfl⟩ := fst_snd_of_some_eq hact
  simp only [Endpoint.setBinding, Binding.removeClient_effects, perform_append] at hperform
  obtain ⟨⟨u, more⟩, hdrops, hrest⟩ := Option.bind_eq_some_iff.1 hperform
  obtain ⟨⟨v, last⟩, hlast, heq⟩ := Option.map_eq_some_iff.1 hrest
  cases heq
  have hu : Provider key u := by
    refine h.dropClient ?_ (fun c hne => ?_) hdrops
    · rw [Binding.removeClient_view]
      have hoffers : ((n.binding.view key).state.getD {}).offers.lookup client = none := by
        rw [h.offers]
        rfl
      cases hstate : (n.binding.view key).state with
      | none => rfl
      | some state =>
          rw [hstate] at hoffers
          have hnone : (state.removeEventSubscriptions key client).1.offers.lookup client = none :=
            hoffers
          show ((state.removeEventSubscriptions key client).1.removeOffer client).1 = _
          rw [ServiceState.removeOffer_of_lookup_eq_none hnone]
          rfl
    · rw [Binding.removeClient_view]
      simp [hne]
  -- the service has no connector, so those destroyed belong to others
  refine hu.sameAt (foreign_perform (fun e he => ?_) hlast).1
  obtain ⟨⟨k, state⟩, hmem, he⟩ := List.mem_filterMap.1 he
  obtain ⟨connector, hconn, rfl⟩ := Option.map_eq_some_iff.1 he
  have henabled := ServiceState.enabledConnector_of_removeOffer hconn
  change state.enabledConnector = some connector at henabled
  have hne : k ≠ key := by
    rintro rfl
    have hstate : (n.binding.view k).state = some state := Table.lookup_eq_some_of_mem hmem
    have hnone := h.enabled
    rw [hstate, Option.getD_some, henabled] at hnone
    cases hnone
  simpa [Effect.concerns] using hne

theorem Provider.receiveRequest (h : Provider key n) {client : ι}
    (hreceive : n.receiveRequest env client key true = some (n', effects)) :
    Provider key n' ∧ ∀ e ∈ effects, e.isInert = true := by
  have hnote : Provider key { n with binding := n.binding.withInterested key client } := by
    unfold Provider
    rw [Binding.view_withInterested]
    exact h
  obtain ⟨-, rfl, rfl⟩ | ⟨-, -, rfl, rfl⟩ | ⟨-, -, b, hcases⟩ := receiveRequest_true hreceive
  · exact ⟨hnote, by simp⟩
  · exact ⟨hnote, by simp⟩
  · unfold Provider at hnote
    obtain ⟨-, hcreate, rfl⟩ | ⟨server, hclient, -, hcreate, rfl⟩ | ⟨hclient, -, hcreate, rfl⟩ :=
      hcases
    · obtain ⟨rfl, -, -, hself, -⟩ := Binding.createClientConnector_failed hcreate
      refine ⟨?_, by simp⟩
      unfold Provider
      rw [hself]
      exact ⟨hnote.client_cases, hnote.connector, rfl, hnote.offers, hnote.enabled, hnote.bounded,
        hnote.unregistered, hnote.agree⟩
    · obtain ⟨-, rfl, -, -, hself, -⟩ := Binding.createClientConnector_connected hcreate
      refine ⟨?_, fun e he => ?_⟩
      · unfold Provider
        rw [hself]
        simpa using hnote.register hclient server.counts true ⟨false⟩
      · obtain ⟨_, -, rfl⟩ := List.mem_map.1 he
        rfl
    · obtain ⟨rfl, -, -, hself, -⟩ := Binding.createClientConnector_waiting hcreate
      refine ⟨?_, by simp⟩
      unfold Provider
      rw [hself]
      simpa using hnote.register hclient _ _ ⟨true⟩

theorem Provider.connectService (h : Provider key n) {client : ι} {requiredId : Nat}
    {metadata : SharedMemoryMetadata} {b : Binding ι}
    (hb : n.binding.handleConnectServiceMessage env client key requiredId metadata true =
      some (b, effects)) :
    Provider key { n with binding := b } ∧ ∀ e ∈ effects, e.isInert = true := by
  obtain ⟨localMetadata, state, -, -, rfl, rfl⟩ := Binding.handleConnectServiceMessage_true hb
  refine ⟨?_, fun e he => ?_⟩
  · unfold Provider
    rw [Binding.view_addMapping rfl]
    refine ProviderAt.setIds h (fun _ e x _ hx => ?_) _ _
    obtain ⟨entry, hin, hlocal⟩ := hx
    refine ⟨entry, ?_, hlocal⟩
    simp only
    split
    next hc => exact List.mem_append_left _ (hc ▸ hin)
    next => exact hin
  · rcases List.mem_append.1 he with he | he
    · exact Binding.isInert_of_mem_addMapping he
    · rw [List.mem_singleton.1 he]
      rfl

/-- Whether the bridge asks SOCom or is subscribed already, the event is among
the subscribed ones afterwards when there is a server. -/
theorem Provider.subscribed_perform (h : Provider key n) {x : SubscriptionEndpoint ι} {e : Nat}
    {b : Binding ι}
    (hok : ∀ server, (n.records key).server = some server →
      (n.records key).client = some .bridge ∧ e < server.counts.numEvents)
    (hperform : perform env 3 { n with binding := b }
      (((n.binding.view key).state.getD {}).updateEventSubscription key x e true).2 =
        some (n', out)) :
    SameButSubscriptions { n with binding := b } n' ∧ (n'.records key).subscribed =
      if (n.records key).server.isSome then insert e (n.records key).subscribed
      else (n.records key).subscribed := by
  simp only [ServiceState.updateEventSubscription, if_true] at hperform
  split at hperform
  · obtain ⟨u, caused, v, more, last, hfirst, hmore, hlast, -⟩ := perform_cons_eq_some.1 hperform
    obtain ⟨rfl, rfl⟩ := fst_snd_of_some_eq hfirst
    have hsame := sameButSubscriptions_socomSubscribe env { n with binding := b } key e
    rw [perform_inert 2 fun e he =>
      Effect.isInert_of_isSend (tellsPeer_of_mem_socomSubscribe he).isSend] at hmore
    cases hmore
    cases hlast
    refine ⟨hsame, ?_⟩
    rw [subscribed_socomSubscribe]
    cases hserver : (n.records key).server with
    | none => simp
    | some server => simp [(hok server hserver).2]
  next hquiet =>
    cases hperform
    refine ⟨.refl _, ?_⟩
    cases hserver : (n.records key).server with
    | none => simp
    | some server =>
        have hcc := h.connector.2 (hok server hserver).1
        have hin : e ∈ (n.records key).subscribed := by
          refine ((h.agree (by simp [hserver])).1 e).2 (Finset.nonempty_iff_ne_empty.2 fun hempty => ?_)
          exact hquiet ⟨hcc, by simp [hempty], by simp [hempty]⟩
        simp [Finset.insert_eq_of_mem hin]

theorem isCurrent_of_getByLocalHandle {b : Binding ι} {client : ι} {providedId : Nat} {ids : Ids}
    (h : b.idMapping.getByLocalHandle client providedId = some ids) :
    (⟨client, providedId⟩ : SubscriptionEndpoint ι).IsCurrent (b.view ids.key).ids := by
  refine ⟨ids, List.mem_filter.2 ⟨List.mem_of_find?_eq_some h, by simp⟩, ?_⟩
  simpa using List.find?_some h

theorem Provider.subscribeEvent (h : Provider key n) {client : ι} {providedId eventId : Nat}
    {subscribe : Bool}
    (hok : keepsAgreement key n (.receive client (.subscribeEvent providedId eventId subscribe)) =
      true)
    (hstep : n.step env (.receive client (.subscribeEvent providedId eventId subscribe)) =
      some (n', out)) : Provider key n' := by
  obtain ⟨m, effects, hact, hperform⟩ := step_eq_some.1 hstep
  obtain ⟨rfl, rfl⟩ := fst_snd_of_some_eq (act_receive_eq_some.1 hact).2
  simp only [Endpoint.setBinding] at hperform
  cases hids : n.binding.idMapping.getByLocalHandle client providedId with
  | none =>
      rw [Binding.handleSubscribeEventMessage_none hids] at hperform
      cases hperform
      exact h
  | some ids =>
      obtain ⟨heffects, hview⟩ := Binding.handleSubscribeEventMessage_some hids
      rw [heffects] at hperform
      by_cases hk : ids.key = key
      · subst hk
        cases hstate : (n.binding.view ids.key).state with
        | none =>
            rw [hstate] at hperform
            cases hperform
            refine h.setBinding ?_
            rw [hview]
            ext1 <;> try rfl
            simp [hstate]
        | some state =>
            have hgetD : (n.binding.view ids.key).state.getD {} = state := by simp [hstate]
            have hnew : ((n.binding.handleSubscribeEventMessage client providedId eventId
                subscribe).1.view ids.key).state.getD {} =
                  (state.updateEventSubscription ids.key ⟨client, providedId⟩ eventId
                    subscribe).1 := by
              rw [hview]
              simp [hstate]
            simp only [hstate, Option.toList_some, List.flatMap_cons, List.flatMap_nil,
              List.append_nil] at hperform
            cases subscribe with
            | true =>
                have hbridge : ∀ server, (n.records ids.key).server = some server →
                    (n.records ids.key).client = some .bridge ∧
                      eventId < server.counts.numEvents := by
                  intro server hserver
                  simpa [keepsAgreement, hids, hserver] using hok
                obtain ⟨hsame, hsubscribed⟩ :=
                  h.subscribed_perform hbridge (by rw [hgetD]; exact hperform)
                unfold Provider
                rw [hsame.binding, hnew, ← hgetD, hview]
                exact ProviderAt.subscribe h (isCurrent_of_getByLocalHandle hids) hbridge
                  (hsame.server _) (hsame.client _) hsubscribed
            | false =>
                have hcalls : ∀ e ∈ (state.updateEventSubscription ids.key ⟨client, providedId⟩ eventId
                    false).2, ∃ k eventId, e = .unsubscribeEvent k eventId := by
                  intro e he
                  obtain ⟨hsub, -⟩ | ⟨-, rfl⟩ :=
                    ServiceState.exists_of_mem_updateEventSubscription _ _ _ he
                  · cases hsub
                  · exact ⟨_, _, rfl⟩
                obtain ⟨hsame, hsubscribed⟩ := perform_unsubscribe (n := { n with
                  binding := (n.binding.handleSubscribeEventMessage client providedId eventId
                    false).1 }) hcalls h.bounded hperform
                unfold Provider
                rw [hsame.binding, hnew, hview]
                unfold Provider at h
                rw [hgetD] at h
                exact h.unsubscribe (hsame.server _) (hsame.client _) hsubscribed
      · have hsame : Provider key { n with
            binding := (n.binding.handleSubscribeEventMessage client providedId eventId
              subscribe).1 } := by
          refine h.setBinding ?_
          rw [hview]
          simp [Ne.symm hk]
        refine hsame.sameAt (foreign_perform (fun e he => ?_) hperform).1
        obtain ⟨state, -, he⟩ := List.mem_flatMap.1 he
        obtain ⟨-, rfl⟩ | ⟨-, rfl⟩ := ServiceState.exists_of_mem_updateEventSubscription _ _ _ he <;>
        simp [Effect.concerns, hk]

/-- The state that `Connect_service{in_use=false}` leaves of the service, before
its client connector is destroyed. -/
def disconnected (b : Binding ι) (key : Key) (client : ι) (requiredId : Nat) : ServiceState ι :=
  match b.idMapping.getByRemoteHandle client requiredId with
  | none => (b.view key).state.getD {}
  | some ids =>
      (((b.view key).state.getD {}).removeEventSubscription key ⟨client, ids.localHandle⟩).1

theorem state_disconnectService {b : Binding ι} {client : ι} {requiredId : Nat} :
    ((b.disconnectService client key requiredId).1.view key).state.getD {} =
      { disconnected b key client requiredId with
        clientConnectorPending := false
        clientConnector := none } := by
  rw [Binding.disconnectService_view, disconnected]
  cases b.idMapping.getByRemoteHandle client requiredId <;> cases (b.view key).state <;> rfl

theorem disconnected_frame (b : Binding ι) (key : Key) (client : ι) (requiredId : Nat) :
    (disconnected b key client requiredId).offers = ((b.view key).state.getD {}).offers ∧
      (disconnected b key client requiredId).enabledConnector =
        ((b.view key).state.getD {}).enabledConnector := by
  unfold disconnected
  split <;> exact ⟨rfl, rfl⟩

/-- Under the condition on it, the end of a connection leaves no stored endpoint
while there is a server. -/
theorem subscribers_disconnected {client : ι} {requiredId : Nat} {metadata : SharedMemoryMetadata}
    (hok : keepsAgreement key n (.receive client (.connectService key requiredId metadata false)) =
      true) (hserver : (n.records key).server.isSome = true) (e : Nat) :
    (disconnected n.binding key client requiredId).subscribers e = ∅ := by
  have hnone : (n.records key).server.isNone = false := by
    cases hrecord : (n.records key).server <;> simp_all
  simp only [keepsAgreement, hnone, Bool.false_or, if_true] at hok
  have hall := ServiceState.allStored_iff.1 hok e
  unfold disconnected
  cases hids : n.binding.idMapping.getByRemoteHandle client requiredId with
  | none =>
      refine Finset.eq_empty_of_forall_notMem fun x hx => ?_
      simpa [hids] using hall x hx
  | some ids =>
      simp only [ServiceState.removeEventSubscription, ServiceState.subscribers_dropSubscribers]
      refine Finset.filter_eq_empty_iff.2 fun x hx => ?_
      simpa [hids] using hall x hx

theorem Provider.disconnectService (h : Provider key n) {client : ι} {requiredId : Nat}
    {metadata : SharedMemoryMetadata}
    (hok : keepsAgreement key n (.receive client (.connectService key requiredId metadata false)) =
      true)
    (hperform : perform env 3
      { n with binding := (n.binding.disconnectService client key requiredId).1 }
      (n.binding.disconnectService client key requiredId).2 = some (n', out)) :
    Provider key n' := by
  obtain ⟨hoffers, henabled⟩ := disconnected_frame n.binding key client requiredId
  rw [h.offers] at hoffers
  rw [h.enabled] at henabled
  have hstored := subscribers_disconnected hok
  rw [Binding.disconnectService_effects, perform_append] at hperform
  obtain ⟨⟨u, more⟩, hdrops, hrest⟩ := Option.bind_eq_some_iff.1 hperform
  obtain ⟨⟨v, last⟩, hlast, heq⟩ := Option.map_eq_some_iff.1 hrest
  cases heq
  have hcalls : ∀ e ∈ n.binding.droppedSubscriptions client key requiredId,
      ∃ k eventId, e = .unsubscribeEvent k eventId :=
    fun e he => ⟨key, Binding.exists_of_mem_droppedSubscriptions he⟩
  obtain ⟨hu, hsubscribed⟩ := perform_unsubscribe (n := { n with
    binding := (n.binding.disconnectService client key requiredId).1 }) hcalls h.bounded hdrops
  have hcc : ((n.binding.view key).state.bind fun s => s.clientConnector) =
      ((n.binding.view key).state.getD {}).clientConnector := by
    cases (n.binding.view key).state <;> rfl
  rw [hcc] at hlast
  cases hconn : ((n.binding.view key).state.getD {}).clientConnector with
  | none =>
      rw [hconn] at hlast
      cases hlast
      have hclient : (n.records key).client = none := by
        refine h.client_cases.resolve_right fun hbridge => ?_
        have hsome := h.connector.2 hbridge
        rw [hconn] at hsome
        cases hsome
      unfold Provider
      rw [hu.binding, state_disconnectService]
      refine ProviderAt.of_none ((hu.client key).trans hclient) ?_ rfl rfl hoffers henabled
        fun hserver e => hstored (hu.server key ▸ hserver) e
      refine Finset.eq_empty_of_forall_notMem fun e he => ?_
      have hold := ((hsubscribed e).1 he).1
      simp [h.unregistered hclient] at hold
  | some connector =>
      rw [hconn] at hlast
      obtain ⟨w, caused, w', more', last', hdestroy, hmore, hnil, -⟩ := perform_cons_eq_some.1 hlast
      cases hnil
      obtain ⟨b, requests, rfl, rfl, hcases⟩ := destroyClient_cases hdestroy
      -- the state is as the handler left it, or gone with the request of the connector
      have hb : ((b.view key).state.getD {} =
            { disconnected n.binding key client requiredId with
              clientConnectorPending := false
              clientConnector := none } ∨ (b.view key).state = none) ∧
          ∀ e ∈ requests, e.isInert = true := by
        obtain ⟨-, rfl, rfl⟩ | ⟨-, hb⟩ := hcases
        · exact ⟨.inl (by rw [hu.binding, state_disconnectService]), by simp⟩
        · have hfree : u.binding.serviceStates.hasClientConnector key = false := by
            rw [Binding.hasClientConnector_eq, hu.binding, state_disconnectService]
            rfl
          rw [Binding.sendRequestService_false hfree] at hb
          cases hb
          refine ⟨.inr (by rw [Binding.view_unrequested]), fun e he => ?_⟩
          have hnone : (u.binding.view key).state.bind (fun s => s.enabledConnector) = none := by
            rw [Binding.enabledConnector_eq, hu.binding, state_disconnectService]
            exact henabled
          simp only [hnone, Option.toList_none, List.map_nil, List.append_nil, List.mem_cons] at he
          rcases he with rfl | he
          · rfl
          · obtain ⟨_, -, rfl⟩ := List.mem_map.1 he
            rfl
      rw [perform_inert 2] at hmore
      · cases hmore
        unfold Provider
        simp only [records_setRecord, Function.update_self]
        obtain hstate | hstate := hb.1
        · rw [hstate]
          exact ProviderAt.of_none rfl rfl rfl rfl hoffers henabled
            fun hserver e => hstored (hu.server key ▸ hserver) e
        · rw [hstate]
          exact ProviderAt.of_none rfl rfl rfl rfl rfl rfl fun _ _ => rfl
      · intro e he
        rcases List.mem_append.1 he with he | he
        · exact Effect.isInert_of_isSend (tellsPeer_of_mem_unsubscribeAll he).isSend
        · exact hb.2 e he

theorem Provider.connectService_false (h : Provider key n) {client : ι} {k : Key}
    {requiredId : Nat} {metadata : SharedMemoryMetadata}
    (hok : keepsAgreement key n (.receive client (.connectService k requiredId metadata false)) =
      true)
    (hstep : n.step env (.receive client (.connectService k requiredId metadata false)) =
      some (n', out)) : Provider key n' := by
  obtain ⟨m, effects, hact, hperform⟩ := step_eq_some.1 hstep
  obtain ⟨rfl, rfl⟩ := fst_snd_of_some_eq (act_receive_eq_some.1 hact).2
  by_cases hk : k = key
  · subst hk
    exact h.disconnectService hok hperform
  · have hm : Provider key
        { n with binding := (n.binding.disconnectService client k requiredId).1 } := by
      unfold Provider
      rw [Binding.disconnectService_view_of_ne (Ne.symm hk)]
      refine ProviderAt.setIds h (fun hserver e x hx hcurrent => ?_) _ _
      have hnone : (n.records key).server.isNone = false := by
        cases hrecord : (n.records key).server <;> simp_all
      simp only [keepsAgreement, hnone, Bool.false_or, if_neg hk] at hok
      have hkept := ServiceState.allStored_iff.1 hok e x hx
      by_cases hc : x.client = client
      · simp only [hc, ne_eq, not_true_eq_false, decide_false, Bool.false_or, List.any_eq_true,
          Bool.and_eq_true, decide_eq_true_eq] at hkept
        obtain ⟨entry, hin, hlocal, hremote⟩ := hkept
        refine ⟨entry, ?_, hlocal⟩
        simp only [hc, if_true, List.mem_filter]
        exact ⟨hin, by simpa using hremote⟩
      · obtain ⟨entry, hin, hlocal⟩ := hcurrent
        refine ⟨entry, ?_, hlocal⟩
        simpa only [if_neg hc] using hin
    refine hm.sameAt (foreign_perform (fun e he => ?_) hperform).1
    simp only [Endpoint.setBinding, Binding.disconnectService_effects] at he
    rcases List.mem_append.1 he with he | he
    · obtain ⟨eventId, rfl⟩ := Binding.exists_of_mem_droppedSubscriptions he
      simpa [Effect.concerns] using hk
    · obtain ⟨_, -, rfl⟩ := List.mem_map.1 he
      simpa [Effect.concerns] using hk

/-! ## Steps and runs -/

theorem Provider.of_inert (h : Provider key n ∧ ∀ e ∈ effects, e.isInert = true)
    (hperform : perform env 3 n effects = some (n', out)) : Provider key n' := by
  rw [perform_inert 3 h.2] at hperform
  cases hperform
  exact h.1

theorem Provider.payloadConsumed (h : Provider key n) {client : ι} {requiredId : Nat}
    {handle : SharedMemoryHandle}
    (hperform : perform env 3
      { n with binding := (n.binding.handlePayloadConsumedMessage client requiredId handle).1 }
      (n.binding.handlePayloadConsumedMessage client requiredId handle).2 = some (n', out)) :
    Provider key n' := by
  have hm : Provider key
      { n with binding := (n.binding.handlePayloadConsumedMessage client requiredId handle).1 } := by
    rw [n.binding.handlePayloadConsumedMessage_frame client requiredId handle]
    exact h
  refine hm.sameAt (foreign_perform (fun e he => ?_) hperform).1
  obtain ⟨payload, rfl⟩ := Binding.exists_of_mem_payloadConsumed he
  rfl

theorem Provider.receive (h : Provider key n) {client : ι} {msg : Message}
    (hrole : providerRole (.receive client msg) = true)
    (hok : keepsAgreement key n (.receive client msg) = true)
    (hself : ∀ {k}, (Event.receive client msg).about = some k → k = key)
    (hstep : n.step env (.receive client msg) = some (n', out)) : Provider key n' := by
  obtain ⟨m, effects, hact, hperform⟩ := step_eq_some.1 hstep
  cases Handles.of_onReceiveMessage (act_receive_eq_some.1 hact).2 with
  | connectReply | offer | connectServiceReply | eventUpdate => cases hrole
  | connect =>
      refine .of_inert ⟨h, fun e he => ?_⟩ hperform
      rcases List.mem_cons.1 he with rfl | he
      · rfl
      · obtain ⟨_, -, rfl⟩ := List.mem_map.1 he
        rfl
  | @request k inUse _ _ hreceive =>
      cases inUse with
      | false => exact h.receiveUnrequest hstep
      | true =>
          obtain rfl := hself rfl
          exact .of_inert (h.receiveRequest hreceive) hperform
  | @connectService k requiredId metadata inUse _ _ hb =>
      cases inUse with
      | false => exact h.connectService_false hok hstep
      | true =>
          obtain rfl := hself rfl
          exact .of_inert (h.connectService hb) hperform
  | subscribe => exact h.subscribeEvent hok hstep
  | payloadConsumed => exact h.payloadConsumed hperform

theorem Provider.step (h : Provider key n) {event : Event ι} (hrole : providerRole event = true)
    (hok : keepsAgreement key n event = true) (hstep : n.step env event = some (n', out)) :
    Provider key n' := by
  obtain ⟨k, habout, hne⟩ | hself := event.about_cases key
  · exact h.sameAt (foreign_step habout hne hstep).1
  obtain ⟨m, effects, hact, hperform⟩ := step_eq_some.1 hstep
  cases Acts.of_act hact with
  | idle =>
      cases hperform
      exact h
  | register | request | destroy | subscribe | unsubscribe | drop | finish => cases hrole
  | enable hserver hnotify =>
      obtain rfl := hself rfl
      exact .of_inert (h.enableServerConnector hok hserver hnotify) hperform
  | disable _ hdisable =>
      obtain rfl := hself rfl
      exact .of_inert (h.disableServer hdisable) hperform
  | update _ _ hupdate => exact h.step_foreign (foreign_socomUpdate hupdate) hperform
  | addClient client =>
      have hm : Provider key { n with binding := (n.binding.addClient client).1 } := h
      refine .of_inert ⟨hm, fun e he => ?_⟩ hperform
      rw [Binding.eq_of_mem_addClient he]
      rfl
  | removeClient client => exact h.removeClient hstep
  | receive => exact h.receive hrole hok hself hstep

/-- The bridge is subscribed at the server to the events that have a current
endpoint stored, and all stored endpoints are current. -/
structure SubscriptionsAgree (key : Key) (n : Endpoint ι) : Prop where
  subscribed : ∀ e, (n.records key).client = some .bridge ∧ e ∈ (n.records key).subscribed ↔
    ∃ x ∈ n.binding.subscribers key e, x.IsCurrent (n.binding.view key).ids
  current : ∀ e, ∀ x ∈ n.binding.subscribers key e, x.IsCurrent (n.binding.view key).ids

theorem subscriptionsAgree_of_keepsAgreement
    (h : ReachableVia (fun n label => label.2.keepsVersion key = true ∧
      providerRole label.2 = true ∧ keepsAgreement key n label.2 = true) n)
    (havailable : (n.records key).server.isSome = true) : SubscriptionsAgree key n := by
  have hprovider : Provider key n := by
    refine Reach.invariant (show Provider key {} from ProviderAt.init) ?_ h
    rintro n ⟨env, event⟩ n' hn ⟨-, hrole, hok⟩ hnext
    obtain ⟨⟨m, out⟩, hstep, rfl⟩ := Option.map_eq_some_iff.1 hnext
    exact hn.step hrole hok hstep
  have hsubs : ∀ e, n.binding.subscribers key e =
      ((n.binding.view key).state.getD {}).subscribers e := by
    intro e
    rw [Binding.subscribers]
    cases (n.binding.view key).state <;> rfl
  obtain ⟨hiff, hall⟩ := hprovider.agree havailable
  refine ⟨fun e => ?_, fun e x hx => hall e x (hsubs e ▸ hx)⟩
  rw [hsubs, hiff]
  constructor
  · rintro ⟨-, x, hx⟩
    exact ⟨x, hx, hall e x hx⟩
  · rintro ⟨x, hx, -⟩
    refine ⟨hprovider.client_cases.resolve_left fun hnone => ?_, x, hx⟩
    rw [hprovider.subscribers_eq_empty havailable hnone] at hx
    cases hx

/-- A service with one subscribed peer, while a second one comes and goes. -/
theorem subscriptionsAgree_of_keepsAgreement_run :
    ∃ n : Endpoint Nat, n.binding.subscribers (someKey 1) 0 = {⟨1, 1⟩} ∧
      (n.records (someKey 1)).server.isSome = true ∧ SubscriptionsAgree (someKey 1) n := by
  obtain ⟨n, hreach, hp⟩ := exists_reachable_of_runEvents
    (fun n label => label.2.keepsVersion (someKey 1) = true ∧ providerRole label.2 = true ∧
      keepsAgreement (someKey 1) n label.2 = true)
    [.addClient 1, .addClient 2, .enableServerConnector (someKey 1) ⟨0, 1⟩,
      .receive 1 (.requestService (someKey 1) true), .receive 2 (.requestService (someKey 1) true),
      .receive 1 (.connectService (someKey 1) 1 someMetadata true),
      .receive 2 (.connectService (someKey 1) 1 someMetadata true),
      .receive 1 (.subscribeEvent 1 0 true), .receive 2 (.subscribeEvent 2 0 true),
      .removeClient 2]
    (fun n => decide (n.binding.subscribers (someKey 1) 0 = {⟨1, 1⟩}) &&
      (n.records (someKey 1)).server.isSome) (by decide)
  simp only [Bool.and_eq_true, decide_eq_true_eq] at hp
  exact ⟨n, hp.1, hp.2, subscriptionsAgree_of_keepsAgreement hreach hp.2⟩

/-- The service goes away and comes back. The endpoint of the peer is still
stored, its mapping is gone, and the new server has no subscription. -/
theorem subscription_outlives_server :
    ∃ n : Endpoint Nat, ReachableVia (fun _ label => providerRole label.2 = true) n ∧
      (n.records (someKey 1)).server.isSome = true ∧ ¬ SubscriptionsAgree (someKey 1) n := by
  obtain ⟨n, hreach, hp⟩ := exists_reachable_of_runEvents
    (fun _ label => providerRole label.2 = true)
    [.addClient 1, .enableServerConnector (someKey 1) ⟨0, 1⟩,
      .receive 1 (.requestService (someKey 1) true),
      .receive 1 (.connectService (someKey 1) 1 someMetadata true),
      .receive 1 (.subscribeEvent 1 0 true), .disableServerConnector (someKey 1),
      .enableServerConnector (someKey 1) ⟨0, 1⟩]
    (fun n => (n.records (someKey 1)).server.isSome &&
      (decide ((⟨1, 1⟩ : SubscriptionEndpoint Nat) ∈ n.binding.subscribers (someKey 1) 0) &&
        ((n.binding.view (someKey 1)).ids 1).isEmpty)) (by decide)
  simp only [Bool.and_eq_true, decide_eq_true_eq, List.isEmpty_iff] at hp
  refine ⟨n, hreach, hp.1, fun hagree => ?_⟩
  obtain ⟨entry, hin, -⟩ := hagree.current 0 ⟨1, 1⟩ hp.2.1
  rw [hp.2.2] at hin
  cases hin

end Endpoint

end SomeipGateway
