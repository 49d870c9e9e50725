import SomeipGateway.Binding.Decode
import SomeipGateway.Binding.Defined
import SomeipGateway.Endpoint.Pools

/-! # Messages that are not expected

A handler returns and fails no assertion, or it does not, and which of the two is
decided by the tables before the message. The condition is given message by
message; it is exact.
-/

namespace SomeipGateway

variable {ι : Type}

/-! ## Calls that cannot fail -/

def Effect.isFailure : Effect ι → Bool
  | .assertFailed _ => true
  | _ => false

/-- The call returns whatever the records say, and so do those it causes. -/
def Effect.isSafe : Effect ι → Bool
  | .send _ _ _ _ | .requestSent _ _ | .subscribeEvent _ _ | .unsubscribeEvent _ _
  | .releasePayload _ => true
  | _ => false

theorem Effect.isSafe_of_isSend {e : Effect ι} (h : e.isSend = true) : e.isSafe = true := by
  cases e <;> first | rfl | cases h

theorem Effect.isFailure_of_isSafe {e : Effect ι} (h : e.isSafe = true) :
    e.isFailure = false := by
  cases e <;> first | rfl | cases h

/-- The code returns and no assertion failed. -/
def Clean {σ : Type} (r : Option (σ × List (Effect ι))) : Prop :=
  ∃ s effects, r = some (s, effects) ∧ ∀ e ∈ effects, e.isFailure = false

namespace Endpoint

variable [DecidableEq ι] {env : Env ι} {n n' : Endpoint ι} {effects out : List (Effect ι)}
  {key : Key} {client : ι}

theorem performOne_safe (env : Env ι) (n : Endpoint ι) {e : Effect ι} (he : e.isSafe = true) :
    ∃ n' caused, n.performOne env e = some (n', caused) ∧ SameButSubscriptions n n' ∧
      ∀ e' ∈ caused, e'.isSafe = true := by
  cases e with
  | send | requestSent => exact ⟨n, [], rfl, .refl n, by simp⟩
  | subscribeEvent key eventId =>
      exact ⟨_, _, rfl, sameButSubscriptions_socomSubscribe env n key eventId, fun e' he' =>
        Effect.isSafe_of_isSend (tellsPeer_of_mem_socomSubscribe he').isSend⟩
  | unsubscribeEvent key eventId =>
      exact ⟨_, _, rfl, sameButSubscriptions_socomUnsubscribe env n key eventId, fun e' he' =>
        Effect.isSafe_of_isSend (tellsPeer_of_mem_socomUnsubscribe he').isSend⟩
  | releasePayload payload =>
      simp only [performOne]
      cases payload.origin with
      | none => exact ⟨n, [], rfl, .refl n, by simp⟩
      | some origin =>
          by_cases hclient : origin.client ∈ n.binding.connections
          · exact ⟨n, _, if_pos hclient, .refl n, by simp [Env.send, Effect.isSafe]⟩
          · exact ⟨n, [], if_neg hclient, .refl n, by simp⟩
  | updateEvent | destroyServerConnector | destroyClientConnector | assertFailed => cases he

theorem perform_safe (env : Env ι) (n : Endpoint ι) (depth : Nat) (h : ∀ e ∈ effects, e.isSafe = true) :
    ∃ n' out, perform env depth n effects = some (n', out) ∧ SameButSubscriptions n n' ∧
      ∀ e ∈ out, e.isSafe = true := by
  induction depth generalizing n effects with
  | zero => exact ⟨n, effects, rfl, .refl n, h⟩
  | succ depth ihdepth =>
      induction effects generalizing n with
      | nil => exact ⟨n, [], rfl, .refl n, by simp⟩
      | cons e rest ih =>
          have he := h e List.mem_cons_self
          obtain ⟨u, caused, hone, hu, hcaused⟩ := performOne_safe env n he
          obtain ⟨v, more, hmore, hv, hsafe⟩ := ihdepth u hcaused
          obtain ⟨w, last, hlast, hw, hsafe'⟩ :=
            ih v fun e he => h e (List.mem_cons_of_mem _ he)
          refine ⟨w, e :: more ++ last,
            perform_cons_eq_some.2 ⟨u, caused, v, more, last, hone, hmore, hlast, rfl⟩,
            (hu.trans hv).trans hw, fun e' he' => ?_⟩
          rcases List.mem_append.1 he' with he' | he'
          · rcases List.mem_cons.1 he' with rfl | he'
            · exact he
            · exact hsafe e' he'
          · exact hsafe' e' he'

theorem clean_perform_safe (depth : Nat) (h : ∀ e ∈ effects, e.isSafe = true) :
    Clean (perform env depth n effects) := by
  obtain ⟨n', out, hout, -, hsafe⟩ := perform_safe env n depth h
  exact ⟨n', out, hout, fun e he => Effect.isFailure_of_isSafe (hsafe e he)⟩

theorem clean_step_iff {event : Event ι} :
    Clean (n.step env event) ↔
      ∃ m effects, n.act env event = some (m, effects) ∧ Clean (perform env 3 m effects) := by
  constructor
  · rintro ⟨n', out, hstep, hout⟩
    obtain ⟨m, effects, hact, hperform⟩ := step_eq_some.1 hstep
    exact ⟨m, effects, hact, n', out, hperform, hout⟩
  · rintro ⟨m, effects, hact, n', out, hperform, hout⟩
    exact ⟨n', out, step_eq_some.2 ⟨m, effects, hact, hperform⟩, hout⟩

/-- A section that makes safe calls only is clean where it is defined. -/
theorem clean_setBinding_iff {r : Option (Binding ι × List (Effect ι))}
    (hsafe : ∀ b es, r = some (b, es) → ∀ e ∈ es, e.isSafe = true) :
    (∃ m effects, r.map n.setBinding = some (m, effects) ∧ Clean (perform env 3 m effects)) ↔
      r.isSome = true := by
  constructor
  · rintro ⟨m, effects, hr, -⟩
    obtain ⟨b, rfl, -⟩ := setBinding_eq_some.1 hr
    rfl
  · intro hsome
    obtain ⟨⟨b, es⟩, rfl⟩ := Option.isSome_iff_exists.1 hsome
    exact ⟨_, es, rfl, clean_perform_safe 3 (hsafe b es rfl)⟩

/-! ## Connectors that go away -/

/-- A bridge client of the service can pass on what it hears of the server. -/
def CanNotify (n : Endpoint ι) (key : Key) : Prop :=
  (n.records key).client = some .bridge → ∀ c ∈ n.binding.interested key, c ∈ n.binding.connections

theorem notifyClient_isSome_iff (env : Env ι) (n : Endpoint ι) (key : Key) (isAvailable : Bool)
    (counts : ServiceCounts) :
    (n.notifyClient env key isAvailable counts).isSome = true ↔ n.CanNotify key := by
  unfold notifyClient CanNotify
  split
  next hclient =>
    rw [Option.isSome_map, Binding.serviceStateChange_isSome_iff]
    simp [hclient]
  next hclient => simpa using fun h => absurd h hclient

theorem isSafe_of_notifyClient {isAvailable : Bool} {counts : ServiceCounts}
    (h : n.notifyClient env key isAvailable counts = some (n', effects)) :
    ∀ e ∈ effects, e.isSafe = true := by
  obtain ⟨-, -, rfl⟩ | ⟨-, b, hb, -⟩ := notifyClient_cases h
  · simp
  · obtain ⟨-, -, rfl⟩ := Binding.serviceStateChange_eq_some.1 hb
    simp [Env.send, Effect.isSafe]

/-- Telling the client once leaves it able to be told again. -/
theorem canNotify_of_notifyClient {isAvailable : Bool} {counts : ServiceCounts}
    (h : n.notifyClient env key isAvailable counts = some (n', effects)) (hn : n.CanNotify key) :
    n'.CanNotify key := by
  obtain ⟨-, rfl, -⟩ | ⟨-, b, hb, rfl⟩ := notifyClient_cases h
  · exact hn
  · obtain ⟨-, rfl, -⟩ := Binding.serviceStateChange_eq_some.1 hb
    intro hclient c hc
    exact hn hclient c (by simpa [Binding.interested] using hc)

theorem disableServer_isSome_iff (env : Env ι) (n : Endpoint ι) (key : Key) :
    (n.disableServer env key).isSome = true ↔
      ((n.records key).server.isSome = true → n.CanNotify key) := by
  unfold disableServer
  cases hserver : (n.records key).server with
  | none => simp
  | some server =>
      simp only [notifyClient_isSome_iff, Option.isSome_some, true_implies]
      simp [CanNotify]

theorem isSafe_of_disableServer (h : n.disableServer env key = some (n', effects)) :
    ∀ e ∈ effects, e.isSafe = true := by
  obtain ⟨-, -, rfl⟩ | ⟨server, -, hnotify⟩ := disableServer_cases h
  · simp
  · exact isSafe_of_notifyClient hnotify

/-- Safe calls, then one more. -/
theorem perform_concat (env : Env ι) (n : Endpoint ι) (e : Effect ι) (depth : Nat)
    (hsafe : ∀ e ∈ effects, e.isSafe = true) :
    ∃ m out, SameButSubscriptions n m ∧ (∀ e ∈ out, e.isSafe = true) ∧
      perform env (depth + 1) n (effects ++ [e]) =
        (m.performOne env e).bind fun r =>
          (perform env depth r.1 r.2).map fun q => (q.1, out ++ e :: q.2) := by
  obtain ⟨m, out, hout, hsame, hquiet⟩ := perform_safe env n (depth + 1) hsafe
  refine ⟨m, out, hsame, hquiet, ?_⟩
  rw [perform_append, hout, Option.bind_some]
  simp only [perform, foldEffects, Option.bind_eq_bind]
  cases hone : m.performOne env e with
  | none => rfl
  | some r => cases hmore : perform env depth r.1 r.2 <;> simp [hmore]

theorem clean_perform_concat (env : Env ι) (n : Endpoint ι) (e : Effect ι) (depth : Nat)
    (he : e.isFailure = false) (hsafe : ∀ e ∈ effects, e.isSafe = true) :
    ∃ m, SameButSubscriptions n m ∧
      (Clean (perform env (depth + 1) n (effects ++ [e])) ↔
        ∃ u caused, m.performOne env e = some (u, caused) ∧ Clean (perform env depth u caused)) := by
  obtain ⟨m, out, hsame, hquiet, heq⟩ := perform_concat env n e depth hsafe
  refine ⟨m, hsame, ?_⟩
  rw [heq]
  constructor
  · rintro ⟨n', last, h, hlast⟩
    simp only [Option.bind_eq_some_iff, Option.map_eq_some_iff, Prod.mk.injEq] at h
    obtain ⟨⟨u, caused⟩, hone, ⟨v, more⟩, hmore, -, rfl⟩ := h
    refine ⟨u, caused, hone, v, more, hmore, fun e' he' => hlast e' ?_⟩
    simp [he']
  · rintro ⟨u, caused, hone, v, more, hmore, hclean⟩
    rw [hone, Option.bind_some, hmore, Option.map_some]
    refine ⟨_, _, rfl, fun e' he' => ?_⟩
    simp only [List.mem_append, List.mem_cons] at he'
    rcases he' with he' | rfl | he'
    · exact Effect.isFailure_of_isSafe (hquiet e' he')
    · exact he
    · exact hclean e' he'

/-- Safe calls, then at most one server connector that is destroyed. -/
theorem clean_perform_disable (env : Env ι) (n : Endpoint ι) (key : Key)
    (connector : Option (EnabledConnector ι)) (depth : Nat)
    (hsafe : ∀ e ∈ effects, e.isSafe = true) :
    Clean (perform env (depth + 1) n
        (effects ++ connector.toList.map (.destroyServerConnector key))) ↔
      (connector.isSome = true → (n.records key).server.isSome = true → n.CanNotify key) := by
  cases connector with
  | none => simpa using clean_perform_safe (depth + 1) hsafe
  | some connector =>
      obtain ⟨m, hsame, hiff⟩ := clean_perform_concat env n
        (.destroyServerConnector key connector) depth rfl hsafe
      have hm : ((m.records key).server.isSome = true → m.CanNotify key) ↔
          ((n.records key).server.isSome = true → n.CanNotify key) := by
        simp only [CanNotify, hsame.server, hsame.client, hsame.binding]
      simp only [Option.toList_some, List.map_cons, List.map_nil, Option.isSome_some, true_implies]
      rw [hiff, ← hm, ← disableServer_isSome_iff env, Option.isSome_iff_exists]
      constructor
      · rintro ⟨u, caused, hone, -⟩
        exact ⟨_, hone⟩
      · rintro ⟨⟨u, caused⟩, hone⟩
        exact ⟨u, caused, hone, clean_perform_safe depth (isSafe_of_disableServer hone)⟩

/-- A server connector of a record without a bridge client is nothing to the binding. -/
theorem binding_perform_disable {connector : Option (EnabledConnector ι)} (depth : Nat)
    (hsafe : ∀ e ∈ effects, e.isSafe = true) (hclient : (n.records key).client ≠ some .bridge)
    (h : perform env (depth + 1) n
      (effects ++ connector.toList.map (.destroyServerConnector key)) = some (n', out)) :
    n'.binding = n.binding := by
  cases connector with
  | none =>
      obtain ⟨m, _, hm, hsame, -⟩ := perform_safe env n (depth + 1) hsafe
      rw [Option.toList_none, List.map_nil, List.append_nil, hm] at h
      cases h
      exact hsame.binding
  | some connector =>
      obtain ⟨m, _, hsame, -, heq⟩ := perform_concat env n
        (.destroyServerConnector key connector) depth hsafe
      simp only [Option.toList_some, List.map_cons, List.map_nil] at h
      rw [heq] at h
      simp only [Option.bind_eq_some_iff, Option.map_eq_some_iff, Prod.mk.injEq] at h
      obtain ⟨⟨u, caused⟩, hone, ⟨v, more⟩, hmore, rfl, -⟩ := h
      obtain ⟨w, _, hw, hlast, -⟩ :=
        perform_safe env u depth (isSafe_of_disableServer hone)
      obtain ⟨rfl, -⟩ : w = v ∧ _ := by simpa [hw] using hmore
      have hu : u.binding = m.binding := by
        obtain ⟨-, rfl, -⟩ | ⟨server, -, hnotify⟩ := disableServer_cases hone
        · rfl
        · obtain ⟨-, rfl, -⟩ | ⟨hbridge, -⟩ := notifyClient_cases hnotify
          · rfl
          · exact absurd (by simpa [hsame.client] using hbridge) hclient
      rw [hlast.binding, hu, hsame.binding]

/-- A client connector can always be destroyed: its record has no client once the
server connector that its request kept goes away. -/
theorem destroyClient_clean (env : Env ι) (n : Endpoint ι) (key : Key) (bridged : Bool)
    (hclient : n.binding.serviceStates.hasClientConnector key = false) :
    ∃ u caused n' out, n.destroyClient env key bridged = some (u, caused) ∧
      perform env 2 u caused = some (n', out) ∧ (∀ e ∈ out, e.isFailure = false) ∧
      n'.binding = if bridged then n.binding.unrequested key else n.binding := by
  have hsends : ∀ e ∈ n.unsubscribeAll env key, e.isSafe = true :=
    fun e he => Effect.isSafe_of_isSend (tellsPeer_of_mem_unsubscribeAll he).isSend
  cases bridged with
  | false =>
      rw [← List.append_nil (n.unsubscribeAll env key)] at hsends
      obtain ⟨v, more, hv, hsame, hmore⟩ := perform_safe env _ 2 hsends
      exact ⟨_, _, v, more, rfl, hv, fun e he => Effect.isFailure_of_isSafe (hmore e he),
        hsame.binding⟩
  | true =>
      have hrequest : ∀ e ∈ n.unsubscribeAll env key ++ .requestSent key false ::
          n.binding.sendToAll env (some key) (.requestService key false), e.isSafe = true := by
        intro e he
        simp only [List.mem_append, List.mem_cons, Binding.sendToAll, List.mem_map] at he
        rcases he with he | rfl | ⟨c, -, rfl⟩
        · exact hsends e he
        · rfl
        · rfl
      simp only [destroyClient, if_true, Binding.sendRequestService_false hclient,
        Option.bind_eq_bind, Option.bind_some]
      obtain ⟨v, more, hv, hmore⟩ := (clean_perform_disable env
        { n.setRecord key { n.records key with client := none, subscribed := ∅ } with
          binding := n.binding.unrequested key
          dangling := n.dangling ++ n.erased (n.binding.unrequested key) } key
        ((n.binding.view key).state.bind fun state => state.enabledConnector) 1
        hrequest).2 (by simp [CanNotify])
      refine ⟨_, _, v, more, rfl, ?_, hmore, ?_⟩
      · rw [← List.append_assoc]
        exact hv
      · exact binding_perform_disable 1 hrequest (by simp) hv

theorem perform_destroyClient (env : Env ι) (connector : Option ClientConnector)
    (hsafe : ∀ e ∈ effects, e.isSafe = true)
    (hclient : n.binding.serviceStates.hasClientConnector key = false) :
    ∃ n' out, perform env 3 n (effects ++ connector.toList.map (.destroyClientConnector key)) =
        some (n', out) ∧ (∀ e ∈ out, e.isFailure = false) ∧
      n'.binding = if connector = some ⟨true⟩ then n.binding.unrequested key else n.binding := by
  cases connector with
  | none =>
      obtain ⟨m, out, hm, hsame, hquiet⟩ := perform_safe env n 3 hsafe
      refine ⟨m, out, by simpa using hm, fun e he => Effect.isFailure_of_isSafe (hquiet e he), ?_⟩
      simpa using hsame.binding
  | some connector =>
      obtain ⟨bridged⟩ := connector
      obtain ⟨m, first, hsame, hquiet, heq⟩ := perform_concat env n
        (.destroyClientConnector key ⟨bridged⟩) 2 hsafe
      obtain ⟨u, caused, v, more, hone, hv, hmore, hbinding⟩ :=
        destroyClient_clean env m key bridged (hsame.binding ▸ hclient)
      refine ⟨v, first ++ .destroyClientConnector key ⟨bridged⟩ :: more, ?_, fun e he => ?_, ?_⟩
      · simp only [Option.toList_some, List.map_cons, List.map_nil]
        rw [heq, performOne, hone, Option.bind_some, hv, Option.map_some]
      · simp only [List.mem_append, List.mem_cons] at he
        rcases he with he | rfl | he
        · exact Effect.isFailure_of_isSafe (hquiet e he)
        · rfl
        · exact hmore e he
      · rw [hbinding, hsame.binding]
        cases bridged <;> simp

end Endpoint

/-! ## What a message may meet -/

namespace Binding

variable [DecidableEq ι]

/-- The pool that an event update reads from is open, or the factory opens it and
the manager accepts its sizes. -/
def opensPool (opens : SharedMemoryMetadata → Bool) (b : Binding ι) (client : ι) :
    Message → Bool
  | .eventUpdate requiredId _ _ =>
      (b.idMapping.getByRemoteHandle client requiredId).all fun ids =>
        (b.readOnlyManagers.lookup ids.remoteMetadata.path).isSome ||
          opens ids.remoteMetadata && 0 < ids.remoteMetadata.slotSize &&
            0 < ids.remoteMetadata.slotCount
  | _ => true

/-- A new mapping of the peer for the service, under the local handle, is the only one. -/
def CanMap (b : Binding ι) (client : ι) (key : Key) (localHandle : Nat) : Prop :=
  ∀ ids ∈ b.idMapping.idsOf client, ids.key ≠ key ∧ ids.localHandle ≠ localHandle

/-- The message names a handle, a slot or, to be connected to, a service that the
binding does not know. -/
def namesUnknown (b : Binding ι) (client : ι) : Message → Bool
  | .connectService key _ _ true => (b.serviceStates.lookup key).isNone
  | .connectService key requiredId _ false =>
      (b.serviceStates.lookup key).isNone ||
        (b.idMapping.getByRemoteHandle client requiredId).isNone
  | .connectServiceReply requiredId _ _ _ =>
      (b.pendingConnects.lookup requiredId).all fun pending => pending.client ≠ client
  | .subscribeEvent providedId _ _ => (b.idMapping.getByLocalHandle client providedId).isNone
  | .eventUpdate requiredId _ handle =>
      (b.idMapping.getByRemoteHandle client requiredId).all fun ids =>
        (b.pool ids).slotCount ≤ handle.slotIndex
  | .payloadConsumed requiredId handle =>
      (b.idMapping.getByRemoteHandle client requiredId).all fun ids =>
        ((b.allocations.lookup ids.key).getD []).length ≤ handle.slotIndex
  | .connect | .connectReply _ | .requestService _ _ | .offerService _ _ => false

/-- Mappings, offers, subscriptions and allocations are as before. -/
structure Unchanged (b b' : Binding ι) : Prop where
  mappings : ∀ c, b'.idMapping.idsOf c = b.idMapping.idsOf c
  offers : ∀ key c, ((b'.view key).state.getD {}).offers.lookup c =
    ((b.view key).state.getD {}).offers.lookup c
  localOffers : b'.localOffers = b.localOffers
  subscribers : ∀ key eventId, ((b'.view key).state.getD {}).subscribers eventId =
    ((b.view key).state.getD {}).subscribers eventId
  allocations : b'.allocations = b.allocations

theorem Unchanged.refl (b : Binding ι) : b.Unchanged b :=
  ⟨fun _ => rfl, fun _ _ => rfl, rfl, fun _ _ => rfl, rfl⟩

theorem Unchanged.symm {b b' : Binding ι} (h : b.Unchanged b') : b'.Unchanged b :=
  ⟨fun c => (h.mappings c).symm, fun key c => (h.offers key c).symm, h.localOffers.symm,
    fun key eventId => (h.subscribers key eventId).symm, h.allocations.symm⟩

theorem Unchanged.trans {b b' b'' : Binding ι} (h : b.Unchanged b') (h' : b'.Unchanged b'') :
    b.Unchanged b'' :=
  ⟨fun c => (h'.mappings c).trans (h.mappings c),
    fun key c => (h'.offers key c).trans (h.offers key c), h'.localOffers.trans h.localOffers,
    fun key eventId => (h'.subscribers key eventId).trans (h.subscribers key eventId),
    h'.allocations.trans h.allocations⟩

/-- There is nothing of the service to lose. -/
def HoldsNothing (b : Binding ι) (key : Key) : Prop :=
  (∀ c, (b.view key).ids c = []) ∧ (∀ c, ((b.view key).state.getD {}).offers.lookup c = none) ∧
    ∀ eventId, ((b.view key).state.getD {}).subscribers eventId = ∅

variable {b : Binding ι} {client : ι} {key : Key} {requiredId : Nat}

theorem getByRemoteHandle_eq_none_iff {m : ConnectionMetadata ι} :
    m.getByRemoteHandle client requiredId = none ↔
      ∀ ids ∈ m.idsOf client, ids.remoteHandle ≠ requiredId := by
  simp [ConnectionMetadata.getByRemoteHandle, List.find?_eq_none]

theorem idsOf_disconnectService (c : ι) :
    (b.disconnectService client key requiredId).1.idMapping.idsOf c =
      if c = client then (b.idMapping.idsOf client).filter fun ids => ids.remoteHandle ≠ requiredId
      else b.idMapping.idsOf c :=
  ConnectionMetadata.idsOf_removeMapping b.idMapping client c requiredId

/-- Ending a connection loses a mapping if and only if it names one. -/
theorem unchanged_disconnectService_iff :
    b.Unchanged (b.disconnectService client key requiredId).1 ↔
      b.idMapping.getByRemoteHandle client requiredId = none := by
  rw [getByRemoteHandle_eq_none_iff]
  constructor
  · intro h
    have hids := h.mappings client
    rw [idsOf_disconnectService, if_pos rfl, List.filter_eq_self] at hids
    simpa using hids
  · intro h
    have hnone := getByRemoteHandle_eq_none_iff.2 h
    have hstate : ∀ key', ∃ f : ServiceState ι → ServiceState ι,
        ((b.disconnectService client key requiredId).1.view key').state =
          (b.view key').state.map f ∧
        ∀ s, (f s).offers = s.offers ∧ (f s).eventSubscriptions = s.eventSubscriptions := by
      intro key'
      by_cases hk : key' = key
      · subst hk
        exact ⟨_, congrArg ServiceView.state disconnectService_view, fun s => by simp [hnone]⟩
      · refine ⟨id, ?_, fun _ => ⟨rfl, rfl⟩⟩
        rw [disconnectService_view_of_ne hk]
        simp
    refine ⟨fun c => ?_, fun key' c => ?_, rfl, fun key' eventId => ?_, rfl⟩
    · rw [idsOf_disconnectService]
      split
      next hc =>
        subst hc
        simpa [List.filter_eq_self] using h
      next => rfl
    · obtain ⟨f, hf, hsame⟩ := hstate key'
      rw [hf]
      cases (b.view key').state with
      | none => rfl
      | some s => simp [(hsame s).1]
    · obtain ⟨f, hf, hsame⟩ := hstate key'
      rw [hf]
      cases (b.view key').state with
      | none => rfl
      | some s => simp [ServiceState.subscribers, (hsame s).2]

/-- Giving up a service loses nothing if and only if nothing is held for it. -/
theorem unchanged_unrequested_iff : b.Unchanged (b.unrequested key) ↔ b.HoldsNothing key := by
  have hview : (b.unrequested key).view key = _ := view_unrequested
  have hids : ∀ c, (b.unrequested key).idMapping.idsOf c =
      (b.idMapping.idsOf c).filter fun ids => ids.key ≠ key :=
    fun c => ConnectionMetadata.idsOf_removeService b.idMapping c key
  constructor
  · intro h
    refine ⟨fun c => ?_, fun c => ?_, fun eventId => ?_⟩
    · have hself := (hids c).symm.trans (h.mappings c)
      simpa [view, List.filter_eq_self, List.filter_eq_nil_iff] using hself
    · rw [← h.offers, hview]
      rfl
    · rw [← h.subscribers, hview]
      rfl
  · rintro ⟨hnoids, hnooffers, hnosubscribers⟩
    refine ⟨fun c => ?_, fun key' c => ?_, rfl, fun key' eventId => ?_, rfl⟩
    · rw [hids, List.filter_eq_self]
      simpa [view, List.filter_eq_nil_iff] using hnoids c
    · by_cases hk : key' = key
      · subst hk
        rw [hnooffers, hview]
        rfl
      · rw [view_unrequested_of_ne hk]
    · by_cases hk : key' = key
      · subst hk
        rw [hnosubscribers, hview]
        rfl
      · rw [view_unrequested_of_ne hk]

theorem HoldsNothing.of_unchanged {b' : Binding ι} (h : b.HoldsNothing key)
    (hb : b.Unchanged b') : b'.HoldsNothing key := by
  refine ⟨fun c => ?_, fun c => ?_, fun eventId => ?_⟩
  · have hc := h.1 c
    simp only [view] at hc ⊢
    rw [hb.mappings, hc]
  · rw [hb.offers, h.2.1]
  · rw [hb.subscribers, h.2.2]

end Binding

/-- A slot count on the wire is a `std::size_t`. -/
def Event.hasWireSlots : Event ι → Bool
  | .receive _ (.connectService _ _ metadata _)
  | .receive _ (.connectServiceReply _ _ metadata _) => metadata.slotCount < 2 ^ 64
  | _ => true

/-- The slot count is as on the wire, and the service is named in its one version. -/
def Event.isRegular (minor : Socom.RecordKey → Nat) (event : Event ι) : Bool :=
  event.hasWireSlots && event.keepsVersions minor

namespace Endpoint

variable [DecidableEq ι] {env : Env ι} {n n' : Endpoint ι} {effects out : List (Effect ι)}
  {key : Key} {client : ι} {strict : Bool} {role : Role} {opens : SharedMemoryMetadata → Bool}

/-- A critical section of a handler is due: no other message of the peer is being
handled, or its reply is. The message names a service in its one version. -/
def handles (minor : Socom.RecordKey → Nat) (n : Endpoint ι) : Event ι → Bool
  | .receive client msg =>
      (n.replyOf client).isNone && (Event.receive client msg).keepsVersions minor
  | .finishReply client => (n.replyOf client).isSome
  | _ => false

/-- What the client does with a `Connect_reply` before the base handles it. -/
def accept (role : Role) (n : Endpoint ι) (client : ι) (msg : Message) :
    Endpoint ι × List (Effect ι) :=
  match role, msg with
  | .client, .connectReply true => n.setBinding (n.binding.addClient client)
  | .client, .connectReply false => (n, [.assertFailed .connectRefused])
  | _, _ => (n, [])

/-- The step of a handler, where `opens` tells which pools the factory can open. A
pool that is not opened is undefined behaviour. -/
def handle (role : Role) (opens : SharedMemoryMetadata → Bool) (env : Env ι) (n : Endpoint ι) :
    Event ι → Option (Endpoint ι × List (Effect ι))
  | .receive client msg =>
      let (n, accepted) := n.accept role client msg
      if n.binding.opensPool opens client msg then
        (n.step env (.receive client msg)).map fun r => (r.1, accepted ++ r.2)
      else none
  | event => n.step env event

/-- The handler returns without a failed assertion; if `strict`, a message that names
something unknown changes nothing. -/
def Harmless (strict : Bool) (role : Role) (opens : SharedMemoryMetadata → Bool) (env : Env ι)
    (n : Endpoint ι) (event : Event ι) : Prop :=
  ∃ n' out, n.handle role opens env event = some (n', out) ∧ (∀ e ∈ out, e.isFailure = false) ∧
    (strict = true → ∀ client msg, event = .receive client msg →
      n.binding.namesUnknown client msg = true → n.binding.Unchanged n'.binding)

/-- What the tables have to say before the base handles the message. -/
def ToleratesMessage (strict : Bool) (opens : SharedMemoryMetadata → Bool) (env : Env ι)
    (n : Endpoint ι) (client : ι) : Message → Prop
  | .connect | .subscribeEvent _ _ _ | .payloadConsumed _ _ => True
  | .connectReply status => status = true → ∀ key, n.binding.CanConnect env key []
  | .requestService key inUse =>
      inUse = true → (n.binding.view key).localOffer = false → n.binding.hasOwner key = false →
        (n.records key).client = none → (n.records key).server.isSome = true →
          client ∈ n.binding.connections ∧
            ∀ c ∈ n.binding.interested key, c ∈ n.binding.connections
  | .offerService key true => n.binding.CanConnect env key [client]
  | .offerService key false =>
      n.binding.serviceStates.hasConnector key = true → (n.records key).server.isSome = true →
        n.CanNotify key
  | .connectService key _ _ true =>
      (n.binding.serviceStates.lookup key).isSome = true ∧ (env.metadata key).isSome = true ∧
        n.binding.CanMap client key n.binding.nextLocalId
  | .connectService key requiredId _ false => strict = true →
      (n.binding.serviceStates.lookup key = none →
        n.binding.idMapping.getByRemoteHandle client requiredId = none) ∧
      (n.binding.idMapping.getByRemoteHandle client requiredId = none →
        ((n.binding.view key).state.getD {}).clientConnector = some ⟨true⟩ →
          n.binding.HoldsNothing key)
  | .connectServiceReply requiredId providedId _ _ =>
      ∀ key, n.binding.pendingConnects.lookup requiredId = some ⟨key, client⟩ →
        (n.binding.serviceStates.lookup key).isSome = true →
          (env.metadata key).isSome = true ∧ n.binding.CanMap client key providedId
  | .eventUpdate requiredId eventId handle =>
      ∀ ids, n.binding.idMapping.getByRemoteHandle client requiredId = some ids →
        n.binding.opensPool opens client (.eventUpdate requiredId eventId handle) = true ∧
        handle.slotIndex < (n.binding.pool ids).slotCount ∧
        (∃ state connector, n.binding.serviceStates.lookup ids.key = some state ∧
          state.enabledConnector = some connector ∧ eventId < connector.counts.numEvents) ∧
        (eventId ∈ (n.records ids.key).subscribed → (n.records ids.key).client = some .bridge →
          ∀ target ∈ n.binding.idMapping.forEachClient ids.key, target.1 ∈ n.binding.connections)

/-- The client is accepted, and once; the tables tolerate the message. The second
section of a reply finds its service state and is the only one to have a server
connector of the service. -/
def Tolerates (strict : Bool) (role : Role) (opens : SharedMemoryMetadata → Bool) (env : Env ι)
    (n : Endpoint ι) : Event ι → Prop
  | .receive client msg =>
      (role = .client → ∀ status, msg = .connectReply status →
        status = true ∧ client ∉ n.binding.connections) ∧
      (n.accept role client msg).1.ToleratesMessage strict opens env client msg
  | .finishReply client =>
      ∀ reply, n.replyOf client = some reply → reply ∉ n.dangling ∧
        ((n.records reply.key).server = none ∧ reply.key ∉ n.made) ∧ n.CanNotify reply.key
  | _ => True

/-! ## Message by message -/

theorem harmless_receive_iff {msg : Message} (hreply : n.replyOf client = none) :
    Harmless strict .base opens env n (.receive client msg) ↔
      n.binding.opensPool opens client msg = true ∧
      ∃ m effects n' out, n.onReceiveMessage env client msg = some (m, effects) ∧
        perform env 3 m effects = some (n', out) ∧ (∀ e ∈ out, e.isFailure = false) ∧
        (strict = true → n.binding.namesUnknown client msg = true →
          n.binding.Unchanged n'.binding) := by
  have hact : n.act env (.receive client msg) = n.onReceiveMessage env client msg := by
    simp [act, hreply]
  simp only [Harmless, handle, accept, List.nil_append, Prod.mk.eta, Option.map_id']
  cases n.binding.opensPool opens client msg with
  | false => simp
  | true =>
      simp only [if_true, step_eq_some, hact, true_and]
      constructor
      · rintro ⟨n', out, ⟨m, effects, hm, hperform⟩, hout, hunknown⟩
        exact ⟨m, effects, n', out, hm, hperform, hout, fun h => hunknown h client msg rfl⟩
      · rintro ⟨m, effects, n', out, hm, hperform, hout, hunknown⟩
        refine ⟨n', out, ⟨m, effects, hm, hperform⟩, hout, ?_⟩
        rintro h _ _ ⟨rfl, rfl⟩
        exact hunknown h

/-- A message that names nothing unknown. -/
theorem harmless_of_known {msg : Message} (hreply : n.replyOf client = none)
    (hopens : n.binding.opensPool opens client msg = true)
    (hknown : n.binding.namesUnknown client msg = false) :
    Harmless strict .base opens env n (.receive client msg) ↔
      ∃ m effects, n.onReceiveMessage env client msg = some (m, effects) ∧
        Clean (perform env 3 m effects) := by
  rw [harmless_receive_iff hreply]
  constructor
  · rintro ⟨-, m, effects, n', out, hm, hperform, hout, -⟩
    exact ⟨m, effects, hm, n', out, hperform, hout⟩
  · rintro ⟨m, effects, hm, n', out, hperform, hout⟩
    exact ⟨hopens, m, effects, n', out, hm, hperform, hout, by simp [hknown]⟩

/-- A message that leaves the endpoint as it is, but for the outward calls. -/
theorem harmless_of_safe {msg : Message} {b : Binding ι} (hreply : n.replyOf client = none)
    (hopens : n.binding.opensPool opens client msg = true)
    (hmsg : n.onReceiveMessage env client msg = some ({ n with binding := b }, effects))
    (hsafe : ∀ e ∈ effects, e.isSafe = true)
    (hunknown : n.binding.namesUnknown client msg = true → n.binding.Unchanged b) :
    Harmless strict .base opens env n (.receive client msg) := by
  obtain ⟨n', out, hout, hsame, hquiet⟩ := perform_safe env { n with binding := b } 3 hsafe
  refine (harmless_receive_iff hreply).2 ⟨hopens, _, effects, n', out, hmsg, hout,
    fun e he => Effect.isFailure_of_isSafe (hquiet e he), fun _ h => ?_⟩
  rw [hsame.binding]
  exact hunknown h

theorem harmless_connect (hreply : n.replyOf client = none) :
    Harmless strict .base opens env n (.receive client .connect) := by
  refine harmless_of_safe (b := n.binding) hreply rfl rfl (fun e he => ?_)
    (by simp [Binding.namesUnknown])
  simp only [Binding.handleConnectMessage, List.mem_cons, List.mem_map] at he
  rcases he with rfl | ⟨_, -, rfl⟩ <;> rfl

theorem harmless_connectReply_iff {status : Bool} (hreply : n.replyOf client = none) :
    Harmless strict .base opens env n (.receive client (.connectReply status)) ↔
      (status = true → ∀ key, n.binding.CanConnect env key []) := by
  rw [harmless_of_known hreply rfl rfl, ← Binding.handleConnectReplyMessage_isSome_iff]
  refine clean_setBinding_iff fun b es hb e he => ?_
  obtain ⟨_, _, _, _, rfl⟩ | ⟨_, _, _, -, -, rfl⟩ :=
    (Binding.resumed_of_handleConnectReplyMessage hb).sends e he
  · rfl
  · rfl

theorem harmless_offerService_true_iff (hreply : n.replyOf client = none) :
    Harmless strict .base opens env n (.receive client (.offerService key true)) ↔
      n.binding.CanConnect env key [client] := by
  have hdefined := Binding.handleOfferServiceMessage_isSome_iff env n.binding client key true
  rw [harmless_of_known hreply rfl rfl, ← (hdefined.trans ⟨fun h => h rfl, fun h _ => h⟩)]
  refine clean_setBinding_iff fun b es hb e he => ?_
  rw [Binding.handleOfferServiceMessage_true] at hb
  obtain ⟨_, _, _, rfl⟩ := (Binding.connects_of_maybeSendConnectServiceLocked hb).sends e he
  rfl

theorem harmless_offerService_false_iff (hreply : n.replyOf client = none) :
    Harmless strict .base opens env n (.receive client (.offerService key false)) ↔
      (n.binding.serviceStates.hasConnector key = true → (n.records key).server.isSome = true →
        n.CanNotify key) := by
  have hdefined := (Binding.handleOfferServiceMessage_isSome_iff env n.binding client key
    false).2 (by simp)
  obtain ⟨⟨b, es⟩, hb⟩ := Option.isSome_iff_exists.1 hdefined
  obtain ⟨rfl, hconn, -, hview, -⟩ := Binding.handleOfferServiceMessage_false hb
  have hsome : ((n.binding.view key).state.bind fun s => s.enabledConnector).isSome =
      n.binding.serviceStates.hasConnector key := by
    simp only [Binding.view, ServiceStates.hasConnector]
    cases n.binding.serviceStates.lookup key <;> rfl
  have hinterested : b.interested key = n.binding.interested key :=
    congrArg ServiceView.interested hview
  have hnone : ∀ e ∈ ([] : List (Effect ι)), e.isSafe = true := by simp
  have hiff := clean_perform_disable env { n with binding := b } key
    ((n.binding.view key).state.bind fun s => s.enabledConnector) 2 hnone
  rw [hsome, List.nil_append] at hiff
  simp only [CanNotify, hinterested, hconn] at hiff
  rw [harmless_of_known hreply rfl rfl, CanNotify, ← hiff]
  simp only [onReceiveMessage, hb, Option.map_some, setBinding, Option.some.injEq]
  constructor
  · rintro ⟨_, _, ⟨rfl, rfl⟩, hclean⟩
    exact hclean
  · intro hclean
    exact ⟨_, _, rfl, hclean⟩

theorem isSafe_of_handleRequestServiceMessage {b b' : Binding ι} {inUse : Bool}
    {result : ClientConnectorResult}
    (h : b.handleRequestServiceMessage env client key inUse result = some (b', effects)) :
    ∀ e ∈ effects, e.isSafe = true := by
  intro e he
  cases inUse with
  | false =>
      rw [(Binding.handleRequestServiceMessage_false h).1] at he
      obtain ⟨_, _, _, _, -, -, -, rfl⟩ := Binding.exists_of_mem_unsubscribeEffects he
      rfl
  | true =>
      obtain ⟨-, -, rfl⟩ | ⟨-, -, -, rfl⟩ | ⟨-, -, hcreate⟩ :=
        Binding.handleRequestServiceMessage_true h
      · rw [List.mem_singleton.1 he]
        rfl
      · cases he
      · cases result with
        | failed =>
            rw [(Binding.createClientConnector_failed hcreate).1] at he
            cases he
        | waiting =>
            rw [(Binding.createClientConnector_waiting hcreate).1] at he
            cases he
        | connected counts =>
            rw [(Binding.createClientConnector_connected hcreate).2.1] at he
            obtain ⟨_, -, rfl⟩ := List.mem_map.1 he
            rfl

/-- A request is refused nowhere but where a server is found for it and not every
peer that waits for the service can be told. -/
theorem harmless_requestService_iff {inUse : Bool} (hreply : n.replyOf client = none) :
    Harmless strict .base opens env n (.receive client (.requestService key inUse)) ↔
      (inUse = true → (n.binding.view key).localOffer = false → n.binding.hasOwner key = false →
        (n.records key).client = none → (n.records key).server.isSome = true →
          client ∈ n.binding.connections ∧
            ∀ c ∈ n.binding.interested key, c ∈ n.binding.connections) := by
  have hfound : (∃ counts, n.clientConnectorResult key = .connected counts) ↔
      (n.records key).client = none ∧ (n.records key).server.isSome = true := by
    unfold clientConnectorResult
    cases (n.records key).client <;> cases (n.records key).server <;> simp
  have hdefined := Binding.handleRequestServiceMessage_isSome_iff env n.binding client key inUse
    (n.clientConnectorResult key)
  rw [hfound] at hdefined
  rw [harmless_of_known hreply rfl rfl, ← and_imp (a := (n.records key).client = none), ← hdefined]
  constructor
  · rintro ⟨m, effects, hm, -⟩
    exact Option.isSome_iff_exists.2 ⟨_, (receiveRequest_binding hm).1⟩
  · intro hsome
    obtain ⟨⟨b, es⟩, hb⟩ := Option.isSome_iff_exists.1 hsome
    simp only [onReceiveMessage, receiveRequest, hb, Option.bind_eq_bind, Option.bind_some]
    exact ⟨_, es, rfl, clean_perform_safe 3 (isSafe_of_handleRequestServiceMessage hb)⟩

theorem isFailure_addMapping_iff {b : Binding ι} {ids : Ids} :
    (∀ e ∈ (b.addMapping client ids).2, e.isFailure = false) ↔
      b.CanMap client ids.key ids.localHandle := by
  have hpresent : b.idMapping.isMappingPresent client ids = false ↔
      b.CanMap client ids.key ids.localHandle := by
    simp only [ConnectionMetadata.isMappingPresent, List.any_eq_false, Bool.or_eq_true,
      decide_eq_true_eq, not_or]
    exact forall₂_congr fun _ _ => and_comm
  rw [← hpresent]
  simp only [Binding.addMapping]
  cases b.idMapping.isMappingPresent client ids <;> simp [Effect.isFailure]

theorem clean_perform_inert (depth : Nat) (h : ∀ e ∈ effects, e.isInert = true) :
    Clean (perform env depth n effects) ↔ ∀ e ∈ effects, e.isFailure = false := by
  rw [perform_inert depth h]
  constructor
  · rintro ⟨_, _, ⟨rfl, rfl⟩, hclean⟩
    exact hclean
  · intro hclean
    exact ⟨_, _, rfl, hclean⟩

theorem harmless_connectService_true_iff {requiredId : Nat} {metadata : SharedMemoryMetadata}
    (hreply : n.replyOf client = none) :
    Harmless strict .base opens env n (.receive client (.connectService key requiredId metadata true)) ↔
      (n.binding.serviceStates.lookup key).isSome = true ∧ (env.metadata key).isSome = true ∧
        n.binding.CanMap client key n.binding.nextLocalId := by
  have hdefined := Binding.handleConnectServiceMessage_isSome_iff env n.binding client key
    requiredId metadata true
  have hcalls : ∀ {m : Endpoint ι} {b : Binding ι} {es : List (Effect ι)},
      n.binding.handleConnectServiceMessage env client key requiredId metadata true =
        some (b, es) →
      (Clean (perform env 3 m es) ↔ n.binding.CanMap client key n.binding.nextLocalId) := by
    intro m b es hb
    obtain ⟨localMetadata, state, -, -, -, rfl⟩ := Binding.handleConnectServiceMessage_true hb
    rw [clean_perform_inert 3 fun e he => ?_]
    · simp only [List.forall_mem_append, isFailure_addMapping_iff]
      simp [Env.send, Effect.isFailure, Binding.CanMap]
    · rcases List.mem_append.1 he with he | he
      · exact Binding.isInert_of_mem_addMapping he
      · rw [List.mem_singleton.1 he]
        rfl
  rw [harmless_receive_iff hreply]
  constructor
  · rintro ⟨-, m, es, n', out, hm, hperform, hout, -⟩
    obtain ⟨b, hb, -⟩ := setBinding_eq_some.1 hm
    obtain ⟨hstate, hmetadata⟩ := hdefined.1 (by rw [hb]; rfl) rfl
    exact ⟨hstate, hmetadata, (hcalls hb).1 ⟨n', out, hperform, hout⟩⟩
  · rintro ⟨hstate, hmetadata, hmap⟩
    obtain ⟨⟨b, es⟩, hb⟩ := Option.isSome_iff_exists.1 (hdefined.2 fun _ => ⟨hstate, hmetadata⟩)
    obtain ⟨n', out, hperform, hout⟩ :=
      (hcalls (m := { n with binding := b }) hb).2 hmap
    refine ⟨rfl, _, es, n', out, setBinding_eq_some.2 ⟨b, hb, rfl⟩, hperform, hout, fun _ h => ?_⟩
    simp only [Binding.namesUnknown, Option.isNone_iff_eq_none] at h
    simp [h] at hstate

/-- The first section of the handler of a reply. -/
theorem harmless_connectServiceReply_iff {requiredId providedId : Nat}
    {metadata : SharedMemoryMetadata} {counts : ServiceCounts} (hreply : n.replyOf client = none) :
    Harmless strict .base opens env n
        (.receive client (.connectServiceReply requiredId providedId metadata counts)) ↔
      ∀ key, n.binding.pendingConnects.lookup requiredId = some ⟨key, client⟩ →
        (n.binding.serviceStates.lookup key).isSome = true →
          (env.metadata key).isSome = true ∧ n.binding.CanMap client key providedId := by
  have hdefined := Binding.handleConnectServiceReplyMessage_isSome_iff env n.binding client
    requiredId providedId metadata counts
  rw [harmless_receive_iff hreply]
  constructor
  · rintro ⟨-, m, es, n', out, hm, hperform, hout, -⟩ key hpending hstate
    simp only [onReceiveMessage, Option.bind_eq_bind, Option.bind_eq_some_iff, Prod.exists,
      Option.some.injEq, Prod.mk.injEq] at hm
    obtain ⟨b, _, reply, hb, -, rfl⟩ := hm
    refine ⟨hdefined.1 (by rw [hb]; rfl) key hpending hstate, ?_⟩
    obtain ⟨hnone, -⟩ | ⟨key', hpending', hcases⟩ :=
      Binding.handleConnectServiceReplyMessage_cases hb
    · exact absurd hpending (hnone key)
    · obtain rfl : key = key' := by
        rw [hpending, Option.some.injEq, PendingConnect.mk.injEq] at hpending'
        exact hpending'.1
      obtain ⟨hgone, -⟩ | ⟨state, localMetadata, -, -, -, rfl, -⟩ := hcases
      · simp [show n.binding.serviceStates.lookup key = none from hgone] at hstate
      · have hmap := isFailure_addMapping_iff.1 fun e he => hout e (subset_perform hperform he)
        exact hmap
  · intro htolerates
    obtain ⟨⟨b, es, reply⟩, hb⟩ := Option.isSome_iff_exists.1
      (hdefined.2 fun key hpending hstate => (htolerates key hpending hstate).1)
    have hm : n.onReceiveMessage env client
        (.connectServiceReply requiredId providedId metadata counts) =
          some ({ n with binding := b, replies := n.replies ++ reply.toList }, es) := by
      simp only [onReceiveMessage, hb, Option.bind_eq_bind, Option.bind_some]
    obtain ⟨-, rfl, rfl, -⟩ | ⟨key, hpending, hcases⟩ :=
      Binding.handleConnectServiceReplyMessage_cases hb
    · exact ⟨rfl, _, [], _, [], hm, rfl, by simp, fun _ _ => .refl _⟩
    · have hknown : n.binding.namesUnknown client
          (.connectServiceReply requiredId providedId metadata counts) = false := by
        simp [Binding.namesUnknown, hpending]
      obtain ⟨-, -, rfl, -⟩ | ⟨state, localMetadata, hstate, -, -, rfl, -⟩ := hcases
      · exact ⟨rfl, _, [], _, [], hm, rfl, by simp, by simp [hknown]⟩
      · have hmap := (htolerates key hpending
          (by rw [show n.binding.serviceStates.lookup key = _ from hstate]; rfl)).2
        refine ⟨rfl, _, _, _, _, hm,
          perform_inert 3 fun e he => Binding.isInert_of_mem_addMapping he, ?_, by simp [hknown]⟩
        exact isFailure_addMapping_iff.2 hmap

theorem harmless_subscribeEvent {providedId eventId : Nat} {subscribe : Bool}
    (hreply : n.replyOf client = none) :
    Harmless strict .base opens env n (.receive client (.subscribeEvent providedId eventId subscribe)) := by
  refine harmless_of_safe hreply rfl rfl (fun e he => ?_) fun hunknown => ?_
  · cases hids : n.binding.idMapping.getByLocalHandle client providedId with
    | none =>
        rw [Binding.handleSubscribeEventMessage_none hids] at he
        cases he
    | some ids =>
        rw [(Binding.handleSubscribeEventMessage_some hids).1] at he
        obtain ⟨state, -, he⟩ := List.mem_flatMap.1 he
        obtain ⟨-, rfl⟩ | ⟨-, rfl⟩ := ServiceState.exists_of_mem_updateEventSubscription _ _ _ he
        · rfl
        · rfl
  · simp only [Binding.namesUnknown, Option.isNone_iff_eq_none] at hunknown
    rw [Binding.handleSubscribeEventMessage_none hunknown]
    exact .refl _

theorem harmless_payloadConsumed {requiredId : Nat} {handle : SharedMemoryHandle}
    (hreply : n.replyOf client = none) :
    Harmless strict .base opens env n (.receive client (.payloadConsumed requiredId handle)) := by
  refine harmless_of_safe hreply rfl rfl (fun e he => ?_) fun hunknown => ?_
  · obtain ⟨payload, rfl⟩ := Binding.exists_of_mem_payloadConsumed he
    rfl
  · have hsame : (n.binding.handlePayloadConsumedMessage client requiredId handle).1 =
        n.binding := by
      simp only [Binding.namesUnknown] at hunknown
      unfold Binding.handlePayloadConsumedMessage
      cases hids : n.binding.idMapping.getByRemoteHandle client requiredId with
      | none => rfl
      | some ids =>
          simp only [hids, Option.all_some, decide_eq_true_eq] at hunknown
          simp [Allocations.payloadConsumed_of_length_le hunknown]
    rw [hsame]
    exact .refl _

theorem disconnectService_calls (b : Binding ι) (client : ι) (key : Key) (requiredId : Nat) :
    ∃ calls, (b.disconnectService client key requiredId).2 =
        calls ++ ((b.view key).state.getD {}).clientConnector.toList.map
          (.destroyClientConnector key) ∧
      ∀ e ∈ calls, e.isSafe = true := by
  have hconnector : ((b.view key).state.bind fun s => s.clientConnector) =
      ((b.view key).state.getD {}).clientConnector := by
    cases (b.view key).state <;> rfl
  rw [Binding.disconnectService_effects, hconnector]
  refine ⟨_, rfl, fun e he => ?_⟩
  obtain ⟨_, rfl⟩ := Binding.exists_of_mem_droppedSubscriptions he
  rfl

/-- Ending a connection takes down the client connector of the service, and with a
bridged one everything that is held for the service. -/
theorem harmless_connectService_false_iff {requiredId : Nat} {metadata : SharedMemoryMetadata}
    (hreply : n.replyOf client = none) :
    Harmless strict .base opens env n
        (.receive client (.connectService key requiredId metadata false)) ↔ (strict = true →
      (n.binding.serviceStates.lookup key = none →
        n.binding.idMapping.getByRemoteHandle client requiredId = none) ∧
      (n.binding.idMapping.getByRemoteHandle client requiredId = none →
        ((n.binding.view key).state.getD {}).clientConnector = some ⟨true⟩ →
          n.binding.HoldsNothing key)) := by
  have hremoved : (n.binding.disconnectService client key
      requiredId).1.serviceStates.hasClientConnector key = false := by
    rw [Binding.hasClientConnector_eq, Binding.disconnectService_view]
    cases (n.binding.view key).state <;> rfl
  obtain ⟨calls, hcalls, hsafe⟩ := disconnectService_calls n.binding client key requiredId
  obtain ⟨n', out, hperform, hout, hbinding⟩ := perform_destroyClient env
    ((n.binding.view key).state.getD {}).clientConnector
    (n := { n with binding := (n.binding.disconnectService client key requiredId).1 }) hsafe
    hremoved
  rw [← hcalls] at hperform
  have hiff : Harmless strict .base opens env n
      (.receive client (.connectService key requiredId metadata false)) ↔
        (strict = true →
          n.binding.namesUnknown client (.connectService key requiredId metadata false) = true →
            n.binding.Unchanged n'.binding) := by
    have hmsg : n.onReceiveMessage env client (.connectService key requiredId metadata false) =
        some ({ n with binding := (n.binding.disconnectService client key requiredId).1 },
          (n.binding.disconnectService client key requiredId).2) := rfl
    rw [harmless_receive_iff hreply]
    constructor
    · rintro ⟨-, m, es, n'', out', hm, hperform', -, hunknown⟩
      rw [hmsg, Option.some.injEq, Prod.mk.injEq] at hm
      obtain ⟨rfl, rfl⟩ := hm
      rw [hperform, Option.some.injEq, Prod.mk.injEq] at hperform'
      rw [hperform'.1]
      exact hunknown
    · intro hunknown
      exact ⟨rfl, _, _, n', out, hmsg, hperform, hout, hunknown⟩
  rw [hiff, hbinding]
  refine forall_congr' fun _ => ?_
  simp only [Binding.namesUnknown, Bool.or_eq_true, Option.isNone_iff_eq_none]
  cases hstate : n.binding.serviceStates.lookup key with
  | none =>
      have hnone : (n.binding.view key).state = none := hstate
      simp [hnone, Binding.unchanged_disconnectService_iff]
  | some state =>
      simp only [reduceCtorEq, false_or, false_implies, true_and]
      refine forall_congr' fun hhandle => ?_
      have hsame : n.binding.Unchanged (n.binding.disconnectService client key requiredId).1 :=
        Binding.unchanged_disconnectService_iff.2 hhandle
      split
      next hbridged =>
        simp only [hbridged, true_implies]
        constructor
        · intro h
          exact (Binding.unchanged_unrequested_iff.1 (hsame.symm.trans h)).of_unchanged hsame.symm
        · intro h
          exact hsame.trans (Binding.unchanged_unrequested_iff.2 (h.of_unchanged hsame))
      next hbridged => simpa [hbridged] using hsame

/-! ## Event updates -/

theorem isFailure_eventUpdates_iff (env : Env ι) (b : Binding ι) (key : Key) (eventId : Nat)
    (payload : Payload ι) (targets : List (ι × Ids)) :
    (∀ e ∈ (b.eventUpdates env key eventId payload targets).1, e.isFailure = false) ↔
      ∀ target ∈ targets, target.1 ∈ b.connections := by
  induction targets with
  | nil => simp [Binding.eventUpdates]
  | cons target rest ih =>
      obtain ⟨c, ids⟩ := target
      rw [List.forall_mem_cons, ← ih]
      by_cases hc : c ∈ b.connections
      · simp only [Binding.eventUpdates, hc, if_true, List.forall_mem_cons, true_and]
        exact and_iff_right rfl
      · simp [Binding.eventUpdates, hc, Effect.isFailure]

theorem isSafe_of_mem_eventUpdates {b : Binding ι} {eventId : Nat} {payload : Payload ι}
    {targets : List (ι × Ids)} {e : Effect ι}
    (he : e ∈ (b.eventUpdates env key eventId payload targets).1) (hclean : e.isFailure = false) :
    e.isSafe = true := by
  obtain ⟨_, _, -, -, rfl⟩ | rfl := Binding.mem_eventUpdates he
  · rfl
  · cases hclean

/-- A slot of a pool with a 64-bit slot count is accounted for. -/
theorem clean_socomUpdate_iff (env : Env ι) {eventId : Nat} {payload : Payload ι} (depth : Nat)
    (hslot : payload.slotHandle + 1 < 2 ^ 64) :
    (∃ u caused, n.socomUpdate env key eventId payload = some (u, caused) ∧
        Clean (perform env depth u caused)) ↔
      (eventId ∈ (n.records key).subscribed → (n.records key).client = some .bridge →
        ∀ target ∈ n.binding.idMapping.forEachClient key, target.1 ∈ n.binding.connections) := by
  have hrelease : ∀ m : Endpoint ι, Clean (perform env depth m [.releasePayload payload]) :=
    fun m => clean_perform_safe depth (by simp [Effect.isSafe])
  simp only [socomUpdate]
  by_cases hsubscribed : eventId ∈ (n.records key).subscribed
  · simp only [hsubscribed, if_true, true_implies]
    cases hclient : (n.records key).client with
    | none => exact iff_of_true ⟨_, _, rfl, hrelease n⟩ (by simp)
    | some c =>
        cases c with
        | application bridged =>
            exact iff_of_true ⟨_, [], rfl, clean_perform_safe depth (by simp)⟩ (by simp)
        | bridge =>
            obtain ⟨⟨table, more⟩, hinsert⟩ := Option.isSome_iff_exists.1
              (Allocations.insertAllocation_isSome n.binding.allocations key
                (n.binding.eventUpdates env key eventId payload
                  (n.binding.idMapping.forEachClient key)).2 hslot)
            have hsend := Binding.sendEventUpdate_eq_some.2 ⟨table, more, hinsert, rfl, rfl⟩
            rw [hsend, ← isFailure_eventUpdates_iff env n.binding key eventId payload]
            simp only [Option.map_some, setBinding, Option.some.injEq, Prod.mk.injEq, true_implies]
            constructor
            · rintro ⟨_, _, ⟨rfl, rfl⟩, n', out, hperform, hout⟩ e he
              exact hout e (subset_perform hperform (List.mem_append_left _ he))
            · intro hclean
              refine ⟨_, _, ⟨rfl, rfl⟩, clean_perform_safe depth fun e he => ?_⟩
              rcases List.mem_append.1 he with he | he
              · exact isSafe_of_mem_eventUpdates he (hclean e he)
              · obtain ⟨_, rfl⟩ := Allocations.exists_of_mem_insertAllocation hinsert he
                rfl
  · simp only [hsubscribed, if_false, false_implies, iff_true]
    exact ⟨_, _, rfl, hrelease n⟩

theorem clean_updateEvent_iff {eventId : Nat} {payload : Payload ι}
    {connector : EnabledConnector ι} (depth : Nat) (hslot : payload.slotHandle + 1 < 2 ^ 64) :
    Clean (perform env (depth + 1) n [.updateEvent key connector eventId payload]) ↔
      eventId < connector.counts.numEvents ∧
      (eventId ∈ (n.records key).subscribed → (n.records key).client = some .bridge →
        ∀ target ∈ n.binding.idMapping.forEachClient key, target.1 ∈ n.binding.connections) := by
  rw [← clean_socomUpdate_iff env depth hslot]
  constructor
  · rintro ⟨n', out, hperform, hout⟩
    obtain ⟨u, caused, v, more, last, hone, hmore, -, rfl⟩ := perform_cons_eq_some.1 hperform
    have hclean : ∀ e ∈ more, e.isFailure = false := fun e he => hout e (by simp [he])
    simp only [performOne] at hone
    split at hone
    · cases hone
      -- the assertion on the result of `update_event`
      have hfailed : (Effect.assertFailed .updateEventFailed : Effect ι).isFailure = false :=
        hclean _ (subset_perform hmore (by simp))
      cases hfailed
    next hevent => exact ⟨by omega, u, caused, hone, v, more, hmore, hclean⟩
  · rintro ⟨hevent, u, caused, hone, v, more, hmore, hclean⟩
    have hfirst : n.performOne env (.updateEvent key connector eventId payload) =
        some (u, caused) := by
      rw [performOne, if_neg (by omega)]
      exact hone
    refine ⟨v, _, perform_cons_eq_some.2 ⟨u, caused, v, more, [], hfirst, hmore, rfl, rfl⟩,
      fun e he => ?_⟩
    simp only [List.append_nil, List.mem_cons] at he
    rcases he with rfl | he
    · rfl
    · exact hclean e he

theorem handleEventUpdateMessage_slot {b b' : Binding ι} {requiredId eventId : Nat}
    {handle : SharedMemoryHandle} {ids : Ids} {state : ServiceState ι}
    {connector : EnabledConnector ι}
    (h : b.handleEventUpdateMessage client requiredId eventId handle = some (b', effects))
    (hids : b.idMapping.getByRemoteHandle client requiredId = some ids)
    (hstate : b.serviceStates.lookup ids.key = some state)
    (hconnector : state.enabledConnector = some connector) :
    handle.slotIndex < (b.pool ids).slotCount := by
  simp only [Binding.handleEventUpdateMessage, hids, hstate, hconnector] at h
  split at h
  · cases h
  next hle => simpa [Binding.pool] using hle

theorem handleEventUpdateMessage_of_connector {b : Binding ι} {requiredId : Nat} (eventId : Nat)
    {handle : SharedMemoryHandle} {ids : Ids} {state : ServiceState ι}
    {connector : EnabledConnector ι}
    (hids : b.idMapping.getByRemoteHandle client requiredId = some ids)
    (hstate : b.serviceStates.lookup ids.key = some state)
    (hconnector : state.enabledConnector = some connector)
    (hslot : handle.slotIndex < (b.pool ids).slotCount) :
    ∃ managers usedBytes, b.handleEventUpdateMessage client requiredId eventId handle =
      some ({ b with readOnlyManagers := managers },
        [.updateEvent ids.key connector eventId
          ⟨handle.slotIndex, usedBytes, some ⟨client, requiredId, handle, ids.key⟩⟩]) := by
  have hle : ¬ (b.readOnlyManagers.getReadOnlySharedMemorySlotManager
      ids.remoteMetadata).1.slotCount ≤ handle.slotIndex := by
    simpa [Binding.pool] using hslot
  simp only [Binding.handleEventUpdateMessage, hids, hstate, hconnector, hle, if_false]
  exact ⟨_, _, rfl⟩

theorem harmless_eventUpdate_iff {requiredId eventId : Nat} {handle : SharedMemoryHandle}
    (hreply : n.replyOf client = none)
    (hpool : ∀ ids, n.binding.idMapping.getByRemoteHandle client requiredId = some ids →
      (n.binding.pool ids).slotCount < 2 ^ 64) :
    Harmless strict .base opens env n (.receive client (.eventUpdate requiredId eventId handle)) ↔
      n.ToleratesMessage strict opens env client (.eventUpdate requiredId eventId handle) := by
  have hwide : ∀ ids, n.binding.idMapping.getByRemoteHandle client requiredId = some ids →
      handle.slotIndex < (n.binding.pool ids).slotCount → handle.slotIndex + 1 < 2 ^ 64 := by
    intro ids hids hslot
    have := hpool ids hids
    omega
  rw [harmless_receive_iff hreply]
  constructor
  · rintro ⟨hopens, m, es, n', out, hm, hperform, hout, -⟩ ids hids
    obtain ⟨b, hb, rfl⟩ := setBinding_eq_some.1 hm
    obtain ⟨hnone, -⟩ | ⟨ids', state, hids', hstate, hcases⟩ :=
      Binding.handleEventUpdateMessage_effects hb
    · simp [hids] at hnone
    obtain rfl : ids = ids' := by simpa [hids] using hids'
    obtain ⟨-, rfl⟩ | ⟨connector, usedBytes, hconnector, rfl⟩ := hcases
    · cases hout _ (subset_perform hperform List.mem_cons_self)
    have hslot := handleEventUpdateMessage_slot hb hids hstate hconnector
    obtain ⟨hevent, htargets⟩ :=
      (clean_updateEvent_iff 2 (hwide ids hids hslot)).1 ⟨n', out, hperform, hout⟩
    rw [Binding.handleEventUpdateMessage_frame hb] at htargets
    exact ⟨hopens, hslot, ⟨state, connector, hstate, hconnector, hevent⟩, htargets⟩
  · intro htolerates
    cases hids : n.binding.idMapping.getByRemoteHandle client requiredId with
    | none =>
        have hmsg : n.binding.handleEventUpdateMessage client requiredId eventId handle =
            some (n.binding, []) := by
          simp [Binding.handleEventUpdateMessage, hids]
        refine ⟨by simp [Binding.opensPool, hids], n, [], n, [], ?_, rfl, by simp,
          fun _ _ => .refl _⟩
        exact setBinding_eq_some.2 ⟨n.binding, hmsg, rfl⟩
    | some ids =>
        obtain ⟨hopens, hslot, ⟨state, connector, hstate, hconnector, hevent⟩, htargets⟩ :=
          htolerates ids hids
        obtain ⟨managers, usedBytes, hb⟩ :=
          handleEventUpdateMessage_of_connector eventId hids hstate hconnector hslot
        have hclean : Clean (perform env 3
            { n with binding := { n.binding with readOnlyManagers := managers } }
            [.updateEvent ids.key connector eventId
              ⟨handle.slotIndex, usedBytes, some ⟨client, requiredId, handle, ids.key⟩⟩]) :=
          (clean_updateEvent_iff 2 (hwide ids hids hslot)).2 ⟨hevent, htargets⟩
        obtain ⟨n', out, hperform, hout⟩ := hclean
        refine ⟨hopens, _, _, n', out, setBinding_eq_some.2 ⟨_, hb, rfl⟩, hperform, hout,
          fun _ hunknown => ?_⟩
        simp only [Binding.namesUnknown, hids, Option.all_some, decide_eq_true_eq] at hunknown
        omega

/-- The second section of the handler of a reply. -/
theorem harmless_finishReply_iff {reply : PendingReply ι} (hreply : n.replyOf client = some reply) :
    Harmless strict role opens env n (.finishReply client) ↔ reply ∉ n.dangling ∧
      ((n.records reply.key).server = none ∧ reply.key ∉ n.made) ∧ n.CanNotify reply.key := by
  have hact : n.act env (.finishReply client) = n.finishReply env reply := by
    simp [act, hreply]
  have hiff : Harmless strict role opens env n (.finishReply client) ↔
      ∃ m es, n.finishReply env reply = some (m, es) ∧ Clean (perform env 3 m es) := by
    rw [← hact, ← clean_step_iff]
    constructor
    · rintro ⟨n', out, hstep, hout, -⟩
      exact ⟨n', out, hstep, hout⟩
    · rintro ⟨n', out, hstep, hout⟩
      refine ⟨n', out, hstep, hout, ?_⟩
      rintro - _ _ ⟨⟩
  have hnotify := notifyClient_isSome_iff env
    ({ n with replies := n.replies.erase reply }.setRecord reply.key
      { n.records reply.key with server := some (.bridge reply.connector) })
    reply.key true reply.connector.counts
  have hsame : ({ n with replies := n.replies.erase reply }.setRecord reply.key
      { n.records reply.key with server := some (.bridge reply.connector) }).CanNotify reply.key ↔
        n.CanNotify reply.key := by
    simp [CanNotify]
  rw [hiff]
  constructor
  · rintro ⟨m, es, hm, n', out, hperform, hout⟩
    refine ⟨fun hdangling => by simp [finishReply, hdangling] at hm, ?_⟩
    obtain ⟨-, -, rfl⟩ | ⟨hfree, u, offers, hu, -⟩ := finishReply_cases hm
    · cases hout _ (subset_perform hperform List.mem_cons_self)
    · exact ⟨hfree, hsame.1 (hnotify.1 (by rw [hu]; rfl))⟩
  · rintro ⟨hdangling, ⟨hserver, hmade⟩, hcan⟩
    obtain ⟨⟨u, offers⟩, hu⟩ := Option.isSome_iff_exists.1 (hnotify.2 (hsame.2 hcan))
    have hu' := canNotify_of_notifyClient hu (hsame.2 hcan)
    simp only [finishReply, hdangling, hserver, hmade, Option.isSome_none, Bool.false_eq_true,
      or_self, if_false, Option.bind_eq_bind, hu, Option.bind_some]
    refine ⟨_, _, rfl, (clean_perform_disable env _ reply.key _ 2
      (isSafe_of_notifyClient hu)).2 fun _ _ => ?_⟩
    exact hu'

theorem harmless_base_iff_of_pools
    (hpools : n.binding.Pools fun metadata => metadata.slotCount < 2 ^ 64) {msg : Message}
    (hreply : n.replyOf client = none) :
    Harmless strict .base opens env n (.receive client msg) ↔
      n.ToleratesMessage strict opens env client msg := by
  cases msg with
  | connect => exact iff_of_true (harmless_connect hreply) trivial
  | connectReply status => exact harmless_connectReply_iff hreply
  | requestService key inUse => exact harmless_requestService_iff hreply
  | offerService key offered =>
      cases offered with
      | true => exact harmless_offerService_true_iff hreply
      | false => exact harmless_offerService_false_iff hreply
  | connectService key requiredId metadata inUse =>
      cases inUse with
      | true => exact harmless_connectService_true_iff hreply
      | false => exact harmless_connectService_false_iff hreply
  | connectServiceReply requiredId providedId metadata counts =>
      exact harmless_connectServiceReply_iff hreply
  | subscribeEvent providedId eventId subscribe =>
      exact iff_of_true (harmless_subscribeEvent hreply) trivial
  | eventUpdate requiredId eventId handle =>
      exact harmless_eventUpdate_iff hreply fun ids hids => hpools.pool hids
  | payloadConsumed requiredId handle =>
      exact iff_of_true (harmless_payloadConsumed hreply) trivial

/-! ## The roles -/

theorem handle_accept (role : Role) {msg : Message} :
    n.handle role opens env (.receive client msg) =
      ((n.accept role client msg).1.handle .base opens env (.receive client msg)).map
        fun r => (r.1, (n.accept role client msg).2 ++ r.2) := by
  have hbase : ∀ m : Endpoint ι, m.accept .base client msg = (m, []) := fun _ => rfl
  simp only [handle, hbase]
  split
  · simp
  · rfl

theorem accept_of_namesUnknown (n : Endpoint ι) (role : Role) {msg : Message} {b : Binding ι}
    (h : b.namesUnknown client msg = true) : (n.accept role client msg).1 = n := by
  unfold accept
  split
  · cases h
  · rfl
  · rfl

/-- The base handles the message at the endpoint that the role leaves to it. -/
theorem harmless_accept_iff {msg : Message} :
    Harmless strict role opens env n (.receive client msg) ↔
      (∀ e ∈ (n.accept role client msg).2, e.isFailure = false) ∧
        Harmless strict .base opens env (n.accept role client msg).1 (.receive client msg) := by
  simp only [Harmless, handle_accept role, Option.map_eq_some_iff, Prod.exists,
    Prod.mk.injEq]
  constructor
  · rintro ⟨n', _, ⟨_, out, hbase, rfl, rfl⟩, hout, hstrict⟩
    rw [List.forall_mem_append] at hout
    refine ⟨hout.1, _, out, hbase, hout.2, ?_⟩
    rintro h _ _ ⟨⟩ hunknown
    rw [accept_of_namesUnknown n role hunknown] at hunknown ⊢
    exact hstrict h client msg rfl hunknown
  · rintro ⟨haccept, n', out, hbase, hout, hstrict⟩
    refine ⟨n', _, ⟨n', out, hbase, rfl, rfl⟩, List.forall_mem_append.2 ⟨haccept, hout⟩, ?_⟩
    rintro h _ _ ⟨⟩ hunknown
    rw [accept_of_namesUnknown n role hunknown] at hstrict
    exact hstrict h client msg rfl hunknown

theorem isFailure_accept_iff {msg : Message} :
    (∀ e ∈ (n.accept role client msg).2, e.isFailure = false) ↔
      (role = .client → ∀ status, msg = .connectReply status →
        status = true ∧ client ∉ n.binding.connections) := by
  cases role with
  | client =>
      cases msg with
      | connectReply status =>
          cases status with
          | true =>
              by_cases hclient : client ∈ n.binding.connections
              · simp [accept, setBinding, Binding.addClient, hclient, Effect.isFailure]
              · simp [accept, setBinding, Binding.addClient, hclient]
          | false => simp [accept, Effect.isFailure]
      | connect | requestService | offerService | connectService | connectServiceReply
      | subscribeEvent | eventUpdate | payloadConsumed => simp [accept]
  | server | base => simp [accept]

theorem harmless_iff_of_pools
    (hpools : n.binding.Pools fun metadata => metadata.slotCount < 2 ^ 64)
    {minor : Socom.RecordKey → Nat} {event : Event ι} (hdue : n.handles minor event = true) :
    Harmless strict role opens env n event ↔ Tolerates strict role opens env n event := by
  cases event with
  | receive client msg =>
      simp only [handles, Bool.and_eq_true, Option.isNone_iff_eq_none] at hdue
      have hmet : (n.accept role client msg).1.binding.Pools
            (fun metadata => metadata.slotCount < 2 ^ 64) ∧
          (n.accept role client msg).1.replyOf client = none := by
        unfold accept
        split
        · exact ⟨⟨hpools.mapped, hpools.opened⟩, hdue.1⟩
        · exact ⟨hpools, hdue.1⟩
        · exact ⟨hpools, hdue.1⟩
      rw [harmless_accept_iff, isFailure_accept_iff, harmless_base_iff_of_pools hmet.1 hmet.2]
      rfl
  | finishReply client =>
      obtain ⟨reply, hreply⟩ : ∃ reply, n.replyOf client = some reply := by
        simpa [handles, Option.isSome_iff_exists] using hdue
      rw [harmless_finishReply_iff hreply, Tolerates, hreply]
      simp
  | makeClientConnector | destroyClientConnector | makeServerConnector | destroyServerConnector
  | enableServerConnector | disableServerConnector | subscribeEvent | unsubscribeEvent | updateEvent
  | dropPayload | addClient | removeClient => cases hdue

/-! ## Every reachable state -/

omit [DecidableEq ι] in
theorem maps_of_hasWireSlots {event : Event ι} (h : event.hasWireSlots = true) :
    event.isFrom fun _ msg => msg.maps fun ids => ids.remoteMetadata.slotCount < 2 ^ 64 := by
  cases event with
  | receive client msg =>
      cases msg with
      | connectService key requiredId metadata inUse =>
          cases inUse with
          | true => exact fun _ _ => of_decide_eq_true h
          | false => trivial
      | connectServiceReply => exact fun _ _ => of_decide_eq_true h
      | connect | connectReply | requestService | offerService | subscribeEvent | eventUpdate
      | payloadConsumed => trivial
  | makeClientConnector | destroyClientConnector | makeServerConnector | destroyServerConnector
  | enableServerConnector | disableServerConnector | subscribeEvent | unsubscribeEvent | updateEvent
  | dropPayload | addClient | removeClient | finishReply => trivial

theorem pools_of_isRegular {minor : Socom.RecordKey → Nat}
    (hreach : ReachableVia (fun _ label => label.2.isRegular minor = true) n) :
    n.binding.Pools fun metadata => metadata.slotCount < 2 ^ 64 := by
  refine (Binding.pools_rule _).reachable (Binding.pools_init _) (hreach.mono fun _ _ h => ?_)
  exact maps_of_hasWireSlots (Bool.and_eq_true_iff.1 h).1

end Endpoint

end SomeipGateway
