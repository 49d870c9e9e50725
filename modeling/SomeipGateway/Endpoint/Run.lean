import SomeipGateway.Lib.Run
import SomeipGateway.Endpoint.Perform

/-! # Runs of an endpoint

Every step may meet its own transport and slot configuration, so a label of a run
is an environment and an event. The outcomes of every part of a step are listed
once here; later proofs go through them.
-/

namespace SomeipGateway

namespace Endpoint

variable {ι : Type} [DecidableEq ι]

def next (n : Endpoint ι) (label : Env ι × Event ι) : Option (Endpoint ι) :=
  (n.step label.1 label.2).map Prod.fst

/-- The states that an endpoint reaches from its construction when every step is
allowed by `ok`. -/
def ReachableVia (ok : Endpoint ι → Env ι × Event ι → Prop) (n : Endpoint ι) : Prop :=
  Reach next ok {} n

def Reachable (n : Endpoint ι) : Prop :=
  ReachableVia (fun _ _ => True) n

theorem ReachableVia.reachable {ok : Endpoint ι → Env ι × Event ι → Prop} {n : Endpoint ι}
    (h : ReachableVia ok n) : Reachable n :=
  Reach.mono (fun _ _ _ => trivial) h

variable {env : Env ι} {n n' : Endpoint ι} {effects out : List (Effect ι)} {key : Key}

omit [DecidableEq ι] in
@[simp] theorem binding_setRecord (record : Record ι) :
    (n.setRecord key record).binding = n.binding := rfl

omit [DecidableEq ι] in
@[simp] theorem replies_setRecord (record : Record ι) :
    (n.setRecord key record).replies = n.replies := rfl

omit [DecidableEq ι] in
@[simp] theorem payloads_setRecord (record : Record ι) :
    (n.setRecord key record).payloads = n.payloads := rfl

omit [DecidableEq ι] in
@[simp] theorem records_setRecord (record : Record ι) :
    (n.setRecord key record).records = Function.update n.records key record := rfl

/-! ## The callbacks of SOCom -/

omit [DecidableEq ι] in
theorem setBinding_eq_some {r : Option (Binding ι × List (Effect ι))} :
    r.map n.setBinding = some (n', effects) ↔
      ∃ b, r = some (b, effects) ∧ n' = { n with binding := b } := by
  constructor
  · intro h
    obtain ⟨⟨b, es⟩, hr, heq⟩ := Option.map_eq_some_iff.1 h
    cases heq
    exact ⟨b, hr, rfl⟩
  · rintro ⟨b, rfl, rfl⟩
    rfl

theorem notifyClient_cases {isAvailable : Bool} {counts : ServiceCounts}
    (h : n.notifyClient env key isAvailable counts = some (n', effects)) :
    (n.records key).client ≠ some .bridge ∧ n' = n ∧ effects = [] ∨
    (n.records key).client = some .bridge ∧
      ∃ b, n.binding.serviceStateChange env key isAvailable counts = some (b, effects) ∧
        n' = { n with binding := b } := by
  unfold notifyClient at h
  split at h
  next hclient => exact .inr ⟨hclient, setBinding_eq_some.1 h⟩
  next hclient =>
    cases h
    exact .inl ⟨hclient, rfl, rfl⟩

/-- A payload is dropped at once, kept by the application, or sent on. -/
theorem socomUpdate_cases {eventId : Nat} {payload : Payload ι}
    (h : n.socomUpdate env key eventId payload = some (n', effects)) :
    n' = n ∧ effects = [.releasePayload payload] ∨
    (n.records key).client ≠ some .bridge ∧ n' = { n with payloads := n.payloads ++ [payload] } ∧
      effects = [] ∨
    (n.records key).client = some .bridge ∧
      ∃ b, n.binding.sendEventUpdate env key eventId payload = some (b, effects) ∧
        n' = { n with binding := b } := by
  simp only [socomUpdate] at h
  split at h
  · split at h
    · cases h
      exact .inl ⟨rfl, rfl⟩
    next hclient =>
      cases h
      exact .inr (.inl ⟨by simp [hclient], rfl, rfl⟩)
    next hclient => exact .inr (.inr ⟨hclient, setBinding_eq_some.1 h⟩)
  · cases h
    exact .inl ⟨rfl, rfl⟩

theorem disableServer_cases (h : n.disableServer env key = some (n', effects)) :
    (n.records key).server = none ∧ n' = n ∧ effects = [] ∨
    ∃ server, (n.records key).server = some server ∧
      (n.setRecord key { n.records key with server := none, subscribed := ∅ }).notifyClient env
        key false server.counts = some (n', effects) := by
  unfold disableServer at h
  split at h
  next hserver =>
    cases h
    exact .inl ⟨hserver, rfl, rfl⟩
  next server hserver => exact .inr ⟨server, hserver, h⟩

theorem destroyClient_cases {bridged : Bool}
    (h : n.destroyClient env key bridged = some (n', effects)) :
    ∃ b caused,
      n' = { n.setRecord key { n.records key with client := none, subscribed := ∅ } with
        binding := b, dangling := n.dangling ++ n.erased b } ∧
      effects = n.unsubscribeAll env key ++ caused ∧
      (bridged = false ∧ b = n.binding ∧ caused = [] ∨
        bridged = true ∧ n.binding.sendRequestService env key {} false = some (b, caused)) := by
  simp only [destroyClient, Option.bind_eq_bind, Option.bind_eq_some_iff, Prod.exists,
    Option.some.injEq, Prod.mk.injEq] at h
  obtain ⟨b, caused, hb, rfl, rfl⟩ := h
  refine ⟨b, caused, rfl, rfl, ?_⟩
  cases bridged with
  | false =>
      cases hb
      exact .inl ⟨rfl, rfl, rfl⟩
  | true => exact .inr ⟨rfl, hb⟩

theorem finishReply_cases {reply : PendingReply ι}
    (h : n.finishReply env reply = some (n', effects)) :
    ((n.records reply.key).server.isSome = true ∨ reply.key ∈ n.made) ∧
        n' = { n with replies := n.replies.erase reply } ∧
        effects = [.assertFailed .serverConnectorFailed] ∨
    ((n.records reply.key).server = none ∧ reply.key ∉ n.made) ∧ ∃ m offers,
      ({ n with replies := n.replies.erase reply }.setRecord reply.key
        { n.records reply.key with server := some (.bridge reply.connector) }).notifyClient env
          reply.key true reply.connector.counts = some (m, offers) ∧
      n' =
        { m with
          binding :=
            { m.binding with
              serviceStates :=
                (m.binding.serviceStates.addServerConnector reply.key reply.connector).1 } } ∧
      effects = offers ++
        (m.binding.serviceStates.addServerConnector reply.key reply.connector).2.toList.map
          (.destroyServerConnector reply.key) := by
  simp only [finishReply] at h
  split at h
  · cases h
  · split at h
    next hheld =>
      cases h
      exact .inl ⟨hheld, rfl, rfl⟩
    next hfree =>
      simp only [Option.bind_eq_bind, Option.bind_eq_some_iff, Prod.exists, Option.some.injEq,
        Prod.mk.injEq] at h
      obtain ⟨m, offers, hm, rfl, rfl⟩ := h
      exact .inr ⟨by simpa [not_or] using hfree, m, offers, hm, rfl, rfl⟩

/-- Whatever a request does to the record, its handler decides the rest. -/
theorem receiveRequest_binding {client : ι} {inUse : Bool}
    (h : n.receiveRequest env client key inUse = some (n', effects)) :
    n.binding.handleRequestServiceMessage env client key inUse (n.clientConnectorResult key) =
        some (n'.binding, effects) ∧
      n'.replies = n.replies ∧ n'.payloads = n.payloads := by
  simp only [receiveRequest, Option.bind_eq_bind, Option.bind_eq_some_iff, Prod.exists,
    Option.some.injEq, Prod.mk.injEq] at h
  obtain ⟨b, es, hb, rfl, rfl⟩ := h
  refine ⟨hb, ?_, ?_⟩ <;>
  · simp only
    split <;> rfl

/-- An un-request registers no client. -/
theorem receiveRequest_false {client : ι}
    (h : n.receiveRequest env client key false = some (n', effects)) :
    ∃ b, n.binding.handleRequestServiceMessage env client key false
        (n.clientConnectorResult key) = some (b, effects) ∧ n' = { n with binding := b } := by
  simp only [receiveRequest, Option.bind_eq_bind, Option.bind_eq_some_iff, Prod.exists,
    Option.some.injEq, Prod.mk.injEq] at h
  obtain ⟨b, es, hb, rfl, rfl⟩ := h
  have hsame : b.serviceStates.hasClientConnector key =
      n.binding.serviceStates.hasClientConnector key := by
    change (b.view key).state.any _ = (n.binding.view key).state.any _
    rw [(Binding.handleRequestServiceMessage_false hb).2.1]
    cases (n.binding.view key).state <;> rfl
  refine ⟨b, hb, ?_⟩
  simp [hsame]

/-- The outcomes of a peer's request. The last three are those of
`make_client_connector`; in two of them the bridge becomes the client. -/
theorem receiveRequest_true {client : ι}
    (h : n.receiveRequest env client key true = some (n', effects)) :
    (n.binding.view key).localOffer = true ∧
        n' = { n with binding := n.binding.withInterested key client } ∧
        effects = [env.send client (some key) (.offerService key true)] ∨
    (n.binding.view key).localOffer = false ∧ n.binding.hasOwner key = true ∧
        n' = { n with binding := n.binding.withInterested key client } ∧ effects = [] ∨
    (n.binding.view key).localOffer = false ∧ n.binding.hasOwner key = false ∧ ∃ b,
      ((n.records key).client.isSome = true ∧
          (n.binding.withInterested key client).createClientConnector env key .failed =
            some (b, effects) ∧ n' = { n with binding := b } ∨
        (∃ server, (n.records key).client = none ∧ (n.records key).server = some server ∧
          (n.binding.withInterested key client).createClientConnector env key
            (.connected server.counts) = some (b, effects) ∧
          n' = { n.setRecord key { n.records key with client := some .bridge } with
            binding := b }) ∨
        (n.records key).client = none ∧ (n.records key).server = none ∧
          (n.binding.withInterested key client).createClientConnector env key .waiting =
            some (b, effects) ∧
          n' = { n.setRecord key { n.records key with client := some .bridge } with
            binding := b }) := by
  simp only [receiveRequest, Option.bind_eq_bind, Option.bind_eq_some_iff, Prod.exists,
    Option.some.injEq, Prod.mk.injEq] at h
  obtain ⟨b, es, hb, rfl, rfl⟩ := h
  obtain ⟨hlocal, rfl, rfl⟩ | ⟨hlocal, howner, rfl, rfl⟩ | ⟨hlocal, howner, hcreate⟩ :=
    Binding.handleRequestServiceMessage_true hb
  · refine .inl ⟨hlocal, ?_, rfl⟩
    simp [Binding.withInterested]
  · refine .inr (.inl ⟨hlocal, howner, ?_, rfl⟩)
    simp [Binding.withInterested]
  · have hbefore : n.binding.serviceStates.hasClientConnector key = false := by
      simp only [Binding.hasOwner, Bool.or_eq_false_iff] at howner
      exact howner.1.1
    refine .inr (.inr ⟨hlocal, howner, b, ?_⟩)
    cases hclient : (n.records key).client with
    | some c =>
        have hresult : n.clientConnectorResult key = .failed := by
          simp [clientConnectorResult, hclient]
        rw [hresult] at hcreate
        refine .inl ⟨rfl, hcreate, ?_⟩
        have hafter : b.serviceStates.hasClientConnector key = false := by
          change (b.view key).state.any _ = false
          rw [(Binding.createClientConnector_failed hcreate).2.2.2.1, Binding.view_withInterested]
          change (n.binding.view key).state.any _ = false at hbefore
          cases hstate : (n.binding.view key).state <;> simp_all
        simp [hafter]
    | none =>
        cases hserver : (n.records key).server with
        | some server =>
            have hresult : n.clientConnectorResult key = .connected server.counts := by
              simp [clientConnectorResult, hclient, hserver]
            rw [hresult] at hcreate
            refine .inr (.inl ⟨server, rfl, rfl, hcreate, ?_⟩)
            have hafter : b.serviceStates.hasClientConnector key = true := by
              change (b.view key).state.any _ = true
              rw [(Binding.createClientConnector_connected hcreate).2.2.2.2.1]
              rfl
            simp [hbefore, hafter, hserver]
        | none =>
            have hresult : n.clientConnectorResult key = .waiting := by
              simp [clientConnectorResult, hclient, hserver]
            rw [hresult] at hcreate
            refine .inr (.inr ⟨rfl, rfl, hcreate, ?_⟩)
            have hafter : b.serviceStates.hasClientConnector key = true := by
              change (b.view key).state.any _ = true
              rw [(Binding.createClientConnector_waiting hcreate).2.2.2.1]
              rfl
            simp [hbefore, hafter, hserver]

/-- The call tells the peer of the bridge's server that a subscription there changed. -/
def TellsPeer (env : Env ι) (n : Endpoint ι) (key : Key) (e : Effect ι) : Prop :=
  ∃ connector eventId subscribed, (n.records key).server = some (.bridge connector) ∧
    e = env.send connector.client (some key)
      (.subscribeEvent connector.providedId eventId subscribed)

theorem tellsPeer_of_mem_onEventSubscriptionChange {eventId : Nat} {subscribed : Bool}
    {server : Server ι} (hserver : (n.records key).server = some server) {e : Effect ι}
    (he : e ∈ n.onEventSubscriptionChange env key eventId subscribed server) :
    TellsPeer env n key e := by
  cases server with
  | application counts => cases he
  | bridge connector =>
      simp only [onEventSubscriptionChange] at he
      split at he
      · exact ⟨connector, eventId, subscribed, hserver, List.mem_singleton.1 he⟩
      · cases he

theorem tellsPeer_of_mem_socomSubscribe {eventId : Nat} {e : Effect ι}
    (he : e ∈ (n.socomSubscribe env key eventId).2) : TellsPeer env n key e := by
  simp only [socomSubscribe] at he
  split at he
  · cases he
  next server hserver =>
    split at he
    · exact tellsPeer_of_mem_onEventSubscriptionChange hserver he
    · cases he

theorem tellsPeer_of_mem_socomUnsubscribe {eventId : Nat} {e : Effect ι}
    (he : e ∈ (n.socomUnsubscribe env key eventId).2) : TellsPeer env n key e := by
  simp only [socomUnsubscribe] at he
  split at he
  · cases he
  next server hserver =>
    split at he
    · exact tellsPeer_of_mem_onEventSubscriptionChange hserver he
    · cases he

theorem tellsPeer_of_mem_unsubscribeAll {e : Effect ι} (he : e ∈ n.unsubscribeAll env key) :
    TellsPeer env n key e := by
  simp only [unsubscribeAll] at he
  split at he
  · cases he
  next server hserver =>
    obtain ⟨eventId, -, he⟩ := List.mem_flatMap.1 he
    exact tellsPeer_of_mem_onEventSubscriptionChange hserver he

omit [DecidableEq ι] in
theorem TellsPeer.isSend {e : Effect ι} (h : TellsPeer env n key e) : e.isSend = true := by
  obtain ⟨_, _, _, -, rfl⟩ := h
  rfl

/-- Performing subscription calls changes the subscriptions of records only, and
causes messages only. -/
structure SameButSubscriptions (n n' : Endpoint ι) : Prop where
  binding : n'.binding = n.binding
  replies : n'.replies = n.replies
  payloads : n'.payloads = n.payloads
  server : ∀ key, (n'.records key).server = (n.records key).server
  client : ∀ key, (n'.records key).client = (n.records key).client

omit [DecidableEq ι] in
theorem SameButSubscriptions.refl (n : Endpoint ι) : SameButSubscriptions n n :=
  ⟨rfl, rfl, rfl, fun _ => rfl, fun _ => rfl⟩

omit [DecidableEq ι] in
theorem SameButSubscriptions.trans {m : Endpoint ι} (h : SameButSubscriptions n m)
    (h' : SameButSubscriptions m n') : SameButSubscriptions n n' :=
  ⟨h'.binding.trans h.binding, h'.replies.trans h.replies, h'.payloads.trans h.payloads,
    fun key => (h'.server key).trans (h.server key),
    fun key => (h'.client key).trans (h.client key)⟩

omit [DecidableEq ι] in
theorem sameButSubscriptions_setRecord (n : Endpoint ι) (key : Key) (subscribed : Finset Nat) :
    SameButSubscriptions n (n.setRecord key { n.records key with subscribed := subscribed }) := by
  refine ⟨rfl, rfl, rfl, fun key' => ?_, fun key' => ?_⟩ <;>
  · by_cases hk : key' = key
    · subst hk
      simp
    · simp [hk]

theorem sameButSubscriptions_socomSubscribe (env : Env ι) (n : Endpoint ι) (key : Key)
    (eventId : Nat) : SameButSubscriptions n (n.socomSubscribe env key eventId).1 := by
  simp only [socomSubscribe]
  split
  · exact .refl n
  · split
    · exact sameButSubscriptions_setRecord n key _
    · exact .refl n

theorem sameButSubscriptions_socomUnsubscribe (env : Env ι) (n : Endpoint ι) (key : Key)
    (eventId : Nat) : SameButSubscriptions n (n.socomUnsubscribe env key eventId).1 := by
  simp only [socomUnsubscribe]
  split
  · exact .refl n
  · split
    · exact sameButSubscriptions_setRecord n key _
    · exact .refl n

@[simp] theorem socomSubscribe_binding (eventId : Nat) :
    (n.socomSubscribe env key eventId).1.binding = n.binding :=
  (sameButSubscriptions_socomSubscribe env n key eventId).binding

@[simp] theorem socomUnsubscribe_binding (eventId : Nat) :
    (n.socomUnsubscribe env key eventId).1.binding = n.binding :=
  (sameButSubscriptions_socomUnsubscribe env n key eventId).binding

theorem perform_subscriptions {depth : Nat} {C : Effect ι → Prop}
    (hcalls : ∀ e ∈ effects, e.isInert = true ∨
      C e ∧ ∃ key eventId, e = .subscribeEvent key eventId ∨ e = .unsubscribeEvent key eventId)
    (h : perform env depth n effects = some (n', out)) :
    SameButSubscriptions n n' ∧ ∀ e ∈ out, e.isInert = true ∨ C e := by
  have hkeep := perform_preserves (I := SameButSubscriptions n)
    (E := fun e => e.isInert = true ∨
      C e ∧ ∃ key eventId, e = .subscribeEvent key eventId ∨ e = .unsubscribeEvent key eventId)
    ?_ depth (.refl n) hcalls h
  · exact ⟨hkeep.1, fun e he => (hkeep.2 e he).imp_right And.left⟩
  · intro m e m' caused hm he hone
    obtain hinert | ⟨-, key, eventId, rfl | rfl⟩ := he
    · have hnone : m.performOne env e = some (m, []) := by
        cases e <;> first | rfl | cases hinert
      rw [hnone] at hone
      cases hone
      exact ⟨hm, by simp⟩
    · obtain ⟨rfl, rfl⟩ := fst_snd_of_some_eq hone
      exact ⟨hm.trans (sameButSubscriptions_socomSubscribe env m key eventId), fun e he =>
        .inl (Effect.isInert_of_isSend (tellsPeer_of_mem_socomSubscribe he).isSend)⟩
    · obtain ⟨rfl, rfl⟩ := fst_snd_of_some_eq hone
      exact ⟨hm.trans (sameButSubscriptions_socomUnsubscribe env m key eventId), fun e he =>
        .inl (Effect.isInert_of_isSend (tellsPeer_of_mem_socomUnsubscribe he).isSend)⟩

/-! ## The outcomes of a call, a message and an event, one by one -/

/-- What one outward call does, and the calls it causes in turn. -/
inductive Performs (env : Env ι) (n : Endpoint ι) :
    Effect ι → Endpoint ι → List (Effect ι) → Prop where
  | inert {e : Effect ι} (he : e.isInert = true) : Performs env n e n []
  | subscribe (key : Key) (eventId : Nat) :
      Performs env n (.subscribeEvent key eventId) (n.socomSubscribe env key eventId).1
        (n.socomSubscribe env key eventId).2
  | unsubscribe (key : Key) (eventId : Nat) :
      Performs env n (.unsubscribeEvent key eventId) (n.socomUnsubscribe env key eventId).1
        (n.socomUnsubscribe env key eventId).2
  | reject {key : Key} {connector : EnabledConnector ι} {eventId : Nat} {payload : Payload ι}
      (hevent : connector.counts.numEvents ≤ eventId) :
      Performs env n (.updateEvent key connector eventId payload) n
        [.releasePayload payload, .assertFailed .updateEventFailed]
  | update {key : Key} {connector : EnabledConnector ι} {eventId : Nat} {payload : Payload ι}
      {n' : Endpoint ι} {effects : List (Effect ι)} (hevent : eventId < connector.counts.numEvents)
      (hupdate : n.socomUpdate env key eventId payload = some (n', effects)) :
      Performs env n (.updateEvent key connector eventId payload) n' effects
  | forget {payload : Payload ι}
      (horigin : ∀ origin, payload.origin = some origin → origin.client ∉ n.binding.connections) :
      Performs env n (.releasePayload payload) n []
  | acknowledge {payload : Payload ι} {origin : RemotePayload ι}
      (horigin : payload.origin = some origin) (hclient : origin.client ∈ n.binding.connections) :
      Performs env n (.releasePayload payload) n
        [env.send origin.client (some origin.about)
          (.payloadConsumed origin.requiredId origin.handle)]
  | destroyServer {key : Key} {connector : EnabledConnector ι} {n' : Endpoint ι}
      {effects : List (Effect ι)} (hdisable : n.disableServer env key = some (n', effects)) :
      Performs env n (.destroyServerConnector key connector) n' effects
  | destroyClient {key : Key} {connector : ClientConnector} {n' : Endpoint ι}
      {effects : List (Effect ι)}
      (hdestroy : n.destroyClient env key connector.bridged = some (n', effects)) :
      Performs env n (.destroyClientConnector key connector) n' effects

theorem Performs.of_performOne {e : Effect ι} (h : n.performOne env e = some (n', effects)) :
    Performs env n e n' effects := by
  cases e with
  | send | requestSent | assertFailed =>
      cases h
      exact .inert rfl
  | subscribeEvent key eventId =>
      obtain ⟨rfl, rfl⟩ := fst_snd_of_some_eq h
      exact .subscribe key eventId
  | unsubscribeEvent key eventId =>
      obtain ⟨rfl, rfl⟩ := fst_snd_of_some_eq h
      exact .unsubscribe key eventId
  | updateEvent key connector eventId payload =>
      simp only [performOne] at h
      split at h
      next hevent =>
        cases h
        exact .reject hevent
      next hevent => exact .update (Nat.lt_of_not_le hevent) h
  | releasePayload payload =>
      simp only [performOne] at h
      split at h
      next horigin =>
        cases h
        exact .forget fun origin ho => by simp [horigin] at ho
      next origin horigin =>
        split at h
        next hclient =>
          cases h
          exact .acknowledge horigin hclient
        next hclient =>
          cases h
          refine .forget fun origin' ho => ?_
          obtain rfl := Option.some.inj (horigin.symm.trans ho)
          exact hclient
  | destroyServerConnector key connector => exact .destroyServer h
  | destroyClientConnector key connector => exact .destroyClient h

/-- What the handler of a message does. -/
inductive Handles (env : Env ι) (n : Endpoint ι) (client : ι) :
    Message → Endpoint ι → List (Effect ι) → Prop where
  | connect : Handles env n client .connect n (n.binding.handleConnectMessage env client)
  | connectReply {status : Bool} {b : Binding ι} {effects : List (Effect ι)}
      (hb : n.binding.handleConnectReplyMessage env status = some (b, effects)) :
      Handles env n client (.connectReply status) { n with binding := b } effects
  | request {key : Key} {inUse : Bool} {n' : Endpoint ι} {effects : List (Effect ι)}
      (hreceive : n.receiveRequest env client key inUse = some (n', effects)) :
      Handles env n client (.requestService key inUse) n' effects
  | offer {key : Key} {offered : Bool} {b : Binding ι} {effects : List (Effect ι)}
      (hb : n.binding.handleOfferServiceMessage env client key offered = some (b, effects)) :
      Handles env n client (.offerService key offered) { n with binding := b } effects
  | connectService {key : Key} {requiredId : Nat} {metadata : SharedMemoryMetadata} {inUse : Bool}
      {b : Binding ι} {effects : List (Effect ι)}
      (hb : n.binding.handleConnectServiceMessage env client key requiredId metadata inUse =
        some (b, effects)) :
      Handles env n client (.connectService key requiredId metadata inUse)
        { n with binding := b } effects
  | connectServiceReply {requiredId providedId : Nat} {metadata : SharedMemoryMetadata}
      {counts : ServiceCounts} {b : Binding ι} {effects : List (Effect ι)}
      {reply : Option (PendingReply ι)}
      (hb : n.binding.handleConnectServiceReplyMessage env client requiredId providedId metadata
        counts = some (b, effects, reply)) :
      Handles env n client (.connectServiceReply requiredId providedId metadata counts)
        { n with binding := b, replies := n.replies ++ reply.toList } effects
  | subscribe {providedId eventId : Nat} {subscribe : Bool} :
      Handles env n client (.subscribeEvent providedId eventId subscribe)
        { n with
          binding := (n.binding.handleSubscribeEventMessage client providedId eventId subscribe).1 }
        (n.binding.handleSubscribeEventMessage client providedId eventId subscribe).2
  | eventUpdate {requiredId eventId : Nat} {handle : SharedMemoryHandle} {b : Binding ι}
      {effects : List (Effect ι)}
      (hb : n.binding.handleEventUpdateMessage client requiredId eventId handle =
        some (b, effects)) :
      Handles env n client (.eventUpdate requiredId eventId handle) { n with binding := b } effects
  | payloadConsumed {requiredId : Nat} {handle : SharedMemoryHandle} :
      Handles env n client (.payloadConsumed requiredId handle)
        { n with
          binding := (n.binding.handlePayloadConsumedMessage client requiredId handle).1 }
        (n.binding.handlePayloadConsumedMessage client requiredId handle).2

theorem Handles.of_onReceiveMessage {client : ι} {msg : Message}
    (h : n.onReceiveMessage env client msg = some (n', effects)) :
    Handles env n client msg n' effects := by
  cases msg with
  | connect =>
      cases h
      exact .connect
  | connectReply status =>
      obtain ⟨b, hb, rfl⟩ := setBinding_eq_some.1 h
      exact .connectReply hb
  | requestService key inUse => exact .request h
  | offerService key offered =>
      obtain ⟨b, hb, rfl⟩ := setBinding_eq_some.1 h
      exact .offer hb
  | connectService key requiredId metadata inUse =>
      obtain ⟨b, hb, rfl⟩ := setBinding_eq_some.1 h
      exact .connectService hb
  | connectServiceReply requiredId providedId metadata counts =>
      simp only [onReceiveMessage, Option.bind_eq_bind, Option.bind_eq_some_iff, Prod.exists,
        Option.some.injEq, Prod.mk.injEq] at h
      obtain ⟨b, es, reply, hb, rfl, rfl⟩ := h
      exact .connectServiceReply hb
  | subscribeEvent providedId eventId subscribe =>
      obtain ⟨rfl, rfl⟩ := fst_snd_of_some_eq h
      exact .subscribe
  | eventUpdate requiredId eventId handle =>
      obtain ⟨b, hb, rfl⟩ := setBinding_eq_some.1 h
      exact .eventUpdate hb
  | payloadConsumed requiredId handle =>
      obtain ⟨rfl, rfl⟩ := fst_snd_of_some_eq h
      exact .payloadConsumed

theorem act_receive_eq_some {client : ι} {msg : Message} {r : Endpoint ι × List (Effect ι)} :
    n.act env (.receive client msg) = some r ↔
      n.replyOf client = none ∧ n.onReceiveMessage env client msg = some r := by
  cases hreply : n.replyOf client <;> simp [act, hreply]

theorem act_finishReply_eq_some {client : ι} {r : Endpoint ι × List (Effect ι)} :
    n.act env (.finishReply client) = some r ↔
      ∃ reply, n.replyOf client = some reply ∧ n.finishReply env reply = some r := by
  cases hreply : n.replyOf client <;> simp [act, hreply]

/-- What an event does before the calls it makes are performed. -/
inductive Acts (env : Env ι) (n : Endpoint ι) :
    Event ι → Endpoint ι → List (Effect ι) → Prop where
  | idle (event : Event ι) (made : Finset Key) : Acts env n event { n with made := made } []
  | register {key : Key} {counts available : ServiceCounts}
      (hresult : n.clientConnectorResult key = .connected available) :
      Acts env n (.makeClientConnector key counts)
        (n.setRecord key { n.records key with client := some (.application false) }) []
  | request {key : Key} {counts : ServiceCounts} {b : Binding ι} {effects : List (Effect ι)}
      (hresult : n.clientConnectorResult key = .waiting)
      (hb : n.binding.sendRequestService env key counts true = some (b, effects)) :
      Acts env n (.makeClientConnector key counts)
        { n.setRecord key { n.records key with client := some (.application true) } with
          binding := b } effects
  | destroy {key : Key} {bridged : Bool} {n' : Endpoint ι} {effects : List (Effect ι)}
      (hclient : (n.records key).client = some (.application bridged))
      (hdestroy : n.destroyClient env key bridged = some (n', effects)) :
      Acts env n (.destroyClientConnector key) n' effects
  | enable {key : Key} {counts : ServiceCounts} {n' : Endpoint ι} {effects : List (Effect ι)}
      (hserver : (n.records key).server = none)
      (hnotify : (n.setRecord key
        { n.records key with server := some (.application counts) }).notifyClient env key true
          counts = some (n', effects)) :
      Acts env n (.enableServerConnector key counts) n' effects
  | disable {key : Key} {counts : ServiceCounts} {n' : Endpoint ι} {effects : List (Effect ι)}
      (hserver : (n.records key).server = some (.application counts))
      (hdisable : n.disableServer env key = some (n', effects)) :
      Acts env n (.disableServerConnector key) n' effects
  | subscribe {key : Key} {eventId : Nat} {bridged : Bool}
      (hclient : (n.records key).client = some (.application bridged)) :
      Acts env n (.subscribeEvent key eventId) (n.socomSubscribe env key eventId).1
        (n.socomSubscribe env key eventId).2
  | unsubscribe {key : Key} {eventId : Nat} {bridged : Bool}
      (hclient : (n.records key).client = some (.application bridged)) :
      Acts env n (.unsubscribeEvent key eventId) (n.socomUnsubscribe env key eventId).1
        (n.socomUnsubscribe env key eventId).2
  | update {key : Key} {eventId slotHandle size : Nat} {counts : ServiceCounts}
      {n' : Endpoint ι} {effects : List (Effect ι)}
      (hserver : (n.records key).server = some (.application counts))
      (hevent : eventId < counts.numEvents)
      (hupdate : n.socomUpdate env key eventId { slotHandle := slotHandle, size := size } =
        some (n', effects)) :
      Acts env n (.updateEvent key eventId slotHandle size) n' effects
  | drop {index : Nat} {payload : Payload ι} (hpayload : n.payloads[index]? = some payload) :
      Acts env n (.dropPayload index) { n with payloads := n.payloads.eraseIdx index }
        [.releasePayload payload]
  | addClient (client : ι) :
      Acts env n (.addClient client) { n with binding := (n.binding.addClient client).1 }
        (n.binding.addClient client).2
  | removeClient (client : ι) :
      Acts env n (.removeClient client) { n with binding := (n.binding.removeClient client).1 }
        (n.binding.removeClient client).2
  | receive {client : ι} {msg : Message} {n' : Endpoint ι} {effects : List (Effect ι)}
      (hreply : n.replyOf client = none)
      (hreceive : n.onReceiveMessage env client msg = some (n', effects)) :
      Acts env n (.receive client msg) n' effects
  | finish {client : ι} {reply : PendingReply ι} {n' : Endpoint ι} {effects : List (Effect ι)}
      (hreply : n.replyOf client = some reply)
      (hfinish : n.finishReply env reply = some (n', effects)) :
      Acts env n (.finishReply client) n' effects

theorem Acts.of_act {event : Event ι} (h : n.act env event = some (n', effects)) :
    Acts env n event n' effects := by
  cases event with
  | makeClientConnector key counts =>
      simp only [act] at h
      split at h
      · cases h
        exact .idle _ _
      next hresult =>
        cases h
        exact .register hresult
      next hresult =>
        obtain ⟨b, hb, rfl⟩ := setBinding_eq_some.1 h
        exact .request hresult hb
  | destroyClientConnector key =>
      simp only [act] at h
      split at h
      next hclient => exact .destroy hclient h
      · cases h
        exact .idle _ _
  | makeServerConnector key | destroyServerConnector key =>
      simp only [act] at h
      split at h <;> cases h <;> exact .idle _ _
  | enableServerConnector key counts =>
      simp only [act] at h
      split at h
      · cases h
        exact .idle _ _
      next hserver => exact .enable hserver h
  | disableServerConnector key =>
      simp only [act] at h
      split at h
      next hserver => exact .disable hserver h
      · cases h
        exact .idle _ _
  | subscribeEvent key eventId =>
      simp only [act] at h
      split at h
      next hclient =>
        obtain ⟨rfl, rfl⟩ := fst_snd_of_some_eq h
        exact .subscribe hclient
      · cases h
        exact .idle _ _
  | unsubscribeEvent key eventId =>
      simp only [act] at h
      split at h
      next hclient =>
        obtain ⟨rfl, rfl⟩ := fst_snd_of_some_eq h
        exact .unsubscribe hclient
      · cases h
        exact .idle _ _
  | updateEvent key eventId slotHandle size =>
      simp only [act] at h
      split at h
      next hserver =>
        split at h
        next hevent => exact .update hserver hevent h
        · cases h
          exact .idle _ _
      · cases h
        exact .idle _ _
  | dropPayload index =>
      simp only [act] at h
      split at h
      · cases h
        exact .idle _ _
      next hpayload =>
        cases h
        exact .drop hpayload
  | addClient client =>
      obtain ⟨rfl, rfl⟩ := fst_snd_of_some_eq h
      exact .addClient client
  | removeClient client =>
      obtain ⟨rfl, rfl⟩ := fst_snd_of_some_eq h
      exact .removeClient client
  | receive client msg =>
      obtain ⟨hreply, hreceive⟩ := act_receive_eq_some.1 h
      exact .receive hreply hreceive
  | finishReply client =>
      obtain ⟨reply, hreply, hfinish⟩ := act_finishReply_eq_some.1 h
      exact .finish hreply hfinish

end Endpoint

/-! ## Concrete runs -/

namespace Endpoint

/-- The services of the concrete runs differ in their major version only. -/
def someKey (major : Nat) : Key := ⟨⟨[], major, 0⟩, []⟩

def someMetadata : SharedMemoryMetadata := ⟨[], 8, 4⟩

/-- Every send succeeds and every service has a pool. -/
def someEnv : Env Nat := ⟨fun _ _ => true, fun _ => some someMetadata⟩

/-- The state after the listed events in `someEnv`, each allowed by `ok`. -/
def runEvents (ok : Endpoint Nat → Env Nat × Event Nat → Prop) [∀ n label, Decidable (ok n label)]
    (events : List (Event Nat)) : Option (Endpoint Nat) :=
  runFrom next ok {} (events.map (Prod.mk someEnv))

theorem exists_reachable_of_runEvents (ok : Endpoint Nat → Env Nat × Event Nat → Prop)
    [∀ n label, Decidable (ok n label)] (events : List (Event Nat)) (p : Endpoint Nat → Bool)
    (h : (runEvents ok events).any p = true) : ∃ n, ReachableVia ok n ∧ p n = true :=
  exists_reach_of_runFrom next ok {} _ p h

end Endpoint

end SomeipGateway
