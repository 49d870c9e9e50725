import SomeipGateway.Endpoint.Foreign

/-! # Steps outside the handshake of a service

Subscriptions, events, payloads and everything about other services leave the
connection of a service as it is: its offers, mappings, connectors and pending
connects stay, and no handshake message about it is sent.
-/

namespace SomeipGateway

variable {ι : Type} [DecidableEq ι]

/-- The effect is a handshake message about the service or ends one of its
connectors. -/
def Effect.touches (key : Key) : Effect ι → Bool
  | .send _ about msg _ => about = some key && msg.isHandshake
  | .destroyServerConnector k _ | .destroyClientConnector k _ => k = key
  | _ => false

omit [DecidableEq ι] in
theorem Effect.touches_of_concerns {key : Key} {e : Effect ι} (h : e.concerns key = false) :
    e.touches key = false := by
  cases e <;> first | exact h | rfl

/-- A view without its event subscriptions. -/
def ServiceView.control (v : ServiceView ι) : ServiceView ι :=
  { v with state := v.state.map fun s => { s with eventSubscriptions := ∅ } }

omit [DecidableEq ι] in
theorem ServiceView.control_map {v : ServiceView ι} {f : ServiceState ι → ServiceState ι}
    (hf : ∀ s, { f s with eventSubscriptions := ∅ } = { s with eventSubscriptions := ∅ }) :
    ({ v with state := v.state.map f } : ServiceView ι).control = v.control := by
  simp only [control, Option.map_map]
  congr 2
  funext s
  exact hf s

namespace Endpoint

/-- The event takes part in the handshake of the service at this endpoint. -/
def steers (key : Key) (n : Endpoint ι) : Event ι → Bool
  | .makeClientConnector k _ | .destroyClientConnector k | .enableServerConnector k _
  | .disableServerConnector k => k = key
  | .receive _ (.requestService k _) | .receive _ (.offerService k _)
  | .receive _ (.connectService k _ _ true) => k = key
  | .receive client (.connectServiceReply r _ _ _) =>
      n.binding.pendingConnects.lookup r = some ⟨key, client⟩
  | .finishReply client => (n.replyOf client).any fun reply => reply.key = key
  | .addClient _ | .removeClient _ | .receive _ .connect | .receive _ (.connectReply _)
  | .receive _ (.connectService _ _ _ false) => true
  | _ => false

/-- A reply for the service is between the two sections of its handler. -/
def busy (n : Endpoint ι) (key : Key) : Bool :=
  n.replies.any fun reply => reply.key = key

structure Steady (key : Key) (n n' : Endpoint ι) : Prop where
  view : (n'.binding.view key).control = (n.binding.view key).control
  server : (n'.records key).server = (n.records key).server
  client : (n'.records key).client = (n.records key).client
  connections : n'.binding.connections = n.binding.connections
  next_le : n.binding.nextLocalId ≤ n'.binding.nextLocalId
  busy : n'.busy key = n.busy key

variable {env : Env ι} {n n' : Endpoint ι} {key key' : Key} {effects out : List (Effect ι)}

theorem Steady.refl (key : Key) (n : Endpoint ι) : Steady key n n :=
  ⟨rfl, rfl, rfl, rfl, le_rfl, rfl⟩

theorem Steady.trans {m : Endpoint ι} (h : Steady key n m) (h' : Steady key m n') :
    Steady key n n' :=
  ⟨h'.view.trans h.view, h'.server.trans h.server, h'.client.trans h.client,
    h'.connections.trans h.connections, h.next_le.trans h'.next_le, h'.busy.trans h.busy⟩

theorem Steady.ids (h : Steady key n n') :
    (n'.binding.view key).ids = (n.binding.view key).ids := by
  have hids := congrArg ServiceView.ids h.view
  exact hids

theorem SameAt.steady (h : SameAt key n n') : Steady key n n' :=
  ⟨congrArg _ h.binding.view, congrArg _ h.record, congrArg _ h.record, h.binding.connections,
    h.binding.next_le, by rw [Endpoint.busy, h.replies, Endpoint.busy]⟩

theorem SameButSubscriptions.steady (h : SameButSubscriptions n n') : Steady key n n' :=
  ⟨by rw [h.binding], h.server key, h.client key, by rw [h.binding], by rw [h.binding],
    by rw [Endpoint.busy, h.replies, Endpoint.busy]⟩

/-- The outcome of a step outside the handshake of the service. -/
def Calm (key : Key) (n : Endpoint ι) (r : Endpoint ι × List (Effect ι)) : Prop :=
  Steady key n r.1 ∧ ∀ e ∈ r.2, e.touches key = false

theorem Calm.none (key : Key) (n : Endpoint ι) : Calm key n (n, []) :=
  ⟨.refl key n, by simp⟩

theorem Foreign.calm {r : Endpoint ι × List (Effect ι)} (h : Foreign key n r) : Calm key n r :=
  ⟨h.1.steady, fun e he => Effect.touches_of_concerns (h.2 e he)⟩

theorem calm_setBinding {b : Binding ι} (hview : (b.view key).control = (n.binding.view key).control)
    (hconnections : b.connections = n.binding.connections)
    (hnext : n.binding.nextLocalId ≤ b.nextLocalId)
    (htouches : ∀ e ∈ effects, e.touches key = false) :
    Calm key n ({ n with binding := b }, effects) :=
  ⟨⟨hview, rfl, rfl, hconnections, hnext, rfl⟩, htouches⟩

theorem calm_socomSubscribe (k : Key) (eventId : Nat) :
    Calm key n (n.socomSubscribe env k eventId) :=
  ⟨(sameButSubscriptions_socomSubscribe env n k eventId).steady,
    fun _ he => Effect.touches_of_concerns (tellsPeer_of_mem_socomSubscribe he).concerns⟩

theorem calm_socomUnsubscribe (k : Key) (eventId : Nat) :
    Calm key n (n.socomUnsubscribe env k eventId) :=
  ⟨(sameButSubscriptions_socomUnsubscribe env n k eventId).steady,
    fun _ he => Effect.touches_of_concerns (tellsPeer_of_mem_socomUnsubscribe he).concerns⟩

theorem calm_performOne {e : Effect ι} (he : e.touches key = false)
    (h : n.performOne env e = some (n', effects)) : Calm key n (n', effects) := by
  cases Performs.of_performOne h with
  | inert | forget => exact .none key n
  | subscribe k eventId => exact calm_socomSubscribe k eventId
  | unsubscribe k eventId => exact calm_socomUnsubscribe k eventId
  | reject => exact ⟨.refl key n, by simp [Effect.touches]⟩
  | update _ hupdate => exact (foreign_socomUpdate hupdate).calm
  | acknowledge => exact (foreign_performOne rfl h).calm
  | destroyServer | destroyClient => exact (foreign_performOne (by exact he) h).calm

/-- Calls outside the handshake: the rule of `perform_preserves` for `Steady`. -/
theorem calm_perform {depth : Nat} (hcalls : ∀ e ∈ effects, e.touches key = false)
    (h : perform env depth n effects = some (n', out)) : Calm key n (n', out) := by
  refine perform_preserves (I := Steady key n) (E := fun e => e.touches key = false) ?_ depth
    (.refl key n) hcalls h
  intro m e m' caused hm he hone
  obtain ⟨hsteady, hcaused⟩ := calm_performOne he hone
  exact ⟨hm.trans hsteady, hcaused⟩

theorem Calm.perform {depth : Nat} (h : Calm key n (n', effects)) {n'' : Endpoint ι}
    (hperform : perform env depth n' effects = some (n'', out)) : Calm key n (n'', out) := by
  obtain ⟨hsteady, htouches⟩ := calm_perform h.2 hperform
  exact ⟨h.1.trans hsteady, htouches⟩

/-! ## Steps -/

theorem calm_finishReply {reply : PendingReply ι} (hne : reply.key ≠ key)
    (h : n.finishReply env reply = some (n', effects)) : Calm key n (n', effects) := by
  have hbusy : ({ n with replies := n.replies.erase reply } : Endpoint ι).busy key = n.busy key := by
    have hother : ∀ other : PendingReply ι, other.key = key → other ≠ reply := by
      rintro other rfl rfl
      exact hne rfl
    rw [Bool.eq_iff_iff]
    simp only [busy, List.any_eq_true, decide_eq_true_eq]
    constructor
    · rintro ⟨other, hmem, hkey⟩
      exact ⟨other, List.mem_of_mem_erase hmem, hkey⟩
    · rintro ⟨other, hmem, hkey⟩
      exact ⟨other, (List.mem_erase_of_ne (hother other hkey)).2 hmem, hkey⟩
  obtain ⟨-, rfl, rfl⟩ | ⟨-, m, offers, hm, rfl, rfl⟩ := finishReply_cases h
  · exact ⟨⟨rfl, rfl, rfl, rfl, le_rfl, hbusy⟩, by simp [Effect.touches]⟩
  · obtain ⟨hsteady, htouches⟩ := (foreign_notifyClient hne hm).calm
    have hstart : Steady key n ({ n with replies := n.replies.erase reply }.setRecord reply.key
        { n.records reply.key with server := some (.bridge reply.connector) }) :=
      ⟨rfl, by simp [hne.symm], by simp [hne.symm], rfl, le_rfl, hbusy⟩
    refine ⟨(hstart.trans hsteady).trans ⟨?_, rfl, rfl, rfl, le_rfl, rfl⟩, fun e he => ?_⟩
    · rw [Binding.view_addServerConnector_of_ne _ hne.symm]
    · rcases List.mem_append.1 he with he | he
      · exact htouches e he
      · obtain ⟨connector, -, rfl⟩ := List.mem_map.1 he
        simp [Effect.touches, hne]

theorem calm_receive {client : ι} {msg : Message}
    (hmsg : n.steers key (.receive client msg) = false)
    (habout : (Event.receive client msg).about = none)
    (h : n.onReceiveMessage env client msg = some (n', effects)) : Calm key n (n', effects) := by
  cases Handles.of_onReceiveMessage h with
  | connect | connectReply => cases hmsg
  | offer => cases habout
  | @request k inUse _ _ hreceive =>
      cases inUse with
      | true => cases habout
      | false =>
          have hne : k ≠ key := by simpa [steers] using hmsg
          obtain ⟨b, hb, rfl⟩ := receiveRequest_false hreceive
          obtain ⟨hconnections, hnext⟩ := Binding.handleRequestServiceMessage_false_frame hb
          obtain ⟨rfl, -, hother⟩ := Binding.handleRequestServiceMessage_false hb
          refine calm_setBinding ?_ hconnections hnext.ge fun e he => ?_
          · rw [hother key hne.symm]
            exact ServiceView.control_map fun s => rfl
          · obtain ⟨_, _, _, _, -, -, -, rfl⟩ := Binding.exists_of_mem_unsubscribeEffects he
            rfl
  | @connectService _ _ _ inUse _ _ _ =>
      cases inUse with
      | true => cases habout
      | false => cases hmsg
  | @connectServiceReply requiredId _ _ _ _ _ _ hb =>
      obtain ⟨-, rfl, rfl, rfl⟩ | ⟨k, hk, hcases⟩ :=
        Binding.handleConnectServiceReplyMessage_cases hb
      · exact ⟨⟨rfl, rfl, rfl, rfl, le_rfl, by simp [busy]⟩, by simp⟩
      · have hne : k ≠ key := by
          rintro rfl
          simp [steers, hk] at hmsg
        have hview : (({ n.binding with
            pendingConnects := n.binding.pendingConnects.erase requiredId } : Binding ι).view key) =
            n.binding.view key := by
          rw [Binding.view_erasePending hk]
          simp [hne.symm]
        obtain ⟨-, rfl, rfl, rfl⟩ | ⟨state, localMetadata, -, -, rfl, rfl, rfl⟩ := hcases
        · exact ⟨⟨congrArg _ hview, rfl, rfl, rfl, le_rfl, by simp [busy]⟩, by simp⟩
        · refine ⟨⟨?_, rfl, rfl, rfl, le_rfl, by simp [busy, hne]⟩, fun e he => ?_⟩
          · rw [Binding.view_addMapping_of_ne (by exact hne), hview]
          · exact Effect.touches_of_concerns (Binding.concerns_addMapping he)
  | @subscribe providedId eventId subscribe =>
      cases hids : n.binding.idMapping.getByLocalHandle client providedId with
      | none =>
          rw [Binding.handleSubscribeEventMessage_none hids]
          exact .none key n
      | some ids =>
          have hframe := Binding.handleSubscribeEventMessage_frame n.binding client providedId
            eventId subscribe
          refine calm_setBinding ?_ (by rw [hframe]) (by rw [hframe]) fun e he => ?_
          · rw [(Binding.handleSubscribeEventMessage_some hids).2 key]
            refine ServiceView.control_map fun s => ?_
            split
            · rw [s.updateEventSubscription_frame]
            · rfl
          · rw [(Binding.handleSubscribeEventMessage_some hids).1] at he
            obtain ⟨s, -, he⟩ := List.mem_flatMap.1 he
            obtain ⟨-, rfl⟩ | ⟨-, rfl⟩ :=
              ServiceState.exists_of_mem_updateEventSubscription _ _ _ he <;> rfl
  | eventUpdate hb =>
      rw [Binding.handleEventUpdateMessage_frame hb]
      refine calm_setBinding rfl rfl le_rfl fun e he => ?_
      obtain ⟨-, rfl⟩ | ⟨_, _, -, -, ⟨-, rfl⟩ | ⟨_, _, -, rfl⟩⟩ :=
        Binding.handleEventUpdateMessage_effects hb
      · cases he
      · rw [List.mem_singleton.1 he]
        rfl
      · rw [List.mem_singleton.1 he]
        rfl
  | @payloadConsumed requiredId handle =>
      have hframe := Binding.handlePayloadConsumedMessage_frame n.binding client requiredId handle
      refine calm_setBinding (by rw [hframe]; rfl) (by rw [hframe]) (by rw [hframe]) fun e he => ?_
      obtain ⟨payload, rfl⟩ := Binding.exists_of_mem_payloadConsumed he
      rfl

/-- The messages about the service itself all steer it. -/
theorem about_eq_none_of_steers {client : ι} {msg : Message}
    (hmsg : n.steers key (.receive client msg) = false)
    (hself : ∀ {k}, (Event.receive client msg).about = some k → k = key) :
    (Event.receive client msg).about = none := by
  cases msg with
  | requestService k inUse =>
      cases inUse with
      | true => simp [steers, hself rfl] at hmsg
      | false => rfl
  | offerService k offered => simp [steers, hself rfl] at hmsg
  | connectService k requiredId metadata inUse =>
      cases inUse with
      | true => simp [steers, hself rfl] at hmsg
      | false => rfl
  | connect | connectReply | connectServiceReply | subscribeEvent | eventUpdate
  | payloadConsumed => rfl

/-- The steps that are not about the service, and its subscriptions and events. -/
theorem calm_act {event : Event ι} (hevent : n.steers key event = false)
    (h : n.act env event = some (n', effects)) : Calm key n (n', effects) := by
  obtain ⟨k, habout, hne⟩ | hself := event.about_cases key
  · exact (foreign_act habout hne h).calm
  cases Acts.of_act h with
  | idle => exact ⟨⟨rfl, rfl, rfl, rfl, le_rfl, rfl⟩, by simp⟩
  | register | request | destroy | enable | disable => simp [steers, hself rfl] at hevent
  | addClient | removeClient => cases hevent
  | subscribe => exact calm_socomSubscribe _ _
  | unsubscribe => exact calm_socomUnsubscribe _ _
  | update _ _ hupdate => exact (foreign_socomUpdate hupdate).calm
  | drop => exact ⟨⟨rfl, rfl, rfl, rfl, le_rfl, rfl⟩, by simp [Effect.touches]⟩
  | receive _ hreceive => exact calm_receive hevent (about_eq_none_of_steers hevent hself) hreceive
  | finish hreply hfinish =>
      exact calm_finishReply (by simpa [steers, hreply] using hevent) hfinish

theorem calm_step {event : Event ι} (hevent : n.steers key event = false)
    (h : n.step env event = some (n', out)) : Calm key n (n', out) := by
  obtain ⟨m, effects, hact, hperform⟩ := step_eq_some.1 h
  exact (calm_act hevent hact).perform hperform

end Endpoint

end SomeipGateway
