import SomeipGateway.Endpoint.Run

/-! # Steps about other services

A step that is about one service, and every call it causes, leaves what the
endpoint holds for the other services as it is and sends no handshake message
about them.
-/

namespace SomeipGateway

/-- The four messages that establish a connection between two endpoints. -/
def Message.isHandshake : Message → Bool
  | .requestService _ _ | .offerService _ _ | .connectService _ _ _ _
  | .connectServiceReply _ _ _ _ => true
  | _ => false

variable {ι : Type}

/-- The service that a step is about, where there is just one. -/
def Event.about : Event ι → Option Key
  | .makeClientConnector key _ | .destroyClientConnector key | .enableServerConnector key _
  | .disableServerConnector key | .subscribeEvent key _ | .unsubscribeEvent key _
  | .updateEvent key _ _ _ => some key
  | .receive _ (.requestService key true) | .receive _ (.offerService key _)
  | .receive _ (.connectService key _ _ true) => some key
  | _ => none

/-- A step is about another service, or about no service but this one. -/
theorem Event.about_cases (event : Event ι) (key : Key) :
    (∃ k, event.about = some k ∧ k ≠ key) ∨ ∀ {k}, event.about = some k → k = key := by
  cases habout : event.about with
  | none => exact .inr (by simp)
  | some k =>
      by_cases hk : k = key
      · exact .inr (by simp [hk])
      · exact .inl ⟨k, rfl, hk⟩

/-- The effect is a handshake message, a call or a log entry about the service. -/
def Effect.concerns (key : Key) : Effect ι → Bool
  | .send _ about msg _ => about = some key && msg.isHandshake
  | .subscribeEvent k _ | .unsubscribeEvent k _ | .updateEvent k _ _ _
  | .destroyServerConnector k _ | .destroyClientConnector k _ | .requestSent k _ => k = key
  | .releasePayload _ | .assertFailed _ => false

variable [DecidableEq ι]

namespace Binding

variable {env : Env ι} {b b' : Binding ι} {key key' : Key} {effects : List (Effect ι)}

/-- The two bindings hold the same for the service; ids may have been used up. -/
structure SameAt (key : Key) (b b' : Binding ι) : Prop where
  view : b'.view key = b.view key
  connections : b'.connections = b.connections
  next_le : b.nextLocalId ≤ b'.nextLocalId

theorem SameAt.refl (key : Key) (b : Binding ι) : SameAt key b b :=
  ⟨rfl, rfl, le_rfl⟩

theorem SameAt.trans {b'' : Binding ι} (h : SameAt key b b') (h' : SameAt key b' b'') :
    SameAt key b b'' :=
  ⟨h'.view.trans h.view, h'.connections.trans h.connections, h.next_le.trans h'.next_le⟩

theorem Connects.sameAt (h : Connects env key' b effects b') (hne : key' ≠ key) :
    SameAt key b b' :=
  ⟨h.other key hne.symm, by rw [h.frame], h.next_le⟩

theorem Connects.concerns (h : Connects env key' b effects b') (hne : key' ≠ key) :
    ∀ e ∈ effects, e.concerns key = false := by
  intro e he
  obtain ⟨client, requiredId, metadata, rfl⟩ := h.sends e he
  simp [Effect.concerns, Env.send, hne]

theorem sameAt_serviceStateChange {isAvailable : Bool} {counts : ServiceCounts}
    (hne : key' ≠ key) (h : b.serviceStateChange env key' isAvailable counts = some (b', effects)) :
    SameAt key b b' ∧ ∀ e ∈ effects, e.concerns key = false := by
  refine ⟨⟨view_serviceStateChange_of_ne hne.symm h, ?_, ?_⟩, ?_⟩
  · rw [(serviceStateChange_eq_some.1 h).2.1]
  · rw [(serviceStateChange_eq_some.1 h).2.1]
  · intro e he
    rw [(serviceStateChange_eq_some.1 h).2.2] at he
    obtain ⟨client, -, rfl⟩ := List.mem_map.1 he
    simp [Effect.concerns, Env.send, hne]

omit [DecidableEq ι] in
theorem concerns_sendToAll (hne : key' ≠ key) {msg : Message} {e : Effect ι}
    (he : e ∈ b.sendToAll env (some key') msg) : e.concerns key = false := by
  obtain ⟨client, -, rfl⟩ := List.mem_map.1 he
  simp [Effect.concerns, Env.send, hne]

theorem sameAt_sendRequestService {counts : ServiceCounts} {inUse : Bool} (hne : key' ≠ key)
    (h : b.sendRequestService env key' counts inUse = some (b', effects)) :
    SameAt key b b' ∧ ∀ e ∈ effects, e.concerns key = false := by
  cases hclient : b.serviceStates.hasClientConnector key' with
  | true =>
      rw [sendRequestService_skipped hclient] at h
      cases h
      exact ⟨.refl key b, by simp⟩
  | false =>
      cases inUse with
      | true =>
          obtain ⟨more, hmore, rfl⟩ := (sendRequestService_true hclient).1 h
          have hconnects := connects_of_maybeSendConnectServiceLocked hmore
          constructor
          · have hsame := hconnects.sameAt hne
            exact ⟨hsame.view.trans (view_insertState_of_ne _ hne.symm), hsame.connections,
              hsame.next_le⟩
          · intro e he
            simp only [List.cons_append, List.mem_cons, List.mem_append] at he
            obtain rfl | he | he := he
            · simp [Effect.concerns, hne]
            · exact concerns_sendToAll hne he
            · exact hconnects.concerns hne e he
      | false =>
          rw [sendRequestService_false hclient] at h
          cases h
          refine ⟨⟨view_unrequested_of_ne hne.symm, rfl, le_rfl⟩, ?_⟩
          intro e he
          simp only [List.cons_append, List.mem_cons, List.mem_append] at he
          obtain rfl | he | he := he
          · simp [Effect.concerns, hne]
          · exact concerns_sendToAll hne he
          · obtain ⟨connector, -, rfl⟩ := List.mem_map.1 he
            simp [Effect.concerns, hne]

theorem concerns_eventUpdates {eventId : Nat} {payload : Payload ι} {clients : List (ι × Ids)}
    {e : Effect ι} (he : e ∈ (b.eventUpdates env key' eventId payload clients).1) :
    e.concerns key = false := by
  obtain ⟨client, ids, -, -, rfl⟩ | rfl := mem_eventUpdates he
  · simp [Effect.concerns, Env.send, Message.isHandshake]
  · rfl

theorem concerns_addMapping {client : ι} {ids : Ids} {e : Effect ι}
    (he : e ∈ (b.addMapping client ids).2) : e.concerns key = false := by
  rw [Binding.eq_of_mem_addMapping he]
  rfl

theorem sameAt_sendEventUpdate {eventId : Nat} {payload : Payload ι}
    (h : b.sendEventUpdate env key' eventId payload = some (b', effects)) :
    SameAt key b b' ∧ ∀ e ∈ effects, e.concerns key = false := by
  constructor
  · rw [sendEventUpdate_frame h]
    exact ⟨rfl, rfl, le_rfl⟩
  · obtain ⟨allocations, more, hmore, -, rfl⟩ := sendEventUpdate_eq_some.1 h
    intro e he
    rcases List.mem_append.1 he with he | he
    · exact concerns_eventUpdates he
    · obtain ⟨_, rfl⟩ := Allocations.exists_of_mem_insertAllocation hmore he
      rfl

theorem sameAt_handleRequestServiceMessage_true {client : ι} {result : ClientConnectorResult}
    (hne : key' ≠ key)
    (h : b.handleRequestServiceMessage env client key' true result = some (b', effects)) :
    SameAt key b b' ∧ ∀ e ∈ effects, e.concerns key = false := by
  have hnote : SameAt key b (b.withInterested key' client) :=
    ⟨view_withInterested_of_ne hne.symm, rfl, le_rfl⟩
  obtain ⟨-, rfl, rfl⟩ | ⟨-, -, rfl, rfl⟩ | ⟨-, -, hcreate⟩ := handleRequestServiceMessage_true h
  · exact ⟨hnote, by simp [Effect.concerns, Env.send, hne]⟩
  · exact ⟨hnote, by simp⟩
  · cases result with
    | failed =>
        obtain ⟨rfl, hconn, hnext, -, hother⟩ := createClientConnector_failed hcreate
        exact ⟨hnote.trans ⟨hother key hne.symm, hconn, hnext.ge⟩, by simp⟩
    | connected counts =>
        obtain ⟨-, rfl, hconn, hnext, -, hother⟩ := createClientConnector_connected hcreate
        refine ⟨hnote.trans ⟨hother key hne.symm, hconn, hnext.ge⟩, fun e he => ?_⟩
        obtain ⟨c, -, rfl⟩ := List.mem_map.1 he
        simp [Effect.concerns, Env.send, hne]
    | waiting =>
        obtain ⟨rfl, hconn, hnext, -, hother⟩ := createClientConnector_waiting hcreate
        exact ⟨hnote.trans ⟨hother key hne.symm, hconn, hnext.ge⟩, by simp⟩

theorem sameAt_handleOfferServiceMessage {client : ι} {offered : Bool} (hne : key' ≠ key)
    (h : b.handleOfferServiceMessage env client key' offered = some (b', effects)) :
    SameAt key b b' ∧ ∀ e ∈ effects, e.concerns key = false := by
  cases offered with
  | false =>
      obtain ⟨rfl, hconn, hnext, -, hother⟩ := handleOfferServiceMessage_false h
      refine ⟨⟨hother key hne.symm, hconn, hnext.ge⟩, fun e he => ?_⟩
      obtain ⟨c, -, rfl⟩ := List.mem_map.1 he
      simp [Effect.concerns, hne]
  | true =>
      rw [handleOfferServiceMessage_true] at h
      have hconnects := connects_of_maybeSendConnectServiceLocked h
      have hoffer : SameAt key b (b.withOffer key' client) :=
        ⟨view_withOffer_of_ne hne.symm, rfl, le_rfl⟩
      exact ⟨hoffer.trans (hconnects.sameAt hne), hconnects.concerns hne⟩

theorem sameAt_handleConnectServiceMessage_true {client : ι} {requiredId : Nat}
    {metadata : SharedMemoryMetadata} (hne : key' ≠ key)
    (h : b.handleConnectServiceMessage env client key' requiredId metadata true =
      some (b', effects)) :
    SameAt key b b' ∧ ∀ e ∈ effects, e.concerns key = false := by
  obtain ⟨localMetadata, state, -, -, rfl, rfl⟩ := handleConnectServiceMessage_true h
  refine ⟨⟨view_addMapping_of_ne hne, rfl, Nat.le_succ _⟩, fun e he => ?_⟩
  rcases List.mem_append.1 he with he | he
  · exact concerns_addMapping he
  · rw [List.mem_singleton.1 he]
    simp [Effect.concerns, Env.send, hne]

end Binding

namespace Endpoint

variable {env : Env ι} {n n' : Endpoint ι} {key key' : Key} {effects out : List (Effect ι)}

structure SameAt (key : Key) (n n' : Endpoint ι) : Prop where
  binding : Binding.SameAt key n.binding n'.binding
  record : n'.records key = n.records key
  replies : n'.replies = n.replies

theorem SameAt.refl (key : Key) (n : Endpoint ι) : SameAt key n n :=
  ⟨.refl key n.binding, rfl, rfl⟩

theorem SameAt.trans {m : Endpoint ι} (h : SameAt key n m) (h' : SameAt key m n') :
    SameAt key n n' :=
  ⟨h.binding.trans h'.binding, h'.record.trans h.record, h'.replies.trans h.replies⟩

/-- The outcome of a step or of a call about another service. -/
def Foreign (key : Key) (n : Endpoint ι) (r : Endpoint ι × List (Effect ι)) : Prop :=
  SameAt key n r.1 ∧ ∀ e ∈ r.2, e.concerns key = false

theorem Foreign.none (key : Key) (n : Endpoint ι) : Foreign key n (n, []) :=
  ⟨.refl key n, by simp⟩

theorem foreign_setRecord (hne : key' ≠ key) (record : Record ι) :
    Foreign key n (n.setRecord key' record, []) :=
  ⟨⟨.refl key n.binding, by simp [hne.symm], rfl⟩, by simp⟩

theorem Foreign.mono {m : Endpoint ι} {r : Endpoint ι × List (Effect ι)}
    (h : Foreign key m r) (hsame : SameAt key n m) : Foreign key n r :=
  ⟨hsame.trans h.1, h.2⟩

theorem foreign_setBinding {b : Binding ι}
    (h : Binding.SameAt key n.binding b ∧ ∀ e ∈ effects, e.concerns key = false) :
    Foreign key n ({ n with binding := b }, effects) :=
  ⟨⟨h.1, rfl, rfl⟩, h.2⟩

omit [DecidableEq ι] in
theorem TellsPeer.concerns {e : Effect ι} (h : TellsPeer env n key' e) :
    e.concerns key = false := by
  obtain ⟨_, _, _, -, rfl⟩ := h
  simp [Effect.concerns, Env.send, Message.isHandshake]

theorem foreign_socomSubscribe (hne : key' ≠ key) (eventId : Nat) :
    Foreign key n (n.socomSubscribe env key' eventId) := by
  refine ⟨?_, fun e he => (tellsPeer_of_mem_socomSubscribe he).concerns⟩
  simp only [socomSubscribe]
  split
  · exact .refl key n
  · split
    · exact (foreign_setRecord hne _).1
    · exact .refl key n

theorem foreign_socomUnsubscribe (hne : key' ≠ key) (eventId : Nat) :
    Foreign key n (n.socomUnsubscribe env key' eventId) := by
  refine ⟨?_, fun e he => (tellsPeer_of_mem_socomUnsubscribe he).concerns⟩
  simp only [socomUnsubscribe]
  split
  · exact .refl key n
  · split
    · exact (foreign_setRecord hne _).1
    · exact .refl key n

/-- Delivering an event leaves all services alone, also its own. -/
theorem foreign_socomUpdate {eventId : Nat} {payload : Payload ι}
    (h : n.socomUpdate env key' eventId payload = some (n', effects)) :
    Foreign key n (n', effects) := by
  obtain ⟨rfl, rfl⟩ | ⟨-, rfl, rfl⟩ | ⟨-, b, hb, rfl⟩ := socomUpdate_cases h
  · exact ⟨.refl key n', by simp [Effect.concerns]⟩
  · exact ⟨⟨.refl key n.binding, rfl, rfl⟩, by simp⟩
  · exact foreign_setBinding (Binding.sameAt_sendEventUpdate hb)

theorem foreign_notifyClient (hne : key' ≠ key) {isAvailable : Bool} {counts : ServiceCounts}
    (h : n.notifyClient env key' isAvailable counts = some (n', effects)) :
    Foreign key n (n', effects) := by
  obtain ⟨-, rfl, rfl⟩ | ⟨-, b, hb, rfl⟩ := notifyClient_cases h
  · exact .none key n'
  · exact foreign_setBinding (Binding.sameAt_serviceStateChange hne hb)

theorem foreign_disableServer (hne : key' ≠ key)
    (h : n.disableServer env key' = some (n', effects)) : Foreign key n (n', effects) := by
  obtain ⟨-, rfl, rfl⟩ | ⟨server, -, hnotify⟩ := disableServer_cases h
  · exact .none key n'
  · exact (foreign_notifyClient hne hnotify).mono (foreign_setRecord hne _).1

theorem foreign_destroyClient (hne : key' ≠ key) {bridged : Bool}
    (h : n.destroyClient env key' bridged = some (n', effects)) : Foreign key n (n', effects) := by
  obtain ⟨b, caused, rfl, rfl, hcases⟩ := destroyClient_cases h
  have hcaused : Binding.SameAt key n.binding b ∧ ∀ e ∈ caused, e.concerns key = false := by
    obtain ⟨-, rfl, rfl⟩ | ⟨-, hb⟩ := hcases
    · exact ⟨.refl key n.binding, by simp⟩
    · exact Binding.sameAt_sendRequestService hne hb
  refine ⟨⟨hcaused.1, by simp [hne.symm], rfl⟩, fun e he => ?_⟩
  rcases List.mem_append.1 he with he | he
  · exact (tellsPeer_of_mem_unsubscribeAll he).concerns
  · exact hcaused.2 e he

theorem foreign_performOne {e : Effect ι} (he : e.concerns key = false)
    (h : n.performOne env e = some (n', effects)) : Foreign key n (n', effects) := by
  cases Performs.of_performOne h with
  | inert | forget => exact .none key n
  | subscribe key' eventId =>
      exact foreign_socomSubscribe (by simpa [Effect.concerns] using he) eventId
  | unsubscribe key' eventId =>
      exact foreign_socomUnsubscribe (by simpa [Effect.concerns] using he) eventId
  | reject => exact ⟨.refl key n, by simp [Effect.concerns]⟩
  | update _ hupdate => exact foreign_socomUpdate hupdate
  | acknowledge =>
      exact ⟨.refl key n, by simp [Effect.concerns, Env.send, Message.isHandshake]⟩
  | destroyServer hdisable =>
      exact foreign_disableServer (by simpa [Effect.concerns] using he) hdisable
  | destroyClient hdestroy =>
      exact foreign_destroyClient (by simpa [Effect.concerns] using he) hdestroy

/-- Calls about other services: the rule of `perform_preserves` for `SameAt`. -/
theorem foreign_perform {depth : Nat} (hcalls : ∀ e ∈ effects, e.concerns key = false)
    (h : perform env depth n effects = some (n', out)) : Foreign key n (n', out) := by
  refine perform_preserves (I := SameAt key n) (E := fun e => e.concerns key = false) ?_ depth
    (.refl key n) hcalls h
  intro m e m' caused hm he hone
  obtain ⟨hsame, hcaused⟩ := foreign_performOne he hone
  exact ⟨hm.trans hsame, hcaused⟩

theorem Foreign.perform {depth : Nat} (h : Foreign key n (n', effects)) {n'' : Endpoint ι}
    (hperform : perform env depth n' effects = some (n'', out)) : Foreign key n (n'', out) :=
  (foreign_perform h.2 hperform).mono h.1

/-! ## Steps with a service -/

theorem foreign_receiveRequest (hne : key' ≠ key) {client : ι}
    (h : n.receiveRequest env client key' true = some (n', effects)) :
    Foreign key n (n', effects) := by
  simp only [receiveRequest, Option.bind_eq_bind, Option.bind_eq_some_iff, Prod.exists,
    Option.some.injEq, Prod.mk.injEq] at h
  obtain ⟨b, es, hb, rfl, rfl⟩ := h
  have hbinding := Binding.sameAt_handleRequestServiceMessage_true hne hb
  split
  · exact (foreign_setBinding (n := n.setRecord _ _) hbinding).mono (foreign_setRecord hne _).1
  · exact foreign_setBinding hbinding

theorem foreign_onReceiveMessage {client : ι} {msg : Message}
    (habout : (Event.receive client msg).about = some key') (hne : key' ≠ key)
    (h : n.onReceiveMessage env client msg = some (n', effects)) :
    Foreign key n (n', effects) := by
  cases Handles.of_onReceiveMessage h with
  | connect | connectReply | connectServiceReply | subscribe | eventUpdate
  | payloadConsumed => cases habout
  | @request k inUse _ _ hreceive =>
      cases inUse with
      | false => cases habout
      | true =>
          cases habout
          exact foreign_receiveRequest hne hreceive
  | offer hb =>
      cases habout
      exact foreign_setBinding (Binding.sameAt_handleOfferServiceMessage hne hb)
  | @connectService k _ _ inUse _ _ hb =>
      cases inUse with
      | false => cases habout
      | true =>
          cases habout
          exact foreign_setBinding (Binding.sameAt_handleConnectServiceMessage_true hne hb)

theorem foreign_act {event : Event ι} (habout : event.about = some key') (hne : key' ≠ key)
    (h : n.act env event = some (n', effects)) : Foreign key n (n', effects) := by
  cases Acts.of_act h with
  | idle => exact ⟨⟨.refl key _, rfl, rfl⟩, by simp⟩
  | drop | addClient | removeClient | finish => cases habout
  | register =>
      cases habout
      exact foreign_setRecord hne _
  | request _ hb =>
      cases habout
      exact (foreign_setBinding (n := n.setRecord _ _)
        (Binding.sameAt_sendRequestService hne hb)).mono (foreign_setRecord hne _).1
  | destroy _ hdestroy =>
      cases habout
      exact foreign_destroyClient hne hdestroy
  | enable _ hnotify =>
      cases habout
      exact (foreign_notifyClient hne hnotify).mono (foreign_setRecord hne _).1
  | disable _ hdisable =>
      cases habout
      exact foreign_disableServer hne hdisable
  | subscribe =>
      cases habout
      exact foreign_socomSubscribe hne _
  | unsubscribe =>
      cases habout
      exact foreign_socomUnsubscribe hne _
  | update _ _ hupdate => exact foreign_socomUpdate hupdate
  | receive _ hreceive => exact foreign_onReceiveMessage habout hne hreceive

theorem foreign_step {event : Event ι} (habout : event.about = some key') (hne : key' ≠ key)
    (h : n.step env event = some (n', out)) : Foreign key n (n', out) := by
  obtain ⟨m, effects, hact, hperform⟩ := step_eq_some.1 h
  exact (foreign_act habout hne hact).perform hperform

end Endpoint

end SomeipGateway
