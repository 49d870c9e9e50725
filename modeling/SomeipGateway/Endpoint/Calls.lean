import SomeipGateway.Endpoint.Run

/-! # Which calls a critical section makes

Payloads and Event_updates are handled by a few sections only; what the others
call is control. The bridge-owned client connector of a service is destroyed only
by `Connect_service{in_use=false}`, which no other section and no call causes.
-/

namespace SomeipGateway

variable {ι : Type} [DecidableEq ι]

def Effect.destroysClient : Effect ι → Bool
  | .destroyClientConnector _ _ => true
  | _ => false

/-- The call neither carries a payload, tells of one nor destroys a client connector. -/
def Effect.isControl : Effect ι → Bool
  | .send _ _ (.eventUpdate _ _ _) _ | .send _ _ (.payloadConsumed _ _) _ | .updateEvent _ _ _ _
  | .releasePayload _ | .destroyClientConnector _ _ => false
  | _ => true

/-- The message tells of no payload and does not end a connection for a service. -/
def Message.isControl : Message → Bool
  | .eventUpdate _ _ _ | .payloadConsumed _ _ | .connectService _ _ _ false => false
  | _ => true

def Event.isControl : Event ι → Bool
  | .updateEvent _ _ _ _ | .dropPayload _ => false
  | .receive _ msg => msg.isControl
  | _ => true

omit [DecidableEq ι] in
theorem Effect.destroysClient_of_isControl {e : Effect ι} (h : e.isControl = true) :
    e.destroysClient = false := by
  cases e <;> first | rfl | cases h

omit [DecidableEq ι] in
theorem Effect.isData_of_isControl {e : Effect ι} (h : e.isControl = true) : e.isData = false := by
  cases e with
  | send client about msg ok => cases msg <;> first | rfl | cases h
  | updateEvent | releasePayload => cases h
  | subscribeEvent | unsubscribeEvent | destroyServerConnector | destroyClientConnector
  | requestSent | assertFailed => rfl

namespace Binding

variable {env : Env ι} {b b' : Binding ι} {key : Key} {client : ι} {effects : List (Effect ι)}
  {e : Effect ι}

theorem isControl_addMapping {ids : Ids} (he : e ∈ (b.addMapping client ids).2) :
    e.isControl = true := by
  rw [Binding.eq_of_mem_addMapping he]
  rfl

theorem isControl_unsubscribeEffects (he : e ∈ b.unsubscribeEffects client) :
    e.isControl = true := by
  obtain ⟨_, _, _, _, -, -, -, rfl⟩ := exists_of_mem_unsubscribeEffects he
  rfl

theorem isControl_connects (h : Connects env key b effects b') (he : e ∈ effects) :
    e.isControl = true := by
  obtain ⟨_, _, _, rfl⟩ := h.sends e he
  rfl

theorem isControl_serviceStateChange {isAvailable : Bool} {counts : ServiceCounts}
    (h : b.serviceStateChange env key isAvailable counts = some (b', effects)) (he : e ∈ effects) :
    e.isControl = true := by
  rw [(serviceStateChange_eq_some.1 h).2.2] at he
  obtain ⟨_, -, rfl⟩ := List.mem_map.1 he
  rfl

theorem isControl_sendRequestService {counts : ServiceCounts} {inUse : Bool}
    (h : b.sendRequestService env key counts inUse = some (b', effects)) (he : e ∈ effects) :
    e.isControl = true := by
  cases hclient : b.serviceStates.hasClientConnector key with
  | true =>
      rw [sendRequestService_skipped hclient] at h
      cases h
      cases he
  | false =>
      have hall : ∀ inUse, e ∈ b.sendToAll env (some key) (.requestService key inUse) →
          e.isControl = true := by
        intro inUse he
        obtain ⟨_, -, rfl⟩ := List.mem_map.1 he
        rfl
      cases inUse with
      | true =>
          obtain ⟨more, hmore, rfl⟩ := (sendRequestService_true hclient).1 h
          simp only [List.cons_append, List.mem_cons, List.mem_append] at he
          obtain rfl | he | he := he
          · rfl
          · exact hall true he
          · exact isControl_connects (connects_of_maybeSendConnectServiceLocked hmore) he
      | false =>
          rw [sendRequestService_false hclient] at h
          cases h
          simp only [List.cons_append, List.mem_cons, List.mem_append] at he
          obtain rfl | he | he := he
          · rfl
          · exact hall false he
          · obtain ⟨_, -, rfl⟩ := List.mem_map.1 he
            rfl

theorem destroysClient_sendEventUpdate {eventId : Nat} {payload : Payload ι}
    (h : b.sendEventUpdate env key eventId payload = some (b', effects)) (he : e ∈ effects) :
    e.destroysClient = false := by
  obtain ⟨allocations, more, hmore, -, rfl⟩ := sendEventUpdate_eq_some.1 h
  rcases List.mem_append.1 he with he | he
  · obtain ⟨_, _, -, -, rfl⟩ | rfl := mem_eventUpdates he <;> rfl
  · obtain ⟨_, rfl⟩ := Allocations.exists_of_mem_insertAllocation hmore he
    rfl

theorem isControl_handleRequestServiceMessage {inUse : Bool} {result : ClientConnectorResult}
    (h : b.handleRequestServiceMessage env client key inUse result = some (b', effects))
    (he : e ∈ effects) : e.isControl = true := by
  cases inUse with
  | false =>
      obtain ⟨rfl, -⟩ := handleRequestServiceMessage_false h
      exact isControl_unsubscribeEffects he
  | true =>
      obtain ⟨-, -, rfl⟩ | ⟨-, -, -, rfl⟩ | ⟨-, -, hcreate⟩ := handleRequestServiceMessage_true h
      · rw [List.mem_singleton.1 he]
        rfl
      · cases he
      · cases result with
        | failed =>
            obtain ⟨rfl, -⟩ := createClientConnector_failed hcreate
            cases he
        | connected counts =>
            obtain ⟨-, rfl, -⟩ := createClientConnector_connected hcreate
            obtain ⟨_, -, rfl⟩ := List.mem_map.1 he
            rfl
        | waiting =>
            obtain ⟨rfl, -⟩ := createClientConnector_waiting hcreate
            cases he

theorem isControl_handleOfferServiceMessage {offered : Bool}
    (h : b.handleOfferServiceMessage env client key offered = some (b', effects))
    (he : e ∈ effects) : e.isControl = true := by
  cases offered with
  | false =>
      obtain ⟨rfl, -⟩ := handleOfferServiceMessage_false h
      obtain ⟨_, -, rfl⟩ := List.mem_map.1 he
      rfl
  | true =>
      rw [handleOfferServiceMessage_true] at h
      exact isControl_connects (connects_of_maybeSendConnectServiceLocked h) he

theorem isControl_handleConnectServiceReplyMessage {requiredId providedId : Nat}
    {metadata : SharedMemoryMetadata} {counts : ServiceCounts} {reply : Option (PendingReply ι)}
    (h : b.handleConnectServiceReplyMessage env client requiredId providedId metadata counts =
      some (b', effects, reply)) (he : e ∈ effects) : e.isControl = true := by
  obtain ⟨-, -, rfl, -⟩ | ⟨_, -, ⟨-, -, rfl, -⟩ | ⟨_, _, -, -, -, rfl, -⟩⟩ :=
    handleConnectServiceReplyMessage_cases h
  · cases he
  · cases he
  · exact isControl_addMapping he

theorem isControl_handleSubscribeEventMessage {providedId eventId : Nat} {subscribe : Bool}
    (he : e ∈ (b.handleSubscribeEventMessage client providedId eventId subscribe).2) :
    e.isControl = true := by
  cases hids : b.idMapping.getByLocalHandle client providedId with
  | none =>
      rw [handleSubscribeEventMessage_none hids] at he
      cases he
  | some ids =>
      rw [(handleSubscribeEventMessage_some hids).1] at he
      obtain ⟨_, -, he⟩ := List.mem_flatMap.1 he
      obtain ⟨-, rfl⟩ | ⟨-, rfl⟩ := ServiceState.exists_of_mem_updateEventSubscription _ _ _ he <;> rfl

theorem destroysClient_handleEventUpdateMessage {requiredId eventId : Nat}
    {handle : SharedMemoryHandle}
    (h : b.handleEventUpdateMessage client requiredId eventId handle = some (b', effects))
    (he : e ∈ effects) : e.destroysClient = false := by
  obtain ⟨-, rfl⟩ | ⟨_, _, -, -, ⟨-, rfl⟩ | ⟨_, _, -, rfl⟩⟩ := handleEventUpdateMessage_effects h
  · cases he
  · rw [List.mem_singleton.1 he]
    rfl
  · rw [List.mem_singleton.1 he]
    rfl

theorem isControl_removeClient (he : e ∈ (b.removeClient client).2) :
    e.isControl = true := by
  obtain he | ⟨_, _, _, -, -, rfl⟩ := mem_removeClient_effects he
  · exact isControl_unsubscribeEffects he
  · rfl

end Binding

namespace Endpoint

variable {env : Env ι} {n n' : Endpoint ι} {key : Key} {effects : List (Effect ι)}

theorem isControl_notifyClient {isAvailable : Bool} {counts : ServiceCounts}
    (h : n.notifyClient env key isAvailable counts = some (n', effects)) :
    ∀ e ∈ effects, e.isControl = true := by
  obtain ⟨-, -, rfl⟩ | ⟨-, b, hb, -⟩ := notifyClient_cases h
  · simp
  · exact fun e he => Binding.isControl_serviceStateChange hb he

theorem isControl_disableServer (h : n.disableServer env key = some (n', effects)) :
    ∀ e ∈ effects, e.isControl = true := by
  obtain ⟨-, -, rfl⟩ | ⟨server, -, hnotify⟩ := disableServer_cases h
  · simp
  · exact isControl_notifyClient hnotify

omit [DecidableEq ι] in
theorem TellsPeer.isControl {e : Effect ι} (h : TellsPeer env n key e) : e.isControl = true := by
  obtain ⟨_, _, _, -, rfl⟩ := h
  rfl

theorem isControl_destroyClient {bridged : Bool}
    (h : n.destroyClient env key bridged = some (n', effects)) :
    ∀ e ∈ effects, e.isControl = true := by
  obtain ⟨b, caused, -, rfl, hcases⟩ := destroyClient_cases h
  intro e he
  rcases List.mem_append.1 he with he | he
  · exact (tellsPeer_of_mem_unsubscribeAll he).isControl
  · obtain ⟨-, -, rfl⟩ | ⟨-, hb⟩ := hcases
    · cases he
    · exact Binding.isControl_sendRequestService hb he

theorem destroysClient_socomUpdate {eventId : Nat} {payload : Payload ι}
    (h : n.socomUpdate env key eventId payload = some (n', effects)) :
    ∀ e ∈ effects, e.destroysClient = false := by
  obtain ⟨-, rfl⟩ | ⟨-, -, rfl⟩ | ⟨-, b, hb, -⟩ := socomUpdate_cases h
  · simp [Effect.destroysClient]
  · simp
  · exact fun e he => Binding.destroysClient_sendEventUpdate hb he

/-- A call without a payload causes control only. -/
theorem isControl_performOne {c : Effect ι} (hc : c.isData = false)
    (h : n.performOne env c = some (n', effects)) : ∀ e ∈ effects, e.isControl = true := by
  cases Performs.of_performOne h with
  | inert => simp
  | subscribe => exact fun e he => (tellsPeer_of_mem_socomSubscribe he).isControl
  | unsubscribe => exact fun e he => (tellsPeer_of_mem_socomUnsubscribe he).isControl
  | reject | update | forget | acknowledge => cases hc
  | destroyServer hdisable => exact isControl_disableServer hdisable
  | destroyClient hdestroy => exact isControl_destroyClient hdestroy

/-- No call causes the destruction of a client connector. -/
theorem destroysClient_performOne {c : Effect ι}
    (h : n.performOne env c = some (n', effects)) : ∀ e ∈ effects, e.destroysClient = false := by
  cases hc : c.isData with
  | false => exact fun e he => Effect.destroysClient_of_isControl (isControl_performOne hc h e he)
  | true =>
      cases Performs.of_performOne h with
      | inert | forget => simp
      | reject => simp [Effect.destroysClient]
      | update _ hupdate => exact destroysClient_socomUpdate hupdate
      | acknowledge => simp [Effect.destroysClient, Env.send]
      | subscribe | unsubscribe | destroyServer | destroyClient => cases hc

theorem isControl_finishReply {reply : PendingReply ι}
    (h : n.finishReply env reply = some (n', effects)) :
    ∀ e ∈ effects, e.isControl = true := by
  obtain ⟨-, -, rfl⟩ | ⟨-, m, offers, hm, -, rfl⟩ := finishReply_cases h
  · simp [Effect.isControl]
  · intro e he
    rcases List.mem_append.1 he with he | he
    · exact isControl_notifyClient hm e he
    · obtain ⟨_, -, rfl⟩ := List.mem_map.1 he
      rfl

theorem isControl_onReceiveMessage {client : ι} {msg : Message} (hmsg : msg.isControl = true)
    (h : n.onReceiveMessage env client msg = some (n', effects)) :
    ∀ e ∈ effects, e.isControl = true := by
  intro e he
  cases Handles.of_onReceiveMessage h with
  | connect =>
      rcases List.mem_cons.1 he with rfl | he
      · rfl
      · obtain ⟨_, -, rfl⟩ := List.mem_map.1 he
        rfl
  | connectReply hb =>
      obtain ⟨_, _, _, _, rfl⟩ | ⟨_, _, _, -, -, rfl⟩ :=
        (Binding.resumed_of_handleConnectReplyMessage hb).sends e he <;> rfl
  | request hreceive =>
      exact Binding.isControl_handleRequestServiceMessage (receiveRequest_binding hreceive).1 he
  | offer hb => exact Binding.isControl_handleOfferServiceMessage hb he
  | @connectService _ _ _ inUse _ _ hb =>
      cases inUse with
      | false => cases hmsg
      | true =>
          obtain ⟨_, _, -, -, -, rfl⟩ := Binding.handleConnectServiceMessage_true hb
          rcases List.mem_append.1 he with he | he
          · exact Binding.isControl_addMapping he
          · rw [List.mem_singleton.1 he]
            rfl
  | connectServiceReply hb => exact Binding.isControl_handleConnectServiceReplyMessage hb he
  | subscribe => exact Binding.isControl_handleSubscribeEventMessage he
  | eventUpdate | payloadConsumed => cases hmsg

theorem isControl_act {event : Event ι} (hevent : event.isControl = true)
    (h : n.act env event = some (n', effects)) : ∀ e ∈ effects, e.isControl = true := by
  cases Acts.of_act h with
  | idle | register => simp
  | request _ hb => exact fun e he => Binding.isControl_sendRequestService hb he
  | destroy _ hdestroy => exact isControl_destroyClient hdestroy
  | enable _ hnotify => exact isControl_notifyClient hnotify
  | disable _ hdisable => exact isControl_disableServer hdisable
  | subscribe => exact fun e he => (tellsPeer_of_mem_socomSubscribe he).isControl
  | unsubscribe => exact fun e he => (tellsPeer_of_mem_socomUnsubscribe he).isControl
  | update | drop => cases hevent
  | addClient client =>
      intro e he
      rw [Binding.eq_of_mem_addClient he]
      rfl
  | removeClient client => exact fun e he => Binding.isControl_removeClient he
  | receive _ hreceive => exact isControl_onReceiveMessage hevent hreceive
  | finish _ hfinish => exact isControl_finishReply hfinish

theorem destroysClient_act {event : Event ι}
    (hevent : ∀ client k requiredId metadata,
      event ≠ .receive client (.connectService k requiredId metadata false))
    (h : n.act env event = some (n', effects)) : ∀ e ∈ effects, e.destroysClient = false := by
  cases hcontrol : event.isControl with
  | true => exact fun e he => Effect.destroysClient_of_isControl (isControl_act hcontrol h e he)
  | false =>
      cases Acts.of_act h with
      | idle => simp
      | update _ _ hupdate => exact destroysClient_socomUpdate hupdate
      | drop => simp [Effect.destroysClient]
      | receive _ hreceive =>
          cases Handles.of_onReceiveMessage hreceive with
          | eventUpdate hb =>
              exact fun e he => Binding.destroysClient_handleEventUpdateMessage hb he
          | payloadConsumed =>
              intro e he
              obtain ⟨_, rfl⟩ := Binding.exists_of_mem_payloadConsumed he
              rfl
          | @connectService _ _ _ inUse _ _ hb =>
              cases inUse with
              | true => cases hcontrol
              | false => exact absurd rfl (hevent _ _ _ _)
          | connect | connectReply | request | offer | connectServiceReply
          | subscribe => cases hcontrol
      | register | request | destroy | enable | disable | subscribe | unsubscribe | addClient
      | removeClient | finish => cases hcontrol

end Endpoint

end SomeipGateway
