import SomeipGateway.Endpoint.Run

/-! # Properties that the critical sections keep

The binding of an endpoint changes only through its critical sections. Most of
them are control: they neither touch the allocation table nor add or remove a
connection. A property that each control section keeps survives every control
step, one that each section keeps survives every step but a change of the
connections, and one that also survives those holds in every reachable state.
-/

namespace SomeipGateway

/-- The property is kept by every control section; the messages handled are in `ok`. -/
structure ControlRule {ι : Type} [DecidableEq ι] (ok : ι → Message → Prop) (I : Binding ι → Prop) :
    Prop where
  sendRequestService : ∀ {env : Env ι} {b b' : Binding ι} {key counts inUse effects}, I b →
    b.sendRequestService env key counts inUse = some (b', effects) → I b'
  serviceStateChange : ∀ {env : Env ι} {b b' : Binding ι} {key isAvailable counts effects}, I b →
    b.serviceStateChange env key isAvailable counts = some (b', effects) → I b'
  connectReply : ∀ {env : Env ι} {b b' : Binding ι} {status effects}, I b →
    b.handleConnectReplyMessage env status = some (b', effects) → I b'
  requestService : ∀ {env : Env ι} {b b' : Binding ι} {client key inUse result effects},
    ok client (.requestService key inUse) → I b →
    b.handleRequestServiceMessage env client key inUse result = some (b', effects) → I b'
  offerService : ∀ {env : Env ι} {b b' : Binding ι} {client key offered effects},
    ok client (.offerService key offered) → I b →
    b.handleOfferServiceMessage env client key offered = some (b', effects) → I b'
  connectService : ∀ {env : Env ι} {b b' : Binding ι} {client key requiredId metadata inUse effects},
    ok client (.connectService key requiredId metadata inUse) → I b →
    b.handleConnectServiceMessage env client key requiredId metadata inUse =
      some (b', effects) → I b'
  connectServiceReply : ∀ {env : Env ι} {b b' : Binding ι}
    {client requiredId providedId metadata counts effects reply},
    ok client (.connectServiceReply requiredId providedId metadata counts) → I b →
    b.handleConnectServiceReplyMessage env client requiredId providedId metadata counts =
      some (b', effects, reply) → I b'
  subscribeEvent : ∀ {b : Binding ι} {client providedId eventId subscribe},
    ok client (.subscribeEvent providedId eventId subscribe) → I b →
    I (b.handleSubscribeEventMessage client providedId eventId subscribe).1
  eventUpdate : ∀ {b b' : Binding ι} {client requiredId eventId handle effects},
    ok client (.eventUpdate requiredId eventId handle) → I b →
    b.handleEventUpdateMessage client requiredId eventId handle = some (b', effects) → I b'
  addServerConnector : ∀ {b : Binding ι} {key connector}, I b →
    I { b with serviceStates := (b.serviceStates.addServerConnector key connector).1 }

/-- The property is also kept by the sections that write the allocation table. -/
structure SectionRule {ι : Type} [DecidableEq ι] (ok : ι → Message → Prop) (I : Binding ι → Prop) : Prop
    extends ControlRule ok I where
  sendEventUpdate : ∀ {env : Env ι} {b b' : Binding ι} {key eventId payload effects}, I b →
    b.sendEventUpdate env key eventId payload = some (b', effects) → I b'
  payloadConsumed : ∀ {b : Binding ι} {client requiredId handle},
    ok client (.payloadConsumed requiredId handle) → I b →
    I (b.handlePayloadConsumedMessage client requiredId handle).1

/-- The property is also kept when connections come and go. -/
structure SectionInvariant {ι : Type} [DecidableEq ι] (ok : ι → Message → Prop)
    (I : Binding ι → Prop) : Prop extends SectionRule ok I where
  addClient : ∀ {b : Binding ι} {client}, I b → I (b.addClient client).1
  removeClient : ∀ {b : Binding ι} {client}, I b → I (b.removeClient client).1

/-- A property of the connection metadata that every update keeps, where the
mappings added satisfy `P`. -/
structure MetadataRule {ι : Type} [DecidableEq ι] (P : Ids → Prop)
    (J : ConnectionMetadata ι → Prop) : Prop where
  addMapping : ∀ {m client ids}, P ids → J m → J (m.addMapping client ids)
  removeIf : ∀ {m client p}, J m → J (m.removeIf client p)
  removeClient : ∀ {m client}, J m → J (m.removeClient client)

/-- A mapping that is made for the message satisfies `P`. -/
def Message.maps (P : Ids → Prop) : Message → Prop
  | .connectService key requiredId metadata true =>
      ∀ providedId localMetadata, P ⟨key, providedId, requiredId, localMetadata, metadata⟩
  | .connectServiceReply requiredId providedId metadata _ =>
      ∀ key localMetadata, P ⟨key, providedId, requiredId, localMetadata, metadata⟩
  | _ => True

variable {ι : Type}

def Event.keepsConnections : Event ι → Bool
  | .addClient _ | .removeClient _ => false
  | _ => true

/-- The event does not write the allocation table or change the connections. -/
def Event.keepsSlots : Event ι → Bool
  | .updateEvent _ _ _ _ | .receive _ (.payloadConsumed _ _) | .addClient _ | .removeClient _ => false
  | _ => true

/-- If the event is a message, it is in the set. -/
def Event.isFrom (ok : ι → Message → Prop) : Event ι → Prop
  | .receive client msg => ok client msg
  | _ => True

theorem Event.isFrom_true (event : Event ι) : event.isFrom fun _ _ => True := by
  cases event <;> trivial

variable [DecidableEq ι] {ok : ι → Message → Prop} {I : Binding ι → Prop} {env : Env ι} {n n' : Endpoint ι}
  {key : Key} {effects out : List (Effect ι)}

open Endpoint

/-! ## Control -/

namespace ControlRule

/-- Fewer messages are no more to check. -/
theorem mono {ok' : ι → Message → Prop} (hI : ControlRule ok I) (himp : ∀ c msg, ok' c msg → ok c msg) :
    ControlRule ok' I where
  sendRequestService h hb := hI.sendRequestService h hb
  serviceStateChange h hb := hI.serviceStateChange h hb
  connectReply h hb := hI.connectReply h hb
  requestService hok h hb := hI.requestService (himp _ _ hok) h hb
  offerService hok h hb := hI.offerService (himp _ _ hok) h hb
  connectService hok h hb := hI.connectService (himp _ _ hok) h hb
  connectServiceReply hok h hb := hI.connectServiceReply (himp _ _ hok) h hb
  subscribeEvent hok h := hI.subscribeEvent (himp _ _ hok) h
  eventUpdate hok h hb := hI.eventUpdate (himp _ _ hok) h hb
  addServerConnector h := hI.addServerConnector h

theorem notifyClient (hI : ControlRule ok I) {isAvailable : Bool} {counts : ServiceCounts}
    (h0 : I n.binding) (h : n.notifyClient env key isAvailable counts = some (n', effects)) :
    I n'.binding := by
  obtain ⟨-, rfl, -⟩ | ⟨-, b, hb, rfl⟩ := notifyClient_cases h
  · exact h0
  · exact hI.serviceStateChange h0 hb

theorem disableServer (hI : ControlRule ok I) (h0 : I n.binding)
    (h : n.disableServer env key = some (n', effects)) : I n'.binding := by
  obtain ⟨-, rfl, -⟩ | ⟨server, -, hnotify⟩ := disableServer_cases h
  · exact h0
  · exact hI.notifyClient (n := n.setRecord _ _) h0 hnotify

theorem destroyClient (hI : ControlRule ok I) {bridged : Bool} (h0 : I n.binding)
    (h : n.destroyClient env key bridged = some (n', effects)) : I n'.binding := by
  obtain ⟨b, caused, rfl, -, ⟨-, rfl, -⟩ | ⟨-, hb⟩⟩ := destroyClient_cases h
  · exact h0
  · exact hI.sendRequestService h0 hb

/-- A call that carries no payload is control. -/
theorem performOne (hI : ControlRule ok I) {e : Effect ι} (he : e.isData = false)
    (h0 : I n.binding) (h : n.performOne env e = some (n', effects)) : I n'.binding := by
  cases Performs.of_performOne h with
  | inert => exact h0
  | subscribe key eventId => rwa [socomSubscribe_binding]
  | unsubscribe key eventId => rwa [socomUnsubscribe_binding]
  | reject | update | forget | acknowledge => cases he
  | destroyServer hdisable => exact hI.disableServer h0 hdisable
  | destroyClient hdestroy => exact hI.destroyClient h0 hdestroy

theorem finishReply (hI : ControlRule ok I) {reply : PendingReply ι} (h0 : I n.binding)
    (h : n.finishReply env reply = some (n', effects)) : I n'.binding := by
  obtain ⟨-, rfl, -⟩ | ⟨-, m, offers, hm, rfl, -⟩ := finishReply_cases h
  · exact h0
  · exact hI.addServerConnector (hI.notifyClient (n := Endpoint.setRecord _ _ _) (by exact h0) hm)

theorem onReceiveMessage (hI : ControlRule ok I) {client : ι} {msg : Message} (hok : ok client msg)
    (hmsg : ∀ requiredId handle, msg ≠ .payloadConsumed requiredId handle) (h0 : I n.binding)
    (h : n.onReceiveMessage env client msg = some (n', effects)) : I n'.binding := by
  cases Handles.of_onReceiveMessage h with
  | connect => exact h0
  | connectReply hb => exact hI.connectReply h0 hb
  | request hreceive => exact hI.requestService hok h0 (receiveRequest_binding hreceive).1
  | offer hb => exact hI.offerService hok h0 hb
  | connectService hb => exact hI.connectService hok h0 hb
  | connectServiceReply hb => exact hI.connectServiceReply hok h0 hb
  | subscribe => exact hI.subscribeEvent hok h0
  | eventUpdate hb => exact hI.eventUpdate hok h0 hb
  | payloadConsumed => exact absurd rfl (hmsg _ _)

theorem act (hI : ControlRule ok I) {event : Event ι} (hevent : event.keepsSlots = true)
    (hok : event.isFrom ok) (h0 : I n.binding) (h : n.act env event = some (n', effects)) :
    I n'.binding := by
  cases Acts.of_act h with
  | idle | register | drop => exact h0
  | request _ hb => exact hI.sendRequestService h0 hb
  | destroy _ hdestroy => exact hI.destroyClient h0 hdestroy
  | enable _ hnotify => exact hI.notifyClient (n := n.setRecord _ _) h0 hnotify
  | disable _ hdisable => exact hI.disableServer h0 hdisable
  | subscribe => rwa [socomSubscribe_binding]
  | unsubscribe => rwa [socomUnsubscribe_binding]
  | update | addClient | removeClient => cases hevent
  | receive _ hreceive =>
      refine hI.onReceiveMessage hok ?_ h0 hreceive
      rintro requiredId handle rfl
      cases hevent
  | finish _ hfinish => exact hI.finishReply h0 hfinish

end ControlRule

/-! ## All sections -/

namespace SectionRule

theorem mono {ok' : ι → Message → Prop} (hI : SectionRule ok I) (himp : ∀ c msg, ok' c msg → ok c msg) :
    SectionRule ok' I where
  toControlRule := hI.toControlRule.mono himp
  sendEventUpdate h hb := hI.sendEventUpdate h hb
  payloadConsumed hok h := hI.payloadConsumed (himp _ _ hok) h

theorem socomUpdate (hI : SectionRule ok I) {eventId : Nat} {payload : Payload ι}
    (h0 : I n.binding) (h : n.socomUpdate env key eventId payload = some (n', effects)) :
    I n'.binding := by
  obtain ⟨rfl, -⟩ | ⟨-, rfl, -⟩ | ⟨-, b, hb, rfl⟩ := socomUpdate_cases h
  · exact h0
  · exact h0
  · exact hI.sendEventUpdate h0 hb

theorem performOne (hI : SectionRule ok I) {e : Effect ι} (h0 : I n.binding)
    (h : n.performOne env e = some (n', effects)) : I n'.binding := by
  cases hdata : e.isData with
  | false => exact hI.toControlRule.performOne hdata h0 h
  | true =>
      cases Performs.of_performOne h with
      | inert | reject | forget | acknowledge => exact h0
      | update _ hupdate => exact hI.socomUpdate h0 hupdate
      | subscribe | unsubscribe | destroyServer | destroyClient => cases hdata

theorem act (hI : SectionRule ok I) {event : Event ι} (hevent : event.keepsConnections = true)
    (hok : event.isFrom ok) (h0 : I n.binding) (h : n.act env event = some (n', effects)) :
    I n'.binding := by
  cases hslots : event.keepsSlots with
  | true => exact hI.toControlRule.act hslots hok h0 h
  | false =>
      cases Acts.of_act h with
      | idle => exact h0
      | update _ _ hupdate => exact hI.socomUpdate h0 hupdate
      | receive _ hreceive =>
          cases Handles.of_onReceiveMessage hreceive with
          | payloadConsumed => exact hI.payloadConsumed hok h0
          | connect | connectReply | request | offer | connectService | connectServiceReply
          | subscribe | eventUpdate => cases hslots
      | addClient | removeClient => cases hevent
      | register | request | destroy | enable | disable | subscribe | unsubscribe | drop
      | finish => cases hslots

theorem perform (hI : SectionRule ok I) {depth : Nat} (h0 : I n.binding)
    (h : Endpoint.perform env depth n effects = some (n', out)) : I n'.binding :=
  (perform_preserves (I := fun n => I n.binding) (E := fun _ => True)
    (fun _ _ _ _ h0 _ hone => ⟨hI.performOne h0 hone, fun _ _ => trivial⟩) depth h0
    (fun _ _ => trivial) h).1

theorem step (hI : SectionRule ok I) {event : Event ι} (hevent : event.keepsConnections = true)
    (hok : event.isFrom ok) (h0 : I n.binding) (h : n.step env event = some (n', out)) :
    I n'.binding := by
  obtain ⟨m, effects, hact, hperform⟩ := step_eq_some.1 h
  exact hI.perform (hI.act hevent hok h0 hact) hperform

end SectionRule

namespace SectionInvariant

theorem step (hI : SectionInvariant ok I) {event : Event ι} (hok : event.isFrom ok)
    (h0 : I n.binding) (h : n.step env event = some (n', out)) : I n'.binding := by
  cases hevent : event.keepsConnections with
  | true => exact hI.toSectionRule.step hevent hok h0 h
  | false =>
      obtain ⟨m, effects, hact, hperform⟩ := step_eq_some.1 h
      refine hI.toSectionRule.perform ?_ hperform
      cases event with
      | addClient client =>
          cases hact
          exact hI.addClient h0
      | removeClient client =>
          cases hact
          exact hI.removeClient h0
      | makeClientConnector | destroyClientConnector | makeServerConnector
      | destroyServerConnector | enableServerConnector | disableServerConnector
      | subscribeEvent | unsubscribeEvent | updateEvent | dropPayload | receive
      | finishReply => cases hevent

theorem reachable (hI : SectionInvariant ok I) (hinit : I {})
    (h : ReachableVia (fun _ label => label.2.isFrom ok) n) : I n.binding := by
  refine Reach.invariant (I := fun n => I n.binding) hinit ?_ h
  intro n label n' h0 hok hnext
  obtain ⟨r, hr, rfl⟩ := Option.map_eq_some_iff.1 hnext
  exact hI.step hok h0 hr

end SectionInvariant

/-! ## The connection metadata -/

namespace MetadataRule

variable {P : Ids → Prop} {J : ConnectionMetadata ι → Prop} {b b' : Binding ι}

theorem removeService (hJ : MetadataRule P J) {m : ConnectionMetadata ι} (h : J m) (key : Key) :
    J (m.removeService key) := by
  unfold ConnectionMetadata.removeService
  generalize m.idToKey.keys = clients
  induction clients generalizing m with
  | nil => exact h
  | cons client rest ih => exact ih (hJ.removeIf h)

theorem sendRequestService (hJ : MetadataRule P J) {counts : ServiceCounts} {inUse : Bool}
    (h : J b.idMapping) (hb : b.sendRequestService env key counts inUse = some (b', effects)) :
    J b'.idMapping := by
  cases hclient : b.serviceStates.hasClientConnector key with
  | true =>
      rw [Binding.sendRequestService_skipped hclient] at hb
      cases hb
      exact h
  | false =>
      cases inUse with
      | true =>
          obtain ⟨more, hmore, -⟩ := (Binding.sendRequestService_true hclient).1 hb
          rw [(Binding.connects_of_maybeSendConnectServiceLocked hmore).frame]
          exact h
      | false =>
          rw [Binding.sendRequestService_false hclient] at hb
          cases hb
          exact hJ.removeService h key

theorem requestService (hJ : MetadataRule P J) {client : ι} {inUse : Bool}
    {result : ClientConnectorResult} (h : J b.idMapping)
    (hb : b.handleRequestServiceMessage env client key inUse result = some (b', effects)) :
    J b'.idMapping := by
  cases inUse with
  | false =>
      cases hb
      exact hJ.removeIf h
  | true =>
      obtain ⟨-, rfl, -⟩ | ⟨-, -, rfl, -⟩ | ⟨-, -, hcreate⟩ :=
        Binding.handleRequestServiceMessage_true hb
      · exact h
      · exact h
      · rw [(Binding.createClientConnector_frame hcreate).1]
        exact h

theorem offerService (hJ : MetadataRule P J) {client : ι} {offered : Bool} (h : J b.idMapping)
    (hb : b.handleOfferServiceMessage env client key offered = some (b', effects)) :
    J b'.idMapping := by
  cases offered with
  | false =>
      cases hb
      exact hJ.removeService h key
  | true =>
      rw [Binding.handleOfferServiceMessage_true] at hb
      rw [(Binding.connects_of_maybeSendConnectServiceLocked hb).frame]
      exact h

theorem connectService (hJ : MetadataRule P J) {client : ι} {requiredId : Nat}
    {metadata : SharedMemoryMetadata} {inUse : Bool}
    (hmaps : (Message.connectService key requiredId metadata inUse).maps P) (h : J b.idMapping)
    (hb : b.handleConnectServiceMessage env client key requiredId metadata inUse =
      some (b', effects)) : J b'.idMapping := by
  cases inUse with
  | false =>
      cases hb
      exact hJ.removeIf h
  | true =>
      obtain ⟨_, _, -, -, rfl, -⟩ := Binding.handleConnectServiceMessage_true hb
      exact hJ.addMapping (hmaps _ _) h

theorem sections (hJ : MetadataRule P J) :
    SectionRule (fun _ msg => msg.maps P) (fun b : Binding ι => J b.idMapping) where
  sendRequestService h hb := hJ.sendRequestService h hb
  serviceStateChange h hb := by
    obtain ⟨-, rfl, -⟩ := Binding.serviceStateChange_eq_some.1 hb
    simp only
    split
    · exact h
    · exact hJ.removeService h _
  connectReply h hb := by
    rw [(Binding.resumed_of_handleConnectReplyMessage hb).frame]
    exact h
  requestService _ h hb := hJ.requestService h hb
  offerService _ h hb := hJ.offerService h hb
  connectService hmaps h hb := hJ.connectService hmaps h hb
  connectServiceReply hmaps h hb := by
    obtain ⟨-, rfl, -⟩ | ⟨_, -, ⟨-, rfl, -⟩ | ⟨_, _, -, -, rfl, -⟩⟩ :=
      Binding.handleConnectServiceReplyMessage_cases hb
    · exact h
    · exact h
    · exact hJ.addMapping (hmaps _ _) h
  subscribeEvent _ h := by
    rw [Binding.handleSubscribeEventMessage_frame]
    exact h
  eventUpdate _ h hb := by
    rw [Binding.handleEventUpdateMessage_frame hb]
    exact h
  addServerConnector h := h
  sendEventUpdate h hb := by
    rw [Binding.sendEventUpdate_frame hb]
    exact h
  payloadConsumed _ h := by
    rw [Binding.handlePayloadConsumedMessage_frame]
    exact h

theorem invariant (hJ : MetadataRule P J) :
    SectionInvariant (fun _ msg => msg.maps P) (fun b : Binding ι => J b.idMapping) where
  toSectionRule := hJ.sections
  addClient h := h
  removeClient h := hJ.removeClient h

theorem maps_of_forall (hP : ∀ ids, P ids) (msg : Message) : msg.maps P := by
  cases msg with
  | connectService key requiredId metadata inUse =>
      cases inUse with
      | true => exact fun _ _ => hP _
      | false => trivial
  | connectServiceReply => exact fun _ _ => hP _
  | connect | connectReply | requestService | offerService | subscribeEvent | eventUpdate
  | payloadConsumed => trivial

end MetadataRule

end SomeipGateway
