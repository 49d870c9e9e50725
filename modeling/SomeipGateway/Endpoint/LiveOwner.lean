import SomeipGateway.Endpoint.Calls
import SomeipGateway.Endpoint.Foreign
import SomeipGateway.Endpoint.Isolation

/-! # The peer behind a server connector

A server connector is made from the reply of one peer. That peer should be
connected, should offer the service, and the mapping that its reply added should
exist. The connector is stored in the second critical section of the reply
handler, which looks at none of this, and the removal of a client looks at the
offers of the others before it drops the connector.
-/

namespace SomeipGateway

variable {ι : Type} [DecidableEq ι]

namespace Binding

variable {env : Env ι} {b b' : Binding ι} {key key' : Key} {effects : List (Effect ι)}

def offers (b : Binding ι) (key : Key) (client : ι) : Bool :=
  (b.view key).state.any fun state => (state.offers.lookup client).any fun offer => offer.offered

structure OwnerLive (b : Binding ι) (key : Key) (connector : EnabledConnector ι) : Prop where
  connected : connector.client ∈ b.connections
  offers : b.offers key connector.client = true
  mapping : ∃ ids ∈ (b.view key).ids connector.client, ids.remoteHandle = connector.requiredId

instance (b : Binding ι) (key : Key) (connector : EnabledConnector ι) :
    Decidable (b.OwnerLive key connector) :=
  decidable_of_iff
    (connector.client ∈ b.connections ∧ b.offers key connector.client = true ∧
      ∃ ids ∈ (b.view key).ids connector.client, ids.remoteHandle = connector.requiredId)
    ⟨fun h => ⟨h.1, h.2.1, h.2.2⟩, fun h => ⟨h.connected, h.offers, h.mapping⟩⟩

def OwnersLive (b : Binding ι) (key : Key) : Prop :=
  ∀ connector, b.connector key = some connector → b.OwnerLive key connector

/-- A connector that the service has afterwards it had before, and its owner is
still live if it was. -/
def Shelters (key : Key) (b b' : Binding ι) : Prop :=
  ∀ connector, b'.connector key = some connector →
    b.connector key = some connector ∧ (b.OwnerLive key connector → b'.OwnerLive key connector)

theorem Shelters.refl (key : Key) (b : Binding ι) : Shelters key b b :=
  fun _ h => ⟨h, id⟩

theorem Shelters.trans {b'' : Binding ι} (h : Shelters key b b') (h' : Shelters key b' b'') :
    Shelters key b b'' := by
  intro connector hconn
  obtain ⟨hmid, hlive'⟩ := h' connector hconn
  obtain ⟨hold, hlive⟩ := h connector hmid
  exact ⟨hold, hlive' ∘ hlive⟩

theorem OwnersLive.of_shelters (h : b.OwnersLive key) (hshelters : Shelters key b b') :
    b'.OwnersLive key := by
  intro connector hconn
  obtain ⟨hold, hkeeps⟩ := hshelters connector hconn
  exact hkeeps (h connector hold)

theorem shelters_of_none (h : b'.connector key = none) : Shelters key b b' := by
  intro connector hconn
  rw [h] at hconn
  cases hconn

/-- The connector stays and what makes its owner live only grows. -/
theorem shelters_of_grows (hconn : b'.connector key = b.connector key)
    (hconnections : b.connections ⊆ b'.connections)
    (hoffers : ∀ client, b.offers key client = true → b'.offers key client = true)
    (hids : ∀ client, (b.view key).ids client ⊆ (b'.view key).ids client) : Shelters key b b' := by
  intro connector hconnector
  refine ⟨hconn ▸ hconnector, fun hlive => ?_⟩
  obtain ⟨ids, hin, hremote⟩ := hlive.mapping
  exact ⟨hconnections hlive.connected, hoffers _ hlive.offers, ids, hids _ hin, hremote⟩

theorem shelters_of_view (hview : b'.view key = b.view key)
    (hconnections : b'.connections = b.connections) : Shelters key b b' := by
  refine shelters_of_grows ?_ ?_ ?_ ?_
  · simp only [connector, hview]
  · simp [hconnections]
  · intro client h
    simpa only [offers, hview] using h
  · simp [hview]

theorem Resumed.connector (h : Resumed env b effects b') (key : Key) :
    b'.connector key = b.connector key := by
  obtain ⟨offers, hoffers, -⟩ := h.state key
  simp only [Binding.connector, view, hoffers]
  cases b.serviceStates.lookup key <;> rfl

theorem Resumed.offers (h : Resumed env b effects b') (key : Key) (client : ι) :
    b'.offers key client = b.offers key client := by
  obtain ⟨offers, hoffers, hflags⟩ := h.state key
  simp only [Binding.offers, view, hoffers]
  cases hstate : b.serviceStates.lookup key with
  | none => rfl
  | some state =>
      have hany : ∀ o : Option OfferState,
          (o.any fun offer => offer.offered) = (o.map (·.offered)).getD false := by
        intro o
        cases o <;> rfl
      simp [hany, hflags state client hstate]

theorem Resumed.shelters (h : Resumed env b effects b') (key : Key) : Shelters key b b' := by
  refine shelters_of_grows (h.connector key) ?_ ?_ ?_
  · rw [h.frame]
    exact fun _ hin => hin
  · intro client hoffers
    rw [h.offers, hoffers]
  · intro client
    rw [h.frame]
    exact fun _ hin => hin

theorem shelters_sendRequestService {counts : ServiceCounts} {inUse : Bool}
    (h : b.sendRequestService env key' counts inUse = some (b', effects)) : Shelters key b b' := by
  by_cases hk : key' = key
  · subst hk
    cases hclient : b.serviceStates.hasClientConnector key' with
    | true =>
        rw [sendRequestService_skipped hclient] at h
        cases h
        exact .refl key' b
    | false =>
        cases inUse with
        | true =>
            obtain ⟨more, hmore, -⟩ := (sendRequestService_true hclient).1 h
            refine Shelters.trans ?_
              ((connects_of_maybeSendConnectServiceLocked hmore).resumed.shelters key')
            refine shelters_of_grows ?_ (fun _ hin => hin) ?_ ?_
            · simp only [connector, view, ServiceStates.getOrCreate, AList.lookup_insert]
              cases b.serviceStates.lookup key' <;> rfl
            · intro client hoffers
              simp only [offers, view_insertState, ServiceStates.getOrCreate]
              simp only [offers, view] at hoffers
              cases hstate : b.serviceStates.lookup key' <;> simp_all
            · intro client
              rw [view_insertState]
              exact fun _ hin => hin
        | false =>
            rw [sendRequestService_false hclient] at h
            cases h
            exact shelters_of_none (by simp [connector, view_unrequested])
  · obtain ⟨hsame, -⟩ := sameAt_sendRequestService hk h
    exact shelters_of_view hsame.view hsame.connections

theorem shelters_handleOfferServiceMessage {client : ι} {offered : Bool}
    (h : b.handleOfferServiceMessage env client key' offered = some (b', effects)) :
    Shelters key b b' := by
  cases offered with
  | false =>
      obtain ⟨-, hconnections, -, hself, hother⟩ := handleOfferServiceMessage_false h
      by_cases hk : key = key'
      · subst hk
        exact shelters_of_none (by simp [connector, hself])
      · exact shelters_of_view (hother key hk) hconnections
  | true =>
      rw [handleOfferServiceMessage_true] at h
      refine Shelters.trans ?_ ((connects_of_maybeSendConnectServiceLocked h).resumed.shelters key)
      by_cases hk : key = key'
      · subst hk
        refine shelters_of_grows ?_ (fun _ hin => hin) ?_ ?_
        · simp only [connector, view_withOffer]
          cases (b.view key).state <;> rfl
        · intro c hoffers
          simp only [offers, view_withOffer, Option.any_some, Table.lookup_insert_ite]
          split
          · rfl
          · simp only [offers] at hoffers
            cases hstate : (b.view key).state <;> simp_all
        · intro c
          rw [view_withOffer]
          exact fun _ hin => hin
      · exact shelters_of_view (view_withOffer_of_ne hk) rfl

theorem shelters_addMapping {client : ι} {ids : Ids} :
    Shelters key b (b.addMapping client ids).1 := by
  by_cases hk : ids.key = key
  · refine shelters_of_grows ?_ (fun _ hin => hin) ?_ ?_
    · rw [connector, view_addMapping hk]
      rfl
    · intro c hoffers
      rw [offers, view_addMapping hk]
      exact hoffers
    · intro c
      rw [view_addMapping hk]
      by_cases hc : c = client
      · subst hc
        simp
      · simp [hc]
  · exact shelters_of_view (view_addMapping_of_ne hk) rfl

theorem shelters_handleConnectServiceReplyMessage {client : ι} {requiredId providedId : Nat}
    {metadata : SharedMemoryMetadata} {counts : ServiceCounts} {reply : Option (PendingReply ι)}
    (h : b.handleConnectServiceReplyMessage env client requiredId providedId metadata counts =
      some (b', effects, reply)) : Shelters key b b' := by
  have herase : ∀ pending, Shelters key b { b with pendingConnects := pending } := fun pending =>
    shelters_of_grows rfl (fun _ hin => hin) (fun _ hoffers => hoffers) (fun _ _ hin => hin)
  obtain ⟨-, rfl, -⟩ | ⟨k, -, ⟨-, rfl, -⟩ | ⟨_, _, -, -, rfl, -⟩⟩ :=
    handleConnectServiceReplyMessage_cases h
  · exact .refl key b'
  · exact herase _
  · exact (herase _).trans shelters_addMapping

/-- The state keeps its connector and its offers, and nothing else changes. -/
theorem shelters_of_state {f : ServiceState ι → ServiceState ι}
    (hview : b'.view key = { b.view key with state := (b.view key).state.map f })
    (hconnections : b'.connections = b.connections)
    (hconn : ∀ state, (f state).enabledConnector = state.enabledConnector)
    (hoffers : ∀ state, (f state).offers = state.offers) : Shelters key b b' := by
  refine shelters_of_grows ?_ (by simp [hconnections]) ?_ (by simp [hview])
  · simp only [connector, hview]
    cases (b.view key).state <;> simp [hconn]
  · intro client h
    simp only [offers, hview]
    simp only [offers] at h
    cases hstate : (b.view key).state <;> simp_all

theorem shelters_handleSubscribeEventMessage {client : ι} {providedId eventId : Nat}
    {subscribe : Bool} :
    Shelters key b (b.handleSubscribeEventMessage client providedId eventId subscribe).1 := by
  cases hids : b.idMapping.getByLocalHandle client providedId with
  | none =>
      rw [handleSubscribeEventMessage_none hids]
      exact .refl key b
  | some ids =>
      refine shelters_of_state ((handleSubscribeEventMessage_some hids).2 key) ?_ ?_ ?_
      · simp [handleSubscribeEventMessage, hids]
      · intro state
        split
        · rw [ServiceState.updateEventSubscription_frame]
        · rfl
      · intro state
        split
        · rw [ServiceState.updateEventSubscription_frame]
        · rfl

/-- A client that goes away: the connector of another owner stays with it, and
its own goes when nobody else offers the service. -/
theorem OwnersLive.removeClient {client : ι} (hlive : b.OwnersLive key)
    (hlast : ∀ connector state, b.connector key = some connector → connector.client = client →
      (b.view key).state = some state → ∀ c, c ≠ client → state.offers.lookup c = none) :
    (b.removeClient client).1.OwnersLive key := by
  intro connector h
  have hview : (b.removeClient client).1.view key = _ := removeClient_view
  cases hstate : (b.view key).state with
  | none => simp [Binding.connector, hview, hstate] at h
  | some state =>
      simp only [Binding.connector, hview, hstate, Option.map_some, Option.bind_some] at h
      have hconn := ServiceState.enabledConnector_removeOffer h
      have hold : b.connector key = some connector := by
        rw [Binding.connector, hstate]
        exact hconn
      have hwas := hlive connector hold
      have hoffered : (state.offers.lookup connector.client).any (fun o => o.offered) = true := by
        simpa [Binding.offers, hstate] using hwas.offers
      obtain ⟨offer, hoffer, hflag⟩ := (Option.any_eq_true _ _).1 hoffered
      have hne : connector.client ≠ client := by
        intro heq
        obtain ⟨c, hc, hsome⟩ := ServiceState.exists_offer_of_removeOffer h (heq ▸ hoffer)
        exact hsome (hlast connector state hold heq hstate c hc)
      obtain ⟨ids, hin, hremote⟩ := hwas.mapping
      refine ⟨?_, ?_, ids, ?_, hremote⟩
      · show connector.client ∈ b.connections.erase client
        exact (List.mem_erase_of_ne hne).2 hwas.connected
      · simp only [Binding.offers, hview, hstate, Option.map_some, Option.any_some,
          ServiceState.lookup_removeOffer, if_neg hne]
        exact hoffered
      · rw [hview]
        simpa only [if_neg hne] using hin

end Binding

namespace Endpoint

variable {env : Env ι} {n n' : Endpoint ι} {key : Key} {effects out : List (Effect ι)}

/-! ## The requester role

Peers that request services of the endpoint or connect to them are the other
role; without them no client connector of the bridge is made, and SOCom never
calls the binding back. -/

def requesterRole : Event ι → Bool
  | .receive _ (.requestService _ _) | .receive _ (.connectService _ _ _ _) => false
  | _ => true

/-- No record has the bridge as its client. -/
def NoBridgeClient (n : Endpoint ι) : Prop :=
  ∀ key, (n.records key).client ≠ some .bridge

omit [DecidableEq ι] in
theorem NoBridgeClient.setRecord (h : NoBridgeClient n) {record : Record ι}
    (hrecord : record.client ≠ some .bridge) : NoBridgeClient (n.setRecord key record) := by
  intro key'
  by_cases hk : key' = key
  · subst hk
    simpa using hrecord
  · simpa [hk] using h key'

theorem NoBridgeClient.notifyClient (h : NoBridgeClient n) {isAvailable : Bool}
    {counts : ServiceCounts}
    (hnotify : n.notifyClient env key isAvailable counts = some (n', effects)) :
    n' = n := by
  obtain ⟨-, rfl, -⟩ | ⟨hbridge, -⟩ := notifyClient_cases hnotify
  · rfl
  · exact absurd hbridge (h key)

theorem NoBridgeClient.disableServer (h : NoBridgeClient n)
    (hdisable : n.disableServer env key = some (n', effects)) :
    NoBridgeClient n' ∧ n'.binding = n.binding := by
  obtain ⟨-, rfl, -⟩ | ⟨server, -, hnotify⟩ := disableServer_cases hdisable
  · exact ⟨h, rfl⟩
  · have hset : NoBridgeClient
        (n.setRecord key { n.records key with server := none, subscribed := ∅ }) :=
      h.setRecord (h key)
    obtain rfl := hset.notifyClient hnotify
    exact ⟨hset, rfl⟩

theorem NoBridgeClient.socomUpdate (h : NoBridgeClient n) {eventId : Nat} {payload : Payload ι}
    (hupdate : n.socomUpdate env key eventId payload = some (n', effects)) :
    NoBridgeClient n' ∧ n'.binding = n.binding := by
  obtain ⟨rfl, -⟩ | ⟨-, rfl, -⟩ | ⟨hbridge, -⟩ := socomUpdate_cases hupdate
  · exact ⟨h, rfl⟩
  · exact ⟨h, rfl⟩
  · exact absurd hbridge (h key)

omit [DecidableEq ι] in
theorem NoBridgeClient.sameButSubscriptions (h : NoBridgeClient n)
    (hsame : SameButSubscriptions n n') : NoBridgeClient n' ∧ n'.binding = n.binding :=
  ⟨fun key => hsame.client key ▸ h key, hsame.binding⟩

theorem NoBridgeClient.performOne (h : NoBridgeClient n) {e : Effect ι}
    (he : e.destroysClient = false) (hone : n.performOne env e = some (n', effects)) :
    NoBridgeClient n' ∧ n'.binding = n.binding := by
  cases Performs.of_performOne hone with
  | inert | reject | forget | acknowledge => exact ⟨h, rfl⟩
  | subscribe k eventId =>
      exact h.sameButSubscriptions (sameButSubscriptions_socomSubscribe env n k eventId)
  | unsubscribe k eventId =>
      exact h.sameButSubscriptions (sameButSubscriptions_socomUnsubscribe env n k eventId)
  | update _ hupdate => exact h.socomUpdate hupdate
  | destroyServer hdisable => exact h.disableServer hdisable
  | destroyClient => cases he

/-- Without a bridge client the calls of the binding never reach it again. -/
theorem NoBridgeClient.perform {depth : Nat} (h : NoBridgeClient n)
    (hcalls : ∀ e ∈ effects, e.destroysClient = false)
    (hperform : perform env depth n effects = some (n', out)) :
    NoBridgeClient n' ∧ n'.binding = n.binding := by
  refine (perform_preserves (I := fun m => NoBridgeClient m ∧ m.binding = n.binding)
    (E := fun e => e.destroysClient = false) ?_ depth ⟨h, rfl⟩ hcalls hperform).1
  rintro m e m' caused ⟨hm, hbinding⟩ he hone
  obtain ⟨hm', hsame⟩ := hm.performOne he hone
  exact ⟨⟨hm', hsame.trans hbinding⟩, destroysClient_performOne hone⟩

/-! ## The steps -/

/-- The two places that do not look at the owner. The second section of a reply
stores the connector while its peer is connected, offers the service and has the
mapping, and the owner of a connector disconnects as the last one to offer. -/
def keepsOwner (key : Key) (n : Endpoint ι) : Event ι → Bool
  | .finishReply client =>
      (n.replyOf client).all fun reply =>
        reply.key ≠ key || (n.records key).server.isSome || (n.binding.view key).state.isNone ||
          n.binding.OwnerLive key reply.connector
  | .removeClient client =>
      (n.binding.view key).state.all fun state =>
        state.enabledConnector.all fun connector =>
          connector.client ≠ client || state.offers.keys.all fun c => c = client
  | _ => true

/-- The endpoint is in the requester role and the service has a live owner. -/
structure Sheltered (key : Key) (n : Endpoint ι) : Prop where
  noBridge : NoBridgeClient n
  owners : n.binding.OwnersLive key

theorem Sheltered.setBinding (h : Sheltered key n) {b : Binding ι}
    (hshelters : Binding.Shelters key n.binding b) : Sheltered key { n with binding := b } :=
  ⟨h.noBridge, h.owners.of_shelters hshelters⟩

theorem Sheltered.of_binding (h : Sheltered key n)
    (hsame : NoBridgeClient n' ∧ n'.binding = n.binding) : Sheltered key n' :=
  ⟨hsame.1, hsame.2 ▸ h.owners⟩

theorem Sheltered.destroyClient (h : Sheltered key n) {k : Key} {bridged : Bool}
    (hdestroy : n.destroyClient env k bridged = some (n', effects)) : Sheltered key n' := by
  obtain ⟨b, caused, rfl, -, ⟨-, rfl, -⟩ | ⟨-, hb⟩⟩ := destroyClient_cases hdestroy
  · exact ⟨h.noBridge.setRecord (by simp), h.owners⟩
  · exact ⟨h.noBridge.setRecord (by simp),
      h.owners.of_shelters (Binding.shelters_sendRequestService hb)⟩

theorem Sheltered.finishReply (h : Sheltered key n) {reply : PendingReply ι}
    (hok : reply.key = key → (n.records key).server.isSome = true ∨
      (n.binding.view key).state = none ∨ n.binding.OwnerLive key reply.connector)
    (hfinish : n.finishReply env reply = some (n', effects)) : Sheltered key n' := by
  obtain ⟨-, rfl, -⟩ | ⟨hserver, m, offers, hm, rfl, -⟩ := finishReply_cases hfinish
  · exact ⟨h.noBridge, h.owners⟩
  · have hset : NoBridgeClient ({ n with replies := n.replies.erase reply }.setRecord reply.key
        { n.records reply.key with server := some (.bridge reply.connector) }) :=
      NoBridgeClient.setRecord (n := { n with replies := n.replies.erase reply }) h.noBridge
        (h.noBridge reply.key)
    obtain rfl := hset.notifyClient hm
    refine ⟨hset, ?_⟩
    show Binding.OwnersLive { n.binding with
      serviceStates := (n.binding.serviceStates.addServerConnector reply.key reply.connector).1 } key
    unfold ServiceStates.addServerConnector
    split
    next => exact h.owners
    next state hstate =>
      by_cases hk : key = reply.key
      · subst hk
        have hlive : n.binding.OwnerLive reply.key reply.connector := by
          obtain hsome | hnone | hlive := hok rfl
          · simp [hserver] at hsome
          · simp [Binding.view, hstate] at hnone
          · exact hlive
        intro connector hconn
        simp only [Binding.connector, Binding.view_insertState, Option.bind_some,
          Option.some.injEq] at hconn
        subst hconn
        refine ⟨hlive.connected, ?_, ?_⟩
        · rw [Binding.offers, Binding.view_insertState]
          simpa [Binding.offers, Binding.view, hstate] using hlive.offers
        · rw [Binding.view_insertState]
          exact hlive.mapping
      · exact h.owners.of_shelters
          (Binding.shelters_of_view (Binding.view_insertState_of_ne _ hk) rfl)

theorem Sheltered.onReceiveMessage (h : Sheltered key n) {client : ι} {msg : Message}
    (hrole : requesterRole (.receive client msg) = true)
    (hreceive : n.onReceiveMessage env client msg = some (n', effects)) : Sheltered key n' := by
  cases Handles.of_onReceiveMessage hreceive with
  | request | connectService => cases hrole
  | connect => exact h
  | connectReply hb =>
      exact h.setBinding ((Binding.resumed_of_handleConnectReplyMessage hb).shelters key)
  | offer hb => exact h.setBinding (Binding.shelters_handleOfferServiceMessage hb)
  | connectServiceReply hb =>
      exact ⟨h.noBridge,
        h.owners.of_shelters (Binding.shelters_handleConnectServiceReplyMessage hb)⟩
  | subscribe => exact h.setBinding Binding.shelters_handleSubscribeEventMessage
  | eventUpdate hb =>
      refine h.setBinding ?_
      rw [Binding.handleEventUpdateMessage_frame hb]
      exact Binding.shelters_of_view rfl rfl
  | payloadConsumed =>
      refine h.setBinding ?_
      rw [Binding.handlePayloadConsumedMessage_frame]
      exact Binding.shelters_of_view rfl rfl

theorem Sheltered.removeClient (h : Sheltered key n) {client : ι}
    (hok : keepsOwner key n (.removeClient client) = true) :
    Sheltered key { n with binding := (n.binding.removeClient client).1 } := by
  refine ⟨h.noBridge, h.owners.removeClient ?_⟩
  intro connector state hconn hclient hstate c hne
  have henabled : state.enabledConnector = some connector := by
    simpa [Binding.connector, hstate] using hconn
  simp only [keepsOwner, hstate, Option.all_some, henabled, hclient, ne_eq, not_true_eq_false,
    decide_false, Bool.false_or, List.all_eq_true, decide_eq_true_eq] at hok
  cases hlookup : state.offers.lookup c with
  | none => rfl
  | some offer => exact absurd (hok c (Table.mem_keys_iff_lookup.2 ⟨offer, hlookup⟩)) hne

theorem Sheltered.act (h : Sheltered key n) {event : Event ι} (hrole : requesterRole event = true)
    (hok : keepsOwner key n event = true) (hact : n.act env event = some (n', effects)) :
    Sheltered key n' := by
  cases Acts.of_act hact with
  | idle => exact ⟨h.noBridge, h.owners⟩
  | register => exact ⟨h.noBridge.setRecord (by simp), h.owners⟩
  | request _ hb =>
      exact ⟨h.noBridge.setRecord (by simp),
        h.owners.of_shelters (Binding.shelters_sendRequestService hb)⟩
  | destroy _ hdestroy => exact h.destroyClient hdestroy
  | @enable k counts _ _ _ hnotify =>
      have hset : NoBridgeClient
          (n.setRecord k { n.records k with server := some (.application counts) }) :=
        h.noBridge.setRecord (h.noBridge k)
      obtain rfl := hset.notifyClient hnotify
      exact ⟨hset, h.owners⟩
  | disable _ hdisable => exact h.of_binding (h.noBridge.disableServer hdisable)
  | subscribe =>
      exact h.of_binding
        (h.noBridge.sameButSubscriptions (sameButSubscriptions_socomSubscribe env n _ _))
  | unsubscribe =>
      exact h.of_binding
        (h.noBridge.sameButSubscriptions (sameButSubscriptions_socomUnsubscribe env n _ _))
  | update _ _ hupdate => exact h.of_binding (h.noBridge.socomUpdate hupdate)
  | drop => exact ⟨h.noBridge, h.owners⟩
  | addClient client =>
      refine h.setBinding (Binding.shelters_of_grows rfl ?_ (fun _ hoffers => hoffers)
        (fun _ _ hin => hin))
      exact fun c hin => List.mem_insert_of_mem hin
  | removeClient client => exact h.removeClient hok
  | receive _ hreceive => exact h.onReceiveMessage hrole hreceive
  | finish hreply hfinish =>
      refine h.finishReply (fun hk => ?_) hfinish
      simp only [keepsOwner, hreply, Option.all_some, hk, ne_eq, not_true_eq_false, decide_false,
        Bool.false_or, Bool.or_eq_true, decide_eq_true_eq, Option.isNone_iff_eq_none] at hok
      tauto

theorem Sheltered.step (h : Sheltered key n) {event : Event ι}
    (hrole : requesterRole event = true) (hok : keepsOwner key n event = true)
    (hstep : n.step env event = some (n', out)) : Sheltered key n' := by
  obtain ⟨m, effects, hact, hperform⟩ := step_eq_some.1 hstep
  have hm : Sheltered key m := h.act hrole hok hact
  have hcalls : ∀ e ∈ effects, e.destroysClient = false := by
    refine destroysClient_act (fun client k requiredId metadata heq => ?_) hact
    rw [heq] at hrole
    cases hrole
  exact hm.of_binding (hm.noBridge.perform hcalls hperform)

/-- In every state reached, the connector of the service has a live owner. -/
theorem ownersLive_of_keepsOwner
    (h : ReachableVia (fun n label => requesterRole label.2 = true ∧
      keepsOwner key n label.2 = true) n) : n.binding.OwnersLive key := by
  have hsheltered : Sheltered key n := by
    refine Reach.invariant (I := Sheltered key) ⟨fun _ => by simp, ?_⟩ ?_ h
    · intro connector hconn
      cases hconn
    · rintro n ⟨env, event⟩ n' hn ⟨hrole, hok⟩ hnext
      obtain ⟨⟨m, out⟩, hstep, rfl⟩ := Option.map_eq_some_iff.1 hnext
      exact hn.step hrole hok hstep
  exact hsheltered.owners

/-- Peer 1 offers a service, answers the connect, and its connector is stored
while a second peer offers as well and then disconnects. -/
theorem ownersLive_of_keepsOwner_run :
    ∃ n : Endpoint Nat, n.binding.connector (someKey 1) = some ⟨1, 7, 1, {}⟩ ∧
      n.binding.OwnersLive (someKey 1) := by
  obtain ⟨n, hreach, hp⟩ := exists_reachable_of_runEvents
    (fun n label => requesterRole label.2 = true ∧ keepsOwner (someKey 1) n label.2 = true)
    [.addClient 1, .addClient 2, .makeClientConnector (someKey 1) {},
      .receive 1 (.offerService (someKey 1) true), .receive 2 (.offerService (someKey 1) true),
      .receive 1 (.connectServiceReply 1 7 someMetadata {}), .finishReply 1, .removeClient 2]
    (fun n => decide (n.binding.connector (someKey 1) = some ⟨1, 7, 1, {}⟩)) (by decide)
  exact ⟨n, by simpa using hp, ownersLive_of_keepsOwner hreach⟩

/-- The owner of the connector disconnects while another peer offers the service: the
connector stays. -/
theorem connector_without_owner :
    ∃ n : Endpoint Nat, ReachableVia (fun _ label => requesterRole label.2 = true) n ∧
      ¬ n.binding.OwnersLive (someKey 1) := by
  obtain ⟨n, hreach, hp⟩ := exists_reachable_of_runEvents
    (fun _ label => requesterRole label.2 = true)
    [.addClient 1, .addClient 2, .makeClientConnector (someKey 1) {},
      .receive 1 (.offerService (someKey 1) true), .receive 2 (.offerService (someKey 1) true),
      .receive 1 (.connectServiceReply 1 7 someMetadata {}), .finishReply 1, .removeClient 1]
    (fun n => decide (n.binding.connector (someKey 1) = some ⟨1, 7, 1, {}⟩) &&
      !n.binding.offers (someKey 1) 1) (by decide)
  simp only [Bool.and_eq_true, decide_eq_true_eq, Bool.not_eq_true'] at hp
  refine ⟨n, hreach, fun hlive => ?_⟩
  rw [(hlive _ hp.1).offers] at hp
  cases hp.2

end Endpoint

end SomeipGateway
