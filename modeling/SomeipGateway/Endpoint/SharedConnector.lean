import SomeipGateway.Endpoint.Foreign
import SomeipGateway.Endpoint.Isolation

/-! # The client connector that all consumers share

A provider has one client connector per service, made for the first peer that
asks, and an offer flag in a table of its own. `Connect_service{in_use=false}` of
one peer destroys the connector, whoever else is connected, and leaves the flag.
-/

namespace SomeipGateway

variable {ι : Type} [DecidableEq ι]

namespace Binding

/-- The binding has a client connector for the service. -/
def holdsClient (b : Binding ι) (key : Key) : Bool :=
  ((b.view key).state.getD {}).clientConnector.isSome

variable {env : Env ι} {b b' : Binding ι} {key : Key} {effects : List (Effect ι)}

theorem hasClientConnector_of_holdsClient (h : b.holdsClient key = true) :
    b.serviceStates.hasClientConnector key = true := by
  rw [hasClientConnector_eq, Bool.or_eq_true]
  exact .inr h

/-- Neither the client connector nor the offer flag of the service changes. -/
structure SameClient (key : Key) (b b' : Binding ι) : Prop where
  holds : b'.holdsClient key = b.holdsClient key
  localOffer : (b'.view key).localOffer = (b.view key).localOffer

theorem SameClient.refl (key : Key) (b : Binding ι) : SameClient key b b := ⟨rfl, rfl⟩

theorem sameClient_of_view (h : b'.view key = b.view key) : SameClient key b b' :=
  ⟨by rw [holdsClient, holdsClient, h], by rw [h]⟩

/-- The state is replaced by one with the same client connector. -/
theorem sameClient_of_map {f : ServiceState ι → ServiceState ι}
    (hstate : (b'.view key).state = (b.view key).state.map f)
    (hf : ∀ s, (f s).clientConnector = s.clientConnector)
    (hlocal : (b'.view key).localOffer = (b.view key).localOffer) : SameClient key b b' := by
  refine ⟨?_, hlocal⟩
  rw [holdsClient, holdsClient, hstate]
  cases (b.view key).state with
  | none => rfl
  | some s => simp [hf s]

theorem sameClient_of_getD {s : ServiceState ι} (hstate : (b'.view key).state = some s)
    (hs : s.clientConnector = ((b.view key).state.getD {}).clientConnector)
    (hlocal : (b'.view key).localOffer = (b.view key).localOffer) : SameClient key b b' := by
  refine ⟨?_, hlocal⟩
  rw [holdsClient, holdsClient, hstate, Option.getD_some, hs]

theorem SameClient.trans {b'' : Binding ι} (h : SameClient key b b') (h' : SameClient key b' b'') :
    SameClient key b b'' :=
  ⟨h'.holds.trans h.holds, h'.localOffer.trans h.localOffer⟩

theorem Resumed.sameClient (h : Resumed env b effects b') : SameClient key b b' := by
  obtain ⟨offers, hstate, -⟩ := h.state key
  refine sameClient_of_map hstate (fun _ => rfl) ?_
  rw [h.frame]
  rfl

/-- A request or its end leaves a client connector alone, and the flag anyway. -/
theorem sendRequestService_client {counts : ServiceCounts} {inUse : Bool}
    (h : b.sendRequestService env key counts inUse = some (b', effects)) :
    (b.holdsClient key = true → b' = b) ∧ (b'.view key).localOffer = (b.view key).localOffer := by
  refine ⟨fun hclient => ?_, ?_⟩
  · rw [sendRequestService_skipped (hasClientConnector_of_holdsClient hclient)] at h
    cases h
    rfl
  · cases hclient : b.serviceStates.hasClientConnector key with
    | true =>
        rw [sendRequestService_skipped hclient] at h
        cases h
        rfl
    | false =>
        cases inUse with
        | true =>
            obtain ⟨more, hmore, -⟩ := (sendRequestService_true hclient).1 h
            exact (connects_of_maybeSendConnectServiceLocked hmore).resumed.sameClient.localOffer
        | false =>
            rw [sendRequestService_false hclient] at h
            cases h
            rfl

theorem sameClient_handleRequestServiceMessage_false {client : ι} {k : Key}
    {result : ClientConnectorResult}
    (h : b.handleRequestServiceMessage env client k false result = some (b', effects)) :
    SameClient key b b' := by
  obtain ⟨-, hself, hother⟩ := handleRequestServiceMessage_false h
  by_cases hk : key = k
  · subst hk
    exact sameClient_of_map (congrArg ServiceView.state hself) (fun _ => rfl)
      (by rw [hself])
  · exact sameClient_of_map (congrArg ServiceView.state (hother key hk)) (fun _ => rfl)
      (by rw [hother key hk])

theorem sameClient_handleOfferServiceMessage {client : ι} {offered : Bool}
    (h : b.handleOfferServiceMessage env client key offered = some (b', effects)) :
    SameClient key b b' := by
  cases offered with
  | false =>
      obtain ⟨-, -, -, hself, -⟩ := handleOfferServiceMessage_false h
      exact sameClient_of_getD (congrArg ServiceView.state hself) rfl
        (by rw [hself])
  | true =>
      rw [handleOfferServiceMessage_true] at h
      have hoffer : SameClient key b (b.withOffer key client) :=
        sameClient_of_getD (congrArg ServiceView.state view_withOffer) rfl
          (by rw [view_withOffer])
      exact hoffer.trans (connects_of_maybeSendConnectServiceLocked h).resumed.sameClient

theorem sameClient_removeClient (client : ι) : SameClient key b (b.removeClient client).1 := by
  refine sameClient_of_map (congrArg ServiceView.state removeClient_view) (fun s => ?_)
    (by rw [removeClient_view])
  unfold ServiceState.removeOffer
  split
  · rfl
  · simp only
    split <;> rfl

theorem sameClient_handleSubscribeEventMessage (client : ι) (providedId eventId : Nat)
    (subscribe : Bool) :
    SameClient key b (b.handleSubscribeEventMessage client providedId eventId subscribe).1 := by
  cases hids : b.idMapping.getByLocalHandle client providedId with
  | none =>
      rw [handleSubscribeEventMessage_none hids]
      exact .refl key b
  | some ids =>
      obtain ⟨-, hview⟩ := handleSubscribeEventMessage_some hids
      refine sameClient_of_map (congrArg ServiceView.state (hview key)) (fun s => ?_)
        (by rw [hview key])
      split
      · rw [ServiceState.updateEventSubscription_frame]
      · rfl

theorem sameClient_addServerConnector (k : Key) (connector : EnabledConnector ι) :
    SameClient key b { b with
      serviceStates := (b.serviceStates.addServerConnector k connector).1 } := by
  by_cases hk : key = k
  · subst hk
    exact sameClient_of_map (congrArg ServiceView.state (view_addServerConnector b key connector))
      (fun _ => rfl) rfl
  · exact sameClient_of_view (view_addServerConnector_of_ne connector hk)

end Binding

namespace Endpoint

variable {env : Env ι} {n n' : Endpoint ι} {key : Key} {effects out : List (Effect ι)}

/-- The registered bridge client and the offer of a service have a client
connector behind them. -/
structure Backed (key : Key) (n : Endpoint ι) : Prop where
  client : (n.records key).client = some .bridge → n.binding.holdsClient key = true
  offer : (n.binding.view key).localOffer = true → n.binding.holdsClient key = true

theorem Backed.of_holdsClient (h : n.binding.holdsClient key = true) : Backed key n :=
  ⟨fun _ => h, fun _ => h⟩

theorem Backed.of_sameClient (h : Backed key n)
    (hclient : (n'.records key).client = some .bridge → (n.records key).client = some .bridge)
    (hsame : Binding.SameClient key n.binding n'.binding) : Backed key n' := by
  refine ⟨fun hbridge => ?_, fun hlocal => ?_⟩
  · rw [hsame.holds]
    exact h.client (hclient hbridge)
  · rw [hsame.holds]
    exact h.offer (hsame.localOffer ▸ hlocal)

theorem Backed.sameAt (h : Backed key n) (hsame : SameAt key n n') : Backed key n' :=
  h.of_sameClient (fun hbridge => hsame.record ▸ hbridge)
    (Binding.sameClient_of_view hsame.binding.view)

theorem Backed.setBinding (h : Backed key n) {b : Binding ι}
    (hsame : Binding.SameClient key n.binding b) : Backed key { n with binding := b } :=
  h.of_sameClient (fun hbridge => hbridge) hsame

/-- The service is requested or given up by its local client. -/
theorem Backed.sendRequestService (h : Backed key n) {counts : ServiceCounts} {inUse : Bool}
    {b : Binding ι} {r : Record ι} (hclient : r.client ≠ some .bridge)
    (hb : n.binding.sendRequestService env key counts inUse = some (b, effects)) :
    Backed key { n.setRecord key r with binding := b } := by
  obtain ⟨hskip, hlocal⟩ := Binding.sendRequestService_client hb
  cases hholds : n.binding.holdsClient key with
  | true =>
      rw [hskip hholds]
      exact .of_holdsClient hholds
  | false =>
      refine ⟨fun hbridge => absurd (by simpa using hbridge) hclient, fun hoffer => ?_⟩
      have hheld := h.offer (hlocal ▸ hoffer)
      rw [hholds] at hheld
      cases hheld

theorem Backed.notifyClient (h : Backed key n) {isAvailable : Bool} {counts : ServiceCounts}
    (hnotify : n.notifyClient env key isAvailable counts = some (n', effects)) :
    Backed key n' := by
  obtain ⟨-, rfl, -⟩ | ⟨hbridge, b, hb, rfl⟩ := notifyClient_cases hnotify
  · exact h
  · refine .of_holdsClient ?_
    have hheld := h.client hbridge
    rw [Binding.holdsClient, Binding.view_serviceStateChange hb]
    exact hheld

theorem Backed.setServer (h : Backed key n) (server : Option (Server ι)) (subscribed : Finset Nat) :
    Backed key (n.setRecord key
      { n.records key with server := server, subscribed := subscribed }) :=
  h.of_sameClient (by simp) (.refl key n.binding)

theorem Backed.disableServer (h : Backed key n)
    (hdisable : n.disableServer env key = some (n', effects)) : Backed key n' := by
  obtain ⟨-, rfl, -⟩ | ⟨server, -, hnotify⟩ := disableServer_cases hdisable
  · exact h
  · exact (h.setServer none ∅).notifyClient hnotify

theorem Backed.destroyClient (h : Backed key n) {bridged : Bool}
    (hdestroy : n.destroyClient env key bridged = some (n', effects)) : Backed key n' := by
  obtain ⟨b, caused, rfl, -, ⟨-, rfl, -⟩ | ⟨-, hb⟩⟩ := destroyClient_cases hdestroy
  · exact h.of_sameClient (by simp) (.refl key n.binding)
  · have hbacked := h.sendRequestService
      (r := { n.records key with client := none, subscribed := ∅ }) (by simp) hb
    exact hbacked.of_sameClient id (.refl _ b)

theorem Backed.sameButSubscriptions (h : Backed key n) (hsame : SameButSubscriptions n n') :
    Backed key n' :=
  h.of_sameClient (fun hbridge => hsame.client key ▸ hbridge)
    (Binding.sameClient_of_view (by rw [hsame.binding]))

theorem Backed.performOne (h : Backed key n) {e : Effect ι}
    (hone : n.performOne env e = some (n', effects)) : Backed key n' := by
  cases hconcerns : e.concerns key with
  | false => exact h.sameAt (foreign_performOne hconcerns hone).1
  | true =>
      cases Performs.of_performOne hone with
      | inert | reject | forget | acknowledge => exact h
      | subscribe k eventId =>
          exact h.sameButSubscriptions (sameButSubscriptions_socomSubscribe env n k eventId)
      | unsubscribe k eventId =>
          exact h.sameButSubscriptions (sameButSubscriptions_socomUnsubscribe env n k eventId)
      | update _ hupdate => exact h.sameAt (foreign_socomUpdate hupdate).1
      | destroyServer hdisable =>
          obtain rfl := of_decide_eq_true hconcerns
          exact h.disableServer hdisable
      | destroyClient hdestroy =>
          obtain rfl := of_decide_eq_true hconcerns
          exact h.destroyClient hdestroy

theorem Backed.perform (h : Backed key n) {depth : Nat}
    (hperform : perform env depth n effects = some (n', out)) : Backed key n' :=
  (perform_preserves (I := Backed key) (E := fun _ => True)
    (fun _ _ _ _ hn _ hone => ⟨hn.performOne hone, fun _ _ => trivial⟩) depth h
    (fun _ _ => trivial) hperform).1

theorem Backed.receiveRequest (h : Backed key n) {client : ι}
    (hreceive : n.receiveRequest env client key true = some (n', effects)) : Backed key n' := by
  have hnote : Binding.SameClient key n.binding (n.binding.withInterested key client) :=
    ⟨by rw [Binding.holdsClient, Binding.view_withInterested]; rfl,
      by rw [Binding.view_withInterested]⟩
  obtain ⟨-, rfl, -⟩ | ⟨-, -, rfl, -⟩ | ⟨-, howner, b, hcases⟩ := receiveRequest_true hreceive
  · exact h.setBinding hnote
  · exact h.setBinding hnote
  · have hfree : n.binding.holdsClient key = false := by
      simp only [Binding.hasOwner, Binding.hasClientConnector_eq, Bool.or_eq_false_iff] at howner
      exact howner.1.1.2
    obtain ⟨-, hcreate, rfl⟩ | ⟨server, -, -, hcreate, rfl⟩ | ⟨-, -, hcreate, rfl⟩ := hcases
    · obtain ⟨-, -, -, hself, -⟩ := Binding.createClientConnector_failed hcreate
      refine ⟨fun hbridge => ?_, fun hlocal => ?_⟩
      · have hheld := h.client hbridge
        rw [hfree] at hheld
        cases hheld
      · rw [hself, Binding.view_withInterested] at hlocal
        have hheld := h.offer hlocal
        rw [hfree] at hheld
        cases hheld
    · obtain ⟨-, -, -, -, hself, -⟩ := Binding.createClientConnector_connected hcreate
      exact .of_holdsClient (by rw [Binding.holdsClient, hself]; rfl)
    · obtain ⟨-, -, -, hself, -⟩ := Binding.createClientConnector_waiting hcreate
      exact .of_holdsClient (by rw [Binding.holdsClient, hself]; rfl)

/-- No other peer has a mapping for the service. -/
def soleUser (n : Endpoint ι) (key : Key) (client : ι) : Bool :=
  n.binding.idMapping.idToKey.entries.all fun e =>
    e.1 = client || e.2.all fun ids => ids.key ≠ key

theorem ids_eq_nil_of_soleUser {client c : ι} (h : n.soleUser key client = true)
    (hc : c ≠ client) : (n.binding.view key).ids c = [] := by
  refine List.filter_eq_nil_iff.2 fun ids hids => ?_
  cases hlookup : n.binding.idMapping.idToKey.lookup c with
  | none => simp [ConnectionMetadata.idsOf, hlookup] at hids
  | some stored =>
      have hin : ids ∈ stored := by simpa [ConnectionMetadata.idsOf, hlookup] using hids
      have hall := List.all_eq_true.1 h _ (Table.mem_of_lookup_eq_some hlookup)
      simp only [hc, decide_false, Bool.false_or, List.all_eq_true] at hall
      simpa using hall ids hin

/-- What may end the connection of a peer for the service: there is no client
connector, or it has no other user and is not offered. -/
def keepsConnector (key : Key) (n : Endpoint ι) : Event ι → Bool
  | .receive client (.connectService k _ _ false) =>
      k ≠ key || !n.binding.holdsClient key ||
        (!(n.binding.view key).localOffer && n.soleUser key client)
  | _ => true

theorem Backed.disconnect_of_ne (h : Backed key n) {client : ι} {k : Key} {requiredId : Nat}
    (hk : key ≠ k) :
    Backed key { n with binding := (n.binding.disconnectService client k requiredId).1 } := by
  refine h.setBinding ⟨?_, by rw [Binding.disconnectService_view_of_ne hk]⟩
  rw [Binding.holdsClient, Binding.disconnectService_view_of_ne hk]
  rfl

/-- The end of a connection that leaves no offer behind. -/
theorem Backed.disconnect (h : Backed key n) {client : ι} {requiredId : Nat}
    (hlocal : (n.binding.view key).localOffer = false)
    (hperform : Endpoint.perform env 3
      { n with binding := (n.binding.disconnectService client key requiredId).1 }
      (n.binding.disconnectService client key requiredId).2 = some (n', out)) : Backed key n' := by
  have hafter : ((n.binding.disconnectService client key requiredId).1.view key).localOffer =
      false := by
    rw [Binding.disconnectService_view]
    exact hlocal
  rw [Binding.disconnectService_effects, perform_append] at hperform
  obtain ⟨⟨u, more⟩, hdrops, hrest⟩ := Option.bind_eq_some_iff.1 hperform
  obtain ⟨⟨v, last⟩, hlast, heq⟩ := Option.map_eq_some_iff.1 hrest
  cases heq
  have hu : SameButSubscriptions
      { n with binding := (n.binding.disconnectService client key requiredId).1 } u := by
    refine (perform_subscriptions (C := fun _ => True) (fun e he => .inr ⟨trivial, ?_⟩) hdrops).1
    obtain ⟨eventId, rfl⟩ := Binding.exists_of_mem_droppedSubscriptions he
    exact ⟨_, _, .inr rfl⟩
  have hlocalu : (u.binding.view key).localOffer = false := by
    rw [hu.binding]
    exact hafter
  cases hconn : ((n.binding.view key).state.bind fun s => s.clientConnector) with
  | none =>
      rw [hconn] at hlast
      cases hlast
      refine ⟨fun hbridge => ?_, fun hoffer => by simp [hlocalu] at hoffer⟩
      have hheld := h.client ((hu.client key).symm.trans hbridge)
      cases hstate : (n.binding.view key).state <;>
        simp [Binding.holdsClient, hstate] at hheld hconn
      simp [hconn] at hheld
  | some connector =>
      rw [hconn] at hlast
      obtain ⟨w, caused, w', more', last', hdestroy, hmore, hnil, -⟩ := perform_cons_eq_some.1 hlast
      cases hnil
      refine Backed.perform ?_ hmore
      obtain ⟨b, requests, rfl, -, hcases⟩ := destroyClient_cases hdestroy
      have hb : (b.view key).localOffer = false := by
        obtain ⟨-, rfl, -⟩ | ⟨-, hb⟩ := hcases
        · exact hlocalu
        · rw [(Binding.sendRequestService_client hb).2]
          exact hlocalu
      exact ⟨by simp, fun hoffer => by simp [hb] at hoffer⟩

theorem Backed.finishReply (h : Backed key n) {reply : PendingReply ι}
    (hfinish : n.finishReply env reply = some (n', effects)) : Backed key n' := by
  have hbase : Backed key { n with replies := n.replies.erase reply } :=
    h.of_sameClient (fun hbridge => hbridge) (.refl key n.binding)
  obtain ⟨-, rfl, -⟩ | ⟨-, m, offers, hm, rfl, -⟩ := finishReply_cases hfinish
  · exact hbase
  · have hm' : Backed key m := by
      by_cases hk : reply.key = key
      · subst hk
        exact (hbase.setServer _ _).notifyClient hm
      · have hset : Backed key (({ n with replies := n.replies.erase reply }).setRecord
            reply.key { n.records reply.key with
              server := some (.bridge reply.connector) }) :=
          hbase.sameAt (foreign_setRecord hk _).1
        exact hset.sameAt (foreign_notifyClient hk hm).1
    exact hm'.setBinding (Binding.sameClient_addServerConnector _ _)

theorem Backed.onReceiveMessage (h : Backed key n) {client : ι} {msg : Message}
    (hself : ∀ {k}, (Event.receive client msg).about = some k → k = key)
    (hmsg : ∀ k requiredId metadata, msg ≠ .connectService k requiredId metadata false)
    (hreceive : n.onReceiveMessage env client msg = some (n', effects)) : Backed key n' := by
  cases Handles.of_onReceiveMessage hreceive with
  | connect => exact h
  | connectReply hb =>
      exact h.setBinding (Binding.resumed_of_handleConnectReplyMessage hb).sameClient
  | @request k inUse _ _ hrequest =>
      cases inUse with
      | false =>
          obtain ⟨b, hb, rfl⟩ := receiveRequest_false hrequest
          exact h.setBinding (Binding.sameClient_handleRequestServiceMessage_false hb)
      | true =>
          obtain rfl := hself rfl
          exact h.receiveRequest hrequest
  | offer hb =>
      obtain rfl := hself rfl
      exact h.setBinding (Binding.sameClient_handleOfferServiceMessage hb)
  | @connectService k requiredId metadata inUse _ _ hb =>
      cases inUse with
      | false => exact absurd rfl (hmsg k requiredId metadata)
      | true =>
          obtain ⟨_, _, -, -, rfl, -⟩ := Binding.handleConnectServiceMessage_true hb
          exact h.setBinding ⟨rfl, rfl⟩
  | connectServiceReply hb =>
      refine h.of_sameClient (fun hbridge => hbridge) ?_
      obtain ⟨-, rfl, -⟩ | ⟨_, -, ⟨-, rfl, -⟩ | ⟨_, _, -, -, rfl, -⟩⟩ :=
        Binding.handleConnectServiceReplyMessage_cases hb <;> exact ⟨rfl, rfl⟩
  | subscribe => exact h.setBinding (Binding.sameClient_handleSubscribeEventMessage _ _ _ _)
  | eventUpdate hb =>
      rw [Binding.handleEventUpdateMessage_frame hb]
      exact h.setBinding ⟨rfl, rfl⟩
  | payloadConsumed =>
      rw [Binding.handlePayloadConsumedMessage_frame]
      exact h.setBinding ⟨rfl, rfl⟩

theorem Backed.act (h : Backed key n) {event : Event ι}
    (hevent : ∀ client k requiredId metadata,
      event ≠ .receive client (.connectService k requiredId metadata false))
    (hact : n.act env event = some (n', effects)) : Backed key n' := by
  obtain ⟨k, habout, hne⟩ | hself := event.about_cases key
  · exact h.sameAt (foreign_act habout hne hact).1
  cases Acts.of_act hact with
  | idle => exact h.of_sameClient id (.refl _ n.binding)
  | register =>
      obtain rfl := hself rfl
      exact h.of_sameClient (by simp) (.refl _ n.binding)
  | request _ hb =>
      obtain rfl := hself rfl
      exact h.sendRequestService (by simp) hb
  | destroy _ hdestroy =>
      obtain rfl := hself rfl
      exact h.destroyClient hdestroy
  | enable _ hnotify =>
      obtain rfl := hself rfl
      exact (h.setServer _ _).notifyClient hnotify
  | disable _ hdisable =>
      obtain rfl := hself rfl
      exact h.disableServer hdisable
  | subscribe =>
      exact h.sameButSubscriptions (sameButSubscriptions_socomSubscribe env n _ _)
  | unsubscribe =>
      exact h.sameButSubscriptions (sameButSubscriptions_socomUnsubscribe env n _ _)
  | update _ _ hupdate => exact h.sameAt (foreign_socomUpdate hupdate).1
  | drop => exact ⟨h.client, h.offer⟩
  | addClient client => exact h.setBinding ⟨rfl, rfl⟩
  | removeClient client => exact h.setBinding (Binding.sameClient_removeClient client)
  | receive _ hreceive =>
      exact h.onReceiveMessage hself (fun k r m hmsg => hevent _ k r m (by rw [hmsg])) hreceive
  | finish _ hfinish => exact h.finishReply hfinish

/-- The end of a connection that finds no client connector calls nothing. -/
theorem disconnectService_effects_eq_nil {client : ι} {requiredId : Nat}
    (hfree : n.binding.holdsClient key = false) :
    (n.binding.disconnectService client key requiredId).2 = [] := by
  rw [Binding.disconnectService_effects, Binding.droppedSubscriptions]
  cases hstate : (n.binding.view key).state with
  | none => cases n.binding.idMapping.getByRemoteHandle client requiredId <;> rfl
  | some s =>
      have hnone : s.clientConnector = none := by
        simpa [Binding.holdsClient, hstate] using hfree
      cases n.binding.idMapping.getByRemoteHandle client requiredId <;>
        simp [hnone, ServiceState.removeEventSubscription, ServiceState.dropSubscribers]

theorem Backed.step (h : Backed key n) {event : Event ι} (hok : keepsConnector key n event = true)
    (hstep : n.step env event = some (n', out)) : Backed key n' := by
  obtain ⟨m, effects, hact, hperform⟩ := step_eq_some.1 hstep
  by_cases hends : ∃ client k requiredId metadata,
      event = .receive client (.connectService k requiredId metadata false)
  · obtain ⟨client, k, requiredId, metadata, rfl⟩ := hends
    obtain ⟨rfl, rfl⟩ := fst_snd_of_some_eq (act_receive_eq_some.1 hact).2
    by_cases hk : key = k
    · subst hk
      cases hheld : n.binding.holdsClient key with
      | true =>
          refine h.disconnect ?_ hperform
          simp only [keepsConnector, hheld, ne_eq, not_true_eq_false, decide_false, Bool.not_true,
            Bool.or_self, Bool.false_or, Bool.and_eq_true, Bool.not_eq_true'] at hok
          exact hok.1
      | false =>
          refine Backed.perform ⟨fun hbridge => ?_, fun hlocal => ?_⟩ hperform
          · have hregistered := h.client hbridge
            simp [hheld] at hregistered
          · change ((n.binding.disconnectService client key requiredId).1.view key).localOffer =
              true at hlocal
            rw [Binding.disconnectService_view] at hlocal
            have hoffered := h.offer hlocal
            simp [hheld] at hoffered
    · exact (h.disconnect_of_ne hk).perform hperform
  · refine (h.act (fun client k requiredId metadata heq => ?_) hact).perform hperform
    exact hends ⟨client, k, requiredId, metadata, heq⟩

/-- The client connector of the service stays, and so do the mappings and
subscriptions of every peer but the given one. -/
structure OthersKept (key : Key) (client : ι) (n n' : Endpoint ι) : Prop where
  connector : n'.binding.holdsClient key = n.binding.holdsClient key
  record : (n'.records key).client = (n.records key).client
  ids : ∀ c ≠ client, (n'.binding.view key).ids c = (n.binding.view key).ids c
  subscribers : ∀ eventId endpoint, endpoint.client ≠ client →
    (endpoint ∈ n'.binding.subscribers key eventId ↔
      endpoint ∈ n.binding.subscribers key eventId)

theorem othersKept_of_disconnect {client : ι} {requiredId : Nat}
    (hfree : n.binding.holdsClient key = false) :
    OthersKept key client n
      { n with binding := (n.binding.disconnectService client key requiredId).1 } := by
  refine ⟨?_, rfl, fun c hc => ?_, fun eventId endpoint hne => ?_⟩
  · rw [hfree, Binding.holdsClient, Binding.disconnectService_view]
    cases (n.binding.view key).state <;> rfl
  · rw [Binding.disconnectService_view]
    exact if_neg hc
  · rw [Binding.subscribers, Binding.subscribers, Binding.disconnectService_view]
    cases (n.binding.view key).state with
    | none => rfl
    | some s =>
        cases n.binding.idMapping.getByRemoteHandle client requiredId with
        | none => rfl
        | some ids =>
            have hdrop : endpoint ≠ ⟨client, ids.localHandle⟩ := fun heq => hne (by rw [heq])
            have hmem := ServiceState.subscribers_dropSubscribers key s
              (fun subscriber => subscriber = ⟨client, ids.localHandle⟩) eventId
            show endpoint ∈ (s.removeEventSubscription key _).1.subscribers eventId ↔ _
            rw [ServiceState.removeEventSubscription, hmem]
            simp [hdrop]

theorem backed_of_keepsConnector
    (h : ReachableVia (fun n label => keepsConnector key n label.2 = true) n) : Backed key n := by
  refine Reach.invariant (I := Backed key) ⟨by simp, fun hlocal => by cases hlocal⟩ ?_ h
  rintro n ⟨env, event⟩ n' hn hok hnext
  obtain ⟨⟨m, out⟩, hstep, rfl⟩ := Option.map_eq_some_iff.1 hnext
  exact hn.step hok hstep

/-- In every state reached, an offered service has a client connector, and the end
of the connection of one peer keeps what the others have. -/
theorem othersKept_of_keepsConnector
    (h : ReachableVia (fun n label => keepsConnector key n label.2 = true) n) :
    ((n.binding.view key).localOffer = true → n.binding.holdsClient key = true) ∧
      ∀ (env : Env ι) (client c : ι) (requiredId : Nat) (metadata : SharedMemoryMetadata)
        (n' : Endpoint ι) (out : List (Effect ι)), c ≠ client →
        (n.binding.view key).ids c ≠ [] →
        keepsConnector key n (.receive client (.connectService key requiredId metadata false)) =
          true →
        n.step env (.receive client (.connectService key requiredId metadata false)) =
          some (n', out) → OthersKept key client n n' := by
  refine ⟨(backed_of_keepsConnector h).offer, ?_⟩
  intro env client c requiredId metadata n' out hc hids hok hstep
  have hfree : n.binding.holdsClient key = false := by
    have hother : n.soleUser key client = false :=
      Bool.eq_false_iff.2 fun hsole => hids (ids_eq_nil_of_soleUser hsole hc)
    simpa [keepsConnector, hother] using hok
  obtain ⟨m, effects, hact, hperform⟩ := step_eq_some.1 hstep
  obtain ⟨rfl, rfl⟩ := fst_snd_of_some_eq (act_receive_eq_some.1 hact).2
  have hcalls : (n.setBinding (n.binding.disconnectService client key requiredId)).2 = [] :=
    disconnectService_effects_eq_nil hfree
  rw [hcalls] at hperform
  cases hperform
  exact othersKept_of_disconnect hfree

/-- A service that is offered to a peer, and one that the endpoint requests itself
and that two peers are connected for: one of them ends its connection. -/
theorem othersKept_of_keepsConnector_run :
    (∃ n : Endpoint Nat, (n.binding.view (someKey 1)).localOffer = true ∧
      n.binding.holdsClient (someKey 1) = true) ∧
    ∃ (n n' : Endpoint Nat) (out : List (Effect Nat)), (n.binding.view (someKey 1)).ids 2 ≠ [] ∧
      n.step someEnv (.receive 1 (.connectService (someKey 1) 1 someMetadata false)) =
        some (n', out) ∧ OthersKept (someKey 1) 1 n n' := by
  constructor
  · obtain ⟨n, hreach, hp⟩ := exists_reachable_of_runEvents
      (fun n label => keepsConnector (someKey 1) n label.2 = true)
      [.addClient 1, .enableServerConnector (someKey 1) ⟨0, 1⟩,
        .receive 1 (.requestService (someKey 1) true)]
      (fun n => (n.binding.view (someKey 1)).localOffer) (by decide)
    exact ⟨n, hp, (othersKept_of_keepsConnector hreach).1 hp⟩
  · obtain ⟨n, hreach, hp⟩ := exists_reachable_of_runEvents
      (fun n label => keepsConnector (someKey 1) n label.2 = true)
      [.addClient 1, .addClient 2, .makeClientConnector (someKey 1) {},
        .receive 1 (.connectService (someKey 1) 1 someMetadata true),
        .receive 2 (.connectService (someKey 1) 1 someMetadata true)]
      (fun n => decide ((n.binding.view (someKey 1)).ids 2 ≠ []) &&
        keepsConnector (someKey 1) n
          (.receive 1 (.connectService (someKey 1) 1 someMetadata false)) &&
        (n.step someEnv (.receive 1 (.connectService (someKey 1) 1 someMetadata false))).isSome)
      (by decide)
    simp only [Bool.and_eq_true, decide_eq_true_eq, Option.isSome_iff_exists] at hp
    obtain ⟨⟨hids, hok⟩, ⟨n', out⟩, hstep⟩ := hp
    exact ⟨n, n', out, hids, hstep, (othersKept_of_keepsConnector hreach).2 someEnv 1 2 1
      someMetadata n' out (by decide) hids hok hstep⟩

/-- The connector goes with the first of two consumers, and the offer stays. -/
theorem connector_lost_with_consumer :
    ∃ (n n' : Endpoint Nat) (out : List (Effect Nat)), Reachable n ∧
      (n.binding.view (someKey 1)).ids 2 ≠ [] ∧ n.binding.holdsClient (someKey 1) = true ∧
      n.step someEnv (.receive 1 (.connectService (someKey 1) 1 someMetadata false)) =
        some (n', out) ∧
      ¬ OthersKept (someKey 1) 1 n n' ∧ (n'.binding.view (someKey 1)).localOffer = true ∧
      n'.binding.serviceStates.hasClientConnector (someKey 1) = false := by
  obtain ⟨n, hreach, hp⟩ := exists_reachable_of_runEvents (fun _ _ => True)
    [.addClient 1, .addClient 2, .enableServerConnector (someKey 1) ⟨0, 1⟩,
      .receive 1 (.requestService (someKey 1) true), .receive 2 (.requestService (someKey 1) true),
      .receive 1 (.connectService (someKey 1) 1 someMetadata true),
      .receive 2 (.connectService (someKey 1) 1 someMetadata true)]
    (fun n => decide ((n.binding.view (someKey 1)).ids 2 ≠ []) &&
      n.binding.holdsClient (someKey 1) &&
      (n.step someEnv (.receive 1 (.connectService (someKey 1) 1 someMetadata false))).any
        fun (r : Endpoint Nat × List (Effect Nat)) =>
          (r.1.binding.view (someKey 1)).localOffer &&
            !r.1.binding.serviceStates.hasClientConnector (someKey 1) &&
            !r.1.binding.holdsClient (someKey 1))
    (by decide)
  simp only [Bool.and_eq_true, decide_eq_true_eq, Option.any_eq_true, Bool.not_eq_true'] at hp
  obtain ⟨⟨hids, hheld⟩, ⟨n', out⟩, hstep, ⟨hlocal, hnone⟩, hlost⟩ := hp
  refine ⟨n, n', out, hreach, hids, hheld, hstep, fun hkept => ?_, hlocal, hnone⟩
  have hstays := hkept.connector
  rw [hheld, hlost] at hstays
  cases hstays

end Endpoint

end SomeipGateway
