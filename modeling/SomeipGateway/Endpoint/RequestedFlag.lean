import SomeipGateway.Endpoint.Calls
import SomeipGateway.Endpoint.Foreign

/-! # The `requested` flag

The flag is meant to say that the local runtime asked the bridge for the service.
It is written by `send_request_service`, and also by the `service_state_change`
callback of the bridge-owned client connector. As long as that connector never
meets a server, the flag follows the last request that was sent.
-/

namespace SomeipGateway

variable {ι : Type} [DecidableEq ι]

def Effect.requestOf (key : Key) : Effect ι → Option Bool
  | .requestSent k inUse => if k = key then some inUse else none
  | _ => none

/-- The last `send_request_service` for the service that was not skipped. -/
def lastRequest (key : Key) : List (Effect ι) → Option Bool
  | [] => none
  | e :: rest => (lastRequest key rest).or (e.requestOf key)

def Binding.requested (b : Binding ι) (key : Key) : Bool :=
  (b.view key).state.any fun state => state.requested

section LastRequest

omit [DecidableEq ι]

variable {key : Key} {effects effects' : List (Effect ι)}

@[simp] theorem lastRequest_append :
    lastRequest key (effects ++ effects') =
      (lastRequest key effects').or (lastRequest key effects) := by
  induction effects with
  | nil => simp [lastRequest]
  | cons e rest ih => simp [lastRequest, ih, Option.or_assoc]

theorem lastRequest_eq_none (h : ∀ e ∈ effects, e.requestOf key = none) :
    lastRequest key effects = none := by
  induction effects with
  | nil => rfl
  | cons e rest ih =>
      rw [lastRequest, ih fun e he => h e (List.mem_cons_of_mem _ he), h e List.mem_cons_self]
      rfl

theorem requestOf_eq_none {e : Effect ι} (h : e.concerns key = false) : e.requestOf key = none := by
  cases e with
  | requestSent k inUse => simpa [Effect.concerns, Effect.requestOf] using h
  | _ => rfl

end LastRequest

/-! ## The sections of the binding -/

namespace Binding

variable {env : Env ι} {b b' : Binding ι} {key : Key} {effects : List (Effect ι)}

/-- The flag and the local offer of the service are the same in both bindings. -/
def SameFlag (key : Key) (b b' : Binding ι) : Prop :=
  b'.requested key = b.requested key ∧ (b'.view key).localOffer = (b.view key).localOffer

theorem SameFlag.trans {b'' : Binding ι} (h : SameFlag key b b') (h' : SameFlag key b' b'') :
    SameFlag key b b'' :=
  ⟨h'.1.trans h.1, h'.2.trans h.2⟩

theorem sameFlag_of_view {v : ServiceView ι} (hview : b'.view key = v)
    (hreq : (v.state.any fun state => state.requested) =
      (b.view key).state.any fun state => state.requested)
    (hlocal : v.localOffer = (b.view key).localOffer) : SameFlag key b b' := by
  subst hview
  exact ⟨hreq, hlocal⟩

theorem sameFlag_of_resumed (h : Resumed env b effects b') : SameFlag key b b' := by
  obtain ⟨offers, hoffers, -⟩ := h.state key
  refine sameFlag_of_view rfl ?_ (by rw [h.frame]; rfl)
  simp only [view, hoffers]
  cases b.serviceStates.lookup key <;> rfl

theorem requested_sendRequestService {counts : ServiceCounts} {inUse : Bool}
    (h : b.sendRequestService env key counts inUse = some (b', effects)) :
    b'.requested key = (lastRequest key effects).getD (b.requested key) ∧
    (b'.view key).localOffer = (b.view key).localOffer := by
  cases hclient : b.serviceStates.hasClientConnector key with
  | true =>
      rw [sendRequestService_skipped hclient] at h
      cases h
      exact ⟨rfl, rfl⟩
  | false =>
      have hall : ∀ inUse, lastRequest key (b.sendToAll env (some key) (.requestService key inUse)) =
          none := by
        intro inUse
        refine lastRequest_eq_none fun e he => ?_
        obtain ⟨client, -, rfl⟩ := List.mem_map.1 he
        rfl
      cases inUse with
      | true =>
          obtain ⟨more, hmore, rfl⟩ := (sendRequestService_true hclient).1 h
          have hconnects := connects_of_maybeSendConnectServiceLocked hmore
          have hflag : SameFlag key _ b' := sameFlag_of_resumed hconnects.resumed
          have hnone : lastRequest key more = none := by
            refine lastRequest_eq_none fun e he => ?_
            obtain ⟨client, requiredId, metadata, rfl⟩ := hconnects.sends e he
            rfl
          refine ⟨?_, hflag.2⟩
          rw [hflag.1, requested, view_insertState]
          simp [lastRequest, hall, hnone, Effect.requestOf]
      | false =>
          rw [sendRequestService_false hclient] at h
          cases h
          have hnone : lastRequest key (((b.view key).state.bind fun state =>
              state.enabledConnector).toList.map (Effect.destroyServerConnector key)) = none := by
            refine lastRequest_eq_none fun e he => ?_
            obtain ⟨connector, -, rfl⟩ := List.mem_map.1 he
            rfl
          refine ⟨?_, by rw [view_unrequested]⟩
          rw [requested, view_unrequested]
          simp [lastRequest, hall, hnone, Effect.requestOf]

theorem sameFlag_addServerConnector (b : Binding ι) (k : Key)
    (connector : EnabledConnector ι) :
    SameFlag key b
      { b with serviceStates := (b.serviceStates.addServerConnector k connector).1 } := by
  unfold ServiceStates.addServerConnector
  split
  next => exact ⟨rfl, rfl⟩
  next state hstate =>
    by_cases hk : key = k
    · subst hk
      exact sameFlag_of_view (view_insertState _)
        (by simp [view, hstate]) rfl
    · simp only [SameFlag, requested, view_insertState_of_ne _ hk, and_self]

end Binding

namespace Endpoint

variable {env : Env ι} {n n' : Endpoint ι} {key : Key} {effects out : List (Effect ι)} {ρ : Bool}

/-- The flag has the value `ρ`, and the bridge-owned client connector has no
server. -/
structure Apart (key : Key) (ρ : Bool) (n : Endpoint ι) : Prop where
  server_none : (n.records key).client = some .bridge → (n.records key).server = none
  requested : n.binding.requested key = ρ
  localOffer : (n.binding.view key).localOffer = false

theorem Apart.sameAt (h : Apart key ρ n) (hsame : SameAt key n n') : Apart key ρ n' where
  server_none := by
    rw [hsame.record]
    exact h.server_none
  requested := by
    rw [← h.requested]
    simp only [Binding.requested, hsame.binding.view]
  localOffer := by
    rw [hsame.binding.view]
    exact h.localOffer

theorem Apart.sameButSubscriptions (h : Apart key ρ n) (hsame : SameButSubscriptions n n') :
    Apart key ρ n' where
  server_none := by
    rw [hsame.client, hsame.server]
    exact h.server_none
  requested := by
    rw [hsame.binding]
    exact h.requested
  localOffer := by
    rw [hsame.binding]
    exact h.localOffer

/-- Without a callback the server leaves the record only. -/
theorem Apart.disableServer (h : Apart key ρ n)
    (hdisable : n.disableServer env key = some (n', effects)) :
    Apart key ρ n' ∧ effects = [] := by
  obtain ⟨-, rfl, rfl⟩ | ⟨server, hserver, hnotify⟩ := disableServer_cases hdisable
  · exact ⟨h, rfl⟩
  · have hclient : (n.records key).client ≠ some .bridge := fun hclient => by
      rw [h.server_none hclient] at hserver
      cases hserver
    obtain ⟨-, rfl, rfl⟩ | ⟨hbridge, -⟩ := notifyClient_cases hnotify
    · exact ⟨⟨fun _ => by simp, h.requested, h.localOffer⟩, rfl⟩
    · exact absurd (by simpa using hbridge) hclient

theorem Apart.performOne (h : Apart key ρ n) {e : Effect ι} (he : e.destroysClient = false)
    (hone : n.performOne env e = some (n', effects)) :
    Apart key ρ n' ∧ ∀ e ∈ effects, e.requestOf key = none := by
  by_cases hforeign : e.concerns key = false
  · obtain ⟨hsame, hcaused⟩ := foreign_performOne hforeign hone
    exact ⟨h.sameAt hsame, fun e he => requestOf_eq_none (hcaused e he)⟩
  cases Performs.of_performOne hone with
  | inert => exact ⟨h, by simp⟩
  | subscribe k eventId =>
      exact ⟨h.sameButSubscriptions (sameButSubscriptions_socomSubscribe env n k eventId),
        fun e he => requestOf_eq_none (tellsPeer_of_mem_socomSubscribe he).concerns⟩
  | unsubscribe k eventId =>
      exact ⟨h.sameButSubscriptions (sameButSubscriptions_socomUnsubscribe env n k eventId),
        fun e he => requestOf_eq_none (tellsPeer_of_mem_socomUnsubscribe he).concerns⟩
  | reject => exact ⟨h, by simp [Effect.requestOf]⟩
  | update _ hupdate =>
      obtain ⟨hsame, hcaused⟩ := foreign_socomUpdate hupdate
      exact ⟨h.sameAt hsame, fun e he => requestOf_eq_none (hcaused e he)⟩
  | forget | acknowledge => exact absurd rfl hforeign
  | destroyServer hdisable =>
      obtain rfl := of_decide_eq_true (Bool.eq_true_of_not_eq_false hforeign)
      obtain ⟨hapart, rfl⟩ := h.disableServer hdisable
      exact ⟨hapart, by simp⟩
  | destroyClient => cases he

theorem Apart.perform_silent {depth : Nat} (h : Apart key ρ n)
    (hcalls : ∀ e ∈ effects, e.destroysClient = false)
    (hsilent : ∀ e ∈ effects, e.requestOf key = none)
    (hperform : perform env depth n effects = some (n', out)) :
    Apart key ρ n' ∧ lastRequest key out = none := by
  have hkeep := perform_preserves (I := Apart key ρ)
    (E := fun e => e.destroysClient = false ∧ e.requestOf key = none)
    (fun _ _ _ _ hI hE hone => by
      obtain ⟨hapart, hcaused⟩ := hI.performOne hE.1 hone
      exact ⟨hapart, fun e he => ⟨destroysClient_performOne hone e he, hcaused e he⟩⟩)
    depth h (fun e he => ⟨hcalls e he, hsilent e he⟩) hperform
  exact ⟨hkeep.1, lastRequest_eq_none fun e he => (hkeep.2 e he).2⟩

/-- The calls of a step keep the flag, and what they cause logs no request: the
last request of the step is the one its own critical section logged. -/
theorem Apart.perform {depth : Nat} (h : Apart key ρ n)
    (hcalls : ∀ e ∈ effects, e.destroysClient = false)
    (hperform : perform env depth n effects = some (n', out)) :
    Apart key ρ n' ∧ lastRequest key out = lastRequest key effects := by
  cases depth with
  | zero =>
      cases hperform
      exact ⟨h, rfl⟩
  | succ depth =>
      induction effects generalizing n out with
      | nil =>
          cases hperform
          exact ⟨h, rfl⟩
      | cons e rest ih =>
          obtain ⟨u, caused, v, more, last, hfirst, hmore, hlast, rfl⟩ :=
            perform_cons_eq_some.1 hperform
          obtain ⟨hu, hsilent⟩ := h.performOne (hcalls e List.mem_cons_self) hfirst
          obtain ⟨hv, hmoreNone⟩ :=
            hu.perform_silent (destroysClient_performOne hfirst) hsilent hmore
          obtain ⟨hw, hlastEq⟩ := ih hv (fun e he => hcalls e (List.mem_cons_of_mem _ he)) hlast
          refine ⟨hw, ?_⟩
          rw [List.cons_append, lastRequest, lastRequest_append, hmoreNone, hlastEq, lastRequest,
            Option.or_none]

/-! ## The steps of the endpoint -/

/-- The bridge-owned client connector of the service does not meet a server in
this step: no server is enabled while the connector exists, and a request of a
peer makes the connector only while there is no server. -/
def keepsApart (key : Key) (n : Endpoint ι) : Event ι → Bool
  | .enableServerConnector k _ => k ≠ key || (n.records key).client ≠ some .bridge
  | .finishReply client =>
      (n.replyOf client).all fun reply =>
        reply.key ≠ key || (n.records key).client ≠ some .bridge
  | .receive _ (.requestService k true) =>
      k ≠ key || (n.records key).server.isNone || (n.records key).client.isSome ||
        n.binding.hasOwner key || (n.binding.view key).localOffer
  | _ => true

/-- The outcome of a critical section, before its calls are performed: the flag
is the one its last request calls for. -/
def Accounted (key : Key) (ρ : Bool) (r : Endpoint ι × List (Effect ι)) : Prop :=
  Apart key ((lastRequest key r.2).getD ρ) r.1

theorem Apart.accounted (h : Apart key ρ n) (hsilent : ∀ e ∈ effects, e.requestOf key = none) :
    Accounted key ρ (n, effects) := by
  rw [Accounted, lastRequest_eq_none hsilent]
  exact h

theorem Apart.setBinding (h : Apart key ρ n) {b : Binding ι}
    (hflag : Binding.SameFlag key n.binding b) : Apart key ρ { n with binding := b } :=
  ⟨h.server_none, hflag.1.trans h.requested, hflag.2.trans h.localOffer⟩

theorem Apart.foreign (h : Apart key ρ n) {r : Endpoint ι × List (Effect ι)}
    (hforeign : Foreign key n r) : Accounted key ρ r :=
  (h.sameAt hforeign.1).accounted fun e he => requestOf_eq_none (hforeign.2 e he)

theorem Apart.destroyClient (h : Apart key ρ n) {bridged : Bool}
    (hdestroy : n.destroyClient env key bridged = some (n', effects)) :
    Accounted key ρ (n', effects) := by
  obtain ⟨b, caused, rfl, rfl, hcases⟩ := destroyClient_cases hdestroy
  have hsilent : ∀ e ∈ n.unsubscribeAll env key, e.requestOf key = none :=
    fun e he => requestOf_eq_none (tellsPeer_of_mem_unsubscribeAll he).concerns
  obtain ⟨-, rfl, rfl⟩ | ⟨-, hb⟩ := hcases
  · rw [List.append_nil]
    exact Apart.accounted ⟨by simp, h.requested, h.localOffer⟩ hsilent
  · obtain ⟨hreq, hlocal⟩ := Binding.requested_sendRequestService hb
    refine ⟨by simp, ?_, hlocal.trans h.localOffer⟩
    rw [lastRequest_append, lastRequest_eq_none hsilent, Option.or_none, ← h.requested]
    exact hreq

theorem Apart.receiveRequest (h : Apart key ρ n) {client : ι} {k : Key} {inUse : Bool}
    (hok : keepsApart key n (.receive client (.requestService k inUse)) = true)
    (hreceive : n.receiveRequest env client k inUse = some (n', effects)) :
    Accounted key ρ (n', effects) := by
  cases inUse with
  | false =>
      obtain ⟨b, hb, rfl⟩ := receiveRequest_false hreceive
      obtain ⟨rfl, hself, hother⟩ := Binding.handleRequestServiceMessage_false hb
      have hflag : Binding.SameFlag key n.binding b := by
        by_cases hk : key = k
        · subst hk
          exact Binding.sameFlag_of_view hself (by cases (n.binding.view key).state <;> rfl) rfl
        · exact Binding.sameFlag_of_view (hother key hk)
            (by cases (n.binding.view key).state <;> rfl) rfl
      refine (h.setBinding hflag).accounted fun e he => ?_
      obtain ⟨_, _, _, _, -, -, -, rfl⟩ := Binding.exists_of_mem_unsubscribeEffects he
      rfl
  | true =>
      by_cases hk : k = key
      · subst hk
        have hnote : Binding.SameFlag k n.binding (n.binding.withInterested k client) := by
          simp [Binding.SameFlag, Binding.requested, Binding.view_withInterested]
        obtain ⟨-, rfl, rfl⟩ | ⟨-, -, rfl, rfl⟩ | ⟨hlocal, howner, b, hcases⟩ :=
          receiveRequest_true hreceive
        · refine (h.setBinding hnote).accounted fun e he => ?_
          rw [List.mem_singleton.1 he]
          rfl
        · exact (h.setBinding hnote).accounted (by simp)
        · obtain ⟨-, hcreate, rfl⟩ | ⟨server, hclient, hserver, -, -⟩ |
            ⟨hclient, hserver, hcreate, rfl⟩ := hcases
          · obtain ⟨rfl, -, -, hself, -⟩ := Binding.createClientConnector_failed hcreate
            have hflag : Binding.SameFlag k n.binding b :=
              hnote.trans (Binding.sameFlag_of_view hself
                (by cases ((n.binding.withInterested k client).view k).state <;> rfl) rfl)
            exact (h.setBinding hflag).accounted (by simp)
          · simp [keepsApart, hclient, hserver, howner, hlocal] at hok
          · obtain ⟨rfl, -, -, hself, -⟩ := Binding.createClientConnector_waiting hcreate
            have hflag : Binding.SameFlag k n.binding b :=
              hnote.trans (Binding.sameFlag_of_view hself
                (by cases ((n.binding.withInterested k client).view k).state <;> rfl) rfl)
            refine Apart.accounted ⟨fun _ => by simp [hserver], ?_, ?_⟩ (by simp)
            · exact hflag.1.trans h.requested
            · exact hflag.2.trans h.localOffer
      · exact h.foreign (foreign_receiveRequest hk hreceive)

theorem Apart.finishReply (h : Apart key ρ n) {reply : PendingReply ι}
    (hok : reply.key ≠ key ∨ (n.records key).client ≠ some .bridge)
    (hfinish : n.finishReply env reply = some (n', effects)) :
    Accounted key ρ (n', effects) := by
  obtain ⟨-, rfl, rfl⟩ | ⟨-, m, offers, hm, rfl, rfl⟩ := finishReply_cases hfinish
  · refine Apart.accounted ⟨h.server_none, h.requested, h.localOffer⟩ fun e he => ?_
    rw [List.mem_singleton.1 he]
    rfl
  · have hnotified : Apart key ρ m ∧ ∀ e ∈ offers, e.requestOf key = none := by
      by_cases hk : reply.key = key
      · subst hk
        have hclient := hok.resolve_left (fun hne => hne rfl)
        obtain ⟨-, rfl, rfl⟩ | ⟨hbridge, -⟩ := notifyClient_cases hm
        · exact ⟨⟨by simp [hclient], h.requested, h.localOffer⟩, by simp⟩
        · exact absurd (by simpa using hbridge) hclient
      · obtain ⟨hsame, hcaused⟩ := foreign_notifyClient hk hm
        have hnoted : Apart key ρ ({ n with replies := n.replies.erase reply }.setRecord reply.key
            { n.records reply.key with server := some (.bridge reply.connector) }) :=
          ⟨by simpa [Ne.symm hk] using h.server_none, h.requested, h.localOffer⟩
        exact ⟨hnoted.sameAt hsame, fun e he => requestOf_eq_none (hcaused e he)⟩
    refine (hnotified.1.setBinding (Binding.sameFlag_addServerConnector _ _ _)).accounted ?_
    intro e he
    rcases List.mem_append.1 he with he | he
    · exact hnotified.2 e he
    · obtain ⟨c, -, rfl⟩ := List.mem_map.1 he
      rfl

theorem Apart.offerService (h : Apart key ρ n) {client : ι} {offered : Bool} {b : Binding ι}
    (hb : n.binding.handleOfferServiceMessage env client key offered = some (b, effects)) :
    Accounted key ρ ({ n with binding := b }, effects) := by
  cases offered with
  | false =>
      obtain ⟨rfl, -, -, hself, -⟩ := Binding.handleOfferServiceMessage_false hb
      have hflag : Binding.SameFlag key n.binding b :=
        Binding.sameFlag_of_view hself (by cases (n.binding.view key).state <;> rfl) rfl
      refine (h.setBinding hflag).accounted fun e he => ?_
      obtain ⟨c, -, rfl⟩ := List.mem_map.1 he
      rfl
  | true =>
      rw [Binding.handleOfferServiceMessage_true] at hb
      have hconnects := Binding.connects_of_maybeSendConnectServiceLocked hb
      have hoffer : Binding.SameFlag key n.binding (n.binding.withOffer key client) :=
        Binding.sameFlag_of_view Binding.view_withOffer
          (by cases (n.binding.view key).state <;> rfl) rfl
      refine (h.setBinding (hoffer.trans
        (Binding.sameFlag_of_resumed hconnects.resumed))).accounted fun e he => ?_
      obtain ⟨c, r, metadata, rfl⟩ := hconnects.sends e he
      rfl

theorem Apart.subscribeMessage (h : Apart key ρ n) (client : ι) (providedId eventId : Nat)
    (subscribe : Bool) :
    Accounted key ρ
      ({ n with
        binding := (n.binding.handleSubscribeEventMessage client providedId eventId subscribe).1 },
        (n.binding.handleSubscribeEventMessage client providedId eventId subscribe).2) := by
  cases hids : n.binding.idMapping.getByLocalHandle client providedId with
  | none =>
      rw [Binding.handleSubscribeEventMessage_none hids]
      exact h.accounted (by simp)
  | some ids =>
      obtain ⟨heffects, hview⟩ := Binding.handleSubscribeEventMessage_some hids
      refine (h.setBinding (Binding.sameFlag_of_view (hview key) ?_ rfl)).accounted ?_
      · cases (n.binding.view key).state with
        | none => rfl
        | some state =>
            simp only [Option.map_some, Option.any_some]
            split
            · rw [ServiceState.updateEventSubscription_frame]
            · rfl
      · intro e he
        rw [heffects] at he
        obtain ⟨state, -, he⟩ := List.mem_flatMap.1 he
        obtain ⟨-, rfl⟩ | ⟨-, rfl⟩ :=
          ServiceState.exists_of_mem_updateEventSubscription _ _ _ he <;> rfl

theorem Apart.onReceiveMessage (h : Apart key ρ n) {client : ι} {msg : Message}
    (hok : keepsApart key n (.receive client msg) = true)
    (hself : ∀ {k}, (Event.receive client msg).about = some k → k = key)
    (hmsg : ∀ k requiredId metadata, msg ≠ .connectService k requiredId metadata false)
    (hreceive : n.onReceiveMessage env client msg = some (n', effects)) :
    Accounted key ρ (n', effects) := by
  cases Handles.of_onReceiveMessage hreceive with
  | connect =>
      refine h.accounted fun e he => ?_
      rcases List.mem_cons.1 he with rfl | he
      · rfl
      · obtain ⟨entry, -, rfl⟩ := List.mem_map.1 he
        rfl
  | connectReply hb =>
      have hresumed := Binding.resumed_of_handleConnectReplyMessage hb
      refine (h.setBinding (Binding.sameFlag_of_resumed hresumed)).accounted fun e he => ?_
      obtain ⟨_, _, _, _, rfl⟩ | ⟨_, _, _, -, -, rfl⟩ := hresumed.sends e he <;> rfl
  | request hrequest => exact h.receiveRequest hok hrequest
  | offer hb =>
      obtain rfl := hself rfl
      exact h.offerService hb
  | @connectService k requiredId metadata inUse _ _ hb =>
      cases inUse with
      | false => exact absurd rfl (hmsg k requiredId metadata)
      | true =>
          obtain ⟨localMetadata, state, -, -, rfl, rfl⟩ :=
            Binding.handleConnectServiceMessage_true hb
          refine Apart.accounted ⟨h.server_none, h.requested, h.localOffer⟩ fun e he => ?_
          rcases List.mem_append.1 he with he | he
          · exact requestOf_eq_none (Binding.concerns_addMapping he)
          · rw [List.mem_singleton.1 he]
            rfl
  | connectServiceReply hb =>
      obtain ⟨-, rfl, rfl, -⟩ | ⟨k, -, ⟨-, rfl, rfl, -⟩ | ⟨_, _, -, -, rfl, rfl, -⟩⟩ :=
        Binding.handleConnectServiceReplyMessage_cases hb
      · exact Apart.accounted ⟨h.server_none, h.requested, h.localOffer⟩ (by simp)
      · exact Apart.accounted ⟨h.server_none, h.requested, h.localOffer⟩ (by simp)
      · exact Apart.accounted ⟨h.server_none, h.requested, h.localOffer⟩
          fun e he => requestOf_eq_none (Binding.concerns_addMapping he)
  | subscribe => exact h.subscribeMessage client _ _ _
  | eventUpdate hb =>
      rw [Binding.handleEventUpdateMessage_frame hb]
      refine Apart.accounted ⟨h.server_none, h.requested, h.localOffer⟩ fun e he => ?_
      obtain ⟨-, rfl⟩ | ⟨_, _, -, -, ⟨-, rfl⟩ | ⟨_, _, -, rfl⟩⟩ :=
        Binding.handleEventUpdateMessage_effects hb
      · cases he
      · rw [List.mem_singleton.1 he]
        rfl
      · rw [List.mem_singleton.1 he]
        rfl
  | payloadConsumed =>
      rw [Binding.handlePayloadConsumedMessage_frame]
      refine Apart.accounted ⟨h.server_none, h.requested, h.localOffer⟩ fun e he => ?_
      obtain ⟨payload, rfl⟩ := Binding.exists_of_mem_payloadConsumed he
      rfl

theorem Apart.act (h : Apart key ρ n) {event : Event ι} (hok : keepsApart key n event = true)
    (hevent : ∀ client k requiredId metadata,
      event ≠ .receive client (.connectService k requiredId metadata false))
    (hact : n.act env event = some (n', effects)) : Accounted key ρ (n', effects) := by
  obtain ⟨k, habout, hne⟩ | hself := event.about_cases key
  · exact h.foreign (foreign_act habout hne hact)
  cases Acts.of_act hact with
  | idle => exact ⟨h.server_none, h.requested, h.localOffer⟩
  | register =>
      obtain rfl := hself rfl
      exact Apart.accounted ⟨by simp, h.requested, h.localOffer⟩ (by simp)
  | request _ hb =>
      obtain rfl := hself rfl
      obtain ⟨hreq, hlocal⟩ := Binding.requested_sendRequestService hb
      refine ⟨by simp, ?_, hlocal.trans h.localOffer⟩
      rw [← h.requested]
      exact hreq
  | destroy _ hdestroy =>
      obtain rfl := hself rfl
      exact h.destroyClient hdestroy
  | enable _ hnotify =>
      obtain rfl := hself rfl
      simp only [keepsApart, ne_eq, not_true_eq_false, decide_false, Bool.false_or,
        decide_not, Bool.not_eq_true', decide_eq_false_iff_not] at hok
      obtain ⟨-, rfl, rfl⟩ | ⟨hbridge, -⟩ := notifyClient_cases hnotify
      · exact Apart.accounted ⟨by simp [hok], h.requested, h.localOffer⟩ (by simp)
      · exact absurd (by simpa using hbridge) hok
  | disable _ hdisable =>
      obtain rfl := hself rfl
      obtain ⟨hapart, rfl⟩ := h.disableServer hdisable
      exact hapart.accounted (by simp)
  | subscribe =>
      exact (h.sameButSubscriptions (sameButSubscriptions_socomSubscribe env n _ _)).accounted
        fun e he => requestOf_eq_none (tellsPeer_of_mem_socomSubscribe he).concerns
  | unsubscribe =>
      exact (h.sameButSubscriptions (sameButSubscriptions_socomUnsubscribe env n _ _)).accounted
        fun e he => requestOf_eq_none (tellsPeer_of_mem_socomUnsubscribe he).concerns
  | update _ _ hupdate => exact h.foreign (foreign_socomUpdate hupdate)
  | drop =>
      refine Apart.accounted ⟨h.server_none, h.requested, h.localOffer⟩
        fun e he => requestOf_eq_none ?_
      rw [List.mem_singleton.1 he]
      rfl
  | addClient client =>
      have hflag : Binding.SameFlag key n.binding (n.binding.addClient client).1 := ⟨rfl, rfl⟩
      refine (h.setBinding hflag).accounted fun e he => requestOf_eq_none ?_
      rw [Binding.eq_of_mem_addClient he]
      rfl
  | removeClient client =>
      have hflag : Binding.SameFlag key n.binding (n.binding.removeClient client).1 :=
        Binding.sameFlag_of_view Binding.removeClient_view
          (by cases (n.binding.view key).state <;> simp [ServiceState.removeEventSubscriptions,
            ServiceState.dropSubscribers]) rfl
      refine (h.setBinding hflag).accounted fun e he => ?_
      obtain he | ⟨_, _, _, -, -, rfl⟩ := Binding.mem_removeClient_effects he
      · obtain ⟨_, _, _, _, -, -, -, rfl⟩ := Binding.exists_of_mem_unsubscribeEffects he
        rfl
      · rfl
  | receive _ hreceive =>
      exact h.onReceiveMessage hok hself (fun k r m hmsg => hevent _ k r m (by rw [hmsg])) hreceive
  | finish hreply hfinish =>
      refine h.finishReply ?_ hfinish
      simpa [keepsApart, hreply] using hok

/-- `Connect_service{in_use=false}` also destroys the client connector, whose
destruction un-requests the service when the connector was bridged. -/
theorem Apart.disconnect (h : Apart key ρ n) {client : ι} {k : Key} {requiredId depth : Nat}
    (hperform : Endpoint.perform env (depth + 1)
      { n with binding := (n.binding.disconnectService client k requiredId).1 }
      (n.binding.disconnectService client k requiredId).2 = some (n', out)) :
    Apart key ((lastRequest key out).getD ρ) n' := by
  rw [Binding.disconnectService_effects, perform_append] at hperform
  obtain ⟨⟨m, before⟩, hbefore, hrest⟩ := Option.bind_eq_some_iff.1 hperform
  obtain ⟨⟨m', after⟩, hafter, heq⟩ := Option.map_eq_some_iff.1 hrest
  cases heq
  have hflag : Binding.SameFlag key n.binding
      (n.binding.disconnectService client k requiredId).1 := by
    by_cases hk : key = k
    · subst hk
      refine Binding.sameFlag_of_view Binding.disconnectService_view ?_ rfl
      cases (n.binding.view key).state with
      | none => rfl
      | some state => cases n.binding.idMapping.getByRemoteHandle client requiredId <;> rfl
    · exact Binding.sameFlag_of_view (Binding.disconnectService_view_of_ne hk) rfl rfl
  have hdrops : ∀ e ∈ n.binding.droppedSubscriptions client k requiredId,
      e.destroysClient = false ∧ e.requestOf key = none := by
    intro e he
    obtain ⟨eventId, rfl⟩ := Binding.exists_of_mem_droppedSubscriptions he
    exact ⟨rfl, rfl⟩
  obtain ⟨hm, hnone⟩ := (h.setBinding hflag).perform_silent (fun e he => (hdrops e he).1)
    (fun e he => (hdrops e he).2) hbefore
  rw [lastRequest_append, hnone, Option.or_none]
  generalize ((n.binding.view k).state.bind fun s => s.clientConnector) = removed at hafter
  cases removed with
  | none =>
      cases hafter
      exact hm
  | some connector =>
      obtain ⟨u, caused, v, more, last, hdestroy, hmore, hlast, rfl⟩ :=
        perform_cons_eq_some.1 hafter
      cases hlast
      have hu : Accounted key ρ (u, caused) := by
        by_cases hk : k = key
        · subst hk
          exact hm.destroyClient hdestroy
        · exact hm.foreign (foreign_destroyClient hk hdestroy)
      obtain ⟨hv, hlastEq⟩ := Apart.perform hu (destroysClient_performOne hdestroy) hmore
      have hfirst : Effect.requestOf key (.destroyClientConnector k connector : Effect ι) = none := rfl
      rw [List.append_nil, lastRequest, hlastEq, hfirst, Option.or_none]
      exact hv

/-- The step lemma: after an allowed step the flag is what the last request of
the step calls for. -/
theorem Apart.step (h : Apart key ρ n) {event : Event ι} (hok : keepsApart key n event = true)
    (hstep : n.step env event = some (n', out)) :
    Apart key ((lastRequest key out).getD ρ) n' := by
  obtain ⟨m, effects, hact, hperform⟩ := step_eq_some.1 hstep
  by_cases hevent : ∃ client k requiredId metadata,
      event = .receive client (.connectService k requiredId metadata false)
  · obtain ⟨client, k, requiredId, metadata, rfl⟩ := hevent
    obtain ⟨rfl, rfl⟩ := fst_snd_of_some_eq (act_receive_eq_some.1 hact).2
    exact h.disconnect hperform
  · have hm : Accounted key ρ (m, effects) := by
      refine h.act hok (fun client k requiredId metadata heq => hevent ?_) hact
      exact ⟨client, k, requiredId, metadata, heq⟩
    have hcalls := destroysClient_act
      (fun client k requiredId metadata heq => hevent ⟨client, k, requiredId, metadata, heq⟩) hact
    obtain ⟨hn', hlast⟩ := Apart.perform hm hcalls hperform
    rw [hlast]
    exact hn'

/-! ## Runs with their history -/

/-- A step that appends what it did to the history of the run. -/
def nextLogged (s : Endpoint ι × List (Effect ι)) (label : Env ι × Event ι) :
    Option (Endpoint ι × List (Effect ι)) :=
  (s.1.step label.1 label.2).map fun r => (r.1, s.2 ++ r.2)

theorem Apart.run {log : List (Effect ι)}
    (h : Reach nextLogged (fun s label => keepsApart key s.1 label.2 = true) ({}, []) (n, log)) :
    Apart key ((lastRequest key log).getD false) n := by
  refine h.invariant (I := fun s => Apart key ((lastRequest key s.2).getD false) s.1)
    ⟨fun _ => rfl, rfl, rfl⟩ ?_
  rintro ⟨n, log⟩ ⟨env, event⟩ s' hn hok hnext
  obtain ⟨⟨n', out⟩, hstep, rfl⟩ := Option.map_eq_some_iff.1 hnext
  have hn' := Apart.step hn hok hstep
  rw [lastRequest_append]
  cases hlast : lastRequest key out with
  | none => simpa [hlast] using hn'
  | some inUse => simpa [hlast] using hn'

/-- The request that a `Connect` or a `Connect_reply` makes the endpoint send is
for a service with the flag set. -/
theorem requested_of_resumed {client peer : ι} {msg : Message} {about : Option Key} {ok : Bool}
    (hmsg : msg = .connect ∨ ∃ status, msg = .connectReply status)
    (hstep : n.step env (.receive client msg) = some (n', out))
    (hsend : .send peer about (.requestService key true) ok ∈ out) :
    n.binding.requested key = true := by
  obtain ⟨m, effects, hact, hperform⟩ := step_eq_some.1 hstep
  replace hact := (act_receive_eq_some.1 hact).2
  obtain rfl | ⟨status, rfl⟩ := hmsg
  · cases hact
    rw [perform_inert] at hperform
    · cases hperform
      rcases List.mem_cons.1 hsend with heq | hsend
      · cases heq
      · obtain ⟨⟨k, state⟩, hmem, heq⟩ := List.mem_map.1 hsend
        cases heq
        obtain ⟨hmem, hreq⟩ := List.mem_filter.1 hmem
        have hlookup := Table.lookup_eq_some_of_mem hmem
        simpa [Binding.requested, Binding.view, hlookup] using hreq
    · intro e he
      rcases List.mem_cons.1 he with rfl | he
      · rfl
      · obtain ⟨entry, -, rfl⟩ := List.mem_map.1 he
        rfl
  · obtain ⟨b, hb, rfl⟩ := setBinding_eq_some.1 hact
    have hresumed := Binding.resumed_of_handleConnectReplyMessage hb
    rw [perform_inert] at hperform
    · cases hperform
      obtain ⟨_, _, _, _, heq⟩ | ⟨k, _, state, hstate, hreq, heq⟩ := hresumed.sends _ hsend
      · cases heq
      · cases heq
        simpa [Binding.requested, Binding.view, hstate] using hreq
    · intro e he
      obtain ⟨_, _, _, _, rfl⟩ | ⟨_, _, _, -, -, rfl⟩ := hresumed.sends e he <;> rfl

/-- The flag says that the service was last requested, and a new connection asks
for the service only then, and not when the endpoint offers it to its peers. -/
structure RequestedLocally (key : Key) (n : Endpoint ι) (log : List (Effect ι)) : Prop where
  flag : n.binding.requested key = true ↔ lastRequest key log = some true
  asks : ∀ (env : Env ι) (client peer : ι) (msg : Message) (about : Option Key) (ok : Bool)
    (n' : Endpoint ι) (out : List (Effect ι)),
    (msg = .connect ∨ ∃ status, msg = .connectReply status) →
    n.step env (.receive client msg) = some (n', out) →
    .send peer about (.requestService key true) ok ∈ out →
    lastRequest key log = some true ∧ (n.binding.view key).localOffer = false

end Endpoint

end SomeipGateway
