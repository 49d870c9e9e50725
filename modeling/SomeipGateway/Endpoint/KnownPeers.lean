import SomeipGateway.Endpoint.Payloads

/-! # The peers that the tables name

Five tables of the binding name peers, and a reply channel is looked up for the
names in three of them. As long as messages come from connected peers only, every
name is connected, before and after every critical section.
-/

namespace SomeipGateway

variable {ι : Type} [DecidableEq ι]

/-- Every peer that the tables name for the service satisfies `C`. -/
structure ServiceView.Within (C : ι → Prop) (v : ServiceView ι) : Prop where
  nodup : v.interested.Nodup
  interested : ∀ c ∈ v.interested, C c
  ids : ∀ c, v.ids c ≠ [] → C c
  offers : ∀ c offer, (v.state.getD {}).offers.lookup c = some offer → C c
  subscribers : ∀ eventId, ∀ x ∈ (v.state.getD {}).subscribers eventId, C x.client
  pending : ∀ r c, v.pending r = some c → C c

namespace ServiceView

variable {C C' : ι → Prop} {v v' : ServiceView ι}

theorem Within.mono (h : v.Within C) (himp : ∀ c, C c → C' c) : v.Within C' where
  nodup := h.nodup
  interested c hc := himp c (h.interested c hc)
  ids c hc := himp c (h.ids c hc)
  offers c offer hc := himp c (h.offers c offer hc)
  subscribers eventId x hx := himp _ (h.subscribers eventId x hx)
  pending r c hc := himp c (h.pending r c hc)

/-- The state of the service is replaced by one that names no new peer. -/
theorem Within.setState (h : v.Within C) {s : Option (ServiceState ι)}
    (hoffers : ∀ c offer, (s.getD {}).offers.lookup c = some offer → C c)
    (hsubscribers : ∀ eventId, ∀ x ∈ (s.getD {}).subscribers eventId, C x.client) :
    ({ v with state := s } : ServiceView ι).Within C :=
  ⟨h.nodup, h.interested, h.ids, hoffers, hsubscribers, h.pending⟩

theorem Within.mapState (h : v.Within C) {f : ServiceState ι → ServiceState ι}
    (hoffers : ∀ s c offer, (f s).offers.lookup c = some offer →
      ∃ old, s.offers.lookup c = some old)
    (hsubscribers : ∀ s eventId, (f s).subscribers eventId ⊆ s.subscribers eventId) :
    ({ v with state := v.state.map f } : ServiceView ι).Within C := by
  refine h.setState (fun c offer hoffer => ?_) (fun eventId x hx => ?_)
  · cases hstate : v.state with
    | none => simp [hstate] at hoffer
    | some s =>
        obtain ⟨old, hold⟩ := hoffers s c offer (by simpa [hstate] using hoffer)
        exact h.offers c old (by simpa [hstate] using hold)
  · cases hstate : v.state with
    | none => simp [hstate, ServiceState.subscribers] at hx
    | some s =>
        have hx' : x ∈ (f s).subscribers eventId := by simpa [hstate] using hx
        exact h.subscribers eventId x (by simpa [hstate] using hsubscribers s eventId hx')

theorem Within.filterPending (h : v.Within C) (p : ι → Bool) :
    ({ v with pending := fun r => (v.pending r).filter p } : ServiceView ι).Within C :=
  ⟨h.nodup, h.interested, h.ids, h.offers, h.subscribers, fun r c hc =>
    h.pending r c (Option.filter_eq_some_iff.1 hc).1⟩

theorem Within.dropIds (h : v.Within C) {ids : ι → List Ids} (hids : ∀ c, ids c ⊆ v.ids c) :
    ({ v with ids := ids } : ServiceView ι).Within C :=
  ⟨h.nodup, h.interested, fun c hc => h.ids c fun hnil =>
    hc (List.eq_nil_iff_forall_not_mem.2 fun x hx => by simpa [hnil] using hids c hx),
    h.offers, h.subscribers, h.pending⟩

theorem Within.eraseInterested (h : v.Within C) (client : ι) :
    ({ v with interested := v.interested.erase client } : ServiceView ι).Within C :=
  ⟨h.nodup.erase client, fun c hc => h.interested c (List.mem_of_mem_erase hc), h.ids, h.offers,
    h.subscribers, h.pending⟩

end ServiceView

namespace Binding

variable {env : Env ι} {b b' : Binding ι} {key : Key} {effects : List (Effect ι)}

/-- The tables name connected peers only. -/
structure NamesWithin (L : List ι) (b : Binding ι) : Prop where
  connections : b.connections = L
  view : ∀ key, (b.view key).Within fun c => c ∈ L

variable {L : List ι}

theorem NamesWithin.of_view (h : NamesWithin L b) (key : Key)
    (hconn : b'.connections = b.connections)
    (hself : (b'.view key).Within fun c => c ∈ L)
    (hother : ∀ key' ≠ key, b'.view key' = b.view key') : NamesWithin L b' := by
  refine ⟨hconn.trans h.connections, fun key' => ?_⟩
  by_cases hk : key' = key
  · subst hk
    exact hself
  · rw [hother key' hk]
    exact h.view key'

/-- A connect that is pending now was pending before or goes to a connected peer. -/
structure PendsConnected (b b' : Binding ι) : Prop where
  connections : b'.connections = b.connections
  pending : ∀ r p, b'.pendingConnects.lookup r = some p →
    b.pendingConnects.lookup r = some p ∨ p.client ∈ b.connections

omit [DecidableEq ι] in
theorem PendsConnected.refl (b : Binding ι) : PendsConnected b b :=
  ⟨rfl, fun _ _ hp => .inl hp⟩

omit [DecidableEq ι] in
theorem PendsConnected.trans {b'' : Binding ι} (h : PendsConnected b b')
    (h' : PendsConnected b' b'') : PendsConnected b b'' := by
  refine ⟨h'.connections.trans h.connections, fun r p hp => ?_⟩
  rcases h'.pending r p hp with hold | hnew
  · exact h.pending r p hold
  · exact .inr (h.connections ▸ hnew)

theorem pendsConnected_sendConnectServiceTo {client : ι}
    (h : sendConnectServiceTo env key b client = some (b', effects)) : PendsConnected b b' := by
  obtain ⟨rfl, -⟩ | ⟨state, offer, metadata, requiredId, nextLocalId, -, -, -, -, -, hconn, -,
    rfl, -⟩ := sendConnectServiceTo_cases h
  · exact .refl _
  · refine ⟨by rw [emplacePending_frame], fun r p hp => ?_⟩
    obtain hold | ⟨-, rfl⟩ := lookup_emplacePending hp
    · exact .inl hold
    · exact .inr hconn

theorem pendsConnected_maybeSendConnectServiceLocked
    (h : b.maybeSendConnectServiceLocked env key = some (b', effects)) : PendsConnected b b' := by
  unfold maybeSendConnectServiceLocked at h
  split at h
  · cases h
    exact .refl _
  · split at h
    · exact foldEffects_rel (R := fun b _ b' => PendsConnected b b') .refl
        (fun _ _ _ _ _ hst htu => hst.trans htu)
        (fun _ _ _ _ _ hone => pendsConnected_sendConnectServiceTo hone) h
    · cases h
      exact .refl _

theorem pendsConnected_handleConnectReplyMessage {status : Bool}
    (h : b.handleConnectReplyMessage env status = some (b', effects)) : PendsConnected b b' := by
  unfold handleConnectReplyMessage at h
  split at h
  · refine foldEffects_rel (R := fun b _ b' => PendsConnected b b') .refl
      (fun _ _ _ _ _ hst htu => hst.trans htu) (fun k _ s s' es hone => ?_) h
    simp only [resumeService, Option.bind_eq_bind, Option.bind_eq_some_iff, Prod.exists,
      Option.some.injEq, Prod.mk.injEq] at hone
    obtain ⟨t, more, hmore, rfl, -⟩ := hone
    exact pendsConnected_maybeSendConnectServiceLocked hmore
  · cases h
    exact .refl _

/-! ## The sections -/

theorem NamesWithin.resumed (h : NamesWithin L b) (hb : Resumed env b effects b')
    (hpending : PendsConnected b b') : NamesWithin L b' := by
  refine ⟨hpending.connections.trans h.connections, fun key => ?_⟩
  obtain ⟨offers, hstate, hoffered⟩ := hb.state key
  have hview : b'.view key =
      { b.view key with
        state := (b.view key).state.map fun s => { s with offers := offers s }
        pending := (b'.view key).pending } := by
    ext1
    · exact hstate
    · rw [hb.frame]
      rfl
    · rw [hb.frame]
      rfl
    · rw [hb.frame]
      rfl
    · rfl
  have hpend : ∀ r c, (b'.view key).pending r = some c → c ∈ L := by
    intro r c hc
    rcases hpending.pending r ⟨key, c⟩ (view_pending_eq_some.1 hc) with hold | hnew
    · exact (h.view key).pending r c (view_pending_eq_some.2 hold)
    · exact h.connections ▸ hnew
  rw [hview]
  refine ⟨(h.view key).nodup, (h.view key).interested, (h.view key).ids, fun c offer hc => ?_,
    fun eventId x hx => (h.view key).subscribers eventId x ?_, hpend⟩
  · cases hs : (b.view key).state with
    | none => simp [hs] at hc
    | some s =>
        have hc' : (offers s).lookup c = some offer := by simpa [hs] using hc
        have hold := hoffered s c hs
        rw [hc', Option.map_some] at hold
        obtain ⟨old, hlookup, -⟩ := Option.map_eq_some_iff.1 hold.symm
        exact (h.view key).offers c old (by simpa [hs] using hlookup)
  · cases hs : (b.view key).state with
    | none => simp [hs, ServiceState.subscribers] at hx
    | some s => simpa [hs, ServiceState.subscribers] using hx

/-- The state of a service changes but for its offers and subscriptions. -/
theorem NamesWithin.keepState (h : NamesWithin L b) {s : ServiceState ι} {ids : ι → List Ids}
    {localOffer : Bool} (hconn : b'.connections = b.connections)
    (hself : b'.view key =
      { b.view key with state := some s, ids := ids, localOffer := localOffer })
    (hoffers : s.offers = ((b.view key).state.getD {}).offers)
    (hsubscriptions : s.eventSubscriptions = ((b.view key).state.getD {}).eventSubscriptions)
    (hids : ∀ c, ids c ⊆ (b.view key).ids c)
    (hother : ∀ key' ≠ key, b'.view key' = b.view key') : NamesWithin L b' := by
  refine h.of_view key hconn ?_ hother
  have hold := h.view key
  rw [hself]
  refine ⟨hold.nodup, hold.interested, (hold.dropIds hids).ids, fun c offer hc => ?_,
    fun eventId x hx => ?_, hold.pending⟩
  · rw [Option.getD_some, hoffers] at hc
    exact hold.offers c offer hc
  · rw [Option.getD_some, ServiceState.subscribers, hsubscriptions] at hx
    exact hold.subscribers eventId x hx

theorem NamesWithin.serviceStateChange (h : NamesWithin L b) {isAvailable : Bool}
    {counts : ServiceCounts}
    (hb : b.serviceStateChange env key isAvailable counts = some (b', effects)) :
    NamesWithin L b' := by
  have hconn : b'.connections = b.connections := by
    obtain ⟨-, rfl, -⟩ := serviceStateChange_eq_some.1 hb
    rfl
  refine h.keepState hconn (view_serviceStateChange hb) rfl rfl (fun c => ?_)
    fun _ hne => view_serviceStateChange_of_ne hne hb
  cases isAvailable
  · exact List.nil_subset _
  · exact List.Subset.refl _

theorem NamesWithin.sendRequestService (h : NamesWithin L b) {counts : ServiceCounts}
    {inUse : Bool} (hb : b.sendRequestService env key counts inUse = some (b', effects)) :
    NamesWithin L b' := by
  cases hclient : b.serviceStates.hasClientConnector key with
  | true =>
      rw [sendRequestService_skipped hclient] at hb
      cases hb
      exact h
  | false =>
      cases inUse with
      | true =>
          obtain ⟨more, hmore, -⟩ := (sendRequestService_true hclient).1 hb
          refine NamesWithin.resumed ?_
            (connects_of_maybeSendConnectServiceLocked hmore).resumed
            (pendsConnected_maybeSendConnectServiceLocked hmore)
          exact h.keepState rfl (view_insertState _) rfl rfl (fun _ => List.Subset.refl _)
            fun _ hne => view_insertState_of_ne _ hne
      | false =>
          rw [sendRequestService_false hclient] at hb
          cases hb
          refine h.of_view key rfl ?_ fun _ hne => view_unrequested_of_ne hne
          rw [view_unrequested]
          have hold := h.view key
          refine ⟨hold.nodup, hold.interested, by simp, fun c offer hc => ?_, fun eventId x hx => ?_,
            by simp⟩
          · cases hc
          · simp [ServiceState.subscribers] at hx

theorem NamesWithin.withInterested (h : NamesWithin L b) {client : ι} (hclient : client ∈ L) :
    NamesWithin L (b.withInterested key client) := by
  refine h.of_view key rfl ?_ fun _ hne => view_withInterested_of_ne hne
  rw [view_withInterested]
  have hold := h.view key
  refine ⟨hold.nodup.insert, fun c hc => ?_, hold.ids, hold.offers, hold.subscribers, hold.pending⟩
  rcases List.mem_insert_iff.1 hc with rfl | hc
  · exact hclient
  · exact hold.interested c hc

theorem NamesWithin.createClientConnector (h : NamesWithin L b) {result : ClientConnectorResult}
    (hb : b.createClientConnector env key result = some (b', effects)) : NamesWithin L b' := by
  cases result with
  | failed =>
      obtain ⟨-, hconn, -, hself, hother⟩ := createClientConnector_failed hb
      exact h.keepState hconn hself rfl rfl (fun _ => List.Subset.refl _) hother
  | connected counts =>
      obtain ⟨-, -, hconn, -, hself, hother⟩ := createClientConnector_connected hb
      exact h.keepState hconn hself rfl rfl (fun _ => List.Subset.refl _) hother
  | waiting =>
      obtain ⟨-, hconn, -, hself, hother⟩ := createClientConnector_waiting hb
      exact h.keepState hconn hself rfl rfl (fun _ => List.Subset.refl _) hother

theorem subscribers_removeEventSubscriptions_subset (s : ServiceState ι) (client : ι)
    (eventId : Nat) :
    (s.removeEventSubscriptions key client).1.subscribers eventId ⊆ s.subscribers eventId := by
  rw [ServiceState.removeEventSubscriptions, ServiceState.subscribers_dropSubscribers]
  exact Finset.filter_subset _ _

theorem NamesWithin.requestService (h : NamesWithin L b) {client : ι} {inUse : Bool}
    {result : ClientConnectorResult} (hclient : client ∈ L)
    (hb : b.handleRequestServiceMessage env client key inUse result = some (b', effects)) :
    NamesWithin L b' := by
  cases inUse with
  | false =>
      obtain ⟨-, hself, hother⟩ := handleRequestServiceMessage_false hb
      obtain ⟨hconn, -⟩ := handleRequestServiceMessage_false_frame hb
      have hstate : ∀ key', ({ b.view key' with
          state := (b.view key').state.map fun s =>
            (s.removeEventSubscriptions key' client).1 } : ServiceView ι).Within (· ∈ L) := by
        intro key'
        exact (h.view key').mapState (fun s c offer hc => ⟨offer, hc⟩)
          fun s => subscribers_removeEventSubscriptions_subset s client
      refine ⟨hconn.trans h.connections, fun key' => ?_⟩
      by_cases hk : key' = key
      · subst hk
        rw [hself]
        refine (((hstate key').eraseInterested client).filterPending _).dropIds fun c => ?_
        show (if c = client then [] else (b.view key').ids c) ⊆ (b.view key').ids c
        split
        · exact List.nil_subset _
        · exact List.Subset.refl _
      · rw [hother key' hk]
        exact hstate key'
  | true =>
      obtain ⟨-, rfl, -⟩ | ⟨-, -, rfl, -⟩ | ⟨-, -, hcreate⟩ := handleRequestServiceMessage_true hb
      · exact h.withInterested hclient
      · exact h.withInterested hclient
      · exact (h.withInterested hclient).createClientConnector hcreate

theorem NamesWithin.offerService (h : NamesWithin L b) {client : ι} {offered : Bool}
    (hclient : client ∈ L)
    (hb : b.handleOfferServiceMessage env client key offered = some (b', effects)) :
    NamesWithin L b' := by
  have hold := h.view key
  cases offered with
  | false =>
      obtain ⟨-, hconn, -, hself, hother⟩ := handleOfferServiceMessage_false hb
      refine h.of_view key hconn ?_ hother
      rw [hself]
      refine ⟨hold.nodup, hold.interested, by simp, fun c offer hc => ?_, fun eventId x hx => ?_,
        (hold.filterPending _).pending⟩
      · rw [Option.getD_some, Table.lookup_erase_ite] at hc
        split at hc
        · cases hc
        · exact hold.offers c offer hc
      · simp [ServiceState.subscribers] at hx
  | true =>
      rw [handleOfferServiceMessage_true] at hb
      refine NamesWithin.resumed ?_ (connects_of_maybeSendConnectServiceLocked hb).resumed
        (pendsConnected_maybeSendConnectServiceLocked hb)
      refine h.of_view key rfl ?_ fun _ hne => view_withOffer_of_ne hne
      rw [view_withOffer]
      refine hold.setState (fun c offer hc => ?_) hold.subscribers
      rw [Option.getD_some, Table.lookup_insert_ite] at hc
      split at hc
      next heq => exact heq ▸ hclient
      next => exact hold.offers c offer hc

theorem NamesWithin.addMapping (h : NamesWithin L b) {client : ι} {ids : Ids}
    (hclient : client ∈ L) : NamesWithin L (b.addMapping client ids).1 := by
  refine h.of_view ids.key rfl ?_ fun _ hne => view_addMapping_of_ne (Ne.symm hne)
  have hold := h.view ids.key
  rw [view_addMapping rfl]
  refine ⟨hold.nodup, hold.interested, fun c hc => ?_, hold.offers, hold.subscribers, hold.pending⟩
  by_cases heq : c = client
  · exact heq ▸ hclient
  · exact hold.ids c (by simpa [heq] using hc)

theorem NamesWithin.disconnectService (h : NamesWithin L b) {client : ι} {requiredId : Nat} :
    NamesWithin L (b.disconnectService client key requiredId).1 := by
  have hids : ∀ key' c, (if c = client then
      ((b.view key').ids client).filter fun ids => ids.remoteHandle ≠ requiredId
      else (b.view key').ids c) ⊆ (b.view key').ids c := by
    intro key' c
    split
    next heq => exact heq ▸ List.filter_subset_self _
    next => exact List.Subset.refl _
  refine ⟨h.connections, fun key' => ?_⟩
  by_cases hk : key' = key
  · subst hk
    rw [disconnectService_view]
    refine (((h.view key').filterPending _).dropIds (hids key')).mapState
      (fun s c offer hc => ⟨offer, ?_⟩) fun s eventId => ?_
    · cases hfound : b.idMapping.getByRemoteHandle client requiredId <;>
        simpa [hfound, ServiceState.removeEventSubscription, ServiceState.dropSubscribers] using hc
    · cases b.idMapping.getByRemoteHandle client requiredId with
      | none => exact Finset.Subset.refl _
      | some ids =>
          have hdrop := ServiceState.subscribers_dropSubscribers key' s
            (fun subscriber => subscriber = ⟨client, ids.localHandle⟩) eventId
          exact (Finset.subset_of_eq hdrop).trans (Finset.filter_subset _ _)
  · rw [disconnectService_view_of_ne hk]
    exact (h.view key').dropIds (hids key')

theorem NamesWithin.connectServiceReply (h : NamesWithin L b) {client : ι}
    {requiredId providedId : Nat} {metadata : SharedMemoryMetadata} {counts : ServiceCounts}
    {reply : Option (PendingReply ι)} (hclient : client ∈ L)
    (hb : b.handleConnectServiceReplyMessage env client requiredId providedId metadata counts =
      some (b', effects, reply)) : NamesWithin L b' := by
  obtain ⟨-, rfl, -⟩ | ⟨k, hpending, hcases⟩ := handleConnectServiceReplyMessage_cases hb
  · exact h
  · have herased : NamesWithin L
        { b with pendingConnects := b.pendingConnects.erase requiredId } := by
      refine ⟨h.connections, fun key' => ?_⟩
      have hold := h.view key'
      rw [view_erasePending hpending]
      refine ⟨hold.nodup, hold.interested, hold.ids, hold.offers, hold.subscribers,
        fun r c hc => ?_⟩
      simp only at hc
      split at hc
      · cases hc
      · exact hold.pending r c hc
    obtain ⟨-, rfl, -⟩ | ⟨_, _, -, -, rfl, -⟩ := hcases
    · exact herased
    · exact herased.addMapping hclient

theorem NamesWithin.subscribeEvent (h : NamesWithin L b) {client : ι} {providedId eventId : Nat}
    {subscribe : Bool} (hclient : client ∈ L) :
    NamesWithin L (b.handleSubscribeEventMessage client providedId eventId subscribe).1 := by
  cases hids : b.idMapping.getByLocalHandle client providedId with
  | none =>
      rw [handleSubscribeEventMessage_none hids]
      exact h
  | some ids =>
      obtain ⟨-, hview⟩ := handleSubscribeEventMessage_some hids
      refine ⟨?_, fun key' => ?_⟩
      · rw [handleSubscribeEventMessage_frame]
        exact h.connections
      · have hold := h.view key'
        rw [hview key']
        refine hold.setState (fun c offer hc => ?_) (fun e x hx => ?_)
        · cases hstate : (b.view key').state with
          | none => simp [hstate] at hc
          | some s =>
              refine hold.offers c offer ?_
              rw [hstate, Option.map_some, Option.getD_some] at hc
              rw [hstate, Option.getD_some]
              split at hc
              · rwa [ServiceState.updateEventSubscription_frame] at hc
              · exact hc
        · cases hstate : (b.view key').state with
          | none => simp [hstate, ServiceState.subscribers] at hx
          | some s =>
              rw [hstate, Option.map_some, Option.getD_some] at hx
              have hstored : ∀ y ∈ s.subscribers e, y.client ∈ L := fun y hy =>
                hold.subscribers e y (by simpa [hstate] using hy)
              split at hx
              · rw [ServiceState.subscribers_updateEventSubscription] at hx
                split at hx
                next heq =>
                  subst heq
                  split at hx
                  · rcases Finset.mem_insert.1 hx with rfl | hx
                    · exact hclient
                    · exact hstored x hx
                  · exact hstored x (Finset.mem_of_mem_erase hx)
                next => exact hstored x hx
              · exact hstored x hx

theorem NamesWithin.removeClient (h : NamesWithin L b) (client : ι) :
    NamesWithin (L.erase client) (b.removeClient client).1 := by
  have herase : ∀ c ∈ L, c ≠ client → c ∈ L.erase client := fun c hc hne =>
    (List.mem_erase_of_ne hne).2 hc
  refine ⟨by rw [← h.connections]; rfl, fun key => ?_⟩
  have hold := h.view key
  rw [removeClient_view]
  refine ⟨hold.nodup.erase client, fun c hc => ?_, fun c hc => ?_, fun c offer hc => ?_,
    fun eventId x hx => ?_, fun r c hc => ?_⟩
  · obtain ⟨hne, hin⟩ := hold.nodup.mem_erase_iff.1 hc
    exact herase c (hold.interested c hin) hne
  · by_cases hne : c = client
    · simp [hne] at hc
    · exact herase c (hold.ids c (by simpa [hne] using hc)) hne
  · cases hstate : (b.view key).state with
    | none => simp [hstate] at hc
    | some s =>
        rw [hstate, Option.map_some, Option.getD_some, ServiceState.lookup_removeOffer] at hc
        split at hc
        · cases hc
        next hne => exact herase c (hold.offers c offer (by rw [hstate]; exact hc)) hne
  · cases hstate : (b.view key).state with
    | none => simp [hstate, ServiceState.subscribers] at hx
    | some s =>
        rw [hstate, Option.map_some, Option.getD_some] at hx
        have hx := ServiceState.subscribers_removeOffer_subset _ client eventId hx
        rw [ServiceState.removeEventSubscriptions, ServiceState.subscribers_dropSubscribers,
          Finset.mem_filter, decide_eq_false_iff_not] at hx
        exact herase _ (hold.subscribers eventId x (by rw [hstate]; exact hx.1)) hx.2
  · obtain ⟨hin, hne⟩ := Option.filter_eq_some_iff.1 hc
    exact herase c (hold.pending r c hin) (by simpa using hne)

/-- The sections keep the names within the connections. -/
theorem namesWithin_rule (L : List ι) : SectionRule (fun c _ => c ∈ L) (NamesWithin L) where
  sendRequestService h hb := h.sendRequestService hb
  serviceStateChange h hb := h.serviceStateChange hb
  connectReply h hb := h.resumed (resumed_of_handleConnectReplyMessage hb)
    (pendsConnected_handleConnectReplyMessage hb)
  requestService hclient h hb := h.requestService hclient hb
  offerService hclient h hb := h.offerService hclient hb
  connectService := by
    intro env b b' client key requiredId metadata inUse effects hclient h hb
    cases inUse with
    | false =>
        cases hb
        exact h.disconnectService
    | true =>
        obtain ⟨_, _, -, -, rfl, -⟩ := handleConnectServiceMessage_true hb
        refine NamesWithin.addMapping (b := { b with nextLocalId := b.nextLocalId + 1 }) ?_ hclient
        exact ⟨h.connections, h.view⟩
  connectServiceReply hclient h hb := h.connectServiceReply hclient hb
  subscribeEvent hclient h := h.subscribeEvent hclient
  eventUpdate _ h hb := by
    rw [handleEventUpdateMessage_frame hb]
    exact ⟨h.connections, h.view⟩
  addServerConnector := by
    intro b key connector h
    refine h.of_view key rfl ?_ fun _ hne => view_addServerConnector_of_ne connector hne
    rw [view_addServerConnector]
    exact (h.view key).mapState (fun s c offer hc => ⟨offer, hc⟩) fun s _ => Finset.Subset.refl _
  sendEventUpdate h hb := by
    rw [sendEventUpdate_frame hb]
    exact ⟨h.connections, h.view⟩
  payloadConsumed _ h := by
    rw [handlePayloadConsumedMessage_frame]
    exact ⟨h.connections, h.view⟩

/-! ## What the raw tables name -/

/-- Some table has an entry for the peer. -/
def Names (b : Binding ι) (c : ι) : Prop :=
  (∃ key, c ∈ b.interested key) ∨
  c ∈ b.idMapping.idToKey.keys ∨
  (∃ key indices, b.idMapping.keyToClientIndices.lookup key = some indices ∧ c ∈ indices.keys) ∨
  (∃ key state, b.serviceStates.lookup key = some state ∧
    (c ∈ state.offers.keys ∨ ∃ eventId, ∃ x ∈ state.subscribers eventId, x.client = c)) ∨
  ∃ r pending, b.pendingConnects.lookup r = some pending ∧ pending.client = c

/-- The index of the mappings agrees with their vectors, and no vector is empty. -/
def MetadataSound (m : ConnectionMetadata ι) : Prop :=
  m.IndexSound ∧ m.NoEmptyVector

theorem metadataSound_rule :
    MetadataRule (fun _ => True) fun m : ConnectionMetadata ι => MetadataSound m where
  addMapping _ h := ⟨h.1.addMapping _, h.2.addMapping _⟩
  removeIf h := ⟨h.1.removeIf _, h.2.removeIf _⟩
  removeClient h := ⟨h.1.removeClient, h.2.removeClient⟩

theorem NamesWithin.mem_of_idsOf (h : NamesWithin L b) {c : ι} {ids : Ids}
    (hids : ids ∈ b.idMapping.idsOf c) : c ∈ L := by
  refine (h.view ids.key).ids c (List.ne_nil_of_mem (a := ids) ?_)
  exact List.mem_filter.2 ⟨hids, by simp⟩

theorem NamesWithin.mem_of_names (h : NamesWithin L b) (hm : MetadataSound b.idMapping) {c : ι}
    (hc : b.Names c) : c ∈ L := by
  obtain ⟨key, hc⟩ | hc | ⟨key, indices, hindices, hc⟩ | ⟨key, state, hstate, hc⟩ |
    ⟨r, pending, hpending, rfl⟩ := hc
  · exact (h.view key).interested c hc
  · obtain ⟨vec, hvec⟩ := Table.mem_keys_iff_lookup.1 hc
    obtain ⟨ids, hids⟩ := List.exists_mem_of_ne_nil _ (hm.2 c vec hvec)
    have hin : ids ∈ b.idMapping.idsOf c := by simpa [ConnectionMetadata.idsOf, hvec] using hids
    exact h.mem_of_idsOf hin
  · obtain ⟨i, hi⟩ := Table.mem_keys_iff_lookup.1 hc
    obtain ⟨ids, hids, -⟩ := hm.1 key indices hindices c i hi
    exact h.mem_of_idsOf (List.mem_of_getElem? hids)
  · have hview : (b.view key).state.getD {} = state := by
      rw [Binding.view, hstate, Option.getD_some]
    obtain hc | ⟨eventId, x, hx, rfl⟩ := hc
    · obtain ⟨offer, hoffer⟩ := Table.mem_keys_iff_lookup.1 hc
      exact (h.view key).offers c offer (by rw [hview]; exact hoffer)
    · exact (h.view key).subscribers eventId x (by rw [hview]; exact hx)
  · exact (h.view pending.key).pending r _ (view_pending_eq_some.2 hpending)

/-! ## Reply channels -/

/-- Every reply channel that the sections look up and assert is there: in the
offers of `service_state_change`, the updates of `send_event_update` and the
connects of `maybe_send_connect_service_locked`. -/
structure ChannelsFound (b : Binding ι) : Prop where
  offers : ∀ (env : Env ι) key isAvailable,
    (b.sendOffers env key isAvailable (b.interested key)).isSome = true
  updates : ∀ (env : Env ι) key eventId payload, .assertFailed .connectionMissing ∉
    (b.eventUpdates env key eventId payload (b.idMapping.forEachClient key)).1
  connects : ∀ (env : Env ι) key client, (env.metadata key).isSome = true →
    (sendConnectServiceTo env key b client).isSome = true

theorem connectionMissing_not_mem_eventUpdates {eventId : Nat} {payload : Payload ι}
    {clients : List (ι × Ids)} (h : ∀ p ∈ clients, p.1 ∈ b.connections) :
    .assertFailed .connectionMissing ∉ (b.eventUpdates env key eventId payload clients).1 := by
  induction clients with
  | nil => simp [eventUpdates]
  | cons p rest ih =>
      obtain ⟨client, ids⟩ := p
      have hclient : client ∈ b.connections := h (client, ids) List.mem_cons_self
      have hrest := ih fun p hp => h p (List.mem_cons_of_mem _ hp)
      simp only [eventUpdates, hclient, if_true, List.mem_cons, not_or]
      exact ⟨by simp [Env.send], hrest⟩

theorem NamesWithin.channelsFound (h : NamesWithin b.connections b)
    (hm : MetadataSound b.idMapping) : b.ChannelsFound where
  offers env key isAvailable := by
    exact Option.isSome_iff_exists.2 ⟨_, sendOffers_eq_some.2 ⟨(h.view key).interested, rfl⟩⟩
  updates env key eventId payload := by
    refine connectionMissing_not_mem_eventUpdates fun p hp => ?_
    exact h.mem_of_idsOf (ConnectionMetadata.mem_forEachClient hm.1 hp).1
  connects env key client hmetadata := by
    obtain ⟨metadata, hmetadata⟩ := Option.isSome_iff_exists.1 hmetadata
    unfold sendConnectServiceTo
    cases hstate : b.serviceStates.lookup key with
    | none => rfl
    | some state =>
        cases hoffer : state.offers.lookup client with
        | none => simp [hoffer]
        | some offer =>
            have hclient : client ∈ b.connections :=
              (h.view key).offers client offer (by rw [Binding.view, hstate]; exact hoffer)
            simp only [hoffer]
            split
            · simp [hmetadata]
            · rfl

/-- Every peer that the binding names is connected. -/
structure Connected (b : Binding ι) : Prop where
  nodup : b.connections.Nodup
  names : NamesWithin b.connections b
  metadata : MetadataSound b.idMapping

theorem Connected.init : Connected ({} : Binding ι) where
  nodup := List.nodup_nil
  names := by
    refine ⟨rfl, fun key => ⟨List.nodup_nil, ?_, ?_, ?_, ?_, ?_⟩⟩
    · intro c hc
      cases hc
    · intro c hc
      exact absurd rfl hc
    · intro c offer hc
      cases hc
    · intro eventId x hx
      exact absurd hx (Finset.notMem_empty x)
    · intro r c hc
      cases hc
  metadata := ⟨.empty, .empty⟩

theorem Connected.addClient (h : Connected b) (client : ι) : Connected (b.addClient client).1 :=
  ⟨h.nodup.insert,
    ⟨rfl, fun key => (h.names.view key).mono fun _ hc => List.mem_insert_of_mem hc⟩, h.metadata⟩

theorem Connected.removeClient (h : Connected b) (client : ι) :
    Connected (b.removeClient client).1 :=
  ⟨h.nodup.erase client, h.names.removeClient client,
    metadataSound_rule.removeClient h.metadata⟩

theorem Connected.mem_of_names (h : Connected b) {c : ι} (hc : b.Names c) : c ∈ b.connections :=
  h.names.mem_of_names h.metadata hc

theorem Connected.not_names_removeClient (h : Connected b) (client : ι) :
    ¬ (b.removeClient client).1.Names client := by
  intro hnames
  exact h.nodup.not_mem_erase ((h.removeClient client).mem_of_names hnames)

/-- The critical sections lead from `b` to `b'`, with messages in `ok`: `b'` has every
property of `b` that they keep. -/
def Leads (ok : ι → Message → Prop) (b b' : Binding ι) : Prop :=
  ∀ I : Binding ι → Prop, SectionRule ok I → I b → I b'

theorem leads_rule (ok : ι → Message → Prop) (b : Binding ι) : SectionRule ok (Leads ok b) where
  sendRequestService h hb I hI h0 := hI.sendRequestService (h I hI h0) hb
  serviceStateChange h hb I hI h0 := hI.serviceStateChange (h I hI h0) hb
  connectReply h hb I hI h0 := hI.connectReply (h I hI h0) hb
  requestService hok h hb I hI h0 := hI.requestService hok (h I hI h0) hb
  offerService hok h hb I hI h0 := hI.offerService hok (h I hI h0) hb
  connectService hok h hb I hI h0 := hI.connectService hok (h I hI h0) hb
  connectServiceReply hok h hb I hI h0 := hI.connectServiceReply hok (h I hI h0) hb
  subscribeEvent hok h I hI h0 := hI.subscribeEvent hok (h I hI h0)
  eventUpdate hok h hb I hI h0 := hI.eventUpdate hok (h I hI h0) hb
  addServerConnector h I hI h0 := hI.addServerConnector (h I hI h0)
  sendEventUpdate h hb I hI h0 := hI.sendEventUpdate (h I hI h0) hb
  payloadConsumed hok h I hI h0 := hI.payloadConsumed hok (h I hI h0)

theorem Connected.leads (h : Connected b) (hb : Leads (fun c _ => c ∈ b.connections) b b') :
    Connected b' := by
  have hnames : NamesWithin b.connections b' := hb _ (namesWithin_rule b.connections) h.names
  have hmetadata : SectionRule (fun c _ => c ∈ b.connections)
      fun b : Binding ι => MetadataSound b.idMapping :=
    metadataSound_rule.sections.mono fun _ msg _ =>
      MetadataRule.maps_of_forall (fun _ => trivial) msg
  exact ⟨hnames.connections ▸ h.nodup, hnames.connections ▸ hnames, hb _ hmetadata h.metadata⟩

end Binding

namespace Endpoint

variable {env : Env ι} {n n' : Endpoint ι} {out : List (Effect ι)}

/-- Messages of connected peers leave only connected peers named. -/
theorem connected_step {event : Event ι} (h : n.binding.Connected)
    (hfrom : event.isFrom fun c _ => c ∈ n.binding.connections)
    (hstep : n.step env event = some (n', out)) : n'.binding.Connected := by
  cases hevent : event.keepsConnections with
  | true =>
      refine h.leads ((Binding.leads_rule _ n.binding).step hevent hfrom ?_ hstep)
      exact fun _ _ h0 => h0
  | false =>
      obtain ⟨m, effects, hact, hperform⟩ := step_eq_some.1 hstep
      have hm : m.binding.Connected := by
        cases event with
        | addClient client =>
            cases hact
            exact h.addClient client
        | removeClient client =>
            cases hact
            exact h.removeClient client
        | makeClientConnector | destroyClientConnector | makeServerConnector
        | destroyServerConnector | enableServerConnector | disableServerConnector | subscribeEvent
        | unsubscribeEvent | updateEvent | dropPayload | receive | finishReply => cases hevent
      exact hm.leads ((Binding.leads_rule _ m.binding).perform (fun _ _ h0 => h0) hperform)

theorem connections_addClient {client : ι} (h : n.step env (.addClient client) = some (n', out)) :
    n'.binding.connections = n.binding.connections.insert client := by
  obtain ⟨m, effects, hact, hperform⟩ := step_eq_some.1 h
  cases hact
  exact connections_perform hperform

theorem connections_removeClient {client : ι}
    (h : n.step env (.removeClient client) = some (n', out)) :
    n'.binding.connections = n.binding.connections.erase client := by
  obtain ⟨m, effects, hact, hperform⟩ := step_eq_some.1 h
  cases hact
  exact connections_perform hperform

/-- Every peer that a table names is connected; every reply channel that a critical
section asserts is found, whatever sections run next; and after `remove_client` no
table names the peer, and the same holds from there. -/
structure PeersConnected (n : Endpoint ι) : Prop where
  named : ∀ c, n.binding.Names c → c ∈ n.binding.connections
  channels : ∀ b, Binding.Leads (fun c _ => c ∈ n.binding.connections) n.binding b → b.ChannelsFound
  removed : ∀ c, ¬ (n.binding.removeClient c).1.Names c
  channelsAfter : ∀ c b, Binding.Leads
    (fun c' _ => c' ∈ (n.binding.removeClient c).1.connections)
    (n.binding.removeClient c).1 b → b.ChannelsFound

theorem peersConnected_of_connected (h : n.binding.Connected) :
    n.PeersConnected where
  named _ hc := h.mem_of_names hc
  channels _ hb := (h.leads hb).names.channelsFound (h.leads hb).metadata
  removed c := h.not_names_removeClient c
  channelsAfter c _ hb :=
    ((h.removeClient c).leads hb).names.channelsFound ((h.removeClient c).leads hb).metadata

end Endpoint

end SomeipGateway
