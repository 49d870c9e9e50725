import SomeipGateway.Binding.BindingBase

/-! # One service of a binding

The tables of a binding are indexed by service, and a handler works on the
service it is called for. `Binding.view` collects what the tables hold for one
service; the lemmas say what every critical section does to the view of its own
service and that the views of the others stay as they are.
-/

namespace SomeipGateway

@[ext] structure ServiceView (ι : Type) where
  state : Option (ServiceState ι)
  ids : ι → List Ids
  localOffer : Bool
  interested : List ι
  pending : Nat → Option ι

variable {ι : Type}

/-! ## Folds of critical sections -/

/-- A relation that is reflexive, composes, and holds of every round holds of the
whole loop. -/
theorem foldEffects_rel {σ α : Type} {f : σ → α → Option (σ × List (Effect ι))}
    {R : σ → List (Effect ι) → σ → Prop} (hnil : ∀ s, R s [] s)
    (htrans : ∀ s t u es fs, R s es t → R t fs u → R s (es ++ fs) u) {items : List α}
    (hstep : ∀ a ∈ items, ∀ s s' es, f s a = some (s', es) → R s es s') :
    ∀ {s s' : σ} {es : List (Effect ι)}, foldEffects f s items = some (s', es) → R s es s' := by
  induction items with
  | nil =>
      intro s s' es h
      cases h
      exact hnil s
  | cons a rest ih =>
      intro s s' es h
      simp only [foldEffects, Option.bind_eq_bind, Option.bind_eq_some_iff, Prod.exists,
        Option.some.injEq, Prod.mk.injEq] at h
      obtain ⟨t, first, hfirst, u, more, hmore, rfl, rfl⟩ := h
      exact htrans _ _ _ _ _ (hstep a List.mem_cons_self _ _ _ hfirst)
        (ih (fun b hb => hstep b (List.mem_cons_of_mem _ hb)) hmore)

namespace Binding

variable [DecidableEq ι]

def view (b : Binding ι) (key : Key) : ServiceView ι where
  state := b.serviceStates.lookup key
  ids client := (b.idMapping.idsOf client).filter fun ids => ids.key = key
  localOffer := b.localOffers.lookup key = some true
  interested := b.interested key
  pending r := (b.pendingConnects.lookup r).bind fun pending =>
    if pending.key = key then some pending.client else none

variable {env : Env ι} {b b' : Binding ι} {key key' : Key} {client : ι}
  {effects : List (Effect ι)}

theorem view_pending_eq_some {r : Nat} {c : ι} :
    (b.view key).pending r = some c ↔ b.pendingConnects.lookup r = some ⟨key, c⟩ := by
  simp only [Binding.view]
  cases b.pendingConnects.lookup r with
  | none => simp
  | some pending =>
      obtain ⟨key', x'⟩ := pending
      by_cases hk : key' = key
      · simp [hk]
      · simp [hk]

/-- A missing state counts as the initial one. -/
theorem hasClientConnector_eq (b : Binding ι) (key : Key) :
    b.serviceStates.hasClientConnector key =
      (((b.view key).state.getD {}).clientConnectorPending ||
        ((b.view key).state.getD {}).clientConnector.isSome) := by
  simp only [ServiceStates.hasClientConnector, view]
  cases b.serviceStates.lookup key <;> rfl

theorem enabledConnector_eq (b : Binding ι) (key : Key) :
    ((b.view key).state.bind fun state => state.enabledConnector) =
      ((b.view key).state.getD {}).enabledConnector := by
  cases (b.view key).state <;> rfl

theorem view_insertState (state : ServiceState ι) :
    ({ b with serviceStates := b.serviceStates.insert key state } : Binding ι).view key =
      { b.view key with state := some state } := by
  ext1 <;> try rfl
  simp [view]

theorem view_insertState_of_ne (state : ServiceState ι) (hne : key' ≠ key) :
    ({ b with serviceStates := b.serviceStates.insert key state } : Binding ι).view key' =
      b.view key' := by
  ext1 <;> try rfl
  simp [view, hne]

/-! ## Connect_service to the peers that offer -/

/-- What a round of `send_connect_service` does when it does something. -/
theorem sendConnectServiceTo_cases (h : sendConnectServiceTo env key b client = some (b', effects)) :
    b' = b ∧ effects = [] ∨
    ∃ state offer metadata requiredId nextLocalId,
      b.serviceStates.lookup key = some state ∧ state.offers.lookup client = some offer ∧
      offer.offered = true ∧ offer.connectSent = false ∧ env.metadata key = some metadata ∧
      client ∈ b.connections ∧
      (offer.requiredId = 0 ∧ requiredId = b.nextLocalId ∧ nextLocalId = b.nextLocalId + 1 ∨
        offer.requiredId ≠ 0 ∧ requiredId = offer.requiredId ∧ nextLocalId = b.nextLocalId) ∧
      b' =
        { b with
          serviceStates := b.serviceStates.insert key
            { state with
              offers := state.offers.insert client
                { offer with
                  requiredId := requiredId
                  connectSent :=
                    env.link client (.connectService key requiredId metadata true) } }
          nextLocalId := nextLocalId }.emplacePending requiredId ⟨key, client⟩ ∧
      effects = [env.send client (some key) (.connectService key requiredId metadata true)] := by
  unfold sendConnectServiceTo at h
  split at h
  next => exact .inl (by simpa [eq_comm] using h)
  next state hstate =>
    split at h
    next => exact .inl (by simpa [eq_comm] using h)
    next offer hoffer =>
      split at h
      next hdue =>
        simp only [Bool.and_eq_true, Bool.not_eq_true'] at hdue
        simp only [Option.bind_eq_bind, Option.bind_eq_some_iff] at h
        obtain ⟨metadata, hmetadata, h⟩ := h
        split at h
        next hclient =>
          cases h
          refine .inr ⟨state, offer, metadata, _, _, hstate, hoffer, hdue.1, hdue.2, hmetadata,
            hclient, ?_, rfl, rfl⟩
          by_cases hid : offer.requiredId = 0 <;> simp [hid]
        next => cases h
      next => exact .inl (by simpa [eq_comm] using h)

omit [DecidableEq ι] in
theorem lookup_emplacePending {r r' : Nat} {p p' : PendingConnect ι}
    (h : (b.emplacePending r p).pendingConnects.lookup r' = some p') :
    b.pendingConnects.lookup r' = some p' ∨ r' = r ∧ p' = p := by
  unfold emplacePending at h
  split at h
  · exact .inl h
  · rw [Table.lookup_insert_ite] at h
    split at h
    next hr =>
      cases h
      exact .inr ⟨hr, rfl⟩
    next => exact .inl h

omit [DecidableEq ι] in
theorem emplacePending_frame (b : Binding ι) (r : Nat) (p : PendingConnect ι) :
    b.emplacePending r p =
      { b with pendingConnects := (b.emplacePending r p).pendingConnects } := by
  unfold emplacePending
  split <;> rfl

@[simp] theorem view_emplacePending_of_ne (hne : key' ≠ key) (r : Nat) (client : ι) :
    (b.emplacePending r ⟨key, client⟩).view key' = b.view key' := by
  unfold emplacePending
  split
  next => rfl
  next hnone =>
    ext1 <;> try rfl
    funext r'
    by_cases hr : r' = r
    · subst hr
      simp [view, hnone, hne.symm]
    · simp [view, Table.lookup_insert_ite, hr]

/-- How `maybe_send_connect_service_locked` relates the states around it: the
offers of its service are marked as answered, ids are used up, connects become
pending. -/
structure Connects (env : Env ι) (key : Key) (b : Binding ι) (effects : List (Effect ι))
    (b' : Binding ι) : Prop where
  frame : b' =
    { b with
      serviceStates := b'.serviceStates
      nextLocalId := b'.nextLocalId
      pendingConnects := b'.pendingConnects }
  other : ∀ key', key' ≠ key → b'.view key' = b.view key'
  state : ∃ offers : ServiceState ι → Table ι OfferState,
    b'.serviceStates.lookup key =
      (b.serviceStates.lookup key).map (fun state => { state with offers := offers state }) ∧
    ∀ state client, b.serviceStates.lookup key = some state →
      ((offers state).lookup client).map (·.offered) =
        (state.offers.lookup client).map (·.offered)
  next_le : b.nextLocalId ≤ b'.nextLocalId
  sends : ∀ e ∈ effects, ∃ client requiredId metadata,
    e = env.send client (some key) (.connectService key requiredId metadata true)

namespace Connects

theorem refl (env : Env ι) (key : Key) (b : Binding ι) : Connects env key b [] b where
  frame := rfl
  other := fun _ _ => rfl
  state := ⟨fun state => state.offers, by simp, fun _ _ _ => rfl⟩
  next_le := le_rfl
  sends := by simp

theorem trans {b'' : Binding ι} {effects' : List (Effect ι)}
    (h : Connects env key b effects b') (h' : Connects env key b' effects' b'') :
    Connects env key b (effects ++ effects') b'' where
  frame := by
    have hb := h.frame
    have hb' := h'.frame
    rw [hb'] at *
    rw [hb]
  other := fun key' hne => (h'.other key' hne).trans (h.other key' hne)
  state := by
    obtain ⟨offers, hoffers, hflags⟩ := h.state
    obtain ⟨offers', hoffers', hflags'⟩ := h'.state
    refine ⟨fun state => offers' { state with offers := offers state }, ?_, ?_⟩
    · rw [hoffers', hoffers]
      simp [Function.comp_def]
    · intro state client hstate
      rw [hflags' _ client (by rw [hoffers, hstate]; rfl)]
      exact hflags state client hstate
  next_le := h.next_le.trans h'.next_le
  sends := by
    intro e he
    rcases List.mem_append.1 he with he | he
    · exact h.sends e he
    · exact h'.sends e he

end Connects

theorem connects_of_sendConnectServiceTo
    (h : sendConnectServiceTo env key b client = some (b', effects)) :
    Connects env key b effects b' := by
  obtain ⟨rfl, rfl⟩ | ⟨state, offer, metadata, requiredId, nextLocalId, hstate, hoffer, hoffered, -,
    -, -, hid, rfl, rfl⟩ := sendConnectServiceTo_cases h
  · exact .refl env key b'
  · rw [emplacePending_frame]
    constructor
    case frame => rfl
    case other =>
      intro key' hne
      rw [← emplacePending_frame, view_emplacePending_of_ne hne]
      ext1 <;> try rfl
      simp [view, hne]
    case state =>
      refine ⟨fun s => s.offers.insert client
        { offer with
          requiredId := requiredId
          connectSent := env.link client (.connectService key requiredId metadata true) },
        by simp [hstate], ?_⟩
      intro s c hs
      obtain rfl : state = s := by simpa [hstate] using hs
      rw [Table.lookup_insert_ite]
      split
      next hc =>
        subst hc
        simp [hoffer]
      next => rfl
    case next_le =>
      show b.nextLocalId ≤ nextLocalId
      omega
    case sends =>
      intro e he
      exact ⟨client, requiredId, metadata, by simpa using he⟩

theorem connects_of_maybeSendConnectServiceLocked
    (h : b.maybeSendConnectServiceLocked env key = some (b', effects)) :
    Connects env key b effects b' := by
  unfold maybeSendConnectServiceLocked at h
  split at h
  next =>
    cases h
    exact .refl env key b
  next state hstate =>
    split at h
    next =>
      exact foldEffects_rel (R := fun b es b' => Connects env key b es b') (Connects.refl env key)
        (fun _ _ _ _ _ h h' => h.trans h')
        (fun _ _ _ _ _ h => connects_of_sendConnectServiceTo h) h
    next =>
      cases h
      exact .refl env key b

/-- How `handle_connect_reply_message` relates the states around it: connects for
any services, and requests for those that are marked as requested. -/
structure Resumed (env : Env ι) (b : Binding ι) (effects : List (Effect ι)) (b' : Binding ι) :
    Prop where
  frame : b' =
    { b with
      serviceStates := b'.serviceStates
      nextLocalId := b'.nextLocalId
      pendingConnects := b'.pendingConnects }
  state : ∀ key, ∃ offers : ServiceState ι → Table ι OfferState,
    b'.serviceStates.lookup key =
      (b.serviceStates.lookup key).map (fun state => { state with offers := offers state }) ∧
    ∀ state client, b.serviceStates.lookup key = some state →
      ((offers state).lookup client).map (·.offered) =
        (state.offers.lookup client).map (·.offered)
  sends : ∀ e ∈ effects,
    (∃ key client requiredId metadata,
      e = env.send client (some key) (.connectService key requiredId metadata true)) ∨
    ∃ key client state, b.serviceStates.lookup key = some state ∧ state.requested = true ∧
      e = env.send client (some key) (.requestService key true)

theorem Connects.resumed (h : Connects env key b effects b') : Resumed env b effects b' where
  frame := h.frame
  state := by
    intro key'
    by_cases hk : key' = key
    · subst hk
      exact h.state
    · refine ⟨fun state => state.offers, ?_, fun _ _ _ => rfl⟩
      have hstate := congrArg ServiceView.state (h.other key' hk)
      simpa [view] using hstate
  sends := by
    intro e he
    obtain ⟨client, requiredId, metadata, rfl⟩ := h.sends e he
    exact .inl ⟨key, client, requiredId, metadata, rfl⟩

theorem Resumed.refl (env : Env ι) (b : Binding ι) : Resumed env b [] b where
  frame := rfl
  state := fun _ => ⟨fun state => state.offers, by simp, fun _ _ _ => rfl⟩
  sends := by simp

theorem Resumed.trans {b'' : Binding ι} {effects' : List (Effect ι)}
    (h : Resumed env b effects b') (h' : Resumed env b' effects' b'') :
    Resumed env b (effects ++ effects') b'' where
  frame := by
    have hb := h.frame
    have hb' := h'.frame
    rw [hb'] at *
    rw [hb]
  state := by
    intro key
    obtain ⟨offers, hoffers, hflags⟩ := h.state key
    obtain ⟨offers', hoffers', hflags'⟩ := h'.state key
    refine ⟨fun state => offers' { state with offers := offers state }, ?_, ?_⟩
    · rw [hoffers', hoffers]
      simp [Function.comp_def]
    · intro state client hstate
      rw [hflags' _ client (by rw [hoffers, hstate]; rfl)]
      exact hflags state client hstate
  sends := by
    intro e he
    rcases List.mem_append.1 he with he | he
    · exact h.sends e he
    · obtain hconnect | ⟨key, client, state, hstate, hreq, rfl⟩ := h'.sends e he
      · exact .inl hconnect
      · obtain ⟨offers, hoffers, -⟩ := h.state key
        rw [hoffers, Option.map_eq_some_iff] at hstate
        obtain ⟨old, hold, rfl⟩ := hstate
        exact .inr ⟨key, client, old, hold, hreq, rfl⟩

theorem resumed_of_resumeService (h : resumeService env b key = some (b', effects)) :
    Resumed env b effects b' := by
  simp only [resumeService, Option.bind_eq_bind, Option.bind_eq_some_iff, Prod.exists,
    Option.some.injEq, Prod.mk.injEq] at h
  obtain ⟨_, more, hmore, rfl, rfl⟩ := h
  have hresumed := (connects_of_maybeSendConnectServiceLocked hmore).resumed
  refine ⟨hresumed.frame, hresumed.state, fun e he => ?_⟩
  rcases List.mem_append.1 he with he | he
  · split at he
    next hreq =>
      obtain ⟨state, hstate, hreq⟩ := (Option.any_eq_true _ _).1 hreq
      simp only [sendRequestServiceLocked] at he
      split at he
      · cases he
      · obtain ⟨client, -, rfl⟩ := List.mem_map.1 he
        exact .inr ⟨key, client, state, hstate, hreq, rfl⟩
    next => cases he
  · exact hresumed.sends e he

theorem resumed_of_handleConnectReplyMessage {status : Bool}
    (h : b.handleConnectReplyMessage env status = some (b', effects)) :
    Resumed env b effects b' := by
  unfold handleConnectReplyMessage at h
  split at h
  next =>
    exact foldEffects_rel (R := fun b es b' => Resumed env b es b')
      (Resumed.refl env) (fun _ _ _ _ _ h h' => h.trans h')
      (fun _ _ _ _ _ h => resumed_of_resumeService h) h
  next =>
    cases h
    exact .refl env b

/-! ## Callbacks and local requests -/

theorem sendOffers_eq_some {offered : Bool} {clients : List ι} :
    b.sendOffers env key offered clients = some effects ↔
      (∀ client ∈ clients, client ∈ b.connections) ∧
      effects = clients.map fun client =>
        env.send client (some key) (.offerService key offered) := by
  induction clients generalizing effects with
  | nil => simp [sendOffers, eq_comm]
  | cons client rest ih =>
      by_cases hc : client ∈ b.connections
      · simp only [sendOffers, hc, if_true, Option.bind_eq_bind, Option.bind_eq_some_iff, ih,
          List.forall_mem_cons, true_and, List.map_cons, Option.some.injEq]
        constructor
        · rintro ⟨_, ⟨hrest, rfl⟩, rfl⟩
          exact ⟨hrest, rfl⟩
        · rintro ⟨hrest, rfl⟩
          exact ⟨_, ⟨hrest, rfl⟩, rfl⟩
      · simp [sendOffers, hc]

theorem serviceStateChange_eq_some {isAvailable : Bool} {counts : ServiceCounts} :
    b.serviceStateChange env key isAvailable counts = some (b', effects) ↔
      (∀ client ∈ b.interested key, client ∈ b.connections) ∧
      b' =
        { b with
          idMapping := if isAvailable then b.idMapping else b.idMapping.removeService key
          localOffers := b.localOffers.insert key isAvailable
          serviceStates := b.serviceStates.addService key counts
          interestedPeers := b.interestedPeers.insert key (b.interested key) } ∧
      effects = (b.interested key).map fun client =>
        env.send client (some key) (.offerService key isAvailable) := by
  have hsame : ∀ (m : ConnectionMetadata ι) (o : Table Key Bool) (s : ServiceStates ι),
      ({ b with
          idMapping := m
          localOffers := o
          serviceStates := s
          interestedPeers := b.interestedPeers.insert key (b.interested key) } :
        Binding ι).interested key = b.interested key := by
    intro m o s
    simp [interested]
  simp only [serviceStateChange, Option.bind_eq_bind, Option.bind_eq_some_iff, Option.some.injEq,
    Prod.mk.injEq, hsame, sendOffers_eq_some]
  constructor
  · rintro ⟨_, ⟨hconn, rfl⟩, rfl, rfl⟩
    exact ⟨hconn, rfl, rfl⟩
  · rintro ⟨hconn, rfl, rfl⟩
    exact ⟨_, ⟨hconn, rfl⟩, rfl, rfl⟩

theorem view_serviceStateChange {isAvailable : Bool} {counts : ServiceCounts}
    (h : b.serviceStateChange env key isAvailable counts = some (b', effects)) :
    b'.view key =
      { b.view key with
        state := some { (b.view key).state.getD {} with counts := counts, requested := true }
        ids := fun client => if isAvailable then (b.view key).ids client else []
        localOffer := isAvailable } := by
  obtain ⟨-, rfl, -⟩ := serviceStateChange_eq_some.1 h
  ext1
  · simp [view, ServiceStates.addService, ServiceStates.getOrCreate]
  · funext client
    cases isAvailable <;> simp [view, List.filter_filter]
  · cases isAvailable <;> simp [view]
  · simp [view, interested]
  · rfl

theorem view_serviceStateChange_of_ne {isAvailable : Bool} {counts : ServiceCounts}
    (hne : key' ≠ key) (h : b.serviceStateChange env key isAvailable counts = some (b', effects)) :
    b'.view key' = b.view key' := by
  obtain ⟨-, rfl, -⟩ := serviceStateChange_eq_some.1 h
  ext1
  · simp [view, ServiceStates.addService, hne]
  · funext client
    cases isAvailable
    · simp only [view, Bool.false_eq_true, if_false, ConnectionMetadata.idsOf_removeService,
        List.filter_filter]
      refine List.filter_congr fun ids _ => ?_
      by_cases hk : ids.key = key' <;> simp [hk, hne]
    · rfl
  · simp [view, hne]
  · simp [view, interested, hne]
  · rfl

theorem view_clearPendingConnects (checker : PendingConnect ι → Bool) :
    (b.clearPendingConnects checker).view key =
      { b.view key with
        pending := fun r => ((b.view key).pending r).filter fun client => !checker ⟨key, client⟩ } := by
  ext1 <;> try rfl
  funext r
  simp only [view, clearPendingConnects, Table.lookup_filterMapVals]
  cases b.pendingConnects.lookup r with
  | none => rfl
  | some pending =>
      obtain ⟨pkey, pclient⟩ := pending
      by_cases hk : pkey = key
      · subst hk
        by_cases hc : checker ⟨pkey, pclient⟩ <;> simp [hc, Option.filter]
      · by_cases hc : checker ⟨pkey, pclient⟩ <;> simp [hc, hk]

theorem sendRequestService_skipped {counts : ServiceCounts} {inUse : Bool}
    (hclient : b.serviceStates.hasClientConnector key = true) :
    b.sendRequestService env key counts inUse = some (b, []) := by
  simp [sendRequestService, sendRequestServiceLocked, hclient]

theorem sendRequestService_true {counts : ServiceCounts}
    (hclient : b.serviceStates.hasClientConnector key = false) :
    b.sendRequestService env key counts true = some (b', effects) ↔
      ∃ more,
        { b with
          serviceStates := b.serviceStates.insert key
            { b.serviceStates.getOrCreate key with counts := counts, requested := true }
          }.maybeSendConnectServiceLocked env key = some (b', more) ∧
        effects =
          .requestSent key true :: b.sendToAll env (some key) (.requestService key true) ++ more := by
  simp only [sendRequestService, sendRequestServiceLocked, hclient, Bool.false_eq_true, if_false,
    Bool.not_true, ServiceStates.processRequestService, if_true, Option.bind_eq_bind,
    Option.bind_eq_some_iff, Prod.exists, Option.some.injEq, Prod.mk.injEq]
  constructor
  · rintro ⟨_, more, hmore, rfl, rfl⟩
    exact ⟨more, hmore, rfl⟩
  · rintro ⟨more, hmore, rfl⟩
    exact ⟨_, more, hmore, rfl, rfl⟩

/-- The binding after its service is no longer requested locally. -/
def unrequested (b : Binding ι) (key : Key) : Binding ι :=
  { b with
    serviceStates := b.serviceStates.erase key
    idMapping := b.idMapping.removeService key }.clearPendingConnects
      fun pending => pending.key = key

theorem sendRequestService_false {counts : ServiceCounts}
    (hclient : b.serviceStates.hasClientConnector key = false) :
    b.sendRequestService env key counts false =
      some (b.unrequested key,
        .requestSent key false :: b.sendToAll env (some key) (.requestService key false) ++
          ((b.view key).state.bind fun state => state.enabledConnector).toList.map
            (.destroyServerConnector key)) := by
  have hconn : (b.serviceStates.getOrCreate key).enabledConnector =
      (b.view key).state.bind fun state => state.enabledConnector := by
    simp only [ServiceStates.getOrCreate, view]
    cases b.serviceStates.lookup key <;> rfl
  simp [sendRequestService, sendRequestServiceLocked, hclient, ServiceStates.processRequestService,
    unrequested, clearPendingConnects, hconn]

theorem view_unrequested :
    (b.unrequested key).view key =
      { b.view key with state := none, ids := fun _ => [], pending := fun _ => none } := by
  rw [unrequested, view_clearPendingConnects]
  ext1
  · simp [view]
  · funext client
    simp [view, List.filter_filter]
  · rfl
  · rfl
  · funext r
    show Option.filter (fun _ => !decide (key = key)) ((b.view key).pending r) = none
    cases (b.view key).pending r <;> simp [Option.filter]

theorem view_unrequested_of_ne (hne : key' ≠ key) : (b.unrequested key).view key' = b.view key' := by
  rw [unrequested, view_clearPendingConnects]
  ext1
  · simp [view, hne]
  · funext client
    simp only [view, ConnectionMetadata.idsOf_removeService, List.filter_filter]
    refine List.filter_congr fun ids _ => ?_
    by_cases hk : ids.key = key' <;> simp [hk, hne]
  · rfl
  · rfl
  · funext r
    show Option.filter (fun _ => !decide (key' = key)) ((b.view key').pending r) = _
    cases (b.view key').pending r <;> simp [Option.filter, hne]

/-! ## Request_service -/

theorem view_clearPendingConnectsForKeyLocked (b : Binding ι) (key : Key) (client : ι) :
    (b.clearPendingConnectsForKeyLocked key client).view key =
      { b.view key with
        pending := fun r => ((b.view key).pending r).filter fun c => c ≠ client } := by
  rw [clearPendingConnectsForKeyLocked, view_clearPendingConnects]
  simp

theorem view_clearPendingConnectsForKeyLocked_of_ne (b : Binding ι) (client : ι)
    (hne : key' ≠ key) :
    (b.clearPendingConnectsForKeyLocked key client).view key' = b.view key' := by
  rw [clearPendingConnectsForKeyLocked, view_clearPendingConnects]
  ext1 <;> try rfl
  funext r
  cases h : (b.view key').pending r <;> simp [h, hne, Option.filter]

/-- The effects of `remove_event_subscriptions_for_client`, over all services. -/
def unsubscribeEffects (b : Binding ι) (client : ι) : List (Effect ι) :=
  b.serviceStates.entries.flatMap fun e => (e.2.removeEventSubscriptions e.1 client).2

/-- An un-request of `client` unsubscribes where no other endpoint is left. -/
theorem exists_of_mem_unsubscribeEffects {b : Binding ι} {client : ι} {e : Effect ι}
    (he : e ∈ b.unsubscribeEffects client) :
    ∃ key state eventId s, (b.view key).state = some state ∧
      state.eventSubscriptions.lookup eventId = some s ∧
      (∀ endpoint ∈ s, endpoint.client = client) ∧ e = .unsubscribeEvent key eventId := by
  obtain ⟨⟨key, state⟩, hmem, he⟩ := List.mem_flatMap.1 he
  simp only [ServiceState.removeEventSubscriptions, ServiceState.dropSubscribers] at he
  split at he
  · obtain ⟨⟨eventId, s⟩, hs, rfl⟩ := List.mem_map.1 he
    obtain ⟨hs, hleft⟩ := List.mem_filter.1 hs
    refine ⟨key, state, eventId, s, Table.lookup_eq_some_of_mem hmem,
      Table.lookup_eq_some_of_mem hs, fun endpoint hin => ?_, rfl⟩
    simp only [decide_eq_true_eq, Finset.filter_eq_empty_iff] at hleft
    simpa using hleft hin
  · cases he

theorem handleRequestServiceMessage_false {result : ClientConnectorResult}
    (h : b.handleRequestServiceMessage env client key false result = some (b', effects)) :
    effects = b.unsubscribeEffects client ∧
    b'.view key =
      { b.view key with
        state := (b.view key).state.map fun s => (s.removeEventSubscriptions key client).1
        ids := fun c => if c = client then [] else (b.view key).ids c
        interested := (b.view key).interested.erase client
        pending := fun r => ((b.view key).pending r).filter fun c => c ≠ client } ∧
    ∀ key' ≠ key, b'.view key' =
      { b.view key' with
        state := (b.view key').state.map fun s => (s.removeEventSubscriptions key' client).1 } := by
  simp only [handleRequestServiceMessage, Bool.not_false, if_true, Option.some.injEq,
    Prod.mk.injEq] at h
  obtain ⟨rfl, rfl⟩ := h
  refine ⟨rfl, ?_, fun key' hne => ?_⟩
  · ext1
    · simp only [view, clearPendingConnectsForKeyLocked, clearPendingConnects,
        ServiceStates.removeEventSubscriptionsForClient, Table.lookup_filterMapVals]
      cases b.serviceStates.lookup key <;> rfl
    · funext c
      by_cases hc : c = client
      · subst hc
        simp [view, clearPendingConnectsForKeyLocked, clearPendingConnects, List.filter_filter]
      · simp [view, clearPendingConnectsForKeyLocked, clearPendingConnects, hc]
    · rfl
    · simp only [view, interested, AList.lookup_insert, Option.getD_some]
      rfl
    · have hpending := congrArg ServiceView.pending
        (view_clearPendingConnectsForKeyLocked b key client)
      exact hpending
  · ext1
    · simp only [view, clearPendingConnectsForKeyLocked, clearPendingConnects,
        ServiceStates.removeEventSubscriptionsForClient, Table.lookup_filterMapVals]
      cases b.serviceStates.lookup key' <;> rfl
    · funext c
      by_cases hc : c = client
      · subst hc
        simp only [view, clearPendingConnectsForKeyLocked, clearPendingConnects,
          ConnectionMetadata.idsOf_removeMappingForClientAndKey, if_true, List.filter_filter]
        refine List.filter_congr fun ids _ => ?_
        by_cases hk : ids.key = key' <;> simp [hk, hne]
      · simp [view, clearPendingConnectsForKeyLocked, clearPendingConnects, hc]
    · rfl
    · simp only [view, interested, Table.lookup_insert_ite, hne, if_false]
      rfl
    · have hpending := congrArg ServiceView.pending
        (view_clearPendingConnectsForKeyLocked_of_ne b client hne)
      exact hpending

theorem handleRequestServiceMessage_false_frame {result : ClientConnectorResult}
    (h : b.handleRequestServiceMessage env client key false result = some (b', effects)) :
    b'.connections = b.connections ∧ b'.nextLocalId = b.nextLocalId := by
  simp only [handleRequestServiceMessage, Bool.not_false, if_true, Option.some.injEq,
    Prod.mk.injEq] at h
  obtain ⟨rfl, -⟩ := h
  exact ⟨rfl, rfl⟩

/-- The binding once a peer is noted as interested. -/
def withInterested (b : Binding ι) (key : Key) (client : ι) : Binding ι :=
  { b with interestedPeers := b.interestedPeers.insert key ((b.interested key).insert client) }

theorem view_withInterested :
    (b.withInterested key client).view key =
      { b.view key with interested := (b.view key).interested.insert client } := by
  ext1 <;> try rfl
  simp [view, withInterested, interested]

theorem view_withInterested_of_ne (hne : key' ≠ key) :
    (b.withInterested key client).view key' = b.view key' := by
  ext1 <;> try rfl
  simp [view, withInterested, interested, hne]

/-- The service has a reason why a request of a peer makes no client connector. -/
def hasOwner (b : Binding ι) (key : Key) : Bool :=
  b.serviceStates.hasClientConnector key || b.serviceStates.hasConnector key ||
    (b.serviceStates.lookup key).any fun state => state.requested

theorem handleRequestServiceMessage_true {result : ClientConnectorResult}
    (h : b.handleRequestServiceMessage env client key true result = some (b', effects)) :
    (b.view key).localOffer = true ∧ b' = b.withInterested key client ∧
        effects = [env.send client (some key) (.offerService key true)] ∨
    (b.view key).localOffer = false ∧ b.hasOwner key = true ∧ b' = b.withInterested key client ∧
        effects = [] ∨
    (b.view key).localOffer = false ∧ b.hasOwner key = false ∧
        (b.withInterested key client).createClientConnector env key result =
          some (b', effects) := by
  simp only [handleRequestServiceMessage, Bool.not_true, Bool.false_eq_true, if_false] at h
  split at h
  next hoffer =>
    cases h
    exact .inl ⟨by simpa [view] using hoffer, rfl, rfl⟩
  next hoffer =>
    have hlocal : (b.view key).localOffer = false := by simpa [view] using hoffer
    split at h
    next hclient =>
      cases h
      exact .inr (.inl ⟨hlocal, by simp only [hasOwner, hclient, Bool.true_or], rfl, rfl⟩)
    next hclient =>
      split at h
      next hconn =>
        cases h
        exact .inr (.inl ⟨hlocal, by simp only [hasOwner, hconn, Bool.true_or, Bool.or_true],
          rfl, rfl⟩)
      next hconn =>
        split at h
        next hreq =>
          cases h
          exact .inr (.inl ⟨hlocal, by simp only [hasOwner, hreq, Bool.or_true], rfl, rfl⟩)
        next hreq =>
          refine .inr (.inr ⟨hlocal, ?_, h⟩)
          rw [Bool.not_eq_true] at hclient hconn hreq
          simp only [hasOwner, hclient, hconn, hreq, Bool.or_self]

theorem createClientConnector_failed
    (h : b.createClientConnector env key .failed = some (b', effects)) :
    effects = [] ∧ b'.connections = b.connections ∧ b'.nextLocalId = b.nextLocalId ∧
    b'.view key =
      { b.view key with
        state := some { (b.view key).state.getD {} with clientConnectorPending := false } } ∧
    ∀ key' ≠ key, b'.view key' = b.view key' := by
  simp only [createClientConnector, Option.some.injEq, Prod.mk.injEq] at h
  obtain ⟨rfl, rfl⟩ := h
  refine ⟨rfl, rfl, rfl, ?_, fun key' hne => ?_⟩
  · ext1 <;> try rfl
    simp [view, ServiceStates.clearClientConnectorPending,
      ServiceStates.markClientConnectorPending, ServiceStates.getOrCreate]
  · ext1 <;> try rfl
    simp [view, ServiceStates.clearClientConnectorPending,
      ServiceStates.markClientConnectorPending, hne]

theorem createClientConnector_connected {counts : ServiceCounts}
    (h : b.createClientConnector env key (.connected counts) = some (b', effects)) :
    (∀ client ∈ b.interested key, client ∈ b.connections) ∧
    effects = (b.interested key).map
      (fun client => env.send client (some key) (.offerService key true)) ∧
    b'.connections = b.connections ∧ b'.nextLocalId = b.nextLocalId ∧
    b'.view key =
      { b.view key with
        state := some
          { (b.view key).state.getD {} with
            counts := counts
            requested := true
            clientConnector := some ⟨false⟩
            clientConnectorPending := false }
        localOffer := true } ∧
    ∀ key' ≠ key, b'.view key' = b.view key' := by
  simp only [createClientConnector, Option.bind_eq_bind, Option.bind_eq_some_iff, Prod.exists,
    serviceStateChange_eq_some, ServiceStates.addClientConnector, Option.map_eq_some_iff,
    Option.some.injEq, Prod.mk.injEq] at h
  obtain ⟨_, _, ⟨hconn, rfl, rfl⟩, _, ⟨state, hstate, rfl⟩, rfl, rfl⟩ := h
  simp only [ServiceStates.addService, AList.lookup_insert, Option.some.injEq] at hstate
  subst hstate
  refine ⟨hconn, rfl, rfl, rfl, ?_, fun key' hne => ?_⟩
  · ext1 <;> try rfl
    · simp [view, ServiceStates.getOrCreate, ServiceStates.markClientConnectorPending]
    · simp [view]
    · simp [view, interested]
  · ext1 <;> try rfl
    · simp [view, ServiceStates.addService, ServiceStates.markClientConnectorPending, hne]
    · simp [view, hne]
    · simp [view, interested, hne]

theorem createClientConnector_waiting
    (h : b.createClientConnector env key .waiting = some (b', effects)) :
    effects = [] ∧ b'.connections = b.connections ∧ b'.nextLocalId = b.nextLocalId ∧
    b'.view key =
      { b.view key with
        state := some
          { (b.view key).state.getD {} with
            clientConnector := some ⟨true⟩
            clientConnectorPending := false } } ∧
    ∀ key' ≠ key, b'.view key' = b.view key' := by
  have hpending : (b.serviceStates.markClientConnectorPending key).hasClientConnector key = true := by
    simp [ServiceStates.hasClientConnector, ServiceStates.markClientConnectorPending]
  simp only [createClientConnector] at h
  rw [sendRequestService_skipped (by exact hpending)] at h
  simp only [Option.bind_eq_bind, Option.bind_some, Option.bind_eq_some_iff,
    ServiceStates.addClientConnector, Option.map_eq_some_iff, Option.some.injEq,
    Prod.mk.injEq] at h
  obtain ⟨_, ⟨state, hstate, rfl⟩, rfl, rfl⟩ := h
  simp only [ServiceStates.markClientConnectorPending, AList.lookup_insert,
    Option.some.injEq] at hstate
  subst hstate
  refine ⟨rfl, rfl, rfl, ?_, fun key' hne => ?_⟩
  · ext1 <;> try rfl
    simp [view, ServiceStates.getOrCreate]
  · ext1 <;> try rfl
    simp [view, ServiceStates.markClientConnectorPending, hne]

theorem createClientConnector_frame {result : ClientConnectorResult}
    (h : b.createClientConnector env key result = some (b', effects)) :
    b'.idMapping = b.idMapping ∧ b'.allocations = b.allocations ∧
      b'.connections = b.connections ∧ b'.readOnlyManagers = b.readOnlyManagers := by
  cases result with
  | failed =>
      simp only [createClientConnector, Option.some.injEq, Prod.mk.injEq] at h
      obtain ⟨rfl, -⟩ := h
      exact ⟨rfl, rfl, rfl, rfl⟩
  | connected counts =>
      simp only [createClientConnector, Option.bind_eq_bind, Option.bind_eq_some_iff, Prod.exists,
        serviceStateChange_eq_some, Option.some.injEq, Prod.mk.injEq] at h
      obtain ⟨_, _, ⟨-, rfl, -⟩, _, -, rfl, -⟩ := h
      exact ⟨rfl, rfl, rfl, rfl⟩
  | waiting =>
      have hpending :
          (b.serviceStates.markClientConnectorPending key).hasClientConnector key = true := by
        simp [ServiceStates.hasClientConnector, ServiceStates.markClientConnectorPending]
      simp only [createClientConnector] at h
      rw [sendRequestService_skipped (by exact hpending)] at h
      simp only [Option.bind_eq_bind, Option.bind_some, Option.bind_eq_some_iff, Option.some.injEq,
        Prod.mk.injEq] at h
      obtain ⟨_, -, rfl, -⟩ := h
      exact ⟨rfl, rfl, rfl, rfl⟩

/-! ## Offer_service -/

theorem handleOfferServiceMessage_false
    (h : b.handleOfferServiceMessage env client key false = some (b', effects)) :
    effects = ((b.view key).state.bind fun s => s.enabledConnector).toList.map
      (.destroyServerConnector key) ∧
    b'.connections = b.connections ∧ b'.nextLocalId = b.nextLocalId ∧
    b'.view key =
      { b.view key with
        state := some
          { (b.view key).state.getD {} with
            offers := ((b.view key).state.getD {}).offers.erase client
            enabledConnector := none
            eventSubscriptions := ∅ }
        ids := fun _ => []
        pending := fun r => ((b.view key).pending r).filter fun c => c ≠ client } ∧
    ∀ key' ≠ key, b'.view key' = b.view key' := by
  simp only [handleOfferServiceMessage, ServiceStates.processOffer, Bool.false_eq_true, if_false,
    Bool.not_false, if_true, Option.some.injEq, Prod.mk.injEq] at h
  obtain ⟨rfl, rfl⟩ := h
  refine ⟨?_, rfl, rfl, ?_, fun key' hne => ?_⟩
  · simp only [ServiceStates.getOrCreate, view]
    cases b.serviceStates.lookup key <;> rfl
  · rw [view_clearPendingConnectsForKeyLocked]
    ext1 <;> try rfl
    · simp [view, ServiceStates.clearEventSubscriptions, ServiceStates.getOrCreate]
    · funext c
      simp [view, List.filter_filter]
  · rw [view_clearPendingConnectsForKeyLocked_of_ne _ _ hne]
    ext1 <;> try rfl
    · simp [view, ServiceStates.clearEventSubscriptions, hne]
    · funext c
      simp only [view, ConnectionMetadata.idsOf_removeService, List.filter_filter]
      refine List.filter_congr fun ids _ => ?_
      by_cases hk : ids.key = key' <;> simp [hk, hne]

/-- The binding once an offer of a peer is noted. -/
def withOffer (b : Binding ι) (key : Key) (client : ι) : Binding ι :=
  { b with serviceStates := (b.serviceStates.processOffer key client true).1 }

theorem handleOfferServiceMessage_true :
    b.handleOfferServiceMessage env client key true =
      (b.withOffer key client).maybeSendConnectServiceLocked env key := by
  simp [handleOfferServiceMessage, withOffer]

theorem view_withOffer :
    (b.withOffer key client).view key =
      { b.view key with
        state := some
          { (b.view key).state.getD {} with
            offers := ((b.view key).state.getD {}).offers.insert client
              { (((b.view key).state.getD {}).offers.lookup client).getD {} with
                offered := true } } } := by
  ext1 <;> try rfl
  simp [view, withOffer, ServiceStates.processOffer, ServiceStates.getOrCreate]

theorem view_withOffer_of_ne (hne : key' ≠ key) :
    (b.withOffer key client).view key' = b.view key' := by
  ext1 <;> try rfl
  simp [view, withOffer, ServiceStates.processOffer, hne]

/-! ## Connect_service and its reply -/

theorem view_addMapping {ids : Ids} (hkey : ids.key = key) :
    (b.addMapping client ids).1.view key =
      { b.view key with
        ids := fun c =>
          if c = client then (b.view key).ids client ++ [ids] else (b.view key).ids c } := by
  ext1 <;> try rfl
  funext c
  by_cases hc : c = client
  · subst hc
    simp [view, addMapping, hkey]
  · simp [view, addMapping, hc]

theorem view_addMapping_of_ne {ids : Ids} (hkey : ids.key ≠ key) :
    (b.addMapping client ids).1.view key = b.view key := by
  ext1 <;> try rfl
  funext c
  by_cases hc : c = client
  · subst hc
    simp [view, addMapping, hkey]
  · simp [view, addMapping, hc]

theorem eq_of_mem_addMapping {ids : Ids} {e : Effect ι} (he : e ∈ (b.addMapping client ids).2) :
    e = .assertFailed .mappingExists := by
  simp only [addMapping] at he
  split at he
  · exact List.mem_singleton.1 he
  · cases he

theorem eq_of_mem_addClient {e : Effect ι} (he : e ∈ (b.addClient client).2) :
    e = .assertFailed .clientIdExists := by
  simp only [addClient] at he
  split at he
  · exact List.mem_singleton.1 he
  · cases he

theorem handleConnectServiceMessage_true {requiredId : Nat} {metadata : SharedMemoryMetadata}
    (h : b.handleConnectServiceMessage env client key requiredId metadata true =
      some (b', effects)) :
    ∃ localMetadata state, env.metadata key = some localMetadata ∧
      (b.view key).state = some state ∧
      b' = ({ b with nextLocalId := b.nextLocalId + 1 }.addMapping client
        ⟨key, b.nextLocalId, requiredId, localMetadata, metadata⟩).1 ∧
      effects =
        ({ b with nextLocalId := b.nextLocalId + 1 }.addMapping client
          ⟨key, b.nextLocalId, requiredId, localMetadata, metadata⟩).2 ++
        [env.send client (some key)
          (.connectServiceReply requiredId b.nextLocalId localMetadata state.counts)] := by
  simp only [handleConnectServiceMessage, Bool.not_true, Bool.false_eq_true, if_false,
    Option.bind_eq_bind, Option.bind_eq_some_iff, Option.some.injEq, Prod.mk.injEq] at h
  obtain ⟨localMetadata, hmetadata, state, hstate, rfl, rfl⟩ := h
  exact ⟨localMetadata, state, hmetadata, hstate, rfl, rfl⟩

/-- The outcomes of the first section: the reply is not awaited from this peer,
its service is gone, or a mapping is added. -/
theorem handleConnectServiceReplyMessage_cases {requiredId providedId : Nat}
    {metadata : SharedMemoryMetadata} {counts : ServiceCounts} {reply : Option (PendingReply ι)}
    (h : b.handleConnectServiceReplyMessage env client requiredId providedId metadata counts =
      some (b', effects, reply)) :
    (∀ key, b.pendingConnects.lookup requiredId ≠ some ⟨key, client⟩) ∧ b' = b ∧ effects = [] ∧
        reply = none ∨
    ∃ key, b.pendingConnects.lookup requiredId = some ⟨key, client⟩ ∧
      ((b.view key).state = none ∧
          b' = { b with pendingConnects := b.pendingConnects.erase requiredId } ∧ effects = [] ∧
          reply = none ∨
        ∃ state localMetadata, (b.view key).state = some state ∧
          env.metadata key = some localMetadata ∧
          b' = ({ b with pendingConnects := b.pendingConnects.erase requiredId }.addMapping client
            ⟨key, providedId, requiredId, localMetadata, metadata⟩).1 ∧
          effects = ({ b with
            pendingConnects := b.pendingConnects.erase requiredId }.addMapping client
            ⟨key, providedId, requiredId, localMetadata, metadata⟩).2 ∧
          reply = some ⟨key, ⟨client, providedId, requiredId, counts⟩⟩) := by
  simp only [handleConnectServiceReplyMessage] at h
  split at h
  next hnone =>
    cases h
    exact .inl ⟨by simp [hnone], rfl, rfl, rfl⟩
  next pending hpending =>
    obtain ⟨key, owner⟩ := pending
    split at h
    next howner =>
      cases h
      refine .inl ⟨?_, rfl, rfl, rfl⟩
      intro key' hkey'
      rw [hpending, Option.some.injEq, PendingConnect.mk.injEq] at hkey'
      exact howner hkey'.2
    next howner =>
      obtain rfl : owner = client := by simpa using howner
      refine .inr ⟨key, hpending, ?_⟩
      split at h
      next hstate =>
        cases h
        exact .inl ⟨hstate, rfl, rfl, rfl⟩
      next state hstate =>
        simp only [Option.bind_eq_bind, Option.bind_eq_some_iff, Option.some.injEq,
          Prod.mk.injEq] at h
        obtain ⟨localMetadata, hmetadata, rfl, rfl, rfl⟩ := h
        exact .inr ⟨state, localMetadata, hstate, hmetadata, rfl, rfl, rfl⟩

theorem view_erasePending {r : Nat} (hpending : b.pendingConnects.lookup r = some ⟨key', client⟩) :
    ({ b with pendingConnects := b.pendingConnects.erase r } : Binding ι).view key =
      { b.view key with
        pending := fun r' => if key = key' ∧ r' = r then none else (b.view key).pending r' } := by
  ext1 <;> try rfl
  funext r'
  by_cases hr : r' = r
  · subst hr
    by_cases hk : key = key'
    · simp [view, hk]
    · simp [view, hk, hpending, Ne.symm hk]
  · simp [view, hr]

/-- The second section of the reply handler stores its connector where the service
still has a state, and gives back the one to destroy. -/
theorem view_addServerConnector (b : Binding ι) (key : Key) (connector : EnabledConnector ι) :
    ({ b with serviceStates := (b.serviceStates.addServerConnector key connector).1 } :
      Binding ι).view key =
      { b.view key with
        state := (b.view key).state.map fun s => { s with enabledConnector := some connector } } := by
  unfold ServiceStates.addServerConnector
  ext1 <;> try rfl
  cases hstate : b.serviceStates.lookup key <;> simp [view, hstate]

theorem view_addServerConnector_of_ne (connector : EnabledConnector ι) (hne : key' ≠ key) :
    ({ b with serviceStates := (b.serviceStates.addServerConnector key connector).1 } :
      Binding ι).view key' = b.view key' := by
  unfold ServiceStates.addServerConnector
  split
  · rfl
  · exact view_insertState_of_ne _ hne

theorem addServerConnector_snd (b : Binding ι) (key : Key) (connector : EnabledConnector ι) :
    (b.serviceStates.addServerConnector key connector).2 =
      if (b.view key).state.isSome then ((b.view key).state.getD {}).enabledConnector
      else some connector := by
  unfold ServiceStates.addServerConnector
  cases hstate : b.serviceStates.lookup key <;> simp [view, hstate]

/-! ## Connect_service that ends a connection -/

theorem disconnectService_view {requiredId : Nat} :
    (b.disconnectService client key requiredId).1.view key =
      { b.view key with
        state := (b.view key).state.map fun s =>
          { (match b.idMapping.getByRemoteHandle client requiredId with
              | none => s
              | some ids => (s.removeEventSubscription key ⟨client, ids.localHandle⟩).1) with
            clientConnectorPending := false
            clientConnector := none }
        ids := fun c =>
          if c = client then
            ((b.view key).ids client).filter fun ids => ids.remoteHandle ≠ requiredId
          else (b.view key).ids c
        pending := fun r => ((b.view key).pending r).filter fun c => c ≠ client } := by
  unfold disconnectService
  ext1
  · cases b.idMapping.getByRemoteHandle client requiredId with
    | none =>
        cases hstate : b.serviceStates.lookup key <;>
          simp [view, clearPendingConnectsForKeyLocked, clearPendingConnects,
            ServiceStates.removeClientConnector, hstate]
    | some ids =>
        cases hstate : b.serviceStates.lookup key <;>
          simp [view, clearPendingConnectsForKeyLocked, clearPendingConnects,
            ServiceStates.removeClientConnector,
            ServiceStates.removeEventSubscriptionsForConnection, hstate]
  · funext c
    by_cases hc : c = client
    · subst hc
      simp [view, clearPendingConnectsForKeyLocked, clearPendingConnects, List.filter_filter,
        Bool.and_comm]
    · simp [view, clearPendingConnectsForKeyLocked, clearPendingConnects, hc]
  · rfl
  · rfl
  · have hpending := congrArg ServiceView.pending
      (view_clearPendingConnectsForKeyLocked b key client)
    exact hpending

theorem disconnectService_view_of_ne {requiredId : Nat} (hne : key' ≠ key) :
    (b.disconnectService client key requiredId).1.view key' =
      { b.view key' with
        ids := fun c =>
          if c = client then
            ((b.view key').ids client).filter fun ids => ids.remoteHandle ≠ requiredId
          else (b.view key').ids c } := by
  unfold disconnectService
  ext1
  · cases b.idMapping.getByRemoteHandle client requiredId with
    | none =>
        cases hstate : b.serviceStates.lookup key <;>
          simp [view, clearPendingConnectsForKeyLocked, clearPendingConnects,
            ServiceStates.removeClientConnector, hstate, hne]
    | some ids =>
        cases hstate : b.serviceStates.lookup key <;>
          simp [view, clearPendingConnectsForKeyLocked, clearPendingConnects,
            ServiceStates.removeClientConnector,
            ServiceStates.removeEventSubscriptionsForConnection, hstate, hne]
  · funext c
    by_cases hc : c = client
    · subst hc
      simp [view, clearPendingConnectsForKeyLocked, clearPendingConnects, List.filter_filter,
        Bool.and_comm]
    · simp [view, clearPendingConnectsForKeyLocked, clearPendingConnects, hc]
  · rfl
  · rfl
  · have hpending := congrArg ServiceView.pending
      (view_clearPendingConnectsForKeyLocked_of_ne b client hne)
    exact hpending

/-- The calls for the subscriptions of the peer at the end of a connection. -/
def droppedSubscriptions (b : Binding ι) (client : ι) (key : Key) (requiredId : Nat) :
    List (Effect ι) :=
  match b.idMapping.getByRemoteHandle client requiredId, (b.view key).state with
  | some ids, some s => (s.removeEventSubscription key ⟨client, ids.localHandle⟩).2
  | _, _ => []

theorem exists_of_mem_droppedSubscriptions {requiredId : Nat} {e : Effect ι}
    (he : e ∈ b.droppedSubscriptions client key requiredId) :
    ∃ eventId, e = .unsubscribeEvent key eventId := by
  unfold droppedSubscriptions at he
  split at he
  · exact ServiceState.exists_of_mem_dropSubscribers _ _ he
  · cases he

theorem disconnectService_effects {requiredId : Nat} :
    (b.disconnectService client key requiredId).2 =
      b.droppedSubscriptions client key requiredId ++
      ((b.view key).state.bind fun s => s.clientConnector).toList.map
        (.destroyClientConnector key) := by
  unfold disconnectService droppedSubscriptions
  cases b.idMapping.getByRemoteHandle client requiredId with
  | none =>
      cases hstate : b.serviceStates.lookup key <;>
        simp [view, clearPendingConnectsForKeyLocked, clearPendingConnects,
          ServiceStates.removeClientConnector, hstate]
  | some ids =>
      cases hstate : b.serviceStates.lookup key <;>
        simp [view, clearPendingConnectsForKeyLocked, clearPendingConnects,
          ServiceStates.removeClientConnector,
          ServiceStates.removeEventSubscriptionsForConnection,
          ServiceState.removeEventSubscription, ServiceState.dropSubscribers, hstate]

/-! ## Subscribe_event -/

theorem handleSubscribeEventMessage_none {providedId eventId : Nat} {subscribe : Bool}
    (h : b.idMapping.getByLocalHandle client providedId = none) :
    b.handleSubscribeEventMessage client providedId eventId subscribe = (b, []) := by
  simp [handleSubscribeEventMessage, h]

theorem handleSubscribeEventMessage_frame (b : Binding ι) (client : ι) (providedId eventId : Nat)
    (subscribe : Bool) :
    (b.handleSubscribeEventMessage client providedId eventId subscribe).1 =
      { b with
        serviceStates :=
          (b.handleSubscribeEventMessage client providedId eventId subscribe).1.serviceStates } := by
  unfold handleSubscribeEventMessage
  split <;> rfl

theorem handleSubscribeEventMessage_some {providedId eventId : Nat} {subscribe : Bool} {ids : Ids}
    (h : b.idMapping.getByLocalHandle client providedId = some ids) :
    (b.handleSubscribeEventMessage client providedId eventId subscribe).2 =
      ((b.view ids.key).state.toList.flatMap fun s =>
        (s.updateEventSubscription ids.key ⟨client, providedId⟩ eventId subscribe).2) ∧
    ∀ key, (b.handleSubscribeEventMessage client providedId eventId subscribe).1.view key =
      { b.view key with
        state := (b.view key).state.map fun s =>
          if key = ids.key then
            (s.updateEventSubscription key ⟨client, providedId⟩ eventId subscribe).1
          else s } := by
  simp only [handleSubscribeEventMessage, h, ServiceStates.updateEventSubscription]
  cases hstate : b.serviceStates.lookup ids.key with
  | none =>
      refine ⟨by simp [view, hstate], fun key => ?_⟩
      ext1 <;> try rfl
      by_cases hk : key = ids.key
      · subst hk
        simp [view, hstate]
      · simp [view, hk]
  | some s =>
      refine ⟨by simp [view, hstate], fun key => ?_⟩
      ext1 <;> try rfl
      by_cases hk : key = ids.key
      · subst hk
        simp [view, hstate]
      · simp [view, hk]

/-! ## Events

These sections leave every view as it is. -/

/-- Every connected client with a mapping for the service is told of the slot. -/
theorem mem_eventUpdates {eventId : Nat} {payload : Payload ι} {clients : List (ι × Ids)}
    {e : Effect ι} (he : e ∈ (b.eventUpdates env key eventId payload clients).1) :
    (∃ client ids, (client, ids) ∈ clients ∧ client ∈ b.connections ∧
      e = env.send client (some key)
        (.eventUpdate ids.remoteHandle eventId ⟨payload.slotHandle, payload.size⟩)) ∨
    e = .assertFailed .connectionMissing := by
  induction clients with
  | nil => cases he
  | cons head rest ih =>
      obtain ⟨client, ids⟩ := head
      have hrest : e ∈ (b.eventUpdates env key eventId payload rest).1 →
          (∃ c i, (c, i) ∈ (client, ids) :: rest ∧ c ∈ b.connections ∧
            e = env.send c (some key)
              (.eventUpdate i.remoteHandle eventId ⟨payload.slotHandle, payload.size⟩)) ∨
          e = .assertFailed .connectionMissing := by
        intro he
        obtain ⟨c, i, hmem, hconnected, rfl⟩ | rfl := ih he
        · exact .inl ⟨c, i, List.mem_cons_of_mem _ hmem, hconnected, rfl⟩
        · exact .inr rfl
      simp only [eventUpdates] at he
      split at he
      next hconnected =>
        rcases List.mem_cons.1 he with rfl | he
        · exact .inl ⟨client, ids, List.mem_cons_self, hconnected, rfl⟩
        · exact hrest he
      next =>
        rcases List.mem_cons.1 he with rfl | he
        · exact .inr rfl
        · exact hrest he

theorem send_mem_eventUpdates {eventId : Nat} {payload : Payload ι} {clients : List (ι × Ids)}
    {ids : Ids} (hmem : (client, ids) ∈ clients) (hconnected : client ∈ b.connections) :
    env.send client (some key)
        (.eventUpdate ids.remoteHandle eventId ⟨payload.slotHandle, payload.size⟩) ∈
      (b.eventUpdates env key eventId payload clients).1 := by
  induction clients with
  | nil => cases hmem
  | cons head rest ih =>
      simp only [eventUpdates]
      rcases List.mem_cons.1 hmem with rfl | hmem
      · rw [if_pos hconnected]
        exact List.mem_cons_self
      · split
        · exact List.mem_cons_of_mem _ (ih hmem)
        · exact List.mem_cons_of_mem _ (ih hmem)

theorem sendEventUpdate_eq_some {eventId : Nat} {payload : Payload ι} :
    b.sendEventUpdate env key eventId payload = some (b', effects) ↔
      ∃ allocations more,
        b.allocations.insertAllocation key payload
          (b.eventUpdates env key eventId payload (b.idMapping.forEachClient key)).2 =
            some (allocations, more) ∧
        b' = { b with allocations := allocations } ∧
        effects =
          (b.eventUpdates env key eventId payload (b.idMapping.forEachClient key)).1 ++ more := by
  simp only [sendEventUpdate, Option.bind_eq_bind, Option.bind_eq_some_iff, Prod.exists,
    Option.some.injEq, Prod.mk.injEq]
  constructor
  · rintro ⟨allocations, more, hmore, rfl, rfl⟩
    exact ⟨allocations, more, hmore, rfl, rfl⟩
  · rintro ⟨allocations, more, hmore, rfl, rfl⟩
    exact ⟨allocations, more, hmore, rfl, rfl⟩

theorem sendEventUpdate_frame {eventId : Nat} {payload : Payload ι}
    (h : b.sendEventUpdate env key eventId payload = some (b', effects)) :
    b' = { b with allocations := b'.allocations } := by
  obtain ⟨allocations, more, -, rfl, -⟩ := sendEventUpdate_eq_some.1 h
  rfl

theorem handleEventUpdateMessage_frame {requiredId eventId : Nat} {handle : SharedMemoryHandle}
    (h : b.handleEventUpdateMessage client requiredId eventId handle = some (b', effects)) :
    b' = { b with readOnlyManagers := b'.readOnlyManagers } := by
  unfold handleEventUpdateMessage at h
  split at h
  · cases h
    rfl
  · split at h
    · cases h
    · split at h
      · cases h
        rfl
      · simp only at h
        split at h
        · cases h
        · cases h
          rfl

theorem handleEventUpdateMessage_effects {requiredId eventId : Nat} {handle : SharedMemoryHandle}
    (h : b.handleEventUpdateMessage client requiredId eventId handle = some (b', effects)) :
    b.idMapping.getByRemoteHandle client requiredId = none ∧ effects = [] ∨
    ∃ ids state, b.idMapping.getByRemoteHandle client requiredId = some ids ∧
      (b.view ids.key).state = some state ∧
      (state.enabledConnector = none ∧ effects = [.assertFailed .connectorMissing] ∨
        ∃ connector usedBytes, state.enabledConnector = some connector ∧
          effects = [.updateEvent ids.key connector eventId
            ⟨handle.slotIndex, usedBytes, some ⟨client, requiredId, handle, ids.key⟩⟩]) := by
  unfold handleEventUpdateMessage at h
  split at h
  next hnone =>
    cases h
    exact .inl ⟨hnone, rfl⟩
  next ids hids =>
    split at h
    · cases h
    next state hstate =>
      refine .inr ⟨ids, state, hids, hstate, ?_⟩
      split at h
      next hconn =>
        cases h
        exact .inl ⟨hconn, rfl⟩
      next connector hconn =>
        simp only at h
        split at h
        · cases h
        · cases h
          exact .inr ⟨connector, _, hconn, rfl⟩

theorem exists_of_mem_payloadConsumed {requiredId : Nat} {handle : SharedMemoryHandle}
    {e : Effect ι} (he : e ∈ (b.handlePayloadConsumedMessage client requiredId handle).2) :
    ∃ payload, e = .releasePayload payload := by
  unfold handlePayloadConsumedMessage at he
  split at he
  · cases he
  · simp only [Allocations.payloadConsumed] at he
    split at he
    · cases he
    · split at he
      · cases he
      · split at he
        · cases he
        · split at he
          · cases he
          · obtain ⟨payload, -, rfl⟩ := List.mem_map.1 he
            exact ⟨payload, rfl⟩

theorem handlePayloadConsumedMessage_frame (b : Binding ι) (client : ι) (requiredId : Nat)
    (handle : SharedMemoryHandle) :
    (b.handlePayloadConsumedMessage client requiredId handle).1 =
      { b with
        allocations := (b.handlePayloadConsumedMessage client requiredId handle).1.allocations } := by
  unfold handlePayloadConsumedMessage
  split <;> rfl

/-! ## Clients that go away -/

theorem removeClient_view :
    (b.removeClient client).1.view key =
      { b.view key with
        state := (b.view key).state.map fun s =>
          ((s.removeEventSubscriptions key client).1.removeOffer client).1
        ids := fun c => if c = client then [] else (b.view key).ids c
        interested := (b.view key).interested.erase client
        pending := fun r => ((b.view key).pending r).filter fun c => c ≠ client } := by
  rw [removeClient, removeClientStateLocked, view_clearPendingConnects]
  ext1
  · simp only [view, ServiceStates.removeEventSubscriptionsForClient, ServiceStates.removeOffers,
      Table.lookup_filterMapVals]
    cases b.serviceStates.lookup key <;> rfl
  · funext c
    by_cases hc : c = client
    · subst hc
      simp [view]
    · simp [view, hc]
  · rfl
  · simp only [view, interested, Table.lookup_filterMapVals]
    cases b.interestedPeers.lookup key with
    | none => rfl
    | some peers =>
        simp only [Option.bind_some, Option.getD_some]
        split
        next hnil => rw [List.isEmpty_iff.1 hnil, Option.getD_none]
        next => rfl
  · funext r
    simp [view]

theorem removeClient_effects :
    (b.removeClient client).2 =
      b.unsubscribeEffects client ++
        (b.serviceStates.entries.filterMap fun e =>
          (((e.2.removeEventSubscriptions e.1 client).1.removeOffer client).2).map
            (.destroyServerConnector e.1)) := by
  simp only [removeClient, removeClientStateLocked, ServiceStates.removeOffers,
    ServiceStates.removeEventSubscriptionsForClient, unsubscribeEffects, Table.filterMapVals,
    List.filterMap_filterMap, List.map_filterMap]
  congr 1
  refine List.filterMap_congr fun e _ => ?_
  simp [Table.filterMapEntry, Function.comp_def]

theorem mem_removeClient_effects {e : Effect ι} (he : e ∈ (b.removeClient client).2) :
    e ∈ b.unsubscribeEffects client ∨
    ∃ key state connector, (b.view key).state = some state ∧
      state.enabledConnector = some connector ∧ e = .destroyServerConnector key connector := by
  rw [removeClient_effects] at he
  rcases List.mem_append.1 he with he | he
  · exact .inl he
  · obtain ⟨⟨key, state⟩, hmem, he⟩ := List.mem_filterMap.1 he
    obtain ⟨connector, hconn, rfl⟩ := Option.map_eq_some_iff.1 he
    refine .inr ⟨key, state, connector, Table.lookup_eq_some_of_mem hmem, ?_, rfl⟩
    have howner := ServiceState.enabledConnector_of_removeOffer hconn
    exact howner

end Binding

end SomeipGateway
