import SomeipGateway.Binding.View

/-! # Sections that ask for nothing

Most critical sections only drop pending connects and offers. They leave the id
counter alone, and an offer that is still there keeps its required id and whether
it was answered.
-/

namespace SomeipGateway

variable {ι : Type} [DecidableEq ι]

/-- Every offer of `v'` that has a required id is one of `v`. -/
def OffersKept (v v' : ServiceView ι) : Prop :=
  ∀ x offer', (v'.state.getD {}).offers.lookup x = some offer' →
    offer'.requiredId = 0 ∨ ∃ offer, (v.state.getD {}).offers.lookup x = some offer ∧
      offer.requiredId = offer'.requiredId ∧ offer.connectSent = offer'.connectSent

theorem OffersKept.of_eq {v v' : ServiceView ι}
    (h : (v'.state.getD {}).offers = (v.state.getD {}).offers) : OffersKept v v' := by
  intro x offer' hoffer
  rw [h] at hoffer
  exact .inr ⟨offer', hoffer, rfl, rfl⟩

namespace Binding

/-- No pending connect and no required id is new in `b'`. -/
structure Recedes (b b' : Binding ι) : Prop where
  next : b'.nextLocalId = b.nextLocalId
  pending : ∀ key r x, (b'.view key).pending r = some x → (b.view key).pending r = some x
  offers : ∀ key, OffersKept (b.view key) (b'.view key)

variable {env : Env ι} {b b' b'' : Binding ι} {key : Key} {client : ι}
  {effects : List (Effect ι)}

theorem Recedes.refl (b : Binding ι) : Recedes b b :=
  ⟨rfl, fun _ _ _ h => h, fun _ => .of_eq rfl⟩

theorem Recedes.trans (h : Recedes b b') (h' : Recedes b' b'') : Recedes b b'' where
  next := h'.next.trans h.next
  pending := fun key r x hr => h.pending key r x (h'.pending key r x hr)
  offers := by
    intro key x offer'' hoffer''
    obtain hzero | ⟨offer', hoffer', hid', hsent'⟩ := h'.offers key x offer'' hoffer''
    · exact .inl hzero
    obtain hzero | ⟨offer, hoffer, hid, hsent⟩ := h.offers key x offer' hoffer'
    · exact .inl (hid' ▸ hzero)
    · exact .inr ⟨offer, hoffer, hid.trans hid', hsent.trans hsent'⟩

/-- One service changes as described and the others not at all. -/
theorem Recedes.of_view (key : Key) (hnext : b'.nextLocalId = b.nextLocalId)
    (hpending : ∀ r x, (b'.view key).pending r = some x → (b.view key).pending r = some x)
    (hoffers : OffersKept (b.view key) (b'.view key))
    (hother : ∀ key' ≠ key, b'.view key' = b.view key') : Recedes b b' where
  next := hnext
  pending := by
    intro key' r x hr
    by_cases hk : key' = key
    · subst hk
      exact hpending r x hr
    · rwa [hother key' hk] at hr
  offers := by
    intro key'
    by_cases hk : key' = key
    · subst hk
      exact hoffers
    · exact .of_eq (by rw [hother key' hk])

/-- Whatever else changes, the pending connects and the offers do not. -/
theorem Recedes.of_eq (hnext : b'.nextLocalId = b.nextLocalId)
    (hpending : b'.pendingConnects = b.pendingConnects)
    (hoffers : ∀ key, ((b'.view key).state.getD {}).offers =
      ((b.view key).state.getD {}).offers) : Recedes b b' where
  next := hnext
  pending := by
    intro key r x hr
    rw [view_pending_eq_some, hpending] at hr
    exact view_pending_eq_some.2 hr
  offers := fun key => .of_eq (hoffers key)

/-! ## The sections -/

theorem recedes_serviceStateChange {isAvailable : Bool} {counts : ServiceCounts}
    (h : b.serviceStateChange env key isAvailable counts = some (b', effects)) :
    Recedes b b' := by
  have hview := view_serviceStateChange h
  have hother : ∀ key' ≠ key, b'.view key' = b.view key' :=
    fun key' hne => view_serviceStateChange_of_ne hne h
  obtain ⟨-, hb', -⟩ := serviceStateChange_eq_some.1 h
  refine .of_view key ?_ ?_ (.of_eq ?_) hother
  · rw [hb']
  · intro r x hr
    rwa [hview] at hr
  · rw [hview]
    rfl

theorem recedes_unrequested (b : Binding ι) (key : Key) : Recedes b (b.unrequested key) := by
  have hview : (b.unrequested key).view key = _ := view_unrequested
  refine .of_view key rfl ?_ ?_ (fun key' hne => view_unrequested_of_ne hne)
  · intro r x hr
    rw [hview] at hr
    cases hr
  · intro x offer hoffer
    rw [hview] at hoffer
    cases hoffer

/-- An un-request of a peer drops its pending connects. -/
theorem recedes_handleRequestServiceMessage_false {result : ClientConnectorResult}
    (h : b.handleRequestServiceMessage env client key false result = some (b', effects)) :
    Recedes b b' := by
  obtain ⟨-, hnext⟩ := handleRequestServiceMessage_false_frame h
  obtain ⟨-, hview, hother⟩ := handleRequestServiceMessage_false h
  have hoffers : ∀ key' (s : Option (ServiceState ι)),
      ((s.map fun s : ServiceState ι => (s.removeEventSubscriptions key' client).1).getD {}).offers =
        (s.getD {}).offers := by
    intro key' s
    cases s <;> rfl
  constructor
  case next => exact hnext
  case pending =>
    intro key' r x hr
    by_cases hk : key' = key
    · subst hk
      rw [hview] at hr
      exact (Option.filter_eq_some_iff.1 hr).1
    · rwa [hother key' hk] at hr
  case offers =>
    intro key'
    apply OffersKept.of_eq
    by_cases hk : key' = key
    · subst hk
      rw [hview]
      exact hoffers key' _
    · rw [hother key' hk]
      exact hoffers key' _

theorem recedes_withInterested (b : Binding ι) (key : Key) (client : ι) :
    Recedes b (b.withInterested key client) := by
  refine .of_view key rfl ?_ (.of_eq ?_) (fun key' hne => view_withInterested_of_ne hne)
  · intro r x hr
    rwa [view_withInterested] at hr
  · rw [view_withInterested]

theorem recedes_createClientConnector {result : ClientConnectorResult}
    (h : b.createClientConnector env key result = some (b', effects)) : Recedes b b' := by
  have hrecedes : b'.nextLocalId = b.nextLocalId →
      (∃ (f : ServiceState ι → ServiceState ι) (localOffer : Bool), b'.view key =
        { b.view key with
          state := some (f ((b.view key).state.getD {}))
          localOffer := localOffer } ∧ ∀ s, (f s).offers = s.offers) →
      (∀ key' ≠ key, b'.view key' = b.view key') → Recedes b b' := by
    intro hnext hf hother
    obtain ⟨f, localOffer, hview, hf⟩ := hf
    refine .of_view key hnext ?_ (.of_eq ?_) hother
    · intro r x hr
      rwa [hview] at hr
    · rw [hview]
      exact hf _
  cases result with
  | failed =>
      obtain ⟨-, -, hnext, hview, hother⟩ := createClientConnector_failed h
      exact hrecedes hnext ⟨fun s => { s with clientConnectorPending := false }, _, hview,
        fun _ => rfl⟩ hother
  | connected counts =>
      obtain ⟨-, -, -, hnext, hview, hother⟩ := createClientConnector_connected h
      exact hrecedes hnext ⟨fun s => { s with
        counts := counts
        requested := true
        clientConnector := some ⟨false⟩
        clientConnectorPending := false }, _, hview, fun _ => rfl⟩ hother
  | waiting =>
      obtain ⟨-, -, hnext, hview, hother⟩ := createClientConnector_waiting h
      exact hrecedes hnext ⟨fun s => { s with
        clientConnector := some ⟨true⟩
        clientConnectorPending := false }, _, hview, fun _ => rfl⟩ hother

theorem recedes_handleOfferServiceMessage_false
    (h : b.handleOfferServiceMessage env client key false = some (b', effects)) :
    Recedes b b' := by
  obtain ⟨-, -, hnext, hview, hother⟩ := handleOfferServiceMessage_false h
  refine .of_view key hnext ?_ ?_ hother
  · intro r x hr
    rw [hview] at hr
    exact (Option.filter_eq_some_iff.1 hr).1
  · intro x offer hoffer
    rw [hview] at hoffer
    simp only [Option.getD_some, Table.lookup_erase_ite] at hoffer
    split at hoffer
    · cases hoffer
    · exact .inr ⟨offer, hoffer, rfl, rfl⟩

/-- An offer that was there keeps its required id; a new one has none. -/
theorem recedes_withOffer (b : Binding ι) (key : Key) (client : ι) :
    Recedes b (b.withOffer key client) := by
  refine .of_view key rfl ?_ ?_ (fun key' hne => view_withOffer_of_ne hne)
  · intro r x hr
    rwa [view_withOffer] at hr
  · intro x offer hoffer
    rw [view_withOffer] at hoffer
    simp only [Option.getD_some, Table.lookup_insert_ite] at hoffer
    split at hoffer
    next hx =>
      subst hx
      cases hoffer
      cases hold : ((b.view key).state.getD {}).offers.lookup x with
      | none => exact .inl rfl
      | some old => exact .inr ⟨old, rfl, rfl, rfl⟩
    next => exact .inr ⟨offer, hoffer, rfl, rfl⟩

theorem recedes_requested (b : Binding ι) (key : Key) (counts : ServiceCounts) :
    Recedes b { b with
      serviceStates := b.serviceStates.insert key
        { b.serviceStates.getOrCreate key with counts := counts, requested := true } } := by
  refine .of_eq rfl rfl fun key' => ?_
  by_cases hk : key' = key
  · subst hk
    simp [ServiceStates.getOrCreate, view]
  · rw [view_insertState_of_ne _ hk]

theorem recedes_disconnectService (b : Binding ι) (client : ι) (key : Key) (requiredId : Nat) :
    Recedes b (b.disconnectService client key requiredId).1 := by
  constructor
  case next => rfl
  case pending =>
    intro key' r x hr
    by_cases hk : key' = key
    · subst hk
      rw [disconnectService_view] at hr
      exact (Option.filter_eq_some_iff.1 hr).1
    · rwa [disconnectService_view_of_ne hk] at hr
  case offers =>
    intro key'
    apply OffersKept.of_eq
    by_cases hk : key' = key
    · subst hk
      rw [disconnectService_view]
      cases (b.view key').state with
      | none => rfl
      | some s => cases b.idMapping.getByRemoteHandle client requiredId <;> rfl
    · rw [disconnectService_view_of_ne hk]

theorem recedes_erasePending {r : Nat}
    (hpending : b.pendingConnects.lookup r = some ⟨key, client⟩) :
    Recedes b { b with pendingConnects := b.pendingConnects.erase r } := by
  refine ⟨rfl, ?_, fun key' => .of_eq rfl⟩
  intro key' r' x hr
  rw [view_erasePending hpending] at hr
  simp only at hr
  split at hr
  · cases hr
  · exact hr

theorem recedes_handleSubscribeEventMessage (b : Binding ι) (client : ι)
    (providedId eventId : Nat) (subscribe : Bool) :
    Recedes b (b.handleSubscribeEventMessage client providedId eventId subscribe).1 := by
  have hframe := b.handleSubscribeEventMessage_frame client providedId eventId subscribe
  refine .of_eq (by rw [hframe]) (by rw [hframe]) fun key => ?_
  cases hids : b.idMapping.getByLocalHandle client providedId with
  | none => rw [handleSubscribeEventMessage_none hids]
  | some ids =>
      rw [(handleSubscribeEventMessage_some hids).2 key]
      cases (b.view key).state with
      | none => rfl
      | some s =>
          simp only [Option.map_some, Option.getD_some]
          split
          · rw [s.updateEventSubscription_frame]
          · rfl

theorem recedes_addServerConnector (b : Binding ι) (key : Key) (connector : EnabledConnector ι) :
    Recedes b { b with serviceStates := (b.serviceStates.addServerConnector key connector).1 } := by
  refine .of_eq rfl rfl fun key' => ?_
  by_cases hk : key' = key
  · subst hk
    rw [view_addServerConnector]
    cases (b.view key').state <;> rfl
  · rw [view_addServerConnector_of_ne _ hk]

theorem recedes_removeClient (b : Binding ι) (client : ι) :
    Recedes b (b.removeClient client).1 := by
  constructor
  case next => rfl
  case pending =>
    intro key r x hr
    rw [removeClient_view] at hr
    exact (Option.filter_eq_some_iff.1 hr).1
  case offers =>
    intro key x offer hoffer
    rw [removeClient_view] at hoffer
    cases hstate : (b.view key).state with
    | none =>
        rw [hstate] at hoffer
        cases hoffer
    | some s =>
        rw [hstate] at hoffer
        simp only [Option.map_some, Option.getD_some, ServiceState.lookup_removeOffer] at hoffer
        split at hoffer
        · cases hoffer
        · exact .inr ⟨offer, hoffer, rfl, rfl⟩

end Binding

end SomeipGateway
