import SomeipGateway.Binding.Recedes

/-! # Required ids and what was asked with them

A `Connect_service` asks one peer for one service under a required id. The ids
that the pending connects and the offers hold are ids that were asked with, no id
asks for two things, and every connect that is pending was asked for once more
than it was answered.
-/

namespace SomeipGateway

/-- One `Connect_service` that an endpoint attempts to send. -/
structure Ask (ι : Type) where
  key : Key
  client : ι
  requiredId : Nat
deriving DecidableEq

variable {ι : Type}

/-- The connect that a call attempts, whether or not the link takes it. -/
def Effect.ask : Effect ι → Option (Ask ι)
  | .send client _ (.connectService key requiredId _ true) _ => some ⟨key, client, requiredId⟩
  | _ => none

def asks (effects : List (Effect ι)) : List (Ask ι) :=
  effects.filterMap Effect.ask

@[simp] theorem asks_nil : asks ([] : List (Effect ι)) = [] := rfl

@[simp] theorem asks_append (effects effects' : List (Effect ι)) :
    asks (effects ++ effects') = asks effects ++ asks effects' :=
  List.filterMap_append

theorem asks_eq_nil {effects : List (Effect ι)} (h : ∀ e ∈ effects, e.ask = none) :
    asks effects = [] :=
  List.filterMap_eq_nil_iff.2 h

namespace Binding

variable [DecidableEq ι]

/-- What was asked accounts for every id that the tables of the binding hold. -/
structure Ledger (asked : List (Ask ι)) (b : Binding ι) : Prop where
  pending : ∀ key r x, (b.view key).pending r = some x → ⟨key, x, r⟩ ∈ asked
  offers : ∀ key x offer, ((b.view key).state.getD {}).offers.lookup x = some offer →
    offer.requiredId ≠ 0 → ⟨key, x, offer.requiredId⟩ ∈ asked
  lt : ∀ ask ∈ asked, ask.requiredId < b.nextLocalId
  unique : ∀ ask ∈ asked, ∀ ask' ∈ asked, ask.requiredId = ask'.requiredId → ask = ask'

def pendingCount (b : Binding ι) : Nat :=
  b.pendingConnects.entries.length

/-- A section that takes the state from `b` to `b'` and asks for `asked`. -/
structure Asking (b : Binding ι) (asked : List (Ask ι)) (b' : Binding ι) : Prop where
  ledger : ∀ before, b.Ledger before → b'.Ledger (before ++ asked)
  count : b'.pendingCount ≤ b.pendingCount + asked.length

variable {env : Env ι} {b b' b'' : Binding ι} {key : Key} {client : ι}
  {effects : List (Effect ι)} {asked asked' : List (Ask ι)}

theorem Asking.refl (b : Binding ι) : Asking b [] b where
  ledger := by
    intro before h
    rwa [List.append_nil]
  count := Nat.le_refl _

theorem Asking.trans (h : Asking b asked b') (h' : Asking b' asked' b'') :
    Asking b (asked ++ asked') b'' where
  ledger := by
    intro before hb
    rw [← List.append_assoc]
    exact h'.ledger _ (h.ledger _ hb)
  count := by
    have hcount := h.count
    have hcount' := h'.count
    rw [List.length_append]
    omega

/-! ## Sections that ask for nothing -/

theorem Recedes.pendingCount_le (h : Recedes b b') : b'.pendingCount ≤ b.pendingCount := by
  have hkeys : b'.pendingConnects.keys ⊆ b.pendingConnects.keys := by
    intro r hr
    obtain ⟨⟨key, x⟩, hlookup⟩ := Table.mem_keys_iff_lookup.1 hr
    have hpending := h.pending key r x (view_pending_eq_some.2 hlookup)
    exact Table.mem_keys_iff_lookup.2 ⟨_, view_pending_eq_some.1 hpending⟩
  have hle := (List.Nodup.subperm b'.pendingConnects.keys_nodup hkeys).length_le
  simpa [pendingCount, AList.keys, List.keys] using hle

theorem Recedes.asking (h : Recedes b b') : Asking b [] b' where
  ledger := by
    intro before hb
    rw [List.append_nil]
    constructor
    case pending => exact fun key r x hr => hb.pending key r x (h.pending key r x hr)
    case offers =>
      intro key x offer' hoffer' hne
      obtain hzero | ⟨offer, hoffer, hid, -⟩ := h.offers key x offer' hoffer'
      · exact absurd hzero hne
      · rw [← hid] at hne ⊢
        exact hb.offers key x offer hoffer hne
    case lt =>
      rw [h.next]
      exact hb.lt
    case unique => exact hb.unique
  count := h.pendingCount_le

/-- A handle that goes to a provider is not asked with. -/
theorem asking_addMapping (client : ι) (ids : Ids) :
    Asking b [] ({ b with nextLocalId := b.nextLocalId + 1 }.addMapping client ids).1 where
  ledger := by
    intro before hb
    rw [List.append_nil]
    have hlt : ∀ ask ∈ before, ask.requiredId < b.nextLocalId + 1 :=
      fun ask hask => Nat.lt_succ_of_lt (hb.lt ask hask)
    exact ⟨hb.pending, hb.offers, hlt, hb.unique⟩
  count := Nat.le_refl _

omit [DecidableEq ι] in
/-- A connect that is answered is no longer pending. -/
theorem pendingCount_erase {r : Nat} {p : PendingConnect ι}
    (h : b.pendingConnects.lookup r = some p) :
    ({ b with pendingConnects := b.pendingConnects.erase r } : Binding ι).pendingCount + 1 =
      b.pendingCount := by
  have hmem : r ∈ b.pendingConnects.keys := Table.mem_keys_iff_lookup.2 ⟨p, h⟩
  have hkeys := List.length_erase_add_one hmem
  rw [← AList.keys_erase] at hkeys
  simpa [pendingCount, AList.keys, List.keys] using hkeys

/-! ## Sections that ask -/

omit [DecidableEq ι] in
theorem pendingCount_emplacePending (b : Binding ι) (r : Nat) (p : PendingConnect ι) :
    (b.emplacePending r p).pendingCount ≤ b.pendingCount + 1 := by
  unfold emplacePending
  split
  · exact Nat.le_succ _
  · have hle := (List.kerase_sublist r b.pendingConnects.entries).length_le
    simpa [pendingCount] using hle

/-- One more ask keeps the ids apart if its id is the next of the counter or it
was made before. -/
theorem Ledger.ids_append {before : List (Ask ι)} (hb : b.Ledger before) (ask : Ask ι) (next : Nat)
    (hid : ask.requiredId = b.nextLocalId ∧ next = b.nextLocalId + 1 ∨
      ask ∈ before ∧ next = b.nextLocalId) :
    (∀ a ∈ before ++ [ask], a.requiredId < next) ∧
      ∀ a ∈ before ++ [ask], ∀ a' ∈ before ++ [ask], a.requiredId = a'.requiredId → a = a' := by
  rcases hid with ⟨hnew, rfl⟩ | ⟨hold, rfl⟩
  · have hne : ∀ a ∈ before, a.requiredId ≠ ask.requiredId := by
      intro a ha
      have hlt := hb.lt a ha
      omega
    constructor
    · intro a ha
      rcases List.mem_append.1 ha with ha | ha
      · exact Nat.lt_succ_of_lt (hb.lt a ha)
      · rw [List.mem_singleton.1 ha, hnew]
        exact Nat.lt_succ_self _
    · intro a ha a' ha' heq
      rcases List.mem_append.1 ha with ha | ha
      · rcases List.mem_append.1 ha' with ha' | ha'
        · exact hb.unique a ha a' ha' heq
        · rw [List.mem_singleton.1 ha'] at heq
          exact absurd heq (hne a ha)
      · rw [List.mem_singleton.1 ha] at heq ⊢
        rcases List.mem_append.1 ha' with ha' | ha'
        · exact absurd heq.symm (hne a' ha')
        · exact (List.mem_singleton.1 ha').symm
  · have hmem : ∀ a ∈ before ++ [ask], a ∈ before := by
      intro a ha
      rcases List.mem_append.1 ha with ha | ha
      · exact ha
      · rwa [List.mem_singleton.1 ha]
    exact ⟨fun a ha => hb.lt a (hmem a ha),
      fun a ha a' ha' => hb.unique a (hmem a ha) a' (hmem a' ha')⟩

/-- The id is the next of the counter, or one that the same peer was asked for the
same service with. -/
theorem asking_sendConnectServiceTo
    (h : sendConnectServiceTo env key b client = some (b', effects)) :
    Asking b (asks effects) b' := by
  have hother := (connects_of_sendConnectServiceTo h).other
  obtain ⟨rfl, rfl⟩ | ⟨state, offer, metadata, requiredId, next, hstate, hoffer, -, -, -, -, hid,
    hb', rfl⟩ := sendConnectServiceTo_cases h
  · exact .refl b'
  · have hasks : asks [env.send client (some key)
        (.connectService key requiredId metadata true)] = [⟨key, client, requiredId⟩] := rfl
    rw [hasks]
    have hnext : b'.nextLocalId = next := by
      rw [hb', emplacePending_frame]
    have hview : (b.view key).state = some state := hstate
    have hview' : (b'.view key).state = some { state with
        offers := state.offers.insert client { offer with
          requiredId := requiredId
          connectSent := env.link client (.connectService key requiredId metadata true) } } := by
      rw [hb', emplacePending_frame]
      simp [Binding.view]
    refine ⟨fun before hb => ?_, ?_⟩
    · have hids := hb.ids_append ⟨key, client, requiredId⟩ next <| by
        rcases hid with ⟨-, hr, hn⟩ | ⟨hne, hr, hn⟩
        · exact .inl ⟨hr, hn⟩
        · refine .inr ⟨?_, hn⟩
          rw [hr]
          exact hb.offers key client offer (by rwa [hview, Option.getD_some]) hne
      constructor
      case pending =>
        intro key' r x hr
        rw [view_pending_eq_some, hb'] at hr
        rcases lookup_emplacePending hr with hold | ⟨rfl, heq⟩
        · exact List.mem_append_left _ (hb.pending key' r x (view_pending_eq_some.2 hold))
        · cases heq
          simp
      case offers =>
        intro key' x offer' hoffer' hne
        by_cases hk : key' = key
        · subst hk
          rw [hview', Option.getD_some, Table.lookup_insert_ite] at hoffer'
          split at hoffer'
          next hx =>
            cases hoffer'
            simp [hx]
          next =>
            refine List.mem_append_left _ (hb.offers key' x offer' ?_ hne)
            rwa [hview, Option.getD_some]
        · rw [hother key' hk] at hoffer'
          exact List.mem_append_left _ (hb.offers key' x offer' hoffer' hne)
      case lt =>
        rw [hnext]
        exact hids.1
      case unique => exact hids.2
    · rw [hb']
      exact pendingCount_emplacePending _ _ _

/-- A loop of sections asks for what its rounds ask for. -/
theorem asking_foldEffects {α : Type} {f : Binding ι → α → Option (Binding ι × List (Effect ι))}
    {items : List α} (hstep : ∀ a ∈ items, ∀ s s' es, f s a = some (s', es) →
      Asking s (asks es) s') (h : foldEffects f b items = some (b', effects)) :
    Asking b (asks effects) b' := by
  apply foldEffects_rel (R := fun s es t => Asking s (asks es) t) Asking.refl _ hstep h
  intro s t u es fs hfirst hrest
  rw [asks_append]
  exact hfirst.trans hrest

theorem asking_maybeSendConnectServiceLocked
    (h : b.maybeSendConnectServiceLocked env key = some (b', effects)) :
    Asking b (asks effects) b' := by
  unfold maybeSendConnectServiceLocked at h
  split at h
  · cases h
    exact .refl b
  · split at h
    · exact asking_foldEffects (fun _ _ _ _ _ hround => asking_sendConnectServiceTo hround) h
    · cases h
      exact .refl b

theorem asking_resumeService (h : resumeService env b key = some (b', effects)) :
    Asking b (asks effects) b' := by
  simp only [resumeService, Option.bind_eq_bind, Option.bind_eq_some_iff, Prod.exists,
    Option.some.injEq, Prod.mk.injEq] at h
  obtain ⟨_, more, hmore, rfl, rfl⟩ := h
  have hrequests : asks (if (b.serviceStates.lookup key).any fun state => state.requested then
      (b.sendRequestServiceLocked env key true).2 else []) = [] := by
    apply asks_eq_nil
    intro e he
    split at he
    · simp only [sendRequestServiceLocked] at he
      split at he
      · cases he
      · obtain ⟨x, -, rfl⟩ := List.mem_map.1 he
        rfl
    · cases he
  rw [asks_append, hrequests]
  exact asking_maybeSendConnectServiceLocked hmore

theorem asking_handleConnectReplyMessage {status : Bool}
    (h : b.handleConnectReplyMessage env status = some (b', effects)) :
    Asking b (asks effects) b' := by
  unfold handleConnectReplyMessage at h
  split at h
  · exact asking_foldEffects (fun _ _ _ _ _ hround => asking_resumeService hround) h
  · cases h
    exact .refl b

/-! ## The effects of sections that ask for nothing -/

/-- The section drops what it drops and asks for nothing. -/
structure Quiet (b : Binding ι) (effects : List (Effect ι)) (b' : Binding ι) : Prop where
  recedes : Recedes b b'
  asks : asks effects = []

theorem Quiet.asking (h : Quiet b effects b') : Asking b (SomeipGateway.asks effects) b' := by
  rw [h.asks]
  exact h.recedes.asking

theorem Quiet.of_mem (h : Recedes b b') (heffects : ∀ e ∈ effects, e.ask = none) :
    Quiet b effects b' :=
  ⟨h, asks_eq_nil heffects⟩

theorem Quiet.nil (h : Recedes b b') : Quiet b [] b' :=
  ⟨h, rfl⟩

theorem quiet_serviceStateChange {isAvailable : Bool} {counts : ServiceCounts}
    (h : b.serviceStateChange env key isAvailable counts = some (b', effects)) :
    Quiet b effects b' := by
  refine .of_mem (recedes_serviceStateChange h) fun e he => ?_
  obtain ⟨-, -, rfl⟩ := serviceStateChange_eq_some.1 h
  obtain ⟨x, -, rfl⟩ := List.mem_map.1 he
  rfl

omit [DecidableEq ι] in
theorem ask_of_mem_sendToAll {inUse : Bool} {e : Effect ι}
    (he : e ∈ b.sendToAll env (some key) (.requestService key inUse)) : e.ask = none := by
  obtain ⟨x, -, rfl⟩ := List.mem_map.1 he
  rfl

theorem quiet_sendRequestService_false {counts : ServiceCounts}
    (h : b.sendRequestService env key counts false = some (b', effects)) :
    Quiet b effects b' := by
  cases hclient : b.serviceStates.hasClientConnector key with
  | true =>
      rw [sendRequestService_skipped hclient] at h
      cases h
      exact .nil (.refl b)
  | false =>
      rw [sendRequestService_false hclient] at h
      cases h
      refine .of_mem (recedes_unrequested b key) fun e he => ?_
      simp only [List.cons_append, List.mem_cons, List.mem_append, List.mem_map] at he
      rcases he with rfl | he | ⟨connector, -, rfl⟩
      · rfl
      · exact ask_of_mem_sendToAll he
      · rfl

theorem asking_sendRequestService_true {counts : ServiceCounts}
    (h : b.sendRequestService env key counts true = some (b', effects)) :
    Asking b (asks effects) b' := by
  cases hclient : b.serviceStates.hasClientConnector key with
  | true =>
      rw [sendRequestService_skipped hclient] at h
      cases h
      exact .refl b
  | false =>
      obtain ⟨more, hmore, rfl⟩ := (sendRequestService_true hclient).1 h
      have hrequests : asks (.requestSent key true ::
          b.sendToAll env (some key) (.requestService key true)) = [] := by
        apply asks_eq_nil
        intro e he
        rcases List.mem_cons.1 he with rfl | he
        · rfl
        · exact ask_of_mem_sendToAll he
      rw [asks_append, hrequests]
      exact (recedes_requested b key counts).asking.trans
        (asking_maybeSendConnectServiceLocked hmore)

theorem quiet_handleRequestServiceMessage {inUse : Bool} {result : ClientConnectorResult}
    (h : b.handleRequestServiceMessage env client key inUse result = some (b', effects)) :
    Quiet b effects b' := by
  cases inUse with
  | false =>
      refine .of_mem (recedes_handleRequestServiceMessage_false h) fun e he => ?_
      rw [(handleRequestServiceMessage_false h).1] at he
      obtain ⟨key', state, eventId, s, -, -, -, rfl⟩ := exists_of_mem_unsubscribeEffects he
      rfl
  | true =>
      have hnoted := recedes_withInterested b key client
      obtain ⟨-, rfl, rfl⟩ | ⟨-, -, rfl, rfl⟩ | ⟨-, -, hcreate⟩ :=
        handleRequestServiceMessage_true h
      · exact ⟨hnoted, rfl⟩
      · exact .nil hnoted
      · refine .of_mem (hnoted.trans (recedes_createClientConnector hcreate)) fun e he => ?_
        cases result with
        | failed =>
            rw [(createClientConnector_failed hcreate).1] at he
            cases he
        | connected counts =>
            rw [(createClientConnector_connected hcreate).2.1] at he
            obtain ⟨x, -, rfl⟩ := List.mem_map.1 he
            rfl
        | waiting =>
            rw [(createClientConnector_waiting hcreate).1] at he
            cases he

theorem asking_handleOfferServiceMessage {offered : Bool}
    (h : b.handleOfferServiceMessage env client key offered = some (b', effects)) :
    Asking b (asks effects) b' := by
  cases offered with
  | false =>
      refine (Quiet.of_mem (recedes_handleOfferServiceMessage_false h) fun e he => ?_).asking
      rw [(handleOfferServiceMessage_false h).1] at he
      obtain ⟨connector, -, rfl⟩ := List.mem_map.1 he
      rfl
  | true =>
      rw [handleOfferServiceMessage_true] at h
      exact (recedes_withOffer b key client).asking.trans (asking_maybeSendConnectServiceLocked h)

theorem ask_of_mem_addMapping {b : Binding ι} {ids : Ids} {e : Effect ι}
    (he : e ∈ (b.addMapping client ids).2) : e.ask = none := by
  rw [eq_of_mem_addMapping he]
  rfl

theorem quiet_disconnectService (b : Binding ι) (client : ι) (key : Key) (requiredId : Nat) :
    Quiet b (b.disconnectService client key requiredId).2
      (b.disconnectService client key requiredId).1 := by
  refine .of_mem (recedes_disconnectService b client key requiredId) fun e he => ?_
  rw [disconnectService_effects] at he
  rcases List.mem_append.1 he with he | he
  · obtain ⟨eventId, rfl⟩ := exists_of_mem_droppedSubscriptions he
    rfl
  · obtain ⟨connector, -, rfl⟩ := List.mem_map.1 he
    rfl

theorem asking_handleConnectServiceMessage {requiredId : Nat} {metadata : SharedMemoryMetadata}
    {inUse : Bool}
    (h : b.handleConnectServiceMessage env client key requiredId metadata inUse =
      some (b', effects)) : Asking b (asks effects) b' := by
  cases inUse with
  | false =>
      cases h
      exact (quiet_disconnectService b client key requiredId).asking
  | true =>
      obtain ⟨localMetadata, state, -, -, rfl, rfl⟩ := handleConnectServiceMessage_true h
      rw [asks_append, asks_eq_nil fun e he => ask_of_mem_addMapping he]
      exact asking_addMapping client _

theorem quiet_handleSubscribeEventMessage (b : Binding ι) (client : ι) (providedId eventId : Nat)
    (subscribe : Bool) :
    Quiet b (b.handleSubscribeEventMessage client providedId eventId subscribe).2
      (b.handleSubscribeEventMessage client providedId eventId subscribe).1 := by
  refine .of_mem (recedes_handleSubscribeEventMessage b client providedId eventId subscribe)
    fun e he => ?_
  cases hids : b.idMapping.getByLocalHandle client providedId with
  | none =>
      rw [handleSubscribeEventMessage_none hids] at he
      cases he
  | some ids =>
      rw [(handleSubscribeEventMessage_some hids).1] at he
      obtain ⟨s, -, he⟩ := List.mem_flatMap.1 he
      rcases ServiceState.exists_of_mem_updateEventSubscription _ _ _ he with ⟨-, rfl⟩ | ⟨-, rfl⟩
      · rfl
      · rfl

/-- Sections on the slots and the read-only managers touch none of the tables. -/
theorem recedes_of_slots {allocations : Allocations ι} {managers : ReadOnlyMemoryManagers} :
    Recedes b { b with allocations := allocations, readOnlyManagers := managers } :=
  .of_eq rfl rfl fun _ => rfl

theorem quiet_sendEventUpdate {eventId : Nat} {payload : Payload ι}
    (h : b.sendEventUpdate env key eventId payload = some (b', effects)) :
    Quiet b effects b' := by
  obtain ⟨allocations, more, hinsert, rfl, rfl⟩ := sendEventUpdate_eq_some.1 h
  refine .of_mem recedes_of_slots fun e he => ?_
  rcases List.mem_append.1 he with he | he
  · obtain ⟨x, ids, -, -, rfl⟩ | rfl := mem_eventUpdates he
    · rfl
    · rfl
  · rw [Allocations.eq_of_mem_insertAllocation hinsert he]
    rfl

theorem quiet_handleEventUpdateMessage {requiredId eventId : Nat} {handle : SharedMemoryHandle}
    (h : b.handleEventUpdateMessage client requiredId eventId handle = some (b', effects)) :
    Quiet b effects b' := by
  have hframe := handleEventUpdateMessage_frame h
  have hrecedes : Recedes b b' := by
    rw [hframe]
    exact recedes_of_slots
  obtain ⟨-, rfl⟩ | ⟨ids, state, -, -, ⟨-, rfl⟩ | ⟨connector, usedBytes, -, rfl⟩⟩ :=
    handleEventUpdateMessage_effects h
  · exact .nil hrecedes
  · exact ⟨hrecedes, rfl⟩
  · exact ⟨hrecedes, rfl⟩

theorem quiet_handlePayloadConsumedMessage (b : Binding ι) (client : ι) (requiredId : Nat)
    (handle : SharedMemoryHandle) :
    Quiet b (b.handlePayloadConsumedMessage client requiredId handle).2
      (b.handlePayloadConsumedMessage client requiredId handle).1 := by
  refine .of_mem ?_ fun e he => ?_
  · rw [handlePayloadConsumedMessage_frame]
    exact recedes_of_slots
  · obtain ⟨payload, rfl⟩ := exists_of_mem_payloadConsumed he
    rfl

theorem quiet_removeClient (b : Binding ι) (client : ι) :
    Quiet b (b.removeClient client).2 (b.removeClient client).1 := by
  refine .of_mem (recedes_removeClient b client) fun e he => ?_
  rcases mem_removeClient_effects he with he | ⟨key, state, connector, -, -, rfl⟩
  · obtain ⟨key', state, eventId, s, -, -, -, rfl⟩ := exists_of_mem_unsubscribeEffects he
    rfl
  · rfl

theorem quiet_addClient (b : Binding ι) (client : ι) :
    Quiet b (b.addClient client).2 (b.addClient client).1 := by
  refine .of_mem (.of_eq rfl rfl fun _ => rfl) fun e he => ?_
  rw [eq_of_mem_addClient he]
  rfl

end Binding

end SomeipGateway
