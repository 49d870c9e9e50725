import SomeipGateway.Binding.Recedes
import SomeipGateway.Network.History

/-! # Every stored handle was received or handed out

`Knows R S` is kept by every step of an endpoint: the critical sections that only
remove mappings and pending connects keep it trivially (`Loses`), a connect and a
reply take a handle off the counter, and a reply received adds the mapping of the
connect that it answers.
-/

namespace SomeipGateway

variable {ι : Type} [DecidableEq ι]

/-! ## What the tables of a binding hold -/

/-- An offer that was not answered has no required id yet. -/
def OffersFresh (v : ServiceView ι) : Prop :=
  ∀ x offer, (v.state.getD {}).offers.lookup x = some offer → offer.connectSent = false →
    offer.requiredId = 0

theorem OffersKept.fresh {v v' : ServiceView ι} (h : OffersKept v v') (hv : OffersFresh v) :
    OffersFresh v' := by
  intro x offer' hoffer' hsent'
  obtain hzero | ⟨offer, hoffer, hid, hsent⟩ := h x offer' hoffer'
  · exact hzero
  · rw [← hid]
    exact hv x offer hoffer (hsent.trans hsent')

structure ViewKnown (R : ι → Set Packet) (S : Set (Effect ι)) (key : Key) (v : ServiceView ι) :
    Prop where
  pending : ∀ r x, v.pending r = some x → ConnectSent S x key r
  ids : ∀ x, ∀ ids ∈ v.ids x, ReplyReceived R x key ids.remoteHandle ids.localHandle ∨
    ConnectReceived R x key ids.remoteHandle ∧ ReplySent S x key ids.remoteHandle ids.localHandle
  offers : OffersFresh v

namespace Binding

structure Knows (R : ι → Set Packet) (S : Set (Effect ι)) (b : Binding ι) : Prop where
  history : History R S b.nextLocalId
  view : ∀ key, ViewKnown R S key (b.view key)
  index : b.idMapping.IndexSound
  stored : b.allocations.Known R

/-- A section that takes the state from `b` to `b'` with the given effects keeps
`Knows`, whatever was done before. -/
def Learns (R : ι → Set Packet) (b : Binding ι) (effects : List (Effect ι)) (b' : Binding ι) :
    Prop :=
  ∀ S, b.Knows R S → b'.Knows R (S ∪ {e | e ∈ effects})

variable {R R' : ι → Set Packet} {S : Set (Effect ι)} {env : Env ι} {b b' : Binding ι}
  {key : Key} {client : ι} {effects : List (Effect ι)}

theorem Knows.monoReceived (h : b.Knows R S) (hR : ∀ x, R x ⊆ R' x) : b.Knows R' S where
  history := h.history.monoReceived hR
  view key :=
    { h.view key with
      ids := fun x ids hids => ((h.view key).ids x ids hids).imp (·.mono hR)
        fun hsent => ⟨hsent.1.mono hR, hsent.2⟩ }
  index := h.index
  stored := fun key allocations hkey a ha payload hpayload =>
    (h.stored key allocations hkey a ha payload hpayload).mono hR

/-- Only the messages that are on their way count. -/
theorem Knows.congr {S' : Set (Effect ι)} (h : b.Knows R S) (hsub : S' ⊆ S)
    (hsends : ∀ x about msg, .send x about msg true ∈ S → .send x about msg true ∈ S') :
    b.Knows R S' := by
  have hconnect : ∀ {x key r}, ConnectSent S x key r → ConnectSent S' x key r :=
    fun hr => hr.imp fun _ hm => hsends _ _ _ hm
  have hreply : ∀ {x key r l}, ReplySent S x key r l → ReplySent S' x key r l :=
    fun hr => hr.imp fun _ hm => hm.imp fun _ hm => hsends _ _ _ hm
  constructor
  case history =>
    exact
      { justified := fun e he => h.history.justified e (hsub he)
        connect_lt := fun x key r hr => h.history.connect_lt x key r (hr.mono hsub)
        connect_unique := fun x x' key key' r hr hr' =>
          h.history.connect_unique x x' key key' r (hr.mono hsub) (hr'.mono hsub)
        reply_lt := fun x key r l hl => h.history.reply_lt x key r l (hl.mono hsub)
        reply_unique := fun x x' key key' r r' l hl hl' =>
          h.history.reply_unique x x' key key' r r' l (hl.mono hsub) (hl'.mono hsub) }
  case view =>
    intro key
    refine ⟨fun r x hr => hconnect ((h.view key).pending r x hr), fun x ids hids => ?_,
      (h.view key).offers⟩
    exact ((h.view key).ids x ids hids).imp_right fun hsent => ⟨hsent.1, hreply hsent.2⟩
  case index => exact h.index
  case stored => exact h.stored

theorem Learns.refl (R : ι → Set Packet) (b : Binding ι) : Learns R b [] b := by
  intro S h
  have hset : S ∪ {e | e ∈ ([] : List (Effect ι))} = S := by simp
  rwa [hset]

theorem Learns.trans {b'' : Binding ι} {effects' : List (Effect ι)}
    (h : Learns R b effects b') (h' : Learns R b' effects' b'') :
    Learns R b (effects ++ effects') b'' := by
  intro S hb
  rw [union_append]
  exact h' _ (h S hb)

/-- The mapping found for a remote handle was made for the service it names. -/
theorem Knows.known_of_mem (h : b.Knows R S) {x : ι} {ids : Ids} (hids : ids ∈ b.idMapping.idsOf x) :
    SomeipGateway.Known R x ids.key ids.remoteHandle := by
  have hmem : ids ∈ (b.view ids.key).ids x := List.mem_filter.2 ⟨hids, by simp⟩
  rcases (h.view ids.key).ids x ids hmem with hreply | ⟨hconnect, -⟩
  · exact .inr ⟨ids.localHandle, hreply⟩
  · exact .inl hconnect

/-! ## Sections that only remove -/

/-- No mapping, pending connect or handle is new in `b'`. -/
structure Loses (b b' : Binding ι) : Prop where
  next : b'.nextLocalId = b.nextLocalId
  pending : ∀ key r x, (b'.view key).pending r = some x → (b.view key).pending r = some x
  ids : ∀ key x, (b'.view key).ids x ⊆ (b.view key).ids x
  offers : ∀ key, OffersFresh (b.view key) → OffersFresh (b'.view key)
  index : b.idMapping.IndexSound → b'.idMapping.IndexSound
  allocations : b'.allocations = b.allocations

theorem Loses.refl (b : Binding ι) : Loses b b :=
  ⟨rfl, fun _ _ _ h => h, fun _ _ _ h => h, fun _ h => h, fun h => h, rfl⟩

theorem Loses.learns (h : Loses b b') (hE : ∀ e ∈ effects, e.Justified R ∧ e.isQuiet = true) :
    Learns R b effects b' := by
  intro S hb
  have hsub : S ⊆ S ∪ {e | e ∈ effects} := Set.subset_union_left
  constructor
  case history =>
    rw [h.next]
    exact hb.history.quiet hE
  case view =>
    intro key
    constructor
    case pending => exact fun r x hr => ((hb.view key).pending r x (h.pending key r x hr)).mono hsub
    case ids =>
      intro x ids hids
      exact ((hb.view key).ids x ids (h.ids key x hids)).imp_right
        fun hsent => ⟨hsent.1, hsent.2.mono hsub⟩
    case offers => exact h.offers key (hb.view key).offers
  case index => exact h.index hb.index
  case stored =>
    rw [h.allocations]
    exact hb.stored

theorem Loses.learns_plain (h : Loses b b') (hE : ∀ e ∈ effects, e.isPlain = true) :
    Learns R b effects b' :=
  h.learns fun e he => Effect.justified_of_isPlain (hE e he)

theorem Loses.knows (h : Loses b b') (hb : b.Knows R S) : b'.Knows R S := by
  have hplain : ∀ e ∈ ([] : List (Effect ι)), e.isPlain = true := by simp
  have hnil : S ∪ {e | e ∈ ([] : List (Effect ι))} = S := by simp
  have hb' := h.learns_plain hplain S hb
  rwa [hnil] at hb'

theorem Recedes.loses (h : Recedes b b')
    (hids : ∀ key x, (b'.view key).ids x ⊆ (b.view key).ids x)
    (hindex : b.idMapping.IndexSound → b'.idMapping.IndexSound)
    (hallocations : b'.allocations = b.allocations) : Loses b b' where
  next := h.next
  pending := h.pending
  ids := hids
  offers := fun key => (h.offers key).fresh
  index := hindex
  allocations := hallocations

/-- The section also leaves the mappings as they are. -/
theorem Recedes.loses_of_idMapping (h : Recedes b b') (hids : b'.idMapping = b.idMapping)
    (hallocations : b'.allocations = b.allocations) : Loses b b' := by
  refine h.loses (fun key x => ?_) ?_ hallocations
  · show (b'.idMapping.idsOf x).filter _ ⊆ (b.idMapping.idsOf x).filter _
    rw [hids]
    exact List.Subset.refl _
  · rw [hids]
    exact fun hindex => hindex

/-- The section also drops mappings of the one service it is about. -/
theorem Recedes.loses_of_view (h : Recedes b b') (key : Key)
    (hids : ∀ x, (b'.view key).ids x ⊆ (b.view key).ids x)
    (hother : ∀ key' ≠ key, ∀ x, (b'.view key').ids x = (b.view key').ids x)
    (hindex : b.idMapping.IndexSound → b'.idMapping.IndexSound)
    (hallocations : b'.allocations = b.allocations) : Loses b b' := by
  refine h.loses (fun key' x => ?_) hindex hallocations
  by_cases hk : key' = key
  · subst hk
    exact hids x
  · rw [hother key' hk x]
    exact List.Subset.refl _

theorem loses_serviceStateChange {isAvailable : Bool} {counts : ServiceCounts}
    (h : b.serviceStateChange env key isAvailable counts = some (b', effects)) : Loses b b' := by
  have hview := view_serviceStateChange h
  have hother : ∀ key' ≠ key, ∀ x, (b'.view key').ids x = (b.view key').ids x := by
    intro key' hne x
    rw [view_serviceStateChange_of_ne hne h]
  obtain ⟨-, hb', -⟩ := serviceStateChange_eq_some.1 h
  refine (recedes_serviceStateChange h).loses_of_view key ?_ hother ?_ ?_
  · intro x
    rw [hview]
    cases isAvailable
    · exact List.nil_subset _
    · exact List.Subset.refl _
  · intro hindex
    rw [hb']
    cases isAvailable
    · exact hindex.removeService key
    · exact hindex
  · rw [hb']

omit [DecidableEq ι] in
theorem isPlain_sendToAll {e : Effect ι} {inUse : Bool}
    (he : e ∈ b.sendToAll env (some key) (.requestService key inUse)) : e.isPlain = true := by
  obtain ⟨x, -, rfl⟩ := List.mem_map.1 he
  exact decide_eq_true rfl

theorem isPlain_serviceStateChange {isAvailable : Bool} {counts : ServiceCounts}
    (h : b.serviceStateChange env key isAvailable counts = some (b', effects)) :
    ∀ e ∈ effects, e.isPlain = true := by
  obtain ⟨-, -, rfl⟩ := serviceStateChange_eq_some.1 h
  intro e he
  obtain ⟨x, -, rfl⟩ := List.mem_map.1 he
  exact decide_eq_true rfl

theorem loses_unrequested (b : Binding ι) (key : Key) : Loses b (b.unrequested key) := by
  refine (recedes_unrequested b key).loses_of_view key (fun x => ?_) (fun key' hne x => ?_)
    (fun hindex => hindex.removeService key) rfl
  · rw [view_unrequested]
    exact List.nil_subset _
  · rw [view_unrequested_of_ne hne]

/-- An un-request of a peer drops its mapping, and its subscriptions everywhere. -/
theorem loses_handleRequestServiceMessage_false {result : ClientConnectorResult}
    (h : b.handleRequestServiceMessage env client key false result = some (b', effects)) :
    Loses b b' := by
  have hrecedes := recedes_handleRequestServiceMessage_false h
  obtain ⟨-, hview, hother⟩ := handleRequestServiceMessage_false h
  simp only [handleRequestServiceMessage, Bool.not_false, if_true, Option.some.injEq,
    Prod.mk.injEq] at h
  obtain ⟨rfl, -⟩ := h
  refine hrecedes.loses_of_view key (fun x => ?_) (fun key' hne x => ?_)
    (fun hindex => hindex.removeIf _) rfl
  · rw [hview]
    by_cases hx : x = client
    · simp [hx]
    · simp [hx]
  · rw [hother key' hne]

theorem loses_withInterested (b : Binding ι) (key : Key) (client : ι) :
    Loses b (b.withInterested key client) :=
  (recedes_withInterested b key client).loses_of_idMapping rfl rfl

theorem loses_createClientConnector {result : ClientConnectorResult}
    (h : b.createClientConnector env key result = some (b', effects)) :
    Loses b b' ∧ ∀ e ∈ effects, e.isPlain = true := by
  obtain ⟨hmapping, hallocations, -⟩ := createClientConnector_frame h
  refine ⟨(recedes_createClientConnector h).loses_of_idMapping hmapping hallocations, ?_⟩
  cases result with
  | failed =>
      obtain ⟨rfl, -⟩ := createClientConnector_failed h
      simp
  | connected counts =>
      obtain ⟨-, rfl, -⟩ := createClientConnector_connected h
      intro e he
      obtain ⟨x, -, rfl⟩ := List.mem_map.1 he
      exact decide_eq_true rfl
  | waiting =>
      obtain ⟨rfl, -⟩ := createClientConnector_waiting h
      simp

theorem loses_handleOfferServiceMessage_false
    (h : b.handleOfferServiceMessage env client key false = some (b', effects)) :
    Loses b b' := by
  have hrecedes := recedes_handleOfferServiceMessage_false h
  obtain ⟨-, -, -, hview, hother⟩ := handleOfferServiceMessage_false h
  simp only [handleOfferServiceMessage, Bool.not_false, if_true, Option.some.injEq,
    Prod.mk.injEq] at h
  obtain ⟨rfl, -⟩ := h
  refine hrecedes.loses_of_view key (fun x => ?_) (fun key' hne x => ?_)
    (fun hindex => hindex.removeService key) rfl
  · rw [hview]
    exact List.nil_subset _
  · rw [hother key' hne]

theorem loses_withOffer (b : Binding ι) (key : Key) (client : ι) :
    Loses b (b.withOffer key client) :=
  (recedes_withOffer b key client).loses_of_idMapping rfl rfl

theorem loses_handleSubscribeEventMessage (b : Binding ι) (client : ι) (providedId eventId : Nat)
    (subscribe : Bool) :
    Loses b (b.handleSubscribeEventMessage client providedId eventId subscribe).1 := by
  have hframe := b.handleSubscribeEventMessage_frame client providedId eventId subscribe
  apply (recedes_handleSubscribeEventMessage b client providedId eventId
    subscribe).loses_of_idMapping
  · rw [hframe]
  · rw [hframe]

theorem loses_addServerConnector (b : Binding ι) (key : Key) (connector : EnabledConnector ι) :
    Loses b { b with serviceStates := (b.serviceStates.addServerConnector key connector).1 } :=
  (recedes_addServerConnector b key connector).loses_of_idMapping rfl rfl

/-! ## Sections that hand out a handle -/

theorem learns_sendConnectServiceTo (hlink : ∀ x msg, env.link x msg = true)
    (h : sendConnectServiceTo env key b client = some (b', effects)) : Learns R b effects b' := by
  obtain ⟨rfl, rfl⟩ | ⟨state, offer, metadata, requiredId, nextLocalId, hstate, hoffer, -, hdue,
    -, -, hid, hb', rfl⟩ := sendConnectServiceTo_cases h
  · exact .refl R b'
  · intro S hb
    -- an offer without a connect has no id, so the id is a new one
    have hzero : offer.requiredId = 0 := by
      refine (hb.view key).offers client offer ?_ hdue
      simpa [Binding.view, hstate] using hoffer
    obtain ⟨rfl, rfl⟩ : requiredId = b.nextLocalId ∧ nextLocalId = b.nextLocalId + 1 := by
      rcases hid with ⟨-, hr, hn⟩ | ⟨hne, -, -⟩
      · exact ⟨hr, hn⟩
      · exact absurd hzero hne
    have hsend : env.send client (some key) (.connectService key b.nextLocalId metadata true) =
        .send client (some key) (.connectService key b.nextLocalId metadata true) true := by
      simp [Env.send, hlink]
    rw [hsend]
    set E : List (Effect ι) :=
      [.send client (some key) (.connectService key b.nextLocalId metadata true) true] with hE
    have hsub : S ⊆ S ∪ {e | e ∈ E} := Set.subset_union_left
    have hother := (connects_of_sendConnectServiceTo h).other
    have hframe := (connects_of_sendConnectServiceTo h).frame
    have hnext : b'.nextLocalId = b.nextLocalId + 1 := by
      rw [hb', emplacePending_frame]
    constructor
    case history =>
      rw [hnext]
      exact hb.history.connect client key metadata
    case view =>
      intro key'
      constructor
      case pending =>
        intro r x hr
        rw [view_pending_eq_some, hb'] at hr
        rcases lookup_emplacePending hr with hold | ⟨rfl, heq⟩
        · exact ((hb.view key').pending r x (view_pending_eq_some.2 hold)).mono hsub
        · cases heq
          exact ⟨metadata, .inr (by simp [hE])⟩
      case ids =>
        intro x ids hids
        have hsame : (b'.view key').ids x = (b.view key').ids x := by
          rw [hframe]
          rfl
        rw [hsame] at hids
        exact ((hb.view key').ids x ids hids).imp_right fun hsent => ⟨hsent.1, hsent.2.mono hsub⟩
      case offers =>
        by_cases hk : key' = key
        · subst hk
          intro x offer' hoffer' hsent
          have hlookup : (b'.view key').state = some { state with
              offers := state.offers.insert client { offer with
                requiredId := b.nextLocalId
                connectSent := env.link client
                  (.connectService key' b.nextLocalId metadata true) } } := by
            rw [hb', emplacePending_frame]
            simp [Binding.view]
          rw [hlookup] at hoffer'
          simp only [Option.getD_some, Table.lookup_insert_ite] at hoffer'
          split at hoffer'
          · cases hoffer'
            simp [hlink] at hsent
          · refine (hb.view key').offers x offer' ?_ hsent
            simpa [Binding.view, hstate] using hoffer'
        · rw [hother key' hk]
          exact (hb.view key').offers
    case index =>
      rw [hframe]
      exact hb.index
    case stored =>
      rw [hframe]
      exact hb.stored

theorem learns_maybeSendConnectServiceLocked (hlink : ∀ x msg, env.link x msg = true)
    (h : b.maybeSendConnectServiceLocked env key = some (b', effects)) : Learns R b effects b' := by
  unfold maybeSendConnectServiceLocked at h
  split at h
  · cases h
    exact .refl R b
  · split at h
    · exact foldEffects_rel (R := Learns R) (Learns.refl R)
        (fun _ _ _ _ _ hfirst hrest => hfirst.trans hrest)
        (fun _ _ _ _ _ hround => learns_sendConnectServiceTo hlink hround) h
    · cases h
      exact .refl R b

theorem learns_sendRequestService (hlink : ∀ x msg, env.link x msg = true)
    {counts : ServiceCounts} {inUse : Bool}
    (h : b.sendRequestService env key counts inUse = some (b', effects)) :
    Learns R b effects b' := by
  cases hclient : b.serviceStates.hasClientConnector key with
  | true =>
      rw [sendRequestService_skipped hclient] at h
      cases h
      exact .refl R b
  | false =>
      cases inUse with
      | true =>
          obtain ⟨more, hmore, rfl⟩ := (sendRequestService_true hclient).1 h
          have hloses := (recedes_requested b key counts).loses_of_idMapping rfl rfl
          refine Learns.trans (hloses.learns_plain fun e he => ?_)
            (learns_maybeSendConnectServiceLocked hlink hmore)
          rcases List.mem_cons.1 he with rfl | he
          · rfl
          · exact isPlain_sendToAll he
      | false =>
          rw [sendRequestService_false hclient] at h
          obtain ⟨rfl, rfl⟩ := fst_snd_of_some_eq h
          refine (loses_unrequested b key).learns_plain fun e he => ?_
          simp only [List.cons_append, List.mem_cons, List.mem_append, List.mem_map] at he
          rcases he with rfl | he | ⟨connector, -, rfl⟩
          · rfl
          · exact isPlain_sendToAll he
          · rfl

/-- A mapping whose handles are accounted for. -/
theorem ViewKnown.addMapping {v : Key → ServiceView ι} {x : ι} {ids : Ids}
    (h : ∀ key, ViewKnown R S key (v key))
    (hids : ReplyReceived R x ids.key ids.remoteHandle ids.localHandle ∨
      ConnectReceived R x ids.key ids.remoteHandle ∧
        ReplySent S x ids.key ids.remoteHandle ids.localHandle)
    (hb : ∀ key, b.view key = v key) (key : Key) :
    ViewKnown R S key ((b.addMapping x ids).1.view key) := by
  by_cases hk : ids.key = key
  · subst hk
    rw [view_addMapping rfl, hb]
    refine ⟨(h _).pending, ?_, (h _).offers⟩
    intro y ids' hids'
    simp only at hids'
    split at hids'
    next hy =>
      subst hy
      rcases List.mem_append.1 hids' with hold | hnew
      · exact (h _).ids y ids' hold
      · rw [List.mem_singleton.1 hnew]
        exact hids
    next => exact (h _).ids y ids' hids'
  · rw [view_addMapping_of_ne hk, hb]
    exact h key

theorem isPlain_addMapping (b : Binding ι) (client : ι) (ids : Ids) :
    ∀ e ∈ (b.addMapping client ids).2, e.isPlain = true := by
  intro e he
  rw [Binding.eq_of_mem_addMapping he]
  rfl

theorem learns_handleConnectServiceMessage (hlink : ∀ x msg, env.link x msg = true)
    {requiredId : Nat} {metadata : SharedMemoryMetadata}
    (hreceived : ConnectReceived R client key requiredId)
    (h : b.handleConnectServiceMessage env client key requiredId metadata true =
      some (b', effects)) : Learns R b effects b' := by
  obtain ⟨localMetadata, state, -, -, rfl, rfl⟩ := handleConnectServiceMessage_true h
  intro S hb
  have hsend : env.send client (some key)
      (.connectServiceReply requiredId b.nextLocalId localMetadata state.counts) =
      .send client (some key)
        (.connectServiceReply requiredId b.nextLocalId localMetadata state.counts) true := by
    simp [Env.send, hlink]
  rw [hsend]
  have hnote := hb.history.quiet
    (E := ({ b with nextLocalId := b.nextLocalId + 1 }.addMapping client
      ⟨key, b.nextLocalId, requiredId, localMetadata, metadata⟩).2)
    fun e he => Effect.justified_of_isPlain (isPlain_addMapping _ _ _ e he)
  have hhistory := hnote.reply hreceived localMetadata state.counts
  rw [← union_append] at hhistory
  have hsub : S ⊆ S ∪ {e | e ∈ ({ b with nextLocalId := b.nextLocalId + 1 }.addMapping client
      ⟨key, b.nextLocalId, requiredId, localMetadata, metadata⟩).2 ++ [Effect.send client (some key)
        (.connectServiceReply requiredId b.nextLocalId localMetadata state.counts) true]} :=
    Set.subset_union_left
  refine ⟨hhistory, ?_, hb.index.addMapping _, hb.stored⟩
  refine ViewKnown.addMapping (v := fun key => b.view key) (fun key' => ?_) (.inr ⟨hreceived, ?_⟩)
    (fun key' => rfl)
  · refine ⟨fun r x hr => ((hb.view key').pending r x hr).mono hsub, fun x ids hids => ?_,
      (hb.view key').offers⟩
    exact ((hb.view key').ids x ids hids).imp_right fun hsent => ⟨hsent.1, hsent.2.mono hsub⟩
  · exact ⟨localMetadata, state.counts, .inr (by simp)⟩

/-- A reply to a pending connect adds the mapping of its service. -/
theorem learns_handleConnectServiceReplyMessage {requiredId providedId : Nat}
    {metadata : SharedMemoryMetadata} {counts : ServiceCounts} {reply : Option (PendingReply ι)}
    (hreceived : ∀ key, b.pendingConnects.lookup requiredId = some ⟨key, client⟩ →
      ReplyReceived R client key requiredId providedId)
    (h : b.handleConnectServiceReplyMessage env client requiredId providedId metadata counts =
      some (b', effects, reply)) :
    Learns R b effects b' ∧ ∀ p ∈ reply.toList,
      ReplyReceived R p.connector.client p.key p.connector.requiredId p.connector.providedId := by
  obtain ⟨-, rfl, rfl, rfl⟩ | ⟨key, hpending, hcases⟩ := handleConnectServiceReplyMessage_cases h
  · exact ⟨.refl R b', by simp⟩
  · have hloses := (recedes_erasePending hpending).loses_of_idMapping rfl rfl
    obtain ⟨-, rfl, rfl, rfl⟩ | ⟨state, localMetadata, -, -, rfl, rfl, rfl⟩ := hcases
    · exact ⟨hloses.learns_plain (by simp), by simp⟩
    · refine ⟨fun S hb => ?_, by simpa using hreceived key hpending⟩
      have herased := hloses.learns_plain (isPlain_addMapping
        { b with pendingConnects := b.pendingConnects.erase requiredId } client
        ⟨key, providedId, requiredId, localMetadata, metadata⟩) S hb
      refine ⟨herased.history, ?_, herased.index.addMapping _, herased.stored⟩
      exact ViewKnown.addMapping herased.view (.inl (hreceived key hpending)) fun _ => rfl

/-! ## Events and their payloads -/

theorem Knows.quiet (h : b.Knows R S) (hE : ∀ e ∈ effects, e.Justified R ∧ e.isQuiet = true) :
    b.Knows R (S ∪ {e | e ∈ effects}) :=
  (Loses.refl b).learns hE S h

theorem justified_eventUpdates {eventId : Nat} {payload : Payload ι} {clients : List (ι × Ids)}
    (hknown : ∀ p ∈ clients, SomeipGateway.Known R p.1 key p.2.remoteHandle) :
    ∀ e ∈ (b.eventUpdates env key eventId payload clients).1,
      e.Justified R ∧ e.isQuiet = true := by
  intro e he
  obtain ⟨x, ids, hmem, -, rfl⟩ | rfl := mem_eventUpdates he
  · exact ⟨⟨key, rfl, hknown (x, ids) hmem⟩, rfl⟩
  · exact ⟨trivial, rfl⟩

theorem learns_sendEventUpdate {eventId : Nat} {payload : Payload ι} (hpayload : payload.Known R)
    (h : b.sendEventUpdate env key eventId payload = some (b', effects)) :
    Learns R b effects b' := by
  obtain ⟨table, more, hinsert, rfl, rfl⟩ := sendEventUpdate_eq_some.1 h
  intro S hb
  obtain ⟨hstored, hmore⟩ := hb.stored.insertAllocation hpayload hinsert
  have hclients : ∀ p ∈ b.idMapping.forEachClient key,
      SomeipGateway.Known R p.1 key p.2.remoteHandle := by
    rintro ⟨x, ids⟩ hp
    obtain ⟨hids, rfl⟩ := ConnectionMetadata.mem_forEachClient hb.index hp
    exact hb.known_of_mem hids
  have heffects : ∀ e ∈ (b.eventUpdates env key eventId payload
      (b.idMapping.forEachClient key)).1 ++ more, e.Justified R ∧ e.isQuiet = true := by
    intro e he
    rcases List.mem_append.1 he with he | he
    · exact justified_eventUpdates hclients e he
    · exact hmore e he
  have hquiet := hb.quiet heffects
  exact ⟨hquiet.history, hquiet.view, hquiet.index, hstored⟩

theorem learns_handleEventUpdateMessage {requiredId eventId : Nat} {handle : SharedMemoryHandle}
    (h : b.handleEventUpdateMessage client requiredId eventId handle = some (b', effects)) :
    Learns R b effects b' := by
  intro S hb
  have hframe := handleEventUpdateMessage_frame h
  have heffects : ∀ e ∈ effects, e.Justified R ∧ e.isQuiet = true := by
    obtain ⟨-, rfl⟩ | ⟨ids, state, hids, -, ⟨-, rfl⟩ | ⟨connector, usedBytes, -, rfl⟩⟩ :=
      handleEventUpdateMessage_effects h
    · simp
    · intro e he
      rw [List.mem_singleton.1 he]
      exact ⟨trivial, rfl⟩
    · intro e he
      rw [List.mem_singleton.1 he]
      refine ⟨?_, rfl⟩
      intro origin horigin
      cases horigin
      have hfound : ids.remoteHandle = requiredId := by simpa using List.find?_some hids
      have hknown := hb.known_of_mem (List.mem_of_find?_eq_some hids)
      rwa [hfound] at hknown
  have hquiet := hb.quiet heffects
  rw [hframe]
  exact ⟨hquiet.history, hquiet.view, hquiet.index, hquiet.stored⟩

theorem learns_handlePayloadConsumedMessage (b : Binding ι) (client : ι) (requiredId : Nat)
    (handle : SharedMemoryHandle) :
    Learns R b (b.handlePayloadConsumedMessage client requiredId handle).2
      (b.handlePayloadConsumedMessage client requiredId handle).1 := by
  intro S hb
  unfold handlePayloadConsumedMessage
  split
  · exact hb.quiet (by simp)
  next ids hids =>
    obtain ⟨hstored, heffects⟩ := hb.stored.payloadConsumed ids.key handle.slotIndex
    have hquiet := hb.quiet heffects
    exact ⟨hquiet.history, hquiet.view, hquiet.index, hstored⟩

end Binding

end SomeipGateway
