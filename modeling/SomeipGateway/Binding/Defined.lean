import SomeipGateway.Binding.View

/-! # When a critical section is defined

A section of the binding is undefined where the source dereferences a null reply
channel, a missing service state or a slot manager that was not created. Here is
what the state before the section has to satisfy, for each section that can be
undefined.
-/

namespace SomeipGateway

variable {ι : Type}

/-- A loop is defined if every round is, where no round decides about another. -/
theorem foldEffects_isSome_iff {σ α : Type} {f : σ → α → Option (σ × List (Effect ι))}
    {C : σ → α → Prop} (hdefined : ∀ s a, (f s a).isSome = true ↔ C s a)
    (hstable : ∀ s a s' es a', f s a = some (s', es) → (C s' a' ↔ C s a')) (s : σ)
    (items : List α) : (foldEffects f s items).isSome = true ↔ ∀ a ∈ items, C s a := by
  induction items generalizing s with
  | nil => simp [foldEffects]
  | cons a rest ih =>
      rw [List.forall_mem_cons, ← hdefined]
      cases hfirst : f s a with
      | none => simp [foldEffects, hfirst]
      | some r =>
          obtain ⟨s', es⟩ := r
          have hrest : (foldEffects f s' rest).isSome = true ↔ ∀ a ∈ rest, C s a := by
            rw [ih]
            exact forall₂_congr fun a' _ => hstable s a s' es a' hfirst
          rw [← hrest]
          cases hmore : foldEffects f s' rest <;> simp [foldEffects, hfirst, hmore]

namespace Binding

variable [DecidableEq ι] {env : Env ι} {b b' : Binding ι} {key : Key} {client : ι}
  {effects : List (Effect ι)}

/-! ## Connect_service to the peers that offer -/

/-- The peer offers the service and was not asked to connect. -/
def unanswered (b : Binding ι) (key : Key) (client : ι) : Bool :=
  ((b.serviceStates.lookup key).bind fun state => state.offers.lookup client).any fun offer =>
    offer.offered && !offer.connectSent

/-- A connect can be sent to the peer. -/
def CanSend (env : Env ι) (b : Binding ι) (key : Key) (client : ι) : Prop :=
  client ∈ b.connections ∧ (env.metadata key).isSome = true

/-- If the service is requested, every offer that was not answered can be
answered, that of a peer in `offering` included. -/
def CanConnect (env : Env ι) (b : Binding ι) (key : Key) (offering : List ι) : Prop :=
  ∀ state, b.serviceStates.lookup key = some state → state.requested = true →
    ∀ client, (client ∈ offering ∨ ((state.offers.lookup client).getD {}).offered = true) →
      ((state.offers.lookup client).getD {}).connectSent = false → CanSend env b key client

theorem sendConnectServiceTo_isSome_iff (b : Binding ι) (client : ι) :
    (sendConnectServiceTo env key b client).isSome = true ↔
      (b.unanswered key client = true → CanSend env b key client) := by
  unfold sendConnectServiceTo unanswered CanSend
  cases b.serviceStates.lookup key with
  | none => simp
  | some state =>
      cases hoffer : state.offers.lookup client with
      | none => simp [hoffer]
      | some offer =>
          cases hdue : offer.offered && !offer.connectSent with
          | false => simp [hoffer, hdue]
          | true =>
              cases env.metadata key with
              | none => simp [hoffer, hdue]
              | some metadata =>
                  by_cases hclient : client ∈ b.connections <;> simp [hoffer, hdue, hclient]

/-- An answer to one peer changes nothing about the others. -/
theorem canSend_sendConnectServiceTo {client' : ι}
    (h : sendConnectServiceTo env key b client = some (b', effects)) :
    (b'.unanswered key client' = true → CanSend env b' key client') ↔
      (b.unanswered key client' = true → CanSend env b key client') := by
  obtain ⟨rfl, -⟩ | ⟨state, offer, metadata, requiredId, nextLocalId, hstate, hoffer, -, -,
    hmetadata, hclient, -, rfl, -⟩ := sendConnectServiceTo_cases h
  · exact Iff.rfl
  · rw [emplacePending_frame]
    by_cases hc : client' = client
    · subst hc
      have hcan : CanSend env b key client' := ⟨hclient, by simp [hmetadata]⟩
      exact iff_of_true (fun _ => hcan) (fun _ => hcan)
    · simp [unanswered, CanSend, hstate, hc]

theorem mem_keys_of_unanswered {state : ServiceState ι}
    (hstate : b.serviceStates.lookup key = some state) (h : b.unanswered key client = true) :
    client ∈ state.offers.keys := by
  refine AList.lookup_isSome.1 ?_
  simp only [unanswered, hstate, Option.bind_some] at h
  cases hoffer : state.offers.lookup client with
  | none => simp [hoffer] at h
  | some offer => rfl

def isRequested (b : Binding ι) (key : Key) : Bool :=
  (b.serviceStates.lookup key).any fun state => state.requested

theorem canConnect_nil_iff :
    CanConnect env b key [] ↔
      (b.isRequested key = true →
        ∀ client, b.unanswered key client = true → CanSend env b key client) := by
  unfold CanConnect unanswered isRequested
  cases b.serviceStates.lookup key with
  | none => simp
  | some state =>
      simp only [Option.some.injEq, forall_eq', Option.any_some, Option.bind_some,
        List.not_mem_nil, false_or]
      refine forall₂_congr fun _ client => ?_
      cases state.offers.lookup client <;> simp

theorem maybeSendConnectServiceLocked_isSome_iff :
    (b.maybeSendConnectServiceLocked env key).isSome = true ↔ CanConnect env b key [] := by
  rw [canConnect_nil_iff, maybeSendConnectServiceLocked, isRequested]
  cases hstate : b.serviceStates.lookup key with
  | none => simp
  | some state =>
      cases hreq : state.requested with
      | false => simp [hreq]
      | true =>
          simp only [if_true, Option.any_some, hreq, true_implies]
          rw [foldEffects_isSome_iff sendConnectServiceTo_isSome_iff
            fun _ _ _ _ _ => canSend_sendConnectServiceTo]
          exact ⟨fun h client hdue => h client (mem_keys_of_unanswered hstate hdue) hdue,
            fun h client _ => h client⟩

/-- The answers for one service change nothing about what can be answered. -/
theorem canConnect_maybeSendConnectServiceLocked {key' : Key}
    (h : b.maybeSendConnectServiceLocked env key = some (b', effects)) :
    CanConnect env b' key' [] ↔ CanConnect env b key' [] := by
  have hconnects := connects_of_maybeSendConnectServiceLocked h
  by_cases hk : key' = key
  · subst hk
    have hsend : ∀ client, (b'.unanswered key' client = true → CanSend env b' key' client) ↔
        (b.unanswered key' client = true → CanSend env b key' client) := by
      intro client
      unfold maybeSendConnectServiceLocked at h
      split at h
      · cases h
        exact Iff.rfl
      · split at h
        · refine foldEffects_rel
            (R := fun (b : Binding ι) _ (b' : Binding ι) =>
              (b'.unanswered key' client = true → CanSend env b' key' client) ↔
                (b.unanswered key' client = true → CanSend env b key' client))
            (fun _ => Iff.rfl) (fun _ _ _ _ _ h h' => h'.trans h) ?_ h
          exact fun _ _ _ _ _ hround => canSend_sendConnectServiceTo hround
        · cases h
          exact Iff.rfl
    have hreq : b'.isRequested key' = b.isRequested key' := by
      obtain ⟨offers, hoffers, -⟩ := hconnects.state
      simp [isRequested, hoffers, Option.any_map]
    rw [canConnect_nil_iff, canConnect_nil_iff, hreq]
    exact forall₂_congr fun _ client => hsend client
  · have hstate := congrArg ServiceView.state (hconnects.other key' hk)
    have hconnections : b'.connections = b.connections := by
      rw [hconnects.frame]
    unfold CanConnect CanSend
    rw [show b'.serviceStates.lookup key' = b.serviceStates.lookup key' from hstate, hconnections]

/-! ## Handlers -/

theorem resumeService_isSome_iff (b : Binding ι) (key : Key) :
    (resumeService env b key).isSome = true ↔ CanConnect env b key [] := by
  rw [← maybeSendConnectServiceLocked_isSome_iff]
  cases hsend : b.maybeSendConnectServiceLocked env key <;> simp [resumeService, hsend]

theorem handleConnectReplyMessage_isSome_iff {status : Bool} :
    (b.handleConnectReplyMessage env status).isSome = true ↔
      (status = true → ∀ key, CanConnect env b key []) := by
  cases status with
  | false => simp [handleConnectReplyMessage]
  | true =>
      simp only [handleConnectReplyMessage, if_true, true_implies]
      rw [foldEffects_isSome_iff resumeService_isSome_iff]
      · refine ⟨fun h key => ?_, fun h key _ => h key⟩
        by_cases hkey : key ∈ b.serviceStates.keys
        · exact h key hkey
        · intro state hstate
          have hsome : key ∈ b.serviceStates := AList.lookup_isSome.1 (by simp [hstate])
          exact absurd hsome hkey
      · intro b key b' es key' hround
        simp only [resumeService, Option.bind_eq_bind, Option.bind_eq_some_iff, Prod.exists,
          Option.some.injEq, Prod.mk.injEq] at hround
        obtain ⟨_, more, hmore, rfl, -⟩ := hround
        exact canConnect_maybeSendConnectServiceLocked hmore

theorem handleOfferServiceMessage_isSome_iff (env : Env ι) (b : Binding ι) (client : ι)
    (key : Key) (offered : Bool) :
    (b.handleOfferServiceMessage env client key offered).isSome = true ↔
      (offered = true → CanConnect env b key [client]) := by
  cases offered with
  | false => simp [handleOfferServiceMessage]
  | true =>
      rw [handleOfferServiceMessage_true, maybeSendConnectServiceLocked_isSome_iff]
      have hview : (b.withOffer key client).view key = _ := view_withOffer
      have hstate := congrArg ServiceView.state hview
      have hsend : ∀ c, CanSend env (b.withOffer key client) key c = CanSend env b key c :=
        fun _ => rfl
      simp only [view] at hstate
      simp only [CanConnect, hstate, hsend, true_implies]
      cases b.serviceStates.lookup key with
      | none => simp
      | some state =>
          simp only [Option.some.injEq, forall_eq', Option.getD_some, Table.lookup_insert_ite]
          refine forall₂_congr fun _ c => ?_
          by_cases hc : c = client
          · subst hc
            simp
          · simp [hc]

theorem serviceStateChange_isSome_iff (env : Env ι) (b : Binding ι) (key : Key)
    (isAvailable : Bool) (counts : ServiceCounts) :
    (b.serviceStateChange env key isAvailable counts).isSome = true ↔
      ∀ c ∈ b.interested key, c ∈ b.connections := by
  rw [Option.isSome_iff_exists]
  constructor
  · rintro ⟨r, hr⟩
    exact (serviceStateChange_eq_some.1 hr).1
  · intro h
    exact ⟨_, serviceStateChange_eq_some.2 ⟨h, rfl, rfl⟩⟩

theorem createClientConnector_isSome_iff {result : ClientConnectorResult} :
    (b.createClientConnector env key result).isSome = true ↔
      ((∃ counts, result = .connected counts) → ∀ c ∈ b.interested key, c ∈ b.connections) := by
  cases result with
  | failed => simp [createClientConnector]
  | waiting =>
      have hpending :
          (b.serviceStates.markClientConnectorPending key).hasClientConnector key = true := by
        simp [ServiceStates.hasClientConnector, ServiceStates.markClientConnectorPending]
      simp only [createClientConnector]
      rw [sendRequestService_skipped (by exact hpending)]
      simp [ServiceStates.addClientConnector, ServiceStates.markClientConnectorPending]
  | connected counts =>
      have hchange := serviceStateChange_isSome_iff env
        { b with serviceStates := b.serviceStates.markClientConnectorPending key } key true counts
      refine Iff.trans ?_ (hchange.trans ⟨fun h _ => h, fun h => h ⟨counts, rfl⟩⟩)
      simp only [createClientConnector]
      cases hresult : serviceStateChange env
          { b with serviceStates := b.serviceStates.markClientConnectorPending key } key true
          counts with
      | none => simp
      | some r =>
          obtain ⟨b', es⟩ := r
          obtain ⟨-, rfl, -⟩ := serviceStateChange_eq_some.1 hresult
          simp [ServiceStates.addClientConnector, ServiceStates.addService]

theorem handleRequestServiceMessage_true_eq {result : ClientConnectorResult} :
    b.handleRequestServiceMessage env client key true result =
      if (b.view key).localOffer then
        some (b.withInterested key client, [env.send client (some key) (.offerService key true)])
      else if b.hasOwner key then some (b.withInterested key client, [])
      else (b.withInterested key client).createClientConnector env key result := by
  simp only [handleRequestServiceMessage, hasOwner, view, withInterested, Bool.not_true,
    Bool.false_eq_true, if_false, decide_eq_true_eq, Bool.or_eq_true, ite_or, or_assoc]

theorem handleRequestServiceMessage_isSome_iff (env : Env ι) (b : Binding ι) (client : ι)
    (key : Key) (inUse : Bool) (result : ClientConnectorResult) :
    (b.handleRequestServiceMessage env client key inUse result).isSome = true ↔
      (inUse = true → (b.view key).localOffer = false → b.hasOwner key = false →
        (∃ counts, result = .connected counts) →
          client ∈ b.connections ∧ ∀ c ∈ b.interested key, c ∈ b.connections) := by
  cases inUse with
  | false => simp [handleRequestServiceMessage]
  | true =>
      rw [handleRequestServiceMessage_true_eq]
      cases (b.view key).localOffer with
      | true => simp
      | false =>
          cases b.hasOwner key with
          | true => simp
          | false =>
              have hinterested : (b.withInterested key client).interested key =
                  (b.interested key).insert client := by
                simp [withInterested, interested]
              simp only [Bool.false_eq_true, if_false, true_implies]
              rw [createClientConnector_isSome_iff, hinterested]
              simp only [List.mem_insert_iff, forall_eq_or_imp]
              exact Iff.rfl

theorem handleConnectServiceMessage_isSome_iff (env : Env ι) (b : Binding ι) (client : ι)
    (key : Key) (requiredId : Nat) (metadata : SharedMemoryMetadata) (inUse : Bool) :
    (b.handleConnectServiceMessage env client key requiredId metadata inUse).isSome = true ↔
      (inUse = true →
        (b.serviceStates.lookup key).isSome = true ∧ (env.metadata key).isSome = true) := by
  cases inUse with
  | false => simp [handleConnectServiceMessage]
  | true =>
      cases hmetadata : env.metadata key with
      | none => simp [handleConnectServiceMessage, hmetadata]
      | some localMetadata =>
          cases hstate : b.serviceStates.lookup key <;>
            simp [handleConnectServiceMessage, addMapping, hmetadata, hstate]

theorem handleConnectServiceReplyMessage_isSome_iff (env : Env ι) (b : Binding ι) (client : ι)
    (requiredId providedId : Nat) (metadata : SharedMemoryMetadata) (counts : ServiceCounts) :
    (b.handleConnectServiceReplyMessage env client requiredId providedId metadata
      counts).isSome = true ↔
      ∀ key, b.pendingConnects.lookup requiredId = some ⟨key, client⟩ →
        (b.serviceStates.lookup key).isSome = true → (env.metadata key).isSome = true := by
  unfold handleConnectServiceReplyMessage
  cases b.pendingConnects.lookup requiredId with
  | none => simp
  | some pending =>
      obtain ⟨key, owner⟩ := pending
      by_cases howner : owner = client
      · subst howner
        cases hstate : b.serviceStates.lookup key with
        | none => simp [hstate]
        | some state => cases hmetadata : env.metadata key <;> simp [hstate, hmetadata]
      · simp [howner]

end Binding

namespace Allocations

/-- The slot index of a pool with a 64-bit slot count does not wrap. -/
theorem insertAllocation_isSome (table : Allocations ι) (key : Key) {payload : Payload ι}
    (consumerCount : Nat) (h : payload.slotHandle + 1 < 2 ^ 64) :
    (table.insertAllocation key payload consumerCount).isSome = true := by
  have hslot : payload.slotHandle < (table.withSlot key payload.slotHandle).length := by
    simp only [withSlot, Nat.mod_eq_of_lt h]
    split
    · simp only [resize, List.length_append, List.length_take, List.length_replicate]
      omega
    · omega
  unfold insertAllocation
  split
  · rfl
  · simp [List.getElem?_eq_getElem hslot]

end Allocations

end SomeipGateway
