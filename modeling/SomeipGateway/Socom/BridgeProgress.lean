import Mathlib.Algebra.BigOperators.Group.Finset.Basic
import Mathlib.Algebra.BigOperators.Group.Finset.Piecewise
import Mathlib.Algebra.Order.BigOperators.Group.Finset
import SomeipGateway.Lib.Progress
import SomeipGateway.Socom.BridgeRequests

/-! # The loops over bridges and requests come to an end

`get_bridge_requests` goes over a copy of the bridges and looks at the request again
after each call, and `register_bridge` starts over as long as it finds requests that
were added meanwhile. Both end, and so do the destructors of the clients: as long as no
client is made and no bridge is registered, the sections that are due come to an end in
every order.
-/

namespace SomeipGateway

namespace Socom

/-! ## What the loops have left to do -/

/-- Bounds the sections that a client makes. A client that has not begun its loop counts
for `bridges` bridges that may find its request, and for `callbacks` calls. -/
def RequesterPhase.remaining (bridges callbacks : Nat) : RequesterPhase → Nat
  | .registered => 2 * bridges + 2 * callbacks + 1
  | .calling _ rest _ => 2 * rest.length + 2
  | .called rest _ => 2 * rest.length + 1
  | .unregistered => 2
  | .released => 1
  | .absent | .requesting | .served | .destroyed => 0

/-- The keys that a registration has not found yet. -/
def BridgePhase.unseen (keys : Finset Key) : BridgePhase → Finset Key
  | .registering toDo _ done => keys \ (done ∪ toDo.toFinset)
  | _ => ∅

/-- A key that is found is called, so one that is yet to be found counts twice. -/
def BridgePhase.remaining (keys : Finset Key) : BridgePhase → Nat
  | .registering toDo results done =>
      2 * (unseen keys (.registering toDo results done)).card + toDo.length + 1
  | _ => 0

theorem BridgePhase.remaining_mono {keys keys' : Finset Key} (h : keys ⊆ keys')
    (phase : BridgePhase) : remaining keys phase ≤ remaining keys' phase := by
  cases phase with
  | registering toDo results done =>
      have hcard := Finset.card_le_card
        (Finset.sdiff_subset_sdiff h (Finset.Subset.refl (done ∪ toDo.toFinset)))
      simp only [remaining, unseen]
      omega
  | absent | registered | stopped => exact Nat.le_refl _

/-- One more key is found by each registration. -/
theorem BridgePhase.remaining_insert_le (keys : Finset Key) (key : Key) (phase : BridgePhase) :
    remaining (insert key keys) phase ≤ remaining keys phase + 2 := by
  cases phase with
  | registering toDo results done =>
      have hsubset : insert key keys \ (done ∪ toDo.toFinset) ⊆
          insert key (keys \ (done ∪ toDo.toFinset)) := by
        intro k hk
        simp only [Finset.mem_sdiff, Finset.mem_insert] at hk ⊢
        tauto
      have hcard := Nat.le_trans (Finset.card_le_card hsubset) (Finset.card_insert_le _ _)
      simp only [remaining, unseen]
      omega
  | absent | registered | stopped => exact Nat.zero_le _

namespace Bridges

/-- The step goes on with a call that has started. -/
def Label.continues : Label → Bool
  | .getBridgeRequests _ | .requestService _ | .resume _ | .releaseRequest _ | .cleanup _
  | .requestFor .. | .mergeResults _ => true
  | _ => false

variable {σ σ' : Bridges} {label : Label}

def keys (σ : Bridges) : Finset Key := σ.requests.keys.toFinset

/-- What is left to do for the given clients and bridges. -/
def work (C : Finset ClientId) (B : Finset BridgeId) (σ : Bridges) : Nat :=
  ∑ c ∈ C, RequesterPhase.remaining B.card σ.callbacks.length (σ.clients c).phase +
    ∑ b ∈ B, BridgePhase.remaining σ.keys (σ.bridges b)

theorem sum_update_add {α β : Type} [DecidableEq α] (g : β → Nat) (f : α → β) {s : Finset α}
    {a : α} (ha : a ∈ s) (b : β) :
    ∑ x ∈ s, g (Function.update f a b x) + g (f a) = ∑ x ∈ s, g (f x) + g b := by
  have hcompose (x : α) :
      g (Function.update f a b x) = Function.update (fun x => g (f x)) a (g b) x := by
    simp only [Function.update_apply]
    split <;> rfl
  simp only [hcompose]
  rw [Finset.sum_update_of_mem ha, ← Finset.sum_sdiff (Finset.singleton_subset_iff.2 ha)]
  simp
  omega

variable {C : Finset ClientId} {B : Finset BridgeId}

/-- A section of a client that may add keys, each of them worth `m` to a registration. -/
theorem work_lt_of_client {c : ClientId} {phase : RequesterPhase} {m : Nat} (hc : c ∈ C)
    (hclients : σ'.clients = Function.update σ.clients c { σ.clients c with phase := phase })
    (hcallbacks : σ'.callbacks = σ.callbacks) (hbridges : σ'.bridges = σ.bridges)
    (hkeys : ∀ phase, BridgePhase.remaining σ'.keys phase ≤ BridgePhase.remaining σ.keys phase + m)
    (hless : phase.remaining B.card σ.callbacks.length + B.card * m <
      (σ.clients c).phase.remaining B.card σ.callbacks.length) : σ'.work C B < σ.work C B := by
  have hclient := sum_update_add
    (fun client : Requester => client.phase.remaining B.card σ.callbacks.length) σ.clients hc
    { σ.clients c with phase := phase }
  have hbridge : ∑ b ∈ B, BridgePhase.remaining σ'.keys (σ.bridges b) ≤
      ∑ b ∈ B, BridgePhase.remaining σ.keys (σ.bridges b) + B.card * m := by
    calc ∑ b ∈ B, BridgePhase.remaining σ'.keys (σ.bridges b)
        ≤ ∑ b ∈ B, (BridgePhase.remaining σ.keys (σ.bridges b) + m) :=
          Finset.sum_le_sum fun b _ => hkeys (σ.bridges b)
      _ = _ := by rw [Finset.sum_add_distrib, Finset.sum_const_nat fun _ _ => rfl]
  dsimp only at hclient
  simp only [work, hclients, hcallbacks, hbridges]
  omega

theorem work_lt_of_bridge {b : BridgeId} {phase : BridgePhase} (hb : b ∈ B)
    (hclients : σ'.clients = σ.clients) (hcallbacks : σ'.callbacks = σ.callbacks)
    (hbridges : σ'.bridges = Function.update σ.bridges b phase) (hkeys : σ'.keys = σ.keys)
    (hless : phase.remaining σ.keys < (σ.bridges b).remaining σ.keys) :
    σ'.work C B < σ.work C B := by
  have hbridge := sum_update_add (BridgePhase.remaining σ.keys) σ.bridges hb phase
  simp only [work, hclients, hcallbacks, hbridges, hkeys]
  omega

theorem length_of_nextForwarded {record : List (Option BridgeIdentity)}
    {bridges rest : List (BridgeId × BridgeIdentity)} {b : BridgeId}
    (h : nextForwarded record bridges = some (b, rest)) : rest.length < bridges.length := by
  induction bridges with
  | nil => cases h
  | cons bridge tail ih =>
      simp only [nextForwarded] at h
      split at h
      next =>
        cases h
        simp
      next =>
        have hlength := ih h
        simp only [List.length_cons]
        omega

theorem mem_keys {key : Key} : key ∈ σ.keys ↔ ∃ r, σ.requests.lookup key = some r := by
  rw [keys, List.mem_toFinset, Table.mem_keys_iff_lookup]

theorem keys_eq_of_lookup
    (h : ∀ key, (σ'.requests.lookup key).isSome = (σ.requests.lookup key).isSome) :
    σ'.keys = σ.keys := by
  ext key
  simp only [mem_keys, ← Option.isSome_iff_exists, h]

theorem keys_joinRequest (c : ClientId) :
    (σ.joinRequest c).keys = insert (σ.clients c).key σ.keys := by
  ext key
  rw [mem_keys, lookup_joinRequest, Finset.mem_insert, mem_keys]
  by_cases hkey : key = (σ.clients c).key <;> simp [hkey]

theorem keys_storeResults {c : ClientId} {r r' : ActiveRequest} (tmp : Table BridgeId HandleId)
    (hr : σ.requests.lookup (σ.clients c).key = some r') :
    (σ.storeResults c r tmp).keys = σ.keys := by
  apply keys_eq_of_lookup
  intro key
  rw [lookup_storeResults]
  split
  next hkey =>
    rw [hkey, hr]
    rfl
  next => rfl

theorem keys_releaseRequest {c : ClientId} {r : ActiveRequest}
    (hr : σ.requests.lookup (σ.clients c).key = some r) : (σ.releaseRequest c r).keys = σ.keys := by
  apply keys_eq_of_lookup
  intro key
  rw [lookup_releaseRequest]
  split
  next hkey =>
    rw [hkey, hr]
    rfl
  next => rfl

/-- A registration that starts over has found keys. -/
theorem remaining_mergedPhase (results : Table Key HandleId) (done : Finset Key) :
    (σ.mergedPhase results done).remaining σ.keys <
      (BridgePhase.registering [] results done).remaining σ.keys := by
  unfold mergedPhase
  split
  next => simp [BridgePhase.remaining]
  next hfound =>
    generalize hnew : (σ.requests.keys.filter fun key => key ∉ results ∧ key ∉ done) = toDo at *
    have hsubset : toDo.toFinset ⊆ σ.keys \ done := by
      intro key hkey
      simp only [← hnew, List.mem_toFinset, List.mem_filter, decide_eq_true_eq] at hkey
      exact Finset.mem_sdiff.2 ⟨List.mem_toFinset.2 hkey.1, hkey.2.2⟩
    have hcard : toDo.toFinset.card = toDo.length := by
      apply List.toFinset_card_of_nodup
      rw [← hnew]
      exact σ.requests.keys_nodup.filter _
    have hsplit : σ.keys \ (done ∪ toDo.toFinset) = (σ.keys \ done) \ toDo.toFinset := by
      ext key
      simp only [Finset.mem_sdiff, Finset.mem_union]
      tauto
    have hsum := Finset.card_sdiff_add_card_eq_card hsubset
    have hpos := List.length_pos_of_ne_nil hfound
    simp only [BridgePhase.remaining, BridgePhase.unseen, hsplit, List.toFinset_nil,
      Finset.union_empty, List.length_nil]
    omega

theorem work_lt (hC : ∀ c, (σ.clients c).phase ≠ .absent → c ∈ C)
    (hB : ∀ b, σ.bridges b ≠ .absent → b ∈ B) (hcontinues : label.continues = true)
    (hstep : Step σ label σ') : σ'.work C B < σ.work C B := by
  cases hstep with
  | serverChanged | refused | made | left | registered | stopped => cases hcontinues
  | began c b rest hphase hnext =>
      have hlength := length_of_nextForwarded hnext
      refine work_lt_of_client (m := 2) (hC c (by simp [hphase])) rfl rfl rfl (fun phase => ?_) ?_
      · exact (congrArg (BridgePhase.remaining · phase) (keys_joinRequest c)).trans_le
          (BridgePhase.remaining_insert_le σ.keys _ phase)
      · simp only [hphase, RequesterPhase.remaining]
        omega
  | joined c hphase hnext =>
      refine work_lt_of_client (m := 2) (hC c (by simp [hphase])) rfl rfl rfl (fun phase => ?_) ?_
      · rw [keys_storeResults ∅ (lookup_joinRequest_self σ c), keys_joinRequest]
        exact BridgePhase.remaining_insert_le σ.keys _ phase
      · simp only [hphase, RequesterPhase.remaining]
        omega
  | answered c b rest tmp hphase =>
      refine work_lt_of_client (m := 0) (hC c (by simp [hphase])) rfl rfl rfl
        (fun phase => Nat.le_refl _) ?_
      simp [hphase, RequesterPhase.remaining]
  | resumed c b rest rest' tmp r hphase hr hnext =>
      have hlength := length_of_nextForwarded hnext
      refine work_lt_of_client (m := 0) (hC c (by simp [hphase])) rfl rfl rfl
        (fun phase => Nat.le_refl _) ?_
      simp only [hphase, RequesterPhase.remaining]
      omega
  | stored c rest tmp r hphase hr hnext =>
      refine work_lt_of_client (m := 0) (hC c (by simp [hphase])) rfl rfl rfl (fun phase => ?_) ?_
      · rw [keys_storeResults tmp hr]
        exact Nat.le_refl _
      · simp [hphase, RequesterPhase.remaining]
  | released c r hphase hr =>
      refine work_lt_of_client (m := 0) (hC c (by simp [hphase])) rfl rfl rfl (fun phase => ?_) ?_
      · rw [keys_releaseRequest hr]
        exact Nat.le_refl _
      · simp [hphase, RequesterPhase.remaining]
  | cleaned c hphase =>
      refine work_lt_of_client (m := 0) (hC c (by simp [hphase])) rfl rfl rfl (fun phase => ?_) ?_
      · refine BridgePhase.remaining_mono (fun key hkey => ?_) phase
        obtain ⟨r, hr⟩ := mem_keys.1 hkey
        exact mem_keys.2 ⟨r, lookup_of_cleanupKey hr⟩
      · simp [hphase, RequesterPhase.remaining]
  | called b key toDo results done hphase hkey =>
      refine work_lt_of_bridge (hB b (by simp [hphase])) rfl rfl rfl rfl ?_
      have hunseen : σ.keys \ (insert key done ∪ (toDo.erase key).toFinset) ⊆
          σ.keys \ (done ∪ toDo.toFinset) := by
        intro k hk
        simp only [Finset.mem_sdiff, Finset.mem_union, Finset.mem_insert, List.mem_toFinset,
          not_or] at hk ⊢
        refine ⟨hk.1, hk.2.1.2, fun hmem => hk.2.2 ?_⟩
        exact (List.mem_erase_of_ne hk.2.1.1).2 hmem
      have hcard := Finset.card_le_card hunseen
      have hlength := List.length_erase_of_mem hkey
      have hpos := List.length_pos_of_mem hkey
      simp only [hphase, BridgePhase.remaining, BridgePhase.unseen]
      omega
  | merged b results done hphase =>
      have hless := remaining_mergedPhase (σ := σ) results done
      rw [← hphase] at hless
      refine work_lt_of_bridge (hB b (by simp [hphase])) rfl rfl rfl
        (keys_eq_of_lookup fun key => ?_) hless
      rw [lookup_mergeResults]
      simp

/-! ## When no section is due -/

/-- Nobody is in a loop or in a destructor. -/
structure Idle (σ : Bridges) : Prop where
  clients : ∀ c, (σ.clients c).phase = .absent ∨ (σ.clients c).phase = .requesting ∨
    (σ.clients c).phase = .served ∨ (σ.clients c).phase = .destroyed
  bridges : ∀ b, σ.bridges b = .absent ∨ σ.bridges b = .registered ∨ σ.bridges b = .stopped

theorem idle_of_stuck (hs : Sound σ)
    (hstuck : Stuck next (fun _ label => label.continues = true) σ) : σ.Idle where
  clients := by
    intro c
    cases hphase : (σ.clients c).phase with
    | absent | requesting | served | destroyed => simp
    | registered =>
        have h := hstuck (.getBridgeRequests c) rfl
        simp [next, hphase] at h
    | calling b rest tmp =>
        have h := hstuck (.requestService c) rfl
        simp [next, hphase] at h
    | called rest tmp =>
        obtain ⟨r, hr, -⟩ := hs.owned.owner c (by rw [hphase]; rfl)
        have h := hstuck (.resume c) rfl
        simp [next, hphase, hr] at h
    | unregistered =>
        obtain ⟨r, hr, -⟩ := hs.owned.owner c (by rw [hphase]; rfl)
        have h := hstuck (.releaseRequest c) rfl
        simp [next, hphase, hr] at h
    | released =>
        have h := hstuck (.cleanup c) rfl
        simp [next, hphase] at h
  bridges := by
    intro b
    cases hphase : σ.bridges b with
    | absent | registered | stopped => simp
    | registering toDo results done =>
        cases toDo with
        | nil =>
            have h := hstuck (.mergeResults b) rfl
            simp [next, hphase] at h
        | cons key rest =>
            have h := hstuck (.requestFor b key) rfl
            simp [next, hphase] at h

/-! ## The clients and bridges of a run -/

/-- Every client and every bridge is one of the given ones. -/
structure Within (C : Finset ClientId) (B : Finset BridgeId) (σ : Bridges) : Prop where
  clients : ∀ c, (σ.clients c).phase ≠ .absent → c ∈ C
  bridges : ∀ b, σ.bridges b ≠ .absent → b ∈ B

theorem Within.setPhase (h : Within C B σ) {c : ClientId} (hc : (σ.clients c).phase ≠ .absent)
    (phase : RequesterPhase) : Within C B (σ.setPhase c phase) := by
  refine ⟨fun c' hc' => ?_, h.bridges⟩
  rw [setPhase_phase] at hc'
  split at hc'
  next heq => exact heq ▸ h.clients c hc
  next => exact h.clients c' hc'

theorem Within.setBridge (h : Within C B σ) {b : BridgeId} (hb : b ∈ B) (phase : BridgePhase) :
    Within C B (σ.setBridge b phase) := by
  refine ⟨h.clients, fun b' hb' => ?_⟩
  simp only [Bridges.setBridge, Function.update_apply] at hb'
  split at hb'
  next heq => exact heq ▸ hb
  next => exact h.bridges b' hb'

/-- The steps that go on with a call make neither clients nor bridges. -/
theorem Within.step (h : Within C B σ) (hstep : Step σ label σ') :
    ∃ C' B', (label.continues = true → C' = C ∧ B' = B) ∧ Within C' B' σ' := by
  have hkept (hafter : Within C B σ') :
      ∃ C' B', (label.continues = true → C' = C ∧ B' = B) ∧ Within C' B' σ' :=
    ⟨C, B, fun _ => ⟨rfl, rfl⟩, hafter⟩
  cases hstep with
  | serverChanged | refused => exact hkept ⟨h.clients, h.bridges⟩
  | made c key phase habsent hfree hphase =>
      refine ⟨insert c C, B, nofun, fun c' hc' => ?_, h.bridges⟩
      dsimp only at hc'
      rw [Function.update_apply] at hc'
      split at hc'
      next heq => exact Finset.mem_insert.2 (.inl heq)
      next => exact Finset.mem_insert_of_mem (h.clients c' hc')
  | registered b identity place habsent =>
      have hmore : Within C (insert b B) σ :=
        ⟨h.clients, fun b' hb' => Finset.mem_insert_of_mem (h.bridges b' hb')⟩
      have hafter := hmore.setBridge (Finset.mem_insert_self b B) (.registering σ.requests.keys ∅ ∅)
      exact ⟨C, insert b B, nofun, hafter.clients, hafter.bridges⟩
  | began c b rest hphase | joined c hphase | answered c b rest tmp hphase
  | resumed c b rest rest' tmp r hphase | stored c rest tmp r hphase | released c r hphase
  | cleaned c hphase =>
      have hafter (phase : RequesterPhase) := h.setPhase (c := c) (by simp [hphase]) phase
      exact hkept ⟨(hafter _).clients, h.bridges⟩
  | left c phase hphase =>
      have hafter := h.setPhase (c := c)
        (by rcases hphase with ⟨hc, -⟩ | ⟨hc, -⟩ <;> simp [hc]) phase
      exact hkept ⟨hafter.clients, hafter.bridges⟩
  | called b key toDo results done hphase =>
      have hafter (phase : BridgePhase) := h.setBridge (h.bridges b (by simp [hphase])) phase
      exact hkept ⟨h.clients, (hafter _).bridges⟩
  | merged b results done hphase =>
      have hafter := h.setBridge (h.bridges b (by simp [hphase])) (σ.mergedPhase results done)
      exact hkept ⟨hafter.clients, hafter.bridges⟩
  | stopped b hphase =>
      have hafter := h.setBridge (h.bridges b (by simp [hphase])) .stopped
      exact hkept ⟨hafter.clients, hafter.bridges⟩

theorem exists_within {ok : Bridges → Label → Prop} (h : Reach next ok {} σ) :
    ∃ C B, Within C B σ := by
  refine Reach.invariant (I := fun σ => ∃ C B, Within C B σ) ?_ ?_ h
  · exact ⟨∅, ∅, fun c hc => absurd rfl hc, fun b hb => absurd rfl hb⟩
  · rintro σ label σ' ⟨C, B, hwithin⟩ _ hnext
    obtain ⟨C', B', -, hafter⟩ := hwithin.step (step_of_next hnext)
    exact ⟨C', B', hafter⟩

/-- In whatever state the clients and the bridges are: if no client is made or destroyed
and no bridge is registered or stopped from now on, then in every order of the sections
that are due all of `make_client_connector`, `register_service_bridge` and the
destructors return. -/
theorem bridge_loops_return {ok : Bridges → Label → Prop} (h : Reach next ok {} σ) :
    Inevitably next (fun _ label => label.continues = true) Idle σ := by
  obtain ⟨C, B, hwithin⟩ := exists_within h
  refine Inevitably.of_measure (I := fun σ => Sound σ ∧ Within C B σ) (work C B) ?_ ?_ ?_
    ⟨.reachable h, hwithin⟩
  · rintro σ label σ' ⟨hs, hwithin⟩ hcontinues hnext
    have hstep := step_of_next hnext
    obtain ⟨C', B', hsame, hafter⟩ := hwithin.step hstep
    obtain ⟨rfl, rfl⟩ := hsame hcontinues
    exact ⟨hs.step hstep, hafter⟩
  · rintro σ label σ' ⟨-, hwithin⟩ hcontinues hnext
    exact work_lt hwithin.clients hwithin.bridges hcontinues (step_of_next hnext)
  · rintro σ ⟨hs, -⟩ hstuck
    exact idle_of_stuck hs hstuck

/-- A client is about to call a bridge, and another bridge that is being registered has
already been called for the same request. -/
theorem bridge_loops_return_run :
    ∃ σ : Bridges, (σ.clients 0).phase.due = [0] ∧ someKey 0 ∈ (σ.bridges 1).results ∧
      Inevitably next (fun _ label => label.continues = true) Idle σ := by
  obtain ⟨σ, hreach, hp⟩ := exists_reach_of_runFrom next (fun _ _ => True) {}
    [.registerServiceBridge 0 7 0, .mergeResults 0, .makeClientConnector 0 (someKey 0),
      .getBridgeRequests 0, .registerServiceBridge 1 8 0, .requestFor 1 (someKey 0)]
    (fun σ => decide ((σ.clients 0).phase.due = [0] ∧ someKey 0 ∈ (σ.bridges 1).results))
    (by decide)
  obtain ⟨hclient, hbridge⟩ := of_decide_eq_true hp
  exact ⟨σ, hclient, hbridge, bridge_loops_return hreach⟩

end Bridges

end Socom

end SomeipGateway
