import SomeipGateway.Socom.Bridges

/-! # What is left of a bridge that has stopped

Every bridge that a map, a client or a registration in progress names is in the
table of the runtime, as long as no bridge stops while a client that copied it is
still between its lock sections. A stopped bridge is not in the table.
-/

namespace SomeipGateway

namespace Socom

/-- The bridges that the local variables of `get_bridge_requests` name. -/
def RequesterPhase.names : RequesterPhase → BridgeId → Prop
  | .calling b rest tmp, b' => b' = b ∨ b' ∈ rest.map Prod.fst ∨ b' ∈ tmp
  | .called rest tmp, b' => b' ∈ rest.map Prod.fst ∨ b' ∈ tmp
  | _, _ => False

def BridgePhase.isRegistered : BridgePhase → Bool
  | .registering .. | .registered => true
  | .absent | .stopped => false

theorem map_fst_of_nextForwarded {record : List (Option BridgeIdentity)}
    {bridges rest : List (BridgeId × BridgeIdentity)} {b : BridgeId}
    (h : nextForwarded record bridges = some (b, rest)) :
    b ∈ bridges.map Prod.fst ∧ ∀ b' ∈ rest.map Prod.fst, b' ∈ bridges.map Prod.fst := by
  induction bridges with
  | nil => cases h
  | cons bridge tail ih =>
      simp only [nextForwarded] at h
      split at h
      next =>
        cases h
        exact ⟨by simp, fun b' hb' => List.mem_cons_of_mem _ hb'⟩
      next =>
        obtain ⟨hb, hrest⟩ := ih h
        exact ⟨List.mem_cons_of_mem _ hb, fun b' hb' => List.mem_cons_of_mem _ (hrest b' hb')⟩

namespace Bridges

def lists (σ : Bridges) (b : BridgeId) : Prop := b ∈ σ.callbacks.map Prod.fst

/-- No client connector is being made whose copy of the table has the bridge that
stops. -/
def stopsUnused (σ : Bridges) : Label → Prop
  | .stopRegistration b => ∀ c, ¬(σ.clients c).phase.names b
  | _ => True

variable {σ σ' : Bridges} {label : Label}

/-! ## The requests after a section -/

theorem lookup_joinRequest (σ : Bridges) (c : ClientId) (key : Key) :
    (σ.joinRequest c).requests.lookup key =
      if key = (σ.clients c).key then some (σ.ownRequest c key) else σ.requests.lookup key := by
  simp only [joinRequest, Table.lookup_insert_ite]
  split
  next heq => rw [heq]
  next => rfl

theorem lookup_joinRequest_self (σ : Bridges) (c : ClientId) :
    (σ.joinRequest c).requests.lookup ((σ.joinRequest c).clients c).key =
      some (σ.ownRequest c (σ.clients c).key) :=
  (lookup_joinRequest σ c (σ.clients c).key).trans (if_pos rfl)

theorem lookup_storeResults (σ : Bridges) (c : ClientId) (r : ActiveRequest)
    (tmp : Table BridgeId HandleId) (key : Key) :
    (σ.storeResults c r tmp).requests.lookup key =
      if key = (σ.clients c).key then some { r with entries := r.entries ∪ tmp }
      else σ.requests.lookup key := by
  simp only [storeResults, Table.lookup_insert_ite]

theorem lookup_releaseRequest (σ : Bridges) (c : ClientId) (r : ActiveRequest) (key : Key) :
    (σ.releaseRequest c r).requests.lookup key =
      if key = (σ.clients c).key then some { r with
        owners := r.owners.erase c
        entries := if r.owners.erase c = ∅ then ∅ else r.entries }
      else σ.requests.lookup key := by
  simp only [releaseRequest, Table.lookup_insert_ite]

theorem lookup_of_cleanupKey {c : ClientId} {key : Key} {r : ActiveRequest}
    (h : (σ.cleanupKey c).requests.lookup key = some r) : σ.requests.lookup key = some r := by
  simp only [cleanupKey] at h
  split at h
  · exact h
  · rw [Table.lookup_erase_ite] at h
    split at h
    · cases h
    · exact h

theorem lookup_cleanupKey {c : ClientId} {key : Key} {r : ActiveRequest}
    (h : σ.requests.lookup key = some r) (howners : r.owners ≠ ∅) :
    (σ.cleanupKey c).requests.lookup key = some r := by
  simp only [cleanupKey]
  split
  · exact h
  next hexpired =>
    rw [Table.lookup_erase_ite, if_neg]
    · exact h
    · rintro rfl
      simp [locked, h, howners] at hexpired

/-- What the section of `register_bridge` makes of an entry. -/
def mergedRequest (σ : Bridges) (b : BridgeId) (results : Table Key HandleId) (key : Key)
    (r : ActiveRequest) : ActiveRequest :=
  match results.lookup key with
  | some h => if σ.accepts b key then { r with entries := r.entries.insert b h } else r
  | none => r

theorem lookup_mergeResults (σ : Bridges) (b : BridgeId) (results : Table Key HandleId)
    (done : Finset Key) (key : Key) :
    (σ.mergeResults b results done).requests.lookup key =
      (σ.requests.lookup key).map (σ.mergedRequest b results key) := by
  simp only [mergeResults, Table.lookup_filterMapVals]
  cases σ.requests.lookup key <;> rfl

theorem lookup_stopRegistration (σ : Bridges) (b : BridgeId) (key : Key) :
    (σ.stopRegistration b).requests.lookup key =
      (σ.requests.lookup key).map fun r => { r with entries := r.entries.erase b } := by
  simp only [stopRegistration, Table.lookup_filterMapVals]
  cases σ.requests.lookup key <;> rfl

/-- Where the section of `register_bridge` leaves the bridge. -/
def mergedPhase (σ : Bridges) (results : Table Key HandleId) (done : Finset Key) : BridgePhase :=
  if (σ.requests.keys.filter fun key => key ∉ results ∧ key ∉ done) = [] then .registered
  else .registering (σ.requests.keys.filter fun key => key ∉ results ∧ key ∉ done) ∅ done

theorem mergedPhase_isRegistered (results : Table Key HandleId) (done : Finset Key) :
    (σ.mergedPhase results done).isRegistered = true := by
  unfold mergedPhase
  split <;> rfl

theorem mergedPhase_ne_absent (results : Table Key HandleId) (done : Finset Key) :
    σ.mergedPhase results done ≠ .absent := by
  unfold mergedPhase
  split <;> simp

theorem mergedRequest_owners (b : BridgeId) (results : Table Key HandleId) (key : Key)
    (r : ActiveRequest) :
    (σ.mergedRequest b results key r).owners = r.owners ∧
      (σ.mergedRequest b results key r).subscribers = r.subscribers ∧
      (σ.mergedRequest b results key r).epoch = r.epoch := by
  unfold mergedRequest
  split
  · split <;> exact ⟨rfl, rfl, rfl⟩
  · exact ⟨rfl, rfl, rfl⟩

theorem locked_eq_some {key : Key} {r : ActiveRequest} :
    σ.locked key = some r ↔ σ.requests.lookup key = some r ∧ r.owners ≠ ∅ := by
  simp [locked, Option.filter_eq_some_iff]

theorem lookup_entries_ownRequest {c : ClientId} {key : Key} {b : BridgeId} {n : HandleId}
    (h : (σ.ownRequest c key).entries.lookup b = some n) :
    ∃ r, σ.requests.lookup key = some r ∧ r.entries.lookup b = some n := by
  unfold ownRequest at h
  split at h
  next r hr => exact ⟨r, (locked_eq_some.1 hr).1, h⟩
  next => cases h

theorem lookup_entries_mergedRequest {b b' : BridgeId} {results : Table Key HandleId} {key : Key}
    {r : ActiveRequest} {n : HandleId} :
    (σ.mergedRequest b results key r).entries.lookup b' = some n →
      r.entries.lookup b' = some n ∨ b' = b ∧ results.lookup key = some n := by
  unfold mergedRequest
  split
  next h hh =>
    split
    · rw [Table.lookup_insert_ite]
      split
      next heq =>
        intro hn
        cases hn
        exact .inr ⟨heq, hh⟩
      next => exact .inl
    · exact .inl
  next => exact .inl

/-! ## The table of bridges -/

theorem lists_registerServiceBridge (σ : Bridges) (b : BridgeId) (identity : BridgeIdentity)
    (place : Nat) (b' : BridgeId) :
    (σ.registerServiceBridge b identity place).lists b' ↔ b' = b ∨ σ.lists b' := by
  have hsplit : σ.lists b' ↔ b' ∈ (σ.callbacks.take place).map Prod.fst ∨
      b' ∈ (σ.callbacks.drop place).map Prod.fst := by
    rw [← List.mem_append, ← List.map_append, List.take_append_drop]
    rfl
  rw [hsplit]
  simp only [lists, registerServiceBridge, List.map_append, List.map_cons, List.mem_append,
    List.mem_cons]
  tauto

theorem lists_stopRegistration (σ : Bridges) (b b' : BridgeId) :
    (σ.stopRegistration b).lists b' ↔ b' ≠ b ∧ σ.lists b' := by
  simp only [lists, stopRegistration, List.mem_map, List.mem_filter, decide_eq_true_eq]
  constructor
  · rintro ⟨e, ⟨he, hne⟩, rfl⟩
    exact ⟨hne, e, he, rfl⟩
  · rintro ⟨hne, e, he, rfl⟩
    exact ⟨e, ⟨he, hne⟩, rfl⟩

/-- The table has the bridges that are registered or being registered, once each. -/
structure Listed (σ : Bridges) : Prop where
  bridges : ∀ b, σ.lists b ↔ (σ.bridges b).isRegistered = true
  nodup : (σ.callbacks.map Prod.fst).Nodup

theorem Listed.setBridge (h : Listed σ) {b : BridgeId} (hb : (σ.bridges b).isRegistered = true)
    (phase : BridgePhase) (hphase : phase.isRegistered = true) : Listed (σ.setBridge b phase) := by
  refine ⟨fun b' => (h.bridges b').trans ?_, h.nodup⟩
  by_cases hb' : b' = b
  · subst hb'
    simp [Bridges.setBridge, hb, hphase]
  · simp [Bridges.setBridge, hb']

theorem Listed.step (h : Listed σ) (hstep : Step σ label σ') : Listed σ' := by
  cases hstep with
  | serverChanged | refused | made | began | joined | answered | resumed | stored | left | released
  | cleaned => exact ⟨h.bridges, h.nodup⟩
  | registered b identity place habsent =>
      have hnew : ¬σ.lists b := by simp [h.bridges, habsent, BridgePhase.isRegistered]
      refine ⟨fun b' => ?_, ?_⟩
      · rw [lists_registerServiceBridge, h.bridges]
        by_cases hb' : b' = b
        · subst hb'
          simp [registerServiceBridge, Bridges.setBridge, BridgePhase.isRegistered]
        · simp [registerServiceBridge, Bridges.setBridge, hb']
      · have hperm : ((σ.registerServiceBridge b identity place).callbacks.map Prod.fst).Perm
            (b :: σ.callbacks.map Prod.fst) := by
          have hmiddle : (σ.registerServiceBridge b identity place).callbacks.Perm
              ((b, identity) :: (σ.callbacks.take place ++ σ.callbacks.drop place)) :=
            List.perm_middle
          rw [List.take_append_drop] at hmiddle
          exact hmiddle.map Prod.fst
        exact hperm.nodup_iff.2 (List.nodup_cons.2 ⟨hnew, h.nodup⟩)
  | called b key toDo results done hphase hkey =>
      have hasked : Listed (σ.ask b key) := ⟨h.bridges, h.nodup⟩
      exact hasked.setBridge (by rw [Bridges.ask, hphase]; rfl) _ rfl
  | merged b results done hphase =>
      have hset := h.setBridge (b := b) (by rw [hphase]; rfl) (σ.mergedPhase results done)
        (mergedPhase_isRegistered results done)
      exact ⟨hset.bridges, hset.nodup⟩
  | stopped b hphase =>
      refine ⟨fun b' => ?_, (List.filter_sublist.map Prod.fst).nodup h.nodup⟩
      rw [lists_stopRegistration, h.bridges]
      by_cases hb' : b' = b
      · subst hb'
        simp [stopRegistration, Bridges.setBridge, BridgePhase.isRegistered]
      · simp [stopRegistration, Bridges.setBridge, hb']

theorem Listed.init : Listed {} :=
  ⟨fun _ => by simp [lists, BridgePhase.isRegistered], List.nodup_nil⟩

theorem Listed.reachable {ok : Bridges → Label → Prop} (h : Reach next ok {} σ) : Listed σ :=
  h.invariant .init fun _ _ _ hlisted _ hnext => hlisted.step (step_of_next hnext)

/-! ## What the maps and the clients name -/

structure Known (σ : Bridges) : Prop where
  entries : ∀ key r b, σ.requests.lookup key = some r → b ∈ r.entries → σ.lists b
  clients : ∀ c b, (σ.clients c).phase.names b → σ.lists b

theorem Known.init : Known {} :=
  ⟨fun _ _ _ h => by simp at h, fun _ _ h => h.elim⟩

theorem Known.setPhase (h : Known σ) (c : ClientId) (phase : RequesterPhase)
    (hphase : ∀ b, phase.names b → σ.lists b) : Known (σ.setPhase c phase) := by
  refine ⟨h.entries, fun c' b hb => ?_⟩
  simp only [Bridges.setPhase, Function.update_apply] at hb
  split at hb
  · exact hphase b hb
  · exact h.clients c' b hb

theorem Known.setRequests (h : Known σ) {requests : Table Key ActiveRequest}
    (hr : ∀ key r b, requests.lookup key = some r → b ∈ r.entries → σ.lists b) :
    Known { σ with requests := requests } :=
  ⟨hr, h.clients⟩

theorem Known.insertRequest (h : Known σ) (key : Key) {r : ActiveRequest}
    (hr : ∀ b ∈ r.entries, σ.lists b) : Known { σ with requests := σ.requests.insert key r } := by
  refine h.setRequests fun key' r' b hr' hb => ?_
  rw [Table.lookup_insert_ite] at hr'
  split at hr'
  · cases hr'
    exact hr b hb
  · exact h.entries key' r' b hr' hb

theorem Known.storeResults (h : Known σ) (c : ClientId) {r : ActiveRequest}
    {tmp : Table BridgeId HandleId} (hr : ∀ b ∈ r.entries, σ.lists b)
    (htmp : ∀ b ∈ tmp, σ.lists b) : Known (σ.storeResults c r tmp) := by
  have hstored := h.insertRequest (σ.clients c).key (r := { r with entries := r.entries ∪ tmp })
    fun b hb => (AList.mem_union.1 hb).elim (hr b) (htmp b)
  have hphase := hstored.setPhase c .requesting fun _ hb => hb.elim
  exact ⟨hphase.entries, hphase.clients⟩

theorem Known.ownRequest (h : Known σ) (c : ClientId) (key : Key) :
    ∀ b ∈ (σ.ownRequest c key).entries, σ.lists b := by
  intro b hb
  obtain ⟨n, hn⟩ := Table.mem_keys_iff_lookup.1 hb
  obtain ⟨r, hr, hn⟩ := lookup_entries_ownRequest hn
  exact h.entries key r b hr (Table.mem_keys_iff_lookup.2 ⟨n, hn⟩)

theorem Known.joinRequest (h : Known σ) (c : ClientId) : Known (σ.joinRequest c) := by
  have hinsert := h.insertRequest (σ.clients c).key (h.ownRequest c (σ.clients c).key)
  exact ⟨hinsert.entries, hinsert.clients⟩

theorem Known.ask (h : Known σ) (b : BridgeId) (key : Key) : Known (σ.ask b key) :=
  ⟨h.entries, h.clients⟩

theorem Known.step (h : Known σ) (hlisted : Listed σ) (hok : σ.stopsUnused label)
    (hstep : Step σ label σ') : Known σ' := by
  cases hstep with
  | serverChanged => exact ⟨h.entries, h.clients⟩
  | refused => exact h
  | made c key phase habsent hfree hphase =>
      refine ⟨h.entries, fun c' b hb => ?_⟩
      simp only [Function.update_apply] at hb
      split at hb
      · rcases hphase with rfl | rfl <;> exact hb.elim
      · exact h.clients c' b hb
  | began c b rest hphase hnext =>
      obtain ⟨hb, hrest⟩ := map_fst_of_nextForwarded hnext
      refine (h.joinRequest c).setPhase c _ fun b' hb' => ?_
      rcases hb' with rfl | hb' | hb'
      · exact hb
      · exact hrest b' hb'
      · exact (AList.notMem_empty b' hb').elim
  | joined c hphase hnext =>
      exact (h.joinRequest c).storeResults c (h.ownRequest c _)
        fun b hb => (AList.notMem_empty b hb).elim
  | answered c b rest tmp hphase =>
      have hnames : ∀ b', (RequesterPhase.calling b rest tmp).names b' → σ.lists b' :=
        fun b' hb' => h.clients c b' (hphase ▸ hb')
      refine (h.ask b _).setPhase c _ fun b' hb' => ?_
      rcases hb' with hb' | hb'
      · exact hnames b' (.inr (.inl hb'))
      · rcases (AList.mem_insert _).1 hb' with rfl | hb'
        · exact hnames _ (.inl rfl)
        · exact hnames b' (.inr (.inr hb'))
  | resumed c b rest rest' tmp r hphase hr hnext =>
      have hnames : ∀ b', (RequesterPhase.called rest tmp).names b' → σ.lists b' :=
        fun b' hb' => h.clients c b' (hphase ▸ hb')
      obtain ⟨hb, hrest⟩ := map_fst_of_nextForwarded hnext
      refine h.setPhase c _ fun b' hb' => ?_
      rcases hb' with rfl | hb' | hb'
      · exact hnames b' (.inl hb)
      · exact hnames b' (.inl (hrest b' hb'))
      · exact hnames b' (.inr hb')
  | stored c rest tmp r hphase hr hnext =>
      exact h.storeResults c (fun b hb => h.entries _ r b hr hb)
        fun b hb => h.clients c b (hphase ▸ .inr hb)
  | left c phase hphase =>
      have hrecord : Known (σ.setRecord (recordKey (σ.clients c).key)
          (σ.records (recordKey (σ.clients c).key)).resetClient) :=
        ⟨h.entries, h.clients⟩
      refine hrecord.setPhase c _ fun b hb => ?_
      rcases hphase with ⟨-, rfl⟩ | ⟨-, rfl⟩ <;> exact hb.elim
  | released c r hphase hr =>
      have hinsert := h.insertRequest (σ.clients c).key (r := { r with
          owners := r.owners.erase c
          entries := if r.owners.erase c = ∅ then ∅ else r.entries }) fun b hb => by
        dsimp only at hb
        split at hb
        · simp at hb
        · exact h.entries _ r b hr hb
      have hphase' := hinsert.setPhase c .released fun _ hb => hb.elim
      exact ⟨hphase'.entries, hphase'.clients⟩
  | cleaned c hphase =>
      have hphase' := h.setPhase c .destroyed fun _ hb => hb.elim
      exact ⟨fun key r b hr hb => h.entries key r b (lookup_of_cleanupKey hr) hb, hphase'.clients⟩
  | registered b identity place habsent =>
      have hlists := lists_registerServiceBridge σ b identity place
      exact ⟨fun key r b' hr hb => (hlists b').2 (.inr (h.entries key r b' hr hb)),
        fun c b' hb => (hlists b').2 (.inr (h.clients c b' hb))⟩
  | called => exact ⟨h.entries, h.clients⟩
  | merged b results done hphase =>
      refine ⟨fun key r b' hr hb' => ?_, h.clients⟩
      rw [lookup_mergeResults, Option.map_eq_some_iff] at hr
      obtain ⟨r', hr', rfl⟩ := hr
      obtain ⟨n, hn⟩ := Table.mem_keys_iff_lookup.1 hb'
      rcases lookup_entries_mergedRequest hn with hold | ⟨rfl, -⟩
      · exact h.entries key r' b' hr' (Table.mem_keys_iff_lookup.2 ⟨n, hold⟩)
      · exact (hlisted.bridges b').2 (by rw [hphase]; rfl)
  | stopped b hphase =>
      have hlists := lists_stopRegistration σ b
      refine ⟨fun key r b' hr hb => (hlists b').2 ?_, fun c b' hb => (hlists b').2 ⟨?_, ?_⟩⟩
      · rw [lookup_stopRegistration, Option.map_eq_some_iff] at hr
        obtain ⟨r', hr', rfl⟩ := hr
        obtain ⟨hne, hb⟩ := AList.mem_erase.1 hb
        exact ⟨hne, h.entries key r' b' hr' hb⟩
      · rintro rfl
        exact hok c hb
      · exact h.clients c b' hb

theorem Known.reachable (h : Reach next stopsUnused {} σ) : Known σ :=
  h.invariant_of_reach .init fun _ _ _ hreach hknown hok hnext =>
    hknown.step (.reachable hreach) hok (step_of_next hnext)

/-! ## Stopped bridges -/

/-- A bridge that has stopped does not come back. -/
theorem stopped_of_step {b : BridgeId} (h : σ.bridges b = .stopped) (hstep : Step σ label σ') :
    σ'.bridges b = .stopped := by
  have hset : ∀ (b' : BridgeId) (phase : BridgePhase), σ.bridges b' ≠ .stopped →
      Function.update σ.bridges b' phase b = .stopped := by
    intro b' phase hb'
    rw [Function.update_of_ne (by rintro rfl; exact hb' h)]
    exact h
  cases hstep with
  | serverChanged | refused | made | began | joined | answered | resumed | stored | left | released
  | cleaned => exact h
  | registered b' _ _ habsent => exact hset b' _ (by simp [habsent])
  | called b' _ _ _ _ hphase => exact hset b' _ (by simp [hphase])
  | merged b' _ _ hphase => exact hset b' _ (by simp [hphase])
  | stopped b' hphase => exact hset b' _ (by simp [hphase])

/-- After `stop_registration` no map has an entry for the bridge, then or later. -/
theorem no_entry_after_stopRegistration {b : BridgeId} {later : Bridges} (key : Key)
    {r : ActiveRequest} (h : Reach next stopsUnused {} σ) (hok : σ.stopsUnused (.stopRegistration b))
    (hstop : σ.next (.stopRegistration b) = some σ') (hlater : Reach next stopsUnused σ' later)
    (hr : later.requests.lookup key = some r) : b ∉ r.entries := by
  have hstopped : later.bridges b = .stopped := by
    refine hlater.invariant (I := fun s => s.bridges b = .stopped) ?_
      fun _ _ _ hs _ hnext => stopped_of_step hs (step_of_next hnext)
    cases step_of_next hstop
    simp [stopRegistration, Bridges.setBridge]
  have hreach := (h.step hok hstop).trans hlater
  intro hb
  have hlisted := ((Listed.reachable hreach).bridges b).1
    ((Known.reachable hreach).entries key r b hr hb)
  simp [hstopped, BridgePhase.isRegistered] at hlisted

/-- A bridge that a client has asked stops after the client has returned. -/
theorem no_entry_once_stopped :
    ∃ σ σ' r, Reach next stopsUnused {} σ ∧ σ.next (.stopRegistration 0) = some σ' ∧
      (σ.requests.lookup (someKey 0)).any (fun r => 0 ∈ r.entries) = true ∧
      σ'.requests.lookup (someKey 0) = some r ∧ 0 ∉ r.entries := by
  have hrun : Reach next stopsUnused {} _ :=
    ((((((Reach.init.step (a := .registerServiceBridge 0 7 0) trivial rfl).step
      (a := .mergeResults 0) trivial rfl).step
      (a := .makeClientConnector 0 (someKey 0)) trivial rfl).step
      (a := .getBridgeRequests 0) trivial rfl).step (a := .requestService 0) trivial rfl).step
      (a := .resume 0) trivial rfl)
  refine ⟨_, _, _, hrun, rfl, by decide, rfl,
    no_entry_after_stopRegistration (someKey 0) hrun (fun c => ?_) rfl .init rfl⟩
  cases c with
  | zero => exact id
  | succ c => exact id

/-- The bridge stops between its answer to a client and the section in which the
client stores the answer. -/
theorem entry_after_stopRegistration :
    ∃ σ, Reach next (fun _ _ => True) {} σ ∧
      (σ.bridges 0 = .stopped ∧
        (σ.requests.lookup (someKey 0)).any (fun r => 0 ∈ r.entries ∧ r.owners ≠ ∅) = true) :=
  (exists_reach_of_runFrom next (fun _ _ => True) {}
    [.registerServiceBridge 0 7 0, .mergeResults 0, .makeClientConnector 0 (someKey 0),
      .getBridgeRequests 0, .requestService 0, .stopRegistration 0, .resume 0]
    (fun σ => σ.bridges 0 = .stopped ∧
      (σ.requests.lookup (someKey 0)).any (fun r => 0 ∈ r.entries ∧ r.owners ≠ ∅) = true)
    (by decide)).imp fun σ h => ⟨h.1, of_decide_eq_true h.2⟩

end Bridges

end Socom

end SomeipGateway
