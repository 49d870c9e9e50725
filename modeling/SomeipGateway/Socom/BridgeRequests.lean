import SomeipGateway.Socom.BridgeStop

/-! # The requests of clients and their handles

What the lock sections keep whatever their order: who has the place in a record,
who owns a request, and which call each handle comes from.
-/

namespace SomeipGateway

namespace Socom

namespace RequesterPhase

def holdsRecord : RequesterPhase → Bool
  | .registered | .calling .. | .called .. | .requesting | .served => true
  | .absent | .unregistered | .released | .destroyed => false

def isAsking : RequesterPhase → Bool
  | .calling .. | .called .. => true
  | _ => false

def owns : RequesterPhase → Bool
  | .calling .. | .called .. | .requesting | .unregistered => true
  | _ => false

/-- The bridges that the loop of the client has yet to call. -/
def due : RequesterPhase → List BridgeId
  | .calling b rest _ => b :: rest.map Prod.fst
  | .called rest _ => rest.map Prod.fst
  | _ => []

/-- The results of the loop. -/
def results : RequesterPhase → Table BridgeId HandleId
  | .calling _ _ tmp | .called _ tmp => tmp
  | _ => ∅

theorem holdsRecord_of_isAsking {phase : RequesterPhase} (h : phase.isAsking = true) :
    phase.holdsRecord = true := by
  cases phase <;> simp_all [isAsking, holdsRecord]

theorem owns_of_isAsking {phase : RequesterPhase} (h : phase.isAsking = true) :
    phase.owns = true := by
  cases phase <;> simp_all [isAsking, owns]

end RequesterPhase

namespace BridgePhase

def toDo : BridgePhase → List Key
  | .registering toDo _ _ => toDo
  | _ => []

def results : BridgePhase → Table Key HandleId
  | .registering _ results _ => results
  | _ => ∅

end BridgePhase

/-! ## The record of subscribers -/

theorem isForwardSubscription_replicate (n : Nat) (identity : BridgeIdentity) :
    isForwardSubscription none identity (List.replicate (n + 1) none) = decide (n = 0) := by
  cases n <;> simp [isForwardSubscription, List.mem_replicate]

/-- The first client of a request asks every bridge of its copy, and the clients that
join it ask none. -/
theorem nextForwarded_replicate (n : Nat) (bridges : List (BridgeId × BridgeIdentity)) :
    nextForwarded (List.replicate (n + 1) none) bridges =
      if n = 0 then bridges.head?.map fun bridge => (bridge.1, bridges.tail) else none := by
  induction bridges with
  | nil => simp [nextForwarded]
  | cons bridge rest ih =>
      rw [nextForwarded, isForwardSubscription_replicate, ih]
      by_cases hn : n = 0 <;> simp [hn]

theorem nextForwarded_replicate_eq_some {n : Nat} {bridges rest : List (BridgeId × BridgeIdentity)}
    {b : BridgeId} (h : nextForwarded (List.replicate (n + 1) none) bridges = some (b, rest)) :
    n = 0 ∧ ∃ identity, bridges = (b, identity) :: rest := by
  rw [nextForwarded_replicate] at h
  split at h
  next hn =>
    cases bridges with
    | nil => cases h
    | cons bridge tail =>
        cases h
        exact ⟨hn, bridge.2, rfl⟩
  next => cases h

namespace Bridges

variable {σ σ' : Bridges} {label : Label}

theorem mergedPhase_results (results : Table Key HandleId) (done : Finset Key) :
    (σ.mergedPhase results done).results = ∅ := by
  unfold mergedPhase
  split <;> rfl

theorem nodup_toDo_mergedPhase (results : Table Key HandleId) (done : Finset Key) :
    (σ.mergedPhase results done).toDo.Nodup := by
  unfold mergedPhase
  split
  · exact List.nodup_nil
  · exact σ.requests.keys_nodup.filter _

/-! ## Who has the place in a record -/

def Slots (σ : Bridges) : Prop :=
  ∀ c, (σ.clients c).phase.holdsRecord = true →
    (σ.records (recordKey (σ.clients c).key)).client.map Interfaced.connector = some c

theorem Slots.unique (h : Slots σ) {c c' : ClientId} (hkey : (σ.clients c).key = (σ.clients c').key)
    (hc : (σ.clients c).phase.holdsRecord = true) (hc' : (σ.clients c').phase.holdsRecord = true) :
    c = c' := by
  have hrecord := h c hc
  rw [hkey, h c' hc'] at hrecord
  exact (Option.some.inj hrecord).symm

theorem Slots.setPhase (h : Slots σ) (c : ClientId) (phase : RequesterPhase)
    (hphase : phase.holdsRecord = true → (σ.clients c).phase.holdsRecord = true) :
    Slots (σ.setPhase c phase) := by
  intro c' hc'
  by_cases hc : c' = c
  · subst hc
    simp only [Bridges.setPhase, Function.update_self] at hc' ⊢
    exact h c' (hphase hc')
  · simp only [Bridges.setPhase, Function.update_of_ne hc] at hc' ⊢
    exact h c' hc'

theorem Slots.step (h : Slots σ) (hstep : Step σ label σ') : Slots σ' := by
  cases hstep with
  | serverChanged key server =>
      intro c hc
      simp only [Bridges.setRecord, Function.update_apply]
      split
      next heq =>
        rw [← heq]
        exact h c hc
      next => exact h c hc
  | refused | called | merged | stopped | registered => exact h
  | made c key phase habsent hfree hphase =>
      intro c' hc'
      by_cases hc : c' = c
      · subst hc
        simp [Bridges.setRecord]
      · simp only [Bridges.setRecord, Function.update_of_ne hc] at hc' ⊢
        have hrecord := h c' hc'
        rw [Function.update_of_ne]
        · exact hrecord
        · intro heq
          simp [heq, hfree] at hrecord
  | began c b rest hphase hnext =>
      exact Slots.setPhase (σ := σ.joinRequest c) h c _ fun _ => by simp [joinRequest, hphase,
        RequesterPhase.holdsRecord]
  | joined c hphase hnext =>
      exact Slots.setPhase (σ := σ.joinRequest c) h c _ fun _ => by simp [joinRequest, hphase,
        RequesterPhase.holdsRecord]
  | answered c b rest tmp hphase =>
      exact Slots.setPhase (σ := σ.ask b _) h c _ fun _ => by simp [Bridges.ask, hphase,
        RequesterPhase.holdsRecord]
  | resumed c b rest rest' tmp r hphase hr hnext =>
      exact h.setPhase c _ fun _ => by simp [hphase, RequesterPhase.holdsRecord]
  | stored c rest tmp r hphase hr hnext =>
      exact h.setPhase c .requesting fun _ => by simp [hphase, RequesterPhase.holdsRecord]
  | left c phase hphase =>
      intro c' hc'
      by_cases hc : c' = c
      · subst hc
        rcases hphase with ⟨-, rfl⟩ | ⟨-, rfl⟩ <;>
          simp [Bridges.setPhase, RequesterPhase.holdsRecord] at hc'
      · simp only [Bridges.setPhase, Bridges.setRecord, Function.update_of_ne hc] at hc' ⊢
        have hrecord := h c' hc'
        have hown : (σ.records (recordKey (σ.clients c).key)).client.map Interfaced.connector =
            some c := by
          refine h c ?_
          rcases hphase with ⟨hphase, -⟩ | ⟨hphase, -⟩ <;> simp [hphase, RequesterPhase.holdsRecord]
        rw [Function.update_of_ne]
        · exact hrecord
        · intro heq
          rw [heq, hown] at hrecord
          exact hc (Option.some.inj hrecord).symm
  | released c r hphase hr => exact h.setPhase c .released fun hc => by cases hc
  | cleaned c hphase => exact h.setPhase c .destroyed fun hc => by cases hc

/-! ## Who owns a request -/

structure Owned (σ : Bridges) : Prop where
  owner : ∀ c, (σ.clients c).phase.owns = true →
    ∃ r, σ.requests.lookup (σ.clients c).key = some r ∧ c ∈ r.owners
  subscribers : ∀ key r, σ.requests.lookup key = some r →
    ∃ n, r.subscribers = List.replicate (n + 1) none
  first : ∀ c r, (σ.clients c).phase.isAsking = true →
    σ.requests.lookup (σ.clients c).key = some r → r.subscribers = [none]

theorem Owned.setPhase (h : Owned σ) (c : ClientId) (phase : RequesterPhase)
    (howns : phase.owns = true → ∃ r, σ.requests.lookup (σ.clients c).key = some r ∧ c ∈ r.owners)
    (hasking : phase.isAsking = true → ∀ r, σ.requests.lookup (σ.clients c).key = some r →
      r.subscribers = [none]) : Owned (σ.setPhase c phase) := by
  refine ⟨fun c' hc' => ?_, h.subscribers, fun c' r hc' hr => ?_⟩
  · rw [setPhase_phase] at hc'
    rw [setPhase_key]
    split at hc'
    next heq => exact heq ▸ howns hc'
    next => exact h.owner c' hc'
  · rw [setPhase_phase] at hc'
    rw [setPhase_key] at hr
    split at hc'
    next heq => exact hasking hc' r (heq ▸ hr)
    next => exact h.first c' r hc' hr

theorem Owned.mapRequests (h : Owned σ) (requests : Table Key ActiveRequest)
    (f : Key → ActiveRequest → ActiveRequest)
    (hlookup : ∀ key, requests.lookup key = (σ.requests.lookup key).map (f key))
    (hf : ∀ key r, (f key r).owners = r.owners ∧ (f key r).subscribers = r.subscribers) :
    Owned { σ with requests := requests } := by
  refine ⟨fun c hc => ?_, fun key r hr => ?_, fun c r hc hr => ?_⟩
  · obtain ⟨r, hr, hmem⟩ := h.owner c hc
    exact ⟨f _ r, by rw [hlookup, hr]; rfl, (hf _ r).1 ▸ hmem⟩
  · rw [hlookup, Option.map_eq_some_iff] at hr
    obtain ⟨r', hr', rfl⟩ := hr
    rw [(hf key r').2]
    exact h.subscribers key r' hr'
  · rw [hlookup, Option.map_eq_some_iff] at hr
    obtain ⟨r', hr', rfl⟩ := hr
    rw [(hf _ r').2]
    exact h.first c r' hc hr'

theorem Owned.locked (h : Owned σ) {c : ClientId} (hc : (σ.clients c).phase.owns = true) :
    ∃ r, σ.locked (σ.clients c).key = some r ∧ c ∈ r.owners := by
  obtain ⟨r, hr, hmem⟩ := h.owner c hc
  exact ⟨r, locked_eq_some.2 ⟨hr, Finset.ne_empty_of_mem hmem⟩, hmem⟩

theorem mem_owners_ownRequest (σ : Bridges) (c : ClientId) (key : Key) :
    c ∈ (σ.ownRequest c key).owners := by
  unfold ownRequest
  split <;> simp

theorem Owned.subscribers_ownRequest (h : Owned σ) (c : ClientId) (key : Key) :
    ∃ n, (σ.ownRequest c key).subscribers = List.replicate (n + 1) none := by
  unfold ownRequest
  split
  next r hr =>
    obtain ⟨n, hn⟩ := h.subscribers key r (locked_eq_some.1 hr).1
    exact ⟨n + 1, by rw [hn, ← List.replicate_succ']⟩
  next => exact ⟨0, rfl⟩

/-- Only the clients that are registered count as the owners of the request. -/
theorem Owned.joinRequest (h : Owned σ) (hslots : Slots σ) {c : ClientId}
    (hphase : (σ.clients c).phase = .registered) : Owned (σ.joinRequest c) := by
  refine ⟨fun c' hc' => ?_, fun key r hr => ?_, fun c' r hc' hr => ?_⟩
  · rw [lookup_joinRequest]
    split
    next heq =>
      refine ⟨_, rfl, ?_⟩
      obtain ⟨r, hr, hmem⟩ := h.locked hc'
      have hr' : σ.locked ((σ.joinRequest c).clients c').key = some r := hr
      simp only [ownRequest, hr']
      exact Finset.mem_insert_of_mem hmem
    next => exact h.owner c' hc'
  · rw [lookup_joinRequest] at hr
    split at hr
    · cases hr
      exact h.subscribers_ownRequest c key
    · exact h.subscribers key r hr
  · rw [lookup_joinRequest] at hr
    split at hr
    next heq =>
      have hc : c' = c := hslots.unique heq (RequesterPhase.holdsRecord_of_isAsking hc')
        (by simp [hphase, RequesterPhase.holdsRecord])
      subst hc
      rw [show ((σ.joinRequest c').clients c').phase = .registered from hphase] at hc'
      cases hc'
    next => exact h.first c' r hc' hr

theorem Owned.storeResults (h : Owned σ) (c : ClientId) {r : ActiveRequest}
    (tmp : Table BridgeId HandleId) (hr : σ.requests.lookup (σ.clients c).key = some r)
    (hc : c ∈ r.owners) : Owned (σ.storeResults c r tmp) := by
  have hmapped := (h.setPhase c .requesting (fun _ => ⟨r, hr, hc⟩) fun hasking => by
    cases hasking).mapRequests (σ.storeResults c r tmp).requests
    (fun key r' => if key = (σ.clients c).key then { r' with entries := r.entries ∪ tmp } else r')
    (fun key => ?_) fun key r' => ?_
  · exact ⟨hmapped.owner, hmapped.subscribers, hmapped.first⟩
  · rw [lookup_storeResults]
    change _ = Option.map _ (σ.requests.lookup key)
    by_cases hkey : key = (σ.clients c).key
    · rw [hkey, hr]
      simp
    · simp [hkey]
  · split <;> exact ⟨rfl, rfl⟩

theorem Owned.step (h : Owned σ) (hslots : Slots σ) (hstep : Step σ label σ') : Owned σ' := by
  cases hstep with
  | serverChanged | refused | registered | called => exact ⟨h.owner, h.subscribers, h.first⟩
  | made c key phase habsent hfree hphase =>
      have hphase' : phase.owns = false ∧ phase.isAsking = false := by
        rcases hphase with rfl | rfl <;> exact ⟨rfl, rfl⟩
      refine ⟨fun c' hc' => ?_, h.subscribers, fun c' r hc' hr => ?_⟩
      · by_cases hc : c' = c
        · subst hc
          simp [hphase'.1] at hc'
        · dsimp only at hc' ⊢
          rw [Function.update_of_ne hc] at hc' ⊢
          exact h.owner c' hc'
      · by_cases hc : c' = c
        · subst hc
          simp [hphase'.2] at hc'
        · dsimp only at hc' hr
          rw [Function.update_of_ne hc] at hc' hr
          exact h.first c' r hc' hr
  | began c b rest hphase hnext =>
      have hjoined := h.joinRequest hslots hphase
      have hlookup := lookup_joinRequest_self σ c
      refine hjoined.setPhase c _ (fun _ => ⟨_, hlookup, mem_owners_ownRequest ..⟩) fun _ r hr => ?_
      rw [hlookup] at hr
      cases hr
      obtain ⟨n, hn⟩ := h.subscribers_ownRequest c (σ.clients c).key
      rw [hn] at hnext ⊢
      rw [(nextForwarded_replicate_eq_some hnext).1]
      rfl
  | joined c hphase hnext =>
      exact (h.joinRequest hslots hphase).storeResults c ∅ (lookup_joinRequest_self σ c)
        (mem_owners_ownRequest ..)
  | answered c b rest tmp hphase =>
      have hasked : Owned (σ.ask b (σ.clients c).key) := ⟨h.owner, h.subscribers, h.first⟩
      have hasking : (σ.clients c).phase.isAsking = true := by rw [hphase]; rfl
      exact hasked.setPhase c _ (fun _ => h.owner c (RequesterPhase.owns_of_isAsking hasking))
        fun _ r hr => h.first c r hasking hr
  | resumed c b rest rest' tmp r hphase hr hnext =>
      have hasking : (σ.clients c).phase.isAsking = true := by rw [hphase]; rfl
      exact h.setPhase c _ (fun _ => h.owner c (RequesterPhase.owns_of_isAsking hasking))
        fun _ r hr => h.first c r hasking hr
  | stored c rest tmp r hphase hr hnext =>
      obtain ⟨r', hr', hc⟩ := h.owner c (by rw [hphase]; rfl)
      rw [hr] at hr'
      cases hr'
      exact h.storeResults c tmp hr hc
  | left c phase hphase =>
      have hrecord : Owned (σ.setRecord (recordKey (σ.clients c).key)
          (σ.records (recordKey (σ.clients c).key)).resetClient) :=
        ⟨h.owner, h.subscribers, h.first⟩
      refine hrecord.setPhase c _ (fun howns => ?_) fun hasking => ?_
      · rcases hphase with ⟨hphase, rfl⟩ | ⟨hphase, rfl⟩
        · exact h.owner c (by rw [hphase]; rfl)
        · cases howns
      · rcases hphase with ⟨-, rfl⟩ | ⟨-, rfl⟩ <;> cases hasking
  | released c r hphase hr =>
      have hkey : ∀ c', ((σ.releaseRequest c r).clients c').key = (σ.clients c').key :=
        fun c' => setPhase_key σ c c' .released
      have hphases : ∀ c', ((σ.releaseRequest c r).clients c').phase =
          if c' = c then .released else (σ.clients c').phase :=
        fun c' => setPhase_phase σ c c' .released
      refine ⟨fun c' hc' => ?_, fun key r' hr' => ?_, fun c' r' hc' hr' => ?_⟩
      · rw [hphases] at hc'
        split at hc'
        · cases hc'
        next hc =>
          obtain ⟨r', hr', hmem⟩ := h.owner c' hc'
          rw [lookup_releaseRequest, hkey]
          split
          next heq =>
            rw [heq, hr] at hr'
            cases hr'
            exact ⟨_, rfl, Finset.mem_erase.2 ⟨hc, hmem⟩⟩
          next => exact ⟨r', hr', hmem⟩
      · rw [lookup_releaseRequest] at hr'
        split at hr'
        · cases hr'
          exact h.subscribers _ r hr
        · exact h.subscribers key r' hr'
      · rw [hphases] at hc'
        split at hc'
        · cases hc'
        next hc =>
          rw [lookup_releaseRequest, hkey] at hr'
          split at hr'
          next heq =>
            cases hr'
            exact h.first c' r hc' (heq ▸ hr)
          next => exact h.first c' r' hc' hr'
  | cleaned c hphase =>
      have hset := h.setPhase c .destroyed (fun howns => by cases howns) fun hasking => by
        cases hasking
      refine ⟨fun c' hc' => ?_, fun key r hr => h.subscribers key r (lookup_of_cleanupKey hr),
        fun c' r hc' hr => ?_⟩
      · obtain ⟨r, hr, hmem⟩ := hset.owner c' hc'
        exact ⟨r, lookup_cleanupKey hr (Finset.ne_empty_of_mem hmem), hmem⟩
      · have hr' := lookup_of_cleanupKey (σ := σ) (c := c) hr
        exact hset.first c' r hc' hr'
  | merged b results done hphase =>
      have hmapped := h.mapRequests _ (σ.mergedRequest b results)
        (lookup_mergeResults σ b results done) fun key r =>
          ⟨(mergedRequest_owners b results key r).1, (mergedRequest_owners b results key r).2.1⟩
      exact ⟨hmapped.owner, hmapped.subscribers, hmapped.first⟩
  | stopped b hphase =>
      have hmapped := h.mapRequests _ (fun _ r => { r with entries := r.entries.erase b })
        (lookup_stopRegistration σ b) fun _ _ => ⟨rfl, rfl⟩
      exact ⟨hmapped.owner, hmapped.subscribers, hmapped.first⟩

/-! ## Where the handles come from -/

theorem getElem?_concat_eq_some {α : Type} {l : List α} {x y : α} {n : Nat} :
    (l ++ [y])[n]? = some x ↔ l[n]? = some x ∨ n = l.length ∧ y = x := by
  rcases Nat.lt_trichotomy n l.length with hlt | heq | hgt
  · simp [List.getElem?_append_left hlt, Nat.ne_of_lt hlt]
  · simp [heq]
  · have hnone : l[n]? = none := List.getElem?_eq_none (by omega)
    have hnone' : (l ++ [y])[n]? = none := List.getElem?_eq_none (by simp; omega)
    simp [hnone, hnone', Nat.ne_of_gt hgt]

/-- The handle is the answer of the bridge for the key. -/
def answers (σ : Bridges) (b : BridgeId) (key : Key) (h : HandleId) : Prop :=
  ∃ epoch, σ.asked[h]? = some ⟨b, key, epoch⟩

structure Handles (σ : Bridges) : Prop where
  bridges : ∀ b key h, (σ.bridges b).results.lookup key = some h → σ.answers b key h
  clients : ∀ c b h, (σ.clients c).phase.results.lookup b = some h →
    σ.answers b (σ.clients c).key h
  entries : ∀ key r b h, σ.requests.lookup key = some r → r.entries.lookup b = some h →
    σ.answers b key h
  dropped : ∀ h ∈ σ.dropped, h < σ.asked.length

theorem answers_ask {b b' : BridgeId} {key key' : Key} {h : HandleId} (hh : σ.answers b key h) :
    (σ.ask b' key').answers b key h := by
  obtain ⟨epoch, hepoch⟩ := hh
  exact ⟨epoch, getElem?_concat_eq_some.2 (.inl hepoch)⟩

theorem answers_ask_self (σ : Bridges) (b : BridgeId) (key : Key) :
    (σ.ask b key).answers b key σ.asked.length :=
  ⟨_, getElem?_concat_eq_some.2 (.inr ⟨rfl, rfl⟩)⟩

theorem lt_of_answers {b : BridgeId} {key : Key} {h : HandleId} (hh : σ.answers b key h) :
    h < σ.asked.length := by
  obtain ⟨epoch, hepoch⟩ := hh
  exact (List.getElem?_eq_some_iff.1 hepoch).1

theorem answers_unique {b b' : BridgeId} {key key' : Key} {h : HandleId}
    (hh : σ.answers b key h) (hh' : σ.answers b' key' h) : b = b' ∧ key = key' := by
  obtain ⟨epoch, hepoch⟩ := hh
  obtain ⟨epoch', hepoch'⟩ := hh'
  rw [hepoch] at hepoch'
  cases hepoch'
  exact ⟨rfl, rfl⟩

theorem Handles.setPhase (h : Handles σ) (c : ClientId) (phase : RequesterPhase)
    (hphase : ∀ b n, phase.results.lookup b = some n → σ.answers b (σ.clients c).key n) :
    Handles (σ.setPhase c phase) := by
  refine ⟨h.bridges, fun c' b n hn => ?_, h.entries, h.dropped⟩
  rw [setPhase_phase] at hn
  rw [setPhase_key]
  split at hn
  next heq => exact heq ▸ hphase b n hn
  next => exact h.clients c' b n hn

theorem Handles.setBridge (h : Handles σ) (b : BridgeId) (phase : BridgePhase)
    (hphase : ∀ key n, phase.results.lookup key = some n → σ.answers b key n) :
    Handles (σ.setBridge b phase) := by
  refine ⟨fun b' key n hn => ?_, h.clients, h.entries, h.dropped⟩
  simp only [Bridges.setBridge, Function.update_apply] at hn
  split at hn
  next heq => exact heq ▸ hphase key n hn
  next => exact h.bridges b' key n hn

theorem Handles.ask (h : Handles σ) (b : BridgeId) (key : Key) : Handles (σ.ask b key) := by
  refine ⟨fun b' key' n hn => answers_ask (h.bridges b' key' n hn),
    fun c b' n hn => answers_ask (h.clients c b' n hn),
    fun key' r b' n hr hn => answers_ask (h.entries key' r b' n hr hn), fun n hn => ?_⟩
  simpa [Bridges.ask] using Nat.lt_succ_of_lt (h.dropped n hn)

theorem Handles.joinRequest (h : Handles σ) (c : ClientId) : Handles (σ.joinRequest c) := by
  refine ⟨h.bridges, h.clients, fun key r b n hr hn => ?_, h.dropped⟩
  rw [lookup_joinRequest] at hr
  split at hr
  · cases hr
    obtain ⟨r, hr, hn⟩ := lookup_entries_ownRequest hn
    exact h.entries key r b n hr hn
  · exact h.entries key r b n hr hn

theorem mem_map_snd_entries {α β : Type} {t : Table α β} {v : β}
    (h : v ∈ t.entries.map Sigma.snd) : ∃ a, ⟨a, v⟩ ∈ t.entries := by
  obtain ⟨e, he, rfl⟩ := List.mem_map.1 h
  exact ⟨e.1, he⟩

theorem mem_dropped_storeResults {c : ClientId} {r : ActiveRequest}
    {tmp : Table BridgeId HandleId} {n : HandleId} :
    n ∈ (σ.storeResults c r tmp).dropped ↔
      n ∈ σ.dropped ∨ ∃ b, tmp.lookup b = some n ∧ b ∈ r.entries := by
  simp only [storeResults, Finset.mem_union, List.mem_toFinset, List.mem_map, List.mem_filter,
    decide_eq_true_eq]
  refine or_congr_right ⟨?_, ?_⟩
  · rintro ⟨e, ⟨he, hb⟩, rfl⟩
    exact ⟨e.1, Table.lookup_eq_some_of_mem he, hb⟩
  · rintro ⟨b, hn, hb⟩
    exact ⟨⟨b, n⟩, ⟨Table.mem_of_lookup_eq_some hn, hb⟩, rfl⟩

theorem mem_dropped_releaseRequest {c : ClientId} {r : ActiveRequest} {n : HandleId} :
    n ∈ (σ.releaseRequest c r).dropped ↔
      n ∈ σ.dropped ∨ r.owners.erase c = ∅ ∧ ∃ b, r.entries.lookup b = some n := by
  simp only [releaseRequest, Finset.mem_union]
  refine or_congr_right ?_
  split
  next hempty =>
    simp only [List.mem_toFinset, hempty, true_and]
    constructor
    · intro hn
      obtain ⟨b, hb⟩ := mem_map_snd_entries hn
      exact ⟨b, Table.lookup_eq_some_of_mem hb⟩
    · rintro ⟨b, hb⟩
      exact List.mem_map.2 ⟨⟨b, n⟩, Table.mem_of_lookup_eq_some hb, rfl⟩
  next hempty => simp [hempty]

theorem mem_dropped_mergeResults {b : BridgeId} {results : Table Key HandleId} {done : Finset Key}
    {n : HandleId} :
    n ∈ (σ.mergeResults b results done).dropped ↔
      n ∈ σ.dropped ∨ ∃ key, results.lookup key = some n ∧ σ.accepts b key = false := by
  simp only [mergeResults, Finset.mem_union, List.mem_toFinset, List.mem_map, List.mem_filter,
    Bool.not_eq_true']
  refine or_congr_right ⟨?_, ?_⟩
  · rintro ⟨e, ⟨he, hkey⟩, rfl⟩
    exact ⟨e.1, Table.lookup_eq_some_of_mem he, hkey⟩
  · rintro ⟨key, hn, hkey⟩
    exact ⟨⟨key, n⟩, ⟨Table.mem_of_lookup_eq_some hn, hkey⟩, rfl⟩

theorem mem_dropped_stopRegistration {b : BridgeId} {n : HandleId} :
    n ∈ (σ.stopRegistration b).dropped ↔
      n ∈ σ.dropped ∨ ∃ key r, σ.requests.lookup key = some r ∧ r.entries.lookup b = some n := by
  simp only [stopRegistration, Finset.mem_union, List.mem_toFinset, List.mem_filterMap]
  refine or_congr_right ⟨?_, ?_⟩
  · rintro ⟨e, he, hn⟩
    exact ⟨e.1, e.2, Table.lookup_eq_some_of_mem he, hn⟩
  · rintro ⟨key, r, hr, hn⟩
    exact ⟨⟨key, r⟩, Table.mem_of_lookup_eq_some hr, hn⟩

theorem lookup_union_eq_some {s t : Table BridgeId HandleId} {b : BridgeId} {n : HandleId} :
    (s ∪ t).lookup b = some n ↔ s.lookup b = some n ∨ b ∉ s ∧ t.lookup b = some n := by
  by_cases hb : b ∈ s
  · rw [AList.lookup_union_left hb]
    simp [hb]
  · rw [AList.lookup_union_right hb]
    simp [hb, AList.lookup_eq_none.2 hb]

theorem Handles.storeResults (h : Handles σ) (c : ClientId) {r : ActiveRequest}
    {tmp : Table BridgeId HandleId} (hr : σ.requests.lookup (σ.clients c).key = some r)
    (htmp : ∀ b n, tmp.lookup b = some n → σ.answers b (σ.clients c).key n) :
    Handles (σ.storeResults c r tmp) := by
  have hset := h.setPhase c .requesting fun b n hn => by cases hn
  refine ⟨h.bridges, hset.clients, fun key r' b n hr' hn => ?_, fun n hn => ?_⟩
  · rw [lookup_storeResults] at hr'
    split at hr'
    next heq =>
      cases hr'
      subst heq
      rcases lookup_union_eq_some.1 hn with hn | ⟨-, hn⟩
      · exact h.entries _ r b n hr hn
      · exact htmp b n hn
    next => exact h.entries key r' b n hr' hn
  · rcases mem_dropped_storeResults.1 hn with hn | ⟨b, hn, -⟩
    · exact h.dropped n hn
    · exact lt_of_answers (htmp b n hn)

theorem Handles.step (h : Handles σ) (hstep : Step σ label σ') : Handles σ' := by
  cases hstep with
  | serverChanged | refused => exact ⟨h.bridges, h.clients, h.entries, h.dropped⟩
  | made c key phase habsent hfree hphase =>
      refine ⟨h.bridges, fun c' b n hn => ?_, h.entries, h.dropped⟩
      by_cases hc : c' = c
      · subst hc
        rcases hphase with rfl | rfl <;> simp [RequesterPhase.results] at hn
      · dsimp only at hn ⊢
        rw [Function.update_of_ne hc] at hn ⊢
        exact h.clients c' b n hn
  | began c b rest hphase hnext =>
      exact (h.joinRequest c).setPhase c _ fun b n hn => by cases hn
  | joined c hphase hnext =>
      exact (h.joinRequest c).storeResults c (lookup_joinRequest_self σ c) fun b n hn => by cases hn
  | answered c b rest tmp hphase =>
      refine (h.ask b _).setPhase c _ fun b' n hn => ?_
      simp only [RequesterPhase.results, Table.lookup_insert_ite] at hn
      split at hn
      next heq =>
        cases hn
        exact heq ▸ answers_ask_self σ b _
      next => exact answers_ask (h.clients c b' n (hphase ▸ hn))
  | resumed c b rest rest' tmp r hphase hr hnext =>
      exact h.setPhase c _ fun b' n hn => h.clients c b' n (hphase ▸ hn)
  | stored c rest tmp r hphase hr hnext =>
      exact h.storeResults c hr fun b n hn => h.clients c b n (hphase ▸ hn)
  | left c phase hphase =>
      have hrecord : Handles (σ.setRecord (recordKey (σ.clients c).key)
          (σ.records (recordKey (σ.clients c).key)).resetClient) :=
        ⟨h.bridges, h.clients, h.entries, h.dropped⟩
      refine hrecord.setPhase c _ fun b n hn => ?_
      rcases hphase with ⟨-, rfl⟩ | ⟨-, rfl⟩ <;> cases hn
  | released c r hphase hr =>
      have hset := h.setPhase c .released fun b n hn => by cases hn
      refine ⟨h.bridges, hset.clients, fun key r' b n hr' hn => ?_, fun n hn => ?_⟩
      · rw [lookup_releaseRequest] at hr'
        split at hr'
        next heq =>
          cases hr'
          subst heq
          dsimp only at hn
          split at hn
          · cases hn
          · exact h.entries _ r b n hr hn
        next => exact h.entries key r' b n hr' hn
      · rcases mem_dropped_releaseRequest.1 hn with hn | ⟨-, b, hn⟩
        · exact h.dropped n hn
        · exact lt_of_answers (h.entries _ r b n hr hn)
  | cleaned c hphase =>
      have hset := h.setPhase c .destroyed fun b n hn => by cases hn
      exact ⟨h.bridges, hset.clients,
        fun key r b n hr hn => h.entries key r b n (lookup_of_cleanupKey hr) hn, h.dropped⟩
  | registered b identity place habsent =>
      have hset := h.setBridge b (.registering σ.requests.keys ∅ ∅) fun key n hn => by cases hn
      exact ⟨hset.bridges, h.clients, h.entries, h.dropped⟩
  | called b key toDo results done hphase hkey =>
      refine (h.ask b key).setBridge b _ fun key' n hn => ?_
      simp only [BridgePhase.results, Table.lookup_insert_ite] at hn
      split at hn
      next heq =>
        cases hn
        exact heq ▸ answers_ask_self σ b _
      next => exact answers_ask (h.bridges b key' n (hphase ▸ hn))
  | merged b results done hphase =>
      have hresults : ∀ key n, results.lookup key = some n → σ.answers b key n :=
        fun key n hn => h.bridges b key n (by rw [hphase]; exact hn)
      have hset := h.setBridge b (σ.mergedPhase results done) fun key n hn => by
        rw [mergedPhase_results] at hn
        cases hn
      refine ⟨hset.bridges, h.clients, fun key r b' n hr hn => ?_, fun n hn => ?_⟩
      · rw [lookup_mergeResults, Option.map_eq_some_iff] at hr
        obtain ⟨r', hr', rfl⟩ := hr
        rcases lookup_entries_mergedRequest hn with hold | ⟨rfl, hnew⟩
        · exact h.entries key r' b' n hr' hold
        · exact hresults key n hnew
      · rcases mem_dropped_mergeResults.1 hn with hn | ⟨key, hn, -⟩
        · exact h.dropped n hn
        · exact lt_of_answers (hresults key n hn)
  | stopped b hphase =>
      have hset := h.setBridge b .stopped fun key n hn => by cases hn
      refine ⟨hset.bridges, h.clients, fun key r b' n hr hn => ?_, fun n hn => ?_⟩
      · rw [lookup_stopRegistration, Option.map_eq_some_iff] at hr
        obtain ⟨r', hr', rfl⟩ := hr
        rw [Table.lookup_erase_ite] at hn
        split at hn
        · cases hn
        · exact h.entries key r' b' n hr' hn
      · rcases mem_dropped_stopRegistration.1 hn with hn | ⟨key, r, hr, hn⟩
        · exact h.dropped n hn
        · exact lt_of_answers (h.entries key r b n hr hn)

/-! ## The loops and the history of calls -/

/-- A loop has each of its calls to make once, and has no result for it yet. -/
structure Loops (σ : Bridges) : Prop where
  due : ∀ c, (σ.clients c).phase.due.Nodup
  results : ∀ c b, b ∈ (σ.clients c).phase.due → b ∉ (σ.clients c).phase.results
  known : ∀ c b, b ∈ (σ.clients c).phase.due → σ.bridges b ≠ .absent
  toDo : ∀ b, (σ.bridges b).toDo.Nodup
  answered : ∀ b key, key ∈ (σ.bridges b).toDo → key ∉ (σ.bridges b).results

theorem Loops.setPhase (h : Loops σ) (c : ClientId) (phase : RequesterPhase)
    (hdue : phase.due.Nodup) (hresults : ∀ b ∈ phase.due, b ∉ phase.results)
    (hknown : ∀ b ∈ phase.due, σ.bridges b ≠ .absent) : Loops (σ.setPhase c phase) := by
  refine ⟨fun c' => ?_, fun c' b hb => ?_, fun c' b hb => ?_, h.toDo, h.answered⟩
  · rw [setPhase_phase]
    split
    · exact hdue
    · exact h.due c'
  · rw [setPhase_phase] at hb ⊢
    split at hb
    next heq =>
      rw [if_pos heq]
      exact hresults b hb
    next heq =>
      rw [if_neg heq]
      exact h.results c' b hb
  · rw [setPhase_phase] at hb
    split at hb
    · exact hknown b hb
    · exact h.known c' b hb

theorem Loops.setIdle (h : Loops σ) (c : ClientId) (phase : RequesterPhase)
    (hdue : phase.due = []) : Loops (σ.setPhase c phase) :=
  h.setPhase c phase (by simp [hdue]) (by simp [hdue]) (by simp [hdue])

theorem Loops.setBridge (h : Loops σ) (b : BridgeId) (phase : BridgePhase)
    (hphase : phase ≠ .absent) (htoDo : phase.toDo.Nodup)
    (hanswered : ∀ key ∈ phase.toDo, key ∉ phase.results) : Loops (σ.setBridge b phase) := by
  refine ⟨h.due, h.results, fun c b' hb' => ?_, fun b' => ?_, fun b' key hkey => ?_⟩
  · simp only [Bridges.setBridge, Function.update_apply]
    split
    · exact hphase
    · exact h.known c b' hb'
  · simp only [Bridges.setBridge, Function.update_apply]
    split
    · exact htoDo
    · exact h.toDo b'
  · simp only [Bridges.setBridge, Function.update_apply] at hkey ⊢
    split at hkey
    next heq =>
      rw [if_pos heq]
      exact hanswered key hkey
    next heq =>
      rw [if_neg heq]
      exact h.answered b' key hkey

/-- The first client of a request has the whole table to ask. -/
theorem Owned.callbacks_of_began (h : Owned σ) {c : ClientId} {b : BridgeId}
    {rest : List (BridgeId × BridgeIdentity)}
    (hnext : nextForwarded (σ.ownRequest c (σ.clients c).key).subscribers σ.callbacks =
      some (b, rest)) :
    σ.locked (σ.clients c).key = none ∧ σ.callbacks.map Prod.fst = b :: rest.map Prod.fst := by
  obtain ⟨n, hn⟩ := h.subscribers_ownRequest c (σ.clients c).key
  rw [hn] at hnext
  obtain ⟨rfl, identity, hcallbacks⟩ := nextForwarded_replicate_eq_some hnext
  refine ⟨?_, by rw [hcallbacks]; rfl⟩
  cases hlocked : σ.locked (σ.clients c).key with
  | none => rfl
  | some r =>
      obtain ⟨m, hm⟩ := h.subscribers _ r (locked_eq_some.1 hlocked).1
      simp only [ownRequest, hlocked, hm] at hn
      have hlength := congrArg List.length hn
      simp at hlength

theorem Owned.rest_of_resumed (h : Owned σ) {c : ClientId} {b : BridgeId}
    {rest rest' : List (BridgeId × BridgeIdentity)} {tmp : Table BridgeId HandleId}
    {r : ActiveRequest} (hphase : (σ.clients c).phase = .called rest tmp)
    (hr : σ.requests.lookup (σ.clients c).key = some r)
    (hnext : nextForwarded r.subscribers rest = some (b, rest')) :
    rest.map Prod.fst = b :: rest'.map Prod.fst := by
  have hfirst := h.first c r (by rw [hphase]; rfl) hr
  rw [hfirst] at hnext
  obtain ⟨-, identity, hrest⟩ := nextForwarded_replicate_eq_some (n := 0) hnext
  rw [hrest]
  rfl

theorem Owned.rest_of_stored (h : Owned σ) {c : ClientId}
    {rest : List (BridgeId × BridgeIdentity)} {tmp : Table BridgeId HandleId}
    {r : ActiveRequest} (hphase : (σ.clients c).phase = .called rest tmp)
    (hr : σ.requests.lookup (σ.clients c).key = some r)
    (hnext : nextForwarded r.subscribers rest = none) : rest = [] := by
  have hfirst := h.first c r (by rw [hphase]; rfl) hr
  rw [hfirst] at hnext
  have hhead := nextForwarded_replicate 0 rest
  simp only [List.replicate, hnext, if_true] at hhead
  cases rest with
  | nil => rfl
  | cons bridge tail => cases hhead

theorem Loops.step (h : Loops σ) (hlisted : Listed σ) (howned : Owned σ)
    (hstep : Step σ label σ') : Loops σ' := by
  cases hstep with
  | serverChanged | refused => exact ⟨h.due, h.results, h.known, h.toDo, h.answered⟩
  | made c key phase habsent hfree hphase =>
      have hdue : phase.due = [] := by rcases hphase with rfl | rfl <;> rfl
      refine ⟨fun c' => ?_, fun c' b hb => ?_, fun c' b hb => ?_, h.toDo, h.answered⟩
      all_goals
        by_cases hc : c' = c
        · subst hc
          simp_all
        · simp only [Function.update_of_ne hc] at *
          first | exact h.due c' | exact h.results c' b hb | exact h.known c' b hb
  | began c b rest hphase hnext =>
      have hjoined : Loops (σ.joinRequest c) := ⟨h.due, h.results, h.known, h.toDo, h.answered⟩
      have hcallbacks := (howned.callbacks_of_began hnext).2
      refine hjoined.setPhase c _ ?_ (fun b' _ => AList.notMem_empty b') fun b' hb' => ?_
      · change (b :: rest.map Prod.fst).Nodup
        rw [← hcallbacks]
        exact hlisted.nodup
      · intro habsent
        have hmem : b' ∈ σ.callbacks.map Prod.fst := by
          rw [hcallbacks]
          exact hb'
        have hlists := (hlisted.bridges b').1 hmem
        rw [show σ.bridges b' = .absent from habsent] at hlists
        cases hlists
  | joined c hphase hnext =>
      have hjoined : Loops (σ.joinRequest c) := ⟨h.due, h.results, h.known, h.toDo, h.answered⟩
      have hset := hjoined.setIdle c .requesting rfl
      exact ⟨hset.due, hset.results, hset.known, hset.toDo, hset.answered⟩
  | answered c b rest tmp hphase =>
      have hasked : Loops (σ.ask b (σ.clients c).key) :=
        ⟨h.due, h.results, h.known, h.toDo, h.answered⟩
      have hdue := h.due c
      rw [hphase] at hdue
      obtain ⟨hb, hrest⟩ := List.nodup_cons.1 hdue
      have hmem : ∀ b' ∈ rest.map Prod.fst, b' ∈ (σ.clients c).phase.due := fun b' hb' => by
        rw [hphase]
        exact List.mem_cons_of_mem _ hb'
      refine hasked.setPhase c _ hrest (fun b' hb' hinsert => ?_) fun b' hb' =>
        h.known c b' (hmem b' hb')
      rcases (AList.mem_insert _).1 hinsert with rfl | htmp
      · exact hb hb'
      · have hresults := h.results c b' (hmem b' hb')
        rw [hphase] at hresults
        exact hresults htmp
  | resumed c b rest rest' tmp r hphase hr hnext =>
      have hrest : (RequesterPhase.calling b rest' tmp).due = (σ.clients c).phase.due := by
        rw [hphase]
        exact (howned.rest_of_resumed hphase hr hnext).symm
      have htmp : (RequesterPhase.calling b rest' tmp).results = (σ.clients c).phase.results := by
        rw [hphase]
        rfl
      refine h.setPhase c _ ?_ ?_ ?_
      · exact hrest ▸ h.due c
      · exact hrest ▸ htmp ▸ h.results c
      · exact hrest ▸ h.known c
  | stored c rest tmp r hphase hr hnext =>
      have hset := h.setIdle c .requesting rfl
      exact ⟨hset.due, hset.results, hset.known, hset.toDo, hset.answered⟩
  | left c phase hphase =>
      have hrecord : Loops (σ.setRecord (recordKey (σ.clients c).key)
          (σ.records (recordKey (σ.clients c).key)).resetClient) :=
        ⟨h.due, h.results, h.known, h.toDo, h.answered⟩
      exact hrecord.setIdle c phase (by rcases hphase with ⟨-, rfl⟩ | ⟨-, rfl⟩ <;> rfl)
  | released c r hphase hr =>
      have hset := h.setIdle c .released rfl
      exact ⟨hset.due, hset.results, hset.known, hset.toDo, hset.answered⟩
  | cleaned c hphase =>
      have hset := h.setIdle c .destroyed rfl
      exact ⟨hset.due, hset.results, hset.known, hset.toDo, hset.answered⟩
  | registered b identity place habsent =>
      have hset := h.setBridge b (.registering σ.requests.keys ∅ ∅) (by simp) σ.requests.keys_nodup
        fun key _ => AList.notMem_empty key
      exact ⟨hset.due, hset.results, hset.known, hset.toDo, hset.answered⟩
  | called b key toDo results done hphase hkey =>
      have hasked : Loops (σ.ask b key) := ⟨h.due, h.results, h.known, h.toDo, h.answered⟩
      have htoDo := h.toDo b
      rw [hphase] at htoDo
      refine hasked.setBridge b _ (by simp) (List.Nodup.erase key htoDo) fun key' hkey' => ?_
      obtain ⟨hne, hmem⟩ := (List.Nodup.mem_erase_iff htoDo).1 hkey'
      have hresults := h.answered b key' (by rw [hphase]; exact hmem)
      rw [hphase] at hresults
      intro hinsert
      rcases (AList.mem_insert _).1 hinsert with heq | hold
      · exact hne heq
      · exact hresults hold
  | merged b results done hphase =>
      have hset := h.setBridge b (σ.mergedPhase results done) (mergedPhase_ne_absent results done)
        (nodup_toDo_mergedPhase results done)
        fun key _ => (mergedPhase_results results done).symm ▸ AList.notMem_empty key
      exact ⟨hset.due, hset.results, hset.known, hset.toDo, hset.answered⟩
  | stopped b hphase =>
      have hset := h.setBridge b .stopped (by simp) List.nodup_nil fun key hkey => by cases hkey
      exact ⟨hset.due, hset.results, hset.known, hset.toDo, hset.answered⟩

structure History (σ : Bridges) : Prop where
  requests : ∀ key r, σ.requests.lookup key = some r → r.epoch < σ.nextEpoch
  bridges : ∀ x ∈ σ.asked, σ.bridges x.bridge ≠ .absent
  epochs : ∀ x ∈ σ.asked, ∀ e, x.epoch = some e → e < σ.nextEpoch

theorem History.ask (h : History σ) {b : BridgeId} (key : Key) (hb : σ.bridges b ≠ .absent) :
    History (σ.ask b key) := by
  refine ⟨h.requests, fun x hx => ?_, fun x hx e he => ?_⟩
  · rcases List.mem_append.1 hx with hx | hx
    · exact h.bridges x hx
    · cases List.mem_singleton.1 hx
      exact hb
  · rcases List.mem_append.1 hx with hx | hx
    · exact h.epochs x hx e he
    · cases List.mem_singleton.1 hx
      obtain ⟨r, hr, rfl⟩ := Option.map_eq_some_iff.1 he
      exact h.requests key r hr

theorem History.setBridge (h : History σ) (b : BridgeId) (phase : BridgePhase)
    (hphase : phase ≠ .absent) : History (σ.setBridge b phase) := by
  refine ⟨h.requests, fun x hx => ?_, h.epochs⟩
  simp only [Bridges.setBridge, Function.update_apply]
  split
  · exact hphase
  · exact h.bridges x hx

theorem epoch_ownRequest_lt (h : History σ) (c : ClientId) (key : Key) :
    (σ.ownRequest c key).epoch < σ.nextEpoch + 1 := by
  unfold ownRequest
  split
  next r hr => exact Nat.lt_succ_of_lt (h.requests key r (locked_eq_some.1 hr).1)
  next => exact Nat.lt_succ_self _

theorem History.joinRequest (h : History σ) (c : ClientId) : History (σ.joinRequest c) := by
  refine ⟨fun key r hr => ?_, h.bridges, fun x hx e he => Nat.lt_succ_of_lt (h.epochs x hx e he)⟩
  rw [lookup_joinRequest] at hr
  split at hr
  · cases hr
    exact epoch_ownRequest_lt h c key
  · exact Nat.lt_succ_of_lt (h.requests key r hr)

theorem History.storeResults (h : History σ) (c : ClientId) {r : ActiveRequest}
    (tmp : Table BridgeId HandleId) (hr : σ.requests.lookup (σ.clients c).key = some r) :
    History (σ.storeResults c r tmp) := by
  refine ⟨fun key r' hr' => ?_, h.bridges, h.epochs⟩
  rw [lookup_storeResults] at hr'
  split at hr'
  · cases hr'
    exact h.requests _ r hr
  · exact h.requests key r' hr'

theorem History.step (h : History σ) (hloops : Loops σ) (hstep : Step σ label σ') :
    History σ' := by
  cases hstep with
  | serverChanged | refused | made | resumed | left => exact ⟨h.requests, h.bridges, h.epochs⟩
  | began c b rest hphase hnext =>
      have hjoined := h.joinRequest c
      exact ⟨hjoined.requests, hjoined.bridges, hjoined.epochs⟩
  | joined c hphase hnext =>
      exact (h.joinRequest c).storeResults c ∅ (lookup_joinRequest_self σ c)
  | answered c b rest tmp hphase =>
      have hasked := h.ask (σ.clients c).key (hloops.known c b (by rw [hphase]; simp
        [RequesterPhase.due]))
      exact ⟨hasked.requests, hasked.bridges, hasked.epochs⟩
  | stored c rest tmp r hphase hr hnext => exact h.storeResults c tmp hr
  | released c r hphase hr =>
      refine ⟨fun key r' hr' => ?_, h.bridges, h.epochs⟩
      rw [lookup_releaseRequest] at hr'
      split at hr'
      · cases hr'
        exact h.requests _ r hr
      · exact h.requests key r' hr'
  | cleaned c hphase =>
      exact ⟨fun key r hr => h.requests key r (lookup_of_cleanupKey hr), h.bridges, h.epochs⟩
  | registered b identity place habsent =>
      have hset := h.setBridge b (.registering σ.requests.keys ∅ ∅) (by simp)
      exact ⟨hset.requests, hset.bridges, hset.epochs⟩
  | called b key toDo results done hphase hkey =>
      exact (h.ask key (by simp [hphase])).setBridge b _ (by simp)
  | merged b results done hphase =>
      have hset := h.setBridge b (σ.mergedPhase results done) (mergedPhase_ne_absent results done)
      refine ⟨fun key r hr => ?_, hset.bridges, hset.epochs⟩
      rw [lookup_mergeResults, Option.map_eq_some_iff] at hr
      obtain ⟨r', hr', rfl⟩ := hr
      rw [(mergedRequest_owners b results key r').2.2]
      exact h.requests key r' hr'
  | stopped b hphase =>
      have hset := h.setBridge b .stopped (by simp)
      refine ⟨fun key r hr => ?_, hset.bridges, hset.epochs⟩
      rw [lookup_stopRegistration, Option.map_eq_some_iff] at hr
      obtain ⟨r', hr', rfl⟩ := hr
      exact h.requests key r' hr'

/-! ## What holds in every order of the sections -/

/-- The facts above, together. -/
structure Sound (σ : Bridges) : Prop where
  listed : Listed σ
  slots : Slots σ
  owned : Owned σ
  handles : Handles σ
  loops : Loops σ
  history : History σ

theorem Sound.init : Sound {} where
  listed := .init
  slots := nofun
  owned := ⟨nofun, nofun, nofun⟩
  handles := ⟨nofun, nofun, nofun, nofun⟩
  loops := ⟨fun _ => List.nodup_nil, nofun, nofun, fun _ => List.nodup_nil, nofun⟩
  history := ⟨nofun, nofun, nofun⟩

theorem Sound.step (h : Sound σ) (hstep : Step σ label σ') : Sound σ' where
  listed := h.listed.step hstep
  slots := h.slots.step hstep
  owned := h.owned.step h.slots hstep
  handles := h.handles.step hstep
  loops := h.loops.step h.listed h.owned hstep
  history := h.history.step h.loops hstep

theorem Sound.reachable {ok : Bridges → Label → Prop} (h : Reach next ok {} σ) : Sound σ :=
  h.invariant .init fun _ _ _ hs _ hnext => hs.step (step_of_next hnext)

end Bridges

end Socom

end SomeipGateway
