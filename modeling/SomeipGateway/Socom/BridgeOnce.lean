import SomeipGateway.Socom.BridgeRequests

/-! # Each bridge is asked once for a request

A registered bridge and an active request are in one of three situations, provided
that no new request begins while a bridge is being registered: the call is due in
exactly one loop, its handle is among the results of that loop, or its handle is in
the map of the request. Each section keeps the pair in one of them.
-/

namespace SomeipGateway

namespace Socom

namespace Bridges

variable {σ σ' : Bridges} {label : Label}

/-- A request that is not active begins only while no bridge is being registered. -/
def beginsSettled (σ : Bridges) : Label → Prop
  | .getBridgeRequests c =>
      σ.locked (σ.clients c).key = none →
        ∀ b toDo results done, σ.bridges b ≠ .registering toDo results done
  | _ => True

/-! ## Calls to make and results to store -/

def ClientDue (σ : Bridges) (b : BridgeId) (key : Key) : Prop :=
  ∃ c, (σ.clients c).key = key ∧ b ∈ (σ.clients c).phase.due

def ClientPending (σ : Bridges) (b : BridgeId) (key : Key) (n : HandleId) : Prop :=
  ∃ c, (σ.clients c).key = key ∧ (σ.clients c).phase.results.lookup b = some n

def Due (σ : Bridges) (b : BridgeId) (key : Key) : Prop :=
  key ∈ (σ.bridges b).toDo ∨ σ.ClientDue b key

def Pending (σ : Bridges) (b : BridgeId) (key : Key) (n : HandleId) : Prop :=
  (σ.bridges b).results.lookup key = some n ∨ σ.ClientPending b key n

/-- The call was made, once, and the handle is its answer. -/
def Sole (σ : Bridges) (x : Asked) (n : HandleId) : Prop :=
  ∀ m, σ.asked[m]? = some x ↔ m = n

inductive Pair (σ : Bridges) (b : BridgeId) (key : Key) (r : ActiveRequest) : Prop where
  | due (hdue : σ.Due b key) (hasked : ⟨b, key, some r.epoch⟩ ∉ σ.asked)
  | pending (n : HandleId) (hpending : σ.Pending b key n)
      (hsole : σ.Sole ⟨b, key, some r.epoch⟩ n) (hdropped : n ∉ σ.dropped)
  | kept (n : HandleId) (hentry : r.entries.lookup b = some n)
      (hsole : σ.Sole ⟨b, key, some r.epoch⟩ n) (hdropped : n ∉ σ.dropped)

structure Once (σ : Bridges) : Prop where
  /-- A client asks only bridges whose registration has returned. -/
  settled : ∀ b key, (σ.ClientDue b key ∨ ∃ n, σ.ClientPending b key n) →
    (σ.bridges b).toDo = [] ∧ (σ.bridges b).results = ∅
  /-- A registration in progress has seen every request. -/
  covered : ∀ b toDo results done, σ.bridges b = .registering toDo results done →
    ∀ key ∈ σ.requests, key ∈ toDo ∨ key ∈ results
  fresh : ∀ b key r, σ.requests.lookup key = some r → b ∈ r.entries →
    ¬σ.Due b key ∧ ∀ n, ¬σ.Pending b key n
  pair : ∀ b key r, (σ.bridges b).isRegistered = true → σ.requests.lookup key = some r →
    r.owners ≠ ∅ → σ.Pair b key r

theorem Sole.answers {x : Asked} {n : HandleId} (h : σ.Sole x n) : σ.answers x.bridge x.key n :=
  ⟨x.epoch, (h n).2 rfl⟩

theorem Sole.congr {x : Asked} {n : HandleId} (h : σ.Sole x n) (hasked : σ'.asked = σ.asked) :
    σ'.Sole x n := by
  intro m
  rw [hasked]
  exact h m

theorem isAsking_of_due {phase : RequesterPhase} {b : BridgeId} (h : b ∈ phase.due) :
    phase.isAsking = true := by
  cases phase <;> first | rfl | cases h

theorem isAsking_of_results {phase : RequesterPhase} {b : BridgeId} {n : HandleId}
    (h : phase.results.lookup b = some n) : phase.isAsking = true := by
  cases phase <;> first | rfl | cases h

/-- A call that is still to be made has no result yet. -/
theorem Once.not_pending_of_due (h : Once σ) (hs : Sound σ) {b : BridgeId} {key : Key}
    (hdue : σ.Due b key) (n : HandleId) : ¬σ.Pending b key n := by
  intro hpending
  rcases hdue with hdue | ⟨c, rfl, hdue⟩
  · rcases hpending with hpending | hpending
    · refine hs.loops.answered b key hdue ?_
      exact AList.lookup_isSome.1 (by rw [hpending]; rfl)
    · rw [(h.settled b key (.inr ⟨n, hpending⟩)).1] at hdue
      cases hdue
  · rcases hpending with hpending | ⟨c', hkey, hpending⟩
    · rw [(h.settled b _ (.inl ⟨c, rfl, hdue⟩)).2] at hpending
      cases hpending
    · have hc : c' = c := hs.slots.unique hkey
        (RequesterPhase.holdsRecord_of_isAsking (isAsking_of_results hpending))
        (RequesterPhase.holdsRecord_of_isAsking (isAsking_of_due hdue))
      subst hc
      exact hs.loops.results c' b hdue (AList.lookup_isSome.1 (by rw [hpending]; rfl))

theorem mem_entries_of_lookup {α β : Type} [DecidableEq α] {t : Table α β} {a : α} {v : β}
    (h : t.lookup a = some v) : a ∈ t :=
  AList.lookup_isSome.1 (by rw [h]; rfl)

/-! ## Sections that make no call -/

/-- The handles that are dropped answer other calls than those for the request. -/
def DropsOther (σ σ' : Bridges) (b : BridgeId) (key : Key) : Prop :=
  ∀ n ∈ σ'.dropped, n ∈ σ.dropped ∨ ¬σ.answers b key n

theorem DropsOther.not_mem {b : BridgeId} {key : Key} {n : HandleId} (h : DropsOther σ σ' b key)
    (hn : n ∉ σ.dropped) (hanswers : σ.answers b key n) : n ∉ σ'.dropped := by
  intro hmem
  rcases h n hmem with hold | hother
  · exact hn hold
  · exact hother hanswers

theorem Pair.mono {b : BridgeId} {key : Key} {r r' : ActiveRequest} (h : σ.Pair b key r)
    (hasked : σ'.asked = σ.asked) (hepoch : r'.epoch = r.epoch)
    (hdue : σ.Due b key → σ'.Due b key)
    (hpending : ∀ n, σ.Pending b key n → σ'.Pending b key n)
    (hentry : ∀ n, r.entries.lookup b = some n → r'.entries.lookup b = some n)
    (hdropped : DropsOther σ σ' b key) : σ'.Pair b key r' := by
  cases h with
  | due hd ha => exact .due (hdue hd) (by rw [hepoch, hasked]; exact ha)
  | pending n hp hsole hn =>
      exact .pending n (hpending n hp) (hepoch ▸ hsole.congr hasked)
        (hdropped.not_mem hn hsole.answers)
  | kept n he hsole hn =>
      exact .kept n (hentry n he) (hepoch ▸ hsole.congr hasked)
        (hdropped.not_mem hn hsole.answers)

/-- A section that changes no loop, and leaves the maps of the requests that stay
active as they were. -/
theorem Once.frame (h : Once σ) (hbridges : σ'.bridges = σ.bridges)
    (hasked : σ'.asked = σ.asked)
    (hdue : ∀ b key, σ'.ClientDue b key ↔ σ.ClientDue b key)
    (hpending : ∀ b key n, σ'.ClientPending b key n ↔ σ.ClientPending b key n)
    (hrequests : ∀ key r', σ'.requests.lookup key = some r' → ∃ r,
      σ.requests.lookup key = some r ∧ r'.epoch = r.epoch ∧
      (∀ b ∈ r'.entries, b ∈ r.entries) ∧
      (r'.owners ≠ ∅ → r.owners ≠ ∅ ∧
        (∀ b, r'.entries.lookup b = r.entries.lookup b) ∧ ∀ b, DropsOther σ σ' b key)) :
    Once σ' := by
  have hdue' : ∀ b key, σ'.Due b key ↔ σ.Due b key := fun b key => by
    rw [Due, Due, hbridges, hdue]
  have hpending' : ∀ b key n, σ'.Pending b key n ↔ σ.Pending b key n := fun b key n => by
    rw [Pending, Pending, hbridges, hpending]
  refine ⟨fun b key hb => ?_, fun b toDo results done hb key hkey => ?_, fun b key r' hr' hb => ?_,
    fun b key r' hb hr' hactive => ?_⟩
  · rw [hbridges]
    refine h.settled b key (hb.imp (hdue b key).1 ?_)
    rintro ⟨n, hn⟩
    exact ⟨n, (hpending b key n).1 hn⟩
  · obtain ⟨r', hr'⟩ := Option.isSome_iff_exists.1 (AList.lookup_isSome.2 hkey)
    obtain ⟨r, hr, -⟩ := hrequests key r' hr'
    exact h.covered b toDo results done (hbridges ▸ hb) key (mem_entries_of_lookup hr)
  · obtain ⟨r, hr, -, hentries, -⟩ := hrequests key r' hr'
    rw [hdue']
    simp only [hpending']
    exact h.fresh b key r hr (hentries b hb)
  · obtain ⟨r, hr, hepoch, -, hkept⟩ := hrequests key r' hr'
    obtain ⟨hactive, hlookup, hdropped⟩ := hkept hactive
    refine (h.pair b key r (hbridges ▸ hb) hr hactive).mono hasked hepoch (hdue' b key).2
      (fun n => (hpending' b key n).2) (fun n hn => ?_) (hdropped b)
    rw [hlookup]
    exact hn

theorem dropsOther_of_eq (hdropped : σ'.dropped = σ.dropped) (b : BridgeId) (key : Key) :
    DropsOther σ σ' b key := by
  intro n hn
  rw [hdropped] at hn
  exact .inl hn

theorem clientDue_setPhase (c : ClientId) (phase : RequesterPhase)
    (h : phase.due = (σ.clients c).phase.due) (b : BridgeId) (key : Key) :
    (σ.setPhase c phase).ClientDue b key ↔ σ.ClientDue b key := by
  refine exists_congr fun c' => ?_
  rw [setPhase_key, setPhase_phase]
  split
  next heq => rw [heq, h]
  next => rfl

theorem clientPending_setPhase (c : ClientId) (phase : RequesterPhase)
    (h : phase.results = (σ.clients c).phase.results) (b : BridgeId) (key : Key) (n : HandleId) :
    (σ.setPhase c phase).ClientPending b key n ↔ σ.ClientPending b key n := by
  refine exists_congr fun c' => ?_
  rw [setPhase_key, setPhase_phase]
  split
  next heq => rw [heq, h]
  next => rfl

/-- What the loops of the other clients have to do. -/
theorem clientDue_setPhase_iff {c : ClientId} {phase : RequesterPhase} {b : BridgeId} {key : Key} :
    (σ.setPhase c phase).ClientDue b key ↔ (σ.clients c).key = key ∧ b ∈ phase.due ∨
      ∃ c', c' ≠ c ∧ (σ.clients c').key = key ∧ b ∈ (σ.clients c').phase.due := by
  constructor
  · rintro ⟨c', hkey, hb⟩
    rw [setPhase_key] at hkey
    rw [setPhase_phase] at hb
    split at hb
    next heq => exact .inl ⟨heq ▸ hkey, hb⟩
    next hne => exact .inr ⟨c', hne, hkey, hb⟩
  · rintro (⟨hkey, hb⟩ | ⟨c', hne, hkey, hb⟩)
    · refine ⟨c, by rw [setPhase_key]; exact hkey, ?_⟩
      rw [setPhase_phase, if_pos rfl]
      exact hb
    · refine ⟨c', by rw [setPhase_key]; exact hkey, ?_⟩
      rw [setPhase_phase, if_neg hne]
      exact hb

theorem clientPending_setPhase_iff {c : ClientId} {phase : RequesterPhase} {b : BridgeId}
    {key : Key} {n : HandleId} :
    (σ.setPhase c phase).ClientPending b key n ↔
      (σ.clients c).key = key ∧ phase.results.lookup b = some n ∨
      ∃ c', c' ≠ c ∧ (σ.clients c').key = key ∧
        (σ.clients c').phase.results.lookup b = some n := by
  constructor
  · rintro ⟨c', hkey, hb⟩
    rw [setPhase_key] at hkey
    rw [setPhase_phase] at hb
    split at hb
    next heq => exact .inl ⟨heq ▸ hkey, hb⟩
    next hne => exact .inr ⟨c', hne, hkey, hb⟩
  · rintro (⟨hkey, hb⟩ | ⟨c', hne, hkey, hb⟩)
    · refine ⟨c, by rw [setPhase_key]; exact hkey, ?_⟩
      rw [setPhase_phase, if_pos rfl]
      exact hb
    · refine ⟨c', by rw [setPhase_key]; exact hkey, ?_⟩
      rw [setPhase_phase, if_neg hne]
      exact hb

theorem Once.made (h : Once σ) {c : ClientId} {key : Key} {phase : RequesterPhase}
    {record : Record} (habsent : (σ.clients c).phase = .absent)
    (hphase : phase = .served ∨ phase = .registered) :
    Once { σ.setRecord (recordKey key) record with
      clients := Function.update σ.clients c ⟨key, phase⟩ } := by
  have hidle : phase.due = [] ∧ phase.results = ∅ := by
    rcases hphase with rfl | rfl <;> exact ⟨rfl, rfl⟩
  have hnone : (σ.clients c).phase.due = [] ∧ (σ.clients c).phase.results = ∅ := by
    rw [habsent]
    exact ⟨rfl, rfl⟩
  refine h.frame rfl rfl (fun b key' => exists_congr fun c' => ?_)
    (fun b key' n => exists_congr fun c' => ?_) fun key' r hr =>
      ⟨r, hr, rfl, fun _ hb => hb, fun hactive => ⟨hactive, fun _ => rfl,
        fun b => dropsOther_of_eq rfl b key'⟩⟩
  · by_cases hc : c' = c
    · subst hc
      simp [hidle.1, hnone.1]
    · simp [hc]
  · by_cases hc : c' = c
    · subst hc
      simp [hidle.2, hnone.2]
    · simp [hc]

/-! ## A client joins a request -/

/-- The entry after a client has joined an active request. -/
theorem Once.joined_active (h : Once σ) {c : ClientId} {r : ActiveRequest}
    (hphase : (σ.clients c).phase = .registered) (hr : σ.locked (σ.clients c).key = some r) :
    Once ((σ.joinRequest c).storeResults c (σ.ownRequest c (σ.clients c).key) ∅) := by
  obtain ⟨hlookup, hactive⟩ := locked_eq_some.1 hr
  have hown : σ.ownRequest c (σ.clients c).key =
      { r with owners := insert c r.owners, subscribers := r.subscribers ++ [none] } := by
    simp only [ownRequest, hr]
  refine h.frame rfl rfl (clientDue_setPhase (σ := σ.joinRequest c) c .requesting ?_)
    (clientPending_setPhase (σ := σ.joinRequest c) c .requesting ?_) fun key r' hr' => ?_
  · simp [joinRequest, hphase, RequesterPhase.due]
  · simp [joinRequest, hphase, RequesterPhase.results]
  · have hdropped : ∀ b, DropsOther σ
        ((σ.joinRequest c).storeResults c (σ.ownRequest c (σ.clients c).key) ∅) b key := by
      intro b n hn
      rcases mem_dropped_storeResults.1 hn with hn | ⟨b', hn, -⟩
      · exact .inl hn
      · cases hn
    rw [lookup_storeResults, lookup_joinRequest] at hr'
    split at hr'
    next heq =>
      cases hr'
      refine ⟨r, ?_, by rw [hown], fun b hb => ?_, fun _ => ⟨hactive, fun b => ?_, hdropped⟩⟩
      · rw [heq]
        exact hlookup
      · rw [hown] at hb
        simpa using hb
      · rw [hown]
        simp
    next hne =>
      have hne' : key ≠ (σ.clients c).key := hne
      rw [if_neg hne'] at hr'
      exact ⟨r', hr', rfl, fun _ hb => hb, fun hactive => ⟨hactive, fun _ => rfl, hdropped⟩⟩

/-- Nothing is listed for a client that finds neither a request nor a bridge. -/
theorem Once.joined_alone (h : Once σ) (hs : Sound σ) {c : ClientId}
    (hphase : (σ.clients c).phase = .registered) (hr : σ.locked (σ.clients c).key = none)
    (hcallbacks : σ.callbacks = []) :
    Once ((σ.joinRequest c).storeResults c (σ.ownRequest c (σ.clients c).key) ∅) := by
  have hnone : ∀ b, (σ.bridges b).isRegistered ≠ true := by
    intro b hb
    have hlists := (hs.listed.bridges b).2 hb
    simp [lists, hcallbacks] at hlists
  have hown : (σ.ownRequest c (σ.clients c).key).entries = ∅ := by
    simp only [ownRequest, hr]
  have hdue := clientDue_setPhase (σ := σ.joinRequest c) c .requesting
    (by simp [joinRequest, hphase, RequesterPhase.due])
  have hpending := clientPending_setPhase (σ := σ.joinRequest c) c .requesting
    (by simp [joinRequest, hphase, RequesterPhase.results])
  refine ⟨fun b key hb => h.settled b key (hb.imp (hdue b key).1 ?_),
    fun b toDo results done hb => (hnone b ?_).elim, fun b key r hr' hb => ?_,
    fun b key r hb => (hnone b hb).elim⟩
  · rintro ⟨n, hn⟩
    exact ⟨n, (hpending b key n).1 hn⟩
  · rw [show σ.bridges b = _ from hb]
    rfl
  · have hold : ∀ r', σ.requests.lookup key = some r' → b ∈ r'.entries →
        ¬σ.Due b key ∧ ∀ n, ¬σ.Pending b key n := fun r' => h.fresh b key r'
    rw [lookup_storeResults, lookup_joinRequest] at hr'
    split at hr'
    · cases hr'
      simp [hown] at hb
    next hne =>
      have hne' : key ≠ (σ.clients c).key := hne
      rw [if_neg hne'] at hr'
      obtain ⟨hnotDue, hnotPending⟩ := hold r hr' hb
      refine ⟨fun hd => hnotDue (hd.imp_right (hdue b key).1), fun n hn => hnotPending n ?_⟩
      exact hn.imp_right (hpending b key n).1

/-- The first client of a request: every bridge of the table is due. -/
theorem Once.began (h : Once σ) (hs : Sound σ) {c : ClientId} {b : BridgeId}
    {rest : List (BridgeId × BridgeIdentity)} (hphase : (σ.clients c).phase = .registered)
    (hr : σ.locked (σ.clients c).key = none)
    (hsettled : ∀ b toDo results done, σ.bridges b ≠ .registering toDo results done)
    (hcallbacks : σ.callbacks.map Prod.fst = b :: rest.map Prod.fst) :
    Once ((σ.joinRequest c).setPhase c (.calling b rest ∅)) := by
  have hidle : (σ.clients c).phase.due = [] ∧ (σ.clients c).phase.results = ∅ := by
    rw [hphase]
    exact ⟨rfl, rfl⟩
  have hquiet : ∀ b, (σ.bridges b).toDo = [] ∧ (σ.bridges b).results = ∅ := by
    intro b
    cases hb : σ.bridges b with
    | registering toDo results done => exact (hsettled b _ _ _ hb).elim
    | absent | registered | stopped => exact ⟨rfl, rfl⟩
  have hdue : ∀ b' key, ((σ.joinRequest c).setPhase c (.calling b rest ∅)).ClientDue b' key ↔
      σ.ClientDue b' key ∨ key = (σ.clients c).key ∧ σ.lists b' := by
    intro b' key
    rw [clientDue_setPhase_iff]
    have hlists : b' ∈ (RequesterPhase.calling b rest ∅).due ↔ σ.lists b' := by
      rw [lists, hcallbacks]
      rfl
    rw [hlists]
    constructor
    · rintro (⟨hkey, hb'⟩ | ⟨c', -, hkey, hb'⟩)
      · exact .inr ⟨hkey.symm, hb'⟩
      · exact .inl ⟨c', hkey, hb'⟩
    · rintro (⟨c', hkey, hb'⟩ | ⟨hkey, hb'⟩)
      · refine .inr ⟨c', ?_, hkey, hb'⟩
        rintro rfl
        simp [hidle.1] at hb'
      · exact .inl ⟨hkey.symm, hb'⟩
  have hpending := clientPending_setPhase (σ := σ.joinRequest c) c (.calling b rest ∅)
    hidle.2.symm
  refine ⟨fun b' key _ => hquiet b', fun b' toDo results done hb' => (hsettled b' _ _ _ hb').elim,
    fun b' key r hr' hb' => ?_, fun b' key r hb' hr' hactive => ?_⟩
  · rw [show ((σ.joinRequest c).setPhase c (.calling b rest ∅)).requests = (σ.joinRequest c).requests
      from rfl, lookup_joinRequest] at hr'
    split at hr'
    next heq =>
      cases hr'
      subst heq
      simp [ownRequest, hr] at hb'
    next hne =>
      obtain ⟨hnotDue, hnotPending⟩ := h.fresh b' key r hr' hb'
      refine ⟨fun hd => ?_, fun n hn => hnotPending n (hn.imp_right (hpending b' key n).1)⟩
      rcases hd with hd | hd
      · exact hnotDue (.inl hd)
      · rcases (hdue b' key).1 hd with hd | ⟨heq, -⟩
        · exact hnotDue (.inr hd)
        · exact hne heq
  · rw [show ((σ.joinRequest c).setPhase c (.calling b rest ∅)).requests = (σ.joinRequest c).requests
      from rfl, lookup_joinRequest] at hr'
    split at hr'
    next heq =>
      cases hr'
      refine .due (.inr ((hdue b' key).2 (.inr ⟨heq, (hs.listed.bridges b').2 hb'⟩))) ?_
      intro hasked
      have hepoch := hs.history.epochs _ hasked σ.nextEpoch (by simp [ownRequest, heq, hr])
      exact Nat.lt_irrefl _ hepoch
    next hne =>
      exact (h.pair b' key r hb' hr' hactive).mono rfl rfl
        (fun hd => hd.imp_right fun hd => (hdue b' key).2 (.inl hd))
        (fun n hn => hn.imp_right (hpending b' key n).2) (fun n hn => hn)
        (dropsOther_of_eq rfl b' key)

/-! ## A bridge is asked -/

theorem Sole.concat {x y : Asked} {n : HandleId} (h : σ.Sole y n)
    (hasked : σ'.asked = σ.asked ++ [x]) (hne : x ≠ y) : σ'.Sole y n := by
  intro m
  rw [hasked, getElem?_concat_eq_some, h m]
  simp [hne]

theorem sole_concat_self {x : Asked} (h : x ∉ σ.asked) (hasked : σ'.asked = σ.asked ++ [x]) :
    σ'.Sole x σ.asked.length := by
  intro m
  rw [hasked, getElem?_concat_eq_some]
  have hnone : σ.asked[m]? ≠ some x := fun hm => h (List.mem_of_getElem? hm)
  simp [hnone]

theorem Pair.ask_other {b : BridgeId} {key : Key} {r : ActiveRequest} {x : Asked}
    (h : σ.Pair b key r) (hasked : σ'.asked = σ.asked ++ [x]) (hdropped : σ'.dropped = σ.dropped)
    (hx : x.bridge ≠ b ∨ x.key ≠ key) (hdue : σ.Due b key → σ'.Due b key)
    (hpending : ∀ n, σ.Pending b key n → σ'.Pending b key n) : σ'.Pair b key r := by
  have hne : x ≠ ⟨b, key, some r.epoch⟩ := by
    rintro rfl
    rcases hx with hx | hx <;> exact hx rfl
  cases h with
  | due hd ha =>
      refine .due (hdue hd) ?_
      rw [hasked, List.mem_append, List.mem_singleton]
      rintro (hold | hnew)
      · exact ha hold
      · exact hne hnew.symm
  | pending n hp hsole hn => exact .pending n (hpending n hp) (hsole.concat hasked hne) (hdropped ▸ hn)
  | kept n he hsole hn => exact .kept n he (hsole.concat hasked hne) (hdropped ▸ hn)

/-- The pair whose call was due has its handle among the results. -/
theorem Pair.ask_self {b : BridgeId} {key : Key} {r : ActiveRequest} (h : σ.Pair b key r)
    (hs : Sound σ) (honce : Once σ) (hr : σ.requests.lookup key = some r) (hd : σ.Due b key)
    (hasked : σ'.asked = σ.asked ++ [⟨b, key, some r.epoch⟩]) (hdropped : σ'.dropped = σ.dropped)
    (hpending : σ'.Pending b key σ.asked.length) : σ'.Pair b key r := by
  cases h with
  | due _ ha =>
      refine .pending _ hpending (sole_concat_self ha hasked) ?_
      intro hmem
      rw [hdropped] at hmem
      exact Nat.lt_irrefl _ (hs.handles.dropped _ hmem)
  | pending n hp _ _ => exact (honce.not_pending_of_due hs hd n hp).elim
  | kept n he _ _ => exact ((honce.fresh b key r hr (mem_entries_of_lookup he)).1 hd).elim

theorem Once.answered (h : Once σ) (hs : Sound σ) {c : ClientId} {b : BridgeId}
    {rest : List (BridgeId × BridgeIdentity)} {tmp : Table BridgeId HandleId}
    (hphase : (σ.clients c).phase = .calling b rest tmp) :
    Once ((σ.ask b (σ.clients c).key).setPhase c
      (.called rest (tmp.insert b σ.asked.length))) := by
  have hduec : (σ.clients c).phase.due = b :: rest.map Prod.fst := by rw [hphase]; rfl
  have hresultsc : (σ.clients c).phase.results = tmp := by rw [hphase]; rfl
  have hasking : (σ.clients c).phase.isAsking = true := by rw [hphase]; rfl
  have hb : σ.ClientDue b (σ.clients c).key := ⟨c, rfl, by rw [hduec]; exact List.mem_cons_self⟩
  obtain ⟨hrest, -⟩ := List.nodup_cons.1 (hduec ▸ hs.loops.due c)
  have hother : ∀ c', c' ≠ c → (σ.clients c').key = (σ.clients c).key →
      (σ.clients c').phase.isAsking = true → False := by
    intro c' hne hkey hasking'
    exact hne (hs.slots.unique hkey (RequesterPhase.holdsRecord_of_isAsking hasking')
      (RequesterPhase.holdsRecord_of_isAsking hasking))
  have hdue : ∀ b' key, ((σ.ask b (σ.clients c).key).setPhase c
      (.called rest (tmp.insert b σ.asked.length))).ClientDue b' key ↔
      σ.ClientDue b' key ∧ (b' ≠ b ∨ key ≠ (σ.clients c).key) := by
    intro b' key
    rw [clientDue_setPhase_iff]
    constructor
    · rintro (⟨rfl, hb'⟩ | ⟨c', hne, hkey, hb'⟩)
      · refine ⟨⟨c, rfl, by rw [hduec]; exact List.mem_cons_of_mem _ hb'⟩, .inl ?_⟩
        rintro rfl
        exact hrest hb'
      · refine ⟨⟨c', hkey, hb'⟩, .inr ?_⟩
        rintro rfl
        exact hother c' hne hkey (isAsking_of_due hb')
    · rintro ⟨⟨c', rfl, hb'⟩, hne⟩
      by_cases hc : c' = c
      · subst hc
        rw [hduec] at hb'
        rcases List.mem_cons.1 hb' with rfl | hb'
        · simp at hne
        · exact .inl ⟨rfl, hb'⟩
      · exact .inr ⟨c', hc, rfl, hb'⟩
  have hpending : ∀ b' key n, ((σ.ask b (σ.clients c).key).setPhase c
      (.called rest (tmp.insert b σ.asked.length))).ClientPending b' key n ↔
      σ.ClientPending b' key n ∨
        b' = b ∧ key = (σ.clients c).key ∧ n = σ.asked.length := by
    intro b' key n
    have hnone : tmp.lookup b = none := by
      rw [← hresultsc]
      refine AList.lookup_eq_none.2 (hs.loops.results c b ?_)
      rw [hduec]
      exact List.mem_cons_self
    rw [clientPending_setPhase_iff]
    simp only [RequesterPhase.results, Table.lookup_insert_ite]
    constructor
    · rintro (⟨hkey, hb'⟩ | ⟨c', -, hkey, hb'⟩)
      · split at hb'
        next heq =>
          cases hb'
          exact .inr ⟨heq, hkey.symm, rfl⟩
        next => exact .inl ⟨c, hkey, by rw [hresultsc]; exact hb'⟩
      · exact .inl ⟨c', hkey, hb'⟩
    · rintro (⟨c', hkey, hb'⟩ | ⟨rfl, rfl, rfl⟩)
      · by_cases hc : c' = c
        · subst hc
          rw [hresultsc] at hb'
          refine .inl ⟨hkey, ?_⟩
          rw [if_neg]
          · exact hb'
          · rintro rfl
            rw [hnone] at hb'
            cases hb'
        · exact .inr ⟨c', hc, hkey, hb'⟩
      · exact .inl ⟨rfl, if_pos rfl⟩
  obtain ⟨r₀, hr₀, hc₀⟩ := hs.owned.owner c (RequesterPhase.owns_of_isAsking hasking)
  have hasked : ((σ.ask b (σ.clients c).key).setPhase c
      (.called rest (tmp.insert b σ.asked.length))).asked =
      σ.asked ++ [⟨b, (σ.clients c).key, some r₀.epoch⟩] := by
    simp only [Bridges.setPhase, Bridges.ask, hr₀, Option.map_some]
  refine ⟨fun b' key hb' => ?_, h.covered, fun b' key r hr hb' => ⟨fun hd => ?_, fun n hn => ?_⟩,
    fun b' key r hb' hr hactive => ?_⟩
  · rcases hb' with hb' | ⟨n, hn⟩
    · exact h.settled b' key (.inl ((hdue b' key).1 hb').1)
    · rcases (hpending b' key n).1 hn with hn | ⟨rfl, rfl, -⟩
      · exact h.settled b' key (.inr ⟨n, hn⟩)
      · exact h.settled _ _ (.inl hb)
  · exact (h.fresh b' key r hr hb').1 (hd.imp_right fun hd => ((hdue b' key).1 hd).1)
  · rcases hn with hn | hn
    · exact (h.fresh b' key r hr hb').2 n (.inl hn)
    · rcases (hpending b' key n).1 hn with hn | ⟨rfl, rfl, -⟩
      · exact (h.fresh b' key r hr hb').2 n (.inr hn)
      · exact (h.fresh _ _ r hr hb').1 (.inr hb)
  · have hpair := h.pair b' key r hb' hr hactive
    by_cases heq : b' = b ∧ key = (σ.clients c).key
    · obtain ⟨rfl, rfl⟩ := heq
      have hrr : r = r₀ := Option.some.inj (hr.symm.trans hr₀)
      subst hrr
      exact hpair.ask_self hs h hr (.inr hb) hasked rfl
        (.inr ((hpending _ _ _).2 (.inr ⟨rfl, rfl, rfl⟩)))
    · have hne : b' ≠ b ∨ key ≠ (σ.clients c).key := by tauto
      refine hpair.ask_other hasked rfl (hne.imp Ne.symm Ne.symm)
        (fun hd => hd.imp_right fun hd => (hdue b' key).2 ⟨hd, hne⟩)
        fun n hn => hn.imp_right fun hn => (hpending b' key n).2 (.inl hn)

theorem Once.called (h : Once σ) (hs : Sound σ) {b : BridgeId} {key : Key} {toDo : List Key}
    {results : Table Key HandleId} {done : Finset Key}
    (hphase : σ.bridges b = .registering toDo results done) (hkey : key ∈ toDo) :
    Once ((σ.ask b key).setBridge b (.registering (toDo.erase key)
      (results.insert key σ.asked.length) (insert key done))) := by
  have htoDo : (σ.bridges b).toDo = toDo := by rw [hphase]; rfl
  have hresults : (σ.bridges b).results = results := by rw [hphase]; rfl
  have hb : σ.Due b key := .inl (by rw [htoDo]; exact hkey)
  have hnodup : toDo.Nodup := htoDo ▸ hs.loops.toDo b
  -- the clients ask no bridge that is being registered
  have hnobody : ∀ key', ¬(σ.ClientDue b key' ∨ ∃ n, σ.ClientPending b key' n) := by
    intro key' hclient
    have hempty := (h.settled b key' hclient).1
    rw [htoDo] at hempty
    rw [hempty] at hkey
    cases hkey
  have hother : ∀ b', b' ≠ b → ((σ.ask b key).setBridge b (.registering (toDo.erase key)
      (results.insert key σ.asked.length) (insert key done))).bridges b' = σ.bridges b' :=
    fun b' hb' => Function.update_of_ne hb' _ _
  have hself : ((σ.ask b key).setBridge b (.registering (toDo.erase key)
      (results.insert key σ.asked.length) (insert key done))).bridges b =
      .registering (toDo.erase key) (results.insert key σ.asked.length) (insert key done) :=
    Function.update_self ..
  have hdue : ∀ b' key', ((σ.ask b key).setBridge b (.registering (toDo.erase key)
      (results.insert key σ.asked.length) (insert key done))).Due b' key' ↔
      σ.Due b' key' ∧ (b' ≠ b ∨ key' ≠ key) := by
    intro b' key'
    by_cases hb' : b' = b
    · subst hb'
      have hclient : ¬σ.ClientDue b' key' := fun hd => hnobody key' (.inl hd)
      rw [Due, Due, hself, htoDo]
      change key' ∈ toDo.erase key ∨ σ.ClientDue b' key' ↔ _
      rw [List.Nodup.mem_erase_iff hnodup]
      simp only [hclient, or_false, ne_eq, not_true_eq_false, false_or]
      exact and_comm
    · rw [Due, Due, hother b' hb']
      simp only [ne_eq, hb', not_false_eq_true, true_or, and_true]
      rfl
  have hpending : ∀ b' key' n, ((σ.ask b key).setBridge b (.registering (toDo.erase key)
      (results.insert key σ.asked.length) (insert key done))).Pending b' key' n ↔
      σ.Pending b' key' n ∨ b' = b ∧ key' = key ∧ n = σ.asked.length := by
    intro b' key' n
    by_cases hb' : b' = b
    · subst hb'
      have hclient : ¬σ.ClientPending b' key' n := fun hn => hnobody key' (.inr ⟨n, hn⟩)
      have hnone : results.lookup key = none := by
        rw [← hresults]
        exact AList.lookup_eq_none.2 (hs.loops.answered b' key (by rw [htoDo]; exact hkey))
      rw [Pending, Pending, hself, hresults]
      change (results.insert key σ.asked.length).lookup key' = some n ∨ σ.ClientPending b' key' n ↔ _
      rw [Table.lookup_insert_ite]
      simp only [hclient, or_false, true_and]
      split
      next heq =>
        subst heq
        simp [hnone, eq_comm]
      next hne => simp [hne]
    · rw [Pending, Pending, hother b' hb']
      simp only [hb', false_and, or_false]
      rfl
  refine ⟨fun b' key' hb' => ?_, fun b' toDo' results' done' hb' key' hkey' => ?_,
    fun b' key' r hr hb' => ⟨fun hd => ?_, fun n hn => ?_⟩, fun b' key' r hb' hr hactive => ?_⟩
  · by_cases heq : b' = b
    · subst heq
      exact (hnobody key' hb').elim
    · rw [hother b' heq]
      exact h.settled b' key' hb'
  · by_cases heq : b' = b
    · subst heq
      rw [hself] at hb'
      cases hb'
      rcases h.covered b' _ _ _ hphase key' hkey' with hmem | hmem
      · by_cases hk : key' = key
        · exact .inr ((AList.mem_insert _).2 (.inl hk))
        · exact .inl ((List.Nodup.mem_erase_iff hnodup).2 ⟨hk, hmem⟩)
      · exact .inr ((AList.mem_insert _).2 (.inr hmem))
    · rw [hother b' heq] at hb'
      exact h.covered b' _ _ _ hb' key' hkey'
  · exact (h.fresh b' key' r hr hb').1 ((hdue b' key').1 hd).1
  · rcases (hpending b' key' n).1 hn with hn | ⟨rfl, rfl, -⟩
    · exact (h.fresh b' key' r hr hb').2 n hn
    · exact (h.fresh _ _ r hr hb').1 hb
  · have hb₀ : (σ.bridges b').isRegistered = true := by
      by_cases heq : b' = b
      · rw [heq, hphase]
        rfl
      · rwa [hother b' heq] at hb'
    have hpair := h.pair b' key' r hb₀ hr hactive
    by_cases heq : b' = b ∧ key' = key
    · obtain ⟨rfl, rfl⟩ := heq
      refine hpair.ask_self hs h hr hb ?_ rfl ((hpending _ _ _).2 (.inr ⟨rfl, rfl, rfl⟩))
      have hr' : σ.requests.lookup key' = some r := hr
      simp only [Bridges.setBridge, Bridges.ask, hr', Option.map_some]
    · have hne : b' ≠ b ∨ key' ≠ key := by tauto
      exact hpair.ask_other (x := ⟨b, key, (σ.requests.lookup key).map ActiveRequest.epoch⟩) rfl rfl
        (hne.imp Ne.symm Ne.symm) (fun hd => (hdue b' key').2 ⟨hd, hne⟩)
        fun n hn => (hpending b' key' n).2 (.inl hn)

/-! ## The results are stored -/

theorem Once.not_mem_of_pending (h : Once σ) {b : BridgeId} {key : Key} {r : ActiveRequest}
    {n : HandleId} (hr : σ.requests.lookup key = some r) (hn : σ.Pending b key n) :
    b ∉ r.entries :=
  fun hb => (h.fresh b key r hr hb).2 n hn

theorem Once.stored (h : Once σ) (hs : Sound σ) {c : ClientId} {tmp : Table BridgeId HandleId}
    {r₀ : ActiveRequest} (hphase : (σ.clients c).phase = .called [] tmp)
    (hr₀ : σ.requests.lookup (σ.clients c).key = some r₀) : Once (σ.storeResults c r₀ tmp) := by
  have hresultsc : (σ.clients c).phase.results = tmp := by rw [hphase]; rfl
  have hown : ∀ b n, tmp.lookup b = some n → σ.ClientPending b (σ.clients c).key n :=
    fun b n hn => ⟨c, rfl, by rw [hresultsc]; exact hn⟩
  have honly : ∀ b n, σ.ClientPending b (σ.clients c).key n → tmp.lookup b = some n := by
    rintro b n ⟨c', hkey, hn⟩
    have hc : c' = c := hs.slots.unique hkey
      (RequesterPhase.holdsRecord_of_isAsking (isAsking_of_results hn)) (by rw [hphase]; rfl)
    subst hc
    rwa [hresultsc] at hn
  have hdue : ∀ b key, (σ.storeResults c r₀ tmp).ClientDue b key ↔ σ.ClientDue b key :=
    clientDue_setPhase c .requesting (by rw [hphase]; rfl)
  have hpending : ∀ b key n, (σ.storeResults c r₀ tmp).ClientPending b key n ↔
      σ.ClientPending b key n ∧ key ≠ (σ.clients c).key := by
    intro b key n
    refine (clientPending_setPhase_iff (σ := σ)).trans ?_
    constructor
    · rintro (⟨-, hn⟩ | ⟨c', hne, hkey, hn⟩)
      · cases hn
      · refine ⟨⟨c', hkey, hn⟩, ?_⟩
        rintro rfl
        exact hne (hs.slots.unique hkey
          (RequesterPhase.holdsRecord_of_isAsking (isAsking_of_results hn)) (by rw [hphase]; rfl))
    · rintro ⟨⟨c', hkey, hn⟩, hne⟩
      refine .inr ⟨c', ?_, hkey, hn⟩
      rintro rfl
      exact hne hkey.symm
  -- the map has none of the bridges among the results, so no handle is dropped
  have hdropped : ∀ n, n ∈ (σ.storeResults c r₀ tmp).dropped → n ∈ σ.dropped := by
    intro n hn
    rcases mem_dropped_storeResults.1 hn with hn | ⟨b, hn, hb⟩
    · exact hn
    · exact (h.not_mem_of_pending hr₀ (.inr (hown b n hn)) hb).elim
  refine ⟨fun b key hb => ?_, fun b toDo results done hb key hkey => ?_, fun b key r hr hb => ?_,
    fun b key r hb hr hactive => ?_⟩
  · refine h.settled b key (hb.imp (hdue b key).1 ?_)
    rintro ⟨n, hn⟩
    exact ⟨n, ((hpending b key n).1 hn).1⟩
  · refine h.covered b _ _ _ hb key ?_
    obtain ⟨r, hr⟩ := Option.isSome_iff_exists.1 (AList.lookup_isSome.2 hkey)
    rw [lookup_storeResults] at hr
    split at hr
    next heq => exact heq ▸ mem_entries_of_lookup hr₀
    next => exact mem_entries_of_lookup hr
  · rw [lookup_storeResults] at hr
    split at hr
    next heq =>
      cases hr
      subst heq
      have hnotDue : ¬σ.Due b (σ.clients c).key ∧ (σ.bridges b).results.lookup (σ.clients c).key =
          none := by
        rcases AList.mem_union.1 hb with hb | hb
        · obtain ⟨hd, hp⟩ := h.fresh b _ r₀ hr₀ hb
          refine ⟨hd, Option.eq_none_iff_forall_ne_some.2 fun n hn => hp n (.inl hn)⟩
        · obtain ⟨n, hn⟩ := Option.isSome_iff_exists.1 (AList.lookup_isSome.2 hb)
          refine ⟨fun hd => h.not_pending_of_due hs hd n (.inr (hown b n hn)), ?_⟩
          rw [(h.settled b _ (.inr ⟨n, hown b n hn⟩)).2]
          rfl
      refine ⟨fun hd => hnotDue.1 (hd.imp_right (hdue b _).1), fun n hn => ?_⟩
      rcases hn with hn | hn
      · have hn' : (σ.bridges b).results.lookup (σ.clients c).key = some n := hn
        rw [hnotDue.2] at hn'
        cases hn'
      · exact ((hpending b _ n).1 hn).2 rfl
    next hne =>
      obtain ⟨hd, hp⟩ := h.fresh b key r hr hb
      exact ⟨fun hd' => hd (hd'.imp_right (hdue b key).1),
        fun n hn => hp n (hn.imp_right fun hn => ((hpending b key n).1 hn).1)⟩
  · rw [lookup_storeResults] at hr
    split at hr
    next heq =>
      cases hr
      subst heq
      have hkept : ∀ n, (r₀.entries ∪ tmp).lookup b = some n → σ.Sole ⟨b, _, some r₀.epoch⟩ n →
          n ∉ σ.dropped → (σ.storeResults c r₀ tmp).Pair b (σ.clients c).key
            { r₀ with entries := r₀.entries ∪ tmp } :=
        fun n hn hsole hnot => .kept n hn (hsole.congr rfl) fun hmem => hnot (hdropped n hmem)
      cases h.pair b _ r₀ hb hr₀ hactive with
      | due hd ha => exact .due (hd.imp_right (hdue b _).2) ha
      | pending n hp hsole hnot =>
          have hb' := h.not_mem_of_pending hr₀ hp
          rcases hp with hp | hp
          · exact .pending n (.inl hp) (hsole.congr rfl) fun hmem => hnot (hdropped n hmem)
          · exact hkept n (lookup_union_eq_some.2 (.inr ⟨hb', honly b n hp⟩)) hsole hnot
      | kept n he hsole hnot => exact hkept n (lookup_union_eq_some.2 (.inl he)) hsole hnot
    next hne =>
      exact (h.pair b key r hb hr hactive).mono rfl rfl
        (fun hd => hd.imp_right (hdue b key).2)
        (fun n hn => hn.imp_right fun hn => (hpending b key n).2 ⟨hn, hne⟩) (fun n hn => hn)
        fun n hn => .inl (hdropped n hn)

/-! ## Bridges come and go -/

theorem due_congr {b : BridgeId} (hbridge : σ'.bridges b = σ.bridges b)
    (hclients : σ'.clients = σ.clients) (key : Key) : σ'.Due b key ↔ σ.Due b key := by
  rw [Due, Due, ClientDue, ClientDue, hbridge, hclients]

theorem pending_congr {b : BridgeId} (hbridge : σ'.bridges b = σ.bridges b)
    (hclients : σ'.clients = σ.clients) (key : Key) (n : HandleId) :
    σ'.Pending b key n ↔ σ.Pending b key n := by
  rw [Pending, Pending, ClientPending, ClientPending, hbridge, hclients]

theorem Once.registered (h : Once σ) (hs : Sound σ) {b : BridgeId} (identity : BridgeIdentity)
    (place : Nat) (habsent : σ.bridges b = .absent) :
    Once (σ.registerServiceBridge b identity place) := by
  have hother : ∀ b', b' ≠ b →
      (σ.registerServiceBridge b identity place).bridges b' = σ.bridges b' :=
    fun b' hb' => Function.update_of_ne hb' _ _
  have hself : (σ.registerServiceBridge b identity place).bridges b =
      .registering σ.requests.keys ∅ ∅ := Function.update_self ..
  have hunasked : ∀ key n, ¬σ.answers b key n := by
    rintro key n ⟨epoch, hn⟩
    exact hs.history.bridges _ (List.mem_of_getElem? hn) habsent
  have hnobody : ∀ key, ¬(σ.ClientDue b key ∨ ∃ n, σ.ClientPending b key n) := by
    rintro key (⟨c, -, hc⟩ | ⟨n, c, -, hn⟩)
    · exact hs.loops.known c b hc habsent
    · exact hunasked _ n (hs.handles.clients c b n hn)
  refine ⟨fun b' key hb' => ?_, fun b' toDo results done hb' key hkey => ?_,
    fun b' key r hr hb' => ?_, fun b' key r hb' hr hactive => ?_⟩
  · by_cases heq : b' = b
    · subst heq
      exact (hnobody key hb').elim
    · rw [hother b' heq]
      exact h.settled b' key hb'
  · by_cases heq : b' = b
    · subst heq
      rw [hself] at hb'
      cases hb'
      exact .inl (AList.mem_keys.1 hkey)
    · rw [hother b' heq] at hb'
      exact h.covered b' _ _ _ hb' key hkey
  · have hne : b' ≠ b := by
      rintro rfl
      obtain ⟨n, hn⟩ := Option.isSome_iff_exists.1 (AList.lookup_isSome.2 hb')
      exact hunasked key n (hs.handles.entries key r b' n hr hn)
    obtain ⟨hd, hp⟩ := h.fresh b' key r hr hb'
    exact ⟨fun hd' => hd ((due_congr (hother b' hne) rfl key).1 hd'),
      fun n hn => hp n ((pending_congr (hother b' hne) rfl key n).1 hn)⟩
  · by_cases heq : b' = b
    · subst heq
      refine .due (.inl ?_) fun hasked => hs.history.bridges _ hasked habsent
      rw [hself]
      exact AList.mem_keys.1 (mem_entries_of_lookup hr)
    · rw [hother b' heq] at hb'
      exact (h.pair b' key r hb' hr hactive).mono rfl rfl (due_congr (hother b' heq) rfl key).2
        (fun n => (pending_congr (hother b' heq) rfl key n).2) (fun n hn => hn)
        (dropsOther_of_eq rfl b' key)

theorem accepts_eq_true {b : BridgeId} {key : Key} {r : ActiveRequest}
    (hr : σ.requests.lookup key = some r) (hactive : r.owners ≠ ∅) (hb : b ∉ r.entries) :
    σ.accepts b key = true := by
  have hlocked := locked_eq_some.2 ⟨hr, hactive⟩
  simp [accepts, hlocked, hb]

theorem lookup_entries_mergedRequest_ne {b b' : BridgeId} (hne : b' ≠ b)
    (results : Table Key HandleId) (key : Key) (r : ActiveRequest) :
    (σ.mergedRequest b results key r).entries.lookup b' = r.entries.lookup b' := by
  unfold mergedRequest
  split
  · split
    · rw [Table.lookup_insert_ite, if_neg hne]
    · rfl
  · rfl

theorem Once.merged (h : Once σ) (hs : Sound σ) {b : BridgeId} {results : Table Key HandleId}
    {done : Finset Key} (hphase : σ.bridges b = .registering [] results done) :
    Once (σ.mergeResults b results done) := by
  have hresults : (σ.bridges b).results = results := by rw [hphase]; rfl
  have hall : ∀ key r, σ.requests.lookup key = some r → ∃ n, results.lookup key = some n := by
    intro key r hr
    rcases h.covered b _ _ _ hphase key (mem_entries_of_lookup hr) with hmem | hmem
    · cases hmem
    · exact Option.isSome_iff_exists.1 (AList.lookup_isSome.2 hmem)
  have hnobody : ∀ key r, σ.requests.lookup key = some r →
      ¬(σ.ClientDue b key ∨ ∃ n, σ.ClientPending b key n) := by
    intro key r hr hclient
    obtain ⟨n, hn⟩ := hall key r hr
    rw [← hresults, (h.settled b key hclient).2] at hn
    cases hn
  have hself : (σ.mergeResults b results done).bridges b = .registered := by
    have htoDo : (σ.requests.keys.filter fun key => key ∉ results ∧ key ∉ done) = [] := by
      refine List.filter_eq_nil_iff.2 fun key hkey => ?_
      obtain ⟨r, hr⟩ := Table.mem_keys_iff_lookup.1 hkey
      obtain ⟨n, hn⟩ := hall key r hr
      simp [mem_entries_of_lookup hn]
    simp only [mergeResults, htoDo, if_true]
    exact Function.update_self ..
  have hother : ∀ b', b' ≠ b → (σ.mergeResults b results done).bridges b' = σ.bridges b' :=
    fun b' hb' => Function.update_of_ne hb' _ _
  have hdue : ∀ b' key, (σ.mergeResults b results done).Due b' key → σ.Due b' key := by
    intro b' key hd
    by_cases heq : b' = b
    · subst heq
      rcases hd with hd | hd
      · rw [hself] at hd
        cases hd
      · exact .inr hd
    · exact (due_congr (hother b' heq) rfl key).1 hd
  have hpending : ∀ b' key n, (σ.mergeResults b results done).Pending b' key n →
      σ.Pending b' key n := by
    intro b' key n hn
    by_cases heq : b' = b
    · subst heq
      rcases hn with hn | hn
      · rw [hself] at hn
        cases hn
      · exact .inr hn
    · exact (pending_congr (hother b' heq) rfl key n).1 hn
  refine ⟨fun b' key hb' => ?_, fun b' toDo results' done' hb' key hkey => ?_,
    fun b' key r hr hb' => ?_, fun b' key r hb' hr hactive => ?_⟩
  · by_cases heq : b' = b
    · rw [heq, hself]
      exact ⟨rfl, rfl⟩
    · rw [hother b' heq]
      exact h.settled b' key hb'
  · by_cases heq : b' = b
    · rw [heq, hself] at hb'
      cases hb'
    · rw [hother b' heq] at hb'
      refine h.covered b' _ _ _ hb' key ?_
      obtain ⟨r, hr⟩ := Option.isSome_iff_exists.1 (AList.lookup_isSome.2 hkey)
      rw [lookup_mergeResults, Option.map_eq_some_iff] at hr
      obtain ⟨r', hr', -⟩ := hr
      exact mem_entries_of_lookup hr'
  · rw [lookup_mergeResults, Option.map_eq_some_iff] at hr
    obtain ⟨r', hr', rfl⟩ := hr
    by_cases heq : b' = b
    · subst heq
      refine ⟨fun hd => ?_, fun n hn => ?_⟩
      · rcases hd with hd | hd
        · rw [hself] at hd
          cases hd
        · exact hnobody key r' hr' (.inl hd)
      · rcases hn with hn | hn
        · rw [hself] at hn
          cases hn
        · exact hnobody key r' hr' (.inr ⟨n, hn⟩)
    · have hold : b' ∈ r'.entries := by
        rw [← AList.lookup_isSome] at hb' ⊢
        rwa [lookup_entries_mergedRequest_ne heq] at hb'
      obtain ⟨hd, hp⟩ := h.fresh b' key r' hr' hold
      exact ⟨fun hd' => hd (hdue b' key hd'), fun n hn => hp n (hpending b' key n hn)⟩
  · rw [lookup_mergeResults, Option.map_eq_some_iff] at hr
    obtain ⟨r', hr', rfl⟩ := hr
    obtain ⟨howners, -, hepoch⟩ := mergedRequest_owners (σ := σ) b results key r'
    rw [howners] at hactive
    by_cases heq : b' = b
    · subst heq
      obtain ⟨n, hn⟩ := hall key r' hr'
      have hp : σ.Pending b' key n := .inl (by rw [hresults]; exact hn)
      have hnew := h.not_mem_of_pending hr' hp
      have haccepts := accepts_eq_true hr' hactive hnew
      cases h.pair b' key r' (by rw [hphase]; rfl) hr' hactive with
      | due hd ha => exact (h.not_pending_of_due hs hd n hp).elim
      | kept m he hsole hnot => exact (hnew (mem_entries_of_lookup he)).elim
      | pending m hp' hsole hnot =>
          have hm : results.lookup key = some m := by
            rcases hp' with hp' | hp'
            · rwa [hresults] at hp'
            · exact (hnobody key r' hr' (.inr ⟨m, hp'⟩)).elim
          refine .kept m ?_ (by rw [hepoch]; exact hsole.congr rfl) fun hmem => ?_
          · simp only [mergedRequest, hm, haccepts, if_true, Table.lookup_insert_ite]
          · rcases mem_dropped_mergeResults.1 hmem with hmem | ⟨key', hm', hrejects⟩
            · exact hnot hmem
            · have hkey := (answers_unique (hs.handles.bridges b' key' m
                (by rw [hresults]; exact hm')) hsole.answers).2
              rw [hkey, haccepts] at hrejects
              cases hrejects
    · rw [hother b' heq] at hb'
      refine (h.pair b' key r' hb' hr' hactive).mono rfl hepoch
        (due_congr (hother b' heq) rfl key).2 (fun n => (pending_congr (hother b' heq) rfl key n).2)
        (fun n hn => by rw [lookup_entries_mergedRequest_ne heq]; exact hn) fun n hn => ?_
      rcases mem_dropped_mergeResults.1 hn with hn | ⟨key', hn, -⟩
      · exact .inl hn
      · refine .inr fun hanswers => heq ?_
        exact (answers_unique hanswers (hs.handles.bridges b key' n (by rw [hresults]; exact hn))).1

theorem Once.stopped (h : Once σ) (hs : Sound σ) {b : BridgeId}
    (hphase : σ.bridges b = .registered) : Once (σ.stopRegistration b) := by
  have hself : (σ.stopRegistration b).bridges b = .stopped := Function.update_self ..
  have hother : ∀ b', b' ≠ b → (σ.stopRegistration b).bridges b' = σ.bridges b' :=
    fun b' hb' => Function.update_of_ne hb' _ _
  have hidle : ∀ b', ((σ.stopRegistration b).bridges b').toDo = (σ.bridges b').toDo ∧
      ((σ.stopRegistration b).bridges b').results = (σ.bridges b').results := by
    intro b'
    by_cases heq : b' = b
    · rw [heq, hself, hphase]
      exact ⟨rfl, rfl⟩
    · rw [hother b' heq]
      exact ⟨rfl, rfl⟩
  have hdue : ∀ b' key, (σ.stopRegistration b).Due b' key ↔ σ.Due b' key := fun b' key => by
    rw [Due, Due, (hidle b').1]
    rfl
  have hpending : ∀ b' key n, (σ.stopRegistration b).Pending b' key n ↔ σ.Pending b' key n :=
    fun b' key n => by
      rw [Pending, Pending, (hidle b').2]
      rfl
  refine ⟨fun b' key hb' => ?_, fun b' toDo results done hb' key hkey => ?_,
    fun b' key r hr hb' => ?_, fun b' key r hb' hr hactive => ?_⟩
  · rw [(hidle b').1, (hidle b').2]
    exact h.settled b' key hb'
  · by_cases heq : b' = b
    · rw [heq, hself] at hb'
      cases hb'
    · rw [hother b' heq] at hb'
      refine h.covered b' _ _ _ hb' key ?_
      obtain ⟨r, hr⟩ := Option.isSome_iff_exists.1 (AList.lookup_isSome.2 hkey)
      rw [lookup_stopRegistration, Option.map_eq_some_iff] at hr
      obtain ⟨r', hr', -⟩ := hr
      exact mem_entries_of_lookup hr'
  · rw [lookup_stopRegistration, Option.map_eq_some_iff] at hr
    obtain ⟨r', hr', rfl⟩ := hr
    simp only [hdue, hpending]
    exact h.fresh b' key r' hr' (AList.mem_erase.1 hb').2
  · rw [lookup_stopRegistration, Option.map_eq_some_iff] at hr
    obtain ⟨r', hr', rfl⟩ := hr
    have heq : b' ≠ b := by
      rintro rfl
      rw [hself] at hb'
      cases hb'
    rw [hother b' heq] at hb'
    refine (h.pair b' key r' hb' hr' hactive).mono rfl rfl (hdue b' key).2
      (fun n => (hpending b' key n).2) (fun n hn => ?_) fun n hn => ?_
    · rw [Table.lookup_erase_ite, if_neg heq]
      exact hn
    · rcases mem_dropped_stopRegistration.1 hn with hn | ⟨key', r, hr, hn⟩
      · exact .inl hn
      · exact .inr fun hanswers =>
          heq (answers_unique hanswers (hs.handles.entries key' r b n hr hn)).1

/-! ## Runs -/

theorem Once.init : Once {} :=
  ⟨fun _ _ _ => ⟨rfl, rfl⟩, nofun, nofun, nofun⟩

theorem Once.step (h : Once σ) (hs : Sound σ) (hok : σ.beginsSettled label)
    (hstep : Step σ label σ') : Once σ' := by
  have hkeep : ∀ key r', σ.requests.lookup key = some r' → ∃ r, σ.requests.lookup key = some r ∧
      r'.epoch = r.epoch ∧ (∀ b ∈ r'.entries, b ∈ r.entries) ∧ (r'.owners ≠ ∅ → r.owners ≠ ∅ ∧
        (∀ b, r'.entries.lookup b = r.entries.lookup b) ∧ ∀ b, DropsOther σ σ b key) :=
    fun key r hr => ⟨r, hr, rfl, fun _ hb => hb,
      fun hactive => ⟨hactive, fun _ => rfl, fun b => dropsOther_of_eq rfl b key⟩⟩
  cases hstep with
  | serverChanged => exact h.frame rfl rfl (fun _ _ => .rfl) (fun _ _ _ => .rfl) hkeep
  | refused => exact h
  | made c key phase habsent hfree hphase => exact h.made habsent hphase
  | began c b rest hphase hnext =>
      obtain ⟨hlocked, hcallbacks⟩ := hs.owned.callbacks_of_began hnext
      exact h.began hs hphase hlocked (hok hlocked) hcallbacks
  | joined c hphase hnext =>
      cases hlocked : σ.locked (σ.clients c).key with
      | some r => exact h.joined_active hphase hlocked
      | none =>
          refine h.joined_alone hs hphase hlocked ?_
          have hhead := nextForwarded_replicate 0 σ.callbacks
          simp only [ownRequest, hlocked] at hnext
          simp only [List.replicate, hnext, if_true] at hhead
          cases hcallbacks : σ.callbacks with
          | nil => rfl
          | cons bridge rest =>
              rw [hcallbacks] at hhead
              cases hhead
  | answered c b rest tmp hphase => exact h.answered hs hphase
  | resumed c b rest rest' tmp r hphase hr hnext =>
      refine h.frame rfl rfl (clientDue_setPhase c _ ?_) (clientPending_setPhase c _ ?_) hkeep
      · rw [hphase]
        exact (hs.owned.rest_of_resumed hphase hr hnext).symm
      · rw [hphase]
        rfl
  | stored c rest tmp r hphase hr hnext =>
      have hrest := hs.owned.rest_of_stored hphase hr hnext
      subst hrest
      exact h.stored hs hphase hr
  | left c phase hphase =>
      refine h.frame rfl rfl (clientDue_setPhase (σ := σ.setRecord _ _) c _ ?_)
        (clientPending_setPhase (σ := σ.setRecord _ _) c _ ?_) hkeep
      · rcases hphase with ⟨hphase, rfl⟩ | ⟨hphase, rfl⟩ <;> simp [Bridges.setRecord, hphase,
          RequesterPhase.due]
      · rcases hphase with ⟨hphase, rfl⟩ | ⟨hphase, rfl⟩ <;> simp [Bridges.setRecord, hphase,
          RequesterPhase.results]
  | released c r hphase hr =>
      refine h.frame rfl rfl (clientDue_setPhase c .released (by rw [hphase]; rfl))
        (clientPending_setPhase c .released (by rw [hphase]; rfl)) fun key r' hr' => ?_
      have hdropped : ∀ b, (key ≠ (σ.clients c).key ∨ r.owners.erase c ≠ ∅) →
          DropsOther σ (σ.releaseRequest c r) b key := by
        intro b hne n hn
        rcases mem_dropped_releaseRequest.1 hn with hn | ⟨hempty, b', hn⟩
        · exact .inl hn
        · refine .inr fun hanswers => ?_
          rcases hne with hne | hne
          · exact hne (answers_unique hanswers (hs.handles.entries _ r b' n hr hn)).2
          · exact hne hempty
      rw [lookup_releaseRequest] at hr'
      split at hr'
      next heq =>
        cases hr'
        refine ⟨r, heq ▸ hr, rfl, fun b hb => ?_, fun hactive => ⟨?_, fun b => ?_, fun b => ?_⟩⟩
        · dsimp only at hb
          split at hb
          · exact (AList.notMem_empty b hb).elim
          · exact hb
        · exact fun hempty => hactive (by simp [hempty])
        · rw [if_neg hactive]
        · exact hdropped b (.inr hactive)
      next hne =>
        exact ⟨r', hr', rfl, fun _ hb => hb,
          fun hactive => ⟨hactive, fun _ => rfl, fun b => hdropped b (.inl hne)⟩⟩
  | cleaned c hphase =>
      refine h.frame rfl rfl (clientDue_setPhase c .destroyed (by rw [hphase]; rfl))
        (clientPending_setPhase c .destroyed (by rw [hphase]; rfl)) fun key r' hr' => ?_
      exact ⟨r', lookup_of_cleanupKey hr', rfl, fun _ hb => hb,
        fun hactive => ⟨hactive, fun _ => rfl, fun b => dropsOther_of_eq rfl b key⟩⟩
  | registered b identity place habsent => exact h.registered hs identity place habsent
  | called b key toDo results done hphase hkey => exact h.called hs hphase hkey
  | merged b results done hphase => exact h.merged hs hphase
  | stopped b hphase => exact h.stopped hs hphase

theorem Once.reachable (h : Reach next beginsSettled {} σ) : Once σ :=
  h.invariant_of_reach .init fun _ _ _ hreach honce hok hnext =>
    honce.step (.reachable hreach) hok (step_of_next hnext)

/-- For a registered bridge and an active request: the bridge was asked at most once,
its handle has not been destroyed, and once both loops have returned the bridge was
asked and the map has its handle. -/
theorem asked_exactly_once {b : BridgeId} (key : Key) {r : ActiveRequest}
    (h : Reach next beginsSettled {} σ) (hb : (σ.bridges b).isRegistered = true)
    (hr : σ.requests.lookup key = some r) (hactive : r.owners ≠ ∅) :
    (∀ n m : HandleId, σ.asked[n]? = some ⟨b, key, some r.epoch⟩ →
      σ.asked[m]? = some ⟨b, key, some r.epoch⟩ → n = m) ∧
    (∀ n : HandleId, σ.asked[n]? = some ⟨b, key, some r.epoch⟩ → n ∉ σ.dropped) ∧
    (σ.bridges b = .registered →
      (∀ c, (σ.clients c).key = key → (σ.clients c).phase.isAsking = false) →
      ∃ n : HandleId, σ.asked[n]? = some ⟨b, key, some r.epoch⟩ ∧ r.entries.lookup b = some n) := by
  have hsole : ∀ n₀, σ.Sole ⟨b, key, some r.epoch⟩ n₀ → n₀ ∉ σ.dropped →
      (∀ n m : HandleId, σ.asked[n]? = some ⟨b, key, some r.epoch⟩ →
        σ.asked[m]? = some ⟨b, key, some r.epoch⟩ → n = m) ∧
      ∀ n : HandleId, σ.asked[n]? = some ⟨b, key, some r.epoch⟩ → n ∉ σ.dropped := by
    intro n₀ hsole hnot
    refine ⟨fun n m hn hm => ((hsole n).1 hn).trans ((hsole m).1 hm).symm, fun n hn => ?_⟩
    rw [(hsole n).1 hn]
    exact hnot
  cases (Once.reachable h).pair b key r hb hr hactive with
  | due hdue hasked =>
      have hnone : ∀ n : HandleId, σ.asked[n]? ≠ some ⟨b, key, some r.epoch⟩ :=
        fun n hn => hasked (List.mem_of_getElem? hn)
      refine ⟨fun n m hn => (hnone n hn).elim, fun n hn => (hnone n hn).elim, ?_⟩
      intro hregistered hreturned
      rcases hdue with hdue | ⟨c, hkey, hdue⟩
      · rw [hregistered] at hdue
        cases hdue
      · have hasking := isAsking_of_due hdue
        rw [hreturned c hkey] at hasking
        cases hasking
  | pending n hpending hs hnot =>
      refine ⟨(hsole n hs hnot).1, (hsole n hs hnot).2, fun hregistered hreturned => ?_⟩
      rcases hpending with hpending | ⟨c, hkey, hpending⟩
      · rw [hregistered] at hpending
        cases hpending
      · have hasking := isAsking_of_results hpending
        rw [hreturned c hkey] at hasking
        cases hasking
  | kept n hentry hs hnot =>
      exact ⟨(hsole n hs hnot).1, (hsole n hs hnot).2, fun _ _ => ⟨n, (hs n).2 rfl, hentry⟩⟩

/-- A client asks a bridge that was registered before. -/
theorem asked_exactly_once_registered :
    ∃ σ r, Reach next beginsSettled {} σ ∧ σ.bridges 0 = .registered ∧
      σ.requests.lookup (someKey 0) = some r ∧ r.owners ≠ ∅ ∧
      (∀ n m : HandleId, σ.asked[n]? = some ⟨0, someKey 0, some r.epoch⟩ →
        σ.asked[m]? = some ⟨0, someKey 0, some r.epoch⟩ → n = m) ∧
      ∃ n : HandleId, σ.asked[n]? = some ⟨0, someKey 0, some r.epoch⟩ ∧ r.entries.lookup 0 = some n := by
  have hrun : Reach next beginsSettled {} _ :=
    ((((((Reach.init.step (a := .registerServiceBridge 0 7 0) trivial rfl).step
      (a := .mergeResults 0) trivial rfl).step
      (a := .makeClientConnector 0 (someKey 0)) trivial rfl).step
      (a := .getBridgeRequests 0) (fun _ b _ _ _ hb => by
        cases b with
        | zero => cases hb
        | succ b => cases hb) rfl).step (a := .requestService 0) trivial rfl).step
      (a := .resume 0) trivial rfl)
  obtain ⟨honce, -, hkept⟩ := asked_exactly_once (b := 0) (someKey 0) hrun (by decide) rfl (by decide)
  refine ⟨_, _, hrun, by decide, rfl, by decide, honce, hkept (by decide) fun c _ => ?_⟩
  cases c with
  | zero => rfl
  | succ c => rfl

/-- A request begins while the bridge is between the two sections of its registration:
the client and the registration both ask it, and the second handle is destroyed while
the request is active. -/
theorem asked_twice :
    ∃ σ, Reach next (fun _ _ => True) {} σ ∧
      (σ.bridges 0 = .registered ∧ (σ.clients 0).phase = .requesting ∧
        (σ.requests.lookup (someKey 0)).any (fun r => r.owners ≠ ∅ ∧
          σ.asked = [⟨0, someKey 0, some r.epoch⟩, ⟨0, someKey 0, some r.epoch⟩]) = true ∧
        1 ∈ σ.dropped) :=
  (exists_reach_of_runFrom next (fun _ _ => True) {}
    [.registerServiceBridge 0 7 0, .makeClientConnector 0 (someKey 0), .getBridgeRequests 0,
      .mergeResults 0, .requestService 0, .requestFor 0 (someKey 0), .resume 0, .mergeResults 0]
    (fun σ => σ.bridges 0 = .registered ∧ (σ.clients 0).phase = .requesting ∧
      (σ.requests.lookup (someKey 0)).any (fun r => r.owners ≠ ∅ ∧
        σ.asked = [⟨0, someKey 0, some r.epoch⟩, ⟨0, someKey 0, some r.epoch⟩]) = true ∧
      1 ∈ σ.dropped)
    (by decide)).imp fun σ h => ⟨h.1, of_decide_eq_true h.2⟩

end Bridges

end Socom

end SomeipGateway
