import SomeipGateway.Lib.Custody
import SomeipGateway.Socom.BridgeRequests

/-! # Where the handles of the bridges are

A call of `request_service` returns a handle, and the bridge takes the service for
requested as long as the handle is there. The handles lie in the maps of the requests
and, while a loop is between two lock sections, in its local results. None is lost and
none is kept twice, in whatever order the sections are taken, and when the clients that
requested services are gone, all of them have been given up.
-/

namespace SomeipGateway

namespace Socom

/-- Where a handle can be. -/
inductive HandlePlace where
  /-- The map of the request has it. -/
  | request (key : Key) (b : BridgeId)
  /-- It is a result of `get_bridge_requests`. -/
  | client (c : ClientId) (b : BridgeId)
  /-- It is a result of `register_bridge`. -/
  | bridge (b : BridgeId) (key : Key)
deriving DecidableEq

namespace Bridges

variable {σ σ' : Bridges} {label : Label}

def entry (σ : Bridges) (key : Key) (b : BridgeId) : Option HandleId :=
  (σ.requests.lookup key).bind fun r => r.entries.lookup b

def held (σ : Bridges) : HandlePlace → Option HandleId
  | .request key b => σ.entry key b
  | .client c b => (σ.clients c).phase.results.lookup b
  | .bridge b key => (σ.bridges b).results.lookup key

theorem held_congr (hentry : ∀ key b, σ'.entry key b = σ.entry key b)
    (hclients : ∀ c, (σ'.clients c).phase.results = (σ.clients c).phase.results)
    (hbridges : ∀ b, (σ'.bridges b).results = (σ.bridges b).results) : σ'.held = σ.held := by
  funext p
  cases p with
  | request key b => exact hentry key b
  | client c b => simp only [held, hclients]
  | bridge b key => simp only [held, hbridges]

theorem entry_of_lookup {key : Key} {r : ActiveRequest} (hr : σ.requests.lookup key = some r)
    (b : BridgeId) : σ.entry key b = r.entries.lookup b := by
  simp [entry, hr]

/-! ## Expired requests have no handles -/

def ExpiredEmpty (σ : Bridges) : Prop :=
  ∀ key r, σ.requests.lookup key = some r → r.owners = ∅ → r.entries = ∅

theorem ExpiredEmpty.joinRequest (h : ExpiredEmpty σ) (c : ClientId) :
    ExpiredEmpty (σ.joinRequest c) := by
  intro key r hr howners
  rw [lookup_joinRequest] at hr
  split at hr
  next =>
    cases hr
    have hmem := mem_owners_ownRequest σ c key
    simp [howners] at hmem
  next => exact h key r hr howners

theorem ExpiredEmpty.storeResults (h : ExpiredEmpty σ) (c : ClientId) {r : ActiveRequest}
    (tmp : Table BridgeId HandleId) (howner : r.owners ≠ ∅) :
    ExpiredEmpty (σ.storeResults c r tmp) := by
  intro key r' hr' howners
  rw [lookup_storeResults] at hr'
  split at hr'
  next =>
    cases hr'
    exact absurd howners howner
  next => exact h key r' hr' howners

theorem ExpiredEmpty.step (h : ExpiredEmpty σ) (howned : Owned σ) (hstep : Step σ label σ') :
    ExpiredEmpty σ' := by
  cases hstep with
  | serverChanged | refused | made | answered | resumed | left | registered | called => exact h
  | began c => exact h.joinRequest c
  | joined c =>
      exact (h.joinRequest c).storeResults c ∅
        (Finset.ne_empty_of_mem (mem_owners_ownRequest σ c _))
  | stored c rest tmp r hphase hr hnext =>
      obtain ⟨r', hr', hc⟩ := howned.owner c (by rw [hphase]; rfl)
      cases hr.symm.trans hr'
      exact h.storeResults c tmp (Finset.ne_empty_of_mem hc)
  | released c r hphase hr =>
      intro key r' hr' howners
      rw [lookup_releaseRequest] at hr'
      split at hr'
      next =>
        cases hr'
        exact if_pos howners
      next => exact h key r' hr' howners
  | cleaned c hphase => exact fun key r hr => h key r (lookup_of_cleanupKey hr)
  | merged b results done hphase =>
      intro key r hr howners
      rw [lookup_mergeResults, Option.map_eq_some_iff] at hr
      obtain ⟨r', hr', rfl⟩ := hr
      rw [(mergedRequest_owners b results key r').1] at howners
      have hexpired : σ.accepts b key = false := by simp [accepts, locked, hr', howners]
      unfold mergedRequest
      rw [hexpired]
      split <;> exact h key r' hr' howners
  | stopped b hphase =>
      intro key r hr howners
      rw [lookup_stopRegistration, Option.map_eq_some_iff] at hr
      obtain ⟨r', hr', rfl⟩ := hr
      simp only [h key r' hr' howners]
      rfl

/-! ## The sections and the handles -/

theorem entry_ownRequest (h : ExpiredEmpty σ) (c : ClientId) (key : Key) (b : BridgeId) :
    (σ.ownRequest c key).entries.lookup b = σ.entry key b := by
  unfold ownRequest
  cases hlocked : σ.locked key with
  | some r => exact (entry_of_lookup (locked_eq_some.1 hlocked).1 b).symm
  | none =>
      -- what the new request replaces has no entries
      cases hr : σ.requests.lookup key with
      | none => simp [entry, hr]
      | some r =>
          have howners : r.owners = ∅ := by simpa [locked, hr] using hlocked
          simp [entry, hr, h key r hr howners]

theorem entry_joinRequest (h : ExpiredEmpty σ) (c : ClientId) (key : Key) (b : BridgeId) :
    (σ.joinRequest c).entry key b = σ.entry key b := by
  by_cases hkey : key = (σ.clients c).key
  · rw [entry, lookup_joinRequest, if_pos hkey]
    exact entry_ownRequest h c key b
  · rw [entry, lookup_joinRequest, if_neg hkey]
    rfl

theorem entry_storeResults (c : ClientId) (r : ActiveRequest) (tmp : Table BridgeId HandleId)
    (key : Key) (b : BridgeId) :
    (σ.storeResults c r tmp).entry key b =
      if key = (σ.clients c).key then (r.entries ∪ tmp).lookup b else σ.entry key b := by
  rw [entry, lookup_storeResults]
  split <;> rfl

/-- Where the handles are taken from when `get_bridge_requests` stores its results. -/
def storeSource (σ : Bridges) (c : ClientId) (r : ActiveRequest) : HandlePlace → Option HandlePlace
  | .request key b =>
      some (if key = (σ.clients c).key ∧ b ∉ r.entries then .client c b else .request key b)
  | .client c' b => if c' = c then none else some (.client c' b)
  | p => some p

theorem held_storeResults_client (c c' : ClientId) (r : ActiveRequest)
    (tmp : Table BridgeId HandleId) (b : BridgeId) :
    (σ.storeResults c r tmp).held (.client c' b) =
      if c' = c then none else σ.held (.client c' b) := by
  simp only [held]
  rw [show ((σ.storeResults c r tmp).clients c').phase = _ from setPhase_phase σ c c' .requesting]
  split <;> rfl

theorem storeResults_transfers {c : ClientId} {r : ActiveRequest}
    {tmp : Table BridgeId HandleId} (hr : σ.requests.lookup (σ.clients c).key = some r)
    (htmp : (σ.clients c).phase.results = tmp) :
    Transfers σ.held (σ.storeResults c r tmp).held σ.dropped (σ.storeResults c r tmp).dropped
      (σ.storeSource c r) where
  held_eq := by
    intro q
    cases q with
    | request key b =>
        simp only [held, storeSource, entry_storeResults, Option.bind_some]
        by_cases hkey : key = (σ.clients c).key
        · by_cases hb : b ∈ r.entries
          · simp [hkey, hb, entry_of_lookup hr, AList.lookup_union_left hb]
          · simp [hkey, hb, htmp, AList.lookup_union_right hb]
        · simp [hkey]
    | client c' b =>
        rw [held_storeResults_client, storeSource]
        split <;> rfl
    | bridge b key => rfl
  source_inj := by
    intro q q' p hq hq'
    cases q <;> cases q' <;> grind [storeSource]
  drops := by
    intro n
    rw [mem_dropped_storeResults]
    refine or_congr_right ⟨?_, ?_⟩
    · rintro ⟨b, hn, hb⟩
      refine ⟨.client c b, by rwa [held, htmp], fun q => ?_⟩
      cases q <;> grind [storeSource]
    · rintro ⟨p, hp, hlost⟩
      cases p with
      | request key b =>
          have hsource := hlost (.request key b)
          simp only [storeSource] at hsource
          split at hsource
          next hfree =>
            rw [held, hfree.1, entry_of_lookup hr, AList.lookup_eq_none.2 hfree.2] at hp
            cases hp
          next => exact absurd rfl hsource
      | client c' b =>
          have hc : c' = c := by
            by_contra hne
            exact hlost (.client c' b) (by simp [storeSource, hne])
          refine ⟨b, by rwa [held, hc, htmp] at hp, ?_⟩
          by_contra hb
          exact hlost (.request (σ.clients c).key b) (by simp [storeSource, hb, hc])
      | bridge b key => exact absurd rfl (hlost (.bridge b key))

/-- The handles of a request go with its last owner. -/
def releases (σ : Bridges) (c : ClientId) (r : ActiveRequest) : HandlePlace → Bool
  | .request key _ => key = (σ.clients c).key ∧ r.owners.erase c = ∅
  | _ => false

theorem held_releaseRequest_client {c : ClientId} (r : ActiveRequest)
    (hphase : (σ.clients c).phase = .unregistered) (c' : ClientId) (b : BridgeId) :
    (σ.releaseRequest c r).held (.client c' b) = σ.held (.client c' b) := by
  simp only [held]
  rw [show ((σ.releaseRequest c r).clients c').phase = _ from setPhase_phase σ c c' .released]
  split
  next hc =>
    rw [hc, hphase]
    rfl
  next => rfl

theorem entry_releaseRequest {c : ClientId} {r : ActiveRequest}
    (hr : σ.requests.lookup (σ.clients c).key = some r) (key : Key) (b : BridgeId) :
    (σ.releaseRequest c r).entry key b =
      if key = (σ.clients c).key ∧ r.owners.erase c = ∅ then none else σ.entry key b := by
  rw [entry, lookup_releaseRequest]
  by_cases hkey : key = (σ.clients c).key
  · rw [if_pos hkey, hkey, entry_of_lookup hr]
    by_cases howners : r.owners.erase c = ∅ <;> simp [howners]
  · simp [hkey, entry]

theorem releaseRequest_transfers {c : ClientId} {r : ActiveRequest}
    (hphase : (σ.clients c).phase = .unregistered)
    (hr : σ.requests.lookup (σ.clients c).key = some r) :
    Transfers σ.held (σ.releaseRequest c r).held σ.dropped (σ.releaseRequest c r).dropped
      fun p => if σ.releases c r p then none else some p := by
  apply Transfers.discard
  · intro p
    cases p with
    | request key b => simpa [releases, held] using entry_releaseRequest hr key b
    | client c' b => exact held_releaseRequest_client r hphase c' b
    | bridge b key => rfl
  · intro n
    rw [mem_dropped_releaseRequest]
    refine or_congr_right ⟨?_, ?_⟩
    · rintro ⟨howners, b, hb⟩
      exact ⟨.request (σ.clients c).key b, by rwa [held, entry_of_lookup hr],
        by simp [releases, howners]⟩
    · rintro ⟨p, hp, hlost⟩
      cases p with
      | client | bridge => cases hlost
      | request key b =>
          obtain ⟨rfl, hlast⟩ := of_decide_eq_true hlost
          exact ⟨hlast, b, by rwa [held, entry_of_lookup hr] at hp⟩

/-- Where the handles are taken from when `register_bridge` stores its results. -/
def mergeSource (σ : Bridges) (b : BridgeId) (results : Table Key HandleId) :
    HandlePlace → Option HandlePlace
  | .request key b' =>
      some (if b' = b ∧ σ.accepts b key = true ∧ key ∈ results then .bridge b key
        else .request key b')
  | .bridge b' key => if b' = b then none else some (.bridge b' key)
  | p => some p

theorem held_mergeResults_bridge (b b' : BridgeId) (results : Table Key HandleId)
    (done : Finset Key) (key : Key) :
    (σ.mergeResults b results done).held (.bridge b' key) =
      if b' = b then none else σ.held (.bridge b' key) := by
  simp only [held]
  rw [show (σ.mergeResults b results done).bridges b' =
    Function.update σ.bridges b (σ.mergedPhase results done) b' from rfl, Function.update_apply]
  split
  next => simp [mergedPhase_results]
  next => rfl

theorem entry_of_accepts {b : BridgeId} {key : Key} (h : σ.accepts b key = true) :
    σ.entry key b = none ∧ ∃ r, σ.requests.lookup key = some r := by
  obtain ⟨r, hlocked, hb⟩ := Option.any_eq_true _ _ |>.1 h
  have hr := (locked_eq_some.1 hlocked).1
  refine ⟨?_, r, hr⟩
  rw [entry_of_lookup hr]
  exact AList.lookup_eq_none.2 (by simpa using hb)

theorem entry_mergeResults (b : BridgeId) (results : Table Key HandleId) (done : Finset Key)
    (key : Key) (b' : BridgeId) :
    (σ.mergeResults b results done).entry key b' =
      if b' = b ∧ σ.accepts b key = true ∧ key ∈ results then results.lookup key
      else σ.entry key b' := by
  rw [entry, lookup_mergeResults, entry]
  cases hr : σ.requests.lookup key with
  | none => simp [accepts, locked, hr]
  | some r =>
      simp only [Option.map_some, Option.bind_some, mergedRequest]
      cases hresult : results.lookup key with
      | none => simp [AList.lookup_eq_none.1 hresult]
      | some n =>
          have hmem : key ∈ results := AList.lookup_isSome.1 (by simp [hresult])
          cases haccepts : σ.accepts b key with
          | false => simp
          | true => simp [Table.lookup_insert_ite, hmem]

theorem mergeResults_transfers {b : BridgeId} {results : Table Key HandleId} {done : Finset Key}
    (hresults : (σ.bridges b).results = results) :
    Transfers σ.held (σ.mergeResults b results done).held σ.dropped
      (σ.mergeResults b results done).dropped (σ.mergeSource b results) where
  held_eq := by
    intro q
    cases q with
    | request key b' =>
        simp only [held, entry_mergeResults, mergeSource, Option.bind_some]
        split
        next => simp [hresults]
        next => rfl
    | client c b' => rfl
    | bridge b' key =>
        rw [held_mergeResults_bridge, mergeSource]
        split <;> rfl
  source_inj := by
    intro q q' p hq hq'
    cases q <;> cases q' <;> grind [mergeSource]
  drops := by
    intro n
    rw [mem_dropped_mergeResults]
    refine or_congr_right ⟨?_, ?_⟩
    · rintro ⟨key, hn, hrefused⟩
      refine ⟨.bridge b key, by rwa [held, hresults], fun q => ?_⟩
      cases q <;> grind [mergeSource]
    · rintro ⟨p, hp, hlost⟩
      cases p with
      | request key b' =>
          have hsource := hlost (.request key b')
          simp only [mergeSource] at hsource
          split at hsource
          next haccepted =>
            obtain ⟨rfl, haccepts, -⟩ := haccepted
            cases (entry_of_accepts haccepts).1.symm.trans hp
          next => exact absurd rfl hsource
      | client c b' => exact absurd rfl (hlost (.client c b'))
      | bridge b' key =>
          have hb : b' = b := by
            by_contra hne
            exact hlost (.bridge b' key) (by simp [mergeSource, hne])
          rw [held, hb, hresults] at hp
          have hmem : key ∈ results := AList.lookup_isSome.1 (by simp [hp])
          refine ⟨key, hp, Bool.eq_false_iff.2 fun haccepts => ?_⟩
          exact hlost (.request key b) (by simp [mergeSource, haccepts, hmem, hb])

theorem entry_stopRegistration (b b' : BridgeId) (key : Key) :
    (σ.stopRegistration b).entry key b' = if b' = b then none else σ.entry key b' := by
  rw [entry, lookup_stopRegistration, entry]
  cases σ.requests.lookup key with
  | none => simp
  | some r => exact Table.lookup_erase_ite r.entries b b'

/-- The requests lose what the bridge has returned. -/
def stops (b : BridgeId) : HandlePlace → Bool
  | .request _ b' => b' = b
  | _ => false

theorem stopRegistration_transfers {b : BridgeId} (hphase : σ.bridges b = .registered) :
    Transfers σ.held (σ.stopRegistration b).held σ.dropped (σ.stopRegistration b).dropped
      fun p => if stops b p then none else some p := by
  apply Transfers.discard
  · intro p
    cases p with
    | request key b' => simpa [stops, held] using entry_stopRegistration b b' key
    | client c b' => rfl
    | bridge b' key =>
        simp only [held, stopRegistration, setBridge, Function.update_apply]
        split
        next hb =>
          rw [hb, hphase]
          rfl
        next => rfl
  · intro n
    rw [mem_dropped_stopRegistration]
    refine or_congr_right ⟨?_, ?_⟩
    · rintro ⟨key, r, hr, hn⟩
      exact ⟨.request key b, by rwa [held, entry_of_lookup hr], by simp [stops]⟩
    · rintro ⟨p, hp, hlost⟩
      cases p with
      | client | bridge => cases hlost
      | request key b' =>
          obtain rfl : b' = b := of_decide_eq_true hlost
          obtain ⟨r, hr, hn⟩ := Option.bind_eq_some_iff.1 hp
          exact ⟨key, r, hr, hn⟩

theorem entry_cleanupKey (h : ExpiredEmpty σ) (c : ClientId) (key : Key) (b : BridgeId) :
    (σ.cleanupKey c).entry key b = σ.entry key b := by
  cases hr : σ.requests.lookup key with
  | none =>
      have hafter : (σ.cleanupKey c).requests.lookup key = none := by
        apply Option.eq_none_iff_forall_ne_some.2
        intro r hafter
        cases hr.symm.trans (lookup_of_cleanupKey hafter)
      simp [entry, hr, hafter]
  | some r =>
      by_cases howners : r.owners = ∅
      · have hempty := h key r hr howners
        cases hafter : (σ.cleanupKey c).requests.lookup key with
        | none => simp [entry, hr, hafter, hempty]
        | some r' =>
            cases hr.symm.trans (lookup_of_cleanupKey hafter)
            simp [entry, hr, hafter]
      · simp [entry, hr, lookup_cleanupKey hr howners]

/-! ## Every handle has one place -/

/-- The handles that the calls have returned so far. -/
def HandlesKept (σ : Bridges) : Prop := Custody σ.held σ.dropped σ.asked.length

theorem HandlesKept.congr (h : σ.HandlesKept) (hheld : σ'.held = σ.held)
    (hdropped : σ'.dropped = σ.dropped) (hasked : σ'.asked = σ.asked) : σ'.HandlesKept := by
  unfold HandlesKept
  rw [hheld, hdropped, hasked]
  exact h

theorem HandlesKept.take (h : σ.HandlesKept) {p : HandlePlace} (hfree : σ.held p = none)
    (hheld : ∀ q, σ'.held q = if q = p then some σ.asked.length else σ.held q)
    (hdropped : σ'.dropped = σ.dropped) (hasked : σ'.asked.length = σ.asked.length + 1) :
    σ'.HandlesKept := by
  unfold HandlesKept
  rw [hdropped, hasked]
  exact Custody.take h hfree hheld

theorem results_setPhase {c : ClientId} {phase : RequesterPhase}
    (hphase : phase.results = (σ.clients c).phase.results) (c' : ClientId) :
    ((σ.setPhase c phase).clients c').phase.results = (σ.clients c').phase.results := by
  rw [setPhase_phase]
  split
  next hc => rw [hphase, hc]
  next => rfl

theorem HandlesKept.step (h : σ.HandlesKept) (hs : Sound σ) (hexpired : ExpiredEmpty σ)
    (hstep : Step σ label σ') : σ'.HandlesKept := by
  cases hstep with
  | serverChanged | refused => exact h.congr rfl rfl rfl
  | made c key phase habsent hfree hphase =>
      refine h.congr (held_congr (fun _ _ => rfl) (fun c' => ?_) fun _ => rfl) rfl rfl
      dsimp only
      rw [Function.update_apply]
      split
      next hc =>
        rw [hc, habsent]
        rcases hphase with rfl | rfl <;> rfl
      next => rfl
  | began c b rest hphase hnext =>
      refine h.congr (held_congr (entry_joinRequest hexpired c) (fun c' => ?_) fun _ => rfl) rfl rfl
      exact results_setPhase (σ := σ.joinRequest c)
        (by rw [show ((σ.joinRequest c).clients c).phase = _ from hphase]; rfl) c'
  | joined c hphase hnext =>
      have hjoined : (σ.joinRequest c).HandlesKept :=
        h.congr (held_congr (entry_joinRequest hexpired c) (fun _ => rfl) fun _ => rfl) rfl rfl
      exact hjoined.transfer (storeResults_transfers (lookup_joinRequest_self σ c)
        (by rw [show ((σ.joinRequest c).clients c).phase = _ from hphase]; rfl))
  | answered c b rest tmp hphase =>
      -- the bridge is called for the first time in this loop
      have hfree : σ.held (.client c b) = none := by
        have hnot := hs.loops.results c b (by simp [hphase, RequesterPhase.due])
        exact AList.lookup_eq_none.2 hnot
      refine h.take hfree (fun p => ?_) rfl (by simp [ask, setPhase])
      cases p with
      | request | bridge => rfl
      | client c' b' =>
          simp only [held, HandlePlace.client.injEq]
          rw [show (((σ.ask b (σ.clients c).key).setPhase c _).clients c').phase = _ from
            setPhase_phase _ c c' _]
          by_cases hc : c' = c
          · rw [if_pos hc, hc, hphase]
            simp only [RequesterPhase.results, Table.lookup_insert_ite, true_and]
          · simp [hc, ask]
  | resumed c b rest rest' tmp r hphase hr hnext =>
      refine h.congr (held_congr (fun _ _ => rfl) (fun c' => ?_) fun _ => rfl) rfl rfl
      exact results_setPhase (by rw [hphase]; rfl) c'
  | stored c rest tmp r hphase hr hnext =>
      exact h.transfer (storeResults_transfers hr (by rw [hphase]; rfl))
  | left c phase hphase =>
      refine h.congr (held_congr (fun _ _ => rfl) (fun c' => ?_) fun _ => rfl) rfl rfl
      refine results_setPhase (σ := σ.setRecord _ _) ?_ c'
      rcases hphase with ⟨hphase, rfl⟩ | ⟨hphase, rfl⟩ <;>
        rw [show ((σ.setRecord _ _).clients c).phase = _ from hphase] <;> rfl
  | released c r hphase hr => exact h.transfer (releaseRequest_transfers hphase hr)
  | cleaned c hphase =>
      refine h.congr (held_congr (fun key b => ?_) (fun c' => ?_) fun _ => rfl) rfl rfl
      · exact entry_cleanupKey hexpired c key b
      · exact results_setPhase (by rw [hphase]; rfl) c'
  | registered b identity place habsent =>
      refine h.congr (held_congr (fun _ _ => rfl) (fun _ => rfl) fun b' => ?_) rfl rfl
      simp only [registerServiceBridge, setBridge, Function.update_apply]
      split
      next hb =>
        rw [hb, habsent]
        rfl
      next => rfl
  | called b key toDo results done hphase hkey =>
      have hfree : σ.held (.bridge b key) = none := by
        have hnot := hs.loops.answered b key (by simpa [hphase, BridgePhase.toDo] using hkey)
        exact AList.lookup_eq_none.2 hnot
      refine h.take hfree (fun p => ?_) rfl (by simp [ask, setBridge])
      cases p with
      | request | client => rfl
      | bridge b' key' =>
          simp only [held, HandlePlace.bridge.injEq, setBridge, ask, Function.update_apply]
          by_cases hb : b' = b
          · rw [if_pos hb, hb, hphase]
            simp only [BridgePhase.results, Table.lookup_insert_ite, true_and]
          · simp [hb]
  | merged b results done hphase =>
      exact h.transfer (mergeResults_transfers (by rw [hphase]; rfl))
  | stopped b hphase => exact h.transfer (stopRegistration_transfers hphase)

theorem handlesKept_reachable {ok : Bridges → Label → Prop} (h : Reach next ok {} σ) :
    ExpiredEmpty σ ∧ σ.HandlesKept := by
  refine Reach.invariant_of_reach (I := fun σ => ExpiredEmpty σ ∧ σ.HandlesKept) ?_ ?_ h
  · refine ⟨nofun, ?_⟩
    exact cast (congrArg (fun held => Custody held ∅ 0) (funext fun p => by cases p <;> rfl))
      Custody.init
  · intro σ label σ' hreach hs _ hnext
    have hsound := Sound.reachable hreach
    have hstep := step_of_next hnext
    exact ⟨hs.1.step hsound.owned hstep, hs.2.step hsound hs.1 hstep⟩

/-- Every handle that a bridge has returned is at one place, which is the map of a request
or a local variable of one loop, until it is destroyed once. -/
theorem handle_has_one_place {ok : Bridges → Label → Prop} (h : Reach next ok {} σ)
    {n : HandleId} (hn : n < σ.asked.length) :
    (n ∈ σ.dropped ∧ ∀ p, σ.held p ≠ some n) ∨
      (n ∉ σ.dropped ∧ ∃ p, σ.held p = some n ∧ ∀ q, σ.held q = some n → q = p) := by
  have hkept : Custody σ.held σ.dropped σ.asked.length := (handlesKept_reachable h).2
  rcases hkept.accounted hn with hdropped | ⟨p, hp⟩
  · exact .inl ⟨hdropped, fun p hp => hkept.live hp hdropped⟩
  · exact .inr ⟨hkept.live hp, p, hp, fun q hq => hkept.unique hq hp⟩

/-- A bridge has answered a client, whose loop has not taken the lock again. -/
theorem handle_has_one_place_called :
    ∃ σ : Bridges, σ.held (.client 0 0) = some 0 ∧ 0 ∉ σ.dropped ∧
      ∀ q, σ.held q = some 0 → q = .client 0 0 := by
  obtain ⟨σ, hreach, hp⟩ := exists_reach_of_runFrom next (fun _ _ => True) {}
    [.registerServiceBridge 0 7 0, .mergeResults 0, .makeClientConnector 0 (someKey 0),
      .getBridgeRequests 0, .requestService 0]
    (fun σ => decide (σ.asked.length = 1 ∧ σ.held (.client 0 0) = some 0)) (by decide)
  obtain ⟨hasked, hheld⟩ := of_decide_eq_true hp
  rcases handle_has_one_place hreach (n := 0) (by simp [hasked]) with
    ⟨-, hnone⟩ | ⟨hlive, p, -, hunique⟩
  · exact absurd hheld (hnone _)
  · exact ⟨σ, hheld, hlive, fun q hq => (hunique q hq).trans (hunique _ hheld).symm⟩

/-! ## When the clients are gone -/

/-- When no client has a share of a request any more and no bridge is being registered,
every handle that a bridge has returned has been destroyed: no bridge is left with a
service that nobody requests. -/
theorem handles_given_back {ok : Bridges → Label → Prop} (h : Reach next ok {} σ)
    (howners : ∀ key r, σ.requests.lookup key = some r → r.owners = ∅)
    (hbridges : ∀ b toDo results done, σ.bridges b ≠ .registering toDo results done)
    {n : HandleId} (hn : n < σ.asked.length) : n ∈ σ.dropped := by
  obtain ⟨hexpired, hkept⟩ := handlesKept_reachable h
  rcases hkept.accounted hn with hdropped | ⟨p, hp⟩
  · exact hdropped
  · exfalso
    cases p with
    | request key b =>
        obtain ⟨r, hr, hb⟩ := Option.bind_eq_some_iff.1 hp
        rw [hexpired key r hr (howners key r hr)] at hb
        cases hb
    | client c b =>
        -- a client in its loop has a share
        have hidle : (σ.clients c).phase.owns ≠ true := by
          intro howns
          obtain ⟨r, hr, hc⟩ := (Sound.reachable h).owned.owner c howns
          simp [howners _ r hr] at hc
        simp only [held] at hp
        cases hphase : (σ.clients c).phase with
        | calling | called => simp [hphase, RequesterPhase.owns] at hidle
        | _ => simp [hphase, RequesterPhase.results] at hp
    | bridge b key =>
        simp only [held] at hp
        cases hphase : σ.bridges b with
        | registering toDo results done => exact hbridges b toDo results done hphase
        | _ => simp [hphase, BridgePhase.results] at hp

/-- The client that asked a bridge is destroyed. -/
theorem handles_given_back_destroyed :
    ∃ σ : Bridges, (σ.clients 0).phase = .destroyed ∧ σ.asked.length = 1 ∧ 0 ∈ σ.dropped := by
  have hrun : Reach next (fun _ _ => True) {} _ :=
    (((((((((Reach.init.step (a := .registerServiceBridge 0 7 0) trivial rfl).step
      (a := .mergeResults 0) trivial rfl).step
      (a := .makeClientConnector 0 (someKey 0)) trivial rfl).step
      (a := .getBridgeRequests 0) trivial rfl).step (a := .requestService 0) trivial rfl).step
      (a := .resume 0) trivial rfl).step (a := .unregisterClient 0) trivial rfl).step
      (a := .releaseRequest 0) trivial rfl).step (a := .cleanup 0) trivial rfl)
  refine ⟨_, rfl, rfl, handles_given_back hrun (fun key r hr => ?_) (fun b toDo results done => ?_)
    (by decide)⟩
  · cases hr
  · cases b with
    | zero => exact nofun
    | succ b => exact nofun

end Bridges

end Socom

end SomeipGateway
