import SomeipGateway.Binding.SlotManager
import SomeipGateway.Lib.Run
import SomeipGateway.Lib.Sum

/-! # Slot guards

`Shared_memory_slot_guard` owns one reference to a slot and gives it back when it
is reset or destroyed. `release` takes the reference out of the guard; its owner
gives it back with `release_slot`. The reference counts are the live guards and the
released references together, over any sequence of operations on any number of
guards.
-/

namespace SomeipGateway

/-- A guard without a manager has no slot, whatever handle it still stores. -/
structure SlotGuard where
  hasSlot : Bool := false
  handle : Nat := 0
deriving DecidableEq, Repr

namespace SlotGuard

def reset (guard : SlotGuard) (σ : SlotManager) : SlotGuard × SlotManager :=
  if guard.hasSlot then ({ guard with hasSlot := false }, σ.releaseSlot guard.handle)
  else (guard, σ)

def release (guard : SlotGuard) : Option Nat × SlotGuard :=
  if guard.hasSlot then (some guard.handle, { guard with hasSlot := false }) else (none, guard)

/-- The new guard; `none` where `share` runs into one of its assertions. -/
def share (guard : SlotGuard) (σ : SlotManager) : Option (SlotGuard × SlotManager) :=
  if guard.hasSlot then (σ.addConsumer guard.handle).map fun σ => (⟨true, guard.handle⟩, σ)
  else none

/-- What a move leaves behind. -/
def movedFrom (guard : SlotGuard) : SlotGuard := { guard with hasSlot := false }

/-- Whether the guard holds a reference to `slot`. -/
def holds (slot : Nat) (guard : SlotGuard) : Bool := guard.hasSlot && guard.handle = slot

end SlotGuard

/-- The manager, the guard objects that exist by their addresses, and the handles
taken out of guards and not given back. -/
structure GuardedSlots where
  manager : SlotManager
  guards : Store Nat (Option SlotGuard) := {}
  released : List Nat := []

inductive GuardOperation where
  | construct (guard : Nat)
  | allocateSlot (guard : Nat)
  | share (guard new : Nat)
  | moveConstruct (new other : Nat)
  | moveAssign (guard other : Nat)
  | reset (guard : Nat)
  | release (guard : Nat)
  | destroy (guard : Nat)
  | releaseSlot (handle : Nat)

namespace GuardedSlots

/-- Construct a guard where there is none. -/
def create (s : GuardedSlots) (new : Nat) (guard : SlotGuard) (σ : SlotManager) :
    Option GuardedSlots :=
  match s.guards new with
  | none => some { s with manager := σ, guards := s.guards.set new (some guard) }
  | some _ => none

/-- One operation; `none` where it names an object that does not exist, constructs
one over another, or shares a guard without a slot. -/
def next (s : GuardedSlots) : GuardOperation → Option GuardedSlots
  | .construct new => s.create new {} s.manager
  | .allocateSlot new =>
      match s.manager.allocateSlot with
      | none => some s
      | some (slot, σ) => s.create new ⟨true, slot⟩ σ
  | .share guard new =>
      (s.guards guard).bind fun g =>
        (g.share s.manager).bind fun (shared, σ) => s.create new shared σ
  | .moveConstruct new other =>
      (s.guards other).bind fun g =>
        (s.create new g s.manager).map fun s =>
          { s with guards := s.guards.set other (some g.movedFrom) }
  | .moveAssign guard other =>
      (s.guards guard).bind fun g => (s.guards other).map fun g' =>
        if guard = other then s
        else
          { s with
            manager := (g.reset s.manager).2
            guards := (s.guards.set guard (some g')).set other (some g'.movedFrom) }
  | .reset guard =>
      (s.guards guard).map fun g =>
        { s with
          manager := (g.reset s.manager).2
          guards := s.guards.set guard (some (g.reset s.manager).1) }
  | .release guard =>
      (s.guards guard).map fun g =>
        { s with
          guards := s.guards.set guard (some g.release.2)
          released := g.release.1.toList ++ s.released }
  | .destroy guard =>
      (s.guards guard).map fun g =>
        { s with manager := (g.reset s.manager).2, guards := s.guards.set guard none }
  | .releaseSlot handle =>
      match s.manager.tryReleaseSlot handle with
      | none => some s
      | some σ => some { s with manager := σ, released := s.released.erase handle }

/-- The operations that return an error. -/
def fails (s : GuardedSlots) : GuardOperation → Bool
  | .allocateSlot _ => s.manager.allocateSlot.isNone
  | .release guard => (s.guards guard).any fun g => g.release.1.isNone
  | .releaseSlot handle => (s.manager.tryReleaseSlot handle).isNone
  | _ => false

def liveGuards (s : GuardedSlots) (slot : Nat) : Nat :=
  s.guards.count fun guard => guard.any (SlotGuard.holds slot)

/-- The references to a slot, in guards and outside of them. -/
def references (s : GuardedSlots) (slot : Nat) : Nat := s.liveGuards slot + s.released.count slot

/-- There are fewer than 2^32 references to a slot, and `release_slot` gives back a
released reference or is refused. -/
def allowed (s : GuardedSlots) : GuardOperation → Bool
  | .share guard _ => (s.guards guard).any fun g => s.references g.handle + 1 < 2 ^ 32
  | .releaseSlot handle => s.released.contains handle || s.fails (.releaseSlot handle)
  | _ => true

/-- The states reached from a new manager. -/
def Run (slotSize slotCount : Nat) (s : GuardedSlots) : Prop :=
  Reach next (fun s operation => s.allowed operation = true)
    { manager := { slotSize, slotCount } } s

/-! ## What the guards' functions do to the counts -/

/-- A guard refers to an allocated slot of the pool, if to any. -/
def Backed (σ : SlotManager) (guard : SlotGuard) : Prop :=
  guard.hasSlot = true → guard.handle < σ.slotCount ∧ σ.referenceCount guard.handle ≠ 0

theorem referenceCount_releaseSlot {σ : SlotManager} {handle : Nat} (hlt : handle < σ.slotCount)
    (hcount : σ.referenceCount handle ≠ 0) (slot : Nat) :
    (σ.releaseSlot handle).referenceCount slot + (decide (handle = slot)).toNat =
      σ.referenceCount slot := by
  rw [SlotManager.releaseSlot, if_pos ⟨hlt, hcount⟩]
  by_cases hslot : handle = slot
  · subst hslot
    simp only [Function.update_self, decide_true, Bool.toNat_true]
    omega
  · simp [hslot, Function.update_of_ne (Ne.symm hslot)]

@[simp] theorem slotCount_releaseSlot (σ : SlotManager) (handle : Nat) :
    (σ.releaseSlot handle).slotCount = σ.slotCount := by
  unfold SlotManager.releaseSlot
  split <;> rfl

@[simp] theorem slotCount_reset (guard : SlotGuard) (σ : SlotManager) :
    (guard.reset σ).2.slotCount = σ.slotCount := by
  unfold SlotGuard.reset
  split
  next => exact slotCount_releaseSlot σ guard.handle
  next => rfl

/-- A reset gives back the reference that the guard holds. -/
theorem referenceCount_reset {guard : SlotGuard} {σ : SlotManager} (h : Backed σ guard)
    (slot : Nat) :
    (guard.reset σ).2.referenceCount slot + (guard.holds slot).toNat = σ.referenceCount slot := by
  unfold SlotGuard.reset
  split
  next hhas =>
    obtain ⟨hlt, hcount⟩ := h hhas
    simpa [SlotGuard.holds, hhas] using referenceCount_releaseSlot hlt hcount slot
  next hhas => simp [SlotGuard.holds, hhas]

theorem holds_reset (guard : SlotGuard) (σ : SlotManager) (slot : Nat) :
    (guard.reset σ).1.holds slot = false := by
  unfold SlotGuard.reset
  split
  next => rfl
  next hhas => simp [SlotGuard.holds, hhas]

@[simp] theorem holds_movedFrom (guard : SlotGuard) (slot : Nat) :
    guard.movedFrom.holds slot = false := rfl

/-- `release` turns the reference of the guard into a handle of its caller. -/
theorem count_release (guard : SlotGuard) (slot : Nat) :
    (guard.release.2.holds slot).toNat + guard.release.1.toList.count slot =
      (guard.holds slot).toNat := by
  unfold SlotGuard.release
  cases hhas : guard.hasSlot with
  | false => simp [SlotGuard.holds, hhas]
  | true => by_cases hslot : guard.handle = slot <;> simp [SlotGuard.holds, hhas, hslot]

/-- A share that goes through adds one reference, as long as the counter does not
wrap. -/
theorem share_eq_some {guard shared : SlotGuard} {σ σ' : SlotManager}
    (h : guard.share σ = some (shared, σ')) (hroom : σ.referenceCount guard.handle + 1 < 2 ^ 32) :
    σ'.slotCount = σ.slotCount ∧ guard.handle < σ.slotCount ∧ shared = ⟨true, guard.handle⟩ ∧
      ∀ slot, σ'.referenceCount slot =
        σ.referenceCount slot + (decide (guard.handle = slot)).toNat := by
  unfold SlotGuard.share SlotManager.addConsumer at h
  split at h
  next =>
    split at h
    next hlt =>
      cases h
      refine ⟨rfl, hlt.1, rfl, fun slot => ?_⟩
      by_cases hslot : guard.handle = slot
      · subst hslot
        simp only [Function.update_self, decide_true, Bool.toNat_true]
        exact Nat.mod_eq_of_lt hroom
      · simp [hslot, Function.update_of_ne (Ne.symm hslot)]
    next => cases h
  next => cases h

/-! ## The invariant -/

/-- Writing one guard object changes the live guards by what it held and holds. -/
theorem liveGuards_set (s : GuardedSlots) (σ : SlotManager) (released : List Nat) (address : Nat)
    (guard : Option SlotGuard) (slot : Nat) :
    liveGuards ⟨σ, s.guards.set address guard, released⟩ slot +
        ((s.guards address).any (SlotGuard.holds slot)).toNat =
      s.liveGuards slot + (guard.any (SlotGuard.holds slot)).toNat :=
  Store.count_set rfl s.guards address guard

/-- A move writes two of them. -/
theorem liveGuards_move (s : GuardedSlots) (σ : SlotManager) {address other : Nat}
    (hne : other ≠ address) (guard : SlotGuard) (slot : Nat) :
    liveGuards ⟨σ, (s.guards.set address (some guard)).set other (some guard.movedFrom),
        s.released⟩ slot + ((s.guards address).any (SlotGuard.holds slot)).toNat +
        ((s.guards other).any (SlotGuard.holds slot)).toNat =
      s.liveGuards slot + (guard.holds slot).toNat :=
  Store.count_set_set (p := fun g : Option SlotGuard => g.any (SlotGuard.holds slot)) rfl s.guards
    hne (some guard) (some guard.movedFrom)

structure Accounted (s : GuardedSlots) : Prop where
  count : ∀ slot, s.manager.referenceCount slot = s.references slot
  beyond : ∀ slot, s.manager.slotCount ≤ slot → s.manager.referenceCount slot = 0

namespace Accounted

variable {s s' : GuardedSlots}

/-- A guard that exists holds a slot that its manager counts. -/
theorem backed (h : s.Accounted) {address : Nat} {guard : SlotGuard}
    (hguard : s.guards address = some guard) : Backed s.manager guard := by
  intro hhas
  have hlive : (guard.holds guard.handle).toNat ≤ s.liveGuards guard.handle := by
    have hle := Store.toNat_le_count (p := fun g => g.any (SlotGuard.holds guard.handle)) rfl
      s.guards address
    rwa [hguard] at hle
  have hcount := h.count guard.handle
  have hone : guard.holds guard.handle = true := by simp [SlotGuard.holds, hhas]
  rw [hone, Bool.toNat_true] at hlive
  rw [references] at hcount
  refine ⟨?_, by omega⟩
  apply Nat.lt_of_not_le
  intro hbeyond
  have hzero := h.beyond guard.handle hbeyond
  omega

/-- The counts follow the references, and no slot beyond the pool gets one. -/
theorem of_counts (h : s.Accounted) (hslots : s'.manager.slotCount = s.manager.slotCount)
    (hcount : ∀ slot, s'.manager.referenceCount slot + s.references slot =
      s.manager.referenceCount slot + s'.references slot)
    (hbeyond : ∀ slot, s.manager.slotCount ≤ slot →
      s'.manager.referenceCount slot ≤ s.manager.referenceCount slot) : s'.Accounted where
  count slot := by
    have hbefore := h.count slot
    have hafter := hcount slot
    omega
  beyond slot hslot := by
    rw [hslots] at hslot
    have hbefore := h.beyond slot hslot
    have hafter := hbeyond slot hslot
    omega

/-- A new guard with the reference that the manager just counted, or with none. -/
theorem create {new : Nat} {guard : SlotGuard} {σ : SlotManager} (h : s.Accounted)
    (hcreate : s.create new guard σ = some s') (hslots : σ.slotCount = s.manager.slotCount)
    (hlt : guard.hasSlot = true → guard.handle < σ.slotCount)
    (hcount : ∀ slot, σ.referenceCount slot =
      s.manager.referenceCount slot + (guard.holds slot).toNat) : s'.Accounted := by
  unfold GuardedSlots.create at hcreate
  split at hcreate
  next hnew =>
    cases hcreate
    refine h.of_counts hslots (fun slot => ?_) fun slot hslot => ?_
    · have hlive := liveGuards_set s σ s.released new (some guard) slot
      rw [hnew] at hlive
      simp only [Option.any_none, Bool.toNat_false, Option.any_some] at hlive
      simp only [references, hcount slot]
      omega
    · have hother : guard.holds slot = false := by
        simp only [SlotGuard.holds, Bool.and_eq_false_imp, decide_eq_false_iff_not]
        intro hhas heq
        have := hlt hhas
        omega
      simp [hcount slot, hother]
  next => cases hcreate

theorem allocateSlot (h : s.Accounted) {new slot : Nat} {σ : SlotManager}
    (hallocate : s.manager.allocateSlot = some (slot, σ))
    (hcreate : s.create new ⟨true, slot⟩ σ = some s') : s'.Accounted := by
  obtain ⟨hlt, hzero, rfl⟩ := SlotManager.allocateSlot_eq_some hallocate
  refine h.create hcreate rfl (fun _ => hlt) fun slot' => ?_
  by_cases hslot : slot = slot'
  · subst hslot
    simp [SlotGuard.holds, hzero]
  · simp [SlotGuard.holds, hslot, Function.update_of_ne (Ne.symm hslot)]

theorem share (h : s.Accounted) {new : Nat} {guard shared : SlotGuard} {σ : SlotManager}
    (hroom : s.references guard.handle + 1 < 2 ^ 32)
    (hshare : guard.share s.manager = some (shared, σ))
    (hcreate : s.create new shared σ = some s') : s'.Accounted := by
  rw [← h.count] at hroom
  obtain ⟨hslots, hlt, rfl, hcount⟩ := share_eq_some hshare hroom
  exact h.create hcreate hslots (fun _ => hslots ▸ hlt) hcount

/-- A guard object is written after its reference was given back. -/
theorem giveBack (h : s.Accounted) {address : Nat} {guard : SlotGuard} {left : Option SlotGuard}
    (hguard : s.guards address = some guard)
    (hleft : ∀ slot, left.any (SlotGuard.holds slot) = false) :
    Accounted { s with
      manager := (guard.reset s.manager).2, guards := s.guards.set address left } := by
  have hreset := referenceCount_reset (h.backed hguard)
  refine h.of_counts (slotCount_reset guard s.manager) (fun slot => ?_) fun slot _ => ?_
  · have hlive := liveGuards_set s (guard.reset s.manager).2 s.released address left slot
    rw [hguard, hleft slot] at hlive
    simp only [Option.any_some, Bool.toNat_false] at hlive
    have := hreset slot
    simp only [references]
    omega
  · exact Nat.le.intro (hreset slot)

theorem moveAssign (h : s.Accounted) {address other : Nat} {guard guard' : SlotGuard}
    (hne : other ≠ address) (hguard : s.guards address = some guard)
    (hother : s.guards other = some guard') :
    Accounted { s with
      manager := (guard.reset s.manager).2
      guards := (s.guards.set address (some guard')).set other (some guard'.movedFrom) } := by
  have hreset := referenceCount_reset (h.backed hguard)
  refine h.of_counts (slotCount_reset guard s.manager) (fun slot => ?_) fun slot _ => ?_
  · have hlive := liveGuards_move s (guard.reset s.manager).2 hne guard' slot
    rw [hguard, hother] at hlive
    simp only [Option.any_some] at hlive
    have := hreset slot
    simp only [references]
    omega
  · exact Nat.le.intro (hreset slot)

theorem moveConstruct (h : s.Accounted) {new other : Nat} {guard : SlotGuard} {t : GuardedSlots}
    (hother : s.guards other = some guard)
    (hcreate : s.create new guard s.manager = some t) :
    Accounted { t with guards := t.guards.set other (some guard.movedFrom) } := by
  unfold GuardedSlots.create at hcreate
  split at hcreate
  next hnew =>
    cases hcreate
    have hne : other ≠ new := by
      rintro rfl
      rw [hother] at hnew
      cases hnew
    refine h.of_counts rfl (fun slot => ?_) fun slot _ => Nat.le_refl _
    have hlive := liveGuards_move s s.manager hne guard slot
    rw [hnew, hother] at hlive
    simp only [Option.any_none, Bool.toNat_false, Option.any_some] at hlive
    simp only [references]
    omega
  next => cases hcreate

theorem release (h : s.Accounted) {address : Nat} {guard : SlotGuard}
    (hguard : s.guards address = some guard) :
    Accounted { s with
      guards := s.guards.set address (some guard.release.2)
      released := guard.release.1.toList ++ s.released } := by
  refine h.of_counts rfl (fun slot => ?_) fun slot _ => Nat.le_refl _
  have hlive := liveGuards_set s s.manager (guard.release.1.toList ++ s.released) address
    (some guard.release.2) slot
  rw [hguard] at hlive
  simp only [Option.any_some] at hlive
  have := count_release guard slot
  simp only [references, List.count_append]
  omega

theorem releaseSlot (h : s.Accounted) {handle : Nat} {σ : SlotManager}
    (hmem : handle ∈ s.released) (hrelease : s.manager.tryReleaseSlot handle = some σ) :
    Accounted { s with manager := σ, released := s.released.erase handle } := by
  unfold SlotManager.tryReleaseSlot at hrelease
  split at hrelease
  next hvalid =>
    cases hrelease
    have hreset := referenceCount_releaseSlot hvalid.1 hvalid.2
    refine h.of_counts (slotCount_releaseSlot s.manager handle) (fun slot => ?_) fun slot _ => ?_
    · have := hreset slot
      have herase : (s.released.erase handle).count slot + (decide (handle = slot)).toNat =
          s.released.count slot := by
        by_cases hslot : handle = slot
        · subst hslot
          have hpos := List.count_pos_iff.2 hmem
          simp only [List.count_erase_self, decide_true, Bool.toNat_true]
          omega
        · simp [hslot, List.count_erase_of_ne (Ne.symm hslot)]
      simp only [references, liveGuards]
      omega
    · exact Nat.le.intro (hreset slot)
  next => cases hrelease

theorem next (h : s.Accounted) {operation : GuardOperation} (hok : s.allowed operation = true)
    (hnext : s.next operation = some s') : s'.Accounted := by
  cases operation with
  | construct new =>
      exact h.create hnext rfl (fun hhas => by cases hhas) fun slot => by simp [SlotGuard.holds]
  | allocateSlot new =>
      simp only [GuardedSlots.next] at hnext
      split at hnext
      next =>
        cases hnext
        exact h
      next slot σ hallocate => exact h.allocateSlot hallocate hnext
  | share address new =>
      obtain ⟨guard, hguard, hnext⟩ := Option.bind_eq_some_iff.1 hnext
      obtain ⟨⟨shared, σ⟩, hshare, hcreate⟩ := Option.bind_eq_some_iff.1 hnext
      have hroom : s.references guard.handle + 1 < 2 ^ 32 := by simpa [allowed, hguard] using hok
      exact h.share hroom hshare hcreate
  | moveConstruct new other =>
      obtain ⟨guard, hother, hnext⟩ := Option.bind_eq_some_iff.1 hnext
      obtain ⟨t, hcreate, rfl⟩ := Option.map_eq_some_iff.1 hnext
      exact h.moveConstruct hother hcreate
  | moveAssign address other =>
      obtain ⟨guard, hguard, hnext⟩ := Option.bind_eq_some_iff.1 hnext
      obtain ⟨guard', hother, rfl⟩ := Option.map_eq_some_iff.1 hnext
      split
      next => exact h
      next hne => exact h.moveAssign (Ne.symm hne) hguard hother
  | reset address =>
      obtain ⟨guard, hguard, rfl⟩ := Option.map_eq_some_iff.1 hnext
      exact h.giveBack hguard (holds_reset guard s.manager)
  | release address =>
      obtain ⟨guard, hguard, rfl⟩ := Option.map_eq_some_iff.1 hnext
      exact h.release hguard
  | destroy address =>
      obtain ⟨guard, hguard, rfl⟩ := Option.map_eq_some_iff.1 hnext
      exact h.giveBack hguard fun _ => rfl
  | releaseSlot handle =>
      simp only [GuardedSlots.next] at hnext
      split at hnext
      next =>
        cases hnext
        exact h
      next σ hrelease =>
        cases hnext
        have hmem : handle ∈ s.released := by simpa [allowed, fails, hrelease] using hok
        exact h.releaseSlot hmem hrelease

theorem of_run {slotSize slotCount : Nat} (h : Run slotSize slotCount s) : s.Accounted := by
  apply Reach.invariant _ _ h
  · exact ⟨fun slot => rfl, fun slot _ => rfl⟩
  · intro s operation s' hs hok hnext
    exact hs.next hok hnext

theorem getReferenceCount (h : s.Accounted) (slot : Nat) :
    s.manager.getReferenceCount slot = s.references slot := by
  unfold SlotManager.getReferenceCount
  split
  next => exact h.count slot
  next hslot => rw [← h.count slot, h.beyond slot (Nat.le_of_not_lt hslot)]

end Accounted

theorem manager_of_fails {s s' : GuardedSlots} {operation : GuardOperation}
    (hfails : s.fails operation = true) (hnext : s.next operation = some s') :
    s'.manager = s.manager := by
  cases operation with
  | allocateSlot new =>
      have hnone : s.manager.allocateSlot = none := by simpa [fails] using hfails
      simp only [next, hnone, Option.some.injEq] at hnext
      rw [hnext]
  | release address =>
      obtain ⟨guard, hguard, rfl⟩ := Option.map_eq_some_iff.1 hnext
      rfl
  | releaseSlot handle =>
      have hnone : s.manager.tryReleaseSlot handle = none := by simpa [fails] using hfails
      simp only [next, hnone, Option.some.injEq] at hnext
      rw [hnext]
  | _ => cases hfails

/-- In every state the count of a slot is the number of guards on it and of released
references to it, `allocate_slot` takes the lowest slot without any and fails when
there is none, and what fails changes no count. -/
theorem slot_guard_accounting {slotSize slotCount : Nat} {s : GuardedSlots}
    (h : Run slotSize slotCount s) :
    (∀ slot, s.manager.getReferenceCount slot = s.liveGuards slot + s.released.count slot) ∧
    (∀ slot σ, s.manager.allocateSlot = some (slot, σ) →
      slot < s.manager.slotCount ∧ s.manager.getReferenceCount slot = 0 ∧
        ∀ lower < slot, s.manager.getReferenceCount lower ≠ 0) ∧
    (s.manager.allocateSlot = none ↔
      ∀ slot < s.manager.slotCount, s.manager.getReferenceCount slot ≠ 0) ∧
    ∀ operation s', s.fails operation = true → s.next operation = some s' →
      ∀ slot, s'.manager.getReferenceCount slot = s.manager.getReferenceCount slot := by
  have hread : ∀ slot < s.manager.slotCount,
      s.manager.getReferenceCount slot = s.manager.referenceCount slot := by
    intro slot hslot
    rw [SlotManager.getReferenceCount, if_pos hslot]
  refine ⟨(Accounted.of_run h).getReferenceCount, ?_, ?_, ?_⟩
  · intro slot σ hallocate
    obtain ⟨hslot, hzero, -⟩ := SlotManager.allocateSlot_eq_some hallocate
    refine ⟨hslot, by rw [hread slot hslot, hzero], fun lower hlower => ?_⟩
    rw [hread lower (by omega)]
    exact SlotManager.referenceCount_ne_zero_of_lt hallocate hlower
  · rw [SlotManager.allocateSlot_eq_none]
    exact forall₂_congr fun slot hslot => by rw [hread slot hslot]
  · intro operation s' hfails hnext slot
    rw [manager_of_fails hfails hnext]

/-- Guard 1 shares the slot of guard 0 and is overwritten by guard 2, a third
allocation fails, and the reference of guard 0 is released and not given back yet. -/
theorem slot_guard_accounting_after_release :
    ∃ s, Run 64 2 s ∧ s.released = [0] ∧
      ∀ slot, s.manager.getReferenceCount slot = s.liveGuards slot + s.released.count slot := by
  obtain ⟨s, hs, hreleased⟩ := exists_reach_of_runFrom next
    (fun s operation => s.allowed operation = true) { manager := { slotSize := 64, slotCount := 2 } }
    [.allocateSlot 0, .share 0 1, .allocateSlot 2, .allocateSlot 3, .moveAssign 1 2,
      .moveAssign 1 1, .release 0]
    (fun s => decide (s.released = [0])) (by decide)
  exact ⟨s, hs, of_decide_eq_true hreleased, (slot_guard_accounting hs).1⟩

end GuardedSlots

end SomeipGateway
