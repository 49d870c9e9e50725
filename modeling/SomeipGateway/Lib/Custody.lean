import Mathlib.Data.Finset.Basic

/-! # Custody of handles

Handles are given out one after the other and lie at places. A place holds at most one
handle, a handle lies at one place until it is dropped, and a dropped one lies nowhere.
Two rules keep this: a new handle is put to a free place, and a step takes every handle
from its place to another one or drops it.
-/

namespace SomeipGateway

/-- The first `given` handles have been given out. -/
structure Custody {P : Type} (held : P → Option Nat) (dropped : Finset Nat) (given : Nat) :
    Prop where
  unique : ∀ {p q n}, held p = some n → held q = some n → p = q
  live : ∀ {p n}, held p = some n → n ∉ dropped
  held_lt : ∀ {p n}, held p = some n → n < given
  dropped_lt : ∀ {n}, n ∈ dropped → n < given
  accounted : ∀ {n}, n < given → n ∈ dropped ∨ ∃ p, held p = some n

/-- A step after which every place has what was at its `source`, if it has one. What is at
the source of no place is dropped. -/
structure Transfers {P : Type} (held held' : P → Option Nat) (dropped dropped' : Finset Nat)
    (source : P → Option P) : Prop where
  held_eq : ∀ q, held' q = (source q).bind held
  source_inj : ∀ {q q' p}, source q = some p → source q' = some p → q = q'
  drops : ∀ {n}, n ∈ dropped' ↔ n ∈ dropped ∨ ∃ p, held p = some n ∧ ∀ q, source q ≠ some p

variable {P : Type} {held held' : P → Option Nat} {dropped dropped' : Finset Nat} {given : Nat}

/-- A step that empties some places and leaves the others as they are. -/
theorem Transfers.discard {lost : P → Prop} [DecidablePred lost]
    (hheld : ∀ p, held' p = if lost p then none else held p)
    (hdropped : ∀ n, n ∈ dropped' ↔ n ∈ dropped ∨ ∃ p, held p = some n ∧ lost p) :
    Transfers held held' dropped dropped' fun p => if lost p then none else some p where
  held_eq p := by
    rw [hheld]
    split <;> rfl
  source_inj := by grind
  drops := by
    intro n
    rw [hdropped]
    refine or_congr_right (exists_congr fun p => and_congr_right fun _ => ?_)
    constructor <;> grind

namespace Custody

theorem transfer (h : Custody held dropped given) {source : P → Option P}
    (ht : Transfers held held' dropped dropped' source) : Custody held' dropped' given := by
  have horigin {q n} (hq : held' q = some n) : ∃ p, source q = some p ∧ held p = some n :=
    Option.bind_eq_some_iff.1 ((ht.held_eq q).symm.trans hq)
  constructor
  case unique =>
    intro q q' n hq hq'
    obtain ⟨p, hsource, hp⟩ := horigin hq
    obtain ⟨p', hsource', hp'⟩ := horigin hq'
    exact ht.source_inj hsource (h.unique hp hp' ▸ hsource')
  case live =>
    intro q n hq hn
    obtain ⟨p, hsource, hp⟩ := horigin hq
    rcases ht.drops.1 hn with hold | ⟨p', hp', hlost⟩
    · exact h.live hp hold
    · exact hlost q (h.unique hp hp' ▸ hsource)
  case held_lt =>
    intro q n hq
    obtain ⟨p, -, hp⟩ := horigin hq
    exact h.held_lt hp
  case dropped_lt =>
    intro n hn
    rcases ht.drops.1 hn with hold | ⟨p, hp, -⟩
    · exact h.dropped_lt hold
    · exact h.held_lt hp
  case accounted =>
    intro n hn
    rcases h.accounted hn with hold | ⟨p, hp⟩
    · exact .inl (ht.drops.2 (.inl hold))
    · by_cases hlost : ∀ q, source q ≠ some p
      · exact .inl (ht.drops.2 (.inr ⟨p, hp, hlost⟩))
      · obtain ⟨q, hq⟩ := not_forall_not.1 hlost
        exact .inr ⟨q, by rw [ht.held_eq, hq, Option.bind_some, hp]⟩

/-- The next handle is put to a free place. -/
theorem take [DecidableEq P] (h : Custody held dropped given) {p : P} (hfree : held p = none)
    (hheld : ∀ q, held' q = if q = p then some given else held q) :
    Custody held' dropped (given + 1) where
  unique := by
    intro q q' n hq hq'
    rw [hheld] at hq hq'
    split at hq <;> split at hq'
    next hp hp' => rw [hp, hp']
    next =>
      cases hq
      exact absurd (h.held_lt hq') (Nat.lt_irrefl _)
    next =>
      cases hq'
      exact absurd (h.held_lt hq) (Nat.lt_irrefl _)
    next => exact h.unique hq hq'
  live := by
    intro q n hq hn
    rw [hheld] at hq
    split at hq
    next =>
      cases hq
      exact absurd (h.dropped_lt hn) (Nat.lt_irrefl _)
    next => exact h.live hq hn
  held_lt := by
    intro q n hq
    rw [hheld] at hq
    split at hq
    next =>
      cases hq
      exact Nat.lt_succ_self _
    next => exact Nat.lt_succ_of_lt (h.held_lt hq)
  dropped_lt := fun hn => Nat.lt_succ_of_lt (h.dropped_lt hn)
  accounted := by
    intro n hn
    by_cases hnew : n = given
    · subst hnew
      exact .inr ⟨p, by rw [hheld, if_pos rfl]⟩
    · rcases h.accounted (n := n) (by omega) with hold | ⟨q, hq⟩
      · exact .inl hold
      · have hne : q ≠ p := by
          rintro rfl
          rw [hfree] at hq
          cases hq
        exact .inr ⟨q, by rw [hheld, if_neg hne, hq]⟩

theorem init : Custody (fun _ : P => none) ∅ 0 where
  unique := nofun
  live := nofun
  held_lt := nofun
  dropped_lt := by simp
  accounted := nofun

end Custody

end SomeipGateway
