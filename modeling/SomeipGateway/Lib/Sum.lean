import Mathlib.Algebra.BigOperators.Group.List.Basic
import Mathlib.Algebra.Ring.Nat
import SomeipGateway.Lib.Store

/-! # Sums over lists and tables

What an update of one entry does to a sum over all of them, without subtraction.
A count over a store is such a sum.
-/

namespace SomeipGateway

variable {α β : Type}

theorem sum_map_eq_zero {g : α → Nat} {l : List α} (h : ∀ a ∈ l, g a = 0) : (l.map g).sum = 0 := by
  refine List.sum_eq_zero fun x hx => ?_
  obtain ⟨a, ha, rfl⟩ := List.mem_map.1 hx
  exact h a ha

theorem sum_map_set (g : α → Nat) {l : List α} {i : Nat} {old : α} (h : l[i]? = some old)
    (new : α) : ((l.set i new).map g).sum + g old = (l.map g).sum + g new := by
  induction l generalizing i with
  | nil => simp at h
  | cons a rest ih =>
      cases i with
      | zero =>
          obtain rfl : a = old := by simpa using h
          simp only [List.set_cons_zero, List.map_cons, List.sum_cons]
          omega
      | succ i =>
          have hrest := ih (by simpa using h)
          simp only [List.set_cons_succ, List.map_cons, List.sum_cons]
          omega

theorem sum_map_eraseIdx (g : α → Nat) {l : List α} {i : Nat} {old : α} (h : l[i]? = some old) :
    ((l.eraseIdx i).map g).sum + g old = (l.map g).sum := by
  induction l generalizing i with
  | nil => simp at h
  | cons a rest ih =>
      cases i with
      | zero =>
          obtain rfl : a = old := by simpa using h
          simp only [List.eraseIdx_cons_zero, List.map_cons, List.sum_cons]
          omega
      | succ i =>
          have hrest := ih (by simpa using h)
          simp only [List.eraseIdx_cons_succ, List.map_cons, List.sum_cons]
          omega

namespace Table

variable [DecidableEq α]

def sumVals (g : β → Nat) (t : Table α β) : Nat :=
  (t.entries.map fun e => g e.2).sum

omit [DecidableEq α] in
@[simp] theorem sumVals_empty (g : β → Nat) : sumVals g (∅ : Table α β) = 0 := rfl

theorem sumVals_insert (g : β → Nat) (t : Table α β) (a : α) (b : β) :
    sumVals g (t.insert a b) + ((t.lookup a).map g).getD 0 = sumVals g t + g b := by
  have herase : ((t.entries.kerase a).map fun e => g e.2).sum + ((t.lookup a).map g).getD 0 =
      sumVals g t := by
    by_cases ha : a ∈ t.entries.keys
    · obtain ⟨b', l₁, l₂, hnot, hentries, hkerase⟩ := List.exists_of_kerase ha
      have hlookup : t.lookup a = some b' :=
        lookup_eq_some_of_mem (e := ⟨a, b'⟩) (by rw [hentries]; simp)
      rw [hkerase, hlookup, sumVals, hentries]
      simp only [List.map_append, List.map_cons, List.sum_append, List.sum_cons, Option.map_some,
        Option.getD_some]
      omega
    · have hlookup : t.lookup a = none := AList.lookup_eq_none.2 ha
      rw [hlookup, List.kerase_of_notMem_keys ha]
      simp [sumVals]
  simp only [sumVals, AList.entries_insert, List.map_cons, List.sum_cons] at *
  omega

end Table

namespace Store

variable [DecidableEq α] [Inhabited β]

/-- The sum of a weight over the places of the store; the default weighs nothing. -/
def sum (g : β → Nat) (m : Store α β) : Nat := m.table.sumVals g

theorem sum_set {g : β → Nat} (hdefault : g default = 0) (m : Store α β) (a : α) (b : β) :
    (m.set a b).sum g + g (m a) = m.sum g + g b := by
  have h := Table.sumVals_insert g m.table a b
  have hold : ((m.table.lookup a).map g).getD 0 = g (m a) := by
    simp only [get]
    cases m.table.lookup a with
    | none => simp [hdefault]
    | some old => rfl
  rwa [hold] at h

theorem sum_set_of_eq {g : β → Nat} (hdefault : g default = 0) {m : Store α β} {a : α} {b : β}
    (hsame : g b = g (m a)) : (m.set a b).sum g = m.sum g := by
  have h := sum_set hdefault m a b
  omega

theorem sum_set_lt {g : β → Nat} (hdefault : g default = 0) {m : Store α β} {a : α} {b : β}
    (hless : g b < g (m a)) : (m.set a b).sum g < m.sum g := by
  have h := sum_set hdefault m a b
  omega

theorem le_sum {g : β → Nat} (hdefault : g default = 0) (m : Store α β) (a : α) :
    g (m a) ≤ m.sum g := by
  have h := sum_set hdefault m a default
  rw [hdefault] at h
  omega

/-- How many places of the store satisfy `p`, which the default does not. -/
def count (p : β → Bool) (m : Store α β) : Nat := m.table.sumVals fun b => (p b).toNat

omit [DecidableEq α] [Inhabited β] in
@[simp] theorem count_empty (p : β → Bool) : count p ({} : Store α β) = 0 := rfl

theorem count_set {p : β → Bool} (hdefault : p default = false) (m : Store α β) (a : α) (b : β) :
    (m.set a b).count p + (p (m a)).toNat = m.count p + (p b).toNat :=
  sum_set (g := fun b => (p b).toNat) (by simp [hdefault]) m a b

/-- Two places are written, as when what one of them holds is moved to the other. -/
theorem count_set_set {p : β → Bool} (hdefault : p default = false) (m : Store α β) {a a' : α}
    (hne : a' ≠ a) (b b' : β) :
    ((m.set a b).set a' b').count p + (p (m a)).toNat + (p (m a')).toNat =
      m.count p + (p b).toNat + (p b').toNat := by
  have hfirst := count_set hdefault m a b
  have hsecond := count_set hdefault (m.set a b) a' b'
  rw [set_apply, if_neg hne] at hsecond
  omega

theorem toNat_le_count {p : β → Bool} (hdefault : p default = false) (m : Store α β) (a : α) :
    (p (m a)).toNat ≤ m.count p := by
  have h := count_set hdefault m a default
  rw [hdefault] at h
  simp only [Bool.toNat_false] at h
  omega

theorem count_eq_zero {p : β → Bool} (hdefault : p default = false) {m : Store α β}
    (h : ∀ a, m a = default) : m.count p = 0 := by
  apply sum_map_eq_zero
  intro e he
  have hget := h e.1
  rw [get, Table.lookup_eq_some_of_mem he, Option.getD_some] at hget
  simp [hget, hdefault]

end Store

end SomeipGateway
