import Mathlib.Data.List.Basic

/-! # Alternating sequences

A sequence of two marks that starts with a given one and never shows the same
mark twice in a row, and the rule by which a log of such marks grows.
-/

namespace SomeipGateway

variable {α : Type} [DecidableEq α]

/-- The list is a beginning of `a, b, a, b, …`. -/
def alternates (a b : α) : List α → Bool
  | [] => true
  | x :: rest => x = a && alternates b a rest

theorem alternates_cons {a b x : α} {rest : List α} :
    alternates a b (x :: rest) = true ↔ x = a ∧ alternates b a rest = true := by
  simp [alternates]

theorem eq_or_eq_of_alternates {a b x : α} {marks : List α} (h : alternates a b marks = true)
    (hx : x ∈ marks) : x = a ∨ x = b := by
  induction marks generalizing a b with
  | nil => cases hx
  | cons y rest ih =>
      obtain ⟨hy, hrest⟩ := alternates_cons.1 h
      rcases List.mem_cons.1 hx with rfl | hmem
      · exact .inl hy
      · exact (ih hrest hmem).symm

/-- A sequence keeps alternating when the mark added is the second one after the
first and the first one otherwise. -/
theorem alternates_append_singleton {a b x : α} {marks : List α} (hab : a ≠ b)
    (h : alternates a b marks = true) (hx : x = if marks.getLast? = some a then b else a) :
    alternates a b (marks ++ [x]) = true := by
  induction marks generalizing a b with
  | nil => simpa [alternates] using hx
  | cons y rest ih =>
      obtain ⟨rfl, hrest⟩ := alternates_cons.1 h
      refine alternates_cons.2 ⟨rfl, ih hab.symm hrest ?_⟩
      cases rest with
      | nil => simpa using hx
      | cons z rest =>
          rw [List.getLast?_cons_cons] at hx
          rw [hx]
          -- the last mark is one of the two, so it is not `y` exactly when it is `b`
          have hlast := eq_or_eq_of_alternates hrest (List.getLast_mem (List.cons_ne_nil z rest))
          rw [List.getLast?_eq_some_getLast (List.cons_ne_nil z rest)]
          rcases hlast with hlast | hlast
          · simp [hlast, hab.symm]
          · simp [hlast, hab]

end SomeipGateway
