import Mathlib.Data.List.Nodup

/-! # Numbering

Values get numbers in the order in which they are first seen. A number is the
position of its value in a list without repetitions that only grows at its end.
-/

namespace SomeipGateway

variable {γ : Type} [DecidableEq γ]

def enroll (l : List γ) (c : γ) : List γ := if c ∈ l then l else l ++ [c]

theorem mem_enroll {l : List γ} {c d : γ} : d ∈ enroll l c ↔ d ∈ l ∨ d = c := by
  unfold enroll
  split
  next hmem =>
    refine ⟨.inl, ?_⟩
    rintro (hd | rfl)
    · exact hd
    · exact hmem
  next => simp

theorem nodup_enroll {l : List γ} (h : l.Nodup) (c : γ) : (enroll l c).Nodup := by
  unfold enroll
  split
  next => exact h
  next hnew => exact h.append (List.nodup_singleton c) (by simpa using hnew)

/-- What has a number keeps it. -/
theorem idxOf_enroll_of_mem {l : List γ} {d : γ} (h : d ∈ l) (c : γ) :
    (enroll l c).idxOf d = l.idxOf d := by
  unfold enroll
  split
  next => rfl
  next => exact List.idxOf_append_of_mem h

/-- A value is numbered by its position, or by the length of the list when it is new. -/
theorem idxOf_enroll_self (l : List γ) (c : γ) : (enroll l c).idxOf c = l.idxOf c := by
  unfold enroll
  split
  next => rfl
  next hnew => simp [List.idxOf_append_of_notMem hnew, List.idxOf_eq_length hnew]

theorem getElem?_idxOf_enroll (l : List γ) (c : γ) : (enroll l c)[l.idxOf c]? = some c := by
  rw [← idxOf_enroll_self l c]
  exact List.getElem?_idxOf (mem_enroll.2 (.inr rfl))

theorem getElem?_enroll {l : List γ} {i : Nat} {d : γ} (h : l[i]? = some d) (c : γ) :
    (enroll l c)[i]? = some d := by
  unfold enroll
  split
  next => exact h
  next =>
    rw [List.getElem?_append_left (List.getElem?_eq_some_iff.1 h).1]
    exact h

theorem getElem?_enroll_cases {l : List γ} {c d : γ} {i : Nat} (h : (enroll l c)[i]? = some d) :
    l[i]? = some d ∨ i = l.idxOf c ∧ d = c := by
  unfold enroll at h
  split at h
  next => exact .inl h
  next hnew =>
    rw [List.getElem?_append] at h
    split at h
    next => exact .inl h
    next hge =>
      obtain ⟨hi, hd⟩ := List.getElem?_eq_some_iff.1 h
      rw [List.length_singleton] at hi
      rw [List.getElem_singleton] at hd
      rw [List.idxOf_eq_length hnew]
      exact .inr ⟨by omega, hd.symm⟩

end SomeipGateway
