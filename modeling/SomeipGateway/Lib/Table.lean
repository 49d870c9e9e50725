import Mathlib.Data.List.AList
import Mathlib.Data.Finset.Basic

/-! # Finite tables

A table is Mathlib's association list with one entry per key, read at a constant
value type. The lemmas below are the ones `AList` lacks: how a lookup sees an
insertion or an erasure at an arbitrary key, and the pointwise image of a table
that may drop entries.
-/

namespace SomeipGateway

abbrev Table (α β : Type) := AList (fun _ : α => β)

namespace Table

variable {α β γ : Type}

def filterMapEntry (f : α → β → Option γ) (e : Sigma fun _ : α => β) :
    Option (Sigma fun _ : α => γ) :=
  (f e.1 e.2).map fun c => ⟨e.1, c⟩

theorem keys_filterMapEntry_sublist (f : α → β → Option γ) (l : List (Sigma fun _ : α => β)) :
    (l.filterMap (filterMapEntry f)).keys.Sublist l.keys := by
  induction l with
  | nil => exact List.Sublist.slnil
  | cons e l ih =>
      cases h : f e.1 e.2 with
      | none =>
          have he : filterMapEntry f e = none := by simp [filterMapEntry, h]
          simpa [List.filterMap_cons, he] using ih.cons e.1
      | some c =>
          have he : filterMapEntry f e = some ⟨e.1, c⟩ := by simp [filterMapEntry, h]
          simpa [List.filterMap_cons, he] using ih

/-- Apply `f` to every entry and keep those for which it returns a value. -/
def filterMapVals (f : α → β → Option γ) (t : Table α β) : Table α γ :=
  ⟨t.entries.filterMap (filterMapEntry f),
    (keys_filterMapEntry_sublist f t.entries).nodup t.nodupKeys⟩

variable [DecidableEq α]

theorem lookup_insert_ite (t : Table α β) (a a' : α) (b : β) :
    AList.lookup a' (t.insert a b) = if a' = a then some b else t.lookup a' := by
  by_cases h : a' = a
  · subst h; simp
  · simp [h, AList.lookup_insert_ne h]

theorem lookup_erase_ite (t : Table α β) (a a' : α) :
    AList.lookup a' (t.erase a) = if a' = a then none else t.lookup a' := by
  by_cases h : a' = a
  · subst h; simp
  · simp [h, AList.lookup_erase_ne h]

theorem lookup_filterMapVals (f : α → β → Option γ) (t : Table α β) (a : α) :
    (t.filterMapVals f).lookup a = (t.lookup a).bind (f a) := by
  apply Option.ext
  intro c
  have hmem : ∀ {δ : Type} (s : Table α δ) (d : δ), s.lookup a = some d ↔ Sigma.mk a d ∈ s.entries :=
    fun s d => AList.mem_lookup_iff
  rw [hmem, Option.bind_eq_some_iff]
  simp only [filterMapVals, List.mem_filterMap, filterMapEntry, Option.map_eq_some_iff]
  constructor
  · rintro ⟨⟨a', b⟩, he, c', hf, heq⟩
    cases heq
    exact ⟨b, (hmem t b).2 he, hf⟩
  · rintro ⟨b, hb, hf⟩
    exact ⟨⟨a, b⟩, (hmem t b).1 hb, c, hf, rfl⟩

theorem lookup_eq_some_of_mem {t : Table α β} {e : Sigma fun _ : α => β} (h : e ∈ t.entries) :
    t.lookup e.1 = some e.2 :=
  AList.mem_lookup_iff.2 h

theorem mem_of_lookup_eq_some {t : Table α β} {a : α} {b : β} (h : t.lookup a = some b) :
    (⟨a, b⟩ : Sigma fun _ : α => β) ∈ t.entries :=
  AList.mem_lookup_iff.1 h

theorem mem_keys_iff_lookup {t : Table α β} {a : α} : a ∈ t.keys ↔ ∃ b, t.lookup a = some b := by
  rw [← AList.mem_keys, ← AList.lookup_isSome, Option.isSome_iff_exists]

end Table

end SomeipGateway
