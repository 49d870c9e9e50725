import Mathlib.Data.List.Nodup

/-! # Hash maps with their own equality

The keys of such a map are compared by what they stand for, their content. Hash and
equality are functions of the program; that they agree on the content is what a
`Hasher` carries, and then the map behaves like a finite map from contents, whatever
the hashes are.
-/

namespace SomeipGateway

variable {α β γ : Type}

structure Hasher (α γ : Type) where
  content : α → γ
  hash : α → UInt64
  equal : α → α → Bool
  equal_iff : ∀ a a', equal a a' = true ↔ content a = content a'
  hash_eq : ∀ a a', content a = content a' → hash a = hash a'

/-- Whether a search for `a'` stops at the stored key `a`. -/
def Hasher.hits (h : Hasher α γ) (a a' : α) : Bool := h.hash a == h.hash a' && h.equal a a'

theorem Hasher.hits_iff (h : Hasher α γ) {a a' : α} :
    h.hits a a' = true ↔ h.content a = h.content a' := by
  rw [hits, Bool.and_eq_true, h.equal_iff, beq_iff_eq]
  exact ⟨fun hboth => hboth.2, fun hcontent => ⟨h.hash_eq a a' hcontent, hcontent⟩⟩

/-- Stored keys have different contents. -/
structure UnorderedMap (h : Hasher α γ) (β : Type) where
  entries : List (α × β) := []
  distinct : (entries.map fun e => h.content e.1).Nodup := by simp

namespace UnorderedMap

variable {h : Hasher α γ}

def find (m : UnorderedMap h β) (a : α) : Option β :=
  (m.entries.find? fun e => h.hits e.1 a).map Prod.snd

/-- A key that is found keeps its place and the key stored there. -/
def assignEntries (h : Hasher α γ) (a : α) (b : β) : List (α × β) → List (α × β)
  | [] => [(a, b)]
  | e :: rest => if h.hits e.1 a then (e.1, b) :: rest else e :: assignEntries h a b rest

theorem map_content_assignEntries (a : α) (b : β) (entries : List (α × β)) :
    (assignEntries h a b entries).map (fun e => h.content e.1) =
        entries.map (fun e => h.content e.1) ∨
      h.content a ∉ entries.map (fun e => h.content e.1) ∧
        (assignEntries h a b entries).map (fun e => h.content e.1) =
          entries.map (fun e => h.content e.1) ++ [h.content a] := by
  induction entries with
  | nil => exact .inr ⟨List.not_mem_nil, rfl⟩
  | cons e rest ih =>
      rw [assignEntries]
      split
      next => exact .inl rfl
      next hmiss =>
        rw [h.hits_iff] at hmiss
        rcases ih with hsame | ⟨hnew, happend⟩
        · exact .inl (by rw [List.map_cons, List.map_cons, hsame])
        · refine .inr ⟨?_, by rw [List.map_cons, List.map_cons, happend, List.cons_append]⟩
          rw [List.map_cons, List.mem_cons, not_or]
          exact ⟨Ne.symm hmiss, hnew⟩

theorem nodup_assignEntries (a : α) (b : β) {entries : List (α × β)}
    (hdistinct : (entries.map fun e => h.content e.1).Nodup) :
    ((assignEntries h a b entries).map fun e => h.content e.1).Nodup := by
  rcases map_content_assignEntries (h := h) a b entries with hsame | ⟨hnew, happend⟩
  · rwa [hsame]
  · rw [happend]
    exact List.Nodup.append hdistinct (List.nodup_singleton _) (by simpa using hnew)

/-- The assignment `m[a] = b`. -/
def assign (m : UnorderedMap h β) (a : α) (b : β) : UnorderedMap h β :=
  ⟨assignEntries h a b m.entries, nodup_assignEntries a b m.distinct⟩

@[simp] theorem find_empty (a : α) : ({} : UnorderedMap h β).find a = none := rfl

theorem find_congr (m : UnorderedMap h β) {a a' : α} (hcontent : h.content a = h.content a') :
    m.find a = m.find a' := by
  have hsame : (fun e : α × β => h.hits e.1 a) = fun e => h.hits e.1 a' := by
    funext e
    rw [Bool.eq_iff_iff, h.hits_iff, h.hits_iff, hcontent]
  rw [find, find, hsame]

theorem find_assign [DecidableEq γ] (m : UnorderedMap h β) (a a' : α) (b : β) :
    (m.assign a b).find a' = if h.content a' = h.content a then some b else m.find a' := by
  simp only [find, assign]
  generalize m.entries = entries
  induction entries with
  | nil =>
      simp only [assignEntries, List.find?_singleton, h.hits_iff]
      by_cases hcontent : h.content a' = h.content a
      · simp [hcontent]
      · simp [hcontent, Ne.symm hcontent]
  | cons e rest ih =>
      rw [assignEntries]
      split
      next hhit =>
        rw [h.hits_iff] at hhit
        rw [List.find?_cons, List.find?_cons]
        by_cases hcontent : h.content a' = h.content a
        · have hfound : h.hits e.1 a' = true := h.hits_iff.2 (hhit.trans hcontent.symm)
          simp [hfound, hcontent]
        · have hmiss : h.hits e.1 a' = false := by
            rw [Bool.eq_false_iff, ne_eq, h.hits_iff, hhit]
            exact Ne.symm hcontent
          simp [hmiss, hcontent]
      next hmiss =>
        rw [h.hits_iff] at hmiss
        rw [List.find?_cons, List.find?_cons]
        cases hfound : h.hits e.1 a' with
        | true =>
            rw [h.hits_iff] at hfound
            have hcontent : h.content a' ≠ h.content a := fun heq => hmiss (hfound.trans heq)
            simp [hcontent]
        | false => exact ih

theorem find_of_mem (m : UnorderedMap h β) {e : α × β} (he : e ∈ m.entries) :
    m.find e.1 = some e.2 := by
  have hdistinct := m.distinct
  unfold find
  generalize m.entries = entries at he hdistinct
  induction entries with
  | nil => cases he
  | cons head rest ih =>
      rw [List.map_cons, List.nodup_cons] at hdistinct
      rw [List.find?_cons]
      rcases List.mem_cons.1 he with heq | hrest
      · have hself : h.hits head.1 head.1 = true := h.hits_iff.2 rfl
        simp [heq, hself]
      · have hmiss : h.hits head.1 e.1 = false := by
          rw [Bool.eq_false_iff, ne_eq, h.hits_iff]
          intro heq
          exact hdistinct.1 (heq ▸ List.mem_map.2 ⟨e, hrest, rfl⟩)
        rw [hmiss]
        exact ih hrest hdistinct.2

theorem exists_mem_of_find {m : UnorderedMap h β} {a : α} {b : β} (hfind : m.find a = some b) :
    ∃ a', h.content a' = h.content a ∧ (a', b) ∈ m.entries := by
  obtain ⟨e, he, rfl⟩ := Option.map_eq_some_iff.1 hfind
  have hhit : h.hits e.1 a = true := List.find?_some (p := fun e : α × β => h.hits e.1 a) he
  exact ⟨e.1, h.hits_iff.1 hhit, List.mem_of_find?_eq_some he⟩

end UnorderedMap

end SomeipGateway
