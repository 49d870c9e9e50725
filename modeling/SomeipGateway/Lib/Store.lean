import SomeipGateway.Lib.Table

/-! # Finite maps with a default

A store is a total map that differs from the default value at finitely many places.
It is read like a function, and whether some place satisfies a property that the
default does not have can be computed.
-/

namespace SomeipGateway

structure Store (α β : Type) where
  table : Table α β := ∅

namespace Store

variable {α β : Type} [DecidableEq α] [Inhabited β]

instance : Inhabited (Store α β) := ⟨{}⟩

def get (m : Store α β) (a : α) : β := (m.table.lookup a).getD default

instance : CoeFun (Store α β) fun _ => α → β := ⟨get⟩

def set (m : Store α β) (a : α) (b : β) : Store α β := ⟨m.table.insert a b⟩

def any (m : Store α β) (p : α → β → Bool) : Bool := m.table.entries.any fun e => p e.1 e.2

@[simp] theorem empty_apply (a : α) : ({} : Store α β) a = default := rfl

@[simp, grind =] theorem set_apply (m : Store α β) (a a' : α) (b : β) :
    m.set a b a' = if a' = a then b else m a' := by
  simp only [set, get, Table.lookup_insert_ite]
  split <;> rfl

/-- A property that the default does not have holds nowhere when no entry has it. -/
theorem any_eq_false {m : Store α β} {p : α → β → Bool} (hdefault : ∀ a, p a default = false) :
    m.any p = false ↔ ∀ a, p a (m a) = false := by
  simp only [any, List.any_eq_false, Bool.not_eq_true]
  constructor
  · intro h a
    simp only [get]
    cases hlookup : m.table.lookup a with
    | none => exact hdefault a
    | some b => exact h ⟨a, b⟩ (Table.mem_of_lookup_eq_some hlookup)
  · intro h e he
    have hget := h e.1
    rwa [get, Table.lookup_eq_some_of_mem he] at hget

theorem any_eq_true {m : Store α β} {p : α → β → Bool} (hdefault : ∀ a, p a default = false) :
    m.any p = true ↔ ∃ a, p a (m a) = true := by
  rw [← Bool.not_eq_false, any_eq_false hdefault]
  simp

end Store

end SomeipGateway
