import SomeipGateway.Binding.SharedMemoryManagers
import SomeipGateway.Lib.Sum

/-! # Who holds a slot

A slot that was sent in Event_updates is held by payload objects of consumers and
waited for by the allocation table of its provider. The table keeps payloads of
its own, so both are read off an allocation table.
-/

namespace SomeipGateway

/-- A slot of the provider's pool for a service. -/
structure Slot (ι : Type) where
  provider : ι
  key : Key
  index : Nat
deriving DecidableEq, Repr

variable {ι : Type} [DecidableEq ι]

def RemotePayload.isOf (slot : Slot ι) (origin : RemotePayload ι) : Bool :=
  origin.client = slot.provider && origin.about = slot.key && origin.handle.slotIndex = slot.index

/-- Whether the payload is a view of the slot. -/
def Payload.views (slot : Slot ι) (payload : Payload ι) : Nat :=
  if payload.origin.any (·.isOf slot) then 1 else 0

def Allocation.views (slot : Slot ι) (allocation : Allocation ι) : Nat :=
  (allocation.payload.map (Payload.views slot)).getD 0

/-- The payload objects that a call carries. -/
def Effect.carries (slot : Slot ι) : Effect ι → Nat
  | .updateEvent _ _ _ payload | .releasePayload payload => payload.views slot
  | _ => 0

namespace Allocations

/-- How many views of the slot the table keeps. -/
def views (slot : Slot ι) (table : Allocations ι) : Nat :=
  Table.sumVals (fun allocations => (allocations.map (Allocation.views slot)).sum) table

omit [DecidableEq ι] in
/-- How many consumers have not acknowledged the slot. -/
def pending (table : Allocations ι) (key : Key) (index : Nat) : Nat :=
  ((((table.lookup key).getD [])[index]?).map Allocation.pendingConsumers).getD 0

variable {table table' : Allocations ι} {key : Key} {payload : Payload ι} {consumerCount : Nat}
  {effects : List (Effect ι)} {slot : Slot ι}

omit [DecidableEq ι] in
/-- The vector only grows where the access behind it is defined. -/
theorem withSlot_eq {index : Nat} {allocation : Allocation ι}
    (h : (table.withSlot key index)[index]? = some allocation) :
    ∃ k, table.withSlot key index =
      (table.lookup key).getD [] ++ List.replicate k ({} : Allocation ι) := by
  unfold withSlot at *
  simp only at *
  split at h
  next hle =>
    rw [if_pos hle]
    have hlt := (List.getElem?_eq_some_iff.1 h).1
    simp only [resize, List.length_append, List.length_take, List.length_replicate] at hlt ⊢
    refine ⟨_, congrArg (· ++ _) (List.take_of_length_le ?_)⟩
    omega
  next hle =>
    rw [if_neg hle]
    exact ⟨0, by simp⟩

omit [DecidableEq ι] in
/-- The access behind `resize` is defined for every slot of a pool. -/
theorem withSlot_defined (table : Allocations ι) (key : Key) {index : Nat}
    (hindex : index + 1 < 2 ^ 64) :
    ∃ allocation, (table.withSlot key index)[index]? = some allocation := by
  have hlt : index < (table.withSlot key index).length := by
    unfold withSlot
    simp only
    split
    next hle =>
      rw [Nat.mod_eq_of_lt hindex, resize]
      simp only [List.length_append, List.length_take, List.length_replicate]
      omega
    next hle => exact Nat.lt_of_not_le hle
  exact ⟨_, List.getElem?_eq_getElem hlt⟩

theorem sum_views_withSlot {index : Nat} {allocation : Allocation ι}
    (h : (table.withSlot key index)[index]? = some allocation) :
    ((table.withSlot key index).map (Allocation.views slot)).sum =
      ((table.lookup key).map fun allocations =>
        (allocations.map (Allocation.views slot)).sum).getD 0 := by
  obtain ⟨k, heq⟩ := withSlot_eq h
  rw [heq]
  cases table.lookup key with
  | none => simp [Allocation.views]
  | some allocations => simp [Allocation.views]

theorem views_insertAllocation
    (h : table.insertAllocation key payload consumerCount = some (table', effects)) :
    table.views slot + payload.views slot =
      table'.views slot + (effects.map (Effect.carries slot)).sum := by
  unfold insertAllocation at h
  split at h
  · cases h
    simp [Effect.carries]
  · simp only at h
    split at h
    · cases h
    next allocation hallocation =>
      cases h
      have hinsert := Table.sumVals_insert
        (fun allocations => (allocations.map (Allocation.views slot)).sum) table key
        ((table.withSlot key payload.slotHandle).set payload.slotHandle
          ⟨some (allocation.payload.getD payload), allocation.pendingConsumers + consumerCount⟩)
      have hset := sum_map_set (Allocation.views slot) hallocation
        ⟨some (allocation.payload.getD payload), allocation.pendingConsumers + consumerCount⟩
      rw [sum_views_withSlot hallocation] at hset
      unfold views
      cases hold : allocation.payload with
      | none =>
          simp only [Allocation.views, hold, Option.getD_none, Option.map_some, Option.map_none,
            Option.getD_some, Option.isSome_none] at hset hinsert ⊢
          simp
          omega
      | some stored =>
          simp only [Allocation.views, hold, Option.map_some, Option.getD_some,
            Option.isSome_some] at hset hinsert ⊢
          simp [Effect.carries]
          omega

/-! ## The entry of a slot -/

omit [DecidableEq ι] in
/-- The allocation of a slot; where the vector ends, nothing is allocated. -/
def entry (table : Allocations ι) (key : Key) (index : Nat) : Allocation ι :=
  (((table.lookup key).getD [])[index]?).getD {}

omit [DecidableEq ι] in
theorem pending_eq_entry (table : Allocations ι) (key : Key) (index : Nat) :
    table.pending key index = (table.entry key index).pendingConsumers := by
  unfold pending entry
  cases ((table.lookup key).getD [])[index]? <;> rfl

omit [DecidableEq ι] in
theorem entry_insert (allocations : List (Allocation ι)) (key' : Key) (index : Nat) :
    entry (AList.insert key allocations table) key' index =
      if key' = key then (allocations[index]?).getD {} else table.entry key' index := by
  unfold entry
  rw [Table.lookup_insert_ite]
  split <;> rfl

omit [DecidableEq ι] in
theorem entry_insert_set {allocations : List (Allocation ι)} {index : Nat}
    {allocation : Allocation ι} (hindex : allocations[index]? = some allocation)
    (hkept : ∀ i, (allocations[i]?).getD {} = table.entry key i) (new : Allocation ι) (key' : Key)
    (index' : Nat) :
    entry (AList.insert key (allocations.set index new) table) key' index' =
      if key' = key ∧ index' = index then new else table.entry key' index' := by
  rw [entry_insert]
  by_cases hkey : key' = key
  · subst hkey
    by_cases hi : index' = index
    · subst hi
      have hlt := (List.getElem?_eq_some_iff.1 hindex).1
      simp [List.getElem?_set_self hlt]
    · simp [hi, List.getElem?_set_ne (Ne.symm hi), hkept]
  · simp [hkey]

omit [DecidableEq ι] in
/-- Making room for a slot changes no entry: the new elements are empty. -/
theorem getElem?_withSlot_getD {index : Nat} {allocation : Allocation ι}
    (h : (table.withSlot key index)[index]? = some allocation) (i : Nat) :
    ((table.withSlot key index)[i]?).getD {} = table.entry key i := by
  obtain ⟨k, heq⟩ := withSlot_eq h
  rw [heq, entry, List.getElem?_append]
  split
  · rfl
  next hlen =>
    rw [List.getElem?_eq_none (not_lt.1 hlen), List.getElem?_replicate]
    split <;> rfl

omit [DecidableEq ι] in
/-- The slot of the payload keeps a payload it has, and waits for more consumers. -/
theorem entry_insertAllocation
    (h : table.insertAllocation key payload consumerCount = some (table', effects))
    (hcount : consumerCount ≠ 0) (key' : Key) (index : Nat) :
    table'.entry key' index =
      if key' = key ∧ index = payload.slotHandle then
        ⟨some ((table.entry key index).payload.getD payload),
          (table.entry key index).pendingConsumers + consumerCount⟩
      else table.entry key' index := by
  simp only [insertAllocation, if_neg hcount] at h
  split at h
  · cases h
  next allocation hallocation =>
    cases h
    have hold := getElem?_withSlot_getD hallocation
    rw [entry_insert_set hallocation hold]
    split
    next hboth =>
      rw [hboth.2, ← hold, hallocation]
      rfl
    next => rfl

omit [DecidableEq ι] in
/-- The consumers are added to those that the slot waits for. -/
theorem pending_insertAllocation
    (h : table.insertAllocation key payload consumerCount = some (table', effects)) (key' : Key)
    (index : Nat) :
    table'.pending key' index = table.pending key' index +
      if key' = key ∧ index = payload.slotHandle then consumerCount else 0 := by
  by_cases hcount : consumerCount = 0
  · simp only [insertAllocation, if_pos hcount] at h
    cases h
    simp [hcount]
  · rw [pending_eq_entry, pending_eq_entry, entry_insertAllocation h hcount]
    split
    next hboth => rw [hboth.1]
    next => rfl

theorem views_insert_set (slot : Slot ι) {allocations : List (Allocation ι)} {index : Nat}
    {allocation : Allocation ι} (hlookup : table.lookup key = some allocations)
    (hindex : allocations[index]? = some allocation) (new : Allocation ι) :
    views slot (AList.insert key (allocations.set index new) table) + allocation.views slot =
      table.views slot + new.views slot := by
  have hinsert := Table.sumVals_insert
    (fun allocations => (allocations.map (Allocation.views slot)).sum) table key
    (allocations.set index new)
  have hset := sum_map_set (Allocation.views slot) hindex new
  simp only [hlookup, Option.map_some, Option.getD_some] at hinsert
  unfold views
  omega

theorem views_payloadConsumed (table : Allocations ι) (key : Key) (index : Nat) :
    table.views slot = (table.payloadConsumed key index).1.views slot +
      ((table.payloadConsumed key index).2.map (Effect.carries slot)).sum := by
  unfold payloadConsumed
  split
  · simp
  next allocations hallocations =>
    split
    · simp
    next allocation hallocation =>
      have hinsert := views_insert_set slot hallocations hallocation
      split
      · simp
      · split
        · have hkept := hinsert
            { allocation with pendingConsumers := allocation.pendingConsumers - 1 }
          have hsame : Allocation.views slot
              { allocation with pendingConsumers := allocation.pendingConsumers - 1 } =
                allocation.views slot := rfl
          simp only [List.map_nil, List.sum_nil]
          omega
        · have hfreed := hinsert {}
          have hempty : Allocation.views slot ({} : Allocation ι) = 0 := rfl
          have hcarried : ((allocation.payload.toList.map Effect.releasePayload).map
              (Effect.carries slot)).sum = allocation.views slot := by
            cases hpayload : allocation.payload <;> simp [Allocation.views, hpayload, Effect.carries]
          simp only [hcarried]
          omega

omit [DecidableEq ι] in
/-- An acknowledgement takes one consumer off, and the last one empties the entry. -/
theorem entry_payloadConsumed (table : Allocations ι) (key key' : Key) (index index' : Nat) :
    (table.payloadConsumed key index).1.entry key' index' =
      if key' = key ∧ index' = index ∧ (table.entry key index).pendingConsumers ≠ 0 then
        if (table.entry key index).pendingConsumers = 1 then {}
        else
          { table.entry key index with
            pendingConsumers := (table.entry key index).pendingConsumers - 1 }
      else table.entry key' index' := by
  unfold payloadConsumed
  cases hlookup : table.lookup key with
  | none => simp [entry, hlookup]
  | some allocations =>
      have hkept : ∀ i, (allocations[i]?).getD {} = table.entry key i := by
        intro i
        simp [entry, hlookup]
      cases hindex : allocations[index]? with
      | none => simp [← hkept index, hindex]
      | some allocation =>
          have hentry : table.entry key index = allocation := by
            rw [← hkept, hindex, Option.getD_some]
          simp only [hentry, hindex]
          by_cases hzero : allocation.pendingConsumers = 0
          · simp [hzero]
          · by_cases hone : allocation.pendingConsumers = 1
            · simp [hone, entry_insert_set hindex hkept]
            · have hmore : 1 < allocation.pendingConsumers := by omega
              simp [hzero, hone, hmore, entry_insert_set hindex hkept]

omit [DecidableEq ι] in
theorem pending_payloadConsumed (table : Allocations ι) (key key' : Key) (index index' : Nat) :
    (table.payloadConsumed key index).1.pending key' index' =
      table.pending key' index' - if key' = key ∧ index' = index then 1 else 0 := by
  rw [pending_eq_entry, pending_eq_entry, entry_payloadConsumed]
  by_cases hboth : key' = key ∧ index' = index
  · obtain ⟨rfl, rfl⟩ := hboth
    by_cases hzero : (table.entry key' index').pendingConsumers = 0
    · simp [hzero]
    · by_cases hone : (table.entry key' index').pendingConsumers = 1
      · simp [hone]
      · simp [hzero, hone]
  · rw [if_neg fun h => hboth ⟨h.1, h.2.1⟩, if_neg hboth, Nat.sub_zero]

omit [DecidableEq ι] in
/-- An acknowledgement of a slot that nobody waits for changes nothing. -/
theorem payloadConsumed_of_pending_eq_zero {index : Nat}
    (h : (table.entry key index).pendingConsumers = 0) :
    table.payloadConsumed key index = (table, []) := by
  unfold payloadConsumed
  cases hlookup : table.lookup key with
  | none => rfl
  | some allocations =>
      cases hindex : allocations[index]? with
      | none => simp [hindex]
      | some allocation =>
          have hzero : allocation.pendingConsumers = 0 := by simpa [entry, hlookup, hindex] using h
          simp [hindex, hzero]

omit [DecidableEq ι] in
/-- The payload of a slot is released with the last acknowledgement. -/
theorem payloadConsumed_effects (table : Allocations ι) (key : Key) (index : Nat) :
    (table.payloadConsumed key index).2 =
      if (table.entry key index).pendingConsumers = 1 then
        (table.entry key index).payload.toList.map .releasePayload
      else [] := by
  unfold payloadConsumed
  cases hlookup : table.lookup key with
  | none => simp [entry, hlookup]
  | some allocations =>
      cases hindex : allocations[index]? with
      | none => simp [entry, hlookup, hindex]
      | some allocation =>
          have hentry : table.entry key index = allocation := by simp [entry, hlookup, hindex]
          simp only [hentry, hindex]
          by_cases hzero : allocation.pendingConsumers = 0
          · simp [hzero]
          · by_cases hone : allocation.pendingConsumers = 1
            · simp [hone]
            · have hmore : 1 < allocation.pendingConsumers := by omega
              simp [hzero, hone, hmore]

/-! ## A slot that nobody waits for is not kept -/

omit [DecidableEq ι] in
/-- A payload is kept only while consumers are waited for. -/
def Tidy (table : Allocations ι) : Prop :=
  ∀ key allocations, table.lookup key = some allocations →
    ∀ allocation ∈ allocations, allocation.pendingConsumers = 0 → allocation = {}

omit [DecidableEq ι] in
theorem Tidy.insert (h : table.Tidy) {allocations : List (Allocation ι)}
    (hnew : ∀ allocation ∈ allocations, allocation.pendingConsumers = 0 → allocation = {}) :
    Tidy (AList.insert key allocations table) := by
  intro key' allocations' hlookup
  rw [Table.lookup_insert_ite] at hlookup
  split at hlookup
  · cases hlookup
    exact hnew
  · exact h key' allocations' hlookup

omit [DecidableEq ι] in
theorem Tidy.insertAllocation (h : table.Tidy)
    (hinsert : table.insertAllocation key payload consumerCount = some (table', effects)) :
    table'.Tidy := by
  unfold Allocations.insertAllocation at hinsert
  split at hinsert
  · cases hinsert
    exact h
  next hcount =>
    simp only at hinsert
    split at hinsert
    · cases hinsert
    next old hold =>
      cases hinsert
      refine h.insert fun allocation hmem hzero => ?_
      rcases List.mem_or_eq_of_mem_set hmem with hmem | rfl
      · obtain rfl | ⟨allocations, hlookup, hmem⟩ := mem_withSlot hmem
        · rfl
        · exact h key allocations hlookup allocation hmem hzero
      · simp only at hzero
        omega

omit [DecidableEq ι] in
theorem Tidy.payloadConsumed (h : table.Tidy) (key : Key) (index : Nat) :
    (table.payloadConsumed key index).1.Tidy := by
  unfold Allocations.payloadConsumed
  split
  · exact h
  next allocations hlookup =>
    split
    · exact h
    next old hold =>
      have hset : ∀ new : Allocation ι, (new.pendingConsumers = 0 → new = {}) →
          Tidy (AList.insert key (allocations.set index new) table) := by
        intro new hnew
        refine h.insert fun allocation hmem hzero => ?_
        rcases List.mem_or_eq_of_mem_set hmem with hmem | rfl
        · exact h key allocations hlookup allocation hmem hzero
        · exact hnew hzero
      split
      · exact h
      · split
        · refine hset _ fun hzero => ?_
          simp only at hzero
          omega
        · exact hset _ fun _ => rfl

end Allocations

end SomeipGateway
