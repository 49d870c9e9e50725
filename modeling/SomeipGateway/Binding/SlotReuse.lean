import SomeipGateway.Binding.SlotAccounting
import SomeipGateway.Binding.SlotManager
import SomeipGateway.Lib.Run

/-! # When a slot is used again

The slots of the pools a process writes, over every sequence of allocations,
publications and acknowledgements. A payload object owns the guard of its slot, so
a slot is in use while the service holds its payload or the allocation table
keeps it for consumers.
-/

namespace SomeipGateway

/-- The pools of a process by service, its allocation table, and the payloads that
were allocated and neither published nor destroyed yet. -/
structure Publisher (ι : Type) where
  managers : Key → SlotManager
  allocations : Allocations ι
  held : Key → Nat → Bool

namespace Publisher

variable {ι : Type}

def setManager (σ : Publisher ι) (key : Key) (manager : SlotManager) : Publisher ι :=
  { σ with managers := Function.update σ.managers key manager }

def setHeld (σ : Publisher ι) (key : Key) (slot : Nat) (held : Bool) : Publisher ι :=
  { σ with held := fun k s => if k = key ∧ s = slot then held else σ.held k s }

/-- A destroyed payload destroys its guard, which releases the slot. -/
def release (σ : Publisher ι) (key : Key) : List (Effect ι) → Publisher ι
  | [] => σ
  | .releasePayload payload :: rest =>
      (σ.setManager key ((σ.managers key).releaseSlot payload.slotHandle)).release key rest
  | _ :: rest => σ.release key rest

inductive Label where
  | allocateSlot (key : Key)
  | insertAllocation (key : Key) (slot size consumerCount : Nat)
  /-- A payload is destroyed without being published. -/
  | discard (key : Key) (slot : Nat)
  | payloadConsumed (key : Key) (slot : Nat)
deriving DecidableEq, Repr

def allocateSlot (σ : Publisher ι) (key : Key) : Publisher ι :=
  match (σ.managers key).allocateSlot with
  | none => σ
  | some (slot, manager) => (σ.setManager key manager).setHeld key slot true

def insertAllocation (σ : Publisher ι) (key : Key) (slot size consumerCount : Nat) :
    Option (Publisher ι) := do
  let (allocations, effects) ← σ.allocations.insertAllocation key ⟨slot, size, none⟩ consumerCount
  some (({ σ with allocations := allocations }.setHeld key slot false).release key effects)

def payloadConsumed (σ : Publisher ι) (key : Key) (slot : Nat) : Publisher ι :=
  let (allocations, effects) := σ.allocations.payloadConsumed key slot
  { σ with allocations := allocations }.release key effects

def next (σ : Publisher ι) : Label → Option (Publisher ι)
  | .allocateSlot key => some (σ.allocateSlot key)
  | .insertAllocation key slot size consumerCount =>
      if σ.held key slot then σ.insertAllocation key slot size consumerCount else none
  | .discard key slot =>
      if σ.held key slot then
        some ((σ.setHeld key slot false).release key [.releasePayload ⟨slot, 0, none⟩])
      else none
  | .payloadConsumed key slot => some (σ.payloadConsumed key slot)

/-- Pools with no slot in use; their sizes and counts are 64 bits wide. -/
def init (slotSizes slotCounts : Key → UInt64) : Publisher ι where
  managers := fun key => { slotSize := (slotSizes key).toNat, slotCount := (slotCounts key).toNat }
  allocations := ∅
  held := fun _ _ => false

/-! ## What a step does to each slot -/

/-- All that the process knows of one slot. -/
structure SlotState (ι : Type) where
  held : Bool
  entry : Allocation ι
  referenceCount : Nat

def slot (σ : Publisher ι) (key : Key) (index : Nat) : SlotState ι :=
  ⟨σ.held key index, σ.allocations.entry key index, (σ.managers key).referenceCount index⟩

def slotCount (σ : Publisher ι) (key : Key) : Nat := (σ.managers key).slotCount

/-- A slot is free, its payload is with the service, or it waits for consumers. -/
inductive SlotState.Wf (index bound : Nat) : SlotState ι → Prop where
  | free : Wf index bound ⟨false, {}, 0⟩
  | held (hindex : index < bound) : Wf index bound ⟨true, {}, 1⟩
  | waiting (payload : Payload ι) (n : Nat) (hindex : index < bound)
      (hpayload : payload.slotHandle = index) (hn : n ≠ 0) :
      Wf index bound ⟨false, ⟨some payload, n⟩, 1⟩

def Wf (σ : Publisher ι) : Prop :=
  ∀ key index, (σ.slot key index).Wf index (σ.slotCount key)

/-- The step changes at most the given slot, and no pool size. -/
structure Touches (σ σ' : Publisher ι) (key : Key) (index : Nat) : Prop where
  slot : ∀ key' index', ¬(key' = key ∧ index' = index) → σ'.slot key' index' = σ.slot key' index'
  slotCount : ∀ key', σ'.slotCount key' = σ.slotCount key'

theorem Wf.of_touches {σ σ' : Publisher ι} {key : Key} {index : Nat} (h : σ.Wf)
    (htouches : Touches σ σ' key index) (hslot : (σ'.slot key index).Wf index (σ.slotCount key)) :
    σ'.Wf := by
  intro key' index'
  rw [htouches.slotCount]
  by_cases hsame : key' = key ∧ index' = index
  · obtain ⟨rfl, rfl⟩ := hsame
    exact hslot
  · rw [htouches.slot key' index' hsame]
    exact h key' index'

theorem Touches.trans {σ σ' σ'' : Publisher ι} {key : Key} {index : Nat}
    (h : Touches σ σ' key index) (h' : Touches σ' σ'' key index) : Touches σ σ'' key index :=
  ⟨fun key' index' hne => (h'.slot key' index' hne).trans (h.slot key' index' hne),
    fun key' => (h'.slotCount key').trans (h.slotCount key')⟩

theorem Touches.refl (σ : Publisher ι) (key : Key) (index : Nat) : Touches σ σ key index :=
  ⟨fun _ _ _ => rfl, fun _ => rfl⟩

/-- The reference count of one slot is set. -/
def setReferenceCount (σ : Publisher ι) (key : Key) (index n : Nat) : Publisher ι :=
  σ.setManager key { σ.managers key with
    referenceCount := Function.update (σ.managers key).referenceCount index n }

theorem touches_setReferenceCount (σ : Publisher ι) (key : Key) (index n : Nat) :
    Touches σ (σ.setReferenceCount key index n) key index := by
  refine ⟨fun key' index' hne => ?_, fun key' => ?_⟩
  · by_cases hkey : key' = key
    · subst hkey
      have hindex : index' ≠ index := fun h => hne ⟨rfl, h⟩
      simp [slot, setReferenceCount, setManager, hindex]
    · simp [slot, setReferenceCount, setManager, hkey]
  · by_cases hkey : key' = key
    · subst hkey
      simp [slotCount, setReferenceCount, setManager]
    · simp [slotCount, setReferenceCount, setManager, hkey]

theorem slot_setReferenceCount (σ : Publisher ι) (key : Key) (index n : Nat) :
    (σ.setReferenceCount key index n).slot key index =
      { σ.slot key index with referenceCount := n } := by
  simp [slot, setReferenceCount, setManager]

/-- Destroying the payload of a slot in use takes a reference off it. -/
theorem release_singleton {σ : Publisher ι} {key : Key} {payload : Payload ι}
    (hindex : payload.slotHandle < σ.slotCount key)
    (hcount : (σ.slot key payload.slotHandle).referenceCount = 1) :
    σ.release key [.releasePayload payload] =
      σ.setReferenceCount key payload.slotHandle 0 := by
  have hcount' : (σ.managers key).referenceCount payload.slotHandle = 1 := hcount
  have hindex' : payload.slotHandle < (σ.managers key).slotCount := hindex
  simp [release, setReferenceCount, SlotManager.releaseSlot, hcount', hindex']

theorem touches_setHeld (σ : Publisher ι) (key : Key) (index : Nat) (held : Bool) :
    Touches σ (σ.setHeld key index held) key index := by
  refine ⟨fun key' index' hne => ?_, fun _ => rfl⟩
  simp [slot, setHeld, hne]

theorem slot_setHeld (σ : Publisher ι) (key : Key) (index : Nat) (held : Bool) :
    (σ.setHeld key index held).slot key index = { σ.slot key index with held := held } := by
  simp [slot, setHeld]

/-- A table that differs in one entry. -/
theorem touches_allocations {σ : Publisher ι} {allocations : Allocations ι} {key : Key}
    {index : Nat} (h : ∀ key' index', ¬(key' = key ∧ index' = index) →
      allocations.entry key' index' = σ.allocations.entry key' index') :
    Touches σ { σ with allocations := allocations } key index :=
  ⟨fun key' index' hne => by simp [slot, h key' index' hne], fun _ => rfl⟩

/-! ## The steps -/

/-- A slot that was free is handed out, or nothing changes. -/
theorem allocateSlot_cases {σ : Publisher ι} (h : σ.Wf) (key : Key) :
    σ.allocateSlot key = σ ∨ ∃ index, index < σ.slotCount key ∧
      σ.slot key index = ⟨false, {}, 0⟩ ∧ Touches σ (σ.allocateSlot key) key index ∧
      (σ.allocateSlot key).slot key index = ⟨true, {}, 1⟩ := by
  cases hallocate : (σ.managers key).allocateSlot with
  | none => exact .inl (by simp [allocateSlot, hallocate])
  | some result =>
      obtain ⟨index, manager⟩ := result
      obtain ⟨hindex, hzero, rfl⟩ := SlotManager.allocateSlot_eq_some hallocate
      have hfree : σ.slot key index = ⟨false, {}, 0⟩ := by
        have hcount : (σ.slot key index).referenceCount = 0 := hzero
        generalize hs : σ.slot key index = s at hcount
        cases hs ▸ h key index with
        | free => rfl
        | held => cases hcount
        | waiting => cases hcount
      have hstep : σ.allocateSlot key =
          (σ.setReferenceCount key index 1).setHeld key index true := by
        simp [allocateSlot, hallocate, setReferenceCount]
      rw [hstep]
      refine .inr ⟨index, hindex, hfree,
        (touches_setReferenceCount σ key index 1).trans (touches_setHeld _ key index true), ?_⟩
      rw [slot_setHeld, slot_setReferenceCount, hfree]

/-- Destroying a payload that is with the service frees its slot. -/
theorem discard_held {σ : Publisher ι} {key : Key} (payload : Payload ι)
    (hindex : payload.slotHandle < σ.slotCount key)
    (hslot : σ.slot key payload.slotHandle = ⟨true, {}, 1⟩) :
    Touches σ ((σ.setHeld key payload.slotHandle false).release key [.releasePayload payload]) key
        payload.slotHandle ∧
      ((σ.setHeld key payload.slotHandle false).release key [.releasePayload payload]).slot key
        payload.slotHandle = ⟨false, {}, 0⟩ := by
  have hcount : ((σ.setHeld key payload.slotHandle false).slot key
      payload.slotHandle).referenceCount = 1 := by
    rw [slot_setHeld, hslot]
  rw [release_singleton (σ := σ.setHeld key payload.slotHandle false) hindex hcount]
  refine ⟨(touches_setHeld σ key payload.slotHandle false).trans
    (touches_setReferenceCount _ key payload.slotHandle 0), ?_⟩
  rw [slot_setReferenceCount, slot_setHeld, hslot]

/-- Publishing a payload to consumers makes its slot wait for them; without
consumers it frees the slot. -/
theorem insertAllocation_held {σ : Publisher ι} {key : Key} {index : Nat}
    (hindex : index < σ.slotCount key) (hbound : σ.slotCount key < 2 ^ 64)
    (hslot : σ.slot key index = ⟨true, {}, 1⟩) (size consumerCount : Nat) :
    ∃ σ', σ.insertAllocation key index size consumerCount = some σ' ∧
      Touches σ σ' key index ∧
      σ'.slot key index = if consumerCount = 0 then ⟨false, {}, 0⟩
        else ⟨false, ⟨some ⟨index, size, none⟩, consumerCount⟩, 1⟩ := by
  by_cases hzero : consumerCount = 0
  · have hdiscard := discard_held ⟨index, size, none⟩ hindex hslot
    refine ⟨_, ?_, hdiscard.1, by rw [if_pos hzero]; exact hdiscard.2⟩
    simp [insertAllocation, Allocations.insertAllocation, hzero, setHeld]
  · have hentry : σ.allocations.entry key index = {} := congrArg SlotState.entry hslot
    obtain ⟨allocation, hallocation⟩ := Allocations.withSlot_defined σ.allocations key
      (Nat.lt_of_le_of_lt hindex hbound)
    have hempty : allocation = {} := by
      rw [← hentry, ← Allocations.getElem?_withSlot_getD hallocation, hallocation]
      rfl
    subst hempty
    obtain ⟨table, hinsert⟩ : ∃ table, σ.allocations.insertAllocation key ⟨index, size, none⟩
        consumerCount = some (table, []) := by
      simp [Allocations.insertAllocation, hzero, hallocation]
    have hentries := Allocations.entry_insertAllocation hinsert hzero
    refine ⟨({ σ with allocations := table }.setHeld key index false), ?_, ?_, ?_⟩
    · simp [insertAllocation, hinsert, release]
    · exact (touches_allocations fun key' index' hne => by rw [hentries, if_neg hne]).trans
        (touches_setHeld _ key index false)
    · have hcount : (σ.managers key).referenceCount index = 1 :=
        congrArg SlotState.referenceCount hslot
      rw [slot_setHeld, if_neg hzero]
      simp [slot, hentries, hentry, hcount]

/-- An acknowledgement of a slot that nobody waits for changes nothing. -/
theorem payloadConsumed_of_pending_eq_zero {σ : Publisher ι} {key : Key} {index : Nat}
    (h : (σ.slot key index).entry.pendingConsumers = 0) : σ.payloadConsumed key index = σ := by
  have hzero : (σ.allocations.entry key index).pendingConsumers = 0 := h
  simp [payloadConsumed, Allocations.payloadConsumed_of_pending_eq_zero hzero, release]

/-- An acknowledgement takes one consumer off a waiting slot, and the last one frees
it. -/
theorem payloadConsumed_waiting {σ : Publisher ι} {key : Key} {index n : Nat}
    {payload : Payload ι} (hindex : index < σ.slotCount key) (hpayload : payload.slotHandle = index)
    (hslot : σ.slot key index = ⟨false, ⟨some payload, n + 1⟩, 1⟩) :
    Touches σ (σ.payloadConsumed key index) key index ∧
      (σ.payloadConsumed key index).slot key index =
        if n = 0 then ⟨false, {}, 0⟩ else ⟨false, ⟨some payload, n⟩, 1⟩ := by
  have hentry : σ.allocations.entry key index = ⟨some payload, n + 1⟩ :=
    congrArg SlotState.entry hslot
  have hentries := Allocations.entry_payloadConsumed σ.allocations key
  have heffects := Allocations.payloadConsumed_effects σ.allocations key index
  cases hconsumed : σ.allocations.payloadConsumed key index with
  | mk table effects =>
      simp only [hconsumed, hentry] at heffects
      have htable : ∀ key' index', table.entry key' index' =
          if key' = key ∧ index' = index then (if n = 0 then {} else ⟨some payload, n⟩)
          else σ.allocations.entry key' index' := by
        intro key' index'
        have hkey := hentries key' index index'
        simpa [hconsumed, hentry] using hkey
      have htouches : Touches σ { σ with allocations := table } key index :=
        touches_allocations fun key' index' hne => by rw [htable, if_neg hne]
      have hslot' : (Publisher.slot { σ with allocations := table } key index) =
          ⟨false, if n = 0 then {} else ⟨some payload, n⟩, 1⟩ := by
        have hheld : σ.held key index = false := congrArg SlotState.held hslot
        have hcount : (σ.managers key).referenceCount index = 1 :=
          congrArg SlotState.referenceCount hslot
        simp [slot, hheld, hcount, htable]
      subst hpayload
      simp only [payloadConsumed, hconsumed]
      by_cases hlast : n = 0
      · have hrelease := release_singleton (σ := { σ with allocations := table }) hindex
          (congrArg SlotState.referenceCount hslot')
        simp only [hlast, Nat.zero_add, if_true, Option.toList_some, List.map_cons, List.map_nil]
          at heffects
        rw [heffects, hrelease, slot_setReferenceCount, hslot', if_pos hlast]
        exact ⟨htouches.trans (touches_setReferenceCount _ key payload.slotHandle 0),
          by simp [hlast]⟩
      · have hnone : effects = [] := by simpa [hlast] using heffects
        subst hnone
        refine ⟨htouches, ?_⟩
        rw [if_neg hlast]
        simpa [release, hlast] using hslot'

/-- What a step does to the slot it is about. -/
inductive SlotState.Move (key : Key) (index bound : Nat) :
    Label → SlotState ι → SlotState ι → Prop where
  | full (s : SlotState ι) : Move key index bound (.allocateSlot key) s s
  | allocate (hindex : index < bound) :
      Move key index bound (.allocateSlot key) ⟨false, {}, 0⟩ ⟨true, {}, 1⟩
  | publish (size n : Nat) (hindex : index < bound) :
      Move key index bound (.insertAllocation key index size n) ⟨true, {}, 1⟩
        (if n = 0 then ⟨false, {}, 0⟩ else ⟨false, ⟨some ⟨index, size, none⟩, n⟩, 1⟩)
  | discard : Move key index bound (.discard key index) ⟨true, {}, 1⟩ ⟨false, {}, 0⟩
  | consume (payload : Payload ι) (n : Nat) (hindex : index < bound)
      (hpayload : payload.slotHandle = index) :
      Move key index bound (.payloadConsumed key index) ⟨false, ⟨some payload, n + 1⟩, 1⟩
        (if n = 0 then ⟨false, {}, 0⟩ else ⟨false, ⟨some payload, n⟩, 1⟩)
  | late (s : SlotState ι) (hpending : s.entry.pendingConsumers = 0) :
      Move key index bound (.payloadConsumed key index) s s

theorem SlotState.Move.wf {key : Key} {index bound : Nat} {label : Label} {s s' : SlotState ι}
    (hmove : Move key index bound label s s') (h : s.Wf index bound) : s'.Wf index bound := by
  cases hmove with
  | full => exact h
  | allocate hindex => exact .held hindex
  | publish size n hindex =>
      split
      next => exact .free
      next hn => exact .waiting _ n hindex rfl hn
  | discard => exact .free
  | consume payload n hindex hpayload =>
      split
      next => exact .free
      next hn => exact .waiting payload n hindex hpayload hn
  | late => exact h

theorem Wf.slot_of_held {σ : Publisher ι} (h : σ.Wf) {key : Key} {index : Nat}
    (hheld : σ.held key index = true) :
    index < σ.slotCount key ∧ σ.slot key index = ⟨true, {}, 1⟩ := by
  have hheld' : (σ.slot key index).held = true := hheld
  generalize hs : σ.slot key index = s at hheld'
  cases hs ▸ h key index with
  | free => cases hheld'
  | held hindex => exact ⟨hindex, rfl⟩
  | waiting => cases hheld'

theorem Wf.payloadConsumed_move {σ : Publisher ι} (h : σ.Wf) (key : Key) (index : Nat) :
    Touches σ (σ.payloadConsumed key index) key index ∧
      SlotState.Move key index (σ.slotCount key) (.payloadConsumed key index) (σ.slot key index)
        ((σ.payloadConsumed key index).slot key index) := by
  by_cases hpending : (σ.slot key index).entry.pendingConsumers = 0
  · rw [payloadConsumed_of_pending_eq_zero hpending]
    exact ⟨.refl σ key index, .late _ hpending⟩
  · generalize hs : σ.slot key index = s at hpending
    cases hs ▸ h key index with
    | free => exact absurd rfl hpending
    | held => exact absurd rfl hpending
    | waiting payload n hindex hpayload hn =>
        obtain ⟨m, rfl⟩ := Nat.exists_eq_succ_of_ne_zero hn
        obtain ⟨htouches, hslot⟩ := payloadConsumed_waiting hindex hpayload hs
        rw [hslot]
        exact ⟨htouches, .consume payload m hindex hpayload⟩

/-- Every step touches one slot, and in one of these ways. -/
theorem Wf.next_cases {σ σ' : Publisher ι} {label : Label} (h : σ.Wf)
    (hbound : ∀ key, σ.slotCount key < 2 ^ 64) (hnext : σ.next label = some σ') :
    ∃ key index, Touches σ σ' key index ∧ SlotState.Move key index (σ.slotCount key) label
      (σ.slot key index) (σ'.slot key index) := by
  cases label with
  | allocateSlot key =>
      cases hnext
      rcases allocateSlot_cases h key with hsame | ⟨index, hindex, hfree, htouches, hheld⟩
      · rw [hsame]
        exact ⟨key, 0, .refl σ key 0, .full _⟩
      · refine ⟨key, index, htouches, ?_⟩
        rw [hfree, hheld]
        exact .allocate hindex
  | insertAllocation key index size consumerCount =>
      obtain ⟨hheld, hinsert⟩ := Option.ite_none_right_eq_some.1 hnext
      obtain ⟨hindex, hslot⟩ := h.slot_of_held hheld
      obtain ⟨σ'', hdefined, htouches, hslot'⟩ :=
        insertAllocation_held hindex (hbound key) hslot size consumerCount
      cases hinsert.symm.trans hdefined
      refine ⟨key, index, htouches, ?_⟩
      rw [hslot, hslot']
      exact .publish size consumerCount hindex
  | discard key index =>
      obtain ⟨hheld, hdiscard⟩ := Option.ite_none_right_eq_some.1 hnext
      cases hdiscard
      obtain ⟨hindex, hslot⟩ := h.slot_of_held hheld
      obtain ⟨htouches, hslot'⟩ := discard_held ⟨index, 0, none⟩ hindex hslot
      refine ⟨key, index, htouches, ?_⟩
      rw [hslot]
      exact hslot' ▸ .discard
  | payloadConsumed key index =>
      cases hnext
      exact ⟨key, index, h.payloadConsumed_move key index⟩

/-! ## The consumers a slot waits for -/

/-- The acknowledgements that are still to come for a slot after the given calls,
the last call first: the last publication of the slot asks for one from each of
its consumers. -/
def due (key : Key) (index : Nat) : List Label → Nat
  | [] => 0
  | .insertAllocation key' index' _ consumerCount :: earlier =>
      if key' = key ∧ index' = index then consumerCount else due key index earlier
  | .payloadConsumed key' index' :: earlier =>
      if key' = key ∧ index' = index then due key index earlier - 1 else due key index earlier
  | .allocateSlot _ :: earlier => due key index earlier
  | .discard _ _ :: earlier => due key index earlier

/-- A publisher with the calls it has taken, the last one first. -/
structure History (ι : Type) where
  publisher : Publisher ι
  labels : List Label

def History.next (σ : History ι) (label : Label) : Option (History ι) :=
  (σ.publisher.next label).map fun publisher => ⟨publisher, label :: σ.labels⟩

def History.Reachable (slotSizes slotCounts : Key → UInt64) (σ : History ι) : Prop :=
  Reach History.next (fun _ _ => True) ⟨.init slotSizes slotCounts, []⟩ σ

theorem SlotState.Move.due_eq {key : Key} {index bound : Nat} {label : Label}
    {s s' : SlotState ι} {earlier : List Label} (hmove : Move key index bound label s s')
    (h : due key index earlier = s.entry.pendingConsumers) :
    due key index (label :: earlier) = s'.entry.pendingConsumers := by
  cases hmove with
  | full => exact h
  | allocate => exact h
  | publish size n =>
      simp only [due, and_self, if_true]
      split
      next hzero => exact hzero
      next => rfl
  | discard => exact h
  | consume payload n =>
      simp only [due, and_self, if_true, h, Nat.add_sub_cancel]
      split
      next hzero => exact hzero
      next => rfl
  | late _ hpending => simp [due, h, hpending]

theorem SlotState.Move.due_of_ne {key key' : Key} {index index' bound : Nat} {label : Label}
    {s s' : SlotState ι} (earlier : List Label) (hmove : Move key index bound label s s')
    (hne : ¬(key' = key ∧ index' = index)) :
    due key' index' (label :: earlier) = due key' index' earlier := by
  have hne' : ¬(key = key' ∧ index = index') := fun h => hne ⟨h.1.symm, h.2.symm⟩
  cases hmove with
  | full => rfl
  | allocate => rfl
  | publish => simp [due, hne']
  | discard => rfl
  | consume => simp [due, hne']
  | late => simp [due, hne']

/-- Every slot is in one of its three states and waits for the acknowledgements that
are due. -/
structure History.Accounted (slotCounts : Key → UInt64) (σ : History ι) : Prop where
  wf : σ.publisher.Wf
  slotCount : ∀ key, σ.publisher.slotCount key = (slotCounts key).toNat
  due : ∀ key index,
    due key index σ.labels = (σ.publisher.slot key index).entry.pendingConsumers

theorem History.Accounted.slotCount_lt {slotCounts : Key → UInt64} {σ : History ι}
    (h : σ.Accounted slotCounts) (key : Key) : σ.publisher.slotCount key < 2 ^ 64 := by
  rw [h.slotCount]
  exact (slotCounts key).toNat_lt

theorem History.Accounted.next {slotCounts : Key → UInt64} {σ σ' : History ι} {label : Label}
    (h : σ.Accounted slotCounts) (hnext : σ.next label = some σ') : σ'.Accounted slotCounts := by
  obtain ⟨publisher, hpublisher, rfl⟩ := Option.map_eq_some_iff.1 hnext
  obtain ⟨key, index, htouches, hmove⟩ := h.wf.next_cases h.slotCount_lt hpublisher
  refine ⟨h.wf.of_touches htouches (hmove.wf (h.wf key index)),
    fun key' => (htouches.slotCount key').trans (h.slotCount key'), fun key' index' => ?_⟩
  by_cases hsame : key' = key ∧ index' = index
  · obtain ⟨rfl, rfl⟩ := hsame
    exact hmove.due_eq (h.due key' index')
  · rw [hmove.due_of_ne σ.labels hsame, h.due]
    exact congrArg (fun s => s.entry.pendingConsumers) (htouches.slot key' index' hsame).symm

theorem History.Reachable.accounted {slotSizes slotCounts : Key → UInt64} {σ : History ι}
    (h : σ.Reachable slotSizes slotCounts) : σ.Accounted slotCounts := by
  refine Reach.invariant ⟨fun _ _ => .free, fun _ => rfl, fun _ _ => rfl⟩ ?_ h
  exact fun _ _ _ hs _ hnext => hs.next hnext

theorem not_allocateSlot_of_pending {σ : Publisher ι} (h : σ.Wf) {key : Key} {index : Nat}
    (hpending : (σ.slot key index).entry.pendingConsumers ≠ 0) (manager : SlotManager) :
    (σ.managers key).allocateSlot ≠ some (index, manager) := by
  intro hallocate
  have hcount : (σ.slot key index).referenceCount = 0 :=
    (SlotManager.allocateSlot_eq_some hallocate).2.1
  generalize hs : σ.slot key index = s at hpending hcount
  cases hs ▸ h key index with
  | free => exact hpending rfl
  | held => exact hpending rfl
  | waiting => cases hcount

theorem payloadConsumed_last {σ : Publisher ι} (h : σ.Wf) {key : Key} {index : Nat}
    (hpending : (σ.slot key index).entry.pendingConsumers = 1) :
    index < σ.slotCount key ∧
      (σ.payloadConsumed key index).slot key index = ⟨false, {}, 0⟩ := by
  generalize hs : σ.slot key index = s at hpending
  cases hs ▸ h key index with
  | free => cases hpending
  | held => cases hpending
  | waiting payload n hindex hpayload =>
      cases hpending
      exact ⟨hindex, (payloadConsumed_waiting hindex hpayload hs).2⟩

/-- In every history of a process: a slot that waits for acknowledgements is not given
out, the last of them frees it, further ones change nothing, and publishing or
acknowledging one slot leaves every other slot of every pool as it was. -/
theorem slot_reused_only_after_consumed {slotSizes slotCounts : Key → UInt64} {σ : History ι}
    (h : σ.Reachable slotSizes slotCounts) (key : Key) (index : Nat) :
    (due key index σ.labels ≠ 0 →
      ∀ manager, (σ.publisher.managers key).allocateSlot ≠ some (index, manager)) ∧
    (due key index σ.labels = 1 → index < (slotCounts key).toNat ∧
      (σ.publisher.payloadConsumed key index).slot key index = ⟨false, {}, 0⟩) ∧
    (due key index σ.labels = 0 → σ.publisher.payloadConsumed key index = σ.publisher) ∧
    Touches σ.publisher (σ.publisher.payloadConsumed key index) key index ∧
    (σ.publisher.held key index = true → ∀ size consumerCount, ∃ σ',
      σ.publisher.insertAllocation key index size consumerCount = some σ' ∧
        Touches σ.publisher σ' key index) := by
  have hacc := h.accounted
  rw [hacc.due, ← hacc.slotCount]
  refine ⟨fun hdue => not_allocateSlot_of_pending hacc.wf hdue,
    fun hdue => payloadConsumed_last hacc.wf hdue, payloadConsumed_of_pending_eq_zero,
    (hacc.wf.payloadConsumed_move key index).1, fun hheld size consumerCount => ?_⟩
  obtain ⟨hindex, hslot⟩ := hacc.wf.slot_of_held hheld
  obtain ⟨σ', hinsert, htouches, -⟩ :=
    insertAllocation_held hindex (hacc.slotCount_lt key) hslot size consumerCount
  exact ⟨σ', hinsert, htouches⟩

/-- A slot published to two consumers, of which one has acknowledged it. -/
theorem slot_kept_for_second_consumer :
    ∃ (key : Key) (σ : History Unit), due key 0 σ.labels = 1 ∧
      (∀ manager, (σ.publisher.managers key).allocateSlot ≠ some (0, manager)) ∧
      (σ.publisher.payloadConsumed key 0).slot key 0 = ⟨false, {}, 0⟩ := by
  let key : Key := ⟨⟨[], 1, 0⟩, []⟩
  have hreach : History.Reachable (ι := Unit) (fun _ => 64) (fun _ => 2) _ :=
    (((Reach.init.step (a := Label.allocateSlot key) trivial rfl).step
      (a := Label.insertAllocation key 0 16 2) trivial rfl).step
      (a := Label.payloadConsumed key 0) trivial rfl)
  have hslot := slot_reused_only_after_consumed hreach key 0
  exact ⟨key, _, rfl, hslot.1 (by decide), (hslot.2.1 rfl).2⟩

end Publisher

end SomeipGateway
