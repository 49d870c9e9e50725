import Mathlib.Logic.Function.Basic
import SomeipGateway.Binding.Message

/-! # The slots of a shared memory pool

`Shared_memory_slot_manager` counts the references to each slot of the pool a
process writes, `Read_only_shared_memory_slot_manager` reads the slots of a peer.
A guard releases its slot when it is destroyed. Offsets are computed with 64 bits.
-/

namespace SomeipGateway

/-- A range of the shared memory. -/
structure Span where
  offset : Nat
  size : Nat
deriving DecidableEq, Repr

/-- `subspan` with an offset past the end is outside the range. -/
def Span.subspan (span : Span) (offset : Nat) : Option Span :=
  if offset ≤ span.size then some ⟨span.offset + offset, span.size - offset⟩ else none

/-- The start of a slot in the pool. -/
def slotOffset (slotSize slot : Nat) : Nat := slot * slotSize % 2 ^ 64

structure SlotManager where
  slotSize : Nat
  slotCount : Nat
  referenceCount : Nat → Nat := fun _ => 0

namespace SlotManager

/-- The first slot without references gets one, which the returned guard owns. -/
def allocateSlot (σ : SlotManager) : Option (Nat × SlotManager) :=
  ((List.range σ.slotCount).find? fun slot => σ.referenceCount slot = 0).map fun slot =>
    (slot, { σ with referenceCount := Function.update σ.referenceCount slot 1 })

/-- What a guard does when it is destroyed; errors are ignored there. -/
def releaseSlot (σ : SlotManager) (slot : Nat) : SlotManager :=
  if slot < σ.slotCount ∧ σ.referenceCount slot ≠ 0 then
    { σ with
      referenceCount := Function.update σ.referenceCount slot (σ.referenceCount slot - 1) }
  else σ

/-- `release_slot` as its callers outside the guards see it, `none` for an error. -/
def tryReleaseSlot (σ : SlotManager) (slot : Nat) : Option SlotManager :=
  if slot < σ.slotCount ∧ σ.referenceCount slot ≠ 0 then some (σ.releaseSlot slot) else none

/-- One more reference to an allocated slot; the counter has 32 bits. -/
def addConsumer (σ : SlotManager) (slot : Nat) : Option SlotManager :=
  if slot < σ.slotCount ∧ σ.referenceCount slot ≠ 0 then
    some { σ with
      referenceCount :=
        Function.update σ.referenceCount slot ((σ.referenceCount slot + 1) % 2 ^ 32) }
  else none

def getReferenceCount (σ : SlotManager) (slot : Nat) : Nat :=
  if slot < σ.slotCount then σ.referenceCount slot else 0

def getMemory (σ : SlotManager) (slot : Nat) : Option Span :=
  if slot < σ.slotCount ∧ σ.referenceCount slot ≠ 0 then
    some ⟨slotOffset σ.slotSize slot, σ.slotSize⟩
  else none

theorem allocateSlot_eq_some {σ σ' : SlotManager} {slot : Nat}
    (h : σ.allocateSlot = some (slot, σ')) :
    slot < σ.slotCount ∧ σ.referenceCount slot = 0 ∧
      σ' = { σ with referenceCount := Function.update σ.referenceCount slot 1 } := by
  obtain ⟨found, hfound, heq⟩ := Option.map_eq_some_iff.1 h
  cases heq
  exact ⟨List.mem_range.1 (List.mem_of_find?_eq_some hfound), by simpa using List.find?_some hfound,
    rfl⟩

/-- The loop of `allocate_slot` takes the lowest free slot. -/
theorem referenceCount_ne_zero_of_lt {σ σ' : SlotManager} {slot lower : Nat}
    (h : σ.allocateSlot = some (slot, σ')) (hlower : lower < slot) :
    σ.referenceCount lower ≠ 0 := by
  obtain ⟨found, hfound, heq⟩ := Option.map_eq_some_iff.1 h
  cases heq
  have hskipped := (List.find?_range_eq_some.1 hfound).2.2 lower hlower
  simpa using hskipped

theorem allocateSlot_eq_none {σ : SlotManager} :
    σ.allocateSlot = none ↔ ∀ slot < σ.slotCount, σ.referenceCount slot ≠ 0 := by
  simp [allocateSlot]

/-- A slot can be written right after it was allocated. -/
theorem getMemory_of_allocateSlot {σ σ' : SlotManager} {slot : Nat}
    (h : σ.allocateSlot = some (slot, σ')) :
    σ'.getMemory slot = some ⟨slotOffset σ.slotSize slot, σ.slotSize⟩ := by
  obtain ⟨hslot, -, rfl⟩ := allocateSlot_eq_some h
  simp [getMemory, hslot]

end SlotManager

/-- A slot of a peer as the peer announces it: the number of bytes is cut to the
size of a slot, and an index past the last slot gives nothing. -/
def getPayload (metadata : SharedMemoryMetadata) (handle : SharedMemoryHandle) : Option Span :=
  if handle.slotIndex < metadata.slotCount then
    some ⟨slotOffset metadata.slotSize handle.slotIndex, min handle.usedBytes metadata.slotSize⟩
  else none

theorem getPayload_eq_some {metadata : SharedMemoryMetadata} {handle : SharedMemoryHandle}
    {span : Span} : getPayload metadata handle = some span ↔
      handle.slotIndex < metadata.slotCount ∧
        span = ⟨slotOffset metadata.slotSize handle.slotIndex,
          min handle.usedBytes metadata.slotSize⟩ := by
  unfold getPayload
  split
  next h => simp [h, eq_comm]
  next h => simp [h]

end SomeipGateway
