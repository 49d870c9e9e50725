import SomeipGateway.Binding.SlotManager

/-! # Where the slots of a pool lie

The size of the block and the offsets of its slots are products of 64-bit numbers.
They fit together as long as the size does not wrap.
-/

namespace SomeipGateway

inductive SharedMemoryManagerError where
  | invalidSlotSize
  | invalidSlotCount
  | sharedMemoryAllocationFailed
deriving DecidableEq, Repr

/-- A manager and the size of the block that its memory resource gave it. -/
structure CreatedPool where
  manager : SlotManager
  blockSize : Nat

/-- `allocates` tells whether the factory creates a block of the requested size. -/
def createSharedMemorySlotManager (allocates : Nat → Bool) (slotCount slotSize : Nat) :
    Except SharedMemoryManagerError CreatedPool :=
  if slotSize = 0 then .error .invalidSlotSize
  else if slotCount = 0 then .error .invalidSlotCount
  else
    let totalSize := slotCount * slotSize % 2 ^ 64
    if allocates totalSize then .ok ⟨{ slotSize, slotCount }, totalSize⟩
    else .error .sharedMemoryAllocationFailed

theorem createSharedMemorySlotManager_eq_ok {allocates : Nat → Bool} {slotCount slotSize : Nat}
    {pool : CreatedPool} (h : createSharedMemorySlotManager allocates slotCount slotSize = .ok pool) :
    0 < slotSize ∧ 0 < slotCount ∧
      pool = ⟨{ slotSize, slotCount }, slotCount * slotSize % 2 ^ 64⟩ := by
  unfold createSharedMemorySlotManager at h
  split at h
  next => cases h
  next hsize =>
    split at h
    next => cases h
    next hcount =>
      simp only at h
      split at h
      next =>
        cases h
        exact ⟨Nat.pos_of_ne_zero hsize, Nat.pos_of_ne_zero hcount, rfl⟩
      next => cases h

namespace CreatedPool

/-- The manager when its slots have the given numbers of references. -/
def withCounts (pool : CreatedPool) (counts : Nat → Nat) : SlotManager :=
  { pool.manager with referenceCount := counts }

/-- What the provider announces of the pool. -/
def metadata (pool : CreatedPool) (path : Bytes) : SharedMemoryMetadata :=
  ⟨path, pool.manager.slotSize, pool.manager.slotCount⟩

/-- The ranges that the provider writes, whichever slots are allocated, lie in the
block and apart from each other, and a consumer reads a range of a slot from its start
on, up to the number of bytes announced. -/
structure Geometry (pool : CreatedPool) : Prop where
  inside : ∀ counts slot range, (pool.withCounts counts).getMemory slot = some range →
    range.offset + range.size ≤ pool.blockSize
  apart : ∀ counts slot slot' range range', slot ≠ slot' →
    (pool.withCounts counts).getMemory slot = some range →
    (pool.withCounts counts).getMemory slot' = some range' →
    range.offset + range.size ≤ range'.offset ∨ range'.offset + range'.size ≤ range.offset
  reader : ∀ counts path handle range,
    (pool.withCounts counts).getMemory handle.slotIndex = some range →
    getPayload (pool.metadata path) handle = some ⟨range.offset, min handle.usedBytes range.size⟩

end CreatedPool

theorem SlotManager.getMemory_eq_some {σ : SlotManager} {slot : Nat} {range : Span}
    (h : σ.getMemory slot = some range) :
    slot < σ.slotCount ∧ range = ⟨slotOffset σ.slotSize slot, σ.slotSize⟩ := by
  unfold SlotManager.getMemory at h
  split at h
  next hslot =>
    cases h
    exact ⟨hslot.1, rfl⟩
  next => cases h

/-! ## When the size of the block does not wrap -/

section

variable {slotSize slotCount slot : Nat}

variable (slotSize) in
theorem succ_mul_le (h : slot < slotCount) :
    slot * slotSize + slotSize ≤ slotCount * slotSize := by
  have hle := Nat.mul_le_mul_right slotSize (Nat.succ_le_of_lt h)
  rwa [Nat.succ_mul] at hle

theorem slotOffset_of_lt (hfits : slotCount * slotSize < 2 ^ 64) (h : slot < slotCount) :
    slotOffset slotSize slot = slot * slotSize := by
  have hle := succ_mul_le slotSize h
  exact Nat.mod_eq_of_lt (by omega)

/-- The slot that the wrap falls into ends past the block. -/
theorem exists_slot_at_wrap (hwraps : 2 ^ 64 ≤ slotCount * slotSize) :
    ∃ slot < slotCount, slot * slotSize < 2 ^ 64 ∧ 2 ^ 64 ≤ slot * slotSize + slotSize := by
  induction slotCount with
  | zero => omega
  | succ count ih =>
      rcases Nat.lt_or_ge (count * slotSize) (2 ^ 64) with hlt | hge
      · exact ⟨count, Nat.lt_succ_self count, hlt, by rwa [Nat.succ_mul] at hwraps⟩
      · obtain ⟨slot, hslot, hwrap⟩ := ih hge
        exact ⟨slot, Nat.lt_succ_of_lt hslot, hwrap⟩

end

theorem CreatedPool.geometry_of_fits {slotSize slotCount : Nat}
    (hfits : slotCount * slotSize < 2 ^ 64) :
    CreatedPool.Geometry ⟨{ slotSize, slotCount }, slotCount * slotSize % 2 ^ 64⟩ where
  inside counts slot range hrange := by
    obtain ⟨hslot, rfl⟩ := SlotManager.getMemory_eq_some hrange
    simp only [withCounts] at hslot ⊢
    rw [slotOffset_of_lt hfits hslot, Nat.mod_eq_of_lt hfits]
    exact succ_mul_le slotSize hslot
  apart counts slot slot' range range' hne hrange hrange' := by
    obtain ⟨hslot, rfl⟩ := SlotManager.getMemory_eq_some hrange
    obtain ⟨hslot', rfl⟩ := SlotManager.getMemory_eq_some hrange'
    simp only [withCounts] at hslot hslot' ⊢
    rw [slotOffset_of_lt hfits hslot, slotOffset_of_lt hfits hslot']
    rcases Nat.lt_or_gt_of_ne hne with hlt | hgt
    · exact .inl (succ_mul_le slotSize hlt)
    · exact .inr (succ_mul_le slotSize hgt)
  reader counts path handle range hrange := by
    obtain ⟨hslot, rfl⟩ := SlotManager.getMemory_eq_some hrange
    exact getPayload_eq_some.2 ⟨hslot, rfl⟩

theorem CreatedPool.not_inside_of_wraps {slotSize slotCount : Nat}
    (hwraps : 2 ^ 64 ≤ slotCount * slotSize) :
    ¬ CreatedPool.Geometry ⟨{ slotSize, slotCount }, slotCount * slotSize % 2 ^ 64⟩ := by
  intro h
  obtain ⟨slot, hslot, hlt, hge⟩ := exists_slot_at_wrap hwraps
  have hmemory : (withCounts ⟨{ slotSize, slotCount }, slotCount * slotSize % 2 ^ 64⟩
      fun _ => 1).getMemory slot = some ⟨slotOffset slotSize slot, slotSize⟩ := by
    simp [SlotManager.getMemory, withCounts, hslot]
  have hinside := h.inside (fun _ => 1) slot _ hmemory
  have hblock : slotCount * slotSize % 2 ^ 64 < 2 ^ 64 := Nat.mod_lt _ (by decide)
  simp only [slotOffset, Nat.mod_eq_of_lt hlt] at hinside
  omega

/-- A pool that was created has its slots apart in its block, and its consumers read
what it writes, exactly when the size of the block did not wrap. -/
theorem slot_geometry_iff {allocates : Nat → Bool} {slotCount slotSize : Nat} {pool : CreatedPool}
    (h : createSharedMemorySlotManager allocates slotCount slotSize = .ok pool) :
    pool.Geometry ↔ slotCount * slotSize < 2 ^ 64 := by
  obtain ⟨-, -, rfl⟩ := createSharedMemorySlotManager_eq_ok h
  constructor
  · intro hgeometry
    apply Nat.lt_of_not_le
    intro hwraps
    exact CreatedPool.not_inside_of_wraps hwraps hgeometry
  · exact CreatedPool.geometry_of_fits

theorem slot_geometry_of_four_slots :
    ∃ pool, createSharedMemorySlotManager (fun _ => true) 4 16 = .ok pool ∧ pool.Geometry := by
  have hcreated : createSharedMemorySlotManager (fun _ => true) 4 16 =
      .ok ⟨{ slotSize := 16, slotCount := 4 }, 64⟩ := rfl
  exact ⟨_, hcreated, (slot_geometry_iff hcreated).2 (by decide)⟩

/-- Two slots of 2^63 + 1 bytes are laid out in a block of two bytes. -/
theorem slots_outside_block :
    ∃ pool, createSharedMemorySlotManager (fun _ => true) 2 (2 ^ 63 + 1) = .ok pool ∧
      pool.blockSize = 2 ∧
      (pool.withCounts fun _ => 1).getMemory 0 = some ⟨0, 2 ^ 63 + 1⟩ ∧ ¬ pool.Geometry := by
  refine ⟨⟨⟨2 ^ 63 + 1, 2, fun _ => 0⟩, 2⟩, by rfl, rfl, by decide, fun h => ?_⟩
  have hinside := h.inside (fun _ => 1) 0 ⟨0, 2 ^ 63 + 1⟩ (by decide)
  exact absurd hinside (by decide)

end SomeipGateway
