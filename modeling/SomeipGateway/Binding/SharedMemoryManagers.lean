import SomeipGateway.Binding.Message

/-! # `Shared_memory_managers` and `Read_only_memory_managers`

The allocation table keeps a published payload alive until every consumer has
acknowledged it. Indices are `std::size_t`, so the resize wraps at 2^64.
-/

namespace SomeipGateway

structure Allocation (ι : Type) where
  payload : Option (Payload ι) := none
  pendingConsumers : Nat := 0
deriving DecidableEq, Repr

abbrev Allocations (ι : Type) := Table Key (List (Allocation ι))

namespace Allocations

variable {ι : Type}

/-- `std::vector::resize` with value-initialised new elements. -/
def resize (allocations : List (Allocation ι)) (size : Nat) : List (Allocation ι) :=
  allocations.take size ++ List.replicate (size - allocations.length) ({} : Allocation ι)

/-- The table of a service with room for the slot. -/
def withSlot (table : Allocations ι) (key : Key) (slot : Nat) : List (Allocation ι) :=
  let allocations := (table.lookup key).getD []
  if allocations.length ≤ slot then resize allocations ((slot + 1) % 2 ^ 64) else allocations

theorem mem_withSlot {table : Allocations ι} {key : Key} {slot : Nat} {a : Allocation ι}
    (h : a ∈ table.withSlot key slot) :
    a = {} ∨ ∃ allocations, table.lookup key = some allocations ∧ a ∈ allocations := by
  cases hlookup : table.lookup key with
  | none =>
      simp only [withSlot, hlookup, Option.getD_none, resize] at h
      split at h
      · simp only [List.take_nil, List.nil_append, List.mem_replicate] at h
        exact .inl h.2
      · cases h
  | some allocations =>
      simp only [withSlot, hlookup, Option.getD_some, resize] at h
      split at h
      · rcases List.mem_append.1 h with h | h
        · exact .inr ⟨allocations, rfl, List.mem_of_mem_take h⟩
        · exact .inl (List.eq_of_mem_replicate h)
      · exact .inr ⟨allocations, rfl, h⟩

/-- `none` is an access past the end of the vector. A payload that is not stored
is destroyed on return. -/
def insertAllocation (table : Allocations ι) (key : Key) (payload : Payload ι)
    (consumerCount : Nat) : Option (Allocations ι × List (Effect ι)) :=
  if consumerCount = 0 then some (table, [.releasePayload payload])
  else
    let allocations := table.withSlot key payload.slotHandle
    match allocations[payload.slotHandle]? with
    | none => none
    | some allocation =>
        let stored := allocation.payload.getD payload
        let pending := allocation.pendingConsumers + consumerCount
        some (table.insert key (allocations.set payload.slotHandle ⟨some stored, pending⟩),
          if allocation.payload.isSome then [.releasePayload payload] else [])

theorem eq_of_mem_insertAllocation {table table' : Allocations ι} {key : Key}
    {payload : Payload ι} {consumerCount : Nat} {effects : List (Effect ι)} {e : Effect ι}
    (h : table.insertAllocation key payload consumerCount = some (table', effects))
    (he : e ∈ effects) : e = .releasePayload payload := by
  unfold insertAllocation at h
  split at h
  · cases h
    exact List.mem_singleton.1 he
  · simp only at h
    split at h
    · cases h
    · cases h
      split at he
      · exact List.mem_singleton.1 he
      · cases he

theorem exists_of_mem_insertAllocation {table table' : Allocations ι} {key : Key}
    {payload : Payload ι} {consumerCount : Nat} {effects : List (Effect ι)} {e : Effect ι}
    (h : table.insertAllocation key payload consumerCount = some (table', effects))
    (he : e ∈ effects) : ∃ payload, e = .releasePayload payload :=
  ⟨payload, eq_of_mem_insertAllocation h he⟩

def payloadConsumed (table : Allocations ι) (key : Key) (slot : Nat) :
    Allocations ι × List (Effect ι) :=
  match table.lookup key with
  | none => (table, [])
  | some allocations =>
      match allocations[slot]? with
      | none => (table, [])
      | some allocation =>
          if allocation.pendingConsumers = 0 then (table, [])
          else if 1 < allocation.pendingConsumers then
            let allocation :=
              { allocation with pendingConsumers := allocation.pendingConsumers - 1 }
            (table.insert key (allocations.set slot allocation), [])
          else
            (table.insert key (allocations.set slot ({} : Allocation ι)),
              allocation.payload.toList.map .releasePayload)

theorem payloadConsumed_of_length_le {table : Allocations ι} {key : Key} {slot : Nat}
    (h : ((table.lookup key).getD []).length ≤ slot) :
    table.payloadConsumed key slot = (table, []) := by
  unfold payloadConsumed
  cases htable : table.lookup key with
  | none => rfl
  | some allocations =>
      have hslot : allocations[slot]? = none := by simpa [htable] using h
      simp [hslot]

end Allocations

/-- The read-only managers by path, each with the metadata it was opened with. -/
abbrev ReadOnlyMemoryManagers := Table Bytes SharedMemoryMetadata

namespace ReadOnlyMemoryManagers

def getReadOnlySharedMemorySlotManager (managers : ReadOnlyMemoryManagers)
    (metadata : SharedMemoryMetadata) : SharedMemoryMetadata × ReadOnlyMemoryManagers :=
  match managers.lookup metadata.path with
  | some opened => (opened, managers)
  | none => (metadata, managers.insert metadata.path metadata)

end ReadOnlyMemoryManagers

end SomeipGateway
