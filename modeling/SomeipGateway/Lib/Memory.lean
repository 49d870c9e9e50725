import Mathlib.Data.List.Basic

/-! # Byte memory

A memory gives every address a byte. Storing a sequence of bytes changes exactly
the addresses it covers, and loading reads a sequence back.
-/

namespace SomeipGateway

abbrev Memory := Nat → UInt8

namespace Memory

def store (memory : Memory) (address : Nat) (bytes : List UInt8) : Memory := fun a =>
  if address ≤ a then (bytes[a - address]?).getD (memory a) else memory a

def load (memory : Memory) (address size : Nat) : List UInt8 :=
  (List.range size).map fun i => memory (address + i)

@[simp] theorem length_load (memory : Memory) (address size : Nat) :
    (memory.load address size).length = size := by
  simp [load]

theorem getElem?_load (memory : Memory) (address size i : Nat) :
    (memory.load address size)[i]? = if i < size then some (memory (address + i)) else none := by
  by_cases h : i < size
  · simp [load, h]
  · simp [load, h]

/-- What was stored is read back. -/
theorem load_store (memory : Memory) (address : Nat) (bytes : List UInt8) :
    (memory.store address bytes).load address bytes.length = bytes := by
  refine List.ext_getElem? fun i => ?_
  rw [getElem?_load]
  by_cases h : i < bytes.length
  · simp [store, h]
  · simp [h]

/-- The rest of what was loaded is what is loaded further on. -/
theorem drop_load (memory : Memory) (address size n : Nat) :
    (memory.load address size).drop n = memory.load (address + n) (size - n) := by
  refine List.ext_getElem? fun i => ?_
  rw [List.getElem?_drop, getElem?_load, getElem?_load, Nat.add_assoc]
  by_cases h : n + i < size
  · have hi : i < size - n := by omega
    simp [h, hi]
  · have hi : ¬i < size - n := by omega
    simp [h, hi]

end Memory

end SomeipGateway
