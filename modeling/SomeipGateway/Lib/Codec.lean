import Mathlib.Data.Vector.Basic
import Mathlib.Tactic.Ring

/-! # Objects in memory

How integers, arrays and structs lie in memory: little-endian integers, fields
at the next multiple of their alignment, structs padded to theirs. A `Codec`
reads an object out of a byte sequence at an offset; reading past the end gives
`none`, and a sequence that is long enough for the size of the object is read
without that. What is written is read back.
-/

namespace SomeipGateway

/-! ## Little-endian integers -/

def leBytes : Nat → Nat → List UInt8
  | 0, _ => []
  | width + 1, n => UInt8.ofNat (n % 256) :: leBytes width (n / 256)

def leNat : List UInt8 → Nat
  | [] => 0
  | byte :: rest => byte.toNat + 256 * leNat rest

@[simp] theorem length_leBytes (width n : Nat) : (leBytes width n).length = width := by
  induction width generalizing n with
  | zero => rfl
  | succ width ih => simp [leBytes, ih]

theorem leNat_lt (bytes : List UInt8) : leNat bytes < 256 ^ bytes.length := by
  induction bytes with
  | nil => simp [leNat]
  | cons byte rest ih =>
      have hbyte : byte.toNat < 256 := byte.toNat_lt
      rw [leNat, List.length_cons, pow_succ]
      omega

theorem leNat_leBytes (width n : Nat) : leNat (leBytes width n) = n % 256 ^ width := by
  induction width generalizing n with
  | zero => simp [leBytes, leNat, Nat.mod_one]
  | succ width ih =>
      have hbyte : (UInt8.ofNat (n % 256)).toNat = n % 256 := by
        rw [UInt8.toNat_ofNat']
        exact Nat.mod_eq_of_lt (Nat.mod_lt n (by decide))
      rw [leBytes, leNat, ih, hbyte, pow_succ', Nat.mod_mul]

/-- The next multiple of the alignment. -/
def roundUp (n align : Nat) : Nat := n + (align - n % align) % align

theorem le_roundUp (n align : Nat) : n ≤ roundUp n align := Nat.le_add_right _ _

/-! ## Codecs -/

structure Codec (α : Type) where
  size : Nat
  align : Nat
  read : List UInt8 → Nat → Option α
  write : α → List UInt8
  length_write : ∀ a, (write a).length = size
  read_isSome : ∀ bytes offset, offset + size ≤ bytes.length → (read bytes offset).isSome = true
  read_write : ∀ before a after, read (before ++ write a ++ after) before.length = some a

/-- The integers of `width` bytes. -/
abbrev Word (width : Nat) := Fin (256 ^ width)

namespace Codec

variable {α β : Type}

def readWord (width : Nat) (bytes : List UInt8) (offset : Nat) : Option (Word width) :=
  let word := (bytes.drop offset).take width
  if h : word.length = width then some ⟨leNat word, h ▸ leNat_lt word⟩ else none

def word (width : Nat) : Codec (Word width) where
  size := width
  align := width
  read := readWord width
  write n := leBytes width n
  length_write n := length_leBytes width n
  read_isSome bytes offset h := by
    have hlength : ((bytes.drop offset).take width).length = width := by
      rw [List.length_take, List.length_drop]
      omega
    rw [readWord, dif_pos hlength]
    rfl
  read_write before n after := by
    have hword : ((before ++ leBytes width n ++ after).drop before.length).take width =
        leBytes width n := by
      rw [List.append_assoc, List.drop_left, List.take_left' (length_leBytes width n)]
    have hlength : (((before ++ leBytes width n ++ after).drop before.length).take width).length =
        width := by
      rw [hword, length_leBytes]
    rw [readWord, dif_pos hlength, Option.some.injEq, Fin.ext_iff]
    show leNat (((before ++ leBytes width n ++ after).drop before.length).take width) = n
    rw [hword, leNat_leBytes, Nat.mod_eq_of_lt n.isLt]

/-- The same objects under another name. -/
def map (codec : Codec α) (f : α → β) (g : β → α) (hfg : ∀ b, f (g b) = b) : Codec β where
  size := codec.size
  align := codec.align
  read bytes offset := (codec.read bytes offset).map f
  write b := codec.write (g b)
  length_write b := codec.length_write (g b)
  read_isSome bytes offset h := by
    rw [Option.isSome_map]
    exact codec.read_isSome bytes offset h
  read_write before b after := by
    rw [codec.read_write, Option.map_some, hfg]

/-- A byte that is zero or not. -/
def bool : Codec Bool :=
  (word 1).map (fun n => n.val ≠ 0) (fun b => if b then ⟨1, by decide⟩ else ⟨0, by decide⟩)
    (by decide)

/-! ## Arrays -/

def readArray (codec : Codec α) (bytes : List UInt8) :
    (count : Nat) → Nat → Option (List.Vector α count)
  | 0, _ => some .nil
  | count + 1, offset => do
      let a ← codec.read bytes offset
      let rest ← readArray codec bytes count (offset + codec.size)
      some (a ::ᵥ rest)

def writeArray (codec : Codec α) {count : Nat} (v : List.Vector α count) : List UInt8 :=
  v.toList.flatMap codec.write

theorem length_writeArray (codec : Codec α) {count : Nat} (v : List.Vector α count) :
    (writeArray codec v).length = count * codec.size := by
  have hlength : ∀ as : List α, (as.flatMap codec.write).length = as.length * codec.size := by
    intro as
    induction as with
    | nil => simp
    | cons a as ih => simp [codec.length_write, ih, Nat.succ_mul, Nat.add_comm]
  rw [writeArray, hlength, v.toList_length]

theorem writeArray_cons (codec : Codec α) {count : Nat} (a : α) (v : List.Vector α count) :
    writeArray codec (a ::ᵥ v) = codec.write a ++ writeArray codec v := by
  simp [writeArray]

def array (codec : Codec α) (count : Nat) : Codec (List.Vector α count) where
  size := count * codec.size
  align := codec.align
  read bytes offset := readArray codec bytes count offset
  write v := writeArray codec v
  length_write v := length_writeArray codec v
  read_isSome bytes offset h := by
    induction count generalizing offset with
    | zero => rfl
    | succ count ih =>
        rw [Nat.succ_mul] at h
        obtain ⟨a, ha⟩ := Option.isSome_iff_exists.1
          (codec.read_isSome bytes offset (by omega))
        obtain ⟨rest, hrest⟩ := Option.isSome_iff_exists.1 (ih (offset + codec.size) (by omega))
        simp [readArray, ha, hrest]
  read_write before v after := by
    induction count generalizing before with
    | zero => simp [readArray, v.eq_nil]
    | succ count ih =>
        obtain ⟨a, rest, rfl⟩ := v.exists_eq_cons
        have hrest := ih (before ++ codec.write a) rest
        have hfirst := codec.read_write before a (writeArray codec rest ++ after)
        rw [List.length_append, codec.length_write] at hrest
        rw [writeArray_cons, readArray]
        simp only [List.append_assoc] at hfirst hrest ⊢
        simp [hfirst, hrest]

/-! ## Structs -/

/-- Some fields of a struct, from an offset within it. -/
structure Fields (α : Type) where
  align : Nat
  stop : Nat → Nat
  read : List UInt8 → Nat → Nat → Option α
  write : Nat → α → List UInt8
  le_stop : ∀ offset, offset ≤ stop offset
  length_write : ∀ offset a, offset + (write offset a).length = stop offset
  read_isSome : ∀ bytes start offset, start + stop offset ≤ bytes.length →
    (read bytes start offset).isSome = true
  read_write : ∀ before start offset a after, before.length = start + offset →
    read (before ++ write offset a ++ after) start offset = some a

namespace Fields

def nil : Fields Unit where
  align := 1
  stop offset := offset
  read _ _ _ := some ()
  write _ _ := []
  le_stop _ := le_rfl
  length_write _ _ := rfl
  read_isSome _ _ _ _ := rfl
  read_write _ _ _ _ _ _ := rfl

def cons (codec : Codec α) (fields : Fields β) : Fields (α × β) where
  align := max codec.align fields.align
  stop offset := fields.stop (roundUp offset codec.align + codec.size)
  read bytes start offset := do
    let a ← codec.read bytes (start + roundUp offset codec.align)
    let b ← fields.read bytes start (roundUp offset codec.align + codec.size)
    some (a, b)
  write offset p :=
    List.replicate (roundUp offset codec.align - offset) 0 ++ codec.write p.1 ++
      fields.write (roundUp offset codec.align + codec.size) p.2
  le_stop offset := by
    have h := fields.le_stop (roundUp offset codec.align + codec.size)
    have hround := le_roundUp offset codec.align
    omega
  length_write offset p := by
    have h := fields.length_write (roundUp offset codec.align + codec.size) p.2
    have hround := le_roundUp offset codec.align
    simp only [List.length_append, List.length_replicate, codec.length_write]
    omega
  read_isSome bytes start offset h := by
    have hstop := fields.le_stop (roundUp offset codec.align + codec.size)
    obtain ⟨a, ha⟩ := Option.isSome_iff_exists.1
      (codec.read_isSome bytes (start + roundUp offset codec.align) (by omega))
    obtain ⟨b, hb⟩ := Option.isSome_iff_exists.1 (fields.read_isSome bytes start _ h)
    simp [ha, hb]
  read_write before start offset p after hbefore := by
    have hround := le_roundUp offset codec.align
    generalize hpad : List.replicate (roundUp offset codec.align - offset) (0 : UInt8) = pad
    have hlength : (before ++ pad).length = start + roundUp offset codec.align := by
      rw [List.length_append, ← hpad, List.length_replicate]
      omega
    have hfirst := codec.read_write (before ++ pad) p.1
      (fields.write (roundUp offset codec.align + codec.size) p.2 ++ after)
    have hrest := fields.read_write (before ++ pad ++ codec.write p.1) start
      (roundUp offset codec.align + codec.size) p.2 after
      (by rw [List.length_append, hlength, codec.length_write]; omega)
    rw [hlength] at hfirst
    simp only [List.append_assoc] at hfirst hrest ⊢
    simp [hfirst, hrest]

end Fields

def struct (fields : Fields α) : Codec α where
  size := roundUp (fields.stop 0) fields.align
  align := fields.align
  read bytes offset := fields.read bytes offset 0
  write a :=
    fields.write 0 a ++
      List.replicate (roundUp (fields.stop 0) fields.align - fields.stop 0) 0
  length_write a := by
    have h := fields.length_write 0 a
    have hround := le_roundUp (fields.stop 0) fields.align
    rw [List.length_append, List.length_replicate]
    omega
  read_isSome bytes offset h := by
    have hround := le_roundUp (fields.stop 0) fields.align
    exact fields.read_isSome bytes offset 0 (by omega)
  read_write before a after := by
    have h := fields.read_write before before.length 0 a
    simp only [List.append_assoc] at h ⊢
    exact h _ rfl

end Codec

end SomeipGateway
