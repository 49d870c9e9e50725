import SomeipGateway.Daemon.Config

/-! # The null serializer

The application hands over bytes that are serialized already, behind their number.
Serializing copies them into a buffer and deserializing copies them back. One checks
the size of the buffer and the other the configured maximum.
-/

namespace SomeipGateway.Daemon

inductive SerializerResult where
  | ok
  | generalFailure
  | serializerNonexistent
  | serializationFailure
  | deserializationFailure
deriving DecidableEq, Repr

/-- The serializer is a pointer to its configuration. -/
structure NullSerializerConfig where
  maxMessageSize : UInt32
deriving DecidableEq, Repr

/-- An object; `data` is its memory behind the number of bytes in use. -/
structure PreSerializedData where
  size : Nat
  data : Bytes
deriving DecidableEq, Repr

/-- `sizeof` and `alignof` of an object without data. -/
def sizeofPreSerializedDataView : Nat := 16

def getSizeOfPreSerializedData (maxMessageSize : Nat) : Nat :=
  sizeofPreSerializedDataView +
    (maxMessageSize + sizeofPreSerializedDataView - 1) / sizeofPreSerializedDataView *
      sizeofPreSerializedDataView

namespace NullSerializer

/-- The result, the buffer and `*written_bytes` after the call, with `none` for a null
pointer. The call itself gives `none` when it reads past the end of the object. -/
def serialize (_serializer : Option NullSerializerConfig) (buffer : Option Bytes)
    (object : Option PreSerializedData) (writtenBytes : Option Nat) :
    Option (SerializerResult × Option Bytes × Option Nat) :=
  match buffer, object with
  | some buffer, some object =>
      if buffer.length < object.size then
        some (.serializationFailure, some buffer, writtenBytes)
      else if object.data.length < object.size then none
      else
        some (.ok, some (object.data.take object.size ++ buffer.drop object.size),
          writtenBytes.map fun _ => object.size)
  | buffer, _ => some (.generalFailure, buffer, writtenBytes)

/-- The result and the object after the call; `none` when it writes past the end of
the object. -/
def deserialize (serializer : Option NullSerializerConfig) (buffer : Option Bytes)
    (object : Option PreSerializedData) : Option (SerializerResult × Option PreSerializedData) :=
  match serializer, buffer, object with
  | some config, some buffer, some object =>
      if config.maxMessageSize.toNat < buffer.length then
        some (.deserializationFailure, some object)
      else if object.data.length < buffer.length then none
      else some (.ok, some ⟨buffer.length, buffer ++ object.data.drop buffer.length⟩)
  | _, _, object => some (.generalFailure, object)

def getMaxSerializedSize : Option NullSerializerConfig → Nat
  | none => 0
  | some config => config.maxMessageSize.toNat

def getSizeofType : Option NullSerializerConfig → Nat
  | none => 0
  | some config => getSizeOfPreSerializedData config.maxMessageSize.toNat

/-! ## Agreement of the two directions -/

/-- The written length is within the announced maximum, and the written bytes read back
into any object with room for that maximum give the size and the data again. -/
structure Agrees (serializer : Option NullSerializerConfig) (object : PreSerializedData)
    (buffer : Bytes) (written : Nat) : Prop where
  within : written ≤ getMaxSerializedSize serializer
  restored : ∀ target : PreSerializedData,
    getMaxSerializedSize serializer ≤ target.data.length →
    ∃ restored, deserialize serializer (some (buffer.take written)) (some target) =
        some (.ok, some restored) ∧
      restored.size = object.size ∧
      restored.data.take restored.size = object.data.take object.size

theorem serialize_eq_ok {serializer : Option NullSerializerConfig} {buffer out : Bytes}
    {object : PreSerializedData} {writtenBytes written : Nat}
    (h : serialize serializer (some buffer) (some object) (some writtenBytes) =
      some (.ok, some out, some written)) :
    written = object.size ∧ out.take object.size = object.data.take object.size ∧
      object.size ≤ object.data.length := by
  unfold serialize at h
  simp only at h
  split at h
  next => cases h
  next =>
    split at h
    next => cases h
    next hdata =>
      cases h
      have hlength : (object.data.take object.size).length = object.size := by
        rw [List.length_take]
        omega
      refine ⟨rfl, ?_, by omega⟩
      rw [List.take_append_of_le_length (by omega), List.take_take, Nat.min_self]

theorem deserialize_eq_ok {config : NullSerializerConfig} {buffer : Bytes}
    {object : PreSerializedData} (hmax : buffer.length ≤ config.maxMessageSize.toNat)
    (hroom : config.maxMessageSize.toNat ≤ object.data.length) :
    deserialize (some config) (some buffer) (some object) =
      some (.ok, some ⟨buffer.length, buffer ++ object.data.drop buffer.length⟩) := by
  unfold deserialize
  simp only
  rw [if_neg (by omega), if_neg (by omega)]

/-- What is serialized agrees with its deserialization exactly for a serializer that
is not null and an object within its maximum: serializing does not look at it. -/
theorem serializer_agreement_iff {serializer : Option NullSerializerConfig} {buffer out : Bytes}
    {object : PreSerializedData} {writtenBytes written : Nat}
    (h : serialize serializer (some buffer) (some object) (some writtenBytes) =
      some (.ok, some out, some written)) :
    Agrees serializer object out written ↔
      ∃ config, serializer = some config ∧ object.size ≤ config.maxMessageSize.toNat := by
  obtain ⟨rfl, hout, hdata⟩ := serialize_eq_ok h
  constructor
  · intro hagrees
    cases serializer with
    | none =>
        obtain ⟨restored, hok, -⟩ := hagrees.restored ⟨0, []⟩ (Nat.le_refl 0)
        cases hok
    | some config => exact ⟨config, rfl, hagrees.within⟩
  · intro hfits
    obtain ⟨config, rfl, hsize⟩ := hfits
    refine ⟨hsize, fun target hroom => ?_⟩
    have hlength : (out.take object.size).length = object.size := by
      rw [hout, List.length_take]
      omega
    refine ⟨_, deserialize_eq_ok (by rwa [hlength]) hroom, hlength, ?_⟩
    rw [List.take_append_of_le_length (Nat.le_refl _), List.take_length, hout]

theorem serializer_agreement_of_three_bytes :
    Agrees (some ⟨4⟩) ⟨3, [1, 2, 3, 0]⟩ [1, 2, 3, 9] 3 := by
  have hserialized : serialize (some ⟨4⟩) (some [9, 9, 9, 9]) (some ⟨3, [1, 2, 3, 0]⟩) (some 0) =
      some (.ok, some [1, 2, 3, 9], some 3) := rfl
  exact (serializer_agreement_iff hserialized).2 ⟨⟨4⟩, rfl, by decide⟩

/-- Five bytes are serialized with a serializer for four, and cannot be read back into
an object of its type. -/
theorem serialize_above_maximum :
    let object : PreSerializedData := ⟨5, [1, 2, 3, 4, 5] ++ List.replicate 11 0⟩
    let target : PreSerializedData := ⟨0, List.replicate 16 0⟩
    sizeofPreSerializedDataView + object.data.length = getSizeofType (some ⟨4⟩) ∧
    serialize (some ⟨4⟩) (some (List.replicate 8 0)) (some object) (some 0) =
      some (.ok, some [1, 2, 3, 4, 5, 0, 0, 0], some 5) ∧
    ¬ 5 ≤ getMaxSerializedSize (some ⟨4⟩) ∧
    deserialize (some ⟨4⟩) (some [1, 2, 3, 4, 5]) (some target) =
      some (.deserializationFailure, some target) := by
  decide

end NullSerializer

end SomeipGateway.Daemon
