import Mathlib.Data.List.Nodup
import SomeipGateway.Daemon.Config

/-! # Shared memory paths of a configuration

A path ends in an underscore and the decimal digits of the service id. Digits
contain no underscore, so what follows the last underscore of a path is the id,
whatever the service type name is.
-/

namespace SomeipGateway.Daemon

/-! ## The decimal suffix -/

theorem isDigit_of_mem_toString {n : Nat} {c : Char} (h : c ∈ (toString n).toList) :
    c.isDigit = true := by
  rw [Nat.toString_eq_repr, Nat.toList_repr] at h
  exact Nat.isDigit_of_mem_toDigits (by omega) (by omega) h

theorem toNat_ofNat_of_isDigit {c : Char} (h : c.isDigit = true) :
    (UInt8.ofNat c.toNat).toNat = c.toNat ∧ 48 ≤ c.toNat ∧ c.toNat ≤ 57 := by
  rw [Char.isDigit_iff_toNat] at h
  obtain ⟨hlow, hhigh⟩ := h
  simp only [Char.reduceToNat] at hlow hhigh
  refine ⟨?_, hlow, hhigh⟩
  rw [UInt8.toNat_ofNat']
  omega

theorem digit_of_mem_decimal {n : Nat} {byte : UInt8} (h : byte ∈ ofString (toString n)) :
    48 ≤ byte.toNat ∧ byte.toNat ≤ 57 := by
  obtain ⟨c, hc, rfl⟩ := List.mem_map.1 h
  obtain ⟨hbyte, hrange⟩ := toNat_ofNat_of_isDigit (isDigit_of_mem_toString hc)
  rwa [hbyte]

theorem decimal_injective {a b : Nat} (h : ofString (toString a) = ofString (toString b)) :
    a = b := by
  have hread : ∀ n : Nat, (ofString (toString n)).map (fun byte => Char.ofNat byte.toNat) =
      Nat.toDigits 10 n := by
    intro n
    rw [ofString, List.map_map, Nat.toString_eq_repr, Nat.toList_repr]
    nth_rewrite 2 [← List.map_id (Nat.toDigits 10 n)]
    apply List.map_congr_left
    intro c hc
    have hdigit : c.isDigit = true := Nat.isDigit_of_mem_toDigits (by omega) (by omega) hc
    rw [Function.comp_apply, (toNat_ofNat_of_isDigit hdigit).1]
    exact Char.ofNat_toNat c
  have hdigits : Nat.toDigits 10 a = Nat.toDigits 10 b := by rw [← hread, h, hread]
  rw [← @Nat.ofDigitChars_toDigits 10 a (by omega) (by omega), hdigits]
  exact Nat.ofDigitChars_toDigits (by omega) (by omega)

/-- What follows the last `separator`. -/
def afterLast (separator : UInt8) (path : Bytes) : Bytes :=
  (path.reverse.takeWhile (· ≠ separator)).reverse

theorem afterLast_append_cons {separator : UInt8} (start : Bytes) {rest : Bytes}
    (h : separator ∉ rest) : afterLast separator (start ++ separator :: rest) = rest := by
  have hrest : ∀ byte ∈ rest.reverse, decide (byte ≠ separator) = true := by
    intro byte hbyte
    refine decide_eq_true ?_
    rintro rfl
    exact h (List.mem_reverse.1 hbyte)
  rw [afterLast, List.reverse_append, List.reverse_cons, List.append_assoc,
    List.takeWhile_append_of_pos hrest]
  simp

/-! ## Names -/

/-- The name that `make_path` puts together, before it is stored in a fixed string. -/
def pathName (start name : Bytes) (serviceId : Nat) : Bytes :=
  start ++ flattenServiceTypeName name ++ [95] ++ ofString (toString serviceId)

theorem makePath_eq_none {start name : Bytes} {serviceId : Nat} :
    makePath start name serviceId = none ↔
      kMaxSharedMemoryPathSize < (pathName start name serviceId).length := by
  simp only [makePath, pathName]
  split <;> simp_all

theorem eq_pathName_of_makePath {start name path : Bytes} {serviceId : Nat}
    (h : makePath start name serviceId = some path) : path = pathName start name serviceId := by
  simp only [makePath] at h
  split at h
  next => cases h
  next => exact (Option.some.inj h).symm

theorem afterLast_pathName (start name : Bytes) (serviceId : Nat) :
    afterLast 95 (pathName start name serviceId) = ofString (toString serviceId) := by
  rw [pathName, List.append_assoc]
  apply afterLast_append_cons
  intro hmem
  have hdigit := digit_of_mem_decimal hmem
  simp at hdigit

theorem serviceId_eq_of_pathName {start start' name name' : Bytes} {serviceId serviceId' : Nat}
    (h : pathName start name serviceId = pathName start' name' serviceId') :
    serviceId = serviceId' := by
  apply decimal_injective
  rw [← afterLast_pathName start name serviceId, h, afterLast_pathName]

theorem slash_notMem_flattenServiceTypeName (name : Bytes) :
    47 ∉ flattenServiceTypeName name := by
  intro hmem
  obtain ⟨byte, -, hbyte⟩ := List.mem_map.1 hmem
  split at hbyte
  next => exact absurd hbyte (by decide)
  next hne => exact hne hbyte

/-- Only the slash that the start brings along is in a name. -/
theorem pathName_cons (start name : Bytes) (serviceId : Nat) (h : 47 ∉ start) :
    ∃ rest, pathName (47 :: start) name serviceId = 47 :: rest ∧ 47 ∉ rest := by
  refine ⟨pathName start name serviceId, rfl, ?_⟩
  simp only [pathName, List.mem_append, List.mem_singleton, not_or]
  refine ⟨⟨⟨h, slash_notMem_flattenServiceTypeName name⟩, by decide⟩, ?_⟩
  intro hmem
  have hdigit := digit_of_mem_decimal hmem
  simp at hdigit

/-! ## The paths of a configuration -/

/-- The two paths of a service, those of them that fit. -/
def sharedMemoryPaths (t : ServiceType) : List Bytes :=
  (makeSharedMemoryPath t).toList ++ (makeCounterpartSharedMemoryPath t).toList

theorem mem_sharedMemoryPaths {t : ServiceType} {path : Bytes} (h : path ∈ sharedMemoryPaths t) :
    ∃ start, 47 ∉ start ∧ path = pathName (47 :: start) t.serviceTypeName t.serviceId := by
  rcases List.mem_append.1 h with hown | hcounterpart
  · exact ⟨[], by decide, eq_pathName_of_makePath (Option.mem_toList.1 hown)⟩
  · exact ⟨ofString "counterpart_", by decide,
      eq_pathName_of_makePath (Option.mem_toList.1 hcounterpart)⟩

/-- The two paths of one service are of different length. -/
theorem nodup_sharedMemoryPaths (t : ServiceType) : (sharedMemoryPaths t).Nodup := by
  have hone : ∀ path : Option Bytes, path.toList.Nodup := by
    intro path
    cases path <;> simp
  rw [sharedMemoryPaths, List.nodup_append]
  refine ⟨hone _, hone _, ?_⟩
  intro path hown path' hcounterpart heq
  have hlength := congrArg List.length heq
  rw [eq_pathName_of_makePath (Option.mem_toList.1 hown),
    eq_pathName_of_makePath (Option.mem_toList.1 hcounterpart)] at hlength
  have hstart : (ofString "/").length = 1 := by decide
  have hstart' : (ofString "/counterpart_").length = 13 := by decide
  simp only [pathName, List.length_append, hstart, hstart'] at hlength
  omega

theorem disjoint_sharedMemoryPaths {t t' : ServiceType} (h : t.serviceId ≠ t'.serviceId) :
    List.Disjoint (sharedMemoryPaths t) (sharedMemoryPaths t') := by
  intro path hpath hpath'
  obtain ⟨start, -, heq⟩ := mem_sharedMemoryPaths hpath
  obtain ⟨start', -, heq'⟩ := mem_sharedMemoryPaths hpath'
  exact h (serviceId_eq_of_pathName (heq.symm.trans heq'))

/-- With pairwise different service ids no two paths are the same, every path has one
slash, its first byte, and a path is refused exactly when its name is too long. -/
theorem shared_memory_paths_distinct (types : List ServiceType)
    (hids : (types.map ServiceType.serviceId).Nodup) :
    (types.flatMap sharedMemoryPaths).Nodup ∧
    (∀ path ∈ types.flatMap sharedMemoryPaths, ∃ rest, path = 47 :: rest ∧ 47 ∉ rest) ∧
    ∀ t ∈ types,
      (makeSharedMemoryPath t = none ↔ kMaxSharedMemoryPathSize <
        (pathName (ofString "/") t.serviceTypeName t.serviceId).length) ∧
      (makeCounterpartSharedMemoryPath t = none ↔ kMaxSharedMemoryPathSize <
        (pathName (ofString "/counterpart_") t.serviceTypeName t.serviceId).length) := by
  refine ⟨?_, ?_, fun t _ => ⟨makePath_eq_none, makePath_eq_none⟩⟩
  · rw [List.nodup_flatMap]
    refine ⟨fun t _ => nodup_sharedMemoryPaths t, ?_⟩
    exact (List.pairwise_map.1 hids).imp fun hne => disjoint_sharedMemoryPaths hne
  · intro path hpath
    obtain ⟨t, -, hmem⟩ := List.mem_flatMap.1 hpath
    obtain ⟨start, hstart, rfl⟩ := mem_sharedMemoryPaths hmem
    exact pathName_cons start t.serviceTypeName t.serviceId hstart

/-- A name that begins like a counterpart, one with slashes that ends in digits, and
one that is too long for its counterpart. -/
theorem shared_memory_paths_distinct_of_similar_names :
    let types : List ServiceType :=
      [⟨ofString "counterpart_a", 1, 1, 0, none, none, none⟩,
        ⟨ofString "//a/_1", 11, 1, 0, none, none, none⟩,
        ⟨List.replicate 245 97, 2, 1, 0, none, none, none⟩]
    (types.flatMap sharedMemoryPaths).length = 5 ∧ (types.flatMap sharedMemoryPaths).Nodup :=
  ⟨by decide +kernel, (shared_memory_paths_distinct _ (by decide)).1⟩

end SomeipGateway.Daemon
