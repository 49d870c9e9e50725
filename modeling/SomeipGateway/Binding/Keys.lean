import SomeipGateway.Binding.Frame
import SomeipGateway.Lib.Numbering
import SomeipGateway.Lib.Run
import SomeipGateway.Lib.UnorderedMap

/-! # `Keys`

A process numbers the pairs of a service and an instance. The numbers are found by
the identifiers as they lie in a message, fixed-size strings whose bytes past the
used ones are arbitrary, so hash and equality must not look at those.
-/

namespace SomeipGateway

/-! ## Fixed-size strings as keys of a map -/

/-- `operator==` of the container. -/
def FixedSizeContainer.equal {α : Type} [DecidableEq α] {maxSize : Nat}
    (a a' : FixedSizeContainer α maxSize) : Bool :=
  a.size = a'.size && a.data.toList.take a.size.val = a'.data.toList.take a'.size.val

/-- `std::hash` of integers and of string views. -/
structure StdHash where
  uint16 : Nat → UInt64
  stringView : Bytes → UInt64

namespace FixedString

variable {maxSize : Nat}

/-- The bytes in use. -/
def content (s : FixedString maxSize) : Bytes := (s.data.toList.take s.size.val).map byte

/-- `Fixed_size_container_hash`; the size is cut to 16 bits. -/
def hash (std : StdHash) (s : FixedString maxSize) : UInt64 :=
  std.uint16 (s.size.val % 2 ^ 16) ^^^ (std.stringView s.content <<< 1)

def word (b : UInt8) : Word 1 := ⟨b.toNat, b.toNat_lt⟩

/-- `fixed_string_from_string`: the rest of the array is zero. -/
def fromString (maxSize : Nat) (value : Bytes) : Option (FixedString maxSize) :=
  if h : value.length ≤ maxSize then
    some ⟨Fin.ofNat _ value.length,
      ⟨value.map word ++ List.replicate (maxSize - value.length) 0, by simp [h]⟩⟩
  else none

theorem byte_injective : Function.Injective byte := by
  intro w w' h
  have hnat := congrArg UInt8.toNat h
  simp only [byte, UInt8.toNat_ofNat'] at hnat
  apply Fin.ext
  have hw := w.isLt
  have hw' := w'.isLt
  omega

theorem byte_word (b : UInt8) : byte (word b) = b := by simp [byte, word]

theorem length_content {s : FixedString maxSize} (h : s.inCapacity = true) :
    s.content.length = s.size.val := by
  have hle : s.size.val ≤ maxSize := of_decide_eq_true h
  simp [content, hle]

/-- Equality is equality of the bytes in use. -/
theorem equal_iff {s s' : FixedString maxSize} (h : s.inCapacity = true)
    (h' : s'.inCapacity = true) : s.equal s' = true ↔ s.content = s'.content := by
  simp only [FixedSizeContainer.equal, Bool.and_eq_true, decide_eq_true_eq]
  constructor
  · intro heq
    rw [content, content, heq.2]
  · intro hcontent
    refine ⟨Fin.ext ?_, byte_injective.list_map hcontent⟩
    rw [← length_content h, hcontent, length_content h']

theorem hash_eq (std : StdHash) {s s' : FixedString maxSize} (h : s.inCapacity = true)
    (h' : s'.inCapacity = true) (hcontent : s.content = s'.content) :
    s.hash std = s'.hash std := by
  have hsize : s.size.val = s'.size.val := by
    rw [← length_content h, hcontent, length_content h']
  rw [hash, hash, hcontent, hsize]

theorem fromString_spec {value : Bytes} {s : FixedString maxSize} (hmax : maxSize < 256 ^ 8)
    (h : fromString maxSize value = some s) : s.inCapacity = true ∧ s.content = value := by
  unfold fromString at h
  split at h
  next hle =>
    cases h
    have hsize : value.length % 256 ^ 8 = value.length := Nat.mod_eq_of_lt (by omega)
    refine ⟨?_, ?_⟩
    · simp only [FixedSizeContainer.inCapacity, Fin.val_ofNat, decide_eq_true_eq]
      omega
    · simp only [content, Fin.val_ofNat, hsize, List.Vector.toList_mk]
      rw [List.take_append_of_le_length (by simp), List.take_of_length_le (by simp), List.map_map]
      nth_rewrite 2 [← List.map_id value]
      exact List.map_congr_left fun b _ => byte_word b
  next => cases h

end FixedString

/-- An instance id within capacity. -/
abbrev StoredInstance := { s : FixedString maxIdSize // s.inCapacity = true }

/-- A service whose id is within capacity. -/
abbrev StoredService := { s : Wire.Service // s.serviceId.inCapacity = true }

namespace Wire.Service

/-- What a service stands for: its id, major and minor version. -/
def content (s : Wire.Service) : SomeipGateway.Service :=
  ⟨s.serviceId.content, s.major.val, s.minor.val⟩

/-- `operator==` of `Service`. -/
def equal (s s' : Wire.Service) : Bool :=
  s.serviceId.equal s'.serviceId && s.major = s'.major && s.minor = s'.minor

/-- `Service_hash`. -/
def hash (std : StdHash) (s : Wire.Service) : UInt64 :=
  (s.serviceId.hash std ^^^ (std.uint16 s.major.val <<< 1)) ^^^ (std.uint16 s.minor.val <<< 2)

end Wire.Service

def instanceHasher (std : StdHash) : Hasher StoredInstance Bytes where
  content s := s.1.content
  hash s := s.1.hash std
  equal s s' := s.1.equal s'.1
  equal_iff s s' := FixedString.equal_iff s.2 s'.2
  hash_eq s s' := FixedString.hash_eq std s.2 s'.2

def serviceHasher (std : StdHash) : Hasher StoredService Service where
  content s := s.1.content
  hash s := s.1.hash std
  equal s s' := s.1.equal s'.1
  equal_iff s s' := by
    simp only [Wire.Service.equal, Wire.Service.content, Bool.and_eq_true, decide_eq_true_eq,
      FixedString.equal_iff s.2 s'.2, Service.mk.injEq, Fin.ext_iff, and_assoc]
  hash_eq s s' h := by
    simp only [Wire.Service.content, Service.mk.injEq] at h
    obtain ⟨hid, hmajor, hminor⟩ := h
    rw [Wire.Service.hash, Wire.Service.hash, FixedString.hash_eq std s.2 s'.2 hid, hmajor, hminor]

/-! ## Numbering the pairs -/

structure Keys (std : StdHash) where
  keys : UnorderedMap (serviceHasher std) (UnorderedMap (instanceHasher std) Nat) := {}
  nextKey : Nat := 0

/-- What a pair of a service and an instance stands for. -/
def pairContent (pair : StoredService × StoredInstance) : Key :=
  ⟨pair.1.1.content, pair.2.1.content⟩

namespace Keys

variable {std : StdHash}

/-- The two searches at the start of `get`. -/
def lookup (s : Keys std) (pair : StoredService × StoredInstance) : Option Nat :=
  (s.keys.find pair.1).bind fun instances => instances.find pair.2

/-- `get` for a service and an instance: the key and the keys from then on. -/
def get (s : Keys std) (pair : StoredService × StoredInstance) : Nat × Keys std :=
  match s.lookup pair with
  | some key => (key, s)
  | none =>
      (s.nextKey,
        { keys := s.keys.assign pair.1
            (((s.keys.find pair.1).getD {}).assign pair.2 s.nextKey)
          nextKey := (s.nextKey + 1) % 2 ^ 64 })

/-- `get` for a key, the search through all pairs. -/
def getPair (s : Keys std) (key : Nat) : Option (StoredService × StoredInstance) :=
  s.keys.entries.findSome? fun e =>
    (e.2.entries.find? fun e' => e'.2 = key).map fun e' => (e.1, e'.1)

/-- The keys number the pairs as the list does. -/
structure Numbers (s : Keys std) (l : List Key) : Prop where
  lookup : ∀ pair, s.lookup pair =
    if pairContent pair ∈ l then some (l.idxOf (pairContent pair)) else none
  nextKey : s.nextKey = l.length
  nodup : l.Nodup
  stored : ∀ c ∈ l, ∃ pair, pairContent pair = c

variable {s : Keys std} {l : List Key}

theorem Numbers.empty : Numbers ({} : Keys std) [] where
  lookup pair := by simp [Keys.lookup]
  nextKey := rfl
  nodup := List.nodup_nil
  stored c hc := by cases hc

theorem Numbers.get_fst (h : s.Numbers l) (pair : StoredService × StoredInstance) :
    (s.get pair).1 = l.idxOf (pairContent pair) := by
  have hlookup := h.lookup pair
  unfold Keys.get
  split at hlookup
  next hmem => rw [hlookup]
  next hnew => rw [hlookup, List.idxOf_eq_length hnew, h.nextKey]

/-- After the insertion of a key the searches find it, and everything else as before. -/
theorem lookup_assign (s : Keys std) (pair pair' : StoredService × StoredInstance)
    (key nextKey : Nat) :
    Keys.lookup ⟨s.keys.assign pair.1 (((s.keys.find pair.1).getD {}).assign pair.2 key), nextKey⟩
        pair' = if pairContent pair' = pairContent pair then some key else s.lookup pair' := by
  have hpair : pairContent pair' = pairContent pair ↔
      (serviceHasher std).content pair'.1 = (serviceHasher std).content pair.1 ∧
        (instanceHasher std).content pair'.2 = (instanceHasher std).content pair.2 := by
    rw [pairContent, pairContent, Key.mk.injEq]
    rfl
  unfold Keys.lookup
  rw [UnorderedMap.find_assign]
  by_cases hservice : (serviceHasher std).content pair'.1 = (serviceHasher std).content pair.1
  · rw [if_pos hservice, Option.bind_some, UnorderedMap.find_assign, s.keys.find_congr hservice]
    by_cases hinstance : (instanceHasher std).content pair'.2 = (instanceHasher std).content pair.2
    · rw [if_pos hinstance, if_pos (hpair.2 ⟨hservice, hinstance⟩)]
    · rw [if_neg hinstance, if_neg fun hboth => hinstance (hpair.1 hboth).2]
      cases s.keys.find pair.1 with
      | none => rfl
      | some instances => rfl
  · rw [if_neg hservice, if_neg fun hboth => hservice (hpair.1 hboth).1]

theorem Numbers.get_snd (h : s.Numbers l) (pair : StoredService × StoredInstance)
    (hroom : (s.lookup pair).isSome = true ∨ s.nextKey + 1 < 2 ^ 64) :
    (s.get pair).2.Numbers (enroll l (pairContent pair)) := by
  have hlookup := h.lookup pair
  have hstored : ∀ c ∈ enroll l (pairContent pair), ∃ pair, pairContent pair = c := by
    intro c hc
    rcases mem_enroll.1 hc with hold | rfl
    · exact h.stored c hold
    · exact ⟨pair, rfl⟩
  have hnodup := nodup_enroll h.nodup (pairContent pair)
  unfold Keys.get
  split at hlookup
  next hmem =>
    have hsame : enroll l (pairContent pair) = l := if_pos hmem
    rw [hlookup, hsame]
    exact h
  next hnew =>
    rw [hlookup, Option.isSome_none, Bool.false_eq_true, false_or] at hroom
    rw [hlookup]
    refine ⟨fun pair' => ?_, ?_, hnodup, hstored⟩
    · rw [lookup_assign, h.lookup pair']
      by_cases heq : pairContent pair' = pairContent pair
      · rw [if_pos heq, if_pos (mem_enroll.2 (.inr heq)), heq, idxOf_enroll_self,
          List.idxOf_eq_length hnew, h.nextKey]
      · rw [if_neg heq]
        by_cases hmem : pairContent pair' ∈ l
        · rw [if_pos hmem, if_pos (mem_enroll.2 (.inl hmem)), idxOf_enroll_of_mem hmem]
        · have hnone : pairContent pair' ∉ enroll l (pairContent pair) := by
            rw [mem_enroll]
            exact not_or.2 ⟨hmem, heq⟩
          rw [if_neg hmem, if_neg hnone]
    · have hlength : (enroll l (pairContent pair)).length = l.length + 1 := by
        rw [enroll, if_neg hnew, List.length_append, List.length_singleton]
      rw [hlength, ← h.nextKey]
      exact Nat.mod_eq_of_lt hroom

/-- The search through all pairs finds a key at the pair that has it. -/
theorem lookup_of_getPair {key : Nat} {pair : StoredService × StoredInstance}
    (h : s.getPair key = some pair) : s.lookup pair = some key := by
  obtain ⟨before, e, after, hentries, hfound, -⟩ := List.findSome?_eq_some_iff.1 h
  obtain ⟨e', he', rfl⟩ := Option.map_eq_some_iff.1 hfound
  have hkey : e'.2 = key := by simpa using List.find?_some he'
  have hservice := s.keys.find_of_mem (e := e) (by rw [hentries]; simp)
  have hinstance := e.2.find_of_mem (List.mem_of_find?_eq_some he')
  rw [lookup, hservice, Option.bind_some, hinstance, hkey]

theorem getPair_isSome_of_lookup {key : Nat} {pair : StoredService × StoredInstance}
    (h : s.lookup pair = some key) : (s.getPair key).isSome = true := by
  obtain ⟨instances, hservice, hinstance⟩ := Option.bind_eq_some_iff.1 h
  obtain ⟨service, -, hservice⟩ := UnorderedMap.exists_mem_of_find hservice
  obtain ⟨inst, -, hinstance⟩ := UnorderedMap.exists_mem_of_find hinstance
  rw [getPair, List.findSome?_isSome_iff]
  refine ⟨(service, instances), hservice, ?_⟩
  rw [Option.isSome_map, List.find?_isSome]
  exact ⟨(inst, key), hinstance, by simp⟩

/-- The reverse search reads the list at the key. -/
theorem Numbers.getPair (h : s.Numbers l) (key : Nat) :
    (s.getPair key).map pairContent = l[key]? := by
  cases hpair : s.getPair key with
  | some pair =>
      have hlookup := lookup_of_getPair hpair
      rw [h.lookup pair] at hlookup
      split at hlookup
      next hmem =>
        rw [← Option.some.inj hlookup, List.getElem?_idxOf hmem, Option.map_some]
      next => cases hlookup
  | none =>
      cases hkey : l[key]? with
      | none => rfl
      | some c =>
          have hmem : c ∈ l := List.mem_of_getElem? hkey
          obtain ⟨hlt, hget⟩ := List.getElem?_eq_some_iff.1 hkey
          obtain ⟨pair, rfl⟩ := h.stored c hmem
          have hindex : l.idxOf (pairContent pair) = key := by
            rw [← hget]
            exact h.nodup.idxOf_getElem key hlt
          have hlookup := h.lookup pair
          rw [if_pos hmem, hindex] at hlookup
          have hsome := getPair_isSome_of_lookup hlookup
          rw [hpair] at hsome
          cases hsome

end Keys

/-! ## Calls of `get` -/

/-- `Service_interface_identifier` of SOCom. -/
structure ServiceInterfaceIdentifier where
  id : Bytes
  major : Word 2
  minor : Word 2
deriving DecidableEq, Repr

theorem maxIdSize_lt : maxIdSize < 256 ^ 8 := by decide

/-- `make_instance_id`; `none` when the assertion fails that the id fits. -/
def makeInstanceId (id : Bytes) : Option StoredInstance :=
  match h : FixedString.fromString maxIdSize id with
  | some s => some ⟨s, (FixedString.fromString_spec maxIdSize_lt h).1⟩
  | none => none

def makeService (interface : ServiceInterfaceIdentifier) : Option StoredService :=
  (makeInstanceId interface.id).map fun s => ⟨⟨s.1, interface.major, interface.minor⟩, s.2⟩

theorem content_makeInstanceId {id : Bytes} {s : StoredInstance} (h : makeInstanceId id = some s) :
    s.1.content = id := by
  unfold makeInstanceId at h
  split at h
  next t ht =>
    cases h
    exact (FixedString.fromString_spec maxIdSize_lt ht).2
  next => cases h

/-- A call with SOCom identifiers or with those of a message. -/
inductive KeyCall where
  | socom (configuration : ServiceInterfaceIdentifier) (instanceId : Bytes)
  | wire (service : Wire.Service) (instanceId : FixedString maxIdSize)

namespace KeyCall

/-- The service and the instance that a call names. -/
def content : KeyCall → Key
  | .socom configuration instanceId =>
      ⟨⟨configuration.id, configuration.major.val, configuration.minor.val⟩, instanceId⟩
  | .wire service instanceId => ⟨service.content, instanceId.content⟩

/-- The arguments of the search; `none` for a string over capacity. -/
def pair : KeyCall → Option (StoredService × StoredInstance)
  | .socom configuration instanceId =>
      (makeService configuration).bind fun service =>
        (makeInstanceId instanceId).map fun inst => (service, inst)
  | .wire service instanceId =>
      if h : service.serviceId.inCapacity = true ∧ instanceId.inCapacity = true then
        some (⟨service, h.1⟩, ⟨instanceId, h.2⟩)
      else none

theorem pairContent_pair {call : KeyCall} {p : StoredService × StoredInstance}
    (h : call.pair = some p) : pairContent p = call.content := by
  cases call with
  | socom configuration instanceId =>
      obtain ⟨service, hservice, h⟩ := Option.bind_eq_some_iff.1 h
      obtain ⟨inst, hinst, rfl⟩ := Option.map_eq_some_iff.1 h
      obtain ⟨id, hid, rfl⟩ := Option.map_eq_some_iff.1 hservice
      simp only [pairContent, content, Wire.Service.content, content_makeInstanceId hid,
        content_makeInstanceId hinst]
  | wire service instanceId =>
      simp only [pair] at h
      split at h
      next =>
        cases h
        rfl
      next => cases h

end KeyCall

/-- The object and the calls of `get` so far with the keys they returned. -/
structure KeyCalls (std : StdHash) where
  keys : Keys std := {}
  calls : List (KeyCall × Nat) := []

namespace KeyCalls

variable {std : StdHash}

def next (s : KeyCalls std) (call : KeyCall) : Option (KeyCalls std) :=
  call.pair.map fun pair =>
    { keys := (s.keys.get pair).2, calls := (call, (s.keys.get pair).1) :: s.calls }

/-- A call for a new pair does not overflow the counter. -/
def allowed (s : KeyCalls std) (call : KeyCall) : Bool :=
  call.pair.any fun pair => (s.keys.lookup pair).isSome || s.keys.nextKey + 1 < 2 ^ 64

def Run (s : KeyCalls std) : Prop := Reach next (fun s call => s.allowed call = true) {} s

/-- The calls returned the numbers of their contents, and only called contents have
one. -/
structure Issued (s : KeyCalls std) (l : List Key) : Prop where
  numbers : s.keys.Numbers l
  returned : ∀ c ∈ s.calls, l[c.2]? = some c.1.content
  called : ∀ key, key < l.length → ∃ c ∈ s.calls, c.2 = key

theorem Issued.next {s s' : KeyCalls std} {l : List Key} {call : KeyCall} (h : s.Issued l)
    (hok : s.allowed call = true) (hnext : s.next call = some s') :
    s'.Issued (enroll l call.content) := by
  obtain ⟨pair, hpair, rfl⟩ := Option.map_eq_some_iff.1 hnext
  have hcontent := KeyCall.pairContent_pair hpair
  have hroom : (s.keys.lookup pair).isSome = true ∨ s.keys.nextKey + 1 < 2 ^ 64 := by
    simpa only [allowed, hpair, Option.any_some, Bool.or_eq_true, decide_eq_true_eq] using hok
  have hkey : (s.keys.get pair).1 = l.idxOf call.content := by
    rw [h.numbers.get_fst pair, hcontent]
  refine ⟨hcontent ▸ h.numbers.get_snd pair hroom, fun c hc => ?_, fun key hlt => ?_⟩
  · rcases List.mem_cons.1 hc with rfl | hold
    · simp only [hkey]
      exact getElem?_idxOf_enroll l call.content
    · exact getElem?_enroll (h.returned c hold) call.content
  · obtain ⟨d, hd⟩ : ∃ d, (enroll l call.content)[key]? = some d :=
      ⟨_, List.getElem?_eq_getElem hlt⟩
    rcases getElem?_enroll_cases hd with hold | hnew
    · obtain ⟨c, hc, hck⟩ := h.called key (List.getElem?_eq_some_iff.1 hold).1
      exact ⟨c, List.mem_cons_of_mem _ hc, hck⟩
    · exact ⟨_, List.mem_cons_self, hkey.trans hnew.1.symm⟩

theorem Issued.of_run {s : KeyCalls std} (h : s.Run) : ∃ l, s.Issued l := by
  apply Reach.invariant _ _ h
  · refine ⟨[], .empty, fun c hc => ?_, fun key hlt => ?_⟩
    · cases hc
    · cases hlt
  · intro s call s' hs hok hnext
    obtain ⟨l, hl⟩ := hs
    exact ⟨_, hl.next hok hnext⟩

/-- Calls return the same key exactly for the same service and instance, asking again
gives the key that was issued, its reverse lookup gives the service and the instance,
and a key that was not issued is not found. -/
theorem keys_bijective {s : KeyCalls std} (h : s.Run) :
    (∀ c ∈ s.calls, ∀ c' ∈ s.calls, c.2 = c'.2 ↔ c.1.content = c'.1.content) ∧
    (∀ c ∈ s.calls, ∀ pair, pairContent pair = c.1.content → (s.keys.get pair).1 = c.2) ∧
    (∀ c ∈ s.calls, (s.keys.getPair c.2).map pairContent = some c.1.content) ∧
    ∀ key, (∀ c ∈ s.calls, c.2 ≠ key) → s.keys.getPair key = none := by
  obtain ⟨l, hl⟩ := Issued.of_run h
  have hindex : ∀ c ∈ s.calls, l.idxOf c.1.content = c.2 := by
    intro c hc
    obtain ⟨hlt, hget⟩ := List.getElem?_eq_some_iff.1 (hl.returned c hc)
    rw [← hget]
    exact hl.numbers.nodup.idxOf_getElem c.2 hlt
  refine ⟨fun c hc c' hc' => ⟨fun hkey => ?_, fun hcontent => ?_⟩, fun c hc pair hpair => ?_,
    fun c hc => ?_, fun key hkey => ?_⟩
  · have hsame := hl.returned c hc
    rw [hkey, hl.returned c' hc'] at hsame
    exact (Option.some.inj hsame).symm
  · rw [← hindex c hc, hcontent, hindex c' hc']
  · rw [hl.numbers.get_fst pair, hpair, hindex c hc]
  · rw [hl.numbers.getPair, hl.returned c hc]
  · have hnone : l[key]? = none := by
      apply List.getElem?_eq_none
      apply Nat.le_of_not_lt
      intro hlt
      obtain ⟨c, hc, hck⟩ := hl.called key hlt
      exact hkey c hc hck
    have hmap := hl.numbers.getPair key
    rw [hnone] at hmap
    exact Option.map_eq_none_iff.1 hmap

/-- The same service and instance from SOCom and from a message with other bytes after
the used ones, and another minor version; all hashes collide. -/
theorem keys_bijective_with_unused_bytes :
    let std : StdHash := ⟨fun _ => 0, fun _ => 0⟩
    ∃ s : KeyCalls std, s.Run ∧ s.calls.map Prod.snd = [0, 1, 0] ∧
      ∀ key, (∀ c ∈ s.calls, c.2 ≠ key) → s.keys.getPair key = none := by
  intro std
  let string : FixedString maxIdSize := ⟨1, List.Vector.replicate maxIdSize 7⟩
  obtain ⟨s, hs, hcalls⟩ := exists_reach_of_runFrom next (fun s call => s.allowed call = true)
    ({} : KeyCalls std)
    [.socom ⟨[7], 1, 0⟩ [7], .wire ⟨string, 1, 2⟩ string, .wire ⟨string, 1, 0⟩ string]
    (fun s => decide (s.calls.map Prod.snd = [0, 1, 0])) (by decide +kernel)
  exact ⟨s, hs, of_decide_eq_true hcalls, (keys_bijective hs).2.2.2⟩

end KeyCalls

end SomeipGateway
