import SomeipGateway.Daemon.Config

/-! # The slot sizes gatewayd registers

gatewayd derives the slot size of a service from the sizes its serializers
report, and registers it for the side that writes the events: its own slot
manager for local instances, that of someipd for remote ones.
-/

namespace SomeipGateway

namespace Daemon

variable (serializer : Serializers)

/-- The size the serializer of an event reports. -/
def sizeOf (t : ServiceType) (event : EventConfig) : Option Nat :=
  (serializer t.serviceTypeName event.eventName).map UInt64.toNat

/-- The loop of `event_slot_size`; it stops at an event without a serializer or
without a known size. -/
def largestSize (t : ServiceType) : Nat → List EventConfig → Option Nat
  | largest, [] => some largest
  | largest, event :: rest =>
      match sizeOf serializer t event with
      | none => none
      | some size => if size = 0 then none else largestSize t (max largest size) rest

/-- `event_slot_size`. The sum is computed with 64 bits. -/
def eventSlotSize (t : ServiceType) : Nat :=
  if t.eventList = [] then kMaxMessageSize
  else
    match largestSize serializer t 0 t.eventList with
    | none => kMaxMessageSize
    | some largest => (largest + kSomeipFullHeaderSize) % 2 ^ 64

/-- The shared memory configuration of gatewayd itself, and the one it sends to
someipd. -/
structure SharedMemoryConfigs where
  shmConfig : Table Key SharedMemoryMetadata := ∅
  serverShmConfig : Table Key SharedMemoryMetadata := ∅

/-- One round of the configuration loop. -/
def SharedMemoryConfigs.register (configs : SharedMemoryConfigs) (t : ServiceType) :
    SharedMemoryConfigs :=
  match makeSharedMemoryPath t, makeCounterpartSharedMemoryPath t with
  | some path, some counterpart =>
      let events : SharedMemoryMetadata := ⟨path, eventSlotSize serializer t, kMaxSampleCount⟩
      let smallest : SharedMemoryMetadata := ⟨counterpart, 1, 1⟩
      if t.localServiceInstances.isSome then
        { shmConfig := configs.shmConfig.insert t.key events
          serverShmConfig := configs.serverShmConfig.insert t.key smallest }
      else if t.remoteServiceInstances.isSome then
        { shmConfig := configs.shmConfig.insert t.key smallest
          serverShmConfig := configs.serverShmConfig.insert t.key events }
      else configs
  | _, _ => configs

def sharedMemoryConfigs (types : List ServiceType) : SharedMemoryConfigs :=
  types.foldl (SharedMemoryConfigs.register serializer) {}

/-! ## What the loop registers -/

inductive Direction where
  | outbound
  | inbound
deriving DecidableEq, Repr

/-- The configuration of the side that writes the events of a direction. -/
def SharedMemoryConfigs.writer (configs : SharedMemoryConfigs) :
    Direction → Table Key SharedMemoryMetadata
  | .outbound => configs.shmConfig
  | .inbound => configs.serverShmConfig

namespace ServiceType

/-- The loop registers the type: its paths fit and an instance list is there. -/
def isRegistered (t : ServiceType) : Bool :=
  (makeSharedMemoryPath t).isSome && (makeCounterpartSharedMemoryPath t).isSome &&
    (t.localServiceInstances.isSome || t.remoteServiceInstances.isSome)

/-- The direction that gets the event slots; a list of local instances, even an
empty one, hides the remote instances. -/
def servedDirection (t : ServiceType) : Direction :=
  if t.localServiceInstances.isSome then .outbound else .inbound

/-- The last type of the configuration that registers under the key. -/
def lastRegistered (types : List ServiceType) (key : Key) : Option ServiceType :=
  types.reverse.find? fun t => t.key = key && t.isRegistered

theorem lastRegistered_append (types : List ServiceType) (t : ServiceType) (key : Key) :
    lastRegistered (types ++ [t]) key =
      if t.key = key ∧ t.isRegistered = true then some t else lastRegistered types key := by
  by_cases h : t.key = key ∧ t.isRegistered = true
  · simp [lastRegistered, h.1, h.2]
  · rw [if_neg h]
    simp only [lastRegistered, List.reverse_append, List.reverse_singleton, List.singleton_append,
      List.find?_cons]
    have hfalse : (decide (t.key = key) && t.isRegistered) = false := by
      simpa using h
    simp [hfalse]

end ServiceType

variable {serializer}

theorem register_of_not_isRegistered {configs : SharedMemoryConfigs} {t : ServiceType}
    (h : t.isRegistered = false) : configs.register serializer t = configs := by
  unfold SharedMemoryConfigs.register
  cases hpath : makeSharedMemoryPath t with
  | none => rfl
  | some path =>
      cases hcounterpart : makeCounterpartSharedMemoryPath t with
      | none => rfl
      | some counterpart =>
          simp only [ServiceType.isRegistered, hpath, hcounterpart, Option.isSome_some,
            Bool.true_and, Bool.or_eq_false_iff] at h
          simp [h.1, h.2]

/-- A registered type gives its slot size to the direction it serves and a single
byte to the other one. -/
theorem register_of_isRegistered (configs : SharedMemoryConfigs) {t : ServiceType}
    (h : t.isRegistered = true) (d : Direction) : ∃ metadata : SharedMemoryMetadata,
      ((configs.register serializer t).writer d = (configs.writer d).insert t.key metadata) ∧
      metadata.slotSize = if t.servedDirection = d then eventSlotSize serializer t else 1 := by
  simp only [ServiceType.isRegistered, Bool.and_eq_true] at h
  obtain ⟨⟨hpath, hcounterpart⟩, hlists⟩ := h
  obtain ⟨path, hpath⟩ := Option.isSome_iff_exists.1 hpath
  obtain ⟨counterpart, hcounterpart⟩ := Option.isSome_iff_exists.1 hcounterpart
  simp only [SharedMemoryConfigs.register, hpath, hcounterpart, ServiceType.servedDirection]
  by_cases hlocal : t.localServiceInstances.isSome = true
  · simp only [if_pos hlocal]
    cases d <;> exact ⟨_, rfl, rfl⟩
  · have hremote : t.remoteServiceInstances.isSome = true := by simpa [hlocal] using hlists
    simp only [if_neg hlocal, if_pos hremote]
    cases d <;> exact ⟨_, rfl, rfl⟩

/-- The slot size found under a key comes from the last type registered there. -/
theorem lookup_writer (serializer : Serializers) (types : List ServiceType) (d : Direction) (key : Key) :
    (AList.lookup key ((sharedMemoryConfigs serializer types).writer d)).map
        SharedMemoryMetadata.slotSize =
      (ServiceType.lastRegistered types key).map fun t =>
        if t.servedDirection = d then eventSlotSize serializer t else 1 := by
  induction types using List.reverseRecOn with
  | nil => cases d <;> rfl
  | append_singleton types t ih =>
      rw [ServiceType.lastRegistered_append, sharedMemoryConfigs, List.foldl_append]
      change (AList.lookup key (((sharedMemoryConfigs serializer types).register serializer t).writer
        d)).map _ = _
      cases hreg : t.isRegistered with
      | false =>
          rw [register_of_not_isRegistered hreg, ih]
          simp
      | true =>
          obtain ⟨metadata, hwriter, hsize⟩ :=
            register_of_isRegistered (sharedMemoryConfigs serializer types) hreg d
          rw [hwriter, Table.lookup_insert_ite]
          by_cases hkey : key = t.key
          · simp [hkey, hsize]
          · rw [if_neg hkey, ih, if_neg fun h => hkey h.1.symm]

/-! ## What the slot size covers -/

/-- The sizes reported for the events of a type that have a serializer. -/
def serializedSizes (serializer : Serializers) (t : ServiceType) : List Nat :=
  t.eventList.filterMap (sizeOf serializer t)

/-- The type has events, and every one of them reports a size. -/
def allSized (serializer : Serializers) (t : ServiceType) : Prop :=
  t.eventList ≠ [] ∧ ∀ event ∈ t.eventList, ∃ size, sizeOf serializer t event = some size ∧ 0 < size

theorem largestSize_eq_some {t : ServiceType} {largest result : Nat} {events : List EventConfig} :
    largestSize serializer t largest events = some result ↔
      (∀ event ∈ events, ∃ size, sizeOf serializer t event = some size ∧ 0 < size) ∧
        result = (events.filterMap (sizeOf serializer t)).foldl max largest := by
  induction events generalizing largest with
  | nil => simp [largestSize, eq_comm]
  | cons event rest ih =>
      cases hsize : sizeOf serializer t event with
      | none => simp [largestSize, hsize]
      | some size =>
          by_cases hzero : size = 0
          · simp [largestSize, hsize, hzero]
          · simp [largestSize, hsize, hzero, ih, Nat.pos_of_ne_zero hzero]

theorem le_foldl_max {values : List Nat} {start value : Nat}
    (h : value ≤ start ∨ ∃ v ∈ values, value ≤ v) : value ≤ values.foldl max start := by
  induction values generalizing start with
  | nil => simpa using h
  | cons first rest ih =>
      refine ih ?_
      rcases h with hstart | ⟨v, hv, hle⟩
      · exact .inl (Nat.le_trans hstart (Nat.le_max_left start first))
      · rcases List.mem_cons.1 hv with rfl | hv
        · exact .inl (Nat.le_trans hle (Nat.le_max_right start v))
        · exact .inr ⟨v, hv, hle⟩

theorem foldl_max_mem (values : List Nat) (start : Nat) :
    values.foldl max start = start ∨ values.foldl max start ∈ values := by
  induction values generalizing start with
  | nil => exact .inl rfl
  | cons first rest ih =>
      rcases ih (max start first) with h | h
      · rcases Nat.le_total first start with hle | hle
        · exact .inl (h.trans (Nat.max_eq_left hle))
        · rw [Nat.max_eq_right hle] at h
          exact .inr (by simp [Nat.max_eq_right hle, h])
      · exact .inr (List.mem_cons_of_mem _ h)

theorem eventSlotSize_of_allSized {t : ServiceType} (h : allSized serializer t) :
    eventSlotSize serializer t =
      ((serializedSizes serializer t).foldl max 0 + kSomeipFullHeaderSize) % 2 ^ 64 := by
  have hlargest : largestSize serializer t 0 t.eventList = some _ :=
    largestSize_eq_some.2 ⟨h.2, rfl⟩
  simp only [eventSlotSize, if_neg h.1, hlargest, serializedSizes]

theorem eventSlotSize_of_not_allSized {t : ServiceType} (h : ¬allSized serializer t) :
    eventSlotSize serializer t = kMaxMessageSize := by
  unfold eventSlotSize
  split
  · rfl
  next hevents =>
    cases hlargest : largestSize serializer t 0 t.eventList with
    | none => rfl
    | some largest => exact (h ⟨hevents, (largestSize_eq_some.1 hlargest).1⟩).elim

/-- The slot of `registered` takes a header and any size reported for `t`. -/
def covers (serializer : Serializers) (registered t : ServiceType) : Prop :=
  (allSized serializer registered ∧
    (∀ size ∈ serializedSizes serializer registered, size + kSomeipFullHeaderSize < 2 ^ 64) ∧
    ∀ size ∈ serializedSizes serializer t, ∃ other ∈ serializedSizes serializer registered,
      size ≤ other) ∨
  ¬allSized serializer registered ∧
    ∀ size ∈ serializedSizes serializer t, size + kSomeipFullHeaderSize ≤ kMaxMessageSize

theorem lt_of_mem_serializedSizes {t : ServiceType} {size : Nat}
    (h : size ∈ serializedSizes serializer t) : size < 2 ^ 64 := by
  obtain ⟨event, -, hsize⟩ := List.mem_filterMap.1 h
  obtain ⟨reported, -, rfl⟩ := Option.map_eq_some_iff.1 hsize
  exact reported.toNat_lt

/-- The largest size of a type whose events are all sized is one of their sizes. -/
theorem foldl_max_mem_of_allSized {t : ServiceType} (h : allSized serializer t) :
    (serializedSizes serializer t).foldl max 0 ∈ serializedSizes serializer t := by
  obtain ⟨event, hevent⟩ := List.exists_mem_of_ne_nil _ h.1
  obtain ⟨size, hsize, hpos⟩ := h.2 event hevent
  have hmem : size ∈ serializedSizes serializer t := List.mem_filterMap.2 ⟨event, hevent, hsize⟩
  have hle : size ≤ (serializedSizes serializer t).foldl max 0 :=
    le_foldl_max (.inr ⟨size, hmem, Nat.le_refl size⟩)
  rcases foldl_max_mem (serializedSizes serializer t) 0 with hzero | hmax
  · omega
  · exact hmax

/-- The slot size of a type covers the sizes of another one exactly when it is
computed from sizes that reach them, or falls back to a bound above them. -/
theorem le_eventSlotSize_iff {registered t : ServiceType}
    (hne : serializedSizes serializer t ≠ []) :
    (∀ size ∈ serializedSizes serializer t,
      size + kSomeipFullHeaderSize ≤ eventSlotSize serializer registered) ↔
      covers serializer registered t := by
  by_cases hall : allSized serializer registered
  · have hmem := foldl_max_mem_of_allSized hall
    have hlt := lt_of_mem_serializedSizes hmem
    have hle : ∀ size ∈ serializedSizes serializer registered,
        size ≤ (serializedSizes serializer registered).foldl max 0 :=
      fun size hsize => le_foldl_max (.inr ⟨size, hsize, Nat.le_refl size⟩)
    rw [eventSlotSize_of_allSized hall]
    simp only [covers, hall, true_and, not_true_eq_false, false_and, or_false]
    generalize (serializedSizes serializer registered).foldl max 0 = largest at hmem hle hlt ⊢
    unfold kSomeipFullHeaderSize
    refine ⟨fun hcovered => ?_, fun ⟨hsum, hreach⟩ size hsize => ?_⟩
    · -- a sum that wrapped is below the header size, so no event would fit
      obtain ⟨first, hfirst⟩ := List.exists_mem_of_ne_nil _ hne
      have hwrap := hcovered first hfirst
      have hsum : largest + 16 < 2 ^ 64 := by omega
      rw [Nat.mod_eq_of_lt hsum] at hcovered
      exact ⟨fun size hsize => Nat.lt_of_le_of_lt (Nat.add_le_add_right (hle size hsize) 16) hsum,
        fun size hsize => ⟨largest, hmem, Nat.le_of_add_le_add_right (hcovered size hsize)⟩⟩
    · obtain ⟨other, hother, hother'⟩ := hreach size hsize
      rw [Nat.mod_eq_of_lt (hsum largest hmem)]
      exact Nat.add_le_add_right (Nat.le_trans hother' (hle other hother)) 16
  · rw [eventSlotSize_of_not_allSized hall]
    simp [covers, hall]

/-- In every configuration, the slot size registered for the writer of a direction
takes a header and the maximum size of every event of a type that has a
serializer, if and only if the type that registered last under the same key serves
that direction and its slot covers those sizes. -/
theorem registered_slot_size_sufficient_iff (serializer : Serializers) (types : List ServiceType)
    (t : ServiceType) (d : Direction) :
    (∀ metadata, AList.lookup t.key ((sharedMemoryConfigs serializer types).writer d) =
        some metadata →
      ∀ event ∈ t.eventList, ∀ size, sizeOf serializer t event = some size →
        kSomeipFullHeaderSize + size ≤ metadata.slotSize) ↔
      ∀ registered, ServiceType.lastRegistered types t.key = some registered →
        serializedSizes serializer t = [] ∨
          registered.servedDirection = d ∧ covers serializer registered t := by
  have hlookup := lookup_writer serializer types d t.key
  cases hlast : ServiceType.lastRegistered types t.key with
  | none =>
      rw [hlast, Option.map_none, Option.map_eq_none_iff] at hlookup
      simp [hlookup]
  | some registered =>
      rw [hlast, Option.map_some] at hlookup
      obtain ⟨metadata, hmetadata, hsize⟩ := Option.map_eq_some_iff.1 hlookup
      have hfit : (∀ event ∈ t.eventList, ∀ size, sizeOf serializer t event = some size →
          kSomeipFullHeaderSize + size ≤ metadata.slotSize) ↔
          ∀ size ∈ serializedSizes serializer t, size + kSomeipFullHeaderSize ≤ metadata.slotSize := by
        simp only [serializedSizes, List.mem_filterMap, Nat.add_comm kSomeipFullHeaderSize]
        exact ⟨fun h size ⟨event, hevent, hs⟩ => h event hevent size hs,
          fun h event hevent size hs => h size ⟨event, hevent, hs⟩⟩
      simp only [hmetadata, Option.some.injEq, forall_eq', hfit]
      by_cases hne : serializedSizes serializer t = []
      · simp [hne]
      · rw [hsize]
        simp only [hne, false_or]
        split
        next hserved => rw [le_eventSlotSize_iff hne, and_iff_right hserved]
        next hserved =>
          -- the other direction has a slot of a single byte
          obtain ⟨first, hfirst⟩ := List.exists_mem_of_ne_nil _ hne
          refine ⟨fun h => ?_, fun h => (hserved h.1).elim⟩
          have hone := h first hfirst
          unfold kSomeipFullHeaderSize at hone
          omega

/-- A service type with a local instance, a large event, and a second event whose
serializer may be absent. -/
def someType (known : Option UInt32) (remote : Option (List ServiceInstance)) : ServiceType where
  serviceTypeName := [115]
  serviceId := 1
  versionMajor := 1
  versionMinor := 0
  events := some [⟨1, [97], some 4000⟩, ⟨2, [98], known⟩]
  localServiceInstances := some [⟨[105], 1⟩]
  remoteServiceInstances := remote

/-- An event without a serializer makes the slots smaller than another event of the
type needs, and a type with instances of both kinds gets slots of a single byte
for the inbound direction. -/
theorem registered_slot_size_too_small :
    (∃ metadata, AList.lookup (someType none none).key
        ((sharedMemoryConfigs (nullSerializer [someType none none]) [someType none none]).writer
          .outbound) = some metadata ∧
      ∃ event ∈ (someType none none).eventList, ∃ size,
        sizeOf (nullSerializer [someType none none]) (someType none none) event = some size ∧
        metadata.slotSize < kSomeipFullHeaderSize + size) ∧
    (let t := someType (some 8) (some [⟨[106], 2⟩])
     ∃ metadata, AList.lookup t.key
        ((sharedMemoryConfigs (nullSerializer [t]) [t]).writer .inbound) = some metadata ∧
      ∃ event ∈ t.eventList, ∃ size, sizeOf (nullSerializer [t]) t event = some size ∧
        metadata.slotSize < kSomeipFullHeaderSize + size) := by
  refine ⟨⟨⟨_, 1500, 10⟩, rfl, ⟨1, [97], some 4000⟩, by decide, 4000, rfl, by decide⟩,
    ⟨⟨_, 1, 1⟩, rfl, ⟨1, [97], some 4000⟩, by decide, 4000, rfl, by decide⟩⟩

end Daemon

end SomeipGateway
