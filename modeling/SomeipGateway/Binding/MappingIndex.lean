import SomeipGateway.Binding.ConnectionMetadata
import SomeipGateway.Lib.Run

/-! # The mapping index over any sequence of operations

`m_key_to_client_indices` holds exactly the positions of the entries of
`m_id_to_key`. The five public operations keep this together with the fact that a
client has at most one mapping per service, which is what `add_mapping` asserts.
-/

namespace SomeipGateway.ConnectionMetadata

variable {ι : Type} [DecidableEq ι]

inductive Operation (ι : Type) where
  | addMapping (client : ι) (ids : Ids)
  | removeClient (client : ι)
  | removeMappingForClientAndKey (client : ι) (key : Key)
  | removeMapping (client : ι) (remoteHandle : Nat)
  | removeService (key : Key)

def perform (m : ConnectionMetadata ι) : Operation ι → ConnectionMetadata ι
  | .addMapping client ids => m.addMapping client ids
  | .removeClient client => m.removeClient client
  | .removeMappingForClientAndKey client key => m.removeMappingForClientAndKey client key
  | .removeMapping client remoteHandle => m.removeMapping client remoteHandle
  | .removeService key => m.removeService key

/-- What the operation asserts when it is entered. -/
def asserted (m : ConnectionMetadata ι) : Operation ι → Bool
  | .addMapping client ids => !m.isMappingPresent client ids
  | _ => true

/-- The states that a sequence of operations leads to from an empty object. -/
def Performed (m : ConnectionMetadata ι) : Prop :=
  Reach (fun m operation => some (perform m operation))
    (fun m operation => asserted m operation = true) {} m

/-- What `m_key_to_client_indices[key][client]` holds. -/
def position (m : ConnectionMetadata ι) (key : Key) (client : ι) : Option Nat :=
  (m.keyToClientIndices.lookup key).bind fun indices => indices.lookup client

/-! ## No empty entry -/

/-- No service is kept without a client. -/
def NoEmptyIndex (table : Table Key (Table ι Nat)) : Prop :=
  ∀ key indices, table.lookup key = some indices → indices.entries ≠ []

variable {m : ConnectionMetadata ι} {client : ι}

theorem NoEmptyIndex.insert {table : Table Key (Table ι Nat)} (h : NoEmptyIndex table) (key : Key)
    (indices : Table ι Nat) (i : Nat) : NoEmptyIndex (table.insert key (indices.insert client i)) := by
  intro key' indices' hlookup
  rw [Table.lookup_insert_ite] at hlookup
  by_cases hkey : key' = key
  · rw [if_pos hkey, Option.some.injEq] at hlookup
    rw [← hlookup, AList.entries_insert]
    exact List.cons_ne_nil _ _
  · rw [if_neg hkey] at hlookup
    exact h key' indices' hlookup

theorem NoEmptyIndex.foldl_indexEntry (entries : List (Ids × Nat)) {table : Table Key (Table ι Nat)}
    (h : NoEmptyIndex table) : NoEmptyIndex (entries.foldl (indexEntry client) table) := by
  induction entries generalizing table with
  | nil => exact h
  | cons e rest ih => exact ih (h.insert e.1.key _ e.2)

/-- The loop of `remove_client_from_key_indices` drops every table it empties. -/
theorem noEmptyIndex_removeClientFromKeyIndices (m : ConnectionMetadata ι) (client : ι) :
    NoEmptyIndex (m.removeClientFromKeyIndices client).keyToClientIndices := by
  intro key indices hlookup
  simp only [removeClientFromKeyIndices, Table.lookup_filterMapVals,
    Option.bind_eq_some_iff] at hlookup
  obtain ⟨old, -, hif⟩ := hlookup
  split at hif
  next => cases hif
  next hempty =>
    cases hif
    exact fun hnil => hempty (List.isEmpty_iff.2 hnil)

theorem NoEmptyIndex.removeIf (h : NoEmptyIndex m.keyToClientIndices) (p : Ids → Bool) :
    NoEmptyIndex (m.removeIf client p).keyToClientIndices := by
  unfold ConnectionMetadata.removeIf
  split
  next => exact h
  next vec _ =>
    simp only
    split
    next => exact noEmptyIndex_removeClientFromKeyIndices _ client
    next => exact NoEmptyIndex.foldl_indexEntry _ (noEmptyIndex_removeClientFromKeyIndices _ client)

/-! ## One mapping per client and service -/

def KeysDistinct (m : ConnectionMetadata ι) : Prop :=
  ∀ client, ((m.idsOf client).map Ids.key).Nodup

theorem key_ne_of_isMappingPresent {ids existing : Ids}
    (habsent : m.isMappingPresent client ids = false) (hmem : existing ∈ m.idsOf client) :
    existing.key ≠ ids.key := by
  have h := List.any_eq_false.1 habsent existing hmem
  simp only [Bool.or_eq_true, decide_eq_true_eq, not_or] at h
  exact h.2

theorem KeysDistinct.addMapping (h : m.KeysDistinct) {ids : Ids}
    (habsent : m.isMappingPresent client ids = false) :
    (m.addMapping client ids).KeysDistinct := by
  intro client'
  rw [idsOf_addMapping]
  split
  next =>
    rw [List.map_append, List.nodup_append]
    refine ⟨h client, List.nodup_singleton _, ?_⟩
    intro key hkey key' hkey'
    obtain ⟨existing, hmem, rfl⟩ := List.mem_map.1 hkey
    rw [List.mem_singleton.1 hkey']
    exact key_ne_of_isMappingPresent habsent hmem
  next => exact h client'

theorem KeysDistinct.of_sublist {m' : ConnectionMetadata ι} (h : m.KeysDistinct)
    (hsub : ∀ client, (m'.idsOf client).Sublist (m.idsOf client)) : m'.KeysDistinct := by
  intro client
  exact ((hsub client).map Ids.key).nodup (h client)

theorem idsOf_removeClient_sublist (client' : ι) :
    ((m.removeClient client).idsOf client').Sublist (m.idsOf client') := by
  rw [idsOf_removeClient]
  split
  next => exact List.nil_sublist _
  next => exact List.Sublist.refl _

theorem idsOf_removeIf_sublist (p : Ids → Bool) (client' : ι) :
    ((m.removeIf client p).idsOf client').Sublist (m.idsOf client') := by
  rw [idsOf_removeIf]
  split
  next hclient =>
    rw [hclient]
    exact List.filter_sublist
  next => exact List.Sublist.refl _

/-! ## The invariant -/

structure Indexed (m : ConnectionMetadata ι) : Prop where
  sound : m.IndexSound
  complete : m.IndexComplete
  keysDistinct : m.KeysDistinct
  noEmptyIndex : NoEmptyIndex m.keyToClientIndices
  noEmptyVector : m.NoEmptyVector

namespace Indexed

theorem empty : Indexed ({} : ConnectionMetadata ι) where
  sound := .empty
  complete := .empty
  keysDistinct := fun client => by simp
  noEmptyIndex := fun key indices h => by cases h
  noEmptyVector := .empty

theorem addMapping (h : m.Indexed) {ids : Ids}
    (habsent : m.isMappingPresent client ids = false) : (m.addMapping client ids).Indexed where
  sound := h.sound.addMapping ids
  complete := h.complete.addMapping ids
  keysDistinct := h.keysDistinct.addMapping habsent
  noEmptyIndex := h.noEmptyIndex.insert ids.key _ _
  noEmptyVector := h.noEmptyVector.addMapping ids

theorem removeClient (h : m.Indexed) : (m.removeClient client).Indexed where
  sound := h.sound.removeClient
  complete := h.complete.removeClient
  keysDistinct := h.keysDistinct.of_sublist idsOf_removeClient_sublist
  noEmptyIndex := noEmptyIndex_removeClientFromKeyIndices _ client
  noEmptyVector := h.noEmptyVector.removeClient

theorem removeIf (h : m.Indexed) (p : Ids → Bool) : (m.removeIf client p).Indexed where
  sound := h.sound.removeIf p
  complete := h.complete.removeIf p
  keysDistinct := h.keysDistinct.of_sublist (idsOf_removeIf_sublist p)
  noEmptyIndex := h.noEmptyIndex.removeIf p
  noEmptyVector := h.noEmptyVector.removeIf p

/-- The loop of `remove_service` is a sequence of per-client removals. -/
theorem removeService (h : m.Indexed) (key : Key) : (m.removeService key).Indexed := by
  unfold ConnectionMetadata.removeService
  generalize m.idToKey.keys = clients
  induction clients generalizing m with
  | nil => exact h
  | cons client rest ih => exact ih (h.removeIf _)

theorem perform (h : m.Indexed) {operation : Operation ι} (hok : m.asserted operation = true) :
    (m.perform operation).Indexed := by
  cases operation with
  | addMapping client ids => exact h.addMapping (by simpa [asserted] using hok)
  | removeClient client => exact h.removeClient
  | removeMappingForClientAndKey client key => exact h.removeIf _
  | removeMapping client remoteHandle => exact h.removeIf _
  | removeService key => exact h.removeService key

theorem of_performed (h : m.Performed) : m.Indexed := by
  apply h.invariant empty
  intro m operation m' hm hok hnext
  cases hnext
  exact hm.perform hok

/-- A mapping stands at the position stored for its client and service: no other
entry of the client's vector is of that service. -/
theorem position_eq_some_iff (h : m.Indexed) {key : Key} {i : Nat} :
    m.position key client = some i ↔ ∃ ids, (m.idsOf client)[i]? = some ids ∧ ids.key = key := by
  have hsound : ∀ j, m.position key client = some j →
      ∃ ids, (m.idsOf client)[j]? = some ids ∧ ids.key = key := by
    intro j hj
    obtain ⟨indices, hindices, hj⟩ := Option.bind_eq_some_iff.1 hj
    exact h.sound key indices hindices client j hj
  constructor
  · exact hsound i
  · intro hi
    obtain ⟨ids, hids, hkey⟩ := hi
    obtain ⟨indices, j, hindices, hj⟩ := h.complete client ids (List.mem_of_getElem? hids)
    have hposition : m.position key client = some j := by
      rw [position, ← hkey, hindices]
      exact hj
    obtain ⟨ids', hids', hkey'⟩ := hsound j hposition
    have hi : ((m.idsOf client).map Ids.key)[i]? = some key := by
      rw [List.getElem?_map, hids, Option.map_some, hkey]
    have hj : ((m.idsOf client).map Ids.key)[j]? = some key := by
      rw [List.getElem?_map, hids', Option.map_some, hkey']
    have hlt : i < ((m.idsOf client).map Ids.key).length := (List.getElem?_eq_some_iff.1 hi).1
    rw [hposition, (List.getElem?_inj hlt (h.keysDistinct client)).1 (hi.trans hj.symm)]

theorem mem_forEachClient_iff (h : m.Indexed) {key : Key} {ids : Ids} :
    (client, ids) ∈ m.forEachClient key ↔ ids ∈ m.idsOf client ∧ ids.key = key := by
  constructor
  · exact mem_forEachClient h.sound
  · intro hids
    obtain ⟨hmem, hkey⟩ := hids
    obtain ⟨ids', hvisited⟩ := exists_mem_forEachClient h.sound h.complete hmem
    rw [hkey] at hvisited
    obtain ⟨hmem', hkey'⟩ := mem_forEachClient h.sound hvisited
    have hsame : ids = ids' :=
      List.inj_on_of_nodup_map (h.keysDistinct client) hmem hmem' (hkey.trans hkey'.symm)
    rwa [hsame]

end Indexed

/-- After any sequence of operations the index is that of the vectors, without empty
or dangling entries, and `for_each_client` visits each client that has a mapping for
the service once, with that mapping. -/
theorem mapping_index_exact (h : m.Performed) :
    (∀ key client i, m.position key client = some i ↔
      ∃ ids, (m.idsOf client)[i]? = some ids ∧ ids.key = key) ∧
    (∀ key indices, m.keyToClientIndices.lookup key = some indices → indices.entries ≠ []) ∧
    (∀ client vec, m.idToKey.lookup client = some vec → vec ≠ []) ∧
    ∀ key, ((m.forEachClient key).map Prod.fst).Nodup ∧
      ∀ client ids, (client, ids) ∈ m.forEachClient key ↔
        ids ∈ m.idsOf client ∧ ids.key = key := by
  have hindexed := Indexed.of_performed h
  refine ⟨fun key client i => hindexed.position_eq_some_iff, hindexed.noEmptyIndex,
    hindexed.noEmptyVector, fun key => ⟨m.nodup_forEachClient key, fun client ids => ?_⟩⟩
  exact hindexed.mem_forEachClient_iff

/-- Client 0 has mappings of two services and client 1 one; removing the first of
client 0 moves the position of its second. -/
theorem mapping_index_exact_after_shift :
    ∃ m : ConnectionMetadata Nat, m.Performed ∧ m.position ⟨⟨[1], 1, 0⟩, [2]⟩ 0 = some 0 ∧
      ∀ key, ((m.forEachClient key).map Prod.fst).Nodup ∧
        ∀ client ids, (client, ids) ∈ m.forEachClient key ↔
          ids ∈ m.idsOf client ∧ ids.key = key := by
  let pool : SharedMemoryMetadata := ⟨[47], 8, 2⟩
  obtain ⟨m, hm, hposition⟩ := exists_reach_of_runFrom
    (fun m operation => some (perform m operation))
    (fun m operation => asserted m operation = true) ({} : ConnectionMetadata Nat)
    [.addMapping 0 ⟨⟨⟨[0], 1, 0⟩, [2]⟩, 0, 7, pool, pool⟩,
      .addMapping 0 ⟨⟨⟨[1], 1, 0⟩, [2]⟩, 1, 8, pool, pool⟩,
      .addMapping 1 ⟨⟨⟨[1], 1, 0⟩, [2]⟩, 2, 9, pool, pool⟩, .removeMapping 0 7]
    (fun m => decide (m.position ⟨⟨[1], 1, 0⟩, [2]⟩ 0 = some 0)) (by decide)
  exact ⟨m, hm, of_decide_eq_true hposition, (mapping_index_exact hm).2.2.2⟩

end SomeipGateway.ConnectionMetadata
