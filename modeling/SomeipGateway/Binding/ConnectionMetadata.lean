import SomeipGateway.Binding.Message

/-! # `Connection_metadata`

The established connections of an endpoint: for every client the vector of its
`Ids`, and an index from a service to the position of its entry in each client's
vector.
-/

namespace SomeipGateway

structure Ids where
  key : Key
  localHandle : Nat
  remoteHandle : Nat
  localMetadata : SharedMemoryMetadata
  remoteMetadata : SharedMemoryMetadata
deriving DecidableEq, Repr

structure ConnectionMetadata (ι : Type) where
  idToKey : Table ι (List Ids) := ∅
  keyToClientIndices : Table Key (Table ι Nat) := ∅

namespace ConnectionMetadata

variable {ι : Type} [DecidableEq ι]

/-- The vector stored for a client, empty when there is none. -/
def idsOf (m : ConnectionMetadata ι) (client : ι) : List Ids :=
  (m.idToKey.lookup client).getD []

/-- The clients and `Ids` that `for_each_client` visits. -/
def forEachClient (m : ConnectionMetadata ι) (key : Key) : List (ι × Ids) :=
  match m.keyToClientIndices.lookup key with
  | none => []
  | some indices =>
      indices.entries.filterMap fun e => ((m.idsOf e.1)[e.2]?).map (Prod.mk e.1)

def isMappingPresent (m : ConnectionMetadata ι) (client : ι) (ids : Ids) : Bool :=
  (m.idsOf client).any fun existing =>
    existing.localHandle = ids.localHandle || existing.key = ids.key

def addMapping (m : ConnectionMetadata ι) (client : ι) (ids : Ids) : ConnectionMetadata ι :=
  let idsVec := m.idsOf client ++ [ids]
  let indices := (m.keyToClientIndices.lookup ids.key).getD ∅
  { idToKey := m.idToKey.insert client idsVec
    keyToClientIndices :=
      m.keyToClientIndices.insert ids.key (indices.insert client (idsVec.length - 1)) }

def getByRemoteHandle (m : ConnectionMetadata ι) (client : ι) (remoteHandle : Nat) :
    Option Ids :=
  (m.idsOf client).find? fun ids => ids.remoteHandle = remoteHandle

def getByLocalHandle (m : ConnectionMetadata ι) (client : ι) (localHandle : Nat) :
    Option Ids :=
  (m.idsOf client).find? fun ids => ids.localHandle = localHandle

def removeClientFromKeyIndices (m : ConnectionMetadata ι) (client : ι) : ConnectionMetadata ι :=
  { m with
    keyToClientIndices := m.keyToClientIndices.filterMapVals fun _ indices =>
      let indices := indices.erase client
      if indices.entries.isEmpty then none else some indices }

/-- One iteration of the loop of `rebuild_client_key_indices`. -/
def indexEntry (client : ι) (table : Table Key (Table ι Nat)) (entry : Ids × Nat) :
    Table Key (Table ι Nat) :=
  table.insert entry.1.key (((table.lookup entry.1.key).getD ∅).insert client entry.2)

def rebuildClientKeyIndices (m : ConnectionMetadata ι) (client : ι) : ConnectionMetadata ι :=
  let m := m.removeClientFromKeyIndices client
  { m with
    keyToClientIndices := (m.idsOf client).zipIdx.foldl (indexEntry client) m.keyToClientIndices }

def removeClient (m : ConnectionMetadata ι) (client : ι) : ConnectionMetadata ι :=
  { m with idToKey := m.idToKey.erase client }.removeClientFromKeyIndices client

/-- The common body of the three per-client removals: drop the entries of
`client` that satisfy `p`, then the client itself when nothing is left. -/
def removeIf (m : ConnectionMetadata ι) (client : ι) (p : Ids → Bool) : ConnectionMetadata ι :=
  match m.idToKey.lookup client with
  | none => m
  | some vec =>
      let vec := vec.filter fun ids => !p ids
      if vec.isEmpty then
        { m with idToKey := m.idToKey.erase client }.removeClientFromKeyIndices client
      else
        { m with idToKey := m.idToKey.insert client vec }.rebuildClientKeyIndices client

def removeMappingForClientAndKey (m : ConnectionMetadata ι) (client : ι) (key : Key) :
    ConnectionMetadata ι :=
  m.removeIf client fun ids => ids.key = key

def removeMapping (m : ConnectionMetadata ι) (client : ι) (remoteHandle : Nat) :
    ConnectionMetadata ι :=
  m.removeIf client fun ids => ids.remoteHandle = remoteHandle

def removeService (m : ConnectionMetadata ι) (key : Key) : ConnectionMetadata ι :=
  m.idToKey.keys.foldl (fun m client => m.removeMappingForClientAndKey client key) m

/-! ## The vectors after an update -/

variable (m : ConnectionMetadata ι) (client client' : ι)

@[simp] theorem idsOf_empty : idsOf ({} : ConnectionMetadata ι) client = [] := rfl

@[simp] theorem idsOf_addMapping (ids : Ids) :
    (m.addMapping client ids).idsOf client' =
      if client' = client then m.idsOf client ++ [ids] else m.idsOf client' := by
  by_cases h : client' = client <;> simp [addMapping, idsOf, Table.lookup_insert_ite, h]

@[simp] theorem idToKey_removeClientFromKeyIndices :
    (m.removeClientFromKeyIndices client).idToKey = m.idToKey := rfl

@[simp] theorem idToKey_rebuildClientKeyIndices :
    (m.rebuildClientKeyIndices client).idToKey = m.idToKey := rfl

@[simp] theorem idsOf_removeClient :
    (m.removeClient client).idsOf client' = if client' = client then [] else m.idsOf client' := by
  by_cases h : client' = client <;> simp [removeClient, idsOf, Table.lookup_erase_ite, h]

@[simp] theorem idsOf_removeIf (p : Ids → Bool) :
    (m.removeIf client p).idsOf client' =
      if client' = client then (m.idsOf client).filter (fun ids => !p ids)
      else m.idsOf client' := by
  unfold removeIf
  cases hvec : m.idToKey.lookup client with
  | none =>
      by_cases h : client' = client
      · subst h
        simp [idsOf, hvec]
      · simp [h]
  | some vec =>
      by_cases hnil : vec.filter (fun ids => !p ids) = []
      · by_cases h : client' = client
        · subst h
          simp [idsOf, hvec, hnil, -List.filter_eq_nil_iff]
        · simp [idsOf, h, hnil, -List.filter_eq_nil_iff]
      · by_cases h : client' = client
        · subst h
          simp [idsOf, hvec, hnil, -List.filter_eq_nil_iff]
        · simp [idsOf, h, hnil, -List.filter_eq_nil_iff]

@[simp] theorem idsOf_removeMapping (remoteHandle : Nat) :
    (m.removeMapping client remoteHandle).idsOf client' =
      if client' = client then (m.idsOf client).filter (fun ids => ids.remoteHandle ≠ remoteHandle)
      else m.idsOf client' := by
  simp [removeMapping]

@[simp] theorem idsOf_removeMappingForClientAndKey (key : Key) :
    (m.removeMappingForClientAndKey client key).idsOf client' =
      if client' = client then (m.idsOf client).filter (fun ids => ids.key ≠ key)
      else m.idsOf client' := by
  simp [removeMappingForClientAndKey]

private theorem idsOf_foldl_removeMapping (key : Key) (clients : List ι) :
    (clients.foldl (fun m client => m.removeMappingForClientAndKey client key) m).idsOf client =
      if client ∈ clients then (m.idsOf client).filter (fun ids => ids.key ≠ key)
      else m.idsOf client := by
  induction clients generalizing m with
  | nil => simp
  | cons head rest ih =>
      rw [List.foldl_cons, ih]
      by_cases hhead : client = head
      · subst hhead
        simp [List.filter_filter]
      · simp [hhead]

@[simp] theorem idsOf_removeService (key : Key) :
    (m.removeService key).idsOf client = (m.idsOf client).filter (fun ids => ids.key ≠ key) := by
  rw [removeService, idsOf_foldl_removeMapping]
  split
  next => rfl
  next h =>
    have hnone : m.idToKey.lookup client = none := by
      rw [AList.lookup_eq_none, AList.mem_keys]
      exact h
    simp [idsOf, hnone]

/-! ## The index

An entry of the index points at an `Ids` of its service, so `for_each_client`
visits mappings of the service only. -/

/-- Every position that `table` stores holds an `Ids` of the service in `vectors`. -/
def PointsInto (vectors : ι → List Ids) (table : Table Key (Table ι Nat)) : Prop :=
  ∀ key indices, table.lookup key = some indices → ∀ client i, indices.lookup client = some i →
    ∃ ids, (vectors client)[i]? = some ids ∧ ids.key = key

def IndexSound : Prop :=
  PointsInto m.idsOf m.keyToClientIndices

variable {m client}

theorem PointsInto.insert {vectors : ι → List Ids} {table : Table Key (Table ι Nat)} {ids : Ids}
    {i : Nat} (h : PointsInto vectors table) (hi : (vectors client)[i]? = some ids) :
    PointsInto vectors
      (table.insert ids.key (((table.lookup ids.key).getD ∅).insert client i)) := by
  intro key indices hkey client' j hj
  rw [Table.lookup_insert_ite] at hkey
  by_cases heq : key = ids.key
  · simp only [heq, if_true, Option.some.injEq] at hkey
    rw [← hkey, Table.lookup_insert_ite] at hj
    by_cases hc : client' = client
    · simp only [hc, if_true, Option.some.injEq] at hj
      exact ⟨ids, by rw [hc, ← hj, hi], heq.symm⟩
    · rw [if_neg hc] at hj
      cases hold : table.lookup ids.key with
      | none => simp [hold] at hj
      | some old => exact heq ▸ h ids.key old hold client' j (by simpa [hold] using hj)
  · rw [if_neg heq] at hkey
    exact h key indices hkey client' j hj

theorem PointsInto.mono {vectors vectors' : ι → List Ids} {table : Table Key (Table ι Nat)}
    (h : PointsInto vectors table)
    (hsub : ∀ (client : ι) (i : Nat) (ids : Ids),
      (vectors client)[i]? = some ids → (vectors' client)[i]? = some ids) :
    PointsInto vectors' table := by
  intro key indices hkey client i hi
  obtain ⟨ids, hids, hk⟩ := h key indices hkey client i hi
  exact ⟨ids, hsub client i ids hids, hk⟩

theorem PointsInto.foldl_indexEntry {vectors : ι → List Ids} (entries : List (Ids × Nat))
    (hentries : ∀ e ∈ entries, (vectors client)[e.2]? = some e.1) :
    ∀ {table : Table Key (Table ι Nat)}, PointsInto vectors table →
      PointsInto vectors (entries.foldl (indexEntry client) table) := by
  induction entries with
  | nil => exact fun h => h
  | cons e rest ih =>
      intro table h
      exact ih (fun e he => hentries e (List.mem_cons_of_mem _ he))
        (h.insert (hentries e List.mem_cons_self))

/-- Without the positions of `client`, its vector may become anything. -/
theorem PointsInto.removeClient (h : m.IndexSound) {vectors : ι → List Ids}
    (hsame : ∀ client', client' ≠ client → vectors client' = m.idsOf client') :
    PointsInto vectors (m.removeClientFromKeyIndices client).keyToClientIndices := by
  intro key indices hkey client' i hi
  simp only [removeClientFromKeyIndices, Table.lookup_filterMapVals,
    Option.bind_eq_some_iff] at hkey
  obtain ⟨old, hold, hif⟩ := hkey
  split at hif
  · cases hif
  · cases hif
    rw [Table.lookup_erase_ite] at hi
    split at hi
    · cases hi
    next hne =>
      rw [hsame client' hne]
      exact h key old hold client' i hi

theorem IndexSound.empty : IndexSound ({} : ConnectionMetadata ι) := by
  intro key indices hkey
  cases hkey

theorem IndexSound.addMapping (h : m.IndexSound) (ids : Ids) :
    (m.addMapping client ids).IndexSound := by
  have hvec : ∀ client', (m.addMapping client ids).idsOf client' =
      if client' = client then m.idsOf client ++ [ids] else m.idsOf client' :=
    fun client' => idsOf_addMapping m client client' ids
  have hmono : PointsInto (m.addMapping client ids).idsOf m.keyToClientIndices := by
    refine PointsInto.mono h fun client' i old hold => ?_
    rw [hvec]
    split
    next hc =>
      subst hc
      rw [List.getElem?_append_left (List.getElem?_eq_some_iff.1 hold).1, hold]
    next => exact hold
  refine hmono.insert ?_
  simp [hvec]

theorem IndexSound.removeClient (h : m.IndexSound) : (m.removeClient client).IndexSound :=
  PointsInto.removeClient h fun client' hne => by simp [hne]

theorem IndexSound.removeIf (h : m.IndexSound) (p : Ids → Bool) :
    (m.removeIf client p).IndexSound := by
  have hother : ∀ client', client' ≠ client → (m.removeIf client p).idsOf client' =
      m.idsOf client' := fun client' hne => by simp [hne]
  unfold IndexSound
  generalize hvectors : (m.removeIf client p).idsOf = vectors at hother ⊢
  unfold ConnectionMetadata.removeIf at hvectors ⊢
  cases hvec : m.idToKey.lookup client with
  | none =>
      simp only [hvec] at hvectors ⊢
      exact hvectors ▸ h
  | some vec =>
      simp only [hvec] at hvectors ⊢
      split at hvectors
      next hempty =>
        rw [if_pos hempty]
        exact PointsInto.removeClient h hother
      next hempty =>
        rw [if_neg hempty]
        refine PointsInto.foldl_indexEntry _ ?_ (PointsInto.removeClient h hother)
        rintro ⟨ids, i⟩ hmem
        rw [← hvectors]
        exact List.mem_zipIdx_iff_getElem?.1 hmem

theorem IndexSound.removeService (h : m.IndexSound) (key : Key) :
    (m.removeService key).IndexSound := by
  unfold ConnectionMetadata.removeService
  generalize m.idToKey.keys = clients
  induction clients generalizing m with
  | nil => exact h
  | cons client rest ih => exact ih (h.removeIf _)

/-- No client is kept without a mapping. -/
def NoEmptyVector (m : ConnectionMetadata ι) : Prop :=
  ∀ client vec, m.idToKey.lookup client = some vec → vec ≠ []

theorem NoEmptyVector.empty : NoEmptyVector ({} : ConnectionMetadata ι) := by
  intro client vec h
  cases h

theorem NoEmptyVector.addMapping (h : m.NoEmptyVector) (ids : Ids) :
    (m.addMapping client ids).NoEmptyVector := by
  intro client' vec hvec
  simp only [ConnectionMetadata.addMapping, Table.lookup_insert_ite] at hvec
  split at hvec
  · cases hvec
    simp
  · exact h client' vec hvec

theorem NoEmptyVector.removeClient (h : m.NoEmptyVector) :
    (m.removeClient client).NoEmptyVector := by
  intro client' vec hvec
  simp only [ConnectionMetadata.removeClient, idToKey_removeClientFromKeyIndices,
    Table.lookup_erase_ite] at hvec
  split at hvec
  · cases hvec
  · exact h client' vec hvec

theorem NoEmptyVector.removeIf (h : m.NoEmptyVector) (p : Ids → Bool) :
    (m.removeIf client p).NoEmptyVector := by
  unfold ConnectionMetadata.removeIf
  split
  · exact h
  next vec _ =>
    simp only
    split
    · exact h.removeClient
    next hleft =>
      intro client' vec' hvec
      simp only [idToKey_rebuildClientKeyIndices, Table.lookup_insert_ite] at hvec
      split at hvec
      · cases hvec
        exact fun hnil => hleft (List.isEmpty_iff.2 hnil)
      · exact h client' vec' hvec

theorem mem_forEachClient (h : m.IndexSound) {key : Key} {ids : Ids}
    (hmem : (client, ids) ∈ m.forEachClient key) : ids ∈ m.idsOf client ∧ ids.key = key := by
  unfold forEachClient at hmem
  split at hmem
  next => cases hmem
  next indices hindices =>
    obtain ⟨e, he, hmap⟩ := List.mem_filterMap.1 hmem
    obtain ⟨ids', hids', heq⟩ := Option.map_eq_some_iff.1 hmap
    cases heq
    obtain ⟨found, hfound, hkey⟩ :=
      h key indices hindices e.1 e.2 (Table.lookup_eq_some_of_mem he)
    rw [hfound, Option.some.injEq] at hids'
    subst hids'
    exact ⟨List.mem_of_getElem? hfound, hkey⟩

/-! The other way round, every mapping of a client is found through the index. -/

/-- The index of `table` has a position for the service and the client. -/
def HasIndex (table : Table Key (Table ι Nat)) (key : Key) (client : ι) : Prop :=
  ∃ indices i, table.lookup key = some indices ∧ indices.lookup client = some i

def IndexComplete (m : ConnectionMetadata ι) : Prop :=
  ∀ client, ∀ ids ∈ m.idsOf client, HasIndex m.keyToClientIndices ids.key client

theorem hasIndex_insert_self (table : Table Key (Table ι Nat)) (key : Key) (i : Nat) :
    HasIndex (table.insert key (((table.lookup key).getD ∅).insert client i)) key client :=
  ⟨_, i, by rw [Table.lookup_insert_ite, if_pos rfl], by rw [Table.lookup_insert_ite, if_pos rfl]⟩

theorem HasIndex.insert {table : Table Key (Table ι Nat)} {key : Key} {client' : ι}
    (h : HasIndex table key client') (key' : Key) (i : Nat) :
    HasIndex (table.insert key' (((table.lookup key').getD ∅).insert client i)) key client' := by
  obtain ⟨indices, j, hindices, hj⟩ := h
  by_cases hkey : key = key'
  · subst hkey
    refine ⟨indices.insert client i, if client' = client then i else j, ?_, ?_⟩
    · rw [Table.lookup_insert_ite, if_pos rfl, hindices, Option.getD_some]
    · rw [Table.lookup_insert_ite]
      split
      next => rfl
      next => exact hj
  · exact ⟨indices, j, by rw [Table.lookup_insert_ite, if_neg hkey, hindices], hj⟩

theorem HasIndex.foldl_indexEntry {key : Key} {client' : ι} (entries : List (Ids × Nat)) :
    ∀ {table : Table Key (Table ι Nat)}, HasIndex table key client' →
      HasIndex (entries.foldl (indexEntry client) table) key client' := by
  induction entries with
  | nil => exact fun h => h
  | cons e rest ih => exact fun h => ih (h.insert e.1.key e.2)

theorem hasIndex_foldl_indexEntry {e : Ids × Nat} {entries : List (Ids × Nat)} (he : e ∈ entries) :
    ∀ {table : Table Key (Table ι Nat)},
      HasIndex (entries.foldl (indexEntry client) table) e.1.key client := by
  induction entries with
  | nil => cases he
  | cons head rest ih =>
      intro table
      rcases List.mem_cons.1 he with rfl | he
      · exact .foldl_indexEntry rest (hasIndex_insert_self table e.1.key e.2)
      · exact ih he

theorem HasIndex.removeClientFromKeyIndices {key : Key} {client' : ι}
    (h : HasIndex m.keyToClientIndices key client') (hne : client' ≠ client) :
    HasIndex (m.removeClientFromKeyIndices client).keyToClientIndices key client' := by
  obtain ⟨indices, i, hindices, hi⟩ := h
  have hstays : (indices.erase client).lookup client' = some i := by
    rw [Table.lookup_erase_ite, if_neg hne, hi]
  refine ⟨indices.erase client, i, ?_, hstays⟩
  simp only [ConnectionMetadata.removeClientFromKeyIndices, Table.lookup_filterMapVals, hindices,
    Option.bind_some]
  split
  next hempty =>
    have hmem := Table.mem_of_lookup_eq_some hstays
    rw [List.isEmpty_iff.1 hempty] at hmem
    cases hmem
  next => rfl

theorem IndexComplete.empty : IndexComplete ({} : ConnectionMetadata ι) := by
  intro client ids hids
  cases hids

theorem IndexComplete.addMapping (h : m.IndexComplete) (ids : Ids) :
    (m.addMapping client ids).IndexComplete := by
  intro client' ids' hids'
  rw [idsOf_addMapping] at hids'
  by_cases hclient : client' = client
  · subst hclient
    rw [if_pos rfl] at hids'
    rcases List.mem_append.1 hids' with hold | hnew
    · exact (h client' ids' hold).insert ids.key _
    · rw [List.mem_singleton.1 hnew]
      exact hasIndex_insert_self m.keyToClientIndices ids.key _
  · rw [if_neg hclient] at hids'
    exact (h client' ids' hids').insert ids.key _

theorem IndexComplete.removeClient (h : m.IndexComplete) :
    (m.removeClient client).IndexComplete := by
  intro client' ids hids
  rw [idsOf_removeClient] at hids
  split at hids
  · cases hids
  next hne => exact (h client' ids hids).removeClientFromKeyIndices hne

theorem IndexComplete.removeIf (h : m.IndexComplete) (p : Ids → Bool) :
    (m.removeIf client p).IndexComplete := by
  intro client' ids hids
  have hother : client' ≠ client → ids ∈ m.idsOf client' := by
    intro hne
    simpa [hne] using hids
  revert hids
  unfold ConnectionMetadata.removeIf
  cases hvec : m.idToKey.lookup client with
  | none => exact h client' ids
  | some vec =>
      simp only
      split
      next hempty =>
        intro hids
        by_cases hclient : client' = client
        · subst hclient
          simp [idsOf] at hids
        · exact (h client' ids (hother hclient)).removeClientFromKeyIndices hclient
      next hempty =>
        intro hids
        by_cases hclient : client' = client
        · subst hclient
          obtain ⟨i, hi⟩ := List.mem_iff_getElem?.1 hids
          exact hasIndex_foldl_indexEntry (e := (ids, i)) (List.mem_zipIdx_iff_getElem?.2 hi)
        · exact .foldl_indexEntry _
            ((h client' ids (hother hclient)).removeClientFromKeyIndices hclient)

theorem exists_mem_forEachClient (hsound : m.IndexSound) (hcomplete : m.IndexComplete) {ids : Ids}
    (hids : ids ∈ m.idsOf client) : ∃ ids', (client, ids') ∈ m.forEachClient ids.key := by
  obtain ⟨indices, i, hindices, hi⟩ := hcomplete client ids hids
  obtain ⟨ids', hids', -⟩ := hsound ids.key indices hindices client i hi
  refine ⟨ids', ?_⟩
  simp only [forEachClient, hindices]
  exact List.mem_filterMap.2 ⟨⟨client, i⟩, Table.mem_of_lookup_eq_some hi, by simp [hids']⟩

omit [DecidableEq ι] in
/-- Reading the indexed vectors keeps the clients of a table apart. -/
theorem filterMap_fst_sublist (vectors : ι → List Ids) (entries : List (Sigma fun _ : ι => Nat)) :
    ((entries.filterMap fun e => ((vectors e.1)[e.2]?).map (Prod.mk e.1)).map Prod.fst).Sublist
      entries.keys := by
  induction entries with
  | nil => exact List.Sublist.slnil
  | cons e rest ih =>
      cases he : (vectors e.1)[e.2]? with
      | none => simpa [List.filterMap_cons, he] using ih.cons e.1
      | some ids => simpa [List.filterMap_cons, he] using ih

/-- The table of a service names a client once. -/
theorem nodup_forEachClient (m : ConnectionMetadata ι) (key : Key) :
    ((m.forEachClient key).map Prod.fst).Nodup := by
  unfold forEachClient
  split
  next => exact List.nodup_nil
  next indices _ => exact (filterMap_fst_sublist m.idsOf indices.entries).nodup indices.nodupKeys

end ConnectionMetadata

end SomeipGateway
