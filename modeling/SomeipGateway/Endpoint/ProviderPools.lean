import SomeipGateway.Endpoint.HandshakeReplies
import SomeipGateway.Endpoint.Pools

/-! # The memory that an event update reads

Memory objects are created under paths and paths are unlinked, beside the steps of
an endpoint. A mapping is made when a peer announces an object that it created, and
the first event update opens what the path of the object names by then. The
read-only manager is kept under that path for good. It is on the object of the
mapping as long as no path is used again that the endpoint still knows.
-/

namespace SomeipGateway

variable {ι : Type} [DecidableEq ι]

namespace Binding

/-- The pool that a message describes to have a mapping made. A reply that is not
awaited makes none. -/
def announced (b : Binding ι) (client : ι) : Message → Option SharedMemoryMetadata
  | .connectService _ _ metadata true => some metadata
  | .connectServiceReply requiredId _ metadata _ =>
      match b.pendingConnects.lookup requiredId with
      | none => none
      | some pending => if pending.client = client then some metadata else none
  | _ => none

/-- The mapping whose read-only manager `handle_event_update_message` asks for. -/
def readFrom (b : Binding ι) (client : ι) (requiredId : Nat) : Option Ids := do
  let ids ← b.idMapping.getByRemoteHandle client requiredId
  let state ← b.serviceStates.lookup ids.key
  let _ ← state.enabledConnector
  some ids

theorem readOnlyManagers_handleEventUpdateMessage {b b' : Binding ι} {client : ι}
    {r eventId : Nat} {handle : SharedMemoryHandle} {effects : List (Effect ι)}
    (h : b.handleEventUpdateMessage client r eventId handle = some (b', effects)) :
    b'.readOnlyManagers = (b.readFrom client r).elim b.readOnlyManagers fun ids =>
      (b.readOnlyManagers.getReadOnlySharedMemorySlotManager ids.remoteMetadata).2 := by
  unfold handleEventUpdateMessage at h
  cases hids : b.idMapping.getByRemoteHandle client r with
  | none =>
      rw [hids] at h
      cases h
      simp [readFrom, hids]
  | some ids =>
      simp only [hids] at h
      cases hstate : b.serviceStates.lookup ids.key with
      | none => simp [hstate] at h
      | some state =>
          simp only [hstate] at h
          cases hconnector : state.enabledConnector with
          | none =>
              simp only [hconnector] at h
              cases h
              simp [readFrom, hids, hstate, hconnector]
          | some connector =>
              simp only [hconnector] at h
              split at h
              · cases h
              · cases h
                simp [readFrom, hids, hstate, hconnector]

def isOpened (b : Binding ι) (path : Bytes) : Bool :=
  (b.readOnlyManagers.lookup path).isSome

def isMapped (b : Binding ι) (path : Bytes) : Bool :=
  b.idMapping.idToKey.entries.any fun e => e.2.any fun ids => ids.remoteMetadata.path = path

end Binding

/-- An endpoint and the shared memory of the system. Memory objects are numbered in
the order of their creation. -/
structure MemoryHistory (ι : Type) [DecidableEq ι] where
  endpoint : Endpoint ι := {}
  /-- What each object was created with. -/
  objects : List SharedMemoryMetadata := []
  /-- The object that a path names. -/
  directory : Table Bytes Nat := ∅
  /-- The last object created under a path, unlinked or not. -/
  newest : Table Bytes Nat := ∅
  /-- The object that the read-only manager of a path maps. -/
  opened : Bytes → Nat := fun _ => 0
  /-- The object that the peer of a mapping announced. -/
  provider : ι → Ids → Nat := fun _ _ => 0

namespace MemoryHistory

inductive Label (ι : Type) where
  /-- `create_shared_memory_slot_manager`, in any process. -/
  | create (metadata : SharedMemoryMetadata)
  /-- The filesystem entry is removed, by the destructor of any manager. -/
  | unlink (path : Bytes)
  /-- A step of the endpoint. A message that announces a pool announces `object`. -/
  | step (env : Env ι) (event : Event ι) (object : Nat)

/-- The object that the manager for a mapping maps, opened now if need be. -/
def object (s : MemoryHistory ι) (ids : Ids) : Option Nat :=
  if s.endpoint.binding.isOpened ids.remoteMetadata.path then
    some (s.opened ids.remoteMetadata.path)
  else s.directory.lookup ids.remoteMetadata.path

/-- Which object each path is opened on after the event; `none` if opening fails. -/
def opens (s : MemoryHistory ι) : Event ι → Option (Bytes → Nat)
  | .receive client (.eventUpdate requiredId _ _) =>
      match s.endpoint.binding.readFrom client requiredId with
      | none => some s.opened
      | some ids =>
          (s.object ids).map fun object =>
            Function.update s.opened ids.remoteMetadata.path object
  | _ => some s.opened

/-- The objects of the mappings once the endpoint is in state `n'`. -/
def announces (s : MemoryHistory ι) (n' : Endpoint ι) (object : Nat) : Event ι → ι → Ids → Nat
  | .receive client msg => fun x ids =>
      if (s.endpoint.binding.announced client msg).isSome ∧ x = client ∧
          ids ∈ (n'.binding.idMapping.idsOf client).drop
            (s.endpoint.binding.idMapping.idsOf client).length then object
      else s.provider x ids
  | _ => s.provider

def next (s : MemoryHistory ι) : Label ι → Option (MemoryHistory ι)
  | .create metadata =>
      if metadata.slotSize = 0 ∨ metadata.slotCount = 0 then some s
      else
        some
          { s with
            objects := s.objects ++ [metadata]
            directory := s.directory.insert metadata.path s.objects.length
            newest := s.newest.insert metadata.path s.objects.length }
  | .unlink path => some { s with directory := s.directory.erase path }
  | .step env event object => do
      let opened ← s.opens event
      let (n', _) ← s.endpoint.step env event
      some
        { s with
          endpoint := n'
          opened := opened
          provider := s.announces n' object event }

/-- A peer announces an object that was created as it says. -/
def allowed (s : MemoryHistory ι) : Label ι → Bool
  | .step _ (.receive client msg) object =>
      (s.endpoint.binding.announced client msg).all fun metadata =>
        s.objects[object]? = some metadata
  | _ => true

/-- A path that the endpoint has a mapping to or has opened is not used for a new
object, and an object is announced only until its path is used for another. -/
def fresh (s : MemoryHistory ι) : Label ι → Bool
  | .create metadata =>
      !s.endpoint.binding.isOpened metadata.path && !s.endpoint.binding.isMapped metadata.path
  | .step _ (.receive client msg) object =>
      (s.endpoint.binding.announced client msg).all fun metadata =>
        s.newest.lookup metadata.path = some object
  | _ => true

/-- The manager that an event update uses is on the object of the mapping's provider
and has the sizes of its remote metadata. -/
def ReadsProvider (s : MemoryHistory ι) : Prop :=
  ∀ client requiredId ids object, s.endpoint.binding.readFrom client requiredId = some ids →
    s.object ids = some object →
    object = s.provider client ids ∧
      (s.endpoint.binding.pool ids).slotSize = ids.remoteMetadata.slotSize ∧
      (s.endpoint.binding.pool ids).slotCount = ids.remoteMetadata.slotCount

/-! ## What a step does to the mappings -/

end MemoryHistory

theorem shrinks_rule (m₀ : ConnectionMetadata ι) :
    MetadataRule (fun _ => False) fun m : ConnectionMetadata ι => ∀ x, m.idsOf x ⊆ m₀.idsOf x where
  addMapping := fun h => h.elim
  removeIf := by
    intro m client p h x ids hids
    rw [ConnectionMetadata.idsOf_removeIf] at hids
    split at hids
    next hx =>
      subst hx
      exact h x (List.mem_of_mem_filter hids)
    next => exact h x hids
  removeClient := by
    intro m client h x ids hids
    rw [ConnectionMetadata.idsOf_removeClient] at hids
    split at hids
    · cases hids
    · exact h x hids

namespace Endpoint

variable {env : Env ι} {n n' : Endpoint ι} {out : List (Effect ι)}

theorem idsOf_step_of_isFrom {event : Event ι} (h : n.step env event = some (n', out))
    (hevent : event.isFrom fun _ msg => msg.maps fun _ => False) :
    ∀ x, n'.binding.idMapping.idsOf x ⊆ n.binding.idMapping.idsOf x :=
  (shrinks_rule n.binding.idMapping).invariant.step hevent (fun _ => List.Subset.refl _) h

theorem idsOf_step_connectService {client : ι} {key : Key} {r : Nat}
    {metadata : SharedMemoryMetadata}
    (h : n.step env (.receive client (.connectService key r metadata true)) = some (n', out)) :
    ∃ created : List Ids, (∀ ids ∈ created, ids.remoteMetadata = metadata) ∧
      ∀ x, n'.binding.idMapping.idsOf x =
        n.binding.idMapping.idsOf x ++ if x = client then created else [] := by
  obtain ⟨m, effects, hact, hperform⟩ := step_eq_some.1 h
  obtain ⟨b, hb, rfl⟩ := setBinding_eq_some.1 (act_receive_eq_some.1 hact).2
  obtain ⟨localMetadata, state, -, -, rfl, rfl⟩ := Binding.handleConnectServiceMessage_true hb
  rw [perform_inert] at hperform
  · cases hperform
    refine ⟨[⟨key, n.binding.nextLocalId, r, localMetadata, metadata⟩], by simp, fun x => ?_⟩
    by_cases hx : x = client
    · simp [Binding.addMapping, hx]
    · simp [Binding.addMapping, hx]
  · intro e he
    rcases List.mem_append.1 he with he | he
    · exact Binding.isInert_of_mem_addMapping he
    · rw [List.mem_singleton.1 he]
      rfl

/-- The mappings of a step are those that a message announced. -/
theorem idsOf_step_receive {client : ι} {msg : Message}
    (h : n.step env (.receive client msg) = some (n', out)) :
    (n.binding.announced client msg = none ∧
      ∀ x, n'.binding.idMapping.idsOf x ⊆ n.binding.idMapping.idsOf x) ∨
    ∃ metadata, n.binding.announced client msg = some metadata ∧
      ∃ created : List Ids, (∀ ids ∈ created, ids.remoteMetadata = metadata) ∧
        ∀ x, n'.binding.idMapping.idsOf x =
          n.binding.idMapping.idsOf x ++ if x = client then created else [] := by
  have hshrinks : (msg.maps fun _ => False) →
      ∀ x, n'.binding.idMapping.idsOf x ⊆ n.binding.idMapping.idsOf x :=
    fun hmaps => idsOf_step_of_isFrom h hmaps
  cases msg with
  | connectService key r metadata inUse =>
      cases inUse with
      | false => exact .inl ⟨rfl, hshrinks trivial⟩
      | true => exact .inr ⟨metadata, rfl, idsOf_step_connectService h⟩
  | connectServiceReply r l metadata counts =>
      obtain ⟨rfl, -⟩ | ⟨key, hpending, -, -, created, -, hcreated, hids⟩ :=
        step_connectServiceReply h
      · cases hannounced : n'.binding.announced client (.connectServiceReply r l metadata counts) with
        | none => exact .inl ⟨rfl, fun x => List.Subset.refl _⟩
        | some announced => exact .inr ⟨announced, rfl, [], by simp, by simp⟩
      · have hannounced : n.binding.announced client (.connectServiceReply r l metadata counts) =
            some metadata := by
          simp [Binding.announced, hpending]
        exact .inr ⟨metadata, hannounced, created, fun ids hmem => (hcreated ids hmem).2.2, hids⟩
  | connect | connectReply | requestService | offerService | subscribeEvent | eventUpdate
  | payloadConsumed => exact .inl ⟨rfl, hshrinks trivial⟩

theorem readOnlyManagers_step {event : Event ι}
    (hevent : event.isFrom fun _ msg => msg.isEventUpdate = false)
    (h : n.step env event = some (n', out)) :
    n'.binding.readOnlyManagers = n.binding.readOnlyManagers :=
  (Binding.managers_rule (· = n.binding.readOnlyManagers)).step hevent rfl h

/-- An event update leaves what `get_read_only_shared_memory_slot_manager` leaves. -/
theorem readOnlyManagers_step_eventUpdate {client : ι} {r eventId : Nat}
    {handle : SharedMemoryHandle}
    (h : n.step env (.receive client (.eventUpdate r eventId handle)) = some (n', out)) :
    n'.binding.readOnlyManagers =
      (n.binding.readFrom client r).elim n.binding.readOnlyManagers fun ids =>
        (n.binding.readOnlyManagers.getReadOnlySharedMemorySlotManager ids.remoteMetadata).2 := by
  obtain ⟨m, effects, hact, hperform⟩ := step_eq_some.1 h
  have hm : n'.binding.readOnlyManagers = m.binding.readOnlyManagers :=
    (Binding.managers_rule (· = m.binding.readOnlyManagers)).toSectionRule.perform rfl hperform
  obtain ⟨b, hb, rfl⟩ := setBinding_eq_some.1 (act_receive_eq_some.1 hact).2
  rw [hm]
  exact Binding.readOnlyManagers_handleEventUpdateMessage hb

end Endpoint

/-! ## Runs -/

namespace Binding

variable {b : Binding ι} {client : ι} {r : Nat} {ids : Ids} {path : Bytes}

theorem mem_idsOf_of_readFrom (h : b.readFrom client r = some ids) :
    ids ∈ b.idMapping.idsOf client := by
  simp only [readFrom, Option.bind_eq_bind, Option.bind_eq_some_iff] at h
  obtain ⟨found, hfound, state, -, connector, -, hids⟩ := h
  cases hids
  exact List.mem_of_find?_eq_some hfound

theorem path_ne_of_isMapped (h : b.isMapped path = false) (hids : ids ∈ b.idMapping.idsOf client) :
    ids.remoteMetadata.path ≠ path := by
  intro heq
  unfold ConnectionMetadata.idsOf at hids
  cases hlookup : b.idMapping.idToKey.lookup client with
  | none =>
      rw [hlookup] at hids
      cases hids
  | some idsVec =>
      rw [hlookup] at hids
      have hmapped : b.isMapped path = true := by
        refine List.any_eq_true.2 ⟨⟨client, idsVec⟩, Table.mem_of_lookup_eq_some hlookup, ?_⟩
        exact List.any_eq_true.2 ⟨ids, hids, decide_eq_true heq⟩
      rw [h] at hmapped
      cases hmapped

omit [DecidableEq ι] in
theorem pool_of_isOpened {metadata : SharedMemoryMetadata}
    (h : b.readOnlyManagers.lookup ids.remoteMetadata.path = some metadata) :
    b.pool ids = metadata := by
  simp [Binding.pool, ReadOnlyMemoryManagers.getReadOnlySharedMemorySlotManager, h]

omit [DecidableEq ι] in
theorem pool_of_not_isOpened (h : b.readOnlyManagers.lookup ids.remoteMetadata.path = none) :
    b.pool ids = ids.remoteMetadata := by
  simp [Binding.pool, ReadOnlyMemoryManagers.getReadOnlySharedMemorySlotManager, h]

end Binding

namespace MemoryHistory

variable {s s' : MemoryHistory ι}

/-- Every path that the endpoint maps or has opened still belongs to the object it
was announced or opened with. -/
structure Current (s : MemoryHistory ι) : Prop where
  directory : ∀ path object, s.directory.lookup path = some object →
    s.newest.lookup path = some object
  mapped : ∀ client, ∀ ids ∈ s.endpoint.binding.idMapping.idsOf client,
    s.newest.lookup ids.remoteMetadata.path = some (s.provider client ids) ∧
      s.objects[s.provider client ids]? = some ids.remoteMetadata
  opened : ∀ path metadata, s.endpoint.binding.readOnlyManagers.lookup path = some metadata →
    s.newest.lookup path = some (s.opened path) ∧ s.objects[s.opened path]? = some metadata

theorem Current.init : Current ({} : MemoryHistory ι) where
  directory := by simp
  mapped := by simp
  opened := by simp

theorem Current.object_eq (h : s.Current) {client : ι} {ids : Ids} {object : Nat}
    (hids : ids ∈ s.endpoint.binding.idMapping.idsOf client)
    (hobject : s.object ids = some object) : object = s.provider client ids := by
  obtain ⟨hnewest, -⟩ := h.mapped client ids hids
  have hobject' : s.newest.lookup ids.remoteMetadata.path = some object := by
    unfold MemoryHistory.object at hobject
    split at hobject
    next hopened =>
      obtain ⟨metadata, hmetadata⟩ := Option.isSome_iff_exists.1 hopened
      cases hobject
      exact (h.opened _ metadata hmetadata).1
    next => exact h.directory _ _ hobject
  rw [hnewest] at hobject'
  exact (Option.some.inj hobject').symm

theorem Current.pool_eq (h : s.Current) {client : ι} {ids : Ids}
    (hids : ids ∈ s.endpoint.binding.idMapping.idsOf client) :
    s.endpoint.binding.pool ids = ids.remoteMetadata := by
  obtain ⟨hnewest, hobject⟩ := h.mapped client ids hids
  cases hlookup : s.endpoint.binding.readOnlyManagers.lookup ids.remoteMetadata.path with
  | none => exact Binding.pool_of_not_isOpened hlookup
  | some metadata =>
      obtain ⟨hnewest', hobject'⟩ := h.opened _ metadata hlookup
      rw [hnewest] at hnewest'
      rw [← Option.some.inj hnewest', hobject] at hobject'
      rw [Binding.pool_of_isOpened hlookup, Option.some.inj hobject']

theorem Current.readsProvider (h : s.Current) : s.ReadsProvider := by
  intro client requiredId ids object hread hobject
  have hids := Binding.mem_idsOf_of_readFrom hread
  refine ⟨h.object_eq hids hobject, ?_⟩
  rw [h.pool_eq hids]
  exact ⟨rfl, rfl⟩

/-- A new object takes a path that nothing of the endpoint refers to. -/
theorem Current.create (h : s.Current) {metadata : SharedMemoryMetadata}
    (hfresh : s.fresh (.create metadata) = true) (hnext : s.next (.create metadata) = some s') :
    s'.Current := by
  simp only [next] at hnext
  split at hnext
  · cases hnext
    exact h
  · cases hnext
    simp only [fresh, Bool.and_eq_true, Bool.not_eq_true'] at hfresh
    obtain ⟨hopened, hmapped⟩ := hfresh
    have hold : ∀ {object : Nat} {m : SharedMemoryMetadata}, s.objects[object]? = some m →
        (s.objects ++ [metadata])[object]? = some m := by
      intro object m hm
      rw [List.getElem?_append_left (List.getElem?_eq_some_iff.1 hm).1]
      exact hm
    constructor
    case directory =>
      intro path object hlookup
      simp only [Table.lookup_insert_ite] at hlookup ⊢
      split at hlookup
      next hpath => rw [if_pos hpath, hlookup]
      next hpath =>
        rw [if_neg hpath]
        exact h.directory path object hlookup
    case mapped =>
      intro client ids hids
      obtain ⟨hnewest, hobject⟩ := h.mapped client ids hids
      have hpath := Binding.path_ne_of_isMapped hmapped hids
      refine ⟨?_, hold hobject⟩
      simp only [Table.lookup_insert_ite]
      rwa [if_neg hpath]
    case opened =>
      intro path m hm
      obtain ⟨hnewest, hobject⟩ := h.opened path m hm
      have hpath : path ≠ metadata.path := by
        rintro rfl
        rw [Binding.isOpened, hm] at hopened
        cases hopened
      refine ⟨?_, hold hobject⟩
      simp only [Table.lookup_insert_ite]
      rwa [if_neg hpath]

theorem Current.unlink (h : s.Current) (path : Bytes) :
    Current { s with directory := s.directory.erase path } where
  directory := by
    intro path' object hlookup
    rw [Table.lookup_erase_ite] at hlookup
    split at hlookup
    · cases hlookup
    · exact h.directory path' object hlookup
  mapped := h.mapped
  opened := h.opened

section Step

variable {env : Env ι} {event : Event ι} {object : Nat} {n' : Endpoint ι}
  {out : List (Effect ι)} {opened : Bytes → Nat}

theorem Current.mapped_step (h : s.Current)
    (hallowed : s.allowed (.step env event object) = true)
    (hfresh : s.fresh (.step env event object) = true)
    (hstep : s.endpoint.step env event = some (n', out)) :
    ∀ x, ∀ ids ∈ n'.binding.idMapping.idsOf x,
      s.newest.lookup ids.remoteMetadata.path = some (s.announces n' object event x ids) ∧
        s.objects[s.announces n' object event x ids]? = some ids.remoteMetadata := by
  intro x ids hids
  cases event with
  | receive client msg =>
      obtain ⟨hnone, hsub⟩ | ⟨metadata, hannounced, created, hcreated, hadded⟩ :=
        Endpoint.idsOf_step_receive hstep
      · simp only [announces, hnone, Option.isSome_none, Bool.false_eq_true, false_and, if_false]
        exact h.mapped x ids (hsub x hids)
      · simp only [allowed, hannounced, Option.all_some, decide_eq_true_eq] at hallowed
        simp only [fresh, hannounced, Option.all_some, decide_eq_true_eq] at hfresh
        have hdrop : (n'.binding.idMapping.idsOf client).drop
            (s.endpoint.binding.idMapping.idsOf client).length = created := by
          rw [hadded client, if_pos rfl, List.drop_left]
        simp only [announces, hdrop]
        split
        next hnew =>
          rw [hcreated ids hnew.2.2]
          exact ⟨hfresh, hallowed⟩
        next hnew =>
          rw [hadded x] at hids
          rcases List.mem_append.1 hids with hids | hids
          · exact h.mapped x ids hids
          · split at hids
            next hx => exact absurd ⟨by rw [hannounced]; rfl, hx, hids⟩ hnew
            next => cases hids
  | makeClientConnector | destroyClientConnector | makeServerConnector | destroyServerConnector
  | enableServerConnector | disableServerConnector | subscribeEvent | unsubscribeEvent | updateEvent
  | dropPayload | addClient | removeClient | finishReply =>
      exact h.mapped x ids (Endpoint.idsOf_step_of_isFrom hstep trivial x hids)

/-- The manager of a mapping's path is on the object of the mapping, whether it was
there or is opened now. -/
theorem Current.opened_get (h : s.Current) {client : ι} {ids : Ids}
    (hids : ids ∈ s.endpoint.binding.idMapping.idsOf client)
    (hobject : s.object ids = some object) :
    ∀ path metadata,
      (s.endpoint.binding.readOnlyManagers.getReadOnlySharedMemorySlotManager
        ids.remoteMetadata).2.lookup path = some metadata →
      s.newest.lookup path =
          some (Function.update s.opened ids.remoteMetadata.path object path) ∧
        s.objects[Function.update s.opened ids.remoteMetadata.path object path]? =
          some metadata := by
  intro path metadata hlookup
  obtain ⟨hnewest, hpool⟩ := h.mapped client ids hids
  have hprovider := h.object_eq hids hobject
  by_cases hpath : path = ids.remoteMetadata.path
  · subst hpath
    rw [Function.update_self, hprovider]
    refine ⟨hnewest, ?_⟩
    have hmetadata : metadata = ids.remoteMetadata := by
      simp only [ReadOnlyMemoryManagers.getReadOnlySharedMemorySlotManager] at hlookup
      split at hlookup
      next found hfound =>
        rw [← h.pool_eq hids, Binding.pool_of_isOpened hfound]
        exact Option.some.inj (hlookup.symm.trans hfound)
      next =>
        rw [Table.lookup_insert_ite, if_pos rfl] at hlookup
        exact (Option.some.inj hlookup).symm
    rw [hmetadata]
    exact hpool
  · rw [Function.update_of_ne hpath]
    apply h.opened path metadata
    simp only [ReadOnlyMemoryManagers.getReadOnlySharedMemorySlotManager] at hlookup
    split at hlookup
    · exact hlookup
    · rwa [Table.lookup_insert_ite, if_neg hpath] at hlookup

theorem Current.opened_step (h : s.Current) (hopens : s.opens event = some opened)
    (hstep : s.endpoint.step env event = some (n', out)) :
    ∀ path metadata, n'.binding.readOnlyManagers.lookup path = some metadata →
      s.newest.lookup path = some (opened path) ∧ s.objects[opened path]? = some metadata := by
  have hkept : (event.isFrom fun _ msg => msg.isEventUpdate = false) → opened = s.opened →
      ∀ path metadata, n'.binding.readOnlyManagers.lookup path = some metadata →
        s.newest.lookup path = some (opened path) ∧ s.objects[opened path]? = some metadata := by
    intro hevent heq path metadata hlookup
    rw [Endpoint.readOnlyManagers_step hevent hstep] at hlookup
    rw [heq]
    exact h.opened path metadata hlookup
  cases event with
  | receive client msg =>
      cases msg with
      | eventUpdate r eventId handle =>
          have hmanagers := Endpoint.readOnlyManagers_step_eventUpdate hstep
          simp only [opens] at hopens
          cases hread : s.endpoint.binding.readFrom client r with
          | none =>
              simp only [hread, Option.elim_none] at hmanagers
              simp only [hread, Option.some.injEq] at hopens
              rw [hmanagers, ← hopens]
              exact h.opened
          | some ids =>
              simp only [hread, Option.elim_some] at hmanagers
              simp only [hread] at hopens
              obtain ⟨object, hobject, rfl⟩ := Option.map_eq_some_iff.1 hopens
              rw [hmanagers]
              exact h.opened_get (Binding.mem_idsOf_of_readFrom hread) hobject
      | connect | connectReply | requestService | offerService | connectService
      | connectServiceReply | subscribeEvent | payloadConsumed =>
          exact hkept rfl (Option.some.inj hopens).symm
  | makeClientConnector | destroyClientConnector | makeServerConnector | destroyServerConnector
  | enableServerConnector | disableServerConnector | subscribeEvent | unsubscribeEvent | updateEvent
  | dropPayload | addClient | removeClient | finishReply => exact hkept trivial (Option.some.inj hopens).symm

end Step

theorem Current.next {label : Label ι} (h : s.Current) (hallowed : s.allowed label = true)
    (hfresh : s.fresh label = true) (hnext : s.next label = some s') : s'.Current := by
  cases label with
  | create metadata => exact h.create hfresh hnext
  | unlink path =>
      cases hnext
      exact h.unlink path
  | step env event object =>
      simp only [MemoryHistory.next, Option.bind_eq_bind, Option.bind_eq_some_iff, Prod.exists,
        Option.some.injEq] at hnext
      obtain ⟨opened, hopens, n', out, hstep, rfl⟩ := hnext
      exact ⟨h.directory, h.mapped_step hallowed hfresh hstep, h.opened_step hopens hstep⟩

/-- In every history in which no path is used again that the endpoint still knows,
every event update reads the pool that its provider created. -/
theorem reads_provider_pool
    (h : Reach next (fun s label => s.allowed label = true ∧ s.fresh label = true) {} s) :
    s.ReadsProvider :=
  (Reach.invariant Current.init (fun _ _ _ hs hok hnext => hs.next hok.1 hok.2 hnext)
    h).readsProvider

section Histories

open Endpoint (someKey someEnv)

/-- A provider connects as `client`, offers the service and announces its pool. -/
def providerConnects (client requiredId object : Nat) (metadata : SharedMemoryMetadata) :
    List (Label Nat) :=
  [.step someEnv (.addClient client) 0,
    .step someEnv (.receive client (.offerService (someKey 0) true)) 0,
    .step someEnv (.receive client (.connectServiceReply requiredId 7 metadata ⟨0, 1⟩)) object,
    .step someEnv (.finishReply client) 0]

/-- A provider that restarts with larger slots before it is connected to is read
where it is. -/
theorem reads_provider_pool_of_early_restart :
    ∃ s : MemoryHistory Nat,
      Reach next (fun s label => s.allowed label = true ∧ s.fresh label = true) {} s ∧
      ((s.endpoint.binding.readFrom 1 1).any fun ids => s.object ids = some 1) = true ∧
      s.ReadsProvider := by
  obtain ⟨s, hreach, hread⟩ := exists_reach_of_runFrom next
    (fun s label => s.allowed label = true ∧ s.fresh label = true) {}
    ([.create ⟨[0], 8, 4⟩, .create ⟨[0], 16, 4⟩,
      .step someEnv (.makeClientConnector (someKey 0) {}) 0] ++
      providerConnects 1 1 1 ⟨[0], 16, 4⟩ ++
      [.step someEnv (.receive 1 (.eventUpdate 1 0 ⟨0, 16⟩)) 0])
    (fun s => (s.endpoint.binding.readFrom 1 1).any fun ids => s.object ids = some 1)
    (by decide)
  exact ⟨s, hreach, hread, reads_provider_pool hreach⟩

/-- The provider is read once, restarts with larger slots under the same path and
connects again. The next event update reads the object that is gone, with the old
slot size. -/
theorem reads_replaced_pool :
    ∃ s : MemoryHistory Nat, Reach next (fun s label => s.allowed label = true) {} s ∧
      (∃ ids, s.endpoint.binding.readFrom 2 2 = some ids ∧ s.object ids = some 0 ∧
        s.provider 2 ids = 1 ∧ (s.endpoint.binding.pool ids).slotSize = 8 ∧
        ids.remoteMetadata.slotSize = 16) ∧
      ¬ s.ReadsProvider := by
  obtain ⟨s, hreach, hread⟩ := exists_reach_of_runFrom next
    (fun s label => s.allowed label = true) {}
    ([.create ⟨[0], 8, 4⟩, .step someEnv (.makeClientConnector (someKey 0) {}) 0] ++
      providerConnects 1 1 0 ⟨[0], 8, 4⟩ ++
      [.step someEnv (.receive 1 (.eventUpdate 1 0 ⟨0, 8⟩)) 0,
        .step someEnv (.removeClient 1) 0, .create ⟨[0], 16, 4⟩] ++
      providerConnects 2 2 1 ⟨[0], 16, 4⟩)
    (fun s => (s.endpoint.binding.readFrom 2 2).any fun ids =>
      s.object ids = some 0 && s.provider 2 ids = 1 &&
        (s.endpoint.binding.pool ids).slotSize = 8 && ids.remoteMetadata.slotSize = 16)
    (by decide)
  obtain ⟨ids, hids, hread⟩ := (Option.any_eq_true _ _).1 hread
  simp only [Bool.and_eq_true, decide_eq_true_eq] at hread
  obtain ⟨⟨⟨hobject, hprovider⟩, hpool⟩, hsize⟩ := hread
  refine ⟨s, hreach, ⟨ids, hids, hobject, hprovider, hpool, hsize⟩, fun hreads => ?_⟩
  obtain ⟨heq, -⟩ := hreads 2 2 ids 0 hids hobject
  rw [hprovider] at heq
  cases heq

end Histories

end MemoryHistory

end SomeipGateway
