import Mathlib.Data.List.Basic
import Mathlib.Data.List.Perm.Basic
import SomeipGateway.Binding.Message
import SomeipGateway.Lib.Run

/-! # The string registry

`String_registry` keeps one view per string content, so that its views can be
compared by pointer. Views of literals point into memory of the caller, all other
strings are copied into nodes of a list. The overload for a moved string looks
for an entry by reading the memory of each entry up to the first NUL instead of
comparing contents.
-/

namespace SomeipGateway

namespace Socom

/-- The start of a view: a place in a literal, or the string of a list node. -/
inductive Pointer where
  | literal (object offset : Nat)
  | node (index : Nat)
deriving DecidableEq, Repr

structure StringView where
  data : Pointer
  length : Nat
deriving DecidableEq, Repr

/-- `m_registered_strings` in some order, and `m_dynamic_allocated` with the first
string first. -/
structure StringRegistry where
  registeredStrings : List StringView := []
  dynamicAllocated : List Bytes := []

/-- The bytes that a `const char*` compares as. Without a NUL the comparison reads
past the end of the object. -/
def cString (memory : Bytes) : Option Bytes :=
  if 0 ∈ memory then some (memory.takeWhile (· ≠ 0)) else none

namespace StringRegistry

-- the bytes of every literal, with its terminator if it has one
variable (literals : Nat → Bytes)

/-- The memory from a pointer to the end of the object. -/
def readFrom (σ : StringRegistry) : Pointer → Bytes
  | .literal object offset => (literals object).drop offset
  | .node index => σ.dynamicAllocated[index]?.getD [] ++ [0]

def content (σ : StringRegistry) (view : StringView) : Bytes :=
  (σ.readFrom literals view.data).take view.length

/-- `find` of the unordered set. -/
def find (σ : StringRegistry) (string : Bytes) : Option StringView :=
  σ.registeredStrings.find? fun entry => σ.content literals entry = string

/-- `emplace` and `insert` of the unordered set. -/
def emplace (σ : StringRegistry) (view : StringView) : StringRegistry × StringView × Bool :=
  match σ.find literals (σ.content literals view) with
  | some entry => (σ, entry, false)
  | none => ({ σ with registeredStrings := view :: σ.registeredStrings }, view, true)

/-- `emplace_front` of the list, with the view of the new string. -/
def allocate (σ : StringRegistry) (string : Bytes) : StringRegistry × StringView :=
  ({ σ with dynamicAllocated := σ.dynamicAllocated ++ [string] },
    ⟨.node σ.dynamicAllocated.length, string.length⟩)

def insertLiteral (σ : StringRegistry) (view : StringView) : StringRegistry × StringView × Bool :=
  σ.emplace literals view

def allocateAndInsert (σ : StringRegistry) (string : Bytes) : StringRegistry × StringView × Bool :=
  (σ.allocate string).1.emplace literals (σ.allocate string).2

def insertView (σ : StringRegistry) (string : Bytes) : StringRegistry × StringView × Bool :=
  match σ.find literals string with
  | none => σ.allocateAndInsert literals string
  | some entry => (σ, entry, false)

/-- `find_if` with `entry.data() == new_string`, over the entries in the order in
which the set enumerates them. -/
def findIf (σ : StringRegistry) (string : Bytes) : List StringView → Option (Option StringView)
  | [] => some none
  | entry :: rest =>
      match cString (σ.readFrom literals entry.data) with
      | none => none
      | some read => if read = string then some (some entry) else findIf σ string rest

def insertString (σ : StringRegistry) (string : Bytes) (order : List StringView) :
    Option (StringRegistry × StringView × Bool) :=
  match σ.findIf literals string order with
  | none => none
  | some none => some (σ.allocateAndInsert literals string)
  | some (some entry) => some (σ, entry, false)

/-! ## The comparisons of views -/

def viewEq (lhs rhs : StringView) : Bool := lhs.data = rhs.data && lhs.length = rhs.length

def viewLt (σ : StringRegistry) (lhs rhs : StringView) : Bool :=
  σ.content literals lhs < σ.content literals rhs

theorem viewEq_iff {lhs rhs : StringView} : viewEq lhs rhs = true ↔ lhs = rhs := by
  obtain ⟨data, length⟩ := lhs
  obtain ⟨data', length'⟩ := rhs
  simp [viewEq]

/-! ## What an insert does -/

/-- Entries point to nodes that exist, and no two entries have the same content. -/
structure Wf (σ : StringRegistry) : Prop where
  allocated : ∀ entry ∈ σ.registeredStrings, ∀ index, entry.data = .node index →
    index < σ.dynamicAllocated.length
  distinct : ∀ entry ∈ σ.registeredStrings, ∀ entry' ∈ σ.registeredStrings,
    σ.content literals entry = σ.content literals entry' → entry = entry'

/-- The insert of a string keeps every entry, returns an entry with the content of
the string, and says whether there was none before. -/
structure Inserted (σ : StringRegistry) (string : Bytes)
    (result : StringRegistry × StringView × Bool) : Prop where
  wf : Wf literals result.1
  kept : ∀ entry ∈ σ.registeredStrings, entry ∈ result.1.registeredStrings ∧
    result.1.content literals entry = σ.content literals entry
  added : ∀ entry ∈ result.1.registeredStrings, entry = result.2.1 ∨ entry ∈ σ.registeredStrings
  returned : result.2.1 ∈ result.1.registeredStrings
  content : result.1.content literals result.2.1 = string
  fresh : result.2.2 = true ↔ ∀ entry ∈ σ.registeredStrings, σ.content literals entry ≠ string

variable {literals}

/-- An entry with the content of the string is returned as it is. -/
theorem Inserted.found {σ : StringRegistry} (h : Wf literals σ) {string : Bytes}
    {entry : StringView} (hentry : entry ∈ σ.registeredStrings)
    (hcontent : σ.content literals entry = string) : Inserted literals σ string (σ, entry, false) where
  wf := h
  kept := fun _ he => ⟨he, rfl⟩
  added := fun _ he => .inr he
  returned := hentry
  content := hcontent
  fresh := by simpa using ⟨entry, hentry, hcontent⟩

theorem find_eq_some {σ : StringRegistry} {string : Bytes} {entry : StringView}
    (h : σ.find literals string = some entry) :
    entry ∈ σ.registeredStrings ∧ σ.content literals entry = string :=
  ⟨List.mem_of_find?_eq_some h, by simpa using List.find?_some h⟩

theorem find_eq_none {σ : StringRegistry} {string : Bytes} :
    σ.find literals string = none ↔
      ∀ entry ∈ σ.registeredStrings, σ.content literals entry ≠ string := by
  simp [find]

theorem Inserted.emplace {σ : StringRegistry} (h : Wf literals σ) {view : StringView}
    (hview : ∀ index, view.data = .node index → index < σ.dynamicAllocated.length) :
    Inserted literals σ (σ.content literals view) (σ.emplace literals view) := by
  unfold StringRegistry.emplace
  cases hfind : σ.find literals (σ.content literals view) with
  | some entry =>
      obtain ⟨hentry, hcontent⟩ := find_eq_some hfind
      exact .found h hentry hcontent
  | none =>
      have hnew := find_eq_none.1 hfind
      refine ⟨⟨?_, ?_⟩, fun e he => ⟨List.mem_cons_of_mem _ he, rfl⟩,
        fun e he => List.mem_cons.1 he, List.mem_cons_self, rfl, by simpa using hnew⟩
      · intro e he
        rcases List.mem_cons.1 he with rfl | he
        · exact hview
        · exact h.allocated e he
      · intro e he e' he' heq
        rcases List.mem_cons.1 he with rfl | hold
        · rcases List.mem_cons.1 he' with rfl | hold'
          · rfl
          · exact (hnew e' hold' heq.symm).elim
        · rcases List.mem_cons.1 he' with rfl | hold'
          · exact (hnew e hold heq).elim
          · exact h.distinct e hold e' hold' heq

/-- A new node changes nothing that an entry points to. -/
theorem content_allocate {σ : StringRegistry} {string : Bytes} {view : StringView}
    (hview : ∀ index, view.data = .node index → index < σ.dynamicAllocated.length) :
    (σ.allocate string).1.content literals view = σ.content literals view := by
  obtain ⟨data, length⟩ := view
  cases data with
  | literal object offset => rfl
  | node index => simp [content, readFrom, allocate, List.getElem?_append_left (hview index rfl)]

theorem content_new_node (σ : StringRegistry) (string : Bytes) :
    (σ.allocate string).1.content literals (σ.allocate string).2 = string := by
  simp [content, readFrom, allocate]

theorem Wf.allocate {σ : StringRegistry} (h : Wf literals σ) (string : Bytes) :
    Wf literals (σ.allocate string).1 where
  allocated := fun entry hentry index hindex => by
    have hlt := h.allocated entry hentry index hindex
    simp only [StringRegistry.allocate, List.length_append, List.length_singleton]
    omega
  distinct := fun entry hentry entry' hentry' heq => by
    rw [content_allocate (h.allocated entry hentry),
      content_allocate (h.allocated entry' hentry')] at heq
    exact h.distinct entry hentry entry' hentry' heq

/-- Copying a string and inserting the copy is an insert, whether the set had the
string or not. -/
theorem Inserted.allocateAndInsert {σ : StringRegistry} (h : Wf literals σ) (string : Bytes) :
    Inserted literals σ string (σ.allocateAndInsert literals string) := by
  have hnode : ∀ index, (σ.allocate string).2.data = .node index →
      index < (σ.allocate string).1.dynamicAllocated.length := by
    intro index hindex
    cases hindex
    simp [StringRegistry.allocate]
  have hinserted := Inserted.emplace (h.allocate string) hnode
  rw [content_new_node] at hinserted
  refine ⟨hinserted.wf, fun entry hentry => ?_, hinserted.added, hinserted.returned,
    hinserted.content, hinserted.fresh.trans ?_⟩
  · obtain ⟨hmem, hcontent⟩ := hinserted.kept entry hentry
    exact ⟨hmem, hcontent.trans (content_allocate (h.allocated entry hentry))⟩
  · refine forall₂_congr fun entry hentry => ?_
    rw [content_allocate (h.allocated entry hentry)]

theorem Inserted.insertView {σ : StringRegistry} (h : Wf literals σ) (string : Bytes) :
    Inserted literals σ string (σ.insertView literals string) := by
  unfold StringRegistry.insertView
  cases hfind : σ.find literals string with
  | none => exact .allocateAndInsert h string
  | some entry =>
      obtain ⟨hentry, hcontent⟩ := find_eq_some hfind
      exact .found h hentry hcontent

/-- Every entry reads up to a NUL, and one that reads as the string has it as its
content. -/
def ReadsAsContent (literals : Nat → Bytes) (σ : StringRegistry) (string : Bytes) : Prop :=
  ∀ entry ∈ σ.registeredStrings, ∃ read, cString (σ.readFrom literals entry.data) = some read ∧
    (read = string → σ.content literals entry = string)

theorem findIf_of_readsAsContent {σ : StringRegistry} {string : Bytes}
    (hreads : ReadsAsContent literals σ string) {order : List StringView}
    (horder : ∀ entry ∈ order, entry ∈ σ.registeredStrings) :
    ∃ found, σ.findIf literals string order = some found ∧
      ∀ entry ∈ found, entry ∈ σ.registeredStrings ∧ σ.content literals entry = string := by
  induction order with
  | nil => exact ⟨none, rfl, nofun⟩
  | cons entry rest ih =>
      obtain ⟨read, hread, hcontent⟩ := hreads entry (horder entry List.mem_cons_self)
      simp only [findIf, hread]
      split
      next heq =>
        refine ⟨some entry, rfl, fun e he => ?_⟩
        cases Option.mem_some_iff.1 he
        exact ⟨horder entry List.mem_cons_self, hcontent heq⟩
      next => exact ih fun e he => horder e (List.mem_cons_of_mem _ he)

theorem Inserted.insertString {σ : StringRegistry} (h : Wf literals σ) {string : Bytes}
    (hreads : ReadsAsContent literals σ string) {order : List StringView}
    (horder : order.Perm σ.registeredStrings) :
    ∃ result, σ.insertString literals string order = some result ∧
      Inserted literals σ string result := by
  obtain ⟨found, hfound, hentry⟩ :=
    findIf_of_readsAsContent hreads fun entry he => horder.mem_iff.1 he
  cases found with
  | none =>
      refine ⟨_, ?_, .allocateAndInsert h string⟩
      simp [StringRegistry.insertString, hfound]
  | some entry =>
      obtain ⟨hmem, hcontent⟩ := hentry entry rfl
      refine ⟨_, ?_, .found h hmem hcontent⟩
      simp [StringRegistry.insertString, hfound]

/-! ## Sequences of inserts -/

/-- A call of one of the three overloads. The set enumerates its entries in an
order of its own, which the last overload can see. -/
inductive Insert where
  | literal (object offset length : Nat)
  | view (string : Bytes)
  | string (string : Bytes) (order : List StringView)
deriving DecidableEq, Repr

/-- A returned pair, with the content of the string that was inserted. -/
structure Result where
  inserted : Bytes
  view : StringView
  fresh : Bool
deriving DecidableEq, Repr

/-- A registry with the results of its inserts, the last one first. -/
structure Log where
  registry : StringRegistry := {}
  results : List Result := []

def Log.record (log : Log) (string : Bytes) (result : StringRegistry × StringView × Bool) : Log :=
  ⟨result.1, ⟨string, result.2.1, result.2.2⟩ :: log.results⟩

/-- A view of a literal lies inside it, and an order lists the entries of the set. -/
def Insert.IsCall (literals : Nat → Bytes) (σ : StringRegistry) : Insert → Prop
  | .literal object offset length => offset + length ≤ (literals object).length
  | .view _ => True
  | .string _ order => order.Perm σ.registeredStrings

instance (literals : Nat → Bytes) (σ : StringRegistry) :
    (insert : Insert) → Decidable (insert.IsCall literals σ)
  | .literal object offset length =>
      inferInstanceAs (Decidable (offset + length ≤ (literals object).length))
  | .view _ => inferInstanceAs (Decidable True)
  | .string _ order => inferInstanceAs (Decidable (order.Perm σ.registeredStrings))

def Log.perform (literals : Nat → Bytes) (log : Log) : Insert → Option Log
  | .literal object offset length =>
      let view : StringView := ⟨.literal object offset, length⟩
      some (log.record (log.registry.content literals view)
        (log.registry.insertLiteral literals view))
  | .view string => some (log.record string (log.registry.insertView literals string))
  | .string string order =>
      (log.registry.insertString literals string order).map (log.record string)

def Log.next (literals : Nat → Bytes) (log : Log) (insert : Insert) : Option Log :=
  if insert.IsCall literals log.registry then log.perform literals insert else none

/-- The overload for a moved string is called only when no entry reads up to its
first NUL as the string without having it as its content. -/
def readsMoved (literals : Nat → Bytes) (log : Log) : Insert → Prop
  | .string string _ => ReadsAsContent literals log.registry string
  | _ => True

/-- Every call that meets the condition returns, and it is an insert. -/
theorem exists_inserted {log : Log} (h : Wf literals log.registry) {insert : Insert}
    (hcall : insert.IsCall literals log.registry) (hreads : readsMoved literals log insert) :
    ∃ string result, log.next literals insert = some (log.record string result) ∧
      Inserted literals log.registry string result := by
  rw [Log.next, if_pos hcall]
  cases insert with
  | literal object offset length => exact ⟨_, _, rfl, .emplace h nofun⟩
  | view string => exact ⟨_, _, rfl, .insertView h string⟩
  | string string order =>
      obtain ⟨result, hresult, hinserted⟩ := Inserted.insertString h hreads hcall
      exact ⟨string, result, by simp [Log.perform, hresult], hinserted⟩

/-- What the results say about the registry: the entries are the contents inserted
so far, each result has its own content, and only the first of a content is fresh. -/
structure Log.Canonical (literals : Nat → Bytes) (log : Log) : Prop where
  wf : Wf literals log.registry
  entry : ∀ result ∈ log.results, result.view ∈ log.registry.registeredStrings ∧
    log.registry.content literals result.view = result.inserted
  listed : ∀ entry ∈ log.registry.registeredStrings, ∃ result ∈ log.results,
    result.inserted = log.registry.content literals entry
  fresh : ∀ later result earlier, log.results = later ++ result :: earlier →
    (result.fresh = true ↔ ∀ other ∈ earlier, other.inserted ≠ result.inserted)

theorem Log.Canonical.record {log : Log} (h : log.Canonical literals) {string : Bytes}
    {result : StringRegistry × StringView × Bool}
    (hinserted : Inserted literals log.registry string result) :
    (log.record string result).Canonical literals := by
  refine ⟨hinserted.wf, ?_, ?_, ?_⟩
  · intro r hr
    rcases List.mem_cons.1 hr with rfl | hr
    · exact ⟨hinserted.returned, hinserted.content⟩
    · obtain ⟨hmem, hcontent⟩ := h.entry r hr
      obtain ⟨hmem', hcontent'⟩ := hinserted.kept r.view hmem
      exact ⟨hmem', hcontent'.trans hcontent⟩
  · intro entry hentry
    rcases hinserted.added entry hentry with rfl | hold
    · exact ⟨_, List.mem_cons_self, hinserted.content.symm⟩
    · obtain ⟨r, hr, hinsertedr⟩ := h.listed entry hold
      exact ⟨r, List.mem_cons_of_mem _ hr, hinsertedr.trans (hinserted.kept entry hold).2.symm⟩
  · intro later r earlier hsplit
    cases later with
    | cons _ later =>
        exact h.fresh later r earlier (List.cons.inj hsplit).2
    | nil =>
        obtain ⟨rfl, rfl⟩ := List.cons.inj hsplit
        refine hinserted.fresh.trans ⟨fun hnone q hq heq => ?_, fun hnone entry hentry heq => ?_⟩
        · obtain ⟨hmem, hcontent⟩ := h.entry q hq
          exact hnone q.view hmem (hcontent.trans heq)
        · obtain ⟨q, hq, hcontent⟩ := h.listed entry hentry
          exact hnone q hq (hcontent.trans heq)

theorem Log.canonical_empty : Log.Canonical literals {} where
  wf := ⟨by simp, by simp⟩
  entry := by simp
  listed := by simp
  fresh := by simp

theorem Log.Canonical.reachable {log : Log}
    (h : Reach (Log.next literals) (readsMoved literals) {} log) : log.Canonical literals := by
  refine Reach.invariant Log.canonical_empty (fun s insert s' hs hreads hnext => ?_) h
  have hcall : insert.IsCall literals s.registry := by
    by_contra hcall
    rw [Log.next, if_neg hcall] at hnext
    cases hnext
  obtain ⟨string, result, hresult, hinserted⟩ := exists_inserted hs.wf hcall hreads
  rw [hresult] at hnext
  cases hnext
  exact hs.record hinserted

/-- Neither of two contents is less than the other exactly when they are equal. -/
theorem eq_iff_not_viewLt (σ : StringRegistry) (lhs rhs : StringView) :
    σ.content literals lhs = σ.content literals rhs ↔
      σ.viewLt literals lhs rhs = false ∧ σ.viewLt literals rhs lhs = false := by
  simp only [viewLt, decide_eq_false_iff_not, List.not_lt]
  exact ⟨fun heq => ⟨heq ▸ List.le_refl _, heq ▸ List.le_refl _⟩,
    fun ⟨hge, hle⟩ => List.le_antisymm hle hge⟩

/-- In every sequence of inserts in which no moved string meets an entry that reads
as the string but has another content, every insert returns; each result has the
content of its string and is fresh exactly when it is the first of that content;
and returned views are equal exactly when their contents are, as for `operator<`. -/
theorem interning_canonical {log : Log}
    (h : Reach (Log.next literals) (readsMoved literals) {} log) :
    (∀ insert : Insert, insert.IsCall literals log.registry → readsMoved literals log insert →
      (log.next literals insert).isSome = true) ∧
    (∀ later result earlier, log.results = later ++ result :: earlier →
      log.registry.content literals result.view = result.inserted ∧
      (result.fresh = true ↔ ∀ other ∈ earlier, other.inserted ≠ result.inserted)) ∧
    ∀ lhs ∈ log.results, ∀ rhs ∈ log.results,
      (viewEq lhs.view rhs.view = true ↔
        log.registry.content literals lhs.view = log.registry.content literals rhs.view) ∧
      (viewEq lhs.view rhs.view = true ↔
        log.registry.viewLt literals lhs.view rhs.view = false ∧
          log.registry.viewLt literals rhs.view lhs.view = false) := by
  have hcanonical := Log.Canonical.reachable h
  refine ⟨fun insert hcall hreads => ?_, fun later result earlier hsplit => ⟨?_, ?_⟩,
    fun lhs hlhs rhs hrhs => ?_⟩
  · obtain ⟨string, result, hresult, -⟩ := exists_inserted hcanonical.wf hcall hreads
    simp [hresult]
  · exact (hcanonical.entry result (by simp [hsplit])).2
  · exact hcanonical.fresh later result earlier hsplit
  · have hequal : viewEq lhs.view rhs.view = true ↔
        log.registry.content literals lhs.view = log.registry.content literals rhs.view := by
      rw [viewEq_iff]
      exact ⟨fun heq => by rw [heq], hcanonical.wf.distinct _ (hcanonical.entry lhs hlhs).1 _
        (hcanonical.entry rhs hrhs).1⟩
    exact ⟨hequal, hequal.trans (eq_iff_not_viewLt log.registry lhs.view rhs.view)⟩

/-- One literal, `abc` with its terminator. -/
def abcLiteral : Nat → Bytes := fun _ => [97, 98, 99, 0]

theorem interning_canonical_copied :
    ∃ log, Reach (Log.next abcLiteral) (readsMoved abcLiteral) {} log ∧
      log.results.map Result.fresh = [false, true] ∧
      ∀ lhs ∈ log.results, ∀ rhs ∈ log.results, viewEq lhs.view rhs.view = true ↔
        log.registry.content abcLiteral lhs.view = log.registry.content abcLiteral rhs.view := by
  have hfirst : Reach (Log.next abcLiteral) (readsMoved abcLiteral) {}
      ⟨⟨[⟨.literal 0 0, 3⟩], []⟩, [⟨[97, 98, 99], ⟨.literal 0 0, 3⟩, true⟩]⟩ :=
    Reach.init.step (a := .literal 0 0 3) trivial rfl
  -- the whole literal is registered, so a moved string of the same bytes finds it
  have hreads : ReadsAsContent abcLiteral ⟨[⟨.literal 0 0, 3⟩], []⟩ [97, 98, 99] := by
    intro entry hentry
    cases List.mem_singleton.1 hentry
    exact ⟨[97, 98, 99], by decide, fun _ => by decide⟩
  have hreach := hfirst.step (a := Insert.string [97, 98, 99] [⟨.literal 0 0, 3⟩])
    hreads rfl
  exact ⟨_, hreach, rfl, fun lhs hlhs rhs hrhs =>
    ((interning_canonical hreach).2.2 lhs hlhs rhs hrhs).1⟩

/-- A view of the first two bytes of the literal is registered. The moved string
`abc` is taken for it, since the memory of the view reads as `abc`. -/
theorem moved_string_taken_for_other :
    ∃ log, Reach (Log.next abcLiteral) (fun _ _ => True) {} log ∧
      ∃ result earlier, log.results = result :: earlier ∧
        result.inserted = [97, 98, 99] ∧
        log.registry.content abcLiteral result.view = [97, 98] ∧
        result.fresh = false ∧ ∀ other ∈ earlier, other.inserted ≠ result.inserted := by
  have hfirst : Reach (Log.next abcLiteral) (fun _ _ => True) {}
      ⟨⟨[⟨.literal 0 0, 2⟩], []⟩, [⟨[97, 98], ⟨.literal 0 0, 2⟩, true⟩]⟩ :=
    Reach.init.step (a := .literal 0 0 2) trivial rfl
  have hreach := hfirst.step (a := .string [97, 98, 99] [⟨.literal 0 0, 2⟩]) trivial rfl
  exact ⟨_, hreach, _, _, rfl, rfl, by decide, rfl, by decide⟩

end StringRegistry

end Socom

end SomeipGateway
