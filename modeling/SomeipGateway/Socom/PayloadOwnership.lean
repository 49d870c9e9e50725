import SomeipGateway.Binding.SlotManager
import SomeipGateway.Lib.Run
import SomeipGateway.Lib.Sum

/-! # Who runs the callback of a payload

`Payload_impl` owns the callback that releases its memory. Moving a payload moves
the callback, an assignment runs the old one first, and the destructor runs what is
left. Objects are known by their addresses and callbacks by the number of the
constructor call that took them.
-/

namespace SomeipGateway.Socom

structure PayloadImpl where
  data : Span
  leadOffset : Nat
  headerSize : Nat
  slotHandle : Nat
  payloadDestroyed : Option Nat
deriving DecidableEq, Repr

namespace PayloadImpl

def headerEnd (payload : PayloadImpl) : Nat := (payload.leadOffset + payload.headerSize) % 2 ^ 64

/-- The result of `shrink`; `none` when the header ends past the range, which `data`
does not survive. A size above the current one is refused. -/
def shrink (payload : PayloadImpl) (size : Nat) : Option (Bool × PayloadImpl) :=
  (payload.data.subspan payload.headerEnd).map fun data =>
    if data.size < size then (false, payload)
    else
      (true, { payload with data := ⟨payload.data.offset, (payload.headerEnd + size) % 2 ^ 64⟩ })

/-- `call_payload_destroyed`, as the callbacks it runs. -/
def callPayloadDestroyed (payload : PayloadImpl) : List Nat := payload.payloadDestroyed.toList

/-- What the move of the members leaves behind. -/
def movedFrom (payload : PayloadImpl) : PayloadImpl := { payload with payloadDestroyed := none }

def owns (callback : Nat) (payload : PayloadImpl) : Bool :=
  payload.payloadDestroyed = some callback

end PayloadImpl

/-- The payload objects, how many callbacks were passed to constructors, and the
callbacks run, the latest first. -/
structure PayloadObjects where
  objects : Store Nat (Option PayloadImpl) := {}
  callbacks : Nat := 0
  runs : List Nat := []

inductive PayloadOperation where
  | construct (new : Nat) (data : Span) (slotHandle headerSize leadOffset : Nat)
      (callback : Bool)
  | moveConstruct (new other : Nat)
  | moveAssign (payload other : Nat)
  | shrink (payload size : Nat)
  | destroy (payload : Nat)

namespace PayloadObjects

/-- The constructor calls; a callback that is not empty is a new one. -/
def construct (s : PayloadObjects) (new : Nat) (data : Span)
    (slotHandle headerSize leadOffset : Nat) (callback : Bool) : PayloadObjects :=
  { s with
    objects := s.objects.set new
      (some ⟨data, leadOffset, headerSize, slotHandle, if callback then some s.callbacks else none⟩)
    callbacks := if callback then s.callbacks + 1 else s.callbacks }

/-- One operation; `none` where it names an object that does not exist, or
constructs one over another. -/
def next (s : PayloadObjects) : PayloadOperation → Option PayloadObjects
  | .construct new data slotHandle headerSize leadOffset callback =>
      match s.objects new with
      | none => some (s.construct new data slotHandle headerSize leadOffset callback)
      | some _ => none
  | .moveConstruct new other =>
      match s.objects new, s.objects other with
      | none, some p =>
          some { s with objects := (s.objects.set new (some p)).set other (some p.movedFrom) }
      | _, _ => none
  | .moveAssign payload other =>
      match s.objects payload, s.objects other with
      | some p, some p' =>
          if payload = other then some s
          else some
            { s with
              objects := (s.objects.set payload (some p')).set other (some p'.movedFrom)
              runs := p.callPayloadDestroyed ++ s.runs }
      | _, _ => none
  | .shrink payload size =>
      (s.objects payload).bind fun p =>
        (p.shrink size).map fun result =>
          { s with objects := s.objects.set payload (some result.2) }
  | .destroy payload =>
      (s.objects payload).map fun p =>
        { s with
          objects := s.objects.set payload none
          runs := p.callPayloadDestroyed ++ s.runs }

def Run (s : PayloadObjects) : Prop := Reach next (fun _ _ => True) {} s

/-- How many objects own a callback. -/
def owners (s : PayloadObjects) (callback : Nat) : Nat :=
  s.objects.count fun payload => payload.any (PayloadImpl.owns callback)

/-! ## The conservation of callbacks -/

/-- Every callback that was passed in is owned by one object, or was run once. -/
def Conserved (s : PayloadObjects) : Prop :=
  ∀ callback, s.owners callback + s.runs.count callback = (decide (callback < s.callbacks)).toNat

theorem owners_set (s : PayloadObjects) (callbacks : Nat) (runs : List Nat) (address : Nat)
    (payload : Option PayloadImpl) (callback : Nat) :
    owners ⟨s.objects.set address payload, callbacks, runs⟩ callback +
        ((s.objects address).any (PayloadImpl.owns callback)).toNat =
      s.owners callback + (payload.any (PayloadImpl.owns callback)).toNat :=
  Store.count_set rfl s.objects address payload

theorem owners_move (s : PayloadObjects) (runs : List Nat) {address other : Nat}
    (hne : other ≠ address) (payload : PayloadImpl) (callback : Nat) :
    owners ⟨(s.objects.set address (some payload)).set other (some payload.movedFrom),
        s.callbacks, runs⟩ callback +
        ((s.objects address).any (PayloadImpl.owns callback)).toNat +
        ((s.objects other).any (PayloadImpl.owns callback)).toNat =
      s.owners callback + (payload.owns callback).toNat :=
  Store.count_set_set (p := fun o : Option PayloadImpl => o.any (PayloadImpl.owns callback)) rfl
    s.objects hne (some payload) (some payload.movedFrom)

theorem count_callPayloadDestroyed (payload : PayloadImpl) (callback : Nat) :
    payload.callPayloadDestroyed.count callback = (payload.owns callback).toNat := by
  unfold PayloadImpl.callPayloadDestroyed PayloadImpl.owns
  cases payload.payloadDestroyed with
  | none => simp
  | some c => by_cases hc : c = callback <;> simp [hc]

theorem owns_shrink {payload : PayloadImpl} {size : Nat} {result : Bool × PayloadImpl}
    (h : payload.shrink size = some result) (callback : Nat) :
    result.2.owns callback = payload.owns callback := by
  obtain ⟨data, -, rfl⟩ := Option.map_eq_some_iff.1 h
  split <;> rfl

namespace Conserved

variable {s s' : PayloadObjects}

theorem construct (h : s.Conserved) {new : Nat} (hnew : s.objects new = none) (data : Span)
    (slotHandle headerSize leadOffset : Nat) (callback : Bool) :
    (s.construct new data slotHandle headerSize leadOffset callback).Conserved := by
  intro c
  have hbefore := h c
  have howners := owners_set s (if callback then s.callbacks + 1 else s.callbacks) s.runs new
    (some ⟨data, leadOffset, headerSize, slotHandle,
      if callback then some s.callbacks else none⟩) c
  rw [hnew] at howners
  simp only [Option.any_none, Bool.toNat_false, Option.any_some, Nat.add_zero] at howners
  simp only [PayloadObjects.construct, howners]
  cases callback with
  | false => simpa [PayloadImpl.owns] using hbefore
  | true =>
      -- The new callback is the only one whose owner is new.
      rcases Nat.lt_trichotomy c s.callbacks with hlt | heq | hgt
      · have hother : s.callbacks ≠ c := by omega
        simp only [hlt, decide_true, Bool.toNat_true] at hbefore
        simp [PayloadImpl.owns, hother, show c < s.callbacks + 1 by omega, hbefore]
      · simp only [heq, Nat.lt_irrefl, decide_false, Bool.toNat_false] at hbefore
        simp only [PayloadImpl.owns, heq, if_true, decide_true, Bool.toNat_true,
          Nat.lt_succ_self]
        omega
      · have hother : s.callbacks ≠ c := by omega
        have hover : ¬ c < s.callbacks := by omega
        simp only [hover, decide_false, Bool.toNat_false] at hbefore
        simp [PayloadImpl.owns, hother, show ¬ c < s.callbacks + 1 by omega]
        omega

/-- The owners of the callbacks just called are gone, all others are as before. -/
theorem of_owners (h : s.Conserved) (called : List Nat) (hcallbacks : s'.callbacks = s.callbacks)
    (hruns : s'.runs = called ++ s.runs)
    (howners : ∀ c, s'.owners c + called.count c = s.owners c) : s'.Conserved := by
  intro c
  have hbefore := h c
  have hafter := howners c
  rw [hcallbacks, hruns, List.count_append]
  omega

theorem moveConstruct (h : s.Conserved) {new other : Nat} {payload : PayloadImpl}
    (hnew : s.objects new = none) (hother : s.objects other = some payload) :
    Conserved { s with
      objects := (s.objects.set new (some payload)).set other (some payload.movedFrom) } := by
  have hne : other ≠ new := by
    rintro rfl
    rw [hother] at hnew
    cases hnew
  refine h.of_owners [] rfl rfl fun c => ?_
  have howners := owners_move s s.runs hne payload c
  rw [hnew, hother] at howners
  simp only [Option.any_none, Bool.toNat_false, Option.any_some] at howners
  rw [List.count_nil]
  omega

theorem moveAssign (h : s.Conserved) {address other : Nat} {payload payload' : PayloadImpl}
    (hne : other ≠ address) (hpayload : s.objects address = some payload)
    (hother : s.objects other = some payload') :
    Conserved { s with
      objects := (s.objects.set address (some payload')).set other (some payload'.movedFrom)
      runs := payload.callPayloadDestroyed ++ s.runs } := by
  refine h.of_owners _ rfl rfl fun c => ?_
  have howners := owners_move s (payload.callPayloadDestroyed ++ s.runs) hne payload' c
  rw [hpayload, hother] at howners
  simp only [Option.any_some] at howners
  rw [count_callPayloadDestroyed]
  omega

theorem shrink (h : s.Conserved) {address size : Nat} {payload : PayloadImpl}
    {result : Bool × PayloadImpl} (hpayload : s.objects address = some payload)
    (hshrink : payload.shrink size = some result) :
    Conserved { s with objects := s.objects.set address (some result.2) } := by
  refine h.of_owners [] rfl rfl fun c => ?_
  have howners := owners_set s s.callbacks s.runs address (some result.2) c
  rw [hpayload] at howners
  simp only [Option.any_some, owns_shrink hshrink] at howners
  rw [List.count_nil]
  omega

theorem destroy (h : s.Conserved) {address : Nat} {payload : PayloadImpl}
    (hpayload : s.objects address = some payload) :
    Conserved { s with
      objects := s.objects.set address none
      runs := payload.callPayloadDestroyed ++ s.runs } := by
  refine h.of_owners _ rfl rfl fun c => ?_
  have howners := owners_set s s.callbacks (payload.callPayloadDestroyed ++ s.runs) address none c
  rw [hpayload] at howners
  simp only [Option.any_some, Option.any_none, Bool.toNat_false] at howners
  rw [count_callPayloadDestroyed]
  omega

theorem next (h : s.Conserved) {operation : PayloadOperation}
    (hnext : s.next operation = some s') : s'.Conserved := by
  cases operation with
  | construct new data slotHandle headerSize leadOffset callback =>
      simp only [PayloadObjects.next] at hnext
      split at hnext
      next hnew =>
        cases hnext
        exact h.construct hnew data slotHandle headerSize leadOffset callback
      next => cases hnext
  | moveConstruct new other =>
      simp only [PayloadObjects.next] at hnext
      split at hnext
      next payload hnew hother =>
        cases hnext
        exact h.moveConstruct hnew hother
      next => cases hnext
  | moveAssign address other =>
      simp only [PayloadObjects.next] at hnext
      split at hnext
      next payload payload' hpayload hother =>
        split at hnext
        next =>
          cases hnext
          exact h
        next hne =>
          cases hnext
          exact h.moveAssign (Ne.symm hne) hpayload hother
      next => cases hnext
  | shrink address size =>
      obtain ⟨payload, hpayload, hnext⟩ := Option.bind_eq_some_iff.1 hnext
      obtain ⟨result, hshrink, rfl⟩ := Option.map_eq_some_iff.1 hnext
      exact h.shrink hpayload hshrink
  | destroy address =>
      obtain ⟨payload, hpayload, rfl⟩ := Option.map_eq_some_iff.1 hnext
      exact h.destroy hpayload

theorem of_run (h : s.Run) : s.Conserved := by
  apply Reach.invariant _ _ h
  · intro callback
    rfl
  · intro s operation s' hs _ hnext
    exact hs.next hnext

/-- What an object owns has not been run. -/
theorem notMem_runs (h : s.Conserved) {address callback : Nat} {payload : PayloadImpl}
    (hpayload : s.objects address = some payload)
    (howns : payload.payloadDestroyed = some callback) : callback ∉ s.runs := by
  have hle := Store.toNat_le_count
    (p := fun o : Option PayloadImpl => o.any (PayloadImpl.owns callback)) rfl s.objects address
  have hone : (s.objects address).any (PayloadImpl.owns callback) = true := by
    simp [hpayload, PayloadImpl.owns, howns]
  rw [hone, Bool.toNat_true] at hle
  have htotal := h callback
  have hbound := Bool.toNat_le (decide (callback < s.callbacks))
  rw [owners] at htotal
  exact List.count_eq_zero.1 (by omega)

/-- Nothing owns a callback when all objects are gone. -/
theorem count_runs (h : s.Conserved) (hgone : ∀ address, s.objects address = none)
    {callback : Nat} (hcallback : callback < s.callbacks) : s.runs.count callback = 1 := by
  have htotal := h callback
  have hnone : s.owners callback = 0 := Store.count_eq_zero rfl hgone
  rw [hnone, decide_eq_true hcallback, Bool.toNat_true] at htotal
  omega

end Conserved

/-- The object that an operation destroys or overwrites. -/
def ends : PayloadOperation → Option Nat
  | .moveAssign payload other => if payload = other then none else some payload
  | .destroy payload => some payload
  | _ => none

/-- The callbacks that a step runs are those of the object it ends. -/
theorem runs_next {s s' : PayloadObjects} {operation : PayloadOperation}
    (hnext : s.next operation = some s') :
    s'.runs = (((ends operation).bind fun address => s.objects address).elim []
      PayloadImpl.callPayloadDestroyed) ++ s.runs := by
  cases operation with
  | construct new data slotHandle headerSize leadOffset callback =>
      simp only [next] at hnext
      split at hnext
      next =>
        cases hnext
        rfl
      next => cases hnext
  | moveConstruct new other =>
      simp only [next] at hnext
      split at hnext
      next =>
        cases hnext
        rfl
      next => cases hnext
  | moveAssign address other =>
      simp only [next] at hnext
      split at hnext
      next payload payload' hpayload hother =>
        split at hnext
        next heq =>
          cases hnext
          simp [ends, heq]
        next hne =>
          cases hnext
          simp [ends, hne, hpayload]
      next => cases hnext
  | shrink address size =>
      obtain ⟨payload, hpayload, hnext⟩ := Option.bind_eq_some_iff.1 hnext
      obtain ⟨result, hshrink, rfl⟩ := Option.map_eq_some_iff.1 hnext
      rfl
  | destroy address =>
      obtain ⟨payload, hpayload, rfl⟩ := Option.map_eq_some_iff.1 hnext
      simp [ends, hpayload]

/-- In every run each callback passed to a constructor was run exactly once when all
objects are gone. None is run while an object owns it, and a step runs only what the
object owned that it destroys or overwrites. -/
theorem payload_released_once {s : PayloadObjects} (h : s.Run) :
    ((∀ address, s.objects address = none) →
      ∀ callback < s.callbacks, s.runs.count callback = 1) ∧
    (∀ address payload callback, s.objects address = some payload →
      payload.payloadDestroyed = some callback → callback ∉ s.runs) ∧
    ∀ operation s', s.next operation = some s' →
      ∃ called, s'.runs = called ++ s.runs ∧ ∀ callback ∈ called, ∃ address payload,
        ends operation = some address ∧ s.objects address = some payload ∧
          payload.payloadDestroyed = some callback := by
  have hconserved := Conserved.of_run h
  refine ⟨fun hgone callback hcallback => hconserved.count_runs hgone hcallback,
    fun address payload callback hpayload howns => hconserved.notMem_runs hpayload howns, ?_⟩
  intro operation s' hnext
  refine ⟨_, runs_next hnext, fun callback hcalled => ?_⟩
  cases hended : (ends operation).bind fun address => s.objects address with
  | none => simp [hended] at hcalled
  | some payload =>
      obtain ⟨address, hends, hpayload⟩ := Option.bind_eq_some_iff.1 hended
      refine ⟨address, payload, hends, hpayload, ?_⟩
      simpa [hended, PayloadImpl.callPayloadDestroyed] using hcalled

/-- Two payloads with callbacks: the first is overwritten by the second, which is
assigned to itself and destroyed. -/
theorem payload_released_once_after_moves :
    ∃ s : PayloadObjects, s.Run ∧ (∀ address, s.objects address = none) ∧ s.callbacks = 2 ∧
      ∀ callback < 2, s.runs.count callback = 1 := by
  obtain ⟨s, hs, hruns⟩ := exists_reach_of_runFrom next (fun _ _ => True) {}
    [.construct 0 ⟨0, 8⟩ 0 2 1 true, .construct 1 ⟨8, 8⟩ 1 0 0 true, .moveConstruct 2 1,
      .moveAssign 0 2, .moveAssign 0 0, .shrink 0 4, .destroy 1, .destroy 2, .destroy 0]
    (fun s => decide (s.objects.any (fun _ p => p.isSome) = false ∧ s.callbacks = 2)) (by decide)
  obtain ⟨hnone, hcallbacks⟩ := of_decide_eq_true hruns
  have hgone : ∀ address, s.objects address = none := by
    simpa using (Store.any_eq_false (fun _ => rfl)).1 hnone
  exact ⟨s, hs, hgone, hcallbacks, hcallbacks ▸ (payload_released_once hs).1 hgone⟩

end PayloadObjects

end SomeipGateway.Socom
