import Mathlib.Logic.Basic

/-! # Runs of a transition function

`Reach next ok init` holds of the states that a machine reaches from `init` when
every step it takes satisfies `ok` in the state it is taken from. `runFrom` is
the executable form for a given list of labels.
-/

namespace SomeipGateway

variable {σ l : Type}

inductive Reach (next : σ → l → Option σ) (ok : σ → l → Prop) (init : σ) : σ → Prop where
  | init : Reach next ok init init
  | step {s s' : σ} {a : l} (hs : Reach next ok init s) (hok : ok s a)
      (hnext : next s a = some s') : Reach next ok init s'

namespace Reach

variable {next : σ → l → Option σ} {ok ok' : σ → l → Prop} {init s s' s'' : σ}

/-- What holds at the start and survives every allowed step holds in every state
reached. -/
theorem invariant {I : σ → Prop} (hinit : I init)
    (hstep : ∀ s a s', I s → ok s a → next s a = some s' → I s')
    (h : Reach next ok init s) : I s := by
  induction h with
  | init => exact hinit
  | step _ hok hnext ih => exact hstep _ _ _ ih hok hnext

/-- An invariant whose step may use what is known of every state reached. -/
theorem invariant_of_reach {I : σ → Prop} (hinit : I init)
    (hstep : ∀ s a s', Reach next ok init s → I s → ok s a → next s a = some s' → I s')
    (h : Reach next ok init s) : I s := by
  induction h with
  | init => exact hinit
  | step hs hok hnext ih => exact hstep _ _ _ hs ih hok hnext

theorem mono (himp : ∀ s a, ok s a → ok' s a) (h : Reach next ok init s) :
    Reach next ok' init s :=
  h.invariant .init fun _ _ _ hs hok hnext => hs.step (himp _ _ hok) hnext

theorem trans (h : Reach next ok init s) (h' : Reach next ok s s') : Reach next ok init s' :=
  h'.invariant h fun _ _ _ hs hok hnext => hs.step hok hnext

end Reach

/-- Take the listed steps, each of them allowed. -/
def runFrom (next : σ → l → Option σ) (ok : σ → l → Prop) [∀ s a, Decidable (ok s a)] :
    σ → List l → Option σ
  | s, [] => some s
  | s, a :: rest => if ok s a then (next s a).bind fun s' => runFrom next ok s' rest else none

variable {next : σ → l → Option σ} {ok : σ → l → Prop} [∀ s a, Decidable (ok s a)]

theorem reach_of_runFrom {s s' : σ} {labels : List l} (h : runFrom next ok s labels = some s') :
    Reach next ok s s' := by
  induction labels generalizing s with
  | nil =>
      cases h
      exact .init
  | cons a rest ih =>
      simp only [runFrom] at h
      split at h
      next hok =>
        obtain ⟨t, ht, hrest⟩ := Option.bind_eq_some_iff.1 h
        exact Reach.trans (Reach.init.step hok ht) (ih hrest)
      next => cases h

theorem exists_reach_of_runFrom (next : σ → l → Option σ) (ok : σ → l → Prop)
    [∀ s a, Decidable (ok s a)] (s : σ) (labels : List l) (p : σ → Bool)
    (h : (runFrom next ok s labels).any p = true) : ∃ s', Reach next ok s s' ∧ p s' = true := by
  cases hrun : runFrom next ok s labels with
  | none => simp [hrun] at h
  | some s' => exact ⟨s', reach_of_runFrom hrun, by simpa [hrun] using h⟩

end SomeipGateway
