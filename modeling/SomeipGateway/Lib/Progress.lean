import SomeipGateway.Lib.Run

/-! # Progress

From a state that is `Inevitably` in `P`, every run of allowed steps comes to a state
with `P`, whichever step is taken where several are possible. It is shown with a measure
that every allowed step decreases: then only the states in which no allowed step is
possible have to be looked at.
-/

namespace SomeipGateway

variable {σ l : Type}

inductive Inevitably (next : σ → l → Option σ) (ok : σ → l → Prop) (P : σ → Prop) : σ → Prop where
  | now {s : σ} (h : P s) : Inevitably next ok P s
  | later {s t : σ} {a : l} (hok : ok s a) (hnext : next s a = some t)
      (hall : ∀ a s', ok s a → next s a = some s' → Inevitably next ok P s') :
      Inevitably next ok P s

/-- No allowed step is possible. -/
def Stuck (next : σ → l → Option σ) (ok : σ → l → Prop) (s : σ) : Prop :=
  ∀ a, ok s a → next s a = none

namespace Inevitably

variable {next : σ → l → Option σ} {ok : σ → l → Prop} {P I : σ → Prop} {s : σ}

theorem of_measure (measure : σ → Nat)
    (hkept : ∀ s a s', I s → ok s a → next s a = some s' → I s')
    (hless : ∀ s a s', I s → ok s a → next s a = some s' → measure s' < measure s)
    (hstuck : ∀ s, I s → Stuck next ok s → P s) (hs : I s) : Inevitably next ok P s := by
  induction hn : measure s using Nat.strongRecOn generalizing s with
  | ind n ih =>
      by_cases hpossible : ∃ a s', ok s a ∧ next s a = some s'
      · obtain ⟨a, t, hok, hnext⟩ := hpossible
        apply later hok hnext
        intro a s' hok' hnext'
        exact ih _ (hn ▸ hless s a s' hs hok' hnext') (hkept s a s' hs hok' hnext') rfl
      · apply now
        apply hstuck s hs
        intro a hok
        apply Option.eq_none_iff_forall_ne_some.2
        intro s' hnext
        exact hpossible ⟨a, s', hok, hnext⟩

end Inevitably

end SomeipGateway
