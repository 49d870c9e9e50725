import SomeipGateway.Binding.View
import SomeipGateway.Endpoint.Basic

/-! # Performing outward calls

Messages and log entries change nothing at the endpoint that emits them. What a
property of the endpoint and a property of the calls have to satisfy for one call
lifts to a whole list of calls with everything they cause.
-/

namespace SomeipGateway

variable {ι : Type}

def Effect.isInert : Effect ι → Bool
  | .send _ _ _ _ | .requestSent _ _ | .assertFailed _ => true
  | _ => false

def Effect.isSend : Effect ι → Bool
  | .send _ _ _ _ => true
  | _ => false

theorem Effect.isInert_of_isSend {e : Effect ι} (h : e.isSend = true) : e.isInert = true := by
  cases e <;> first | rfl | cases h

/-- The call carries a payload or tells of one. -/
def Effect.isData : Effect ι → Bool
  | .send _ _ (.eventUpdate _ _ _) _ | .send _ _ (.payloadConsumed _ _) _ | .updateEvent _ _ _ _
  | .releasePayload _ => true
  | _ => false

@[simp] theorem Env.send_isInert (env : Env ι) (client : ι) (about : Option Key) (msg : Message) :
    (env.send client about msg).isInert = true := rfl

theorem Binding.isInert_of_mem_addMapping [DecidableEq ι] {b : Binding ι} {client : ι} {ids : Ids}
    {e : Effect ι} (he : e ∈ (b.addMapping client ids).2) : e.isInert = true := by
  rw [Binding.eq_of_mem_addMapping he]
  rfl

theorem fst_snd_of_some_eq {α β : Type} {p : α × β} {a : α} {b : β} (h : some p = some (a, b)) :
    p.1 = a ∧ p.2 = b := by
  cases h
  exact ⟨rfl, rfl⟩

theorem foldEffects_append {σ α : Type} (f : σ → α → Option (σ × List (Effect ι))) (s : σ)
    (as bs : List α) :
    foldEffects f s (as ++ bs) = (foldEffects f s as).bind fun r =>
      (foldEffects f r.1 bs).map fun r' => (r'.1, r.2 ++ r'.2) := by
  induction as generalizing s with
  | nil => cases h : foldEffects f s bs <;> simp [foldEffects, h]
  | cons a rest ih =>
      simp only [List.cons_append, foldEffects, Option.bind_eq_bind]
      cases f s a with
      | none => rfl
      | some r =>
          obtain ⟨t, es⟩ := r
          simp only [Option.bind_some, ih]
          cases foldEffects f t rest with
          | none => rfl
          | some r' =>
              cases h : foldEffects f r'.1 bs <;> simp [h]

namespace Endpoint

variable [DecidableEq ι] {env : Env ι} {n n' : Endpoint ι} {effects out : List (Effect ι)}

theorem perform_append (depth : Nat) (es fs : List (Effect ι)) :
    perform env depth n (es ++ fs) = (perform env depth n es).bind fun r =>
      (perform env depth r.1 fs).map fun r' => (r'.1, r.2 ++ r'.2) := by
  cases depth with
  | zero => rfl
  | succ depth => exact foldEffects_append _ _ _ _

/-- One call, everything it causes, and the calls after it. -/
theorem perform_cons_eq_some {depth : Nat} {e : Effect ι} {rest : List (Effect ι)} :
    perform env (depth + 1) n (e :: rest) = some (n', out) ↔
      ∃ u caused v more last, n.performOne env e = some (u, caused) ∧
        perform env depth u caused = some (v, more) ∧
        perform env (depth + 1) v rest = some (n', last) ∧ out = e :: more ++ last := by
  simp only [perform, foldEffects, Option.bind_eq_bind, Option.bind_eq_some_iff, Prod.exists,
    Option.some.injEq, Prod.mk.injEq]
  constructor
  · rintro ⟨_, _, ⟨u, caused, hfirst, v, more, hmore, rfl, rfl⟩, w, last, hlast, rfl, rfl⟩
    exact ⟨u, caused, v, more, last, hfirst, hmore, hlast, rfl⟩
  · rintro ⟨u, caused, v, more, last, hfirst, hmore, hlast, rfl⟩
    exact ⟨v, _, ⟨u, caused, hfirst, v, more, hmore, rfl, rfl⟩, n', last, hlast, rfl, rfl⟩

/-- Calls that change nothing and cause nothing are only made. -/
theorem perform_of_performOne (depth : Nat)
    (h : ∀ e ∈ effects, n.performOne env e = some (n, [])) :
    perform env depth n effects = some (n, effects) := by
  cases depth with
  | zero => rfl
  | succ depth =>
      induction effects with
      | nil => rfl
      | cons e rest ih =>
          have hone := h e List.mem_cons_self
          have hnil : perform env depth n [] = some (n, []) := by
            cases depth <;> rfl
          have hrest := ih fun e he => h e (List.mem_cons_of_mem _ he)
          exact perform_cons_eq_some.2 ⟨n, [], n, [], rest, hone, hnil, hrest, rfl⟩

theorem perform_inert (depth : Nat) (h : ∀ e ∈ effects, e.isInert = true) :
    perform env depth n effects = some (n, effects) := by
  refine perform_of_performOne depth fun e he => ?_
  have hinert := h e he
  cases e <;> first | rfl | cases hinert

/-- The rule for performing calls: `I` is kept by every call that satisfies `E`,
and the calls it causes satisfy `E` again. -/
theorem perform_preserves {I : Endpoint ι → Prop} {E : Effect ι → Prop}
    (hone : ∀ n e n' caused, I n → E e → performOne env n e = some (n', caused) →
      I n' ∧ ∀ e' ∈ caused, E e') :
    ∀ (depth : Nat) {n n' : Endpoint ι} {effects out : List (Effect ι)}, I n →
      (∀ e ∈ effects, E e) → perform env depth n effects = some (n', out) →
      I n' ∧ ∀ e ∈ out, E e := by
  intro depth
  induction depth with
  | zero =>
      intro n n' effects out hI hE h
      cases h
      exact ⟨hI, hE⟩
  | succ depth ihdepth =>
      intro n n' effects
      induction effects generalizing n with
      | nil =>
          intro out hI _ h
          cases h
          exact ⟨hI, by simp⟩
      | cons e rest ih =>
          intro out hI hE h
          obtain ⟨u, caused, v, more, last, hfirst, hmore, hlast, rfl⟩ := perform_cons_eq_some.1 h
          obtain ⟨hIu, hEcaused⟩ := hone _ _ _ _ hI (hE e List.mem_cons_self) hfirst
          obtain ⟨hIv, hEmore⟩ := ihdepth hIu hEcaused hmore
          obtain ⟨hIw, hElast⟩ := ih hIv (fun e he => hE e (List.mem_cons_of_mem _ he)) hlast
          refine ⟨hIw, fun e' he' => ?_⟩
          rcases List.mem_append.1 he' with he' | he'
          · rcases List.mem_cons.1 he' with rfl | he'
            · exact hE _ List.mem_cons_self
            · exact hEmore e' he'
          · exact hElast e' he'

theorem subset_perform {depth : Nat} (h : perform env depth n effects = some (n', out)) :
    effects ⊆ out := by
  cases depth with
  | zero =>
      cases h
      exact List.Subset.refl _
  | succ depth =>
      induction effects generalizing n out with
      | nil => exact List.nil_subset _
      | cons e rest ih =>
          obtain ⟨u, caused, v, more, last, -, -, hlast, rfl⟩ := perform_cons_eq_some.1 h
          intro e' he'
          rcases List.mem_cons.1 he' with rfl | he'
          · exact List.mem_append_left _ List.mem_cons_self
          · exact List.mem_append_right _ (ih hlast he')

/-- The rule for properties that also mention what was called so far: `S` grows by
what every call causes. -/
theorem perform_history {I : Endpoint ι → Set (Effect ι) → Prop}
    (hone : ∀ n e n' caused S, I n S → e ∈ S → performOne env n e = some (n', caused) →
      I n' (S ∪ {e | e ∈ caused})) :
    ∀ (depth : Nat) {n n' : Endpoint ι} {effects out : List (Effect ι)} {S : Set (Effect ι)},
      I n S → (∀ e ∈ effects, e ∈ S) → perform env depth n effects = some (n', out) →
      I n' (S ∪ {e | e ∈ out}) := by
  intro depth
  induction depth with
  | zero =>
      intro n n' effects out S hI hS h
      cases h
      have hset : S ∪ {e | e ∈ effects} = S := Set.union_eq_left.2 hS
      rwa [hset]
  | succ depth ihdepth =>
      intro n n' effects
      induction effects generalizing n with
      | nil =>
          intro out S hI _ h
          cases h
          rwa [Set.union_eq_left.2 (by simp)]
      | cons e rest ih =>
          intro out S hI hS h
          obtain ⟨u, caused, v, more, last, hfirst, hmore, hlast, rfl⟩ := perform_cons_eq_some.1 h
          have hu := hone _ _ _ _ _ hI (hS e List.mem_cons_self) hfirst
          have hv := ihdepth hu (fun e he => Or.inr he) hmore
          have hw := ih hv (fun e he => Or.inl (Or.inl (hS e (List.mem_cons_of_mem _ he)))) hlast
          have hset : S ∪ {e | e ∈ caused} ∪ {e | e ∈ more} ∪ {e | e ∈ last} =
              S ∪ {e' | e' ∈ e :: more ++ last} := by
            have hsub := subset_perform hmore
            have hin := hS e List.mem_cons_self
            ext e'
            simp only [Set.mem_union, Set.mem_ofPred_eq, List.cons_append, List.mem_cons,
              List.mem_append]
            constructor
            · rintro (((h | h) | h) | h)
              · exact .inl h
              · exact .inr (.inr (.inl (hsub h)))
              · exact .inr (.inr (.inl h))
              · exact .inr (.inr (.inr h))
            · rintro (h | rfl | h | h)
              · exact .inl (.inl (.inl h))
              · exact .inl (.inl (.inl hin))
              · exact .inl (.inr h)
              · exact .inr h
          rwa [hset] at hw

theorem step_eq_some {event : Event ι} :
    n.step env event = some (n', out) ↔
      ∃ m effects, n.act env event = some (m, effects) ∧ perform env 3 m effects = some (n', out) := by
  simp [step, performAll, Option.bind_eq_some_iff]

end Endpoint

end SomeipGateway
