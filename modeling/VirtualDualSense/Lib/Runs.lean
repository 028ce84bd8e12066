import Mathlib.Data.List.Basic

/-!
# Runs of partial step functions

A component is a step function that refuses the actions it has disabled. A run
lists its actions in order. A guarded run also meets a condition on the state
before each action, so that a result about a restricted environment is still a
result about whole runs.
-/

namespace VirtualDualSense.Lib.Runs

variable {S A : Type*}

/-- A finite execution in which `guard` holds of the state before every action. -/
inductive GuardedRun (step : S → A → Option S) (guard : S → A → Prop) : S → List A → S → Prop
  | nil (s : S) : GuardedRun step guard s [] s
  | cons {s t u : S} {a : A} {actions : List A} (ok : guard s a) (h : step s a = some t)
      (tail : GuardedRun step guard t actions u) : GuardedRun step guard s (a :: actions) u

/-- A finite execution in an unrestricted environment. -/
abbrev Run (step : S → A → Option S) : S → List A → S → Prop :=
  GuardedRun step fun _ _ => True

/-- Execute the listed actions, stopping at the first refused one. -/
def execute (step : S → A → Option S) (s : S) : List A → Option S
  | [] => some s
  | a :: actions => (step s a).bind fun t => execute step t actions

theorem run_of_execute {step : S → A → Option S} {s t : S} {actions : List A}
    (h : execute step s actions = some t) : Run step s actions t := by
  induction actions generalizing s with
  | nil =>
      obtain rfl := Option.some.inj h
      exact .nil s
  | cons a rest ih =>
      obtain ⟨u, hu, hrest⟩ := Option.bind_eq_some_iff.mp h
      exact .cons trivial hu (ih hrest)

/-- Find a run by evaluation. -/
theorem exists_run_of_execute {step : S → A → Option S} {s : S} {actions : List A} {p : S → Prop}
    [DecidablePred p] (h : (execute step s actions).any (fun t => decide (p t)) = true) :
    ∃ t, Run step s actions t ∧ p t := by
  cases hexecute : execute step s actions with
  | none => simp [hexecute] at h
  | some t =>
      rw [hexecute] at h
      exact ⟨t, run_of_execute hexecute, of_decide_eq_true h⟩

/-- Execute the listed actions, stopping when the guard fails. -/
def executeGuarded (step : S → A → Option S) (guard : S → A → Prop)
    [∀ s a, Decidable (guard s a)] (s : S) : List A → Option S
  | [] => some s
  | a :: actions =>
      if guard s a then (step s a).bind fun t => executeGuarded step guard t actions else none

theorem guardedRun_of_execute {step : S → A → Option S} {guard : S → A → Prop}
    [∀ s a, Decidable (guard s a)] {s t : S} {actions : List A}
    (h : executeGuarded step guard s actions = some t) : GuardedRun step guard s actions t := by
  induction actions generalizing s with
  | nil =>
      obtain rfl := Option.some.inj h
      exact .nil s
  | cons a rest ih =>
      obtain ⟨ok, hrest⟩ := Option.ite_none_right_eq_some.mp h
      obtain ⟨u, hu, hrest⟩ := Option.bind_eq_some_iff.mp hrest
      exact .cons ok hu (ih hrest)

/-- Find a guarded run by evaluation. -/
theorem exists_guardedRun_of_execute {step : S → A → Option S} {guard : S → A → Prop}
    [∀ s a, Decidable (guard s a)] {s : S} {actions : List A}
    (h : (executeGuarded step guard s actions).isSome = true) :
    ∃ t, GuardedRun step guard s actions t := by
  obtain ⟨t, ht⟩ := Option.isSome_iff_exists.mp h
  exact ⟨t, guardedRun_of_execute ht⟩

/-- Find a guarded run to a state with `p` by evaluation. -/
theorem exists_guardedRun_of_any {step : S → A → Option S} {guard : S → A → Prop}
    [∀ s a, Decidable (guard s a)] {s : S} {actions : List A} {p : S → Prop} [DecidablePred p]
    (h : (executeGuarded step guard s actions).any (fun t => decide (p t)) = true) :
    ∃ t, GuardedRun step guard s actions t ∧ p t := by
  obtain ⟨t, ht, hp⟩ := (Option.any_eq_true _ _).mp h
  exact ⟨t, guardedRun_of_execute ht, of_decide_eq_true hp⟩

namespace GuardedRun

variable {step : S → A → Option S} {guard guard' : S → A → Prop} {s t u : S}
  {actions more : List A}

/-- A property kept by every guarded step holds at the end of every guarded run. -/
theorem invariant {I : S → Prop} (run : GuardedRun step guard s actions t)
    (keeps : ∀ s a t, I s → guard s a → step s a = some t → I t) (start : I s) : I t := by
  induction run with
  | nil => exact start
  | cons ok h _ ih => exact ih (keeps _ _ _ start ok h)

/-- A run under a condition is a run under a weaker one. -/
theorem mono (run : GuardedRun step guard s actions t) (h : ∀ s a, guard s a → guard' s a) :
    GuardedRun step guard' s actions t := by
  induction run with
  | nil s => exact .nil s
  | cons ok hstep _ ih => exact .cons (h _ _ ok) hstep ih

/-- Runs compose. -/
theorem append (run : GuardedRun step guard s actions t)
    (tail : GuardedRun step guard t more u) : GuardedRun step guard s (actions ++ more) u := by
  induction run with
  | nil => exact tail
  | cons ok h _ ih => exact .cons ok h (ih tail)

/-- A run whose actions all satisfy `p` is guarded by `p`. -/
theorem of_forall {p : A → Prop} (run : Run step s actions t) (h : ∀ a ∈ actions, p a) :
    GuardedRun step (fun _ a => p a) s actions t := by
  induction run with
  | nil s => exact .nil s
  | cons _ hstep _ ih =>
      refine .cons (h _ List.mem_cons_self) hstep (ih ?_)
      intro a ha
      exact h a (List.mem_cons_of_mem _ ha)

end GuardedRun

end VirtualDualSense.Lib.Runs
