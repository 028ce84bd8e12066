import Mathlib.Data.List.Basic

/-!
# Refinement by a partial implementation

An implementation serves operations one after the other and may fail. It refines a
specification when from related states every operation succeeds, with the result of the
specification, and leads to related states.
-/

namespace VirtualDualSense.Lib.Refinements

variable {S Q A R : Type*}

/-- Serve the listed operations and collect the results. -/
def serve (step : S → A → Option (S × R)) (s : S) : List A → Option (S × List R)
  | [] => some (s, [])
  | a :: rest =>
      (step s a).bind fun (t, result) =>
        (serve step t rest).map fun (u, results) => (u, result :: results)

/-- What a specification answers to the listed operations. -/
def answers (spec : Q → A → Q × R) (q : Q) : List A → Q × List R
  | [] => (q, [])
  | a :: rest =>
      let next := spec q a
      let tail := answers spec next.1 rest
      (tail.1, next.2 :: tail.2)

/-- Every step from related states succeeds with the right result. -/
def Refines (step : S → A → Option (S × R)) (spec : Q → A → Q × R) (rel : S → Q → Prop) : Prop :=
  ∀ s q a, rel s q → ∃ t, step s a = some (t, (spec q a).2) ∧ rel t (spec q a).1

variable {step : S → A → Option (S × R)} {spec : Q → A → Q × R} {rel : S → Q → Prop} {s : S}
  {q : Q}

/-- Then so does every sequence of operations. -/
theorem Refines.serve_eq (h : Refines step spec rel) (start : rel s q) (operations : List A) :
    ∃ t, serve step s operations = some (t, (answers spec q operations).2) ∧
      rel t (answers spec q operations).1 := by
  induction operations generalizing s q with
  | nil => exact ⟨s, rfl, start⟩
  | cons a rest ih =>
      obtain ⟨t, hstep, hrel⟩ := h s q a start
      obtain ⟨u, hserve, hend⟩ := ih hrel
      refine ⟨u, ?_, hend⟩
      rw [serve, hstep, Option.bind_some]
      exact congrArg (Option.map fun (u, results) => (u, (spec q a).2 :: results)) hserve

end VirtualDualSense.Lib.Refinements
