import Mathlib.Algebra.Order.Ring.Int
import Mathlib.Data.UInt
import Mathlib.Data.List.Basic

/-!
# Byte machines and their buffered implementations

A byte machine consumes one input at a time and emits a list of outputs. A
buffered implementation consumes whole blocks. If every block call agrees with
the machine on a view of the state, the way the input is split into blocks
cannot be observed.
-/

namespace VirtualDualSense.Lib.Transducer

variable {S T B C : Type*}

/-- Run a machine over a list of inputs and collect the outputs in order. -/
def feed (step : T → B → T × List C) : T → List B → T × List C
  | t, [] => (t, [])
  | t, b :: rest =>
      let next := step t b
      let tail := feed step next.1 rest
      (tail.1, next.2 ++ tail.2)

@[simp] theorem feed_nil (step : T → B → T × List C) (t : T) : feed step t [] = (t, []) := rfl

theorem feed_cons (step : T → B → T × List C) (t : T) (b : B) (rest : List B) :
    feed step t (b :: rest) =
      ((feed step (step t b).1 rest).1, (step t b).2 ++ (feed step (step t b).1 rest).2) := rfl

theorem feed_append (step : T → B → T × List C) (t : T) (xs ys : List B) :
    feed step t (xs ++ ys) =
      ((feed step (feed step t xs).1 ys).1,
        (feed step t xs).2 ++ (feed step (feed step t xs).1 ys).2) := by
  induction xs generalizing t with
  | nil => simp
  | cons x rest ih => simp [feed_cons, ih, List.append_assoc]

/-- Feed the first `n` inputs, then the others. -/
theorem feed_take_drop (step : T → B → T × List C) (t : T) (n : Nat) (xs : List B) :
    feed step t xs =
      ((feed step (feed step t (xs.take n)).1 (xs.drop n)).1,
        (feed step t (xs.take n)).2 ++ (feed step (feed step t (xs.take n)).1 (xs.drop n)).2) := by
  rw [← feed_append, List.take_append_drop]

/-- Call a block consumer on each part in turn and concatenate what it returns. -/
def pushAll (push : S → List B → S × List C) : S → List (List B) → S × List C
  | s, [] => (s, [])
  | s, part :: rest =>
      let next := push s part
      let tail := pushAll push next.1 rest
      (tail.1, next.2 ++ tail.2)

/-- The block consumer agrees with the machine on the viewed part of its state. -/
structure Implements (push : S → List B → S × List C) (step : T → B → T × List C)
    (view : S → T) : Prop where
  state : ∀ s input, view (push s input).1 = (feed step (view s) input).1
  output : ∀ s input, (push s input).2 = (feed step (view s) input).2

namespace Implements

variable {push : S → List B → S × List C} {step : T → B → T × List C} {view : S → T}

/-- Consecutive block calls run the machine over the concatenated input. -/
theorem pushAll_eq (impl : Implements push step view) (s : S) (parts : List (List B)) :
    view (pushAll push s parts).1 = (feed step (view s) parts.flatten).1 ∧
      (pushAll push s parts).2 = (feed step (view s) parts.flatten).2 := by
  induction parts generalizing s with
  | nil => simp [pushAll]
  | cons part rest ih =>
      obtain ⟨hstate, hout⟩ := ih (push s part).1
      rw [impl.state] at hstate hout
      simp only [pushAll, List.flatten_cons, feed_append]
      exact ⟨hstate, by rw [hout, impl.output]⟩

/-- Splitting the input differently changes neither the outputs nor the view. -/
theorem chunking (impl : Implements push step view) (s : S) (parts : List (List B)) :
    view (pushAll push s parts).1 = view (push s parts.flatten).1 ∧
      (pushAll push s parts).2 = (push s parts.flatten).2 := by
  obtain ⟨hstate, hout⟩ := impl.pushAll_eq s parts
  exact ⟨hstate.trans (impl.state s _).symm, hout.trans (impl.output s _).symm⟩

end Implements

end VirtualDualSense.Lib.Transducer
