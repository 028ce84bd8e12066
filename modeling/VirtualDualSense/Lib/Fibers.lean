import Mathlib.Data.List.Nodup
import Mathlib.Data.List.Perm.Basic
import Mathlib.Logic.Function.Basic

/-!
# Lists that enumerate a predicate

A queue of a driver holds the objects in one state, each once. When an object
changes its state it leaves one queue and enters another, wherever in the queue
that is.
-/

namespace VirtualDualSense.Lib.Fibers

variable {α β : Type*} {l l' : List α} {p q : α → Prop} {a : α}

/-- `l` holds exactly the elements with `p`, each once. -/
structure Enumerates (l : List α) (p : α → Prop) : Prop where
  nodup : l.Nodup
  mem_iff : ∀ a, a ∈ l ↔ p a

namespace Enumerates

theorem congr (enum : Enumerates l p) (h : ∀ a, q a ↔ p a) : Enumerates l q :=
  ⟨enum.nodup, fun a => (enum.mem_iff a).trans (h a).symm⟩

/-- A new element enters at any position. -/
theorem insert (enum : Enumerates l p) (hperm : l'.Perm (a :: l)) (hnew : ¬p a)
    (h : ∀ b, q b ↔ b = a ∨ p b) : Enumerates l' q where
  nodup := by
    rw [hperm.nodup_iff, List.nodup_cons, enum.mem_iff]
    exact ⟨hnew, enum.nodup⟩
  mem_iff := by
    intro b
    rw [hperm.mem_iff, List.mem_cons, enum.mem_iff, h]

theorem remove [DecidableEq α] (enum : Enumerates l p) (h : ∀ b, q b ↔ b ≠ a ∧ p b) :
    Enumerates (l.erase a) q where
  nodup := enum.nodup.erase a
  mem_iff := by
    intro b
    rw [enum.nodup.mem_erase_iff, enum.mem_iff, h]

theorem count_eq [DecidableEq α] [DecidablePred p] (enum : Enumerates l p) (a : α) :
    l.count a = if p a then 1 else 0 := by
  split_ifs with h
  · exact List.count_eq_one_of_mem enum.nodup ((enum.mem_iff a).mpr h)
  · exact List.count_eq_zero_of_not_mem fun hmem => h ((enum.mem_iff a).mp hmem)

/-- Two lists of disjoint predicates list what has either. -/
theorem append (left : Enumerates l p) (right : Enumerates l' q) (h : ∀ a, p a → ¬q a) :
    Enumerates (l ++ l') fun a => p a ∨ q a where
  nodup := by
    refine List.nodup_append.mpr ⟨left.nodup, right.nodup, ?_⟩
    rintro a ha b hb rfl
    exact h a ((left.mem_iff a).mp ha) ((right.mem_iff a).mp hb)
  mem_iff := by
    intro a
    rw [List.mem_append, left.mem_iff, right.mem_iff]

theorem perm (left : Enumerates l p) (right : Enumerates l' p) : l.Perm l' :=
  (List.perm_ext_iff_of_nodup left.nodup right.nodup).mpr fun a =>
    (left.mem_iff a).trans (right.mem_iff a).symm

end Enumerates

section Update

variable {f : α → β} {x y : β}

/-- The list of the elements that `f` maps to `x`. -/
abbrev Fiber (f : α → β) (l : List α) (x : β) : Prop := Enumerates l fun a => f a = x

theorem Fiber.of_eq (fiber : Fiber f l x) {g : α → β} (h : ∀ a, g a = f a) : Fiber g l x :=
  fiber.congr fun a => by rw [h]

variable [DecidableEq α]

/-- An element that enters the fiber. -/
theorem Fiber.enters (fiber : Fiber f l x) (hold : f a ≠ x) (hperm : l'.Perm (a :: l)) :
    Fiber (Function.update f a x) l' x := by
  refine fiber.insert hperm hold fun b => ?_
  by_cases h : b = a
  · simp [h]
  · simp [h]

/-- An element that leaves the fiber, or was not in it. -/
theorem Fiber.leaves (fiber : Fiber f l x) (hnew : y ≠ x) :
    Fiber (Function.update f a y) (l.erase a) x := by
  refine fiber.remove fun b => ?_
  by_cases h : b = a
  · simp [h, hnew]
  · simp [h]

/-- An element that is outside of the fiber before and after. -/
theorem Fiber.stays (fiber : Fiber f l x) (hold : f a ≠ x) (hnew : y ≠ x) :
    Fiber (Function.update f a y) l x := by
  refine fiber.congr fun b => ?_
  by_cases h : b = a
  · simp [h, hold, hnew]
  · simp [h]

end Update

end VirtualDualSense.Lib.Fibers
