import Mathlib.Algebra.BigOperators.Group.List.Basic
import Mathlib.Algebra.Order.Ring.Int

/-!
# Integers in a range

Checked narrowing and summing of integers, and the means that stay between their samples.
-/

namespace VirtualDualSense.Lib.Ranges

variable {lo hi x y d : Int}

/-- The value when it lies in the range. -/
def narrow (lo hi x : Int) : Option Int := if lo ≤ x ∧ x ≤ hi then some x else none

theorem narrow_eq_some (h : lo ≤ x ∧ x ≤ hi) : narrow lo hi x = some x := if_pos h

/-- Sum what is read at a list of places, with every partial sum in the range. -/
def sumWithin {ι : Type*} (lo hi : Int) (read : ι → Option Int) (total : Int) : List ι → Option Int
  | [] => some total
  | i :: rest => do
      let x ← read i
      let total ← narrow lo hi (total + x)
      sumWithin lo hi read total rest

/-- Samples between two bounds sum to a multiple between the bounds. -/
theorem sum_between {xs : List Int} (h : ∀ x ∈ xs, lo ≤ x ∧ x ≤ hi) :
    xs.length * lo ≤ xs.sum ∧ xs.sum ≤ xs.length * hi := by
  induction xs with
  | nil => simp
  | cons x rest ih =>
      have hx := h x (by simp)
      have hrest := ih fun y hy => h y (by simp [hy])
      simp only [List.length_cons, List.sum_cons, Nat.cast_add, Nat.cast_one, Int.add_mul,
        Int.one_mul]
      omega

/-- Few enough samples never leave the range on the way. -/
theorem sumWithin_eq_some {ι : Type*} {read : ι → Option Int} {value : ι → Int}
    {total bound : Int} {places : List ι} (hread : ∀ i ∈ places, read i = some (value i))
    (h : ∀ i ∈ places, -bound ≤ value i ∧ value i ≤ bound)
    (hlow : lo ≤ total - places.length * bound) (hhigh : total + places.length * bound ≤ hi) :
    sumWithin lo hi read total places = some (total + (places.map value).sum) := by
  induction places generalizing total with
  | nil => simp [sumWithin]
  | cons i rest ih =>
      have hvalue := h i (by simp)
      have hrest : 0 ≤ rest.length * bound := Int.mul_nonneg (by omega) (by omega)
      simp only [List.length_cons, Nat.cast_add, Nat.cast_one, Int.add_mul, Int.one_mul]
        at hlow hhigh
      have htail : sumWithin lo hi read (total + value i) rest =
          some (total + value i + (rest.map value).sum) :=
        ih (fun j hj => hread j (by simp [hj])) (fun j hj => h j (by simp [hj])) (by omega)
          (by omega)
      rw [sumWithin, hread i (by simp), Option.bind_eq_bind, Option.bind_some,
        narrow_eq_some (by omega), Option.bind_some, htail, List.map_cons,
        List.sum_cons, Int.add_assoc]

/-- A truncated mean stays between the bounds of its samples. -/
theorem tdiv_between (hd : 0 < d) (h : d * lo ≤ x ∧ x ≤ d * hi) :
    lo ≤ x.tdiv d ∧ x.tdiv d ≤ hi := by
  have hne : d ≠ 0 := by omega
  constructor
  · calc lo = (d * lo).tdiv d := (Int.mul_tdiv_cancel_left lo hne).symm
      _ ≤ x.tdiv d := Int.tdiv_le_tdiv hd h.1
  · calc x.tdiv d ≤ (d * hi).tdiv d := Int.tdiv_le_tdiv hd h.2
      _ = hi := Int.mul_tdiv_cancel_left hi hne

/-- A weighted sum of two samples lies between the bounds times the whole weight. -/
theorem mix_between {n : Int} (hx : lo ≤ x ∧ x ≤ hi) (hy : lo ≤ y ∧ y ≤ hi) (hn : 0 ≤ n)
    (hd : n ≤ d) : d * lo ≤ x * (d - n) + y * n ∧ x * (d - n) + y * n ≤ d * hi := by
  have hrest : 0 ≤ d - n := by omega
  have hsplit : ∀ z : Int, d * z = z * (d - n) + z * n := by
    intro z
    rw [Int.mul_sub, Int.mul_comm d z]
    omega
  rw [hsplit lo, hsplit hi]
  exact ⟨Int.add_le_add (Int.mul_le_mul_of_nonneg_right hx.1 hrest)
      (Int.mul_le_mul_of_nonneg_right hy.1 hn),
    Int.add_le_add (Int.mul_le_mul_of_nonneg_right hx.2 hrest)
      (Int.mul_le_mul_of_nonneg_right hy.2 hn)⟩

end VirtualDualSense.Lib.Ranges
