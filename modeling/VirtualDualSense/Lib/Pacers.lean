import Mathlib.Data.List.Basic
import Mathlib.Data.Nat.Init

/-!
# Pacers

A pacer works at or after a scheduled time. The next scheduled time is one interval later, or,
when that has passed already, one interval after the work. Lost time is not made up for, apart
from what was late by less than an interval.
-/

namespace VirtualDualSense.Lib.Pacers

/-- One piece of work: when it was scheduled and when it was done. -/
structure Slot where
  scheduled : Nat
  time : Nat
  deriving DecidableEq

variable {interval : Nat} {slots : List Slot} {slot a b : Slot} {i j : Nat}

/-- The next scheduled time. -/
def Slot.next (interval : Nat) (slot : Slot) : Nat :=
  if slot.scheduled + interval ≤ slot.time then slot.time + interval
  else slot.scheduled + interval

theorem Slot.time_lt_next (h : 0 < interval) : slot.time < slot.next interval := by
  rw [Slot.next]
  split_ifs <;> omega

theorem Slot.scheduled_add_le_next (interval : Nat) (slot : Slot) :
    slot.scheduled + interval ≤ slot.next interval := by
  rw [Slot.next]
  split_ifs <;> omega

/-- No work is done before its time, and each is scheduled no sooner than the one before it
says. -/
structure Paced (interval : Nat) (slots : List Slot) : Prop where
  onTime : ∀ slot ∈ slots, slot.scheduled ≤ slot.time
  chained : ∀ i a b, slots[i]? = some a → slots[i + 1]? = some b →
    a.next interval ≤ b.scheduled

namespace Paced

theorem nil : Paced interval [] := ⟨by simp, by simp⟩

theorem append (h : Paced interval slots) (hslot : slot.scheduled ≤ slot.time)
    (hlast : ∀ last, slots.getLast? = some last → last.next interval ≤ slot.scheduled) :
    Paced interval (slots ++ [slot]) where
  onTime := by
    intro other hother
    rcases List.mem_append.mp hother with hother | hother
    · exact h.onTime other hother
    · rw [List.mem_singleton.mp hother]
      exact hslot
  chained := by
    intro i a b ha hb
    obtain ⟨hi, -⟩ := List.getElem?_eq_some_iff.mp hb
    rw [List.length_append, List.length_singleton] at hi
    rw [List.getElem?_append_left (by omega)] at ha
    by_cases hend : i + 1 < slots.length
    · rw [List.getElem?_append_left hend] at hb
      exact h.chained i a b ha hb
    · have hlength : i = slots.length - 1 := by omega
      rw [hlength, ← List.getLast?_eq_getElem?] at ha
      rw [List.getElem?_append_right (by omega), show i + 1 - slots.length = 0 by omega] at hb
      cases hb
      exact hlast a ha

/-- Between two pieces of work there is an interval for each one in between. -/
theorem next_add_le (h : Paced interval slots) (hij : i < j) (ha : slots[i]? = some a)
    (hb : slots[j]? = some b) : a.next interval + (j - i - 1) * interval ≤ b.scheduled := by
  induction j, hij using Nat.le_induction generalizing b with
  | base =>
      rw [show i.succ - i - 1 = 0 by omega, Nat.zero_mul]
      exact h.chained i a b ha hb
  | succ j hij ih =>
      have hlt : j < slots.length := Nat.lt_of_succ_lt (List.getElem?_eq_some_iff.mp hb).1
      have hj : slots[j]? = some slots[j] := List.getElem?_eq_getElem hlt
      have hearlier := ih hj
      have hstep := slots[j].scheduled_add_le_next interval
      have hnext := h.chained j _ b hj hb
      rw [show j + 1 - i - 1 = (j - i - 1) + 1 by omega, Nat.add_one_mul]
      omega

/-- Work is at least as far apart as the intervals between the next and the other. -/
theorem time_add_lt (h : Paced interval slots) (hpos : 0 < interval) (hij : i < j)
    (ha : slots[i]? = some a) (hb : slots[j]? = some b) :
    a.time + (j - i - 1) * interval < b.time := by
  have hnext := h.next_add_le hij ha hb
  have htime := a.time_lt_next hpos
  have hlate := h.onTime b (List.mem_of_getElem? hb)
  omega

/-- No work is done sooner than its place in the first schedule. -/
theorem first_add_le (h : Paced interval slots) (ha : slots[0]? = some a)
    (hb : slots[j]? = some b) : a.scheduled + j * interval ≤ b.time := by
  have hlate := h.onTime b (List.mem_of_getElem? hb)
  cases j with
  | zero =>
      rw [ha] at hb
      cases hb
      omega
  | succ j =>
      have hnext := h.next_add_le (Nat.succ_pos j) ha hb
      have hstep := a.scheduled_add_le_next interval
      rw [show j + 1 - 0 - 1 = j by omega] at hnext
      rw [Nat.add_one_mul]
      omega

end Paced

end VirtualDualSense.Lib.Pacers
