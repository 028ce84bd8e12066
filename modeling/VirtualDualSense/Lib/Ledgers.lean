import Mathlib.Data.List.Basic

/-!
# Queues that remember what left them

A queue together with the items that left it, oldest first, and what became of
each. Items leave at the front only, so the items that left and the items that
are still queued are together the items that were put in, in order.
-/

namespace VirtualDualSense.Lib.Ledgers

structure Ledger (α Fate : Type*) where
  queue : List α
  gone : List (α × Fate)

namespace Ledger

variable {α Fate : Type*} (l : Ledger α Fate)

def empty : Ledger α Fate := ⟨[], []⟩

def push (item : α) : Ledger α Fate := { l with queue := l.queue ++ [item] }

def extend (items : List α) : Ledger α Fate := { l with queue := l.queue ++ items }

/-- All items that were ever put in. -/
def items : List α := l.gone.map Prod.fst ++ l.queue

/-- The items that left with a fate. -/
def left [DecidableEq Fate] (fate : Fate) : List α :=
  (l.gone.filter fun item => item.2 = fate).map Prod.fst

/-- The oldest `count` items leave. -/
def retire (count : Nat) (fate : Fate) : Ledger α Fate where
  queue := l.queue.drop count
  gone := l.gone ++ (l.queue.take count).map fun item => (item, fate)

/-- All items leave. -/
def retireAll (fate : Fate) : Ledger α Fate := l.retire l.queue.length fate

@[simp]
theorem queue_push (item : α) : (l.push item).queue = l.queue ++ [item] := rfl

@[simp]
theorem gone_push (item : α) : (l.push item).gone = l.gone := rfl

@[simp]
theorem queue_retire (count : Nat) (fate : Fate) :
    (l.retire count fate).queue = l.queue.drop count := rfl

@[simp]
theorem queue_retireAll (fate : Fate) : (l.retireAll fate).queue = [] := by
  simp [retireAll]

/-- An item that is gone was gone before, or it left now. -/
theorem getElem?_gone_retire {count i : Nat} {fate : Fate} {item : α × Fate}
    (h : (l.retire count fate).gone[i]? = some item) :
    l.gone[i]? = some item ∨
      item.2 = fate ∧ l.gone.length ≤ i ∧ i < l.gone.length + min count l.queue.length := by
  simp only [retire, List.getElem?_append] at h
  split_ifs at h with hi
  · exact .inl h
  · obtain ⟨old, hold, rfl⟩ := Option.map_eq_some_iff.mp (List.getElem?_map.symm.trans h)
    have hlt := (List.getElem?_eq_some_iff.mp hold).1
    rw [List.length_take] at hlt
    exact .inr ⟨rfl, Nat.le_of_not_lt hi, by omega⟩

section Items

variable {count : Nat} {fate other : Fate}

theorem items_extend (more : List α) : (l.extend more).items = l.items ++ more := by
  simp [items, extend]

/-- Leaving the queue keeps an item in its place. -/
theorem items_retire : (l.retire count fate).items = l.items := by
  simp only [items, retire, List.map_append, List.map_map, Function.comp_def, List.map_id',
    List.append_assoc, List.take_append_drop]

variable [DecidableEq Fate]

theorem left_extend (more : List α) : (l.extend more).left fate = l.left fate := rfl

theorem left_retire_self :
    (l.retire count fate).left fate = l.left fate ++ l.queue.take count := by
  simp only [left, retire, List.filter_append, List.map_append]
  generalize l.queue.take count = leaving
  simp [List.filter_map, Function.comp_def]

theorem left_retire_of_ne (h : other ≠ fate) :
    (l.retire count other).left fate = l.left fate := by
  simp only [left, retire, List.filter_append, List.map_append]
  generalize l.queue.take count = leaving
  simp [List.filter_map, Function.comp_def, h]

end Items

section Count

variable {p : α × Fate → Bool} {count : Nat} {fate : Fate}

theorem countP_gone_retire_le (p : α × Fate → Bool) (count : Nat) (fate : Fate) :
    (l.retire count fate).gone.countP p ≤ l.gone.countP p + count := by
  have hnew := List.countP_le_length (p := p)
    (l := (l.queue.take count).map fun item => (item, fate))
  rw [List.length_map, List.length_take] at hnew
  rw [retire, List.countP_append]
  omega

/-- Items of another kind left. -/
theorem countP_gone_retire_eq (h : ∀ item, p (item, fate) = false) :
    (l.retire count fate).gone.countP p = l.gone.countP p := by
  have hnew : ((l.queue.take count).map fun item => (item, fate)).countP p = 0 := by
    apply List.countP_eq_zero.mpr
    intro item hitem
    obtain ⟨old, -, rfl⟩ := List.mem_map.mp hitem
    simp [h]
  rw [retire, List.countP_append, hnew, Nat.add_zero]

end Count

end Ledger

end VirtualDualSense.Lib.Ledgers
