import Mathlib.Algebra.Order.Ring.Int
import Mathlib.Data.List.Basic
import Mathlib.Order.Basic

/-!
# Queues in the order of due times

Items are inserted behind all items that are not due later. Items of one kind whose
due times grow stay in the order in which they were inserted.
-/

namespace VirtualDualSense.Lib.DueQueue

variable {α : Type*} {due : α → Nat} {item : α} {queue : List α}

def insertDue (due : α → Nat) (item : α) : List α → List α
  | [] => [item]
  | first :: rest =>
      if due first ≤ due item then first :: insertDue due item rest else item :: first :: rest

theorem perm_insertDue : (insertDue due item queue).Perm (item :: queue) := by
  induction queue with
  | nil => exact .refl _
  | cons first rest ih =>
      rw [insertDue]
      split
      · exact (ih.cons first).trans (.swap item first rest)
      · exact .refl _

theorem mem_insertDue {other : α} : other ∈ insertDue due item queue ↔
    other = item ∨ other ∈ queue := by
  rw [perm_insertDue.mem_iff, List.mem_cons]

theorem pairwise_insertDue (h : queue.Pairwise fun a b => due a ≤ due b) :
    (insertDue due item queue).Pairwise fun a b => due a ≤ due b := by
  induction queue with
  | nil => exact List.pairwise_singleton _ _
  | cons first rest ih =>
      obtain ⟨hfirst, hrest⟩ := List.pairwise_cons.mp h
      rw [insertDue]
      split
      · rename_i hle
        refine List.pairwise_cons.mpr ⟨?_, ih hrest⟩
        intro other hother
        rcases mem_insertDue.mp hother with rfl | hother
        · exact hle
        · exact hfirst other hother
      · rename_i hlt
        refine List.pairwise_cons.mpr ⟨?_, h⟩
        have hle : due item ≤ due first := Nat.le_of_not_le hlt
        intro other hother
        rcases List.mem_cons.mp hother with rfl | hother
        · exact hle
        · exact hle.trans (hfirst other hother)

/-- An item goes behind its own kind when it is due last among them. -/
theorem filter_insertDue {p : α → Bool} (hitem : p item = true)
    (hsorted : queue.Pairwise fun a b => due a ≤ due b)
    (h : ∀ other ∈ queue, p other = true → due other ≤ due item) :
    (insertDue due item queue).filter p = queue.filter p ++ [item] := by
  induction queue with
  | nil => simp [insertDue, hitem]
  | cons first rest ih =>
      obtain ⟨hfirst, hrest⟩ := List.pairwise_cons.mp hsorted
      rw [insertDue]
      split
      · rw [List.filter_cons, List.filter_cons, ih hrest fun other hother =>
          h other (List.mem_cons_of_mem first hother)]
        split <;> rfl
      · rename_i hlt
        -- everything from here on is due later, so none of it is of the item's kind
        have hnone : (first :: rest).filter p = [] := by
          apply List.filter_eq_nil_iff.mpr
          intro other hother hp
          have hle := h other hother hp
          rcases List.mem_cons.mp hother with rfl | hmem
          · exact hlt hle
          · exact hlt ((hfirst other hmem).trans hle)
        rw [List.filter_cons_of_pos hitem, hnone]
        rfl

/-- An item of another kind does not show. -/
theorem filter_insertDue_of_neg {p : α → Bool} (hitem : ¬p item = true) :
    (insertDue due item queue).filter p = queue.filter p := by
  induction queue with
  | nil => simp [insertDue, hitem]
  | cons first rest ih =>
      rw [insertDue]
      split
      · rw [List.filter_cons, List.filter_cons, ih]
      · rw [List.filter_cons_of_neg hitem]

section Spaced

variable {span : α → Nat} {items : List α}

/-- Each item is due no sooner than every earlier one has run its span. -/
def Spaced (due span : α → Nat) (items : List α) : Prop :=
  items.Pairwise fun a b => due a + span a ≤ due b

/-- The due time of an item is at least the first one's plus all spans in between. -/
theorem Spaced.sum_le (h : Spaced due span items) {k : Nat} {first last : α}
    (hfirst : items.head? = some first) (hlast : items[k]? = some last) :
    due first + ((items.take k).map span).sum ≤ due last := by
  induction items generalizing k first with
  | nil => cases hfirst
  | cons item rest ih =>
      obtain ⟨hitem, hrest⟩ := List.pairwise_cons.mp h
      obtain rfl := Option.some.inj hfirst
      cases k with
      | zero =>
          obtain rfl := Option.some.inj hlast
          exact le_rfl
      | succ k =>
          rw [List.getElem?_cons_succ] at hlast
          cases rest with
          | nil => cases hlast
          | cons second others =>
              have hspan := hitem second List.mem_cons_self
              have hlater := ih hrest rfl hlast
              rw [List.take_succ_cons, List.map_cons, List.sum_cons]
              omega

theorem Spaced.append (h : Spaced due span items)
    (hitem : ∀ earlier ∈ items, due earlier + span earlier ≤ due item) :
    Spaced due span (items ++ [item]) := by
  refine List.pairwise_append.mpr ⟨h, List.pairwise_singleton _ _, ?_⟩
  intro earlier hearlier last hlast
  obtain rfl := List.mem_singleton.mp hlast
  exact hitem earlier hearlier

end Spaced

section Consecutive

variable {ready span : α → Nat} {items : List α}

/-- Each item is ready no sooner than its own span after every earlier one. -/
def Consecutive (ready span : α → Nat) (items : List α) : Prop :=
  items.Pairwise fun a b => ready a + span b ≤ ready b

theorem Consecutive.append (h : Consecutive ready span items)
    (hitem : ∀ earlier ∈ items, ready earlier + span item ≤ ready item) :
    Consecutive ready span (items ++ [item]) := by
  refine List.pairwise_append.mpr ⟨h, List.pairwise_singleton _ _, ?_⟩
  intro earlier hearlier last hlast
  obtain rfl := List.mem_singleton.mp hlast
  exact hitem earlier hearlier

/-- The spans of items that run and become ready between two times fit between them. -/
theorem Consecutive.sum_le (h : Consecutive ready span items) {lo hi : Nat} (hle : lo ≤ hi)
    (hlo : ∀ item ∈ items, lo + span item ≤ ready item) (hhi : ∀ item ∈ items, ready item ≤ hi) :
    lo + (items.map span).sum ≤ hi := by
  induction items generalizing lo with
  | nil => simpa using hle
  | cons item rest ih =>
      obtain ⟨hitem, hrest⟩ := List.pairwise_cons.mp h
      have hfirst := hlo item List.mem_cons_self
      have hlater := ih hrest (hhi item List.mem_cons_self) hitem fun other hother =>
        hhi other (List.mem_cons_of_mem item hother)
      rw [List.map_cons, List.sum_cons]
      omega

end Consecutive

end VirtualDualSense.Lib.DueQueue
