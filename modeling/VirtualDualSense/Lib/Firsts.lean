import Mathlib.Data.List.Basic
import Mathlib.Data.List.Pairwise

/-!
# The first items of each key, up to a limit

Items are collected in order. One whose key was collected already is left out, and so is
every item once the limit is reached. Items without a key stand for themselves.
-/

namespace VirtualDualSense.Lib.Firsts

variable {α K : Type*} [DecidableEq K] (limit : Nat) (key : α → Option K)

/-- The item has a key that was collected. -/
def Repeats (kept : List α) (item : α) : Prop := key item ≠ none ∧ key item ∈ kept.map key

instance (kept : List α) (item : α) : Decidable (Repeats key kept item) :=
  inferInstanceAs (Decidable (_ ∧ _))

def add (kept : List α) (item : α) : List α :=
  if limit ≤ kept.length ∨ Repeats key kept item then kept else kept ++ [item]

def collect (kept items : List α) : List α := items.foldl (add limit key) kept

variable {limit key} {kept items : List α} {item : α}

@[simp] theorem collect_nil (kept : List α) : collect limit key kept [] = kept := rfl

@[simp] theorem collect_cons (kept : List α) (item : α) (items : List α) :
    collect limit key kept (item :: items) =
      collect limit key (add limit key kept item) items := rfl

theorem collect_append (kept items more : List α) :
    collect limit key kept (items ++ more) =
      collect limit key (collect limit key kept items) more :=
  List.foldl_append

theorem isPrefix_add (kept : List α) (item : α) : kept <+: add limit key kept item := by
  unfold add
  split
  · exact List.prefix_rfl
  · exact List.prefix_append ..

theorem isPrefix_collect (kept items : List α) : kept <+: collect limit key kept items := by
  induction items generalizing kept with
  | nil => exact List.prefix_rfl
  | cons item rest ih => exact (isPrefix_add kept item).trans (ih _)

/-- What is collected is added at the end, in the order of the items. -/
theorem exists_collect_eq_append (limit : Nat) (key : α → Option K) (kept items : List α) :
    ∃ added, collect limit key kept items = kept ++ added ∧ added.Sublist items := by
  induction items generalizing kept with
  | nil => exact ⟨[], (List.append_nil _).symm, .slnil⟩
  | cons item rest ih =>
      rw [collect_cons, add]
      split
      · obtain ⟨added, hadded, hsublist⟩ := ih kept
        exact ⟨added, hadded, hsublist.cons item⟩
      · obtain ⟨added, hadded, hsublist⟩ := ih (kept ++ [item])
        exact ⟨item :: added, by rw [hadded, List.append_assoc]; rfl, hsublist.cons_cons item⟩

theorem length_collect_le (h : kept.length ≤ limit) :
    (collect limit key kept items).length ≤ limit := by
  induction items generalizing kept with
  | nil => exact h
  | cons item rest ih =>
      refine ih ?_
      unfold add
      split
      · exact h
      · rename_i hnew
        rw [List.length_append, List.length_singleton]
        omega

/-- Nothing is collected beyond the limit. -/
theorem collect_of_full (h : limit ≤ kept.length) : collect limit key kept items = kept := by
  induction items with
  | nil => rfl
  | cons item rest ih =>
      rw [collect_cons, add, if_pos (.inl h)]
      exact ih

/-- An item that was collected was there before or is one of the items, with a new key. -/
theorem mem_collect (h : item ∈ collect limit key kept items) :
    item ∈ kept ∨ item ∈ items ∧ ¬Repeats key kept item := by
  induction items generalizing kept with
  | nil => exact .inl h
  | cons first rest ih =>
      rcases ih h with hkept | ⟨hrest, hnew⟩
      · unfold add at hkept
        split at hkept
        · exact .inl hkept
        · rename_i hfirst
          rcases List.mem_append.mp hkept with hkept | hkept
          · exact .inl hkept
          · obtain rfl := List.mem_singleton.mp hkept
            exact .inr ⟨List.mem_cons_self, fun hrepeats => hfirst (.inr hrepeats)⟩
      · refine .inr ⟨List.mem_cons_of_mem _ hrest, fun hrepeats => hnew ⟨hrepeats.1, ?_⟩⟩
        exact List.map_subset key (isPrefix_add kept first).subset hrepeats.2

/-- Two collected items do not share a key. -/
theorem pairwise_collect (h : kept.Pairwise fun first second => key first = none ∨
      key first ≠ key second) :
    (collect limit key kept items).Pairwise fun first second => key first = none ∨
      key first ≠ key second := by
  induction items generalizing kept with
  | nil => exact h
  | cons item rest ih =>
      refine ih ?_
      unfold add
      split
      · exact h
      · rename_i hnew
        refine List.pairwise_append.mpr ⟨h, List.pairwise_singleton .., ?_⟩
        intro first hfirst last hlast
        obtain rfl := List.mem_singleton.mp hlast
        by_cases hnone : key first = none
        · exact .inl hnone
        · refine .inr fun hsame => hnew (.inr ⟨hsame ▸ hnone, ?_⟩)
          exact hsame ▸ List.mem_map_of_mem hfirst

/-- The item is in a list, or another one of its key. -/
def Represented (key : α → Option K) (kept : List α) (item : α) : Prop :=
  item ∈ kept ∨ Repeats key kept item

omit [DecidableEq K] in
theorem Represented.mono {more : List α} (h : Represented key kept item) (hmore : kept ⊆ more) :
    Represented key more item := by
  rcases h with hmem | ⟨hsome, hkey⟩
  · exact .inl (hmore hmem)
  · exact .inr ⟨hsome, List.map_subset key hmore hkey⟩

/-- Every item is represented unless the limit is reached. -/
theorem represented_collect (h : item ∈ items) :
    limit ≤ (collect limit key kept items).length ∨
      Represented key (collect limit key kept items) item := by
  induction items generalizing kept with
  | nil => cases h
  | cons first rest ih =>
      rcases List.mem_cons.mp h with rfl | hrest
      · have hprefix : _ <+: collect limit key _ rest :=
          isPrefix_collect (add limit key kept item) rest
        by_cases hfull : limit ≤ kept.length
        · exact .inl (Nat.le_trans hfull ((isPrefix_add kept item).trans hprefix).length_le)
        · refine .inr (Represented.mono ?_ hprefix.subset)
          unfold add
          split
          · rename_i hskip
            exact .inr (hskip.resolve_left hfull)
          · exact .inl (List.mem_append_right _ (List.mem_singleton.mpr rfl))
      · exact ih hrest

end VirtualDualSense.Lib.Firsts
