import Mathlib.Data.Set.Insert
import Mathlib.Data.List.Basic

/-!
# Lists of whole blocks

A stream whose items come in blocks of one size stays a stream of the same blocks as
long as it is cut at block boundaries only.
-/

namespace VirtualDualSense.Lib.Blocks

variable {α : Type*} {n k : Nat} {S T : Set (List α)} {items more block : List α}

/-- The whole blocks of `n` items. -/
def blocks (n : Nat) (items : List α) : List (List α) :=
  (List.range (items.length / n)).map fun i => (items.drop (n * i)).take n

theorem mem_blocks (hn : 0 < n) : block ∈ blocks n items ↔
    ∃ i, n * i + n ≤ items.length ∧ block = (items.drop (n * i)).take n := by
  have hlt : ∀ i, i < items.length / n ↔ n * i + n ≤ items.length := by
    intro i
    rw [Nat.lt_iff_add_one_le, Nat.le_div_iff_mul_le hn, Nat.mul_comm, Nat.mul_succ]
  simp only [blocks, List.mem_map, List.mem_range, hlt]
  constructor
  · rintro ⟨i, hi, rfl⟩
    exact ⟨i, hi, rfl⟩
  · rintro ⟨i, hi, rfl⟩
    exact ⟨i, hi, rfl⟩

/-- The blocks of several lists. -/
def blocksOf (n : Nat) (lists : List (List α)) : Set (List α) :=
  {block | ∃ items ∈ lists, block ∈ blocks n items}

theorem blocksOf_subset_append (n : Nat) (lists more : List (List α)) :
    blocksOf n lists ⊆ blocksOf n (lists ++ more) := by
  rintro block ⟨items, hitems, hblock⟩
  exact ⟨items, List.mem_append_left _ hitems, hblock⟩

/-- The items are whole blocks, and each block is one of `S`. -/
structure MadeOf (n : Nat) (S : Set (List α)) (items : List α) : Prop where
  whole : n ∣ items.length
  mem : ∀ block ∈ blocks n items, block ∈ S

namespace MadeOf

theorem nil : MadeOf n S ([] : List α) where
  whole := Nat.dvd_zero n
  mem := by simp [blocks]

theorem mono (h : MadeOf n S items) (hST : S ⊆ T) : MadeOf n T items :=
  ⟨h.whole, fun block hblock => hST (h.mem block hblock)⟩

theorem append (hn : 0 < n) (h : MadeOf n S items) (hmore : MadeOf n S more) :
    MadeOf n S (items ++ more) where
  whole := by
    rw [List.length_append]
    exact Nat.dvd_add h.whole hmore.whole
  mem := by
    intro block hblock
    obtain ⟨i, hi, rfl⟩ := (mem_blocks hn).mp hblock
    rw [List.length_append] at hi
    obtain ⟨m, hm⟩ := h.whole
    by_cases hside : i < m
    · -- the block lies in the first list
      have hle : n * i + n ≤ items.length := by
        rw [hm, ← Nat.mul_succ]
        exact Nat.mul_le_mul_left n hside
      apply h.mem
      refine (mem_blocks hn).mpr ⟨i, hle, ?_⟩
      rw [List.drop_append_of_le_length (by omega),
        List.take_append_of_le_length (by rw [List.length_drop]; omega)]
    · obtain ⟨j, rfl⟩ := Nat.exists_eq_add_of_le (Nat.le_of_not_lt hside)
      have hsplit : n * (m + j) = items.length + n * j := by rw [Nat.mul_add, hm]
      apply hmore.mem
      refine (mem_blocks hn).mpr ⟨j, by omega, ?_⟩
      rw [hsplit, ← List.drop_drop, List.drop_left]

theorem drop (hn : 0 < n) (h : MadeOf n S items) (hk : n ∣ k) : MadeOf n S (items.drop k) where
  whole := by
    rw [List.length_drop]
    exact Nat.dvd_sub h.whole hk
  mem := by
    intro block hblock
    obtain ⟨i, hi, rfl⟩ := (mem_blocks hn).mp hblock
    obtain ⟨m, rfl⟩ := hk
    rw [List.length_drop] at hi
    apply h.mem
    refine (mem_blocks hn).mpr ⟨m + i, ?_, ?_⟩
    · rw [Nat.mul_add]
      omega
    · rw [List.drop_drop, Nat.mul_add]

theorem take (hn : 0 < n) (h : MadeOf n S items) (hk : n ∣ k) : MadeOf n S (items.take k) where
  whole := by
    rw [List.length_take]
    rcases Nat.le_total k items.length with hle | hle
    · rwa [Nat.min_eq_left hle]
    · rw [Nat.min_eq_right hle]
      exact h.whole
  mem := by
    intro block hblock
    obtain ⟨i, hi, rfl⟩ := (mem_blocks hn).mp hblock
    rw [List.length_take] at hi
    apply h.mem
    refine (mem_blocks hn).mpr ⟨i, by omega, ?_⟩
    rw [List.drop_take, List.take_take, Nat.min_eq_left (by omega)]

theorem flatten (hn : 0 < n) {lists : List (List α)} (h : ∀ items ∈ lists, MadeOf n S items) :
    MadeOf n S lists.flatten := by
  induction lists with
  | nil => exact nil
  | cons first rest ih =>
      rw [List.flatten_cons]
      apply append hn
      · exact h first List.mem_cons_self
      · apply ih
        intro items hitems
        exact h items (List.mem_cons_of_mem first hitems)

/-- One item over and over is made of that block. -/
theorem replicate (hn : 0 < n) (item : α) (hk : n ∣ k) :
    MadeOf n {List.replicate n item} (List.replicate k item) where
  whole := by rwa [List.length_replicate]
  mem := by
    intro block hblock
    obtain ⟨i, hi, rfl⟩ := (mem_blocks hn).mp hblock
    rw [List.length_replicate] at hi
    rw [List.drop_replicate, List.take_replicate, Nat.min_eq_left (by omega)]
    exact Set.mem_singleton _

/-- A list of whole blocks is made of its own blocks. -/
theorem of_mem {lists : List (List α)} (h : n ∣ items.length) (hitems : items ∈ lists) :
    MadeOf n (blocksOf n lists) items :=
  ⟨h, fun _ hblock => ⟨items, hitems, hblock⟩⟩

/-- Audio made of `S` and padded with whole blocks. -/
theorem padded (hn : 0 < n) (h : MadeOf n S items) (item : α) (hk : n ∣ k) :
    MadeOf n (S ∪ {List.replicate n item}) (items ++ List.replicate k item) := by
  apply append hn
  · exact h.mono Set.subset_union_left
  · exact (replicate hn item hk).mono Set.subset_union_right

end MadeOf

end VirtualDualSense.Lib.Blocks
