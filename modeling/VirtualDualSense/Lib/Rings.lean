import Mathlib.Algebra.Order.Ring.Int
import Mathlib.Data.List.GetD
import Mathlib.Data.List.OfFn

/-!
# Ring buffers

A ring buffer keeps a queue in an array: the cells from `head` on, and past the end of the
array those from its start. A block that crosses the end is copied in two parts. The copies
refuse to leave the array, so that a copy that succeeds stays inside it.
-/

namespace VirtualDualSense.Lib.Rings

variable {α : Type*} {n : Nat}

section Copies

/-- Copy a block into the array. -/
def copyIn (cells : Fin n → α) (offset : Nat) (block : List α) : Option (Fin n → α) :=
  if offset + block.length ≤ n then
    some fun i => if offset ≤ i.val then block.getD (i.val - offset) (cells i) else cells i
  else none

/-- Copy a block out of the array. -/
def copyOut (cells : Fin n → α) (offset count : Nat) : Option (List α) :=
  if h : offset + count ≤ n then
    some (List.ofFn fun k : Fin count => cells ⟨offset + k.val, by omega⟩)
  else none

/-- Read a block of a buffer. -/
def fetch (buffer : List α) (offset count : Nat) : Option (List α) :=
  if offset + count ≤ buffer.length then some ((buffer.drop offset).take count) else none

/-- Write a block into a buffer. -/
def store (buffer : List α) (offset : Nat) (block : List α) : Option (List α) :=
  if offset + block.length ≤ buffer.length then
    some (buffer.take offset ++ block ++ buffer.drop (offset + block.length))
  else none

theorem fetch_front (buffer : List α) {count : Nat} (h : count ≤ buffer.length) :
    fetch buffer 0 count = some (buffer.take count) := by
  rw [fetch, if_pos (by omega), List.drop_zero]

theorem fetch_rest (buffer : List α) {offset count : Nat} (h : offset + count = buffer.length) :
    fetch buffer offset count = some (buffer.drop offset) := by
  rw [fetch, if_pos h.le, List.take_of_length_le]
  rw [List.length_drop]
  omega

theorem store_front (buffer : List α) {block : List α} (h : block.length ≤ buffer.length) :
    store buffer 0 block = some (block ++ buffer.drop block.length) := by
  rw [store, if_pos (by omega), List.take_zero, List.nil_append, Nat.zero_add]

/-- A block behind one that was just written. -/
theorem store_append (front block rest : List α) (h : block.length ≤ rest.length) :
    store (front ++ rest) front.length block = some (front ++ block ++ rest.drop block.length) := by
  rw [store, if_pos (by rw [List.length_append]; omega), List.take_left,
    List.drop_append, List.drop_eq_nil_of_le (by omega), List.nil_append, Nat.add_sub_cancel_left]

theorem copyIn_apply {cells cells' : Fin n → α} {offset : Nat} {block : List α}
    (h : copyIn cells offset block = some cells') (i : Fin n) :
    cells' i = if offset ≤ i.val then block.getD (i.val - offset) (cells i) else cells i := by
  obtain ⟨-, h⟩ := Option.ite_none_right_eq_some.mp h
  rw [← Option.some.inj h]

theorem exists_copyIn (cells : Fin n → α) {offset : Nat} {block : List α}
    (h : offset + block.length ≤ n) : ∃ cells', copyIn cells offset block = some cells' :=
  ⟨_, if_pos h⟩

end Copies

section Queue

variable [NeZero n] {cells cells' : Fin n → α} {head size : Nat}

/-- The queue in the array. -/
def contents (cells : Fin n → α) (head size : Nat) : List α :=
  (List.range size).map fun k => cells (Fin.ofNat n (head + k))

@[simp] theorem length_contents (cells : Fin n → α) (head size : Nat) :
    (contents cells head size).length = size := by
  simp [contents]

theorem getElem?_contents {k : Nat} (h : k < size) :
    (contents cells head size)[k]? = some (cells (Fin.ofNat n (head + k))) := by
  rw [contents, List.getElem?_map, List.getElem?_range h]
  rfl

@[simp] theorem contents_zero (cells : Fin n → α) (head : Nat) : contents cells head 0 = [] := rfl

/-- The head only counts modulo the size of the array. -/
theorem contents_mod (cells : Fin n → α) (head size : Nat) :
    contents cells (head % n) size = contents cells head size := by
  refine List.map_congr_left fun k _ => congrArg cells ?_
  exact Fin.ext (Nat.mod_add_mod head n k)

theorem contents_append (cells : Fin n → α) (head size more : Nat) :
    contents cells head (size + more) =
      contents cells head size ++ contents cells (head + size) more := by
  simp only [contents, List.range_add, List.map_append, List.map_map]
  congr 1
  refine List.map_congr_left fun k _ => ?_
  rw [Function.comp_apply, Nat.add_assoc]

theorem take_contents {count : Nat} (h : count ≤ size) :
    (contents cells head size).take count = contents cells head count := by
  obtain ⟨more, rfl⟩ := Nat.exists_eq_add_of_le h
  rw [contents_append, List.take_left' (length_contents cells head count)]

theorem drop_contents {count : Nat} (h : count ≤ size) :
    (contents cells head size).drop count = contents cells (head + count) (size - count) := by
  obtain ⟨more, rfl⟩ := Nat.exists_eq_add_of_le h
  rw [contents_append, List.drop_left' (length_contents cells head count), Nat.add_sub_cancel_left]

theorem contents_congr (h : ∀ k < size, cells' (Fin.ofNat n (head + k)) =
    cells (Fin.ofNat n (head + k))) : contents cells' head size = contents cells head size :=
  List.map_congr_left fun k hk => h k (List.mem_range.mp hk)

/-- A block of the array that does not cross its end. -/
theorem copyOut_eq {count : Nat} (h : head + count ≤ n) :
    copyOut cells head count = some (contents cells head count) := by
  rw [copyOut, dif_pos h]
  refine congrArg some (List.ext_getElem? fun k => ?_)
  by_cases hk : k < count
  · rw [getElem?_contents hk, List.getElem?_ofFn, dif_pos hk]
    refine congrArg (fun i => some (cells i)) (Fin.ext ?_)
    exact (Nat.mod_eq_of_lt (by omega)).symm
  · rw [List.getElem?_eq_none, List.getElem?_eq_none]
    · rw [length_contents]
      omega
    · rw [List.length_ofFn]
      omega

end Queue

section Wrapped

variable {cells cells' : Fin n → α} {head size : Nat}

/-- Copy a block into the array from `tail` on, and past its end from the start. -/
def writeAround (cells : Fin n → α) (tail : Nat) (block : List α) : Option (Fin n → α) :=
  let first := min block.length (n - tail)
  (copyIn cells tail (block.take first)).bind fun cells =>
    if first < block.length then copyIn cells 0 (block.drop first) else some cells

/-- Copy a block out of the array in the same way. -/
def readAround (cells : Fin n → α) (head count : Nat) : Option (List α) :=
  let first := min count (n - head)
  (copyOut cells head first).bind fun block =>
    if first < count then (copyOut cells 0 (count - first)).map (block ++ ·) else some block

/-- Both parts of a block that fits the array stay inside it. -/
theorem exists_writeAround (cells : Fin n → α) {tail : Nat} {block : List α} (htail : tail < n)
    (hblock : block.length ≤ n) : ∃ cells', writeAround cells tail block = some cells' := by
  have hfirst : tail + (block.take (min block.length (n - tail))).length ≤ n := by
    rw [List.length_take]
    omega
  obtain ⟨middle, hmiddle⟩ := exists_copyIn cells hfirst
  simp only [writeAround, hmiddle, Option.bind_some]
  split_ifs with hmore
  · apply exists_copyIn
    rw [List.length_drop]
    omega
  · exact ⟨middle, rfl⟩

variable [NeZero n]

/-- Where each cell comes from, counted from the tail. -/
theorem writeAround_apply {tail k : Nat} {block : List α} (htail : tail < n)
    (hblock : block.length ≤ n) (h : writeAround cells tail block = some cells') (hk : k < n) :
    cells' (Fin.ofNat n (tail + k)) = block.getD k (cells (Fin.ofNat n (tail + k))) := by
  obtain ⟨middle, hmiddle, h⟩ := Option.bind_eq_some_iff.mp h
  have hindex : (Fin.ofNat n (tail + k)).val = if tail + k < n then tail + k else tail + k - n := by
    split_ifs with hend
    · exact Nat.mod_eq_of_lt hend
    · exact (Nat.mod_eq_sub_mod (Nat.le_of_not_lt hend)).trans (Nat.mod_eq_of_lt (by omega))
  have hcell := copyIn_apply hmiddle (Fin.ofNat n (tail + k))
  generalize Fin.ofNat n (tail + k) = i at hindex hcell ⊢
  simp only [List.getD_eq_getElem?_getD, List.getElem?_take] at hcell ⊢
  split_ifs at h with hmore
  · rw [copyIn_apply h, if_pos (Nat.zero_le _), Nat.sub_zero, List.getD_eq_getElem?_getD,
      List.getElem?_drop, hcell]
    by_cases hend : tail + k < n
    · -- the cell is before the end of the array, and the second part does not get there
      rw [if_pos hend] at hindex
      rw [List.getElem?_eq_none (by omega), if_pos (by omega), if_pos (by omega), Option.getD_none]
      congr 3
      omega
    · rw [if_neg hend] at hindex
      rw [if_neg (by omega : ¬tail ≤ i.val)]
      congr 2
      omega
  · obtain rfl := Option.some.inj h
    rw [hcell]
    by_cases hend : tail + k < n
    · rw [if_pos hend] at hindex
      rw [if_pos (by omega), hindex, Nat.add_sub_cancel_left]
      split_ifs
      · rfl
      · rw [List.getElem?_eq_none (by omega)]
    · rw [if_neg hend] at hindex
      rw [if_neg (by omega), List.getElem?_eq_none (by omega), Option.getD_none]

/-- The two parts of a queue are the queue. -/
theorem readAround_eq {count : Nat} (hhead : head < n) (hcount : count ≤ n) :
    readAround cells head count = some (contents cells head count) := by
  simp only [readAround]
  rw [copyOut_eq (by omega), Option.bind_some]
  split_ifs with hmore
  · have hsplit : count = n - head + (count - min count (n - head)) := by omega
    have hfirst : min count (n - head) = n - head := by omega
    have hstart : contents cells (head + (n - head)) (count - (n - head)) =
        contents cells 0 (count - (n - head)) := by
      rw [Nat.add_sub_cancel' hhead.le, ← contents_mod, Nat.mod_self]
    rw [copyOut_eq (by omega), Option.map_some, hfirst, ← hstart, ← contents_append,
      Nat.add_sub_cancel' (by omega)]
  · rw [Nat.min_eq_left (by omega)]

/-- A block behind the tail extends the queue. -/
theorem contents_writeAround {block : List α} (hroom : size + block.length ≤ n)
    (h : writeAround cells ((head + size) % n) block = some cells') :
    contents cells' head (size + block.length) = contents cells head size ++ block := by
  have happly : ∀ k < n, cells' (Fin.ofNat n (head + size + k)) =
      block.getD k (cells (Fin.ofNat n (head + size + k))) := by
    intro k hk
    have hindex : Fin.ofNat n (head + size + k) = Fin.ofNat n ((head + size) % n + k) :=
      Fin.ext (Nat.mod_add_mod (head + size) n k).symm
    rw [hindex]
    exact writeAround_apply (Nat.mod_lt _ (Nat.pos_of_neZero n)) (by omega) h hk
  have hold : contents cells' head size = contents cells head size := by
    refine contents_congr fun k hk => ?_
    -- the cell is reached from the tail by going around
    have hindex : Fin.ofNat n (head + k) = Fin.ofNat n (head + size + (n - size + k)) := by
      refine Fin.ext ?_
      have hsum : head + size + (n - size + k) = head + k + n := by omega
      change (head + k) % n = (head + size + (n - size + k)) % n
      rw [hsum, Nat.add_mod_right]
    rw [hindex, happly _ (by omega), List.getD_eq_default _ _ (by omega)]
  have hnew : contents cells' (head + size) block.length = block := by
    refine List.ext_getElem? fun k => ?_
    by_cases hk : k < block.length
    · rw [getElem?_contents hk, happly k (by omega), List.getD_eq_getElem?_getD,
        List.getElem?_eq_getElem hk, Option.getD_some]
    · rw [List.getElem?_eq_none (Nat.le_of_not_lt hk), List.getElem?_eq_none]
      rw [length_contents]
      exact Nat.le_of_not_lt hk
  rw [contents_append, hold, hnew]

end Wrapped

end VirtualDualSense.Lib.Rings
