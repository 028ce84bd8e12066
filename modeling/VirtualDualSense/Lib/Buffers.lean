import Mathlib.Algebra.Order.Ring.Int
import Mathlib.Data.UInt
import Mathlib.Data.List.GetD

/-!
# Fixed-size buffers

Byte arrays of a fixed size that are written one entry or one block at a time,
and where each entry of the result comes from.
-/

namespace VirtualDualSense.Lib.Buffers

variable {α : Type*} {n : Nat}

/-- Write one entry. -/
def put (buffer : Vector α n) (i : Fin n) (value : α) : Vector α n :=
  buffer.set i.val value i.isLt

@[simp] theorem get_put (buffer : Vector α n) (i j : Fin n) (value : α) :
    (put buffer i value).get j = if i = j then value else buffer.get j := by
  change (buffer.set i.val value i.isLt)[j.val] = _
  rw [Vector.getElem_set]
  simp only [Fin.ext_iff]
  rfl

theorem getElem?_toList (buffer : Vector α n) (i : Fin n) :
    buffer.toList[i.val]? = some (buffer.get i) := by
  rw [List.getElem?_eq_getElem (by simp)]
  simp only [Vector.getElem_toList]
  rfl

/-- Write a block from `offset` on; what does not fit is dropped. -/
def overwrite (buffer : Vector α n) (offset : Nat) (block : List α) : Vector α n :=
  Vector.ofFn fun i =>
    if offset ≤ i.val then block.getD (i.val - offset) (buffer.get i) else buffer.get i

theorem get_overwrite (buffer : Vector α n) (offset : Nat) (block : List α) (i : Fin n) :
    (overwrite buffer offset block).get i =
      if offset ≤ i.val then block.getD (i.val - offset) (buffer.get i) else buffer.get i := by
  change (overwrite buffer offset block)[i.val] = _
  rw [overwrite, Vector.getElem_ofFn]

/-- An entry before or behind the block keeps its value. -/
theorem get_overwrite_of_outside (buffer : Vector α n) {offset : Nat} {block : List α} {i : Fin n}
    (h : i.val < offset ∨ offset + block.length ≤ i.val) :
    (overwrite buffer offset block).get i = buffer.get i := by
  rw [get_overwrite]
  by_cases hoffset : offset ≤ i.val
  · rw [if_pos hoffset, List.getD_eq_default]
    omega
  · rw [if_neg hoffset]

/-- An entry under the block has the block's value. -/
theorem get_overwrite_of_inside (buffer : Vector α n) {offset : Nat} {block : List α} {i : Fin n}
    {value : α} (hoffset : offset ≤ i.val) (h : block[i.val - offset]? = some value) :
    (overwrite buffer offset block).get i = value := by
  rw [get_overwrite, if_pos hoffset, List.getD_eq_getElem?_getD, h]
  rfl

/-- A block at the start of the buffer. -/
theorem take_toList_overwrite (buffer : Vector α n) {block : List α} (h : block.length ≤ n) :
    (overwrite buffer 0 block).toList.take block.length = block := by
  refine List.ext_getElem? fun i => ?_
  rw [List.getElem?_take]
  split_ifs with hi
  · have hget := getElem?_toList (overwrite buffer 0 block) ⟨i, Nat.lt_of_lt_of_le hi h⟩
    have hvalue : block[i]? = some block[i] := List.getElem?_eq_getElem hi
    rw [hget, get_overwrite_of_inside buffer (Nat.zero_le i) hvalue, hvalue]
  · rw [List.getElem?_eq_none (Nat.le_of_not_lt hi)]

/-- A block at the end of the buffer. -/
theorem toList_overwrite_end (buffer : Vector α n) {block : List α} {k : Nat}
    (hlength : block.length = k) (hfits : k ≤ n) :
    (overwrite buffer (n - k) block).toList = buffer.toList.take (n - k) ++ block := by
  apply List.ext_getElem
  · simp
    omega
  · intro i hleft hright
    have hi : i < n := by simpa using hleft
    rw [Vector.getElem_toList]
    change (overwrite buffer (n - k) block).get ⟨i, hi⟩ = _
    by_cases hin : n - k ≤ i
    · rw [List.getElem_append_right (by simpa using hin)]
      refine get_overwrite_of_inside buffer hin ?_
      rw [List.getElem?_eq_getElem (by simp; omega)]
      simp
    · rw [get_overwrite_of_outside buffer (.inl (Nat.lt_of_not_le hin)),
        List.getElem_append_left (by simp; omega)]
      simp [Vector.get]

end VirtualDualSense.Lib.Buffers
