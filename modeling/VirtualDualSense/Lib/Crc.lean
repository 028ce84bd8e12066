import Mathlib.Data.BitVec
import Mathlib.Logic.Function.Iterate

/-!
# Reflected cyclic redundancy checks

The register shifts right and takes the bits of the message one at a time, the least
significant bit of each word first. A register that takes a whole word at once looks up
the effect of the bits that leave it; both are linear in exclusive or.
-/

namespace VirtualDualSense.Lib.Crc

variable {w k : Nat} (poly : BitVec w)

/-- Take one bit of the message. -/
def feed (state : BitVec w) (bit : Bool) : BitVec w :=
  if state.getLsbD 0 != bit then (state >>> 1) ^^^ poly else state >>> 1

/-- Take the bits of a word, least significant bit first. -/
def feedWord (state : BitVec w) (word : BitVec k) : BitVec w :=
  (List.range k).foldl (fun state i => feed poly state (word.getLsbD i)) state

/-- The check of a message: the register starts with all ones and is complemented at the
end. -/
def crc (message : List (BitVec k)) : BitVec w :=
  ~~~message.foldl (feedWord poly) (BitVec.allOnes w)

/-- A round without a bit of the message. -/
def round (state : BitVec w) : BitVec w := feed poly state false

variable {poly} {state x y : BitVec w} {i n : Nat}

section Linear

theorem round_eq : round poly x = (x >>> 1) ^^^ (if x.getLsbD 0 then poly else 0) := by
  cases h : x.getLsbD 0 with
  | false => simp [round, feed, h]
  | true => simp [round, feed, h]

theorem round_xor : round poly (x ^^^ y) = round poly x ^^^ round poly y := by
  have hpoly : ∀ a b : Bool, (if (a ^^ b) then poly else 0) =
      (if a then poly else 0) ^^^ (if b then poly else 0) := by
    intro a b
    cases a <;> cases b <;> simp
  rw [round_eq, round_eq, round_eq, BitVec.ushiftRight_xor_distrib, BitVec.getLsbD_xor, hpoly]
  ac_rfl

theorem iterate_round_xor (n : Nat) (x y : BitVec w) :
    (round poly)^[n] (x ^^^ y) = (round poly)^[n] x ^^^ (round poly)^[n] y := by
  induction n generalizing x y with
  | zero => rfl
  | succ n ih => rw [Function.iterate_succ_apply, round_xor, ih]; rfl

/-- A word whose low bits are clear only moves down. -/
theorem iterate_round_of_clear (h : ∀ i < n, x.getLsbD i = false) :
    (round poly)^[n] x = x >>> n := by
  induction n with
  | zero => simp
  | succ n ih =>
      have hlow : (x >>> n).getLsbD 0 = false := by
        rw [BitVec.getLsbD_ushiftRight, Nat.add_zero]
        exact h n (Nat.lt_succ_self n)
      rw [Function.iterate_succ_apply', ih fun i hi => h i (Nat.lt_succ_of_lt hi), round_eq, hlow,
        BitVec.shiftRight_add]
      simp

theorem iterate_round_twoPow (h : i < w) :
    (round poly)^[i] (BitVec.twoPow w i) = BitVec.twoPow w 0 := by
  rw [iterate_round_of_clear]
  · apply BitVec.eq_of_getLsbD_eq
    intro j hj
    rw [BitVec.getLsbD_ushiftRight, BitVec.getLsbD_twoPow, BitVec.getLsbD_twoPow]
    simp only [h, Nat.zero_lt_of_lt h, decide_true, Bool.true_and, decide_eq_decide]
    omega
  · intro j hj
    rw [BitVec.getLsbD_twoPow]
    simp only [Bool.and_eq_false_imp, decide_eq_true_eq, decide_eq_false_iff_not]
    omega

end Linear

section Words

/-- A bit of the message meets the bit that leaves the register. -/
theorem feed_eq_round (hw : 0 < w) (bit : Bool) :
    feed poly state bit = round poly (state ^^^ if bit then BitVec.twoPow w 0 else 0) := by
  have hshift : (BitVec.twoPow w 0) >>> 1 = 0 := by
    apply BitVec.eq_of_getLsbD_eq
    intro j _
    simp only [BitVec.getLsbD_ushiftRight, BitVec.getLsbD_twoPow, BitVec.ofNat_eq_ofNat,
      BitVec.getLsbD_zero, Bool.and_eq_false_imp, decide_eq_true_eq, decide_eq_false_iff_not]
    omega
  cases bit with
  | false => simp [round]
  | true =>
      have hbit : (state ^^^ BitVec.twoPow w 0).getLsbD 0 = !state.getLsbD 0 := by
        simp [hw]
      rw [if_pos rfl, round_eq, hbit, BitVec.ushiftRight_xor_distrib, hshift]
      cases h : state.getLsbD 0 <;> simp [feed, h]

/-- The first `n` bits of a word, one more at a time. -/
theorem setWidth_succ_eq_xor (word : BitVec k) :
    (word.setWidth (n + 1)).setWidth w = (word.setWidth n).setWidth w ^^^
      (if word.getLsbD n then BitVec.twoPow w n else 0) := by
  apply BitVec.eq_of_getLsbD_eq
  intro j hj
  have hbit : (if word.getLsbD n then BitVec.twoPow w n else 0 : BitVec w).getLsbD j =
      (word.getLsbD n && decide (n = j)) := by
    cases word.getLsbD n with
    | false => simp
    | true => simp [BitVec.getLsbD_twoPow]; omega
  rw [BitVec.getLsbD_xor, hbit]
  simp only [BitVec.getLsbD_setWidth, hj, decide_true, Bool.true_and]
  obtain hlt | rfl | hgt := Nat.lt_trichotomy j n
  · simp [hlt, Nat.lt_succ_of_lt hlt, (Nat.ne_of_lt hlt).symm]
  · simp
  · simp [Nat.not_lt_of_lt hgt, Nat.not_lt_of_le hgt, Nat.ne_of_lt hgt]

theorem foldl_feed (hw : n ≤ w) (word : BitVec k) :
    (List.range n).foldl (fun state i => feed poly state (word.getLsbD i)) state =
      (round poly)^[n] (state ^^^ (word.setWidth n).setWidth w) := by
  induction n with
  | zero =>
      have hnone : (word.setWidth 0).setWidth w = 0 := by
        apply BitVec.eq_of_getLsbD_eq
        simp
      rw [hnone]
      simp
  | succ n ih =>
      have hbit : (round poly)^[n] (if word.getLsbD n then BitVec.twoPow w n else 0) =
          if word.getLsbD n then BitVec.twoPow w 0 else 0 := by
        cases word.getLsbD n with
        | false =>
            have hclear : (round poly)^[n] 0#w = 0#w >>> n := iterate_round_of_clear (by simp)
            simpa using hclear
        | true => exact iterate_round_twoPow hw
      rw [List.range_succ, List.foldl_append, ih (Nat.le_of_succ_le hw), List.foldl_cons,
        List.foldl_nil, feed_eq_round (Nat.zero_lt_of_lt hw), ← hbit, ← iterate_round_xor,
        BitVec.xor_assoc, ← setWidth_succ_eq_xor, ← Function.iterate_succ_apply' (round poly)]

/-- Taking a word bit by bit is shifting it out and adding what the bits that left the
register do. -/
theorem feedWord_eq (hw : k ≤ w) (word : BitVec k) :
    feedWord poly state word = (state >>> k) ^^^
      (round poly)^[k] (((state ^^^ word.setWidth w).setWidth k).setWidth w) := by
  generalize hx : state ^^^ word.setWidth w = x
  have hsplit : x = ((x >>> k) <<< k) ^^^ (x.setWidth k).setWidth w := by
    apply BitVec.eq_of_getLsbD_eq
    intro j hj
    simp only [BitVec.getLsbD_xor, BitVec.getLsbD_shiftLeft, BitVec.getLsbD_ushiftRight,
      BitVec.getLsbD_setWidth, hj, decide_true, Bool.true_and]
    by_cases hlow : j < k
    · simp [hlow]
    · simp [hlow, Nat.add_sub_cancel' (Nat.le_of_not_lt hlow)]
  have hhigh : (round poly)^[k] ((x >>> k) <<< k) = state >>> k := by
    rw [iterate_round_of_clear]
    · apply BitVec.eq_of_getLsbD_eq
      intro j hj
      rw [← hx]
      simp only [BitVec.getLsbD_ushiftRight, BitVec.getLsbD_shiftLeft, BitVec.getLsbD_xor,
        BitVec.getLsbD_setWidth]
      by_cases hin : k + j < w
      · simp [hin]
      · simp [hin, BitVec.getLsbD_of_ge state (k + j) (Nat.le_of_not_lt hin)]
    · intro j hj
      simp [BitVec.getLsbD_shiftLeft, hj]
  rw [feedWord, foldl_feed hw, BitVec.setWidth_eq, hx, ← hhigh, ← iterate_round_xor, ← hsplit]

end Words

end VirtualDualSense.Lib.Crc
