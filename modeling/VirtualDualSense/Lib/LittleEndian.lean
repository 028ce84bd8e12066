import Mathlib.Data.Nat.ModEq
import VirtualDualSense.Lib.Words

/-!
# Little-endian numbers

The bytes of a number, lowest first, and the number that bytes spell.
-/

namespace VirtualDualSense.Lib.LittleEndian

open Words

/-- The lowest bytes of a number. -/
def bytesOf : Nat → Nat → List UInt8
  | 0, _ => []
  | count + 1, value => UInt8.ofNat value :: bytesOf count (value / 256)

def valueOf : List UInt8 → Nat
  | [] => 0
  | byte :: rest => byte.toNat + 256 * valueOf rest

@[simp] theorem length_bytesOf (count value : Nat) : (bytesOf count value).length = count := by
  induction count generalizing value with
  | zero => rfl
  | succ count ih => rw [bytesOf, List.length_cons, ih]

theorem valueOf_bytesOf (count value : Nat) :
    valueOf (bytesOf count value) = value % 256 ^ count := by
  induction count generalizing value with
  | zero => rw [Nat.pow_zero, Nat.mod_one, bytesOf, valueOf]
  | succ count ih =>
      have hfirst : (UInt8.ofNat value).toNat = value % 256 := UInt8.toNat_ofNat'
      rw [bytesOf, valueOf, ih, hfirst, Nat.pow_succ, Nat.mul_comm (256 ^ count), Nat.mod_mul]

theorem valueOf_lt (bytes : List UInt8) : valueOf bytes < 256 ^ bytes.length := by
  induction bytes with
  | nil => exact Nat.one_pos
  | cons byte rest ih =>
      have hbyte := byte.toNat_lt
      rw [valueOf, List.length_cons, Nat.pow_succ]
      omega

theorem bytesOf_valueOf (bytes : List UInt8) : bytesOf bytes.length (valueOf bytes) = bytes := by
  induction bytes with
  | nil => rfl
  | cons byte rest ih =>
      have hbyte := byte.toNat_lt
      have hrest : (byte.toNat + 256 * valueOf rest) / 256 = valueOf rest := by omega
      have hfirst : UInt8.ofNat (byte.toNat + 256 * valueOf rest) = byte := by
        rw [← UInt8.toNat_inj, UInt8.toNat_ofNat']
        omega
      rw [valueOf, List.length_cons, bytesOf, hrest, ih, hfirst]

theorem leBytes32_eq (word : UInt32) : leBytes32 word = bytesOf 4 word.toNat := by
  simp only [leBytes32, byteAt, bytesOf, Nat.div_div_eq_div_mul, Nat.reducePow, Nat.reduceMul,
    Nat.div_one]

theorem leBytes64_eq (word : UInt64) : leBytes64 word = bytesOf 8 word.toNat := by
  have hrange : List.range 8 = [0, 1, 2, 3, 4, 5, 6, 7] := rfl
  simp only [leBytes64, hrange, List.map_cons, List.map_nil, bytesOf, Nat.div_div_eq_div_mul,
    Nat.reducePow, Nat.reduceMul, Nat.div_one]

end VirtualDualSense.Lib.LittleEndian
