import Mathlib.Data.List.Basic
import Mathlib.Data.Nat.Digits.Defs
import Mathlib.Data.UInt

/-!
# Byte strings

Texts are lists of bytes. Decimal numbers are printed without leading zeros, and
a text is split into the lines that a line reader returns from it.
-/

namespace VirtualDualSense.Lib.Text

/-- The bytes of an ASCII text. -/
def ascii (text : String) : List UInt8 := text.toList.map fun c => UInt8.ofNat c.toNat

/-- White space of the C locale. -/
def isSpace (ch : UInt8) : Bool := ch = 0x20 || (0x09 ≤ ch && ch ≤ 0x0d)

section Decimals

def isDigit (ch : UInt8) : Bool := 0x30 ≤ ch && ch ≤ 0x39

/-- The value of a digit. -/
def digitValue (ch : UInt8) : Nat := (ch - 0x30).toNat

/-- A non-empty sequence of digits. -/
def isDecimalNumber (text : List UInt8) : Bool := !text.isEmpty && text.all isDigit

/-- The digit of a value below ten. -/
def digitCharacter (value : Nat) : UInt8 := 0x30 + UInt8.ofNat value

/-- A number in decimal digits. -/
def decimal (value : Nat) : List UInt8 :=
  if value = 0 then [0x30] else (Nat.digits 10 value).reverse.map digitCharacter

/-- The number that digits continue from the value read so far. -/
def continueDecimal (value : Nat) (text : List UInt8) : Nat :=
  text.foldl (fun value ch => value * 10 + digitValue ch) value

theorem isDigit_digitCharacter {value : Nat} (h : value < 10) :
    isDigit (digitCharacter value) = true := by
  revert value
  decide

theorem digitValue_digitCharacter {value : Nat} (h : value < 10) :
    digitValue (digitCharacter value) = value := by
  revert value
  decide

theorem isDigit_of_mem_decimal {value : Nat} {ch : UInt8} (h : ch ∈ decimal value) :
    isDigit ch = true := by
  rw [decimal] at h
  split at h
  · rw [List.mem_singleton.mp h]
    rfl
  · obtain ⟨d, hd, rfl⟩ := List.mem_map.mp h
    exact isDigit_digitCharacter (Nat.digits_lt_base (by decide) (List.mem_reverse.mp hd))

theorem decimal_ne_nil (value : Nat) : decimal value ≠ [] := by
  rw [decimal]
  split
  · exact List.cons_ne_nil _ _
  · rename_i hvalue
    simpa [Nat.digits_eq_nil_iff_eq_zero] using hvalue

theorem continueDecimal_digits {digits : List Nat} (h : ∀ d ∈ digits, d < 10) :
    continueDecimal 0 (digits.reverse.map digitCharacter) = Nat.ofDigits 10 digits := by
  induction digits with
  | nil => rfl
  | cons d rest ih =>
      have hrest := ih fun e he => h e (List.mem_cons_of_mem d he)
      simp only [continueDecimal, List.reverse_cons, List.map_append, List.map_cons, List.map_nil,
        List.foldl_append, List.foldl_cons, List.foldl_nil] at hrest ⊢
      rw [hrest, digitValue_digitCharacter (h d List.mem_cons_self), Nat.ofDigits_cons]
      exact (Nat.add_comm _ _).trans (congrArg (d + ·) (Nat.mul_comm _ _))

/-- The digits of a number denote it. -/
theorem continueDecimal_decimal (value : Nat) : continueDecimal 0 (decimal value) = value := by
  rw [decimal]
  split
  · rename_i hzero
    rw [hzero]
    rfl
  · rw [continueDecimal_digits fun d => Nat.digits_lt_base (by decide), Nat.ofDigits_digits]

theorem le_continueDecimal (value : Nat) (text : List UInt8) :
    value ≤ continueDecimal value text := by
  induction text generalizing value with
  | nil => exact le_rfl
  | cons ch rest ih =>
      calc value ≤ value * 10 + digitValue ch := by omega
        _ ≤ continueDecimal (value * 10 + digitValue ch) rest := ih _

end Decimals

section Lines

/-- The lines of a text from `line` on: a line ends at a line feed, and the last
one at the end of the text when it is not empty. -/
def linesFrom (line : List UInt8) : List UInt8 → List (List UInt8)
  | [] => if line.isEmpty then [] else [line]
  | ch :: rest =>
      if ch = 0x0a then line :: linesFrom [] rest else linesFrom (line ++ [ch]) rest

def lines (text : List UInt8) : List (List UInt8) := linesFrom [] text

theorem linesFrom_append {text : List UInt8} (h : 0x0a ∉ text) (line rest : List UInt8) :
    linesFrom line (text ++ 0x0a :: rest) = (line ++ text) :: lines rest := by
  induction text generalizing line with
  | nil =>
      rw [List.nil_append, linesFrom, if_pos rfl, List.append_nil, lines]
  | cons ch text ih =>
      have hch : ch ≠ 0x0a := fun heq => h (heq ▸ List.mem_cons_self)
      have htext : 0x0a ∉ text := fun hmem => h (List.mem_cons_of_mem ch hmem)
      rw [List.cons_append, linesFrom, if_neg hch, ih htext, List.append_assoc,
        List.singleton_append]

/-- A text without line feeds is a line when a line feed follows. -/
theorem lines_append {text : List UInt8} (h : 0x0a ∉ text) (rest : List UInt8) :
    lines (text ++ 0x0a :: rest) = text :: lines rest := linesFrom_append h [] rest

end Lines

end VirtualDualSense.Lib.Text
