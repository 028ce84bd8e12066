import Mathlib.Data.List.TakeWhile
import VirtualDualSense.Lib.Scanners
import VirtualDualSense.Lib.Text

/-!
# JSON lines

The records of the configuration and of the control socket are JSON objects on one
line whose values are strings or arrays of unsigned integers.

## Implementation notes

The offset of the source only moves forward and is represented by the text that is
left. The context that the source appends to its messages is constant during a
call, so an error names its kind and `JsonlError.what` adds the context.
-/

namespace VirtualDualSense.Config.Jsonl

open Lib.Scanners Lib.Text

inductive JsonlValue
  | string (value : List UInt8)
  | array (values : List Nat)
  deriving DecidableEq

structure JsonlField where
  key : List UInt8
  value : JsonlValue
  deriving DecidableEq

section Errors

/-- The exceptions of the JSON functions. -/
inductive JsonlError
  | invalidObject
  | unsupportedEscape
  | invalidUnicodeEscape
  | expectedString
  | unterminatedEscape
  | unterminatedUnicodeEscape
  | unsupportedUnicodeEscape
  | invalidControlCharacter
  | unterminatedString
  | expectedUnsigned
  | unsignedOverflow
  | unterminatedArray
  | expectedArraySeparator
  | missingValue
  | unsupportedValue
  | trailingData
  | unterminatedObject
  | expectedFieldSeparator
  | duplicateField (key : List UInt8)
  | missingField (key : List UInt8)
  | fieldNotString (key : List UInt8)
  | fieldNotArray (key : List UInt8)
  | unknownField (key : List UInt8)
  deriving DecidableEq

def contextSuffix (context : List UInt8) : List UInt8 :=
  if context.isEmpty then [] else ascii " in " ++ context

/-- The message of an exception. -/
def JsonlError.what (context : List UInt8) : JsonlError → List UInt8
  | .invalidObject => ascii "invalid JSON object" ++ contextSuffix context
  | .unsupportedEscape => ascii "unsupported JSON escape" ++ contextSuffix context
  | .invalidUnicodeEscape => ascii "invalid JSON unicode escape" ++ contextSuffix context
  | .expectedString => ascii "expected JSON string" ++ contextSuffix context
  | .unterminatedEscape => ascii "unterminated JSON escape" ++ contextSuffix context
  | .unterminatedUnicodeEscape =>
      ascii "unterminated JSON unicode escape" ++ contextSuffix context
  | .unsupportedUnicodeEscape => ascii "unsupported JSON unicode escape" ++ contextSuffix context
  | .invalidControlCharacter =>
      ascii "invalid control character in JSON string" ++ contextSuffix context
  | .unterminatedString => ascii "unterminated JSON string" ++ contextSuffix context
  | .expectedUnsigned => ascii "expected JSON unsigned integer" ++ contextSuffix context
  | .unsignedOverflow => ascii "JSON unsigned integer overflow" ++ contextSuffix context
  | .unterminatedArray => ascii "unterminated JSON array" ++ contextSuffix context
  | .expectedArraySeparator => ascii "expected JSON array separator" ++ contextSuffix context
  | .missingValue => ascii "missing JSON value" ++ contextSuffix context
  | .unsupportedValue => ascii "unsupported JSON value" ++ contextSuffix context
  | .trailingData => ascii "trailing data after JSON object" ++ contextSuffix context
  | .unterminatedObject => ascii "unterminated JSON object" ++ contextSuffix context
  | .expectedFieldSeparator => ascii "expected JSON field separator" ++ contextSuffix context
  | .duplicateField key =>
      ascii "duplicate JSON field" ++ contextSuffix context ++ ascii ": " ++ key
  | .missingField key => ascii "missing JSON field" ++ contextSuffix context ++ ascii ": " ++ key
  | .fieldNotString key =>
      ascii "JSON field must be a string" ++ contextSuffix context ++ ascii ": " ++ key
  | .fieldNotArray key =>
      ascii "JSON field must be an array" ++ contextSuffix context ++ ascii ": " ++ key
  | .unknownField key => ascii "unknown JSON field" ++ contextSuffix context ++ ascii ": " ++ key

end Errors

section Characters

def skipJsonlSpace (text : List UInt8) : List UInt8 := text.dropWhile isSpace

def requireJsonlChar (expected : UInt8) (text : List UInt8) :
    Except JsonlError (List UInt8) :=
  match skipJsonlSpace text with
  | [] => .error .invalidObject
  | ch :: rest => if ch = expected then .ok rest else .error .invalidObject

/-- The character of a single-letter escape. -/
def parseJsonlEscape (escape : UInt8) : Except JsonlError UInt8 :=
  if escape = 0x22 ∨ escape = 0x5c ∨ escape = 0x2f then .ok escape
  else if escape = 0x62 then .ok 0x08
  else if escape = 0x66 then .ok 0x0c
  else if escape = 0x6e then .ok 0x0a
  else if escape = 0x72 then .ok 0x0d
  else if escape = 0x74 then .ok 0x09
  else .error .unsupportedEscape

def parseJsonlHexDigit (ch : UInt8) : Except JsonlError Nat :=
  if 0x30 ≤ ch ∧ ch ≤ 0x39 then .ok (ch - 0x30).toNat
  else if 0x61 ≤ ch ∧ ch ≤ 0x66 then .ok ((ch - 0x61).toNat + 10)
  else if 0x41 ≤ ch ∧ ch ≤ 0x46 then .ok ((ch - 0x41).toNat + 10)
  else .error .invalidUnicodeEscape

/-- The character of the four digits of a Unicode escape. -/
def parseJsonlCodePoint (digits : List UInt8) : Except JsonlError UInt8 := do
  let codePoint ← digits.foldlM (fun codePoint ch => do
    return codePoint * 16 + (← parseJsonlHexDigit ch)) 0
  if codePoint > 0x7f then .error .unsupportedUnicodeEscape else return UInt8.ofNat codePoint

/-- The escape after a backslash. -/
def parseJsonlEscapeSequence (text : List UInt8) : Except JsonlError (UInt8 × List UInt8) :=
  match text with
  | [] => .error .unterminatedEscape
  | escape :: rest =>
      if escape = 0x75 then
        if rest.length < 4 then .error .unterminatedUnicodeEscape
        else do return (← parseJsonlCodePoint (rest.take 4), rest.drop 4)
      else do return (← parseJsonlEscape escape, rest)

/-- One turn of the loop of `parse_jsonl_string`: a character, or the closing quote. -/
def parseJsonlCharacter (text : List UInt8) :
    Except JsonlError ((List UInt8 × Bool) × List UInt8) :=
  match text with
  | [] => .error .unterminatedString
  | ch :: rest =>
      if ch = 0x22 then .ok (([], true), rest)
      else if ch = 0x5c then do
        let (ch, rest) ← parseJsonlEscapeSequence rest
        return (([ch], false), rest)
      else if ch < 0x20 then .error .invalidControlCharacter
      else .ok (([ch], false), rest)

theorem length_skipJsonlSpace_le (text : List UInt8) :
    (skipJsonlSpace text).length ≤ text.length := (List.dropWhile_suffix _).length_le

theorem requireJsonlChar_shrinks {expected : UInt8} {text rest : List UInt8}
    (h : requireJsonlChar expected text = .ok rest) : rest.length < text.length := by
  have hskip := length_skipJsonlSpace_le text
  rw [requireJsonlChar] at h
  split at h
  · cases h
  · rename_i ch rest' htext
    rw [htext, List.length_cons] at hskip
    split at h
    · cases h
      exact hskip
    · cases h

theorem parseJsonlEscapeSequence_shrinks {text rest : List UInt8} {ch : UInt8}
    (h : parseJsonlEscapeSequence text = .ok (ch, rest)) : rest.length < text.length := by
  cases text with
  | nil => cases h
  | cons escape rest' =>
      rw [parseJsonlEscapeSequence] at h
      split_ifs at h
      · obtain ⟨value, -, hvalue⟩ := exists_of_bind_eq_ok h
        cases hvalue
        rw [List.length_drop, List.length_cons]
        omega
      · obtain ⟨value, -, hvalue⟩ := exists_of_bind_eq_ok h
        cases hvalue
        exact Nat.lt_succ_self _

theorem parseJsonlCharacter_shrinks {text rest : List UInt8} {piece : List UInt8 × Bool}
    (h : parseJsonlCharacter text = .ok (piece, rest)) : rest.length < text.length := by
  cases text with
  | nil => cases h
  | cons ch rest' =>
      rw [parseJsonlCharacter] at h
      split_ifs at h
      · cases h
        exact Nat.lt_succ_self _
      · obtain ⟨value, hsequence, hvalue⟩ := exists_of_bind_eq_ok h
        cases hvalue
        exact Nat.lt_succ_of_lt (parseJsonlEscapeSequence_shrinks hsequence)
      · cases h
        exact Nat.lt_succ_self _

end Characters

section Values

def jsonlCharacters : Scanner UInt8 JsonlError (List UInt8 × Bool) :=
  ⟨parseJsonlCharacter, parseJsonlCharacter_shrinks⟩

def parseJsonlString (text : List UInt8) : Except JsonlError (List UInt8 × List UInt8) :=
  match skipJsonlSpace text with
  | [] => .error .expectedString
  | ch :: rest => if ch = 0x22 then jsonlCharacters.loop [] rest else .error .expectedString

/-- The largest `unsigned`. -/
def unsignedMax : Nat := 0xffffffff

/-- The loop over the digits of a number: the value, while it is an `unsigned`. -/
def unsignedValue (value : Nat) : List UInt8 → Except JsonlError Nat
  | [] => .ok value
  | ch :: rest =>
      let value := value * 10 + digitValue ch
      if value > unsignedMax then .error .unsignedOverflow else unsignedValue value rest

def parseJsonlUnsigned (text : List UInt8) : Except JsonlError (Nat × List UInt8) :=
  let text := skipJsonlSpace text
  let digits := text.takeWhile isDigit
  if digits.isEmpty then .error .expectedUnsigned
  else do return (← unsignedValue 0 digits, text.drop digits.length)

/-- What follows an element of an array or a field of an object; the flag says that it
was the last one. -/
def parseJsonlSeparator (close : UInt8) (unterminated expected : JsonlError)
    (text : List UInt8) : Except JsonlError (Bool × List UInt8) :=
  match skipJsonlSpace text with
  | [] => .error unterminated
  | ch :: rest =>
      if ch = close then .ok (true, rest)
      else if ch = 0x2c then .ok (false, rest)
      else .error expected

/-- One turn of the loop of `parse_jsonl_unsigned_array`. -/
def parseJsonlElement (text : List UInt8) :
    Except JsonlError ((List Nat × Bool) × List UInt8) := do
  let (value, rest) ← parseJsonlUnsigned text
  let (isLast, rest) ← parseJsonlSeparator 0x5d .unterminatedArray .expectedArraySeparator rest
  return (([value], isLast), rest)

theorem parseJsonlString_shrinks {text rest value : List UInt8}
    (h : parseJsonlString text = .ok (value, rest)) : rest.length < text.length := by
  have hskip := length_skipJsonlSpace_le text
  rw [parseJsonlString] at h
  split at h
  · cases h
  · rename_i ch rest' htext
    rw [htext, List.length_cons] at hskip
    split at h
    · exact lt_trans (jsonlCharacters.loop_shrinks h) hskip
    · cases h

theorem parseJsonlUnsigned_shrinks {text rest : List UInt8} {value : Nat}
    (h : parseJsonlUnsigned text = .ok (value, rest)) : rest.length < text.length := by
  have hskip := length_skipJsonlSpace_le text
  have hdigits := (List.takeWhile_prefix isDigit (l := skipJsonlSpace text)).length_le
  simp only [parseJsonlUnsigned] at h
  split at h
  · cases h
  · rename_i hempty
    obtain ⟨number, -, hnumber⟩ := exists_of_bind_eq_ok h
    cases hnumber
    rw [List.isEmpty_iff, ← List.length_eq_zero_iff] at hempty
    rw [List.length_drop]
    omega

theorem parseJsonlSeparator_shrinks {close : UInt8} {unterminated expected : JsonlError}
    {text rest : List UInt8} {isLast : Bool}
    (h : parseJsonlSeparator close unterminated expected text = .ok (isLast, rest)) :
    rest.length < text.length := by
  have hskip := length_skipJsonlSpace_le text
  rw [parseJsonlSeparator] at h
  split at h
  · cases h
  · rename_i ch rest' htext
    rw [htext, List.length_cons] at hskip
    split_ifs at h
    · cases h
      exact hskip
    · cases h
      exact hskip

theorem parseJsonlElement_shrinks {text rest : List UInt8} {piece : List Nat × Bool}
    (h : parseJsonlElement text = .ok (piece, rest)) : rest.length < text.length := by
  obtain ⟨⟨value, middle⟩, hvalue, h⟩ := exists_of_bind_eq_ok h
  obtain ⟨⟨isLast, rest'⟩, hseparator, h⟩ := exists_of_bind_eq_ok h
  cases h
  exact lt_trans (parseJsonlSeparator_shrinks hseparator) (parseJsonlUnsigned_shrinks hvalue)

def jsonlElements : Scanner UInt8 JsonlError (List Nat × Bool) :=
  ⟨parseJsonlElement, parseJsonlElement_shrinks⟩

def parseJsonlUnsignedArray (text : List UInt8) : Except JsonlError (List Nat × List UInt8) := do
  let text ← requireJsonlChar 0x5b text
  let text := skipJsonlSpace text
  if text.head? = some 0x5d then return ([], text.tail) else jsonlElements.loop [] text

def parseJsonlValue (text : List UInt8) : Except JsonlError (JsonlValue × List UInt8) :=
  let text := skipJsonlSpace text
  match text.head? with
  | none => .error .missingValue
  | some ch =>
      if ch = 0x22 then do
        let (value, rest) ← parseJsonlString text
        return (.string value, rest)
      else if ch = 0x5b then do
        let (values, rest) ← parseJsonlUnsignedArray text
        return (.array values, rest)
      else .error .unsupportedValue

theorem parseJsonlUnsignedArray_shrinks {text rest : List UInt8} {values : List Nat}
    (h : parseJsonlUnsignedArray text = .ok (values, rest)) : rest.length < text.length := by
  obtain ⟨middle, hopen, h⟩ := exists_of_bind_eq_ok h
  have hshorter := requireJsonlChar_shrinks hopen
  have hskip := length_skipJsonlSpace_le middle
  dsimp only at h
  split at h
  · cases h
    rw [List.length_tail]
    omega
  · have hloop := jsonlElements.loop_shrinks h
    omega

theorem parseJsonlValue_shrinks {text rest : List UInt8} {value : JsonlValue}
    (h : parseJsonlValue text = .ok (value, rest)) : rest.length < text.length := by
  refine lt_of_lt_of_le ?_ (length_skipJsonlSpace_le text)
  simp only [parseJsonlValue] at h
  split at h
  · cases h
  · split_ifs at h
    · obtain ⟨⟨string, rest'⟩, hstring, h⟩ := exists_of_bind_eq_ok h
      cases h
      exact parseJsonlString_shrinks hstring
    · obtain ⟨⟨values, rest'⟩, harray, h⟩ := exists_of_bind_eq_ok h
      cases h
      exact parseJsonlUnsignedArray_shrinks harray

end Values

section Objects

/-- One turn of the loop of `parse_jsonl_object`. -/
def parseJsonlField (text : List UInt8) :
    Except JsonlError ((List JsonlField × Bool) × List UInt8) := do
  let (key, rest) ← parseJsonlString text
  let rest ← requireJsonlChar 0x3a rest
  let (value, rest) ← parseJsonlValue rest
  let (isLast, rest) ← parseJsonlSeparator 0x7d .unterminatedObject .expectedFieldSeparator rest
  return (([⟨key, value⟩], isLast), rest)

theorem parseJsonlField_shrinks {text rest : List UInt8} {piece : List JsonlField × Bool}
    (h : parseJsonlField text = .ok (piece, rest)) : rest.length < text.length := by
  obtain ⟨⟨key, rest₁⟩, hkey, h⟩ := exists_of_bind_eq_ok h
  obtain ⟨rest₂, hcolon, h⟩ := exists_of_bind_eq_ok h
  obtain ⟨⟨value, rest₃⟩, hvalue, h⟩ := exists_of_bind_eq_ok h
  obtain ⟨⟨isLast, rest₄⟩, hseparator, h⟩ := exists_of_bind_eq_ok h
  cases h
  calc rest.length < rest₃.length := parseJsonlSeparator_shrinks hseparator
    _ < rest₂.length := parseJsonlValue_shrinks hvalue
    _ < rest₁.length := requireJsonlChar_shrinks hcolon
    _ < text.length := parseJsonlString_shrinks hkey

def jsonlFields : Scanner UInt8 JsonlError (List JsonlField × Bool) :=
  ⟨parseJsonlField, parseJsonlField_shrinks⟩

/-- Nothing but white space may follow the closing brace. -/
def finishJsonlObject (fields : List JsonlField) (rest : List UInt8) :
    Except JsonlError (List JsonlField) :=
  if (skipJsonlSpace rest).isEmpty then .ok fields else .error .trailingData

def parseJsonlObject (text : List UInt8) : Except JsonlError (List JsonlField) := do
  let text ← requireJsonlChar 0x7b text
  let text := skipJsonlSpace text
  if text.head? = some 0x7d then finishJsonlObject [] text.tail
  else
    let (fields, rest) ← jsonlFields.loop [] text
    finishJsonlObject fields rest

/-- The value of the only field of that key. -/
def findJsonlFieldFrom (key : List UInt8) (value : Option JsonlValue) :
    List JsonlField → Except JsonlError (Option JsonlValue)
  | [] => .ok value
  | field :: rest =>
      if field.key ≠ key then findJsonlFieldFrom key value rest
      else if value.isSome then .error (.duplicateField key)
      else findJsonlFieldFrom key (some field.value) rest

def findJsonlField (fields : List JsonlField) (key : List UInt8) :
    Except JsonlError (Option JsonlValue) := findJsonlFieldFrom key none fields

def requireJsonlString (fields : List JsonlField) (key : List UInt8) :
    Except JsonlError (List UInt8) := do
  match ← findJsonlField fields key with
  | none => .error (.missingField key)
  | some (.array _) => .error (.fieldNotString key)
  | some (.string value) => .ok value

def requireJsonlUnsignedArray (fields : List JsonlField) (key : List UInt8) :
    Except JsonlError (List Nat) := do
  match ← findJsonlField fields key with
  | none => .error (.missingField key)
  | some (.string _) => .error (.fieldNotArray key)
  | some (.array values) => .ok values

def rejectUnknownJsonlFields (fields : List JsonlField) (expected : List (List UInt8)) :
    Except JsonlError Unit :=
  match fields.find? fun field => !expected.contains field.key with
  | some field => .error (.unknownField field.key)
  | none => .ok ()

end Objects

section Printing

/-- A lower-case hexadecimal digit. -/
def hexCharacter (value : UInt8) : UInt8 := if value < 10 then 0x30 + value else 0x57 + value

def escapeJsonlCharacter (ch : UInt8) : List UInt8 :=
  if ch = 0x22 then [0x5c, 0x22]
  else if ch = 0x5c then [0x5c, 0x5c]
  else if ch = 0x08 then [0x5c, 0x62]
  else if ch = 0x0c then [0x5c, 0x66]
  else if ch = 0x0a then [0x5c, 0x6e]
  else if ch = 0x0d then [0x5c, 0x72]
  else if ch = 0x09 then [0x5c, 0x74]
  else if ch < 0x20 then
    [0x5c, 0x75, 0x30, 0x30, hexCharacter (ch / 16), hexCharacter (ch % 16)]
  else [ch]

def escapeJsonlString (text : List UInt8) : List UInt8 := text.flatMap escapeJsonlCharacter

def jsonlStringValue (value : List UInt8) : List UInt8 :=
  [0x22] ++ escapeJsonlString value ++ [0x22]

/-- The key is not escaped. -/
def jsonlStringField (key value : List UInt8) : List UInt8 :=
  [0x22] ++ key ++ [0x22, 0x3a] ++ jsonlStringValue value

def jsonlUnsignedArray (values : List Nat) : List UInt8 :=
  [0x5b] ++ [0x2c].intercalate (values.map decimal) ++ [0x5d]

def jsonlUnsignedArrayField (key : List UInt8) (values : List Nat) : List UInt8 :=
  [0x22] ++ key ++ [0x22, 0x3a] ++ jsonlUnsignedArray values

theorem le_of_mem_escapeJsonlString {text : List UInt8} {ch : UInt8}
    (h : ch ∈ escapeJsonlString text) : 0x20 ≤ ch := by
  have hall : ∀ n < 256, ∀ ch ∈ escapeJsonlCharacter (UInt8.ofNat n), 0x20 ≤ ch := by
    decide +kernel
  obtain ⟨source, -, hch⟩ := List.mem_flatMap.mp h
  have hsource := hall source.toNat source.toNat_lt ch
  rw [UInt8.ofNat_toNat] at hsource
  exact hsource hch

/-- A printed string has no control characters. -/
theorem le_of_mem_jsonlStringValue {value : List UInt8} {ch : UInt8}
    (h : ch ∈ jsonlStringValue value) : 0x20 ≤ ch := by
  rw [jsonlStringValue, List.mem_append, List.mem_append, List.mem_singleton] at h
  obtain (rfl | hvalue) | rfl := h
  · decide
  · exact le_of_mem_escapeJsonlString hvalue
  · decide

theorem le_of_mem_decimal {value : Nat} {ch : UInt8} (h : ch ∈ decimal value) : 0x20 ≤ ch := by
  have hdigit := isDigit_of_mem_decimal h
  rw [isDigit, Bool.and_eq_true, decide_eq_true_eq] at hdigit
  have hlow : (0x20 : UInt8) ≤ 0x30 := by decide
  exact UInt8.le_trans hlow hdigit.1

/-- A printed array has no control characters. -/
theorem le_of_mem_jsonlUnsignedArray {values : List Nat} {ch : UInt8}
    (h : ch ∈ jsonlUnsignedArray values) : 0x20 ≤ ch := by
  rw [jsonlUnsignedArray, List.mem_append, List.mem_append, List.mem_singleton,
    List.mem_singleton] at h
  obtain (rfl | hvalues) | rfl := h
  · decide
  · obtain hcomma | ⟨text, htext, hch⟩ := mem_of_mem_intercalate hvalues
    · rw [List.mem_singleton.mp hcomma]
      decide
    · obtain ⟨value, -, rfl⟩ := List.mem_map.mp htext
      exact le_of_mem_decimal hch
  · decide

end Printing

section RoundTrip

theorem skipJsonlSpace_cons {ch : UInt8} (h : isSpace ch = false) (rest : List UInt8) :
    skipJsonlSpace (ch :: rest) = ch :: rest :=
  List.dropWhile_cons_of_neg (by rw [h]; decide)

theorem requireJsonlChar_cons {expected : UInt8} (h : isSpace expected = false)
    (rest : List UInt8) : requireJsonlChar expected (expected :: rest) = .ok rest := by
  rw [requireJsonlChar, skipJsonlSpace_cons h]
  exact if_pos rfl

theorem parseJsonlCodePoint_hexCharacter {ch : UInt8} (h : ch < 0x20) :
    parseJsonlCodePoint [0x30, 0x30, hexCharacter (ch / 16), hexCharacter (ch % 16)] =
      .ok ch := by
  have hall : ∀ n < 0x20, parseJsonlCodePoint [0x30, 0x30, hexCharacter (UInt8.ofNat n / 16),
      hexCharacter (UInt8.ofNat n % 16)] = .ok (UInt8.ofNat n) := by
    decide +kernel
  have hch := hall ch.toNat (UInt8.lt_iff_toNat_lt.mp h)
  rwa [UInt8.ofNat_toNat] at hch

/-- The loop of the string reads an escaped character back. -/
theorem parseJsonlCharacter_escape (ch : UInt8) (rest : List UInt8) :
    parseJsonlCharacter (escapeJsonlCharacter ch ++ rest) = .ok (([ch], false), rest) := by
  rw [escapeJsonlCharacter]
  split_ifs with hquote hbackslash hb hf hn hr ht hcontrol
  case pos => rw [hquote]; rfl
  case pos => rw [hbackslash]; rfl
  case pos => rw [hb]; rfl
  case pos => rw [hf]; rfl
  case pos => rw [hn]; rfl
  case pos => rw [hr]; rfl
  case pos => rw [ht]; rfl
  case pos =>
    have hsequence : parseJsonlEscapeSequence
        ([0x75, 0x30, 0x30, hexCharacter (ch / 16), hexCharacter (ch % 16)] ++ rest) =
          .ok (ch, rest) := by
      simp only [List.cons_append, List.nil_append, parseJsonlEscapeSequence, ↓reduceIte,
        List.take_succ_cons, List.take_zero, parseJsonlCodePoint_hexCharacter hcontrol]
      rfl
    exact congrArg (· >>= fun result => .ok (([result.1], false), result.2)) hsequence
  case neg =>
    rw [List.singleton_append, parseJsonlCharacter, if_neg hquote, if_neg hbackslash,
      if_neg hcontrol]

theorem loop_escapeJsonlString (value text rest : List UInt8) :
    jsonlCharacters.loop value (escapeJsonlString text ++ 0x22 :: rest) =
      .ok (value ++ text, rest) := by
  apply jsonlCharacters.loop_flatMap
  · exact parseJsonlCharacter_escape
  · exact fun rest => rfl

/-- A printed string is read back, whatever follows it. -/
theorem parseJsonlString_value (value rest : List UInt8) :
    parseJsonlString (jsonlStringValue value ++ rest) = .ok (value, rest) := by
  have htext : jsonlStringValue value ++ rest = 0x22 :: (escapeJsonlString value ++ 0x22 :: rest) :=
    by simp only [jsonlStringValue, List.append_assoc, List.cons_append, List.nil_append]
  rw [htext, parseJsonlString, skipJsonlSpace_cons (by rfl)]
  exact (if_pos rfl).trans (loop_escapeJsonlString [] value rest)

theorem unsignedValue_eq {value : Nat} {digits : List UInt8}
    (h : continueDecimal value digits ≤ unsignedMax) :
    unsignedValue value digits = .ok (continueDecimal value digits) := by
  induction digits generalizing value with
  | nil => rfl
  | cons ch digits ih =>
      have hnext : value * 10 + digitValue ch ≤ unsignedMax :=
        (le_continueDecimal (value * 10 + digitValue ch) digits).trans h
      rw [unsignedValue, if_neg (Nat.not_lt.mpr hnext), ih h]
      rfl

theorem isSpace_of_isDigit {ch : UInt8} (h : isDigit ch = true) : isSpace ch = false := by
  simp only [isDigit, isSpace, Bool.and_eq_true, Bool.or_eq_false_iff, Bool.and_eq_false_iff,
    decide_eq_true_eq, decide_eq_false_iff_not, UInt8.le_iff_toNat_le, ← UInt8.toNat_inj] at h ⊢
  have hlow : (0x30 : UInt8).toNat = 48 := rfl
  have hspace : (0x20 : UInt8).toNat = 32 := rfl
  have hreturn : (0x0d : UInt8).toNat = 13 := rfl
  omega

/-- A printed number starts with a digit. -/
theorem exists_decimal_eq_cons (value : Nat) :
    ∃ ch digits, decimal value = ch :: digits ∧ isDigit ch = true := by
  obtain ⟨ch, digits, hdecimal⟩ := List.exists_cons_of_ne_nil (decimal_ne_nil value)
  exact ⟨ch, digits, hdecimal, isDigit_of_mem_decimal (hdecimal ▸ List.mem_cons_self)⟩

theorem skipJsonlSpace_decimal (value : Nat) (rest : List UInt8) :
    skipJsonlSpace (decimal value ++ rest) = decimal value ++ rest := by
  obtain ⟨ch, digits, hdecimal, hdigit⟩ := exists_decimal_eq_cons value
  rw [hdecimal, List.cons_append, skipJsonlSpace_cons (isSpace_of_isDigit hdigit)]

/-- A printed number is read back before a character that is not a digit. -/
theorem parseJsonlUnsigned_decimal {value : Nat} {ch : UInt8} (hvalue : value ≤ unsignedMax)
    (hch : isDigit ch = false) (rest : List UInt8) :
    parseJsonlUnsigned (decimal value ++ ch :: rest) = .ok (value, ch :: rest) := by
  have hdigits : (decimal value ++ ch :: rest).takeWhile isDigit = decimal value := by
    rw [List.takeWhile_append_of_pos fun _ => isDigit_of_mem_decimal,
      List.takeWhile_cons_of_neg (by rw [hch]; decide), List.append_nil]
  have hnumber : unsignedValue 0 (decimal value) = .ok value := by
    rw [unsignedValue_eq (by rwa [continueDecimal_decimal]), continueDecimal_decimal]
  have hempty : (decimal value).isEmpty = false := List.isEmpty_eq_false_iff.mpr (decimal_ne_nil _)
  simp only [parseJsonlUnsigned, skipJsonlSpace_decimal, hdigits, hempty, hnumber,
    List.drop_left]
  rfl

theorem parseJsonlSeparator_close {close : UInt8} (h : isSpace close = false)
    (unterminated expected : JsonlError) (rest : List UInt8) :
    parseJsonlSeparator close unterminated expected (close :: rest) = .ok (true, rest) := by
  rw [parseJsonlSeparator, skipJsonlSpace_cons h]
  exact if_pos rfl

theorem parseJsonlSeparator_comma {close : UInt8} (h : close ≠ 0x2c)
    (unterminated expected : JsonlError) (rest : List UInt8) :
    parseJsonlSeparator close unterminated expected (0x2c :: rest) = .ok (false, rest) := by
  rw [parseJsonlSeparator, skipJsonlSpace_cons (by rfl)]
  exact (if_neg h.symm).trans (if_pos rfl)

theorem parseJsonlElement_decimal {value : Nat} {ch : UInt8} {isLast : Bool} {rest : List UInt8}
    (hvalue : value ≤ unsignedMax) (hch : isDigit ch = false)
    (hseparator : parseJsonlSeparator 0x5d .unterminatedArray .expectedArraySeparator (ch :: rest) =
      .ok (isLast, rest)) :
    parseJsonlElement (decimal value ++ ch :: rest) = .ok (([value], isLast), rest) := by
  rw [parseJsonlElement, parseJsonlUnsigned_decimal hvalue hch]
  exact congrArg (· >>= fun result => .ok (([value], result.1), result.2)) hseparator

/-- A printed array is read back, whatever follows it. -/
theorem parseJsonlUnsignedArray_array {values : List Nat}
    (h : ∀ value ∈ values, value ≤ unsignedMax) (rest : List UInt8) :
    parseJsonlUnsignedArray (jsonlUnsignedArray values ++ rest) = .ok (values, rest) := by
  rw [jsonlUnsignedArray, List.append_assoc, List.append_assoc, List.singleton_append,
    List.singleton_append, parseJsonlUnsignedArray, requireJsonlChar_cons (by rfl)]
  cases values with
  | nil => rfl
  | cons first values =>
      have hloop : jsonlElements.loop []
          ([0x2c].intercalate ((first :: values).map decimal) ++ 0x5d :: rest) =
            .ok (first :: values, rest) := by
        apply jsonlElements.loop_intercalate
        · intro value hvalue rest
          apply parseJsonlElement_decimal (h value hvalue) (by rfl)
          exact parseJsonlSeparator_comma (by decide) _ _ rest
        · intro value hvalue rest
          apply parseJsonlElement_decimal (h value hvalue) (by rfl)
          exact parseJsonlSeparator_close (by rfl) _ _ rest
      obtain ⟨tail, htail⟩ := exists_intercalate_eq decimal [0x2c] first values (0x5d :: rest)
      obtain ⟨ch, digits, hdecimal, hdigit⟩ := exists_decimal_eq_cons first
      have hclose : ch ≠ 0x5d := by
        rintro rfl
        cases hdigit
      rw [htail] at hloop ⊢
      change (if (skipJsonlSpace (decimal first ++ tail)).head? = some 0x5d then _
        else jsonlElements.loop [] (skipJsonlSpace (decimal first ++ tail))) = _
      rw [skipJsonlSpace_decimal, if_neg, hloop]
      rw [hdecimal, List.cons_append, List.head?_cons]
      exact fun heq => hclose (Option.some.inj heq)

/-- A field as the source prints it. -/
def jsonlField (field : JsonlField) : List UInt8 :=
  match field.value with
  | .string value => jsonlStringField field.key value
  | .array values => jsonlUnsignedArrayField field.key values

/-- A field that can be read back: its key needs no escapes and its numbers are
unsigned integers. -/
structure Printable (field : JsonlField) : Prop where
  key : escapeJsonlString field.key = field.key
  values : ∀ values, field.value = .array values → ∀ value ∈ values, value ≤ unsignedMax

def jsonlValue : JsonlValue → List UInt8
  | .string value => jsonlStringValue value
  | .array values => jsonlUnsignedArray values

theorem jsonlField_eq {field : JsonlField} (h : Printable field) :
    jsonlField field = jsonlStringValue field.key ++ 0x3a :: jsonlValue field.value := by
  rw [jsonlField, jsonlStringValue, h.key]
  cases field.value with
  | string value =>
      simp only [jsonlStringField, jsonlValue, List.append_assoc, List.cons_append, List.nil_append]
  | array values =>
      simp only [jsonlUnsignedArrayField, jsonlValue, List.append_assoc, List.cons_append,
        List.nil_append]

theorem le_of_mem_jsonlField {field : JsonlField} (h : Printable field) {ch : UInt8}
    (hch : ch ∈ jsonlField field) : 0x20 ≤ ch := by
  rw [jsonlField_eq h, List.mem_append, List.mem_cons] at hch
  obtain hkey | rfl | hvalue := hch
  · exact le_of_mem_jsonlStringValue hkey
  · decide
  · cases hfield : field.value with
    | string value =>
        rw [hfield] at hvalue
        exact le_of_mem_jsonlStringValue hvalue
    | array values =>
        rw [hfield] at hvalue
        exact le_of_mem_jsonlUnsignedArray hvalue

theorem parseJsonlValue_value {value : JsonlValue}
    (h : ∀ values, value = .array values → ∀ number ∈ values, number ≤ unsignedMax)
    (rest : List UInt8) : parseJsonlValue (jsonlValue value ++ rest) = .ok (value, rest) := by
  cases value with
  | string value =>
      have hvalue := parseJsonlString_value value rest
      rw [jsonlValue]
      exact congrArg (· >>= fun result => .ok (JsonlValue.string result.1, result.2)) hvalue
  | array values =>
      have hvalues := parseJsonlUnsignedArray_array (h values rfl) rest
      rw [jsonlValue]
      exact congrArg (· >>= fun result => .ok (JsonlValue.array result.1, result.2)) hvalues

theorem parseJsonlField_field {field : JsonlField} (h : Printable field) {ch : UInt8}
    {isLast : Bool} {rest : List UInt8}
    (hseparator : parseJsonlSeparator 0x7d .unterminatedObject .expectedFieldSeparator
      (ch :: rest) = .ok (isLast, rest)) :
    parseJsonlField (jsonlField field ++ ch :: rest) = .ok (([field], isLast), rest) := by
  have hcolon := (requireJsonlChar_cons (by rfl) (jsonlValue field.value ++ ch :: rest) :
    requireJsonlChar 0x3a _ = _)
  rw [jsonlField_eq h, List.append_assoc, parseJsonlField, parseJsonlString_value, ok_bind]
  dsimp only
  rw [List.cons_append, hcolon, ok_bind, parseJsonlValue_value h.values, ok_bind]
  exact congrArg (· >>= fun result => .ok (([field], result.1), result.2)) hseparator

/-- A printed object is read back field by field. -/
theorem parseJsonlObject_fields {first : JsonlField} {fields : List JsonlField}
    (h : ∀ field ∈ first :: fields, Printable field) :
    parseJsonlObject ([0x7b] ++ [0x2c].intercalate ((first :: fields).map jsonlField) ++ [0x7d]) =
      .ok (first :: fields) := by
  have hloop : jsonlFields.loop [] ([0x2c].intercalate ((first :: fields).map jsonlField) ++
      0x7d :: []) = .ok (first :: fields, []) := by
    apply jsonlFields.loop_intercalate
    · intro field hfield rest
      exact parseJsonlField_field (h field hfield)
        (parseJsonlSeparator_comma (by decide) _ _ rest)
    · intro field hfield rest
      exact parseJsonlField_field (h field hfield) (parseJsonlSeparator_close (by rfl) _ _ rest)
  rw [List.append_assoc, List.singleton_append, parseJsonlObject, requireJsonlChar_cons (by rfl)]
  obtain ⟨tail, htail⟩ := exists_intercalate_eq jsonlField [0x2c] first fields [0x7d]
  rw [jsonlField_eq (h first List.mem_cons_self)] at htail
  rw [htail] at hloop ⊢
  exact congrArg (· >>= fun result => finishJsonlObject result.1 result.2) hloop

end RoundTrip

section Extension

theorem skipJsonlSpace_append {text : List UInt8} {ch : UInt8} {rest : List UInt8}
    (h : skipJsonlSpace text = ch :: rest) (more : List UInt8) :
    skipJsonlSpace (text ++ more) = ch :: (rest ++ more) := by
  rw [skipJsonlSpace] at h ⊢
  rw [List.dropWhile_append, h]
  rfl

theorem requireJsonlChar_extends {expected : UInt8} {text rest : List UInt8}
    (h : requireJsonlChar expected text = .ok rest) (more : List UInt8) :
    requireJsonlChar expected (text ++ more) = .ok (rest ++ more) := by
  rw [requireJsonlChar] at h ⊢
  split at h
  · cases h
  · rename_i ch rest' htext
    rw [skipJsonlSpace_append htext]
    split at h
    · rename_i hexpected
      cases h
      exact if_pos hexpected
    · cases h

theorem parseJsonlEscapeSequence_extends : Extends parseJsonlEscapeSequence := by
  intro text value rest h more
  cases text with
  | nil => cases h
  | cons escape text =>
      rw [parseJsonlEscapeSequence] at h
      rw [List.cons_append, parseJsonlEscapeSequence]
      split_ifs at h with hunicode hshort
      · obtain ⟨ch, hch, h⟩ := exists_of_bind_eq_ok h
        cases h
        have hlong : 4 ≤ text.length := Nat.le_of_not_lt hshort
        rw [if_pos hunicode, if_neg (by rw [List.length_append]; omega),
          List.take_append_of_le_length hlong, List.drop_append_of_le_length hlong, hch]
        rfl
      · obtain ⟨ch, hch, h⟩ := exists_of_bind_eq_ok h
        cases h
        rw [if_neg hunicode, hch]
        rfl

theorem parseJsonlCharacter_extends : Extends parseJsonlCharacter := by
  intro text value rest h more
  cases text with
  | nil => cases h
  | cons ch text =>
      rw [parseJsonlCharacter] at h
      rw [List.cons_append, parseJsonlCharacter]
      split_ifs at h with hquote hescape hcontrol
      · cases h
        rw [if_pos hquote]
      · obtain ⟨⟨escaped, rest'⟩, hsequence, h⟩ := exists_of_bind_eq_ok h
        cases h
        rw [if_neg hquote, if_pos hescape, parseJsonlEscapeSequence_extends hsequence]
        rfl
      · cases h
        rw [if_neg hquote, if_neg hescape, if_neg hcontrol]

theorem parseJsonlString_extends : Extends parseJsonlString := by
  intro text value rest h more
  rw [parseJsonlString] at h ⊢
  split at h
  · cases h
  · rename_i ch rest' htext
    rw [skipJsonlSpace_append htext]
    split at h
    · rename_i hquote
      refine (if_pos hquote).trans ?_
      exact jsonlCharacters.loop_extends parseJsonlCharacter_extends [] h more
    · cases h

theorem parseJsonlSeparator_extends (close : UInt8) (unterminated expected : JsonlError) :
    Extends (parseJsonlSeparator close unterminated expected) := by
  intro text value rest h more
  rw [parseJsonlSeparator] at h ⊢
  split at h
  · cases h
  · rename_i ch rest' htext
    rw [skipJsonlSpace_append htext]
    dsimp only
    split_ifs at h ⊢
    · cases h
      rfl
    · cases h
      rfl

/-- More text does not change a number that something follows. -/
theorem parseJsonlUnsigned_extends {text rest : List UInt8} {value : Nat}
    (h : parseJsonlUnsigned text = .ok (value, rest)) (hrest : rest ≠ []) (more : List UInt8) :
    parseJsonlUnsigned (text ++ more) = .ok (value, rest ++ more) := by
  simp only [parseJsonlUnsigned] at h
  split at h
  · cases h
  · rename_i hempty
    obtain ⟨number, hnumber, h⟩ := exists_of_bind_eq_ok h
    cases h
    have hlength : ((skipJsonlSpace text).takeWhile isDigit).length <
        (skipJsonlSpace text).length := by
      by_contra hlong
      exact hrest (List.drop_eq_nil_of_le (Nat.le_of_not_lt hlong))
    obtain ⟨ch, tail, hskip⟩ : ∃ ch tail, skipJsonlSpace text = ch :: tail :=
      List.exists_cons_of_length_pos (Nat.zero_lt_of_lt hlength)
    have hmore : skipJsonlSpace (text ++ more) = skipJsonlSpace text ++ more := by
      rw [skipJsonlSpace_append hskip, hskip, List.cons_append]
    have hdigits : (skipJsonlSpace text ++ more).takeWhile isDigit =
        (skipJsonlSpace text).takeWhile isDigit := by
      rw [List.takeWhile_append, if_neg (Nat.ne_of_lt hlength)]
    simp only [parseJsonlUnsigned, hmore, hdigits, if_neg hempty, hnumber,
      List.drop_append_of_le_length hlength.le]
    rfl

theorem parseJsonlElement_extends : Extends parseJsonlElement := by
  intro text value rest h more
  obtain ⟨⟨number, middle⟩, hnumber, h⟩ := exists_of_bind_eq_ok h
  obtain ⟨⟨isLast, rest'⟩, hseparator, h⟩ := exists_of_bind_eq_ok h
  cases h
  have hmiddle : middle ≠ [] := by
    rintro rfl
    cases hseparator
  rw [parseJsonlElement, parseJsonlUnsigned_extends hnumber hmiddle, ok_bind]
  dsimp only
  rw [parseJsonlSeparator_extends _ _ _ hseparator]
  rfl

theorem skipJsonlSpace_append_of_ne_nil {text more : List UInt8} (h : skipJsonlSpace text ≠ []) :
    skipJsonlSpace (text ++ more) = skipJsonlSpace text ++ more := by
  obtain ⟨ch, rest, hskip⟩ := List.exists_cons_of_ne_nil h
  rw [skipJsonlSpace_append hskip, hskip, List.cons_append]

theorem parseJsonlUnsignedArray_extends : Extends parseJsonlUnsignedArray := by
  intro text value rest h more
  obtain ⟨middle, hopen, h⟩ := exists_of_bind_eq_ok h
  dsimp only at h
  have hmiddle : skipJsonlSpace middle ≠ [] := by
    intro hempty
    rw [hempty, if_neg (by decide)] at h
    exact Nat.not_lt_zero _ (jsonlElements.loop_shrinks h)
  rw [parseJsonlUnsignedArray, requireJsonlChar_extends hopen, ok_bind]
  dsimp only
  rw [skipJsonlSpace_append_of_ne_nil hmiddle, List.head?_append_of_ne_nil _ hmiddle]
  split_ifs at h ⊢ with hclose
  · cases h
    rw [List.tail_append_of_ne_nil hmiddle]
    rfl
  · exact jsonlElements.loop_extends parseJsonlElement_extends [] h more

theorem parseJsonlValue_extends : Extends parseJsonlValue := by
  intro text value rest h more
  simp only [parseJsonlValue] at h ⊢
  cases hskip : skipJsonlSpace text with
  | nil =>
      rw [hskip] at h
      cases h
  | cons ch middle =>
      rw [skipJsonlSpace_append hskip, List.head?_cons]
      rw [hskip, List.head?_cons] at h
      dsimp only at h ⊢
      split_ifs at h ⊢ with hstring harray
      · obtain ⟨⟨string, rest'⟩, hvalue, h⟩ := exists_of_bind_eq_ok h
        cases h
        rw [← List.cons_append, parseJsonlString_extends hvalue]
        rfl
      · obtain ⟨⟨values, rest'⟩, hvalue, h⟩ := exists_of_bind_eq_ok h
        cases h
        rw [← List.cons_append, parseJsonlUnsignedArray_extends hvalue]
        rfl

theorem parseJsonlField_extends : Extends parseJsonlField := by
  intro text value rest h more
  obtain ⟨⟨key, rest₁⟩, hkey, h⟩ := exists_of_bind_eq_ok h
  obtain ⟨rest₂, hcolon, h⟩ := exists_of_bind_eq_ok h
  obtain ⟨⟨found, rest₃⟩, hvalue, h⟩ := exists_of_bind_eq_ok h
  obtain ⟨⟨isLast, rest₄⟩, hseparator, h⟩ := exists_of_bind_eq_ok h
  cases h
  rw [parseJsonlField, parseJsonlString_extends hkey, ok_bind]
  dsimp only
  rw [requireJsonlChar_extends hcolon, ok_bind, parseJsonlValue_extends hvalue, ok_bind]
  dsimp only
  rw [parseJsonlSeparator_extends _ _ _ hseparator]
  rfl

theorem skipJsonlSpace_eq_nil {text : List UInt8} :
    skipJsonlSpace text = [] ↔ ∀ ch ∈ text, isSpace ch = true := by
  rw [skipJsonlSpace]
  exact List.dropWhile_eq_nil_iff

theorem finishJsonlObject_append {fields fields' : List JsonlField} {rest more : List UInt8}
    (h : finishJsonlObject fields (rest ++ more) = .ok fields') :
    ∀ ch ∈ more, isSpace ch = true := by
  rw [finishJsonlObject] at h
  split at h
  · rename_i hempty
    have hspace := skipJsonlSpace_eq_nil.mp (List.isEmpty_iff.mp hempty)
    exact fun ch hch => hspace ch (List.mem_append_right rest hch)
  · cases h

/-- Between two texts that are both objects there is white space only. -/
theorem isSpace_of_parseJsonlObject_append {text more : List UInt8}
    {fields fields' : List JsonlField} (h : parseJsonlObject text = .ok fields)
    (hmore : parseJsonlObject (text ++ more) = .ok fields') : ∀ ch ∈ more, isSpace ch = true := by
  obtain ⟨rest, hopen, h⟩ := exists_of_bind_eq_ok h
  rw [parseJsonlObject, requireJsonlChar_extends hopen, ok_bind] at hmore
  dsimp only at h hmore
  have hrest : skipJsonlSpace rest ≠ [] := by
    intro hempty
    rw [hempty, if_neg (by decide)] at h
    obtain ⟨⟨found, after⟩, hloop, -⟩ := exists_of_bind_eq_ok h
    exact Nat.not_lt_zero _ (jsonlFields.loop_shrinks hloop)
  rw [skipJsonlSpace_append_of_ne_nil hrest, List.head?_append_of_ne_nil _ hrest] at hmore
  split_ifs at h hmore with hclose
  · rw [List.tail_append_of_ne_nil hrest] at hmore
    exact finishJsonlObject_append hmore
  · obtain ⟨⟨found, after⟩, hloop, h⟩ := exists_of_bind_eq_ok h
    rw [jsonlFields.loop_extends parseJsonlField_extends [] hloop, ok_bind] at hmore
    exact finishJsonlObject_append hmore

end Extension

end VirtualDualSense.Config.Jsonl
