import VirtualDualSense.Config.Jsonl
import VirtualDualSense.Lib.Grammars

/-!
# The grammar of JSON lines

The texts that `parse_jsonl_object` accepts, given as languages of their own: a subset of JSON
with ASCII escapes, unsigned integers and no nesting. The parser reads exactly this language.
-/

namespace VirtualDualSense.Config.JsonlGrammar

open Lib.Grammars Lib.Scanners Lib.Text Jsonl

section Grammar

def Space (text : List UInt8) : Prop := ∀ ch ∈ text, isSpace ch = true

/-- A text with white space around it. -/
def Padded {α : Type} (language : List UInt8 → α → Prop) (text : List UInt8) (value : α) : Prop :=
  ∃ before token after, text = before ++ token ++ after ∧ Space before ∧ Space after ∧
    language token value

/-- The letters of the short escapes and the characters they stand for. -/
def escapes : List (UInt8 × UInt8) :=
  [(0x22, 0x22), (0x5c, 0x5c), (0x2f, 0x2f), (0x62, 0x08), (0x66, 0x0c), (0x6e, 0x0a),
    (0x72, 0x0d), (0x74, 0x09)]

/-- Hexadecimal digits of either case and their values. -/
def HexDigit (ch : UInt8) (value : Nat) : Prop :=
  value < 16 ∧ (ch = (ascii "0123456789abcdef").getD value 0 ∨
    ch = (ascii "0123456789ABCDEF").getD value 0)

/-- One character of a string. -/
inductive Character : List UInt8 → UInt8 → Prop
  | plain {ch} (hcontrol : 0x20 ≤ ch) (hquote : ch ≠ 0x22) (hbackslash : ch ≠ 0x5c) :
      Character [ch] ch
  | escape {letter ch} (h : (letter, ch) ∈ escapes) : Character [0x5c, letter] ch
  | unicode {first second : UInt8} {high low : Nat} (hfirst : HexDigit first high)
      (hsecond : HexDigit second low) (hascii : high * 16 + low ≤ 0x7f) :
      Character [0x5c, 0x75, 0x30, 0x30, first, second] (UInt8.ofNat (high * 16 + low))

inductive Characters : List UInt8 → List UInt8 → Prop
  | nil : Characters [] []
  | cons {token ch rest chars} (h : Character token ch) (hrest : Characters rest chars) :
      Characters (token ++ rest) (ch :: chars)

/-- Characters in quotes. -/
def StringToken (text value : List UInt8) : Prop :=
  ∃ body, text = 0x22 :: body ++ [0x22] ∧ Characters body value

/-- Decimal digits of an `unsigned`, with any number of leading zeros. -/
def Number (text : List UInt8) (value : Nat) : Prop :=
  text ≠ [] ∧ (∀ ch ∈ text, isDigit ch = true) ∧ continueDecimal 0 text = value ∧
    value ≤ unsignedMax

/-- A list in brackets: white space, or items with commas between them. -/
def Bracketed {α : Type} (opening closing : UInt8) (item : List UInt8 → α → Prop)
    (text : List UInt8) (values : List α) : Prop :=
  ∃ inner, text = opening :: inner ++ [closing] ∧
    (Space inner ∧ values = [] ∨ Separated 0x2c (Padded item) inner values)

def ArrayToken : List UInt8 → List Nat → Prop := Bracketed 0x5b 0x5d Number

def Value (text : List UInt8) : JsonlValue → Prop
  | .string value => StringToken text value
  | .array values => ArrayToken text values

/-- A key, a colon and a value. -/
def Field (text : List UInt8) (field : JsonlField) : Prop :=
  ∃ key before after value, text = key ++ before ++ 0x3a :: after ++ value ∧
    Space before ∧ Space after ∧ StringToken key field.key ∧ Value value field.value

/-- One object with nothing but white space around it. -/
def Object : List UInt8 → List JsonlField → Prop := Padded (Bracketed 0x7b 0x7d Field)

end Grammar

section Space

variable {before text rest : List UInt8} {expected close : UInt8}

theorem skipJsonlSpace_append_of_space (h : Space before) (text : List UInt8) :
    skipJsonlSpace (before ++ text) = skipJsonlSpace text :=
  List.dropWhile_append_of_pos h

theorem exists_space (text : List UInt8) :
    ∃ before, Space before ∧ text = before ++ skipJsonlSpace text :=
  ⟨text.takeWhile isSpace, fun _ => List.mem_takeWhile_imp, List.takeWhile_append_dropWhile.symm⟩

theorem skipJsonlSpace_idem (text : List UInt8) :
    skipJsonlSpace (skipJsonlSpace text) = skipJsonlSpace text := by
  obtain ⟨before, hbefore, htext⟩ := exists_space text
  conv_rhs => rw [htext]
  exact (skipJsonlSpace_append_of_space hbefore _).symm

/-- What is left after white space starts with the character. -/
theorem skipJsonlSpace_eq_cons_iff {ch : UInt8} (hch : isSpace ch = false) :
    skipJsonlSpace text = ch :: rest ↔ ∃ before, Space before ∧ text = before ++ ch :: rest := by
  constructor
  · intro h
    obtain ⟨before, hbefore, htext⟩ := exists_space text
    rw [h] at htext
    exact ⟨before, hbefore, htext⟩
  · rintro ⟨before, hbefore, rfl⟩
    rw [skipJsonlSpace_append_of_space hbefore, skipJsonlSpace_cons hch]

theorem requireJsonlChar_eq_ok_iff (hexpected : isSpace expected = false) :
    requireJsonlChar expected text = .ok rest ↔
      ∃ before, Space before ∧ text = before ++ expected :: rest := by
  rw [← skipJsonlSpace_eq_cons_iff hexpected, requireJsonlChar]
  cases skipJsonlSpace text with
  | nil => simp
  | cons ch tail =>
      by_cases hch : ch = expected
      · simp [hch]
      · simp [hch]

theorem parseJsonlSeparator_eq_ok_iff (hclose : isSpace close = false) (hcomma : close ≠ 0x2c)
    {unterminated expected : JsonlError} {isLast : Bool} :
    parseJsonlSeparator close unterminated expected text = .ok (isLast, rest) ↔
      ∃ before, Space before ∧ text = before ++ (if isLast then close else 0x2c) :: rest := by
  have hmark : isSpace (if isLast then close else 0x2c) = false := by
    cases isLast
    · rfl
    · exact hclose
  rw [← skipJsonlSpace_eq_cons_iff hmark, parseJsonlSeparator]
  cases skipJsonlSpace text with
  | nil => simp
  | cons ch tail =>
      by_cases hlast : ch = close
      · subst hlast
        cases isLast
        · simp [hcomma]
        · simp
      · by_cases hmore : ch = 0x2c
        · subst hmore
          cases isLast
          · simp [hlast]
          · simp [hlast]
        · cases isLast
          · simp [hlast, hmore]
          · simp [hlast, hmore]

end Space

section Strings

variable {ch : UInt8} {text rest : List UInt8}

theorem parseJsonlEscape_eq_ok_iff {letter : UInt8} :
    parseJsonlEscape letter = .ok ch ↔ (letter, ch) ∈ escapes := by
  simp only [escapes, List.mem_cons, List.not_mem_nil, or_false, Prod.mk.injEq]
  constructor
  · intro h
    rw [parseJsonlEscape] at h
    split_ifs at h with hself hb hf hn hr ht
    · cases h
      obtain rfl | rfl | rfl := hself <;> simp
    · cases h
      simp [hb]
    · cases h
      simp [hf]
    · cases h
      simp [hn]
    · cases h
      simp [hr]
    · cases h
      simp [ht]
  · rintro (⟨rfl, rfl⟩ | ⟨rfl, rfl⟩ | ⟨rfl, rfl⟩ | ⟨rfl, rfl⟩ | ⟨rfl, rfl⟩ | ⟨rfl, rfl⟩ |
      ⟨rfl, rfl⟩ | ⟨rfl, rfl⟩) <;> rfl

instance (ch : UInt8) (value : Nat) : Decidable (HexDigit ch value) :=
  inferInstanceAs (Decidable (_ ∧ _))

theorem parseJsonlHexDigit_lt {value : Nat} (h : parseJsonlHexDigit ch = .ok value) :
    value < 16 := by
  have hall : ∀ n < 256, (parseJsonlHexDigit (UInt8.ofNat n)).toOption.all (· < 16) = true := by
    decide +kernel
  have hch := hall ch.toNat ch.toNat_lt
  rw [UInt8.ofNat_toNat, h] at hch
  exact of_decide_eq_true hch

theorem parseJsonlHexDigit_eq_ok_iff {value : Nat} :
    parseJsonlHexDigit ch = .ok value ↔ HexDigit ch value := by
  constructor
  · intro h
    have hall : ∀ n < 256, ∀ e : Fin 16, parseJsonlHexDigit (UInt8.ofNat n) = .ok e.val →
        HexDigit (UInt8.ofNat n) e.val := by decide +kernel
    have hdigit := hall ch.toNat ch.toNat_lt ⟨value, parseJsonlHexDigit_lt h⟩
    rw [UInt8.ofNat_toNat] at hdigit
    exact hdigit h
  · rintro ⟨hlt, rfl | rfl⟩
    · revert value
      decide +kernel
    · revert value
      decide +kernel

/-- The value of four hexadecimal digits. -/
theorem parseJsonlCodePoint_eq_ok_iff {a b c d : UInt8} :
    parseJsonlCodePoint [a, b, c, d] = .ok ch ↔
      ∃ high low, a = 0x30 ∧ b = 0x30 ∧ HexDigit c high ∧ HexDigit d low ∧
        high * 16 + low ≤ 0x7f ∧ ch = UInt8.ofNat (high * 16 + low) := by
  have hzero : ∀ x : UInt8, HexDigit x 0 ↔ x = 0x30 := by
    intro x
    simp only [HexDigit]
    exact ⟨fun h => h.2.elim id id, fun h => ⟨by decide, .inl h⟩⟩
  constructor
  · intro h
    obtain ⟨code, hcode, h⟩ := exists_of_bind_eq_ok h
    simp only [List.foldlM_cons, List.foldlM_nil] at hcode
    obtain ⟨code₁, hcode₁, hcode⟩ := exists_of_bind_eq_ok hcode
    obtain ⟨first, hfirst, hcode₁⟩ := exists_of_bind_eq_ok hcode₁
    obtain ⟨code₂, hcode₂, hcode⟩ := exists_of_bind_eq_ok hcode
    obtain ⟨second, hsecond, hcode₂⟩ := exists_of_bind_eq_ok hcode₂
    obtain ⟨code₃, hcode₃, hcode⟩ := exists_of_bind_eq_ok hcode
    obtain ⟨high, hhigh, hcode₃⟩ := exists_of_bind_eq_ok hcode₃
    obtain ⟨code₄, hcode₄, hcode⟩ := exists_of_bind_eq_ok hcode
    obtain ⟨low, hlow, hcode₄⟩ := exists_of_bind_eq_ok hcode₄
    cases hcode₁
    cases hcode₂
    cases hcode₃
    cases hcode₄
    cases hcode
    rw [parseJsonlHexDigit_eq_ok_iff] at hfirst hsecond hhigh hlow
    split_ifs at h with hascii
    obtain ⟨rfl, rfl⟩ : first = 0 ∧ second = 0 := by omega
    cases h
    refine ⟨high, low, (hzero a).mp hfirst, (hzero b).mp hsecond, hhigh, hlow, by omega, ?_⟩
    congr 1
    omega
  · rintro ⟨high, low, rfl, rfl, hhigh, hlow, hascii, rfl⟩
    rw [← parseJsonlHexDigit_eq_ok_iff] at hhigh hlow
    have hfirst : parseJsonlHexDigit 0x30 = .ok 0 := rfl
    simp only [parseJsonlCodePoint, List.foldlM_cons, List.foldlM_nil, hfirst, hhigh, hlow, ok_bind]
    change (if (((0 * 16 + 0) * 16 + 0) * 16 + high) * 16 + low > 0x7f then _
      else Except.ok (UInt8.ofNat ((((0 * 16 + 0) * 16 + 0) * 16 + high) * 16 + low))) = _
    rw [show (((0 * 16 + 0) * 16 + 0) * 16 + high) * 16 + low = high * 16 + low by omega]
    exact if_neg (by omega)

theorem four_of_length {text : List UInt8} (h : 4 ≤ text.length) :
    ∃ a b c d rest, text = a :: b :: c :: d :: rest := by
  match text with
  | a :: b :: c :: d :: rest => exact ⟨a, b, c, d, rest, rfl⟩

/-- A character, or the quote that ends a string. -/
def CharacterPiece (isLast : Bool) (token values : List UInt8) : Prop :=
  (values, isLast) = ([], true) ∧ token = [0x22] ∨
    ∃ ch, (values, isLast) = ([ch], false) ∧ Character token ch

/-- The loop of a string reads one character at a time, or the closing quote. -/
theorem reads_parseJsonlCharacter :
    Reads parseJsonlCharacter fun token piece => CharacterPiece piece.2 token piece.1 := by
  rintro text ⟨values, isLast⟩ rest
  constructor
  · intro h
    cases text with
    | nil => cases h
    | cons first text =>
        rw [parseJsonlCharacter] at h
        split_ifs at h with hquote hbackslash hcontrol
        · cases h
          exact ⟨[first], rfl, .inl ⟨rfl, by rw [hquote]⟩⟩
        · obtain ⟨⟨ch, rest'⟩, hsequence, h⟩ := exists_of_bind_eq_ok h
          cases h
          cases text with
          | nil => cases hsequence
          | cons letter text =>
              rw [parseJsonlEscapeSequence] at hsequence
              split_ifs at hsequence with hunicode hshort
              · obtain ⟨a, b, c, d, tail, rfl⟩ := four_of_length (Nat.le_of_not_lt hshort)
                obtain ⟨code, hcode, hsequence⟩ := exists_of_bind_eq_ok hsequence
                cases hsequence
                obtain ⟨high, low, rfl, rfl, hhigh, hlow, hascii, rfl⟩ :=
                  parseJsonlCodePoint_eq_ok_iff.mp hcode
                refine ⟨[0x5c, 0x75, 0x30, 0x30, c, d], ?_,
                  .inr ⟨_, rfl, .unicode hhigh hlow hascii⟩⟩
                rw [hbackslash, hunicode]
                rfl
              · obtain ⟨ch', hletter, hsequence⟩ := exists_of_bind_eq_ok hsequence
                cases hsequence
                refine ⟨[0x5c, letter], ?_,
                  .inr ⟨_, rfl, .escape (parseJsonlEscape_eq_ok_iff.mp hletter)⟩⟩
                rw [hbackslash]
                rfl
        · cases h
          exact ⟨[first], rfl,
            .inr ⟨first, rfl, .plain (UInt8.not_lt.mp hcontrol) hquote hbackslash⟩⟩
  · rintro ⟨token, rfl, ⟨hpiece, rfl⟩ | ⟨ch, hpiece, htoken⟩⟩
    · cases hpiece
      rfl
    · cases hpiece
      cases htoken with
      | plain hcontrol hquote hbackslash =>
          rw [List.singleton_append, parseJsonlCharacter, if_neg hquote, if_neg hbackslash,
            if_neg (UInt8.not_lt.mpr hcontrol)]
      | @escape letter ch h =>
          have hletter : letter ≠ 0x75 := by
            rintro rfl
            revert h
            simp [escapes]
          have hsequence : parseJsonlEscapeSequence (letter :: rest) = .ok (ch, rest) := by
            rw [parseJsonlEscapeSequence, if_neg hletter, parseJsonlEscape_eq_ok_iff.mpr h]
            rfl
          exact congrArg (· >>= fun result => .ok (([result.1], false), result.2)) hsequence
      | @unicode first second high low hfirst hsecond hascii =>
          have hcode := parseJsonlCodePoint_eq_ok_iff.mpr
            ⟨high, low, rfl, rfl, hfirst, hsecond, hascii, rfl⟩
          have hsequence : parseJsonlEscapeSequence (0x75 :: 0x30 :: 0x30 :: first :: second ::
              rest) = .ok (UInt8.ofNat (high * 16 + low), rest) := by
            rw [parseJsonlEscapeSequence, if_pos rfl, if_neg (by simp)]
            exact congrArg (· >>= fun code => .ok (code, rest)) hcode
          exact congrArg (· >>= fun result => .ok (([result.1], false), result.2)) hsequence

/-- Repeated characters up to the closing quote. -/
theorem repeated_character_iff {token chars : List UInt8} :
    Repeated CharacterPiece token chars ↔
      ∃ body, token = body ++ [0x22] ∧ Characters body chars := by
  constructor
  · intro h
    induction h with
    | last h =>
        obtain ⟨hpiece, rfl⟩ | ⟨ch, hpiece, -⟩ := h
        · cases hpiece
          exact ⟨[], rfl, .nil⟩
        · cases hpiece
    | more h hrest ih =>
        obtain ⟨hpiece, -⟩ | ⟨ch, hpiece, hch⟩ := h
        · cases hpiece
        · cases hpiece
          obtain ⟨body, rfl, hbody⟩ := ih
          exact ⟨_, (List.append_assoc _ _ _).symm, .cons hch hbody⟩
  · rintro ⟨body, rfl, h⟩
    induction h with
    | nil => exact .last (.inl ⟨rfl, rfl⟩)
    | cons h hrest ih =>
        rw [List.append_assoc]
        exact .more (.inr ⟨_, rfl, h⟩) ih

theorem parseJsonlString_eq_ok_iff {value : List UInt8} :
    parseJsonlString text = .ok (value, rest) ↔
      ∃ before token, Space before ∧ text = before ++ token ++ rest ∧ StringToken token value := by
  constructor
  · intro h
    rw [parseJsonlString] at h
    cases hskip : skipJsonlSpace text with
    | nil =>
        rw [hskip] at h
        cases h
    | cons ch tail =>
        simp only [hskip] at h
        split_ifs at h with hquote
        subst hquote
        obtain ⟨before, hbefore, htext⟩ := (skipJsonlSpace_eq_cons_iff rfl).mp hskip
        obtain ⟨token, more, rfl, rfl, hrepeated⟩ :=
          (loop_eq_ok_iff jsonlCharacters reads_parseJsonlCharacter _ _ _ _).mp h
        obtain ⟨body, rfl, hbody⟩ := repeated_character_iff.mp hrepeated
        exact ⟨before, 0x22 :: body ++ [0x22], hbefore, by simpa using htext, body, rfl, hbody⟩
  · rintro ⟨before, token, hbefore, rfl, body, rfl, hbody⟩
    have hskip : skipJsonlSpace (before ++ (0x22 :: body ++ [0x22]) ++ rest) =
        0x22 :: (body ++ [0x22] ++ rest) :=
      (skipJsonlSpace_eq_cons_iff rfl).mpr ⟨before, hbefore, by simp⟩
    simp only [parseJsonlString, hskip, if_true]
    exact (loop_eq_ok_iff jsonlCharacters reads_parseJsonlCharacter _ _ _ _).mpr
      ⟨body ++ [0x22], value, rfl, rfl, repeated_character_iff.mpr ⟨body, rfl, hbody⟩⟩

end Strings

section Numbers

variable {text rest : List UInt8} {value : Nat}

theorem unsignedValue_eq_ok_iff {start : Nat} {digits : List UInt8} (hstart : start ≤ unsignedMax) :
    unsignedValue start digits = .ok value ↔
      continueDecimal start digits = value ∧ value ≤ unsignedMax := by
  constructor
  · intro h
    induction digits generalizing start with
    | nil =>
        cases h
        exact ⟨rfl, hstart⟩
    | cons ch digits ih =>
        rw [unsignedValue] at h
        split_ifs at h with hoverflow
        exact ih (Nat.le_of_not_lt hoverflow) h
  · rintro ⟨rfl, hmax⟩
    exact unsignedValue_eq hmax

theorem isDigit_of_isSpace {ch : UInt8} (h : isSpace ch = true) : isDigit ch = false := by
  cases hdigit : isDigit ch
  · rfl
  · rw [isSpace_of_isDigit hdigit] at h
    cases h

/-- A number ends before the first character that is no digit. -/
theorem parseJsonlUnsigned_eq_ok_iff : parseJsonlUnsigned text = .ok (value, rest) ↔
    ∃ before digits, Space before ∧ text = before ++ digits ++ rest ∧ Number digits value ∧
      ∀ ch ∈ rest.head?, isDigit ch = false := by
  constructor
  · intro h
    obtain ⟨before, hbefore, htext⟩ := exists_space text
    have hsplit : (skipJsonlSpace text).takeWhile isDigit ++
        (skipJsonlSpace text).dropWhile isDigit = skipJsonlSpace text :=
      List.takeWhile_append_dropWhile
    have hdigits : ∀ ch ∈ (skipJsonlSpace text).takeWhile isDigit, isDigit ch = true :=
      fun _ => List.mem_takeWhile_imp
    have hend := List.head?_dropWhile_not isDigit (skipJsonlSpace text)
    simp only [parseJsonlUnsigned] at h
    generalize (skipJsonlSpace text).takeWhile isDigit = digits at *
    generalize (skipJsonlSpace text).dropWhile isDigit = others at *
    rw [← hsplit] at h htext
    split_ifs at h with hempty
    obtain ⟨number, hnumber, h⟩ := exists_of_bind_eq_ok h
    rw [List.drop_left] at h
    cases h
    obtain ⟨hvalue, hmax⟩ := (unsignedValue_eq_ok_iff (Nat.zero_le _)).mp hnumber
    rw [Bool.not_eq_true, List.isEmpty_eq_false_iff] at hempty
    refine ⟨before, digits, hbefore, by simpa using htext, ⟨hempty, hdigits, hvalue, hmax⟩, ?_⟩
    intro ch hch
    rw [Option.mem_def.mp hch] at hend
    exact hend
  · rintro ⟨before, digits, hbefore, rfl, ⟨hne, hdigits, rfl, hmax⟩, hrest⟩
    have hskip : skipJsonlSpace (before ++ digits ++ rest) = digits ++ rest := by
      obtain ⟨ch, tail, rfl⟩ := List.exists_cons_of_ne_nil hne
      rw [List.append_assoc, skipJsonlSpace_append_of_space hbefore, List.cons_append,
        skipJsonlSpace_cons (isSpace_of_isDigit (hdigits ch List.mem_cons_self))]
    have htake : (digits ++ rest).takeWhile isDigit = digits := by
      rw [List.takeWhile_append_of_pos hdigits]
      cases rest with
      | nil => simp
      | cons ch tail => simp [hrest ch rfl]
    have hempty : digits.isEmpty = false := List.isEmpty_eq_false_iff.mpr hne
    simp only [parseJsonlUnsigned, hskip, htake, hempty, unsignedValue_eq hmax, List.drop_left]
    rfl

end Numbers

section Lists

variable {α : Type} {item : List UInt8 → α → Prop} {close : UInt8}

/-- The loop over the items of a list, or the end of an empty list. -/
theorem list_eq_ok_iff (s : Scanner UInt8 JsonlError (List α × Bool))
    (hscan : Reads s.scan fun token piece => Ended 0x2c close (Padded item) piece.2 token piece.1)
    (hskip : ∀ text, s.scan (skipJsonlSpace text) = s.scan text)
    (hitem : ∀ token value, item token value →
      ∃ ch tail, token = ch :: tail ∧ isSpace ch = false ∧ ch ≠ close)
    (hclose : isSpace close = false) (values : List α) (text rest : List UInt8) :
    (if (skipJsonlSpace text).head? = some close then .ok ([], (skipJsonlSpace text).tail)
      else s.loop [] (skipJsonlSpace text)) = .ok (values, rest) ↔
    ∃ inner, text = inner ++ close :: rest ∧
      (Space inner ∧ values = [] ∨ Separated 0x2c (Padded item) inner values) := by
  rw [loop_congr s (hskip text)]
  constructor
  · intro h
    split_ifs at h with hend
    · obtain ⟨tail, htail⟩ := List.head?_eq_some_iff.mp hend
      rw [htail] at h
      cases h
      obtain ⟨before, hbefore, htext⟩ := (skipJsonlSpace_eq_cons_iff hclose).mp htail
      exact ⟨before, htext, .inl ⟨hbefore, rfl⟩⟩
    · obtain ⟨token, more, rfl, rfl, hrepeated⟩ := (loop_eq_ok_iff s hscan _ _ _ _).mp h
      obtain ⟨inner, rfl, hinner⟩ := repeated_ended_iff.mp hrepeated
      exact ⟨inner, by simp, .inr hinner⟩
  · rintro ⟨inner, rfl, ⟨hspace, rfl⟩ | hinner⟩
    · have hskipped : skipJsonlSpace (inner ++ close :: rest) = close :: rest :=
        (skipJsonlSpace_eq_cons_iff hclose).mpr ⟨inner, hspace, rfl⟩
      rw [hskipped]
      exact if_pos rfl
    · have hfirst : ∃ ch tail, skipJsonlSpace (inner ++ close :: rest) = ch :: tail ∧
          ch ≠ close := by
        have hpadded : ∃ token others value, inner = token ++ others ∧ Padded item token value := by
          cases hinner with
          | single h => exact ⟨_, [], _, (List.append_nil _).symm, h⟩
          | cons h hrest => exact ⟨_, _, _, rfl, h⟩
        obtain ⟨-, others, value, rfl, before, token, after, rfl, hbefore, -, htoken⟩ := hpadded
        obtain ⟨ch, tail, rfl, hch, hne⟩ := hitem token value htoken
        refine ⟨ch, tail ++ after ++ others ++ close :: rest, ?_, hne⟩
        exact (skipJsonlSpace_eq_cons_iff hch).mpr ⟨before, hbefore, by simp⟩
      obtain ⟨ch, tail, hskipped, hne⟩ := hfirst
      rw [if_neg (by rw [hskipped]; simpa using hne)]
      exact (loop_eq_ok_iff s hscan _ _ _ _).mpr
        ⟨inner ++ [close], values, by simp, rfl, repeated_ended_iff.mpr ⟨inner, rfl, hinner⟩⟩

end Lists

section Values

variable {text rest : List UInt8}

theorem exists_cons_of_number {token : List UInt8} {value : Nat} (h : Number token value) :
    ∃ ch tail, token = ch :: tail ∧ isSpace ch = false ∧ ch ≠ 0x5d := by
  obtain ⟨ch, tail, rfl⟩ := List.exists_cons_of_ne_nil h.1
  have hdigit := h.2.1 ch List.mem_cons_self
  refine ⟨ch, tail, rfl, isSpace_of_isDigit hdigit, ?_⟩
  rintro rfl
  cases hdigit

theorem reads_parseJsonlElement : Reads parseJsonlElement fun token piece =>
    Ended 0x2c 0x5d (Padded Number) piece.2 token piece.1 := by
  rintro text ⟨values, isLast⟩ rest
  constructor
  · intro h
    obtain ⟨⟨value, middle⟩, hvalue, h⟩ := exists_of_bind_eq_ok h
    obtain ⟨⟨isLast', rest'⟩, hseparator, h⟩ := exists_of_bind_eq_ok h
    cases h
    obtain ⟨before, digits, hbefore, rfl, hnumber, -⟩ := parseJsonlUnsigned_eq_ok_iff.mp hvalue
    obtain ⟨after, hafter, rfl⟩ :=
      (parseJsonlSeparator_eq_ok_iff rfl (by decide)).mp hseparator
    exact ⟨before ++ digits ++ after ++ [if isLast then 0x5d else 0x2c], by simp,
      before ++ digits ++ after, value, rfl, rfl, before, digits, after, rfl, hbefore, hafter,
      hnumber⟩
  · rintro ⟨-, rfl, -, value, rfl, hvalues, before, digits, after, rfl, hbefore, hafter, hnumber⟩
    cases hvalues
    have hmark : isDigit (if isLast then 0x5d else 0x2c) = false := by
      cases isLast <;> rfl
    have hvalue : parseJsonlUnsigned (before ++ digits ++ after ++
        [if isLast then 0x5d else 0x2c] ++ rest) =
          .ok (value, after ++ (if isLast then 0x5d else 0x2c) :: rest) := by
      refine parseJsonlUnsigned_eq_ok_iff.mpr ⟨before, digits, hbefore, by simp, hnumber, ?_⟩
      intro ch hch
      cases after with
      | nil =>
          cases hch
          exact hmark
      | cons space after =>
          cases hch
          exact isDigit_of_isSpace (hafter _ List.mem_cons_self)
    have hseparator : parseJsonlSeparator 0x5d .unterminatedArray .expectedArraySeparator
        (after ++ (if isLast then 0x5d else 0x2c) :: rest) = .ok (isLast, rest) :=
      (parseJsonlSeparator_eq_ok_iff rfl (by decide)).mpr ⟨after, hafter, rfl⟩
    rw [parseJsonlElement, hvalue, ok_bind]
    exact congrArg (· >>= fun result => .ok (([value], result.1), result.2)) hseparator

theorem parseJsonlUnsignedArray_eq_ok_iff {values : List Nat} :
    parseJsonlUnsignedArray text = .ok (values, rest) ↔
      ∃ before token, Space before ∧ text = before ++ token ++ rest ∧ ArrayToken token values := by
  have hskip : ∀ text, jsonlElements.scan (skipJsonlSpace text) = jsonlElements.scan text := by
    intro text
    change parseJsonlElement _ = parseJsonlElement _
    rw [parseJsonlElement, parseJsonlElement, parseJsonlUnsigned, parseJsonlUnsigned,
      skipJsonlSpace_idem]
  have hlist := list_eq_ok_iff jsonlElements reads_parseJsonlElement hskip
    (fun _ _ => exists_cons_of_number) rfl values
  constructor
  · intro h
    obtain ⟨middle, hopen, helements⟩ := exists_of_bind_eq_ok h
    obtain ⟨before, hbefore, rfl⟩ := (requireJsonlChar_eq_ok_iff rfl).mp hopen
    obtain ⟨inner, rfl, hinner⟩ := (hlist middle rest).mp helements
    exact ⟨before, 0x5b :: inner ++ [0x5d], hbefore, by simp, inner, rfl, hinner⟩
  · rintro ⟨before, -, hbefore, rfl, inner, rfl, hinner⟩
    have hopen : requireJsonlChar 0x5b (before ++ (0x5b :: inner ++ [0x5d]) ++ rest) =
        .ok (inner ++ 0x5d :: rest) :=
      (requireJsonlChar_eq_ok_iff rfl).mpr ⟨before, hbefore, by simp⟩
    rw [parseJsonlUnsignedArray, hopen, ok_bind]
    exact (hlist (inner ++ 0x5d :: rest) rest).mpr ⟨inner, rfl, hinner⟩

theorem parseJsonlValue_eq_ok_iff {value : JsonlValue} :
    parseJsonlValue text = .ok (value, rest) ↔
      ∃ before token, Space before ∧ text = before ++ token ++ rest ∧ Value token value := by
  constructor
  · intro h
    obtain ⟨before, hbefore, htext⟩ := exists_space text
    simp only [parseJsonlValue] at h
    cases hskip : skipJsonlSpace text with
    | nil =>
        rw [hskip] at h
        cases h
    | cons ch tail =>
        rw [hskip, List.head?_cons] at h
        dsimp only at h
        rw [← hskip] at h
        split_ifs at h with hquote hbracket
        · obtain ⟨⟨string, rest'⟩, hstring, hvalue⟩ := exists_of_bind_eq_ok h
          cases hvalue
          obtain ⟨inner, token, hinner, hsplit, htoken⟩ := parseJsonlString_eq_ok_iff.mp hstring
          refine ⟨before ++ inner, token, ?_, ?_, htoken⟩
          · exact fun ch hch => (List.mem_append.mp hch).elim (hbefore ch) (hinner ch)
          · rw [htext, hsplit]
            simp
        · obtain ⟨⟨values, rest'⟩, harray, hvalue⟩ := exists_of_bind_eq_ok h
          cases hvalue
          obtain ⟨inner, token, hinner, hsplit, htoken⟩ :=
            parseJsonlUnsignedArray_eq_ok_iff.mp harray
          refine ⟨before ++ inner, token, ?_, ?_, htoken⟩
          · exact fun ch hch => (List.mem_append.mp hch).elim (hbefore ch) (hinner ch)
          · rw [htext, hsplit]
            simp
  · rintro ⟨before, token, hbefore, rfl, htoken⟩
    cases value with
    | string value =>
        have hparse : parseJsonlString (token ++ rest) = .ok (value, rest) :=
          parseJsonlString_eq_ok_iff.mpr ⟨[], token, by simp [Space], rfl, htoken⟩
        obtain ⟨body, rfl, -⟩ := htoken
        have hskip : skipJsonlSpace (before ++ (0x22 :: body ++ [0x22]) ++ rest) =
            0x22 :: body ++ [0x22] ++ rest :=
          (skipJsonlSpace_eq_cons_iff rfl).mpr ⟨before, hbefore, by simp⟩
        rw [parseJsonlValue, hskip]
        exact congrArg (· >>= fun result => .ok (JsonlValue.string result.1, result.2)) hparse
    | array values =>
        have hparse : parseJsonlUnsignedArray (token ++ rest) = .ok (values, rest) :=
          parseJsonlUnsignedArray_eq_ok_iff.mpr ⟨[], token, by simp [Space], rfl, htoken⟩
        obtain ⟨inner, rfl, -⟩ := htoken
        have hskip : skipJsonlSpace (before ++ (0x5b :: inner ++ [0x5d]) ++ rest) =
            0x5b :: inner ++ [0x5d] ++ rest :=
          (skipJsonlSpace_eq_cons_iff rfl).mpr ⟨before, hbefore, by simp⟩
        rw [parseJsonlValue, hskip]
        exact congrArg (· >>= fun result => .ok (JsonlValue.array result.1, result.2)) hparse

end Values

section Objects

theorem exists_cons_of_field {token : List UInt8} {field : JsonlField} (h : Field token field) :
    ∃ ch tail, token = ch :: tail ∧ isSpace ch = false ∧ ch ≠ 0x7d := by
  obtain ⟨key, before, after, value, rfl, -, -, ⟨body, rfl, -⟩, -⟩ := h
  exact ⟨0x22, _, rfl, rfl, by decide⟩

theorem reads_parseJsonlField : Reads parseJsonlField fun token piece =>
    Ended 0x2c 0x7d (Padded Field) piece.2 token piece.1 := by
  rintro text ⟨fields, isLast⟩ rest
  constructor
  · intro h
    obtain ⟨⟨key, rest₁⟩, hkey, h⟩ := exists_of_bind_eq_ok h
    obtain ⟨rest₂, hcolon, h⟩ := exists_of_bind_eq_ok h
    obtain ⟨⟨value, rest₃⟩, hvalue, h⟩ := exists_of_bind_eq_ok h
    obtain ⟨⟨isLast', rest₄⟩, hseparator, h⟩ := exists_of_bind_eq_ok h
    cases h
    obtain ⟨space₁, keyToken, hspace₁, rfl, hkeyToken⟩ := parseJsonlString_eq_ok_iff.mp hkey
    obtain ⟨space₂, hspace₂, rfl⟩ := (requireJsonlChar_eq_ok_iff rfl).mp hcolon
    obtain ⟨space₃, valueToken, hspace₃, rfl, hvalueToken⟩ := parseJsonlValue_eq_ok_iff.mp hvalue
    obtain ⟨space₄, hspace₄, rfl⟩ :=
      (parseJsonlSeparator_eq_ok_iff rfl (by decide)).mp hseparator
    have hfield : Field (keyToken ++ space₂ ++ 0x3a :: space₃ ++ valueToken) ⟨key, value⟩ :=
      ⟨keyToken, space₂, space₃, valueToken, rfl, hspace₂, hspace₃, hkeyToken, hvalueToken⟩
    exact ⟨space₁ ++ (keyToken ++ space₂ ++ 0x3a :: space₃ ++ valueToken) ++ space₄ ++
        [if isLast then 0x7d else 0x2c], by simp, _, _, rfl, rfl, space₁, _, space₄, rfl, hspace₁,
      hspace₄, hfield⟩
  · rintro ⟨-, rfl, -, ⟨key, value⟩, rfl, hvalues, space₁, -, space₄, rfl, hspace₁, hspace₄,
      keyToken, space₂, space₃, valueToken, rfl, hspace₂, hspace₃, hkey, hvalue⟩
    cases hvalues
    have hstring : parseJsonlString (space₁ ++ (keyToken ++ space₂ ++ 0x3a :: space₃ ++ valueToken)
        ++ space₄ ++ [if isLast then 0x7d else 0x2c] ++ rest) = .ok (key, space₂ ++ 0x3a ::
          (space₃ ++ valueToken ++ (space₄ ++ (if isLast then 0x7d else 0x2c) :: rest))) :=
      parseJsonlString_eq_ok_iff.mpr ⟨space₁, keyToken, hspace₁, by simp, hkey⟩
    have hcolon : requireJsonlChar 0x3a (space₂ ++ 0x3a ::
        (space₃ ++ valueToken ++ (space₄ ++ (if isLast then 0x7d else 0x2c) :: rest))) =
          .ok (space₃ ++ valueToken ++ (space₄ ++ (if isLast then 0x7d else 0x2c) :: rest)) :=
      (requireJsonlChar_eq_ok_iff rfl).mpr ⟨space₂, hspace₂, rfl⟩
    have hread := parseJsonlValue_eq_ok_iff.mpr ⟨space₃, valueToken, hspace₃,
      (rfl : space₃ ++ valueToken ++ (space₄ ++ (if isLast then 0x7d else 0x2c) :: rest) = _),
      hvalue⟩
    have hseparator : parseJsonlSeparator 0x7d .unterminatedObject .expectedFieldSeparator
        (space₄ ++ (if isLast then 0x7d else 0x2c) :: rest) = .ok (isLast, rest) :=
      (parseJsonlSeparator_eq_ok_iff rfl (by decide)).mpr ⟨space₄, hspace₄, rfl⟩
    rw [parseJsonlField, hstring, ok_bind]
    dsimp only
    rw [hcolon, ok_bind, hread, ok_bind]
    exact congrArg (· >>= fun result =>
      .ok (([JsonlField.mk key value], result.1), result.2)) hseparator

theorem finishJsonlObject_eq_ok_iff {fields fields' : List JsonlField} {rest : List UInt8} :
    finishJsonlObject fields rest = .ok fields' ↔ Space rest ∧ fields = fields' := by
  rw [finishJsonlObject]
  by_cases hrest : Space rest
  · rw [if_pos (List.isEmpty_iff.mpr (skipJsonlSpace_eq_nil.mpr hrest))]
    simp [hrest]
  · rw [if_neg fun h => hrest (skipJsonlSpace_eq_nil.mp (List.isEmpty_iff.mp h))]
    simp [hrest]

/-- The fields of an object and what is left after its closing brace. -/
def parseJsonlFields (text : List UInt8) : Except JsonlError (List JsonlField × List UInt8) :=
  if (skipJsonlSpace text).head? = some 0x7d then .ok ([], (skipJsonlSpace text).tail)
  else jsonlFields.loop [] (skipJsonlSpace text)

theorem parseJsonlObject_eq (text : List UInt8) :
    parseJsonlObject text = requireJsonlChar 0x7b text >>= fun text =>
      parseJsonlFields text >>= fun result => finishJsonlObject result.1 result.2 := by
  rw [parseJsonlObject]
  congr 1
  funext text
  rw [parseJsonlFields]
  by_cases hend : (skipJsonlSpace text).head? = some 0x7d
  · simp only [if_pos hend]
    rfl
  · simp only [if_neg hend]

theorem parseJsonlFields_eq_ok_iff {text rest : List UInt8} {fields : List JsonlField} :
    parseJsonlFields text = .ok (fields, rest) ↔ ∃ inner, text = inner ++ 0x7d :: rest ∧
      (Space inner ∧ fields = [] ∨ Separated 0x2c (Padded Field) inner fields) := by
  have hskip : ∀ text, jsonlFields.scan (skipJsonlSpace text) = jsonlFields.scan text := by
    intro text
    change parseJsonlField _ = parseJsonlField _
    rw [parseJsonlField, parseJsonlField, parseJsonlString, parseJsonlString, skipJsonlSpace_idem]
  exact list_eq_ok_iff jsonlFields reads_parseJsonlField hskip (fun _ _ => exists_cons_of_field)
    rfl fields text rest

/-- The parser accepts the objects of the grammar and returns the fields that they denote. -/
theorem parseJsonlObject_eq_ok_iff (text : List UInt8) (fields : List JsonlField) :
    parseJsonlObject text = .ok fields ↔ Object text fields := by
  rw [parseJsonlObject_eq]
  constructor
  · intro h
    obtain ⟨middle, hopen, hobject⟩ := exists_of_bind_eq_ok h
    obtain ⟨⟨found, rest⟩, hfields, hfinish⟩ := exists_of_bind_eq_ok hobject
    obtain ⟨before, hbefore, rfl⟩ := (requireJsonlChar_eq_ok_iff rfl).mp hopen
    obtain ⟨inner, rfl, hinner⟩ := parseJsonlFields_eq_ok_iff.mp hfields
    obtain ⟨hrest, rfl⟩ := finishJsonlObject_eq_ok_iff.mp hfinish
    exact ⟨before, 0x7b :: inner ++ [0x7d], rest, by simp, hbefore, hrest, inner, rfl, hinner⟩
  · rintro ⟨before, -, after, rfl, hbefore, hafter, inner, rfl, hinner⟩
    have hopen : requireJsonlChar 0x7b (before ++ (0x7b :: inner ++ [0x7d]) ++ after) =
        .ok (inner ++ 0x7d :: after) :=
      (requireJsonlChar_eq_ok_iff rfl).mpr ⟨before, hbefore, by simp⟩
    have hfields : parseJsonlFields (inner ++ 0x7d :: after) = .ok (fields, after) :=
      parseJsonlFields_eq_ok_iff.mpr ⟨inner, rfl, hinner⟩
    rw [hopen, ok_bind, hfields, ok_bind]
    exact finishJsonlObject_eq_ok_iff.mpr ⟨hafter, rfl⟩

end Objects

end VirtualDualSense.Config.JsonlGrammar
