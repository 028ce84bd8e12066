import Mathlib.Data.List.Infix
import VirtualDualSense.Lib.Text

/-!
# Device ids from modaliases

The daemon learns the profile of a controller from the modalias of its device. The vendor and
the product are hexadecimal tokens behind the letters `v` and `p`.

## Implementation notes

A token ends at the digit limit or at the first other character. The letter `d` of the version
field is a hexadecimal digit, so only the limit of four digits ends the product of a `usb:`
modalias. The other formats are read with eight digits.
-/

namespace VirtualDualSense.Config.Modalias

open Lib.Text

structure DeviceId where
  vendor : UInt16
  product : UInt16
  deriving DecidableEq

/-- The value of a hexadecimal digit of either case. -/
def hexNibble (ch : UInt8) : Option UInt32 :=
  if 0x30 ≤ ch ∧ ch ≤ 0x39 then some (ch - 0x30).toUInt32
  else if 0x61 ≤ ch ∧ ch ≤ 0x66 then some (10 + (ch - 0x61).toUInt32)
  else if 0x41 ≤ ch ∧ ch ≤ 0x46 then some (10 + (ch - 0x41).toUInt32)
  else none

/-- The loop of `parse_hex_token`: the value and the number of digits. -/
def scanHex (maxDigits : Nat) (value : UInt32) (digits : Nat) : List UInt8 → UInt32 × Nat
  | [] => (value, digits)
  | ch :: rest =>
      if digits < maxDigits then
        match hexNibble ch with
        | some nibble => scanHex maxDigits ((value <<< 4) ||| nibble) (digits + 1) rest
        | none => (value, digits)
      else (value, digits)

def parseHexToken (text : List UInt8) (offset maxDigits : Nat) : Option UInt32 :=
  let (value, digits) := scanHex maxDigits 0 0 (text.drop offset)
  if digits = 0 then none else some value

/-- `std::string_view::find` of a character from an offset on. -/
def find (text : List UInt8) (ch : UInt8) (offset : Nat) : Option Nat :=
  ((text.drop offset).findIdx? (· == ch)).map (offset + ·)

/-- Whether `std::string_view::find` finds a text. -/
def finds (text pattern : List UInt8) : Bool := text.tails.any pattern.isPrefixOf

def parseModaliasDeviceId (line : List UInt8) : Option DeviceId := do
  let vendorMarker ← find line 0x76 0
  let productMarker ← find line 0x70 (vendorMarker + 1)
  let usbModalias := finds line (ascii "usb:")
  let digits := if usbModalias then 4 else 8
  let vendor ← parseHexToken line (vendorMarker + 1) digits
  let product ← parseHexToken line (productMarker + 1) digits
  return ⟨(vendor &&& 0xffff).toUInt16, (product &&& 0xffff).toUInt16⟩

section Formats

/-- The upper-case digit of a value below sixteen. -/
def hexDigit (value : Nat) : UInt8 :=
  if value < 10 then 0x30 + UInt8.ofNat value else 0x41 + UInt8.ofNat (value - 10)

/-- `%0wX` of a value that has at most `w` digits. -/
def hexUpper : Nat → Nat → List UInt8
  | 0, _ => []
  | width + 1, value => hexUpper width (value / 16) ++ [hexDigit (value % 16)]

variable (vendor product version bus group : UInt16)

/-- `usb:v%04Xp%04Xd%04X`. -/
def usbModalias : List UInt8 :=
  ascii "usb:v" ++ hexUpper 4 vendor.toNat ++ ascii "p" ++ hexUpper 4 product.toNat ++
    ascii "d" ++ hexUpper 4 version.toNat

/-- `bluetooth:v%04Xp%04Xd%04X`. -/
def bluetoothModalias : List UInt8 :=
  ascii "bluetooth:v" ++ hexUpper 4 vendor.toNat ++ ascii "p" ++ hexUpper 4 product.toNat ++
    ascii "d" ++ hexUpper 4 version.toNat

/-- `hid:b%04Xg%04Xv%08Xp%08X`. -/
def hidModalias : List UInt8 :=
  ascii "hid:b" ++ hexUpper 4 bus.toNat ++ ascii "g" ++ hexUpper 4 group.toNat ++
    ascii "v" ++ hexUpper 8 vendor.toNat ++ ascii "p" ++ hexUpper 8 product.toNat

end Formats

section Hexadecimal

variable {maxDigits digits d a : Nat}

theorem hexNibble_hexDigit (h : d < 16) : hexNibble (hexDigit d) = some (UInt32.ofNat d) := by
  revert d
  decide

/-- One more digit. -/
theorem shift_or_ofNat (h : d < 16) :
    (UInt32.ofNat a <<< 4) ||| UInt32.ofNat d = UInt32.ofNat (a * 16 + d) := by
  apply UInt32.toNat_inj.mp
  have hshift : (a % 4294967296) <<< 4 % 4294967296 = (a % 268435456) <<< 4 := by
    simp only [Nat.shiftLeft_eq]
    omega
  rw [UInt32.toNat_or, UInt32.toNat_shiftLeft, UInt32.toNat_ofNat', UInt32.toNat_ofNat',
    UInt32.toNat_ofNat']
  change (a % 4294967296) <<< 4 % 4294967296 ||| d % 4294967296 = (a * 16 + d) % 4294967296
  rw [hshift, Nat.mod_eq_of_lt (show d < 4294967296 by omega),
    ← Nat.shiftLeft_add_eq_or_of_lt (show d < 2 ^ 4 from h), Nat.shiftLeft_eq]
  omega

/-- The digits of a printed number are read one by one. -/
theorem scanHex_hexUpper (a width value : Nat) (rest : List UInt8)
    (h : digits + width ≤ maxDigits) :
    scanHex maxDigits (UInt32.ofNat a) digits (hexUpper width value ++ rest) =
      scanHex maxDigits (UInt32.ofNat (a * 16 ^ width + value % 16 ^ width)) (digits + width)
        rest := by
  induction width generalizing value rest with
  | zero => simp [hexUpper, Nat.mod_one]
  | succ width ih =>
      have hdigit : value % 16 < 16 := Nat.mod_lt _ (by decide)
      rw [hexUpper, List.append_assoc, ih _ _ (by omega), List.singleton_append, scanHex,
        if_pos (by omega), hexNibble_hexDigit hdigit]
      have hvalue : (a * 16 ^ width + value / 16 % 16 ^ width) * 16 + value % 16 =
          a * 16 ^ (width + 1) + value % 16 ^ (width + 1) := by
        rw [Nat.pow_succ', Nat.mod_mul, Nat.add_mul, Nat.mul_assoc, Nat.mul_comm (16 ^ width) 16]
        omega
      simp only
      rw [shift_or_ofNat hdigit, hvalue, Nat.add_assoc digits]

theorem scanHex_full (value : UInt32) (rest : List UInt8) :
    scanHex maxDigits value maxDigits rest = (value, maxDigits) := by
  cases rest <;> simp [scanHex]

theorem scanHex_stop {ch : UInt8} (h : hexNibble ch = none) (value : UInt32) (rest : List UInt8) :
    scanHex maxDigits value digits (ch :: rest) = (value, digits) := by
  simp [scanHex, h]

theorem low_ofNat (value : Nat) :
    (UInt32.ofNat value &&& 0xffff).toUInt16 = UInt16.ofNat value := by
  apply UInt16.toNat_inj.mp
  rw [UInt32.toNat_toUInt16, UInt32.toNat_and, UInt32.toNat_ofNat', UInt16.toNat_ofNat']
  change (value % 4294967296 &&& 2 ^ 16 - 1) % 65536 = value % 65536
  rw [Nat.and_two_pow_sub_one_eq_mod]
  omega

end Hexadecimal

section Markers

variable {ch : UInt8} {front before text rest : List UInt8}

theorem find_append (front rest : List UInt8) (h : ch ∉ before) :
    find (front ++ (before ++ ch :: rest)) ch front.length =
      some (front.length + before.length) := by
  have hnone : before.findIdx? (· == ch) = none := by
    rw [List.findIdx?_eq_none_iff]
    intro x hx
    simpa using fun heq : x = ch => h (heq ▸ hx)
  rw [find, List.drop_left, List.findIdx?_append, hnone, List.findIdx?_cons]
  simp

theorem ne_of_mem_hexUpper {width value : Nat} {ch : UInt8} (h : hexNibble ch = none) :
    ch ∉ hexUpper width value := by
  induction width generalizing value with
  | zero => simp [hexUpper]
  | succ width ih =>
      rw [hexUpper, List.mem_append, not_or]
      refine ⟨ih, ?_⟩
      rw [List.mem_singleton]
      rintro rfl
      rw [hexNibble_hexDigit (Nat.mod_lt _ (by decide))] at h
      cases h

theorem finds_of_mem {pattern : List UInt8} (h : finds text pattern = true) (hch : ch ∈ pattern) :
    ch ∈ text := by
  obtain ⟨suffix, hsuffix, hpattern⟩ := List.any_eq_true.mp h
  have htail : suffix <:+ text := (List.mem_tails _ _).mp hsuffix
  have hstart : pattern <+: suffix := List.isPrefixOf_iff_prefix.mp hpattern
  exact htail.subset (hstart.subset hch)

theorem finds_append (pattern text : List UInt8) : finds (pattern ++ text) pattern = true := by
  rw [finds, List.any_eq_true]
  exact ⟨pattern ++ text, (List.mem_tails _ _).mpr (List.suffix_refl _),
    List.isPrefixOf_iff_prefix.mpr (List.prefix_append _ _)⟩

/-- The tokens of a line with its two markers. -/
theorem parseModaliasDeviceId_eq (hbefore : 0x76 ∉ before) (htext : 0x70 ∉ text) :
    let line := before ++ 0x76 :: (text ++ 0x70 :: rest)
    let digits := if finds line (ascii "usb:") then 4 else 8
    parseModaliasDeviceId line =
      (parseHexToken (text ++ 0x70 :: rest) 0 digits).bind fun vendor =>
        (parseHexToken rest 0 digits).bind fun product =>
          some ⟨(vendor &&& 0xffff).toUInt16, (product &&& 0xffff).toUInt16⟩ := by
  intro line digits
  have hvendor : find line 0x76 0 = some before.length := by
    have hfind := find_append [] (text ++ 0x70 :: rest) hbefore
    simpa [line] using hfind
  have hline : line = (before ++ [0x76]) ++ (text ++ 0x70 :: rest) := by simp [line]
  have hproduct : find line 0x70 (before.length + 1) =
      some (before.length + 1 + text.length) := by
    have hfind := find_append (before ++ [0x76]) rest htext
    rw [List.length_append, List.length_singleton] at hfind
    rw [hline]
    exact hfind
  have htoken : ∀ front text, parseHexToken (front ++ text) front.length digits =
      parseHexToken text 0 digits := by
    intro front text
    rw [parseHexToken, parseHexToken, List.drop_left, List.drop_zero]
  have hvendorToken := htoken (before ++ [0x76]) (text ++ 0x70 :: rest)
  have hproductToken := htoken (before ++ 0x76 :: (text ++ [0x70])) rest
  rw [← hline, List.length_append, List.length_singleton] at hvendorToken
  have hfront : (before ++ 0x76 :: (text ++ [0x70])).length =
      before.length + 1 + text.length + 1 := by
    simp only [List.length_append, List.length_cons, List.length_nil]
    omega
  rw [show before ++ 0x76 :: (text ++ [0x70]) ++ rest = line by simp [line], hfront]
    at hproductToken
  rw [parseModaliasDeviceId, hvendor, Option.bind_eq_bind, Option.bind_some, hproduct]
  change (parseHexToken line (before.length + 1) digits).bind (fun vendor =>
    (parseHexToken line (before.length + 1 + text.length + 1) digits).bind fun product => _) = _
  rw [hvendorToken, hproductToken]
  rfl

end Markers

section Tokens

/-- A token that ends at its limit or before a character that is no digit. -/
theorem parseHexToken_hexUpper {width value maxDigits : Nat} {rest : List UInt8}
    (hwidth : 0 < width) (hmax : width ≤ maxDigits) (hvalue : value < 16 ^ width)
    (hend : width = maxDigits ∨ rest = [] ∨ ∃ ch tail, rest = ch :: tail ∧ hexNibble ch = none) :
    parseHexToken (hexUpper width value ++ rest) 0 maxDigits = some (UInt32.ofNat value) := by
  have hscan : scanHex maxDigits 0 0 (hexUpper width value ++ rest) =
      (UInt32.ofNat value, width) := by
    have hdigits := scanHex_hexUpper 0 width value rest (show 0 + width ≤ maxDigits by omega)
    rw [Nat.zero_mul, Nat.zero_add, Nat.zero_add, Nat.mod_eq_of_lt hvalue] at hdigits
    refine hdigits.trans ?_
    rcases hend with rfl | rfl | ⟨ch, tail, rfl, hch⟩
    · exact scanHex_full _ _
    · rfl
    · exact scanHex_stop hch _ _
  rw [parseHexToken, List.drop_zero, hscan]
  simp [Nat.ne_of_gt hwidth]

/-- A product that is read on into its version. -/
theorem parseHexToken_into_version (product version : UInt16) :
    parseHexToken (hexUpper 4 product.toNat ++ ascii "d" ++ hexUpper 4 version.toNat) 0 8 =
      some (UInt32.ofNat ((product.toNat * 16 + 13) * 16 ^ 3 + version.toNat / 16)) := by
  have hproduct : product.toNat < 16 ^ 4 := product.toNat_lt
  have hversion : version.toNat < 16 ^ 4 := version.toNat_lt
  have hscan : scanHex 8 0 0 (hexUpper 4 product.toNat ++ ascii "d" ++ hexUpper 4 version.toNat) =
      (UInt32.ofNat ((product.toNat * 16 + 13) * 16 ^ 3 + version.toNat / 16), 8) := by
    have hd : ascii "d" = [0x64] := by decide
    have hnibble : hexNibble 0x64 = some (UInt32.ofNat 13) := by decide
    have hdigits := scanHex_hexUpper 0 4 product.toNat (0x64 :: hexUpper 4 version.toNat)
      (show 0 + 4 ≤ 8 by decide)
    rw [Nat.zero_mul, Nat.zero_add, Nat.zero_add, Nat.mod_eq_of_lt hproduct] at hdigits
    rw [hd, List.append_assoc, List.singleton_append]
    refine hdigits.trans ?_
    rw [scanHex, if_pos (by decide), hnibble]
    simp only
    rw [shift_or_ofNat (by decide), hexUpper, scanHex_hexUpper _ 3 _ _ (by decide),
      Nat.mod_eq_of_lt (by omega)]
    exact scanHex_full _ _
  rw [parseHexToken, List.drop_zero, hscan]
  rfl

end Tokens

section Decoding

variable (vendor product version bus group : UInt16)

theorem lt_pow_four (id : UInt16) : id.toNat < 16 ^ 4 := id.toNat_lt

theorem lt_pow_eight (id : UInt16) : id.toNat < 16 ^ 8 :=
  Nat.lt_trans id.toNat_lt (by decide)

/-- A character that is neither a digit nor in the fixed text is not in the line. -/
theorem finds_usb_eq_false {line : List UInt8} (h : 0x73 ∉ line) :
    finds line (ascii "usb:") = false := by
  cases hfinds : finds line (ascii "usb:")
  · rfl
  · exact absurd (finds_of_mem hfinds (by decide)) h

theorem parse_usbModalias :
    parseModaliasDeviceId (usbModalias vendor product version) = some ⟨vendor, product⟩ := by
  have hline : usbModalias vendor product version = ascii "usb:" ++ 0x76 ::
      (hexUpper 4 vendor.toNat ++ 0x70 ::
        (hexUpper 4 product.toNat ++ (ascii "d" ++ hexUpper 4 version.toNat))) := by
    rw [usbModalias, show ascii "usb:v" = ascii "usb:" ++ [0x76] by decide,
      show ascii "p" = [0x70] by decide]
    simp only [List.append_assoc, List.cons_append, List.nil_append]
  have hdigits : finds (usbModalias vendor product version) (ascii "usb:") = true := by
    rw [hline]
    exact finds_append _ _
  rw [hline] at hdigits ⊢
  rw [parseModaliasDeviceId_eq (by decide) (ne_of_mem_hexUpper (by decide)), hdigits, if_pos rfl,
    parseHexToken_hexUpper (by decide) (by decide) (lt_pow_four vendor) (.inl rfl),
    parseHexToken_hexUpper (by decide) (by decide) (lt_pow_four product) (.inl rfl)]
  simp only [Option.bind_some, low_ofNat, UInt16.ofNat_toNat]

theorem parse_bluetoothModalias :
    parseModaliasDeviceId (bluetoothModalias vendor product version) =
      some ⟨vendor, UInt16.ofNat (0xd000 + version.toNat / 16)⟩ := by
  have hline : bluetoothModalias vendor product version = ascii "bluetooth:" ++ 0x76 ::
      (hexUpper 4 vendor.toNat ++ 0x70 ::
        (hexUpper 4 product.toNat ++ ascii "d" ++ hexUpper 4 version.toNat)) := by
    rw [bluetoothModalias, show ascii "bluetooth:v" = ascii "bluetooth:" ++ [0x76] by decide,
      show ascii "p" = [0x70] by decide]
    simp only [List.append_assoc, List.cons_append, List.nil_append]
  have hdigits : finds (bluetoothModalias vendor product version) (ascii "usb:") = false := by
    apply finds_usb_eq_false
    simp only [bluetoothModalias, List.mem_append, not_or]
    refine ⟨⟨⟨⟨⟨by decide, ?_⟩, by decide⟩, ?_⟩, by decide⟩, ?_⟩ <;>
      exact ne_of_mem_hexUpper (by decide)
  rw [hline] at hdigits ⊢
  rw [parseModaliasDeviceId_eq (by decide) (ne_of_mem_hexUpper (by decide)), hdigits,
    if_neg (by decide), parseHexToken_hexUpper (by decide) (by decide) (lt_pow_four vendor)
      (.inr (.inr ⟨_, _, rfl, by decide⟩)), parseHexToken_into_version]
  have hproduct : UInt16.ofNat ((product.toNat * 16 + 13) * 16 ^ 3 + version.toNat / 16) =
      UInt16.ofNat (0xd000 + version.toNat / 16) := by
    apply UInt16.toNat_inj.mp
    rw [UInt16.toNat_ofNat', UInt16.toNat_ofNat']
    omega
  simp only [Option.bind_some, low_ofNat, UInt16.ofNat_toNat, hproduct]

theorem parse_hidModalias :
    parseModaliasDeviceId (hidModalias vendor product bus group) = some ⟨vendor, product⟩ := by
  have hline : hidModalias vendor product bus group =
      (ascii "hid:b" ++ hexUpper 4 bus.toNat ++ ascii "g" ++ hexUpper 4 group.toNat) ++ 0x76 ::
        (hexUpper 8 vendor.toNat ++ 0x70 :: (hexUpper 8 product.toNat ++ [])) := by
    rw [hidModalias, show ascii "v" = [0x76] by decide, show ascii "p" = [0x70] by decide]
    simp only [List.append_assoc, List.cons_append, List.nil_append, List.append_nil]
  have hdigits : finds (hidModalias vendor product bus group) (ascii "usb:") = false := by
    apply finds_usb_eq_false
    simp only [hidModalias, List.mem_append, not_or]
    refine ⟨⟨⟨⟨⟨⟨⟨by decide, ?_⟩, by decide⟩, ?_⟩, by decide⟩, ?_⟩, by decide⟩, ?_⟩ <;>
      exact ne_of_mem_hexUpper (by decide)
  have hbefore : 0x76 ∉ ascii "hid:b" ++ hexUpper 4 bus.toNat ++ ascii "g" ++
      hexUpper 4 group.toNat := by
    simp only [List.mem_append, not_or]
    refine ⟨⟨⟨by decide, ?_⟩, by decide⟩, ?_⟩ <;> exact ne_of_mem_hexUpper (by decide)
  rw [hline] at hdigits ⊢
  rw [parseModaliasDeviceId_eq hbefore (ne_of_mem_hexUpper (by decide)), hdigits,
    if_neg (by decide),
    parseHexToken_hexUpper (by decide) (by decide) (lt_pow_eight vendor) (.inl rfl),
    parseHexToken_hexUpper (by decide) (by decide) (lt_pow_eight product) (.inl rfl)]
  simp only [Option.bind_some, low_ofNat, UInt16.ofNat_toNat]

/-- The ids come back from all three formats. -/
def Decoded : Prop :=
  parseModaliasDeviceId (usbModalias vendor product version) = some ⟨vendor, product⟩ ∧
  parseModaliasDeviceId (bluetoothModalias vendor product version) = some ⟨vendor, product⟩ ∧
  ∀ bus group,
    parseModaliasDeviceId (hidModalias vendor product bus group) = some ⟨vendor, product⟩

/-- The `bluetooth:` format decodes only a product that reads like the letter and the version
behind it. -/
theorem decoded_iff :
    Decoded vendor product version ↔ product.toNat = 0xd000 + version.toNat / 16 := by
  have hlt : 0xd000 + version.toNat / 16 < 65536 := by
    have hversion := version.toNat_lt
    omega
  rw [Decoded, parse_bluetoothModalias]
  constructor
  · rintro ⟨-, hproduct, -⟩
    have heq := congrArg DeviceId.product (Option.some.inj hproduct)
    change UInt16.ofNat (0xd000 + version.toNat / 16) = product at heq
    rw [← heq, UInt16.toNat_ofNat', Nat.mod_eq_of_lt hlt]
  · intro hproduct
    rw [← hproduct, UInt16.ofNat_toNat]
    exact ⟨parse_usbModalias vendor product version, rfl, parse_hidModalias vendor product⟩

/-- A DualSense in the `bluetooth:` format. -/
theorem bluetooth_dualSense_not_decoded : ¬ Decoded 0x054c 0x0ce6 0x0100 := by
  rw [Decoded, parse_bluetoothModalias]
  rintro ⟨-, hproduct, -⟩
  revert hproduct
  decide

end Decoding

end VirtualDualSense.Config.Modalias
