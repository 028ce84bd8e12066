import VirtualDualSense.WinDrv.FilterDevices
import VirtualDualSense.Win32.HidPaths

/-!
# The path of a controller through the filter driver

The filter driver finds the Bluetooth address of a HID collection in its instance
identifier and makes a symbolic link with the digits of the address. The daemon opens that
link by the address of the database, however it is spelled.

## Implementation notes

An instance identifier is the list of its characters without the final zero.
-/

namespace VirtualDualSense.WinDrv.FilterPaths

open Lib.Text Config.Controllers Win32.HidPaths FilterDevices

section Parser

/-- `VdsWideHexValue` is not negative. -/
def isWideHex (value : UInt16) : Bool :=
  (0x30 ≤ value && value ≤ 0x39) || (0x61 ≤ value && value ≤ 0x66) ||
    (0x41 ≤ value && value ≤ 0x46)

/-- `VdsLowerHexChar` -/
def lowerHexChar (value : UInt16) : UInt8 :=
  if 0x30 ≤ value && value ≤ 0x39 then value.toUInt8
  else if 0x61 ≤ value && value ≤ 0x66 then value.toUInt8
  else (value - 0x41 + 0x61).toUInt8

/-- The variables of `VdsParseBluetoothAddress`. -/
structure Scan where
  run : List UInt16
  runLength : Nat
  insideGuid : Bool
  address : Option (List UInt8)

/-- Six pairs of digits with colons. -/
def runAddress (run : List UInt16) : List UInt8 :=
  [0x3a].intercalate ((List.range 6).map fun byteIndex =>
    [lowerHexChar (run.getD (byteIndex * 2) 0), lowerHexChar (run.getD (byteIndex * 2 + 1) 0)])

/-- A character that ends a run. -/
def Scan.finish (scan : Scan) : Scan :=
  { scan with
    run := []
    runLength := 0
    address := if scan.runLength = 12 then some (runAddress scan.run) else scan.address }

def Scan.next (scan : Scan) (value : UInt16) : Scan :=
  if value = 0x7b then { scan with insideGuid := true, run := [], runLength := 0 }
  else if value = 0x7d then { scan with insideGuid := false, run := [], runLength := 0 }
  else if !scan.insideGuid && isWideHex value then
    { scan with
      run := if scan.runLength < 12 then scan.run ++ [value] else scan.run
      runLength := scan.runLength + 1 }
  else scan.finish

/-- `VdsParseBluetoothAddress`, without the zeros at the end. -/
def parseBluetoothAddress (instanceId : List UInt16) : Option (List UInt8) :=
  (instanceId.foldl Scan.next ⟨[], 0, false, none⟩).finish.address

/-- The name that `VdsUpdateSymbolicLink` makes for an address. -/
def symbolicName (address : List UInt8) : Option (List UInt8) :=
  let compact := ((address.take 17).filter fun value => value ≠ 0x3a && value ≠ 0).take 12
  if compact.length = 12 then some (ascii "\\DosDevices\\vds_filter_" ++ compact) else none

end Parser

section Digits

/-- The twelve digits that an address was made of. -/
structure DigitRun (run : List UInt16) : Prop where
  length : run.length = 12
  digits : ∀ value ∈ run, isWideHex value = true

theorem isHexDigit_lowerHexChar {value : UInt16} (h : isWideHex value = true) :
    isHexDigit (lowerHexChar value) = true ∧
      lowercaseHex (lowerHexChar value) = lowerHexChar value := by
  have hsmall : value.toNat < 0x67 := by
    simp only [isWideHex, Bool.or_eq_true, Bool.and_eq_true, decide_eq_true_eq,
      UInt16.le_iff_toNat_le] at h
    have h1 : (0x39 : UInt16).toNat = 0x39 := rfl
    have h2 : (0x66 : UInt16).toNat = 0x66 := rfl
    have h3 : (0x46 : UInt16).toNat = 0x46 := rfl
    omega
  have hall : ∀ n < 0x67, isWideHex (UInt16.ofNat n) = true →
      isHexDigit (lowerHexChar (UInt16.ofNat n)) = true ∧
        lowercaseHex (lowerHexChar (UInt16.ofNat n)) = lowerHexChar (UInt16.ofNat n) := by
    decide +kernel
  have hvalue := hall value.toNat hsmall
  rw [UInt16.ofNat_toNat] at hvalue
  exact hvalue h

/-- The digits of a run make an address in normal form. -/
theorem normalized_runAddress {run : List UInt16} (h : DigitRun run) :
    Normalized (runAddress run) := by
  obtain ⟨hlength, hdigits⟩ := h
  match run, hlength with
  | [a, b, c, d, e, f, g, i, j, k, l, m], _ =>
      have hall : ∀ value ∈ [a, b, c, d, e, f, g, i, j, k, l, m],
          isHexDigit (lowerHexChar value) = true ∧
            lowercaseHex (lowerHexChar value) = lowerHexChar value :=
        fun value hvalue => isHexDigit_lowerHexChar (hdigits value hvalue)
      simp only [List.forall_mem_cons] at hall
      obtain ⟨ha, hb, hc, hd, he, hf, hg, hi, hj, hk, hl, hm, -⟩ := hall
      simp [Normalized, normalizeBluetoothAddress, runAddress, normalizeCharacter, List.range_succ,
        List.intercalate, ha, hb, hc, hd, he, hf, hg, hi, hj, hk, hl, hm]

/-- The link has the digits of the run. -/
theorem symbolicName_runAddress {run : List UInt16} (h : DigitRun run) :
    symbolicName (runAddress run) =
      some (ascii "\\DosDevices\\vds_filter_" ++ compactBluetoothAddress (runAddress run)) := by
  obtain ⟨hlength, hdigits⟩ := h
  match run, hlength with
  | [a, b, c, d, e, f, g, i, j, k, l, m], _ =>
      have hne : ∀ {ch : UInt8}, isHexDigit ch = true → ch ≠ 0x3a ∧ ch ≠ 0 := by
        rintro ch hch
        constructor
        · rintro rfl
          cases hch
        · rintro rfl
          cases hch
      have hall : ∀ value ∈ [a, b, c, d, e, f, g, i, j, k, l, m],
          isHexDigit (lowerHexChar value) = true ∧
            lowercaseHex (lowerHexChar value) = lowerHexChar value ∧
              lowerHexChar value ≠ 0x3a ∧ lowerHexChar value ≠ 0 := by
        intro value hvalue
        obtain ⟨hdigit, hlower⟩ := isHexDigit_lowerHexChar (hdigits value hvalue)
        exact ⟨hdigit, hlower, hne hdigit⟩
      simp only [List.forall_mem_cons] at hall
      obtain ⟨ha, hb, hc, hd, he, hf, hg, hi, hj, hk, hl, hm, -⟩ := hall
      have hcolon : isHexDigit 0x3a = false := rfl
      simp [symbolicName, compactBluetoothAddress, runAddress, List.range_succ, List.intercalate,
        hcolon, ha, hb, hc, hd, he, hf, hg, hi, hj, hk, hl, hm]

end Digits

section Scans

variable {consumed : List UInt16} {scan : Scan} {value : UInt16} {address : List UInt8}

/-- The address was made of twelve digits in a row. -/
def Found (consumed : List UInt16) (address : List UInt8) : Prop :=
  ∃ before run after, consumed = before ++ run ++ after ∧ DigitRun run ∧ address = runAddress run

structure ScanOk (consumed : List UInt16) (scan : Scan) : Prop where
  length : scan.run.length = min scan.runLength 12
  digits : ∀ value ∈ scan.run, isWideHex value = true
  recent : scan.runLength ≤ 12 → ∃ before, consumed = before ++ scan.run
  found : ∀ address, scan.address = some address → Found consumed address

theorem Found.concat (h : Found consumed address) (value : UInt16) :
    Found (consumed ++ [value]) address := by
  obtain ⟨before, run, after, rfl, hrun, haddress⟩ := h
  exact ⟨before, run, after ++ [value], by simp only [List.append_assoc], hrun, haddress⟩

theorem found_of_finish (h : ScanOk consumed scan) (haddress : scan.finish.address = some address) :
    Found consumed address := by
  simp only [Scan.finish] at haddress
  split at haddress
  · rename_i htwelve
    obtain rfl := Option.some.inj haddress
    obtain ⟨before, hbefore⟩ := h.recent htwelve.le
    have hlength := h.length
    rw [htwelve, Nat.min_self] at hlength
    exact ⟨before, scan.run, [], by rw [List.append_nil, hbefore], ⟨hlength, h.digits⟩, rfl⟩
  · exact h.found address haddress

/-- A scan between runs. -/
theorem ScanOk.reset (h : ScanOk consumed scan) (value : UInt16) (insideGuid : Bool) :
    ScanOk (consumed ++ [value]) ⟨[], 0, insideGuid, scan.address⟩ where
  length := rfl
  digits _ hnil := absurd hnil List.not_mem_nil
  recent _ := ⟨consumed ++ [value], (List.append_nil _).symm⟩
  found address haddress := (h.found address haddress).concat value

theorem ScanOk.next (h : ScanOk consumed scan) (value : UInt16) :
    ScanOk (consumed ++ [value]) (scan.next value) := by
  unfold Scan.next
  split
  · exact h.reset value true
  · split
    · exact h.reset value false
    · split
      · rename_i hdigit
        simp only [Bool.and_eq_true] at hdigit
        have hlength := h.length
        constructor
        · dsimp only
          split
          · rw [List.length_append, List.length_singleton]
            omega
          · omega
        · intro other hother
          dsimp only at hother
          split at hother
          · rcases List.mem_append.mp hother with hold | hnew
            · exact h.digits other hold
            · exact List.mem_singleton.mp hnew ▸ hdigit.2
          · exact h.digits other hother
        · intro hle
          dsimp only at hle ⊢
          obtain ⟨before, hbefore⟩ := h.recent (by omega)
          rw [if_pos (by omega), hbefore]
          exact ⟨before, List.append_assoc ..⟩
        · intro address haddress
          exact (h.found address haddress).concat value
      · constructor
        · rfl
        · intro _ hnil
          exact absurd hnil List.not_mem_nil
        · exact fun _ => ⟨consumed ++ [value], (List.append_nil _).symm⟩
        · intro address haddress
          exact (found_of_finish h haddress).concat value

theorem scanOk_foldl (instanceId : List UInt16) :
    ScanOk instanceId (instanceId.foldl Scan.next ⟨[], 0, false, none⟩) := by
  induction instanceId using List.reverseRecOn with
  | nil =>
      exact ⟨rfl, fun _ hnil => absurd hnil List.not_mem_nil, fun _ => ⟨[], rfl⟩,
        fun _ hnone => by cases hnone⟩
  | append_singleton rest value ih =>
      rw [List.foldl_concat]
      exact ih.next value

theorem found_of_parse {instanceId : List UInt16}
    (h : parseBluetoothAddress instanceId = some address) : Found instanceId address :=
  found_of_finish (scanOk_foldl instanceId) h

end Scans

section Spellings

theorem isHexDigit_of_normalizeCharacter {i : Nat} {ch normalized : UInt8}
    (h : normalizeCharacter i ch = some normalized) :
    (normalized = 0x3a ∧ ch = 0x3a ∧ (i = 2 ∨ i = 5 ∨ i = 8 ∨ i = 11 ∨ i = 14)) ∨
      (isHexDigit ch = true ∧ isHexDigit normalized = true ∧ normalized = lowercaseHex ch ∧
        lowercaseHex normalized = normalized ∧
          ¬(i = 2 ∨ i = 5 ∨ i = 8 ∨ i = 11 ∨ i = 14)) := by
  have hagain := normalizeCharacter_idempotent h
  rw [normalizeCharacter] at h hagain
  split at h
  · rename_i hcolon
    obtain ⟨hch, hsome⟩ := Option.ite_none_right_eq_some.mp h
    exact .inl ⟨(Option.some.inj hsome).symm, hch, hcolon⟩
  · rename_i hcolon
    rw [if_neg hcolon] at hagain
    obtain ⟨hch, hsome⟩ := Option.ite_none_right_eq_some.mp h
    obtain ⟨hnormal, hsame⟩ := Option.ite_none_right_eq_some.mp hagain
    exact .inr ⟨hch, hnormal, (Option.some.inj hsome).symm, Option.some.inj hsame, hcolon⟩

/-- Normalising an address keeps its digits. -/
theorem compact_of_mapM {address normalized : List UInt8} {start : Nat}
    (h : ((address.zipIdx start).mapM fun (ch, i) => normalizeCharacter i ch) = some normalized) :
    compactBluetoothAddress address = compactBluetoothAddress normalized := by
  induction address generalizing start normalized with
  | nil =>
      cases h
      rfl
  | cons ch rest ih =>
      rw [List.zipIdx_cons, List.mapM_cons] at h
      obtain ⟨first, hfirst, h⟩ := Option.bind_eq_some_iff.mp h
      obtain ⟨others, hothers, h⟩ := Option.bind_eq_some_iff.mp h
      obtain rfl := Option.some.inj h
      have hrest := ih hothers
      simp only [compactBluetoothAddress] at hrest ⊢
      rcases isHexDigit_of_normalizeCharacter hfirst with
        ⟨rfl, rfl, -⟩ | ⟨hch, hnormal, heq, hlower, -⟩
      · rw [List.filter_cons_of_neg (by decide), List.filter_cons_of_neg (by decide), hrest]
      · rw [List.filter_cons_of_pos hch, List.filter_cons_of_pos hnormal, List.map_cons,
          List.map_cons, hrest, hlower, heq]

theorem compact_of_normalize {spelled normalized : List UInt8}
    (h : normalizeBluetoothAddress spelled = .ok normalized) :
    compactBluetoothAddress spelled = compactBluetoothAddress normalized := by
  rw [normalizeBluetoothAddress] at h
  split at h
  · cases h
  · split at h
    · rename_i result hresult
      obtain rfl := Except.ok.inj h
      exact compact_of_mapM hresult
    · cases h

/-- Addresses in normal form with the same digits are the same. -/
theorem eq_of_mapM {first second : List UInt8} {start : Nat}
    (hlength : first.length = second.length)
    (hfirst : ((first.zipIdx start).mapM fun (ch, i) => normalizeCharacter i ch) = some first)
    (hsecond : ((second.zipIdx start).mapM fun (ch, i) => normalizeCharacter i ch) = some second)
    (h : compactBluetoothAddress first = compactBluetoothAddress second) : first = second := by
  induction first generalizing second start with
  | nil => exact (List.length_eq_zero_iff.mp hlength.symm).symm
  | cons a as ih =>
      cases second with
      | nil => cases hlength
      | cons b bs =>
          rw [List.zipIdx_cons, List.mapM_cons] at hfirst hsecond
          obtain ⟨a', ha, hfirst⟩ := Option.bind_eq_some_iff.mp hfirst
          obtain ⟨as', has, hfirst⟩ := Option.bind_eq_some_iff.mp hfirst
          obtain ⟨b', hb, hsecond⟩ := Option.bind_eq_some_iff.mp hsecond
          obtain ⟨bs', hbs, hsecond⟩ := Option.bind_eq_some_iff.mp hsecond
          obtain ⟨rfl, rfl⟩ := List.cons.inj (Option.some.inj hfirst)
          obtain ⟨rfl, rfl⟩ := List.cons.inj (Option.some.inj hsecond)
          have hlength' : as'.length = bs'.length := Nat.succ.inj hlength
          simp only [compactBluetoothAddress] at h
          rcases isHexDigit_of_normalizeCharacter ha with
            ⟨-, rfl, hcolon⟩ | ⟨hdigit, -, -, hlower, hcolon⟩
          · rcases isHexDigit_of_normalizeCharacter hb with ⟨-, rfl, -⟩ | ⟨-, -, -, -, hother⟩
            · rw [List.filter_cons_of_neg (by decide), List.filter_cons_of_neg (by decide)] at h
              rw [ih hlength' has hbs h]
            · exact absurd hcolon hother
          · rcases isHexDigit_of_normalizeCharacter hb with
              ⟨-, -, hother⟩ | ⟨hdigit', -, -, hlower', -⟩
            · exact absurd hother hcolon
            · rw [List.filter_cons_of_pos hdigit, List.filter_cons_of_pos hdigit', List.map_cons,
                List.map_cons, hlower, hlower'] at h
              obtain ⟨rfl, htail⟩ := List.cons.inj h
              rw [ih hlength' has hbs htail]

theorem eq_of_compact {first second : List UInt8} (hfirst : Normalized first)
    (hsecond : Normalized second)
    (h : compactBluetoothAddress first = compactBluetoothAddress second) : first = second := by
  rw [Normalized, normalizeBluetoothAddress] at hfirst hsecond
  split at hfirst
  · cases hfirst
  · rename_i hlength
    split at hsecond
    · cases hsecond
    · rename_i hlength'
      split at hfirst
      · rename_i result hresult
        obtain rfl := Except.ok.inj hfirst
        split at hsecond
        · rename_i result' hresult'
          obtain rfl := Except.ok.inj hsecond
          exact eq_of_mapM ((not_not.mp hlength).trans (not_not.mp hlength').symm) hresult
            hresult' h
        · cases hsecond
      · cases hfirst

end Spellings

section Main

variable {instanceId : List UInt16} {address spelled normalized : List UInt8}

/-- What the driver makes of an instance identifier. -/
structure Served (instanceId : List UInt16) (address : List UInt8) : Prop where
  found : Found instanceId address
  normalized : Normalized address
  /-- The daemon's path leads to the link for an address of the database, however it is
  spelled, exactly when it is this controller's. -/
  link : ∀ spelled normalized, normalizeBluetoothAddress spelled = .ok normalized →
    ((∃ name, symbolicName address = some (ascii "\\DosDevices\\" ++ name) ∧
        filterPath (compactBluetoothAddress spelled) = ascii "\\\\.\\" ++ name) ↔
      normalized = address)

/-- Every address that the driver finds is twelve digits of the identifier in normal form,
and its link is the path that the daemon opens for that controller and for no other. -/
theorem served_of_parse (h : parseBluetoothAddress instanceId = some address) :
    Served instanceId address := by
  have hfound := found_of_parse h
  obtain ⟨before, run, after, -, hrun, rfl⟩ := found_of_parse h
  have hnormalized := normalized_runAddress hrun
  refine ⟨hfound, hnormalized, fun spelled normalized hspelled => ?_⟩
  have hlink : ascii "\\DosDevices\\vds_filter_" = ascii "\\DosDevices\\" ++ ascii "vds_filter_" :=
    rfl
  have hpath : ascii "\\\\.\\vds_filter_" = ascii "\\\\.\\" ++ ascii "vds_filter_" := rfl
  rw [symbolicName_runAddress hrun, filterPath, compact_of_normalize hspelled, hlink, hpath]
  constructor
  · rintro ⟨name, hname, hopened⟩
    rw [Option.some.injEq, List.append_assoc, List.append_cancel_left_eq] at hname
    rw [List.append_assoc, List.append_cancel_left_eq] at hopened
    refine eq_of_compact (normalized_of_normalizeBluetoothAddress hspelled) hnormalized ?_
    exact List.append_cancel_left (hopened.trans hname.symm)
  · rintro rfl
    exact ⟨_, by rw [List.append_assoc], by rw [List.append_assoc]⟩

/-- The identifier of a game pad over Bluetooth. -/
def gamePadInstance : List UInt16 :=
  (ascii ("HID\\\x7b00001124-0000-1000-8000-00805F9B34FB\x7d_VID&0002054C_PID&0CE6\\" ++
    "7&A0FA9C39053E&0&0000")).map UInt8.toUInt16

theorem gamePadInstance_served :
    Served gamePadInstance (ascii "a0:fa:9c:39:05:3e") :=
  served_of_parse (by decide +kernel)

end Main

end VirtualDualSense.WinDrv.FilterPaths
