import VirtualDualSense.Config.Controllers
import VirtualDualSense.Lib.Text

/-!
# Looking up the HID interface of a controller

The lookup first tries the path that the filter driver makes for the address. The
enumeration of all HID interfaces that follows asks for a DualSense game pad over
Bluetooth, and not for its address: it takes the only one there is.
-/

namespace VirtualDualSense.Win32.HidPaths

open Lib.Text Config.Controllers

def kBtHidServiceUuid : List UInt8 := ascii "00001124-0000-1000-8000-00805f9b34fb"

def sonyVendorId : UInt16 := 0x054c

def ds5ProductId : UInt16 := 0x0ce6

def dseProductId : UInt16 := 0x0df2

def lowercaseAscii (text : List UInt8) : List UInt8 := text.map lowercaseHex

/-- The hexadecimal digits of an address in lower case. -/
def compactBluetoothAddress (address : List UInt8) : List UInt8 :=
  (address.filter isHexDigit).map lowercaseHex

/-- The path that the filter driver makes for a compact address. -/
def filterPath (addressFilter : List UInt8) : List UInt8 :=
  ascii "\\\\.\\vds_filter_" ++ addressFilter

/-- A HID interface and what the queries on a handle of it answer. -/
structure HidInterface where
  path : List UInt8
  /-- Vendor and product. -/
  attributes : Option (UInt16 × UInt16)
  /-- Usage page and usage. -/
  caps : Option (UInt16 × UInt16)
  /-- The compact Bluetooth address of the controller it belongs to. -/
  owner : List UInt8
  /-- Each enumeration of a device makes a new interface. -/
  serial : Nat
  deriving DecidableEq

/-- The HID interfaces of the system. The filter driver opens the path it made for an
address only as that controller. -/
structure System where
  openable : List HidInterface
  /-- The paths that `SetupDi` enumerates; nothing when it fails, and nothing for an
  interface without details. -/
  enumerated : Option (List (Option (List UInt8)))
  filterPath_owner : ∀ device ∈ openable, ∀ addressFilter,
    device.path = filterPath addressFilter → device.owner = addressFilter

/-- `CreateFileA` on the path of a device. -/
def System.createFile (system : System) (path : List UInt8) : Option HidInterface :=
  system.openable.find? fun device => device.path = path

/-- `std::string::find` succeeds. -/
def contains (text pattern : List UInt8) : Bool := text.tails.any pattern.isPrefixOf

def hidDevicePathMatches (system : System) (path addressFilter : List UInt8)
    (requireBluetoothPathMetadata : Bool) : Option (List UInt8) :=
  let lowerPath := lowercaseAscii path
  if requireBluetoothPathMetadata && !contains lowerPath kBtHidServiceUuid then none
  else
    match system.createFile path with
    | none => none
    | some device =>
        match device.attributes, device.caps with
        | some (vendorId, productId), some (usagePage, usage) =>
            if vendorId ≠ sonyVendorId ∨ productId ≠ ds5ProductId ∧ productId ≠ dseProductId then
              none
            else if usagePage ≠ 0x01 ∨ usage ≠ 0x05 then none
            else if requireBluetoothPathMetadata && !addressFilter.isEmpty &&
                !contains lowerPath addressFilter then none
            else some path
        | _, _ => none

/-- The exceptions of the lookup. -/
inductive LookupError
  | enumerationFailed
  | notFound (address : List UInt8)
  | multipleInterfaces
  deriving DecidableEq

/-- One round of the enumeration, with the first match and the number of matches. -/
def countMatch (system : System) (found : Option (List UInt8) × Nat)
    (interface : Option (List UInt8)) : Option (List UInt8) × Nat :=
  match interface.bind fun path => hidDevicePathMatches system path [] true with
  | none => found
  | some path => (found.1.or (some path), found.2 + 1)

def findHidBluetoothDevicePath (system : System) (address : List UInt8) :
    Except LookupError (List UInt8) :=
  let addressFilter := compactBluetoothAddress address
  let filtered :=
    if addressFilter.isEmpty then none
    else hidDevicePathMatches system (filterPath addressFilter) [] false
  match filtered, system.enumerated with
  | some path, _ => .ok path
  | none, none => .error .enumerationFailed
  | none, some interfaces =>
      match interfaces.foldl (countMatch system) (none, 0) with
      | (none, _) => .error (.notFound address)
      | (some path, matchCount) =>
          if 1 < matchCount then .error .multipleInterfaces else .ok path

section Owner

variable {system : System} {address path : List UInt8}

/-- The path opens as an interface of the controller with the address. -/
def BelongsTo (system : System) (path address : List UInt8) : Prop :=
  ∃ device, system.createFile path = some device ∧ device.owner = compactBluetoothAddress address

/-- The address-specific path of the filter driver opens as a DualSense game pad. -/
def filterPathUsable (system : System) (address : List UInt8) : Prop :=
  compactBluetoothAddress address ≠ [] ∧
    hidDevicePathMatches system (filterPath (compactBluetoothAddress address)) [] false ≠ none

/-- The enumerated interfaces that are DualSense game pads over Bluetooth. -/
def candidates (system : System) : List (List UInt8) :=
  (system.enumerated.getD []).filterMap fun interface =>
    interface.bind fun path => hidDevicePathMatches system path [] true

theorem path_of_matches {addressFilter matched : List UInt8} {require : Bool}
    (h : hidDevicePathMatches system path addressFilter require = some matched) :
    matched = path ∧ ∃ device, system.createFile path = some device := by
  unfold hidDevicePathMatches at h
  dsimp only at h
  split at h
  · cases h
  split at h
  · cases h
  · rename_i device hdevice
    split at h
    · split at h
      · cases h
      split at h
      · cases h
      split at h
      · cases h
      · exact ⟨(Option.some.inj h).symm, device, hdevice⟩
    · cases h

theorem foldl_countMatch (interfaces : List (Option (List UInt8)))
    (found : Option (List UInt8) × Nat) :
    interfaces.foldl (countMatch system) found =
      (found.1.or (interfaces.filterMap fun interface =>
        interface.bind fun path => hidDevicePathMatches system path [] true).head?,
        found.2 + (interfaces.filterMap fun interface =>
          interface.bind fun path => hidDevicePathMatches system path [] true).length) := by
  induction interfaces generalizing found with
  | nil => simp
  | cons interface rest ih =>
      rw [List.foldl_cons, ih, countMatch]
      cases hmatch : interface.bind fun path => hidDevicePathMatches system path [] true with
      | none => simp only [List.filterMap_cons, hmatch]
      | some path =>
          simp only [List.filterMap_cons, hmatch, List.head?_cons, List.length_cons, Prod.mk.injEq]
          constructor
          · cases found.1 <;> rfl
          · omega

/-- A usable path of the filter driver is the answer. -/
theorem find_of_filterPathUsable (h : filterPathUsable system address) :
    findHidBluetoothDevicePath system address =
      .ok (filterPath (compactBluetoothAddress address)) := by
  obtain ⟨hne, hmatch⟩ := h
  obtain ⟨path, hpath⟩ := Option.ne_none_iff_exists'.mp hmatch
  have hempty : (compactBluetoothAddress address).isEmpty = false := by simpa using hne
  simp only [findHidBluetoothDevicePath, hempty, Bool.false_eq_true, if_false, hpath,
    (path_of_matches hpath).1]

/-- Otherwise the answer is the only candidate. -/
theorem find_eq_ok_iff (h : ¬filterPathUsable system address) :
    findHidBluetoothDevicePath system address = .ok path ↔ candidates system = [path] := by
  have hfiltered : (if (compactBluetoothAddress address).isEmpty then none
      else hidDevicePathMatches system (filterPath (compactBluetoothAddress address)) [] false) =
      none := by
    split
    · rfl
    · rename_i hne
      by_contra hmatch
      exact h ⟨by simpa using hne, hmatch⟩
  unfold findHidBluetoothDevicePath candidates
  dsimp only
  rw [hfiltered]
  cases system.enumerated with
  | none => simp
  | some interfaces =>
      simp only [foldl_countMatch, Option.getD_some, Option.none_or, Nat.zero_add]
      generalize interfaces.filterMap _ = found
      match found with
      | [] => simp
      | [only] => simp
      | first :: second :: rest => simp

theorem belongsTo_filterPath (h : filterPathUsable system address) :
    BelongsTo system (filterPath (compactBluetoothAddress address)) address := by
  obtain ⟨path, hpath⟩ := Option.ne_none_iff_exists'.mp h.2
  obtain ⟨-, device, hdevice⟩ := path_of_matches hpath
  refine ⟨device, hdevice, ?_⟩
  apply system.filterPath_owner device (List.mem_of_find?_eq_some hdevice)
  simpa using List.find?_some hdevice

/-- The lookup never returns the path of another controller exactly when the path of
the filter driver is usable or no other controller is the only candidate. -/
theorem belongsTo_of_find_iff (system : System) (address : List UInt8) :
    (∀ path, findHidBluetoothDevicePath system address = .ok path →
      BelongsTo system path address) ↔
    filterPathUsable system address ∨
      ∀ path, candidates system = [path] → BelongsTo system path address := by
  by_cases h : filterPathUsable system address
  · simp only [h, true_or, iff_true]
    intro path hfind
    obtain rfl := Except.ok.inj ((find_of_filterPathUsable h).symm.trans hfind)
    exact belongsTo_filterPath h
  · simp only [h, false_or, find_eq_ok_iff h]

end Owner

section Traces

/-- The interface of a DualSense at 22:22:22:22:22:22. -/
def otherController : HidInterface where
  path := ascii "hid#\x7b00001124-0000-1000-8000-00805f9b34fb\x7d&0&222222222222"
  attributes := some (sonyVendorId, ds5ProductId)
  caps := some (0x01, 0x05)
  owner := ascii "222222222222"
  serial := 0

theorem otherController_path : ∀ device ∈ [otherController], ∀ addressFilter,
    device.path = filterPath addressFilter → device.owner = addressFilter := by
  intro device hdevice addressFilter h
  obtain rfl := List.mem_singleton.mp hdevice
  have hhead : otherController.path.head? = (filterPath addressFilter).head? := congrArg _ h
  cases hhead

def otherOnly : System where
  openable := [otherController]
  enumerated := some [some otherController.path]
  filterPath_owner := otherController_path

end Traces

/-- The lookup of 11:11:11:11:11:11 returns the only DualSense that is present. -/
theorem other_controller_found :
    findHidBluetoothDevicePath otherOnly (ascii "11:11:11:11:11:11") = .ok otherController.path ∧
      ¬BelongsTo otherOnly otherController.path (ascii "11:11:11:11:11:11") := by
  constructor
  · decide +kernel
  · rintro ⟨device, hdevice, howner⟩
    have hother : otherOnly.createFile otherController.path = some otherController := by
      decide +kernel
    obtain rfl := Option.some.inj (hother.symm.trans hdevice)
    exact absurd howner (by decide +kernel)

end VirtualDualSense.Win32.HidPaths
