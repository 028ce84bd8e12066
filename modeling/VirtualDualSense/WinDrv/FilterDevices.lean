import VirtualDualSense.Config.Controllers
import VirtualDualSense.Lib.Firsts

/-!
# The device list of the filter driver

The filter driver lists the HID collections that it restricts. Its reply to
`VDS_FILTER_IOCTL_GET_DEVICES` has room for eight of them: the report targets come first,
and an address stands in it once.

## Implementation notes

A character array is the list of its characters, with the zeros after the text.
-/

namespace VirtualDualSense.WinDrv.FilterDevices

open Lib.Firsts Lib.Text Config.Controllers

section Addresses

/-- `VdsAddressEqual`, on arrays of one length. -/
def addressEqual : List UInt8 → List UInt8 → Bool
  | left :: lefts, right :: rights =>
      if lowercaseHex left ≠ lowercaseHex right then false
      else if lowercaseHex left = 0 then true
      else addressEqual lefts rights
  | _, _ => true

/-- The characters before the first zero, as `address_from_filter_info` reads them. -/
def addressText (address : List UInt8) : List UInt8 := address.takeWhile (· ≠ 0)

/-- The address is not empty. -/
def hasAddress (address : List UInt8) : Bool := address.headD 0 ≠ 0

/-- The text of an address in lower case; nothing for an empty one. -/
def addressKey (address : List UInt8) : Option (List UInt8) :=
  if hasAddress address then some ((addressText address).map lowercaseHex) else none

theorem lowercaseHex_eq_zero_iff (ch : UInt8) : lowercaseHex ch = 0 ↔ ch = 0 := by
  have hall : ∀ n < 256, lowercaseHex (UInt8.ofNat n) = 0 ↔ UInt8.ofNat n = 0 := by
    decide +kernel
  have hch := hall ch.toNat ch.toNat_lt
  rwa [UInt8.ofNat_toNat] at hch

theorem addressText_cons_zero {ch : UInt8} (h : ch = 0) (rest : List UInt8) :
    addressText (ch :: rest) = [] := by
  rw [addressText, List.takeWhile_cons_of_neg (by simp [h])]

theorem addressText_cons {ch : UInt8} (h : ch ≠ 0) (rest : List UInt8) :
    addressText (ch :: rest) = ch :: addressText rest :=
  List.takeWhile_cons_of_pos (by simp [h])

/-- The comparison is that of the texts without regard to case. -/
theorem addressEqual_iff {left right : List UInt8} (h : left.length = right.length) :
    addressEqual left right = true ↔
      (addressText left).map lowercaseHex = (addressText right).map lowercaseHex := by
  induction left generalizing right with
  | nil =>
      obtain rfl := List.length_eq_zero_iff.mp h.symm
      exact ⟨fun _ => rfl, fun _ => rfl⟩
  | cons first lefts ih =>
      cases right with
      | nil => cases h
      | cons second rights =>
          rw [addressEqual]
          by_cases hfirst : first = 0
          · subst hfirst
            rw [addressText_cons_zero rfl]
            by_cases hsecond : second = 0
            · subst hsecond
              rw [addressText_cons_zero rfl]
              exact ⟨fun _ => rfl, fun _ => rfl⟩
            · have hne : lowercaseHex 0 ≠ lowercaseHex second := fun heq =>
                hsecond ((lowercaseHex_eq_zero_iff second).mp heq.symm)
              rw [if_pos hne, addressText_cons hsecond]
              simp
          · by_cases hsecond : second = 0
            · subst hsecond
              have hne : lowercaseHex first ≠ lowercaseHex 0 := fun heq =>
                hfirst ((lowercaseHex_eq_zero_iff first).mp heq)
              rw [if_pos hne, addressText_cons hfirst, addressText_cons_zero rfl]
              simp
            · rw [addressText_cons hfirst, addressText_cons hsecond, List.map_cons, List.map_cons]
              have hzero : lowercaseHex first ≠ 0 := fun heq =>
                hfirst ((lowercaseHex_eq_zero_iff first).mp heq)
              by_cases heq : lowercaseHex first = lowercaseHex second
              · rw [if_neg (not_not_intro heq), if_neg hzero, ih (Nat.succ.inj h), heq]
                simp
              · rw [if_pos heq]
                simp [heq]

theorem addressText_eq_nil_iff {address : List UInt8} :
    addressText address = [] ↔ hasAddress address = false := by
  cases address with
  | nil => exact ⟨fun _ => rfl, fun _ => rfl⟩
  | cons first rest =>
      by_cases hfirst : first = 0
      · subst hfirst
        simp [addressText_cons_zero rfl, hasAddress]
      · simp [addressText_cons hfirst, hasAddress, hfirst]

theorem addressKey_eq_some {address : List UInt8} (h : hasAddress address = true) :
    addressKey address = some ((addressText address).map lowercaseHex) :=
  if_pos h

theorem addressKey_eq_none {address : List UInt8} (h : hasAddress address = false) :
    addressKey address = none :=
  if_neg (Bool.eq_false_iff.mp h)

/-- The keys tell addresses apart as the driver does. -/
theorem addressKey_eq_iff {left right : List UInt8} (hlength : left.length = right.length)
    (h : hasAddress left = true ∨ hasAddress right = true) :
    addressKey left = addressKey right ↔ addressEqual left right = true := by
  have hnil : ∀ {address other : List UInt8}, hasAddress address = true →
      hasAddress other = false →
        (addressText address).map lowercaseHex ≠ (addressText other).map lowercaseHex := by
    intro address other haddress hother heq
    rw [addressText_eq_nil_iff.mpr hother, List.map_nil, List.map_eq_nil_iff,
      addressText_eq_nil_iff, haddress] at heq
    cases heq
  rw [addressEqual_iff hlength]
  cases hleft : hasAddress left with
  | true =>
      rw [addressKey_eq_some hleft]
      cases hright : hasAddress right with
      | true => rw [addressKey_eq_some hright, Option.some.injEq]
      | false =>
          rw [addressKey_eq_none hright]
          exact ⟨fun hsome => (Option.some_ne_none _ hsome).elim,
            fun heq => absurd heq (hnil hleft hright)⟩
  | false =>
      have hright : hasAddress right = true := h.resolve_left (Bool.eq_false_iff.mp hleft)
      rw [addressKey_eq_none hleft, addressKey_eq_some hright]
      exact ⟨fun hnone => (Option.some_ne_none _ hnone.symm).elim,
        fun heq => absurd heq.symm (hnil hright hleft)⟩

end Addresses

section List

/-- `VDS_FILTER_MAX_DEVICES` -/
def maxDevices : Nat := 8

def devicePresent : UInt16 := 1

def deviceReportTarget : UInt16 := 2

def deviceAccessRestricted : UInt16 := 4

/-- What the filter driver knows of a HID collection. -/
structure Extension where
  listed : Bool
  reportTarget : Bool
  profile : UInt32
  address : List UInt8
  deriving DecidableEq

/-- `struct vds_filter_device_info` -/
structure DeviceInfo where
  profile : UInt32
  address : List UInt8
  flags : UInt16
  deriving DecidableEq

def accessRestricted (item : Extension) : Bool := item.reportTarget || hasAddress item.address

/-- `VdsDeviceListContainsAddress` -/
def deviceListContainsAddress (devices : List DeviceInfo) (address : List UInt8) : Bool :=
  devices.any fun device => addressEqual device.address address

def deviceFlags (item : Extension) : UInt16 :=
  devicePresent ||| (if item.reportTarget then deviceReportTarget else 0) |||
    (if accessRestricted item then deviceAccessRestricted else 0)

def deviceInfo (item : Extension) : DeviceInfo := ⟨item.profile, item.address, deviceFlags item⟩

/-- `VdsAppendDeviceListEntry` -/
def appendDeviceListEntry (devices : List DeviceInfo) (item : Extension) : List DeviceInfo :=
  if maxDevices ≤ devices.length ∨
      (hasAddress item.address && deviceListContainsAddress devices item.address) then devices
  else devices ++ [deviceInfo item]

/-- One of the two loops over the device list. -/
def appendPass (target : Bool) (devices : List DeviceInfo) (items : List Extension) :
    List DeviceInfo :=
  items.foldl
    (fun devices item =>
      if item.reportTarget = target then appendDeviceListEntry devices item else devices)
    devices

/-- The entries of the reply to `VDS_FILTER_IOCTL_GET_DEVICES`. -/
def deviceList (items : List Extension) : List DeviceInfo :=
  appendPass false (appendPass true [] items) items

def isTarget (device : DeviceInfo) : Bool := device.flags &&& deviceReportTarget != 0

theorem isTarget_deviceInfo (item : Extension) :
    isTarget (deviceInfo item) = item.reportTarget := by
  simp only [isTarget, deviceInfo, deviceFlags]
  cases item.reportTarget with
  | true => cases accessRestricted item <;> rfl
  | false => cases accessRestricted item <;> rfl

/-- An array of the driver. -/
def WellSized (items : List Extension) : Prop := ∀ item ∈ items, item.address.length = 18

instance (items : List Extension) : Decidable (WellSized items) :=
  inferInstanceAs (Decidable (∀ item ∈ items, item.address.length = 18))

def deviceKey (device : DeviceInfo) : Option (List UInt8) := addressKey device.address

/-- An entry repeats another one when its address is in the list. -/
theorem repeats_iff {devices : List DeviceInfo} {item : Extension}
    (hdevices : ∀ device ∈ devices, device.address.length = 18)
    (hitem : item.address.length = 18) :
    Repeats deviceKey devices (deviceInfo item) ↔
      (hasAddress item.address && deviceListContainsAddress devices item.address) = true := by
  have hequal : ∀ device ∈ devices, hasAddress item.address = true →
      (deviceKey device = deviceKey (deviceInfo item) ↔
        addressEqual device.address item.address = true) := by
    intro device hdevice haddress
    exact addressKey_eq_iff ((hdevices device hdevice).trans hitem.symm) (.inr haddress)
  rw [Repeats, Bool.and_eq_true, deviceListContainsAddress, List.any_eq_true, List.mem_map]
  cases haddress : hasAddress item.address with
  | true =>
      have hsome : deviceKey (deviceInfo item) ≠ none := by
        change addressKey item.address ≠ none
        rw [addressKey_eq_some haddress]
        exact Option.some_ne_none _
      constructor
      · rintro ⟨-, device, hdevice, hkey⟩
        exact ⟨rfl, device, hdevice, (hequal device hdevice haddress).mp hkey⟩
      · rintro ⟨-, device, hdevice, hkey⟩
        exact ⟨hsome, device, hdevice, (hequal device hdevice haddress).mpr hkey⟩
  | false =>
      refine ⟨fun h => absurd ?_ h.1, fun h => absurd h.1 Bool.false_ne_true⟩
      exact addressKey_eq_none haddress

/-- A loop collects the first entries of its kind for each address. -/
theorem appendPass_eq_collect {target : Bool} {devices : List DeviceInfo} {items : List Extension}
    (hdevices : ∀ device ∈ devices, device.address.length = 18) (hitems : WellSized items) :
    appendPass target devices items = collect maxDevices deviceKey devices
      ((items.filter fun item => item.reportTarget = target).map deviceInfo) := by
  induction items generalizing devices with
  | nil => rfl
  | cons item rest ih =>
      have hitem := hitems item List.mem_cons_self
      have hrest : WellSized rest := fun other hother =>
        hitems other (List.mem_cons_of_mem _ hother)
      change appendPass target (if item.reportTarget = target then
        appendDeviceListEntry devices item else devices) rest = _
      by_cases htarget : item.reportTarget = target
      · rw [if_pos htarget, List.filter_cons_of_pos (by simpa using htarget), List.map_cons,
          collect_cons]
        have hadd : appendDeviceListEntry devices item =
            add maxDevices deviceKey devices (deviceInfo item) := by
          rw [appendDeviceListEntry, add]
          refine if_congr (or_congr_right ?_) rfl rfl
          exact (repeats_iff hdevices hitem).symm
        rw [hadd]
        refine ih ?_ hrest
        intro device hdevice
        unfold add at hdevice
        split at hdevice
        · exact hdevices device hdevice
        · rcases List.mem_append.mp hdevice with hold | hnew
          · exact hdevices device hold
          · exact List.mem_singleton.mp hnew ▸ hitem
      · rw [if_neg htarget, List.filter_cons_of_neg (by simpa using htarget)]
        exact ih hdevices hrest

/-- The report targets stand before the other entries, and none of them is left out for
another entry. -/
structure TargetsFirst (items : List Extension) (devices : List DeviceInfo) : Prop where
  split : ∃ targets others, devices = targets ++ others ∧
    (∀ device ∈ targets, isTarget device = true) ∧ (∀ device ∈ others, isTarget device = false) ∧
    ∀ item ∈ items, item.reportTarget = true → targets.length = maxDevices ∨
      Represented deviceKey targets (deviceInfo item)

/-- What the reply says of the listed collections. -/
structure Lists (items : List Extension) (devices : List DeviceInfo) : Prop where
  bounded : devices.length ≤ maxDevices
  distinct : devices.Pairwise fun first second => hasAddress first.address = true →
    addressEqual first.address second.address = false
  reported : ∀ device ∈ devices, ∃ item ∈ items, device = deviceInfo item
  complete : ∀ item ∈ items, devices.length = maxDevices ∨ deviceInfo item ∈ devices ∨
    (hasAddress item.address && deviceListContainsAddress devices item.address) = true
  targetsFirst : TargetsFirst items devices

variable {items : List Extension}

theorem deviceList_eq_collect (h : WellSized items) :
    deviceList items = collect maxDevices deviceKey
      (collect maxDevices deviceKey []
        ((items.filter fun item => item.reportTarget = true).map deviceInfo))
      ((items.filter fun item => item.reportTarget = false).map deviceInfo) := by
  have hfirst : appendPass true [] items = collect maxDevices deviceKey []
      ((items.filter fun item => item.reportTarget = true).map deviceInfo) :=
    appendPass_eq_collect (fun _ hnil => absurd hnil List.not_mem_nil) h
  rw [deviceList, hfirst]
  refine appendPass_eq_collect ?_ h
  intro device hdevice
  rcases mem_collect hdevice with hnil | ⟨hmem, -⟩
  · cases hnil
  · obtain ⟨item, hitem, rfl⟩ := List.mem_map.mp hmem
    exact h item (List.mem_of_mem_filter hitem)

/-- The entries of a loop come from the collections of its kind. -/
theorem isTarget_of_mem {target : Bool} {devices : List DeviceInfo}
    (h : devices.Sublist ((items.filter fun item => item.reportTarget = target).map deviceInfo)) :
    ∀ device ∈ devices, isTarget device = target ∧ ∃ item ∈ items, device = deviceInfo item := by
  intro device hdevice
  obtain ⟨item, hitem, rfl⟩ := List.mem_map.mp (h.subset hdevice)
  obtain ⟨hmem, htarget⟩ := List.mem_filter.mp hitem
  exact ⟨(isTarget_deviceInfo item).trans (by simpa using htarget), item, hmem, rfl⟩

/-- The two loops: what each of them adds, and whom it represents. -/
theorem exists_deviceList_eq (h : WellSized items) :
    ∃ targets others, deviceList items = targets ++ others ∧
      targets.Sublist ((items.filter fun item => item.reportTarget = true).map deviceInfo) ∧
      others.Sublist ((items.filter fun item => item.reportTarget = false).map deviceInfo) ∧
      targets = collect maxDevices deviceKey []
        ((items.filter fun item => item.reportTarget = true).map deviceInfo) ∧
      targets ++ others = collect maxDevices deviceKey targets
        ((items.filter fun item => item.reportTarget = false).map deviceInfo) := by
  obtain ⟨targets, htargets, hfirst⟩ := exists_collect_eq_append maxDevices deviceKey []
    ((items.filter fun item => item.reportTarget = true).map deviceInfo)
  rw [List.nil_append] at htargets
  obtain ⟨others, hothers, hsecond⟩ := exists_collect_eq_append maxDevices deviceKey targets
    ((items.filter fun item => item.reportTarget = false).map deviceInfo)
  refine ⟨targets, others, ?_, hfirst, hsecond, htargets.symm, hothers.symm⟩
  rw [deviceList_eq_collect h, htargets, hothers]

theorem represented_of_pass {target : Bool} (kept : List DeviceInfo) {item : Extension}
    (hitem : item ∈ items) (htarget : item.reportTarget = target) :
    maxDevices ≤ (collect maxDevices deviceKey kept
        ((items.filter fun item => item.reportTarget = target).map deviceInfo)).length ∨
      Represented deviceKey (collect maxDevices deviceKey kept
        ((items.filter fun item => item.reportTarget = target).map deviceInfo))
        (deviceInfo item) :=
  represented_collect
    (List.mem_map_of_mem (List.mem_filter.mpr ⟨hitem, decide_eq_true htarget⟩))

/-- For any listed collections, in any order: the reply has at most eight entries, an address
stands in it once, every collection is represented while there is room, and report targets
come first. -/
theorem deviceList_lists (h : WellSized items) : Lists items (deviceList items) := by
  obtain ⟨targets, others, hlist, hfirst, hsecond, htargets, hall⟩ := exists_deviceList_eq h
  have hempty : ([] : List DeviceInfo).length ≤ maxDevices := Nat.zero_le _
  have htargetsBound : targets.length ≤ maxDevices := htargets ▸ length_collect_le hempty
  have hbound : (targets ++ others).length ≤ maxDevices := hall ▸ length_collect_le htargetsBound
  have hsized : ∀ device ∈ targets ++ others, device.address.length = 18 := by
    intro device hdevice
    rcases List.mem_append.mp hdevice with hdevice | hdevice
    · obtain ⟨-, item, hitem, rfl⟩ := isTarget_of_mem hfirst device hdevice
      exact h item hitem
    · obtain ⟨-, item, hitem, rfl⟩ := isTarget_of_mem hsecond device hdevice
      exact h item hitem
  rw [hlist]
  constructor
  · exact hbound
  · have hpairwise : (targets ++ others).Pairwise fun first second =>
        deviceKey first = none ∨ deviceKey first ≠ deviceKey second := by
      rw [hall]
      refine pairwise_collect ?_
      rw [htargets]
      exact pairwise_collect .nil
    refine hpairwise.imp_of_mem fun {first second} hfirst hsecond hkeys haddress => ?_
    rw [Bool.eq_false_iff, ne_eq, ← addressKey_eq_iff
      ((hsized first hfirst).trans (hsized second hsecond).symm) (.inl haddress)]
    intro hsame
    rcases hkeys with hnone | hne
    · exact Option.some_ne_none _ ((addressKey_eq_some haddress).symm.trans hnone)
    · exact hne hsame
  · intro device hdevice
    rcases List.mem_append.mp hdevice with hdevice | hdevice
    · exact (isTarget_of_mem hfirst device hdevice).2
    · exact (isTarget_of_mem hsecond device hdevice).2
  · intro item hitem
    have hrepresented : maxDevices ≤ (targets ++ others).length ∨
        Represented deviceKey (targets ++ others) (deviceInfo item) := by
      cases htarget : item.reportTarget with
      | true =>
          rcases represented_of_pass [] hitem htarget with hfull | hmem
          · rw [← htargets] at hfull
            exact .inl (hfull.trans (List.length_append ▸ Nat.le_add_right ..))
          · rw [← htargets] at hmem
            exact .inr (hmem.mono (List.subset_append_left ..))
      | false => exact hall ▸ represented_of_pass targets hitem htarget
    rcases hrepresented with hfull | hmem | hrepeats
    · exact .inl (Nat.le_antisymm hbound hfull)
    · exact .inr (.inl hmem)
    · exact .inr (.inr ((repeats_iff hsized (h item hitem)).mp hrepeats))
  · refine ⟨targets, others, rfl, fun device hdevice => (isTarget_of_mem hfirst device hdevice).1,
      fun device hdevice => (isTarget_of_mem hsecond device hdevice).1, ?_⟩
    intro item hitem htarget
    rcases represented_of_pass [] hitem htarget with hfull | hmem
    · exact .inl (Nat.le_antisymm htargetsBound (htargets ▸ hfull))
    · exact .inr (htargets ▸ hmem)

/-- A collection of a controller that does not send reports, the one that does, and one
without an address. -/
def threeCollections : List Extension :=
  [⟨true, false, 1, ascii "aa:bb:cc:dd:ee:ff" ++ [0]⟩,
    ⟨true, true, 1, ascii "AA:BB:CC:DD:EE:FF" ++ [0]⟩,
    ⟨true, true, 0, List.replicate 18 0⟩]

theorem threeCollections_lists :
    Lists threeCollections (deviceList threeCollections) ∧
      (deviceList threeCollections).map isTarget = [true, true] :=
  ⟨deviceList_lists (by decide), by decide⟩

end List

end VirtualDualSense.WinDrv.FilterDevices
