import VirtualDualSense.Hcd.DeviceStatus

/-!
# Consistency of the status flags, the port and the USB device

When the operations of the driver do not overlap, the three records of the device agree
between any two of them. A change of the connection stays visible in the port status
until the hub driver acknowledges it.
-/

namespace VirtualDualSense.Hcd.PortConsistency

open Lib.Runs Protocol.Frames UsbCore Sections Threads Lifecycle AtomicRuns DeviceStatus

/-- The status flags agree with what is selected on the USB device. -/
structure FlagsAgree (flags : StatusFlags) (usb : UsbDevice) : Prop where
  configured : flags.configured = true ↔
    usb.configuration = usb.controllerProfile.configurationValue
  hidEnabled : flags.hidEnabled = true ↔
    usb.configuration = usb.controllerProfile.configurationValue
  audioEnabled : flags.audioEnabled = true ↔ usb.audioOutAltsetting = 1

/-- The status flags agree with the port, and only a connected port is enabled. -/
structure PortAgrees (flags : StatusFlags) (port : PortStatus) : Prop where
  connected : flags.connected = true ↔ port.connection = true
  enable : port.enable = true → port.connection = true
  highSpeed : port.highSpeed = true → port.connection = true

/-- The driver, and whether the connection has changed since the last acknowledgement. -/
structure Watched where
  system : System
  changed : Bool

/-- `ClearPortFeature(C_CONNECTION)`. -/
def acknowledges : Action → Bool
  | .hubControl .clearPortFeature 16 1 => true
  | _ => false

def watchedStep (w : Watched) (action : Action) : Option Watched :=
  (step w.system action).map fun t =>
    ⟨t, !acknowledges action &&
      (w.changed || t.dev.portStatus.connection != w.system.dev.portStatus.connection)⟩

/-- The records agree, and a change of the connection is visible. -/
structure Consistent (w : Watched) : Prop where
  flags : FlagsAgree w.system.dev.statusFlags w.system.dev.usb
  port : PortAgrees w.system.dev.statusFlags w.system.dev.portStatus
  visible : w.changed = true → w.system.dev.portStatus.cConnection = true

/-- The flags after the calls that a thread has still to make. -/
def applyCalls (flags : StatusFlags) (calls : List (StatusFlags × Bool)) : StatusFlags :=
  calls.foldl (fun flags call => StatusFlags.set flags call.1 call.2) flags

/-- Where an operation stands that changes the selections: no such operation is under way, or one
thread has still to report what it selected, or the device has still to be reset. -/
inductive Phase (s : System) : Prop
  | rest (flags : FlagsAgree s.dev.statusFlags s.dev.usb)
      (calls : ∀ id, statusCalls (s.enqueuers id) = [])
      (resets : Syscall.resetUsb ∉ s.syscalls)
  | reporting (id : CtxId) (pending : statusCalls (s.enqueuers id) ≠ [])
      (others : ∀ j, j ≠ id → statusCalls (s.enqueuers j) = [])
      (resets : Syscall.resetUsb ∉ s.syscalls)
      (masks : ∀ call ∈ statusCalls (s.enqueuers id), call.1.connected = false)
      (flags : FlagsAgree (applyCalls s.dev.statusFlags (statusCalls (s.enqueuers id))) s.dev.usb)
  | resetting (calls : ∀ id, statusCalls (s.enqueuers id) = [])
      (resets : Syscall.resetUsb ∈ s.syscalls)
      (flags : s.dev.statusFlags.configured = false ∧ s.dev.statusFlags.hidEnabled = false ∧
        s.dev.statusFlags.audioEnabled = false)

/-- The port and the flag of the connection, and the change bit for the hub driver. -/
structure PortInv (flags : StatusFlags) (port : PortStatus) (changed : Bool) : Prop where
  agrees : PortAgrees flags port
  visible : changed = true → port.cConnection = true

/-- What holds between any two steps of operations that do not overlap. -/
structure Inv (w : Watched) : Prop where
  shape : Shape w.system
  phase : w.system.dev.stopping = false → Phase w.system
  port : w.system.dev.stopping = false →
    PortInv w.system.dev.statusFlags w.system.dev.portStatus w.changed

section Flags

variable {flags flags' : StatusFlags} {usb usb' : UsbDevice}

/-- Flags and device may change as long as what they tell stays. -/
theorem FlagsAgree.congr (h : FlagsAgree flags usb)
    (hconfigured : flags'.configured = flags.configured)
    (hhid : flags'.hidEnabled = flags.hidEnabled)
    (haudio : flags'.audioEnabled = flags.audioEnabled)
    (hprofile : usb'.profile = usb.profile)
    (hconfiguration : usb'.configuration = usb.configuration)
    (haudioOut : usb'.audioOutAltsetting = usb.audioOutAltsetting) : FlagsAgree flags' usb' := by
  have hcontroller : usb'.controllerProfile = usb.controllerProfile := by
    rw [UsbDevice.controllerProfile, hprofile, UsbDevice.controllerProfile]
  refine ⟨?_, ?_, ?_⟩
  · rw [hconfigured, hconfiguration, hcontroller]
    exact h.configured
  · rw [hhid, hconfiguration, hcontroller]
    exact h.hidEnabled
  · rw [haudio, haudioOut]
    exact h.audioEnabled

theorem FlagsAgree.selection (h : FlagsAgree flags usb) (same : SameSelection usb usb') :
    FlagsAgree flags usb' :=
  h.congr rfl rfl rfl same.profile same.configuration same.audioOut

theorem configurationValue_eq_one (usb : UsbDevice) :
    usb.controllerProfile.configurationValue = 1 := by
  rw [UsbDevice.controllerProfile]
  cases usb.profile <;> rfl

/-- A device after a reset, with no flag set. -/
theorem flagsAgree_reset (hconfigured : flags.configured = false) (hhid : flags.hidEnabled = false)
    (haudio : flags.audioEnabled = false) (hconfiguration : usb.configuration = 0)
    (haudioOut : usb.audioOutAltsetting = 0) : FlagsAgree flags usb := by
  refine ⟨?_, ?_, ?_⟩
  · simp [hconfigured, hconfiguration, configurationValue_eq_one]
  · simp [hhid, hconfiguration, configurationValue_eq_one]
  · simp [haudio, haudioOut]

/-- A control transfer reports no change of the connection. -/
theorem masks_controlUrb (usb : UsbDevice) (urb : Urb) :
    ∀ call ∈ statusCalls (Handled.pc (usb.controlUrb urb).2.2), call.1.connected = false := by
  generalize hresult : usb.controlUrb urb = result
  have heffect := controlEffect usb urb
  rw [hresult] at heffect
  cases heffect with
  | keeps same unreported =>
      rw [unreported.calls]
      exact fun _ hmem => absurd hmem List.not_mem_nil
  | configures packet standard request value => simp [statusCalls, Handled.pc]
  | audioOut packet standard request value interface =>
      simp [statusCalls, Handled.pc, interfaceEvent]
  | audioIn packet standard request value interface =>
      exact fun _ hmem => absurd hmem List.not_mem_nil

/-- What a control transfer has to report. -/
theorem flagsAgree_controlUrb (urb : Urb) (h : FlagsAgree flags usb) :
    FlagsAgree (applyCalls flags (statusCalls (Handled.pc (usb.controlUrb urb).2.2)))
      (usb.controlUrb urb).1 := by
  generalize hresult : usb.controlUrb urb = result
  have heffect := controlEffect usb urb
  rw [hresult] at heffect
  cases heffect with
  | keeps same unreported =>
      rw [unreported.calls]
      exact h.selection same
  | configures packet standard request value =>
      refine ⟨?_, ?_, ?_⟩
      · simp [applyCalls, statusCalls, Handled.pc, StatusFlags.set, configurationValue_eq_one]
      · simp [applyCalls, statusCalls, Handled.pc, StatusFlags.set, configurationValue_eq_one]
      · simp [applyCalls, statusCalls, Handled.pc, StatusFlags.set]
  | audioOut packet standard request value interface =>
      refine ⟨h.configured, h.hidEnabled, ?_⟩
      simp [applyCalls, statusCalls, Handled.pc, StatusFlags.set, interfaceEvent]
  | audioIn packet standard request value interface => exact h.congr rfl rfl rfl rfl rfl rfl

end Flags

section Port

/-- The hub driver changes neither the connection nor, unless it acknowledges it, the change bit;
it enables a connected port only. -/
structure HubKeeps (action : Action) (before after : PortStatus) : Prop where
  connection : after.connection = before.connection
  enable : after.enable = true → before.enable = true ∨ before.connection = true
  highSpeed : after.highSpeed = true → before.highSpeed = true ∨ before.connection = true
  change : after.cConnection = before.cConnection ∨ acknowledges action = true

theorem HubKeeps.refl (action : Action) (port : PortStatus) : HubKeeps action port port :=
  ⟨rfl, .inl, .inl, .inl rfl⟩

theorem hubKeeps_clearFeature {before after : PortStatus} {value : Nat}
    (h : before.clearFeature value = some after) :
    HubKeeps (.hubControl .clearPortFeature value 1) before after := by
  unfold PortStatus.clearFeature at h
  split at h
  · cases h
    exact ⟨rfl, (nomatch ·), .inl, .inl rfl⟩
  · cases h
    exact ⟨rfl, .inl, .inl, .inl rfl⟩
  · cases h
    exact ⟨rfl, .inl, .inl, .inr rfl⟩
  · cases h
    exact ⟨rfl, .inl, .inl, .inl rfl⟩
  · cases h
    exact ⟨rfl, .inl, .inl, .inl rfl⟩
  · cases h
    exact ⟨rfl, .inl, .inl, .inl rfl⟩
  · cases h
    exact ⟨rfl, .inl, .inl, .inl rfl⟩
  · cases h

theorem hubKeeps_setFeature {before after : PortStatus} {value : Nat} (action : Action)
    (h : before.setFeature value = some after) : HubKeeps action before after := by
  unfold PortStatus.setFeature at h
  split at h
  · cases h
    exact ⟨rfl, .inl, .inl, .inl rfl⟩
  · split at h
    · rename_i hconnection
      cases h
      exact ⟨rfl, fun _ => .inr hconnection, fun _ => .inr hconnection, .inl rfl⟩
    · cases h
      exact .refl action before
  · cases h

theorem hubKeeps_hubControl (dev : HcdDev) (request : HubRequest) (value index : Nat) :
    HubKeeps (.hubControl request value index) dev.portStatus
      (hubControl dev request value index).1.portStatus := by
  unfold hubControl
  split
  · exact .refl _ _
  · exact .refl _ _
  · exact .refl _ _
  · split <;> exact .refl _ _
  · split
    · exact .refl _ _
    · rename_i port hport
      split at hport
      · cases hport
      · rename_i hindex
        obtain rfl : index = 1 := not_not.mp hindex
        exact hubKeeps_clearFeature hport
  · split
    · exact .refl _ _
    · rename_i port hport
      split at hport
      · cases hport
      · exact hubKeeps_setFeature _ hport
  · exact .refl _ _

end Port

section Steps

variable {s t : System} {action : Action}

theorem updateFeatureReply_selection (usb : UsbDevice) (payload : List UInt8) :
    (usb.updateFeatureReply payload).1.profile = usb.profile ∧
      (usb.updateFeatureReply payload).1.configuration = usb.configuration ∧
      (usb.updateFeatureReply payload).1.audioOutAltsetting = usb.audioOutAltsetting := by
  unfold UsbDevice.updateFeatureReply
  split
  · exact ⟨rfl, rfl, rfl⟩
  · split <;> exact ⟨rfl, rfl, rfl⟩

/-- A new profile is set while nothing is selected, or nothing happens. -/
theorem flagsAgree_setProfile (h : FlagsAgree s.dev.statusFlags s.dev.usb)
    (profile : Option Usb.Descriptors.Profile) (mode : Nat) :
    FlagsAgree (setProfile s.dev profile mode).1.statusFlags
      (setProfile s.dev profile mode).1.usb := by
  unfold setProfile
  split
  · exact h
  · split
    · exact h
    · split
      · exact h
      · exact flagsAgree_reset rfl rfl rfl rfl rfl

/-- A step while no operation that changes the selections is under way. -/
theorem phase_of_rest (flags : FlagsAgree s.dev.statusFlags s.dev.usb)
    (calls : ∀ id, statusCalls (s.enqueuers id) = []) (resets : Syscall.resetUsb ∉ s.syscalls)
    (step : StatusStep s action t) (running : t.dev.stopping = false) : Phase t := by
  cases step with
  | quiet status calls' resets' =>
      have husb : t.dev.usb = s.dev.usb := congrArg Status.usb status
      have hflags : t.dev.statusFlags = s.dev.statusFlags := congrArg Status.flags status
      refine .rest (hflags ▸ husb ▸ flags) ?_ (fun h => resets (resets'.mp h))
      intro id
      rw [calls', calls]
  | submit status calls' syscalls =>
      have husb : t.dev.usb = s.dev.usb := congrArg Status.usb status
      have hflags : t.dev.statusFlags = s.dev.statusFlags := congrArg Status.flags status
      refine .rest (hflags ▸ husb ▸ flags) ?_ (syscalls ▸ resets)
      intro id
      rcases calls' id with hsame | hnone
      · rw [hsame, calls]
      · exact hnone
  | @control id context _ pc found pipe status enqueuers syscalls =>
      have husb : t.dev.usb = _ := congrArg Status.usb status
      have hflags : t.dev.statusFlags = s.dev.statusFlags := congrArg Status.flags status
      have hmasks := masks_controlUrb s.dev.usb context.urb
      have hown : t.enqueuers id = Handled.pc (s.dev.usb.controlUrb context.urb).2.2 := by
        rw [enqueuers, Function.update_self]
      have hothers : ∀ j, j ≠ id → statusCalls (t.enqueuers j) = [] := by
        intro j hj
        rw [enqueuers, Function.update_of_ne hj, calls]
      have hagree' : FlagsAgree
          (applyCalls t.dev.statusFlags (statusCalls (t.enqueuers id))) t.dev.usb := by
        rw [hflags, husb, hown]
        exact flagsAgree_controlUrb context.urb flags
      by_cases hnone : statusCalls (t.enqueuers id) = []
      · rw [hnone] at hagree'
        refine .rest hagree' ?_ (syscalls ▸ resets)
        intro j
        by_cases hj : j = id
        · rw [hj, hnone]
        · exact hothers j hj
      · exact .reporting id hnone hothers (syscalls ▸ resets) (hown ▸ hmasks) hagree'
  | setStatus before after others status syscalls =>
      rw [calls] at before
      cases before
  | @reply frame _ _ _ running unflagged type written status enqueuers resets' =>
      have husb : t.dev.usb = _ := congrArg Status.usb status
      have hflags : t.dev.statusFlags = s.dev.statusFlags := congrArg Status.flags status
      obtain ⟨hprofile, hconfiguration, haudioOut⟩ :=
        updateFeatureReply_selection s.dev.usb frame.payload
      refine .rest ?_ (enqueuers ▸ calls) (fun h => resets (resets'.mp h))
      rw [husb, hflags]
      exact flags.congr rfl rfl rfl hprofile hconfiguration haudioOut
  | connect running status enqueuers syscalls =>
      rw [status_connectLocked s.dev running] at status
      have husb : t.dev.usb = s.dev.usb := congrArg Status.usb status
      have hflags : t.dev.statusFlags = _ := congrArg Status.flags status
      refine .rest ?_ (enqueuers ▸ calls) (syscalls ▸ resets)
      rw [husb, hflags]
      exact flags.congr rfl rfl rfl rfl rfl rfl
  | disconnect disconnects running status enqueuers resets' =>
      rw [status_disconnectLocked s.dev running] at status
      have hflags : t.dev.statusFlags = _ := congrArg Status.flags status
      refine .resetting (enqueuers ▸ calls) resets' ?_
      rw [hflags]
      exact ⟨rfl, rfl, rfl⟩
  | reset pending status enqueuers => exact absurd pending resets
  | profile status enqueuers syscalls =>
      have husb : t.dev.usb = _ := congrArg Status.usb status
      have hflags : t.dev.statusFlags = _ := congrArg Status.flags status
      refine .rest ?_ (enqueuers ▸ calls) (syscalls ▸ resets)
      rw [husb, hflags]
      exact flagsAgree_setProfile flags _ _
  | hub status enqueuers syscalls =>
      have husb : t.dev.usb = s.dev.usb := congrArg Status.usb status
      have hflags : t.dev.statusFlags = s.dev.statusFlags := congrArg Status.flags status
      exact .rest (hflags ▸ husb ▸ flags) (enqueuers ▸ calls) (syscalls ▸ resets)
  | stop status enqueuers syscalls =>
      have hstopping : t.dev.stopping = true := congrArg Status.stopping status
      rw [running] at hstopping
      cases hstopping

/-- While a thread has to report, only that thread goes on. -/
theorem phase_of_reporting {id : CtxId} (pending : statusCalls (s.enqueuers id) ≠ [])
    (others : ∀ j, j ≠ id → statusCalls (s.enqueuers j) = [])
    (resets : Syscall.resetUsb ∉ s.syscalls)
    (masks : ∀ call ∈ statusCalls (s.enqueuers id), call.1.connected = false)
    (flags : FlagsAgree (applyCalls s.dev.statusFlags (statusCalls (s.enqueuers id))) s.dev.usb)
    (ok : Atomic s action) (step : StatusStep s action t) : Phase t := by
  have hbusy : busy s (.enqueuer id) := by
    intro hreturned
    exact pending (by rw [hreturned]; rfl)
  have hactor := continues_of_busy ok hbusy
  cases step with
  | quiet status calls resets' =>
      have husb : t.dev.usb = s.dev.usb := congrArg Status.usb status
      have hflags : t.dev.statusFlags = s.dev.statusFlags := congrArg Status.flags status
      refine .reporting id (by rwa [calls]) ?_ (fun h => resets (resets'.mp h)) (by rwa [calls]) ?_
      · intro j hj
        rw [calls, others j hj]
      · rwa [calls, hflags, husb]
  | control pc found pipe status enqueuers syscalls =>
      rcases hactor with ⟨time, htick⟩ | hactor
      · cases htick
      · cases hactor
        exact absurd (by rw [pc]; rfl) pending
  | @setStatus _ _ _ mask enabled rest before after unchanged status syscalls =>
      rcases hactor with ⟨time, htick⟩ | hactor
      · cases htick
      · cases hactor
        have husb : t.dev.usb = s.dev.usb := congrArg Status.usb status
        have hflags : t.dev.statusFlags = StatusFlags.set s.dev.statusFlags mask enabled :=
          congrArg Status.flags status
        have hothers : ∀ j, j ≠ id → statusCalls (t.enqueuers j) = [] := by
          intro j hj
          rw [unchanged j hj, others j hj]
        have hagree : FlagsAgree
            (applyCalls t.dev.statusFlags (statusCalls (t.enqueuers id))) t.dev.usb := by
          rw [hflags, husb, after]
          rw [before] at flags
          exact flags
        have hmasks : ∀ call ∈ statusCalls (t.enqueuers id), call.1.connected = false := by
          intro call hcall
          rw [after] at hcall
          exact masks call (before ▸ List.mem_cons_of_mem _ hcall)
        by_cases hnone : statusCalls (t.enqueuers id) = []
        · rw [hnone] at hagree
          refine .rest hagree ?_ (syscalls ▸ resets)
          intro j
          by_cases hj : j = id
          · rw [hj, hnone]
          · exact hothers j hj
        · exact .reporting id hnone hothers (syscalls ▸ resets) hmasks hagree
  | @disconnect action _ disconnects running status enqueuers resets' =>
      rcases hactor with ⟨time, rfl⟩ | hactor
      · cases disconnects
      · unfold AtomicRuns.disconnects at disconnects
        split at disconnects
        · cases hactor
        · cases hactor
        · cases disconnects
  | submit | reply | connect | reset | profile | hub | stop =>
      rcases hactor with ⟨time, htick⟩ | hactor
      · cases htick
      · cases hactor

/-- While the device has to be reset, only the system call goes on. -/
theorem phase_of_resetting (calls : ∀ id, statusCalls (s.enqueuers id) = [])
    (resets : Syscall.resetUsb ∈ s.syscalls)
    (flags : s.dev.statusFlags.configured = false ∧ s.dev.statusFlags.hidEnabled = false ∧
      s.dev.statusFlags.audioEnabled = false)
    (ok : Atomic s action) (step : StatusStep s action t) : Phase t := by
  have hbusy : busy s .syscall := List.ne_nil_of_mem resets
  have hactor := continues_of_busy ok hbusy
  cases step with
  | quiet status calls' resets' =>
      have hflags : t.dev.statusFlags = s.dev.statusFlags := congrArg Status.flags status
      refine .resetting ?_ (resets'.mpr resets) (hflags ▸ flags)
      intro id
      rw [calls', calls]
  | disconnect disconnects running status enqueuers resets' =>
      rw [status_disconnectLocked s.dev running] at status
      have hflags : t.dev.statusFlags = _ := congrArg Status.flags status
      refine .resetting (enqueuers ▸ calls) resets' ?_
      rw [hflags]
      exact ⟨rfl, rfl, rfl⟩
  | reset pending status enqueuers =>
      have husb : t.dev.usb = s.dev.usb.resetState := congrArg Status.usb status
      have hflags : t.dev.statusFlags = s.dev.statusFlags := congrArg Status.flags status
      by_cases hmore : Syscall.resetUsb ∈ t.syscalls
      · exact .resetting (enqueuers ▸ calls) hmore (hflags ▸ flags)
      · refine .rest ?_ (enqueuers ▸ calls) hmore
        rw [husb, hflags]
        exact flagsAgree_reset flags.1 flags.2.1 flags.2.2 rfl rfl
  | submit | control | setStatus | reply | connect | profile | hub | stop =>
      rcases hactor with ⟨time, htick⟩ | hactor
      · cases htick
      · cases hactor

theorem Phase.step (phase : Phase s) (ok : Atomic s action) (step : StatusStep s action t)
    (running : t.dev.stopping = false) : Phase t := by
  cases phase with
  | rest flags calls resets => exact phase_of_rest flags calls resets step running
  | reporting id pending others resets masks flags =>
      exact phase_of_reporting pending others resets masks flags ok step
  | resetting calls resets flags => exact phase_of_resetting calls resets flags ok step

/-- No thread reports a change of the connection. -/
theorem Phase.masks (phase : Phase s) (id : CtxId) :
    ∀ call ∈ statusCalls (s.enqueuers id), call.1.connected = false := by
  intro call hcall
  cases phase with
  | rest flags calls resets =>
      rw [calls] at hcall
      cases hcall
  | reporting j pending others resets masks flags =>
      by_cases hid : id = j
      · exact masks call (hid ▸ hcall)
      · rw [others id hid] at hcall
        cases hcall
  | resetting calls resets flags =>
      rw [calls] at hcall
      cases hcall

theorem port_setProfile (dev : HcdDev) (profile : Option Usb.Descriptors.Profile) (mode : Nat) :
    (setProfile dev profile mode).1.portStatus = dev.portStatus ∧
      (setProfile dev profile mode).1.statusFlags.connected = dev.statusFlags.connected := by
  unfold setProfile
  split
  · exact ⟨rfl, rfl⟩
  · split
    · exact ⟨rfl, rfl⟩
    · split <;> exact ⟨rfl, rfl⟩

theorem stopping_setProfile (dev : HcdDev) (profile : Option Usb.Descriptors.Profile) (mode : Nat) :
    (setProfile dev profile mode).1.stopping = dev.stopping := by
  unfold setProfile
  split
  · rfl
  · split
    · rfl
    · split <;> rfl

theorem PortInv.step {changed : Bool}
    (inv : PortInv s.dev.statusFlags s.dev.portStatus changed) (phase : Phase s)
    (step : StatusStep s action t) (running : t.dev.stopping = false) :
    PortInv t.dev.statusFlags t.dev.portStatus (!acknowledges action &&
      (changed || t.dev.portStatus.connection != s.dev.portStatus.connection)) := by
  -- a step that leaves the port and the flag of the connection alone
  have hkeeps : t.dev.portStatus = s.dev.portStatus →
      t.dev.statusFlags.connected = s.dev.statusFlags.connected →
      PortInv t.dev.statusFlags t.dev.portStatus (!acknowledges action &&
        (changed || t.dev.portStatus.connection != s.dev.portStatus.connection)) := by
    intro hport hconnected
    rw [hport]
    refine ⟨⟨hconnected ▸ inv.agrees.connected, inv.agrees.enable, inv.agrees.highSpeed⟩, ?_⟩
    intro hchanged
    simp only [bne_self_eq_false, Bool.or_false, Bool.and_eq_true] at hchanged
    exact inv.visible hchanged.2
  cases step with
  | quiet status | submit status | control _ _ _ status | reply _ _ _ _ status
  | reset _ status =>
      have hport : t.dev.portStatus = s.dev.portStatus := congrArg Status.port status
      have hflags : t.dev.statusFlags = s.dev.statusFlags := congrArg Status.flags status
      exact hkeeps hport (by rw [hflags])
  | @setStatus id _ _ mask enabled rest before after others status syscalls =>
      have hport : t.dev.portStatus = s.dev.portStatus := congrArg Status.port status
      have hflags : t.dev.statusFlags = StatusFlags.set s.dev.statusFlags mask enabled :=
        congrArg Status.flags status
      have hmask : mask.connected = false :=
        phase.masks id (mask, enabled) (before ▸ List.mem_cons_self)
      refine hkeeps hport ?_
      rw [hflags, StatusFlags.set]
      simp [hmask]
  | @profile profile mode _ status enqueuers syscalls =>
      have hport : t.dev.portStatus = _ := congrArg Status.port status
      have hflags : t.dev.statusFlags = _ := congrArg Status.flags status
      obtain ⟨hport', hconnected⟩ := port_setProfile s.dev profile mode
      exact hkeeps (hport.trans hport') (by rw [hflags]; exact hconnected)
  | connect running status enqueuers syscalls =>
      rw [status_connectLocked s.dev running] at status
      have hport : t.dev.portStatus = _ := congrArg Status.port status
      have hflags : t.dev.statusFlags = _ := congrArg Status.flags status
      rw [hport, hflags]
      refine ⟨⟨iff_of_true rfl rfl, fun _ => rfl, fun _ => rfl⟩, ?_⟩
      intro hchanged
      cases hconnection : s.dev.portStatus.connection with
      | false => rfl
      | true =>
          simp only [hconnection, bne_self_eq_false, Bool.or_false, Bool.and_eq_true] at hchanged
          exact inv.visible hchanged.2
  | disconnect disconnects running status enqueuers resets =>
      rw [status_disconnectLocked s.dev running] at status
      have hport : t.dev.portStatus = _ := congrArg Status.port status
      have hflags : t.dev.statusFlags = _ := congrArg Status.flags status
      rw [hport, hflags]
      refine ⟨⟨Iff.rfl, (by rintro ⟨⟩), (by rintro ⟨⟩)⟩, ?_⟩
      intro hchanged
      cases hconnection : s.dev.portStatus.connection with
      | true => rfl
      | false =>
          simp only [hconnection, bne_self_eq_false, Bool.or_false, Bool.and_eq_true] at hchanged
          exact inv.visible hchanged.2
  | @hub request value index _ status enqueuers syscalls =>
      have hport : t.dev.portStatus = _ := congrArg Status.port status
      have hflags : t.dev.statusFlags = s.dev.statusFlags := congrArg Status.flags status
      have hub := hubKeeps_hubControl s.dev request value index
      rw [hport, hflags]
      refine ⟨⟨?_, ?_, ?_⟩, ?_⟩
      · rw [hub.connection]
        exact inv.agrees.connected
      · intro h
        rw [hub.connection]
        exact (hub.enable h).elim inv.agrees.enable id
      · intro h
        rw [hub.connection]
        exact (hub.highSpeed h).elim inv.agrees.highSpeed id
      · intro hchanged
        simp only [hub.connection, bne_self_eq_false, Bool.or_false, Bool.and_eq_true,
          Bool.not_eq_true'] at hchanged
        rcases hub.change with hsame | hacknowledged
        · rw [hsame]
          exact inv.visible hchanged.2
        · rw [hacknowledged] at hchanged
          cases hchanged.1
  | stop status enqueuers syscalls =>
      have hstopping : t.dev.stopping = true := congrArg Status.stopping status
      rw [running] at hstopping
      cases hstopping

/-- The driver does not run again once it stops. -/
theorem running_before (step : StatusStep s action t) (running : t.dev.stopping = false) :
    s.dev.stopping = false := by
  cases step with
  | quiet status | submit status | control _ _ _ status | setStatus _ _ _ status
  | reply _ _ _ _ status | reset _ status | hub status =>
      have hstopping : t.dev.stopping = s.dev.stopping := congrArg Status.stopping status
      rw [← hstopping, running]
  | connect hrunning | disconnect _ hrunning => exact hrunning
  | profile status =>
      have hstopping : t.dev.stopping = _ := congrArg Status.stopping status
      rw [← running, hstopping]
      exact (stopping_setProfile s.dev _ _).symm
  | stop status =>
      have hstopping : t.dev.stopping = true := congrArg Status.stopping status
      rw [running] at hstopping
      cases hstopping

/-- A port that is being removed is not connected, whatever overlaps. -/
structure Removal (s : System) : Prop where
  shape : Shape s
  masks : ∀ id, ∀ call ∈ statusCalls (s.enqueuers id), call.1.connected = false
  removed : s.dev.stopping = true → s.dev.statusFlags.connected = false

theorem Removal.masks_step (removal : Removal s) (step : StatusStep s action t) (id : CtxId) :
    ∀ call ∈ statusCalls (t.enqueuers id), call.1.connected = false := by
  cases step with
  | quiet _ calls =>
      rw [calls]
      exact removal.masks id
  | submit _ calls =>
      obtain hsame | hnone := calls id
      · rw [hsame]
        exact removal.masks id
      · rw [hnone]
        exact fun _ hmem => absurd hmem List.not_mem_nil
  | @control j context _ pc found pipe status enqueuers syscalls =>
      rw [enqueuers]
      by_cases hid : id = j
      · rw [hid, Function.update_self]
        exact masks_controlUrb _ _
      · rw [Function.update_of_ne hid]
        exact removal.masks id
  | @setStatus j _ _ mask enabled rest before after others status syscalls =>
      by_cases hid : id = j
      · rw [hid, after]
        exact fun call hmem => removal.masks j call (before ▸ List.mem_cons_of_mem _ hmem)
      · rw [others id hid]
        exact removal.masks id
  | reply _ _ _ _ _ enqueuers | connect _ _ enqueuers | disconnect _ _ _ enqueuers
  | reset _ _ enqueuers | profile _ enqueuers | hub _ enqueuers | stop _ enqueuers =>
      rw [enqueuers]
      exact removal.masks id

theorem Removal.removed_step (removal : Removal s) (step : StatusStep s action t)
    (hstopping : t.dev.stopping = true) : t.dev.statusFlags.connected = false := by
  cases step with
  | quiet status | submit status | control _ _ _ status | reply _ _ _ _ status
  | reset _ status | hub status =>
      have hsame : t.dev.stopping = s.dev.stopping := congrArg Status.stopping status
      have hflags : t.dev.statusFlags = s.dev.statusFlags := congrArg Status.flags status
      rw [hflags]
      exact removal.removed (hsame ▸ hstopping)
  | @setStatus id _ _ mask enabled rest before after others status syscalls =>
      have hsame : t.dev.stopping = s.dev.stopping := congrArg Status.stopping status
      have hflags : t.dev.statusFlags = StatusFlags.set s.dev.statusFlags mask enabled :=
        congrArg Status.flags status
      have hmask : mask.connected = false :=
        removal.masks id (mask, enabled) (before ▸ List.mem_cons_self)
      rw [hflags, StatusFlags.set]
      simpa [hmask] using removal.removed (hsame ▸ hstopping)
  | connect hrunning status =>
      rw [status_connectLocked s.dev hrunning] at status
      have hsame : t.dev.stopping = s.dev.stopping := congrArg Status.stopping status
      rw [hsame, hrunning] at hstopping
      cases hstopping
  | disconnect _ hrunning status =>
      have hflags : t.dev.statusFlags = _ := congrArg Status.flags status
      rw [status_disconnectLocked s.dev hrunning] at hflags
      rw [hflags]
  | @profile profile mode _ status enqueuers syscalls =>
      have hflags : t.dev.statusFlags = _ := congrArg Status.flags status
      have hconnected : t.dev.statusFlags.connected = s.dev.statusFlags.connected := by
        rw [hflags]
        exact (port_setProfile s.dev profile mode).2
      rw [hconnected]
      refine removal.removed ?_
      have hsame : t.dev.stopping = (setProfile s.dev profile mode).1.stopping :=
        congrArg Status.stopping status
      rw [← stopping_setProfile s.dev profile mode, ← hsame, hstopping]
  | stop status =>
      have hflags : t.dev.statusFlags = _ := congrArg Status.flags status
      rw [hflags]

theorem Removal.step (removal : Removal s) (h : Threads.step s action = some t) : Removal t :=
  have hstatus := statusStep removal.shape h
  ⟨shape_step removal.shape h, removal.masks_step hstatus, removal.removed_step hstatus⟩

theorem Removal.init : Removal .init where
  shape := fun _ => trivial
  masks := fun _ _ hmem => absurd hmem List.not_mem_nil
  removed := fun _ => rfl

end Steps

theorem Inv.step {w w' : Watched} {action : Action} (inv : Inv w) (ok : Atomic w.system action)
    (h : watchedStep w action = some w') : Inv w' := by
  obtain ⟨t, hstep, rfl⟩ := Option.map_eq_some_iff.mp h
  have hstatus : StatusStep w.system action t := statusStep inv.shape hstep
  refine ⟨shape_step inv.shape hstep, ?_, ?_⟩
  · intro hrunning
    exact (inv.phase (running_before hstatus hrunning)).step ok hstatus hrunning
  · intro hrunning
    have hbefore := running_before hstatus hrunning
    exact (inv.port hbefore).step (inv.phase hbefore) hstatus hrunning

theorem Inv.init : Inv ⟨.init, false⟩ where
  shape := fun _ => trivial
  phase := fun _ => .rest (flagsAgree_reset rfl rfl rfl rfl rfl) (fun _ => rfl) (nomatch ·)
  port := fun _ => ⟨⟨Iff.rfl, (nomatch ·), (nomatch ·)⟩, (nomatch ·)⟩

/-- The records agree between any two operations that do not overlap, as long as the driver runs. -/
theorem consistent_of_guardedRun {actions : List Action} {w : Watched}
    (run : GuardedRun watchedStep (fun w action => Atomic w.system action) ⟨.init, false⟩ actions w)
    (rest : AtRest w.system) (running : w.system.dev.stopping = false) : Consistent w := by
  have inv : Inv w := run.invariant (fun _ _ _ inv ok h => inv.step ok h) .init
  have hport := inv.port running
  refine ⟨?_, hport.agrees, hport.visible⟩
  cases inv.phase running with
  | rest flags calls resets => exact flags
  | reporting id pending others resets masks flags =>
      have hbusy : busy w.system (.enqueuer id) := by
        intro hreturned
        exact pending (by rw [hreturned]; rfl)
      exact absurd hbusy (rest _)
  | resetting calls resets flags =>
      have hbusy : busy w.system .syscall := List.ne_nil_of_mem resets
      exact absurd hbusy (rest _)

section Traces

/-- `SET_CONFIGURATION(1)`. -/
def setConfigurationUrb : Urb where
  pipeType := .control
  endpoint := 0
  dirIn := false
  setupPacket := some ⟨0x00, usbReqSetConfiguration, 1, 0, 0⟩
  transferBufferLength := 0
  transferBuffer := none
  isoFrameDesc := []
  actualLength := 0
  errorCount := 0
  startFrame := 0
  linked := false
  unlinked := false
  hcpriv := false

/-- The host configures the device after it was connected. -/
def configuredTrace : List Action :=
  [.connect, .submit setConfigurationUrb true 0, .handle 0, .call 0 true, .call 0 true, .file 0]

/-- Nothing but the thread of the first URB is under way. -/
theorem atomic_of_first {s : System} {action : Action}
    (hcontinues : continues action = some (.enqueuer 0))
    (hgiveback : holds s.giveback = none) (hsyscalls : s.syscalls = [])
    (hothers : ∀ id, id ≠ 0 → s.enqueuers id = .returned) : Atomic s action := by
  have honly : ∀ party, busy s party → continues action = some party := by
    rintro (id | _ | _) hbusy
    · by_cases hid : id = 0
      · rw [hid]
        exact hcontinues
      · exact absurd (hothers id hid) hbusy
    · exact absurd hgiveback hbusy
    · exact absurd hsyscalls hbusy
  cases action with
  | tick => trivial
  | submit | handle | call | defer | request | refile | schedule | file | dequeue | write | read
  | connect | disconnect | setProfile | openFile | release | resume | hubControl | stop | sleep
  | wake | take | deliver | place | giveback => exact honly

theorem atRest_of {s : System} (hgiveback : holds s.giveback = none) (hsyscalls : s.syscalls = [])
    (hreturned : ∀ id, s.enqueuers id = .returned) : AtRest s := by
  rintro (id | _ | _) hbusy
  · exact hbusy (hreturned id)
  · exact hbusy hgiveback
  · exact hbusy hsyscalls

theorem guardedRun_configured : ∃ w, GuardedRun watchedStep
      (fun w action => Atomic w.system action) ⟨.init, false⟩ configuredTrace w ∧
    AtRest w.system ∧ w.system.dev.stopping = false ∧
      w.system.dev.statusFlags = ⟨true, true, true, false⟩ ∧ w.changed = true := by
  refine ⟨_, .cons (atomic_of_atRest ?_ _) rfl (.cons (atomic_of_atRest ?_ _) rfl (.cons ?_ rfl
    (.cons ?_ rfl (.cons ?_ rfl (.cons ?_ rfl (.nil _)))))), ?_, rfl, rfl, rfl⟩
  · exact atRest_of rfl rfl fun _ => rfl
  · exact atRest_of rfl rfl fun _ => rfl
  · refine atomic_of_first rfl rfl rfl fun id hid => ?_
    exact Function.update_of_ne hid _ _
  · refine atomic_of_first rfl rfl rfl fun id hid => ?_
    exact (Function.update_of_ne hid _ _).trans (Function.update_of_ne hid _ _)
  · refine atomic_of_first rfl rfl rfl fun id hid => ?_
    exact (Function.update_of_ne hid _ _).trans <| (Function.update_of_ne hid _ _).trans
      (Function.update_of_ne hid _ _)
  · refine atomic_of_first rfl rfl rfl fun id hid => ?_
    exact (Function.update_of_ne hid _ _).trans <| (Function.update_of_ne hid _ _).trans <|
      (Function.update_of_ne hid _ _).trans (Function.update_of_ne hid _ _)
  · refine atRest_of rfl rfl fun id => ?_
    by_cases hid : id = 0
    · rw [hid]
      rfl
    · exact (Function.update_of_ne hid _ _).trans <| (Function.update_of_ne hid _ _).trans <|
        (Function.update_of_ne hid _ _).trans <| (Function.update_of_ne hid _ _).trans
          (Function.update_of_ne hid _ _)

end Traces

/-- The configured device is reported as such. -/
theorem consistent_configured : ∃ w, GuardedRun watchedStep
      (fun w action => Atomic w.system action) ⟨.init, false⟩ configuredTrace w ∧
    w.system.dev.statusFlags = ⟨true, true, true, false⟩ ∧ w.changed = true ∧ Consistent w := by
  obtain ⟨w, run, rest, running, hflags, hchanged⟩ := guardedRun_configured
  exact ⟨w, run, hflags, hchanged, consistent_of_guardedRun run rest running⟩

end VirtualDualSense.Hcd.PortConsistency
