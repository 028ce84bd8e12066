import VirtualDualSense.Lib.Runs
import VirtualDualSense.WinDrv.ByteRings

/-!
# The bindings of a port of the Windows driver

A file binds a port with a profile, which gives the port a USB child, and unbinds it. Its
cleanup unbinds the port and leaves the child. One file holds the port at a time, and a held
port has one child, plugged in, with the profile of the holder.

## Implementation notes

The queue of the control device is sequential, so one bind or unbind is active. A cleanup runs
next to it. A block under `port_state_lock` is one step, and so is a call of the framework,
which may fail. The handle of an endpoint is the number of its child. `usb_device_init` and the
descriptors are left out, and the numbers of the failures.
-/

namespace VirtualDualSense.WinDrv.PortBindings

open Lib.Runs
open ByteRings

section States

def vdsProfileDs5 : UInt32 := 0
def vdsProfileDse : UInt32 := 1

def vdsIsValidProfile (profile : UInt32) : Bool :=
  profile == vdsProfileDs5 || profile == vdsProfileDse

def vdsPortBindVersion : UInt32 := 1
def vdsPortBindSize : UInt32 := 16

structure PortBind where
  version : UInt32
  size : UInt32
  profile : UInt32
  flags : UInt32
  deriving DecidableEq

def PortBind.valid (bind : PortBind) : Bool :=
  bind.version == vdsPortBindVersion && bind.size == vdsPortBindSize &&
    vdsIsValidProfile bind.profile

inductive Status
  | success
  | deviceNotReady
  | invalidParameter
  | invalidDeviceState
  | deviceBusy
  | accessDenied
  | failed
  deriving DecidableEq

inductive Endpoint
  | default
  | audioOut
  | audioIn
  | hidIn
  | hidOut
  deriving DecidableEq

/-- The fields of the port state that a bind reads or writes. -/
structure PortState where
  profile : UInt32
  bound : Bool
  boundFile : Option Nat
  usbDevice : Option Nat
  endpoints : Endpoint → Option Nat
  usbDevicePlugged : Bool
  usbProfile : UInt32
  usbProfileValid : Bool
  audioIn : AudioInRing

/-- A child of the port, as UdeCx has it. -/
structure UsbChild where
  profile : UInt32
  plugged : Bool
  deriving DecidableEq

/-- Who deletes a child. -/
inductive Caller
  | bind (file : Nat) (profile : UInt32)
  | unbind (file : Nat)
  deriving DecidableEq

/-- Where the active request is. -/
inductive Stage
  | idle
  | resetting (file : Nat)
  | creating (file : Nat)
  | deleting (child : Nat) (caller : Caller)
  | clearing (child : Nat) (caller : Caller)
  | building (file : Nat) (profile : UInt32)
  | adding (file : Nat) (profile : UInt32) (endpoints : List Endpoint)
  | plugging (file : Nat)
  | marking (file : Nat)
  | failing (file : Nat)
  | unbindReset (file : Nat)
  | unbindDelete (file : Nat)
  deriving DecidableEq

structure System where
  enabled : Bool
  port : PortState
  children : Nat → Option UsbChild
  created : Nat
  stage : Stage
  resets : Nat
  completions : List (Option Nat × Status)

/-- The state of a port. A port is enabled when its index is below `max_port`. -/
def System.new (enabled : Bool) : System where
  enabled := enabled
  port :=
    { profile := 0
      bound := false
      boundFile := none
      usbDevice := none
      endpoints := fun _ => none
      usbDevicePlugged := false
      usbProfile := 0
      usbProfileValid := false
      audioIn := .new }
  children := fun _ => none
  created := 0
  stage := .idle
  resets := 0
  completions := []

end States

section Steps

/-- The endpoints in the order that `VdsCreateUsbChildDevice` makes them. -/
def allEndpoints : List Endpoint := [.default, .audioOut, .audioIn, .hidIn, .hidOut]

/-- The request ends. -/
def System.complete (s : System) (file : Option Nat) (status : Status) : System :=
  { s with stage := .idle, completions := s.completions ++ [(file, status)] }

def System.resetAudioInPcm (s : System) : System :=
  { s with port := { s.port with audioIn := resetAudioInPcmLocked s.port.audioIn } }

/-- `VdsBindPort`, up to the end of its first block under the lock. -/
def System.bindPort (s : System) (file : Option Nat) (input : Option PortBind) : System :=
  if !s.enabled then
    s.complete file .deviceNotReady
  else
    match input, file with
    | none, _ => s.complete file .failed
    | some bind, file =>
      if !bind.valid then
        s.complete file .invalidParameter
      else
        match file with
        | none => s.complete none .invalidDeviceState
        | some f =>
          if s.port.bound && s.port.boundFile != some f then
            s.complete (some f) .deviceBusy
          else
            { s with
              port := { s.port with profile := bind.profile, bound := true, boundFile := some f }
              stage := .resetting f }

/-- `VdsUnbindPort`, up to the end of its block under the lock. -/
def System.unbindPort (s : System) (file : Option Nat) : System :=
  if !s.enabled then
    s.complete file .deviceNotReady
  else
    match file with
    | none => s.complete none .invalidDeviceState
    | some f =>
      if s.port.bound && s.port.boundFile != some f then
        s.complete (some f) .accessDenied
      else
        { s with
          port := { s.port with bound := false, boundFile := none }
          stage := .unbindReset f }

/-- The block of `VdsBindPort` that undoes a failed bind. -/
def System.undoBind (s : System) (f : Nat) : System :=
  if s.port.boundFile = some f then
    { s with port := { s.port with bound := false, boundFile := none } }
  else
    s

/-- A call of `VdsDeleteUsbChildDevice` returns. -/
def System.deleted (s : System) (ok : Bool) : Caller → System
  | .bind f profile => { s with stage := if ok then .building f profile else .failing f }
  | .unbind f => s.complete (some f) (if ok then .success else .failed)

/-- The start of `VdsDeleteUsbChildDevice`. -/
def System.deleteUsbChildDevice (s : System) (caller : Caller) : System :=
  match s.port.usbDevice with
  | none => s.deleted true caller
  | some child => { s with stage := .deleting child caller }

/-- The block of `VdsDeleteUsbChildDevice` under the lock. -/
def System.clearUsbDevice (s : System) (child : Nat) : System :=
  if s.port.usbDevice = some child then
    { s with
      port :=
        { s.port with
          usbDevice := none
          endpoints := fun _ => none
          usbDevicePlugged := false
          usbProfile := 0
          usbProfileValid := false } }
  else
    s

/-- The profile that `VdsCreateUsbChildDevice` gives the child. -/
def childProfile (profile : UInt32) : UInt32 :=
  if vdsIsValidProfile profile then profile else vdsProfileDse

/-- The start of `VdsCreateUsbChildDevice`. -/
def System.createUsbChildDevice (s : System) (f : Nat) : System :=
  let profile := childProfile s.port.profile
  match s.port.usbDevice with
  | none => { s with stage := .building f profile }
  | some _ =>
    if s.port.usbProfileValid && s.port.usbProfile == profile then
      { s with stage := .plugging f }
    else
      s.deleteUsbChildDevice (.bind f profile)

/-- `UdecxUsbDeviceCreate`, and what leads to it. -/
def System.build (s : System) (f : Nat) (profile : UInt32) (ok : Bool) : System :=
  if ok then
    { s with
      port := { s.port with usbDevice := some s.created }
      children := Function.update s.children s.created (some ⟨profile, false⟩)
      created := s.created + 1
      stage := .adding f profile allEndpoints }
  else
    { s with stage := .failing f }

/-- `VdsCreateSimpleEndpoint`. UdeCx may have the endpoint though the call fails. -/
def System.addEndpoint (s : System) (f : Nat) (profile : UInt32) (endpoint : Endpoint)
    (rest : List Endpoint) (ok : Bool) : System :=
  if ok then
    { s with
      port :=
        { s.port with
          endpoints := Function.update s.port.endpoints endpoint s.port.usbDevice }
      stage := .adding f profile rest }
  else
    { s with stage := .failing f }

/-- The rest of `VdsPlugUsbChildDevice`, up to the end of `UdecxUsbDevicePlugIn`. -/
def System.plugIn (s : System) (f : Nat) (ok : Bool) : System :=
  if s.port.usbDevicePlugged then
    s.complete (some f) .success
  else if ok then
    { s with
      children := fun c =>
        if s.port.usbDevice = some c then
          (s.children c).map fun child => { child with plugged := true }
        else
          s.children c
      stage := .marking f }
  else
    { s with stage := .failing f }

def System.markPlugged (s : System) : System :=
  { s with port := { s.port with usbDevicePlugged := true } }

/-- The next step of the active request. `ok` is how its call of the framework ends. -/
def System.advance (s : System) (ok : Bool) : Option System :=
  match s.stage with
  | .idle => none
  | .resetting f => some { s.resetAudioInPcm with stage := .creating f }
  | .creating f => some (s.createUsbChildDevice f)
  | .deleting child caller =>
    some <|
      if ok then
        { s with
          children := Function.update s.children child none
          stage := .clearing child caller }
      else
        s.deleted false caller
  | .clearing child caller => some ((s.clearUsbDevice child).deleted true caller)
  | .building f profile => some (s.build f profile ok)
  | .adding f profile [] =>
    some { s with
      port := { s.port with usbProfile := profile, usbProfileValid := true }
      stage := .plugging f }
  | .adding f profile (endpoint :: rest) => some (s.addEndpoint f profile endpoint rest ok)
  | .plugging f => some (s.plugIn f ok)
  | .marking f => some (s.markPlugged.complete (some f) .success)
  | .failing f => some ((s.undoBind f).complete (some f) .failed)
  | .unbindReset f => some { s.resetAudioInPcm with stage := .unbindDelete f }
  | .unbindDelete f => some (s.deleteUsbChildDevice (.unbind f))

/-- `VdsEvtControlFileCleanup`, up to the end of its block under the lock. -/
def System.fileCleanup (s : System) (f : Nat) : System :=
  if !s.enabled then
    s
  else if s.port.bound && s.port.boundFile == some f then
    { s with
      port := { s.port with bound := false, boundFile := none }
      resets := s.resets + 1 }
  else
    s

inductive Action
  | bind (file : Option Nat) (input : Option PortBind)
  | unbind (file : Option Nat)
  | advance (ok : Bool)
  | cleanup (file : Nat)
  | cleanupReset
  deriving DecidableEq

/-- The queue gives a request when the one before has ended. -/
def step (s : System) : Action → Option System
  | .bind file input => if s.stage = .idle then some (s.bindPort file input) else none
  | .unbind file => if s.stage = .idle then some (s.unbindPort file) else none
  | .advance ok => s.advance ok
  | .cleanup file => some (s.fileCleanup file)
  | .cleanupReset =>
    if s.resets = 0 then none else some { s.resetAudioInPcm with resets := s.resets - 1 }

/-- `VdsPortReadyForIo`. -/
def System.portReadyForIo (s : System) : Bool := s.enabled && s.port.bound

def vdsPortInfoEnabled : UInt32 := 1
def vdsPortInfoActive : UInt32 := 2
def vdsPortInfoUsbPlugged : UInt32 := 4
def vdsPortInfoBound : UInt32 := 8
def vdsPortInfoProfileValid : UInt32 := 16
def vdsPortInfoUsbProfileValid : UInt32 := 32

/-- The flags of `VdsCompletePortInfo`. -/
def System.portInfoFlags (s : System) : UInt32 :=
  (if s.enabled then vdsPortInfoEnabled else 0) |||
    (if s.port.bound then vdsPortInfoBound ||| vdsPortInfoProfileValid else 0) |||
    (if s.port.bound then vdsPortInfoActive else 0) |||
    (if s.port.usbDevicePlugged then vdsPortInfoUsbPlugged else 0) |||
    (if s.port.usbProfileValid then vdsPortInfoUsbProfileValid else 0)

end Steps

section Consistency

variable {s t : System} {f : Nat}

/-- The fields about the child. -/
def PortState.usb (port : PortState) :
    Option Nat × (Endpoint → Option Nat) × Bool × UInt32 × Bool :=
  (port.usbDevice, port.endpoints, port.usbDevicePlugged, port.usbProfile, port.usbProfileValid)

/-- The child of the port is the only one, and the fields about it are right. -/
structure Linked (s : System) : Prop where
  fresh : ∀ c, s.created ≤ c → s.children c = none
  only : ∀ c child, s.children c = some child → s.port.usbDevice = some c
  endpoint : ∀ e c, s.port.endpoints e = some c → s.port.usbDevice = some c
  valid : s.port.usbProfileValid = true →
    s.port.usbDevice.isSome ∧ ∀ e, s.port.endpoints e = s.port.usbDevice
  profile : s.port.usbProfileValid = true →
    ∀ c child, s.children c = some child → child.profile = s.port.usbProfile
  plugged : s.port.usbDevicePlugged = true →
    s.port.usbDevice.isSome ∧ ∀ c child, s.children c = some child → child.plugged = true
  unplugged : s.port.usbDevicePlugged = false → (∀ f, s.stage ≠ .marking f) →
    ∀ c child, s.children c = some child → child.plugged = false

/-- UdeCx has the child of the port. -/
def Present (s : System) : Prop := ∀ c, s.port.usbDevice = some c → (s.children c).isSome

/-- A bind of `f` is active. -/
structure Binding (s : System) (f : Nat) : Prop where
  holder : s.port.bound = true → s.port.boundFile = some f
  known : vdsIsValidProfile s.port.profile = true

/-- The child has the profile of the port. -/
def Ready (s : System) : Prop :=
  s.port.usbProfileValid = true ∧ s.port.usbProfile = s.port.profile

def CallerOk (s : System) : Caller → Prop
  | .bind f profile => Binding s f ∧ profile = s.port.profile
  | .unbind _ => s.port.bound = false

def StageOk (s : System) : Stage → Prop
  | .idle =>
    Present s ∧
      (s.port.bound = true →
        Ready s ∧ s.port.usbDevicePlugged = true ∧ vdsIsValidProfile s.port.profile = true)
  | .resetting f | .creating f | .failing f => Binding s f ∧ Present s
  | .deleting child caller => CallerOk s caller ∧ Present s ∧ s.port.usbDevice = some child
  | .clearing child caller =>
    CallerOk s caller ∧ s.port.usbDevice = some child ∧ s.children child = none
  | .building f profile => Binding s f ∧ profile = s.port.profile ∧ s.port.usbDevice = none
  | .adding f profile rest =>
    Binding s f ∧ profile = s.port.profile ∧ Present s ∧ s.port.usbDevice.isSome ∧
      (∀ c child, s.children c = some child → child.profile = profile) ∧
      ∀ e, e ∉ rest → s.port.endpoints e = s.port.usbDevice
  | .plugging f => Binding s f ∧ Present s ∧ Ready s
  | .marking f =>
    Binding s f ∧ Present s ∧ Ready s ∧
      ∀ c child, s.children c = some child → child.plugged = true
  | .unbindReset _ | .unbindDelete _ => s.port.bound = false ∧ Present s

structure Consistent (s : System) : Prop where
  holder : s.port.bound = s.port.boundFile.isSome
  linked : Linked s
  stage : StageOk s s.stage

/-- A step that leaves the child alone. -/
theorem Linked.keep (linked : Linked s) (husb : t.port.usb = s.port.usb)
    (hchildren : t.children = s.children) (hcreated : t.created = s.created)
    (hmarking : ∀ f, s.stage ≠ .marking f) : Linked t := by
  simp only [PortState.usb, Prod.mk.injEq] at husb
  obtain ⟨husbDevice, hendpoints, hplugged, husbProfile, hvalid⟩ := husb
  refine ⟨?_, ?_, ?_, ?_, ?_, ?_, ?_⟩ <;>
    simp only [husbDevice, hendpoints, hplugged, husbProfile, hvalid, hchildren, hcreated]
  · exact linked.fresh
  · exact linked.only
  · exact linked.endpoint
  · exact linked.valid
  · exact linked.profile
  · exact linked.plugged
  · exact fun hunplugged _ => linked.unplugged hunplugged hmarking

theorem Present.keep (present : Present s) (husb : t.port.usb = s.port.usb)
    (hchildren : t.children = s.children) : Present t := by
  intro c hc
  rw [hchildren]
  exact present c ((congrArg Prod.fst husb).symm.trans hc)

theorem Ready.keep (ready : Ready s) (husb : t.port.usb = s.port.usb)
    (hprofile : t.port.profile = s.port.profile) : Ready t := by
  simp only [PortState.usb, Prod.mk.injEq] at husb
  simpa only [Ready, husb, hprofile] using ready

theorem Binding.keep (binding : Binding s f) (hprofile : t.port.profile = s.port.profile)
    (hbound : t.port.bound = true → s.port.bound = true ∧ t.port.boundFile = s.port.boundFile) :
    Binding t f where
  holder h := (hbound h).2.trans (binding.holder (hbound h).1)
  known := hprofile ▸ binding.known

/-- A step next to the active request, which may take the port from its holder. -/
theorem StageOk.keep {stage : Stage} (ok : StageOk s stage) (husb : t.port.usb = s.port.usb)
    (hchildren : t.children = s.children) (hprofile : t.port.profile = s.port.profile)
    (hbound : t.port.bound = true → s.port.bound = true ∧ t.port.boundFile = s.port.boundFile) :
    StageOk t stage := by
  have hfree : s.port.bound = false → t.port.bound = false := fun h =>
    Bool.eq_false_iff.mpr fun htrue => Bool.false_ne_true (h.symm.trans (hbound htrue).1)
  have hdevice : t.port.usbDevice = s.port.usbDevice := congrArg Prod.fst husb
  have hcaller : ∀ caller, CallerOk s caller → CallerOk t caller := by
    intro caller h
    cases caller with
    | bind f profile => exact ⟨h.1.keep hprofile hbound, h.2.trans hprofile.symm⟩
    | unbind f => exact hfree h
  cases stage with
  | idle =>
      refine ⟨ok.1.keep husb hchildren, fun h => ?_⟩
      obtain ⟨ready, plugged, known⟩ := ok.2 (hbound h).1
      exact ⟨ready.keep husb hprofile, (congrArg (·.2.2.1) husb).trans plugged,
        hprofile ▸ known⟩
  | resetting f => exact ⟨ok.1.keep hprofile hbound, ok.2.keep husb hchildren⟩
  | creating f => exact ⟨ok.1.keep hprofile hbound, ok.2.keep husb hchildren⟩
  | failing f => exact ⟨ok.1.keep hprofile hbound, ok.2.keep husb hchildren⟩
  | deleting child caller =>
      exact ⟨hcaller caller ok.1, ok.2.1.keep husb hchildren, hdevice.trans ok.2.2⟩
  | clearing child caller =>
      exact ⟨hcaller caller ok.1, hdevice.trans ok.2.1, (congrFun hchildren child).trans ok.2.2⟩
  | building f profile =>
      exact ⟨ok.1.keep hprofile hbound, ok.2.1.trans hprofile.symm, hdevice.trans ok.2.2⟩
  | adding f profile rest =>
      obtain ⟨binding, hp, present, some, profiles, added⟩ := ok
      refine ⟨binding.keep hprofile hbound, hp.trans hprofile.symm,
        present.keep husb hchildren, hdevice ▸ some, hchildren ▸ profiles, fun e he => ?_⟩
      rw [hdevice, ← added e he]
      exact congrFun (congrArg (·.2.1) husb) e
  | plugging f =>
      exact ⟨ok.1.keep hprofile hbound, ok.2.1.keep husb hchildren, ok.2.2.keep husb hprofile⟩
  | marking f =>
      exact ⟨ok.1.keep hprofile hbound, ok.2.1.keep husb hchildren,
        ok.2.2.1.keep husb hprofile, hchildren ▸ ok.2.2.2⟩
  | unbindReset f => exact ⟨hfree ok.1, ok.2.keep husb hchildren⟩
  | unbindDelete f => exact ⟨hfree ok.1, ok.2.keep husb hchildren⟩

/-- A step that keeps the stage, or ends the request, and leaves the child alone. -/
theorem Consistent.keep (consistent : Consistent s) (husb : t.port.usb = s.port.usb)
    (hchildren : t.children = s.children) (hcreated : t.created = s.created)
    (hholder : t.port.bound = t.port.boundFile.isSome) (hmarking : ∀ f, s.stage ≠ .marking f)
    (ok : StageOk t t.stage) : Consistent t :=
  ⟨hholder, consistent.linked.keep husb hchildren hcreated hmarking, ok⟩

theorem Consistent.new (enabled : Bool) : Consistent (.new enabled) where
  holder := rfl
  linked :=
    { fresh := fun _ _ => rfl
      only := fun _ _ h => nomatch h
      endpoint := fun _ _ h => nomatch h
      valid := fun h => nomatch h
      profile := fun h => nomatch h
      plugged := fun h => nomatch h
      unplugged := fun _ _ _ _ h => nomatch h }
  stage := show StageOk (.new enabled) .idle from ⟨fun _ h => (nomatch h), fun h => (nomatch h)⟩

theorem childProfile_eq {profile : UInt32} (known : vdsIsValidProfile profile = true) :
    childProfile profile = profile := if_pos known

/-- No child is left when the port has none. -/
theorem Linked.no_child (linked : Linked s) (h : s.port.usbDevice = none) (c : Nat) :
    s.children c = none := by
  cases hc : s.children c with
  | none => rfl
  | some child => exact nomatch h.symm.trans (linked.only c child hc)

theorem Consistent.ended (consistent : Consistent s) (hstage : s.stage = .idle)
    (file : Option Nat) (status : Status) : Consistent (s.complete file status) :=
  consistent.keep rfl rfl rfl consistent.holder (fun _ h => nomatch hstage.symm.trans h)
    (show StageOk s .idle from hstage ▸ consistent.stage)

theorem Consistent.bindPort (consistent : Consistent s) (hstage : s.stage = .idle)
    (file : Option Nat) (input : Option PortBind) : Consistent (s.bindPort file input) := by
  have ended := consistent.ended hstage
  have present : Present s := (show StageOk s .idle from hstage ▸ consistent.stage).1
  unfold System.bindPort
  split_ifs
  · exact ended _ _
  · split
    · exact ended _ _
    · rename_i bind
      split_ifs with hvalid
      · exact ended _ _
      · split
        · exact ended _ _
        · split_ifs
          · exact ended _ _
          · refine consistent.keep rfl rfl rfl rfl (fun _ h => nomatch hstage.symm.trans h) ?_
            have hknown : bind.valid = true := by simpa using hvalid
            simp only [PortBind.valid, Bool.and_eq_true] at hknown
            exact ⟨⟨fun _ => rfl, hknown.2⟩, present⟩

theorem Consistent.unbindPort (consistent : Consistent s) (hstage : s.stage = .idle)
    (file : Option Nat) : Consistent (s.unbindPort file) := by
  have ended := consistent.ended hstage
  have present : Present s := (show StageOk s .idle from hstage ▸ consistent.stage).1
  unfold System.unbindPort
  split_ifs
  · exact ended _ _
  · split
    · exact ended _ _
    · split_ifs
      · exact ended _ _
      · exact consistent.keep rfl rfl rfl rfl (fun _ h => nomatch hstage.symm.trans h)
          ⟨rfl, present⟩

theorem Consistent.fileCleanup (consistent : Consistent s) (f : Nat) :
    Consistent (s.fileCleanup f) := by
  unfold System.fileCleanup
  split_ifs
  · exact consistent
  · have linked := consistent.linked
    refine ⟨rfl, ⟨linked.fresh, linked.only, linked.endpoint, linked.valid, linked.profile,
      linked.plugged, linked.unplugged⟩, ?_⟩
    exact consistent.stage.keep rfl rfl rfl fun h => nomatch h
  · exact consistent

/-- The end of `VdsDeleteUsbChildDevice` without a child. -/
theorem Consistent.deleted {caller : Caller} (linked : Linked t)
    (hholder : t.port.bound = t.port.boundFile.isSome) (hcaller : CallerOk t caller)
    (hnone : t.port.usbDevice = none) (hmarking : ∀ f, t.stage ≠ .marking f) :
    Consistent (t.deleted true caller) := by
  have present : Present t := fun c hc => nomatch hnone.symm.trans hc
  cases caller with
  | bind f profile =>
      exact ⟨hholder, linked.keep rfl rfl rfl hmarking,
        hcaller.1.keep rfl fun h => ⟨h, rfl⟩, hcaller.2, hnone⟩
  | unbind f =>
      refine ⟨hholder, linked.keep rfl rfl rfl hmarking, present, fun h => ?_⟩
      exact absurd (hcaller.symm.trans h) Bool.false_ne_true

/-- The child is deleted. -/
theorem Linked.remove (linked : Linked s) {child : Nat} (h : s.port.usbDevice = some child)
    {stage : Stage} :
    Linked { s with children := Function.update s.children child none, stage := stage } := by
  have hkept : ∀ c, Function.update s.children child none c = none := by
    intro c
    by_cases hc : c = child
    · rw [hc, Function.update_self]
    · rw [Function.update_of_ne hc]
      cases hchild : s.children c with
      | none => rfl
      | some other => exact absurd (Option.some.inj ((linked.only c other hchild).symm.trans h)) hc
  exact
    { fresh := fun c _ => hkept c
      only := fun c _ hchild => nomatch (hkept c).symm.trans hchild
      endpoint := linked.endpoint
      valid := linked.valid
      profile := fun _ c _ hchild => nomatch (hkept c).symm.trans hchild
      plugged := fun hplugged =>
        ⟨(linked.plugged hplugged).1, fun c _ hchild => nomatch (hkept c).symm.trans hchild⟩
      unplugged := fun _ _ c _ hchild => nomatch (hkept c).symm.trans hchild }

/-- The fields about the child are cleared. -/
theorem Linked.clear (linked : Linked s) {child : Nat} (h : s.port.usbDevice = some child)
    (hnone : s.children child = none) : Linked (s.clearUsbDevice child) := by
  have hkept : ∀ c, s.children c = none := by
    intro c
    cases hchild : s.children c with
    | none => rfl
    | some other =>
        obtain rfl := Option.some.inj ((linked.only c other hchild).symm.trans h)
        exact nomatch hnone.symm.trans hchild
  rw [System.clearUsbDevice, if_pos h]
  exact
    { fresh := fun c _ => hkept c
      only := fun c _ hchild => nomatch (hkept c).symm.trans hchild
      endpoint := fun _ _ hc => nomatch hc
      valid := fun hvalid => nomatch hvalid
      profile := fun hvalid => nomatch hvalid
      plugged := fun hplugged => nomatch hplugged
      unplugged := fun _ _ c _ hchild => nomatch (hkept c).symm.trans hchild }

/-- The child is made. -/
theorem Linked.build (linked : Linked s) (h : s.port.usbDevice = none) {profile : UInt32}
    {stage : Stage} :
    Linked { s with
      port := { s.port with usbDevice := some s.created }
      children := Function.update s.children s.created (some ⟨profile, false⟩)
      created := s.created + 1
      stage := stage } := by
  have hchildren : ∀ c child,
      Function.update s.children s.created (some ⟨profile, false⟩) c = some child →
        c = s.created ∧ child = ⟨profile, false⟩ := by
    intro c child hchild
    by_cases hc : c = s.created
    · rw [hc, Function.update_self] at hchild
      exact ⟨hc, (Option.some.inj hchild).symm⟩
    · rw [Function.update_of_ne hc, linked.no_child h] at hchild
      exact nomatch hchild
  have hinvalid : s.port.usbProfileValid ≠ true := by
    intro hvalid
    simpa [h] using (linked.valid hvalid).1
  have hunplugged : s.port.usbDevicePlugged ≠ true := by
    intro hplugged
    simpa [h] using (linked.plugged hplugged).1
  refine
    { fresh := fun c hc => ?_
      only := fun c child hchild => congrArg some (hchildren c child hchild).1.symm
      endpoint := fun e c hc => nomatch h.symm.trans (linked.endpoint e c hc)
      valid := fun hvalid => absurd hvalid hinvalid
      profile := fun hvalid => absurd hvalid hinvalid
      plugged := fun hplugged => absurd hplugged hunplugged
      unplugged := fun _ _ c child hchild => by rw [(hchildren c child hchild).2] }
  have hc' : s.created + 1 ≤ c := hc
  exact (Function.update_of_ne (by omega) _ _).trans (linked.fresh c (by omega))

theorem Consistent.createUsbChildDevice (consistent : Consistent s)
    (hstage : s.stage = .creating f) : Consistent (s.createUsbChildDevice f) := by
  obtain ⟨binding, present⟩ : Binding s f ∧ Present s :=
    (show StageOk s (.creating f) from hstage ▸ consistent.stage)
  have hmarking : ∀ g, s.stage ≠ .marking g := fun _ h => nomatch hstage.symm.trans h
  unfold System.createUsbChildDevice System.deleteUsbChildDevice
  rw [childProfile_eq binding.known]
  dsimp only
  split
  · rename_i hnone
    exact consistent.keep rfl rfl rfl consistent.holder hmarking ⟨⟨binding.1, binding.2⟩, rfl, hnone⟩
  · rename_i child hsome
    split_ifs with hready
    · rw [Bool.and_eq_true, beq_iff_eq] at hready
      exact consistent.keep rfl rfl rfl consistent.holder hmarking
        ⟨⟨binding.1, binding.2⟩, present, hready⟩
    · exact consistent.keep rfl rfl rfl consistent.holder hmarking
        ⟨⟨⟨binding.1, binding.2⟩, rfl⟩, present, hsome⟩

/-- An endpoint of the child is made. -/
theorem Linked.addEndpoint (linked : Linked s) (hmarking : ∀ f, s.stage ≠ .marking f)
    (endpoint : Endpoint) {stage : Stage} :
    Linked { s with
      port :=
        { s.port with endpoints := Function.update s.port.endpoints endpoint s.port.usbDevice }
      stage := stage } where
  fresh := linked.fresh
  only := linked.only
  endpoint e c hc := by
    by_cases he : e = endpoint
    · simpa only [he, Function.update_self] using hc
    · exact linked.endpoint e c ((Function.update_of_ne he _ _).symm.trans hc)
  valid hvalid := by
    refine ⟨(linked.valid hvalid).1, fun e => ?_⟩
    by_cases he : e = endpoint
    · simp only [he, Function.update_self]
    · exact (Function.update_of_ne he _ _).trans ((linked.valid hvalid).2 e)
  profile := linked.profile
  plugged := linked.plugged
  unplugged hunplugged _ := linked.unplugged hunplugged hmarking

theorem Consistent.adding {profile : UInt32} {rest : List Endpoint} (consistent : Consistent s)
    (hstage : s.stage = .adding f profile rest) {ok : Bool} (h : s.advance ok = some t) :
    Consistent t := by
  have linked := consistent.linked
  have hmarking : ∀ g, s.stage ≠ .marking g := fun _ h => nomatch hstage.symm.trans h
  obtain ⟨binding, hprofile, present, hsome, profiles, added⟩ :
      StageOk s (.adding f profile rest) := hstage ▸ consistent.stage
  simp only [System.advance, hstage] at h
  cases rest with
  | nil =>
      obtain rfl := Option.some.inj h
      refine ⟨consistent.holder, ⟨linked.fresh, linked.only, linked.endpoint, fun _ => ?_,
        fun _ => profiles, linked.plugged, fun hunplugged _ => ?_⟩, ?_⟩
      · exact ⟨hsome, fun e => added e List.not_mem_nil⟩
      · exact linked.unplugged hunplugged hmarking
      · exact ⟨⟨binding.1, binding.2⟩, present, rfl, hprofile⟩
  | cons endpoint rest =>
      obtain rfl := Option.some.inj h
      unfold System.addEndpoint
      split_ifs
      · refine ⟨consistent.holder, linked.addEndpoint hmarking endpoint, ?_⟩
        refine ⟨⟨binding.1, binding.2⟩, hprofile, present, hsome, profiles, fun e he => ?_⟩
        by_cases hnew : e = endpoint
        · simp only [hnew, Function.update_self]
        · refine (Function.update_of_ne hnew _ _).trans (added e ?_)
          exact fun hmem => (List.mem_cons.mp hmem).elim hnew he
      · exact consistent.keep rfl rfl rfl consistent.holder hmarking
          ⟨⟨binding.1, binding.2⟩, present⟩

/-- The child is plugged in. -/
theorem Linked.plugIn (linked : Linked s) (h : s.port.usbDevicePlugged = false) (f : Nat) :
    Linked { s with
      children := fun c =>
        if s.port.usbDevice = some c then
          (s.children c).map fun child => { child with plugged := true }
        else
          s.children c
      stage := .marking f } := by
  have hchildren : ∀ c child,
      (if s.port.usbDevice = some c then
          (s.children c).map fun child => { child with plugged := true }
        else s.children c) = some child →
      ∃ before, s.children c = some before ∧ child = { before with plugged := true } := by
    intro c child hchild
    split_ifs at hchild with hc
    · obtain ⟨before, hbefore, rfl⟩ := Option.map_eq_some_iff.mp hchild
      exact ⟨before, hbefore, rfl⟩
    · exact absurd (linked.only c child hchild) hc
  exact
    { fresh := fun c hc => by simp only [linked.fresh c hc, Option.map_none, ite_self]
      only := fun c child hchild => by
        obtain ⟨before, hbefore, -⟩ := hchildren c child hchild
        exact linked.only c before hbefore
      endpoint := linked.endpoint
      valid := linked.valid
      profile := fun hvalid c child hchild => by
        obtain ⟨before, hbefore, rfl⟩ := hchildren c child hchild
        exact linked.profile hvalid c before hbefore
      plugged := fun hplugged => absurd (h.symm.trans hplugged) Bool.false_ne_true
      unplugged := fun _ hmarking => absurd rfl (hmarking f) }

theorem Consistent.plugging (consistent : Consistent s) (hstage : s.stage = .plugging f)
    (ok : Bool) : Consistent (s.plugIn f ok) := by
  have hmarking : ∀ g, s.stage ≠ .marking g := fun _ h => nomatch hstage.symm.trans h
  obtain ⟨binding, present, ready⟩ : StageOk s (.plugging f) := hstage ▸ consistent.stage
  unfold System.plugIn
  split_ifs with hplugged
  · exact consistent.keep rfl rfl rfl consistent.holder hmarking
      ⟨present, fun _ => ⟨ready, hplugged, binding.known⟩⟩
  · refine ⟨consistent.holder, consistent.linked.plugIn (Bool.eq_false_iff.mpr hplugged) f, ?_⟩
    refine ⟨⟨binding.1, binding.2⟩, fun c hc => ?_, ready, fun c child hchild => ?_⟩
    · have hchild := present c hc
      dsimp only at hc ⊢
      rw [if_pos hc, Option.isSome_map]
      exact hchild
    · dsimp only at hchild
      split_ifs at hchild with hc
      · obtain ⟨before, -, rfl⟩ := Option.map_eq_some_iff.mp hchild
        rfl
      · exact absurd (consistent.linked.only c child hchild) hc
  · exact consistent.keep rfl rfl rfl consistent.holder hmarking ⟨⟨binding.1, binding.2⟩, present⟩

theorem Consistent.marking (consistent : Consistent s) (hstage : s.stage = .marking f)
    (file : Option Nat) (status : Status) : Consistent (s.markPlugged.complete file status) := by
  have linked := consistent.linked
  obtain ⟨binding, present, ready, plugged⟩ : StageOk s (.marking f) := hstage ▸ consistent.stage
  refine ⟨consistent.holder, ⟨linked.fresh, linked.only, linked.endpoint, linked.valid,
    linked.profile, fun _ => ⟨(linked.valid ready.1).1, plugged⟩, fun h => nomatch h⟩, ?_⟩
  exact ⟨present, fun _ => ⟨ready, rfl, binding.known⟩⟩

theorem Consistent.failing (consistent : Consistent s) (hstage : s.stage = .failing f)
    (file : Option Nat) (status : Status) :
    Consistent ((s.undoBind f).complete file status) := by
  have hmarking : ∀ g, s.stage ≠ .marking g := fun _ h => nomatch hstage.symm.trans h
  obtain ⟨binding, present⟩ : Binding s f ∧ Present s :=
    (show StageOk s (.failing f) from hstage ▸ consistent.stage)
  unfold System.undoBind
  split_ifs with hfile
  · exact consistent.keep rfl rfl rfl rfl hmarking ⟨present, fun h => nomatch h⟩
  · refine consistent.keep rfl rfl rfl consistent.holder hmarking ⟨present, fun h => ?_⟩
    exact absurd (binding.holder h) hfile

theorem Consistent.advance (consistent : Consistent s) {ok : Bool}
    (h : s.advance ok = some t) : Consistent t := by
  have linked := consistent.linked
  have holder := consistent.holder
  have hok : StageOk s s.stage := consistent.stage
  cases hstage : s.stage with
  | idle => simp [System.advance, hstage] at h
  | resetting f =>
      simp only [System.advance, hstage, Option.some.injEq] at h hok
      subst h
      exact consistent.keep rfl rfl rfl holder (fun _ h => nomatch hstage.symm.trans h)
        ⟨⟨hok.1.1, hok.1.2⟩, hok.2⟩
  | creating f =>
      simp only [System.advance, hstage, Option.some.injEq] at h
      exact h ▸ consistent.createUsbChildDevice hstage
  | deleting child caller =>
      simp only [System.advance, hstage, Option.some.injEq] at h hok
      obtain ⟨hcaller, present, hdevice⟩ := hok
      have hmarking : ∀ g, s.stage ≠ .marking g := fun _ h => nomatch hstage.symm.trans h
      subst h
      split_ifs
      · refine ⟨holder, linked.remove hdevice, ?_, hdevice, Function.update_self ..⟩
        cases caller with
        | bind f profile => exact ⟨⟨hcaller.1.1, hcaller.1.2⟩, hcaller.2⟩
        | unbind f => exact hcaller
      · cases caller with
        | bind f profile =>
            exact consistent.keep rfl rfl rfl holder hmarking
              ⟨⟨hcaller.1.1, hcaller.1.2⟩, present⟩
        | unbind f =>
            refine consistent.keep rfl rfl rfl holder hmarking ⟨present, fun h => ?_⟩
            exact absurd (hcaller.symm.trans h) Bool.false_ne_true
  | clearing child caller =>
      simp only [System.advance, hstage, Option.some.injEq] at h hok
      obtain ⟨hcaller, hdevice, hnone⟩ := hok
      have hcleared := linked.clear hdevice hnone
      rw [System.clearUsbDevice, if_pos hdevice] at h hcleared
      subst h
      refine Consistent.deleted hcleared holder ?_ rfl fun _ h => nomatch hstage.symm.trans h
      cases caller with
      | bind f profile => exact ⟨⟨hcaller.1.1, hcaller.1.2⟩, hcaller.2⟩
      | unbind f => exact hcaller
  | building f profile =>
      simp only [System.advance, hstage, Option.some.injEq] at h hok
      obtain ⟨binding, hprofile, hnone⟩ := hok
      have hmarking : ∀ g, s.stage ≠ .marking g := fun _ h => nomatch hstage.symm.trans h
      subst h
      unfold System.build
      split_ifs
      · refine ⟨holder, linked.build hnone, ⟨binding.1, binding.2⟩, hprofile, ?_, rfl, ?_, ?_⟩
        · intro c hc
          obtain rfl := Option.some.inj hc
          simp
        · intro c child hchild
          dsimp only at hchild
          by_cases hc : c = s.created
          · rw [hc, Function.update_self] at hchild
            exact (Option.some.inj hchild) ▸ rfl
          · rw [Function.update_of_ne hc, linked.no_child hnone] at hchild
            exact nomatch hchild
        · intro e he
          exact absurd (by cases e <;> decide) he
      · refine consistent.keep rfl rfl rfl holder hmarking ⟨⟨binding.1, binding.2⟩, fun c hc => ?_⟩
        exact nomatch hnone.symm.trans hc
  | adding f profile rest => exact consistent.adding hstage h
  | plugging f =>
      simp only [System.advance, hstage, Option.some.injEq] at h
      exact h ▸ consistent.plugging hstage ok
  | marking f =>
      simp only [System.advance, hstage, Option.some.injEq] at h
      exact h ▸ consistent.marking hstage _ _
  | failing f =>
      simp only [System.advance, hstage, Option.some.injEq] at h
      exact h ▸ consistent.failing hstage _ _
  | unbindReset f =>
      simp only [System.advance, hstage, Option.some.injEq] at h hok
      subst h
      exact consistent.keep rfl rfl rfl holder (fun _ h => nomatch hstage.symm.trans h) hok
  | unbindDelete f =>
      simp only [System.advance, hstage, Option.some.injEq] at h hok
      have hmarking : ∀ g, s.stage ≠ .marking g := fun _ h => nomatch hstage.symm.trans h
      subst h
      unfold System.deleteUsbChildDevice
      split
      · rename_i hnone
        exact Consistent.deleted linked holder hok.1 hnone hmarking
      · rename_i child hsome
        exact consistent.keep rfl rfl rfl holder hmarking ⟨hok.1, hok.2, hsome⟩

theorem Consistent.step (consistent : Consistent s) {action : Action}
    (h : step s action = some t) : Consistent t := by
  cases action with
  | bind file input =>
      obtain ⟨hstage, rfl⟩ := Option.ite_some_none_eq_some.mp h
      exact consistent.bindPort hstage file input
  | unbind file =>
      obtain ⟨hstage, rfl⟩ := Option.ite_some_none_eq_some.mp h
      exact consistent.unbindPort hstage file
  | advance ok => exact consistent.advance h
  | cleanup file =>
      obtain rfl := Option.some.inj h
      exact consistent.fileCleanup file
  | cleanupReset =>
      obtain ⟨-, ht⟩ := Option.ite_none_left_eq_some.mp h
      obtain rfl := Option.some.inj ht
      have linked := consistent.linked
      refine ⟨consistent.holder, ⟨linked.fresh, linked.only, linked.endpoint, linked.valid,
        linked.profile, linked.plugged, linked.unplugged⟩, ?_⟩
      exact consistent.stage.keep rfl rfl rfl fun h => ⟨h, rfl⟩

theorem Consistent.run {enabled : Bool} {actions : List Action}
    (run : Run PortBindings.step (.new enabled) actions t) : Consistent t :=
  run.invariant (fun _ _ _ consistent _ h => consistent.step h) (.new enabled)

end Consistency

section Serving

variable {s t u : System} {f : Nat}

/-- The port has one child. It is plugged in with `profile` and all its endpoints. -/
structure Serves (s : System) (child : Nat) (profile : UInt32) : Prop where
  usbDevice : s.port.usbDevice = some child
  children : ∀ c, s.children c = if c = child then some ⟨profile, true⟩ else none
  endpoints : ∀ e, s.port.endpoints e = some child

/-- What `VdsCompletePortInfo` says about the child is so. -/
structure Reported (s : System) : Prop where
  plugged : s.portInfoFlags &&& vdsPortInfoUsbPlugged ≠ 0 ↔
    ∃ c child, s.children c = some child ∧ child.plugged = true
  profile : s.portInfoFlags &&& vdsPortInfoUsbProfileValid ≠ 0 →
    ∃ c child, s.children c = some child ∧ child.profile = s.port.usbProfile

theorem portInfoFlags_usbPlugged (s : System) :
    s.portInfoFlags &&& vdsPortInfoUsbPlugged ≠ 0 ↔ s.port.usbDevicePlugged = true := by
  unfold System.portInfoFlags
  cases s.enabled <;> cases s.port.bound <;> cases s.port.usbDevicePlugged <;>
    cases s.port.usbProfileValid <;> decide

theorem portInfoFlags_usbProfileValid (s : System) :
    s.portInfoFlags &&& vdsPortInfoUsbProfileValid ≠ 0 ↔ s.port.usbProfileValid = true := by
  unfold System.portInfoFlags
  cases s.enabled <;> cases s.port.bound <;> cases s.port.usbDevicePlugged <;>
    cases s.port.usbProfileValid <;> decide

theorem Linked.child_eq (linked : Linked s) {c d : Nat} (hc : (s.children c).isSome)
    (hd : (s.children d).isSome) : c = d := by
  obtain ⟨child, hchild⟩ := Option.isSome_iff_exists.mp hc
  obtain ⟨other, hother⟩ := Option.isSome_iff_exists.mp hd
  exact Option.some.inj ((linked.only c child hchild).symm.trans (linked.only d other hother))

theorem Consistent.reported (consistent : Consistent s) (hidle : s.stage = .idle) :
    Reported s := by
  have linked := consistent.linked
  have present : Present s := (show StageOk s .idle from hidle ▸ consistent.stage).1
  have hchild : s.port.usbDevice.isSome → ∃ c child, s.children c = some child := by
    intro hsome
    obtain ⟨c, hc⟩ := Option.isSome_iff_exists.mp hsome
    exact ⟨c, Option.isSome_iff_exists.mp (present c hc)⟩
  constructor
  · rw [portInfoFlags_usbPlugged]
    constructor
    · intro hplugged
      obtain ⟨c, child, hc⟩ := hchild (linked.plugged hplugged).1
      exact ⟨c, child, hc, (linked.plugged hplugged).2 c child hc⟩
    · rintro ⟨c, child, hc, hplugged⟩
      by_contra hunplugged
      have := linked.unplugged (Bool.eq_false_iff.mpr hunplugged)
        (fun _ h => nomatch hidle.symm.trans h) c child hc
      exact Bool.false_ne_true (this.symm.trans hplugged)
  · rw [portInfoFlags_usbProfileValid]
    intro hvalid
    obtain ⟨c, child, hc⟩ := hchild (linked.valid hvalid).1
    exact ⟨c, child, hc, linked.profile hvalid c child hc⟩

theorem Consistent.serves (consistent : Consistent s) (hidle : s.stage = .idle)
    (hbound : s.port.bound = true) :
    vdsIsValidProfile s.port.profile = true ∧ ∃ child, Serves s child s.port.profile := by
  have linked := consistent.linked
  obtain ⟨present, hheld⟩ : StageOk s .idle := hidle ▸ consistent.stage
  obtain ⟨⟨hvalid, hprofile⟩, hplugged, hknown⟩ := hheld hbound
  obtain ⟨child, hdevice⟩ := Option.isSome_iff_exists.mp (linked.valid hvalid).1
  obtain ⟨view, hview⟩ := Option.isSome_iff_exists.mp (present child hdevice)
  refine ⟨hknown, child, hdevice, fun c => ?_, fun e => ?_⟩
  · split_ifs with hc
    · have hviewProfile := (linked.profile hvalid child view hview).trans hprofile
      have hviewPlugged := (linked.plugged hplugged).2 child view hview
      rw [hc, hview, ← hviewProfile, ← hviewPlugged]
    · cases hother : s.children c with
      | none => rfl
      | some other =>
          exact absurd (Option.some.inj ((linked.only c other hother).symm.trans hdevice)) hc
  · exact ((linked.valid hvalid).2 e).trans hdevice

/-- In every run the port has at most one child, and between requests its information about the
child is right. A held port then serves its profile. -/
theorem held_port_serves {enabled : Bool} {actions : List Action}
    (run : Run step (.new enabled) actions t) :
    (∀ c d, (t.children c).isSome → (t.children d).isSome → c = d) ∧
      t.port.bound = t.port.boundFile.isSome ∧
      (t.stage = .idle → Reported t ∧
        (t.port.bound = true →
          vdsIsValidProfile t.port.profile = true ∧ ∃ child, Serves t child t.port.profile)) := by
  have consistent := Consistent.run run
  refine ⟨fun c d => consistent.linked.child_eq, consistent.holder, fun hidle => ?_⟩
  exact ⟨consistent.reported hidle, consistent.serves hidle⟩

def validBind (profile : UInt32) : PortBind := ⟨vdsPortBindVersion, vdsPortBindSize, profile, 0⟩

def steps (count : Nat) : List Action := List.replicate count (.advance true)

/-- File 1 binds the port and is closed. File 2 binds it with the other profile, while the reset
of the cleanup is late. -/
def boundTwice : List Action :=
  [.bind (some 1) (some (validBind 0))] ++ steps 11 ++
    [.bind (some 2) (some (validBind 1)), .cleanup 1,
      .bind (some 2) (some (validBind 1))] ++ steps 4 ++ [.cleanupReset] ++ steps 9

theorem boundTwice_serves : ∃ t, Run step (.new true) boundTwice t ∧
    t.stage = .idle ∧ t.port.boundFile = some 2 ∧
    t.completions = [(some 1, .success), (some 2, .deviceBusy), (some 2, .success)] ∧
    ∃ child, Serves t child 1 := by
  have hrun : ∃ t, Run step (.new true) boundTwice t ∧
      (t.stage = .idle ∧ t.port.boundFile = some 2 ∧
        t.completions = [(some 1, .success), (some 2, .deviceBusy), (some 2, .success)] ∧
        t.port.profile = 1) :=
    exists_run_of_execute (by decide +kernel)
  obtain ⟨t, run, hidle, hfile, hcompletions, hprofile⟩ := hrun
  obtain ⟨-, hbound, hserves⟩ := held_port_serves run
  rw [hfile] at hbound
  exact ⟨t, run, hidle, hfile, hcompletions, hprofile ▸ ((hserves hidle).2 hbound).2⟩

end Serving

section Leases

variable {s t u : System} {f : Nat} {profile : UInt32} {seen : List (Option Nat × Status)}

/-- The active request is a bind of `f`. -/
def Stage.Binds (f : Nat) : Stage → Prop
  | .idle | .unbindReset _ | .unbindDelete _ => False
  | .resetting g | .creating g | .building g _ | .adding g _ _ | .plugging g | .marking g
  | .failing g => g = f
  | .deleting _ caller | .clearing _ caller => ∃ p, caller = .bind f p

/-- The file of an action that comes from a file. -/
def Action.file : Action → Option Nat
  | .bind file _ | .unbind file => file
  | .cleanup file => some file
  | .advance _ | .cleanupReset => none

/-- `f` holds the port with `profile`. -/
structure HeldBy (s : System) (f : Nat) (profile : UInt32) : Prop where
  enabled : s.enabled = true
  bound : s.port.bound = true
  boundFile : s.port.boundFile = some f
  profile : s.port.profile = profile

/-- Where a bind of `f` is: still active, or answered, and then every other file is refused. -/
inductive Answered (f : Nat) (stage : Stage) : List (Option Nat × Status) → Prop
  | active (binds : stage.Binds f) : Answered f stage []
  | held {refused : List (Option Nat × Status)} (idle : stage = .idle)
      (others : ∀ entry ∈ refused, entry.2 ≠ .success) :
      Answered f stage ((some f, .success) :: refused)

/-- The completions since the bind. The bind has failed, or `f` holds the port. -/
def Lease (seen : List (Option Nat × Status)) (f : Nat) (profile : UInt32) (s : System) : Prop :=
  ∃ since, s.completions = seen ++ since ∧
    ((some f, .failed) ∈ since ∨ HeldBy s f profile ∧ Answered f s.stage since)

/-- What one step of an active bind does to its holder and its answer. -/
theorem advance_of_binds {ok : Bool} (h : s.advance ok = some t) (binds : s.stage.Binds f) :
    t.completions = s.completions ++ [(some f, .failed)] ∨
      (t.enabled = s.enabled ∧ t.port.bound = s.port.bound ∧
        t.port.boundFile = s.port.boundFile ∧ t.port.profile = s.port.profile) ∧
      (t.stage.Binds f ∧ t.completions = s.completions ∨
        t.stage = .idle ∧ t.completions = s.completions ++ [(some f, .success)]) := by
  cases hstage : s.stage with
  | idle => exact absurd binds (by rw [hstage]; exact id)
  | unbindReset g => exact absurd binds (by rw [hstage]; exact id)
  | unbindDelete g => exact absurd binds (by rw [hstage]; exact id)
  | resetting g =>
      simp only [System.advance, hstage, Option.some.injEq] at h binds
      subst h
      exact .inr ⟨⟨rfl, rfl, rfl, rfl⟩, .inl ⟨binds, rfl⟩⟩
  | creating g =>
      simp only [System.advance, hstage, Option.some.injEq] at h binds
      subst h
      refine .inr ?_
      unfold System.createUsbChildDevice System.deleteUsbChildDevice
      dsimp only
      split
      · exact ⟨⟨rfl, rfl, rfl, rfl⟩, .inl ⟨binds, rfl⟩⟩
      · split_ifs
        · exact ⟨⟨rfl, rfl, rfl, rfl⟩, .inl ⟨binds, rfl⟩⟩
        · exact ⟨⟨rfl, rfl, rfl, rfl⟩, .inl ⟨⟨_, congrArg (Caller.bind · _) binds⟩, rfl⟩⟩
  | deleting child caller =>
      simp only [System.advance, hstage, Option.some.injEq] at h binds
      obtain ⟨p, rfl⟩ := binds
      subst h
      split_ifs
      · exact .inr ⟨⟨rfl, rfl, rfl, rfl⟩, .inl ⟨⟨p, rfl⟩, rfl⟩⟩
      · exact .inr ⟨⟨rfl, rfl, rfl, rfl⟩, .inl ⟨rfl, rfl⟩⟩
  | clearing child caller =>
      simp only [System.advance, hstage, Option.some.injEq] at h binds
      obtain ⟨p, rfl⟩ := binds
      subst h
      unfold System.clearUsbDevice
      split_ifs <;> exact .inr ⟨⟨rfl, rfl, rfl, rfl⟩, .inl ⟨rfl, rfl⟩⟩
  | building g p =>
      simp only [System.advance, hstage, Option.some.injEq] at h binds
      subst h
      unfold System.build
      split_ifs <;> exact .inr ⟨⟨rfl, rfl, rfl, rfl⟩, .inl ⟨binds, rfl⟩⟩
  | adding g p rest =>
      simp only [hstage] at binds
      cases rest with
      | nil =>
          simp only [System.advance, hstage, Option.some.injEq] at h
          subst h
          exact .inr ⟨⟨rfl, rfl, rfl, rfl⟩, .inl ⟨binds, rfl⟩⟩
      | cons endpoint rest =>
          simp only [System.advance, hstage, Option.some.injEq] at h
          subst h
          unfold System.addEndpoint
          split_ifs <;> exact .inr ⟨⟨rfl, rfl, rfl, rfl⟩, .inl ⟨binds, rfl⟩⟩
  | plugging g =>
      simp only [System.advance, hstage, Option.some.injEq] at h binds
      subst h
      unfold System.plugIn
      split_ifs
      · exact .inr ⟨⟨rfl, rfl, rfl, rfl⟩, .inr ⟨rfl, binds ▸ rfl⟩⟩
      · exact .inr ⟨⟨rfl, rfl, rfl, rfl⟩, .inl ⟨binds, rfl⟩⟩
      · exact .inr ⟨⟨rfl, rfl, rfl, rfl⟩, .inl ⟨binds, rfl⟩⟩
  | marking g =>
      simp only [System.advance, hstage, Option.some.injEq] at h binds
      subst h
      exact .inr ⟨⟨rfl, rfl, rfl, rfl⟩, .inr ⟨rfl, binds ▸ rfl⟩⟩
  | failing g =>
      simp only [System.advance, hstage, Option.some.injEq] at h binds
      subst h
      unfold System.undoBind
      split_ifs <;> exact .inl (binds ▸ rfl)

theorem deleted_completions (s : System) (ok : Bool) (caller : Caller) :
    s.completions <+: (s.deleted ok caller).completions := by
  cases caller with
  | bind f profile => exact List.prefix_refl _
  | unbind f => exact List.prefix_append ..

theorem deleteUsbChildDevice_completions (s : System) (caller : Caller) :
    s.completions <+: (s.deleteUsbChildDevice caller).completions := by
  unfold System.deleteUsbChildDevice
  split
  · exact deleted_completions s true caller
  · exact List.prefix_refl _

/-- The answers stay. -/
theorem completions_of_advance {ok : Bool} (h : s.advance ok = some t) :
    s.completions <+: t.completions := by
  unfold System.advance at h
  split at h
  · exact nomatch h
  all_goals obtain rfl := Option.some.inj h
  · exact List.prefix_refl _
  · unfold System.createUsbChildDevice
    dsimp only
    split
    · exact List.prefix_refl _
    · split_ifs
      · exact List.prefix_refl _
      · exact deleteUsbChildDevice_completions s _
  · split_ifs
    · exact List.prefix_refl _
    · exact deleted_completions s _ _
  · refine .trans ?_ (deleted_completions _ true _)
    unfold System.clearUsbDevice
    split_ifs <;> exact List.prefix_refl _
  · unfold System.build
    split_ifs <;> exact List.prefix_refl _
  · exact List.prefix_refl _
  · unfold System.addEndpoint
    split_ifs <;> exact List.prefix_refl _
  · unfold System.plugIn
    split_ifs
    · exact List.prefix_append ..
    · exact List.prefix_refl _
    · exact List.prefix_refl _
  · exact List.prefix_append ..
  · unfold System.undoBind
    split_ifs <;> exact List.prefix_append ..
  · exact List.prefix_refl _
  · exact deleteUsbChildDevice_completions _ _

theorem bindPort_completions (s : System) (file : Option Nat) (input : Option PortBind) :
    s.completions <+: (s.bindPort file input).completions := by
  unfold System.bindPort
  repeat' split
  all_goals first | exact List.prefix_append .. | exact List.prefix_refl _

theorem unbindPort_completions (s : System) (file : Option Nat) :
    s.completions <+: (s.unbindPort file).completions := by
  unfold System.unbindPort
  repeat' split
  all_goals first | exact List.prefix_append .. | exact List.prefix_refl _

theorem completions_of_step {action : Action} (h : step s action = some t) :
    s.completions <+: t.completions := by
  cases action with
  | bind file input =>
      obtain ⟨-, rfl⟩ := Option.ite_some_none_eq_some.mp h
      exact bindPort_completions s file input
  | unbind file =>
      obtain ⟨-, rfl⟩ := Option.ite_some_none_eq_some.mp h
      exact unbindPort_completions s file
  | advance ok => exact completions_of_advance h
  | cleanup file =>
      obtain rfl := Option.some.inj h
      unfold System.fileCleanup
      split_ifs <;> exact List.prefix_refl _
  | cleanupReset =>
      obtain ⟨-, ht⟩ := Option.ite_none_left_eq_some.mp h
      obtain rfl := Option.some.inj ht
      exact List.prefix_refl _

/-- A bind by another file is refused. -/
theorem HeldBy.bindPort (held : HeldBy s f profile) {file : Option Nat} (hfile : file ≠ some f)
    (input : Option PortBind) :
    ∃ status, status ≠ .success ∧ s.bindPort file input = s.complete file status := by
  have henabled : ¬(!s.enabled) = true := by simp [held.enabled]
  unfold System.bindPort
  rw [if_neg henabled]
  split
  · exact ⟨_, by decide, rfl⟩
  · split_ifs
    · exact ⟨_, by decide, rfl⟩
    · split
      · exact ⟨_, by decide, rfl⟩
      · rename_i g
        have hother : (s.port.bound && s.port.boundFile != some g) = true := by
          rw [held.bound, held.boundFile, Bool.true_and, bne_iff_ne]
          exact hfile.symm
        rw [if_pos hother]
        exact ⟨_, by decide, rfl⟩

theorem HeldBy.unbindPort (held : HeldBy s f profile) {file : Option Nat}
    (hfile : file ≠ some f) :
    ∃ status, status ≠ .success ∧ s.unbindPort file = s.complete file status := by
  have henabled : ¬(!s.enabled) = true := by simp [held.enabled]
  unfold System.unbindPort
  rw [if_neg henabled]
  split
  · exact ⟨_, by decide, rfl⟩
  · rename_i g
    have hother : (s.port.bound && s.port.boundFile != some g) = true := by
      rw [held.bound, held.boundFile, Bool.true_and, bne_iff_ne]
      exact hfile.symm
    rw [if_pos hother]
    exact ⟨_, by decide, rfl⟩

theorem HeldBy.fileCleanup (held : HeldBy s f profile) {file : Nat} (hfile : some file ≠ some f) :
    s.fileCleanup file = s := by
  have hother : ¬(s.port.bound && s.port.boundFile == some file) = true := by
    rw [held.bound, held.boundFile, Bool.true_and, beq_iff_eq]
    exact hfile.symm
  unfold System.fileCleanup
  rw [if_neg hother, ite_self]

/-- A request of another file ends at once. -/
theorem Answered.refuse {since : List (Option Nat × Status)} {stage : Stage}
    (answered : Answered f stage since) (hidle : stage = .idle) {file : Option Nat}
    {status : Status} (hstatus : status ≠ .success) :
    Answered f .idle (since ++ [(file, status)]) := by
  cases answered with
  | active binds => exact absurd binds (hidle ▸ id)
  | held idle others =>
      refine .held rfl fun entry hentry => ?_
      rcases List.mem_append.mp hentry with hentry | hentry
      · exact others entry hentry
      · exact (List.mem_singleton.mp hentry) ▸ hstatus

/-- A step of the environment or of another file. -/
theorem Lease.step (lease : Lease seen f profile s) {action : Action}
    (hfile : action.file ≠ some f) (h : step s action = some t) : Lease seen f profile t := by
  obtain ⟨since, hsince, hfailed | ⟨held, answered⟩⟩ := lease
  · obtain ⟨more, hmore⟩ := completions_of_step h
    refine ⟨since ++ more, ?_, .inl (List.mem_append_left _ hfailed)⟩
    rw [← hmore, hsince, List.append_assoc]
  have hrefused : ∀ file status, status ≠ .success → s.stage = .idle →
      Lease seen f profile (s.complete file status) := by
    intro file status hstatus hidle
    refine ⟨since ++ [(file, status)], ?_, .inr ⟨?_, answered.refuse hidle hstatus⟩⟩
    · exact (congrArg (· ++ [(file, status)]) hsince).trans (List.append_assoc ..)
    · exact ⟨held.1, held.2, held.3, held.4⟩
  cases action with
  | bind file input =>
      obtain ⟨hidle, rfl⟩ := Option.ite_some_none_eq_some.mp h
      obtain ⟨status, hstatus, heq⟩ := held.bindPort hfile input
      exact heq ▸ hrefused file status hstatus hidle
  | unbind file =>
      obtain ⟨hidle, rfl⟩ := Option.ite_some_none_eq_some.mp h
      obtain ⟨status, hstatus, heq⟩ := held.unbindPort hfile
      exact heq ▸ hrefused file status hstatus hidle
  | advance ok =>
      cases answered with
      | held idle others => simp [PortBindings.step, System.advance, idle] at h
      | active binds =>
          rw [List.append_nil] at hsince
          rcases advance_of_binds h binds with hfailed | ⟨hkept, hanswer⟩
          · exact ⟨_, hfailed.trans (hsince ▸ rfl), .inl (List.mem_singleton_self _)⟩
          have heldNext : HeldBy t f profile :=
            ⟨hkept.1.trans held.1, hkept.2.1.trans held.2, hkept.2.2.1.trans held.3,
              hkept.2.2.2.trans held.4⟩
          rcases hanswer with ⟨hbinds, hcompletions⟩ | ⟨hidle, hcompletions⟩
          · exact ⟨[], hcompletions.trans (hsince.trans (List.append_nil _).symm),
              .inr ⟨heldNext, .active hbinds⟩⟩
          · exact ⟨[(some f, .success)], hcompletions.trans (hsince ▸ rfl),
              .inr ⟨heldNext, .held hidle fun _ hentry => nomatch hentry⟩⟩
  | cleanup file =>
      obtain rfl := Option.some.inj h
      rw [held.fileCleanup hfile]
      exact ⟨since, hsince, .inr ⟨held, answered⟩⟩
  | cleanupReset =>
      obtain ⟨-, ht⟩ := Option.ite_none_left_eq_some.mp h
      obtain rfl := Option.some.inj ht
      exact ⟨since, hsince, .inr ⟨⟨held.1, held.2, held.3, held.4⟩, answered⟩⟩

/-- The first block of a valid bind takes a port that no other file holds. -/
theorem bindPort_takes (henabled : s.enabled = true) {input : PortBind}
    (hvalid : input.valid = true) (hfree : s.port.bound = true → s.port.boundFile = some f) :
    s.bindPort (some f) (some input) =
      { s with
        port := { s.port with profile := input.profile, bound := true, boundFile := some f }
        stage := .resetting f } := by
  have hmine : ¬(s.port.bound && s.port.boundFile != some f) = true := by
    rw [Bool.and_eq_true, bne_iff_ne]
    exact fun h => h.2 (hfree h.1)
  simp only [System.bindPort, henabled, hvalid, Bool.not_true, Bool.false_eq_true, if_false,
    if_neg hmine]

/-- A file that binds a port that no other file holds is answered once. Either a call of the
framework fails, or the file keeps the port, with its profile served, against every request of
every other file, until it asks for something itself or is closed. -/
theorem bind_keeps_port {enabled : Bool} {before after : List Action} {input : PortBind}
    (reach : Run step (.new enabled) before s) (henabled : s.enabled = true)
    (hvalid : input.valid = true)
    (hfree : s.port.bound = true → s.port.boundFile = some f)
    (hbind : step s (.bind (some f) (some input)) = some u)
    (others : ∀ action ∈ after, action.file ≠ some f) (run : Run step u after t) :
    ∃ since, t.completions = s.completions ++ since ∧
      ((some f, .failed) ∈ since ∨
        HeldBy t f input.profile ∧ Answered f t.stage since ∧
          (t.stage = .idle → ∃ child, Serves t child input.profile)) := by
  have start : Lease s.completions f input.profile u := by
    obtain rfl := (Option.ite_some_none_eq_some.mp hbind).2
    rw [bindPort_takes henabled hvalid hfree]
    exact ⟨[], (List.append_nil _).symm, .inr ⟨⟨henabled, rfl, rfl, rfl⟩, .active rfl⟩⟩
  have lease : Lease s.completions f input.profile t :=
    (GuardedRun.of_forall run others).invariant
      (fun _ _ _ lease hfile h => Lease.step lease hfile h) start
  have consistent : Consistent t := by
    refine run.invariant (fun _ _ _ consistent _ h => consistent.step h) ?_
    exact (Consistent.run reach).step hbind
  obtain ⟨since, hsince, hfailed | ⟨held, answered⟩⟩ := lease
  · exact ⟨since, hsince, .inl hfailed⟩
  · refine ⟨since, hsince, .inr ⟨held, answered, fun hidle => ?_⟩⟩
    exact held.profile ▸ (consistent.serves hidle held.bound).2

/-- File 2 tries to bind and to unbind the port, and is closed. -/
def refusedTwice : List Action :=
  steps 11 ++ [.bind (some 2) (some (validBind 0)), .unbind (some 2), .cleanup 2]

theorem refusedTwice_keeps_port : ∃ s t,
    step (.new true) (.bind (some 1) (some (validBind 1))) = some s ∧
      Run step s refusedTwice t ∧ (∀ action ∈ refusedTwice, action.file ≠ some 1) ∧
        t.completions = [(some 1, .success), (some 2, .deviceBusy), (some 2, .accessDenied)] ∧
        HeldBy t 1 1 ∧ ∃ child, Serves t child 1 := by
  have hvalid : (validBind 1).valid = true := by decide
  have hfree : ((System.new true).port.bound = true →
      (System.new true).port.boundFile = some 1) := fun h => nomatch h
  have hothers : ∀ action ∈ refusedTwice, action.file ≠ some 1 := by decide
  have hrun : ∃ t, Run step ((System.new true).bindPort (some 1) (some (validBind 1)))
      refusedTwice t ∧ (t.stage = .idle ∧
        t.completions = [(some 1, .success), (some 2, .deviceBusy), (some 2, .accessDenied)]) :=
    exists_run_of_execute (by decide +kernel)
  obtain ⟨t, run, hidle, hcompletions⟩ := hrun
  obtain ⟨since, hsince, hkeeps⟩ :=
    bind_keeps_port (.nil (System.new true)) rfl hvalid hfree rfl hothers run
  have hall : since = t.completions := hsince.symm
  rcases hkeeps with hfailed | ⟨held, -, hserves⟩
  · rw [hall, hcompletions] at hfailed
    exact absurd hfailed (by decide)
  · exact ⟨_, t, rfl, run, hothers, hcompletions, held, hserves hidle⟩

end Leases

end VirtualDualSense.WinDrv.PortBindings
