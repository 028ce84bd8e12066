import VirtualDualSense.Hcd.AtomicRuns

/-!
# The reported status of the device

The same facts about the device are kept in the status flags, in the port status of the
root hub and in the USB device behind them. Few sections write any of the three; the
lemmas here say which, and what each of them writes.
-/

namespace VirtualDualSense.Hcd.DeviceStatus

open Lib.Runs Protocol.Frames Usb.Descriptors UsbCore Sections Threads ThreadSteps AtomicRuns

/-- What the driver knows about its device. -/
structure Status where
  usb : UsbDevice
  flags : StatusFlags
  port : PortStatus
  stopping : Bool

def status (dev : HcdDev) : Status :=
  ⟨dev.usb, dev.statusFlags, dev.portStatus, dev.stopping⟩

section Frame

variable (dev : HcdDev) (id : CtxId)

@[simp] theorem status_modifyContext (f : UrbContext → UrbContext) :
    status (dev.modifyContext id f) = status dev := rfl

theorem status_queueUrbGivebackLocked (code : Int) :
    status (queueUrbGivebackLocked dev id code) = status dev := by
  unfold queueUrbGivebackLocked
  split
  · rfl
  · split <;> rfl

theorem status_foldl {f : HcdDev → CtxId → HcdDev} (hf : ∀ dev id, status (f dev id) = status dev)
    (ids : List CtxId) : status (ids.foldl f dev) = status dev := by
  induction ids generalizing dev with
  | nil => rfl
  | cons id rest ih => rw [List.foldl_cons, ih, hf]

theorem status_cancelPendingUrbsLocked (code : Int) :
    status (cancelPendingUrbsLocked dev code) = status dev :=
  status_foldl dev (fun dev id => status_queueUrbGivebackLocked dev id code) _

theorem status_urbDequeue (code : Int) : status (urbDequeue dev id code).1 = status dev := by
  unfold urbDequeue
  split
  · rfl
  · dsimp only
    split_ifs
    · rfl
    · rfl
    · rfl
    · exact status_queueUrbGivebackLocked _ id code

theorem status_enqueueFrame (type : FrameType) (payload : List UInt8) (alloc : Bool) :
    status (enqueueFrame dev type payload alloc).1 = status dev := by
  unfold enqueueFrame
  split_ifs <;> rfl

theorem status_connectLocked (hrunning : dev.stopping = false) :
    status (connectLocked dev) =
      { status dev with
        flags := { dev.statusFlags with connected := true }
        port := { dev.portStatus with
          power := true
          connection := true
          cConnection := !dev.portStatus.connection || dev.portStatus.cConnection } } := by
  unfold connectLocked
  rw [if_neg (by simp [hrunning])]
  rfl

theorem status_disconnectLocked (hrunning : dev.stopping = false) :
    status (disconnectLocked dev) =
      { status dev with
        flags := ⟨false, false, false, false⟩
        port := { dev.portStatus with
          connection := false
          enable := false
          highSpeed := false
          cConnection := dev.portStatus.connection || dev.portStatus.cConnection } } := by
  unfold disconnectLocked
  dsimp only
  rw [if_neg (by simp [hrunning])]
  have hcancel := status_cancelPendingUrbsLocked { dev with
    disconnects := dev.disconnects + 1
    portStatus := { dev.portStatus with
      connection := false
      enable := false
      highSpeed := false
      cConnection := dev.portStatus.connection || dev.portStatus.cConnection } } eshutdown
  simp only [status, Status.mk.injEq] at hcancel
  simp only [status, statusSetLocked, flushBufferedFramesLocked, StatusFlags.set, hcancel]
  simp

theorem status_read (count : Nat) : status (Sections.read dev count).1 = status dev := by
  unfold Sections.read
  split
  · rfl
  · split <;> rfl

theorem status_deferFeatureGet (reportId : UInt8) :
    status (deferFeatureGet dev id reportId).1 = status dev := by
  unfold deferFeatureGet
  split
  · rfl
  · split
    · rfl
    · split <;> rfl

theorem status_fillHidIn (payload : List UInt8) (now : Nat) :
    status (fillHidIn dev id payload now) = status dev := by
  unfold fillHidIn scheduleHidInGivebackLocked
  rfl

theorem status_writeInputFrame (payload : List UInt8) (alloc : Bool) (now : Nat) :
    status (writeInputFrame dev payload alloc now).1 = status dev := by
  have hcompleted : ∀ dev', completePendingInputLocked dev payload now = some dev' →
      status dev' = status dev := by
    intro dev' h
    unfold completePendingInputLocked at h
    split at h
    · cases h
    · cases h
      rw [status_queueUrbGivebackLocked, status_fillHidIn]
  have hqueued : status (queueInputPacketLocked dev payload alloc).1 = status dev := by
    unfold queueInputPacketLocked
    split
    · rfl
    · split <;> rfl
  unfold writeInputFrame
  split
  · rfl
  · split
    · rfl
    · cases h : completePendingInputLocked dev payload now with
      | none =>
          dsimp only
          split
          · exact hqueued
          · exact hqueued
      | some dev' => exact hcompleted dev' h

theorem status_interruptInUrb (now : Nat) :
    status (interruptInUrb dev id now).1 = status dev := by
  unfold interruptInUrb
  split
  · exact status_fillHidIn _ id _ now
  · rfl

theorem status_completeFeatureReply (payload : List UInt8) :
    status (completeFeatureReply dev payload).1 = status dev := by
  have hone : ∀ dev id, status (completePendingFeatureReply payload (payload.headD 0) dev id) =
      status dev := by
    intro dev id
    unfold completePendingFeatureReply
    split
    · rfl
    · split
      · rfl
      · exact status_queueUrbGivebackLocked _ id _
  unfold completeFeatureReply
  split
  · rfl
  · exact status_foldl dev hone dev.pendingFeatureGet

theorem status_writeAudioInFrame (payload : List UInt8) (alloc : Bool) :
    status (writeAudioInFrame dev payload alloc).1 = status dev := by
  unfold writeAudioInFrame
  split
  · rfl
  · split
    · rfl
    · split <;> rfl

theorem status_isoInUrb (urb : Urb) : status (isoInUrb dev urb).1 = status dev := by
  obtain ⟨_, _, _, hframe⟩ := isoInUrb_frame dev urb
  rw [hframe]
  rfl

theorem status_scheduleIsoGiveback (input : Bool) (now : Nat) :
    status (scheduleIsoGiveback dev id input now) = status dev := by
  unfold scheduleIsoGiveback
  split
  · rfl
  · dsimp only
    split <;> rfl

theorem status_takeCompleted {dev dev' : HcdDev} {id : CtxId} {now : Nat} {code : Int}
    (h : takeCompleted dev now = some (dev', id, code)) : status dev' = status dev := by
  unfold takeCompleted at h
  split at h
  · cases h
  · split at h
    · cases h
    · cases h
      rfl

end Frame

section Calls

/-- The changes of the status flags that a thread has still to make. -/
def statusCalls : EnqueuePc → List (StatusFlags × Bool)
  | .handling calls _ => calls.filterMap fun
      | .setStatus flags enabled => some (flags, enabled)
      | _ => none
  | _ => []

def isForward : Call → Bool
  | .forward .. => true
  | _ => false

/-- A request forwards a report or it changes the status, never both. -/
def Separate (calls : List Call) : Prop := ∀ call ∈ calls, isForward call = true → calls = [call]

/-- The calls that a thread has still to make are separate. -/
def Plain : EnqueuePc → Prop
  | .handling calls _ => Separate calls
  | _ => True

def Shape (s : System) : Prop := ∀ id, Plain (s.enqueuers id)

theorem Separate.nil : Separate [] := fun _ h => (nomatch h)

theorem Separate.tail {call : Call} {calls : List Call} (h : Separate (call :: calls)) :
    Separate calls := by
  intro other hother hforward
  have heq := h other (List.mem_cons_of_mem _ hother) hforward
  obtain ⟨rfl, rfl⟩ := List.cons.inj heq
  cases hother

theorem separate_of_forall {calls : List Call} (h : ∀ call ∈ calls, isForward call = false) :
    Separate calls := by
  intro call hcall hforward
  rw [h call hcall] at hforward
  cases hforward

end Calls

section Control

/-- The parts of the device that a session selects and fills. -/
structure SameSelection (usb usb' : UsbDevice) : Prop where
  profile : usb'.profile = usb.profile
  configuration : usb'.configuration = usb.configuration
  audioOut : usb'.audioOutAltsetting = usb.audioOutAltsetting
  audioIn : usb'.audioInAltsetting = usb.audioInAltsetting
  cache : usb'.featureCache = usb.featureCache

theorem SameSelection.refl (usb : UsbDevice) : SameSelection usb usb := ⟨rfl, rfl, rfl, rfl, rfl⟩

/-- A transfer that makes no status call. -/
structure Unreported (handled : Handled) : Prop where
  calls : statusCalls (Handled.pc handled) = []
  separate : ∀ calls ret, handled = .returns calls ret → Separate calls

theorem Unreported.nil (ret : Int) : Unreported (.returns [] ret) where
  calls := rfl
  separate := by
    rintro calls ret ⟨⟩
    exact .nil

theorem Unreported.single {call : Call} (h : ∀ mask enabled, call ≠ .setStatus mask enabled)
    (ret : Int) : Unreported (.returns [call] ret) where
  calls := by
    cases call with
    | setStatus mask enabled => exact absurd rfl (h mask enabled)
    | notify => rfl
    | forward => rfl
  separate := by
    rintro calls ret ⟨⟩ other hother -
    rw [List.mem_singleton.mp hother]

/-- All that a control transfer does with the selections of the device. -/
inductive ControlEffect (usb : UsbDevice) (urb : Urb) : UsbDevice × Urb × Handled → Prop
  | keeps {usb' : UsbDevice} {urb' : Urb} {handled : Handled} (same : SameSelection usb usb')
      (unreported : Unreported handled) : ControlEffect usb urb (usb', urb', handled)
  | configures {setup : UsbCtrlrequest} {urb' : Urb} (packet : urb.setupPacket = some setup)
      (standard : setup.bRequestType &&& 0x60 = 0x00)
      (request : setup.bRequest = usbReqSetConfiguration)
      (value : setup.wValue = 0 ∨
        setup.wValue = usb.controllerProfile.configurationValue.toUInt16) :
      ControlEffect usb urb
        ({ usb with
            configuration := setup.wValue.toUInt8
            audioOutAltsetting := 0
            audioInAltsetting := 0 }, urb',
          .returns [.setStatus ⟨false, true, true, false⟩
              (setup.wValue.toUInt8 == usb.controllerProfile.configurationValue),
            .setStatus ⟨false, false, false, true⟩ false] 0)
  | audioOut {setup : UsbCtrlrequest} {urb' : Urb} (packet : urb.setupPacket = some setup)
      (standard : setup.bRequestType &&& 0x60 = 0x00)
      (request : setup.bRequest = usbReqSetInterface) (value : ¬setup.wValue > 1)
      (interface : interfaceOf setup = usb.controllerProfile.audioOutInterface) :
      ControlEffect usb urb
        ({ usb with audioOutAltsetting := setup.wValue.toUInt8 }, urb',
          .returns [.setStatus ⟨false, false, false, true⟩ (setup.wValue.toUInt8 == 1),
            interfaceEvent (interfaceOf setup) setup.wValue.toUInt8 vdsUsbInterfaceAudioOut] 0)
  | audioIn {setup : UsbCtrlrequest} {urb' : Urb} (packet : urb.setupPacket = some setup)
      (standard : setup.bRequestType &&& 0x60 = 0x00)
      (request : setup.bRequest = usbReqSetInterface) (value : ¬setup.wValue > 1)
      (interface : interfaceOf setup = usb.controllerProfile.audioInInterface) :
      ControlEffect usb urb
        ({ usb with audioInAltsetting := setup.wValue.toUInt8 }, urb',
          .returns [interfaceEvent (interfaceOf setup) setup.wValue.toUInt8
            vdsUsbInterfaceAudioIn] 0)

variable {usb : UsbDevice} {urb : Urb} {setup : UsbCtrlrequest}

theorem controlEffect_returns (urb' : Urb) (ret : Int) :
    ControlEffect usb urb (usb, urb', .returns [] ret) := .keeps (.refl usb) (.nil ret)

theorem controlEffect_replies (urb' : Urb) (data : List UInt8) :
    ControlEffect usb urb (replies usb urb' data) := controlEffect_returns _ _

theorem controlEffect_standardControl (packet : urb.setupPacket = some setup)
    (standard : setup.bRequestType &&& 0x60 = 0x00) (urb' : Urb) :
    ControlEffect usb urb (standardControl usb urb' setup usb.controllerProfile) := by
  unfold standardControl
  dsimp only
  split
  · split
    · exact controlEffect_returns _ _
    · exact controlEffect_replies _ _
  split
  · exact .keeps ⟨rfl, rfl, rfl, rfl, rfl⟩ (.nil 0)
  split
  · rename_i hrequest
    split
    · exact controlEffect_returns _ _
    · rename_i hvalue
      refine .configures packet standard hrequest ?_
      by_contra hother
      exact hvalue (not_or.mp hother)
  split
  · exact controlEffect_replies _ _
  split
  · rename_i hrequest
    split
    · split
      · exact controlEffect_returns _ _
      · exact .keeps (.refl usb) (.single (fun _ _ h => by cases h) 0)
    · split
      · exact controlEffect_returns _ _
      · rename_i hvalue
        split
        · rename_i hinterface
          exact .audioOut packet standard hrequest hvalue hinterface
        · split
          · rename_i hinterface
            exact .audioIn packet standard hrequest hvalue hinterface
          · exact controlEffect_returns _ _
  split
  · split
    · exact controlEffect_replies _ _
    · split
      · exact controlEffect_replies _ _
      · split
        · exact controlEffect_replies _ _
        · exact controlEffect_returns _ _
  split
  · exact controlEffect_replies _ _
  split
  · exact controlEffect_returns _ _
  · exact controlEffect_returns _ _

theorem controlEffect_hidControl (urb' : Urb) (profile : ControllerProfile) :
    ControlEffect usb urb (hidControl usb urb' setup profile) := by
  unfold hidControl
  dsimp only
  split
  · exact controlEffect_returns _ _
  split
  · split
    · split
      · exact .keeps (.refl usb) ⟨rfl, fun _ _ => (nomatch ·)⟩
      · exact controlEffect_replies _ _
    · exact controlEffect_replies _ _
  split
  · split
    · exact controlEffect_returns _ _
    · split
      · exact controlEffect_returns _ _
      · split
        · exact controlEffect_returns _ _
        · split
          · exact controlEffect_returns _ _
          · exact .keeps (.refl usb) (.single (fun _ _ h => by cases h) 0)
  split
  · exact controlEffect_replies _ _
  split
  · exact controlEffect_replies _ _
  split
  · exact .keeps ⟨rfl, rfl, rfl, rfl, rfl⟩ (.nil 0)
  split
  · exact .keeps ⟨rfl, rfl, rfl, rfl, rfl⟩ (.nil 0)
  · exact controlEffect_returns _ _

theorem controlEffect_audioControl (urb' : Urb) (profile : ControllerProfile) :
    ControlEffect usb urb (audioControl usb urb' setup profile) := by
  unfold audioControl
  dsimp only
  split
  · exact controlEffect_returns _ _
  split
  · exact controlEffect_returns _ _
  split
  · split_ifs <;> first | exact controlEffect_replies _ _ | exact controlEffect_returns _ _
  split
  · exact controlEffect_returns _ _
  split
  · exact controlEffect_returns _ _
  split
  · split
    · exact .keeps ⟨rfl, rfl, rfl, rfl, rfl⟩ (.nil 0)
    · exact controlEffect_returns _ _
  split
  · split
    · exact .keeps ⟨rfl, rfl, rfl, rfl, rfl⟩ (.nil 0)
    · exact controlEffect_returns _ _
  · exact controlEffect_returns _ _

theorem controlEffect (usb : UsbDevice) (urb : Urb) :
    ControlEffect usb urb (usb.controlUrb urb) := by
  unfold UsbDevice.controlUrb
  dsimp only
  split
  · exact controlEffect_returns _ _
  · rename_i setup packet
    split
    · rename_i standard
      exact controlEffect_standardControl packet standard _
    split
    · split
      · exact controlEffect_hidControl _ _
      · exact controlEffect_audioControl _ _
    · exact controlEffect_returns _ _

end Control

/-- All that a step does with the status of the device. -/
inductive StatusStep (s : System) : Action → System → Prop
  | quiet {action : Action} {t : System} (status : status t.dev = status s.dev)
      (calls : ∀ id, statusCalls (t.enqueuers id) = statusCalls (s.enqueuers id))
      (resets : Syscall.resetUsb ∈ t.syscalls ↔ Syscall.resetUsb ∈ s.syscalls) :
      StatusStep s action t
  /-- A new thread starts. -/
  | submit {urb : Urb} {alloc : Bool} {linkRet : Int} {t : System}
      (status : status t.dev = status s.dev)
      (calls : ∀ id, statusCalls (t.enqueuers id) = statusCalls (s.enqueuers id) ∨
        statusCalls (t.enqueuers id) = [])
      (syscalls : t.syscalls = s.syscalls) : StatusStep s (.submit urb alloc linkRet) t
  | control {id : CtxId} {context : UrbContext} {t : System} (pc : s.enqueuers id = .linked)
      (found : s.dev.contexts id = some context) (pipe : context.urb.pipeType = .control)
      (status : status t.dev =
        { status s.dev with usb := (s.dev.usb.controlUrb context.urb).1 })
      (enqueuers : t.enqueuers = Function.update s.enqueuers id
        (Handled.pc (s.dev.usb.controlUrb context.urb).2.2))
      (syscalls : t.syscalls = s.syscalls) : StatusStep s (.handle id) t
  | setStatus {id : CtxId} {alloc : Bool} {t : System} {mask : StatusFlags} {enabled : Bool}
      {rest : List (StatusFlags × Bool)}
      (before : statusCalls (s.enqueuers id) = (mask, enabled) :: rest)
      (after : statusCalls (t.enqueuers id) = rest)
      (others : ∀ j, j ≠ id → t.enqueuers j = s.enqueuers j)
      (status : status t.dev =
        { status s.dev with flags := StatusFlags.set s.dev.statusFlags mask enabled })
      (syscalls : t.syscalls = s.syscalls) : StatusStep s (.call id alloc) t
  | reply {frame : Frame} {flags : UInt16} {alloc : Bool} {t : System}
      (running : s.dev.stopping = false) (unflagged : flags = 0)
      (type : frame.type = .usbFeatureReply)
      (written : (s.dev.usb.updateFeatureReply frame.payload).2 = 0)
      (status : status t.dev =
        { status s.dev with usb := (s.dev.usb.updateFeatureReply frame.payload).1 })
      (enqueuers : t.enqueuers = s.enqueuers)
      (resets : Syscall.resetUsb ∈ t.syscalls ↔ Syscall.resetUsb ∈ s.syscalls) :
      StatusStep s (.write frame flags alloc) t
  | connect {t : System} (running : s.dev.stopping = false)
      (status : status t.dev = status (connectLocked s.dev)) (enqueuers : t.enqueuers = s.enqueuers)
      (syscalls : t.syscalls = s.syscalls) : StatusStep s .connect t
  | disconnect {action : Action} {t : System}
      (disconnects : AtomicRuns.disconnects action = true) (running : s.dev.stopping = false)
      (status : status t.dev = status (disconnectLocked s.dev))
      (enqueuers : t.enqueuers = s.enqueuers)
      (resets : Syscall.resetUsb ∈ t.syscalls) : StatusStep s action t
  | reset {t : System} (pending : Syscall.resetUsb ∈ s.syscalls)
      (status : status t.dev = { status s.dev with usb := s.dev.usb.resetState })
      (enqueuers : t.enqueuers = s.enqueuers) : StatusStep s (.resume .resetUsb) t
  | profile {profile : Option Profile} {mode : Nat} {t : System}
      (status : status t.dev = status (Sections.setProfile s.dev profile mode).1)
      (enqueuers : t.enqueuers = s.enqueuers) (syscalls : t.syscalls = s.syscalls) :
      StatusStep s (.setProfile profile mode) t
  | hub {request : HubRequest} {value index : Nat} {t : System}
      (status : status t.dev =
        { status s.dev with port := (hubControl s.dev request value index).1.portStatus })
      (enqueuers : t.enqueuers = s.enqueuers) (syscalls : t.syscalls = s.syscalls) :
      StatusStep s (.hubControl request value index) t
  | stop {t : System} (status : status t.dev =
        { status s.dev with flags := ⟨false, false, false, false⟩, stopping := true })
      (enqueuers : t.enqueuers = s.enqueuers) (syscalls : t.syscalls = s.syscalls) :
      StatusStep s .stop t

section Steps

variable {s t : System} {action : Action}

/-- A thread goes on with the status calls that it had. -/
theorem StatusStep.setPc {dev : HcdDev} {id : CtxId} {pc : EnqueuePc}
    (hstatus : status dev = status s.dev)
    (hcalls : statusCalls pc = statusCalls (s.enqueuers id)) :
    StatusStep s action ({ s with dev := dev }.setPc id pc) := by
  refine .quiet hstatus ?_ Iff.rfl
  intro j
  by_cases hj : j = id
  · subst hj
    simpa [System.setPc] using hcalls
  · simp [System.setPc, hj]

theorem statusCalls_interruptOutUrb (urb : Urb) :
    statusCalls (.handling (interruptOutUrb urb).2.1 (interruptOutUrb urb).2.2) = [] := by
  unfold interruptOutUrb
  split
  · rfl
  · split
    · rfl
    · split <;> rfl

theorem statusStep_submit (urb : Urb) (alloc : Bool) (linkRet : Int) :
    StatusStep s (.submit urb alloc linkRet) (submit s urb alloc linkRet) := by
  unfold submit
  split
  · exact .submit rfl (fun _ => .inl rfl) rfl
  · refine .submit rfl ?_ rfl
    intro id
    by_cases hid : id = s.dev.submitted
    · exact .inr (by simp [hid, statusCalls])
    · exact .inl (by simp [hid])

theorem statusStep_handle {id : CtxId} {context : UrbContext} (pc : s.enqueuers id = .linked)
    (found : s.dev.contexts id = some context) :
    StatusStep s (.handle id) (handle s id context) := by
  have hnone : statusCalls (s.enqueuers id) = [] := by rw [pc]; rfl
  unfold handle
  dsimp only
  split
  · rename_i hpipe
    exact .control pc found hpipe rfl rfl rfl
  · split
    · refine .setPc (status_interruptInUrb s.dev id s.clock) ?_
      rw [hnone]
      split <;> rfl
    · split
      · exact .setPc rfl (hnone ▸ statusCalls_interruptOutUrb context.urb)
      · exact .setPc rfl hnone.symm
  · split
    · split
      · exact .setPc rfl hnone.symm
      · exact .setPc rfl hnone.symm
    · split
      · split
        · exact .setPc rfl hnone.symm
        · exact .setPc rfl hnone.symm
      · exact .setPc rfl hnone.symm
  · exact .setPc rfl hnone.symm

theorem statusStep_call {id : CtxId} {alloc : Bool} {next : Call} {calls : List Call} {ret : Int}
    (pc : s.enqueuers id = .handling (next :: calls) ret) (separate : Separate (next :: calls)) :
    StatusStep s (.call id alloc) (call s id alloc calls ret next) := by
  cases next with
  | setStatus mask enabled =>
      have hbefore : statusCalls (s.enqueuers id) =
          (mask, enabled) :: statusCalls (.handling calls ret) := by
        rw [pc]
        rfl
      refine .setStatus hbefore ?_ ?_ rfl rfl
      · simp [call, System.setPc]
      · intro j hj
        simp [call, System.setPc, hj]
  | notify type payload =>
      refine .setPc (status_enqueueFrame s.dev type payload alloc) ?_
      rw [pc]
      rfl
  | forward type payload actualLength =>
      obtain ⟨-, rfl⟩ := List.cons.inj (separate _ List.mem_cons_self rfl)
      simp only [call]
      split
      · refine .setPc (status_enqueueFrame s.dev type payload alloc) ?_
        rw [pc]
        rfl
      · refine .setPc ?_ ?_
        · rw [status_modifyContext, status_enqueueFrame]
        · rw [pc]
          rfl

theorem statusStep_write (frame : Frame) (flags : UInt16) (alloc : Bool) :
    StatusStep s (.write frame flags alloc) (write s frame flags alloc) := by
  have hsame : StatusStep s (.write frame flags alloc) s := .quiet rfl (fun _ => rfl) Iff.rfl
  unfold write
  split
  · exact hsame
  · rename_i haccepted
    simp only [Bool.or_eq_true, decide_eq_true_eq, not_or, Bool.not_eq_true, not_not] at haccepted
    split
    · exact .quiet (status_writeInputFrame s.dev _ _ _) (fun _ => rfl) Iff.rfl
    · rename_i htype
      dsimp only
      split
      · exact hsame
      · rename_i hwritten
        refine .reply haccepted.1 haccepted.2 htype (by simpa using hwritten) rfl rfl ?_
        simp
    · exact .quiet (status_writeAudioInFrame s.dev _ _) (fun _ => rfl) Iff.rfl
    · exact hsame

theorem statusStep_disconnect (hdisconnects : AtomicRuns.disconnects action = true)
    (syscalls : List Syscall)
    (hresets : Syscall.resetUsb ∈ syscalls ↔ Syscall.resetUsb ∈ s.syscalls) :
    StatusStep s action (disconnect { s with syscalls }) := by
  cases hstopping : s.dev.stopping with
  | true =>
      refine .quiet ?_ (fun _ => rfl) ?_
      · simp [disconnect, disconnectLocked, hstopping, status]
      · simpa [disconnect, hstopping] using hresets
  | false =>
      refine .disconnect hdisconnects hstopping rfl rfl ?_
      simp [disconnect, hstopping]

theorem statusStep_deliver {id : CtxId} {code : Int} :
    StatusStep s action (deliver s id code) := by
  unfold deliver
  split
  · exact .quiet rfl (fun _ => rfl) Iff.rfl
  · dsimp only
    split
    · exact .quiet rfl (fun _ => rfl) Iff.rfl
    · split
      · exact .quiet (status_isoInUrb s.dev _) (fun _ => rfl) Iff.rfl
      · exact .quiet rfl (fun _ => rfl) Iff.rfl

theorem statusStep (shape : Shape s) (h : step s action = some t) : StatusStep s action t := by
  cases steps_of_step h with
  | submit urb alloc linkRet => exact statusStep_submit urb alloc linkRet
  | handle id context hpc live => exact statusStep_handle hpc live
  | handleFreed id hpc => exact .setPc rfl (by rw [hpc]; rfl)
  | call id alloc next calls ret hpc =>
      have hplain := shape id
      rw [hpc] at hplain
      exact statusStep_call hpc hplain
  | defer id reportId requestedLength hpc =>
      refine .setPc (status_deferFeatureGet s.dev id reportId) ?_
      rw [hpc]
      split <;> rfl
  | request id alloc reportId requestedLength hpc =>
      refine .setPc (status_enqueueFrame s.dev _ _ alloc) ?_
      rw [hpc]
      split <;> rfl
  | refile id ret hpc =>
      exact .setPc (status_queueUrbGivebackLocked s.dev id ret) (by rw [hpc]; rfl)
  | schedule id input hpc =>
      exact .setPc (status_scheduleIsoGiveback s.dev id input s.clock) (by rw [hpc]; rfl)
  | file id ret hpc =>
      exact .setPc (status_queueUrbGivebackLocked s.dev id ret) (by rw [hpc]; rfl)
  | dequeue id code => exact .quiet (status_urbDequeue s.dev id code) (fun _ => rfl) Iff.rfl
  | write frame flags alloc => exact statusStep_write frame flags alloc
  | read count => exact .quiet (status_read s.dev count) (fun _ => rfl) Iff.rfl
  | connect =>
      cases hstopping : s.dev.stopping with
      | true =>
          refine .quiet ?_ (fun _ => rfl) Iff.rfl
          simp [connectLocked, hstopping]
      | false => exact .connect hstopping rfl rfl rfl
  | disconnect => exact statusStep_disconnect rfl s.syscalls Iff.rfl
  | setProfile profile mode => exact .profile rfl rfl rfl
  | release =>
      refine .quiet rfl (fun _ => rfl) ?_
      simp only [release]
      split <;> simp
  | resume syscall hmem =>
      cases syscall with
      | featureReply payload =>
          refine .quiet (status_completeFeatureReply s.dev payload) (fun _ => rfl) ?_
          exact List.mem_erase_of_ne (by simp)
      | disconnect => exact statusStep_disconnect rfl _ (List.mem_erase_of_ne (by simp))
      | resetUsb => exact .reset hmem rfl rfl
  | hubControl request value index =>
      refine .hub ?_ rfl rfl
      unfold hubControl
      split
      · rfl
      · rfl
      · rfl
      · split <;> rfl
      · split <;> rfl
      · split <;> rfl
      · rfl
  | stop =>
      refine .stop ?_ rfl rfl
      have hcancel := status_cancelPendingUrbsLocked { s.dev with stopping := true } eshutdown
      simp only [status, Status.mk.injEq] at hcancel
      simp only [status, hcdStop, flushBufferedFramesLocked, hcancel]
  | take dev id code hpc taken =>
      exact .quiet (status_takeCompleted taken) (fun _ => rfl) Iff.rfl
  | deliver => exact statusStep_deliver
  | place id alloc payload =>
      refine .quiet ?_ (fun _ => rfl) Iff.rfl
      rw [← status_enqueueFrame s.dev .usbAudioOut payload alloc, place]
      dsimp only
      split <;> rfl
  | tick | openFile | sleep | wake | placed | giveback => exact .quiet rfl (fun _ => rfl) Iff.rfl

theorem plain_controlUrb (usb : UsbDevice) (urb : Urb) :
    Plain (Handled.pc (usb.controlUrb urb).2.2) := by
  generalize h : usb.controlUrb urb = result
  have heffect := controlEffect usb urb
  rw [h] at heffect
  cases heffect with
  | @keeps _ _ handled _ unreported =>
      cases handled with
      | returns calls ret => exact unreported.separate calls ret rfl
      | featureGet => trivial
  | configures => exact separate_of_forall (by simp [isForward])
  | audioOut => exact separate_of_forall (by simp [isForward, interfaceEvent])
  | audioIn => exact separate_of_forall (by simp [isForward, interfaceEvent])

theorem plain_setPc {id : CtxId} {pc : EnqueuePc} (h : Plain pc) :
    Plain ((s.setPc id pc).enqueuers id) := by
  simp only [System.setPc, Function.update_self]
  exact h

theorem plain_handle {id : CtxId} (context : UrbContext) :
    Plain ((handle s id context).enqueuers id) := by
  unfold handle
  dsimp only
  split
  · exact plain_setPc (plain_controlUrb s.dev.usb context.urb)
  · split
    · simp only [System.setPc, Function.update_self]
      split
      · exact .nil
      · trivial
    · split
      · simp only [System.setPc, Function.update_self]
        unfold interruptOutUrb
        split
        · exact .nil
        · split
          · exact .nil
          · split
            · exact .nil
            · exact separate_of_forall (by simp [isForward])
      · exact plain_setPc Separate.nil
  · split
    · split
      · exact plain_setPc Separate.nil
      · exact plain_setPc trivial
    · split
      · split
        · exact plain_setPc Separate.nil
        · exact plain_setPc trivial
      · exact plain_setPc Separate.nil
  · exact plain_setPc Separate.nil

theorem plain_call {id : CtxId} {alloc : Bool} {next : Call} {calls : List Call} {ret : Int}
    (separate : Separate (next :: calls)) :
    Plain ((call s id alloc calls ret next).enqueuers id) := by
  cases next with
  | setStatus mask enabled => exact plain_setPc separate.tail
  | notify type payload => exact plain_setPc separate.tail
  | forward type payload actualLength =>
      simp only [call]
      split
      · exact plain_setPc Separate.nil
      · exact plain_setPc separate.tail

/-- No thread comes to both forward a report and change the status. -/
theorem shape_step (shape : Shape s) (h : step s action = some t) : Shape t := by
  intro id
  rcases enqueuers_of_step h id with hsame | ⟨hactor, -⟩ | ⟨hlinked, -⟩
  · rw [hsame]
    exact shape id
  · cases steps_of_step h with
    | handle j =>
        obtain rfl : j = id := by simpa [continues] using hactor
        exact plain_handle _
    | handleFreed j =>
        obtain rfl : j = id := by simpa [continues] using hactor
        exact plain_setPc Separate.nil
    | call j alloc next calls ret hpc =>
        obtain rfl : j = id := by simpa [continues] using hactor
        have hplain := shape j
        rw [hpc] at hplain
        exact plain_call hplain
    | defer j | request j alloc =>
        obtain rfl : j = id := by simpa [continues] using hactor
        simp only [System.setPc, Function.update_self]
        split
        · first | exact .nil | trivial
        · trivial
    | refile j | schedule j | file j =>
        obtain rfl : j = id := by simpa [continues] using hactor
        simp only [System.setPc, Function.update_self]
        first | exact Separate.nil | trivial
    | tick | submit | dequeue | write | read | connect | disconnect | setProfile | openFile
    | release | resume | hubControl | stop | sleep | wake | take | deliver | place | placed
    | giveback => cases hactor
  · rw [hlinked]
    trivial

end Steps

end VirtualDualSense.Hcd.DeviceStatus
