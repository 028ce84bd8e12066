import VirtualDualSense.Hcd.Sections
import VirtualDualSense.Lib.Runs
import VirtualDualSense.Linux.Daemon

/-!
# Errors while a packet is handled

The handlers of the two Bluetooth channels write to the virtual port and send to the
controller. Both can throw. The main loop drops the controller on an error that
starts like a Bluetooth error, and ends the daemon on every other one. What a write
to the virtual port returns is decided by the kernel module.

## Implementation notes

The kernel does not run out of memory here. The handlers compute the same bridge as
those of the daemon's model, unless they throw.
-/

namespace VirtualDualSense.Linux.PacketErrors

open Lib.Runs Protocol.Frames Protocol.BtPackets Protocol.BridgeParts
open Hcd.UsbCore
open Hcd.Sections (HcdDev writeInputFrame completeFeatureReply writeAudioInFrame)
open Daemon (Bridge SendOutcome)

section Kernel

/-- The result of `vds_write` for a frame that fits its header, zero for success. -/
def vdsWrite (dev : HcdDev) (frame : Frame) (now : Nat) : Int :=
  if dev.stopping then eshutdown
  else
    match frame.type with
    | .usbHidIn => (writeInputFrame dev frame.payload true now).2
    | .usbFeatureReply =>
        let (usb, ret) := dev.usb.updateFeatureReply frame.payload
        if ret ≠ 0 then ret else (completeFeatureReply { dev with usb := usb } frame.payload).2
    | .usbAudioIn => (writeAudioInFrame dev frame.payload true).2
    | _ => einval

def strerror (ret : Int) : String :=
  if ret = einval then "Invalid argument"
  else if ret = enomem then "Cannot allocate memory"
  else if ret = eshutdown then "Cannot send after transport endpoint shutdown"
  else "Unknown error"

end Kernel

variable {E D : Type*} (media : Media E D) (dev : HcdDev) (now : Nat)

section Handlers

/-- `write_vds_frame` of `frame_bytes`: a full queue drops the frame. -/
def writeVdsFrame (b : Bridge E D) (type : FrameType) (payload : List UInt8) :
    Except String (Bridge E D) :=
  match frameBytes type payload with
  | .error what => .error what
  | .ok frame =>
      let ret := vdsWrite dev frame now
      if ret = 0 ∨ ret = eagain ∨ ret = enospc then .ok (Daemon.writeVdsFrame b type payload)
      else .error ("write failed: " ++ strerror ret)

/-- How a non-blocking send to the controller ends. -/
inductive BtSend
  | done (outcome : SendOutcome)
  | fails (detail : String)
  | short

/-- `try_write_packet`, for a report that is only sent if `sends` holds. -/
def tryWritePacket (sends : Bool) : BtSend → Except String SendOutcome
  | .done outcome => .ok outcome
  | .fails detail =>
      if sends then .error ("Bluetooth L2CAP write failed: " ++ detail) else .ok .wouldBlock
  | .short => if sends then .error "Bluetooth L2CAP short packet write" else .ok .wouldBlock

/-- The input report makes the handler send a microphone state report. -/
def sendsMicState (b : Bridge E D) (report : UsbInputReport) : Bool :=
  let headsetMicPlugged := report.get kUsbInputHeadsetOffset &&& kUsbInputMicPluggedMask != 0
  let muteButtonDown := report.get kUsbInputMuteButtonOffset &&& kUsbInputMuteButtonMask != 0
  (muteButtonDown && !b.port.muteButtonDown) ||
    (headsetMicPlugged != b.port.headsetMicPlugged && b.port.audioInStreamActive)

def handleMicInput (b : Bridge E D) (report : UsbInputReport) (mic : BtSend) :
    Except String (Bridge E D) :=
  (tryWritePacket (sendsMicState b report) mic).map (Daemon.handleMicInput b report)

/-- A state report is pending. -/
def sendsPending (b : Bridge E D) : Bool :=
  b.port.pendingBtStateReport.isSome && b.port.pendingBtState.isSome

/-- The state is neither sent nor pending. -/
def sendsState (b : Bridge E D) : Bool :=
  b.port.lastSentBtState ≠ some b.port.outputState.state ∧
    b.port.pendingBtState ≠ some b.port.outputState.state

def forwardBtStateIfChanged (b : Bridge E D) (first second : BtSend) :
    Except String (Bridge E D) :=
  (tryWritePacket (sendsPending b) first).bind fun pending =>
    (tryWritePacket (sendsState (Daemon.flushPendingBtStateReport b pending).1) second).map
      fun state => Daemon.forwardBtStateIfChanged b pending state

def handleHeadsetInput (b : Bridge E D) (report : UsbInputReport) (first second : BtSend) :
    Except String (Bridge E D) :=
  let headsetPlugged := report.get kUsbInputHeadsetOffset &&& kUsbInputHeadphonesPluggedMask != 0
  if headsetPlugged != b.port.headsetPlugged then
    let b := { b with port := { b.port with headsetPlugged := headsetPlugged } }
    if b.port.audioOutStreamActive || b.port.speakerWaveoutActive then
      forwardBtStateIfChanged
        (Daemon.modifyOutputState b (·.setAudioOutStreamActive true b.port.headsetPlugged))
        first second
    else .ok b
  else .ok b

/-- Whatever is thrown for a microphone packet is caught and counted. -/
def handleBtInput (b : Bridge E D) (packet : List UInt8) (mic first second : BtSend) :
    Except String (Bridge E D) :=
  if btInputPayloadType packet = .audio then .ok (Daemon.handleMicPacket media b packet)
  else
    match btInputToUsbInput packet with
    | none => .ok b
    | some report =>
        (handleMicInput b report mic).bind fun b =>
          (handleHeadsetInput b report first second).bind fun b =>
            writeVdsFrame dev now b .usbHidIn report.toList

def handleBtControl (b : Bridge E D) (packet : List UInt8) : Except String (Bridge E D) :=
  match btFeatureToUsbFeatureReply packet with
  | none | some [] => .ok b
  | some (reportId :: rest) =>
      let b := { b with port := { b.port with
        featureCache := Function.update b.port.featureCache reportId (some (reportId :: rest)) } }
      if reportId ∈ b.port.pendingFeatureReports then
        writeVdsFrame dev now { b with port := { b.port with
          pendingFeatureReports := b.port.pendingFeatureReports.erase reportId } }
          .usbFeatureReply (reportId :: rest)
      else .ok b

/-- The answer of a FEATURE_GET whose report is cached. -/
def answerFromCache (b : Bridge E D) (report : List UInt8) : Except String (Bridge E D) :=
  writeVdsFrame dev now b .usbFeatureReply report

end Handlers

section MainLoop

def startsWith (text start : String) : Bool := start.toList.isPrefixOf text.toList

def isBluetoothError (what : String) : Bool :=
  startsWith what "Bluetooth L2CAP" || startsWith what "failed to connect Bluetooth"

/-- The main loop goes on: what was thrown, if anything, is a Bluetooth error. -/
def Survives {α : Type*} (result : Except String α) : Prop :=
  ∀ what, result = .error what → isBluetoothError what = true

/-- The packet ends the daemon neither when it is handled, on either channel, nor when a
later FEATURE_GET is answered with the report that it brought. -/
structure NeverExits (b : Bridge E D) (packet : List UInt8) : Prop where
  control : Survives (handleBtControl dev now b packet)
  interrupt : ∀ mic first second, Survives (handleBtInput media dev now b packet mic first second)
  cached : ∀ reportId rest, btFeatureToUsbFeatureReply packet = some (reportId :: rest) →
    ∀ actions later, Run (Daemon.step media) (Daemon.handleBtControl b packet) actions later →
      later.port.featureCache reportId = some (reportId :: rest) →
        ∀ dev' : HcdDev, dev'.stopping = false → ∀ now',
          Survives (answerFromCache dev' now' later (reportId :: rest))

theorem survives_ok {α : Type*} (value : α) : Survives (Except.ok value) := by
  intro what hwhat
  cases hwhat

end MainLoop

section Refinement

variable {dev now} {b b' : Bridge E D} {packet : List UInt8}

theorem eq_of_writeVdsFrame {type : FrameType} {payload : List UInt8}
    (h : writeVdsFrame dev now b type payload = .ok b') :
    b' = Daemon.writeVdsFrame b type payload := by
  unfold writeVdsFrame at h
  split at h
  · cases h
  · dsimp only at h
    split at h
    · exact (Except.ok.inj h).symm
    · cases h

/-- Unless it throws, the handler does what the daemon's model does. -/
theorem eq_of_handleBtControl (h : handleBtControl dev now b packet = .ok b') :
    b' = Daemon.handleBtControl b packet := by
  unfold handleBtControl at h
  unfold Daemon.handleBtControl
  generalize btFeatureToUsbFeatureReply packet = reply at h ⊢
  rcases reply with _ | _ | ⟨reportId, rest⟩
  · exact (Except.ok.inj h).symm
  · exact (Except.ok.inj h).symm
  · dsimp only at h ⊢
    split at h
    · rename_i hpending
      rw [if_pos hpending]
      exact eq_of_writeVdsFrame h
    · rename_i hpending
      rw [if_neg hpending]
      exact (Except.ok.inj h).symm

theorem handleHeadsetInput_done (b : Bridge E D) (report : UsbInputReport)
    (first second : SendOutcome) :
    handleHeadsetInput b report (.done first) (.done second) =
      .ok (Daemon.handleHeadsetInput b report first second) := by
  unfold handleHeadsetInput Daemon.handleHeadsetInput
  dsimp only
  split
  · split
    · rfl
    · rfl
  · rfl

/-- Unless it throws, the handler does what the daemon's model does with the same sends. -/
theorem eq_of_handleBtInput {mic first second : SendOutcome}
    (h : handleBtInput media dev now b packet (.done mic) (.done first) (.done second) = .ok b') :
    b' = Daemon.handleBtInput media b packet mic first second := by
  unfold handleBtInput at h
  unfold Daemon.handleBtInput
  split at h
  · rename_i haudio
    rw [if_pos haudio]
    exact (Except.ok.inj h).symm
  · rename_i haudio
    rw [if_neg haudio]
    generalize btInputToUsbInput packet = parsed at h ⊢
    cases parsed with
    | none => exact (Except.ok.inj h).symm
    | some report =>
        simp only [handleMicInput, tryWritePacket, Except.map, Except.bind,
          handleHeadsetInput_done] at h
        exact eq_of_writeVdsFrame h

end Refinement

section Writes

variable {dev now} {b : Bridge E D}

/-- The limits of the kernel for a reply to a feature request. -/
theorem vdsWrite_featureReply (hopen : dev.stopping = false) {frame : Frame}
    (htype : frame.type = .usbFeatureReply) (hpos : frame.payload ≠ []) :
    vdsWrite dev frame now =
      if frame.payload.length ≤ vdsControllerHidPacketSize then 0 else einval := by
  obtain ⟨reportId, rest, hpayload⟩ := List.exists_cons_of_ne_nil hpos
  by_cases hlength : frame.payload.length ≤ vdsControllerHidPacketSize
  · have hupdate : (dev.usb.updateFeatureReply frame.payload).2 = 0 := by
      rw [hpayload] at hlength ⊢
      rw [UsbDevice.updateFeatureReply, if_neg (not_lt.mpr hlength)]
    simp [vdsWrite, hopen, htype, hupdate, completeFeatureReply, hlength]
  · have hupdate : (dev.usb.updateFeatureReply frame.payload).2 = einval := by
      rw [hpayload] at hlength ⊢
      rw [UsbDevice.updateFeatureReply, if_pos (not_le.mp hlength)]
    have hne : einval ≠ 0 := by decide
    simp [vdsWrite, hopen, htype, hupdate, hlength, hne]

/-- An input report is always accepted. -/
theorem vdsWrite_hidIn (hopen : dev.stopping = false) {frame : Frame}
    (htype : frame.type = .usbHidIn) (hlength : frame.payload.length = kUsbInputReportSize) :
    vdsWrite dev frame now = 0 := by
  have hbounds : ¬(frame.payload.length = 0 ∨
      frame.payload.length > vdsControllerHidPacketSize) := by
    rw [hlength]
    decide
  have hqueue : (Hcd.Sections.queueInputPacketLocked dev frame.payload true).2 = 0 := by
    unfold Hcd.Sections.queueInputPacketLocked
    split
    · rfl
    · rfl
  simp only [vdsWrite, hopen, htype, writeInputFrame, if_neg hbounds, Bool.false_eq_true, if_false]
  cases Hcd.Sections.completePendingInputLocked dev frame.payload now with
  | none => simp [hqueue]
  | some dev' => simp

/-- A feature reply is written if it is not too long; otherwise the daemon's write fails with
an error that is not one of Bluetooth. -/
theorem survives_featureReply_iff (hopen : dev.stopping = false) (reportId : UInt8)
    (rest : List UInt8) :
    Survives (writeVdsFrame dev now b .usbFeatureReply (reportId :: rest)) ↔
      (reportId :: rest).length ≤ vdsControllerHidPacketSize := by
  unfold writeVdsFrame frameBytes
  by_cases hframe : (reportId :: rest).length > frameMaxPayload
  · rw [dif_pos hframe]
    constructor
    · intro h
      exact absurd (h _ rfl) (by decide)
    · intro h
      exact absurd (h.trans_lt (by decide : vdsControllerHidPacketSize < frameMaxPayload))
        (not_lt.mpr hframe.le)
  · rw [dif_neg hframe]
    dsimp only
    rw [vdsWrite_featureReply hopen rfl (List.cons_ne_nil _ _)]
    by_cases hlength : (reportId :: rest).length ≤ vdsControllerHidPacketSize
    · rw [if_pos hlength, if_pos (.inl rfl)]
      exact iff_of_true (survives_ok _) hlength
    · rw [if_neg hlength, if_neg (by decide)]
      refine iff_of_false ?_ hlength
      intro h
      exact absurd (h _ rfl) (by decide)

theorem survives_hidIn (hopen : dev.stopping = false) (report : UsbInputReport) :
    Survives (writeVdsFrame dev now b .usbHidIn report.toList) := by
  intro what h
  have hlength : report.toList.length = kUsbInputReportSize := by simp
  have hframe : ¬report.toList.length > frameMaxPayload := by
    rw [hlength]
    decide
  unfold writeVdsFrame frameBytes at h
  rw [dif_neg hframe] at h
  dsimp only at h
  rw [vdsWrite_hidIn hopen rfl hlength, if_pos (.inl rfl)] at h
  cases h

end Writes

section Sends

variable {b : Bridge E D}

theorem startsWith_append {text start : String} (rest : String) (h : startsWith text start = true) :
    startsWith (text ++ rest) start = true := by
  rw [startsWith, List.isPrefixOf_iff_prefix] at h ⊢
  rw [String.toList_append]
  exact h.trans (List.prefix_append _ _)

/-- A failed send is a Bluetooth error. -/
theorem survives_tryWritePacket (sends : Bool) (send : BtSend) :
    Survives (tryWritePacket sends send) := by
  intro what h
  cases send with
  | done outcome => cases h
  | fails detail =>
      rw [tryWritePacket] at h
      split at h
      · obtain rfl := Except.error.inj h
        rw [isBluetoothError, startsWith_append detail (by decide), Bool.true_or]
      · cases h
  | short =>
      rw [tryWritePacket] at h
      split at h
      · obtain rfl := Except.error.inj h
        decide
      · cases h

theorem Survives.map {α β : Type*} {result : Except String α} (h : Survives result) (f : α → β) :
    Survives (result.map f) := by
  cases result with
  | error what =>
      intro what' hwhat
      obtain rfl := Except.error.inj hwhat
      exact h _ rfl
  | ok value =>
      intro what hwhat
      cases hwhat

theorem Survives.bind {α β : Type*} {result : Except String α} {f : α → Except String β}
    (h : Survives result) (hf : ∀ value, Survives (f value)) : Survives (result.bind f) := by
  cases result with
  | error what =>
      intro what' hwhat
      obtain rfl := Except.error.inj hwhat
      exact h _ rfl
  | ok value => exact hf value

theorem survives_handleHeadsetInput (report : UsbInputReport) (first second : BtSend) :
    Survives (handleHeadsetInput b report first second) := by
  unfold handleHeadsetInput
  dsimp only
  split
  · split
    · apply (survives_tryWritePacket _ first).bind
      intro pending
      exact (survives_tryWritePacket _ second).map _
    · exact survives_ok _
  · exact survives_ok _

end Sends

variable {media dev now} {b : Bridge E D} {packet : List UInt8}

/-- No packet of the interrupt channel ends the daemon. -/
theorem survives_handleBtInput (hopen : dev.stopping = false) (mic first second : BtSend) :
    Survives (handleBtInput media dev now b packet mic first second) := by
  unfold handleBtInput
  split
  · exact survives_ok _
  · split
    · exact survives_ok _
    · rename_i report hreport
      apply ((survives_tryWritePacket _ mic).map _).bind
      intro b
      apply (survives_handleHeadsetInput report first second).bind
      intro b
      exact survives_hidIn hopen report

/-- The report that a control packet brings follows the transaction byte. -/
theorem btFeatureToUsbFeatureReply_cons {reportId : UInt8} {rest : List UInt8} :
    btFeatureToUsbFeatureReply packet = some (reportId :: rest) ↔
      packet = kBtHidpFeaturePrefix :: reportId :: rest := by
  unfold btFeatureToUsbFeatureReply
  rcases packet with _ | ⟨first, _ | ⟨second, others⟩⟩
  · simp
  · simp
  · by_cases hfirst : first = kBtHidpFeaturePrefix
    · simp [hfirst]
    · simp [hfirst]

/-- A received report stays in the cache. -/
theorem featureCache_handleBtControl {reportId : UInt8} {rest : List UInt8}
    (h : btFeatureToUsbFeatureReply packet = some (reportId :: rest)) :
    (Daemon.handleBtControl b packet).port.featureCache reportId = some (reportId :: rest) := by
  have hwrite (b : Bridge E D) (type : FrameType) (payload : List UInt8) :
      (Daemon.writeVdsFrame b type payload).port = b.port := by
    unfold Daemon.writeVdsFrame
    split
    · rfl
    · rfl
  unfold Daemon.handleBtControl
  rw [h]
  dsimp only
  split
  · rw [hwrite]
    exact Function.update_self ..
  · exact Function.update_self ..

/-- All received reports are short enough for the kernel. -/
def ShortReport (packet : List UInt8) : Prop :=
  ∀ reportId rest, btFeatureToUsbFeatureReply packet = some (reportId :: rest) →
    (reportId :: rest).length ≤ vdsControllerHidPacketSize

theorem shortReport_iff (packet : List UInt8) :
    ShortReport packet ↔
      packet.head? ≠ some kBtHidpFeaturePrefix ∨
        packet.length ≤ 1 + vdsControllerHidPacketSize := by
  constructor
  · intro h
    by_contra hcond
    obtain ⟨hhead, hlength⟩ := not_or.mp hcond
    rw [not_not] at hhead
    rcases packet with _ | ⟨first, _ | ⟨reportId, rest⟩⟩
    · cases hhead
    · exact hlength (Nat.le_add_right 1 _)
    · obtain rfl := Option.some.inj hhead
      have hle := h reportId rest (btFeatureToUsbFeatureReply_cons.mpr rfl)
      rw [List.length_cons] at hlength
      omega
  · rintro h reportId rest hreply
    obtain rfl := btFeatureToUsbFeatureReply_cons.mp hreply
    rcases h with h | h
    · exact absurd rfl h
    · rw [List.length_cons] at h
      omega

theorem survives_handleBtControl (hopen : dev.stopping = false) (h : ShortReport packet) :
    Survives (handleBtControl dev now b packet) := by
  unfold handleBtControl
  split
  · exact survives_ok _
  · exact survives_ok _
  · rename_i reportId rest hreply
    dsimp only
    split
    · exact (survives_featureReply_iff hopen reportId rest).mpr (h reportId rest hreply)
    · exact survives_ok _

/-- A packet never ends the daemon if and only if it brings no feature report of more than 64
bytes. -/
theorem neverExits_iff (hopen : dev.stopping = false) :
    NeverExits media dev now b packet ↔
      packet.head? ≠ some kBtHidpFeaturePrefix ∨
        packet.length ≤ 1 + vdsControllerHidPacketSize := by
  rw [← shortReport_iff]
  constructor
  · intro h reportId rest hreply
    have hsurvives := h.cached reportId rest hreply [] _ (.nil _)
      (featureCache_handleBtControl hreply) dev hopen now
    exact (survives_featureReply_iff hopen reportId rest).mp hsurvives
  · intro h
    refine ⟨survives_handleBtControl hopen h, fun mic first second =>
      survives_handleBtInput hopen mic first second, ?_⟩
    intro reportId rest hreply actions later _ _ dev' hopen' now'
    exact (survives_featureReply_iff hopen' reportId rest).mpr (h reportId rest hreply)

section Packets

/-- A feature report of 64 bytes behind its transaction byte. -/
def fullReport : List UInt8 := kBtHidpFeaturePrefix :: List.replicate 64 0x20

theorem neverExits_fullReport :
    NeverExits silentMedia HcdDev.init 0 (Bridge.init silentMedia) fullReport :=
  (neverExits_iff rfl).mpr (.inr (by decide))

/-- A controller connects, and the host asks for its report 0x22. -/
def askTrace : List Daemon.Action :=
  [.connect [[0x09], [0x20], [0x05]] true true,
    .frame ⟨.usbFeatureGet, [0x22, 64, 0], by decide⟩ .sent .sent]

/-- A report of 65 bytes makes the kernel refuse the reply, and the daemon ends. -/
theorem longReport_exits : ∃ b,
    Run (Daemon.step silentMedia) (Bridge.init silentMedia) askTrace b ∧ b.backend = true ∧
      ¬NeverExits silentMedia HcdDev.init 0 b
        (kBtHidpFeaturePrefix :: List.replicate 65 0x22) := by
  refine ⟨_, run_of_execute rfl, rfl, ?_⟩
  intro h
  exact absurd (h.control "write failed: Invalid argument" rfl) (by decide)

end Packets

end VirtualDualSense.Linux.PacketErrors
