import VirtualDualSense.Linux.DaemonSteps
import VirtualDualSense.Protocol.PowerSave

/-!
# Microphone mute

While the microphone is muted, every report that carries the power-save byte
should keep it muted. A microphone state report sets the bit from the mute
state. The image is open to host reports with the audio-mute flag, though, and a
report deferred before the mute goes out as it was built.
-/

namespace VirtualDualSense.Linux.MicMute

open Lib.Runs Protocol.Frames Protocol.OutputState Protocol.PowerSave Protocol.BtPackets
  Protocol.BridgeParts Daemon DaemonSteps

/-- The power-save byte mutes the microphone. -/
def MicMuteBit (byte : UInt8) : Prop := byte &&& kOutputPowerSaveMicMute ≠ 0

/-- A report that does not unmute the microphone. -/
def ReportMutes (report : List UInt8) : Prop :=
  ∀ byte ∈ carriedPowerSave report, MicMuteBit byte

/-- No report that was sent while the microphone was muted has unmuted it. -/
def MuteLaw (sent : List Transmission) : Prop :=
  ∀ transmission ∈ sent, transmission.micMuted = true → ReportMutes transmission.report

instance (byte : UInt8) : Decidable (MicMuteBit byte) := inferInstanceAs (Decidable (¬_ = _))

instance (report : List UInt8) : Decidable (ReportMutes report) :=
  inferInstanceAs (Decidable (∀ byte ∈ carriedPowerSave report, MicMuteBit byte))

instance (sent : List Transmission) : Decidable (MuteLaw sent) :=
  inferInstanceAs (Decidable (∀ transmission ∈ sent, _ → _))

/-- The report presses the mute button. -/
def PressesMute (muteButtonDown : Bool) (report : UsbInputReport) : Prop :=
  muteButtonDown = false ∧ report.get kUsbInputMuteButtonOffset &&& kUsbInputMuteButtonMask ≠ 0

variable {E D : Type*} {media : Media E D} {b t : Bridge E D}

/-- The condition on the environment: a host report does not clear the bit of a
muted microphone, and a press that mutes finds no deferred report without it. -/
def MuteGuard (b : Bridge E D) : Action → Prop
  | .frame frame _ _ =>
      frame.type = .usbHidOut → b.port.micMuted = true →
        ∀ update ∈ DsOutputState.reportUpdate frame.payload,
          update.allowAudioMute = true → MicMuteBit update.powerSaveControl
  | .btInput packet _ _ _ =>
      ∀ report ∈ btInputToUsbInput packet, PressesMute b.port.muteButtonDown report →
        b.port.micMuted = false →
          ∀ pending ∈ b.port.pendingBtStateReport, ReportMutes pending.toList
  | _ => True

/-- While the microphone is muted, the image and the deferred report mute it. -/
structure Inv (b : Bridge E D) : Prop where
  image : b.port.micMuted = true → MicMuteBit (powerSave b.port.outputState.state)
  pending : b.port.micMuted = true →
    ∀ report ∈ b.port.pendingBtStateReport, ReportMutes report.toList
  law : MuteLaw b.sent

theorem micMuteBit_or (byte : UInt8) : MicMuteBit (byte ||| kOutputPowerSaveMicMute) := by
  have habsorb : (byte ||| kOutputPowerSaveMicMute) &&& kOutputPowerSaveMicMute =
      kOutputPowerSaveMicMute := by
    apply UInt8.toBitVec_inj.mp
    ext i
    simp +contextual
  rw [MicMuteBit, habsorb]
  decide

/-- The byte of a microphone state report of a muted microphone. -/
theorem micMuteBit_micPowerSaveControl (o : DsOutputState) (active : Bool) :
    MicMuteBit (o.micPowerSaveControl active true) := by
  simp only [DsOutputState.micPowerSaveControl, Bool.not_true, Bool.and_false]
  exact micMuteBit_or o.powerSaveControl

theorem reportMutes_of_carried {report : List UInt8} {byte : UInt8}
    (hcarried : carriedPowerSave report = some byte) (h : MicMuteBit byte) :
    ReportMutes report := by
  intro other hother
  obtain rfl := Option.some.inj (hcarried.symm.trans hother)
  exact h

namespace Inv

/-- The law reads these four parts of the state only. -/
theorem keeps (inv : Inv b) (hsent : t.sent = b.sent) (hmuted : t.port.micMuted = b.port.micMuted)
    (himage : powerSave t.port.outputState.state = powerSave b.port.outputState.state)
    (hpending : t.port.pendingBtStateReport = b.port.pendingBtStateReport) : Inv t where
  image := by rw [hmuted, himage]; exact inv.image
  pending := by rw [hmuted, hpending]; exact inv.pending
  law := by rw [hsent]; exact inv.law

theorem quiet (inv : Inv b) (h : KeepsReports b t) : Inv t :=
  inv.keeps h.sent h.muted (congrArg powerSave h.image) h.pendingReport

/-- Dropping the deferred report is always safe. -/
theorem dropPending (inv : Inv b) (hsent : t.sent = b.sent)
    (hmuted : t.port.micMuted = b.port.micMuted)
    (himage : powerSave t.port.outputState.state = powerSave b.port.outputState.state)
    (hpending : t.port.pendingBtStateReport = none) : Inv t where
  image := by rw [hmuted, himage]; exact inv.image
  pending := by simp [hpending]
  law := by rw [hsent]; exact inv.law

theorem unmuted (hmuted : b.port.micMuted = false) (law : MuteLaw b.sent) : Inv b where
  image := by simp [hmuted]
  pending := by simp [hmuted]
  law := law

theorem trySendOutputReport (inv : Inv b) {report : List UInt8} (outcome : SendOutcome)
    (h : b.port.micMuted = true → ReportMutes report) :
    Inv (trySendOutputReport b report outcome) := by
  cases outcome with
  | sent =>
      refine ⟨inv.image, inv.pending, ?_⟩
      intro transmission hmem hmuted
      rcases List.mem_append.mp hmem with hold | hnew
      · exact inv.law transmission hold hmuted
      · obtain rfl := List.mem_singleton.mp hnew
        exact h hmuted
  | wouldBlock => exact inv

/-- A deferred report goes out as it was built. -/
theorem flushPendingBtStateReport (inv : Inv b) (outcome : SendOutcome) :
    Inv (flushPendingBtStateReport b outcome).1 := by
  unfold Daemon.flushPendingBtStateReport
  split
  · rename_i report state hreport hstate
    have hsend := inv.trySendOutputReport outcome fun hmuted => inv.pending hmuted report hreport
    cases outcome with
    | sent => exact hsend.dropPending rfl rfl rfl rfl
    | wouldBlock => exact hsend
  · exact inv

theorem forwardBtStateIfChanged (inv : Inv b) (first second : SendOutcome) :
    Inv (forwardBtStateIfChanged b first second) := by
  have hflush := inv.flushPendingBtStateReport first
  simp only [Daemon.forwardBtStateIfChanged]
  generalize (Daemon.flushPendingBtStateReport b first).1 = c at hflush ⊢
  split_ifs
  · exact hflush.dropPending rfl rfl rfl rfl
  · exact hflush
  · exact hflush
  · -- a new report carries the image
    have hreport : c.port.micMuted = true →
        ReportMutes c.port.outputState.buildBtStateReport.2.toList := fun hmuted =>
      reportMutes_of_carried (carriedPowerSave_stateReport _ _) (hflush.image hmuted)
    have hbuilt : Inv { c with port := { c.port with
        outputState := c.port.outputState.buildBtStateReport.1 } } :=
      hflush.keeps rfl rfl rfl rfl
    cases second with
    | sent => exact (hbuilt.trySendOutputReport .sent hreport).dropPending rfl rfl rfl rfl
    | wouldBlock =>
        refine ⟨hbuilt.image, ?_, hbuilt.law⟩
        rintro hmuted report hpending
        obtain rfl := Option.some.inj hpending
        exact hreport hmuted

theorem forwardIfBackend (inv : Inv b) (first second : SendOutcome) :
    Inv (forwardIfBackend b first second) := by
  unfold Daemon.forwardIfBackend
  split_ifs
  · exact inv.forwardBtStateIfChanged first second
  · exact inv

theorem setAudioOutStreamActive (inv : Inv b) (active headsetPlugged : Bool) :
    Inv (modifyOutputState b (·.setAudioOutStreamActive active headsetPlugged)) :=
  inv.keeps rfl rfl (powerSave_setAudioOutStreamActive _ _ _) rfl

/-- A microphone state report brings the image in line with the mute state. -/
theorem sendMicStateReport
    (pending : b.port.micMuted = true →
      ∀ report ∈ b.port.pendingBtStateReport, ReportMutes report.toList)
    (law : MuteLaw b.sent) (outcome : SendOutcome) : Inv (sendMicStateReport b outcome) := by
  have hbit : b.port.micMuted = true → MicMuteBit (b.port.outputState.micPowerSaveControl
      b.port.audioInStreamActive b.port.micMuted) := by
    intro hmuted
    rw [hmuted]
    exact micMuteBit_micPowerSaveControl _ _
  simp only [Daemon.sendMicStateReport]
  refine trySendOutputReport ?_ outcome ?_
  · refine ⟨?_, pending, law⟩
    intro hmuted
    rw [powerSave_buildBtMicStateReport]
    exact hbit hmuted
  · intro hmuted
    refine reportMutes_of_carried (carriedPowerSave_stateReport _ _) ?_
    rw [powerSave_micStateImage]
    exact hbit hmuted

theorem sendMicReport (inv : Inv b) (outcome : SendOutcome) : Inv (sendMicReport b outcome) := by
  simp only [Daemon.sendMicReport]
  refine trySendOutputReport ?_ outcome ?_
  · exact inv.keeps rfl rfl rfl rfl
  · intro _ byte hbyte
    rw [carriedPowerSave_buildBtMicReport] at hbyte
    cases hbyte

theorem handleInterfaceEvent (inv : Inv b) (payload : List UInt8) (first second : SendOutcome) :
    Inv (handleInterfaceEvent media b payload first second) := by
  unfold Daemon.handleInterfaceEvent
  split
  · dsimp only
    split_ifs
    · exact inv.keeps rfl rfl rfl rfl
    · refine forwardIfBackend (setAudioOutStreamActive ?_ _ _) _ _
      exact inv.keeps rfl rfl rfl rfl
    · refine sendMicReport (sendMicStateReport ?_ ?_ first) second
      · exact inv.pending
      · exact inv.law
    · exact inv.keeps rfl rfl rfl rfl
    · exact inv
  · exact inv

theorem handleHidOut (inv : Inv b) {frame : Frame} (htype : frame.type = .usbHidOut)
    (first second : SendOutcome) (ok : MuteGuard b (.frame frame first second)) :
    Inv (handleHidOut b frame.payload first second) := by
  unfold Daemon.handleHidOut
  split
  · exact inv
  · rename_i outputState happly
    obtain ⟨update, hupdate, rfl⟩ := Option.map_eq_some_iff.mp happly
    have happlied : Inv { b with port := { b.port with
        outputState := b.port.outputState.applyUpdate update } } := by
      refine ⟨?_, inv.pending, inv.law⟩
      intro hmuted
      rw [powerSave_applyUpdate]
      split_ifs with hallow
      · exact ok htype hmuted update hupdate hallow
      · exact inv.image hmuted
    refine forwardIfBackend ?_ _ _
    split_ifs
    · exact happlied.setAudioOutStreamActive _ _
    · exact happlied

theorem handleTestCommand (inv : Inv b) (command : List UInt8) (first second : SendOutcome) :
    Inv (handleTestCommand media b command first second) := by
  unfold Daemon.handleTestCommand
  split
  · rename_i device action data
    have hcached := inv.quiet <| .cacheFeatureReport b ([kTestCommandResultReportId, device, action,
      kTestCommandCompleteStatus] ++ List.replicate 60 0)
    dsimp only
    split_ifs
    · exact hcached.keeps rfl rfl rfl rfl
    · split
      · exact hcached
      · refine forwardIfBackend ?_ _ _
        exact hcached.keeps rfl rfl (powerSave_setAudioOutStreamActive _ _ _) rfl
    · exact hcached
  · exact inv

theorem handleFeatureSet (inv : Inv b) (payload : List UInt8) (first second : SendOutcome) :
    Inv (handleFeatureSet media b payload first second) := by
  obtain ⟨c, _, hframe, htest⟩ := handleFeatureSet_frame (b := b) payload first second
  rw [hframe]
  rcases htest with rfl | ⟨_, _, -, -, rfl⟩
  · exact inv.keeps rfl rfl rfl rfl
  · exact (inv.handleTestCommand _ _ _).keeps rfl rfl rfl rfl

theorem handleFrame (inv : Inv b) (frame : Frame) (first second : SendOutcome)
    (ok : MuteGuard b (.frame frame first second)) :
    Inv (handleFrame media b frame first second) := by
  unfold Daemon.handleFrame
  split
  · exact inv.handleInterfaceEvent _ _ _
  · rename_i htype
    exact inv.handleHidOut htype first second ok
  · exact inv.quiet (.handleFeatureGet _)
  · exact inv.handleFeatureSet _ _ _
  · exact inv.quiet (.handleAudioOut _)
  · exact inv

/-- The mute state changes with a press only, and then a microphone state report
is built at once. -/
theorem handleMicInput (inv : Inv b) (report : UsbInputReport) (outcome : SendOutcome)
    (ok : PressesMute b.port.muteButtonDown report → b.port.micMuted = false →
      ∀ pending ∈ b.port.pendingBtStateReport, ReportMutes pending.toList) :
    Inv (handleMicInput b report outcome) := by
  simp only [Daemon.handleMicInput]
  by_cases hpress : PressesMute b.port.muteButtonDown report
  · have hchanged : ((report.get kUsbInputMuteButtonOffset &&& kUsbInputMuteButtonMask != 0) &&
        !b.port.muteButtonDown) = true := by
      simp [hpress.1, hpress.2]
    simp only [hchanged, Bool.true_or, if_true, Bool.xor_true]
    refine sendMicStateReport ?_ ?_ outcome
    · intro hmuted
      exact ok hpress (by simpa using hmuted)
    · exact inv.law
  · have hchanged : ((report.get kUsbInputMuteButtonOffset &&& kUsbInputMuteButtonMask != 0) &&
        !b.port.muteButtonDown) = false := by
      rw [PressesMute, not_and_or] at hpress
      rcases hpress with hdown | hup
      · simp [eq_true_of_ne_false hdown]
      · simp [not_not.mp hup]
    simp only [hchanged, Bool.false_or, Bool.xor_false]
    split_ifs
    · refine sendMicStateReport ?_ ?_ outcome
      · exact inv.pending
      · exact inv.law
    · exact inv.keeps rfl rfl rfl rfl

theorem handleHeadsetInput (inv : Inv b) (report : UsbInputReport) (first second : SendOutcome) :
    Inv (handleHeadsetInput b report first second) := by
  simp only [Daemon.handleHeadsetInput]
  split_ifs
  · refine forwardBtStateIfChanged (setAudioOutStreamActive ?_ _ _) _ _
    exact inv.keeps rfl rfl rfl rfl
  · exact inv.keeps rfl rfl rfl rfl
  · exact inv

theorem handleBtInput (inv : Inv b) (packet : List UInt8) (mic first second : SendOutcome)
    (ok : MuteGuard b (.btInput packet mic first second)) :
    Inv (handleBtInput media b packet mic first second) := by
  unfold Daemon.handleBtInput
  split_ifs
  · exact inv.quiet (.handleMicPacket packet)
  · split
    · exact inv
    · rename_i report hreport
      have hinput := (inv.handleMicInput report mic (ok report hreport)).handleHeadsetInput report
        first second
      exact hinput.quiet (.writeVdsFrame _ _)

/-- An audio report carries the image as it is. -/
theorem flushPendingAudioChunk (inv : Inv b) (now later : Nat) (outcome : SendOutcome) :
    Inv (flushPendingAudioChunk b now later outcome) := by
  unfold Daemon.flushPendingAudioChunk
  split_ifs
  · exact inv
  · split
    · exact inv
    · rename_i chunk rest _
      have hsend := inv.trySendOutputReport outcome fun hmuted => reportMutes_of_carried
        (carriedPowerSave_buildPacket b.port.hapticsBuilder chunk.haptics chunk.speaker
          b.port.outputState.state true b.port.headsetPlugged) (inv.image hmuted)
      cases outcome with
      | wouldBlock => exact hsend.keeps rfl rfl rfl rfl
      | sent =>
          dsimp only
          split_ifs
          · exact hsend.dropPending rfl rfl rfl rfl
          · exact hsend.keeps rfl rfl rfl rfl

theorem flushPendingOutputs (inv : Inv b) (now later : Nat) (first second : SendOutcome) :
    Inv (flushPendingOutputs media b now later first second) := by
  have hflush := inv.flushPendingBtStateReport first
  simp only [Daemon.flushPendingOutputs]
  split_ifs
  · exact (hflush.quiet .enqueueSpeakerWaveoutChunk).flushPendingAudioChunk _ _ _
  · exact hflush

theorem completePendingController (inv : Inv b) (replies : List (List UInt8))
    (initSent connected : Bool) :
    Inv (completePendingController media b replies initSent connected) := by
  have hreset : Inv { b with port := resetVirtualPort media } := unmuted rfl inv.law
  have hinit := hreset.quiet (.initializeBtController _ kInitialFeatureReportIds replies)
  simp only [Daemon.completePendingController]
  split
  · rename_i c hc
    rw [hc] at hinit
    exact hinit
  · rename_i c hc
    rw [hc] at hinit
    split_ifs
    · have hsend := hinit.trySendOutputReport .sent fun hmuted =>
        reportMutes_of_carried (carriedPowerSave_buildBtInitReport _) (hinit.image hmuted)
      exact hsend.keeps rfl rfl rfl rfl
    · exact hinit

theorem step (inv : Inv b) {action : Action} (ok : MuteGuard b action)
    (h : Steps media b action t) : Inv t := by
  cases h with
  | frame frame first second => exact inv.handleFrame frame first second ok
  | btInput packet mic first second => exact inv.handleBtInput packet mic first second ok
  | btControl packet => exact inv.quiet (.handleBtControl packet)
  | flush now later first second => exact inv.flushPendingOutputs now later first second
  | drop => exact unmuted rfl inv.law
  | detach => exact unmuted rfl inv.law
  | connect replies initSent connected =>
      exact inv.completePendingController replies initSent connected

theorem init : Inv (Bridge.init media) := unmuted rfl (by simp [MuteLaw, Bridge.init])

end Inv

/-- In every run that meets the condition, no report unmutes a muted microphone. -/
theorem muteLaw_of_guardedRun {actions : List Action}
    (run : GuardedRun (step media) MuteGuard (Bridge.init media) actions t) : MuteLaw t.sent :=
  (run.invariant (fun _ _ _ inv ok h => inv.step ok (steps_of_step h)) Inv.init).law

section Examples

def connectAction : Action := .connect [[0x09], [0x20], [0x05]] true true

/-- A control packet with the mute button down. -/
def mutePress : List UInt8 :=
  [0xa1, 0x31, 0x01] ++ List.replicate 9 0 ++ [kUsbInputMuteButtonMask] ++ List.replicate 53 0

/-- An output report with only the audio-mute flag and the given power-save byte. -/
def audioMuteReport (powerSaveControl : UInt8) : Frame where
  type := .usbHidOut
  payload := [kUsbOutputReportId, 0x00, 0x02] ++ List.replicate 7 0 ++ [powerSaveControl] ++
    List.replicate 37 0
  payload_le := by simp [frameMaxPayload]

theorem guardedRun_audioMute : ∃ t, GuardedRun (step silentMedia) MuteGuard
    (Bridge.init silentMedia) [connectAction, .btInput mutePress .sent .sent .sent,
      .frame (audioMuteReport 0x10) .sent .sent] t := by
  refine ⟨_, .cons trivial rfl (.cons ?_ rfl (.cons ?_ rfl (.nil _)))⟩
  · intro report _ _ _ pending hpending
    cases hpending
  · intro _ _ update hupdate _
    have hmutes : ∀ update ∈ DsOutputState.reportUpdate (audioMuteReport 0x10).payload,
        MicMuteBit update.powerSaveControl := by decide
    exact hmutes update hupdate

/-- The reports of a run in which the host repeats the mute. -/
theorem muteLaw_audioMute : ∃ t, GuardedRun (step silentMedia) MuteGuard
    (Bridge.init silentMedia) [connectAction, .btInput mutePress .sent .sent .sent,
      .frame (audioMuteReport 0x10) .sent .sent] t ∧ MuteLaw t.sent := by
  obtain ⟨t, run⟩ := guardedRun_audioMute
  exact ⟨t, run, muteLaw_of_guardedRun run⟩

/-- A host report with the audio-mute flag undoes the mute button. -/
theorem muteLaw_violated :
    ∃ t, Run (step silentMedia) (Bridge.init silentMedia)
      [connectAction, .btInput mutePress .sent .sent .sent,
        .frame (audioMuteReport 0x00) .sent .sent] t ∧ ¬MuteLaw t.sent :=
  ⟨_, run_of_execute rfl, by decide +kernel⟩

end Examples

end VirtualDualSense.Linux.MicMute
