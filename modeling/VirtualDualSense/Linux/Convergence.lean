import VirtualDualSense.Linux.DaemonSteps
import VirtualDualSense.Protocol.Conveyed

/-!
# Convergence of the output state

Every change of the output image is sent, deferred in a report that replaces an
older one, or superseded by an audio report. The microphone state report is the
exception: it changes the image, it is dropped when the channel blocks, and it is
not recorded as sent. The image reaches the controller in the runs in which such
a report is sent while nothing is deferred, or changes nothing, and in which no
update that is taken for the last one sent follows it.
-/

namespace VirtualDualSense.Linux.Convergence

open Lib.Runs Protocol.Frames Protocol.OutputState Protocol.PcmAudioExtractor Protocol.BtPackets
  Protocol.BridgeParts Protocol.Conveyed Daemon DaemonSteps

variable {E D : Type*} {media : Media E D} {b t : Bridge E D}

/-- The controller's image after the reports that were transmitted. -/
def conveyed (b : Bridge E D) : DsState := receiveAll (b.sent.map Transmission.report)

/-- The controller has the image, or a deferred report brings it. -/
def Converged (b : Bridge E D) : Prop :=
  b.backend = true → conveyed b = b.port.outputState.state ∨
    ∃ report, b.port.pendingBtStateReport = some report ∧
      ∀ image, receive image report.toList = b.port.outputState.state

section Guard

/-- An image that counts as sent is the controller's image, or the deferred report
goes out before they are compared. -/
def ForwardOk (b : Bridge E D) (state : DsState) (first : SendOutcome) : Prop :=
  b.port.lastSentBtState = some state →
    conveyed b = state ∨ b.port.pendingBtStateReport.isSome ∧ first = .sent

/-- A microphone state report changes nothing, or it is sent while nothing is
deferred and enables no new field. -/
def MicOk (b : Bridge E D) (active muted : Bool) (outcome : SendOutcome) : Prop :=
  (b.port.outputState.applyMicState active muted).state = b.port.outputState.state ∨
    outcome = .sent ∧ b.port.pendingBtStateReport = none ∧ MicFlagsSet b.port.outputState.state

/-- The waveout command in a feature report: whether the speaker is to play. -/
def waveoutCommand (b : Bridge E D) (payload : List UInt8) : Option Bool :=
  match payload with
  | [] => none
  | reportId :: command =>
      if 3 ≤ payload.length ∧ reportId = kTestCommandReportId then
        match if command.head? = some kTestCommandReportId then command.tail else command with
        | device :: action :: enable :: _ =>
            if device = kTestCommandAudioDevice ∧ action = kTestCommandWaveoutControl then
              some (enable != 0 && b.port.speakerWaveoutSelected)
            else none
        | _ => none
      else none

/-- The image that a frame asks for, if it changes the image. -/
def requestedImage (b : Bridge E D) (frame : Frame) : Option DsState :=
  match frame.type with
  | .usbInterface =>
      match frame.payload with
      | [_, altsetting, interfaceType, _] =>
          if interfaceType = kUsbInterfaceAudioOut ∧ altsetting ≠ 0 then
            some (b.port.outputState.setAudioOutStreamActive true b.port.headsetPlugged).state
          else none
      | _ => none
  | .usbHidOut =>
      (b.port.outputState.applyUsbOutputReport frame.payload).map fun outputState =>
        if b.port.audioOutStreamActive || b.port.speakerWaveoutActive then
          (outputState.setAudioOutStreamActive true b.port.headsetPlugged).state
        else outputState.state
  | .usbFeatureSet =>
      (waveoutCommand b frame.payload).map fun active =>
        (b.port.outputState.setAudioOutStreamActive active b.port.headsetPlugged).state
  | _ => none

/-- The microphone stream that a frame starts or stops. -/
def requestedMicStream (frame : Frame) : Option Bool :=
  match frame.type, frame.payload with
  | .usbInterface, [_, altsetting, interfaceType, _] =>
      if interfaceType = kUsbInterfaceAudioIn then some (altsetting != 0) else none
  | _, _ => none

section Input

variable (b : Bridge E D) (report : UsbInputReport)

def headsetPlugged : Bool :=
  report.get kUsbInputHeadsetOffset &&& kUsbInputHeadphonesPluggedMask != 0

def micMuteChanged : Bool :=
  (report.get kUsbInputMuteButtonOffset &&& kUsbInputMuteButtonMask != 0) && !b.port.muteButtonDown

def headsetMicChanged : Bool :=
  (report.get kUsbInputHeadsetOffset &&& kUsbInputMicPluggedMask != 0) != b.port.headsetMicPlugged

/-- The input report makes the daemon build a microphone state report. -/
def sendsMicState : Bool :=
  micMuteChanged b report || (headsetMicChanged b report && b.port.audioInStreamActive)

/-- The input report reroutes a running stream. -/
def reroutes : Bool :=
  headsetPlugged report != b.port.headsetPlugged &&
    (b.port.audioOutStreamActive || b.port.speakerWaveoutActive)

end Input

/-- The condition on the environment, for a connected controller. A rerouted stream
forwards the whole image after the microphone state report. -/
def ConvergenceGuard (b : Bridge E D) : Action → Prop
  | .frame frame first _ => b.backend = true →
      (∀ state ∈ requestedImage b frame, ForwardOk b state first) ∧
        ∀ active ∈ requestedMicStream frame, MicOk b active b.port.micMuted first
  | .btInput packet mic first _ => btInputPayloadType packet ≠ .audio →
      ∀ report ∈ btInputToUsbInput packet,
        if reroutes b report then
          ForwardOk (handleMicInput b report mic) ((handleMicInput b report
            mic).port.outputState.setAudioOutStreamActive true (headsetPlugged report)).state first
        else sendsMicState b report = true →
          MicOk b b.port.audioInStreamActive (b.port.micMuted ^^ micMuteChanged b report) mic
  | _ => True

end Guard

/-- The deferred image and the deferred report belong together. -/
structure Sound (b : Bridge E D) : Prop where
  image : WellFormed b.port.outputState.state
  pending : b.port.pendingBtState = none ∧ b.port.pendingBtStateReport = none ∨
    ∃ state sequence, b.port.pendingBtState = some state ∧
      b.port.pendingBtStateReport = some (DsOutputState.stateReport sequence state)

/-- Nothing is deferred and the controller has the image, or the image is deferred. -/
structure Inv (b : Bridge E D) : Prop extends Sound b where
  synced : b.backend = true →
    b.port.pendingBtState = none ∧ conveyed b = b.port.outputState.state ∨
      b.port.pendingBtState = some b.port.outputState.state

theorem Inv.converged (inv : Inv b) : Converged b := by
  intro hbackend
  rcases inv.synced hbackend with ⟨-, hconveyed⟩ | hdeferred
  · exact .inl hconveyed
  · rcases inv.pending with ⟨hnone, -⟩ | ⟨state, sequence, hstate, hreport⟩
    · rw [hnone] at hdeferred
      cases hdeferred
    · obtain rfl := Option.some.inj (hstate.symm.trans hdeferred)
      exact .inr ⟨_, hreport, fun image => receive_stateReport image sequence inv.image⟩

section Keeps

theorem Sound.keeps (sound : Sound b)
    (himage : t.port.outputState.state = b.port.outputState.state)
    (hstate : t.port.pendingBtState = b.port.pendingBtState)
    (hreport : t.port.pendingBtStateReport = b.port.pendingBtStateReport) : Sound t where
  image := by rw [himage]; exact sound.image
  pending := by rw [hstate, hreport]; exact sound.pending

theorem Inv.keeps (inv : Inv b) (himage : t.port.outputState.state = b.port.outputState.state)
    (hstate : t.port.pendingBtState = b.port.pendingBtState)
    (hreport : t.port.pendingBtStateReport = b.port.pendingBtStateReport)
    (hsent : t.sent = b.sent) (hbackend : t.backend = b.backend) : Inv t where
  toSound := inv.toSound.keeps himage hstate hreport
  synced := by
    rw [himage, hstate, hbackend, show conveyed t = conveyed b by rw [conveyed, hsent, conveyed]]
    exact inv.synced

theorem Inv.quiet (inv : Inv b) (h : KeepsReports b t) : Inv t :=
  inv.keeps h.image h.pendingState h.pendingReport h.sent h.backend

theorem Sound.disconnected (sound : Sound b) (h : b.backend = false) : Inv b where
  toSound := sound
  synced := by simp [h]

theorem conveyed_sent (report : List UInt8) :
    conveyed (trySendOutputReport b report .sent) = receive (conveyed b) report := by
  simp only [conveyed, trySendOutputReport, List.map_append, List.map_cons, List.map_nil,
    receiveAll_append]

end Keeps

section Forward

/-- A report of the image that is built now. -/
theorem Sound.sends (sound : Sound b) (second : SendOutcome) :
    Inv (match second with
      | .sent =>
          let c := trySendOutputReport { b with port := { b.port with
            outputState := b.port.outputState.buildBtStateReport.1 } }
            b.port.outputState.buildBtStateReport.2.toList .sent
          { c with port := { c.port with
              lastSentBtState := some b.port.outputState.state
              pendingBtState := none
              pendingBtStateReport := none } }
      | .wouldBlock =>
          { b with port := { b.port with
              outputState := b.port.outputState.buildBtStateReport.1
              pendingBtState := some b.port.outputState.state
              pendingBtStateReport := some b.port.outputState.buildBtStateReport.2 } }) := by
  cases second with
  | sent =>
      refine ⟨⟨sound.image, .inl ⟨rfl, rfl⟩⟩, fun _ => .inl ⟨rfl, ?_⟩⟩
      exact (conveyed_sent _).trans (receive_stateReport _ _ sound.image)
  | wouldBlock =>
      exact ⟨⟨sound.image, .inr ⟨_, _, rfl, rfl⟩⟩, fun _ => .inr rfl⟩

/-- Whatever was deferred before, the image is sent or deferred afterwards. -/
theorem Sound.forwardBtStateIfChanged (sound : Sound b) {first : SendOutcome}
    (ok : ForwardOk b b.port.outputState.state first) (second : SendOutcome) :
    Inv (forwardBtStateIfChanged b first second) := by
  simp only [Daemon.forwardBtStateIfChanged]
  rcases sound.pending with ⟨hstate, hreport⟩ | ⟨state, sequence, hstate, hreport⟩
  · have hflush : (flushPendingBtStateReport b first).1 = b := by
      simp [flushPendingBtStateReport, hstate]
    rw [hflush]
    split_ifs with hsent hpending
    · exact ⟨⟨sound.image, .inl ⟨rfl, rfl⟩⟩, fun _ => .inl ⟨rfl, (ok hsent).resolve_right
        (by simp [hreport])⟩⟩
    · exact ⟨sound, fun _ => .inl ⟨hstate, (ok hsent).resolve_right (by simp [hreport])⟩⟩
    · rename_i hdeferred
      exact ⟨sound, fun _ => .inr hdeferred⟩
    · exact sound.sends second
  · cases first with
    | sent =>
        -- the deferred report goes out, and its image is the last sent one
        let c : Bridge E D := { trySendOutputReport b
          (DsOutputState.stateReport sequence state).toList .sent with port := { b.port with
            lastSentBtState := some state
            pendingBtState := none
            pendingBtStateReport := none } }
        have hflush : (flushPendingBtStateReport b .sent).1 = c := by
          simp [flushPendingBtStateReport, hstate, hreport, c, trySendOutputReport]
        have hsound : Sound c := ⟨sound.image, .inl ⟨rfl, rfl⟩⟩
        rw [hflush]
        split_ifs with hsent hpending
        · cases hpending
        · refine ⟨hsound, fun _ => .inl ⟨rfl, ?_⟩⟩
          have heq : state = b.port.outputState.state := Option.some.inj hsent
          refine (conveyed_sent _).trans ?_
          rw [heq]
          exact receive_stateReport _ _ sound.image
        · rename_i hdeferred
          cases hdeferred
        · exact hsound.sends second
    | wouldBlock =>
        have hflush : (flushPendingBtStateReport b .wouldBlock).1 = b := by
          simp [flushPendingBtStateReport, hstate, hreport, trySendOutputReport]
        rw [hflush]
        split_ifs with hsent hpending hdeferred
        · refine ⟨⟨sound.image, .inl ⟨rfl, rfl⟩⟩, fun _ => .inl ⟨rfl, ?_⟩⟩
          exact (ok hsent).resolve_right (by simp)
        · simp [hstate] at hpending
        · exact ⟨sound, fun _ => .inr hdeferred⟩
        · exact sound.sends second

theorem Sound.forwardIfBackend (sound : Sound b) {first : SendOutcome}
    (ok : b.backend = true → ForwardOk b b.port.outputState.state first) (second : SendOutcome) :
    Inv (forwardIfBackend b first second) := by
  unfold Daemon.forwardIfBackend
  split_ifs with hbackend
  · exact sound.forwardBtStateIfChanged (ok hbackend) second
  · exact sound.disconnected (Bool.eq_false_iff.mpr hbackend)

end Forward

section Mic

theorem Sound.sendMicStateReport (sound : Sound b) (outcome : SendOutcome) :
    Sound (sendMicStateReport b outcome) := by
  cases outcome <;> exact ⟨sound.image.applyMicState _ _, sound.pending⟩

/-- The report overlays the controller's image as it changes the bridge's. -/
theorem Inv.sendMicStateReport (inv : Inv b) {outcome : SendOutcome}
    (ok : MicOk b b.port.audioInStreamActive b.port.micMuted outcome) :
    Inv (sendMicStateReport b outcome) := by
  have hreceive : ∀ {o : DsOutputState} {active muted : Bool}, MicFlagsSet o.state →
      conveyed b = o.state →
      receive (conveyed b) (o.buildBtMicStateReport active muted).2.toList =
        (o.applyMicState active muted).state := by
    intro o active muted hflags hconveyed
    rw [receive_buildBtMicStateReport, hconveyed, overlay_micStateImage active muted hflags]
  refine ⟨inv.toSound.sendMicStateReport outcome, fun hbackend => ?_⟩
  rcases ok with hsame | ⟨rfl, hnone, hflags⟩
  · rcases inv.synced (by cases outcome <;> exact hbackend) with ⟨hstate, hconveyed⟩ | hdeferred
    · left
      cases outcome with
      | sent =>
          exact ⟨hstate, (conveyed_sent _).trans
            (hreceive (micFlagsSet_of_unchanged _ _ hsame) hconveyed)⟩
      | wouldBlock => exact ⟨hstate, hconveyed.trans hsame.symm⟩
    · right
      cases outcome with
      | sent => exact hdeferred.trans (congrArg some hsame.symm)
      | wouldBlock => exact hdeferred.trans (congrArg some hsame.symm)
  · have hstate : b.port.pendingBtState = none := by
      rcases inv.pending with ⟨hstate, -⟩ | ⟨_, _, -, hreport⟩
      · exact hstate
      · rw [hnone] at hreport
        cases hreport
    rcases inv.synced hbackend with ⟨-, hconveyed⟩ | hdeferred
    · exact .inl ⟨hstate, (conveyed_sent _).trans (hreceive hflags hconveyed)⟩
    · rw [hstate] at hdeferred
      cases hdeferred

theorem Inv.sendMicReport (inv : Inv b) (outcome : SendOutcome) :
    Inv (sendMicReport b outcome) := by
  have hbuilt : Inv { b with port := { b.port with outputState :=
      (b.port.outputState.buildBtMicReport b.port.audioInStreamActive).1 } } :=
    inv.keeps rfl rfl rfl rfl rfl
  simp only [Daemon.sendMicReport]
  cases outcome with
  | sent =>
      refine ⟨⟨hbuilt.image, hbuilt.pending⟩, fun hbackend => ?_⟩
      rw [conveyed_sent, receive_buildBtMicReport]
      exact hbuilt.synced hbackend
  | wouldBlock => exact hbuilt

end Mic

namespace Inv

theorem handleInterfaceEvent (inv : Inv b) {frame : Frame} {first : SendOutcome}
    (htype : frame.type = .usbInterface)
    (hforward : b.backend = true → ∀ state ∈ requestedImage b frame, ForwardOk b state first)
    (hmic : b.backend = true → ∀ active ∈ requestedMicStream frame,
      MicOk b active b.port.micMuted first) (second : SendOutcome) :
    Inv (handleInterfaceEvent media b frame.payload first second) := by
  unfold Daemon.handleInterfaceEvent
  unfold requestedImage at hforward
  unfold requestedMicStream at hmic
  rw [htype] at hforward hmic
  dsimp only at hforward
  split
  · rename_i altsetting interfaceType _ hpayload
    rw [hpayload] at hforward hmic
    dsimp only at hforward hmic ⊢
    split_ifs with hout hstop hin hbackend
    · exact inv.keeps rfl rfl rfl rfl rfl
    · refine Sound.forwardIfBackend ?_ (fun hbackend => ?_) second
      · exact ⟨inv.image.setAudioOutStreamActive _ _, inv.pending⟩
      · exact hforward hbackend _ (by simp [hout, hstop, modifyOutputState])
    · refine sendMicReport (sendMicStateReport ?_ ?_) second
      · exact inv.keeps rfl rfl rfl rfl rfl
      · exact hmic hbackend _ (by simp [hin])
    · exact inv.keeps rfl rfl rfl rfl rfl
    · exact inv
  · exact inv

theorem handleHidOut (inv : Inv b) {frame : Frame} {first : SendOutcome}
    (htype : frame.type = .usbHidOut)
    (hforward : b.backend = true → ∀ state ∈ requestedImage b frame, ForwardOk b state first)
    (second : SendOutcome) : Inv (handleHidOut b frame.payload first second) := by
  unfold Daemon.handleHidOut
  unfold requestedImage at hforward
  rw [htype] at hforward
  dsimp only at hforward
  cases happly : b.port.outputState.applyUsbOutputReport frame.payload with
  | none => exact inv
  | some outputState =>
      obtain ⟨update, -, rfl⟩ := Option.map_eq_some_iff.mp happly
      have hwf := inv.image.applyUpdate update
      rw [happly] at hforward
      dsimp only
      refine Sound.forwardIfBackend ?_ (fun hbackend => ?_) second
      · split_ifs
        · exact ⟨hwf.setAudioOutStreamActive _ _, inv.pending⟩
        · exact ⟨hwf, inv.pending⟩
      · split_ifs at hbackend ⊢ with hactive
        · exact hforward hbackend _ (by simp [hactive, modifyOutputState])
        · exact hforward hbackend _ (by simp [hactive])

theorem handleTestCommand (inv : Inv b) (command : List UInt8) {first : SendOutcome}
    (hforward : b.backend = true → ∀ enable rest,
      command = kTestCommandAudioDevice :: kTestCommandWaveoutControl :: enable :: rest →
      ForwardOk b (b.port.outputState.setAudioOutStreamActive
        (enable != 0 && b.port.speakerWaveoutSelected) b.port.headsetPlugged).state first)
    (second : SendOutcome) : Inv (handleTestCommand media b command first second) := by
  unfold Daemon.handleTestCommand
  split
  · rename_i device action data
    obtain ⟨featureCache, portWrites, hcached⟩ :=
      cacheFeatureReport_frame b ([kTestCommandResultReportId, device, action,
        kTestCommandCompleteStatus] ++ List.replicate 60 0)
    simp only [hcached]
    split_ifs with hprepare hcontrol
    · exact inv.keeps rfl rfl rfl rfl rfl
    · obtain ⟨rfl, rfl⟩ := hcontrol
      split
      · exact inv.keeps rfl rfl rfl rfl rfl
      · rename_i enable rest
        refine Sound.forwardIfBackend ?_ (fun hbackend => ?_) second
        · exact ⟨inv.image.setAudioOutStreamActive _ _, inv.pending⟩
        · exact hforward hbackend enable rest rfl
    · exact inv.keeps rfl rfl rfl rfl rfl
  · exact inv

theorem handleFeatureSet (inv : Inv b) {frame : Frame} {first : SendOutcome}
    (htype : frame.type = .usbFeatureSet)
    (hforward : b.backend = true → ∀ state ∈ requestedImage b frame, ForwardOk b state first)
    (second : SendOutcome) : Inv (handleFeatureSet media b frame.payload first second) := by
  simp only [requestedImage, htype] at hforward
  obtain ⟨c, _, hframe, htest⟩ := handleFeatureSet_frame (b := b) frame.payload first second
  rw [hframe]
  rcases htest with rfl | ⟨reportId, command, hpayload, hcommand, rfl⟩
  · exact inv.keeps rfl rfl rfl rfl rfl
  · refine keeps (inv.handleTestCommand _ (fun hbackend enable rest heq => ?_) second)
      rfl rfl rfl rfl rfl
    refine hforward hbackend _ ?_
    rw [hpayload] at hcommand ⊢
    simp only [waveoutCommand, if_pos hcommand, heq]
    simp

theorem handleFrame (inv : Inv b) (frame : Frame) (first second : SendOutcome)
    (ok : ConvergenceGuard b (.frame frame first second)) :
    Inv (handleFrame media b frame first second) := by
  unfold Daemon.handleFrame
  split
  · rename_i htype
    exact inv.handleInterfaceEvent htype (fun h => (ok h).1) (fun h => (ok h).2) second
  · rename_i htype
    exact inv.handleHidOut htype (fun h => (ok h).1) second
  · exact inv.quiet (.handleFeatureGet _)
  · rename_i htype
    exact inv.handleFeatureSet htype (fun h => (ok h).1) second
  · exact inv.quiet (.handleAudioOut _)
  · exact inv

/-- The port after the mute button and the headset microphone were looked at. -/
theorem handleMicInput_eq (b : Bridge E D) (report : UsbInputReport) (outcome : SendOutcome) :
    ∃ muteButtonDown headsetMicPlugged, Daemon.handleMicInput b report outcome =
      if sendsMicState b report then
        Daemon.sendMicStateReport { b with port := { b.port with
          micMuted := b.port.micMuted ^^ micMuteChanged b report
          muteButtonDown := muteButtonDown
          headsetMicPlugged := headsetMicPlugged } } outcome
      else { b with port := { b.port with
          micMuted := b.port.micMuted ^^ micMuteChanged b report
          muteButtonDown := muteButtonDown
          headsetMicPlugged := headsetMicPlugged } } :=
  ⟨_, _, rfl⟩

theorem sound_handleMicInput (inv : Inv b) (report : UsbInputReport) (outcome : SendOutcome) :
    Sound (handleMicInput b report outcome) := by
  obtain ⟨muteButtonDown, headsetMicPlugged, heq⟩ := handleMicInput_eq b report outcome
  rw [heq]
  split_ifs
  · refine Sound.sendMicStateReport ?_ outcome
    exact inv.toSound.keeps rfl rfl rfl
  · exact inv.toSound.keeps rfl rfl rfl

theorem handleMicInput (inv : Inv b) (report : UsbInputReport) {outcome : SendOutcome}
    (ok : sendsMicState b report = true → MicOk b b.port.audioInStreamActive
      (b.port.micMuted ^^ micMuteChanged b report) outcome) :
    Inv (handleMicInput b report outcome) := by
  obtain ⟨muteButtonDown, headsetMicPlugged, heq⟩ := handleMicInput_eq b report outcome
  rw [heq]
  split_ifs with hsends
  · refine sendMicStateReport ?_ ?_
    · exact inv.keeps rfl rfl rfl rfl rfl
    · exact ok hsends
  · exact inv.keeps rfl rfl rfl rfl rfl

/-- The mute button leaves the audio routes alone. -/
theorem reroutes_handleMicInput (b : Bridge E D) (report other : UsbInputReport)
    (outcome : SendOutcome) : reroutes (Daemon.handleMicInput b report outcome) other =
      reroutes b other := by
  obtain ⟨muteButtonDown, headsetMicPlugged, heq⟩ := handleMicInput_eq b report outcome
  rw [heq]
  split_ifs
  · cases outcome <;> rfl
  · rfl

theorem handleBtInput (inv : Inv b) (packet : List UInt8) (mic first second : SendOutcome)
    (ok : ConvergenceGuard b (.btInput packet mic first second)) :
    Inv (handleBtInput media b packet mic first second) := by
  unfold Daemon.handleBtInput
  split_ifs with haudio
  · exact inv.quiet (.handleMicPacket packet)
  · split
    · exact inv
    · rename_i report hreport
      refine quiet ?_ (.writeVdsFrame _ _)
      have hguard := ok haudio report hreport
      have hroutes := reroutes_handleMicInput b report report mic
      have hsound := inv.sound_handleMicInput report mic
      rw [← hroutes] at hguard
      split_ifs at hguard with hreroutes
      · -- the whole image is forwarded, whatever became of the microphone state report
        generalize Daemon.handleMicInput b report mic = c at hguard hsound hreroutes ⊢
        simp only [reroutes, Bool.and_eq_true, headsetPlugged] at hreroutes
        simp only [Daemon.handleHeadsetInput, hreroutes.1, hreroutes.2, if_true]
        refine Sound.forwardBtStateIfChanged ?_ hguard second
        exact ⟨hsound.image.setAudioOutStreamActive _ _, hsound.pending⟩
      · have hinput := inv.handleMicInput report hguard
        generalize Daemon.handleMicInput b report mic = c at hinput hreroutes ⊢
        simp only [reroutes, Bool.and_eq_true, headsetPlugged, not_and] at hreroutes
        simp only [Daemon.handleHeadsetInput]
        split_ifs with hheadset hactive
        · exact absurd hactive (hreroutes hheadset)
        · exact hinput.keeps rfl rfl rfl rfl rfl
        · exact hinput

/-- The deferred report is the image, so the controller has it afterwards. -/
theorem flushPendingBtStateReport (inv : Inv b) (outcome : SendOutcome) :
    Inv (flushPendingBtStateReport b outcome).1 := by
  unfold Daemon.flushPendingBtStateReport
  rcases inv.pending with ⟨hstate, hreport⟩ | ⟨state, sequence, hstate, hreport⟩
  · rw [hstate, hreport]
    exact inv
  · rw [hstate, hreport]
    cases outcome with
    | sent =>
        refine ⟨⟨inv.image, .inl ⟨rfl, rfl⟩⟩, fun hbackend => .inl ⟨rfl, ?_⟩⟩
        have heq : state = b.port.outputState.state := by
          rcases inv.synced hbackend with ⟨hnone, -⟩ | hdeferred
          · rw [hnone] at hstate
            cases hstate
          · exact Option.some.inj (hstate.symm.trans hdeferred)
        refine (conveyed_sent _).trans ?_
        rw [heq]
        exact receive_stateReport _ _ inv.image
    | wouldBlock => exact inv

/-- An audio report carries the whole image. -/
theorem flushPendingAudioChunk (inv : Inv b) (now later : Nat) (outcome : SendOutcome) :
    Inv (flushPendingAudioChunk b now later outcome) := by
  unfold Daemon.flushPendingAudioChunk
  split_ifs
  · exact inv
  · split
    · exact inv
    · rename_i chunk rest _
      cases outcome with
      | wouldBlock => exact inv.keeps rfl rfl rfl rfl rfl
      | sent =>
          have hreceived : conveyed (trySendOutputReport b (b.port.hapticsBuilder.buildPacket
              chunk.haptics chunk.speaker b.port.outputState.state true
              b.port.headsetPlugged).2.toList .sent) = b.port.outputState.state := by
            rw [conveyed_sent, receive_buildPacket]
          dsimp only
          split_ifs with hdeferred
          · exact ⟨⟨inv.image, .inl ⟨rfl, rfl⟩⟩, fun _ => .inl ⟨rfl, hreceived⟩⟩
          · refine ⟨⟨inv.image, inv.pending⟩, fun hbackend => .inl ⟨?_, hreceived⟩⟩
            rcases inv.synced hbackend with ⟨hnone, -⟩ | hsame
            · exact hnone
            · exact absurd hsame hdeferred

theorem flushPendingOutputs (inv : Inv b) (now later : Nat) (first second : SendOutcome) :
    Inv (flushPendingOutputs media b now later first second) := by
  have hflush := inv.flushPendingBtStateReport first
  simp only [Daemon.flushPendingOutputs]
  split_ifs
  · exact (hflush.quiet .enqueueSpeakerWaveoutChunk).flushPendingAudioChunk _ _ _
  · exact hflush

end Inv

/-- The init report carries the whole image of the new port. -/
theorem inv_completePendingController (hbackend : b.backend = false)
    (replies : List (List UInt8)) (initSent connected : Bool) :
    Inv (completePendingController media b replies initSent connected) := by
  have hreset : Sound { b with port := resetVirtualPort media } :=
    ⟨WellFormed.new, .inl ⟨rfl, rfl⟩⟩
  have hinit := KeepsReports.initializeBtController { b with port := resetVirtualPort media }
    kInitialFeatureReportIds replies
  simp only [completePendingController]
  split
  · rename_i c hc
    rw [hc] at hinit
    exact (hreset.disconnected hbackend).quiet hinit
  · rename_i c hc
    rw [hc] at hinit
    split_ifs
    · refine ⟨hreset.keeps hinit.image hinit.pendingState hinit.pendingReport,
        fun _ => .inl ⟨hinit.pendingState, ?_⟩⟩
      exact (conveyed_sent _).trans (receive_buildBtInitReport _ _)
    · exact (hreset.disconnected hbackend).quiet hinit

theorem Inv.step (inv : Inv b) {action : Action} (ok : ConvergenceGuard b action)
    (h : Steps media b action t) : Inv t := by
  cases h with
  | frame frame first second => exact inv.handleFrame frame first second ok
  | btInput packet mic first second => exact inv.handleBtInput packet mic first second ok
  | btControl packet => exact inv.quiet (.handleBtControl packet)
  | flush now later first second => exact inv.flushPendingOutputs now later first second
  | drop => exact Sound.disconnected ⟨inv.image, .inl ⟨rfl, rfl⟩⟩ rfl
  | detach => exact Sound.disconnected ⟨inv.image, inv.pending⟩ rfl
  | connect replies initSent connected disconnected =>
      exact inv_completePendingController disconnected replies initSent connected

theorem Inv.init : Inv (Bridge.init media) :=
  Sound.disconnected ⟨WellFormed.new, .inl ⟨rfl, rfl⟩⟩ rfl

/-- In every run that meets the condition, the controller has the image or a deferred
report brings it. -/
theorem converged_of_guardedRun {actions : List Action}
    (run : GuardedRun (step media) ConvergenceGuard (Bridge.init media) actions t) :
    Converged t :=
  (run.invariant (fun _ _ _ inv ok h => inv.step ok (steps_of_step h)) Inv.init).converged

section Examples

def controllerConnects : Action := .connect [[0x09], [0x20], [0x05]] true true

/-- A control packet with the mute button down. -/
def muteButtonPacket : List UInt8 :=
  [0xa1, 0x31, 0x01] ++ List.replicate 9 0 ++ [kUsbInputMuteButtonMask] ++ List.replicate 53 0

/-- An output report that runs both motors. -/
def rumbleReport : Frame where
  type := .usbHidOut
  payload := [kUsbOutputReportId, 0x03, 0x00, 0xff, 0xff] ++ List.replicate 43 0
  payload_le := by simp [frameMaxPayload]

theorem guardedRun_deferredRumble : ∃ t, GuardedRun (step silentMedia) ConvergenceGuard
    (Bridge.init silentMedia) [controllerConnects, .btInput muteButtonPacket .sent .sent .sent,
      .frame rumbleReport .wouldBlock .wouldBlock] t := by
  refine ⟨_, .cons trivial rfl (.cons ?_ rfl (.cons ?_ rfl (.nil _)))⟩
  · intro _ report _
    have hroute : reroutes (completePendingController silentMedia (Bridge.init silentMedia)
        [[0x09], [0x20], [0x05]] true true) report = false := Bool.and_false _
    rw [hroute]
    intro _
    exact .inr ⟨rfl, rfl, by decide, by decide⟩
  · intro _
    refine ⟨fun state hstate hsent => ?_, fun active hactive => by cases hactive⟩
    exact absurd (hsent.trans hstate.symm) (by decide +kernel)

/-- A run in which the mute is sent and a rumble is deferred. -/
theorem converged_deferredRumble : ∃ t, GuardedRun (step silentMedia) ConvergenceGuard
    (Bridge.init silentMedia) [controllerConnects, .btInput muteButtonPacket .sent .sent .sent,
      .frame rumbleReport .wouldBlock .wouldBlock] t ∧ Converged t := by
  obtain ⟨t, run⟩ := guardedRun_deferredRumble
  exact ⟨t, run, converged_of_guardedRun run⟩

/-- A microphone state report that would block is lost, and the image has its bytes. -/
theorem micState_lost : ∃ t, Run (step silentMedia) (Bridge.init silentMedia)
    [controllerConnects, .btInput muteButtonPacket .wouldBlock .sent .sent] t ∧ ¬Converged t := by
  refine ⟨_, run_of_execute rfl, fun converged => ?_⟩
  rcases converged rfl with hconveyed | ⟨report, hreport, -⟩
  · exact absurd hconveyed (by decide +kernel)
  · cases hreport

end Examples

end VirtualDualSense.Linux.Convergence
