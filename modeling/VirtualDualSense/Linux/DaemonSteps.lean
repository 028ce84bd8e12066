import VirtualDualSense.Linux.Daemon

/-!
# Steps of the Linux daemon

What an iteration can do is said once here. Most parts of the daemon do not touch the reports that
go to the controller: they write to the port, fill the feature cache, or queue audio.
-/

namespace VirtualDualSense.Linux.DaemonSteps

open Protocol.Frames Protocol.OutputState Protocol.BtPackets Protocol.BridgeParts Daemon

variable {E D : Type*} (media : Media E D)

/-- What one iteration can do, with the condition under which it happens. -/
inductive Steps (b : Bridge E D) : Action → Bridge E D → Prop
  | frame (frame : Frame) (first second : SendOutcome) :
      Steps b (.frame frame first second) (handleFrame media b frame first second)
  | btInput (packet : List UInt8) (mic first second : SendOutcome) (connected : b.backend = true)
      (fits : packet.length ≤ kBtReadBufferSize) :
      Steps b (.btInput packet mic first second) (handleBtInput media b packet mic first second)
  | btControl (packet : List UInt8) (connected : b.backend = true)
      (fits : packet.length ≤ kBtReadBufferSize) :
      Steps b (.btControl packet) (handleBtControl b packet)
  | flush (now later : Nat) (first second : SendOutcome) (connected : b.backend = true) :
      Steps b (.flush now later first second) (flushPendingOutputs media b now later first second)
  | drop (connected : b.backend = true) : Steps b .drop (dropBtBackend b)
  | detach (connected : b.backend = true) :
      Steps b .detach { b with port := disconnectVirtualPort b.port, backend := false }
  | connect (replies : List (List UInt8)) (initSent connected : Bool)
      (disconnected : b.backend = false) :
      Steps b (.connect replies initSent connected)
        (completePendingController media b replies initSent connected)

variable {media} {b c t : Bridge E D}

theorem steps_of_step {action : Action} (h : step media b action = some t) :
    Steps media b action t := by
  cases action with
  | frame frame first second =>
      obtain rfl := Option.some.inj h
      exact .frame frame first second
  | btInput packet mic first second =>
      obtain ⟨⟨connected, fits⟩, ⟨⟩⟩ := Option.ite_none_right_eq_some.mp h
      exact .btInput packet mic first second connected fits
  | btControl packet =>
      obtain ⟨⟨connected, fits⟩, ⟨⟩⟩ := Option.ite_none_right_eq_some.mp h
      exact .btControl packet connected fits
  | flush now later first second =>
      obtain ⟨connected, ⟨⟩⟩ := Option.ite_none_right_eq_some.mp h
      exact .flush now later first second connected
  | drop =>
      obtain ⟨connected, ⟨⟩⟩ := Option.ite_none_right_eq_some.mp h
      exact .drop connected
  | detach =>
      obtain ⟨connected, ⟨⟩⟩ := Option.ite_none_right_eq_some.mp h
      exact .detach connected
  | connect replies initSent connected =>
      obtain ⟨hbackend, ⟨⟩⟩ := Option.ite_none_left_eq_some.mp h
      exact .connect replies initSent connected (Bool.eq_false_iff.mpr hbackend)

/-- Only the cache and the port see a cached report. -/
theorem cacheFeatureReport_frame (b : Bridge E D) (report : List UInt8) :
    ∃ featureCache portWrites, cacheFeatureReport b report =
      { b with
        port := { b.port with featureCache := featureCache }
        portWrites := portWrites } := by
  unfold cacheFeatureReport writeVdsFrame
  split
  · exact ⟨_, _, rfl⟩
  · split
    · exact ⟨_, _, rfl⟩
    · exact ⟨_, _, rfl⟩

/-- A feature report is passed on, after the test command in it. -/
theorem handleFeatureSet_frame (payload : List UInt8) (first second : SendOutcome) :
    ∃ c controlWrites,
      handleFeatureSet media b payload first second = { c with controlWrites := controlWrites } ∧
        (c = b ∨ ∃ reportId command, payload = reportId :: command ∧
          (3 ≤ payload.length ∧ reportId = kTestCommandReportId) ∧
          c = handleTestCommand media b
            (if command.head? = some kTestCommandReportId then command.tail else command)
            first second) := by
  have hpass : ∀ c : Bridge E D, ∃ controlWrites,
      (if c.backend then
        { c with controlWrites := c.controlWrites ++ [featureSetPacket payload] }
      else c) = { c with controlWrites := controlWrites } := by
    intro c
    split_ifs
    · exact ⟨_, rfl⟩
    · exact ⟨_, rfl⟩
  unfold handleFeatureSet
  split
  · exact ⟨b, _, rfl, .inl rfl⟩
  · rename_i reportId command
    dsimp only
    by_cases htest : 3 ≤ (reportId :: command).length ∧ reportId = kTestCommandReportId
    · rw [if_pos htest]
      obtain ⟨controlWrites, hpassed⟩ := hpass (handleTestCommand media b
        (if command.head? = some kTestCommandReportId then command.tail else command) first second)
      exact ⟨_, controlWrites, hpassed, .inr ⟨reportId, command, rfl, htest, rfl⟩⟩
    · rw [if_neg htest]
      obtain ⟨controlWrites, hpassed⟩ := hpass b
      exact ⟨b, controlWrites, hpassed, .inl rfl⟩

/-- The output image, the mute state, and the sent and deferred reports are left alone. -/
structure KeepsReports (b t : Bridge E D) : Prop where
  image : t.port.outputState.state = b.port.outputState.state
  muted : t.port.micMuted = b.port.micMuted
  pendingState : t.port.pendingBtState = b.port.pendingBtState
  pendingReport : t.port.pendingBtStateReport = b.port.pendingBtStateReport
  sent : t.sent = b.sent
  backend : t.backend = b.backend

namespace KeepsReports

theorem refl (b : Bridge E D) : KeepsReports b b := ⟨rfl, rfl, rfl, rfl, rfl, rfl⟩

theorem trans (first : KeepsReports b c) (second : KeepsReports c t) : KeepsReports b t where
  image := second.image.trans first.image
  muted := second.muted.trans first.muted
  pendingState := second.pendingState.trans first.pendingState
  pendingReport := second.pendingReport.trans first.pendingReport
  sent := second.sent.trans first.sent
  backend := second.backend.trans first.backend

theorem writeVdsFrame (type : FrameType) (payload : List UInt8) :
    KeepsReports b (writeVdsFrame b type payload) := by
  unfold Daemon.writeVdsFrame
  split
  · exact ⟨rfl, rfl, rfl, rfl, rfl, rfl⟩
  · exact .refl b

theorem cacheFeatureReport (b : Bridge E D) (report : List UInt8) :
    KeepsReports b (cacheFeatureReport b report) := by
  obtain ⟨_, _, hframe⟩ := cacheFeatureReport_frame b report
  rw [hframe]
  exact ⟨rfl, rfl, rfl, rfl, rfl, rfl⟩

theorem handleFeatureGet (payload : List UInt8) :
    KeepsReports b (handleFeatureGet b payload) := by
  unfold Daemon.handleFeatureGet
  split
  · exact .refl b
  · split
    · exact .writeVdsFrame _ _
    · split_ifs
      · exact ⟨rfl, rfl, rfl, rfl, rfl, rfl⟩
      · exact .refl b

theorem handleAudioOut (payload : List UInt8) :
    KeepsReports b (handleAudioOut media b payload) := by
  unfold Daemon.handleAudioOut
  split_ifs
  · exact ⟨rfl, rfl, rfl, rfl, rfl, rfl⟩
  · exact .refl b

theorem handleMicPacket (packet : List UInt8) :
    KeepsReports b (handleMicPacket media b packet) := by
  unfold Daemon.handleMicPacket
  split_ifs
  · split
    · exact .refl b
    · dsimp only
      split
      · exact ⟨rfl, rfl, rfl, rfl, rfl, rfl⟩
      · refine .trans ?_ (.writeVdsFrame _ _)
        exact ⟨rfl, rfl, rfl, rfl, rfl, rfl⟩
  · exact .refl b

theorem handleBtControl (packet : List UInt8) : KeepsReports b (handleBtControl b packet) := by
  unfold Daemon.handleBtControl
  split
  · exact .refl b
  · exact .refl b
  · dsimp only
    split_ifs
    · refine .trans ?_ (.writeVdsFrame _ _)
      exact ⟨rfl, rfl, rfl, rfl, rfl, rfl⟩
    · exact ⟨rfl, rfl, rfl, rfl, rfl, rfl⟩

theorem enqueueSpeakerWaveoutChunk : KeepsReports b (enqueueSpeakerWaveoutChunk media b) := by
  unfold Daemon.enqueueSpeakerWaveoutChunk
  split_ifs
  · exact ⟨rfl, rfl, rfl, rfl, rfl, rfl⟩
  · exact .refl b

theorem awaitFeatureReport (b : Bridge E D) (reportId : UInt8) (replies : List (List UInt8)) :
    KeepsReports b (awaitFeatureReport b reportId replies).1 := by
  induction replies generalizing b with
  | nil => exact .refl b
  | cons report rest ih =>
      simp only [Daemon.awaitFeatureReport]
      split_ifs
      · exact .cacheFeatureReport b report
      · exact .trans (.cacheFeatureReport b report) (ih _)

theorem initializeBtController (b : Bridge E D) (ids : List UInt8)
    (replies : List (List UInt8)) : KeepsReports b (initializeBtController b ids replies).1 := by
  induction ids generalizing b replies with
  | nil => exact .refl b
  | cons reportId ids ih =>
      have hasked : KeepsReports b
          { b with controlWrites := b.controlWrites ++ [featureGetPacket reportId] } :=
        ⟨rfl, rfl, rfl, rfl, rfl, rfl⟩
      have hawait := hasked.trans (.awaitFeatureReport _ reportId replies)
      simp only [Daemon.initializeBtController]
      split
      · rename_i c hc
        rw [hc] at hawait
        exact hawait
      · rename_i c rest hc
        rw [hc] at hawait
        exact hawait.trans (ih c rest)

end KeepsReports

end VirtualDualSense.Linux.DaemonSteps
