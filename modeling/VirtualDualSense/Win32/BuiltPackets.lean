import VirtualDualSense.Win32.ChunkQueue
import VirtualDualSense.Protocol.PcmChunking
import VirtualDualSense.Protocol.ReportImage

/-!
# Packets of the audio flush

The packet of a flush starts as zeros, and the branch that ends a drained stream goes on to the
write when the test tone is on. It never gets there with the tone on: the tone fills the queue
right before the flush, and whatever empties the queue in between, or turns the tone on, also
restarts the keepalive delay or stops the stream.
-/

namespace VirtualDualSense.Win32.BuiltPackets

open Lib.Runs Protocol Protocol.Frames Protocol.OutputState Protocol.PcmAudioExtractor
  Protocol.BridgeParts Bridge BridgeSteps

variable {E D : Type*} (media : Media E D) (tuning : Tuning)

section Property

/-- `build_packet` of the state made the report. -/
def Built (s : BridgeState E D) (report : List UInt8) : Prop :=
  ∃ haptics speaker, report =
    (s.hapticsBuilder.buildPacket haptics speaker s.image true s.headsetPlugged).2.toList

/-- The flush takes the branch that ends a drained stream. -/
def Underflows (s : BridgeState E D) (now : Nat) : Prop :=
  s.pendingAudioChunks = [] ∧ s.audioOutStreamActive = true ∧ s.audioPcmStreamActive = true ∧
    (s.nextHapticsSendTime = 0 ∨ s.nextHapticsSendTime ≤ now) ∧
    kAudioUnderflowKeepaliveDelay ≤
      now - (if s.audioQueueEmptySince = 0 then now else s.audioQueueEmptySince)

/-- The actions of the flush thread. -/
def ofFlush : Action → Bool
  | .enqueueWaveout | .flushBegin _ | .flushSend _ | .flushFinish => true
  | _ => false

end Property

section Tone

/-- With the tone on, a flush that finds the queue of an active stream empty is the first one
that does. -/
def Fed (s : BridgeState E D) : Prop :=
  s.speakerWaveoutActive = true → s.pendingAudioChunks = [] → s.audioOutStreamActive = true →
    s.audioPcmStreamActive = true → s.audioQueueEmptySince = 0

/-- The parts of the state that decide about the underflow. -/
def tone (s : BridgeState E D) : Bool × List AudioChunk × Bool × Bool × Nat × Extractor E :=
  (s.speakerWaveoutActive, s.pendingAudioChunks, s.audioOutStreamActive, s.audioPcmStreamActive,
    s.audioQueueEmptySince, s.waveoutExtractor)

structure Inv (b : Session E D) : Prop where
  aligned : Aligned b.state.waveoutExtractor kPcmWindowFrames
  fed : b.flush = .enqueued → Fed b.state

variable {media tuning} {s s' : BridgeState E D} {b t : Session E D}

theorem Fed.congr (fed : Fed s) (h : tone s' = tone s) : Fed s' := by
  simp only [tone, Prod.mk.injEq] at h
  obtain ⟨hwaveout, hpending, hout, hpcm, hsince, -⟩ := h
  intro hactive hempty hstream hrunning
  exact hsince.trans (fed (hwaveout ▸ hactive) (hpending ▸ hempty) (hout ▸ hstream)
    (hpcm ▸ hrunning))

theorem Fed.of_silent (h : s.speakerWaveoutActive = false) : Fed s := by
  intro hactive
  rw [h] at hactive
  cases hactive

theorem Inv.congr (inv : Inv b) (htone : tone t.state = tone b.state)
    (hflush : t.flush = b.flush) : Inv t where
  aligned := by
    have hextractor : t.state.waveoutExtractor = b.state.waveoutExtractor := by
      simp only [tone, Prod.mk.injEq] at htone
      exact htone.2.2.2.2.2
    rw [hextractor]
    exact inv.aligned
  fed := fun h => (inv.fed (hflush ▸ h)).congr htone

theorem length_waveoutPcm (phase : Nat) :
    (waveoutPcm media phase).length = kPcmWindowFrames * kPcmFrameSize := by
  simp only [waveoutPcm, List.length_flatMap, List.length_append, List.length_cons,
    List.length_nil, List.map_const', List.length_range, List.sum_replicate_nat]
  rfl

theorem aligned_freshExtractor (encoder : E) :
    Aligned (freshExtractor encoder) kPcmWindowFrames := ⟨rfl, rfl, rfl⟩

/-- The tone leaves the queue filled and its extractor between two windows. -/
theorem enqueue_fed (aligned : Aligned s.waveoutExtractor kPcmWindowFrames) :
    Aligned (enqueueSpeakerWaveoutChunk media tuning s).waveoutExtractor kPcmWindowFrames ∧
      Fed (enqueueSpeakerWaveoutChunk media tuning s) := by
  have hlength : (waveoutPcm media s.speakerWaveoutPhase).length =
      kPcmWindowFrames * kPcmFrameSize := length_waveoutPcm s.speakerWaveoutPhase
  obtain ⟨haligned, hchunks⟩ := pushUsbAudio_window media.opusEncode aligned hlength
  simp only [enqueueSpeakerWaveoutChunk]
  split_ifs with hwaveout
  · refine ⟨haligned, fun _ hempty => absurd hempty ?_⟩
    have hmax : tuning.kMaxPendingAudioChunks ≠ 0 := by
      have hle : 24 ≤ tuning.kMaxPendingAudioChunks := Nat.le_max_right _ _
      omega
    simp [List.take_eq_nil_iff, hmax, hchunks]
  · refine ⟨aligned, fun hactive hempty => absurd ?_ hwaveout⟩
    rw [hactive, hempty]
    rfl

theorem runOp_tone (outcome : SendOutcome) (feature : Option (List UInt8)) (op : Op) :
    tone (runOp b outcome feature op).1.state = tone b.state := by
  obtain ⟨_, _, _, _, _, _, _, hframe⟩ := runOp_frame (b := b) outcome feature op
  rw [hframe]
  rfl

theorem handleBluetoothFrame_tone (frame : Frame) (muteRequest : Option Bool) :
    tone (handleBluetoothFrame media b frame muteRequest).state = tone b.state := by
  obtain ⟨_, _, _, _, _, _, _, _, hframe⟩ := handleBluetoothFrame_frame frame muteRequest
  rw [hframe]
  rfl

theorem queueAudioChunks_waveout (payload : List UInt8) :
    (queueAudioChunks media tuning s payload).speakerWaveoutActive = s.speakerWaveoutActive ∧
      (queueAudioChunks media tuning s payload).waveoutExtractor = s.waveoutExtractor := by
  simp only [queueAudioChunks]
  cases (pushUsbAudio media.opusEncode s.extractor payload).2 with
  | nil => exact ⟨rfl, rfl⟩
  | cons chunk rest =>
      dsimp only
      split_ifs <;> exact ⟨rfl, rfl⟩

theorem audioOutInterface_fed (active : Bool) : Fed (audioOutInterface media s active) := by
  intro hactive _ hout
  change (!active && s.speakerWaveoutActive) = true at hactive
  change active = true at hout
  rw [hout] at hactive
  cases hactive

theorem applyTestCommand_inv (device action : UInt8) (data : List UInt8)
    (aligned : Aligned s.waveoutExtractor kPcmWindowFrames) :
    Aligned (applyTestCommand media s device action data).1.waveoutExtractor kPcmWindowFrames ∧
      (Fed s → Fed (applyTestCommand media s device action data).1) := by
  simp only [applyTestCommand]
  split_ifs
  · exact ⟨aligned, fun fed => fed.congr rfl⟩
  · cases data with
    | nil => exact ⟨aligned, id⟩
    | cons enable rest => exact ⟨aligned_freshExtractor _, fun _ _ _ _ _ => rfl⟩
  · exact ⟨aligned, id⟩

/-- PCM turns the tone off. -/
theorem audioOut_silent (payload : List UInt8) :
    (queueAudioChunks media tuning
      (if !s.audioOutStreamActive || s.speakerWaveoutActive then resetAudioRoute media s else s)
      payload).speakerWaveoutActive = false := by
  rw [(queueAudioChunks_waveout payload).1]
  split_ifs with hreset
  · rfl
  · simp only [Bool.or_eq_true, not_or, Bool.not_eq_true] at hreset
    exact hreset.2

theorem audioOut_extractor (payload : List UInt8) :
    (queueAudioChunks media tuning
      (if !s.audioOutStreamActive || s.speakerWaveoutActive then resetAudioRoute media s else s)
      payload).waveoutExtractor = s.waveoutExtractor := by
  rw [(queueAudioChunks_waveout payload).2]
  split_ifs <;> rfl

theorem handleVirtualFrame_fed (frame : Frame)
    (aligned : Aligned b.state.waveoutExtractor kPcmWindowFrames) :
    Aligned (handleVirtualFrame media tuning b frame).state.waveoutExtractor kPcmWindowFrames ∧
      (Fed b.state → Fed (handleVirtualFrame media tuning b frame).state) := by
  unfold handleVirtualFrame
  split
  · split
    · dsimp only
      split_ifs
      · exact ⟨aligned, fun _ => audioOutInterface_fed _⟩
      · exact ⟨aligned, fun fed => fed.congr rfl⟩
      · exact ⟨aligned, id⟩
    · exact ⟨aligned, id⟩
  · cases hreport : applyHidOut b.state frame.payload with
    | none => exact ⟨aligned, id⟩
    | some state =>
        obtain ⟨outputState, -, rfl⟩ := Option.map_eq_some_iff.mp hreport
        exact ⟨aligned, fun fed => fed.congr rfl⟩
  · split
    · exact ⟨aligned, id⟩
    · split
      · exact ⟨aligned, id⟩
      · exact ⟨aligned, id⟩
  · split_ifs
    · exact ⟨aligned, id⟩
    · split
      · exact ⟨aligned, id⟩
      · exact applyTestCommand_inv _ _ _ aligned
  · refine ⟨?_, fun _ => .of_silent (audioOut_silent frame.payload)⟩
    dsimp only
    rw [audioOut_extractor]
    exact aligned
  · exact ⟨aligned, id⟩

end Tone

section Flush

variable {media tuning} {s s' : BridgeState E D} {b c t : Session E D} {out : Outgoing}
  {audio : AudioSend}

/-- What the first section of the flush does: it rests, it ends the stream, or it puts a built
packet on its way. -/
structure BeginEffect (b t : Session E D) : Prop where
  extractor : t.state.waveoutExtractor = b.state.waveoutExtractor
  left : t.flush ≠ .enqueued
  built : ∀ out audio, t.flush = .sending out audio →
    out.label = .audio ∧ Built b.state out.report
  finished : ∀ out audio sent, t.flush ≠ .finishing out audio sent

theorem BeginEffect.idle (hextractor : t.state.waveoutExtractor = b.state.waveoutExtractor)
    (hflush : t.flush = .idle) : BeginEffect b t where
  extractor := hextractor
  left := by simp [hflush]
  built := by simp [hflush]
  finished := by simp [hflush]

theorem buildAudioPacket_flush (haptics : HapticsChunk) (speaker : SpeakerChunk) (now : Nat)
    (concealment : Bool) (chunk : Option AudioChunk) :
    (buildAudioPacket c haptics speaker now concealment chunk).flush =
      .sending ⟨.audio, (c.state.hapticsBuilder.buildPacket haptics speaker c.state.image true
          c.state.headsetPlugged).2.toList, c.builds⟩
        ⟨if c.state.nextHapticsSendTime = 0 then now else c.state.nextHapticsSendTime, now,
          concealment, chunk, c.state.image⟩ := rfl

theorem buildAudioPacket_effect (haptics : HapticsChunk) (speaker : SpeakerChunk) (now : Nat)
    (concealment : Bool) (chunk : Option AudioChunk)
    (hextractor : c.state.waveoutExtractor = b.state.waveoutExtractor)
    (hbuilder : c.state.hapticsBuilder = b.state.hapticsBuilder)
    (himage : c.state.image = b.state.image)
    (hheadset : c.state.headsetPlugged = b.state.headsetPlugged) :
    BeginEffect b (buildAudioPacket c haptics speaker now concealment chunk) where
  extractor := hextractor
  left := by simp [buildAudioPacket]
  built := by
    have hbuilt : Built b.state (c.state.hapticsBuilder.buildPacket haptics speaker c.state.image
        true c.state.headsetPlugged).2.toList :=
      ⟨haptics, speaker, by rw [hbuilder, himage, hheadset]⟩
    intro out audio h
    have hout := (FlushPc.sending.inj ((buildAudioPacket_flush ..).symm.trans h)).1
    have hreport := congrArg Outgoing.report hout
    have hlabel := congrArg Outgoing.label hout
    dsimp only at hreport hlabel
    exact ⟨hlabel.symm, hreport ▸ hbuilt⟩
  finished := by simp [buildAudioPacket]

/-- Without the tone the branch that ends a drained stream writes no packet. -/
theorem flushUnderflow_effect (hextractor : c.state.waveoutExtractor = b.state.waveoutExtractor)
    (hsilent : c.state.speakerWaveoutActive = false) : BeginEffect b (flushUnderflow c) := by
  simp only [flushUnderflow, hsilent, Bool.false_eq_true, if_false, buildBtStateIfChanged]
  split_ifs
  · exact .idle hextractor rfl
  · exact ⟨hextractor, by simp, by simp, by simp⟩

theorem underflows_silent (fed : Fed s) {now : Nat} (h : Underflows s now) :
    s.speakerWaveoutActive = false := by
  obtain ⟨hempty, hout, hpcm, -, hlong⟩ := h
  by_contra hactive
  have hsince := fed (Bool.of_not_eq_false hactive) hempty hout hpcm
  rw [if_pos hsince, Nat.sub_self] at hlong
  exact absurd hlong (by decide)

theorem underflows_of_due {now : Nat} (empty : s.pendingAudioChunks = [])
    (stream : s.audioOutStreamActive = true ∧ s.audioPcmStreamActive = true) (due : Due s now)
    (long : kAudioUnderflowKeepaliveDelay ≤
      now - (if s.audioQueueEmptySince = 0 then now else s.audioQueueEmptySince)) :
    Underflows s now := by
  refine ⟨empty, stream.1, stream.2, ?_, long⟩
  unfold Due at due
  omega

theorem BeginEffect.of_begins {now : Nat} (fed : Fed b.state) (begins : Begins tuning b now t) :
    BeginEffect b t := by
  cases begins with
  | rests s readied =>
      obtain ⟨⟨_, _, _, _, rfl⟩, -, -⟩ := readied
      exact .idle rfl rfl
  | drains s readied empty stream due long =>
      obtain ⟨⟨_, _, _, _, rfl⟩, -, -⟩ := readied
      have hsilent : b.state.speakerWaveoutActive = false :=
        underflows_silent fed (underflows_of_due empty stream due long)
      exact flushUnderflow_effect rfl hsilent
  | conceals s readied empty buffered due chunk =>
      obtain ⟨⟨_, _, _, _, rfl⟩, -, -⟩ := readied
      exact buildAudioPacket_effect _ _ now true none rfl rfl rfl rfl
  | takes s readied buffered due chunk rest fresh =>
      obtain ⟨⟨_, _, _, _, rfl⟩, -, -⟩ := readied
      exact buildAudioPacket_effect _ _ now false _ rfl rfl rfl rfl

/-- A section of another thread, or one that puts the flush to rest. -/
theorem Inv.rests (inv : Inv b) (hextractor : t.state.waveoutExtractor = b.state.waveoutExtractor)
    (hflush : t.flush ≠ .enqueued) : Inv t where
  aligned := hextractor ▸ inv.aligned
  fed := fun h => absurd h hflush

theorem trySend_state (outcome : SendOutcome) :
    (trySendBtOutputReport b out outcome).state = b.state ∧
      (trySendBtOutputReport b out outcome).flush = b.flush := by
  obtain ⟨_, hframe⟩ := trySend_frame (b := b) out outcome
  rw [hframe]
  exact ⟨rfl, rfl⟩

theorem trySend_extractor (outcome : SendOutcome) :
    (trySendBtOutputReport b out outcome).state.waveoutExtractor = b.state.waveoutExtractor := by
  rw [(trySend_state outcome).1]

/-- What a step does: a step of the other threads leaves the flush where it is. -/
theorem Inv.step {action : Action} (inv : Inv b) (h : Bridge.step media tuning b action = some t) :
    Inv t ∧ (ofFlush action = false → t.flush = b.flush) := by
  cases steps_of_step h with
  | sendInit outcome created =>
      obtain ⟨hstate, hflush⟩ := trySend_state outcome
      exact ⟨inv.congr (congrArg tone hstate) hflush, fun _ => hflush⟩
  | finishInit sent => exact ⟨inv.congr rfl rfl, fun _ => rfl⟩
  | virtualFrame frame running ready =>
      have hflush : (handleVirtualFrame media tuning b frame).flush = b.flush :=
        ChunkQueue.handleVirtualFrame_flush media tuning frame
      obtain ⟨haligned, hfed⟩ := handleVirtualFrame_fed frame inv.aligned
      exact ⟨⟨haligned, fun h => hfed (inv.fed (hflush ▸ h))⟩, fun _ => hflush⟩
  | virtualOp outcome feature op rest program =>
      have hflush : (runOp b outcome feature op).1.flush = b.flush :=
        (ChunkQueue.runOp_queueKept outcome feature op).flush
      have htone : tone (runOp b outcome feature op).1.state = tone b.state :=
        runOp_tone outcome feature op
      exact ⟨inv.congr htone hflush, fun _ => hflush⟩
  | bluetoothFrame frame muteRequest running ready =>
      have hflush : (handleBluetoothFrame media b frame muteRequest).flush = b.flush :=
        (ChunkQueue.handleBluetoothFrame_queueKept media frame muteRequest).flush
      exact ⟨inv.congr (handleBluetoothFrame_tone frame muteRequest) hflush, fun _ => hflush⟩
  | bluetoothOp outcome feature op rest program =>
      have hflush : (runOp b outcome feature op).1.flush = b.flush :=
        (ChunkQueue.runOp_queueKept outcome feature op).flush
      have htone : tone (runOp b outcome feature op).1.state = tone b.state :=
        runOp_tone outcome feature op
      exact ⟨inv.congr htone hflush, fun _ => hflush⟩
  | enqueueWaveout idle running =>
      obtain ⟨haligned, hfed⟩ := enqueue_fed inv.aligned
      exact ⟨⟨haligned, fun _ => hfed⟩, fun h => by cases h⟩
  | flushBegin now enqueued =>
      have effect : BeginEffect b (Bridge.flushBegin tuning b now) :=
        .of_begins (inv.fed enqueued) (begins_flushBegin b now)
      exact ⟨inv.rests effect.extractor effect.left, fun h => by cases h⟩
  | flushStops outcome out stopping =>
      exact ⟨inv.rests (trySend_extractor outcome) (by simp), fun h => by cases h⟩
  | flushSends outcome out audio sending =>
      exact ⟨inv.rests (trySend_extractor outcome) (by simp), fun h => by cases h⟩
  | flushFinish out audio sent finishing =>
      exact ⟨inv.rests rfl (by simp), fun h => by cases h⟩

/-- Only the first section of the flush puts a packet on its way. -/
theorem begins_of_sending {action : Action} (h : Bridge.step media tuning b action = some t)
    (haction : ofFlush action = true) (hsending : t.flush = .sending out audio) :
    ∃ now, action = .flushBegin now ∧ b.flush = .enqueued ∧ t = Bridge.flushBegin tuning b now := by
  cases steps_of_step h with
  | flushBegin now enqueued => exact ⟨now, rfl, enqueued, rfl⟩
  | enqueueWaveout => cases hsending
  | flushStops => cases hsending
  | flushSends => cases hsending
  | flushFinish => cases hsending
  | _ => cases haction

theorem Inv.new : Inv (Session.new media) := ⟨aligned_freshExtractor _, by simp [Session.new]⟩

end Flush

section Runs

variable {media tuning} {b t : Session E D} {actions : List Action} {out : Outgoing}
  {audio : AudioSend}

theorem inv_of_run (run : Run (step media tuning) (.new media) actions b) : Inv b :=
  run.invariant (fun _ _ _ inv _ h => (inv.step h).1) .new

/-- The packet on its way was there from the start, or the first section of the flush put it
there and the flush did nothing since. -/
theorem exists_begin_of_sending (inv : Inv b) (run : Run (step media tuning) b actions t)
    (hsending : t.flush = .sending out audio) :
    b.flush = .sending out audio ∧ (∀ action ∈ actions, ofFlush action = false) ∨
      ∃ before now after u, actions = before ++ .flushBegin now :: after ∧
        Run (step media tuning) b before u ∧ u.flush = .enqueued ∧
        (∀ action ∈ after, ofFlush action = false) ∧
        (flushBegin tuning u now).flush = .sending out audio := by
  induction run with
  | nil b => exact .inl ⟨hsending, by simp⟩
  | @cons b u t action rest _ h _ ih =>
      obtain ⟨inv', hother⟩ := inv.step h
      obtain ⟨hearlier, hrest⟩ | ⟨before, now, after, v, rfl, hrun, henqueued, hafter, hbegin⟩ :=
        ih inv' hsending
      · by_cases haction : ofFlush action = false
        · exact .inl ⟨(hother haction).symm.trans hearlier,
            List.forall_mem_cons.mpr ⟨haction, hrest⟩⟩
        · obtain ⟨now, rfl, henqueued, rfl⟩ :=
            begins_of_sending h (Bool.of_not_eq_false haction) hearlier
          exact .inr ⟨[], now, rest, b, rfl, .nil b, henqueued, hrest, hearlier⟩
      · exact .inr ⟨action :: before, now, after, v, rfl, .cons trivial h hrun, henqueued, hafter,
          hbegin⟩

/-- The test command that turns the tone on. -/
def toneOn : Frame where
  type := .usbFeatureSet
  payload := [kTestCommandReportId, kTestCommandAudioDevice, kTestCommandWaveoutControl, 1]
  payload_le := by simp [frameMaxPayload]

/-- The tone comes on between the two sections, so that a flush finds the queue empty. -/
def toneTrace : List Action :=
  [.sendInit .sent, .finishInit, .enqueueWaveout, .virtualFrame toneOn, .flushBegin 1,
    .enqueueWaveout, .flushBegin 2]

end Runs

/-- No flush gets to the end of a drained stream with the tone on, and every packet that a flush
writes was made by `build_packet` in the same call. -/
theorem packet_built {b : Session E D} {actions : List Action}
    (run : Run (step media tuning) (.new media) actions b) :
    (∀ now, b.flush = .enqueued → Underflows b.state now →
      b.state.speakerWaveoutActive = false) ∧
    ∀ out audio, b.flush = .sending out audio →
      ∃ before now after u, actions = before ++ .flushBegin now :: after ∧
        Run (step media tuning) (.new media) before u ∧ u.flush = .enqueued ∧
        (∀ action ∈ after, ofFlush action = false) ∧ Built u.state out.report ∧
        out.report.head? = some kBtHapticsReportId := by
  refine ⟨fun now henqueued h => underflows_silent ((inv_of_run run).fed henqueued) h,
    fun out audio hsending => ?_⟩
  obtain ⟨hnew, -⟩ | ⟨before, now, after, u, hsplit, hbefore, henqueued, hafter, hbegin⟩ :=
    exists_begin_of_sending .new run hsending
  · cases hnew
  · have effect : BeginEffect u (flushBegin tuning u now) :=
      .of_begins ((inv_of_run hbefore).fed henqueued) (begins_flushBegin u now)
    obtain ⟨-, hbuilt⟩ := effect.built out audio hbegin
    refine ⟨before, now, after, u, hsplit, hbefore, henqueued, hafter, hbuilt, ?_⟩
    obtain ⟨haptics, speaker, hreport⟩ := hbuilt
    rw [hreport]
    exact ReportImage.head?_buildPacket _ _ _ _ _ _

/-- The packet of the test tone. -/
theorem packet_built_tone : ∃ t out audio before now after, ∃ u : Session Unit Unit,
    Run (step silentMedia .default) (.new silentMedia) toneTrace t ∧
      t.flush = .sending out audio ∧ t.state.speakerWaveoutActive = true ∧
      toneTrace = before ++ .flushBegin now :: after ∧ u.flush = .enqueued ∧
      Built u.state out.report := by
  have hrun : (execute (step silentMedia .default) (.new silentMedia) toneTrace).any (fun t =>
      -- the fourth position of a flush
      decide (t.flush.ctorIdx = 3 ∧ t.state.speakerWaveoutActive = true)) = true := by
    decide +kernel
  obtain ⟨t, run, hsends, htone⟩ := exists_run_of_execute hrun
  cases hflush : t.flush with
  | sending out audio =>
      obtain ⟨before, now, after, u, hsplit, -, henqueued, -, hbuilt, -⟩ :=
        (packet_built silentMedia .default run).2 out audio hflush
      exact ⟨t, out, audio, before, now, after, u, run, hflush, htone, hsplit, henqueued, hbuilt⟩
  | _ =>
      rw [hflush] at hsends
      cases hsends

end VirtualDualSense.Win32.BuiltPackets
