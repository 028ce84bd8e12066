import VirtualDualSense.Win32.Bridge

/-!
# Steps of the Windows bridge

What a step can do is said once here, and the properties of the bridge are derived from it: the
step relation with the program counters it needs, what a section leaves alone, and the branches
of the first section of the flush.
-/

namespace VirtualDualSense.Win32.BridgeSteps

open Protocol.Frames Protocol.OutputState Protocol.PcmAudioExtractor Protocol.BridgeParts Bridge

variable {E D : Type*} (media : Media E D) (tuning : Tuning)

/-- What one step can do, with the condition under which the thread takes it. -/
inductive Steps (b : Session E D) : Action → Session E D → Prop
  | sendInit (outcome : SendOutcome) (created : b.phase = .created) :
      Steps b (.sendInit outcome)
        { trySendBtOutputReport b ⟨.init, b.state.outputState.buildBtInitReport.toList, b.builds⟩
          outcome with phase := .initSent, builds := b.builds + 1 }
  | finishInit (sent : b.phase = .initSent) :
      Steps b .finishInit { b with state := finishInit media b.state, phase := .running }
  | virtualFrame (frame : Frame) (running : b.phase = .running) (ready : b.toBluetooth = []) :
      Steps b (.virtualFrame frame) (handleVirtualFrame media tuning b frame)
  | virtualOp (outcome : SendOutcome) (feature : Option (List UInt8)) (op : Op) (rest : List Op)
      (program : b.toBluetooth = op :: rest) :
      Steps b (.virtualOp outcome feature)
        { (runOp b outcome feature op).1 with
          toBluetooth := (runOp b outcome feature op).2 ++ rest }
  | bluetoothFrame (frame : Frame) (muteRequest : Option Bool) (running : b.phase = .running)
      (ready : b.toVirtual = []) :
      Steps b (.bluetoothFrame frame muteRequest) (handleBluetoothFrame media b frame muteRequest)
  | bluetoothOp (outcome : SendOutcome) (feature : Option (List UInt8)) (op : Op) (rest : List Op)
      (program : b.toVirtual = op :: rest) :
      Steps b (.bluetoothOp outcome feature)
        { (runOp b outcome feature op).1 with toVirtual := (runOp b outcome feature op).2 ++ rest }
  | enqueueWaveout (idle : b.flush = .idle) (running : b.phase = .running) :
      Steps b .enqueueWaveout
        { b with state := enqueueSpeakerWaveoutChunk media tuning b.state, flush := .enqueued }
  | flushBegin (now : Nat) (enqueued : b.flush = .enqueued) :
      Steps b (.flushBegin now) (flushBegin tuning b now)
  | flushStops (outcome : SendOutcome) (out : Outgoing) (stopping : b.flush = .stopping out) :
      Steps b (.flushSend outcome) { trySendBtOutputReport b out outcome with flush := .idle }
  | flushSends (outcome : SendOutcome) (out : Outgoing) (audio : AudioSend)
      (sending : b.flush = .sending out audio) :
      Steps b (.flushSend outcome)
        { trySendBtOutputReport b out outcome with
          flush := .finishing out audio (outcome == .sent) }
  | flushFinish (out : Outgoing) (audio : AudioSend) (sent : Bool)
      (finishing : b.flush = .finishing out audio sent) :
      Steps b .flushFinish { b with state := flushFinish tuning b.state audio sent, flush := .idle }

section Relation

variable {media tuning} {b t : Session E D}

theorem steps_of_step {action : Action} (h : step media tuning b action = some t) :
    Steps media tuning b action t := by
  cases action with
  | sendInit outcome =>
      obtain ⟨created, ⟨⟩⟩ := Option.ite_none_right_eq_some.mp h
      exact .sendInit outcome created
  | finishInit =>
      obtain ⟨sent, ⟨⟩⟩ := Option.ite_none_right_eq_some.mp h
      exact .finishInit sent
  | virtualFrame frame =>
      obtain ⟨⟨running, ready⟩, ⟨⟩⟩ := Option.ite_none_right_eq_some.mp h
      exact .virtualFrame frame running (List.isEmpty_iff.mp ready)
  | virtualOp outcome feature =>
      cases program : b.toBluetooth with
      | nil => simp [step, program] at h
      | cons op rest =>
          simp only [step, program] at h
          cases h
          exact .virtualOp outcome feature op rest program
  | bluetoothFrame frame muteRequest =>
      obtain ⟨⟨running, ready⟩, ⟨⟩⟩ := Option.ite_none_right_eq_some.mp h
      exact .bluetoothFrame frame muteRequest running (List.isEmpty_iff.mp ready)
  | bluetoothOp outcome feature =>
      cases program : b.toVirtual with
      | nil => simp [step, program] at h
      | cons op rest =>
          simp only [step, program] at h
          cases h
          exact .bluetoothOp outcome feature op rest program
  | enqueueWaveout =>
      cases hflush : b.flush <;> simp only [step, hflush, reduceCtorEq] at h
      obtain ⟨running, ⟨⟩⟩ := Option.ite_none_right_eq_some.mp h
      exact .enqueueWaveout hflush running
  | flushBegin now =>
      cases hflush : b.flush <;> simp only [step, hflush, reduceCtorEq] at h
      cases h
      exact .flushBegin now hflush
  | flushSend outcome =>
      cases hflush : b.flush with
      | stopping out =>
          simp only [step, hflush] at h
          cases h
          exact .flushStops outcome out hflush
      | sending out audio =>
          simp only [step, hflush] at h
          cases h
          exact .flushSends outcome out audio hflush
      | _ => simp only [step, hflush, reduceCtorEq] at h
  | flushFinish =>
      cases hflush : b.flush with
      | finishing out audio sent =>
          simp only [step, hflush] at h
          cases h
          exact .flushFinish out audio sent hflush
      | _ => simp only [step, hflush, reduceCtorEq] at h

end Relation

section Frames

variable {media tuning} {b : Session E D}

/-- A write changes what the transport has accepted and nothing else. -/
theorem trySend_frame (out : Outgoing) (outcome : SendOutcome) :
    ∃ accepted, trySendBtOutputReport b out outcome = { b with accepted := accepted } := by
  cases outcome <;> exact ⟨_, rfl⟩

/-- An operation leaves the audio, the programs and the flush alone. -/
theorem runOp_frame (outcome : SendOutcome) (feature : Option (List UInt8)) (op : Op) :
    ∃ outputState lastSentState featureCache builds accepted virtualWrites featureWrites,
      (runOp b outcome feature op).1 =
        { b with
          state := { b.state with
            outputState := outputState
            lastSentState := lastSentState
            featureCache := featureCache }
          builds := builds
          accepted := accepted
          virtualWrites := virtualWrites
          featureWrites := featureWrites } := by
  cases op with
  | stateIfChanged =>
      simp only [runOp, buildBtStateIfChanged]
      split_ifs <;> exact ⟨_, _, _, _, _, _, _, rfl⟩
  | micState active micReport => exact ⟨_, _, _, _, _, _, _, rfl⟩
  | send out => cases outcome <;> exact ⟨_, _, _, _, _, _, _, rfl⟩
  | readFeature reportId =>
      cases feature with
      | none => exact ⟨_, _, _, _, _, _, _, rfl⟩
      | some report =>
          simp only [runOp, cacheFeatureReport]
          cases report with
          | nil => exact ⟨_, _, _, _, _, _, _, rfl⟩
          | cons reportId' rest =>
              dsimp only
              split_ifs <;> exact ⟨_, _, _, _, _, _, _, rfl⟩
  | writeFeature payload =>
      simp only [runOp]
      split_ifs <;> exact ⟨_, _, _, _, _, _, _, rfl⟩

/-- A packet of the controller leaves the speaker audio, the other program and the transport
alone. -/
theorem handleBluetoothFrame_frame (frame : Frame) (muteRequest : Option Bool) :
    ∃ outputState micDecoder headsetPlugged headsetMicPlugged micMuted muteButtonDown
        virtualWrites toVirtual,
      handleBluetoothFrame media b frame muteRequest =
        { b with
          state := { b.state with
            outputState := outputState
            micDecoder := micDecoder
            headsetPlugged := headsetPlugged
            headsetMicPlugged := headsetMicPlugged
            micMuted := micMuted
            muteButtonDown := muteButtonDown }
          virtualWrites := virtualWrites
          toVirtual := toVirtual } := by
  unfold handleBluetoothFrame
  split
  · split_ifs
    · unfold handleMicPacket
      split
      · exact ⟨_, _, _, _, _, _, _, _, rfl⟩
      · dsimp only
        split <;> exact ⟨_, _, _, _, _, _, _, _, rfl⟩
    · split <;> exact ⟨_, _, _, _, _, _, _, _, rfl⟩
  · split <;> exact ⟨_, _, _, _, _, _, _, _, rfl⟩
  · exact ⟨_, _, _, _, _, _, _, _, rfl⟩

/-- A frame of the virtual device leaves the other program, the transport and the flush alone. -/
theorem handleVirtualFrame_frame (frame : Frame) :
    ∃ state virtualWrites toBluetooth,
      handleVirtualFrame media tuning b frame =
        { b with
          state := state
          virtualWrites := virtualWrites
          toBluetooth := toBluetooth } := by
  unfold handleVirtualFrame
  split
  · split
    · dsimp only
      split_ifs <;> exact ⟨_, _, _, rfl⟩
    · exact ⟨_, _, _, rfl⟩
  · split <;> exact ⟨_, _, _, rfl⟩
  · split
    · exact ⟨_, _, _, rfl⟩
    · split <;> exact ⟨_, _, _, rfl⟩
  · split_ifs
    · exact ⟨_, _, _, rfl⟩
    · split <;> exact ⟨_, _, _, rfl⟩
  · exact ⟨_, _, _, rfl⟩
  · exact ⟨_, _, _, rfl⟩

end Frames

/-- What the first section of the flush sets before it decides: the jitter buffering, which only
ends, and the due time when it ends. -/
structure Readied (s s' : BridgeState E D) : Prop where
  eq : ∃ buffering start since due, s' = { s with
    audioJitterBuffering := buffering
    audioJitterBufferStart := start
    audioQueueEmptySince := since
    nextHapticsSendTime := due }
  buffering : s.audioJitterBuffering = false → s'.audioJitterBuffering = false
  due : s.audioJitterBuffering = false → s'.nextHapticsSendTime = s.nextHapticsSendTime

/-- The flush does not wait for a due time. -/
def Due (s : BridgeState E D) (now : Nat) : Prop :=
  ¬(s.nextHapticsSendTime ≠ 0 ∧ now < s.nextHapticsSendTime)

/-- The branches of the first section of the flush. -/
inductive Begins (b : Session E D) (now : Nat) : Session E D → Prop
  | rests (s : BridgeState E D) (readied : Readied b.state s) :
      Begins b now { b with state := s, flush := .idle }
  | drains (s : BridgeState E D) (readied : Readied b.state s)
      (empty : b.state.pendingAudioChunks = [])
      (stream : b.state.audioOutStreamActive = true ∧ b.state.audioPcmStreamActive = true)
      (due : Due b.state now)
      (long : kAudioUnderflowKeepaliveDelay ≤
        now - (if b.state.audioQueueEmptySince = 0 then now else b.state.audioQueueEmptySince)) :
      Begins b now (flushUnderflow { b with state := s })
  | conceals (s : BridgeState E D) (readied : Readied b.state s)
      (empty : b.state.pendingAudioChunks = []) (buffered : s.audioJitterBuffering = false)
      (due : Due s now) (chunk : AudioChunk) :
      Begins b now (buildAudioPacket { b with state := s } (Vector.replicate _ 0) chunk.speaker now
        true none)
  | takes (s : BridgeState E D) (readied : Readied b.state s)
      (buffered : s.audioJitterBuffering = false) (due : Due s now) (chunk : AudioChunk)
      (rest : List AudioChunk)
      (fresh : b.state.pendingAudioChunks.drop
        (b.state.pendingAudioChunks.length - tuning.kAudioFreshQueueChunks) = chunk :: rest) :
      Begins b now (buildAudioPacket
        { b with state := { s with pendingAudioChunks := chunk :: rest } }
        (chunk.haptics.map fun sample => Int8.ofInt (max (-128) (min 127 sample.toInt)))
        chunk.speaker now false (some chunk))

section Flush

variable {tuning} {b : Session E D} {s : BridgeState E D} {now : Nat}

theorem Readied.refl (s : BridgeState E D) : Readied s s := ⟨⟨_, _, _, _, rfl⟩, id, fun _ => rfl⟩

theorem Readied.pending {s' : BridgeState E D} (readied : Readied s s') :
    s'.pendingAudioChunks = s.pendingAudioChunks := by
  obtain ⟨⟨_, _, _, _, rfl⟩, -, -⟩ := readied
  rfl

theorem begins_flushEmptyQueue (empty : b.state.pendingAudioChunks = []) :
    Begins tuning b now (flushEmptyQueue b now) := by
  simp only [flushEmptyQueue]
  generalize hsince :
    (if b.state.audioQueueEmptySince = 0 then now else b.state.audioQueueEmptySince) = since
  have readied : Readied b.state { b.state with
      audioJitterBuffering := false, audioJitterBufferStart := 0, audioQueueEmptySince := since } :=
    ⟨⟨_, _, _, _, rfl⟩, fun _ => rfl, fun _ => rfl⟩
  by_cases hactive : (b.state.audioOutStreamActive && b.state.audioPcmStreamActive) = true
  · rw [if_pos hactive]
    rw [Bool.and_eq_true] at hactive
    split_ifs with hearly hshort
    · exact .rests _ readied
    · split
      · exact .rests _ readied
      · exact .conceals _ readied empty rfl hearly _
    · exact .drains _ readied empty hactive hearly (hsince ▸ Nat.le_of_not_lt hshort)
  · rw [if_neg hactive]
    exact .rests _ (.refl b.state)

theorem begins_flushChunk (readied : Readied b.state s)
    (buffered : s.audioJitterBuffering = false) :
    Begins tuning b now (flushChunk tuning { b with state := s } now) := by
  simp only [flushChunk, readied.pending]
  split_ifs with hearly
  · exact .rests _ readied
  · split
    · exact .rests _ readied
    · rename_i chunk rest hfresh
      rw [hfresh]
      exact .takes s readied buffered hearly chunk rest hfresh

theorem begins_flushBegin (b : Session E D) (now : Nat) :
    Begins tuning b now (flushBegin tuning b now) := by
  simp only [flushBegin]
  generalize (if b.state.audioJitterBufferStart = 0 then now else b.state.audioJitterBufferStart) =
    start
  split_ifs with hempty hbuffering hprime
  · exact begins_flushEmptyQueue (List.isEmpty_iff.mp hempty)
  · exact .rests _ ⟨⟨_, _, _, _, rfl⟩, id, fun _ => rfl⟩
  · have hends : b.state.audioJitterBuffering = false → False := by simp [hbuffering]
    exact begins_flushChunk ⟨⟨_, _, _, _, rfl⟩, fun _ => rfl, fun h => (hends h).elim⟩ rfl
  · exact begins_flushChunk (.refl b.state) (Bool.eq_false_iff.mpr hbuffering)

end Flush

end VirtualDualSense.Win32.BridgeSteps
