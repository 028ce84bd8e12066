import VirtualDualSense.Win32.BridgeSteps
import VirtualDualSense.Lib.Ledgers

/-!
# Custody of the audio chunks

The flush copies the front chunk into a packet, releases the state mutex for the
write, and afterwards removes whatever chunk is at the front. A ledger beside the
session follows every chunk from the queue to its fate. A chunk is known by its
position among all chunks that were ever queued, so the chunk at the front has the
number of chunks that are gone.
-/

namespace VirtualDualSense.Win32.ChunkQueue

open Lib.Runs Lib.Ledgers Protocol.Frames Protocol.OutputState Protocol.PcmAudioExtractor
  Protocol.BridgeParts Bridge BridgeSteps

/-- How a chunk left the queue. -/
inductive Fate
  /-- By a pop that `audio_dropped_count` counts. -/
  | dropped
  /-- By a clear of the queue on a stream reset. -/
  | cleared
  /-- By the pop after the write of a packet that was made from `inPacket`. -/
  | flushed (inPacket : Option Nat) (sent : Bool)
  deriving DecidableEq

/-- The pop was counted in `audio_dropped_count`. -/
def Fate.counted : Fate → Bool
  | .dropped => true
  | .cleared => false
  | .flushed _ sent => !sent

/-- The chunks of a session, the chunk in the packet that is being written, and the
chunks whose packets the transport took. -/
structure Custody where
  chunks : Ledger AudioChunk Fate
  inPacket : Option Nat
  transmitted : List Nat
  audioDroppedCount : Nat

namespace Custody

def new : Custody := ⟨.empty, none, [], 0⟩

def clear (c : Custody) : Custody := { c with chunks := c.chunks.retireAll .cleared }

def drop (c : Custody) (count : Nat) : Custody :=
  { c with
    chunks := c.chunks.retire count .dropped
    audioDroppedCount := c.audioDroppedCount + count }

def push (c : Custody) (chunk : AudioChunk) : Custody :=
  { c with chunks := c.chunks.push chunk }

end Custody

structure Traced (E D : Type*) where
  session : Session E D
  custody : Custody

variable {E D : Type*} (media : Media E D) (tuning : Tuning)

def Traced.new : Traced E D := ⟨.new media, .new⟩

section Notes

/-- An AUDIO_OUT frame for a stopped stream or during the test tone. -/
def resetsRoute (s : BridgeState E D) : Bool := !s.audioOutStreamActive || s.speakerWaveoutActive

/-- The chunks that an AUDIO_OUT frame completes. -/
def completedChunks (s : BridgeState E D) (payload : List UInt8) : List AudioChunk :=
  (pushUsbAudio media.opusEncode
    (if resetsRoute s then freshExtractor media.encoder else s.extractor) payload).2

/-- The first chunk of an AUDIO_OUT frame starts the PCM stream. -/
def startsPcm (s : BridgeState E D) : Bool := resetsRoute s || !s.audioPcmStreamActive

/-- Queue a chunk; a full queue drops its oldest and counts it. -/
def noteQueued (c : Custody) (chunk : AudioChunk) : Custody :=
  (if tuning.kMaxPendingAudioChunks ≤ c.chunks.queue.length then c.drop 1 else c).push chunk

/-- An AUDIO_OUT frame: a reset of the route and the start of the PCM stream each
clear the queue. -/
def noteAudioOut (s : BridgeState E D) (c : Custody) (payload : List UInt8) : Custody :=
  let c := if resetsRoute s then c.clear else c
  match completedChunks media s payload with
  | [] => c
  | chunk :: rest =>
      (chunk :: rest).foldl (noteQueued tuning) (if startsPcm s then c.clear else c)

/-- `handle_virtual_frame`. -/
def noteVirtualFrame (s : BridgeState E D) (c : Custody) (frame : Frame) : Custody :=
  match frame.type with
  | .usbInterface =>
      match frame.payload with
      | [_, _, interfaceType, _] => if interfaceType = kUsbInterfaceAudioOut then c.clear else c
      | _ => c
  | .usbFeatureSet =>
      if frame.payload.headD 0 = 0 then c
      else
        match parseTestCommand frame.payload with
        | some (device, action, enable :: _) =>
            if device = kTestCommandAudioDevice ∧ action = kTestCommandWaveoutControl then
              if enable != 0 && s.speakerWaveoutSelected then c else c.clear
            else c
        | _ => c
  | .usbAudioOut => noteAudioOut media tuning s c frame.payload
  | _ => c

/-- `enqueue_speaker_waveout_chunk`. -/
def noteWaveout (s : BridgeState E D) (c : Custody) : Custody :=
  if s.speakerWaveoutActive && s.pendingAudioChunks.isEmpty then
    ((pushUsbAudio media.opusEncode s.waveoutExtractor
      (waveoutPcm media s.speakerWaveoutPhase)).2.take tuning.kMaxPendingAudioChunks).foldl
      Custody.push c
  else c

/-- The first section of the flush, which ended at `flush`: the stale chunks are
dropped before the front chunk is copied into the packet. -/
def noteFlushBegin (c : Custody) (flush : FlushPc) : Custody :=
  match flush with
  | .sending _ audio =>
      if audio.sentAudioChunk.isSome then
        let c := c.drop (c.chunks.queue.length - tuning.kAudioFreshQueueChunks)
        { c with inPacket := some c.chunks.gone.length }
      else { c with inPacket := none }
  | _ => c

/-- The write of the packet. -/
def noteFlushSend (c : Custody) (flush : FlushPc) (outcome : SendOutcome) : Custody :=
  match flush, outcome with
  | .sending _ _, .sent => { c with transmitted := c.transmitted ++ c.inPacket.toList }
  | _, _ => c

/-- The last section of the flush. A packet that was not sent counts as a dropped
chunk, also when the queue is empty. -/
def noteFlushFinish (c : Custody) (flush : FlushPc) : Custody :=
  match flush with
  | .finishing _ audio sent =>
      if audio.sendingConcealment then c
      else
        { c with
          chunks := c.chunks.retire 1 (.flushed c.inPacket sent)
          audioDroppedCount := if sent then c.audioDroppedCount else c.audioDroppedCount + 1 }
  | _ => c

/-- What a step does to the chunks. -/
def note (b t : Session E D) (c : Custody) : Action → Custody
  | .virtualFrame frame => noteVirtualFrame media tuning b.state c frame
  | .enqueueWaveout => noteWaveout media tuning b.state c
  | .flushBegin _ => noteFlushBegin tuning c t.flush
  | .flushSend outcome => noteFlushSend c b.flush outcome
  | .flushFinish => noteFlushFinish c b.flush
  | _ => c

/-- A step of the session, followed in the ledger. -/
def tracedStep (t : Traced E D) (action : Action) : Option (Traced E D) :=
  (step media tuning t.session action).map fun session =>
    ⟨session, note media tuning t.session session t.custody action⟩

end Notes

section Property

/-- The flush removes the chunk that it put in the packet. -/
def RemovesOwn (c : Custody) : Prop :=
  ∀ (number : Nat) (item : AudioChunk × Fate), c.chunks.gone[number]? = some item →
    ∀ inPacket sent, item.2 = .flushed inPacket sent → inPacket = some number

/-- A chunk that left the queue was transmitted, cleared, or counted as dropped. -/
def Accounted (c : Custody) : Prop :=
  (∀ (number : Nat) (item : AudioChunk × Fate), c.chunks.gone[number]? = some item →
    number ∈ c.transmitted ∨ item.2 = .cleared ∨ item.2.counted = true) ∧
  c.chunks.gone.countP (fun item => item.2.counted) ≤ c.audioDroppedCount

/-- The queue of the session is the one in the ledger, and no chunk is lost. -/
def NoSilentLoss (t : Traced E D) : Prop :=
  t.custody.chunks.queue = t.session.state.pendingAudioChunks ∧
    RemovesOwn t.custody ∧ Accounted t.custody

/-- The flush is between its sections and will remove a chunk. -/
def WillRemove : FlushPc → Bool
  | .sending _ audio | .finishing _ audio _ => !audio.sendingConcealment
  | _ => false

/-- The condition on AUDIO_OUT frames that come in while the flush writes: they
complete no chunk, or the queue has the chunk in the packet and keeps it. -/
def QueueGuard (b : Session E D) : Action → Prop
  | .virtualFrame frame =>
      frame.type = .usbAudioOut → WillRemove b.flush = true →
        completedChunks media b.state frame.payload = [] ∨
          startsPcm b.state = false ∧ b.state.pendingAudioChunks ≠ [] ∧
            b.state.pendingAudioChunks.length +
              (completedChunks media b.state frame.payload).length ≤ tuning.kMaxPendingAudioChunks
  | _ => True

end Property

section Frame

variable {b t : Session E D}

/-- A step that leaves the queue and the flush alone. -/
structure QueueKept (b t : Session E D) : Prop where
  pending : t.state.pendingAudioChunks = b.state.pendingAudioChunks
  flush : t.flush = b.flush

theorem trySend_queueKept (out : Outgoing) (outcome : SendOutcome) :
    QueueKept b (trySendBtOutputReport b out outcome) := by
  obtain ⟨_, hframe⟩ := trySend_frame (b := b) out outcome
  rw [hframe]
  exact ⟨rfl, rfl⟩

theorem runOp_queueKept (outcome : SendOutcome) (feature : Option (List UInt8)) (op : Op) :
    QueueKept b (runOp b outcome feature op).1 := by
  obtain ⟨_, _, _, _, _, _, _, hframe⟩ := runOp_frame (b := b) outcome feature op
  rw [hframe]
  exact ⟨rfl, rfl⟩

theorem handleBluetoothFrame_queueKept (frame : Frame) (muteRequest : Option Bool) :
    QueueKept b (handleBluetoothFrame media b frame muteRequest) := by
  obtain ⟨_, _, _, _, _, _, _, _, hframe⟩ := handleBluetoothFrame_frame frame muteRequest
  rw [hframe]
  exact ⟨rfl, rfl⟩

theorem handleVirtualFrame_flush (frame : Frame) :
    (handleVirtualFrame media tuning b frame).flush = b.flush := by
  obtain ⟨_, _, _, hframe⟩ := handleVirtualFrame_frame frame
  rw [hframe]

end Frame

section Queue

variable {c : Custody} {s : BridgeState E D}

/-- Queueing chunks in the ledger is queueing them in the session. -/
theorem queue_foldl_noteQueued (chunks : List AudioChunk) :
    (chunks.foldl (noteQueued tuning) c).chunks.queue =
      chunks.foldl (queueAudioChunk tuning) c.chunks.queue := by
  induction chunks generalizing c with
  | nil => rfl
  | cons chunk rest ih =>
      rw [List.foldl_cons, List.foldl_cons, ih]
      congr 1
      simp only [noteQueued, queueAudioChunk, Custody.push, Custody.drop, Ledger.queue_push]
      split_ifs
      · rw [Ledger.queue_retire, List.drop_one]
      · rfl

theorem queue_foldl_push (chunks : List AudioChunk) :
    (chunks.foldl Custody.push c).chunks.queue = c.chunks.queue ++ chunks := by
  induction chunks generalizing c with
  | nil => simp
  | cons chunk rest ih => simp [ih, Custody.push]

theorem queue_clear (c : Custody) : c.clear.chunks.queue = [] := by
  simp [Custody.clear]

theorem pending_queueAudioChunks (payload : List UInt8) :
    (queueAudioChunks media tuning s payload).pendingAudioChunks =
      match (pushUsbAudio media.opusEncode s.extractor payload).2 with
      | [] => s.pendingAudioChunks
      | chunk :: rest => (chunk :: rest).foldl (queueAudioChunk tuning)
          (if s.audioPcmStreamActive then s.pendingAudioChunks else []) := by
  simp only [queueAudioChunks]
  cases (pushUsbAudio media.opusEncode s.extractor payload).2 with
  | nil => rfl
  | cons chunk rest =>
      dsimp only
      split_ifs <;> rfl

/-- The ledger follows the queue through an AUDIO_OUT frame. -/
theorem queue_noteAudioOut (h : c.chunks.queue = s.pendingAudioChunks) (payload : List UInt8) :
    (noteAudioOut media tuning s c payload).chunks.queue =
      (queueAudioChunks media tuning (if resetsRoute s then resetAudioRoute media s else s)
        payload).pendingAudioChunks := by
  rw [pending_queueAudioChunks]
  simp only [noteAudioOut, completedChunks, startsPcm]
  by_cases hreset : resetsRoute s = true
  · simp only [hreset, if_true, Bool.true_or, resetAudioRoute, clearStream]
    split
    · exact queue_clear c
    · rw [queue_foldl_noteQueued, queue_clear]
      rfl
  · simp only [Bool.eq_false_iff.mpr hreset, Bool.false_eq_true, if_false, Bool.false_or]
    split
    · exact h
    · rw [queue_foldl_noteQueued]
      cases s.audioPcmStreamActive with
      | true => simp [h]
      | false => simp [queue_clear]

/-- The ledger follows the queue through the first section of a frame. -/
theorem queue_noteVirtualFrame {b : Session E D} (h : c.chunks.queue = b.state.pendingAudioChunks)
    (frame : Frame) :
    (noteVirtualFrame media tuning b.state c frame).chunks.queue =
      (handleVirtualFrame media tuning b frame).state.pendingAudioChunks := by
  unfold noteVirtualFrame handleVirtualFrame
  cases frame.type with
  | usbInterface =>
      generalize frame.payload = payload
      rcases payload with _ | ⟨_, _ | ⟨altsetting, _ | ⟨interfaceType, _ | ⟨_, _ | ⟨_, _⟩⟩⟩⟩⟩
      case cons.cons.cons.cons.nil =>
        dsimp only
        split_ifs
        · exact queue_clear c
        · exact h
        · exact h
      all_goals exact h
  | usbHidOut =>
      dsimp only [applyHidOut]
      cases b.state.outputState.applyUsbOutputReport frame.payload with
      | none => exact h
      | some outputState => exact h
  | usbFeatureGet =>
      dsimp only
      split
      · exact h
      · split <;> exact h
  | usbFeatureSet =>
      dsimp only
      split_ifs
      · exact h
      · cases hcommand : parseTestCommand frame.payload with
        | none => exact h
        | some command =>
            obtain ⟨device, action, data⟩ := command
            dsimp only
            rw [cacheFeatureReport_testResult]
            cases data with
            | nil =>
                simp only [applyTestCommand]
                split_ifs <;> exact h
            | cons enable rest =>
                simp only [applyTestCommand]
                split_ifs with hcontrol hplay hprepare hprepare
                · exact h
                · exact h
                · exact absurd (hcontrol.2.symm.trans hprepare.2) (by decide)
                · exact queue_clear c
                · exact h
                · exact h
  | usbAudioOut => exact queue_noteAudioOut media tuning h frame.payload
  | usbAudioIn => exact h
  | usbHidIn => exact h
  | usbFeatureReply => exact h
  | btControlPacket => exact h
  | btInterruptPacket => exact h
  | status => exact h
  | unknown code => exact h

theorem queue_noteWaveout (h : c.chunks.queue = s.pendingAudioChunks) :
    (noteWaveout media tuning s c).chunks.queue =
      (enqueueSpeakerWaveoutChunk media tuning s).pendingAudioChunks := by
  simp only [noteWaveout, enqueueSpeakerWaveoutChunk]
  split_ifs with hactive
  · have hempty : s.pendingAudioChunks = [] := by
      simp only [Bool.and_eq_true, List.isEmpty_iff] at hactive
      exact hactive.2
    rw [queue_foldl_push, h, hempty, List.nil_append]
  · exact h

/-- What the first section of the flush does to the queue: nothing, and then it
removes no chunk later unless the queue is empty, or it drops the stale chunks and
makes a packet from the next one. -/
inductive BeginEffect (b t : Session E D) : Prop
  | rests (hpending : t.state.pendingAudioChunks = b.state.pendingAudioChunks)
      (hidle : WillRemove t.flush = true → b.state.pendingAudioChunks = [])
      (hempty : ∀ out audio, t.flush = .sending out audio → audio.sentAudioChunk = none)
      (hfinishing : ∀ out audio sent, t.flush ≠ .finishing out audio sent)
  | takes (out : Outgoing) (audio : AudioSend) (hflush : t.flush = .sending out audio)
      (hchunk : audio.sentAudioChunk.isSome = true)
      (hpending : t.state.pendingAudioChunks = b.state.pendingAudioChunks.drop
        (b.state.pendingAudioChunks.length - tuning.kAudioFreshQueueChunks))

variable {b t : Session E D}

theorem BeginEffect.idle (hpending : t.state.pendingAudioChunks = b.state.pendingAudioChunks)
    (hflush : t.flush = .idle) : BeginEffect tuning b t := by
  refine .rests hpending ?_ ?_ ?_
  · simp [hflush, WillRemove]
  · simp [hflush]
  · simp [hflush]

theorem flushUnderflow_effect {c : Session E D}
    (hpending : c.state.pendingAudioChunks = b.state.pendingAudioChunks)
    (hempty : b.state.pendingAudioChunks = []) :
    BeginEffect tuning b (flushUnderflow c) := by
  simp only [flushUnderflow, buildBtStateIfChanged]
  split_ifs
  · refine .rests hpending (fun _ => hempty) ?_ (by simp)
    rintro out audio ⟨⟩
    rfl
  · exact .idle tuning hpending rfl
  · exact .rests hpending (by simp [WillRemove]) (by simp) (by simp)

theorem BeginEffect.of_begins {now : Nat} (begins : Begins tuning b now t) :
    BeginEffect tuning b t := by
  cases begins with
  | rests s readied => exact .idle tuning readied.pending rfl
  | drains s readied empty => exact flushUnderflow_effect tuning readied.pending empty
  | conceals s readied empty =>
      refine .rests readied.pending (fun _ => empty) ?_ (by simp [buildAudioPacket])
      rintro out audio ⟨⟩
      rfl
  | takes s readied buffered due chunk rest fresh => exact .takes _ _ rfl rfl fresh.symm

end Queue

section Moves

variable {c d : Custody}

/-- What happens to the chunks outside the last section of the flush. -/
inductive Moves (c : Custody) : Custody → Prop
  | refl : Moves c c
  | clear {d : Custody} (moves : Moves c d) : Moves c d.clear
  | drop {d : Custody} (moves : Moves c d) (count : Nat) : Moves c (d.drop count)
  | push {d : Custody} (moves : Moves c d) (chunk : AudioChunk) : Moves c (d.push chunk)

namespace Moves

theorem inPacket (moves : Moves c d) : d.inPacket = c.inPacket := by
  induction moves with
  | refl => rfl
  | clear _ ih => exact ih
  | drop _ _ ih => exact ih
  | push _ _ ih => exact ih

theorem transmitted (moves : Moves c d) : d.transmitted = c.transmitted := by
  induction moves with
  | refl => rfl
  | clear _ ih => exact ih
  | drop _ _ ih => exact ih
  | push _ _ ih => exact ih

/-- No chunk leaves with a packet. -/
theorem removesOwn (moves : Moves c d) (own : RemovesOwn c) : RemovesOwn d := by
  induction moves with
  | refl => exact own
  | clear _ ih =>
      intro number item hitem inPacket sent hfate
      rcases Ledger.getElem?_gone_retire _ hitem with hold | ⟨hnew, -⟩
      · exact ih number item hold inPacket sent hfate
      · rw [hnew] at hfate
        cases hfate
  | drop _ count ih =>
      intro number item hitem inPacket sent hfate
      rcases Ledger.getElem?_gone_retire _ hitem with hold | ⟨hnew, -⟩
      · exact ih number item hold inPacket sent hfate
      · rw [hnew] at hfate
        cases hfate
  | push _ chunk ih => exact ih

theorem accounted (moves : Moves c d) (accounted : Accounted c) : Accounted d := by
  induction moves with
  | refl => exact accounted
  | clear _ ih =>
      refine ⟨fun number item hitem => ?_, ?_⟩
      · rcases Ledger.getElem?_gone_retire _ hitem with hold | ⟨hnew, -⟩
        · exact ih.1 number item hold
        · exact .inr (.inl hnew)
      · refine (Ledger.countP_gone_retire_eq _ ?_).trans_le ih.2
        exact fun _ => rfl
  | drop _ count ih =>
      refine ⟨fun number item hitem => ?_, ?_⟩
      · rcases Ledger.getElem?_gone_retire _ hitem with hold | ⟨hnew, -⟩
        · exact ih.1 number item hold
        · exact .inr (.inr (by rw [hnew]; rfl))
      · exact (Ledger.countP_gone_retire_le _ _ _ _).trans (Nat.add_le_add_right ih.2 _)
  | push _ chunk ih => exact ih

theorem foldl_noteQueued (moves : Moves c d) (chunks : List AudioChunk) :
    Moves c (chunks.foldl (noteQueued tuning) d) := by
  induction chunks generalizing d with
  | nil => exact moves
  | cons chunk rest ih =>
      apply ih
      unfold noteQueued
      split_ifs
      · exact (moves.drop 1).push chunk
      · exact moves.push chunk

theorem foldl_push (moves : Moves c d) (chunks : List AudioChunk) :
    Moves c (chunks.foldl Custody.push d) := by
  induction chunks generalizing d with
  | nil => exact moves
  | cons chunk rest ih => exact ih (moves.push chunk)

theorem noteAudioOut (s : BridgeState E D) (payload : List UInt8) :
    Moves c (noteAudioOut media tuning s c payload) := by
  have hreset : Moves c (if resetsRoute s then c.clear else c) := by
    split_ifs
    · exact Moves.refl.clear
    · exact .refl
  simp only [ChunkQueue.noteAudioOut]
  split
  · exact hreset
  · apply foldl_noteQueued
    split_ifs at hreset ⊢
    · exact hreset.clear
    · exact hreset.clear
    · exact hreset
    · exact hreset

theorem noteVirtualFrame (s : BridgeState E D) (frame : Frame) :
    Moves c (noteVirtualFrame media tuning s c frame) := by
  unfold ChunkQueue.noteVirtualFrame
  split
  · split
    · split_ifs
      · exact Moves.refl.clear
      · exact .refl
    · exact .refl
  · split_ifs
    · exact .refl
    · split
      · split_ifs
        · exact .refl
        · exact Moves.refl.clear
        · exact .refl
      · exact .refl
  · exact Moves.noteAudioOut media tuning s frame.payload
  · exact .refl

theorem noteWaveout (s : BridgeState E D) : Moves c (noteWaveout media tuning s c) := by
  unfold ChunkQueue.noteWaveout
  split_ifs
  · exact Moves.refl.foldl_push _
  · exact .refl

end Moves

end Moves

section Front

variable {c d : Custody} {b : Session E D}

/-- The chunk at the front stayed there, or the queue is empty. -/
def FrontKept (c d : Custody) : Prop :=
  d.chunks.queue = [] ∨ d.chunks.gone = c.chunks.gone ∧ c.chunks.queue ≠ []

theorem FrontKept.refl (c : Custody) : FrontKept c c := by
  by_cases hempty : c.chunks.queue = []
  · exact .inl hempty
  · exact .inr ⟨rfl, hempty⟩

theorem FrontKept.clear (c d : Custody) : FrontKept c d.clear := .inl (queue_clear d)

/-- Chunks that fit in the queue displace none. -/
theorem gone_foldl_noteQueued {chunks : List AudioChunk}
    (h : c.chunks.queue.length + chunks.length ≤ tuning.kMaxPendingAudioChunks) :
    (chunks.foldl (noteQueued tuning) c).chunks.gone = c.chunks.gone := by
  induction chunks generalizing c with
  | nil => rfl
  | cons chunk rest ih =>
      rw [List.length_cons] at h
      have hqueued : noteQueued tuning c chunk = c.push chunk := by
        rw [noteQueued, if_neg (by omega)]
      rw [List.foldl_cons, hqueued, ih]
      · rfl
      · simp only [Custody.push, Ledger.queue_push, List.length_append, List.length_singleton]
        omega

theorem frontKept_noteAudioOut (h : c.chunks.queue = b.state.pendingAudioChunks)
    {payload : List UInt8}
    (ok : completedChunks media b.state payload = [] ∨
      startsPcm b.state = false ∧ b.state.pendingAudioChunks ≠ [] ∧
        b.state.pendingAudioChunks.length + (completedChunks media b.state payload).length ≤
          tuning.kMaxPendingAudioChunks) :
    FrontKept c (noteAudioOut media tuning b.state c payload) := by
  simp only [noteAudioOut]
  rcases ok with hnone | ⟨hstarts, hpending, hfit⟩
  · rw [hnone]
    dsimp only
    split_ifs
    · exact .clear c c
    · exact .refl c
  · have hreset : resetsRoute b.state = false := by
      simp only [startsPcm, Bool.or_eq_false_iff] at hstarts
      exact hstarts.1
    simp only [hreset, hstarts, Bool.false_eq_true, if_false]
    split
    · exact .refl c
    · rename_i chunk rest hchunks
      rw [hchunks, ← h] at hfit
      rw [← h] at hpending
      exact .inr ⟨gone_foldl_noteQueued tuning hfit, hpending⟩

theorem frontKept_noteVirtualFrame (h : c.chunks.queue = b.state.pendingAudioChunks)
    {frame : Frame} (ok : QueueGuard media tuning b (.virtualFrame frame))
    (hremove : WillRemove b.flush = true) :
    FrontKept c (noteVirtualFrame media tuning b.state c frame) := by
  unfold noteVirtualFrame
  split
  · split
    · split_ifs
      · exact .clear c c
      · exact .refl c
    · exact .refl c
  · split_ifs
    · exact .refl c
    · split
      · split_ifs
        · exact .refl c
        · exact .clear c c
        · exact .refl c
      · exact .refl c
  · rename_i htype
    exact frontKept_noteAudioOut media tuning h (ok htype hremove)
  · exact .refl c

end Front

/-- The invariant. While the flush is between its sections, the chunk at the front
is the one in the packet. -/
structure Inv (t : Traced E D) : Prop where
  queue : t.custody.chunks.queue = t.session.state.pendingAudioChunks
  own : RemovesOwn t.custody
  accounted : Accounted t.custody
  packet : WillRemove t.session.flush = true → t.custody.chunks.queue ≠ [] →
    t.custody.inPacket = some t.custody.chunks.gone.length
  acked : ∀ out audio, t.session.flush = .finishing out audio true →
    ∀ number ∈ t.custody.inPacket, number ∈ t.custody.transmitted

namespace Inv

variable {b b' : Session E D} {c : Custody}

theorem kept (inv : Inv ⟨b, c⟩) (kept : QueueKept b b') : Inv ⟨b', c⟩ where
  queue := inv.queue.trans kept.pending.symm
  own := inv.own
  accounted := inv.accounted
  packet := by
    rw [kept.flush]
    exact inv.packet
  acked := by
    rw [kept.flush]
    exact inv.acked

theorem virtualFrame (inv : Inv ⟨b, c⟩) {frame : Frame}
    (ok : QueueGuard media tuning b (.virtualFrame frame)) :
    Inv ⟨handleVirtualFrame media tuning b frame,
      noteVirtualFrame media tuning b.state c frame⟩ := by
  have hmoves : Moves c (noteVirtualFrame media tuning b.state c frame) := .noteVirtualFrame _ _ _ _
  have hflush := handleVirtualFrame_flush media tuning (b := b) frame
  refine ⟨queue_noteVirtualFrame media tuning inv.queue frame, hmoves.removesOwn inv.own,
    hmoves.accounted inv.accounted, ?_, ?_⟩
  · dsimp only
    rw [hflush, hmoves.inPacket]
    intro hremove hqueue
    rcases frontKept_noteVirtualFrame media tuning inv.queue ok hremove with hempty | ⟨hgone, hold⟩
    · exact absurd hempty hqueue
    · rw [hgone]
      exact inv.packet hremove hold
  · dsimp only
    rw [hflush, hmoves.inPacket, hmoves.transmitted]
    exact inv.acked

theorem enqueueWaveout (inv : Inv ⟨b, c⟩) :
    Inv ⟨{ b with state := enqueueSpeakerWaveoutChunk media tuning b.state, flush := .enqueued },
      noteWaveout media tuning b.state c⟩ := by
  have hmoves : Moves c (noteWaveout media tuning b.state c) := .noteWaveout _ _ _
  refine ⟨queue_noteWaveout media tuning inv.queue, hmoves.removesOwn inv.own,
    hmoves.accounted inv.accounted, ?_, ?_⟩
  · simp [WillRemove]
  · simp

/-- The packet is made from the chunk at the front, behind the stale ones. -/
theorem flushBegin (inv : Inv ⟨b, c⟩) (now : Nat) :
    Inv ⟨flushBegin tuning b now,
      noteFlushBegin tuning c (Bridge.flushBegin tuning b now).flush⟩ := by
  have begins : Begins tuning b now (Bridge.flushBegin tuning b now) := begins_flushBegin b now
  cases BeginEffect.of_begins tuning begins with
  | rests hpending hidle hempty hfinishing =>
      have hnote : noteFlushBegin tuning c (Bridge.flushBegin tuning b now).flush = c ∨
          noteFlushBegin tuning c (Bridge.flushBegin tuning b now).flush =
            { c with inPacket := none } := by
        unfold noteFlushBegin
        split
        · rename_i out audio hflush
          simp [hempty out audio hflush]
        · exact .inl rfl
      have hqueue := inv.queue.trans hpending.symm
      have hpacket : WillRemove (Bridge.flushBegin tuning b now).flush = true →
          ¬c.chunks.queue ≠ [] := fun hremove => not_not.mpr (inv.queue.trans (hidle hremove))
      rcases hnote with hsame | hnone
      · rw [hsame]
        exact ⟨hqueue, inv.own, inv.accounted, fun hremove hne => absurd hne (hpacket hremove),
          fun out audio hflush => absurd hflush (hfinishing out audio true)⟩
      · rw [hnone]
        exact ⟨hqueue, inv.own, inv.accounted, fun hremove hne => absurd hne (hpacket hremove),
          fun out audio hflush => absurd hflush (hfinishing out audio true)⟩
  | takes out audio hflush hchunk hpending =>
      have hmoves : Moves c (c.drop (c.chunks.queue.length - tuning.kAudioFreshQueueChunks)) :=
        Moves.refl.drop _
      have hnote : noteFlushBegin tuning c (Bridge.flushBegin tuning b now).flush =
          { c.drop (c.chunks.queue.length - tuning.kAudioFreshQueueChunks) with
            inPacket := some (c.drop (c.chunks.queue.length -
              tuning.kAudioFreshQueueChunks)).chunks.gone.length } := by
        rw [hflush]
        simp [noteFlushBegin, hchunk]
      rw [hnote]
      refine ⟨?_, hmoves.removesOwn inv.own, hmoves.accounted inv.accounted, fun _ _ => rfl, ?_⟩
      · rw [hpending, ← inv.queue]
        rfl
      · simp [hflush]

theorem flushSend (inv : Inv ⟨b, c⟩) {out : Outgoing} {audio : AudioSend}
    (hflush : b.flush = .sending out audio) (outcome : SendOutcome) :
    Inv ⟨{ trySendBtOutputReport b out outcome with
      flush := .finishing out audio (outcome == .sent) }, noteFlushSend c b.flush outcome⟩ := by
  have hremove : ∀ {sent : Bool}, WillRemove (.finishing out audio sent) = WillRemove b.flush := by
    simp [hflush, WillRemove]
  have haccounted : Accounted { c with transmitted := c.transmitted ++ c.inPacket.toList } :=
    ⟨fun number item hitem => (inv.accounted.1 number item hitem).imp_left
      (List.mem_append_left _), inv.accounted.2⟩
  rw [hflush]
  cases outcome with
  | sent =>
      refine ⟨inv.queue, inv.own, haccounted, ?_, ?_⟩
      · intro hwill
        rw [hremove] at hwill
        exact inv.packet hwill
      · intro _ _ _ number hnumber
        exact List.mem_append_right _ (Option.mem_toList.mpr hnumber)
  | queueFull =>
      refine ⟨inv.queue, inv.own, inv.accounted, ?_, by simp⟩
      intro hwill
      rw [hremove] at hwill
      exact inv.packet hwill
  | exception =>
      refine ⟨inv.queue, inv.own, inv.accounted, ?_, by simp⟩
      intro hwill
      rw [hremove] at hwill
      exact inv.packet hwill

theorem flushStops (inv : Inv ⟨b, c⟩) {out : Outgoing} (hflush : b.flush = .stopping out)
    (outcome : SendOutcome) :
    Inv ⟨{ trySendBtOutputReport b out outcome with flush := .idle },
      noteFlushSend c b.flush outcome⟩ := by
  have hnote : noteFlushSend c b.flush outcome = c := by
    rw [hflush]
    rfl
  rw [hnote]
  refine ⟨?_, inv.own, inv.accounted, by simp [WillRemove], by simp⟩
  cases outcome <;> exact inv.queue

/-- The pop removes the chunk in the packet, if there is a chunk at all. -/
theorem flushFinish (inv : Inv ⟨b, c⟩) {out : Outgoing} {audio : AudioSend} {sent : Bool}
    (hflush : b.flush = .finishing out audio sent) :
    Inv ⟨{ b with state := flushFinish tuning b.state audio sent, flush := .idle },
      noteFlushFinish c b.flush⟩ := by
  have hnote : noteFlushFinish c b.flush =
      if audio.sendingConcealment then c
      else { c with
        chunks := c.chunks.retire 1 (.flushed c.inPacket sent)
        audioDroppedCount := if sent then c.audioDroppedCount else c.audioDroppedCount + 1 } := by
    rw [hflush]
    rfl
  rw [hnote]
  split
  · rename_i hconcealment
    refine ⟨?_, inv.own, inv.accounted, by simp [WillRemove], by simp⟩
    simp only [Bridge.flushFinish, hconcealment, if_true]
    exact inv.queue
  · rename_i hconcealment
    have hpacket : ∀ {number : Nat}, c.chunks.gone.length ≤ number →
        number < c.chunks.gone.length + min 1 c.chunks.queue.length → c.inPacket = some number := by
      intro number hle hlt
      have hqueue : c.chunks.queue ≠ [] := List.length_pos_iff.mp (by omega)
      have hlength : c.chunks.gone.length = number := by omega
      rw [← hlength]
      exact inv.packet (by simp [hflush, WillRemove, hconcealment]) hqueue
    refine ⟨?_, ?_, ⟨?_, ?_⟩, by simp [WillRemove], by simp⟩
    · simp only [Bridge.flushFinish, hconcealment, Bool.false_eq_true, if_false]
      rw [← inv.queue, ← List.drop_one]
      rfl
    · intro number item hitem inPacket sent' hfate
      rcases Ledger.getElem?_gone_retire _ hitem with hold | ⟨hnew, hle, hlt⟩
      · exact inv.own number item hold inPacket sent' hfate
      · rw [hnew] at hfate
        obtain ⟨rfl, -⟩ := Fate.flushed.inj hfate
        exact hpacket hle hlt
    · intro number item hitem
      rcases Ledger.getElem?_gone_retire _ hitem with hold | ⟨hnew, hle, hlt⟩
      · exact inv.accounted.1 number item hold
      · cases sent with
        | true => exact .inl (inv.acked out audio hflush number (hpacket hle hlt))
        | false => exact .inr (.inr (by rw [hnew]; rfl))
    · cases sent with
      | true =>
          refine (Ledger.countP_gone_retire_eq _ ?_).trans_le inv.accounted.2
          exact fun _ => rfl
      | false =>
          exact (Ledger.countP_gone_retire_le _ _ _ _).trans
            (Nat.add_le_add_right inv.accounted.2 1)

theorem step (inv : Inv ⟨b, c⟩) {action : Action} (ok : QueueGuard media tuning b action)
    (h : step media tuning b action = some b') : Inv ⟨b', note media tuning b b' c action⟩ := by
  cases steps_of_step h with
  | sendInit outcome created =>
      have hkept := trySend_queueKept (b := b)
        ⟨.init, b.state.outputState.buildBtInitReport.toList, b.builds⟩ outcome
      exact inv.kept ⟨hkept.pending, hkept.flush⟩
  | finishInit sent => exact inv.kept ⟨rfl, rfl⟩
  | virtualFrame frame running ready => exact inv.virtualFrame media tuning ok
  | virtualOp outcome feature op rest program =>
      have hkept := runOp_queueKept (b := b) outcome feature op
      exact inv.kept ⟨hkept.pending, hkept.flush⟩
  | bluetoothFrame frame muteRequest running ready =>
      exact inv.kept (handleBluetoothFrame_queueKept media frame muteRequest)
  | bluetoothOp outcome feature op rest program =>
      have hkept := runOp_queueKept (b := b) outcome feature op
      exact inv.kept ⟨hkept.pending, hkept.flush⟩
  | enqueueWaveout idle running => exact inv.enqueueWaveout media tuning
  | flushBegin now enqueued => exact inv.flushBegin tuning now
  | flushStops outcome out stopping => exact inv.flushStops stopping outcome
  | flushSends outcome out audio sending => exact inv.flushSend sending outcome
  | flushFinish out audio sent finishing => exact inv.flushFinish tuning finishing

theorem new : Inv (Traced.new media) where
  queue := rfl
  own := by simp [RemovesOwn, Traced.new, Custody.new, Ledger.empty]
  accounted := by simp [Accounted, Traced.new, Custody.new, Ledger.empty]
  packet := by simp [Traced.new, Session.new, WillRemove]
  acked := by simp [Traced.new, Session.new]

end Inv

/-- In every run that meets the condition, the flush removes the chunk that it put in
the packet, and no chunk is lost silently. -/
theorem noSilentLoss_of_guardedRun {media : Media E D} {tuning : Tuning} {actions : List Action}
    {t : Traced E D}
    (run : GuardedRun (tracedStep media tuning) (fun t => QueueGuard media tuning t.session)
      (Traced.new media) actions t) : NoSilentLoss t := by
  have inv : Inv t := by
    refine run.invariant ?_ (Inv.new media)
    intro t action t' inv ok h
    obtain ⟨session, hsession, rfl⟩ := Option.map_eq_some_iff.mp h
    exact inv.step media tuning ok hsession
  exact ⟨inv.queue, inv.own, inv.accounted⟩

section Examples

instance (b : Session E D) (action : Action) : Decidable (QueueGuard media tuning b action) :=
  match action with
  | .virtualFrame _ => inferInstanceAs (Decidable (_ → _ → _ ∨ _ ∧ _ ∧ _))
  | .sendInit _ | .finishInit | .virtualOp _ _ | .bluetoothFrame _ _ | .bluetoothOp _ _
  | .enqueueWaveout | .flushBegin _ | .flushSend _ | .flushFinish =>
      inferInstanceAs (Decidable True)

/-- PCM for one chunk. -/
def pcmFrame : Frame where
  type := .usbAudioOut
  payload := List.replicate frameMaxPayload 0
  payload_le := List.length_replicate.le

def audioOutEvent (altsetting : UInt8) : Frame where
  type := .usbInterface
  payload := [1, altsetting, kUsbInterfaceAudioOut, 0]
  payload_le := by simp [frameMaxPayload]

/-- One chunk was queued and the flush has put it in a packet. -/
def chunkInPacket : List Action :=
  [.sendInit .sent, .finishInit, .virtualFrame pcmFrame, .virtualOp .sent none,
    .virtualOp .sent none, .enqueueWaveout, .flushBegin 1, .enqueueWaveout, .flushBegin 120001]

theorem guardedRun_secondChunk : ∃ t, GuardedRun (tracedStep silentMedia .default)
    (fun t => QueueGuard silentMedia .default t.session) (Traced.new silentMedia)
    (chunkInPacket ++ [.virtualFrame pcmFrame, .flushSend .sent, .flushFinish]) t :=
  exists_guardedRun_of_execute (by decide +kernel)

/-- A chunk that is queued during the write stays. -/
theorem noSilentLoss_secondChunk : ∃ t, GuardedRun (tracedStep silentMedia .default)
    (fun t => QueueGuard silentMedia .default t.session) (Traced.new silentMedia)
    (chunkInPacket ++ [.virtualFrame pcmFrame, .flushSend .sent, .flushFinish]) t ∧
      NoSilentLoss t := by
  obtain ⟨t, run⟩ := guardedRun_secondChunk
  exact ⟨t, run, noSilentLoss_of_guardedRun run⟩

/-- The stream restarts while the packet is written. -/
def restartDuringWrite : List Action :=
  chunkInPacket ++ [.virtualFrame (audioOutEvent 1), .virtualOp .sent none,
    .virtualFrame pcmFrame, .flushSend .sent, .flushFinish]

/-- The flush removes the first chunk of the new stream, which was never in a packet. -/
theorem chunk_lost : ∃ t, Run (tracedStep silentMedia .default) (Traced.new silentMedia)
    restartDuringWrite t ∧ ¬RemovesOwn t.custody ∧ ¬Accounted t.custody := by
  obtain ⟨t, run, h⟩ : ∃ t, Run (tracedStep silentMedia .default) (Traced.new silentMedia)
      restartDuringWrite t ∧
      t.custody.chunks.gone[1]?.map Prod.snd = some (.flushed (some 0) true) ∧
        t.custody.transmitted = [0] := exists_run_of_execute (by decide +kernel)
  obtain ⟨item, hitem, hfate⟩ := Option.map_eq_some_iff.mp h.1
  refine ⟨t, run, fun own => ?_, fun accounted => ?_⟩
  · exact absurd (own 1 item hitem _ _ hfate) (by decide)
  · have hlost := accounted.1 1 item hitem
    rw [h.2, hfate] at hlost
    exact absurd hlost (by decide)

end Examples

end VirtualDualSense.Win32.ChunkQueue
