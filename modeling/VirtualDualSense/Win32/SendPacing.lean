import VirtualDualSense.Win32.BuiltPackets
import VirtualDualSense.Lib.Pacers

/-!
# Pacing of the audio packets

The flush schedules the next packet one interval after the last one was due, or after it was
sent when that is later. Between two resets of the due time the attempts to write keep this
pace. The end of jitter buffering is such a reset, and turning the test tone on starts jitter
buffering again without one.
-/

namespace VirtualDualSense.Win32.SendPacing

open Lib.Runs Lib.Pacers Protocol.Frames Protocol.OutputState Protocol.PcmAudioExtractor
  Protocol.BridgeParts Bridge BridgeSteps BuiltPackets

/-- A session, the last reading of the flush clock, and the attempts to write a packet: when
each was scheduled, and its send time. -/
structure Traced (E D : Type*) where
  session : Session E D
  clock : Nat
  attempts : List Slot

variable {E D : Type*} (media : Media E D) (tuning : Tuning)

section Property

def slotOf (audio : AudioSend) : Slot := ⟨audio.scheduledSendTime, audio.sendTime⟩

/-- The attempt that a write makes. -/
def attemptBy (b : Session E D) : Action → List Slot
  | .flushSend _ =>
      match b.flush with
      | .sending _ audio => [slotOf audio]
      | _ => []
  | _ => []

def clockAfter (clock : Nat) : Action → Nat
  | .flushBegin now => now
  | _ => clock

/-- A step of the session, with its attempt. -/
def tracedStep (t : Traced E D) (action : Action) : Option (Traced E D) :=
  (step media tuning t.session action).map fun session =>
    ⟨session, clockAfter t.clock action, t.attempts ++ attemptBy t.session action⟩

/-- The clock does not go back. -/
def Monotone (clock : Nat) : Action → Prop
  | .flushBegin now => clock ≤ now
  | _ => True

/-- The action is one of the flush or leaves the due time alone. -/
def KeepsDueTime (b : Session E D) (action : Action) : Prop :=
  ofFlush action = true ∨ (step media tuning b action).all fun t =>
    t.state.nextHapticsSendTime == b.state.nextHapticsSendTime

/-- The action is one of the flush or does not start jitter buffering. -/
def KeepsBuffering (b : Session E D) (action : Action) : Prop :=
  ofFlush action = true ∨ (step media tuning b action).all fun t =>
    b.state.audioJitterBuffering || !t.state.audioJitterBuffering

/-- No other operation resets the due time. -/
def Unreset (t : Traced E D) (action : Action) : Prop :=
  Monotone t.clock action ∧ KeepsDueTime media tuning t.session action

/-- No other operation resets the due time or starts jitter buffering. -/
def Undisturbed (t : Traced E D) (action : Action) : Prop :=
  Unreset media tuning t action ∧ KeepsBuffering media tuning t.session action

/-- The pace of the attempts: as far apart as the packets in between take, none ahead of its
place in the first schedule, and never three within one interval. -/
structure KeepsPace (attempts : List Slot) : Prop where
  apart : ∀ i j a b, i < j → attempts[i]? = some a → attempts[j]? = some b →
    a.time + (j - i - 1) * kAudioOutputBaseInterval ≤ b.time
  scheduled : ∀ k first a, attempts[0]? = some first → attempts[k]? = some a →
    first.scheduled + k * kAudioOutputBaseInterval ≤ a.time
  noBurst : ∀ i a b, attempts[i]? = some a → attempts[i + 2]? = some b →
    a.time + kAudioOutputBaseInterval < b.time

end Property

section Schedule

variable {media tuning} {b c t : Session E D} {now : Nat}

theorem kAudioOutputBaseInterval_pos : 0 < kAudioOutputBaseInterval := by decide

/-- The pace does not depend on the queue: both watermark delays are zero. -/
theorem audioOutputIntervalForPending_eq (pending : Nat) :
    audioOutputIntervalForPending tuning pending = kAudioOutputBaseInterval := by
  rw [audioOutputIntervalForPending]
  split_ifs <;> rfl

theorem flushFinish_next (s : BridgeState E D) (audio : AudioSend) (sent : Bool) :
    (flushFinish tuning s audio sent).nextHapticsSendTime =
      (slotOf audio).next kAudioOutputBaseInterval := by
  simp only [flushFinish, audioOutputIntervalForPending_eq, ite_self]
  rfl

theorem KeepsPace.of_paced {attempts : List Slot}
    (h : Paced kAudioOutputBaseInterval attempts) : KeepsPace attempts where
  apart := fun _ _ _ _ hij ha hb =>
    (h.time_add_lt kAudioOutputBaseInterval_pos hij ha hb).le
  scheduled := fun _ _ _ ha hb => h.first_add_le ha hb
  noBurst := by
    intro i a b ha hb
    have hlt := h.time_add_lt kAudioOutputBaseInterval_pos (by omega) ha hb
    rwa [show i + 2 - i - 1 = 1 by omega, Nat.one_mul] at hlt

/-- What the first section of the flush does to the schedule. -/
structure BeginPace (now : Nat) (b t : Session E D) : Prop where
  buffering : b.state.audioJitterBuffering = false → t.state.audioJitterBuffering = false
  rests : (∀ out audio, t.flush ≠ .sending out audio) → b.state.audioJitterBuffering = false →
    t.state.nextHapticsSendTime = b.state.nextHapticsSendTime ∨
      t.state.nextHapticsSendTime = 0 ∧ b.state.nextHapticsSendTime ≤ now
  sends : ∀ out audio, t.flush = .sending out audio → t.state.audioJitterBuffering = false ∧
    audio.sendTime = now ∧ audio.scheduledSendTime ≤ now ∧
    (b.state.audioJitterBuffering = false → audio.scheduledSendTime =
      if b.state.nextHapticsSendTime = 0 then now else b.state.nextHapticsSendTime)

theorem BeginPace.idle
    (hbuffering : b.state.audioJitterBuffering = false → t.state.audioJitterBuffering = false)
    (hnext : b.state.audioJitterBuffering = false →
      t.state.nextHapticsSendTime = b.state.nextHapticsSendTime)
    (hflush : t.flush = .idle) : BeginPace now b t where
  buffering := hbuffering
  rests := fun _ h => .inl (hnext h)
  sends := by simp [hflush]

/-- A packet that is due. -/
theorem buildAudioPacket_pace (haptics : HapticsChunk) (speaker : SpeakerChunk)
    (concealment : Bool) (chunk : Option AudioChunk)
    (hbuffering : c.state.audioJitterBuffering = false)
    (hnext : b.state.audioJitterBuffering = false →
      c.state.nextHapticsSendTime = b.state.nextHapticsSendTime)
    (hdue : Due c.state now) :
    BeginPace now b (buildAudioPacket c haptics speaker now concealment chunk) where
  buffering := fun _ => hbuffering
  rests := fun h => absurd rfl (h _ _)
  sends := by
    intro out audio h
    have haudio := (FlushPc.sending.inj ((buildAudioPacket_flush ..).symm.trans h)).2
    subst haudio
    dsimp only
    unfold Due at hdue
    refine ⟨hbuffering, rfl, ?_, fun hb => ?_⟩
    · split_ifs <;> omega
    · rw [← hnext hb]

theorem flushUnderflow_pace (hnext : b.state.nextHapticsSendTime ≤ now)
    (hsilent : c.state.speakerWaveoutActive = false) :
    BeginPace now b (flushUnderflow c) := by
  simp only [flushUnderflow, hsilent, Bool.false_eq_true, if_false, buildBtStateIfChanged]
  split_ifs
  · exact ⟨fun _ => rfl, fun _ _ => .inr ⟨rfl, hnext⟩, by simp⟩
  · exact ⟨fun _ => rfl, fun _ _ => .inr ⟨rfl, hnext⟩, by simp⟩

theorem BeginPace.of_begins (fed : Fed b.state) (begins : Begins tuning b now t) :
    BeginPace now b t := by
  cases begins with
  | rests s readied => exact .idle readied.buffering readied.due rfl
  | drains s readied empty stream due long =>
      obtain ⟨⟨_, _, _, _, rfl⟩, -, -⟩ := readied
      have hsilent : b.state.speakerWaveoutActive = false :=
        underflows_silent fed (underflows_of_due empty stream due long)
      unfold Due at due
      exact flushUnderflow_pace (by omega) hsilent
  | conceals s readied empty buffered due chunk =>
      exact buildAudioPacket_pace _ _ true none buffered readied.due due
  | takes s readied buffered due chunk rest fresh =>
      exact buildAudioPacket_pace _ _ false _ buffered readied.due due

end Schedule

section Invariant

variable {media tuning} {t t' : Traced E D} {action : Action}

/-- The flush is outside a packet. -/
def Resting : FlushPc → Prop
  | .idle | .enqueued | .stopping _ => True
  | .sending _ _ | .finishing _ _ _ => False

structure Inv (t : Traced E D) : Prop where
  built : BuiltPackets.Inv t.session
  paced : Paced kAudioOutputBaseInterval t.attempts
  /-- The last attempt set the due time, or it has been reset after that time came. -/
  resting : Resting t.session.flush → ∀ last, t.attempts.getLast? = some last →
    t.session.state.audioJitterBuffering = false ∧
      (last.next kAudioOutputBaseInterval ≤ t.session.state.nextHapticsSendTime ∨
        t.session.state.nextHapticsSendTime = 0 ∧
          last.next kAudioOutputBaseInterval ≤ t.clock)
  sending : ∀ out audio, t.session.flush = .sending out audio →
    t.session.state.audioJitterBuffering = false ∧ audio.scheduledSendTime ≤ audio.sendTime ∧
      ∀ last, t.attempts.getLast? = some last →
        last.next kAudioOutputBaseInterval ≤ audio.scheduledSendTime
  finishing : ∀ out audio sent, t.session.flush = .finishing out audio sent →
    t.session.state.audioJitterBuffering = false ∧ t.attempts.getLast? = some (slotOf audio)

/-- A step that leaves the schedule and the flush alone. -/
theorem Inv.keeps (inv : Inv t) {session : Session E D} (built : BuiltPackets.Inv session)
    (hflush : session.flush = t.session.flush)
    (hnext : session.state.nextHapticsSendTime = t.session.state.nextHapticsSendTime)
    (hbuffering : t.session.state.audioJitterBuffering = false →
      session.state.audioJitterBuffering = false) :
    Inv ⟨session, t.clock, t.attempts⟩ where
  built := built
  paced := inv.paced
  resting := by
    intro h last hlast
    obtain ⟨hold, hdue⟩ := inv.resting (hflush ▸ h) last hlast
    exact ⟨hbuffering hold, by rw [hnext]; exact hdue⟩
  sending := by
    intro out audio h
    obtain ⟨hold, hdue⟩ := inv.sending out audio (hflush ▸ h)
    exact ⟨hbuffering hold, hdue⟩
  finishing := by
    intro out audio sent h
    obtain ⟨hold, hlast⟩ := inv.finishing out audio sent (hflush ▸ h)
    exact ⟨hbuffering hold, hlast⟩

/-- A step of the flush outside a packet that leaves the schedule alone. -/
theorem Inv.rests (inv : Inv t) {session : Session E D} (built : BuiltPackets.Inv session)
    (hrest : Resting t.session.flush) (hrests : Resting session.flush)
    (hnext : session.state.nextHapticsSendTime = t.session.state.nextHapticsSendTime)
    (hbuffering : session.state.audioJitterBuffering = t.session.state.audioJitterBuffering) :
    Inv ⟨session, t.clock, t.attempts⟩ where
  built := built
  paced := inv.paced
  resting := by
    intro _ last hlast
    rw [hnext, hbuffering]
    exact inv.resting hrest last hlast
  sending := by
    intro out audio h
    rw [h] at hrests
    exact hrests.elim
  finishing := by
    intro out audio sent h
    rw [h] at hrests
    exact hrests.elim

/-- The packet is written, or its write fails. -/
theorem Inv.writes (inv : Inv t) {out : Outgoing} {audio : AudioSend} {sent : Bool}
    (hflush : t.session.flush = .sending out audio) {session : Session E D}
    (built : BuiltPackets.Inv session) (hfinishing : session.flush = .finishing out audio sent)
    (hstate : session.state = t.session.state) :
    Inv ⟨session, t.clock, t.attempts ++ [slotOf audio]⟩ := by
  obtain ⟨hbuffering, htime, hscheduled⟩ := inv.sending out audio hflush
  refine ⟨built, inv.paced.append htime hscheduled, fun h => ?_, fun out' audio' h => ?_,
    fun out' audio' sent' h => ?_⟩
  · dsimp only at h
    rw [hfinishing] at h
    exact h.elim
  · dsimp only at h
    rw [hfinishing] at h
    cases h
  · dsimp only at h ⊢
    rw [hfinishing] at h
    cases h
    exact ⟨hstate ▸ hbuffering, List.getLast?_concat⟩

/-- The last section sets the due time of the next packet. -/
theorem Inv.finishes (inv : Inv t) {out : Outgoing} {audio : AudioSend} {sent : Bool}
    (hflush : t.session.flush = .finishing out audio sent) {session : Session E D}
    (built : BuiltPackets.Inv session) (hidle : session.flush = .idle)
    (hstate : session.state = flushFinish tuning t.session.state audio sent) :
    Inv ⟨session, t.clock, t.attempts⟩ := by
  obtain ⟨hbuffering, hlast⟩ := inv.finishing out audio sent hflush
  refine ⟨built, inv.paced, fun _ last hlast' => ?_, fun out' audio' h => ?_,
    fun out' audio' sent' h => ?_⟩
  · dsimp only at hlast' ⊢
    rw [hlast] at hlast'
    cases hlast'
    rw [hstate, flushFinish_next]
    exact ⟨hbuffering, .inl le_rfl⟩
  · dsimp only at h
    rw [hidle] at h
    cases h
  · dsimp only at h
    rw [hidle] at h
    cases h

/-- A call of the flush begins. -/
theorem Inv.begins (inv : Inv t) {now : Nat} (henqueued : t.session.flush = .enqueued)
    (hclock : t.clock ≤ now) (built : BuiltPackets.Inv (flushBegin tuning t.session now)) :
    Inv ⟨flushBegin tuning t.session now, now, t.attempts⟩ := by
  have begins : Begins tuning t.session now (flushBegin tuning t.session now) :=
    begins_flushBegin t.session now
  have pace : BeginPace now t.session (flushBegin tuning t.session now) :=
    .of_begins (inv.built.fed henqueued) begins
  have hrest : Resting t.session.flush := by
    rw [henqueued]
    trivial
  refine ⟨built, inv.paced, fun h last hlast => ?_, fun out audio h => ?_,
    fun out audio sent h => ?_⟩
  · obtain ⟨hbuffering, hdue⟩ := inv.resting hrest last hlast
    refine ⟨pace.buffering hbuffering, ?_⟩
    have hnot : ∀ out audio, (flushBegin tuning t.session now).flush ≠ .sending out audio := by
      intro out audio hsending
      rw [hsending] at h
      exact h
    have hlate : last.next kAudioOutputBaseInterval ≤ t.session.state.nextHapticsSendTime ∨
        last.next kAudioOutputBaseInterval ≤ now := hdue.imp_right fun h => h.2.trans hclock
    obtain hnext | ⟨hnext, hpassed⟩ := pace.rests hnot hbuffering
    · dsimp only
      rw [hnext]
      exact hdue.imp_right fun h => ⟨h.1, h.2.trans hclock⟩
    · exact .inr ⟨hnext, hlate.elim (fun h => h.trans hpassed) id⟩
  · obtain ⟨hbuffering, htime, hscheduled, hnext⟩ := pace.sends out audio h
    refine ⟨hbuffering, by omega, fun last hlast => ?_⟩
    obtain ⟨hold, hdue⟩ := inv.resting hrest last hlast
    rw [hnext hold]
    obtain hdue | ⟨hunset, hdue⟩ := hdue
    · have hpositive := last.time_lt_next kAudioOutputBaseInterval_pos
      rw [if_neg (by omega)]
      exact hdue
    · rw [if_pos hunset]
      exact hdue.trans hclock
  · have effect : BuiltPackets.BeginEffect t.session (flushBegin tuning t.session now) :=
      .of_begins (inv.built.fed henqueued) begins
    exact absurd h (effect.finished out audio sent)

/-- A step of the other threads. -/
theorem Inv.other (inv : Inv t) (haction : ofFlush action = false)
    (ok : Undisturbed media tuning t action) (h : tracedStep media tuning t action = some t') :
    Inv t' := by
  obtain ⟨session, hsession, rfl⟩ := Option.map_eq_some_iff.mp h
  obtain ⟨built, hflush⟩ := inv.built.step hsession
  obtain ⟨⟨-, hnext⟩, hbuffering⟩ := ok
  simp only [KeepsDueTime, KeepsBuffering, haction, Bool.false_eq_true, false_or, hsession,
    Option.all_some, beq_iff_eq, Bool.or_eq_true, Bool.not_eq_true'] at hnext hbuffering
  have hattempts : attemptBy t.session action = [] := by
    cases action <;> first | rfl | cases haction
  have hclock : clockAfter t.clock action = t.clock := by
    cases action <;> first | rfl | cases haction
  rw [hattempts, hclock, List.append_nil]
  refine inv.keeps built (hflush haction) hnext fun hold => hbuffering.resolve_left ?_
  rw [hold]
  exact Bool.false_ne_true

theorem enqueue_schedule (media : Media E D) (tuning : Tuning) (s : BridgeState E D) :
    (enqueueSpeakerWaveoutChunk media tuning s).nextHapticsSendTime = s.nextHapticsSendTime ∧
      (enqueueSpeakerWaveoutChunk media tuning s).audioJitterBuffering =
        s.audioJitterBuffering := by
  simp only [enqueueSpeakerWaveoutChunk]
  split_ifs <;> exact ⟨rfl, rfl⟩

theorem Inv.step (inv : Inv t) (ok : Undisturbed media tuning t action)
    (h : tracedStep media tuning t action = some t') : Inv t' := by
  by_cases haction : ofFlush action = false
  · exact inv.other haction ok h
  obtain ⟨session, hsession, rfl⟩ := Option.map_eq_some_iff.mp h
  obtain ⟨built, -⟩ := inv.built.step hsession
  cases steps_of_step hsession with
  | enqueueWaveout idle running =>
      obtain ⟨hnext, hbuffering⟩ := enqueue_schedule media tuning t.session.state
      have hrest : Resting t.session.flush := by
        rw [idle]
        trivial
      have hkept := inv.rests built hrest trivial hnext hbuffering
      simpa only [clockAfter, attemptBy, List.append_nil] using hkept
  | flushBegin now enqueued =>
      have hbegins := inv.begins enqueued ok.1.1 built
      simpa only [clockAfter, attemptBy, List.append_nil] using hbegins
  | flushStops outcome out stopping =>
      have hstate : (trySendBtOutputReport t.session out outcome).state = t.session.state :=
        (trySend_state outcome).1
      have hrest : Resting t.session.flush := by
        rw [stopping]
        trivial
      have hkept := inv.rests built hrest trivial
        (congrArg BridgeState.nextHapticsSendTime hstate)
        (congrArg BridgeState.audioJitterBuffering hstate)
      simpa only [clockAfter, attemptBy, stopping, List.append_nil] using hkept
  | flushSends outcome out audio sending =>
      have hwrites := inv.writes sending built rfl (trySend_state outcome).1
      simpa only [clockAfter, attemptBy, sending] using hwrites
  | flushFinish out audio sent finishing =>
      have hfinishes := inv.finishes finishing built rfl rfl
      simpa only [clockAfter, attemptBy, List.append_nil] using hfinishes
  | _ => exact absurd rfl haction

theorem Inv.start {b : Session E D} (built : BuiltPackets.Inv b) (idle : b.flush = .idle)
    (clock : Nat) : Inv ⟨b, clock, []⟩ where
  built := built
  paced := .nil
  resting := by simp
  sending := by simp [idle]
  finishing := by simp [idle]

end Invariant

/-- From any reached state in which no call of the flush is under way, the attempts keep the
pace while no other operation resets the due time or starts jitter buffering. -/
theorem keepsPace_of_undisturbed {media : Media E D} {tuning : Tuning} {b : Session E D}
    {before actions : List Action} {clock : Nat} {t : Traced E D}
    (reach : Run (step media tuning) (.new media) before b) (idle : b.flush = .idle)
    (run : GuardedRun (tracedStep media tuning) (Undisturbed media tuning) ⟨b, clock, []⟩
      actions t) : KeepsPace t.attempts := by
  have inv : Inv t := run.invariant (fun _ _ _ inv ok h => inv.step ok h)
    (.start (inv_of_run reach) idle clock)
  exact .of_paced inv.paced

section Examples

instance (clock : Nat) (action : Action) : Decidable (Monotone clock action) :=
  match action with
  | .flushBegin now => inferInstanceAs (Decidable (clock ≤ now))
  | .sendInit _ | .finishInit | .virtualFrame _ | .virtualOp _ _ | .bluetoothFrame _ _
  | .bluetoothOp _ _ | .enqueueWaveout | .flushSend _ | .flushFinish =>
      inferInstanceAs (Decidable True)

instance (t : Traced E D) (action : Action) : Decidable (Unreset media tuning t action) :=
  inferInstanceAs (Decidable (_ ∧ (_ ∨ _)))

instance (t : Traced E D) (action : Action) : Decidable (Undisturbed media tuning t action) :=
  inferInstanceAs (Decidable (_ ∧ (_ ∨ _)))

/-- Three chunks are queued, and jitter buffering has begun. -/
def threeChunks : List Action :=
  [.sendInit .sent, .finishInit, .virtualFrame ChunkQueue.pcmFrame, .virtualOp .sent none,
    .virtualOp .sent none, .virtualFrame ChunkQueue.pcmFrame, .virtualFrame ChunkQueue.pcmFrame,
    .enqueueWaveout, .flushBegin 1]

/-- A call of the flush that writes a packet. -/
def sends (now : Nat) (outcome : SendOutcome) : List Action :=
  [.enqueueWaveout, .flushBegin now, .flushSend outcome, .flushFinish]

/-- The flush stalls before its second packet, and the write of that one fails. -/
def stall : List Action :=
  sends 120001 .sent ++ sends 150000 .queueFull ++ sends 160667 .sent

/-- The tone is turned on after each packet. -/
def rearm : List Action :=
  sends 120001 .sent ++ [.virtualFrame toneOn, .virtualOp .sent none] ++ sends 120002 .sent ++
    [.virtualFrame toneOn, .virtualOp .sent none] ++ sends 120003 .sent

theorem exists_segment (guard : Traced Unit Unit → Action → Prop)
    [∀ t action, Decidable (guard t action)] (actions : List Action) (times : List Nat)
    (h : (execute (step silentMedia .default) (.new silentMedia) threeChunks).any (fun b =>
      decide ((match b.flush with | .idle => true | _ => false) = true ∧
        ((executeGuarded (tracedStep silentMedia .default) guard ⟨b, 0, []⟩ actions).any fun t =>
          decide (t.attempts.map Slot.time = times)) = true)) = true) :
    ∃ b t, Run (step silentMedia .default) (.new silentMedia) threeChunks b ∧ b.flush = .idle ∧
      GuardedRun (tracedStep silentMedia .default) guard ⟨b, 0, []⟩ actions t ∧
      t.attempts.map Slot.time = times := by
  obtain ⟨b, reach, hidle, hsegment⟩ := exists_run_of_execute h
  obtain ⟨t, run, htimes⟩ := exists_guardedRun_of_any hsegment
  refine ⟨b, t, reach, ?_, run, htimes⟩
  cases hflush : b.flush with
  | idle => rfl
  | _ =>
      rw [hflush] at hidle
      cases hidle

/-- After a stall the pace is kept, also when a write fails. -/
theorem keepsPace_stall : ∃ b t, Run (step silentMedia .default) (.new silentMedia) threeChunks b ∧
    b.flush = .idle ∧ GuardedRun (tracedStep silentMedia .default)
      (Undisturbed silentMedia .default) ⟨b, 0, []⟩ stall t ∧
    t.attempts.map Slot.time = [120001, 150000, 160667] ∧ KeepsPace t.attempts := by
  obtain ⟨b, t, reach, idle, run, htimes⟩ := exists_segment (Undisturbed silentMedia .default)
    stall [120001, 150000, 160667] (by decide +kernel)
  exact ⟨b, t, reach, idle, run, htimes, keepsPace_of_undisturbed reach idle run⟩

/-- The due time is left alone, but jitter buffering starts and ends again twice: three packets
are written within two microseconds. -/
theorem rearmed_burst : ∃ b t, Run (step silentMedia .default) (.new silentMedia) threeChunks b ∧
    b.flush = .idle ∧ GuardedRun (tracedStep silentMedia .default)
      (Unreset silentMedia .default) ⟨b, 0, []⟩ rearm t ∧
    t.attempts.map Slot.time = [120001, 120002, 120003] ∧ ¬KeepsPace t.attempts := by
  obtain ⟨b, t, reach, idle, run, htimes⟩ := exists_segment (Unreset silentMedia .default)
    rearm [120001, 120002, 120003] (by decide +kernel)
  refine ⟨b, t, reach, idle, run, htimes, fun pace => ?_⟩
  obtain ⟨first, others, hattempts, hfirst, hothers⟩ := List.map_eq_cons_iff.mp htimes
  obtain ⟨second, rest, hsecond, -, hrest⟩ := List.map_eq_cons_iff.mp hothers
  obtain ⟨third, last, hlast, hthird, -⟩ := List.map_eq_cons_iff.mp hrest
  rw [hsecond, hlast] at hattempts
  have hburst := pace.noBurst 0 first third (by rw [hattempts]; rfl) (by rw [hattempts]; rfl)
  rw [hfirst, hthird] at hburst
  exact absurd hburst (by decide)

end Examples

end VirtualDualSense.Win32.SendPacing
