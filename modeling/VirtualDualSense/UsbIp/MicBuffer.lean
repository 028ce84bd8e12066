import VirtualDualSense.UsbIp.Session
import VirtualDualSense.Lib.Packets

/-!
# The microphone jitter buffer

The pipe reader buffers microphone audio and drops the oldest bytes past the cap. A
pull hands out silence until a cushion has built up, then the buffered bytes, and
starts over when the buffer runs short. A ledger beside the port follows every byte.
-/

namespace VirtualDualSense.UsbIp.MicBuffer

open Lib.Runs Lib.Blocks Lib.Ledgers Lib.Packets Protocol.Frames CmdSubmit Session

inductive Op
  | frame (frame : Frame) (boost : Int16 → Int16)
  | pull (count : Nat)
  | flush
  /-- Anything else that happens to the port. -/
  | elsewhere (next : Port)

/-- A pull: what it asked for and returned, the bytes that it took out of the buffer, and
whether a cushion had built up since the last start, flush or underrun. -/
structure Pull where
  count : Nat
  result : Except String (List UInt8)
  audio : List UInt8
  cushioned : Bool

/-- The port with the gain-adjusted payloads that it received and the pulls from it. -/
structure Traced where
  port : Port
  bytes : Ledger UInt8 Fate
  received : List (List UInt8)
  pulls : List Pull
  cushioned : Bool

def Traced.new (port : Port) : Traced := ⟨port, .empty, [], [], false⟩

/-- The boosted payload goes in and the excess over the cap comes out at the front. -/
def noteFrame (bytes : Ledger UInt8 Fate) (payload : List UInt8) : Ledger UInt8 Fate :=
  (bytes.extend payload).retire ((bytes.extend payload).queue.length - kMicMaxBufferBytes) .dropped

/-- The number of bytes that a pull takes out of the buffer. -/
def taken (port : Port) (count : Nat) : Nat :=
  port.micRingBuffer.length - (takeMicBytes port count).1.micRingBuffer.length

/-- A pull finds the cushion, or one found it before. -/
def Traced.cushion (t : Traced) : Bool :=
  t.cushioned || kMicPrimeBytes ≤ t.port.micRingBuffer.length

def Traced.pull (t : Traced) (count : Nat) : Pull where
  count
  result := (takeMicBytes t.port count).2
  audio := t.port.micRingBuffer.take (taken t.port count)
  cushioned := t.cushion

/-- With the cushion built up, a pull that comes up short is an underrun. -/
def Traced.underrun (t : Traced) (count : Nat) : Bool :=
  t.cushion && t.port.micRingBuffer.length < count && (takeMicBytes t.port count).2.isOk

def notePull (t : Traced) (count : Nat) : Traced :=
  { t with
    port := (takeMicBytes t.port count).1
    bytes := t.bytes.retire (taken t.port count) .delivered
    pulls := t.pulls ++ [t.pull count]
    cushioned := t.cushion && !t.underrun count }

/-- The buffered bytes and the cushion flag. -/
def mic (port : Port) : List UInt8 × Bool := (port.micRingBuffer, port.micPrimed)

def step (t : Traced) : Op → Option Traced
  | .frame frame boost =>
      some { t with
        port := pushMic boost t.port frame
        bytes := noteFrame t.bytes (applyPcmGainI16 boost frame.payload)
        received := t.received ++ [applyPcmGainI16 boost frame.payload] }
  | .pull count => some (notePull t count)
  | .flush =>
      some { t with
        port := t.port.flushMic
        bytes := t.bytes.retireAll .flushed
        cushioned := false }
  | .elsewhere next => if mic next = mic t.port then some { t with port := next } else none

/-- A pull returns the audio that it took, padded with zeros to the count. Only a count
that no vector can hold throws, and it takes nothing. -/
structure Served (p : Pull) : Prop where
  returns : ∀ out, p.result = .ok out → p.audio.length ≤ p.count ∧
    out = p.audio ++ List.replicate (p.count - p.audio.length) 0
  throws : ∀ error, p.result = .error error → 2 ^ 63 ≤ p.count ∧ p.audio = []
  primed : p.audio ≠ [] → p.cushioned = true

/-- The buffer is a queue of bytes with a cap, and the pulls return its bytes in order. -/
structure JitterBuffer (t : Traced) : Prop where
  buffered : t.bytes.queue = t.port.micRingBuffer
  capped : t.port.micRingBuffer.length ≤ kMicMaxBufferBytes
  received : t.bytes.items = t.received.flatten
  delivered : t.bytes.left .delivered = (t.pulls.map Pull.audio).flatten
  served : ∀ p ∈ t.pulls, Served p
  primed : t.port.micPrimed = true → t.cushioned = true

section Take

variable {port : Port} {count : Nat}

/-- A pull throws, hands out silence, hands out audio, or runs short. -/
theorem takeMicBytes_cases (port : Port) (count : Nat) :
    (2 ^ 63 ≤ count ∧ ∃ primed, (primed = true → port.micPrimed = true ∨
        kMicPrimeBytes ≤ port.micRingBuffer.length) ∧
      takeMicBytes port count = ({ port with micPrimed := primed }, .error "vector too long")) ∨
    (port.micPrimed = false ∧
      takeMicBytes port count = (port, .ok (List.replicate count 0))) ∨
    ((port.micPrimed = true ∨ kMicPrimeBytes ≤ port.micRingBuffer.length) ∧
      count ≤ port.micRingBuffer.length ∧
      mic (takeMicBytes port count).1 = (port.micRingBuffer.drop count, true) ∧
      (takeMicBytes port count).2 = .ok (port.micRingBuffer.take count)) ∨
    ((port.micPrimed = true ∨ kMicPrimeBytes ≤ port.micRingBuffer.length) ∧
      port.micRingBuffer.length < count ∧
      takeMicBytes port count = (port.flushMic, .ok (port.micRingBuffer ++
        List.replicate (count - port.micRingBuffer.length) 0))) := by
  unfold takeMicBytes
  by_cases hsilent : (!port.micPrimed && decide (port.micRingBuffer.length < kMicPrimeBytes)) = true
  · rw [if_pos hsilent]
    simp only [Bool.and_eq_true, Bool.not_eq_true'] at hsilent
    by_cases hcount : count ≥ 2 ^ 63
    · rw [if_pos hcount]
      refine .inl ⟨hcount, port.micPrimed, ?_, rfl⟩
      exact .inl
    · rw [if_neg hcount]
      exact .inr (.inl ⟨hsilent.1, rfl⟩)
  · rw [if_neg hsilent]
    have hprimed : port.micPrimed = true ∨ kMicPrimeBytes ≤ port.micRingBuffer.length := by
      simpa [Classical.or_iff_not_imp_left] using hsilent
    dsimp only
    by_cases henough : port.micRingBuffer.length ≥ count
    · rw [if_pos henough]
      exact .inr (.inr (.inl ⟨hprimed, henough, rfl, rfl⟩))
    · rw [if_neg henough]
      by_cases hcount : count ≥ 2 ^ 63
      · rw [if_pos hcount]
        exact .inl ⟨hcount, true, fun _ => hprimed, rfl⟩
      · rw [if_neg hcount]
        exact .inr (.inr (.inr ⟨hprimed, Nat.lt_of_not_le henough, rfl⟩))

theorem length_applyPcmGainI16 (boost : Int16 → Int16) (pcm : List UInt8) :
    (applyPcmGainI16 boost pcm).length = pcm.length := by
  fun_induction applyPcmGainI16 boost pcm with
  | case1 lo hi rest ih =>
      rw [List.length_append, ih]
      simp [writeLeS16]
      omega
  | case2 => rfl

theorem micPrimed_pushMic (boost : Int16 → Int16) (frame : Frame) :
    (pushMic boost port frame).micPrimed = port.micPrimed := by
  unfold pushMic
  rfl

end Take

namespace JitterBuffer

variable {t t' : Traced}

theorem new (profile : Usb.Descriptors.Profile) :
    JitterBuffer (Traced.new (Port.new profile)) where
  buffered := rfl
  capped := (Port.new profile).micRingBuffer_le
  received := rfl
  delivered := rfl
  served := by simp [Traced.new]
  primed := by simp [Traced.new, Port.new]

/-- Boosted audio goes in at the back, the excess over the cap comes out at the front. -/
theorem frame (j : JitterBuffer t) (frame : Frame) (boost : Int16 → Int16) :
    JitterBuffer { t with
      port := pushMic boost t.port frame
      bytes := noteFrame t.bytes (applyPcmGainI16 boost frame.payload)
      received := t.received ++ [applyPcmGainI16 boost frame.payload] } where
  buffered := by
    simp only [noteFrame, Ledger.queue_retire, Ledger.extend, j.buffered, pushMic]
  capped := (pushMic boost t.port frame).micRingBuffer_le
  received := by
    rw [noteFrame, Ledger.items_retire, Ledger.items_extend, j.received, List.flatten_append,
      List.flatten_cons, List.flatten_nil, List.append_nil]
  delivered := by
    rw [noteFrame, Ledger.left_retire_of_ne _ (by decide), Ledger.left_extend]
    exact j.delivered
  served := j.served
  primed := by
    intro h
    dsimp only at h ⊢
    rw [micPrimed_pushMic] at h
    exact j.primed h

theorem flush (j : JitterBuffer t) :
    JitterBuffer { t with
      port := t.port.flushMic
      bytes := t.bytes.retireAll .flushed
      cushioned := false } where
  buffered := Ledger.queue_retireAll _ _
  capped := Nat.zero_le _
  received := by
    rw [Ledger.retireAll, Ledger.items_retire]
    exact j.received
  delivered := by
    rw [Ledger.retireAll, Ledger.left_retire_of_ne _ (by decide)]
    exact j.delivered
  served := j.served
  primed := by simp [Port.flushMic]

theorem elsewhere {next : Port} (j : JitterBuffer t) (h : mic next = mic t.port) :
    JitterBuffer { t with port := next } := by
  obtain ⟨hbuffer, hprimed⟩ := Prod.mk.inj h
  refine ⟨?_, ?_, j.received, j.delivered, j.served, ?_⟩
  · rw [hbuffer]
    exact j.buffered
  · rw [hbuffer]
    exact j.capped
  · rw [hprimed]
    exact j.primed

theorem cushion (j : JitterBuffer t)
    (h : t.port.micPrimed = true ∨ kMicPrimeBytes ≤ t.port.micRingBuffer.length) :
    t.cushion = true := by
  rcases h with hprimed | hbuffered
  · rw [Traced.cushion, j.primed hprimed, Bool.true_or]
  · rw [Traced.cushion, decide_eq_true hbuffered, Bool.or_true]

/-- A pull takes the first bytes of the buffer. -/
theorem pull_of (j : JitterBuffer t) {count : Nat}
    (hleft : (takeMicBytes t.port count).1.micRingBuffer =
      t.port.micRingBuffer.drop (taken t.port count))
    (hserved : Served (t.pull count))
    (hprimed : (takeMicBytes t.port count).1.micPrimed = true →
      (t.cushion && !t.underrun count) = true) : JitterBuffer (notePull t count) where
  buffered := by
    simp only [notePull, Ledger.queue_retire, j.buffered]
    exact hleft.symm
  capped := (takeMicBytes t.port count).1.micRingBuffer_le
  received := by
    simp only [notePull, Ledger.items_retire]
    exact j.received
  delivered := by
    simp only [notePull, Ledger.left_retire_self, j.delivered, j.buffered, List.map_append,
      List.map_cons, List.map_nil, List.flatten_append, List.flatten_cons, List.flatten_nil,
      List.append_nil, Traced.pull]
  served := by
    intro p hp
    rcases List.mem_append.mp hp with hp | hp
    · exact j.served p hp
    · obtain rfl := List.mem_singleton.mp hp
      exact hserved
  primed := hprimed

theorem pull (j : JitterBuffer t) (count : Nat) : JitterBuffer (notePull t count) := by
  rcases takeMicBytes_cases t.port count with
    ⟨hcount, primed, hprimed, htake⟩ | ⟨hunprimed, htake⟩ | ⟨hprimed, henough, hmic, hresult⟩ |
    ⟨hprimed, hshort, htake⟩
  · have htaken : taken t.port count = 0 := by simp [taken, htake]
    apply j.pull_of
    · rw [htaken, htake, List.drop_zero]
    · refine ⟨?_, ?_, ?_⟩
      · simp [Traced.pull, htake]
      · exact fun _ _ => ⟨hcount, by simp [Traced.pull, htaken]⟩
      · simp [Traced.pull, htaken]
    · intro h
      rw [htake] at h
      rw [j.cushion (hprimed h), Traced.underrun, htake]
      simp [Except.isOk, Except.toBool]
  · have htaken : taken t.port count = 0 := by simp [taken, htake]
    apply j.pull_of
    · rw [htaken, htake, List.drop_zero]
    · refine ⟨?_, ?_, ?_⟩
      · simp [Traced.pull, htake, htaken]
      · simp [Traced.pull, htake]
      · simp [Traced.pull, htaken]
    · intro h
      rw [htake, hunprimed] at h
      cases h
  · obtain ⟨hleft, hstill⟩ := Prod.mk.inj hmic
    have htaken : taken t.port count = count := by
      rw [taken, hleft, List.length_drop]
      omega
    apply j.pull_of
    · rw [htaken, hleft]
    · refine ⟨?_, ?_, ?_⟩
      · intro out hout
        obtain rfl := Except.ok.inj (hresult.symm.trans hout)
        simp only [Traced.pull, htaken, List.length_take_of_le henough, Nat.sub_self,
          List.replicate_zero, List.append_nil]
        exact ⟨le_rfl, trivial⟩
      · intro error herror
        cases hresult.symm.trans herror
      · exact fun _ => j.cushion hprimed
    · intro _
      rw [j.cushion hprimed, Traced.underrun, decide_eq_false (Nat.not_lt.mpr henough)]
      simp
  · have htaken : taken t.port count = t.port.micRingBuffer.length := by
      simp [taken, htake, Port.flushMic]
    apply j.pull_of
    · rw [htaken, htake, List.drop_length]
      rfl
    · refine ⟨?_, ?_, ?_⟩
      · intro out hout
        rw [Traced.pull, htake] at hout
        obtain rfl := Except.ok.inj hout
        simp only [Traced.pull, htaken, List.take_length]
        exact ⟨hshort.le, trivial⟩
      · simp [Traced.pull, htake]
      · exact fun _ => j.cushion hprimed
    · intro h
      rw [htake] at h
      cases h

protected theorem step {op : Op} (j : JitterBuffer t) (h : MicBuffer.step t op = some t') :
    JitterBuffer t' := by
  cases op with
  | frame frame boost =>
      obtain rfl := Option.some.inj h
      exact j.frame frame boost
  | pull count =>
      obtain rfl := Option.some.inj h
      exact j.pull count
  | flush =>
      obtain rfl := Option.some.inj h
      exact j.flush
  | elsewhere next =>
      obtain ⟨hmic, ⟨⟩⟩ := Option.ite_none_right_eq_some.mp h
      exact j.elsewhere hmic

end JitterBuffer

section Frames

/-- The operation cuts the audio at frame boundaries only. -/
def Op.aligned : Op → Prop
  | .frame sent _ => stereoFrameBytes ∣ sent.payload.length
  | .pull count => stereoFrameBytes ∣ count
  | .flush => True
  | .elsewhere _ => True

/-- The buffer and what the pulls took from it are made of received frames. -/
structure Aligned (t : Traced) : Prop where
  buffered : MadeOf stereoFrameBytes (blocksOf stereoFrameBytes t.received) t.bytes.queue
  pulled : ∀ p ∈ t.pulls, stereoFrameBytes ∣ p.count ∧
    MadeOf stereoFrameBytes (blocksOf stereoFrameBytes t.received) p.audio

namespace Aligned

variable {t t' : Traced}

theorem new (port : Port) : Aligned (Traced.new port) where
  buffered := .nil
  pulled := by simp [Traced.new]

theorem frame {port : Port} {payload : List UInt8} (al : Aligned t)
    (h : stereoFrameBytes ∣ payload.length) :
    Aligned { t with
      port
      bytes := noteFrame t.bytes payload
      received := t.received ++ [payload] } where
  buffered := by
    rw [noteFrame, Ledger.queue_retire]
    have hall : MadeOf stereoFrameBytes (blocksOf stereoFrameBytes (t.received ++ [payload]))
        (t.bytes.extend payload).queue := by
      apply MadeOf.append stereoFrameBytes_pos
      · exact al.buffered.mono (blocksOf_subset_append _ _ _)
      · exact .of_mem h (List.mem_append_right _ (List.mem_singleton_self _))
    apply hall.drop stereoFrameBytes_pos
    exact Nat.dvd_sub hall.whole (by decide)
  pulled p hp := ⟨(al.pulled p hp).1, (al.pulled p hp).2.mono (blocksOf_subset_append _ _ _)⟩

theorem dvd_taken {port : Port} {count : Nat} (hcount : stereoFrameBytes ∣ count)
    (hbuffered : stereoFrameBytes ∣ port.micRingBuffer.length) :
    stereoFrameBytes ∣ taken port count := by
  rcases takeMicBytes_cases port count with
    ⟨-, primed, -, htake⟩ | ⟨-, htake⟩ | ⟨-, henough, hmic, -⟩ | ⟨-, -, htake⟩
  · simp [taken, htake]
  · simp [taken, htake]
  · have hleft : (takeMicBytes port count).1.micRingBuffer = port.micRingBuffer.drop count :=
      (Prod.mk.inj hmic).1
    rwa [taken, hleft, List.length_drop, Nat.sub_sub_self henough]
  · simpa [taken, htake, Port.flushMic] using hbuffered

theorem pull {count : Nat} (al : Aligned t) (j : JitterBuffer t)
    (hcount : stereoFrameBytes ∣ count) : Aligned (notePull t count) := by
  have hbuffered := al.buffered
  rw [j.buffered] at hbuffered
  have htaken := dvd_taken hcount hbuffered.whole
  refine ⟨?_, ?_⟩
  · simp only [notePull, Ledger.queue_retire]
    exact al.buffered.drop stereoFrameBytes_pos htaken
  · intro p hp
    rcases List.mem_append.mp hp with hp | hp
    · exact al.pulled p hp
    · obtain rfl := List.mem_singleton.mp hp
      exact ⟨hcount, hbuffered.take stereoFrameBytes_pos htaken⟩

protected theorem step {op : Op} (al : Aligned t) (j : JitterBuffer t) (ok : op.aligned)
    (h : MicBuffer.step t op = some t') : Aligned t' := by
  cases op with
  | frame frame boost =>
      obtain rfl := Option.some.inj h
      apply al.frame
      rw [length_applyPcmGainI16]
      exact ok
  | pull count =>
      obtain rfl := Option.some.inj h
      exact al.pull j ok
  | flush =>
      obtain rfl := Option.some.inj h
      refine ⟨?_, al.pulled⟩
      rw [Ledger.queue_retireAll]
      exact .nil
  | elsewhere next =>
      obtain ⟨-, ⟨⟩⟩ := Option.ite_none_right_eq_some.mp h
      exact ⟨al.buffered, al.pulled⟩

/-- Every pull returns received frames and silence. -/
theorem madeOf_result (al : Aligned t) (j : JitterBuffer t) : ∀ p ∈ t.pulls, ∀ out,
    p.result = .ok out →
      MadeOf stereoFrameBytes (blocksOf stereoFrameBytes t.received ∪ {silence}) out := by
  intro p hp out hout
  obtain ⟨hcount, haudio⟩ := al.pulled p hp
  rw [((j.served p hp).returns out hout).2]
  exact haudio.padded stereoFrameBytes_pos 0 (Nat.dvd_sub hcount haudio.whole)

end Aligned

end Frames

/-- Under every order of frames, pulls and flushes the jitter buffer is a capped queue of
bytes that returns exactly what a pull asks for, unless no vector can hold that. With
whole frames in and out, every returned frame is a received one or silence. -/
theorem jitterBuffer_of_run {profile : Usb.Descriptors.Profile} {ops : List Op} {t : Traced}
    (run : Run step (Traced.new (Port.new profile)) ops t) :
    JitterBuffer t ∧ ((∀ op ∈ ops, op.aligned) → ∀ p ∈ t.pulls, ∀ out, p.result = .ok out →
      MadeOf stereoFrameBytes (blocksOf stereoFrameBytes t.received ∪ {silence}) out) := by
  have hbuffer : JitterBuffer t :=
    run.invariant (fun _ _ _ j _ h => j.step h) (JitterBuffer.new profile)
  refine ⟨hbuffer, ?_⟩
  intro haligned
  have hrun := GuardedRun.of_forall run haligned
  have hboth : JitterBuffer t ∧ Aligned t :=
    hrun.invariant (I := fun t => JitterBuffer t ∧ Aligned t)
      (fun _ _ _ inv ok h => ⟨inv.1.step h, inv.2.step inv.1 ok h⟩)
      ⟨JitterBuffer.new profile, Aligned.new _⟩
  exact hboth.2.madeOf_result hbuffer

section Traces

def loudFrame : Frame := ⟨.usbAudioIn, List.replicate 4096 0x11, List.length_replicate.le⟩

end Traces

/-- Two frames build up the cushion for a pull of one millisecond. -/
theorem run_cushion : ∃ t, Run step (Traced.new (Port.new .ds5))
    [.frame loudFrame id, .frame loudFrame id, .pull 192] t :=
  ⟨_, run_of_execute rfl⟩

theorem jitterBuffer_cushion : ∃ t, Run step (Traced.new (Port.new .ds5))
      [.frame loudFrame id, .frame loudFrame id, .pull 192] t ∧ JitterBuffer t := by
  obtain ⟨t, run⟩ := run_cushion
  exact ⟨t, run, (jitterBuffer_of_run run).1⟩

/-- The `size_t` of a transfer length of -1 is a count that no vector can hold. -/
theorem pull_throws : ∃ t, Run step (Traced.new (Port.new .ds5)) [.pull (sizeOfInt32 (-1))] t ∧
    ∃ p ∈ t.pulls, p.count = sizeOfInt32 (-1) ∧ ∀ out, p.result ≠ .ok out := by
  refine ⟨_, run_of_execute rfl, _, List.mem_singleton_self _, rfl, ?_⟩
  intro out hout
  cases hout

end VirtualDualSense.UsbIp.MicBuffer
