import VirtualDualSense.Protocol.PcmAudioExtractor

/-!
# Chunking invariance of the PCM extractor

The extractor has a fast path over whole frames and a slow path over the pending
frame. Both compute the same byte machine: append the byte to the pending bytes
and consume them when they make a frame. The machine does not see how the input
was split, so neither does the extractor.
-/

namespace VirtualDualSense.Protocol.PcmAudioExtractor

open Lib.Transducer

variable {E : Type*}

/-- Replace the pending frame and its fill position. -/
def Extractor.setPending (x : Extractor E) (frame : Vector UInt8 kPcmFrameSize) (pos : Nat)
    (h : pos < kPcmFrameSize) : Extractor E :=
  { x with pendingFrame := frame, pendingFramePos := pos, pendingFramePos_lt := h }

/-- The extractor with an empty, zeroed pending frame. -/
def Extractor.core (x : Extractor E) : Extractor E :=
  x.setPending (Vector.replicate _ 0) 0 kPcmFrameSize_pos

/-- The bytes of the pending frame that have been received. -/
def Extractor.pending (x : Extractor E) : List UInt8 :=
  x.pendingFrame.toList.take x.pendingFramePos

/-- Two extractors agree when they differ only in pending bytes at or after the
fill position. -/
structure Agree (x y : Extractor E) : Prop where
  speakerEncoder : x.speakerEncoder = y.speakerEncoder
  speakerPcm : x.speakerPcm = y.speakerPcm
  hapticsPcm : x.hapticsPcm = y.hapticsPcm
  pcmWindowFrames : x.pcmWindowFrames = y.pcmWindowFrames
  pendingFramePos : x.pendingFramePos = y.pendingFramePos
  pcmWindowFramePos : x.pcmWindowFramePos = y.pcmWindowFramePos
  chunkHasSignal : x.chunkHasSignal = y.chunkHasSignal
  chunkHasHapticsSignal : x.chunkHasHapticsSignal = y.chunkHasHapticsSignal
  pendingFrame : ∀ index (h : index < kPcmFrameSize), index < x.pendingFramePos →
    x.pendingFrame[index] = y.pendingFrame[index]

/-- What the byte machine sees of an extractor. -/
def Extractor.view (x : Extractor E) : Extractor E × List UInt8 :=
  (x.core, x.pending)

@[simp] theorem length_pending (x : Extractor E) : x.pending.length = x.pendingFramePos := by
  have hlt := x.pendingFramePos_lt
  simp only [Extractor.pending, List.length_take, Vector.length_toList]
  omega

theorem agree_of_view_eq {x y : Extractor E} (h : x.view = y.view) : Agree x y := by
  obtain ⟨hcore, hpending⟩ := Prod.mk.inj h
  have hpos : x.pendingFramePos = y.pendingFramePos := by
    rw [← length_pending x, hpending, length_pending]
  refine
    { speakerEncoder := (congrArg Extractor.speakerEncoder hcore :)
      speakerPcm := (congrArg Extractor.speakerPcm hcore :)
      hapticsPcm := (congrArg Extractor.hapticsPcm hcore :)
      pcmWindowFrames := (congrArg Extractor.pcmWindowFrames hcore :)
      pendingFramePos := hpos
      pcmWindowFramePos := (congrArg Extractor.pcmWindowFramePos hcore :)
      chunkHasSignal := (congrArg Extractor.chunkHasSignal hcore :)
      chunkHasHapticsSignal := (congrArg Extractor.chunkHasHapticsSignal hcore :)
      pendingFrame := ?_ }
  intro index hindex hlt
  have hbyte : x.pending[index]? = y.pending[index]? := by rw [hpending]
  simpa [Extractor.pending, List.getElem?_take, hlt, hpos ▸ hlt, hindex] using hbyte

variable (opusEncode : E → Vector Int16 (kSpeakerOpusFrames * kSpeakerChannels) → E × List UInt8)

section ConsumeFrame

/-- Storing a frame neither reads nor writes the pending bytes. -/
theorem consumeFrame_setPending (x : Extractor E) (frame : Vector UInt8 kPcmFrameSize) (pos : Nat)
    (h : pos < kPcmFrameSize) (base : List UInt8) :
    consumeFrame opusEncode (x.setPending frame pos h) base =
      ((consumeFrame opusEncode x base).1.setPending frame pos h,
        (consumeFrame opusEncode x base).2) := by
  unfold consumeFrame
  by_cases hwindow : x.pcmWindowFramePos + 1 ≠ x.pcmWindowFrames
  · simp [Extractor.setPending, hwindow]
  · simp [Extractor.setPending, hwindow]

theorem consumeFrame_core (x : Extractor E) (base : List UInt8) :
    consumeFrame opusEncode x.core base =
      ((consumeFrame opusEncode x base).1.core, (consumeFrame opusEncode x base).2) :=
  consumeFrame_setPending opusEncode x _ _ _ base

theorem consumeFrame_pendingFramePos (x : Extractor E) (base : List UInt8) :
    (consumeFrame opusEncode x base).1.pendingFramePos = x.pendingFramePos := by
  unfold consumeFrame
  by_cases hwindow : x.pcmWindowFramePos + 1 ≠ x.pcmWindowFrames <;> simp [hwindow]

/-- A frame is read from the first eight bytes only. -/
theorem consumeFrame_take (x : Extractor E) (base : List UInt8) :
    consumeFrame opusEncode x (base.take kPcmFrameSize) = consumeFrame opusEncode x base := by
  simp [consumeFrame, kPcmFrameSize, kPcmChannels, kPcmSampleSize, List.getD_eq_getElem?_getD]

end ConsumeFrame

/-- The reference machine: one byte at a time, no fast path. -/
def byteStep (s : Extractor E × List UInt8) (b : UInt8) :
    (Extractor E × List UInt8) × List AudioChunk :=
  if s.2.length + 1 = kPcmFrameSize then
    let filled := consumeFrame opusEncode s.1 (s.2 ++ [b])
    ((filled.1, []), filled.2)
  else
    ((s.1, s.2 ++ [b]), [])

section Machine

theorem feed_short (x : Extractor E) (pending bytes : List UInt8)
    (h : pending.length + bytes.length < kPcmFrameSize) :
    feed (byteStep opusEncode) (x, pending) bytes = ((x, pending ++ bytes), []) := by
  induction bytes generalizing pending with
  | nil => simp
  | cons b rest ih =>
      rw [List.length_cons] at h
      have hstep : byteStep opusEncode (x, pending) b = ((x, pending ++ [b]), []) := by
        simp only [byteStep]
        rw [if_neg (by omega)]
      rw [feed_cons, hstep, ih (pending ++ [b]) (by simp; omega)]
      simp

theorem feed_frame (x : Extractor E) (pending bytes : List UInt8) (hne : bytes ≠ [])
    (h : pending.length + bytes.length = kPcmFrameSize) :
    feed (byteStep opusEncode) (x, pending) bytes =
      (((consumeFrame opusEncode x (pending ++ bytes)).1, []),
        (consumeFrame opusEncode x (pending ++ bytes)).2) := by
  obtain ⟨init, last, rfl⟩ := (List.eq_nil_or_concat' bytes).resolve_left hne
  simp only [List.length_append, List.length_singleton] at h
  rw [feed_append, feed_short opusEncode x pending init (by omega), feed_cons]
  have hfull : pending.length + init.length + 1 = kPcmFrameSize := by omega
  simp [byteStep, hfull]

theorem feed_frames (x : Extractor E) (bytes : List UInt8) (frames : Nat)
    (h : frames * kPcmFrameSize ≤ bytes.length) :
    feed (byteStep opusEncode) (x, []) (bytes.take (frames * kPcmFrameSize)) =
      (((consumeFrames opusEncode x bytes frames).1, []),
        (consumeFrames opusEncode x bytes frames).2) := by
  induction frames generalizing x bytes with
  | zero => simp [consumeFrames]
  | succ frames ih =>
      have hlen : (bytes.take kPcmFrameSize).length = kPcmFrameSize := by
        rw [List.length_take]
        rw [Nat.succ_mul] at h
        omega
      have hne : bytes.take kPcmFrameSize ≠ [] := by
        rw [← List.length_pos_iff, hlen]
        decide
      have hsplit : bytes.take ((frames + 1) * kPcmFrameSize) =
          bytes.take kPcmFrameSize ++
            (bytes.drop kPcmFrameSize).take (frames * kPcmFrameSize) := by
        rw [Nat.succ_mul, Nat.add_comm, List.take_add]
      have hfirst := feed_frame opusEncode x [] (bytes.take kPcmFrameSize) hne (by simp [hlen])
      rw [List.nil_append, consumeFrame_take] at hfirst
      rw [hsplit, feed_append, hfirst,
        ih _ (bytes.drop kPcmFrameSize) (by rw [List.length_drop, Nat.succ_mul] at *; omega)]
      rfl

end Machine

section FastPath

theorem consumeFrames_core (x : Extractor E) (bytes : List UInt8) (frames : Nat) :
    consumeFrames opusEncode x.core bytes frames =
      ((consumeFrames opusEncode x bytes frames).1.core,
        (consumeFrames opusEncode x bytes frames).2) := by
  induction frames generalizing x bytes with
  | zero => rfl
  | succ frames ih => simp only [consumeFrames, consumeFrame_core, ih]

theorem consumeFrames_pendingFramePos (x : Extractor E) (bytes : List UInt8) (frames : Nat) :
    (consumeFrames opusEncode x bytes frames).1.pendingFramePos = x.pendingFramePos := by
  induction frames generalizing x bytes with
  | zero => rfl
  | succ frames ih => simp only [consumeFrames, ih, consumeFrame_pendingFramePos]

end FastPath

section Windows

/-- The extractor is between two windows of that many frames. -/
structure Aligned (x : Extractor E) (frames : Nat) : Prop where
  window : x.pcmWindowFrames = frames
  slot : x.pcmWindowFramePos = 0
  pending : x.pendingFramePos = 0

variable {x : Extractor E} {bytes : List UInt8} {frames : Nat}

theorem consumeFrame_window (x : Extractor E) (base : List UInt8) :
    (consumeFrame opusEncode x base).1.pcmWindowFrames = x.pcmWindowFrames := by
  unfold consumeFrame
  by_cases hwindow : x.pcmWindowFramePos + 1 ≠ x.pcmWindowFrames <;> simp [hwindow]

theorem consumeFrame_inside (bytes : List UInt8)
    (h : x.pcmWindowFramePos + 1 < x.pcmWindowFrames) :
    (consumeFrame opusEncode x bytes).1.pcmWindowFramePos = x.pcmWindowFramePos + 1 := by
  unfold consumeFrame
  simp [Nat.ne_of_lt h]

theorem consumeFrame_last (bytes : List UInt8)
    (h : x.pcmWindowFramePos + 1 = x.pcmWindowFrames) :
    (consumeFrame opusEncode x bytes).1.pcmWindowFramePos = 0 ∧
      (consumeFrame opusEncode x bytes).2 ≠ [] := by
  unfold consumeFrame
  simp [h]

/-- The frames that fill the window complete a chunk. -/
theorem consumeFrames_fill (bytes : List UInt8)
    (h : x.pcmWindowFramePos + (frames + 1) = x.pcmWindowFrames) :
    (consumeFrames opusEncode x bytes (frames + 1)).1.pcmWindowFrames = x.pcmWindowFrames ∧
      (consumeFrames opusEncode x bytes (frames + 1)).1.pcmWindowFramePos = 0 ∧
      (consumeFrames opusEncode x bytes (frames + 1)).2 ≠ [] := by
  induction frames generalizing x bytes with
  | zero =>
      obtain ⟨hslot, hchunk⟩ := consumeFrame_last opusEncode bytes h
      exact ⟨consumeFrame_window opusEncode x bytes, hslot, by simpa [consumeFrames] using hchunk⟩
  | succ frames ih =>
      have hinside : (consumeFrame opusEncode x bytes).1.pcmWindowFramePos =
          x.pcmWindowFramePos + 1 := consumeFrame_inside opusEncode bytes (by omega)
      have hwindow := consumeFrame_window opusEncode x bytes
      obtain ⟨hframes, hslot, hchunk⟩ := ih (bytes.drop kPcmFrameSize)
        (show (consumeFrame opusEncode x bytes).1.pcmWindowFramePos + (frames + 1) = _ by omega)
      rw [consumeFrames]
      refine ⟨hframes.trans hwindow, hslot, ?_⟩
      exact List.append_ne_nil_of_right_ne_nil _ hchunk

/-- One window of bytes completes a chunk and leaves the extractor between two windows. -/
theorem pushUsbAudio_window (aligned : Aligned x frames)
    (hlength : bytes.length = frames * kPcmFrameSize) :
    Aligned (pushUsbAudio opusEncode x bytes).1 frames ∧
      (pushUsbAudio opusEncode x bytes).2 ≠ [] := by
  obtain ⟨hwindow, hslot, hpending⟩ := aligned
  have hlt := x.pcmWindowFramePos_lt
  obtain ⟨rest, rfl⟩ := Nat.exists_eq_succ_of_ne_zero (show frames ≠ 0 by omega)
  have hsize : bytes.length / kPcmFrameSize = rest + 1 := by
    rw [hlength, Nat.mul_div_cancel _ kPcmFrameSize_pos]
  have hfast : x.pendingFramePos = 0 ∧ kPcmFrameSize ≤ bytes.length := by
    refine ⟨hpending, ?_⟩
    rw [hlength]
    exact Nat.le_mul_of_pos_left _ (Nat.succ_pos rest)
  have hempty : bytes ≠ [] := by
    rintro rfl
    exact absurd hfast.2 (by decide)
  obtain ⟨hframes, hslot', hchunk⟩ :=
    consumeFrames_fill opusEncode bytes (show x.pcmWindowFramePos + (rest + 1) = _ by omega)
  have hdone : ∀ y : Extractor E, pushUsbAudio opusEncode y [] = (y, []) := by
    intro y
    rw [pushUsbAudio, dif_pos rfl]
  rw [pushUsbAudio, dif_neg hempty, dif_pos hfast]
  dsimp only
  rw [hsize, List.drop_of_length_le (by rw [hlength]), hdone]
  refine ⟨⟨hframes.trans hwindow, hslot', ?_⟩, by simpa using hchunk⟩
  rw [consumeFrames_pendingFramePos, hpending]

end Windows

section SlowPath

/-- Copying behind the received bytes appends to them. -/
theorem take_copyPending (x : Extractor E) (bytes : List UInt8)
    (h : x.pendingFramePos + bytes.length ≤ kPcmFrameSize) :
    (copyPending x.pendingFrame x.pendingFramePos bytes).toList.take
      (x.pendingFramePos + bytes.length) = x.pending ++ bytes := by
  refine List.ext_getElem ?_ fun index hleft hright => ?_
  · simp only [List.length_take, Vector.length_toList, List.length_append, length_pending]
    omega
  · simp only [List.length_append, length_pending] at hright
    by_cases hlt : index < x.pendingFramePos
    · have hold : ¬x.pendingFramePos ≤ index := by omega
      rw [List.getElem_append_left (by simpa using hlt)]
      simp only [copyPending, hold, Extractor.pending, List.getElem_take, Vector.getElem_toList,
        Vector.getElem_ofFn, false_and, if_false]
      rfl
    · have hnew : x.pendingFramePos ≤ index := by omega
      have hbyte : index - x.pendingFramePos < bytes.length := by omega
      rw [List.getElem_append_right (by simpa using hnew)]
      simp [copyPending, hnew, hbyte]

theorem length_take_copySize (x : Extractor E) (bytes : List UInt8) :
    (bytes.take (min bytes.length (kPcmFrameSize - x.pendingFramePos))).length =
      min bytes.length (kPcmFrameSize - x.pendingFramePos) := by
  rw [List.length_take]
  exact Nat.min_eq_left (Nat.min_le_left _ _)

end SlowPath

/-- Every call computes the byte machine over its input. -/
theorem pushUsbAudio_implements :
    Implements (pushUsbAudio opusEncode) (byteStep opusEncode) Extractor.view := by
  suffices h : ∀ x bytes, ((pushUsbAudio opusEncode x bytes).1.view,
      (pushUsbAudio opusEncode x bytes).2) = feed (byteStep opusEncode) x.view bytes from
    ⟨fun x bytes => congrArg Prod.fst (h x bytes), fun x bytes => congrArg Prod.snd (h x bytes)⟩
  intro x bytes
  fun_induction pushUsbAudio opusEncode x bytes with
  | case1 x => simp
  | case2 x bytes hne hfast frames fast rest ih =>
      have hview : x.view = (x.core, []) := by simp [Extractor.view, Extractor.pending, hfast.1]
      have hfast' : fast.1.view = (fast.1.core, []) := by
        simp [Extractor.view, Extractor.pending, fast, consumeFrames_pendingFramePos, hfast.1]
      have hfeed := feed_frames opusEncode x.core bytes frames (Nat.div_mul_le_self _ _)
      rw [consumeFrames_core] at hfeed
      rw [hfast'] at ih
      rw [feed_take_drop _ _ (frames * kPcmFrameSize), hview, hfeed, ← ih]
  | case3 x bytes hne hslow copySize pendingFrame hfull filled rest ih =>
      have hlt := x.pendingFramePos_lt
      have hlen : (bytes.take copySize).length = copySize := length_take_copySize x bytes
      have hcopy := take_copyPending x (bytes.take copySize) (by omega)
      rw [hlen, hfull, List.take_of_length_le (by simp)] at hcopy
      have hfilled : filled = _ :=
        consumeFrame_setPending opusEncode x pendingFrame x.pendingFramePos hlt pendingFrame.toList
      have hfeed : feed (byteStep opusEncode) x.view (bytes.take copySize) = _ :=
        feed_frame opusEncode x.core x.pending (bytes.take copySize)
          (List.length_pos_iff.mp (by omega)) (by rw [length_pending]; omega)
      rw [← hcopy, consumeFrame_core] at hfeed
      -- both sides continue from the consumed frame with nothing pending
      have hnext : (filled.1.setPending filled.1.pendingFrame 0 kPcmFrameSize_pos).view =
          ((consumeFrame opusEncode x pendingFrame.toList).1.core, []) := by
        rw [hfilled]
        rfl
      have hrest : (rest.1.view, rest.2) = feed (byteStep opusEncode)
          (filled.1.setPending filled.1.pendingFrame 0 kPcmFrameSize_pos).view
          (bytes.drop copySize) := ih
      rw [hnext] at hrest
      rw [feed_take_drop _ _ copySize, hfeed, ← hrest, hfilled]
  | case4 x bytes hne hslow copySize pendingFrame hpartial ih =>
      have hlt := x.pendingFramePos_lt
      have hle : copySize ≤ kPcmFrameSize - x.pendingFramePos := Nat.min_le_right _ _
      have hlen : (bytes.take copySize).length = copySize := length_take_copySize x bytes
      have hcopy := take_copyPending x (bytes.take copySize) (by omega)
      rw [hlen] at hcopy
      have hfeed : feed (byteStep opusEncode) x.view (bytes.take copySize) = _ :=
        feed_short opusEncode x.core x.pending (bytes.take copySize)
          (by rw [length_pending]; omega)
      rw [← hcopy] at hfeed
      rw [feed_take_drop _ _ copySize, hfeed, ih]
      rfl

/-- Pushing a byte string in parts or in one call returns the same chunks and
leaves extractors that agree. -/
theorem pushUsbAudio_chunking (x : Extractor E) (parts : List (List UInt8)) :
    (pushAll (pushUsbAudio opusEncode) x parts).2 =
        (pushUsbAudio opusEncode x parts.flatten).2 ∧
      Agree (pushAll (pushUsbAudio opusEncode) x parts).1
        (pushUsbAudio opusEncode x parts.flatten).1 := by
  obtain ⟨hview, hchunks⟩ := (pushUsbAudio_implements opusEncode).chunking x parts
  exact ⟨hchunks, agree_of_view_eq hview⟩

end VirtualDualSense.Protocol.PcmAudioExtractor
