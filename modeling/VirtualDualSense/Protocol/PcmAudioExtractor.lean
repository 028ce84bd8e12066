import VirtualDualSense.Lib.Transducer

/-!
# Extraction of speaker and haptics chunks from USB PCM

The extractor collects interleaved four-channel 16-bit frames into a window of
`pcm_window_frames` frames, then emits one chunk: 64 resampled haptics samples
and one Opus-encoded speaker block. Whole frames are read straight from the
input; a frame cut by the end of the input waits in `pending_frame`.

## Implementation notes

Opus itself is a parameter: a deterministic function of the encoder state and
the resampled block that returns the bytes it wrote. The bounds that the
constructor establishes and `push_usb_audio` keeps are fields of the state.
-/

namespace VirtualDualSense.Protocol.PcmAudioExtractor

open Lib.Transducer

def kPcmChannels : Nat := 4
def kPcmSampleSize : Nat := 2
def kPcmFrameSize : Nat := kPcmChannels * kPcmSampleSize
def kSpeakerChannels : Nat := 2
def kPcmWindowFrames : Nat := 512
def kSpeakerOpusFrames : Nat := 480
def kSpeakerOpusSize : Nat := 200
def kHapticsSampleSize : Nat := 64
def kHapticsDecimation : Nat := 48000 / 3000

abbrev HapticsChunk := Vector Int8 kHapticsSampleSize
abbrev SpeakerChunk := Vector UInt8 kSpeakerOpusSize
abbrev PcmWindow := Vector Int16 (kPcmWindowFrames * kSpeakerChannels)

structure AudioChunk where
  haptics : HapticsChunk
  speaker : SpeakerChunk
  hasSignal : Bool
  hasHapticsSignal : Bool
  deriving DecidableEq

def s16ToS8Haptic (sample : Int16) : Int8 :=
  Int8.ofInt (max (-128) (min 127 (sample.toInt.tdiv 256)))

def readLeS16 (lo hi : UInt8) : Int16 :=
  (lo.toUInt16 ||| (hi.toUInt16 <<< 8)).toInt16

/-- Weighted mean of two samples, truncated towards zero and clamped. -/
def lerpI16 (left right : Int16) (numerator denominator : Nat) : Int16 :=
  let leftPart := left.toInt * ((denominator : Int) - numerator)
  let rightPart := right.toInt * numerator
  Int16.ofInt (max (-32768) (min 32767 ((leftPart + rightPart).tdiv denominator)))

/-- Resample one window to the 480 stereo frames of an Opus speaker block. -/
def resampleSpeakerPcm (pcm : List Int16) (pcmFrames : Nat) :
    Vector Int16 (kSpeakerOpusFrames * kSpeakerChannels) :=
  Vector.ofFn fun index =>
    let frame := index.val / kSpeakerChannels
    let channel := index.val % kSpeakerChannels
    let sourceNumerator := frame * pcmFrames
    let sourceFrame := sourceNumerator / kSpeakerOpusFrames
    let fraction := sourceNumerator % kSpeakerOpusFrames
    let nextFrame := min (sourceFrame + 1) (pcmFrames - 1)
    lerpI16 (pcm.getD (sourceFrame * kSpeakerChannels + channel) 0)
      (pcm.getD (nextFrame * kSpeakerChannels + channel) 0) fraction kSpeakerOpusFrames

/-- Average each of the 32 slices of the window into one haptics frame. -/
def resampleHapticsPcm (pcm : List Int16) (pcmFrames : Nat) : HapticsChunk :=
  Vector.ofFn fun index =>
    let hapticsFrames := kHapticsSampleSize / kSpeakerChannels
    let frame := index.val / kSpeakerChannels
    let channel := index.val % kSpeakerChannels
    let first := frame * pcmFrames / hapticsFrames
    let last := (frame + 1) * pcmFrames / hapticsFrames
    let count := max 1 (last - first)
    let sum := ((List.range' first (last - first)).map fun sample =>
      (pcm.getD (sample * kSpeakerChannels + channel) 0).toInt).sum
    s16ToS8Haptic (Int16.ofInt (sum.tdiv count))

/-- The windows the constructor accepts. -/
def SupportedWindow (pcmWindowFrames : Nat) : Prop :=
  ¬(pcmWindowFrames = 0 ∨ pcmWindowFrames > kPcmWindowFrames ∨
    pcmWindowFrames % kHapticsDecimation ≠ 0)

instance (pcmWindowFrames : Nat) : Decidable (SupportedWindow pcmWindowFrames) := by
  unfold SupportedWindow
  infer_instance

/-- Extractor state. The three proof fields are the bounds its constructor
checks and its loop maintains. -/
structure Extractor (E : Type*) where
  speakerEncoder : E
  pendingFrame : Vector UInt8 kPcmFrameSize
  speakerPcm : PcmWindow
  hapticsPcm : PcmWindow
  pcmWindowFrames : Nat
  pendingFramePos : Nat
  pcmWindowFramePos : Nat
  chunkHasSignal : Bool
  chunkHasHapticsSignal : Bool
  supported : SupportedWindow pcmWindowFrames
  pendingFramePos_lt : pendingFramePos < kPcmFrameSize
  pcmWindowFramePos_lt : pcmWindowFramePos < pcmWindowFrames

variable {E : Type*}

theorem kPcmFrameSize_pos : 0 < kPcmFrameSize := by decide

/-- The constructor rejects every unsupported window. -/
def new (encoder : E) (pcmWindowFrames : Nat) : Except String (Extractor E) :=
  if h : SupportedWindow pcmWindowFrames then
    .ok
      { speakerEncoder := encoder
        pendingFrame := Vector.replicate _ 0
        speakerPcm := Vector.replicate _ 0
        hapticsPcm := Vector.replicate _ 0
        pcmWindowFrames := pcmWindowFrames
        pendingFramePos := 0
        pcmWindowFramePos := 0
        chunkHasSignal := false
        chunkHasHapticsSignal := false
        supported := h
        pendingFramePos_lt := kPcmFrameSize_pos
        pcmWindowFramePos_lt := by
          unfold SupportedWindow at h
          omega }
  else
    .error "unsupported PCM frame window"

variable (opusEncode : E → Vector Int16 (kSpeakerOpusFrames * kSpeakerChannels) → E × List UInt8)

/-- Resample, encode, and zero what the encoder did not write. -/
def encode (encoder : E) (pcm : List Int16) (pcmFrames : Nat) : E × SpeakerChunk :=
  let (encoder, bytes) := opusEncode encoder (resampleSpeakerPcm pcm pcmFrames)
  (encoder, Vector.ofFn fun index => bytes.getD index.val 0)

/-- The `consume_frame` closure: store one frame and close the window when it
is full. -/
def consumeFrame (x : Extractor E) (base : List UInt8) : Extractor E × List AudioChunk :=
  let sample := fun channel =>
    readLeS16 (base.getD (channel * kPcmSampleSize) 0)
      (base.getD (channel * kPcmSampleSize + 1) 0)
  let hasSignal := x.chunkHasSignal || sample 0 != 0 || sample 1 != 0 || sample 2 != 0 ||
    sample 3 != 0
  let hasHapticsSignal := x.chunkHasHapticsSignal || sample 2 != 0 || sample 3 != 0
  let slot := x.pcmWindowFramePos * kSpeakerChannels
  let speakerPcm := (x.speakerPcm.setIfInBounds slot (sample 0)).setIfInBounds (slot + 1) (sample 1)
  let hapticsPcm := (x.hapticsPcm.setIfInBounds slot (sample 2)).setIfInBounds (slot + 1) (sample 3)
  if h : x.pcmWindowFramePos + 1 ≠ x.pcmWindowFrames then
    ({ x with
        speakerPcm := speakerPcm
        hapticsPcm := hapticsPcm
        pcmWindowFramePos := x.pcmWindowFramePos + 1
        chunkHasSignal := hasSignal
        chunkHasHapticsSignal := hasHapticsSignal
        pcmWindowFramePos_lt := by
          have hlt := x.pcmWindowFramePos_lt
          omega }, [])
  else
    let samples := x.pcmWindowFrames * kSpeakerChannels
    let haptics := resampleHapticsPcm (hapticsPcm.toList.take samples) x.pcmWindowFrames
    let (encoder, speaker) := encode opusEncode x.speakerEncoder (speakerPcm.toList.take samples)
      x.pcmWindowFrames
    ({ x with
        speakerEncoder := encoder
        speakerPcm := speakerPcm
        hapticsPcm := hapticsPcm
        pcmWindowFramePos := 0
        chunkHasSignal := false
        chunkHasHapticsSignal := false
        pcmWindowFramePos_lt := by
          have hlt := x.pcmWindowFramePos_lt
          omega },
      [⟨haptics, speaker, hasSignal, hasHapticsSignal⟩])

/-- The fast path: consume `frames` whole frames from the front of the input. -/
def consumeFrames (x : Extractor E) (pcmBytes : List UInt8) :
    Nat → Extractor E × List AudioChunk
  | 0 => (x, [])
  | frames + 1 =>
      let first := consumeFrame opusEncode x pcmBytes
      let rest := consumeFrames first.1 (pcmBytes.drop kPcmFrameSize) frames
      (rest.1, first.2 ++ rest.2)

/-- Copy bytes into `pending_frame` from `offset` on. -/
def copyPending (pending : Vector UInt8 kPcmFrameSize) (offset : Nat) (bytes : List UInt8) :
    Vector UInt8 kPcmFrameSize :=
  Vector.ofFn fun index =>
    if offset ≤ index.val ∧ index.val - offset < bytes.length then
      bytes.getD (index.val - offset) 0
    else
      pending.get index

/-- `push_usb_audio`: consume all of the input and return the completed chunks. -/
def pushUsbAudio (x : Extractor E) (pcmBytes : List UInt8) : Extractor E × List AudioChunk :=
  if hempty : pcmBytes = [] then
    (x, [])
  else if hfast : x.pendingFramePos = 0 ∧ kPcmFrameSize ≤ pcmBytes.length then
    let frames := pcmBytes.length / kPcmFrameSize
    let fast := consumeFrames opusEncode x pcmBytes frames
    let rest := pushUsbAudio fast.1 (pcmBytes.drop (frames * kPcmFrameSize))
    (rest.1, fast.2 ++ rest.2)
  else
    let copySize := min pcmBytes.length (kPcmFrameSize - x.pendingFramePos)
    let pendingFrame := copyPending x.pendingFrame x.pendingFramePos (pcmBytes.take copySize)
    if hfull : x.pendingFramePos + copySize = kPcmFrameSize then
      let filled := consumeFrame opusEncode { x with pendingFrame := pendingFrame }
        pendingFrame.toList
      let rest := pushUsbAudio
        { filled.1 with pendingFramePos := 0, pendingFramePos_lt := kPcmFrameSize_pos }
        (pcmBytes.drop copySize)
      (rest.1, filled.2 ++ rest.2)
    else
      pushUsbAudio
        { x with
          pendingFrame := pendingFrame
          pendingFramePos := x.pendingFramePos + copySize
          pendingFramePos_lt := by
            have hlt := x.pendingFramePos_lt
            omega }
        (pcmBytes.drop copySize)
  termination_by pcmBytes.length
  decreasing_by
    all_goals
      have hlt := x.pendingFramePos_lt
      have hpos := List.length_pos_iff.mpr hempty
      simp only [List.length_drop]
      simp only [kPcmFrameSize, kPcmChannels, kPcmSampleSize] at *
      omega

end VirtualDualSense.Protocol.PcmAudioExtractor
