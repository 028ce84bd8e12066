import VirtualDualSense.Lib.Ranges
import VirtualDualSense.Protocol.PcmAudioExtractor

/-!
# The resamplers

Both resamplers read inside of the window, stay in 32 bits, divide by no zero and never need
their clamps. The speaker samples are between the samples of their channel for every window
that the constructor accepts. The haptics samples are means over slices of the window, and a
window of 16 frames leaves every other slice empty.
-/

namespace VirtualDualSense.Protocol.Resamplers

open Lib.Ranges PcmAudioExtractor

def int32 (x : Int) : Option Int := narrow (-2147483648) 2147483647 x

def int16 (x : Int) : Option Int := narrow (-32768) 32767 x

/-- `lerp_i16` that fails on a wrapped difference, a value outside of 32 bits, a zero
denominator or a value that the clamp changes. -/
def lerpI16Checked (left right : Int16) (numerator denominator : Nat) : Option Int16 := do
  guard (numerator ≤ denominator)
  let leftPart ← int32 (left.toInt * ((denominator : Int) - numerator))
  let rightPart ← int32 (right.toInt * numerator)
  let sum ← int32 (leftPart + rightPart)
  guard (denominator ≠ 0)
  let mixed ← int16 (sum.tdiv denominator)
  return Int16.ofInt mixed

/-- One sample of `resample_speaker_pcm`, failing on a read outside of the window too. -/
def speakerSampleChecked (pcm : List Int16) (pcmFrames frame channel : Nat) : Option Int16 := do
  let sourceNumerator := frame * pcmFrames
  let sourceFrame := sourceNumerator / kSpeakerOpusFrames
  let fraction := sourceNumerator % kSpeakerOpusFrames
  let nextFrame := min (sourceFrame + 1) (pcmFrames - 1)
  let left ← pcm[sourceFrame * kSpeakerChannels + channel]?
  let right ← pcm[nextFrame * kSpeakerChannels + channel]?
  lerpI16Checked left right fraction kSpeakerOpusFrames

def s16ToS8HapticChecked (sample : Int16) : Option Int8 := do
  let value ← narrow (-128) 127 (sample.toInt.tdiv 256)
  return Int8.ofInt value

/-- The first frame of a slice. The slice ends at the first frame of the next one. -/
def sliceStart (pcmFrames frame : Nat) : Nat :=
  frame * pcmFrames / (kHapticsSampleSize / kSpeakerChannels)

/-- One sample of `resample_haptics_pcm`, with the same failures. -/
def hapticsSampleChecked (pcm : List Int16) (pcmFrames frame channel : Nat) : Option Int8 := do
  let first := sliceStart pcmFrames frame
  let last := sliceStart pcmFrames (frame + 1)
  guard (first ≤ last)
  let count := max 1 (last - first)
  let sum ← sumWithin (-2147483648) 2147483647
    (fun sample => (pcm[sample * kSpeakerChannels + channel]?).map Int16.toInt) 0
    (List.range' first (last - first))
  guard (count ≠ 0)
  let mean ← int16 (sum.tdiv count)
  s16ToS8HapticChecked (Int16.ofInt mean)

/-- The samples of one channel of a window. -/
def channelSamples (pcm : List Int16) (pcmFrames channel : Nat) : List Int :=
  (List.range pcmFrames).map fun frame => (pcm.getD (frame * kSpeakerChannels + channel) 0).toInt

def lowest (samples : List Int) : Int := samples.min?.getD 0

def highest (samples : List Int) : Int := samples.max?.getD 0

/-- The resamplers are safe on the window and keep to the range of each channel. -/
structure Faithful (pcm : List Int16) (pcmFrames : Nat) : Prop where
  speakerSafe : ∀ index : Fin (kSpeakerOpusFrames * kSpeakerChannels),
    speakerSampleChecked pcm pcmFrames (index.val / kSpeakerChannels)
      (index.val % kSpeakerChannels) = some ((resampleSpeakerPcm pcm pcmFrames).get index)
  hapticsSafe : ∀ index : Fin kHapticsSampleSize,
    hapticsSampleChecked pcm pcmFrames (index.val / kSpeakerChannels)
      (index.val % kSpeakerChannels) = some ((resampleHapticsPcm pcm pcmFrames).get index)
  speakerBetween : ∀ index : Fin (kSpeakerOpusFrames * kSpeakerChannels),
    let samples := channelSamples pcm pcmFrames (index.val % kSpeakerChannels)
    lowest samples ≤ ((resampleSpeakerPcm pcm pcmFrames).get index).toInt ∧
      ((resampleSpeakerPcm pcm pcmFrames).get index).toInt ≤ highest samples
  hapticsBetween : ∀ index : Fin kHapticsSampleSize,
    let samples := channelSamples pcm pcmFrames (index.val % kSpeakerChannels)
    (lowest samples).tdiv 256 ≤ ((resampleHapticsPcm pcm pcmFrames).get index).toInt ∧
      ((resampleHapticsPcm pcm pcmFrames).get index).toInt ≤ (highest samples).tdiv 256
  constant : ∀ (channel : Nat) (value : Int),
    (∀ x ∈ channelSamples pcm pcmFrames channel, x = value) →
    (∀ index : Fin (kSpeakerOpusFrames * kSpeakerChannels), index.val % kSpeakerChannels = channel →
      ((resampleSpeakerPcm pcm pcmFrames).get index).toInt = value) ∧
    ∀ index : Fin kHapticsSampleSize, index.val % kSpeakerChannels = channel →
      ((resampleHapticsPcm pcm pcmFrames).get index).toInt = value.tdiv 256

section Samples

variable {pcm : List Int16} {n channel : Nat} {x : Int}

theorem toInt_between (sample : Int16) : -32768 ≤ sample.toInt ∧ sample.toInt ≤ 32767 := by
  have hlow := sample.le_toInt
  have hhigh := sample.toInt_lt
  omega

theorem getElem?_eq_getD {i : Nat} (h : i < pcm.length) : pcm[i]? = some (pcm.getD i 0) := by
  rw [List.getD_eq_getElem?_getD, List.getElem?_eq_getElem h, Option.getD_some]

theorem mem_channelSamples (pcm : List Int16) (channel : Nat) {frame : Nat} (h : frame < n) :
    (pcm.getD (frame * kSpeakerChannels + channel) 0).toInt ∈ channelSamples pcm n channel :=
  List.mem_map_of_mem (List.mem_range.mpr h)

theorem between_of_mem {samples : List Int} (h : x ∈ samples) :
    lowest samples ≤ x ∧ x ≤ highest samples := by
  obtain ⟨low, hlow⟩ := Option.isSome_iff_exists.mp (List.isSome_min?_of_mem h)
  obtain ⟨high, hhigh⟩ := Option.isSome_iff_exists.mp (List.isSome_max?_of_mem h)
  rw [lowest, highest, hlow, hhigh]
  exact ⟨(List.min?_eq_some_iff.mp hlow).2 x h, (List.max?_eq_some_iff.mp hhigh).2 x h⟩

end Samples

section Speaker

variable {pcm : List Int16} {n : Nat} {lo hi : Int} {left right : Int16}

theorem clamp_eq {low high x : Int} (h : low ≤ x ∧ x ≤ high) : max low (min high x) = x := by
  omega

/-- Interpolation between two samples is safe and stays between them. -/
theorem lerpI16_spec {numerator : Nat} (hnumerator : numerator ≤ kSpeakerOpusFrames)
    (hleft : lo ≤ left.toInt ∧ left.toInt ≤ hi) (hright : lo ≤ right.toInt ∧ right.toInt ≤ hi) :
    lerpI16Checked left right numerator kSpeakerOpusFrames =
      some (lerpI16 left right numerator kSpeakerOpusFrames) ∧
    lo ≤ (lerpI16 left right numerator kSpeakerOpusFrames).toInt ∧
    (lerpI16 left right numerator kSpeakerOpusFrames).toInt ≤ hi := by
  have hd : ((kSpeakerOpusFrames : Nat) : Int) = 480 := rfl
  have hn : (0 : Int) ≤ numerator ∧ (numerator : Int) ≤ 480 := by
    simp only [kSpeakerOpusFrames] at hnumerator
    omega
  have hl := toInt_between left
  have hr := toInt_between right
  have hleftPart : 480 * -32768 ≤ left.toInt * (480 - numerator) + 0 * numerator ∧
      left.toInt * (480 - numerator) + 0 * numerator ≤ 480 * 32767 :=
    mix_between hl (by decide) hn.1 hn.2
  have hrightPart : 480 * -32768 ≤ 0 * (480 - numerator) + right.toInt * numerator ∧
      0 * (480 - numerator) + right.toInt * numerator ≤ 480 * 32767 :=
    mix_between (by decide) hr hn.1 hn.2
  have hsum := mix_between hl hr hn.1 hn.2
  have hmixed := tdiv_between (by decide) hsum
  have hbetween := tdiv_between (by decide) (mix_between hleft hright hn.1 hn.2)
  have hvalue : (lerpI16 left right numerator kSpeakerOpusFrames).toInt =
      (left.toInt * (480 - numerator) + right.toInt * numerator).tdiv 480 := by
    rw [lerpI16, hd, clamp_eq hmixed]
    exact Int16.toInt_ofInt_of_le (by omega) (by omega)
  refine ⟨?_, by rw [hvalue]; exact hbetween⟩
  simp only [Int.zero_mul, Int.add_zero, Int.zero_add] at hleftPart hrightPart
  rw [lerpI16Checked, hd, int32, narrow_eq_some (by omega), int32, narrow_eq_some (by omega)]
  simp only [Option.bind_eq_bind, Option.bind_some]
  rw [int32, narrow_eq_some (by omega)]
  simp only [Option.bind_some]
  rw [int16, narrow_eq_some hmixed, lerpI16, hd, clamp_eq hmixed]
  simp only [kSpeakerOpusFrames] at hnumerator
  simp [guard, hnumerator, kSpeakerOpusFrames]

theorem get_resampleSpeakerPcm (index : Fin (kSpeakerOpusFrames * kSpeakerChannels)) :
    (resampleSpeakerPcm pcm n).get index =
      let frame := index.val / kSpeakerChannels
      let channel := index.val % kSpeakerChannels
      let sourceFrame := frame * n / kSpeakerOpusFrames
      lerpI16 (pcm.getD (sourceFrame * kSpeakerChannels + channel) 0)
        (pcm.getD (min (sourceFrame + 1) (n - 1) * kSpeakerChannels + channel) 0)
        (frame * n % kSpeakerOpusFrames) kSpeakerOpusFrames := by
  exact Vector.getElem_ofFn index.isLt

theorem speaker_spec (hn : 0 < n) (hlength : pcm.length = n * kSpeakerChannels)
    (index : Fin (kSpeakerOpusFrames * kSpeakerChannels)) :
    speakerSampleChecked pcm n (index.val / kSpeakerChannels) (index.val % kSpeakerChannels) =
      some ((resampleSpeakerPcm pcm n).get index) ∧
    lowest (channelSamples pcm n (index.val % kSpeakerChannels)) ≤
      ((resampleSpeakerPcm pcm n).get index).toInt ∧
    ((resampleSpeakerPcm pcm n).get index).toInt ≤
      highest (channelSamples pcm n (index.val % kSpeakerChannels)) := by
  have hframe : index.val / kSpeakerChannels < 480 := by
    have hindex : index.val < 960 := index.isLt
    simp only [kSpeakerChannels]
    omega
  have hchannel : index.val % kSpeakerChannels < 2 := Nat.mod_lt _ (by decide)
  rw [get_resampleSpeakerPcm]
  generalize index.val / kSpeakerChannels = frame at *
  generalize index.val % kSpeakerChannels = channel at *
  have hsource : frame * n / kSpeakerOpusFrames < n := by
    rw [Nat.div_lt_iff_lt_mul (by decide), Nat.mul_comm n]
    exact Nat.mul_lt_mul_of_pos_right hframe hn
  have hnext : min (frame * n / kSpeakerOpusFrames + 1) (n - 1) < n := by omega
  have hread : ∀ f < n, pcm[f * kSpeakerChannels + channel]? =
      some (pcm.getD (f * kSpeakerChannels + channel) 0) := by
    intro f hf
    refine getElem?_eq_getD ?_
    simp only [hlength, kSpeakerChannels]
    omega
  have hmem : ∀ f < n, _ := fun f hf => between_of_mem (mem_channelSamples pcm channel hf)
  obtain ⟨hsafe, hbetween⟩ := lerpI16_spec (Nat.le_of_lt (Nat.mod_lt (frame * n) (by decide)))
    (hmem _ hsource) (hmem _ hnext)
  refine ⟨?_, hbetween⟩
  rw [speakerSampleChecked, hread _ hsource, hread _ hnext]
  exact hsafe

end Speaker

section Haptics

variable {pcm : List Int16} {n frame channel : Nat} {lo hi : Int}

/-- The samples of one channel of a slice. -/
def sliceSamples (pcm : List Int16) (n frame channel : Nat) : List Int :=
  (List.range' (sliceStart n frame) (sliceStart n (frame + 1) - sliceStart n frame)).map
    fun sample => (pcm.getD (sample * kSpeakerChannels + channel) 0).toInt

/-- The mean of a slice, zero when it is empty. -/
def sliceMean (pcm : List Int16) (n frame channel : Nat) : Int :=
  (sliceSamples pcm n frame channel).sum.tdiv
    (max 1 (sliceStart n (frame + 1) - sliceStart n frame) : Nat)

theorem sliceStart_le (n frame : Nat) : sliceStart n frame ≤ sliceStart n (frame + 1) := by
  refine Nat.div_le_div_right ?_
  rw [Nat.add_mul]
  omega

theorem sliceStart_lt (hn : 32 ≤ n) (frame : Nat) :
    sliceStart n frame < sliceStart n (frame + 1) := by
  change frame * n / 32 < (frame + 1) * n / 32
  rw [Nat.add_mul]
  omega

theorem sliceEnd_le (h : frame < 32) : sliceStart n (frame + 1) ≤ n := by
  change (frame + 1) * n / 32 ≤ n
  have hmul : (frame + 1) * n ≤ 32 * n := Nat.mul_le_mul_right n h
  omega

theorem mem_channelSamples_of_slice (h : frame < 32) {x : Int}
    (hx : x ∈ sliceSamples pcm n frame channel) : x ∈ channelSamples pcm n channel := by
  obtain ⟨sample, hsample, rfl⟩ := List.mem_map.mp hx
  have hend := sliceEnd_le (n := n) h
  have hstart := sliceStart_le n frame
  rw [List.mem_range'_1] at hsample
  exact mem_channelSamples pcm channel (by omega)

theorem sliceMean_between (h : ∀ x ∈ sliceSamples pcm n frame channel, lo ≤ x ∧ x ≤ hi)
    (hslice : sliceStart n frame < sliceStart n (frame + 1)) :
    lo ≤ sliceMean pcm n frame channel ∧ sliceMean pcm n frame channel ≤ hi := by
  have hlength : (sliceSamples pcm n frame channel).length =
      sliceStart n (frame + 1) - sliceStart n frame := by simp [sliceSamples]
  have hsum := sum_between h
  rw [hlength] at hsum
  rw [sliceMean, Nat.max_eq_right (by omega)]
  exact tdiv_between (by omega) hsum

theorem sliceMean_of_empty (hslice : sliceStart n (frame + 1) = sliceStart n frame) :
    sliceMean pcm n frame channel = 0 := by
  simp [sliceMean, sliceSamples, hslice]

theorem sliceMean_int16 (pcm : List Int16) (n frame channel : Nat) :
    -32768 ≤ sliceMean pcm n frame channel ∧ sliceMean pcm n frame channel ≤ 32767 := by
  by_cases hslice : sliceStart n frame < sliceStart n (frame + 1)
  · refine sliceMean_between (fun x hx => ?_) hslice
    obtain ⟨sample, -, rfl⟩ := List.mem_map.mp hx
    exact toInt_between _
  · have hstart := sliceStart_le n frame
    rw [sliceMean_of_empty (by omega)]
    decide

theorem s16ToS8Haptic_spec (sample : Int16) :
    s16ToS8HapticChecked sample = some (s16ToS8Haptic sample) ∧
    (s16ToS8Haptic sample).toInt = sample.toInt.tdiv 256 := by
  have hsample := toInt_between sample
  have hvalue : -128 ≤ sample.toInt.tdiv 256 ∧ sample.toInt.tdiv 256 ≤ 127 :=
    ⟨(Int.tdiv_le_tdiv (by decide) hsample.1 : (-32768 : Int).tdiv 256 ≤ _),
      (Int.tdiv_le_tdiv (by decide) hsample.2 : _ ≤ (32767 : Int).tdiv 256)⟩
  refine ⟨?_, ?_⟩
  · rw [s16ToS8HapticChecked, narrow_eq_some hvalue, s16ToS8Haptic, clamp_eq hvalue]
    rfl
  · rw [s16ToS8Haptic, clamp_eq hvalue]
    exact Int8.toInt_ofInt_of_le (by omega) (by omega)

theorem get_resampleHapticsPcm (index : Fin kHapticsSampleSize) :
    (resampleHapticsPcm pcm n).get index = s16ToS8Haptic (Int16.ofInt
      (sliceMean pcm n (index.val / kSpeakerChannels) (index.val % kSpeakerChannels))) :=
  Vector.getElem_ofFn index.isLt

theorem toInt_resampleHapticsPcm (index : Fin kHapticsSampleSize) :
    ((resampleHapticsPcm pcm n).get index).toInt =
      (sliceMean pcm n (index.val / kSpeakerChannels) (index.val % kSpeakerChannels)).tdiv 256 := by
  have hmean := sliceMean_int16 pcm n (index.val / kSpeakerChannels)
    (index.val % kSpeakerChannels)
  rw [get_resampleHapticsPcm, (s16ToS8Haptic_spec _).2, Int16.toInt_ofInt_of_le (by omega)
    (by omega)]

/-- The haptics resampler is safe on every window, whatever its slices are. -/
theorem haptics_safe (hn : n ≤ kPcmWindowFrames) (hlength : pcm.length = n * kSpeakerChannels)
    (hframe : frame < 32) (hchannel : channel < 2) :
    hapticsSampleChecked pcm n frame channel =
      some (s16ToS8Haptic (Int16.ofInt (sliceMean pcm n frame channel))) := by
  have hstart := sliceStart_le n frame
  have hend := sliceEnd_le (n := n) hframe
  have hsum : sumWithin (-2147483648) 2147483647
      (fun sample => (pcm[sample * kSpeakerChannels + channel]?).map Int16.toInt) 0
      (List.range' (sliceStart n frame) (sliceStart n (frame + 1) - sliceStart n frame)) =
      some (sliceSamples pcm n frame channel).sum := by
    have hn' : n ≤ 512 := hn
    have hread : ∀ sample ∈ List.range' (sliceStart n frame)
        (sliceStart n (frame + 1) - sliceStart n frame),
        (pcm[sample * kSpeakerChannels + channel]?).map Int16.toInt =
          some (pcm.getD (sample * kSpeakerChannels + channel) 0).toInt := by
      intro sample hsample
      rw [List.mem_range'_1] at hsample
      rw [getElem?_eq_getD, Option.map_some]
      simp only [hlength, kSpeakerChannels]
      omega
    have hbound : ∀ sample ∈ List.range' (sliceStart n frame)
        (sliceStart n (frame + 1) - sliceStart n frame),
        -32768 ≤ (pcm.getD (sample * kSpeakerChannels + channel) 0).toInt ∧
          (pcm.getD (sample * kSpeakerChannels + channel) 0).toInt ≤ 32768 := by
      intro sample _
      have hsample := toInt_between (pcm.getD (sample * kSpeakerChannels + channel) 0)
      omega
    rw [sumWithin_eq_some hread hbound, Int.zero_add]
    · rfl
    · rw [List.length_range']
      omega
    · rw [List.length_range']
      omega
  have hmean : int16 ((sliceSamples pcm n frame channel).sum.tdiv
      (max 1 (sliceStart n (frame + 1) - sliceStart n frame) : Nat)) =
      some (sliceMean pcm n frame channel) := narrow_eq_some (sliceMean_int16 pcm n frame channel)
  have hcount : max 1 (sliceStart n (frame + 1) - sliceStart n frame) ≠ 0 := by omega
  simp only [hapticsSampleChecked, guard, hstart, if_true, hsum, hcount, ne_eq, not_false_eq_true,
    hmean, Option.pure_def, Option.bind_eq_bind, Option.bind_some]
  exact (s16ToS8Haptic_spec _).1

end Haptics

section Faithful

variable {pcm : List Int16} {n : Nat}

/-- The haptics samples keep to the range of their channel when no slice is empty or silence is
in the range. -/
theorem haptics_between (pcm : List Int16) (index : Fin kHapticsSampleSize)
    (h : n < 32 → (lowest (channelSamples pcm n (index.val % kSpeakerChannels))).tdiv 256 ≤ 0 ∧
      0 ≤ (highest (channelSamples pcm n (index.val % kSpeakerChannels))).tdiv 256) :
    (lowest (channelSamples pcm n (index.val % kSpeakerChannels))).tdiv 256 ≤
      ((resampleHapticsPcm pcm n).get index).toInt ∧
    ((resampleHapticsPcm pcm n).get index).toInt ≤
      (highest (channelSamples pcm n (index.val % kSpeakerChannels))).tdiv 256 := by
  have hframe : index.val / kSpeakerChannels < 32 := by
    have hindex : index.val < 64 := index.isLt
    simp only [kSpeakerChannels]
    omega
  rw [toInt_resampleHapticsPcm]
  by_cases hslice : sliceStart n (index.val / kSpeakerChannels) <
      sliceStart n (index.val / kSpeakerChannels + 1)
  · obtain ⟨hlow, hhigh⟩ := sliceMean_between (fun x hx => between_of_mem
      (mem_channelSamples_of_slice hframe hx)) hslice
    exact ⟨Int.tdiv_le_tdiv (by decide) hlow, Int.tdiv_le_tdiv (by decide) hhigh⟩
  · have hn : n < 32 := by
      by_contra hn
      exact hslice (sliceStart_lt (by omega) _)
    have hstart := sliceStart_le n (index.val / kSpeakerChannels)
    rw [sliceMean_of_empty (by omega)]
    exact h hn

theorem range_of_constant {samples : List Int} {value : Int} (hne : samples ≠ [])
    (h : ∀ x ∈ samples, x = value) : lowest samples = value ∧ highest samples = value := by
  obtain ⟨low, hlow⟩ := Option.isSome_iff_exists.mp (List.isSome_min?_of_ne_nil hne)
  obtain ⟨high, hhigh⟩ := Option.isSome_iff_exists.mp (List.isSome_max?_of_ne_nil hne)
  rw [lowest, highest, hlow, hhigh]
  exact ⟨h low (List.min?_eq_some_iff.mp hlow).1, h high (List.max?_eq_some_iff.mp hhigh).1⟩

/-- On every window that the constructor accepts the resamplers are faithful exactly when the
window is not the one with empty slices or silence is in the range of both channels. -/
theorem faithful_iff (hn : SupportedWindow n) (hlength : pcm.length = n * kSpeakerChannels) :
    Faithful pcm n ↔ (n = 16 → ∀ channel < kSpeakerChannels,
      (lowest (channelSamples pcm n channel)).tdiv 256 ≤ 0 ∧
      0 ≤ (highest (channelSamples pcm n channel)).tdiv 256) := by
  have hwindow : 0 < n ∧ n ≤ 512 ∧ (n < 32 → n = 16) := by
    simp only [SupportedWindow, kPcmWindowFrames, kHapticsDecimation] at hn
    omega
  constructor
  · rintro hfaithful rfl channel hchannel
    have hbetween := hfaithful.hapticsBetween ⟨channel, Nat.lt_trans hchannel (by decide)⟩
    rw [toInt_resampleHapticsPcm] at hbetween
    simp only [Nat.mod_eq_of_lt hchannel, Nat.div_eq_of_lt hchannel] at hbetween
    rw [sliceMean_of_empty (by decide)] at hbetween
    exact hbetween
  · intro hsilence
    have hspeaker := speaker_spec hwindow.1 hlength
    have hhaptics := fun index : Fin kHapticsSampleSize => haptics_between pcm index
      fun hlt => hsilence (hwindow.2.2 hlt) _ (Nat.mod_lt _ (by decide))
    refine ⟨fun index => (hspeaker index).1, fun index => ?_, fun index => (hspeaker index).2,
      hhaptics, fun channel value hvalue => ?_⟩
    · rw [get_resampleHapticsPcm]
      refine haptics_safe hwindow.2.1 hlength ?_ (Nat.mod_lt _ (by decide))
      have hindex : index.val < 64 := index.isLt
      simp only [kSpeakerChannels]
      omega
    · have hne : channelSamples pcm n channel ≠ [] :=
        List.ne_nil_of_mem (mem_channelSamples pcm channel hwindow.1)
      obtain ⟨hlow, hhigh⟩ := range_of_constant hne hvalue
      refine ⟨fun index hindex => ?_, fun index hindex => ?_⟩
      · have hbetween := (hspeaker index).2
        rw [hindex, hlow, hhigh] at hbetween
        omega
      · have hbetween := hhaptics index
        rw [hindex, hlow, hhigh] at hbetween
        omega

/-- A constant haptics channel does not resample to a constant from 16 frames. -/
theorem sixteenFrames_not_faithful :
    ¬ ∀ (n : Nat) (pcm : List Int16), SupportedWindow n → pcm.length = n * kSpeakerChannels →
      Faithful pcm n := by
  intro hall
  have hfaithful := hall 16 (List.replicate 32 25600) (by decide) (by decide)
  have hconstant := (hfaithful.constant 0 25600 (by decide)).2 ⟨0, by decide⟩ rfl
  revert hconstant
  decide

theorem faithful_thirtyTwoFrames : Faithful (List.replicate 64 25600) 32 :=
  (faithful_iff (by decide) (by decide)).mpr (by decide)

end Faithful

end VirtualDualSense.Protocol.Resamplers
