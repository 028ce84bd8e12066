import VirtualDualSense.Protocol.ReportImage
import VirtualDualSense.Protocol.OutputBytes

/-!
# What the reports convey

The controller's image after a list of reports. A state, init or audio report
replaces it. A microphone state report, which is told by its two flag bytes,
overlays the bytes that the flags enable. No image that the bridge sends whole
has these flags, because the trigger flag of an image is never cleared.
-/

namespace VirtualDualSense.Protocol.Conveyed

open Lib.Buffers Checksum OutputState ReportImage OutputBytes PcmAudioExtractor

section Receive

/-- The image that a report has at `offset`. -/
def imageAt (report : List UInt8) (offset : Nat) : DsState :=
  Vector.ofFn fun i => report.getD (offset + i.val) 0

/-- The flags of a microphone state report. -/
def kMicStateFlag0 : UInt8 := kOutputFlag0MicVolumeEnable ||| kOutputFlag0AudioControlEnable
def kMicStateFlag1 : UInt8 :=
  kOutputFlag1MicMuteLedControlEnable ||| kOutputFlag1PowerSaveControlEnable |||
    kOutputFlag1AudioControl2Enable

def isMicState (image : DsState) : Bool :=
  image.get kOutputFlag0Offset == kMicStateFlag0 && image.get kOutputFlag1Offset == kMicStateFlag1

/-- The bytes that the flags of a microphone state report enable. -/
def micStateOffsets : List (Fin kDsStateSize) :=
  [kOutputMicVolumeOffset, kOutputAudioControlOffset, kOutputMuteLedOffset,
    kOutputPowerSaveControlOffset, kOutputAudioControl2Offset]

def overlay (state image : DsState) : DsState :=
  Vector.ofFn fun i => if i ∈ micStateOffsets then image.get i else state.get i

/-- The controller's image after a report. -/
def receive (image : DsState) (report : List UInt8) : DsState :=
  if report.head? = some kBtStateReportId then
    let carried := imageAt report kBtStateOffset
    if isMicState carried then overlay image carried else carried
  else if report.head? = some kBtHapticsReportId then imageAt report kBtHapticsStateOffset
  else if report.head? = some kBtMicReportId ∧ report[2]? = some 0x90 then
    imageAt report kBtInitStateOffset
  else image

/-- The image after a list of reports. -/
def receiveAll (reports : List (List UInt8)) : DsState :=
  reports.foldl receive (Vector.replicate _ 0)

theorem receiveAll_append (reports : List (List UInt8)) (report : List UInt8) :
    receiveAll (reports ++ [report]) = receive (receiveAll reports) report := by
  simp [receiveAll]

theorem ext_get {state state' : DsState} (h : ∀ i, state.get i = state'.get i) :
    state = state' := by
  apply Vector.ext
  intro i hi
  exact h ⟨i, hi⟩

theorem get_imageAt (report : List UInt8) (offset : Nat) (i : Fin kDsStateSize) :
    (imageAt report offset).get i = report.getD (offset + i.val) 0 := by
  change (imageAt report offset)[i.val] = _
  rw [imageAt, Vector.getElem_ofFn]

theorem get_overlay (state image : DsState) (i : Fin kDsStateSize) :
    (overlay state image).get i = if i ∈ micStateOffsets then image.get i else state.get i := by
  change (overlay state image)[i.val] = _
  rw [overlay, Vector.getElem_ofFn]

theorem imageAt_eq {report : List UInt8} {offset : Nat} {image : DsState}
    (h : ∀ i, report[offset + i.val]? = some (image.get i)) : imageAt report offset = image := by
  apply ext_get
  intro i
  rw [get_imageAt, List.getD_eq_getElem?_getD, h]
  rfl

end Receive

section WellFormed

/-- What holds of every image of the bridge: the trigger flag is set, and the
bytes behind the set-state part are zero. -/
structure WellFormed (state : DsState) : Prop where
  trigger : bit (state.get kOutputFlag0Offset) 2 = true
  padding : ∀ i : Fin kDsStateSize, kSetStateSize ≤ i.val → state.get i = 0

theorem WellFormed.not_micState {state : DsState} (wf : WellFormed state) :
    isMicState state = false := by
  by_contra h
  simp only [isMicState, Bool.not_eq_false, Bool.and_eq_true, beq_iff_eq] at h
  have htrigger := wf.trigger
  rw [h.1] at htrigger
  revert htrigger
  decide

variable {o : DsOutputState} (update : SetStateData)

namespace WellFormed

/-- A host report leaves the trigger flag and the padding alone. -/
theorem applyUpdate (wf : WellFormed o.state) : WellFormed (o.applyUpdate update).state where
  trigger := by
    have htrigger : bit (o.state.get 0) 2 = true := wf.trigger
    refine (bit_flag0_applyUpdate o update).trans ?_
    rw [if_neg (by decide), if_neg (by decide), htrigger]
    simp
  padding := by
    intro i hi
    have hbehind : 47 ≤ i.val := hi
    rw [get_applyUpdate_control o update (by omega), get_applyControls o update (by omega),
      if_neg (by omega)]
    exact wf.padding i hi

theorem setAudioOutStreamActive (wf : WellFormed o.state) (active headsetPlugged : Bool) :
    WellFormed (o.setAudioOutStreamActive active headsetPlugged).state where
  trigger := by
    have hflags := flags_setAudioOutStreamActive o active headsetPlugged (show 2 < 8 by decide)
    have htrigger : bit (o.state.get 0) 2 = true := wf.trigger
    refine hflags.1.trans ?_
    rw [if_neg (by decide), htrigger]
    simp
  padding := by
    intro i hi
    have hbehind : 47 ≤ i.val := hi
    rw [get_setAudioOutStreamActive o active headsetPlugged (by omega)]
    exact wf.padding i hi

theorem applyMicState (wf : WellFormed o.state) (active muted : Bool) :
    WellFormed (o.applyMicState active muted).state where
  trigger := by
    have htrigger : bit (o.state.get 0) 2 = true := wf.trigger
    refine (flags_applyMicState o active muted).1.trans ?_
    rw [htrigger]
    simp
  padding := by
    intro i hi
    have hbehind : 47 ≤ i.val := hi
    rw [get_applyMicState o active muted (by omega)]
    exact wf.padding i hi

theorem new : WellFormed DsOutputState.new.state where
  trigger := by decide
  padding := by decide

end WellFormed

end WellFormed

section Reports

/-- Behind the set-state part a state report is zero. -/
theorem getElem?_stateReport_padding (sequence : UInt8) (image : DsState) {i : Fin kDsStateSize}
    (h : kSetStateSize ≤ i.val) :
    (DsOutputState.stateReport sequence image).toList[kBtStateOffset + i.val]? = some 0 := by
  have hlt : kBtStateOffset + i.val < kBtStateReportSize - 4 := by
    have hi : i.val < 63 := i.isLt
    simp only [kBtStateOffset, kBtStateReportSize]
    omega
  refine (getElem?_fillOutputReportChecksum _ ⟨kBtStateOffset + i.val, by omega⟩ hlt).trans
    (congrArg some ?_)
  have hblock := List.length_take_le kSetStateSize image.toList
  rw [get_overwrite_of_outside _ (.inr (by simp only [kBtStateOffset] at *; omega))]
  have hi : 3 ≤ kBtStateOffset + i.val := Nat.le_add_right _ _
  have hne : ∀ j : Fin kBtStateReportSize, j.val < 3 →
      ¬j = ⟨kBtStateOffset + i.val, by omega⟩ := by
    intro j hj heq
    rw [heq] at hj
    exact absurd hi (Nat.not_le.mpr hj)
  rw [get_put, if_neg (hne 2 (by decide)), get_put, if_neg (hne 1 (by decide)), get_put,
    if_neg (hne 0 (by decide))]
  change (Vector.replicate kBtStateReportSize (0 : UInt8))[kBtStateOffset + i.val] = 0
  rw [Vector.getElem_replicate]

/-- The image in a state report of an image without padding. -/
theorem imageAt_stateReport (sequence : UInt8) {image : DsState}
    (hpadding : ∀ i : Fin kDsStateSize, kSetStateSize ≤ i.val → image.get i = 0) :
    imageAt (DsOutputState.stateReport sequence image).toList kBtStateOffset = image := by
  apply imageAt_eq
  intro i
  by_cases h : i.val < kSetStateSize
  · exact getElem?_stateReport sequence image h
  · rw [getElem?_stateReport_padding sequence image (Nat.le_of_not_lt h),
      hpadding i (Nat.le_of_not_lt h)]

/-- A state report of the bridge's image conveys it. -/
theorem receive_stateReport (image : DsState) (sequence : UInt8) {state : DsState}
    (wf : WellFormed state) :
    receive image (DsOutputState.stateReport sequence state).toList = state := by
  rw [receive, if_pos (head?_stateReport sequence state), imageAt_stateReport sequence wf.padding]
  simp [wf.not_micState]

theorem receive_buildBtInitReport (image : DsState) (o : DsOutputState) :
    receive image o.buildBtInitReport.toList = o.state := by
  rw [receive, head?_buildBtInitReport, getElem?_two_buildBtInitReport, if_neg (by decide),
    if_neg (by decide), if_pos ⟨rfl, rfl⟩]
  exact imageAt_eq (getElem?_buildBtInitReport o)

theorem receive_buildBtMicReport (image : DsState) (o : DsOutputState) (active : Bool) :
    receive image (o.buildBtMicReport active).2.toList = image := by
  rw [receive, head?_buildBtMicReport, getElem?_two_buildBtMicReport, if_neg (by decide),
    if_neg (by decide), if_neg (by decide)]

theorem receive_buildPacket (image : DsState) (b : HapticsPacketBuilder) (haptics : HapticsChunk)
    (speaker : SpeakerChunk) (state : DsState) (audioSectionsEnabled headsetPlugged : Bool) :
    receive image (b.buildPacket haptics speaker state audioSectionsEnabled
      headsetPlugged).2.toList = state := by
  rw [receive, head?_buildPacket, if_neg (by decide), if_pos rfl]
  exact imageAt_eq (getElem?_buildPacket b haptics speaker state audioSectionsEnabled
    headsetPlugged)

variable {o : DsOutputState} (active muted : Bool)

theorem get_micStateImage_padding {i : Fin kDsStateSize} (h : kSetStateSize ≤ i.val) :
    (o.micStateImage active muted).get i = 0 := by
  have hne : ∀ j : Fin kDsStateSize, j.val < kSetStateSize → ¬j = i := by
    intro j hj heq
    rw [heq] at hj
    omega
  simp only [DsOutputState.micStateImage, get_put]
  repeat rw [if_neg (hne _ (by decide))]
  change (Vector.replicate kDsStateSize (0 : UInt8))[i.val] = 0
  rw [Vector.getElem_replicate]

theorem isMicState_micStateImage : isMicState (o.micStateImage active muted) = true := by
  simp +decide [isMicState, DsOutputState.micStateImage, kMicStateFlag0, kMicStateFlag1]

/-- A microphone state report overlays its part of the image. -/
theorem receive_buildBtMicStateReport (image : DsState) :
    receive image (o.buildBtMicStateReport active muted).2.toList =
      overlay image (o.micStateImage active muted) := by
  simp only [DsOutputState.buildBtMicStateReport]
  rw [receive, if_pos (head?_stateReport _ _),
    imageAt_stateReport _ fun _ => get_micStateImage_padding active muted]
  simp [isMicState_micStateImage]

/-- The flags of a microphone state report are set in the image already. -/
def MicFlagsSet (state : DsState) : Prop :=
  state.get kOutputFlag0Offset ||| kMicStateFlag0 = state.get kOutputFlag0Offset ∧
    state.get kOutputFlag1Offset ||| kMicStateFlag1 = state.get kOutputFlag1Offset

/-- A report that changes nothing enables nothing new. -/
theorem micFlagsSet_of_unchanged (h : (o.applyMicState active muted).state = o.state) :
    MicFlagsSet o.state := by
  have hflag0 : (o.applyMicState active muted).state.get kOutputFlag0Offset =
      o.state.get kOutputFlag0Offset ||| kMicStateFlag0 := by
    simp +decide [DsOutputState.applyMicState, DsOutputState.write, DsOutputState.enable,
      kMicStateFlag0]
  have hflag1 : (o.applyMicState active muted).state.get kOutputFlag1Offset =
      o.state.get kOutputFlag1Offset ||| kMicStateFlag1 := by
    simp +decide [DsOutputState.applyMicState, DsOutputState.write, DsOutputState.enable,
      kMicStateFlag1]
  rw [h] at hflag0 hflag1
  exact ⟨hflag0.symm, hflag1.symm⟩

/-- The overlay of the bridge's own image is the image after the report. -/
theorem overlay_micStateImage (h : MicFlagsSet o.state) :
    overlay o.state (o.micStateImage active muted) = (o.applyMicState active muted).state := by
  apply ext_get
  intro i
  rw [get_overlay]
  by_cases hmem : i ∈ micStateOffsets
  · rw [if_pos hmem]
    simp only [micStateOffsets, List.mem_cons, List.not_mem_nil, or_false] at hmem
    rcases hmem with rfl | rfl | rfl | rfl | rfl <;>
      simp +decide [DsOutputState.applyMicState, DsOutputState.micStateImage, DsOutputState.write,
        DsOutputState.enable]
  · rw [if_neg hmem]
    have hne : ∀ j ∈ micStateOffsets, ¬j = i := fun j hj heq => hmem (heq ▸ hj)
    have hrest : (o.applyMicState active muted).state.get i =
        ((o.enable kOutputFlag0Offset kMicStateFlag0).enable kOutputFlag1Offset
          kMicStateFlag1).state.get i := by
      simp only [DsOutputState.applyMicState, DsOutputState.write, get_put]
      rw [if_neg (hne _ (by decide)), if_neg (hne _ (by decide)), if_neg (hne _ (by decide)),
        if_neg (hne _ (by decide)), if_neg (hne _ (by decide))]
      rfl
    rw [hrest]
    simp only [DsOutputState.enable, DsOutputState.write, get_put]
    split_ifs with hflag1 hsame hflag0
    · cases hsame
    · rw [← hflag1, h.2]
    · rw [← hflag0, h.1]
    · rfl

end Reports

end VirtualDualSense.Protocol.Conveyed
