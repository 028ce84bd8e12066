import Mathlib.Data.UInt
import VirtualDualSense.Protocol.OutputBytes

/-!
# The output image and its settings

The bridge keeps the host's settings beside the image, because audio routing and the
microphone overwrite parts of it. After every operation each byte of the image that has a
setting behind it shows the setting or the value that replaces it.
-/

namespace VirtualDualSense.Protocol.OutputInvariant

open Lib.Buffers OutputState OutputBytes

/-- The operations of `DsOutputState`. -/
inductive Operation
  | applyUsbOutputReport (report : List UInt8)
  | setAudioOutStreamActive (active headsetPlugged : Bool)
  | setHeadsetMicPlugged (plugged : Bool)
  | buildBtMicStateReport (active muted : Bool)
  | buildBtMicReport (active : Bool)
  | buildBtInitReport
  | buildBtStateReport

/-- The state after an operation. A report that is not supported leaves it alone. -/
def perform (o : DsOutputState) : Operation → DsOutputState
  | .applyUsbOutputReport report => (o.applyUsbOutputReport report).getD o
  | .setAudioOutStreamActive active headsetPlugged =>
      o.setAudioOutStreamActive active headsetPlugged
  | .setHeadsetMicPlugged plugged => o.setHeadsetMicPlugged plugged
  | .buildBtMicStateReport active muted => (o.buildBtMicStateReport active muted).1
  | .buildBtMicReport active => (o.buildBtMicReport active).1
  | .buildBtInitReport => o
  | .buildBtStateReport => o.buildBtStateReport.1

/-- The state after a sequence of operations. -/
def after (operations : List Operation) : DsOutputState := operations.foldl perform .new

/-- What the updates of the image keep holds after every sequence of operations. -/
theorem after_invariant {P : DsOutputState → Prop} (hnew : P .new)
    (hupdate : ∀ o update, P o → P (o.applyUpdate update))
    (hroute : ∀ o active headsetPlugged, P o → P (o.setAudioOutStreamActive active headsetPlugged))
    (hplugged : ∀ o plugged, P o → P (o.setHeadsetMicPlugged plugged))
    (hmic : ∀ o active muted, P o → P (o.applyMicState active muted))
    (hsequences : ∀ o report mic, P o →
      P { o with reportSequence := report, micSequence := mic }) (operations : List Operation) :
    P (after operations) := by
  have hperform : ∀ o operation, P o → P (perform o operation) := by
    intro o operation h
    cases operation with
    | applyUsbOutputReport report =>
        simp only [perform, DsOutputState.applyUsbOutputReport]
        cases DsOutputState.reportUpdate report with
        | none => exact h
        | some update => exact hupdate o update h
    | setAudioOutStreamActive active headsetPlugged => exact hroute o active headsetPlugged h
    | setHeadsetMicPlugged plugged => exact hplugged o plugged h
    | buildBtMicStateReport active muted =>
        exact hsequences (o.applyMicState active muted) _ _ (hmic o active muted h)
    | buildBtMicReport active => exact hsequences o _ _ h
    | buildBtInitReport => exact h
    | buildBtStateReport => exact hsequences o _ _ h
  have hfoldl : ∀ o, P o → P (operations.foldl perform o) := by
    intro o h
    induction operations generalizing o with
    | nil => exact h
    | cons operation rest ih => exact ih _ (hperform o operation h)
  exact hfoldl .new hnew

/-- The colour byte that the settings give. -/
def ledByte (o : DsOutputState) (j : Fin kDsStateSize) : UInt8 :=
  if o.emulateLightBrightness then scaleLightComponent (component o.lightColor j) o.lightBrightness
  else component o.lightColor j

/-- The image agrees with the settings. -/
structure Consistent (o : DsOutputState) : Prop where
  headphones : o.state.get 4 = o.headphonesVolume
  speaker : o.state.get 5 = o.speakerVolume ∨ o.state.get 5 = 0
  speakerOff : bit (o.state.get 0) 5 = false → o.state.get 5 = 0
  mic : o.state.get 6 = o.micVolume ∨ o.state.get 6 = 0
  control2 : o.state.get 37 = o.audioControl2 ∨ o.state.get 37 = 0
  control2Off : bit (o.state.get 1) 7 = false → o.state.get 37 = 0
  nonPath : o.audioControl &&& kOutputPathMask = 0
  path : o.audioOutputPath &&& ~~~ kOutputPathMask = 0
  control : o.state.get 7 = o.audioControl ||| o.audioOutputPath ∨
    o.state.get 7 = o.audioControl ||| kOutputPathSpeaker
  powerSave : o.state.get 9 &&& ~~~ kOutputPowerSaveMicMute =
    o.powerSaveControl &&& ~~~ kOutputPowerSaveMicMute
  brightness : o.state.get 42 = o.lightBrightness
  led : ∀ j : Fin kDsStateSize, 44 ≤ j.val → j.val < 47 → o.state.get j = ledByte o j
  padding : ∀ j : Fin kDsStateSize, 47 ≤ j.val → o.state.get j = 0

variable {o : DsOutputState} {update : SetStateData}

section Masks

variable {x y : UInt8}

/-- Bits outside of a mask survive its removal. -/
theorem and_complement (h : x &&& y = 0) : x &&& ~~~ y = x := by
  apply ext_bit
  intro b
  have hb : (bit x b && bit y b) = false := by
    rw [← bit_and, h]
    simp [bit]
  by_cases hlt : b < 8
  · rw [bit_and, bit_complement hlt]
    revert hb
    cases bit x b <;> cases bit y b <;> simp
  · rw [bit_of_le (Nat.le_of_not_lt hlt), bit_of_le (Nat.le_of_not_lt hlt)]

theorem audioControlWithOutputPath_eq (h : x &&& kOutputPathMask = 0) :
    audioControlWithOutputPath x y = x ||| y := by
  rw [audioControlWithOutputPath, and_complement h]

theorem or_and_distrib (x y z : UInt8) : (x ||| y) &&& z = (x &&& z) ||| (y &&& z) := by
  apply ext_bit
  intro b
  simp only [bit_and, bit_or, Bool.and_or_distrib_right]

theorem select_and_mask {z m : UInt8} (hx : x &&& m = 0) (hz : z &&& m = 0) :
    ((x &&& y) ||| z) &&& m = 0 := by
  rw [or_and_distrib, hz, UInt8.or_zero, UInt8.and_comm x, UInt8.and_assoc, hx,
    UInt8.and_zero]

end Masks

section Selected

/-- The microphone bits are not path bits. -/
theorem nonPath_micSelect (plugged : Bool) :
    (if plugged then kOutputMicSelectAuto else kOutputMicSelectInternal) &&& kOutputPathMask =
      0 := by
  cases plugged <;> decide

theorem nonPath_selectedControl (h : o.audioControl &&& kOutputPathMask = 0) (plugged : Bool) :
    selectedControl o plugged &&& kOutputPathMask = 0 :=
  select_and_mask h (nonPath_micSelect plugged)

theorem nonPath_requestedControl (h : o.audioControl &&& kOutputPathMask = 0) :
    requestedControl o update &&& kOutputPathMask = 0 := by
  refine select_and_mask ?_ (nonPath_micSelect _)
  split_ifs
  · rw [UInt8.and_assoc, show kOutputAudioControlNonPathMask &&& kOutputPathMask = 0 by decide,
      UInt8.and_zero]
  · exact h

theorem path_requestedPath :
    update.audioControl &&& kOutputPathMask &&& ~~~ kOutputPathMask = 0 := by
  rw [UInt8.and_assoc, show kOutputPathMask &&& ~~~ kOutputPathMask = 0 by decide, UInt8.and_zero]

theorem micPowerSaveControl_unmuted (active muted : Bool) :
    o.micPowerSaveControl active muted &&& ~~~ kOutputPowerSaveMicMute =
      o.powerSaveControl &&& ~~~ kOutputPowerSaveMicMute := by
  rw [DsOutputState.micPowerSaveControl]
  split_ifs
  · rw [UInt8.and_assoc, UInt8.and_self]
  · rw [or_and_distrib,
      show kOutputPowerSaveMicMute &&& ~~~ kOutputPowerSaveMicMute = 0 by decide, UInt8.or_zero]

end Selected

namespace Consistent

theorem new : Consistent .new where
  headphones := rfl
  speaker := .inl rfl
  speakerOff := by decide
  mic := .inl rfl
  control2 := .inl rfl
  control2Off := by decide
  nonPath := by decide
  path := by decide
  control := by decide
  powerSave := by decide
  brightness := by decide
  led := by decide
  padding := by decide

theorem applyUpdate (h : Consistent o) : Consistent (o.applyUpdate update) := by
  obtain ⟨hheadphones, hspeaker, hmic⟩ := volumes_applyUpdate o update
  obtain ⟨hcontrol, hpath, hcontrol2, hpowerSave⟩ := controls_applyUpdate o update
  obtain ⟨hbrightness, hemulate, hcolor⟩ := light_applyUpdate o update
  have hnonPath : (o.applyUpdate update).audioControl &&& kOutputPathMask = 0 := by
    rw [hcontrol]
    split_ifs
    · exact nonPath_requestedControl h.nonPath
    · exact h.nonPath
  refine ⟨?_, ?_, ?_, ?_, ?_, ?_, hnonPath, ?_, ?_, ?_, ?_, ?_, ?_⟩
  · rw [headphoneVolume_applyUpdate, hheadphones, h.headphones]
  · rw [speakerVolume_applyUpdate, hspeaker]
    split_ifs
    · exact .inl rfl
    · exact h.speaker
  · rw [bit_flag0_applyUpdate, speakerVolume_applyUpdate]
    intro hoff
    simp at hoff
    rw [if_neg (by simp [hoff]), h.speakerOff (by simp [hoff])]
  · rw [micVolume_applyUpdate, hmic]
    split_ifs
    · exact .inl rfl
    · exact h.mic
  · rw [audioControl2_applyUpdate]
    split_ifs with hset
    · exact .inl rfl
    · have hallow : update.allowAudioControl2 = false := by simp_all
      rw [hcontrol2, if_neg (by simp [hallow])]
      exact h.control2
  · rw [bit_flag1_applyUpdate, audioControl2_applyUpdate]
    intro hoff
    simp at hoff
    rw [if_neg (by simp [hoff]), h.control2Off (by simp [hoff])]
  · rw [hpath]
    split_ifs
    · exact path_requestedPath
    · exact h.path
  · rw [audioControl_applyUpdate]
    split_ifs with hroute hallow
    · exact .inr (audioControlWithOutputPath_eq hnonPath)
    · exact .inl (audioControlWithOutputPath_eq hnonPath)
    · rw [hcontrol, hpath, if_neg hallow, if_neg hallow]
      exact h.control
  · rw [powerSave_applyUpdate, hpowerSave]
    split_ifs
    · rfl
    · exact h.powerSave
  · rw [brightness_applyUpdate, hbrightness, h.brightness]
  · intro j hlow hhigh
    rw [led_applyUpdate o update ⟨hlow, hhigh⟩, ledByte]
    cases hallowB : update.allowLightBrightnessChange
    · cases hallowC : update.allowLedColor
      · rw [hemulate, hcolor, hbrightness]
        simpa [hallowB, hallowC, ledByte] using h.led j hlow hhigh
      · rw [hcolor]
        simp [hallowC]
    · rw [hemulate]
      simp [hallowB]
  · intro j hj
    rw [get_applyUpdate_control o update (by omega), get_applyControls o update (by omega),
      if_neg (by omega), h.padding j hj]

theorem setAudioOutStreamActive (h : Consistent o) (active headsetPlugged : Bool) :
    Consistent (o.setAudioOutStreamActive active headsetPlugged) := by
  have hshape := eq_of_settings (settings_setAudioOutStreamActive o active headsetPlugged)
  obtain ⟨hheadphones, hspeaker, hcontrol, hcontrol2⟩ :=
    values_setAudioOutStreamActive o active headsetPlugged
  have hflag0 := (flags_setAudioOutStreamActive (b := 5) o active headsetPlugged (by decide)).1
  have hflag1 := (flags_setAudioOutStreamActive (b := 7) o active headsetPlugged (by decide)).2
  have hget : ∀ j : Fin kDsStateSize, j.val = 6 ∨ 8 < j.val ∧ j.val ≠ 37 →
      (o.setAudioOutStreamActive active headsetPlugged).state.get j = o.state.get j :=
    fun j hj => get_setAudioOutStreamActive o active headsetPlugged (by omega)
  rw [hshape]
  generalize (o.setAudioOutStreamActive active headsetPlugged).state = image at *
  have hcontrol' := hcontrol.trans (audioControlWithOutputPath_eq h.nonPath)
  refine ⟨hheadphones, ?_, ?_, ?_, ?_, ?_, h.nonPath, ?_, .inl hcontrol', ?_, ?_, ?_, ?_⟩
  · change image.get 5 = o.speakerVolume ∨ image.get 5 = 0
    rw [hspeaker]
    split_ifs <;> simp
  · change bit (image.get 0) 5 = false → image.get 5 = 0
    rw [hflag0, hspeaker]
    intro hoff
    simp at hoff
    simp [hoff]
  · change image.get 6 = o.micVolume ∨ image.get 6 = 0
    rw [hget 6 (by decide)]
    exact h.mic
  · change image.get 37 = o.audioControl2 ∨ image.get 37 = 0
    rw [hcontrol2]
    split_ifs <;> simp
  · change bit (image.get 1) 7 = false → image.get 37 = 0
    rw [hflag1, hcontrol2]
    intro hoff
    simp at hoff
    simp [hoff]
  · change (if playsSpeaker active headsetPlugged then kOutputPathSpeaker
      else kOutputPathHeadphones) &&& ~~~ kOutputPathMask = 0
    split_ifs <;> decide
  · change image.get 9 &&& _ = o.powerSaveControl &&& _
    rw [hget 9 (by decide)]
    exact h.powerSave
  · change image.get 42 = o.lightBrightness
    rw [hget 42 (by decide)]
    exact h.brightness
  · intro j hlow hhigh
    change image.get j = ledByte o j
    rw [hget j (by omega)]
    exact h.led j hlow hhigh
  · intro j hj
    change image.get j = 0
    rw [hget j (by omega)]
    exact h.padding j hj

theorem setHeadsetMicPlugged (h : Consistent o) (plugged : Bool) :
    Consistent (o.setHeadsetMicPlugged plugged) := by
  have hshape := eq_of_settings (settings_setHeadsetMicPlugged o plugged)
  obtain ⟨hmic, hcontrol⟩ := values_setHeadsetMicPlugged o plugged
  have hflag0 := flag0_setHeadsetMicPlugged (b := 5) o plugged
  have hget : ∀ j : Fin kDsStateSize, j.val ≠ 0 ∧ j.val ≠ 6 ∧ j.val ≠ 7 →
      (o.setHeadsetMicPlugged plugged).state.get j = o.state.get j :=
    fun j hj => get_setHeadsetMicPlugged o plugged hj
  rw [hshape]
  generalize (o.setHeadsetMicPlugged plugged).state = image at *
  have hnonPath := nonPath_selectedControl h.nonPath plugged
  have hcontrol' := hcontrol.trans (audioControlWithOutputPath_eq hnonPath)
  refine ⟨?_, ?_, ?_, .inl hmic, ?_, ?_, hnonPath, h.path, .inl hcontrol', ?_, ?_, ?_, ?_⟩
  · exact (hget 4 (by decide)).trans h.headphones
  · change image.get 5 = o.speakerVolume ∨ image.get 5 = 0
    rw [hget 5 (by decide)]
    exact h.speaker
  · change bit (image.get 0) 5 = false → image.get 5 = 0
    rw [hflag0, hget 5 (by decide)]
    intro hoff
    exact h.speakerOff (by simpa using hoff)
  · change image.get 37 = o.audioControl2 ∨ image.get 37 = 0
    rw [hget 37 (by decide)]
    exact h.control2
  · change bit (image.get 1) 7 = false → image.get 37 = 0
    rw [hget 1 (by decide), hget 37 (by decide)]
    exact h.control2Off
  · change image.get 9 &&& _ = o.powerSaveControl &&& _
    rw [hget 9 (by decide)]
    exact h.powerSave
  · exact (hget 42 (by decide)).trans h.brightness
  · intro j hlow hhigh
    exact (hget j (by omega)).trans (h.led j hlow hhigh)
  · intro j hj
    exact (hget j (by omega)).trans (h.padding j hj)

theorem applyMicState (h : Consistent o) (active muted : Bool) :
    Consistent (o.applyMicState active muted) := by
  have hshape := eq_of_settings (settings_applyMicState o active muted)
  obtain ⟨hmic, hcontrol, hpowerSave, hcontrol2⟩ := values_applyMicState o active muted
  have hflag0 := (flags_applyMicState (b := 5) o active muted).1
  have hflag1 := (flags_applyMicState (b := 7) o active muted).2
  have hget : ∀ j : Fin kDsStateSize, 1 < j.val ∧ j.val ≠ 6 ∧ j.val ≠ 7 ∧ j.val ≠ 8 ∧
      j.val ≠ 9 ∧ j.val ≠ 37 → (o.applyMicState active muted).state.get j = o.state.get j :=
    fun j hj => get_applyMicState o active muted hj
  rw [hshape]
  generalize (o.applyMicState active muted).state = image at *
  have hcontrol' := hcontrol.trans (audioControlWithOutputPath_eq h.nonPath)
  have hpowerSave' := (congrArg (· &&& ~~~ kOutputPowerSaveMicMute) hpowerSave).trans
    (micPowerSaveControl_unmuted active muted)
  refine ⟨?_, ?_, ?_, ?_, .inl hcontrol2, ?_, h.nonPath, h.path, .inl hcontrol', hpowerSave',
    ?_, ?_, ?_⟩
  · exact (hget 4 (by decide)).trans h.headphones
  · change image.get 5 = o.speakerVolume ∨ image.get 5 = 0
    rw [hget 5 (by decide)]
    exact h.speaker
  · change bit (image.get 0) 5 = false → image.get 5 = 0
    rw [hflag0, hget 5 (by decide)]
    intro hoff
    exact h.speakerOff (by simpa using hoff)
  · change image.get 6 = o.micVolume ∨ image.get 6 = 0
    rw [hmic]
    split_ifs <;> simp
  · change bit (image.get 1) 7 = false → image.get 37 = 0
    rw [hflag1]
    simp
  · exact (hget 42 (by decide)).trans h.brightness
  · intro j hlow hhigh
    exact (hget j (by omega)).trans (h.led j hlow hhigh)
  · intro j hj
    exact (hget j (by omega)).trans (h.padding j hj)

/-- The sequence numbers have no part in it. -/
theorem of_sequences (h : Consistent o) (report mic : UInt8) :
    Consistent { o with reportSequence := report, micSequence := mic } :=
  ⟨h.headphones, h.speaker, h.speakerOff, h.mic, h.control2, h.control2Off, h.nonPath, h.path,
    h.control, h.powerSave, h.brightness, h.led, h.padding⟩

theorem after (operations : List Operation) : Consistent (after operations) :=
  after_invariant new (fun _ _ h => h.applyUpdate) (fun _ _ _ h => h.setAudioOutStreamActive _ _)
    (fun _ _ h => h.setHeadsetMicPlugged _) (fun _ _ _ h => h.applyMicState _ _)
    (fun _ _ _ h => h.of_sequences _ _) operations

end Consistent

/-- A report without a brightness and a report without a colour commute on the light. -/
theorem ledByte_comm {color brightness : SetStateData}
    (hcolor : color.allowLightBrightnessChange = false)
    (hbrightness : brightness.allowLedColor = false) (j : Fin kDsStateSize) :
    ledByte ((o.applyUpdate color).applyUpdate brightness) j =
      ledByte ((o.applyUpdate brightness).applyUpdate color) j := by
  simp only [ledByte, light_applyUpdate, hcolor, hbrightness, Bool.false_or]
  simp

/-- The image follows the settings after every sequence of operations, and the light does not
depend on the order of a colour report and a brightness report. -/
theorem consistent_after (operations : List Operation) :
    Consistent (after operations) ∧
    ∀ (colorReport brightnessReport : List UInt8) (color brightness : SetStateData),
      DsOutputState.reportUpdate colorReport = some color →
      DsOutputState.reportUpdate brightnessReport = some brightness →
      color.allowLightBrightnessChange = false → brightness.allowLedColor = false →
      ∀ j : Fin kDsStateSize, 44 ≤ j.val → j.val < 47 →
        (after (operations ++ [.applyUsbOutputReport colorReport,
          .applyUsbOutputReport brightnessReport])).state.get j =
        (after (operations ++ [.applyUsbOutputReport brightnessReport,
          .applyUsbOutputReport colorReport])).state.get j := by
  refine ⟨Consistent.after operations, ?_⟩
  intro colorReport brightnessReport color brightness hcolorReport hbrightnessReport hcolor
    hbrightness j hlow hhigh
  have hled := fun rest => (Consistent.after (operations ++ rest)).led j hlow hhigh
  rw [hled, hled]
  simp only [after, List.foldl_append, List.foldl_cons, List.foldl_nil, perform,
    DsOutputState.applyUsbOutputReport, hcolorReport, hbrightnessReport, Option.map_some,
    Option.getD_some]
  exact ledByte_comm hcolor hbrightness j

/-- A report that sets the colour only. -/
def orangeReport : List UInt8 := [0, 0x04] ++ List.replicate 42 0 ++ [200, 100, 50]

/-- A report that sets the brightness only. -/
def dimReport : List UInt8 :=
  List.replicate 38 0 ++ [0x01, 0, 0, 0, 1] ++ List.replicate 4 0

theorem led_after_orange_dim :
    Consistent (after []) ∧
    (after [.applyUsbOutputReport orangeReport, .applyUsbOutputReport dimReport]).state.get 44 =
      100 ∧
    (after [.applyUsbOutputReport orangeReport, .applyUsbOutputReport dimReport]).state.get 44 =
      (after [.applyUsbOutputReport dimReport, .applyUsbOutputReport orangeReport]).state.get 44 :=
  ⟨(consistent_after []).1, by decide +kernel,
    (consistent_after []).2 orangeReport dimReport _ _ rfl rfl (by decide) (by decide) 44
      (by decide) (by decide)⟩

end VirtualDualSense.Protocol.OutputInvariant
