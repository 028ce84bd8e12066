import Mathlib.Data.UInt
import VirtualDualSense.Protocol.OutputFrame
import VirtualDualSense.Protocol.ReportImage

/-!
# Host settings in the state report

The image always announces the groups that no operation disables, so a group that a host
report allows is in force with the bytes of the image. All groups but two are copied there.
The haptic low-pass filter and the motor power level are announced with the zeros of the
initial image.
-/

namespace VirtualDualSense.Protocol.HostSettings

open OutputState OutputBytes OutputInvariant OutputFrame ReportImage

/-- A byte of the image in the state report. -/
def sentByte (o : DsOutputState) (j : Fin kDsStateSize) : UInt8 :=
  o.buildBtStateReport.2.toList.getD (kBtStateOffset + j.val) 0

/-- The byte that a report asks for. The audio control keeps the microphone of the jack and,
without non-path bits, the earlier ones. A nonzero speaker volume takes the speaker path. The
colour is scaled once a brightness was set. -/
def requestedByte (o : DsOutputState) (update : SetStateData) (j : Fin kDsStateSize) : UInt8 :=
  if j = kOutputAudioControlOffset then
    audioControlWithOutputPath (requestedControl o update)
      (if routesSpeaker update then kOutputPathSpeaker else update.audioControl &&& kOutputPathMask)
  else if Group.ledColor.field j 0 &&
      (update.allowLightBrightnessChange || o.emulateLightBrightness) then
    scaleLightComponent (byte update j)
      (if update.allowLightBrightnessChange then update.lightBrightness else o.lightBrightness)
  else byte update j

/-- The state report announces the group and carries the field that the report asks for. -/
def Carried (o : DsOutputState) (update : SetStateData) (sent : Fin kDsStateSize → UInt8)
    (g : Group) : Prop :=
  bit (sent g.flag.1) g.flag.2 = true ∧
    ∀ (j : Fin kDsStateSize) (b : Nat), g.field j b = true →
      bit (sent j) b = bit (requestedByte o update j) b

/-- The groups that every image announces, two of them with zeros. -/
structure Announced (o : DsOutputState) : Prop where
  flag0 : ∀ b, b = 2 ∨ b = 3 → bit (o.state.get 0) b = true
  flag1 : ∀ b, b = 0 ∨ b = 2 ∨ b = 4 ∨ b = 5 ∨ b = 6 → bit (o.state.get 1) b = true
  flag2 : ∀ b, b = 0 ∨ b = 1 → bit (o.state.get 38) b = true
  motorPowerLevel : o.state.get 36 = 0
  hapticLowPassFilter : o.state.get 39 = 0

variable {o : DsOutputState} {update : SetStateData}

namespace Announced

theorem new : Announced .new where
  flag0 := by
    rintro b (rfl | rfl) <;> decide
  flag1 := by
    rintro b (rfl | rfl | rfl | rfl | rfl) <;> decide
  flag2 := by
    rintro b (rfl | rfl) <;> decide
  motorPowerLevel := by decide
  hapticLowPassFilter := by decide

theorem applyUpdate (h : Announced o) (update : SetStateData) :
    Announced (o.applyUpdate update) where
  flag0 := by
    intro b hb
    rw [bit_flag0_applyUpdate, if_neg (by omega), if_neg (by omega), h.flag0 b hb]
    simp
  flag1 := by
    intro b hb
    rw [bit_flag1_applyUpdate, h.flag1 b hb]
    simp
  flag2 := by
    intro b hb
    rw [bit_flag2_applyUpdate, if_neg (by omega), h.flag2 b hb]
  motorPowerLevel := by
    rw [get_applyUpdate_control o update (by decide), get_applyControls o update (by decide),
      if_neg (fun hmode => absurd hmode.2 (by decide)), h.motorPowerLevel]
  hapticLowPassFilter := by
    rw [get_applyUpdate_control o update (by decide), get_applyControls o update (by decide),
      if_neg (fun hmode => absurd hmode.2 (by decide)), h.hapticLowPassFilter]

theorem setAudioOutStreamActive (h : Announced o) (active headsetPlugged : Bool) :
    Announced (o.setAudioOutStreamActive active headsetPlugged) where
  flag0 := by
    intro b hb
    rw [(flags_setAudioOutStreamActive o active headsetPlugged (by omega)).1, if_neg (by omega),
      h.flag0 b hb]
    simp
  flag1 := by
    intro b hb
    rw [(flags_setAudioOutStreamActive o active headsetPlugged (by omega)).2, if_neg (by omega),
      h.flag1 b hb]
  flag2 := by
    rw [get_setAudioOutStreamActive o active headsetPlugged (by decide)]
    exact h.flag2
  motorPowerLevel := by
    rw [get_setAudioOutStreamActive o active headsetPlugged (by decide), h.motorPowerLevel]
  hapticLowPassFilter := by
    rw [get_setAudioOutStreamActive o active headsetPlugged (by decide), h.hapticLowPassFilter]

theorem setHeadsetMicPlugged (h : Announced o) (plugged : Bool) :
    Announced (o.setHeadsetMicPlugged plugged) where
  flag0 := by
    intro b hb
    rw [flag0_setHeadsetMicPlugged, h.flag0 b hb]
    simp
  flag1 := by
    rw [get_setHeadsetMicPlugged o plugged (by decide)]
    exact h.flag1
  flag2 := by
    rw [get_setHeadsetMicPlugged o plugged (by decide)]
    exact h.flag2
  motorPowerLevel := by
    rw [get_setHeadsetMicPlugged o plugged (by decide), h.motorPowerLevel]
  hapticLowPassFilter := by
    rw [get_setHeadsetMicPlugged o plugged (by decide), h.hapticLowPassFilter]

theorem applyMicState (h : Announced o) (active muted : Bool) :
    Announced (o.applyMicState active muted) where
  flag0 := by
    intro b hb
    rw [(flags_applyMicState o active muted).1, h.flag0 b hb]
    simp
  flag1 := by
    intro b hb
    rw [(flags_applyMicState o active muted).2, h.flag1 b hb]
    simp
  flag2 := by
    rw [get_applyMicState o active muted (by decide)]
    exact h.flag2
  motorPowerLevel := by
    rw [get_applyMicState o active muted (by decide), h.motorPowerLevel]
  hapticLowPassFilter := by
    rw [get_applyMicState o active muted (by decide), h.hapticLowPassFilter]

theorem after (operations : List Operation) : Announced (after operations) :=
  after_invariant new (fun _ _ h => h.applyUpdate _) (fun _ _ _ h => h.setAudioOutStreamActive _ _)
    (fun _ _ h => h.setHeadsetMicPlugged _) (fun _ _ _ h => h.applyMicState _ _)
    (fun _ _ _ h => ⟨h.flag0, h.flag1, h.flag2, h.motorPowerLevel, h.hapticLowPassFilter⟩)
    operations

end Announced

section Fields

variable {j : Fin kDsStateSize} {b : Nat}

theorem sentByte_eq (h : j.val < kSetStateSize) : sentByte o j = o.state.get j := by
  rw [sentByte, DsOutputState.buildBtStateReport, List.getD_eq_getElem?_getD,
    getElem?_stateReport _ _ h, Option.getD_some]

theorem field_lt {g : Group} (h : g.field j b = true) : j.val < kSetStateSize := by
  change j.val < 47
  cases g <;> simp only [Group.field, decide_eq_true_eq] at h <;> omega

theorem flag_lt (g : Group) : g.flag.1.val < kSetStateSize := by
  cases g <;> decide

/-- After a report the image announces every group that the report allows. -/
theorem flag_applyUpdate (h : Announced o) {g : Group} (hg : g.allowed update = true) :
    bit ((o.applyUpdate update).state.get g.flag.1) g.flag.2 = true := by
  have h' := h.applyUpdate update
  obtain ⟨-, -, hheadphone, hspeaker, hmic, hcontrol, -, hmute, -, -, hcontrol2, -⟩ :=
    allowed_eq update
  cases g with
  | rightTrigger => exact h'.flag0 2 (by decide)
  | leftTrigger => exact h'.flag0 3 (by decide)
  | headphoneVolume =>
      change bit ((o.applyUpdate update).state.get 0) 4 = true
      rw [bit_flag0_applyUpdate, ← hheadphone, hg]
      simp
  | speakerVolume =>
      change bit ((o.applyUpdate update).state.get 0) 5 = true
      rw [bit_flag0_applyUpdate, ← hspeaker, hg]
      simp
  | micVolume =>
      change bit ((o.applyUpdate update).state.get 0) 6 = true
      rw [bit_flag0_applyUpdate, ← hmic, hg]
      simp
  | audioControl =>
      change bit ((o.applyUpdate update).state.get 0) 7 = true
      rw [bit_flag0_applyUpdate, ← hcontrol, hg]
      simp
  | muteLight => exact h'.flag1 0 (by decide)
  | audioMute =>
      change bit ((o.applyUpdate update).state.get 1) 1 = true
      rw [bit_flag1_applyUpdate, ← hmute, hg]
      simp
  | ledColor => exact h'.flag1 2 (by decide)
  | playerIndicators => exact h'.flag1 4 (by decide)
  | hapticLowPassFilter => exact h'.flag1 5 (by decide)
  | motorPowerLevel => exact h'.flag1 6 (by decide)
  | audioControl2 =>
      change bit ((o.applyUpdate update).state.get 1) 7 = true
      rw [bit_flag1_applyUpdate, ← hcontrol2, hg]
      simp
  | lightBrightness => exact h'.flag2 0 (by decide)
  | lightFade => exact h'.flag2 1 (by decide)

theorem requestedByte_of_plain (h : j.val ≠ 7 ∧ (j.val < 44 ∨ 47 ≤ j.val)) :
    requestedByte o update j = byte update j := by
  have hcontrol : j ≠ kOutputAudioControlOffset := by
    rintro rfl
    exact h.1 rfl
  have hcolor : Group.ledColor.field j 0 = false := by
    simp only [Group.field, decide_eq_false_iff_not]
    omega
  rw [requestedByte, if_neg hcontrol, hcolor]
  rfl

theorem component_ledColor (h : 44 ≤ j.val ∧ j.val < 47) :
    component update.ledColor j = byte update j := by
  rw [byte_eq (Nat.lt_of_lt_of_le h.2 (by decide))]
  obtain hj | hj | hj : j.val = 44 ∨ j.val = 45 ∨ j.val = 46 := by omega
  · simp only [component, hj, if_true]
    rfl
  · simp only [component, hj]
    rfl
  · simp only [component, hj]
    rfl

theorem control_requested (h : update.allowAudioControl = true) :
    (o.applyUpdate update).state.get 7 = requestedByte o update 7 := by
  obtain ⟨hcontrol, hpath, -⟩ := controls_applyUpdate o update
  have hrequested : requestedByte o update 7 =
      audioControlWithOutputPath (requestedControl o update)
        (if routesSpeaker update then kOutputPathSpeaker
        else update.audioControl &&& kOutputPathMask) := rfl
  rw [hrequested, audioControl_applyUpdate, hcontrol, hpath, if_pos h, if_pos h, if_pos h]
  split_ifs <;> rfl

theorem led_requested (hj : 44 ≤ j.val ∧ j.val < 47) (h : update.allowLedColor = true) :
    (o.applyUpdate update).state.get j = requestedByte o update j := by
  obtain ⟨hbrightness, hemulate, hcolor⟩ := light_applyUpdate o update
  have hcontrol : j ≠ kOutputAudioControlOffset := by
    rintro rfl
    revert hj
    decide
  have hfield : Group.ledColor.field j 0 = true := by simpa [Group.field] using hj
  rw [led_applyUpdate o update hj, requestedByte, if_neg hcontrol, hfield, hbrightness, hemulate,
    hcolor, h]
  simp [component_ledColor hj]

/-- The groups that a report copies arrive as it asks. -/
theorem field_applyUpdate {g : Group} (hg : g.allowed update = true)
    (hfilter : g ≠ .hapticLowPassFilter) (hpower : g ≠ .motorPowerLevel)
    (hfield : g.field j b = true) :
    (o.applyUpdate update).state.get j = requestedByte o update j := by
  obtain ⟨hright, hleft, hheadphone, hspeaker, hmic, hcontrol, hlight, hmute, hcolor, hplayer,
    hcontrol2, hbrightness, hfade⟩ := allowed_eq update
  have hat : ∀ i : Fin kDsStateSize, j.val = i.val → j = i := fun i => Fin.ext
  cases g <;> simp only [Group.field, decide_eq_true_eq] at hfield
  case rightTrigger =>
    rw [hright] at hg
    rw [requestedByte_of_plain (by omega), get_applyUpdate o update (by omega),
      if_pos (by simp [hg, hfield])]
  case leftTrigger =>
    rw [hleft] at hg
    rw [requestedByte_of_plain (by omega), get_applyUpdate o update (by omega),
      if_pos (by simp [hg, hfield])]
  case headphoneVolume =>
    rw [hheadphone] at hg
    rw [hat 4 hfield, requestedByte_of_plain (by decide), headphoneVolume_applyUpdate, if_pos hg,
      byte_eq (by decide)]
    rfl
  case speakerVolume =>
    rw [hspeaker] at hg
    rw [hat 5 hfield, requestedByte_of_plain (by decide), speakerVolume_applyUpdate, if_pos hg,
      byte_eq (by decide)]
    rfl
  case micVolume =>
    rw [hmic] at hg
    rw [hat 6 hfield, requestedByte_of_plain (by decide), micVolume_applyUpdate, if_pos hg,
      byte_eq (by decide)]
    rfl
  case audioControl =>
    rw [hcontrol] at hg
    rw [hat 7 hfield, control_requested hg]
  case muteLight =>
    rw [hlight] at hg
    rw [requestedByte_of_plain (by omega), get_applyUpdate o update (by omega),
      if_pos (by simp [hg, hfield])]
  case audioMute =>
    rw [hmute] at hg
    rw [hat 9 hfield, requestedByte_of_plain (by decide), powerSave_applyUpdate, if_pos hg,
      byte_eq (by decide)]
    rfl
  case ledColor =>
    rw [hcolor] at hg
    exact led_requested hfield hg
  case playerIndicators =>
    rw [hplayer] at hg
    rw [requestedByte_of_plain (by omega), get_applyUpdate o update (by omega),
      if_pos (by simp [hg, hfield])]
  case hapticLowPassFilter => exact absurd rfl hfilter
  case motorPowerLevel => exact absurd rfl hpower
  case audioControl2 =>
    rw [hcontrol2] at hg
    rw [hat 37 hfield, requestedByte_of_plain (by decide), audioControl2_applyUpdate,
      if_pos (by simp [hg]), (controls_applyUpdate o update).2.2.1, if_pos hg, byte_eq (by decide)]
    rfl
  case lightBrightness =>
    rw [hbrightness] at hg
    rw [hat 42 hfield, requestedByte_of_plain (by decide), brightness_applyUpdate, if_pos hg,
      byte_eq (by decide)]
    rfl
  case lightFade =>
    rw [hfade] at hg
    rw [requestedByte_of_plain (by omega), get_applyUpdate o update (by omega),
      if_pos (by simp [hg, hfield])]

/-- A group of zeros is carried when the report asks for zeros. -/
theorem carried_zero_iff (h : Announced o) {g : Group} (hg : g.allowed update = true)
    (hplain : ∀ j b, g.field j b = true → j.val ≠ 7 ∧ (j.val < 44 ∨ 47 ≤ j.val))
    (hzero : ∀ j b, g.field j b = true → (o.applyUpdate update).state.get j = 0) :
    Carried o update (sentByte (o.applyUpdate update)) g ↔
      ∀ j b, g.field j b = true → bit (byte update j) b = false := by
  have hflag : bit (sentByte (o.applyUpdate update) g.flag.1) g.flag.2 = true := by
    rw [sentByte_eq (flag_lt g)]
    exact flag_applyUpdate h hg
  have hsent : ∀ j b, g.field j b = true → bit (sentByte (o.applyUpdate update) j) b = false := by
    intro j b hfield
    rw [sentByte_eq (field_lt hfield), hzero j b hfield]
    simp [bit]
  constructor
  · intro hcarried j b hfield
    rw [← requestedByte_of_plain (o := o) (hplain j b hfield), ← hcarried.2 j b hfield]
    exact hsent j b hfield
  · intro hzeros
    refine ⟨hflag, fun j b hfield => ?_⟩
    rw [hsent j b hfield, requestedByte_of_plain (hplain j b hfield), hzeros j b hfield]

theorem carried_of_copied (h : Announced o) {g : Group} (hg : g.allowed update = true)
    (hfilter : g ≠ .hapticLowPassFilter) (hpower : g ≠ .motorPowerLevel) :
    Carried o update (sentByte (o.applyUpdate update)) g := by
  refine ⟨?_, fun j b hfield => ?_⟩
  · rw [sentByte_eq (flag_lt g)]
    exact flag_applyUpdate h hg
  · rw [sentByte_eq (field_lt hfield), field_applyUpdate hg hfilter hpower hfield]

end Fields

/-- From every state that the operations reach, a report loses no group that it allows exactly
when it asks for no filter and no power reduction. -/
theorem carried_iff (operations : List Operation) (report : List UInt8) (update : SetStateData)
    (hreport : DsOutputState.reportUpdate report = some update) :
    (∀ g : Group, g.allowed update = true → Carried (after operations) update
      (sentByte (perform (after operations) (.applyUsbOutputReport report))) g) ↔
    (Group.hapticLowPassFilter.allowed update = true → bit (byte update 39) 0 = false) ∧
    (Group.motorPowerLevel.allowed update = true → byte update 36 = 0) := by
  have h := Announced.after operations
  have h' := h.applyUpdate update
  have hperform : perform (after operations) (.applyUsbOutputReport report) =
      (after operations).applyUpdate update := by
    simp only [perform, DsOutputState.applyUsbOutputReport, hreport, Option.map_some,
      Option.getD_some]
  have hfilter : ∀ j b, Group.hapticLowPassFilter.field j b = true ↔ j = 39 ∧ b = 0 := by
    intro j b
    simp only [Group.field, decide_eq_true_eq, Fin.ext_iff]
    rfl
  have hpower : ∀ j b, Group.motorPowerLevel.field j b = true ↔ j = 36 := by
    intro j b
    simp only [Group.field, decide_eq_true_eq, Fin.ext_iff]
    rfl
  have hfilterZero := fun hg => carried_zero_iff h (g := .hapticLowPassFilter) hg
    (fun j b hfield => by rw [((hfilter j b).mp hfield).1]; decide)
    (fun j b hfield => by rw [((hfilter j b).mp hfield).1]; exact h'.hapticLowPassFilter)
  have hpowerZero := fun hg => carried_zero_iff h (g := .motorPowerLevel) hg
    (fun j b hfield => by rw [(hpower j b).mp hfield]; decide)
    (fun j b hfield => by rw [(hpower j b).mp hfield]; exact h'.motorPowerLevel)
  rw [hperform]
  constructor
  · intro hall
    refine ⟨fun hg => ?_, fun hg => ?_⟩
    · exact (hfilterZero hg).mp (hall _ hg) 39 0 rfl
    · apply ext_bit
      intro b
      rw [(hpowerZero hg).mp (hall _ hg) 36 b rfl]
      simp [bit]
  · rintro ⟨hfilterByte, hpowerByte⟩ g hg
    by_cases hgfilter : g = .hapticLowPassFilter
    · subst hgfilter
      refine (hfilterZero hg).mpr fun j b hfield => ?_
      obtain ⟨rfl, rfl⟩ := (hfilter j b).mp hfield
      exact hfilterByte hg
    by_cases hgpower : g = .motorPowerLevel
    · subst hgpower
      refine (hpowerZero hg).mpr fun j b hfield => ?_
      rw [(hpower j b).mp hfield, hpowerByte hg]
      simp [bit]
    · exact carried_of_copied h hg hgfilter hgpower

/-- A report that reduces the power of both motors. -/
def powerReport : List UInt8 := [0, 0x40] ++ List.replicate 34 0 ++ [0x77] ++ List.replicate 10 0

theorem powerReport_lost :
    ¬ ∀ (operations : List Operation) (report : List UInt8) (update : SetStateData),
      DsOutputState.reportUpdate report = some update → ∀ g : Group, g.allowed update = true →
        Carried (after operations) update
          (sentByte (perform (after operations) (.applyUsbOutputReport report))) g := by
  intro hall
  have hcarried := (hall [] powerReport _ rfl .motorPowerLevel (by decide)).2 36 0 (by decide)
  rw [sentByte_eq (by decide)] at hcarried
  revert hcarried
  decide +kernel

theorem carried_orangeReport :
    DsOutputState.reportUpdate orangeReport =
      some (Vector.ofFn fun i => orangeReport.getD i.val 0) ∧
    Carried (after []) (Vector.ofFn fun i => orangeReport.getD i.val 0)
      (sentByte (perform (after []) (.applyUsbOutputReport orangeReport))) .ledColor :=
  ⟨rfl, (carried_iff [] orangeReport _ rfl).mpr ⟨by decide, by decide⟩ .ledColor (by decide)⟩

end VirtualDualSense.Protocol.HostSettings
