import VirtualDualSense.Protocol.OutputInvariant

/-!
# What a host report changes

A host report writes the groups it allows and nothing else, apart from the rumble mode and the
route of a nonzero speaker volume. Sending the same report again changes nothing.
-/

namespace VirtualDualSense.Protocol.OutputFrame

open OutputState OutputBytes OutputInvariant

/-- The groups of `vds_set_state_data` that have a flag of their own. -/
inductive Group
  | rightTrigger
  | leftTrigger
  | headphoneVolume
  | speakerVolume
  | micVolume
  | audioControl
  | muteLight
  | audioMute
  | ledColor
  | playerIndicators
  | hapticLowPassFilter
  | motorPowerLevel
  | audioControl2
  | lightBrightness
  | lightFade
  deriving DecidableEq

namespace Group

/-- The byte and the bit of the flag of a group. -/
def flag : Group → Fin kDsStateSize × Nat
  | rightTrigger => (0, 2)
  | leftTrigger => (0, 3)
  | headphoneVolume => (0, 4)
  | speakerVolume => (0, 5)
  | micVolume => (0, 6)
  | audioControl => (0, 7)
  | muteLight => (1, 0)
  | audioMute => (1, 1)
  | ledColor => (1, 2)
  | playerIndicators => (1, 4)
  | hapticLowPassFilter => (1, 5)
  | motorPowerLevel => (1, 6)
  | audioControl2 => (1, 7)
  | lightBrightness => (38, 0)
  | lightFade => (38, 1)

/-- The bits of the field of a group. -/
def field (j : Fin kDsStateSize) (b : Nat) : Group → Bool
  | rightTrigger => 10 ≤ j.val ∧ j.val < 21
  | leftTrigger => 21 ≤ j.val ∧ j.val < 32
  | headphoneVolume => j.val = 4
  | speakerVolume => j.val = 5
  | micVolume => j.val = 6
  | audioControl => j.val = 7
  | muteLight => j.val = 8
  | audioMute => j.val = 9
  | ledColor => 44 ≤ j.val ∧ j.val < 47
  | playerIndicators => j.val = 43
  | hapticLowPassFilter => j.val = 39 ∧ b = 0
  | motorPowerLevel => j.val = 36
  | audioControl2 => j.val = 37
  | lightBrightness => j.val = 42
  | lightFade => j.val = 41

/-- The report allows the group. -/
def allowed (g : Group) (update : SetStateData) : Bool := bit (byte update g.flag.1) g.flag.2

/-- The bits that belong to a group. The colour belongs to the brightness too. -/
def Owns (g : Group) (j : Fin kDsStateSize) (b : Nat) : Prop :=
  g.flag = (j, b) ∨ g.field j b ∨ (g = lightBrightness ∧ ledColor.field j b)

end Group

/-- A report sets one of the rumble modes. -/
def setsRumble (update : SetStateData) : Bool :=
  update.useRumbleNotHaptics || update.enableRumbleEmulation

/-- The bits of the image that a report may change. -/
def MayChange (update : SetStateData) (j : Fin kDsStateSize) (b : Nat) : Prop :=
  (j.val = 0 ∧ (b = 0 ∨ b = 1)) ∨ (j.val = 38 ∧ b = 2) ∨
  (setsRumble update ∧ (j.val = 2 ∨ j.val = 3)) ∨
  (∃ g : Group, g.allowed update ∧ g.Owns j b) ∨
  (routesSpeaker update ∧ (j.val = 7 ∨ j.val = 37 ∨ (j.val = 0 ∨ j.val = 1) ∧ b = 7))

section Frame

variable {o : DsOutputState} {update : SetStateData} {j : Fin kDsStateSize} {b : Nat}

theorem allowed_eq (update : SetStateData) :
    Group.rightTrigger.allowed update = update.allowRightTriggerFfb ∧
    Group.leftTrigger.allowed update = update.allowLeftTriggerFfb ∧
    Group.headphoneVolume.allowed update = update.allowHeadphoneVolume ∧
    Group.speakerVolume.allowed update = update.allowSpeakerVolume ∧
    Group.micVolume.allowed update = update.allowMicVolume ∧
    Group.audioControl.allowed update = update.allowAudioControl ∧
    Group.muteLight.allowed update = update.allowMuteLight ∧
    Group.audioMute.allowed update = update.allowAudioMute ∧
    Group.ledColor.allowed update = update.allowLedColor ∧
    Group.playerIndicators.allowed update = update.allowPlayerIndicators ∧
    Group.audioControl2.allowed update = update.allowAudioControl2 ∧
    Group.lightBrightness.allowed update = update.allowLightBrightnessChange ∧
    Group.lightFade.allowed update = update.allowColorLightFadeAnimation := by
  refine ⟨?_, ?_, ?_, ?_, ?_, ?_, ?_, ?_, ?_, ?_, ?_, ?_, ?_⟩ <;>
  · rw [Group.allowed, byte_eq (by decide)]
    rfl

/-- No group that owns the bit is allowed. -/
theorem not_allowed (h : ¬ MayChange update j b) {g : Group} (hg : g.Owns j b) :
    g.allowed update = false := by
  cases hallowed : g.allowed update
  · rfl
  · exact absurd (.inr (.inr (.inr (.inl ⟨g, hallowed, hg⟩)))) h

theorem flag_unset (h : ¬ MayChange update j b) (g : Group) {k : Nat} (hflag : g.flag = (j, k)) :
    (g.allowed update && decide (b = k)) = false := by
  by_cases hb : b = k
  · subst hb
    rw [not_allowed h (.inl hflag), Bool.false_and]
  · simp [hb]

theorem field_unset (h : ¬ MayChange update j b) (g : Group) (hfield : g.field j b = true) :
    g.allowed update = false :=
  not_allowed h (.inr (.inl hfield))

theorem route_unset (h : ¬ MayChange update j b) (hj : j.val = 7 ∨ j.val = 37) :
    routesSpeaker update = false := by
  cases hroute : routesSpeaker update
  · rfl
  · exact absurd (.inr (.inr (.inr (.inr ⟨hroute, by omega⟩)))) h

theorem route_flag_unset (h : ¬ MayChange update j b) (hj : j.val = 0 ∨ j.val = 1) :
    (routesSpeaker update && decide (b = 7)) = false := by
  cases hroute : routesSpeaker update
  · rfl
  · have hb : b ≠ 7 := fun hb => h (.inr (.inr (.inr (.inr ⟨hroute, by omega⟩))))
    simp [hb]

theorem flag0_unchanged (h : ¬ MayChange update 0 b) :
    bit ((o.applyUpdate update).state.get 0) b = bit (o.state.get 0) b := by
  obtain ⟨-, -, hheadphone, hspeaker, hmic, hcontrol, -⟩ := allowed_eq update
  have hroute := route_flag_unset h (.inl rfl)
  rw [bit_flag0_applyUpdate, if_neg (fun hb => h (.inl ⟨rfl, .inl hb⟩)),
    if_neg (fun hb => h (.inl ⟨rfl, .inr hb⟩)), ← hheadphone, ← hspeaker, ← hmic, ← hcontrol,
    flag_unset h .headphoneVolume rfl, flag_unset h .speakerVolume rfl,
    flag_unset h .micVolume rfl, Bool.and_or_distrib_right, flag_unset h .audioControl rfl, hroute]
  simp

theorem flag1_unchanged (h : ¬ MayChange update 1 b) :
    bit ((o.applyUpdate update).state.get 1) b = bit (o.state.get 1) b := by
  obtain ⟨-, -, -, -, -, -, -, hmute, -, -, hcontrol2, -⟩ := allowed_eq update
  have hroute := route_flag_unset h (.inr rfl)
  rw [bit_flag1_applyUpdate, ← hmute, ← hcontrol2, flag_unset h .audioMute rfl,
    Bool.and_or_distrib_right, flag_unset h .audioControl2 rfl, hroute]
  simp

/-- The fields that have a setting behind them. -/
theorem setting_unchanged (h : ¬ MayChange update j b)
    (hj : j.val = 4 ∨ j.val = 5 ∨ j.val = 6 ∨ j.val = 7 ∨ j.val = 9 ∨ j.val = 37 ∨ j.val = 42) :
    (o.applyUpdate update).state.get j = o.state.get j := by
  obtain ⟨-, -, hheadphone, hspeaker, hmic, hcontrol, -, hmute, -, -, hcontrol2, hbrightness, -⟩ :=
    allowed_eq update
  obtain rfl | rfl | rfl | rfl | rfl | rfl | rfl :
      j = 4 ∨ j = 5 ∨ j = 6 ∨ j = 7 ∨ j = 9 ∨ j = 37 ∨ j = 42 := by
    simp only [Fin.ext_iff]
    exact hj
  · rw [headphoneVolume_applyUpdate, ← hheadphone, field_unset h .headphoneVolume rfl]
    rfl
  · rw [speakerVolume_applyUpdate, ← hspeaker, field_unset h .speakerVolume rfl]
    rfl
  · rw [micVolume_applyUpdate, ← hmic, field_unset h .micVolume rfl]
    rfl
  · rw [audioControl_applyUpdate, ← hcontrol, route_unset h (.inl rfl),
      field_unset h .audioControl rfl]
    rfl
  · rw [powerSave_applyUpdate, ← hmute, field_unset h .audioMute rfl]
    rfl
  · rw [audioControl2_applyUpdate, ← hcontrol2, route_unset h (.inr rfl),
      field_unset h .audioControl2 rfl]
    rfl
  · rw [brightness_applyUpdate, ← hbrightness, field_unset h .lightBrightness rfl]
    rfl

/-- The colour changes only with the colour or the brightness. -/
theorem led_unchanged (h : ¬ MayChange update j b) (hj : 44 ≤ j.val ∧ j.val < 47) :
    (o.applyUpdate update).state.get j = o.state.get j := by
  obtain ⟨-, -, -, -, -, -, -, -, hcolor, -, -, hbrightness, -⟩ := allowed_eq update
  have hfield : Group.ledColor.field j b = true := by simpa [Group.field] using hj
  rw [led_applyUpdate o update hj, ← hcolor, ← hbrightness, field_unset h .ledColor hfield,
    not_allowed h (.inr (.inr ⟨rfl, hfield⟩))]
  simp

/-- The other fields are copied or left alone. -/
theorem copied_unchanged (h : ¬ MayChange update j b) (hj : 1 < j.val ∧ j.val ≠ 4 ∧ j.val ≠ 5 ∧
    j.val ≠ 6 ∧ j.val ≠ 7 ∧ j.val ≠ 9 ∧ j.val ≠ 37 ∧ j.val ≠ 38 ∧
    (j.val < 42 ∨ j.val = 43 ∨ 47 ≤ j.val)) :
    (o.applyUpdate update).state.get j = o.state.get j := by
  obtain ⟨hright, hleft, -, -, -, -, hlight, -, -, hplayer, -, -, hfade⟩ := allowed_eq update
  have hfields : ∀ g : Group, g.allowed update = true → g.field j b = false := by
    intro g hg
    cases hfield : g.field j b
    · rfl
    · rw [field_unset h g hfield] at hg
      cases hg
  have hnone : ¬ (update.allowPlayerIndicators ∧ j.val = 43 ∨
      update.allowColorLightFadeAnimation ∧ j.val = 41 ∨
      update.allowLeftTriggerFfb ∧ 21 ≤ j.val ∧ j.val < 32 ∨
      update.allowRightTriggerFfb ∧ 10 ≤ j.val ∧ j.val < 21 ∨
      update.allowMuteLight ∧ j.val = 8) := by
    rw [← hright, ← hleft, ← hlight, ← hplayer, ← hfade]
    rintro (⟨hg, hj⟩ | ⟨hg, hj⟩ | ⟨hg, hj⟩ | ⟨hg, hj⟩ | ⟨hg, hj⟩) <;>
      simpa [Group.field, hj] using hfields _ hg
  have hrumble : ¬ ((update.useRumbleNotHaptics || update.enableRumbleEmulation) ∧ j.val < 4) :=
    fun hmode => h (.inr (.inr (.inl ⟨hmode.1, by omega⟩)))
  rw [get_applyUpdate o update (by omega), if_neg hnone, get_applyControls o update (by omega),
    if_neg hrumble]

/-- A report leaves alone every bit that it may not change. -/
theorem bit_applyUpdate_of_not_mayChange (h : ¬ MayChange update j b) :
    bit ((o.applyUpdate update).state.get j) b = bit (o.state.get j) b := by
  by_cases h0 : j = 0
  · subst h0
    exact flag0_unchanged h
  by_cases h1 : j = 1
  · subst h1
    exact flag1_unchanged h
  by_cases h38 : j = 38
  · subst h38
    rw [bit_flag2_applyUpdate, if_neg (fun hb => h (.inr (.inl ⟨rfl, hb⟩)))]
  by_cases hled : 44 ≤ j.val ∧ j.val < 47
  · rw [led_unchanged h hled]
  by_cases hsetting : j.val = 4 ∨ j.val = 5 ∨ j.val = 6 ∨ j.val = 7 ∨ j.val = 9 ∨ j.val = 37 ∨
      j.val = 42
  · rw [setting_unchanged h hsetting]
  · have hne : j.val ≠ 0 ∧ j.val ≠ 1 ∧ j.val ≠ 38 :=
      ⟨fun hj => h0 (Fin.ext hj), fun hj => h1 (Fin.ext hj), fun hj => h38 (Fin.ext hj)⟩
    rw [copied_unchanged h (by omega)]

end Frame

section Idempotence

variable (o : DsOutputState) (update : SetStateData) {j : Fin kDsStateSize}

/-- Selecting the microphone twice selects it once. -/
theorem select_select {x y z : UInt8} (h : z &&& ~~~ y = 0) :
    (((x &&& ~~~ y) ||| z) &&& ~~~ y) ||| z = (x &&& ~~~ y) ||| z := by
  rw [or_and_distrib, h, UInt8.or_zero, UInt8.and_assoc, UInt8.and_self]

theorem requestedControl_applyUpdate (h : update.allowAudioControl = true) :
    requestedControl (o.applyUpdate update) update = requestedControl o update := by
  have hplugged := congrArg DsOutputState.headsetMicPlugged (settings_applyUpdate o update)
  change (o.applyUpdate update).headsetMicPlugged = o.headsetMicPlugged at hplugged
  have hcontrol := (controls_applyUpdate o update).1
  rw [if_pos h] at hcontrol
  have hselect : ∀ plugged : Bool, (if plugged then kOutputMicSelectAuto
      else kOutputMicSelectInternal) &&& ~~~ kOutputMicSelectMask = 0 := by decide
  by_cases hrequested : update.audioControl &&& kOutputAudioControlNonPathMask = 0
  · simp only [requestedControl, hplugged, hcontrol, hrequested, ne_eq, not_true_eq_false,
      if_false]
    exact select_select (hselect o.headsetMicPlugged)
  · simp only [requestedControl, hplugged, ne_eq, hrequested, not_false_eq_true, if_true]

theorem settings_idempotent :
    settings ((o.applyUpdate update).applyUpdate update) = settings (o.applyUpdate update) := by
  have hcontrol : (if update.allowAudioControl then requestedControl (o.applyUpdate update) update
      else (o.applyUpdate update).audioControl) = (o.applyUpdate update).audioControl := by
    rw [(controls_applyUpdate o update).1]
    split_ifs with h
    · exact requestedControl_applyUpdate o update h
    · rfl
  obtain ⟨hheadphones, hspeaker, hmic⟩ := volumes_applyUpdate o update
  obtain ⟨-, hpath, hcontrol2, hpowerSave⟩ := controls_applyUpdate o update
  obtain ⟨hbrightness, hemulate, hcolor⟩ := light_applyUpdate o update
  have hsame : ∀ {α : Type} (c : Bool) (x y z : α), z = (if c then x else y) →
      (if c then x else z) = z := by
    rintro α (_ | _) x y z h
    · rfl
    · exact h.symm
  rw [settings_applyUpdate (o.applyUpdate update) update, hcontrol, hsame _ _ _ _ hheadphones,
    hsame _ _ _ _ hspeaker, hsame _ _ _ _ hmic, hsame _ _ _ _ hpath, hsame _ _ _ _ hcontrol2,
    hsame _ _ _ _ hpowerSave, hsame _ _ _ _ hbrightness, hsame _ _ _ _ hcolor,
    show (update.allowLightBrightnessChange || (o.applyUpdate update).emulateLightBrightness) =
      (o.applyUpdate update).emulateLightBrightness by
        rw [hemulate, ← Bool.or_assoc, Bool.or_self]]
  rfl

/-- Setting a value again, or leaving it alone again. -/
theorem ite_idempotent {α : Type} (c : Bool) (x y : α) :
    (if c then x else if c then x else y) = if c then x else y := by
  cases c <;> rfl

theorem flags_idempotent (h : j.val = 0 ∨ j.val = 1 ∨ j.val = 38) :
    ((o.applyUpdate update).applyUpdate update).state.get j =
      (o.applyUpdate update).state.get j := by
  apply ext_bit
  intro b
  obtain rfl | rfl | rfl : j = 0 ∨ j = 1 ∨ j = 38 := by
    simp only [Fin.ext_iff]
    exact h
  · rw [bit_flag0_applyUpdate, bit_flag0_applyUpdate]
    grind
  · rw [bit_flag1_applyUpdate, bit_flag1_applyUpdate]
    grind
  · rw [bit_flag2_applyUpdate, bit_flag2_applyUpdate]
    grind

theorem fields_idempotent
    (h : j.val = 4 ∨ j.val = 5 ∨ j.val = 6 ∨ j.val = 7 ∨ j.val = 9 ∨ j.val = 37 ∨ j.val = 42) :
    ((o.applyUpdate update).applyUpdate update).state.get j =
      (o.applyUpdate update).state.get j := by
  have hsettings := settings_idempotent o update
  have hcontrol := congrArg DsOutputState.audioControl hsettings
  have hpath := congrArg DsOutputState.audioOutputPath hsettings
  have hcontrol2 := congrArg DsOutputState.audioControl2 hsettings
  change ((o.applyUpdate update).applyUpdate update).audioControl =
    (o.applyUpdate update).audioControl at hcontrol
  change ((o.applyUpdate update).applyUpdate update).audioOutputPath =
    (o.applyUpdate update).audioOutputPath at hpath
  change ((o.applyUpdate update).applyUpdate update).audioControl2 =
    (o.applyUpdate update).audioControl2 at hcontrol2
  obtain rfl | rfl | rfl | rfl | rfl | rfl | rfl :
      j = 4 ∨ j = 5 ∨ j = 6 ∨ j = 7 ∨ j = 9 ∨ j = 37 ∨ j = 42 := by
    simp only [Fin.ext_iff]
    exact h
  · rw [headphoneVolume_applyUpdate, headphoneVolume_applyUpdate, ite_idempotent]
  · rw [speakerVolume_applyUpdate, speakerVolume_applyUpdate, ite_idempotent]
  · rw [micVolume_applyUpdate, micVolume_applyUpdate, ite_idempotent]
  · rw [audioControl_applyUpdate (o.applyUpdate update) update, hcontrol, hpath,
      audioControl_applyUpdate o update]
    split_ifs <;> rfl
  · rw [powerSave_applyUpdate, powerSave_applyUpdate, ite_idempotent]
  · rw [audioControl2_applyUpdate (o.applyUpdate update) update, hcontrol2,
      audioControl2_applyUpdate o update, ite_idempotent]
  · rw [brightness_applyUpdate, brightness_applyUpdate, ite_idempotent]

theorem led_idempotent (h : 44 ≤ j.val ∧ j.val < 47) :
    ((o.applyUpdate update).applyUpdate update).state.get j =
      (o.applyUpdate update).state.get j := by
  have hsettings := settings_idempotent o update
  have hemulate := congrArg DsOutputState.emulateLightBrightness hsettings
  have hcolor := congrArg DsOutputState.lightColor hsettings
  have hbrightness := congrArg DsOutputState.lightBrightness hsettings
  change ((o.applyUpdate update).applyUpdate update).emulateLightBrightness =
    (o.applyUpdate update).emulateLightBrightness at hemulate
  change ((o.applyUpdate update).applyUpdate update).lightColor =
    (o.applyUpdate update).lightColor at hcolor
  change ((o.applyUpdate update).applyUpdate update).lightBrightness =
    (o.applyUpdate update).lightBrightness at hbrightness
  rw [led_applyUpdate (o.applyUpdate update) update h, hemulate, hcolor, hbrightness,
    led_applyUpdate o update h]
  split_ifs <;> rfl

theorem copied_idempotent (h : 1 < j.val ∧ j.val ≠ 4 ∧ j.val ≠ 5 ∧ j.val ≠ 6 ∧ j.val ≠ 7 ∧
    j.val ≠ 9 ∧ j.val ≠ 37 ∧ j.val ≠ 38 ∧ (j.val < 42 ∨ j.val = 43 ∨ 47 ≤ j.val)) :
    ((o.applyUpdate update).applyUpdate update).state.get j =
      (o.applyUpdate update).state.get j := by
  rw [get_applyUpdate (o.applyUpdate update) update (by omega),
    get_applyControls (o.applyUpdate update) update (by omega), get_applyUpdate o update (by omega),
    get_applyControls o update (by omega)]
  split_ifs <;> rfl

/-- A report that is applied again changes nothing. -/
theorem applyUpdate_idempotent :
    (o.applyUpdate update).applyUpdate update = o.applyUpdate update := by
  have hstate : ((o.applyUpdate update).applyUpdate update).state =
      (o.applyUpdate update).state := by
    refine Vector.ext fun i hi => ?_
    let j : Fin kDsStateSize := ⟨i, hi⟩
    change Vector.get _ j = Vector.get _ j
    by_cases hflags : j.val = 0 ∨ j.val = 1 ∨ j.val = 38
    · exact flags_idempotent o update hflags
    by_cases hfields : j.val = 4 ∨ j.val = 5 ∨ j.val = 6 ∨ j.val = 7 ∨ j.val = 9 ∨ j.val = 37 ∨
        j.val = 42
    · exact fields_idempotent o update hfields
    by_cases hled : 44 ≤ j.val ∧ j.val < 47
    · exact led_idempotent o update hled
    · exact copied_idempotent o update (by omega)
  rw [eq_of_settings (settings_idempotent o update), hstate]

end Idempotence

/-- From every state that the operations reach, a report is idempotent, changes nothing when it
is not supported, and else changes only what it may change. -/
theorem framed_applyUsbOutputReport (operations : List Operation) (report : List UInt8) :
    let o := after operations
    let o' := perform o (.applyUsbOutputReport report)
    perform o' (.applyUsbOutputReport report) = o' ∧
    (o.applyUsbOutputReport report = none → o' = o) ∧
    ∀ update, DsOutputState.reportUpdate report = some update → ∀ (j : Fin kDsStateSize) (b : Nat),
      ¬ MayChange update j b → bit (o'.state.get j) b = bit (o.state.get j) b := by
  intro o o'
  refine ⟨?_, ?_, ?_⟩
  · simp only [o', perform, DsOutputState.applyUsbOutputReport]
    cases DsOutputState.reportUpdate report with
    | none => rfl
    | some update => exact applyUpdate_idempotent o update
  · intro hrejected
    simp only [o', perform, hrejected, Option.getD_none]
  · intro update hupdate j b hkeep
    simp only [o', perform, DsOutputState.applyUsbOutputReport, hupdate, Option.map_some,
      Option.getD_some]
    exact bit_applyUpdate_of_not_mayChange hkeep

/-- A brightness report keeps the player indicators between the brightness and the colour. -/
theorem framed_dimReport :
    DsOutputState.reportUpdate dimReport = some (Vector.ofFn fun i => dimReport.getD i.val 0) ∧
    bit ((perform (after []) (.applyUsbOutputReport dimReport)).state.get 43) 2 =
      bit ((after []).state.get 43) 2 := by
  refine ⟨rfl, (framed_applyUsbOutputReport [] dimReport).2.2 _ rfl 43 2 ?_⟩
  rintro (h | h | h | ⟨g, hg, h⟩ | h)
  · revert h
    decide
  · revert h
    decide
  · revert h
    decide
  · revert hg h
    unfold Group.Owns
    cases g <;> decide
  · revert h
    decide

end VirtualDualSense.Protocol.OutputFrame
