import VirtualDualSense.Protocol.OutputState

/-!
# Bytes of the output image

What each update of a host report writes: its flag bits, its field and, for some, the
settings behind them. Together the lemmas give every byte of the image and every setting
after a whole report.
-/

namespace VirtualDualSense.Protocol.OutputBytes

open Lib.Buffers OutputState

section Bits

variable {x y : UInt8} {b : Nat}

theorem bit_of_le (h : 8 ≤ b) : bit x b = false := by
  have hlt : x.toNat < 2 ^ b := Nat.lt_of_lt_of_le x.toNat_lt (Nat.pow_le_pow_right (by decide) h)
  exact Nat.testBit_lt_two_pow hlt

theorem ext_bit (h : ∀ b, bit x b = bit y b) : x = y :=
  UInt8.toNat_inj.mp (Nat.eq_of_testBit_eq h)

@[simp] theorem bit_or : bit (x ||| y) b = (bit x b || bit y b) := by
  simp [bit]

@[simp] theorem bit_and : bit (x &&& y) b = (bit x b && bit y b) := by
  simp [bit]

theorem bit_complement (h : b < 8) : bit (~~~ x) b = !bit x b := by
  have hx : x.toNat < 2 ^ 8 := x.toNat_lt
  rw [bit, UInt8.toNat_not, show UInt8.size - 1 - x.toNat = 2 ^ 8 - (x.toNat + 1) by
    simp only [UInt8.size]; omega, Nat.testBit_two_pow_sub_succ hx]
  simp [h, bit]

theorem bit_setStateBit {k : Nat} (hk : k < 8) (value : Bool) :
    bit (setStateBit x k value) b = if b = k then value else bit x b := by
  have hmask : ∀ b, bit (1 <<< k.toUInt8) b = decide (k = b) := by
    intro b
    have hpow : ∀ k : Fin 8, (1 <<< k.val.toUInt8 : UInt8).toNat = 2 ^ k.val := by decide
    rw [bit, hpow ⟨k, hk⟩, Nat.testBit_two_pow]
  by_cases hb : b < 8
  · rw [setStateBit, bit_or, bit_and, bit_complement hb, hmask]
    by_cases hbk : b = k
    · subst hbk
      cases value
      · simp [bit]
      · simp [hmask]
    · cases value
      · simp [hbk, Ne.symm hbk, bit]
      · simp [hbk, Ne.symm hbk, hmask]
  · have hne : b ≠ k := by omega
    rw [if_neg hne, bit_of_le (Nat.le_of_not_lt hb), bit_of_le (Nat.le_of_not_lt hb)]

end Bits

section Writes

variable {o : DsOutputState} {update : SetStateData} {i j : Fin kDsStateSize}

/-- The byte of a report at an offset of the image. -/
def byte (update : SetStateData) (j : Fin kDsStateSize) : UInt8 := update.toList.getD j.val 0

theorem byte_eq (h : j.val < kSetStateSize) : byte update j = update.get ⟨j.val, h⟩ := by
  rw [byte, List.getD_eq_getElem?_getD, getElem?_toList update ⟨j.val, h⟩]
  rfl

@[simp] theorem get_write (value : UInt8) :
    (o.write i value).state.get j = if j = i then value else o.state.get j := by
  rw [DsOutputState.write, get_put]
  simp only [eq_comm]

@[simp] theorem get_enable (mask : UInt8) :
    (o.enable i mask).state.get j = if j = i then o.state.get i ||| mask else o.state.get j :=
  get_write _

@[simp] theorem get_disable (mask : UInt8) :
    (o.disable i mask).state.get j = if j = i then o.state.get i &&& ~~~ mask else o.state.get j :=
  get_write _

theorem get_copyStateBytes {offset length : Nat} (h : offset + length ≤ kSetStateSize) :
    (o.copyStateBytes update offset length).state.get j =
      if offset ≤ j.val ∧ j.val < offset + length then byte update j else o.state.get j := by
  have hblock : ((update.toList.drop offset).take length).length = length := by
    simp
    omega
  split_ifs with hj
  · refine get_overwrite_of_inside o.state hj.1 ?_
    have hlt : j.val < kSetStateSize := Nat.lt_of_lt_of_le hj.2 h
    rw [List.getElem?_take_of_lt (by omega), List.getElem?_drop, Nat.add_sub_cancel' hj.1,
      getElem?_toList update ⟨j.val, hlt⟩, byte_eq hlt]
  · refine get_overwrite_of_outside o.state ?_
    rw [hblock]
    omega

end Writes

section Updates

variable (o : DsOutputState) (update : SetStateData) {j : Fin kDsStateSize}

theorem get_applyRumble (h : j.val ≠ 0 ∧ j.val ≠ 2 ∧ j.val ≠ 3 ∧ j.val ≠ 38) :
    (o.applyRumble update).state.get j = o.state.get j := by
  simp only [DsOutputState.applyRumble]
  split_ifs
  · rw [get_copyStateBytes (by decide), if_neg (by omega)]
    simp [Fin.ext_iff, kDsStateSize, h]
  · simp [Fin.ext_iff, kDsStateSize, h]

theorem get_applyHeadphoneVolume (h : j.val ≠ 0 ∧ j.val ≠ 4) :
    (o.applyHeadphoneVolume update).state.get j = o.state.get j := by
  simp only [DsOutputState.applyHeadphoneVolume]
  split_ifs
  · rw [get_copyStateBytes (by decide), if_neg (by omega)]
    simp [Fin.ext_iff, kDsStateSize, kOutputFlag0Offset, h]
  · rfl

theorem get_applySpeakerVolume (h : j.val ≠ 0 ∧ j.val ≠ 5) :
    (o.applySpeakerVolume update).state.get j = o.state.get j := by
  simp only [DsOutputState.applySpeakerVolume]
  split_ifs
  · rw [get_copyStateBytes (by decide), if_neg (by omega)]
    simp [Fin.ext_iff, kDsStateSize, kOutputFlag0Offset, h]
  · rfl

theorem get_applyMicVolume (h : j.val ≠ 0 ∧ j.val ≠ 6) :
    (o.applyMicVolume update).state.get j = o.state.get j := by
  simp only [DsOutputState.applyMicVolume]
  split_ifs
  · simp [Fin.ext_iff, kDsStateSize, kOutputFlag0Offset, kOutputMicVolumeOffset, h]
  · rfl

theorem get_applyMicSelect (h : j.val ≠ 0 ∧ j.val ≠ 7) :
    o.applyMicSelect.state.get j = o.state.get j := by
  simp [DsOutputState.applyMicSelect, Fin.ext_iff, kDsStateSize, kOutputFlag0Offset,
    kOutputAudioControlOffset, h]

theorem get_applyAudioControl (h : j.val ≠ 0 ∧ j.val ≠ 7) :
    (o.applyAudioControl update).state.get j = o.state.get j := by
  simp only [DsOutputState.applyAudioControl]
  split
  · rw [get_applyMicSelect _ h]
    simp [Fin.ext_iff, kDsStateSize, kOutputFlag0Offset, h]
  · rfl

theorem get_applyAudioControl2 (h : j.val ≠ 1 ∧ j.val ≠ 37) :
    (o.applyAudioControl2 update).state.get j = o.state.get j := by
  simp only [DsOutputState.applyAudioControl2]
  split_ifs
  · rw [get_copyStateBytes (by decide), if_neg (by omega)]
    simp [Fin.ext_iff, kDsStateSize, kOutputFlag1Offset, h]
  · rfl

theorem get_applyAudioMute (h : j.val ≠ 1 ∧ j.val ≠ 9) :
    (o.applyAudioMute update).state.get j = o.state.get j := by
  simp only [DsOutputState.applyAudioMute]
  split_ifs
  · simp [Fin.ext_iff, kDsStateSize, kOutputFlag1Offset, kOutputPowerSaveControlOffset, h]
  · rfl

theorem get_applySpeakerRoute (h : j.val ≠ 0 ∧ j.val ≠ 1 ∧ j.val ≠ 7 ∧ j.val ≠ 37) :
    (o.applySpeakerRoute update).state.get j = o.state.get j := by
  simp only [DsOutputState.applySpeakerRoute]
  split_ifs
  · simp [Fin.ext_iff, kDsStateSize, kOutputFlag0Offset, kOutputFlag1Offset,
      kOutputAudioControlOffset, kOutputAudioControl2Offset, h]
  · rfl

/-- The updates that copy one field write the field and nothing else. -/
theorem get_copyIfAllowed (allowed : Bool) {offset length : Nat}
    (hlength : offset + length ≤ kSetStateSize) :
    (o.copyIfAllowed allowed update offset length).state.get j =
      if allowed ∧ offset ≤ j.val ∧ j.val < offset + length then byte update j
      else o.state.get j := by
  cases allowed
  · simp [DsOutputState.copyIfAllowed]
  · simp [DsOutputState.copyIfAllowed, get_copyStateBytes hlength]

theorem get_copyIfAllowed_of_outside (allowed : Bool) {offset length : Nat}
    (hlength : offset + length ≤ kSetStateSize) (h : j.val < offset ∨ offset + length ≤ j.val) :
    (o.copyIfAllowed allowed update offset length).state.get j = o.state.get j := by
  rw [get_copyIfAllowed o update allowed hlength, if_neg (by omega)]

theorem get_applyLightBrightness (h : j.val ≠ 42) :
    (o.applyLightBrightness update).state.get j = o.state.get j := by
  simp only [DsOutputState.applyLightBrightness]
  split_ifs
  · change (o.copyStateBytes update 42 1).state.get j = _
    rw [get_copyStateBytes (by decide), if_neg (by omega)]
  · rfl

theorem get_applyLedColor (h : j.val < 44 ∨ 47 ≤ j.val) :
    (o.applyLedColor update).state.get j = o.state.get j := by
  simp only [DsOutputState.applyLedColor]
  split_ifs
  · change (o.copyStateBytes update 44 3).state.get j = _
    rw [get_copyStateBytes (by decide), if_neg (by omega)]
  · rfl

theorem get_applyLightScale (h : j.val < 44 ∨ 47 ≤ j.val) :
    (o.applyLightScale update).state.get j = o.state.get j := by
  have hne : ∀ i : Fin kDsStateSize, 44 ≤ i.val ∧ i.val < 47 → j ≠ i := by
    rintro i hi rfl
    omega
  simp only [DsOutputState.applyLightScale]
  split_ifs
  · simp [hne _ (show 44 ≤ kOutputLedColorOffset.val ∧ _ by decide),
      hne _ (show 44 ≤ (kOutputLedColorOffset + 1).val ∧ _ by decide),
      hne _ (show 44 ≤ (kOutputLedColorOffset + 2).val ∧ _ by decide)]
  · rfl

end Updates

section Settings

variable (o : DsOutputState) (update : SetStateData)

/-- The settings behind the image. -/
def settings (o : DsOutputState) : DsOutputState := { o with state := Vector.replicate _ 0 }

/-- The image is all that the settings leave out. -/
theorem eq_of_settings {o x : DsOutputState} (h : settings o = settings x) :
    o = { x with state := o.state } := by
  cases o
  cases x
  simp only [settings, DsOutputState.mk.injEq, true_and] at h
  simp [h]

/-- The non-path bits that a request leaves, with the microphone of the jack selected. -/
def requestedControl (o : DsOutputState) (update : SetStateData) : UInt8 :=
  let requestedNonPath := update.audioControl &&& kOutputAudioControlNonPathMask
  ((if requestedNonPath ≠ 0 then requestedNonPath else o.audioControl) &&&
    ~~~ kOutputMicSelectMask) |||
    if o.headsetMicPlugged then kOutputMicSelectAuto else kOutputMicSelectInternal

@[simp] theorem settings_write (i : Fin kDsStateSize) (value : UInt8) :
    settings (o.write i value) = settings o := by
  simp only [settings, DsOutputState.write]

@[simp] theorem settings_enable (i : Fin kDsStateSize) (mask : UInt8) :
    settings (o.enable i mask) = settings o := settings_write o i _

@[simp] theorem settings_copyStateBytes (offset length : Nat) :
    settings (o.copyStateBytes update offset length) = settings o := by
  simp only [settings, DsOutputState.copyStateBytes]

theorem settings_copyIfAllowed (allowed : Bool) (offset length : Nat) :
    settings (o.copyIfAllowed allowed update offset length) = settings o := by
  cases allowed <;> simp [DsOutputState.copyIfAllowed]

theorem settings_applyRumble : settings (o.applyRumble update) = settings o := by
  simp only [DsOutputState.applyRumble]
  split_ifs <;> simp

theorem settings_applyHeadphoneVolume : settings (o.applyHeadphoneVolume update) =
    { settings o with headphonesVolume :=
        if update.allowHeadphoneVolume then update.volumeHeadphones
        else (settings o).headphonesVolume } := by
  simp only [DsOutputState.applyHeadphoneVolume]
  split_ifs <;> simp [settings, DsOutputState.copyStateBytes, DsOutputState.enable,
    DsOutputState.write]

theorem settings_applySpeakerVolume : settings (o.applySpeakerVolume update) =
    { settings o with speakerVolume :=
        if update.allowSpeakerVolume then update.volumeSpeaker
        else (settings o).speakerVolume } := by
  simp only [DsOutputState.applySpeakerVolume]
  split_ifs <;> simp [settings, DsOutputState.copyStateBytes, DsOutputState.enable,
    DsOutputState.write]

theorem settings_applyMicVolume : settings (o.applyMicVolume update) =
    { settings o with micVolume :=
        if update.allowMicVolume then update.volumeMic else (settings o).micVolume } := by
  simp only [DsOutputState.applyMicVolume]
  split_ifs <;> simp [settings, DsOutputState.enable, DsOutputState.write]

theorem settings_applyAudioControl : settings (o.applyAudioControl update) =
    { settings o with
      audioControl := if update.allowAudioControl then requestedControl (settings o) update
        else (settings o).audioControl
      audioOutputPath := if update.allowAudioControl then update.audioControl &&& kOutputPathMask
        else (settings o).audioOutputPath } := by
  simp only [DsOutputState.applyAudioControl]
  split
  · simp only [settings, DsOutputState.applyMicSelect, DsOutputState.enable, DsOutputState.write,
      requestedControl]
    rfl
  · simp [settings]

theorem settings_applyAudioControl2 : settings (o.applyAudioControl2 update) =
    { settings o with audioControl2 :=
        if update.allowAudioControl2 then update.audioControl2
        else (settings o).audioControl2 } := by
  simp only [DsOutputState.applyAudioControl2]
  split_ifs <;> simp [settings, DsOutputState.copyStateBytes, DsOutputState.enable,
    DsOutputState.write]

theorem settings_applyAudioMute : settings (o.applyAudioMute update) =
    { settings o with powerSaveControl :=
        if update.allowAudioMute then update.powerSaveControl
        else (settings o).powerSaveControl } := by
  simp only [DsOutputState.applyAudioMute]
  split_ifs <;> simp [settings, DsOutputState.enable, DsOutputState.write]

theorem settings_applySpeakerRoute : settings (o.applySpeakerRoute update) = settings o := by
  simp only [DsOutputState.applySpeakerRoute]
  split_ifs <;> simp

theorem settings_applyLightBrightness : settings (o.applyLightBrightness update) =
    { settings o with
      lightBrightness := if update.allowLightBrightnessChange then update.lightBrightness
        else (settings o).lightBrightness
      emulateLightBrightness :=
        update.allowLightBrightnessChange || (settings o).emulateLightBrightness } := by
  simp only [DsOutputState.applyLightBrightness]
  split_ifs with h
  · simp [settings, DsOutputState.copyStateBytes, h]
  · simp [settings, h]

theorem settings_applyLedColor : settings (o.applyLedColor update) =
    { settings o with lightColor :=
        if update.allowLedColor then update.ledColor else (settings o).lightColor } := by
  simp only [DsOutputState.applyLedColor]
  split_ifs <;> simp [settings, DsOutputState.copyStateBytes]

theorem settings_applyLightScale : settings (o.applyLightScale update) = settings o := by
  simp only [DsOutputState.applyLightScale]
  split_ifs <;> simp

/-- The settings after a host report. -/
theorem settings_applyUpdate : settings (o.applyUpdate update) =
    { settings o with
      headphonesVolume :=
        if update.allowHeadphoneVolume then update.volumeHeadphones else o.headphonesVolume
      speakerVolume := if update.allowSpeakerVolume then update.volumeSpeaker else o.speakerVolume
      micVolume := if update.allowMicVolume then update.volumeMic else o.micVolume
      audioControl :=
        if update.allowAudioControl then requestedControl o update else o.audioControl
      audioOutputPath := if update.allowAudioControl then update.audioControl &&& kOutputPathMask
        else o.audioOutputPath
      audioControl2 := if update.allowAudioControl2 then update.audioControl2 else o.audioControl2
      powerSaveControl :=
        if update.allowAudioMute then update.powerSaveControl else o.powerSaveControl
      lightBrightness :=
        if update.allowLightBrightnessChange then update.lightBrightness else o.lightBrightness
      emulateLightBrightness := update.allowLightBrightnessChange || o.emulateLightBrightness
      lightColor := if update.allowLedColor then update.ledColor else o.lightColor } := by
  simp only [DsOutputState.applyUpdate, DsOutputState.applyMuteLight,
    DsOutputState.applyRightTrigger, DsOutputState.applyLeftTrigger, DsOutputState.applyLightFade,
    DsOutputState.applyPlayerIndicators, settings_copyIfAllowed, settings_applyRumble,
    settings_applyHeadphoneVolume, settings_applySpeakerVolume, settings_applyMicVolume,
    settings_applyAudioControl, settings_applyAudioControl2, settings_applyAudioMute,
    settings_applySpeakerRoute, settings_applyLightBrightness, settings_applyLedColor,
    settings_applyLightScale]
  rfl

/-- The volumes behind the image after a host report. -/
theorem volumes_applyUpdate :
    (o.applyUpdate update).headphonesVolume =
      (if update.allowHeadphoneVolume then update.volumeHeadphones else o.headphonesVolume) ∧
    (o.applyUpdate update).speakerVolume =
      (if update.allowSpeakerVolume then update.volumeSpeaker else o.speakerVolume) ∧
    (o.applyUpdate update).micVolume =
      if update.allowMicVolume then update.volumeMic else o.micVolume := by
  have h := settings_applyUpdate o update
  exact ⟨congrArg DsOutputState.headphonesVolume h, congrArg DsOutputState.speakerVolume h,
    congrArg DsOutputState.micVolume h⟩

theorem controls_applyUpdate :
    (o.applyUpdate update).audioControl =
      (if update.allowAudioControl then requestedControl o update else o.audioControl) ∧
    (o.applyUpdate update).audioOutputPath =
      (if update.allowAudioControl then update.audioControl &&& kOutputPathMask
      else o.audioOutputPath) ∧
    (o.applyUpdate update).audioControl2 =
      (if update.allowAudioControl2 then update.audioControl2 else o.audioControl2) ∧
    (o.applyUpdate update).powerSaveControl =
      if update.allowAudioMute then update.powerSaveControl else o.powerSaveControl := by
  have h := settings_applyUpdate o update
  exact ⟨congrArg DsOutputState.audioControl h, congrArg DsOutputState.audioOutputPath h,
    congrArg DsOutputState.audioControl2 h, congrArg DsOutputState.powerSaveControl h⟩

theorem light_applyUpdate :
    (o.applyUpdate update).lightBrightness =
      (if update.allowLightBrightnessChange then update.lightBrightness
      else o.lightBrightness) ∧
    (o.applyUpdate update).emulateLightBrightness =
      (update.allowLightBrightnessChange || o.emulateLightBrightness) ∧
    (o.applyUpdate update).lightColor =
      if update.allowLedColor then update.ledColor else o.lightColor := by
  have h := settings_applyUpdate o update
  exact ⟨congrArg DsOutputState.lightBrightness h, congrArg DsOutputState.emulateLightBrightness h,
    congrArg DsOutputState.lightColor h⟩

end Settings

section Flags

variable (o : DsOutputState) (update : SetStateData) {b : Nat}

/-- Every enable flag is one bit. -/
theorem bit_enables (b : Nat) :
    bit kOutputFlag0HeadphoneVolumeEnable b = decide (b = 4) ∧
    bit kOutputFlag0SpeakerVolumeEnable b = decide (b = 5) ∧
    bit kOutputFlag0MicVolumeEnable b = decide (b = 6) ∧
    bit kOutputFlag0AudioControlEnable b = decide (b = 7) ∧
    bit kOutputFlag1MicMuteLedControlEnable b = decide (b = 0) ∧
    bit kOutputFlag1PowerSaveControlEnable b = decide (b = 1) ∧
    bit kOutputFlag1AudioControl2Enable b = decide (b = 7) := by
  have hbit : ∀ (x : UInt8) (k : Nat), x.toNat = 2 ^ k → bit x b = decide (b = k) := by
    intro x k hx
    rw [bit, hx, Nat.testBit_two_pow]
    simp only [eq_comm]
  exact ⟨hbit _ 4 rfl, hbit _ 5 rfl, hbit _ 6 rfl, hbit _ 7 rfl, hbit _ 0 rfl, hbit _ 1 rfl,
    hbit _ 7 rfl⟩

theorem bit_ite_or (c : Bool) (x mask : UInt8) :
    bit (if c then x ||| mask else x) b = (bit x b || c && bit mask b) := by
  cases c <;> simp

/-- A nonzero speaker volume also routes the output to the speaker. -/
def routesSpeaker (update : SetStateData) : Bool :=
  update.allowSpeakerVolume && update.volumeSpeaker != 0

theorem applySpeakerRoute_eq : o.applySpeakerRoute update =
    if routesSpeaker update then
      (((o.enable kOutputFlag0Offset
        (kOutputFlag0AudioControlEnable ||| kOutputFlag0SpeakerVolumeEnable)).enable
          kOutputFlag1Offset kOutputFlag1AudioControl2Enable).write kOutputAudioControlOffset
            (audioControlWithOutputPath o.audioControl kOutputPathSpeaker)).write
              kOutputAudioControl2Offset o.audioControl2
    else o := rfl

theorem flag0_applyRumble : bit ((o.applyRumble update).state.get 0) b =
    if b = 0 then update.enableRumbleEmulation
    else if b = 1 then update.useRumbleNotHaptics else bit (o.state.get 0) b := by
  have hbits : bit ((o.applyRumble update).state.get 0) b =
      bit (setStateBit (setStateBit (o.state.get 0) 0 update.enableRumbleEmulation) 1
        update.useRumbleNotHaptics) b := by
    simp only [DsOutputState.applyRumble]
    split_ifs
    · rw [get_copyStateBytes (by decide), if_neg (by decide)]
      simp
    · simp
  rw [hbits, bit_setStateBit (by decide), bit_setStateBit (by decide)]
  split_ifs with h1 h0
  · omega
  · rfl
  · rfl
  · rfl

theorem flag0_applyHeadphoneVolume : (o.applyHeadphoneVolume update).state.get 0 =
    if update.allowHeadphoneVolume then o.state.get 0 ||| kOutputFlag0HeadphoneVolumeEnable
    else o.state.get 0 := by
  simp only [DsOutputState.applyHeadphoneVolume]
  split_ifs
  · rw [get_copyStateBytes (by decide), if_neg (by decide)]
    simp [kOutputFlag0Offset]
  · rfl

theorem flag0_applySpeakerVolume : (o.applySpeakerVolume update).state.get 0 =
    if update.allowSpeakerVolume then o.state.get 0 ||| kOutputFlag0SpeakerVolumeEnable
    else o.state.get 0 := by
  simp only [DsOutputState.applySpeakerVolume]
  split_ifs
  · rw [get_copyStateBytes (by decide), if_neg (by decide)]
    simp [kOutputFlag0Offset]
  · rfl

theorem flag0_applyMicVolume : (o.applyMicVolume update).state.get 0 =
    if update.allowMicVolume then o.state.get 0 ||| kOutputFlag0MicVolumeEnable
    else o.state.get 0 := by
  simp only [DsOutputState.applyMicVolume]
  split_ifs
  · simp [kOutputFlag0Offset, kOutputMicVolumeOffset]
  · rfl

theorem flag0_applyAudioControl : (o.applyAudioControl update).state.get 0 =
    if update.allowAudioControl then o.state.get 0 ||| kOutputFlag0AudioControlEnable
    else o.state.get 0 := by
  simp only [DsOutputState.applyAudioControl]
  split
  · simp [DsOutputState.applyMicSelect, kOutputFlag0Offset, kOutputAudioControlOffset,
      UInt8.or_assoc]
  · rfl

theorem flag0_applySpeakerRoute : (o.applySpeakerRoute update).state.get 0 =
    if routesSpeaker update then o.state.get 0 |||
      (kOutputFlag0AudioControlEnable ||| kOutputFlag0SpeakerVolumeEnable)
    else o.state.get 0 := by
  rw [applySpeakerRoute_eq]
  split_ifs
  · simp [kOutputFlag0Offset, kOutputFlag1Offset, kOutputAudioControlOffset,
      kOutputAudioControl2Offset]
  · rfl

theorem flag1_applyAudioControl2 : (o.applyAudioControl2 update).state.get 1 =
    if update.allowAudioControl2 then o.state.get 1 ||| kOutputFlag1AudioControl2Enable
    else o.state.get 1 := by
  simp only [DsOutputState.applyAudioControl2]
  split_ifs
  · rw [get_copyStateBytes (by decide), if_neg (by decide)]
    simp [kOutputFlag1Offset]
  · rfl

theorem flag1_applyAudioMute : (o.applyAudioMute update).state.get 1 =
    if update.allowAudioMute then o.state.get 1 ||| kOutputFlag1PowerSaveControlEnable
    else o.state.get 1 := by
  simp only [DsOutputState.applyAudioMute]
  split_ifs
  · simp [kOutputFlag1Offset, kOutputPowerSaveControlOffset]
  · rfl

theorem flag1_applySpeakerRoute : (o.applySpeakerRoute update).state.get 1 =
    if routesSpeaker update then o.state.get 1 ||| kOutputFlag1AudioControl2Enable
    else o.state.get 1 := by
  rw [applySpeakerRoute_eq]
  split_ifs
  · simp [kOutputFlag0Offset, kOutputFlag1Offset, kOutputAudioControlOffset,
      kOutputAudioControl2Offset]
  · rfl

/-- The updates before the speaker route. -/
def applyAudio : DsOutputState :=
  let o := (((o.applyRumble update).applyHeadphoneVolume update).applySpeakerVolume update)
  let o := (((o.applyMicVolume update).applyAudioControl update).applyAudioControl2 update)
  o.applyAudioMute update

/-- The updates up to the speaker route. The others copy single fields or set the light. -/
def applyControls : DsOutputState := (applyAudio o update).applySpeakerRoute update

/-- The fields that a host report copies as they are. -/
theorem get_applyUpdate {j : Fin kDsStateSize} (h : j.val < 42 ∨ j.val = 43 ∨ 47 ≤ j.val) :
    (o.applyUpdate update).state.get j =
      if update.allowPlayerIndicators ∧ j.val = 43 ∨
        update.allowColorLightFadeAnimation ∧ j.val = 41 ∨
        update.allowLeftTriggerFfb ∧ 21 ≤ j.val ∧ j.val < 32 ∨
        update.allowRightTriggerFfb ∧ 10 ≤ j.val ∧ j.val < 21 ∨
        update.allowMuteLight ∧ j.val = 8 then byte update j
      else (applyControls o update).state.get j := by
  rw [DsOutputState.applyUpdate, get_applyLightScale _ _ (by omega),
    get_applyLedColor _ _ (by omega), DsOutputState.applyPlayerIndicators,
    get_copyIfAllowed _ _ _ (by decide), get_applyLightBrightness _ _ (by omega),
    DsOutputState.applyLightFade, get_copyIfAllowed _ _ _ (by decide),
    DsOutputState.applyLeftTrigger, get_copyIfAllowed _ _ _ (by decide),
    DsOutputState.applyRightTrigger, get_copyIfAllowed _ _ _ (by decide),
    DsOutputState.applyMuteLight, get_copyIfAllowed _ _ _ (by decide), ← applyAudio,
    ← applyControls]
  simp only [Nat.reduceAdd, Nat.lt_succ_iff, ← ite_or, Nat.le_antisymm_iff, and_comm]

theorem get_applyUpdate_control {j : Fin kDsStateSize}
    (h : j.val < 8 ∨ j.val = 9 ∨ 32 ≤ j.val ∧ j.val < 41 ∨ 47 ≤ j.val) :
    (o.applyUpdate update).state.get j = (applyControls o update).state.get j := by
  rw [get_applyUpdate o update (by omega), if_neg (by omega)]

/-- The bits of the first flag byte after a host report. -/
theorem bit_flag0_applyUpdate : bit ((o.applyUpdate update).state.get 0) b =
    if b = 0 then update.enableRumbleEmulation
    else if b = 1 then update.useRumbleNotHaptics
    else bit (o.state.get 0) b || update.allowHeadphoneVolume && decide (b = 4) ||
      update.allowSpeakerVolume && decide (b = 5) || update.allowMicVolume && decide (b = 6) ||
      (update.allowAudioControl || routesSpeaker update) && decide (b = 7) := by
  rw [get_applyUpdate_control o update (.inl (by decide)), applyControls, flag0_applySpeakerRoute,
    bit_ite_or, applyAudio, get_applyAudioMute _ _ (by decide),
    get_applyAudioControl2 _ _ (by decide), flag0_applyAudioControl, bit_ite_or,
    flag0_applyMicVolume, bit_ite_or, flag0_applySpeakerVolume, bit_ite_or,
    flag0_applyHeadphoneVolume, bit_ite_or, flag0_applyRumble]
  obtain ⟨hheadphone, hspeaker, hmic, hcontrol, -⟩ := bit_enables b
  simp only [bit_or, hheadphone, hspeaker, hmic, hcontrol]
  split_ifs with h0 h1
  · simp [h0]
  · simp [h1]
  · cases hallow : update.allowSpeakerVolume
    · simp [routesSpeaker, hallow]
    · simp [routesSpeaker, hallow]
      grind

/-- The bits of the second flag byte after a host report. -/
theorem bit_flag1_applyUpdate : bit ((o.applyUpdate update).state.get 1) b =
    (bit (o.state.get 1) b || update.allowAudioMute && decide (b = 1) ||
      (update.allowAudioControl2 || routesSpeaker update) && decide (b = 7)) := by
  rw [get_applyUpdate_control o update (.inl (by decide)), applyControls, flag1_applySpeakerRoute,
    bit_ite_or, applyAudio, flag1_applyAudioMute, bit_ite_or, flag1_applyAudioControl2, bit_ite_or,
    get_applyAudioControl _ _ (by decide), get_applyMicVolume _ _ (by decide),
    get_applySpeakerVolume _ _ (by decide), get_applyHeadphoneVolume _ _ (by decide),
    get_applyRumble _ _ (by decide)]
  obtain ⟨-, -, -, -, -, hpowerSave, hcontrol2⟩ := bit_enables b
  rw [hpowerSave, hcontrol2]
  grind

theorem bit_flag2_applyUpdate : bit ((o.applyUpdate update).state.get 38) b =
    if b = 2 then update.enableImprovedRumbleEmulation else bit (o.state.get 38) b := by
  have hrumble : (o.applyRumble update).state.get 38 =
      setStateBit (o.state.get 38) 2 update.enableImprovedRumbleEmulation := by
    simp only [DsOutputState.applyRumble]
    split_ifs
    · rw [get_copyStateBytes (by decide), if_neg (by decide)]
      simp
    · simp
  rw [get_applyUpdate_control o update (by decide), applyControls,
    get_applySpeakerRoute _ _ (by decide), applyAudio, get_applyAudioMute _ _ (by decide),
    get_applyAudioControl2 _ _ (by decide), get_applyAudioControl _ _ (by decide),
    get_applyMicVolume _ _ (by decide), get_applySpeakerVolume _ _ (by decide),
    get_applyHeadphoneVolume _ _ (by decide), hrumble, bit_setStateBit (by decide)]

end Flags

section Fields

variable (o : DsOutputState) (update : SetStateData) {j : Fin kDsStateSize}

/-- A field without a setting behind it. -/
theorem get_applyControls (h : 1 < j.val ∧ j.val ≠ 4 ∧ j.val ≠ 5 ∧ j.val ≠ 6 ∧ j.val ≠ 7 ∧
    j.val ≠ 9 ∧ j.val ≠ 37 ∧ j.val ≠ 38) : (applyControls o update).state.get j =
      if (update.useRumbleNotHaptics || update.enableRumbleEmulation) ∧ j.val < 4 then byte update j
      else o.state.get j := by
  rw [applyControls, get_applySpeakerRoute _ _ (by omega), applyAudio,
    get_applyAudioMute _ _ (by omega), get_applyAudioControl2 _ _ (by omega),
    get_applyAudioControl _ _ (by omega), get_applyMicVolume _ _ (by omega),
    get_applySpeakerVolume _ _ (by omega), get_applyHeadphoneVolume _ _ (by omega)]
  by_cases hj : j.val < 4
  · have hne : ∀ i : Fin kDsStateSize, i.val = 0 ∨ i.val = 38 → j ≠ i := by
      rintro i hi rfl
      omega
    simp only [DsOutputState.applyRumble, hj, and_true]
    split_ifs
    · rw [get_copyStateBytes (by decide), if_pos (by omega)]
    · rw [get_write, if_neg (hne 38 (by decide)), get_write, if_neg (hne 0 (by decide)), get_write,
        if_neg (hne 0 (by decide))]
  · rw [get_applyRumble _ _ (by omega), if_neg (by omega)]

theorem headphoneVolume_applyUpdate : (o.applyUpdate update).state.get 4 =
    if update.allowHeadphoneVolume then update.volumeHeadphones else o.state.get 4 := by
  rw [get_applyUpdate_control o update (by decide), applyControls,
    get_applySpeakerRoute _ _ (by decide), applyAudio, get_applyAudioMute _ _ (by decide),
    get_applyAudioControl2 _ _ (by decide), get_applyAudioControl _ _ (by decide),
    get_applyMicVolume _ _ (by decide), get_applySpeakerVolume _ _ (by decide)]
  simp only [DsOutputState.applyHeadphoneVolume]
  split_ifs
  · rw [get_copyStateBytes (by decide), if_pos (by decide), byte_eq (by decide)]
    rfl
  · rw [get_applyRumble _ _ (by decide)]

theorem speakerVolume_applyUpdate : (o.applyUpdate update).state.get 5 =
    if update.allowSpeakerVolume then update.volumeSpeaker else o.state.get 5 := by
  rw [get_applyUpdate_control o update (by decide), applyControls,
    get_applySpeakerRoute _ _ (by decide), applyAudio, get_applyAudioMute _ _ (by decide),
    get_applyAudioControl2 _ _ (by decide), get_applyAudioControl _ _ (by decide),
    get_applyMicVolume _ _ (by decide)]
  simp only [DsOutputState.applySpeakerVolume]
  split_ifs
  · rw [get_copyStateBytes (by decide), if_pos (by decide), byte_eq (by decide)]
    rfl
  · rw [get_applyHeadphoneVolume _ _ (by decide), get_applyRumble _ _ (by decide)]

theorem micVolume_applyUpdate : (o.applyUpdate update).state.get 6 =
    if update.allowMicVolume then update.volumeMic else o.state.get 6 := by
  rw [get_applyUpdate_control o update (by decide), applyControls,
    get_applySpeakerRoute _ _ (by decide), applyAudio, get_applyAudioMute _ _ (by decide),
    get_applyAudioControl2 _ _ (by decide), get_applyAudioControl _ _ (by decide)]
  simp only [DsOutputState.applyMicVolume]
  split_ifs
  · simp [kOutputMicVolumeOffset]
  · rw [get_applySpeakerVolume _ _ (by decide), get_applyHeadphoneVolume _ _ (by decide),
      get_applyRumble _ _ (by decide)]

theorem settings_applyAudio : settings (applyAudio o update) =
    { settings o with
      headphonesVolume := (o.applyUpdate update).headphonesVolume
      speakerVolume := (o.applyUpdate update).speakerVolume
      micVolume := (o.applyUpdate update).micVolume
      audioControl := (o.applyUpdate update).audioControl
      audioOutputPath := (o.applyUpdate update).audioOutputPath
      audioControl2 := (o.applyUpdate update).audioControl2
      powerSaveControl := (o.applyUpdate update).powerSaveControl } := by
  have hproj : ∀ o : DsOutputState, o.headphonesVolume = (settings o).headphonesVolume ∧
      o.speakerVolume = (settings o).speakerVolume ∧ o.micVolume = (settings o).micVolume ∧
      o.audioControl = (settings o).audioControl ∧
      o.audioOutputPath = (settings o).audioOutputPath ∧
      o.audioControl2 = (settings o).audioControl2 ∧
      o.powerSaveControl = (settings o).powerSaveControl :=
    fun o => ⟨rfl, rfl, rfl, rfl, rfl, rfl, rfl⟩
  obtain ⟨h1, h2, h3, h4, h5, h6, h7⟩ := hproj (o.applyUpdate update)
  rw [h1, h2, h3, h4, h5, h6, h7, settings_applyUpdate]
  simp only [applyAudio, settings_applyRumble,
    settings_applyHeadphoneVolume, settings_applySpeakerVolume, settings_applyMicVolume,
    settings_applyAudioControl, settings_applyAudioControl2, settings_applyAudioMute]
  rfl

theorem control_applyAudioControl {o : DsOutputState} {update : SetStateData}
    (h : update.allowAudioControl = true) : (o.applyAudioControl update).state.get 7 =
      audioControlWithOutputPath (o.applyAudioControl update).audioControl
        (o.applyAudioControl update).audioOutputPath := by
  rw [DsOutputState.applyAudioControl, if_pos h]
  simp [DsOutputState.applyMicSelect, DsOutputState.write, kOutputAudioControlOffset]
  rfl

/-- The audio-control byte is made of the settings. -/
theorem audioControl_applyUpdate : (o.applyUpdate update).state.get 7 =
    if routesSpeaker update then
      audioControlWithOutputPath (o.applyUpdate update).audioControl kOutputPathSpeaker
    else if update.allowAudioControl then
      audioControlWithOutputPath (o.applyUpdate update).audioControl
        (o.applyUpdate update).audioOutputPath
    else o.state.get 7 := by
  have hcontrol := congrArg DsOutputState.audioControl (settings_applyAudio o update)
  have hpath := congrArg DsOutputState.audioOutputPath (settings_applyAudio o update)
  change (applyAudio o update).audioControl = (o.applyUpdate update).audioControl at hcontrol
  change (applyAudio o update).audioOutputPath = (o.applyUpdate update).audioOutputPath at hpath
  -- the updates of the other audio settings keep these two
  have hkeeps : ∀ x : DsOutputState,
      ((x.applyAudioControl2 update).applyAudioMute update).audioControl = x.audioControl ∧
      ((x.applyAudioControl2 update).applyAudioMute update).audioOutputPath =
        x.audioOutputPath := by
    intro x
    have hmute := settings_applyAudioMute (x.applyAudioControl2 update) update
    rw [settings_applyAudioControl2] at hmute
    have hcontrol := congrArg DsOutputState.audioControl hmute
    have hpath := congrArg DsOutputState.audioOutputPath hmute
    exact ⟨hcontrol, hpath⟩
  rw [get_applyUpdate_control o update (by decide), applyControls, applySpeakerRoute_eq]
  split_ifs with hroute hallow
  · simp [kOutputAudioControlOffset, kOutputAudioControl2Offset, hcontrol]
  · rw [← hcontrol, ← hpath, applyAudio, get_applyAudioMute _ _ (by decide),
      get_applyAudioControl2 _ _ (by decide), control_applyAudioControl hallow, (hkeeps _).1,
      (hkeeps _).2]
  · rw [applyAudio, get_applyAudioMute _ _ (by decide), get_applyAudioControl2 _ _ (by decide),
      DsOutputState.applyAudioControl, if_neg hallow, get_applyMicVolume _ _ (by decide),
      get_applySpeakerVolume _ _ (by decide), get_applyHeadphoneVolume _ _ (by decide),
      get_applyRumble _ _ (by decide)]

theorem powerSave_applyUpdate : (o.applyUpdate update).state.get 9 =
    if update.allowAudioMute then update.powerSaveControl else o.state.get 9 := by
  rw [get_applyUpdate_control o update (by decide), applyControls,
    get_applySpeakerRoute _ _ (by decide), applyAudio]
  simp only [DsOutputState.applyAudioMute]
  split_ifs
  · simp [kOutputPowerSaveControlOffset]
  · rw [get_applyAudioControl2 _ _ (by decide), get_applyAudioControl _ _ (by decide),
      get_applyMicVolume _ _ (by decide), get_applySpeakerVolume _ _ (by decide),
      get_applyHeadphoneVolume _ _ (by decide), get_applyRumble _ _ (by decide)]

theorem audioControl2_applyUpdate : (o.applyUpdate update).state.get 37 =
    if update.allowAudioControl2 || routesSpeaker update then (o.applyUpdate update).audioControl2
    else o.state.get 37 := by
  have hstage := congrArg DsOutputState.audioControl2 (settings_applyAudio o update)
  have hfinal := congrArg DsOutputState.audioControl2 (settings_applyUpdate o update)
  change (applyAudio o update).audioControl2 = (o.applyUpdate update).audioControl2 at hstage
  change (o.applyUpdate update).audioControl2 = _ at hfinal
  rw [get_applyUpdate_control o update (by decide), applyControls, applySpeakerRoute_eq]
  by_cases hroute : routesSpeaker update = true
  · simp [hroute, kOutputAudioControl2Offset, hstage]
  · rw [if_neg hroute, applyAudio, get_applyAudioMute _ _ (by decide)]
    simp only [DsOutputState.applyAudioControl2]
    split_ifs with hallow hallows hallows
    · rw [get_copyStateBytes (by decide), if_pos (by decide), byte_eq (by decide), hfinal,
        if_pos hallow]
      rfl
    · simp [hallow] at hallows
    · simp [hallow, hroute] at hallows
    · rw [get_applyAudioControl _ _ (by decide), get_applyMicVolume _ _ (by decide),
        get_applySpeakerVolume _ _ (by decide), get_applyHeadphoneVolume _ _ (by decide),
        get_applyRumble _ _ (by decide)]

/-- The updates before the light is scaled. -/
def applyColor : DsOutputState :=
  let o := ((applyControls o update).applyMuteLight update).applyRightTrigger update
  let o := ((o.applyLeftTrigger update).applyLightFade update).applyLightBrightness update
  (o.applyPlayerIndicators update).applyLedColor update

theorem applyUpdate_eq : o.applyUpdate update = (applyColor o update).applyLightScale update := rfl

/-- The bytes of the light before the updates that set it. -/
theorem get_light (h : j.val = 42 ∨ 44 ≤ j.val ∧ j.val < 47) :
    (((applyControls o update).applyMuteLight update).applyRightTrigger update |>.applyLeftTrigger
      update |>.applyLightFade update).state.get j = o.state.get j := by
  rw [DsOutputState.applyLightFade, get_copyIfAllowed_of_outside _ _ _ (by decide) (by omega),
    DsOutputState.applyLeftTrigger, get_copyIfAllowed_of_outside _ _ _ (by decide) (by omega),
    DsOutputState.applyRightTrigger, get_copyIfAllowed_of_outside _ _ _ (by decide) (by omega),
    DsOutputState.applyMuteLight, get_copyIfAllowed_of_outside _ _ _ (by decide) (by omega),
    get_applyControls _ _ (by omega), if_neg (by omega)]

theorem brightness_applyLightBrightness : (o.applyLightBrightness update).state.get 42 =
    if update.allowLightBrightnessChange then update.lightBrightness else o.state.get 42 := by
  simp only [DsOutputState.applyLightBrightness]
  split_ifs
  · change (o.copyStateBytes update 42 1).state.get 42 = _
    rw [get_copyStateBytes (by decide), if_pos (by decide), byte_eq (by decide)]
    rfl
  · rfl

theorem brightness_applyUpdate : (o.applyUpdate update).state.get 42 =
    if update.allowLightBrightnessChange then update.lightBrightness else o.state.get 42 := by
  rw [applyUpdate_eq, get_applyLightScale _ _ (by decide), applyColor,
    get_applyLedColor _ _ (by decide), DsOutputState.applyPlayerIndicators,
    get_copyIfAllowed_of_outside _ _ _ (by decide) (by decide),
    brightness_applyLightBrightness, get_light o update (.inl rfl)]

/-- The component of a colour at an offset of the light. -/
def component (color : UInt8 × UInt8 × UInt8) (j : Fin kDsStateSize) : UInt8 :=
  if j.val = 44 then color.1 else if j.val = 45 then color.2.1 else color.2.2

theorem led_applyLedColor (h : 44 ≤ j.val ∧ j.val < 47) : (o.applyLedColor update).state.get j =
    if update.allowLedColor then component update.ledColor j else o.state.get j := by
  simp only [DsOutputState.applyLedColor]
  split_ifs
  · change (o.copyStateBytes update 44 3).state.get j = _
    rw [get_copyStateBytes (by decide), if_pos h, byte_eq (Nat.lt_of_lt_of_le h.2 (by decide))]
    obtain hj | hj | hj : j.val = 44 ∨ j.val = 45 ∨ j.val = 46 := by omega
    · simp only [component, hj, if_true]
      rfl
    · simp only [component, hj]
      rfl
    · simp only [component, hj]
      rfl
  · rfl

theorem led_applyLightScale (h : 44 ≤ j.val ∧ j.val < 47) : (o.applyLightScale update).state.get j =
    if o.emulateLightBrightness && (update.allowLightBrightnessChange || update.allowLedColor) then
      scaleLightComponent (component o.lightColor j) o.lightBrightness
    else o.state.get j := by
  simp only [DsOutputState.applyLightScale]
  split_ifs
  · obtain rfl | rfl | rfl : j = kOutputLedColorOffset ∨ j = kOutputLedColorOffset + 1 ∨
        j = kOutputLedColorOffset + 2 := by
      simp only [Fin.ext_iff]
      change j.val = 44 ∨ j.val = 45 ∨ j.val = 46
      omega
    · simp [kOutputLedColorOffset, component, DsOutputState.write]
    · simp [kOutputLedColorOffset, component, DsOutputState.write, kDsStateSize]
    · simp [kOutputLedColorOffset, component, DsOutputState.write, kDsStateSize]
  · rfl

/-- The colour is scaled when a brightness was ever set. -/
theorem led_applyUpdate (h : 44 ≤ j.val ∧ j.val < 47) : (o.applyUpdate update).state.get j =
    if (o.applyUpdate update).emulateLightBrightness &&
      (update.allowLightBrightnessChange || update.allowLedColor) then
      scaleLightComponent (component (o.applyUpdate update).lightColor j)
        (o.applyUpdate update).lightBrightness
    else if update.allowLedColor then component update.ledColor j else o.state.get j := by
  have hscale := settings_applyLightScale (applyColor o update) update
  have hemulate := congrArg DsOutputState.emulateLightBrightness hscale
  have hcolor := congrArg DsOutputState.lightColor hscale
  have hbrightness := congrArg DsOutputState.lightBrightness hscale
  change (o.applyUpdate update).emulateLightBrightness = _ at hemulate
  change (o.applyUpdate update).lightColor = _ at hcolor
  change (o.applyUpdate update).lightBrightness = _ at hbrightness
  have hunscaled : (applyColor o update).state.get j =
      if update.allowLedColor then component update.ledColor j else o.state.get j := by
    rw [applyColor, led_applyLedColor _ _ h, DsOutputState.applyPlayerIndicators,
      get_copyIfAllowed_of_outside _ _ _ (by decide) (by omega),
      get_applyLightBrightness _ _ (by omega), get_light o update (.inr h)]
  rw [hemulate, hcolor, hbrightness, applyUpdate_eq, led_applyLightScale _ _ h, hunscaled]
  rfl

end Fields

section Routes

variable (o : DsOutputState) {j : Fin kDsStateSize} {b : Nat}

/-- The stream plays on the speaker of the controller. -/
def playsSpeaker (active headsetPlugged : Bool) : Bool := active && !headsetPlugged

theorem setAudioOutStreamActive_eq (active headsetPlugged : Bool) :
    o.setAudioOutStreamActive active headsetPlugged =
      let started := (o.enable kOutputFlag0Offset kOutputFlag0AudioControlEnable).write
        kOutputHeadphoneVolumeOffset o.headphonesVolume
      if playsSpeaker active headsetPlugged then
        { (((started.enable kOutputFlag0Offset kOutputFlag0SpeakerVolumeEnable).enable
          kOutputFlag1Offset kOutputFlag1AudioControl2Enable).write
            kOutputSpeakerVolumeOffset o.speakerVolume).write
              kOutputAudioControl2Offset o.audioControl2 with
          audioOutputPath := kOutputPathSpeaker }.write kOutputAudioControlOffset
            (audioControlWithOutputPath o.audioControl kOutputPathSpeaker)
      else
        { ((((if active then started.enable kOutputFlag0Offset kOutputFlag0HeadphoneVolumeEnable
          else started).disable kOutputFlag0Offset kOutputFlag0SpeakerVolumeEnable).disable
            kOutputFlag1Offset kOutputFlag1AudioControl2Enable).write
              kOutputSpeakerVolumeOffset 0).write kOutputAudioControl2Offset 0 with
          audioOutputPath := kOutputPathHeadphones }.write kOutputAudioControlOffset
            (audioControlWithOutputPath o.audioControl kOutputPathHeadphones) := by
  cases active <;> cases headsetPlugged <;> rfl

theorem settings_setAudioOutStreamActive (active headsetPlugged : Bool) :
    settings (o.setAudioOutStreamActive active headsetPlugged) =
      settings { o with audioOutputPath :=
          if playsSpeaker active headsetPlugged then kOutputPathSpeaker
          else kOutputPathHeadphones } := by
  rw [setAudioOutStreamActive_eq]
  cases active <;> cases headsetPlugged <;>
    simp [playsSpeaker, settings, DsOutputState.write, DsOutputState.enable, DsOutputState.disable]

theorem get_setAudioOutStreamActive (active headsetPlugged : Bool)
    (h : 1 < j.val ∧ j.val ≠ 4 ∧ j.val ≠ 5 ∧ j.val ≠ 7 ∧ j.val ≠ 37) :
    (o.setAudioOutStreamActive active headsetPlugged).state.get j = o.state.get j := by
  have hne : j ≠ kOutputFlag0Offset ∧ j ≠ kOutputFlag1Offset ∧ j ≠ kOutputHeadphoneVolumeOffset ∧
      j ≠ kOutputSpeakerVolumeOffset ∧ j ≠ kOutputAudioControlOffset ∧
      j ≠ kOutputAudioControl2Offset := by
    refine ⟨?_, ?_, ?_, ?_, ?_, ?_⟩ <;>
    · rintro rfl
      revert h
      decide
  rw [setAudioOutStreamActive_eq]
  cases active <;> cases headsetPlugged <;> simp [playsSpeaker, hne]

theorem values_setAudioOutStreamActive (active headsetPlugged : Bool) :
    let o' := o.setAudioOutStreamActive active headsetPlugged
    let speaker := playsSpeaker active headsetPlugged
    o'.state.get 4 = o.headphonesVolume ∧
    o'.state.get 5 = (if speaker then o.speakerVolume else 0) ∧
    o'.state.get 7 = audioControlWithOutputPath o.audioControl
      (if speaker then kOutputPathSpeaker else kOutputPathHeadphones) ∧
    o'.state.get 37 = if speaker then o.audioControl2 else 0 := by
  rw [setAudioOutStreamActive_eq]
  cases active <;> cases headsetPlugged <;>
    simp [playsSpeaker, kOutputFlag0Offset, kOutputFlag1Offset, kOutputHeadphoneVolumeOffset,
      kOutputSpeakerVolumeOffset, kOutputAudioControlOffset, kOutputAudioControl2Offset]

/-- The flags that follow the route are set, the others stay. -/
theorem flags_setAudioOutStreamActive (active headsetPlugged : Bool) (hb : b < 8) :
    let o' := o.setAudioOutStreamActive active headsetPlugged
    let speaker := playsSpeaker active headsetPlugged
    bit (o'.state.get 0) b = (if b = 5 then speaker
      else bit (o.state.get 0) b || decide (b = 7) || active && headsetPlugged && decide (b = 4)) ∧
    bit (o'.state.get 1) b = if b = 7 then speaker else bit (o.state.get 1) b := by
  obtain ⟨hheadphone, hspeaker, -, hcontrol, -, -, hcontrol2⟩ := bit_enables b
  rw [setAudioOutStreamActive_eq]
  cases active <;> cases headsetPlugged <;>
    simp [playsSpeaker, kOutputFlag0Offset, kOutputFlag1Offset, kOutputHeadphoneVolumeOffset,
      kOutputSpeakerVolumeOffset, kOutputAudioControlOffset, kOutputAudioControl2Offset,
      bit_complement hb, hheadphone, hspeaker, hcontrol, hcontrol2]
  all_goals grind

end Routes

section Microphone

variable (o : DsOutputState) {j : Fin kDsStateSize} {b : Nat}

/-- The audio control with the microphone of the jack selected. -/
def selectedControl (o : DsOutputState) (plugged : Bool) : UInt8 :=
  (o.audioControl &&& ~~~ kOutputMicSelectMask) |||
    if plugged then kOutputMicSelectAuto else kOutputMicSelectInternal

theorem settings_setHeadsetMicPlugged (plugged : Bool) :
    settings (o.setHeadsetMicPlugged plugged) =
      settings { o with
        headsetMicPlugged := plugged
        audioControl := selectedControl o plugged } := by
  simp only [DsOutputState.setHeadsetMicPlugged, DsOutputState.applyMicSelect, settings,
    DsOutputState.write, DsOutputState.enable, selectedControl]
  rfl

theorem get_setHeadsetMicPlugged (plugged : Bool)
    (h : j.val ≠ 0 ∧ j.val ≠ 6 ∧ j.val ≠ 7) :
    (o.setHeadsetMicPlugged plugged).state.get j = o.state.get j := by
  simp only [DsOutputState.setHeadsetMicPlugged]
  rw [get_applyMicSelect _ ⟨h.1, h.2.2⟩]
  simp [Fin.ext_iff, kDsStateSize, kOutputFlag0Offset, kOutputMicVolumeOffset, h]

theorem values_setHeadsetMicPlugged (plugged : Bool) :
    (o.setHeadsetMicPlugged plugged).state.get 6 = o.micVolume ∧
    (o.setHeadsetMicPlugged plugged).state.get 7 =
      audioControlWithOutputPath (selectedControl o plugged) o.audioOutputPath := by
  simp [DsOutputState.setHeadsetMicPlugged, DsOutputState.applyMicSelect, selectedControl,
    DsOutputState.write, DsOutputState.enable, kOutputMicVolumeOffset, kOutputAudioControlOffset,
    kOutputFlag0Offset]
  rfl

theorem flag0_setHeadsetMicPlugged (plugged : Bool) :
    bit ((o.setHeadsetMicPlugged plugged).state.get 0) b =
      (bit (o.state.get 0) b || decide (b = 6) || decide (b = 7)) := by
  obtain ⟨-, -, hmic, hcontrol, -⟩ := bit_enables b
  simp [DsOutputState.setHeadsetMicPlugged, DsOutputState.applyMicSelect,
    kOutputMicVolumeOffset, kOutputAudioControlOffset, kOutputFlag0Offset, hmic, hcontrol]
  grind

theorem settings_applyMicState (active muted : Bool) :
    settings (o.applyMicState active muted) = settings o := by
  simp only [DsOutputState.applyMicState, settings, DsOutputState.write, DsOutputState.enable]

theorem get_applyMicState (active muted : Bool) (h : 1 < j.val ∧ j.val ≠ 6 ∧ j.val ≠ 7 ∧
    j.val ≠ 8 ∧ j.val ≠ 9 ∧ j.val ≠ 37) :
    (o.applyMicState active muted).state.get j = o.state.get j := by
  have hne : j ≠ kOutputFlag0Offset ∧ j ≠ kOutputFlag1Offset ∧ j ≠ kOutputMicVolumeOffset ∧
      j ≠ kOutputAudioControlOffset ∧ j ≠ kOutputMuteLedOffset ∧
      j ≠ kOutputPowerSaveControlOffset ∧ j ≠ kOutputAudioControl2Offset := by
    refine ⟨?_, ?_, ?_, ?_, ?_, ?_, ?_⟩ <;>
    · rintro rfl
      revert h
      decide
  simp [DsOutputState.applyMicState, hne]

theorem values_applyMicState (active muted : Bool) :
    let o' := o.applyMicState active muted
    o'.state.get 6 = (if active && !muted then o.micVolume else 0) ∧
    o'.state.get 7 = audioControlWithOutputPath o.audioControl o.audioOutputPath ∧
    o'.state.get 9 = o.micPowerSaveControl active muted ∧
    o'.state.get 37 = o.audioControl2 := by
  simp [DsOutputState.applyMicState, DsOutputState.write, DsOutputState.enable,
    kOutputFlag0Offset, kOutputFlag1Offset, kOutputMicVolumeOffset, kOutputAudioControlOffset,
    kOutputMuteLedOffset, kOutputPowerSaveControlOffset, kOutputAudioControl2Offset]

theorem flags_applyMicState (active muted : Bool) :
    let o' := o.applyMicState active muted
    bit (o'.state.get 0) b = (bit (o.state.get 0) b || decide (b = 6) || decide (b = 7)) ∧
    bit (o'.state.get 1) b =
      (bit (o.state.get 1) b || decide (b = 0) || decide (b = 1) || decide (b = 7)) := by
  obtain ⟨-, -, hmic, hcontrol, hled, hpowerSave, hcontrol2⟩ := bit_enables b
  simp [DsOutputState.applyMicState, kOutputFlag0Offset, kOutputFlag1Offset, kOutputMicVolumeOffset,
    kOutputAudioControlOffset, kOutputMuteLedOffset, kOutputPowerSaveControlOffset,
    kOutputAudioControl2Offset, hmic, hcontrol, hled, hpowerSave, hcontrol2, Bool.or_assoc]

end Microphone

end VirtualDualSense.Protocol.OutputBytes
