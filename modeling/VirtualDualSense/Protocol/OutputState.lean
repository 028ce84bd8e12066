import VirtualDualSense.Protocol.Checksum
import VirtualDualSense.Protocol.PcmAudioExtractor

/-!
# Output state of the controller

The bridge keeps one image of the controller's output state. Host reports,
audio routing and the microphone write parts of it, and the Bluetooth reports
carry it to the controller: whole in the state, init and audio reports, in part
in the microphone state report.
-/

namespace VirtualDualSense.Protocol.OutputState

open Lib.Buffers Checksum PcmAudioExtractor

abbrev kDsStateSize : Nat := 63

instance : NeZero kDsStateSize := ⟨by decide⟩

abbrev kSetStateSize : Nat := 47
abbrev kBtStateReportSize : Nat := 78
abbrev kBtInitReportSize : Nat := 142
abbrev kBtHapticsReportSize : Nat := 398

abbrev DsState := Vector UInt8 kDsStateSize
abbrev BtStateReport := Vector UInt8 kBtStateReportSize
abbrev BtInitReport := Vector UInt8 kBtInitReportSize
abbrev BtReport := Vector UInt8 kBtHapticsReportSize

def kBtStateReportId : UInt8 := 0x31
def kBtHapticsReportId : UInt8 := 0x36
def kBtMicReportId : UInt8 := 0x32
def kUsbOutputReportId : UInt8 := 0x02
def kBtStateOffset : Nat := 3
def kBtInitStateOffset : Nat := 4
def kBtHapticsStateOffset : Nat := 13
def kSpeakerBlockOffset : Nat := 142
def kSpeakerDataOffset : Nat := 144
def kSpeakerBlockControllerSpeaker : UInt8 := 0x13
def kSpeakerBlockHeadphones : UInt8 := 0x16
def kBtAudioBufferLength : UInt8 := 64
def kBtAudioSectionsEnable : UInt8 := 0xff
def kBtAudioSectionsDisableMic : UInt8 := 0xfe
def kBtMicOpen : UInt8 := 0xff
def kBtMicClose : UInt8 := 0xfe

def kOutputFlag0Offset : Fin kDsStateSize := 0
def kOutputFlag1Offset : Fin kDsStateSize := 1
def kOutputHeadphoneVolumeOffset : Fin kDsStateSize := 4
def kOutputSpeakerVolumeOffset : Fin kDsStateSize := 5
def kOutputMicVolumeOffset : Fin kDsStateSize := 6
def kOutputAudioControlOffset : Fin kDsStateSize := 7
def kOutputMuteLedOffset : Fin kDsStateSize := 8
def kOutputPowerSaveControlOffset : Fin kDsStateSize := 9
def kOutputAudioControl2Offset : Fin kDsStateSize := 37
def kOutputLightBrightnessOffset : Fin kDsStateSize := 42
def kOutputLedColorOffset : Fin kDsStateSize := 44

def kMuteLedOff : UInt8 := 0x00
def kMuteLedOn : UInt8 := 0x01
def kOutputFlag0HeadphoneVolumeEnable : UInt8 := 0x10
def kOutputFlag0SpeakerVolumeEnable : UInt8 := 0x20
def kOutputFlag0MicVolumeEnable : UInt8 := 0x40
def kOutputFlag0AudioControlEnable : UInt8 := 0x80
def kOutputFlag1MicMuteLedControlEnable : UInt8 := 0x01
def kOutputFlag1PowerSaveControlEnable : UInt8 := 0x02
def kOutputFlag1AudioControl2Enable : UInt8 := 0x80
def kOutputMicSelectMask : UInt8 := 0x03
def kOutputMicSelectAuto : UInt8 := 0x00
def kOutputMicSelectInternal : UInt8 := 0x01
def kOutputAudioControlNonPathMask : UInt8 := 0xcf
def kOutputPathHeadphones : UInt8 := 0x00
def kOutputPathSpeaker : UInt8 := 0x30
def kOutputPathMask : UInt8 := 0x30
def kOutputPowerSaveMicMute : UInt8 := 0x10

def kInitialSetStateData : List UInt8 :=
  [0xfd, 0xf7, 0x00, 0x00, 0x7f, 0x64, 0x08, 0x09, 0x00, 0x0f,
    0x00, 0x00, 0x00, 0x00, 0x00, 0x00, 0x00, 0x00, 0x00, 0x00,
    0x00, 0x00, 0x00, 0x00, 0x00, 0x00, 0x00, 0x00, 0x00, 0x00,
    0x00, 0x00, 0x00, 0x00, 0x00, 0x00, 0x00, 0x01, 0x07, 0x00,
    0x00, 0x02, 0x01, 0x04, 0x00, 0x00, 0x00]

def kInitialDsState : DsState := overwrite (Vector.replicate _ 0) 0 kInitialSetStateData

/-- The 47 bytes of `vds_set_state_data`. -/
abbrev SetStateData := Vector UInt8 kSetStateSize

def bit (byte : UInt8) (index : Nat) : Bool := byte.toNat.testBit index

namespace SetStateData

variable (d : SetStateData)

def enableRumbleEmulation : Bool := bit (d.get 0) 0
def useRumbleNotHaptics : Bool := bit (d.get 0) 1
def allowRightTriggerFfb : Bool := bit (d.get 0) 2
def allowLeftTriggerFfb : Bool := bit (d.get 0) 3
def allowHeadphoneVolume : Bool := bit (d.get 0) 4
def allowSpeakerVolume : Bool := bit (d.get 0) 5
def allowMicVolume : Bool := bit (d.get 0) 6
def allowAudioControl : Bool := bit (d.get 0) 7
def allowMuteLight : Bool := bit (d.get 1) 0
def allowAudioMute : Bool := bit (d.get 1) 1
def allowLedColor : Bool := bit (d.get 1) 2
def allowPlayerIndicators : Bool := bit (d.get 1) 4
def allowAudioControl2 : Bool := bit (d.get 1) 7
def volumeHeadphones : UInt8 := d.get 4
def volumeSpeaker : UInt8 := d.get 5
def volumeMic : UInt8 := d.get 6
def audioControl : UInt8 := d.get 7
def powerSaveControl : UInt8 := d.get 9
def audioControl2 : UInt8 := d.get 37
def allowLightBrightnessChange : Bool := bit (d.get 38) 0
def allowColorLightFadeAnimation : Bool := bit (d.get 38) 1
def enableImprovedRumbleEmulation : Bool := bit (d.get 38) 2
def lightBrightness : UInt8 := d.get 42
def ledColor : UInt8 × UInt8 × UInt8 := (d.get 44, d.get 45, d.get 46)

end SetStateData

/-- `DsOutputState`: the image and the host's settings behind it. -/
structure DsOutputState where
  state : DsState
  lightColor : UInt8 × UInt8 × UInt8
  headphonesVolume : UInt8
  speakerVolume : UInt8
  micVolume : UInt8
  audioControl : UInt8
  audioOutputPath : UInt8
  audioControl2 : UInt8
  powerSaveControl : UInt8
  lightBrightness : UInt8
  emulateLightBrightness : Bool
  headsetMicPlugged : Bool
  reportSequence : UInt8
  micSequence : UInt8
  deriving DecidableEq

def audioControlWithOutputPath (audioControl outputPath : UInt8) : UInt8 :=
  (audioControl &&& ~~~ kOutputPathMask) ||| outputPath

def setStateBit (byte : UInt8) (bit : Nat) (value : Bool) : UInt8 :=
  (byte &&& ~~~ (1 <<< bit.toUInt8)) ||| if value then 1 <<< bit.toUInt8 else 0

def scaleLightComponent (component brightness : UInt8) : UInt8 :=
  let scale := if brightness = 1 then 128 else if brightness = 2 then 64 else 255
  UInt8.ofNat ((component.toNat * scale + 127) / 255)

namespace DsOutputState

/-- The constructor. -/
def new : DsOutputState where
  state := kInitialDsState
  lightColor := (kInitialDsState.get kOutputLedColorOffset,
    kInitialDsState.get (kOutputLedColorOffset + 1),
    kInitialDsState.get (kOutputLedColorOffset + 2))
  headphonesVolume := kInitialDsState.get kOutputHeadphoneVolumeOffset
  speakerVolume := kInitialDsState.get kOutputSpeakerVolumeOffset
  micVolume := kInitialDsState.get kOutputMicVolumeOffset
  audioControl := kInitialDsState.get kOutputAudioControlOffset &&& kOutputAudioControlNonPathMask
  audioOutputPath := kInitialDsState.get kOutputAudioControlOffset &&& kOutputPathMask
  audioControl2 := kInitialDsState.get kOutputAudioControl2Offset
  powerSaveControl := kInitialDsState.get kOutputPowerSaveControlOffset
  lightBrightness := kInitialDsState.get kOutputLightBrightnessOffset
  emulateLightBrightness := false
  headsetMicPlugged := false
  reportSequence := 0
  micSequence := 0

/-- Assign one byte of the image. -/
def write (o : DsOutputState) (offset : Fin kDsStateSize) (value : UInt8) : DsOutputState :=
  { o with state := put o.state offset value }

/-- `state_[offset] |= mask`. -/
def enable (o : DsOutputState) (offset : Fin kDsStateSize) (mask : UInt8) : DsOutputState :=
  o.write offset (o.state.get offset ||| mask)

/-- `state_[offset] &= ~mask`. -/
def disable (o : DsOutputState) (offset : Fin kDsStateSize) (mask : UInt8) : DsOutputState :=
  o.write offset (o.state.get offset &&& ~~~ mask)

def copyStateBytes (o : DsOutputState) (update : SetStateData) (offset length : Nat) :
    DsOutputState :=
  { o with state := overwrite o.state offset ((update.toList.drop offset).take length) }

/-- The updates that copy one field group and nothing else. -/
def copyIfAllowed (o : DsOutputState) (allowed : Bool) (update : SetStateData)
    (offset length : Nat) : DsOutputState :=
  if allowed then o.copyStateBytes update offset length else o

def applyMicSelect (o : DsOutputState) : DsOutputState :=
  let audioControl := (o.audioControl &&& ~~~ kOutputMicSelectMask) |||
    if o.headsetMicPlugged then kOutputMicSelectAuto else kOutputMicSelectInternal
  ({ o with audioControl := audioControl }.enable kOutputFlag0Offset
    kOutputFlag0AudioControlEnable).write kOutputAudioControlOffset
      (audioControlWithOutputPath audioControl o.audioOutputPath)

section Apply

variable (o : DsOutputState) (update : SetStateData)

def applyRumble : DsOutputState :=
  let o := o.write 0 (setStateBit (o.state.get 0) 0 update.enableRumbleEmulation)
  let o := o.write 0 (setStateBit (o.state.get 0) 1 update.useRumbleNotHaptics)
  let o := o.write 38 (setStateBit (o.state.get 38) 2 update.enableImprovedRumbleEmulation)
  if update.useRumbleNotHaptics || update.enableRumbleEmulation then
    o.copyStateBytes update 2 2
  else o

def applyHeadphoneVolume : DsOutputState :=
  if update.allowHeadphoneVolume then
    { o.enable kOutputFlag0Offset kOutputFlag0HeadphoneVolumeEnable with
      headphonesVolume := update.volumeHeadphones }.copyStateBytes update 4 1
  else o

def applySpeakerVolume : DsOutputState :=
  if update.allowSpeakerVolume then
    { o.enable kOutputFlag0Offset kOutputFlag0SpeakerVolumeEnable with
      speakerVolume := update.volumeSpeaker }.copyStateBytes update 5 1
  else o

def applyMicVolume : DsOutputState :=
  if update.allowMicVolume then
    { o.enable kOutputFlag0Offset kOutputFlag0MicVolumeEnable with
      micVolume := update.volumeMic }.write kOutputMicVolumeOffset update.volumeMic
  else o

/-- A request without any non-path bit changes the output path only. -/
def applyAudioControl : DsOutputState :=
  if update.allowAudioControl then
    let requestedNonPath := update.audioControl &&& kOutputAudioControlNonPathMask
    { o.enable kOutputFlag0Offset kOutputFlag0AudioControlEnable with
      audioControl := if requestedNonPath ≠ 0 then requestedNonPath else o.audioControl
      audioOutputPath := update.audioControl &&& kOutputPathMask }.applyMicSelect
  else o

def applyAudioControl2 : DsOutputState :=
  if update.allowAudioControl2 then
    { o.enable kOutputFlag1Offset kOutputFlag1AudioControl2Enable with
      audioControl2 := update.audioControl2 }.copyStateBytes update 37 1
  else o

def applyAudioMute : DsOutputState :=
  if update.allowAudioMute then
    { o.enable kOutputFlag1Offset kOutputFlag1PowerSaveControlEnable with
      powerSaveControl := update.powerSaveControl }.write kOutputPowerSaveControlOffset
        update.powerSaveControl
  else o

/-- A nonzero speaker volume also routes the output to the speaker. -/
def applySpeakerRoute : DsOutputState :=
  if update.allowSpeakerVolume && update.volumeSpeaker != 0 then
    let o := o.enable kOutputFlag0Offset
      (kOutputFlag0AudioControlEnable ||| kOutputFlag0SpeakerVolumeEnable)
    let o := o.enable kOutputFlag1Offset kOutputFlag1AudioControl2Enable
    let o := o.write kOutputAudioControlOffset
      (audioControlWithOutputPath o.audioControl kOutputPathSpeaker)
    o.write kOutputAudioControl2Offset o.audioControl2
  else o

def applyMuteLight : DsOutputState :=
  o.copyIfAllowed update.allowMuteLight update 8 1

def applyRightTrigger : DsOutputState :=
  o.copyIfAllowed update.allowRightTriggerFfb update 10 11

def applyLeftTrigger : DsOutputState :=
  o.copyIfAllowed update.allowLeftTriggerFfb update 21 11

def applyLightFade : DsOutputState :=
  o.copyIfAllowed update.allowColorLightFadeAnimation update 41 1

def applyLightBrightness : DsOutputState :=
  if update.allowLightBrightnessChange then
    { o.copyStateBytes update 42 1 with
      lightBrightness := update.lightBrightness, emulateLightBrightness := true }
  else o

def applyPlayerIndicators : DsOutputState :=
  o.copyIfAllowed update.allowPlayerIndicators update 43 1

def applyLedColor : DsOutputState :=
  if update.allowLedColor then
    { o.copyStateBytes update 44 3 with lightColor := update.ledColor }
  else o

/-- Once a brightness was set, the colour is scaled by it. -/
def applyLightScale : DsOutputState :=
  if o.emulateLightBrightness && (update.allowLightBrightnessChange || update.allowLedColor) then
    let o := o.write kOutputLedColorOffset (scaleLightComponent o.lightColor.1 o.lightBrightness)
    let o := o.write (kOutputLedColorOffset + 1)
      (scaleLightComponent o.lightColor.2.1 o.lightBrightness)
    o.write (kOutputLedColorOffset + 2) (scaleLightComponent o.lightColor.2.2 o.lightBrightness)
  else o

/-- The updates of `apply_usb_output_report`, in its order. -/
def applyUpdate : DsOutputState :=
  let o := (((o.applyRumble update).applyHeadphoneVolume update).applySpeakerVolume update)
  let o := (((o.applyMicVolume update).applyAudioControl update).applyAudioControl2 update)
  let o := (((o.applyAudioMute update).applySpeakerRoute update).applyMuteLight update)
  let o := (((o.applyRightTrigger update).applyLeftTrigger update).applyLightFade update)
  let o := (((o.applyLightBrightness update).applyPlayerIndicators update).applyLedColor update)
  o.applyLightScale update

end Apply

/-- The set-state bytes of a USB output report, with or without its report id. -/
def reportUpdate (report : List UInt8) : Option SetStateData :=
  if 1 + kSetStateSize ≤ report.length ∧ report.head? = some kUsbOutputReportId then
    some (Vector.ofFn fun i => report.getD (1 + i.val) 0)
  else if report.length = kSetStateSize then
    some (Vector.ofFn fun i => report.getD i.val 0)
  else none

/-- The new state, or `none` for an unsupported report. -/
def applyUsbOutputReport (o : DsOutputState) (report : List UInt8) : Option DsOutputState :=
  (reportUpdate report).map o.applyUpdate

def setAudioOutStreamActive (o : DsOutputState) (active headsetPlugged : Bool) : DsOutputState :=
  let o := o.enable kOutputFlag0Offset kOutputFlag0AudioControlEnable
  let o := o.write kOutputHeadphoneVolumeOffset o.headphonesVolume
  if active && !headsetPlugged then
    let o := o.enable kOutputFlag0Offset kOutputFlag0SpeakerVolumeEnable
    let o := o.enable kOutputFlag1Offset kOutputFlag1AudioControl2Enable
    let o := o.write kOutputSpeakerVolumeOffset o.speakerVolume
    let o := o.write kOutputAudioControl2Offset o.audioControl2
    { o with audioOutputPath := kOutputPathSpeaker }.write kOutputAudioControlOffset
      (audioControlWithOutputPath o.audioControl kOutputPathSpeaker)
  else
    -- The headphone route and the stopped stream differ in one enable bit only.
    let o := if active then o.enable kOutputFlag0Offset kOutputFlag0HeadphoneVolumeEnable else o
    let o := o.disable kOutputFlag0Offset kOutputFlag0SpeakerVolumeEnable
    let o := o.disable kOutputFlag1Offset kOutputFlag1AudioControl2Enable
    let o := o.write kOutputSpeakerVolumeOffset 0
    let o := o.write kOutputAudioControl2Offset 0
    { o with audioOutputPath := kOutputPathHeadphones }.write kOutputAudioControlOffset
      (audioControlWithOutputPath o.audioControl kOutputPathHeadphones)

def setHeadsetMicPlugged (o : DsOutputState) (plugged : Bool) : DsOutputState :=
  let o := { o with headsetMicPlugged := plugged }.enable kOutputFlag0Offset
    (kOutputFlag0MicVolumeEnable ||| kOutputFlag0AudioControlEnable)
  (o.write kOutputMicVolumeOffset o.micVolume).applyMicSelect

def nextSequence (sequence : UInt8) : UInt8 := (sequence + 1) &&& 0x0f

/-- A state report: header, the set-state part of an image, checksum. -/
def stateReport (sequence : UInt8) (image : DsState) : BtStateReport :=
  let header := put (put (put (Vector.replicate _ 0) 0 kBtStateReportId) 1 (sequence <<< 4)) 2 0x10
  fillOutputReportChecksum (overwrite header kBtStateOffset (image.toList.take kSetStateSize))

def buildBtStateReport (o : DsOutputState) : DsOutputState × BtStateReport :=
  ({ o with reportSequence := nextSequence o.reportSequence },
    stateReport o.reportSequence o.state)

def buildBtInitReport (o : DsOutputState) : BtInitReport :=
  let header := put (put (put (put (Vector.replicate _ 0) 0 kBtMicReportId) 1 0x10) 2 0x90) 3 63
  fillOutputReportChecksum (overwrite header kBtInitStateOffset o.state.toList)

/-- The power-save byte of a microphone state report. -/
def micPowerSaveControl (o : DsOutputState) (active muted : Bool) : UInt8 :=
  if active && !muted then o.powerSaveControl &&& ~~~ kOutputPowerSaveMicMute
  else o.powerSaveControl ||| kOutputPowerSaveMicMute

/-- The image after a microphone state report. -/
def applyMicState (o : DsOutputState) (active muted : Bool) : DsOutputState :=
  let powerSaveControl := o.micPowerSaveControl active muted
  let o := o.enable kOutputFlag0Offset
    (kOutputFlag0MicVolumeEnable ||| kOutputFlag0AudioControlEnable)
  let o := o.enable kOutputFlag1Offset (kOutputFlag1MicMuteLedControlEnable |||
    kOutputFlag1PowerSaveControlEnable ||| kOutputFlag1AudioControl2Enable)
  let o := o.write kOutputMicVolumeOffset (if active && !muted then o.micVolume else 0)
  let o := o.write kOutputAudioControlOffset
    (audioControlWithOutputPath o.audioControl o.audioOutputPath)
  let o := o.write kOutputAudioControl2Offset o.audioControl2
  let o := o.write kOutputMuteLedOffset (if muted then kMuteLedOn else kMuteLedOff)
  o.write kOutputPowerSaveControlOffset powerSaveControl

/-- The part of the image that a microphone state report carries. -/
def micStateImage (o : DsOutputState) (active muted : Bool) : DsState :=
  let image : DsState := Vector.replicate _ 0
  let image := put image kOutputFlag0Offset
    (kOutputFlag0MicVolumeEnable ||| kOutputFlag0AudioControlEnable)
  let image := put image kOutputFlag1Offset (kOutputFlag1MicMuteLedControlEnable |||
    kOutputFlag1PowerSaveControlEnable ||| kOutputFlag1AudioControl2Enable)
  let image := put image kOutputMicVolumeOffset (if active && !muted then o.micVolume else 0)
  let image := put image kOutputAudioControlOffset
    (audioControlWithOutputPath o.audioControl o.audioOutputPath)
  let image := put image kOutputMuteLedOffset (if muted then kMuteLedOn else kMuteLedOff)
  let image := put image kOutputPowerSaveControlOffset (o.micPowerSaveControl active muted)
  put image kOutputAudioControl2Offset o.audioControl2

def buildBtMicStateReport (o : DsOutputState) (active muted : Bool) :
    DsOutputState × BtStateReport :=
  ({ o.applyMicState active muted with reportSequence := nextSequence o.reportSequence },
    stateReport o.reportSequence (o.micStateImage active muted))

def buildBtMicReport (o : DsOutputState) (active : Bool) : DsOutputState × BtInitReport :=
  ({ o with micSequence := nextSequence o.micSequence },
    fillOutputReportChecksum (overwrite (Vector.replicate _ 0) 0
      [kBtMicReportId, o.micSequence <<< 4, 0x91, 0x07, if active then kBtMicOpen else kBtMicClose,
        kBtAudioBufferLength, kBtAudioBufferLength, kBtAudioBufferLength, kBtAudioBufferLength,
        kBtAudioBufferLength, o.micSequence, 0x92, 0x40]))

end DsOutputState

/-- `HapticsPacketBuilder`: the sequence numbers of the audio reports. -/
structure HapticsPacketBuilder where
  reportSequence : UInt8
  packetSequence : UInt8
  deriving DecidableEq

namespace HapticsPacketBuilder

def new : HapticsPacketBuilder := ⟨0, 0⟩

def buildPacket (b : HapticsPacketBuilder) (haptics : HapticsChunk) (speaker : SpeakerChunk)
    (state : DsState) (audioSectionsEnabled headsetPlugged : Bool) :
    HapticsPacketBuilder × BtReport :=
  let packet : BtReport := overwrite (Vector.replicate _ 0) 0
    [kBtHapticsReportId, b.reportSequence <<< 4, 0x91, 7,
      if audioSectionsEnabled then kBtAudioSectionsEnable else kBtAudioSectionsDisableMic,
      kBtAudioBufferLength, kBtAudioBufferLength, kBtAudioBufferLength, kBtAudioBufferLength,
      kBtAudioBufferLength, b.packetSequence, 0x90, 63]
  let packet := overwrite packet kBtHapticsStateOffset state.toList
  let packet := overwrite packet 76 (0x92 :: 64 :: haptics.toList.map Int8.toUInt8)
  let packet := overwrite packet kSpeakerBlockOffset
    [(if headsetPlugged then kSpeakerBlockHeadphones else kSpeakerBlockControllerSpeaker) ||| 0x80,
      200]
  let packet := overwrite packet kSpeakerDataOffset speaker.toList
  (⟨DsOutputState.nextSequence b.reportSequence, b.packetSequence + 1⟩,
    fillOutputReportChecksum packet)

end HapticsPacketBuilder

end VirtualDualSense.Protocol.OutputState
