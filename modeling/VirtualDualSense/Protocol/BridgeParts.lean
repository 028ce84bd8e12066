import VirtualDualSense.Protocol.BtPackets
import VirtualDualSense.Protocol.Frames

/-!
# Parts that the daemons share

Both daemons read the same buttons of an input report, answer the same test
commands and synthesise the same tone. Opus and the sine of the tone are
parameters.
-/

namespace VirtualDualSense.Protocol.BridgeParts

open OutputState PcmAudioExtractor BtPackets

def kUsbInputMuteButtonOffset : Fin kUsbInputReportSize := 10
def kUsbInputHeadsetOffset : Fin kUsbInputReportSize := 54
def kUsbInputHeadphonesPluggedMask : UInt8 := 0x01
def kUsbInputMicPluggedMask : UInt8 := 0x02
def kUsbInputMuteButtonMask : UInt8 := 0x04
def kTestCommandReportId : UInt8 := 0x80
def kTestCommandResultReportId : UInt8 := 0x81
def kTestCommandCompleteStatus : UInt8 := 0x02
def kTestCommandAudioDevice : UInt8 := 0x06
def kTestCommandWaveoutPrepare : UInt8 := 0x04
def kTestCommandWaveoutControl : UInt8 := 0x02
def kTestCommandSpeakerParam : UInt8 := 0x08
def kSpeakerWaveoutPeriodFrames : Nat := 48
def kUsbInterfaceAudioOut : UInt8 := 1
def kUsbInterfaceAudioIn : UInt8 := 2

/-- What a daemon uses of the codec and of floating point. -/
structure Media (E D : Type*) where
  encoder : E
  decoder : D
  opusEncode : E → Vector Int16 (kSpeakerOpusFrames * kSpeakerChannels) → E × List UInt8
  opusDecode : D → MicOpusPayload → D × Option (List Int16)
  waveoutSample : Nat → Int16

/-- A codec that is silent. -/
def silentMedia : Media Unit Unit where
  encoder := ()
  decoder := ()
  opusEncode := fun _ _ => ((), [])
  opusDecode := fun _ _ => ((), none)
  waveoutSample := fun _ => 0

/-- `PcmAudioExtractor{}`: the default window is a supported one. -/
def freshExtractor {E : Type*} (encoder : E) : Extractor E where
  speakerEncoder := encoder
  pendingFrame := Vector.replicate _ 0
  speakerPcm := Vector.replicate _ 0
  hapticsPcm := Vector.replicate _ 0
  pcmWindowFrames := kPcmWindowFrames
  pendingFramePos := 0
  pcmWindowFramePos := 0
  chunkHasSignal := false
  chunkHasHapticsSignal := false
  supported := by decide
  pendingFramePos_lt := kPcmFrameSize_pos
  pcmWindowFramePos_lt := by decide

variable {E D : Type*} (media : Media E D)

/-- One window of the test tone: both speaker channels get the sample. -/
def waveoutPcm (phase : Nat) : List UInt8 :=
  (List.range kPcmWindowFrames).flatMap fun frame =>
    let value : UInt16 :=
      (media.waveoutSample ((phase + frame) % kSpeakerWaveoutPeriodFrames)).toUInt16
    let sample := [(value &&& 0xff).toUInt8, (value >>> 8).toUInt8]
    sample ++ sample ++ [0, 0, 0, 0]

end VirtualDualSense.Protocol.BridgeParts
