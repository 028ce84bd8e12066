import VirtualDualSense.Protocol.ReportImage
import VirtualDualSense.Protocol.OutputBytes

/-!
# The power-save byte

One byte of the output image holds the microphone mute bit. Of all operations on
the image only a host report with the audio-mute flag and a microphone state
report write it; every Bluetooth report that carries the image carries it too.
-/

namespace VirtualDualSense.Protocol.PowerSave

open Lib.Buffers OutputState ReportImage PcmAudioExtractor

/-- The power-save byte of an image. -/
def powerSave (state : DsState) : UInt8 := state.get kOutputPowerSaveControlOffset

section Image

variable (o : DsOutputState) (update : SetStateData)

/-- A host report changes the byte only with the audio-mute flag. -/
theorem powerSave_applyUpdate :
    powerSave (o.applyUpdate update).state =
      if update.allowAudioMute then update.powerSaveControl else powerSave o.state :=
  OutputBytes.powerSave_applyUpdate o update

theorem powerSave_setAudioOutStreamActive (active headsetPlugged : Bool) :
    powerSave (o.setAudioOutStreamActive active headsetPlugged).state = powerSave o.state :=
  OutputBytes.get_setAudioOutStreamActive o active headsetPlugged (by decide)

theorem powerSave_buildBtMicStateReport (active muted : Bool) :
    powerSave (o.buildBtMicStateReport active muted).1.state =
      o.micPowerSaveControl active muted := by
  simp [DsOutputState.buildBtMicStateReport, DsOutputState.applyMicState, DsOutputState.write,
    powerSave]

theorem powerSave_micStateImage (active muted : Bool) :
    powerSave (o.micStateImage active muted) = o.micPowerSaveControl active muted := by
  simp +decide [DsOutputState.micStateImage, powerSave]

end Image

section Reports

/-- The power-save byte that a report carries to the controller, if it does. -/
def carriedPowerSave (report : List UInt8) : Option UInt8 :=
  if report.head? = some kBtStateReportId then report[kBtStateOffset + 9]?
  else if report.head? = some kBtHapticsReportId then report[kBtHapticsStateOffset + 9]?
  else if report.head? = some kBtMicReportId ∧ report[2]? = some 0x90 then
    report[kBtInitStateOffset + 9]?
  else none

theorem carriedPowerSave_stateReport (sequence : UInt8) (image : DsState) :
    carriedPowerSave (DsOutputState.stateReport sequence image).toList =
      some (powerSave image) := by
  rw [carriedPowerSave, if_pos (head?_stateReport sequence image)]
  exact getElem?_stateReport sequence image (i := kOutputPowerSaveControlOffset) (by decide)

theorem carriedPowerSave_buildBtInitReport (o : DsOutputState) :
    carriedPowerSave o.buildBtInitReport.toList = some (powerSave o.state) := by
  rw [carriedPowerSave, head?_buildBtInitReport, getElem?_two_buildBtInitReport,
    if_neg (by decide), if_neg (by decide), if_pos ⟨rfl, rfl⟩]
  exact getElem?_buildBtInitReport o kOutputPowerSaveControlOffset

theorem carriedPowerSave_buildBtMicReport (o : DsOutputState) (active : Bool) :
    carriedPowerSave (o.buildBtMicReport active).2.toList = none := by
  rw [carriedPowerSave, head?_buildBtMicReport, getElem?_two_buildBtMicReport,
    if_neg (by decide), if_neg (by decide), if_neg (by decide)]

theorem carriedPowerSave_buildPacket (b : HapticsPacketBuilder) (haptics : HapticsChunk)
    (speaker : SpeakerChunk) (state : DsState) (audioSectionsEnabled headsetPlugged : Bool) :
    carriedPowerSave (b.buildPacket haptics speaker state audioSectionsEnabled
      headsetPlugged).2.toList = some (powerSave state) := by
  rw [carriedPowerSave, head?_buildPacket, if_neg (by decide), if_pos rfl]
  exact getElem?_buildPacket b haptics speaker state audioSectionsEnabled headsetPlugged
    kOutputPowerSaveControlOffset

end Reports

end VirtualDualSense.Protocol.PowerSave
