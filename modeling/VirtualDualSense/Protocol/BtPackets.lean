import VirtualDualSense.Protocol.OutputState

/-!
# Bluetooth packets

Reports travel over two channels behind a transaction byte. Input packets on the
interrupt channel carry either a control report or one Opus block of the
microphone.
-/

namespace VirtualDualSense.Protocol.BtPackets

open Checksum OutputState

def kBtHidpInputPrefix : UInt8 := 0xa1
def kBtHidpOutputPrefix : UInt8 := 0xa2
def kBtHidpFeaturePrefix : UInt8 := 0xa3
def kBtHidpGetFeaturePrefix : UInt8 := 0x43
def kBtHidpSetFeaturePrefix : UInt8 := 0x53
def kUsbInputReportId : UInt8 := 0x01
abbrev kUsbInputReportSize : Nat := 64
def kUsbInputPayloadSize : Nat := 63
def kBtInputUsbPayloadOffset : Nat := 3
def kBtInputMinimumSize : Nat := kBtInputUsbPayloadOffset + kUsbInputPayloadSize
def kBtMicOpusOffset : Nat := 4
abbrev kMicOpusSize : Nat := 71
def kMicOpusFrames : Nat := 480
def kBtInputPayloadTypeMask : UInt8 := 0x0f

abbrev UsbInputReport := Vector UInt8 kUsbInputReportSize
abbrev MicOpusPayload := Vector UInt8 kMicOpusSize

inductive BtInputPayloadType
  | unknown
  | control
  | audio
  deriving DecidableEq

def btInputPayloadType (packet : List UInt8) : BtInputPayloadType :=
  if packet.length ≤ 2 ∨ packet.getD 0 0 ≠ kBtHidpInputPrefix ∨
      packet.getD 1 0 ≠ kBtStateReportId then
    .unknown
  else if packet.getD 2 0 &&& kBtInputPayloadTypeMask = 0x01 then .control
  else if packet.getD 2 0 &&& kBtInputPayloadTypeMask = 0x02 then .audio
  else .unknown

def btInputToUsbInput (packet : List UInt8) : Option UsbInputReport :=
  if packet.length < kBtInputMinimumSize ∨ packet.getD 0 0 ≠ kBtHidpInputPrefix ∨
      packet.getD 1 0 ≠ kBtStateReportId ∨ btInputPayloadType packet ≠ .control then
    none
  else
    some (Vector.ofFn fun i =>
      if i.val = 0 then kUsbInputReportId else packet.getD (kBtInputUsbPayloadOffset + i.val - 1) 0)

def btMicOpusPayload (packet : List UInt8) : Option MicOpusPayload :=
  if btInputPayloadType packet ≠ .audio ∨ packet.length < kBtMicOpusOffset + kMicOpusSize then none
  else some (Vector.ofFn fun i => packet.getD (kBtMicOpusOffset + i.val) 0)

def btFeatureToUsbFeatureReply (packet : List UInt8) : Option (List UInt8) :=
  if packet.length < 2 ∨ packet.getD 0 0 ≠ kBtHidpFeaturePrefix then none else some packet.tail

def hidpOutputPacket (report : List UInt8) : List UInt8 := kBtHidpOutputPrefix :: report

def featureGetPacket (reportId : UInt8) : List UInt8 := [kBtHidpGetFeaturePrefix, reportId]

/-- Reports of less than four bytes have no checksum. -/
def featureSetPacket (report : List UInt8) : List UInt8 :=
  if report = [] then []
  else
    let checkedReport : Vector UInt8 report.length := ⟨report.toArray, rfl⟩
    kBtHidpSetFeaturePrefix ::
      if 4 ≤ report.length then (fillFeatureReportChecksum checkedReport).toList else report

/-- `Decoder::decode`: the right channel of each USB frame gets the mono sample. -/
def micUsbPcm (mono : List Int16) : List UInt8 :=
  mono.flatMap fun sample =>
    let value : UInt16 := sample.toUInt16
    [0, 0, (value &&& 0xff).toUInt8, (value >>> 8).toUInt8]

end VirtualDualSense.Protocol.BtPackets
