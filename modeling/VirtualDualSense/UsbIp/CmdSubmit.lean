import VirtualDualSense.Protocol.Frames
import VirtualDualSense.Usb.Descriptors
import VirtualDualSense.UsbIp.Wire

/-!
# Handling one USB/IP submit

`handle_cmd_submit` answers every endpoint of the virtual controller. It is cut
here at its only blocking point, the wait for a frame from the daemon:
`beginSubmit` does what comes before the wait, `finishSubmit` gets the frame that
the wait took (if it took one) and builds the reply.

## Implementation notes

The Q15 gain of a volume is computed in floating point; it is the parameter
`gainOfVolume`. An exception ends the session, so both halves return the port
they leave behind together with either an error or a result. Casts between
`int32_t` and `uint32_t` keep the bits, so a length is a `UInt32` throughout and
its signed reading is `toInt32`.
-/

namespace VirtualDualSense.UsbIp.CmdSubmit

open Protocol.Frames Usb.Descriptors Wire

def kEpAudioOut : UInt32 := 1
def kEpAudioIn : UInt32 := 2
def kEpHidIn : UInt32 := 4
def kEpHidOut : UInt32 := 3

def kMicBytesPerMs : Nat := 192
def kMicPrimeBytes : Nat := 40 * kMicBytesPerMs
def kMicMaxBufferBytes : Nat := 120 * kMicBytesPerMs

/-- `-EPIPE`, the status of a stalled request. -/
def epipe : Int32 := -32

def kHidInQueueMax : Nat := 8

/-- What the submit handler reads and writes of a `VirtualPort`. The two proof
fields are the bounds that the pipe reader enforces as it queues. -/
structure Port where
  profile : Profile
  hidInQueue : List Frame
  featureReplyQueue : List Frame
  micRingBuffer : List UInt8
  micPrimed : Bool
  speakerGainQ15 : Int
  fuVolumeDb256 : Int
  fuMuted : Bool
  hidInQueue_le : hidInQueue.length ≤ kHidInQueueMax
  micRingBuffer_le : micRingBuffer.length ≤ kMicMaxBufferBytes

def Port.new (profile : Profile) : Port :=
  { profile := profile
    hidInQueue := []
    featureReplyQueue := []
    micRingBuffer := []
    micPrimed := false
    speakerGainQ15 := 2 ^ 15
    fuVolumeDb256 := 0
    fuMuted := false
    hidInQueue_le := Nat.zero_le _
    micRingBuffer_le := Nat.zero_le _ }

/-- Drop the buffered microphone audio and the cushion. -/
def Port.flushMic (port : Port) : Port :=
  { port with micRingBuffer := [], micPrimed := false, micRingBuffer_le := Nat.zero_le _ }

section Setup

/-- The fields of a setup packet, whose words are little-endian. -/
structure Setup where
  bmRequestType : Nat
  bRequest : Nat
  wValue : Nat
  wIndex : Nat
  wLength : Nat

def setupOf (setup : Vector UInt8 8) : Setup :=
  { bmRequestType := setup[0].toNat
    bRequest := setup[1].toNat
    wValue := setup[2].toNat + 256 * setup[3].toNat
    wIndex := setup[4].toNat + 256 * setup[5].toNat
    wLength := setup[6].toNat + 256 * setup[7].toNat }

def Setup.deviceToHost (s : Setup) : Bool := s.bmRequestType &&& 0x80 != 0

def Setup.requestType (s : Setup) : Nat := s.bmRequestType &&& 0x60

/-- The branches of the control endpoint. -/
inductive Control
  | getDescriptor
  | setConfiguration
  | setInterface
  | getReport
  | setReport
  | featureUnit
  | stall
  deriving DecidableEq

/-- The branch a setup packet takes, tested in the order of the source. -/
def Setup.control (s : Setup) : Control :=
  if s.requestType = 0x00 ∧ s.bRequest = 0x06 ∧ s.deviceToHost then .getDescriptor
  else if s.requestType = 0x00 ∧ s.bRequest = 0x09 then .setConfiguration
  else if s.bmRequestType = 0x01 ∧ s.bRequest = 0x0b then .setInterface
  else if s.requestType = 0x20 ∧ s.bRequest = 0x01 ∧ s.deviceToHost then .getReport
  else if s.requestType = 0x20 ∧ s.bRequest = 0x09 then .setReport
  else if s.requestType = 0x20 ∧ s.bmRequestType &&& 0x1f = 0x01 ∧
      (s.bRequest = 0x81 ∨ s.bRequest = 0x82 ∨ s.bRequest = 0x83 ∨ s.bRequest = 0x84 ∨
        s.bRequest = 0x01) then .featureUnit
  else .stall

/-- The branches of `handle_cmd_submit`. -/
inductive Branch
  | control (setup : Setup)
  | hidIn
  | hidOut
  | audioOut
  | audioIn
  | unknown

def branchOf (cmd : UsbipCmdSubmit) : Branch :=
  if cmd.base.ep = 0 then .control (setupOf cmd.setup)
  else if cmd.base.ep = kEpHidIn ∧ cmd.base.direction = kDirIn then .hidIn
  else if cmd.base.ep = kEpHidOut ∧ cmd.base.direction = kDirOut then .hidOut
  else if cmd.base.ep = kEpAudioOut ∧ cmd.base.direction = kDirOut then .audioOut
  else if cmd.base.ep = kEpAudioIn ∧ cmd.base.direction = kDirIn then .audioIn
  else .unknown

end Setup

section Descriptors

def buildStringDescriptor (text : String) : List UInt8 :=
  let bytes := text.toList.flatMap fun c => [UInt8.ofNat c.toNat, 0x00]
  UInt8.ofNat (2 + bytes.length) :: 0x03 :: bytes

def buildLangidDescriptor : List UInt8 := [0x04, 0x03, 0x09, 0x04]

/-- The bytes a GET_DESCRIPTOR asks for, before they are cut to `wLength`. -/
def descriptorBytes (profile : Profile) (s : Setup) : List UInt8 :=
  let desc := descriptorsForProfile profile
  let descType := s.wValue / 256
  let descIndex := s.wValue % 256
  if descType = 0x01 then desc.device
  else if descType = 0x02 then desc.config
  else if descType = 0x21 then desc.hid
  else if descType = 0x22 then desc.hidReport
  else if descType = 0x03 then
    if descIndex = 0 then buildLangidDescriptor
    else if descIndex = 1 then buildStringDescriptor usbManufacturerString
    else if descIndex = 2 then
      buildStringDescriptor (match profile with
        | .dse => dseUsbProductString
        | .ds5 => ds5UsbProductString)
    else []
  else []

end Descriptors

section Audio

def readLeS16 (lo hi : UInt8) : Int16 := (lo.toUInt16 ||| (hi.toUInt16 <<< 8)).toInt16

def writeLeS16 (sample : Int16) : List UInt8 :=
  [sample.toUInt16.toUInt8, (sample.toUInt16 >>> 8).toUInt8]

/-- One speaker sample under the Q15 gain, clamped. -/
def scaleSample (gainQ15 : Int) (lo hi : UInt8) : List UInt8 :=
  let scaled := ((readLeS16 lo hi).toInt * gainQ15) >>> (15 : Nat)
  writeLeS16 (Int16.ofInt (if scaled > 32767 then 32767 else if scaled < -32768 then -32768
    else scaled))

/-- Scale the two speaker channels of every whole frame; haptics stay as they are. -/
def scaleSpeaker (gainQ15 : Int) : List UInt8 → List UInt8
  | a0 :: a1 :: b0 :: b1 :: c0 :: c1 :: d0 :: d1 :: rest =>
      scaleSample gainQ15 a0 a1 ++ scaleSample gainQ15 b0 b1 ++ [c0, c1, d0, d1] ++
        scaleSpeaker gainQ15 rest
  | short => short

def pcmToForward (gainQ15 : Int) (outData : List UInt8) : List UInt8 :=
  if gainQ15 ≠ 2 ^ 15 then scaleSpeaker gainQ15 outData else outData

/-- `take_mic_bytes`; a count no vector can hold throws. -/
def takeMicBytes (port : Port) (count : Nat) : Port × Except String (List UInt8) :=
  if !port.micPrimed && port.micRingBuffer.length < kMicPrimeBytes then
    if count ≥ 2 ^ 63 then (port, .error "vector too long")
    else (port, .ok (List.replicate count 0))
  else
    let port := { port with micPrimed := true }
    if port.micRingBuffer.length ≥ count then
      ({ port with
          micRingBuffer := port.micRingBuffer.drop count
          micRingBuffer_le := by
            have hle := port.micRingBuffer_le
            rw [List.length_drop]
            omega },
        .ok (port.micRingBuffer.take count))
    else if count ≥ 2 ^ 63 then
      (port, .error "vector too long")
    else
      (port.flushMic,
        .ok (port.micRingBuffer ++ List.replicate (count - port.micRingBuffer.length) 0))

/-- A negative `int32_t` becomes a `size_t` of at least `2^63`. -/
def sizeOfInt32 (v : Int32) : Nat := (v.toInt % 2 ^ 64).toNat

variable (gainOfVolume : Int → Int)

def updateSpeakerGain (port : Port) : Port :=
  { port with speakerGainQ15 := if port.fuMuted then 0 else gainOfVolume port.fuVolumeDb256 }

/-- SET_CUR of a feature unit. -/
def setCur (port : Port) (s : Setup) (outData : List UInt8) : Port :=
  let selector := s.wValue / 256
  match outData with
  | [] => port
  | lo :: tail =>
      if selector = 0x01 then
        updateSpeakerGain gainOfVolume { port with fuMuted := lo != 0 }
      else if selector = 0x02 then
        match tail with
        | [] => port
        | hi :: _ =>
            updateSpeakerGain gainOfVolume { port with fuVolumeDb256 := (readLeS16 lo hi).toInt }
      else port

/-- The answer of a feature unit to a GET request. -/
def featureUnitData (port : Port) (s : Setup) : List UInt8 :=
  let selector := s.wValue / 256
  if s.deviceToHost ∧ (selector = 0x01 ∨ selector = 0x02) then
    let value :=
      if selector = 0x01 then [if port.fuMuted then 0x01 else 0x00]
      else if s.bRequest = 0x82 then [0x01, 0xda]
      else if s.bRequest = 0x83 then [0x00, 0x00]
      else if s.bRequest = 0x84 then [0x01, 0x00]
      else writeLeS16 (Int16.ofInt port.fuVolumeDb256)
    value.take s.wLength
  else []

end Audio

variable (gainOfVolume : Int → Int)

/-- The interface type a SET_INTERFACE event reports. -/
def interfaceType (wIndex : Nat) : UInt8 :=
  if wIndex = usbAudioOutInterface then 1 else if wIndex = usbAudioInInterface then 2 else 0

/-- The first half of the handler: update the port and write to the daemon. -/
def beginSubmit (port : Port) (cmd : UsbipCmdSubmit) (outData : List UInt8) :
    Port × Except String (List Frame) :=
  let write (type : FrameType) (payload : List UInt8) := (frameBytes type payload).map ([·])
  match branchOf cmd with
  | .control s =>
      match s.control with
      | .setInterface =>
          let port := if s.wIndex = usbAudioInInterface then port.flushMic else port
          (port, write .usbInterface
            [UInt8.ofNat s.wIndex, UInt8.ofNat s.wValue, interfaceType s.wIndex, 0])
      | .getReport => (port, write .usbFeatureGet [UInt8.ofNat s.wValue])
      | .setReport => (port, write .usbFeatureSet outData)
      | .featureUnit =>
          if !s.deviceToHost && s.bRequest == 0x01 then
            (setCur gainOfVolume port s outData, .ok [])
          else (port, .ok [])
      | _ => (port, .ok [])
  | .hidOut => (port, write .usbHidOut outData)
  | .audioOut => (port, write .usbAudioOut (pcmToForward port.speakerGainQ15 outData))
  | _ => (port, .ok [])

/-- What the branches decide about the reply. -/
structure Body where
  status : Int32
  data : List UInt8
  numberOfPackets : Int32

/-- The reply of the control endpoint. -/
def controlBody (port : Port) (s : Setup) (waited : Option Frame) : Body :=
  let data :=
    match s.control with
    | .getDescriptor => (descriptorBytes port.profile s).take s.wLength
    | .getReport =>
        let reply := waited.getD Frame.default
        if reply.type = .usbFeatureReply then reply.payload.take s.wLength else []
    | .featureUnit => featureUnitData port s
    | _ => []
  let status := if s.control = .stall then epipe else 0
  ⟨status, if s.deviceToHost then data.take s.wLength else data, 0⟩

/-- The branches' half of the reply, after the wait. -/
def replyBody (port : Port) (cmd : UsbipCmdSubmit) (waited : Option Frame) :
    Port × Except String Body :=
  match branchOf cmd with
  | .control s => (port, .ok (controlBody port s waited))
  | .hidIn => (port, .ok ⟨0, (waited.map Frame.payload).getD [], 0⟩)
  | .hidOut => (port, .ok ⟨0, [], 0⟩)
  | .audioOut => (port, .ok ⟨0, [], cmd.numberOfPackets⟩)
  | .audioIn =>
      let taken := takeMicBytes port (sizeOfInt32 cmd.transferBufferLength)
      (taken.1, taken.2.map fun data => ⟨0, data, cmd.numberOfPackets⟩)
  | .unknown => (port, .ok ⟨epipe, [], 0⟩)

/-- A complete reply as the server holds it before it is sent. -/
structure SubmitReply where
  ret : UsbipRetSubmit
  data : List UInt8
  iso : List UsbipIsoPacketDescriptor

/-- The length reported for one packet. -/
def packetActual (direction : UInt32) (dataSize : Nat) (iso : UsbipIsoPacketDescriptor) : UInt32 :=
  if direction = kDirIn then
    if iso.offset.toNat ≥ dataSize then 0
    else UInt32.ofNat (min iso.length.toNat (dataSize - iso.offset.toNat))
  else iso.length

/-- Build the header and the packet array. -/
def buildReply (cmd : UsbipCmdSubmit) (body : Body) (iso : List UsbipIsoPacketDescriptor) :
    SubmitReply :=
  let actuals := iso.map (packetActual cmd.base.direction body.data.length)
  let replyIso := (iso.zip actuals).map fun (packet, actual) =>
    (⟨hton32 packet.offset, hton32 packet.length, hton32 actual, hton32 0⟩ :
      UsbipIsoPacketDescriptor)
  let isochronous := cmd.numberOfPackets > 0
  { ret :=
      { base := ⟨hton32 kRetSubmit, hton32 cmd.base.seqnum, hton32 cmd.base.devid,
          hton32 cmd.base.direction, hton32 cmd.base.ep⟩
        status := hton32 body.status.toUInt32
        actualLength :=
          hton32 (if isochronous then actuals.sum else UInt32.ofNat body.data.length)
        startFrame := hton32 0
        numberOfPackets := hton32 body.numberOfPackets.toUInt32
        errorCount := hton32 0 }
    data := body.data
    iso := if isochronous then replyIso else [] }

/-- The second half of the handler, after the wait. -/
def finishSubmit (port : Port) (cmd : UsbipCmdSubmit) (iso : List UsbipIsoPacketDescriptor)
    (waited : Option Frame) : Port × Except String SubmitReply :=
  let body := replyBody port cmd waited
  (body.1, body.2.map fun body => buildReply cmd body iso)

def paceOut (cmd : UsbipCmdSubmit) : Bool :=
  cmd.base.ep = kEpAudioOut ∧ cmd.base.direction = kDirOut ∧ cmd.numberOfPackets > 0

def paceIn (cmd : UsbipCmdSubmit) : Bool :=
  cmd.base.ep = kEpAudioIn ∧ cmd.base.direction = kDirIn ∧ cmd.numberOfPackets > 0

/-- The bytes put on the socket for a reply, by the pacer or directly. -/
def SubmitReply.bytes (cmd : UsbipCmdSubmit) (reply : SubmitReply) : List UInt8 :=
  reply.ret.bytes ++ (if paceOut cmd then [] else reply.data) ++
    reply.iso.flatMap UsbipIsoPacketDescriptor.bytes

/-- Which queue a branch waits on. -/
inductive Wait
  | hidIn
  | featureReply
  deriving DecidableEq

def waitOf (cmd : UsbipCmdSubmit) : Option Wait :=
  match branchOf cmd with
  | .control s => if s.control = .getReport then some .featureReply else none
  | .hidIn => some .hidIn
  | _ => none

/-- `wait_for_hid_in_frame` and `wait_for_feature_reply` take the oldest frame if
there is one when the wait ends. -/
def takeFrame (port : Port) : Option Wait → Port × Option Frame
  | none => (port, none)
  | some .hidIn =>
      ({ port with
          hidInQueue := port.hidInQueue.tail
          hidInQueue_le := by
            have hle := port.hidInQueue_le
            rw [List.length_tail]
            omega },
        port.hidInQueue.head?)
  | some .featureReply =>
      ({ port with featureReplyQueue := port.featureReplyQueue.tail },
        port.featureReplyQueue.head?)

end VirtualDualSense.UsbIp.CmdSubmit
