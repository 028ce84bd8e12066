import VirtualDualSense.Hcd.UsbCore

/-!
# Control transfers of the Windows bus driver

`vds_usb.sys` answers the control endpoint of its virtual controller in
`VdsEvtControlUrb` and queues frames for the daemon in the control ring of the port.

## Implementation notes

The ring is the number of bytes in it that the daemon has not read. A transfer without a
buffer has none of any length, because the length is cleared when the buffer cannot be
retrieved. UdeCx answers the device and configuration descriptors itself. The statistics
of the device context are left out.
-/

namespace VirtualDualSense.WinDrv.ControlUrb

open Lib.Buffers Protocol.Frames Usb.Descriptors Hcd.UsbCore

section Constants

def usbDescriptorTypeString : UInt8 := 0x03
def usbDescriptorTypeHid : UInt8 := 0x21
def usbDescriptorTypeHidReport : UInt8 := 0x22
def usbRequestGetDescriptor : UInt8 := 0x06
def usbRequestGetInterface : UInt8 := 0x0a
def usbRequestSetInterface : UInt8 := 0x0b
def usbHidGetReport : UInt8 := 0x01
def usbHidGetIdle : UInt8 := 0x02
def usbHidGetProtocol : UInt8 := 0x03
def usbHidSetReport : UInt8 := 0x09
def usbHidSetIdle : UInt8 := 0x0a
def usbHidSetProtocol : UInt8 := 0x0b
def usbAudioSetCur : UInt8 := 0x01
def usbAudioGetCur : UInt8 := 0x81
def usbAudioGetMin : UInt8 := 0x82
def usbAudioGetMax : UInt8 := 0x83
def usbAudioGetRes : UInt8 := 0x84
def usbAudioControlMute : UInt8 := 0x01
def usbAudioControlVolume : UInt8 := 0x02
def usbHidReportTypeInput : UInt8 := 0x01
def usbHidReportTypeOutput : UInt8 := 0x02
def usbHidReportTypeFeature : UInt8 := 0x03

def hidFeatureReportSize : Nat := 64
def usbInputReportSize : Nat := 64
def controlRingCapacity : Nat := 256 * 1024
def frameHeaderSize : Nat := 16

end Constants

section Ports

/-- What the control endpoint reads and writes of `VDS_PORT_STATE`. -/
structure PortState where
  profile : Profile
  controlRingSize : Nat
  frameSequence : UInt64
  lastHidInput : Vector UInt8 usbInputReportSize
  featureCache : UInt8 → Vector UInt8 hidFeatureReportSize
  featureCacheValid : UInt8 → Bool
  interfaceAltsetting : Vector UInt8 (usbHidInterface + 1)

/-- A frame in the ring with its sequence number. -/
structure QueuedFrame where
  frame : Frame
  sequence : UInt64
  deriving DecidableEq

/-- `VdsQueueFrame`: a frame that does not fit is dropped. -/
def queueFrame (port : PortState) (type : FrameType) (payload : List UInt8) :
    PortState × List QueuedFrame :=
  match frameBytes type payload with
  | .error _ => (port, [])
  | .ok frame =>
      let frameSize := frameHeaderSize + payload.length
      if frameSize > controlRingCapacity then (port, [])
      else if frameSize > controlRingCapacity - port.controlRingSize then (port, [])
      else
        ({ port with
            controlRingSize := port.controlRingSize + frameSize
            frameSequence := port.frameSequence + 1 }, [⟨frame, port.frameSequence + 1⟩])

/-- `VdsUpdateFeatureCache`. -/
def updateFeatureCache (port : PortState) (payload : List UInt8) : PortState :=
  match payload with
  | [] => port
  | reportId :: _ =>
      let report := overwrite (Vector.replicate hidFeatureReportSize 0) 0
        (payload.take hidFeatureReportSize)
      { port with
        featureCache := Function.update port.featureCache reportId report
        featureCacheValid := Function.update port.featureCacheValid reportId true }

/-- `VdsCopyFeatureReport` of a buffer of that length. -/
def copyFeatureReport (port : PortState) (reportId : UInt8) (length : Nat) : List UInt8 :=
  let report :=
    if port.featureCacheValid reportId then (port.featureCache reportId).toList
    else reportId :: List.replicate (hidFeatureReportSize - 1) 0
  report.take length

/-- `VdsCopyInputReport` of a buffer of that length. -/
def copyInputReport (port : PortState) (length : Nat) : List UInt8 :=
  port.lastHidInput.toList.take length

end Ports

section Setup

variable (setup : UsbCtrlrequest)

def deviceToHost : Bool := setup.bRequestType &&& 0x80 != 0

/-- `bm.Request.Type` is standard. -/
def isStandard : Bool := setup.bRequestType &&& 0x60 == 0x00

/-- `bm.Request.Type` is class. -/
def isClass : Bool := setup.bRequestType &&& 0x60 == 0x20

/-- `bm.Request.Recipient`, a field of two bits, is an interface. -/
def toInterface : Bool := setup.bRequestType &&& 0x03 == 0x01

def reportIdOf : UInt8 := setup.wValue.toUInt8

def reportTypeOf : UInt8 := (setup.wValue >>> 8).toUInt8

end Setup

section Responses

/-- A transfer buffer and the number of bytes that its transfer completes with. -/
structure Completion where
  buffer : Option (List UInt8)
  bytesCompleted : Nat
  status : Bool
  deriving DecidableEq

/-- The bytes at the front of the buffer. -/
def writeFront (buffer data : List UInt8) : List UInt8 := data ++ buffer.drop data.length

/-- `VdsCopyControlResponse`. -/
def copyControlResponse (buffer : Option (List UInt8)) (response : List UInt8)
    (requestedLength : Nat) : Completion :=
  match buffer with
  | none => ⟨none, 0, true⟩
  | some bytes =>
      let completed := min (min bytes.length requestedLength) response.length
      ⟨some (writeFront bytes (response.take completed)), completed, true⟩

/-- `VdsCopyStringDescriptor`: at most 126 characters. -/
def stringDescriptorOf (string : Option String) : List UInt8 :=
  match string with
  | none => usbLanguageDescriptor
  | some string => stringDescriptor string

def productStringForProfile : Profile → String
  | .ds5 => ds5UsbProductString
  | .dse => dseUsbProductString

/-- The answer of a feature unit, in `VdsHandleAudioClassControl`. -/
def audioClassResponse (setup : UsbCtrlrequest) : Option (List UInt8) :=
  let controlSelector := (setup.wValue >>> 8).toUInt8
  if controlSelector = usbAudioControlMute then
    if setup.bRequest = usbAudioGetCur then some [0] else none
  else if controlSelector = usbAudioControlVolume then
    if setup.bRequest = usbAudioGetCur ∨ setup.bRequest = usbAudioGetMax then some [0x00, 0x00]
    else if setup.bRequest = usbAudioGetMin then some [0x00, 0x80]
    else if setup.bRequest = usbAudioGetRes then some [0x00, 0x01]
    else none
  else none

/-- `VdsHandleAudioClassControl`; nothing if it does not handle the request. -/
def handleAudioClassControl (setup : UsbCtrlrequest) (buffer : Option (List UInt8)) :
    Option Completion :=
  let entityId := (setup.wIndex >>> 8).toNat
  if !isClass setup || !toInterface setup || interfaceOf setup ≠ usbAudioControlInterface ||
      (entityId ≠ usbSpeakerFeatureUnit && entityId ≠ usbMicFeatureUnit) then none
  else if !deviceToHost setup then
    if setup.bRequest = usbAudioSetCur then
      some ⟨buffer, min ((buffer.map List.length).getD 0) setup.wLength.toNat, true⟩
    else none
  else
    (audioClassResponse setup).map fun response =>
      copyControlResponse buffer response setup.wLength.toNat

end Responses

section Requests

/-- The result of a transfer: the port, the frames for the daemon and the completion. -/
structure Result where
  port : PortState
  frames : List QueuedFrame
  completion : Completion

variable (port : PortState) (setup : UsbCtrlrequest) (buffer : Option (List UInt8))

/-- A transfer that completes with `bytesCompleted` of its own buffer. -/
def completes (bytesCompleted : Nat) : Result := ⟨port, [], buffer, bytesCompleted, true⟩

/-- A transfer that copies a response. -/
def responds (response : List UInt8) : Result :=
  ⟨port, [], copyControlResponse buffer response setup.wLength.toNat⟩

/-- The bytes that a transfer moves at most. -/
def payloadSize : Nat := min ((buffer.map List.length).getD 0) setup.wLength.toNat

/-- The class requests of the HID interface. -/
def hidClassControl : Result :=
  let reportId := reportIdOf setup
  let reportType := reportTypeOf setup
  let size := payloadSize setup buffer
  if setup.bRequest = usbHidGetReport ∧ deviceToHost setup then
    if reportType = usbHidReportTypeInput then
      responds port setup buffer (copyInputReport port size)
    else if reportType = usbHidReportTypeFeature then
      let (next, frames) :=
        if port.featureCacheValid reportId then (port, [])
        else queueFrame port .usbFeatureGet [reportId]
      ⟨next, frames,
        copyControlResponse buffer (copyFeatureReport port reportId size) setup.wLength.toNat⟩
    else if reportType = usbHidReportTypeOutput then
      match buffer with
      | some (_ :: bytes) => completes port (some (reportId :: bytes)) size
      | _ => completes port buffer 0
    else completes port buffer 0
  else if setup.bRequest = usbHidSetReport ∧ !deviceToHost setup then
    let payload := (buffer.getD []).take size
    if reportType = usbHidReportTypeFeature then
      let (next, frames) := queueFrame (updateFeatureCache port payload) .usbFeatureSet payload
      ⟨next, frames, buffer, size, true⟩
    else if reportType = usbHidReportTypeOutput then
      let (next, frames) := queueFrame port .usbHidOut payload
      ⟨next, frames, buffer, size, true⟩
    else completes port buffer size
  else if setup.bRequest = usbHidGetIdle ∨ setup.bRequest = usbHidGetProtocol then
    match buffer with
    | some (_ :: bytes) => completes port (some (0 :: bytes)) 1
    | _ => completes port buffer 0
  else completes port buffer 0

/-- The rest of the requests. -/
def otherControl : Result :=
  match handleAudioClassControl setup buffer with
  | some completion => ⟨port, [], completion⟩
  | none =>
      let size := payloadSize setup buffer
      if deviceToHost setup && isClass setup && setup.bRequestType &&& 0x03 == 0x02 &&
          (setup.wValue >>> 8).toUInt8 == 0x01 && decide (3 ≤ size) then
        completes port (buffer.map (writeFront · [0x80, 0xbb, 0x00])) 3
      else completes port buffer size

/-- `VdsEvtControlUrb`. -/
def evtControlUrb : Result :=
  let cleared := buffer.map fun bytes =>
    if deviceToHost setup then writeFront bytes (List.replicate (payloadSize setup buffer) 0)
    else bytes
  let reportType := reportTypeOf setup
  let reportId := reportIdOf setup
  let interfaceNumber := interfaceOf setup
  if deviceToHost setup ∧ isStandard setup ∧ setup.bRequest = usbRequestGetDescriptor ∧
      reportType = usbDescriptorTypeString then
    if reportId = 0 then responds port setup cleared (stringDescriptorOf none)
    else if reportId = 1 then
      responds port setup cleared (stringDescriptorOf (some usbManufacturerString))
    else if reportId = 2 then
      responds port setup cleared (stringDescriptorOf (some (productStringForProfile port.profile)))
    else completes port cleared 0
  else if deviceToHost setup ∧ isStandard setup ∧ toInterface setup ∧
      setup.bRequest = usbRequestGetInterface then
    if h : interfaceNumber < usbHidInterface + 1 then
      responds port setup cleared [port.interfaceAltsetting.get ⟨interfaceNumber, h⟩]
    else ⟨port, [], cleared, 0, false⟩
  else if !deviceToHost setup ∧ isStandard setup ∧ toInterface setup ∧
      setup.bRequest = usbRequestSetInterface then
    if h : interfaceNumber < usbHidInterface + 1 then
      completes
        { port with
          interfaceAltsetting := put port.interfaceAltsetting ⟨interfaceNumber, h⟩ reportId }
        cleared 0
    else ⟨port, [], cleared, 0, false⟩
  else if deviceToHost setup ∧ isStandard setup ∧ toInterface setup ∧
      setup.bRequest = usbRequestGetDescriptor ∧ interfaceNumber = usbHidInterface then
    if reportType = usbDescriptorTypeHidReport then
      responds port setup cleared (descriptorsForProfile port.profile).hidReport
    else if reportType = usbDescriptorTypeHid then
      responds port setup cleared (descriptorsForProfile port.profile).hid
    else completes port cleared 0
  else if isClass setup ∧ toInterface setup ∧ interfaceNumber = usbHidInterface then
    hidClassControl port setup cleared
  else otherControl port setup cleared

end Requests

end VirtualDualSense.WinDrv.ControlUrb
