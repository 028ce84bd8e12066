import VirtualDualSense.Lib.Buffers
import VirtualDualSense.Protocol.Frames
import VirtualDualSense.Usb.Descriptors

/-!
# The USB device behind the host controller

The kernel's model of the controller: its configuration, its altsettings, the
audio controls and the cache of feature reports, and what it does with a control
transfer.

## Implementation notes

A handler calls back into the host controller after its section under the
device lock, so a control transfer yields the calls that are still to be made.
A read of a feature report that is not in the cache yields the request instead.
Errors are the negative numbers of the kernel.
-/

namespace VirtualDualSense.Hcd.UsbCore

open Lib.Buffers Protocol.Frames Usb.Descriptors

section Errno

def enoent : Int := -2
def eagain : Int := -11
def enomem : Int := -12
def ebusy : Int := -16
def einval : Int := -22
def enospc : Int := -28
def epipe : Int := -32
def eidrm : Int := -43
def eoverflow : Int := -75
def emsgsize : Int := -90
def eopnotsupp : Int := -95
def eshutdown : Int := -108

end Errno

section Constants

def usbReqGetStatus : UInt8 := 0x00
def usbReqClearFeature : UInt8 := 0x01
def usbReqSetFeature : UInt8 := 0x03
def usbReqSetAddress : UInt8 := 0x05
def usbReqGetDescriptor : UInt8 := 0x06
def usbReqGetConfiguration : UInt8 := 0x08
def usbReqSetConfiguration : UInt8 := 0x09
def usbReqGetInterface : UInt8 := 0x0a
def usbReqSetInterface : UInt8 := 0x0b

def usbDtDevice : UInt8 := 0x01
def usbDtConfig : UInt8 := 0x02
def usbDtString : UInt8 := 0x03
def usbDtDeviceQualifier : UInt8 := 0x06
def hidDtHid : UInt8 := 0x21
def hidDtReport : UInt8 := 0x22

def hidReqGetReport : UInt8 := 0x01
def hidReqGetIdle : UInt8 := 0x02
def hidReqGetProtocol : UInt8 := 0x03
def hidReqSetReport : UInt8 := 0x09
def hidReqSetIdle : UInt8 := 0x0a
def hidReqSetProtocol : UInt8 := 0x0b
def hidReportTypeFeature : UInt8 := 0x03

def uacCsReqSetCur : UInt8 := 0x01
def uacCsReqGetCur : UInt8 := 0x81
def uacCsReqGetMin : UInt8 := 0x82
def uacCsReqGetMax : UInt8 := 0x83
def uacCsReqGetRes : UInt8 := 0x84
def uacFuCtrlMute : UInt8 := 0x01
def uacFuCtrlVolume : UInt8 := 0x02

def vdsUsbSpkVolumeMin : Int16 := -25600
def vdsUsbSpkVolumeMax : Int16 := 0
def vdsUsbSpkVolumeRes : Int16 := 0x0100

def vdsControllerHidPacketSize : Nat := 64

def vdsUsbInterfaceHid : UInt8 := 0
def vdsUsbInterfaceAudioOut : UInt8 := 1
def vdsUsbInterfaceAudioIn : UInt8 := 2

end Constants

section Profiles

/-- `struct vds_controller_profile`. -/
structure ControllerProfile where
  productId : UInt16
  deviceVersion : UInt16
  deviceClass : UInt8
  deviceSubclass : UInt8
  deviceProtocol : UInt8
  maxPacketSize0 : UInt8
  numConfigurations : UInt8
  configurationValue : UInt8
  manufacturer : String
  product : String
  configurationDescriptor : List UInt8
  hidDescriptor : List UInt8
  hidReportDescriptor : List UInt8
  audioControlInterface : Nat
  audioOutInterface : Nat
  audioInInterface : Nat
  hidInterface : Nat
  audioOutEndpoint : Nat
  audioInEndpoint : Nat
  hidInEndpoint : Nat
  hidOutEndpoint : Nat
  hidInIntervalUs : Nat
  speakerFeatureUnit : Nat
  micFeatureUnit : Nat

def vdsDualsenseProfile : ControllerProfile where
  productId := 0x0ce6
  deviceVersion := 0x0100
  deviceClass := 0
  deviceSubclass := 0
  deviceProtocol := 0
  maxPacketSize0 := 64
  numConfigurations := 1
  configurationValue := 1
  manufacturer := usbManufacturerString
  product := ds5UsbProductString
  configurationDescriptor := ds5UsbConfigurationDescriptor
  hidDescriptor := ds5UsbHidDescriptor
  hidReportDescriptor := ds5UsbHidReportDescriptor
  audioControlInterface := usbAudioControlInterface
  audioOutInterface := usbAudioOutInterface
  audioInInterface := usbAudioInInterface
  hidInterface := usbHidInterface
  audioOutEndpoint := usbAudioOutEndpoint
  audioInEndpoint := usbAudioInEndpoint
  hidInEndpoint := usbHidInEndpoint
  hidOutEndpoint := usbHidOutEndpoint
  hidInIntervalUs := 4000
  speakerFeatureUnit := usbSpeakerFeatureUnit
  micFeatureUnit := usbMicFeatureUnit

def vdsDualsenseEdgeProfile : ControllerProfile :=
  { vdsDualsenseProfile with
    productId := 0x0df2
    product := dseUsbProductString
    configurationDescriptor := dseUsbConfigurationDescriptor
    hidDescriptor := dseUsbHidDescriptor
    hidReportDescriptor := dseUsbHidReportDescriptor
    hidInIntervalUs := 1000 }

def controllerProfileForProfile : Profile → ControllerProfile
  | .dse => vdsDualsenseEdgeProfile
  | .ds5 => vdsDualsenseProfile

/-- The two audio feature units. -/
inductive AudioFeature
  | speaker
  | mic
  deriving DecidableEq

/-- `vds_controller_audio_feature_index`. -/
def ControllerProfile.audioFeature (profile : ControllerProfile) (entityId : Nat) :
    Option AudioFeature :=
  if entityId = profile.speakerFeatureUnit then some .speaker
  else if entityId = profile.micFeatureUnit then some .mic
  else none

end Profiles

section Urbs

inductive PipeType
  | control
  | interrupt
  | isochronous
  | bulk
  deriving DecidableEq

/-- `struct usb_ctrlrequest`, its words in host order. -/
structure UsbCtrlrequest where
  bRequestType : UInt8
  bRequest : UInt8
  wValue : UInt16
  wIndex : UInt16
  wLength : UInt16
  deriving DecidableEq

structure IsoPacketDescriptor where
  offset : Nat
  length : Nat
  actualLength : Nat
  status : Int
  deriving DecidableEq

/-- The fields of a URB that the driver uses. `linked` and `unlinked` are the
USB core's record of the URB on its endpoint; `hcpriv` tells whether the URB
points to its context. -/
structure Urb where
  pipeType : PipeType
  endpoint : Nat
  dirIn : Bool
  setupPacket : Option UsbCtrlrequest
  transferBufferLength : Nat
  transferBuffer : Option (Vector UInt8 transferBufferLength)
  isoFrameDesc : List IsoPacketDescriptor
  actualLength : Nat
  errorCount : Nat
  startFrame : Int32
  linked : Bool
  unlinked : Bool
  hcpriv : Bool

/-- `vds_usb_copy_to_urb`. -/
def copyToUrb (urb : Urb) (data : List UInt8) : Urb × Int :=
  let copyLen := min data.length urb.transferBufferLength
  if copyLen ≠ 0 ∧ urb.transferBuffer.isNone then (urb, epipe)
  else
    ({ urb with
        transferBuffer := urb.transferBuffer.map fun buffer =>
          overwrite buffer 0 (data.take copyLen)
        actualLength := copyLen }, 0)

def le16 (word : UInt16) : List UInt8 := [word.toUInt8, (word >>> 8).toUInt8]

def stringDescriptor (string : String) : List UInt8 :=
  let text := (string.toList.take 126).flatMap fun c => [UInt8.ofNat c.toNat, 0]
  UInt8.ofNat (2 + text.length) :: usbDtString :: text

end Urbs

/-- `struct vds_usb_device`. An empty report is one that is not cached. -/
structure UsbDevice where
  profile : Profile
  address : UInt8
  configuration : UInt8
  audioOutAltsetting : UInt8
  audioInAltsetting : UInt8
  hidIdle : UInt8
  hidProtocol : UInt8
  audioMute : AudioFeature → UInt8
  audioVolume : AudioFeature → Int16
  featureCache : UInt8 → List UInt8

/-- `vds_usb_device_init` with a valid profile. -/
def UsbDevice.init (profile : Profile) : UsbDevice where
  profile := profile
  address := 0
  configuration := 0
  audioOutAltsetting := 0
  audioInAltsetting := 0
  hidIdle := 0
  hidProtocol := 0
  audioMute := fun _ => 0
  audioVolume := fun _ => vdsUsbSpkVolumeMin
  featureCache := fun _ => []

/-- `vds_usb_device_reset_state`: everything but the profile. -/
def UsbDevice.resetState (dev : UsbDevice) : UsbDevice := .init dev.profile

/-- `vds_usb_device_set_profile` with a valid profile. -/
def UsbDevice.setProfile (dev : UsbDevice) (profile : Profile) : UsbDevice :=
  { dev with profile := profile }.resetState

def UsbDevice.controllerProfile (dev : UsbDevice) : ControllerProfile :=
  controllerProfileForProfile dev.profile

/-- `vds_usb_device_update_feature_reply`. -/
def UsbDevice.updateFeatureReply (dev : UsbDevice) (payload : List UInt8) : UsbDevice × Int :=
  match payload with
  | [] => (dev, einval)
  | reportId :: _ =>
      if payload.length > vdsControllerHidPacketSize then (dev, einval)
      else ({ dev with featureCache := Function.update dev.featureCache reportId payload }, 0)

section Endpoints

def endpointNumber (address : Nat) : Nat := address % 16

def UsbDevice.isHidIn (dev : UsbDevice) (endpoint : Nat) : Bool :=
  endpoint == endpointNumber dev.controllerProfile.hidInEndpoint

def UsbDevice.isHidOut (dev : UsbDevice) (endpoint : Nat) : Bool :=
  endpoint == endpointNumber dev.controllerProfile.hidOutEndpoint

def UsbDevice.isAudioOut (dev : UsbDevice) (endpoint : Nat) : Bool :=
  endpoint == endpointNumber dev.controllerProfile.audioOutEndpoint

def UsbDevice.isAudioIn (dev : UsbDevice) (endpoint : Nat) : Bool :=
  endpoint == endpointNumber dev.controllerProfile.audioInEndpoint

end Endpoints

section Control

/-- The flags of `status_flags`, also as a mask of flags to change. -/
structure StatusFlags where
  connected : Bool
  configured : Bool
  hidEnabled : Bool
  audioEnabled : Bool
  deriving DecidableEq

/-- A call back into the host controller. A forwarded frame has to be queued for
the transfer to succeed, a notification does not. -/
inductive Call
  | setStatus (flags : StatusFlags) (enabled : Bool)
  | notify (type : FrameType) (payload : List UInt8)
  | forward (type : FrameType) (payload : List UInt8) (actualLength : Nat)

/-- What is left to do for a transfer after the section under the device lock. -/
inductive Handled
  | returns (calls : List Call) (ret : Int)
  | featureGet (reportId : UInt8) (requestedLength : UInt16)

/-- A transfer that only copies data to the URB. -/
def replies (dev : UsbDevice) (urb : Urb) (data : List UInt8) : UsbDevice × Urb × Handled :=
  let (urb, ret) := copyToUrb urb data
  (dev, urb, .returns [] ret)

variable (dev : UsbDevice) (urb : Urb) (setup : UsbCtrlrequest) (profile : ControllerProfile)

def interfaceOf : Nat := (setup.wIndex &&& 0xff).toNat

/-- `vds_usb_audio_control`. -/
def audioControl : UsbDevice × Urb × Handled :=
  let stalls : UsbDevice × Urb × Handled := (dev, urb, .returns [] epipe)
  let entityId := (setup.wIndex >>> 8).toNat
  let selector := (setup.wValue >>> 8).toUInt8
  if interfaceOf setup ≠ profile.audioControlInterface then stalls
  else
    match profile.audioFeature entityId with
    | none => stalls
    | some feature =>
        if setup.bRequestType &&& 0x80 ≠ 0 then
          if selector = uacFuCtrlMute then
            if setup.bRequest = uacCsReqGetCur then replies dev urb [dev.audioMute feature]
            else stalls
          else if selector = uacFuCtrlVolume then
            let volume (value : Int16) := replies dev urb (le16 value.toUInt16)
            if setup.bRequest = uacCsReqGetCur then volume (dev.audioVolume feature)
            else if setup.bRequest = uacCsReqGetMin then volume vdsUsbSpkVolumeMin
            else if setup.bRequest = uacCsReqGetMax then volume vdsUsbSpkVolumeMax
            else if setup.bRequest = uacCsReqGetRes then volume vdsUsbSpkVolumeRes
            else stalls
          else stalls
        else if setup.bRequest ≠ uacCsReqSetCur then stalls
        else
          match urb.transferBuffer.map Vector.toList with
          | none => stalls
          | some buffer =>
              if selector = uacFuCtrlMute then
                match buffer with
                | mute :: _ =>
                    ({ dev with audioMute := Function.update dev.audioMute feature mute },
                      { urb with actualLength := 1 }, .returns [] 0)
                | [] => stalls
              else if selector = uacFuCtrlVolume then
                match buffer with
                | low :: high :: _ =>
                    let volume := (low.toUInt16 ||| (high.toUInt16 <<< 8)).toInt16
                    ({ dev with audioVolume := Function.update dev.audioVolume feature volume },
                      { urb with actualLength := 2 }, .returns [] 0)
                | _ => stalls
              else stalls

/-- `vds_usb_hid_control`. -/
def hidControl : UsbDevice × Urb × Handled :=
  let stalls : UsbDevice × Urb × Handled := (dev, urb, .returns [] epipe)
  let reportType := (setup.wValue >>> 8).toUInt8
  let reportId := setup.wValue.toUInt8
  if interfaceOf setup ≠ profile.hidInterface then stalls
  else if setup.bRequest = hidReqGetReport then
    if reportType = hidReportTypeFeature then
      match dev.featureCache reportId with
      | [] => (dev, urb, .featureGet reportId setup.wLength)
      | report => replies dev urb report
    else replies dev urb (reportId :: List.replicate (vdsControllerHidPacketSize - 1) 0)
  else if setup.bRequest = hidReqSetReport then
    if reportType ≠ hidReportTypeFeature then stalls
    else if urb.transferBufferLength = 0 then
      (dev, { urb with actualLength := 0 }, .returns [] 0)
    else
      match urb.transferBuffer with
      | none => stalls
      | some buffer =>
          if urb.transferBufferLength > vdsControllerHidPacketSize then stalls
          else
            (dev, urb, .returns
              [.forward .usbFeatureSet (reportId :: buffer.toList) urb.transferBufferLength] 0)
  else if setup.bRequest = hidReqGetIdle then replies dev urb [dev.hidIdle]
  else if setup.bRequest = hidReqGetProtocol then replies dev urb [dev.hidProtocol]
  else if setup.bRequest = hidReqSetIdle then
    ({ dev with hidIdle := (setup.wValue >>> 8).toUInt8 }, urb, .returns [] 0)
  else if setup.bRequest = hidReqSetProtocol then
    ({ dev with hidProtocol := setup.wValue.toUInt8 }, urb, .returns [] 0)
  else stalls

/-- The device descriptor of a profile. -/
def deviceDescriptor : List UInt8 :=
  [18, usbDtDevice] ++ le16 0x0200 ++
    [profile.deviceClass, profile.deviceSubclass, profile.deviceProtocol, profile.maxPacketSize0] ++
    le16 0x054c ++ le16 profile.productId ++ le16 profile.deviceVersion ++
    [1, 2, 0, profile.numConfigurations]

def vdsQualifierDesc : List UInt8 :=
  [10, usbDtDeviceQualifier] ++ le16 0x0200 ++ [0, 0, 0, 64, 1, 0]

/-- The answer to a descriptor request, or a stall. -/
def getDescriptor : Option (List UInt8) :=
  let descType := (setup.wValue >>> 8).toUInt8
  let descIndex := setup.wValue.toUInt8
  if descType = usbDtDevice then some (deviceDescriptor profile)
  else if descType = usbDtConfig then some profile.configurationDescriptor
  else if descType = usbDtDeviceQualifier then some vdsQualifierDesc
  else if descType = usbDtString then
    if descIndex = 0 then some usbLanguageDescriptor
    else if descIndex = 1 then some (stringDescriptor profile.manufacturer)
    else if descIndex = 2 then some (stringDescriptor profile.product)
    else none
  else if descType = hidDtReport then
    if interfaceOf setup = profile.hidInterface then some profile.hidReportDescriptor else none
  else if descType = hidDtHid then
    if interfaceOf setup = profile.hidInterface then some profile.hidDescriptor else none
  else none

/-- `vds_usb_enqueue_interface_event`. -/
def interfaceEvent (interface : Nat) (altsetting interfaceType : UInt8) : Call :=
  .notify .usbInterface [UInt8.ofNat interface, altsetting, interfaceType, 0]

/-- `vds_usb_standard_control`. -/
def standardControl : UsbDevice × Urb × Handled :=
  let stalls : UsbDevice × Urb × Handled := (dev, urb, .returns [] epipe)
  let value := setup.wValue.toUInt8
  let interface := interfaceOf setup
  if setup.bRequest = usbReqGetDescriptor then
    match getDescriptor setup profile with
    | none => stalls
    | some data => replies dev urb data
  else if setup.bRequest = usbReqSetAddress then
    ({ dev with address := value &&& 0x7f }, urb, .returns [] 0)
  else if setup.bRequest = usbReqSetConfiguration then
    if setup.wValue ≠ 0 ∧ setup.wValue ≠ profile.configurationValue.toUInt16 then stalls
    else
      ({ dev with configuration := value, audioOutAltsetting := 0, audioInAltsetting := 0 }, urb,
        .returns [.setStatus ⟨false, true, true, false⟩ (value == profile.configurationValue),
          .setStatus ⟨false, false, false, true⟩ false] 0)
  else if setup.bRequest = usbReqGetConfiguration then replies dev urb [dev.configuration]
  else if setup.bRequest = usbReqSetInterface then
    if interface = profile.hidInterface then
      if setup.wValue ≠ 0 then stalls
      else (dev, urb, .returns [interfaceEvent interface 0 vdsUsbInterfaceHid] 0)
    else if setup.wValue > 1 then stalls
    else if interface = profile.audioOutInterface then
      ({ dev with audioOutAltsetting := value }, urb,
        .returns [.setStatus ⟨false, false, false, true⟩ (value == 1),
          interfaceEvent interface value vdsUsbInterfaceAudioOut] 0)
    else if interface = profile.audioInInterface then
      ({ dev with audioInAltsetting := value }, urb,
        .returns [interfaceEvent interface value vdsUsbInterfaceAudioIn] 0)
    else stalls
  else if setup.bRequest = usbReqGetInterface then
    if interface = profile.audioOutInterface then replies dev urb [dev.audioOutAltsetting]
    else if interface = profile.audioInInterface then replies dev urb [dev.audioInAltsetting]
    else if interface = profile.hidInterface then replies dev urb [0]
    else stalls
  else if setup.bRequest = usbReqGetStatus then replies dev urb (le16 0)
  else if setup.bRequest = usbReqClearFeature ∨ setup.bRequest = usbReqSetFeature then
    (dev, urb, .returns [] 0)
  else stalls

/-- `vds_usb_device_control_urb`: standard requests, and class requests to an
interface. -/
def UsbDevice.controlUrb : UsbDevice × Urb × Handled :=
  let profile := dev.controllerProfile
  match urb.setupPacket with
  | none => (dev, urb, .returns [] epipe)
  | some setup =>
      let urb := { urb with actualLength := 0 }
      if setup.bRequestType &&& 0x60 = 0x00 then standardControl dev urb setup profile
      else if setup.bRequestType &&& 0x60 = 0x20 ∧ setup.bRequestType &&& 0x1f = 0x01 then
        if interfaceOf setup = profile.hidInterface then hidControl dev urb setup profile
        else audioControl dev urb setup profile
      else (dev, urb, .returns [] epipe)

end Control

end VirtualDualSense.Hcd.UsbCore
