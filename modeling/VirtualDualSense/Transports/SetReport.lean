import VirtualDualSense.UsbIp.CmdSubmit
import VirtualDualSense.WinDrv.ControlUrb

/-!
# SET_REPORT over the three transports

The Linux host controller, the USB/IP server and the Windows bus driver translate a HID
SET_REPORT into a frame for the daemon. The host controller puts the report id before data
that starts with it already, and the USB/IP server does not look at the report type, so
these two never hand over the same frame.
-/

namespace VirtualDualSense.Transports.SetReport

open Lib.Words Protocol.Frames Usb.Descriptors Hcd.UsbCore UsbIp UsbIp.Wire UsbIp.CmdSubmit
  WinDrv.ControlUrb

section Transfers

/-- A HID SET_REPORT. Its data starts with the report id and fills at most one packet. -/
structure Transfer where
  reportType : UInt8
  reportId : UInt8
  body : List UInt8
  body_lt : body.length < vdsControllerHidPacketSize

def Transfer.data (transfer : Transfer) : List UInt8 := transfer.reportId :: transfer.body

theorem Transfer.length_data_le (transfer : Transfer) :
    transfer.data.length ≤ vdsControllerHidPacketSize := transfer.body_lt

def Transfer.wValue (transfer : Transfer) : UInt16 :=
  transfer.reportId.toUInt16 ||| (transfer.reportType.toUInt16 <<< 8)

/-- The setup packet of a class request to the HID interface. -/
def Transfer.setup (transfer : Transfer) : UsbCtrlrequest :=
  ⟨0x21, hidReqSetReport, transfer.wValue, UInt16.ofNat usbHidInterface,
    UInt16.ofNat transfer.data.length⟩

/-- The setup packet on the wire. -/
def Transfer.setupBytes (transfer : Transfer) : Vector UInt8 8 :=
  #v[0x21, hidReqSetReport, transfer.reportId, transfer.reportType, UInt8.ofNat usbHidInterface, 0,
    UInt8.ofNat transfer.data.length, 0]

end Transfers

section Frames

/-- What the daemon sees of a frame. -/
abbrev Delivery := FrameType × List UInt8

/-- The frame of a call back into the host controller. -/
def deliveryOf : Call → Option Delivery
  | .setStatus _ _ => none
  | .notify type payload => some (type, payload)
  | .forward type payload _ => some (type, payload)

/-- The frames of the Linux host controller. -/
def hcdFrames (dev : UsbDevice) (urb : Urb) (transfer : Transfer) : List Delivery :=
  let submitted : Urb :=
    { urb with
      setupPacket := some transfer.setup
      transferBufferLength := transfer.data.length
      transferBuffer := some ⟨transfer.data.toArray, rfl⟩ }
  match (UsbDevice.controlUrb dev submitted).2.2 with
  | .returns calls _ => calls.filterMap deliveryOf
  | .featureGet _ _ => []

/-- The frames of the USB/IP server. -/
def usbipFrames (gainOfVolume : Int → Int) (port : Port) (cmd : UsbipCmdSubmit)
    (transfer : Transfer) : List Delivery :=
  let submitted : UsbipCmdSubmit :=
    { cmd with
      base := { cmd.base with ep := 0, direction := kDirOut }
      setup := transfer.setupBytes }
  match (beginSubmit gainOfVolume port submitted transfer.data).2 with
  | .ok frames => frames.map fun frame => (frame.type, frame.payload)
  | .error _ => []

/-- The frames of the Windows bus driver. -/
def sysFrames (port : PortState) (transfer : Transfer) : List Delivery :=
  (evtControlUrb port transfer.setup (some transfer.data)).frames.map fun queued =>
    (queued.frame.type, queued.frame.payload)

end Frames

section Translations

variable (dev : UsbDevice) (urb : Urb) (gainOfVolume : Int → Int) (port : Port)
variable (cmd : UsbipCmdSubmit) (sys : PortState) (transfer : Transfer)

theorem reportTypeOf_setup : reportTypeOf transfer.setup = transfer.reportType :=
  toUInt8_or_shiftRight _ _

theorem interfaceOf_setup : interfaceOf transfer.setup = usbHidInterface := by
  change (UInt16.ofNat usbHidInterface &&& 0xff).toNat = usbHidInterface
  decide

theorem hidInterface_controllerProfile : dev.controllerProfile.hidInterface = usbHidInterface := by
  rw [UsbDevice.controllerProfile]
  cases dev.profile <;> rfl

/-- The host controller repeats the report id and refuses the other report types. -/
theorem hcdFrames_eq : hcdFrames dev urb transfer =
    if transfer.reportType = hidReportTypeFeature then
      [(.usbFeatureSet, transfer.reportId :: transfer.data)]
    else [] := by
  have hinterface : interfaceOf transfer.setup = dev.controllerProfile.hidInterface := by
    rw [interfaceOf_setup, hidInterface_controllerProfile]
  have hlength : ¬transfer.data.length > vdsControllerHidPacketSize :=
    Nat.not_lt.mpr transfer.length_data_le
  have htype : (transfer.setup.wValue >>> 8).toUInt8 = transfer.reportType :=
    reportTypeOf_setup transfer
  have hid : transfer.setup.wValue.toUInt8 = transfer.reportId := toUInt8_or _ _
  have hstandard : ¬transfer.setup.bRequestType &&& 0x60 = 0x00 := by
    change ¬(0x21 : UInt8) &&& 0x60 = 0x00
    decide
  have hclass : transfer.setup.bRequestType &&& 0x60 = 0x20 ∧
      transfer.setup.bRequestType &&& 0x1f = 0x01 := by
    change (0x21 : UInt8) &&& 0x60 = 0x20 ∧ (0x21 : UInt8) &&& 0x1f = 0x01
    decide
  have hget : ¬transfer.setup.bRequest = hidReqGetReport := by
    change ¬hidReqSetReport = hidReqGetReport
    decide
  have hset : transfer.setup.bRequest = hidReqSetReport := rfl
  have hsome : ¬transfer.data.length = 0 := Nat.succ_ne_zero _
  rw [hcdFrames]
  dsimp only [UsbDevice.controlUrb]
  rw [if_neg hstandard, if_pos hclass, if_pos hinterface, hidControl]
  dsimp only
  rw [if_neg (not_not.mpr hinterface), if_neg hget, if_pos hset, htype, hid]
  by_cases hfeature : transfer.reportType = hidReportTypeFeature
  · rw [if_neg (not_not.mpr hfeature), if_neg hsome, if_neg hlength, if_pos hfeature]
    rfl
  · rw [if_pos hfeature, if_neg hfeature]
    rfl

theorem control_setupOf : (setupOf transfer.setupBytes).control = .setReport := by
  have hrequest : (setupOf transfer.setupBytes).bmRequestType = 0x21 := rfl
  have hset : (setupOf transfer.setupBytes).bRequest = 0x09 := rfl
  simp [Setup.control, Setup.requestType, Setup.deviceToHost, hrequest, hset]

/-- The USB/IP server hands every report over as a feature report. -/
theorem usbipFrames_eq : usbipFrames gainOfVolume port cmd transfer =
    [(.usbFeatureSet, transfer.data)] := by
  have hlength : ¬transfer.data.length > frameMaxPayload := by
    have := transfer.length_data_le
    rw [vdsControllerHidPacketSize] at this
    rw [frameMaxPayload]
    omega
  rw [usbipFrames]
  dsimp only [beginSubmit, branchOf]
  rw [if_pos rfl]
  dsimp only
  rw [control_setupOf]
  dsimp only [frameBytes]
  rw [dif_neg hlength]
  rfl

theorem payloadSize_setup :
    payloadSize transfer.setup (some transfer.data) = transfer.data.length := by
  have hle := transfer.length_data_le
  rw [vdsControllerHidPacketSize] at hle
  have hlength : transfer.setup.wLength.toNat = transfer.data.length := by
    change (UInt16.ofNat transfer.data.length).toNat = transfer.data.length
    rw [UInt16.toNat_ofNat']
    omega
  rw [payloadSize, hlength, Option.map_some, Option.getD_some, min_self]

/-- A frame that fits in the ring is queued as it is. -/
theorem map_queueFrame {port : PortState} {type : FrameType} {payload : List UInt8}
    (hpayload : payload.length ≤ frameMaxPayload)
    (hroom : port.controlRingSize + frameHeaderSize + payload.length ≤ controlRingCapacity) :
    (queueFrame port type payload).2.map (fun queued =>
      (queued.frame.type, queued.frame.payload)) = [(type, payload)] := by
  rw [queueFrame, frameBytes, dif_neg (Nat.not_lt.mpr hpayload)]
  dsimp only
  rw [if_neg (by omega), if_neg (by omega)]
  rfl

theorem controlRingSize_updateFeatureCache (payload : List UInt8) :
    (updateFeatureCache sys payload).controlRingSize = sys.controlRingSize := by
  cases payload <;> rfl

/-- The bus driver tells the report types apart. -/
theorem sysFrames_eq
    (hroom : sys.controlRingSize + frameHeaderSize + transfer.data.length ≤ controlRingCapacity) :
    sysFrames sys transfer =
      if transfer.reportType = usbHidReportTypeFeature then [(.usbFeatureSet, transfer.data)]
      else if transfer.reportType = usbHidReportTypeOutput then [(.usbHidOut, transfer.data)]
      else [] := by
  have hpayload : transfer.data.length ≤ frameMaxPayload :=
    transfer.length_data_le.trans (by decide)
  have hdirection : deviceToHost transfer.setup = false := by
    change ((0x21 : UInt8) &&& 0x80 != 0) = false
    decide
  have hstandard : isStandard transfer.setup = false := by
    change ((0x21 : UInt8) &&& 0x60 == 0x00) = false
    decide
  have hclass : isClass transfer.setup = true := by
    change ((0x21 : UInt8) &&& 0x60 == 0x20) = true
    decide
  have hrecipient : toInterface transfer.setup = true := by
    change ((0x21 : UInt8) &&& 0x03 == 0x01) = true
    decide
  have hset : transfer.setup.bRequest = usbHidSetReport := rfl
  have htake : ((some transfer.data).getD []).take transfer.data.length = transfer.data :=
    List.take_length
  have hcontrol : evtControlUrb sys transfer.setup (some transfer.data) =
      hidClassControl sys transfer.setup (some transfer.data) := by
    simp [evtControlUrb, hdirection, hstandard, hclass, hrecipient, interfaceOf_setup]
  rw [sysFrames, hcontrol]
  unfold hidClassControl
  dsimp only
  rw [if_neg (by simp [hdirection]), if_pos ⟨hset, by simp [hdirection]⟩, reportTypeOf_setup,
    payloadSize_setup, htake]
  by_cases hfeature : transfer.reportType = usbHidReportTypeFeature
  · rw [if_pos hfeature, if_pos hfeature]
    apply map_queueFrame hpayload
    rwa [controlRingSize_updateFeatureCache]
  · rw [if_neg hfeature, if_neg hfeature]
    by_cases houtput : transfer.reportType = usbHidReportTypeOutput
    · rw [if_pos houtput, if_pos houtput]
      exact map_queueFrame hpayload hroom
    · rw [if_neg houtput, if_neg houtput]
      rfl

end Translations

section Agreement

/-- The states of the three transports, and the URB and the submit around the transfer. -/
structure Hosts where
  dev : UsbDevice
  urb : Urb
  gainOfVolume : Int → Int
  port : Port
  cmd : UsbipCmdSubmit
  sys : PortState

/-- The transports hand over the same frames: the data of a feature report, and no
feature report for an output report. -/
structure Agrees (hosts : Hosts) (transfer : Transfer) : Prop where
  usbip : usbipFrames hosts.gainOfVolume hosts.port hosts.cmd transfer =
    hcdFrames hosts.dev hosts.urb transfer
  sys : sysFrames hosts.sys transfer = hcdFrames hosts.dev hosts.urb transfer
  feature : transfer.reportType = hidReportTypeFeature →
    hcdFrames hosts.dev hosts.urb transfer = [(.usbFeatureSet, transfer.data)]
  output : transfer.reportType = usbHidReportTypeOutput →
    ∀ delivery ∈ hcdFrames hosts.dev hosts.urb transfer, delivery.1 ≠ .usbFeatureSet

/-- On no transfer do the transports agree: of a feature report the host controller
delivers one byte more, and the other types are feature reports to the USB/IP server
only. -/
theorem transports_never_agree (hosts : Hosts) (transfer : Transfer) :
    ¬Agrees hosts transfer := by
  intro hagrees
  have hsame := hagrees.usbip
  rw [usbipFrames_eq, hcdFrames_eq] at hsame
  by_cases hfeature : transfer.reportType = hidReportTypeFeature
  · rw [if_pos hfeature] at hsame
    have hlength := congrArg (fun frames => (frames.map fun frame => frame.2.length).sum) hsame
    simp at hlength
  · rw [if_neg hfeature] at hsame
    cases hsame

/-- With room in its ring, the bus driver agrees with the USB/IP server on feature reports
only, and with the host controller on the types that are neither feature nor output. -/
theorem sysFrames_eq_iff (hosts : Hosts) (transfer : Transfer)
    (hroom : hosts.sys.controlRingSize + frameHeaderSize + transfer.data.length ≤
      controlRingCapacity) :
    (sysFrames hosts.sys transfer = usbipFrames hosts.gainOfVolume hosts.port hosts.cmd transfer ↔
      transfer.reportType = usbHidReportTypeFeature) ∧
    (sysFrames hosts.sys transfer = hcdFrames hosts.dev hosts.urb transfer ↔
      transfer.reportType ≠ usbHidReportTypeFeature ∧
        transfer.reportType ≠ usbHidReportTypeOutput) := by
  have hsame : hidReportTypeFeature = usbHidReportTypeFeature := rfl
  have hdistinct : ¬usbHidReportTypeOutput = usbHidReportTypeFeature := by
    decide
  rw [sysFrames_eq _ _ hroom, usbipFrames_eq, hcdFrames_eq, hsame]
  by_cases hfeature : transfer.reportType = usbHidReportTypeFeature
  · simp [hfeature]
  · by_cases houtput : transfer.reportType = usbHidReportTypeOutput
    · simp [houtput, hdistinct]
    · simp [hfeature, houtput]

/-- The three transports before the first transfer. -/
def freshHosts : Hosts where
  dev := .init .ds5
  urb := ⟨.control, 0, false, none, 0, none, [], 0, 0, 0, true, false, false⟩
  gainOfVolume := fun volume => volume
  port := .new .ds5
  cmd := ⟨⟨kCmdSubmit, 1, 1, kDirOut, 0⟩, 0, 3, 0, Vector.replicate 8 0⟩
  sys := ⟨.ds5, 0, 0, Vector.replicate _ 0, fun _ => Vector.replicate _ 0, fun _ => false,
    Vector.replicate _ 0⟩

/-- The command 0x80 for device 9 and action 2. -/
def deviceCommand : Transfer := ⟨hidReportTypeFeature, 0x80, [9, 2], by decide⟩

/-- The output report 0x02 with two bytes. -/
def shortOutput : Transfer := ⟨usbHidReportTypeOutput, 0x02, [0, 0], by decide⟩

/-- The host controller repeats the id of the command, and the USB/IP server sends the
output report as a feature report. -/
theorem deviceCommand_and_shortOutput_differ :
    hcdFrames freshHosts.dev freshHosts.urb deviceCommand =
        [(.usbFeatureSet, [0x80, 0x80, 9, 2])] ∧
      sysFrames freshHosts.sys deviceCommand = [(.usbFeatureSet, [0x80, 9, 2])] ∧
      usbipFrames freshHosts.gainOfVolume freshHosts.port freshHosts.cmd shortOutput =
        [(.usbFeatureSet, [0x02, 0, 0])] ∧
      sysFrames freshHosts.sys shortOutput = [(.usbHidOut, [0x02, 0, 0])] ∧
      ¬Agrees freshHosts deviceCommand ∧ ¬Agrees freshHosts shortOutput := by
  have hcommand : hcdFrames freshHosts.dev freshHosts.urb deviceCommand =
      [(.usbFeatureSet, [0x80, 0x80, 9, 2])] := by
    rw [hcdFrames_eq]
    rfl
  have houtput : usbipFrames freshHosts.gainOfVolume freshHosts.port freshHosts.cmd shortOutput =
      [(.usbFeatureSet, [0x02, 0, 0])] := by
    rw [usbipFrames_eq]
    rfl
  have hsysCommand : sysFrames freshHosts.sys deviceCommand =
      [(.usbFeatureSet, [0x80, 9, 2])] := by
    rw [sysFrames_eq _ _ (by decide)]
    rfl
  have hsysOutput : sysFrames freshHosts.sys shortOutput = [(.usbHidOut, [0x02, 0, 0])] := by
    rw [sysFrames_eq _ _ (by decide)]
    rfl
  refine ⟨hcommand, hsysCommand, houtput, hsysOutput, ?_, ?_⟩
  · intro hagrees
    have hfeature := hagrees.feature rfl
    rw [hcommand] at hfeature
    exact absurd hfeature (by decide)
  · intro hagrees
    have hsame := hagrees.usbip
    rw [houtput, ← hagrees.sys, hsysOutput] at hsame
    exact absurd hsame (by decide)

end Agreement

end VirtualDualSense.Transports.SetReport
