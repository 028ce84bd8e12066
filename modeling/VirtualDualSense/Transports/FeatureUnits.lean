import VirtualDualSense.Hcd.UsbCore
import VirtualDualSense.UsbIp.CmdSubmit

/-!
# The audio feature units over two transports

The controller has a feature unit for the speaker and one for the microphone. The Linux
device model keeps a mute and a volume for each. The USB/IP server keeps one mute and one
volume and does not look at the unit that a request addresses, so what is written to one
unit is read from the other, and the microphone's mute silences the speaker.
-/

namespace VirtualDualSense.Transports.FeatureUnits

open Lib.Buffers Lib.Words Usb.Descriptors Hcd.UsbCore UsbIp.Wire UsbIp.CmdSubmit

section Requests

inductive Selector
  | mute
  | volume
  deriving DecidableEq

def Selector.code : Selector → UInt8
  | .mute => uacFuCtrlMute
  | .volume => uacFuCtrlVolume

/-- What a request asks of a control. -/
inductive Operation
  | getCur (selector : Selector)
  | setMute (mute : UInt8)
  | setVolume (low high : UInt8)

def Operation.selector : Operation → Selector
  | .getCur selector => selector
  | .setMute _ => .mute
  | .setVolume _ _ => .volume

/-- The data stage as the host hands it over; the answer to a read is written to it. -/
def Operation.buffer : Operation → List UInt8
  | .getCur .mute => [0]
  | .getCur .volume => [0, 0]
  | .setMute mute => [mute]
  | .setVolume low high => [low, high]

def Operation.requestType : Operation → UInt8
  | .getCur _ => 0xa1
  | _ => 0x21

def Operation.request : Operation → UInt8
  | .getCur _ => uacCsReqGetCur
  | _ => uacCsReqSetCur

/-- The data stage that the host sends. -/
def Operation.outData : Operation → List UInt8
  | .getCur _ => []
  | operation => operation.buffer

/-- A class request to a feature unit. -/
structure Request where
  unit : AudioFeature
  channel : UInt8
  operation : Operation

def unitId : AudioFeature → UInt8
  | .speaker => UInt8.ofNat usbSpeakerFeatureUnit
  | .mic => UInt8.ofNat usbMicFeatureUnit

/-- The setup packet, addressed to the audio control interface 0. -/
def Request.setup (r : Request) : UsbCtrlrequest :=
  ⟨r.operation.requestType, r.operation.request,
    r.channel.toUInt16 ||| (r.operation.selector.code.toUInt16 <<< 8),
    (0 : UInt8).toUInt16 ||| ((unitId r.unit).toUInt16 <<< 8),
    UInt16.ofNat r.operation.buffer.length⟩

/-- The setup packet on the wire. -/
def Request.setupBytes (r : Request) : Vector UInt8 8 :=
  #v[r.operation.requestType, r.operation.request, r.channel, r.operation.selector.code, 0,
    unitId r.unit, UInt8.ofNat r.operation.buffer.length, 0]

end Requests

section Settings

/-- The controls of a feature unit. -/
structure Settings where
  mute : UInt8
  volume : Int16
  deriving DecidableEq

def Settings.write (settings : Settings) : Operation → Settings
  | .getCur _ => settings
  | .setMute mute => { settings with mute := mute }
  | .setVolume low high => { settings with volume := readLeS16 low high }

/-- The parameter block of a control. -/
def Settings.answer (settings : Settings) : Selector → List UInt8
  | .mute => [settings.mute]
  | .volume => writeLeS16 settings.volume

/-- What was last written to each unit. -/
def unitsAfter (initial : Settings) (requests : List Request) : AudioFeature → Settings :=
  requests.foldl (fun units r => Function.update units r.unit ((units r.unit).write r.operation))
    fun _ => initial

/-- What was last written to either unit. -/
def eitherAfter (initial : Settings) (requests : List Request) : Settings :=
  requests.foldl (fun settings r => settings.write r.operation) initial

/-- Every read in the sequence is answered with what was last written to its own unit. -/
def ReadsOwn (answer : List Request → Request → List UInt8) (initial : Settings)
    (requests : List Request) : Prop :=
  ∀ before r after selector, requests = before ++ r :: after → r.operation = .getCur selector →
    answer before r = (unitsAfter initial before r.unit).answer selector

def toSpeaker (r : Request) : Bool := r.unit = .speaker

end Settings

section Hcd

variable (dev : UsbDevice) (urb : Urb)

/-- The bytes that a transfer leaves in the buffer of its URB. -/
def transferred (urb : Urb) : List UInt8 :=
  ((urb.transferBuffer.map Vector.toList).getD []).take urb.actualLength

/-- The URB of a request. -/
def submittedUrb (r : Request) : Urb :=
  { urb with
    setupPacket := some r.setup
    transferBufferLength := r.operation.buffer.length
    transferBuffer := some ⟨r.operation.buffer.toArray, rfl⟩
    actualLength := 0 }

/-- The host controller's handling of a request: the device, and the bytes in the buffer. -/
def hcdRespond (r : Request) : UsbDevice × List UInt8 :=
  let handled := dev.controlUrb (submittedUrb urb r)
  (handled.1, transferred handled.2.1)

def hcdAfter (requests : List Request) : UsbDevice :=
  requests.foldl (fun dev r => (hcdRespond dev urb r).1) dev

/-- The device keeps what was written to each unit. -/
def Keeps (units : AudioFeature → Settings) : Prop :=
  ∀ unit, dev.audioMute unit = (units unit).mute ∧ dev.audioVolume unit = (units unit).volume

theorem interfaceOf_setup (r : Request) : interfaceOf r.setup = 0 := by
  rw [interfaceOf, Request.setup]
  dsimp only
  cases r.unit <;> decide

theorem audioFeature_setup (r : Request) :
    dev.controllerProfile.audioFeature (r.setup.wIndex >>> 8).toNat = some r.unit := by
  rw [UsbDevice.controllerProfile, Request.setup]
  dsimp only
  cases dev.profile <;> cases r.unit <;> decide

/-- A request to a feature unit gets to the audio control handler. -/
theorem controlUrb_eq {submitted : Urb} {r : Request} (h : submitted.setupPacket = some r.setup) :
    dev.controlUrb submitted =
      audioControl dev { submitted with actualLength := 0 } r.setup dev.controllerProfile := by
  have htype : r.setup.bRequestType = 0xa1 ∨ r.setup.bRequestType = 0x21 := by
    rw [Request.setup]
    cases r.operation with
    | getCur selector => exact .inl rfl
    | setMute mute => exact .inr rfl
    | setVolume low high => exact .inr rfl
  have hstandard : ¬r.setup.bRequestType &&& 0x60 = 0x00 := by
    obtain htype | htype := htype <;> rw [htype] <;> decide
  have hclass : r.setup.bRequestType &&& 0x60 = 0x20 ∧ r.setup.bRequestType &&& 0x1f = 0x01 := by
    obtain htype | htype := htype <;> rw [htype] <;> decide
  have hhid : ¬interfaceOf r.setup = dev.controllerProfile.hidInterface := by
    rw [interfaceOf_setup, UsbDevice.controllerProfile]
    cases dev.profile <;> decide
  rw [UsbDevice.controlUrb, h]
  dsimp only
  rw [if_neg hstandard, if_pos hclass, if_neg hhid]

theorem transferred_replies {urb : Urb} {data : List UInt8} (hbuffer : urb.transferBuffer.isSome)
    (hlength : data.length = urb.transferBufferLength) :
    transferred (replies dev urb data).2.1 = data := by
  obtain ⟨buffer, hbuffer⟩ := Option.isSome_iff_exists.mp hbuffer
  have hcopy : min data.length urb.transferBufferLength = data.length := by
    rw [hlength, min_self]
  have hwritten := toList_overwrite_end buffer hlength (Nat.le_refl _)
  rw [Nat.sub_self, List.take_zero, List.nil_append] at hwritten
  have hsome : ¬(min data.length urb.transferBufferLength ≠ 0 ∧ urb.transferBuffer.isNone) := by
    simp [hbuffer]
  rw [replies, copyToUrb]
  dsimp only
  rw [if_neg hsome]
  dsimp only [transferred]
  rw [hcopy, hbuffer, List.take_length]
  simp only [Option.map_some, Option.getD_some, hwritten, List.take_length]

theorem hcdRespond_audio (r : Request) : hcdRespond dev urb r =
    ((audioControl dev (submittedUrb urb r) r.setup dev.controllerProfile).1,
      transferred (audioControl dev (submittedUrb urb r) r.setup dev.controllerProfile).2.1) := by
  rw [hcdRespond, controlUrb_eq dev rfl]
  rfl

theorem audioControlInterface_setup (r : Request) :
    ¬interfaceOf r.setup ≠ dev.controllerProfile.audioControlInterface := by
  rw [interfaceOf_setup, UsbDevice.controllerProfile]
  cases dev.profile <;> decide

variable (unit : AudioFeature) (channel : UInt8)

theorem hcdRespond_getCur (selector : Selector) :
    hcdRespond dev urb ⟨unit, channel, .getCur selector⟩ =
      (dev, (⟨dev.audioMute unit, dev.audioVolume unit⟩ : Settings).answer selector) := by
  generalize hr : (⟨unit, channel, .getCur selector⟩ : Request) = r
  have hselector : (r.setup.wValue >>> 8).toUInt8 = selector.code := by
    rw [← hr]
    exact toUInt8_or_shiftRight channel selector.code
  have hfeature : dev.controllerProfile.audioFeature (r.setup.wIndex >>> 8).toNat = some unit := by
    rw [audioFeature_setup, ← hr]
  have hin : r.setup.bRequestType &&& 0x80 ≠ 0 := by
    rw [← hr]
    change (0xa1 : UInt8) &&& 0x80 ≠ 0
    decide
  have hget : r.setup.bRequest = uacCsReqGetCur := by
    rw [← hr]
    rfl
  have hbuffer : (submittedUrb urb r).transferBuffer.isSome := rfl
  have haudio : audioControl dev (submittedUrb urb r) r.setup dev.controllerProfile =
      replies dev (submittedUrb urb r)
        ((⟨dev.audioMute unit, dev.audioVolume unit⟩ : Settings).answer selector) := by
    unfold audioControl
    dsimp only
    rw [if_neg (audioControlInterface_setup dev r), hfeature]
    dsimp only
    rw [if_pos hin, hselector]
    cases selector with
    | mute =>
        have hmute : Selector.mute.code = uacFuCtrlMute := rfl
        rw [if_pos hmute, if_pos hget, Settings.answer]
    | volume =>
        have hvolume : Selector.volume.code = uacFuCtrlVolume := rfl
        rw [if_neg (by decide), if_pos hvolume, if_pos hget]
        rfl
  rw [hcdRespond_audio, haudio, transferred_replies dev hbuffer]
  · rfl
  · rw [← hr]
    cases selector <;> rfl

/-- The handler of a write, up to the selector. -/
theorem hcdRespond_setCur {r : Request} {selector : Selector} {data : List UInt8}
    (htype : r.setup.bRequestType = 0x21) (hrequest : r.setup.bRequest = uacCsReqSetCur)
    (hselector : r.operation.selector = selector) (hdata : r.operation.buffer = data) :
    (hcdRespond dev urb r).1 =
      match selector, data with
      | .mute, mute :: _ =>
          { dev with audioMute := Function.update dev.audioMute r.unit mute }
      | .volume, low :: high :: _ =>
          { dev with audioVolume := Function.update dev.audioVolume r.unit (readLeS16 low high) }
      | _, _ => dev := by
  have hcode : (r.setup.wValue >>> 8).toUInt8 = selector.code := by
    rw [← hselector]
    exact toUInt8_or_shiftRight r.channel r.operation.selector.code
  have hout : ¬r.setup.bRequestType &&& 0x80 ≠ 0 := by
    rw [htype]
    decide
  have hbuffer : (submittedUrb urb r).transferBuffer.map Vector.toList = some data := by
    rw [← hdata]
    rfl
  rw [hcdRespond_audio]
  unfold audioControl
  dsimp only
  rw [if_neg (audioControlInterface_setup dev r), audioFeature_setup]
  dsimp only
  rw [if_neg hout, if_neg (not_not.mpr hrequest), hbuffer, hcode]
  cases selector with
  | mute =>
      have hmute : Selector.mute.code = uacFuCtrlMute := rfl
      dsimp only
      rw [if_pos hmute]
      cases data <;> rfl
  | volume =>
      have hvolume : Selector.volume.code = uacFuCtrlVolume := rfl
      dsimp only
      rw [if_neg (by decide), if_pos hvolume]
      match data with
      | [] => rfl
      | [_] => rfl
      | _ :: _ :: _ => rfl

/-- One request: the device keeps what is written to a unit and answers with it. -/
theorem hcdRespond_keeps {units : AudioFeature → Settings} (keeps : Keeps dev units) (r : Request) :
    Keeps (hcdRespond dev urb r).1
      (Function.update units r.unit ((units r.unit).write r.operation)) := by
  obtain ⟨unit, channel, operation⟩ := r
  intro other
  cases operation with
  | getCur selector =>
      rw [hcdRespond_getCur, Settings.write, Function.update_eq_self]
      exact keeps other
  | setMute mute =>
      rw [hcdRespond_setCur dev urb rfl rfl rfl rfl]
      by_cases hother : other = unit
      · subst hother
        simp [Operation.selector, Operation.buffer, Settings.write, (keeps other).2]
      · simpa [Operation.selector, Operation.buffer, Function.update_of_ne hother] using keeps other
  | setVolume low high =>
      rw [hcdRespond_setCur dev urb rfl rfl rfl rfl]
      by_cases hother : other = unit
      · subst hother
        simp [Operation.selector, Operation.buffer, Settings.write, (keeps other).1]
      · simpa [Operation.selector, Operation.buffer, Function.update_of_ne hother] using keeps other

theorem keeps_foldl {units : AudioFeature → Settings} (keeps : Keeps dev units)
    (requests : List Request) : Keeps (hcdAfter dev urb requests) (requests.foldl (fun units r =>
      Function.update units r.unit ((units r.unit).write r.operation)) units) := by
  induction requests generalizing dev units with
  | nil => exact keeps
  | cons r rest ih => exact ih _ (hcdRespond_keeps dev urb keeps r)

/-- The device model answers every read with what was last written to its unit. -/
theorem readsOwn_hcd (profile : Profile) (requests : List Request) :
    ReadsOwn (fun before r => (hcdRespond (hcdAfter (.init profile) urb before) urb r).2)
      ⟨0, vdsUsbSpkVolumeMin⟩ requests := by
  rintro before ⟨unit, channel, operation⟩ after selector - rfl
  have keeps : Keeps (hcdAfter (.init profile) urb before)
      (unitsAfter ⟨0, vdsUsbSpkVolumeMin⟩ before) :=
    keeps_foldl (.init profile) urb (fun _ => ⟨rfl, rfl⟩) before
  obtain ⟨hmute, hvolume⟩ := keeps unit
  dsimp only
  rw [hcdRespond_getCur, hmute, hvolume]

end Hcd

section UsbIp

variable (gainOfVolume : Int → Int) (port : Port) (cmd : UsbipCmdSubmit)

/-- The USB/IP server's handling of a request: the port, and the data of the reply. -/
def usbipRespond (r : Request) : Port × List UInt8 :=
  let submitted : UsbipCmdSubmit :=
    { cmd with
      base := { cmd.base with ep := 0 }
      setup := r.setupBytes }
  let begun := (beginSubmit gainOfVolume port submitted r.operation.outData).1
  let finished := replyBody begun submitted none
  (finished.1, match finished.2 with
    | .ok body => body.data
    | .error _ => [])

def usbipAfter (requests : List Request) : Port :=
  requests.foldl (fun port r => (usbipRespond gainOfVolume port cmd r).1) port

/-- The gain of the speaker under a mute and a volume. -/
def gainOf (settings : Settings) : Int :=
  if settings.mute = 0 then gainOfVolume settings.volume.toInt else 0

/-- What the server makes of the controls: a mute is on or off. -/
def Settings.shown (settings : Settings) : Settings :=
  { settings with mute := if settings.mute = 0 then 0x00 else 0x01 }

/-- The server keeps what was last written to either unit. -/
structure Shares (settings : Settings) : Prop where
  mute : port.fuMuted = (settings.mute != 0)
  volume : port.fuVolumeDb256 = settings.volume.toInt
  gain : port.speakerGainQ15 = gainOf gainOfVolume settings

theorem setupOf_setupBytes (r : Request) : setupOf r.setupBytes =
    ⟨r.operation.requestType.toNat, r.operation.request.toNat,
      r.channel.toNat + 256 * r.operation.selector.code.toNat, 256 * (unitId r.unit).toNat,
      r.operation.buffer.length⟩ := by
  have hlength : r.operation.buffer.length < 256 := by
    cases r.operation with
    | getCur selector => cases selector <;> decide
    | setMute mute => exact (by decide : 1 < 256)
    | setVolume low high => exact (by decide : 2 < 256)
  have hwLength : (UInt8.ofNat r.operation.buffer.length).toNat + 256 * (0 : UInt8).toNat =
      r.operation.buffer.length := by
    rw [UInt8.toNat_ofNat_of_lt' hlength]
    rfl
  have hwIndex : (0 : UInt8).toNat + 256 * (unitId r.unit).toNat = 256 * (unitId r.unit).toNat :=
    Nat.zero_add _
  change (⟨_, _, _, (0 : UInt8).toNat + _, _ + 256 * (0 : UInt8).toNat⟩ : Setup) = _
  rw [← hwIndex, ← hwLength]
  rfl

theorem control_setupBytes (r : Request) : (setupOf r.setupBytes).control = .featureUnit := by
  rw [setupOf_setupBytes]
  cases r.operation with
  | getCur selector => simp [Setup.control, Setup.requestType, Operation.requestType,
      Operation.request, uacCsReqGetCur]
  | setMute mute => simp [Setup.control, Setup.requestType, Setup.deviceToHost,
      Operation.requestType, Operation.request, uacCsReqSetCur]
  | setVolume low high => simp [Setup.control, Setup.requestType, Setup.deviceToHost,
      Operation.requestType, Operation.request, uacCsReqSetCur]

theorem usbipRespond_eq (r : Request) : usbipRespond gainOfVolume port cmd r =
    let s := setupOf r.setupBytes
    let begun := if !s.deviceToHost && s.bRequest == 0x01 then
      setCur gainOfVolume port s r.operation.outData else port
    (begun, if s.deviceToHost then (featureUnitData begun s).take s.wLength
      else featureUnitData begun s) := by
  rw [usbipRespond]
  dsimp only [beginSubmit, branchOf, replyBody, controlBody]
  rw [if_pos rfl]
  dsimp only
  rw [control_setupBytes]
  dsimp only
  split_ifs <;> rfl

variable (unit : AudioFeature) (channel : UInt8)

theorem usbipRespond_getCur (selector : Selector) :
    usbipRespond gainOfVolume port cmd ⟨unit, channel, .getCur selector⟩ =
      (port, (⟨if port.fuMuted then 0x01 else 0x00, Int16.ofInt port.fuVolumeDb256⟩ :
        Settings).answer selector) := by
  have hchannel := channel.toNat_lt
  cases selector with
  | mute =>
      simp [usbipRespond_eq, setupOf_setupBytes, Setup.deviceToHost, Operation.requestType,
        Operation.request, Operation.selector, Operation.buffer, featureUnitData, hchannel,
        Selector.code, uacFuCtrlMute, Settings.answer]
  | volume =>
      have hselector : (channel.toNat + 512) / 256 = 2 := by
        omega
      simp [usbipRespond_eq, setupOf_setupBytes, Setup.deviceToHost, Operation.requestType,
        Operation.request, Operation.selector, Operation.buffer, featureUnitData, hselector,
        Selector.code, uacFuCtrlVolume, uacCsReqGetCur, Settings.answer, writeLeS16]

theorem usbipRespond_setMute (mute : UInt8) :
    (usbipRespond gainOfVolume port cmd ⟨unit, channel, .setMute mute⟩).1 =
      updateSpeakerGain gainOfVolume { port with fuMuted := mute != 0 } := by
  have hchannel := channel.toNat_lt
  simp [usbipRespond_eq, setupOf_setupBytes, Setup.deviceToHost, Operation.requestType,
    Operation.request, Operation.selector, Operation.buffer, Operation.outData, setCur, hchannel,
    Selector.code, uacFuCtrlMute, uacCsReqSetCur]

theorem usbipRespond_setVolume (low high : UInt8) :
    (usbipRespond gainOfVolume port cmd ⟨unit, channel, .setVolume low high⟩).1 =
      updateSpeakerGain gainOfVolume { port with fuVolumeDb256 := (readLeS16 low high).toInt } := by
  have hselector : (channel.toNat + 512) / 256 = 2 := by
    have hchannel := channel.toNat_lt
    omega
  simp [usbipRespond_eq, setupOf_setupBytes, Setup.deviceToHost, Operation.requestType,
    Operation.request, Operation.selector, Operation.buffer, Operation.outData, setCur, hselector,
    Selector.code, uacFuCtrlVolume, uacCsReqSetCur]

variable {port}

theorem shares_updateSpeakerGain {settings : Settings}
    (hmute : port.fuMuted = (settings.mute != 0))
    (hvolume : port.fuVolumeDb256 = settings.volume.toInt) :
    Shares gainOfVolume (updateSpeakerGain gainOfVolume port) settings := by
  refine ⟨hmute, hvolume, ?_⟩
  rw [updateSpeakerGain, gainOf, hmute, hvolume]
  by_cases hzero : settings.mute = 0
  · simp [hzero]
  · simp [hzero]

variable {gainOfVolume}

/-- One request: the server keeps what is written to either unit. -/
theorem usbipRespond_shares {settings : Settings} (shares : Shares gainOfVolume port settings)
    (r : Request) :
    Shares gainOfVolume (usbipRespond gainOfVolume port cmd r).1 (settings.write r.operation) := by
  obtain ⟨unit, channel, operation⟩ := r
  cases operation with
  | getCur selector =>
      rw [usbipRespond_getCur]
      exact shares
  | setMute mute =>
      rw [usbipRespond_setMute]
      exact shares_updateSpeakerGain gainOfVolume rfl shares.volume
  | setVolume low high =>
      rw [usbipRespond_setVolume]
      exact shares_updateSpeakerGain gainOfVolume shares.mute rfl

theorem shares_foldl {settings : Settings} (shares : Shares gainOfVolume port settings)
    (requests : List Request) : Shares gainOfVolume (usbipAfter gainOfVolume port cmd requests)
      (requests.foldl (fun settings r => settings.write r.operation) settings) := by
  induction requests generalizing port settings with
  | nil => exact shares
  | cons r rest ih => exact ih (usbipRespond_shares cmd shares r)

/-- A read is answered with what was last written to either unit. -/
theorem answer_of_shares {settings : Settings} (shares : Shares gainOfVolume port settings)
    (selector : Selector) :
    (usbipRespond gainOfVolume port cmd ⟨unit, channel, .getCur selector⟩).2 =
      settings.shown.answer selector := by
  rw [usbipRespond_getCur, shares.mute, shares.volume, Int16.ofInt_toInt, Settings.shown]
  by_cases hzero : settings.mute = 0
  · simp [hzero]
  · simp [hzero]

end UsbIp

section Isolation

variable (gainOfVolume : Int → Int) (profile : Profile) (urb : Urb) (cmd : UsbipCmdSubmit)

/-- The units are isolated along a sequence of requests: both transports answer every read
with what was last written to its unit, and the gain of the speaker is that of the requests
to the speaker unit alone. -/
structure Isolated (requests : List Request) : Prop where
  hcd : ReadsOwn (fun before r => (hcdRespond (hcdAfter (.init profile) urb before) urb r).2)
    ⟨0, vdsUsbSpkVolumeMin⟩ requests
  usbip : ReadsOwn (fun before r =>
    (usbipRespond gainOfVolume (usbipAfter gainOfVolume (.new profile) cmd before) cmd r).2)
    ⟨0, 0⟩ requests
  gain : ∀ before after, requests = before ++ after →
    (usbipAfter gainOfVolume (.new profile) cmd before).speakerGainQ15 =
      (usbipAfter gainOfVolume (.new profile) cmd (before.filter toSpeaker)).speakerGainQ15

/-- What was last written to either unit is, where it is read, what was last written to the
unit, and gives the gain of what was last written to the speaker. -/
structure Unmixed (requests : List Request) : Prop where
  reads : ∀ before r after selector, requests = before ++ r :: after →
    r.operation = .getCur selector → (eitherAfter ⟨0, 0⟩ before).shown.answer selector =
      (unitsAfter ⟨0, 0⟩ before r.unit).answer selector
  gains : ∀ before after, requests = before ++ after →
    gainOf gainOfVolume (eitherAfter ⟨0, 0⟩ before) =
      gainOf gainOfVolume (unitsAfter ⟨0, 0⟩ before .speaker)

theorem foldl_filter_toSpeaker (requests : List Request) (units : AudioFeature → Settings) :
    (requests.filter toSpeaker).foldl (fun settings r => settings.write r.operation)
        (units .speaker) =
      requests.foldl (fun units r =>
        Function.update units r.unit ((units r.unit).write r.operation)) units .speaker := by
  induction requests generalizing units with
  | nil => rfl
  | cons r rest ih =>
      rw [List.foldl_cons, ← ih, List.filter_cons]
      by_cases hspeaker : r.unit = .speaker
      · rw [if_pos (by simpa [toSpeaker] using hspeaker), List.foldl_cons, hspeaker,
          Function.update_self]
      · rw [if_neg (by simpa [toSpeaker] using hspeaker), Function.update_of_ne (Ne.symm hspeaker)]

theorem eitherAfter_filter (initial : Settings) (requests : List Request) :
    eitherAfter initial (requests.filter toSpeaker) = unitsAfter initial requests .speaker :=
  foldl_filter_toSpeaker requests fun _ => initial

/-- The port shares the controls from the start: at 0 dB the gain is that of the new port. -/
theorem shares_usbipAfter (hzero : gainOfVolume 0 = 2 ^ 15) (requests : List Request) :
    Shares gainOfVolume (usbipAfter gainOfVolume (.new profile) cmd requests)
      (eitherAfter ⟨0, 0⟩ requests) := by
  refine shares_foldl cmd ⟨rfl, rfl, ?_⟩ requests
  rw [gainOf, if_pos rfl]
  exact hzero.symm

/-- A mute that is written as 0 or 1 is shown as it was written. -/
theorem shown_foldl {requests : List Request} {settings : Settings}
    (hmute : ∀ r ∈ requests, ∀ mute, r.operation = .setMute mute → mute = 0 ∨ mute = 1)
    (hshown : settings.shown = settings) :
    (requests.foldl (fun settings r => settings.write r.operation) settings).shown =
      requests.foldl (fun settings r => settings.write r.operation) settings := by
  induction requests generalizing settings with
  | nil => exact hshown
  | cons r rest ih =>
      refine ih (fun later hlater => hmute later (List.mem_cons_of_mem _ hlater)) ?_
      dsimp only
      cases hoperation : r.operation with
      | getCur selector => exact hshown
      | setMute mute =>
          obtain rfl | rfl := hmute r List.mem_cons_self mute hoperation
          · rfl
          · rfl
      | setVolume low high =>
          exact congrArg (fun mute => (⟨mute, readLeS16 low high⟩ : Settings))
            (congrArg Settings.mute hshown)

/-- Requests to the speaker alone do not mix the units. -/
theorem unmixed_of_speaker {requests : List Request} (hspeaker : ∀ r ∈ requests, r.unit = .speaker)
    (hmute : ∀ r ∈ requests, ∀ mute, r.operation = .setMute mute → mute = 0 ∨ mute = 1) :
    Unmixed gainOfVolume requests := by
  have heither : ∀ before after, requests = before ++ after →
      eitherAfter ⟨0, 0⟩ before = unitsAfter ⟨0, 0⟩ before .speaker := by
    rintro before after rfl
    rw [← eitherAfter_filter, List.filter_eq_self.mpr]
    intro r hr
    simpa [toSpeaker] using hspeaker r (List.mem_append_left _ hr)
  have hshown : ∀ before after, requests = before ++ after →
      (eitherAfter ⟨0, 0⟩ before).shown = eitherAfter ⟨0, 0⟩ before := by
    rintro before after rfl
    exact shown_foldl (fun r hr => hmute r (List.mem_append_left _ hr)) rfl
  refine ⟨?_, ?_⟩
  · intro before r after selector hsplit _
    rw [hshown before _ hsplit, heither before _ hsplit,
      hspeaker r (hsplit ▸ List.mem_append_right _ List.mem_cons_self)]
  · intro before after hsplit
    rw [heither before after hsplit]

end Isolation

/-- The units are isolated along exactly those sequences in which it makes no difference to
which unit a control was last written. -/
theorem isolated_iff_unmixed (gainOfVolume : Int → Int) (hzero : gainOfVolume 0 = 2 ^ 15)
    (profile : Profile) (urb : Urb) (cmd : UsbipCmdSubmit) (requests : List Request) :
    Isolated gainOfVolume profile urb cmd requests ↔ Unmixed gainOfVolume requests := by
  have hshares := shares_usbipAfter gainOfVolume profile cmd hzero
  constructor
  · rintro ⟨-, husbip, hgain⟩
    refine ⟨?_, ?_⟩
    · rintro before ⟨unit, channel, operation⟩ after selector hsplit rfl
      rw [← husbip before _ after selector hsplit rfl]
      exact (answer_of_shares cmd unit channel (hshares before) selector).symm
    · intro before after hsplit
      rw [← eitherAfter_filter, ← (hshares before).gain, ← (hshares _).gain]
      exact hgain before after hsplit
  · rintro ⟨hreads, hgains⟩
    refine ⟨readsOwn_hcd urb profile requests, ?_, ?_⟩
    · rintro before ⟨unit, channel, operation⟩ after selector hsplit rfl
      rw [← hreads before _ after selector hsplit rfl]
      exact answer_of_shares cmd unit channel (hshares before) selector
    · intro before after hsplit
      rw [(hshares before).gain, (hshares _).gain, eitherAfter_filter]
      exact hgains before after hsplit

section Sequences

/-- The gain of a volume at 0 dB and from -100 dB down. -/
def gainAtEnds (volume : Int) : Int := if volume < 0 then 0 else 2 ^ 15

def controlUrb : Urb := ⟨.control, 0, false, none, 0, none, [], 0, 0, 0, true, false, false⟩

def controlSubmit : UsbipCmdSubmit :=
  ⟨⟨kCmdSubmit, 1, 1, kDirOut, 0⟩, 0, 0, 0, Vector.replicate 8 0⟩

/-- The host turns the speaker down, mutes it and reads both controls back. -/
def speakerRequests : List Request :=
  [⟨.speaker, 0, .setVolume 0x00 0x9c⟩, ⟨.speaker, 0, .setMute 1⟩, ⟨.speaker, 0, .getCur .mute⟩,
    ⟨.speaker, 1, .getCur .volume⟩]

/-- The host mutes the microphone and reads the speaker's mute. -/
def micMuteRequests : List Request :=
  [⟨.mic, 0, .setMute 1⟩, ⟨.speaker, 0, .getCur .mute⟩]

end Sequences

theorem isolated_speakerRequests : gainAtEnds 0 = 2 ^ 15 ∧
    Isolated gainAtEnds .ds5 controlUrb controlSubmit speakerRequests := by
  refine ⟨rfl, (isolated_iff_unmixed gainAtEnds rfl .ds5 controlUrb controlSubmit _).mpr ?_⟩
  refine unmixed_of_speaker gainAtEnds ?_ ?_
  · simp [speakerRequests]
  · simp [speakerRequests]

/-- Muting the microphone mutes and silences the speaker. -/
theorem micMute_mutes_speaker :
    (usbipRespond gainAtEnds
      (usbipAfter gainAtEnds (.new .ds5) controlSubmit [⟨.mic, 0, .setMute 1⟩]) controlSubmit
      ⟨.speaker, 0, .getCur .mute⟩).2 = [1] ∧
    (usbipAfter gainAtEnds (.new .ds5) controlSubmit micMuteRequests).speakerGainQ15 = 0 ∧
    ¬Isolated gainAtEnds .ds5 controlUrb controlSubmit micMuteRequests := by
  refine ⟨by decide, by decide, fun isolated => ?_⟩
  have hread := isolated.usbip [⟨.mic, 0, .setMute 1⟩] ⟨.speaker, 0, .getCur .mute⟩ [] .mute rfl rfl
  revert hread
  decide

end VirtualDualSense.Transports.FeatureUnits
