import VirtualDualSense.UsbIp.CmdSubmit

/-!
# Framing of submit replies

A USB/IP client reads a 48-byte header in network order, then the data, then the
packet descriptors, and drops the connection when these disagree. The results
here read the bytes that the server puts on the socket back in that way.
-/

namespace VirtualDualSense.UsbIp.ReplyFraming

open Lib.Words Protocol.Frames Usb.Descriptors Wire CmdSubmit

/-- The rest of a submit once its wait is over, in the port found at that moment. -/
def completeSubmit (port : Port) (cmd : UsbipCmdSubmit) (iso : List UsbipIsoPacketDescriptor) :
    Port × Except String SubmitReply :=
  let taken := takeFrame port (waitOf cmd)
  finishSubmit taken.1 cmd iso taken.2

def headerSize : Nat := 48
def packetSize : Nat := 16

/-- The ten words of the header, as the client reads them. -/
def headerWords (bytes : List UInt8) : List UInt32 := readBeWords (bytes.take 40)

/-- The words of the last `packets` descriptors, as the client reads them. -/
def packetWords (packets : Nat) (bytes : List UInt8) : List UInt32 :=
  readBeWords (bytes.drop (bytes.length - packetSize * packets))

/-- The signed `actual_length` of the header, as the client reads it. -/
def actualLengthOf (bytes : List UInt8) : Int := ((headerWords bytes).getD 6 0).toInt32.toInt

section Bytes

/-- The length a reply reports. -/
def reportedLength (cmd : UsbipCmdSubmit) (body : Body) (iso : List UsbipIsoPacketDescriptor) :
    UInt32 :=
  if cmd.numberOfPackets > 0 then (iso.map (packetActual cmd.base.direction body.data.length)).sum
  else UInt32.ofNat body.data.length

theorem buildReply_header (cmd : UsbipCmdSubmit) (body : Body)
    (iso : List UsbipIsoPacketDescriptor) :
    headerWords ((buildReply cmd body iso).bytes cmd) =
      [kRetSubmit, cmd.base.seqnum, cmd.base.devid, cmd.base.direction, cmd.base.ep,
        body.status.toUInt32, reportedLength cmd body iso, 0, body.numberOfPackets.toUInt32,
        0] := by
  rw [← readBeWords_swapped [kRetSubmit, _, _, _, _, _, _, _, _, _]]
  rfl

theorem length_ret_bytes (ret : UsbipRetSubmit) : ret.bytes.length = headerSize := by
  simp [UsbipRetSubmit.bytes, UsbipHeaderBasic.words, headerSize]

theorem actualLengthOf_buildReply (cmd : UsbipCmdSubmit) (body : Body)
    (iso : List UsbipIsoPacketDescriptor) :
    actualLengthOf ((buildReply cmd body iso).bytes cmd) =
      (reportedLength cmd body iso).toInt32.toInt := by
  rw [actualLengthOf, buildReply_header]
  rfl

end Bytes

section Requested

/-- The sizes of the descriptors of a profile. -/
def descriptorLength (profile : Profile) (wValue : Nat) : Nat :=
  if wValue / 256 = 0x01 then 18
  else if wValue / 256 = 0x02 then 227
  else if wValue / 256 = 0x21 then 9
  else if wValue / 256 = 0x22 then
    match profile with
    | .ds5 => 289
    | .dse => 405
  else if wValue / 256 = 0x03 then
    if wValue % 256 = 0 then 4
    else if wValue % 256 = 1 then 62
    else if wValue % 256 = 2 then
      match profile with
      | .ds5 => 60
      | .dse => 70
    else 0
  else 0

/-- The size of the oldest frame of a queue that has the given type. -/
def frontLength (type : FrameType) (queue : List Frame) : Nat :=
  match queue.head? with
  | some frame => if frame.type = type then frame.payload.length else 0
  | none => 0

/-- The size of the item that a control request asks for. -/
def itemLength (port : Port) (s : Setup) : Nat :=
  match s.control with
  | .getDescriptor => descriptorLength port.profile s.wValue
  | .getReport => frontLength .usbFeatureReply port.featureReplyQueue
  | .featureUnit =>
      if s.deviceToHost = false then 0
      else if s.wValue / 256 = 0x01 then 1
      else if s.wValue / 256 = 0x02 then 2
      else 0
  | _ => 0

/-- The number of bytes a non-isochronous IN submit asks for. -/
def requestedLength (port : Port) (cmd : UsbipCmdSubmit) : Nat :=
  match branchOf cmd with
  | .control s => min s.wLength (itemLength port s)
  | .hidIn => (port.hidInQueue.head?.map (·.payload.length)).getD 0
  | _ => 0

theorem length_buildStringDescriptor (text : String) :
    (buildStringDescriptor text).length = 2 + 2 * text.toList.length := by
  have hunits (cs : List Char) :
      (cs.flatMap fun c => [UInt8.ofNat c.toNat, 0x00]).length = 2 * cs.length := by
    induction cs with
    | nil => rfl
    | cons c rest ih =>
        simp only [List.flatMap_cons, List.length_append, ih, List.length_cons, List.length_nil]
        omega
  simp only [buildStringDescriptor, List.length_cons, hunits]
  omega

theorem length_descriptorBytes (profile : Profile) (s : Setup) :
    (descriptorBytes profile s).length = descriptorLength profile s.wValue := by
  simp only [descriptorBytes, descriptorLength, apply_ite List.length, List.length_nil,
    length_buildStringDescriptor]
  cases profile with
  | ds5 =>
      simp only [descriptorsForProfile, length_ds5UsbDeviceDescriptor,
        length_ds5UsbConfigurationDescriptor, length_ds5UsbHidDescriptor,
        length_ds5UsbHidReportDescriptor]
      rfl
  | dse =>
      simp only [descriptorsForProfile, length_dseUsbDeviceDescriptor,
        length_dseUsbConfigurationDescriptor, length_dseUsbHidDescriptor,
        length_dseUsbHidReportDescriptor]
      rfl

theorem length_featureUnitData (port : Port) (s : Setup) (h : s.control = .featureUnit) :
    (featureUnitData port s).length = min s.wLength (itemLength port s) := by
  unfold featureUnitData itemLength
  rw [h]
  cases hdir : s.deviceToHost with
  | false => simp
  | true =>
      by_cases hmute : s.wValue / 256 = 0x01
      · simp [hmute]
      · by_cases hvolume : s.wValue / 256 = 0x02
        · simp [hvolume, writeLeS16, apply_ite List.length]
        · simp [hmute, hvolume]

/-- The last clamp of the control branch never cuts anything. -/
theorem ite_take_eq_self {data : List UInt8} {n : Nat} (b : Bool) (h : data.length ≤ n) :
    (if b then data.take n else data) = data := by
  split
  · exact List.take_of_length_le h
  · rfl

theorem length_controlBody (port : Port) (s : Setup) (waited : Option Frame)
    (h : s.control = .getReport → waited = port.featureReplyQueue.head?) :
    (controlBody port s waited).data.length = min s.wLength (itemLength port s) := by
  unfold controlBody
  cases hc : s.control with
  | getDescriptor =>
      simp only
      rw [ite_take_eq_self _ (List.length_take_le _ _), List.length_take, length_descriptorBytes,
        itemLength, hc]
  | getReport =>
      simp only [h hc]
      rw [itemLength, hc, frontLength]
      cases hq : port.featureReplyQueue.head? with
      | none => simp [Frame.default]
      | some frame =>
          simp only [Option.getD_some]
          rw [ite_take_eq_self]
          · by_cases htype : frame.type = .usbFeatureReply <;> simp [htype]
          · split
            · exact List.length_take_le _ _
            · exact Nat.zero_le _
  | featureUnit =>
      have hlen := length_featureUnitData port s hc
      simp only
      rw [ite_take_eq_self _ (by omega), hlen]
  | setConfiguration => simp [hc, itemLength]
  | setInterface => simp [hc, itemLength]
  | setReport => simp [hc, itemLength]
  | stall => simp [hc, itemLength]

/-- The control branch reads nothing that a wait changes. -/
theorem controlBody_takeFrame (port : Port) (wait : Option Wait) (s : Setup)
    (waited : Option Frame) :
    controlBody (takeFrame port wait).1 s waited = controlBody port s waited := by
  rcases wait with _ | (_ | _) <;> rfl

theorem length_replyBody {port : Port} {cmd : UsbipCmdSubmit} {body : Body}
    (h : (replyBody (takeFrame port (waitOf cmd)).1 cmd (takeFrame port (waitOf cmd)).2).2 =
      .ok body) (hbranch : branchOf cmd ≠ .audioIn) :
    body.data.length = requestedLength port cmd := by
  unfold replyBody at h
  cases hb : branchOf cmd with
  | control s =>
      simp only [hb, controlBody_takeFrame, Except.ok.injEq] at h
      obtain rfl := h
      rw [length_controlBody, requestedLength, hb]
      intro hreport
      simp [waitOf, hb, hreport, takeFrame]
  | hidIn =>
      simp only [hb, waitOf, takeFrame, Except.ok.injEq] at h
      obtain rfl := h
      rw [requestedLength, hb]
      cases port.hidInQueue.head? <;> rfl
  | audioIn => exact absurd hb hbranch
  | hidOut =>
      simp only [hb, Except.ok.injEq] at h
      obtain rfl := h
      simp [requestedLength, hb]
  | audioOut =>
      simp only [hb, Except.ok.injEq] at h
      obtain rfl := h
      simp [requestedLength, hb]
  | unknown =>
      simp only [hb, Except.ok.injEq] at h
      obtain rfl := h
      simp [requestedLength, hb]

/-- Descriptors, frames and words all fit in 16 bits. -/
theorem requestedLength_lt (port : Port) (cmd : UsbipCmdSubmit) :
    requestedLength port cmd < 2 ^ 17 := by
  unfold requestedLength
  cases hb : branchOf cmd with
  | control s =>
      obtain rfl : s = setupOf cmd.setup := by
        unfold branchOf at hb
        split_ifs at hb
        exact (Branch.control.inj hb).symm
      have hlo := cmd.setup[6].toNat_lt
      have hhi := cmd.setup[7].toNat_lt
      have hle : min (setupOf cmd.setup).wLength (itemLength port (setupOf cmd.setup)) ≤
          cmd.setup[6].toNat + 256 * cmd.setup[7].toNat := Nat.min_le_left _ _
      simp only
      omega
  | hidIn =>
      cases hq : port.hidInQueue.head? with
      | none => simp
      | some frame =>
          have hle := frame.payload_le
          simp only [frameMaxPayload] at hle
          simp only [Option.map_some, Option.getD_some]
          omega
  | _ => simp

/-- `take_mic_bytes` returns exactly the requested number of bytes, unless no
vector can hold them. -/
theorem length_takeMicBytes {port : Port} {count : Nat} {bytes : List UInt8}
    (h : (takeMicBytes port count).2 = .ok bytes) : bytes.length = count ∧ count < 2 ^ 63 := by
  have hle : port.micRingBuffer.length ≤ 23040 := port.micRingBuffer_le
  simp only [takeMicBytes, ge_iff_le] at h
  split_ifs at h with hprime henough hsilent hshort
  · obtain rfl := Except.ok.inj h
    exact ⟨List.length_replicate, by omega⟩
  · obtain rfl := Except.ok.inj h
    rw [List.length_take]
    omega
  · obtain rfl := Except.ok.inj h
    rw [List.length_append, List.length_replicate]
    omega

theorem length_replyBody_audioIn {port : Port} {cmd : UsbipCmdSubmit} {waited : Option Frame}
    {body : Body} (h : (replyBody port cmd waited).2 = .ok body)
    (hbranch : branchOf cmd = .audioIn) :
    (body.data.length : Int) = cmd.transferBufferLength.toInt := by
  simp only [replyBody, hbranch] at h
  cases htaken : (takeMicBytes port (sizeOfInt32 cmd.transferBufferLength)).2 with
  | error e =>
      rw [htaken] at h
      cases h
  | ok bytes =>
      obtain ⟨hlen, hlt⟩ := length_takeMicBytes htaken
      rw [htaken] at h
      obtain rfl := Except.ok.inj h
      have hlo := cmd.transferBufferLength.le_toInt
      have hhi := cmd.transferBufferLength.toInt_lt
      simp only [hlen]
      unfold sizeOfInt32 at hlt ⊢
      omega

end Requested

/-- What a client requires of the reply to an IN submit without packets. -/
structure InReplyFits (cmd : UsbipCmdSubmit) (bytes : List UInt8) : Prop where
  data : actualLengthOf bytes = bytes.length - headerSize
  buffer : actualLengthOf bytes ≤ cmd.transferBufferLength.toInt
  wLength : cmd.base.ep = 0 → actualLengthOf bytes ≤ (setupOf cmd.setup).wLength

section InReplies

theorem completeSubmit_ok {port : Port} {cmd : UsbipCmdSubmit}
    {iso : List UsbipIsoPacketDescriptor} {reply : SubmitReply}
    (h : (completeSubmit port cmd iso).2 = .ok reply) :
    ∃ body, (replyBody (takeFrame port (waitOf cmd)).1 cmd (takeFrame port (waitOf cmd)).2).2 =
      .ok body ∧ reply = buildReply cmd body iso := by
  simp only [completeSubmit, finishSubmit] at h
  cases hbody : (replyBody (takeFrame port (waitOf cmd)).1 cmd
      (takeFrame port (waitOf cmd)).2).2 with
  | error e =>
      rw [hbody] at h
      cases h
  | ok body =>
      rw [hbody] at h
      exact ⟨body, rfl, (Except.ok.inj h).symm⟩

theorem length_bytes_of_no_packets {cmd : UsbipCmdSubmit} (hpackets : cmd.numberOfPackets ≤ 0)
    (body : Body) :
    ((buildReply cmd body []).bytes cmd).length = headerSize + body.data.length := by
  have hpace : paceOut cmd = false := by
    simp [paceOut, Int32.not_lt.mpr hpackets]
  simp [SubmitReply.bytes, length_ret_bytes, hpace, buildReply]

theorem actualLengthOf_of_no_packets {cmd : UsbipCmdSubmit} (hpackets : cmd.numberOfPackets ≤ 0)
    (body : Body) (hlt : body.data.length < 2 ^ 31) :
    actualLengthOf ((buildReply cmd body []).bytes cmd) = body.data.length := by
  rw [actualLengthOf_buildReply, reportedLength, if_neg (Int32.not_lt.mpr hpackets),
    toInt_ofNat_of_lt hlt]

/-- A reply without packets fits exactly when the item it carries, cut to
`wLength` on the control endpoint, fits the buffer of the request. -/
theorem inReply_fits_iff {port : Port} {cmd : UsbipCmdSubmit} {reply : SubmitReply}
    (hpackets : cmd.numberOfPackets ≤ 0) (h : (completeSubmit port cmd []).2 = .ok reply) :
    InReplyFits cmd (reply.bytes cmd) ↔
      (requestedLength port cmd : Int) ≤ cmd.transferBufferLength.toInt := by
  obtain ⟨body, hbody, rfl⟩ := completeSubmit_ok h
  have hbytes := length_bytes_of_no_packets hpackets body
  by_cases hbranch : branchOf cmd = .audioIn
  · have hlen := length_replyBody_audioIn hbody hbranch
    have hlt := cmd.transferBufferLength.toInt_lt
    have hactual := actualLengthOf_of_no_packets hpackets body (by omega)
    have hreq : requestedLength port cmd = 0 := by rw [requestedLength, hbranch]
    have hep : cmd.base.ep ≠ 0 := by
      intro hep
      simp [branchOf, hep] at hbranch
    rw [hreq]
    constructor
    · intro hfits
      omega
    · intro _
      exact ⟨by rw [hactual, hbytes]; omega, by rw [hactual]; exact Int.le_of_eq hlen,
        fun hzero => absurd hzero hep⟩
  · have hlen := length_replyBody hbody hbranch
    have hlt := requestedLength_lt port cmd
    have hactual := actualLengthOf_of_no_packets hpackets body (by omega)
    rw [← hlen]
    constructor
    · intro hfits
      rw [← hactual]
      exact hfits.buffer
    · intro hle
      refine ⟨by rw [hactual, hbytes]; omega, by rw [hactual]; exact hle, fun hep => ?_⟩
      have hcontrol : branchOf cmd = .control (setupOf cmd.setup) := by simp [branchOf, hep]
      rw [hactual, hlen, requestedLength, hcontrol]
      exact Int.ofNat_le.mpr (Nat.min_le_left _ _)

/-- An interrupt poll of the HID endpoint with a 64-byte buffer. -/
def hidInPoll : UsbipCmdSubmit :=
  { base := ⟨kCmdSubmit, 7, 0x10001, kDirIn, kEpHidIn⟩
    transferFlags := 0
    transferBufferLength := 64
    numberOfPackets := -1
    setup := Vector.replicate 8 0 }

/-- A port whose oldest input report has the given size. -/
def portWithInput (size : Nat) (h : size ≤ frameMaxPayload) : Port :=
  { Port.new .ds5 with
    hidInQueue := [⟨.usbHidIn, List.replicate size 0x01, by rw [List.length_replicate]; exact h⟩]
    hidInQueue_le := by simp [kHidInQueueMax] }

theorem inReply_fits_hidInPoll : ∃ reply,
    (completeSubmit (portWithInput 64 (by decide)) hidInPoll []).2 = .ok reply ∧
      InReplyFits hidInPoll (reply.bytes hidInPoll) :=
  ⟨_, rfl, (@inReply_fits_iff (portWithInput 64 (by decide)) hidInPoll _ (by decide) rfl).mpr
    (by decide)⟩

/-- The HID branch copies the whole frame, whatever the request can hold. -/
theorem inReply_overflows_hidInPoll : ∃ reply,
    (completeSubmit (portWithInput 65 (by decide)) hidInPoll []).2 = .ok reply ∧
      ¬InReplyFits hidInPoll (reply.bytes hidInPoll) :=
  ⟨_, rfl, fun hfits => absurd hfits.buffer (by decide)⟩

end InReplies

end VirtualDualSense.UsbIp.ReplyFraming
