import VirtualDualSense.Hcd.UsbCore

/-!
# The sections of the host controller

`struct vds_hcd_dev` and the functions that run under its lock. A URB context is
an entry of a heap; the lists hold the numbers of contexts.

## Implementation notes

A context is numbered by its submission and shares the number with its URB,
because the USB core does not submit a URB again before it was given back. A
freed context is gone from the heap; a section that uses one is undefined in C
and leaves it alone here. Times are nanoseconds. The last fields of the state
record history for the proofs only.
-/

namespace VirtualDualSense.Hcd.Sections

open Lib.Buffers Protocol.Frames Usb.Descriptors UsbCore

def vdsAudioInBytesPerMs : Nat := 192
def vdsAudioOutBytesPerMs : Nat := 384
def vdsAudioInQueueMaxBytes : Nat := vdsAudioInBytesPerMs * 100
def vdsEventMax : Nat := 16384
def nsecPerUsec : Nat := 1000

section State

structure Event where
  frame : Frame
  sequence : Nat

structure AudioPacket where
  offset : Nat
  payload : List UInt8

/-- `enum vds_urb_context_state`. -/
inductive UrbState
  | active
  | pendingHidIn
  | pendingFeatureGet
  | pendingGiveback
  | givingBack
  deriving DecidableEq

abbrev CtxId := Nat

/-- `struct vds_urb_context`. A ready time of zero means that the URB is not timed.
`epoch` disconnects came before the submission. -/
structure UrbContext where
  urb : Urb
  readyTime : Nat
  status : Int
  featureReportId : UInt8
  state : UrbState
  deliverIsoOut : Bool
  deliverIsoIn : Bool
  epoch : Nat

/-- The bits of `port_status`. -/
structure PortStatus where
  connection : Bool
  enable : Bool
  reset : Bool
  power : Bool
  highSpeed : Bool
  cConnection : Bool
  cEnable : Bool
  cSuspend : Bool
  cOvercurrent : Bool
  cReset : Bool
  deriving DecidableEq

/-- `struct vds_hcd_dev`. -/
structure HcdDev where
  contexts : CtxId → Option UrbContext
  submitted : Nat
  events : List Event
  pendingHidIn : List CtxId
  pendingFeatureGet : List CtxId
  completedUrbs : List CtxId
  inputPackets : List (List UInt8)
  audioInPackets : List AudioPacket
  framesToUser : Nat
  framesFromUser : Nat
  nextSequence : Nat
  nextIsoOutReady : Nat
  nextIsoInReady : Nat
  nextHidInReady : Nat
  eventCount : Nat
  statusFlags : StatusFlags
  portStatus : PortStatus
  stopping : Bool
  opened : Bool
  inputPacketCount : Nat
  audioInPacketCount : Nat
  audioInQueuedBytes : Nat
  usb : UsbDevice
  acceptedInputs : List (List UInt8)
  filledInputs : List (List UInt8)
  disconnects : Nat
  audioPlaced : List (Nat × Nat)
  givenBack : List CtxId

/-- The device after `vds_hcd_probe` and `vds_hcd_start`. -/
def HcdDev.init : HcdDev where
  contexts := fun _ => none
  submitted := 0
  events := []
  pendingHidIn := []
  pendingFeatureGet := []
  completedUrbs := []
  inputPackets := []
  audioInPackets := []
  framesToUser := 0
  framesFromUser := 0
  nextSequence := 0
  nextIsoOutReady := 0
  nextIsoInReady := 0
  nextHidInReady := 0
  eventCount := 0
  statusFlags := ⟨false, false, false, false⟩
  portStatus := ⟨false, false, false, true, false, false, false, false, false, false⟩
  stopping := false
  opened := false
  inputPacketCount := 0
  audioInPacketCount := 0
  audioInQueuedBytes := 0
  usb := .init .ds5
  acceptedInputs := []
  filledInputs := []
  disconnects := 0
  audioPlaced := []
  givenBack := []

end State

section Contexts

def HcdDev.modifyContext (dev : HcdDev) (id : CtxId) (f : UrbContext → UrbContext) : HcdDev :=
  { dev with contexts := Function.update dev.contexts id ((dev.contexts id).map f) }

/-- The state of a context that was not freed. -/
def HcdDev.stateOf (dev : HcdDev) (id : CtxId) : Option UrbState :=
  (dev.contexts id).map UrbContext.state

def HcdDev.readyTime (dev : HcdDev) (id : CtxId) : Nat :=
  ((dev.contexts id).map UrbContext.readyTime).getD 0

/-- `ktime_after(next, now) ? next : now`. -/
def base (next now : Nat) : Nat := if now < next then next else now

end Contexts

section Giveback

/-- The scan of `completed_urbs`: an untimed entry goes before the first timed
one, a timed one before the first that is ready later. -/
def insertCompleted (readyTime : CtxId → Nat) (id : CtxId) (time : Nat) :
    List CtxId → List CtxId
  | [] => [id]
  | pos :: rest =>
      if readyTime pos ≠ 0 ∧ (time = 0 ∨ time < readyTime pos) then id :: pos :: rest
      else pos :: insertCompleted readyTime id time rest

/-- `vds_queue_urb_giveback_locked`. -/
def queueUrbGivebackLocked (dev : HcdDev) (id : CtxId) (status : Int) : HcdDev :=
  match dev.contexts id with
  | none => dev
  | some context =>
      if context.state = .pendingGiveback ∨ context.state = .givingBack then dev
      else
        { dev with
          contexts := Function.update dev.contexts id (some { context with
            status := status
            state := .pendingGiveback
            urb := { context.urb with hcpriv := true } })
          pendingHidIn := dev.pendingHidIn.erase id
          pendingFeatureGet := dev.pendingFeatureGet.erase id
          completedUrbs :=
            insertCompleted dev.readyTime id context.readyTime dev.completedUrbs }

def queueUrbsGiveback (dev : HcdDev) (ids : List CtxId) (status : Int) : HcdDev :=
  ids.foldl (fun dev id => queueUrbGivebackLocked dev id status) dev

/-- `vds_cancel_pending_urbs_locked`. -/
def cancelPendingUrbsLocked (dev : HcdDev) (status : Int) : HcdDev :=
  queueUrbsGiveback dev (dev.pendingHidIn ++ dev.pendingFeatureGet) status

/-- `vds_flush_buffered_frames_locked`. -/
def flushBufferedFramesLocked (dev : HcdDev) : HcdDev :=
  { dev with
    inputPackets := []
    inputPacketCount := 0
    audioInPackets := []
    audioInPacketCount := 0
    audioInQueuedBytes := 0
    events := []
    eventCount := 0 }

/-- `usb_hcd_check_unlink_urb`: the error, or zero for a URB that may be unlinked. -/
def checkUnlinkUrb (urb : Urb) : Int :=
  if !urb.linked then eidrm else if urb.unlinked then ebusy else 0

/-- `vds_urb_dequeue`. -/
def urbDequeue (dev : HcdDev) (id : CtxId) (status : Int) : HcdDev × Int :=
  match dev.contexts id with
  | none => (dev, eidrm)
  | some context =>
      let ret := checkUnlinkUrb context.urb
      if ret ≠ 0 then (dev, ret)
      else
        let dev := dev.modifyContext id fun context =>
          { context with urb := { context.urb with unlinked := true } }
        if !context.urb.hcpriv then (dev, 0)
        else if context.state = .pendingGiveback then
          (dev.modifyContext id fun context =>
            { context with status := status, readyTime := 0 }, 0)
        else (queueUrbGivebackLocked dev id status, 0)

end Giveback

section Frames

/-- `vds_enqueue_frame`. -/
def enqueueFrame (dev : HcdDev) (type : FrameType) (payload : List UInt8) (alloc : Bool) :
    HcdDev × Int :=
  if h : payload.length ≤ frameMaxPayload then
    if !alloc then (dev, enomem)
    else if dev.stopping then (dev, eshutdown)
    else if dev.eventCount ≥ vdsEventMax then (dev, enospc)
    else
      ({ dev with
          events := dev.events ++ [⟨⟨type, payload, h⟩, dev.nextSequence⟩]
          eventCount := dev.eventCount + 1
          nextSequence := dev.nextSequence + 1
          framesToUser := dev.framesToUser + 1 }, 0)
  else (dev, emsgsize)

/-- `vds_read` with a buffer of `count` bytes: the event it hands out, or an error. -/
def read (dev : HcdDev) (count : Nat) : HcdDev × Except Int Event :=
  match dev.events with
  | [] => (dev, .error (if dev.stopping then eshutdown else eagain))
  | event :: rest =>
      if count < 16 + event.frame.payload.length then (dev, .error emsgsize)
      else ({ dev with events := rest, eventCount := dev.eventCount - 1 }, .ok event)

def StatusFlags.set (flags mask : StatusFlags) (enabled : Bool) : StatusFlags where
  connected := if mask.connected then enabled else flags.connected
  configured := if mask.configured then enabled else flags.configured
  hidEnabled := if mask.hidEnabled then enabled else flags.hidEnabled
  audioEnabled := if mask.audioEnabled then enabled else flags.audioEnabled

/-- `vds_status_set_locked`. -/
def statusSetLocked (dev : HcdDev) (mask : StatusFlags) (enabled : Bool) : HcdDev :=
  { dev with statusFlags := StatusFlags.set dev.statusFlags mask enabled }

/-- `vds_usb_defer_feature_get`. -/
def deferFeatureGet (dev : HcdDev) (id : CtxId) (reportId : UInt8) : HcdDev × Int :=
  match dev.contexts id with
  | none => (dev, einval)
  | some context =>
      if !context.urb.hcpriv then (dev, einval)
      else if dev.stopping then (dev, eshutdown)
      else
        ({ dev with
            contexts := Function.update dev.contexts id (some { context with
              featureReportId := reportId, state := .pendingFeatureGet })
            pendingFeatureGet := dev.pendingFeatureGet ++ [id] }, 0)

end Frames

section Input

/-- `vds_fill_hid_in_urb`. -/
def fillHidInUrb (urb : Urb) (payload : List UInt8) : Urb :=
  let copyLen := min payload.length urb.transferBufferLength
  { urb with
    transferBuffer := urb.transferBuffer.map fun buffer => overwrite buffer 0 (payload.take copyLen)
    actualLength := copyLen }

/-- `vds_schedule_hid_in_giveback_locked`. -/
def scheduleHidInGivebackLocked (dev : HcdDev) (id : CtxId) (now : Nat) : HcdDev :=
  let readyTime := base dev.nextHidInReady now +
    dev.usb.controllerProfile.hidInIntervalUs * nsecPerUsec
  { dev.modifyContext id fun context => { context with readyTime := readyTime } with
    nextHidInReady := readyTime }

/-- Copy a report to the URB of a context and schedule it. -/
def fillHidIn (dev : HcdDev) (id : CtxId) (payload : List UInt8) (now : Nat) : HcdDev :=
  let dev := dev.modifyContext id fun context =>
    { context with urb := fillHidInUrb context.urb payload }
  { scheduleHidInGivebackLocked dev id now with
    filledInputs := dev.filledInputs ++ [payload] }

/-- `vds_complete_pending_input_locked`. -/
def completePendingInputLocked (dev : HcdDev) (payload : List UInt8) (now : Nat) :
    Option HcdDev :=
  match dev.pendingHidIn with
  | [] => none
  | pending :: _ => some (queueUrbGivebackLocked (fillHidIn dev pending payload now) pending 0)

/-- `vds_queue_input_packet_locked`: a buffered report is replaced by a newer one. -/
def queueInputPacketLocked (dev : HcdDev) (payload : List UInt8) (alloc : Bool) : HcdDev × Int :=
  if dev.inputPackets ≠ [] then
    ({ dev with inputPackets := dev.inputPackets.dropLast ++ [payload] }, 0)
  else if !alloc then (dev, enomem)
  else
    ({ dev with
        inputPackets := dev.inputPackets ++ [payload]
        inputPacketCount := dev.inputPacketCount + 1 }, 0)

/-- `vds_write_input_frame`. -/
def writeInputFrame (dev : HcdDev) (payload : List UInt8) (alloc : Bool) (now : Nat) :
    HcdDev × Int :=
  if payload.length = 0 ∨ payload.length > vdsControllerHidPacketSize then (dev, einval)
  else if dev.stopping then (dev, eshutdown)
  else
    let (dev, ret) := match completePendingInputLocked dev payload now with
      | some dev => (dev, 0)
      | none => queueInputPacketLocked dev payload alloc
    if ret ≠ 0 then (dev, ret)
    else
      ({ dev with
          framesFromUser := dev.framesFromUser + 1
          acceptedInputs := dev.acceptedInputs ++ [payload] }, 0)

/-- `vds_interrupt_in_urb`; the result tells whether the URB can be filed at once. -/
def interruptInUrb (dev : HcdDev) (id : CtxId) (now : Nat) : HcdDev × Bool :=
  match dev.inputPackets with
  | packet :: rest =>
      (fillHidIn { dev with
        inputPackets := rest, inputPacketCount := dev.inputPacketCount - 1 } id packet now, true)
  | [] =>
      ({ dev.modifyContext id fun context => { context with state := .pendingHidIn } with
          pendingHidIn := dev.pendingHidIn ++ [id] }, false)

end Input

section Feature

/-- Complete one pending read if the reply is for its report. -/
def completePendingFeatureReply (payload : List UInt8) (reportId : UInt8) (dev : HcdDev)
    (id : CtxId) : HcdDev :=
  match dev.contexts id with
  | none => dev
  | some context =>
      if context.featureReportId ≠ reportId then dev
      else
        let (urb, status) := copyToUrb context.urb payload
        queueUrbGivebackLocked
          (dev.modifyContext id fun context => { context with urb := urb }) id status

/-- `vds_complete_pending_feature_replies_locked`. -/
def completePendingFeatureRepliesLocked (dev : HcdDev) (payload : List UInt8) : HcdDev :=
  dev.pendingFeatureGet.foldl (completePendingFeatureReply payload (payload.headD 0)) dev

/-- The section of `vds_write_feature_reply` that follows the update of the cache. -/
def completeFeatureReply (dev : HcdDev) (payload : List UInt8) : HcdDev × Int :=
  if dev.stopping then (dev, eshutdown)
  else
    ({ completePendingFeatureRepliesLocked dev payload with
        framesFromUser := dev.framesFromUser + 1 }, 0)

end Feature

section AudioIn

/-- The loop of `vds_write_audio_in_frame` that makes room for `length` bytes; with
the packets go their count and their bytes. -/
def dropOldest (length : Nat) : List AudioPacket → Nat → Nat → List AudioPacket × Nat × Nat
  | [], count, queued => ([], count, queued)
  | oldest :: rest, count, queued =>
      if queued + length > vdsAudioInQueueMaxBytes then
        dropOldest length rest (count - 1) (queued - (oldest.payload.length - oldest.offset))
      else (oldest :: rest, count, queued)

/-- `vds_write_audio_in_frame`. -/
def writeAudioInFrame (dev : HcdDev) (payload : List UInt8) (alloc : Bool) : HcdDev × Int :=
  if payload.length = 0 then (dev, einval)
  else if !alloc then (dev, enomem)
  else if dev.stopping then (dev, eshutdown)
  else
    let (packets, count, queued) := dropOldest payload.length dev.audioInPackets
      dev.audioInPacketCount dev.audioInQueuedBytes
    ({ dev with
        audioInPackets := packets ++ [⟨0, payload⟩]
        audioInPacketCount := count + 1
        audioInQueuedBytes := queued + payload.length
        framesFromUser := dev.framesFromUser + 1 }, 0)

/-- The loop of `vds_fill_audio_in_locked`: the bytes copied, padded with zeros,
and what remains queued. -/
def fillAudioIn : List AudioPacket → Nat → Nat → Nat → List UInt8 × List AudioPacket × Nat × Nat
  | [], count, queued, length => (List.replicate length 0, [], count, queued)
  | packet :: rest, count, queued, length =>
      if length = 0 then ([], packet :: rest, count, queued)
      else
        let copyLen := min length (packet.payload.length - packet.offset)
        let data := (packet.payload.drop packet.offset).take copyLen
        if packet.offset + copyLen = packet.payload.length then
          let (more, rest, count, queued) :=
            fillAudioIn rest (count - 1) (queued - copyLen) (length - copyLen)
          (data ++ more, rest, count, queued)
        else
          (data, { packet with offset := packet.offset + copyLen } :: rest, count,
            queued - copyLen)

/-- `vds_fill_audio_in_locked`. -/
def fillAudioInLocked (dev : HcdDev) (length : Nat) : HcdDev × List UInt8 :=
  let (data, packets, count, queued) :=
    fillAudioIn dev.audioInPackets dev.audioInPacketCount dev.audioInQueuedBytes length
  ({ dev with
      audioInPackets := packets
      audioInPacketCount := count
      audioInQueuedBytes := queued }, data)

/-- A descriptor that reaches behind the transfer buffer. -/
def outOfBounds (bufferLength : Nat) (desc : IsoPacketDescriptor) : Bool :=
  desc.offset > bufferLength || desc.length > bufferLength - desc.offset

/-- The loop of `vds_iso_in_urb` over the descriptors. -/
def isoInPackets {n : Nat} (dev : HcdDev) (buffer : Vector UInt8 n) :
    List IsoPacketDescriptor → HcdDev × Vector UInt8 n × List IsoPacketDescriptor
  | [] => (dev, buffer, [])
  | desc :: rest =>
      if outOfBounds n desc then
        let (dev, buffer, done) := isoInPackets dev buffer rest
        (dev, buffer, { desc with status := eoverflow, actualLength := 0 } :: done)
      else
        let actualLength := min desc.length vdsAudioInBytesPerMs
        let (dev, data) := fillAudioInLocked dev actualLength
        let (dev, buffer, done) := isoInPackets dev (overwrite buffer desc.offset data) rest
        (dev, buffer, { desc with status := 0, actualLength := actualLength } :: done)

/-- The counters of an isochronous URB after its descriptors were done. -/
def Urb.finishIso (urb : Urb) (done : List IsoPacketDescriptor) : Urb :=
  { urb with
    isoFrameDesc := done
    errorCount := done.countP fun desc => desc.status == eoverflow
    actualLength := (done.map IsoPacketDescriptor.actualLength).sum }

/-- `vds_iso_in_urb`. -/
def isoInUrb (dev : HcdDev) (urb : Urb) : HcdDev × Urb × Int :=
  match urb.transferBuffer with
  | none => (dev, urb, epipe)
  | some buffer =>
      let (dev, buffer, done) := isoInPackets dev buffer urb.isoFrameDesc
      (dev, Urb.finishIso { urb with transferBuffer := some buffer } done, 0)

theorem isoInPackets_frame {n : Nat} (dev : HcdDev) (buffer : Vector UInt8 n)
    (descs : List IsoPacketDescriptor) : ∃ packets count queued,
      (isoInPackets dev buffer descs).1 =
        { dev with
          audioInPackets := packets
          audioInPacketCount := count
          audioInQueuedBytes := queued } := by
  induction descs generalizing dev buffer with
  | nil => exact ⟨_, _, _, rfl⟩
  | cons desc rest ih =>
      simp only [isoInPackets]
      split_ifs
      · exact ih dev buffer
      · obtain ⟨packets, count, queued, hrest⟩ := ih
          (fillAudioInLocked dev (min desc.length vdsAudioInBytesPerMs)).1 _
        exact ⟨packets, count, queued, hrest⟩

/-- An isochronous IN URB takes audio from the queue and leaves the rest of the device alone. -/
theorem isoInUrb_frame (dev : HcdDev) (urb : Urb) : ∃ packets count queued,
    (isoInUrb dev urb).1 =
      { dev with
        audioInPackets := packets
        audioInPacketCount := count
        audioInQueuedBytes := queued } := by
  unfold isoInUrb
  split
  · exact ⟨_, _, _, rfl⟩
  · exact isoInPackets_frame dev _ _

end AudioIn

section AudioOut

/-- The chunk under construction in `vds_iso_out_urb`. -/
structure Chunk where
  start : Nat
  length : Nat
  nextOffset : Nat

def Chunk.ofDesc (desc : IsoPacketDescriptor) : Chunk :=
  ⟨desc.offset, desc.length, desc.offset + desc.length⟩

/-- The loop of `vds_iso_out_urb`: the chunks it hands to `vds_enqueue_frame`, in
order. Packets that follow each other in the buffer share a chunk. -/
def isoOutChunks (bufferLength : Nat) : Option Chunk → List IsoPacketDescriptor → List Chunk
  | none, [] => []
  | some chunk, [] => [chunk]
  | chunk, desc :: rest =>
      if outOfBounds bufferLength desc || desc.length == 0 then
        isoOutChunks bufferLength chunk rest
      else
        match chunk with
        | none => isoOutChunks bufferLength (some (.ofDesc desc)) rest
        | some chunk =>
            if desc.offset = chunk.nextOffset ∧ chunk.length + desc.length ≤ frameMaxPayload then
              isoOutChunks bufferLength (some ⟨chunk.start, chunk.length + desc.length,
                chunk.nextOffset + desc.length⟩) rest
            else chunk :: isoOutChunks bufferLength (some (.ofDesc desc)) rest

def isoOutPackets (bufferLength : Nat) (descs : List IsoPacketDescriptor) :
    List IsoPacketDescriptor :=
  descs.map fun desc =>
    if outOfBounds bufferLength desc then { desc with status := eoverflow, actualLength := 0 }
    else { desc with status := 0, actualLength := desc.length }

/-- `vds_iso_out_urb` up to its calls of `vds_enqueue_frame`: the payloads to queue. -/
def isoOutUrb (urb : Urb) : Urb × List (List UInt8) × Int :=
  match urb.transferBuffer with
  | none => (urb, [], epipe)
  | some buffer =>
      let payloads := (isoOutChunks urb.transferBufferLength none urb.isoFrameDesc).map
        fun chunk => (buffer.toList.drop chunk.start).take chunk.length
      (Urb.finishIso urb (isoOutPackets urb.transferBufferLength urb.isoFrameDesc), payloads, 0)

/-- The pacing of `vds_schedule_iso_giveback`, in microseconds of unsigned 32-bit
arithmetic. -/
def isoDurationUs (urb : Urb) (input : Bool) : Nat :=
  let total := (urb.isoFrameDesc.map fun desc =>
    if input then min desc.length vdsAudioInBytesPerMs else desc.length).sum % 2 ^ 32
  let bytesPerMs := if input then vdsAudioInBytesPerMs else vdsAudioOutBytesPerMs
  if total = 0 then max urb.isoFrameDesc.length 1 * 1000 % 2 ^ 32
  else max ((total * 1000 + bytesPerMs - 1) / bytesPerMs % 2 ^ 32) 1000

/-- `vds_schedule_iso_giveback`. -/
def scheduleIsoGiveback (dev : HcdDev) (id : CtxId) (input : Bool) (now : Nat) : HcdDev :=
  match dev.contexts id with
  | none => dev
  | some context =>
      let start := base (if input then dev.nextIsoInReady else dev.nextIsoOutReady) now
      let readyTime := start + isoDurationUs context.urb input * nsecPerUsec
      let dev := { dev with contexts := Function.update dev.contexts id (some { context with
        readyTime := readyTime
        urb := { context.urb with startFrame := Int32.ofNat (start / 1000000) } }) }
      if input then { dev with nextIsoInReady := readyTime }
      else { dev with nextIsoOutReady := readyTime }

end AudioOut

section Connection

/-- The section of `vds_set_connection(dev, true)`. -/
def connectLocked (dev : HcdDev) : HcdDev :=
  if dev.stopping then dev
  else
    statusSetLocked { dev with portStatus := { dev.portStatus with
      power := true
      connection := true
      cConnection := !dev.portStatus.connection || dev.portStatus.cConnection } }
      ⟨true, false, false, false⟩ true

/-- The section of `vds_set_connection(dev, false)`. -/
def disconnectLocked (dev : HcdDev) : HcdDev :=
  let dev := { dev with disconnects := dev.disconnects + 1 }
  if dev.stopping then dev
  else
    let dev := { dev with portStatus := { dev.portStatus with
      connection := false
      enable := false
      highSpeed := false
      cConnection := dev.portStatus.connection || dev.portStatus.cConnection } }
    let dev := flushBufferedFramesLocked (cancelPendingUrbsLocked dev eshutdown)
    statusSetLocked { dev with nextIsoOutReady := 0, nextIsoInReady := 0, nextHidInReady := 0 }
      ⟨true, true, true, true⟩ false

/-- The `VDS_IOC_SET_PROFILE` command; `none` is an unknown profile. -/
def setProfile (dev : HcdDev) (profile : Option Profile) (pollingRateMode : Nat) : HcdDev × Int :=
  if pollingRateMode ≠ 0 then (dev, eopnotsupp)
  else if dev.statusFlags.connected then (dev, ebusy)
  else
    match profile with
    | none => (dev, einval)
    | some profile =>
        (statusSetLocked { dev with usb := dev.usb.setProfile profile }
          ⟨false, true, true, true⟩ false, 0)

/-- `vds_hcd_stop`. -/
def hcdStop (dev : HcdDev) : HcdDev :=
  let dev := flushBufferedFramesLocked
    (cancelPendingUrbsLocked { dev with stopping := true } eshutdown)
  { dev with statusFlags := ⟨false, false, false, false⟩ }

end Connection

section RootHub

inductive HubRequest
  | clearHubFeature
  | getHubDescriptor
  | getHubStatus
  | getPortStatus
  | clearPortFeature
  | setPortFeature
  | other
  deriving DecidableEq

/-- `port_status` as the word that the hub driver reads. -/
def PortStatus.word (port : PortStatus) : List UInt8 :=
  let bit (b : Bool) (mask : UInt8) : UInt8 := if b then mask else 0
  [bit port.connection 0x01 ||| bit port.enable 0x02 ||| bit port.reset 0x10,
    bit port.power 0x01 ||| bit port.highSpeed 0x04,
    bit port.cConnection 0x01 ||| bit port.cEnable 0x02 ||| bit port.cSuspend 0x04 |||
      bit port.cOvercurrent 0x08 ||| bit port.cReset 0x10, 0]

def hubDescriptor : List UInt8 := [9, 0x29, 1, 0x01, 0x00, 0, 0, 0, 0xff]

/-- `ClearPortFeature`, or `none` for a feature that it does not know. -/
def PortStatus.clearFeature (port : PortStatus) (feature : Nat) : Option PortStatus :=
  match feature with
  | 1 => some { port with enable := false }
  | 8 => some { port with power := false }
  | 16 => some { port with cConnection := false }
  | 17 => some { port with cEnable := false }
  | 18 => some { port with cSuspend := false }
  | 19 => some { port with cOvercurrent := false }
  | 20 => some { port with cReset := false }
  | _ => none

/-- `SetPortFeature`, or `none` for a feature that it does not know. -/
def PortStatus.setFeature (port : PortStatus) (feature : Nat) : Option PortStatus :=
  match feature with
  | 8 => some { port with power := true }
  | 4 =>
      if port.connection then
        some { port with reset := false, enable := true, highSpeed := true, cReset := true }
      else some port
  | _ => none

/-- `vds_hub_control`, and the bytes it answers. -/
def hubControl (dev : HcdDev) (request : HubRequest) (value index : Nat) :
    HcdDev × Except Int (List UInt8) :=
  match request with
  | .clearHubFeature => (dev, .ok [])
  | .getHubDescriptor => (dev, .ok hubDescriptor)
  | .getHubStatus => (dev, .ok [0, 0, 0, 0])
  | .getPortStatus =>
      if index ≠ 1 then (dev, .error epipe) else (dev, .ok dev.portStatus.word)
  | .clearPortFeature =>
      match if index ≠ 1 then none else dev.portStatus.clearFeature value with
      | none => (dev, .error epipe)
      | some port => ({ dev with portStatus := port }, .ok [])
  | .setPortFeature =>
      match if index ≠ 1 then none else dev.portStatus.setFeature value with
      | none => (dev, .error epipe)
      | some port => ({ dev with portStatus := port }, .ok [])
  | .other => (dev, .error epipe)

end RootHub

section GivebackThread

/-- `ktime_us_delta(ready_time, now) > 0`: the entry is at least a microsecond away. -/
def notYetReady (readyTime now : Nat) : Bool :=
  readyTime ≠ 0 && now + nsecPerUsec ≤ readyTime

/-- The section of `vds_giveback_thread` that takes the first completed URB. -/
def takeCompleted (dev : HcdDev) (now : Nat) : Option (HcdDev × CtxId × Int) :=
  match dev.completedUrbs with
  | [] => none
  | id :: rest =>
      if notYetReady (dev.readyTime id) now then none
      else
        let status := ((dev.contexts id).map UrbContext.status).getD 0
        some ({ dev.modifyContext id fun context => { context with
            state := .givingBack
            urb := { context.urb with linked := false, hcpriv := false } } with
          completedUrbs := rest }, id, status)

/-- `usb_hcd_giveback_urb` and `kfree`. -/
def givebackUrb (dev : HcdDev) (id : CtxId) : HcdDev :=
  { dev with
    contexts := Function.update dev.contexts id none
    givenBack := dev.givenBack ++ [id] }

end GivebackThread

end VirtualDualSense.Hcd.Sections
