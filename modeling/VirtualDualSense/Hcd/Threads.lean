import VirtualDualSense.Hcd.Sections
import VirtualDualSense.Lib.Runs

/-!
# The threads of the host controller

Every submitted URB has a thread that runs `vds_urb_enqueue` for it. Besides
them run cancellations, the system calls of the daemon, the hub driver and the
giveback thread. A step is one section under a lock, so the other threads may run
between any two sections of a thread.

## Implementation notes

An enqueue is refused, and nothing happens, when its allocation or the USB core's
link fails; the outcomes of both are part of the action. A write whose header is
refused before its payload is read has no step.
-/

namespace VirtualDualSense.Hcd.Threads

open Protocol.Frames Usb.Descriptors UsbCore Sections

/-- Where the thread that enqueues a URB is. -/
inductive EnqueuePc
  | returned
  | linked
  | handling (calls : List Call) (ret : Int)
  | scheduling (input : Bool)
  | missed (reportId : UInt8) (requestedLength : UInt16)
  | deferred (reportId : UInt8) (requestedLength : UInt16)
  | refiling (ret : Int)

/-- Where the giveback thread is. -/
inductive GivebackPc
  | idle
  | sleeping (expires : Nat)
  | taken (id : CtxId) (status : Int)
  | delivering (id : CtxId) (payloads : List (List UInt8))
  | finishing (id : CtxId) (status : Int)

/-- A system call between two of its sections. -/
inductive Syscall
  | featureReply (payload : List UInt8)
  | disconnect
  | resetUsb
  deriving DecidableEq

structure System where
  dev : HcdDev
  clock : Nat
  enqueuers : CtxId → EnqueuePc
  giveback : GivebackPc
  syscalls : List Syscall

def System.init : System := ⟨.init, 0, fun _ => .returned, .idle, []⟩

def System.setPc (s : System) (id : CtxId) (pc : EnqueuePc) : System :=
  { s with enqueuers := Function.update s.enqueuers id pc }

inductive Action
  | tick (time : Nat)
  | submit (urb : Urb) (alloc : Bool) (linkRet : Int)
  | handle (id : CtxId)
  | call (id : CtxId) (alloc : Bool)
  | defer (id : CtxId)
  | request (id : CtxId) (alloc : Bool)
  | refile (id : CtxId)
  | schedule (id : CtxId)
  | file (id : CtxId)
  | dequeue (id : CtxId) (status : Int)
  | write (frame : Frame) (flags : UInt16) (alloc : Bool)
  | read (count : Nat)
  | connect
  | disconnect
  | setProfile (profile : Option Profile) (pollingRateMode : Nat)
  | openFile
  | release
  | resume (syscall : Syscall)
  | hubControl (request : HubRequest) (value index : Nat)
  | stop
  | sleep
  | wake
  | take
  | deliver
  | place (alloc : Bool)
  | giveback

section Enqueue

/-- The section of `vds_urb_enqueue` that links the URB. -/
def submit (s : System) (urb : Urb) (alloc : Bool) (linkRet : Int) : System :=
  if !alloc || s.dev.stopping || linkRet ≠ 0 then s
  else
    { s with
      dev := { s.dev with
        contexts := Function.update s.dev.contexts s.dev.submitted (some {
          urb := { urb with linked := true, unlinked := false, hcpriv := true }
          readyTime := 0
          status := 0
          featureReportId := 0
          state := .active
          deliverIsoOut := false
          deliverIsoIn := false
          epoch := s.dev.disconnects })
        submitted := s.dev.submitted + 1 }
      enqueuers := Function.update s.enqueuers s.dev.submitted .linked }

def Handled.pc : Handled → EnqueuePc
  | .returns calls ret => .handling calls ret
  | .featureGet reportId requestedLength => .missed reportId requestedLength

/-- `vds_interrupt_out_urb`. The frame is best effort, so the transfer succeeds
whether or not it is queued. -/
def interruptOutUrb (urb : Urb) : Urb × List Call × Int :=
  if urb.transferBufferLength = 0 then ({ urb with actualLength := 0 }, [], 0)
  else
    match urb.transferBuffer with
    | none => (urb, [], epipe)
    | some buffer =>
        if urb.transferBufferLength > vdsControllerHidPacketSize then (urb, [], epipe)
        else
          ({ urb with actualLength := urb.transferBufferLength },
            [.notify .usbHidOut buffer.toList], 0)

/-- The endpoint's handler, up to its first call. -/
def handle (s : System) (id : CtxId) (context : UrbContext) : System :=
  let urb := context.urb
  let fails := s.setPc id (.handling [] epipe)
  match urb.pipeType with
  | .control =>
      let (usb, urb, handled) := s.dev.usb.controlUrb urb
      { s with dev := { s.dev.modifyContext id fun context => { context with urb := urb } with
          usb := usb } }.setPc id (Handled.pc handled)
  | .interrupt =>
      if urb.dirIn && s.dev.usb.isHidIn urb.endpoint then
        let (dev, filled) := interruptInUrb s.dev id s.clock
        { s with dev := dev }.setPc id (if filled then .handling [] 0 else .returned)
      else if !urb.dirIn && s.dev.usb.isHidOut urb.endpoint then
        let (urb, calls, ret) := interruptOutUrb urb
        { s with dev := s.dev.modifyContext id fun context =>
          { context with urb := urb } }.setPc id (.handling calls ret)
      else fails
  | .isochronous =>
      if !urb.dirIn && s.dev.usb.isAudioOut urb.endpoint then
        if urb.transferBuffer.isNone then fails
        else { s with dev := s.dev.modifyContext id fun context =>
            { context with deliverIsoOut := true } }.setPc id (.scheduling false)
      else if urb.dirIn && s.dev.usb.isAudioIn urb.endpoint then
        if urb.transferBuffer.isNone then fails
        else { s with dev := s.dev.modifyContext id fun context =>
            { context with deliverIsoIn := true } }.setPc id (.scheduling true)
      else fails
  | .bulk => fails

/-- One call of a handler. -/
def call (s : System) (id : CtxId) (alloc : Bool) (calls : List Call) (ret : Int) :
    Call → System
  | .setStatus flags enabled =>
      { s with dev := statusSetLocked s.dev flags enabled }.setPc id (.handling calls ret)
  | .notify type payload =>
      { s with dev := (enqueueFrame s.dev type payload alloc).1 }.setPc id (.handling calls ret)
  | .forward type payload actualLength =>
      let (dev, error) := enqueueFrame s.dev type payload alloc
      if error ≠ 0 then { s with dev := dev }.setPc id (.handling [] error)
      else
        { s with dev := dev.modifyContext id fun context =>
          { context with urb := { context.urb with actualLength := actualLength } } }.setPc id
            (.handling calls ret)

/-- The request frame of a read that missed the cache. -/
def featureGetFrame (reportId : UInt8) (requestedLength : UInt16) : List UInt8 :=
  [reportId, requestedLength.toUInt8, (requestedLength >>> 8).toUInt8]

end Enqueue

section Syscalls

/-- `vds_write` of a frame that fits its header. -/
def write (s : System) (frame : Frame) (flags : UInt16) (alloc : Bool) : System :=
  if s.dev.stopping || flags ≠ 0 then s
  else
    match frame.type with
    | .usbHidIn => { s with dev := (writeInputFrame s.dev frame.payload alloc s.clock).1 }
    | .usbFeatureReply =>
        let (usb, ret) := s.dev.usb.updateFeatureReply frame.payload
        if ret ≠ 0 then s
        else
          { s with
            dev := { s.dev with usb := usb }
            syscalls := s.syscalls ++ [.featureReply frame.payload] }
    | .usbAudioIn => { s with dev := (writeAudioInFrame s.dev frame.payload alloc).1 }
    | _ => s

/-- The section of `vds_set_connection(dev, false)`; the device is reset after it. -/
def disconnect (s : System) : System :=
  { s with
    dev := disconnectLocked s.dev
    syscalls := if s.dev.stopping then s.syscalls else s.syscalls ++ [.resetUsb] }

/-- The next section of a system call. -/
def resume (s : System) : Syscall → System
  | .featureReply payload => { s with dev := (completeFeatureReply s.dev payload).1 }
  | .disconnect => disconnect s
  | .resetUsb => { s with dev := { s.dev with usb := s.dev.usb.resetState } }

/-- `vds_release`. -/
def release (s : System) : System :=
  { s with
    dev := { s.dev with opened := false }
    syscalls := if s.dev.statusFlags.connected then s.syscalls ++ [.disconnect] else s.syscalls }

end Syscalls

section GivebackThread

/-- The delivery of a URB that was taken; a freed context has nothing to deliver. -/
def deliver (s : System) (id : CtxId) (status : Int) : System :=
  match s.dev.contexts id with
  | none => { s with giveback := .finishing id status }
  | some context =>
      if status = 0 ∧ context.deliverIsoOut then
        let (urb, payloads, ret) := isoOutUrb context.urb
        { s with
          dev := s.dev.modifyContext id fun context => { context with urb := urb }
          giveback := if ret = 0 then .delivering id payloads else .finishing id ret }
      else if status = 0 ∧ context.deliverIsoIn then
        let (dev, urb, ret) := isoInUrb s.dev context.urb
        { s with
          dev := dev.modifyContext id fun context => { context with urb := urb }
          giveback := .finishing id ret }
      else { s with giveback := .finishing id status }

/-- Queue one chunk of an audio URB; a chunk that finds no room is dropped. -/
def place (s : System) (id : CtxId) (alloc : Bool) (payload : List UInt8)
    (payloads : List (List UInt8)) : System :=
  let (dev, ret) := enqueueFrame s.dev .usbAudioOut payload alloc
  let epoch := ((dev.contexts id).map UrbContext.epoch).getD 0
  { s with
    dev := if ret = 0 then
      { dev with audioPlaced := dev.audioPlaced ++ [(epoch, dev.disconnects)] } else dev
    giveback := .delivering id payloads }

end GivebackThread

/-- One section of one thread. A thread that is elsewhere refuses the action. -/
def step (s : System) : Action → Option System
  | .tick time => if s.clock ≤ time then some { s with clock := time } else none
  | .submit urb alloc linkRet => some (submit s urb alloc linkRet)
  | .handle id =>
      match s.enqueuers id, s.dev.contexts id with
      | .linked, some context => some (handle s id context)
      | .linked, none => some (s.setPc id (.handling [] epipe))
      | _, _ => none
  | .call id alloc =>
      match s.enqueuers id with
      | .handling (next :: calls) ret => some (call s id alloc calls ret next)
      | _ => none
  | .defer id =>
      match s.enqueuers id with
      | .missed reportId requestedLength =>
          let (dev, ret) := deferFeatureGet s.dev id reportId
          some ({ s with dev := dev }.setPc id
            (if ret ≠ 0 then .handling [] ret else .deferred reportId requestedLength))
      | _ => none
  | .request id alloc =>
      match s.enqueuers id with
      | .deferred reportId requestedLength =>
          let (dev, ret) := enqueueFrame s.dev .usbFeatureGet
            (featureGetFrame reportId requestedLength) alloc
          some ({ s with dev := dev }.setPc id (if ret ≠ 0 then .refiling ret else .returned))
      | _ => none
  | .refile id =>
      match s.enqueuers id with
      | .refiling ret =>
          some ({ s with dev := queueUrbGivebackLocked s.dev id ret }.setPc id .returned)
      | _ => none
  | .schedule id =>
      match s.enqueuers id with
      | .scheduling input =>
          some ({ s with dev := scheduleIsoGiveback s.dev id input s.clock }.setPc id
            (.handling [] 0))
      | _ => none
  | .file id =>
      match s.enqueuers id with
      | .handling [] ret =>
          some ({ s with dev := queueUrbGivebackLocked s.dev id ret }.setPc id .returned)
      | _ => none
  | .dequeue id status =>
      -- the USB core cancels with a negative status
      if status < 0 then some { s with dev := (urbDequeue s.dev id status).1 } else none
  | .write frame flags alloc => some (write s frame flags alloc)
  | .read count => some { s with dev := (Sections.read s.dev count).1 }
  | .connect => some { s with dev := connectLocked s.dev }
  | .disconnect => some (disconnect s)
  | .setProfile profile pollingRateMode =>
      some { s with dev := (Sections.setProfile s.dev profile pollingRateMode).1 }
  | .openFile => if s.dev.opened then none else some { s with dev := { s.dev with opened := true } }
  | .release => if s.dev.opened then some (release s) else none
  | .resume syscall =>
      if syscall ∈ s.syscalls then
        some (resume { s with syscalls := s.syscalls.erase syscall } syscall)
      else none
  | .hubControl request value index =>
      some { s with dev := (Sections.hubControl s.dev request value index).1 }
  | .stop => some { s with dev := hcdStop s.dev }
  | .sleep =>
      match s.giveback, s.dev.completedUrbs with
      | .idle, id :: _ =>
          if notYetReady (s.dev.readyTime id) s.clock then
            some { s with giveback := .sleeping (s.dev.readyTime id) }
          else none
      | _, _ => none
  | .wake =>
      match s.giveback with
      | .sleeping expires => if expires ≤ s.clock then some { s with giveback := .idle } else none
      | _ => none
  | .take =>
      match s.giveback, takeCompleted s.dev s.clock with
      | .idle, some (dev, id, status) => some { s with dev := dev, giveback := .taken id status }
      | _, _ => none
  | .deliver =>
      match s.giveback with
      | .taken id status => some (deliver s id status)
      | _ => none
  | .place alloc =>
      match s.giveback with
      | .delivering id (payload :: payloads) => some (place s id alloc payload payloads)
      | .delivering id [] => some { s with giveback := .finishing id 0 }
      | _ => none
  | .giveback =>
      match s.giveback with
      | .finishing id _ => some { s with dev := givebackUrb s.dev id, giveback := .idle }
      | _ => none

end VirtualDualSense.Hcd.Threads
