import VirtualDualSense.Lib.Runs
import VirtualDualSense.Win32.HidPaths

/-!
# Bluetooth HID transport

The transport has one handle for input reports, one for output reports and one for
feature reports. The thread that reads input reopens its own handle after a failed
read; the output thread writes the queued reports and ends at its first error. The
system changes its HID interfaces between the steps of both.

## Implementation notes

A handle is the interface it was opened on, and it works as long as the system has
that interface. The counters since the last diagnostic message are left out.
-/

namespace VirtualDualSense.Win32.HidTransport

open HidPaths

def kMaxPendingHidOutputWrites : Nat := 64

def kMaxQueuedHidAudioOutputWrites : Nat := 4

def kMaxReconnectAttempts : Nat := 5

/-- `VDS_BT_HAPTICS_REPORT_ID`. -/
def btHapticsReportId : UInt8 := 0x36

/-- The system, with a bound on the serials of the interfaces it has had. -/
structure Host where
  system : System
  nextSerial : Nat
  serial_lt : ∀ device ∈ system.openable, device.serial < nextSerial

/-- Where the thread in `read_input_frame` stands. -/
inductive ReaderPc
  | idle
  | reading (attempt : Nat)
  | recovering (attempt : Nat)
  | opening (attempt : Nat) (newPath : List UInt8)
  | threw
  deriving DecidableEq

/-- Where the output thread stands: the buffer it writes and the bytes written. -/
inductive WriterPc
  | waiting
  | writing (buffer : List UInt8) (offset : Nat)
  | exited
  deriving DecidableEq

structure OutputQueue where
  writes : List (List UInt8)
  queuedCount : Nat
  rejectedCount : Nat
  audioCoalescedCount : Nat
  deriving DecidableEq

structure Transport where
  host : Host
  path : List UInt8
  matchLabel : List UInt8
  handle : HidInterface
  outputHandle : HidInterface
  featureHandle : HidInterface
  outputReportLength : Nat
  reader : ReaderPc
  writer : WriterPc
  outputQueue : OutputQueue
  outputCompletedCount : Nat
  outputError : Bool
  outputStopRequested : Bool

namespace Transport

/-- The constructor opens the path three times. -/
def new (host : Host) (path matchLabel : List UInt8) (outputReportLength : Nat) :
    Option Transport :=
  (host.system.createFile path).map fun device =>
    { host
      path
      matchLabel
      handle := device
      outputHandle := device
      featureHandle := device
      outputReportLength
      reader := .idle
      writer := .waiting
      outputQueue := ⟨[], 0, 0, 0⟩
      outputCompletedCount := 0
      outputError := false
      outputStopRequested := false }

/-- The system still has the interface of the handle. -/
def live (t : Transport) (handle : HidInterface) : Prop := handle ∈ t.host.system.openable

instance (t : Transport) (handle : HidInterface) : Decidable (t.live handle) :=
  inferInstanceAs (Decidable (_ ∈ _))

end Transport

section Output

def isAudio (buffer : List UInt8) : Bool := buffer.head? = some btHapticsReportId

/-- `coalesce_oldest_audio`. -/
def OutputQueue.coalesceOldestAudio (q : OutputQueue) : Option OutputQueue :=
  if q.writes.any isAudio then
    some { q with
      writes := q.writes.eraseP isAudio
      audioCoalescedCount := q.audioCoalescedCount + 1 }
  else none

/-- Make room for an audio report among `queuedAudio` queued ones. -/
def OutputQueue.coalesceAudio (queuedAudio : Nat) (q : OutputQueue) : OutputQueue :=
  match queuedAudio with
  | 0 => q
  | queuedAudio + 1 =>
      if kMaxQueuedHidAudioOutputWrites ≤ queuedAudio + 1 then
        match q.coalesceOldestAudio with
        | none => q
        | some q => q.coalesceAudio queuedAudio
      else q

def OutputQueue.reject (q : OutputQueue) : OutputQueue × Bool :=
  ({ q with rejectedCount := q.rejectedCount + 1 }, false)

def OutputQueue.push (q : OutputQueue) (buffer : List UInt8) : OutputQueue × Bool :=
  ({ q with writes := q.writes ++ [buffer], queuedCount := q.queuedCount + 1 }, true)

/-- Queue a buffer. Both limits are met at the cost of the oldest audio reports; a
full queue rejects. -/
def OutputQueue.enqueue (q : OutputQueue) (buffer : List UInt8) : OutputQueue × Bool :=
  let q := if isAudio buffer then q.coalesceAudio (q.writes.countP isAudio) else q
  let room :=
    if kMaxPendingHidOutputWrites ≤ q.writes.length then
      if isAudio buffer then q.coalesceOldestAudio else none
    else some q
  match room with
  | none => q.reject
  | some q =>
      if kMaxPendingHidOutputWrites ≤ q.writes.length then q.reject else q.push buffer

/-- `enqueue_output_report`; a report that is too long and a failed writer throw. -/
def enqueueOutputReport (t : Transport) (report : List UInt8) : Option Transport :=
  if t.outputReportLength < report.length ∨ t.outputError then none
  else
    let buffer := report ++ List.replicate (t.outputReportLength - report.length) 0
    some { t with outputQueue := (t.outputQueue.enqueue buffer).1 }

def writerTakes (t : Transport) : Option Transport :=
  match t.writer, t.outputQueue.writes with
  | .waiting, buffer :: rest =>
      if t.outputStopRequested then none
      else
        some { t with
          outputQueue := { t.outputQueue with writes := rest }
          writer := .writing buffer 0 }
  | _, _ => none

def writerFails (t : Transport) : Transport := { t with outputError := true, writer := .exited }

/-- One write of the loop; it must move on. -/
def writerWrites (t : Transport) (written : Nat) : Option Transport :=
  match t.writer with
  | .writing buffer offset =>
      if offset < buffer.length ∧ t.live t.outputHandle ∧ written ≤ buffer.length - offset then
        if written = 0 then some (writerFails t)
        else some { t with writer := .writing buffer (offset + written) }
      else none
  | _ => none

def writerCompletes (t : Transport) : Option Transport :=
  match t.writer with
  | .writing buffer offset =>
      if offset < buffer.length then none
      else
        some { t with
          writer := .waiting
          outputCompletedCount := t.outputCompletedCount + 1 }
  | _ => none

end Output

section Input

def readFails (t : Transport) : Option Transport :=
  match t.reader with
  | .reading attempt =>
      some { t with
        reader := if kMaxReconnectAttempts ≤ attempt then .threw else .recovering attempt }
  | _ => none

/-- The lookup of `reopen_input_handle`. -/
def resolve (t : Transport) : Option Transport :=
  match t.reader with
  | .recovering attempt =>
      some { t with
        reader :=
          match findHidBluetoothDevicePath t.host.system t.matchLabel with
          | .ok newPath => .opening attempt newPath
          | .error _ => .threw }
  | _ => none

/-- The rest of `reopen_input_handle`. -/
def reopenInputHandle (t : Transport) (granted : Bool) : Option Transport :=
  match t.reader with
  | .opening attempt newPath =>
      match granted, t.host.system.createFile newPath with
      | true, some device =>
          some { t with path := newPath, handle := device, reader := .reading (attempt + 1) }
      | _, _ => some { t with reader := .threw }
  | _ => none

end Input

inductive Action
  /-- The system plugs interfaces in and out; a new one has a new serial. -/
  | plugAndPlay (host : Host)
  | beginRead
  | readDone
  | readFails
  | resolve
  | reopenInputHandle (granted : Bool)
  | enqueueOutputReport (report : List UInt8)
  | writerTakes
  | writerWrites (written : Nat)
  | writerFails
  | writerCompletes
  | writerStops
  | cancel

/-- The interfaces of `next` are old ones or have new serials. -/
def Host.evolves (host next : Host) : Prop :=
  host.nextSerial ≤ next.nextSerial ∧
    ∀ device ∈ next.system.openable,
      device ∈ host.system.openable ∨ host.nextSerial ≤ device.serial

instance (host next : Host) : Decidable (host.evolves next) :=
  inferInstanceAs (Decidable (_ ∧ _))

def step (t : Transport) : Action → Option Transport
  | .plugAndPlay host => if t.host.evolves host then some { t with host } else none
  | .beginRead => if t.reader = .idle then some { t with reader := .reading 0 } else none
  | .readDone =>
      match t.reader with
      | .reading _ => if t.live t.handle then some { t with reader := .idle } else none
      | _ => none
  | .readFails => readFails t
  | .resolve => resolve t
  | .reopenInputHandle granted => reopenInputHandle t granted
  | .enqueueOutputReport report => enqueueOutputReport t report
  | .writerTakes => writerTakes t
  | .writerWrites written => writerWrites t written
  | .writerFails =>
      match t.writer with
      | .writing buffer offset =>
          if offset < buffer.length then some (writerFails t) else none
      | _ => none
  | .writerCompletes => writerCompletes t
  | .writerStops =>
      if t.writer = .waiting ∧ t.outputStopRequested then some { t with writer := .exited }
      else none
  | .cancel =>
      if t.outputStopRequested then some t
      else
        some { t with
          outputStopRequested := true
          outputQueue := { t.outputQueue with writes := [] } }

end VirtualDualSense.Win32.HidTransport
