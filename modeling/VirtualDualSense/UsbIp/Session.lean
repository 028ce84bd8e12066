import VirtualDualSense.Lib.Runs
import VirtualDualSense.UsbIp.ReplyFraming

/-!
# The threads of a virtual USB/IP port

One port is served by three threads: the session thread receives submits and
unlinks, the pacer thread sends isochronous replies when they are due, and the
pipe reader queues frames from the daemon. A step is what one of them does while
it holds a mutex, or one message on the socket; the environment chooses the order.

## Implementation notes

The socket log `sent` and the two feature-report logs are history variables: no
step reads them. Time counts nanoseconds of the steady clock. A socket is the
number that `accept` returned, which the system may reuse; a connection also has
an identity of its own, by which the log tells messages of one session from
those of another.
-/

namespace VirtualDualSense.UsbIp.Session

open Lib.Runs Protocol.Frames Usb.Descriptors Wire CmdSubmit ReplyFraming

def milliseconds (n : Nat) : Nat := n * 1000000

structure Connection where
  socket : Nat
  id : Nat
  deriving DecidableEq

inductive Message
  | retSubmit (seqnum : UInt32) (bytes : List UInt8)
  | retUnlink (seqnum unlinkSeqnum : UInt32)
  deriving DecidableEq

/-- A message that a connection has accepted. -/
structure Sent where
  connection : Nat
  message : Message
  deriving DecidableEq

structure PacedReply where
  client : Nat
  cmd : UsbipCmdSubmit
  reply : SubmitReply

/-- Where the session thread stands between two of its steps. -/
inductive SessionPc
  | idle
  | ready
  | waiting (cmd : UsbipCmdSubmit) (iso : List UsbipIsoPacketDescriptor)
  | sending (cmd : UsbipCmdSubmit) (reply : SubmitReply)
  | unlinking (seqnum unlinkSeqnum : UInt32)
  | closing
  | closed

inductive ReaderPc
  | notStarted
  | running
  | exited
  deriving DecidableEq

/-- A completed GET_REPORT: what it asked for and what it was answered. -/
structure FeatureAnswer where
  reportId : UInt8
  wLength : Nat
  frame : Option Frame
  data : List UInt8

structure Server where
  port : Port
  now : Nat
  stopRequested : Bool
  attached : Bool
  session : SessionPc
  pacer : Option PacedReply
  reader : ReaderPc
  pipeConnected : Bool
  connection : Option Connection
  nextConnection : Nat
  pacedReplies : List (Nat × PacedReply)
  isoOutNextDue : Nat
  isoInNextDue : Nat
  toDaemon : List Frame
  sent : List Sent
  featureArrivals : List Frame
  featureAnswers : List FeatureAnswer

def Server.new (profile : Profile) (now : Nat) : Server :=
  { port := Port.new profile
    now := now
    stopRequested := false
    attached := false
    session := .idle
    pacer := none
    reader := .notStarted
    pipeConnected := false
    connection := none
    nextConnection := 0
    pacedReplies := []
    isoOutNextDue := 0
    isoInNextDue := 0
    toDaemon := []
    sent := []
    featureArrivals := []
    featureAnswers := [] }

inductive Action
  | tick (elapsed : Nat)
  | stop
  | importSession (socket : Nat)
  | recv (cmd : UsbipCmdSubmit) (outData : List UInt8) (iso : List UsbipIsoPacketDescriptor)
      (written : Bool)
  | recvFails
  | endWait
  | sendReply (accepted : Bool)
  | sendUnlink (accepted : Bool)
  | endSession
  | closeSocket
  | pacerTakes
  | pacerSends (accepted : Bool)
  | daemonCloses
  | readerFrame (frame : Frame) (boost : Int16 → Int16)
  | readerFails

section Reader

/-- `apply_pcm_gain_i16`, with the float scaling of one sample as a parameter. -/
def applyPcmGainI16 (boost : Int16 → Int16) : List UInt8 → List UInt8
  | lo :: hi :: rest => writeLeS16 (boost (readLeS16 lo hi)) ++ applyPcmGainI16 boost rest
  | short => short

/-- Queue an input report and drop the oldest one past the bound. -/
def pushHidIn (port : Port) (frame : Frame) : Port :=
  let queue := port.hidInQueue ++ [frame]
  { port with
    hidInQueue := queue.drop (queue.length - kHidInQueueMax)
    hidInQueue_le := by
      rw [List.length_drop]
      omega }

/-- Buffer boosted microphone audio and drop the oldest bytes past the cap. -/
def pushMic (boost : Int16 → Int16) (port : Port) (frame : Frame) : Port :=
  let buffer := port.micRingBuffer ++ applyPcmGainI16 boost frame.payload
  { port with
    micRingBuffer := buffer.drop (buffer.length - kMicMaxBufferBytes)
    micRingBuffer_le := by
      rw [List.length_drop]
      omega }

/-- The demultiplexer of `pipe_reader_loop`. -/
def demux (boost : Int16 → Int16) (port : Port) (frame : Frame) : Port :=
  match frame.type with
  | .usbHidIn => pushHidIn port frame
  | .usbFeatureReply => { port with featureReplyQueue := port.featureReplyQueue ++ [frame] }
  | .usbAudioIn => pushMic boost port frame
  | _ => port

end Reader

section Session

variable (gainOfVolume : Int → Int)

/-- The bytes that the receive loop reads after the header. -/
def Received (cmd : UsbipCmdSubmit) (outData : List UInt8)
    (iso : List UsbipIsoPacketDescriptor) : Prop :=
  outData.length =
      (if cmd.base.direction = kDirOut ∧ 0 < cmd.transferBufferLength then
        cmd.transferBufferLength.toInt.toNat else 0) ∧
    iso.length = (if 0 < cmd.numberOfPackets then cmd.numberOfPackets.toInt.toNat else 0)

instance (cmd : UsbipCmdSubmit) (outData : List UInt8) (iso : List UsbipIsoPacketDescriptor) :
    Decidable (Received cmd outData iso) :=
  inferInstanceAs (Decidable (_ ∧ _))

/-- One turn of the receive loop, up to the point where the handler may wait.
The `unlink_seqnum` of a CMD_UNLINK lies where a submit has its flags; the loop
never looks at it. -/
def recvPdu (s : Server) (cmd : UsbipCmdSubmit) (outData : List UInt8)
    (iso : List UsbipIsoPacketDescriptor) (written : Bool) : Option Server :=
  match s.session with
  | .ready =>
      if cmd.base.command = kCmdUnlink then
        some { s with session := .unlinking cmd.base.seqnum cmd.transferFlags }
      else if cmd.base.command ≠ kCmdSubmit then
        some { s with session := .closing }
      else if Received cmd outData iso then
        let begun := beginSubmit gainOfVolume s.port cmd outData
        match begun.2 with
        | .error _ => some { s with port := begun.1, session := .closing }
        | .ok frames =>
            if frames = [] ∨ written then
              some { s with
                port := begun.1
                toDaemon := s.toDaemon ++ frames
                session := .waiting cmd iso }
            else
              some { s with port := begun.1, session := .closing }
      else none
  | _ => none

/-- The history of GET_REPORT answers after a submit was completed. -/
def featureAnswersAfter (s : Server) (cmd : UsbipCmdSubmit) (reply : SubmitReply) :
    List FeatureAnswer :=
  if waitOf cmd = some .featureReply then
    s.featureAnswers ++
      [⟨UInt8.ofNat (setupOf cmd.setup).wValue, (setupOf cmd.setup).wLength,
        s.port.featureReplyQueue.head?, reply.data⟩]
  else s.featureAnswers

/-- The wait ends, with a frame if one is queued, and the reply is built. -/
def endWait (s : Server) : Option Server :=
  match s.session with
  | .waiting cmd iso =>
      let completed := completeSubmit s.port cmd iso
      match completed.2 with
      | .error _ => some { s with port := completed.1, session := .closing }
      | .ok reply =>
          some { s with
            port := completed.1
            session := .sending cmd reply
            featureAnswers := featureAnswersAfter s cmd reply }
  | _ => none

/-- `multimap::emplace`: behind every entry that is not due later. -/
def emplace (due : Nat) (reply : PacedReply) :
    List (Nat × PacedReply) → List (Nat × PacedReply)
  | [] => [(due, reply)]
  | entry :: rest =>
      if entry.1 ≤ due then entry :: emplace due reply rest else (due, reply) :: entry :: rest

/-- The due time of the next reply of a direction: the previous one's plus its
duration, unless the stream has just (re)started. -/
def dueOf (anchor now : Nat) : Nat :=
  if anchor = 0 ∨ anchor + milliseconds 250 < now then now else anchor

/-- Hand a paced reply to the pacer. -/
def pace (s : Server) (client : Nat) (cmd : UsbipCmdSubmit) (reply : SubmitReply) : Server :=
  let due := dueOf (if paceOut cmd then s.isoOutNextDue else s.isoInNextDue) s.now
  let next := due + milliseconds cmd.numberOfPackets.toInt.toNat
  { s with
    pacedReplies := emplace due ⟨client, cmd, reply⟩ s.pacedReplies
    isoOutNextDue := if paceOut cmd then next else s.isoOutNextDue
    isoInNextDue := if paceOut cmd then s.isoInNextDue else next
    session := .ready }

/-- Append to the log of the current connection. -/
def Server.log (s : Server) (message : Message) : List Sent :=
  match s.connection with
  | some connection => s.sent ++ [⟨connection.id, message⟩]
  | none => s.sent

def sendReply (s : Server) (accepted : Bool) : Option Server :=
  match s.session, s.connection with
  | .sending cmd reply, some connection =>
      if paceOut cmd || paceIn cmd then
        some (pace s connection.socket cmd reply)
      else if accepted then
        some { s with
          session := .ready
          sent := s.log (.retSubmit cmd.base.seqnum (reply.bytes cmd)) }
      else some { s with session := .closing }
  | _, _ => none

/-- The unlink branch ignores whether its reply was accepted. -/
def sendUnlink (s : Server) (accepted : Bool) : Option Server :=
  match s.session with
  | .unlinking seqnum unlinkSeqnum =>
      some { s with
        session := .ready
        sent := if accepted then s.log (.retUnlink seqnum unlinkSeqnum) else s.sent }
  | _ => none

/-- The start of an import session: the pipe is connected and the reader is
started if it never was. -/
def importSession (s : Server) (socket : Nat) : Option Server :=
  match s.session with
  | .idle =>
      some { s with
        connection := some ⟨socket, s.nextConnection⟩
        nextConnection := s.nextConnection + 1
        attached := true
        pipeConnected := true
        reader := if s.reader = .notStarted then .running else s.reader
        session := .ready }
  | _ => none

def recvFails (s : Server) : Option Server :=
  match s.session with
  | .ready => some { s with session := .closing }
  | _ => none

/-- The end of an import session drops what the pacer has not taken yet. -/
def endSession (s : Server) : Option Server :=
  match s.session with
  | .closing =>
      some { s with
        attached := false
        pacedReplies := []
        isoOutNextDue := 0
        isoInNextDue := 0
        pipeConnected := false
        session := .closed }
  | _ => none

def closeSocket (s : Server) : Option Server :=
  match s.session with
  | .closed => some { s with connection := none, session := .idle }
  | _ => none

end Session

section Pacer

def pacerTakes (s : Server) : Option Server :=
  match s.pacer, s.pacedReplies with
  | none, (due, reply) :: rest =>
      if due ≤ s.now ∧ s.stopRequested = false then
        some { s with pacer := some reply, pacedReplies := rest }
      else none
  | _, _ => none

/-- The reply goes to whatever connection now has the socket it was made for. -/
def pacerSends (s : Server) (accepted : Bool) : Option Server :=
  match s.pacer with
  | some paced =>
      let reaches := accepted && (s.connection.map (·.socket) == some paced.client)
      some { s with
        pacer := none
        sent :=
          if reaches then
            s.log (.retSubmit paced.cmd.base.seqnum (paced.reply.bytes paced.cmd))
          else s.sent }
  | none => none

end Pacer

section PipeReader

def readerFrame (s : Server) (frame : Frame) (boost : Int16 → Int16) : Option Server :=
  if s.reader = .running ∧ s.pipeConnected then
    if s.stopRequested then some { s with reader := .exited }
    else
      some { s with
        port := demux boost s.port frame
        featureArrivals :=
          if frame.type = .usbFeatureReply then s.featureArrivals ++ [frame]
          else s.featureArrivals }
  else none

/-- A read fails when the pipe is gone, or on a frame that is too long. -/
def readerFails (s : Server) : Option Server :=
  if s.reader = .running then some { s with reader := .exited } else none

end PipeReader

variable (gainOfVolume : Int → Int)

def step (s : Server) : Action → Option Server
  | .tick elapsed => some { s with now := s.now + elapsed }
  | .stop => some { s with stopRequested := true }
  | .importSession socket => importSession s socket
  | .recv cmd outData iso written => recvPdu gainOfVolume s cmd outData iso written
  | .recvFails => recvFails s
  | .endWait => endWait s
  | .sendReply accepted => sendReply s accepted
  | .sendUnlink accepted => sendUnlink s accepted
  | .endSession => endSession s
  | .closeSocket => closeSocket s
  | .pacerTakes => pacerTakes s
  | .pacerSends accepted => pacerSends s accepted
  | .daemonCloses => some { s with pipeConnected := false }
  | .readerFrame frame boost => readerFrame s frame boost
  | .readerFails => readerFails s

section Inversion

variable {gainOfVolume} {s t : Server}

/-- A received PDU starts an unlink, starts a submit, or ends the session. -/
theorem recvPdu_cases {cmd : UsbipCmdSubmit} {outData : List UInt8}
    {iso : List UsbipIsoPacketDescriptor} {written : Bool}
    (h : recvPdu gainOfVolume s cmd outData iso written = some t) :
    s.session = .ready ∧
      ((cmd.base.command = kCmdUnlink ∧
          t = { s with session := .unlinking cmd.base.seqnum cmd.transferFlags }) ∨
        (∃ port, (port = s.port ∨ port = (beginSubmit gainOfVolume s.port cmd outData).1) ∧
          t = { s with port := port, session := .closing }) ∨
        (cmd.base.command = kCmdSubmit ∧ Received cmd outData iso ∧ ∃ frames,
          (beginSubmit gainOfVolume s.port cmd outData).2 = .ok frames ∧
          t = { s with
            port := (beginSubmit gainOfVolume s.port cmd outData).1
            toDaemon := s.toDaemon ++ frames
            session := .waiting cmd iso })) := by
  unfold recvPdu at h
  split at h
  · rename_i hready
    refine ⟨hready, ?_⟩
    split_ifs at h with hunlink hother hreceived
    · exact .inl ⟨hunlink, (Option.some.inj h).symm⟩
    · exact .inr (.inl ⟨s.port, .inl rfl, (Option.some.inj h).symm⟩)
    · have hsubmit : cmd.base.command = kCmdSubmit := not_not.mp hother
      simp only at h
      split at h
      · exact .inr (.inl ⟨_, .inr rfl, (Option.some.inj h).symm⟩)
      · rename_i frames hframes
        split_ifs at h with hwritten
        · exact .inr (.inr ⟨hsubmit, hreceived, frames, hframes, (Option.some.inj h).symm⟩)
        · exact .inr (.inl ⟨_, .inr rfl, (Option.some.inj h).symm⟩)
  · cases h

/-- A finished wait leaves a reply to send or ends the session. -/
theorem endWait_cases (h : endWait s = some t) :
    ∃ cmd iso, s.session = .waiting cmd iso ∧
      ((∃ error, (completeSubmit s.port cmd iso).2 = .error error ∧
          t = { s with port := (completeSubmit s.port cmd iso).1, session := .closing }) ∨
        ∃ reply, (completeSubmit s.port cmd iso).2 = .ok reply ∧
          t = { s with
            port := (completeSubmit s.port cmd iso).1
            session := .sending cmd reply
            featureAnswers := featureAnswersAfter s cmd reply }) := by
  unfold endWait at h
  split at h
  · rename_i cmd iso hwaiting
    refine ⟨cmd, iso, hwaiting, ?_⟩
    simp only at h
    split at h
    · rename_i error herror
      exact .inl ⟨error, herror, (Option.some.inj h).symm⟩
    · rename_i reply hreply
      exact .inr ⟨reply, hreply, (Option.some.inj h).symm⟩
  · cases h

/-- A reply is handed to the pacer, accepted by the connection, or lost with it. -/
theorem sendReply_cases {accepted : Bool} (h : sendReply s accepted = some t) :
    ∃ cmd reply connection, s.session = .sending cmd reply ∧ s.connection = some connection ∧
      (((paceOut cmd || paceIn cmd) = true ∧ t = pace s connection.socket cmd reply) ∨
        ((paceOut cmd || paceIn cmd) = false ∧
          t = { s with
            session := .ready
            sent := s.sent ++
              [⟨connection.id, .retSubmit cmd.base.seqnum (reply.bytes cmd)⟩] }) ∨
        t = { s with session := .closing }) := by
  unfold sendReply at h
  split at h
  · rename_i cmd reply connection hsending hconnection
    refine ⟨cmd, reply, connection, hsending, hconnection, ?_⟩
    split_ifs at h with hpaced haccepted
    · exact .inl ⟨hpaced, (Option.some.inj h).symm⟩
    · refine .inr (.inl ⟨by simpa using hpaced, ?_⟩)
      rw [← Option.some.inj h]
      simp [Server.log, hconnection]
    · exact .inr (.inr (Option.some.inj h).symm)
  · cases h

/-- The acknowledgement of an unlink is accepted or lost; the session goes on. -/
theorem sendUnlink_cases {accepted : Bool} (h : sendUnlink s accepted = some t) :
    ∃ seqnum unlinked, s.session = .unlinking seqnum unlinked ∧
      (t = { s with session := .ready } ∨
        ∃ connection, s.connection = some connection ∧
          t = { s with
            session := .ready
            sent := s.sent ++ [⟨connection.id, .retUnlink seqnum unlinked⟩] }) := by
  unfold sendUnlink at h
  split at h
  · rename_i seqnum unlinked hunlinking
    refine ⟨seqnum, unlinked, hunlinking, ?_⟩
    rw [← Option.some.inj h]
    cases accepted with
    | false => exact .inl rfl
    | true =>
        cases hconnection : s.connection with
        | none => exact .inl (by simp [Server.log, hconnection])
        | some connection =>
            exact .inr ⟨connection, rfl, by simp [Server.log, hconnection]⟩
  · cases h

/-- The pacer's reply reaches the connection that has its socket, or nothing. -/
theorem pacerSends_cases {accepted : Bool} (h : pacerSends s accepted = some t) :
    ∃ paced, s.pacer = some paced ∧
      (t = { s with pacer := none } ∨
        ∃ connection, s.connection = some connection ∧ connection.socket = paced.client ∧
          t = { s with
            pacer := none
            sent := s.sent ++ [⟨connection.id, .retSubmit paced.cmd.base.seqnum
              (paced.reply.bytes paced.cmd)⟩] }) := by
  unfold pacerSends at h
  split at h
  · rename_i paced hpaced
    refine ⟨paced, hpaced, ?_⟩
    rw [← Option.some.inj h]
    cases hconnection : s.connection with
    | none => exact .inl (by simp)
    | some connection =>
        by_cases hreaches : accepted = true ∧ connection.socket = paced.client
        · refine .inr ⟨connection, rfl, hreaches.2, ?_⟩
          simp [Server.log, hconnection, hreaches.1, hreaches.2]
        · refine .inl ?_
          simp only [Option.map_some, Bool.and_eq_true, beq_iff_eq, Option.some.injEq, hreaches,
            if_false]
  · cases h

theorem pacerTakes_cases (h : pacerTakes s = some t) :
    ∃ due reply rest, s.pacer = none ∧ s.pacedReplies = (due, reply) :: rest ∧ due ≤ s.now ∧
      t = { s with pacer := some reply, pacedReplies := rest } := by
  unfold pacerTakes at h
  split at h
  · rename_i due reply rest hnone hqueue
    split_ifs at h with hdue
    exact ⟨due, reply, rest, hnone, hqueue, hdue.1, (Option.some.inj h).symm⟩
  · cases h

/-- A frame either stops the reader or is demultiplexed and recorded. -/
theorem readerFrame_cases {frame : Frame} {boost : Int16 → Int16}
    (h : readerFrame s frame boost = some t) :
    t = { s with reader := .exited } ∨
      t = { s with
        port := demux boost s.port frame
        featureArrivals :=
          if frame.type = .usbFeatureReply then s.featureArrivals ++ [frame]
          else s.featureArrivals } := by
  unfold readerFrame at h
  split at h
  · split at h
    · exact .inl (Option.some.inj h).symm
    · exact .inr (Option.some.inj h).symm
  · cases h

end Inversion

end VirtualDualSense.UsbIp.Session
