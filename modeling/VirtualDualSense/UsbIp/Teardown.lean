import Mathlib.Logic.Function.Basic
import VirtualDualSense.Lib.Runs

/-!
# Teardown of a virtual port

`stop()` raises a flag, wakes the pacer, shuts the published client down, pokes the
listener and then joins the TCP thread, the pipe reader and the pacer in that order.
The threads are program counters here: what they wait for is kept, and the bytes they
move are left out.

## Implementation notes

A critical section without a blocking call is one step. `pacer_mutex` is then held
exactly while the pacer is at `check` or `looked`, and `socket_send_mutex` exactly while
the pacer or the TCP thread is at `sending`. The bridge closes its end of the pipe before
it destroys the port.
-/

namespace VirtualDualSense.UsbIp.Teardown

open Lib.Runs

/-- The operation a client asks for in its first header. -/
inductive OpCode
  | reqDevlist
  | reqImport
  | other
  deriving DecidableEq, Repr

/-- One end of an accepted or queued connection. -/
structure Conn where
  code : OpCode
  /-- Bytes that wait to be received. -/
  unread : Nat
  /-- The peer does not take what is sent. -/
  stalled : Bool
  peerClosed : Bool
  /-- `stop()` has shut the socket down. -/
  shut : Bool
  /-- The TCP thread has closed the socket. -/
  closed : Bool
  deriving DecidableEq, Repr

def Conn.fresh (code : OpCode) : Conn := ⟨code, 0, false, false, false, false⟩

/-- What a reply under the send mutex answers. -/
inductive Reply
  | unlink
  | submit
  deriving DecidableEq, Repr

/-- The place of the TCP thread in the connection it serves. -/
inductive Phase
  /-- `recv_exact` of the operation header. -/
  | header
  /-- `recv_exact` of the bus id. -/
  | busid
  /-- Before `ConnectNamedPipe`. -/
  | connect
  /-- In a `ConnectNamedPipe` that waits for the daemon. -/
  | awaitDaemon
  /-- At `while (!stop_requested)` of the import session. -/
  | check
  /-- `recv_exact` of the next command. -/
  | command
  /-- `recv_exact` of the transfer buffer and the iso descriptors of these sizes. -/
  | body (sizes : List Nat)
  /-- In `handle_cmd_submit`, between two blocking calls. -/
  | submit
  | pipeWrite
  /-- In `wait_for_hid_in_frame` or `wait_for_feature_reply`. -/
  | frameWait
  | lockSend (reply : Reply)
  | sending (reply : Reply)
  /-- Before the paced reply is put into the queue. -/
  | enqueue
  /-- After the session loop, before the paced replies are dropped. -/
  | ending
  /-- At the end of the accept iteration. -/
  | closing
  deriving DecidableEq, Repr

inductive TcpPc
  | starting
  /-- At `while (!stop_requested)` of the accept loop. -/
  | loop
  | accepting
  | accepted (c : Nat)
  | serving (c : Nat) (phase : Phase)
  | exited
  deriving DecidableEq, Repr

inductive PacerPc
  /-- Waiting for `pacer_mutex`. -/
  | locking
  /-- At `while (!stop_requested)`, with the mutex. -/
  | check
  /-- Past the check, with the mutex. -/
  | looked
  | waiting
  | timedWait
  /-- With a reply in hand, waiting for `socket_send_mutex`. -/
  | taken (c : Nat)
  | sending (c : Nat)
  | exited
  deriving DecidableEq, Repr

/-- A notification wakes a waiting pacer and nothing else. -/
def PacerPc.notified : PacerPc → PacerPc
  | .waiting | .timedWait => .locking
  | pc => pc

inductive ReaderPc
  | notStarted
  | reading
  | got
  | aborted
  | exited
  deriving DecidableEq, Repr

inductive StopPc
  | idle
  | flagged
  | notified
  | exchanged (held : Option Nat)
  | shutDown
  | poking (p : Nat)
  | joinTcp
  | cancelling (attempt : Nat)
  | joinReader
  | readerJoined
  | joinPacer
  | returned
  deriving DecidableEq, Repr

/-- The server end of the internal pipe. -/
inductive PipeState
  | listening
  | connected
  | broken
  | disconnected
  deriving DecidableEq, Repr

/-- The handle the bridge opens on the pipe. -/
inductive DaemonEnd
  | notOpened
  | opened
  | closed
  deriving DecidableEq, Repr

structure State where
  stop : StopPc
  tcp : TcpPc
  pacer : PacerPc
  reader : ReaderPc
  /-- `client_socket`. -/
  slot : Option Nat
  backlog : List Nat
  conns : Nat → Conn
  next : Nat
  /-- The clients of `paced_replies`. -/
  paced : List Nat
  pipe : PipeState
  daemon : DaemonEnd
  /-- Frames of the daemon that wait to be read. -/
  inbound : Nat
  /-- The daemon does not take what is written. -/
  full : Bool

/-- A port right after `start()`. -/
def init : State :=
  ⟨.idle, .starting, .locking, .notStarted, none, [], fun _ => .fresh .other, 0, [], .listening,
    .notOpened, 0, false⟩

namespace State

/-- `stop_requested` is set by the first statement of `stop()` and never cleared. -/
def stopRequested (s : State) : Bool := s.stop ≠ .idle

/-- `pacer_cv.notify_all()`. -/
def notifyPacer (s : State) : State := { s with pacer := s.pacer.notified }

def setConn (s : State) (c : Nat) (f : Conn → Conn) : State :=
  { s with conns := Function.update s.conns c (f (s.conns c)) }

def pacerHoldsMutex (s : State) : Bool := s.pacer = .check ∨ s.pacer = .looked

/-- The listener exists. -/
def listening (s : State) : Bool := s.tcp ≠ .starting ∧ s.tcp ≠ .exited

end State

/-- What a received command is, with the sizes of what follows it. -/
inductive Command
  | unlink
  | submit (sizes : List Nat)
  | other
  deriving DecidableEq, Repr

/-- The next blocking call of `handle_cmd_submit`, or its failure. -/
inductive Work
  | write
  | wait
  | reply
  | pace
  | fail
  deriving DecidableEq, Repr

inductive TcpAction
  | listen (ok : Bool)
  | checkStop
  | accept
  | acceptFails
  | publish
  | recv
  | recvCommand (command : Command)
  | recvFails
  /-- On an overlapped pipe without an `OVERLAPPED` the call may report at once. -/
  | connectPipe (atOnce : Bool)
  | daemonConnected
  | checkSession
  | work (w : Work)
  | writeReturns (ok : Bool) (fills : Bool)
  | waitReturns
  | lockSend
  | sendReturns (ok : Bool)
  | enqueue
  | endSession
  | close
  deriving DecidableEq, Repr

inductive PacerAction
  | lock
  | checkStop
  /-- Wait, wait until the earliest reply is due, or take it. -/
  | look (early : Bool)
  | timer
  | lockSend
  | sendReturns
  deriving DecidableEq, Repr

inductive ReaderAction
  | readFrame
  | file
  | readFails
  | leave
  deriving DecidableEq, Repr

inductive StopAction
  | setFlag
  | notify
  | exchange
  | shutDown
  | poke (connected : Bool)
  | closePoke
  | joinTcp
  | cancel
  | joinReader
  | notifyAgain
  | joinPacer
  deriving DecidableEq, Repr

inductive EnvAction
  | clientConnects (code : OpCode)
  | clientSends (c : Nat) (n : Nat)
  | clientStalls (c : Nat)
  | clientReads (c : Nat)
  | clientCloses (c : Nat)
  | daemonOpens
  | daemonWrites
  | daemonReads
  | daemonCloses
  deriving DecidableEq, Repr

inductive Action
  | tcp (a : TcpAction)
  | pacer (a : PacerAction)
  | reader (a : ReaderAction)
  | stop (a : StopAction)
  | env (a : EnvAction)
  deriving DecidableEq, Repr

/-- Steps of the port's own threads and timers. -/
def Action.internal : Action → Prop
  | .env _ => False
  | _ => True

/-- The bytes the next `recv_exact` of a phase waits for. -/
def Phase.recvSize : Phase → Option Nat
  | .header => some 8
  | .busid => some 32
  | .command => some 48
  | .body (n :: _) => some n
  | _ => none

/-- The phase after a complete `recv_exact`. The replies to a device list and to an import
are the first bytes of their connection and fit its send buffer. -/
def Phase.afterRecv (code : OpCode) : Phase → Option Phase
  | .header =>
      match code with
      | .reqDevlist => some .closing
      | .reqImport => some .busid
      | .other => some .closing
  | .busid => some .connect
  | .body (_ :: sizes) => some (.body sizes)
  | _ => none

def Phase.afterCommand : Command → Phase
  | .unlink => .lockSend .unlink
  | .submit sizes => .body sizes
  | .other => .ending

def Phase.afterWork : Work → Phase
  | .write => .pipeWrite
  | .wait => .frameWait
  | .reply => .lockSend .submit
  | .pace => .enqueue
  | .fail => .ending

/-- A shut socket fails every `recv`, a closed peer fails one that lacks bytes. -/
def Conn.recvFails (conn : Conn) (size : Nat) : Bool :=
  conn.shut ∨ conn.peerClosed ∧ conn.unread < size

def Conn.recvReturns (conn : Conn) (size : Nat) : Bool := ¬ conn.shut ∧ size ≤ conn.unread

def Conn.sendFails (conn : Conn) : Bool := conn.shut ∨ conn.closed ∨ conn.peerClosed

namespace State

def moveTcp (s : State) (pc : TcpPc) : Option State := some { s with tcp := pc }

/-- A `recv_exact` that returns with all its bytes. -/
def receive (s : State) (c size : Nat) (phase : Phase) : Option State :=
  if (s.conns c).recvReturns size then
    some { s with
      tcp := .serving c phase
      conns := Function.update s.conns c
        { s.conns c with unread := (s.conns c).unread - size } }
  else none

/-- `ConnectNamedPipe` and the start of the reader after it. -/
def connectPipe (s : State) (c : Nat) (atOnce : Bool) : Option State :=
  let startReader (r : ReaderPc) : ReaderPc := if r = .notStarted then .reading else r
  match s.pipe with
  | .connected => some { s with tcp := .serving c .check, reader := startReader s.reader }
  | .broken => some { s with tcp := .serving c .closing }
  | .listening | .disconnected =>
      if atOnce then
        some { s with
          tcp := .serving c .check, reader := startReader s.reader, pipe := .listening }
      else some { s with tcp := .serving c .awaitDaemon, pipe := .listening }

end State

/-- `tcp_server_loop` and the import session in it. -/
def tcpStep (s : State) (a : TcpAction) : Option State :=
  match s.tcp, a with
  | .starting, .listen ok => s.moveTcp (if ok then .loop else .exited)
  | .loop, .checkStop => s.moveTcp (if s.stopRequested then .exited else .accepting)
  | .accepting, .accept =>
      match s.backlog with
      | c :: rest => some { s with tcp := .accepted c, backlog := rest }
      | [] => none
  | .accepting, .acceptFails =>
      match s.backlog with
      | c :: rest =>
          if (s.conns c).peerClosed then some { s with tcp := .loop, backlog := rest } else none
      | [] => none
  | .accepted c, .publish => some { s with tcp := .serving c .header, slot := some c }
  | .serving c phase, .recv =>
      match phase.recvSize, phase.afterRecv (s.conns c).code with
      | some size, some phase' => s.receive c size phase'
      | _, _ => none
  | .serving c .command, .recvCommand command => s.receive c 48 (Phase.afterCommand command)
  | .serving c phase, .recvFails =>
      match phase.recvSize with
      | some size =>
          if (s.conns c).recvFails size then
            s.moveTcp (.serving c (if phase = .header ∨ phase = .busid then .closing else .ending))
          else none
      | none => none
  | .serving c .connect, .connectPipe atOnce => s.connectPipe c atOnce
  | .serving c .awaitDaemon, .daemonConnected =>
      if s.pipe = .listening then none
      else
        some { s with
          tcp := .serving c .check
          reader := if s.reader = .notStarted then .reading else s.reader }
  | .serving c .check, .checkSession =>
      s.moveTcp (.serving c (if s.stopRequested then .ending else .command))
  | .serving c (.body []), .work w => s.moveTcp (.serving c (Phase.afterWork w))
  | .serving c .submit, .work w => s.moveTcp (.serving c (Phase.afterWork w))
  | .serving c .pipeWrite, .writeReturns ok fills =>
      match s.pipe, ok with
      | .connected, true =>
          if s.full then none else some { s with tcp := .serving c .submit, full := fills }
      | .connected, false => none
      | _, true => none
      | _, false => s.moveTcp (.serving c .ending)
  | .serving c .frameWait, .waitReturns => s.moveTcp (.serving c .submit)
  | .serving c (.lockSend reply), .lockSend =>
      match s.pacer with
      | .sending _ => none
      | _ => s.moveTcp (.serving c (.sending reply))
  | .serving c (.sending reply), .sendReturns ok =>
      if ok then
        if (s.conns c).stalled ∨ (s.conns c).sendFails then none
        else s.moveTcp (.serving c .check)
      else if (s.conns c).sendFails then
        s.moveTcp (.serving c (if reply = .unlink then .check else .ending))
      else none
  | .serving c .enqueue, .enqueue =>
      if s.pacerHoldsMutex then none
      else
        some { s with tcp := .serving c .check, paced := s.paced ++ [c] }.notifyPacer
  | .serving c .ending, .endSession =>
      if s.pacerHoldsMutex then none
      else
        some { s with
          tcp := .serving c .closing, paced := [], pipe := .disconnected, inbound := 0 }
  | .serving c .closing, .close =>
      (({ s with slot := none }).setConn c fun conn => { conn with closed := true }).moveTcp .loop
  | _, _ => none

/-- `iso_pacer_loop`. -/
def pacerStep (s : State) (a : PacerAction) : Option State :=
  match s.pacer, a with
  | .locking, .lock => some { s with pacer := .check }
  | .check, .checkStop => some { s with pacer := if s.stopRequested then .exited else .looked }
  | .looked, .look early =>
      match s.paced with
      | [] => some { s with pacer := .waiting }
      | c :: rest =>
          if early then some { s with pacer := .timedWait }
          else some { s with pacer := .taken c, paced := rest }
  | .timedWait, .timer => some { s with pacer := .locking }
  | .taken c, .lockSend =>
      match s.tcp with
      | .serving _ (.sending _) => none
      | _ => some { s with pacer := .sending c }
  | .sending c, .sendReturns =>
      if (s.conns c).stalled ∧ ¬ (s.conns c).sendFails then none
      else some { s with pacer := .locking }
  | _, _ => none

/-- `pipe_reader_loop`. -/
def readerStep (s : State) (a : ReaderAction) : Option State :=
  match s.reader, a with
  | .reading, .readFrame =>
      if (s.pipe = .connected ∨ s.pipe = .broken) ∧ 0 < s.inbound then
        some { s with reader := .got, inbound := s.inbound - 1 }
      else none
  | .got, .file => some { s with reader := if s.stopRequested then .exited else .reading }
  | .reading, .readFails =>
      if s.pipe = .connected ∨ s.pipe = .broken ∧ 0 < s.inbound then none
      else some { s with reader := .exited }
  | .aborted, .leave => some { s with reader := .exited }
  | _, _ => none

/-- `stop()`, up to each of its joins and past it. -/
def stopStep (s : State) (a : StopAction) : Option State :=
  match s.stop, a with
  | .idle, .setFlag => if s.daemon = .opened then none else some { s with stop := .flagged }
  | .flagged, .notify => some { s with stop := .notified }.notifyPacer
  | .notified, .exchange => some { s with stop := .exchanged s.slot, slot := none }
  | .exchanged held, .shutDown =>
      match held with
      | some c =>
          some ({ s with stop := .shutDown }.setConn c fun conn => { conn with shut := true })
      | none => some { s with stop := .shutDown }
  | .shutDown, .poke connected =>
      if connected then
        if s.listening then
          some ({ s with stop := .poking s.next, backlog := s.backlog ++ [s.next],
                         next := s.next + 1 }.setConn s.next fun _ => .fresh .other)
        else none
      else some { s with stop := .joinTcp }
  | .poking p, .closePoke =>
      some ({ s with stop := .joinTcp }.setConn p fun conn => { conn with peerClosed := true })
  | .joinTcp, .joinTcp =>
      if s.tcp = .exited then
        some { s with stop := if s.reader = .notStarted then .readerJoined else .cancelling 0 }
      else none
  | .cancelling attempt, .cancel =>
      if attempt < 200 ∧ s.reader ≠ .exited then
        some { s with stop := .cancelling (attempt + 1),
                      reader := if s.reader = .reading then .aborted else s.reader }
      else some { s with stop := .joinReader }
  | .joinReader, .joinReader =>
      if s.reader = .exited then some { s with stop := .readerJoined } else none
  | .readerJoined, .notifyAgain => some { s with stop := .joinPacer }.notifyPacer
  | .joinPacer, .joinPacer =>
      if s.pacer = .exited then some { s with stop := .returned } else none
  | _, _ => none

/-- Clients and the bridge. The thread that opens the pipe is the one that calls `stop()`. -/
def envStep (s : State) : EnvAction → Option State
  | .clientConnects code =>
      if s.listening then
        some ({ s with backlog := s.backlog ++ [s.next], next := s.next + 1 }.setConn s.next
          fun _ => .fresh code)
      else none
  | .clientSends c n =>
      if (s.conns c).peerClosed then none
      else some (s.setConn c fun conn => { conn with unread := conn.unread + n })
  | .clientStalls c => some (s.setConn c fun conn => { conn with stalled := true })
  | .clientReads c => some (s.setConn c fun conn => { conn with stalled := false })
  | .clientCloses c => some (s.setConn c fun conn => { conn with peerClosed := true })
  | .daemonOpens =>
      if s.daemon = .notOpened ∧ s.stop = .idle ∧ s.pipe = .listening then
        some { s with daemon := .opened, pipe := .connected }
      else none
  | .daemonWrites =>
      if s.daemon = .opened ∧ s.pipe = .connected then some { s with inbound := s.inbound + 1 }
      else none
  | .daemonReads => if s.daemon = .opened then some { s with full := false } else none
  | .daemonCloses =>
      if s.daemon = .opened then
        some { s with
          daemon := .closed, pipe := if s.pipe = .connected then .broken else s.pipe }
      else none

def step (s : State) : Action → Option State
  | .tcp a => tcpStep s a
  | .pacer a => pacerStep s a
  | .reader a => readerStep s a
  | .stop a => stopStep s a
  | .env a => envStep s a

/-- The threads `stop()` joins. -/
inductive Thread
  | tcp
  | reader
  | pacer
  deriving DecidableEq, Repr

/-- The thread a call of `stop()` waits for. -/
def StopPc.joins : StopPc → Option Thread
  | .joinTcp => some .tcp
  | .joinReader => some .reader
  | .joinPacer => some .pacer
  | _ => none

def State.ended (s : State) : Thread → Prop
  | .tcp => s.tcp = .exited
  | .reader => s.reader = .exited
  | .pacer => s.pacer = .exited

/-- A thread is at the same place in both states. -/
def SamePlace (s t : State) : Thread → Prop
  | .tcp => t.tcp = s.tcp
  | .reader => t.reader = s.reader
  | .pacer => t.pacer = s.pacer

/-- `stop()` joins a thread that no steps of the port's threads and timers can move. -/
def Deadlocked (s : State) : Prop :=
  ∃ thread, s.stop.joins = some thread ∧ ¬ s.ended thread ∧
    ∀ actions t, GuardedRun step (fun _ a => a.internal) s actions t → SamePlace s t thread

/-- The pacer sees the flag down and an empty queue. Both notifications pass before it waits. -/
def lostWakeup : List Action :=
  [.tcp (.listen true), .tcp .checkStop, .pacer .lock, .pacer .checkStop, .env .daemonOpens,
    .env .daemonCloses, .stop .setFlag, .stop .notify, .stop .exchange, .stop .shutDown,
    .stop (.poke true), .stop .closePoke, .tcp .accept, .tcp .publish, .tcp .recvFails,
    .tcp .close, .tcp .checkStop, .stop .joinTcp, .stop .notifyAgain, .pacer (.look true)]

/-- A pacer that waits while `stop()` joins it, with all other threads gone, waits forever. -/
theorem deadlocked_of_waiting {s : State} (hstop : s.stop = .joinPacer) (htcp : s.tcp = .exited)
    (hreader : s.reader = .notStarted) (hpacer : s.pacer = .waiting) : Deadlocked s := by
  refine ⟨.pacer, by rw [hstop]; rfl, by simp [State.ended, hpacer], ?_⟩
  intro actions t run
  cases run with
  | nil => rfl
  | @cons _ u _ a _ internal h _ =>
      cases a with
      | tcp a => simp [step, tcpStep, htcp] at h
      | pacer a => simp [step, pacerStep, hpacer] at h
      | reader a => simp [step, readerStep, hreader] at h
      | stop a => cases a <;> simp [step, stopStep, hstop, hpacer] at h
      | env a => exact internal.elim

theorem lostWakeup_deadlocked : ∃ t, Run step init lostWakeup t ∧ Deadlocked t := by
  have run : ∃ t, Run step init lostWakeup t ∧
      t.stop = .joinPacer ∧ t.tcp = .exited ∧ t.reader = .notStarted ∧ t.pacer = .waiting :=
    exists_run_of_execute (by decide)
  obtain ⟨t, run, hstop, htcp, hreader, hpacer⟩ := run
  exact ⟨t, run, deadlocked_of_waiting hstop htcp hreader hpacer⟩

/-- `stop()` has not yet looked for a published client. -/
def StopPc.early : StopPc → Bool
  | .idle | .flagged | .notified => true
  | _ => false

/-- The bytes a client sends before the server sends anything. -/
def OpCode.requestSize : OpCode → Nat
  | .reqImport => 40
  | _ => 8

/-- The opening request of the client is there or will fail to be received. -/
def Forthcoming (s : State) (c : Nat) : Prop :=
  (s.conns c).peerClosed = true ∨ s.stop = .poking c ∨
    (s.conns c).code.requestSize ≤ (s.conns c).unread

/-- The condition on the steps of a run: a client published after `stop()` has looked for
one is not silent, `stop()` does not meet a TCP thread that waits for the daemon, the
poke reaches an idle listener, and the last notification does not fall between the
pacer's look at the queue and its wait. -/
def timely (s : State) : Action → Prop
  | .tcp .publish => s.stop.early = true ∨ ∀ c, s.tcp = .accepted c → Forthcoming s c
  | .tcp (.connectPipe atOnce) =>
      s.stop = .idle ∨ atOnce = true ∨ s.pipe = .connected ∨ s.pipe = .broken
  | .stop .setFlag => s.pipe = .listening → ∀ c, s.tcp ≠ .serving c .awaitDaemon
  | .stop (.poke false) => s.tcp = .accepting → s.backlog ≠ []
  | .stop .notifyAgain => s.pacer = .looked → s.paced ≠ []
  | _ => True

end VirtualDualSense.UsbIp.Teardown
