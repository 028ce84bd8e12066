import VirtualDualSense.Config.Vdsctl
import VirtualDualSense.Lib.Runs

/-!
# The control pipe of the Windows daemon

The thread of `ControlPipeServer` takes one client at a time, queues its command and waits for
the supervisor, which handles the queued commands when it is woken. A command is handled once
and answered with its own reply, no wake-up is lost, and a stop ends both sides.

## Implementation notes

A block under a mutex is one step, and so is a call of the system. The number of a request is
that of its command among `commands`, which were read. `handled` and `told` are the calls of the
handler and the replies given to the clients. No thread reads these three. The handler may do
anything, and may throw. Running out of memory is left out.
-/

namespace VirtualDualSense.Win32.ControlPipe

open Lib.Runs Lib.Text
open Config.Vdsctl (trimCommand)

section States

def stoppingReply : List UInt8 :=
  ascii "\x7b\"OK\":false,\"error\":\"daemon stopping\"\x7d\n"

def unqueuedReply : List UInt8 :=
  ascii "\x7b\"OK\":false,\"error\":\"failed to queue command\"\x7d\n"

def emptyReply : List UInt8 :=
  ascii "\x7b\"OK\":false,\"error\":\"empty command\"\x7d\n"

structure ControlRequest where
  command : List UInt8
  reply : List UInt8
  doneEvent : Bool
  deriving DecidableEq

inductive Io
  | connect
  | read
  | write
  deriving DecidableEq

inductive IoResult
  | failed
  | done (bytes : List UInt8)
  deriving DecidableEq

/-- Where `thread_main` is. -/
inductive Server
  | loop
  | creating
  | backingOff
  | connecting
  | waiting (io : Io)
  | cancelling
  | connected
  | reading
  | queueing (id : Nat)
  | pushing (id : Nat)
  | awaiting (id : Nat)
  | collecting (id : Nat)
  | replying (id : Nat) (reply : List UInt8)
  | disconnecting
  | ended
  deriving DecidableEq

/-- Where the supervisor is: its own loop, `service_ready`, or `stop`. -/
inductive Supervisor
  | waiting
  | servicing
  | handling (id : Nat)
  | storing (id : Nat) (reply : List UInt8)
  | signalling (id : Nat)
  | stopping
  | signallingStop
  | taking
  | refusing (ids : List Nat)
  | refused (id : Nat) (ids : List Nat)
  | joining
  | finished
  deriving DecidableEq

/-- A call of the handler. -/
structure Handled where
  id : Nat
  command : List UInt8
  reply : List UInt8
  deriving DecidableEq

structure Pipe where
  requests : Nat → ControlRequest
  commands : List (List UInt8)
  queue : List Nat
  commandEvent : Bool
  stopEvent : Bool
  stopRequested : Bool
  server : Server
  supervisor : Supervisor
  waitFailed : Bool
  handled : List Handled
  told : List (Nat × List UInt8)

end States

section Steps

/-- The bytes of a command that `read_command` has room for. -/
def readSize : Nat := 511

def Pipe.setRequest (s : Pipe) (id : Nat) (request : ControlRequest) : Pipe :=
  { s with requests := Function.update s.requests id request }

/-- A command was read. -/
def Pipe.receive (s : Pipe) (command : List UInt8) : Pipe :=
  let id := s.commands.length
  { s.setRequest id ⟨command, [], false⟩ with
    commands := s.commands ++ [command]
    server := .queueing id }

/-- The end of an input or output of the pipe. -/
def Pipe.finishIo (s : Pipe) : Io → IoResult → Pipe
  | .connect, .done _ => { s with server := .connected }
  | .read, .done (first :: rest) => s.receive (first :: rest)
  | _, _ => { s with server := .disconnecting }

/-- The start of one, which may be pending. -/
def Pipe.startIo (s : Pipe) (io : Io) : Option IoResult → Pipe
  | none => { s with server := .waiting io }
  | some result => s.finishIo io result

inductive Action
  | head
  | createPipe (created : Bool)
  | backOff
  | startIo (result : Option IoResult)
  | ioDone (result : IoResult)
  | ioStopped
  | ioFailed
  | cancelled
  | checkStop
  | createRequest (created : Bool)
  | push
  | answered
  | unanswered
  | waitFails
  | collect
  | disconnect
  | wake
  | leave
  | take
  | handle (reply : List UInt8)
  | throw
  | store
  | signal
  | beginStop
  | signalStop
  | takeAll
  | refuse
  | refuseSignal
  | join
  deriving DecidableEq

/-- A result that the buffer of `read_command` can hold. -/
def fits : IoResult → Bool
  | .failed => true
  | .done bytes => bytes.length ≤ readSize

/-- The steps of `thread_main`. -/
def serverStep (s : Pipe) : Action → Option Pipe
  | .head =>
      match s.server with
      | .loop => some { s with server := if s.stopRequested then .ended else .creating }
      | _ => none
  | .createPipe created =>
      match s.server with
      | .creating => some { s with server := if created then .connecting else .backingOff }
      | _ => none
  | .backOff =>
      match s.server with
      | .backingOff => some { s with server := .loop }
      | _ => none
  | .startIo result =>
      if result.all fits then
        match s.server with
        | .connecting => some (s.startIo .connect result)
        | .reading => some (s.startIo .read result)
        | .replying id reply =>
            some { s.startIo .write result with told := s.told ++ [(id, reply)] }
        | _ => none
      else none
  | .ioDone result =>
      if fits result then
        match s.server with
        | .waiting io => some (s.finishIo io result)
        | _ => none
      else none
  | .ioStopped =>
      match s.server with
      | .waiting _ => if s.stopEvent then some { s with server := .cancelling } else none
      | _ => none
  | .ioFailed =>
      match s.server with
      | .waiting _ => some { s with server := .cancelling }
      | _ => none
  | .cancelled =>
      match s.server with
      | .cancelling => some { s with server := .disconnecting }
      | _ => none
  | .checkStop =>
      match s.server with
      | .connected => some { s with server := if s.stopRequested then .disconnecting else .reading }
      | _ => none
  | .createRequest created =>
      match s.server with
      | .queueing id =>
          some { s with server := if created then .pushing id else .replying id unqueuedReply }
      | _ => none
  | .push =>
      match s.server with
      | .pushing id =>
          if s.stopRequested then some { s with server := .replying id stoppingReply }
          else some { s with
            queue := s.queue ++ [id]
            commandEvent := true
            server := .awaiting id }
      | _ => none
  | .answered =>
      match s.server with
      | .awaiting id =>
          if (s.requests id).doneEvent then some { s with server := .collecting id } else none
      | _ => none
  | .unanswered =>
      match s.server with
      | .awaiting id =>
          -- of two events that are set the wait returns the first
          if !(s.requests id).doneEvent && s.stopEvent then
            some { s with server := .replying id stoppingReply }
          else none
      | _ => none
  | .waitFails =>
      match s.server with
      | .awaiting id => some { s with server := .replying id stoppingReply, waitFailed := true }
      | _ => none
  | .collect =>
      match s.server with
      | .collecting id => some { s with server := .replying id (s.requests id).reply }
      | _ => none
  | .disconnect =>
      match s.server with
      | .disconnecting => some { s with server := .loop }
      | _ => none
  | _ => none

/-- The steps of the supervisor in `service_ready` and `stop`. -/
def supervisorStep (s : Pipe) : Action → Option Pipe
  | .wake =>
      match s.supervisor with
      | .waiting => if s.commandEvent then some { s with supervisor := .servicing } else none
      | _ => none
  | .leave =>
      match s.supervisor with
      | .waiting => some { s with supervisor := .stopping }
      | _ => none
  | .take =>
      match s.supervisor, s.queue with
      | .servicing, [] => some { s with commandEvent := false, supervisor := .waiting }
      | .servicing, id :: rest => some { s with queue := rest, supervisor := .handling id }
      | _, _ => none
  | .handle reply =>
      match s.supervisor with
      | .handling id =>
          if (s.requests id).command = [] then some { s with supervisor := .storing id emptyReply }
          else some { s with
            supervisor := .storing id reply
            handled := s.handled ++ [⟨id, trimCommand (s.requests id).command, reply⟩] }
      | _ => none
  | .throw =>
      match s.supervisor with
      | .handling id =>
          if (s.requests id).command = [] then none else some { s with supervisor := .stopping }
      | _ => none
  | .store =>
      match s.supervisor with
      | .storing id reply =>
          some { s.setRequest id { s.requests id with reply } with supervisor := .signalling id }
      | _ => none
  | .signal =>
      match s.supervisor with
      | .signalling id =>
          some { s.setRequest id { s.requests id with doneEvent := true } with
            supervisor := .servicing }
      | _ => none
  | .beginStop =>
      match s.supervisor with
      | .stopping => some { s with stopRequested := true, supervisor := .signallingStop }
      | _ => none
  | .signalStop =>
      match s.supervisor with
      | .signallingStop => some { s with stopEvent := true, supervisor := .taking }
      | _ => none
  | .takeAll =>
      match s.supervisor with
      | .taking =>
          some { s with queue := [], commandEvent := false, supervisor := .refusing s.queue }
      | _ => none
  | .refuse =>
      match s.supervisor with
      | .refusing [] => some { s with supervisor := .joining }
      | .refusing (id :: ids) =>
          some { s.setRequest id { s.requests id with reply := stoppingReply } with
            supervisor := .refused id ids }
      | _ => none
  | .refuseSignal =>
      match s.supervisor with
      | .refused id ids =>
          some { s.setRequest id { s.requests id with doneEvent := true } with
            supervisor := .refusing ids }
      | _ => none
  | .join =>
      match s.supervisor, s.server with
      | .joining, .ended => some { s with supervisor := .finished }
      | _, _ => none
  | _ => none

def step (s : Pipe) (action : Action) : Option Pipe :=
  (serverStep s action).or (supervisorStep s action)

def init : Pipe where
  requests _ := ⟨[], [], false⟩
  commands := []
  queue := []
  commandEvent := false
  stopEvent := false
  stopRequested := false
  server := .loop
  supervisor := .waiting
  waitFailed := false
  handled := []
  told := []

end Steps

section Inversion

/-- The command of the client. -/
def Server.id : Server → Option Nat
  | .queueing id | .pushing id | .awaiting id | .collecting id | .replying id _ => some id
  | _ => none

/-- The steps that `thread_main` has left at most when a stop is requested. -/
def Server.rank : Server → Nat
  | .ended => 0
  | .loop => 1
  | .backingOff | .disconnecting => 2
  | .cancelling => 3
  | .waiting .write => 4
  | .replying _ _ => 5
  | .collecting _ => 6
  | .awaiting _ => 7
  | .pushing _ => 8
  | .queueing _ => 9
  | .waiting .read => 10
  | .reading => 11
  | .connected => 12
  | .waiting .connect => 13
  | .connecting => 14
  | .creating => 15

/-- What a step can do, by the places of the threads. -/
inductive Steps (s : Pipe) : Action → Pipe → Prop
  | move (action : Action) (next : Server) (before : s.server.id = none) (after : next.id = none)
      (lower : s.stopRequested = true → next.rank < s.server.rank) :
      Steps s action { s with server := next }
  | receive (action : Action) (first : UInt8) (rest : List UInt8) (before : s.server.id = none)
      (lower : Server.rank (.queueing 0) < s.server.rank) :
      Steps s action (s.receive (first :: rest))
  | created (id : Nat) (server : s.server = .queueing id) :
      Steps s (.createRequest true) { s with server := .pushing id }
  | uncreated (id : Nat) (server : s.server = .queueing id) :
      Steps s (.createRequest false) { s with server := .replying id unqueuedReply }
  | refusePush (id : Nat) (server : s.server = .pushing id) (stop : s.stopRequested = true) :
      Steps s .push { s with server := .replying id stoppingReply }
  | push (id : Nat) (server : s.server = .pushing id) (running : s.stopRequested = false) :
      Steps s .push
        { s with queue := s.queue ++ [id], commandEvent := true, server := .awaiting id }
  | answered (id : Nat) (server : s.server = .awaiting id)
      (done : (s.requests id).doneEvent = true) :
      Steps s .answered { s with server := .collecting id }
  | unanswered (id : Nat) (server : s.server = .awaiting id)
      (undone : (s.requests id).doneEvent = false) (stop : s.stopEvent = true) :
      Steps s .unanswered { s with server := .replying id stoppingReply }
  | waitFails (id : Nat) (server : s.server = .awaiting id) :
      Steps s .waitFails { s with server := .replying id stoppingReply, waitFailed := true }
  | collect (id : Nat) (server : s.server = .collecting id) :
      Steps s .collect { s with server := .replying id (s.requests id).reply }
  | tell (result : Option IoResult) (id : Nat) (reply : List UInt8) (next : Server)
      (server : s.server = .replying id reply)
      (after : next = .waiting .write ∨ next = .disconnecting) :
      Steps s (.startIo result) { s with server := next, told := s.told ++ [(id, reply)] }
  | wake (supervisor : s.supervisor = .waiting) (event : s.commandEvent = true) :
      Steps s .wake { s with supervisor := .servicing }
  | leave (supervisor : s.supervisor = .waiting) :
      Steps s .leave { s with supervisor := .stopping }
  | sleep (supervisor : s.supervisor = .servicing) (queue : s.queue = []) :
      Steps s .take { s with commandEvent := false, supervisor := .waiting }
  | take (id : Nat) (rest : List Nat) (supervisor : s.supervisor = .servicing)
      (queue : s.queue = id :: rest) :
      Steps s .take { s with queue := rest, supervisor := .handling id }
  | handleEmpty (id : Nat) (reply : List UInt8) (supervisor : s.supervisor = .handling id)
      (empty : (s.requests id).command = []) :
      Steps s (.handle reply) { s with supervisor := .storing id emptyReply }
  | handle (id : Nat) (reply : List UInt8) (supervisor : s.supervisor = .handling id)
      (some : (s.requests id).command ≠ []) :
      Steps s (.handle reply)
        { s with
          supervisor := .storing id reply
          handled := s.handled ++ [⟨id, trimCommand (s.requests id).command, reply⟩] }
  | throw (id : Nat) (supervisor : s.supervisor = .handling id) :
      Steps s .throw { s with supervisor := .stopping }
  | store (id : Nat) (reply : List UInt8) (supervisor : s.supervisor = .storing id reply) :
      Steps s .store
        { s.setRequest id { s.requests id with reply } with supervisor := .signalling id }
  | signal (id : Nat) (supervisor : s.supervisor = .signalling id) :
      Steps s .signal
        { s.setRequest id { s.requests id with doneEvent := true } with supervisor := .servicing }
  | beginStop (supervisor : s.supervisor = .stopping) :
      Steps s .beginStop { s with stopRequested := true, supervisor := .signallingStop }
  | signalStop (supervisor : s.supervisor = .signallingStop) :
      Steps s .signalStop { s with stopEvent := true, supervisor := .taking }
  | takeAll (supervisor : s.supervisor = .taking) :
      Steps s .takeAll
        { s with queue := [], commandEvent := false, supervisor := .refusing s.queue }
  | refusedAll (supervisor : s.supervisor = .refusing []) :
      Steps s .refuse { s with supervisor := .joining }
  | refuse (id : Nat) (ids : List Nat) (supervisor : s.supervisor = .refusing (id :: ids)) :
      Steps s .refuse
        { s.setRequest id { s.requests id with reply := stoppingReply } with
          supervisor := .refused id ids }
  | refuseSignal (id : Nat) (ids : List Nat) (supervisor : s.supervisor = .refused id ids) :
      Steps s .refuseSignal
        { s.setRequest id { s.requests id with doneEvent := true } with
          supervisor := .refusing ids }
  | join (supervisor : s.supervisor = .joining) (server : s.server = .ended) :
      Steps s .join { s with supervisor := .finished }

variable {s t : Pipe} {action : Action}

/-- An input or output that ends leaves the server further. -/
theorem steps_of_finishIo (io : Io) (result : IoResult) (before : s.server.id = none)
    (hrank : Server.rank (.waiting io) ≤ s.server.rank) :
    Steps s action (s.finishIo io result) := by
  have hdisconnect : Server.rank .disconnecting < s.server.rank := by
    refine Nat.lt_of_lt_of_le ?_ hrank
    cases io <;> decide
  cases io with
  | connect =>
      cases result with
      | failed => exact .move action .disconnecting before rfl fun _ => hdisconnect
      | done bytes =>
          exact .move action .connected before rfl fun _ => Nat.lt_of_succ_le hrank
  | read =>
      rcases result with _ | _ | ⟨first, rest⟩
      · exact .move action .disconnecting before rfl fun _ => hdisconnect
      · exact .move action .disconnecting before rfl fun _ => hdisconnect
      · exact .receive action first rest before (Nat.lt_of_succ_le hrank)
  | write =>
      cases result with
      | failed => exact .move action .disconnecting before rfl fun _ => hdisconnect
      | done bytes => exact .move action .disconnecting before rfl fun _ => hdisconnect

theorem steps_of_startIo (io : Io) (result : Option IoResult) (before : s.server.id = none)
    (hrank : Server.rank (.waiting io) < s.server.rank) :
    Steps s action (s.startIo io result) := by
  cases result with
  | none => exact .move action (.waiting io) before rfl fun _ => hrank
  | some result => exact steps_of_finishIo io result before hrank.le

theorem steps_of_serverStep (h : serverStep s action = some t) : Steps s action t := by
  cases action with
  | head =>
      simp only [serverStep] at h
      split at h
      · rename_i server
        obtain rfl := Option.some.inj h
        refine .move _ _ (by rw [server]; rfl) (by split_ifs <;> rfl) fun stop => ?_
        rw [if_pos stop, server]
        decide
      · cases h
  | createPipe created =>
      simp only [serverStep] at h
      split at h
      · rename_i server
        obtain rfl := Option.some.inj h
        refine .move _ _ (by rw [server]; rfl) (by split_ifs <;> rfl) fun _ => ?_
        rw [server]
        cases created <;> decide
      · cases h
  | backOff =>
      simp only [serverStep] at h
      split at h
      · rename_i server
        obtain rfl := Option.some.inj h
        exact .move _ _ (by rw [server]; rfl) rfl fun _ => by rw [server]; decide
      · cases h
  | startIo result =>
      simp only [serverStep] at h
      split at h
      · split at h
        · rename_i server
          obtain rfl := Option.some.inj h
          exact steps_of_startIo .connect result (by rw [server]; rfl) (by rw [server]; decide)
        · rename_i server
          obtain rfl := Option.some.inj h
          exact steps_of_startIo .read result (by rw [server]; rfl) (by rw [server]; decide)
        · rename_i id reply server
          obtain rfl := Option.some.inj h
          rcases result with _ | _ | bytes
          · exact .tell none id reply _ server (.inl rfl)
          · exact .tell (some .failed) id reply _ server (.inr rfl)
          · exact .tell (some (.done bytes)) id reply _ server (.inr rfl)
        · cases h
      · cases h
  | ioDone result =>
      simp only [serverStep] at h
      split at h
      · split at h
        · rename_i io server
          obtain rfl := Option.some.inj h
          exact steps_of_finishIo io result (by rw [server]; rfl) (by rw [server])
        · cases h
      · cases h
  | ioStopped =>
      simp only [serverStep] at h
      split at h
      · rename_i io server
        obtain ⟨-, hsome⟩ := Option.ite_none_right_eq_some.mp h
        obtain rfl := Option.some.inj hsome
        exact .move _ _ (by rw [server]; rfl) rfl fun _ => by rw [server]; cases io <;> decide
      · cases h
  | ioFailed =>
      simp only [serverStep] at h
      split at h
      · rename_i io server
        obtain rfl := Option.some.inj h
        exact .move _ _ (by rw [server]; rfl) rfl fun _ => by rw [server]; cases io <;> decide
      · cases h
  | cancelled =>
      simp only [serverStep] at h
      split at h
      · rename_i server
        obtain rfl := Option.some.inj h
        exact .move _ _ (by rw [server]; rfl) rfl fun _ => by rw [server]; decide
      · cases h
  | checkStop =>
      simp only [serverStep] at h
      split at h
      · rename_i server
        obtain rfl := Option.some.inj h
        refine .move _ _ (by rw [server]; rfl) (by split_ifs <;> rfl) fun stop => ?_
        rw [if_pos stop, server]
        decide
      · cases h
  | createRequest created =>
      simp only [serverStep] at h
      split at h
      · rename_i id server
        obtain rfl := Option.some.inj h
        cases created with
        | false => exact .uncreated id server
        | true => exact .created id server
      · cases h
  | push =>
      simp only [serverStep] at h
      split at h
      · rename_i id server
        split at h
        · rename_i stop
          obtain rfl := Option.some.inj h
          exact .refusePush id server stop
        · rename_i stop
          obtain rfl := Option.some.inj h
          exact .push id server (Bool.eq_false_iff.mpr stop)
      · cases h
  | answered =>
      simp only [serverStep] at h
      split at h
      · rename_i id server
        obtain ⟨done, hsome⟩ := Option.ite_none_right_eq_some.mp h
        obtain rfl := Option.some.inj hsome
        exact .answered id server done
      · cases h
  | unanswered =>
      simp only [serverStep] at h
      split at h
      · rename_i id server
        obtain ⟨guard, hsome⟩ := Option.ite_none_right_eq_some.mp h
        obtain rfl := Option.some.inj hsome
        simp only [Bool.and_eq_true, Bool.not_eq_true'] at guard
        exact .unanswered id server guard.1 guard.2
      · cases h
  | waitFails =>
      simp only [serverStep] at h
      split at h
      · rename_i id server
        obtain rfl := Option.some.inj h
        exact .waitFails id server
      · cases h
  | collect =>
      simp only [serverStep] at h
      split at h
      · rename_i id server
        obtain rfl := Option.some.inj h
        exact .collect id server
      · cases h
  | disconnect =>
      simp only [serverStep] at h
      split at h
      · rename_i server
        obtain rfl := Option.some.inj h
        exact .move _ _ (by rw [server]; rfl) rfl fun _ => by rw [server]; decide
      · cases h
  | wake | leave | take | handle | throw | store | signal | beginStop | signalStop | takeAll
  | refuse | refuseSignal | join => cases h

theorem steps_of_supervisorStep (h : supervisorStep s action = some t) : Steps s action t := by
  cases action with
  | wake =>
      simp only [supervisorStep] at h
      split at h
      · rename_i supervisor
        obtain ⟨event, hsome⟩ := Option.ite_none_right_eq_some.mp h
        obtain rfl := Option.some.inj hsome
        exact .wake supervisor event
      · cases h
  | leave =>
      simp only [supervisorStep] at h
      split at h
      · rename_i supervisor
        obtain rfl := Option.some.inj h
        exact .leave supervisor
      · cases h
  | take =>
      simp only [supervisorStep] at h
      split at h
      · rename_i supervisor queue
        obtain rfl := Option.some.inj h
        exact .sleep supervisor queue
      · rename_i id rest supervisor queue
        obtain rfl := Option.some.inj h
        exact .take id rest supervisor queue
      · cases h
  | handle reply =>
      simp only [supervisorStep] at h
      split at h
      · rename_i id supervisor
        split at h
        · rename_i empty
          obtain rfl := Option.some.inj h
          exact .handleEmpty id reply supervisor empty
        · rename_i some
          obtain rfl := Option.some.inj h
          exact .handle id reply supervisor some
      · cases h
  | throw =>
      simp only [supervisorStep] at h
      split at h
      · rename_i id supervisor
        obtain ⟨-, hsome⟩ := Option.ite_none_left_eq_some.mp h
        obtain rfl := Option.some.inj hsome
        exact .throw id supervisor
      · cases h
  | store =>
      simp only [supervisorStep] at h
      split at h
      · rename_i id reply supervisor
        obtain rfl := Option.some.inj h
        exact .store id reply supervisor
      · cases h
  | signal =>
      simp only [supervisorStep] at h
      split at h
      · rename_i id supervisor
        obtain rfl := Option.some.inj h
        exact .signal id supervisor
      · cases h
  | beginStop =>
      simp only [supervisorStep] at h
      split at h
      · rename_i supervisor
        obtain rfl := Option.some.inj h
        exact .beginStop supervisor
      · cases h
  | signalStop =>
      simp only [supervisorStep] at h
      split at h
      · rename_i supervisor
        obtain rfl := Option.some.inj h
        exact .signalStop supervisor
      · cases h
  | takeAll =>
      simp only [supervisorStep] at h
      split at h
      · rename_i supervisor
        obtain rfl := Option.some.inj h
        exact .takeAll supervisor
      · cases h
  | refuse =>
      simp only [supervisorStep] at h
      split at h
      · rename_i supervisor
        obtain rfl := Option.some.inj h
        exact .refusedAll supervisor
      · rename_i id ids supervisor
        obtain rfl := Option.some.inj h
        exact .refuse id ids supervisor
      · cases h
  | refuseSignal =>
      simp only [supervisorStep] at h
      split at h
      · rename_i id ids supervisor
        obtain rfl := Option.some.inj h
        exact .refuseSignal id ids supervisor
      · cases h
  | join =>
      simp only [supervisorStep] at h
      split at h
      · rename_i supervisor server
        obtain rfl := Option.some.inj h
        exact .join supervisor server
      · cases h
  | head | createPipe | backOff | startIo | ioDone | ioStopped | ioFailed | cancelled | checkStop
  | createRequest | push | answered | unanswered | waitFails | collect | disconnect => cases h

theorem steps_of_step (h : step s action = some t) : Steps s action t :=
  (Option.or_eq_some_iff.mp h).elim steps_of_serverStep fun h => steps_of_supervisorStep h.2

end Inversion

end VirtualDualSense.Win32.ControlPipe
