import VirtualDualSense.Win32.ControlPipe

/-!
# Commands and stops of the control pipe

Every command is handled at most once, in the order in which the clients sent them, and each
client is told what the handler said to its own command, unless the daemon stops or a call of
the system fails. A supervisor that sleeps is woken by a queued command. After a request to
stop both sides end, whatever the client does.
-/

namespace VirtualDualSense.Win32.ControlPipe

open Lib.Runs
open Config.Vdsctl (trimCommand)

section Stops

variable {s t : Pipe} {action : Action}

/-- How far the supervisor is with its stop. -/
def Supervisor.phase : Supervisor → Nat
  | .waiting | .servicing | .handling _ | .storing _ _ | .signalling _ => 0
  | .stopping => 1
  | .signallingStop => 2
  | .taking => 3
  | .refusing _ | .refused _ _ | .joining | .finished => 4

/-- What the flags and events say. -/
structure Flags (s : Pipe) : Prop where
  requested : s.stopRequested = decide (2 ≤ s.supervisor.phase)
  signalled : s.stopEvent = decide (3 ≤ s.supervisor.phase)
  emptied : 4 ≤ s.supervisor.phase → s.queue = []
  event : s.queue ≠ [] → s.commandEvent = true
  ended : s.supervisor = .finished → s.server = .ended

theorem Flags.init : Flags init where
  requested := rfl
  signalled := rfl
  emptied := fun _ => rfl
  event := fun h => absurd rfl h
  ended := fun h => Supervisor.noConfusion h

theorem Flags.phase_of_requested (h : Flags s) (hstop : s.stopRequested = true) :
    2 ≤ s.supervisor.phase :=
  of_decide_eq_true (h.requested.symm.trans hstop)

theorem Flags.phase_of_running (h : Flags s) (hrunning : s.stopRequested = false) :
    s.supervisor.phase < 2 :=
  Nat.lt_of_not_le (of_decide_eq_false (h.requested.symm.trans hrunning))

/-- A server that is not at its end goes on. -/
theorem Flags.serve (h : Flags s) (hserver : s.server ≠ .ended)
    (hsupervisor : t.supervisor = s.supervisor) (hrequested : t.stopRequested = s.stopRequested)
    (hsignalled : t.stopEvent = s.stopEvent) (hqueue : t.queue = s.queue)
    (hevent : t.commandEvent = s.commandEvent) : Flags t := by
  refine ⟨?_, ?_, ?_, ?_, fun hfinished => ?_⟩
  · rw [hrequested, hsupervisor]
    exact h.requested
  · rw [hsignalled, hsupervisor]
    exact h.signalled
  · rw [hsupervisor, hqueue]
    exact h.emptied
  · rw [hqueue, hevent]
    exact h.event
  · exact absurd (h.ended (hsupervisor ▸ hfinished)) hserver

/-- A supervisor goes on inside a phase. -/
theorem Flags.supervise (h : Flags s) (hphase : t.supervisor.phase = s.supervisor.phase)
    (hnext : t.supervisor ≠ .finished) (hrequested : t.stopRequested = s.stopRequested)
    (hsignalled : t.stopEvent = s.stopEvent) (hqueue : t.queue = s.queue)
    (hevent : t.commandEvent = s.commandEvent) : Flags t := by
  refine ⟨?_, ?_, ?_, ?_, fun hfinished => absurd hfinished hnext⟩
  · rw [hrequested, hphase]
    exact h.requested
  · rw [hsignalled, hphase]
    exact h.signalled
  · rw [hphase, hqueue]
    exact h.emptied
  · rw [hqueue, hevent]
    exact h.event

theorem ne_ended_of_id {id : Nat} (h : s.server.id = some id) : s.server ≠ .ended := by
  intro hended
  rw [hended] at h
  cases h

theorem Flags.step (h : Flags s) (hstep : Steps s action t) : Flags t := by
  cases hstep with
  | move _ next before after lower =>
      refine ⟨h.requested, h.signalled, h.emptied, h.event, fun hfinished => ?_⟩
      -- a server that has ended makes no step
      have hended := h.ended hfinished
      have hstop : s.stopRequested = true := by
        rw [h.requested, hfinished]
        rfl
      have hlower := lower hstop
      rw [hended] at hlower
      exact absurd hlower (Nat.not_lt_zero _)
  | receive _ first rest before lower =>
      refine ⟨h.requested, h.signalled, h.emptied, h.event, fun hfinished => ?_⟩
      rw [h.ended hfinished] at lower
      exact absurd lower (Nat.not_lt_zero _)
  | created id server | uncreated id server | refusePush id server | answered id server
  | unanswered id server | waitFails id server | collect id server | tell _ id _ _ server =>
      exact h.serve (ne_ended_of_id (by rw [server]; rfl)) rfl rfl rfl rfl rfl
  | push id server running =>
      have hphase := h.phase_of_running running
      refine ⟨h.requested, h.signalled, fun hempty => ?_, fun _ => rfl, fun hfinished => ?_⟩
      · exact absurd hempty (by dsimp only; omega)
      · rw [h.ended hfinished] at server
        cases server
  | wake supervisor | handleEmpty _ _ supervisor | handle _ _ supervisor | store _ _ supervisor
  | signal _ supervisor | refusedAll supervisor | refuse _ _ supervisor
  | refuseSignal _ _ supervisor =>
      exact h.supervise (by rw [supervisor]; rfl) Supervisor.noConfusion rfl rfl rfl rfl
  | leave supervisor =>
      refine ⟨?_, ?_, fun hempty => ?_, h.event, fun hfinished => Supervisor.noConfusion hfinished⟩
      · exact h.requested.trans (by rw [supervisor]; rfl)
      · exact h.signalled.trans (by rw [supervisor]; rfl)
      · exact absurd hempty (by simp [Supervisor.phase])
  | sleep supervisor queue =>
      refine ⟨?_, ?_, fun hempty => ?_, fun hsome => absurd queue hsome,
        fun hfinished => Supervisor.noConfusion hfinished⟩
      · exact h.requested.trans (by rw [supervisor]; rfl)
      · exact h.signalled.trans (by rw [supervisor]; rfl)
      · exact absurd hempty (by simp [Supervisor.phase])
  | take id rest supervisor queue =>
      refine ⟨?_, ?_, fun hempty => ?_, fun _ => ?_,
        fun hfinished => Supervisor.noConfusion hfinished⟩
      · exact h.requested.trans (by rw [supervisor]; rfl)
      · exact h.signalled.trans (by rw [supervisor]; rfl)
      · exact absurd hempty (by simp [Supervisor.phase])
      · exact h.event (by rw [queue]; exact List.cons_ne_nil _ _)
  | throw id supervisor =>
      refine ⟨?_, ?_, fun hempty => ?_, h.event, fun hfinished => Supervisor.noConfusion hfinished⟩
      · exact h.requested.trans (by rw [supervisor]; rfl)
      · exact h.signalled.trans (by rw [supervisor]; rfl)
      · exact absurd hempty (by simp [Supervisor.phase])
  | beginStop supervisor =>
      refine ⟨rfl, ?_, fun hempty => ?_, h.event, fun hfinished => Supervisor.noConfusion hfinished⟩
      · exact h.signalled.trans (by rw [supervisor]; rfl)
      · exact absurd hempty (by simp [Supervisor.phase])
  | signalStop supervisor =>
      refine ⟨?_, rfl, fun hempty => ?_, h.event, fun hfinished => Supervisor.noConfusion hfinished⟩
      · exact h.requested.trans (by rw [supervisor]; rfl)
      · exact absurd hempty (by simp [Supervisor.phase])
  | takeAll supervisor =>
      refine ⟨?_, ?_, fun _ => rfl, fun hsome => absurd rfl hsome,
        fun hfinished => Supervisor.noConfusion hfinished⟩
      · exact h.requested.trans (by rw [supervisor]; rfl)
      · exact h.signalled.trans (by rw [supervisor]; rfl)
  | join supervisor server =>
      refine ⟨?_, ?_, fun _ => ?_, h.event, fun _ => server⟩
      · exact h.requested.trans (by rw [supervisor]; rfl)
      · exact h.signalled.trans (by rw [supervisor]; rfl)
      · exact h.emptied (by rw [supervisor]; decide)

end Stops

section Orders

variable {s t : Pipe} {action : Action}

/-- The requests that the supervisor has in its hand and has not handled. -/
def Supervisor.held : Supervisor → List Nat
  | .handling id => [id]
  | .refusing ids => ids
  | .refused id ids => id :: ids
  | _ => []

/-- The request that is not queued yet. -/
def Server.submitting : Server → List Nat
  | .queueing id | .pushing id => [id]
  | _ => []

/-- The requests in the order of their way, from the handled ones to the new one. -/
def Pipe.line (s : Pipe) : List Nat :=
  s.handled.map Handled.id ++ s.supervisor.held ++ s.queue ++ s.server.submitting

/-- The commands of the clients, up to the present one. -/
def Pipe.clients (s : Pipe) : List Nat := s.told.map Prod.fst ++ s.server.id.toList

/-- Commands stay in the order in which they were read. -/
structure Order (s : Pipe) : Prop where
  line : s.line.Pairwise (· < ·)
  line_lt : ∀ id ∈ s.line, id < s.commands.length
  clients : s.clients.Pairwise (· < ·)
  clients_lt : ∀ id ∈ s.clients, id < s.commands.length

theorem Order.init : Order init :=
  ⟨.nil, fun _ h => absurd h List.not_mem_nil, .nil, fun _ h => absurd h List.not_mem_nil⟩

theorem Order.of_sublist (h : Order s) (hline : t.line.Sublist s.line)
    (hclients : t.clients.Sublist s.clients) (hcommands : t.commands = s.commands) : Order t :=
  ⟨h.line.sublist hline, fun id hid => hcommands ▸ h.line_lt id (hline.subset hid),
    h.clients.sublist hclients, fun id hid => hcommands ▸ h.clients_lt id (hclients.subset hid)⟩

theorem submitting_of_id (h : s.server.id = none) : s.server.submitting = [] := by
  cases hserver : s.server <;> rw [hserver] at h <;> first | rfl | cases h

/-- A server goes on without a new command. -/
theorem Order.serve (h : Order s) (hsubmitting : t.server.submitting.Sublist s.server.submitting)
    (hid : t.server.id.toList.Sublist s.server.id.toList) (hhandled : t.handled = s.handled)
    (hsupervisor : t.supervisor = s.supervisor) (hqueue : t.queue = s.queue)
    (htold : t.told = s.told) (hcommands : t.commands = s.commands) : Order t := by
  refine h.of_sublist ?_ ?_ hcommands
  · rw [Pipe.line, hhandled, hsupervisor, hqueue]
    exact (List.Sublist.refl _).append hsubmitting
  · rw [Pipe.clients, htold]
    exact (List.Sublist.refl _).append hid

theorem Order.supervise (h : Order s) (hheld : t.supervisor.held.Sublist s.supervisor.held)
    (hhandled : t.handled = s.handled) (hqueue : t.queue = s.queue)
    (hserver : t.server = s.server) (htold : t.told = s.told)
    (hcommands : t.commands = s.commands) : Order t := by
  refine h.of_sublist ?_ ?_ hcommands
  · rw [Pipe.line, hhandled, hqueue, hserver]
    exact (((List.Sublist.refl _).append hheld).append (.refl _)).append (.refl _)
  · rw [Pipe.clients, htold, hserver]
    exact .refl _

/-- A greater number may follow. -/
theorem pairwise_concat {ids : List Nat} {id : Nat} (h : ids.Pairwise (· < ·))
    (hlt : ∀ other ∈ ids, other < id) : (ids ++ [id]).Pairwise (· < ·) :=
  List.pairwise_append.mpr ⟨h, List.pairwise_singleton _ _, fun other hother _ hlast =>
    List.mem_singleton.mp hlast ▸ hlt other hother⟩

theorem Order.receive (h : Order s) (before : s.server.id = none) (command : List UInt8) :
    Order (s.receive command) := by
  have hline : (s.receive command).line = s.line ++ [s.commands.length] := by
    rw [Pipe.line, Pipe.line, submitting_of_id before, List.append_nil]
    rfl
  have hclients : (s.receive command).clients = s.clients ++ [s.commands.length] := by
    rw [Pipe.clients, Pipe.clients, before, Option.toList_none, List.append_nil]
    rfl
  have hlength : (s.receive command).commands.length = s.commands.length + 1 :=
    List.length_append
  have hlt (ids : List Nat) (hids : ∀ id ∈ ids, id < s.commands.length) :
      ∀ id ∈ ids ++ [s.commands.length], id < (s.receive command).commands.length := by
    intro id hid
    rw [hlength]
    rcases List.mem_append.mp hid with hid | hid
    · exact (hids id hid).trans (Nat.lt_succ_self _)
    · rw [List.mem_singleton.mp hid]
      exact Nat.lt_succ_self _
  refine ⟨?_, ?_, ?_, ?_⟩
  · rw [hline]
    exact pairwise_concat h.line h.line_lt
  · rw [hline]
    exact hlt _ h.line_lt
  · rw [hclients]
    exact pairwise_concat h.clients h.clients_lt
  · rw [hclients]
    exact hlt _ h.clients_lt

theorem Order.step (h : Order s) (hstep : Steps s action t) : Order t := by
  cases hstep with
  | move _ next before after lower =>
      refine h.serve ?_ ?_ rfl rfl rfl rfl rfl
      · rw [submitting_of_id (s := { s with server := next }) after]
        exact List.nil_sublist _
      · rw [after]
        exact List.nil_sublist _
  | receive _ first rest before lower => exact h.receive before _
  | created id server =>
      exact h.serve (by rw [server]; exact .refl _) (by rw [server]; exact .refl _)
        rfl rfl rfl rfl rfl
  | uncreated id server | refusePush id server | answered id server | unanswered id server
  | waitFails id server | collect id server =>
      exact h.serve (List.nil_sublist _) (by rw [server]; exact .refl _) rfl rfl rfl rfl rfl
  | push id server running =>
      refine h.of_sublist ?_ ?_ rfl
      · simp only [Pipe.line, server, Server.submitting, List.append_nil, List.append_assoc]
        exact .refl _
      · simp only [Pipe.clients, server]
        exact .refl _
  | tell result id reply next server after =>
      have hnext : next.id = none ∧ next.submitting = [] := by
        rcases after with rfl | rfl <;> exact ⟨rfl, rfl⟩
      refine h.of_sublist ?_ ?_ rfl
      · simp only [Pipe.line, hnext.2]
        exact (List.Sublist.refl _).append (List.nil_sublist _)
      · simp only [Pipe.clients, hnext.1, server, List.map_append, Option.toList_none,
          List.append_nil]
        exact .refl _
  | take id rest supervisor queue =>
      refine h.of_sublist ?_ (.refl _) rfl
      simp only [Pipe.line, supervisor, queue, Supervisor.held, List.append_nil, List.append_assoc]
      exact .refl _
  | handle id reply supervisor some =>
      refine h.of_sublist ?_ (.refl _) rfl
      simp only [Pipe.line, supervisor, Supervisor.held, List.append_nil, List.map_append,
        List.append_assoc]
      exact .refl _
  | takeAll supervisor =>
      refine h.of_sublist ?_ (.refl _) rfl
      simp only [Pipe.line, supervisor, Supervisor.held, List.append_nil]
      exact .refl _
  | refuse id ids supervisor =>
      exact h.supervise (by rw [supervisor]; exact .refl _) rfl rfl rfl rfl rfl
  | refuseSignal id ids supervisor =>
      exact h.supervise (by rw [supervisor]; exact List.sublist_cons_self _ _) rfl rfl rfl rfl rfl
  | wake | leave | sleep | handleEmpty | throw | store | signal | beginStop | signalStop
  | refusedAll | join => exact h.supervise (List.nil_sublist _) rfl rfl rfl rfl rfl

end Orders

section Answers

variable {s t : Pipe} {action : Action} {id : Nat} {reply : List UInt8}

/-- The handler gave this reply to the request. -/
def Pipe.Gave (s : Pipe) (id : Nat) (reply : List UInt8) : Prop :=
  ∃ call ∈ s.handled, call.id = id ∧ call.reply = reply

def Pipe.calls (s : Pipe) : List Nat := s.handled.map Handled.id

/-- A client is told what the handler gave, or else an error, and then the handler has not had
the command and will not have it, unless a wait failed. -/
def Pipe.Fair (s : Pipe) (id : Nat) (reply : List UInt8) : Prop :=
  s.Gave id reply ∨
    (reply = unqueuedReply ∨
      reply = stoppingReply ∧ (s.stopRequested = true ∨ s.waitFailed = true)) ∧
    (s.waitFailed = true ∨ id ∉ s.calls ∧ (s.stopRequested = true ∨ id ∉ s.line))

/-- What the supervisor is about to answer. -/
def Pipe.Handing (s : Pipe) : Supervisor → Prop
  | .storing id reply => s.Gave id reply
  | .signalling id => s.Gave id (s.requests id).reply
  | .refused id _ => (s.requests id).reply = stoppingReply
  | _ => True

/-- The supervisor has called the handler and not answered yet. -/
def Supervisor.answering : Supervisor → Option Nat
  | .storing id _ | .signalling id => some id
  | _ => none

theorem Supervisor.phase_of_answering {supervisor : Supervisor}
    (h : supervisor.answering = some id) : supervisor.phase = 0 := by
  cases supervisor with
  | storing | signalling => rfl
  | _ => cases h

structure Answers (s : Pipe) : Prop where
  commands : ∀ id command, s.commands[id]? = some command →
    (s.requests id).command = command ∧ command ≠ []
  calls : ∀ call ∈ s.handled, ∃ command, s.commands[call.id]? = some command ∧
    call.command = trimCommand command
  settled : ∀ id, (s.requests id).doneEvent = true → s.Gave id (s.requests id).reply ∨
    (s.requests id).reply = stoppingReply ∧ s.stopRequested = true ∧ id ∉ s.calls
  handing : s.Handing s.supervisor
  carried : ∀ call ∈ s.handled,
    (s.requests call.id).doneEvent = true ∨ s.supervisor.answering = some call.id
  fair : ∀ id reply, s.server = .replying id reply ∨ (id, reply) ∈ s.told → s.Fair id reply
  collecting : ∀ id, s.server = .collecting id → (s.requests id).doneEvent = true

theorem mem_line_of_call (h : id ∈ s.calls) : id ∈ s.line :=
  List.mem_append_left _ (List.mem_append_left _ (List.mem_append_left _ h))

theorem mem_line_of_held (h : id ∈ s.supervisor.held) : id ∈ s.line :=
  List.mem_append_left _ (List.mem_append_left _ (List.mem_append_right _ h))

/-- What the supervisor holds was not handled. -/
theorem Order.not_called (order : Order s) (h : id ∈ s.supervisor.held) : id ∉ s.calls := by
  intro hcall
  have hfront := (List.pairwise_append.mp (List.pairwise_append.mp
    (List.pairwise_append.mp order.line).1).1).2.2
  exact Nat.lt_irrefl _ (hfront id hcall id h)

theorem Order.not_called_of_submitting (order : Order s) (h : id ∈ s.server.submitting) :
    id ∉ s.calls := by
  intro hcall
  have hfront := (List.pairwise_append.mp order.line).2.2
  exact Nat.lt_irrefl _ (hfront id (List.mem_append_left _ (List.mem_append_left _ hcall)) id h)

/-- A reply stays fair while nothing is handled. -/
theorem Pipe.Fair.mono (h : s.Fair id reply) (hhandled : t.handled = s.handled)
    (hline : t.line.Sublist s.line) (hstop : s.stopRequested = true → t.stopRequested = true)
    (hfailed : s.waitFailed = true → t.waitFailed = true) : t.Fair id reply := by
  have hcalls : t.calls = s.calls := congrArg (List.map Handled.id) hhandled
  rcases h with ⟨call, hcall, hsame⟩ | ⟨herror, hnever⟩
  · exact .inl ⟨call, hhandled ▸ hcall, hsame⟩
  · refine .inr ⟨?_, ?_⟩
    · exact herror.imp_right fun ⟨hreply, hwhy⟩ => ⟨hreply, hwhy.imp hstop hfailed⟩
    · refine hnever.imp hfailed fun ⟨hnot, hleft⟩ => ⟨hcalls ▸ hnot, hleft.imp hstop ?_⟩
      exact fun hline' hmem => hline' (hline.subset hmem)

/-- The new command is behind the others. -/
theorem Order.not_front (order : Order s) (h : id ∈ s.server.submitting) :
    id ∉ s.handled.map Handled.id ++ s.supervisor.held ++ s.queue := fun hfront =>
  Nat.lt_irrefl _ ((List.pairwise_append.mp order.line).2.2 id hfront id h)

theorem Pipe.Gave.mem_calls (h : s.Gave id reply) : id ∈ s.calls := by
  obtain ⟨call, hcall, rfl, -⟩ := h
  exact List.mem_map_of_mem hcall

theorem Answers.init : Answers init where
  commands := fun _ _ h => by cases h
  calls := fun _ h => absurd h List.not_mem_nil
  settled := fun _ h => absurd h Bool.false_ne_true
  handing := trivial
  carried := fun _ h => absurd h List.not_mem_nil
  fair := fun _ _ h => h.elim Server.noConfusion fun h => absurd h List.not_mem_nil
  collecting := fun _ h => Server.noConfusion h

/-- A step that leaves the requests alone and handles nothing. -/
theorem Answers.keep (h : Answers s) (hrequests : t.requests = s.requests)
    (hhandled : t.handled = s.handled) (hcommands : t.commands = s.commands)
    (hline : t.line.Sublist s.line) (hstop : s.stopRequested = true → t.stopRequested = true)
    (hfailed : s.waitFailed = true → t.waitFailed = true) (hhanding : t.Handing t.supervisor)
    (hanswering : t.supervisor.answering = s.supervisor.answering)
    (hfair : ∀ id reply, t.server = .replying id reply ∨ (id, reply) ∈ t.told →
      (s.server = .replying id reply ∨ (id, reply) ∈ s.told) ∨ t.Fair id reply)
    (hcollecting : ∀ id, t.server = .collecting id → (s.requests id).doneEvent = true) :
    Answers t := by
  have hcalls : t.calls = s.calls := congrArg (List.map Handled.id) hhandled
  have hgave (id : Nat) (reply : List UInt8) (hgave : s.Gave id reply) : t.Gave id reply := by
    rwa [Pipe.Gave, hhandled]
  refine ⟨?_, ?_, fun id hdone => ?_, hhanding, ?_, fun id reply hreply => ?_, ?_⟩
  · rw [hcommands, hrequests]
    exact h.commands
  · rw [hhandled, hcommands]
    exact h.calls
  · rw [hrequests] at hdone ⊢
    refine (h.settled id hdone).imp (hgave id _) fun ⟨hreply, hwhy, hnot⟩ => ?_
    exact ⟨hreply, hstop hwhy, hcalls ▸ hnot⟩
  · rw [hhandled, hrequests, hanswering]
    exact h.carried
  · rcases hfair id reply hreply with hold | hnew
    · exact (h.fair id reply hold).mono hhandled hline hstop hfailed
    · exact hnew
  · rw [hrequests]
    exact hcollecting

/-- The server goes on without a reply. -/
theorem Answers.serve (h : Answers s) {next : Server}
    (hserver : next.submitting.Sublist s.server.submitting)
    (hreply : ∀ id reply, next = .replying id reply → Pipe.Fair { s with server := next } id reply)
    (hcollecting : ∀ id, next = .collecting id → (s.requests id).doneEvent = true) :
    Answers { s with server := next } := by
  have hhanding : Pipe.Handing { s with server := next } s.supervisor := by
    have hold := h.handing
    cases hsupervisor : s.supervisor <;> rw [hsupervisor] at hold <;> exact hold
  refine h.keep rfl rfl rfl ?_ (fun hstop => hstop) (fun hfailed => hfailed) hhanding rfl ?_
    hcollecting
  · exact (List.Sublist.refl _).append hserver
  · exact fun id reply hany => hany.elim (fun hnext => .inr (hreply id reply hnext))
      fun htold => .inl (.inr htold)

/-- The supervisor goes on and handles nothing. -/
theorem Answers.supervise (h : Answers s) {next : Supervisor}
    (hheld : next.held.Sublist s.supervisor.held)
    (hhanding : Pipe.Handing { s with supervisor := next } next)
    (hanswering : next.answering = s.supervisor.answering) :
    Answers { s with supervisor := next } := by
  refine h.keep rfl rfl rfl ?_ (fun hstop => hstop) (fun hfailed => hfailed) hhanding hanswering
    (fun _ _ => .inl) h.collecting
  exact (((List.Sublist.refl _).append hheld).append (.refl _)).append (.refl _)

/-- A reply that only the requests' own state concerns stays fair. -/
theorem Answers.fair_of_line (h : Answers s) (hhandled : t.handled = s.handled)
    (hserver : t.server = s.server) (htold : t.told = s.told) (hline : t.line.Sublist s.line)
    (hstop : t.stopRequested = s.stopRequested) (hfailed : t.waitFailed = s.waitFailed) :
    ∀ id reply, t.server = .replying id reply ∨ (id, reply) ∈ t.told → t.Fair id reply := by
  intro id reply hreply
  rw [hserver, htold] at hreply
  exact (h.fair id reply hreply).mono hhandled hline (fun h => hstop ▸ h) fun h => hfailed ▸ h

/-- The supervisor writes a reply or sets an event of a request. -/
theorem Answers.setRequest (h : Answers s) {id : Nat} {request : ControlRequest}
    {next : Supervisor} (hcommand : request.command = (s.requests id).command)
    (hheld : next.held.Sublist s.supervisor.held)
    (hdone : (s.requests id).doneEvent = true → request.doneEvent = true)
    (hsettled : request.doneEvent = true → s.Gave id request.reply ∨
      request.reply = stoppingReply ∧ s.stopRequested = true ∧ id ∉ s.calls)
    (hhanding : Pipe.Handing { s.setRequest id request with supervisor := next } next)
    (hcarried : ∀ call ∈ s.handled, s.supervisor.answering = some call.id →
      next.answering = some call.id ∨ call.id = id ∧ request.doneEvent = true) :
    Answers { s.setRequest id request with supervisor := next } := by
  have hline : Pipe.line { s.setRequest id request with supervisor := next } |>.Sublist s.line :=
    (((List.Sublist.refl _).append hheld).append (.refl _)).append (.refl _)
  have hevent (other : Nat) (hother : (s.requests other).doneEvent = true) :
      (Function.update s.requests id request other).doneEvent = true := by
    by_cases heq : other = id
    · rw [heq, Function.update_self]
      exact hdone (heq ▸ hother)
    · rwa [Function.update_of_ne heq]
  refine ⟨fun other command hcommands => ?_, h.calls, fun other hother => ?_, hhanding,
    fun call hcall => ?_, h.fair_of_line rfl rfl rfl hline rfl rfl,
    fun other hserver => hevent other (h.collecting other hserver)⟩
  · by_cases heq : other = id
    · subst heq
      refine (h.commands other command hcommands).imp_left fun hsame => ?_
      exact (congrArg ControlRequest.command (Function.update_self ..)).trans
        (hcommand.trans hsame)
    · refine (h.commands other command hcommands).imp_left fun hsame => ?_
      exact (congrArg ControlRequest.command (Function.update_of_ne heq ..)).trans hsame
  · by_cases heq : other = id
    · subst heq
      dsimp only [Pipe.setRequest] at hother ⊢
      rw [Function.update_self] at hother ⊢
      exact hsettled hother
    · dsimp only [Pipe.setRequest] at hother ⊢
      rw [Function.update_of_ne heq] at hother ⊢
      exact h.settled other hother
  · rcases h.carried call hcall with hold | hold
    · exact .inl (hevent call.id hold)
    · rcases hcarried call hcall hold with hnext | ⟨rfl, hnow⟩
      · exact .inr hnext
      · refine .inl ?_
        dsimp only [Pipe.setRequest]
        rwa [Function.update_self]

theorem Answers.receive (h : Answers s) (order : Order s) (before : s.server.id = none)
    (first : UInt8) (rest : List UInt8) : Answers (s.receive (first :: rest)) := by
  have hold (id : Nat) (hlt : id < s.commands.length) :
      (s.receive (first :: rest)).requests id = s.requests id :=
    Function.update_of_ne hlt.ne ..
  have hnew : (s.receive (first :: rest)).requests s.commands.length =
      ⟨first :: rest, [], false⟩ := Function.update_self ..
  have hcall (call : Handled) (hmem : call ∈ s.handled) : call.id < s.commands.length :=
    order.line_lt _ (mem_line_of_call (List.mem_map_of_mem hmem))
  have hline : (s.receive (first :: rest)).line = s.line ++ [s.commands.length] := by
    rw [Pipe.line, Pipe.line, submitting_of_id before, List.append_nil]
    rfl
  refine ⟨fun id command hcommand => ?_, fun call hmem => ?_, fun id hdone => ?_, ?_,
    fun call hmem => ?_, fun id reply hreply => ?_, fun id hserver => Server.noConfusion hserver⟩
  · have hcommand' : (s.commands ++ [first :: rest])[id]? = some command := hcommand
    rcases Nat.lt_or_ge id s.commands.length with hlt | hge
    · rw [List.getElem?_append_left hlt] at hcommand'
      rw [hold id hlt]
      exact h.commands id command hcommand'
    · rw [List.getElem?_append_right hge] at hcommand'
      obtain ⟨hzero, hsame⟩ := List.getElem?_eq_some_iff.mp hcommand'
      have hid : id = s.commands.length := by
        rw [List.length_singleton] at hzero
        omega
      rw [List.getElem_singleton] at hsame
      rw [hid, hnew, ← hsame]
      exact ⟨rfl, List.cons_ne_nil _ _⟩
  · obtain ⟨command, hcommand, hsame⟩ := h.calls call hmem
    exact ⟨command, (List.getElem?_append_left (hcall call hmem)).trans hcommand, hsame⟩
  · by_cases heq : id = s.commands.length
    · rw [heq, hnew] at hdone
      cases hdone
    · have hsame : (s.receive (first :: rest)).requests id = s.requests id :=
        Function.update_of_ne heq ..
      rw [hsame] at hdone ⊢
      exact h.settled id hdone
  · have hhanding := h.handing
    dsimp only [Pipe.receive, Pipe.setRequest]
    cases hsupervisor : s.supervisor with
    | signalling id =>
        rw [hsupervisor] at hhanding
        have hlt := order.line_lt id (mem_line_of_call hhanding.mem_calls)
        obtain ⟨call, hmem, hid, hreply⟩ := hhanding
        exact ⟨call, hmem, hid, hreply.trans (congrArg ControlRequest.reply (hold id hlt)).symm⟩
    | refused id ids =>
        rw [hsupervisor] at hhanding
        have hlt := order.line_lt id
          (mem_line_of_held (by rw [hsupervisor]; exact List.mem_cons_self))
        exact (congrArg ControlRequest.reply (hold id hlt)).trans hhanding
    | storing id reply => rwa [hsupervisor] at hhanding
    | _ => trivial
  · rw [hold call.id (hcall call hmem)]
    exact h.carried call hmem
  · have htold := hreply.resolve_left fun hserver => Server.noConfusion hserver
    have hlt := order.clients_lt id (List.mem_append_left _ (List.mem_map_of_mem htold))
    refine (h.fair id reply (.inr htold)).imp_right fun ⟨herror, hnever⟩ => ⟨herror, ?_⟩
    refine hnever.imp_right fun ⟨hnot, hleft⟩ => ⟨hnot, hleft.imp_right fun hout hmem => ?_⟩
    rw [hline] at hmem
    rcases List.mem_append.mp hmem with hmem | hmem
    · exact hout hmem
    · exact hlt.ne (List.mem_singleton.mp hmem)

theorem Answers.handle (h : Answers s) (order : Order s) (flags : Flags s) (reply : List UInt8)
    (supervisor : s.supervisor = .handling id) :
    Answers { s with
      supervisor := .storing id reply
      handled := s.handled ++ [⟨id, trimCommand (s.requests id).command, reply⟩] } := by
  have hheld : id ∈ s.supervisor.held := by
    rw [supervisor]
    exact List.mem_cons_self
  have hlt := order.line_lt id (mem_line_of_held hheld)
  have hrunning : ¬s.stopRequested = true := fun hstop => by
    have hphase := flags.phase_of_requested hstop
    rw [supervisor] at hphase
    exact absurd hphase (by simp [Supervisor.phase])
  have hgave {other : Nat} {answer : List UInt8} (hgave : s.Gave other answer) :
      Pipe.Gave { s with
        supervisor := .storing id reply
        handled := s.handled ++ [⟨id, trimCommand (s.requests id).command, reply⟩] } other answer :=
    hgave.imp fun call ⟨hmem, hsame⟩ => ⟨List.mem_append_left _ hmem, hsame⟩
  have hnewCall := List.mem_append_right s.handled
    (List.mem_singleton_self (⟨id, trimCommand (s.requests id).command, reply⟩ : Handled))
  refine ⟨h.commands, fun call hmem => ?_, fun other hdone => ?_, ⟨_, hnewCall, rfl, rfl⟩,
    fun call hmem => ?_, fun other answer hreply => ?_, h.collecting⟩
  · rcases List.mem_append.mp hmem with hmem | hmem
    · exact h.calls call hmem
    · obtain rfl := List.mem_singleton.mp hmem
      have hcommand := List.getElem?_eq_getElem hlt
      exact ⟨_, hcommand, congrArg trimCommand (h.commands id _ hcommand).1⟩
  · rcases h.settled other hdone with hold | ⟨-, hstop, -⟩
    · exact .inl (hgave hold)
    · exact absurd hstop hrunning
  · rcases List.mem_append.mp hmem with hmem | hmem
    · refine .inl ((h.carried call hmem).resolve_right ?_)
      rw [supervisor]
      exact (Option.some_ne_none _).symm
    · obtain rfl := List.mem_singleton.mp hmem
      exact .inr rfl
  · rcases h.fair other answer hreply with hold | ⟨herror, hnever⟩
    · exact .inl (hgave hold)
    · refine .inr ⟨herror, hnever.imp_right fun ⟨hnot, hleft⟩ => ?_⟩
      have hout := hleft.resolve_left hrunning
      have hne : other ≠ id := by
        rintro rfl
        exact hout (mem_line_of_held hheld)
      refine ⟨fun hcall => ?_, .inr fun hmem => hout ?_⟩
      · rw [Pipe.calls, List.map_append] at hcall
        rcases List.mem_append.mp hcall with hcall | hcall
        · exact hnot hcall
        · exact hne (List.mem_singleton.mp hcall)
      · simp only [Pipe.line, supervisor, Supervisor.held, List.append_nil, List.map_append,
          List.append_assoc] at hmem ⊢
        exact hmem

theorem Answers.step (h : Answers s) (order : Order s) (flags : Flags s)
    (hstep : Steps s action t) : Answers t := by
  cases hstep with
  | move _ next before after lower =>
      refine h.serve ?_ (fun id reply hnext => ?_) fun id hnext => ?_
      · rw [submitting_of_id (s := { s with server := next }) after]
        exact List.nil_sublist _
      · rw [hnext] at after
        cases after
      · rw [hnext] at after
        cases after
  | receive _ first rest before lower => exact h.receive order before first rest
  | created id server =>
      exact h.serve (by rw [server]; exact .refl _) (fun _ _ => Server.noConfusion)
        fun _ => Server.noConfusion
  | uncreated id server =>
      have hnew : id ∈ s.server.submitting := by
        rw [server]
        exact List.mem_cons_self
      refine h.serve (List.nil_sublist _) ?_ fun _ => Server.noConfusion
      rintro _ _ ⟨⟩
      refine .inr ⟨.inl rfl, .inr ⟨order.not_called_of_submitting hnew, .inr fun hmem => ?_⟩⟩
      rw [Pipe.line] at hmem
      exact order.not_front hnew ((List.mem_append.mp hmem).resolve_right List.not_mem_nil)
  | refusePush id server stop =>
      have hnew : id ∈ s.server.submitting := by
        rw [server]
        exact List.mem_cons_self
      refine h.serve (List.nil_sublist _) ?_ fun _ => Server.noConfusion
      rintro _ _ ⟨⟩
      exact .inr ⟨.inr ⟨rfl, .inl stop⟩, .inr ⟨order.not_called_of_submitting hnew, .inl stop⟩⟩
  | push id server running =>
      have hline : Pipe.line
          { s with queue := s.queue ++ [id], commandEvent := true, server := .awaiting id } =
            s.line := by
        simp only [Pipe.line, server, Server.submitting, List.append_nil, List.append_assoc]
      have hhanding : Pipe.Handing
          { s with queue := s.queue ++ [id], commandEvent := true, server := .awaiting id }
          s.supervisor := by
        have hold := h.handing
        cases hsupervisor : s.supervisor <;> rw [hsupervisor] at hold <;> exact hold
      exact h.keep rfl rfl rfl (hline ▸ .refl _) (fun hstop => hstop) (fun hfailed => hfailed)
        hhanding rfl (fun _ _ hany => .inl (hany.imp_left Server.noConfusion))
        fun _ => Server.noConfusion
  | answered id server done =>
      refine h.serve (List.nil_sublist _) (fun _ _ => Server.noConfusion) ?_
      rintro _ ⟨⟩
      exact done
  | unanswered id server undone stop =>
      refine h.serve (List.nil_sublist _) ?_ fun _ => Server.noConfusion
      rintro _ _ ⟨⟩
      have hphase : 3 ≤ s.supervisor.phase := of_decide_eq_true (flags.signalled.symm.trans stop)
      have hstop : s.stopRequested = true := by
        rw [flags.requested]
        exact decide_eq_true (Nat.le_of_succ_le hphase)
      refine .inr ⟨.inr ⟨rfl, .inl hstop⟩, .inr ⟨fun hcall => ?_, .inl hstop⟩⟩
      obtain ⟨call, hmem, rfl⟩ := List.mem_map.mp hcall
      rcases h.carried call hmem with hdone | hanswering
      · rw [hdone] at undone
        cases undone
      · rw [Supervisor.phase_of_answering hanswering] at hphase
        exact absurd hphase (Nat.not_succ_le_zero _)
  | waitFails id server =>
      have hline : Pipe.line
          { s with server := .replying id stoppingReply, waitFailed := true } = s.line := by
        simp only [Pipe.line, server, Server.submitting]
      have hhanding : Pipe.Handing
          { s with server := .replying id stoppingReply, waitFailed := true } s.supervisor := by
        have hold := h.handing
        cases hsupervisor : s.supervisor <;> rw [hsupervisor] at hold <;> exact hold
      refine h.keep rfl rfl rfl (hline ▸ .refl _) (fun hstop => hstop) (fun _ => rfl) hhanding rfl
        ?_ fun _ => Server.noConfusion
      rintro _ _ (⟨⟨⟩⟩ | htold)
      · exact .inr (.inr ⟨.inr ⟨rfl, .inr rfl⟩, .inl rfl⟩)
      · exact .inl (.inr htold)
  | collect id server =>
      refine h.serve (List.nil_sublist _) ?_ fun _ => Server.noConfusion
      rintro _ _ ⟨⟩
      rcases h.settled id (h.collecting id server) with hgave | ⟨hreply, hstop, hnot⟩
      · exact .inl hgave
      · exact .inr ⟨.inr ⟨hreply, .inl hstop⟩, .inr ⟨hnot, .inl hstop⟩⟩
  | tell result id reply next server after =>
      have hnext : next.submitting = [] ∧ ∀ id, next ≠ .collecting id ∧ ∀ reply,
          next ≠ .replying id reply := by
        rcases after with rfl | rfl <;>
          exact ⟨rfl, fun _ => ⟨Server.noConfusion, fun _ => Server.noConfusion⟩⟩
      have hline : Pipe.line { s with server := next, told := s.told ++ [(id, reply)] } =
          s.line := by
        simp only [Pipe.line, server, hnext.1]
        rfl
      have hhanding : Pipe.Handing { s with server := next, told := s.told ++ [(id, reply)] }
          s.supervisor := by
        have hold := h.handing
        cases hsupervisor : s.supervisor <;> rw [hsupervisor] at hold <;> exact hold
      refine h.keep rfl rfl rfl (hline ▸ .refl _) (fun hstop => hstop) (fun hfailed => hfailed)
        hhanding rfl (fun other answer hany => .inl ?_) fun other hother =>
          absurd hother (hnext.2 other).1
      have htold := hany.resolve_left ((hnext.2 other).2 answer)
      refine (List.mem_append.mp htold).elim .inr fun hnew => .inl ?_
      obtain ⟨rfl, rfl⟩ := Prod.mk.inj (List.mem_singleton.mp hnew)
      exact server
  | wake supervisor event =>
      exact h.supervise (List.nil_sublist _) trivial (by rw [supervisor]; rfl)
  | leave supervisor => exact h.supervise (List.nil_sublist _) trivial (by rw [supervisor]; rfl)
  | sleep supervisor queue =>
      exact h.keep rfl rfl rfl (by simp only [Pipe.line, supervisor]; exact .refl _)
        (fun hstop => hstop) (fun hfailed => hfailed) trivial (by rw [supervisor]; rfl)
        (fun _ _ => .inl) h.collecting
  | take id rest supervisor queue =>
      refine h.keep rfl rfl rfl ?_ (fun hstop => hstop) (fun hfailed => hfailed) trivial
        (by rw [supervisor]; rfl) (fun _ _ => .inl) h.collecting
      simp only [Pipe.line, supervisor, queue, Supervisor.held, List.append_nil, List.append_assoc]
      exact .refl _
  | handleEmpty id reply supervisor empty =>
      have hlt := order.line_lt id (mem_line_of_held (by rw [supervisor]; exact List.mem_cons_self))
      have hcommand := h.commands id _ (List.getElem?_eq_getElem hlt)
      exact absurd (hcommand.1.symm.trans empty) hcommand.2
  | handle id reply supervisor some => exact h.handle order flags reply supervisor
  | throw id supervisor => exact h.supervise (List.nil_sublist _) trivial (by rw [supervisor]; rfl)
  | store id reply supervisor =>
      have hhanding := h.handing
      rw [supervisor] at hhanding
      refine h.setRequest rfl (List.nil_sublist _) (fun hdone => hdone) (fun _ => .inl hhanding) ?_
        fun call _ hanswering => .inl ?_
      · obtain ⟨call, hmem, hid, hreply⟩ := hhanding
        refine ⟨call, hmem, hid, hreply.trans ?_⟩
        dsimp only [Pipe.setRequest]
        rw [Function.update_self]
      · rw [supervisor] at hanswering
        exact hanswering
  | signal id supervisor =>
      have hhanding := h.handing
      rw [supervisor] at hhanding
      refine h.setRequest rfl (List.nil_sublist _) (fun _ => rfl) (fun _ => .inl hhanding) trivial
        fun call _ hanswering => .inr ?_
      rw [supervisor] at hanswering
      exact ⟨(Option.some.inj hanswering).symm, rfl⟩
  | beginStop supervisor =>
      exact h.keep rfl rfl rfl (by simp only [Pipe.line, supervisor]; exact .refl _)
        (fun _ => rfl) (fun hfailed => hfailed) trivial (by rw [supervisor]; rfl)
        (fun _ _ => .inl) h.collecting
  | signalStop supervisor =>
      exact h.keep rfl rfl rfl (by simp only [Pipe.line, supervisor]; exact .refl _)
        (fun hstop => hstop) (fun hfailed => hfailed) trivial (by rw [supervisor]; rfl)
        (fun _ _ => .inl) h.collecting
  | takeAll supervisor =>
      refine h.keep rfl rfl rfl ?_ (fun hstop => hstop) (fun hfailed => hfailed) trivial
        (by rw [supervisor]; rfl) (fun _ _ => .inl) h.collecting
      simp only [Pipe.line, supervisor, Supervisor.held, List.append_nil]
      exact .refl _
  | refusedAll supervisor =>
      exact h.supervise (List.nil_sublist _) trivial (by rw [supervisor]; rfl)
  | refuse id ids supervisor =>
      have hnot : id ∉ s.calls :=
        order.not_called (by rw [supervisor]; exact List.mem_cons_self)
      refine h.setRequest rfl (by rw [supervisor]; exact .refl _) (fun hdone => hdone)
        (fun hdone => .inr ?_) ?_
        fun call _ hanswering => by rw [supervisor] at hanswering; cases hanswering
      · rcases h.settled id hdone with hgave | ⟨-, hstop, -⟩
        · exact absurd hgave.mem_calls hnot
        · exact ⟨rfl, hstop, hnot⟩
      · dsimp only [Pipe.Handing, Pipe.setRequest]
        rw [Function.update_self]
  | refuseSignal id ids supervisor =>
      have hhanding := h.handing
      rw [supervisor] at hhanding
      have hnot : id ∉ s.calls :=
        order.not_called (by rw [supervisor]; exact List.mem_cons_self)
      have hstop : s.stopRequested = true := by
        rw [flags.requested, supervisor]
        rfl
      exact h.setRequest rfl (by rw [supervisor]; exact List.sublist_cons_self _ _) (fun _ => rfl)
        (fun _ => .inr ⟨hhanding, hstop, hnot⟩) trivial
        fun call _ hanswering => by rw [supervisor] at hanswering; cases hanswering
  | join supervisor server =>
      exact h.supervise (List.nil_sublist _) trivial (by rw [supervisor]; rfl)

end Answers

section Wakes

variable {s t : Pipe} {action : Action} {id : Nat}

/-- The supervisor is on its way to answer, or to stop. -/
def Supervisor.serves (id : Nat) : Supervisor → Prop
  | .handling other => other = id
  | supervisor => supervisor.answering = some id ∨ 1 ≤ supervisor.phase

/-- A client that waits was answered or will be: no wake-up is lost. -/
def Wakes (s : Pipe) : Prop :=
  ∀ id, s.server = .awaiting id → (s.requests id).doneEvent = true ∨ id ∈ s.queue ∨
    s.supervisor.serves id

/-- A supervisor on its way to stop ends every wait. -/
theorem Wakes.of_phase (h : 1 ≤ s.supervisor.phase) : Wakes s := by
  refine fun id _ => .inr (.inr ?_)
  cases hsupervisor : s.supervisor <;> rw [hsupervisor] at h <;>
    first
    | exact .inr h
    | exact absurd h (Nat.not_succ_le_zero _)

/-- The supervisor goes on. -/
theorem Wakes.supervise (h : Wakes s) (hserver : t.server = s.server)
    (hdone : ∀ id, (s.requests id).doneEvent = true → (t.requests id).doneEvent = true)
    (hmove : ∀ id, id ∈ s.queue ∨ s.supervisor.serves id →
      (t.requests id).doneEvent = true ∨ id ∈ t.queue ∨ t.supervisor.serves id) : Wakes t := by
  intro id hid
  rw [hserver] at hid
  exact (h id hid).elim (fun hevent => .inl (hdone id hevent)) (hmove id)

theorem event_update {request : ControlRequest}
    (hevent : (s.requests id).doneEvent = true → request.doneEvent = true) (other : Nat)
    (h : (s.requests other).doneEvent = true) :
    (Function.update s.requests id request other).doneEvent = true := by
  by_cases heq : other = id
  · rw [heq, Function.update_self]
    exact hevent (heq ▸ h)
  · rwa [Function.update_of_ne heq]

/-- A supervisor that serves nobody. -/
theorem not_serves {supervisor : Supervisor} (h : supervisor = .waiting ∨ supervisor = .servicing) :
    ¬supervisor.serves id := by
  rintro hserves
  rcases h with rfl | rfl <;>
    exact hserves.elim (fun hsome => by cases hsome) fun hphase => absurd hphase (by decide)

theorem Wakes.step (h : Wakes s) (hstep : Steps s action t) : Wakes t := by
  cases hstep with
  | move _ next before after lower =>
      intro id hid
      have hnext : next = .awaiting id := hid
      rw [hnext] at after
      cases after
  | receive _ first rest before lower => exact fun _ => Server.noConfusion
  | created | uncreated | refusePush | answered | unanswered | waitFails | collect =>
      exact fun _ => Server.noConfusion
  | push id server running =>
      rintro _ ⟨⟩
      exact .inr (.inl (List.mem_append_right _ List.mem_cons_self))
  | tell result id reply next server after =>
      intro id hid
      have hnext : next = .awaiting id := hid
      rcases after with rfl | rfl <;> cases hnext
  | wake supervisor event =>
      refine h.supervise rfl (fun _ hdone => hdone) fun id hmove => ?_
      exact .inr (.inl (hmove.resolve_right (not_serves (.inl supervisor))))
  | leave supervisor => exact .of_phase (Nat.le_refl 1)
  | sleep supervisor queue =>
      refine h.supervise rfl (fun _ hdone => hdone) fun id hmove => ?_
      exact .inr (.inl (hmove.resolve_right (not_serves (.inr supervisor))))
  | take id rest supervisor queue =>
      refine h.supervise rfl (fun _ hdone => hdone) fun other hmove => ?_
      have hmem := hmove.resolve_right (not_serves (.inr supervisor))
      rw [queue] at hmem
      exact .inr ((List.mem_cons.mp hmem).elim (fun heq => .inr heq.symm) .inl)
  | handleEmpty id reply supervisor empty =>
      refine h.supervise rfl (fun _ hdone => hdone) fun other hmove => .inr ?_
      rw [supervisor] at hmove
      exact hmove.imp_right fun heq => .inl (congrArg some heq)
  | handle id reply supervisor nonempty =>
      refine h.supervise rfl (fun _ hdone => hdone) fun other hmove => .inr ?_
      rw [supervisor] at hmove
      exact hmove.imp_right fun heq => .inl (congrArg some heq)
  | throw id supervisor => exact .of_phase (Nat.le_refl 1)
  | store id reply supervisor =>
      refine h.supervise rfl (event_update fun hdone => hdone) fun other hmove => .inr ?_
      rw [supervisor] at hmove
      exact hmove.imp_right fun hserves => hserves
  | signal id supervisor =>
      refine h.supervise rfl (event_update fun _ => rfl) fun other hmove => ?_
      rw [supervisor] at hmove
      rcases hmove with hmem | hanswering | hphase
      · exact .inr (.inl hmem)
      · obtain rfl := Option.some.inj hanswering
        refine .inl ?_
        dsimp only [Pipe.setRequest]
        rw [Function.update_self]
      · exact absurd hphase (Nat.not_succ_le_zero _)
  | beginStop | signalStop | takeAll | refusedAll | refuse | refuseSignal | join =>
      exact .of_phase (by simp [Supervisor.phase])

end Wakes

section Runs

variable {s t : Pipe} {action : Action} {actions : List Action}

structure Inv (s : Pipe) : Prop where
  flags : Flags s
  order : Order s
  answers : Answers s
  wakes : Wakes s

theorem Inv.step (inv : Inv s) (h : step s action = some t) : Inv t := by
  have hstep := steps_of_step h
  exact ⟨inv.flags.step hstep, inv.order.step hstep, inv.answers.step inv.order inv.flags hstep,
    inv.wakes.step hstep⟩

theorem inv_of_run (run : Run step init actions s) : Inv s :=
  run.invariant (fun _ _ _ inv _ h => inv.step h)
    ⟨.init, .init, .init, fun _ h => Server.noConfusion h⟩

/-- Commands are handled once and in order, every client is told what was made of its own
command, and the supervisor does not sleep while a client waits for it. -/
theorem commands_answered (run : Run step init actions s) :
    s.calls.Pairwise (· < ·) ∧
    (∀ call ∈ s.handled, ∃ command, s.commands[call.id]? = some command ∧
      call.command = trimCommand command) ∧
    (s.told.map Prod.fst).Pairwise (· < ·) ∧
    (∀ id reply, (id, reply) ∈ s.told → s.Fair id reply) ∧
    ∀ id, s.server = .awaiting id → (s.requests id).doneEvent = false →
      s.supervisor = .waiting → s.commandEvent = true := by
  have inv := inv_of_run run
  refine ⟨?_, inv.answers.calls, ?_, fun id reply htold => inv.answers.fair id reply (.inr htold),
    fun id hserver hundone hwaiting => ?_⟩
  · have hline := inv.order.line
    rw [Pipe.line, List.append_assoc, List.append_assoc] at hline
    exact (List.pairwise_append.mp hline).1
  · exact (List.pairwise_append.mp inv.order.clients).1
  · rcases inv.wakes id hserver with hdone | hmem | hserves
    · rw [hdone] at hundone
      cases hundone
    · exact inv.flags.event (List.ne_nil_of_mem hmem)
    · exact absurd hserves (not_serves (.inl hwaiting))

/-- A command is served, and the next one comes when the daemon stops. -/
def servedThenStopped : List Action :=
  [.head, .createPipe true, .startIo none, .ioDone (.done []), .checkStop,
    .startIo (some (.done [0x61, 0x0a])), .createRequest true, .push, .wake, .take, .handle [0x31],
    .store, .signal, .answered, .collect, .startIo (some (.done [])), .disconnect, .take,
    .head, .createPipe true, .startIo (some (.done [])), .checkStop,
    .startIo (some (.done [0x62])), .createRequest true, .leave, .push, .beginStop, .signalStop,
    .unanswered, .startIo none, .takeAll, .refuse, .refuseSignal, .refuse, .ioStopped, .cancelled,
    .disconnect, .head, .join]

theorem servedThenStopped_answered :
    ∃ s, Run step init servedThenStopped s ∧ s.told = [(0, [0x31]), (1, stoppingReply)] ∧
      s.handled = [⟨0, [0x61], [0x31]⟩] ∧ s.calls.Pairwise (· < ·) ∧
      s.Fair 1 stoppingReply := by
  have hexecute : ((execute step init servedThenStopped).any fun s =>
      decide (s.told = [(0, [0x31]), (1, stoppingReply)] ∧
        s.handled = [⟨0, [0x61], [0x31]⟩])) = true := by decide +kernel
  obtain ⟨s, run, htold, hhandled⟩ := exists_run_of_execute hexecute
  obtain ⟨hcalls, -, -, hfair, -⟩ := commands_answered run
  refine ⟨s, run, htold, hhandled, hcalls, hfair 1 stoppingReply ?_⟩
  rw [htold]
  exact List.mem_cons_of_mem _ List.mem_cons_self

end Runs

section Ends

variable {s t : Pipe} {action : Action} {actions : List Action}

/-- The steps that the supervisor has left in its stop. -/
def Supervisor.rank (queued : Nat) : Supervisor → Nat
  | .finished => 0
  | .joining => 1
  | .refusing ids => 2 * ids.length + 2
  | .refused _ ids => 2 * ids.length + 3
  | .taking => 2 * queued + 3
  | _ => 2 * queued + 4

/-- The steps that both threads have left at most when a stop is requested. -/
def Pipe.rank (s : Pipe) : Nat := s.server.rank + s.supervisor.rank s.queue.length

/-- Whether the client has to do its part. -/
def Action.needsClient : Action → Bool
  | .ioDone _ | .startIo (some _) => true
  | _ => false

theorem rank_lt_of_server (h : t.server.rank < s.server.rank)
    (hsupervisor : t.supervisor = s.supervisor) (hqueue : t.queue = s.queue) :
    t.rank < s.rank := by
  rw [Pipe.rank, Pipe.rank, hsupervisor, hqueue]
  exact Nat.add_lt_add_right h _

theorem rank_lt_of_supervisor
    (h : t.supervisor.rank t.queue.length < s.supervisor.rank s.queue.length)
    (hserver : t.server = s.server) : t.rank < s.rank := by
  rw [Pipe.rank, Pipe.rank, hserver]
  exact Nat.add_lt_add_left h _

/-- After a request to stop every step leaves less to do. -/
theorem rank_lt (flags : Flags s) (stop : s.stopRequested = true) (hstep : Steps s action t) :
    t.stopRequested = true ∧ t.rank < s.rank := by
  have hphase := flags.phase_of_requested stop
  have hearly {supervisor : Supervisor} (h : s.supervisor = supervisor)
      (hlow : supervisor.phase < 2) : False := by
    rw [h] at hphase
    omega
  cases hstep with
  | move _ next before after lower => exact ⟨stop, rank_lt_of_server (lower stop) rfl rfl⟩
  | receive _ first rest before lower => exact ⟨stop, rank_lt_of_server lower rfl rfl⟩
  | push id server running => 
      rw [stop] at running
      cases running
  | created id server | uncreated id server | refusePush id server | answered id server
  | unanswered id server | waitFails id server | collect id server =>
      exact ⟨stop, rank_lt_of_server (by rw [server]; simp [Server.rank]) rfl rfl⟩
  | tell result id reply next server after =>
      refine ⟨stop, rank_lt_of_server ?_ rfl rfl⟩
      rw [server]
      rcases after with rfl | rfl <;> simp [Server.rank]
  | wake supervisor | leave supervisor | sleep supervisor | take _ _ supervisor
  | handleEmpty _ _ supervisor | handle _ _ supervisor | throw _ supervisor
  | store _ _ supervisor | signal _ supervisor | beginStop supervisor =>
      exact (hearly supervisor (by simp [Supervisor.phase])).elim
  | signalStop supervisor | takeAll supervisor | refusedAll supervisor | refuse _ _ supervisor
  | refuseSignal _ _ supervisor | join supervisor =>
      refine ⟨stop, rank_lt_of_supervisor ?_ rfl⟩
      rw [supervisor]
      simp [Supervisor.rank] <;> omega

/-- A server that may stop has a step that needs no client. -/
theorem exists_serverStep (stop : s.stopEvent = true) (hserver : s.server ≠ .ended) :
    ∃ action : Action, action.needsClient = false ∧ (serverStep s action).isSome = true := by
  cases h : s.server with
  | loop => exact ⟨.head, rfl, by simp [serverStep, h]⟩
  | creating => exact ⟨.createPipe true, rfl, by simp [serverStep, h]⟩
  | backingOff => exact ⟨.backOff, rfl, by simp [serverStep, h]⟩
  | connecting | reading | replying => exact ⟨.startIo none, rfl, by simp [serverStep, h]⟩
  | waiting io => exact ⟨.ioStopped, rfl, by simp [serverStep, h, stop]⟩
  | cancelling => exact ⟨.cancelled, rfl, by simp [serverStep, h]⟩
  | connected => exact ⟨.checkStop, rfl, by simp [serverStep, h]⟩
  | queueing id => exact ⟨.createRequest true, rfl, by simp [serverStep, h]⟩
  | pushing id =>
      refine ⟨.push, rfl, ?_⟩
      simp only [serverStep, h]
      split <;> rfl
  | awaiting id =>
      cases hdone : (s.requests id).doneEvent with
      | false => exact ⟨.unanswered, rfl, by simp [serverStep, h, hdone, stop]⟩
      | true => exact ⟨.answered, rfl, by simp [serverStep, h, hdone]⟩
  | collecting id => exact ⟨.collect, rfl, by simp [serverStep, h]⟩
  | disconnecting => exact ⟨.disconnect, rfl, by simp [serverStep, h]⟩
  | ended => exact absurd h hserver

theorem step_of_serverStep (h : (serverStep s action).isSome = true) :
    (step s action).isSome = true := by
  rw [step, Option.isSome_or, h, Bool.true_or]

theorem step_of_supervisorStep (h : (supervisorStep s action).isSome = true) :
    (step s action).isSome = true := by
  rw [step, Option.isSome_or, h, Bool.or_true]

/-- The stop is over, or some thread can go on without the client. -/
theorem exists_step (flags : Flags s) (stop : s.stopRequested = true) :
    s.supervisor = .finished ∨
      ∃ action : Action, action.needsClient = false ∧ (step s action).isSome = true := by
  have hphase := flags.phase_of_requested stop
  cases h : s.supervisor with
  | waiting | servicing | handling | storing | signalling | stopping =>
      rw [h] at hphase
      exact absurd hphase (by simp [Supervisor.phase])
  | signallingStop =>
      exact .inr ⟨.signalStop, rfl, step_of_supervisorStep (by simp [supervisorStep, h])⟩
  | taking => exact .inr ⟨.takeAll, rfl, step_of_supervisorStep (by simp [supervisorStep, h])⟩
  | refusing ids =>
      cases ids <;>
        exact .inr ⟨.refuse, rfl, step_of_supervisorStep (by simp [supervisorStep, h])⟩
  | refused id ids =>
      exact .inr ⟨.refuseSignal, rfl, step_of_supervisorStep (by simp [supervisorStep, h])⟩
  | joining =>
      by_cases hended : s.server = .ended
      · exact .inr ⟨.join, rfl, step_of_supervisorStep (by simp [supervisorStep, h, hended])⟩
      · have hevent : s.stopEvent = true := by
          rw [flags.signalled, h]
          rfl
        obtain ⟨action, howner, hsome⟩ := exists_serverStep hevent hended
        exact .inr ⟨action, howner, step_of_serverStep hsome⟩
  | finished => exact .inl rfl

theorem length_add_rank_le (inv : Inv s) (stop : s.stopRequested = true)
    (run : Run step s actions t) : actions.length + t.rank ≤ s.rank := by
  induction run with
  | nil s => exact (Nat.zero_add _).le
  | cons _ hstep _ ih =>
      obtain ⟨hstop, hlt⟩ := rank_lt inv.flags stop (steps_of_step hstep)
      have hrest := ih (inv.step hstep) hstop
      rw [List.length_cons]
      omega

/-- From a request to stop on, both threads make a bounded number of steps, some thread can
make one without the client until the stop is over, and then the server has ended and the
queue is empty. -/
theorem stop_ends (run : Run step init actions s) (stop : s.stopRequested = true) :
    (∀ more t, Run step s more t → more.length ≤ 2 * s.queue.length + s.supervisor.rank 0 + 15) ∧
    (s.supervisor = .finished ∨
      ∃ action : Action, action.needsClient = false ∧ (step s action).isSome = true) ∧
    (s.supervisor = .finished → s.server = .ended ∧ s.queue = []) := by
  have inv := inv_of_run run
  refine ⟨fun more t hmore => ?_, exists_step inv.flags stop, fun hfinished =>
    ⟨inv.flags.ended hfinished, inv.flags.emptied ?_⟩⟩
  · have hlength := length_add_rank_le inv stop hmore
    have hserver : s.server.rank ≤ 15 := by
      cases s.server with
      | waiting io => cases io <;> decide
      | _ => simp [Server.rank]
    have hsupervisor : s.supervisor.rank s.queue.length ≤
        2 * s.queue.length + s.supervisor.rank 0 := by
      cases s.supervisor <;> simp only [Supervisor.rank] <;> omega
    rw [Pipe.rank, Pipe.rank] at hlength
    omega
  · rw [hfinished]
    decide

theorem servedThenStopped_ends :
    ∃ s, Run step init (servedThenStopped.take 27) s ∧ s.server = .awaiting 1 ∧
      (∀ more t, Run step s more t → more.length ≤ 2 * s.queue.length + s.supervisor.rank 0 + 15) ∧
      ∃ action : Action, action.needsClient = false ∧ (step s action).isSome = true := by
  have hexecute : ((execute step init (servedThenStopped.take 27)).any fun s =>
      decide (s.server = .awaiting 1 ∧ s.stopRequested = true ∧
        s.supervisor = .signallingStop)) = true := by decide +kernel
  obtain ⟨s, run, hserver, hstop, hsupervisor⟩ := exists_run_of_execute hexecute
  obtain ⟨hbound, hnext, -⟩ := stop_ends run hstop
  refine ⟨s, run, hserver, hbound, hnext.resolve_left ?_⟩
  rw [hsupervisor]
  exact Supervisor.noConfusion

end Ends

end VirtualDualSense.Win32.ControlPipe
