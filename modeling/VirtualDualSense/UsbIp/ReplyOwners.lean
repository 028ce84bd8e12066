import VirtualDualSense.UsbIp.IsoPacing
import VirtualDualSense.UsbIp.Unlink

/-!
# The owners of the paced replies

The server accepts one connection after another. Some of them only list the devices,
others import the port. A paced reply keeps the socket value of the connection that
submitted it, and the pacer writes it to whatever connection then has this value.
-/

namespace VirtualDualSense.UsbIp.ReplyOwners

open Lib.Runs Lib.DueQueue Usb.Descriptors Wire CmdSubmit ReplyFraming Session IsoPacing

/-- The bytes of a paced reply reach a connection. -/
structure Write where
  owner : Nat
  connection : Nat
  deriving DecidableEq

/-- The server with the connection that it has accepted last and not closed yet, and with
the connections that submitted the paced replies: due time and owner of each queued one,
and the owner of the one that the pacer holds. -/
structure Listener where
  server : Server
  live : Option Connection
  accepted : Nat
  queue : List (Nat × Nat)
  holding : Option Nat
  writes : List Write

def Listener.new (profile : Profile) (now : Nat) : Listener :=
  ⟨Server.new profile now, none, 0, [], none, []⟩

/-- `tcp_server_loop` accepts a connection and closes it unless it imports the port. -/
inductive Act
  | accept (socket : Nat)
  | hangUp
  | port (action : Action)

def accept (t : Listener) (socket : Nat) : Option Listener :=
  match t.server.session, t.live with
  | .idle, none =>
      some { t with live := some ⟨socket, t.accepted⟩, accepted := t.accepted + 1 }
  | _, _ => none

/-- The devices were listed, the request was not understood, or the pipe was not connected. -/
def hangUp (t : Listener) : Option Listener :=
  match t.server.session, t.live with
  | .idle, some _ => some { t with live := none }
  | _, _ => none

def noteSendReply (t : Listener) (next : Server) : Listener :=
  match t.server.session, t.live with
  | .sending cmd _, some connection =>
      if paceOut cmd || paceIn cmd then
        let due := dueOf (anchor t.server (paceOut cmd)) t.server.now
        { t with server := next, queue := insertDue Prod.fst (due, connection.id) t.queue }
      else { t with server := next }
  | _, _ => { t with server := next }

def notePacerTakes (t : Listener) (next : Server) : Listener :=
  { t with server := next, queue := t.queue.tail, holding := t.queue.head?.map Prod.snd }

/-- The connection that a write to a socket value reaches. -/
def reached (t : Listener) (accepted : Bool) (client : Nat) : Option Nat :=
  match t.live with
  | some connection =>
      if accepted ∧ connection.socket = client then some connection.id else none
  | none => none

def notePacerSends (t : Listener) (accepted : Bool) (next : Server) : Listener :=
  let t' := { t with server := next, holding := none }
  match t.server.pacer, t.holding with
  | some reply, some owner =>
      match reached t accepted reply.client with
      | some connection => { t' with writes := t.writes ++ [⟨owner, connection⟩] }
      | none => t'
  | _, _ => t'

def note (t : Listener) (action : Action) (next : Server) : Listener :=
  match action with
  | .sendReply _ => noteSendReply t next
  | .pacerTakes => notePacerTakes t next
  | .pacerSends accepted => notePacerSends t accepted next
  | .endSession => { t with server := next, queue := [] }
  | .closeSocket => { t with server := next, live := none }
  | _ => { t with server := next }

/-- Only the accepted connection can import the port. -/
def Allowed (t : Listener) : Action → Prop
  | .importSession socket => t.live.map Connection.socket = some socket
  | _ => True

instance (t : Listener) : ∀ action, Decidable (Allowed t action)
  | .importSession _ => inferInstanceAs (Decidable (_ = _))
  | .tick _ | .stop | .recv .. | .recvFails | .endWait | .sendReply _ | .sendUnlink _
  | .endSession | .closeSocket | .pacerTakes | .pacerSends _ | .daemonCloses
  | .readerFrame .. | .readerFails => .isTrue trivial

def step (gainOfVolume : Int → Int) (t : Listener) : Act → Option Listener
  | .accept socket => accept t socket
  | .hangUp => hangUp t
  | .port action =>
      if Allowed t action then (Session.step gainOfVolume t.server action).map (note t action)
      else none

/-- A paced reply is only written to the connection that submitted it. -/
def OwnWrites (t : Listener) : Prop :=
  ∀ write ∈ t.writes, write.connection = write.owner

instance (t : Listener) : Decidable (OwnWrites t) :=
  inferInstanceAs (Decidable (∀ write ∈ t.writes, write.connection = write.owner))

/-- While the pacer holds a reply, no connection is accepted with the socket value of the
reply. -/
def FreshSocket (t : Listener) : Act → Prop
  | .accept socket => ∀ reply ∈ t.server.pacer, reply.client ≠ socket
  | _ => True

structure Inv (t : Listener) : Prop where
  live : t.live = none → t.server.session = .idle
  quiet : quiet t.server.session = true → t.server.pacedReplies = []
  length : t.queue.length = t.server.pacedReplies.length
  owners : ∀ entry ∈ t.queue, ∀ connection ∈ t.live, entry.2 = connection.id
  held : ∀ reply ∈ t.server.pacer, ∃ owner, t.holding = some owner ∧
    ∀ connection ∈ t.live, connection.socket = reply.client → connection.id = owner
  own : OwnWrites t

theorem length_insertDue {α : Type*} (due : α → Nat) (item : α) (queue : List α) :
    (insertDue due item queue).length = queue.length + 1 :=
  perm_insertDue.length_eq

theorem length_emplace (due : Nat) (reply : PacedReply) (queue : List (Nat × PacedReply)) :
    (emplace due reply queue).length = queue.length + 1 := by
  induction queue with
  | nil => rfl
  | cons first rest ih =>
      rw [emplace]
      split
      · rw [List.length_cons, ih, List.length_cons]
      · rfl

namespace Inv

variable {t t' : Listener} {next : Server}

theorem new (profile : Profile) (now : Nat) : Inv (.new profile now) where
  live := fun _ => rfl
  quiet := fun _ => rfl
  length := rfl
  owners := by simp [Listener.new]
  held := by simp [Listener.new, Server.new]
  own := by simp [OwnWrites, Listener.new]

/-- A step that leaves the pacer alone. -/
theorem keeps (inv : Inv t) (hqueue : next.pacedReplies = t.server.pacedReplies)
    (hpacer : next.pacer = t.server.pacer)
    (hidle : t.server.session = .idle → t.live = none → next.session = .idle)
    (hquiet : IsoPacing.quiet next.session = true → IsoPacing.quiet t.server.session = true) :
    Inv { t with server := next } where
  live := fun h => hidle (inv.live h) h
  quiet := fun h => hqueue.trans (inv.quiet (hquiet h))
  length := by rw [inv.length, hqueue]
  owners := inv.owners
  held := by rw [hpacer]; exact inv.held
  own := inv.own

theorem accept (inv : Inv t) {socket : Nat} (ok : FreshSocket t (.accept socket))
    (h : ReplyOwners.accept t socket = some t') : Inv t' := by
  unfold ReplyOwners.accept at h
  split at h
  · rename_i hidle hnone
    obtain rfl := Option.some.inj h
    have hempty : t.queue = [] := by
      apply List.length_eq_zero_iff.mp
      rw [inv.length, inv.quiet (by rw [hidle]; rfl)]
      rfl
    refine ⟨fun h => absurd h (by simp), inv.quiet, inv.length, ?_, ?_, inv.own⟩
    · rw [hempty]
      intro entry hentry
      cases hentry
    · intro reply hreply
      obtain ⟨owner, hholding, -⟩ := inv.held reply hreply
      refine ⟨owner, hholding, ?_⟩
      rintro connection ⟨⟩ hsocket
      exact absurd hsocket.symm (ok reply hreply)
  · cases h

theorem closes (inv : Inv t) (hidle : next.session = .idle)
    (hqueue : next.pacedReplies = []) (hold : t.server.pacedReplies = [])
    (hpacer : next.pacer = t.server.pacer) : Inv { t with server := next, live := none } where
  live := fun _ => hidle
  quiet := fun _ => hqueue
  length := by rw [inv.length, hold, hqueue]
  owners := by simp
  held := by
    rw [hpacer]
    intro reply hreply
    obtain ⟨owner, hholding, -⟩ := inv.held reply hreply
    exact ⟨owner, hholding, by simp⟩
  own := inv.own

theorem hangUp (inv : Inv t) (h : ReplyOwners.hangUp t = some t') : Inv t' := by
  unfold ReplyOwners.hangUp at h
  split at h
  · rename_i hidle hlive
    obtain rfl := Option.some.inj h
    have hempty := inv.quiet (by rw [hidle]; rfl)
    exact inv.closes hidle hempty hempty rfl
  · cases h

theorem sendReply (inv : Inv t) {accepted : Bool}
    (h : Session.sendReply t.server accepted = some next) : Inv (noteSendReply t next) := by
  obtain ⟨cmd, reply, connection, hsending, hconnection, hcases⟩ := sendReply_cases h
  have hbusy : t.server.session ≠ .idle := by
    rw [hsending]
    simp
  have hlive : t.live ≠ none := fun hnone => hbusy (inv.live hnone)
  unfold noteSendReply
  split
  · rename_i cmd' reply' live hsending' hlive'
    obtain ⟨rfl, rfl⟩ := SessionPc.sending.inj (hsending.symm.trans hsending')
    split
    · rename_i hpaced
      simp only [Session.sendReply, hsending, hconnection, hpaced, if_true] at h
      obtain rfl := Option.some.inj h
      refine ⟨fun h => absurd h hlive, (by rintro ⟨⟩), ?_, ?_, inv.held, inv.own⟩
      · change (insertDue _ _ _).length = (emplace _ _ _).length
        rw [length_insertDue, length_emplace, inv.length]
      · intro entry hentry other hother
        rcases mem_insertDue.mp hentry with rfl | hold
        · obtain rfl := Option.some.inj (hlive'.symm.trans hother)
          rfl
        · exact inv.owners entry hold other hother
    · rename_i hdirect
      rcases hcases with ⟨hpaced, -⟩ | ⟨-, rfl⟩ | rfl
      · exact absurd hpaced hdirect
      · exact inv.keeps rfl rfl (fun h => absurd h hbusy) (by rintro ⟨⟩)
      · exact inv.keeps rfl rfl (fun h => absurd h hbusy) (by rintro ⟨⟩)
  · rename_i hother
    obtain ⟨live, hsome⟩ := Option.ne_none_iff_exists'.mp hlive
    exact (hother cmd reply live hsending hsome).elim

theorem pacerTakes (inv : Inv t) (h : Session.pacerTakes t.server = some next) :
    Inv (notePacerTakes t next) := by
  obtain ⟨due, reply, rest, hnone, hqueue, -, rfl⟩ := pacerTakes_cases h
  have hlength := inv.length
  rw [hqueue] at hlength
  obtain ⟨entry, others, hentries⟩ := List.exists_cons_of_length_eq_add_one hlength
  have hbusy : IsoPacing.quiet t.server.session = true → False := by
    intro hquiet
    have hempty := inv.quiet hquiet
    rw [hqueue] at hempty
    cases hempty
  refine ⟨inv.live, fun h => (hbusy h).elim, ?_, ?_, ?_, inv.own⟩
  · change t.queue.tail.length = rest.length
    rw [List.length_tail, hlength]
    rfl
  · intro other hother
    exact inv.owners other (List.mem_of_mem_tail hother)
  · rintro held ⟨⟩
    refine ⟨entry.2, ?_, ?_⟩
    · change t.queue.head?.map Prod.snd = some entry.2
      rw [hentries]
      rfl
    · intro connection hconnection _
      exact (inv.owners entry (by rw [hentries]; exact List.mem_cons_self) connection
        hconnection).symm

theorem pacerSends (inv : Inv t) {accepted : Bool}
    (h : Session.pacerSends t.server accepted = some next) :
    Inv (notePacerSends t accepted next) := by
  obtain ⟨paced, hpaced, hcases⟩ := pacerSends_cases h
  obtain ⟨owner, hholding, howner⟩ := inv.held paced hpaced
  obtain ⟨sent, rfl⟩ : ∃ sent, next = { t.server with pacer := none, sent := sent } := by
    rcases hcases with rfl | ⟨connection, -, -, rfl⟩
    · exact ⟨_, rfl⟩
    · exact ⟨_, rfl⟩
  have hwrites (writes : List Write)
      (hown : ∀ write ∈ writes, write.connection = write.owner) :
      Inv { t with
        server := { t.server with pacer := none, sent := sent }
        holding := none
        writes := writes } :=
    ⟨inv.live, inv.quiet, inv.length, inv.owners, by simp, hown⟩
  unfold notePacerSends
  rw [hpaced, hholding]
  dsimp only
  split
  · rename_i connection hreached
    apply hwrites
    intro write hwrite
    rcases List.mem_append.mp hwrite with hold | hnew
    · exact inv.own write hold
    · obtain rfl := List.mem_singleton.mp hnew
      -- the reached connection has the socket value of the reply
      unfold reached at hreached
      split at hreached
      · rename_i live hlive
        obtain ⟨⟨-, hsocket⟩, hid⟩ := Option.ite_none_right_eq_some.mp hreached
        rw [← Option.some.inj hid]
        exact howner live hlive hsocket
      · cases hreached
  · exact hwrites t.writes inv.own

theorem endSession (inv : Inv t) (h : Session.endSession t.server = some next) :
    Inv { t with server := next, queue := [] } := by
  unfold Session.endSession at h
  split at h
  · rename_i hclosing
    obtain rfl := Option.some.inj h
    refine ⟨?_, fun _ => rfl, rfl, by simp, inv.held, inv.own⟩
    intro hnone
    have hidle := inv.live hnone
    rw [hclosing] at hidle
    cases hidle
  · cases h

theorem closeSocket (inv : Inv t) (h : Session.closeSocket t.server = some next) :
    Inv { t with server := next, live := none } := by
  unfold Session.closeSocket at h
  split at h
  · rename_i hclosed
    obtain rfl := Option.some.inj h
    have hempty := inv.quiet (by rw [hclosed]; rfl)
    exact inv.closes rfl hempty hempty rfl
  · cases h

theorem importSession (inv : Inv t) {socket : Nat}
    (hallowed : t.live.map Connection.socket = some socket)
    (h : Session.importSession t.server socket = some next) :
    Inv { t with server := next } := by
  unfold Session.importSession at h
  split at h
  · obtain rfl := Option.some.inj h
    refine inv.keeps rfl rfl ?_ fun h => nomatch h
    intro _ hnone
    rw [hnone] at hallowed
    cases hallowed
  · cases h

/-- A step of a session that is under way. -/
theorem busy (inv : Inv t) (hqueue : next.pacedReplies = t.server.pacedReplies)
    (hpacer : next.pacer = t.server.pacer) (hbusy : t.server.session ≠ .idle)
    (hquiet : IsoPacing.quiet next.session = true → IsoPacing.quiet t.server.session = true) :
    Inv { t with server := next } :=
  inv.keeps hqueue hpacer (fun h => absurd h hbusy) hquiet

theorem port {gainOfVolume : Int → Int} {action : Action} (inv : Inv t)
    (hallowed : Allowed t action) (h : Session.step gainOfVolume t.server action = some next) :
    Inv (note t action next) := by
  cases action with
  | tick elapsed =>
      obtain rfl := Option.some.inj h
      exact inv.keeps rfl rfl (fun h _ => h) fun h => h
  | stop =>
      obtain rfl := Option.some.inj h
      exact inv.keeps rfl rfl (fun h _ => h) fun h => h
  | daemonCloses =>
      obtain rfl := Option.some.inj h
      exact inv.keeps rfl rfl (fun h _ => h) fun h => h
  | importSession socket => exact inv.importSession hallowed h
  | recv cmd outData iso written =>
      obtain ⟨hready, ⟨-, rfl⟩ | ⟨port, -, rfl⟩ | ⟨-, -, frames, -, rfl⟩⟩ := recvPdu_cases h
      all_goals exact inv.busy rfl rfl (by rw [hready]; simp) (by rintro ⟨⟩)
  | recvFails =>
      simp only [Session.step, Session.recvFails] at h
      split at h
      · rename_i hready
        obtain rfl := Option.some.inj h
        exact inv.busy rfl rfl (by rw [hready]; simp) (by rintro ⟨⟩)
      · cases h
  | endWait =>
      obtain ⟨cmd, iso, hwaiting, ⟨error, -, rfl⟩ | ⟨reply, -, rfl⟩⟩ := endWait_cases h
      all_goals exact inv.busy rfl rfl (by rw [hwaiting]; simp) (by rintro ⟨⟩)
  | sendReply accepted => exact inv.sendReply h
  | sendUnlink accepted =>
      obtain ⟨seqnum, unlinked, hunlinking, rfl | ⟨connection, -, rfl⟩⟩ := sendUnlink_cases h
      all_goals exact inv.busy rfl rfl (by rw [hunlinking]; simp) (by rintro ⟨⟩)
  | endSession => exact inv.endSession h
  | closeSocket => exact inv.closeSocket h
  | pacerTakes => exact inv.pacerTakes h
  | pacerSends accepted => exact inv.pacerSends h
  | readerFrame frame boost =>
      obtain rfl | rfl := readerFrame_cases h
      all_goals exact inv.keeps rfl rfl (fun h _ => h) fun h => h
  | readerFails =>
      simp only [Session.step, Session.readerFails] at h
      split_ifs at h
      obtain rfl := Option.some.inj h
      exact inv.keeps rfl rfl (fun h _ => h) fun h => h

theorem step {gainOfVolume : Int → Int} {act : Act} (inv : Inv t) (ok : FreshSocket t act)
    (h : ReplyOwners.step gainOfVolume t act = some t') : Inv t' := by
  cases act with
  | accept socket => exact inv.accept ok h
  | hangUp => exact inv.hangUp h
  | port action =>
      simp only [ReplyOwners.step] at h
      split at h
      · rename_i hallowed
        obtain ⟨next, hnext, rfl⟩ := Option.map_eq_some_iff.mp h
        exact inv.port hallowed hnext
      · cases h

end Inv

/-- If no connection gets the socket value of a reply that the pacer holds, then every
paced reply is written to the connection that submitted it. -/
theorem ownWrites_of_guardedRun {gainOfVolume : Int → Int} {profile : Profile} {now : Nat}
    {acts : List Act} {t : Listener}
    (run : GuardedRun (step gainOfVolume) FreshSocket (.new profile now) acts t) :
    OwnWrites t :=
  (run.invariant (fun _ _ _ inv ok h => inv.step ok h) (Inv.new profile now)).own

section Traces

instance (t : Listener) : ∀ act, Decidable (FreshSocket t act)
  | .accept _ => Option.decidableForallMem _
  | .hangUp | .port _ => .isTrue trivial

/-- A speaker submit is made on socket 5, and the pacer takes its reply. -/
def submitTrace : List Act :=
  .accept 5 :: (Unlink.speakerTrace ++ [Action.pacerTakes]).map Act.port

/-- The session ends and its socket is closed. -/
def hangUpTrace : List Act :=
  [.port .recvFails, .port .endSession, .port .closeSocket]

theorem ownWrites_sendBeforeReuse : ∃ t,
    GuardedRun (step fun _ => 2 ^ 15) FreshSocket (.new .ds5 1)
      (submitTrace ++ [.port (.pacerSends true)] ++ hangUpTrace ++ [.accept 5]) t ∧
      OwnWrites t := by
  obtain ⟨t, run⟩ : ∃ t, GuardedRun (step fun _ => 2 ^ 15) FreshSocket (.new .ds5 1)
      (submitTrace ++ [.port (.pacerSends true)] ++ hangUpTrace ++ [.accept 5]) t :=
    exists_guardedRun_of_execute (by decide +kernel)
  exact ⟨t, run, ownWrites_of_guardedRun run⟩

/-- The next connection gets the socket value while the pacer still holds the reply. -/
theorem reply_crosses_sessions : ∃ t,
    Run (step fun _ => 2 ^ 15) (.new .ds5 1)
      (submitTrace ++ hangUpTrace ++ [.accept 5, .port (.importSession 5),
        .port (.pacerSends true)]) t ∧ ¬OwnWrites t :=
  exists_run_of_execute (by decide +kernel)

end Traces

end VirtualDualSense.UsbIp.ReplyOwners
