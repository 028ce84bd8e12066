import VirtualDualSense.UsbIp.Session

/-!
# The pipe reader across import sessions

The first import session starts the reader thread. The end of a session disconnects
the pipe, which fails the reader's read, and no later session starts another thread.
The reader therefore serves the first session of a port and no other.
-/

namespace VirtualDualSense.UsbIp.PipeReader

open Lib.Runs Protocol.Frames Usb.Descriptors Wire CmdSubmit ReplyFraming Session

/-- An attached session over a connected pipe has a running reader. -/
def DemuxAlive (s : Server) : Prop :=
  s.attached = true → s.pipeConnected = true → s.reader = .running

/-- A port is imported once, no read fails on a connected pipe, and the port is not
stopped while frames arrive. -/
def firstImport (s : Server) : Action → Prop
  | .importSession _ => s.reader = .notStarted
  | .readerFails => s.pipeConnected = false
  | .readerFrame _ _ => s.stopRequested = false
  | _ => True

/-- What the reader's life depends on. -/
structure Link where
  attached : Bool
  pipeConnected : Bool
  reader : ReaderPc
  deriving DecidableEq

def link (s : Server) : Link := ⟨s.attached, s.pipeConnected, s.reader⟩

section Steps

variable {gainOfVolume : Int → Int} {s t : Server}

theorem link_recvPdu {cmd : UsbipCmdSubmit} {outData : List UInt8}
    {iso : List UsbipIsoPacketDescriptor} {written : Bool}
    (h : recvPdu gainOfVolume s cmd outData iso written = some t) : link t = link s := by
  obtain ⟨-, ⟨-, rfl⟩ | ⟨port, -, rfl⟩ | ⟨-, -, frames, -, rfl⟩⟩ := recvPdu_cases h
  all_goals rfl

theorem link_endWait (h : endWait s = some t) : link t = link s := by
  obtain ⟨cmd, iso, -, ⟨error, -, rfl⟩ | ⟨reply, -, rfl⟩⟩ := endWait_cases h
  all_goals rfl

theorem link_sendReply {accepted : Bool} (h : sendReply s accepted = some t) :
    link t = link s := by
  obtain ⟨cmd, reply, connection, -, -, ⟨-, rfl⟩ | ⟨-, rfl⟩ | rfl⟩ := sendReply_cases h
  all_goals rfl

theorem link_sendUnlink {accepted : Bool} (h : sendUnlink s accepted = some t) :
    link t = link s := by
  obtain ⟨seqnum, unlinked, -, rfl | ⟨connection, -, rfl⟩⟩ := sendUnlink_cases h
  all_goals rfl

theorem link_pacerTakes (h : pacerTakes s = some t) : link t = link s := by
  obtain ⟨due, reply, rest, -, -, -, rfl⟩ := pacerTakes_cases h
  rfl

theorem link_pacerSends {accepted : Bool} (h : pacerSends s accepted = some t) :
    link t = link s := by
  obtain ⟨paced, -, rfl | ⟨connection, -, -, rfl⟩⟩ := pacerSends_cases h
  all_goals rfl

theorem link_recvFails (h : recvFails s = some t) : link t = link s := by
  unfold recvFails at h
  split at h
  · obtain rfl := Option.some.inj h
    rfl
  · cases h

theorem link_closeSocket (h : closeSocket s = some t) : link t = link s := by
  unfold closeSocket at h
  split at h
  · obtain rfl := Option.some.inj h
    rfl
  · cases h

theorem link_importSession {socket : Nat} (h : importSession s socket = some t) :
    link t = ⟨true, true, if s.reader = .notStarted then .running else s.reader⟩ := by
  unfold importSession at h
  split at h
  · obtain rfl := Option.some.inj h
    rfl
  · cases h

theorem link_endSession (h : endSession s = some t) : link t = ⟨false, false, s.reader⟩ := by
  unfold endSession at h
  split at h
  · obtain rfl := Option.some.inj h
    rfl
  · cases h

/-- A frame leaves the link as it is, or stops the reader of a stopped port. -/
theorem link_readerFrame {frame : Frame} {boost : Int16 → Int16}
    (h : readerFrame s frame boost = some t) :
    s.reader = .running ∧ (link t = link s ∨
      s.stopRequested = true ∧ link t = { link s with reader := .exited }) := by
  unfold readerFrame at h
  split at h
  · rename_i hrunning
    refine ⟨hrunning.1, ?_⟩
    split at h
    · rename_i hstop
      obtain rfl := Option.some.inj h
      exact .inr ⟨hstop, rfl⟩
    · obtain rfl := Option.some.inj h
      exact .inl rfl
  · cases h

theorem link_readerFails (h : readerFails s = some t) :
    s.reader = .running ∧ link t = { link s with reader := .exited } := by
  unfold readerFails at h
  split at h
  · rename_i hrunning
    obtain rfl := Option.some.inj h
    exact ⟨hrunning, rfl⟩
  · cases h

/-- The actions that the reader's life depends on, and what they do to it. -/
theorem link_step {a : Action} (h : step gainOfVolume s a = some t) :
    link t = link s ∨
    (∃ socket, a = .importSession socket ∧
      link t = ⟨true, true, if s.reader = .notStarted then .running else s.reader⟩) ∨
    (a = .endSession ∧ link t = ⟨false, false, s.reader⟩) ∨
    (a = .daemonCloses ∧ link t = { link s with pipeConnected := false }) ∨
    (∃ frame boost, a = .readerFrame frame boost ∧ s.reader = .running ∧
      s.stopRequested = true ∧ link t = { link s with reader := .exited }) ∨
    (a = .readerFails ∧ s.reader = .running ∧ link t = { link s with reader := .exited }) := by
  cases a with
  | tick elapsed =>
      obtain rfl := Option.some.inj h
      exact .inl rfl
  | stop =>
      obtain rfl := Option.some.inj h
      exact .inl rfl
  | importSession socket => exact .inr (.inl ⟨socket, rfl, link_importSession h⟩)
  | recv cmd outData iso written => exact .inl (link_recvPdu h)
  | recvFails => exact .inl (link_recvFails h)
  | endWait => exact .inl (link_endWait h)
  | sendReply accepted => exact .inl (link_sendReply h)
  | sendUnlink accepted => exact .inl (link_sendUnlink h)
  | endSession => exact .inr (.inr (.inl ⟨rfl, link_endSession h⟩))
  | closeSocket => exact .inl (link_closeSocket h)
  | pacerTakes => exact .inl (link_pacerTakes h)
  | pacerSends accepted => exact .inl (link_pacerSends h)
  | daemonCloses =>
      obtain rfl := Option.some.inj h
      exact .inr (.inr (.inr (.inl ⟨rfl, rfl⟩)))
  | readerFrame frame boost =>
      obtain ⟨hrunning, hsame | ⟨hstop, hexited⟩⟩ := link_readerFrame h
      · exact .inl hsame
      · exact .inr (.inr (.inr (.inr (.inl ⟨frame, boost, rfl, hrunning, hstop, hexited⟩))))
  | readerFails =>
      obtain ⟨hrunning, hexited⟩ := link_readerFails h
      exact .inr (.inr (.inr (.inr (.inr ⟨rfl, hrunning, hexited⟩))))

end Steps

section Runs

variable {gainOfVolume : Int → Int} {s t : Server}

theorem demuxAlive_of_link (h : link t = link s) (alive : DemuxAlive s) : DemuxAlive t := by
  obtain ⟨hattached, hpipe, hreader⟩ := Link.mk.inj h
  intro ha hp
  rw [hreader]
  exact alive (hattached ▸ ha) (hpipe ▸ hp)

theorem demuxAlive_step {a : Action} (alive : DemuxAlive s) (ok : firstImport s a)
    (h : step gainOfVolume s a = some t) : DemuxAlive t := by
  rcases link_step h with hlink | ⟨socket, rfl, hlink⟩ | ⟨rfl, hlink⟩ | ⟨rfl, hlink⟩ |
    ⟨frame, boost, rfl, -, hstop, -⟩ | ⟨rfl, -, hlink⟩
  · exact demuxAlive_of_link hlink alive
  · intro _ _
    have hreader : t.reader = _ := congrArg Link.reader hlink
    rw [hreader]
    exact if_pos ok
  · intro ha _
    have hattached : t.attached = false := congrArg Link.attached hlink
    rw [hattached] at ha
    cases ha
  · intro _ hp
    have hpipe : t.pipeConnected = false := congrArg Link.pipeConnected hlink
    rw [hpipe] at hp
    cases hp
  · have hrunning : s.stopRequested = false := ok
    rw [hrunning] at hstop
    cases hstop
  · intro _ hp
    have hpipe : t.pipeConnected = s.pipeConnected := congrArg Link.pipeConnected hlink
    have hgone : s.pipeConnected = false := ok
    rw [hpipe, hgone] at hp
    cases hp

/-- The reader of a port that is imported once runs while the session has the pipe. -/
theorem demuxAlive_of_guardedRun {profile : Profile} {now : Nat} {actions : List Action}
    (run : GuardedRun (step gainOfVolume) firstImport (Server.new profile now) actions t) :
    DemuxAlive t :=
  run.invariant (fun _ _ _ alive ok h => demuxAlive_step alive ok h) (by rintro ⟨⟩)

/-- Nothing starts the reader again. -/
theorem exited_of_run {actions : List Action} (hexited : s.reader = .exited)
    (run : Run (step gainOfVolume) s actions t) : t.reader = .exited := by
  refine run.invariant (I := fun s => s.reader = .exited) ?_ hexited
  intro s a t hexited _ h
  rcases link_step h with hlink | ⟨socket, -, hlink⟩ | ⟨-, hlink⟩ | ⟨-, hlink⟩ |
    ⟨frame, boost, -, hrunning, -⟩ | ⟨-, hrunning, -⟩
  · exact (congrArg Link.reader hlink).trans hexited
  · have hreader : t.reader = _ := congrArg Link.reader hlink
    rw [hreader, hexited, if_neg (by decide)]
  · exact (congrArg Link.reader hlink).trans hexited
  · exact (congrArg Link.reader hlink).trans hexited
  · rw [hexited] at hrunning
    cases hrunning
  · rw [hexited] at hrunning
    cases hrunning

end Runs

section Traces

def inputFrame : Frame := ⟨.usbHidIn, [0x01], by decide⟩

/-- The client attaches, a report arrives, and the client goes away. -/
def firstSession : List Action :=
  [.importSession 5, .readerFrame inputFrame id, .recvFails, .endSession]

theorem guardedRun_reportArrives : ∃ t, GuardedRun (step fun _ => 2 ^ 15) firstImport
    (Server.new .ds5 0) [.importSession 5, .readerFrame inputFrame id] t :=
  ⟨_, .cons rfl rfl (.cons rfl rfl (.nil _))⟩

theorem demuxAlive_reportArrives : ∃ t, GuardedRun (step fun _ => 2 ^ 15) firstImport
    (Server.new .ds5 0) [.importSession 5, .readerFrame inputFrame id] t ∧ DemuxAlive t := by
  obtain ⟨t, run⟩ := guardedRun_reportArrives
  exact ⟨t, run, demuxAlive_of_guardedRun run⟩

/-- The end of the first session fails the reader's read. The second session is
attached over a connected pipe and has no reader. -/
theorem reimport_without_reader : ∃ t, Run (step fun _ => 2 ^ 15) (Server.new .ds5 0)
    (firstSession ++ [.readerFails, .closeSocket, .importSession 6]) t ∧ ¬DemuxAlive t := by
  refine ⟨_, run_of_execute rfl, ?_⟩
  intro alive
  cases alive rfl rfl

end Traces

end VirtualDualSense.UsbIp.PipeReader
