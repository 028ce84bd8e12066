import VirtualDualSense.UsbIp.Session

/-!
# Unlinking submits

After the server has acknowledged an unlink of a sequence number, the client has
forgotten that submit, so no reply to it may follow. The server acknowledges at
once and does not look at the replies it has handed to the pacer. The law holds
in the runs in which there is nothing for it to find there.
-/

namespace VirtualDualSense.UsbIp.Unlink

open Lib.Runs Protocol.Frames Usb.Descriptors Wire CmdSubmit ReplyFraming Session

/-- The log holds an acknowledged unlink of `seqnum` on `connection`. -/
def Unlinked (log : List Sent) (connection : Nat) (seqnum : UInt32) : Prop :=
  ∃ entry ∈ log, entry.connection = connection ∧
    ∃ request, entry.message = .retUnlink request seqnum

/-- The later message answers a submit that the earlier one has unlinked. -/
def AnswersUnlinked (earlier later : Sent) : Prop :=
  earlier.connection = later.connection ∧
    match earlier.message, later.message with
    | .retUnlink _ unlinked, .retSubmit seqnum _ => unlinked = seqnum
    | _, _ => False

instance (earlier later : Sent) : Decidable (AnswersUnlinked earlier later) := by
  unfold AnswersUnlinked
  cases earlier.message <;> cases later.message <;> infer_instance

/-- No submit is answered after its unlink was acknowledged. -/
def UnlinkLaw (log : List Sent) : Prop :=
  log.Pairwise fun earlier later => ¬AnswersUnlinked earlier later

/-- The submits that the session thread has received and not yet passed on. -/
def sessionPending : SessionPc → List UInt32
  | .waiting cmd _ => [cmd.base.seqnum]
  | .sending cmd _ => [cmd.base.seqnum]
  | _ => []

/-- The replies that the pacer still has to send. -/
def pacerPending (s : Server) : List UInt32 :=
  (s.pacer.toList ++ s.pacedReplies.map Prod.snd).map (·.cmd.base.seqnum)

/-- The condition on the environment: a submit is unlinked only when the pacer
has no reply to it left, and an unlinked number is not submitted again. -/
def UnlinkGuard (s : Server) : Action → Prop
  | .recv cmd _ _ _ =>
      (cmd.base.command = kCmdUnlink → cmd.transferFlags ∉ pacerPending s) ∧
        (cmd.base.command = kCmdSubmit → ∀ connection, s.connection = some connection →
          ¬Unlinked s.sent connection.id cmd.base.seqnum)
  | _ => True

/-- The submits that have a reply to come. -/
def pending (s : Server) : List UInt32 := sessionPending s.session ++ pacerPending s

/-- What the law needs of a state. -/
structure Inv (s : Server) : Prop where
  old : ∀ entry ∈ s.sent, entry.connection < s.nextConnection
  current : ∀ connection, s.connection = some connection → connection.id < s.nextConnection
  open_ : ∀ connection, s.connection = some connection →
    ∀ seqnum ∈ pending s, ¬Unlinked s.sent connection.id seqnum
  unlinking : ∀ seqnum unlinked, s.session = .unlinking seqnum unlinked →
    unlinked ∉ pacerPending s
  law : UnlinkLaw s.sent

theorem mem_pacerPending {s : Server} {seqnum : UInt32} :
    seqnum ∈ pacerPending s ↔
      (∃ held, s.pacer = some held ∧ held.cmd.base.seqnum = seqnum) ∨
        ∃ entry ∈ s.pacedReplies, entry.2.cmd.base.seqnum = seqnum := by
  simp only [pacerPending, List.map_append, List.map_map, List.mem_append, List.mem_map,
    Option.mem_toList, Function.comp_apply]

section Log

theorem not_unlinked_append {log : List Sent} {connection : Nat} {seqnum : UInt32} {entry : Sent}
    (h : ¬Unlinked log connection seqnum)
    (hentry : ∀ request, entry.message ≠ .retUnlink request seqnum) :
    ¬Unlinked (log ++ [entry]) connection seqnum := by
  rintro ⟨found, hmem, hconnection, request, hmessage⟩
  rcases List.mem_append.mp hmem with hold | hnew
  · exact h ⟨found, hold, hconnection, request, hmessage⟩
  · obtain rfl := List.mem_singleton.mp hnew
    exact hentry request hmessage

/-- A reply keeps the law if its submit was not unlinked. -/
theorem UnlinkLaw.retSubmit {log : List Sent} (h : UnlinkLaw log) {connection : Nat}
    {seqnum : UInt32} (bytes : List UInt8) (hopen : ¬Unlinked log connection seqnum) :
    UnlinkLaw (log ++ [⟨connection, .retSubmit seqnum bytes⟩]) := by
  refine List.pairwise_append.mpr ⟨h, List.pairwise_singleton _ _, ?_⟩
  intro earlier hearlier later hlater hanswers
  obtain rfl := List.mem_singleton.mp hlater
  obtain ⟨hconnection, hmessage⟩ := hanswers
  cases hearlier' : earlier.message with
  | retSubmit number sent => simp [hearlier'] at hmessage
  | retUnlink request unlinked =>
      simp only [hearlier'] at hmessage
      exact hopen ⟨earlier, hearlier, hconnection, request, by rw [hearlier', hmessage]⟩

/-- An acknowledgement answers no submit. -/
theorem UnlinkLaw.retUnlink {log : List Sent} (h : UnlinkLaw log) (connection : Nat)
    (seqnum unlinked : UInt32) :
    UnlinkLaw (log ++ [⟨connection, .retUnlink seqnum unlinked⟩]) := by
  refine List.pairwise_append.mpr ⟨h, List.pairwise_singleton _ _, ?_⟩
  intro earlier hearlier later hlater hanswers
  obtain rfl := List.mem_singleton.mp hlater
  obtain ⟨-, hmessage⟩ := hanswers
  cases hearlier' : earlier.message <;> simp [hearlier'] at hmessage

end Log

namespace Inv

variable {s t : Server}

/-- A step that sends nothing and adds nothing to what is pending. -/
theorem quiet (inv : Inv s) (hsent : t.sent = s.sent) (hconnection : t.connection = s.connection)
    (hnext : t.nextConnection = s.nextConnection) (hpending : ∀ n ∈ pending t, n ∈ pending s)
    (hunlinking : ∀ seqnum unlinked, t.session = .unlinking seqnum unlinked →
      unlinked ∉ pacerPending t) : Inv t where
  old := by rw [hsent, hnext]; exact inv.old
  current := by rw [hconnection, hnext]; exact inv.current
  open_ := by
    intro connection hconn seqnum hmem
    rw [hsent]
    exact inv.open_ connection (hconnection ▸ hconn) seqnum (hpending seqnum hmem)
  unlinking := hunlinking
  law := by rw [hsent]; exact inv.law

/-- A step that sends the reply to a pending submit. -/
theorem sends (inv : Inv s) {connection : Connection} {seqnum : UInt32} {bytes : List UInt8}
    (hconn : s.connection = some connection) (hmem : seqnum ∈ pending s)
    (hsent : t.sent = s.sent ++ [⟨connection.id, .retSubmit seqnum bytes⟩])
    (hconnection : t.connection = s.connection) (hnext : t.nextConnection = s.nextConnection)
    (hpending : ∀ n ∈ pending t, n ∈ pending s)
    (hunlinking : ∀ seqnum unlinked, t.session = .unlinking seqnum unlinked →
      unlinked ∉ pacerPending t) : Inv t where
  old := by
    intro entry hentry
    rw [hsent] at hentry
    rw [hnext]
    rcases List.mem_append.mp hentry with hold | hnew
    · exact inv.old entry hold
    · obtain rfl := List.mem_singleton.mp hnew
      exact inv.current connection hconn
  current := by rw [hconnection, hnext]; exact inv.current
  open_ := by
    intro other hother number hnumber
    rw [hsent]
    refine not_unlinked_append (inv.open_ other (hconnection ▸ hother) number
      (hpending number hnumber)) ?_
    intro request hmessage
    cases hmessage
  unlinking := hunlinking
  law := by
    rw [hsent]
    exact inv.law.retSubmit bytes (inv.open_ connection hconn seqnum hmem)

/-- What is pending depends on the session thread and the pacer only. -/
theorem keeps (inv : Inv s) (hsent : t.sent = s.sent) (hconnection : t.connection = s.connection)
    (hnext : t.nextConnection = s.nextConnection) (hsession : t.session = s.session)
    (hpacer : t.pacer = s.pacer) (hqueue : t.pacedReplies = s.pacedReplies) : Inv t := by
  have hpending : pacerPending t = pacerPending s := by
    rw [pacerPending, pacerPending, hpacer, hqueue]
  refine inv.quiet hsent hconnection hnext ?_ ?_
  · rw [pending, pending, hsession, hpending]
    exact fun _ hn => hn
  · rw [hsession, hpending]
    exact inv.unlinking

variable {gainOfVolume : Int → Int}

theorem recvPdu (inv : Inv s) {cmd : UsbipCmdSubmit} {outData : List UInt8}
    {iso : List UsbipIsoPacketDescriptor} {written : Bool}
    (ok : UnlinkGuard s (.recv cmd outData iso written))
    (h : recvPdu gainOfVolume s cmd outData iso written = some t) : Inv t := by
  obtain ⟨hready, hcases⟩ := recvPdu_cases h
  have hpending : pending s = pacerPending s := by rw [pending, hready]; rfl
  rcases hcases with ⟨hunlink, rfl⟩ | ⟨port, -, rfl⟩ | ⟨hsubmit, -, frames, -, rfl⟩
  · refine inv.quiet rfl rfl rfl (fun n hn => by rw [hpending]; exact hn) ?_
    rintro seqnum unlinked hsession
    cases hsession
    exact ok.1 hunlink
  · exact inv.quiet rfl rfl rfl (fun n hn => by rw [hpending]; exact hn) (by simp)
  · refine ⟨inv.old, inv.current, ?_, by simp, inv.law⟩
    -- the new submit is pending, and the environment has not unlinked it
    intro connection hconnection seqnum hmem
    rcases List.mem_cons.mp hmem with rfl | hold
    · exact ok.2 hsubmit connection hconnection
    · exact inv.open_ connection hconnection seqnum (by rw [hpending]; exact hold)

theorem endWait (inv : Inv s) (h : endWait s = some t) : Inv t := by
  obtain ⟨cmd, iso, hwaiting, hcases⟩ := endWait_cases h
  rcases hcases with ⟨_, -, rfl⟩ | ⟨reply, -, rfl⟩
  · exact inv.quiet rfl rfl rfl (fun n hn => List.mem_append_right _ hn) (by simp)
  · refine inv.quiet rfl rfl rfl ?_ (by simp)
    intro n hn
    rw [pending, hwaiting]
    exact hn

theorem mem_emplace {due : Nat} {reply : PacedReply} {queue : List (Nat × PacedReply)}
    {entry : Nat × PacedReply} (h : entry ∈ emplace due reply queue) :
    entry = (due, reply) ∨ entry ∈ queue := by
  induction queue with
  | nil => exact .inl (List.mem_singleton.mp h)
  | cons first rest ih =>
      unfold emplace at h
      split at h
      · rcases List.mem_cons.mp h with rfl | hrest
        · exact .inr (List.mem_cons_self ..)
        · exact (ih hrest).imp_right (List.mem_cons_of_mem _)
      · exact List.mem_cons.mp h

theorem sendReply (inv : Inv s) {accepted : Bool} (h : sendReply s accepted = some t) :
    Inv t := by
  obtain ⟨cmd, reply, connection, hsending, hconnection, hcases⟩ := sendReply_cases h
  have hpending : pending s = cmd.base.seqnum :: pacerPending s := by rw [pending, hsending]; rfl
  rcases hcases with ⟨-, rfl⟩ | ⟨-, rfl⟩ | rfl
  · refine inv.quiet rfl rfl rfl ?_ (by simp [pace])
    -- the reply moves from the session thread to the pacer's queue
    intro n hn
    rw [hpending]
    rcases mem_pacerPending.mp hn with hheld | ⟨entry, hentry, rfl⟩
    · exact List.mem_cons_of_mem _ (mem_pacerPending.mpr (.inl hheld))
    · rcases mem_emplace hentry with rfl | hold
      · exact List.mem_cons_self ..
      · exact List.mem_cons_of_mem _ (mem_pacerPending.mpr (.inr ⟨entry, hold, rfl⟩))
  · exact inv.sends hconnection (by rw [hpending]; exact List.mem_cons_self ..) rfl rfl rfl
      (fun n hn => List.mem_append_right _ hn) (by simp)
  · exact inv.quiet rfl rfl rfl (fun n hn => List.mem_append_right _ hn) (by simp)

theorem sendUnlink (inv : Inv s) {accepted : Bool} (h : sendUnlink s accepted = some t) :
    Inv t := by
  obtain ⟨seqnum, unlinked, hunlinking, hcases⟩ := sendUnlink_cases h
  have hpending : pending s = pacerPending s := by rw [pending, hunlinking]; rfl
  rcases hcases with rfl | ⟨connection, hconnection, rfl⟩
  · exact inv.quiet rfl rfl rfl (fun n hn => by rw [hpending]; exact hn) (by simp)
  · refine ⟨?_, inv.current, ?_, by simp, inv.law.retUnlink _ _ _⟩
    · intro entry hentry
      rcases List.mem_append.mp hentry with hold | hnew
      · exact inv.old entry hold
      · obtain rfl := List.mem_singleton.mp hnew
        exact inv.current connection hconnection
    · intro other hother number hnumber
      refine not_unlinked_append (inv.open_ other hother number (by rw [hpending]; exact hnumber))
        ?_
      rintro request hmessage
      cases hmessage
      exact inv.unlinking seqnum unlinked hunlinking hnumber

theorem importSession (inv : Inv s) {socket : Nat} (h : importSession s socket = some t) :
    Inv t := by
  unfold Session.importSession at h
  split at h
  · obtain rfl := Option.some.inj h
    refine ⟨fun entry hentry => Nat.lt_succ_of_lt (inv.old entry hentry), ?_, ?_, by simp, inv.law⟩
    · rintro connection ⟨⟩
      exact Nat.lt_succ_self _
    · -- the new connection has no messages yet
      rintro connection ⟨⟩ seqnum - ⟨entry, hentry, hsame, -⟩
      exact Nat.lt_irrefl _ (hsame ▸ inv.old entry hentry)
  · cases h

theorem endSession (inv : Inv s) (h : endSession s = some t) : Inv t := by
  unfold Session.endSession at h
  split at h
  · obtain rfl := Option.some.inj h
    refine inv.quiet rfl rfl rfl ?_ (by simp)
    intro n hn
    rcases mem_pacerPending.mp hn with hheld | ⟨entry, hentry, -⟩
    · exact List.mem_append_right _ (mem_pacerPending.mpr (.inl hheld))
    · cases hentry
  · cases h

theorem closeSocket (inv : Inv s) (h : closeSocket s = some t) : Inv t := by
  unfold Session.closeSocket at h
  split at h
  · obtain rfl := Option.some.inj h
    exact ⟨inv.old, by simp, by simp, by simp, inv.law⟩
  · cases h

theorem recvFails (inv : Inv s) (h : recvFails s = some t) : Inv t := by
  unfold Session.recvFails at h
  split at h
  · obtain rfl := Option.some.inj h
    exact inv.quiet rfl rfl rfl (fun n hn => List.mem_append_right _ hn) (by simp)
  · cases h

theorem pacerTakes (inv : Inv s) (h : pacerTakes s = some t) : Inv t := by
  obtain ⟨due, reply, rest, hnone, hqueue, -, rfl⟩ := pacerTakes_cases h
  have hpending : pacerPending { s with pacer := some reply, pacedReplies := rest } =
      pacerPending s := by
    simp [pacerPending, hnone, hqueue]
  refine inv.quiet rfl rfl rfl ?_ ?_
  · intro n hn
    rw [pending, hpending] at hn
    exact hn
  · rw [hpending]
    exact inv.unlinking

theorem pacerSends (inv : Inv s) {accepted : Bool} (h : pacerSends s accepted = some t) :
    Inv t := by
  obtain ⟨paced, hpaced, hcases⟩ := pacerSends_cases h
  have hsub (sent : List Sent) : ∀ n ∈ pacerPending { s with pacer := none, sent := sent },
      n ∈ pacerPending s := by
    intro n hn
    rcases mem_pacerPending.mp hn with ⟨held, hheld, -⟩ | hqueued
    · cases hheld
    · exact mem_pacerPending.mpr (.inr hqueued)
  have hpending (sent : List Sent) : ∀ n ∈ pending { s with pacer := none, sent := sent },
      n ∈ pending s := by
    intro n hn
    rcases List.mem_append.mp hn with hsession | hpacer
    · exact List.mem_append_left _ hsession
    · exact List.mem_append_right _ (hsub sent n hpacer)
  rcases hcases with rfl | ⟨connection, hconnection, -, rfl⟩
  · exact inv.quiet rfl rfl rfl (hpending _)
      fun seqnum unlinked hsession hmem => inv.unlinking seqnum unlinked hsession (hsub _ _ hmem)
  · have hmem : paced.cmd.base.seqnum ∈ pending s :=
      List.mem_append_right _ (mem_pacerPending.mpr (.inl ⟨paced, hpaced, rfl⟩))
    exact inv.sends hconnection hmem rfl rfl rfl (hpending _)
      fun seqnum unlinked hsession hmem => inv.unlinking seqnum unlinked hsession (hsub _ _ hmem)

theorem readerFrame (inv : Inv s) {frame : Frame} {boost : Int16 → Int16}
    (h : readerFrame s frame boost = some t) : Inv t := by
  rcases readerFrame_cases h with rfl | rfl
  · exact inv.keeps rfl rfl rfl rfl rfl rfl
  · exact inv.keeps rfl rfl rfl rfl rfl rfl

theorem readerFails (inv : Inv s) (h : readerFails s = some t) : Inv t := by
  unfold Session.readerFails at h
  split_ifs at h
  obtain rfl := Option.some.inj h
  exact inv.keeps rfl rfl rfl rfl rfl rfl

/-- Every step of a guarded environment keeps the invariant. -/
theorem step {a : Action} (inv : Inv s) (ok : UnlinkGuard s a)
    (h : step gainOfVolume s a = some t) : Inv t := by
  cases a with
  | tick elapsed =>
      obtain rfl := Option.some.inj h
      exact inv.keeps rfl rfl rfl rfl rfl rfl
  | stop =>
      obtain rfl := Option.some.inj h
      exact inv.keeps rfl rfl rfl rfl rfl rfl
  | daemonCloses =>
      obtain rfl := Option.some.inj h
      exact inv.keeps rfl rfl rfl rfl rfl rfl
  | importSession socket => exact inv.importSession h
  | recv cmd outData iso written => exact inv.recvPdu ok h
  | recvFails => exact inv.recvFails h
  | endWait => exact inv.endWait h
  | sendReply accepted => exact inv.sendReply h
  | sendUnlink accepted => exact inv.sendUnlink h
  | endSession => exact inv.endSession h
  | closeSocket => exact inv.closeSocket h
  | pacerTakes => exact inv.pacerTakes h
  | pacerSends accepted => exact inv.pacerSends h
  | readerFrame frame boost => exact inv.readerFrame h
  | readerFails => exact inv.readerFails h

theorem new (profile : Profile) (now : Nat) : Inv (Server.new profile now) where
  old := by simp [Server.new]
  current := by simp [Server.new]
  open_ := by simp [Server.new]
  unlinking := by simp [Server.new]
  law := List.Pairwise.nil

end Inv

/-- If no unlink meets a reply that the pacer still has, and no unlinked number
is submitted again, then no submit is answered after its unlink. -/
theorem unlinkLaw_of_guardedRun {gainOfVolume : Int → Int} {profile : Profile} {now : Nat}
    {actions : List Action} {t : Server}
    (run : GuardedRun (step gainOfVolume) UnlinkGuard (Server.new profile now) actions t) :
    UnlinkLaw t.sent :=
  (run.invariant (fun _ _ _ inv ok h => inv.step ok h) (Inv.new profile now)).law

section Traces

/-- An isochronous speaker submit of one 8-byte packet, with sequence number 1. -/
def speakerSubmit : UsbipCmdSubmit :=
  { base := ⟨kCmdSubmit, 1, 0x10001, kDirOut, kEpAudioOut⟩
    transferFlags := 0
    transferBufferLength := 8
    numberOfPackets := 1
    setup := Vector.replicate 8 0 }

/-- The unlink of that submit, with sequence number 2. -/
def speakerUnlink : UsbipCmdSubmit :=
  { speakerSubmit with base := ⟨kCmdUnlink, 2, 0x10001, kDirOut, kEpAudioOut⟩, transferFlags := 1 }

/-- The submit is handled and its reply waits for the pacer. -/
def speakerTrace : List Action :=
  [.importSession 5, .recv speakerSubmit (List.replicate 8 0) [⟨0, 8, 0, 0⟩] true, .endWait,
    .sendReply true]

def unlinkTrace : List Action :=
  [.recv speakerUnlink [] [] true, .sendUnlink true]

theorem guardedRun_paced_then_unlinked : ∃ t,
    GuardedRun (step fun _ => 2 ^ 15) UnlinkGuard (Server.new .ds5 1)
      (speakerTrace ++ [.pacerTakes, .pacerSends true] ++ unlinkTrace) t := by
  refine ⟨_, .cons trivial rfl (.cons ⟨by decide, ?_⟩ rfl (.cons trivial rfl (.cons trivial rfl
    (.cons trivial rfl (.cons trivial rfl (.cons ⟨?_, fun h => absurd h (by decide)⟩ rfl
      (.cons trivial rfl (.nil _))))))))⟩
  · rintro - connection - ⟨entry, hentry, -⟩
    cases hentry
  · intro _
    decide

theorem unlinkLaw_paced_then_unlinked : ∃ t,
    GuardedRun (step fun _ => 2 ^ 15) UnlinkGuard (Server.new .ds5 1)
      (speakerTrace ++ [.pacerTakes, .pacerSends true] ++ unlinkTrace) t ∧ UnlinkLaw t.sent := by
  obtain ⟨t, run⟩ := guardedRun_paced_then_unlinked
  exact ⟨t, run, unlinkLaw_of_guardedRun run⟩

/-- The server acknowledges the unlink while the reply waits for the pacer, which
sends it afterwards. -/
theorem unlinkLaw_violated : ∃ t,
    Run (step fun _ => 2 ^ 15) (Server.new .ds5 1)
      (speakerTrace ++ unlinkTrace ++ [.pacerTakes, .pacerSends true]) t ∧ ¬UnlinkLaw t.sent := by
  refine ⟨_, run_of_execute rfl, ?_⟩
  unfold UnlinkLaw
  decide

end Traces

end VirtualDualSense.UsbIp.Unlink
