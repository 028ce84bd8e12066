import VirtualDualSense.UsbIp.Session
import VirtualDualSense.Lib.DueQueue

/-!
# Pacing of the isochronous replies

Each direction has an anchor: the time at which all audio of its earlier replies has
been played. A reply is due at its anchor, and the pacer picks the earliest reply
that is due. The paced replies of a session are followed from the submit to the send.
-/

namespace VirtualDualSense.UsbIp.IsoPacing

open Lib.Runs Lib.DueQueue Usb.Descriptors Wire CmdSubmit ReplyFraming Session

/-- A paced reply with its place among the paced replies of the session. -/
structure Entry where
  index : Nat
  out : Bool
  due : Nat
  packets : Nat
  reply : PacedReply

/-- The pacer picks an entry while others are queued. -/
structure Pick where
  entry : Entry
  others : List Entry

/-- The pacer hands a reply to the socket. -/
structure Send where
  entry : Entry
  reply : PacedReply
  time : Nat

/-- The server with the paced replies of the current session: all that were submitted, the
queued ones, the one that the pacer holds, and the picks and sends so far. -/
structure Traced where
  server : Server
  submitted : List Entry
  queue : List Entry
  holding : Option Entry
  picks : List Pick
  sends : List Send

def Traced.new (server : Server) : Traced := ⟨server, [], [], none, [], []⟩

def Entry.duration (entry : Entry) : Nat := milliseconds entry.packets

/-- `iso_out_next_due` or `iso_in_next_due`. -/
def anchor (s : Server) (out : Bool) : Nat := if out then s.isoOutNextDue else s.isoInNextDue

/-- The entry of a submit that is about to be handed to the pacer. -/
def entryOf (t : Traced) (client : Nat) (cmd : UsbipCmdSubmit) (reply : SubmitReply) : Entry where
  index := t.submitted.length
  out := paceOut cmd
  due := dueOf (anchor t.server (paceOut cmd)) t.server.now
  packets := cmd.numberOfPackets.toInt.toNat
  reply := ⟨client, cmd, reply⟩

def noteSendReply (t : Traced) (next : Server) : Traced :=
  match t.server.session, t.server.connection with
  | .sending cmd reply, some connection =>
      if paceOut cmd || paceIn cmd then
        let entry := entryOf t connection.socket cmd reply
        { t with
          server := next
          submitted := t.submitted ++ [entry]
          queue := insertDue Entry.due entry t.queue }
      else { t with server := next }
  | _, _ => { t with server := next }

def notePacerTakes (t : Traced) (next : Server) : Traced :=
  match t.queue with
  | [] => { t with server := next }
  | entry :: others =>
      { t with
        server := next
        queue := others
        holding := some entry
        picks := t.picks ++ [⟨entry, others⟩] }

/-- A reply that is left from an earlier session is not the session's. -/
def notePacerSends (t : Traced) (next : Server) : Traced :=
  match t.holding, t.server.pacer with
  | some entry, some reply =>
      { t with
        server := next
        holding := none
        sends := t.sends ++ [⟨entry, reply, t.server.now⟩] }
  | _, _ => { t with server := next }

def note (t : Traced) (action : Action) (next : Server) : Traced :=
  match action with
  | .importSession _ => .new next
  | .sendReply _ => noteSendReply t next
  | .pacerTakes => notePacerTakes t next
  | .pacerSends _ => notePacerSends t next
  | .endSession => { t with server := next, queue := [] }
  | _ => { t with server := next }

def step (gainOfVolume : Int → Int) (t : Traced) (action : Action) : Option Traced :=
  (Session.step gainOfVolume t.server action).map (note t action)

/-- The paced submits of one direction. -/
def Traced.ofDirection (t : Traced) (out : Bool) : List Entry :=
  t.submitted.filter fun entry => entry.out = out

/-- The pacing of a session. -/
structure Paced (t : Traced) : Prop where
  queued : t.server.pacedReplies = t.queue.map fun entry => (entry.due, entry.reply)
  increasing : ∀ out, (t.ofDirection out).Pairwise fun a b => a.due < b.due
  realTime : ∀ out k first last, (t.ofDirection out).head? = some first →
    (t.ofDirection out)[k]? = some last →
    first.due + (((t.ofDirection out).take k).map Entry.duration).sum ≤ last.due
  inOrder : ∀ out, ((t.sends.map Send.entry).filter fun entry => entry.out = out).Sublist
    (t.ofDirection out)
  once : (t.sends.map fun send => send.entry.index).Nodup
  notEarly : ∀ send ∈ t.sends, send.reply = send.entry.reply ∧ send.entry.due ≤ send.time
  earliest : ∀ pick ∈ t.picks, ∀ other ∈ pick.others, pick.entry.due ≤ other.due

/-- No submit is under way and none can be made. -/
def quiet : SessionPc → Bool
  | .idle => true
  | .closed => true
  | _ => false

/-- The session's entries that left the queue or are still in it. -/
def Traced.places (t : Traced) : List Entry :=
  t.sends.map Send.entry ++ t.holding.toList ++ t.queue

structure Inv (t : Traced) : Prop where
  queued : t.server.pacedReplies = t.queue.map fun entry => (entry.due, entry.reply)
  quiet : quiet t.server.session = true →
    t.queue = [] ∧ t.server.isoOutNextDue = 0 ∧ t.server.isoInNextDue = 0
  spaced : ∀ out, Spaced Entry.due Entry.duration (t.ofDirection out)
  packets : ∀ entry ∈ t.submitted, 0 < entry.packets
  anchored : IsoPacing.quiet t.server.session = false → ∀ entry ∈ t.submitted,
    entry.due + entry.duration ≤ anchor t.server entry.out
  sorted : t.queue.Pairwise fun a b => a.due ≤ b.due
  placed : ∀ out, (t.places.filter fun entry => entry.out = out).Sublist (t.ofDirection out)
  distinct : (t.places.map Entry.index).Nodup
  index_lt : ∀ entry ∈ t.places, entry.index < t.submitted.length
  held : ∀ entry ∈ t.holding, t.server.pacer = some entry.reply ∧ entry.due ≤ t.server.now
  sent : ∀ send ∈ t.sends, send.reply = send.entry.reply ∧ send.entry.due ≤ send.time
  picked : ∀ pick ∈ t.picks, ∀ other ∈ pick.others, pick.entry.due ≤ other.due

section Due

/-- The entries are inserted as the multimap inserts their replies. -/
theorem map_insertDue (entry : Entry) (queue : List Entry) :
    (insertDue Entry.due entry queue).map (fun entry => (entry.due, entry.reply)) =
      emplace entry.due entry.reply (queue.map fun entry => (entry.due, entry.reply)) := by
  induction queue with
  | nil => rfl
  | cons first rest ih =>
      rw [insertDue, List.map_cons, emplace]
      split
      · rw [List.map_cons, ih]
      · rfl

/-- A due time is never before the anchor. -/
theorem anchor_le_dueOf (anchor now : Nat) : anchor ≤ dueOf anchor now := by
  unfold dueOf
  split
  · rename_i h
    rcases h with rfl | h
    · exact Nat.zero_le now
    · exact (Nat.le_add_right _ _).trans h.le
  · exact le_rfl

/-- Only submits with packets are paced. -/
theorem packets_pos_of_paced {cmd : UsbipCmdSubmit} (h : (paceOut cmd || paceIn cmd) = true) :
    0 < cmd.numberOfPackets.toInt.toNat := by
  have hpackets : 0 < cmd.numberOfPackets := by
    rcases Bool.or_eq_true_iff.mp h with h | h
    · exact (of_decide_eq_true h).2.2
    · exact (of_decide_eq_true h).2.2
  have hint : (0 : Int32).toInt < cmd.numberOfPackets.toInt := Int32.lt_iff_toInt_lt.mp hpackets
  rw [Int32.toInt_zero] at hint
  omega

/-- A paced submit moves the anchor of its own direction only. -/
theorem anchor_pace (s : Server) (client : Nat) (cmd : UsbipCmdSubmit) (reply : SubmitReply)
    (out : Bool) :
    anchor (pace s client cmd reply) out =
      if out = paceOut cmd then
        dueOf (anchor s (paceOut cmd)) s.now + milliseconds cmd.numberOfPackets.toInt.toNat
      else anchor s out := by
  cases hout : paceOut cmd <;> cases out <;> simp [anchor, pace, hout]

end Due

namespace Inv

variable {t : Traced} {next : Server}

theorem new {server : Server} (hqueue : server.pacedReplies = [])
    (hquiet : IsoPacing.quiet server.session = true →
      server.isoOutNextDue = 0 ∧ server.isoInNextDue = 0) : Inv (.new server) where
  queued := hqueue
  quiet := fun h => ⟨rfl, hquiet h⟩
  spaced := fun _ => List.Pairwise.nil
  packets := by simp [Traced.new]
  anchored := by simp [Traced.new]
  sorted := List.Pairwise.nil
  placed := fun _ => List.Sublist.refl _
  distinct := List.nodup_nil
  index_lt := by simp [Traced.new, Traced.places]
  held := by simp [Traced.new]
  sent := by simp [Traced.new]
  picked := by simp [Traced.new]

/-- A step that leaves the pacer and the anchors alone. -/
theorem keeps (inv : Inv t) (hqueue : next.pacedReplies = t.server.pacedReplies)
    (hout : next.isoOutNextDue = t.server.isoOutNextDue)
    (hin : next.isoInNextDue = t.server.isoInNextDue) (hpacer : next.pacer = t.server.pacer)
    (hnow : t.server.now ≤ next.now)
    (hquiet : IsoPacing.quiet next.session = IsoPacing.quiet t.server.session) :
    Inv { t with server := next } where
  queued := hqueue.trans inv.queued
  quiet := by
    intro h
    rw [hout, hin]
    exact inv.quiet (hquiet ▸ h)
  spaced := inv.spaced
  packets := inv.packets
  anchored := by
    intro h entry hentry
    have hanchor : anchor next entry.out = anchor t.server entry.out := by
      rw [anchor, anchor, hout, hin]
    rw [hanchor]
    exact inv.anchored (hquiet ▸ h) entry hentry
  sorted := inv.sorted
  placed := inv.placed
  distinct := inv.distinct
  index_lt := inv.index_lt
  held := by
    intro entry hentry
    obtain ⟨hheld, hdue⟩ := inv.held entry hentry
    exact ⟨hpacer.trans hheld, hdue.trans hnow⟩
  sent := inv.sent
  picked := inv.picked

/-- A paced submit of the session thread. -/
theorem paces (inv : Inv t) {client : Nat} {cmd : UsbipCmdSubmit} {reply : SubmitReply}
    (hpaced : (paceOut cmd || paceIn cmd) = true)
    (hbusy : IsoPacing.quiet t.server.session = false) :
    Inv { t with
      server := pace t.server client cmd reply
      submitted := t.submitted ++ [entryOf t client cmd reply]
      queue := insertDue Entry.due (entryOf t client cmd reply) t.queue } := by
  set entry := entryOf t client cmd reply with hentry
  have hanchor : anchor t.server entry.out ≤ entry.due := anchor_le_dueOf _ _
  have hearlier : ∀ other ∈ t.submitted, other.out = entry.out →
      other.due + other.duration ≤ entry.due := by
    intro other hother hout
    have hdone := inv.anchored hbusy other hother
    rw [hout] at hdone
    exact hdone.trans hanchor
  have hqueue : ∀ other ∈ t.queue, other.out = entry.out → other.due ≤ entry.due := by
    intro other hother hout
    have hplaced : other ∈ t.places.filter fun other => other.out = entry.out :=
      List.mem_filter.mpr ⟨List.mem_append_right _ hother, decide_eq_true hout⟩
    have hsubmitted := (inv.placed entry.out).subset hplaced
    have hle := hearlier other (List.mem_filter.mp hsubmitted).1 hout
    omega
  have hplaces : (t.sends.map Send.entry ++ t.holding.toList ++
      insertDue Entry.due entry t.queue).Perm (entry :: t.places) := by
    refine (perm_insertDue.append_left _).trans ?_
    exact List.perm_middle
  refine
    { queued := ?_
      quiet := ?_
      spaced := ?_
      packets := ?_
      anchored := ?_
      sorted := pairwise_insertDue inv.sorted
      placed := ?_
      distinct := ?_
      index_lt := ?_
      held := inv.held
      sent := inv.sent
      picked := inv.picked }
  · rw [map_insertDue, ← inv.queued]
    rfl
  · intro h
    cases h
  · intro out
    rw [Traced.ofDirection, List.filter_append]
    by_cases hout : entry.out = out
    · rw [List.filter_cons_of_pos (by simpa using hout), List.filter_nil]
      apply (inv.spaced out).append
      intro other hother
      obtain ⟨hmem, hsame⟩ := List.mem_filter.mp hother
      exact hearlier other hmem ((of_decide_eq_true hsame).trans hout.symm)
    · rw [List.filter_cons_of_neg (by simpa using hout), List.filter_nil, List.append_nil]
      exact inv.spaced out
  · intro other hother
    rcases List.mem_append.mp hother with hold | hnew
    · exact inv.packets other hold
    · obtain rfl := List.mem_singleton.mp hnew
      exact packets_pos_of_paced hpaced
  · intro _ other hother
    rw [anchor_pace]
    rcases List.mem_append.mp hother with hold | hnew
    · split
      · rename_i hout
        have hle := hearlier other hold hout
        exact hle.trans (Nat.le_add_right _ _)
      · exact inv.anchored hbusy other hold
    · obtain rfl := List.mem_singleton.mp hnew
      rw [if_pos (show entry.out = paceOut cmd from rfl)]
      exact le_rfl
  · intro out
    simp only [Traced.places, Traced.ofDirection, List.filter_append]
    by_cases hout : entry.out = out
    · -- the entry goes behind the queued ones of its direction
      rw [filter_insertDue (by simpa using hout) inv.sorted fun other hother hp =>
        hqueue other hother ((of_decide_eq_true hp).trans hout.symm), ← List.append_assoc]
      have hplaced := inv.placed out
      rw [Traced.places, List.filter_append, List.filter_append] at hplaced
      rw [List.filter_cons_of_pos (by simpa using hout), List.filter_nil]
      exact hplaced.append (List.Sublist.refl _)
    · rw [filter_insertDue_of_neg (by simpa using hout),
        List.filter_cons_of_neg (by simpa using hout), List.filter_nil, List.append_nil]
      have hplaced := inv.placed out
      rw [Traced.places, List.filter_append, List.filter_append] at hplaced
      exact hplaced
  · have hperm := hplaces.map Entry.index
    apply hperm.nodup_iff.mpr
    rw [List.map_cons]
    refine List.nodup_cons.mpr ⟨?_, inv.distinct⟩
    intro hmem
    obtain ⟨other, hother, hindex⟩ := List.mem_map.mp hmem
    have hlt := inv.index_lt other hother
    rw [hindex] at hlt
    exact Nat.lt_irrefl _ hlt
  · intro other hother
    rw [List.length_append, List.length_singleton]
    rcases List.mem_cons.mp (hplaces.mem_iff.mp hother) with rfl | hold
    · exact Nat.lt_succ_self _
    · exact Nat.lt_succ_of_lt (inv.index_lt other hold)

theorem sendReply (inv : Inv t) {accepted : Bool}
    (h : Session.sendReply t.server accepted = some next) : Inv (noteSendReply t next) := by
  obtain ⟨cmd, reply, connection, hsending, hconnection, hcases⟩ := sendReply_cases h
  have hbusy : IsoPacing.quiet t.server.session = false := by
    rw [hsending]
    rfl
  simp only [noteSendReply, hsending, hconnection]
  split
  · rename_i hpaced
    simp only [Session.sendReply, hsending, hconnection, hpaced, if_true] at h
    obtain rfl := Option.some.inj h
    exact inv.paces hpaced hbusy
  · rename_i hdirect
    rcases hcases with ⟨hpaced, -⟩ | ⟨-, rfl⟩ | rfl
    · exact absurd hpaced hdirect
    · exact inv.keeps rfl rfl rfl rfl le_rfl (by rw [hbusy]; rfl)
    · exact inv.keeps rfl rfl rfl rfl le_rfl (by rw [hbusy]; rfl)

theorem pacerTakes (inv : Inv t) (h : Session.pacerTakes t.server = some next) :
    Inv (notePacerTakes t next) := by
  obtain ⟨due, reply, rest, hnone, hqueue, hdue, rfl⟩ := pacerTakes_cases h
  have hheld : t.holding = none := by
    cases hholding : t.holding with
    | none => rfl
    | some entry =>
        obtain ⟨hpacer, -⟩ := inv.held entry hholding
        rw [hnone] at hpacer
        cases hpacer
  cases hentries : t.queue with
  | nil =>
      have hqueued := inv.queued
      rw [hqueue, hentries] at hqueued
      cases hqueued
  | cons entry others =>
      have hqueued := inv.queued
      rw [hqueue, hentries, List.map_cons] at hqueued
      obtain ⟨hfirst, hrest⟩ := List.cons.inj hqueued
      obtain ⟨rfl, rfl⟩ := Prod.mk.inj hfirst
      have hsorted := inv.sorted
      rw [hentries] at hsorted
      obtain ⟨hearliest, hothers⟩ := List.pairwise_cons.mp hsorted
      have hplaces : t.sends.map Send.entry ++ [entry] ++ others = t.places := by
        rw [Traced.places, hheld, hentries, Option.toList_none, List.append_nil,
          List.append_assoc]
        rfl
      simp only [notePacerTakes, hentries]
      refine
        { queued := hrest
          quiet := ?_
          spaced := inv.spaced
          packets := inv.packets
          anchored := inv.anchored
          sorted := hothers
          placed := ?_
          distinct := ?_
          index_lt := ?_
          held := ?_
          sent := inv.sent
          picked := ?_ }
      · intro hquiet
        obtain ⟨hempty, -⟩ := inv.quiet hquiet
        rw [hentries] at hempty
        cases hempty
      · intro out
        change (List.filter _ (t.sends.map Send.entry ++ [entry] ++ others)).Sublist _
        rw [hplaces]
        exact inv.placed out
      · change (List.map _ (t.sends.map Send.entry ++ [entry] ++ others)).Nodup
        rw [hplaces]
        exact inv.distinct
      · change ∀ other ∈ t.sends.map Send.entry ++ [entry] ++ others, _
        rw [hplaces]
        exact inv.index_lt
      · rintro held ⟨⟩
        exact ⟨rfl, hdue⟩
      · intro pick hpick
        rcases List.mem_append.mp hpick with hold | hnew
        · exact inv.picked pick hold
        · obtain rfl := List.mem_singleton.mp hnew
          exact hearliest

theorem pacerSends (inv : Inv t) {accepted : Bool}
    (h : Session.pacerSends t.server accepted = some next) : Inv (notePacerSends t next) := by
  obtain ⟨paced, hpaced, hcases⟩ := pacerSends_cases h
  obtain ⟨sent, rfl⟩ : ∃ sent, next = { t.server with pacer := none, sent := sent } := by
    rcases hcases with rfl | ⟨connection, -, -, rfl⟩
    · exact ⟨_, rfl⟩
    · exact ⟨_, rfl⟩
  unfold notePacerSends
  split
  · rename_i entry reply hholding hreply
    obtain ⟨hpacer, hdue⟩ := inv.held entry hholding
    have hplaces : (t.sends ++ [Send.mk entry reply t.server.now]).map Send.entry ++ [] ++
        t.queue = t.places := by
      rw [Traced.places, hholding, List.map_append, List.append_nil]
      rfl
    refine ⟨inv.queued, inv.quiet, inv.spaced, inv.packets, inv.anchored, inv.sorted, ?_, ?_, ?_,
      by simp, ?_, inv.picked⟩
    · intro out
      change (List.filter _ (List.map _ _ ++ [] ++ t.queue)).Sublist _
      rw [hplaces]
      exact inv.placed out
    · change (List.map _ (List.map _ _ ++ [] ++ t.queue)).Nodup
      rw [hplaces]
      exact inv.distinct
    · change ∀ other ∈ List.map _ _ ++ [] ++ t.queue, _
      rw [hplaces]
      exact inv.index_lt
    · intro send hsend
      rcases List.mem_append.mp hsend with hold | hnew
      · exact inv.sent send hold
      · obtain rfl := List.mem_singleton.mp hnew
        exact ⟨Option.some.inj (hreply.symm.trans hpacer), hdue⟩
  · rename_i hnone
    refine ⟨inv.queued, inv.quiet, inv.spaced, inv.packets, inv.anchored, inv.sorted, inv.placed,
      inv.distinct, inv.index_lt, ?_, inv.sent, inv.picked⟩
    intro entry hentry
    exact (hnone entry paced hentry hpaced).elim

theorem endSession (inv : Inv t) (h : Session.endSession t.server = some next) :
    Inv { t with server := next, queue := [] } := by
  unfold Session.endSession at h
  split at h
  · obtain rfl := Option.some.inj h
    have hsub : (t.sends.map Send.entry ++ t.holding.toList ++ []).Sublist t.places :=
      (List.Sublist.refl _).append (List.nil_sublist _)
    refine ⟨rfl, fun _ => ⟨rfl, rfl, rfl⟩, inv.spaced, inv.packets, ?_, List.Pairwise.nil, ?_, ?_,
      ?_, inv.held, inv.sent, inv.picked⟩
    · intro hbusy
      cases hbusy
    · intro out
      exact (hsub.filter _).trans (inv.placed out)
    · exact (hsub.map _).nodup inv.distinct
    · intro entry hentry
      exact inv.index_lt entry (hsub.subset hentry)
  · cases h

theorem importSession (inv : Inv t) {socket : Nat}
    (h : Session.importSession t.server socket = some next) : Inv (.new next) := by
  unfold Session.importSession at h
  split at h
  · rename_i hidle
    obtain rfl := Option.some.inj h
    obtain ⟨hempty, -⟩ := inv.quiet (by rw [hidle]; rfl)
    apply Inv.new
    · have hqueued := inv.queued
      rw [hempty] at hqueued
      exact hqueued
    · intro hquiet
      cases hquiet
  · cases h

/-- Every step keeps the invariant. -/
theorem step {gainOfVolume : Int → Int} {t' : Traced} {action : Action} (inv : Inv t)
    (h : IsoPacing.step gainOfVolume t action = some t') : Inv t' := by
  obtain ⟨next, hnext, rfl⟩ := Option.map_eq_some_iff.mp h
  cases action with
  | tick elapsed =>
      obtain rfl := Option.some.inj hnext
      exact inv.keeps rfl rfl rfl rfl (Nat.le_add_right _ _) rfl
  | stop =>
      obtain rfl := Option.some.inj hnext
      exact inv.keeps rfl rfl rfl rfl le_rfl rfl
  | daemonCloses =>
      obtain rfl := Option.some.inj hnext
      exact inv.keeps rfl rfl rfl rfl le_rfl rfl
  | importSession socket => exact inv.importSession hnext
  | recv cmd outData iso written =>
      obtain ⟨hready, ⟨-, rfl⟩ | ⟨port, -, rfl⟩ | ⟨-, -, frames, -, rfl⟩⟩ := recvPdu_cases hnext
      all_goals exact inv.keeps rfl rfl rfl rfl le_rfl (by rw [hready]; rfl)
  | recvFails =>
      simp only [Session.step, Session.recvFails] at hnext
      split at hnext
      · rename_i hready
        obtain rfl := Option.some.inj hnext
        exact inv.keeps rfl rfl rfl rfl le_rfl (by rw [hready]; rfl)
      · cases hnext
  | endWait =>
      obtain ⟨cmd, iso, hwaiting, ⟨error, -, rfl⟩ | ⟨reply, -, rfl⟩⟩ := endWait_cases hnext
      all_goals exact inv.keeps rfl rfl rfl rfl le_rfl (by rw [hwaiting]; rfl)
  | sendReply accepted => exact inv.sendReply hnext
  | sendUnlink accepted =>
      obtain ⟨seqnum, unlinked, hunlinking, rfl | ⟨connection, -, rfl⟩⟩ := sendUnlink_cases hnext
      all_goals exact inv.keeps rfl rfl rfl rfl le_rfl (by rw [hunlinking]; rfl)
  | endSession => exact inv.endSession hnext
  | closeSocket =>
      simp only [Session.step, Session.closeSocket] at hnext
      split at hnext
      · rename_i hclosed
        obtain rfl := Option.some.inj hnext
        exact inv.keeps rfl rfl rfl rfl le_rfl (by rw [hclosed]; rfl)
      · cases hnext
  | pacerTakes => exact inv.pacerTakes hnext
  | pacerSends accepted => exact inv.pacerSends hnext
  | readerFrame frame boost =>
      obtain rfl | rfl := readerFrame_cases hnext
      all_goals exact inv.keeps rfl rfl rfl rfl le_rfl rfl
  | readerFails =>
      simp only [Session.step, Session.readerFails] at hnext
      split_ifs at hnext
      obtain rfl := Option.some.inj hnext
      exact inv.keeps rfl rfl rfl rfl le_rfl rfl

theorem duration_pos (inv : Inv t) {entry : Entry} (h : entry ∈ t.submitted) :
    0 < entry.duration :=
  Nat.mul_pos (inv.packets entry h) (by decide)

/-- The invariant gives the pacing that the session promises. -/
theorem paced (inv : Inv t) : Paced t where
  queued := inv.queued
  increasing := by
    intro out
    refine (inv.spaced out).imp_of_mem ?_
    intro a b ha hb hspaced
    have hpos := inv.duration_pos (List.mem_filter.mp ha).1
    omega
  realTime := fun out _ _ _ hfirst hlast => (inv.spaced out).sum_le hfirst hlast
  inOrder := by
    intro out
    have hsub : (t.sends.map Send.entry).Sublist t.places := by
      rw [Traced.places, List.append_assoc]
      exact List.sublist_append_left _ _
    exact (hsub.filter _).trans (inv.placed out)
  once := by
    have hdistinct := inv.distinct
    rw [Traced.places, List.append_assoc, List.map_append, List.map_map] at hdistinct
    exact hdistinct.of_append_left
  notEarly := inv.sent
  earliest := inv.picked

end Inv

/-- In every run, the isochronous replies of the current session are paced. -/
theorem paced_of_run {gainOfVolume : Int → Int} {profile : Profile} {now : Nat}
    {actions : List Action} {t : Traced}
    (run : Run (step gainOfVolume) (.new (Server.new profile now)) actions t) : Paced t := by
  have start : Inv (.new (Server.new profile now)) := Inv.new rfl fun _ => ⟨rfl, rfl⟩
  exact (run.invariant (fun _ _ _ inv _ h => inv.step h) start).paced

/-- An isochronous speaker submit of two packets, and a microphone submit of one. -/
def speakerSubmit : UsbipCmdSubmit :=
  { base := ⟨kCmdSubmit, 1, 0x10001, kDirOut, kEpAudioOut⟩
    transferFlags := 0
    transferBufferLength := 8
    numberOfPackets := 2
    setup := Vector.replicate 8 0 }

def microphoneSubmit : UsbipCmdSubmit :=
  { speakerSubmit with
    base := ⟨kCmdSubmit, 2, 0x10001, kDirIn, kEpAudioIn⟩
    numberOfPackets := 1 }

/-- Two speaker submits and one microphone submit; the pacer sends the reply that is due. -/
def duplexTrace : List Action :=
  [.importSession 5,
    .recv speakerSubmit (List.replicate 8 0) [⟨0, 4, 0, 0⟩, ⟨4, 4, 0, 0⟩] true, .endWait,
    .sendReply true,
    .recv speakerSubmit (List.replicate 8 0) [⟨0, 4, 0, 0⟩, ⟨4, 4, 0, 0⟩] true, .endWait,
    .sendReply true,
    .recv microphoneSubmit [] [⟨0, 8, 0, 0⟩] true, .endWait, .sendReply true,
    .pacerTakes, .pacerSends true, .tick 1000000, .pacerTakes, .pacerSends true]

theorem paced_duplexTrace : ∃ t,
    Run (step fun _ => 2 ^ 15) (.new (Server.new .ds5 1)) duplexTrace t ∧
      t.sends.length = 2 ∧ Paced t := by
  obtain ⟨t, run, hsends⟩ : ∃ t, Run (step fun _ => 2 ^ 15) (.new (Server.new .ds5 1))
      duplexTrace t ∧ t.sends.length = 2 := exists_run_of_execute (by decide +kernel)
  exact ⟨t, run, hsends, paced_of_run run⟩

end VirtualDualSense.UsbIp.IsoPacing
