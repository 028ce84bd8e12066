import VirtualDualSense.UsbIp.TeardownSteps

/-!
# The joins of a teardown

`stop()` reaches the client it finds published, and a session that starts after the flag
is set ends before it receives anything. What the TCP thread still waits for is then a
socket that has been shut down, an opening request that is there, or a mutex whose holder
moves. The pipe has lost its daemon, so the reader's read fails, and the pacer has been
woken.
-/

namespace VirtualDualSense.UsbIp.Teardown

open Lib.Runs

def TcpPc.published : TcpPc → Option Nat
  | .serving c _ => some c
  | _ => none

/-- `stop()` shuts this client down, or has done so. -/
def Reached (s : State) (c : Nat) : Prop :=
  match s.stop with
  | .idle | .flagged | .notified => s.slot = some c
  | .exchanged held => held = some c
  | _ => (s.conns c).shut = true

/-- `stop()` has joined the TCP thread. -/
def StopPc.tcpJoined : StopPc → Bool
  | .cancelling _ | .joinReader | .readerJoined | .joinPacer | .returned => true
  | _ => false

/-- `stop()` has poked the listener and not yet joined the TCP thread. -/
def StopPc.poked : StopPc → Bool
  | .poking _ | .joinTcp => true
  | _ => false

/-- `stop()` cancels or joins the reader. -/
def StopPc.awaitsReader : StopPc → Bool
  | .cancelling _ | .joinReader => true
  | _ => false

def TcpPc.client : TcpPc → Option Nat
  | .accepted c | .serving c _ => some c
  | _ => none

structure Inv (s : State) : Prop where
  queued : ∀ c ∈ s.backlog, c < s.next
  client : ∀ c, s.tcp.client = some c → c < s.next
  replying : ∀ c ∈ s.replies, c < s.next
  slot : s.stop.early = true → s.slot = s.tcp.published
  engaged : ∀ c phase, s.tcp = .serving c phase → phase.engaged = true → Reached s c
  opening : ∀ c phase, s.tcp = .serving c phase → Reached s c ∨ Unsilent s c phase
  replies : ∀ c ∈ s.replies, Reached s c ∨ (s.conns c).closed = true
  awaiting : ∀ c, s.tcp = .serving c .awaitDaemon → s.stop = .idle ∨ s.pipe ≠ .listening
  accepting : s.stop.poked = true → s.tcp = .accepting → s.backlog ≠ []
  tcpJoined : s.stop.tcpJoined = true → s.tcp = .exited
  opened : s.pipe = .connected → s.daemon = .opened
  stopped : s.stop ≠ .idle → s.daemon ≠ .opened
  started : s.stop.awaitsReader = true → s.reader ≠ .notStarted
  pacer : s.stop = .joinPacer → s.pacer ≠ .waiting ∧ (s.pacer = .looked → s.paced ≠ [])

variable {s t : State}

section Kept

variable {c : Nat}

theorem reached_of_early (hearly : s.stop.early = true) : Reached s c ↔ s.slot = some c := by
  unfold Reached
  split <;> simp_all [StopPc.early]

theorem Reached.mono (h : Reached s c) (hstop : t.stop = s.stop)
    (hslot : s.stop.early = true → s.slot = some c → t.slot = some c)
    (hshut : (s.conns c).shut = true → (t.conns c).shut = true) : Reached t c := by
  cases hearly : s.stop.early with
  | true =>
      rw [reached_of_early (hstop ▸ hearly)]
      exact hslot hearly ((reached_of_early hearly).mp h)
  | false =>
      unfold Reached at h ⊢
      rw [hstop]
      split at h <;> simp_all [StopPc.early]

theorem Unsilent.later {p : Phase} (h : Unsilent s c p) (hconn : (s.conns c).Later (t.conns c))
    (hpoking : s.stop = .poking c → t.stop = .poking c ∨ (t.conns c).peerClosed = true) :
    Unsilent t c p := by
  cases p with
  | header =>
      obtain hclosed | hpoke | hle := h
      · exact .inl (hconn.peerClosed hclosed)
      · exact (hpoking hpoke).elim (fun h => .inr (.inl h)) .inl
      · refine .inr (.inr ?_)
        rw [hconn.code]
        exact Nat.le_trans hle hconn.unread
  | busid =>
      obtain hclosed | hpoke | hle := h
      · exact .inl (hconn.peerClosed hclosed)
      · exact (hpoking hpoke).elim (fun h => .inr (.inl h)) .inl
      · exact .inr (.inr (Nat.le_trans hle hconn.unread))
  | _ => trivial

end Kept

namespace Inv

/-- The connections may change as their peers can change them. -/
theorem conns (hi : Inv s) {conns : Nat → Conn} {next : Nat} (hnext : s.next ≤ next)
    {backlog : List Nat} (hbacklog : ∀ c ∈ backlog, c < next)
    (hqueue : s.backlog ≠ [] → backlog ≠ [])
    (hconns : ∀ c < s.next, (s.conns c).Later (conns c)) :
    Inv { s with conns := conns, backlog := backlog, next := next } where
  queued := hbacklog
  client c hc := Nat.lt_of_lt_of_le (hi.client c hc) hnext
  replying c hc := Nat.lt_of_lt_of_le (hi.replying c hc) hnext
  slot := hi.slot
  engaged c p hp hengaged := by
    have hconn := hconns c (hi.client c (by rw [hp]; rfl))
    exact (hi.engaged c p hp hengaged).mono rfl (fun _ => id) hconn.shut
  opening c p hp := by
    have hconn := hconns c (hi.client c (by rw [hp]; rfl))
    exact (hi.opening c p hp).imp (·.mono rfl (fun _ => id) hconn.shut) (·.later hconn .inl)
  replies c hc := by
    have hconn := hconns c (hi.replying c hc)
    exact (hi.replies c hc).imp (·.mono rfl (fun _ => id) hconn.shut) hconn.closed
  awaiting := hi.awaiting
  accepting hpoked htcp := hqueue (hi.accepting hpoked htcp)
  tcpJoined := hi.tcpJoined
  opened := hi.opened
  stopped := hi.stopped
  started := hi.started
  pacer := hi.pacer

/-- A new connection may be queued. -/
theorem connect (hi : Inv s) (code : OpCode) :
    Inv ({ s with backlog := s.backlog ++ [s.next], next := s.next + 1 }.setConn s.next
      fun _ => .fresh code) := by
  refine hi.conns (Nat.le_succ _) ?_ (by simp) ?_
  · intro c hc
    obtain hc | rfl := by simpa using hc
    · exact Nat.lt_succ_of_lt (hi.queued c hc)
    · exact Nat.lt_succ_self _
  · intro c hc
    simp only [Function.update_of_ne (Nat.ne_of_lt hc)]
    exact .refl _

theorem envStep {a : EnvAction} (hi : Inv s) (h : Teardown.envStep s a = some t) : Inv t := by
  obtain ⟨code, rfl⟩ | ⟨conns, rfl, hconns⟩ | ⟨daemon, pipe, inbound, full, rfl, h1, h2, h3⟩ :=
    envStep_cases h
  · exact hi.connect code
  · exact hi.conns (Nat.le_refl _) hi.queued id fun c _ => hconns c
  · exact { hi with
      awaiting := fun c hc => (hi.awaiting c hc).imp id fun hne hpipe => hne (h2 hpipe)
      opened := fun hpipe => (h1 hpipe).elim id fun h => h.2 ▸ hi.opened h.1
      stopped := fun hstop hdaemon => (h3 hdaemon).elim (hi.stopped hstop) hstop }

theorem readerStep {a : ReaderAction} (hi : Inv s) (h : Teardown.readerStep s a = some t) :
    Inv t := by
  obtain ⟨pc, inbound, rfl, hpc⟩ := readerStep_cases h
  exact { hi with started := fun _ => hpc }

theorem pacerStep {a : PacerAction} (hi : Inv s) (h : Teardown.pacerStep s a = some t) :
    Inv t := by
  obtain ⟨pc, paced, rfl, hreplies, hwaiting, hlooked⟩ := pacerStep_cases h
  exact { hi with
    replying := fun c hc => hi.replying c (hreplies hc)
    replies := fun c hc => hi.replies c (hreplies hc)
    pacer := fun hstop => ⟨
      fun hpc => (hi.pacer hstop).2 (hwaiting hpc).1 (hwaiting hpc).2,
      fun hpc => absurd (hlooked hpc) (hstop ▸ by decide)⟩ }

theorem serves {c : Nat} {p p' : Phase} (hi : Inv s) (h : Serves s t c p p')
    (hawaits : p' = .awaitDaemon → s.stop = .idle) : Inv t := by
  have hslot (hidle : s.stop = .idle) : Reached s c := by
    have hpublished := hi.slot (by rw [hidle]; rfl)
    rw [h.before] at hpublished
    simpa only [Reached, hidle, TcpPc.published] using hpublished
  have hreached {d : Nat} (hd : Reached s d) : Reached t d :=
    hd.mono h.stop (fun _ => h.slot.trans) fun hshut => (h.shut d).trans hshut
  have hjoined (hstop : s.stop.tcpJoined = true) : False := by
    simpa [h.before] using hi.tcpJoined hstop
  constructor
  · simpa only [h.backlog, h.next] using hi.queued
  · intro d hd
    rw [h.next]
    refine hi.client d ?_
    rw [h.before]
    rwa [h.after] at hd
  · intro d hd
    rw [h.next]
    obtain hd | ⟨rfl, -⟩ := h.replies d hd
    · exact hi.replying d hd
    · exact hi.client d (by rw [h.before]; rfl)
  · intro hearly
    rw [h.slot, hi.slot (h.stop ▸ hearly), h.before, h.after]
    rfl
  · rintro d q htcp hengaged
    obtain ⟨rfl, rfl⟩ : c = d ∧ p' = q := by simpa [h.after] using htcp
    obtain hp | hidle := h.engaged hengaged
    · exact hreached (hi.engaged c p h.before hp)
    · exact hreached (hslot hidle)
  · intro d q htcp
    obtain ⟨rfl, rfl⟩ : c = d ∧ p' = q := by simpa [h.after] using htcp
    exact (hi.opening c p h.before).imp hreached h.opening
  · intro d hd
    rw [h.closed]
    obtain hd | ⟨rfl, hp⟩ := h.replies d hd
    · exact (hi.replies d hd).imp hreached id
    · exact .inl (hreached (hi.engaged d p h.before hp))
  · intro d htcp
    rw [h.after] at htcp
    rw [h.stop]
    exact .inl (hawaits (TcpPc.serving.inj htcp).2)
  · intro _ htcp
    rw [h.after] at htcp
    cases htcp
  · intro hstop
    exact (hjoined (h.stop ▸ hstop)).elim
  · intro hpipe
    rw [h.daemon]
    exact hi.opened (h.pipe hpipe)
  · rw [h.stop, h.daemon]
    exact hi.stopped
  · intro hstop
    rw [h.stop] at hstop
    refine (hjoined ?_).elim
    cases hs : s.stop <;> simp_all [StopPc.awaitsReader, StopPc.tcpJoined]
  · intro hstop
    exact (hjoined (by rw [← h.stop, hstop]; rfl)).elim

/-- The TCP thread may move between connections. -/
theorem between (hi : Inv s) {pc : TcpPc} {backlog : List Nat}
    (hbefore : s.tcp.published = none) (hexited : s.tcp ≠ .exited) (hafter : pc.published = none)
    (hclient : ∀ c, pc.client = some c → c ∈ s.backlog) (hbacklog : backlog ⊆ s.backlog)
    (haccepting : pc = .accepting → s.stop = .idle) :
    Inv { s with tcp := pc, backlog := backlog } := by
  have hserving {c : Nat} {p : Phase} (hpc : pc = .serving c p) : False := by
    simp [hpc, TcpPc.published] at hafter
  exact { hi with
    queued := fun c hc => hi.queued c (hbacklog hc)
    client := fun c hc => hi.queued c (hclient c hc)
    slot := fun hearly => (hi.slot hearly).trans (hbefore.trans hafter.symm)
    engaged := fun c p hpc _ => (hserving hpc).elim
    opening := fun c p hpc => (hserving hpc).elim
    awaiting := fun c hpc => (hserving hpc).elim
    accepting := fun hpoked hpc => by
      rw [haccepting hpc] at hpoked
      cases hpoked
    tcpJoined := fun hstop => absurd (hi.tcpJoined hstop) hexited }

theorem publish (hi : Inv s) {c : Nat} (hbefore : s.tcp = .accepted c)
    (hg : s.stop.early = true ∨ Forthcoming s c) :
    Inv { s with tcp := .serving c .header, slot := some c } := by
  have hnone (hearly : s.stop.early = true) : s.slot = none := by
    rw [hi.slot hearly, hbefore]
    rfl
  have hreached {d : Nat} (hd : Reached s d) :
      Reached { s with tcp := .serving c .header, slot := some c } d := by
    refine hd.mono rfl ?_ id
    intro hearly hslot
    rw [hnone hearly] at hslot
    cases hslot
  exact { hi with
    client := fun d hd => hi.client d (by rw [hbefore]; exact hd)
    slot := fun _ => rfl
    engaged := fun d p hpc hengaged => by
      obtain ⟨rfl, rfl⟩ := TcpPc.serving.inj hpc
      cases hengaged
    opening := fun d p hpc => by
      obtain ⟨rfl, rfl⟩ := TcpPc.serving.inj hpc
      exact hg.imp (fun hearly => (reached_of_early hearly).mpr rfl) id
    replies := fun d hd => (hi.replies d hd).imp hreached id
    awaiting := fun d hpc => by cases hpc
    accepting := fun _ hpc => by cases hpc
    tcpJoined := fun hstop => by
      have hexited := hi.tcpJoined hstop
      rw [hbefore] at hexited
      cases hexited }

theorem close (hi : Inv s) {c : Nat} (hbefore : s.tcp = .serving c .closing) :
    Inv ({ s with slot := none, tcp := .loop }.setConn c
      fun conn => { conn with closed := true }) where
  queued := hi.queued
  client _ hd := by cases hd
  replying := hi.replying
  slot _ := rfl
  engaged _ _ hpc := by cases hpc
  opening _ _ hpc := by cases hpc
  replies d hd := by
    rcases eq_or_ne d c with rfl | hne
    · refine .inr ?_
      simp only [State.setConn, Function.update_self]
    · simp only [State.setConn, Function.update_of_ne hne]
      refine (hi.replies d hd).imp (fun hreached => hreached.mono rfl ?_ ?_) id
      · intro hearly hslot
        rw [hi.slot hearly, hbefore] at hslot
        exact absurd (Option.some.inj hslot).symm hne
      · simp only [Function.update_of_ne hne, imp_self]
  awaiting _ hpc := by cases hpc
  accepting _ hpc := by cases hpc
  tcpJoined hstop := by
    have hexited := hi.tcpJoined hstop
    rw [hbefore] at hexited
    cases hexited
  opened := hi.opened
  stopped := hi.stopped
  started := hi.started
  pacer := hi.pacer

theorem tcpStep {a : TcpAction} (hi : Inv s) (hg : timely s (.tcp a))
    (h : Teardown.tcpStep s a = some t) : Inv t := by
  cases tcpMove_of_step h with
  | outside pc before after =>
      refine hi.between ?_ ?_ ?_ ?_ (fun _ => id) ?_
      · obtain hpc | hpc := before <;> rw [hpc] <;> rfl
      · obtain hpc | hpc := before <;> simp [hpc]
      · obtain rfl | rfl | ⟨rfl, -⟩ := after <;> rfl
      · obtain rfl | rfl | ⟨rfl, -⟩ := after <;> simp [TcpPc.client]
      · obtain rfl | rfl | ⟨rfl, hstop⟩ := after <;> simp_all
  | accept pc c rest before queue after =>
      refine hi.between (by rw [before]; rfl) (by simp [before]) ?_ ?_ (by simp [queue]) ?_
      all_goals obtain rfl | rfl := after <;> simp [TcpPc.client, TcpPc.published, queue]
  | publish c action before =>
      subst action
      exact hi.publish before (hg.imp id fun hforth => hforth c before)
  | serve c p p' t serves awaits =>
      refine hi.serves serves ?_
      intro hp
      obtain ⟨rfl, hconnected, hbroken⟩ := awaits hp
      obtain hidle | hatOnce | hpipe | hpipe := hg
      · exact hidle
      · cases hatOnce
      · exact absurd hpipe hconnected
      · exact absurd hpipe hbroken
  | close c before => exact hi.close before

/-- `stop()` may move on while what it reaches stays reached. -/
theorem advance (hi : Inv s) {pc : StopPc} {slot : Option Nat} {conns : Nat → Conn}
    {pacer : PacerPc} (hpacer : { s with pacer := pacer }.replies = s.replies)
    (hearly : pc.early = true → s.stop.early = true ∧ slot = s.slot)
    (hreached : ∀ c, Reached s c →
      Reached { s with stop := pc, slot := slot, conns := conns, pacer := pacer } c)
    (hunsilent : ∀ c p, Unsilent s c p →
      Unsilent { s with stop := pc, slot := slot, conns := conns, pacer := pacer } c p)
    (hclosed : ∀ c, (s.conns c).closed = true → (conns c).closed = true)
    (hawaiting : ∀ c, s.tcp = .serving c .awaitDaemon → s.pipe ≠ .listening)
    (haccepting : pc.poked = true → s.tcp = .accepting → s.backlog ≠ [])
    (hjoined : pc.tcpJoined = false) (hstopped : s.daemon ≠ .opened) :
    Inv { s with stop := pc, slot := slot, conns := conns, pacer := pacer } where
  queued := hi.queued
  client := hi.client
  replying c hc := hi.replying c (hpacer ▸ hc)
  slot h := (hearly h).2.trans (hi.slot (hearly h).1)
  engaged c p hp hengaged := hreached c (hi.engaged c p hp hengaged)
  opening c p hp := (hi.opening c p hp).imp (hreached c) (hunsilent c p)
  replies c hc := (hi.replies c (hpacer ▸ hc)).imp (hreached c) (hclosed c)
  awaiting c hc := .inr (hawaiting c hc)
  accepting := haccepting
  tcpJoined h := by
    rw [hjoined] at h
    cases h
  opened := hi.opened
  stopped _ := hstopped
  started h := by cases pc <;> simp_all [StopPc.awaitsReader, StopPc.tcpJoined]
  pacer h := by
    dsimp only at h
    rw [h] at hjoined
    cases hjoined

theorem awaiting_of_ne (hi : Inv s) (hstop : s.stop ≠ .idle) (c : Nat)
    (hc : s.tcp = .serving c .awaitDaemon) : s.pipe ≠ .listening :=
  (hi.awaiting c hc).resolve_left hstop

/-- A turn of `stop()` that leaves the connections alone, before or after the poke. -/
theorem turn (hi : Inv s) {pc : StopPc} {slot : Option Nat} {pacer : PacerPc}
    (hpacer : { s with pacer := pacer }.replies = s.replies)
    (hearly : pc.early = true → s.stop.early = true ∧ slot = s.slot)
    (hreached : ∀ c, Reached s c →
      Reached { s with stop := pc, slot := slot, pacer := pacer } c)
    (hpoking : ∀ c, s.stop ≠ .poking c)
    (hawaiting : ∀ c, s.tcp = .serving c .awaitDaemon → s.pipe ≠ .listening)
    (haccepting : pc.poked = true → s.tcp = .accepting → s.backlog ≠ [])
    (hjoined : pc.tcpJoined = false) (hstopped : s.daemon ≠ .opened) :
    Inv { s with stop := pc, slot := slot, pacer := pacer } :=
  hi.advance hpacer hearly hreached
    (fun c _ hp => hp.later (.refl _) fun hpoke => absurd hpoke (hpoking c)) (fun _ => id)
    hawaiting haccepting hjoined hstopped

/-- The client that was exchanged is shut down. -/
theorem shutsDown (hi : Inv s) {c : Nat} (hstop : s.stop = .exchanged (some c)) :
    Inv ({ s with stop := .shutDown }.setConn c fun conn => { conn with shut := true }) := by
  have hne : s.stop ≠ .idle := by simp [hstop]
  have hconn : (s.conns c).Later { s.conns c with shut := true } :=
    ⟨rfl, Nat.le_refl _, id, fun _ => rfl, id⟩
  have hlater := Conn.later_update hconn
  refine hi.advance rfl (by simp [StopPc.early]) ?_ ?_ ?_ (hi.awaiting_of_ne hne)
    (by simp [StopPc.poked]) rfl (hi.stopped hne)
  · intro d hd
    obtain rfl : c = d := by simpa only [Reached, hstop, Option.some.injEq] using hd
    simp only [Reached, Function.update_self]
  · exact fun d p hp => hp.later (hlater d) (by simp [hstop])
  · exact fun d => (hlater d).closed

/-- The connection of the poke is closed. -/
theorem closesPoke (hi : Inv s) {p : Nat} (hstop : s.stop = .poking p) :
    Inv ({ s with stop := .joinTcp }.setConn p fun conn => { conn with peerClosed := true }) := by
  have hne : s.stop ≠ .idle := by simp [hstop]
  have hconn : (s.conns p).Later { s.conns p with peerClosed := true } :=
    ⟨rfl, Nat.le_refl _, fun _ => rfl, id, id⟩
  have hlater := Conn.later_update hconn
  refine hi.advance rfl (by simp [StopPc.early]) ?_ ?_ (fun d => (hlater d).closed)
    (hi.awaiting_of_ne hne) (fun _ => hi.accepting (by rw [hstop]; rfl)) rfl (hi.stopped hne)
  · intro c hc
    have hshut : (s.conns c).shut = true := by simpa only [Reached, hstop] using hc
    exact (hlater c).shut hshut
  · refine fun c q hq => hq.later (hlater c) ?_
    intro hpoking
    obtain rfl : p = c := StopPc.poking.inj (hstop.symm.trans hpoking)
    exact .inr (by simp only [Function.update_self])

/-- `stop()` may move on once the TCP thread has been joined. -/
theorem joined (hi : Inv s) (htcp : s.tcp = .exited)
    (hstop : s.stop = .joinTcp ∨ s.stop.tcpJoined = true) {pc : StopPc}
    (hpc : pc.tcpJoined = true) {pacer : PacerPc} {reader : ReaderPc}
    (hreplies : { s with pacer := pacer }.replies = s.replies)
    (hreader : pc.awaitsReader = true → reader ≠ .notStarted)
    (hpacer : pc = .joinPacer → pacer ≠ .waiting ∧ (pacer = .looked → s.paced ≠ [])) :
    Inv { s with stop := pc, pacer := pacer, reader := reader } where
  queued := hi.queued
  client := hi.client
  replying c hc := hi.replying c (hreplies ▸ hc)
  slot h := by cases pc <;> simp_all [StopPc.early, StopPc.tcpJoined]
  engaged c p hp := by simp [htcp] at hp
  opening c p hp := by simp [htcp] at hp
  replies c hc := by
    refine (hi.replies c (hreplies ▸ hc)).imp ?_ id
    intro h
    unfold Reached at h ⊢
    cases pc <;> cases hs : s.stop <;> simp_all [StopPc.tcpJoined]
  awaiting c hc := by simp [htcp] at hc
  accepting _ hc := by simp [htcp] at hc
  tcpJoined _ := htcp
  opened := hi.opened
  stopped _ := hi.stopped (by rintro h; simp [h, StopPc.tcpJoined] at hstop)
  started := hreader
  pacer := hpacer

theorem replies_notified (s : State) :
    { s with pacer := s.pacer.notified }.replies = s.replies := replies_notifyPacer s

theorem stopStep {a : StopAction} (hi : Inv s) (hg : timely s (.stop a))
    (h : Teardown.stopStep s a = some t) : Inv t := by
  unfold Teardown.stopStep at h
  split at h
  case h_1 hstop =>
    split at h
    · cases h
    · rename_i hdaemon
      obtain rfl := Option.some.inj h
      refine hi.turn rfl (fun _ => ⟨by rw [hstop]; rfl, rfl⟩) ?_ (by simp [hstop]) ?_
        (by simp [StopPc.poked]) rfl hdaemon
      · intro c hc
        simpa only [Reached, hstop] using hc
      · intro c hc hpipe
        exact hg hpipe c hc
  case h_2 hstop =>
    obtain rfl := Option.some.inj h
    have hne : s.stop ≠ .idle := by simp [hstop]
    refine hi.turn (replies_notified s) (fun _ => ⟨by rw [hstop]; rfl, rfl⟩) ?_ (by simp [hstop])
      (hi.awaiting_of_ne hne) (by simp [StopPc.poked]) rfl (hi.stopped hne)
    intro c hc
    simpa only [Reached, hstop] using hc
  case h_3 hstop =>
    obtain rfl := Option.some.inj h
    have hne : s.stop ≠ .idle := by simp [hstop]
    refine hi.turn rfl (by simp [StopPc.early]) ?_ (by simp [hstop]) (hi.awaiting_of_ne hne)
      (by simp [StopPc.poked]) rfl (hi.stopped hne)
    intro c hc
    simpa only [Reached, hstop] using hc
  case h_4 held hstop =>
    have hne : s.stop ≠ .idle := by simp [hstop]
    split at h
    · obtain rfl := Option.some.inj h
      exact hi.shutsDown hstop
    · obtain rfl := Option.some.inj h
      refine hi.turn rfl (by simp [StopPc.early]) ?_ (by simp [hstop]) (hi.awaiting_of_ne hne)
        (by simp [StopPc.poked]) rfl (hi.stopped hne)
      intro c hc
      simp [Reached, hstop] at hc
  case h_5 connected hstop =>
    have hne : s.stop ≠ .idle := by simp [hstop]
    split at h
    · split at h
      · obtain rfl := Option.some.inj h
        have hconnect := hi.connect .other
        refine hconnect.turn rfl (by simp [StopPc.early]) ?_ (by simp [State.setConn, hstop])
          (hconnect.awaiting_of_ne hne) (by simp [State.setConn]) rfl (hconnect.stopped hne)
        intro c hc
        simpa only [Reached, State.setConn, hstop] using hc
      · cases h
    · rename_i hconnected
      obtain rfl := Option.some.inj h
      obtain rfl := Bool.eq_false_iff.mpr hconnected
      refine hi.turn rfl (by simp [StopPc.early]) ?_ (by simp [hstop]) (hi.awaiting_of_ne hne)
        (fun _ => hg) rfl (hi.stopped hne)
      intro c hc
      simpa only [Reached, hstop] using hc
  case h_6 p hstop =>
    obtain rfl := Option.some.inj h
    exact hi.closesPoke hstop
  case h_7 hstop =>
    split at h
    · rename_i htcp
      obtain rfl := Option.some.inj h
      refine hi.joined htcp (.inl hstop) ?_ rfl ?_ ?_
      all_goals split <;> simp_all [StopPc.tcpJoined, StopPc.awaitsReader]
    · cases h
  case h_8 attempt hstop =>
    have hjoined : s.stop.tcpJoined = true := by rw [hstop]; rfl
    have hstarted := hi.started (by rw [hstop]; rfl)
    split at h
    · obtain rfl := Option.some.inj h
      refine hi.joined (hi.tcpJoined hjoined) (.inr hjoined) rfl rfl ?_ (by simp)
      intro _
      split
      · simp
      · exact hstarted
    · obtain rfl := Option.some.inj h
      exact hi.joined (hi.tcpJoined hjoined) (.inr hjoined) rfl rfl (fun _ => hstarted) (by simp)
  case h_9 hstop =>
    have hjoined : s.stop.tcpJoined = true := by rw [hstop]; rfl
    split at h
    · obtain rfl := Option.some.inj h
      exact hi.joined (hi.tcpJoined hjoined) (.inr hjoined) rfl rfl
        (by simp [StopPc.awaitsReader]) (by simp)
    · cases h
  case h_10 hstop =>
    have hjoined : s.stop.tcpJoined = true := by rw [hstop]; rfl
    obtain rfl := Option.some.inj h
    refine hi.joined (hi.tcpJoined hjoined) (.inr hjoined) rfl (replies_notified s)
      (by simp [StopPc.awaitsReader]) ?_
    intro _
    cases hpc : s.pacer <;> simp_all [PacerPc.notified, timely]
  case h_11 hstop =>
    have hjoined : s.stop.tcpJoined = true := by rw [hstop]; rfl
    split at h
    · obtain rfl := Option.some.inj h
      exact hi.joined (hi.tcpJoined hjoined) (.inr hjoined) rfl rfl
        (by simp [StopPc.awaitsReader]) (by simp)
    · cases h
  case h_12 => cases h

theorem init : Inv Teardown.init where
  queued _ hc := absurd hc List.not_mem_nil
  client _ hc := by cases hc
  replying _ hc := absurd hc List.not_mem_nil
  slot _ := rfl
  engaged _ _ hp := by cases hp
  opening _ _ hp := by cases hp
  replies _ hc := absurd hc List.not_mem_nil
  awaiting _ hp := by cases hp
  accepting h := by cases h
  tcpJoined h := by cases h
  opened h := by cases h
  stopped h := (h rfl).elim
  started h := by cases h
  pacer h := by cases h

theorem step {a : Action} (hi : Inv s) (hg : timely s a) (h : Teardown.step s a = some t) :
    Inv t := by
  cases a with
  | tcp a => exact hi.tcpStep hg h
  | pacer a => exact hi.pacerStep h
  | reader a => exact hi.readerStep h
  | stop a => exact hi.stopStep hg h
  | env a => exact hi.envStep h

end Inv

theorem inv_of_run {actions : List Action} (run : GuardedRun step timely init actions s) : Inv s :=
  run.invariant (fun _ _ _ hi hg h => hi.step hg h) .init

/-- Steps of the port's own threads can move the thread. -/
def Movable (s : State) (thread : Thread) : Prop :=
  ∃ actions t, GuardedRun step (fun _ a => a.internal) s actions t ∧ ¬ SamePlace s t thread

section Movable

variable {thread : Thread} {a : Action} {u : State}

theorem Movable.of_step (h : step s a = some t) (ha : a.internal)
    (hmoved : ¬ SamePlace s t thread) : Movable s thread :=
  ⟨[a], t, .cons ha h (.nil t), hmoved⟩

theorem Movable.of_release (h : step s a = some u) (ha : a.internal)
    (hsame : SamePlace s u thread) (hu : Movable u thread) : Movable s thread := by
  obtain ⟨actions, t, run, hmoved⟩ := hu
  refine ⟨a :: actions, t, .cons ha h run, ?_⟩
  intro hback
  apply hmoved
  cases thread
  all_goals exact hback.trans hsame.symm

end Movable

/-- Once the flag is set, a pacer that holds `pacer_mutex` lets go of it in one step. -/
theorem pacer_releases (hstop : s.stop ≠ .idle) (hheld : s.pacerHoldsMutex = true) :
    ∃ a u, pacerStep s a = some u ∧ u.pacerHoldsMutex = false ∧ u.tcp = s.tcp := by
  have hpc : s.pacer = .check ∨ s.pacer = .looked := by
    simpa [State.pacerHoldsMutex] using hheld
  obtain hpc | hpc := hpc
  · refine ⟨.checkStop, { s with pacer := .exited }, ?_, rfl, rfl⟩
    simp [pacerStep, hpc, State.stopRequested, hstop]
  · cases hpaced : s.paced with
    | nil =>
        refine ⟨.look true, { s with pacer := .waiting }, ?_, rfl, rfl⟩
        simp [pacerStep, hpc, hpaced]
    | cons c rest =>
        refine ⟨.look true, { s with pacer := .timedWait }, ?_, rfl, rfl⟩
        simp [pacerStep, hpc, hpaced]

/-- The TCP thread gets `pacer_mutex`, at once or after the pacer. -/
theorem movable_of_pacerMutex (hstop : s.stop ≠ .idle)
    (h : ∀ u : State, u.tcp = s.tcp → u.pacerHoldsMutex = false → Movable u .tcp) :
    Movable s .tcp := by
  cases hheld : s.pacerHoldsMutex with
  | false => exact h s rfl hheld
  | true =>
      obtain ⟨a, u, hstep, hreleased, htcp⟩ := pacer_releases hstop hheld
      have hpacer : step s (.pacer a) = some u := hstep
      exact .of_release hpacer trivial htcp (h u htcp hreleased)

/-- At the join of the TCP thread every reply on its way fails. -/
theorem sendFails_of_reply (hi : Inv s) {c : Nat} (hstop : s.stop.early = false)
    (hexchanged : ∀ held, s.stop ≠ .exchanged held) (hc : c ∈ s.replies) :
    (s.conns c).sendFails = true := by
  have hreply := hi.replies c hc
  unfold Reached at hreply
  cases hs : s.stop <;> simp_all [Conn.sendFails, StopPc.early]
  all_goals grind

theorem tcp_moves {a : TcpAction} (h : tcpStep s a = some t) (hmoved : t.tcp ≠ s.tcp) :
    Movable s .tcp := by
  have hstep : step s (.tcp a) = some t := h
  exact .of_step hstep trivial hmoved

/-- A `recv_exact` on a socket that fails it returns. -/
theorem recv_movable_of_fails {c size : Nat} {p : Phase} (htcp : s.tcp = .serving c p)
    (hsize : p.recvSize = some size) (hfails : (s.conns c).recvFails size = true) :
    Movable s .tcp := by
  have hstep : tcpStep s .recvFails = some { s with
      tcp := .serving c (if p = .header ∨ p = .busid then .closing else .ending) } := by
    cases p <;> simp_all [tcpStep, State.moveTcp]
  refine tcp_moves hstep ?_
  rw [htcp]
  split
  all_goals
    rintro ⟨⟩
    cases hsize

/-- A `recv_exact` of the opening request returns when its bytes are there or its socket
fails it. -/
theorem recv_movable_of_opening {c size : Nat} {p : Phase} (p' : Phase)
    (htcp : s.tcp = .serving c p) (hsize : p.recvSize = some size)
    (hafter : p.afterRecv (s.conns c).code = some p') (hne : p' ≠ p)
    (h : (s.conns c).shut = true ∨ (s.conns c).peerClosed = true ∨ size ≤ (s.conns c).unread) :
    Movable s .tcp := by
  cases hfails : (s.conns c).recvFails size with
  | true => exact recv_movable_of_fails htcp hsize hfails
  | false =>
      have hreturns : (s.conns c).recvReturns size = true := by
        simp only [Conn.recvFails, Conn.recvReturns, decide_eq_false_iff_not, not_or, not_and,
          Nat.not_lt, decide_eq_true_eq] at hfails ⊢
        exact ⟨hfails.1, h.elim (absurd · hfails.1) fun h => h.elim hfails.2 id⟩
      have hstep : tcpStep s .recv = s.receive c size p' := by
        simp only [tcpStep, htcp, hsize, hafter]
      simp only [State.receive, hreturns, if_true] at hstep
      refine tcp_moves hstep ?_
      simpa [htcp] using hne

theorem serving_movable (hi : Inv s) (hstop : s.stop = .joinTcp) {c : Nat} {p : Phase}
    (htcp : s.tcp = .serving c p) : Movable s .tcp := by
  have hreached {d : Nat} (hd : Reached s d) : (s.conns d).shut = true := by
    simpa only [Reached, hstop] using hd
  have hne : s.stop ≠ .idle := by simp [hstop]
  have hengaged (hp : p.engaged = true) : (s.conns c).shut = true :=
    hreached (hi.engaged c p htcp hp)
  -- a phase that only waits for a turn of the TCP thread
  have hmove (a : TcpAction) (p' : Phase) (hstep : tcpStep s a = s.moveTcp (.serving c p'))
      (hp' : p' ≠ p) : Movable s .tcp :=
    tcp_moves hstep (by simpa [htcp] using hp')
  cases p with
  | header =>
      have hopening := hi.opening c .header htcp
      simp only [Unsilent, Forthcoming, hstop] at hopening
      have hready : (s.conns c).shut = true ∨ (s.conns c).peerClosed = true ∨
          8 ≤ (s.conns c).unread := by
        refine hopening.imp hreached (.imp id ?_)
        rintro (hpoking | hle)
        · cases hpoking
        · exact Nat.le_trans (by cases (s.conns c).code <;> decide) hle
      cases hcode : (s.conns c).code with
      | reqImport =>
          exact recv_movable_of_opening .busid htcp rfl (by rw [hcode]; rfl) (by simp) hready
      | reqDevlist | other =>
          exact recv_movable_of_opening .closing htcp rfl (by rw [hcode]; rfl) (by simp) hready
  | busid =>
      have hopening := hi.opening c .busid htcp
      simp only [Unsilent, hstop, reduceCtorEq, false_or] at hopening
      exact recv_movable_of_opening .connect htcp rfl rfl (by simp) (hopening.imp hreached id)
  | connect =>
      have h : ∃ t, tcpStep s (.connectPipe true) = some t ∧ t.tcp ≠ s.tcp := by
        cases hpipe : s.pipe <;> simp [tcpStep, htcp, State.connectPipe, hpipe]
      obtain ⟨t, hstep, hmoved⟩ := h
      exact tcp_moves hstep hmoved
  | awaitDaemon =>
      have hpipe := hi.awaiting_of_ne hne c htcp
      have h : tcpStep s .daemonConnected = some { s with
          tcp := .serving c .check
          reader := if s.reader = .notStarted then .reading else s.reader } := by
        simp [tcpStep, htcp, hpipe]
      exact tcp_moves h (by simp [htcp])
  | check =>
      refine hmove .checkSession .ending ?_ (by simp)
      simp [tcpStep, htcp, State.stopRequested, hne]
  | command =>
      exact recv_movable_of_fails htcp rfl (by simp [Conn.recvFails, hengaged rfl])
  | body sizes =>
      cases sizes with
      | nil =>
          refine hmove (.work .reply) (.lockSend .submit) ?_ (by simp)
          simp [tcpStep, htcp, Phase.afterWork]
      | cons n sizes =>
          exact recv_movable_of_fails htcp rfl (by simp [Conn.recvFails, hengaged rfl])
  | submit =>
      refine hmove (.work .reply) (.lockSend .submit) ?_ (by simp)
      simp [tcpStep, htcp, Phase.afterWork]
  | pipeWrite =>
      have hpipe : s.pipe ≠ .connected := fun h => hi.stopped hne (hi.opened h)
      refine hmove (.writeReturns false false) (.ending) ?_ (by simp)
      cases hp : s.pipe <;> simp_all [tcpStep]
  | frameWait => exact hmove .waitReturns .submit (by simp [tcpStep, htcp]) (by simp)
  | lockSend reply =>
      have hlock (u : State) (hu : u.tcp = s.tcp) (hfree : ∀ d, u.pacer ≠ .sending d) :
          Movable u .tcp := by
        have h : tcpStep u .lockSend = some { u with tcp := .serving c (.sending reply) } := by
          cases hpc : u.pacer <;> simp_all [tcpStep, State.moveTcp]
        exact tcp_moves h (by simp [hu, htcp])
      by_cases hfree : ∀ d, s.pacer ≠ .sending d
      · exact hlock s rfl hfree
      · simp only [ne_eq, not_forall, not_not] at hfree
        obtain ⟨d, hpc⟩ := hfree
        have hfails : (s.conns d).sendFails = true :=
          sendFails_of_reply hi (by rw [hstop]; rfl) (by simp [hstop])
            (by simp [State.replies, hpc])
        have h : step s (.pacer .sendReturns) = some { s with pacer := .locking } := by
          simp [step, pacerStep, hpc, hfails]
        exact .of_release h trivial rfl (hlock _ rfl (by simp))
  | sending reply =>
      refine hmove (.sendReturns false) (if reply = .unlink then .check else .ending) ?_ ?_
      · simp [tcpStep, htcp, Conn.sendFails, hengaged rfl]
      · split <;> simp
  | enqueue =>
      refine movable_of_pacerMutex hne ?_
      intro u hu hreleased
      have h : tcpStep u .enqueue = some
          { u with tcp := .serving c .check, paced := u.paced ++ [c] }.notifyPacer := by
        simp [tcpStep, hu, htcp, hreleased]
      exact tcp_moves h (by simp [hu, htcp, State.notifyPacer])
  | ending =>
      refine movable_of_pacerMutex hne ?_
      intro u hu hreleased
      have h : tcpStep u .endSession = some
          { u with
            tcp := .serving c .closing, paced := [], pipe := .disconnected, inbound := 0 } := by
        simp [tcpStep, hu, htcp, hreleased]
      exact tcp_moves h (by simp [hu, htcp])
  | closing =>
      have h : tcpStep s .close = some ({ s with slot := none, tcp := .loop }.setConn c
          fun conn => { conn with closed := true }) := by
        simp [tcpStep, htcp, State.moveTcp, State.setConn]
      exact tcp_moves h (by simp [htcp, State.setConn])

theorem tcp_movable (hi : Inv s) (hstop : s.stop = .joinTcp) (hexited : s.tcp ≠ .exited) :
    Movable s .tcp := by
  cases htcp : s.tcp with
  | starting =>
      have h : tcpStep s (.listen false) = some { s with tcp := .exited } := by
        simp [tcpStep, htcp, State.moveTcp]
      exact tcp_moves h (by simp [htcp])
  | loop =>
      have h : tcpStep s .checkStop = some { s with tcp := .exited } := by
        simp [tcpStep, htcp, State.moveTcp, State.stopRequested, hstop]
      exact tcp_moves h (by simp [htcp])
  | accepting =>
      obtain ⟨c, rest, hqueue⟩ := List.exists_cons_of_ne_nil
        (hi.accepting (by rw [hstop]; rfl) htcp)
      have h : tcpStep s .accept = some { s with tcp := .accepted c, backlog := rest } := by
        simp [tcpStep, htcp, hqueue]
      exact tcp_moves h (by simp [htcp])
  | accepted c =>
      have h : tcpStep s .publish =
          some { s with tcp := .serving c .header, slot := some c } := by
        simp [tcpStep, htcp]
      exact tcp_moves h (by simp [htcp])
  | serving c p => exact serving_movable hi hstop htcp
  | exited => exact absurd htcp hexited

theorem reader_movable (hi : Inv s) (hstop : s.stop = .joinReader)
    (hexited : s.reader ≠ .exited) : Movable s .reader := by
  have hstarted := hi.started (by rw [hstop]; rfl)
  have hpipe : s.pipe ≠ .connected :=
    fun h => hi.stopped (by simp [hstop]) (hi.opened h)
  have hmove {a : ReaderAction} {t : State} (h : readerStep s a = some t)
      (hmoved : t.reader ≠ s.reader) : Movable s .reader := by
    have hstep : step s (.reader a) = some t := h
    exact .of_step hstep trivial hmoved
  cases hpc : s.reader with
  | notStarted => exact absurd hpc hstarted
  | reading =>
      by_cases hframe : s.pipe = .broken ∧ 0 < s.inbound
      · have h : readerStep s .readFrame =
            some { s with reader := .got, inbound := s.inbound - 1 } := by
          simp [readerStep, hpc, hframe]
        exact hmove h (by simp [hpc])
      · have h : readerStep s .readFails = some { s with reader := .exited } := by
          simp [readerStep, hpc, hpipe, hframe]
        exact hmove h (by simp [hpc])
  | got =>
      have h : readerStep s .file = some { s with reader := .exited } := by
        simp [readerStep, hpc, State.stopRequested, hstop]
      exact hmove h (by simp [hpc])
  | aborted =>
      have h : readerStep s .leave = some { s with reader := .exited } := by
        simp [readerStep, hpc]
      exact hmove h (by simp [hpc])
  | exited => exact absurd hpc hexited

theorem pacer_movable (hi : Inv s) (hstop : s.stop = .joinPacer) (hexited : s.pacer ≠ .exited) :
    Movable s .pacer := by
  have htcp : s.tcp = .exited := hi.tcpJoined (by rw [hstop]; rfl)
  obtain ⟨hwaiting, hlooked⟩ := hi.pacer hstop
  have hmove {a : PacerAction} {t : State} (h : pacerStep s a = some t)
      (hmoved : t.pacer ≠ s.pacer) : Movable s .pacer := by
    have hstep : step s (.pacer a) = some t := h
    exact .of_step hstep trivial hmoved
  cases hpc : s.pacer with
  | locking =>
      have h : pacerStep s .lock = some { s with pacer := .check } := by simp [pacerStep, hpc]
      exact hmove h (by simp [hpc])
  | check =>
      have h : pacerStep s .checkStop = some { s with pacer := .exited } := by
        simp [pacerStep, hpc, State.stopRequested, hstop]
      exact hmove h (by simp [hpc])
  | looked =>
      obtain ⟨c, rest, hpaced⟩ := List.exists_cons_of_ne_nil (hlooked hpc)
      have h : pacerStep s (.look true) = some { s with pacer := .timedWait } := by
        simp [pacerStep, hpc, hpaced]
      exact hmove h (by simp [hpc])
  | waiting => exact absurd hpc hwaiting
  | timedWait =>
      have h : pacerStep s .timer = some { s with pacer := .locking } := by simp [pacerStep, hpc]
      exact hmove h (by simp [hpc])
  | taken c =>
      have h : pacerStep s .lockSend = some { s with pacer := .sending c } := by
        simp [pacerStep, hpc, htcp]
      exact hmove h (by simp [hpc])
  | sending c =>
      have hfails : (s.conns c).sendFails = true :=
        sendFails_of_reply hi (by rw [hstop]; rfl) (by simp [hstop]) (by simp [State.replies, hpc])
      have h : pacerStep s .sendReturns = some { s with pacer := .locking } := by
        simp [pacerStep, hpc, hfails]
      exact hmove h (by simp [hpc])
  | exited => exact absurd hpc hexited

/-- In a run whose steps are timely, `stop()` never joins a thread that no step of the port
can move. -/
theorem teardown_not_deadlocked {actions : List Action}
    (run : GuardedRun step timely init actions s) : ¬ Deadlocked s := by
  have hi := inv_of_run run
  rintro ⟨thread, hjoins, hrunning, hstuck⟩
  have hmovable : Movable s thread := by
    cases thread with
    | tcp => exact tcp_movable hi (by cases hstop : s.stop <;> simp_all [StopPc.joins]) hrunning
    | reader =>
        exact reader_movable hi (by cases hstop : s.stop <;> simp_all [StopPc.joins]) hrunning
    | pacer => exact pacer_movable hi (by cases hstop : s.stop <;> simp_all [StopPc.joins]) hrunning
  obtain ⟨more, t, internal, hmoved⟩ := hmovable
  exact hmoved (hstuck more t internal)

/-- A client connects, is published and says nothing. `stop()` runs up to its first join. -/
def silentClient : List Action :=
  [.tcp (.listen true), .tcp .checkStop, .env (.clientConnects .reqImport), .tcp .accept,
    .tcp .publish, .stop .setFlag, .stop .notify, .stop .exchange, .stop .shutDown,
    .stop (.poke true), .stop .closePoke]

theorem silentClient_not_deadlocked :
    ∃ t, GuardedRun step timely init silentClient t ∧
      t.stop = .joinTcp ∧ t.tcp = .serving 0 .header ∧ ¬ Deadlocked t := by
  have run : ∃ t, GuardedRun step timely init silentClient t ∧
      t.stop = .joinTcp ∧ t.tcp = .serving 0 .header := by
    refine ⟨_, .cons trivial rfl (.cons trivial rfl (.cons trivial rfl (.cons trivial rfl
      (.cons (.inl rfl) rfl (.cons ?_ rfl (.cons trivial rfl (.cons trivial rfl
      (.cons trivial rfl (.cons trivial rfl (.cons trivial rfl (.nil _))))))))))), rfl, rfl⟩
    intro _ c
    simp
  obtain ⟨t, run, hstop, htcp⟩ := run
  exact ⟨t, run, hstop, htcp, teardown_not_deadlocked run⟩

end VirtualDualSense.UsbIp.Teardown
