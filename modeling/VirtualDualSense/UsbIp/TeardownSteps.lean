import VirtualDualSense.UsbIp.Teardown

/-!
# The steps of a teardown

What one step of each thread can change. The pacer takes replies and the reader frames,
clients only let a connection grow older, and a step of the TCP thread stays outside the
connections, accepts one, publishes it, serves it or closes it.
-/

namespace VirtualDualSense.UsbIp.Teardown

/-- The phases behind the session's look at the flag. -/
def Phase.engaged : Phase → Bool
  | .command | .body _ | .submit | .pipeWrite | .frameWait | .lockSend _ | .sending _
  | .enqueue => true
  | _ => false

/-- The next `recv_exact` on this client's opening request ends by itself. -/
def Unsilent (s : State) (c : Nat) : Phase → Prop
  | .header => Forthcoming s c
  | .busid => (s.conns c).peerClosed = true ∨ s.stop = .poking c ∨ 32 ≤ (s.conns c).unread
  | _ => True

/-- The replies the pacer sends or may still send. -/
def State.replies (s : State) : List Nat :=
  match s.pacer with
  | .taken c | .sending c => c :: s.paced
  | _ => s.paced

variable {s t : State}

/-- What the peer can do to a connection. -/
structure Conn.Later (conn conn' : Conn) : Prop where
  code : conn'.code = conn.code
  unread : conn.unread ≤ conn'.unread
  peerClosed : conn.peerClosed = true → conn'.peerClosed = true
  shut : conn.shut = true → conn'.shut = true
  closed : conn.closed = true → conn'.closed = true

theorem Conn.Later.refl (conn : Conn) : Conn.Later conn conn := ⟨rfl, Nat.le_refl _, id, id, id⟩

theorem Conn.later_update {conns : Nat → Conn} {c : Nat} {conn : Conn}
    (h : (conns c).Later conn) (d : Nat) : (conns d).Later (Function.update conns c conn d) := by
  rcases eq_or_ne d c with rfl | hd
  · rwa [Function.update_self]
  · rw [Function.update_of_ne hd]
    exact .refl _

/-- A step of the pacer changes its place and takes from the queue. -/
theorem pacerStep_cases {a : PacerAction} (h : pacerStep s a = some t) :
    ∃ pc paced, t = { s with pacer := pc, paced := paced } ∧ t.replies ⊆ s.replies ∧
      (pc = .waiting → s.pacer = .looked ∧ s.paced = []) ∧ (pc = .looked → s.stop = .idle) := by
  unfold pacerStep at h
  split at h
  case h_1 hpc | h_4 hpc =>
    obtain rfl := Option.some.inj h
    refine ⟨_, s.paced, rfl, ?_, by simp, by simp⟩
    simp [State.replies, hpc]
  case h_2 hpc =>
    obtain rfl := Option.some.inj h
    refine ⟨_, s.paced, rfl, ?_, ?_, ?_⟩
    · cases hstop : s.stopRequested <;> simp [State.replies, hpc]
    · split <;> simp
    · split <;> simp_all [State.stopRequested]
  case h_3 early hpc =>
    split at h
    · rename_i hpaced
      obtain rfl := Option.some.inj h
      exact ⟨_, s.paced, rfl, by simp [State.replies, hpc], fun _ => ⟨hpc, hpaced⟩, by simp⟩
    · rename_i c rest hpaced
      split at h
      · obtain rfl := Option.some.inj h
        exact ⟨_, s.paced, rfl, by simp [State.replies, hpc], by simp, by simp⟩
      · obtain rfl := Option.some.inj h
        exact ⟨_, rest, rfl, by simp [State.replies, hpc, hpaced], by simp, by simp⟩
  case h_5 c hpc =>
    split at h
    · cases h
    · obtain rfl := Option.some.inj h
      exact ⟨_, s.paced, rfl, by simp [State.replies, hpc], by simp, by simp⟩
  case h_6 c hpc =>
    split at h
    · cases h
    · obtain rfl := Option.some.inj h
      exact ⟨_, s.paced, rfl, by simp [State.replies, hpc], by simp, by simp⟩
  case h_7 => cases h

/-- A step of the reader changes its place and takes a frame. -/
theorem readerStep_cases {a : ReaderAction} (h : readerStep s a = some t) :
    ∃ pc inbound, t = { s with reader := pc, inbound := inbound } ∧ pc ≠ .notStarted := by
  unfold readerStep at h
  split at h
  case h_1 | h_3 =>
    split at h
    all_goals first | exact ⟨_, _, (Option.some.inj h).symm, by simp⟩ | cases h
  case h_2 => exact ⟨_, _, (Option.some.inj h).symm, by split <;> simp⟩
  case h_4 => exact ⟨_, _, (Option.some.inj h).symm, by simp⟩
  case h_5 => cases h

/-- A notification does not touch the replies. -/
theorem replies_notifyPacer (s : State) : s.notifyPacer.replies = s.replies := by
  unfold State.notifyPacer State.replies
  cases s.pacer <;> rfl

/-- The replies after one has been put into the queue. -/
theorem mem_replies_append {c d : Nat}
    (h : d ∈ { s with paced := s.paced ++ [c] }.replies) : d ∈ s.replies ∨ d = c := by
  unfold State.replies at h ⊢
  cases hpc : s.pacer <;> simp_all [or_assoc]

/-- The replies after the queue has been emptied. -/
theorem mem_replies_nil {d : Nat} (h : d ∈ { s with paced := [] }.replies) : d ∈ s.replies := by
  unfold State.replies at h ⊢
  cases hpc : s.pacer <;> simp_all

/-- The clients add a connection or change those there are; the bridge changes the pipe. -/
theorem envStep_cases {a : EnvAction} (h : envStep s a = some t) :
    (∃ code, t = { s with backlog := s.backlog ++ [s.next], next := s.next + 1 }.setConn s.next
      fun _ => .fresh code) ∨
    (∃ conns, t = { s with conns := conns } ∧ ∀ d, (s.conns d).Later (conns d)) ∨
    ∃ daemon pipe inbound full,
      t = { s with daemon := daemon, pipe := pipe, inbound := inbound, full := full } ∧
      (pipe = .connected → daemon = .opened ∨ s.pipe = .connected ∧ daemon = s.daemon) ∧
      (pipe = .listening → s.pipe = .listening) ∧
      (daemon = .opened → s.daemon = .opened ∨ s.stop = .idle) := by
  cases a with
  | clientConnects code =>
      simp only [envStep, Option.ite_none_right_eq_some, Option.some.injEq] at h
      exact .inl ⟨code, h.2.symm⟩
  | clientSends c n =>
      simp only [envStep, Option.ite_none_left_eq_some, Option.some.injEq] at h
      refine .inr (.inl ⟨_, h.2.symm, Conn.later_update ?_⟩)
      exact ⟨rfl, Nat.le_add_right _ _, id, id, id⟩
  | clientStalls c | clientReads c =>
      obtain rfl := Option.some.inj h
      exact .inr (.inl ⟨_, rfl, Conn.later_update ⟨rfl, Nat.le_refl _, id, id, id⟩⟩)
  | clientCloses c =>
      obtain rfl := Option.some.inj h
      exact .inr (.inl ⟨_, rfl, Conn.later_update ⟨rfl, Nat.le_refl _, fun _ => rfl, id, id⟩⟩)
  | daemonOpens =>
      simp only [envStep, Option.ite_none_right_eq_some, Option.some.injEq] at h
      obtain ⟨⟨-, hstop, -⟩, rfl⟩ := h
      exact .inr (.inr ⟨_, _, _, _, rfl, fun _ => .inl rfl, by simp, fun _ => .inr hstop⟩)
  | daemonWrites | daemonReads =>
      simp only [envStep, Option.ite_none_right_eq_some, Option.some.injEq] at h
      obtain ⟨-, rfl⟩ := h
      exact .inr (.inr ⟨s.daemon, s.pipe, _, _, rfl, fun hpipe => .inr ⟨hpipe, rfl⟩, id, .inl⟩)
  | daemonCloses =>
      simp only [envStep, Option.ite_none_right_eq_some, Option.some.injEq] at h
      obtain ⟨-, rfl⟩ := h
      refine .inr (.inr ⟨_, _, _, _, rfl, ?_, ?_, by simp⟩)
      all_goals split <;> simp_all

/-- A step within the connection `c`. -/
structure Serves (s t : State) (c : Nat) (p p' : Phase) : Prop where
  before : s.tcp = .serving c p
  after : t.tcp = .serving c p'
  stop : t.stop = s.stop
  slot : t.slot = s.slot
  backlog : t.backlog = s.backlog
  next : t.next = s.next
  daemon : t.daemon = s.daemon
  pipe : t.pipe = .connected → s.pipe = .connected
  shut : ∀ d, (t.conns d).shut = (s.conns d).shut
  closed : ∀ d, (t.conns d).closed = (s.conns d).closed
  replies : ∀ d ∈ t.replies, d ∈ s.replies ∨ d = c ∧ p.engaged = true
  engaged : p'.engaged = true → p.engaged = true ∨ s.stop = .idle
  opening : Unsilent s c p → Unsilent t c p'

theorem Phase.afterRecv_cases {code : OpCode} {p p' : Phase} (h : p.afterRecv code = some p') :
    (p = .header ∧ (p' = .closing ∨ code = .reqImport ∧ p' = .busid)) ∨
    (p = .busid ∧ p' = .connect) ∨ ∃ n sizes, p = .body (n :: sizes) ∧ p' = .body sizes := by
  unfold Phase.afterRecv at h
  split at h
  · refine .inl ⟨rfl, ?_⟩
    split at h
    all_goals
      obtain rfl := Option.some.inj h
      simp
  · exact .inr (.inl ⟨rfl, (Option.some.inj h).symm⟩)
  · exact .inr (.inr ⟨_, _, rfl, (Option.some.inj h).symm⟩)
  · cases h

section Serves

variable {c : Nat} {p p' : Phase} (before : s.tcp = .serving c p)

include before

/-- A step that leaves the connections alone. -/
theorem Serves.keep {pacer : PacerPc} {paced : List Nat} {reader : ReaderPc} {pipe : PipeState}
    {inbound : Nat} {full : Bool}
    (hpipe : pipe = .connected → s.pipe = .connected)
    (replies : ∀ d ∈ { s with pacer := pacer, paced := paced }.replies,
      d ∈ s.replies ∨ d = c ∧ p.engaged = true)
    (engaged : p'.engaged = true → p.engaged = true ∨ s.stop = .idle)
    (opening : Unsilent s c p → Unsilent s c p') :
    Serves s { s with
      tcp := .serving c p', pacer := pacer, paced := paced, reader := reader, pipe := pipe
      inbound := inbound, full := full } c p p' where
  before := before
  after := rfl
  stop := rfl
  slot := rfl
  backlog := rfl
  next := rfl
  daemon := rfl
  pipe := hpipe
  shut _ := rfl
  closed _ := rfl
  replies := replies
  engaged := engaged
  opening := opening

/-- A step that moves the TCP thread and changes nothing else. -/
theorem Serves.move (engaged : p'.engaged = true → p.engaged = true ∨ s.stop = .idle)
    (opening : Unsilent s c p → Unsilent s c p') :
    Serves s { s with tcp := .serving c p' } c p p' :=
  .keep before id (fun _ => .inl) engaged opening

/-- A step that takes received bytes. -/
theorem Serves.receive {size : Nat} (h : s.receive c size p' = some t)
    (engaged : p'.engaged = true → p.engaged = true ∨ s.stop = .idle)
    (opening : t.stop = s.stop → size ≤ (s.conns c).unread →
      t.conns c = { s.conns c with unread := (s.conns c).unread - size } →
      Unsilent s c p → Unsilent t c p') : Serves s t c p p' := by
  simp only [State.receive, Option.ite_none_right_eq_some, Option.some.injEq] at h
  obtain ⟨hreturns, rfl⟩ := h
  refine ⟨before, rfl, rfl, rfl, rfl, rfl, rfl, id, ?_, ?_, fun _ => .inl, engaged, ?_⟩
  · intro d
    rcases eq_or_ne d c with rfl | hd
    · simp only [Function.update_self]
    · simp only [Function.update_of_ne hd]
  · intro d
    rcases eq_or_ne d c with rfl | hd
    · simp only [Function.update_self]
    · simp only [Function.update_of_ne hd]
  · simp only [Conn.recvReturns, decide_eq_true_eq] at hreturns
    exact opening rfl hreturns.2 (Function.update_self ..)

/-- A complete `recv_exact` of the opening request or of a command's body. -/
theorem Serves.recv {size : Nat} (hsize : p.recvSize = some size)
    (hafter : p.afterRecv (s.conns c).code = some p') (h : s.receive c size p' = some t) :
    Serves s t c p p' := by
  obtain ⟨rfl, rfl | ⟨hcode, rfl⟩⟩ | ⟨rfl, rfl⟩ | ⟨n, sizes, rfl, rfl⟩ :=
    Phase.afterRecv_cases hafter
  · exact .receive before h (by simp [Phase.engaged]) (fun _ _ _ _ => trivial)
  · refine .receive before h (by simp [Phase.engaged]) ?_
    intro hstop hle hconn hforth
    obtain rfl : 8 = size := Option.some.inj hsize
    simp only [Unsilent, hconn, hstop]
    refine hforth.imp id (.imp id ?_)
    intro hrequest
    rw [hcode, OpCode.requestSize] at hrequest
    omega
  · exact .receive before h (by simp [Phase.engaged]) (fun _ _ _ _ => trivial)
  · exact .receive before h (fun _ => .inl rfl) (fun _ _ _ _ => trivial)

end Serves

/-- What a step of the TCP thread does. -/
inductive TcpMove (s : State) (a : TcpAction) : State → Prop
  | outside (pc : TcpPc) (before : s.tcp = .starting ∨ s.tcp = .loop)
      (after : pc = .loop ∨ pc = .exited ∨ pc = .accepting ∧ s.stop = .idle) :
      TcpMove s a { s with tcp := pc }
  | accept (pc : TcpPc) (c : Nat) (rest : List Nat) (before : s.tcp = .accepting)
      (queue : s.backlog = c :: rest) (after : pc = .accepted c ∨ pc = .loop) :
      TcpMove s a { s with tcp := pc, backlog := rest }
  | publish (c : Nat) (action : a = .publish) (before : s.tcp = .accepted c) :
      TcpMove s a { s with tcp := .serving c .header, slot := some c }
  | serve (c : Nat) (p p' : Phase) (t : State) (serves : Serves s t c p p')
      (awaits : p' = .awaitDaemon →
        a = .connectPipe false ∧ s.pipe ≠ .connected ∧ s.pipe ≠ .broken) :
      TcpMove s a t
  | close (c : Nat) (before : s.tcp = .serving c .closing) :
      TcpMove s a ({ s with slot := none, tcp := .loop }.setConn c
        fun conn => { conn with closed := true })

theorem tcpMove_of_step {a : TcpAction} (h : tcpStep s a = some t) : TcpMove s a t := by
  unfold tcpStep at h
  split at h
  case h_1 ok htcp =>
    obtain rfl := Option.some.inj h
    exact .outside _ (.inl htcp) (by cases ok <;> simp)
  case h_2 htcp =>
    obtain rfl := Option.some.inj h
    refine .outside _ (.inr htcp) ?_
    cases hstop : s.stopRequested with
    | false => simpa [State.stopRequested] using hstop
    | true => simp
  case h_3 htcp =>
    split at h
    · rename_i c rest hqueue
      obtain rfl := Option.some.inj h
      exact .accept _ c rest htcp hqueue (.inl rfl)
    · cases h
  case h_4 htcp =>
    split at h
    · rename_i c rest hqueue
      split at h
      · obtain rfl := Option.some.inj h
        exact .accept _ c rest htcp hqueue (.inr rfl)
      · cases h
    · cases h
  case h_5 c htcp =>
    obtain rfl := Option.some.inj h
    exact .publish c rfl htcp
  case h_6 c phase htcp =>
    split at h
    · rename_i size phase' hsize hafter
      exact .serve c phase phase' t (.recv htcp hsize hafter h) (by
        rintro rfl
        simpa using Phase.afterRecv_cases hafter)
    · cases h
  case h_7 c command htcp =>
    refine .serve c .command _ t (.receive htcp h (fun _ => .inl rfl) ?_) ?_
    all_goals cases command <;> simp [Phase.afterCommand, Unsilent]
  case h_8 c phase htcp =>
    split at h
    · rename_i size hsize
      split at h
      · obtain rfl := Option.some.inj h
        refine .serve c phase _ _ (.move htcp ?_ ?_) ?_
        all_goals split <;> simp [Phase.engaged, Unsilent]
      · cases h
    · cases h
  case h_9 c atOnce htcp =>
    unfold State.connectPipe at h
    split at h
    · obtain rfl := Option.some.inj h
      exact .serve c .connect .check _
        (.keep htcp id (fun _ => .inl) (by simp [Phase.engaged]) id) (by simp)
    · obtain rfl := Option.some.inj h
      exact .serve c .connect .closing _ (.move htcp (by simp [Phase.engaged]) id) (by simp)
    all_goals
      rename_i hpipe
      split at h
      · obtain rfl := Option.some.inj h
        exact .serve c .connect .check _
          (.keep htcp (by simp) (fun _ => .inl) (by simp [Phase.engaged]) id) (by simp)
      · rename_i hatOnce
        obtain rfl := Option.some.inj h
        refine .serve c .connect .awaitDaemon _
          (.keep htcp (by simp) (fun _ => .inl) (by simp [Phase.engaged]) id) ?_
        simpa [hpipe] using hatOnce
  case h_10 c htcp =>
    split at h
    · cases h
    · obtain rfl := Option.some.inj h
      exact .serve c .awaitDaemon .check _
        (.keep htcp id (fun _ => .inl) (by simp [Phase.engaged]) id) (by simp)
  case h_11 c htcp =>
    obtain rfl := Option.some.inj h
    refine .serve c .check _ _ (.move htcp ?_ ?_) ?_
    · cases hstop : s.stopRequested with
      | false => exact fun _ => .inr (by simpa [State.stopRequested] using hstop)
      | true => simp [Phase.engaged]
    all_goals split <;> simp [Unsilent]
  case h_12 c w htcp =>
    obtain rfl := Option.some.inj h
    refine .serve c (.body []) _ _ (.move htcp (fun _ => .inl rfl) ?_) ?_
    all_goals cases w <;> simp [Phase.afterWork, Unsilent]
  case h_13 c w htcp =>
    obtain rfl := Option.some.inj h
    refine .serve c .submit _ _ (.move htcp (fun _ => .inl rfl) ?_) ?_
    all_goals cases w <;> simp [Phase.afterWork, Unsilent]
  case h_14 c ok fills htcp =>
    split at h
    case h_1 =>
      split at h
      · cases h
      · obtain rfl := Option.some.inj h
        exact .serve c .pipeWrite .submit _
          (.keep htcp id (fun _ => .inl) (fun _ => .inl rfl) id) (by simp)
    case h_4 =>
      obtain rfl := Option.some.inj h
      exact .serve c .pipeWrite .ending _ (.move htcp (fun _ => .inl rfl) id) (by simp)
    all_goals cases h
  case h_15 c htcp =>
    obtain rfl := Option.some.inj h
    exact .serve c .frameWait .submit _ (.move htcp (fun _ => .inl rfl) id) (by simp)
  case h_16 c reply htcp =>
    split at h
    · cases h
    · obtain rfl := Option.some.inj h
      exact .serve c (.lockSend reply) _ _ (.move htcp (fun _ => .inl rfl) id) (by simp)
  case h_17 c reply ok htcp =>
    split at h
    · split at h
      · cases h
      · obtain rfl := Option.some.inj h
        exact .serve c (.sending reply) _ _ (.move htcp (fun _ => .inl rfl) id) (by simp)
    · split at h
      · obtain rfl := Option.some.inj h
        refine .serve c (.sending reply) _ _ (.move htcp (fun _ => .inl rfl) ?_) ?_
        all_goals split <;> simp [Unsilent]
      · cases h
  case h_18 c htcp =>
    split at h
    · cases h
    · obtain rfl := Option.some.inj h
      refine .serve c .enqueue .check _ (.keep htcp id ?_ (fun _ => .inl rfl) id) (by simp)
      intro d hd
      have hreplies := replies_notifyPacer { s with paced := s.paced ++ [c] }
      exact (mem_replies_append (hreplies ▸ hd)).imp id fun hdc => ⟨hdc, rfl⟩
  case h_19 c htcp =>
    split at h
    · cases h
    · obtain rfl := Option.some.inj h
      exact .serve c .ending .closing _
        (.keep htcp (by simp) (fun _ hd => .inl (mem_replies_nil hd)) (by simp [Phase.engaged]) id)
        (by simp)
  case h_20 c htcp =>
    obtain rfl := Option.some.inj h
    exact .close c htcp
  case h_21 => cases h

end VirtualDualSense.UsbIp.Teardown
