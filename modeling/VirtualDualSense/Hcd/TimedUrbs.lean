import VirtualDualSense.Hcd.CompletionOrder
import VirtualDualSense.Hcd.Disconnect
import VirtualDualSense.Hcd.FeatureReads

/-!
# Timed URBs

What the steps of the other threads leave alone of a URB that waits for its ready time:
its context, the order of the timed entries, and the time from which the next URB of its
direction is counted.
-/

namespace VirtualDualSense.Hcd.TimedUrbs

open Protocol.Frames UsbCore Sections Filing Threads ThreadSteps Lifecycle AtomicRuns
  CompletionOrder FeatureReads

section NextReady

variable {dev : HcdDev} {id : CtxId}

/-- The time from which the next URB of a direction is counted. -/
def nextIsoReady (dev : HcdDev) (input : Bool) : Nat :=
  if input then dev.nextIsoInReady else dev.nextIsoOutReady

theorem nextIsoReady_queueUrbGivebackLocked (status : Int) :
    nextIsoReady (queueUrbGivebackLocked dev id status) = nextIsoReady dev := by
  unfold queueUrbGivebackLocked
  split
  · rfl
  · split_ifs <;> rfl

theorem nextIsoReady_foldl {f : HcdDev → CtxId → HcdDev}
    (hf : ∀ dev id, nextIsoReady (f dev id) = nextIsoReady dev) (ids : List CtxId) :
    nextIsoReady (ids.foldl f dev) = nextIsoReady dev := by
  induction ids generalizing dev with
  | nil => rfl
  | cons id rest ih => exact ih.trans (hf dev id)

theorem nextIsoReady_hcdStop : nextIsoReady (hcdStop dev) = nextIsoReady dev :=
  nextIsoReady_foldl (fun _ _ => nextIsoReady_queueUrbGivebackLocked eshutdown)
    (dev.pendingHidIn ++ dev.pendingFeatureGet)

theorem nextIsoReady_urbDequeue (status : Int) :
    nextIsoReady (urbDequeue dev id status).1 = nextIsoReady dev := by
  unfold urbDequeue
  split
  · rfl
  · dsimp only
    split_ifs
    · rfl
    · rfl
    · rfl
    · exact nextIsoReady_queueUrbGivebackLocked status

theorem nextIsoReady_enqueueFrame (type : FrameType) (payload : List UInt8) (alloc : Bool) :
    nextIsoReady (enqueueFrame dev type payload alloc).1 = nextIsoReady dev := by
  unfold enqueueFrame
  split_ifs <;> rfl

theorem nextIsoReady_writeInputFrame (payload : List UInt8) (alloc : Bool) (now : Nat) :
    nextIsoReady (writeInputFrame dev payload alloc now).1 = nextIsoReady dev := by
  have hbuffered : nextIsoReady (queueInputPacketLocked dev payload alloc).1 =
      nextIsoReady dev := by
    unfold queueInputPacketLocked
    split_ifs <;> rfl
  unfold writeInputFrame completePendingInputLocked
  split_ifs
  · rfl
  · rfl
  · cases dev.pendingHidIn with
    | nil =>
        dsimp only
        split_ifs <;> exact hbuffered
    | cons pending rest => exact nextIsoReady_queueUrbGivebackLocked 0

theorem nextIsoReady_completeFeatureReply (payload : List UInt8) :
    nextIsoReady (completeFeatureReply dev payload).1 = nextIsoReady dev := by
  unfold completeFeatureReply
  split_ifs
  · rfl
  · refine nextIsoReady_foldl (fun dev id => ?_) dev.pendingFeatureGet
    unfold completePendingFeatureReply
    split
    · rfl
    · split_ifs
      · rfl
      · exact nextIsoReady_queueUrbGivebackLocked _

theorem nextIsoReady_isoInPackets {n : Nat} (descs : List IsoPacketDescriptor)
    (buffer : Vector UInt8 n) :
    nextIsoReady (isoInPackets dev buffer descs).1 = nextIsoReady dev := by
  induction descs generalizing dev buffer with
  | nil => rfl
  | cons desc rest ih =>
      simp only [isoInPackets]
      split_ifs
      · exact ih buffer
      · exact ih _

theorem nextIsoReady_isoInUrb (urb : Urb) :
    nextIsoReady (isoInUrb dev urb).1 = nextIsoReady dev := by
  unfold isoInUrb
  split
  · rfl
  · exact nextIsoReady_isoInPackets _ _

theorem nextIsoReady_deferFeatureGet (reportId : UInt8) :
    nextIsoReady (deferFeatureGet dev id reportId).1 = nextIsoReady dev := by
  unfold deferFeatureGet
  split
  · rfl
  · split_ifs <;> rfl

end NextReady

section Order

/-- Of two timed entries the first is not ready later. -/
def InTime (time other : Nat) : Prop := time ≠ 0 → other ≠ 0 → time ≤ other

/-- The timed entries are in the order of their times, wherever the untimed ones are. -/
def TimedOrdered (dev : HcdDev) : Prop :=
  dev.completedUrbs.Pairwise fun a b => InTime (dev.readyTime a) (dev.readyTime b)

theorem inTime_insertCompleted (readyTime : CtxId → Nat) (ids : List CtxId)
    (h : ids.Pairwise fun a b => InTime (readyTime a) (readyTime b)) (id : CtxId) :
    (insertCompleted readyTime id (readyTime id) ids).Pairwise
      fun a b => InTime (readyTime a) (readyTime b) := by
  induction ids with
  | nil => exact List.pairwise_singleton _ _
  | cons pos rest ih =>
      obtain ⟨hpos, hrest⟩ := List.pairwise_cons.mp h
      simp only [insertCompleted]
      split_ifs with hbefore
      · refine List.pairwise_cons.mpr ⟨fun other hother hid hne => ?_, h⟩
        have hlt : readyTime id < readyTime pos := hbefore.2.resolve_left hid
        rcases List.mem_cons.mp hother with rfl | hmem
        · exact hlt.le
        · exact hlt.le.trans (hpos other hmem hbefore.1 hne)
      · refine List.pairwise_cons.mpr ⟨fun other hother hne hid => ?_, ih hrest⟩
        rcases List.mem_cons.mp ((insertCompleted_perm _ _ _ _).mem_iff.mp hother) with rfl | hmem
        · by_contra hlt
          exact hbefore ⟨hne, .inr (Nat.lt_of_not_le hlt)⟩
        · exact hpos other hmem hne hid

end Order

section Steps

variable {s t : System} {action : Action} {id : CtxId}

theorem timedOrdered_of_step (life : Lifecycle.Inv s) (h : step s action = some t)
    (ordered : TimedOrdered s.dev) : TimedOrdered t.dev := by
  cases rearranges_of_step (P := fun _ => True) life (fun _ _ => trivial) h with
  | files files => exact files.pairwise inTime_insertCompleted ordered
  | cancels id _ hlist hid hothers =>
      rw [TimedOrdered, hlist]
      refine List.Pairwise.imp (fun {a b} hinTime => ?_) ordered
      intro hne hne'
      by_cases ha : a = id
      · exact absurd (ha ▸ hid) hne
      by_cases hb : b = id
      · exact absurd (hb ▸ hid) hne'
      rw [hothers a ha] at hne ⊢
      rw [hothers b hb] at hne' ⊢
      exact hinTime hne hne'
  | takes _ hlist htimes =>
      rw [TimedOrdered, hlist, htimes]
      exact ordered.tail

/-- Time does not run backwards, and only `tick` moves it. -/
theorem clock_le_of_step (h : step s action = some t) :
    s.clock ≤ t.clock ∧ ((∀ time, action ≠ .tick time) → t.clock = s.clock) := by
  have hsame : ∀ {u : System}, u.clock = s.clock →
      s.clock ≤ u.clock ∧ ((∀ time, action ≠ .tick time) → u.clock = s.clock) :=
    fun hclock => ⟨hclock.ge, fun _ => hclock⟩
  cases steps_of_step h with
  | tick time later => exact ⟨later, fun hother => absurd rfl (hother time)⟩
  | submit urb alloc linkRet =>
      unfold Threads.submit
      split_ifs <;> exact hsame rfl
  | handle id context =>
      obtain ⟨_, _, hframe⟩ := handle_frame s id context
      rw [hframe]
      exact hsame rfl
  | call id alloc next calls ret =>
      obtain ⟨_, _, _, hframe⟩ := call_frame s id alloc calls ret next
      rw [hframe]
      exact hsame rfl
  | write frame flags alloc =>
      obtain ⟨_, _, hframe⟩ := write_frame s frame flags alloc
      rw [hframe]
      exact hsame rfl
  | resume syscall => cases syscall <;> exact hsame rfl
  | deliver id status =>
      obtain ⟨_, _, hframe⟩ := deliver_frame s id status
      rw [hframe]
      exact hsame rfl
  | handleFreed | defer | request | refile | schedule | file | dequeue | openFile | release | read
  | connect | disconnect | setProfile | hubControl | stop | sleep | wake | take | place | placed
  | giveback => exact hsame rfl

/-- A step of another thread leaves a context alone that waits for neither input nor a report. -/
theorem context_of_step (life : Lifecycle.Inv s) (h : step s action = some t)
    (hid : id < s.dev.submitted) (hhidIn : s.dev.stateOf id ≠ some .pendingHidIn)
    (hfeatureGet : s.dev.stateOf id ≠ some .pendingFeatureGet)
    (hconnected : disconnects action = false) (hown : continues action ≠ some (.enqueuer id))
    (hdequeue : ∀ status, action ≠ .dequeue id status)
    (htake : action = .take → id ∉ s.dev.completedUrbs)
    (hheld : continues action = some .giveback → holds s.giveback ≠ some id) :
    t.dev.contexts id = s.dev.contexts id := by
  have hnotHidIn : id ∉ s.dev.pendingHidIn := fun hmem =>
    hhidIn ((life.lists.hidIn.mem_iff id).mp hmem)
  have hnotFeatureGet : id ∉ s.dev.pendingFeatureGet := fun hmem =>
    hfeatureGet ((life.lists.featureGet.mem_iff id).mp hmem)
  by_cases hstop : action = .stop
  · subst hstop
    obtain rfl := Option.some.inj h
    refine Spares.hcdStop.contexts id fun hmem => ?_
    rcases List.mem_append.mp hmem with hmem | hmem
    · exact hnotHidIn hmem
    · exact hnotFeatureGet hmem
  refine (spared_of_step hid h ?_ ?_).context
  · rintro rfl
    exact hown rfl
  · intro htouched
    cases action with
    | handle j | call j alloc | schedule j | file j | refile j =>
        obtain rfl : id = j := htouched
        exact hown rfl
    | dequeue j status =>
        obtain rfl : id = j := htouched
        exact hdequeue status rfl
    | write frame flags alloc => exact hnotHidIn htouched
    | disconnect => cases hconnected
    | stop => exact hstop rfl
    | resume syscall =>
        cases syscall with
        | featureReply payload => exact hnotFeatureGet htouched.1
        | disconnect => cases hconnected
        | resetUsb => exact htouched
    | take => exact htake rfl htouched
    | deliver | place | giveback => exact hheld rfl htouched
    | _ => exact htouched

theorem timing_deliver {status : Int} :
    (Threads.deliver s id status).dev.stateOf = s.dev.stateOf ∧
      (Threads.deliver s id status).dev.readyTime = s.dev.readyTime := by
  have hcopy : ∀ (dev : HcdDev) (urb : Urb), dev.contexts = s.dev.contexts →
      (dev.modifyContext id fun context => { context with urb := urb }).stateOf = s.dev.stateOf ∧
      (dev.modifyContext id fun context => { context with urb := urb }).readyTime =
        s.dev.readyTime := by
    intro dev urb hcontexts
    have hstates := stateOf_modifyContext dev id
      (f := fun context => { context with urb := urb }) fun _ => rfl
    have htimes : (dev.modifyContext id fun context => { context with urb := urb }).readyTime =
        dev.readyTime := readyTime_modifyContext fun _ => rfl
    refine ⟨hstates.trans ?_, htimes.trans ?_⟩
    · funext j
      rw [HcdDev.stateOf, hcontexts, HcdDev.stateOf]
    · funext j
      rw [HcdDev.readyTime, hcontexts, HcdDev.readyTime]
  unfold Threads.deliver
  split
  · exact ⟨rfl, rfl⟩
  · rename_i context _
    dsimp only
    split_ifs
    · exact hcopy s.dev _ rfl
    · exact hcopy s.dev _ rfl
    · exact hcopy _ _ (Disconnect.contexts_isoInUrb context.urb)
    · exact ⟨rfl, rfl⟩

/-- A delivery changes the buffer and the counters of the URB, not its state or its time. -/
theorem timing_of_delivers (h : step s action = some t)
    (hdelivers : continues action = some .giveback) (hgiveback : action ≠ .giveback) :
    t.dev.stateOf = s.dev.stateOf ∧ t.dev.readyTime = s.dev.readyTime := by
  cases steps_of_step h with
  | deliver => exact timing_deliver
  | place id alloc payload payloads =>
      simp only [Threads.place, Sections.enqueueFrame]
      split_ifs <;> exact ⟨rfl, rfl⟩
  | placed => exact ⟨rfl, rfl⟩
  | giveback => exact absurd rfl hgiveback
  | _ => cases hdelivers

/-- Until a timed URB is taken, only its own thread and a cancellation change its state or its
time. -/
theorem timing_of_step (life : Lifecycle.Inv s) (h : step s action = some t)
    (hid : id < s.dev.submitted) (hhidIn : s.dev.stateOf id ≠ some .pendingHidIn)
    (hfeatureGet : s.dev.stateOf id ≠ some .pendingFeatureGet)
    (hconnected : disconnects action = false) (hown : continues action ≠ some (.enqueuer id))
    (hdequeue : ∀ status, action ≠ .dequeue id status) (htake : action ≠ .take)
    (hgiveback : action ≠ .giveback) :
    t.dev.stateOf id = s.dev.stateOf id ∧ t.dev.readyTime id = s.dev.readyTime id := by
  by_cases hdelivers : continues action = some .giveback
  · obtain ⟨hstates, htimes⟩ := timing_of_delivers h hdelivers hgiveback
    exact ⟨congrFun hstates id, congrFun htimes id⟩
  · have hcontext := context_of_step life h hid hhidIn hfeatureGet hconnected hown hdequeue
      (fun haction => absurd haction htake) fun haction => absurd haction hdelivers
    rw [HcdDev.stateOf, hcontext, HcdDev.readyTime, hcontext]
    exact ⟨rfl, rfl⟩

/-- The giveback thread takes the first entry once it is ready. -/
theorem take_cases (life : Lifecycle.Inv s) (h : step s .take = some t) :
    ∃ id rest, s.dev.completedUrbs = id :: rest ∧ s.dev.readyTime id < s.clock + nsecPerUsec ∧
      s.giveback = .idle ∧ t.enqueuers = s.enqueuers ∧
        t.dev.stateOf = Function.update s.dev.stateOf id (some .givingBack) ∧
          t.dev.readyTime = s.dev.readyTime := by
  cases steps_of_step h with
  | take dev id status hidle htake =>
      unfold takeCompleted at htake
      split at htake
      · cases htake
      · rename_i first rest hcompleted
        obtain ⟨hready, heq⟩ := Option.ite_none_left_eq_some.mp htake
        cases heq
        have hlive : s.dev.stateOf id ≠ none := by
          rw [(life.lists.completed.mem_iff id).mp (by simp [hcompleted])]
          simp
        refine ⟨id, rest, hcompleted, ?_, hidle, rfl, ?_, ?_⟩
        · simp only [notYetReady, Bool.and_eq_true, decide_eq_true_eq, not_and] at hready
          simp only [nsecPerUsec] at hready ⊢
          omega
        · exact stateOf_modifyContext_eq s.dev id .givingBack (fun _ => rfl) hlive
        · exact readyTime_modifyContext fun _ => rfl

theorem file_cases (h : step s (.file id) = some t) :
    ∃ ret, s.enqueuers id = .handling [] ret ∧
      t.enqueuers = Function.update s.enqueuers id .returned ∧
      t.dev.stateOf = Function.update s.dev.stateOf id ((s.dev.stateOf id).map fileState) ∧
        t.dev.readyTime = s.dev.readyTime := by
  cases steps_of_step h with
  | file id ret hpc =>
      exact ⟨ret, hpc, rfl, stateOf_queueUrbGivebackLocked s.dev id ret,
        readyTime_queueUrbGivebackLocked ret⟩

/-- A URB is scheduled behind the one before of its direction, or behind now. -/
theorem schedule_cases (h : step s (.schedule id) = some t) {context : UrbContext}
    (hcontext : s.dev.contexts id = some context) :
    ∃ direction, s.enqueuers id = .scheduling direction ∧
      t.enqueuers = Function.update s.enqueuers id (.handling [] 0) ∧
      t.dev.stateOf = s.dev.stateOf ∧ (∀ j, j ≠ id → t.dev.readyTime j = s.dev.readyTime j) ∧
      t.dev.readyTime id = base (nextIsoReady s.dev direction) s.clock +
        isoDurationUs context.urb direction * nsecPerUsec ∧
      nextIsoReady t.dev = Function.update (nextIsoReady s.dev) direction (t.dev.readyTime id) := by
  cases steps_of_step h with
  | schedule id direction hpc =>
      refine ⟨direction, hpc, rfl, ?_⟩
      have hstates : ∀ context' : UrbContext, context'.state = context.state →
          Function.update s.dev.stateOf id (some context'.state) = s.dev.stateOf := by
        intro context' hstate
        rw [Function.update_eq_self_iff, hstate]
        simp [HcdDev.stateOf, hcontext]
      simp only [System.setPc, scheduleIsoGiveback, hcontext]
      cases direction
      · refine ⟨(stateOf_update s.dev id _).trans (hstates _ rfl), fun j hj => ?_, ?_, ?_⟩
        · simp [HcdDev.readyTime, hj]
        · simp [HcdDev.readyTime, nextIsoReady]
        · funext direction
          cases direction <;> simp [HcdDev.readyTime, nextIsoReady]
      · refine ⟨(stateOf_update s.dev id _).trans (hstates _ rfl), fun j hj => ?_, ?_, ?_⟩
        · simp [HcdDev.readyTime, hj]
        · simp [HcdDev.readyTime, nextIsoReady]
        · funext direction
          cases direction <;> simp [HcdDev.readyTime, nextIsoReady]

theorem giveback_cases (h : step s .giveback = some t) :
    ∃ id, holds s.giveback = some id ∧ t.enqueuers = s.enqueuers ∧
      t.dev.stateOf = Function.update s.dev.stateOf id none ∧
        ∀ j, j ≠ id → t.dev.readyTime j = s.dev.readyTime j := by
  cases steps_of_step h with
  | giveback id status hpc =>
      refine ⟨id, by rw [hpc, holds], rfl, stateOf_update s.dev id none, fun j hj => ?_⟩
      simp [HcdDev.readyTime, givebackUrb, hj]

theorem nextIsoReady_handle {context : UrbContext} :
    nextIsoReady (Threads.handle s id context).dev = nextIsoReady s.dev := by
  dsimp only [Threads.handle]
  cases context.urb.pipeType with
  | control => rfl
  | interrupt =>
      dsimp only
      split
      · unfold interruptInUrb
        split <;> rfl
      · split_ifs <;> rfl
  | isochronous =>
      dsimp only
      split_ifs <;> rfl
  | bulk => rfl

theorem nextIsoReady_call {calls : List Call} {ret : Int} {next : Call} (alloc : Bool) :
    nextIsoReady (Threads.call s id alloc calls ret next).dev = nextIsoReady s.dev := by
  cases next with
  | setStatus flags enabled => rfl
  | notify type payload => exact nextIsoReady_enqueueFrame type payload alloc
  | forward type payload actualLength =>
      simp only [Threads.call]
      split_ifs
      · exact nextIsoReady_enqueueFrame type payload alloc
      · exact nextIsoReady_enqueueFrame type payload alloc

theorem nextIsoReady_write {frame : Frame} {flags : UInt16} {alloc : Bool} :
    nextIsoReady (Threads.write s frame flags alloc).dev = nextIsoReady s.dev := by
  unfold Threads.write
  split_ifs
  · rfl
  · split
    · exact nextIsoReady_writeInputFrame _ _ _
    · dsimp only
      split_ifs <;> rfl
    · unfold writeAudioInFrame
      split_ifs <;> rfl
    · rfl

theorem nextIsoReady_deliver {status : Int} :
    nextIsoReady (Threads.deliver s id status).dev = nextIsoReady s.dev := by
  unfold Threads.deliver
  split
  · rfl
  · rename_i context _
    dsimp only
    split_ifs
    · rfl
    · rfl
    · exact nextIsoReady_isoInUrb context.urb
    · rfl

theorem nextIsoReady_place {payload : List UInt8} {payloads : List (List UInt8)} (alloc : Bool) :
    nextIsoReady (Threads.place s id alloc payload payloads).dev = nextIsoReady s.dev := by
  simp only [Threads.place]
  split_ifs <;> exact nextIsoReady_enqueueFrame _ payload alloc

/-- Only scheduling an isochronous URB and a disconnect move these times. -/
theorem nextIsoReady_of_step (h : step s action = some t) (hschedule : ∀ id, action ≠ .schedule id)
    (hconnected : disconnects action = false) : nextIsoReady t.dev = nextIsoReady s.dev := by
  cases steps_of_step h with
  | schedule id => exact absurd rfl (hschedule id)
  | disconnect => cases hconnected
  | submit urb alloc linkRet =>
      unfold Threads.submit
      split_ifs <;> rfl
  | handle id => exact nextIsoReady_handle
  | call id alloc => exact nextIsoReady_call alloc
  | defer id => exact nextIsoReady_deferFeatureGet _
  | request id alloc => exact nextIsoReady_enqueueFrame _ _ alloc
  | refile id => exact nextIsoReady_queueUrbGivebackLocked _
  | file id => exact nextIsoReady_queueUrbGivebackLocked _
  | dequeue id status => exact nextIsoReady_urbDequeue status
  | write frame flags alloc => exact nextIsoReady_write
  | read count =>
      unfold Sections.read
      split
      · rfl
      · split_ifs <;> rfl
  | connect =>
      unfold connectLocked
      split_ifs <;> rfl
  | setProfile profile pollingRateMode =>
      unfold Sections.setProfile
      split_ifs
      · rfl
      · rfl
      · split <;> rfl
  | resume syscall =>
      cases syscall with
      | featureReply payload => exact nextIsoReady_completeFeatureReply payload
      | disconnect => cases hconnected
      | resetUsb => rfl
  | hubControl request value index =>
      unfold Sections.hubControl
      repeat' (first | rfl | split)
  | stop => exact nextIsoReady_hcdStop
  | take dev id status hpc taken =>
      unfold takeCompleted at taken
      split at taken
      · cases taken
      · obtain ⟨-, heq⟩ := Option.ite_none_left_eq_some.mp taken
        cases heq
        rfl
  | deliver => exact nextIsoReady_deliver
  | place id alloc => exact nextIsoReady_place alloc
  | tick | handleFreed | openFile | release | sleep | wake | placed | giveback => rfl

end Steps

end VirtualDualSense.Hcd.TimedUrbs
