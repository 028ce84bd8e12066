import VirtualDualSense.Hcd.Queues

/-!
# Operations that do not overlap

When every operation of the driver runs to its end before the next one starts,
each accepted URB is on one of the lists or was given back, and a disconnect
leaves no URB waiting.
-/

namespace VirtualDualSense.Hcd.AtomicRuns

open Lib.Runs Lib.Fibers Protocol.Frames UsbCore Sections Filing Threads ThreadSteps Lifecycle
  Queues

/-- The threads that may be in the middle of an operation. -/
inductive Party
  | enqueuer (id : CtxId)
  | giveback
  | syscall

def busy (s : System) : Party → Prop
  | .enqueuer id => s.enqueuers id ≠ .returned
  | .giveback => holds s.giveback ≠ none
  | .syscall => s.syscalls ≠ []

/-- No operation is under way. -/
def AtRest (s : System) : Prop := ∀ party, ¬busy s party

/-- The party whose operation an action continues. -/
def continues : Action → Option Party
  | .handle id | .call id _ | .defer id | .request id _ | .refile id | .schedule id | .file id =>
      some (.enqueuer id)
  | .deliver | .place _ | .giveback => some .giveback
  | .resume _ => some .syscall
  | _ => none

/-- Only the operation that is under way continues; time may pass meanwhile. -/
def Atomic (s : System) : Action → Prop
  | .tick _ => True
  | action => ∀ party, busy s party → continues action = some party

section Cancel

variable {dev dev' : HcdDev} {id : CtxId} {status : Int}

/-- The URB is queued for giveback with a status. -/
def QueuedWith (dev : HcdDev) (id : CtxId) (status : Int) : Prop :=
  ∃ context, dev.contexts id = some context ∧ context.state = .pendingGiveback ∧
    context.status = status

def Pending (dev : HcdDev) (id : CtxId) : Prop :=
  dev.stateOf id = some .pendingHidIn ∨ dev.stateOf id = some .pendingFeatureGet

theorem QueuedWith.stateOf (queued : QueuedWith dev id status) :
    dev.stateOf id = some .pendingGiveback := by
  obtain ⟨context, hcontext, hstate, -⟩ := queued
  simp [HcdDev.stateOf, hcontext, hstate]

theorem contexts_queueUrbGivebackLocked_of_ne {j : CtxId} (h : id ≠ j) :
    (queueUrbGivebackLocked dev j status).contexts id = dev.contexts id := by
  unfold queueUrbGivebackLocked
  split
  · rfl
  · split_ifs
    · rfl
    · exact Function.update_of_ne h _ _

theorem queuedWith_queueUrbGivebackLocked (h : Pending dev id) :
    QueuedWith (queueUrbGivebackLocked dev id status) id status := by
  unfold queueUrbGivebackLocked
  cases hcontext : dev.contexts id with
  | none => simp [Pending, HcdDev.stateOf, hcontext] at h
  | some context =>
      have hnot : ¬(context.state = .pendingGiveback ∨ context.state = .givingBack) := by
        simp only [Pending, HcdDev.stateOf, hcontext, Option.map_some, Option.some.injEq] at h
        rcases h with h | h <;> simp [h]
      simp only [hnot, if_false]
      exact ⟨_, Function.update_self .., rfl, rfl⟩

/-- Once queued, a context keeps its status while others are queued. -/
theorem QueuedWith.queue (queued : QueuedWith dev id status) (j : CtxId) (status' : Int) :
    QueuedWith (queueUrbGivebackLocked dev j status') id status := by
  by_cases h : id = j
  · subst h
    obtain ⟨context, hcontext, hstate, hstatus⟩ := queued
    refine ⟨context, ?_, hstate, hstatus⟩
    simp [queueUrbGivebackLocked, hcontext, hstate]
  · obtain ⟨context, hcontext, hrest⟩ := queued
    exact ⟨context, (contexts_queueUrbGivebackLocked_of_ne h).trans hcontext, hrest⟩

theorem Pending.queue_of_ne (pending : Pending dev id) {j : CtxId} (h : id ≠ j) :
    Pending (queueUrbGivebackLocked dev j status) id := by
  simpa only [Pending, HcdDev.stateOf, contexts_queueUrbGivebackLocked_of_ne h] using pending

theorem QueuedWith.queueUrbsGiveback (queued : QueuedWith dev id status) (ids : List CtxId)
    (status' : Int) : QueuedWith (Sections.queueUrbsGiveback dev ids status') id status := by
  induction ids generalizing dev with
  | nil => exact queued
  | cons j rest ih => exact ih (queued.queue j status')

theorem queuedWith_queueUrbsGiveback (ids : List CtxId) (hmem : id ∈ ids)
    (pending : Pending dev id) : QueuedWith (queueUrbsGiveback dev ids status) id status := by
  induction ids generalizing dev with
  | nil => cases hmem
  | cons j rest ih =>
      by_cases h : id = j
      · subst h
        exact (queuedWith_queueUrbGivebackLocked pending).queueUrbsGiveback rest status
      · have hrest : id ∈ rest := (List.mem_cons.mp hmem).resolve_left h
        exact ih hrest (pending.queue_of_ne h)

/-- Nothing waits any more, and what waited is queued with the status. -/
structure Cancelled (dev dev' : HcdDev) (status : Int) : Prop where
  hidIn : dev'.pendingHidIn = []
  featureGet : dev'.pendingFeatureGet = []
  queued : ∀ id ∈ dev.pendingHidIn ++ dev.pendingFeatureGet,
    id ∈ dev'.completedUrbs ∧ QueuedWith dev' id status

theorem pending_iff (lists : Lists dev) :
    Pending dev id ↔ id ∈ dev.pendingHidIn ++ dev.pendingFeatureGet := by
  rw [List.mem_append, lists.hidIn.mem_iff, lists.featureGet.mem_iff]
  rfl

theorem cancelled_cancelPendingUrbsLocked (dev : HcdDev) (lists : Lists dev) (status : Int) :
    Cancelled dev (cancelPendingUrbsLocked dev status) status := by
  have filed : Filed dev (cancelPendingUrbsLocked dev status) :=
    Filed.cancelPendingUrbsLocked (.refl dev) lists status
  have lists' := filed.lists lists
  have hqueued : ∀ id, Pending dev id →
      QueuedWith (cancelPendingUrbsLocked dev status) id status := by
    intro id hid
    exact queuedWith_queueUrbsGiveback _ ((pending_iff lists).mp hid) hid
  have hnone : ∀ id, ¬Pending (cancelPendingUrbsLocked dev status) id := by
    intro id hid
    -- the context was pending before too, and so it is queued now
    have hbefore : Pending dev id := by
      rcases filed.stateOf id with hsame | ⟨hbefore, -⟩
      · rwa [Pending, hsame] at hid
      · exact hbefore
    have hstate := (hqueued id hbefore).stateOf
    simp [Pending, hstate] at hid
  constructor
  · refine List.eq_nil_iff_forall_not_mem.mpr fun id hid => hnone id ?_
    exact .inl ((lists'.hidIn.mem_iff id).mp hid)
  · refine List.eq_nil_iff_forall_not_mem.mpr fun id hid => hnone id ?_
    exact .inr ((lists'.featureGet.mem_iff id).mp hid)
  · intro id hid
    have hid' := hqueued id ((pending_iff lists).mpr hid)
    exact ⟨(lists'.completed.mem_iff id).mpr hid'.stateOf, hid'⟩

end Cancel

section Threads

variable {s t : System} {id : CtxId} {action : Action}

/-- The thread filed its context and has still to queue the request for the daemon. -/
def awaits : EnqueuePc → Bool
  | .deferred _ _ | .refiling _ => true
  | _ => false

/-- A thread moves only by its own steps. It starts with its submission, and none starts
once the driver stops. -/
theorem enqueuers_of_step (h : step s action = some t) (id : CtxId) :
    t.enqueuers id = s.enqueuers id ∨
      continues action = some (.enqueuer id) ∧ s.enqueuers id ≠ .returned ∨
      t.enqueuers id = .linked ∧ s.dev.stopping = false ∧ id = s.dev.submitted ∧
        ∃ urb alloc linkRet, action = .submit urb alloc linkRet := by
  have hown : ∀ {u : System} {j : CtxId} {pc : EnqueuePc} {p : Prop}, u.enqueuers = s.enqueuers →
      s.enqueuers j ≠ .returned →
      (u.setPc j pc).enqueuers id = s.enqueuers id ∨
        some (Party.enqueuer j) = some (.enqueuer id) ∧ s.enqueuers id ≠ .returned ∨ p := by
    intro u j pc p hu hbusy
    by_cases hid : id = j
    · subst hid
      exact .inr (.inl ⟨rfl, hbusy⟩)
    · simp [hid, hu]
  cases steps_of_step h with
  | submit urb alloc linkRet =>
      unfold Threads.submit
      split_ifs with hrefused
      · exact .inl rfl
      · by_cases hid : id = s.dev.submitted
        · simp_all
        · simp [hid]
  | handle j context hpc =>
      obtain ⟨_, _, hframe⟩ := handle_frame s j context
      rw [hframe]
      exact hown rfl (by simp [hpc])
  | call j alloc next calls ret hpc =>
      obtain ⟨_, _, _, hframe⟩ := call_frame s j alloc calls ret next
      rw [hframe]
      exact hown rfl (by simp [hpc])
  | handleFreed j hpc => exact hown rfl (by simp [hpc])
  | defer j reportId requestedLength hpc => exact hown rfl (by simp [hpc])
  | request j alloc reportId requestedLength hpc => exact hown rfl (by simp [hpc])
  | refile j ret hpc => exact hown rfl (by simp [hpc])
  | schedule j input hpc => exact hown rfl (by simp [hpc])
  | file j ret hpc => exact hown rfl (by simp [hpc])
  | resume syscall => cases syscall <;> exact .inl rfl
  | write frame flags alloc =>
      obtain ⟨_, _, hframe⟩ := write_frame s frame flags alloc
      rw [hframe]
      exact .inl rfl
  | deliver j status =>
      obtain ⟨_, _, hframe⟩ := deliver_frame s j status
      rw [hframe]
      exact .inl rfl
  | tick | dequeue | openFile | release | read | connect | disconnect | setProfile | hubControl
  | stop | sleep | wake | take | place | placed | giveback => exact .inl rfl

theorem stateOf_deferFeatureGet {dev : HcdDev} {reportId : UInt8}
    (h : (deferFeatureGet dev id reportId).2 = 0) :
    (deferFeatureGet dev id reportId).1.stateOf id = some .pendingFeatureGet := by
  unfold deferFeatureGet at h ⊢
  cases hcontext : dev.contexts id with
  | none => simp [hcontext, einval] at h
  | some context =>
      rw [hcontext] at h
      dsimp only at h ⊢
      split at h
      · simp [einval] at h
      split at h
      · simp [eshutdown] at h
      · simp_all [HcdDev.stateOf]

/-- A step of a thread that awaits nothing makes it await only when it defers a read. -/
theorem awaits_of_step (h : step s action = some t)
    (hactor : continues action = some (.enqueuer id)) (hawaits : awaits (t.enqueuers id) = true)
    (hbefore : awaits (s.enqueuers id) = true → s.dev.stateOf id = some .pendingFeatureGet) :
    t.dev.stateOf id = some .pendingFeatureGet := by
  cases steps_of_step h with
  | handle j context =>
      cases hactor
      dsimp only [Threads.handle] at hawaits
      cases hpipe : context.urb.pipeType with
      | control =>
          rw [hpipe] at hawaits
          cases hhandled : (s.dev.usb.controlUrb context.urb).2.2 with
          | returns calls ret => simp [hhandled, Handled.pc, awaits] at hawaits
          | featureGet reportId requestedLength => simp [hhandled, Handled.pc, awaits] at hawaits
      | interrupt =>
          rw [hpipe] at hawaits
          dsimp only at hawaits
          split_ifs at hawaits <;> simp [awaits] at hawaits
      | isochronous =>
          rw [hpipe] at hawaits
          dsimp only at hawaits
          split_ifs at hawaits <;> simp [awaits] at hawaits
      | bulk =>
          rw [hpipe] at hawaits
          simp [awaits] at hawaits
  | handleFreed j =>
      cases hactor
      simp [awaits] at hawaits
  | call j alloc next calls ret =>
      cases hactor
      obtain ⟨_, _, _, hframe⟩ := call_frame s id alloc calls ret next
      rw [hframe] at hawaits
      simp [awaits] at hawaits
  | defer j =>
      cases hactor
      refine stateOf_deferFeatureGet ?_
      by_contra hret
      simp [hret, awaits] at hawaits
  | request j alloc reportId requestedLength hpc =>
      cases hactor
      have hsame : (enqueueFrame s.dev .usbFeatureGet
          (featureGetFrame reportId requestedLength) alloc).1.stateOf id = s.dev.stateOf id := by
        unfold enqueueFrame
        split_ifs <;> rfl
      exact hsame.trans (hbefore (by simp [hpc, awaits]))
  | refile j | schedule j | file j =>
      cases hactor
      simp [awaits] at hawaits
  | tick | submit | dequeue | write | read | connect | disconnect | setProfile | openFile | release
  | resume | hubControl | stop | sleep | wake | take | deliver | place | placed | giveback =>
      cases hactor

/-- Only a context that its thread still has becomes pending. -/
theorem pending_of_effect (effect : Effect s t) (h : Pending t.dev id) :
    Pending s.dev id ∨ owns (s.enqueuers id) = true := by
  cases effect with
  | files filed _ _ =>
      rcases filed.stateOf id with hsame | ⟨hbefore, -⟩
      · rw [Pending, hsame] at h
        exact .inl h
      · exact .inl hbefore
  | moves j state hstates _ _ _ _ _ _ _ _ hfrom =>
      by_cases hid : id = j
      · subst hid
        rcases hfrom with howns | hstate
        · exact .inr howns
        · simp [Pending, hstates, hstate] at h
      · rw [Pending, hstates, Function.update_of_ne hid] at h
        exact .inl h
  | enters hstates _ _ _ _ _ _ _ =>
      by_cases hid : id = s.dev.submitted
      · simp [Pending, hstates, hid] at h
      · rw [Pending, hstates, Function.update_of_ne hid] at h
        exact .inl h
  | frees j _ hdev _ _ =>
      have hstates : t.dev.stateOf = Function.update s.dev.stateOf j none :=
        hdev ▸ stateOf_update s.dev j none
      by_cases hid : id = j
      · simp [Pending, hstates, hid] at h
      · rw [Pending, hstates, Function.update_of_ne hid] at h
        exact .inl h

theorem continues_of_busy {party : Party} (ok : Atomic s action) (hbusy : busy s party) :
    (∃ time, action = .tick time) ∨ continues action = some party := by
  cases action with
  | tick time => exact .inl ⟨time, rfl⟩
  | submit | handle | call | defer | request | refile | schedule | file | dequeue | write | read
  | connect | disconnect | setProfile | openFile | release | resume | hubControl | stop | sleep
  | wake | take | deliver | place | giveback => exact .inr (ok party hbusy)

end Threads

/-- What holds between any two steps of operations that do not overlap. -/
structure AtomicInv (s : System) : Prop where
  inv : Inv s
  buffers : Buffers s.dev
  awaiting : ∀ id, awaits (s.enqueuers id) = true → s.dev.stateOf id = some .pendingFeatureGet
  stopped : s.dev.stopping = true →
    (∀ id, s.enqueuers id = .returned) ∧ ∀ id, ¬Pending s.dev id

namespace AtomicInv

variable {s t : System} {action : Action}

theorem lifecycleGuard (atomic : AtomicInv s) (ok : Atomic s action) (h : step s action = some t) :
    LifecycleGuard s action := by
  cases action with
  | dequeue id status =>
      change owns (s.enqueuers id) = false
      by_contra howns
      have hbusy : busy s (.enqueuer id) := by
        intro hreturned
        exact howns (by simp [hreturned, owns])
      cases ok _ hbusy
  | refile id =>
      cases steps_of_step h with
      | refile id ret hpc =>
          exact isSome_of_stateOf (atomic.awaiting id (by simp [hpc, awaits]))
  | tick | submit | handle | call | defer | request | schedule | file | write | read | connect
  | disconnect | setProfile | openFile | release | resume | hubControl | stop | sleep | wake | take
  | deliver | place | giveback => trivial

theorem awaiting_step (atomic : AtomicInv s) (ok : Atomic s action) (h : step s action = some t)
    (id : CtxId) (hawaits : awaits (t.enqueuers id) = true) :
    t.dev.stateOf id = some .pendingFeatureGet := by
  rcases enqueuers_of_step h id with hsame | ⟨hactor, -⟩ | ⟨hlinked, -⟩
  · have hbefore : awaits (s.enqueuers id) = true := hsame ▸ hawaits
    have hbusy : busy s (.enqueuer id) := by
      intro hreturned
      simp [hreturned, awaits] at hbefore
    rcases continues_of_busy ok hbusy with ⟨time, rfl⟩ | hactor
    · obtain ⟨-, ⟨⟩⟩ := Option.ite_none_right_eq_some.mp h
      exact atomic.awaiting id hbefore
    · exact awaits_of_step h hactor hawaits (atomic.awaiting id)
  · exact awaits_of_step h hactor hawaits (atomic.awaiting id)
  · simp [hlinked, awaits] at hawaits

theorem not_pending_of_cancelled {dev dev' : HcdDev} {status : Int} (lists : Lists dev')
    (cancelled : Cancelled dev dev' status) (id : CtxId) : ¬Pending dev' id := by
  rw [pending_iff lists, cancelled.hidIn, cancelled.featureGet]
  exact List.not_mem_nil

theorem stopped_step (atomic : AtomicInv s) (ok : Atomic s action) (h : step s action = some t)
    (inv : Inv t) (hstop : t.dev.stopping = true) :
    (∀ id, t.enqueuers id = .returned) ∧ ∀ id, ¬Pending t.dev id := by
  by_cases haction : action = .stop
  · subst haction
    obtain rfl := Option.some.inj h
    constructor
    · intro id
      by_contra hbusy
      cases ok (.enqueuer id) hbusy
    · have lists : Lists { s.dev with stopping := true } :=
        ⟨atomic.inv.lists.hidIn, atomic.inv.lists.featureGet, atomic.inv.lists.completed⟩
      obtain ⟨hhidIn, hfeatureGet, hqueued⟩ := cancelled_cancelPendingUrbsLocked _ lists eshutdown
      exact not_pending_of_cancelled inv.lists ⟨hhidIn, hfeatureGet, hqueued⟩
  · have hbefore : s.dev.stopping = true := (keeps_step h haction).stopping.symm.trans hstop
    obtain ⟨hreturned, hpending⟩ := atomic.stopped hbefore
    constructor
    · intro id
      rcases enqueuers_of_step h id with hsame | ⟨-, hbusy⟩ | ⟨-, hrunning, -⟩
      · rw [hsame, hreturned]
      · exact absurd (hreturned id) hbusy
      · simp [hbefore] at hrunning
    · intro id hid
      have effect := effect_of_step atomic.inv (atomic.lifecycleGuard ok h) h
      rcases pending_of_effect effect hid with hid | howns
      · exact hpending id hid
      · simp [hreturned, owns] at howns

theorem step (atomic : AtomicInv s) (ok : Atomic s action) (h : step s action = some t) :
    AtomicInv t := by
  have inv : Inv t := atomic.inv.step (atomic.lifecycleGuard ok h) h
  exact ⟨inv, atomic.buffers.step h, atomic.awaiting_step ok h, atomic.stopped_step ok h inv⟩

theorem init : AtomicInv System.init where
  inv := Inv.init
  buffers := Buffers.init
  awaiting := by simp [System.init, awaits]
  stopped := by simp [System.init, HcdDev.init]

end AtomicInv

namespace AtomicInv

variable {s t : System} {action : Action}

/-- Every accepted URB is on one list or was given back, and that once. -/
theorem perm_range (atomic : AtomicInv s) (rest : AtRest s) :
    (s.dev.pendingHidIn ++ s.dev.pendingFeatureGet ++ s.dev.completedUrbs ++ s.dev.givenBack).Perm
      (List.range s.dev.submitted) := by
  have lists := atomic.inv.lists
  have henum := ((lists.hidIn.append lists.featureGet (by simp_all)).append lists.completed
    (by rintro id (hid | hid) <;> simp [hid])).append atomic.inv.givenBack
    (by rintro id ((hid | hid) | hid) <;> simp [hid])
  have hrange : Enumerates (List.range s.dev.submitted) fun id => id < s.dev.submitted :=
    ⟨List.nodup_range, fun _ => List.mem_range⟩
  refine henum.perm (hrange.congr fun id => ?_)
  constructor
  · rintro (hstate | ⟨hlt, -⟩)
    · by_contra hge
      have hnone := atomic.inv.fresh id (Nat.le_of_not_lt hge)
      simp [hnone] at hstate
    · exact hlt
  · intro hlt
    cases hstate : s.dev.stateOf id with
    | none => exact .inr ⟨hlt, rfl⟩
    | some state =>
        cases state with
        | active =>
            -- its thread would still be enqueuing it
            have howns := (atomic.inv.owned id).mpr hstate
            have hbusy : busy s (.enqueuer id) := by
              intro hreturned
              simp [hreturned, owns] at howns
            exact absurd hbusy (rest _)
        | pendingHidIn => simp
        | pendingFeatureGet => simp
        | pendingGiveback => simp
        | givingBack =>
            have hbusy : busy s .giveback := by
              simp [busy, (atomic.inv.giving id).mpr hstate]
            exact absurd hbusy (rest _)

theorem cancelled_disconnectLocked (atomic : AtomicInv s) :
    Cancelled s.dev (disconnectLocked s.dev) eshutdown := by
  have lists := atomic.inv.lists
  simp only [disconnectLocked]
  split_ifs with hstopping
  · -- the driver stops, and its removal has cancelled everything
    have hnone := (atomic.stopped hstopping).2
    have hnil : s.dev.pendingHidIn ++ s.dev.pendingFeatureGet = [] :=
      List.eq_nil_iff_forall_not_mem.mpr fun id hid => hnone id ((pending_iff lists).mpr hid)
    obtain ⟨hhidIn, hfeatureGet⟩ := List.append_eq_nil_iff.mp hnil
    refine ⟨hhidIn, hfeatureGet, fun id hid => ?_⟩
    rw [hnil] at hid
    cases hid
  · obtain ⟨hhidIn, hfeatureGet, hqueued⟩ := cancelled_cancelPendingUrbsLocked
      { s.dev with
        disconnects := s.dev.disconnects + 1
        portStatus := { s.dev.portStatus with
          connection := false
          enable := false
          highSpeed := false
          cConnection := s.dev.portStatus.connection || s.dev.portStatus.cConnection } }
      ⟨lists.hidIn, lists.featureGet, lists.completed⟩ eshutdown
    exact ⟨hhidIn, hfeatureGet, hqueued⟩

end AtomicInv

/-- The sections that disconnect the controller: of the command, and of the last close. -/
def disconnects : Action → Bool
  | .disconnect | .resume .disconnect => true
  | _ => false

/-- The queues after every sequence of operations that do not overlap. -/
theorem queues_of_guardedRun {actions : List Action} {t : System}
    (run : GuardedRun step Atomic .init actions t) :
    Lists t.dev ∧ Buffers t.dev ∧
      (AtRest t →
        (t.dev.pendingHidIn ++ t.dev.pendingFeatureGet ++ t.dev.completedUrbs ++
          t.dev.givenBack).Perm (List.range t.dev.submitted)) ∧
      ∀ action u, disconnects action = true → step t action = some u →
        Cancelled t.dev u.dev eshutdown := by
  have atomic : AtomicInv t := run.invariant (fun _ _ _ atomic ok h => atomic.step ok h) .init
  refine ⟨atomic.inv.lists, atomic.buffers, atomic.perm_range, ?_⟩
  intro action u hdisconnects h
  cases action with
  | disconnect =>
      obtain rfl := Option.some.inj h
      exact atomic.cancelled_disconnectLocked
  | resume syscall =>
      cases syscall with
      | disconnect =>
          obtain ⟨-, ⟨⟩⟩ := Option.ite_none_right_eq_some.mp h
          exact atomic.cancelled_disconnectLocked
      | featureReply | resetUsb => cases hdisconnects
  | tick | submit | handle | call | defer | request | refile | schedule | file | dequeue | write
  | read | connect | setProfile | openFile | release | hubControl | stop | sleep | wake | take
  | deliver | place | giveback => cases hdisconnects

section Examples

/-- A URB that asks for an input report. -/
def inputUrb : Urb where
  pipeType := .interrupt
  endpoint := 4
  dirIn := true
  setupPacket := none
  transferBufferLength := 2
  transferBuffer := some #v[0, 0]
  isoFrameDesc := []
  actualLength := 0
  errorCount := 0
  startFrame := 0
  linked := false
  unlinked := false
  hcpriv := false

theorem atomic_of_atRest {s : System} (rest : AtRest s) (action : Action) : Atomic s action := by
  cases action with
  | tick => trivial
  | submit | handle | call | defer | request | refile | schedule | file | dequeue | write | read
  | connect | disconnect | setProfile | openFile | release | resume | hubControl | stop | sleep
  | wake | take | deliver | place | giveback => exact fun party hbusy => absurd hbusy (rest party)

theorem guardedRun_disconnected : ∃ t, GuardedRun step Atomic .init
    [.submit inputUrb true 0, .handle 0, .disconnect] t := by
  refine ⟨_, .cons (atomic_of_atRest ?_ _) rfl (.cons ?_ rfl (.cons (atomic_of_atRest ?_ _) rfl
    (.nil _)))⟩
  · rintro (id | _ | _) hbusy
    · exact hbusy rfl
    · exact hbusy rfl
    · exact hbusy rfl
  · rintro (id | _ | _) hbusy
    · by_cases hid : id = 0
      · subst hid
        rfl
      · refine absurd ?_ hbusy
        exact Function.update_of_ne hid _ _
    · exact absurd rfl hbusy
    · exact absurd rfl hbusy
  · rintro (id | _ | _) hbusy
    · by_cases hid : id = 0
      · subst hid
        exact hbusy rfl
      · refine hbusy ?_
        exact (Function.update_of_ne hid _ _).trans (Function.update_of_ne hid _ _)
    · exact hbusy rfl
    · exact hbusy rfl

/-- A URB that waits for a report when the controller is disconnected. -/
theorem queues_disconnected : ∃ t, GuardedRun step Atomic .init
      [.submit inputUrb true 0, .handle 0, .disconnect] t ∧
    Lists t.dev ∧ Buffers t.dev ∧
      (AtRest t →
        (t.dev.pendingHidIn ++ t.dev.pendingFeatureGet ++ t.dev.completedUrbs ++
          t.dev.givenBack).Perm (List.range t.dev.submitted)) ∧
      ∀ action u, disconnects action = true → step t action = some u →
        Cancelled t.dev u.dev eshutdown := by
  obtain ⟨t, run⟩ := guardedRun_disconnected
  exact ⟨t, run, queues_of_guardedRun run⟩

end Examples

end VirtualDualSense.Hcd.AtomicRuns
