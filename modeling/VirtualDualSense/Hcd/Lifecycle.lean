import VirtualDualSense.Hcd.Filing
import VirtualDualSense.Hcd.ThreadSteps

/-!
# The life of a URB context

A context belongs to the thread that enqueues its URB, then to one of the lists,
then to the giveback thread, which frees it. The enqueuing thread gives up the lock
between its sections, so a cancellation may file a context that the thread still
has, and the giveback thread may free it. This is the only way, besides the retry
of a read whose request could not be queued, in which two parties get hold of a
context.
-/

namespace VirtualDualSense.Hcd.Lifecycle

open Lib.Runs Lib.Fibers Protocol.Frames UsbCore Sections Filing Threads ThreadSteps

/-- The thread still has to file the context. -/
def owns : EnqueuePc → Bool
  | .linked | .handling _ _ | .scheduling _ | .missed _ _ => true
  | .returned | .deferred _ _ | .refiling _ => false

/-- The context that the giveback thread has taken. -/
def holds : GivebackPc → Option CtxId
  | .taken id _ | .delivering id _ | .finishing id _ => some id
  | .idle | .sleeping _ => none

/-- The number of places where a context is. -/
def placeCount (s : System) (id : CtxId) : Nat :=
  (if owns (s.enqueuers id) then 1 else 0) + s.dev.pendingHidIn.count id +
    s.dev.pendingFeatureGet.count id + s.dev.completedUrbs.count id +
      if holds s.giveback = some id then 1 else 0

/-- Every accepted URB that was not given back is in exactly one place. -/
def OnePlace (s : System) : Prop :=
  ∀ id < s.dev.submitted, id ∉ s.dev.givenBack → placeCount s id = 1

/-- The contexts that a section may read or write. -/
def touches (s : System) : Action → List CtxId
  | .handle id | .call id _ | .defer id | .schedule id => [id]
  | .file id | .refile id => id :: s.dev.completedUrbs
  | .dequeue id _ =>
      -- a URB that was given back is not linked, and its context is not looked at
      if (s.dev.contexts id).isSome then id :: s.dev.completedUrbs else []
  | .write _ _ _ | .disconnect | .stop | .resume _ =>
      s.dev.pendingHidIn ++ s.dev.pendingFeatureGet ++ s.dev.completedUrbs
  | .sleep | .take => s.dev.completedUrbs
  | .deliver | .place _ | .giveback => (holds s.giveback).toList
  | _ => []

/-- No step that `guard` admits touches a freed context. -/
def TouchesLive (guard : System → Action → Prop) (s : System) : Prop :=
  ∀ action, guard s action → (step s action).isSome →
    ∀ id ∈ touches s action, (s.dev.contexts id).isSome

/-- The condition: a URB is not cancelled while its enqueue is still under way,
and a read whose request could not be queued was not given back meanwhile. -/
def LifecycleGuard (s : System) : Action → Prop
  | .dequeue id _ => owns (s.enqueuers id) = false
  | .refile id => (s.dev.contexts id).isSome
  | _ => True

/-- The part of the condition that keeps a context in one place. -/
def CancelGuard (s : System) : Action → Prop
  | .dequeue id _ => owns (s.enqueuers id) = false
  | _ => True

theorem LifecycleGuard.cancelGuard {s : System} {action : Action} (ok : LifecycleGuard s action) :
    CancelGuard s action := by
  cases action <;> first | exact ok | trivial

/-- The state field of a context tells who has it. -/
structure Inv (s : System) : Prop where
  lists : Lists s.dev
  owned : ∀ id, owns (s.enqueuers id) = true ↔ s.dev.stateOf id = some .active
  giving : ∀ id, holds s.giveback = some id ↔ s.dev.stateOf id = some .givingBack
  givenBack : Enumerates s.dev.givenBack fun id =>
    id < s.dev.submitted ∧ s.dev.stateOf id = none
  fresh : ∀ id, s.dev.submitted ≤ id → s.dev.stateOf id = none

section SetPc

variable {s : System} {id : CtxId} {pc : EnqueuePc}

@[simp] theorem setPc_enqueuers (j : CtxId) :
    (s.setPc id pc).enqueuers j = if j = id then pc else s.enqueuers j := by
  simp only [System.setPc, Function.update_apply]

theorem owns_setPc (h : owns pc = owns (s.enqueuers id)) (j : CtxId) :
    owns ((s.setPc id pc).enqueuers j) = owns (s.enqueuers j) := by
  rw [setPc_enqueuers]
  split_ifs with hj
  · rw [hj, h]
  · rfl

end SetPc

section Giveback

variable {s t : System} {action : Action}

/-- A section of the giveback thread. -/
def ofGiveback : Action → Bool
  | .sleep | .wake | .take | .deliver | .place _ | .giveback => true
  | _ => false

/-- The other threads leave the giveback thread where it is. -/
theorem giveback_of_step (h : step s action = some t) (hother : ofGiveback action = false) :
    t.giveback = s.giveback := by
  cases steps_of_step h with
  | submit urb alloc linkRet =>
      unfold Threads.submit
      split_ifs <;> rfl
  | handle id context =>
      obtain ⟨_, _, hframe⟩ := handle_frame s id context
      rw [hframe]
      rfl
  | call id alloc next calls ret =>
      obtain ⟨_, _, _, hframe⟩ := call_frame s id alloc calls ret next
      rw [hframe]
      rfl
  | write frame flags alloc =>
      obtain ⟨_, _, hframe⟩ := write_frame s frame flags alloc
      rw [hframe]
  | resume syscall => cases syscall <;> rfl
  | handleFreed | defer | request | refile | schedule | file | tick | dequeue | openFile | release
  | read | connect | disconnect | setProfile | hubControl | stop => rfl
  | sleep | wake | take | deliver | place | placed | giveback => cases hother

end Giveback

/-- What a step can do to the contexts: file pending ones, change the state of one,
allocate one or free one. -/
inductive Effect (s t : System) : Prop
  | files (filed : Filed s.dev t.dev)
      (howns : ∀ id, owns (t.enqueuers id) = owns (s.enqueuers id))
      (hholds : holds t.giveback = holds s.giveback)
  | moves (id : CtxId) (state : UrbState)
      (hstates : t.dev.stateOf = Function.update s.dev.stateOf id (some state))
      (hlive : s.dev.stateOf id ≠ none) (lists : Lists t.dev)
      (howns : owns (t.enqueuers id) = true ↔ state = .active)
      (hholds : holds t.giveback = some id ↔ state = .givingBack)
      (hothers : ∀ j, j ≠ id → owns (t.enqueuers j) = owns (s.enqueuers j))
      (hothers' : ∀ j, j ≠ id → (holds t.giveback = some j ↔ holds s.giveback = some j))
      (hsubmitted : t.dev.submitted = s.dev.submitted)
      (hgivenBack : t.dev.givenBack = s.dev.givenBack)
      (hfrom : owns (s.enqueuers id) = true ∨ state = .givingBack)
  | enters (hstates : t.dev.stateOf =
        Function.update s.dev.stateOf s.dev.submitted (some .active))
      (hhidIn : t.dev.pendingHidIn = s.dev.pendingHidIn)
      (hfeatureGet : t.dev.pendingFeatureGet = s.dev.pendingFeatureGet)
      (hcompleted : t.dev.completedUrbs = s.dev.completedUrbs)
      (hgivenBack : t.dev.givenBack = s.dev.givenBack)
      (hsubmitted : t.dev.submitted = s.dev.submitted + 1)
      (hpcs : t.enqueuers = Function.update s.enqueuers s.dev.submitted .linked)
      (hgiveback : t.giveback = s.giveback)
  | frees (id : CtxId) (hheld : holds s.giveback = some id)
      (hdev : t.dev = givebackUrb s.dev id) (hpcs : t.enqueuers = s.enqueuers)
      (hgiveback : t.giveback = .idle)

namespace Inv

variable {s t : System} {id : CtxId}

/-- A step that files pending contexts at most. -/
theorem files (inv : Inv s) (filed : Filed s.dev t.dev)
    (howns : ∀ id, owns (t.enqueuers id) = owns (s.enqueuers id))
    (hholds : holds t.giveback = holds s.giveback) : Inv t where
  lists := filed.lists inv.lists
  owned := by
    intro id
    rw [howns, inv.owned]
    rcases filed.stateOf id with hsame | ⟨hpending | hpending, hmoved⟩
    · rw [hsame]
    · simp [hpending, hmoved]
    · simp [hpending, hmoved]
  giving := by
    intro id
    rw [hholds, inv.giving]
    rcases filed.stateOf id with hsame | ⟨hpending | hpending, hmoved⟩
    · rw [hsame]
    · simp [hpending, hmoved]
    · simp [hpending, hmoved]
  givenBack := by
    rw [filed.givenBack, filed.submitted]
    refine inv.givenBack.congr fun id => ?_
    rcases filed.stateOf id with hsame | ⟨hpending | hpending, hmoved⟩
    · rw [hsame]
    · simp [hpending, hmoved]
    · simp [hpending, hmoved]
  fresh := by
    intro id hid
    rw [filed.submitted] at hid
    have hnone := inv.fresh id hid
    rcases filed.stateOf id with hsame | ⟨hpending | hpending, -⟩
    · rw [hsame, hnone]
    · simp [hnone] at hpending
    · simp [hnone] at hpending

/-- The state of one context changes, and with it who has the context. -/
theorem moves (inv : Inv s) {state : Option UrbState}
    (hstates : t.dev.stateOf = Function.update s.dev.stateOf id state) (lists : Lists t.dev)
    (howns : owns (t.enqueuers id) = true ↔ state = some .active)
    (hholds : holds t.giveback = some id ↔ state = some .givingBack)
    (hothers : ∀ j, j ≠ id → owns (t.enqueuers j) = owns (s.enqueuers j))
    (hothers' : ∀ j, j ≠ id → (holds t.giveback = some j ↔ holds s.giveback = some j))
    (hgivenBack : Enumerates t.dev.givenBack fun j =>
      j < t.dev.submitted ∧ t.dev.stateOf j = none)
    (hfresh : ∀ j, t.dev.submitted ≤ j → t.dev.stateOf j = none) : Inv t where
  lists := lists
  owned := by
    intro j
    rw [hstates]
    by_cases h : j = id
    · rw [h, howns, Function.update_self]
    · rw [hothers j h, inv.owned, Function.update_of_ne h]
  giving := by
    intro j
    rw [hstates]
    by_cases h : j = id
    · rw [h, hholds, Function.update_self]
    · rw [hothers' j h, inv.giving, Function.update_of_ne h]
  givenBack := hgivenBack
  fresh := hfresh

/-- A live context changes its state. -/
theorem movesLive (inv : Inv s) {state : UrbState}
    (hstates : t.dev.stateOf = Function.update s.dev.stateOf id (some state))
    (hlive : s.dev.stateOf id ≠ none) (lists : Lists t.dev)
    (howns : owns (t.enqueuers id) = true ↔ state = .active)
    (hholds : holds t.giveback = some id ↔ state = .givingBack)
    (hothers : ∀ j, j ≠ id → owns (t.enqueuers j) = owns (s.enqueuers j))
    (hothers' : ∀ j, j ≠ id → (holds t.giveback = some j ↔ holds s.giveback = some j))
    (hsubmitted : t.dev.submitted = s.dev.submitted)
    (hgivenBack : t.dev.givenBack = s.dev.givenBack) : Inv t := by
  have hnone : ∀ j, t.dev.stateOf j = none ↔ s.dev.stateOf j = none := by
    intro j
    rw [hstates]
    by_cases h : j = id
    · simp [h, hlive]
    · simp [h]
  refine inv.moves hstates lists ?_ ?_ hothers hothers' ?_ ?_
  · rw [howns, Option.some.injEq]
  · rw [hholds, Option.some.injEq]
  · rw [hgivenBack, hsubmitted]
    exact inv.givenBack.congr fun j => and_congr_right' (hnone j)
  · intro j hj
    exact (hnone j).mpr (inv.fresh j (hsubmitted ▸ hj))

theorem stateOf_of_owns (inv : Inv s) (h : owns (s.enqueuers id) = true) :
    s.dev.stateOf id = some .active :=
  (inv.owned id).mp h

theorem not_active (inv : Inv s) (h : owns (s.enqueuers id) = false) :
    s.dev.stateOf id ≠ some .active := by
  intro hactive
  rw [(inv.owned id).mpr hactive] at h
  cases h

theorem not_held (inv : Inv s) (h : owns (s.enqueuers id) = true) :
    holds s.giveback ≠ some id := by
  rw [ne_eq, inv.giving, inv.stateOf_of_owns h]
  simp

/-- A new context belongs to the thread that enqueues it. -/
theorem enters (inv : Inv s)
    (hstates : t.dev.stateOf = Function.update s.dev.stateOf s.dev.submitted (some .active))
    (hhidIn : t.dev.pendingHidIn = s.dev.pendingHidIn)
    (hfeatureGet : t.dev.pendingFeatureGet = s.dev.pendingFeatureGet)
    (hcompleted : t.dev.completedUrbs = s.dev.completedUrbs)
    (hgivenBack : t.dev.givenBack = s.dev.givenBack)
    (hsubmitted : t.dev.submitted = s.dev.submitted + 1)
    (hpcs : t.enqueuers = Function.update s.enqueuers s.dev.submitted .linked)
    (hgiveback : t.giveback = s.giveback) : Inv t := by
  have hfree : s.dev.stateOf s.dev.submitted = none := inv.fresh _ (Nat.le_refl _)
  refine inv.moves hstates ?_ ?_ ?_ ?_ ?_ ?_ ?_
  · constructor
    · rw [hstates, hhidIn]
      exact inv.lists.hidIn.stays (by simp [hfree]) (by simp)
    · rw [hstates, hfeatureGet]
      exact inv.lists.featureGet.stays (by simp [hfree]) (by simp)
    · rw [hstates, hcompleted]
      exact inv.lists.completed.stays (by simp [hfree]) (by simp)
  · simp [hpcs, owns]
  · simp [hgiveback, inv.giving, hfree]
  · intro j hj
    simp [hpcs, hj]
  · simp [hgiveback]
  · rw [hgivenBack, hsubmitted, hstates]
    refine inv.givenBack.congr fun j => ?_
    by_cases h : j = s.dev.submitted
    · simp [h]
    · rw [Function.update_of_ne h]
      exact and_congr_left' (Nat.lt_succ_iff_lt_or_eq.trans (or_iff_left h))
  · intro j hj
    have hlt : s.dev.submitted < j := by omega
    rw [hstates, Function.update_of_ne (Nat.ne_of_gt hlt)]
    exact inv.fresh j (Nat.le_of_lt hlt)

theorem frees (inv : Inv s) (hheld : holds s.giveback = some id)
    (hdev : t.dev = givebackUrb s.dev id) (hpcs : t.enqueuers = s.enqueuers)
    (hgiveback : t.giveback = .idle) : Inv t := by
  have hstate : s.dev.stateOf id = some .givingBack := (inv.giving id).mp hheld
  have hstates : (givebackUrb s.dev id).stateOf = Function.update s.dev.stateOf id none :=
    stateOf_update s.dev id none
  refine inv.moves (hdev ▸ hstates) ?_ ?_ ?_ ?_ ?_ ?_ ?_
  · rw [hdev]
    constructor
    · exact (inv.lists.hidIn.stays (by simp [hstate]) (by simp)).of_eq (congrFun hstates)
    · exact (inv.lists.featureGet.stays (by simp [hstate]) (by simp)).of_eq (congrFun hstates)
    · exact (inv.lists.completed.stays (by simp [hstate]) (by simp)).of_eq (congrFun hstates)
  · simp [hpcs, inv.owned, hstate]
  · simp [hgiveback, holds]
  · simp [hpcs]
  · intro j hj
    rw [hheld, hgiveback]
    simp [holds, Ne.symm hj]
  · have hperm : (s.dev.givenBack ++ [id]).Perm (id :: s.dev.givenBack) :=
      List.perm_append_singleton id _
    have hlt : id < s.dev.submitted := by
      by_contra hge
      simp [inv.fresh id (Nat.le_of_not_lt hge)] at hstate
    rw [hdev, hstates]
    refine inv.givenBack.insert hperm (by simp [hstate]) fun j => ?_
    by_cases h : j = id
    · simp [h, givebackUrb, hlt]
    · simp [h, givebackUrb]
  · intro j hj
    rw [hdev, hstates]
    by_cases h : j = id
    · simp [h]
    · rw [Function.update_of_ne h]
      exact inv.fresh j (by rwa [hdev] at hj)

theorem of_effect (inv : Inv s) (effect : Effect s t) : Inv t := by
  cases effect with
  | files filed howns hholds => exact inv.files filed howns hholds
  | moves id state hstates hlive lists howns hholds hothers hothers' hsubmitted hgivenBack _ =>
      exact inv.movesLive hstates hlive lists howns hholds hothers hothers' hsubmitted hgivenBack
  | enters hstates hhidIn hfeatureGet hcompleted hgivenBack hsubmitted hpcs hgiveback =>
      exact inv.enters hstates hhidIn hfeatureGet hcompleted hgivenBack hsubmitted hpcs hgiveback
  | frees id hheld hdev hpcs hgiveback => exact inv.frees hheld hdev hpcs hgiveback

end Inv

section Effects

variable {s t : System} {id : CtxId}

/-- An enqueuing thread puts its context on a list and is done with it. -/
theorem Effect.leaves (inv : Inv s) {dev : HcdDev} {state : UrbState} {pc : EnqueuePc}
    (howns : owns (s.enqueuers id) = true)
    (hstates : dev.stateOf = Function.update s.dev.stateOf id (some state))
    (hactive : state ≠ .active) (hgiving : state ≠ .givingBack) (lists : Lists dev)
    (hpc : owns pc = false) (hsubmitted : dev.submitted = s.dev.submitted)
    (hgivenBack : dev.givenBack = s.dev.givenBack) :
    Effect s ({ s with dev := dev }.setPc id pc) := by
  have hlive : s.dev.stateOf id ≠ none := by simp [inv.stateOf_of_owns howns]
  refine .moves id state hstates hlive lists ?_ ?_ ?_ (fun _ _ => .rfl) hsubmitted hgivenBack
    (.inl howns)
  · simp [hpc, hactive]
  · simp only [hgiving, iff_false]
    exact inv.not_held howns
  · intro j hj
    simp [hj]

theorem effect_submit (urb : Urb) (alloc : Bool) (linkRet : Int) :
    Effect s (Threads.submit s urb alloc linkRet) := by
  unfold Threads.submit
  split_ifs
  · exact .files (.refl _) (fun _ => rfl) rfl
  · exact .enters (stateOf_update s.dev _ _) rfl rfl rfl rfl rfl rfl rfl

theorem effect_take (inv : Inv s) {dev : HcdDev} {status : Int} (hidle : s.giveback = .idle)
    (htake : takeCompleted s.dev s.clock = some (dev, id, status)) :
    Effect s { s with dev := dev, giveback := .taken id status } := by
  unfold takeCompleted at htake
  split at htake
  · cases htake
  · rename_i first rest hcompleted
    obtain ⟨-, heq⟩ := Option.ite_none_left_eq_some.mp htake
    cases heq
    have hstate : s.dev.stateOf id = some .pendingGiveback :=
      (inv.lists.completed.mem_iff id).mp (by simp [hcompleted])
    have hlive : s.dev.stateOf id ≠ none := by simp [hstate]
    have hstates := stateOf_modifyContext_eq s.dev id .givingBack
      (f := fun context => { context with
        state := .givingBack
        urb := { context.urb with linked := false, hcpriv := false } }) (fun _ => rfl) hlive
    refine .moves id .givingBack hstates hlive ?_ ?_ ?_ (fun _ _ => rfl) ?_ rfl rfl (.inr rfl)
    · constructor
      · exact (inv.lists.hidIn.stays (by simp [hstate]) (by simp)).of_eq (congrFun hstates)
      · exact (inv.lists.featureGet.stays (by simp [hstate]) (by simp)).of_eq (congrFun hstates)
      · have hleaves := inv.lists.completed.leaves (a := id) (y := some .givingBack) (by simp)
        rw [hcompleted, List.erase_cons_head] at hleaves
        exact hleaves.of_eq (congrFun hstates)
    · simp [inv.owned, hstate]
    · simp [holds]
    · intro j hj
      simp [holds, hidle, Ne.symm hj]

/-- A section of a thread that keeps its context, or that has none. -/
theorem Effect.continues {dev : HcdDev} {pc : EnqueuePc} (filed : Filed s.dev dev)
    (hpc : owns pc = owns (s.enqueuers id)) : Effect s ({ s with dev := dev }.setPc id pc) :=
  .files filed (owns_setPc (s := { s with dev := dev }) hpc) rfl

theorem effect_interruptIn (inv : Inv s) (howns : owns (s.enqueuers id) = true) :
    Effect s ({ s with dev := (interruptInUrb s.dev id s.clock).1 }.setPc id
      (if (interruptInUrb s.dev id s.clock).2 then .handling [] 0 else .returned)) := by
  unfold interruptInUrb
  have hactive := inv.stateOf_of_owns howns
  split
  · refine Effect.continues ?_ howns.symm
    refine Filed.fillHidIn ?_ _ _
    exact .of_same rfl rfl rfl rfl rfl rfl
  · have hstates := stateOf_modifyContext_eq s.dev id .pendingHidIn
      (f := fun context => { context with state := .pendingHidIn }) (fun _ => rfl)
      (by simp [hactive])
    refine Effect.leaves inv howns hstates (by simp) (by simp) ?_ rfl rfl rfl
    constructor
    · exact (inv.lists.hidIn.enters (by simp [hactive])
        (List.perm_append_singleton id _)).of_eq (congrFun hstates)
    · exact (inv.lists.featureGet.stays (by simp [hactive]) (by simp)).of_eq (congrFun hstates)
    · exact (inv.lists.completed.stays (by simp [hactive]) (by simp)).of_eq (congrFun hstates)

theorem effect_handle (inv : Inv s) {context : UrbContext} (hpc : s.enqueuers id = .linked) :
    Effect s (Threads.handle s id context) := by
  have howns : owns (s.enqueuers id) = true := by simp [hpc, owns]
  have hfails : Effect s (s.setPc id (.handling [] epipe)) := Effect.continues (.refl _) howns.symm
  dsimp only [Threads.handle]
  cases context.urb.pipeType with
  | control =>
      refine Effect.continues ?_ ?_
      · have hstates := stateOf_modifyContext s.dev id
          (f := fun c => { c with urb := (s.dev.usb.controlUrb context.urb).2.1 }) fun _ => rfl
        exact .of_same hstates rfl rfl rfl rfl rfl
      · rw [howns]
        cases (s.dev.usb.controlUrb context.urb).2.2 <;> rfl
  | interrupt =>
      dsimp only
      split
      · exact effect_interruptIn inv howns
      · split_ifs
        · exact Effect.continues (.modifyContext fun _ => rfl) howns.symm
        · exact hfails
  | isochronous =>
      dsimp only
      split_ifs
      · exact hfails
      · exact Effect.continues (.modifyContext fun _ => rfl) howns.symm
      · exact hfails
      · exact Effect.continues (.modifyContext fun _ => rfl) howns.symm
      · exact hfails
  | bulk => exact hfails

theorem effect_call {calls : List Call} {ret : Int} {next : Call} (alloc : Bool)
    (hpc : s.enqueuers id = .handling (next :: calls) ret) :
    Effect s (Threads.call s id alloc calls ret next) := by
  have howns : owns (s.enqueuers id) = true := by simp [hpc, owns]
  cases next with
  | setStatus flags enabled =>
      exact Effect.continues (.of_same rfl rfl rfl rfl rfl rfl) howns.symm
  | notify type payload => exact Effect.continues (filed_enqueueFrame _ _ _) howns.symm
  | forward type payload actualLength =>
      simp only [Threads.call]
      split_ifs
      · exact Effect.continues (filed_enqueueFrame _ _ _) howns.symm
      · exact Effect.continues ((filed_enqueueFrame _ _ _).trans (.modifyContext fun _ => rfl))
          howns.symm

theorem effect_defer (inv : Inv s) {reportId : UInt8} {requestedLength : UInt16}
    (hpc : s.enqueuers id = .missed reportId requestedLength) :
    Effect s ({ s with dev := (deferFeatureGet s.dev id reportId).1 }.setPc id
      (if (deferFeatureGet s.dev id reportId).2 ≠ 0 then
        .handling [] (deferFeatureGet s.dev id reportId).2
      else .deferred reportId requestedLength)) := by
  have howns : owns (s.enqueuers id) = true := by simp [hpc, owns]
  have hactive := inv.stateOf_of_owns howns
  unfold deferFeatureGet
  cases hcontext : s.dev.contexts id with
  | none => exact Effect.continues (.refl _) (by simp [einval, owns, hpc])
  | some context =>
      dsimp only
      split
      · exact Effect.continues (.refl _) (by simp [einval, owns, hpc])
      split
      · exact Effect.continues (.refl _) (by simp [eshutdown, owns, hpc])
      · have hstates := stateOf_update s.dev id
          (some { context with featureReportId := reportId, state := .pendingFeatureGet })
        refine Effect.leaves inv howns hstates (by simp) (by simp) ?_ rfl rfl rfl
        constructor
        · exact (inv.lists.hidIn.stays (by simp [hactive]) (by simp)).of_eq (congrFun hstates)
        · exact (inv.lists.featureGet.enters (by simp [hactive])
            (List.perm_append_singleton id _)).of_eq (congrFun hstates)
        · exact (inv.lists.completed.stays (by simp [hactive]) (by simp)).of_eq (congrFun hstates)

theorem effect_file (inv : Inv s) (howns : owns (s.enqueuers id) = true) (ret : Int) :
    Effect s ({ s with dev := queueUrbGivebackLocked s.dev id ret }.setPc id .returned) := by
  have hactive := inv.stateOf_of_owns howns
  have hstates := stateOf_queueUrbGivebackLocked s.dev id ret
  rw [hactive] at hstates
  refine Effect.leaves inv howns hstates (by simp [fileState]) (by simp [fileState])
    (inv.lists.queueUrbGivebackLocked id ret) rfl ?_ ?_
  · exact submitted_queueUrbGivebackLocked s.dev id ret
  · exact givenBack_queueUrbGivebackLocked s.dev id ret

theorem effect_write (inv : Inv s) (frame : Frame) (flags : UInt16) (alloc : Bool) :
    Effect s (Threads.write s frame flags alloc) := by
  unfold Threads.write
  split_ifs
  · exact .files (.refl _) (fun _ => rfl) rfl
  · split
    · exact .files (filed_writeInputFrame inv.lists _ _ _) (fun _ => rfl) rfl
    · dsimp only
      split_ifs
      · exact .files (.refl _) (fun _ => rfl) rfl
      · exact .files (.of_same rfl rfl rfl rfl rfl rfl) (fun _ => rfl) rfl
    · exact .files (filed_writeAudioInFrame _ _) (fun _ => rfl) rfl
    · exact .files (.refl _) (fun _ => rfl) rfl

theorem effect_disconnect (inv : Inv s) (syscalls : List Syscall) :
    Effect s (Threads.disconnect { s with syscalls := syscalls }) :=
  .files (filed_disconnectLocked inv.lists) (fun _ => rfl) rfl

theorem effect_resume (inv : Inv s) (syscalls : List Syscall) (syscall : Syscall) :
    Effect s (Threads.resume { s with syscalls := syscalls } syscall) := by
  cases syscall with
  | featureReply payload =>
      exact .files (filed_completeFeatureReply inv.lists payload) (fun _ => rfl) rfl
  | disconnect => exact effect_disconnect inv syscalls
  | resetUsb => exact .files (.of_same rfl rfl rfl rfl rfl rfl) (fun _ => rfl) rfl

theorem effect_deliver {status : Int} (hpc : s.giveback = .taken id status) :
    Effect s (Threads.deliver s id status) := by
  have hholds : holds s.giveback = some id := by rw [hpc, holds]
  unfold Threads.deliver
  split
  · exact .files (.refl _) (fun _ => rfl) hholds.symm
  · dsimp only
    split_ifs
    · exact .files (.modifyContext fun _ => rfl) (fun _ => rfl) hholds.symm
    · exact .files (.modifyContext fun _ => rfl) (fun _ => rfl) hholds.symm
    · exact .files ((filed_isoInUrb _).trans (.modifyContext fun _ => rfl)) (fun _ => rfl)
        hholds.symm
    · exact .files (.refl _) (fun _ => rfl) hholds.symm

theorem effect_place {payload : List UInt8} {payloads : List (List UInt8)} (alloc : Bool)
    (hpc : s.giveback = .delivering id (payload :: payloads)) :
    Effect s (Threads.place s id alloc payload payloads) := by
  refine .files ?_ (fun _ => rfl) (by simp [Threads.place, hpc, holds])
  simp only [Threads.place]
  split_ifs
  · exact (filed_enqueueFrame _ _ _).trans (.of_same rfl rfl rfl rfl rfl rfl)
  · exact filed_enqueueFrame _ _ _

/-- Every step of a run that meets the condition is one of the four. -/
theorem effect_of_cancelGuard {action : Action} (inv : Inv s) (ok : CancelGuard s action)
    (h : Threads.step s action = some t) : Effect s t := by
  cases steps_of_step h with
  | tick time later => exact .files (.refl _) (fun _ => rfl) rfl
  | submit urb alloc linkRet => exact effect_submit urb alloc linkRet
  | handle id context hpc live => exact effect_handle inv hpc
  | handleFreed id hpc freed => exact Effect.continues (.refl _) (by simp [owns, hpc])
  | call id alloc next calls ret hpc => exact effect_call alloc hpc
  | defer id reportId requestedLength hpc => exact effect_defer inv hpc
  | request id alloc reportId requestedLength hpc =>
      refine Effect.continues (filed_enqueueFrame _ _ _) ?_
      split_ifs <;> simp [owns, hpc]
  | refile id ret hpc =>
      exact Effect.continues (.queue (inv.not_active (by simp [owns, hpc])) _)
        (by simp [owns, hpc])
  | schedule id input hpc =>
      exact Effect.continues (filed_scheduleIsoGiveback _ _) (by simp [owns, hpc])
  | file id ret hpc => exact effect_file inv (by simp [owns, hpc]) _
  | dequeue id status negative =>
      exact .files (filed_urbDequeue (inv.not_active ok) status) (fun _ => rfl) rfl
  | write frame flags alloc => exact effect_write inv frame flags alloc
  | read count => exact .files (filed_read count) (fun _ => rfl) rfl
  | connect => exact .files filed_connectLocked (fun _ => rfl) rfl
  | disconnect => exact effect_disconnect inv s.syscalls
  | setProfile profile pollingRateMode =>
      exact .files (filed_setProfile profile pollingRateMode) (fun _ => rfl) rfl
  | openFile closed => exact .files (.of_same rfl rfl rfl rfl rfl rfl) (fun _ => rfl) rfl
  | release opened => exact .files (.of_same rfl rfl rfl rfl rfl rfl) (fun _ => rfl) rfl
  | resume syscall hmem => exact effect_resume inv _ syscall
  | hubControl request value index =>
      exact .files (filed_hubControl request value index) (fun _ => rfl) rfl
  | stop => exact .files (filed_hcdStop inv.lists) (fun _ => rfl) rfl
  | sleep id rest hpc listed early =>
      exact .files (.refl _) (fun _ => rfl) (by simp [holds, hpc])
  | wake expires hpc due => exact .files (.refl _) (fun _ => rfl) (by simp [holds, hpc])
  | take dev id status hpc taken => exact effect_take inv hpc taken
  | deliver id status hpc => exact effect_deliver hpc
  | place id alloc payload payloads hpc => exact effect_place alloc hpc
  | placed id alloc hpc => exact .files (.refl _) (fun _ => rfl) (by simp [holds, hpc])
  | giveback id status hpc => exact .frees _ (by simp [holds, hpc]) rfl rfl rfl

theorem effect_of_step {action : Action} (inv : Inv s) (ok : LifecycleGuard s action)
    (h : Threads.step s action = some t) : Effect s t :=
  effect_of_cancelGuard inv ok.cancelGuard h

end Effects

theorem Inv.step {s t : System} {action : Action} (inv : Inv s) (ok : LifecycleGuard s action)
    (h : Threads.step s action = some t) : Inv t :=
  inv.of_effect (effect_of_step inv ok h)

theorem Inv.init : Inv System.init where
  lists := by
    constructor <;> constructor <;> simp [System.init, HcdDev.init, HcdDev.stateOf]
  owned := by simp [System.init, HcdDev.init, HcdDev.stateOf, owns]
  giving := by simp [System.init, HcdDev.init, HcdDev.stateOf, holds]
  givenBack := by constructor <;> simp [System.init, HcdDev.init, HcdDev.stateOf]
  fresh := by simp [System.init, HcdDev.init, HcdDev.stateOf]

namespace Inv

variable {s : System} {id : CtxId}

theorem onePlace (inv : Inv s) : OnePlace s := by
  intro id hid hnot
  have hlive : s.dev.stateOf id ≠ none := fun hnone =>
    hnot ((inv.givenBack.mem_iff id).mpr ⟨hid, hnone⟩)
  obtain ⟨state, hstate⟩ := Option.ne_none_iff_exists'.mp hlive
  simp only [placeCount, inv.owned, inv.giving, inv.lists.hidIn.count_eq,
    inv.lists.featureGet.count_eq, inv.lists.completed.count_eq, hstate, Option.some.injEq]
  cases state <;> simp

theorem isSome_completed (inv : Inv s) (h : id ∈ s.dev.completedUrbs) :
    (s.dev.contexts id).isSome :=
  isSome_of_stateOf ((inv.lists.completed.mem_iff id).mp h)

theorem isSome_listed (inv : Inv s)
    (h : id ∈ s.dev.pendingHidIn ++ s.dev.pendingFeatureGet ++ s.dev.completedUrbs) :
    (s.dev.contexts id).isSome := by
  rcases List.mem_append.mp h with h | h
  · rcases List.mem_append.mp h with h | h
    · exact isSome_of_stateOf ((inv.lists.hidIn.mem_iff id).mp h)
    · exact isSome_of_stateOf ((inv.lists.featureGet.mem_iff id).mp h)
  · exact inv.isSome_completed h

theorem isSome_held (inv : Inv s) (h : id ∈ (holds s.giveback).toList) :
    (s.dev.contexts id).isSome :=
  isSome_of_stateOf ((inv.giving id).mp (Option.mem_toList.mp h))

theorem isSome_owned (inv : Inv s) (h : owns (s.enqueuers id) = true) :
    (s.dev.contexts id).isSome :=
  isSome_of_stateOf (inv.stateOf_of_owns h)

theorem touchesLive (inv : Inv s) : TouchesLive LifecycleGuard s := by
  have hcons : ∀ {owner : CtxId}, (s.dev.contexts owner).isSome →
      ∀ id ∈ owner :: s.dev.completedUrbs, (s.dev.contexts id).isSome := by
    intro owner howner id hid
    rcases List.mem_cons.mp hid with rfl | hid
    · exact howner
    · exact inv.isSome_completed hid
  intro action ok henabled id hid
  -- a thread that can run has not given up its context
  cases action with
  | handle owner | call owner alloc | defer owner | schedule owner =>
      obtain rfl := List.mem_singleton.mp hid
      refine inv.isSome_owned ?_
      simp only [Threads.step] at henabled
      split at henabled <;> simp_all [owns]
  | file owner =>
      refine hcons (inv.isSome_owned ?_) id hid
      simp only [Threads.step] at henabled
      split at henabled <;> simp_all [owns]
  | refile owner => exact hcons ok id hid
  | dequeue owner status =>
      simp only [touches] at hid
      split_ifs at hid with hsome
      · exact hcons hsome id hid
      · cases hid
  | write | disconnect | stop | resume => exact inv.isSome_listed hid
  | sleep | take => exact inv.isSome_completed hid
  | deliver | place | giveback => exact inv.isSome_held hid
  | tick | submit | request | read | connect | setProfile | openFile | release | hubControl |
    wake =>
      cases hid

end Inv

/-- In every run that meets the condition, every context is in one place, no URB
is given back twice and no step touches a freed context. -/
theorem lifecycle_of_guardedRun {actions : List Action} {t : System}
    (run : GuardedRun step LifecycleGuard .init actions t) :
    OnePlace t ∧ t.dev.givenBack.Nodup ∧ TouchesLive LifecycleGuard t := by
  have inv : Inv t := run.invariant (fun _ _ _ inv ok h => inv.step ok h) Inv.init
  exact ⟨inv.onePlace, inv.givenBack.nodup, inv.touchesLive⟩

section Examples

/-- One packet of audio for the speaker and the motors. -/
def audioUrb : Urb where
  pipeType := .isochronous
  endpoint := 1
  dirIn := false
  setupPacket := none
  transferBufferLength := 8
  transferBuffer := some #v[1, 2, 3, 4, 5, 6, 7, 8]
  isoFrameDesc := [⟨0, 8, 0, 0⟩]
  actualLength := 0
  errorCount := 0
  startFrame := 0
  linked := false
  unlinked := false
  hcpriv := false

theorem guardedRun_cancelled : ∃ t, GuardedRun step LifecycleGuard .init
    [.submit audioUrb true 0, .handle 0, .schedule 0, .file 0, .dequeue 0 (-104), .take, .deliver,
      .giveback] t := by
  refine ⟨_, .cons trivial rfl (.cons trivial rfl (.cons trivial rfl (.cons trivial rfl
    (.cons ?_ rfl (.cons trivial rfl (.cons trivial rfl (.cons trivial rfl (.nil _))))))))⟩
  rfl

/-- A URB that is cancelled after it was filed. -/
theorem lifecycle_cancelled : ∃ t, GuardedRun step LifecycleGuard .init
    [.submit audioUrb true 0, .handle 0, .schedule 0, .file 0, .dequeue 0 (-104), .take, .deliver,
      .giveback] t ∧
      OnePlace t ∧ t.dev.givenBack.Nodup ∧ TouchesLive LifecycleGuard t := by
  obtain ⟨t, run⟩ := guardedRun_cancelled
  exact ⟨t, run, lifecycle_of_guardedRun run⟩

/-- A URB that is cancelled right after it was linked is in two places; it is given
back and freed before its handler runs. -/
theorem enqueue_uses_freed : ∃ s t, Run step .init
      [.submit audioUrb true 0, .dequeue 0 (-104)] s ∧ ¬OnePlace s ∧
    Run step .init [.submit audioUrb true 0, .dequeue 0 (-104), .take, .deliver, .giveback] t ∧
      ¬TouchesLive (fun _ _ => True) t := by
  refine ⟨_, _, run_of_execute rfl, fun h => ?_, run_of_execute rfl, fun h => ?_⟩
  · have hplaces := h 0 (by decide) (by decide)
    revert hplaces
    decide
  · have hlive := h (.handle 0) trivial (by rfl) 0 (by decide)
    revert hlive
    decide

end Examples

end VirtualDualSense.Hcd.Lifecycle
