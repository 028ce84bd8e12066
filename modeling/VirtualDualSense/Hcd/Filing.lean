import VirtualDualSense.Hcd.Sections
import VirtualDualSense.Lib.Fibers

/-!
# The lists of URB contexts

Each of the three lists holds the contexts of one state. The sections keep it so,
and most of them only move contexts that were pending to the completed list.
-/

namespace VirtualDualSense.Hcd.Filing

open Lib.Fibers Protocol.Frames UsbCore Sections

variable {dev dev' dev'' : HcdDev} {id : CtxId}

/-- A context's state field matches the list it is on. -/
structure Lists (dev : HcdDev) : Prop where
  hidIn : Fiber dev.stateOf dev.pendingHidIn (some .pendingHidIn)
  featureGet : Fiber dev.stateOf dev.pendingFeatureGet (some .pendingFeatureGet)
  completed : Fiber dev.stateOf dev.completedUrbs (some .pendingGiveback)

section StateOf

theorem stateOf_update (dev : HcdDev) (id : CtxId) (contexts : Option UrbContext) :
    ({ dev with contexts := Function.update dev.contexts id contexts } : HcdDev).stateOf =
      Function.update dev.stateOf id (contexts.map UrbContext.state) := by
  funext j
  by_cases h : j = id
  · simp [HcdDev.stateOf, h]
  · simp [HcdDev.stateOf, h]

theorem stateOf_modifyContext (dev : HcdDev) (id : CtxId) {f : UrbContext → UrbContext}
    (hf : ∀ c, (f c).state = c.state) :
    (dev.modifyContext id f).stateOf = dev.stateOf := by
  rw [HcdDev.modifyContext, stateOf_update, Function.update_eq_self_iff]
  cases h : dev.contexts id with
  | none => simp [HcdDev.stateOf, h]
  | some context => simp [HcdDev.stateOf, h, hf]

theorem stateOf_modifyContext_eq (dev : HcdDev) (id : CtxId) (state : UrbState)
    {f : UrbContext → UrbContext} (hf : ∀ c, (f c).state = state) (hlive : dev.stateOf id ≠ none) :
    (dev.modifyContext id f).stateOf = Function.update dev.stateOf id (some state) := by
  rw [HcdDev.modifyContext, stateOf_update]
  cases h : dev.contexts id with
  | none => simp [HcdDev.stateOf, h] at hlive
  | some context => simp [hf]

theorem isSome_of_stateOf {state : UrbState} (h : dev.stateOf id = some state) :
    (dev.contexts id).isSome := by
  obtain ⟨context, hcontext, -⟩ := Option.map_eq_some_iff.mp h
  simp [hcontext]

end StateOf

section Filing

theorem insertCompleted_perm (readyTime : CtxId → Nat) (id : CtxId) (time : Nat)
    (ids : List CtxId) : (insertCompleted readyTime id time ids).Perm (id :: ids) := by
  induction ids with
  | nil => exact .refl _
  | cons pos rest ih =>
      simp only [insertCompleted]
      split_ifs
      · exact .refl _
      · exact (ih.cons pos).trans (.swap id pos rest)

/-- The state after a context was filed for giveback. -/
def fileState : UrbState → UrbState
  | .givingBack => .givingBack
  | _ => .pendingGiveback

theorem fileState_of_not {state : UrbState}
    (h : ¬(state = .pendingGiveback ∨ state = .givingBack)) :
    fileState state = .pendingGiveback := by
  cases state <;> simp_all [fileState]

theorem fileState_of {state : UrbState}
    (h : state = .pendingGiveback ∨ state = .givingBack) : fileState state = state := by
  rcases h with rfl | rfl <;> rfl

/-- Filing touches the state of one context. -/
theorem stateOf_queueUrbGivebackLocked (dev : HcdDev) (id : CtxId) (status : Int) :
    (queueUrbGivebackLocked dev id status).stateOf =
      Function.update dev.stateOf id ((dev.stateOf id).map fileState) := by
  unfold queueUrbGivebackLocked
  cases h : dev.contexts id with
  | none => simp [HcdDev.stateOf, h]
  | some context =>
      have hstate : dev.stateOf id = some context.state := by simp [HcdDev.stateOf, h]
      dsimp only
      split_ifs with hgiveback
      · rw [hstate, Option.map_some, fileState_of hgiveback, ← hstate, Function.update_eq_self]
      · rw [hstate, Option.map_some, fileState_of_not hgiveback]
        exact stateOf_update dev id (some { context with
          status := status
          state := .pendingGiveback
          urb := { context.urb with hcpriv := true } })

theorem Lists.queueUrbGivebackLocked (lists : Lists dev) (id : CtxId) (status : Int) :
    Lists (Sections.queueUrbGivebackLocked dev id status) := by
  have hstates := stateOf_queueUrbGivebackLocked dev id status
  unfold Sections.queueUrbGivebackLocked at hstates ⊢
  cases h : dev.contexts id with
  | none => exact lists
  | some context =>
      have hstate : dev.stateOf id = some context.state := by simp [HcdDev.stateOf, h]
      rw [h] at hstates
      dsimp only at hstates ⊢
      split_ifs at hstates ⊢ with hgiveback
      · exact lists
      · rw [hstate, Option.map_some, fileState_of_not hgiveback] at hstates
        have hnew : dev.stateOf id ≠ some .pendingGiveback := by
          rw [hstate]
          exact fun heq => hgiveback (.inl (Option.some.inj heq))
        constructor
        · rw [hstates]
          exact lists.hidIn.leaves (by simp)
        · rw [hstates]
          exact lists.featureGet.leaves (by simp)
        · rw [hstates]
          exact lists.completed.enters hnew (insertCompleted_perm _ _ _ _)

theorem submitted_queueUrbGivebackLocked (dev : HcdDev) (id : CtxId) (status : Int) :
    (queueUrbGivebackLocked dev id status).submitted = dev.submitted := by
  unfold queueUrbGivebackLocked
  split
  · rfl
  · split_ifs <;> rfl

theorem givenBack_queueUrbGivebackLocked (dev : HcdDev) (id : CtxId) (status : Int) :
    (queueUrbGivebackLocked dev id status).givenBack = dev.givenBack := by
  unfold queueUrbGivebackLocked
  split
  · rfl
  · split_ifs <;> rfl

end Filing

/-- What a section does that moves contexts from the pending lists to the
completed one, and nothing else. -/
structure Filed (dev dev' : HcdDev) : Prop where
  stateOf : ∀ j, dev'.stateOf j = dev.stateOf j ∨
    (dev.stateOf j = some .pendingHidIn ∨ dev.stateOf j = some .pendingFeatureGet) ∧
      dev'.stateOf j = some .pendingGiveback
  lists : Lists dev → Lists dev'
  submitted : dev'.submitted = dev.submitted
  givenBack : dev'.givenBack = dev.givenBack

namespace Filed

theorem refl (dev : HcdDev) : Filed dev dev := ⟨fun _ => .inl rfl, fun h => h, rfl, rfl⟩

theorem trans (first : Filed dev dev') (second : Filed dev' dev'') : Filed dev dev'' where
  stateOf := by
    intro j
    rcases first.stateOf j with hfirst | ⟨hpending, hfirst⟩
    · rcases second.stateOf j with hsecond | ⟨hpending, hsecond⟩
      · exact .inl (hsecond.trans hfirst)
      · exact .inr ⟨hfirst ▸ hpending, hsecond⟩
    · rcases second.stateOf j with hsecond | ⟨hpending', -⟩
      · exact .inr ⟨hpending, hsecond.trans hfirst⟩
      · simp [hfirst] at hpending'
  lists := fun h => second.lists (first.lists h)
  submitted := second.submitted.trans first.submitted
  givenBack := second.givenBack.trans first.givenBack

/-- A section that leaves the states and the lists alone. -/
theorem of_same (hstates : dev'.stateOf = dev.stateOf)
    (hhidIn : dev'.pendingHidIn = dev.pendingHidIn)
    (hfeatureGet : dev'.pendingFeatureGet = dev.pendingFeatureGet)
    (hcompleted : dev'.completedUrbs = dev.completedUrbs)
    (hsubmitted : dev'.submitted = dev.submitted) (hgivenBack : dev'.givenBack = dev.givenBack) :
    Filed dev dev' where
  stateOf := fun j => .inl (congrFun hstates j)
  lists := by
    rintro ⟨h1, h2, h3⟩
    constructor
    · rw [hstates, hhidIn]
      exact h1
    · rw [hstates, hfeatureGet]
      exact h2
    · rw [hstates, hcompleted]
      exact h3
  submitted := hsubmitted
  givenBack := hgivenBack

theorem modifyContext {f : UrbContext → UrbContext} (hf : ∀ c, (f c).state = c.state) :
    Filed dev (dev.modifyContext id f) :=
  of_same (stateOf_modifyContext dev id hf) rfl rfl rfl rfl rfl

theorem notActive (filed : Filed dev dev') {j : CtxId} (h : dev.stateOf j ≠ some .active) :
    dev'.stateOf j ≠ some .active := by
  rcases filed.stateOf j with hsame | ⟨-, hmoved⟩
  · rwa [hsame]
  · simp [hmoved]

theorem queue (hidle : dev.stateOf id ≠ some .active) (status : Int) :
    Filed dev (queueUrbGivebackLocked dev id status) where
  stateOf := by
    intro j
    rw [stateOf_queueUrbGivebackLocked]
    by_cases h : j = id
    · subst h
      cases hstate : dev.stateOf j with
      | none => simp
      | some state => cases state <;> simp_all [fileState]
    · simp [h]
  lists := fun lists => lists.queueUrbGivebackLocked id status
  submitted := submitted_queueUrbGivebackLocked dev id status
  givenBack := givenBack_queueUrbGivebackLocked dev id status

/-- A loop over contexts that are not active, each step of which files at most. -/
theorem foldl {f : HcdDev → CtxId → HcdDev}
    (hf : ∀ dev id, dev.stateOf id ≠ some .active → Filed dev (f dev id)) (ids : List CtxId)
    (hidle : ∀ id ∈ ids, dev.stateOf id ≠ some .active) : Filed dev (ids.foldl f dev) := by
  induction ids generalizing dev with
  | nil => exact refl dev
  | cons id rest ih =>
      have hfirst := hf dev id (hidle id (by simp))
      refine hfirst.trans (ih fun j hj => hfirst.notActive ?_)
      exact hidle j (List.mem_cons_of_mem _ hj)

end Filed

section Sections

theorem Lists.not_active_of_pending (lists : Lists dev) {id : CtxId}
    (h : id ∈ dev.pendingHidIn ++ dev.pendingFeatureGet) : dev.stateOf id ≠ some .active := by
  rcases List.mem_append.mp h with h | h
  · simp [(lists.hidIn.mem_iff id).mp h]
  · simp [(lists.featureGet.mem_iff id).mp h]

theorem Filed.cancelPendingUrbsLocked (filed : Filed dev dev') (lists : Lists dev) (status : Int) :
    Filed dev (cancelPendingUrbsLocked dev' status) :=
  filed.trans (.foldl (fun _ _ hidle => .queue hidle status) _ fun _ h =>
    (filed.lists lists).not_active_of_pending h)

theorem filed_disconnectLocked (lists : Lists dev) : Filed dev (disconnectLocked dev) := by
  simp only [disconnectLocked]
  split_ifs
  · exact .of_same rfl rfl rfl rfl rfl rfl
  · refine (Filed.cancelPendingUrbsLocked ?_ lists eshutdown).trans
      (.of_same rfl rfl rfl rfl rfl rfl)
    exact .of_same rfl rfl rfl rfl rfl rfl

theorem filed_hcdStop (lists : Lists dev) : Filed dev (hcdStop dev) := by
  have hstop : Filed dev { dev with stopping := true } := .of_same rfl rfl rfl rfl rfl rfl
  exact (hstop.cancelPendingUrbsLocked lists eshutdown).trans (.of_same rfl rfl rfl rfl rfl rfl)

/-- A cancelled URB moves, unless its enqueuer still has it. -/
theorem filed_urbDequeue (hidle : dev.stateOf id ≠ some .active) (status : Int) :
    Filed dev (urbDequeue dev id status).1 := by
  unfold urbDequeue
  split
  · exact .refl dev
  · dsimp only
    have hmark : Filed dev (dev.modifyContext id fun context =>
      { context with urb := { context.urb with unlinked := true } }) := .modifyContext fun _ => rfl
    split_ifs
    · exact .refl dev
    · exact hmark
    · exact hmark.trans (.modifyContext fun _ => rfl)
    · exact hmark.trans (.queue (hmark.notActive hidle) status)

theorem filed_enqueueFrame (type : FrameType) (payload : List UInt8) (alloc : Bool) :
    Filed dev (enqueueFrame dev type payload alloc).1 := by
  unfold enqueueFrame
  split_ifs <;> exact .of_same rfl rfl rfl rfl rfl rfl

theorem filed_read (count : Nat) : Filed dev (Sections.read dev count).1 := by
  unfold Sections.read
  split
  · exact .refl dev
  · split_ifs <;> exact .of_same rfl rfl rfl rfl rfl rfl

theorem Filed.fillHidIn (filed : Filed dev dev') (payload : List UInt8) (now : Nat) :
    Filed dev (fillHidIn dev' id payload now) := by
  have hfill := stateOf_modifyContext dev' id
    (f := fun context => { context with urb := fillHidInUrb context.urb payload }) fun _ => rfl
  refine filed.trans (.of_same ?_ rfl rfl rfl rfl rfl)
  refine Eq.trans ?_ hfill
  exact stateOf_modifyContext _ id (f := fun context => { context with
    readyTime := base dev'.nextHidInReady now +
      dev'.usb.controllerProfile.hidInIntervalUs * nsecPerUsec }) fun _ => rfl

theorem filed_completePendingInputLocked (lists : Lists dev) {payload : List UInt8} {now : Nat}
    (h : completePendingInputLocked dev payload now = some dev') : Filed dev dev' := by
  unfold completePendingInputLocked at h
  split at h
  · cases h
  · rename_i pending rest hpending
    obtain rfl := Option.some.inj h
    have hfill : Filed dev (fillHidIn dev pending payload now) := .fillHidIn (.refl dev) _ _
    have hidle : dev.stateOf pending ≠ some .active :=
      lists.not_active_of_pending (by simp [hpending])
    exact hfill.trans (.queue (hfill.notActive hidle) 0)

theorem filed_writeInputFrame (lists : Lists dev) (payload : List UInt8) (alloc : Bool)
    (now : Nat) : Filed dev (writeInputFrame dev payload alloc now).1 := by
  have hqueue : Filed dev (queueInputPacketLocked dev payload alloc).1 := by
    unfold queueInputPacketLocked
    split_ifs <;> exact .of_same rfl rfl rfl rfl rfl rfl
  unfold writeInputFrame
  split_ifs
  · exact .refl dev
  · exact .refl dev
  · cases hcomplete : completePendingInputLocked dev payload now with
    | none =>
        dsimp only
        split_ifs
        · exact hqueue
        · exact hqueue.trans (.of_same rfl rfl rfl rfl rfl rfl)
    | some next =>
        exact (filed_completePendingInputLocked lists hcomplete).trans
          (.of_same rfl rfl rfl rfl rfl rfl)

theorem filed_writeAudioInFrame (payload : List UInt8) (alloc : Bool) :
    Filed dev (writeAudioInFrame dev payload alloc).1 := by
  unfold writeAudioInFrame
  split_ifs <;> exact .of_same rfl rfl rfl rfl rfl rfl

theorem filed_completePendingFeatureReply (payload : List UInt8) (reportId : UInt8)
    (hidle : dev.stateOf id ≠ some .active) :
    Filed dev (completePendingFeatureReply payload reportId dev id) := by
  unfold completePendingFeatureReply
  split
  · exact .refl dev
  · rename_i context hcontext
    split_ifs
    · exact .refl dev
    · have hfill : Filed dev (dev.modifyContext id fun c =>
        { c with urb := (copyToUrb context.urb payload).1 }) := .modifyContext fun _ => rfl
      exact hfill.trans (.queue (hfill.notActive hidle) _)

theorem filed_completeFeatureReply (lists : Lists dev) (payload : List UInt8) :
    Filed dev (completeFeatureReply dev payload).1 := by
  unfold completeFeatureReply
  split_ifs
  · exact .refl dev
  · have hloop : Filed dev (completePendingFeatureRepliesLocked dev payload) :=
      .foldl (fun _ _ hidle => filed_completePendingFeatureReply payload _ hidle) _
        fun _ h => lists.not_active_of_pending (List.mem_append_right _ h)
    exact hloop.trans (.of_same rfl rfl rfl rfl rfl rfl)

theorem filed_isoInUrb (urb : Urb) : Filed dev (isoInUrb dev urb).1 := by
  obtain ⟨_, _, _, hframe⟩ := isoInUrb_frame dev urb
  rw [hframe]
  exact .of_same rfl rfl rfl rfl rfl rfl

theorem filed_scheduleIsoGiveback (input : Bool) (now : Nat) :
    Filed dev (scheduleIsoGiveback dev id input now) := by
  unfold scheduleIsoGiveback
  cases h : dev.contexts id with
  | none => exact .refl dev
  | some context =>
      have hstates : ∀ context' : UrbContext, context'.state = context.state →
          ({ dev with contexts := Function.update dev.contexts id (some context') } :
            HcdDev).stateOf = dev.stateOf := by
        intro context' hstate
        rw [stateOf_update, Function.update_eq_self_iff]
        simp [HcdDev.stateOf, h, hstate]
      dsimp only
      cases input
      · exact .of_same (hstates _ rfl) rfl rfl rfl rfl rfl
      · exact .of_same (hstates _ rfl) rfl rfl rfl rfl rfl

theorem filed_connectLocked : Filed dev (connectLocked dev) := by
  unfold connectLocked
  split_ifs <;> exact .of_same rfl rfl rfl rfl rfl rfl

theorem filed_setProfile (profile : Option Usb.Descriptors.Profile) (pollingRateMode : Nat) :
    Filed dev (setProfile dev profile pollingRateMode).1 := by
  unfold setProfile
  split_ifs
  · exact .refl dev
  · exact .refl dev
  · split <;> exact .of_same rfl rfl rfl rfl rfl rfl

theorem filed_hubControl (request : HubRequest) (value index : Nat) :
    Filed dev (hubControl dev request value index).1 := by
  unfold hubControl
  repeat' (first | exact .of_same rfl rfl rfl rfl rfl rfl | split)

end Sections

end VirtualDualSense.Hcd.Filing
