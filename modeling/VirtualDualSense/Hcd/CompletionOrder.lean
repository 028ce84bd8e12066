import VirtualDualSense.Hcd.Lifecycle

/-!
# The order of the completed URBs

An untimed URB is filed before every timed one, and a timed one before those that
are ready later. Two things disturb this. A cancellation makes a URB untimed where
it stands. And the giveback thread sleeps until the first timed URB is ready; it
does not wait on its queue then, so nothing that is filed meanwhile wakes it.
-/

namespace VirtualDualSense.Hcd.CompletionOrder

open Lib.Runs Lib.Fibers Protocol.Frames UsbCore Sections Filing Threads ThreadSteps
  Lifecycle

section Property

/-- An entry that may stand before another one. -/
def Before (readyTime : CtxId → Nat) (id other : CtxId) : Prop :=
  readyTime id = 0 ∨ readyTime other ≠ 0 ∧ readyTime id ≤ readyTime other

/-- The untimed entries come first, then the timed ones in the order of their times. -/
def Ordered (dev : HcdDev) : Prop := dev.completedUrbs.Pairwise (Before dev.readyTime)

/-- A sleeping giveback thread does not sleep past an entry. -/
def SleepsForAll (s : System) : Prop :=
  ∀ expires, s.giveback = .sleeping expires →
    ∀ id ∈ s.dev.completedUrbs, s.dev.readyTime id ≠ 0 ∧ expires ≤ s.dev.readyTime id

instance (readyTime : CtxId → Nat) (id other : CtxId) :
    Decidable (Before readyTime id other) :=
  inferInstanceAs (Decidable (_ ∨ _ ∧ _))

instance (dev : HcdDev) : Decidable (Ordered dev) :=
  inferInstanceAs (Decidable (List.Pairwise _ _))

end Property

section Guard

/-- The ready time with which a context would be filed, if it is not filed yet. -/
def unfiledTime (dev : HcdDev) (id : CtxId) : List Nat :=
  match dev.contexts id with
  | none => []
  | some context =>
      if context.state = .pendingGiveback ∨ context.state = .givingBack then []
      else [context.readyTime]

/-- A cancellation that the USB core passes and that finds a context. -/
def cancels (dev : HcdDev) (id : CtxId) : Bool :=
  (dev.contexts id).any fun context => checkUnlinkUrb context.urb = 0 && context.urb.hcpriv

/-- The ready times of the contexts that a step files. -/
def filedTimes (s : System) : Action → List Nat
  | .file id | .refile id => unfiledTime s.dev id
  | .dequeue id _ => if cancels s.dev id then unfiledTime s.dev id else []
  | .write frame flags _ =>
      if s.dev.stopping || flags ≠ 0 || frame.type ≠ .usbHidIn || s.dev.pendingHidIn.isEmpty then []
      else [base s.dev.nextHidInReady s.clock +
        s.dev.usb.controllerProfile.hidInIntervalUs * nsecPerUsec]
  | .disconnect | .resume .disconnect =>
      if s.dev.stopping then []
      else (s.dev.pendingHidIn ++ s.dev.pendingFeatureGet).map s.dev.readyTime
  | .stop => (s.dev.pendingHidIn ++ s.dev.pendingFeatureGet).map s.dev.readyTime
  | .resume (.featureReply payload) =>
      if s.dev.stopping then []
      else (s.dev.pendingFeatureGet.filter fun id => (s.dev.contexts id).any fun context =>
        context.featureReportId = payload.headD 0).map s.dev.readyTime
  | _ => []

/-- The timed entry that a step cancels where it stands. -/
def cancelledEntry (s : System) : Action → Option CtxId
  | .dequeue id _ =>
      if cancels s.dev id ∧ s.dev.stateOf id = some .pendingGiveback ∧ s.dev.readyTime id ≠ 0 then
        some id
      else none
  | _ => none

/-- The giveback thread does not sleep past an entry with this ready time. -/
def MayBeFiled (giveback : GivebackPc) (time : Nat) : Prop :=
  match giveback with
  | .sleeping expires => expires ≤ time
  | _ => True

def asleep : GivebackPc → Bool
  | .sleeping _ => true
  | _ => false

/-- The condition: what is filed during a sleep is ready after it, and a timed entry is
cancelled only if the thread is awake and no timed entry stands before it. -/
def OrderGuard (s : System) (action : Action) : Prop :=
  LifecycleGuard s action ∧
    (∀ time ∈ filedTimes s action, MayBeFiled s.giveback time) ∧
      ∀ id ∈ cancelledEntry s action, asleep s.giveback = false ∧
        ∀ other ∈ s.dev.completedUrbs.takeWhile (· ≠ id), s.dev.readyTime other = 0

end Guard

section Insertion

variable {readyTime : CtxId → Nat} {id : CtxId} {ids : List CtxId}

/-- The scan puts an entry where it belongs. -/
theorem pairwise_insertCompleted (h : ids.Pairwise (Before readyTime)) (id : CtxId) :
    (insertCompleted readyTime id (readyTime id) ids).Pairwise (Before readyTime) := by
  induction ids with
  | nil => exact List.pairwise_singleton _ _
  | cons pos rest ih =>
      obtain ⟨hpos, hrest⟩ := List.pairwise_cons.mp h
      simp only [insertCompleted]
      split_ifs with hbefore
      · refine List.pairwise_cons.mpr ⟨fun other hother => ?_, h⟩
        rcases List.mem_cons.mp hother with rfl | hmem
        · exact hbefore.2.imp_right fun hlt => ⟨hbefore.1, hlt.le⟩
        · rcases hpos other hmem with hzero | ⟨hne, hle⟩
          · exact absurd hzero hbefore.1
          · exact hbefore.2.imp_right fun hlt => ⟨hne, hlt.le.trans hle⟩
      · refine List.pairwise_cons.mpr ⟨fun other hother => ?_, ih hrest⟩
        rcases List.mem_cons.mp ((insertCompleted_perm _ _ _ _).mem_iff.mp hother) with rfl | hmem
        · simp only [Before]
          omega
        · exact hpos other hmem

/-- An entry becomes untimed behind untimed entries. -/
theorem pairwise_cancelled {times : CtxId → Nat} (h : ids.Pairwise (Before readyTime))
    (hnodup : ids.Nodup) (hid : times id = 0) (hothers : ∀ j, j ≠ id → times j = readyTime j)
    (hfirst : ∀ other ∈ ids.takeWhile (· ≠ id), readyTime other = 0) :
    ids.Pairwise (Before times) := by
  induction ids with
  | nil => exact .nil
  | cons pos rest ih =>
      obtain ⟨hpos, hrest⟩ := List.pairwise_cons.mp h
      obtain ⟨hnot, hnodup⟩ := List.nodup_cons.mp hnodup
      by_cases heq : pos = id
      · subst heq
        refine List.pairwise_cons.mpr ⟨fun other _ => .inl hid, ?_⟩
        refine hrest.imp_of_mem fun {a b} ha hb hbefore => ?_
        have hne : ∀ j ∈ rest, j ≠ pos := fun j hj heq => hnot (heq ▸ hj)
        rw [Before, hothers a (hne a ha), hothers b (hne b hb)]
        exact hbefore
      · rw [List.takeWhile_cons_of_pos (by simpa using heq)] at hfirst
        refine List.pairwise_cons.mpr ⟨fun other _ => .inl ?_, ih hrest hnodup ?_⟩
        · rw [hothers pos heq]
          exact hfirst pos (by simp)
        · exact fun other hother => hfirst other (List.mem_cons_of_mem _ hother)

end Insertion

/-- A section that files contexts, each with a ready time that `P` admits, and does not
touch the times of the entries. -/
inductive Files (P : Nat → Prop) : HcdDev → HcdDev → Prop
  | same {dev dev' : HcdDev} (hlist : dev'.completedUrbs = dev.completedUrbs)
      (htimes : ∀ id ∈ dev.completedUrbs, dev'.readyTime id = dev.readyTime id) : Files P dev dev'
  | files {dev dev' : HcdDev} (id : CtxId) (hlist : dev'.completedUrbs =
        insertCompleted dev.readyTime id (dev.readyTime id) dev.completedUrbs)
      (htimes : dev'.readyTime = dev.readyTime) (h : P (dev.readyTime id)) : Files P dev dev'
  | trans {dev dev' dev'' : HcdDev} (first : Files P dev dev') (second : Files P dev' dev'') :
      Files P dev dev''

namespace Files

variable {P : Nat → Prop} {dev dev' : HcdDev} {id : CtxId}

/-- Filing keeps an order of the times that an insertion keeps. -/
theorem pairwise {R : Nat → Nat → Prop} (hinsert : ∀ (readyTime : CtxId → Nat) (ids : List CtxId),
      (ids.Pairwise fun a b => R (readyTime a) (readyTime b)) → ∀ id,
        (insertCompleted readyTime id (readyTime id) ids).Pairwise
          fun a b => R (readyTime a) (readyTime b))
    (files : Files P dev dev')
    (h : dev.completedUrbs.Pairwise fun a b => R (dev.readyTime a) (dev.readyTime b)) :
    dev'.completedUrbs.Pairwise fun a b => R (dev'.readyTime a) (dev'.readyTime b) := by
  induction files with
  | same hlist htimes =>
      rw [hlist]
      refine List.Pairwise.imp_of_mem (fun {a b} ha hb hbefore => ?_) h
      rw [htimes a ha, htimes b hb]
      exact hbefore
  | files id hlist htimes _ =>
      rw [hlist, htimes]
      exact hinsert _ _ h id
  | trans _ _ ih ih' => exact ih' (ih h)

theorem ordered (files : Files P dev dev') (h : Ordered dev) : Ordered dev' :=
  files.pairwise (R := fun time other => time = 0 ∨ other ≠ 0 ∧ time ≤ other)
    (fun _ _ h id => pairwise_insertCompleted h id) h

/-- What holds of the times of the entries and of every new one still holds. -/
theorem forall_times (files : Files P dev dev')
    (h : ∀ id ∈ dev.completedUrbs, P (dev.readyTime id)) :
    ∀ id ∈ dev'.completedUrbs, P (dev'.readyTime id) := by
  induction files with
  | same hlist htimes =>
      rw [hlist]
      intro id hid
      rw [htimes id hid]
      exact h id hid
  | files id hlist htimes hnew =>
      rw [hlist, htimes]
      intro other hother
      rcases List.mem_cons.mp ((insertCompleted_perm _ _ _ _).mem_iff.mp hother) with rfl | hmem
      · exact hnew
      · exact h other hmem
  | trans _ _ ih ih' => exact ih' (ih h)

theorem refl (dev : HcdDev) : Files P dev dev := .same rfl fun _ _ => rfl

theorem of_contexts (hlist : dev'.completedUrbs = dev.completedUrbs)
    (hcontexts : dev'.contexts = dev.contexts) : Files P dev dev' :=
  .same hlist fun id _ => by rw [HcdDev.readyTime, hcontexts, HcdDev.readyTime]

/-- A context that is no entry may change in any way. -/
theorem of_ne (id : CtxId) (hlist : dev'.completedUrbs = dev.completedUrbs)
    (hid : id ∉ dev.completedUrbs) (hcontexts : ∀ j, j ≠ id → dev'.contexts j = dev.contexts j) :
    Files P dev dev' := by
  refine .same hlist fun j hj => ?_
  rw [HcdDev.readyTime, hcontexts j (fun heq => hid (heq ▸ hj)), HcdDev.readyTime]

end Files

section Times

variable {P : Nat → Prop} {dev : HcdDev} {id : CtxId}

theorem readyTime_modifyContext {f : UrbContext → UrbContext}
    (hf : ∀ context, (f context).readyTime = context.readyTime) :
    (dev.modifyContext id f).readyTime = dev.readyTime := by
  funext j
  by_cases h : j = id
  · cases hcontext : dev.contexts id with
    | none => simp [HcdDev.readyTime, HcdDev.modifyContext, h, hcontext]
    | some context => simp [HcdDev.readyTime, HcdDev.modifyContext, h, hcontext, hf]
  · simp [HcdDev.readyTime, HcdDev.modifyContext, h]

theorem files_modifyContext {f : UrbContext → UrbContext}
    (hf : ∀ context, (f context).readyTime = context.readyTime) :
    Files P dev (dev.modifyContext id f) :=
  .same rfl fun j _ => congrFun (readyTime_modifyContext hf) j

theorem readyTime_eq {context : UrbContext} (h : dev.contexts id = some context) :
    dev.readyTime id = context.readyTime := by
  simp [HcdDev.readyTime, h]

theorem readyTime_queueUrbGivebackLocked (status : Int) :
    (queueUrbGivebackLocked dev id status).readyTime = dev.readyTime := by
  unfold queueUrbGivebackLocked
  split
  · rfl
  · rename_i context hcontext
    split_ifs
    · rfl
    · funext j
      by_cases h : j = id
      · simp [HcdDev.readyTime, h, hcontext]
      · simp [HcdDev.readyTime, h]

/-- Filing inserts a context that was not filed yet, with its time. -/
theorem files_queueUrbGivebackLocked (status : Int) (h : ∀ time ∈ unfiledTime dev id, P time) :
    Files P dev (queueUrbGivebackLocked dev id status) := by
  have htimes : (queueUrbGivebackLocked dev id status).readyTime = dev.readyTime :=
    readyTime_queueUrbGivebackLocked status
  unfold queueUrbGivebackLocked at htimes ⊢
  cases hcontext : dev.contexts id with
  | none => exact .refl dev
  | some context =>
      rw [hcontext] at htimes
      simp only [unfiledTime, hcontext] at h
      dsimp only at htimes ⊢
      split_ifs at htimes h ⊢
      · exact .refl dev
      · refine .files id ?_ htimes ?_
        · rw [readyTime_eq hcontext]
        · rw [readyTime_eq hcontext]
          exact h _ (by simp)

theorem unfiledTime_subset (h : P (dev.readyTime id)) : ∀ time ∈ unfiledTime dev id, P time := by
  intro time htime
  unfold unfiledTime at htime
  split at htime
  · cases htime
  · rename_i context hcontext
    split_ifs at htime
    · cases htime
    · rw [List.mem_singleton.mp htime, ← readyTime_eq hcontext]
      exact h

/-- A loop that files contexts one by one; `Q` says what filing needs and stays true. -/
theorem files_foldl {f : HcdDev → CtxId → HcdDev} {Q : HcdDev → CtxId → Prop}
    (hf : ∀ dev id, Q dev id → Files P dev (f dev id))
    (hkeeps : ∀ dev id other, Q dev other → Q (f dev id) other) (ids : List CtxId)
    (h : ∀ id ∈ ids, Q dev id) : Files P dev (ids.foldl f dev) := by
  induction ids generalizing dev with
  | nil => exact .refl dev
  | cons id rest ih =>
      refine (hf dev id (h id (by simp))).trans (ih fun j hj => ?_)
      exact hkeeps dev id j (h j (List.mem_cons_of_mem _ hj))

end Times

section Sections

variable {P : Nat → Prop} {dev : HcdDev} {id : CtxId}

theorem files_cancelPendingUrbsLocked (status : Int)
    (h : ∀ id ∈ dev.pendingHidIn ++ dev.pendingFeatureGet, P (dev.readyTime id)) :
    Files P dev (cancelPendingUrbsLocked dev status) :=
  files_foldl (Q := fun dev id => P (dev.readyTime id))
    (fun _ _ h => files_queueUrbGivebackLocked status (unfiledTime_subset h))
    (fun _ _ _ h => by rwa [readyTime_queueUrbGivebackLocked status]) _ h

theorem files_disconnectLocked
    (h : ∀ time ∈ (if dev.stopping then []
      else (dev.pendingHidIn ++ dev.pendingFeatureGet).map dev.readyTime), P time) :
    Files P dev (disconnectLocked dev) := by
  simp only [disconnectLocked]
  split_ifs at h ⊢
  · exact .of_contexts rfl rfl
  · refine Files.trans (Files.trans ?_ (files_cancelPendingUrbsLocked eshutdown ?_))
      (.of_contexts rfl rfl)
    · exact .of_contexts rfl rfl
    · exact fun id hid => h _ (List.mem_map_of_mem hid)

theorem files_hcdStop
    (h : ∀ time ∈ (dev.pendingHidIn ++ dev.pendingFeatureGet).map dev.readyTime, P time) :
    Files P dev (hcdStop dev) := by
  simp only [hcdStop]
  refine Files.trans (Files.trans ?_ (files_cancelPendingUrbsLocked eshutdown ?_))
    (.of_contexts rfl rfl)
  · exact .of_contexts rfl rfl
  · exact fun id hid => h _ (List.mem_map_of_mem hid)

theorem files_enqueueFrame (type : FrameType) (payload : List UInt8) (alloc : Bool) :
    Files P dev (enqueueFrame dev type payload alloc).1 := by
  unfold enqueueFrame
  split_ifs <;> exact .of_contexts rfl rfl

theorem files_isoInUrb (urb : Urb) : Files P dev (isoInUrb dev urb).1 := by
  obtain ⟨_, _, _, hframe⟩ := isoInUrb_frame dev urb
  rw [hframe]
  exact .of_contexts rfl rfl

/-- The report of a pending or owned URB is copied and scheduled. -/
theorem files_fillHidIn (payload : List UInt8) (now : Nat) (hid : id ∉ dev.completedUrbs) :
    Files P dev (fillHidIn dev id payload now) := by
  refine .of_ne id rfl hid fun j hj => ?_
  simp [fillHidIn, scheduleHidInGivebackLocked, HcdDev.modifyContext, hj]

theorem readyTime_fillHidIn (payload : List UInt8) (now : Nat) (hlive : dev.stateOf id ≠ none) :
    (fillHidIn dev id payload now).readyTime id =
      base dev.nextHidInReady now + dev.usb.controllerProfile.hidInIntervalUs * nsecPerUsec := by
  cases hcontext : dev.contexts id with
  | none => simp [HcdDev.stateOf, hcontext] at hlive
  | some context =>
      simp [fillHidIn, scheduleHidInGivebackLocked, HcdDev.modifyContext, HcdDev.readyTime,
        hcontext]

theorem files_writeInputFrame (lists : Lists dev) (payload : List UInt8) (alloc : Bool) (now : Nat)
    (h : dev.stopping = false → dev.pendingHidIn ≠ [] → P (base dev.nextHidInReady now +
      dev.usb.controllerProfile.hidInIntervalUs * nsecPerUsec)) :
    Files P dev (writeInputFrame dev payload alloc now).1 := by
  have hqueue : Files P dev (queueInputPacketLocked dev payload alloc).1 := by
    unfold queueInputPacketLocked
    split_ifs <;> exact .of_contexts rfl rfl
  unfold writeInputFrame
  split_ifs with hlength hstopping
  · exact .refl dev
  · exact .refl dev
  · unfold completePendingInputLocked
    cases hpending : dev.pendingHidIn with
    | nil =>
        dsimp only
        split_ifs
        · exact hqueue
        · exact hqueue.trans (.of_contexts rfl rfl)
    | cons pending rest =>
        have hstate : dev.stateOf pending = some .pendingHidIn :=
          (lists.hidIn.mem_iff pending).mp (by simp [hpending])
        have hnot : pending ∉ dev.completedUrbs := by
          rw [lists.completed.mem_iff, hstate]
          simp
        refine (files_fillHidIn payload now hnot).trans (Files.trans
          (files_queueUrbGivebackLocked 0 (unfiledTime_subset ?_)) (.of_contexts rfl rfl))
        rw [readyTime_fillHidIn payload now (by simp [hstate])]
        exact h (Bool.eq_false_iff.mpr hstopping) (by simp [hpending])

/-- The reply fits a context that may be filed. -/
def ReplyFits (P : Nat → Prop) (reportId : UInt8) (dev : HcdDev) (id : CtxId) : Prop :=
  ∀ context, dev.contexts id = some context → context.featureReportId = reportId →
    P context.readyTime

theorem replyFits_update {reportId : UInt8} {other : CtxId} {context context' : UrbContext}
    (hcontext : dev.contexts id = some context)
    (hreport : context'.featureReportId = context.featureReportId)
    (htime : context'.readyTime = context.readyTime) (h : ReplyFits P reportId dev other) :
    ReplyFits P reportId
      { dev with contexts := Function.update dev.contexts id (some context') } other := by
  intro found hfound
  by_cases heq : other = id
  · subst heq
    simp only [Function.update_self] at hfound
    obtain rfl := Option.some.inj hfound
    rw [hreport, htime]
    exact h context hcontext
  · simp only [Function.update_of_ne heq] at hfound
    exact h found hfound

theorem replyFits_queueUrbGivebackLocked {reportId : UInt8} {other : CtxId} (status : Int)
    (h : ReplyFits P reportId dev other) :
    ReplyFits P reportId (queueUrbGivebackLocked dev id status) other := by
  unfold queueUrbGivebackLocked
  split
  · exact h
  · rename_i context hcontext
    split_ifs
    · exact h
    · exact replyFits_update hcontext rfl rfl h

theorem replyFits_completePendingFeatureReply {reportId : UInt8} {other : CtxId}
    (payload : List UInt8) (h : ReplyFits P reportId dev other) :
    ReplyFits P reportId (completePendingFeatureReply payload reportId dev id) other := by
  unfold completePendingFeatureReply
  split
  · exact h
  · rename_i context hcontext
    split_ifs
    · exact h
    · refine replyFits_queueUrbGivebackLocked _ ?_
      simp only [HcdDev.modifyContext, hcontext, Option.map_some]
      exact replyFits_update hcontext rfl rfl h

theorem files_completePendingFeatureReply {reportId : UInt8} (payload : List UInt8)
    (h : ReplyFits P reportId dev id) :
    Files P dev (completePendingFeatureReply payload reportId dev id) := by
  unfold completePendingFeatureReply
  split
  · exact .refl dev
  · rename_i context hcontext
    split_ifs with hreport
    · exact .refl dev
    · have hfill : Files P dev (dev.modifyContext id fun c =>
        { c with urb := (copyToUrb context.urb payload).1 }) := files_modifyContext fun _ => rfl
      refine hfill.trans (files_queueUrbGivebackLocked _ (unfiledTime_subset ?_))
      have htime : dev.readyTime id = context.readyTime := readyTime_eq hcontext
      have hsame : (dev.modifyContext id fun c =>
          { c with urb := (copyToUrb context.urb payload).1 }).readyTime = dev.readyTime :=
        readyTime_modifyContext fun _ => rfl
      rw [← congrFun hsame id] at htime
      rw [htime]
      exact h context hcontext (not_not.mp hreport)

theorem files_completeFeatureReply (payload : List UInt8)
    (h : ∀ time ∈ (if dev.stopping then []
      else (dev.pendingFeatureGet.filter fun id => (dev.contexts id).any fun context =>
        context.featureReportId = payload.headD 0).map dev.readyTime), P time) :
    Files P dev (completeFeatureReply dev payload).1 := by
  unfold completeFeatureReply
  split_ifs at h ⊢
  · exact .refl dev
  · refine Files.trans (files_foldl (Q := ReplyFits P (payload.headD 0))
      (fun _ _ h => files_completePendingFeatureReply payload h)
      (fun _ _ _ h => replyFits_completePendingFeatureReply payload h) _ ?_) (.of_contexts rfl rfl)
    intro id hid context hcontext hreport
    rw [← readyTime_eq hcontext]
    refine h _ (List.mem_map_of_mem (List.mem_filter.mpr ⟨hid, ?_⟩))
    simp only [hcontext, Option.any_some, hreport, decide_true]

theorem files_scheduleIsoGiveback (input : Bool) (now : Nat) (hid : id ∉ dev.completedUrbs) :
    Files P dev (scheduleIsoGiveback dev id input now) := by
  unfold scheduleIsoGiveback
  split
  · exact .refl dev
  · refine .of_ne id ?_ hid fun j hj => ?_
    · dsimp only
      split_ifs <;> rfl
    · dsimp only
      split_ifs <;> simp [hj]

end Sections

section Effects

variable {s t : System} {id : CtxId}

/-- What a step can do to the completed URBs: file contexts, cancel a timed entry behind
untimed ones, take the first entry, or fall asleep on it. -/
inductive Effect (s t : System) : Prop
  | files (files : Files (MayBeFiled s.giveback) s.dev t.dev)
      (hgiveback : t.giveback = s.giveback ∨ asleep t.giveback = false)
  | cancels (id : CtxId) (hlist : t.dev.completedUrbs = s.dev.completedUrbs)
      (hid : t.dev.readyTime id = 0) (hothers : ∀ j, j ≠ id → t.dev.readyTime j = s.dev.readyTime j)
      (hfirst : ∀ other ∈ s.dev.completedUrbs.takeWhile (· ≠ id), s.dev.readyTime other = 0)
      (hawake : asleep t.giveback = false)
  | takes (hlist : t.dev.completedUrbs = s.dev.completedUrbs.tail)
      (htimes : t.dev.readyTime = s.dev.readyTime) (hawake : asleep t.giveback = false)
  | sleeps (id : CtxId) (rest : List CtxId) (hdev : t.dev = s.dev)
      (hlist : s.dev.completedUrbs = id :: rest) (htimed : s.dev.readyTime id ≠ 0)
      (hgiveback : t.giveback = .sleeping (s.dev.readyTime id))

/-- The invariant. -/
structure Inv (s : System) : Prop where
  life : Lifecycle.Inv s
  ordered : Ordered s.dev
  sleeps : SleepsForAll s
  timed : ∀ expires, s.giveback = .sleeping expires → 0 < expires

theorem not_sleeping {expires : Nat} {giveback : GivebackPc} (h : asleep giveback = false) :
    giveback ≠ .sleeping expires := by
  rintro rfl
  cases h

theorem Inv.of_effect (inv : Inv s) (life : Lifecycle.Inv t) (effect : Effect s t) : Inv t := by
  cases effect with
  | files files hgiveback =>
      refine ⟨life, files.ordered inv.ordered, fun expires hsleeping => ?_,
        fun expires hsleeping => ?_⟩
      · have hsame : s.giveback = .sleeping expires := by
          rcases hgiveback with hsame | hawake
          · exact hsame.symm.trans hsleeping
          · exact absurd hsleeping (not_sleeping hawake)
        have hpositive := inv.timed expires hsame
        have htimes := files.forall_times fun id hid => by
          rw [hsame]
          exact (inv.sleeps expires hsame id hid).2
        intro id hid
        have hle := htimes id hid
        rw [hsame] at hle
        exact ⟨Nat.ne_of_gt (hpositive.trans_le hle), hle⟩
      · rcases hgiveback with hsame | hawake
        · exact inv.timed expires (hsame.symm.trans hsleeping)
        · exact absurd hsleeping (not_sleeping hawake)
  | cancels id hlist hid hothers hfirst hawake =>
      refine ⟨life, ?_, fun _ h => absurd h (not_sleeping hawake),
        fun _ h => absurd h (not_sleeping hawake)⟩
      rw [Ordered, hlist]
      exact pairwise_cancelled inv.ordered inv.life.lists.completed.nodup hid hothers hfirst
  | takes hlist htimes hawake =>
      refine ⟨life, ?_, fun _ h => absurd h (not_sleeping hawake),
        fun _ h => absurd h (not_sleeping hawake)⟩
      rw [Ordered, hlist, htimes]
      exact inv.ordered.tail
  | sleeps id rest hdev hlist htimed hgiveback =>
      have hexpires : ∀ {expires : Nat}, t.giveback = .sleeping expires →
          expires = s.dev.readyTime id := by
        intro expires h
        exact (GivebackPc.sleeping.inj (hgiveback.symm.trans h)).symm
      refine ⟨life, hdev ▸ inv.ordered, fun expires h other hother => ?_, fun expires h => ?_⟩
      · rw [hexpires h, hdev]
        rw [hdev, hlist] at hother
        have hordered := inv.ordered
        rw [Ordered, hlist] at hordered
        rcases List.mem_cons.mp hother with rfl | hmem
        · exact ⟨htimed, le_rfl⟩
        · exact ((List.pairwise_cons.mp hordered).1 other hmem).resolve_left htimed
      · rw [hexpires h]
        exact Nat.pos_of_ne_zero htimed

/-- A context that its enqueuer has is no entry. -/
theorem not_completed_of_owns (life : Lifecycle.Inv s) (h : owns (s.enqueuers id) = true) :
    id ∉ s.dev.completedUrbs := by
  rw [life.lists.completed.mem_iff, life.stateOf_of_owns h]
  simp

/-- What a step does to the entries, when `P` admits the times of what it files. -/
inductive Rearranges (P : Nat → Prop) (s t : System) (action : Action) : Prop
  | files (files : Files P s.dev t.dev)
  | cancels (id : CtxId) (hentry : cancelledEntry s action = some id)
      (hlist : t.dev.completedUrbs = s.dev.completedUrbs) (hid : t.dev.readyTime id = 0)
      (hothers : ∀ j, j ≠ id → t.dev.readyTime j = s.dev.readyTime j)
  | takes (haction : action = .take) (hlist : t.dev.completedUrbs = s.dev.completedUrbs.tail)
      (htimes : t.dev.readyTime = s.dev.readyTime)

variable {P : Nat → Prop}

theorem files_interruptInUrb (hnot : id ∉ s.dev.completedUrbs) :
    Files P s.dev (interruptInUrb s.dev id s.clock).1 := by
  unfold interruptInUrb
  split
  · refine Files.trans ?_ (files_fillHidIn _ _ ?_)
    · exact .of_contexts rfl rfl
    · exact hnot
  · refine .of_ne id rfl hnot fun j hj => ?_
    simp [HcdDev.modifyContext, hj]

theorem files_handle (life : Lifecycle.Inv s) {context : UrbContext}
    (hpc : s.enqueuers id = .linked) : Files P s.dev (Threads.handle s id context).dev := by
  have hnot : id ∉ s.dev.completedUrbs := not_completed_of_owns life (by simp [hpc, owns])
  dsimp only [Threads.handle]
  cases context.urb.pipeType with
  | control =>
      exact .of_ne id rfl hnot fun j hj => by simp [System.setPc, HcdDev.modifyContext, hj]
  | interrupt =>
      dsimp only
      split
      · exact files_interruptInUrb hnot
      · split_ifs
        · exact files_modifyContext fun _ => rfl
        · exact .refl _
  | isochronous =>
      dsimp only
      split_ifs
      · exact .refl _
      · exact files_modifyContext fun _ => rfl
      · exact .refl _
      · exact files_modifyContext fun _ => rfl
      · exact .refl _
  | bulk => exact .refl _

theorem files_call {calls : List Call} {ret : Int} {next : Call} (alloc : Bool) :
    Files P s.dev (Threads.call s id alloc calls ret next).dev := by
  cases next with
  | setStatus flags enabled => exact .of_contexts rfl rfl
  | notify type payload => exact files_enqueueFrame _ _ _
  | forward type payload actualLength =>
      simp only [Threads.call]
      split_ifs
      · exact files_enqueueFrame _ _ _
      · exact (files_enqueueFrame _ _ _).trans (files_modifyContext fun _ => rfl)

theorem files_deferFeatureGet (life : Lifecycle.Inv s) (howns : owns (s.enqueuers id) = true)
    (reportId : UInt8) : Files P s.dev (deferFeatureGet s.dev id reportId).1 := by
  unfold deferFeatureGet
  split
  · exact .refl _
  · split_ifs
    · exact .refl _
    · exact .refl _
    · refine .of_ne id rfl (not_completed_of_owns life howns) fun j hj => ?_
      simp [hj]

theorem cancels_of_context {dev : HcdDev} {context : UrbContext}
    (hcontext : dev.contexts id = some context) (hret : ¬checkUnlinkUrb context.urb ≠ 0)
    (hhcpriv : ¬(!context.urb.hcpriv) = true) : cancels dev id = true := by
  simpa [cancels, hcontext, not_not.mp hret] using hhcpriv

/-- A cancellation files its context, or makes an entry untimed where it stands. -/
theorem rearranges_dequeue {status : Int}
    (hfiled : ∀ time ∈ filedTimes s (.dequeue id status), P time) :
    Rearranges P s { s with dev := (urbDequeue s.dev id status).1 } (.dequeue id status) := by
  unfold urbDequeue
  cases hcontext : s.dev.contexts id with
  | none => exact .files (.refl _)
  | some context =>
      let mark := s.dev.modifyContext id fun context =>
        { context with urb := { context.urb with unlinked := true } }
      have hmark : Files P s.dev mark := files_modifyContext fun _ => rfl
      dsimp only
      split_ifs with hret hhcpriv hstate
      · exact .files (.refl _)
      · exact .files hmark
      · have hcancels := cancels_of_context hcontext hret hhcpriv
        have hothers : ∀ j, j ≠ id → (mark.modifyContext id fun context =>
            { context with status := status, readyTime := 0 }).readyTime j = s.dev.readyTime j := by
          intro j hj
          simp [mark, HcdDev.readyTime, HcdDev.modifyContext, hj]
        have hid : (mark.modifyContext id fun context =>
            { context with status := status, readyTime := 0 }).readyTime id = 0 := by
          simp [mark, HcdDev.readyTime, HcdDev.modifyContext, hcontext]
        by_cases huntimed : s.dev.readyTime id = 0
        · refine .files (.same rfl fun j _ => ?_)
          by_cases hj : j = id
          · rw [hj, huntimed]
            exact hid
          · exact hothers j hj
        · refine .cancels id ?_ rfl hid hothers
          simp [cancelledEntry, hcancels, HcdDev.stateOf, hcontext, hstate, huntimed]
      · refine .files (hmark.trans (files_queueUrbGivebackLocked status ?_))
        intro time htime
        refine hfiled time ?_
        simp only [filedTimes, cancels_of_context hcontext hret hhcpriv, if_true]
        simpa [unfiledTime, mark, HcdDev.modifyContext, hcontext] using htime

theorem files_write (life : Lifecycle.Inv s) {frame : Frame} {flags : UInt16} {alloc : Bool}
    (hfiled : ∀ time ∈ filedTimes s (.write frame flags alloc), P time) :
    Files P s.dev (Threads.write s frame flags alloc).dev := by
  unfold Threads.write
  split_ifs with hrefused
  · exact .refl _
  · split
    · rename_i htype
      refine files_writeInputFrame life.lists _ _ _ fun _ hpending => hfiled _ ?_
      simp only [Bool.not_eq_true, Bool.or_eq_false_iff] at hrefused
      simp only [filedTimes, hrefused.1, hrefused.2, htype]
      simp [hpending]
    · dsimp only
      split_ifs <;> exact .of_contexts rfl rfl
    · unfold writeAudioInFrame
      split_ifs <;> exact .of_contexts rfl rfl
    · exact .refl _

theorem files_resume {syscalls : List Syscall} {syscall : Syscall}
    (hfiled : ∀ time ∈ filedTimes s (.resume syscall), P time) :
    Files P s.dev (Threads.resume { s with syscalls := syscalls } syscall).dev := by
  cases syscall with
  | featureReply payload => exact files_completeFeatureReply payload hfiled
  | disconnect => exact files_disconnectLocked hfiled
  | resetUsb => exact .of_contexts rfl rfl

theorem rearranges_take {dev : HcdDev} {status : Int}
    (htake : takeCompleted s.dev s.clock = some (dev, id, status)) :
    Rearranges P s { s with dev := dev, giveback := .taken id status } .take := by
  unfold takeCompleted at htake
  split at htake
  · cases htake
  · rename_i first rest hcompleted
    obtain ⟨-, heq⟩ := Option.ite_none_left_eq_some.mp htake
    cases heq
    refine .takes rfl (by rw [hcompleted]; rfl) ?_
    exact readyTime_modifyContext fun _ => rfl

theorem files_deliver {status : Int} : Files P s.dev (Threads.deliver s id status).dev := by
  unfold Threads.deliver
  split
  · exact .refl _
  · dsimp only
    split_ifs
    · exact files_modifyContext fun _ => rfl
    · exact files_modifyContext fun _ => rfl
    · exact (files_isoInUrb _).trans (files_modifyContext fun _ => rfl)
    · exact .refl _

theorem files_place {payload : List UInt8} {payloads : List (List UInt8)} (alloc : Bool) :
    Files P s.dev (Threads.place s id alloc payload payloads).dev := by
  simp only [Threads.place]
  split_ifs
  · exact (files_enqueueFrame _ _ _).trans (.of_contexts rfl rfl)
  · exact files_enqueueFrame _ _ _

theorem files_givebackUrb (life : Lifecycle.Inv s) (hheld : holds s.giveback = some id) :
    Files P s.dev (givebackUrb s.dev id) := by
  have hnot : id ∉ s.dev.completedUrbs := by
    rw [life.lists.completed.mem_iff, (life.giving id).mp hheld]
    simp
  refine .of_ne id rfl hnot fun j hj => ?_
  simp [givebackUrb, hj]

theorem rearranges_of_step {action : Action} (life : Lifecycle.Inv s)
    (hfiled : ∀ time ∈ filedTimes s action, P time) (h : Threads.step s action = some t) :
    Rearranges P s t action := by
  cases steps_of_step h with
  | tick | handleFreed | sleep | wake | placed => exact .files (.refl _)
  | openFile | release => exact .files (.of_contexts rfl rfl)
  | submit urb alloc linkRet =>
      unfold Threads.submit
      split_ifs
      · exact .files (.refl _)
      · have hnot : s.dev.submitted ∉ s.dev.completedUrbs := by
          rw [life.lists.completed.mem_iff, life.fresh _ le_rfl]
          simp
        refine .files (.of_ne s.dev.submitted rfl hnot fun j hj => ?_)
        simp [hj]
  | handle id context hpc live => exact .files (files_handle life hpc)
  | call id alloc => exact .files (files_call alloc)
  | defer id reportId requestedLength hpc =>
      exact .files (files_deferFeatureGet life (by simp [hpc, owns]) _)
  | request id alloc => exact .files (files_enqueueFrame _ _ _)
  | refile id ret hpc => exact .files (files_queueUrbGivebackLocked _ hfiled)
  | file id ret hpc => exact .files (files_queueUrbGivebackLocked _ hfiled)
  | schedule id input hpc =>
      exact .files (files_scheduleIsoGiveback _ _
        (not_completed_of_owns life (by simp [hpc, owns])))
  | dequeue id status => exact rearranges_dequeue hfiled
  | write frame flags alloc => exact .files (files_write life hfiled)
  | read count =>
      refine .files ?_
      unfold Sections.read
      split
      · exact .refl _
      · split_ifs <;> exact .of_contexts rfl rfl
  | connect =>
      refine .files ?_
      unfold connectLocked
      split_ifs <;> exact .of_contexts rfl rfl
  | disconnect => exact .files (files_disconnectLocked hfiled)
  | setProfile profile pollingRateMode =>
      refine .files ?_
      unfold Sections.setProfile
      split_ifs
      · exact .refl _
      · exact .refl _
      · split <;> exact .of_contexts rfl rfl
  | resume syscall => exact .files (files_resume hfiled)
  | hubControl request value index =>
      refine .files ?_
      unfold Sections.hubControl
      repeat' (first | exact .of_contexts rfl rfl | split)
  | stop => exact .files (files_hcdStop hfiled)
  | take dev id status hpc taken => exact rearranges_take taken
  | deliver => exact .files files_deliver
  | place id alloc => exact .files (files_place alloc)
  | giveback id status hpc => exact .files (files_givebackUrb life (by simp [holds, hpc]))

/-- A thread that starts to sleep does it on the first entry. -/
theorem effect_sleep (h : Threads.step s .sleep = some t) : Effect s t := by
  cases steps_of_step h with
  | sleep id rest hpc listed early =>
      refine .sleeps id rest rfl listed ?_ rfl
      simp only [notYetReady, Bool.and_eq_true, decide_eq_true_eq] at early
      exact early.1

/-- Apart from that, the giveback thread stays where it is or is awake. -/
theorem giveback_or_awake {action : Action} (h : Threads.step s action = some t)
    (hsleep : action ≠ .sleep) : t.giveback = s.giveback ∨ asleep t.giveback = false := by
  by_cases hother : ofGiveback action = false
  · exact .inl (giveback_of_step h hother)
  cases steps_of_step h with
  | sleep => exact absurd rfl hsleep
  | wake | take | place | placed | giveback => exact .inr rfl
  | deliver id status =>
      unfold Threads.deliver
      split
      · exact .inr rfl
      · dsimp only
        split_ifs <;> exact .inr rfl
  | _ => exact absurd rfl hother

theorem effect_of_step {action : Action} (life : Lifecycle.Inv s) (ok : OrderGuard s action)
    (h : Threads.step s action = some t) : Effect s t := by
  by_cases hsleep : action = .sleep
  · subst hsleep
    exact effect_sleep h
  have hgiveback := giveback_or_awake h hsleep
  obtain ⟨-, hfiled, hcancelled⟩ := ok
  cases rearranges_of_step life hfiled h with
  | files files => exact .files files hgiveback
  | cancels id hentry hlist hid hothers =>
      obtain ⟨hawake, hfirst⟩ := hcancelled id hentry
      refine .cancels id hlist hid hothers hfirst ?_
      obtain hsame | hawake' := hgiveback
      · rw [hsame, hawake]
      · exact hawake'
  | takes haction hlist htimes =>
      subst haction
      refine .takes hlist htimes ?_
      cases steps_of_step h
      rfl

end Effects

theorem Inv.step {s t : System} {action : Action} (inv : Inv s) (ok : OrderGuard s action)
    (h : Threads.step s action = some t) : Inv t :=
  inv.of_effect (inv.life.step ok.1 h) (effect_of_step inv.life ok h)

theorem Inv.init : Inv System.init where
  life := Lifecycle.Inv.init
  ordered := .nil
  sleeps := by simp [SleepsForAll, System.init]
  timed := by simp [System.init]

/-- In every run that meets the condition, the completed URBs are in order and the
giveback thread does not sleep past one of them. -/
theorem completionOrder_of_guardedRun {actions : List Action} {t : System}
    (run : GuardedRun step OrderGuard .init actions t) : Ordered t.dev ∧ SleepsForAll t := by
  have inv : Inv t := run.invariant (fun _ _ _ inv ok h => inv.step ok h) Inv.init
  exact ⟨inv.ordered, inv.sleeps⟩

section Examples

instance (s : System) (action : Action) : Decidable (LifecycleGuard s action) :=
  match action with
  | .dequeue _ _ => inferInstanceAs (Decidable (_ = false))
  | .refile _ => inferInstanceAs (Decidable (Option.isSome _ = true))
  | .tick _ | .submit _ _ _ | .handle _ | .call _ _ | .defer _ | .request _ _ | .schedule _
  | .file _ | .write _ _ _ | .read _ | .connect | .disconnect | .setProfile _ _ | .openFile
  | .release | .resume _ | .hubControl _ _ _ | .stop | .sleep | .wake | .take | .deliver
  | .place _ | .giveback => inferInstanceAs (Decidable True)

instance (giveback : GivebackPc) (time : Nat) : Decidable (MayBeFiled giveback time) :=
  match giveback with
  | .sleeping _ => inferInstanceAs (Decidable (_ ≤ _))
  | .idle | .taken _ _ | .delivering _ _ | .finishing _ _ => inferInstanceAs (Decidable True)

instance (s : System) (action : Action) : Decidable (OrderGuard s action) :=
  inferInstanceAs (Decidable (_ ∧ (∀ time ∈ filedTimes s action, _) ∧
    ∀ id ∈ cancelledEntry s action, _ ∧ ∀ other ∈ _, _))

/-- A request to select the audio OUT interface. -/
def setInterfaceUrb : Urb where
  pipeType := .control
  endpoint := 0
  dirIn := false
  setupPacket := some ⟨0x01, 0x0b, 1, 1, 0⟩
  transferBufferLength := 0
  transferBuffer := none
  isoFrameDesc := []
  actualLength := 0
  errorCount := 0
  startFrame := 0
  linked := false
  unlinked := false
  hcpriv := false

def enqueueAudio (id : CtxId) : List Action :=
  [.submit audioUrb true 0, .handle id, .schedule id, .file id]

theorem guardedRun_audioDuringSleep : ∃ t, GuardedRun step OrderGuard .init
    (enqueueAudio 0 ++ [.sleep] ++ enqueueAudio 1 ++ [.tick 1000000, .wake, .take]) t :=
  exists_guardedRun_of_execute (by decide +kernel)

/-- A second audio URB is filed behind the one on which the thread sleeps. -/
theorem completionOrder_audioDuringSleep : ∃ t, GuardedRun step OrderGuard .init
    (enqueueAudio 0 ++ [.sleep] ++ enqueueAudio 1 ++ [.tick 1000000, .wake, .take]) t ∧
      Ordered t.dev ∧ SleepsForAll t := by
  obtain ⟨t, run⟩ := guardedRun_audioDuringSleep
  exact ⟨t, run, completionOrder_of_guardedRun run⟩

/-- A cancelled URB stays behind a timed one, and a control URB that completes while the
giveback thread sleeps waits for the next audio packet. -/
theorem untimed_behind_timed : ∃ s t,
    Run step .init (enqueueAudio 0 ++ enqueueAudio 1 ++ [.dequeue 1 (-104)]) s ∧ ¬Ordered s.dev ∧
    Run step .init (enqueueAudio 0 ++
      [.sleep, .submit setInterfaceUrb true 0, .handle 1, .call 1 true, .call 1 true, .file 1]) t ∧
      ¬SleepsForAll t := by
  obtain ⟨s, hs, hordered⟩ : ∃ s, Run step .init
      (enqueueAudio 0 ++ enqueueAudio 1 ++ [.dequeue 1 (-104)]) s ∧ ¬Ordered s.dev :=
    exists_run_of_execute (by decide +kernel)
  obtain ⟨t, ht, hsleeping, hfirst, htime⟩ : ∃ t, Run step .init (enqueueAudio 0 ++
      [.sleep, .submit setInterfaceUrb true 0, .handle 1, .call 1 true, .call 1 true, .file 1]) t ∧
      asleep t.giveback = true ∧ 1 ∈ t.dev.completedUrbs ∧ t.dev.readyTime 1 = 0 :=
    exists_run_of_execute (by decide +kernel)
  refine ⟨s, t, hs, hordered, ht, fun sleeps => ?_⟩
  cases hgiveback : t.giveback with
  | sleeping expires => exact (sleeps expires hgiveback 1 hfirst).1 htime
  | idle | taken | delivering | finishing => simp [hgiveback, asleep] at hsleeping

end Examples

end VirtualDualSense.Hcd.CompletionOrder
