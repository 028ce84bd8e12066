import VirtualDualSense.Hcd.AtomicRuns

/-!
# Reads of feature reports

A read that misses the cache waits on `pending_feature_get` for the reply of the daemon.
Every step of the host controller says which contexts it may touch; a read that is not
touched keeps waiting for its report. A reply completes exactly the reads of its report.
-/

namespace VirtualDualSense.Hcd.FeatureReads

open Lib.Runs Protocol.Frames UsbCore Sections Filing Threads ThreadSteps Lifecycle AtomicRuns

section Sections

variable {dev dev' dev'' : HcdDev} {touched touched' : CtxId → Prop} {id : CtxId}

/-- A section that leaves the contexts outside of `touched` where they are, lets no
context wait for a feature report and changes no report that one waits for. -/
structure Spares (touched : CtxId → Prop) (dev dev' : HcdDev) : Prop where
  contexts : ∀ j, ¬touched j → dev'.contexts j = dev.contexts j
  reports : ∀ j context', dev'.contexts j = some context' → ∃ context,
    dev.contexts j = some context ∧ context.featureReportId = context'.featureReportId
  pending : dev'.pendingFeatureGet.Sublist dev.pendingFeatureGet
  keeps : ∀ j ∈ dev.pendingFeatureGet, ¬touched j → j ∈ dev'.pendingFeatureGet
  hidIn : ∀ j ∈ dev'.pendingHidIn, j ∈ dev.pendingHidIn ∨ touched j ∧ (dev.contexts j).isSome
  completed : ∀ j ∈ dev'.completedUrbs,
    j ∈ dev.completedUrbs ∨ touched j ∧ (dev.contexts j).isSome
  submitted : dev'.submitted = dev.submitted

namespace Spares

/-- A section that leaves all contexts and lists alone. -/
theorem of_eq (hcontexts : dev'.contexts = dev.contexts)
    (hpending : dev'.pendingFeatureGet = dev.pendingFeatureGet)
    (hhidIn : dev'.pendingHidIn = dev.pendingHidIn)
    (hcompleted : dev'.completedUrbs = dev.completedUrbs)
    (hsubmitted : dev'.submitted = dev.submitted) : Spares touched dev dev' where
  contexts := fun j _ => by rw [hcontexts]
  reports := fun j context' h => ⟨context', by rwa [← hcontexts], rfl⟩
  pending := by rw [hpending]
  keeps := fun j h _ => by rwa [hpending]
  hidIn := fun j h => .inl (by rwa [← hhidIn])
  completed := fun j h => .inl (by rwa [← hcompleted])
  submitted := hsubmitted

theorem refl (dev : HcdDev) : Spares touched dev dev := of_eq rfl rfl rfl rfl rfl

theorem isSome (h : Spares touched dev dev') {j : CtxId} (hj : (dev'.contexts j).isSome) :
    (dev.contexts j).isSome := by
  obtain ⟨context', hcontext'⟩ := Option.isSome_iff_exists.mp hj
  obtain ⟨context, hcontext, -⟩ := h.reports j context' hcontext'
  exact Option.isSome_iff_exists.mpr ⟨context, hcontext⟩

theorem trans (first : Spares touched dev dev') (second : Spares touched dev' dev'') :
    Spares touched dev dev'' where
  contexts := fun j h => (second.contexts j h).trans (first.contexts j h)
  reports := by
    intro j context'' h
    obtain ⟨context', hcontext', hreport'⟩ := second.reports j context'' h
    obtain ⟨context, hcontext, hreport⟩ := first.reports j context' hcontext'
    exact ⟨context, hcontext, hreport.trans hreport'⟩
  pending := second.pending.trans first.pending
  keeps := fun j h htouched => second.keeps j (first.keeps j h htouched) htouched
  hidIn := by
    intro j h
    obtain hmem | ⟨htouched, hcontext⟩ := second.hidIn j h
    · exact first.hidIn j hmem
    · exact .inr ⟨htouched, first.isSome hcontext⟩
  completed := by
    intro j h
    obtain hmem | ⟨htouched, hcontext⟩ := second.completed j h
    · exact first.completed j hmem
    · exact .inr ⟨htouched, first.isSome hcontext⟩
  submitted := second.submitted.trans first.submitted

/-- Write to one touched context. -/
theorem update {context : UrbContext} (context' : UrbContext) (hid : touched id)
    (hcontext : dev.contexts id = some context)
    (hreport : context.featureReportId = context'.featureReportId)
    (hcontexts : dev'.contexts = Function.update dev.contexts id (some context'))
    (hpending : dev'.pendingFeatureGet = dev.pendingFeatureGet)
    (hhidIn : dev'.pendingHidIn = dev.pendingHidIn)
    (hcompleted : dev'.completedUrbs = dev.completedUrbs)
    (hsubmitted : dev'.submitted = dev.submitted) : Spares touched dev dev' where
  contexts := by
    intro j hj
    rw [hcontexts, Function.update_of_ne]
    rintro rfl
    exact hj hid
  reports := by
    intro j other h
    rw [hcontexts] at h
    by_cases hj : j = id
    · subst hj
      rw [Function.update_self, Option.some.injEq] at h
      exact ⟨context, hcontext, by rw [hreport, h]⟩
    · rw [Function.update_of_ne hj] at h
      exact ⟨other, h, rfl⟩
  pending := by rw [hpending]
  keeps := fun j h _ => by rwa [hpending]
  hidIn := fun j h => .inl (by rwa [← hhidIn])
  completed := fun j h => .inl (by rwa [← hcompleted])
  submitted := hsubmitted

theorem modifyContext {f : UrbContext → UrbContext} (hid : touched id)
    (hf : ∀ context, (f context).featureReportId = context.featureReportId) :
    Spares touched dev (dev.modifyContext id f) := by
  cases hcontext : dev.contexts id with
  | none =>
      refine of_eq ?_ rfl rfl rfl rfl
      rw [HcdDev.modifyContext, hcontext, Option.map_none, ← hcontext]
      exact Function.update_eq_self id dev.contexts
  | some context =>
      refine update (f context) hid hcontext (hf context).symm ?_ rfl rfl rfl rfl
      rw [HcdDev.modifyContext, hcontext, Option.map_some]

theorem queue (hid : touched id) (status : Int) :
    Spares touched dev (queueUrbGivebackLocked dev id status) := by
  have hne : ∀ j, ¬touched j → j ≠ id := by
    rintro j hj rfl
    exact hj hid
  unfold queueUrbGivebackLocked
  split
  · exact refl dev
  · rename_i context hcontext
    split_ifs
    · exact refl dev
    · refine ⟨?_, ?_, ?_, ?_, ?_, ?_, rfl⟩
      · intro j hj
        exact Function.update_of_ne (hne j hj) _ _
      · intro j other h
        dsimp only at h
        by_cases hj : j = id
        · subst hj
          rw [Function.update_self, Option.some.injEq] at h
          exact ⟨context, hcontext, by rw [← h]⟩
        · rw [Function.update_of_ne hj] at h
          exact ⟨other, h, rfl⟩
      · exact List.erase_sublist
      · intro j hmem hj
        exact (List.mem_erase_of_ne (hne j hj)).mpr hmem
      · intro j hmem
        exact .inl (List.mem_of_mem_erase hmem)
      · intro j hmem
        rw [(insertCompleted_perm _ _ _ _).mem_iff, List.mem_cons] at hmem
        obtain rfl | hmem := hmem
        · exact .inr ⟨hid, by rw [hcontext]; rfl⟩
        · exact .inl hmem

theorem foldl {f : HcdDev → CtxId → HcdDev} {ids : List CtxId} (start : Spares touched dev dev')
    (hf : ∀ current, Spares touched dev current → ∀ j ∈ ids, Spares touched current (f current j)) :
    Spares touched dev (ids.foldl f dev') := by
  induction ids generalizing dev' with
  | nil => exact start
  | cons j rest ih =>
      refine ih (start.trans (hf dev' start j List.mem_cons_self)) fun current h k hk => ?_
      exact hf current h k (List.mem_cons_of_mem j hk)

theorem mono (h : Spares touched dev dev') (hsub : ∀ j, touched j → touched' j) :
    Spares touched' dev dev' where
  contexts := fun j hj => h.contexts j fun htouched => hj (hsub j htouched)
  reports := h.reports
  pending := h.pending
  keeps := fun j hmem hj => h.keeps j hmem fun htouched => hj (hsub j htouched)
  hidIn := fun j hmem => (h.hidIn j hmem).imp_right (And.imp_left (hsub j))
  completed := fun j hmem => (h.completed j hmem).imp_right (And.imp_left (hsub j))
  submitted := h.submitted

theorem cancelAndFlush (start : Spares touched dev dev')
    (htouched : ∀ j ∈ dev'.pendingHidIn ++ dev'.pendingFeatureGet, touched j) (status : Int) :
    Spares touched dev (flushBufferedFramesLocked (cancelPendingUrbsLocked dev' status)) :=
  (foldl start fun _ _ j hj => queue (htouched j hj) status).trans (of_eq rfl rfl rfl rfl rfl)

theorem disconnectLocked : Spares (fun _ => True) dev (Sections.disconnectLocked dev) := by
  unfold Sections.disconnectLocked
  dsimp only
  split_ifs
  · exact of_eq rfl rfl rfl rfl rfl
  · have hrest : ∀ {current : HcdDev}, Spares (fun _ => True) dev current →
        Spares (fun _ => True) dev (statusSetLocked { current with
          nextIsoOutReady := 0, nextIsoInReady := 0, nextHidInReady := 0 }
          ⟨true, true, true, true⟩ false) := by
      intro current h
      exact h.trans (of_eq rfl rfl rfl rfl rfl)
    refine hrest (cancelAndFlush ?_ (fun _ _ => trivial) eshutdown)
    exact of_eq rfl rfl rfl rfl rfl

/-- A stop touches the contexts that wait. -/
theorem hcdStop : Spares (· ∈ dev.pendingHidIn ++ dev.pendingFeatureGet) dev
    (Sections.hcdStop dev) := by
  have hrest : ∀ {touched : CtxId → Prop} {current : HcdDev}, Spares touched dev current →
      Spares touched dev { current with statusFlags := ⟨false, false, false, false⟩ } := by
    intro touched current h
    exact h.trans (of_eq rfl rfl rfl rfl rfl)
  have hstop : Spares (· ∈ dev.pendingHidIn ++ dev.pendingFeatureGet) dev
      { dev with stopping := true } := of_eq rfl rfl rfl rfl rfl
  exact hrest (hstop.cancelAndFlush (fun _ hj => hj) eshutdown)

theorem urbDequeue (hid : touched id) (status : Int) :
    Spares touched dev (Sections.urbDequeue dev id status).1 := by
  unfold Sections.urbDequeue
  split
  · exact refl dev
  · dsimp only
    split_ifs
    · exact refl dev
    · exact modifyContext hid fun _ => rfl
    · refine trans ?_ (modifyContext hid fun _ => rfl)
      exact modifyContext hid fun _ => rfl
    · refine trans ?_ (queue hid status)
      exact modifyContext hid fun _ => rfl

theorem enqueueFrame (type : FrameType) (payload : List UInt8) (alloc : Bool) :
    Spares touched dev (Sections.enqueueFrame dev type payload alloc).1 := by
  unfold Sections.enqueueFrame
  split_ifs <;> exact of_eq rfl rfl rfl rfl rfl

theorem read (count : Nat) : Spares touched dev (Sections.read dev count).1 := by
  unfold Sections.read
  split
  · exact refl dev
  · split_ifs <;> exact of_eq rfl rfl rfl rfl rfl

theorem connectLocked : Spares touched dev (Sections.connectLocked dev) := by
  unfold Sections.connectLocked
  split_ifs <;> exact of_eq rfl rfl rfl rfl rfl

theorem setProfile (profile : Option Usb.Descriptors.Profile) (pollingRateMode : Nat) :
    Spares touched dev (Sections.setProfile dev profile pollingRateMode).1 := by
  unfold Sections.setProfile
  split_ifs
  · exact refl dev
  · exact refl dev
  · split <;> exact of_eq rfl rfl rfl rfl rfl

theorem hubControl (request : HubRequest) (value index : Nat) :
    Spares touched dev (Sections.hubControl dev request value index).1 := by
  unfold Sections.hubControl
  repeat' (first | exact of_eq rfl rfl rfl rfl rfl | split)

theorem fillHidIn (hid : touched id) (payload : List UInt8) (now : Nat) :
    Spares touched dev (Sections.fillHidIn dev id payload now) := by
  have hcopy : Spares touched dev (dev.modifyContext id fun context =>
      { context with urb := fillHidInUrb context.urb payload }) := modifyContext hid fun _ => rfl
  have hschedule : ∀ (current : HcdDev) (readyTime : Nat), Spares touched current
      (current.modifyContext id fun context => { context with readyTime := readyTime }) :=
    fun _ _ => modifyContext hid fun _ => rfl
  exact (hcopy.trans (hschedule _ _)).trans (of_eq rfl rfl rfl rfl rfl)

theorem writeInputFrame (payload : List UInt8) (alloc : Bool) (now : Nat) :
    Spares (· ∈ dev.pendingHidIn) dev (Sections.writeInputFrame dev payload alloc now).1 := by
  have hbuffered : Spares (· ∈ dev.pendingHidIn) dev
      (queueInputPacketLocked dev payload alloc).1 := by
    unfold queueInputPacketLocked
    split_ifs <;> exact of_eq rfl rfl rfl rfl rfl
  unfold Sections.writeInputFrame completePendingInputLocked
  split_ifs
  · exact refl dev
  · exact refl dev
  · cases hpending : dev.pendingHidIn with
    | nil =>
        rw [hpending] at hbuffered
        dsimp only
        split_ifs
        · exact hbuffered
        · exact hbuffered.trans (of_eq rfl rfl rfl rfl rfl)
    | cons pending rest =>
        have hmem : pending ∈ pending :: rest := List.mem_cons_self
        exact (trans (fillHidIn hmem payload now) (queue hmem 0)).trans (of_eq rfl rfl rfl rfl rfl)

theorem writeAudioInFrame (payload : List UInt8) (alloc : Bool) :
    Spares touched dev (Sections.writeAudioInFrame dev payload alloc).1 := by
  unfold Sections.writeAudioInFrame
  split_ifs <;> exact of_eq rfl rfl rfl rfl rfl

theorem interruptInUrb (hid : touched id) (hcontext : (dev.contexts id).isSome) (now : Nat) :
    Spares touched dev (Sections.interruptInUrb dev id now).1 := by
  unfold Sections.interruptInUrb
  split
  · refine trans ?_ (fillHidIn hid _ now)
    exact of_eq rfl rfl rfl rfl rfl
  · have hmodify : Spares touched dev (dev.modifyContext id fun context =>
        { context with state := .pendingHidIn }) := modifyContext hid fun _ => rfl
    refine { hmodify with hidIn := ?_ }
    intro j hmem
    rw [List.mem_append, List.mem_singleton] at hmem
    obtain hmem | rfl := hmem
    · exact .inl hmem
    · exact .inr ⟨hid, hcontext⟩

theorem isoInUrb (urb : Urb) : Spares touched dev (Sections.isoInUrb dev urb).1 := by
  obtain ⟨_, _, _, hframe⟩ := isoInUrb_frame dev urb
  rw [hframe]
  exact of_eq rfl rfl rfl rfl rfl

theorem scheduleIsoGiveback (hid : touched id) (input : Bool) (now : Nat) :
    Spares touched dev (Sections.scheduleIsoGiveback dev id input now) := by
  unfold Sections.scheduleIsoGiveback
  split
  · exact refl dev
  · rename_i context hcontext
    cases input
    · refine update _ hid hcontext ?_ rfl rfl rfl rfl rfl
      rfl
    · refine update _ hid hcontext ?_ rfl rfl rfl rfl rfl
      rfl

theorem takeCompleted {now : Nat} {status : Int}
    (h : Sections.takeCompleted dev now = some (dev', id, status)) :
    Spares (· ∈ dev.completedUrbs) dev dev' ∧ id ∈ dev.completedUrbs := by
  unfold Sections.takeCompleted at h
  split at h
  · cases h
  · rename_i head rest hcompleted
    obtain ⟨-, heq⟩ := Option.ite_none_left_eq_some.mp h
    cases heq
    have hmem : id ∈ dev.completedUrbs := by
      rw [hcompleted]
      exact List.mem_cons_self
    refine ⟨?_, hmem⟩
    have hmodify : Spares (· ∈ dev.completedUrbs) dev (dev.modifyContext id fun context =>
        { context with
          state := .givingBack
          urb := { context.urb with linked := false, hcpriv := false } }) :=
      modifyContext hmem fun _ => rfl
    refine { hmodify with completed := ?_ }
    intro j hj
    rw [hcompleted]
    exact .inl (List.mem_cons_of_mem id hj)

theorem givebackUrb (hid : touched id) : Spares touched dev (Sections.givebackUrb dev id) := by
  refine { refl dev with contexts := ?_, reports := ?_ }
  · intro j hj
    refine Function.update_of_ne ?_ _ _
    rintro rfl
    exact hj hid
  · intro j context h
    dsimp only [Sections.givebackUrb] at h
    by_cases hj : j = id
    · subst hj
      rw [Function.update_self] at h
      cases h
    · rw [Function.update_of_ne hj] at h
      exact ⟨context, h, rfl⟩

end Spares

end Sections

section Replies

variable {dev dev' : HcdDev} {id : CtxId} {reportId : UInt8} {payload : List UInt8}

/-- A context on the list of reads that names the report. -/
def Reads (dev : HcdDev) (reportId : UInt8) (id : CtxId) : Prop :=
  id ∈ dev.pendingFeatureGet ∧
    ∃ context, dev.contexts id = some context ∧ context.featureReportId = reportId

/-- A read that waits for the report. -/
def Waits (dev : HcdDev) (reportId : UInt8) (id : CtxId) : Prop :=
  id ∈ dev.pendingFeatureGet ∧ ∃ context, dev.contexts id = some context ∧
    context.featureReportId = reportId ∧ context.state = .pendingFeatureGet

/-- The read of `id` was taken off the list and filed with the payload in its buffer. -/
structure Completed (dev dev' : HcdDev) (id : CtxId) (payload : List UInt8) : Prop where
  pending : id ∈ dev.pendingFeatureGet
  taken : id ∉ dev'.pendingFeatureGet
  filed : ∃ context context', dev.contexts id = some context ∧ dev'.contexts id = some context' ∧
    payload.head? = some context.featureReportId ∧ context'.state = .pendingGiveback ∧
    context'.urb = { (copyToUrb context.urb payload).1 with hcpriv := true } ∧
    context'.status = (copyToUrb context.urb payload).2

theorem Waits.reads (h : Waits dev reportId id) : Reads dev reportId id := by
  obtain ⟨hmem, context, hcontext, hreport, -⟩ := h
  exact ⟨hmem, context, hcontext, hreport⟩

theorem Spares.completePendingFeatureReply {touched : CtxId → Prop}
    (htouched : ∀ context, dev.contexts id = some context →
      context.featureReportId = reportId → touched id) :
    Spares touched dev (Sections.completePendingFeatureReply payload reportId dev id) := by
  unfold Sections.completePendingFeatureReply
  split
  · exact .refl dev
  · rename_i context hcontext
    split_ifs with hreport
    · exact .refl dev
    · have hid := htouched context hcontext (not_not.mp hreport)
      refine Spares.trans ?_ (.queue hid _)
      exact .modifyContext hid fun _ => rfl

/-- A reply touches the reads of its report only. -/
theorem Spares.completeFeatureReply (payload : List UInt8) :
    Spares (Reads dev (payload.headD 0)) dev (Sections.completeFeatureReply dev payload).1 := by
  unfold Sections.completeFeatureReply
  split_ifs
  · exact .refl dev
  · have hloop : Spares (Reads dev (payload.headD 0)) dev
        (completePendingFeatureRepliesLocked dev payload) := by
      refine Spares.foldl (.refl dev) fun current h j hj => ?_
      refine .completePendingFeatureReply fun context' hcontext' hreport' => ?_
      obtain ⟨context, hcontext, hreport⟩ := h.reports j context' hcontext'
      exact ⟨hj, context, hcontext, hreport.trans hreport'⟩
    exact hloop.trans (.of_eq rfl rfl rfl rfl rfl)

/-- One round of the loop completes the read that it is about. -/
theorem completed_completePendingFeatureReply (hnodup : dev.pendingFeatureGet.Nodup)
    (h : Waits dev reportId id) (hpayload : payload.head? = some reportId) :
    Completed dev (completePendingFeatureReply payload reportId dev id) id payload := by
  obtain ⟨hmem, context, hcontext, hreport, hstate⟩ := h
  have hqueued : completePendingFeatureReply payload reportId dev id =
      { dev with
        contexts := Function.update dev.contexts id (some { context with
          urb := { (copyToUrb context.urb payload).1 with hcpriv := true }
          status := (copyToUrb context.urb payload).2
          state := .pendingGiveback })
        pendingHidIn := dev.pendingHidIn.erase id
        pendingFeatureGet := dev.pendingFeatureGet.erase id
        completedUrbs := insertCompleted (dev.modifyContext id fun current =>
          { current with urb := (copyToUrb context.urb payload).1 }).readyTime id context.readyTime
          dev.completedUrbs } := by
    simp [completePendingFeatureReply, hcontext, hreport, queueUrbGivebackLocked,
      HcdDev.modifyContext, hstate]
  rw [hqueued]
  refine ⟨hmem, hnodup.not_mem_erase, context, _, hcontext, Function.update_self _ _ _, ?_, rfl,
    rfl, rfl⟩
  rw [hpayload, hreport]

theorem Waits.of_spares {touched : CtxId → Prop} (h : Waits dev reportId id)
    (spares : Spares touched dev dev') (hid : ¬touched id) : Waits dev' reportId id := by
  obtain ⟨hmem, context, hcontext, hrest⟩ := h
  exact ⟨spares.keeps id hmem hid, context, (spares.contexts id hid).trans hcontext, hrest⟩

/-- Sections before and after that spare the context change nothing of its completion. -/
theorem Completed.between {dev₁ dev₂ : HcdDev} {touched : CtxId → Prop} (hid : ¬touched id)
    (hmem : id ∈ dev.pendingFeatureGet) (before : Spares touched dev dev₁)
    (h : Completed dev₁ dev₂ id payload) (after : Spares touched dev₂ dev') :
    Completed dev dev' id payload := by
  obtain ⟨context, context', hcontext, hcontext', hrest⟩ := h.filed
  refine ⟨hmem, fun hmem' => h.taken (after.pending.mem hmem'), context, context', ?_, ?_, hrest⟩
  · rw [← before.contexts id hid, hcontext]
  · rw [after.contexts id hid, hcontext']

/-- A reply completes every read that waits for its report. -/
theorem completed_completeFeatureReply (hopen : dev.stopping = false)
    (hnodup : dev.pendingFeatureGet.Nodup) (h : Waits dev reportId id)
    (hpayload : payload.head? = some reportId) :
    Completed dev (completeFeatureReply dev payload).1 id payload := by
  have hid : payload.headD 0 = reportId := by
    rw [List.headD_eq_head?_getD, hpayload, Option.getD_some]
  obtain ⟨before, after, hsplit⟩ := List.append_of_mem h.1
  have hdistinct := hnodup
  rw [hsplit, List.nodup_append, List.nodup_cons] at hdistinct
  obtain ⟨-, ⟨hafter, -⟩, hbefore⟩ := hdistinct
  let loop := completePendingFeatureReply payload reportId
  -- the rounds for the other reads leave this one alone
  have hothers : ∀ {ids : List CtxId} {current : HcdDev}, id ∉ ids →
      Spares (· ≠ id) current (ids.foldl loop current) := by
    intro ids current hids
    refine .foldl (.refl current) fun _ _ j hj => .completePendingFeatureReply fun _ _ _ => ?_
    rintro rfl
    exact hids hj
  have hfirst : Spares (· ≠ id) dev (before.foldl loop dev) :=
    hothers fun hmem => hbefore id hmem id List.mem_cons_self rfl
  have hround := completed_completePendingFeatureReply (hnodup.sublist hfirst.pending)
    (h.of_spares hfirst (not_not.mpr rfl)) hpayload
  have hlast : Spares (· ≠ id) (loop (before.foldl loop dev) id)
      (after.foldl loop (loop (before.foldl loop dev) id)) := hothers hafter
  have hloop : Completed dev (completePendingFeatureRepliesLocked dev payload) id payload := by
    rw [completePendingFeatureRepliesLocked, hid, hsplit, List.foldl_append, List.foldl_cons]
    exact hround.between (not_not.mpr rfl) h.1 hfirst hlast
  unfold completeFeatureReply
  rw [if_neg (by simp [hopen])]
  exact ⟨hloop.pending, hloop.taken, hloop.filed⟩

end Replies

section Steps

variable {s t : System} {action : Action} {id : CtxId}

/-- The contexts that a step may touch, apart from submissions and deferred reads. -/
def touchedBy (s : System) : Action → CtxId → Prop
  | .handle id, j | .call id _, j | .schedule id, j | .file id, j | .refile id, j
  | .dequeue id _, j => j = id
  | .write _ _ _, j => j ∈ s.dev.pendingHidIn
  | .disconnect, _ | .stop, _ | .resume .disconnect, _ => True
  | .resume (.featureReply payload), j => Reads s.dev (payload.headD 0) j
  | .take, j => j ∈ s.dev.completedUrbs
  | .deliver, j | .place _, j | .giveback, j => holds s.giveback = some j
  | _, _ => False

theorem Spares.handle {touched : CtxId → Prop} (hid : touched id) {context : UrbContext}
    (hcontext : s.dev.contexts id = some context) :
    Spares touched s.dev (Threads.handle s id context).dev := by
  have hcopy : ∀ urb : Urb, Spares touched s.dev (s.dev.modifyContext id fun context =>
      { context with urb := urb }) := fun _ => .modifyContext hid fun _ => rfl
  dsimp only [Threads.handle]
  cases context.urb.pipeType with
  | control => exact (hcopy _).trans (.of_eq rfl rfl rfl rfl rfl)
  | interrupt =>
      dsimp only
      split
      · exact .interruptInUrb hid (by rw [hcontext]; rfl) s.clock
      split
      · exact hcopy _
      · exact .refl s.dev
  | isochronous =>
      dsimp only
      split_ifs
      · exact .refl s.dev
      · exact .modifyContext hid fun _ => rfl
      · exact .refl s.dev
      · exact .modifyContext hid fun _ => rfl
      · exact .refl s.dev
  | bulk => exact .refl s.dev

theorem Spares.call {touched : CtxId → Prop} (hid : touched id) (alloc : Bool) (calls : List Call)
    (ret : Int) (next : Call) :
    Spares touched s.dev (Threads.call s id alloc calls ret next).dev := by
  cases next with
  | setStatus flags enabled => exact .of_eq rfl rfl rfl rfl rfl
  | notify type payload => exact .enqueueFrame type payload alloc
  | forward type payload actualLength =>
      simp only [Threads.call]
      split_ifs
      · exact .enqueueFrame type payload alloc
      · refine Spares.trans (.enqueueFrame type payload alloc) ?_
        exact .modifyContext hid fun _ => rfl

theorem Spares.write (frame : Frame) (flags : UInt16) (alloc : Bool) :
    Spares (· ∈ s.dev.pendingHidIn) s.dev (Threads.write s frame flags alloc).dev := by
  unfold Threads.write
  split_ifs
  · exact .refl s.dev
  · split
    · exact .writeInputFrame frame.payload alloc s.clock
    · dsimp only
      split_ifs <;> exact .of_eq rfl rfl rfl rfl rfl
    · exact .writeAudioInFrame frame.payload alloc
    · exact .refl s.dev

theorem Spares.deliver {touched : CtxId → Prop} (hid : touched id) (status : Int) :
    Spares touched s.dev (Threads.deliver s id status).dev := by
  have hcopy : ∀ (dev : HcdDev) (urb : Urb), Spares touched dev (dev.modifyContext id fun context =>
      { context with urb := urb }) := fun _ _ => .modifyContext hid fun _ => rfl
  unfold Threads.deliver
  split
  · exact .refl s.dev
  · rename_i context hcontext
    dsimp only
    split
    · exact hcopy _ _
    split
    · exact Spares.trans (.isoInUrb context.urb) (hcopy _ _)
    · exact .refl s.dev

theorem Spares.place {touched : CtxId → Prop} (alloc : Bool) (payload : List UInt8)
    (payloads : List (List UInt8)) :
    Spares touched s.dev (Threads.place s id alloc payload payloads).dev := by
  have hqueue : Spares touched s.dev (Sections.enqueueFrame s.dev .usbAudioOut payload alloc).1 :=
    .enqueueFrame .usbAudioOut payload alloc
  simp only [Threads.place]
  split_ifs
  · exact hqueue.trans (.of_eq rfl rfl rfl rfl rfl)
  · exact hqueue

/-- A step that neither submits nor defers touches the contexts of `touchedBy` only. -/
theorem spares_step (h : step s action = some t)
    (hsubmit : ∀ urb alloc linkRet, action ≠ .submit urb alloc linkRet)
    (hdefer : ∀ id, action ≠ .defer id) : Spares (touchedBy s action) s.dev t.dev := by
  cases steps_of_step h with
  | submit urb alloc linkRet => exact absurd rfl (hsubmit urb alloc linkRet)
  | defer id => exact absurd rfl (hdefer id)
  | handle id context hpc live => exact .handle (by exact rfl) live
  | call id alloc => exact .call (by exact rfl) alloc _ _ _
  | request id alloc => exact .enqueueFrame _ _ alloc
  | refile id => exact .queue (by exact rfl) _
  | file id => exact .queue (by exact rfl) _
  | schedule id => exact .scheduleIsoGiveback (by exact rfl) _ s.clock
  | dequeue id status => exact .urbDequeue (by exact rfl) status
  | write frame flags alloc => exact .write frame flags alloc
  | read count => exact .read count
  | connect => exact .connectLocked
  | disconnect => exact .disconnectLocked
  | setProfile profile pollingRateMode => exact .setProfile profile pollingRateMode
  | openFile => exact .of_eq rfl rfl rfl rfl rfl
  | release => exact .of_eq rfl rfl rfl rfl rfl
  | resume syscall =>
      cases syscall with
      | featureReply payload => exact .completeFeatureReply payload
      | disconnect => exact .disconnectLocked
      | resetUsb => exact .of_eq rfl rfl rfl rfl rfl
  | hubControl request value index => exact .hubControl request value index
  | stop => exact .mono .hcdStop fun _ _ => trivial
  | take dev id status hpc taken => exact (Spares.takeCompleted taken).1
  | deliver id status hpc => exact .deliver (by rw [touchedBy, hpc, holds]) _
  | place id alloc => exact .place alloc _ _
  | giveback id status hpc => exact .givebackUrb (by rw [touchedBy, hpc, holds])
  | tick | handleFreed | sleep | wake | placed => exact .refl s.dev

/-- The thread has not yet decided whether the URB is a read that waits. -/
def enters : EnqueuePc → Bool
  | .linked | .missed _ _ => true
  | _ => false

/-- The giveback thread takes contexts from the completed list only. -/
theorem holds_of_step (h : step s action = some t) (hheld : holds t.giveback = some id) :
    holds s.giveback = some id ∨ action = .take ∧ id ∈ s.dev.completedUrbs := by
  by_cases hother : ofGiveback action = false
  · rw [giveback_of_step h hother] at hheld
    exact .inl hheld
  cases steps_of_step h with
  | take dev id status hpc taken =>
      obtain rfl := Option.some.inj hheld
      exact .inr ⟨rfl, (Spares.takeCompleted taken).2⟩
  | deliver j status hpc =>
      have hsame : holds (Threads.deliver s j status).giveback = holds s.giveback := by
        rw [hpc]
        unfold Threads.deliver
        split
        · rfl
        · dsimp only
          split_ifs <;> rfl
      exact .inl (hsame.symm.trans hheld)
  | place j alloc payload payloads hpc => exact .inl (by rw [hpc]; exact hheld)
  | placed j alloc hpc => exact .inl (by rw [hpc]; exact hheld)
  | sleep | wake | giveback => cases hheld
  | _ => exact absurd rfl hother

/-- The device after the read of `id` was deferred. -/
def deferredDev (dev : HcdDev) (id : CtxId) (context : UrbContext) (reportId : UInt8) : HcdDev :=
  { dev with
    contexts := Function.update dev.contexts id (some { context with
      featureReportId := reportId, state := .pendingFeatureGet })
    pendingFeatureGet := dev.pendingFeatureGet ++ [id] }

theorem deferFeatureGet_cases (dev : HcdDev) (id : CtxId) (reportId : UInt8) :
    (∃ context, dev.contexts id = some context ∧
      deferFeatureGet dev id reportId = (deferredDev dev id context reportId, 0)) ∨
    ∃ ret, ret ≠ 0 ∧ deferFeatureGet dev id reportId = (dev, ret) := by
  unfold deferFeatureGet
  cases dev.contexts id with
  | none => exact .inr ⟨einval, by decide, rfl⟩
  | some context =>
      dsimp only
      split_ifs
      · exact .inr ⟨einval, by decide, rfl⟩
      · exact .inr ⟨eshutdown, by decide, rfl⟩
      · exact .inl ⟨context, rfl, rfl⟩

/-- A thread that missed the cache lists its context, or gives up. -/
theorem defer_cases (h : step s (.defer id) = some t) :
    ∃ reportId requestedLength, s.enqueuers id = .missed reportId requestedLength ∧
      ((∃ context, s.dev.contexts id = some context ∧ t = { s with
          dev := deferredDev s.dev id context reportId }.setPc id
            (.deferred reportId requestedLength)) ∨
        ∃ ret, t = s.setPc id (.handling [] ret)) := by
  cases steps_of_step h with
  | defer id reportId requestedLength hpc =>
      refine ⟨reportId, requestedLength, hpc, ?_⟩
      obtain ⟨context, hcontext, hdefer⟩ | ⟨ret, hret, hdefer⟩ :=
        deferFeatureGet_cases s.dev id reportId
      · refine .inl ⟨context, hcontext, ?_⟩
        rw [hdefer, if_neg (by simp)]
      · refine .inr ⟨ret, ?_⟩
        rw [hdefer, if_pos hret]

/-- A submission adds a context and its thread, or does nothing. -/
theorem submit_cases {urb : Urb} {alloc : Bool} {linkRet : Int}
    (h : step s (.submit urb alloc linkRet) = some t) : t = s ∨
      ∃ context, context.state = .active ∧ context.urb.setupPacket = urb.setupPacket ∧ t = { s with
        dev := { s.dev with
          contexts := Function.update s.dev.contexts s.dev.submitted (some context)
          submitted := s.dev.submitted + 1 }
        enqueuers := Function.update s.enqueuers s.dev.submitted .linked } := by
  obtain rfl := Option.some.inj h
  unfold Threads.submit
  split_ifs
  · exact .inl rfl
  · exact .inr ⟨_, rfl, rfl, rfl⟩

/-- Of the steps of a thread, only its handler can leave it undecided. -/
theorem handle_of_enters (h : step s action = some t)
    (hown : continues action = some (.enqueuer id)) (henters : enters (t.enqueuers id) = true) :
    action = .handle id ∧ enters (s.enqueuers id) = true := by
  cases steps_of_step h with
  | handle j context hpc =>
      cases hown
      exact ⟨rfl, by rw [hpc, enters]⟩
  | handleFreed j hpc =>
      cases hown
      exact ⟨rfl, by rw [hpc, enters]⟩
  | defer j =>
      cases hown
      rw [setPc_enqueuers, if_pos rfl] at henters
      split_ifs at henters <;> cases henters
  | call j alloc next calls ret =>
      cases hown
      obtain ⟨_, _, _, hframe⟩ := call_frame s id alloc calls ret next
      rw [hframe] at henters
      simp [enters] at henters
  | request j alloc =>
      cases hown
      rw [setPc_enqueuers, if_pos rfl] at henters
      split_ifs at henters <;> cases henters
  | refile j | schedule j | file j =>
      cases hown
      simp [enters] at henters
  | _ => cases hown

/-- A thread that has returned takes no step. -/
theorem ne_returned_of_own (h : step s action = some t)
    (hown : continues action = some (.enqueuer id)) : s.enqueuers id ≠ .returned := by
  intro hpc
  cases action with
  | handle j | call j alloc | defer j | request j alloc | refile j | schedule j | file j =>
      cases hown
      simp [Threads.step, hpc] at h
  | _ => cases hown

/-- A handler does not list the read. -/
theorem handle_ne_deferred {context : UrbContext} {reportId : UInt8} {requestedLength : UInt16} :
    (Threads.handle s id context).enqueuers id ≠ .deferred reportId requestedLength := by
  intro hpc
  unfold Threads.handle at hpc
  cases hpipe : context.urb.pipeType with
  | control =>
      simp only [hpipe, setPc_enqueuers, if_true] at hpc
      generalize (s.dev.usb.controlUrb context.urb).2.2 = handled at hpc
      cases handled <;> cases hpc
  | interrupt | isochronous =>
      simp only [hpipe] at hpc
      split_ifs at hpc <;> simp at hpc
  | bulk => simp [hpipe] at hpc

/-- Of the steps of a thread, only `defer` lists the read. -/
theorem defer_of_deferred {reportId : UInt8} {requestedLength : UInt16} (h : step s action = some t)
    (hown : continues action = some (.enqueuer id))
    (hpc : t.enqueuers id = .deferred reportId requestedLength) : action = .defer id := by
  cases steps_of_step h with
  | handle j =>
      cases hown
      exact absurd hpc handle_ne_deferred
  | handleFreed j =>
      cases hown
      simp at hpc
  | defer j =>
      cases hown
      rfl
  | call j alloc next calls ret =>
      cases hown
      obtain ⟨_, _, _, hframe⟩ := call_frame s id alloc calls ret next
      rw [hframe] at hpc
      simp at hpc
  | request j alloc =>
      cases hown
      rw [setPc_enqueuers, if_pos rfl] at hpc
      split_ifs at hpc
  | refile j | schedule j | file j =>
      cases hown
      simp at hpc
  | _ => cases hown

/-- Only a submission starts a thread. -/
theorem enters_of_step (h : step s action = some t)
    (hsubmit : ∀ urb alloc linkRet, action ≠ .submit urb alloc linkRet)
    (henters : enters (t.enqueuers id) = true) : enters (s.enqueuers id) = true := by
  obtain hsame | ⟨hown, -⟩ | ⟨-, -, -, urb, alloc, linkRet, hsubmits⟩ := enqueuers_of_step h id
  · rwa [← hsame]
  · exact (handle_of_enters h hown henters).2
  · exact absurd hsubmits (hsubmit urb alloc linkRet)

/-- Other threads leave the position of a thread alone. -/
theorem enqueuers_of_other (h : step s action = some t) (hid : id < s.dev.submitted)
    (hother : continues action ≠ some (.enqueuer id)) : t.enqueuers id = s.enqueuers id := by
  obtain hsame | ⟨hown, -⟩ | ⟨-, -, hnew, -⟩ := enqueuers_of_step h id
  · exact hsame
  · exact absurd hown hother
  · exact absurd hnew (Nat.ne_of_lt hid)

end Steps

section Known

variable {s t : System} {action : Action} {id : CtxId}

/-- The driver knows the context. -/
def Located (s : System) (id : CtxId) : Prop :=
  (s.dev.contexts id).isSome ∨ id ∈ s.dev.pendingFeatureGet ∨ id ∈ s.dev.pendingHidIn ∨
    id ∈ s.dev.completedUrbs ∨ holds s.giveback = some id ∨ s.enqueuers id ≠ .returned

/-- The reads on the list are distinct, their threads are done with them, and no context
is known before its submission. -/
structure Known (s : System) : Prop where
  nodup : s.dev.pendingFeatureGet.Nodup
  decided : ∀ id ∈ s.dev.pendingFeatureGet, enters (s.enqueuers id) = false
  submitted : ∀ id, Located s id → id < s.dev.submitted

theorem ne_returned_of_enters (h : enters (s.enqueuers id) = true) :
    s.enqueuers id ≠ .returned := by
  intro hpc
  rw [hpc] at h
  cases h

theorem located_of_step (h : step s action = some t)
    (hsubmit : ∀ urb alloc linkRet, action ≠ .submit urb alloc linkRet)
    (hdefer : ∀ id, action ≠ .defer id) (hlocated : Located t id) : Located s id := by
  have spares := spares_step h hsubmit hdefer
  obtain hcontext | hpending | hhidIn | hcompleted | hheld | hpc := hlocated
  · exact .inl (spares.isSome hcontext)
  · exact .inr (.inl (spares.pending.mem hpending))
  · obtain hmem | ⟨-, hcontext⟩ := spares.hidIn id hhidIn
    · exact .inr (.inr (.inl hmem))
    · exact .inl hcontext
  · obtain hmem | ⟨-, hcontext⟩ := spares.completed id hcompleted
    · exact .inr (.inr (.inr (.inl hmem)))
    · exact .inl hcontext
  · obtain hheld | ⟨-, hmem⟩ := holds_of_step h hheld
    · exact .inr (.inr (.inr (.inr (.inl hheld))))
    · exact .inr (.inr (.inr (.inl hmem)))
  · refine .inr (.inr (.inr (.inr (.inr ?_))))
    obtain hsame | ⟨-, hbefore⟩ | ⟨hlinked, -⟩ := enqueuers_of_step h id
    · rwa [← hsame]
    · exact hbefore
    · exact ne_returned_of_enters (enters_of_step h hsubmit (by rw [hlinked, enters]))

theorem Known.submit {urb : Urb} {alloc : Bool} {linkRet : Int} (known : Known s)
    (h : step s (.submit urb alloc linkRet) = some t) : Known t := by
  obtain rfl | ⟨context, -, -, rfl⟩ := submit_cases h
  · exact known
  · have hnew : ∀ id, Located s id → id ≠ s.dev.submitted :=
      fun id hlocated => Nat.ne_of_lt (known.submitted id hlocated)
    refine ⟨known.nodup, fun id hmem => ?_, fun id hlocated => ?_⟩
    · dsimp only
      rw [Function.update_of_ne (hnew id (.inr (.inl hmem)))]
      exact known.decided id hmem
    · by_cases hid : id = s.dev.submitted
      · subst hid
        exact Nat.lt_succ_self _
      · refine Nat.lt_succ_of_lt (known.submitted id ?_)
        simpa [Located, Function.update_of_ne hid] using hlocated

theorem Known.defer (known : Known s) (h : step s (.defer id) = some t) : Known t := by
  obtain ⟨reportId, requestedLength, hpc, ⟨context, hcontext, rfl⟩ | ⟨ret, rfl⟩⟩ := defer_cases h
  · have hnew : id ∉ s.dev.pendingFeatureGet := by
      intro hmem
      have := known.decided id hmem
      rw [hpc] at this
      cases this
    refine ⟨?_, fun j hmem => ?_, fun j hlocated => ?_⟩
    · exact List.nodup_append.mpr ⟨known.nodup, List.nodup_singleton id, by
        rintro j hj k hk rfl
        exact hnew (List.mem_singleton.mp hk ▸ hj)⟩
    · rw [setPc_enqueuers]
      split_ifs with hj
      · rfl
      · change j ∈ s.dev.pendingFeatureGet ++ [id] at hmem
        rw [List.mem_append, List.mem_singleton] at hmem
        exact known.decided j (hmem.resolve_right hj)
    · by_cases hj : j = id
      · subst hj
        exact known.submitted j (.inl (by rw [hcontext]; rfl))
      · refine known.submitted j ?_
        simpa [Located, deferredDev, System.setPc, Function.update_of_ne hj, hj] using hlocated
  · refine ⟨known.nodup, fun j hmem => ?_, fun j hlocated => ?_⟩
    · rw [setPc_enqueuers]
      split_ifs
      · rfl
      · exact known.decided j hmem
    · by_cases hj : j = id
      · subst hj
        exact known.submitted j (.inr (.inr (.inr (.inr (.inr (by simp [hpc]))))))
      · refine known.submitted j ?_
        simpa [Located, System.setPc, Function.update_of_ne hj] using hlocated

theorem Known.step (known : Known s) (h : step s action = some t) : Known t := by
  by_cases hsubmit : ∃ urb alloc linkRet, action = .submit urb alloc linkRet
  · obtain ⟨urb, alloc, linkRet, rfl⟩ := hsubmit
    exact known.submit h
  by_cases hdefer : ∃ id, action = .defer id
  · obtain ⟨id, rfl⟩ := hdefer
    exact known.defer h
  simp only [not_exists] at hsubmit hdefer
  have spares := spares_step h hsubmit hdefer
  refine ⟨known.nodup.sublist spares.pending, fun id hmem => ?_, fun id hlocated => ?_⟩
  · by_contra henters
    have hbefore := enters_of_step h hsubmit (Bool.of_not_eq_false henters)
    rw [known.decided id (spares.pending.mem hmem)] at hbefore
    cases hbefore
  · rw [spares.submitted]
    exact known.submitted id (located_of_step h hsubmit hdefer hlocated)

theorem Known.init : Known System.init where
  nodup := List.nodup_nil
  decided := fun _ hmem => absurd hmem List.not_mem_nil
  submitted := by
    intro id hlocated
    simp [Located, System.init, HcdDev.init, holds] at hlocated

/-- No list but that of the reads has the context, and the giveback thread does not. -/
def Unfiled (s : System) (id : CtxId) : Prop :=
  id ∉ s.dev.pendingHidIn ∧ id ∉ s.dev.completedUrbs ∧ holds s.giveback ≠ some id

/-- A step that left a context where it was. -/
structure Spared (s t : System) (id : CtxId) : Prop where
  context : t.dev.contexts id = s.dev.contexts id
  pending : id ∈ t.dev.pendingFeatureGet ↔ id ∈ s.dev.pendingFeatureGet
  unfiled : Unfiled s id → Unfiled t id

theorem Spared.waits (spared : Spared s t id) {reportId : UInt8} (h : Waits s.dev reportId id) :
    Waits t.dev reportId id := by
  obtain ⟨hmem, context, hcontext, hrest⟩ := h
  exact ⟨spared.pending.mpr hmem, context, spared.context.trans hcontext, hrest⟩

theorem spared_of_step (hlocated : id < s.dev.submitted)
    (h : step s action = some t) (hdefer : action ≠ .defer id) (htouched : ¬touchedBy s action id) :
    Spared s t id := by
  by_cases hsubmit : ∃ urb alloc linkRet, action = .submit urb alloc linkRet
  · obtain ⟨urb, alloc, linkRet, rfl⟩ := hsubmit
    obtain rfl | ⟨context, -, -, rfl⟩ := submit_cases h
    · exact ⟨rfl, Iff.rfl, fun h => h⟩
    · exact ⟨Function.update_of_ne (Nat.ne_of_lt hlocated) _ _, Iff.rfl, fun h => h⟩
  by_cases hdefers : ∃ j, action = .defer j
  · obtain ⟨j, rfl⟩ := hdefers
    have hne : id ≠ j := by
      rintro rfl
      exact hdefer rfl
    obtain ⟨reportId, requestedLength, -, ⟨context, -, rfl⟩ | ⟨ret, rfl⟩⟩ := defer_cases h
    · refine ⟨Function.update_of_ne hne _ _, ?_, fun h => h⟩
      change id ∈ s.dev.pendingFeatureGet ++ [j] ↔ _
      rw [List.mem_append, List.mem_singleton]
      exact or_iff_left hne
    · exact ⟨rfl, Iff.rfl, fun h => h⟩
  simp only [not_exists] at hsubmit hdefers
  have spares := spares_step h hsubmit hdefers
  refine ⟨spares.contexts id htouched, ⟨fun hmem => spares.pending.mem hmem,
    fun hmem => spares.keeps id hmem htouched⟩, ?_⟩
  rintro ⟨hhidIn, hcompleted, hheld⟩
  refine ⟨fun hmem => ?_, fun hmem => ?_, fun hholds => ?_⟩
  · obtain hmem | ⟨htouches, -⟩ := spares.hidIn id hmem
    · exact hhidIn hmem
    · exact htouched htouches
  · obtain hmem | ⟨htouches, -⟩ := spares.completed id hmem
    · exact hcompleted hmem
    · exact htouched htouches
  · obtain hholds | ⟨-, hmem⟩ := holds_of_step h hholds
    · exact hheld hholds
    · exact hcompleted hmem

theorem submitted_le_of_step (h : step s action = some t) :
    s.dev.submitted ≤ t.dev.submitted := by
  by_cases hsubmit : ∃ urb alloc linkRet, action = .submit urb alloc linkRet
  · obtain ⟨urb, alloc, linkRet, rfl⟩ := hsubmit
    obtain rfl | ⟨context, -, -, rfl⟩ := submit_cases h
    · exact Nat.le_refl _
    · exact Nat.le_succ _
  by_cases hdefer : ∃ id, action = .defer id
  · obtain ⟨id, rfl⟩ := hdefer
    obtain ⟨reportId, requestedLength, -, ⟨context, -, rfl⟩ | ⟨ret, rfl⟩⟩ := defer_cases h
    · exact Nat.le_refl _
    · exact Nat.le_refl _
  simp only [not_exists] at hsubmit hdefer
  exact (spares_step h hsubmit hdefer).submitted.ge

/-- Only a deferred read joins the list. -/
theorem mem_pending_of_step (h : step s action = some t) (hmem : id ∈ t.dev.pendingFeatureGet) :
    id ∈ s.dev.pendingFeatureGet ∨ enters (s.enqueuers id) = true := by
  by_cases hsubmit : ∃ urb alloc linkRet, action = .submit urb alloc linkRet
  · obtain ⟨urb, alloc, linkRet, rfl⟩ := hsubmit
    obtain rfl | ⟨context, -, -, rfl⟩ := submit_cases h
    · exact .inl hmem
    · exact .inl hmem
  by_cases hdefer : ∃ j, action = .defer j
  · obtain ⟨j, rfl⟩ := hdefer
    obtain ⟨reportId, requestedLength, hpc, ⟨context, -, rfl⟩ | ⟨ret, rfl⟩⟩ := defer_cases h
    · obtain hold | hnew := List.mem_append.mp hmem
      · exact .inl hold
      · obtain rfl := List.mem_singleton.mp hnew
        exact .inr (by rw [hpc, enters])
    · exact .inl hmem
  simp only [not_exists] at hsubmit hdefer
  exact .inl ((spares_step h hsubmit hdefer).pending.mem hmem)

/-- A handler that misses the cache files nothing. -/
theorem unfiled_of_handle (h : step s (.handle id) = some t)
    (henters : enters (t.enqueuers id) = true) (hunfiled : Unfiled s id) : Unfiled t id := by
  cases steps_of_step h with
  | handle id context =>
      dsimp only [Threads.handle] at henters ⊢
      cases hpipe : context.urb.pipeType with
      | control => exact hunfiled
      | interrupt =>
          rw [hpipe] at henters
          dsimp only at henters
          split_ifs at henters <;> simp [enters] at henters
      | isochronous =>
          rw [hpipe] at henters
          dsimp only at henters
          split_ifs at henters <;> simp [enters] at henters
      | bulk => simp [hpipe, enters] at henters
  | handleFreed => exact hunfiled

/-- A reply in progress was accepted. -/
theorem replies_of_step (h : step s action = some t) {payload : List UInt8}
    (hreply : .featureReply payload ∈ t.syscalls) : .featureReply payload ∈ s.syscalls ∨
      ∃ frame flags alloc, action = .write frame flags alloc ∧ frame.type = .usbFeatureReply ∧
        frame.payload = payload ∧ (s.dev.usb.updateFeatureReply payload).2 = 0 := by
  cases steps_of_step h with
  | write frame flags alloc =>
      unfold Threads.write at hreply
      split_ifs at hreply
      · exact .inl hreply
      · split at hreply
        · exact .inl hreply
        · rename_i htype
          dsimp only at hreply
          split_ifs at hreply with hret
          · exact .inl hreply
          · rw [List.mem_append, List.mem_singleton] at hreply
            obtain hold | hnew := hreply
            · exact .inl hold
            · cases hnew
              exact .inr ⟨frame, flags, alloc, rfl, htype, rfl, not_not.mp hret⟩
        · exact .inl hreply
        · exact .inl hreply
  | disconnect =>
      unfold Threads.disconnect at hreply
      dsimp only at hreply
      split_ifs at hreply
      · exact .inl hreply
      · simpa using hreply
  | release =>
      unfold Threads.release at hreply
      dsimp only at hreply
      split_ifs at hreply
      · simpa using hreply
      · exact .inl hreply
  | resume syscall =>
      cases syscall with
      | featureReply other => exact .inl (List.mem_of_mem_erase hreply)
      | disconnect =>
          unfold Threads.resume Threads.disconnect at hreply
          dsimp only at hreply
          split_ifs at hreply
          · exact .inl (List.mem_of_mem_erase hreply)
          · rw [List.mem_append, List.mem_singleton] at hreply
            exact .inl (List.mem_of_mem_erase (hreply.resolve_right nofun))
      | resetUsb => exact .inl (List.mem_of_mem_erase hreply)
  | submit urb alloc linkRet =>
      unfold Threads.submit at hreply
      split_ifs at hreply <;> exact .inl hreply
  | handle j context =>
      obtain ⟨_, _, hframe⟩ := handle_frame s j context
      rw [hframe] at hreply
      exact .inl hreply
  | call j alloc next calls ret =>
      obtain ⟨_, _, _, hframe⟩ := call_frame s j alloc calls ret next
      rw [hframe] at hreply
      exact .inl hreply
  | deliver j status =>
      obtain ⟨_, _, hframe⟩ := deliver_frame s j status
      rw [hframe] at hreply
      exact .inl hreply
  | handleFreed | defer | request | refile | schedule | file | tick | dequeue | openFile | read
  | connect | setProfile | hubControl | stop | sleep | wake | take | place | placed | giveback =>
      exact .inl hreply

end Known

end VirtualDualSense.Hcd.FeatureReads
