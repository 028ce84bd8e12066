import VirtualDualSense.Hcd.Lifecycle

/-!
# Audio across a disconnect

A disconnect empties the event queue and cancels the URBs that wait for the daemon.
The audio URBs wait for their time on the completed list, which it leaves alone;
their data is queued when they are given back.
-/

namespace VirtualDualSense.Hcd.Disconnect

open Lib.Runs Protocol.Frames UsbCore Sections Threads ThreadSteps Lifecycle

/-- A context that is given back without a delivery. -/
def cancelled (context : UrbContext) : Bool :=
  (context.state == .pendingGiveback || context.state == .givingBack) && context.status != 0

/-- The URB has data for the event queue: its handler has marked it, or will. -/
def carries (pc : EnqueuePc) (context : UrbContext) : Prop :=
  context.deliverIsoOut = true ∨
    pc = .linked ∧ context.urb.pipeType = .isochronous ∧ context.urb.dirIn = false

/-- The giveback thread is about to place data of the context. -/
def placing (pc : GivebackPc) (id : CtxId) : Prop :=
  pc = .taken id 0 ∨ ∃ payload payloads, pc = .delivering id (payload :: payloads)

/-- Data of the context may still be placed on the event queue. -/
def MayPlace (s : System) (id : CtxId) (context : UrbContext) : Prop :=
  carries (s.enqueuers id) context ∧
    (placing s.giveback id ∨ holds s.giveback ≠ some id ∧ cancelled context = false)

/-- The condition: a disconnect finds no audio URB that was neither delivered nor
cancelled, or it finds that the driver stops. -/
def DisconnectGuard (s : System) : Action → Prop
  | .disconnect | .resume .disconnect => s.dev.stopping = true ∨
      ∀ id context, s.dev.contexts id = some context → ¬MayPlace s id context
  | _ => True

/-- No frame holds data of a URB that was submitted before a disconnect which came
before the frame. -/
def NothingStale (s : System) : Prop := ∀ epochs ∈ s.dev.audioPlaced, epochs.1 = epochs.2

section Contexts

/-- What a section does to a context it does not own. -/
structure Refines (context context' : UrbContext) : Prop where
  epoch : context'.epoch = context.epoch
  flag : context'.deliverIsoOut = context.deliverIsoOut
  pipe : context'.urb.pipeType = context.urb.pipeType
  dirIn : context'.urb.dirIn = context.urb.dirIn
  cancelled : cancelled context = true → cancelled context' = true

theorem Refines.refl (context : UrbContext) : Refines context context :=
  ⟨rfl, rfl, rfl, rfl, fun h => h⟩

theorem Refines.trans {c c' c'' : UrbContext} (first : Refines c c') (second : Refines c' c'') :
    Refines c c'' where
  epoch := second.epoch.trans first.epoch
  flag := second.flag.trans first.flag
  pipe := second.pipe.trans first.pipe
  dirIn := second.dirIn.trans first.dirIn
  cancelled := fun h => second.cancelled (first.cancelled h)

section Rel

variable {r q : UrbContext → UrbContext → Prop} {a b : Option UrbContext} {c : UrbContext}

theorem exists_left (h : Option.Rel r a (some c)) : ∃ context, a = some context ∧ r context c := by
  cases h with
  | some h => exact ⟨_, rfl, h⟩

theorem exists_right (h : Option.Rel r (some c) b) : ∃ context, b = some context ∧ r c context := by
  cases h with
  | some h => exact ⟨_, rfl, h⟩

theorem rel_mono (h : Option.Rel r a b) (hmono : ∀ c c', a = some c → r c c' → q c c') :
    Option.Rel q a b := by
  cases h with
  | none => exact .none
  | some h => exact .some (hmono _ _ rfl h)

end Rel

variable {dev dev' dev'' : HcdDev} {id : CtxId}

/-- A section that keeps every context and cancels some at most. -/
structure Tame (dev dev' : HcdDev) : Prop where
  contexts : ∀ id, Option.Rel Refines (dev.contexts id) (dev'.contexts id)
  submitted : dev'.submitted = dev.submitted
  disconnects : dev'.disconnects = dev.disconnects
  audioPlaced : dev'.audioPlaced = dev.audioPlaced
  stopping : dev'.stopping = dev.stopping

theorem rel_refl (context : Option UrbContext) : Option.Rel Refines context context := by
  cases context with
  | none => exact .none
  | some context => exact .some (.refl context)

theorem rel_trans {c c' c'' : Option UrbContext} (first : Option.Rel Refines c c')
    (second : Option.Rel Refines c' c'') : Option.Rel Refines c c'' := by
  cases first with
  | none => exact second
  | some hfirst =>
      cases second with
      | some hsecond => exact .some (hfirst.trans hsecond)

theorem rel_update {contexts : CtxId → Option UrbContext} {context : Option UrbContext}
    (h : Option.Rel Refines (contexts id) context) (j : CtxId) :
    Option.Rel Refines (contexts j) (Function.update contexts id context j) := by
  by_cases hj : j = id
  · subst hj
    rwa [Function.update_self]
  · rw [Function.update_of_ne hj]
    exact rel_refl _

theorem copyToUrb_pipeType (urb : Urb) (data : List UInt8) :
    (copyToUrb urb data).1.pipeType = urb.pipeType := by
  simp only [copyToUrb]
  split_ifs <;> rfl

theorem copyToUrb_dirIn (urb : Urb) (data : List UInt8) :
    (copyToUrb urb data).1.dirIn = urb.dirIn := by
  simp only [copyToUrb]
  split_ifs <;> rfl

namespace Tame

/-- A section that leaves the contexts alone. -/
theorem of_same (hcontexts : dev'.contexts = dev.contexts)
    (hsubmitted : dev'.submitted = dev.submitted)
    (hdisconnects : dev'.disconnects = dev.disconnects)
    (hplaced : dev'.audioPlaced = dev.audioPlaced) (hstopping : dev'.stopping = dev.stopping) :
    Tame dev dev' :=
  ⟨fun _ => by rw [hcontexts]; exact rel_refl _, hsubmitted, hdisconnects, hplaced, hstopping⟩

theorem refl (dev : HcdDev) : Tame dev dev := of_same rfl rfl rfl rfl rfl

theorem trans (first : Tame dev dev') (second : Tame dev' dev'') : Tame dev dev'' where
  contexts := fun id => rel_trans (first.contexts id) (second.contexts id)
  submitted := second.submitted.trans first.submitted
  disconnects := second.disconnects.trans first.disconnects
  audioPlaced := second.audioPlaced.trans first.audioPlaced
  stopping := second.stopping.trans first.stopping

theorem modifyContext {f : UrbContext → UrbContext} (hf : ∀ c, Refines c (f c)) :
    Tame dev (dev.modifyContext id f) := by
  refine ⟨fun j => rel_update ?_ j, rfl, rfl, rfl, rfl⟩
  cases dev.contexts id with
  | none => exact .none
  | some context => exact .some (hf context)

/-- Filing never brings a cancelled URB back. -/
theorem queue (id : CtxId) (status : Int) : Tame dev (queueUrbGivebackLocked dev id status) := by
  unfold queueUrbGivebackLocked
  cases hcontext : dev.contexts id with
  | none => exact refl dev
  | some context =>
      dsimp only
      split_ifs with hfiled
      · exact refl dev
      · refine ⟨fun j => rel_update ?_ j, rfl, rfl, rfl, rfl⟩
        rw [hcontext]
        refine .some ⟨rfl, rfl, rfl, rfl, fun h => absurd ?_ hfiled⟩
        simp only [Disconnect.cancelled, Bool.and_eq_true, Bool.or_eq_true, beq_iff_eq] at h
        exact h.1

theorem foldl {f : HcdDev → CtxId → HcdDev} (hf : ∀ dev id, Tame dev (f dev id))
    (ids : List CtxId) : Tame dev (ids.foldl f dev) := by
  induction ids generalizing dev with
  | nil => exact refl dev
  | cons id rest ih => exact (hf dev id).trans ih

theorem cancelPendingUrbsLocked (tame : Tame dev dev') (status : Int) :
    Tame dev (Sections.cancelPendingUrbsLocked dev' status) :=
  tame.trans (foldl (fun _ id => queue id status) _)

theorem urbDequeue {status : Int} (hstatus : status < 0) :
    Tame dev (Sections.urbDequeue dev id status).1 := by
  unfold Sections.urbDequeue
  split
  · exact refl dev
  · dsimp only
    have hmark : Tame dev (dev.modifyContext id fun context =>
        { context with urb := { context.urb with unlinked := true } }) :=
      modifyContext fun _ => ⟨rfl, rfl, rfl, rfl, fun h => h⟩
    split_ifs
    · exact refl dev
    · exact hmark
    · refine hmark.trans (modifyContext fun context => ⟨rfl, rfl, rfl, rfl, fun h => ?_⟩)
      simp only [Disconnect.cancelled, Bool.and_eq_true, bne_iff_ne] at h ⊢
      exact ⟨h.1, by omega⟩
    · exact hmark.trans (queue id status)

theorem enqueueFrame (type : FrameType) (payload : List UInt8) (alloc : Bool) :
    Tame dev (Sections.enqueueFrame dev type payload alloc).1 := by
  unfold Sections.enqueueFrame
  split_ifs <;> exact of_same rfl rfl rfl rfl rfl

theorem read (count : Nat) : Tame dev (Sections.read dev count).1 := by
  unfold Sections.read
  split
  · exact refl dev
  · split_ifs <;> exact of_same rfl rfl rfl rfl rfl

theorem scheduleHidInGivebackLocked (now : Nat) :
    Tame dev (Sections.scheduleHidInGivebackLocked dev id now) := by
  have hready : Tame dev (dev.modifyContext id fun context => { context with
      readyTime := base dev.nextHidInReady now +
        dev.usb.controllerProfile.hidInIntervalUs * nsecPerUsec }) :=
    modifyContext fun _ => ⟨rfl, rfl, rfl, rfl, fun h => h⟩
  exact hready.trans (of_same rfl rfl rfl rfl rfl)

theorem fillHidIn (payload : List UInt8) (now : Nat) :
    Tame dev (Sections.fillHidIn dev id payload now) := by
  have hfill : Tame dev (dev.modifyContext id fun context =>
      { context with urb := fillHidInUrb context.urb payload }) :=
    modifyContext fun _ => ⟨rfl, rfl, rfl, rfl, fun h => h⟩
  exact (hfill.trans (scheduleHidInGivebackLocked now)).trans (of_same rfl rfl rfl rfl rfl)

theorem writeInputFrame (payload : List UInt8) (alloc : Bool) (now : Nat) :
    Tame dev (Sections.writeInputFrame dev payload alloc now).1 := by
  unfold Sections.writeInputFrame
  split_ifs
  · exact refl dev
  · exact refl dev
  · unfold completePendingInputLocked queueInputPacketLocked
    cases dev.pendingHidIn with
    | nil =>
        dsimp only
        split_ifs <;> exact of_same rfl rfl rfl rfl rfl
    | cons pending rest =>
        exact ((fillHidIn payload now).trans (queue pending 0)).trans (of_same rfl rfl rfl rfl rfl)

theorem completeFeatureReply (payload : List UInt8) :
    Tame dev (Sections.completeFeatureReply dev payload).1 := by
  unfold Sections.completeFeatureReply
  split_ifs
  · exact refl dev
  · have hloop : Tame dev (completePendingFeatureRepliesLocked dev payload) := by
      refine foldl (fun dev id => ?_) _
      unfold completePendingFeatureReply
      cases hcontext : dev.contexts id with
      | none => exact refl dev
      | some context =>
          dsimp only
          split_ifs
          · exact refl dev
          · refine trans ?_ (queue id _)
            refine ⟨fun j => rel_update ?_ j, rfl, rfl, rfl, rfl⟩
            rw [hcontext]
            exact .some ⟨rfl, rfl, copyToUrb_pipeType _ _, copyToUrb_dirIn _ _, fun h => h⟩
    exact hloop.trans (of_same rfl rfl rfl rfl rfl)

theorem writeAudioInFrame (payload : List UInt8) (alloc : Bool) :
    Tame dev (Sections.writeAudioInFrame dev payload alloc).1 := by
  unfold Sections.writeAudioInFrame
  split_ifs <;> exact of_same rfl rfl rfl rfl rfl

theorem isoInUrb (urb : Urb) : Tame dev (Sections.isoInUrb dev urb).1 := by
  obtain ⟨_, _, _, hframe⟩ := isoInUrb_frame dev urb
  rw [hframe]
  exact of_same rfl rfl rfl rfl rfl

/-- The URB of a context is replaced by one on the same pipe. -/
theorem setUrb {context : UrbContext} {urb : Urb} (hcontext : dev.contexts id = some context)
    (hpipe : urb.pipeType = context.urb.pipeType) (hdir : urb.dirIn = context.urb.dirIn) :
    Tame dev (dev.modifyContext id fun context => { context with urb := urb }) := by
  refine ⟨fun j => rel_update ?_ j, rfl, rfl, rfl, rfl⟩
  rw [hcontext]
  exact .some ⟨rfl, rfl, hpipe, hdir, fun h => h⟩

theorem scheduleIsoGiveback (input : Bool) (now : Nat) :
    Tame dev (Sections.scheduleIsoGiveback dev id input now) := by
  unfold Sections.scheduleIsoGiveback
  cases hcontext : dev.contexts id with
  | none => exact refl dev
  | some context =>
      cases input <;>
        exact ⟨fun j => rel_update (hcontext ▸ .some ⟨rfl, rfl, rfl, rfl, fun h => h⟩) j,
          rfl, rfl, rfl, rfl⟩

theorem connectLocked : Tame dev (Sections.connectLocked dev) := by
  unfold Sections.connectLocked
  split_ifs <;> exact of_same rfl rfl rfl rfl rfl

theorem setProfile (profile : Option Usb.Descriptors.Profile) (pollingRateMode : Nat) :
    Tame dev (Sections.setProfile dev profile pollingRateMode).1 := by
  unfold Sections.setProfile
  split_ifs
  · exact refl dev
  · exact refl dev
  · split <;> exact of_same rfl rfl rfl rfl rfl

theorem hubControl (request : HubRequest) (value index : Nat) :
    Tame dev (Sections.hubControl dev request value index).1 := by
  unfold Sections.hubControl
  repeat' (first | exact of_same rfl rfl rfl rfl rfl | split)

theorem takeCompleted {now : Nat} {status : Int}
    (h : Sections.takeCompleted dev now = some (dev', id, status)) : Tame dev dev' := by
  unfold Sections.takeCompleted at h
  split at h
  · cases h
  · obtain ⟨-, heq⟩ := Option.ite_none_left_eq_some.mp h
    cases heq
    refine ⟨fun j => rel_update ?_ j, rfl, rfl, rfl, rfl⟩
    cases dev.contexts id with
    | none => exact .none
    | some context =>
        refine .some ⟨rfl, rfl, rfl, rfl, fun h => ?_⟩
        simp only [Disconnect.cancelled, Bool.and_eq_true] at h ⊢
        exact ⟨rfl, h.2⟩

end Tame

theorem isoOutUrb_pipeType (urb : Urb) : (isoOutUrb urb).1.pipeType = urb.pipeType := by
  unfold isoOutUrb
  split <;> rfl

theorem isoOutUrb_dirIn (urb : Urb) : (isoOutUrb urb).1.dirIn = urb.dirIn := by
  unfold isoOutUrb
  split <;> rfl

theorem isoInUrb_pipeType (urb : Urb) : (isoInUrb dev urb).2.1.pipeType = urb.pipeType := by
  unfold isoInUrb
  split <;> rfl

theorem isoInUrb_dirIn (urb : Urb) : (isoInUrb dev urb).2.1.dirIn = urb.dirIn := by
  unfold isoInUrb
  split <;> rfl

theorem contexts_isoInUrb (urb : Urb) : (isoInUrb dev urb).1.contexts = dev.contexts := by
  obtain ⟨_, _, _, hframe⟩ := isoInUrb_frame dev urb
  rw [hframe]

theorem status_takeCompleted {now : Nat} {status : Int} {context : UrbContext}
    (h : takeCompleted dev now = some (dev', id, status))
    (hcontext : dev.contexts id = some context) : status = context.status := by
  unfold takeCompleted at h
  split at h
  · cases h
  · obtain ⟨-, heq⟩ := Option.ite_none_left_eq_some.mp h
    cases heq
    simp [hcontext]

/-- A driver that stops queues nothing. -/
theorem running_of_enqueueFrame {type : FrameType} {payload : List UInt8} {alloc : Bool}
    (h : (enqueueFrame dev type payload alloc).2 = 0) : dev.stopping = false := by
  unfold enqueueFrame at h
  split_ifs at h with _ _ hstopping
  · simp [enomem] at h
  · simp [eshutdown] at h
  · simpa using hstopping
  · simpa using hstopping
  · simp [emsgsize] at h

end Contexts

/-- The thread is behind its endpoint's handler. -/
def past : EnqueuePc → Bool
  | .scheduling _ | .handling _ _ | .returned => true
  | .linked | .missed _ _ | .deferred _ _ | .refiling _ => false

/-- What data may still be placed was submitted after the last disconnect. -/
structure Isolated (s : System) : Prop where
  placed : NothingStale s
  current : s.dev.stopping = false → ∀ id context, s.dev.contexts id = some context →
    MayPlace s id context → context.epoch = s.dev.disconnects
  flagged : ∀ id context, s.dev.contexts id = some context → context.deliverIsoOut = true →
    past (s.enqueuers id) = true
  delivering : ∀ id payloads, s.giveback = .delivering id payloads →
    ∃ context, s.dev.contexts id = some context ∧ context.deliverIsoOut = true
  fresh : ∀ id, s.dev.submitted ≤ id → s.dev.contexts id = none

/-- What a step does to a context that it does not free. -/
structure Follows (s t : System) (id : CtxId) (context context' : UrbContext) : Prop where
  epoch : context'.epoch = context.epoch
  flag : context.deliverIsoOut = true → context'.deliverIsoOut = true
  behind : context'.deliverIsoOut = true → past (t.enqueuers id) = true
  carried : carries (t.enqueuers id) context' → carries (s.enqueuers id) context
  remains : carries (t.enqueuers id) context' → cancelled context = true →
    cancelled context' = true

namespace Isolated

variable {s t : System} {id : CtxId}

theorem of_follows (iso : Isolated s)
    (hcontexts : ∀ j, Option.Rel (Follows s t j) (s.dev.contexts j) (t.dev.contexts j))
    (hsubmitted : t.dev.submitted = s.dev.submitted)
    (hdisconnects : t.dev.disconnects = s.dev.disconnects)
    (hstopping : t.dev.stopping = s.dev.stopping) (hplaced : NothingStale t)
    (hplacing : ∀ j context, s.dev.contexts j = some context → placing t.giveback j →
      placing s.giveback j ∨ holds s.giveback ≠ some j ∧ cancelled context = false)
    (hholds : ∀ j, holds s.giveback = some j → holds t.giveback = some j)
    (hdelivering : ∀ j payloads, t.giveback = .delivering j payloads →
      ∃ context, s.dev.contexts j = some context ∧ context.deliverIsoOut = true) :
    Isolated t where
  placed := hplaced
  current := by
    intro hrunning j context' hcontext' ⟨hcarries, hmay⟩
    obtain ⟨context, hcontext, follows⟩ := exists_left (hcontext' ▸ hcontexts j)
    rw [follows.epoch, hdisconnects]
    refine iso.current (hstopping ▸ hrunning) j context hcontext ⟨follows.carried hcarries, ?_⟩
    rcases hmay with hmay | ⟨hheld, hcancelled⟩
    · exact hplacing j context hcontext hmay
    · refine .inr ⟨fun h => hheld (hholds j h), Bool.eq_false_iff.mpr fun h => ?_⟩
      simp [follows.remains hcarries h] at hcancelled
  flagged := by
    intro j context' hcontext' hflag
    obtain ⟨context, -, follows⟩ := exists_left (hcontext' ▸ hcontexts j)
    exact follows.behind hflag
  delivering := by
    intro j payloads hpc
    obtain ⟨context, hcontext, hflag⟩ := hdelivering j payloads hpc
    obtain ⟨context', hcontext', follows⟩ := exists_right (hcontext ▸ hcontexts j)
    exact ⟨context', hcontext', follows.flag hflag⟩
  fresh := by
    intro j hj
    by_contra hlive
    obtain ⟨context', hcontext'⟩ := Option.ne_none_iff_exists'.mp hlive
    obtain ⟨context, hcontext, -⟩ := exists_left (hcontext' ▸ hcontexts j)
    simp [iso.fresh j (hsubmitted ▸ hj)] at hcontext

/-- The threads that go on do not go back to their handlers. -/
def Onward (s t : System) : Prop :=
  ∀ j, (t.enqueuers j = .linked → s.enqueuers j = .linked) ∧
    (past (s.enqueuers j) = true → past (t.enqueuers j) = true)

theorem follows_of_refines (iso : Isolated s) {context context' : UrbContext}
    (hcontext : s.dev.contexts id = some context) (refines : Refines context context')
    (hlinked : t.enqueuers id = .linked → s.enqueuers id = .linked)
    (hpast : past (s.enqueuers id) = true → past (t.enqueuers id) = true) :
    Follows s t id context context' := by
  refine ⟨refines.epoch, fun h => refines.flag.trans h, fun h => ?_, fun h => ?_, ?_⟩
  · exact hpast (iso.flagged id context hcontext (refines.flag.symm.trans h))
  · rcases h with hflag | ⟨hpc, hpipe, hdir⟩
    · exact .inl (refines.flag.symm.trans hflag)
    · exact .inr ⟨hlinked hpc, refines.pipe.symm.trans hpipe, refines.dirIn.symm.trans hdir⟩
  · exact fun _ => refines.cancelled

theorem rel_follows (iso : Isolated s)
    (hrefines : ∀ j, Option.Rel Refines (s.dev.contexts j) (t.dev.contexts j))
    (onward : Onward s t) (j : CtxId) :
    Option.Rel (Follows s t j) (s.dev.contexts j) (t.dev.contexts j) := by
  obtain ⟨hlinked, hpast⟩ := onward j
  exact rel_mono (hrefines j) fun context context' hcontext refines =>
    iso.follows_of_refines hcontext refines hlinked hpast

/-- A step of a thread other than the giveback thread. -/
theorem of_tame (iso : Isolated s) (tame : Tame s.dev t.dev) (onward : Onward s t)
    (hgiveback : t.giveback = s.giveback) : Isolated t := by
  refine iso.of_follows (iso.rel_follows tame.contexts onward) tame.submitted tame.disconnects
    tame.stopping ?_ ?_ ?_ ?_
  · rw [NothingStale, tame.audioPlaced]
    exact iso.placed
  · intro j context _ hplacing
    exact .inl (hgiveback ▸ hplacing)
  · intro j hj
    rwa [hgiveback]
  · rw [hgiveback]
    exact iso.delivering

theorem onward_setPc {pc : EnqueuePc} (hlinked : pc ≠ .linked)
    (hpast : past (s.enqueuers id) = true → past pc = true) {dev : HcdDev} :
    Onward s ({ s with dev := dev }.setPc id pc) := by
  intro j
  rw [setPc_enqueuers]
  split_ifs with hj
  · exact ⟨fun h => absurd h hlinked, fun h => hpast (hj ▸ h)⟩
  · exact ⟨fun h => h, fun h => h⟩

/-- A step of a thread whose context carries nothing: its handler, or a read that it defers. -/
theorem of_actor (iso : Isolated s) {dev : HcdDev} {pc : EnqueuePc} {own : Option UrbContext}
    (hcontexts : dev.contexts = Function.update s.dev.contexts id own)
    (hown : Option.Rel (fun c c' => c'.epoch = c.epoch ∧ c'.deliverIsoOut = c.deliverIsoOut)
      (s.dev.contexts id) own)
    (hsubmitted : dev.submitted = s.dev.submitted)
    (hdisconnects : dev.disconnects = s.dev.disconnects)
    (hstopping : dev.stopping = s.dev.stopping) (hplaced : dev.audioPlaced = s.dev.audioPlaced)
    (hbefore : past (s.enqueuers id) = false) (hlinked : pc ≠ .linked) :
    Isolated ({ s with dev := dev }.setPc id pc) := by
  refine iso.of_follows (fun j => ?_) hsubmitted hdisconnects hstopping ?_ ?_ (fun _ h => h)
    iso.delivering
  · change Option.Rel _ _ (dev.contexts j)
    rw [hcontexts]
    by_cases hj : j = id
    · subst hj
      rw [Function.update_self]
      refine rel_mono hown fun context context' hcontext' ⟨hepoch, hflag⟩ => ?_
      have hunflagged : context.deliverIsoOut = false := by
        by_contra h
        have hpast := iso.flagged j context hcontext' (Bool.of_not_eq_false h)
        simp [hbefore] at hpast
      have hnothing : ¬carries (({ s with dev := dev }.setPc j pc).enqueuers j) context' := by
        rintro (h | ⟨h, -⟩)
        · simp [hflag, hunflagged] at h
        · simp [hlinked] at h
      refine ⟨hepoch, fun h => hflag.trans h, fun h => ?_, fun h => absurd h hnothing,
        fun h => absurd h hnothing⟩
      simp [hflag, hunflagged] at h
    · rw [Function.update_of_ne hj]
      exact rel_mono (rel_refl _) fun context context' hcontext' refines =>
        iso.follows_of_refines hcontext' refines (by simp [hj]) (by simp [hj])
  · change ∀ epochs ∈ dev.audioPlaced, epochs.1 = epochs.2
    rw [hplaced]
    exact iso.placed
  · exact fun j context _ h => .inl h

theorem modify (iso : Isolated s) {f : UrbContext → UrbContext} {pc : EnqueuePc} {usb : UsbDevice}
    (hf : ∀ c, (f c).epoch = c.epoch ∧ (f c).deliverIsoOut = c.deliverIsoOut)
    (hbefore : past (s.enqueuers id) = false) (hlinked : pc ≠ .linked) :
    Isolated ({ s with dev := { s.dev.modifyContext id f with usb := usb } }.setPc id pc) := by
  refine iso.of_actor rfl ?_ rfl rfl rfl rfl hbefore hlinked
  cases s.dev.contexts id with
  | none => exact .none
  | some context => exact .some (hf context)

/-- The handler of the audio endpoint marks the context. -/
theorem marks (iso : Isolated s) {context : UrbContext}
    (hcontext : s.dev.contexts id = some context)
    (hpc : s.enqueuers id = .linked) (hpipe : context.urb.pipeType = .isochronous)
    (hdir : context.urb.dirIn = false) :
    Isolated ({ s with dev := s.dev.modifyContext id fun context =>
      { context with deliverIsoOut := true } }.setPc id (.scheduling false)) := by
  refine iso.of_follows (fun j => ?_) rfl rfl rfl iso.placed (fun _ _ _ h => .inl h) (fun _ h => h)
    iso.delivering
  change Option.Rel _ _ (Function.update s.dev.contexts id _ j)
  by_cases hj : j = id
  · subst hj
    rw [Function.update_self, hcontext]
    refine .some ⟨rfl, fun _ => rfl, fun _ => ?_, fun _ => .inr ⟨hpc, hpipe, hdir⟩, fun _ h => h⟩
    simp [past]
  · rw [Function.update_of_ne hj]
    exact rel_mono (rel_refl _) fun context context' hcontext' refines =>
      iso.follows_of_refines hcontext' refines (by simp [hj]) (by simp [hj])

theorem interruptInUrb (iso : Isolated s) (hpc : s.enqueuers id = .linked) :
    Isolated ({ s with dev := (Sections.interruptInUrb s.dev id s.clock).1 }.setPc id
      (if (Sections.interruptInUrb s.dev id s.clock).2 then .handling [] 0 else .returned)) := by
  have hbefore : past (s.enqueuers id) = false := by simp [hpc, past]
  unfold Sections.interruptInUrb
  split
  · rename_i packet rest _
    have hpop : Tame s.dev { s.dev with
        inputPackets := rest, inputPacketCount := s.dev.inputPacketCount - 1 } :=
      .of_same rfl rfl rfl rfl rfl
    exact iso.of_tame (hpop.trans (.fillHidIn packet s.clock))
      (onward_setPc (by simp) (by simp [hbefore])) rfl
  · refine iso.of_actor rfl ?_ rfl rfl rfl rfl hbefore (by simp)
    cases s.dev.contexts id with
    | none => exact .none
    | some context => exact .some ⟨rfl, rfl⟩

theorem handle (iso : Isolated s) {context : UrbContext}
    (hcontext : s.dev.contexts id = some context)
    (hpc : s.enqueuers id = .linked) : Isolated (Threads.handle s id context) := by
  have hbefore : past (s.enqueuers id) = false := by simp [hpc, past]
  have hfails : Isolated (s.setPc id (.handling [] epipe)) :=
    iso.of_tame (.refl s.dev) (onward_setPc (by simp) (by simp [past])) rfl
  dsimp only [Threads.handle]
  cases hpipe : context.urb.pipeType with
  | control =>
      refine iso.modify (fun _ => ⟨rfl, rfl⟩) hbefore ?_
      cases (s.dev.usb.controlUrb context.urb).2.2 <;> simp [Handled.pc]
  | interrupt =>
      dsimp only
      split
      · exact iso.interruptInUrb hpc
      split
      · exact iso.modify (fun _ => ⟨rfl, rfl⟩) hbefore (by simp)
      · exact hfails
  | isochronous =>
      dsimp only
      split_ifs with hout _ hin
      · exact hfails
      · simp only [Bool.and_eq_true, Bool.not_eq_true'] at hout
        exact iso.marks hcontext hpc hpipe hout.1
      · exact hfails
      · exact iso.modify (fun _ => ⟨rfl, rfl⟩) hbefore (by simp)
      · exact hfails
  | bulk => exact hfails

theorem call (iso : Isolated s) {calls : List Call} {ret : Int} (next : Call) (alloc : Bool) :
    Isolated (Threads.call s id alloc calls ret next) := by
  cases next with
  | setStatus flags enabled =>
      exact iso.of_tame (.of_same rfl rfl rfl rfl rfl) (onward_setPc (by simp) (by simp [past])) rfl
  | notify type payload =>
      exact iso.of_tame (.enqueueFrame _ _ _) (onward_setPc (by simp) (by simp [past])) rfl
  | forward type payload actualLength =>
      simp only [Threads.call]
      split_ifs
      · exact iso.of_tame (.enqueueFrame _ _ _) (onward_setPc (by simp) (by simp [past])) rfl
      · refine iso.of_tame (.trans (.enqueueFrame type payload alloc) (.modifyContext fun _ => ?_))
          (onward_setPc (by simp) (by simp [past])) rfl
        exact ⟨rfl, rfl, rfl, rfl, fun h => h⟩

theorem defer (iso : Isolated s) {reportId : UInt8} {requestedLength : UInt16}
    (hpc : s.enqueuers id = .missed reportId requestedLength) {pc : EnqueuePc}
    (hlinked : pc ≠ .linked) :
    Isolated ({ s with dev := (deferFeatureGet s.dev id reportId).1 }.setPc id pc) := by
  have hbefore : past (s.enqueuers id) = false := by simp [hpc, past]
  have hsame : Isolated ({ s with dev := s.dev }.setPc id pc) :=
    iso.of_tame (.refl s.dev) (onward_setPc hlinked (by simp [hbefore])) rfl
  unfold deferFeatureGet
  cases hcontext : s.dev.contexts id with
  | none => exact hsame
  | some context =>
      dsimp only
      split_ifs
      · exact hsame
      · exact hsame
      · refine iso.of_actor rfl ?_ rfl rfl rfl rfl hbefore hlinked
        rw [hcontext]
        exact .some ⟨rfl, rfl⟩

/-- A new context belongs to the time since the last disconnect. -/
theorem enters (iso : Isolated s) {context : UrbContext}
    (hcontexts : t.dev.contexts = Function.update s.dev.contexts s.dev.submitted (some context))
    (hepoch : context.epoch = s.dev.disconnects) (hflag : context.deliverIsoOut = false)
    (hpcs : t.enqueuers = Function.update s.enqueuers s.dev.submitted .linked)
    (hsubmitted : t.dev.submitted = s.dev.submitted + 1)
    (hdisconnects : t.dev.disconnects = s.dev.disconnects)
    (hstopping : t.dev.stopping = s.dev.stopping)
    (hplaced : t.dev.audioPlaced = s.dev.audioPlaced) (hgiveback : t.giveback = s.giveback) :
    Isolated t where
  placed := by
    rw [NothingStale, hplaced]
    exact iso.placed
  current := by
    intro hrunning j context' hcontext' ⟨hcarries, hmay⟩
    rw [hcontexts] at hcontext'
    rw [hpcs] at hcarries
    rw [hdisconnects]
    by_cases hj : j = s.dev.submitted
    · rw [hj, Function.update_self] at hcontext'
      obtain rfl := Option.some.inj hcontext'
      exact hepoch
    · rw [Function.update_of_ne hj] at hcontext' hcarries
      rw [hgiveback] at hmay
      exact iso.current (hstopping ▸ hrunning) j context' hcontext' ⟨hcarries, hmay⟩
  flagged := by
    intro j context' hcontext' hflag'
    rw [hcontexts] at hcontext'
    by_cases hj : j = s.dev.submitted
    · rw [hj, Function.update_self] at hcontext'
      obtain rfl := Option.some.inj hcontext'
      simp [hflag] at hflag'
    · rw [Function.update_of_ne hj] at hcontext'
      rw [hpcs, Function.update_of_ne hj]
      exact iso.flagged j context' hcontext' hflag'
  delivering := by
    intro j payloads hpc
    obtain ⟨context', hcontext', hflag'⟩ := iso.delivering j payloads (hgiveback ▸ hpc)
    have hj : j ≠ s.dev.submitted := by
      rintro rfl
      simp [iso.fresh _ (Nat.le_refl _)] at hcontext'
    rw [hcontexts, Function.update_of_ne hj]
    exact ⟨context', hcontext', hflag'⟩
  fresh := by
    intro j hj
    have hlt : s.dev.submitted < j := by omega
    rw [hcontexts, Function.update_of_ne (Nat.ne_of_gt hlt)]
    exact iso.fresh j (Nat.le_of_lt hlt)

theorem submit (iso : Isolated s) (urb : Urb) (alloc : Bool) (linkRet : Int) :
    Isolated (Threads.submit s urb alloc linkRet) := by
  unfold Threads.submit
  split_ifs
  · exact iso
  · exact iso.enters rfl rfl rfl rfl rfl rfl rfl rfl rfl

theorem take (iso : Isolated s) {dev : HcdDev} {status : Int} (hidle : s.giveback = .idle)
    (htake : takeCompleted s.dev s.clock = some (dev, id, status)) :
    Isolated { s with dev := dev, giveback := .taken id status } := by
  have tame := Tame.takeCompleted htake
  refine iso.of_follows (iso.rel_follows tame.contexts fun _ => ⟨fun h => h, fun h => h⟩)
    tame.submitted tame.disconnects tame.stopping ?_ ?_ ?_ ?_
  · change ∀ epochs ∈ dev.audioPlaced, epochs.1 = epochs.2
    rw [tame.audioPlaced]
    exact iso.placed
  · rintro j context hcontext (hplacing | ⟨payload, payloads, hplacing⟩)
    · obtain ⟨rfl, hzero⟩ := GivebackPc.taken.inj hplacing
      refine .inr ⟨by simp [hidle, holds], ?_⟩
      -- the status that was taken is the one in the context
      have hstatus := status_takeCompleted htake hcontext
      simp [cancelled, ← hstatus, hzero]
    · cases hplacing
  · intro j hj
    simp [hidle, holds] at hj
  · intro j payloads hpc
    cases hpc

theorem deliver (iso : Isolated s) {status : Int} (hpc : s.giveback = .taken id status) :
    Isolated (Threads.deliver s id status) := by
  have hkeep : ∀ {dev : HcdDev} {pc : GivebackPc}, Tame s.dev dev → holds pc = some id →
      (∀ j, placing pc j → placing s.giveback j) →
      (∀ j payloads, pc = .delivering j payloads →
        ∃ context, s.dev.contexts j = some context ∧ context.deliverIsoOut = true) →
      Isolated { s with dev := dev, giveback := pc } := by
    intro dev pc tame hholds hplacing hdelivering
    refine iso.of_follows (iso.rel_follows tame.contexts fun _ => ⟨fun h => h, fun h => h⟩)
      tame.submitted tame.disconnects tame.stopping ?_ (fun j _ _ h => .inl (hplacing j h)) ?_
      hdelivering
    · change ∀ epochs ∈ dev.audioPlaced, epochs.1 = epochs.2
      rw [tame.audioPlaced]
      exact iso.placed
    · intro j hj
      rw [hpc, holds] at hj
      exact hholds.trans hj
  have hfinish : ∀ {dev : HcdDev} {ret : Int}, Tame s.dev dev →
      Isolated { s with dev := dev, giveback := .finishing id ret } := by
    intro dev ret tame
    refine hkeep tame rfl ?_ ?_
    · rintro j (h | ⟨_, _, h⟩) <;> cases h
    · intro j payloads h
      cases h
  unfold Threads.deliver
  cases hcontext : s.dev.contexts id with
  | none => exact hfinish (.refl s.dev)
  | some context =>
      dsimp only
      split
      · rename_i hdeliver
        have tame := Tame.setUrb hcontext (isoOutUrb_pipeType context.urb)
          (isoOutUrb_dirIn context.urb)
        split_ifs
        · refine hkeep tame rfl ?_ ?_
          · rintro j (h | ⟨payload, payloads, h⟩)
            · cases h
            · obtain ⟨rfl, -⟩ := GivebackPc.delivering.inj h
              exact .inl (hpc.trans (by rw [hdeliver.1]))
          · intro j payloads h
            obtain ⟨rfl, -⟩ := GivebackPc.delivering.inj h
            exact ⟨context, hcontext, hdeliver.2⟩
        · exact hfinish tame
      split
      · refine hfinish ((Tame.isoInUrb context.urb).trans (Tame.setUrb ?_
          (isoInUrb_pipeType context.urb) (isoInUrb_dirIn context.urb)))
        rw [contexts_isoInUrb, hcontext]
      · exact hfinish (.refl s.dev)

theorem place (iso : Isolated s) {payload : List UInt8} {payloads : List (List UInt8)}
    (alloc : Bool) (hpc : s.giveback = .delivering id (payload :: payloads)) :
    Isolated (Threads.place s id alloc payload payloads) := by
  have tame : Tame s.dev (enqueueFrame s.dev .usbAudioOut payload alloc).1 :=
    .enqueueFrame .usbAudioOut payload alloc
  have hcontexts : (enqueueFrame s.dev .usbAudioOut payload alloc).1.contexts = s.dev.contexts := by
    unfold enqueueFrame
    split_ifs <;> rfl
  obtain ⟨context, hcontext, hflag⟩ := iso.delivering id _ hpc
  have hkeep : ∀ {dev : HcdDev}, Tame s.dev { dev with audioPlaced := s.dev.audioPlaced } →
      (∀ epochs ∈ dev.audioPlaced, epochs.1 = epochs.2) →
      Isolated { s with dev := dev, giveback := .delivering id payloads } := by
    intro dev tame hplaced
    refine iso.of_follows (iso.rel_follows tame.contexts fun _ => ⟨fun h => h, fun h => h⟩)
      tame.submitted tame.disconnects tame.stopping hplaced ?_ ?_ ?_
    · rintro j context' - (h | ⟨_, _, h⟩)
      · cases h
      · obtain ⟨rfl, -⟩ := GivebackPc.delivering.inj h
        exact .inl (.inr ⟨payload, payloads, hpc⟩)
    · intro j hj
      rw [hpc] at hj
      exact hj
    · intro j _ h
      obtain ⟨rfl, -⟩ := GivebackPc.delivering.inj h
      exact ⟨context, hcontext, hflag⟩
  simp only [Threads.place]
  split_ifs with hret
  · refine hkeep (tame.trans (.of_same rfl rfl rfl tame.audioPlaced.symm rfl)) ?_
    intro epochs hepochs
    rcases List.mem_append.mp hepochs with hepochs | hepochs
    · rw [tame.audioPlaced] at hepochs
      exact iso.placed epochs hepochs
    · -- the placed frame is of a context that the last disconnect did not find
      rw [List.mem_singleton.mp hepochs, hcontexts, hcontext, tame.disconnects]
      exact iso.current (running_of_enqueueFrame hret) id context hcontext
        ⟨.inl hflag, .inl (.inr ⟨payload, payloads, hpc⟩)⟩
  · refine hkeep (tame.trans (.of_same rfl rfl rfl tame.audioPlaced.symm rfl)) ?_
    rw [tame.audioPlaced]
    exact iso.placed

theorem finish (iso : Isolated s) (hpc : s.giveback = .delivering id []) :
    Isolated { s with giveback := .finishing id 0 } := by
  refine iso.of_follows (iso.rel_follows (fun _ => rel_refl _) fun _ => ⟨fun h => h, fun h => h⟩)
    rfl rfl rfl iso.placed ?_ ?_ ?_
  · rintro j context - (h | ⟨_, _, h⟩) <;> cases h
  · intro j hj
    rw [hpc] at hj
    exact hj
  · intro j payloads h
    cases h

theorem givebackUrb (iso : Isolated s) {status : Int} (hpc : s.giveback = .finishing id status) :
    Isolated { s with dev := Sections.givebackUrb s.dev id, giveback := .idle } := by
  have hlive : ∀ {j context}, (Sections.givebackUrb s.dev id).contexts j = some context →
      j ≠ id ∧ s.dev.contexts j = some context := by
    intro j context hcontext
    change Function.update s.dev.contexts id none j = some context at hcontext
    by_cases hj : j = id
    · rw [hj, Function.update_self] at hcontext
      cases hcontext
    · rw [Function.update_of_ne hj] at hcontext
      exact ⟨hj, hcontext⟩
  constructor
  · exact iso.placed
  · rintro hrunning j context hcontext ⟨hcarries, hmay⟩
    obtain ⟨hj, hcontext⟩ := hlive hcontext
    refine iso.current hrunning j context hcontext ⟨hcarries, .inr ⟨?_, ?_⟩⟩
    · simp [hpc, holds, Ne.symm hj]
    · rcases hmay with (h | ⟨_, _, h⟩) | ⟨-, hcancelled⟩
      · cases h
      · cases h
      · exact hcancelled
  · intro j context hcontext hflag
    exact iso.flagged j context (hlive hcontext).2 hflag
  · intro j payloads h
    cases h
  · intro j hj
    change Function.update s.dev.contexts id none j = none
    by_cases h : j = id
    · rw [h, Function.update_self]
    · rw [Function.update_of_ne h]
      exact iso.fresh j hj

theorem sleeps (iso : Isolated s) {pc : GivebackPc} (hholds : holds s.giveback = none)
    (hpc : pc = .idle ∨ ∃ expires, pc = .sleeping expires) :
    Isolated { s with giveback := pc } := by
  refine iso.of_follows (iso.rel_follows (fun _ => rel_refl _) fun _ => ⟨fun h => h, fun h => h⟩)
    rfl rfl rfl iso.placed ?_ ?_ ?_
  · rcases hpc with rfl | ⟨expires, rfl⟩
    · rintro j context - (h | ⟨_, _, h⟩) <;> cases h
    · rintro j context - (h | ⟨_, _, h⟩) <;> cases h
  · intro j hj
    rw [hholds] at hj
    cases hj
  · rcases hpc with rfl | ⟨expires, rfl⟩
    · intro j payloads h
      cases h
    · intro j payloads h
      cases h

/-- A disconnect that finds no audio to deliver. -/
theorem disconnectLocked (iso : Isolated s)
    (ok : s.dev.stopping = true ∨
      ∀ id context, s.dev.contexts id = some context → ¬MayPlace s id context)
    (syscalls : List Syscall) :
    Isolated { s with dev := Sections.disconnectLocked s.dev, syscalls := syscalls } := by
  have hcounted : Isolated
      { s with dev := { s.dev with disconnects := s.dev.disconnects + 1 } } := by
    refine ⟨iso.placed, ?_, iso.flagged, iso.delivering, iso.fresh⟩
    intro hrunning j context hcontext hmay
    rcases ok with hstopping | hnone
    · exact absurd (hstopping.symm.trans hrunning) (by simp)
    · exact absurd hmay (hnone j context hcontext)
  refine hcounted.of_tame ?_ (fun _ => ⟨fun h => h, fun h => h⟩) rfl
  simp only [Sections.disconnectLocked]
  split_ifs
  · exact .refl _
  · refine (Tame.cancelPendingUrbsLocked ?_ eshutdown).trans (.of_same rfl rfl rfl rfl rfl)
    exact .of_same rfl rfl rfl rfl rfl

theorem hcdStop (iso : Isolated s) : Isolated { s with dev := Sections.hcdStop s.dev } := by
  have hstopped : Isolated { s with dev := { s.dev with stopping := true } } :=
    ⟨iso.placed, fun h => absurd h (by simp), iso.flagged, iso.delivering, iso.fresh⟩
  refine hstopped.of_tame ?_ (fun _ => ⟨fun h => h, fun h => h⟩) rfl
  exact (Tame.cancelPendingUrbsLocked (.refl _) eshutdown).trans (.of_same rfl rfl rfl rfl rfl)

/-- A section that no enqueuing thread and no giveback thread runs. -/
theorem outside (iso : Isolated s) {dev : HcdDev} (tame : Tame s.dev dev)
    (syscalls : List Syscall) : Isolated { s with dev := dev, syscalls := syscalls } :=
  iso.of_tame tame (fun _ => ⟨fun h => h, fun h => h⟩) rfl

theorem write (iso : Isolated s) (frame : Frame) (flags : UInt16) (alloc : Bool) :
    Isolated (Threads.write s frame flags alloc) := by
  unfold Threads.write
  split_ifs
  · exact iso
  · split
    · exact iso.outside (.writeInputFrame frame.payload alloc s.clock) s.syscalls
    · dsimp only
      split_ifs
      · exact iso
      · refine iso.outside ?_ _
        exact .of_same rfl rfl rfl rfl rfl
    · exact iso.outside (.writeAudioInFrame frame.payload alloc) s.syscalls
    · exact iso

theorem step {action : Action} (iso : Isolated s) (ok : DisconnectGuard s action)
    (h : step s action = some t) : Isolated t := by
  cases steps_of_step h with
  | tick time later => exact iso.of_tame (.refl s.dev) (fun _ => ⟨fun h => h, fun h => h⟩) rfl
  | submit urb alloc linkRet => exact iso.submit urb alloc linkRet
  | handle id context hpc live => exact iso.handle live hpc
  | handleFreed id hpc freed =>
      exact iso.of_tame (.refl s.dev) (onward_setPc (by simp) (by simp [past])) rfl
  | call id alloc => exact iso.call _ alloc
  | defer id reportId requestedLength hpc =>
      refine iso.defer hpc ?_
      split_ifs <;> simp
  | request id alloc reportId requestedLength hpc =>
      refine iso.of_tame (.enqueueFrame _ _ _) (onward_setPc ?_ (by simp [hpc, past])) rfl
      split_ifs <;> simp
  | refile id => exact iso.of_tame (.queue id _) (onward_setPc (by simp) (by simp [past])) rfl
  | file id => exact iso.of_tame (.queue id _) (onward_setPc (by simp) (by simp [past])) rfl
  | schedule id =>
      exact iso.of_tame (.scheduleIsoGiveback _ _) (onward_setPc (by simp) (by simp [past])) rfl
  | dequeue id status negative => exact iso.outside (.urbDequeue negative) s.syscalls
  | write frame flags alloc => exact iso.write frame flags alloc
  | read count => exact iso.outside (.read count) s.syscalls
  | connect => exact iso.outside .connectLocked s.syscalls
  | disconnect => exact iso.disconnectLocked ok _
  | setProfile profile pollingRateMode =>
      exact iso.outside (.setProfile profile pollingRateMode) s.syscalls
  | openFile =>
      refine iso.outside ?_ s.syscalls
      exact .of_same rfl rfl rfl rfl rfl
  | release =>
      refine iso.outside ?_ _
      exact .of_same rfl rfl rfl rfl rfl
  | resume syscall =>
      cases syscall with
      | featureReply payload => exact iso.outside (.completeFeatureReply payload) _
      | disconnect => exact iso.disconnectLocked ok _
      | resetUsb =>
          refine iso.outside ?_ _
          exact .of_same rfl rfl rfl rfl rfl
  | hubControl request value index => exact iso.outside (.hubControl request value index) s.syscalls
  | stop => exact iso.hcdStop
  | sleep id rest hpc => exact iso.sleeps (by simp [holds, hpc]) (.inr ⟨_, rfl⟩)
  | wake expires hpc => exact iso.sleeps (by simp [holds, hpc]) (.inl rfl)
  | take dev id status hpc taken => exact iso.take hpc taken
  | deliver id status hpc => exact iso.deliver hpc
  | place id alloc payload payloads hpc => exact iso.place alloc hpc
  | placed id alloc hpc => exact iso.finish hpc
  | giveback id status hpc => exact iso.givebackUrb hpc

theorem init : Isolated System.init where
  placed := by simp [NothingStale, System.init, HcdDev.init]
  current := by simp [System.init, HcdDev.init]
  flagged := by simp [System.init, HcdDev.init]
  delivering := by simp [System.init]
  fresh := fun _ _ => rfl

end Isolated

/-- In every run whose disconnects find no audio to deliver, none of the frames
holds data from before a disconnect. -/
theorem nothingStale_of_guardedRun {actions : List Action} {t : System}
    (run : GuardedRun step DisconnectGuard .init actions t) : NothingStale t := by
  have iso : Isolated t := run.invariant (fun _ _ _ iso ok h => iso.step ok h) Isolated.init
  exact iso.placed

section Examples

theorem guardedRun_cancelledFirst : ∃ t, GuardedRun step DisconnectGuard .init
    [.submit audioUrb true 0, .handle 0, .schedule 0, .file 0, .dequeue 0 (-104),
      .disconnect] t := by
  refine ⟨_, .cons trivial rfl (.cons trivial rfl (.cons trivial rfl (.cons trivial rfl
    (.cons trivial rfl (.cons (.inr ?_) rfl (.nil _))))))⟩
  rintro id context hcontext ⟨-, hmay⟩
  cases id with
  | zero =>
      cases hcontext
      rcases hmay with (h | ⟨_, _, h⟩) | ⟨-, hcancelled⟩
      · cases h
      · cases h
      · cases hcancelled
  | succ id => cases hcontext

/-- The USB core cancels the audio before the daemon disconnects the controller. -/
theorem nothingStale_cancelledFirst : ∃ t, GuardedRun step DisconnectGuard .init
      [.submit audioUrb true 0, .handle 0, .schedule 0, .file 0, .dequeue 0 (-104), .disconnect] t ∧
    NothingStale t := by
  obtain ⟨t, run⟩ := guardedRun_cancelledFirst
  exact ⟨t, run, nothingStale_of_guardedRun run⟩

/-- Audio that waits for its time is queued after the disconnect has returned. -/
theorem stale_after_disconnect : ∃ s t, Run step .init
      [.submit audioUrb true 0, .handle 0, .schedule 0, .file 0, .disconnect, .resume .resetUsb] s ∧
    s.syscalls = [] ∧ s.dev.audioPlaced = [] ∧
      Run step s [.tick 1000000, .take, .deliver, .place true] t ∧ ¬NothingStale t := by
  refine ⟨_, _, run_of_execute rfl, rfl, rfl, run_of_execute rfl, fun h => ?_⟩
  have hepochs := h (0, 1) (List.mem_singleton.mpr rfl)
  cases hepochs

end Examples

end VirtualDualSense.Hcd.Disconnect
