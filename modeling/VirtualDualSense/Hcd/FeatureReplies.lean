import Mathlib.Data.UInt
import VirtualDualSense.Hcd.FeatureReads
import VirtualDualSense.Hcd.PortConsistency

/-!
# Replies to feature reads

The driver lists a read before it queues the request for the daemon, so a reply that the
daemon writes after it has seen the request finds the read on the list, or finds that an
earlier reply for the same report was there first.

## Implementation notes

The state of the driver is recorded together with the requests it has queued, the reads
whose request the daemon has read, the reads that replies have completed, and the URBs
that were cancelled since their submission. A disconnect and the removal of the controller
cancel all of them.
-/

namespace VirtualDualSense.Hcd.FeatureReplies

open Lib.Runs Protocol.Frames UsbCore Sections Filing Threads Lifecycle AtomicRuns FeatureReads

/-- A queued request: its sequence number, the URB and the report. -/
structure Request where
  sequence : Nat
  id : CtxId
  reportId : UInt8
  deriving DecidableEq

/-- The driver with what has happened to the reads. -/
structure Tracked where
  system : System
  requests : List Request
  seen : List Request
  answers : List (CtxId × List UInt8)
  cancelled : CtxId → Bool

def Tracked.init : Tracked := ⟨.init, [], [], [], fun _ => false⟩

section History

/-- The request that a step queues. -/
def requestedBy (s : System) : Action → List Request
  | .request id alloc =>
      match s.enqueuers id with
      | .deferred reportId requestedLength =>
          if (enqueueFrame s.dev .usbFeatureGet
              (featureGetFrame reportId requestedLength) alloc).2 = 0
          then [⟨s.dev.nextSequence, id, reportId⟩] else []
      | _ => []
  | _ => []

/-- The requests that a step hands to the daemon. -/
def seenBy (s : Tracked) : Action → List Request
  | .read count =>
      match (Sections.read s.system.dev count).2 with
      | .ok event => s.requests.filter fun request => request.sequence == event.sequence
      | .error _ => []
  | _ => []

/-- The context waits for the report. -/
def waitsFor (dev : HcdDev) (reportId : UInt8) (id : CtxId) : Bool :=
  (dev.contexts id).any fun context =>
    context.featureReportId == reportId && context.state == .pendingFeatureGet

/-- The reads that a step completes, each with the reply it gets. -/
def answeredBy (s : System) : Action → List (CtxId × List UInt8)
  | .resume (.featureReply payload) =>
      if s.dev.stopping then []
      else (s.dev.pendingFeatureGet.filter (waitsFor s.dev (payload.headD 0))).map (·, payload)
  | _ => []

/-- The step cancels the URB. -/
def cancels : Action → CtxId → Bool
  | .dequeue id _, j => j == id
  | .disconnect, _ | .resume .disconnect, _ | .stop, _ => true
  | _, _ => false

/-- A URB is not cancelled before its submission. -/
def cancelledAfter (s : Tracked) (action : Action) (id : CtxId) : Bool :=
  decide (id < s.system.dev.submitted) && (s.cancelled id || cancels action id)

def trackedStep (s : Tracked) (action : Action) : Option Tracked :=
  (step s.system action).map fun system =>
    { system := system
      requests := s.requests ++ requestedBy s.system action
      seen := s.seen ++ seenBy s action
      answers := s.answers ++ answeredBy s.system action
      cancelled := cancelledAfter s action }

end History

section Invariant

variable {s t : Tracked} {action : Action} {id : CtxId} {reportId : UInt8}

/-- A reply for the report has completed the read, which is off the list for good. -/
def Answered (s : Tracked) (id : CtxId) (reportId : UInt8) : Prop :=
  ∃ payload, (id, payload) ∈ s.answers ∧ payload.head? = some reportId

/-- The read is on the list and nowhere else. -/
def Listed (s : System) (id : CtxId) (reportId : UInt8) : Prop :=
  Waits s.dev reportId id ∧ Unfiled s id

/-- The thread has listed the read of the report. -/
def Asked (s : Tracked) (id : CtxId) (reportId : UInt8) : Prop :=
  (∃ requestedLength, s.system.enqueuers id = .deferred reportId requestedLength) ∨
    ∃ request ∈ s.requests, request.id = id ∧ request.reportId = reportId

structure Inv (s : Tracked) : Prop where
  known : Known s.system
  entering : ∀ id, enters (s.system.enqueuers id) = true → s.cancelled id = false →
    Unfiled s.system id
  returned : ∀ request ∈ s.requests, s.system.enqueuers request.id = .returned ∧
    request.id < s.system.dev.submitted
  asked : ∀ id reportId, Asked s id reportId → s.cancelled id = false →
    Listed s.system id reportId ∨ Answered s id reportId
  answered : ∀ answer ∈ s.answers, answer.1 ∉ s.system.dev.pendingFeatureGet ∧
    enters (s.system.enqueuers answer.1) = false ∧ answer.1 < s.system.dev.submitted
  seen : ∀ request ∈ s.seen, request ∈ s.requests
  replies : ∀ payload, .featureReply payload ∈ s.system.syscalls → payload ≠ []

theorem Listed.of_spared {s t : System} (h : Listed s id reportId) (spared : Spared s t id) :
    Listed t id reportId := ⟨spared.waits h.1, spared.unfiled h.2⟩

/-- An uncancelled context is touched by its own thread and by replies only. -/
theorem not_touched {s : System} (hunfiled : Unfiled s id) (hcancels : cancels action id = false)
    (hother : continues action ≠ some (.enqueuer id))
    (hreply : ∀ payload, action = .resume (.featureReply payload) →
      ¬Reads s.dev (payload.headD 0) id) : ¬touchedBy s action id := by
  obtain ⟨hhidIn, hcompleted, hheld⟩ := hunfiled
  cases action with
  | handle j | call j alloc | schedule j | file j | refile j =>
      rintro rfl
      exact hother rfl
  | dequeue j status =>
      intro hid
      simp [cancels, show id = j from hid] at hcancels
  | write frame flags alloc => exact hhidIn
  | disconnect | stop => simp [cancels] at hcancels
  | resume syscall =>
      cases syscall with
      | featureReply payload => exact hreply payload rfl
      | disconnect => simp [cancels] at hcancels
      | resetUsb => exact fun h => h
  | take => exact hcompleted
  | deliver | place | giveback => exact hheld
  | _ => exact fun h => h

theorem cancelled_false (h : cancelledAfter s action id = false)
    (hid : id < s.system.dev.submitted) :
    s.cancelled id = false ∧ cancels action id = false := by
  simpa [cancelledAfter, hid] using h

theorem trackedStep_eq_some (h : trackedStep s action = some t) :
    step s.system action = some t.system ∧ t.requests = s.requests ++ requestedBy s.system action ∧
      t.seen = s.seen ++ seenBy s action ∧ t.answers = s.answers ++ answeredBy s.system action ∧
      t.cancelled = cancelledAfter s action := by
  obtain ⟨system, hsystem, rfl⟩ := Option.map_eq_some_iff.mp h
  exact ⟨hsystem, rfl, rfl, rfl, rfl⟩

theorem Answered.mono (h : Answered s id reportId) (hanswers : ∀ answer ∈ s.answers,
    answer ∈ t.answers) : Answered t id reportId := by
  obtain ⟨payload, hmem, hhead⟩ := h
  exact ⟨payload, hanswers _ hmem, hhead⟩

theorem mem_filter_waitsFor {dev : HcdDev} {reportId : UInt8} :
    id ∈ dev.pendingFeatureGet.filter (waitsFor dev reportId) ↔ Waits dev reportId id := by
  rw [List.mem_filter, waitsFor, Waits]
  simp [Option.any_eq_true]

/-- What a step adds to the answers are the reads that wait for the report of a reply. -/
theorem mem_answeredBy {s : System} {payload : List UInt8}
    (h : (id, payload) ∈ answeredBy s action) : action = .resume (.featureReply payload) ∧
      s.dev.stopping = false ∧ Waits s.dev (payload.headD 0) id := by
  unfold answeredBy at h
  split at h
  · split_ifs at h with hstop
    · cases h
    · obtain ⟨j, hj, heq⟩ := List.mem_map.mp h
      cases heq
      exact ⟨rfl, Bool.eq_false_of_not_eq_true hstop, mem_filter_waitsFor.mp hj⟩
  · cases h

theorem mem_requestedBy {s : System} {request : Request} (h : request ∈ requestedBy s action) :
    ∃ alloc requestedLength, action = .request request.id alloc ∧
      s.enqueuers request.id = .deferred request.reportId requestedLength ∧
      (enqueueFrame s.dev .usbFeatureGet
        (featureGetFrame request.reportId requestedLength) alloc).2 = 0 := by
  unfold requestedBy at h
  split at h
  · rename_i id alloc
    split at h
    · rename_i reportId requestedLength hpc
      split_ifs at h with hret
      · obtain rfl := List.mem_singleton.mp h
        exact ⟨alloc, requestedLength, rfl, hpc, hret⟩
      · cases h
    · cases h
  · cases h

namespace Inv

theorem submitted_lt (inv : Inv s) (hpc : s.system.enqueuers id ≠ .returned) :
    id < s.system.dev.submitted :=
  inv.known.submitted id (.inr (.inr (.inr (.inr (.inr hpc)))))

theorem returned_step (inv : Inv s) (h : trackedStep s action = some t) :
    ∀ request ∈ t.requests, t.system.enqueuers request.id = .returned ∧
      request.id < t.system.dev.submitted := by
  obtain ⟨hstep, hrequests, -⟩ := trackedStep_eq_some h
  intro request hmem
  rw [hrequests, List.mem_append] at hmem
  obtain hold | hnew := hmem
  · obtain ⟨hpc, hlt⟩ := inv.returned request hold
    refine ⟨?_, hlt.trans_le (submitted_le_of_step hstep)⟩
    obtain hsame | ⟨-, hbusy⟩ | ⟨-, -, hsubmitted, -⟩ := enqueuers_of_step hstep request.id
    · rw [hsame, hpc]
    · exact absurd hpc hbusy
    · exact absurd hsubmitted (Nat.ne_of_lt hlt)
  · obtain ⟨alloc, requestedLength, rfl, hpc, hret⟩ := mem_requestedBy hnew
    have hlt : request.id < s.system.dev.submitted := inv.submitted_lt (by simp [hpc])
    refine ⟨?_, hlt.trans_le (submitted_le_of_step hstep)⟩
    simp only [Threads.step, hpc] at hstep
    rw [← Option.some.inj hstep, setPc_enqueuers, if_pos rfl, hret, if_neg (by simp)]

theorem entering_step (inv : Inv s) (h : trackedStep s action = some t) (id : CtxId)
    (henters : enters (t.system.enqueuers id) = true) (hkept : t.cancelled id = false) :
    Unfiled t.system id := by
  obtain ⟨hstep, -, -, -, hcancelled⟩ := trackedStep_eq_some h
  rw [hcancelled] at hkept
  by_cases hlt : id < s.system.dev.submitted
  · obtain ⟨hbefore, hcancels⟩ := cancelled_false hkept hlt
    by_cases hown : continues action = some (.enqueuer id)
    · obtain ⟨rfl, hentered⟩ := handle_of_enters hstep hown henters
      exact unfiled_of_handle hstep henters (inv.entering id hentered hbefore)
    · have hsame := enqueuers_of_other hstep hlt hown
      rw [hsame] at henters
      have hunfiled := inv.entering id henters hbefore
      have hunlisted : id ∉ s.system.dev.pendingFeatureGet := by
        intro hmem
        rw [inv.known.decided id hmem] at henters
        cases henters
      have htouched := not_touched hunfiled hcancels hown fun payload _ hreads => hunlisted hreads.1
      refine (spared_of_step hlt hstep ?_ htouched).unfiled hunfiled
      rintro rfl
      exact hown rfl
  · have hnew : ¬Located s.system id := fun hlocated => hlt (inv.known.submitted id hlocated)
    simp only [Located, not_or] at hnew
    obtain ⟨-, -, hhidIn, hcompleted, hheld, hpc⟩ := hnew
    obtain hsame | ⟨-, hbusy⟩ | ⟨-, -, -, urb, alloc, linkRet, rfl⟩ := enqueuers_of_step hstep id
    · rw [hsame] at henters
      exact absurd (ne_returned_of_enters henters) hpc
    · exact absurd hbusy hpc
    · obtain heq | ⟨context, -, -, heq⟩ := submit_cases hstep
      · rw [heq]
        exact ⟨hhidIn, hcompleted, hheld⟩
      · rw [heq]
        exact ⟨hhidIn, hcompleted, hheld⟩

/-- The thread lists its read. -/
theorem listed_of_defer (inv : Inv s) {requestedLength : UInt16}
    (h : step s.system (.defer id) = some t.system) (hkept : s.cancelled id = false)
    (hpc : t.system.enqueuers id = .deferred reportId requestedLength) :
    Listed t.system id reportId := by
  obtain ⟨named, length, hmissed, ⟨context, -, heq⟩ | ⟨ret, heq⟩⟩ := defer_cases h
  · have hunfiled := inv.entering id (by rw [hmissed, enters]) hkept
    rw [heq, setPc_enqueuers, if_pos rfl] at hpc
    cases hpc
    rw [heq]
    refine ⟨⟨?_, _, Function.update_self _ _ _, rfl, rfl⟩, hunfiled⟩
    exact List.mem_append_right _ (List.mem_singleton_self id)
  · rw [heq, setPc_enqueuers, if_pos rfl] at hpc
    cases hpc

/-- A listed read is there after a step of another thread, or a reply has completed it. -/
theorem listed_step (inv : Inv s) (h : trackedStep s action = some t)
    (hlt : id < s.system.dev.submitted) (hcancels : cancels action id = false)
    (hother : continues action ≠ some (.enqueuer id)) (listed : Listed s.system id reportId) :
    Listed t.system id reportId ∨ Answered t id reportId := by
  obtain ⟨hstep, -, -, hanswers, -⟩ := trackedStep_eq_some h
  have hdefer : action ≠ .defer id := by
    rintro rfl
    exact hother rfl
  by_cases hreply : ∃ payload, action = .resume (.featureReply payload) ∧
      Reads s.system.dev (payload.headD 0) id
  · obtain ⟨payload, rfl, -, context, hcontext, hreport⟩ := hreply
    obtain ⟨hmem, hresumed⟩ := Option.ite_none_right_eq_some.mp hstep
    obtain ⟨_, context', hcontext', hreport', _⟩ := listed.1
    obtain rfl := Option.some.inj (hcontext.symm.trans hcontext')
    cases hstop : s.system.dev.stopping with
    | true =>
        refine .inl ?_
        rw [← Option.some.inj hresumed]
        simp only [Threads.resume, completeFeatureReply, hstop, if_true]
        exact listed
    | false =>
        refine .inr ⟨payload, ?_, ?_⟩
        · rw [hanswers, List.mem_append]
          refine .inr ?_
          simp only [answeredBy, hstop, Bool.false_eq_true, if_false, List.mem_map]
          exact ⟨id, mem_filter_waitsFor.mpr (by rw [← hreport, hreport']; exact listed.1), rfl⟩
        · obtain ⟨byte, rest, rfl⟩ := List.exists_cons_of_ne_nil (inv.replies payload hmem)
          rw [List.head?_cons, ← hreport', hreport, List.headD_cons]
  · refine .inl (listed.of_spared (spared_of_step hlt hstep hdefer ?_))
    refine not_touched listed.2 hcancels hother fun payload haction hreads => ?_
    exact hreply ⟨payload, haction, hreads⟩

theorem asked_step (inv : Inv s) (h : trackedStep s action = some t)
    (hasked : Asked t id reportId) (hkept : t.cancelled id = false) :
    Listed t.system id reportId ∨ Answered t id reportId := by
  obtain ⟨hstep, hrequests, -, hanswers, hcancelled⟩ := trackedStep_eq_some h
  have hmono : Answered s id reportId → Answered t id reportId := by
    refine fun hanswered => hanswered.mono fun answer hmem => ?_
    rw [hanswers]
    exact List.mem_append_left _ hmem
  have hlt : id < s.system.dev.submitted := by
    obtain ⟨requestedLength, hpc⟩ | ⟨request, hmem, rfl, -⟩ := hasked
    · refine inv.submitted_lt fun hreturned => ?_
      obtain hsame | ⟨-, hbusy⟩ | ⟨hlinked, -⟩ := enqueuers_of_step hstep id
      · simp [← hsame, hpc] at hreturned
      · exact hbusy hreturned
      · simp [hpc] at hlinked
    · rw [hrequests, List.mem_append] at hmem
      obtain hold | hnew := hmem
      · exact (inv.returned request hold).2
      · obtain ⟨alloc, requestedLength, -, hpc, -⟩ := mem_requestedBy hnew
        exact inv.submitted_lt (by simp [hpc])
  rw [hcancelled] at hkept
  obtain ⟨hbefore, hcancels⟩ := cancelled_false hkept hlt
  by_cases hown : continues action = some (.enqueuer id)
  · obtain ⟨requestedLength, hpc⟩ | ⟨request, hmem, rfl, rfl⟩ := hasked
    · obtain rfl := defer_of_deferred hstep hown hpc
      exact .inl (inv.listed_of_defer hstep hbefore hpc)
    · rw [hrequests, List.mem_append] at hmem
      obtain hold | hnew := hmem
      · exact absurd (inv.returned request hold).1 (ne_returned_of_own hstep hown)
      · obtain ⟨alloc, requestedLength, rfl, hpc, -⟩ := mem_requestedBy hnew
        refine (inv.asked _ _ (.inl ⟨requestedLength, hpc⟩) hbefore).imp (fun listed => ?_) hmono
        exact listed.of_spared (spared_of_step hlt hstep (by simp) fun htouched => htouched)
  · have hasked' : Asked s id reportId := by
      obtain ⟨requestedLength, hpc⟩ | ⟨request, hmem, rfl, rfl⟩ := hasked
      · exact .inl ⟨requestedLength, by rw [← enqueuers_of_other hstep hlt hown, hpc]⟩
      · rw [hrequests, List.mem_append] at hmem
        obtain hold | hnew := hmem
        · exact .inr ⟨request, hold, rfl, rfl⟩
        · obtain ⟨alloc, requestedLength, rfl, -⟩ := mem_requestedBy hnew
          exact absurd rfl hown
    obtain listed | hanswered := inv.asked id reportId hasked' hbefore
    · exact inv.listed_step h hlt hcancels hown listed
    · exact .inr (hmono hanswered)

/-- The section of a reply completes every read that waits for its report. -/
theorem completed_of_resume (inv : Inv s) {payload : List UInt8}
    (h : Threads.step s.system (.resume (.featureReply payload)) = some t.system)
    (hstop : s.system.dev.stopping = false)
    (hwaits : Waits s.system.dev (payload.headD 0) id) :
    Completed s.system.dev t.system.dev id payload := by
  obtain ⟨hmem, hresumed⟩ := Option.ite_none_right_eq_some.mp h
  rw [← Option.some.inj hresumed]
  refine completed_completeFeatureReply hstop inv.known.nodup hwaits ?_
  obtain ⟨byte, rest, rfl⟩ := List.exists_cons_of_ne_nil (inv.replies payload hmem)
  rfl

theorem answered_step (inv : Inv s) (h : trackedStep s action = some t) :
    ∀ answer ∈ t.answers, answer.1 ∉ t.system.dev.pendingFeatureGet ∧
      enters (t.system.enqueuers answer.1) = false ∧ answer.1 < t.system.dev.submitted := by
  obtain ⟨hstep, -, -, hanswers, -⟩ := trackedStep_eq_some h
  intro answer hmem
  rw [hanswers, List.mem_append] at hmem
  obtain hold | hnew := hmem
  · obtain ⟨htaken, hdecided, hlt⟩ := inv.answered answer hold
    refine ⟨fun hlisted => ?_, ?_, hlt.trans_le (submitted_le_of_step hstep)⟩
    · obtain hbefore | henters := mem_pending_of_step hstep hlisted
      · exact htaken hbefore
      · simp [hdecided] at henters
    · by_contra henters
      have henters' := Bool.of_not_eq_false henters
      obtain hsame | ⟨hown, -⟩ | ⟨-, -, hnew, -⟩ := enqueuers_of_step hstep answer.1
      · rw [hsame] at henters
        exact henters hdecided
      · have := (handle_of_enters hstep hown henters').2
        simp [hdecided] at this
      · exact absurd hnew (Nat.ne_of_lt hlt)
  · have hanswer : (answer.1, answer.2) ∈ answeredBy s.system action := hnew
    obtain ⟨rfl, hstop, hwaits⟩ := mem_answeredBy hanswer
    have hlt : answer.1 < s.system.dev.submitted :=
      inv.known.submitted answer.1 (.inr (.inl hwaits.1))
    have hdecided := inv.known.decided answer.1 hwaits.1
    have hother : continues (.resume (.featureReply answer.2)) ≠ some (.enqueuer answer.1) := by
      simp [continues]
    refine ⟨?_, ?_, hlt.trans_le (submitted_le_of_step hstep)⟩
    · exact (inv.completed_of_resume hstep hstop hwaits).taken
    · rw [enqueuers_of_other hstep hlt hother, hdecided]

theorem replies_step (inv : Inv s) (h : trackedStep s action = some t) {payload : List UInt8}
    (hreply : .featureReply payload ∈ t.system.syscalls) : payload ≠ [] := by
  obtain ⟨hstep, -⟩ := trackedStep_eq_some h
  obtain hold | ⟨frame, flags, alloc, -, -, -, hret⟩ := replies_of_step hstep hreply
  · exact inv.replies payload hold
  · rintro rfl
    cases hret

theorem seen_step (inv : Inv s) (h : trackedStep s action = some t) :
    ∀ request ∈ t.seen, request ∈ t.requests := by
  obtain ⟨-, hrequests, hseen, -⟩ := trackedStep_eq_some h
  intro request hmem
  rw [hseen, List.mem_append] at hmem
  rw [hrequests]
  refine List.mem_append_left _ ?_
  obtain hold | hnew := hmem
  · exact inv.seen request hold
  · unfold seenBy at hnew
    split at hnew
    · split at hnew
      · exact (List.mem_filter.mp hnew).1
      · cases hnew
    · cases hnew

theorem step (inv : Inv s) (h : trackedStep s action = some t) : Inv t where
  known := inv.known.step (trackedStep_eq_some h).1
  entering := inv.entering_step h
  returned := inv.returned_step h
  asked := fun _ _ => inv.asked_step h
  answered := inv.answered_step h
  seen := inv.seen_step h
  replies := fun _ => inv.replies_step h

theorem init : Inv Tracked.init where
  known := .init
  entering := fun _ henters => by simp [Tracked.init, System.init, enters] at henters
  returned := fun _ hmem => absurd hmem List.not_mem_nil
  asked := by
    rintro id reportId (⟨requestedLength, hpc⟩ | ⟨request, hmem, -⟩)
    · cases hpc
    · cases hmem
  answered := fun _ hmem => absurd hmem List.not_mem_nil
  seen := fun _ hmem => absurd hmem List.not_mem_nil
  replies := fun _ hmem => absurd hmem List.not_mem_nil

end Inv

end Invariant

section Runs

variable {s t : Tracked} {actions : List Action} {id : CtxId}

theorem inv_of_run (run : Run trackedStep .init actions s) : Inv s :=
  run.invariant (fun _ _ _ inv _ h => inv.step h) .init

/-- A read of a feature report into a buffer of two bytes. -/
def getReportUrb (reportId : UInt8) : Urb where
  pipeType := .control
  endpoint := 0
  dirIn := true
  setupPacket := some ⟨0xa1, hidReqGetReport, 0x0300 ||| reportId.toUInt16, 3, 2⟩
  transferBufferLength := 2
  transferBuffer := some (.replicate 2 0)
  isoFrameDesc := []
  actualLength := 0
  errorCount := 0
  startFrame := 0
  linked := false
  unlinked := false
  hcpriv := false

end Runs

end VirtualDualSense.Hcd.FeatureReplies
