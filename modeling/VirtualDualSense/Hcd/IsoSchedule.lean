import VirtualDualSense.Hcd.TimedUrbs
import VirtualDualSense.Lib.DueQueue

/-!
# The schedule of the isochronous URBs

`vds_schedule_iso_giveback` lets a URB be given back when the audio that it carries has
been played, counted from the ready time of the URB before it or from now. A trace
records what happens to the URBs of one direction that are submitted from some state on.

## Implementation notes

The giveback thread compares whole microseconds, so it may give a URB back up to 999 ns
before its ready time.
-/

namespace VirtualDualSense.Hcd.IsoSchedule

open Lib.Runs Lib.DueQueue Protocol.Frames UsbCore Sections Filing Threads ThreadSteps Lifecycle
  AtomicRuns CompletionOrder FeatureReads TimedUrbs

section Duration

def audioBytesPerMs (input : Bool) : Nat :=
  if input then vdsAudioInBytesPerMs else vdsAudioOutBytesPerMs

/-- The bytes that a URB carries; of a microphone packet the device fills one millisecond. -/
def audioBytes (urb : Urb) (input : Bool) : Nat :=
  (urb.isoFrameDesc.map fun desc =>
    if input then min desc.length vdsAudioInBytesPerMs else desc.length).sum

/-- The time that they play, in whole microseconds, and at least a millisecond. -/
def audioDurationUs (urb : Urb) (input : Bool) : Nat :=
  max ((audioBytes urb input * 1000 + audioBytesPerMs input - 1) / audioBytesPerMs input) 1000

/-- A URB that the USB core can submit: its packets fit the endpoint and their descriptors
one allocation. -/
structure Admitted (urb : Urb) (input : Bool) : Prop where
  bytes : audioBytes urb input < 536870912
  packets : urb.isoFrameDesc.length < 4194304

instance (urb : Urb) (input : Bool) : Decidable (Admitted urb input) :=
  decidable_of_iff (_ ∧ _) ⟨fun h => ⟨h.1, h.2⟩, fun h => ⟨h.bytes, h.packets⟩⟩

theorem Admitted.congr {urb urb' : Urb} {input : Bool} (h : Admitted urb input)
    (hpackets : urb'.isoFrameDesc = urb.isoFrameDesc) : Admitted urb' input := by
  refine ⟨?_, ?_⟩
  · rw [audioBytes, hpackets]
    exact h.bytes
  · rw [hpackets]
    exact h.packets

/-- No counter wraps, so the URB gets at least the time of its audio. -/
theorem audioDurationUs_le {urb : Urb} {input : Bool} (admitted : Admitted urb input) :
    audioDurationUs urb input ≤ isoDurationUs urb input := by
  obtain ⟨hbytes, hpackets⟩ := admitted
  have hduration : isoDurationUs urb input =
      if audioBytes urb input % 2 ^ 32 = 0 then max urb.isoFrameDesc.length 1 * 1000 % 2 ^ 32
      else max ((audioBytes urb input % 2 ^ 32 * 1000 + audioBytesPerMs input - 1) /
        audioBytesPerMs input % 2 ^ 32) 1000 := rfl
  have htotal : audioBytes urb input % 2 ^ 32 = audioBytes urb input :=
    Nat.mod_eq_of_lt (by omega)
  have hrate : 192 ≤ audioBytesPerMs input := by cases input <;> decide
  rw [hduration, htotal, audioDurationUs]
  split_ifs with hzero
  · have hempty : (audioBytes urb input * 1000 + audioBytesPerMs input - 1) /
        audioBytesPerMs input = 0 := Nat.div_eq_of_lt (by omega)
    rw [hempty, Nat.mod_eq_of_lt (by omega)]
    omega
  · have hquotient : (audioBytes urb input * 1000 + audioBytesPerMs input - 1) /
        audioBytesPerMs input < 2 ^ 32 := by
      refine Nat.div_lt_of_lt_mul ?_
      have hscale := Nat.mul_le_mul_right (2 ^ 32 - 1) hrate
      have hsplit : audioBytesPerMs input * 2 ^ 32 =
          audioBytesPerMs input * (2 ^ 32 - 1) + audioBytesPerMs input := by omega
      omega
    rw [Nat.mod_eq_of_lt hquotient]

theorem audioBytes_le_rate (urb : Urb) (input : Bool) :
    audioBytes urb input * 1000000 ≤
      audioBytesPerMs input * (audioDurationUs urb input * nsecPerUsec) := by
  have hpositive : 0 < audioBytesPerMs input := by cases input <;> decide
  have hround := Nat.lt_mul_div_succ (audioBytes urb input * 1000 + audioBytesPerMs input - 1)
    hpositive
  have hmax : audioBytesPerMs input * ((audioBytes urb input * 1000 + audioBytesPerMs input - 1) /
      audioBytesPerMs input) ≤ audioBytesPerMs input * audioDurationUs urb input :=
    Nat.mul_le_mul_left _ (le_max_left _ _)
  rw [Nat.mul_add, Nat.mul_one] at hround
  rw [← Nat.mul_assoc, nsecPerUsec]
  omega

theorem sum_isoOutPackets_le (bufferLength : Nat) (descs : List IsoPacketDescriptor) :
    ((isoOutPackets bufferLength descs).map IsoPacketDescriptor.actualLength).sum ≤
      (descs.map IsoPacketDescriptor.length).sum := by
  induction descs with
  | nil => rfl
  | cons desc rest ih =>
      refine Nat.add_le_add ?_ ih
      dsimp only
      split_ifs
      · exact Nat.zero_le _
      · exact le_rfl

/-- No more than these bytes are completed when the URB is given back. -/
theorem actualLength_isoOutUrb_le {urb : Urb} (h : (isoOutUrb urb).2.2 = 0) :
    (isoOutUrb urb).1.actualLength ≤ audioBytes urb false := by
  unfold isoOutUrb at h ⊢
  cases hbuffer : urb.transferBuffer with
  | none => simp [hbuffer, epipe] at h
  | some buffer => exact sum_isoOutPackets_le urb.transferBufferLength urb.isoFrameDesc

theorem sum_isoInPackets_le {n : Nat} (dev : HcdDev) (buffer : Vector UInt8 n)
    (descs : List IsoPacketDescriptor) :
    (((isoInPackets dev buffer descs).2.2).map IsoPacketDescriptor.actualLength).sum ≤
      (descs.map fun desc => min desc.length vdsAudioInBytesPerMs).sum := by
  induction descs generalizing dev buffer with
  | nil => rfl
  | cons desc rest ih =>
      simp only [isoInPackets]
      split_ifs
      · exact Nat.add_le_add (Nat.zero_le _) (ih dev buffer)
      · exact Nat.add_le_add le_rfl (ih _ _)

theorem actualLength_isoInUrb_le (dev : HcdDev) {urb : Urb} (h : (isoInUrb dev urb).2.2 = 0) :
    (isoInUrb dev urb).2.1.actualLength ≤ audioBytes urb true := by
  unfold isoInUrb at h ⊢
  cases hbuffer : urb.transferBuffer with
  | none => simp [hbuffer, epipe] at h
  | some buffer =>
      simp only [Urb.finishIso]
      exact sum_isoInPackets_le dev buffer urb.isoFrameDesc

end Duration

section Trace

/-- A URB that `vds_schedule_iso_giveback` scheduled, and when. -/
structure Entry where
  id : CtxId
  urb : Urb
  now : Nat
  readyTime : Nat

/-- A run, the URBs of one direction that were submitted in it, those of them that were
scheduled, and the times at which those were given back. -/
structure Traced where
  system : System
  submissions : List CtxId
  scheduled : List Entry
  givenBack : List (CtxId × Nat)

def Traced.new (s : System) : Traced := ⟨s, [], [], []⟩

/-- The numbers of the scheduled URBs. -/
def Traced.ids (t : Traced) : List CtxId := t.scheduled.map Entry.id

/-- An isochronous URB of the direction. -/
def isoOf (urb : Urb) (input : Bool) : Bool :=
  urb.pipeType == .isochronous && urb.dirIn == input

variable (input : Bool)

/-- The URB of the direction that a step accepts. -/
def submittedBy (t : Traced) (next : System) : Action → List CtxId
  | .submit urb _ _ =>
      if isoOf urb input ∧ t.system.dev.submitted < next.dev.submitted then
        [t.system.dev.submitted] else []
  | _ => []

/-- The submitted URB that a step schedules. -/
def scheduledBy (t : Traced) (next : System) : Action → List Entry
  | .schedule id =>
      match t.system.enqueuers id, t.system.dev.contexts id with
      | .scheduling direction, some context =>
          if direction = input ∧ id ∈ t.submissions then
            [⟨id, context.urb, t.system.clock, next.dev.readyTime id⟩] else []
      | _, _ => []
  | _ => []

/-- The scheduled URB that a step gives back. -/
def givenBackBy (t : Traced) : Action → List (CtxId × Nat)
  | .giveback => (holds t.system.giveback).toList.filterMap fun id =>
      if id ∈ t.ids then some (id, t.system.clock) else none
  | _ => []

def step (t : Traced) (action : Action) : Option Traced :=
  (Threads.step t.system action).map fun next =>
    { system := next
      submissions := t.submissions ++ submittedBy input t next action
      scheduled := t.scheduled ++ scheduledBy input t next action
      givenBack := t.givenBack ++ givenBackBy t action }

/-- The condition: the device stays connected, each URB of the direction is submitted after the
enqueue of the one before, and none of them is cancelled. -/
def ScheduleGuard (t : Traced) (action : Action) : Prop :=
  CancelGuard t.system action ∧
    match action with
    | .submit urb _ _ => isoOf urb input →
        Admitted urb input ∧ ∀ id ∈ t.submissions, owns (t.system.enqueuers id) = false
    | .dequeue id _ => id ∉ t.ids
    | .disconnect | .resume .disconnect => False
    | _ => True

/-- The URBs that were given back by some time. -/
def Traced.completedBy (t : Traced) (time : Nat) : List Entry :=
  t.scheduled.filter fun entry => t.givenBack.any fun (id, returned) =>
    id == entry.id && returned ≤ time

def Entry.span (entry : Entry) : Nat := audioDurationUs entry.urb input * nsecPerUsec

/-- The pacing of the URBs of one direction. -/
structure RealTime (t : Traced) : Prop where
  submissionOrder : t.ids.Sublist t.submissions
  increasing : t.scheduled.Pairwise fun a b => a.readyTime < b.readyTime
  spaced : Consecutive Entry.readyTime (Entry.span input) t.scheduled
  fromNow : ∀ entry ∈ t.scheduled, entry.now + entry.span input ≤ entry.readyTime
  inOrder : t.givenBack.map Prod.fst <+: t.ids
  notBefore : ∀ entry ∈ t.scheduled, ∀ time, (entry.id, time) ∈ t.givenBack →
    entry.readyTime < time + nsecPerUsec
  bytes : ∀ first ∈ t.scheduled.head?, ∀ time,
    ((t.completedBy time).map fun entry => audioBytes entry.urb input).sum * 1000000 ≤
      audioBytesPerMs input * (time + 999 - first.now)

end Trace

section Submissions

variable {s u : System} {action : Action} {id : CtxId}

/-- The thread has not scheduled its URB yet. -/
def unscheduled : EnqueuePc → Bool
  | .linked | .scheduling _ => true
  | _ => false

theorem owns_of_unscheduled {pc : EnqueuePc} (h : unscheduled pc = true) : owns pc = true := by
  cases pc <;> first | rfl | cases h

/-- A thread that is done with its context stays so. -/
theorem done_of_step (life : Lifecycle.Inv s) (ok : CancelGuard s action)
    (h : Threads.step s action = some u) (hid : id < s.dev.submitted)
    (hdone : owns (s.enqueuers id) = false) : owns (u.enqueuers id) = false := by
  cases effect_of_cancelGuard life ok h with
  | files _ howns _ => rw [howns, hdone]
  | moves j state _ _ _ howns _ hothers _ _ _ hfrom =>
      by_cases hj : id = j
      · subst hj
        have hgiving : state = .givingBack := hfrom.resolve_left (by simp [hdone])
        rw [hgiving] at howns
        simpa using howns
      · rw [hothers id hj, hdone]
  | enters _ _ _ _ _ _ hpcs _ => rw [hpcs, Function.update_of_ne (Nat.ne_of_lt hid), hdone]
  | frees _ _ _ hpcs _ => rw [hpcs, hdone]

/-- The handler of an audio endpoint marks the context of its URB. -/
theorem handle_of_unscheduled {context : UrbContext} (hcontext : s.dev.contexts id = some context)
    (h : unscheduled ((Threads.handle s id context).enqueuers id) = true) :
    ∀ found ∈ (Threads.handle s id context).dev.contexts id,
      found.urb.isoFrameDesc = context.urb.isoFrameDesc := by
  have hmarked : ∀ (f : UrbContext → UrbContext) (pc : EnqueuePc), (∀ c, (f c).urb = c.urb) →
      ∀ found ∈ ({ s with dev := s.dev.modifyContext id f }.setPc id pc).dev.contexts id,
        found.urb.isoFrameDesc = context.urb.isoFrameDesc := by
    intro f pc hf found hfound
    simp only [System.setPc, HcdDev.modifyContext, Function.update_self, hcontext, Option.map_some,
      Option.mem_def, Option.some.injEq] at hfound
    rw [← hfound, hf]
  have hsame : ∀ pc, ∀ found ∈ (s.setPc id pc).dev.contexts id,
      found.urb.isoFrameDesc = context.urb.isoFrameDesc := by
    intro pc found hfound
    obtain rfl : context = found := Option.some.inj (hcontext.symm.trans hfound)
    rfl
  unfold Threads.handle at h ⊢
  cases hpipe : context.urb.pipeType with
  | control =>
      simp only [hpipe, setPc_enqueuers, if_true] at h
      generalize (s.dev.usb.controlUrb context.urb).2.2 = handled at h
      cases handled <;> cases h
  | interrupt =>
      simp only [hpipe] at h
      split_ifs at h <;> simp [unscheduled] at h
  | isochronous =>
      simp only [hpipe]
      split_ifs
      · exact hsame _
      · exact hmarked _ _ fun _ => rfl
      · exact hsame _
      · exact hmarked _ _ fun _ => rfl
      · exact hsame _
  | bulk => simp [hpipe, unscheduled] at h

/-- Of the steps of a thread, only its handler leaves its URB to be scheduled. -/
theorem handle_of_own (h : Threads.step s action = some u)
    (hown : continues action = some (.enqueuer id))
    (hu : unscheduled (u.enqueuers id) = true) : ∃ context, action = .handle id ∧
      s.enqueuers id = .linked ∧ s.dev.contexts id = some context ∧
        u = Threads.handle s id context := by
  cases steps_of_step h with
  | handle j context hpc live =>
      cases hown
      exact ⟨context, rfl, hpc, live, rfl⟩
  | handleFreed j =>
      cases hown
      simp [unscheduled] at hu
  | call j alloc next calls ret =>
      cases hown
      obtain ⟨_, _, _, hframe⟩ := call_frame s id alloc calls ret next
      rw [hframe] at hu
      simp [unscheduled] at hu
  | defer j | request j alloc =>
      cases hown
      rw [setPc_enqueuers, if_pos rfl] at hu
      split_ifs at hu <;> cases hu
  | refile j | schedule j | file j =>
      cases hown
      simp [unscheduled] at hu
  | _ => cases hown

/-- A URB that still has to be scheduled keeps its packets. -/
theorem unscheduled_of_step (life : Lifecycle.Inv s) (ok : CancelGuard s action)
    (h : Threads.step s action = some u) (hid : id < s.dev.submitted)
    (hconnected : disconnects action = false) (hu : unscheduled (u.enqueuers id) = true) :
    unscheduled (s.enqueuers id) = true ∧ ∀ found ∈ u.dev.contexts id,
      ∃ context ∈ s.dev.contexts id, found.urb.isoFrameDesc = context.urb.isoFrameDesc := by
  by_cases hown : continues action = some (.enqueuer id)
  · obtain ⟨context, -, hpc, hcontext, rfl⟩ := handle_of_own h hown hu
    refine ⟨by rw [hpc, unscheduled], fun found hfound => ⟨context, hcontext, ?_⟩⟩
    exact handle_of_unscheduled hcontext hu found hfound
  · have hsame := enqueuers_of_other h hid hown
    rw [hsame] at hu
    have howns := owns_of_unscheduled hu
    have hactive := life.stateOf_of_owns howns
    refine ⟨hu, fun found hfound => ⟨found, ?_, rfl⟩⟩
    have hcontext := context_of_step life h hid (by simp [hactive]) (by simp [hactive]) hconnected
      hown ?_ (fun _ => not_completed_of_owns life howns) fun _ => life.not_held howns
    · rwa [hcontext] at hfound
    · rintro status rfl
      exact absurd (howns.symm.trans ok) (by decide)

end Submissions

section Serial

variable {input : Bool} {t u : Traced} {next : System} {action : Action} {id : CtxId}

theorem step_eq_some (h : step input t action = some u) :
    ∃ next, Threads.step t.system action = some next ∧ u =
      { system := next
        submissions := t.submissions ++ submittedBy input t next action
        scheduled := t.scheduled ++ scheduledBy input t next action
        givenBack := t.givenBack ++ givenBackBy t action } := by
  obtain ⟨next, hnext, rfl⟩ := Option.map_eq_some_iff.mp h
  exact ⟨next, hnext, rfl⟩

theorem connected_of_guard (ok : ScheduleGuard input t action) : disconnects action = false := by
  unfold disconnects
  split
  · exact ok.2.elim
  · exact ok.2.elim
  · rfl

theorem mem_submittedBy (h : id ∈ submittedBy input t next action) :
    ∃ urb alloc linkRet, action = .submit urb alloc linkRet ∧ isoOf urb input ∧
      t.system.dev.submitted < next.dev.submitted ∧ id = t.system.dev.submitted := by
  unfold submittedBy at h
  split at h
  · rename_i urb alloc linkRet
    split_ifs at h with haccepted
    · exact ⟨urb, alloc, linkRet, rfl, haccepted.1, haccepted.2, List.mem_singleton.mp h⟩
    · cases h
  · cases h

theorem scheduledBy_cases (input : Bool) (t : Traced) (next : System) (action : Action) :
    scheduledBy input t next action = [] ∨ ∃ id context, action = .schedule id ∧
      t.system.enqueuers id = .scheduling input ∧ t.system.dev.contexts id = some context ∧
        id ∈ t.submissions ∧ scheduledBy input t next action =
          [⟨id, context.urb, t.system.clock, next.dev.readyTime id⟩] := by
  unfold scheduledBy
  split
  · rename_i id
    split
    · rename_i direction context hpc hcontext
      split_ifs with hrecorded
      · obtain ⟨rfl, hmem⟩ := hrecorded
        exact .inr ⟨id, context, rfl, hpc, hcontext, hmem, rfl⟩
      · exact .inl rfl
    · exact .inl rfl
  · exact .inl rfl

/-- The URBs of the direction are enqueued one after the other. -/
structure Serial (input : Bool) (t : Traced) : Prop where
  increasing : t.submissions.Pairwise (· < ·)
  submitted : ∀ id ∈ t.submissions, id < t.system.dev.submitted
  earlier : ∀ id ∈ t.submissions, ∀ other ∈ t.submissions, id < other →
    owns (t.system.enqueuers id) = false
  admitted : ∀ id ∈ t.submissions, unscheduled (t.system.enqueuers id) = true →
    ∀ context ∈ t.system.dev.contexts id, Admitted context.urb input

theorem Serial.step (life : Lifecycle.Inv t.system) (serial : Serial input t)
    (ok : ScheduleGuard input t action) (h : step input t action = some u) : Serial input u := by
  obtain ⟨next, hnext, rfl⟩ := step_eq_some h
  have hdone : ∀ id ∈ t.submissions, owns (t.system.enqueuers id) = false →
      owns (next.enqueuers id) = false := fun id hid =>
    done_of_step life ok.1 hnext (serial.submitted id hid)
  have hold : ∀ id ∈ t.submissions, unscheduled (next.enqueuers id) = true →
      ∀ context ∈ next.dev.contexts id, Admitted context.urb input := by
    intro id hid hpc found hfound
    obtain ⟨hbefore, hpackets⟩ := unscheduled_of_step life ok.1 hnext (serial.submitted id hid)
      (connected_of_guard ok) hpc
    obtain ⟨context, hcontext, heq⟩ := hpackets found hfound
    exact (serial.admitted id hid hbefore context hcontext).congr heq
  have hnew : ∀ id ∈ submittedBy input t next action, id = t.system.dev.submitted := by
    intro id hid
    obtain ⟨-, -, -, -, -, -, heq⟩ := mem_submittedBy hid
    exact heq
  constructor
  · refine List.pairwise_append.mpr ⟨serial.increasing, ?_, fun id hid other hother => ?_⟩
    · unfold submittedBy
      split
      · split_ifs
        · exact List.pairwise_singleton _ _
        · exact .nil
      · exact .nil
    · rw [hnew other hother]
      exact serial.submitted id hid
  · intro id hid
    rcases List.mem_append.mp hid with hid | hid
    · exact (serial.submitted id hid).trans_le (submitted_le_of_step hnext)
    · obtain ⟨-, -, -, -, -, hlt, rfl⟩ := mem_submittedBy hid
      exact hlt
  · intro id hid other hother hlt
    rcases List.mem_append.mp hid with hmem | hmem
    · refine hdone id hmem ?_
      rcases List.mem_append.mp hother with hmem' | hmem'
      · exact serial.earlier id hmem other hmem' hlt
      · obtain ⟨urb, alloc, linkRet, rfl, hiso, -, -⟩ := mem_submittedBy hmem'
        exact (ok.2 hiso).2 id hmem
    · rw [hnew id hmem] at hlt
      rcases List.mem_append.mp hother with hmem' | hmem'
      · exact absurd (serial.submitted other hmem') (Nat.lt_asymm hlt)
      · exact absurd (hnew other hmem') (Nat.ne_of_gt hlt)
  · intro id hid hpc
    rcases List.mem_append.mp hid with hid | hid
    · exact hold id hid hpc
    · obtain ⟨urb, alloc, linkRet, rfl, hiso, hlt, rfl⟩ := mem_submittedBy hid
      obtain rfl := Option.some.inj hnext
      intro context hcontext
      refine (ok.2 hiso).1.congr ?_
      dsimp only at hlt hcontext
      unfold submit at hlt hcontext
      split_ifs at hlt hcontext
      · exact absurd hlt (Nat.lt_irrefl _)
      · simp only [Function.update_self, Option.mem_def, Option.some.injEq] at hcontext
        rw [← hcontext]

end Serial

section Served

variable {stateOf stateOf' : CtxId → Option UrbState} {returned ids : List CtxId} {id : CtxId}

/-- The URBs that were given back come first, and of the others the giveback thread holds at
most the first. -/
def Served (stateOf : CtxId → Option UrbState) (returned ids : List CtxId) : Prop :=
  ∃ rest, ids = returned ++ rest ∧ (∀ id ∈ returned, stateOf id = none) ∧
    (∀ id ∈ rest, stateOf id ≠ none) ∧ ∀ id ∈ rest.tail, stateOf id ≠ some .givingBack

theorem Served.congr (h : Served stateOf returned ids)
    (hnone : ∀ id ∈ ids, stateOf' id = none ↔ stateOf id = none)
    (hgiving : ∀ id ∈ ids, stateOf' id = some .givingBack → stateOf id = some .givingBack) :
    Served stateOf' returned ids := by
  obtain ⟨rest, rfl, hreturned, hlive, htail⟩ := h
  have hrest : ∀ id ∈ rest, id ∈ returned ++ rest := fun id hid => List.mem_append_right _ hid
  refine ⟨rest, rfl, fun id hid => ?_, fun id hid => ?_, fun id hid => ?_⟩
  · exact (hnone id (List.mem_append_left _ hid)).mpr (hreturned id hid)
  · exact fun hfreed => hlive id hid ((hnone id (hrest id hid)).mp hfreed)
  · have hmem := hrest id (List.mem_of_mem_tail hid)
    exact fun hgives => htail id hid (hgiving id hmem hgives)

/-- A new URB is live and not held. -/
theorem Served.append (h : Served stateOf returned ids) (hlive : stateOf id ≠ none)
    (hnot : stateOf id ≠ some .givingBack) : Served stateOf returned (ids ++ [id]) := by
  obtain ⟨rest, rfl, hreturned, hrest, htail⟩ := h
  refine ⟨rest ++ [id], List.append_assoc .., hreturned, ?_, ?_⟩
  · intro other hother
    rcases List.mem_append.mp hother with hmem | hmem
    · exact hrest other hmem
    · exact (List.mem_singleton.mp hmem).symm ▸ hlive
  · cases rest with
    | nil => exact fun _ hother => absurd hother List.not_mem_nil
    | cons first others =>
        intro other hother
        rcases List.mem_append.mp hother with hmem | hmem
        · exact htail other hmem
        · exact (List.mem_singleton.mp hmem).symm ▸ hnot

/-- The giveback thread takes a URB behind whose predecessors none is left. -/
theorem Served.take (h : Served stateOf returned ids) (hnodup : ids.Pairwise (· < ·))
    (hlive : stateOf id ≠ none)
    (hfirst : id ∈ ids → ∀ other ∈ ids, other < id → stateOf other = none)
    (hidle : ∀ other, stateOf other ≠ some .givingBack) :
    Served (Function.update stateOf id (some .givingBack)) returned ids := by
  obtain ⟨rest, rfl, hreturned, hrest, htail⟩ := h
  have hreturned' : ∀ other ∈ returned, other ≠ id := by
    rintro other hother rfl
    exact hlive (hreturned other hother)
  refine ⟨rest, rfl, fun other hother => ?_, fun other hother => ?_, fun other hother => ?_⟩
  · rw [Function.update_of_ne (hreturned' other hother)]
    exact hreturned other hother
  · by_cases heq : other = id
    · simp [heq]
    · rw [Function.update_of_ne heq]
      exact hrest other hother
  · cases rest with
    | nil => cases hother
    | cons first others =>
        have hlt : first < other :=
          (List.pairwise_cons.mp (List.pairwise_append.mp hnodup).2.1).1 other hother
        have hne : other ≠ id := by
          rintro rfl
          have hmem : other ∈ returned ++ first :: others :=
            List.mem_append_right _ (List.mem_cons_of_mem first hother)
          exact hrest first List.mem_cons_self (hfirst hmem first (by simp) hlt)
        rw [Function.update_of_ne hne]
        exact hidle other

/-- The URB that is held is given back. -/
theorem Served.giveback (h : Served stateOf returned ids) (hnodup : ids.Pairwise (· < ·))
    (hgiving : stateOf id = some .givingBack) :
    Served (Function.update stateOf id none) (returned ++ if id ∈ ids then [id] else []) ids := by
  obtain ⟨rest, rfl, hreturned, hrest, htail⟩ := h
  have hreturned' : ∀ other ∈ returned, Function.update stateOf id none other = none := by
    intro other hother
    by_cases heq : other = id
    · simp [heq]
    · rw [Function.update_of_ne heq]
      exact hreturned other hother
  have hothers : ∀ other ∈ rest, other ≠ id → Function.update stateOf id none other ≠ none := by
    intro other hother hne
    rw [Function.update_of_ne hne]
    exact hrest other hother
  have htail' : ∀ other ∈ rest.tail, other ≠ id := by
    rintro other hother rfl
    exact htail other hother hgiving
  have hnot : id ∉ returned := fun hmem => by simp [hreturned id hmem] at hgiving
  split_ifs with hid
  · obtain ⟨others, rfl⟩ : ∃ others, rest = id :: others := by
      have hmem := (List.mem_append.mp hid).resolve_left hnot
      cases rest with
      | nil => cases hmem
      | cons first others =>
          rcases List.mem_cons.mp hmem with rfl | hlater
          · exact ⟨others, rfl⟩
          · exact absurd rfl (htail' id hlater)
    refine ⟨others, by simp, ?_, fun other hother => ?_, fun other hother => ?_⟩
    · intro other hother
      rcases List.mem_append.mp hother with hmem | hmem
      · exact hreturned' other hmem
      · rw [List.mem_singleton.mp hmem, Function.update_self]
    · exact hothers other (List.mem_cons_of_mem id hother) (htail' other hother)
    · have hmem := List.mem_of_mem_tail hother
      rw [Function.update_of_ne (htail' other hmem)]
      exact htail other hmem
  · rw [List.append_nil]
    refine ⟨rest, rfl, hreturned', fun other hother => hothers other hother ?_,
      fun other hother => ?_⟩
    · rintro rfl
      exact hid (List.mem_append_right _ hother)
    · rw [Function.update_of_ne (htail' other hother)]
      exact htail other hother

end Served

section Queue

variable {input : Bool} {t u : Traced} {next : System} {action : Action} {id : CtxId}

/-- The thread is done with its URB, or has only to file it. -/
def settled (pc : EnqueuePc) : Prop := pc = .returned ∨ pc = .handling [] 0

/-- The invariant of the scheduled URBs. -/
structure Queued (input : Bool) (t : Traced) : Prop where
  listed : ∀ id ∈ t.ids, id ∈ t.submissions
  order : t.ids.Pairwise (· < ·)
  settled : ∀ id ∈ t.ids, settled (t.system.enqueuers id)
  unpending : ∀ id ∈ t.ids, t.system.dev.stateOf id ≠ some .pendingHidIn ∧
    t.system.dev.stateOf id ≠ some .pendingFeatureGet
  times : ∀ entry ∈ t.scheduled, t.system.dev.stateOf entry.id ≠ none →
    t.system.dev.readyTime entry.id = entry.readyTime
  next : ∀ entry ∈ t.scheduled, entry.readyTime ≤ nextIsoReady t.system.dev input
  spaced : ∀ a ∈ t.scheduled, ∀ b ∈ t.scheduled, a.id < b.id →
    a.readyTime + b.span input ≤ b.readyTime
  fromNow : ∀ entry ∈ t.scheduled, entry.now + entry.span input ≤ entry.readyTime
  served : Served t.system.dev.stateOf (t.givenBack.map Prod.fst) t.ids
  ready : ∀ entry ∈ t.scheduled, t.system.dev.stateOf entry.id = some .givingBack →
    entry.readyTime < t.system.clock + nsecPerUsec
  notBefore : ∀ entry ∈ t.scheduled, ∀ time, (entry.id, time) ∈ t.givenBack →
    entry.readyTime < time + nsecPerUsec

theorem span_pos (entry : Entry) (input : Bool) : 0 < entry.span input := by
  have hmax : 1000 ≤ audioDurationUs entry.urb input := le_max_right _ _
  unfold Entry.span nsecPerUsec
  omega

theorem le_base (next now : Nat) : next ≤ base next now ∧ now ≤ base next now := by
  unfold base
  split_ifs <;> omega

theorem mem_ids {entry : Entry} (h : entry ∈ t.scheduled) : entry.id ∈ t.ids :=
  List.mem_map_of_mem h

theorem exists_entry (h : id ∈ t.ids) : ∃ entry ∈ t.scheduled, entry.id = id :=
  List.mem_map.mp h

namespace Queued

/-- A step that schedules none of the URBs keeps their order and their distances. -/
theorem of_scheduled (queued : Queued input t) (hsubmissions : t.submissions ⊆ u.submissions)
    (hscheduled : u.scheduled = t.scheduled)
    (hsettled : ∀ id ∈ t.ids, IsoSchedule.settled (u.system.enqueuers id))
    (hunpending : ∀ id ∈ t.ids, u.system.dev.stateOf id ≠ some .pendingHidIn ∧
      u.system.dev.stateOf id ≠ some .pendingFeatureGet)
    (htimes : ∀ entry ∈ t.scheduled, u.system.dev.stateOf entry.id ≠ none →
      u.system.dev.readyTime entry.id = entry.readyTime)
    (hnext : nextIsoReady t.system.dev input ≤ nextIsoReady u.system.dev input)
    (hserved : Served u.system.dev.stateOf (u.givenBack.map Prod.fst) t.ids)
    (hready : ∀ entry ∈ t.scheduled, u.system.dev.stateOf entry.id = some .givingBack →
      entry.readyTime < u.system.clock + nsecPerUsec)
    (hnotBefore : ∀ entry ∈ t.scheduled, ∀ time, (entry.id, time) ∈ u.givenBack →
      entry.readyTime < time + nsecPerUsec) : Queued input u := by
  have hids : u.ids = t.ids := by rw [Traced.ids, hscheduled, Traced.ids]
  constructor
  · rw [hids]
    exact fun id hid => hsubmissions (queued.listed id hid)
  · rw [hids]
    exact queued.order
  · rwa [hids]
  · rwa [hids]
  · rwa [hscheduled]
  · rw [hscheduled]
    exact fun entry hentry => (queued.next entry hentry).trans hnext
  · rw [hscheduled]
    exact queued.spaced
  · rw [hscheduled]
    exact queued.fromNow
  · rwa [hids]
  · rwa [hscheduled]
  · rwa [hscheduled]

/-- A step that schedules none of the URBs, takes none and gives none back. -/
theorem of_same (queued : Queued input t) (hsubmissions : t.submissions ⊆ u.submissions)
    (hscheduled : u.scheduled = t.scheduled) (hgivenBack : u.givenBack = t.givenBack)
    (hsettled : ∀ id ∈ t.ids, IsoSchedule.settled (u.system.enqueuers id))
    (hstates : ∀ id ∈ t.ids, u.system.dev.stateOf id = t.system.dev.stateOf id ∨
      t.system.dev.stateOf id = some .active ∧ u.system.dev.stateOf id = some .pendingGiveback)
    (htimes : ∀ id ∈ t.ids, u.system.dev.readyTime id = t.system.dev.readyTime id)
    (hnext : nextIsoReady t.system.dev input ≤ nextIsoReady u.system.dev input)
    (hclock : t.system.clock ≤ u.system.clock) : Queued input u := by
  have hnone : ∀ id ∈ t.ids, u.system.dev.stateOf id = none ↔ t.system.dev.stateOf id = none := by
    intro id hid
    rcases hstates id hid with hsame | ⟨hbefore, hafter⟩
    · rw [hsame]
    · simp [hbefore, hafter]
  have hgiving : ∀ id ∈ t.ids, u.system.dev.stateOf id = some .givingBack →
      t.system.dev.stateOf id = some .givingBack := by
    intro id hid hgives
    rcases hstates id hid with hsame | ⟨-, hafter⟩
    · rwa [← hsame]
    · simp [hafter] at hgives
  refine queued.of_scheduled hsubmissions hscheduled hsettled ?_ ?_ hnext ?_ ?_ ?_
  · intro id hid
    rcases hstates id hid with hsame | ⟨-, hafter⟩
    · rw [hsame]
      exact queued.unpending id hid
    · simp [hafter]
  · intro entry hentry hlive
    have hid := mem_ids hentry
    rw [htimes entry.id hid]
    exact queued.times entry hentry fun hfreed => hlive ((hnone entry.id hid).mpr hfreed)
  · rw [hgivenBack]
    exact queued.served.congr hnone hgiving
  · intro entry hentry hgives
    have hready := queued.ready entry hentry (hgiving entry.id (mem_ids hentry) hgives)
    omega
  · rw [hgivenBack]
    exact queued.notBefore

/-- A URB is scheduled behind all that were scheduled before. -/
theorem schedule (queued : Queued input t) (life : Lifecycle.Inv t.system)
    (serial : Serial input t) (h : Threads.step t.system (.schedule id) = some u.system)
    (hpc : t.system.enqueuers id = .scheduling input) {context : UrbContext}
    (hcontext : t.system.dev.contexts id = some context) (hmem : id ∈ t.submissions)
    (hsubmissions : t.submissions ⊆ u.submissions) (hgivenBack : u.givenBack = t.givenBack)
    (hscheduled : u.scheduled =
      t.scheduled ++ [⟨id, context.urb, t.system.clock, u.system.dev.readyTime id⟩]) :
    Queued input u := by
  obtain ⟨direction, hdirection, hpcs, hstates, htimes, htime, hnext⟩ := schedule_cases h hcontext
  obtain rfl : direction = input := by
    rw [hpc] at hdirection
    exact (EnqueuePc.scheduling.inj hdirection).symm
  have howns : owns (t.system.enqueuers id) = true := by rw [hpc, owns]
  have hactive := life.stateOf_of_owns howns
  have hids : u.ids = t.ids ++ [id] := by rw [Traced.ids, hscheduled, List.map_append]; rfl
  have hfresh : ∀ other ∈ t.ids, other ≠ id := by
    rintro other hother rfl
    rcases queued.settled other hother with hreturned | hhandled
    · cases hpc.symm.trans hreturned
    · cases hpc.symm.trans hhandled
  have hlast : ∀ other ∈ t.ids, other < id := by
    intro other hother
    refine Nat.lt_of_le_of_ne (Nat.le_of_not_lt fun hlt => ?_) (hfresh other hother)
    have hdone := serial.earlier id hmem other (queued.listed other hother) hlt
    cases howns.symm.trans hdone
  have hclock : u.system.clock = t.system.clock := (clock_le_of_step h).2 (by simp)
  let entry : Entry := ⟨id, context.urb, t.system.clock, u.system.dev.readyTime id⟩
  have hspan : base (nextIsoReady t.system.dev direction) t.system.clock + entry.span direction ≤
      entry.readyTime := by
    have hadmitted := serial.admitted id hmem (by rw [hpc, unscheduled]) context hcontext
    have hscale := Nat.mul_le_mul_right nsecPerUsec (audioDurationUs_le hadmitted)
    change _ ≤ u.system.dev.readyTime id
    rw [htime]
    exact Nat.add_le_add_left hscale _
  have hbase := le_base (nextIsoReady t.system.dev direction) t.system.clock
  have hmove : nextIsoReady u.system.dev direction = entry.readyTime := by
    rw [hnext, Function.update_self]
  have hentry : ∀ other ∈ u.scheduled, other ∈ t.scheduled ∨ other = entry := by
    intro other hother
    rw [hscheduled] at hother
    exact (List.mem_append.mp hother).imp_right List.mem_singleton.mp
  have hbehind : ∀ other ∈ t.scheduled,
      other.readyTime + entry.span direction ≤ entry.readyTime := by
    intro other hother
    have hle := queued.next other hother
    omega
  constructor
  · rw [hids]
    intro other hother
    refine hsubmissions ((List.mem_append.mp hother).elim (queued.listed other) fun hnew => ?_)
    rwa [List.mem_singleton.mp hnew]
  · rw [hids]
    refine List.pairwise_append.mpr ⟨queued.order, List.pairwise_singleton _ _, ?_⟩
    intro other hother new hnew
    rw [List.mem_singleton.mp hnew]
    exact hlast other hother
  · rw [hids, hpcs]
    intro other hother
    rcases List.mem_append.mp hother with hold | hnew
    · rw [Function.update_of_ne (hfresh other hold)]
      exact queued.settled other hold
    · rw [List.mem_singleton.mp hnew, Function.update_self]
      exact .inr rfl
  · rw [hids, hstates]
    intro other hother
    rcases List.mem_append.mp hother with hold | hnew
    · exact queued.unpending other hold
    · simp [List.mem_singleton.mp hnew, hactive]
  · intro other hother hlive
    rcases hentry other hother with hold | rfl
    · rw [htimes other.id (hfresh other.id (mem_ids hold))]
      exact queued.times other hold (hstates ▸ hlive)
    · rfl
  · intro other hother
    rw [hmove]
    rcases hentry other hother with hold | rfl
    · exact (Nat.le_add_right _ _).trans (hbehind other hold)
    · exact le_rfl
  · intro a ha b hb hlt
    rcases hentry a ha with hold | rfl
    · rcases hentry b hb with hold' | rfl
      · exact queued.spaced a hold b hold' hlt
      · exact hbehind a hold
    · rcases hentry b hb with hold' | rfl
      · exact absurd (hlast b.id (mem_ids hold')) (Nat.lt_asymm hlt)
      · exact absurd hlt (Nat.lt_irrefl _)
  · intro other hother
    rcases hentry other hother with hold | rfl
    · exact queued.fromNow other hold
    · exact (Nat.add_le_add_right hbase.2 _).trans hspan
  · rw [hids, hgivenBack, hstates]
    exact queued.served.append (by simp [hactive]) (by simp [hactive])
  · intro other hother hgives
    rw [hstates] at hgives
    rcases hentry other hother with hold | rfl
    · rw [hclock]
      exact queued.ready other hold hgives
    · cases hactive.symm.trans hgives
  · rw [hgivenBack]
    intro other hother time htime
    rcases hentry other hother with hold | rfl
    · exact queued.notBefore other hold time htime
    · have hfreed : t.system.dev.stateOf id = none := by
        obtain ⟨rest, -, hreturned, -⟩ := queued.served
        exact hreturned id (List.mem_map_of_mem htime)
      cases hactive.symm.trans hfreed

/-- When the giveback thread holds nothing, all URBs before the first timed entry were given
back. -/
theorem stateOf_before_first (queued : Queued input t) (life : Lifecycle.Inv t.system)
    (serial : Serial input t) (timed : TimedOrdered t.system.dev) {rest : List CtxId}
    (hcompleted : t.system.dev.completedUrbs = id :: rest)
    (hnotGiving : ∀ other, t.system.dev.stateOf other ≠ some .givingBack) (hid : id ∈ t.ids)
    {other : CtxId} (hother : other ∈ t.ids) (hlt : other < id) :
    t.system.dev.stateOf other = none := by
  have hstate : t.system.dev.stateOf id = some .pendingGiveback :=
    (life.lists.completed.mem_iff id).mp (by simp [hcompleted])
  obtain ⟨entry, hentry, rfl⟩ := exists_entry hid
  obtain ⟨before, hbefore, rfl⟩ := exists_entry hother
  cases hbeforeState : t.system.dev.stateOf before.id with
  | none => rfl
  | some state =>
      have htime := queued.times entry hentry (by simp [hstate])
      have htime' := queued.times before hbefore (by simp [hbeforeState])
      have hspaced := queued.spaced before hbefore entry hentry hlt
      have hfromNow := queued.fromNow before hbefore
      have hspan := span_pos entry input
      have hspan' := span_pos before input
      cases state with
      | active =>
          have howns := (life.owned before.id).mpr hbeforeState
          have hdone := serial.earlier before.id (queued.listed _ hother) entry.id
            (queued.listed _ hid) hlt
          cases howns.symm.trans hdone
      | pendingHidIn => exact absurd hbeforeState (queued.unpending _ hother).1
      | pendingFeatureGet => exact absurd hbeforeState (queued.unpending _ hother).2
      | givingBack => exact absurd hbeforeState (hnotGiving before.id)
      | pendingGiveback =>
          -- it is a later entry of the list, so it is not ready earlier
          have hmem := (life.lists.completed.mem_iff before.id).mpr hbeforeState
          rw [hcompleted] at hmem
          have hlater : before.id ∈ rest :=
            (List.mem_cons.mp hmem).resolve_left (Nat.ne_of_lt hlt)
          rw [TimedOrdered, hcompleted] at timed
          have hle := (List.pairwise_cons.mp timed).1 before.id hlater
          rw [htime, htime'] at hle
          have := hle (by omega) (by omega)
          omega

/-- The first timed entry is taken, and all URBs before it were given back. -/
theorem take (queued : Queued input t) (life : Lifecycle.Inv t.system) (serial : Serial input t)
    (timed : TimedOrdered t.system.dev) (h : Threads.step t.system .take = some u.system)
    (hsubmissions : t.submissions ⊆ u.submissions) (hscheduled : u.scheduled = t.scheduled)
    (hgivenBack : u.givenBack = t.givenBack) : Queued input u := by
  obtain ⟨id, rest, hcompleted, hready, hidle, hpcs, hstates, htimes⟩ := take_cases life h
  have hclock : u.system.clock = t.system.clock := (clock_le_of_step h).2 (by simp)
  have hstate : t.system.dev.stateOf id = some .pendingGiveback :=
    (life.lists.completed.mem_iff id).mp (by simp [hcompleted])
  have hnotGiving : ∀ other, t.system.dev.stateOf other ≠ some .givingBack := by
    intro other hgiving
    have hholds := (life.giving other).mpr hgiving
    simp [hidle, holds] at hholds
  have hfirst : id ∈ t.ids → ∀ other ∈ t.ids, other < id → t.system.dev.stateOf other = none :=
    fun hid _ hother hlt =>
      queued.stateOf_before_first life serial timed hcompleted hnotGiving hid hother hlt
  refine queued.of_scheduled hsubmissions hscheduled ?_ ?_ ?_ ?_ ?_ ?_ ?_
  · rw [hpcs]
    exact queued.settled
  · rw [hstates]
    intro other hother
    by_cases heq : other = id
    · simp [heq]
    · rw [Function.update_of_ne heq]
      exact queued.unpending other hother
  · rw [hstates, htimes]
    intro entry hentry hlive
    refine queued.times entry hentry ?_
    by_cases heq : entry.id = id
    · simp [heq, hstate]
    · rwa [Function.update_of_ne heq] at hlive
  · rw [nextIsoReady_of_step h (by simp) rfl]
  · rw [hgivenBack, hstates]
    exact queued.served.take queued.order (by simp [hstate]) hfirst hnotGiving
  · rw [hstates, hclock]
    intro entry hentry hgives
    by_cases heq : entry.id = id
    · rw [← queued.times entry hentry (by simp [heq, hstate]), heq]
      exact hready
    · rw [Function.update_of_ne heq] at hgives
      exact queued.ready entry hentry hgives
  · rw [hgivenBack]
    exact queued.notBefore

/-- The URB that is held is given back. -/
theorem giveback (queued : Queued input t) (life : Lifecycle.Inv t.system)
    (h : Threads.step t.system .giveback = some u.system)
    (hsubmissions : t.submissions ⊆ u.submissions) (hscheduled : u.scheduled = t.scheduled)
    (hgivenBack : u.givenBack = t.givenBack ++ givenBackBy t .giveback) : Queued input u := by
  obtain ⟨id, hheld, hpcs, hstates, htimes⟩ := giveback_cases h
  have hclock : u.system.clock = t.system.clock := (clock_le_of_step h).2 (by simp)
  have hgiving := (life.giving id).mp hheld
  have hreturned : givenBackBy t .giveback =
      if id ∈ t.ids then [(id, t.system.clock)] else [] := by
    simp only [givenBackBy, hheld, Option.toList_some, List.filterMap_cons, List.filterMap_nil]
    split_ifs <;> rfl
  have hothers : ∀ other, other ≠ id →
      u.system.dev.stateOf other = t.system.dev.stateOf other := by
    intro other hne
    rw [hstates, Function.update_of_ne hne]
  have hself : u.system.dev.stateOf id = none := by rw [hstates, Function.update_self]
  refine queued.of_scheduled hsubmissions hscheduled ?_ ?_ ?_ ?_ ?_ ?_ ?_
  · rw [hpcs]
    exact queued.settled
  · intro other hother
    by_cases heq : other = id
    · simp [heq, hself]
    · rw [hothers other heq]
      exact queued.unpending other hother
  · intro entry hentry hlive
    have hne : entry.id ≠ id := fun heq => hlive (heq ▸ hself)
    rw [htimes entry.id hne]
    exact queued.times entry hentry (hothers entry.id hne ▸ hlive)
  · rw [nextIsoReady_of_step h (by simp) rfl]
  · have hserved := queued.served.giveback queued.order hgiving
    rw [hgivenBack, hreturned, hstates, List.map_append]
    split_ifs at hserved ⊢ <;> exact hserved
  · rw [hclock]
    intro entry hentry hgives
    have hne : entry.id ≠ id := by
      intro heq
      rw [heq, hself] at hgives
      cases hgives
    exact queued.ready entry hentry (hothers entry.id hne ▸ hgives)
  · rw [hgivenBack, hreturned]
    intro entry hentry time hmem
    rcases List.mem_append.mp hmem with hold | hnew
    · exact queued.notBefore entry hentry time hold
    · split_ifs at hnew
      · obtain ⟨heq, rfl⟩ := Prod.mk.inj (List.mem_singleton.mp hnew)
        exact queued.ready entry hentry (heq ▸ hgiving)
      · cases hnew

/-- Of its thread's steps, only filing it touches a scheduled URB. -/
theorem own_of_settled {s : System} (h : Threads.step s action = some next)
    (hpc : IsoSchedule.settled (s.enqueuers id))
    (hown : continues action = some (.enqueuer id)) : action = .file id := by
  cases action with
  | file j =>
      cases hown
      rfl
  | handle j | call j alloc | defer j | request j alloc | refile j | schedule j =>
      cases hown
      rcases hpc with hpc | hpc <;> simp [Threads.step, hpc] at h
  | _ => cases hown

theorem elsewhere (queued : Queued input t) (life : Lifecycle.Inv t.system)
    (serial : Serial input t) (ok : ScheduleGuard input t action)
    (h : Threads.step t.system action = some u.system) (htake : action ≠ .take)
    (hgiveback : action ≠ .giveback)
    (hnext : nextIsoReady t.system.dev input ≤ nextIsoReady u.system.dev input)
    (hsubmissions : t.submissions ⊆ u.submissions) (hscheduled : u.scheduled = t.scheduled)
    (hgivenBack : u.givenBack = t.givenBack) : Queued input u := by
  have hlt : ∀ id ∈ t.ids, id < t.system.dev.submitted := fun id hid =>
    serial.submitted id (queued.listed id hid)
  have hsame : ∀ id ∈ t.ids, action ≠ .file id →
      u.system.enqueuers id = t.system.enqueuers id ∧
        u.system.dev.stateOf id = t.system.dev.stateOf id ∧
          u.system.dev.readyTime id = t.system.dev.readyTime id := by
    intro id hid hfile
    have hown : continues action ≠ some (.enqueuer id) := fun hown =>
      hfile (own_of_settled h (queued.settled id hid) hown)
    refine ⟨enqueuers_of_other h (hlt id hid) hown, timing_of_step life h (hlt id hid)
      (queued.unpending id hid).1 (queued.unpending id hid).2 (connected_of_guard ok) hown ?_ htake
      hgiveback⟩
    rintro status rfl
    exact ok.2 hid
  have hfiled : ∀ id ∈ t.ids, action = .file id → u.system.enqueuers id = .returned ∧
      (t.system.dev.stateOf id = some .active ∧ u.system.dev.stateOf id = some .pendingGiveback) ∧
        u.system.dev.readyTime id = t.system.dev.readyTime id := by
    rintro id hid rfl
    obtain ⟨ret, hpc, hpcs, hstates, htimes⟩ := file_cases h
    have hactive : t.system.dev.stateOf id = some .active :=
      life.stateOf_of_owns (by rw [hpc, owns])
    refine ⟨by rw [hpcs, Function.update_self], ⟨hactive, ?_⟩, by rw [htimes]⟩
    rw [hstates, Function.update_self, hactive]
    rfl
  refine queued.of_same hsubmissions hscheduled hgivenBack (fun id hid => ?_) (fun id hid => ?_)
    (fun id hid => ?_) hnext (clock_le_of_step h).1
  · by_cases hfile : action = .file id
    · exact .inl (hfiled id hid hfile).1
    · rw [(hsame id hid hfile).1]
      exact queued.settled id hid
  · by_cases hfile : action = .file id
    · exact .inr (hfiled id hid hfile).2.1
    · exact .inl (hsame id hid hfile).2.1
  · by_cases hfile : action = .file id
    · exact (hfiled id hid hfile).2.2
    · exact (hsame id hid hfile).2.2

end Queued

end Queue

section Runs

variable {input : Bool} {t u : Traced} {action : Action}

structure Inv (input : Bool) (t : Traced) : Prop where
  life : Lifecycle.Inv t.system
  timed : TimedOrdered t.system.dev
  serial : Serial input t
  queued : Queued input t

/-- Scheduling moves the time from which the next URB is counted forward only. -/
theorem nextIsoReady_le_of_schedule {s next : System} {id : CtxId} (life : Lifecycle.Inv s)
    (h : Threads.step s (.schedule id) = some next) (input : Bool) :
    nextIsoReady s.dev input ≤ nextIsoReady next.dev input := by
  have howns : owns (s.enqueuers id) = true := by
    cases steps_of_step h with
    | schedule id direction hpc => rw [hpc, owns]
  obtain ⟨context, hcontext⟩ := Option.isSome_iff_exists.mp
    (isSome_of_stateOf (life.stateOf_of_owns howns))
  obtain ⟨direction, -, -, -, -, htime, hnext⟩ := schedule_cases h hcontext
  rw [hnext]
  by_cases heq : input = direction
  · rw [heq, Function.update_self, htime]
    exact (le_base _ s.clock).1.trans (Nat.le_add_right _ _)
  · rw [Function.update_of_ne heq]

theorem givenBackBy_eq_nil (h : action ≠ .giveback) : givenBackBy t action = [] := by
  cases action <;> first | rfl | exact absurd rfl h

theorem scheduledBy_eq_nil {next : System} (h : ∀ id, action ≠ .schedule id) :
    scheduledBy input t next action = [] := by
  obtain hnil | ⟨id, -, haction, -⟩ := scheduledBy_cases input t next action
  · exact hnil
  · exact absurd haction (h id)

theorem Inv.step (inv : Inv input t) (ok : ScheduleGuard input t action)
    (h : step input t action = some u) : Inv input u := by
  have serial := inv.serial.step inv.life ok h
  obtain ⟨next, hnext, hu⟩ := step_eq_some h
  have hsystem : u.system = next := by rw [hu]
  have hsubmissions : t.submissions ⊆ u.submissions := by
    rw [hu]
    exact List.subset_append_left _ _
  have hscheduled : u.scheduled = t.scheduled ++ scheduledBy input t next action := by rw [hu]
  have hgivenBack : u.givenBack = t.givenBack ++ givenBackBy t action := by rw [hu]
  rw [← hsystem] at hnext hscheduled
  have life := inv.life.of_effect (effect_of_cancelGuard inv.life ok.1 hnext)
  refine ⟨life, timedOrdered_of_step inv.life hnext inv.timed, serial, ?_⟩
  by_cases hgiveback : action = .giveback
  · subst hgiveback
    rw [scheduledBy_eq_nil (by simp), List.append_nil] at hscheduled
    exact inv.queued.giveback inv.life hnext hsubmissions hscheduled hgivenBack
  rw [givenBackBy_eq_nil hgiveback, List.append_nil] at hgivenBack
  by_cases htake : action = .take
  · subst htake
    rw [scheduledBy_eq_nil (by simp), List.append_nil] at hscheduled
    exact inv.queued.take inv.life inv.serial inv.timed hnext hsubmissions hscheduled hgivenBack
  have hnextReady : nextIsoReady t.system.dev input ≤ nextIsoReady u.system.dev input := by
    by_cases hschedule : ∃ id, action = .schedule id
    · obtain ⟨id, rfl⟩ := hschedule
      exact nextIsoReady_le_of_schedule inv.life hnext input
    · rw [nextIsoReady_of_step hnext (fun id heq => hschedule ⟨id, heq⟩) (connected_of_guard ok)]
  obtain hnil | ⟨id, context, rfl, hpc, hcontext, hmem, heq⟩ :=
    scheduledBy_cases input t u.system action
  · rw [hnil, List.append_nil] at hscheduled
    exact inv.queued.elsewhere inv.life inv.serial ok hnext htake hgiveback hnextReady hsubmissions
      hscheduled hgivenBack
  · rw [heq] at hscheduled
    exact inv.queued.schedule inv.life inv.serial hnext hpc hcontext hmem hsubmissions hgivenBack
      hscheduled

theorem Inv.new {s : System} (life : Lifecycle.Inv s) (timed : TimedOrdered s.dev) :
    Inv input (Traced.new s) where
  life := life
  timed := timed
  serial := by constructor <;> simp [Traced.new]
  queued := by
    constructor <;> simp [Traced.new, Traced.ids]
    exact ⟨[], rfl, by simp, by simp, by simp⟩

theorem consecutive (queued : Queued input t) :
    Consecutive Entry.readyTime (Entry.span input) t.scheduled :=
  List.Pairwise.imp_of_mem (fun {a b} ha hb hlt => queued.spaced a ha b hb hlt)
    (List.pairwise_map.mp queued.order)

theorem sum_audioBytes_le (entries : List Entry) (input : Bool) :
    (entries.map fun entry => audioBytes entry.urb input).sum * 1000000 ≤
      audioBytesPerMs input * (entries.map (Entry.span input)).sum := by
  induction entries with
  | nil => simp
  | cons entry rest ih =>
      have hentry := audioBytes_le_rate entry.urb input
      simp only [List.map_cons, List.sum_cons, Nat.add_mul, Nat.mul_add]
      exact Nat.add_le_add hentry ih

/-- What was given back by some time was played since the first URB was scheduled. -/
theorem sum_span_le (queued : Queued input t) {first : Entry} (hfirst : first ∈ t.scheduled.head?)
    (time : Nat) :
    ((t.completedBy time).map (Entry.span input)).sum ≤ time + 999 - first.now := by
  have hsub : (t.completedBy time).Sublist t.scheduled := List.filter_sublist
  have hready : ∀ entry ∈ t.completedBy time, entry.readyTime ≤ time + 999 := by
    intro entry hentry
    obtain ⟨hmem, hreturned⟩ := List.mem_filter.mp hentry
    obtain ⟨⟨id, returned⟩, hgiven, hby⟩ := List.any_eq_true.mp hreturned
    simp only [Bool.and_eq_true, beq_iff_eq, decide_eq_true_eq] at hby
    obtain ⟨rfl, hle⟩ := hby
    have hlt := queued.notBefore entry hmem returned hgiven
    simp only [nsecPerUsec] at hlt
    omega
  have hnow : ∀ entry ∈ t.completedBy time, first.now + entry.span input ≤ entry.readyTime := by
    intro entry hentry
    have hmem := hsub.subset hentry
    obtain ⟨rest, hsplit⟩ : ∃ rest, t.scheduled = first :: rest := by
      cases hscheduled : t.scheduled with
      | nil => simp [hscheduled] at hfirst
      | cons head rest =>
          rw [hscheduled] at hfirst
          exact ⟨rest, by rw [Option.some.inj hfirst]⟩
    have hfromNow := queued.fromNow first (by simp [hsplit])
    rw [hsplit] at hmem
    rcases List.mem_cons.mp hmem with rfl | hlater
    · exact hfromNow
    · have hconsecutive := consecutive queued
      rw [hsplit] at hconsecutive
      have := (List.pairwise_cons.mp hconsecutive).1 entry hlater
      omega
  cases hcompleted : t.completedBy time with
  | nil => simp
  | cons entry rest =>
      have hle : first.now ≤ time + 999 := by
        have hmem : entry ∈ t.completedBy time := by simp [hcompleted]
        have := hready entry hmem
        have := hnow entry hmem
        omega
      have hsum := Consecutive.sum_le ((consecutive queued).sublist hsub) hle hnow hready
      rw [hcompleted] at hsum
      omega

theorem realTime_of_inv (inv : Inv input t) : RealTime input t where
  submissionOrder := by
    refine List.sublist_of_subperm_of_pairwise ?_ inv.queued.order inv.serial.increasing
    exact List.subperm_of_subset (inv.queued.order.imp Nat.ne_of_lt) inv.queued.listed
  increasing := (consecutive inv.queued).imp fun {a b} hspaced => by
    have := span_pos b input
    omega
  spaced := consecutive inv.queued
  fromNow := inv.queued.fromNow
  inOrder := by
    obtain ⟨rest, hids, -⟩ := inv.queued.served
    exact ⟨rest, hids.symm⟩
  notBefore := inv.queued.notBefore
  bytes := by
    intro first hfirst time
    have hspans := sum_span_le inv.queued hfirst time
    exact (sum_audioBytes_le _ input).trans (Nat.mul_le_mul_left _ hspans)

/-- From any state that the driver reaches, the URBs of one direction are given back in order,
each at least its own playing time behind the one before, and never more than a microsecond
early. -/
theorem realTime_of_guardedRun {before actions : List Action} {s : System} {t : Traced}
    (reached : GuardedRun Threads.step CancelGuard .init before s)
    (run : GuardedRun (step input) (ScheduleGuard input) (Traced.new s) actions t) :
    RealTime input t := by
  obtain ⟨life, timed⟩ : Lifecycle.Inv s ∧ TimedOrdered s.dev :=
    reached.invariant (I := fun s => Lifecycle.Inv s ∧ TimedOrdered s.dev)
      (fun _ _ _ inv ok h => ⟨inv.1.of_effect (effect_of_cancelGuard inv.1 ok h),
        timedOrdered_of_step inv.1 h inv.2⟩)
      ⟨Lifecycle.Inv.init, .nil⟩
  exact realTime_of_inv (run.invariant (fun _ _ _ inv ok h => inv.step ok h) (.new life timed))

end Runs

section Examples

instance (s : System) (action : Action) : Decidable (CancelGuard s action) :=
  match action with
  | .dequeue _ _ => inferInstanceAs (Decidable (_ = false))
  | .tick _ | .submit _ _ _ | .handle _ | .call _ _ | .defer _ | .request _ _ | .refile _
  | .schedule _ | .file _ | .write _ _ _ | .read _ | .connect | .disconnect | .setProfile _ _
  | .openFile | .release | .resume _ | .hubControl _ _ _ | .stop | .sleep | .wake | .take
  | .deliver | .place _ | .giveback => inferInstanceAs (Decidable True)

instance (input : Bool) (t : Traced) (action : Action) :
    Decidable (ScheduleGuard input t action) :=
  match action with
  | .submit urb _ _ =>
      inferInstanceAs (Decidable (_ ∧ (isoOf urb input → _ ∧ ∀ id ∈ _, _ = false)))
  | .dequeue _ _ => inferInstanceAs (Decidable (_ ∧ _ ∉ _))
  | .disconnect | .resume .disconnect => inferInstanceAs (Decidable (_ ∧ False))
  | .tick _ | .handle _ | .call _ _ | .defer _ | .request _ _ | .refile _ | .schedule _ | .file _
  | .write _ _ _ | .read _ | .connect | .setProfile _ _ | .openFile | .release
  | .resume (.featureReply _) | .resume .resetUsb | .hubControl _ _ _ | .stop | .sleep | .wake
  | .take | .deliver | .place _ | .giveback => inferInstanceAs (Decidable (_ ∧ True))

/-- Two audio URBs and a request that overtakes them. -/
def mixedRun : List Action :=
  enqueueAudio 0 ++ enqueueAudio 1 ++
    [.submit setInterfaceUrb true 0, .handle 2, .call 2 true, .call 2 true, .file 2, .take,
      .deliver, .giveback] ++
    [.tick 1000000, .take, .deliver, .place true, .place true, .giveback] ++
    [.tick 2000000, .take, .deliver, .place true, .place true, .giveback]

theorem guardedRun_mixed : ∃ t, GuardedRun (step false) (ScheduleGuard false) (Traced.new .init)
    mixedRun t :=
  exists_guardedRun_of_execute (by decide +kernel)

theorem realTime_mixed : ∃ t, GuardedRun (step false) (ScheduleGuard false) (Traced.new .init)
    mixedRun t ∧ RealTime false t := by
  obtain ⟨t, run⟩ := guardedRun_mixed
  exact ⟨t, run, realTime_of_guardedRun (.nil _) run⟩

/-- A millisecond of audio for the speaker. -/
def oneMsUrb : Urb :=
  { audioUrb with
    transferBufferLength := 384
    transferBuffer := some (.replicate 384 0)
    isoFrameDesc := [⟨0, 384, 0, 0⟩] }

/-- Three milliseconds from the microphone. -/
def threeMsInUrb : Urb :=
  { audioUrb with
    endpoint := 2
    dirIn := true
    isoFrameDesc := [⟨0, 192, 0, 0⟩, ⟨0, 192, 0, 0⟩, ⟨0, 192, 0, 0⟩] }

def earlyRun : List Action :=
  [.submit oneMsUrb true 0, .handle 0, .schedule 0, .tick 999001, .file 0, .take, .deliver,
    .place true, .place true, .giveback]

/-- A microphone URB is cancelled while its enqueue is under way, and scheduled on the list. -/
def cancelledRun : List Action :=
  [.submit threeMsInUrb true 0, .handle 0, .dequeue 0 (-104)] ++ enqueueAudio 1 ++ [.schedule 0] ++
    enqueueAudio 2 ++ [.tick 2000000, .take, .deliver, .place true, .place true, .giveback]

/-- A URB is given back 999 ns before its ready time, when less than its audio was played; and
a cancellation of the other direction lets a URB overtake the one before it. -/
theorem early_and_overtaking :
    (∃ t, GuardedRun (step false) (ScheduleGuard false) (Traced.new .init) earlyRun t ∧
      (∃ entry ∈ t.scheduled, ∃ returned ∈ t.givenBack,
        returned.1 = entry.id ∧ returned.2 < entry.readyTime) ∧
      ∃ first ∈ t.scheduled.head?, audioBytesPerMs false * (999001 - first.now) <
        ((t.completedBy 999001).map fun entry => audioBytes entry.urb false).sum * 1000000) ∧
    ∃ t, Run (step false) (Traced.new .init) cancelledRun t ∧ t.ids = [1, 2] ∧
      t.givenBack.map Prod.fst = [2] :=
  ⟨exists_guardedRun_of_any (by decide +kernel), exists_run_of_execute (by decide +kernel)⟩

end Examples

end VirtualDualSense.Hcd.IsoSchedule
