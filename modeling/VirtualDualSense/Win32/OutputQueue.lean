import VirtualDualSense.Win32.HandleCoherence

/-!
# The output queue of the transport

Reports are queued by the bridge and written by the output thread. An audio report makes
room for itself at the cost of older audio reports, from the middle of the queue. No other
report is lost, the order is that of acceptance, and the counters account for every accepted
report.

## Implementation notes

The transport is recorded together with the reports it has accepted, the reports the output
thread has written and the bytes that the device got.
-/

namespace VirtualDualSense.Win32.OutputQueue

open Lib.Runs HidPaths HidTransport

section History

structure Traced where
  transport : Transport
  accepted : List (List UInt8)
  written : List (List UInt8)
  device : List UInt8

def Traced.new (transport : Transport) : Traced := ⟨transport, [], [], []⟩

/-- `make_output_write`. -/
def outputBuffer (t : Transport) (report : List UInt8) : List UInt8 :=
  report ++ List.replicate (t.outputReportLength - report.length) 0

/-- The report that a step accepts. -/
def acceptedBy (t : Transport) : Action → List (List UInt8)
  | .enqueueOutputReport report =>
      if (t.outputQueue.enqueue (outputBuffer t report)).2 then [outputBuffer t report] else []
  | _ => []

/-- The report whose write a step completes. -/
def writtenBy (t : Transport) : Action → List (List UInt8)
  | .writerCompletes =>
      match t.writer with
      | .writing buffer _ => [buffer]
      | _ => []
  | _ => []

/-- The bytes that a step hands to the device. -/
def deviceBy (t : Transport) : Action → List UInt8
  | .writerWrites count =>
      match t.writer with
      | .writing buffer offset => (buffer.drop offset).take count
      | _ => []
  | _ => []

def tracedStep (s : Traced) (action : Action) : Option Traced :=
  (step s.transport action).map fun t =>
    { transport := t
      accepted := s.accepted ++ acceptedBy s.transport action
      written := s.written ++ writtenBy s.transport action
      device := s.device ++ deviceBy s.transport action }

/-- The report that is being written. -/
def active : WriterPc → List (List UInt8)
  | .writing buffer _ => [buffer]
  | _ => []

/-- The bytes of it that are written. -/
def activeBytes : WriterPc → List UInt8
  | .writing buffer offset => buffer.take offset
  | _ => []

end History

section Queue

variable {q q' q'' : HidTransport.OutputQueue} {buffer : List UInt8}

/-- Some audio reports were dropped and counted. -/
structure Coalesced (q q' : HidTransport.OutputQueue) : Prop where
  sublist : q'.writes.Sublist q.writes
  others : q'.writes.filter (!isAudio ·) = q.writes.filter (!isAudio ·)
  counted : q'.audioCoalescedCount + q'.writes.length = q.audioCoalescedCount + q.writes.length
  queued : q'.queuedCount = q.queuedCount

theorem Coalesced.refl (q : HidTransport.OutputQueue) : Coalesced q q :=
  ⟨.refl _, rfl, rfl, rfl⟩

theorem Coalesced.trans (first : Coalesced q q') (second : Coalesced q' q'') : Coalesced q q'' where
  sublist := second.sublist.trans first.sublist
  others := second.others.trans first.others
  counted := second.counted.trans first.counted
  queued := second.queued.trans first.queued

theorem filter_eraseP {α : Type*} {p : α → Bool} (items : List α) :
    (items.eraseP p).filter (!p ·) = items.filter (!p ·) := by
  induction items with
  | nil => rfl
  | cons item rest ih =>
      cases hitem : p item with
      | true => simp [hitem]
      | false => simp [hitem, ih]

/-- Only audio reports are dropped. -/
theorem Coalesced.countP (coalesced : Coalesced q q') :
    q'.writes.countP isAudio + q.writes.length = q.writes.countP isAudio + q'.writes.length := by
  have hothers := congrArg List.length coalesced.others
  have hbefore := List.length_eq_length_filter_add (l := q.writes) isAudio
  have hafter := List.length_eq_length_filter_add (l := q'.writes) isAudio
  rw [List.countP_eq_length_filter, List.countP_eq_length_filter]
  omega

/-- The oldest audio report goes, if there is one. -/
theorem coalesceOldestAudio_eq_some (h : q.coalesceOldestAudio = some q') :
    Coalesced q q' ∧ q'.writes.length + 1 = q.writes.length := by
  obtain ⟨hany, heq⟩ := Option.ite_none_right_eq_some.mp h
  cases heq
  obtain ⟨buffer, hmem, haudio⟩ := List.any_eq_true.mp hany
  have hlength := List.length_eraseP_of_mem hmem haudio
  have hpositive := List.length_pos_of_mem hmem
  refine ⟨⟨List.eraseP_sublist, filter_eraseP _, ?_, rfl⟩, ?_⟩
  · dsimp only
    omega
  · dsimp only
    omega

theorem coalesceOldestAudio_eq_none (h : q.coalesceOldestAudio = none) :
    q.writes.countP isAudio = 0 := by
  rw [List.countP_eq_zero]
  intro buffer hmem haudio
  have hany : q.writes.any isAudio = true := List.any_eq_true.mpr ⟨buffer, hmem, haudio⟩
  rw [HidTransport.OutputQueue.coalesceOldestAudio, if_pos hany] at h
  cases h

/-- Room for one more audio report. -/
theorem coalesced_coalesceAudio (queuedAudio : Nat) (q : HidTransport.OutputQueue)
    (hcount : q.writes.countP isAudio = queuedAudio) :
    Coalesced q (q.coalesceAudio queuedAudio) ∧
      (q.coalesceAudio queuedAudio).writes.countP isAudio < kMaxQueuedHidAudioOutputWrites := by
  induction queuedAudio generalizing q with
  | zero =>
      refine ⟨.refl q, ?_⟩
      rw [HidTransport.OutputQueue.coalesceAudio, hcount]
      decide
  | succ queuedAudio ih =>
      rw [HidTransport.OutputQueue.coalesceAudio]
      split_ifs with hmany
      · cases holdest : q.coalesceOldestAudio with
        | none =>
            rw [coalesceOldestAudio_eq_none holdest] at hcount
            cases hcount
        | some next =>
            obtain ⟨coalesced, hlength⟩ := coalesceOldestAudio_eq_some holdest
            have hfewer := coalesced.countP
            obtain ⟨hrest, hroom⟩ := ih next (by omega)
            exact ⟨coalesced.trans hrest, hroom⟩
      · exact ⟨.refl q, by omega⟩

/-- What queueing a report does: some audio reports make room, and then the report is at the
end, or it is rejected. -/
theorem enqueue_cases (q : HidTransport.OutputQueue) (buffer : List UInt8) :
    ∃ kept, Coalesced q kept ∧
      ((q.enqueue buffer = kept.push buffer ∧ kept.writes.length < kMaxPendingHidOutputWrites ∧
          (isAudio buffer = true →
            kept.writes.countP isAudio < kMaxQueuedHidAudioOutputWrites)) ∨
        q.enqueue buffer = kept.reject) := by
  unfold HidTransport.OutputQueue.enqueue
  cases haudio : isAudio buffer with
  | false =>
      simp only [Bool.false_eq_true, if_false]
      by_cases hfull : kMaxPendingHidOutputWrites ≤ q.writes.length
      · rw [if_pos hfull]
        exact ⟨q, .refl q, .inr rfl⟩
      · rw [if_neg hfull]
        dsimp only
        rw [if_neg hfull]
        exact ⟨q, .refl q, .inl ⟨rfl, Nat.lt_of_not_le hfull, fun h => absurd h (by simp)⟩⟩
  | true =>
      simp only [if_true]
      obtain ⟨hfirst, hroom⟩ := coalesced_coalesceAudio _ q rfl
      generalize q.coalesceAudio (q.writes.countP isAudio) = first at hfirst hroom ⊢
      by_cases hfull : kMaxPendingHidOutputWrites ≤ first.writes.length
      · rw [if_pos hfull]
        cases holdest : first.coalesceOldestAudio with
        | none => exact ⟨first, hfirst, .inr rfl⟩
        | some kept =>
            obtain ⟨coalesced, hlength⟩ := coalesceOldestAudio_eq_some holdest
            have hfewer := coalesced.countP
            dsimp only
            split_ifs with hstill
            · exact ⟨kept, hfirst.trans coalesced, .inr rfl⟩
            · exact ⟨kept, hfirst.trans coalesced,
                .inl ⟨rfl, Nat.lt_of_not_le hstill, fun _ => by omega⟩⟩
      · rw [if_neg hfull]
        dsimp only
        rw [if_neg hfull]
        exact ⟨first, hfirst, .inl ⟨rfl, Nat.lt_of_not_le hfull, fun _ => hroom⟩⟩

end Queue

section Invariant

variable {s s' : Traced} {t t' : Transport} {action : Action}

/-- The limits of the queue. -/
structure Bounded (q : HidTransport.OutputQueue) : Prop where
  length : q.writes.length ≤ kMaxPendingHidOutputWrites
  audio : q.writes.countP isAudio ≤ kMaxQueuedHidAudioOutputWrites

/-- Where the accepted reports are. -/
structure Accounts (s : Traced) : Prop where
  order : (s.written ++ active s.transport.writer ++ s.transport.outputQueue.writes).Sublist
    s.accepted
  others : (s.written ++ active s.transport.writer ++ s.transport.outputQueue.writes).filter
    (!isAudio ·) = s.accepted.filter (!isAudio ·)
  count : s.transport.outputQueue.queuedCount = s.transport.outputCompletedCount +
    s.transport.outputQueue.audioCoalescedCount + s.transport.outputQueue.writes.length +
    (active s.transport.writer).length
  device : s.device = s.written.flatten ++ activeBytes s.transport.writer

/-- The output thread has neither failed nor been asked to stop. -/
def Running (t : Transport) : Prop := t.outputStopRequested = false ∧ t.outputError = false

structure Inv (s : Traced) : Prop where
  bounded : Bounded s.transport.outputQueue
  accounts : Running s.transport → Accounts s

/-- A step of the input thread or of the system. -/
structure SameOutput (t t' : Transport) : Prop where
  queue : t'.outputQueue = t.outputQueue
  writer : t'.writer = t.writer
  completed : t'.outputCompletedCount = t.outputCompletedCount
  stop : t'.outputStopRequested = t.outputStopRequested
  error : t'.outputError = t.outputError

/-- All that a step does with the output. -/
inductive OutputStep (t : Transport) : Action → Transport → Prop
  | quiet {action : Action} {t' : Transport} (same : SameOutput t t')
      (accepted : acceptedBy t action = []) (written : writtenBy t action = [])
      (device : deviceBy t action = []) : OutputStep t action t'
  | enqueue (report : List UInt8) : OutputStep t (.enqueueOutputReport report)
      { t with outputQueue := (t.outputQueue.enqueue (outputBuffer t report)).1 }
  | takes {buffer : List UInt8} {rest : List (List UInt8)} (writer : t.writer = .waiting)
      (writes : t.outputQueue.writes = buffer :: rest) : OutputStep t .writerTakes
        { t with
          outputQueue := { t.outputQueue with writes := rest }
          writer := .writing buffer 0 }
  | writes {buffer : List UInt8} {offset count : Nat} (writer : t.writer = .writing buffer offset)
      (fits : count ≤ buffer.length - offset) :
      OutputStep t (.writerWrites count) { t with writer := .writing buffer (offset + count) }
  | completes {buffer : List UInt8} {offset : Nat} (writer : t.writer = .writing buffer offset)
      (done : buffer.length ≤ offset) : OutputStep t .writerCompletes
        { t with writer := .waiting, outputCompletedCount := t.outputCompletedCount + 1 }
  /-- The output thread fails or is asked to stop. -/
  | ends {action : Action} {t' : Transport} (ended : ¬Running t')
      (writes : t'.outputQueue.writes.Sublist t.outputQueue.writes) : OutputStep t action t'

theorem outputStep (h : step t action = some t') : OutputStep t action t' := by
  cases action with
  | plugAndPlay host =>
      obtain ⟨-, heq⟩ := Option.ite_none_right_eq_some.mp h
      cases heq
      exact .quiet ⟨rfl, rfl, rfl, rfl, rfl⟩ rfl rfl rfl
  | beginRead =>
      obtain ⟨-, heq⟩ := Option.ite_none_right_eq_some.mp h
      cases heq
      exact .quiet ⟨rfl, rfl, rfl, rfl, rfl⟩ rfl rfl rfl
  | readDone =>
      simp only [step] at h
      split at h
      · obtain ⟨-, heq⟩ := Option.ite_none_right_eq_some.mp h
        cases heq
        exact .quiet ⟨rfl, rfl, rfl, rfl, rfl⟩ rfl rfl rfl
      · cases h
  | readFails =>
      simp only [step, readFails] at h
      split at h
      · cases h
        exact .quiet ⟨rfl, rfl, rfl, rfl, rfl⟩ rfl rfl rfl
      · cases h
  | resolve =>
      simp only [step, resolve] at h
      split at h
      · cases h
        exact .quiet ⟨rfl, rfl, rfl, rfl, rfl⟩ rfl rfl rfl
      · cases h
  | reopenInputHandle granted =>
      simp only [step, reopenInputHandle] at h
      split at h
      · split at h
        · cases h
          exact .quiet ⟨rfl, rfl, rfl, rfl, rfl⟩ rfl rfl rfl
        · cases h
          exact .quiet ⟨rfl, rfl, rfl, rfl, rfl⟩ rfl rfl rfl
      · cases h
  | enqueueOutputReport report =>
      obtain ⟨-, heq⟩ := Option.ite_none_left_eq_some.mp h
      cases heq
      exact .enqueue report
  | writerTakes =>
      simp only [step, writerTakes] at h
      split at h
      · rename_i buffer rest hwriter hwrites
        obtain ⟨-, heq⟩ := Option.ite_none_left_eq_some.mp h
        cases heq
        exact .takes hwriter hwrites
      · cases h
  | writerWrites count =>
      simp only [step, writerWrites] at h
      split at h
      · rename_i buffer offset hwriter
        obtain ⟨⟨-, -, hcount⟩, heq⟩ := Option.ite_none_right_eq_some.mp h
        split_ifs at heq with hzero
        · cases heq
          exact .ends (fun hrunning => Bool.noConfusion hrunning.2) (.refl _)
        · cases heq
          exact .writes hwriter hcount
      · cases h
  | writerFails =>
      simp only [step] at h
      split at h
      · obtain ⟨-, heq⟩ := Option.ite_none_right_eq_some.mp h
        cases heq
        exact .ends (fun hrunning => Bool.noConfusion hrunning.2) (.refl _)
      · cases h
  | writerCompletes =>
      simp only [step, writerCompletes] at h
      split at h
      · rename_i buffer offset hwriter
        obtain ⟨hdone, heq⟩ := Option.ite_none_left_eq_some.mp h
        cases heq
        exact .completes hwriter (Nat.le_of_not_lt hdone)
      · cases h
  | writerStops =>
      obtain ⟨⟨-, hstop⟩, heq⟩ := Option.ite_none_right_eq_some.mp h
      cases heq
      exact .ends (fun hrunning => absurd hstop (by rw [hrunning.1]; decide)) (.refl _)
  | cancel =>
      simp only [step] at h
      split_ifs at h with hstop
      · cases h
        exact .ends (fun hrunning => absurd hstop (by rw [hrunning.1]; decide)) (.refl _)
      · cases h
        exact .ends (fun hrunning => Bool.noConfusion hrunning.1) (List.nil_sublist _)

theorem Bounded.of_sublist {q q' : HidTransport.OutputQueue} (bounded : Bounded q)
    (writes : q'.writes.Sublist q.writes) : Bounded q' :=
  ⟨writes.length_le.trans bounded.length, writes.countP_le.trans bounded.audio⟩

theorem Bounded.enqueue {q : HidTransport.OutputQueue} (bounded : Bounded q)
    (buffer : List UInt8) : Bounded (q.enqueue buffer).1 := by
  obtain ⟨kept, coalesced, ⟨hpush, hlength, haudio⟩ | hreject⟩ := enqueue_cases q buffer
  · rw [hpush]
    refine ⟨?_, ?_⟩
    · rw [HidTransport.OutputQueue.push, List.length_append]
      exact hlength
    · rw [HidTransport.OutputQueue.push, List.countP_append]
      have hkept := coalesced.sublist.countP_le (p := isAudio)
      have hbefore := bounded.audio
      cases hbuffer : isAudio buffer with
      | false => simp [hbuffer]; omega
      | true =>
          have := haudio hbuffer
          simp [hbuffer]
          omega
  · rw [hreject]
    exact bounded.of_sublist coalesced.sublist

theorem Bounded.step (bounded : Bounded t.outputQueue) (h : OutputStep t action t') :
    Bounded t'.outputQueue := by
  cases h with
  | quiet same => exact same.queue ▸ bounded
  | enqueue report => exact bounded.enqueue _
  | takes writer writes =>
      refine bounded.of_sublist ?_
      rw [writes]
      exact List.sublist_cons_self _ _
  | writes | completes => exact bounded
  | ends ended writes => exact bounded.of_sublist writes

theorem Running.before (running : Running t') (h : OutputStep t action t') : Running t := by
  cases h with
  | quiet same => exact ⟨same.stop ▸ running.1, same.error ▸ running.2⟩
  | enqueue | takes | writes | completes => exact running
  | ends ended => exact absurd running ended

/-- Queueing a report keeps the accounts. -/
theorem Accounts.enqueue (accounts : Accounts s) (report : List UInt8) :
    Accounts { s with
      transport := { s.transport with
        outputQueue := (s.transport.outputQueue.enqueue (outputBuffer s.transport report)).1 }
      accepted := s.accepted ++ acceptedBy s.transport (.enqueueOutputReport report) } := by
  obtain ⟨horder, hothers, hcount, hdevice⟩ := accounts
  simp only [acceptedBy]
  generalize outputBuffer s.transport report = buffer
  obtain ⟨kept, coalesced, ⟨hpush, -, -⟩ | hreject⟩ := enqueue_cases s.transport.outputQueue buffer
  · have hcounted := coalesced.counted
    have hqueued := coalesced.queued
    rw [hpush, HidTransport.OutputQueue.push]
    refine ⟨?_, ?_, ?_, hdevice⟩
    · dsimp only
      rw [if_pos rfl, ← List.append_assoc]
      refine List.Sublist.append ?_ (.refl _)
      exact (List.Sublist.append (.refl _) coalesced.sublist).trans horder
    · dsimp only
      rw [if_pos rfl, ← List.append_assoc, List.filter_append, List.filter_append, coalesced.others,
        ← List.filter_append, hothers, ← List.filter_append]
    · simp only [List.length_append, List.length_singleton]
      omega
  · have hcounted := coalesced.counted
    have hqueued := coalesced.queued
    rw [hreject, HidTransport.OutputQueue.reject]
    refine ⟨?_, ?_, ?_, hdevice⟩
    · dsimp only
      rw [if_neg (by simp), List.append_nil]
      exact (List.Sublist.append (.refl _) coalesced.sublist).trans horder
    · dsimp only
      rw [if_neg (by simp), List.append_nil, List.filter_append, coalesced.others,
        ← List.filter_append, hothers]
    · dsimp only
      omega

/-- One step keeps the accounts as long as the output thread runs. -/
theorem Accounts.step (accounts : Accounts s) (h : OutputStep s.transport action t')
    (running : Running t') : Accounts
      { transport := t'
        accepted := s.accepted ++ acceptedBy s.transport action
        written := s.written ++ writtenBy s.transport action
        device := s.device ++ deviceBy s.transport action } := by
  cases h with
  | quiet same accepted written device =>
      obtain ⟨horder, hothers, hcount, hdevice⟩ := accounts
      rw [accepted, written, device, List.append_nil, List.append_nil, List.append_nil]
      refine ⟨?_, ?_, ?_, ?_⟩
      · dsimp only
        rwa [same.writer, same.queue]
      · dsimp only
        rwa [same.writer, same.queue]
      · dsimp only
        rwa [same.writer, same.queue, same.completed]
      · dsimp only
        rwa [same.writer]
  | enqueue report =>
      have henqueue := accounts.enqueue report
      simpa [writtenBy, deviceBy] using henqueue
  | @takes buffer rest writer writes =>
      obtain ⟨horder, hothers, hcount, hdevice⟩ := accounts
      rw [writer, writes] at horder hothers hcount
      rw [writer] at hdevice
      simp only [acceptedBy, writtenBy, deviceBy, List.append_nil]
      refine ⟨?_, ?_, ?_, ?_⟩
      · simpa [active] using horder
      · simpa [active] using hothers
      · simp only [active, List.length_cons, List.length_nil] at hcount ⊢
        omega
      · simpa [activeBytes] using hdevice
  | @writes buffer offset count writer fits =>
      obtain ⟨horder, hothers, hcount, hdevice⟩ := accounts
      rw [writer] at horder hothers hcount hdevice
      simp only [acceptedBy, writtenBy, deviceBy, writer, List.append_nil]
      refine ⟨horder, hothers, hcount, ?_⟩
      simp only [activeBytes] at hdevice ⊢
      rw [hdevice, List.append_assoc, List.take_add]
  | @completes buffer offset writer done =>
      obtain ⟨horder, hothers, hcount, hdevice⟩ := accounts
      rw [writer] at horder hothers hcount hdevice
      simp only [acceptedBy, writtenBy, deviceBy, writer, List.append_nil]
      refine ⟨?_, ?_, ?_, ?_⟩
      · simpa [active] using horder
      · simpa [active] using hothers
      · simp only [active, List.length_cons, List.length_nil] at hcount ⊢
        omega
      · simp only [activeBytes] at hdevice ⊢
        rw [hdevice, List.take_of_length_le done, List.flatten_append]
        simp
  | ends ended => exact absurd running ended

theorem Inv.step (inv : Inv s) (h : tracedStep s action = some s') : Inv s' := by
  obtain ⟨t', hstep, rfl⟩ := Option.map_eq_some_iff.mp h
  have houtput := outputStep hstep
  refine ⟨inv.bounded.step houtput, fun running => ?_⟩
  exact (inv.accounts (running.before houtput)).step houtput running

theorem Inv.new {host : Host} {path matchLabel : List UInt8} {outputReportLength : Nat}
    (h : Transport.new host path matchLabel outputReportLength = some t) : Inv (Traced.new t) := by
  obtain ⟨device, -, rfl⟩ := Option.map_eq_some_iff.mp h
  exact ⟨⟨Nat.zero_le _, Nat.zero_le _⟩, fun _ => ⟨.refl _, rfl, rfl, rfl⟩⟩

end Invariant

/-- Until the output thread is stopped or fails, the queue keeps its limits and every accepted
report is written, being written, queued or a coalesced audio report, in the order of
acceptance. -/
theorem outputQueue_of_run {host : Host} {path label : List UInt8} {length : Nat}
    {start : Transport} {s : Traced} {actions : List Action}
    (hnew : Transport.new host path label length = some start)
    (run : Run tracedStep (.new start) actions s)
    (running : s.transport.outputStopRequested = false ∧ s.transport.outputError = false) :
    s.transport.outputQueue.writes.length ≤ 64 ∧
      s.transport.outputQueue.writes.countP isAudio ≤ 4 ∧ Accounts s := by
  have inv : Inv s := run.invariant (fun _ _ _ inv _ h => inv.step h) (.new hnew)
  exact ⟨inv.bounded.length, inv.bounded.audio, inv.accounts running⟩

/-- Five audio reports around a state report; the first one is coalesced, the second one is
being written. -/
def coalescingTrace : List Action :=
  [.enqueueOutputReport [0x36, 1], .enqueueOutputReport [0x36, 2], .enqueueOutputReport [0x31],
    .enqueueOutputReport [0x36, 3], .enqueueOutputReport [0x36, 4],
    .enqueueOutputReport [0x36, 5], .writerTakes, .writerWrites 40]

theorem outputQueue_coalescing : ∃ s,
    Run tracedStep (.new HandleCoherence.exampleTransport) coalescingTrace s ∧
    s.accepted.length = 6 ∧ s.transport.outputQueue.audioCoalescedCount = 1 ∧
    s.transport.outputQueue.writes.countP isAudio ≤ 4 ∧ Accounts s := by
  obtain ⟨s, run, hrunning, haccepted, hcoalesced⟩ : ∃ s,
      Run tracedStep (.new HandleCoherence.exampleTransport) coalescingTrace s ∧
      (s.transport.outputStopRequested = false ∧ s.transport.outputError = false) ∧
      s.accepted.length = 6 ∧ s.transport.outputQueue.audioCoalescedCount = 1 :=
    exists_run_of_execute (by decide +kernel)
  obtain ⟨-, haudio, accounts⟩ :=
    outputQueue_of_run HandleCoherence.new_exampleTransport run hrunning
  exact ⟨s, run, haccepted, hcoalesced, haudio, accounts⟩

end VirtualDualSense.Win32.OutputQueue
