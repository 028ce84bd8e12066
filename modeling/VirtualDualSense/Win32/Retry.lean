import VirtualDualSense.Win32.Supervisor

/-!
# Retries of the failed workers

A failure is recorded under the worker's address and used up when a scan meets the
address in the database. The entries that had expired when a scan started are
therefore among the controllers that it has not met yet, as long as none of them
has been detached. A detached controller's entry stays, and the loop spins on it.
-/

namespace VirtualDualSense.Win32.Retry

open Lib.Runs Config.Controllers Supervisor

/-- A scan that started at `t` and threw no exception leaves no entry that had expired
at `t`. Unless an entry expires later, the pass then goes on to the wait. -/
structure ScanSettles (s : State) : Prop where
  consumed : ∀ t, s.pc = .deciding (some t) → ∀ b ∈ s.workerFailureBackoffs, t < b.retryAfter
  waits : ∀ t arm, s.pc = .deciding (some t) →
    (∀ b ∈ s.workerFailureBackoffs, t < b.retryAfter → s.clock < b.retryAfter) →
    step s (.finishPass arm) = some (armWait { s with reloadRequested := false } arm)

/-- A scan starts with the controllers of all expired entries in the database. -/
def expiredAttached (s : State) : Action → Prop
  | .load _ => ∀ b ∈ s.workerFailureBackoffs, b.retryAfter ≤ s.clock →
      b.address ∈ s.db.controllers.map (·.address)
  | _ => True

instance (s : State) (action : Action) : Decidable (expiredAttached s action) :=
  match action with
  | .load _ => List.decidableBAll _ _
  | .tick _ | .store _ | .workerEnds _ _ | .requestStop | .iterate | .reap | .request
  | .scanController _ | .scanThrows | .finishPass _ | .control _ | .filterChange _ | .retry
  | .workerDone | .stop | .supervisorThrows => .isTrue trivial

section Backoffs

variable {backoffs : List VdsdWorkerFailureBackoff} {address : List UInt8} {now retryAfter : Nat}
  {b : VdsdWorkerFailureBackoff}

theorem map_address_record : (recordVdsdWorkerFailure backoffs address retryAfter).map (·.address) =
    if address ∈ backoffs.map (·.address) then backoffs.map (·.address)
    else backoffs.map (·.address) ++ [address] := by
  induction backoffs with
  | nil => rfl
  | cons entry rest ih =>
      by_cases h : entry.address = address
      · simp [recordVdsdWorkerFailure, h]
      · simp only [recordVdsdWorkerFailure, h, if_false, List.map_cons, ih, List.mem_cons,
          Ne.symm h, false_or]
        split <;> rfl

theorem nodup_record (h : (backoffs.map (·.address)).Nodup) :
    ((recordVdsdWorkerFailure backoffs address retryAfter).map (·.address)).Nodup := by
  rw [map_address_record]
  split
  · exact h
  · rename_i hnew
    exact List.nodup_append.mpr ⟨h, List.nodup_singleton _, by
      rintro a ha _ hb rfl
      exact hnew (List.mem_singleton.mp hb ▸ ha)⟩

theorem sublist_consume : (consumeVdsdWorkerRetry backoffs address now).1.Sublist backoffs := by
  unfold consumeVdsdWorkerRetry
  split
  · exact List.Sublist.refl _
  · split
    · exact List.Sublist.refl _
    · exact List.eraseP_sublist

/-- With one entry an address, the entries left for the consumed address are not due. -/
theorem lt_of_mem_consume (h : (backoffs.map (·.address)).Nodup)
    (hb : b ∈ (consumeVdsdWorkerRetry backoffs address now).1) (ha : b.address = address) :
    now < b.retryAfter := by
  induction backoffs with
  | nil => simp [consumeVdsdWorkerRetry] at hb
  | cons entry rest ih =>
      obtain ⟨hentry, hrest⟩ := List.nodup_cons.mp h
      by_cases he : entry.address = address
      · have hother : ∀ c ∈ rest, c.address ≠ address := by
          intro c hc hca
          apply hentry
          exact List.mem_map.mpr ⟨c, hc, hca.trans he.symm⟩
        simp only [consumeVdsdWorkerRetry, List.find?_cons, he, decide_true] at hb
        split at hb
        · rcases List.mem_cons.mp hb with rfl | hb
          · assumption
          · exact absurd ha (hother b hb)
        · rw [List.eraseP_cons_of_pos (by simp [he])] at hb
          exact absurd ha (hother b hb)
      · have hcons : (consumeVdsdWorkerRetry (entry :: rest) address now).1 =
            entry :: (consumeVdsdWorkerRetry rest address now).1 := by
          simp only [consumeVdsdWorkerRetry, List.find?_cons, he, decide_false]
          cases List.find? (fun entry => decide (entry.address = address)) rest with
          | none => rfl
          | some existing =>
              by_cases hnow : now < existing.retryAfter
              · simp [hnow]
              · simp [hnow, he]
        rw [hcons] at hb
        rcases List.mem_cons.mp hb with rfl | hb
        · exact absurd ha he
        · exact ih hrest hb

theorem nextRetry_le_iff {backoffs : List VdsdWorkerFailureBackoff} {clock : Nat} :
    (nextRetry backoffs).any (fun next => decide (next ≤ clock)) = true ↔
      ∃ b ∈ backoffs, b.retryAfter ≤ clock := by
  cases hnext : nextRetry backoffs with
  | none =>
      obtain rfl : backoffs = [] := by simpa [nextRetry] using hnext
      simp
  | some next =>
      obtain ⟨hmem, hmin⟩ := List.min?_eq_some_iff.mp hnext
      obtain ⟨b, hb, rfl⟩ := List.mem_map.mp hmem
      simp only [Option.any_some, decide_eq_true_eq]
      constructor
      · intro h
        exact ⟨b, hb, h⟩
      · rintro ⟨c, hc, h⟩
        exact (hmin _ (List.mem_map_of_mem hc)).trans h

end Backoffs

/-- While a scan runs, the entries that had expired at its start are of controllers
that it has not met yet. -/
structure Inv (s : State) : Prop where
  distinct : (s.workerFailureBackoffs.map (·.address)).Nodup
  started : ∀ t scan, s.pc = .scanning t scan → t ≤ s.clock
  covered : ∀ t scan, s.pc = .scanning t scan → ∀ b ∈ s.workerFailureBackoffs,
    b.retryAfter ≤ t → b.address ∈ scan.remaining.map (·.address)
  consumed : ∀ t, s.pc = .deciding (some t) → ∀ b ∈ s.workerFailureBackoffs, t < b.retryAfter

namespace Inv

variable {s s' : State}

/-- Outside of a scan and its end only the addresses matter. -/
theorem of_idle (distinct : (s.workerFailureBackoffs.map (·.address)).Nodup)
    (hscanning : ∀ t scan, s.pc ≠ .scanning t scan)
    (hdeciding : ∀ t, s.pc ≠ .deciding (some t)) : Inv s where
  distinct
  started t scan h := absurd h (hscanning t scan)
  covered t scan h := absurd h (hscanning t scan)
  consumed t h := absurd h (hdeciding t)

theorem of_same (inv : Inv s) (hbackoffs : s'.workerFailureBackoffs = s.workerFailureBackoffs)
    (hpc : s'.pc = s.pc) (hclock : s.clock ≤ s'.clock) : Inv s' where
  distinct := hbackoffs ▸ inv.distinct
  started t scan h := (inv.started t scan (hpc ▸ h)).trans hclock
  covered t scan h := by
    rw [hbackoffs]
    exact inv.covered t scan (hpc ▸ h)
  consumed t h := by
    rw [hbackoffs]
    exact inv.consumed t (hpc ▸ h)

theorem scanThrows (inv : Inv s) : Inv (Supervisor.scanThrows s) := by
  apply of_idle
  · exact inv.distinct
  · simp [Supervisor.scanThrows]
  · simp [Supervisor.scanThrows]

theorem workerEnds {index : Nat} {error : List UInt8} (inv : Inv s)
    (h : Supervisor.workerEnds s index error = some s') : Inv s' := by
  unfold Supervisor.workerEnds at h
  split at h
  · cases h
  · split at h
    · cases h
    · obtain rfl := Option.some.inj h
      exact inv.of_same rfl rfl le_rfl

theorem reap (inv : Inv s) (index : Nat) (removed : Bool) :
    Inv (Supervisor.reap s index removed) := by
  unfold Supervisor.reap
  split
  · exact of_idle inv.distinct (by simp) (by simp)
  · split
    · refine of_idle ?_ (by simp) (by simp)
      show (List.map _ (if _ then _ else _)).Nodup
      split
      · exact inv.distinct
      · exact nodup_record inv.distinct
    · exact of_idle inv.distinct (by simp) (by simp)

theorem request (inv : Inv s) : Inv (Supervisor.request s) := by
  refine of_idle inv.distinct ?_ ?_
  all_goals
    simp only [Supervisor.request]
    split <;> simp

/-- All expired entries are ahead of a scan that starts with their controllers attached. -/
theorem load {discovery : Discovery} (inv : Inv s) (ok : expiredAttached s (.load discovery)) :
    Inv (Supervisor.load s discovery) := by
  unfold Supervisor.load
  dsimp only
  split
  · exact of_idle inv.distinct (by simp [Supervisor.scanThrows])
      (by simp [Supervisor.scanThrows])
  · refine ⟨inv.distinct, ?_, ?_, ?_⟩
    · rintro t scan ⟨⟩
      exact le_rfl
    · rintro t scan ⟨⟩ b hb hdue
      exact ok b hb hdue
    · rintro t ⟨⟩

/-- The launch changes no entry and keeps its place in the scan. -/
theorem launchController {startedAt : Nat} {scan : Scan} {config : ControllerConfig}
    {ports : List Nat} (distinct : (s.workerFailureBackoffs.map (·.address)).Nodup)
    (hstart : startedAt ≤ s.clock)
    (hcovered : ∀ b ∈ s.workerFailureBackoffs, b.retryAfter ≤ startedAt →
      b.address ∈ scan.remaining.map (·.address)) :
    Inv (Supervisor.launchController s startedAt scan config ports) := by
  have hscanning : ∀ (workers : List BridgeWorker) (next : Scan),
      next.remaining = scan.remaining →
      Inv { s with workers, pc := .scanning startedAt next } := by
    intro workers next hnext
    refine ⟨distinct, ?_, ?_, ?_⟩
    · rintro t scan ⟨⟩
      exact hstart
    · rintro t scan ⟨⟩ b hb hdue
      rw [hnext]
      exact hcovered b hb hdue
    · rintro t ⟨⟩
  unfold Supervisor.launchController
  dsimp only
  split
  · exact hscanning _ _ rfl
  split
  · exact hscanning _ _ rfl
  split
  · exact hscanning _ _ rfl
  split
  · exact of_idle distinct (by simp [Supervisor.scanThrows]) (by simp [Supervisor.scanThrows])
  · exact hscanning _ _ rfl
  · split
    · exact hscanning _ _ rfl
    · exact hscanning _ _ rfl

/-- Meeting a controller uses up its entry when that had expired at the start. -/
theorem scanController {startedAt : Nat} {scan : Scan} {ports : List Nat} (inv : Inv s)
    (hpc : s.pc = .scanning startedAt scan) :
    Inv (Supervisor.scanController s startedAt scan ports) := by
  have hstart := inv.started _ _ hpc
  have hcovered := inv.covered _ _ hpc
  unfold Supervisor.scanController
  split
  · rename_i hdone
    refine ⟨inv.distinct, by rintro t scan ⟨⟩, by rintro t scan ⟨⟩, ?_⟩
    rintro t ⟨⟩ b hb
    by_contra hdue
    simpa [hdone] using hcovered b hb (Nat.le_of_not_lt hdue)
  · rename_i config remaining hremaining
    have hkept : ∀ b ∈ (consumeVdsdWorkerRetry s.workerFailureBackoffs config.address s.clock).1,
        b.retryAfter ≤ startedAt → b.address ∈ remaining.map (·.address) := by
      intro b hb hdue
      have hmem := hcovered b (sublist_consume.subset hb) hdue
      rw [hremaining, List.map_cons, List.mem_cons] at hmem
      apply hmem.resolve_left
      intro ha
      have hlater := lt_of_mem_consume inv.distinct hb ha
      omega
    have hconsumed : (consumeVdsdWorkerRetry s.workerFailureBackoffs config.address
        s.clock).1.Sublist s.workerFailureBackoffs := sublist_consume
    have hdistinct := inv.distinct.sublist (hconsumed.map (·.address))
    dsimp only
    split
    · exact launchController hdistinct hstart hkept
    · refine ⟨hdistinct, ?_, ?_, ?_⟩
      · rintro t scan ⟨⟩
        exact hstart
      · rintro t scan ⟨⟩
        exact hkept
      · rintro t ⟨⟩

theorem armWait (distinct : (s.workerFailureBackoffs.map (·.address)).Nodup) (arm : ArmOutcome) :
    Inv (Supervisor.armWait s arm) := by
  unfold Supervisor.armWait
  dsimp only
  split
  · split
    · exact of_idle distinct (by simp) (by simp)
    · cases arm <;> exact of_idle distinct (by simp) (by simp)
  · exact of_idle distinct (by simp) (by simp)

theorem finishPass (inv : Inv s) (arm : ArmOutcome) : Inv (Supervisor.finishPass s arm) := by
  unfold Supervisor.finishPass
  dsimp only
  split
  · exact of_idle inv.distinct (by simp) (by simp)
  · apply armWait
    exact inv.distinct

theorem serveChange_backoffs (changes : List DbChange) :
    (changes.foldl serveChange s).workerFailureBackoffs = s.workerFailureBackoffs := by
  induction changes generalizing s with
  | nil => rfl
  | cons change rest ih =>
      rw [List.foldl_cons, ih]
      unfold serveChange
      split <;> rfl

theorem control (inv : Inv s) (changes : List DbChange) : Inv (Supervisor.control s changes) := by
  refine of_idle ?_ (by simp [Supervisor.control]) (by simp [Supervisor.control])
  simp only [Supervisor.control, serveChange_backoffs]
  exact inv.distinct

theorem filterChange (inv : Inv s) (completed : Option Bool) :
    Inv (Supervisor.filterChange s completed) := by
  unfold Supervisor.filterChange
  cases completed <;> exact of_idle inv.distinct (by simp) (by simp)

protected theorem step {action : Action} (inv : Inv s) (ok : expiredAttached s action)
    (h : Supervisor.step s action = some s') : Inv s' := by
  unfold Supervisor.step at h
  split at h
  · obtain rfl := Option.some.inj h
    exact inv.of_same rfl rfl (Nat.le_add_right _ _)
  · obtain ⟨db, -, rfl⟩ := Option.map_eq_some_iff.mp h
    exact inv.of_same rfl rfl le_rfl
  · exact inv.workerEnds h
  · obtain rfl := Option.some.inj h
    exact inv.of_same rfl rfl le_rfl
  · obtain rfl := Option.some.inj h
    refine of_idle inv.distinct ?_ ?_
    all_goals
      dsimp only
      split <;> simp
  · obtain rfl := Option.some.inj h
    exact inv.reap _ _
  · obtain rfl := Option.some.inj h
    exact inv.request
  · obtain rfl := Option.some.inj h
    exact inv.load ok
  · rename_i hpc
    obtain rfl := Option.some.inj h
    exact inv.scanController hpc
  · obtain rfl := Option.some.inj h
    exact of_idle inv.distinct (by simp [Supervisor.scanThrows]) (by simp [Supervisor.scanThrows])
  · obtain rfl := Option.some.inj h
    exact inv.scanThrows
  · obtain rfl := Option.some.inj h
    exact inv.finishPass _
  · obtain rfl := Option.some.inj h
    exact inv.control _
  · obtain ⟨-, ⟨⟩⟩ := Option.ite_none_right_eq_some.mp h
    exact inv.filterChange _
  · obtain rfl := Option.some.inj h
    exact of_idle inv.distinct (by simp) (by simp)
  · obtain ⟨-, ⟨⟩⟩ := Option.ite_none_right_eq_some.mp h
    exact of_idle inv.distinct (by simp) (by simp)
  · obtain ⟨-, ⟨⟩⟩ := Option.ite_none_right_eq_some.mp h
    exact of_idle inv.distinct (by simp) (by simp)
  · obtain rfl := Option.some.inj h
    exact of_idle inv.distinct (by simp) (by simp)
  · obtain rfl := Option.some.inj h
    exact of_idle inv.distinct (by simp) (by simp)
  · cases h

theorem new (db : ConfigDb) (clock : Nat) : Inv (State.new db clock) :=
  of_idle List.nodup_nil (by simp [State.new]) (by simp [State.new])

theorem scanSettles (inv : Inv s) : ScanSettles s where
  consumed := inv.consumed
  waits t arm hpc hlater := by
    have hexpired : retryExpired { s with reloadRequested := false } = false := by
      rw [Bool.eq_false_iff]
      intro h
      obtain ⟨b, hb, hdue⟩ := nextRetry_le_iff.mp h
      have := hlater b hb (inv.consumed t hpc b hb)
      dsimp only at hdue
      omega
    have hstep : Supervisor.step s (.finishPass arm) = some (Supervisor.finishPass s arm) := by
      simp only [Supervisor.step, hpc]
    rw [hstep, Supervisor.finishPass, if_neg (by simp [hexpired])]

end Inv

/-- If the controllers of the expired entries are attached whenever a scan starts, every
scan uses these entries up and the supervisor goes on to its wait. -/
theorem scanSettles_of_guardedRun {db : ConfigDb} {clock : Nat} {actions : List Action} {s : State}
    (run : GuardedRun step expiredAttached (State.new db clock) actions s) : ScanSettles s :=
  (run.invariant (fun _ _ _ inv ok h => inv.step ok h) (Inv.new db clock)).scanSettles

section Traces

/-- 00:00:00:00:00:00 -/
def exampleAddress : List UInt8 :=
  [0x30, 0x30, 0x3a, 0x30, 0x30, 0x3a, 0x30, 0x30, 0x3a, 0x30, 0x30, 0x3a, 0x30, 0x30, 0x3a,
    0x30, 0x30]

def exampleDb : ConfigDb := ⟨[⟨exampleAddress, .ds5, []⟩]⟩

/-- The controller is found by plain HID discovery. -/
def exampleDiscovery : Discovery :=
  ⟨[0, 1, 2, 3], none, [⟨exampleAddress, false, true, false⟩], fun _ => true⟩

/-- A pass up to the end of its scan, with the rounds of its two loops. -/
def scanPass (reaps controllers : Nat) : List Action :=
  .iterate :: List.replicate reaps .reap ++ [.request, .load exampleDiscovery] ++
    List.replicate controllers (.scanController [0, 1, 2, 3])

/-- The worker of the controller is launched and fails. -/
def workerFailure : List Action :=
  scanPass 1 2 ++ [.finishPass .pending, .workerEnds 0 [0x65], .workerDone] ++ scanPass 2 2 ++
    [.finishPass .pending]

/-- The pass after the retry delay finds the controller detached. -/
def detachedRetry : List Action :=
  workerFailure ++
    [.control [.detach exampleAddress], .tick kBridgeWorkerFailureRetryDelay] ++ scanPass 1 1

/-- The loop from the end of one scan to the end of the next. -/
def lap : List Action := .finishPass .pending :: scanPass 1 1

end Traces

theorem guardedRun_attachedRetry : ∃ s, GuardedRun step expiredAttached (State.new exampleDb 0)
    (workerFailure ++ [.tick kBridgeWorkerFailureRetryDelay, .retry] ++ scanPass 1 2) s :=
  exists_guardedRun_of_execute (by decide +kernel)

/-- The retry of an attached controller is used up by the scan after the delay. -/
theorem scanSettles_attachedRetry : ∃ s, GuardedRun step expiredAttached (State.new exampleDb 0)
    (workerFailure ++ [.tick kBridgeWorkerFailureRetryDelay, .retry] ++ scanPass 1 2) s ∧
    ScanSettles s := by
  obtain ⟨s, run⟩ := guardedRun_attachedRetry
  exact ⟨s, run, scanSettles_of_guardedRun run⟩

/-- The entry of a detached controller outlives every scan. The supervisor takes the
`continue` and comes back to the same state without any event. -/
theorem detached_retry_spins : ∃ s, Run step (State.new exampleDb 0) (detachedRetry ++ lap) s ∧
    ¬ScanSettles s ∧ execute step s lap = some s := by
  have hstranded : ∃ s, Run step (State.new exampleDb 0) (detachedRetry ++ lap) s ∧
      s.pc = .deciding (some kBridgeWorkerFailureRetryDelay) ∧
      s.workerFailureBackoffs = [⟨exampleAddress, kBridgeWorkerFailureRetryDelay⟩] ∧
      execute step s lap = some s :=
    exists_run_of_execute (by decide +kernel)
  obtain ⟨s, run, hpc, hbackoffs, hlap⟩ := hstranded
  refine ⟨s, run, ?_, hlap⟩
  intro settles
  have hlater := settles.consumed _ hpc _ (hbackoffs ▸ List.mem_singleton_self _)
  exact Nat.lt_irrefl _ hlater

end VirtualDualSense.Win32.Retry
