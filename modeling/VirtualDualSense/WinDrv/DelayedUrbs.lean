import VirtualDualSense.Lib.Holders
import VirtualDualSense.Lib.Runs
import VirtualDualSense.WinDrv.ByteRings

/-!
# Delayed URBs of an endpoint queue

`VdsCompleteUrbAfterDelay` publishes a timer in the context of its endpoint queue and then
starts it. The timer's callback completes the URB, unless `VdsFlushDelayedEndpointUrb` has taken
the published timer and removed it in time.

## Implementation notes

The locked sections and the calls of the framework are steps of their own, of any number of
calls and flushes at the same time. `WdfTimerStop` waits for a running callback and succeeds
only for a timer that waits. The statistics are left out.
-/

namespace VirtualDualSense.WinDrv.DelayedUrbs

open Lib.Holders Lib.Runs ByteRings

section Counts

def vdsUsbAudioOutEndpoint : UInt8 := 0x01
def vdsUsbAudioInEndpoint : UInt8 := 0x82
def vdsUsbHidInEndpoint : UInt8 := 0x84

/-- The numbers of delayed URBs of the device's endpoints. -/
structure PendingCounts where
  audioOutDelayedPendingCount : Int
  audioInDelayedPendingCount : Int
  hidInDelayedPendingCount : Int

def PendingCounts.zero : PendingCounts := ⟨0, 0, 0⟩

/-- `VdsAdjustEndpointDelayedPending`. -/
def adjustEndpointDelayedPending (counts : PendingCounts) (endpointAddress : UInt8)
    (delta : Int) : PendingCounts :=
  if endpointAddress = vdsUsbAudioOutEndpoint then
    { counts with audioOutDelayedPendingCount := counts.audioOutDelayedPendingCount + delta }
  else if endpointAddress = vdsUsbAudioInEndpoint then
    { counts with audioInDelayedPendingCount := counts.audioInDelayedPendingCount + delta }
  else if endpointAddress = vdsUsbHidInEndpoint then
    { counts with hidInDelayedPendingCount := counts.hidInDelayedPendingCount + delta }
  else counts

/-- The count of an endpoint, when it has one. -/
def PendingCounts.count (counts : PendingCounts) (endpointAddress : UInt8) : Option Int :=
  if endpointAddress = vdsUsbAudioOutEndpoint then some counts.audioOutDelayedPendingCount
  else if endpointAddress = vdsUsbAudioInEndpoint then some counts.audioInDelayedPendingCount
  else if endpointAddress = vdsUsbHidInEndpoint then some counts.hidInDelayedPendingCount
  else none

theorem adjust_adjust (counts : PendingCounts) (endpointAddress : UInt8) (delta more : Int) :
    adjustEndpointDelayedPending (adjustEndpointDelayedPending counts endpointAddress delta)
        endpointAddress more =
      adjustEndpointDelayedPending counts endpointAddress (delta + more) := by
  unfold adjustEndpointDelayedPending
  split_ifs <;> simp only [Int.add_assoc]

theorem adjust_zero (endpointAddress : UInt8) :
    adjustEndpointDelayedPending .zero endpointAddress 0 = .zero := by
  unfold adjustEndpointDelayedPending
  split_ifs <;> rfl

theorem count_adjust (endpointAddress : UInt8) (delta : Int) {count : Int}
    (h : count ∈ (adjustEndpointDelayedPending .zero endpointAddress delta).count
      endpointAddress) : count = delta := by
  unfold PendingCounts.count adjustEndpointDelayedPending at h
  split_ifs at h
  · exact (Option.some.inj h).symm.trans (Int.zero_add delta)
  · exact (Option.some.inj h).symm.trans (Int.zero_add delta)
  · exact (Option.some.inj h).symm.trans (Int.zero_add delta)
  · cases h

end Counts

section Model

/-- `VDS_DELAYED_URB_COMPLETION_CONTEXT`, as a call of `VdsCompleteUrbAfterDelay` fills it. -/
structure DelayedUrb where
  request : Nat
  bytesCompleted : UInt32
  usbdStatus : UInt32
  ntStatus : UInt32
  completeWithUsbdStatus : Bool
  queuedFrameType : UInt16
  queuedFramePayload : Option Buffer

/-- The frame to queue on completion. -/
def DelayedUrb.frame (urb : DelayedUrb) : Option (UInt16 × Buffer) :=
  urb.queuedFramePayload.bind fun payload =>
    if payload.size > 0 then some (urb.queuedFrameType, payload) else none

def DelayedUrb.queuedFrameLength (urb : DelayedUrb) : UInt32 :=
  (urb.queuedFramePayload.map Buffer.size).getD 0

/-- Where a published timer and its callback are. -/
inductive Phase
  | created
  | waiting
  | fired
  | unpublished
  | completing
  | finished
  | removed
  deriving DecidableEq

structure Timer where
  number : Nat
  urb : DelayedUrb
  phase : Phase

/-- Where a call of `VdsFlushDelayedEndpointUrb` that found a timer is. -/
inductive Flush
  | stopping (timer : Nat)
  | stopped (timer : Nat)
  | completing (timer : Nat)
  | returned

/-- A call of `VdsQueueFrame` for a timer's frame. -/
structure FrameCall where
  timer : Nat
  frameType : UInt16
  payload : Buffer
  status : NtStatus

/-- The queue context, and the calls of `VdsCompleteDelayedUrb`, of `VdsQueueFrame` by it and of
`VdsCompleteUrbAsync` by it. -/
structure State where
  port : ControlRing
  counts : PendingCounts
  delayedTimer : Option Nat
  delayedRequest : Option Nat
  timers : List Timer
  flushes : List Flush
  passed : List (Nat × DelayedUrb)
  frames : List FrameCall
  urbs : List (Nat × DelayedUrb)

def State.new : State := ⟨.new, .zero, none, none, [], [], [], [], []⟩

inductive Action
  | completeUrbAfterDelay (urb : DelayedUrb) (creates : Bool)
  | timerStart (timer : Nat)
  | timerFire (timer : Nat)
  | timerUnpublish (timer : Nat)
  | timerComplete (timer : Nat)
  | timerFinish (timer : Nat)
  | flush
  | flushStop (flush : Nat)
  | flushComplete (flush : Nat)
  | flushFinish (flush : Nat)
  | ring (operation : ControlOperation)

def State.inPhase (s : State) (timer : Nat) (phase : Phase) : Option Timer :=
  s.timers[timer]?.filter (·.phase = phase)

def State.setPhase (s : State) (timer : Timer) (phase : Phase) : State :=
  { s with timers := s.timers.set timer.number { timer with phase } }

def State.setFlush (s : State) (flush : Nat) (place : Flush) : State :=
  { s with flushes := s.flushes.set flush place }

/-- The published timer is taken out of the queue context. -/
def State.unpublish (s : State) (endpointAddress : UInt8) : State :=
  { s with
    delayedTimer := none
    delayedRequest := none
    counts := adjustEndpointDelayedPending s.counts endpointAddress (-1) }

/-- `VdsCompleteUrbAfterDelay` until it starts the timer; without one it returns `FALSE`. -/
def completeUrbAfterDelay (endpointAddress : UInt8) (s : State) (urb : DelayedUrb)
    (creates : Bool) : State :=
  if urb.queuedFrameLength > vdsFrameMaxPayload then s
  else if !creates then s
  else if s.delayedTimer.isSome then s
  else { s with
    delayedTimer := some s.timers.length
    delayedRequest := some urb.request
    counts := adjustEndpointDelayedPending s.counts endpointAddress 1
    timers := s.timers ++ [⟨s.timers.length, urb, .created⟩] }

/-- `VdsCompleteDelayedUrb` with its call of `VdsQueueFrame`. -/
def completeDelayedUrb (s : State) (timer : Timer) : Option State :=
  let s := { s with passed := s.passed ++ [(timer.number, timer.urb)] }
  match timer.urb.frame with
  | none => some s
  | some (frameType, payload) =>
      (queueFrameLocked s.port frameType payload).map fun (port, status) =>
        { s with port, frames := s.frames ++ [⟨timer.number, frameType, payload, status⟩] }

/-- The end of `VdsCompleteDelayedUrb`. -/
def completeUrbAsync (s : State) (timer : Timer) : State :=
  { s with urbs := s.urbs ++ [(timer.number, timer.urb)] }

/-- `WdfTimerStop` of a flush: a waiting timer is removed, a running callback is waited for. -/
def timerStop (s : State) (flush : Nat) (timer : Timer) : Option State :=
  match timer.phase with
  | .waiting => some ((s.setFlush flush (.stopped timer.number)).setPhase timer .removed)
  | .created => some (s.setFlush flush .returned)
  | .finished => some (s.setFlush flush .returned)
  | .removed => some (s.setFlush flush .returned)
  | _ => none

def step (endpointAddress : UInt8) (s : State) : Action → Option State
  | .completeUrbAfterDelay urb creates =>
      some (completeUrbAfterDelay endpointAddress s urb creates)
  | .timerStart timer =>
      (s.inPhase timer .created).map fun timer => s.setPhase timer .waiting
  | .timerFire timer =>
      (s.inPhase timer .waiting).map fun timer => s.setPhase timer .fired
  | .timerUnpublish timer =>
      (s.inPhase timer .fired).map fun timer =>
        let s := if s.delayedTimer = some timer.number then s.unpublish endpointAddress else s
        s.setPhase timer .unpublished
  | .timerComplete timer =>
      (s.inPhase timer .unpublished).bind fun timer =>
        (completeDelayedUrb s timer).map fun s => s.setPhase timer .completing
  | .timerFinish timer =>
      (s.inPhase timer .completing).map fun timer =>
        (completeUrbAsync s timer).setPhase timer .finished
  | .flush =>
      match s.delayedTimer with
      | none => some s
      | some timer =>
          some { s.unpublish endpointAddress with flushes := s.flushes ++ [.stopping timer] }
  | .flushStop flush =>
      match s.flushes[flush]? with
      | some (.stopping timer) => s.timers[timer]?.bind fun timer => timerStop s flush timer
      | _ => none
  | .flushComplete flush =>
      match s.flushes[flush]? with
      | some (.stopped timer) =>
          s.timers[timer]?.bind fun timer =>
            (completeDelayedUrb s timer).map fun s => s.setFlush flush (.completing timer.number)
      | _ => none
  | .flushFinish flush =>
      match s.flushes[flush]? with
      | some (.completing timer) =>
          s.timers[timer]?.map fun timer => (completeUrbAsync s timer).setFlush flush .returned
      | _ => none
  | .ring operation =>
      (controlStep s.port operation).map fun (port, _) => { s with port }

end Model

section Completion

/-- A request was passed to `VdsCompleteDelayedUrb` once, which queued its frame and completed
its URB. -/
structure CompletedOnce (s : State) (timer : Timer) : Prop where
  passed : s.passed.filter (·.1 = timer.number) = [(timer.number, timer.urb)]
  frames : (s.frames.filter (·.timer = timer.number)).map (fun call =>
    (call.frameType, call.payload)) = timer.urb.frame.toList
  urbs : s.urbs.filter (·.1 = timer.number) = [(timer.number, timer.urb)]

/-- The callback of the timer returned, or the flush that stopped it did. -/
def State.Settled (s : State) (timer : Timer) : Prop :=
  timer.phase = .finished ∨
    timer.phase = .removed ∧ ∀ flush ∈ s.flushes,
      flush ≠ .stopped timer.number ∧ flush ≠ .completing timer.number

/-- Every request is passed on at most once, and was when its timer is settled; the count of the
endpoint tells whether a timer is published. -/
structure ExactlyOnce (endpointAddress : UInt8) (s : State) : Prop where
  settled : ∀ timer ∈ s.timers, s.Settled timer → CompletedOnce s timer
  passed : (s.passed.map Prod.fst).Nodup
  frames : (s.frames.map FrameCall.timer).Nodup
  urbs : (s.urbs.map Prod.fst).Nodup
  counted : ∀ count ∈ s.counts.count endpointAddress,
    count = if s.delayedTimer.isSome then 1 else 0

end Completion

section Steps

variable {endpointAddress : UInt8} {s t : State} {action : Action}

/-- What a step does. -/
inductive Steps (endpointAddress : UInt8) (s : State) : Action → State → Prop
  | refused {urb creates} : Steps endpointAddress s (.completeUrbAfterDelay urb creates) s
  | published {urb creates} (h : s.delayedTimer = none) :
      Steps endpointAddress s (.completeUrbAfterDelay urb creates) { s with
        delayedTimer := some s.timers.length
        delayedRequest := some urb.request
        counts := adjustEndpointDelayedPending s.counts endpointAddress 1
        timers := s.timers ++ [⟨s.timers.length, urb, .created⟩] }
  | started {k timer} (h : s.timers[k]? = some timer) (hphase : timer.phase = .created) :
      Steps endpointAddress s (.timerStart k) (s.setPhase timer .waiting)
  | fired {k timer} (h : s.timers[k]? = some timer) (hphase : timer.phase = .waiting) :
      Steps endpointAddress s (.timerFire k) (s.setPhase timer .fired)
  | unpublished {k timer} (h : s.timers[k]? = some timer) (hphase : timer.phase = .fired)
      (hpublished : s.delayedTimer = some timer.number) :
      Steps endpointAddress s (.timerUnpublish k)
        ((s.unpublish endpointAddress).setPhase timer .unpublished)
  | taken {k timer} (h : s.timers[k]? = some timer) (hphase : timer.phase = .fired) :
      Steps endpointAddress s (.timerUnpublish k) (s.setPhase timer .unpublished)
  | passed {k timer next} (h : s.timers[k]? = some timer) (hphase : timer.phase = .unpublished)
      (hpass : completeDelayedUrb s timer = some next) :
      Steps endpointAddress s (.timerComplete k) (next.setPhase timer .completing)
  | finished {k timer} (h : s.timers[k]? = some timer) (hphase : timer.phase = .completing) :
      Steps endpointAddress s (.timerFinish k) ((completeUrbAsync s timer).setPhase timer .finished)
  | idle (h : s.delayedTimer = none) : Steps endpointAddress s .flush s
  | flushed {k} (h : s.delayedTimer = some k) :
      Steps endpointAddress s .flush
        { s.unpublish endpointAddress with flushes := s.flushes ++ [.stopping k] }
  | missed {flush k} (h : s.flushes[flush]? = some (.stopping k)) :
      Steps endpointAddress s (.flushStop flush) (s.setFlush flush .returned)
  | stopped {flush k timer} (h : s.flushes[flush]? = some (.stopping k))
      (htimer : s.timers[k]? = some timer) (hphase : timer.phase = .waiting) :
      Steps endpointAddress s (.flushStop flush)
        ((s.setFlush flush (.stopped timer.number)).setPhase timer .removed)
  | flushPassed {flush k timer next} (h : s.flushes[flush]? = some (.stopped k))
      (htimer : s.timers[k]? = some timer) (hpass : completeDelayedUrb s timer = some next) :
      Steps endpointAddress s (.flushComplete flush)
        (next.setFlush flush (.completing timer.number))
  | flushFinished {flush k timer} (h : s.flushes[flush]? = some (.completing k))
      (htimer : s.timers[k]? = some timer) :
      Steps endpointAddress s (.flushFinish flush)
        ((completeUrbAsync s timer).setFlush flush .returned)
  | ring {operation port result} (h : controlStep s.port operation = some (port, result)) :
      Steps endpointAddress s (.ring operation) { s with port }

theorem inPhase_eq_some {k : Nat} {phase : Phase} {timer : Timer}
    (h : s.inPhase k phase = some timer) :
    s.timers[k]? = some timer ∧ timer.phase = phase := by
  obtain ⟨htimer, hphase⟩ := Option.filter_eq_some_iff.mp h
  exact ⟨htimer, of_decide_eq_true hphase⟩

theorem steps_of_step (h : step endpointAddress s action = some t) :
    Steps endpointAddress s action t := by
  cases action with
  | completeUrbAfterDelay urb creates =>
      obtain rfl := Option.some.inj h
      unfold completeUrbAfterDelay
      split_ifs with hlong hcreates hpublished
      · exact .refused
      · exact .refused
      · exact .refused
      · exact .published (Option.not_isSome_iff_eq_none.mp hpublished)
  | timerStart k =>
      obtain ⟨timer, htimer, rfl⟩ := Option.map_eq_some_iff.mp h
      obtain ⟨htimer, hphase⟩ := inPhase_eq_some htimer
      exact .started htimer hphase
  | timerFire k =>
      obtain ⟨timer, htimer, rfl⟩ := Option.map_eq_some_iff.mp h
      obtain ⟨htimer, hphase⟩ := inPhase_eq_some htimer
      exact .fired htimer hphase
  | timerUnpublish k =>
      obtain ⟨timer, htimer, rfl⟩ := Option.map_eq_some_iff.mp h
      obtain ⟨htimer, hphase⟩ := inPhase_eq_some htimer
      by_cases hpublished : s.delayedTimer = some timer.number
      · simp only [if_pos hpublished]
        exact .unpublished htimer hphase hpublished
      · simp only [if_neg hpublished]
        exact .taken htimer hphase
  | timerComplete k =>
      obtain ⟨timer, htimer, h⟩ := Option.bind_eq_some_iff.mp h
      obtain ⟨next, hpass, rfl⟩ := Option.map_eq_some_iff.mp h
      obtain ⟨htimer, hphase⟩ := inPhase_eq_some htimer
      exact .passed htimer hphase hpass
  | timerFinish k =>
      obtain ⟨timer, htimer, rfl⟩ := Option.map_eq_some_iff.mp h
      obtain ⟨htimer, hphase⟩ := inPhase_eq_some htimer
      exact .finished htimer hphase
  | flush =>
      simp only [step] at h
      split at h
      next hnone =>
        obtain rfl := Option.some.inj h
        exact .idle hnone
      next hsome =>
        obtain rfl := Option.some.inj h
        exact .flushed hsome
  | flushStop flush =>
      simp only [step] at h
      split at h
      next hflush =>
        obtain ⟨timer, htimer, h⟩ := Option.bind_eq_some_iff.mp h
        unfold timerStop at h
        split at h
        next hphase =>
          obtain rfl := Option.some.inj h
          exact .stopped hflush htimer hphase
        next =>
          obtain rfl := Option.some.inj h
          exact .missed hflush
        next =>
          obtain rfl := Option.some.inj h
          exact .missed hflush
        next =>
          obtain rfl := Option.some.inj h
          exact .missed hflush
        next => cases h
      next => cases h
  | flushComplete flush =>
      simp only [step] at h
      split at h
      next hflush =>
        obtain ⟨timer, htimer, h⟩ := Option.bind_eq_some_iff.mp h
        obtain ⟨next, hpass, rfl⟩ := Option.map_eq_some_iff.mp h
        exact .flushPassed hflush htimer hpass
      next => cases h
  | flushFinish flush =>
      simp only [step] at h
      split at h
      next hflush =>
        obtain ⟨timer, htimer, rfl⟩ := Option.map_eq_some_iff.mp h
        exact .flushFinished hflush htimer
      next => cases h
  | ring operation =>
      obtain ⟨⟨port, result⟩, hring, rfl⟩ := Option.map_eq_some_iff.mp h
      exact .ring hring

/-- What `VdsCompleteDelayedUrb` records. -/
theorem completeDelayedUrb_eq {timer : Timer} {next : State}
    (h : completeDelayedUrb s timer = some next) :
    ∃ port frames, next = { s with
        port
        passed := s.passed ++ [(timer.number, timer.urb)]
        frames := s.frames ++ frames } ∧
      (∀ call ∈ frames, call.timer = timer.number) ∧
      frames.map (fun call => (call.frameType, call.payload)) = timer.urb.frame.toList := by
  unfold completeDelayedUrb at h
  split at h
  next hnone =>
    obtain rfl := Option.some.inj h
    refine ⟨s.port, [], by rw [List.append_nil], ?_, by rw [hnone]; rfl⟩
    exact fun call hcall => absurd hcall List.not_mem_nil
  next frameType payload hsome =>
    obtain ⟨⟨port, status⟩, -, rfl⟩ := Option.map_eq_some_iff.mp h
    refine ⟨port, [⟨timer.number, frameType, payload, status⟩], rfl, ?_, by rw [hsome]; rfl⟩
    intro call hcall
    rw [List.mem_singleton.mp hcall]

end Steps

section Custody

variable {endpointAddress : UInt8} {s t : State} {action : Action}

/-- The request that a timer or its callback still has to pass on. -/
def Timer.toPass (timer : Timer) : Option Nat :=
  if timer.phase = .created ∨ timer.phase = .waiting ∨ timer.phase = .fired ∨
      timer.phase = .unpublished then some timer.number
  else none

/-- The request whose completion a callback is in. -/
def Timer.toFinish (timer : Timer) : Option Nat :=
  if timer.phase = .completing then some timer.number else none

def Flush.toPass : Flush → Option Nat
  | .stopped timer => some timer
  | _ => none

def Flush.toFinish : Flush → Option Nat
  | .completing timer => some timer
  | _ => none

/-- How often a request is with the timers, with the flushes and in a list of calls. -/
def State.tally (s : State) (ofTimer : Timer → Option Nat) (ofFlush : Flush → Option Nat)
    (calls : List (Nat × DelayedUrb)) (n : Nat) : Nat :=
  (held ofTimer s.timers).count n + ((held ofFlush s.flushes).count n +
    (calls.map Prod.fst).count n)

section Tally

variable {ofTimer : Timer → Option Nat} {ofFlush : Flush → Option Nat}
  {calls : List (Nat × DelayedUrb)} {n : Nat}

theorem tally_setPhase {timer : Timer} (h : s.timers[timer.number]? = some timer)
    (phase : Phase) :
    (ofTimer timer).toList.count n + (s.setPhase timer phase).tally ofTimer ofFlush calls n =
      (ofTimer { timer with phase }).toList.count n + s.tally ofTimer ofFlush calls n := by
  have hcount : (ofTimer timer).toList.count n +
      (held ofTimer (s.timers.set timer.number { timer with phase })).count n =
        (ofTimer { timer with phase }).toList.count n + (held ofTimer s.timers).count n :=
    count_held_set h _ n
  simp only [State.tally, State.setPhase]
  omega

theorem tally_setPhase_of_eq {timer : Timer} {phase : Phase}
    (h : s.timers[timer.number]? = some timer)
    (hsame : ofTimer { timer with phase } = ofTimer timer) :
    (s.setPhase timer phase).tally ofTimer ofFlush calls n = s.tally ofTimer ofFlush calls n := by
  have htally : (ofTimer timer).toList.count n +
      (s.setPhase timer phase).tally ofTimer ofFlush calls n =
        (ofTimer { timer with phase }).toList.count n + s.tally ofTimer ofFlush calls n :=
    tally_setPhase h phase
  rw [hsame] at htally
  exact Nat.add_left_cancel htally

theorem tally_setPhase_gives {timer : Timer} {phase : Phase}
    (h : s.timers[timer.number]? = some timer) (hbefore : ofTimer timer = some timer.number)
    (hafter : ofTimer { timer with phase } = none) :
    [timer.number].count n + (s.setPhase timer phase).tally ofTimer ofFlush calls n =
      s.tally ofTimer ofFlush calls n := by
  have htally : (ofTimer timer).toList.count n +
      (s.setPhase timer phase).tally ofTimer ofFlush calls n =
        (ofTimer { timer with phase }).toList.count n + s.tally ofTimer ofFlush calls n :=
    tally_setPhase h phase
  rw [hbefore, hafter] at htally
  exact htally.trans (Nat.zero_add _)

theorem tally_setPhase_takes {timer : Timer} {phase : Phase}
    (h : s.timers[timer.number]? = some timer) (hbefore : ofTimer timer = none)
    (hafter : ofTimer { timer with phase } = some timer.number) :
    (s.setPhase timer phase).tally ofTimer ofFlush calls n =
      [timer.number].count n + s.tally ofTimer ofFlush calls n := by
  have htally : (ofTimer timer).toList.count n +
      (s.setPhase timer phase).tally ofTimer ofFlush calls n =
        (ofTimer { timer with phase }).toList.count n + s.tally ofTimer ofFlush calls n :=
    tally_setPhase h phase
  rw [hbefore, hafter] at htally
  exact (Nat.zero_add _).symm.trans htally

theorem tally_setFlush {flush : Nat} {before : Flush} (h : s.flushes[flush]? = some before)
    (after : Flush) :
    (ofFlush before).toList.count n + (s.setFlush flush after).tally ofTimer ofFlush calls n =
      (ofFlush after).toList.count n + s.tally ofTimer ofFlush calls n := by
  have hcount : (ofFlush before).toList.count n +
      (held ofFlush (s.flushes.set flush after)).count n =
        (ofFlush after).toList.count n + (held ofFlush s.flushes).count n :=
    count_held_set h after n
  simp only [State.tally, State.setFlush]
  omega

theorem tally_setFlush_of_eq {flush : Nat} {before after : Flush}
    (h : s.flushes[flush]? = some before) (hsame : ofFlush after = ofFlush before) :
    (s.setFlush flush after).tally ofTimer ofFlush calls n = s.tally ofTimer ofFlush calls n := by
  have htally : (ofFlush before).toList.count n +
      (s.setFlush flush after).tally ofTimer ofFlush calls n =
        (ofFlush after).toList.count n + s.tally ofTimer ofFlush calls n :=
    tally_setFlush h after
  rw [hsame] at htally
  exact Nat.add_left_cancel htally

theorem tally_setFlush_gives {flush k : Nat} {before after : Flush}
    (h : s.flushes[flush]? = some before) (hbefore : ofFlush before = some k)
    (hafter : ofFlush after = none) :
    [k].count n + (s.setFlush flush after).tally ofTimer ofFlush calls n =
      s.tally ofTimer ofFlush calls n := by
  have htally : (ofFlush before).toList.count n +
      (s.setFlush flush after).tally ofTimer ofFlush calls n =
        (ofFlush after).toList.count n + s.tally ofTimer ofFlush calls n :=
    tally_setFlush h after
  rw [hbefore, hafter] at htally
  exact htally.trans (Nat.zero_add _)

theorem tally_setFlush_takes {flush k : Nat} {before after : Flush}
    (h : s.flushes[flush]? = some before) (hbefore : ofFlush before = none)
    (hafter : ofFlush after = some k) :
    (s.setFlush flush after).tally ofTimer ofFlush calls n =
      [k].count n + s.tally ofTimer ofFlush calls n := by
  have htally : (ofFlush before).toList.count n +
      (s.setFlush flush after).tally ofTimer ofFlush calls n =
        (ofFlush after).toList.count n + s.tally ofTimer ofFlush calls n :=
    tally_setFlush h after
  rw [hbefore, hafter] at htally
  exact (Nat.zero_add _).symm.trans htally

theorem tally_append (s : State) (k : Nat) (urb : DelayedUrb) :
    s.tally ofTimer ofFlush (calls ++ [(k, urb)]) n =
      s.tally ofTimer ofFlush calls n + [k].count n := by
  simp only [State.tally, List.map_append, List.count_append, List.map_cons, List.map_nil]
  omega

end Tally

/-- The timers are numbered in the order in which they were published. -/
def Numbered (s : State) : Prop :=
  ∀ k (timer : Timer), s.timers[k]? = some timer → timer.number = k

theorem Numbered.new : Numbered .new := fun _ _ h => by cases h

theorem Numbered.setPhase (numbered : Numbered s) {k : Nat} {timer : Timer}
    (h : s.timers[k]? = some timer) (phase : Phase) : Numbered (s.setPhase timer phase) := by
  obtain rfl := numbered k timer h
  intro j other hother
  rw [State.setPhase, List.getElem?_set] at hother
  split_ifs at hother with heq hlt
  · obtain rfl := Option.some.inj hother
    exact heq
  · exact numbered j other hother

theorem Numbered.publish (numbered : Numbered s) {urb : DelayedUrb}
    (htimers : t.timers = s.timers ++ [⟨s.timers.length, urb, .created⟩]) : Numbered t := by
  intro j other hother
  rw [htimers, List.getElem?_append] at hother
  split_ifs at hother with hlt
  · exact numbered j other hother
  · rw [List.getElem?_singleton] at hother
    split_ifs at hother with hzero
    obtain rfl := Option.some.inj hother
    exact Nat.le_antisymm (Nat.le_of_not_lt hlt) (Nat.sub_eq_zero_iff_le.mp hzero)

theorem Numbered.step (numbered : Numbered s) (h : Steps endpointAddress s action t) :
    Numbered t := by
  cases h with
  | refused => exact numbered
  | published h => exact numbered.publish rfl
  | started h hphase => exact numbered.setPhase h _
  | fired h hphase => exact numbered.setPhase h _
  | unpublished h hphase hpublished => exact numbered.setPhase h _
  | taken h hphase => exact numbered.setPhase h _
  | passed h hphase hpass =>
      obtain ⟨port, frames, rfl, -, -⟩ := completeDelayedUrb_eq hpass
      exact numbered.setPhase h _
  | finished h hphase => exact numbered.setPhase h _
  | idle h => exact numbered
  | flushed h => exact numbered
  | missed h => exact numbered
  | stopped h htimer hphase => exact numbered.setPhase htimer _
  | flushPassed h htimer hpass =>
      obtain ⟨port, frames, rfl, -, -⟩ := completeDelayedUrb_eq hpass
      exact numbered
  | flushFinished h htimer => exact numbered
  | ring h => exact numbered

/-- Every published timer's request is in one place until it was passed on, and then until its
completion is over. -/
structure Custody (s : State) : Prop where
  passes : ∀ n, s.tally Timer.toPass Flush.toPass s.passed n =
    if n < s.timers.length then 1 else 0
  finishes : ∀ n, s.tally Timer.toFinish Flush.toFinish s.urbs n =
    (s.passed.map Prod.fst).count n

theorem Custody.new : Custody .new := ⟨fun _ => rfl, fun _ => rfl⟩

theorem Custody.transfer (custody : Custody s) (hlength : t.timers.length = s.timers.length)
    (hpasses : ∀ n, t.tally Timer.toPass Flush.toPass t.passed n =
      s.tally Timer.toPass Flush.toPass s.passed n)
    (hfinishes : ∀ n, t.tally Timer.toFinish Flush.toFinish t.urbs n +
        (s.passed.map Prod.fst).count n =
      s.tally Timer.toFinish Flush.toFinish s.urbs n + (t.passed.map Prod.fst).count n) :
    Custody t where
  passes := fun n => by rw [hlength, hpasses, custody.passes]
  finishes := fun n => by
    have hold := custody.finishes n
    have hnew := hfinishes n
    omega

/-- A timer moves and stays responsible for its request, or never was. -/
theorem Custody.setPhase (custody : Custody s) {k : Nat} {timer : Timer} {before phase : Phase}
    (numbered : Numbered s) (h : s.timers[k]? = some timer) (hphase : timer.phase = before)
    (hpass : Timer.toPass { timer with phase } = Timer.toPass { timer with phase := before })
    (hfinish : Timer.toFinish { timer with phase } =
      Timer.toFinish { timer with phase := before }) :
    Custody (s.setPhase timer phase) := by
  obtain rfl := numbered k timer h
  subst hphase
  exact custody.transfer (List.length_set ..) (fun _ => tally_setPhase_of_eq h hpass)
    fun _ => congrArg (· + _) (tally_setPhase_of_eq h hfinish)

theorem count_append (calls : List (Nat × DelayedUrb)) (k : Nat) (urb : DelayedUrb) (n : Nat) :
    ((calls ++ [(k, urb)]).map Prod.fst).count n = (calls.map Prod.fst).count n + [k].count n := by
  rw [List.map_append, List.count_append]
  rfl

/-- A callback passes its request on. -/
theorem Custody.passed (custody : Custody s) {timer : Timer} {next : State}
    (h : s.timers[timer.number]? = some timer) (hphase : timer.phase = .unpublished)
    (hpass : completeDelayedUrb s timer = some next) :
    Custody (next.setPhase timer .completing) := by
  obtain ⟨port, frames, rfl, -, -⟩ := completeDelayedUrb_eq hpass
  have htoPass : timer.toPass = some timer.number := by rw [Timer.toPass, hphase]; rfl
  have htoFinish : timer.toFinish = none := by rw [Timer.toFinish, hphase]; rfl
  refine custody.transfer (List.length_set ..) ?_ ?_
  · intro n
    have hgives : [timer.number].count n +
        (s.setPhase timer .completing).tally Timer.toPass Flush.toPass s.passed n =
          s.tally Timer.toPass Flush.toPass s.passed n :=
      tally_setPhase_gives h htoPass rfl
    change (s.setPhase timer .completing).tally Timer.toPass Flush.toPass
      (s.passed ++ [(timer.number, timer.urb)]) n = _
    rw [tally_append]
    omega
  · intro n
    have htakes : (s.setPhase timer .completing).tally Timer.toFinish Flush.toFinish s.urbs n =
        [timer.number].count n + s.tally Timer.toFinish Flush.toFinish s.urbs n :=
      tally_setPhase_takes h htoFinish rfl
    change (s.setPhase timer .completing).tally Timer.toFinish Flush.toFinish s.urbs n + _ =
      _ + ((s.passed ++ [(timer.number, timer.urb)]).map Prod.fst).count n
    rw [count_append]
    omega

/-- A callback returns. -/
theorem Custody.finished (custody : Custody s) {timer : Timer}
    (h : s.timers[timer.number]? = some timer) (hphase : timer.phase = .completing) :
    Custody ((completeUrbAsync s timer).setPhase timer .finished) := by
  have htoPass : timer.toPass = none := by rw [Timer.toPass, hphase]; rfl
  have htoFinish : timer.toFinish = some timer.number := by rw [Timer.toFinish, hphase]; rfl
  refine custody.transfer (List.length_set ..) ?_ ?_
  · intro n
    have hsame : Timer.toPass { timer with phase := .finished } = timer.toPass := htoPass.symm
    exact tally_setPhase_of_eq h hsame
  · intro n
    have hgives : [timer.number].count n +
        (s.setPhase timer .finished).tally Timer.toFinish Flush.toFinish s.urbs n =
          s.tally Timer.toFinish Flush.toFinish s.urbs n :=
      tally_setPhase_gives h htoFinish rfl
    change (s.setPhase timer .finished).tally Timer.toFinish Flush.toFinish
      (s.urbs ++ [(timer.number, timer.urb)]) n + _ = _
    rw [tally_append]
    change _ + (s.passed.map Prod.fst).count n = _ + (s.passed.map Prod.fst).count n
    omega

/-- A flush removes a waiting timer, and with it takes its request. -/
theorem Custody.stopped (custody : Custody s) {flush k : Nat} {timer : Timer}
    (h : s.flushes[flush]? = some (.stopping k)) (htimer : s.timers[timer.number]? = some timer)
    (hphase : timer.phase = .waiting) :
    Custody ((s.setFlush flush (.stopped timer.number)).setPhase timer .removed) := by
  have htoPass : timer.toPass = some timer.number := by rw [Timer.toPass, hphase]; rfl
  have htoFinish : timer.toFinish = none := by rw [Timer.toFinish, hphase]; rfl
  refine custody.transfer (List.length_set ..) ?_ ?_
  · intro n
    have hgives : [timer.number].count n +
        ((s.setFlush flush (.stopped timer.number)).setPhase timer .removed).tally Timer.toPass
          Flush.toPass s.passed n =
        (s.setFlush flush (.stopped timer.number)).tally Timer.toPass Flush.toPass s.passed n :=
      tally_setPhase_gives htimer htoPass rfl
    have htakes : (s.setFlush flush (.stopped timer.number)).tally Timer.toPass Flush.toPass
        s.passed n = [timer.number].count n + s.tally Timer.toPass Flush.toPass s.passed n :=
      tally_setFlush_takes h rfl rfl
    change ((s.setFlush flush (.stopped timer.number)).setPhase timer .removed).tally
      Timer.toPass Flush.toPass s.passed n = _
    omega
  · intro n
    refine congrArg (· + _) ?_
    exact (tally_setPhase_of_eq (s := s.setFlush flush (.stopped timer.number)) htimer
      htoFinish.symm).trans (tally_setFlush_of_eq h rfl)

/-- The flush passes the request on. -/
theorem Custody.flushPassed (custody : Custody s) {flush : Nat} {timer : Timer} {next : State}
    (h : s.flushes[flush]? = some (.stopped timer.number))
    (hpass : completeDelayedUrb s timer = some next) :
    Custody (next.setFlush flush (.completing timer.number)) := by
  obtain ⟨port, frames, rfl, -, -⟩ := completeDelayedUrb_eq hpass
  refine custody.transfer rfl ?_ ?_
  · intro n
    have hgives : [timer.number].count n + (s.setFlush flush (.completing timer.number)).tally
        Timer.toPass Flush.toPass s.passed n = s.tally Timer.toPass Flush.toPass s.passed n :=
      tally_setFlush_gives h rfl rfl
    change (s.setFlush flush (.completing timer.number)).tally Timer.toPass Flush.toPass
      (s.passed ++ [(timer.number, timer.urb)]) n = _
    rw [tally_append]
    omega
  · intro n
    have htakes : (s.setFlush flush (.completing timer.number)).tally Timer.toFinish
        Flush.toFinish s.urbs n =
          [timer.number].count n + s.tally Timer.toFinish Flush.toFinish s.urbs n :=
      tally_setFlush_takes h rfl rfl
    change (s.setFlush flush (.completing timer.number)).tally Timer.toFinish Flush.toFinish
        s.urbs n + _ =
      _ + ((s.passed ++ [(timer.number, timer.urb)]).map Prod.fst).count n
    rw [count_append]
    omega

theorem Custody.flushFinished (custody : Custody s) {flush : Nat} {timer : Timer}
    (h : s.flushes[flush]? = some (.completing timer.number)) :
    Custody ((completeUrbAsync s timer).setFlush flush .returned) := by
  refine custody.transfer rfl ?_ ?_
  · exact fun n => tally_setFlush_of_eq h rfl
  · intro n
    have hgives : [timer.number].count n + (s.setFlush flush .returned).tally Timer.toFinish
        Flush.toFinish s.urbs n = s.tally Timer.toFinish Flush.toFinish s.urbs n :=
      tally_setFlush_gives h rfl rfl
    change (s.setFlush flush .returned).tally Timer.toFinish Flush.toFinish
      (s.urbs ++ [(timer.number, timer.urb)]) n + _ = _
    rw [tally_append]
    change _ + (s.passed.map Prod.fst).count n = _ + (s.passed.map Prod.fst).count n
    omega

/-- A published timer is responsible for its request. -/
theorem Custody.published (custody : Custody s) {urb : DelayedUrb}
    (htimers : t.timers = s.timers ++ [⟨s.timers.length, urb, .created⟩])
    (hflushes : t.flushes = s.flushes) (hpassed : t.passed = s.passed) (hurbs : t.urbs = s.urbs) :
    Custody t where
  passes := by
    intro n
    have hold := custody.passes n
    have hnew : held Timer.toPass t.timers = held Timer.toPass s.timers ++ [s.timers.length] := by
      rw [htimers, held_append]
      rfl
    have hlength : t.timers.length = s.timers.length + 1 := by
      rw [htimers, List.length_append]
      rfl
    have hcount : [s.timers.length].count n = if n = s.timers.length then 1 else 0 := by
      rw [List.count_singleton]
      simp only [beq_iff_eq]
      exact if_congr eq_comm rfl rfl
    rw [State.tally] at hold ⊢
    rw [hnew, hflushes, hpassed, hlength, List.count_append, hcount]
    split_ifs at hold ⊢ <;> omega
  finishes := by
    intro n
    have hnew : held Timer.toFinish t.timers = held Timer.toFinish s.timers := by
      rw [htimers, held_append]
      exact List.append_nil _
    rw [State.tally, hnew, hflushes, hpassed, hurbs]
    exact custody.finishes n

/-- A flush takes the pointer, and not the request. -/
theorem Custody.flushed (custody : Custody s) {k : Nat} (htimers : t.timers = s.timers)
    (hflushes : t.flushes = s.flushes ++ [.stopping k]) (hpassed : t.passed = s.passed)
    (hurbs : t.urbs = s.urbs) : Custody t := by
  have hpass : held Flush.toPass t.flushes = held Flush.toPass s.flushes := by
    rw [hflushes, held_append]
    exact List.append_nil _
  have hfinish : held Flush.toFinish t.flushes = held Flush.toFinish s.flushes := by
    rw [hflushes, held_append]
    exact List.append_nil _
  refine custody.transfer (congrArg _ htimers) ?_ ?_
  · intro n
    rw [State.tally, State.tally, htimers, hpass, hpassed]
  · intro n
    rw [State.tally, State.tally, htimers, hfinish, hurbs, hpassed]

theorem Custody.step (custody : Custody s) (numbered : Numbered s)
    (h : Steps endpointAddress s action t) : Custody t := by
  cases h with
  | refused => exact custody
  | published h => exact custody.published rfl rfl rfl rfl
  | started h hphase => exact custody.setPhase numbered h hphase rfl rfl
  | fired h hphase => exact custody.setPhase numbered h hphase rfl rfl
  | @unpublished k timer h hphase hpublished =>
      have hmoved : Custody (s.setPhase timer .unpublished) :=
        custody.setPhase numbered h hphase rfl rfl
      exact ⟨hmoved.passes, hmoved.finishes⟩
  | taken h hphase => exact custody.setPhase numbered h hphase rfl rfl
  | passed h hphase hpass =>
      obtain rfl := numbered _ _ h
      exact custody.passed h hphase hpass
  | finished h hphase =>
      obtain rfl := numbered _ _ h
      exact custody.finished h hphase
  | idle h => exact custody
  | flushed h => exact custody.flushed rfl rfl rfl rfl
  | missed h =>
      exact custody.transfer rfl (fun _ => tally_setFlush_of_eq h rfl)
        fun _ => congrArg (· + _) (tally_setFlush_of_eq h rfl)
  | stopped h htimer hphase =>
      obtain rfl := numbered _ _ htimer
      exact custody.stopped h htimer hphase
  | flushPassed h htimer hpass =>
      obtain rfl := numbered _ _ htimer
      exact custody.flushPassed h hpass
  | flushFinished h htimer =>
      obtain rfl := numbered _ _ htimer
      exact custody.flushFinished h
  | ring h => exact ⟨custody.passes, custody.finishes⟩

end Custody

section Records

variable {endpointAddress : UInt8} {s t : State} {action : Action}

/-- The count of the endpoint follows the published timer. -/
def Counted (endpointAddress : UInt8) (s : State) : Prop :=
  s.counts = adjustEndpointDelayedPending .zero endpointAddress
    (if s.delayedTimer.isSome then 1 else 0)

theorem Counted.new (endpointAddress : UInt8) : Counted endpointAddress .new :=
  (adjust_zero endpointAddress).symm

/-- A published timer that is taken out of the queue context. -/
theorem Counted.unpublish (counted : Counted endpointAddress s) {k : Nat}
    (h : s.delayedTimer = some k) : Counted endpointAddress (s.unpublish endpointAddress) := by
  rw [Counted, h] at counted
  rw [Counted, State.unpublish, counted, adjust_adjust]
  rfl

theorem Counted.publish (counted : Counted endpointAddress s) (h : s.delayedTimer = none) :
    adjustEndpointDelayedPending s.counts endpointAddress 1 =
      adjustEndpointDelayedPending .zero endpointAddress 1 := by
  rw [Counted, h] at counted
  rw [counted, adjust_adjust]
  rfl

theorem Counted.step (counted : Counted endpointAddress s)
    (h : Steps endpointAddress s action t) : Counted endpointAddress t := by
  cases h with
  | refused => exact counted
  | published h => exact counted.publish h
  | started h hphase => exact counted
  | fired h hphase => exact counted
  | unpublished h hphase hpublished => exact counted.unpublish hpublished
  | taken h hphase => exact counted
  | passed h hphase hpass =>
      obtain ⟨port, frames, rfl, -, -⟩ := completeDelayedUrb_eq hpass
      exact counted
  | finished h hphase => exact counted
  | idle h => exact counted
  | flushed h => exact counted.unpublish h
  | missed h => exact counted
  | stopped h htimer hphase => exact counted
  | flushPassed h htimer hpass =>
      obtain ⟨port, frames, rfl, -, -⟩ := completeDelayedUrb_eq hpass
      exact counted
  | flushFinished h htimer => exact counted
  | ring h => exact counted

/-- The timer of a request is still there, with the request it was made for. -/
def State.Keeps (s t : State) : Prop :=
  ∀ (k : Nat) (timer : Timer), s.timers[k]? = some timer →
    ∃ timer' : Timer, t.timers[k]? = some timer' ∧ timer'.urb = timer.urb

theorem State.Keeps.refl (h : t.timers = s.timers) : s.Keeps t :=
  fun _ timer htimer => ⟨timer, h ▸ htimer, rfl⟩

theorem State.Keeps.setPhase (numbered : Numbered s) {k : Nat} {timer : Timer}
    (h : s.timers[k]? = some timer) (phase : Phase) : s.Keeps (s.setPhase timer phase) := by
  obtain rfl := numbered k timer h
  intro j other hother
  by_cases heq : timer.number = j
  · subst heq
    obtain rfl := Option.some.inj (h.symm.trans hother)
    refine ⟨{ timer with phase }, ?_, rfl⟩
    exact List.getElem?_set_self (List.getElem?_eq_some_iff.mp h).1
  · exact ⟨other, (List.getElem?_set_ne heq).trans hother, rfl⟩

theorem Steps.keeps (numbered : Numbered s) (h : Steps endpointAddress s action t) :
    s.Keeps t := by
  cases h with
  | published h =>
      intro k timer htimer
      refine ⟨timer, ?_, rfl⟩
      exact (List.getElem?_append_left (List.getElem?_eq_some_iff.mp htimer).1).trans htimer
  | started h hphase => exact .setPhase numbered h _
  | fired h hphase => exact .setPhase numbered h _
  | unpublished h hphase hpublished => exact State.Keeps.setPhase numbered h .unpublished
  | taken h hphase => exact .setPhase numbered h _
  | passed h hphase hpass =>
      obtain ⟨port, frames, rfl, -, -⟩ := completeDelayedUrb_eq hpass
      exact State.Keeps.setPhase numbered h .completing
  | finished h hphase => exact State.Keeps.setPhase numbered h .finished
  | stopped h htimer hphase => exact State.Keeps.setPhase numbered htimer .removed
  | flushPassed h htimer hpass =>
      obtain ⟨port, frames, rfl, -, -⟩ := completeDelayedUrb_eq hpass
      exact .refl rfl
  | refused => exact .refl rfl
  | idle h => exact .refl rfl
  | flushed h => exact .refl rfl
  | missed h => exact .refl rfl
  | flushFinished h htimer => exact .refl rfl
  | ring h => exact .refl rfl

/-- The entries of a list of calls are of published timers. -/
def State.Genuine (s : State) (calls : List (Nat × DelayedUrb)) : Prop :=
  ∀ call ∈ calls, ∃ timer : Timer, s.timers[call.1]? = some timer ∧ timer.urb = call.2

theorem State.Genuine.keeps {calls : List (Nat × DelayedUrb)} (genuine : s.Genuine calls)
    (keeps : s.Keeps t) : t.Genuine calls := by
  intro call hcall
  obtain ⟨timer, htimer, hurb⟩ := genuine call hcall
  obtain ⟨timer', htimer', hurb'⟩ := keeps _ timer htimer
  exact ⟨timer', htimer', hurb'.trans hurb⟩

theorem State.Genuine.append {calls : List (Nat × DelayedUrb)} (genuine : s.Genuine calls)
    {timer : Timer} (h : s.timers[timer.number]? = some timer) :
    s.Genuine (calls ++ [(timer.number, timer.urb)]) := by
  intro call hcall
  rcases List.mem_append.mp hcall with hold | hnew
  · exact genuine call hold
  · rw [List.mem_singleton.mp hnew]
    exact ⟨timer, h, rfl⟩

/-- The calls of the frames are those of the requests that were passed on. -/
structure Recorded (s : State) : Prop where
  passed : s.Genuine s.passed
  urbs : s.Genuine s.urbs
  frames : ∀ k, (s.frames.filter (·.timer = k)).map (fun call =>
      (call.frameType, call.payload)) =
    (s.passed.filter (·.1 = k)).flatMap fun call => call.2.frame.toList

theorem Recorded.new : Recorded .new :=
  ⟨fun _ h => absurd h List.not_mem_nil, fun _ h => absurd h List.not_mem_nil, fun _ => rfl⟩

theorem Recorded.keeps (recorded : Recorded s) (keeps : s.Keeps t) (hpassed : t.passed = s.passed)
    (hurbs : t.urbs = s.urbs) (hframes : t.frames = s.frames) : Recorded t where
  passed := hpassed ▸ recorded.passed.keeps keeps
  urbs := hurbs ▸ recorded.urbs.keeps keeps
  frames := hframes ▸ hpassed ▸ recorded.frames

theorem Recorded.pass (recorded : Recorded s) {timer : Timer} {next : State}
    (h : s.timers[timer.number]? = some timer) (hpass : completeDelayedUrb s timer = some next) :
    Recorded next := by
  obtain ⟨port, frames, rfl, howner, hframes⟩ := completeDelayedUrb_eq hpass
  refine ⟨recorded.passed.append h, recorded.urbs, ?_⟩
  intro k
  have hold := recorded.frames k
  simp only [List.filter_append, List.map_append, List.flatMap_append, hold]
  refine congrArg _ ?_
  by_cases hk : timer.number = k
  · subst hk
    have hall : frames.filter (·.timer = timer.number) = frames :=
      List.filter_eq_self.mpr fun call hcall => decide_eq_true (howner call hcall)
    have hone : [(timer.number, timer.urb)].filter (fun call => decide (call.1 = timer.number)) =
        [(timer.number, timer.urb)] :=
      List.filter_cons_of_pos (decide_eq_true rfl)
    rw [hall, hone, hframes, List.flatMap_singleton]
  · have hall : frames.filter (·.timer = k) = [] :=
      List.filter_eq_nil_iff.mpr fun call hcall hsame =>
        hk ((howner call hcall).symm.trans (of_decide_eq_true hsame))
    have hone : [(timer.number, timer.urb)].filter (fun call => decide (call.1 = k)) = [] :=
      List.filter_cons_of_neg fun hsame => hk (of_decide_eq_true hsame)
    rw [hall, hone]
    rfl

theorem Recorded.finish (recorded : Recorded s) {timer : Timer}
    (h : s.timers[timer.number]? = some timer) : Recorded (completeUrbAsync s timer) :=
  ⟨recorded.passed, recorded.urbs.append h, recorded.frames⟩

theorem Recorded.step (recorded : Recorded s) (numbered : Numbered s)
    (h : Steps endpointAddress s action t) : Recorded t := by
  have keeps := h.keeps numbered
  cases h with
  | refused => exact recorded
  | published h => exact recorded.keeps keeps rfl rfl rfl
  | started h hphase => exact recorded.keeps keeps rfl rfl rfl
  | fired h hphase => exact recorded.keeps keeps rfl rfl rfl
  | unpublished h hphase hpublished => exact recorded.keeps keeps rfl rfl rfl
  | taken h hphase => exact recorded.keeps keeps rfl rfl rfl
  | @passed k timer next h hphase hpass =>
      obtain rfl := numbered k timer h
      have hnext := recorded.pass h hpass
      obtain ⟨port, frames, rfl, -, -⟩ := completeDelayedUrb_eq hpass
      exact hnext.keeps keeps rfl rfl rfl
  | @finished k timer h hphase =>
      obtain rfl := numbered k timer h
      exact (recorded.finish h).keeps keeps rfl rfl rfl
  | idle h => exact recorded
  | flushed h => exact recorded.keeps keeps rfl rfl rfl
  | missed h => exact recorded.keeps keeps rfl rfl rfl
  | stopped h htimer hphase => exact recorded.keeps keeps rfl rfl rfl
  | @flushPassed flush k timer next h htimer hpass =>
      obtain rfl := numbered k timer htimer
      have hnext := recorded.pass htimer hpass
      obtain ⟨port, frames, rfl, -, -⟩ := completeDelayedUrb_eq hpass
      exact hnext.keeps keeps rfl rfl rfl
  | @flushFinished flush k timer h htimer =>
      obtain rfl := numbered k timer htimer
      exact (recorded.finish htimer).keeps keeps rfl rfl rfl
  | ring h => exact recorded.keeps keeps rfl rfl rfl

end Records

section Removal

variable {endpointAddress : UInt8} {s t : State} {action : Action}

/-- The request that a flush is responsible for. -/
def Flush.request : Flush → Option Nat
  | .stopped timer => some timer
  | .completing timer => some timer
  | _ => none

/-- A flush answers only for a timer that `WdfTimerStop` removed. -/
def Removals (s : State) : Prop :=
  ∀ flush ∈ s.flushes, ∀ k ∈ flush.request,
    ∃ timer : Timer, s.timers[k]? = some timer ∧ timer.phase = .removed

theorem Removals.new : Removals .new := fun _ h => absurd h List.not_mem_nil

/-- A timer that was not removed moves. -/
theorem Removals.setPhase (removals : Removals s) (numbered : Numbered s) {k : Nat}
    {timer : Timer} {before after : Phase} (h : s.timers[k]? = some timer)
    (hphase : timer.phase = before) (hbefore : before ≠ .removed) :
    Removals (s.setPhase timer after) := by
  obtain rfl := numbered k timer h
  intro flush hflush j hj
  obtain ⟨other, hother, hremoved⟩ := removals flush hflush j hj
  have hne : timer.number ≠ j := by
    rintro rfl
    obtain rfl := Option.some.inj (h.symm.trans hother)
    exact hbefore (hphase.symm.trans hremoved)
  exact ⟨other, (List.getElem?_set_ne hne).trans hother, hremoved⟩

/-- A flush moves to a place where it answers for the same request or for none. -/
theorem Removals.setFlush (removals : Removals s) {flush : Nat} {before after : Flush}
    (h : s.flushes[flush]? = some before)
    (hafter : ∀ k ∈ after.request, k ∈ before.request) : Removals (s.setFlush flush after) := by
  intro place hplace k hk
  rcases List.mem_or_eq_of_mem_set hplace with hold | rfl
  · exact removals place hold k hk
  · exact removals before (List.mem_of_getElem? h) k (hafter k hk)

theorem Removals.stopped (removals : Removals s) (numbered : Numbered s) {flush k : Nat}
    {timer : Timer} (htimer : s.timers[k]? = some timer) (hphase : timer.phase = .waiting) :
    Removals ((s.setFlush flush (.stopped timer.number)).setPhase timer .removed) := by
  have hmoved : Removals (s.setPhase timer .removed) :=
    removals.setPhase numbered htimer hphase (by decide)
  obtain rfl := numbered k timer htimer
  intro place hplace j hj
  rcases List.mem_or_eq_of_mem_set hplace with hold | rfl
  · exact hmoved place hold j hj
  · obtain rfl := Option.some.inj hj
    exact ⟨_, List.getElem?_set_self (List.getElem?_eq_some_iff.mp htimer).1, rfl⟩

theorem Removals.step (removals : Removals s) (numbered : Numbered s)
    (h : Steps endpointAddress s action t) : Removals t := by
  cases h with
  | refused => exact removals
  | published h =>
      intro flush hflush k hk
      obtain ⟨timer, htimer, hremoved⟩ := removals flush hflush k hk
      refine ⟨timer, ?_, hremoved⟩
      exact (List.getElem?_append_left (List.getElem?_eq_some_iff.mp htimer).1).trans htimer
  | started h hphase =>
      exact removals.setPhase numbered h hphase (by decide)
  | fired h hphase =>
      exact removals.setPhase numbered h hphase (by decide)
  | @unpublished k timer h hphase hpublished =>
      have hmoved : Removals (s.setPhase timer .unpublished) :=
        removals.setPhase numbered h hphase (by decide)
      exact hmoved
  | taken h hphase =>
      exact removals.setPhase numbered h hphase (by decide)
  | @passed k timer next h hphase hpass =>
      have hmoved : Removals (s.setPhase timer .completing) :=
        removals.setPhase numbered h hphase (by decide)
      obtain ⟨port, frames, rfl, -, -⟩ := completeDelayedUrb_eq hpass
      exact hmoved
  | @finished k timer h hphase =>
      have hmoved : Removals (s.setPhase timer .finished) :=
        removals.setPhase numbered h hphase (by decide)
      exact hmoved
  | idle h => exact removals
  | flushed h =>
      intro flush hflush k hk
      rcases List.mem_append.mp hflush with hold | hnew
      · exact removals flush hold k hk
      · rw [List.mem_singleton.mp hnew] at hk
        cases hk
  | missed h => exact removals.setFlush h fun k hk => by cases hk
  | stopped h htimer hphase => exact removals.stopped numbered htimer hphase
  | @flushPassed flush k timer next h htimer hpass =>
      obtain rfl := numbered k timer htimer
      have hmoved : Removals (s.setFlush flush (.completing timer.number)) :=
        removals.setFlush h fun k hk => hk
      obtain ⟨port, frames, rfl, -, -⟩ := completeDelayedUrb_eq hpass
      exact hmoved
  | @flushFinished flush k timer h htimer =>
      have hmoved : Removals (s.setFlush flush .returned) :=
        removals.setFlush h fun k hk => by cases hk
      exact hmoved
  | ring h => exact removals

end Removal

section Run

variable {endpointAddress : UInt8} {s t : State} {action : Action} {actions : List Action}

/-- What holds in every state of every run. -/
structure Inv (endpointAddress : UInt8) (s : State) : Prop where
  numbered : Numbered s
  custody : Custody s
  counted : Counted endpointAddress s
  recorded : Recorded s
  removals : Removals s

theorem Inv.new (endpointAddress : UInt8) : Inv endpointAddress .new :=
  ⟨.new, .new, .new endpointAddress, .new, .new⟩

theorem Inv.step (inv : Inv endpointAddress s) (h : step endpointAddress s action = some t) :
    Inv endpointAddress t := by
  have hsteps := steps_of_step h
  exact ⟨inv.numbered.step hsteps, inv.custody.step inv.numbered hsteps,
    inv.counted.step hsteps, inv.recorded.step inv.numbered hsteps,
    inv.removals.step inv.numbered hsteps⟩

theorem inv_of_run (run : Run (step endpointAddress) .new actions s) : Inv endpointAddress s :=
  run.invariant (fun _ _ _ inv _ h => inv.step h) (.new endpointAddress)

/-- What a timer holds is its own request. -/
theorem Inv.count_held (inv : Inv endpointAddress s) {ofTimer : Timer → Option Nat}
    (hown : ∀ (timer : Timer) k, ofTimer timer = some k → timer.number = k) {timer : Timer}
    (h : timer ∈ s.timers) (hnone : ofTimer timer = none) :
    (held ofTimer s.timers).count timer.number = 0 := by
  refine List.count_eq_zero.mpr fun hmem => ?_
  obtain ⟨other, hother, hheld⟩ := mem_held.mp hmem
  obtain ⟨i, hi⟩ := List.mem_iff_getElem?.mp h
  obtain ⟨j, hj⟩ := List.mem_iff_getElem?.mp hother
  have hsame : i = j := by
    rw [← inv.numbered i timer hi, ← inv.numbered j other hj, hown other _ hheld]
  subst hsame
  obtain rfl := Option.some.inj (hi.symm.trans hj)
  rw [hnone] at hheld
  cases hheld

theorem toPass_number (timer : Timer) (k : Nat) (h : timer.toPass = some k) :
    timer.number = k := by
  unfold Timer.toPass at h
  split_ifs at h
  exact Option.some.inj h

theorem toFinish_number (timer : Timer) (k : Nat) (h : timer.toFinish = some k) :
    timer.number = k := by
  unfold Timer.toFinish at h
  split_ifs at h
  exact Option.some.inj h

/-- No flush answers for a timer that is settled. -/
theorem Inv.request_ne (inv : Inv endpointAddress s) {timer : Timer} (h : timer ∈ s.timers)
    (settled : s.Settled timer) {flush : Flush} (hflush : flush ∈ s.flushes) :
    flush.request ≠ some timer.number := by
  intro hrequest
  rcases settled with hphase | ⟨-, hfree⟩
  · obtain ⟨other, hother, hremoved⟩ := inv.removals flush hflush _ hrequest
    obtain ⟨i, hi⟩ := List.mem_iff_getElem?.mp h
    obtain rfl := inv.numbered i timer hi
    obtain rfl := Option.some.inj (hi.symm.trans hother)
    rw [hphase] at hremoved
    cases hremoved
  · cases flush with
    | stopped k => exact (hfree _ hflush).1 (congrArg _ (Option.some.inj hrequest))
    | completing k => exact (hfree _ hflush).2 (congrArg _ (Option.some.inj hrequest))
    | stopping k => cases hrequest
    | returned => cases hrequest

theorem count_held_flushes {ofFlush : Flush → Option Nat} {k : Nat}
    (hown : ∀ flush, ofFlush flush = some k → flush.request = some k)
    (h : ∀ flush ∈ s.flushes, flush.request ≠ some k) :
    (held ofFlush s.flushes).count k = 0 := by
  refine List.count_eq_zero.mpr fun hmem => ?_
  obtain ⟨flush, hflush, hheld⟩ := mem_held.mp hmem
  exact h flush hflush (hown flush hheld)

theorem request_of_toPass {k : Nat} (flush : Flush) (h : flush.toPass = some k) :
    flush.request = some k := by
  cases flush with
  | stopped timer => exact h
  | stopping timer => cases h
  | completing timer => cases h
  | returned => cases h

theorem request_of_toFinish {k : Nat} (flush : Flush) (h : flush.toFinish = some k) :
    flush.request = some k := by
  cases flush with
  | completing timer => exact h
  | stopping timer => cases h
  | stopped timer => cases h
  | returned => cases h

theorem Settled.toPass {timer : Timer} (settled : s.Settled timer) : timer.toPass = none := by
  rcases settled with hphase | ⟨hphase, -⟩
  · rw [Timer.toPass, hphase]
    rfl
  · rw [Timer.toPass, hphase]
    rfl

theorem Settled.toFinish {timer : Timer} (settled : s.Settled timer) : timer.toFinish = none := by
  rcases settled with hphase | ⟨hphase, -⟩
  · rw [Timer.toFinish, hphase]
    rfl
  · rw [Timer.toFinish, hphase]
    rfl

/-- A settled request was passed on once, and its completion is over. -/
theorem Inv.count_settled (inv : Inv endpointAddress s) {timer : Timer} (h : timer ∈ s.timers)
    (settled : s.Settled timer) :
    (s.passed.map Prod.fst).count timer.number = 1 ∧
      (s.urbs.map Prod.fst).count timer.number = 1 := by
  have hlt : timer.number < s.timers.length := by
    obtain ⟨i, hi⟩ := List.mem_iff_getElem?.mp h
    rw [inv.numbered i timer hi]
    exact (List.getElem?_eq_some_iff.mp hi).1
  have hpasses := inv.custody.passes timer.number
  have hfinishes := inv.custody.finishes timer.number
  rw [State.tally, inv.count_held toPass_number h (Settled.toPass settled),
    count_held_flushes request_of_toPass fun _ => inv.request_ne h settled, if_pos hlt] at hpasses
  rw [State.tally, inv.count_held toFinish_number h (Settled.toFinish settled),
    count_held_flushes request_of_toFinish fun _ => inv.request_ne h settled] at hfinishes
  omega

theorem length_filter_eq_count {α : Type} (number : α → Nat) (items : List α) (k : Nat) :
    (items.filter (number · = k)).length = (items.map number).count k := by
  rw [List.count_eq_countP, List.countP_map, ← List.countP_eq_length_filter]
  refine List.countP_congr fun item _ => ?_
  rw [Function.comp_apply, beq_iff_eq, decide_eq_true_iff]

/-- The one entry of a timer. -/
theorem Inv.filter_eq (inv : Inv endpointAddress s) {timer : Timer} (h : timer ∈ s.timers)
    {calls : List (Nat × DelayedUrb)} (genuine : s.Genuine calls)
    (hcount : (calls.map Prod.fst).count timer.number = 1) :
    calls.filter (·.1 = timer.number) = [(timer.number, timer.urb)] := by
  have hlength : (calls.filter (·.1 = timer.number)).length = 1 :=
    (length_filter_eq_count Prod.fst calls timer.number).trans hcount
  obtain ⟨call, hcall⟩ := List.length_eq_one_iff.mp hlength
  have hmem : call ∈ calls.filter (·.1 = timer.number) := hcall ▸ List.mem_singleton.mpr rfl
  obtain ⟨hmem, hnumber⟩ := List.mem_filter.mp hmem
  obtain ⟨other, hother, hurb⟩ := genuine call hmem
  obtain ⟨i, hi⟩ := List.mem_iff_getElem?.mp h
  have hsame : call.1 = timer.number := of_decide_eq_true hnumber
  obtain rfl := inv.numbered i timer hi
  rw [hsame] at hother
  obtain rfl := Option.some.inj (hi.symm.trans hother)
  rw [hcall, hurb, ← hsame]

theorem Inv.exactlyOnce (inv : Inv endpointAddress s) : ExactlyOnce endpointAddress s where
  settled := by
    intro timer htimer settled
    obtain ⟨hpassed, hurbs⟩ := inv.count_settled htimer settled
    have hfilter := inv.filter_eq htimer inv.recorded.passed hpassed
    refine ⟨hfilter, ?_, inv.filter_eq htimer inv.recorded.urbs hurbs⟩
    rw [inv.recorded.frames, hfilter, List.flatMap_singleton]
  passed := by
    refine List.nodup_iff_count_le_one.mpr fun k => ?_
    have hpasses := inv.custody.passes k
    rw [State.tally] at hpasses
    split_ifs at hpasses <;> omega
  frames := by
    refine List.nodup_iff_count_le_one.mpr fun k => ?_
    have hpasses := inv.custody.passes k
    have hlength := congrArg List.length (inv.recorded.frames k)
    have hone : (s.passed.filter (·.1 = k)).length ≤ 1 := by
      rw [State.tally] at hpasses
      rw [length_filter_eq_count Prod.fst]
      split_ifs at hpasses <;> omega
    rw [List.length_map, length_filter_eq_count FrameCall.timer] at hlength
    rw [hlength]
    -- a request has at most one frame
    cases hfilter : s.passed.filter (·.1 = k) with
    | nil => exact Nat.zero_le 1
    | cons call rest =>
        rw [hfilter, List.length_cons] at hone
        obtain rfl := List.eq_nil_of_length_eq_zero (l := rest) (by omega)
        rw [List.flatMap_singleton]
        exact Option.length_toList_le
  urbs := by
    refine List.nodup_iff_count_le_one.mpr fun k => ?_
    have hpasses := inv.custody.passes k
    have hfinishes := inv.custody.finishes k
    rw [State.tally] at hpasses hfinishes
    split_ifs at hpasses <;> omega
  counted := by
    intro count hcount
    rw [inv.counted] at hcount
    exact count_adjust endpointAddress _ hcount

/-- In every state of every run, each request was passed on at most once and exactly once when
its timer is settled, and the endpoint's count is right. -/
theorem exactlyOnce_of_run (run : Run (step endpointAddress) .new actions s) :
    ExactlyOnce endpointAddress s :=
  (inv_of_run run).exactlyOnce

/-- The URB of a microphone request, without a frame. -/
def micUrb : DelayedUrb := ⟨8, 192, 0, 0, true, 0, none⟩

/-- The URB of an audio request with its frame. -/
def audioUrb : DelayedUrb := ⟨7, 2, 0, 0, true, 4, some ⟨[0x10, 0x20], by decide⟩⟩

/-- A flush takes the first timer before it is started, and a second flush stops the next one. -/
def flushedTwice : List Action :=
  [.completeUrbAfterDelay audioUrb true, .flush, .flushStop 0, .timerStart 0,
    .completeUrbAfterDelay micUrb true, .completeUrbAfterDelay micUrb true, .timerFire 0,
    .timerUnpublish 0, .timerComplete 0, .timerFinish 0, .timerStart 1, .flush, .flushStop 1,
    .flushComplete 1, .flushFinish 1]

theorem exactlyOnce_flushedTwice :
    ∃ s, Run (step vdsUsbAudioOutEndpoint) .new flushedTwice s ∧
      (s.passed.length = 2 ∧ s.frames.length = 1 ∧ s.timers.length = 2) ∧
      ExactlyOnce vdsUsbAudioOutEndpoint s := by
  have hrun : ∃ s, Run (step vdsUsbAudioOutEndpoint) .new flushedTwice s ∧
      s.passed.length = 2 ∧ s.frames.length = 1 ∧ s.timers.length = 2 :=
    exists_run_of_execute (by decide +kernel)
  obtain ⟨s, run, hlengths⟩ := hrun
  exact ⟨s, run, hlengths, exactlyOnce_of_run run⟩

end Run

section Progress

variable {endpointAddress : UInt8} {s t : State} {action : Action} {actions : List Action}

/-- The control ring holds a queue of frames. -/
def Ringed (s : State) : Prop := ∃ q, HoldsFrames s.port q

/-- `VdsQueueFrame` accepts the frame or refuses it. -/
theorem Ringed.pass (ringed : Ringed s) (timer : Timer) :
    ∃ next, completeDelayedUrb s timer = some next ∧ Ringed next := by
  obtain ⟨q, holds⟩ := ringed
  unfold completeDelayedUrb
  cases timer.urb.frame with
  | none => exact ⟨_, rfl, q, holds⟩
  | some frame =>
      obtain ⟨frameType, payload⟩ := frame
      obtain ⟨port, hlocked, holds'⟩ := holds.queueFrame frameType payload
      refine ⟨_, Option.map_eq_some_iff.mpr ⟨_, hlocked, rfl⟩, _, holds'⟩

theorem Ringed.step (ringed : Ringed s) (h : Steps endpointAddress s action t) : Ringed t := by
  cases h with
  | passed h hphase hpass =>
      obtain ⟨next, hnext, ringed'⟩ := ringed.pass _
      obtain rfl := Option.some.inj (hpass.symm.trans hnext)
      exact ringed'
  | flushPassed h htimer hpass =>
      obtain ⟨next, hnext, ringed'⟩ := ringed.pass _
      obtain rfl := Option.some.inj (hpass.symm.trans hnext)
      exact ringed'
  | @ring operation port result h =>
      obtain ⟨q, holds⟩ := ringed
      obtain ⟨port', hstep, holds'⟩ := refines_frameQueue s.port q operation holds
      obtain ⟨rfl, -⟩ := Prod.mk.inj (Option.some.inj (h.symm.trans hstep))
      exact ⟨_, holds'⟩
  | refused => exact ringed
  | published h => exact ringed
  | started h hphase => exact ringed
  | fired h hphase => exact ringed
  | unpublished h hphase hpublished => exact ringed
  | taken h hphase => exact ringed
  | finished h hphase => exact ringed
  | idle h => exact ringed
  | flushed h => exact ringed
  | missed h => exact ringed
  | stopped h htimer hphase => exact ringed
  | flushFinished h htimer => exact ringed

/-- No callback gets stuck at the control ring. -/
theorem timerComplete_isSome (run : Run (step endpointAddress) .new actions s) {k : Nat}
    {timer : Timer} (h : s.inPhase k .unpublished = some timer) :
    (step endpointAddress s (.timerComplete k)).isSome = true := by
  have ringed : Ringed s :=
    run.invariant (fun _ _ _ ringed _ h => ringed.step (steps_of_step h)) ⟨_, HoldsFrames.new⟩
  obtain ⟨next, hpass, -⟩ := ringed.pass timer
  rw [step, h, Option.bind_some, hpass]
  rfl

end Progress

end VirtualDualSense.WinDrv.DelayedUrbs
