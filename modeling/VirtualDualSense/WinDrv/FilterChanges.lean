import VirtualDualSense.Lib.Runs
import VirtualDualSense.WinDrv.FilterDevices

/-!
# Device changes of the filter driver

The plug and play threads of the HID collections change the device list, advance its
generation and complete the waits for a change. A client reads the list with its
generation and waits while that is the current one.

## Implementation notes

The list lock is held while a reply is made, entry by entry; a collection that starts
reads its profile again without that lock, so that a reply may see any mixture of its
fields meanwhile. `bumps` counts the changes of the generation beyond its 32 bits, and the
replies and completions are recorded for the statements. Requests with invalid buffers are
answered at once and left out, as is the driver's unload, which finds no waits.
-/

namespace VirtualDualSense.WinDrv.FilterChanges

open FilterDevices

section States

/-- The progress of the plug and play thread of a collection. -/
inductive Stage
  | absent
  | idle
  /-- `VdsReadPhysicalDeviceProfile` after a start -/
  | reading
  /-- `VdsUpdateDeviceListMembership` is next. -/
  | updating (started : Bool)
  /-- `VdsNotifyDeviceListChanged` is next. -/
  | notifying (removed : Bool)
  /-- The loop of `VdsCompleteDeviceWaitQueue`. -/
  | draining (removed : Bool) (generation : UInt32)
  | completing (removed : Bool) (generation : UInt32) (irp : Nat)
  deriving DecidableEq

structure Device where
  ext : Extension
  stage : Stage
  deriving DecidableEq

/-- The progress of a `VDS_FILTER_IOCTL_WAIT_DEVICE_CHANGE`. -/
inductive WaitStage
  | unused
  | checking (generation : UInt32)
  | inserting (generation : UInt32)
  | queued (generation : UInt32)
  | retrying
  | cancelling
  /-- A plug and play thread has removed it from the queue. -/
  | taken
  | completed
  deriving DecidableEq

inductive Status
  | success
  | cancelled
  deriving DecidableEq

structure Completion where
  irp : Nat
  status : Status
  generation : UInt32
  deriving DecidableEq

/-- A `VDS_FILTER_IOCTL_GET_DEVICES` that has the list lock. -/
structure Walk where
  generation : UInt32
  bumps : Nat
  /-- The loop over the report targets. -/
  target : Bool
  rest : List Nat
  entries : List DeviceInfo
  deriving DecidableEq

/-- A reply. -/
structure Snapshot where
  generation : UInt32
  bumps : Nat
  entries : List DeviceInfo
  deriving DecidableEq

structure Filter where
  devices : Nat → Device
  list : List Nat
  generation : UInt32
  bumps : Nat
  waits : Nat → WaitStage
  queue : List Nat
  walk : Option Walk
  snapshots : List Snapshot
  completions : List Completion

end States

section Steps

def Filter.setDevice (s : Filter) (d : Nat) (device : Device) : Filter :=
  { s with devices := Function.update s.devices d device }

def Filter.setStage (s : Filter) (d : Nat) (stage : Stage) : Filter :=
  s.setDevice d ⟨(s.devices d).ext, stage⟩

def Filter.setWait (s : Filter) (irp : Nat) (stage : WaitStage) : Filter :=
  { s with waits := Function.update s.waits irp stage }

/-- `VdsCompleteDeviceChangeIrp` -/
def Filter.complete (s : Filter) (irp : Nat) (status : Status) (generation : UInt32) : Filter :=
  { s.setWait irp .completed with completions := s.completions ++ [⟨irp, status, generation⟩] }

/-- Whether the collection is to be listed, and `VdsUpdateDeviceListMembership`. -/
def Filter.update (s : Filter) (d : Nat) (started : Bool) : Filter :=
  let ext := (s.devices d).ext
  let shouldList := accessRestricted ext
  if shouldList && !ext.listed then
    { s.setDevice d ⟨{ ext with listed := true }, .notifying false⟩ with list := s.list ++ [d] }
  else if !shouldList && ext.listed then
    { s.setDevice d ⟨{ ext with listed := false }, .notifying false⟩ with
      list := s.list.erase d }
  else s.setStage d (if started && ext.listed then .notifying false else .idle)

/-- The removal of a collection. -/
def Filter.remove (s : Filter) (d : Nat) : Filter :=
  let ext := (s.devices d).ext
  if ext.listed then
    { s.setDevice d ⟨{ ext with listed := false }, .notifying true⟩ with list := s.list.erase d }
  else s.setStage d .absent

def Filter.bump (s : Filter) (d : Nat) (removed : Bool) : Filter :=
  { s.setStage d (.draining removed (s.generation + 1)) with
    generation := s.generation + 1
    bumps := s.bumps + 1 }

/-- The walk over one entry, as its fields are seen. -/
def Walk.visit (walk : Walk) (seen : Extension) (rest : List Nat) : Walk :=
  { walk with
    rest := rest
    entries := if seen.reportTarget = walk.target then appendDeviceListEntry walk.entries seen
      else walk.entries }

inductive Action
  | add (d : Nat) (reportTarget : Bool) (profile : UInt32) (address : List UInt8)
  | start (d : Nat)
  | field (d : Nat) (reportTarget : Bool) (profile : UInt32) (address : List UInt8)
  | readDone (d : Nat)
  | update (d : Nat)
  | remove (d : Nat)
  | bump (d : Nat)
  | take (d : Nat)
  | complete (d : Nat)
  | drained (d : Nat)
  | wait (irp : Nat) (generation : UInt32)
  | check (irp : Nat)
  | insert (irp : Nat)
  | retry (irp : Nat)
  | cancel (irp : Nat)
  | cancelled (irp : Nat)
  | getDevices
  | visit (seen : Extension)
  | finishLoop
  deriving DecidableEq

def step (s : Filter) : Action → Option Filter
  | .add d reportTarget profile address =>
      match (s.devices d).stage with
      | .absent =>
          some (s.setDevice d ⟨⟨false, reportTarget, profile, address⟩, .updating false⟩)
      | _ => none
  | .start d =>
      match (s.devices d).stage with
      | .idle => some (s.setStage d .reading)
      | _ => none
  | .field d reportTarget profile address =>
      match (s.devices d).stage with
      | .reading =>
          let ext := ⟨(s.devices d).ext.listed, reportTarget, profile, address⟩
          some (s.setDevice d ⟨ext, .reading⟩)
      | _ => none
  | .readDone d =>
      match (s.devices d).stage with
      | .reading => some (s.setStage d (.updating true))
      | _ => none
  | .update d =>
      match (s.devices d).stage, s.walk with
      | .updating started, none => some (s.update d started)
      | _, _ => none
  | .remove d =>
      match (s.devices d).stage, s.walk with
      | .idle, none => some (s.remove d)
      | _, _ => none
  | .bump d =>
      match (s.devices d).stage with
      | .notifying removed => some (s.bump d removed)
      | _ => none
  | .take d =>
      match (s.devices d).stage, s.queue with
      | .draining removed generation, irp :: rest =>
          some { (s.setStage d (.completing removed generation irp)).setWait irp .taken with
            queue := rest }
      | _, _ => none
  | .complete d =>
      match (s.devices d).stage with
      | .completing removed generation irp =>
          some ((s.setStage d (.draining removed generation)).complete irp .success generation)
      | _ => none
  | .drained d =>
      match (s.devices d).stage, s.queue with
      | .draining removed _, [] => some (s.setStage d (if removed then .absent else .idle))
      | _, _ => none
  | .wait irp generation =>
      match s.waits irp with
      | .unused => some (s.setWait irp (.checking generation))
      | _ => none
  | .check irp =>
      match s.waits irp with
      | .checking generation =>
          if generation ≠ s.generation then some (s.complete irp .success s.generation)
          else some (s.setWait irp (.inserting generation))
      | _ => none
  | .insert irp =>
      match s.waits irp with
      | .inserting generation =>
          if generation ≠ s.generation then some (s.setWait irp .retrying)
          else some { s.setWait irp (.queued generation) with queue := s.queue ++ [irp] }
      | _ => none
  | .retry irp =>
      match s.waits irp with
      | .retrying => some (s.complete irp .success s.generation)
      | _ => none
  | .cancel irp =>
      match s.waits irp with
      | .queued _ => some { s.setWait irp .cancelling with queue := s.queue.erase irp }
      | _ => none
  | .cancelled irp =>
      match s.waits irp with
      | .cancelling => some (s.complete irp .cancelled 0)
      | _ => none
  | .getDevices =>
      match s.walk with
      | none => some { s with walk := some ⟨s.generation, s.bumps, true, s.list, []⟩ }
      | some _ => none
  | .visit seen =>
      match s.walk with
      | some walk =>
          match walk.rest with
          | d :: rest =>
              -- a collection that reads its profile may be seen in any state
              if seen = (s.devices d).ext ∨ (s.devices d).stage = .reading then
                some { s with walk := some (walk.visit seen rest) }
              else none
          | [] => none
      | none => none
  | .finishLoop =>
      match s.walk with
      | some walk =>
          match walk.rest, walk.target with
          | [], true => some { s with walk := some { walk with target := false, rest := s.list } }
          | [], false =>
              some { s with
                walk := none
                snapshots := s.snapshots ++ [⟨walk.generation, walk.bumps, walk.entries⟩] }
          | _ :: _, _ => none
      | none => none

/-- `DriverEntry` -/
def init : Filter where
  devices _ := ⟨⟨false, false, 0, []⟩, .absent⟩
  list := []
  generation := 1
  bumps := 0
  waits _ := .unused
  queue := []
  walk := none
  snapshots := []
  completions := []

end Steps

section Inversion

/-- What a step can do, by the stage of its thread. -/
inductive Steps (s : Filter) : Action → Filter → Prop
  | add (d : Nat) (reportTarget : Bool) (profile : UInt32) (address : List UInt8)
      (stage : (s.devices d).stage = .absent) :
      Steps s (.add d reportTarget profile address)
        (s.setDevice d ⟨⟨false, reportTarget, profile, address⟩, .updating false⟩)
  | start (d : Nat) (stage : (s.devices d).stage = .idle) :
      Steps s (.start d) (s.setStage d .reading)
  | field (d : Nat) (reportTarget : Bool) (profile : UInt32) (address : List UInt8)
      (stage : (s.devices d).stage = .reading) :
      Steps s (.field d reportTarget profile address)
        (s.setDevice d ⟨⟨(s.devices d).ext.listed, reportTarget, profile, address⟩, .reading⟩)
  | readDone (d : Nat) (stage : (s.devices d).stage = .reading) :
      Steps s (.readDone d) (s.setStage d (.updating true))
  | update (d : Nat) (started : Bool) (stage : (s.devices d).stage = .updating started)
      (free : s.walk = none) : Steps s (.update d) (s.update d started)
  | remove (d : Nat) (stage : (s.devices d).stage = .idle) (free : s.walk = none) :
      Steps s (.remove d) (s.remove d)
  | bump (d : Nat) (removed : Bool) (stage : (s.devices d).stage = .notifying removed) :
      Steps s (.bump d) (s.bump d removed)
  | take (d : Nat) (removed : Bool) (generation : UInt32) (irp : Nat) (rest : List Nat)
      (stage : (s.devices d).stage = .draining removed generation)
      (queue : s.queue = irp :: rest) :
      Steps s (.take d)
        { (s.setStage d (.completing removed generation irp)).setWait irp .taken with
          queue := rest }
  | complete (d : Nat) (removed : Bool) (generation : UInt32) (irp : Nat)
      (stage : (s.devices d).stage = .completing removed generation irp) :
      Steps s (.complete d)
        ((s.setStage d (.draining removed generation)).complete irp .success generation)
  | drained (d : Nat) (removed : Bool) (generation : UInt32)
      (stage : (s.devices d).stage = .draining removed generation) (queue : s.queue = []) :
      Steps s (.drained d) (s.setStage d (if removed then .absent else .idle))
  | wait (irp : Nat) (generation : UInt32) (stage : s.waits irp = .unused) :
      Steps s (.wait irp generation) (s.setWait irp (.checking generation))
  | stale (irp : Nat) (generation : UInt32) (stage : s.waits irp = .checking generation)
      (differs : generation ≠ s.generation) :
      Steps s (.check irp) (s.complete irp .success s.generation)
  | check (irp : Nat) (generation : UInt32) (stage : s.waits irp = .checking generation)
      (current : generation = s.generation) :
      Steps s (.check irp) (s.setWait irp (.inserting generation))
  | refuse (irp : Nat) (generation : UInt32) (stage : s.waits irp = .inserting generation)
      (differs : generation ≠ s.generation) :
      Steps s (.insert irp) (s.setWait irp .retrying)
  | insert (irp : Nat) (generation : UInt32) (stage : s.waits irp = .inserting generation)
      (current : generation = s.generation) :
      Steps s (.insert irp)
        { s.setWait irp (.queued generation) with queue := s.queue ++ [irp] }
  | retry (irp : Nat) (stage : s.waits irp = .retrying) :
      Steps s (.retry irp) (s.complete irp .success s.generation)
  | cancel (irp : Nat) (generation : UInt32) (stage : s.waits irp = .queued generation) :
      Steps s (.cancel irp) { s.setWait irp .cancelling with queue := s.queue.erase irp }
  | cancelled (irp : Nat) (stage : s.waits irp = .cancelling) :
      Steps s (.cancelled irp) (s.complete irp .cancelled 0)
  | getDevices (free : s.walk = none) :
      Steps s .getDevices { s with walk := some ⟨s.generation, s.bumps, true, s.list, []⟩ }
  | visit (seen : Extension) (walk : Walk) (d : Nat) (rest : List Nat) (held : s.walk = some walk)
      (next : walk.rest = d :: rest)
      (read : seen = (s.devices d).ext ∨ (s.devices d).stage = .reading) :
      Steps s (.visit seen) { s with walk := some (walk.visit seen rest) }
  | nextLoop (walk : Walk) (held : s.walk = some walk) (next : walk.rest = [])
      (target : walk.target = true) :
      Steps s .finishLoop { s with walk := some { walk with target := false, rest := s.list } }
  | reply (walk : Walk) (held : s.walk = some walk) (next : walk.rest = [])
      (target : walk.target = false) :
      Steps s .finishLoop
        { s with
          walk := none
          snapshots := s.snapshots ++ [⟨walk.generation, walk.bumps, walk.entries⟩] }

variable {s t : Filter} {action : Action}

theorem steps_of_step (h : step s action = some t) : Steps s action t := by
  cases action with
  | add d reportTarget profile address =>
      simp only [step] at h
      split at h
      · rename_i stage
        obtain rfl := Option.some.inj h
        exact .add d reportTarget profile address stage
      · cases h
  | start d =>
      simp only [step] at h
      split at h
      · rename_i stage
        obtain rfl := Option.some.inj h
        exact .start d stage
      · cases h
  | field d reportTarget profile address =>
      simp only [step] at h
      split at h
      · rename_i stage
        obtain rfl := Option.some.inj h
        exact .field d reportTarget profile address stage
      · cases h
  | readDone d =>
      simp only [step] at h
      split at h
      · rename_i stage
        obtain rfl := Option.some.inj h
        exact .readDone d stage
      · cases h
  | update d =>
      simp only [step] at h
      split at h
      · rename_i started stage free
        obtain rfl := Option.some.inj h
        exact .update d started stage free
      · cases h
  | remove d =>
      simp only [step] at h
      split at h
      · rename_i stage free
        obtain rfl := Option.some.inj h
        exact .remove d stage free
      · cases h
  | bump d =>
      simp only [step] at h
      split at h
      · rename_i removed stage
        obtain rfl := Option.some.inj h
        exact .bump d removed stage
      · cases h
  | take d =>
      simp only [step] at h
      split at h
      · rename_i removed generation irp rest stage queue
        obtain rfl := Option.some.inj h
        exact .take d removed generation irp rest stage queue
      · cases h
  | complete d =>
      simp only [step] at h
      split at h
      · rename_i removed generation irp stage
        obtain rfl := Option.some.inj h
        exact .complete d removed generation irp stage
      · cases h
  | drained d =>
      simp only [step] at h
      split at h
      · rename_i removed generation stage queue
        obtain rfl := Option.some.inj h
        exact .drained d removed generation stage queue
      · cases h
  | wait irp generation =>
      simp only [step] at h
      split at h
      · rename_i stage
        obtain rfl := Option.some.inj h
        exact .wait irp generation stage
      · cases h
  | check irp =>
      simp only [step] at h
      split at h
      · rename_i generation stage
        split at h
        · rename_i differs
          obtain rfl := Option.some.inj h
          exact .stale irp generation stage differs
        · rename_i same
          obtain rfl := Option.some.inj h
          exact .check irp generation stage (not_not.mp same)
      · cases h
  | insert irp =>
      simp only [step] at h
      split at h
      · rename_i generation stage
        split at h
        · rename_i differs
          obtain rfl := Option.some.inj h
          exact .refuse irp generation stage differs
        · rename_i same
          obtain rfl := Option.some.inj h
          exact .insert irp generation stage (not_not.mp same)
      · cases h
  | retry irp =>
      simp only [step] at h
      split at h
      · rename_i stage
        obtain rfl := Option.some.inj h
        exact .retry irp stage
      · cases h
  | cancel irp =>
      simp only [step] at h
      split at h
      · rename_i generation stage
        obtain rfl := Option.some.inj h
        exact .cancel irp generation stage
      · cases h
  | cancelled irp =>
      simp only [step] at h
      split at h
      · rename_i stage
        obtain rfl := Option.some.inj h
        exact .cancelled irp stage
      · cases h
  | getDevices =>
      simp only [step] at h
      split at h
      · rename_i free
        obtain rfl := Option.some.inj h
        exact .getDevices free
      · cases h
  | visit seen =>
      simp only [step] at h
      split at h
      · rename_i walk held
        split at h
        · rename_i d rest next
          obtain ⟨read, hsome⟩ := Option.ite_none_right_eq_some.mp h
          obtain rfl := Option.some.inj hsome
          exact .visit seen walk d rest held next read
        · cases h
      · cases h
  | finishLoop =>
      simp only [step] at h
      split at h
      · rename_i walk held
        split at h
        · rename_i next target
          obtain rfl := Option.some.inj h
          exact .nextLoop walk held next target
        · rename_i next target
          obtain rfl := Option.some.inj h
          exact .reply walk held next target
        · cases h
      · cases h

end Inversion

end VirtualDualSense.WinDrv.FilterChanges
