import VirtualDualSense.Win32.HidTransport

/-!
# The three handles of the transport

The constructor opens all three handles on one interface. Recovery from a failed read
replaces the path and the input handle only. The handles stay on one interface as
long as every recovery finds the interface that they are open on.
-/

namespace VirtualDualSense.Win32.HandleCoherence

open Lib.Runs Lib.Text HidPaths HidTransport

/-- The handles are open on the stored path, and while the input handle works, output
and feature reports can be delivered to the device that the input comes from. -/
structure Coherent (t : Transport) : Prop where
  path : t.handle.path = t.path ∧ t.outputHandle.path = t.path ∧ t.featureHandle.path = t.path
  deliverable : t.outputStopRequested = false → t.live t.handle →
    t.outputHandle = t.handle ∧ t.featureHandle = t.handle ∧ t.outputError = false

/-- The interface that the recovery is about to open. -/
def found (t : Transport) : Option HidInterface :=
  match t.reader with
  | .opening _ newPath => t.host.system.createFile newPath
  | _ => none

/-- A recovery opens the interface that the handles are open on, and a write fails only
when that interface is gone or the transport is cancelled. -/
def sameInterface (t : Transport) : Action → Prop
  | .reopenInputHandle _ => ∀ device ∈ found t, device = t.handle
  | .writerFails => t.outputStopRequested = true ∨ ¬t.live t.outputHandle
  | .writerWrites written => t.outputStopRequested = true ∨ written ≠ 0
  | _ => True

instance (t : Transport) (action : Action) : Decidable (sameInterface t action) :=
  match action with
  | .reopenInputHandle _ => Option.decidableForallMem _
  | .writerFails => inferInstanceAs (Decidable (_ ∨ _))
  | .writerWrites _ => inferInstanceAs (Decidable (_ ∨ _))
  | .plugAndPlay _ | .beginRead | .readDone | .readFails | .resolve | .enqueueOutputReport _
  | .writerTakes | .writerCompletes | .writerStops | .cancel => .isTrue trivial

/-- All handles are one interface; a write error means that it is gone for good. -/
structure Inv (t : Transport) : Prop where
  path : t.handle.path = t.path
  output : t.outputHandle = t.handle
  feature : t.featureHandle = t.handle
  serial : t.handle.serial < t.host.nextSerial
  error : t.outputError = true → t.outputStopRequested = true ∨ ¬t.live t.handle

namespace Inv

variable {t t' : Transport}

/-- The facts only depend on the handles, the system and the writer's error. -/
theorem of_same (inv : Inv t) (hhost : t'.host = t.host) (hpath : t'.path = t.path)
    (hhandle : t'.handle = t.handle) (houtput : t'.outputHandle = t.outputHandle)
    (hfeature : t'.featureHandle = t.featureHandle)
    (herror : t'.outputError = true → t'.outputStopRequested = true ∨ ¬t'.live t'.handle) :
    Inv t' where
  path := by rw [hhandle, hpath, inv.path]
  output := by rw [houtput, hhandle, inv.output]
  feature := by rw [hfeature, hhandle, inv.feature]
  serial := by
    rw [hhandle, hhost]
    exact inv.serial
  error := herror

/-- An interface that is gone does not come back under its old serial. -/
theorem plugAndPlay {host : Host} (inv : Inv t) (h : t.host.evolves host) :
    Inv { t with host } where
  path := inv.path
  output := inv.output
  feature := inv.feature
  serial := inv.serial.trans_le h.1
  error := by
    intro herror
    rcases inv.error herror with hstop | hgone
    · exact .inl hstop
    · refine .inr ?_
      intro hback
      rcases h.2 t.handle hback with hold | hnew
      · exact hgone hold
      · exact absurd inv.serial (Nat.not_lt.mpr hnew)

theorem readFails (inv : Inv t) (h : HidTransport.readFails t = some t') : Inv t' := by
  unfold HidTransport.readFails at h
  split at h
  · obtain rfl := Option.some.inj h
    exact inv.of_same rfl rfl rfl rfl rfl inv.error
  · cases h

theorem resolve (inv : Inv t) (h : HidTransport.resolve t = some t') : Inv t' := by
  unfold HidTransport.resolve at h
  split at h
  · obtain rfl := Option.some.inj h
    exact inv.of_same rfl rfl rfl rfl rfl inv.error
  · cases h

/-- A recovery that finds the interface of the handles changes none of them. -/
theorem reopenInputHandle {granted : Bool} (inv : Inv t)
    (ok : sameInterface t (.reopenInputHandle granted))
    (h : HidTransport.reopenInputHandle t granted = some t') : Inv t' := by
  unfold HidTransport.reopenInputHandle at h
  split at h
  · rename_i attempt newPath hopening
    split at h
    · rename_i device hdevice
      obtain rfl := Option.some.inj h
      obtain rfl : device = t.handle := by
        apply ok
        simp only [found, hopening, hdevice]
        rfl
      have hpath : t.handle.path = newPath := by simpa using List.find?_some hdevice
      exact ⟨hpath, inv.output, inv.feature, inv.serial, inv.error⟩
    · obtain rfl := Option.some.inj h
      exact inv.of_same rfl rfl rfl rfl rfl inv.error
  · cases h

theorem enqueueOutputReport {report : List UInt8} (inv : Inv t)
    (h : HidTransport.enqueueOutputReport t report = some t') : Inv t' := by
  obtain ⟨-, ⟨⟩⟩ := Option.ite_none_left_eq_some.mp h
  exact inv.of_same rfl rfl rfl rfl rfl inv.error

theorem writerTakes (inv : Inv t) (h : HidTransport.writerTakes t = some t') : Inv t' := by
  unfold HidTransport.writerTakes at h
  split at h
  · obtain ⟨-, ⟨⟩⟩ := Option.ite_none_left_eq_some.mp h
    exact inv.of_same rfl rfl rfl rfl rfl inv.error
  · cases h

theorem writerFails (inv : Inv t)
    (ok : t.outputStopRequested = true ∨ ¬t.live t.outputHandle) :
    Inv (HidTransport.writerFails t) := by
  refine inv.of_same rfl rfl rfl rfl rfl ?_
  intro _
  rw [inv.output] at ok
  exact ok

theorem writerWrites {written : Nat} (inv : Inv t) (ok : sameInterface t (.writerWrites written))
    (h : HidTransport.writerWrites t written = some t') : Inv t' := by
  unfold HidTransport.writerWrites at h
  split at h
  · obtain ⟨-, h⟩ := Option.ite_none_right_eq_some.mp h
    split at h
    · rename_i hzero
      obtain rfl := Option.some.inj h
      exact inv.writerFails (.inl (ok.resolve_right (not_not.mpr hzero)))
    · obtain rfl := Option.some.inj h
      exact inv.of_same rfl rfl rfl rfl rfl inv.error
  · cases h

theorem writerCompletes (inv : Inv t) (h : HidTransport.writerCompletes t = some t') : Inv t' := by
  unfold HidTransport.writerCompletes at h
  split at h
  · obtain ⟨-, ⟨⟩⟩ := Option.ite_none_left_eq_some.mp h
    exact inv.of_same rfl rfl rfl rfl rfl inv.error
  · cases h

protected theorem step {action : Action} (inv : Inv t) (ok : sameInterface t action)
    (h : HidTransport.step t action = some t') : Inv t' := by
  cases action with
  | plugAndPlay host =>
      obtain ⟨hevolves, ⟨⟩⟩ := Option.ite_none_right_eq_some.mp h
      exact inv.plugAndPlay hevolves
  | beginRead =>
      obtain ⟨-, ⟨⟩⟩ := Option.ite_none_right_eq_some.mp h
      exact inv.of_same rfl rfl rfl rfl rfl inv.error
  | readDone =>
      simp only [HidTransport.step] at h
      split at h
      · obtain ⟨-, ⟨⟩⟩ := Option.ite_none_right_eq_some.mp h
        exact inv.of_same rfl rfl rfl rfl rfl inv.error
      · cases h
  | readFails => exact inv.readFails h
  | resolve => exact inv.resolve h
  | reopenInputHandle granted => exact inv.reopenInputHandle ok h
  | enqueueOutputReport report => exact inv.enqueueOutputReport h
  | writerTakes => exact inv.writerTakes h
  | writerWrites written => exact inv.writerWrites ok h
  | writerFails =>
      simp only [HidTransport.step] at h
      split at h
      · obtain ⟨-, ⟨⟩⟩ := Option.ite_none_right_eq_some.mp h
        exact inv.writerFails ok
      · cases h
  | writerCompletes => exact inv.writerCompletes h
  | writerStops =>
      obtain ⟨-, ⟨⟩⟩ := Option.ite_none_right_eq_some.mp h
      exact inv.of_same rfl rfl rfl rfl rfl inv.error
  | cancel =>
      simp only [HidTransport.step] at h
      split at h
      · obtain rfl := Option.some.inj h
        exact inv
      · obtain rfl := Option.some.inj h
        exact inv.of_same rfl rfl rfl rfl rfl fun _ => .inl rfl

theorem new {host : Host} {path label : List UInt8} {length : Nat}
    (h : Transport.new host path label length = some t) : Inv t := by
  obtain ⟨device, hdevice, rfl⟩ := Option.map_eq_some_iff.mp h
  refine ⟨?_, rfl, rfl, ?_, by rintro ⟨⟩⟩
  · simpa using List.find?_some hdevice
  · exact host.serial_lt device (List.mem_of_find?_eq_some hdevice)

theorem coherent (inv : Inv t) : Coherent t where
  path := by
    rw [inv.output, inv.feature]
    exact ⟨inv.path, inv.path, inv.path⟩
  deliverable := by
    intro hrunning hlive
    refine ⟨inv.output, inv.feature, ?_⟩
    by_contra herror
    rcases inv.error (Bool.eq_true_of_not_eq_false herror) with hstop | hgone
    · rw [hrunning] at hstop
      cases hstop
    · exact hgone hlive

end Inv

/-- If every recovery finds the interface that the handles are open on, and writes fail
only when it is gone, the handles stay coherent. -/
theorem coherent_of_guardedRun {host : Host} {path label : List UInt8} {length : Nat}
    {start t : Transport} {actions : List Action}
    (hnew : Transport.new host path label length = some start)
    (run : GuardedRun step sameInterface start actions t) : Coherent t :=
  (run.invariant (fun _ _ _ inv ok h => inv.step ok h) (Inv.new hnew)).coherent

section Traces

/-- A DualSense at 22:22:22:22:22:22 with the given enumeration. -/
def enumeratedAs (suffix : String) (serial : Nat) : HidInterface :=
  { otherController with path := otherController.path ++ ascii suffix, serial }

theorem enumeratedAs_path (suffix : String) (serial : Nat) :
    ∀ device ∈ [enumeratedAs suffix serial], ∀ addressFilter,
      device.path = filterPath addressFilter → device.owner = addressFilter := by
  intro device hdevice addressFilter h
  obtain rfl := List.mem_singleton.mp hdevice
  have hhead : (enumeratedAs suffix serial).path.head? = (filterPath addressFilter).head? :=
    congrArg _ h
  cases hhead

theorem enumeratedAs_serial (suffix : String) (serial : Nat) :
    ∀ device ∈ [enumeratedAs suffix serial], device.serial < serial + 1 := by
  intro device hdevice
  obtain rfl := List.mem_singleton.mp hdevice
  exact Nat.lt_succ_self serial

/-- The system with that interface only. -/
def hostWith (suffix : String) (serial : Nat) : Host where
  system :=
    { openable := [enumeratedAs suffix serial]
      enumerated := some [some (enumeratedAs suffix serial).path]
      filterPath_owner := enumeratedAs_path suffix serial }
  nextSerial := serial + 1
  serial_lt := enumeratedAs_serial suffix serial

/-- A new transport to the controller. -/
def exampleTransport : Transport where
  host := hostWith "#1" 0
  path := (enumeratedAs "#1" 0).path
  matchLabel := otherController.owner
  handle := enumeratedAs "#1" 0
  outputHandle := enumeratedAs "#1" 0
  featureHandle := enumeratedAs "#1" 0
  outputReportLength := 78
  reader := .idle
  writer := .waiting
  outputQueue := ⟨[], 0, 0, 0⟩
  outputCompletedCount := 0
  outputError := false
  outputStopRequested := false

theorem new_exampleTransport : Transport.new (hostWith "#1" 0) (enumeratedAs "#1" 0).path
    otherController.owner 78 = some exampleTransport := by
  have hopen : (hostWith "#1" 0).system.createFile (enumeratedAs "#1" 0).path =
      some (enumeratedAs "#1" 0) := by
    decide +kernel
  simp only [Transport.new, hopen, Option.map_some, exampleTransport]

/-- A read fails and `read_input_frame` recovers. -/
def recovery : List Action := [.beginRead, .readFails, .resolve, .reopenInputHandle true]

end Traces

theorem guardedRun_stalledRead : ∃ t, GuardedRun step sameInterface exampleTransport
    (recovery ++ [.readDone, .enqueueOutputReport [0x31], .writerTakes, .writerWrites 78]) t :=
  exists_guardedRun_of_execute (by decide +kernel)

theorem coherent_stalledRead : Transport.new (hostWith "#1" 0) (enumeratedAs "#1" 0).path
      otherController.owner 78 = some exampleTransport ∧
    ∃ t, GuardedRun step sameInterface exampleTransport
      (recovery ++ [.readDone, .enqueueOutputReport [0x31], .writerTakes, .writerWrites 78]) t ∧
    Coherent t := by
  obtain ⟨t, run⟩ := guardedRun_stalledRead
  exact ⟨new_exampleTransport, t, run, coherent_of_guardedRun new_exampleTransport run⟩

/-- After a re-enumeration the recovered input comes from the new interface. The output
and feature handles stay on the old one, and the next output report ends the writer. -/
theorem reenumeration_splits_handles : ∃ t,
    Transport.new (hostWith "#1" 0) (enumeratedAs "#1" 0).path otherController.owner 78 =
      some exampleTransport ∧
    Run step exampleTransport ([.plugAndPlay (hostWith "#2" 1)] ++ recovery ++
      [.readDone, .enqueueOutputReport [0x31], .writerTakes, .writerFails]) t ∧
    ¬Coherent t ∧ t.live t.handle ∧ ¬t.live t.outputHandle ∧ ¬t.live t.featureHandle ∧
    t.outputError = true := by
  have hsplit : ∃ t, Run step exampleTransport ([.plugAndPlay (hostWith "#2" 1)] ++ recovery ++
      [.readDone, .enqueueOutputReport [0x31], .writerTakes, .writerFails]) t ∧
      t.outputHandle.path ≠ t.path ∧ t.live t.handle ∧ ¬t.live t.outputHandle ∧
      ¬t.live t.featureHandle ∧ t.outputError = true :=
    exists_run_of_execute (by decide +kernel)
  obtain ⟨t, run, hpath, hdead⟩ := hsplit
  exact ⟨t, new_exampleTransport, run, fun coherent => hpath coherent.path.2.1, hdead⟩

end VirtualDualSense.Win32.HandleCoherence
