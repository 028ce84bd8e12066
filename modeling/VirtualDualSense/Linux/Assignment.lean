import VirtualDualSense.Config.Controllers
import VirtualDualSense.Lib.Holders
import VirtualDualSense.Lib.Runs
import VirtualDualSense.Linux.PortSync

/-!
# Assigning the virtual ports to controllers

A controller uses its device from the first accepted channel on, until its backend is
dropped. The daemon assigns a device when a channel is accepted and checks the
assignments again when it loads the database.

## Implementation notes

The bridge state of a port plays no part in the assignment. A step that throws an error
that is not caught ends the daemon and is refused.
-/

namespace VirtualDualSense.Linux.Assignment

open Lib.Runs Lib.Holders Lib.Text Config.Controllers PortSync

structure ControllerRuntime where
  config : ControllerConfig
  device : Path
  backend : Bool
  pendingControl : Bool
  pendingInterrupt : Bool
  virtualConnected : Bool
  deriving DecidableEq

def controllerUsesPort (controller : ControllerRuntime) : Bool :=
  controller.backend || controller.pendingControl || controller.pendingInterrupt ||
    controller.virtualConnected

/-- A controller with nothing but its configuration. -/
def ControllerRuntime.new (config : ControllerConfig) : ControllerRuntime :=
  ⟨config, [], false, false, false, false⟩

/-- Close the channels and forget the device. -/
def ControllerRuntime.reset (controller : ControllerRuntime) : ControllerRuntime :=
  .new controller.config

structure Daemon where
  ports : Ports Unit
  controllers : List ControllerRuntime

/-- The daemon before the first reload. -/
def Daemon.new : Daemon := ⟨⟨[], .nil⟩, []⟩

section Ports

variable (ports : List (Port Unit)) (controllers : List ControllerRuntime)

def findPortIndex (path : Path) : Option Nat := ports.findIdx? fun port => port.path = path

def presentPortIndices : List Nat := ports.filterMap fun port => portIndexFromPath port.path

/-- Another controller than the one at `index` uses the device. -/
def portUsedByOtherController (index : Nat) (device : Path) : Bool :=
  (controllers.eraseIdx index).any fun other => other.device = device && controllerUsesPort other

/-- The ports of the other controllers. -/
def occupiedPorts (index : Nat) : List Nat :=
  ((controllers.eraseIdx index).filter controllerUsesPort).filterMap
    fun other => portIndexFromPath other.device

def availablePortIndex (index : Nat) (controller : ControllerRuntime) : Option Nat :=
  match selectControllerConfigPort controller.config (presentPortIndices ports)
      (occupiedPorts controllers index) with
  | none => none
  | some selected => ports.findIdx? fun port => portIndexFromPath port.path = some selected

def controllerForPort (device : Path) : Option Nat :=
  controllers.findIdx? fun controller =>
    controller.device = device && controllerUsesPort controller

def controllerForAddress (address : List UInt8) : Option Nat :=
  controllers.findIdx? fun controller => controller.config.address = address

/-- The device for an accepted channel: the one that the controller has, while it is present and
free, or else an available one. -/
def acceptDevice (index : Nat) (controller : ControllerRuntime) : Option Path :=
  if controller.device ≠ [] ∧ (findPortIndex ports controller.device).isSome ∧
      portUsedByOtherController controllers index controller.device = false then
    some controller.device
  else if ports.isEmpty then none
  else
    (availablePortIndex ports controllers index controller).bind fun port =>
      ports[port]?.map Port.path

end Ports

section Events

def storeChannel (controlChannel : Bool) (controller : ControllerRuntime) : ControllerRuntime :=
  if controlChannel then { controller with pendingControl := true }
  else { controller with pendingInterrupt := true }

/-- With both channels there, connect the controller or give it up. -/
def completeChannels (ports : List (Port Unit)) (completes : Bool)
    (controller : ControllerRuntime) : ControllerRuntime :=
  if !controller.pendingControl || !controller.pendingInterrupt then controller
  else if (findPortIndex ports controller.device).isNone then
    { controller with pendingControl := false, pendingInterrupt := false, device := [] }
  else if completes then
    { controller with
      backend := true
      pendingControl := false
      pendingInterrupt := false
      virtualConnected := true }
  else controller.reset

/-- One channel of `handle_bt_accept`. -/
def handleBtAccept (d : Daemon) (controlChannel : Bool) (address : List UInt8)
    (completes : Bool) : Daemon :=
  match controllerForAddress d.controllers address with
  | none => d
  | some index =>
      match d.controllers[index]? with
      | none => d
      | some controller =>
          if controller.backend then d
          else
            match acceptDevice d.ports.list d.controllers index controller with
            | none => d
            | some device =>
                { d with
                  controllers := d.controllers.set index
                    (completeChannels d.ports.list completes
                      (storeChannel controlChannel { controller with device })) }

def dropBtBackend (controller : ControllerRuntime) : ControllerRuntime :=
  if !controller.backend && !controller.virtualConnected then controller else controller.reset

/-- What `flush_pending_outputs` does with one controller; `fails` says that sending fails. -/
def flushController (ports : List (Port Unit)) (fails : Bool) (controller : ControllerRuntime) :
    ControllerRuntime :=
  if !controller.backend then controller
  else if (findPortIndex ports controller.device).isNone then controller.reset
  else if fails then dropBtBackend controller
  else controller

/-- A Bluetooth error while the frames of a port are handled. -/
def portFails (d : Daemon) (index : Nat) : Option Daemon :=
  match d.ports.list[index]? with
  | none => some d
  | some port =>
      (controllerForPort d.controllers port.path).map fun controller =>
        { d with controllers := d.controllers.modify controller dropBtBackend }

/-- An event of a channel of the controller; `fails` says that it ends in a drop. -/
def btEvent (ports : List (Port Unit)) (fails : Bool) (controller : ControllerRuntime) :
    ControllerRuntime :=
  if !controller.backend then controller
  else if (findPortIndex ports controller.device).isNone then
    { controller with backend := false, virtualConnected := false }
  else if fails then dropBtBackend controller
  else controller

end Events

section Reconcile

/-- A controller whose device is gone is reset. -/
def resetMissing (devices : List Path) (controller : ControllerRuntime) : ControllerRuntime :=
  if !controllerUsesPort controller || devices.contains controller.device then controller
  else controller.reset

/-- The old controller of a configuration. -/
def sameController (config : ControllerConfig) (old : ControllerRuntime) : Bool :=
  old.config.address = config.address && old.config.profile = config.profile

/-- The device of the old controller is present, allowed and not yet taken. -/
def oldDeviceAvailable (ports : List (Port Unit)) (activeDevices : List Path)
    (config : ControllerConfig) (old : ControllerRuntime) : Bool :=
  old.device ≠ [] && (findPortIndex ports old.device).isSome &&
    controllerConfigAllowsPath config old.device && !activeDevices.contains old.device

/-- The loop over the database. An old controller that has been looked at leaves the list. -/
def nextControllers (ports : List (Port Unit)) (old : List ControllerRuntime)
    (activeDevices : List Path) : List ControllerConfig → List ControllerRuntime
  | [] => []
  | config :: rest =>
      match old.find? (sameController config) with
      | none => .new config :: nextControllers ports old activeDevices rest
      | some controller =>
          let old := old.eraseP (sameController config)
          if controllerUsesPort controller &&
              oldDeviceAvailable ports activeDevices config controller then
            { controller with config } ::
              nextControllers ports old (activeDevices ++ [controller.device]) rest
          else .new config :: nextControllers ports old activeDevices rest

/-- Reload; `false` when it has thrown. No devices, or no database, stand for a failure to list
or to load them. The device list is sorted, so that the binary search is membership. -/
def reconcileControllerConfigs (d : Daemon) (devices : Option Devices) (db : Option ConfigDb) :
    Daemon × Bool :=
  match devices with
  | none => (d, false)
  | some devices =>
      let controllers := d.controllers.map (resetMissing (devices.list.map Device.path))
      let (ports, synced) := d.ports.sync () devices
      if synced then
        match db with
        | none => (⟨ports, controllers⟩, false)
        | some db => (⟨ports, nextControllers ports.list controllers [] db.controllers⟩, true)
      else (⟨ports, controllers⟩, false)

end Reconcile

inductive Action
  | accept (controlChannel : Bool) (address : List UInt8) (completes : Bool)
  | flush (fails : Nat → Bool)
  | portFails (index : Nat)
  | btEvent (index : Nat) (fails : Bool)
  | reconcile (devices : Option Devices) (db : Option ConfigDb)

def step (d : Daemon) : Action → Option Daemon
  | .accept controlChannel address completes =>
      some (handleBtAccept d controlChannel address completes)
  | .flush fails =>
      some { d with
        controllers := d.controllers.mapIdx fun i => flushController d.ports.list (fails i) }
  | .portFails index => portFails d index
  | .btEvent index fails =>
      some { d with controllers := d.controllers.modify index (btEvent d.ports.list fails) }
  | .reconcile devices db => some (reconcileControllerConfigs d devices db).1

/-- Two different controllers that use a port have different devices. -/
def ExclusiveDevices (controllers : List ControllerRuntime) : Prop :=
  ∀ (i j : Nat) (a b : ControllerRuntime), i ≠ j → controllers[i]? = some a →
    controllers[j]? = some b → controllerUsesPort a → controllerUsesPort b → a.device ≠ b.device

/-- Every controller that uses a port has a device that is present and allowed. -/
def AssignedAllowed (d : Daemon) : Prop :=
  ∀ controller ∈ d.controllers, controllerUsesPort controller →
    controller.device ∈ d.ports.list.map Port.path ∧
      controllerConfigAllowsPath controller.config controller.device

/-- The device that a controller uses. -/
def usedDevice (controller : ControllerRuntime) : Option Path :=
  if controllerUsesPort controller then some controller.device else none

/-- Only a controller with a backend is connected. -/
def Connected (controller : ControllerRuntime) : Prop :=
  controller.virtualConnected = true → controller.backend = true

structure Inv (controllers : List ControllerRuntime) : Prop where
  exclusive : Exclusive usedDevice controllers
  connected : ∀ controller ∈ controllers, Connected controller

/-- What all steps but an assignment do with a controller. -/
structure Keeps (before after : ControllerRuntime) : Prop where
  releases : Releases usedDevice before after
  connected : Connected before → Connected after

variable {d t : Daemon} {controllers after : List ControllerRuntime}

theorem exclusiveDevices_of_exclusive (h : Exclusive usedDevice controllers) :
    ExclusiveDevices controllers := by
  intro i j a b hne hi hj ha hb hdevice
  have hused : usedDevice a = some a.device := if_pos ha
  refine hne (h.index_eq hi hj hused ?_)
  rw [usedDevice, if_pos hb, hdevice]

theorem Inv.keeps (h : Inv controllers) (hkeeps : List.Forall₂ Keeps controllers after) :
    Inv after where
  exclusive := h.exclusive.releases (hkeeps.imp fun _ _ hkeep => hkeep.releases)
  connected := by
    have hconnected := h.connected
    clear h
    induction hkeeps with
    | nil => exact hconnected
    | cons hfirst _ ih =>
        obtain ⟨hbefore, hrest⟩ := List.forall_mem_cons.mp hconnected
        exact List.forall_mem_cons.mpr ⟨hfirst.connected hbefore, ih hrest⟩

section Keeps

variable (controller : ControllerRuntime)

theorem keeps_refl : Keeps controller controller := ⟨.inr rfl, id⟩

theorem keeps_reset : Keeps controller controller.reset := ⟨.inl rfl, fun _ => (nomatch ·)⟩

theorem keeps_dropBtBackend : Keeps controller (dropBtBackend controller) := by
  rw [dropBtBackend]
  split
  · exact keeps_refl controller
  · exact keeps_reset controller

theorem keeps_flushController (ports : List (Port Unit)) (fails : Bool) :
    Keeps controller (flushController ports fails controller) := by
  rw [flushController]
  split
  · exact keeps_refl controller
  · split
    · exact keeps_reset controller
    · split
      · exact keeps_dropBtBackend controller
      · exact keeps_refl controller

theorem keeps_btEvent (ports : List (Port Unit)) (fails : Bool) :
    Keeps controller (btEvent ports fails controller) := by
  rw [btEvent]
  split
  · exact keeps_refl controller
  · rename_i hbackend
    split
    · -- the device stays; without a pending channel the controller does not use it any more
      have huses : controllerUsesPort controller = true := by
        simp only [Bool.not_eq_true', Bool.not_eq_false] at hbackend
        simp [controllerUsesPort, hbackend]
      refine ⟨?_, fun _ => (nomatch ·)⟩
      simp only [Releases, usedDevice, huses, if_true]
      split
      · exact .inr rfl
      · exact .inl rfl
    · split
      · exact keeps_dropBtBackend controller
      · exact keeps_refl controller

theorem keeps_resetMissing (devices : List Path) :
    Keeps controller (resetMissing devices controller) := by
  rw [resetMissing]
  split
  · exact keeps_refl controller
  · exact keeps_reset controller

end Keeps

section Accept

variable {ports : List (Port Unit)} {controller : ControllerRuntime} {index : Nat} {device : Path}

theorem mem_held_usedDevice {key : Path} : key ∈ held usedDevice controllers ↔
    ∃ other ∈ controllers, controllerUsesPort other = true ∧ other.device = key := by
  simp only [mem_held, usedDevice, Option.ite_none_right_eq_some, Option.some.injEq]

/-- An available port is not the device of another controller. -/
theorem not_held_of_availablePortIndex {port : Nat} {found : Port Unit}
    (h : availablePortIndex ports controllers index controller = some port)
    (hfound : ports[port]? = some found) :
    found.path ∉ held usedDevice (controllers.eraseIdx index) := by
  rw [availablePortIndex] at h
  split at h
  · cases h
  · rename_i selected hselected
    obtain ⟨-, hfree, -⟩ := selectControllerConfigPort_eq_some hselected
    have hindex : portIndexFromPath found.path = some selected := by
      obtain ⟨hlt, hpath, -⟩ := List.findIdx?_eq_some_iff_getElem.mp h
      rw [List.getElem?_eq_getElem hlt] at hfound
      obtain rfl := Option.some.inj hfound
      simpa using hpath
    intro hheld
    obtain ⟨other, hother, huses, hdevice⟩ := mem_held_usedDevice.mp hheld
    refine hfree (List.mem_filterMap.mpr ⟨other, List.mem_filter.mpr ⟨hother, huses⟩, ?_⟩)
    rw [hdevice, hindex]

theorem not_held_of_acceptDevice
    (h : acceptDevice ports controllers index controller = some device) :
    device ∉ held usedDevice (controllers.eraseIdx index) := by
  rw [acceptDevice] at h
  split at h
  · rename_i hkept
    obtain rfl := Option.some.inj h
    intro hheld
    obtain ⟨other, hother, huses, hdevice⟩ := mem_held_usedDevice.mp hheld
    have hused := List.any_eq_false.mp hkept.2.2 other hother
    simp [hdevice, huses] at hused
  · split at h
    · cases h
    · obtain ⟨port, hport, hpath⟩ := Option.bind_eq_some_iff.mp h
      obtain ⟨found, hfound, rfl⟩ := Option.map_eq_some_iff.mp hpath
      exact not_held_of_availablePortIndex hport hfound

/-- What comes of an accepted channel uses at most the device of the controller. -/
theorem completeChannels_spec (ports : List (Port Unit)) (completes : Bool)
    (hbackend : controller.backend = false) (hconnected : Connected controller) :
    (∀ key ∈ usedDevice (completeChannels ports completes controller), key = controller.device) ∧
      Connected (completeChannels ports completes controller) := by
  have hvirtual : controller.virtualConnected = false := by
    rw [Connected, hbackend] at hconnected
    simpa using hconnected
  have hkey : ∀ after : ControllerRuntime, after.device = controller.device →
      ∀ key ∈ usedDevice after, key = controller.device := by
    intro after hdevice key hmem
    obtain ⟨-, hsome⟩ := Option.ite_none_right_eq_some.mp hmem
    rw [← Option.some.inj hsome, hdevice]
  rw [completeChannels]
  split
  · exact ⟨hkey controller rfl, hconnected⟩
  · split
    · refine ⟨?_, hconnected⟩
      -- neither a channel nor a backend is left
      simp [usedDevice, controllerUsesPort, hbackend, hvirtual]
    · split
      · exact ⟨hkey _ rfl, fun _ => rfl⟩
      · exact ⟨by simp [usedDevice, ControllerRuntime.reset, ControllerRuntime.new,
          controllerUsesPort], (nomatch ·)⟩

theorem inv_handleBtAccept (h : Inv d.controllers) (controlChannel : Bool) (address : List UInt8)
    (completes : Bool) :
    Inv (handleBtAccept d controlChannel address completes).controllers := by
  rw [handleBtAccept]
  split
  · exact h
  · rename_i index _
    split
    · exact h
    · rename_i controller hcontroller
      split
      · exact h
      · rename_i hbackend
        split
        · exact h
        · rename_i device hdevice
          generalize hstored : storeChannel controlChannel { controller with device } = stored
          have hbackend' : stored.backend = false := by
            subst hstored
            rw [storeChannel]
            split <;> simpa using hbackend
          have hconnected : Connected stored := by
            have hbefore := h.connected controller (List.mem_of_getElem? hcontroller)
            subst hstored
            rw [storeChannel]
            split <;> exact hbefore
          have hsame : stored.device = device := by
            subst hstored
            rw [storeChannel]
            split <;> rfl
          obtain ⟨huses, hafter⟩ := completeChannels_spec d.ports.list completes hbackend'
            hconnected
          refine ⟨h.exclusive.set ?_, ?_⟩
          · intro key hkey
            rw [huses key hkey, hsame]
            exact not_held_of_acceptDevice hdevice
          · intro changed hchanged
            rcases List.mem_or_eq_of_mem_set hchanged with hmem | rfl
            · exact h.connected changed hmem
            · exact hafter

end Accept

section Reconcile

variable {ports : List (Port Unit)} {old : List ControllerRuntime} {activeDevices : List Path}
  {configs : List ControllerConfig} {config : ControllerConfig} {controller : ControllerRuntime}

theorem oldDeviceAvailable_iff : oldDeviceAvailable ports activeDevices config controller = true ↔
    controller.device ≠ [] ∧ controller.device ∈ ports.map Port.path ∧
      controllerConfigAllowsPath config controller.device = true ∧
        controller.device ∉ activeDevices := by
  simp [oldDeviceAvailable, findPortIndex, and_assoc]

/-- What the loop over the database establishes of the controllers it makes. -/
structure Rebuilt (ports : List (Port Unit)) (activeDevices : List Path)
    (next : List ControllerRuntime) : Prop where
  inv : Inv next
  fresh : ∀ device ∈ held usedDevice next, device ∉ activeDevices
  allowed : ∀ controller ∈ next, controllerUsesPort controller = true →
    controller.device ∈ ports.map Port.path ∧
      controllerConfigAllowsPath controller.config controller.device = true

/-- A controller that takes over nothing. -/
theorem Rebuilt.new {next : List ControllerRuntime} (h : Rebuilt ports activeDevices next) :
    Rebuilt ports activeDevices (.new config :: next) where
  inv := ⟨h.inv.exclusive, List.forall_mem_cons.mpr ⟨(nomatch ·), h.inv.connected⟩⟩
  fresh := h.fresh
  allowed := List.forall_mem_cons.mpr ⟨(nomatch ·), h.allowed⟩

/-- A controller that keeps its device. -/
theorem Rebuilt.kept {next : List ControllerRuntime}
    (huses : controllerUsesPort controller = true) (hconnected : Connected controller)
    (havailable : oldDeviceAvailable ports activeDevices config controller = true)
    (h : Rebuilt ports (activeDevices ++ [controller.device]) next) :
    Rebuilt ports activeDevices ({ controller with config } :: next) := by
  obtain ⟨-, hpresent, hallowed, hfree⟩ := oldDeviceAvailable_iff.mp havailable
  have hused : usedDevice { controller with config } = some controller.device := if_pos huses
  have hheld : held usedDevice ({ controller with config } :: next) =
      controller.device :: held usedDevice next := by
    rw [held, List.filterMap_cons, hused, held]
  refine ⟨⟨?_, List.forall_mem_cons.mpr ⟨hconnected, h.inv.connected⟩⟩, ?_,
    List.forall_mem_cons.mpr ⟨fun _ => ⟨hpresent, hallowed⟩, h.allowed⟩⟩
  · rw [Exclusive, hheld]
    refine List.nodup_cons.mpr ⟨?_, h.inv.exclusive⟩
    intro hmem
    exact h.fresh _ hmem (List.mem_append_right _ (List.mem_singleton_self _))
  · rw [hheld]
    refine List.forall_mem_cons.mpr ⟨hfree, ?_⟩
    intro device hdevice hactive
    exact h.fresh device hdevice (List.mem_append_left _ hactive)

/-- The loop gives each device to at most one controller, and only if it is allowed. -/
theorem rebuilt_nextControllers (ports : List (Port Unit)) (activeDevices : List Path)
    (configs : List ControllerConfig) (hold : ∀ controller ∈ old, Connected controller) :
    Rebuilt ports activeDevices (nextControllers ports old activeDevices configs) := by
  induction configs generalizing old activeDevices with
  | nil =>
      exact ⟨⟨.nil, fun _ h => (nomatch h)⟩, fun _ h => (nomatch h), fun _ h => (nomatch h)⟩
  | cons config rest ih =>
      rw [nextControllers]
      split
      · exact (ih activeDevices hold).new
      · rename_i controller hfind
        have hrest : ∀ controller ∈ old.eraseP (sameController config), Connected controller :=
          fun controller hmem => hold controller (List.mem_of_mem_eraseP hmem)
        dsimp only
        split
        · rename_i htaken
          obtain ⟨huses, havailable⟩ := Bool.and_eq_true_iff.mp htaken
          exact .kept huses (hold controller (List.mem_of_find?_eq_some hfind)) havailable
            (ih _ hrest)
        · exact (ih activeDevices hrest).new

end Reconcile

theorem inv_map_resetMissing (h : Inv controllers) (devices : List Path) :
    Inv (controllers.map (resetMissing devices)) := by
  apply h.keeps
  rw [List.forall₂_map_right_iff]
  exact List.forall₂_same.mpr fun controller _ => keeps_resetMissing controller devices

/-- The controllers after a reload; after a successful one, their devices are allowed. -/
theorem inv_reconcileControllerConfigs (h : Inv d.controllers) (devices : Option Devices)
    (db : Option ConfigDb) :
    Inv (reconcileControllerConfigs d devices db).1.controllers ∧
      ((reconcileControllerConfigs d devices db).2 = true →
        AssignedAllowed (reconcileControllerConfigs d devices db).1) := by
  cases devices with
  | none => exact ⟨h, (nomatch ·)⟩
  | some devices =>
      have hreset := inv_map_resetMissing h (devices.list.map Device.path)
      rw [reconcileControllerConfigs]
      dsimp only
      split
      · cases db with
        | none => exact ⟨hreset, (nomatch ·)⟩
        | some db =>
            have hrebuilt := rebuilt_nextControllers (d.ports.sync () devices).1.list []
              db.controllers hreset.connected
            exact ⟨hrebuilt.inv, fun _ => hrebuilt.allowed⟩
      · exact ⟨hreset, (nomatch ·)⟩

theorem inv_step {action : Action} (h : Inv d.controllers) (hstep : step d action = some t) :
    Inv t.controllers := by
  cases action with
  | accept controlChannel address completes =>
      obtain rfl := Option.some.inj hstep
      exact inv_handleBtAccept h controlChannel address completes
  | flush fails =>
      obtain rfl := Option.some.inj hstep
      exact h.keeps (forall₂_mapIdx fun i controller =>
        keeps_flushController controller _ (fails i))
  | portFails index =>
      rw [step, portFails] at hstep
      split at hstep
      · obtain rfl := Option.some.inj hstep
        exact h
      · obtain ⟨controller, -, rfl⟩ := Option.map_eq_some_iff.mp hstep
        exact h.keeps (forall₂_modify controller keeps_refl keeps_dropBtBackend)
  | btEvent index fails =>
      obtain rfl := Option.some.inj hstep
      exact h.keeps (forall₂_modify index keeps_refl fun controller =>
        keeps_btEvent controller _ fails)
  | reconcile devices db =>
      obtain rfl := Option.some.inj hstep
      exact (inv_reconcileControllerConfigs h devices db).1

/-- In every run the controllers have different devices, and after each successful reload every
device in use is present and allowed. -/
theorem exclusiveDevices_of_run {actions : List Action} (run : Run step Daemon.new actions d) :
    ExclusiveDevices d.controllers ∧
      ∀ devices db, (reconcileControllerConfigs d devices db).2 = true →
        AssignedAllowed (reconcileControllerConfigs d devices db).1 := by
  have hinv : Inv d.controllers :=
    run.invariant (I := fun d => Inv d.controllers) (fun _ _ _ h _ hstep => inv_step h hstep)
      ⟨.nil, fun _ h => (nomatch h)⟩
  exact ⟨exclusiveDevices_of_exclusive hinv.exclusive,
    fun devices db => (inv_reconcileControllerConfigs hinv devices db).2⟩

section Traces

def twoDevices : Devices where
  list := [⟨ascii "/dev/vds0", some 5⟩, ⟨ascii "/dev/vds1", some 6⟩]
  nodup := by decide +kernel
  ne_nil := by decide +kernel

/-- Two controllers that may use every port. -/
def twoControllers : ConfigDb where
  controllers := [⟨ascii "11:11:11:11:11:11", .ds5, []⟩, ⟨ascii "22:22:22:22:22:22", .ds5, []⟩]

/-- The first controller connects while a channel of the second one is pending. -/
def twoControllersTrace : List Action :=
  [.reconcile (some twoDevices) (some twoControllers),
    .accept true (ascii "11:11:11:11:11:11") false,
    .accept true (ascii "22:22:22:22:22:22") false,
    .accept false (ascii "11:11:11:11:11:11") true]

end Traces

theorem exclusiveDevices_twoControllersTrace :
    ∃ d, Run step Daemon.new twoControllersTrace d ∧
      d.controllers.filterMap usedDevice = [ascii "/dev/vds0", ascii "/dev/vds1"] ∧
      ExclusiveDevices d.controllers ∧
      ∀ devices db, (reconcileControllerConfigs d devices db).2 = true →
        AssignedAllowed (reconcileControllerConfigs d devices db).1 := by
  obtain ⟨d, run, hused⟩ : ∃ d, Run step Daemon.new twoControllersTrace d ∧
      d.controllers.filterMap usedDevice = [ascii "/dev/vds0", ascii "/dev/vds1"] :=
    exists_run_of_execute (by decide +kernel)
  exact ⟨d, run, hused, exclusiveDevices_of_run run⟩

end VirtualDualSense.Linux.Assignment
