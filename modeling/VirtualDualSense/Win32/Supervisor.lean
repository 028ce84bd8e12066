import VirtualDualSense.Config.Controllers
import VirtualDualSense.Lib.Runs

/-!
# Windows bridge supervisor

One thread runs the supervisor loop: it collects the finished workers, scans the
database for controllers without a worker, and waits for the next event. The clock,
the ends of the workers and other writers of the database act between its steps.
A query of a driver or of the system is answered by the action that makes it.

## Implementation notes

The warnings that the loop remembers only decide what is logged and are left out.
Times are in nanoseconds.
-/

namespace VirtualDualSense.Win32.Supervisor

open Config.Controllers

def kMillisecond : Nat := 1000000

def kBridgeOpenRetryDelay : Nat := 1000 * kMillisecond

def kBridgeWorkerFailureRetryDelay : Nat := 1000 * kMillisecond

structure BridgeWorker where
  address : List UInt8
  deviceAddress : List UInt8
  port : Nat
  profile : ControllerProfile
  lastError : List UInt8
  stopRequested : Bool
  done : Bool
  deriving DecidableEq

structure HidBluetoothDevice where
  address : List UInt8
  filterBacked : Bool
  reportTarget : Bool
  accessRestricted : Bool
  deriving DecidableEq

structure VdsdWorkerFailureBackoff where
  address : List UInt8
  retryAfter : Nat
  deriving DecidableEq

section Backoffs

/-- Set the retry time of the address, which has at most one entry. -/
def recordVdsdWorkerFailure (backoffs : List VdsdWorkerFailureBackoff) (address : List UInt8)
    (retryAfter : Nat) : List VdsdWorkerFailureBackoff :=
  match backoffs with
  | [] => [⟨address, retryAfter⟩]
  | entry :: rest =>
      if entry.address = address then { entry with retryAfter } :: rest
      else entry :: recordVdsdWorkerFailure rest address retryAfter

/-- Whether the address may be tried now; the entry is erased when it is used. -/
def consumeVdsdWorkerRetry (backoffs : List VdsdWorkerFailureBackoff) (address : List UInt8)
    (now : Nat) : List VdsdWorkerFailureBackoff × Bool :=
  match backoffs.find? fun entry => entry.address = address with
  | none => (backoffs, true)
  | some existing =>
      if now < existing.retryAfter then (backoffs, false)
      else (backoffs.eraseP fun entry => entry.address = address, true)

end Backoffs

section Launch

inductive VdsdWorkerLaunchStatus
  | ready
  | virtualPortProviderUnavailable
  | deviceAddressReserved
  | noAvailablePort
  deriving DecidableEq

structure VdsdWorkerLaunchDecision where
  status : VdsdWorkerLaunchStatus
  config : ControllerConfig
  port : Nat
  deviceAddress : List UInt8

def selectVdsdWorkerLaunchDecision (config : ControllerConfig)
    (availablePorts reservedPorts : List Nat) (deviceAddress : List UInt8)
    (virtualPortProviderAvailable : Bool) (reservedDeviceAddresses : List (List UInt8)) :
    VdsdWorkerLaunchDecision :=
  if !virtualPortProviderAvailable then ⟨.virtualPortProviderUnavailable, config, 0, deviceAddress⟩
  else if reservedDeviceAddresses.contains deviceAddress then
    ⟨.deviceAddressReserved, config, 0, deviceAddress⟩
  else
    match selectControllerConfigPort config availablePorts reservedPorts with
    | none => ⟨.noAvailablePort, config, 0, deviceAddress⟩
    | some port => ⟨.ready, { config with ports := [port] }, port, deviceAddress⟩

def vdsdWorkerConfigIsStale (db : ConfigDb) (address : List UInt8) (profile : ControllerProfile)
    (port : Nat) (portEnabled : Bool) : Except ConfigError Bool :=
  (findControllerConfigByAddress db address).map fun
    | none => true
    | some config =>
        config.profile ≠ profile || !controllerConfigAllowsPort config port || !portEnabled

/-- The first device of the address decides. A device of the filter driver must be
restricted; a plain HID device only needs a report target. -/
def findConnectedBluetoothDevice (address : List UInt8) :
    List HidBluetoothDevice → Except ConfigError (Option HidBluetoothDevice)
  | [] => .ok none
  | device :: rest => do
      let normalized ← normalizeBluetoothAddress device.address
      if normalized ≠ address then findConnectedBluetoothDevice address rest
      else if device.filterBacked && device.reportTarget && device.accessRestricted then
        return some device
      else if !device.filterBacked && device.reportTarget then return some device
      else return none

end Launch

section Database

/-- A request that changes the stored database. The checks of an attach against the
targets and ports can only refuse it. -/
inductive DbChange
  | attach (config : ControllerConfig)
  | detach (address : List UInt8)

/-- The database after the request, or nothing when it is refused. -/
def DbChange.apply (db : ConfigDb) : DbChange → Option ConfigDb
  | .attach config =>
      match findControllerConfigByAddress db config.address, upsertControllerConfig db config with
      | .ok none, .ok updated => some updated
      | _, _ => none
  | .detach address =>
      match removeControllerConfig db address with
      | .ok (updated, true) => some updated
      | _ => none

end Database

/-- What the providers report when a scan starts. -/
structure Discovery where
  enabledPorts : List Nat
  /-- The devices and generation of the filter driver when it is loaded. -/
  filterSnapshot : Option (List HidBluetoothDevice × Nat)
  /-- Plain HID discovery, which reports nothing when it fails. -/
  hidDevices : List HidBluetoothDevice
  /-- `virtual_port_is_enabled`, asked for each worker's port. -/
  portEnabled : Nat → Bool

/-- The local variables of a scan in its loop over the database. -/
structure Scan where
  remaining : List ControllerConfig
  enabledPorts : List Nat
  devices : List HidBluetoothDevice
  reservedPorts : List Nat
  reservedDeviceAddresses : List (List UInt8)
  deriving DecidableEq

inductive Pc
  /-- At the condition of the loop. -/
  | top
  | reaping (index : Nat) (workerRemoved : Bool)
  | requests
  | loading
  | scanning (startedAt : Nat) (scan : Scan)
  /-- After the scan, with its start when it ran and threw no exception. -/
  | deciding (scannedAt : Option Nat)
  | waiting (retryAfter : Option Nat)
  | stopped
  deriving DecidableEq

structure State where
  clock : Nat
  /-- The database in the file. -/
  db : ConfigDb
  workers : List BridgeWorker
  workerFailureBackoffs : List VdsdWorkerFailureBackoff
  filterGeneration : Nat
  filterChangePending : Bool
  reloadRequested : Bool
  scanRequested : Bool
  providerRetryRequired : Bool
  stopRequested : Bool
  pc : Pc
  deriving DecidableEq

def State.new (db : ConfigDb) (clock : Nat) : State where
  clock
  db
  workers := []
  workerFailureBackoffs := []
  filterGeneration := 0
  filterChangePending := false
  reloadRequested := false
  scanRequested := true
  providerRetryRequired := false
  stopRequested := false
  pc := .top

/-- What `filter_change_wait.arm` does. -/
inductive ArmOutcome
  | changed
  | noHandle
  | fails
  | pending
  deriving DecidableEq

inductive Action
  | tick (duration : Nat)
  | store (change : DbChange)
  | workerEnds (index : Nat) (error : List UInt8)
  | requestStop
  | iterate
  | reap
  | request
  | load (discovery : Discovery)
  | scanController (availablePorts : List Nat)
  | scanThrows
  | finishPass (arm : ArmOutcome)
  | control (changes : List DbChange)
  /-- The result of `filter_change_wait.complete`, or its exception. -/
  | filterChange (completed : Option Bool)
  | retry
  | workerDone
  | stop
  | supervisorThrows

section Steps

/-- The worker's thread returns. A requested stop leaves no error. -/
def workerEnds (s : State) (index : Nat) (error : List UInt8) : Option State :=
  match s.workers[index]? with
  | none => none
  | some worker =>
      if worker.done then none
      else
        let lastError := if s.stopRequested || worker.stopRequested then [] else error
        some { s with workers := s.workers.set index { worker with lastError, done := true } }

/-- Collect the worker at the iterator when it is done. -/
def reap (s : State) (index : Nat) (workerRemoved : Bool) : State :=
  match s.workers[index]? with
  | none => { s with scanRequested := s.scanRequested || workerRemoved, pc := .requests }
  | some worker =>
      if worker.done then
        { s with
          workerFailureBackoffs :=
            if worker.lastError.isEmpty then s.workerFailureBackoffs
            else recordVdsdWorkerFailure s.workerFailureBackoffs worker.address
              (s.clock + kBridgeWorkerFailureRetryDelay)
          workers := s.workers.eraseIdx index
          pc := .reaping index true }
      else { s with pc := .reaping (index + 1) workerRemoved }

/-- The tests that request a scan. -/
def request (s : State) : State :=
  let expired := s.workerFailureBackoffs.any fun backoff => backoff.retryAfter ≤ s.clock
  let scanRequested := s.scanRequested || s.reloadRequested || expired
  { s with scanRequested, pc := if scanRequested then .loading else .deciding none }

/-- The handler of an exception in the scan. -/
def scanThrows (s : State) : State :=
  { s with scanRequested := true, providerRetryRequired := true, pc := .deciding none }

/-- Ask the workers to stop whose configuration is stale. -/
def retireStaleWorkers (db : ConfigDb) (portEnabled : Nat → Bool) :
    List BridgeWorker → Except ConfigError (List BridgeWorker)
  | [] => .ok []
  | worker :: rest => do
      let stale ← vdsdWorkerConfigIsStale db worker.address worker.profile worker.port
        (portEnabled worker.port)
      let rest ← retireStaleWorkers db portEnabled rest
      return { worker with stopRequested := worker.stopRequested || stale } :: rest

/-- Start a scan: load the database and ask the providers. -/
def load (s : State) (discovery : Discovery) : State :=
  let (devices, filterGeneration, providerRetryRequired) :=
    match discovery.filterSnapshot with
    | some (devices, generation) =>
        (devices, generation, discovery.enabledPorts.isEmpty || generation == 0)
    | none => (discovery.hidDevices, s.filterGeneration, true)
  let s := { s with
    filterChangePending := false
    scanRequested := false
    filterGeneration
    providerRetryRequired }
  match retireStaleWorkers s.db discovery.portEnabled s.workers with
  | .error _ => scanThrows s
  | .ok workers =>
      { s with
        workers
        pc := .scanning s.clock
          { remaining := s.db.controllers
            enabledPorts := discovery.enabledPorts
            devices
            reservedPorts := workers.map (·.port)
            reservedDeviceAddresses := workers.map (·.deviceAddress) } }

/-- The part of the scan's loop body after the backoff: launch a worker for a
connected controller that has none. -/
def launchController (s : State) (startedAt : Nat) (scan : Scan) (config : ControllerConfig)
    (availablePorts : List Nat) : State :=
  let continued := { s with pc := .scanning startedAt scan }
  if s.workers.any fun worker => worker.address = config.address then continued
  else if scan.enabledPorts.isEmpty then continued
  else if !controllerConfigHasCandidatePort config scan.enabledPorts then continued
  else
    match findConnectedBluetoothDevice config.address scan.devices with
    | .error _ => scanThrows s
    | .ok none => continued
    | .ok (some _) =>
        let launch := selectVdsdWorkerLaunchDecision config availablePorts scan.reservedPorts
          config.address (!scan.enabledPorts.isEmpty) scan.reservedDeviceAddresses
        if launch.status = .ready then
          { s with
            workers := s.workers ++
              [{ address := config.address
                 deviceAddress := launch.deviceAddress
                 port := launch.port
                 profile := config.profile
                 lastError := []
                 stopRequested := false
                 done := false }]
            pc := .scanning startedAt
              { scan with
                reservedPorts := scan.reservedPorts ++ [launch.port]
                reservedDeviceAddresses :=
                  scan.reservedDeviceAddresses ++ [launch.deviceAddress] } }
        else continued

/-- One round of the scan's loop over the database. -/
def scanController (s : State) (startedAt : Nat) (scan : Scan) (availablePorts : List Nat) :
    State :=
  match scan.remaining with
  | [] => { s with pc := .deciding (some startedAt) }
  | config :: remaining =>
      let (workerFailureBackoffs, mayRetry) :=
        consumeVdsdWorkerRetry s.workerFailureBackoffs config.address s.clock
      let s := { s with workerFailureBackoffs }
      if mayRetry then
        launchController s startedAt { scan with remaining } config availablePorts
      else { s with pc := .scanning startedAt { scan with remaining } }

/-- The earliest retry time. -/
def nextRetry (backoffs : List VdsdWorkerFailureBackoff) : Option Nat :=
  (backoffs.map (·.retryAfter)).min?

/-- The test of the `continue` before the wait. -/
def retryExpired (s : State) : Bool :=
  (nextRetry s.workerFailureBackoffs).any fun next => next ≤ s.clock

/-- Arm the retry timer and the filter wait, and wait. -/
def armWait (s : State) (arm : ArmOutcome) : State :=
  let providerRetry :=
    if s.providerRetryRequired then some (s.clock + kBridgeOpenRetryDelay) else none
  let retryAfter :=
    match providerRetry, nextRetry s.workerFailureBackoffs with
    | some first, some second => some (min first second)
    | none, next => next
    | some first, none => some first
  if !s.providerRetryRequired && s.filterGeneration != 0 then
    if s.filterChangePending then { s with pc := .waiting retryAfter }
    else
      match arm with
      | .changed => { s with scanRequested := true, pc := .top }
      | .noHandle | .fails =>
          { s with scanRequested := true, providerRetryRequired := true, pc := .top }
      | .pending => { s with filterChangePending := true, pc := .waiting retryAfter }
  else { s with filterChangePending := false, pc := .waiting retryAfter }

/-- From the end of the scan to the wait. -/
def finishPass (s : State) (arm : ArmOutcome) : State :=
  let s := { s with reloadRequested := false }
  if retryExpired s then { s with scanRequested := true, pc := .top } else armWait s arm

/-- Serve one request of the control pipe. -/
def serveChange (s : State) (change : DbChange) : State :=
  match change.apply s.db with
  | some db => { s with db, reloadRequested := true }
  | none => s

def control (s : State) (changes : List DbChange) : State :=
  let s := changes.foldl serveChange s
  { s with scanRequested := s.scanRequested || s.reloadRequested, pc := .top }

def filterChange (s : State) (completed : Option Bool) : State :=
  let s := { s with filterChangePending := false, pc := .top }
  match completed with
  | some completed => { s with scanRequested := s.scanRequested || completed }
  | none => { s with scanRequested := true, providerRetryRequired := true }

def step (s : State) (action : Action) : Option State :=
  match action, s.pc with
  | .tick duration, _ => some { s with clock := s.clock + duration }
  | .store change, _ => (change.apply s.db).map fun db => { s with db }
  | .workerEnds index error, _ => workerEnds s index error
  | .requestStop, _ => some { s with stopRequested := true }
  | .iterate, .top => some { s with pc := if s.stopRequested then .stopped else .reaping 0 false }
  | .reap, .reaping index workerRemoved => some (reap s index workerRemoved)
  | .request, .requests => some (request s)
  | .load discovery, .loading => some (load s discovery)
  | .scanController ports, .scanning startedAt scan =>
      some (scanController s startedAt scan ports)
  | .scanThrows, .loading =>
      some (scanThrows { s with
        filterChangePending := false, scanRequested := false, providerRetryRequired := false })
  | .scanThrows, .scanning _ _ => some (scanThrows s)
  | .finishPass arm, .deciding _ => some (finishPass s arm)
  | .control changes, .waiting _ => some (control s changes)
  | .filterChange completed, .waiting _ =>
      if s.filterChangePending then some (filterChange s completed) else none
  | .retry, .waiting (some _) => some { s with scanRequested := true, pc := .top }
  | .workerDone, .waiting _ =>
      if s.workers.any (·.done) then some { s with scanRequested := true, pc := .top } else none
  | .stop, .waiting _ => if s.stopRequested then some { s with pc := .top } else none
  | .supervisorThrows, .deciding _ => some { s with pc := .stopped }
  | .supervisorThrows, .waiting _ => some { s with pc := .stopped }
  | _, _ => none

end Steps

end VirtualDualSense.Win32.Supervisor
