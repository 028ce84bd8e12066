import VirtualDualSense.Lib.Holders
import VirtualDualSense.Win32.Supervisor

/-!
# Exclusive workers

No two workers of the supervisor share an address, a port or a device address. A scan
collects what the workers hold before it launches new ones, also for workers that it has
just retired, and adds what it launches.
-/

namespace VirtualDualSense.Win32.Workers

open Lib.Runs Lib.Holders Lib.Text Config.Controllers Supervisor

/-- What a worker holds. -/
structure Identity where
  address : List UInt8
  deviceAddress : List UInt8
  port : Nat
  deriving DecidableEq

def identity (worker : BridgeWorker) : Identity :=
  ⟨worker.address, worker.deviceAddress, worker.port⟩

def identities (s : State) : List Identity := s.workers.map identity

/-- A worker as it was launched, with the configuration and the available ports of that moment. -/
structure Launch where
  worker : Identity
  config : ControllerConfig
  availablePorts : List Nat
  deriving DecidableEq

/-- The workers that the step has launched. -/
def launched (s : State) (action : Action) (t : State) : List Launch :=
  match action, s.pc with
  | .scanController availablePorts, .scanning _ scan =>
      match scan.remaining with
      | [] => []
      | config :: _ =>
          ((identities t).drop s.workers.length).map fun worker => ⟨worker, config, availablePorts⟩
  | _, _ => []

/-- The supervisor with a record of its launches. -/
structure Recorded where
  state : State
  launches : List Launch
  deriving DecidableEq

def recordedStep (r : Recorded) (action : Action) : Option Recorded :=
  (step r.state action).map fun t => ⟨t, r.launches ++ launched r.state action t⟩

/-- The workers are distinct in all that they hold. -/
structure Distinct (workers : List BridgeWorker) : Prop where
  addresses : (workers.map (·.address)).Nodup
  ports : (workers.map (·.port)).Nodup
  deviceAddresses : (workers.map (·.deviceAddress)).Nodup

/-- The worker was launched on a port that was available and that its configuration allowed. -/
structure Permitted (launch : Launch) (worker : BridgeWorker) : Prop where
  same : launch.worker = identity worker
  config : launch.config.address = worker.address
  available : worker.port ∈ launch.availablePorts
  allowed : controllerConfigAllowsPort launch.config worker.port = true

/-- The ports and device addresses that a running scan has reserved. -/
def reserved (s : State) : Option (List Nat × List (List UInt8)) :=
  match s.pc with
  | .scanning _ scan => some (scan.reservedPorts, scan.reservedDeviceAddresses)
  | _ => none

/-- All that a step can do with the workers and the reservations of a scan. -/
inductive WorkerStep (s : State) (action : Action) (t : State) : Prop
  /-- Outside of a scan, workers may be collected. -/
  | idle (workers : (identities t).Sublist (identities s)) (idle : reserved t = none)
      (none : launched s action t = [])
  | same (workers : identities t = identities s) (same : reserved t = reserved s)
      (none : launched s action t = [])
  /-- A scan starts with what the workers hold. -/
  | loaded (workers : identities t = identities s)
      (loaded : reserved t =
        some ((identities s).map (·.port), (identities s).map (·.deviceAddress)))
      (none : launched s action t = [])
  | launched (worker : Identity) (config : ControllerConfig) (availablePorts : List Nat)
      (ports : List Nat) (deviceAddresses : List (List UInt8))
      (workers : identities t = identities s ++ [worker])
      (before : reserved s = some (ports, deviceAddresses))
      (after : reserved t =
        some (ports ++ [worker.port], deviceAddresses ++ [worker.deviceAddress]))
      (launch : launched s action t = [⟨worker, config, availablePorts⟩])
      (address : worker.address ∉ (identities s).map (·.address))
      (port : worker.port ∉ ports) (deviceAddress : worker.deviceAddress ∉ deviceAddresses)
      (config_address : config.address = worker.address)
      (available : worker.port ∈ availablePorts)
      (allowed : controllerConfigAllowsPort config worker.port = true)

section Steps

variable {s t : State} {action : Action}

theorem reserved_eq_none (h : ∀ startedAt scan, t.pc ≠ .scanning startedAt scan) :
    reserved t = none := by
  rw [reserved]
  split
  · rename_i hpc
    exact absurd hpc (h _ _)
  · rfl

/-- A worker that ends holds what it held. -/
theorem identities_workerEnds {index : Nat} {error : List UInt8}
    (h : workerEnds s index error = some t) : identities t = identities s ∧ t.pc = s.pc := by
  rw [workerEnds] at h
  split at h
  · cases h
  · rename_i worker hworker
    split at h
    · cases h
    · obtain rfl := Option.some.inj h
      refine ⟨?_, rfl⟩
      obtain ⟨hlt, rfl⟩ := List.getElem?_eq_some_iff.mp hworker
      have hlt' : index < (s.workers.map identity).length := by
        rwa [List.length_map]
      have hself := List.set_getElem_self hlt'
      rw [List.getElem_map] at hself
      rw [identities, List.map_set]
      exact hself

theorem identities_reap (s : State) (index : Nat) (workerRemoved : Bool) :
    (identities (reap s index workerRemoved)).Sublist (identities s) ∧
      reserved (reap s index workerRemoved) = none := by
  rw [reap]
  split
  · exact ⟨.refl _, rfl⟩
  · split
    · exact ⟨(List.eraseIdx_sublist _ _).map _, rfl⟩
    · exact ⟨.refl _, rfl⟩

theorem identity_retireStaleWorkers {db : ConfigDb} {portEnabled : Nat → Bool}
    {workers retired : List BridgeWorker}
    (h : retireStaleWorkers db portEnabled workers = .ok retired) :
    retired.map identity = workers.map identity := by
  induction workers generalizing retired with
  | nil =>
      obtain rfl := Except.ok.inj h
      rfl
  | cons worker rest ih =>
      rw [retireStaleWorkers] at h
      cases hstale : vdsdWorkerConfigIsStale db worker.address worker.profile worker.port
          (portEnabled worker.port) with
      | error e =>
          rw [hstale] at h
          cases h
      | ok stale =>
          cases hrest : retireStaleWorkers db portEnabled rest with
          | error e =>
              rw [hstale, hrest] at h
              cases h
          | ok others =>
              rw [hstale, hrest] at h
              obtain rfl := Except.ok.inj h
              rw [List.map_cons, List.map_cons, ih hrest]
              rfl

theorem selectVdsdWorkerLaunchDecision_ready {config : ControllerConfig}
    {availablePorts reservedPorts : List Nat} {deviceAddress : List UInt8} {available : Bool}
    {reservedDeviceAddresses : List (List UInt8)}
    (h : (selectVdsdWorkerLaunchDecision config availablePorts reservedPorts deviceAddress available
      reservedDeviceAddresses).status = .ready) :
    ∃ port, selectControllerConfigPort config availablePorts reservedPorts = some port ∧
      deviceAddress ∉ reservedDeviceAddresses ∧
      selectVdsdWorkerLaunchDecision config availablePorts reservedPorts deviceAddress available
        reservedDeviceAddresses = ⟨.ready, { config with ports := [port] }, port,
        deviceAddress⟩ := by
  rw [selectVdsdWorkerLaunchDecision] at h ⊢
  split at h
  · cases h
  · rename_i havailable
    split at h
    · cases h
    · rename_i hreserved
      split at h
      · cases h
      · rename_i port hport
        refine ⟨port, hport, by simpa using hreserved, ?_⟩
        rw [if_neg havailable, if_neg hreserved]

/-- A launch finds the address without a worker and takes a free and allowed port. -/
theorem launchController_cases (s : State) (startedAt : Nat) (scan : Scan)
    (config : ControllerConfig) (availablePorts : List Nat) :
    launchController s startedAt scan config availablePorts =
    { s with pc := .scanning startedAt scan } ∨
    launchController s startedAt scan config availablePorts = scanThrows s ∨
    ∃ port, selectControllerConfigPort config availablePorts scan.reservedPorts = some port ∧
      config.address ∉ s.workers.map (·.address) ∧
      config.address ∉ scan.reservedDeviceAddresses ∧
      launchController s startedAt scan config availablePorts =
        { s with
          workers := s.workers ++
            [{ address := config.address
               deviceAddress := config.address
               port
               profile := config.profile
               lastError := []
               stopRequested := false
               done := false }]
          pc := .scanning startedAt
            { scan with
              reservedPorts := scan.reservedPorts ++ [port]
              reservedDeviceAddresses := scan.reservedDeviceAddresses ++ [config.address] } } := by
  rw [launchController]
  dsimp only
  split
  · exact .inl rfl
  rename_i haddress
  split
  · exact .inl rfl
  rename_i hports
  split
  · exact .inl rfl
  split
  · exact .inr (.inl rfl)
  · exact .inl rfl
  · split
    · rename_i hready
      have haddress' : config.address ∉ s.workers.map (·.address) := by
        simpa using haddress
      obtain ⟨port, hport, hdevice, hlaunch⟩ := selectVdsdWorkerLaunchDecision_ready hready
      refine .inr (.inr ⟨port, hport, haddress', hdevice, ?_⟩)
      rw [hlaunch]
    · exact .inl rfl

theorem launched_scanController {availablePorts : List Nat} {startedAt : Nat} {scan : Scan}
    {config : ControllerConfig} {remaining : List ControllerConfig}
    (hpc : s.pc = .scanning startedAt scan) (hremaining : scan.remaining = config :: remaining)
    (workers : List Identity) (hworkers : identities t = identities s ++ workers) :
    launched s (.scanController availablePorts) t =
      workers.map fun worker => ⟨worker, config, availablePorts⟩ := by
  simp only [launched, hpc, hremaining, hworkers]
  rw [List.drop_left' (by rw [identities, List.length_map])]

theorem workerStep_scanController {availablePorts : List Nat} {startedAt : Nat} {scan : Scan}
    (hpc : s.pc = .scanning startedAt scan) :
    WorkerStep s (.scanController availablePorts)
      (scanController s startedAt scan availablePorts) := by
  have hbefore : reserved s = some (scan.reservedPorts, scan.reservedDeviceAddresses) := by
    rw [reserved, hpc]
  cases hremaining : scan.remaining with
  | nil =>
      rw [scanController, hremaining]
      refine .idle (.refl _) rfl ?_
      simp only [launched, hpc, hremaining]
  | cons config remaining =>
      have hnone : ∀ t, identities t = identities s →
          launched s (.scanController availablePorts) t = [] := by
        intro t ht
        rw [launched_scanController hpc hremaining [] (by rw [ht, List.append_nil])]
        rfl
      rw [scanController, hremaining]
      dsimp only
      generalize consumeVdsdWorkerRetry s.workerFailureBackoffs config.address s.clock = consumed
      split
      · rcases launchController_cases { s with workerFailureBackoffs := consumed.1 } startedAt
            { scan with remaining } config availablePorts with
          h | h | ⟨port, hport, haddress, hdevice, h⟩
        · rw [h]
          exact .same rfl hbefore.symm (hnone _ rfl)
        · rw [h]
          exact .idle (.refl _) rfl (hnone _ rfl)
        · obtain ⟨havailable, hfree, hallowed⟩ := selectControllerConfigPort_eq_some hport
          rw [h]
          refine .launched ⟨config.address, config.address, port⟩ config availablePorts
            scan.reservedPorts scan.reservedDeviceAddresses ?_ hbefore rfl ?_ ?_ hfree hdevice rfl
            havailable hallowed
          · simp only [identities, List.map_append]
            rfl
          · rw [launched_scanController hpc hremaining [⟨config.address, config.address, port⟩]]
            · rfl
            · simp only [identities, List.map_append]
              rfl
          · rw [identities, List.map_map]
            exact haddress
      · exact .same rfl hbefore.symm (hnone _ rfl)

theorem workerStep_load (s : State) (discovery : Discovery) :
    WorkerStep s (.load discovery) (load s discovery) := by
  rw [load]
  dsimp only
  split
  · exact .idle (.refl _) rfl rfl
  · rename_i workers hretired
    have hsame : workers.map identity = identities s := identity_retireStaleWorkers hretired
    refine .loaded hsame ?_ rfl
    rw [← hsame, List.map_map, List.map_map]
    rfl

theorem identities_foldl_serveChange (changes : List DbChange) :
    identities (changes.foldl serveChange s) = identities s := by
  induction changes generalizing s with
  | nil => rfl
  | cons change rest ih =>
      rw [List.foldl_cons, ih, serveChange]
      split <;> rfl

theorem workerStep_finishPass (s : State) (arm : ArmOutcome) :
    WorkerStep s (.finishPass arm) (finishPass s arm) := by
  rw [finishPass]
  dsimp only
  split
  · exact .idle (.refl _) rfl rfl
  · unfold armWait
    dsimp only
    split
    · split
      · exact .idle (.refl _) rfl rfl
      · cases arm <;> exact .idle (.refl _) rfl rfl
    · exact .idle (.refl _) rfl rfl

theorem workerStep (h : step s action = some t) : WorkerStep s action t := by
  unfold step at h
  split at h
  · obtain rfl := Option.some.inj h
    exact .same rfl rfl rfl
  · obtain ⟨db, -, rfl⟩ := Option.map_eq_some_iff.mp h
    exact .same rfl rfl rfl
  · obtain ⟨hworkers, hpc⟩ := identities_workerEnds h
    exact .same hworkers (by rw [reserved, reserved, hpc]) rfl
  · obtain rfl := Option.some.inj h
    exact .same rfl rfl rfl
  · obtain rfl := Option.some.inj h
    refine .idle (.refl _) ?_ rfl
    cases s.stopRequested <;> rfl
  · obtain rfl := Option.some.inj h
    obtain ⟨hworkers, hidle⟩ := identities_reap s _ _
    exact .idle hworkers hidle rfl
  · obtain rfl := Option.some.inj h
    refine .idle (.refl _) (reserved_eq_none ?_) rfl
    intro startedAt scan
    simp only [request]
    split <;> simp
  · obtain rfl := Option.some.inj h
    exact workerStep_load s _
  · rename_i hpc
    obtain rfl := Option.some.inj h
    exact workerStep_scanController hpc
  · obtain rfl := Option.some.inj h
    exact .idle (.refl _) rfl rfl
  · obtain rfl := Option.some.inj h
    exact .idle (.refl _) rfl rfl
  · obtain rfl := Option.some.inj h
    exact workerStep_finishPass s _
  · obtain rfl := Option.some.inj h
    refine .idle ?_ rfl rfl
    exact (identities_foldl_serveChange (s := s) _) ▸ List.Sublist.refl _
  · obtain ⟨-, ⟨⟩⟩ := Option.ite_none_right_eq_some.mp h
    rename_i completed _ _
    cases completed <;> exact .idle (.refl _) rfl rfl
  · obtain rfl := Option.some.inj h
    exact .idle (.refl _) rfl rfl
  · obtain ⟨-, ⟨⟩⟩ := Option.ite_none_right_eq_some.mp h
    exact .idle (.refl _) rfl rfl
  · obtain ⟨-, ⟨⟩⟩ := Option.ite_none_right_eq_some.mp h
    exact .idle (.refl _) rfl rfl
  · obtain rfl := Option.some.inj h
    exact .idle (.refl _) rfl rfl
  · obtain rfl := Option.some.inj h
    exact .idle (.refl _) rfl rfl
  · cases h

end Steps

/-- While a scan runs, it has reserved what the workers hold. -/
structure Inv (r : Recorded) : Prop where
  addresses : Exclusive (fun worker : Identity => some worker.address) (identities r.state)
  ports : Exclusive (fun worker : Identity => some worker.port) (identities r.state)
  deviceAddresses :
    Exclusive (fun worker : Identity => some worker.deviceAddress) (identities r.state)
  reserved : ∀ ports deviceAddresses, reserved r.state = some (ports, deviceAddresses) →
    (identities r.state).map (·.port) ⊆ ports ∧
      (identities r.state).map (·.deviceAddress) ⊆ deviceAddresses
  launches : ∀ worker ∈ identities r.state, ∃ launch ∈ r.launches,
    launch.worker = worker ∧ launch.config.address = worker.address ∧
      worker.port ∈ launch.availablePorts ∧
        controllerConfigAllowsPort launch.config worker.port = true

section Invariant

theorem held_some {K : Type*} (key : Identity → K) (workers : List Identity) :
    held (fun worker => some (key worker)) workers = workers.map key :=
  congrFun List.filterMap_eq_map workers

/-- Fewer workers, and no scan that could have reserved too little. -/
theorem Inv.of_sublist {r : Recorded} {t : State} (inv : Inv r)
    (hworkers : (identities t).Sublist (identities r.state))
    (hreserved : ∀ ports deviceAddresses, Workers.reserved t = some (ports, deviceAddresses) →
      (identities t).map (·.port) ⊆ ports ∧
        (identities t).map (·.deviceAddress) ⊆ deviceAddresses) :
    Inv ⟨t, r.launches⟩ where
  addresses := inv.addresses.sublist hworkers
  ports := inv.ports.sublist hworkers
  deviceAddresses := inv.deviceAddresses.sublist hworkers
  reserved := hreserved
  launches worker hworker := inv.launches worker (hworkers.subset hworker)

theorem Inv.step {r r' : Recorded} {action : Action} (inv : Inv r)
    (h : recordedStep r action = some r') : Inv r' := by
  obtain ⟨t, hstep, rfl⟩ := Option.map_eq_some_iff.mp h
  cases workerStep hstep with
  | idle workers idle none =>
      rw [none, List.append_nil]
      refine inv.of_sublist workers ?_
      intro ports deviceAddresses hreserved
      rw [idle] at hreserved
      cases hreserved
  | same workers same none =>
      rw [none, List.append_nil]
      refine inv.of_sublist (workers ▸ List.Sublist.refl _) ?_
      rw [same, workers]
      exact inv.reserved
  | loaded workers loaded none =>
      rw [none, List.append_nil]
      refine inv.of_sublist (workers ▸ List.Sublist.refl _) ?_
      intro ports deviceAddresses hreserved
      rw [loaded] at hreserved
      obtain ⟨rfl, rfl⟩ := Prod.mk.inj (Option.some.inj hreserved)
      rw [workers]
      exact ⟨List.Subset.refl _, List.Subset.refl _⟩
  | launched worker config availablePorts ports deviceAddresses workers before after launch address
      port deviceAddress config_address available allowed =>
      obtain ⟨hports, hdevices⟩ := inv.reserved _ _ before
      refine ⟨?_, ?_, ?_, ?_, ?_⟩
      · rw [workers]
        apply inv.addresses.append
        rintro _ ⟨⟩
        rwa [held_some]
      · rw [workers]
        apply inv.ports.append
        rintro _ ⟨⟩
        rw [held_some]
        exact fun hmem => port (hports hmem)
      · rw [workers]
        apply inv.deviceAddresses.append
        rintro _ ⟨⟩
        rw [held_some]
        exact fun hmem => deviceAddress (hdevices hmem)
      · intro reservedPorts reservedDevices hreserved
        rw [after] at hreserved
        obtain ⟨rfl, rfl⟩ := Prod.mk.inj (Option.some.inj hreserved)
        rw [workers, List.map_append, List.map_append]
        exact ⟨List.append_subset.mpr
            ⟨List.Subset.trans hports (List.subset_append_left _ _), List.subset_append_right _ _⟩,
          List.append_subset.mpr
            ⟨List.Subset.trans hdevices (List.subset_append_left _ _),
            List.subset_append_right _ _⟩⟩
      · intro other hother
        rw [workers] at hother
        rcases List.mem_append.mp hother with hold | hnew
        · obtain ⟨found, hfound, hpermitted⟩ := inv.launches other hold
          exact ⟨found, List.mem_append_left _ hfound, hpermitted⟩
        · obtain rfl := List.mem_singleton.mp hnew
          refine ⟨⟨other, config, availablePorts⟩, List.mem_append_right _ ?_, rfl, config_address,
            available, allowed⟩
          rw [launch]
          exact List.mem_singleton_self _

end Invariant

/-- In every run the workers are distinct in all that they hold, and each of them was launched on
a port that was available and allowed. -/
theorem distinct_of_run {db : ConfigDb} {clock : Nat} {actions : List Action} {r : Recorded}
    (run : Run recordedStep ⟨.new db clock, []⟩ actions r) :
    Distinct r.state.workers ∧
      ∀ worker ∈ r.state.workers, ∃ launch ∈ r.launches, Permitted launch worker := by
  have inv : Inv r := run.invariant (fun _ _ _ inv _ h => inv.step h)
    ⟨.nil, .nil, .nil, fun _ _ h => (nomatch h), fun _ h => (nomatch h)⟩
  have haddresses := inv.addresses
  have hports := inv.ports
  have hdevices := inv.deviceAddresses
  rw [Exclusive, held_some, identities, List.map_map] at haddresses hports hdevices
  refine ⟨⟨haddresses, hports, hdevices⟩, ?_⟩
  intro worker hworker
  obtain ⟨launch, hlaunch, hsame, hconfig, havailable, hallowed⟩ :=
    inv.launches (identity worker) (List.mem_map_of_mem hworker)
  exact ⟨launch, hlaunch, hsame, hconfig, havailable, hallowed⟩

section Traces

/-- Two controllers that may use every port. -/
def pairDb : ConfigDb where
  controllers := [⟨ascii "11:11:11:11:11:11", .ds5, []⟩, ⟨ascii "22:22:22:22:22:22", .ds5, []⟩]

/-- Plain HID discovery finds both of them. -/
def pairDiscovery : Discovery where
  enabledPorts := [0, 1]
  filterSnapshot := none
  hidDevices := [⟨ascii "11:11:11:11:11:11", false, true, false⟩,
    ⟨ascii "22:22:22:22:22:22", false, true, false⟩]
  portEnabled := fun _ => true

/-- One scan launches both workers. -/
def pairTrace : List Action :=
  [.iterate, .reap, .request, .load pairDiscovery, .scanController [0, 1], .scanController [0, 1]]

end Traces

theorem distinct_pairTrace :
    ∃ r, Run recordedStep ⟨.new pairDb 0, []⟩ pairTrace r ∧
      r.state.workers.map (·.port) = [0, 1] ∧ Distinct r.state.workers ∧
      ∀ worker ∈ r.state.workers, ∃ launch ∈ r.launches, Permitted launch worker := by
  obtain ⟨r, run, hports⟩ : ∃ r, Run recordedStep ⟨.new pairDb 0, []⟩ pairTrace r ∧
      r.state.workers.map (·.port) = [0, 1] := exists_run_of_execute (by decide +kernel)
  exact ⟨r, run, hports, distinct_of_run run⟩

end VirtualDualSense.Win32.Workers
