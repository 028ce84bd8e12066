import VirtualDualSense.Hcd.FeatureReplies
import VirtualDualSense.Hcd.SessionReset
import VirtualDualSense.Linux.FeatureRelay

/-!
# Freshness of command results

A feature report passes two caches, that of the daemon and that of the driver, before a
read gets it. Neither of them is cleared by a FEATURE_SET, so a read of the command channel
can get a report from before the last command. It gets a fresh one as long as no read
starts while an older copy of its report is on the way.

## Implementation notes

The state counts the FEATURE_SET frames that the driver has queued, and records with each
packet of the controller and each read how many came before it. A FEATURE_SET counts from
the time its frame is queued, a read from the time its handler looks into the cache.
-/

namespace VirtualDualSense.Linux.FeatureFreshness

open Lib.Runs Protocol.Frames Protocol.BtPackets Protocol.BridgeParts Hcd.UsbCore Hcd.Sections
  Hcd.Threads FeatureRelay
open Daemon (Bridge SendOutcome handleFrame kBtReadBufferSize)

variable {E D : Type*}

/-- The driver, the daemon and what lies between them and the controller. -/
structure State (E D : Type*) where
  hcd : System
  bridge : Bridge E D
  /-- The frames of the daemon that the driver has got. -/
  posted : Nat
  /-- Packets of the controller that the daemon has not read. -/
  channel : List (List UInt8)
  /-- The number of FEATURE_SET frames that the driver has queued. -/
  sets : Nat
  /-- The packets of the controller, each with the FEATURE_SETs before it. -/
  produced : List (Nat × List UInt8)
  /-- The reads of feature reports, each with the FEATURE_SETs before it. -/
  asked : CtxId → Option (UInt8 × Nat)

def init (media : Media E D) : State E D := ⟨.init, .init media, 0, [], 0, [], fun _ => none⟩

section History

/-- The report that a control transfer reads with GET_REPORT(Feature). -/
def featureGetOf (usb : UsbDevice) (urb : Urb) : Option UInt8 :=
  match urb.setupPacket with
  | none => none
  | some setup =>
      if setup.bRequestType &&& 0x60 = 0x20 ∧ setup.bRequestType &&& 0x1f = 0x01 ∧
          interfaceOf setup = usb.controllerProfile.hidInterface ∧
          setup.bRequest = hidReqGetReport ∧
          (setup.wValue >>> 8).toUInt8 = hidReportTypeFeature then
        some setup.wValue.toUInt8
      else none

/-- The read of a feature report that a step starts. -/
def readBy (s : System) : Action → Option (CtxId × UInt8)
  | .handle id =>
      match s.enqueuers id, s.dev.contexts id with
      | .linked, some context =>
          if context.urb.pipeType = .control then
            (featureGetOf s.dev.usb context.urb).map (id, ·)
          else none
      | _, _ => none
  | _ => none

/-- The FEATURE_SET frames that a step queues. -/
def setsBy (s : System) : Action → Nat
  | .call id alloc =>
      match s.enqueuers id with
      | .handling (.forward .usbFeatureSet payload _ :: _) _ =>
          if (enqueueFrame s.dev .usbFeatureSet payload alloc).2 = 0 then 1 else 0
      | _ => 0
  | _ => 0

/-- The reads of feature reports that a step completes with data, each with the report it
gets. -/
def completedBy (s : System) (action : Action) : List (CtxId × List UInt8) :=
  match readBy s action with
  | some (id, reportId) =>
      match s.dev.usb.featureCache reportId with
      | [] => []
      | report => [(id, report)]
  | none => Hcd.FeatureReplies.answeredBy s action

def askedAfter (s : State E D) (action : Action) : CtxId → Option (UInt8 × Nat) :=
  match readBy s.hcd action with
  | some (id, reportId) => Function.update s.asked id (some (reportId, s.sets))
  | none => s.asked

end History

/-- What can happen to a port and its controller. -/
inductive Event
  /-- A section of the driver, apart from the system calls of the daemon. -/
  | kernel (action : Action)
  /-- The daemon reads a frame and handles it. -/
  | serve (count : Nat) (first second : SendOutcome)
  /-- The driver gets the next frame that the daemon has written. -/
  | post (alloc : Bool)
  /-- The controller sends a packet on the control channel. -/
  | produce (packet : List UInt8)
  /-- The daemon reads a packet of the control channel. -/
  | receive
  /-- A new connection is primed with the first packets of its control channel. -/
  | connect (packets : Nat) (initSent connected : Bool)
  /-- Another step of the daemon. -/
  | daemon (action : Daemon.Action)

def kernelStep (s : State E D) (action : Action) : Option (State E D) :=
  (Hcd.Threads.step s.hcd action).map fun hcd =>
    { s with hcd := hcd, sets := s.sets + setsBy s.hcd action, asked := askedAfter s action }

/-- The replies that `read_feature_report` finds in packets. -/
def repliesOf (packets : List (List UInt8)) : List (List UInt8) :=
  (packets.filterMap btFeatureToUsbFeatureReply).filter (· ≠ [])

def step (media : Media E D) (s : State E D) : Event → Option (State E D)
  | .kernel action =>
      match action with
      | .read _ | .write _ _ _ => none
      | _ => kernelStep s action
  | .serve count first second =>
      match Hcd.Sections.read s.hcd.dev count with
      | (dev, .ok event) =>
          some { s with
            hcd := { s.hcd with dev := dev }
            bridge := handleFrame media s.bridge event.frame first second }
      | (_, .error _) => none
  | .post alloc =>
      match s.bridge.portWrites[s.posted]? with
      | some frame =>
          some { s with hcd := write s.hcd frame 0 alloc, posted := s.posted + 1 }
      | none => none
  | .produce packet =>
      some { s with
        channel := s.channel ++ [packet], produced := s.produced ++ [(s.sets, packet)] }
  | .receive =>
      match s.channel with
      | [] => none
      | packet :: rest =>
          (Daemon.step media s.bridge (.btControl packet)).map fun bridge =>
            { s with bridge := bridge, channel := rest }
  | .connect packets initSent connected =>
      (Daemon.step media s.bridge
        (.connect (repliesOf (s.channel.take packets)) initSent connected)).map fun bridge =>
          { s with bridge := bridge, channel := s.channel.drop packets }
  | .daemon action =>
      match action with
      | .btInput _ _ _ _ | .flush _ _ _ _ =>
          (Daemon.step media s.bridge action).map fun bridge => { s with bridge := bridge }
      | .drop | .detach =>
          -- the packets of a closed connection are lost
          (Daemon.step media s.bridge action).map fun bridge =>
            { s with bridge := bridge, channel := [] }
      | _ => none

section Copies

/-- The report of a reply that the driver is about to complete reads with. -/
def replyOf : Syscall → Option (List UInt8)
  | .featureReply payload => some payload
  | _ => none

/-- The report of a frame that the daemon has written. -/
def reportOf (frame : Frame) : Option (List UInt8) :=
  if frame.type = .usbFeatureReply then some frame.payload else none

/-- The copies of a report on their way from the controller to a read. -/
def copies (s : State E D) (reportId : UInt8) : List (List UInt8) :=
  (s.hcd.dev.usb.featureCache reportId ::
    (s.hcd.syscalls.filterMap replyOf ++ (s.bridge.portWrites.drop s.posted).filterMap reportOf ++
      (s.bridge.port.featureCache reportId).toList ++
      s.channel.filterMap btFeatureToUsbFeatureReply)).filter (·.head? = some reportId)

/-- The controller has produced the report after that many FEATURE_SETs, or the daemon
has made it up. -/
def FreshSince (s : State E D) (sets : Nat) (report : List UInt8) : Prop :=
  Synthetic report ∨ ∃ packet ∈ s.produced, sets ≤ packet.1 ∧
    btFeatureToUsbFeatureReply packet.2 = some report

instance (s : State E D) (sets : Nat) (report : List UInt8) :
    Decidable (FreshSince s sets report) :=
  inferInstanceAs (Decidable (_ ∨ _))

/-- A read of a report of the command channel starts only when no copy of the report is
left that is older than the last FEATURE_SET. -/
def current (s : State E D) : Event → Prop
  | .kernel action => ∀ read ∈ readBy s.hcd action, 0x80 ≤ read.2 →
      ∀ report ∈ copies s read.2, FreshSince s s.sets report
  | _ => True

instance (s : State E D) : ∀ event, Decidable (current s event)
  | .kernel action => inferInstanceAs (Decidable (∀ read ∈ readBy s.hcd action, _))
  | .serve _ _ _ | .post _ | .produce _ | .receive | .connect _ _ _ | .daemon _ => .isTrue trivial

variable {s t : State E D} {reportId : UInt8} {report : List UInt8}

theorem mem_copies : report ∈ copies s reportId ↔ report.head? = some reportId ∧
    (s.hcd.dev.usb.featureCache reportId = report ∨ .featureReply report ∈ s.hcd.syscalls ∨
      (∃ frame ∈ s.bridge.portWrites.drop s.posted, reportOf frame = some report) ∨
      s.bridge.port.featureCache reportId = some report ∨
      ∃ packet ∈ s.channel, btFeatureToUsbFeatureReply packet = some report) := by
  have hreply : report ∈ s.hcd.syscalls.filterMap replyOf ↔
      .featureReply report ∈ s.hcd.syscalls := by
    rw [List.mem_filterMap]
    constructor
    · rintro ⟨syscall, hmem, hreport⟩
      cases syscall with
      | featureReply payload =>
          obtain rfl := Option.some.inj hreport
          exact hmem
      | disconnect | resetUsb => cases hreport
    · exact fun hmem => ⟨_, hmem, rfl⟩
  rw [copies, List.mem_filter, decide_eq_true_eq, and_comm]
  simp only [List.mem_cons, List.mem_append, hreply, List.mem_filterMap, Option.mem_toList,
    or_assoc]
  rw [eq_comm (a := report)]

end Copies

section Driver

open Hcd.AtomicRuns Hcd.DeviceStatus Hcd.FeatureReads Hcd.Lifecycle

variable {s t : System} {action : Action} {id : CtxId} {reportId : UInt8}

/-- A step keeps a cached report, drops it, or replaces it by the reply that it writes. -/
theorem featureCache_of_step (shape : Shape s) (h : Hcd.Threads.step s action = some t)
    (reportId : UInt8) :
    t.dev.usb.featureCache reportId = s.dev.usb.featureCache reportId ∨
      t.dev.usb.featureCache reportId = [] ∨
      ∃ frame flags alloc, action = .write frame flags alloc ∧ frame.type = .usbFeatureReply ∧
        frame.payload.head? = some reportId ∧
        t.dev.usb.featureCache reportId = frame.payload := by
  have husb {status' : Status} (h : status t.dev = status') : t.dev.usb = status'.usb :=
    congrArg Status.usb h
  cases statusStep shape h with
  | quiet status calls resets | submit status calls syscalls | setStatus _ _ _ status syscalls
  | hub status _ _ | stop status _ _ =>
      exact .inl (by rw [husb status]; rfl)
  | @control id context _ pc found pipe status enqueuers syscalls =>
      refine .inl ?_
      rw [husb status]
      generalize hresult : s.dev.usb.controlUrb context.urb = result
      have heffect := controlEffect s.dev.usb context.urb
      rw [hresult] at heffect
      cases heffect with
      | keeps same unreported => exact congrFun same.cache reportId
      | configures | audioOut | audioIn => rfl
  | @reply frame flags alloc _ running unflagged type written status enqueuers resets =>
      obtain ⟨named, hhead, hreply⟩ := Hcd.SessionReset.updateFeatureReply_written written
      rw [husb status]
      dsimp only
      rw [hreply]
      rcases eq_or_ne reportId named with rfl | hne
      · exact .inr (.inr ⟨frame, flags, alloc, rfl, type, hhead, Function.update_self ..⟩)
      · exact .inl (Function.update_of_ne hne ..)
  | connect running status enqueuers syscalls =>
      refine .inl ?_
      rw [husb status, status_connectLocked s.dev running]
      rfl
  | disconnect disconnects running status enqueuers resets =>
      refine .inl ?_
      rw [husb status, status_disconnectLocked s.dev running]
      rfl
  | reset pending status enqueuers =>
      refine .inr (.inl ?_)
      rw [husb status]
      rfl
  | @profile profile mode _ status enqueuers syscalls =>
      have hprofile : t.dev.usb = (setProfile s.dev profile mode).1.usb := husb status
      unfold setProfile at hprofile
      split at hprofile
      · exact .inl (by rw [hprofile])
      · split at hprofile
        · exact .inl (by rw [hprofile])
        · split at hprofile
          · exact .inl (by rw [hprofile])
          · refine .inr (.inl ?_)
            rw [hprofile]
            rfl

section Control

variable {usb : UsbDevice} {urb : Urb} {setup : UsbCtrlrequest} {profile : ControllerProfile}
  {requestedLength : UInt16}

/-- The handler of a control transfer asks for no report. -/
def Returns (result : UsbDevice × Urb × Handled) : Prop :=
  ∃ calls ret, result.2.2 = .returns calls ret

theorem Returns.ite {p : Prop} [Decidable p] {a b : UsbDevice × Urb × Handled}
    (ha : Returns a) (hb : Returns b) : Returns (if p then a else b) := by
  split
  · exact ha
  · exact hb

theorem Returns.replies {data : List UInt8} : Returns (Hcd.UsbCore.replies usb urb data) :=
  ⟨_, _, rfl⟩

theorem Returns.standardControl : Returns (standardControl usb urb setup profile) := by
  unfold Hcd.UsbCore.standardControl
  dsimp only
  refine .ite ?_ ?_
  · split
    · exact ⟨_, _, rfl⟩
    · exact .replies
  · repeat' apply Returns.ite
    all_goals exact ⟨_, _, rfl⟩

theorem Returns.audioControl : Returns (audioControl usb urb setup profile) := by
  unfold Hcd.UsbCore.audioControl
  dsimp only
  refine .ite ⟨_, _, rfl⟩ ?_
  split
  · exact ⟨_, _, rfl⟩
  · refine .ite ?_ (.ite ⟨_, _, rfl⟩ ?_)
    · repeat' apply Returns.ite
      all_goals exact ⟨_, _, rfl⟩
    · split
      · exact ⟨_, _, rfl⟩
      · refine .ite ?_ (.ite ?_ ⟨_, _, rfl⟩)
        · split <;> exact ⟨_, _, rfl⟩
        · split <;> exact ⟨_, _, rfl⟩

/-- A read of a feature report is answered from the cache, or asks for the report. -/
theorem controlUrb_of_featureGetOf (h : featureGetOf usb urb = some reportId) :
    (∃ requestedLength, usb.featureCache reportId = [] ∧
      usb.controlUrb urb = (usb, { urb with actualLength := 0 },
        .featureGet reportId requestedLength)) ∨
      usb.featureCache reportId ≠ [] ∧
        usb.controlUrb urb =
          replies usb { urb with actualLength := 0 } (usb.featureCache reportId) := by
  unfold featureGetOf at h
  split at h
  · cases h
  · rename_i setup hsetup
    split_ifs at h with hget
    obtain rfl := Option.some.inj h
    obtain ⟨hclass, hrecipient, hinterface, hrequest, htype⟩ := hget
    have hstandard : ¬setup.bRequestType &&& 0x60 = 0x00 := by simp [hclass]
    unfold UsbDevice.controlUrb
    simp only [hsetup]
    rw [if_neg hstandard, if_pos ⟨hclass, hrecipient⟩, if_pos hinterface]
    unfold hidControl
    dsimp only
    rw [if_neg (not_not.mpr hinterface), if_pos hrequest, if_pos htype]
    split
    · rename_i hempty
      exact .inl ⟨_, hempty, rfl⟩
    · rename_i hne
      exact .inr ⟨hne, rfl⟩

theorem Returns.hidControl (h : setup.bRequest ≠ hidReqGetReport ∨
    (setup.wValue >>> 8).toUInt8 ≠ hidReportTypeFeature) :
    Returns (hidControl usb urb setup profile) := by
  unfold Hcd.UsbCore.hidControl
  dsimp only
  refine .ite ⟨_, _, rfl⟩ ?_
  split
  · rename_i hrequest
    rw [if_neg (h.resolve_left (not_not.mpr hrequest))]
    exact .replies
  · refine .ite (.ite ⟨_, _, rfl⟩ (.ite ⟨_, _, rfl⟩ ?_)) ?_
    · split
      · exact ⟨_, _, rfl⟩
      · exact .ite ⟨_, _, rfl⟩ ⟨_, _, rfl⟩
    · repeat' apply Returns.ite
      all_goals exact ⟨_, _, rfl⟩

/-- A control transfer that is no read of a feature report asks for none. -/
theorem Returns.controlUrb (h : featureGetOf usb urb = none) : Returns (usb.controlUrb urb) := by
  cases hsetup : urb.setupPacket with
  | none =>
      simp only [UsbDevice.controlUrb, hsetup]
      exact ⟨_, _, rfl⟩
  | some setup =>
      simp only [featureGetOf, hsetup] at h
      simp only [UsbDevice.controlUrb, hsetup]
      split_ifs at h with hget
      refine .ite .standardControl ?_
      split
      · rename_i hclass
        split
        · rename_i hinterface
          refine .hidControl ?_
          by_contra! hfeature
          exact hget ⟨hclass.1, hclass.2, hinterface, hfeature.1, hfeature.2⟩
        · exact .audioControl
      · exact ⟨_, _, rfl⟩

end Control

/-- The thread that misses the cache starts a read. -/
theorem readBy_of_missed {requestedLength : UInt16} (h : Hcd.Threads.step s action = some t)
    (hown : continues action = some (.enqueuer id))
    (hpc : t.enqueuers id = .missed reportId requestedLength) :
    readBy s action = some (id, reportId) := by
  obtain ⟨rfl, -⟩ := handle_of_enters h hown (by rw [hpc]; rfl)
  simp only [Hcd.Threads.step] at h
  split at h
  · rename_i context hlinked hcontext
    obtain rfl := Option.some.inj h
    unfold handle at hpc
    dsimp only at hpc
    split at hpc
    · rename_i hpipe
      rw [setPc_enqueuers, if_pos rfl] at hpc
      simp only [readBy, hlinked, hcontext, hpipe, if_true]
      cases hread : featureGetOf s.dev.usb context.urb with
      | none =>
          obtain ⟨calls, ret, hreturns⟩ := Returns.controlUrb hread
          rw [hreturns] at hpc
          cases hpc
      | some named =>
          obtain ⟨length, -, hcontrol⟩ | ⟨-, hcontrol⟩ := controlUrb_of_featureGetOf hread
          · rw [hcontrol] at hpc
            cases hpc
            rfl
          · rw [hcontrol] at hpc
            cases hpc
    · revert hpc
      split_ifs <;> simp
    · revert hpc
      split_ifs <;> simp
    · simp at hpc
  · obtain rfl := Option.some.inj h
    simp at hpc
  · cases h

end Driver

section Steps

variable {media : Media E D} {s t : State E D} {event : Event} {report : List UInt8}

/-- A copy of the report is on its way from the controller to a read. -/
def Held (s : State E D) (report : List UInt8) : Prop :=
  (∃ reportId, s.hcd.dev.usb.featureCache reportId = report) ∨
    .featureReply report ∈ s.hcd.syscalls ∨
    (∃ frame ∈ s.bridge.portWrites.drop s.posted, reportOf frame = some report) ∨
    (∃ reportId, s.bridge.port.featureCache reportId = some report) ∨
    ∃ packet ∈ s.channel, btFeatureToUsbFeatureReply packet = some report

/-- A section of the driver that the step runs. -/
structure Drives (s : State E D) (event : Event) (action : Action) (t : State E D) : Prop where
  step : Hcd.Threads.step s.hcd action = some t.hcd
  asked : t.asked = askedAfter s action
  reads : readBy s.hcd action ≠ none → event = .kernel action
  writes : ∀ frame flags alloc, action = .write frame flags alloc →
    frame ∈ s.bridge.portWrites.drop s.posted

/-- What a step does to the feature reports and their reads. -/
structure Moved (s : State E D) (event : Event) (t : State E D) : Prop where
  driver : t.hcd = s.hcd ∧ t.asked = s.asked ∨ ∃ action, Drives s event action t
  relays : Relays (fun report => Held s report ∨ Synthetic report) s.bridge t.bridge
  posted : s.posted ≤ t.posted
  sets : s.sets ≤ t.sets
  produced : s.produced ⊆ t.produced
  channel : ∀ packet ∈ t.channel, packet ∈ s.channel ∨ (s.sets, packet) ∈ t.produced

theorem mem_repliesOf {packets : List (List UInt8)} (h : report ∈ repliesOf packets) :
    ∃ packet ∈ packets, btFeatureToUsbFeatureReply packet = some report :=
  List.mem_filterMap.mp (List.mem_filter.mp h).1

theorem moved_kernel {action : Action} (h : kernelStep s action = some t)
    (hwrite : ∀ frame flags alloc, action ≠ .write frame flags alloc) :
    Moved s (.kernel action) t := by
  obtain ⟨hcd, hstep, rfl⟩ := Option.map_eq_some_iff.mp h
  exact {
    driver := .inr ⟨action, hstep, rfl, fun _ => rfl,
      fun frame flags alloc heq => absurd heq (hwrite frame flags alloc)⟩
    relays := .of_eq rfl rfl
    posted := Nat.le_refl _
    sets := Nat.le_add_right _ _
    produced := List.Subset.refl _
    channel := fun _ => .inl }

/-- A step of the daemon that touches neither the driver nor the history. -/
theorem moved_daemon {bridge : Bridge E D} {channel : List (List UInt8)}
    (hrelays : Relays (fun report => Held s report ∨ Synthetic report) s.bridge bridge)
    (hchannel : channel ⊆ s.channel) :
    Moved s event { s with bridge := bridge, channel := channel } where
  driver := .inl ⟨rfl, rfl⟩
  relays := hrelays
  posted := Nat.le_refl _
  sets := Nat.le_refl _
  produced := List.Subset.refl _
  channel := fun _ hmem => .inl (hchannel hmem)

theorem relays_daemonStep {action : Daemon.Action} {bridge : Bridge E D}
    {known : List UInt8 → Prop} (h : Daemon.step media s.bridge action = some bridge)
    (hframe : ∀ frame first second, action ≠ .frame frame first second)
    (hcontrol : ∀ packet, action = .btControl packet → ∀ report,
      btFeatureToUsbFeatureReply packet = some report → known report)
    (hconnect : ∀ replies initSent connected, action = .connect replies initSent connected →
      ∀ report ∈ replies, known report) : Relays known s.bridge bridge := by
  cases DaemonSteps.steps_of_step h with
  | frame frame first second => exact absurd rfl (hframe frame first second)
  | btInput packet mic first second => exact relays_handleBtInput packet mic first second
  | btControl packet => exact (relays_handleBtControl packet).mono (hcontrol packet rfl)
  | flush now later first second => exact (quiet_flushPendingOutputs now later first second).relays
  | drop => exact .of_eq rfl rfl
  | detach => exact .of_eq rfl rfl
  | connect replies initSent connected =>
      exact (relays_completePendingController replies initSent connected).mono
        (hconnect replies initSent connected rfl)

theorem moved_of_step (h : step media s event = some t) : Moved s event t := by
  cases event with
  | kernel action =>
      cases action with
      | read count => cases h
      | write frame flags alloc => cases h
      | _ => exact moved_kernel h (by simp)
  | serve count first second =>
      simp only [step] at h
      split at h
      · rename_i dev event hread
        obtain rfl := Option.some.inj h
        have hrelays : Relays (fun report => Held s report ∨ Synthetic report) s.bridge
            (handleFrame media s.bridge event.frame first second) := by
          refine (relays_handleFrame event.frame first second).mono fun report hknown => ?_
          exact hknown.symm.imp_left fun hcached => .inr (.inr (.inr (.inl hcached)))
        refine ⟨.inr ⟨.read count, ?_, rfl, fun hne => absurd rfl hne, by simp⟩, hrelays,
          Nat.le_refl _, Nat.le_refl _, List.Subset.refl _, fun _ => .inl⟩
        simp [Hcd.Threads.step, hread]
      · cases h
  | post alloc =>
      simp only [step] at h
      split at h
      · rename_i frame hframe
        obtain rfl := Option.some.inj h
        refine ⟨.inr ⟨.write frame 0 alloc, rfl, rfl, fun hne => absurd rfl hne, ?_⟩,
          .of_eq rfl rfl, Nat.le_succ _, Nat.le_refl _, List.Subset.refl _, fun _ => .inl⟩
        rintro _ _ _ ⟨⟩
        refine List.mem_of_getElem? (i := 0) ?_
        rw [List.getElem?_drop, Nat.add_zero, hframe]
      · cases h
  | produce packet =>
      obtain rfl := Option.some.inj h
      refine ⟨.inl ⟨rfl, rfl⟩, .of_eq rfl rfl, Nat.le_refl _, Nat.le_refl _,
        List.subset_append_left _ _, fun other hmem => ?_⟩
      refine (List.mem_append.mp hmem).imp_right fun hnew => ?_
      rw [List.mem_singleton.mp hnew]
      exact List.mem_append_right _ List.mem_cons_self
  | receive =>
      simp only [step] at h
      split at h
      · cases h
      · rename_i packet rest hchannel
        obtain ⟨bridge, hbridge, rfl⟩ := Option.map_eq_some_iff.mp h
        refine moved_daemon (relays_daemonStep hbridge (by simp) ?_ (by simp)) ?_
        · rintro _ ⟨⟩ report hreport
          exact .inl (.inr (.inr (.inr (.inr ⟨packet, by simp [hchannel], hreport⟩))))
        · rw [hchannel]
          exact List.subset_cons_self _ _
  | connect packets initSent connected =>
      obtain ⟨bridge, hbridge, rfl⟩ := Option.map_eq_some_iff.mp h
      refine moved_daemon (relays_daemonStep hbridge (by simp) (by simp) ?_)
        (List.drop_subset _ _)
      rintro _ _ _ ⟨⟩ report hreport
      obtain ⟨packet, hpacket, hreport⟩ := mem_repliesOf hreport
      exact .inl (.inr (.inr (.inr (.inr ⟨packet, List.mem_of_mem_take hpacket, hreport⟩))))
  | daemon action =>
      cases action with
      | btInput packet mic first second | flush now later first second =>
          obtain ⟨bridge, hbridge, rfl⟩ := Option.map_eq_some_iff.mp h
          exact moved_daemon (relays_daemonStep hbridge (by simp) (by simp) (by simp))
            (List.Subset.refl _)
      | drop | detach =>
          obtain ⟨bridge, hbridge, rfl⟩ := Option.map_eq_some_iff.mp h
          exact moved_daemon (relays_daemonStep hbridge (by simp) (by simp) (by simp))
            (List.nil_subset _)
      | _ => cases h

end Steps

section Invariant

open Hcd.AtomicRuns Hcd.DeviceStatus Hcd.FeatureReads

variable {s t : State E D} {event : Event} {action : Action} {report : List UInt8}

/-- Both caches file a report under its own number. -/
structure Keyed (s : State E D) : Prop where
  kernel : ∀ reportId, s.hcd.dev.usb.featureCache reportId ≠ [] →
    (s.hcd.dev.usb.featureCache reportId).head? = some reportId
  daemon : ∀ reportId report, s.bridge.port.featureCache reportId = some report →
    report.head? = some reportId

structure Inv (s : State E D) : Prop where
  known : Known s.hcd
  shape : Shape s.hcd
  keyed : Keyed s
  replies : ∀ payload, .featureReply payload ∈ s.hcd.syscalls → payload ≠ []
  missed : ∀ id reportId requestedLength, s.hcd.enqueuers id = .missed reportId requestedLength →
    ∃ sets, s.asked id = some (reportId, sets)
  waits : ∀ id reportId, Reads s.hcd.dev reportId id → ∃ sets, s.asked id = some (reportId, sets)
  epochs : ∀ id reportId sets, s.asked id = some (reportId, sets) → sets ≤ s.sets
  /-- The copies of a report that was asked for are fresh. -/
  fresh : ∀ id reportId sets, s.asked id = some (reportId, sets) → 0x80 ≤ reportId →
    ∀ report ∈ copies s reportId, FreshSince s sets report

theorem Keyed.mem_copies (keyed : Keyed s) {reportId : UInt8} (h : Held s report)
    (hhead : report.head? = some reportId) : report ∈ copies s reportId := by
  refine FeatureFreshness.mem_copies.mpr ⟨hhead, ?_⟩
  obtain ⟨named, rfl⟩ | hsyscall | hframe | ⟨named, hcached⟩ | hpacket := h
  · refine .inl ?_
    have hne : s.hcd.dev.usb.featureCache named ≠ [] := by
      rintro hempty
      rw [hempty] at hhead
      cases hhead
    rw [keyed.kernel named hne] at hhead
    rw [Option.some.inj hhead]
  · exact .inr (.inl hsyscall)
  · exact .inr (.inr (.inl hframe))
  · refine .inr (.inr (.inr (.inl ?_)))
    rw [keyed.daemon named report hcached] at hhead
    rwa [← Option.some.inj hhead]
  · exact .inr (.inr (.inr (.inr hpacket)))

theorem held_of_mem_copies {reportId : UInt8} (h : report ∈ copies s reportId) : Held s report := by
  obtain ⟨-, hcached | hsyscall | hframe | hcached | hpacket⟩ := mem_copies.mp h
  · exact .inl ⟨reportId, hcached⟩
  · exact .inr (.inl hsyscall)
  · exact .inr (.inr (.inl hframe))
  · exact .inr (.inr (.inr (.inl ⟨reportId, hcached⟩)))
  · exact .inr (.inr (.inr (.inr hpacket)))

theorem FreshSince.mono {sets : Nat} (h : FreshSince s sets report)
    (hproduced : s.produced ⊆ t.produced) : FreshSince t sets report := by
  refine h.imp_right ?_
  rintro ⟨packet, hmem, hpacket⟩
  exact ⟨packet, hproduced hmem, hpacket⟩

theorem askedAfter_of_readBy {id : CtxId} {reportId : UInt8}
    (h : readBy s.hcd action = some (id, reportId)) :
    askedAfter s action id = some (reportId, s.sets) := by
  simp [askedAfter, h]

theorem linked_of_readBy {s : System} {read : CtxId × UInt8} (h : readBy s action = some read) :
    action = .handle read.1 ∧ s.enqueuers read.1 = .linked := by
  unfold readBy at h
  split at h
  · rename_i id
    split at h
    · rename_i hlinked _
      split_ifs at h
      obtain ⟨reportId, -, rfl⟩ := Option.map_eq_some_iff.mp h
      exact ⟨rfl, hlinked⟩
    · cases h
  · cases h

/-- A thread that is past its handler keeps what it has asked for. -/
theorem askedAfter_of_ne_linked {id : CtxId} (h : s.hcd.enqueuers id ≠ .linked) :
    askedAfter s action id = s.asked id := by
  rw [askedAfter]
  cases hread : readBy s.hcd action with
  | none => rfl
  | some read =>
      refine Function.update_of_ne ?_ _ _
      rintro rfl
      exact h (linked_of_readBy hread).2

/-- A read that is listed after a step was listed before or has missed the cache. -/
theorem reads_of_step {s t : System} (known : Known s) {reportId : UInt8} {id : CtxId}
    (h : Hcd.Threads.step s action = some t) (hreads : Reads t.dev reportId id) :
    Reads s.dev reportId id ∨
      ∃ requestedLength, s.enqueuers id = .missed reportId requestedLength := by
  obtain ⟨hmem, context, hcontext, hreport⟩ := hreads
  by_cases hsubmit : ∃ urb alloc linkRet, action = .submit urb alloc linkRet
  · obtain ⟨urb, alloc, linkRet, rfl⟩ := hsubmit
    obtain rfl | ⟨_, -, -, rfl⟩ := submit_cases h
    · exact .inl ⟨hmem, context, hcontext, hreport⟩
    · have hlt : id < s.dev.submitted := known.submitted id (.inr (.inl hmem))
      dsimp only at hcontext
      rw [Function.update_of_ne (Nat.ne_of_lt hlt)] at hcontext
      exact .inl ⟨hmem, context, hcontext, hreport⟩
  by_cases hdefer : ∃ j, action = .defer j
  · obtain ⟨j, rfl⟩ := hdefer
    obtain ⟨named, requestedLength, hpc, ⟨before, -, rfl⟩ | ⟨ret, rfl⟩⟩ := defer_cases h
    · dsimp only [System.setPc, deferredDev] at hmem hcontext
      by_cases hid : id = j
      · subst hid
        rw [Function.update_self] at hcontext
        cases hcontext
        exact .inr ⟨requestedLength, by rw [hpc, ← hreport]⟩
      · rw [Function.update_of_ne hid] at hcontext
        rw [List.mem_append, List.mem_singleton] at hmem
        exact .inl ⟨hmem.resolve_right hid, context, hcontext, hreport⟩
    · exact .inl ⟨hmem, context, hcontext, hreport⟩
  simp only [not_exists] at hsubmit hdefer
  have spares := spares_step h hsubmit hdefer
  obtain ⟨before, hbefore, hsame⟩ := spares.reports id context hcontext
  exact .inl ⟨spares.pending.mem hmem, before, hbefore, hsame.trans hreport⟩

/-- A copy after a step was there before, is made up, or has just been produced. -/
theorem held_of_moved (shape : Shape s.hcd) (moved : Moved s event t) (h : Held t report) :
    Held s report ∨ report = [] ∨ Synthetic report ∨ ∃ packet, (s.sets, packet) ∈ t.produced ∧
      btFeatureToUsbFeatureReply packet = some report := by
  have hwritten : ∀ {frame : Frame}, frame ∈ s.bridge.portWrites.drop s.posted →
      frame.type = .usbFeatureReply → Held s frame.payload := by
    intro frame hmem htype
    exact .inr (.inr (.inl ⟨frame, hmem, by rw [reportOf, if_pos htype]⟩))
  obtain ⟨reportId, rfl⟩ | hsyscall | ⟨frame, hframe, hreport⟩ | ⟨reportId, hcached⟩ |
    ⟨packet, hpacket, hreport⟩ := h
  · obtain ⟨hsame, -⟩ | ⟨action, drives⟩ := moved.driver
    · exact .inl (.inl ⟨reportId, by rw [hsame]⟩)
    · obtain hsame | hempty | ⟨frame, flags, alloc, rfl, htype, -, hcached⟩ :=
        featureCache_of_step shape drives.step reportId
      · exact .inl (.inl ⟨reportId, hsame.symm⟩)
      · exact .inr (.inl hempty)
      · rw [hcached]
        exact .inl (hwritten (drives.writes frame flags alloc rfl) htype)
  · obtain ⟨hsame, -⟩ | ⟨action, drives⟩ := moved.driver
    · exact .inl (.inr (.inl (by rwa [← hsame])))
    · obtain hold | ⟨frame, flags, alloc, rfl, htype, rfl, -⟩ :=
        replies_of_step drives.step hsyscall
      · exact .inl (.inr (.inl hold))
      · exact .inl (hwritten (drives.writes frame flags alloc rfl) htype)
  · obtain ⟨new, hwrites, hknown⟩ := moved.relays.writes
    have hmem : frame ∈ s.bridge.portWrites.drop s.posted ∨ frame ∈ new := by
      have hdropped := List.drop_subset_drop_left t.bridge.portWrites moved.posted hframe
      rw [hwrites, List.drop_append] at hdropped
      exact (List.mem_append.mp hdropped).imp_right (List.mem_of_mem_drop ·)
    have htype : frame.type = .usbFeatureReply ∧ frame.payload = report := by
      unfold reportOf at hreport
      split_ifs at hreport with htype
      exact ⟨htype, Option.some.inj hreport⟩
    obtain ⟨htype, rfl⟩ := htype
    obtain hold | hnew := hmem
    · exact .inl (hwritten hold htype)
    · exact (hknown frame hnew htype).imp_right fun hsynthetic => .inr (.inl hsynthetic)
  · obtain ⟨hknown, -⟩ | hold := moved.relays.cache reportId report hcached
    · exact hknown.imp_right fun hsynthetic => .inr (.inl hsynthetic)
    · exact .inl (.inr (.inr (.inr (.inl ⟨reportId, hold⟩))))
  · obtain hold | hnew := moved.channel packet hpacket
    · exact .inl (.inr (.inr (.inr (.inr ⟨packet, hold, hreport⟩))))
    · exact .inr (.inr (.inr ⟨packet, hnew, hreport⟩))

namespace Inv

theorem keyed_step (inv : Inv s) (moved : Moved s event t) : Keyed t where
  kernel := by
    intro reportId hne
    obtain ⟨hsame, -⟩ | ⟨action, drives⟩ := moved.driver
    · rw [hsame] at hne ⊢
      exact inv.keyed.kernel reportId hne
    · obtain hsame | hempty | ⟨frame, flags, alloc, -, -, hhead, hcached⟩ :=
        featureCache_of_step inv.shape drives.step reportId
      · rw [hsame] at hne ⊢
        exact inv.keyed.kernel reportId hne
      · exact absurd hempty hne
      · rw [hcached, hhead]
  daemon := by
    intro reportId report hcached
    obtain ⟨-, hhead⟩ | hold := moved.relays.cache reportId report hcached
    · exact hhead
    · exact inv.keyed.daemon reportId report hold

/-- What is fresh stays so: a new copy is one of an old copy or of a new packet. -/
theorem freshSince_of_moved (inv : Inv s) (moved : Moved s event t) {reportId : UInt8} {sets : Nat}
    (hsets : sets ≤ s.sets) (hfresh : ∀ report ∈ copies s reportId, FreshSince s sets report)
    (hmem : report ∈ copies t reportId) : FreshSince t sets report := by
  have hhead := (mem_copies.mp hmem).1
  obtain hheld | rfl | hsynthetic | ⟨packet, hpacket, hreport⟩ :=
    held_of_moved inv.shape moved (held_of_mem_copies hmem)
  · exact (hfresh report (inv.keyed.mem_copies hheld hhead)).mono moved.produced
  · cases hhead
  · exact .inl hsynthetic
  · exact .inr ⟨(s.sets, packet), hpacket, hsets, hreport⟩

/-- A read that a step records was recorded before, or starts now with fresh copies. -/
theorem asked_of_moved (inv : Inv s) (ok : current s event) (moved : Moved s event t) {id : CtxId}
    {reportId : UInt8} {sets : Nat} (h : t.asked id = some (reportId, sets)) :
    sets ≤ s.sets ∧ (0x80 ≤ reportId → ∀ report ∈ copies s reportId, FreshSince s sets report) := by
  have hold : s.asked id = some (reportId, sets) → _ := fun h =>
    And.intro (inv.epochs id reportId sets h) (inv.fresh id reportId sets h)
  obtain ⟨-, hsame⟩ | ⟨action, drives⟩ := moved.driver
  · exact hold (by rw [← hsame, h])
  · cases hread : readBy s.hcd action with
    | none =>
        rw [drives.asked, askedAfter, hread] at h
        exact hold h
    | some read =>
        rw [drives.asked, askedAfter, hread] at h
        obtain rfl := drives.reads (by simp [hread])
        dsimp only at h
        by_cases hid : id = read.1
        · subst hid
          rw [Function.update_self] at h
          cases h
          exact ⟨Nat.le_refl _, ok read hread⟩
        · rw [Function.update_of_ne hid] at h
          exact hold h

theorem missed_step (inv : Inv s) (moved : Moved s event t) {id : CtxId} {reportId : UInt8}
    {requestedLength : UInt16} (h : t.hcd.enqueuers id = .missed reportId requestedLength) :
    ∃ sets, t.asked id = some (reportId, sets) := by
  obtain ⟨hsame, hasked⟩ | ⟨action, drives⟩ := moved.driver
  · rw [hsame] at h
    rw [hasked]
    exact inv.missed id reportId requestedLength h
  · rw [drives.asked]
    obtain hsame | ⟨hown, -⟩ | ⟨hlinked, -⟩ := enqueuers_of_step drives.step id
    · rw [hsame] at h
      rw [askedAfter_of_ne_linked (by simp [h])]
      exact inv.missed id reportId requestedLength h
    · exact ⟨s.sets, askedAfter_of_readBy (readBy_of_missed drives.step hown h)⟩
    · rw [hlinked] at h
      cases h

theorem waits_step (inv : Inv s) (moved : Moved s event t) {id : CtxId} {reportId : UInt8}
    (h : Reads t.hcd.dev reportId id) : ∃ sets, t.asked id = some (reportId, sets) := by
  obtain ⟨hsame, hasked⟩ | ⟨action, drives⟩ := moved.driver
  · rw [hsame] at h
    rw [hasked]
    exact inv.waits id reportId h
  · rw [drives.asked]
    obtain hreads | ⟨requestedLength, hpc⟩ := reads_of_step inv.known drives.step h
    · have hdecided := inv.known.decided id hreads.1
      rw [askedAfter_of_ne_linked (by rintro hlinked; simp [hlinked, enters] at hdecided)]
      exact inv.waits id reportId hreads
    · rw [askedAfter_of_ne_linked (by simp [hpc])]
      exact inv.missed id reportId requestedLength hpc

theorem replies_step (inv : Inv s) (moved : Moved s event t) {payload : List UInt8}
    (h : .featureReply payload ∈ t.hcd.syscalls) : payload ≠ [] := by
  obtain ⟨hsame, -⟩ | ⟨action, drives⟩ := moved.driver
  · rw [hsame] at h
    exact inv.replies payload h
  · obtain hold | ⟨frame, flags, alloc, -, -, -, hret⟩ := replies_of_step drives.step h
    · exact inv.replies payload hold
    · rintro rfl
      cases hret

theorem step (inv : Inv s) (ok : current s event) (moved : Moved s event t) : Inv t where
  known := by
    obtain ⟨hsame, -⟩ | ⟨action, drives⟩ := moved.driver
    · rw [hsame]
      exact inv.known
    · exact inv.known.step drives.step
  shape := by
    obtain ⟨hsame, -⟩ | ⟨action, drives⟩ := moved.driver
    · rw [hsame]
      exact inv.shape
    · exact shape_step inv.shape drives.step
  keyed := inv.keyed_step moved
  replies := fun _ => inv.replies_step moved
  missed := fun _ _ _ => inv.missed_step moved
  waits := fun _ _ => inv.waits_step moved
  epochs := fun _ _ _ h => Nat.le_trans (inv.asked_of_moved ok moved h).1 moved.sets
  fresh := by
    intro id reportId sets h hcommand report hmem
    obtain ⟨hsets, hfresh⟩ := inv.asked_of_moved ok moved h
    exact inv.freshSince_of_moved moved hsets (hfresh hcommand) hmem

theorem init (media : Media E D) : Inv (FeatureFreshness.init media) where
  known := .init
  shape := fun _ => trivial
  keyed := ⟨fun _ hne => absurd rfl hne, by rintro _ _ ⟨⟩⟩
  replies := fun _ hmem => absurd hmem List.not_mem_nil
  missed := by rintro _ _ _ ⟨⟩
  waits := fun _ _ hreads => absurd hreads.1 List.not_mem_nil
  epochs := by rintro _ _ _ ⟨⟩
  fresh := by rintro _ _ _ ⟨⟩

end Inv

end Invariant

section Data

open Hcd.FeatureReads Hcd.FeatureReplies

variable {s t : System} {action : Action} {report : List UInt8}

/-- The bytes that a transfer has brought. -/
def received (urb : Urb) : List UInt8 :=
  ((urb.transferBuffer.map Vector.toList).getD []).take urb.actualLength

/-- The read has got the report, cut to the length of its buffer. -/
def Delivered (s : System) (id : CtxId) (report : List UInt8) : Prop :=
  ∃ context, s.dev.contexts id = some context ∧ (context.urb.transferBuffer.isSome →
    received context.urb = report.take context.urb.transferBufferLength)

theorem copyToUrb_cases (urb : Urb) (report : List UInt8) :
    urb.transferBuffer = none ∧ (copyToUrb urb report).1 = urb ∨
      (copyToUrb urb report).1 = { urb with
        transferBuffer := urb.transferBuffer.map fun buffer =>
          Lib.Buffers.overwrite buffer 0 (report.take (min report.length urb.transferBufferLength))
        actualLength := min report.length urb.transferBufferLength } := by
  rw [copyToUrb]
  by_cases hfails : min report.length urb.transferBufferLength ≠ 0 ∧ urb.transferBuffer.isNone
  · rw [if_pos hfails]
    exact .inl ⟨Option.isNone_iff_eq_none.mp hfails.2, rfl⟩
  · rw [if_neg hfails]
    exact .inr rfl

theorem received_copyToUrb {urb : Urb} (h : (copyToUrb urb report).1.transferBuffer.isSome) :
    received (copyToUrb urb report).1 =
      report.take (copyToUrb urb report).1.transferBufferLength := by
  obtain ⟨hnone, hcopy⟩ | hcopy := copyToUrb_cases urb report
  · rw [hcopy, hnone] at h
    cases h
  · rw [hcopy] at h ⊢
    obtain ⟨buffer, hbuffer⟩ := Option.isSome_iff_exists.mp (Option.isSome_map ▸ h)
    have hlength := List.length_take_of_le (Nat.min_le_left report.length urb.transferBufferLength)
    have hblock := Lib.Buffers.take_toList_overwrite buffer
      (hlength.trans_le (Nat.min_le_right _ _))
    dsimp only [received]
    rw [hlength] at hblock
    rw [hbuffer, Option.map_some, Option.map_some, Option.getD_some, hblock, List.take_eq_take_iff,
      Nat.min_assoc, Nat.min_comm urb.transferBufferLength, ← Nat.min_assoc, Nat.min_self,
      Nat.min_comm]

/-- A cache hit copies the report to the URB. -/
theorem delivered_of_readBy {id : CtxId} {reportId : UInt8}
    (h : Hcd.Threads.step s (.handle id) = some t)
    (hread : readBy s (.handle id) = some (id, reportId))
    (hcached : s.dev.usb.featureCache reportId ≠ []) :
    Delivered t id (s.dev.usb.featureCache reportId) := by
  unfold readBy at hread
  dsimp only at hread
  split at hread
  · rename_i context hlinked hcontext
    split_ifs at hread with hpipe
    obtain ⟨_, hget, heq⟩ := Option.map_eq_some_iff.mp hread
    cases heq
    obtain ⟨_, hempty, -⟩ | ⟨-, hcontrol⟩ := controlUrb_of_featureGetOf hget
    · exact absurd hempty hcached
    · simp only [Hcd.Threads.step, hlinked, hcontext] at h
      obtain rfl := Option.some.inj h
      refine ⟨{ context with urb := (copyToUrb { context.urb with actualLength := 0 }
        (s.dev.usb.featureCache reportId)).1 }, ?_, received_copyToUrb⟩
      simp [handle, hpipe, hcontrol, replies, HcdDev.modifyContext, hcontext, System.setPc]
  · cases hread

/-- What a step completes reads with ends up in their URBs. -/
theorem delivered_of_completedBy (known : Known s) (h : Hcd.Threads.step s action = some t)
    (hreplies : ∀ payload, .featureReply payload ∈ s.syscalls → payload ≠ [])
    {answer : CtxId × List UInt8} (hanswer : answer ∈ completedBy s action) :
    Delivered t answer.1 answer.2 := by
  unfold completedBy at hanswer
  split at hanswer
  · rename_i id reportId hread
    obtain ⟨rfl, -⟩ := linked_of_readBy hread
    split at hanswer
    · cases hanswer
    · rename_i hcached
      obtain rfl := List.mem_singleton.mp hanswer
      exact delivered_of_readBy h hread hcached
  · obtain ⟨rfl, hopen, hwaits⟩ := mem_answeredBy (show (answer.1, answer.2) ∈ _ from hanswer)
    obtain ⟨hsyscall, hresume⟩ := Option.ite_none_right_eq_some.mp h
    obtain rfl := Option.some.inj hresume
    have hhead : answer.2.head? = some (answer.2.headD 0) := by
      cases hpayload : answer.2 with
      | nil => exact absurd hpayload (hreplies _ hsyscall)
      | cons reportId rest => rfl
    have hcompleted := completed_completeFeatureReply hopen known.nodup hwaits hhead
    obtain ⟨context, context', -, hcontext', -, -, hurb, -⟩ := hcompleted.filed
    refine ⟨context', hcontext', ?_⟩
    rw [hurb]
    exact received_copyToUrb

end Data

section Commands

/-- A write of a feature report of two bytes. -/
def setReportUrb (reportId : UInt8) : Urb where
  pipeType := .control
  endpoint := 0
  dirIn := false
  setupPacket := some ⟨0x21, hidReqSetReport, 0x0300 ||| reportId.toUInt16, 3, 2⟩
  transferBufferLength := 2
  transferBuffer := some #v[reportId, 0]
  isoFrameDesc := []
  actualLength := 0
  errorCount := 0
  startFrame := 0
  linked := false
  unlinked := false
  hcpriv := false

/-- A controller connects and answers the reads that prime the caches. -/
def primed : List Event :=
  [.produce [0xa3, 0x09, 0x01], .produce [0xa3, 0x20, 0x01], .produce [0xa3, 0x05, 0x01],
    .connect 3 true true, .kernel .connect]

/-- A command is sent. -/
def sendCommand (id : CtxId) : List Event :=
  [.kernel (.submit (setReportUrb 0x84) true 0), .kernel (.handle id), .kernel (.call id true),
    .kernel (.file id), .serve 64 .sent .sent]

/-- The result of a command is read from the controller, whose reply reaches the driver. -/
def readResult (id : CtxId) : List Event :=
  [.kernel (.submit (Hcd.FeatureReplies.getReportUrb 0x85) true 0), .kernel (.handle id),
    .kernel (.defer id), .kernel (.request id true), .serve 64 .sent .sent,
    .produce [0xa3, 0x85, 0x01], .receive, .post true, .post true, .post true, .post true]

/-- The reply that completes the read. -/
def reply : Action := .resume (.featureReply [0x85, 0x01])

/-- A result is read, the next command is sent, and its result is asked for. -/
def staleTrace : List Event :=
  primed ++ readResult 0 ++ [.kernel reply] ++ sendCommand 1 ++
    [.kernel (.submit (Hcd.FeatureReplies.getReportUrb 0x85) true 0)]

/-- The result of the second command is answered with that of the first. -/
theorem stale_result_after_command : ∃ s t, Run (step silentMedia) (init silentMedia) staleTrace s ∧
    step silentMedia s (.kernel (.handle 2)) = some t ∧
    (2, [0x85, 0x01]) ∈ completedBy s.hcd (.handle 2) ∧ t.asked 2 = some (0x85, 1) ∧
    ¬FreshSince t 1 [0x85, 0x01] ∧
    (t.hcd.dev.contexts 2).map (fun context => received context.urb) = some [0x85, 0x01] := by
  have hrun : (execute (step silentMedia) (init silentMedia) staleTrace).any (fun s => decide
      ((2, [0x85, 0x01]) ∈ completedBy s.hcd (.handle 2) ∧
        (step silentMedia s (.kernel (.handle 2))).any fun t => decide
          (t.asked 2 = some (0x85, 1) ∧ ¬FreshSince t 1 [0x85, 0x01] ∧
            (t.hcd.dev.contexts 2).map (fun context => received context.urb) =
              some [0x85, 0x01]))) = true := by decide +kernel
  obtain ⟨s, run, hcompleted, hstep⟩ := exists_run_of_execute hrun
  obtain ⟨t, ht, hstale⟩ := (Option.any_eq_true _ _).mp hstep
  exact ⟨s, t, run, ht, hcompleted, of_decide_eq_true hstale⟩

/-- A command-channel report is not older than the last FEATURE_SET before its read, as
long as no read starts while an older copy of its report is left. -/
theorem freshSince_of_completedBy (media : Media E D) {s t : State E D} {events : List Event}
    {action : Action} (run : GuardedRun (step media) current (init media) events s)
    (ok : current s (.kernel action)) (h : step media s (.kernel action) = some t) :
    ∀ answer ∈ completedBy s.hcd action, Delivered t.hcd answer.1 answer.2 ∧
      ∃ reportId sets, t.asked answer.1 = some (reportId, sets) ∧
        answer.2.head? = some reportId ∧ (0x80 ≤ reportId → FreshSince t sets answer.2) := by
  have inv : Inv s := run.invariant
    (fun _ _ _ inv ok h => inv.step ok (moved_of_step h)) (.init media)
  have moved := moved_of_step h
  have hkernel : kernelStep s action = some t := by
    simp only [step] at h
    split at h
    · cases h
    · cases h
    · exact h
  obtain ⟨hcd, hstep, rfl⟩ := Option.map_eq_some_iff.mp hkernel
  intro answer hanswer
  refine ⟨delivered_of_completedBy inv.known hstep inv.replies hanswer, ?_⟩
  obtain ⟨id, report⟩ := answer
  unfold completedBy at hanswer
  split at hanswer
  · rename_i named reportId hread
    split at hanswer
    · cases hanswer
    · rename_i hcached
      cases List.mem_singleton.mp hanswer
      have hhead := inv.keyed.kernel reportId hcached
      have hmem := inv.keyed.mem_copies (.inl ⟨reportId, rfl⟩) hhead
      exact ⟨reportId, s.sets, askedAfter_of_readBy hread, hhead,
        fun hcommand => (ok _ hread hcommand _ hmem).mono moved.produced⟩
  · rename_i hread
    obtain ⟨rfl, -, hwaits⟩ := Hcd.FeatureReplies.mem_answeredBy hanswer
    obtain ⟨sets, hasked⟩ := inv.waits id _ hwaits.reads
    have hsyscall := (Option.ite_none_right_eq_some.mp hstep).1
    have hhead : report.head? = some (report.headD 0) := by
      cases report with
      | nil => exact absurd rfl (inv.replies _ hsyscall)
      | cons reportId rest => rfl
    have hmem := inv.keyed.mem_copies (.inr (.inl hsyscall)) hhead
    refine ⟨report.headD 0, sets, ?_, hhead, fun hcommand => ?_⟩
    · simpa [askedAfter, hread] using hasked
    · exact (inv.fresh id _ sets hasked hcommand report hmem).mono moved.produced

/-- The result of the first command is read after the command. -/
theorem freshSince_of_firstCommand : ∃ s t,
    GuardedRun (step silentMedia) current (init silentMedia)
      (primed ++ sendCommand 0 ++ readResult 1) s ∧
    step silentMedia s (.kernel reply) = some t ∧ t.asked 1 = some (0x85, 1) ∧
    FreshSince t 1 [0x85, 0x01] ∧ Delivered t.hcd 1 [0x85, 0x01] := by
  have hrun : (executeGuarded (step silentMedia) current (init silentMedia)
      (primed ++ sendCommand 0 ++ readResult 1)).any (fun s => decide
        (current s (.kernel reply) ∧ (1, [0x85, 0x01]) ∈ completedBy s.hcd reply ∧
          (step silentMedia s (.kernel reply)).any fun t =>
            decide (t.asked 1 = some (0x85, 1)))) = true := by decide +kernel
  obtain ⟨s, run, ok, hcompleted, hstep⟩ := exists_guardedRun_of_any hrun
  obtain ⟨t, ht, hasked⟩ := (Option.any_eq_true _ _).mp hstep
  obtain ⟨hdelivered, reportId, sets, hasked', -, hfresh⟩ :=
    freshSince_of_completedBy silentMedia run ok ht _ hcompleted
  rw [of_decide_eq_true hasked] at hasked'
  cases hasked'
  exact ⟨s, t, run, ht, of_decide_eq_true hasked, hfresh (by decide), hdelivered⟩

end Commands

end VirtualDualSense.Linux.FeatureFreshness
