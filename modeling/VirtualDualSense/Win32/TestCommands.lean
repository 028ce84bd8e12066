import VirtualDualSense.Win32.Bridge

/-!
# Test commands of the Windows bridge

A FEATURE_SET of report 0x80 with a device and an action is not written to the controller.
Its result is made up and handed to the feature cache, for the host to read as report 0x81.
The cache takes no report from 0x80 on, so the host gets what the controller says instead.
-/

namespace VirtualDualSense.Win32.TestCommands

open Lib.Runs Protocol.Frames Protocol.BtPackets Protocol.BridgeParts Bridge

/-- A frame of the virtual device, and what the transport does for it: whether it takes what
is sent, and what `read_feature_report` returns if it is called. -/
structure Exchange where
  frame : Frame
  outcome : SendOutcome
  read : Option (List UInt8)

variable {E D : Type*}

section Handling

variable (media : Media E D) (tuning : Tuning)

/-- The rest of `handle_virtual_frame` after its first critical section. -/
def runOps (e : Exchange) (b : Session E D) : List Op → Session E D
  | [] => { b with toBluetooth := [] }
  | op :: rest =>
      let (b, ops) := runOp b e.outcome e.read op
      -- what an operation adds are reports to be sent
      runOps e (ops.foldl (fun b op => (runOp b e.outcome e.read op).1) b) rest

/-- `handle_virtual_frame`, from its begin to its return. -/
def handleFrame (b : Session E D) (e : Exchange) : Session E D :=
  let begun := handleVirtualFrame media tuning b e.frame
  runOps e begun begun.toBluetooth

def handleFrames (b : Session E D) (exchanges : List Exchange) : Session E D :=
  exchanges.foldl (handleFrame media tuning) b

end Handling

section Pairing

/-- A FEATURE_SET of report 0x80. -/
def Commands (e : Exchange) : Prop :=
  e.frame.type = .usbFeatureSet ∧ e.frame.payload.head? = some kTestCommandReportId

/-- A FEATURE_SET of report 0x80 that is parsed. -/
def CommandsTest (e : Exchange) (device action : UInt8) : Prop :=
  e.frame.type = .usbFeatureSet ∧
    ∃ data, parseTestCommand e.frame.payload = some (device, action, data)

/-- A FEATURE_GET of report 0x81. -/
def Asks (e : Exchange) : Prop :=
  e.frame.type = .usbFeatureGet ∧ e.frame.payload.head? = some kTestCommandResultReportId

/-- `get` is the first request for the result of `command`, before another command. -/
def AsksNext (exchanges before : List Exchange) (command : Exchange) (between : List Exchange)
    (get : Exchange) : Prop :=
  (∃ rest, exchanges = before ++ command :: between ++ get :: rest) ∧
    (∀ e ∈ between, ¬Commands e ∧ ¬Asks e) ∧ Asks get

variable (media : Media E D) (tuning : Tuning) (start : Session E D)

/-- Every test command is written to the controller or has its result read by the next
request for it. -/
def Paired (exchanges : List Exchange) : Prop :=
  ∀ before command after device action, exchanges = before ++ command :: after →
    CommandsTest command device action →
    (handleFrames media tuning start (before ++ [command])).featureWrites =
        (handleFrames media tuning start before).featureWrites ++ [command.frame.payload] ∨
      ∀ between get, AsksNext exchanges before command between get →
        (handleFrames media tuning start (before ++ command :: between ++ [get])).virtualWrites =
          (handleFrames media tuning start (before ++ command :: between)).virtualWrites ++
            [(.usbFeatureReply, testResult device action)]

/-- The controller itself answers the next request for the result of every test command with
the made-up result. -/
def Echoed (exchanges : List Exchange) : Prop :=
  ∀ before command between get device action, CommandsTest command device action →
    AsksNext exchanges before command between get → get.read = some (testResult device action)

end Pairing

section Steps

variable {media : Media E D} {tuning : Tuning} {b : Session E D} {e : Exchange}

@[simp] theorem runOps_nil : runOps e b [] = { b with toBluetooth := [] } := rfl

theorem toBluetooth_runOps (ops : List Op) : (runOps e b ops).toBluetooth = [] := by
  induction ops generalizing b with
  | nil => rfl
  | cons op rest ih => exact ih

/-- A thread that has handled a frame is idle. -/
theorem toBluetooth_handleFrames (idle : b.toBluetooth = []) (exchanges : List Exchange) :
    (handleFrames media tuning b exchanges).toBluetooth = [] := by
  induction exchanges generalizing b with
  | nil => exact idle
  | cons e rest ih => exact ih (toBluetooth_runOps _)

theorem handleFrames_append (before after : List Exchange) :
    handleFrames media tuning b (before ++ after) =
      handleFrames media tuning (handleFrames media tuning b before) after :=
  List.foldl_append

/-- Only `writeFeature` writes a feature report. -/
theorem featureWrites_runOp {op : Op} (outcome : SendOutcome) (read : Option (List UInt8))
    (h : ∀ payload, op ≠ .writeFeature payload) :
    (runOp b outcome read op).1.featureWrites = b.featureWrites ∧
      ∀ next ∈ (runOp b outcome read op).2, ∀ payload, next ≠ .writeFeature payload := by
  cases op with
  | stateIfChanged =>
      simp only [runOp, buildBtStateIfChanged]
      split_ifs
      · exact ⟨rfl, by simp⟩
      · exact ⟨rfl, by simp⟩
  | micState active micReport => exact ⟨rfl, by simp [runOp]⟩
  | send out =>
      cases outcome with
      | sent | queueFull | exception => exact ⟨rfl, by simp [runOp]⟩
  | readFeature reportId =>
      cases read with
      | none => exact ⟨rfl, by simp [runOp]⟩
      | some report => exact ⟨rfl, by simp [runOp]⟩
  | writeFeature payload => exact absurd rfl (h payload)

theorem featureWrites_runOps {ops : List Op}
    (h : ∀ op ∈ ops, ∀ payload, op ≠ .writeFeature payload) :
    (runOps e b ops).featureWrites = b.featureWrites := by
  have hfoldl : ∀ (added : List Op) (b : Session E D),
      (∀ op ∈ added, ∀ payload, op ≠ .writeFeature payload) →
      (added.foldl (fun b op => (runOp b e.outcome e.read op).1) b).featureWrites =
        b.featureWrites := by
    intro added
    induction added with
    | nil => exact fun _ _ => rfl
    | cons op rest ih =>
        intro b hadded
        rw [List.foldl_cons, ih _ fun next hnext => hadded next (List.mem_cons_of_mem _ hnext)]
        exact (featureWrites_runOp _ _ (hadded op List.mem_cons_self)).1
  induction ops generalizing b with
  | nil => rfl
  | cons op rest ih =>
      obtain ⟨hfirst, hadded⟩ :=
        featureWrites_runOp (b := b) e.outcome e.read (h op List.mem_cons_self)
      rw [runOps, ih fun next hnext => h next (List.mem_cons_of_mem _ hnext),
        hfoldl _ _ hadded, hfirst]

/-- A test command is not written to the controller. -/
theorem featureWrites_of_commandsTest {device action : UInt8} (idle : b.toBluetooth = [])
    (h : CommandsTest e device action) :
    (handleFrame media tuning b e).featureWrites = b.featureWrites := by
  obtain ⟨htype, data, hparse⟩ := h
  simp only [handleFrame, handleVirtualFrame, htype, hparse]
  split_ifs with hzero hupdate
  · rw [idle]
    rfl
  · exact featureWrites_runOps (by simp)
  · rfl

/-- A request for report 0x81 is answered with what the controller says. -/
theorem virtualWrites_of_asks (h : Asks e) :
    (handleFrame media tuning b e).virtualWrites =
      b.virtualWrites ++ (e.read.map fun report => (.usbFeatureReply, report)).toList := by
  obtain ⟨htype, hreport⟩ := h
  obtain ⟨rest, hpayload⟩ := List.head?_eq_some_iff.mp hreport
  have hmiss : cachedFeatureReport b.state kTestCommandResultReportId = none := rfl
  simp only [handleFrame, handleVirtualFrame, htype, hpayload, hmiss, runOps, runOp]
  cases e.read with
  | none => simp
  | some report => simp

end Steps

section Threads

variable {media : Media E D} {tuning : Tuning} {b : Session E D} {e : Exchange}

/-- An operation does not look at the rest of the program. -/
theorem runOp_withProgram (program : List Op) (outcome : SendOutcome) (read : Option (List UInt8))
    (op : Op) : runOp { b with toBluetooth := program } outcome read op =
      ({ (runOp b outcome read op).1 with toBluetooth := program },
        (runOp b outcome read op).2) := by
  cases op with
  | stateIfChanged =>
      by_cases hsame : b.state.lastSentState = some b.state.image
      · simp [runOp, buildBtStateIfChanged, hsame]
      · simp [runOp, buildBtStateIfChanged, hsame, buildStateReport]
  | micState active micReport => rfl
  | send out => cases outcome <;> rfl
  | readFeature reportId => cases read <;> rfl
  | writeFeature payload =>
      simp only [runOp]
      split_ifs <;> rfl

/-- What an operation adds are reports to be sent, which add nothing. -/
theorem added_eq_nil {op next : Op} {outcome : SendOutcome} {read : Option (List UInt8)}
    (h : next ∈ (runOp b outcome read op).2) (c : Session E D) :
    (runOp c outcome read next).2 = [] := by
  have hsend : ∃ out, next = .send out := by
    cases op with
    | stateIfChanged =>
        simp only [runOp, buildBtStateIfChanged] at h
        split_ifs at h
        · cases h
        · exact ⟨_, List.mem_singleton.mp h⟩
    | micState active micReport =>
        obtain rfl | h := List.mem_cons.mp h
        · exact ⟨_, rfl⟩
        · exact ⟨_, List.mem_singleton.mp h⟩
    | send out => cases h
    | readFeature reportId => cases read <;> cases h
    | writeFeature payload => cases h
  obtain ⟨out, rfl⟩ := hsend
  rfl

theorem run_added {added rest : List Op}
    (h : ∀ next ∈ added, ∀ c : Session E D, (runOp c e.outcome e.read next).2 = []) :
    ∃ actions, Run (step media tuning) { b with toBluetooth := added ++ rest } actions
      { added.foldl (fun b op => (runOp b e.outcome e.read op).1) b with toBluetooth := rest } := by
  induction added generalizing b with
  | nil => exact ⟨[], .nil _⟩
  | cons next more ih =>
      obtain ⟨actions, run⟩ := ih (b := (runOp b e.outcome e.read next).1)
        fun later hlater => h later (List.mem_cons_of_mem _ hlater)
      refine ⟨.virtualOp e.outcome e.read :: actions, .cons trivial ?_ run⟩
      simp only [step, List.cons_append, runOp_withProgram, h next List.mem_cons_self,
        List.nil_append]

theorem run_runOps {ops : List Op} : ∃ actions,
    Run (step media tuning) { b with toBluetooth := ops } actions (runOps e b ops) := by
  induction ops generalizing b with
  | nil => exact ⟨[], .nil _⟩
  | cons op rest ih =>
      have hadded : ∀ next ∈ (runOp b e.outcome e.read op).2, ∀ c : Session E D,
          (runOp c e.outcome e.read next).2 = [] := fun next hnext c => added_eq_nil hnext c
      obtain ⟨first, hfirst⟩ : ∃ actions, Run (step media tuning)
          { (runOp b e.outcome e.read op).1 with
            toBluetooth := (runOp b e.outcome e.read op).2 ++ rest } actions _ := run_added hadded
      obtain ⟨second, hsecond⟩ := ih
      refine ⟨.virtualOp e.outcome e.read :: (first ++ second),
        .cons trivial ?_ (hfirst.append hsecond)⟩
      simp only [step, runOp_withProgram]

/-- Handling a frame to its end is a run of the bridge in which only this thread moves. -/
theorem run_handleFrame (running : b.phase = .running) (idle : b.toBluetooth = []) :
    ∃ actions, Run (step media tuning) b actions (handleFrame media tuning b e) := by
  obtain ⟨actions, run⟩ : ∃ actions, Run (step media tuning)
      (handleVirtualFrame media tuning b e.frame) actions (handleFrame media tuning b e) :=
    run_runOps
  refine ⟨.virtualFrame e.frame :: actions, .cons trivial ?_ run⟩
  rw [step, if_pos ⟨running, by rw [idle]; rfl⟩]

end Threads

/-- Test commands are paired with their results exactly when the controller, which never got
them, answers with the made-up results. -/
theorem paired_iff_echoed (media : Media E D) (tuning : Tuning) (start : Session E D)
    (idle : start.toBluetooth = []) (exchanges : List Exchange) :
    Paired media tuning start exchanges ↔ Echoed exchanges := by
  have hanswer : ∀ before get, Asks get →
      (handleFrames media tuning start (before ++ [get])).virtualWrites =
        (handleFrames media tuning start before).virtualWrites ++
          (get.read.map fun report => (.usbFeatureReply, report)).toList := by
    intro before get hasks
    rw [handleFrames_append]
    exact virtualWrites_of_asks hasks
  constructor
  · intro paired before command between get device action hcommand hnext
    have hasks := hnext.2.2
    obtain ⟨rest, hsplit⟩ := hnext.1
    obtain hwritten | hanswered := paired before command (between ++ get :: rest) device action
      (by rw [hsplit, List.append_assoc, List.cons_append]) hcommand
    · have hrests : (handleFrames media tuning start before).toBluetooth = [] :=
        toBluetooth_handleFrames idle before
      have hwithheld : (handleFrame media tuning (handleFrames media tuning start before)
          command).featureWrites = (handleFrames media tuning start before).featureWrites :=
        featureWrites_of_commandsTest hrests hcommand
      rw [handleFrames_append] at hwritten
      have hboth := hwithheld.symm.trans hwritten
      simp at hboth
    · have hreply := hanswered between get hnext
      rw [hanswer _ get hasks] at hreply
      cases hread : get.read with
      | none => simp [hread] at hreply
      | some report => simpa [hread] using hreply
  · intro echoed before command after device action hsplit hcommand
    refine .inr fun between get hnext => ?_
    rw [hanswer _ get hnext.2.2, echoed before command between get device action hcommand hnext]
    rfl

section Exchanges

/-- The command for device 9 and action 2. -/
def command : Exchange := ⟨⟨.usbFeatureSet, [0x80, 9, 2], by decide⟩, .sent, none⟩

/-- A request for the result that the controller answers with the report. -/
def request (read : Option (List UInt8)) : Exchange :=
  ⟨⟨.usbFeatureGet, [0x81, 64, 0], by decide⟩, .sent, read⟩

/-- A controller that was not told of the command reports the last one it knows of. -/
def olderResult : List UInt8 := testResult 1 1

end Exchanges

theorem paired_without_request : (Session.new silentMedia).toBluetooth = [] ∧
    Paired silentMedia .default (.new silentMedia) [request (some olderResult), command] := by
  refine ⟨rfl, (paired_iff_echoed silentMedia .default (.new silentMedia) rfl _).mpr ?_⟩
  rintro before command' between get device action ⟨htype, -⟩ ⟨⟨rest, hsplit⟩, -, -⟩
  have hlength := congrArg List.length hsplit
  simp only [List.length_append, List.length_cons, List.length_nil] at hlength
  obtain rfl : before = [] := List.length_eq_zero_iff.mp (by omega)
  obtain ⟨rfl, -⟩ := List.cons.inj hsplit
  cases htype

/-- The command is withheld from the controller, and the host reads another result. -/
theorem command_left_without_result :
    (handleFrames silentMedia .default (.new silentMedia)
      [command, request (some olderResult)]).featureWrites = [] ∧
    (handleFrames silentMedia .default (.new silentMedia)
      [command, request (some olderResult)]).virtualWrites = [(.usbFeatureReply, olderResult)] ∧
    ¬Paired silentMedia .default (.new silentMedia) [command, request (some olderResult)] := by
  have hnext : AsksNext [command, request (some olderResult)] [] command []
      (request (some olderResult)) :=
    ⟨⟨[], rfl⟩, fun _ hmem => absurd hmem List.not_mem_nil, rfl, rfl⟩
  refine ⟨rfl, rfl, fun paired => ?_⟩
  obtain hwritten | hanswered := paired [] command _ 9 2 rfl ⟨rfl, [], rfl⟩
  · cases hwritten
  · have hreply := hanswered [] (request (some olderResult)) hnext
    revert hreply
    decide

end VirtualDualSense.Win32.TestCommands
