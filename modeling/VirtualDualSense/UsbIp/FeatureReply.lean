import VirtualDualSense.UsbIp.Session

/-!
# Pairing of feature reports

A GET_REPORT asks the daemon for one report and completes with the oldest queued
FEATURE_REPLY, whatever report that is. The queue outlives a timed-out request,
so the requests that got a frame and the frames pair up by position alone, over
the whole life of the port.
-/

namespace VirtualDualSense.UsbIp.FeatureReply

open Lib.Runs Protocol.Frames Usb.Descriptors Wire CmdSubmit ReplyFraming Session

/-- An answer is empty or starts with the report it was asked for. -/
def RightReport (answer : FeatureAnswer) : Prop :=
  answer.data = [] ∨ answer.data.head? = some answer.reportId

instance (answer : FeatureAnswer) : Decidable (RightReport answer) :=
  inferInstanceAs (Decidable (_ ∨ _))

/-- The requests that found a frame when their wait ended, in order. -/
def answeredRequests (s : Server) : List (UInt8 × Nat) :=
  (s.featureAnswers.filter (·.frame.isSome)).map fun answer => (answer.reportId, answer.wLength)

/-- Position by position, the frames that arrived fit the requests that found one. -/
def RepliesMatch (requests : List (UInt8 × Nat)) (arrivals : List Frame) : Prop :=
  ∀ pair ∈ requests.zip arrivals,
    pair.2.payload = [] ∨ pair.1.2 = 0 ∨ pair.2.payload.head? = some pair.1.1

/-- The frames that answered requests. -/
def usedFrames (answers : List FeatureAnswer) : List Frame := answers.filterMap (·.frame)

/-- Every arrived frame was used in order or is still queued, and an answer is
its frame cut to `wLength`. -/
structure Inv (s : Server) : Prop where
  flow : s.featureArrivals = usedFrames s.featureAnswers ++ s.port.featureReplyQueue
  typed : ∀ frame ∈ s.port.featureReplyQueue, frame.type = .usbFeatureReply
  data : ∀ answer ∈ s.featureAnswers,
    answer.data = ((answer.frame.map Frame.payload).getD []).take answer.wLength

section Handler

theorem setCur_featureReplyQueue (gainOfVolume : Int → Int) (port : Port) (s : Setup)
    (outData : List UInt8) :
    (setCur gainOfVolume port s outData).featureReplyQueue = port.featureReplyQueue := by
  simp only [setCur]
  split
  · rfl
  · split_ifs
    · rfl
    · split <;> rfl
    · rfl

theorem beginSubmit_featureReplyQueue (gainOfVolume : Int → Int) (port : Port)
    (cmd : UsbipCmdSubmit) (outData : List UInt8) :
    (beginSubmit gainOfVolume port cmd outData).1.featureReplyQueue = port.featureReplyQueue := by
  unfold beginSubmit
  split
  · rename_i setup _
    split
    · simp only
      split_ifs <;> rfl
    · rfl
    · rfl
    · split_ifs
      · exact setCur_featureReplyQueue gainOfVolume port setup outData
      · rfl
    · rfl
  · rfl
  · rfl
  · rfl

theorem takeMicBytes_featureReplyQueue (port : Port) (count : Nat) :
    (takeMicBytes port count).1.featureReplyQueue = port.featureReplyQueue := by
  simp only [takeMicBytes]
  split_ifs <;> rfl

theorem replyBody_featureReplyQueue (port : Port) (cmd : UsbipCmdSubmit) (waited : Option Frame) :
    (replyBody port cmd waited).1.featureReplyQueue = port.featureReplyQueue := by
  unfold replyBody
  split
  all_goals first | rfl | exact takeMicBytes_featureReplyQueue _ _

theorem completeSubmit_featureReplyQueue (port : Port) (cmd : UsbipCmdSubmit)
    (iso : List UsbipIsoPacketDescriptor) :
    (completeSubmit port cmd iso).1.featureReplyQueue =
      if waitOf cmd = some .featureReply then port.featureReplyQueue.tail
      else port.featureReplyQueue := by
  simp only [completeSubmit, finishSubmit, replyBody_featureReplyQueue]
  rcases hwait : waitOf cmd with _ | (_ | _) <;> rfl

/-- A GET_REPORT completes with the oldest queued frame, cut to `wLength`. -/
theorem completeSubmit_getReport {port : Port} {cmd : UsbipCmdSubmit}
    (iso : List UsbipIsoPacketDescriptor) (hwait : waitOf cmd = some .featureReply)
    (typed : ∀ frame ∈ port.featureReplyQueue, frame.type = .usbFeatureReply) :
    ∃ reply, (completeSubmit port cmd iso).2 = .ok reply ∧
      reply.data = ((port.featureReplyQueue.head?.map Frame.payload).getD []).take
        (setupOf cmd.setup).wLength := by
  obtain ⟨hbranch, hcontrol⟩ : branchOf cmd = .control (setupOf cmd.setup) ∧
      (setupOf cmd.setup).control = .getReport := by
    unfold waitOf branchOf at *
    split_ifs at * <;> simp_all
  have hbody : (replyBody (takeFrame port (waitOf cmd)).1 cmd (takeFrame port (waitOf cmd)).2).2 =
      .ok (controlBody port (setupOf cmd.setup) port.featureReplyQueue.head?) := by
    simp only [replyBody, hbranch, controlBody_takeFrame, hwait]
    rfl
  refine ⟨buildReply cmd (controlBody port (setupOf cmd.setup) port.featureReplyQueue.head?) iso,
    ?_, ?_⟩
  · simp only [completeSubmit, finishSubmit]
    rw [hbody]
    rfl
  · simp only [buildReply, controlBody, hcontrol]
    cases hhead : port.featureReplyQueue.head? with
    | none => simp [Frame.default]
    | some frame =>
        have htype : frame.type = .usbFeatureReply := typed frame (List.mem_of_head? hhead)
        simp only [Option.getD_some, Option.map_some, htype, if_true]
        exact ite_take_eq_self _ (List.length_take_le _ _)

end Handler

namespace Inv

variable {s t : Server} {gainOfVolume : Int → Int}

/-- A step that neither queues a reply nor completes a GET_REPORT. -/
theorem keeps (inv : Inv s) (harrivals : t.featureArrivals = s.featureArrivals)
    (hanswers : t.featureAnswers = s.featureAnswers)
    (hqueue : t.port.featureReplyQueue = s.port.featureReplyQueue) : Inv t where
  flow := by rw [harrivals, hanswers, hqueue]; exact inv.flow
  typed := by rw [hqueue]; exact inv.typed
  data := by rw [hanswers]; exact inv.data

theorem recvPdu (inv : Inv s) {cmd : UsbipCmdSubmit} {outData : List UInt8}
    {iso : List UsbipIsoPacketDescriptor} {written : Bool}
    (h : recvPdu gainOfVolume s cmd outData iso written = some t) : Inv t := by
  have hqueue := beginSubmit_featureReplyQueue gainOfVolume s.port cmd outData
  obtain ⟨-, hcases⟩ := recvPdu_cases h
  rcases hcases with ⟨-, rfl⟩ | ⟨port, rfl | rfl, rfl⟩ | ⟨-, -, frames, -, rfl⟩
  · exact inv.keeps rfl rfl rfl
  · exact inv.keeps rfl rfl rfl
  · exact inv.keeps rfl rfl hqueue
  · exact inv.keeps rfl rfl hqueue

/-- A completed GET_REPORT uses the oldest queued frame, if there is one. -/
theorem endWait (inv : Inv s) (h : endWait s = some t) : Inv t := by
  obtain ⟨cmd, iso, -, hcases⟩ := endWait_cases h
  have hqueue := completeSubmit_featureReplyQueue s.port cmd iso
  by_cases hwait : waitOf cmd = some .featureReply
  · obtain ⟨reply, hreply, hdata⟩ := completeSubmit_getReport iso hwait inv.typed
    rw [if_pos hwait] at hqueue
    rcases hcases with ⟨error, herror, -⟩ | ⟨reply', hreply', rfl⟩
    · rw [hreply] at herror
      cases herror
    · obtain rfl : reply = reply' := Except.ok.inj (hreply.symm.trans hreply')
      refine ⟨?_, ?_, ?_⟩
      · have hflow := inv.flow
        simp only [featureAnswersAfter, hwait, if_true, hqueue, usedFrames, List.filterMap_append]
        rw [hflow, usedFrames, List.append_assoc]
        cases s.port.featureReplyQueue <;> rfl
      · intro frame hframe
        simp only [hqueue] at hframe
        exact inv.typed frame (List.mem_of_mem_tail hframe)
      · intro answer hanswer
        simp only [featureAnswersAfter, hwait, if_true] at hanswer
        rcases List.mem_append.mp hanswer with hold | hnew
        · exact inv.data answer hold
        · obtain rfl := List.mem_singleton.mp hnew
          exact hdata
  · rw [if_neg hwait] at hqueue
    rcases hcases with ⟨error, -, rfl⟩ | ⟨reply, -, rfl⟩
    · exact inv.keeps rfl rfl hqueue
    · exact inv.keeps rfl (by simp [featureAnswersAfter, hwait]) hqueue

theorem readerFrame (inv : Inv s) {frame : Frame} {boost : Int16 → Int16}
    (h : readerFrame s frame boost = some t) : Inv t := by
  rcases readerFrame_cases h with rfl | rfl
  · exact inv.keeps rfl rfl rfl
  · by_cases htype : frame.type = .usbFeatureReply
    · have hqueue : (demux boost s.port frame).featureReplyQueue =
          s.port.featureReplyQueue ++ [frame] := by
        simp [demux, htype]
      refine ⟨?_, ?_, inv.data⟩
      · simp only [htype, if_true, hqueue]
        rw [inv.flow, List.append_assoc]
      · intro other hother
        simp only [hqueue] at hother
        rcases List.mem_append.mp hother with hold | hnew
        · exact inv.typed other hold
        · obtain rfl := List.mem_singleton.mp hnew
          exact htype
    · have hqueue : (demux boost s.port frame).featureReplyQueue = s.port.featureReplyQueue := by
        unfold demux
        split
        · rfl
        · rename_i hreply
          exact absurd hreply htype
        · unfold pushMic
          rfl
        · rfl
      exact inv.keeps (by simp [htype]) rfl hqueue

/-- The steps of the other threads and of the send side leave the feature
reports alone. -/
theorem step {a : Action} (inv : Inv s) (h : step gainOfVolume s a = some t) : Inv t := by
  cases a with
  | recv cmd outData iso written => exact inv.recvPdu h
  | endWait => exact inv.endWait h
  | readerFrame frame boost => exact inv.readerFrame h
  | tick elapsed =>
      obtain rfl := Option.some.inj h
      exact inv.keeps rfl rfl rfl
  | stop =>
      obtain rfl := Option.some.inj h
      exact inv.keeps rfl rfl rfl
  | daemonCloses =>
      obtain rfl := Option.some.inj h
      exact inv.keeps rfl rfl rfl
  | importSession socket =>
      simp only [Session.step, importSession] at h
      split at h
      · obtain rfl := Option.some.inj h
        exact inv.keeps rfl rfl rfl
      · cases h
  | recvFails =>
      simp only [Session.step, recvFails] at h
      split at h
      · obtain rfl := Option.some.inj h
        exact inv.keeps rfl rfl rfl
      · cases h
  | endSession =>
      simp only [Session.step, endSession] at h
      split at h
      · obtain rfl := Option.some.inj h
        exact inv.keeps rfl rfl rfl
      · cases h
  | closeSocket =>
      simp only [Session.step, closeSocket] at h
      split at h
      · obtain rfl := Option.some.inj h
        exact inv.keeps rfl rfl rfl
      · cases h
  | sendReply accepted =>
      obtain ⟨cmd, reply, connection, -, -, ⟨-, rfl⟩ | ⟨-, rfl⟩ | rfl⟩ := sendReply_cases h
      · exact inv.keeps rfl rfl rfl
      · exact inv.keeps rfl rfl rfl
      · exact inv.keeps rfl rfl rfl
  | sendUnlink accepted =>
      obtain ⟨_, _, -, rfl | ⟨_, -, rfl⟩⟩ := sendUnlink_cases h
      · exact inv.keeps rfl rfl rfl
      · exact inv.keeps rfl rfl rfl
  | pacerTakes =>
      obtain ⟨_, _, _, -, -, -, rfl⟩ := pacerTakes_cases h
      exact inv.keeps rfl rfl rfl
  | pacerSends accepted =>
      obtain ⟨_, -, rfl | ⟨_, -, -, rfl⟩⟩ := pacerSends_cases h
      · exact inv.keeps rfl rfl rfl
      · exact inv.keeps rfl rfl rfl
  | readerFails =>
      simp only [Session.step, readerFails] at h
      split_ifs at h
      obtain rfl := Option.some.inj h
      exact inv.keeps rfl rfl rfl

theorem new (profile : Profile) (now : Nat) : Inv (Server.new profile now) where
  flow := rfl
  typed := by simp [Server.new, Port.new]
  data := by simp [Server.new]

end Inv

section Pairing

/-- Cutting a payload keeps its first byte unless nothing is left. -/
theorem rightReport_iff {answer : FeatureAnswer}
    (hdata : answer.data = ((answer.frame.map Frame.payload).getD []).take answer.wLength) :
    RightReport answer ↔ ∀ frame, answer.frame = some frame →
      frame.payload = [] ∨ answer.wLength = 0 ∨ frame.payload.head? = some answer.reportId := by
  rw [RightReport, hdata]
  cases answer.frame with
  | none => simp
  | some frame =>
      cases hlen : answer.wLength with
      | zero => simp
      | succ n => cases hpayload : frame.payload <;> simp [hpayload]

/-- The pairing of requests and frames, read off the answers. -/
theorem repliesMatch_iff (answers : List FeatureAnswer) (queue : List Frame) :
    RepliesMatch ((answers.filter (·.frame.isSome)).map fun answer =>
        (answer.reportId, answer.wLength)) (usedFrames answers ++ queue) ↔
      ∀ answer ∈ answers, ∀ frame, answer.frame = some frame →
        frame.payload = [] ∨ answer.wLength = 0 ∨
          frame.payload.head? = some answer.reportId := by
  induction answers with
  | nil => simp [RepliesMatch]
  | cons answer rest ih =>
      cases hframe : answer.frame with
      | none => simpa [usedFrames, hframe] using ih
      | some frame =>
          rw [List.forall_mem_cons, ← ih]
          simp [RepliesMatch, usedFrames, hframe]

end Pairing

/-- In every run of the port, every GET_REPORT is answered with nothing or with
the report it asked for exactly when the FEATURE_REPLY frames, in the order in
which they arrived, fit the requests that found a frame, in the order in which
they were made. -/
theorem rightReports_iff {gainOfVolume : Int → Int} {profile : Profile} {now : Nat}
    {actions : List Action} {t : Server}
    (run : Run (step gainOfVolume) (Server.new profile now) actions t) :
    (∀ answer ∈ t.featureAnswers, RightReport answer) ↔
      RepliesMatch (answeredRequests t) t.featureArrivals := by
  have inv : Inv t := run.invariant (fun _ _ _ inv _ h => inv.step h) (Inv.new profile now)
  rw [answeredRequests, inv.flow, repliesMatch_iff]
  exact forall₂_congr fun answer hmem => rightReport_iff (inv.data answer hmem)

section Traces

/-- A GET_REPORT of a feature report, at most 4 bytes. -/
def getFeature (reportId : UInt8) : UsbipCmdSubmit :=
  { base := ⟨kCmdSubmit, 1, 0x10001, kDirIn, 0⟩
    transferFlags := 0
    transferBufferLength := 4
    numberOfPackets := 0
    setup := #v[0xa1, 0x01, reportId, 0x03, 0x03, 0x00, 0x04, 0x00] }

def featureFrame (reportId : UInt8) : Frame :=
  ⟨.usbFeatureReply, [reportId, 1, 2], by simp [frameMaxPayload]⟩

theorem rightReports_answered_in_time : ∃ t,
    Run (step fun _ => 2 ^ 15) (Server.new .ds5 1)
      [.importSession 5, .recv (getFeature 5) [] [] true, .readerFrame (featureFrame 5) id,
        .endWait] t ∧ t.featureAnswers.length = 1 ∧
      ∀ answer ∈ t.featureAnswers, RightReport answer := by
  have run : Run (step fun _ => 2 ^ 15) (Server.new .ds5 1)
      [.importSession 5, .recv (getFeature 5) [] [] true, .readerFrame (featureFrame 5) id,
        .endWait] _ := run_of_execute rfl
  exact ⟨_, run, rfl, (rightReports_iff run).mpr (by unfold RepliesMatch; decide)⟩

/-- A reply that comes after its request gave up answers the next request,
which asked for another report. -/
theorem rightReports_violated : ∃ t,
    Run (step fun _ => 2 ^ 15) (Server.new .ds5 1)
      [.importSession 5, .recv (getFeature 5) [] [] true, .endWait, .sendReply true,
        .readerFrame (featureFrame 5) id, .recv (getFeature 9) [] [] true, .endWait] t ∧
      ¬∀ answer ∈ t.featureAnswers, RightReport answer :=
  ⟨_, run_of_execute rfl, by decide⟩

end Traces

end VirtualDualSense.UsbIp.FeatureReply
