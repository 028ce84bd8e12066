import VirtualDualSense.UsbIp.Session

/-!
# Forwarding of speaker audio

The PCM of an isochronous OUT submit goes to the daemon as one frame, whose payload
is bounded. A submit that is longer than the bound ends the session.
-/

namespace VirtualDualSense.UsbIp.AudioOut

open Lib.Runs Protocol.Frames Usb.Descriptors Wire CmdSubmit ReplyFraming Session

/-- A submit on the audio OUT endpoint, as the receive loop accepts it. -/
structure AudioOutSubmit (cmd : UsbipCmdSubmit) (outData : List UInt8)
    (iso : List UsbipIsoPacketDescriptor) : Prop where
  command : cmd.base.command = kCmdSubmit
  ep : cmd.base.ep = kEpAudioOut
  direction : cmd.base.direction = kDirOut
  received : Received cmd outData iso

/-- What the session thread does with a submit while the pipe and the socket work. -/
def handling (cmd : UsbipCmdSubmit) (outData : List UInt8) (iso : List UsbipIsoPacketDescriptor) :
    List Action :=
  [.recv cmd outData iso true, .endWait, .sendReply true]

/-- The PCM reaches the daemon in full and in order, in one or more audio frames, and the
session thread goes on to the next request. -/
def Forwards (gainOfVolume : Int → Int) (s : Server) (cmd : UsbipCmdSubmit) (outData : List UInt8)
    (iso : List UsbipIsoPacketDescriptor) : Prop :=
  ∃ t frames, Run (step gainOfVolume) s (handling cmd outData iso) t ∧
    t.session = .ready ∧
    t.toDaemon = s.toDaemon ++ frames ∧
    frames ≠ [] ∧
    (∀ frame ∈ frames, frame.type = .usbAudioOut) ∧
    (frames.map Frame.payload).flatten = pcmToForward s.port.speakerGainQ15 outData

section Gain

theorem length_scaleSample (gainQ15 : Int) (lo hi : UInt8) :
    (scaleSample gainQ15 lo hi).length = 2 := rfl

theorem length_scaleSpeaker (gainQ15 : Int) (outData : List UInt8) :
    (scaleSpeaker gainQ15 outData).length = outData.length := by
  fun_induction scaleSpeaker gainQ15 outData with
  | case1 a0 a1 b0 b1 c0 c1 d0 d1 rest ih =>
      simp only [List.length_append, length_scaleSample, ih, List.length_cons, List.length_nil]
      omega
  | case2 => rfl

/-- The gain does not change the length. -/
theorem length_pcmToForward (gainQ15 : Int) (outData : List UInt8) :
    (pcmToForward gainQ15 outData).length = outData.length := by
  unfold pcmToForward
  split
  · exact length_scaleSpeaker gainQ15 outData
  · rfl

end Gain

namespace AudioOutSubmit

variable {gainOfVolume : Int → Int} {s t : Server} {cmd : UsbipCmdSubmit} {outData : List UInt8}
  {iso : List UsbipIsoPacketDescriptor}

theorem branchOf_eq (submit : AudioOutSubmit cmd outData iso) : branchOf cmd = .audioOut := by
  rw [branchOf, submit.ep, submit.direction]
  rfl

theorem beginSubmit_eq (submit : AudioOutSubmit cmd outData iso) (port : Port) :
    beginSubmit gainOfVolume port cmd outData =
      (port, (frameBytes .usbAudioOut (pcmToForward port.speakerGainQ15 outData)).map ([·])) := by
  simp only [beginSubmit, submit.branchOf_eq]

/-- The data of the submit fits a frame when its declared length does. -/
theorem length_le_iff (submit : AudioOutSubmit cmd outData iso) :
    outData.length ≤ frameMaxPayload ↔ cmd.transferBufferLength.toInt ≤ frameMaxPayload := by
  have hlength := submit.received.1
  rw [submit.direction] at hlength
  by_cases hpos : 0 < cmd.transferBufferLength
  · rw [if_pos ⟨rfl, hpos⟩] at hlength
    omega
  · rw [if_neg (by simp [hpos])] at hlength
    have hle : cmd.transferBufferLength.toInt ≤ 0 := by
      rw [Int32.not_lt] at hpos
      exact Int32.le_iff_toInt_le.mp hpos
    omega

/-- A submit that is too long ends the session. -/
theorem recvPdu_long (submit : AudioOutSubmit cmd outData iso) (hsession : s.session = .ready)
    (hlong : frameMaxPayload < outData.length) :
    recvPdu gainOfVolume s cmd outData iso true = some { s with session := .closing } := by
  have hbegin : beginSubmit gainOfVolume s.port cmd outData =
      (s.port, .error "frame payload exceeds VDS_FRAME_MAX_PAYLOAD") := by
    rw [submit.beginSubmit_eq, frameBytes, dif_pos (by rwa [length_pcmToForward])]
    rfl
  have hunlink : ¬kCmdSubmit = kCmdUnlink := by decide
  simp only [recvPdu, hsession, submit.command, hunlink, ne_eq, not_true_eq_false, if_false,
    if_pos submit.received, hbegin]

/-- No reply is made to it. -/
theorem not_run_of_long (submit : AudioOutSubmit cmd outData iso) (hsession : s.session = .ready)
    (hlong : frameMaxPayload < outData.length) :
    ¬Run (step gainOfVolume) s (handling cmd outData iso) t := by
  intro run
  cases run with
  | cons _ hrecv rest =>
      obtain rfl := Option.some.inj ((submit.recvPdu_long hsession hlong).symm.trans hrecv)
      cases rest with
      | cons _ hwait _ => cases hwait

/-- A submit that fits is written to the daemon as one frame. -/
theorem recvPdu_short (submit : AudioOutSubmit cmd outData iso) (hsession : s.session = .ready)
    (hshort : (pcmToForward s.port.speakerGainQ15 outData).length ≤ frameMaxPayload) :
    recvPdu gainOfVolume s cmd outData iso true = some { s with
      toDaemon := s.toDaemon ++
        [⟨.usbAudioOut, pcmToForward s.port.speakerGainQ15 outData, hshort⟩]
      session := .waiting cmd iso } := by
  have hbegin : beginSubmit gainOfVolume s.port cmd outData =
      (s.port, .ok [⟨.usbAudioOut, pcmToForward s.port.speakerGainQ15 outData, hshort⟩]) := by
    rw [submit.beginSubmit_eq, frameBytes, dif_neg (not_lt.mpr hshort)]
    rfl
  have hunlink : ¬kCmdSubmit = kCmdUnlink := by decide
  simp only [recvPdu, hsession, submit.command, hunlink, ne_eq, not_true_eq_false, if_false,
    if_pos submit.received, hbegin, or_true, if_true]

/-- The reply needs nothing from the daemon. -/
theorem endWait_eq (submit : AudioOutSubmit cmd outData iso)
    (hsession : s.session = .waiting cmd iso) :
    ∃ reply, endWait s = some { s with session := .sending cmd reply } := by
  have hwait : waitOf cmd = none := by rw [waitOf, submit.branchOf_eq]
  have hcomplete : completeSubmit s.port cmd iso =
      (s.port, .ok (buildReply cmd ⟨0, [], cmd.numberOfPackets⟩ iso)) := by
    simp only [completeSubmit, hwait, takeFrame, finishSubmit, replyBody, submit.branchOf_eq]
    rfl
  refine ⟨buildReply cmd ⟨0, [], cmd.numberOfPackets⟩ iso, ?_⟩
  simp only [endWait, hsession, hcomplete, featureAnswersAfter, hwait, reduceCtorEq, if_false]

end AudioOutSubmit

/-- An accepted reply leaves the session thread ready. -/
theorem sendReply_ready {s : Server} {cmd : UsbipCmdSubmit} {reply : SubmitReply}
    (hsession : s.session = .sending cmd reply) (hconnection : s.connection ≠ none) :
    ∃ t, sendReply s true = some t ∧ t.session = .ready ∧ t.toDaemon = s.toDaemon := by
  obtain ⟨connection, hsome⟩ := Option.ne_none_iff_exists'.mp hconnection
  rw [sendReply, hsession, hsome]
  dsimp only
  split
  · exact ⟨_, rfl, rfl, rfl⟩
  · exact ⟨_, rfl, rfl, rfl⟩

/-- A submit on the audio OUT endpoint is forwarded if and only if its data fits one frame. -/
theorem forwards_iff {gainOfVolume : Int → Int} {s : Server} {cmd : UsbipCmdSubmit}
    {outData : List UInt8} {iso : List UsbipIsoPacketDescriptor}
    (submit : AudioOutSubmit cmd outData iso) (hsession : s.session = .ready)
    (hconnection : s.connection ≠ none) :
    Forwards gainOfVolume s cmd outData iso ↔
      cmd.transferBufferLength.toInt ≤ frameMaxPayload := by
  rw [← submit.length_le_iff]
  constructor
  · rintro ⟨t, frames, run, -⟩
    by_contra hlong
    exact submit.not_run_of_long hsession (not_le.mp hlong) run
  · intro hshort
    rw [← length_pcmToForward s.port.speakerGainQ15] at hshort
    set frame : Frame := ⟨.usbAudioOut, pcmToForward s.port.speakerGainQ15 outData, hshort⟩
    obtain ⟨reply, hwait⟩ := submit.endWait_eq
      (s := { s with toDaemon := s.toDaemon ++ [frame], session := .waiting cmd iso }) rfl
    obtain ⟨t, hsend, hready, hdaemon⟩ := sendReply_ready
      (s := { s with toDaemon := s.toDaemon ++ [frame], session := .sending cmd reply })
      rfl hconnection
    refine ⟨t, [frame], ?_, hready, hdaemon, List.cons_ne_nil _ _, ?_, ?_⟩
    · exact .cons trivial (submit.recvPdu_short hsession hshort)
        (.cons trivial hwait (.cons trivial hsend (.nil t)))
    · intro other hother
      obtain rfl := List.mem_singleton.mp hother
      rfl
    · exact List.flatten_singleton

section Traces

/-- A server that a client has just imported. -/
def imported : Server :=
  { Server.new .ds5 1 with
    connection := some ⟨5, 0⟩
    nextConnection := 1
    attached := true
    pipeConnected := true
    reader := .running
    session := .ready }

theorem run_imported (gainOfVolume : Int → Int) :
    Run (step gainOfVolume) (Server.new .ds5 1) [.importSession 5] imported :=
  .cons trivial rfl (.nil _)

/-- A submit of one packet with the given amount of data. -/
def oneFrame (length : Int32) : UsbipCmdSubmit :=
  { base := ⟨kCmdSubmit, 1, 0x10001, kDirOut, kEpAudioOut⟩
    transferFlags := 0
    transferBufferLength := length
    numberOfPackets := 1
    setup := Vector.replicate 8 0 }

theorem forwards_oneFrame :
    Forwards (fun _ => 2 ^ 14) imported (oneFrame 8) [1, 2, 3, 4, 5, 6, 7, 8] [⟨0, 8, 0, 0⟩] := by
  have submit : AudioOutSubmit (oneFrame 8) [1, 2, 3, 4, 5, 6, 7, 8] [⟨0, 8, 0, 0⟩] :=
    ⟨rfl, rfl, rfl, by decide⟩
  exact (forwards_iff submit rfl (by decide)).mpr (by decide)

/-- One frame of four samples more than the payload bound ends the session. -/
theorem not_forwards_long : ∃ outData,
    Run (step fun _ => 2 ^ 15) (Server.new .ds5 1) [.importSession 5] imported ∧
      AudioOutSubmit (oneFrame 4104) outData [⟨0, 4104, 0, 0⟩] ∧
      ¬Forwards (fun _ => 2 ^ 15) imported (oneFrame 4104) outData [⟨0, 4104, 0, 0⟩] := by
  have hlength : (List.replicate 4104 (0 : UInt8)).length = 4104 := List.length_replicate
  have submit : AudioOutSubmit (oneFrame 4104) (List.replicate 4104 0) [⟨0, 4104, 0, 0⟩] :=
    ⟨rfl, rfl, rfl, hlength.trans (by decide), by decide⟩
  refine ⟨_, run_imported _, submit, ?_⟩
  rintro ⟨t, frames, run, -⟩
  exact submit.not_run_of_long rfl (by rw [hlength]; decide) run

end Traces

end VirtualDualSense.UsbIp.AudioOut
