import VirtualDualSense.Hcd.Lifecycle

/-!
# The queues of the host controller

The queue of input reports holds the newest report, and only while no URB waits
for one. The counters of the queues are the lengths. No section breaks this,
whatever the other threads do between two sections.
-/

namespace VirtualDualSense.Hcd.Queues

open Lib.Runs Lib.Fibers Protocol.Frames UsbCore Sections Filing Threads ThreadSteps Lifecycle

variable {dev dev' dev'' : HcdDev} {id : CtxId}

/-- The buffered input reports and the events for the daemon. -/
structure Buffers (dev : HcdDev) : Prop where
  exclusive : dev.pendingHidIn ≠ [] → dev.inputPackets = []
  inputCount : dev.inputPacketCount = dev.inputPackets.length
  inputLe : dev.inputPackets.length ≤ 1
  newest : ∀ report ∈ dev.inputPackets, dev.acceptedInputs.getLast? = some report
  filled : (dev.filledInputs ++ dev.inputPackets).Sublist dev.acceptedInputs
  eventCount : dev.eventCount = dev.events.length
  eventLe : dev.events.length ≤ vdsEventMax

/-- A section that leaves the buffers alone and lets no URB wait for a report. -/
structure SameBuffers (dev dev' : HcdDev) : Prop where
  hidIn : dev.pendingHidIn = [] → dev'.pendingHidIn = []
  inputs : dev'.inputPackets = dev.inputPackets
  inputCount : dev'.inputPacketCount = dev.inputPacketCount
  accepted : dev'.acceptedInputs = dev.acceptedInputs
  filled : dev'.filledInputs = dev.filledInputs
  events : dev'.events = dev.events
  eventCount : dev'.eventCount = dev.eventCount
  stopping : dev'.stopping = dev.stopping

namespace SameBuffers

theorem refl (dev : HcdDev) : SameBuffers dev dev := ⟨id, rfl, rfl, rfl, rfl, rfl, rfl, rfl⟩

theorem trans (first : SameBuffers dev dev') (second : SameBuffers dev' dev'') :
    SameBuffers dev dev'' where
  hidIn := fun h => second.hidIn (first.hidIn h)
  inputs := second.inputs.trans first.inputs
  inputCount := second.inputCount.trans first.inputCount
  accepted := second.accepted.trans first.accepted
  filled := second.filled.trans first.filled
  events := second.events.trans first.events
  eventCount := second.eventCount.trans first.eventCount
  stopping := second.stopping.trans first.stopping

theorem queue (id : CtxId) (status : Int) :
    SameBuffers dev (queueUrbGivebackLocked dev id status) := by
  unfold queueUrbGivebackLocked
  split
  · exact .refl dev
  · split_ifs
    · exact .refl dev
    · exact ⟨fun h => by simp [h], rfl, rfl, rfl, rfl, rfl, rfl, rfl⟩

theorem foldl {f : HcdDev → CtxId → HcdDev} (hf : ∀ dev id, SameBuffers dev (f dev id))
    (ids : List CtxId) : SameBuffers dev (ids.foldl f dev) := by
  induction ids generalizing dev with
  | nil => exact .refl dev
  | cons id rest ih => exact (hf dev id).trans ih

theorem cancelPendingUrbsLocked (status : Int) :
    SameBuffers dev (Sections.cancelPendingUrbsLocked dev status) :=
  .foldl (fun _ id => .queue id status) _

theorem urbDequeue (status : Int) : SameBuffers dev (Sections.urbDequeue dev id status).1 := by
  unfold Sections.urbDequeue
  split
  · exact .refl dev
  · dsimp only
    split_ifs
    · exact .refl dev
    · exact ⟨fun h => h, rfl, rfl, rfl, rfl, rfl, rfl, rfl⟩
    · exact ⟨fun h => h, rfl, rfl, rfl, rfl, rfl, rfl, rfl⟩
    · refine trans ?_ (.queue id status)
      exact ⟨fun h => h, rfl, rfl, rfl, rfl, rfl, rfl, rfl⟩

theorem deferFeatureGet (reportId : UInt8) :
    SameBuffers dev (Sections.deferFeatureGet dev id reportId).1 := by
  unfold Sections.deferFeatureGet
  split
  · exact .refl dev
  · split_ifs <;> exact ⟨fun h => h, rfl, rfl, rfl, rfl, rfl, rfl, rfl⟩

theorem completeFeatureReply (payload : List UInt8) :
    SameBuffers dev (Sections.completeFeatureReply dev payload).1 := by
  unfold Sections.completeFeatureReply
  split_ifs
  · exact .refl dev
  · have hloop : SameBuffers dev (completePendingFeatureRepliesLocked dev payload) := by
      refine .foldl (fun dev id => ?_) _
      unfold completePendingFeatureReply
      split
      · exact .refl dev
      · split_ifs
        · exact .refl dev
        · refine trans ?_ (.queue id _)
          exact ⟨fun h => h, rfl, rfl, rfl, rfl, rfl, rfl, rfl⟩
    exact hloop.trans ⟨fun h => h, rfl, rfl, rfl, rfl, rfl, rfl, rfl⟩

theorem writeAudioInFrame (payload : List UInt8) (alloc : Bool) :
    SameBuffers dev (Sections.writeAudioInFrame dev payload alloc).1 := by
  unfold Sections.writeAudioInFrame
  split_ifs <;> exact ⟨fun h => h, rfl, rfl, rfl, rfl, rfl, rfl, rfl⟩

theorem isoInUrb (urb : Urb) : SameBuffers dev (Sections.isoInUrb dev urb).1 := by
  obtain ⟨_, _, _, hframe⟩ := isoInUrb_frame dev urb
  rw [hframe]
  exact ⟨fun h => h, rfl, rfl, rfl, rfl, rfl, rfl, rfl⟩

theorem scheduleIsoGiveback (input : Bool) (now : Nat) :
    SameBuffers dev (Sections.scheduleIsoGiveback dev id input now) := by
  unfold Sections.scheduleIsoGiveback
  split
  · exact .refl dev
  · cases input <;> exact ⟨fun h => h, rfl, rfl, rfl, rfl, rfl, rfl, rfl⟩

theorem connectLocked : SameBuffers dev (Sections.connectLocked dev) := by
  unfold Sections.connectLocked
  split_ifs <;> exact ⟨fun h => h, rfl, rfl, rfl, rfl, rfl, rfl, rfl⟩

theorem setProfile (profile : Option Usb.Descriptors.Profile) (pollingRateMode : Nat) :
    SameBuffers dev (Sections.setProfile dev profile pollingRateMode).1 := by
  unfold Sections.setProfile
  split_ifs
  · exact .refl dev
  · exact .refl dev
  · split <;> exact ⟨fun h => h, rfl, rfl, rfl, rfl, rfl, rfl, rfl⟩

theorem hubControl (request : HubRequest) (value index : Nat) :
    SameBuffers dev (Sections.hubControl dev request value index).1 := by
  unfold Sections.hubControl
  repeat' (first | exact ⟨fun h => h, rfl, rfl, rfl, rfl, rfl, rfl, rfl⟩ | split)

theorem takeCompleted {now : Nat} {status : Int}
    (h : Sections.takeCompleted dev now = some (dev', id, status)) : SameBuffers dev dev' := by
  unfold Sections.takeCompleted at h
  split at h
  · cases h
  · obtain ⟨-, heq⟩ := Option.ite_none_left_eq_some.mp h
    cases heq
    exact ⟨fun h => h, rfl, rfl, rfl, rfl, rfl, rfl, rfl⟩

end SameBuffers

namespace Buffers

theorem of_same (buffers : Buffers dev) (same : SameBuffers dev dev') : Buffers dev' where
  exclusive := by
    intro hpending
    rw [same.inputs]
    exact buffers.exclusive fun hnil => hpending (same.hidIn hnil)
  inputCount := by rw [same.inputCount, same.inputs, buffers.inputCount]
  inputLe := by rw [same.inputs]; exact buffers.inputLe
  newest := by rw [same.inputs, same.accepted]; exact buffers.newest
  filled := by rw [same.filled, same.inputs, same.accepted]; exact buffers.filled
  eventCount := by rw [same.eventCount, same.events, buffers.eventCount]
  eventLe := by rw [same.events]; exact buffers.eventLe

theorem enqueueFrame (buffers : Buffers dev) (type : FrameType) (payload : List UInt8)
    (alloc : Bool) : Buffers (Sections.enqueueFrame dev type payload alloc).1 := by
  unfold Sections.enqueueFrame
  split
  · split_ifs with halloc hstopping hfull
    · exact buffers
    · exact buffers
    · exact buffers
    · obtain ⟨h1, h2, h3, h4, h5, hcount, -⟩ := buffers
      refine ⟨h1, h2, h3, h4, h5, ?_, ?_⟩
      · simp [hcount]
      · simp only [List.length_append, List.length_singleton]
        omega
  · exact buffers

theorem read (buffers : Buffers dev) (count : Nat) : Buffers (Sections.read dev count).1 := by
  unfold Sections.read
  split
  · exact buffers
  · rename_i event rest hevents
    split_ifs
    · exact buffers
    · obtain ⟨h1, h2, h3, h4, h5, hcount, hle⟩ := buffers
      rw [hevents, List.length_cons] at hcount hle
      refine ⟨h1, h2, h3, h4, h5, ?_, ?_⟩
      · simp [hcount]
      · exact Nat.le_of_succ_le hle

theorem flushBufferedFramesLocked (buffers : Buffers dev) :
    Buffers (Sections.flushBufferedFramesLocked dev) where
  exclusive := fun _ => rfl
  inputCount := rfl
  inputLe := Nat.zero_le _
  newest := by simp [Sections.flushBufferedFramesLocked]
  filled := by
    have hfilled := (List.sublist_append_left dev.filledInputs dev.inputPackets).trans
        buffers.filled
    simpa [Sections.flushBufferedFramesLocked] using hfilled
  eventCount := rfl
  eventLe := Nat.zero_le _

theorem cancelAndFlush (buffers : Buffers dev) (same : SameBuffers dev dev') (status : Int) :
    Buffers (Sections.flushBufferedFramesLocked (cancelPendingUrbsLocked dev' status)) :=
  flushBufferedFramesLocked (of_same buffers (same.trans (.cancelPendingUrbsLocked status)))

theorem disconnectLocked (buffers : Buffers dev) : Buffers (Sections.disconnectLocked dev) := by
  simp only [Sections.disconnectLocked]
  split_ifs
  · exact buffers.of_same ⟨fun h => h, rfl, rfl, rfl, rfl, rfl, rfl, rfl⟩
  · refine of_same (cancelAndFlush buffers ?_ eshutdown) ⟨fun h => h, rfl, rfl, rfl, rfl, rfl, rfl,
      rfl⟩
    exact ⟨fun h => h, rfl, rfl, rfl, rfl, rfl, rfl, rfl⟩

theorem hcdStop (buffers : Buffers dev) : Buffers (Sections.hcdStop dev) := by
  have hstop : Buffers { dev with stopping := true } :=
    ⟨buffers.exclusive, buffers.inputCount, buffers.inputLe, buffers.newest, buffers.filled,
      buffers.eventCount, buffers.eventLe⟩
  exact (hstop.cancelAndFlush (.refl _) eshutdown).of_same
    ⟨fun h => h, rfl, rfl, rfl, rfl, rfl, rfl, rfl⟩

theorem filled_accepted (buffers : Buffers dev) : dev.filledInputs.Sublist dev.acceptedInputs :=
  (List.sublist_append_left _ _).trans buffers.filled

/-- The buffered report goes to a URB. -/
theorem interruptInUrb (buffers : Buffers dev) (now : Nat) :
    Buffers (Sections.interruptInUrb dev id now).1 := by
  unfold Sections.interruptInUrb
  split
  · rename_i packet rest hinputs
    have hrest : rest = [] := by
      have hle := buffers.inputLe
      rw [hinputs, List.length_cons] at hle
      exact List.length_eq_zero_iff.mp (by omega)
    have hcount := buffers.inputCount
    have hfilled := buffers.filled
    rw [hinputs, hrest] at hcount hfilled
    subst hrest
    constructor
    · exact fun _ => rfl
    · change dev.inputPacketCount - 1 = 0
      rw [hcount]
      rfl
    · exact Nat.zero_le _
    · rintro report ⟨⟩
    · change (dev.filledInputs ++ [packet] ++ []).Sublist dev.acceptedInputs
      rwa [List.append_nil]
    · exact buffers.eventCount
    · exact buffers.eventLe
  · rename_i hinputs
    exact ⟨fun _ => hinputs, buffers.inputCount, buffers.inputLe, buffers.newest, buffers.filled,
      buffers.eventCount, buffers.eventLe⟩

/-- A waiting URB takes the report. -/
theorem completePendingInputLocked (buffers : Buffers dev) {payload : List UInt8} {now : Nat}
    (h : Sections.completePendingInputLocked dev payload now = some dev') :
    Buffers { dev' with
      framesFromUser := dev'.framesFromUser + 1
      acceptedInputs := dev'.acceptedInputs ++ [payload] } := by
  unfold Sections.completePendingInputLocked at h
  split at h
  · cases h
  · rename_i pending rest hpending
    obtain rfl := Option.some.inj h
    have hinputs : dev.inputPackets = [] := buffers.exclusive (by simp [hpending])
    have same : SameBuffers (fillHidIn dev pending payload now)
        (queueUrbGivebackLocked (fillHidIn dev pending payload now) pending 0) := .queue pending 0
    constructor
    · exact fun _ => same.inputs.trans hinputs
    · exact same.inputCount.trans (buffers.inputCount.trans (by rw [same.inputs]; rfl))
    · rw [same.inputs]
      exact buffers.inputLe
    · rw [same.inputs]
      intro report hreport
      rw [show (fillHidIn dev pending payload now).inputPackets = [] from hinputs] at hreport
      cases hreport
    · rw [same.filled, same.inputs, same.accepted]
      change (dev.filledInputs ++ [payload] ++ dev.inputPackets).Sublist
        (dev.acceptedInputs ++ [payload])
      rw [hinputs, List.append_nil]
      exact buffers.filled_accepted.append (.refl _)
    · exact same.eventCount.trans (buffers.eventCount.trans (by rw [same.events]; rfl))
    · rw [same.events]
      exact buffers.eventLe

/-- No URB waits, and the report is buffered in place of an older one. -/
theorem queueInputPacketLocked (buffers : Buffers dev) (hpending : dev.pendingHidIn = [])
    {payload : List UInt8} {alloc : Bool}
    (hret : (Sections.queueInputPacketLocked dev payload alloc).2 = 0) :
    Buffers { (Sections.queueInputPacketLocked dev payload alloc).1 with
      framesFromUser := (Sections.queueInputPacketLocked dev payload alloc).1.framesFromUser + 1
      acceptedInputs :=
        (Sections.queueInputPacketLocked dev payload alloc).1.acceptedInputs ++ [payload] } := by
  have hfilled := buffers.filled_accepted.append (List.Sublist.refl [payload])
  unfold Sections.queueInputPacketLocked at hret ⊢
  split_ifs at hret ⊢ with hinputs
  · -- the buffer has one entry, which is replaced
    obtain ⟨old, hold⟩ : ∃ old, dev.inputPackets = [old] := by
      have hle := buffers.inputLe
      cases hlist : dev.inputPackets with
      | nil => exact absurd hlist hinputs
      | cons old rest =>
          rw [hlist, List.length_cons] at hle
          exact ⟨old, by rw [List.length_eq_zero_iff.mp (by omega : rest.length = 0)]⟩
    have hnew : dev.inputPackets.dropLast ++ [payload] = [payload] := by simp [hold]
    constructor
    · exact fun hne => absurd hpending hne
    · change dev.inputPacketCount = (dev.inputPackets.dropLast ++ [payload]).length
      rw [buffers.inputCount, hnew, hold]
      rfl
    · change (dev.inputPackets.dropLast ++ [payload]).length ≤ 1
      simp [hnew]
    · intro report hreport
      change report ∈ dev.inputPackets.dropLast ++ [payload] at hreport
      rw [hnew, List.mem_singleton] at hreport
      simp [hreport]
    · change (dev.filledInputs ++ (dev.inputPackets.dropLast ++ [payload])).Sublist _
      rw [hnew]
      exact hfilled
    · exact buffers.eventCount
    · exact buffers.eventLe
  · simp [enomem] at hret
  · have hnil : dev.inputPackets = [] := not_not.mp hinputs
    have hnew : dev.inputPackets ++ [payload] = [payload] := by simp [hnil]
    constructor
    · exact fun hne => absurd hpending hne
    · change dev.inputPacketCount + 1 = (dev.inputPackets ++ [payload]).length
      rw [buffers.inputCount, hnew, hnil]
      rfl
    · change (dev.inputPackets ++ [payload]).length ≤ 1
      simp [hnew]
    · intro report hreport
      change report ∈ dev.inputPackets ++ [payload] at hreport
      rw [hnew, List.mem_singleton] at hreport
      simp [hreport]
    · change (dev.filledInputs ++ (dev.inputPackets ++ [payload])).Sublist _
      rw [hnew]
      exact hfilled
    · exact buffers.eventCount
    · exact buffers.eventLe

theorem writeInputFrame (buffers : Buffers dev) (payload : List UInt8) (alloc : Bool)
    (now : Nat) : Buffers (Sections.writeInputFrame dev payload alloc now).1 := by
  unfold Sections.writeInputFrame
  split_ifs
  · exact buffers
  · exact buffers
  · cases hcomplete : Sections.completePendingInputLocked dev payload now with
    | some next => exact buffers.completePendingInputLocked hcomplete
    | none =>
        have hpending : dev.pendingHidIn = [] := by
          unfold Sections.completePendingInputLocked at hcomplete
          split at hcomplete
          · assumption
          · cases hcomplete
        dsimp only
        split_ifs with hret
        · unfold Sections.queueInputPacketLocked at hret ⊢
          split_ifs at hret ⊢
          · exact absurd rfl hret
          · exact buffers
          · exact absurd rfl hret
        · exact buffers.queueInputPacketLocked hpending (not_not.mp hret)

end Buffers

section Stopping

theorem stopping_enqueueFrame (type : FrameType) (payload : List UInt8) (alloc : Bool) :
    (enqueueFrame dev type payload alloc).1.stopping = dev.stopping := by
  unfold enqueueFrame
  split_ifs <;> rfl

theorem stopping_read (count : Nat) : (Sections.read dev count).1.stopping = dev.stopping := by
  unfold Sections.read
  split
  · rfl
  · split_ifs <;> rfl

theorem stopping_interruptInUrb (now : Nat) :
    (interruptInUrb dev id now).1.stopping = dev.stopping := by
  unfold interruptInUrb
  split <;> rfl

theorem stopping_disconnectLocked : (disconnectLocked dev).stopping = dev.stopping := by
  simp only [disconnectLocked]
  split_ifs
  · rfl
  · exact (SameBuffers.cancelPendingUrbsLocked eshutdown).stopping

theorem stopping_writeInputFrame (payload : List UInt8) (alloc : Bool) (now : Nat) :
    (writeInputFrame dev payload alloc now).1.stopping = dev.stopping := by
  unfold writeInputFrame
  split_ifs
  · rfl
  · rfl
  · unfold completePendingInputLocked queueInputPacketLocked
    cases dev.pendingHidIn with
    | nil =>
        dsimp only
        split_ifs <;> rfl
    | cons pending rest => exact (SameBuffers.queue pending 0).stopping

end Stopping

/-- What a section may do to the buffers. -/
structure KeepsBuffers (dev dev' : HcdDev) : Prop where
  buffers : Buffers dev → Buffers dev'
  stopping : dev'.stopping = dev.stopping

theorem SameBuffers.keeps (same : SameBuffers dev dev') : KeepsBuffers dev dev' :=
  ⟨fun buffers => buffers.of_same same, same.stopping⟩

section Steps

variable {s t : System}

theorem keeps_handle (context : UrbContext) :
    KeepsBuffers s.dev (Threads.handle s id context).dev := by
  dsimp only [Threads.handle]
  cases context.urb.pipeType with
  | control => exact SameBuffers.keeps ⟨fun h => h, rfl, rfl, rfl, rfl, rfl, rfl, rfl⟩
  | interrupt =>
      dsimp only
      split
      · exact ⟨fun buffers => buffers.interruptInUrb s.clock, stopping_interruptInUrb s.clock⟩
      · split_ifs <;> exact SameBuffers.keeps ⟨fun h => h, rfl, rfl, rfl, rfl, rfl, rfl, rfl⟩
  | isochronous =>
      dsimp only
      split_ifs <;> exact SameBuffers.keeps ⟨fun h => h, rfl, rfl, rfl, rfl, rfl, rfl, rfl⟩
  | bulk => exact SameBuffers.keeps (.refl s.dev)

theorem KeepsBuffers.enqueueFrame (type : FrameType) (payload : List UInt8) (alloc : Bool) :
    KeepsBuffers dev (Sections.enqueueFrame dev type payload alloc).1 :=
  ⟨fun buffers => buffers.enqueueFrame type payload alloc,
    stopping_enqueueFrame type payload alloc⟩

theorem KeepsBuffers.trans_same (first : KeepsBuffers dev dev') (second : SameBuffers dev' dev'') :
    KeepsBuffers dev dev'' :=
  ⟨fun buffers => (first.buffers buffers).of_same second, second.stopping.trans first.stopping⟩

theorem keeps_call (alloc : Bool) (calls : List Call) (ret : Int) (next : Call) :
    KeepsBuffers s.dev (Threads.call s id alloc calls ret next).dev := by
  cases next with
  | setStatus flags enabled =>
      exact SameBuffers.keeps ⟨fun h => h, rfl, rfl, rfl, rfl, rfl, rfl, rfl⟩
  | notify type payload => exact .enqueueFrame type payload alloc
  | forward type payload actualLength =>
      simp only [Threads.call]
      split_ifs
      · exact .enqueueFrame type payload alloc
      · refine KeepsBuffers.trans_same (.enqueueFrame type payload alloc) ?_
        exact ⟨fun h => h, rfl, rfl, rfl, rfl, rfl, rfl, rfl⟩

theorem keeps_write (frame : Frame) (flags : UInt16) (alloc : Bool) :
    KeepsBuffers s.dev (Threads.write s frame flags alloc).dev := by
  unfold Threads.write
  split_ifs
  · exact SameBuffers.keeps (.refl s.dev)
  · split
    · exact ⟨fun buffers => buffers.writeInputFrame frame.payload alloc s.clock,
        stopping_writeInputFrame frame.payload alloc s.clock⟩
    · dsimp only
      split_ifs <;> exact SameBuffers.keeps ⟨fun h => h, rfl, rfl, rfl, rfl, rfl, rfl, rfl⟩
    · exact SameBuffers.keeps (.writeAudioInFrame frame.payload alloc)
    · exact SameBuffers.keeps (.refl s.dev)

theorem KeepsBuffers.disconnectLocked : KeepsBuffers dev (Sections.disconnectLocked dev) :=
  ⟨Buffers.disconnectLocked, stopping_disconnectLocked⟩

theorem keeps_resume (syscalls : List Syscall) (syscall : Syscall) :
    KeepsBuffers s.dev (Threads.resume { s with syscalls := syscalls } syscall).dev := by
  cases syscall with
  | featureReply payload => exact SameBuffers.keeps (.completeFeatureReply payload)
  | disconnect => exact .disconnectLocked
  | resetUsb => exact SameBuffers.keeps ⟨fun h => h, rfl, rfl, rfl, rfl, rfl, rfl, rfl⟩

theorem keeps_deliver (status : Int) : KeepsBuffers s.dev (Threads.deliver s id status).dev := by
  unfold Threads.deliver
  split
  · exact SameBuffers.keeps (.refl s.dev)
  · rename_i context hcontext
    dsimp only
    split
    · exact SameBuffers.keeps ⟨fun h => h, rfl, rfl, rfl, rfl, rfl, rfl, rfl⟩
    split
    · refine SameBuffers.keeps ((SameBuffers.isoInUrb context.urb).trans ?_)
      exact ⟨fun h => h, rfl, rfl, rfl, rfl, rfl, rfl, rfl⟩
    · exact SameBuffers.keeps (.refl s.dev)

theorem keeps_place (alloc : Bool) (payload : List UInt8) (payloads : List (List UInt8)) :
    KeepsBuffers s.dev (Threads.place s id alloc payload payloads).dev := by
  simp only [Threads.place]
  split_ifs
  · refine KeepsBuffers.trans_same (.enqueueFrame .usbAudioOut payload alloc) ?_
    exact ⟨fun h => h, rfl, rfl, rfl, rfl, rfl, rfl, rfl⟩
  · exact .enqueueFrame .usbAudioOut payload alloc

/-- Every step but the removal of the controller. -/
theorem keeps_step {action : Action} (h : step s action = some t) (hstop : action ≠ .stop) :
    KeepsBuffers s.dev t.dev := by
  cases steps_of_step h with
  | submit urb alloc linkRet =>
      unfold Threads.submit
      split_ifs <;> exact SameBuffers.keeps ⟨fun h => h, rfl, rfl, rfl, rfl, rfl, rfl, rfl⟩
  | handle id => exact keeps_handle _
  | call id alloc => exact keeps_call alloc _ _ _
  | defer id => exact SameBuffers.keeps (.deferFeatureGet _)
  | request id alloc => exact .enqueueFrame _ _ alloc
  | refile id => exact SameBuffers.keeps (.queue id _)
  | file id => exact SameBuffers.keeps (.queue id _)
  | schedule id => exact SameBuffers.keeps (.scheduleIsoGiveback _ s.clock)
  | dequeue id status => exact SameBuffers.keeps (.urbDequeue status)
  | write frame flags alloc => exact keeps_write frame flags alloc
  | read count => exact ⟨fun buffers => buffers.read count, stopping_read count⟩
  | connect => exact SameBuffers.keeps .connectLocked
  | disconnect => exact .disconnectLocked
  | setProfile profile pollingRateMode =>
      exact SameBuffers.keeps (.setProfile profile pollingRateMode)
  | openFile => exact SameBuffers.keeps ⟨fun h => h, rfl, rfl, rfl, rfl, rfl, rfl, rfl⟩
  | release => exact SameBuffers.keeps ⟨fun h => h, rfl, rfl, rfl, rfl, rfl, rfl, rfl⟩
  | resume syscall => exact keeps_resume _ syscall
  | hubControl request value index =>
      exact SameBuffers.keeps (.hubControl request value index)
  | stop => exact absurd rfl hstop
  | take dev id status hpc taken => exact SameBuffers.keeps (.takeCompleted taken)
  | deliver => exact keeps_deliver _
  | place id alloc => exact keeps_place alloc _ _
  | giveback => exact SameBuffers.keeps ⟨fun h => h, rfl, rfl, rfl, rfl, rfl, rfl, rfl⟩
  | tick | handleFreed | sleep | wake | placed => exact SameBuffers.keeps (.refl s.dev)

theorem Buffers.step {action : Action} (buffers : Buffers s.dev)
    (h : Threads.step s action = some t) : Buffers t.dev := by
  by_cases hstop : action = .stop
  · subst hstop
    obtain rfl := Option.some.inj h
    exact buffers.hcdStop
  · exact (keeps_step h hstop).buffers buffers

theorem Buffers.init : Buffers HcdDev.init where
  exclusive := fun _ => rfl
  inputCount := rfl
  inputLe := Nat.zero_le _
  newest := by simp [HcdDev.init]
  filled := .slnil
  eventCount := rfl
  eventLe := Nat.zero_le _

end Steps

end VirtualDualSense.Hcd.Queues
