import VirtualDualSense.Hcd.Threads

/-!
# Steps of the host controller

What a step can do, with the place in which its thread is. The properties of the threads are
derived from this relation, so that none of them takes the step function apart again.
-/

namespace VirtualDualSense.Hcd.ThreadSteps

open Protocol.Frames Usb.Descriptors UsbCore Sections Threads

/-- The sections of the threads. -/
inductive Steps (s : System) : Action → System → Prop
  | tick (time : Nat) (later : s.clock ≤ time) : Steps s (.tick time) { s with clock := time }
  | submit (urb : Urb) (alloc : Bool) (linkRet : Int) :
      Steps s (.submit urb alloc linkRet) (submit s urb alloc linkRet)
  | handle (id : CtxId) (context : UrbContext) (hpc : s.enqueuers id = .linked)
      (live : s.dev.contexts id = some context) : Steps s (.handle id) (handle s id context)
  /-- The context of the URB is free already. -/
  | handleFreed (id : CtxId) (hpc : s.enqueuers id = .linked) (freed : s.dev.contexts id = none) :
      Steps s (.handle id) (s.setPc id (.handling [] epipe))
  | call (id : CtxId) (alloc : Bool) (next : Call) (calls : List Call) (ret : Int)
      (hpc : s.enqueuers id = .handling (next :: calls) ret) :
      Steps s (.call id alloc) (call s id alloc calls ret next)
  | defer (id : CtxId) (reportId : UInt8) (requestedLength : UInt16)
      (hpc : s.enqueuers id = .missed reportId requestedLength) :
      Steps s (.defer id) ({ s with dev := (deferFeatureGet s.dev id reportId).1 }.setPc id
        (if (deferFeatureGet s.dev id reportId).2 ≠ 0 then
          .handling [] (deferFeatureGet s.dev id reportId).2
        else .deferred reportId requestedLength))
  | request (id : CtxId) (alloc : Bool) (reportId : UInt8) (requestedLength : UInt16)
      (hpc : s.enqueuers id = .deferred reportId requestedLength) :
      Steps s (.request id alloc)
        ({ s with dev := (enqueueFrame s.dev .usbFeatureGet
            (featureGetFrame reportId requestedLength) alloc).1 }.setPc id
          (if (enqueueFrame s.dev .usbFeatureGet
              (featureGetFrame reportId requestedLength) alloc).2 ≠ 0 then
            .refiling (enqueueFrame s.dev .usbFeatureGet
              (featureGetFrame reportId requestedLength) alloc).2
          else .returned))
  | refile (id : CtxId) (ret : Int) (hpc : s.enqueuers id = .refiling ret) :
      Steps s (.refile id)
        ({ s with dev := queueUrbGivebackLocked s.dev id ret }.setPc id .returned)
  | schedule (id : CtxId) (input : Bool) (hpc : s.enqueuers id = .scheduling input) :
      Steps s (.schedule id)
        ({ s with dev := scheduleIsoGiveback s.dev id input s.clock }.setPc id (.handling [] 0))
  | file (id : CtxId) (ret : Int) (hpc : s.enqueuers id = .handling [] ret) :
      Steps s (.file id) ({ s with dev := queueUrbGivebackLocked s.dev id ret }.setPc id .returned)
  | dequeue (id : CtxId) (status : Int) (negative : status < 0) :
      Steps s (.dequeue id status) { s with dev := (urbDequeue s.dev id status).1 }
  | write (frame : Frame) (flags : UInt16) (alloc : Bool) :
      Steps s (.write frame flags alloc) (write s frame flags alloc)
  | read (count : Nat) : Steps s (.read count) { s with dev := (Sections.read s.dev count).1 }
  | connect : Steps s .connect { s with dev := connectLocked s.dev }
  | disconnect : Steps s .disconnect (disconnect s)
  | setProfile (profile : Option Profile) (pollingRateMode : Nat) :
      Steps s (.setProfile profile pollingRateMode)
        { s with dev := (Sections.setProfile s.dev profile pollingRateMode).1 }
  | openFile (closed : ¬s.dev.opened = true) :
      Steps s .openFile { s with dev := { s.dev with opened := true } }
  | release (opened : s.dev.opened = true) : Steps s .release (release s)
  | resume (syscall : Syscall) (hmem : syscall ∈ s.syscalls) :
      Steps s (.resume syscall)
        (resume { s with syscalls := s.syscalls.erase syscall } syscall)
  | hubControl (request : HubRequest) (value index : Nat) :
      Steps s (.hubControl request value index)
        { s with dev := (Sections.hubControl s.dev request value index).1 }
  | stop : Steps s .stop { s with dev := hcdStop s.dev }
  | sleep (id : CtxId) (rest : List CtxId) (hpc : s.giveback = .idle)
      (listed : s.dev.completedUrbs = id :: rest)
      (early : notYetReady (s.dev.readyTime id) s.clock = true) :
      Steps s .sleep { s with giveback := .sleeping (s.dev.readyTime id) }
  | wake (expires : Nat) (hpc : s.giveback = .sleeping expires) (due : expires ≤ s.clock) :
      Steps s .wake { s with giveback := .idle }
  | take (dev : HcdDev) (id : CtxId) (status : Int) (hpc : s.giveback = .idle)
      (taken : takeCompleted s.dev s.clock = some (dev, id, status)) :
      Steps s .take { s with dev := dev, giveback := .taken id status }
  | deliver (id : CtxId) (status : Int) (hpc : s.giveback = .taken id status) :
      Steps s .deliver (deliver s id status)
  | place (id : CtxId) (alloc : Bool) (payload : List UInt8) (payloads : List (List UInt8))
      (hpc : s.giveback = .delivering id (payload :: payloads)) :
      Steps s (.place alloc) (place s id alloc payload payloads)
  /-- All chunks are placed. -/
  | placed (id : CtxId) (alloc : Bool) (hpc : s.giveback = .delivering id []) :
      Steps s (.place alloc) { s with giveback := .finishing id 0 }
  | giveback (id : CtxId) (status : Int) (hpc : s.giveback = .finishing id status) :
      Steps s .giveback { s with dev := givebackUrb s.dev id, giveback := .idle }

variable {s t : System} {action : Action}

theorem steps_of_step (h : step s action = some t) : Steps s action t := by
  cases action with
  | tick time =>
      obtain ⟨later, ⟨⟩⟩ := Option.ite_none_right_eq_some.mp h
      exact .tick time later
  | submit urb alloc linkRet =>
      obtain rfl := Option.some.inj h
      exact .submit urb alloc linkRet
  | handle id =>
      simp only [step] at h
      split at h
      · rename_i context hpc live
        cases h
        exact .handle id context hpc live
      · rename_i hpc freed
        cases h
        exact .handleFreed id hpc freed
      · cases h
  | call id alloc =>
      simp only [step] at h
      split at h
      · rename_i next calls ret hpc
        cases h
        exact .call id alloc next calls ret hpc
      · cases h
  | defer id =>
      simp only [step] at h
      split at h
      · rename_i reportId requestedLength hpc
        cases h
        exact .defer id reportId requestedLength hpc
      · cases h
  | request id alloc =>
      simp only [step] at h
      split at h
      · rename_i reportId requestedLength hpc
        cases h
        exact .request id alloc reportId requestedLength hpc
      · cases h
  | refile id =>
      simp only [step] at h
      split at h
      · rename_i ret hpc
        cases h
        exact .refile id ret hpc
      · cases h
  | schedule id =>
      simp only [step] at h
      split at h
      · rename_i input hpc
        cases h
        exact .schedule id input hpc
      · cases h
  | file id =>
      simp only [step] at h
      split at h
      · rename_i ret hpc
        cases h
        exact .file id ret hpc
      · cases h
  | dequeue id status =>
      obtain ⟨negative, ⟨⟩⟩ := Option.ite_none_right_eq_some.mp h
      exact .dequeue id status negative
  | write frame flags alloc =>
      obtain rfl := Option.some.inj h
      exact .write frame flags alloc
  | read count =>
      obtain rfl := Option.some.inj h
      exact .read count
  | connect =>
      obtain rfl := Option.some.inj h
      exact .connect
  | disconnect =>
      obtain rfl := Option.some.inj h
      exact .disconnect
  | setProfile profile pollingRateMode =>
      obtain rfl := Option.some.inj h
      exact .setProfile profile pollingRateMode
  | openFile =>
      obtain ⟨closed, ⟨⟩⟩ := Option.ite_none_left_eq_some.mp h
      exact .openFile closed
  | release =>
      obtain ⟨opened, ⟨⟩⟩ := Option.ite_none_right_eq_some.mp h
      exact .release opened
  | resume syscall =>
      obtain ⟨hmem, ⟨⟩⟩ := Option.ite_none_right_eq_some.mp h
      exact .resume syscall hmem
  | hubControl request value index =>
      obtain rfl := Option.some.inj h
      exact .hubControl request value index
  | stop =>
      obtain rfl := Option.some.inj h
      exact .stop
  | sleep =>
      simp only [step] at h
      split at h
      · rename_i id rest hpc listed
        obtain ⟨early, ⟨⟩⟩ := Option.ite_none_right_eq_some.mp h
        exact .sleep id rest hpc listed early
      · cases h
  | wake =>
      simp only [step] at h
      split at h
      · rename_i expires hpc
        obtain ⟨due, ⟨⟩⟩ := Option.ite_none_right_eq_some.mp h
        exact .wake expires hpc due
      · cases h
  | take =>
      simp only [step] at h
      split at h
      · rename_i dev id status hpc taken
        cases h
        exact .take dev id status hpc taken
      · cases h
  | deliver =>
      simp only [step] at h
      split at h
      · rename_i id status hpc
        cases h
        exact .deliver id status hpc
      · cases h
  | place alloc =>
      simp only [step] at h
      split at h
      · rename_i id payload payloads hpc
        cases h
        exact .place id alloc payload payloads hpc
      · rename_i id hpc
        cases h
        exact .placed id alloc hpc
      · cases h
  | giveback =>
      simp only [step] at h
      split at h
      · rename_i id status hpc
        cases h
        exact .giveback id status hpc
      · cases h

section Frames

variable (s : System) (id : CtxId)

/-- A handler moves its own thread and changes the device. -/
theorem handle_frame (context : UrbContext) :
    ∃ dev pc, handle s id context = { s with dev := dev }.setPc id pc := by
  dsimp only [handle]
  cases context.urb.pipeType with
  | control => exact ⟨_, _, rfl⟩
  | interrupt =>
      dsimp only
      split_ifs <;> exact ⟨_, _, rfl⟩
  | isochronous =>
      dsimp only
      split_ifs <;> exact ⟨_, _, rfl⟩
  | bulk => exact ⟨_, _, rfl⟩

/-- After a call the thread goes on with the calls that are left. -/
theorem call_frame (alloc : Bool) (calls : List Call) (ret : Int) (next : Call) :
    ∃ dev left result, call s id alloc calls ret next =
      { s with dev := dev }.setPc id (.handling left result) := by
  cases next with
  | setStatus flags enabled => exact ⟨_, _, _, rfl⟩
  | notify type payload => exact ⟨_, _, _, rfl⟩
  | forward type payload actualLength =>
      simp only [call]
      split_ifs <;> exact ⟨_, _, _, rfl⟩

/-- The system calls leave the threads of the URBs where they are. -/
theorem write_frame (frame : Frame) (flags : UInt16) (alloc : Bool) : ∃ dev syscalls,
    write s frame flags alloc = { s with dev := dev, syscalls := syscalls } := by
  unfold write
  split_ifs
  · exact ⟨_, _, rfl⟩
  · split
    · exact ⟨_, _, rfl⟩
    · dsimp only
      split_ifs <;> exact ⟨_, _, rfl⟩
    · exact ⟨_, _, rfl⟩
    · exact ⟨_, _, rfl⟩

theorem deliver_frame (status : Int) : ∃ dev giveback,
    deliver s id status = { s with dev := dev, giveback := giveback } := by
  unfold deliver
  split
  · exact ⟨_, _, rfl⟩
  · dsimp only
    split_ifs <;> exact ⟨_, _, rfl⟩

end Frames

end VirtualDualSense.Hcd.ThreadSteps
