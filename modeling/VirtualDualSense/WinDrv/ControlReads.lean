import VirtualDualSense.Lib.Fragments
import VirtualDualSense.Lib.Holders
import VirtualDualSense.Lib.Runs
import VirtualDualSense.WinDrv.ByteRings

/-!
# The reads of a port's frames

The daemon reads the frames of a port through read requests. Both a queued frame and a new
request end in `VdsCompleteControlReadRequests`, whose calls may run at the same time: its size
check, its retrieval of a request and its ring read are steps of their own.

## Implementation notes

A call is an entry of a list and never leaves it. The default queue of a control device is
sequential, so requests are forwarded in the order in which they are issued, which numbers them.
The accepted frames and the ring reads are recorded for the statements only.
-/

namespace VirtualDualSense.WinDrv.ControlReads

open Lib.Fragments Lib.Holders Lib.Runs ByteRings

section Model

/-- A read request of the daemon. -/
structure ReadRequest where
  number : Nat
  buffer : Buffer

/-- Where a call of `VdsCompleteControlReadRequests` is. -/
inductive Place
  | checking
  | retrieving
  | retrieved (request : ReadRequest)
  | reading (request : ReadRequest)
  | completing (number : Nat) (bytes : List UInt8)
  | returned

/-- The request that a call holds. -/
def Place.number : Place → Option Nat
  | .retrieved request => some request.number
  | .reading request => some request.number
  | .completing number _ => some number
  | _ => none

/-- A completed request, with the bytes that a successful one returns. -/
structure Completion where
  number : Nat
  information : Option (List UInt8)
  deriving DecidableEq

structure State where
  port : ControlRing
  controlReadQueue : Option (List ReadRequest)
  calls : List Place
  issued : Nat
  accepted : List (List UInt8)
  reads : List (Nat × List UInt8)
  completed : List Completion

def State.new : State := ⟨.new, none, [], 0, [], [], []⟩

def State.move (s : State) (call : Nat) (place : Place) : State :=
  { s with calls := s.calls.set call place }

def State.complete (s : State) (number : Nat) (information : Option (List UInt8)) : State :=
  { s with completed := s.completed ++ [⟨number, information⟩] }

/-- The sections of the calls, and what the framework does. -/
inductive Action
  | createReadQueue
  | queueFrame (frameType : UInt16) (payload : Buffer)
  | controlRead (buffer : Buffer) (ready forwards : Bool)
  | checkSize (call : Nat)
  | retrieveRequest (call : Nat)
  | retrieveBuffer (call : Nat) (succeeds : Bool)
  | readRing (call : Nat)
  | completeRequest (call : Nat)
  | cancel (number : Nat)

/-- The locked part of `VdsQueueFrame`; a frame that is queued calls the completer. -/
def queueFrame (s : State) (frameType : UInt16) (payload : Buffer) : Option State :=
  (queueFrameLocked s.port frameType payload).map fun (port, status) =>
    if status = .success then
      { s with
        port
        calls := s.calls ++ [.checking]
        accepted := s.accepted ++ [frameBytesOf frameType payload.bytes port.frameSequence] }
    else { s with port }

/-- `VdsEvtControlRead` until it calls the completer. -/
def controlRead (s : State) (buffer : Buffer) (ready forwards : Bool) : Option State :=
  s.controlReadQueue.map fun requests =>
    let request : ReadRequest := ⟨s.issued, buffer⟩
    let s := { s with issued := s.issued + 1 }
    if buffer.bytes = [] then s.complete request.number none
    else if !ready then s.complete request.number none
    else if !forwards then s.complete request.number none
    else { s with
      controlReadQueue := some (requests ++ [request])
      calls := s.calls ++ [.checking] }

/-- The steps of `VdsCompleteControlReadRequests` and of its surroundings. -/
def step (s : State) : Action → Option State
  | .createReadQueue =>
      if s.controlReadQueue.isNone then some { s with controlReadQueue := some [] } else none
  | .queueFrame frameType payload => queueFrame s frameType payload
  | .controlRead buffer ready forwards => controlRead s buffer ready forwards
  | .checkSize call =>
      match s.calls[call]? with
      | some .checking =>
          if s.controlReadQueue.isNone then some (s.move call .returned)
          else if s.port.controlRingSize = 0 then some (s.move call .returned)
          else some (s.move call .retrieving)
      | _ => none
  | .retrieveRequest call =>
      match s.calls[call]?, s.controlReadQueue with
      | some .retrieving, some [] => some (s.move call .returned)
      | some .retrieving, some (request :: rest) =>
          some ({ s with controlReadQueue := some rest }.move call (.retrieved request))
      | _, _ => none
  | .retrieveBuffer call succeeds =>
      match s.calls[call]? with
      | some (.retrieved request) =>
          if succeeds ∧ request.buffer.bytes ≠ [] then some (s.move call (.reading request))
          else some ((s.complete request.number none).move call .checking)
      | _ => none
  | .readRing call =>
      match s.calls[call]? with
      | some (.reading request) =>
          (controlRingReadLocked s.port request.buffer.bytes request.buffer.size).map
            fun (port, buffer, bytesRead) =>
              let bytes := buffer.take bytesRead.toNat
              { s with port, reads := s.reads ++ [(request.number, bytes)] }.move call
                (.completing request.number bytes)
      | _ => none
  | .completeRequest call =>
      match s.calls[call]? with
      | some (.completing number bytes) =>
          some ((s.complete number (some bytes)).move call .checking)
      | _ => none
  | .cancel number =>
      match s.controlReadQueue with
      | some requests =>
          if ∃ request ∈ requests, request.number = number then
            some ({ s with
              controlReadQueue := some (requests.filter (·.number ≠ number)) }.complete number none)
          else none
      | none => none

end Model

section Delivery

/-- What the request of a number returned. -/
def State.returned (s : State) (number : Nat) : List UInt8 :=
  (s.completed.filter (·.number = number)).flatMap fun completion => completion.information.getD []

/-- What the requests returned, in the order in which they were issued. -/
def State.delivered (s : State) : List UInt8 := (List.range s.issued).flatMap s.returned

/-- No successful read is empty, and the reads return a front of the accepted frames. -/
structure Delivers (s : State) : Prop where
  nonempty : ∀ completion ∈ s.completed, completion.information ≠ some []
  in_order : s.delivered <+: s.accepted.flatten

instance (s : State) : Decidable (Delivers s) :=
  decidable_of_iff ((∀ completion ∈ s.completed, completion.information ≠ some []) ∧
      s.delivered <+: s.accepted.flatten)
    ⟨fun h => ⟨h.1, h.2⟩, fun h => ⟨h.nonempty, h.in_order⟩⟩

end Delivery

section Steps

/-- What a step does. -/
inductive Steps (s : State) : Action → State → Prop
  | created (h : s.controlReadQueue = none) :
      Steps s .createReadQueue { s with controlReadQueue := some [] }
  | queued {frameType payload port}
      (h : queueFrameLocked s.port frameType payload = some (port, .success)) :
      Steps s (.queueFrame frameType payload) { s with
        port
        calls := s.calls ++ [.checking]
        accepted := s.accepted ++ [frameBytesOf frameType payload.bytes port.frameSequence] }
  | dropped {frameType payload port status} (hstatus : status ≠ .success)
      (h : queueFrameLocked s.port frameType payload = some (port, status)) :
      Steps s (.queueFrame frameType payload) { s with port }
  | refused {buffer ready forwards} :
      Steps s (.controlRead buffer ready forwards)
        ({ s with issued := s.issued + 1 }.complete s.issued none)
  | forwarded {buffer ready forwards requests} (h : s.controlReadQueue = some requests) :
      Steps s (.controlRead buffer ready forwards) { s with
        issued := s.issued + 1
        controlReadQueue := some (requests ++ [⟨s.issued, buffer⟩])
        calls := s.calls ++ [.checking] }
  | emptied {call} (h : s.calls[call]? = some .checking) :
      Steps s (.checkSize call) (s.move call .returned)
  | found {call} (h : s.calls[call]? = some .checking) (hsize : s.port.controlRingSize ≠ 0) :
      Steps s (.checkSize call) (s.move call .retrieving)
  | drained {call} (h : s.calls[call]? = some .retrieving) :
      Steps s (.retrieveRequest call) (s.move call .returned)
  | retrieved {call request rest} (h : s.calls[call]? = some .retrieving)
      (hqueue : s.controlReadQueue = some (request :: rest)) :
      Steps s (.retrieveRequest call)
        ({ s with controlReadQueue := some rest }.move call (.retrieved request))
  | buffered {call request} (h : s.calls[call]? = some (.retrieved request))
      (hbuffer : request.buffer.bytes ≠ []) :
      Steps s (.retrieveBuffer call true) (s.move call (.reading request))
  | failed {call request succeeds} (h : s.calls[call]? = some (.retrieved request)) :
      Steps s (.retrieveBuffer call succeeds)
        ((s.complete request.number none).move call .checking)
  | read {call request port buffer bytesRead} (h : s.calls[call]? = some (.reading request))
      (hread : controlRingReadLocked s.port request.buffer.bytes request.buffer.size =
        some (port, buffer, bytesRead)) :
      Steps s (.readRing call)
        ({ s with
          port
          reads := s.reads ++ [(request.number, buffer.take bytesRead.toNat)] }.move call
            (.completing request.number (buffer.take bytesRead.toNat)))
  | completed {call number bytes} (h : s.calls[call]? = some (.completing number bytes)) :
      Steps s (.completeRequest call) ((s.complete number (some bytes)).move call .checking)
  | cancelled {number requests} (h : s.controlReadQueue = some requests)
      (hmem : ∃ request ∈ requests, request.number = number) :
      Steps s (.cancel number)
        ({ s with
          controlReadQueue := some (requests.filter (·.number ≠ number)) }.complete number none)

variable {s t : State} {action : Action}

theorem steps_of_step (h : step s action = some t) : Steps s action t := by
  cases action with
  | createReadQueue =>
      obtain ⟨hnone, h⟩ := Option.ite_none_right_eq_some.mp h
      obtain rfl := Option.some.inj h
      exact .created (Option.isNone_iff_eq_none.mp hnone)
  | queueFrame frameType payload =>
      obtain ⟨⟨port, status⟩, hlocked, rfl⟩ := Option.map_eq_some_iff.mp h
      by_cases hstatus : status = .success
      · subst hstatus
        exact .queued hlocked
      · simp only [if_neg hstatus]
        exact .dropped hstatus hlocked
  | controlRead buffer ready forwards =>
      obtain ⟨requests, hqueue, rfl⟩ := Option.map_eq_some_iff.mp h
      simp only
      split_ifs
      · exact .refused
      · exact .refused
      · exact .refused
      · exact .forwarded hqueue
  | checkSize call =>
      simp only [step] at h
      split at h
      next hplace =>
        split_ifs at h with hqueue hsize
        · obtain rfl := Option.some.inj h
          exact .emptied hplace
        · obtain rfl := Option.some.inj h
          exact .emptied hplace
        · obtain rfl := Option.some.inj h
          exact .found hplace hsize
      next => cases h
  | retrieveRequest call =>
      simp only [step] at h
      split at h
      next hplace hqueue =>
        obtain rfl := Option.some.inj h
        exact .drained hplace
      next hplace hqueue =>
        obtain rfl := Option.some.inj h
        exact .retrieved hplace hqueue
      next => cases h
  | retrieveBuffer call succeeds =>
      simp only [step] at h
      split at h
      next hplace =>
        split_ifs at h with hbuffer
        · obtain rfl := Option.some.inj h
          obtain ⟨rfl, hbuffer⟩ := hbuffer
          exact .buffered hplace hbuffer
        · obtain rfl := Option.some.inj h
          exact .failed hplace
      next => cases h
  | readRing call =>
      simp only [step] at h
      split at h
      next hplace =>
        obtain ⟨⟨port, buffer, bytesRead⟩, hread, rfl⟩ := Option.map_eq_some_iff.mp h
        exact .read hplace hread
      next => cases h
  | completeRequest call =>
      simp only [step] at h
      split at h
      next hplace =>
        obtain rfl := Option.some.inj h
        exact .completed hplace
      next => cases h
  | cancel number =>
      simp only [step] at h
      split at h
      next hqueue =>
        obtain ⟨hmem, h⟩ := Option.ite_none_right_eq_some.mp h
        obtain rfl := Option.some.inj h
        exact .cancelled hqueue hmem
      next => cases h

end Steps

section Custody

variable {s t : State} {action : Action} {call : Nat} {before after : Place}

/-- The requests that calls hold. -/
def State.inHand (s : State) : List Nat := held Place.number s.calls

/-- The requests in the manual queue. -/
def State.waiting (s : State) : List Nat := (s.controlReadQueue.getD []).map ReadRequest.number

def State.finished (s : State) : List Nat := s.completed.map Completion.number

theorem finished_complete (s : State) (number : Nat) (information : Option (List UInt8)) :
    (s.complete number information).finished = s.finished ++ [number] :=
  List.map_append

def State.everywhere (s : State) : List Nat := s.inHand ++ (s.waiting ++ s.finished)

/-- Every issued request is in one place: with a call, in the queue or completed. -/
def Custody (s : State) : Prop := s.everywhere.Perm (List.range s.issued)

theorem Custody.new : Custody .new := .refl []

theorem Custody.transfer (custody : Custody s) (hissued : t.issued = s.issued)
    (hperm : t.everywhere.Perm s.everywhere) : Custody t := by
  rw [Custody, hissued]
  exact hperm.trans custody

theorem Custody.issue (custody : Custody s) (hissued : t.issued = s.issued + 1)
    (hperm : t.everywhere.Perm (s.everywhere ++ [s.issued])) : Custody t := by
  rw [Custody, hissued, List.range_succ]
  exact hperm.trans (custody.append_right _)

theorem inHand_append_checking (s : State) :
    held Place.number (s.calls ++ [.checking]) = s.inHand := by
  rw [held_append, held_singleton]
  exact List.append_nil _

theorem inHand_move (h : s.calls[call]? = some before) (hsame : after.number = before.number) :
    (s.move call after).inHand.Perm s.inHand :=
  held_set_perm_of_eq h hsame

/-- A call takes a request. -/
theorem inHand_take {number : Nat} (h : s.calls[call]? = some before)
    (hbefore : before.number = none) (hafter : after.number = some number) :
    (s.move call after).inHand.Perm (number :: s.inHand) := by
  have hperm : (before.number.toList ++ (s.move call after).inHand).Perm
      (after.number.toList ++ s.inHand) := held_set_perm h after
  rw [hbefore, hafter] at hperm
  exact hperm

/-- A call gives its request away. -/
theorem inHand_give {number : Nat} (h : s.calls[call]? = some before)
    (hbefore : before.number = some number) (hafter : after.number = none) :
    (number :: (s.move call after).inHand).Perm s.inHand := by
  have hperm : (before.number.toList ++ (s.move call after).inHand).Perm
      (after.number.toList ++ s.inHand) := held_set_perm h after
  rw [hbefore, hafter] at hperm
  exact hperm

theorem everywhere_move (h : s.calls[call]? = some before)
    (hsame : after.number = before.number) : (s.move call after).everywhere.Perm s.everywhere :=
  (inHand_move h hsame).append_right _

/-- A call completes its request. -/
theorem everywhere_complete {number : Nat} {information : Option (List UInt8)}
    (h : s.calls[call]? = some before) (hbefore : before.number = some number) :
    ((s.complete number information).move call .checking).everywhere.Perm s.everywhere := by
  have hgive : (number :: (s.move call .checking).inHand).Perm s.inHand :=
    inHand_give h hbefore rfl
  refine .trans ?_ (hgive.append_right _)
  change ((s.move call .checking).inHand ++
    (s.waiting ++ (s.complete number information).finished)).Perm _
  rw [finished_complete, ← List.append_assoc s.waiting, ← List.append_assoc]
  exact List.perm_append_singleton _ _

/-- A request that is cancelled was in the queue once. -/
theorem perm_filter_waiting {requests : List ReadRequest} {number : Nat}
    (hnodup : (requests.map ReadRequest.number).Nodup)
    (hmem : ∃ request ∈ requests, request.number = number) :
    (number :: (requests.filter (·.number ≠ number)).map ReadRequest.number).Perm
      (requests.map ReadRequest.number) := by
  have hfilter : (requests.filter (·.number ≠ number)).map ReadRequest.number =
      (requests.map ReadRequest.number).erase number := by
    rw [hnodup.erase_eq_filter, List.filter_map]
    refine congrArg _ (List.filter_congr fun request _ => ?_)
    rw [Function.comp_apply, decide_not, bne, beq_eq_decide]
  rw [hfilter]
  exact (List.perm_cons_erase (List.mem_map.mpr hmem)).symm

/-- Every step keeps the requests in one place. -/
theorem Custody.step (custody : Custody s) (h : Steps s action t) : Custody t := by
  cases h with
  | created h =>
      refine custody.transfer rfl (.of_eq ?_)
      rw [State.everywhere, State.everywhere, State.waiting, State.waiting, h]
      rfl
  | queued h =>
      exact custody.transfer rfl (.of_eq (congrArg (· ++ _) (inHand_append_checking s)))
  | dropped hstatus h => exact custody.transfer rfl (.refl _)
  | refused =>
      refine custody.issue rfl (.of_eq ?_)
      change s.inHand ++ (s.waiting ++ (s.complete s.issued none).finished) = _
      rw [finished_complete, ← List.append_assoc s.waiting, ← List.append_assoc]
      rfl
  | @forwarded buffer ready forwards requests h =>
      have hwaiting : s.waiting = requests.map ReadRequest.number := by
        rw [State.waiting, h]
        rfl
      have hforwarded : (requests ++ [(⟨s.issued, buffer⟩ : ReadRequest)]).map ReadRequest.number =
          s.waiting ++ [s.issued] := by
        rw [List.map_append, hwaiting]
        rfl
      refine custody.issue rfl ?_
      change (held Place.number (s.calls ++ [.checking]) ++
        ((requests ++ [(⟨s.issued, buffer⟩ : ReadRequest)]).map ReadRequest.number ++
          s.finished)).Perm _
      rw [inHand_append_checking, hforwarded, State.everywhere, List.append_assoc,
        List.append_assoc, List.append_assoc]
      exact (List.perm_append_comm.append_left _).append_left _
  | emptied h => exact custody.transfer rfl (everywhere_move h rfl)
  | found h hsize => exact custody.transfer rfl (everywhere_move h rfl)
  | drained h => exact custody.transfer rfl (everywhere_move h rfl)
  | @retrieved call request rest h hqueue =>
      have htake : (s.move call (.retrieved request)).inHand.Perm (request.number :: s.inHand) :=
        inHand_take h rfl rfl
      refine custody.transfer rfl ((htake.append_right _).trans ?_)
      rw [State.everywhere, State.waiting, State.waiting, hqueue]
      exact List.perm_middle.symm
  | buffered h hbuffer => exact custody.transfer rfl (everywhere_move h rfl)
  | failed h => exact custody.transfer rfl (everywhere_complete h rfl)
  | @read call request port buffer bytesRead h hread =>
      have hmove : (s.move call (.completing request.number
          (buffer.take bytesRead.toNat))).everywhere.Perm s.everywhere := everywhere_move h rfl
      exact custody.transfer rfl hmove
  | completed h => exact custody.transfer rfl (everywhere_complete h rfl)
  | @cancelled number requests h hmem =>
      have hwaiting : s.waiting = requests.map ReadRequest.number := by
        rw [State.waiting, h]
        rfl
      have hnodup : s.waiting.Nodup := by
        have hall := custody.nodup_iff.mpr List.nodup_range
        exact (List.nodup_append.mp (List.nodup_append.mp hall).2.1).1
      have hremoved := perm_filter_waiting (hwaiting ▸ hnodup) hmem
      refine custody.transfer rfl (List.Perm.append_left _ ?_)
      change ((requests.filter (·.number ≠ number)).map ReadRequest.number ++
        (s.complete number none).finished).Perm _
      rw [finished_complete, hwaiting, ← List.append_assoc]
      refine (List.perm_append_singleton _ _).trans ?_
      exact hremoved.append_right _

end Custody

section Stream

variable {s t : State} {action : Action} {q : FrameQueue}

/-- The ring reads took what the ring no longer holds of the accepted frames. -/
structure Stream (s : State) (q : FrameQueue) : Prop where
  holds : HoldsFrames s.port q
  accepted_eq : s.reads.flatMap Prod.snd ++ q.bytes = s.accepted.flatten

theorem Stream.new : Stream .new .new := ⟨.new, rfl⟩

/-- A step of another kind than a ring read or a queued frame. -/
theorem Stream.congr (stream : Stream s q) (hport : t.port = s.port) (hreads : t.reads = s.reads)
    (haccepted : t.accepted = s.accepted) : Stream t q where
  holds := hport ▸ stream.holds
  accepted_eq := by rw [hreads, haccepted, stream.accepted_eq]

/-- A ring read takes the front of what the ring holds. -/
theorem Stream.read (stream : Stream s q) {request : ReadRequest} {port : ControlRing}
    {buffer : List UInt8} {bytesRead : UInt32}
    (hread : controlRingReadLocked s.port request.buffer.bytes request.buffer.size =
      some (port, buffer, bytesRead)) :
    buffer.take bytesRead.toNat = q.bytes.take request.buffer.bytes.length ∧
      HoldsFrames port { q with bytes := q.bytes.drop request.buffer.bytes.length } := by
  obtain ⟨port', bytes, byteCount, hlocked, hbytes, holds⟩ := stream.holds.readLocked request.buffer
  rw [hread] at hlocked
  obtain ⟨rfl, hresult⟩ := Prod.mk.inj (Option.some.inj hlocked)
  obtain ⟨rfl, rfl⟩ := Prod.mk.inj hresult
  exact ⟨hbytes, holds⟩

theorem Stream.step (stream : Stream s q) (h : Steps s action t) : ∃ q', Stream t q' := by
  cases h with
  | @queued frameType payload port h =>
      obtain ⟨port', hlocked, holds⟩ := stream.holds.queueFrame frameType payload
      rw [h] at hlocked
      obtain ⟨rfl, hstatus⟩ := Prod.mk.inj (Option.some.inj hlocked)
      rw [FrameQueue.push_of_success hstatus.symm] at holds
      refine ⟨_, holds, ?_⟩
      rw [List.flatten_append, ← stream.accepted_eq, holds.sequence, List.append_assoc,
        List.flatten_singleton]
  | @dropped frameType payload port status hstatus h =>
      obtain ⟨port', hlocked, holds⟩ := stream.holds.queueFrame frameType payload
      rw [h] at hlocked
      obtain ⟨rfl, rfl⟩ := Prod.mk.inj (Option.some.inj hlocked)
      rw [FrameQueue.push_of_ne_success hstatus] at holds
      exact ⟨q, holds, stream.accepted_eq⟩
  | @read call request port buffer bytesRead h hread =>
      obtain ⟨hbytes, holds⟩ := stream.read hread
      refine ⟨_, holds, ?_⟩
      change (s.reads ++ [(request.number, buffer.take bytesRead.toNat)]).flatMap Prod.snd ++ _ =
        s.accepted.flatten
      rw [List.flatMap_append, List.flatMap_singleton, hbytes, List.append_assoc,
        List.take_append_drop, stream.accepted_eq]
  | created h => exact ⟨q, stream.congr rfl rfl rfl⟩
  | refused => exact ⟨q, stream.congr rfl rfl rfl⟩
  | forwarded h => exact ⟨q, stream.congr rfl rfl rfl⟩
  | emptied h => exact ⟨q, stream.congr rfl rfl rfl⟩
  | found h hsize => exact ⟨q, stream.congr rfl rfl rfl⟩
  | drained h => exact ⟨q, stream.congr rfl rfl rfl⟩
  | retrieved h hqueue => exact ⟨q, stream.congr rfl rfl rfl⟩
  | buffered h hbuffer => exact ⟨q, stream.congr rfl rfl rfl⟩
  | failed h => exact ⟨q, stream.congr rfl rfl rfl⟩
  | completed h => exact ⟨q, stream.congr rfl rfl rfl⟩
  | cancelled h hmem => exact ⟨q, stream.congr rfl rfl rfl⟩

end Stream

section Order

variable {s t : State} {action : Action} {q : FrameQueue}

def Place.toRead : Place → Option ReadRequest
  | .reading request => some request
  | _ => none

def Place.toComplete : Place → Option Nat
  | .completing number _ => some number
  | _ => none

/-- A ring read finds bytes and no later request was read before it; a request completes after
the earlier ones that were read. -/
def Orderly (s : State) : Action → Prop
  | .readRing call => ∀ request ∈ s.calls[call]?.bind Place.toRead,
      s.port.controlRingSize ≠ 0 ∧ ∀ read ∈ s.reads, read.1 < request.number
  | .completeRequest call => ∀ number ∈ s.calls[call]?.bind Place.toComplete,
      ∀ place ∈ s.calls, ∀ other ∈ place.toComplete, number ≤ other
  | _ => True

instance (s : State) : ∀ action, Decidable (Orderly s action)
  | .readRing call => inferInstanceAs (Decidable (∀ request ∈ s.calls[call]?.bind Place.toRead,
      s.port.controlRingSize ≠ 0 ∧ ∀ read ∈ s.reads, read.1 < request.number))
  | .completeRequest call => inferInstanceAs (Decidable (∀ number ∈
      s.calls[call]?.bind Place.toComplete,
        ∀ place ∈ s.calls, ∀ other ∈ place.toComplete, number ≤ other))
  | .createReadQueue => .isTrue trivial
  | .queueFrame _ _ => .isTrue trivial
  | .controlRead _ _ _ => .isTrue trivial
  | .checkSize _ => .isTrue trivial
  | .retrieveRequest _ => .isTrue trivial
  | .retrieveBuffer _ _ => .isTrue trivial
  | .cancel _ => .isTrue trivial

/-- The ring reads in the order of the requests, and what became of them. -/
structure Ordered (s : State) : Prop where
  sorted : s.reads.Pairwise fun a b => a.1 < b.1
  issued : ∀ read ∈ s.reads, read.1 < s.issued
  nonempty : ∀ read ∈ s.reads, read.2 ≠ []
  buffers : ∀ request, .reading request ∈ s.calls → request.buffer.bytes ≠ []
  completing : ∀ number bytes, .completing number bytes ∈ s.calls → (number, bytes) ∈ s.reads
  success : ∀ completion ∈ s.completed, ∀ bytes, completion.information = some bytes →
    (completion.number, bytes) ∈ s.reads
  pending : ∀ read ∈ s.reads,
    .completing read.1 read.2 ∈ s.calls ∨ ⟨read.1, some read.2⟩ ∈ s.completed
  closed : ∀ read ∈ s.reads, ∀ completion ∈ s.completed, completion.information.isSome →
    read.1 < completion.number → ⟨read.1, some read.2⟩ ∈ s.completed

theorem Ordered.new : Ordered .new := by
  constructor <;> simp [State.new]

/-- A place in which nothing was read. -/
def Place.Quiet : Place → Prop
  | .reading request => request.buffer.bytes ≠ []
  | .completing _ _ => False
  | _ => True

/-- A step in which nothing is read and no read completes. -/
theorem Ordered.quiet (ordered : Ordered s) (hreads : t.reads = s.reads)
    (hissued : s.issued ≤ t.issued)
    (hcompleted : ∀ completion ∈ t.completed,
      completion ∈ s.completed ∨ completion.information = none)
    (hkept : ∀ completion ∈ s.completed, completion ∈ t.completed)
    (hcalls : ∀ place ∈ t.calls, place ∈ s.calls ∨ place.Quiet)
    (hcompleting : ∀ number bytes, .completing number bytes ∈ s.calls →
      .completing number bytes ∈ t.calls) : Ordered t where
  sorted := hreads ▸ ordered.sorted
  issued := by
    rw [hreads]
    exact fun read hread => (ordered.issued read hread).trans_le hissued
  nonempty := hreads ▸ ordered.nonempty
  buffers := by
    intro request hmem
    rcases hcalls _ hmem with hold | hquiet
    · exact ordered.buffers request hold
    · exact hquiet
  completing := by
    intro number bytes hmem
    rw [hreads]
    rcases hcalls _ hmem with hold | hquiet
    · exact ordered.completing number bytes hold
    · exact hquiet.elim
  success := by
    intro completion hmem bytes hbytes
    rw [hreads]
    rcases hcompleted _ hmem with hold | hnone
    · exact ordered.success completion hold bytes hbytes
    · rw [hnone] at hbytes
      cases hbytes
  pending := by
    rw [hreads]
    intro read hread
    rcases ordered.pending read hread with hplace | hdone
    · exact .inl (hcompleting _ _ hplace)
    · exact .inr (hkept _ hdone)
  closed := by
    rw [hreads]
    intro read hread completion hmem hsome hlt
    rcases hcompleted _ hmem with hold | hnone
    · exact hkept _ (ordered.closed read hread completion hold hsome hlt)
    · rw [hnone] at hsome
      cases hsome

/-- A request that a call holds was issued. -/
theorem Custody.lt_issued (custody : Custody s) {place : Place} {number : Nat}
    (hmem : place ∈ s.calls) (hnumber : place.number = some number) : number < s.issued := by
  have hheld : number ∈ s.inHand := mem_held.mpr ⟨place, hmem, hnumber⟩
  exact List.mem_range.mp (custody.subset (List.mem_append_left _ hheld))

theorem Ordered.read (ordered : Ordered s) (custody : Custody s) (stream : Stream s q)
    {call : Nat} {request : ReadRequest} {port : ControlRing} {buffer : List UInt8}
    {bytesRead : UInt32} (h : s.calls[call]? = some (.reading request))
    (hread : controlRingReadLocked s.port request.buffer.bytes request.buffer.size =
      some (port, buffer, bytesRead))
    (hsize : s.port.controlRingSize ≠ 0) (hlater : ∀ read ∈ s.reads, read.1 < request.number) :
    Ordered ({ s with
      port
      reads := s.reads ++ [(request.number, buffer.take bytesRead.toNat)] }.move call
        (.completing request.number (buffer.take bytesRead.toNat))) := by
  have hmem := List.mem_of_getElem? h
  have hnonempty : buffer.take bytesRead.toNat ≠ [] := by
    have hbuffer := ordered.buffers request hmem
    have hring : q.bytes ≠ [] := by
      intro hempty
      have hlength := stream.holds.holds.length_eq
      rw [hempty] at hlength
      exact hsize (UInt32.toNat_inj.mp hlength.symm)
    rw [(stream.read hread).1]
    exact fun hempty => (List.take_eq_nil_iff.mp hempty).elim
      (fun hzero => hbuffer (List.eq_nil_of_length_eq_zero hzero)) hring
  generalize buffer.take bytesRead.toNat = bytes at hnonempty ⊢
  refine ⟨?_, ?_, ?_, ?_, ?_, ?_, ?_, ?_⟩
  · refine List.pairwise_append.mpr ⟨ordered.sorted, List.pairwise_singleton _ _, ?_⟩
    intro read hread new hnew
    rw [List.mem_singleton.mp hnew]
    exact hlater read hread
  · intro read hread
    rcases List.mem_append.mp hread with hold | hnew
    · exact ordered.issued read hold
    · rw [List.mem_singleton.mp hnew]
      exact custody.lt_issued hmem rfl
  · intro read hread
    rcases List.mem_append.mp hread with hold | hnew
    · exact ordered.nonempty read hold
    · rw [List.mem_singleton.mp hnew]
      exact hnonempty
  · intro other hother
    rcases List.mem_or_eq_of_mem_set hother with hold | heq
    · exact ordered.buffers other hold
    · cases heq
  · intro number bytes' hother
    rcases List.mem_or_eq_of_mem_set hother with hold | heq
    · exact List.mem_append_left _ (ordered.completing number bytes' hold)
    · obtain ⟨rfl, rfl⟩ := Place.completing.inj heq
      exact List.mem_append_right _ (List.mem_singleton.mpr rfl)
  · intro completion hcompletion bytes' hbytes
    exact List.mem_append_left _ (ordered.success completion hcompletion bytes' hbytes)
  · intro read hread
    rcases List.mem_append.mp hread with hold | hnew
    · rcases ordered.pending read hold with hplace | hdone
      · exact .inl (mem_set_of_ne h _ hplace fun heq => by cases heq)
      · exact .inr hdone
    · rw [List.mem_singleton.mp hnew]
      refine .inl (List.mem_of_getElem? (List.getElem?_set_self ?_))
      exact (List.getElem?_eq_some_iff.mp h).1
  · intro read hread completion hcompletion hsome hlt
    rcases List.mem_append.mp hread with hold | hnew
    · exact ordered.closed read hold completion hcompletion hsome hlt
    · -- a later request that succeeded was read before
      obtain ⟨bytes', hbytes⟩ := Option.isSome_iff_exists.mp hsome
      have hearlier := hlater _ (ordered.success completion hcompletion bytes' hbytes)
      rw [List.mem_singleton.mp hnew] at hlt
      exact absurd hlt (Nat.lt_asymm hearlier)

theorem Ordered.completed (ordered : Ordered s) {call number : Nat} {bytes : List UInt8}
    (h : s.calls[call]? = some (.completing number bytes))
    (hfirst : ∀ place ∈ s.calls, ∀ other ∈ place.toComplete, number ≤ other) :
    Ordered ((s.complete number (some bytes)).move call .checking) := by
  have hmem := List.mem_of_getElem? h
  refine ⟨ordered.sorted, ordered.issued, ordered.nonempty, ?_, ?_, ?_, ?_, ?_⟩
  · intro request hrequest
    rcases List.mem_or_eq_of_mem_set hrequest with hold | heq
    · exact ordered.buffers request hold
    · cases heq
  · intro number' bytes' hother
    rcases List.mem_or_eq_of_mem_set hother with hold | heq
    · exact ordered.completing number' bytes' hold
    · cases heq
  · intro completion hcompletion bytes' hbytes
    rcases List.mem_append.mp hcompletion with hold | hnew
    · exact ordered.success completion hold bytes' hbytes
    · obtain rfl := List.mem_singleton.mp hnew
      obtain rfl := Option.some.inj hbytes
      exact ordered.completing number bytes hmem
  · intro read hread
    rcases ordered.pending read hread with hplace | hdone
    · by_cases heq : Place.completing read.1 read.2 = .completing number bytes
      · obtain ⟨hnumber, hbytes⟩ := Place.completing.inj heq
        rw [hnumber, hbytes]
        exact .inr (List.mem_append_right _ (List.mem_singleton.mpr rfl))
      · exact .inl (mem_set_of_ne h _ hplace heq)
    · exact .inr (List.mem_append_left _ hdone)
  · intro read hread completion hcompletion hsome hlt
    refine List.mem_append_left _ ?_
    rcases List.mem_append.mp hcompletion with hold | hnew
    · exact ordered.closed read hread completion hold hsome hlt
    · rw [List.mem_singleton.mp hnew] at hlt
      rcases ordered.pending read hread with hplace | hdone
      · exact absurd hlt (Nat.not_lt_of_le (hfirst _ hplace _ rfl))
      · exact hdone

theorem mem_complete (s : State) (number : Nat) (information : Option (List UInt8))
    {completion : Completion} (h : completion ∈ (s.complete number information).completed) :
    completion ∈ s.completed ∨ completion.information = information := by
  rcases List.mem_append.mp h with hold | hnew
  · exact .inl hold
  · rw [List.mem_singleton.mp hnew]
    exact .inr rfl

/-- A call that holds no bytes moves to a place where it has read nothing. -/
theorem Ordered.move (ordered : Ordered s) {call : Nat} {before : Place} (after : Place)
    (h : s.calls[call]? = some before) (hbefore : before.toComplete = none)
    (hafter : after.Quiet) (hreads : t.reads = s.reads) (hissued : t.issued = s.issued)
    (hcompleted : ∀ completion ∈ t.completed,
      completion ∈ s.completed ∨ completion.information = none)
    (hkept : ∀ completion ∈ s.completed, completion ∈ t.completed)
    (hcalls : t.calls = s.calls.set call after) : Ordered t := by
  refine ordered.quiet hreads hissued.ge hcompleted hkept ?_ ?_
  · rw [hcalls]
    intro place hplace
    rcases List.mem_or_eq_of_mem_set hplace with hold | rfl
    · exact .inl hold
    · exact .inr hafter
  · rw [hcalls]
    intro number bytes hplace
    refine mem_set_of_ne h _ hplace fun heq => ?_
    rw [← heq] at hbefore
    cases hbefore

/-- A new call has read nothing. -/
theorem Ordered.call (ordered : Ordered s) (hreads : t.reads = s.reads)
    (hissued : s.issued ≤ t.issued) (hcompleted : t.completed = s.completed)
    (hcalls : t.calls = s.calls ++ [.checking]) : Ordered t := by
  refine ordered.quiet hreads hissued ?_ ?_ ?_ ?_
  · exact fun completion hmem => .inl (hcompleted ▸ hmem)
  · exact fun completion hmem => hcompleted ▸ hmem
  · rw [hcalls]
    intro place hplace
    rcases List.mem_append.mp hplace with hold | hnew
    · exact .inl hold
    · rw [List.mem_singleton.mp hnew]
      exact .inr trivial
  · rw [hcalls]
    exact fun number bytes hplace => List.mem_append_left _ hplace

/-- A step of the framework alone. -/
theorem Ordered.framework (ordered : Ordered s) (hreads : t.reads = s.reads)
    (hissued : s.issued ≤ t.issued) (hcalls : t.calls = s.calls)
    (hcompleted : ∀ completion ∈ t.completed,
      completion ∈ s.completed ∨ completion.information = none)
    (hkept : ∀ completion ∈ s.completed, completion ∈ t.completed) : Ordered t :=
  ordered.quiet hreads hissued hcompleted hkept (fun _ h => .inl (hcalls ▸ h))
    fun _ _ h => hcalls ▸ h

/-- Every orderly step keeps the order. -/
theorem Ordered.step (ordered : Ordered s) (custody : Custody s) (stream : Stream s q)
    (orderly : Orderly s action) (h : Steps s action t) : Ordered t := by
  have hsame : ∀ completion ∈ s.completed,
      completion ∈ s.completed ∨ completion.information = none := fun _ h => .inl h
  have hkept : ∀ completion ∈ s.completed, completion ∈ s.completed := fun _ h => h
  have hfailed : ∀ number, ∀ completion ∈ (s.complete number none).completed,
      completion ∈ s.completed ∨ completion.information = none := fun _ _ => mem_complete s _ _
  have hgrown : ∀ number, ∀ completion ∈ s.completed,
      completion ∈ (s.complete number none).completed := fun _ _ => List.mem_append_left _
  cases h with
  | created h => exact ordered.framework rfl le_rfl rfl hsame hkept
  | queued h => exact ordered.call rfl le_rfl rfl rfl
  | dropped hstatus h => exact ordered.framework rfl le_rfl rfl hsame hkept
  | refused => exact ordered.framework rfl (Nat.le_succ _) rfl (hfailed _) (hgrown _)
  | forwarded h => exact ordered.call rfl (Nat.le_succ _) rfl rfl
  | emptied h => exact ordered.move .returned h rfl trivial rfl rfl hsame hkept rfl
  | found h hsize => exact ordered.move .retrieving h rfl trivial rfl rfl hsame hkept rfl
  | drained h => exact ordered.move .returned h rfl trivial rfl rfl hsame hkept rfl
  | retrieved h hqueue => exact ordered.move (.retrieved _) h rfl trivial rfl rfl hsame hkept rfl
  | buffered h hbuffer => exact ordered.move (.reading _) h rfl hbuffer rfl rfl hsame hkept rfl
  | failed h => exact ordered.move .checking h rfl trivial rfl rfl (hfailed _) (hgrown _) rfl
  | @read call request port buffer bytesRead h hread =>
      obtain ⟨hsize, hlater⟩ := orderly request (by rw [h]; rfl)
      exact ordered.read custody stream h hread hsize hlater
  | @completed call number bytes h =>
      exact ordered.completed h (orderly number (by rw [h]; rfl))
  | cancelled h hmem => exact ordered.framework rfl le_rfl rfl (hfailed _) (hgrown _)

end Order

section Run

variable {s t : State} {action : Action} {actions : List Action}

/-- What holds in every state of an orderly run. -/
structure Inv (s : State) : Prop where
  custody : Custody s
  stream : ∃ q, Stream s q
  ordered : Ordered s

theorem Inv.new : Inv .new := ⟨.new, ⟨.new, .new⟩, .new⟩

theorem Inv.step (inv : Inv s) (orderly : Orderly s action) (h : step s action = some t) :
    Inv t := by
  have hsteps := steps_of_step h
  obtain ⟨q, stream⟩ := inv.stream
  exact ⟨inv.custody.step hsteps, stream.step hsteps,
    inv.ordered.step inv.custody stream orderly hsteps⟩

/-- The completions of a number are at most one. -/
theorem Custody.filter_completed (custody : Custody s) {completion : Completion}
    (h : completion ∈ s.completed) :
    s.completed.filter (·.number = completion.number) = [completion] := by
  have hnodup : s.finished.Nodup := by
    have hall := custody.nodup_iff.mpr List.nodup_range
    exact (List.nodup_append.mp (List.nodup_append.mp hall).2.1).2.1
  have hsame : ∀ other ∈ s.completed,
      decide (other.number = completion.number) = (other == completion) := by
    intro other hother
    rw [beq_eq_decide]
    refine decide_eq_decide.mpr ⟨List.inj_on_of_nodup_map hnodup hother h, ?_⟩
    rintro rfl
    rfl
  rw [List.filter_congr hsame, List.filter_beq,
    List.count_eq_one_of_mem (List.Nodup.of_map _ hnodup) h]
  rfl

/-- The requests that completed return the bytes that they read. -/
theorem Inv.delivered_eq (inv : Inv s) :
    s.delivered =
      (s.reads.filter fun read => ⟨read.1, some read.2⟩ ∈ s.completed).flatMap Prod.snd := by
  rw [State.delivered, List.range_eq_range']
  refine flatMap_range'_eq ?_ ?_ ?_ ?_
  · exact inv.ordered.sorted.sublist List.filter_sublist
  · intro read hread
    have hissued := inv.ordered.issued read (List.mem_of_mem_filter hread)
    exact ⟨Nat.zero_le _, by omega⟩
  · intro read hread
    have hdone := of_decide_eq_true (List.mem_filter.mp hread).2
    rw [State.returned, inv.custody.filter_completed hdone, List.flatMap_singleton]
    rfl
  · intro number _ hnone
    refine List.flatMap_eq_nil_iff.mpr fun completion hcompletion => ?_
    obtain ⟨hmem, hnumber⟩ := List.mem_filter.mp hcompletion
    cases hbytes : completion.information with
    | none => rfl
    | some bytes =>
        -- a successful completion was read
        have hread := inv.ordered.success completion hmem bytes hbytes
        refine absurd (of_decide_eq_true hnumber) (hnone _ (List.mem_filter.mpr ⟨hread, ?_⟩))
        rw [← hbytes]
        exact decide_eq_true hmem

theorem Inv.delivers (inv : Inv s) : Delivers s where
  nonempty := by
    intro completion hmem hempty
    exact inv.ordered.nonempty _ (inv.ordered.success completion hmem [] hempty) rfl
  in_order := by
    obtain ⟨q, stream⟩ := inv.stream
    have hfront : (s.reads.filter fun read => ⟨read.1, some read.2⟩ ∈ s.completed) <+: s.reads := by
      refine filter_front (inv.ordered.sorted.imp_of_mem ?_)
      intro earlier later hearlier _ hlt hdone
      exact decide_eq_true (inv.ordered.closed earlier hearlier _ (of_decide_eq_true hdone) rfl hlt)
    rw [inv.delivered_eq, ← stream.accepted_eq]
    exact (hfront.flatMap _).trans (List.prefix_append _ _)

/-- In every orderly run no successful read is empty, and the reads return a front of the
accepted frames. -/
theorem delivers_of_orderly (run : GuardedRun step Orderly .new actions t) : Delivers t :=
  (run.invariant (fun _ _ _ inv orderly h => inv.step orderly h) Inv.new).delivers

/-- The buffer of a read of a frame header. -/
def headerRead : Buffer := ⟨List.replicate 16 0, by decide⟩

/-- The buffer of a read of a payload of one byte. -/
def payloadRead : Buffer := ⟨[0], by decide⟩

/-- Two calls serve the two reads of one frame, and overlap. -/
def overlapping : List Action :=
  [.createReadQueue, .controlRead headerRead true true, .checkSize 0,
    .queueFrame 2 ⟨[0x05], by decide⟩, .controlRead payloadRead true true, .checkSize 1,
    .checkSize 2, .retrieveRequest 1, .retrieveRequest 2, .retrieveBuffer 2 true,
    .retrieveBuffer 1 true, .readRing 1, .readRing 2, .completeRequest 1, .completeRequest 2]

theorem delivers_overlapping : ∃ t, GuardedRun step Orderly .new overlapping t ∧
    t.delivered.length = 17 ∧ Delivers t := by
  have hrun : ∃ t, GuardedRun step Orderly .new overlapping t ∧ t.delivered.length = 17 :=
    exists_guardedRun_of_any (by decide +kernel)
  obtain ⟨t, run, hlength⟩ := hrun
  exact ⟨t, run, hlength, delivers_of_orderly run⟩

/-- The call of the frame passes its size check and retrieves a request when the reads of the
daemon have emptied the ring. -/
def emptiedRing : List Action :=
  [.createReadQueue, .controlRead headerRead true true, .queueFrame 2 ⟨[0x05], by decide⟩,
    .checkSize 0, .checkSize 1, .retrieveRequest 0, .retrieveBuffer 0 true, .readRing 0,
    .completeRequest 0, .checkSize 0, .retrieveRequest 0, .controlRead payloadRead true true,
    .checkSize 2, .retrieveRequest 2, .retrieveBuffer 2 true, .readRing 2, .completeRequest 2,
    .checkSize 2, .controlRead headerRead true true, .checkSize 3, .retrieveRequest 1,
    .retrieveBuffer 1 true, .readRing 1, .completeRequest 1]

/-- Two calls read the ring in the other order than they retrieved their requests. -/
def overtakenRead : List Action :=
  [.createReadQueue, .controlRead headerRead true true, .controlRead payloadRead true true,
    .queueFrame 2 ⟨[0x05], by decide⟩, .checkSize 0, .checkSize 1, .retrieveRequest 0,
    .retrieveRequest 1, .retrieveBuffer 0 true, .retrieveBuffer 1 true, .readRing 1, .readRing 0,
    .completeRequest 0, .completeRequest 1]

theorem races_of_completers :
    (∃ t, Run step .new emptiedRing t ∧ ⟨2, some []⟩ ∈ t.completed ∧ ¬Delivers t) ∧
      ∃ t, Run step .new overtakenRead t ∧ ¬t.delivered <+: t.accepted.flatten ∧ ¬Delivers t :=
  ⟨exists_run_of_execute (by decide +kernel), exists_run_of_execute (by decide +kernel)⟩

end Run

end VirtualDualSense.WinDrv.ControlReads
