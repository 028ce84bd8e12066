import VirtualDualSense.Protocol.FrameStreams
import VirtualDualSense.WinDrv.ControlReads

/-!
# The frames that the daemon reads

The thread of a bridge reads its port through `read_handle_frame`, with one request at a time.
Whatever the completers of the driver do at the same time, the frames that it reads are the
first frames that the driver queued, in their order and unchanged.

## Implementation notes

The driver is that of the completers' model, and no other reads are issued. The memory behind
a read is arbitrary. A read that completed may still be lost to the stop event.
-/

namespace VirtualDualSense.WinDrv.FrameReads

open Lib.Holders Lib.LittleEndian Lib.Runs Lib.Words ByteRings
open ControlReads (Place ReadRequest Completion Custody Steps Stream steps_of_step)
open Protocol.FrameStreams

section Model

/-- The driver and the daemon's reader, which waits for one request at most. -/
structure State where
  driver : ControlReads.State
  reader : Reader
  pending : Option Nat

def State.new : State := ⟨.new, .new, none⟩

inductive Action
  | driver (action : ControlReads.Action)
  | readFile (memory : Buffer) (ready forwards : Bool)
  | finish (stopRequested : Bool) (reason : String)
  | stopEvent

/-- `finish_overlapped_io`, when the request has completed. -/
def finishOverlappedIo (reader : Reader) (information : Option (List UInt8))
    (stopRequested : Bool) (reason : String) : Reader :=
  match information with
  | some bytes => reader.receive bytes
  | none => { reader with error := some (if stopRequested then .stopped else .failed reason) }

/-- The request that the reader waits for. -/
def State.completion (s : State) : Option Completion :=
  s.pending.bind fun number => s.driver.completed.find? (·.number = number)

def step (s : State) : Action → Option State
  | .driver (.controlRead _ _ _) => none
  | .driver action => (ControlReads.step s.driver action).map fun driver => { s with driver }
  | .readFile memory ready forwards =>
      if s.reader.error = none ∧ s.pending = none ∧ memory.bytes.length = s.reader.remaining then
        (ControlReads.step s.driver (.controlRead memory ready forwards)).map fun driver =>
          { s with driver, pending := some s.driver.issued }
      else none
  | .finish stopRequested reason =>
      s.completion.map fun completion =>
        { s with
          reader := finishOverlappedIo s.reader completion.information stopRequested reason
          pending := none }
  | .stopEvent =>
      s.completion.map fun _ =>
        { s with reader := { s.reader with error := some .stopped }, pending := none }

end Model

section Statement

/-- A frame that the driver queued. -/
structure Frame.Queued (frame : Frame) : Prop where
  sized : frame.Sized
  short : frame.header.length.toNat ≤ Protocol.Frames.frameMaxPayload
  flags : frame.header.flags = 0

/-- The frames that were read are the first that were queued, which are numbered from one. -/
structure Conveys (s : State) (sent : List Frame) : Prop where
  accepted : s.driver.accepted = sent.map Frame.bytes
  queued : ∀ frame ∈ sent, Frame.Queued frame
  numbered : ∀ index frame, sent[index]? = some frame →
    frame.header.sequence = UInt64.ofNat (index + 1)
  front : s.reader.frames <+: sent
  accepts : ∀ length, s.reader.error ≠ some (.oversized length)
  all : s.reader.error = none → s.pending = none → s.driver.port.controlRingSize = 0 →
    s.reader.frames = sent

end Statement

section Slot

variable {d d' : ControlReads.State} {action : ControlReads.Action} {number size : Nat}
  {stream : List UInt8} {q : FrameQueue}

/-- The bytes that were read from the ring. -/
def readBytes (d : ControlReads.State) : List UInt8 := d.reads.flatMap Prod.snd

/-- The requests that have not read the ring yet. -/
def Unread (d : ControlReads.State) (request : ReadRequest) : Prop :=
  request ∈ d.controlReadQueue.getD [] ∨ .retrieved request ∈ d.calls ∨ .reading request ∈ d.calls

/-- What became of the only request that is not settled, behind the stream that was read. -/
inductive Slot (d : ControlReads.State) (number size : Nat) (stream : List UInt8) : Prop
  | unread (hflight : (d.inHand ++ d.waiting).Perm [number])
      (hsize : ∀ request, Unread d request → request.buffer.bytes.length = size)
      (hplaces : ∀ bytes, .completing number bytes ∉ d.calls) (hread : readBytes d = stream)
  | read (bytes : List UInt8) (hflight : (d.inHand ++ d.waiting).Perm [number])
      (hplace : .completing number bytes ∈ d.calls) (hsize : bytes.length ≤ size)
      (hread : readBytes d = stream ++ bytes)
  | answered (completion : Completion) (hflight : d.inHand ++ d.waiting = [])
      (hmem : completion ∈ d.completed) (hnumber : completion.number = number)
      (hsize : (completion.information.getD []).length ≤ size)
      (hread : readBytes d = stream ++ completion.information.getD [])

/-- No request is in flight. -/
structure Quiet (d : ControlReads.State) (stream : List UInt8) : Prop where
  flight : d.inHand ++ d.waiting = []
  read : readBytes d = stream

/-- A call that holds a request has it in flight. -/
theorem mem_inHand {call held : Nat} {place : Place} (h : d.calls[call]? = some place)
    (hheld : place.number = some held) : held ∈ d.inHand :=
  mem_held.mpr ⟨place, List.mem_of_getElem? h, hheld⟩

theorem eq_of_flight (hflight : (d.inHand ++ d.waiting).Perm [number]) {call held : Nat}
    {place : Place} (h : d.calls[call]? = some place) (hheld : place.number = some held) :
    held = number :=
  List.mem_singleton.mp (hflight.subset (List.mem_append_left _ (mem_inHand h hheld)))

/-- When a call holds the only request, the queue is empty. -/
theorem waiting_eq_nil (hflight : (d.inHand ++ d.waiting).Perm [number]) {call held : Nat}
    {place : Place} (h : d.calls[call]? = some place) (hheld : place.number = some held) :
    d.waiting = [] := by
  have hlength := hflight.length_eq
  have hpos := List.length_pos_of_mem (mem_inHand h hheld)
  rw [List.length_append, List.length_singleton] at hlength
  exact List.eq_nil_of_length_eq_zero (by omega)

/-- A request that is in one call is in no other. -/
theorem place_eq_of_flight (hflight : (d.inHand ++ d.waiting).Perm [number]) {call held other : Nat}
    {place place' : Place} (h : d.calls[call]? = some place) (hheld : place.number = some held)
    (hmem : place' ∈ d.calls) (hother : place'.number = some other) : place' = place := by
  by_contra hne
  have hset : (held :: (d.move call .returned).inHand).Perm d.inHand :=
    ControlReads.inHand_give h hheld rfl
  have hkept : other ∈ (d.move call .returned).inHand :=
    mem_held.mpr ⟨place', mem_set_of_ne h _ hmem hne, hother⟩
  have hlength := hflight.length_eq
  have hpos := List.length_pos_of_mem hkept
  rw [List.length_append, List.length_singleton, ← hset.length_eq, List.length_cons] at hlength
  omega

/-- A call that reads nothing from the ring and completes nothing. -/
theorem mem_move_iff {call : Nat} {before after place : Place}
    (h : d.calls[call]? = some before) (hbefore : before ≠ place) (hafter : after ≠ place) :
    place ∈ (d.move call after).calls ↔ place ∈ d.calls := by
  constructor
  · intro hmem
    rcases List.mem_or_eq_of_mem_set hmem with hold | heq
    · exact hold
    · exact absurd heq.symm hafter
  · exact fun hmem => mem_set_of_ne h _ hmem hbefore.symm

theorem unread_of_move {call : Nat} {after : Place} {request : ReadRequest}
    (hretrieved : after ≠ .retrieved request) (hreading : after ≠ .reading request)
    (h : Unread (d.move call after) request) : Unread d request := by
  rcases h with hqueue | hplace | hplace
  · exact .inl hqueue
  · rcases List.mem_or_eq_of_mem_set hplace with hold | heq
    · exact .inr (.inl hold)
    · exact absurd heq.symm hretrieved
  · rcases List.mem_or_eq_of_mem_set hplace with hold | heq
    · exact .inr (.inr hold)
    · exact absurd heq.symm hreading

/-- What a step of a kind that moves no request out of its slot keeps. -/
structure Keeps (d d' : ControlReads.State) : Prop where
  flight : (d'.inHand ++ d'.waiting).Perm (d.inHand ++ d.waiting)
  unread : ∀ request, Unread d' request → Unread d request
  places : ∀ number bytes, .completing number bytes ∈ d'.calls ↔ .completing number bytes ∈ d.calls
  completed : d'.completed = d.completed
  reads : d'.reads = d.reads

theorem Keeps.readBytes_eq (keeps : Keeps d d') : readBytes d' = readBytes d := by
  rw [readBytes, readBytes, keeps.reads]

theorem Keeps.slot (keeps : Keeps d d') (slot : Slot d number size stream) :
    Slot d' number size stream := by
  have hread := keeps.readBytes_eq
  cases slot with
  | unread hflight hsize hplaces hstream =>
      exact .unread (keeps.flight.trans hflight) (fun r hr => hsize r (keeps.unread r hr))
        (fun bytes hmem => hplaces bytes ((keeps.places number bytes).mp hmem))
        (hread.trans hstream)
  | read bytes hflight hplace hsize hstream =>
      exact .read bytes (keeps.flight.trans hflight) ((keeps.places number bytes).mpr hplace) hsize
        (hread.trans hstream)
  | answered completion hflight hmem hnumber hsize hstream =>
      exact .answered completion (List.perm_nil.mp (hflight ▸ keeps.flight))
        (keeps.completed ▸ hmem) hnumber hsize (hread.trans hstream)

theorem Keeps.quiet (keeps : Keeps d d') (quiet : Quiet d stream) : Quiet d' stream where
  flight := List.perm_nil.mp (quiet.flight ▸ keeps.flight)
  read := keeps.readBytes_eq.trans quiet.read

theorem Keeps.move {call : Nat} {before after : Place} (h : d.calls[call]? = some before)
    (hsame : after.number = before.number)
    (hbefore : ∀ number bytes, before ≠ .completing number bytes)
    (hafter : ∀ number bytes, after ≠ .completing number bytes)
    (hunread : ∀ request, Unread (d.move call after) request → Unread d request) :
    Keeps d (d.move call after) where
  flight := (ControlReads.inHand_move h hsame).append_right _
  unread := hunread
  places := fun number bytes => mem_move_iff h (hbefore number bytes) (hafter number bytes)
  completed := rfl
  reads := rfl

/-- A new call holds nothing. -/
theorem Keeps.call (hcalls : d'.calls = d.calls ++ [.checking])
    (hqueue : d'.controlReadQueue = d.controlReadQueue) (hcompleted : d'.completed = d.completed)
    (hreads : d'.reads = d.reads) : Keeps d d' where
  flight := by
    rw [ControlReads.State.inHand, ControlReads.State.waiting, hcalls, hqueue,
      ControlReads.inHand_append_checking]
    exact .refl _
  unread := by
    intro request h
    rw [Unread, hcalls, hqueue, List.mem_append, List.mem_append] at h
    rcases h with hqueue | (hplace | hplace) | (hplace | hplace)
    · exact .inl hqueue
    · exact .inr (.inl hplace)
    · cases List.mem_singleton.mp hplace
    · exact .inr (.inr hplace)
    · cases List.mem_singleton.mp hplace
  places := by
    intro number bytes
    rw [hcalls, List.mem_append]
    refine or_iff_left fun hplace => ?_
    cases List.mem_singleton.mp hplace
  completed := hcompleted
  reads := hreads

theorem flight_eq_nil {held : Nat} {inHand waiting : List Nat}
    (hflight : (d.inHand ++ d.waiting).Perm [number])
    (h : (held :: (inHand ++ waiting)).Perm (d.inHand ++ d.waiting)) : inHand ++ waiting = [] := by
  have hlength := (h.trans hflight).length_eq
  exact List.eq_nil_of_length_eq_zero (Nat.succ.inj hlength)

theorem not_flight {p : Prop} (hflight : d.inHand ++ d.waiting = []) {call held : Nat}
    {place : Place} (h : d.calls[call]? = some place) (hheld : place.number = some held) : p := by
  have hmem := List.mem_append_left d.waiting (mem_inHand h hheld)
  rw [hflight] at hmem
  cases hmem

theorem not_waiting {p : Prop} (hwaiting : d.waiting = []) {requests : List ReadRequest}
    {request : ReadRequest} (hqueue : d.controlReadQueue = some requests)
    (hmem : request ∈ requests) : p := by
  rw [ControlReads.State.waiting, hqueue] at hwaiting
  have hnil : requests = [] := List.map_eq_nil_iff.mp hwaiting
  rw [hnil] at hmem
  cases hmem

/-- A request that the framework or a failing call completes has read nothing. -/
theorem Slot.refuse (slot : Slot d number size stream) {request : ReadRequest}
    (hunread : Unread d request)
    (hflight : (request.number :: (d'.inHand ++ d'.waiting)).Perm (d.inHand ++ d.waiting))
    (hcompleted : d'.completed = d.completed ++ [⟨request.number, none⟩])
    (hreads : d'.reads = d.reads) : Slot d' number size stream := by
  have hmem : (⟨request.number, none⟩ : Completion) ∈ d'.completed := by
    rw [hcompleted]
    exact List.mem_append_right _ (List.mem_singleton.mpr rfl)
  have hread : readBytes d' = readBytes d := by rw [readBytes, readBytes, hreads]
  cases slot with
  | unread hone hsize hplaces hstream =>
      have hnumber : request.number = number :=
        List.mem_singleton.mp (hone.subset (hflight.subset List.mem_cons_self))
      refine .answered _ (flight_eq_nil hone hflight) hmem hnumber (Nat.zero_le _) ?_
      rw [hread, hstream]
      exact (List.append_nil _).symm
  | read bytes hone hplace hsize hstream =>
      -- the request of the slot has read
      exfalso
      obtain ⟨call, hcall⟩ := List.mem_iff_getElem?.mp hplace
      rcases hunread with hqueue | hother | hother
      · cases hrequests : d.controlReadQueue with
        | none =>
            rw [hrequests] at hqueue
            cases hqueue
        | some requests =>
            rw [hrequests] at hqueue
            exact not_waiting (waiting_eq_nil hone hcall rfl) hrequests hqueue
      · cases place_eq_of_flight hone hcall rfl hother rfl
      · cases place_eq_of_flight hone hcall rfl hother rfl
  | answered completion hnone hold hnumber hsize hstream =>
      rw [hnone] at hflight
      exact absurd hflight.length_eq (Nat.succ_ne_zero _)

/-- The only request reads the ring. -/
theorem Slot.readRing (slot : Slot d number size stream) {call : Nat} {request : ReadRequest}
    {bytes : List UInt8} {port : ControlRing} (h : d.calls[call]? = some (.reading request))
    (hbytes : bytes.length ≤ request.buffer.bytes.length) :
    Slot ({ d with port, reads := d.reads ++ [(request.number, bytes)] }.move call
      (.completing request.number bytes)) number size stream := by
  have hmem := List.mem_of_getElem? h
  have hmove : (d.move call (.completing request.number bytes)).inHand.Perm d.inHand :=
    ControlReads.inHand_move h rfl
  have hflight := hmove.append_right d.waiting
  cases slot with
  | unread hone hsize hplaces hstream =>
      have hnumber := eq_of_flight hone h rfl
      refine .read bytes (hflight.trans hone) ?_ ?_ ?_
      · rw [← hnumber]
        exact List.mem_of_getElem? (List.getElem?_set_self (List.getElem?_eq_some_iff.mp h).1)
      · exact hbytes.trans (hsize request (.inr (.inr hmem))).le
      · change (d.reads ++ [(request.number, bytes)]).flatMap Prod.snd = _
        rw [List.flatMap_append, List.flatMap_singleton]
        exact congrArg (· ++ bytes) hstream
  | read bytes' hone hplace hsize hstream => cases place_eq_of_flight hone h rfl hplace rfl
  | answered completion hnone hold hnumber hsize hstream => exact not_flight hnone h rfl

/-- The only request completes with what it read. -/
theorem Slot.complete (slot : Slot d number size stream) {call held : Nat} {bytes : List UInt8}
    (h : d.calls[call]? = some (.completing held bytes)) :
    Slot ((d.complete held (some bytes)).move call .checking) number size stream := by
  have hmem := List.mem_of_getElem? h
  cases slot with
  | unread hone hsize hplaces hstream =>
      obtain rfl := eq_of_flight hone h rfl
      exact absurd hmem (hplaces bytes)
  | read bytes' hone hplace hsize hstream =>
      obtain ⟨rfl, rfl⟩ := Place.completing.inj (place_eq_of_flight hone h rfl hplace rfl)
      have hgive : (number :: (d.move call .checking).inHand).Perm d.inHand :=
        ControlReads.inHand_give h rfl rfl
      have hflight : (d.move call .checking).inHand ++ d.waiting = [] :=
        flight_eq_nil hone (hgive.append_right _)
      exact .answered ⟨number, some bytes'⟩ hflight
        (List.mem_append_right _ (List.mem_singleton.mpr rfl)) rfl hsize hstream
  | answered completion hnone hold hnumber hsize hstream => exact not_flight hnone h rfl

end Slot

section Steps

variable {d d' : ControlReads.State} {action : ControlReads.Action} {number size : Nat}
  {stream : List UInt8} {q : FrameQueue}

/-- What a step of the driver does to the requests, when no request is issued. -/
inductive Effect (d d' : ControlReads.State) : Prop
  | keeps (keeps : Keeps d d')
  | refuses (request : ReadRequest) (hunread : Unread d request)
      (hflight : (request.number :: (d'.inHand ++ d'.waiting)).Perm (d.inHand ++ d.waiting))
      (hcompleted : d'.completed = d.completed ++ [⟨request.number, none⟩])
      (hreads : d'.reads = d.reads)
  | reads (call : Nat) (request : ReadRequest) (port : ControlRing) (bytes : List UInt8)
      (h : d.calls[call]? = some (.reading request))
      (hbytes : bytes.length ≤ request.buffer.bytes.length)
      (heq : d' = { d with port, reads := d.reads ++ [(request.number, bytes)] }.move call
        (.completing request.number bytes))
  | completes (call held : Nat) (bytes : List UInt8)
      (h : d.calls[call]? = some (.completing held bytes))
      (heq : d' = (d.complete held (some bytes)).move call .checking)

theorem effect_of_steps (custody : Custody d) (stream : Stream d q) (h : Steps d action d')
    (haction : ∀ buffer ready forwards, action ≠ .controlRead buffer ready forwards) :
    Effect d d' := by
  cases h with
  | created h =>
      refine .keeps ⟨.of_eq ?_, ?_, fun _ _ => Iff.rfl, rfl, rfl⟩
      · rw [ControlReads.State.waiting, ControlReads.State.waiting, h]
        rfl
      · intro request hunread
        rcases hunread with hqueue | hplace
        · cases hqueue
        · exact .inr hplace
  | queued h => exact .keeps (.call rfl rfl rfl rfl)
  | dropped hstatus h =>
      exact .keeps ⟨.refl _, fun _ h => h, fun _ _ => Iff.rfl, rfl, rfl⟩
  | refused => exact absurd rfl (haction _ _ _)
  | forwarded h => exact absurd rfl (haction _ _ _)
  | emptied h =>
      refine .keeps (.move h rfl ?_ ?_ fun _ => unread_of_move ?_ ?_)
      all_goals intros; exact fun heq => by cases heq
  | found h hsize =>
      refine .keeps (.move h rfl ?_ ?_ fun _ => unread_of_move ?_ ?_)
      all_goals intros; exact fun heq => by cases heq
  | drained h =>
      refine .keeps (.move h rfl ?_ ?_ fun _ => unread_of_move ?_ ?_)
      all_goals intros; exact fun heq => by cases heq
  | @retrieved call request rest h hqueue =>
      have htake : (d.move call (.retrieved request)).inHand.Perm (request.number :: d.inHand) :=
        ControlReads.inHand_take h rfl rfl
      refine .keeps ⟨?_, ?_, ?_, rfl, rfl⟩
      · refine (htake.append_right _).trans ?_
        rw [ControlReads.State.waiting, ControlReads.State.waiting, hqueue]
        exact List.perm_middle.symm
      · intro other hunread
        rcases hunread with hrest | hplace | hplace
        · refine .inl ?_
          rw [hqueue]
          exact List.mem_cons_of_mem _ hrest
        · rcases List.mem_or_eq_of_mem_set hplace with hold | heq
          · exact .inr (.inl hold)
          · obtain rfl := Place.retrieved.inj heq
            refine .inl ?_
            rw [hqueue]
            exact List.mem_cons_self
        · rcases List.mem_or_eq_of_mem_set hplace with hold | heq
          · exact .inr (.inr hold)
          · cases heq
      · intro number bytes
        exact mem_move_iff h (fun heq => by cases heq) (fun heq => by cases heq)
  | @buffered call request h hbuffer =>
      refine .keeps (.move h rfl ?_ ?_ ?_)
      · exact fun _ _ heq => by cases heq
      · exact fun _ _ heq => by cases heq
      · intro other hunread
        rcases hunread with hqueue | hplace | hplace
        · exact .inl hqueue
        · rcases List.mem_or_eq_of_mem_set hplace with hold | heq
          · exact .inr (.inl hold)
          · cases heq
        · rcases List.mem_or_eq_of_mem_set hplace with hold | heq
          · exact .inr (.inr hold)
          · obtain rfl := Place.reading.inj heq
            exact .inr (.inl (List.mem_of_getElem? h))
  | @failed call request succeeds h =>
      have hgive : (request.number :: (d.move call .checking).inHand).Perm d.inHand :=
        ControlReads.inHand_give h rfl rfl
      exact .refuses request (.inr (.inl (List.mem_of_getElem? h))) (hgive.append_right _) rfl rfl
  | @read call request port buffer bytesRead h hread =>
      refine .reads call request port _ h ?_ rfl
      rw [(stream.read hread).1]
      exact List.length_take_le _ _
  | completed h => exact .completes _ _ _ h rfl
  | @cancelled number requests h hmem =>
      obtain ⟨request, hrequest, rfl⟩ := hmem
      have hwaiting : d.waiting = requests.map ReadRequest.number := by
        rw [ControlReads.State.waiting, h]
        rfl
      have hnodup : d.waiting.Nodup := by
        have hall := custody.nodup_iff.mpr List.nodup_range
        exact (List.nodup_append.mp (List.nodup_append.mp hall).2.1).1
      have hremoved := ControlReads.perm_filter_waiting (hwaiting ▸ hnodup)
        ⟨request, hrequest, rfl⟩
      refine .refuses request (.inl ?_) ?_ rfl rfl
      · rw [h]
        exact hrequest
      · refine List.perm_middle.symm.trans ?_
        rw [hwaiting]
        exact hremoved.append_left _

theorem Effect.slot (effect : Effect d d') (slot : Slot d number size stream) :
    Slot d' number size stream := by
  cases effect with
  | keeps keeps => exact keeps.slot slot
  | refuses request hunread hflight hcompleted hreads =>
      exact slot.refuse hunread hflight hcompleted hreads
  | reads call request port bytes h hbytes heq =>
      subst heq
      exact slot.readRing h hbytes
  | completes call held bytes h heq =>
      subst heq
      exact slot.complete h

theorem Effect.quiet (effect : Effect d d') (quiet : Quiet d stream) : Quiet d' stream := by
  cases effect with
  | keeps keeps => exact keeps.quiet quiet
  | refuses request hunread hflight hcompleted hreads =>
      rw [quiet.flight] at hflight
      exact absurd hflight.length_eq (Nat.succ_ne_zero _)
  | reads call request port bytes h hbytes heq => exact not_flight quiet.flight h rfl
  | completes call held bytes h heq => exact not_flight quiet.flight h rfl

/-- The bytes that were read stay. -/
theorem Effect.readBytes_isPrefix (effect : Effect d d') : readBytes d <+: readBytes d' := by
  cases effect with
  | keeps keeps => rw [keeps.readBytes_eq]
  | refuses request hunread hflight hcompleted hreads => rw [readBytes, readBytes, hreads]
  | reads call request port bytes h hbytes heq =>
      subst heq
      exact (List.prefix_append _ _).flatMap _
  | completes call held bytes h heq =>
      subst heq
      exact List.prefix_refl _

end Steps

section Sent

variable {d d' : ControlReads.State} {action : ControlReads.Action} {sent : List Frame}
  {port port' : ControlRing} {frameType : UInt16} {payload : Buffer}

theorem frameSequence_of_write {bytes : List UInt8} {byteCount : UInt32}
    (h : controlRingWriteLocked port bytes byteCount = some port') :
    port'.frameSequence = port.frameSequence := by
  obtain ⟨ring, -, hport⟩ := Option.bind_eq_some_iff.mp h
  obtain rfl := Option.some.inj hport
  rfl

theorem frameSequence_of_read {bytes buffer : List UInt8} {byteCount bytesRead : UInt32}
    (h : controlRingReadLocked port bytes byteCount = some (port', buffer, bytesRead)) :
    port'.frameSequence = port.frameSequence := by
  obtain ⟨copied, -, hport⟩ := Option.bind_eq_some_iff.mp h
  obtain ⟨rfl, -⟩ := Prod.mk.inj (Option.some.inj hport)
  rfl

/-- A frame is queued with the next number, and only when it is short. -/
theorem queueFrameLocked_cases {status : NtStatus}
    (h : queueFrameLocked port frameType payload = some (port', status)) :
    (status ≠ .success ∧ port' = port) ∨
      (status = .success ∧ payload.bytes.length ≤ Protocol.Frames.frameMaxPayload ∧
        port'.frameSequence = port.frameSequence + 1) := by
  simp only [queueFrameLocked] at h
  by_cases hlong : payload.size > vdsFrameMaxPayload
  · rw [if_pos hlong] at h
    obtain ⟨rfl, rfl⟩ := Prod.mk.inj (Option.some.inj h)
    exact .inl ⟨by decide, rfl⟩
  · rw [if_neg hlong] at h
    have hshort : payload.bytes.length ≤ Protocol.Frames.frameMaxPayload := by
      have hle := UInt32.le_iff_toNat_le.mp (UInt32.not_lt.mp hlong)
      rwa [payload.toNat_size, toNat_vdsFrameMaxPayload] at hle
    by_cases hlarge : vdsFrameHeaderSize + payload.size > vdsControlRingSize
    · rw [if_pos hlarge] at h
      obtain ⟨rfl, rfl⟩ := Prod.mk.inj (Option.some.inj h)
      exact .inl ⟨by decide, rfl⟩
    · rw [if_neg hlarge] at h
      by_cases hfull : vdsFrameHeaderSize + payload.size > vdsControlRingSize - port.controlRingSize
      · rw [if_pos hfull] at h
        obtain ⟨rfl, rfl⟩ := Prod.mk.inj (Option.some.inj h)
        exact .inl ⟨by decide, rfl⟩
      · rw [if_neg hfull] at h
        obtain ⟨middle, hmiddle, h⟩ := Option.bind_eq_some_iff.mp h
        have hheader := frameSequence_of_write hmiddle
        by_cases hpayload : payload.size > 0
        · rw [if_pos hpayload] at h
          obtain ⟨last, hlast, h⟩ := Option.bind_eq_some_iff.mp h
          obtain ⟨rfl, rfl⟩ := Prod.mk.inj (Option.some.inj h)
          exact .inr ⟨rfl, hshort, (frameSequence_of_write hlast).trans hheader⟩
        · rw [if_neg hpayload] at h
          obtain ⟨rfl, rfl⟩ := Prod.mk.inj (Option.some.inj h)
          exact .inr ⟨rfl, hshort, hheader⟩

/-- The frame that the driver queues. -/
def queuedFrame (frameType : UInt16) (payload : Buffer) (sequence : UInt64) : Frame :=
  ⟨⟨frameType, 0, payload.size, sequence⟩, payload.bytes⟩

theorem le16_eq (word : UInt16) : Hcd.UsbCore.le16 word = bytesOf 2 word.toNat := by
  have hword := word.toNat_lt
  have hlow : word.toUInt8 = UInt8.ofNat word.toNat := rfl
  have hhigh : (word >>> 8).toUInt8 = UInt8.ofNat (word.toNat / 256) := by
    rw [← UInt8.toNat_inj, UInt16.toNat_toUInt8, UInt16.toNat_shiftRight, UInt8.toNat_ofNat',
      Nat.shiftRight_eq_div_pow]
    rfl
  rw [Hcd.UsbCore.le16, hlow, hhigh]
  rfl

theorem bytes_queuedFrame (frameType : UInt16) (payload : Buffer) (sequence : UInt64) :
    (queuedFrame frameType payload sequence).bytes =
      frameBytesOf frameType payload.bytes sequence := by
  rw [frameBytesOf, headerBytes, le16_eq, le16_eq, leBytes32_eq, leBytes64_eq, List.append_assoc,
    List.append_assoc]
  rfl

/-- The accepted frames, numbered from one. -/
structure Sends (d : ControlReads.State) (sent : List Frame) : Prop where
  accepted : d.accepted = sent.map Frame.bytes
  queued : ∀ frame ∈ sent, Frame.Queued frame
  numbered : ∀ index frame, sent[index]? = some frame →
    frame.header.sequence = UInt64.ofNat (index + 1)
  next : d.port.frameSequence = UInt64.ofNat sent.length

theorem Sends.new : Sends .new [] where
  accepted := rfl
  queued := fun _ h => absurd h List.not_mem_nil
  numbered := fun _ _ h => by cases h
  next := rfl

theorem Sends.queue (sends : Sends d sent)
    (hshort : payload.bytes.length ≤ Protocol.Frames.frameMaxPayload)
    (hsequence : port.frameSequence = d.port.frameSequence + 1)
    (haccepted : d'.accepted =
      d.accepted ++ [frameBytesOf frameType payload.bytes port.frameSequence])
    (hport : d'.port = port) :
    Sends d' (sent ++ [queuedFrame frameType payload port.frameSequence]) := by
  have hnext : port.frameSequence = UInt64.ofNat (sent.length + 1) := by
    rw [hsequence, sends.next, UInt64.ofNat_add]
    rfl
  refine ⟨?_, ?_, ?_, ?_⟩
  · rw [haccepted, sends.accepted, List.map_append, List.map_singleton, bytes_queuedFrame]
  · intro frame hframe
    rcases List.mem_append.mp hframe with hold | hnew
    · exact sends.queued frame hold
    · obtain rfl := List.mem_singleton.mp hnew
      exact ⟨payload.toNat_size.symm, payload.toNat_size.trans_le hshort, rfl⟩
  · intro index frame hframe
    rcases Nat.lt_trichotomy index sent.length with hlt | heq | hgt
    · rw [List.getElem?_append_left hlt] at hframe
      exact sends.numbered index frame hframe
    · rw [heq, List.getElem?_concat_length] at hframe
      rw [← Option.some.inj hframe, heq]
      exact hnext
    · rw [List.getElem?_eq_none (by rw [List.length_append, List.length_singleton]; omega)]
        at hframe
      cases hframe
  · rw [hport, hnext, List.length_append, List.length_singleton]

theorem Sends.congr (sends : Sends d sent) (haccepted : d'.accepted = d.accepted)
    (hport : d'.port.frameSequence = d.port.frameSequence) : Sends d' sent where
  accepted := haccepted.trans sends.accepted
  queued := sends.queued
  numbered := sends.numbered
  next := hport.trans sends.next

theorem Sends.step (sends : Sends d sent) (h : Steps d action d') :
    ∃ more, Sends d' (sent ++ more) := by
  have hsame (hsends : Sends d' sent) : ∃ more, Sends d' (sent ++ more) :=
    ⟨[], (List.append_nil sent).symm ▸ hsends⟩
  cases h with
  | @queued frameType payload port h =>
      rcases queueFrameLocked_cases h with ⟨hne, -⟩ | ⟨-, hshort, hsequence⟩
      · exact absurd rfl hne
      · exact ⟨_, sends.queue hshort hsequence rfl rfl⟩
  | dropped hstatus h =>
      rcases queueFrameLocked_cases h with ⟨-, rfl⟩ | ⟨hsuccess, -⟩
      · exact hsame (sends.congr rfl rfl)
      · exact absurd hsuccess hstatus
  | read h hread => exact hsame (sends.congr rfl (frameSequence_of_read hread))
  | created h => exact hsame (sends.congr rfl rfl)
  | refused => exact hsame (sends.congr rfl rfl)
  | forwarded h => exact hsame (sends.congr rfl rfl)
  | emptied h => exact hsame (sends.congr rfl rfl)
  | found h hsize => exact hsame (sends.congr rfl rfl)
  | drained h => exact hsame (sends.congr rfl rfl)
  | retrieved h hqueue => exact hsame (sends.congr rfl rfl)
  | buffered h hbuffer => exact hsame (sends.congr rfl rfl)
  | failed h => exact hsame (sends.congr rfl rfl)
  | completed h => exact hsame (sends.congr rfl rfl)
  | cancelled h hmem => exact hsame (sends.congr rfl rfl)

end Sent

section Run

variable {s t : State} {action : Action} {actions : List Action} {sent : List Frame}
  {stream : List UInt8}

/-- What the running reader waits for. -/
def Waits (s : State) (stream : List UInt8) : Prop :=
  match s.pending with
  | none => Quiet s.driver stream
  | some number => Slot s.driver number s.reader.remaining stream

/-- What holds in every state of a run. -/
structure Inv (s : State) (sent : List Frame) : Prop where
  custody : Custody s.driver
  stream : ∃ q, Stream s.driver q
  sends : Sends s.driver sent
  ended : s.reader.error ≠ none → s.pending = none
  read : ∃ stream, s.reader.HasRead stream ∧ stream <+: readBytes s.driver ∧
    (s.reader.error = none → Waits s stream)
  accepts : ∀ length, s.reader.error ≠ some (.oversized length)

theorem Inv.new : Inv .new [] where
  custody := .new
  stream := ⟨.new, .new⟩
  sends := .new
  ended := fun h => absurd rfl h
  read := ⟨[], .new, List.prefix_refl _, fun _ => ⟨rfl, rfl⟩⟩
  accepts := fun _ => (Option.some_ne_none _).symm

theorem hasRead_fail {reader : Reader} (h : reader.HasRead stream) (error : ReadError) :
    Reader.HasRead { reader with error := some error } stream where
  stream_eq := h.stream_eq
  sized := h.sized
  waiting := fun herror => absurd herror (Option.some_ne_none _)

/-- What was read from the ring is a front of the queued frames. -/
theorem readBytes_isPrefix {d : ControlReads.State} {q : FrameQueue} (stream : Stream d q)
    (sends : Sends d sent) : readBytes d <+: streamOf sent := by
  rw [streamOf, ← sends.accepted, ← stream.accepted_eq]
  exact List.prefix_append _ _

/-- The completion of the awaited request is the answer in its slot. -/
theorem Slot.answer {d : ControlReads.State} {number size : Nat}
    (slot : Slot d number size stream) (custody : Custody d) {completion : Completion}
    (h : completion ∈ d.completed) (hnumber : completion.number = number) :
    d.inHand ++ d.waiting = [] ∧ (completion.information.getD []).length ≤ size ∧
      readBytes d = stream ++ completion.information.getD [] := by
  have hfinished : number ∈ d.finished := List.mem_map.mpr ⟨completion, h, hnumber⟩
  have hnodup : (d.inHand ++ d.waiting ++ d.finished).Nodup := by
    rw [List.append_assoc]
    exact custody.nodup_iff.mpr List.nodup_range
  have hapart (hflight : (d.inHand ++ d.waiting).Perm [number]) : False :=
    (List.nodup_append.mp hnodup).2.2 number
      (hflight.symm.subset (List.mem_singleton.mpr rfl)) number hfinished rfl
  cases slot with
  | unread hflight hsize hplaces hread => exact (hapart hflight).elim
  | read bytes hflight hplace hsize hread => exact (hapart hflight).elim
  | answered other hflight hmem hother hsize hread =>
      have hsame := custody.filter_completed hmem
      have hin : completion ∈ d.completed.filter (·.number = other.number) :=
        List.mem_filter.mpr ⟨h, decide_eq_true (hnumber.trans hother.symm)⟩
      rw [hsame] at hin
      rw [List.mem_singleton.mp hin]
      exact ⟨hflight, hsize, hread⟩

/-- The reader issues its next request. -/
theorem slot_of_issue {d d' : ControlReads.State} {memory : Buffer} {ready forwards : Bool}
    (quiet : Quiet d stream) (h : Steps d (.controlRead memory ready forwards) d')
    (hplaces : ∀ number bytes, .completing number bytes ∉ d.calls) :
    Slot d' d.issued memory.bytes.length stream := by
  cases h with
  | refused =>
      refine .answered ⟨d.issued, none⟩ quiet.flight ?_ rfl (Nat.zero_le _) ?_
      · exact List.mem_append_right _ (List.mem_singleton.mpr rfl)
      · rw [Option.getD_none, List.append_nil]
        exact quiet.read
  | @forwarded _ _ _ requests hqueue =>
      have hnil : d.inHand = [] ∧ d.waiting = [] := List.append_eq_nil_iff.mp quiet.flight
      have hrequests : requests = [] := by
        have hwaiting := hnil.2
        rw [ControlReads.State.waiting, hqueue] at hwaiting
        exact List.map_eq_nil_iff.mp hwaiting
      subst hrequests
      refine .unread ?_ ?_ ?_ quiet.read
      · have hheld := ControlReads.inHand_append_checking d
        rw [hnil.1] at hheld
        rw [ControlReads.State.inHand, ControlReads.State.waiting, hheld]
        exact .refl _
      · intro request hunread
        rcases hunread with hrequest | hplace | hplace
        · rw [List.mem_singleton.mp hrequest]
        · rcases List.mem_append.mp hplace with hold | hnew
          · obtain ⟨call, hcall⟩ := List.mem_iff_getElem?.mp hold
            exact not_flight quiet.flight hcall rfl
          · cases List.mem_singleton.mp hnew
        · rcases List.mem_append.mp hplace with hold | hnew
          · obtain ⟨call, hcall⟩ := List.mem_iff_getElem?.mp hold
            exact not_flight quiet.flight hcall rfl
          · cases List.mem_singleton.mp hnew
      · intro bytes hplace
        rcases List.mem_append.mp hplace with hold | hnew
        · exact hplaces _ _ hold
        · cases List.mem_singleton.mp hnew

theorem Inv.driver {driver : ControlReads.State} {act : ControlReads.Action} (inv : Inv s sent)
    (h : Steps s.driver act driver)
    (haction : ∀ buffer ready forwards, act ≠ .controlRead buffer ready forwards) :
    ∃ more, Inv { s with driver } (sent ++ more) := by
  obtain ⟨q, stream⟩ := inv.stream
  have effect := effect_of_steps inv.custody stream h haction
  obtain ⟨more, sends⟩ := inv.sends.step h
  obtain ⟨read, hread, hprefix, hwaits⟩ := inv.read
  refine ⟨more, inv.custody.step h, stream.step h, sends, inv.ended,
    ⟨read, hread, hprefix.trans effect.readBytes_isPrefix, fun hrunning => ?_⟩, inv.accepts⟩
  have hwait := hwaits hrunning
  unfold Waits at hwait ⊢
  cases hpending : s.pending with
  | none =>
      simp only [hpending] at hwait ⊢
      exact effect.quiet hwait
  | some number =>
      simp only [hpending] at hwait ⊢
      exact effect.slot hwait

theorem Inv.readFile {driver : ControlReads.State} {memory : Buffer} {ready forwards : Bool}
    (inv : Inv s sent) (hrunning : s.reader.error = none) (hnone : s.pending = none)
    (hmemory : memory.bytes.length = s.reader.remaining)
    (h : Steps s.driver (.controlRead memory ready forwards) driver) :
    Inv { s with driver, pending := some s.driver.issued } sent := by
  obtain ⟨q, stream⟩ := inv.stream
  obtain ⟨read, hread, hprefix, hwaits⟩ := inv.read
  have hquiet : Quiet s.driver read := by
    have hwait := hwaits hrunning
    simpa only [Waits, hnone] using hwait
  have hplaces : ∀ number bytes, .completing number bytes ∉ s.driver.calls := by
    intro number bytes hmem
    obtain ⟨call, hcall⟩ := List.mem_iff_getElem?.mp hmem
    exact not_flight hquiet.flight hcall rfl
  have hslot := slot_of_issue hquiet h hplaces
  rw [hmemory] at hslot
  have hsends : Sends driver sent ∧ readBytes driver = readBytes s.driver := by
    cases h with
    | refused => exact ⟨inv.sends.congr rfl rfl, rfl⟩
    | forwarded hqueue => exact ⟨inv.sends.congr rfl rfl, rfl⟩
  refine ⟨inv.custody.step h, stream.step h, hsends.1, fun herror => absurd hrunning herror,
    ⟨read, hread, ?_, fun _ => hslot⟩, inv.accepts⟩
  rw [hsends.2]
  exact hprefix

/-- The request that completed, and that its bytes are the next of the stream. -/
theorem Inv.completed (inv : Inv s sent) {completion : Completion}
    (h : s.completion = some completion) :
    s.reader.error = none ∧ ∃ stream, s.reader.HasRead stream ∧
      (completion.information.getD []).length ≤ s.reader.remaining ∧
      Quiet s.driver (stream ++ completion.information.getD []) := by
  obtain ⟨number, hpending, hfind⟩ := Option.bind_eq_some_iff.mp h
  have hrunning : s.reader.error = none := by
    by_contra herror
    rw [inv.ended herror] at hpending
    cases hpending
  obtain ⟨read, hread, hprefix, hwaits⟩ := inv.read
  have hslot : Slot s.driver number s.reader.remaining read := by
    have hwait := hwaits hrunning
    simpa only [Waits, hpending] using hwait
  have hnumber : completion.number = number := by
    have hfound := List.find?_some hfind
    exact of_decide_eq_true hfound
  obtain ⟨hflight, hsize, hbytes⟩ := hslot.answer inv.custody (List.mem_of_find?_eq_some hfind)
    hnumber
  exact ⟨hrunning, read, hread, hsize, hflight, hbytes⟩

theorem Inv.finish (inv : Inv s sent) {completion : Completion}
    (h : s.completion = some completion) (stopRequested : Bool) (reason : String) :
    Inv { s with
      reader := finishOverlappedIo s.reader completion.information stopRequested reason
      pending := none } sent := by
  obtain ⟨q, stream⟩ := inv.stream
  obtain ⟨hrunning, read, hread, hsize, hquiet⟩ := inv.completed h
  cases hinformation : completion.information with
  | none =>
      rw [hinformation, Option.getD_none, List.append_nil] at hquiet
      refine ⟨inv.custody, inv.stream, inv.sends, fun _ => rfl,
        ⟨read, hasRead_fail hread _, ?_, fun _ => hquiet⟩, ?_⟩
      · rw [hquiet.read]
      · intro length
        cases stopRequested <;> exact fun heq => by cases heq
  | some bytes =>
      rw [hinformation, Option.getD_some] at hquiet hsize
      have hreceived := hread.receive hrunning hsize
      refine ⟨inv.custody, inv.stream, inv.sends, fun _ => rfl,
        ⟨read ++ bytes, hreceived, ?_, fun _ => hquiet⟩, fun length => ?_⟩
      · rw [hquiet.read]
      · change (s.reader.receive bytes).error ≠ _
        by_cases hsome : bytes = []
        · rw [Reader.receive, if_pos hsome]
          exact fun heq => by cases heq
        · have hfront := readBytes_isPrefix stream inv.sends
          rw [hquiet.read] at hfront
          rw [hread.receive_error hrunning hsize hsome (fun f hf => (inv.sends.queued f hf).sized)
            (fun f hf => (inv.sends.queued f hf).short) hfront]
          exact (Option.some_ne_none _).symm

theorem Inv.stopEvent (inv : Inv s sent) {completion : Completion}
    (h : s.completion = some completion) :
    Inv { s with reader := { s.reader with error := some .stopped }, pending := none } sent := by
  obtain ⟨hrunning, read, hread, hsize, hquiet⟩ := inv.completed h
  refine ⟨inv.custody, inv.stream, inv.sends, fun _ => rfl,
    ⟨read, hasRead_fail hread _, ?_, fun herror => absurd herror (Option.some_ne_none _)⟩, ?_⟩
  · rw [hquiet.read]
    exact List.prefix_append _ _
  · exact fun _ heq => by cases heq

theorem Inv.step (inv : Inv s sent) (h : step s action = some t) :
    ∃ more, Inv t (sent ++ more) := by
  have hsame {t : State} (inv : Inv t sent) : ∃ more, Inv t (sent ++ more) :=
    ⟨[], (List.append_nil sent).symm ▸ inv⟩
  cases action with
  | driver act =>
      cases act with
      | controlRead buffer ready forwards => cases h
      | _ =>
          obtain ⟨driver, hdriver, rfl⟩ := Option.map_eq_some_iff.mp h
          exact inv.driver (steps_of_step hdriver) fun _ _ _ heq => by cases heq
  | readFile memory ready forwards =>
      obtain ⟨⟨hrunning, hnone, hmemory⟩, h⟩ := Option.ite_none_right_eq_some.mp h
      obtain ⟨driver, hdriver, rfl⟩ := Option.map_eq_some_iff.mp h
      exact hsame (inv.readFile hrunning hnone hmemory (steps_of_step hdriver))
  | finish stopRequested reason =>
      obtain ⟨completion, hcompletion, rfl⟩ := Option.map_eq_some_iff.mp h
      exact hsame (inv.finish hcompletion stopRequested reason)
  | stopEvent =>
      obtain ⟨completion, hcompletion, rfl⟩ := Option.map_eq_some_iff.mp h
      exact hsame (inv.stopEvent hcompletion)

theorem Inv.conveys (inv : Inv s sent) : Conveys s sent := by
  obtain ⟨q, stream⟩ := inv.stream
  obtain ⟨read, hread, hprefix, hwaits⟩ := inv.read
  have hsized : ∀ frame ∈ sent, frame.Sized := fun f hf => (inv.sends.queued f hf).sized
  have hfront := hprefix.trans (readBytes_isPrefix stream inv.sends)
  refine ⟨inv.sends.accepted, inv.sends.queued, inv.sends.numbered, ?_, inv.accepts, ?_⟩
  · obtain ⟨rest, hrest, -⟩ := hread.exists_rest hsized hfront
    rw [hrest]
    exact List.prefix_append _ _
  · intro hrunning hnone hempty
    have hquiet : Quiet s.driver read := by
      have hwait := hwaits hrunning
      simpa only [Waits, hnone] using hwait
    have hring : q.bytes = [] := by
      have hlength := stream.holds.holds.length_eq
      rw [hempty] at hlength
      exact List.eq_nil_of_length_eq_zero hlength
    have hall := stream.accepted_eq
    rw [hring, List.append_nil, inv.sends.accepted] at hall
    have hstream : read = streamOf sent := hquiet.read.symm.trans hall
    subst hstream
    exact (hread.all hrunning hsized).1

/-- In every run of the driver and the daemon's reader, the frames that were read are the first
frames that the driver queued. -/
theorem conveys_accepted_frames (run : Run step .new actions t) : ∃ sent, Conveys t sent := by
  have hinv : ∃ sent, Inv t sent := by
    refine run.invariant (I := fun s => ∃ sent, Inv s sent) ?_ ⟨[], .new⟩
    rintro s action t ⟨sent, inv⟩ - h
    obtain ⟨more, inv⟩ := inv.step h
    exact ⟨_, inv⟩
  obtain ⟨sent, inv⟩ := hinv
  exact ⟨sent, inv.conveys⟩

/-- The completer of a read gets behind the daemon, which has read the frame and asks for the
next header. -/
def readsOneFrame : List Action :=
  [.driver .createReadQueue, .readFile ControlReads.headerRead true true,
    .driver (.queueFrame 2 ⟨[0x31], by decide⟩), .driver (.checkSize 0), .driver (.checkSize 1),
    .driver (.retrieveRequest 0), .driver (.retrieveBuffer 0 true), .driver (.readRing 0),
    .driver (.completeRequest 0), .finish false "", .driver (.checkSize 0),
    .driver (.retrieveRequest 0), .readFile ControlReads.payloadRead true true,
    .driver (.checkSize 2), .driver (.retrieveRequest 2), .driver (.retrieveBuffer 2 true),
    .driver (.readRing 2), .driver (.completeRequest 2), .finish false "",
    .readFile ControlReads.headerRead true true, .driver (.checkSize 3),
    .driver (.retrieveRequest 1), .driver (.retrieveBuffer 1 true), .driver (.readRing 1),
    .driver (.completeRequest 1), .finish false ""]

theorem readsOneFrame_conveys : ∃ t sent, Run step .new readsOneFrame t ∧
    t.reader.frames.length = 1 ∧ t.reader.error = some .closed ∧ Conveys t sent := by
  have hrun : ∃ t, Run step .new readsOneFrame t ∧
      (t.reader.frames.length = 1 ∧ t.reader.error = some .closed) :=
    exists_run_of_execute (by decide +kernel)
  obtain ⟨t, run, hframes, herror⟩ := hrun
  obtain ⟨sent, hconveys⟩ := conveys_accepted_frames run
  exact ⟨t, sent, run, hframes, herror, hconveys⟩

end Run

end VirtualDualSense.WinDrv.FrameReads
