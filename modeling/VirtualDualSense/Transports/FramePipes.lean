import VirtualDualSense.Lib.Runs
import VirtualDualSense.Protocol.FrameStreams

/-!
# Frames through a byte pipe

The threads of a bridge write their frames to the virtual device under one mutex, in as many
parts as the pipe takes them. The server of the port reads the pipe in parts of its own. The
frames that it reads are those of the threads in the order of their locks, up to a write that
failed half-way.

## Implementation notes

A pipe is the bytes that were written and not read. A write that fails ends its thread, behind
whatever it has written. The frames are recorded in the order in which their writes begin.
-/

namespace VirtualDualSense.Transports.FramePipes

open Lib.Runs Protocol.FrameStreams
open Protocol.Frames (frameMaxPayload)

section Model

/-- Where a thread is in a locked `write_handle_frame`. -/
inductive Writer
  | idle
  | locking (type : UInt16) (payload : List UInt8)
  | writing (rest : List UInt8)
  | thrown
  deriving DecidableEq

/-- The most that `write_handle_exact` writes at once. -/
def writeChunk : Nat := 64 * 1024

structure State where
  holder : Option Nat
  writers : Nat → Writer
  pipe : List UInt8
  reader : Reader
  sent : List Frame
  whole : Option Nat

def State.new : State := ⟨none, fun _ => .idle, [], .new, [], none⟩

def State.move (s : State) (thread : Nat) (writer : Writer) : State :=
  { s with writers := Function.update s.writers thread writer }

theorem move_self (s : State) (thread : Nat) (writer : Writer) :
    (s.move thread writer).writers thread = writer :=
  Function.update_self ..

theorem move_of_ne (s : State) {thread other : Nat} (writer : Writer) (h : other ≠ thread) :
    (s.move thread writer).writers other = s.writers other :=
  Function.update_of_ne h ..

/-- The frame that `frame_bytes` builds. -/
def frameOf (type : UInt16) (payload : List UInt8) : Frame :=
  ⟨⟨type, 0, UInt32.ofNat payload.length, 0⟩, payload⟩

inductive Action
  | send (thread : Nat) (type : UInt16) (payload : List UInt8)
  | lock (thread : Nat)
  | write (thread count : Nat)
  | fail (thread : Nat)
  | unlock (thread : Nat)
  | read (count : Nat)
  | readFails (reason : String)
  | readCloses

/-- The exception of a write that is not complete releases the mutex. -/
def State.abandon (s : State) (thread : Nat) : State :=
  { s.move thread .thrown with
    holder := none
    whole := some (s.whole.getD (s.sent.length - 1)) }

def step (s : State) : Action → Option State
  | .send thread type payload =>
      if s.writers thread = .idle then some (s.move thread (.locking type payload)) else none
  | .lock thread =>
      match s.writers thread, s.holder with
      | .locking type payload, none =>
          match frameBytes type payload with
          | .error _ => some (s.move thread .thrown)
          | .ok bytes => some { s.move thread (.writing bytes) with
              holder := some thread
              sent := s.sent ++ [frameOf type payload] }
      | _, _ => none
  | .write thread count =>
      match s.writers thread with
      | .writing rest =>
          if rest ≠ [] ∧ count ≤ min rest.length writeChunk then
            if count = 0 then some (s.abandon thread)
            else some { s.move thread (.writing (rest.drop count)) with
              pipe := s.pipe ++ rest.take count }
          else none
      | _ => none
  | .fail thread =>
      match s.writers thread with
      | .writing rest => if rest ≠ [] then some (s.abandon thread) else none
      | _ => none
  | .unlock thread =>
      if s.writers thread = .writing [] then some { s.move thread .idle with holder := none }
      else none
  | .read count =>
      if s.reader.error = none ∧ 0 < count ∧ count ≤ min s.reader.remaining s.pipe.length then
        some { s with reader := s.reader.receive (s.pipe.take count), pipe := s.pipe.drop count }
      else none
  | .readFails reason =>
      if s.reader.error = none then
        some { s with reader := { s.reader with error := some (.failed reason) } }
      else none
  | .readCloses =>
      if s.reader.error = none then some { s with reader := s.reader.receive [] } else none

end Model

section Statement

/-- The frames of the threads do not mix. -/
structure Conveys (s : State) : Prop where
  short : ∀ frame ∈ s.sent, frame.Sized ∧ frame.header.length.toNat ≤ frameMaxPayload
  front : s.whole = none → s.reader.frames <+: s.sent
  accepts : s.whole = none → ∀ length, s.reader.error ≠ some (.oversized length)
  before : ∀ count, s.whole = some count → s.reader.frames.take count <+: s.sent
  all : s.whole = none → s.reader.error = none → s.holder = none → s.pipe = [] →
    s.reader.frames = s.sent

end Statement

section Steps

variable {s t : State} {action : Action} {actions : List Action} {stream : List UInt8}

/-- What the pipe was given, when no write has failed half-way. -/
structure Progress (s : State) (total : List UInt8) : Prop where
  idle : s.holder = none → total = streamOf s.sent
  busy : ∀ thread rest, s.writers thread = .writing rest → ∃ earlier frame written,
    s.sent = earlier ++ [frame] ∧ frame.bytes = written ++ rest ∧
      total = streamOf earlier ++ written

/-- What the pipe was given, in every state. -/
structure Written (s : State) (total : List UInt8) : Prop where
  progress : s.whole = none → Progress s total
  count_le : ∀ count, s.whole = some count → count ≤ s.sent.length
  front : ∀ count, s.whole = some count → streamOf (s.sent.take count) <+: total

structure Inv (s : State) : Prop where
  short : ∀ frame ∈ s.sent, frame.Sized ∧ frame.header.length.toNat ≤ frameMaxPayload
  exclusive : ∀ thread, (∃ rest, s.writers thread = .writing rest) ↔ s.holder = some thread
  read : ∃ stream, s.reader.HasRead stream ∧ Written s (stream ++ s.pipe)
  accepts : s.whole = none → ∀ length, s.reader.error ≠ some (.oversized length)

theorem Inv.new : Inv .new where
  short := fun _ h => absurd h List.not_mem_nil
  exclusive := fun _ => ⟨fun ⟨_, h⟩ => (by cases h), fun h => (by cases h)⟩
  read := by
    refine ⟨[], .new, fun _ => ⟨fun _ => rfl, fun _ _ h => by cases h⟩, ?_, ?_⟩
    · exact fun _ h => by cases h
    · exact fun _ h => by cases h
  accepts := fun _ _ => (Option.some_ne_none _).symm

theorem frameBytes_ok {type : UInt16} {payload bytes : List UInt8}
    (h : frameBytes type payload = .ok bytes) :
    bytes = (frameOf type payload).bytes ∧ (frameOf type payload).Sized ∧
      (frameOf type payload).header.length.toNat ≤ frameMaxPayload := by
  unfold frameBytes at h
  split_ifs at h with hlong
  obtain rfl := Except.ok.inj h
  have hle := Nat.le_of_not_lt hlong
  have hsize : (UInt32.ofNat payload.length).toNat = payload.length := by
    refine UInt32.toNat_ofNat_of_lt' (lt_of_le_of_lt hle ?_)
    decide
  exact ⟨rfl, hsize.symm, hsize.trans_le hle⟩

/-- A thread that does not write changes its place. -/
theorem exclusive_move {thread : Nat} {writer : Writer}
    (exclusive : ∀ thread, (∃ rest, s.writers thread = .writing rest) ↔ s.holder = some thread)
    (hbefore : ∀ rest, s.writers thread ≠ .writing rest) (hafter : ∀ rest, writer ≠ .writing rest)
    (other : Nat) :
    (∃ rest, (s.move thread writer).writers other = .writing rest) ↔ s.holder = some other := by
  rw [← exclusive other]
  by_cases heq : other = thread
  · subst heq
    refine iff_of_false ?_ ?_
    · rintro ⟨rest, hrest⟩
      exact hafter rest ((move_self s _ _).symm.trans hrest)
    · exact fun ⟨rest, hrest⟩ => hbefore rest hrest
  · have hsame : (s.move thread writer).writers other = s.writers other :=
      Function.update_of_ne heq ..
    rw [hsame]

theorem writing_of_move {thread other : Nat} {writer : Writer} {rest : List UInt8}
    (hafter : ∀ rest, writer ≠ .writing rest)
    (h : (s.move thread writer).writers other = .writing rest) :
    s.writers other = .writing rest := by
  by_cases heq : other = thread
  · subst heq
    exact absurd ((move_self s _ _).symm.trans h) (hafter rest)
  · exact (move_of_ne s _ heq).symm.trans h

/-- A step that only changes the place of a thread outside of its write. -/
theorem Inv.move (inv : Inv s) {thread : Nat} {writer : Writer}
    (hbefore : ∀ rest, s.writers thread ≠ .writing rest)
    (hafter : ∀ rest, writer ≠ .writing rest) : Inv (s.move thread writer) := by
  obtain ⟨stream, hread, hwritten⟩ := inv.read
  refine ⟨inv.short, exclusive_move inv.exclusive hbefore hafter, ⟨stream, hread, ?_⟩, inv.accepts⟩
  refine ⟨fun hwhole => ?_, hwritten.count_le, hwritten.front⟩
  have hprogress := hwritten.progress hwhole
  exact ⟨hprogress.idle, fun other rest h =>
    hprogress.busy other rest (writing_of_move hafter h)⟩

theorem Inv.lock (inv : Inv s) {thread : Nat} {type : UInt16} {payload bytes : List UInt8}
    (hplace : s.writers thread = .locking type payload) (hfree : s.holder = none)
    (hbytes : frameBytes type payload = .ok bytes) :
    Inv { s.move thread (.writing bytes) with
      holder := some thread
      sent := s.sent ++ [frameOf type payload] } := by
  obtain ⟨rfl, hsized, hshort⟩ := frameBytes_ok hbytes
  obtain ⟨stream, hread, hwritten⟩ := inv.read
  have hnone (other : Nat) (rest : List UInt8) : s.writers other ≠ .writing rest := by
    intro h
    have hholder := (inv.exclusive other).mp ⟨rest, h⟩
    rw [hfree] at hholder
    cases hholder
  refine ⟨?_, ?_, ⟨stream, hread, ?_⟩, inv.accepts⟩
  · intro frame hframe
    rcases List.mem_append.mp hframe with hold | hnew
    · exact inv.short frame hold
    · rw [List.mem_singleton.mp hnew]
      exact ⟨hsized, hshort⟩
  · intro other
    by_cases heq : other = thread
    · subst heq
      exact iff_of_true ⟨_, move_self s _ _⟩ rfl
    · refine iff_of_false ?_ fun h => heq (Option.some.inj h).symm
      rintro ⟨rest, hrest⟩
      exact hnone other rest ((move_of_ne s _ heq).symm.trans hrest)
  · refine ⟨fun hwhole => ⟨fun h => absurd h (Option.some_ne_none _), ?_⟩, ?_, ?_⟩
    · intro other rest h
      by_cases heq : other = thread
      · subst heq
        have hrest : Writer.writing (frameOf type payload).bytes = .writing rest :=
          (move_self s _ _).symm.trans h
        obtain rfl := Writer.writing.inj hrest
        refine ⟨s.sent, _, [], rfl, rfl, ?_⟩
        rw [List.append_nil]
        exact (hwritten.progress hwhole).idle hfree
      · exact absurd ((move_of_ne s _ heq).symm.trans h) (hnone other rest)
    · intro count hcount
      rw [List.length_append]
      exact (hwritten.count_le count hcount).trans (Nat.le_add_right _ _)
    · intro count hcount
      change streamOf ((s.sent ++ [frameOf type payload]).take count) <+: _
      rw [List.take_append_of_le_length (hwritten.count_le count hcount)]
      exact hwritten.front count hcount

/-- The bytes that the pipe takes of a frame. -/
theorem Inv.write (inv : Inv s) {thread count : Nat} {rest : List UInt8}
    (hplace : s.writers thread = .writing rest) :
    Inv { s.move thread (.writing (rest.drop count)) with pipe := s.pipe ++ rest.take count } := by
  obtain ⟨stream, hread, hwritten⟩ := inv.read
  have hholder := (inv.exclusive thread).mp ⟨rest, hplace⟩
  refine ⟨inv.short, ?_, ⟨stream, hread, ?_⟩, inv.accepts⟩
  · intro other
    by_cases heq : other = thread
    · subst heq
      exact iff_of_true ⟨_, move_self s _ _⟩ hholder
    · refine Iff.trans ?_ (inv.exclusive other)
      exact ⟨fun ⟨rest', h⟩ => ⟨rest', (move_of_ne s _ heq).symm.trans h⟩,
        fun ⟨rest', h⟩ => ⟨rest', (move_of_ne s _ heq).trans h⟩⟩
  · rw [← List.append_assoc]
    refine ⟨fun hwhole => ⟨fun h => ?_, ?_⟩, hwritten.count_le, ?_⟩
    · have hnone : s.holder = none := h
      rw [hholder] at hnone
      cases hnone
    · intro other rest' h
      by_cases heq : other = thread
      · subst heq
        have hrest : Writer.writing (rest.drop count) = .writing rest' :=
          (move_self s _ _).symm.trans h
        obtain rfl := Writer.writing.inj hrest
        obtain ⟨earlier, frame, written, hsent, hbytes, htotal⟩ :=
          (hwritten.progress hwhole).busy other rest hplace
        refine ⟨earlier, frame, written ++ rest.take count, hsent, ?_, ?_⟩
        · rw [hbytes, List.append_assoc, List.take_append_drop]
        · rw [htotal, List.append_assoc]
      · have hother := (inv.exclusive other).mp ⟨rest', (move_of_ne s _ heq).symm.trans h⟩
        rw [hholder] at hother
        exact absurd (Option.some.inj hother).symm heq
    · exact fun n hn => (hwritten.front n hn).trans (List.prefix_append _ _)

/-- A write that fails half-way leaves the frames before it whole. -/
theorem Inv.abandon (inv : Inv s) {thread : Nat} {rest : List UInt8}
    (hplace : s.writers thread = .writing rest) : Inv (s.abandon thread) := by
  obtain ⟨stream, hread, hwritten⟩ := inv.read
  have hholder := (inv.exclusive thread).mp ⟨rest, hplace⟩
  refine ⟨inv.short, ?_, ⟨stream, hread, ?_⟩, ?_⟩
  · intro other
    refine iff_of_false ?_ fun h => by cases h
    rintro ⟨rest', hrest⟩
    have hold := writing_of_move (by exact fun _ h => by cases h) hrest
    have hother := (inv.exclusive other).mp ⟨rest', hold⟩
    rw [hholder] at hother
    obtain rfl := Option.some.inj hother
    exact absurd ((move_self s _ _).symm.trans hrest) fun h => by cases h
  · refine ⟨fun hwhole => absurd hwhole (Option.some_ne_none _), ?_, ?_⟩
    · intro count hcount
      obtain rfl := Option.some.inj hcount
      cases hwhole : s.whole with
      | none => exact Nat.sub_le _ _
      | some n => exact hwritten.count_le n hwhole
    · intro count hcount
      obtain rfl := Option.some.inj hcount
      cases hwhole : s.whole with
      | none =>
          obtain ⟨earlier, frame, written, hsent, hbytes, htotal⟩ :=
            (hwritten.progress hwhole).busy thread rest hplace
          have htake : s.sent.take (s.sent.length - 1) = earlier := by
            rw [hsent, List.length_append, List.length_singleton, Nat.add_sub_cancel,
              List.take_left' rfl]
          change streamOf (s.sent.take (s.sent.length - 1)) <+: stream ++ s.pipe
          rw [htake, htotal]
          exact List.prefix_append _ _
      | some n => exact hwritten.front n hwhole
  · exact fun hwhole => by cases hwhole

theorem Inv.unlock (inv : Inv s) {thread : Nat} (hplace : s.writers thread = .writing []) :
    Inv { s.move thread .idle with holder := none } := by
  obtain ⟨stream, hread, hwritten⟩ := inv.read
  have hholder := (inv.exclusive thread).mp ⟨[], hplace⟩
  have hnone (other : Nat) (rest : List UInt8) :
      (s.move thread .idle).writers other ≠ .writing rest := by
    intro h
    have hold := writing_of_move (by exact fun _ h => by cases h) h
    have hother := (inv.exclusive other).mp ⟨rest, hold⟩
    rw [hholder] at hother
    obtain rfl := Option.some.inj hother
    exact absurd ((move_self s _ _).symm.trans h) fun h => by cases h
  refine ⟨inv.short, ?_, ⟨stream, hread, ?_⟩, inv.accepts⟩
  · exact fun other => iff_of_false (fun ⟨rest, h⟩ => hnone other rest h) fun h => by cases h
  · refine ⟨fun hwhole => ⟨fun _ => ?_, ?_⟩, hwritten.count_le, hwritten.front⟩
    · obtain ⟨earlier, frame, written, hsent, hbytes, htotal⟩ :=
        (hwritten.progress hwhole).busy thread [] hplace
      rw [List.append_nil] at hbytes
      change stream ++ s.pipe = streamOf s.sent
      rw [htotal, hsent, streamOf_append, streamOf_singleton, hbytes]
    · exact fun other rest h => absurd h (hnone other rest)

theorem Inv.prefix_of_progress (inv : Inv s) {total : List UInt8} (progress : Progress s total) :
    total <+: streamOf s.sent := by
  cases hholder : s.holder with
  | none => rw [progress.idle hholder]
  | some thread =>
      obtain ⟨rest, hrest⟩ := (inv.exclusive thread).mpr hholder
      obtain ⟨earlier, frame, written, hsent, hbytes, hall⟩ := progress.busy thread rest hrest
      rw [hall, hsent, streamOf_append, streamOf_singleton, hbytes, ← List.append_assoc]
      exact List.prefix_append _ _

/-- A step of the reader that takes the front of the pipe. -/
theorem Inv.received (inv : Inv s) {bytes pipe : List UInt8} (hrunning : s.reader.error = none)
    (hpipe : s.pipe = bytes ++ pipe) (hle : bytes.length ≤ s.reader.remaining) :
    Inv { s with reader := s.reader.receive bytes, pipe } := by
  obtain ⟨stream, hread, hwritten⟩ := inv.read
  have htotal : stream ++ s.pipe = stream ++ bytes ++ pipe := by rw [hpipe, List.append_assoc]
  refine ⟨inv.short, inv.exclusive, ⟨stream ++ bytes, hread.receive hrunning hle, ?_⟩, ?_⟩
  · rw [← htotal]
    exact ⟨fun hwhole => ⟨(hwritten.progress hwhole).idle, (hwritten.progress hwhole).busy⟩,
      hwritten.count_le, hwritten.front⟩
  · intro hwhole length
    change (s.reader.receive bytes).error ≠ _
    by_cases hsome : bytes = []
    · rw [Reader.receive, if_pos hsome]
      exact fun heq => by cases heq
    · have hprogress := hwritten.progress hwhole
      have hfront := inv.prefix_of_progress hprogress
      rw [htotal] at hfront
      rw [hread.receive_error hrunning hle hsome (fun f hf => (inv.short f hf).1)
        (fun f hf => (inv.short f hf).2) ((List.prefix_append _ _).trans hfront)]
      exact (Option.some_ne_none _).symm

theorem Inv.readFails (inv : Inv s) (reason : String) :
    Inv { s with reader := { s.reader with error := some (.failed reason) } } := by
  obtain ⟨stream, hread, hwritten⟩ := inv.read
  refine ⟨inv.short, inv.exclusive, ⟨stream, ⟨hread.stream_eq, hread.sized, ?_⟩, ?_⟩, ?_⟩
  · exact fun herror => absurd herror (Option.some_ne_none _)
  · exact ⟨fun hwhole => ⟨(hwritten.progress hwhole).idle, (hwritten.progress hwhole).busy⟩,
      hwritten.count_le, hwritten.front⟩
  · exact fun _ _ heq => by cases heq

theorem Inv.step (inv : Inv s) (h : step s action = some t) : Inv t := by
  cases action with
  | send thread type payload =>
      obtain ⟨hidle, h⟩ := Option.ite_none_right_eq_some.mp h
      obtain rfl := Option.some.inj h
      exact inv.move (fun rest heq => by rw [hidle] at heq; cases heq) fun rest heq => by cases heq
  | lock thread =>
      simp only [step] at h
      split at h
      next type payload hplace hfree =>
        split at h
        next =>
          obtain rfl := Option.some.inj h
          exact inv.move (fun rest heq => by rw [hplace] at heq; cases heq)
            fun rest heq => by cases heq
        next bytes hbytes =>
          obtain rfl := Option.some.inj h
          exact inv.lock hplace hfree hbytes
      next => cases h
  | write thread count =>
      simp only [step] at h
      split at h
      next rest hplace =>
        split_ifs at h with hchunk hzero
        · obtain rfl := Option.some.inj h
          exact inv.abandon hplace
        · obtain rfl := Option.some.inj h
          exact inv.write hplace
      next => cases h
  | fail thread =>
      simp only [step] at h
      split at h
      next rest hplace =>
        obtain ⟨-, h⟩ := Option.ite_none_right_eq_some.mp h
        obtain rfl := Option.some.inj h
        exact inv.abandon hplace
      next => cases h
  | unlock thread =>
      obtain ⟨hplace, h⟩ := Option.ite_none_right_eq_some.mp h
      obtain rfl := Option.some.inj h
      exact inv.unlock hplace
  | read count =>
      obtain ⟨⟨hrunning, -, hcount⟩, h⟩ := Option.ite_none_right_eq_some.mp h
      obtain rfl := Option.some.inj h
      refine inv.received hrunning (List.take_append_drop count s.pipe).symm ?_
      rw [List.length_take]
      omega
  | readFails reason =>
      obtain ⟨-, h⟩ := Option.ite_none_right_eq_some.mp h
      obtain rfl := Option.some.inj h
      exact inv.readFails reason
  | readCloses =>
      obtain ⟨hrunning, h⟩ := Option.ite_none_right_eq_some.mp h
      obtain rfl := Option.some.inj h
      exact inv.received hrunning rfl (Nat.zero_le _)

theorem Inv.conveys (inv : Inv s) : Conveys s := by
  obtain ⟨stream, hread, hwritten⟩ := inv.read
  have hsized : ∀ frame ∈ s.sent, frame.Sized := fun frame hframe => (inv.short frame hframe).1
  refine ⟨inv.short, fun hwhole => ?_, inv.accepts, fun count hcount => ?_, ?_⟩
  · have hfront := inv.prefix_of_progress (hwritten.progress hwhole)
    obtain ⟨rest, hrest, -⟩ := hread.exists_rest hsized ((List.prefix_append _ _).trans hfront)
    rw [hrest]
    exact List.prefix_append _ _
  · obtain ⟨rest, hrest⟩ := hwritten.front count hcount
    have hlength : (s.sent.take count).length = count :=
      List.length_take_of_le (hwritten.count_le count hcount)
    have hfront := hread.take_isPrefix
      (fun frame hframe => hsized frame (List.mem_of_mem_take hframe))
      (hrest ▸ List.prefix_append stream s.pipe)
    rw [hlength] at hfront
    exact hfront.trans (List.take_prefix _ _)
  · intro hwhole hrunning hfree hempty
    have htotal := (hwritten.progress hwhole).idle hfree
    rw [hempty, List.append_nil] at htotal
    subst htotal
    exact (hread.all hrunning hsized).1

/-- However the threads take turns and the pipe cuts their writes and the reads, the frames
that are read are those that were sent, up to a write that failed half-way. -/
theorem conveys_sent_frames (run : Run step .new actions t) : Conveys t :=
  (run.invariant (fun _ _ _ inv _ h => inv.step h) Inv.new).conveys

/-- Two threads send; the pipe takes the first frame in two parts, and fails in the second
frame. -/
def tornWrite : List Action :=
  [.send 0 5 [1, 2, 3], .send 1 10 [4, 5], .lock 1, .write 1 7, .read 3, .write 1 11, .unlock 1,
    .lock 0, .read 13, .write 0 4, .fail 0, .read 2, .read 4]

theorem tornWrite_conveys : ∃ t, Run step .new tornWrite t ∧
    t.reader.frames = [frameOf 10 [4, 5]] ∧ t.whole = some 1 ∧ Conveys t := by
  have hrun : ∃ t, Run step .new tornWrite t ∧
      (t.reader.frames = [frameOf 10 [4, 5]] ∧ t.whole = some 1) :=
    exists_run_of_execute (by decide +kernel)
  obtain ⟨t, run, hframes, hwhole⟩ := hrun
  exact ⟨t, run, hframes, hwhole, conveys_sent_frames run⟩

end Steps

end VirtualDualSense.Transports.FramePipes
