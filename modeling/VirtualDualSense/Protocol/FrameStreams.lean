import VirtualDualSense.Lib.Framings
import VirtualDualSense.Lib.LittleEndian
import VirtualDualSense.Protocol.Frames

/-!
# Frames in a byte stream

A frame is a header and the payload that the header announces. `read_handle_frame` asks for
the one and then for the other, and takes what a read returns of it. Whatever the reads
return, the frames that it finds are the frames in the stream.

## Implementation notes

The reader is the loop of `read_handle_frame` calls of one thread, between two reads. An error
ends the thread. `read_handle_exact` asks for all that is missing, because a part is shorter
than `MAXDWORD`.
-/

namespace VirtualDualSense.Protocol.FrameStreams

open Lib.Framings Lib.LittleEndian
open Frames (frameMaxPayload)

section Model

/-- `struct vds_frame_header`. -/
structure FrameHeader where
  type : UInt16
  flags : UInt16
  length : UInt32
  sequence : UInt64
  deriving DecidableEq

/-- The size of `struct vds_frame_header`. -/
def headerSize : Nat := 16

def FrameHeader.bytes (header : FrameHeader) : List UInt8 :=
  bytesOf 2 header.type.toNat ++ (bytesOf 2 header.flags.toNat ++
    (bytesOf 4 header.length.toNat ++ bytesOf 8 header.sequence.toNat))

/-- The header in bytes that were copied into one. -/
def headerOf (bytes : List UInt8) : FrameHeader where
  type := UInt16.ofNat (valueOf (bytes.take 2))
  flags := UInt16.ofNat (valueOf ((bytes.drop 2).take 2))
  length := UInt32.ofNat (valueOf ((bytes.drop 4).take 4))
  sequence := UInt64.ofNat (valueOf ((bytes.drop 8).take 8))

structure Frame where
  header : FrameHeader
  payload : List UInt8
  deriving DecidableEq

def Frame.bytes (frame : Frame) : List UInt8 := frame.header.bytes ++ frame.payload

/-- `frame_bytes`. -/
def frameBytes (type : UInt16) (payload : List UInt8) : Except String (List UInt8) :=
  if payload.length > frameMaxPayload then .error "frame payload exceeds VDS_FRAME_MAX_PAYLOAD"
  else .ok (Frame.bytes ⟨⟨type, 0, UInt32.ofNat payload.length, 0⟩, payload⟩)

/-- What `read_handle_exact` is reading. -/
inductive Part
  | header
  | payload (header : FrameHeader)

def Part.size : Part → Nat
  | .header => headerSize
  | .payload announcing => announcing.length.toNat

inductive ReadError
  | closed
  | stopped
  | failed (reason : String)
  | oversized (length : UInt32)
  deriving DecidableEq

/-- What the exception says. -/
def ReadError.text (label : String) : ReadError → String
  | .closed => label ++ " closed"
  | .stopped => label ++ " read stopped"
  | .failed reason => label ++ " read failed: " ++ reason
  | .oversized length => label ++ " oversized frame length=" ++ toString length

/-- The part that is read and what there is of it, and the frames that were returned. -/
structure Reader where
  part : Part
  got : List UInt8
  frames : List Frame
  error : Option ReadError

def Reader.new : Reader := ⟨.header, [], [], none⟩

def Reader.remaining (reader : Reader) : Nat := reader.part.size - reader.got.length

/-- `read_handle_frame` behind a `read_handle_exact`. -/
def Reader.settle (reader : Reader) : Reader :=
  if reader.remaining > 0 then reader
  else
    match reader.part with
    | .header =>
        let header := headerOf reader.got
        if header.length.toNat > frameMaxPayload then
          { reader with error := some (.oversized header.length) }
        else if header.length = 0 then
          { reader with got := [], frames := reader.frames ++ [⟨header, []⟩] }
        else { reader with part := .payload header, got := [] }
    | .payload header =>
        { reader with
          part := .header
          got := []
          frames := reader.frames ++ [⟨header, reader.got⟩] }

/-- A read that succeeds. -/
def Reader.receive (reader : Reader) (bytes : List UInt8) : Reader :=
  if bytes = [] then { reader with error := some .closed }
  else { reader with got := reader.got ++ bytes }.settle

end Model

section Headers

variable {bytes : List UInt8} {frame other : Frame}

theorem length_bytes (header : FrameHeader) : header.bytes.length = headerSize := by
  simp only [FrameHeader.bytes, List.length_append, length_bytesOf]
  rfl

theorem headerOf_append {type flags length sequence : List UInt8} (htype : type.length = 2)
    (hflags : flags.length = 2) (hlength : length.length = 4) (hsequence : sequence.length = 8)
    (rest : List UInt8) :
    headerOf (type ++ (flags ++ (length ++ (sequence ++ rest)))) =
      ⟨UInt16.ofNat (valueOf type), UInt16.ofNat (valueOf flags),
        UInt32.ofNat (valueOf length), UInt64.ofNat (valueOf sequence)⟩ := by
  have hlast : (type ++ (flags ++ (length ++ (sequence ++ rest)))).drop 8 = sequence ++ rest := by
    rw [← List.drop_drop (i := 6) (j := 2), List.drop_left' htype,
      ← List.drop_drop (i := 4) (j := 2), List.drop_left' hflags, List.drop_left' hlength]
  have hthird : (type ++ (flags ++ (length ++ (sequence ++ rest)))).drop 4 =
      length ++ (sequence ++ rest) := by
    rw [← List.drop_drop (i := 2) (j := 2), List.drop_left' htype, List.drop_left' hflags]
  simp only [headerOf]
  rw [hlast, hthird, List.take_left' htype, List.drop_left' htype, List.take_left' hflags,
    List.take_left' hlength, List.take_left' hsequence]

/-- The fields of a header in its bytes. -/
theorem headerOf_bytes (header : FrameHeader) (rest : List UInt8) :
    headerOf (header.bytes ++ rest) = header := by
  obtain ⟨type, flags, length, sequence⟩ := header
  have htype : type.toNat % 256 ^ 2 = type.toNat := Nat.mod_eq_of_lt type.toNat_lt
  have hflags : flags.toNat % 256 ^ 2 = flags.toNat := Nat.mod_eq_of_lt flags.toNat_lt
  have hlength : length.toNat % 256 ^ 4 = length.toNat := Nat.mod_eq_of_lt length.toNat_lt
  have hsequence : sequence.toNat % 256 ^ 8 = sequence.toNat :=
    Nat.mod_eq_of_lt sequence.toNat_lt
  simp only [FrameHeader.bytes, List.append_assoc]
  rw [headerOf_append (length_bytesOf 2 _) (length_bytesOf 2 _) (length_bytesOf 4 _)
    (length_bytesOf 8 _), valueOf_bytesOf, valueOf_bytesOf, valueOf_bytesOf, valueOf_bytesOf,
    htype, hflags, hlength, hsequence, UInt16.ofNat_toNat, UInt16.ofNat_toNat,
    UInt32.ofNat_toNat, UInt64.ofNat_toNat]

/-- Every sixteen bytes are those of a header. -/
theorem bytes_headerOf (h : bytes.length = headerSize) : (headerOf bytes).bytes = bytes := by
  have h : bytes.length = 16 := h
  have hpart (start count : Nat) (hle : start + count ≤ 16) :
      ((bytes.drop start).take count).length = count := by
    rw [List.length_take, List.length_drop]
    omega
  have htype : (bytes.take 2).length = 2 := hpart 0 2 (by decide)
  have hflags := hpart 2 2 (by decide)
  have hlength := hpart 4 4 (by decide)
  have hsequence := hpart 8 8 (by decide)
  have hvalue (part : List UInt8) : valueOf part % 256 ^ part.length = valueOf part :=
    Nat.mod_eq_of_lt (valueOf_lt part)
  have hround (count : Nat) (part : List UInt8) (hcount : part.length = count) :
      bytesOf count (valueOf part % 256 ^ count) = part := by
    rw [← hcount, hvalue, bytesOf_valueOf]
  have hbytes : bytes = bytes.take 2 ++ ((bytes.drop 2).take 2 ++
      ((bytes.drop 4).take 4 ++ (bytes.drop 8).take 8)) := by
    have hlast : (bytes.drop 8).take 8 = bytes.drop 8 := by
      rw [List.take_of_length_le]
      rw [List.length_drop]
      omega
    rw [hlast, ← List.drop_drop (i := 4) (j := 4), List.take_append_drop,
      ← List.drop_drop (i := 2) (j := 2), List.take_append_drop, List.take_append_drop]
  simp only [FrameHeader.bytes, headerOf, UInt16.toNat_ofNat', UInt32.toNat_ofNat',
    UInt64.toNat_ofNat']
  refine Eq.trans ?_ hbytes.symm
  exact congrArg₂ _ (hround 2 _ htype) (congrArg₂ _ (hround 2 _ hflags)
    (congrArg₂ _ (hround 4 _ hlength) (hround 8 _ hsequence)))

theorem bytes_injective (h : frame.bytes = other.bytes) : frame = other := by
  obtain ⟨header, payload⟩ := frame
  obtain ⟨header', payload'⟩ := other
  obtain ⟨hheader, rfl⟩ := List.append_inj h (by rw [length_bytes, length_bytes])
  have hfields := congrArg headerOf hheader
  rw [← List.append_nil header.bytes, ← List.append_nil header'.bytes, headerOf_bytes,
    headerOf_bytes] at hfields
  rw [hfields]

/-- The payload is as long as the header says. -/
def Frame.Sized (frame : Frame) : Prop := frame.payload.length = frame.header.length.toNat

/-- The length in a header. -/
def announced (header : List UInt8) : Nat := (headerOf header).length.toNat

theorem delimited_bytes (h : frame.Sized) : Delimited headerSize announced frame.bytes := by
  have hlength : frame.bytes.length = headerSize + frame.payload.length := by
    rw [Frame.bytes, List.length_append, length_bytes]
  refine ⟨by omega, ?_⟩
  have hheader : frame.bytes.take headerSize = frame.header.bytes :=
    List.take_left' (length_bytes _)
  rw [hlength, hheader, announced, ← List.append_nil frame.header.bytes, headerOf_bytes, h]

theorem prefixFree_frames : PrefixFree (Delimited headerSize announced) :=
  prefixFree_delimited (by decide)

end Headers

section Reading

variable {reader : Reader} {stream bytes : List UInt8} {frames sent : List Frame}

/-- The bytes of a sequence of frames. -/
def streamOf (frames : List Frame) : List UInt8 := (frames.map Frame.bytes).flatten

theorem streamOf_append (frames rest : List Frame) :
    streamOf (frames ++ rest) = streamOf frames ++ streamOf rest := by
  rw [streamOf, List.map_append, List.flatten_append]
  rfl

theorem streamOf_singleton (frame : Frame) : streamOf [frame] = frame.bytes :=
  List.flatten_singleton

/-- What was read of the next frame. -/
def Reader.begun (reader : Reader) : List UInt8 :=
  match reader.part with
  | .header => reader.got
  | .payload header => header.bytes ++ reader.got

/-- A running reader has an incomplete part of a frame that is not too long. -/
structure Reader.Waiting (reader : Reader) : Prop where
  incomplete : reader.got.length < reader.part.size
  bounded : ∀ header, reader.part = .payload header → header.length.toNat ≤ frameMaxPayload

/-- The reader has read the stream. -/
structure Reader.HasRead (reader : Reader) (stream : List UInt8) : Prop where
  stream_eq : stream = streamOf reader.frames ++ reader.begun
  sized : ∀ frame ∈ reader.frames, frame.Sized
  waiting : reader.error = none → reader.Waiting

theorem Reader.HasRead.new : Reader.new.HasRead [] where
  stream_eq := rfl
  sized := fun _ h => absurd h List.not_mem_nil
  waiting := fun _ => ⟨Nat.zero_lt_succ 15, fun _ h => by cases h⟩

/-- A header that is complete starts a payload, ends its frame, or is refused. -/
theorem Reader.HasRead.settle_header {got : List UInt8} {error : Option ReadError}
    (hlength : got.length = headerSize) (hframes : ∀ frame ∈ frames, frame.Sized) :
    (Reader.settle ⟨.header, got, frames, error⟩).HasRead (streamOf frames ++ got) := by
  have hbytes : (headerOf got).bytes = got := bytes_headerOf hlength
  have hnone : ¬(Reader.remaining ⟨.header, got, frames, error⟩ > 0) :=
    Nat.not_lt_of_le (Nat.sub_eq_zero_of_le hlength.ge).le
  rw [Reader.settle, if_neg hnone]
  dsimp only
  split_ifs with hlong hempty
  · exact ⟨rfl, hframes, fun herror => absurd herror (Option.some_ne_none _)⟩
  · refine ⟨?_, ?_, fun _ => ⟨?_, fun _ h => by cases h⟩⟩
    · simp only [Reader.begun, streamOf_append, streamOf_singleton, Frame.bytes, hbytes,
        List.append_nil]
    · intro frame hframe
      rcases List.mem_append.mp hframe with hold | hnew
      · exact hframes frame hold
      · obtain rfl := List.mem_singleton.mp hnew
        exact (congrArg UInt32.toNat hempty).symm
    · exact Nat.zero_lt_succ 15
  · refine ⟨?_, hframes, fun _ => ⟨?_, ?_⟩⟩
    · simp only [Reader.begun, hbytes, List.append_nil]
    · exact Nat.pos_of_ne_zero fun hzero => hempty (UInt32.toNat_inj.mp hzero)
    · intro header hpart
      obtain rfl := Part.payload.inj hpart
      exact Nat.le_of_not_lt hlong

/-- A payload that is complete ends its frame. -/
theorem Reader.HasRead.settle_payload {header : FrameHeader} {got : List UInt8}
    {error : Option ReadError} (hlength : got.length = header.length.toNat)
    (hframes : ∀ frame ∈ frames, frame.Sized) :
    (Reader.settle ⟨.payload header, got, frames, error⟩).HasRead
      (streamOf frames ++ (header.bytes ++ got)) := by
  have hnone : ¬(Reader.remaining ⟨.payload header, got, frames, error⟩ > 0) :=
    Nat.not_lt_of_le (Nat.sub_eq_zero_of_le hlength.ge).le
  rw [Reader.settle, if_neg hnone]
  refine ⟨?_, ?_, fun _ => ⟨Nat.zero_lt_succ 15, fun _ h => by cases h⟩⟩
  · simp only [Reader.begun, streamOf_append, streamOf_singleton, Frame.bytes, List.append_nil]
  · intro frame hframe
    rcases List.mem_append.mp hframe with hold | hnew
    · exact hframes frame hold
    · obtain rfl := List.mem_singleton.mp hnew
      exact hlength

/-- A read takes the bytes behind those that were read. -/
theorem Reader.HasRead.receive (h : reader.HasRead stream) (hrunning : reader.error = none)
    (hbytes : bytes.length ≤ reader.remaining) :
    (reader.receive bytes).HasRead (stream ++ bytes) := by
  have hwaiting := h.waiting hrunning
  obtain ⟨part, got, frames, error⟩ := reader
  rw [Reader.receive, h.stream_eq]
  split_ifs with hnone
  · rw [hnone, List.append_nil]
    exact ⟨rfl, h.sized, fun herror => absurd herror (Option.some_ne_none _)⟩
  · have hle : bytes.length ≤ part.size - got.length := hbytes
    have hincomplete : got.length < part.size := hwaiting.incomplete
    have hlength : (got ++ bytes).length = got.length + bytes.length := List.length_append
    by_cases hmore : Reader.remaining ⟨part, got ++ bytes, frames, error⟩ > 0
    · rw [Reader.settle, if_pos hmore]
      refine ⟨?_, h.sized, fun _ => ⟨Nat.lt_of_sub_pos hmore, hwaiting.bounded⟩⟩
      cases part with
      | header => exact List.append_assoc _ _ _
      | payload header => simp only [Reader.begun, List.append_assoc]
    · have hmore : ¬part.size - (got ++ bytes).length > 0 := hmore
      have hfull : (got ++ bytes).length = part.size := by omega
      cases part with
      | header =>
          rw [List.append_assoc]
          exact Reader.HasRead.settle_header hfull h.sized
      | payload header =>
          simp only [Reader.begun, List.append_assoc]
          exact Reader.HasRead.settle_payload hfull h.sized

theorem delimited_of_mem (hframes : ∀ frame ∈ frames, frame.Sized) :
    ∀ word ∈ frames.map Frame.bytes, Delimited headerSize announced word := by
  intro word hword
  obtain ⟨frame, hframe, rfl⟩ := List.mem_map.mp hword
  exact delimited_bytes (hframes frame hframe)

/-- Frames that a stream of frames begins with are its first frames. -/
theorem exists_rest {begun : List UInt8} (hframes : ∀ frame ∈ frames, frame.Sized)
    (hsent : ∀ frame ∈ sent, frame.Sized) (h : streamOf frames ++ begun <+: streamOf sent) :
    ∃ rest, sent = frames ++ rest ∧ begun <+: streamOf rest := by
  obtain ⟨rest, hrest, hbegun⟩ := prefixFree_frames.exists_rest (delimited_of_mem hframes)
    (delimited_of_mem hsent) h
  obtain ⟨read, others, rfl, hread, rfl⟩ := List.map_eq_append_iff.mp hrest
  obtain rfl := List.map_injective_iff.mpr (fun _ _ => bytes_injective) hread
  exact ⟨others, rfl, hbegun⟩

/-- A begun part with a whole header begins with the header of the next frame. -/
theorem header_eq {begun : List UInt8} {header : FrameHeader} {got : List UInt8} {next : Frame}
    {rest : List Frame} (hnext : next.Sized) (hfront : begun <+: streamOf (next :: rest))
    (hbegun : begun = header.bytes ++ got) : header = next.header := by
  have hlength : headerSize ≤ begun.length := by
    rw [hbegun, List.length_append, length_bytes]
    exact Nat.le_add_right _ _
  have hheader : header.bytes = next.header.bytes := by
    have htake := take_header_eq (delimited_bytes hnext) hfront hlength
    rwa [hbegun, List.take_left' (length_bytes _), Frame.bytes,
      List.take_left' (length_bytes _)] at htake
  have hfields := congrArg headerOf hheader
  rwa [← List.append_nil header.bytes, ← List.append_nil next.header.bytes, headerOf_bytes,
    headerOf_bytes] at hfields

/-- What was read of a stream of frames are its first frames and a front of the others. -/
theorem Reader.HasRead.exists_rest (h : reader.HasRead stream)
    (hsent : ∀ frame ∈ sent, frame.Sized) (hstream : stream <+: streamOf sent) :
    ∃ rest, sent = reader.frames ++ rest ∧ reader.begun <+: streamOf rest :=
  FrameStreams.exists_rest h.sized hsent (h.stream_eq ▸ hstream)

/-- The frames in front of something else are still found. -/
theorem Reader.HasRead.take_isPrefix {rest : List UInt8} (h : reader.HasRead stream)
    (hsent : ∀ frame ∈ sent, frame.Sized) (hstream : stream <+: streamOf sent ++ rest) :
    reader.frames.take sent.length <+: sent := by
  rw [h.stream_eq] at hstream
  obtain ⟨more, hmore⟩ := prefixFree_frames.take_isPrefix (delimited_of_mem h.sized)
    (delimited_of_mem hsent) hstream
  rw [List.length_map, ← List.map_take] at hmore
  obtain ⟨read, others, rfl, hread, -⟩ := List.map_eq_append_iff.mp hmore.symm
  obtain hsame := List.map_injective_iff.mpr (fun _ _ => bytes_injective) hread
  rw [← hsame]
  exact List.prefix_append _ _

/-- No frame of a stream of short frames is refused. -/
theorem Reader.HasRead.receive_error (h : reader.HasRead stream) (hrunning : reader.error = none)
    (hbytes : bytes.length ≤ reader.remaining) (hsome : bytes ≠ [])
    (hsent : ∀ frame ∈ sent, frame.Sized)
    (hshort : ∀ frame ∈ sent, frame.header.length.toNat ≤ frameMaxPayload)
    (hstream : stream ++ bytes <+: streamOf sent) : (reader.receive bytes).error = none := by
  obtain ⟨part, got, frames, error⟩ := reader
  obtain rfl : error = none := hrunning
  rw [Reader.receive, if_neg hsome]
  unfold Reader.settle
  split_ifs with hmore
  · rfl
  · cases part with
    | payload header => rfl
    | header =>
        have hmore : ¬headerSize - (got ++ bytes).length > 0 := hmore
        have hle : bytes.length ≤ headerSize - got.length := hbytes
        have hincomplete : got.length < headerSize := (h.waiting rfl).incomplete
        have hlength : (got ++ bytes).length = headerSize := by
          rw [List.length_append] at hmore ⊢
          omega
        have hheader : (headerOf (got ++ bytes)).bytes = got ++ bytes := bytes_headerOf hlength
        have hfront : streamOf frames ++ (got ++ bytes) <+: streamOf sent := by
          rw [← List.append_assoc]
          exact h.stream_eq ▸ hstream
        obtain ⟨rest, hrest, hbegun⟩ := FrameStreams.exists_rest h.sized hsent hfront
        cases rest with
        | nil =>
            have hempty := congrArg List.length (List.prefix_nil.mp hbegun)
            rw [hlength] at hempty
            cases hempty
        | cons next rest =>
            have hnext : next ∈ sent := hrest ▸ List.mem_append_right _ List.mem_cons_self
            have hfields := header_eq (hsent next hnext) hbegun
              (hheader.symm.trans (List.append_nil _).symm)
            dsimp only
            rw [hfields, if_neg (Nat.not_lt_of_le (hshort next hnext))]
            split_ifs
            · rfl
            · rfl

/-- A running reader that has read a whole stream has all of its frames. -/
theorem Reader.HasRead.all (h : reader.HasRead (streamOf sent)) (hrunning : reader.error = none)
    (hsent : ∀ frame ∈ sent, frame.Sized) : reader.frames = sent ∧ reader.begun = [] := by
  obtain ⟨rest, hrest, hbegun⟩ := h.exists_rest hsent (List.prefix_refl _)
  have hstream := h.stream_eq
  rw [hrest, streamOf_append] at hstream
  have hequal : streamOf rest = reader.begun := List.append_cancel_left hstream
  cases rest with
  | nil => exact ⟨by rw [hrest, List.append_nil], hequal.symm⟩
  | cons next others =>
      -- the begun part is shorter than the next frame
      exfalso
      have hincomplete := (h.waiting hrunning).incomplete
      have hnext := hsent next (hrest ▸ List.mem_append_right _ List.mem_cons_self)
      have hlong : next.bytes.length ≤ reader.begun.length := by
        rw [← hequal]
        exact (List.prefix_append _ _).length_le
      have hsize : next.bytes.length = headerSize + next.header.length.toNat := by
        rw [Frame.bytes, List.length_append, length_bytes, hnext]
      cases hpart : reader.part with
      | header =>
          have hlength : reader.begun.length = reader.got.length := by rw [Reader.begun, hpart]
          rw [hpart] at hincomplete
          simp only [Part.size] at hincomplete
          omega
      | payload header =>
          have hparts : reader.begun = header.bytes ++ reader.got := by rw [Reader.begun, hpart]
          have hlength : reader.begun.length = headerSize + reader.got.length := by
            rw [hparts, List.length_append, length_bytes]
          have hheader := header_eq hnext hbegun hparts
          rw [hpart, hheader] at hincomplete
          simp only [Part.size] at hincomplete
          omega

end Reading

section Splitting

variable {bytes rest : List UInt8} {frames : List Frame}

/-- Bytes that begin with no whole frame of bounded length. -/
def Stuck (bytes : List UInt8) : Prop :=
  bytes.length < headerSize ∨ frameMaxPayload < announced bytes ∨
    bytes.length < headerSize + announced bytes

instance (bytes : List UInt8) : Decidable (Stuck bytes) :=
  inferInstanceAs (Decidable (_ ∨ _ ∨ _))

/-- A frame that `frame_bytes` can have built. -/
structure Frame.Sendable (frame : Frame) : Prop where
  sized : frame.Sized
  short : frame.header.length.toNat ≤ frameMaxPayload

/-- The frames at the front of a buffer, and what is behind them. -/
def splitFrames (bytes : List UInt8) : List Frame × List UInt8 :=
  if Stuck bytes then ([], bytes)
  else
    let size := headerSize + announced bytes
    let (frames, rest) := splitFrames (bytes.drop size)
    (⟨headerOf bytes, (bytes.take size).drop headerSize⟩ :: frames, rest)
termination_by bytes.length
decreasing_by
  rename_i h
  have hlong : ¬bytes.length < headerSize := fun hshort => h (.inl hshort)
  have hsize : headerSize = 16 := rfl
  rw [List.length_drop]
  omega

theorem announced_bytes (frame : Frame) (rest : List UInt8) :
    announced (frame.bytes ++ rest) = frame.header.length.toNat := by
  rw [announced, Frame.bytes, List.append_assoc, headerOf_bytes]

theorem length_frame {frame : Frame} (h : frame.Sized) :
    frame.bytes.length = headerSize + frame.header.length.toNat := by
  rw [Frame.bytes, List.length_append, length_bytes, h]

theorem not_stuck_frame {frame : Frame} (h : frame.Sendable) (rest : List UInt8) :
    ¬Stuck (frame.bytes ++ rest) := by
  have hlength := length_frame h.sized
  have hshort := h.short
  rw [Stuck, announced_bytes, List.length_append, hlength]
  omega

/-- Frames are found again in front of bytes that are no frame. -/
theorem splitFrames_streamOf (hframes : ∀ frame ∈ frames, frame.Sendable) (hrest : Stuck rest) :
    splitFrames (streamOf frames ++ rest) = (frames, rest) := by
  induction frames with
  | nil =>
      rw [splitFrames]
      exact if_pos hrest
  | cons frame frames ih =>
      have hframe := hframes frame List.mem_cons_self
      have hstream : streamOf (frame :: frames) ++ rest =
          frame.bytes ++ (streamOf frames ++ rest) := List.append_assoc _ _ _
      have hlength := length_frame hframe.sized
      have hpayload : frame.bytes.drop headerSize = frame.payload :=
        List.drop_left' (length_bytes _)
      rw [hstream, splitFrames, if_neg (not_stuck_frame hframe _), announced_bytes, ← hlength]
      dsimp only
      rw [List.drop_left' rfl, List.take_left' rfl,
        ih fun other hother => hframes other (List.mem_cons_of_mem _ hother), hpayload,
        Frame.bytes, List.append_assoc, headerOf_bytes]

/-- A frame at the front of a buffer. -/
theorem exists_frame (h : ¬Stuck bytes) :
    ∃ frame : Frame, frame.Sendable ∧ headerOf bytes = frame.header ∧
      (bytes.take (headerSize + announced bytes)).drop headerSize = frame.payload ∧
      bytes = frame.bytes ++ bytes.drop (headerSize + announced bytes) := by
  rw [Stuck, not_or, not_or, Nat.not_lt, Nat.not_lt, Nat.not_lt] at h
  obtain ⟨hlong, hshort, hwhole⟩ := h
  have hheader : (headerOf bytes).bytes = bytes.take headerSize := by
    have htake : headerOf (bytes.take headerSize) = headerOf bytes := by
      simp only [headerOf, headerSize, List.drop_take, List.take_take]
      rfl
    rw [← htake]
    exact bytes_headerOf (List.length_take_of_le hlong)
  refine ⟨⟨headerOf bytes, (bytes.take (headerSize + announced bytes)).drop headerSize⟩,
    ⟨?_, hshort⟩,
    rfl, rfl, ?_⟩
  · rw [Frame.Sized, List.length_drop, List.length_take_of_le hwhole, Nat.add_sub_cancel_left]
    rfl
  · rw [Frame.bytes, hheader]
    have hfront : bytes.take headerSize =
        (bytes.take (headerSize + announced bytes)).take headerSize := by
      rw [List.take_take, Nat.min_eq_left (Nat.le_add_right _ _)]
    rw [hfront, List.take_append_drop, List.take_append_drop]

/-- The frames of a buffer, and that nothing else behind them is a frame. -/
theorem splitFrames_spec (bytes : List UInt8) :
    bytes = streamOf (splitFrames bytes).1 ++ (splitFrames bytes).2 ∧
      (∀ frame ∈ (splitFrames bytes).1, frame.Sendable) ∧ Stuck (splitFrames bytes).2 := by
  fun_induction splitFrames bytes with
  | case1 bytes h => exact ⟨rfl, fun _ hmem => absurd hmem List.not_mem_nil, h⟩
  | case2 bytes h size frames rest hsplit ih =>
      rw [hsplit] at ih
      obtain ⟨hbytes, hframes, hrest⟩ := ih
      obtain ⟨frame, hframe, hheader, hpayload, hfront⟩ := exists_frame h
      rw [hheader, hpayload]
      refine ⟨?_, ?_, hrest⟩
      · refine hfront.trans ?_
        rw [hbytes]
        exact (List.append_assoc _ _ _).symm
      · intro other hother
        rcases List.mem_cons.mp hother with rfl | hother
        · exact hframe
        · exact hframes other hother

/-- There is one way to read a buffer. -/
theorem splitFrames_eq_iff : splitFrames bytes = (frames, rest) ↔
    bytes = streamOf frames ++ rest ∧ (∀ frame ∈ frames, frame.Sendable) ∧ Stuck rest := by
  constructor
  · intro h
    have hspec := splitFrames_spec bytes
    rwa [h] at hspec
  · rintro ⟨rfl, hframes, hrest⟩
    exact splitFrames_streamOf hframes hrest

end Splitting

end VirtualDualSense.Protocol.FrameStreams
