import VirtualDualSense.WinDrv.ControlUrb
import VirtualDualSense.Lib.Refinements
import VirtualDualSense.Lib.Rings
import VirtualDualSense.Lib.Words

/-!
# The byte rings of the Windows bus driver

A port of `vds_usb.sys` keeps the frames for the daemon in its control ring and the
microphone audio from it in its audio-in ring. Under their locks the two are byte queues: the
first takes a frame whole or not at all, the second keeps the newest bytes.

## Implementation notes

A `ULONG` is a `UInt32`, with its arithmetic. A copy that leaves an array fails. The port is
the one that the index selects.
-/

namespace VirtualDualSense.WinDrv.ByteRings

open Lib.Refinements Lib.Rings Lib.Words Protocol.Frames Hcd.UsbCore ControlUrb

section Constants

def vdsControlRingSize : UInt32 := 256 * 1024
def audioInRingCapacity : Nat := 65536
def vdsAudioInRingSize : UInt32 := 65536
def vdsFrameMaxPayload : UInt32 := 4096
def vdsFrameHeaderSize : UInt32 := 16

theorem toNat_vdsControlRingSize : vdsControlRingSize.toNat = controlRingCapacity := by decide

theorem toNat_vdsAudioInRingSize : vdsAudioInRingSize.toNat = audioInRingCapacity := by decide

theorem toNat_vdsFrameMaxPayload : vdsFrameMaxPayload.toNat = frameMaxPayload := by decide

theorem toNat_vdsFrameHeaderSize : vdsFrameHeaderSize.toNat = frameHeaderSize := by decide

end Constants

section Ports

instance : NeZero controlRingCapacity := ⟨by decide⟩

instance : NeZero audioInRingCapacity := ⟨by decide⟩

/-- The control ring of a port. -/
structure ControlRing where
  controlRingHead : UInt32
  controlRingSize : UInt32
  frameSequence : UInt64
  controlRing : Fin controlRingCapacity → UInt8

/-- The audio-in ring of a port. -/
structure AudioInRing where
  audioInRingHead : UInt32
  audioInRingSize : UInt32
  audioInRing : Fin audioInRingCapacity → UInt8

/-- The memory of a new port is zero. -/
def ControlRing.new : ControlRing := ⟨0, 0, 0, fun _ => 0⟩

def AudioInRing.new : AudioInRing := ⟨0, 0, fun _ => 0⟩

/-- What a pointer and a `ULONG` describe. -/
structure Buffer where
  bytes : List UInt8
  length_lt : bytes.length < 4294967296

def Buffer.size (buffer : Buffer) : UInt32 := UInt32.ofNat buffer.bytes.length

theorem Buffer.toNat_size (buffer : Buffer) : buffer.size.toNat = buffer.bytes.length :=
  UInt32.toNat_ofNat_of_lt' buffer.length_lt

inductive NtStatus
  | success
  | invalidBufferSize
  | bufferOverflow
  deriving DecidableEq

end Ports

section Copies

variable {n : Nat}

/-- The copies of a write: behind the bytes in the ring, and past the end of the array from
its start. -/
def copyAround (cells : Fin n → UInt8) (capacity head size : UInt32) (bytes : List UInt8)
    (byteCount : UInt32) : Option (Fin n → UInt8) := do
  let tail := (head + size) % capacity
  let first := min byteCount (capacity - tail)
  let cells ← copyIn cells tail.toNat (← fetch bytes 0 first.toNat)
  if byteCount > first then
    copyIn cells 0 (← fetch bytes first.toNat (byteCount - first).toNat)
  else return cells

/-- The copies of a read into a buffer. -/
def copyBack (cells : Fin n → UInt8) (capacity head : UInt32) (bytes : List UInt8)
    (byteCount : UInt32) : Option (List UInt8) := do
  let first := min byteCount (capacity - head)
  let bytes ← store bytes 0 (← copyOut cells head.toNat first.toNat)
  if byteCount > first then
    store bytes first.toNat (← copyOut cells 0 (byteCount - first).toNat)
  else return bytes

end Copies

section Control

/-- `VdsControlRingWriteLocked`. -/
def controlRingWriteLocked (port : ControlRing) (bytes : List UInt8) (byteCount : UInt32) :
    Option ControlRing := do
  let ring ← copyAround port.controlRing vdsControlRingSize port.controlRingHead
    port.controlRingSize bytes byteCount
  return { port with controlRing := ring, controlRingSize := port.controlRingSize + byteCount }

/-- `VdsControlRingReadLocked`: the bytes go to the front of the buffer. -/
def controlRingReadLocked (port : ControlRing) (bytes : List UInt8) (byteCount : UInt32) :
    Option (ControlRing × List UInt8 × UInt32) := do
  let byteCount := min byteCount port.controlRingSize
  let bytes ← copyBack port.controlRing vdsControlRingSize port.controlRingHead bytes byteCount
  return ({ port with
    controlRingHead := (port.controlRingHead + byteCount) % vdsControlRingSize
    controlRingSize := port.controlRingSize - byteCount }, bytes, byteCount)

/-- `struct vds_frame_header` in memory. -/
def headerBytes (frameType : UInt16) (length : UInt32) (sequence : UInt64) : List UInt8 :=
  le16 frameType ++ le16 0 ++ leBytes32 length ++ leBytes64 sequence

/-- The locked part of `VdsQueueFrame`. -/
def queueFrameLocked (port : ControlRing) (frameType : UInt16) (payload : Buffer) :
    Option (ControlRing × NtStatus) :=
  let payloadSize := payload.size
  if payloadSize > vdsFrameMaxPayload then some (port, .invalidBufferSize)
  else
    let frameSize := vdsFrameHeaderSize + payloadSize
    if frameSize > vdsControlRingSize then some (port, .invalidBufferSize)
    else if frameSize > vdsControlRingSize - port.controlRingSize then some (port, .bufferOverflow)
    else do
      let sequence := port.frameSequence + 1
      let port ← controlRingWriteLocked { port with frameSequence := sequence }
        (headerBytes frameType payloadSize sequence) vdsFrameHeaderSize
      let port ← if payloadSize > 0 then controlRingWriteLocked port payload.bytes payloadSize
        else some port
      return (port, .success)

end Control

section AudioIn

/-- The part of `VdsAudioInRingWriteLocked` that drops the oldest bytes. -/
def makeRoom (port : AudioInRing) (payloadSize : UInt32) : AudioInRing :=
  let freeSize := vdsAudioInRingSize - port.audioInRingSize
  if payloadSize > freeSize then
    let dropSize := payloadSize - freeSize
    { port with
      audioInRingHead := (port.audioInRingHead + dropSize) % vdsAudioInRingSize
      audioInRingSize := port.audioInRingSize - dropSize }
  else port

/-- The part that copies what fits. -/
def appendAudioIn (port : AudioInRing) (payload : List UInt8) (payloadSize : UInt32) :
    Option AudioInRing := do
  let ring ← copyAround port.audioInRing vdsAudioInRingSize port.audioInRingHead
    port.audioInRingSize payload payloadSize
  return { port with audioInRing := ring, audioInRingSize := port.audioInRingSize + payloadSize }

/-- `VdsAudioInRingWriteLocked`. -/
def audioInRingWriteLocked (port : AudioInRing) (payload : List UInt8) (payloadSize : UInt32) :
    Option AudioInRing :=
  if payloadSize ≥ vdsAudioInRingSize then
    let payload := payload.drop (payloadSize - vdsAudioInRingSize).toNat
    let port := { port with audioInRingHead := 0, audioInRingSize := 0 }
    appendAudioIn (makeRoom port vdsAudioInRingSize) payload vdsAudioInRingSize
  else appendAudioIn (makeRoom port payloadSize) payload payloadSize

/-- `VdsAudioInRingReadLocked`. -/
def audioInRingReadLocked (port : AudioInRing) (buffer : List UInt8) (bufferSize : UInt32) :
    Option (AudioInRing × List UInt8 × UInt32) := do
  let readSize := min bufferSize port.audioInRingSize
  let buffer ← copyBack port.audioInRing vdsAudioInRingSize port.audioInRingHead buffer readSize
  return ({ port with
    audioInRingHead := (port.audioInRingHead + readSize) % vdsAudioInRingSize
    audioInRingSize := port.audioInRingSize - readSize }, buffer, readSize)

/-- The locked part of `VdsResetAudioInPcm`. -/
def resetAudioInPcmLocked (port : AudioInRing) : AudioInRing :=
  { port with audioInRingHead := 0, audioInRingSize := 0 }

end AudioIn

section Queues

variable {n : Nat} [NeZero n] {cells : Fin n → UInt8} {capacity head size count : UInt32}
  {queue bytes : List UInt8}

/-- The ring holds the queue, with its head and its size in their bounds. -/
structure Holds (cells : Fin n → UInt8) (head size : UInt32) (queue : List UInt8) : Prop where
  head_lt : head.toNat < n
  size_le : size.toNat ≤ n
  contents_eq : contents cells head.toNat size.toNat = queue

theorem Holds.length_eq (holds : Holds cells head size queue) : queue.length = size.toNat := by
  rw [← holds.contents_eq, length_contents]

theorem Holds.empty (cells : Fin n → UInt8) : Holds cells 0 0 [] where
  head_lt := Nat.pos_of_neZero n
  size_le := Nat.zero_le n
  contents_eq := rfl

omit [NeZero n] in
theorem toNat_first (hcapacity : capacity.toNat = n) {start : UInt32} (hstart : start.toNat < n) :
    (min count (capacity - start)).toNat = min count.toNat (n - start.toNat) := by
  rw [toNat_min, toNat_sub_of_le (by omega), hcapacity]

/-- The copies of a write are those of the ring. -/
theorem copyAround_eq (hcapacity : capacity.toNat = n) (hn : n ≤ 2147483648)
    (hhead : head.toNat < n) (hsize : size.toNat ≤ n) (hcount : count.toNat = bytes.length) :
    copyAround cells capacity head size bytes count =
      writeAround cells ((head.toNat + size.toNat) % n) bytes := by
  have htail : ((head + size) % capacity).toNat = (head.toNat + size.toNat) % n := by
    rw [UInt32.toNat_mod, toNat_add_of_lt (by omega), hcapacity]
  have htail_lt : ((head + size) % capacity).toNat < n := by
    rw [htail]
    exact Nat.mod_lt _ (Nat.pos_of_neZero n)
  have hfirst : (min count (capacity - (head + size) % capacity)).toNat =
      min count.toNat (n - ((head + size) % capacity).toNat) := toNat_first hcapacity htail_lt
  simp only [copyAround, writeAround]
  generalize min count (capacity - (head + size) % capacity) = first at hfirst ⊢
  rw [htail, hcount] at hfirst
  rw [htail, fetch_front bytes (by omega), ← hfirst]
  simp only [Option.bind_eq_bind, Option.bind_some]
  refine congrArg (Option.bind _) (funext fun cells => ?_)
  by_cases hmore : first.toNat < bytes.length
  · have hrest : first.toNat + (count - first).toNat = bytes.length := by
      rw [toNat_sub_of_le (by omega)]
      omega
    have hword : count > first := UInt32.lt_iff_toNat_lt.mpr (hcount ▸ hmore)
    rw [if_pos hmore, if_pos hword, fetch_rest bytes hrest, Option.bind_some]
  · have hword : ¬count > first := fun h => hmore (hcount ▸ UInt32.lt_iff_toNat_lt.mp h)
    rw [if_neg hmore, if_neg hword]
    rfl

/-- The copies of a read put the front of the queue into the buffer. -/
theorem copyBack_eq (hcapacity : capacity.toNat = n) (hhead : head.toNat < n)
    (hcount : count.toNat ≤ n) (hbytes : count.toNat ≤ bytes.length) :
    copyBack cells capacity head bytes count =
      some (contents cells head.toNat count.toNat ++ bytes.drop count.toNat) := by
  have hfirst : (min count (capacity - head)).toNat = min count.toNat (n - head.toNat) :=
    toNat_first hcapacity hhead
  have hread : readAround cells head.toNat count.toNat =
      some (contents cells head.toNat count.toNat) := readAround_eq hhead hcount
  simp only [copyBack, readAround] at hread ⊢
  generalize min count (capacity - head) = first at hfirst ⊢
  rw [← hfirst] at hread
  obtain ⟨front, hfront, hread⟩ := Option.bind_eq_some_iff.mp hread
  have hlength : front.length = first.toNat := by
    rw [copyOut_eq (by omega)] at hfront
    rw [← Option.some.inj hfront, length_contents]
  simp only [hfront, Option.bind_eq_bind, Option.bind_some]
  rw [store_front bytes (by omega), Option.bind_some]
  by_cases hmore : first.toNat < count.toNat
  · rw [if_pos hmore] at hread
    obtain ⟨rest, hrest, hread⟩ := Option.map_eq_some_iff.mp hread
    have hrestLength : rest.length = count.toNat - first.toNat := by
      rw [copyOut_eq (by omega)] at hrest
      rw [← Option.some.inj hrest, length_contents]
    have hword : count > first := UInt32.lt_iff_toNat_lt.mpr hmore
    rw [if_pos hword, toNat_sub_of_le hmore.le]
    have hroom : rest.length ≤ (bytes.drop front.length).length := by
      rw [List.length_drop]
      omega
    have hall : front.length + rest.length = count.toNat := by omega
    rw [hrest, Option.bind_some, ← hlength, store_append front rest _ hroom, hread, List.drop_drop,
      hall]
  · rw [if_neg hmore] at hread
    have hword : ¬count > first := fun h => hmore (UInt32.lt_iff_toNat_lt.mp h)
    have hall : front.length = count.toNat := by omega
    rw [if_neg hword, hall, ← Option.some.inj hread]
    rfl

namespace Holds

/-- A write that fits puts the bytes behind the queue. -/
theorem write (holds : Holds cells head size queue) (hcapacity : capacity.toNat = n)
    (hn : n ≤ 2147483648) (hcount : count.toNat = bytes.length)
    (hroom : queue.length + bytes.length ≤ n) :
    ∃ cells', copyAround cells capacity head size bytes count = some cells' ∧
      Holds cells' head (size + count) (queue ++ bytes) := by
  have hsize := holds.length_eq
  have htail : (head.toNat + size.toNat) % n < n := Nat.mod_lt _ (Nat.pos_of_neZero n)
  have hfits : bytes.length ≤ n := by omega
  obtain ⟨cells', hwrite⟩ := exists_writeAround cells htail hfits
  have hsum : (size + count).toNat = size.toNat + bytes.length := by
    rw [toNat_add_of_lt (by omega), hcount]
  refine ⟨cells', ?_, holds.head_lt, by omega, ?_⟩
  · rw [copyAround_eq hcapacity hn holds.head_lt holds.size_le hcount, hwrite]
  · rw [hsum, contents_writeAround (by omega) hwrite, holds.contents_eq]

/-- Moving the head takes bytes off the front. -/
theorem advance (holds : Holds cells head size queue) (hcapacity : capacity.toNat = n)
    (hn : n ≤ 2147483648) (hcount : count.toNat ≤ size.toNat) :
    Holds cells ((head + count) % capacity) (size - count) (queue.drop count.toNat) := by
  have hhead : ((head + count) % capacity).toNat = (head.toNat + count.toNat) % n := by
    have := holds.head_lt
    have := holds.size_le
    rw [UInt32.toNat_mod, toNat_add_of_lt (by omega), hcapacity]
  refine ⟨?_, ?_, ?_⟩
  · rw [hhead]
    exact Nat.mod_lt _ (Nat.pos_of_neZero n)
  · rw [toNat_sub_of_le hcount]
    exact (Nat.sub_le _ _).trans holds.size_le
  · rw [hhead, contents_mod, toNat_sub_of_le hcount, ← drop_contents hcount, holds.contents_eq]

/-- A read returns the front of the queue. -/
theorem read (holds : Holds cells head size queue) (hcapacity : capacity.toNat = n)
    (hcount : count.toNat ≤ size.toNat) (hbytes : count.toNat ≤ bytes.length) :
    copyBack cells capacity head bytes count =
      some (queue.take count.toNat ++ bytes.drop count.toNat) := by
  rw [copyBack_eq hcapacity holds.head_lt (hcount.trans holds.size_le) hbytes,
    ← take_contents hcount, holds.contents_eq]

end Holds

end Queues

section Specification

/-- What an operation on a ring returns. -/
inductive Result
  | status (status : NtStatus)
  | read (buffer : List UInt8) (byteCount : Nat)
  | done
  deriving DecidableEq

/-- The front of a queue in a buffer. -/
def readFront (queue buffer : List UInt8) : Result :=
  .read (queue.take buffer.length ++ buffer.drop (min buffer.length queue.length))
    (min buffer.length queue.length)

/-- The bytes of the queued frames that were not read, and the sequence number of the last
frame. -/
structure FrameQueue where
  bytes : List UInt8
  sequence : UInt64

def FrameQueue.new : FrameQueue := ⟨[], 0⟩

/-- A frame as the reader gets it. -/
def frameBytesOf (frameType : UInt16) (payload : List UInt8) (sequence : UInt64) : List UInt8 :=
  headerBytes frameType (UInt32.ofNat payload.length) sequence ++ payload

/-- A frame that fits is queued whole, the others not at all. -/
def FrameQueue.push (q : FrameQueue) (frameType : UInt16) (payload : List UInt8) :
    FrameQueue × NtStatus :=
  if payload.length > frameMaxPayload then (q, .invalidBufferSize)
  else
    let frame := frameBytesOf frameType payload (q.sequence + 1)
    if q.bytes.length + frame.length ≤ controlRingCapacity then
      (⟨q.bytes ++ frame, q.sequence + 1⟩, .success)
    else (q, .bufferOverflow)

theorem FrameQueue.push_of_success {q : FrameQueue} {frameType : UInt16} {payload : List UInt8}
    (h : (q.push frameType payload).2 = .success) :
    (q.push frameType payload).1 =
      ⟨q.bytes ++ frameBytesOf frameType payload (q.sequence + 1), q.sequence + 1⟩ := by
  simp only [FrameQueue.push] at h ⊢
  split_ifs at h ⊢ with hlong hroom
  rfl

/-- A frame that is refused leaves the queue as it was. -/
theorem FrameQueue.push_of_ne_success {q : FrameQueue} {frameType : UInt16}
    {payload : List UInt8} (h : (q.push frameType payload).2 ≠ .success) :
    (q.push frameType payload).1 = q := by
  simp only [FrameQueue.push] at h ⊢
  split_ifs at h ⊢ with hlong hroom
  · rfl
  · exact absurd rfl h
  · rfl

inductive ControlOperation
  | queueFrame (frameType : UInt16) (payload : Buffer)
  | read (buffer : Buffer)

def FrameQueue.serve (q : FrameQueue) : ControlOperation → FrameQueue × Result
  | .queueFrame frameType payload =>
      let (q, status) := q.push frameType payload.bytes
      (q, .status status)
  | .read buffer =>
      ({ q with bytes := q.bytes.drop buffer.bytes.length }, readFront q.bytes buffer.bytes)

def controlStep (port : ControlRing) : ControlOperation → Option (ControlRing × Result)
  | .queueFrame frameType payload =>
      (queueFrameLocked port frameType payload).map fun (port, status) => (port, .status status)
  | .read buffer =>
      (controlRingReadLocked port buffer.bytes buffer.size).map fun (port, bytes, byteCount) =>
        (port, .read bytes byteCount.toNat)

inductive AudioInOperation
  | write (payload : Buffer)
  | read (buffer : Buffer)
  | reset

/-- The newest bytes of a queue. -/
def newest (count : Nat) (queue : List UInt8) : List UInt8 := queue.drop (queue.length - count)

/-- A byte queue that keeps the newest bytes. -/
def serveAudioIn (queue : List UInt8) : AudioInOperation → List UInt8 × Result
  | .write payload => (newest audioInRingCapacity (queue ++ payload.bytes), .done)
  | .read buffer => (queue.drop buffer.bytes.length, readFront queue buffer.bytes)
  | .reset => ([], .done)

def audioInStep (port : AudioInRing) : AudioInOperation → Option (AudioInRing × Result)
  | .write payload =>
      (audioInRingWriteLocked port payload.bytes payload.size).map fun port => (port, .done)
  | .read buffer =>
      (audioInRingReadLocked port buffer.bytes buffer.size).map fun (port, bytes, readSize) =>
        (port, .read bytes readSize.toNat)
  | .reset => some (resetAudioInPcmLocked port, .done)

end Specification

section Reads

variable {n : Nat} [NeZero n] {cells : Fin n → UInt8} {capacity head size : UInt32}
  {queue : List UInt8}

/-- A read takes the front of the queue. -/
theorem Holds.readFront (holds : Holds cells head size queue) (hcapacity : capacity.toNat = n)
    (hn : n ≤ 2147483648) (buffer : Buffer) :
    ∃ bytes, copyBack cells capacity head buffer.bytes (min buffer.size size) = some bytes ∧
      .read bytes (min buffer.size size).toNat = readFront queue buffer.bytes ∧
      Holds cells ((head + min buffer.size size) % capacity) (size - min buffer.size size)
        (queue.drop buffer.bytes.length) := by
  have hcount : (min buffer.size size).toNat = min buffer.bytes.length queue.length := by
    rw [toNat_min, buffer.toNat_size, holds.length_eq]
  have hlength := holds.length_eq
  have htake : queue.take (min buffer.bytes.length queue.length) = queue.take buffer.bytes.length :=
    List.take_eq_take_min.symm
  have hdrop : queue.drop (min buffer.bytes.length queue.length) =
      queue.drop buffer.bytes.length := by
    rcases Nat.le_total buffer.bytes.length queue.length with h | h
    · rw [Nat.min_eq_left h]
    · rw [Nat.min_eq_right h, List.drop_length, List.drop_eq_nil_of_le h]
  have hsize : (min buffer.size size).toNat ≤ size.toNat := by omega
  have hbuffer : (min buffer.size size).toNat ≤ buffer.bytes.length := by omega
  have hread := holds.read hcapacity hsize hbuffer
  have hadvance := holds.advance hcapacity hn hsize
  rw [hcount, htake] at hread
  rw [hcount, hdrop] at hadvance
  refine ⟨_, hread, ?_, hadvance⟩
  rw [hcount]
  rfl

end Reads

section Control

variable {port : ControlRing} {q : FrameQueue}

/-- The control ring holds the queue of frames. -/
structure HoldsFrames (port : ControlRing) (q : FrameQueue) : Prop where
  holds : Holds port.controlRing port.controlRingHead port.controlRingSize q.bytes
  sequence : port.frameSequence = q.sequence

theorem HoldsFrames.new : HoldsFrames .new .new := ⟨.empty _, rfl⟩

theorem controlRingCapacity_le : controlRingCapacity ≤ 2147483648 := by decide

theorem length_headerBytes (frameType : UInt16) (length : UInt32) (sequence : UInt64) :
    (headerBytes frameType length sequence).length = frameHeaderSize := rfl

theorem HoldsFrames.write (held : HoldsFrames port q) {bytes : List UInt8} {byteCount : UInt32}
    (hcount : byteCount.toNat = bytes.length)
    (hroom : q.bytes.length + bytes.length ≤ controlRingCapacity) :
    ∃ port', controlRingWriteLocked port bytes byteCount = some port' ∧
      HoldsFrames port' { q with bytes := q.bytes ++ bytes } := by
  obtain ⟨ring, hring, holds⟩ := held.holds.write toNat_vdsControlRingSize controlRingCapacity_le
    hcount hroom
  refine ⟨{ port with
    controlRing := ring, controlRingSize := port.controlRingSize + byteCount }, ?_, holds,
    held.sequence⟩
  rw [controlRingWriteLocked, hring]
  rfl

theorem HoldsFrames.read (held : HoldsFrames port q) (buffer : Buffer) :
    ∃ port', controlStep port (.read buffer) = some (port', readFront q.bytes buffer.bytes) ∧
      HoldsFrames port' { q with bytes := q.bytes.drop buffer.bytes.length } := by
  obtain ⟨bytes, hbytes, hresult, holds⟩ :=
    held.holds.readFront toNat_vdsControlRingSize controlRingCapacity_le buffer
  refine ⟨{ port with
    controlRingHead :=
      (port.controlRingHead + min buffer.size port.controlRingSize) % vdsControlRingSize
    controlRingSize := port.controlRingSize - min buffer.size port.controlRingSize }, ?_, holds,
    held.sequence⟩
  rw [controlStep, controlRingReadLocked, hbytes, ← hresult]
  rfl

/-- What a read returns of its buffer. -/
theorem HoldsFrames.readLocked (held : HoldsFrames port q) (buffer : Buffer) :
    ∃ port' bytes byteCount,
      controlRingReadLocked port buffer.bytes buffer.size = some (port', bytes, byteCount) ∧
        bytes.take byteCount.toNat = q.bytes.take buffer.bytes.length ∧
        HoldsFrames port' { q with bytes := q.bytes.drop buffer.bytes.length } := by
  obtain ⟨port', hstep, held'⟩ := held.read buffer
  obtain ⟨⟨port, bytes, byteCount⟩, hread, heq⟩ := Option.map_eq_some_iff.mp hstep
  obtain ⟨rfl, hresult⟩ := Prod.mk.inj heq
  obtain ⟨rfl, hcount⟩ := Result.read.inj hresult
  refine ⟨port, _, byteCount, hread, ?_, held'⟩
  rw [hcount]
  exact List.take_left' (List.length_take)

/-- The header and the payload of a frame, when both fit. -/
theorem HoldsFrames.writeFrame (held : HoldsFrames port q) (frameType : UInt16)
    {payload : Buffer} (sequence : UInt64)
    (hroom : q.bytes.length + (frameHeaderSize + payload.bytes.length) ≤ controlRingCapacity) :
    ∃ middle port', controlRingWriteLocked { port with frameSequence := sequence }
          (headerBytes frameType payload.size sequence) vdsFrameHeaderSize = some middle ∧
      (if payload.size > 0 then controlRingWriteLocked middle payload.bytes payload.size
        else some middle) = some port' ∧
      HoldsFrames port' ⟨q.bytes ++ frameBytesOf frameType payload.bytes sequence, sequence⟩ := by
  have hsize := payload.toNat_size
  have hnext : HoldsFrames { port with frameSequence := sequence } ⟨q.bytes, sequence⟩ :=
    ⟨held.holds, rfl⟩
  have hfirst : q.bytes.length + (headerBytes frameType payload.size sequence).length ≤
      controlRingCapacity := by
    rw [length_headerBytes]
    omega
  obtain ⟨middle, hmiddle, heldHeader⟩ := hnext.write toNat_vdsFrameHeaderSize hfirst
  rw [frameBytesOf, ← List.append_assoc]
  by_cases hempty : payload.bytes = []
  · have hzero : ¬payload.size > 0 := fun h => by
      have hlt := UInt32.lt_iff_toNat_lt.mp h
      rw [hsize, hempty] at hlt
      exact absurd hlt (Nat.lt_irrefl 0)
    refine ⟨middle, middle, hmiddle, if_neg hzero, ?_⟩
    rw [hempty, List.append_nil]
    rw [Buffer.size, hempty] at heldHeader
    exact heldHeader
  · have hpos : payload.size > 0 := by
      refine UInt32.lt_iff_toNat_lt.mpr ?_
      rw [hsize]
      exact List.length_pos_iff.mpr hempty
    have hrest : (q.bytes ++ headerBytes frameType payload.size sequence).length +
        payload.bytes.length ≤ controlRingCapacity := by
      rw [List.length_append, length_headerBytes, Nat.add_assoc]
      exact hroom
    obtain ⟨port', hport, heldPayload⟩ := heldHeader.write hsize hrest
    refine ⟨middle, port', hmiddle, ?_, heldPayload⟩
    rw [if_pos hpos, hport]

theorem HoldsFrames.queueFrame (held : HoldsFrames port q) (frameType : UInt16)
    (payload : Buffer) :
    ∃ port', queueFrameLocked port frameType payload =
        some (port', (q.push frameType payload.bytes).2) ∧
      HoldsFrames port' (q.push frameType payload.bytes).1 := by
  have hsize := payload.toNat_size
  have hmax := toNat_vdsFrameMaxPayload
  have hheader := toNat_vdsFrameHeaderSize
  have hring := toNat_vdsControlRingSize
  have hlength := held.holds.length_eq
  have hle := held.holds.size_le
  have hmaxValue : frameMaxPayload = 4096 := rfl
  have hheaderValue : frameHeaderSize = 16 := rfl
  have hringValue : controlRingCapacity = 262144 := rfl
  simp only [queueFrameLocked, FrameQueue.push, frameBytesOf, List.length_append,
    length_headerBytes]
  by_cases hlong : payload.bytes.length > frameMaxPayload
  · have hword : payload.size > vdsFrameMaxPayload := UInt32.lt_iff_toNat_lt.mpr (by omega)
    rw [if_pos hword, if_pos hlong]
    exact ⟨port, rfl, held⟩
  · have hword : ¬payload.size > vdsFrameMaxPayload := fun h => by
      have hlt := UInt32.lt_iff_toNat_lt.mp h
      omega
    have hframe : (vdsFrameHeaderSize + payload.size).toNat =
        frameHeaderSize + payload.bytes.length := by
      rw [toNat_add_of_lt (by omega), hheader, hsize]
    have hcapacity : ¬vdsFrameHeaderSize + payload.size > vdsControlRingSize := fun h => by
      have hlt := UInt32.lt_iff_toNat_lt.mp h
      omega
    have hfree : (vdsControlRingSize - port.controlRingSize).toNat =
        controlRingCapacity - q.bytes.length := by
      rw [toNat_sub_of_le (by omega), hring, hlength]
    have hfits : vdsFrameHeaderSize + payload.size > vdsControlRingSize - port.controlRingSize ↔
        ¬q.bytes.length + (frameHeaderSize + payload.bytes.length) ≤ controlRingCapacity := by
      refine UInt32.lt_iff_toNat_lt.trans ?_
      rw [hframe, hfree]
      omega
    rw [if_neg hword, if_neg hlong, if_neg hcapacity]
    by_cases hroom : q.bytes.length + (frameHeaderSize + payload.bytes.length) ≤
        controlRingCapacity
    · rw [if_neg (fun h => hfits.mp h hroom), if_pos hroom, held.sequence]
      obtain ⟨middle, port', hheaderWrite, hpayloadWrite, heldFrame⟩ :=
        held.writeFrame frameType (q.sequence + 1) hroom
      refine ⟨port', ?_, heldFrame⟩
      rw [hheaderWrite, Option.bind_eq_bind, Option.bind_some]
      by_cases hpos : payload.size > 0
      · rw [if_pos hpos] at hpayloadWrite ⊢
        rw [hpayloadWrite]
        rfl
      · rw [if_neg hpos] at hpayloadWrite ⊢
        rw [hpayloadWrite]
        rfl
    · rw [if_pos (hfits.mpr hroom), if_neg hroom]
      exact ⟨port, rfl, held⟩

/-- The control ring refines the queue of whole frames. -/
theorem refines_frameQueue : Refines controlStep FrameQueue.serve HoldsFrames := by
  intro port q operation held
  cases operation with
  | queueFrame frameType payload =>
      obtain ⟨port', hqueue, held'⟩ := held.queueFrame frameType payload
      refine ⟨port', ?_, held'⟩
      rw [controlStep, hqueue]
      rfl
  | read buffer => exact held.read buffer

end Control

section AudioIn

variable {port : AudioInRing} {queue : List UInt8}

/-- The audio-in ring holds the queue of bytes. -/
structure HoldsAudio (port : AudioInRing) (queue : List UInt8) : Prop where
  holds : Holds port.audioInRing port.audioInRingHead port.audioInRingSize queue

theorem HoldsAudio.new : HoldsAudio .new [] := ⟨.empty _⟩

theorem HoldsAudio.reset (port : AudioInRing) : HoldsAudio (resetAudioInPcmLocked port) [] :=
  ⟨.empty _⟩

theorem audioInRingCapacity_le : audioInRingCapacity ≤ 2147483648 := by decide

/-- The oldest bytes go when a payload does not fit behind them. -/
theorem HoldsAudio.dropOldest (held : HoldsAudio port queue) {payloadSize : UInt32}
    (hle : payloadSize.toNat ≤ audioInRingCapacity) :
    HoldsAudio (makeRoom port payloadSize)
      (queue.drop (queue.length + payloadSize.toNat - audioInRingCapacity)) := by
  have hring := toNat_vdsAudioInRingSize
  have hlength := held.holds.length_eq
  have hsize := held.holds.size_le
  have hfree : (vdsAudioInRingSize - port.audioInRingSize).toNat =
      audioInRingCapacity - queue.length := by
    rw [toNat_sub_of_le (by omega), hring, hlength]
  simp only [makeRoom]
  split_ifs with hmore
  · have hlt := UInt32.lt_iff_toNat_lt.mp hmore
    have hdrop : (payloadSize - (vdsAudioInRingSize - port.audioInRingSize)).toNat =
        queue.length + payloadSize.toNat - audioInRingCapacity := by
      rw [toNat_sub_of_le hlt.le, hfree]
      omega
    rw [← hdrop]
    exact ⟨held.holds.advance toNat_vdsAudioInRingSize audioInRingCapacity_le (by omega)⟩
  · have hge := Nat.le_of_not_lt fun h => hmore (UInt32.lt_iff_toNat_lt.mpr h)
    have hfits : queue.length + payloadSize.toNat - audioInRingCapacity = 0 := by omega
    rw [hfits, List.drop_zero]
    exact held

theorem newest_append_of_le {count : Nat} {payload : List UInt8} (h : payload.length ≤ count) :
    newest count (queue ++ payload) =
      queue.drop (queue.length + payload.length - count) ++ payload := by
  rw [newest, List.length_append, List.drop_append_of_le_length (by omega)]

theorem newest_append_of_ge {count : Nat} {payload : List UInt8} (h : count ≤ payload.length) :
    newest count (queue ++ payload) = payload.drop (payload.length - count) := by
  have hsplit : queue.length + payload.length - count =
      queue.length + (payload.length - count) := by omega
  rw [newest, List.length_append, hsplit, List.drop_append]
  rw [List.drop_eq_nil_of_le (by omega), List.nil_append, Nat.add_sub_cancel_left]

theorem HoldsAudio.append (held : HoldsAudio port queue) {payload : List UInt8}
    {payloadSize : UInt32} (hcount : payloadSize.toNat = payload.length)
    (hroom : queue.length + payload.length ≤ audioInRingCapacity) :
    ∃ port', appendAudioIn port payload payloadSize = some port' ∧
      HoldsAudio port' (queue ++ payload) := by
  obtain ⟨ring, hring, holds⟩ := held.holds.write toNat_vdsAudioInRingSize audioInRingCapacity_le
    hcount hroom
  refine ⟨{ port with
    audioInRing := ring, audioInRingSize := port.audioInRingSize + payloadSize }, ?_, ⟨holds⟩⟩
  rw [appendAudioIn, hring]
  rfl

/-- A payload that fits the ring goes behind what is left of the queue. -/
theorem HoldsAudio.appendNewest (held : HoldsAudio port queue) {payload : List UInt8}
    {payloadSize : UInt32} (hcount : payloadSize.toNat = payload.length)
    (hle : payload.length ≤ audioInRingCapacity) :
    ∃ port', appendAudioIn (makeRoom port payloadSize) payload payloadSize = some port' ∧
      HoldsAudio port' (newest audioInRingCapacity (queue ++ payload)) := by
  have hroom : (queue.drop (queue.length + payloadSize.toNat - audioInRingCapacity)).length +
      payload.length ≤ audioInRingCapacity := by
    have hlength := held.holds.length_eq
    rw [List.length_drop]
    omega
  rw [newest_append_of_le hle, ← hcount]
  exact (held.dropOldest (hcount.trans_le hle)).append hcount hroom

theorem HoldsAudio.write (held : HoldsAudio port queue) (payload : Buffer) :
    ∃ port', audioInRingWriteLocked port payload.bytes payload.size = some port' ∧
      HoldsAudio port' (newest audioInRingCapacity (queue ++ payload.bytes)) := by
  have hsize := payload.toNat_size
  have hring := toNat_vdsAudioInRingSize
  rw [audioInRingWriteLocked]
  split_ifs with hlarge
  · -- only the end of the payload is kept, in an empty ring
    have hge := UInt32.le_iff_toNat_le.mp hlarge
    have hskip : (payload.size - vdsAudioInRingSize).toNat =
        payload.bytes.length - audioInRingCapacity := by
      rw [toNat_sub_of_le hge, hsize, hring]
    have hkept : vdsAudioInRingSize.toNat =
        (payload.bytes.drop (payload.size - vdsAudioInRingSize).toNat).length := by
      rw [hskip, List.length_drop]
      omega
    have hnewest : newest audioInRingCapacity
        ([] ++ payload.bytes.drop (payload.size - vdsAudioInRingSize).toNat) =
          newest audioInRingCapacity (queue ++ payload.bytes) := by
      rw [List.nil_append, newest, ← hkept, hring, Nat.sub_self, List.drop_zero, hskip,
        newest_append_of_ge (by omega)]
    rw [← hnewest]
    exact (HoldsAudio.reset port).appendNewest hkept (by omega)
  · have hlt := UInt32.lt_iff_toNat_lt.mp (UInt32.not_le.mp hlarge)
    exact held.appendNewest hsize (by omega)

theorem HoldsAudio.read (held : HoldsAudio port queue) (buffer : Buffer) :
    ∃ port', audioInStep port (.read buffer) = some (port', readFront queue buffer.bytes) ∧
      HoldsAudio port' (queue.drop buffer.bytes.length) := by
  obtain ⟨bytes, hbytes, hresult, holds⟩ :=
    held.holds.readFront toNat_vdsAudioInRingSize audioInRingCapacity_le buffer
  refine ⟨{ port with
    audioInRingHead :=
      (port.audioInRingHead + min buffer.size port.audioInRingSize) % vdsAudioInRingSize
    audioInRingSize := port.audioInRingSize - min buffer.size port.audioInRingSize }, ?_, ⟨holds⟩⟩
  rw [audioInStep, audioInRingReadLocked, hbytes, ← hresult]
  rfl

/-- The audio-in ring refines the queue of the newest bytes. -/
theorem refines_audioInQueue : Refines audioInStep serveAudioIn HoldsAudio := by
  intro port queue operation held
  cases operation with
  | write payload =>
      obtain ⟨port', hwrite, held'⟩ := held.write payload
      simp only [serveAudioIn, audioInStep, hwrite]
      exact ⟨port', rfl, held'⟩
  | read buffer => exact held.read buffer
  | reset => exact ⟨resetAudioInPcmLocked port, rfl, .reset port⟩

end AudioIn

section Runs

/-- From new rings, every sequence of locked operations is served, with the results of the
queues. -/
theorem rings_refine_queues (controlOperations : List ControlOperation)
    (audioInOperations : List AudioInOperation) :
    (∃ port, serve controlStep .new controlOperations =
        some (port, (answers FrameQueue.serve .new controlOperations).2) ∧
      HoldsFrames port (answers FrameQueue.serve .new controlOperations).1) ∧
    ∃ port, serve audioInStep .new audioInOperations =
        some (port, (answers serveAudioIn [] audioInOperations).2) ∧
      HoldsAudio port (answers serveAudioIn [] audioInOperations).1 :=
  ⟨refines_frameQueue.serve_eq .new controlOperations,
    refines_audioInQueue.serve_eq .new audioInOperations⟩

end Runs

end VirtualDualSense.WinDrv.ByteRings
