import VirtualDualSense.WinDrv.ControlWrites

/-!
# Microphone transfers of the Windows bus driver

`VdsEvtIsoInUrb` fills the packets of an isochronous URB with the audio of the port, at most
a millisecond each, and with silence where there is none. The packets of all transfers together
are the audio of the daemon in order, for any layout of the packets without overlap.

## Implementation notes

A buffer is the bytes behind its pointer, of at least the stated length. A copy that leaves a
buffer fails. UdeCx's buffer is a mirror unless it is the buffer of the URB. The ring is locked
for each packet, and `meanwhile` is what others do with the port before a packet is served. The
delay of the completion and the statistics are left out.
-/

namespace VirtualDualSense.WinDrv.IsoIn

open Lib.Refinements Lib.Rings Lib.Words ByteRings ControlWrites

section Model

def vdsAudioInBytesPerMs : UInt32 := 192
def usbdStatusSuccess : UInt32 := 0
def usbdStatusDataOverrun : UInt32 := 0xc0000008

/-- `USBD_ISO_PACKET_DESCRIPTOR`. -/
structure IsoPacket where
  offset : UInt32
  length : UInt32
  status : UInt32
  deriving DecidableEq

/-- What the loop over the packets works on. -/
structure Transfer where
  port : Port
  transferBuffer : Option (List UInt8)
  mirrorBuffer : Option Buffer
  bytesCompleted : UInt32
  readTotal : UInt32

/-- Where the next packet starts, or the transfer ends. -/
def nextOffset (transferLength : UInt32) (rest : List IsoPacket) : UInt32 :=
  let next := (rest.head?.map IsoPacket.offset).getD transferLength
  if next > transferLength then transferLength else next

def packetCapacity (transferLength : UInt32) (packet : IsoPacket) (rest : List IsoPacket) :
    UInt32 :=
  let next := nextOffset transferLength rest
  if next > packet.offset then next - packet.offset else 0

/-- The buffer of `count` bytes at an offset. -/
def bufferAt (memory : List UInt8) (offset count : UInt32) : Option Buffer :=
  if offset.toNat + count.toNat ≤ memory.length then
    some ⟨(memory.drop offset.toNat).take count.toNat,
      (List.length_take_le _ _).trans_lt count.toNat_lt⟩
  else none

/-- The zeros behind the audio of a packet. -/
def zeroRest (memory : List UInt8) (offset capacity audioLength : UInt32) : Option (List UInt8) :=
  if audioLength < capacity then
    store memory (offset.toNat + audioLength.toNat)
      (List.replicate (capacity - audioLength).toNat 0)
  else some memory

/-- The audio of a packet, and zeros behind it. -/
def fillPacket (port : Port) (memory : List UInt8) (offset capacity audioLength : UInt32) :
    Option (Port × List UInt8 × UInt32) := do
  let buffer ← bufferAt memory offset audioLength
  let (port, bytes, readSize) ← copyAudioInPcm port buffer
  let memory ← store memory offset.toNat bytes
  let memory ← zeroRest memory offset capacity audioLength
  return (port, memory, readSize)

/-- The copy of a packet to the mirror. -/
def mirrorPacket (memory : List UInt8) (mirror : Buffer) (offset capacity : UInt32) :
    Option Buffer :=
  if offset < mirror.size then
    let mirrorCapacity := min capacity (mirror.size - offset)
    if mirrorCapacity > 0 then do
      let block ← fetch memory offset.toNat mirrorCapacity.toNat
      let bytes ← store mirror.bytes offset.toNat block
      if h : bytes.length < 4294967296 then return ⟨bytes, h⟩ else none
    else some mirror
  else some mirror

/-- The audio of an iteration, when the URB has a buffer. -/
def transferAudio (t : Transfer) (offset capacity audioLength : UInt32) : Option Transfer :=
  match t.transferBuffer with
  | none => some t
  | some memory =>
      (fillPacket t.port memory offset capacity audioLength).map fun (port, memory, readSize) =>
        { t with port, transferBuffer := some memory, readTotal := t.readTotal + readSize }

/-- The copy of an iteration, when there is a mirror. -/
def transferMirror (t : Transfer) (offset capacity : UInt32) : Option Transfer :=
  match t.mirrorBuffer with
  | none => some t
  | some mirror => do
      let mirror ← mirrorPacket (← t.transferBuffer) mirror offset capacity
      return { t with mirrorBuffer := some mirror }

/-- What an iteration does with the buffers. -/
def transferPacket (t : Transfer) (offset capacity audioLength : UInt32) : Option Transfer := do
  let t ← transferAudio t offset capacity audioLength
  let t ← transferMirror t offset capacity
  return { t with bytesCompleted := t.bytesCompleted + audioLength }

/-- What others do before the packet with so many behind it. -/
abbrev Meanwhile := Nat → List ControlWrites.Operation

/-- Others use the port between two packets. -/
def yieldPort (t : Transfer) (operations : List ControlWrites.Operation) : Option Transfer :=
  (serve ControlWrites.serveOperation t.port operations).map fun (port, _) => { t with port }

/-- The loop over the packets. -/
def isoInLoop (transferLength : UInt32) (meanwhile : Meanwhile) : List IsoPacket → Transfer →
    Option (List IsoPacket × Transfer)
  | [], t => some ([], t)
  | packet :: rest, t => do
      let t ← yieldPort t (meanwhile rest.length)
      if packet.offset > transferLength then
        (isoInLoop transferLength meanwhile rest t).map fun (packets, t) =>
          ({ packet with length := 0, status := usbdStatusDataOverrun } :: packets, t)
      else do
        let capacity := packetCapacity transferLength packet rest
        let audioLength := min capacity vdsAudioInBytesPerMs
        let t ← transferPacket t packet.offset capacity audioLength
        let (packets, t) ← isoInLoop transferLength meanwhile rest t
        return ({ packet with length := audioLength, status := usbdStatusSuccess } :: packets, t)

/-- An isochronous URB with its buffer, which has the length that the URB states, and the
buffer of UdeCx when it is another one. -/
structure IsoUrb where
  transferBufferLength : UInt32
  transferBuffer : Option (List UInt8)
  mirrorBuffer : Option Buffer
  isoPacket : List IsoPacket
  inside : ∀ memory, transferBuffer = some memory →
    transferBufferLength.toNat ≤ memory.length

/-- The choice of the buffers in `VdsEvtIsoInUrb`. -/
def IsoUrb.begin (urb : IsoUrb) (port : Port) : UInt32 × Transfer :=
  match urb.transferBuffer, urb.mirrorBuffer with
  | none, some mirror =>
      (if mirror.size < urb.transferBufferLength then mirror.size else urb.transferBufferLength,
        ⟨port, some mirror.bytes, none, 0, 0⟩)
  | _, _ => (urb.transferBufferLength, ⟨port, urb.transferBuffer, urb.mirrorBuffer, 0, 0⟩)

/-- `VdsEvtIsoInUrb` of an isochronous transfer. -/
def evtIsoInUrb (port : Port) (urb : IsoUrb) (meanwhile : Meanwhile) :
    Option (List IsoPacket × Transfer) :=
  let (transferLength, t) := urb.begin port
  isoInLoop transferLength meanwhile urb.isoPacket t

end Model

section Packets

variable {port : Port} {inputs : Inputs} {memory : List UInt8}
  {offset capacity audioLength : UInt32}

theorem fit_zero (bytes : List UInt8) : fit 0 bytes = [] := by
  rw [fit, List.take_zero, Nat.zero_sub, List.replicate_zero, List.append_nil]

/-- Audio that is taken in two parts. -/
theorem fit_add (a b : Nat) (bytes : List UInt8) :
    fit (a + b) bytes = fit a bytes ++ fit b (bytes.drop a) := by
  rcases Nat.le_total a bytes.length with h | h
  · have hfirst : a - bytes.length = 0 := by omega
    have hrest : a + b - bytes.length = b - (bytes.length - a) := by omega
    rw [fit, fit, fit, hfirst, hrest, List.replicate_zero, List.append_nil, List.take_add,
      List.length_drop, List.append_assoc]
  · have hall : a + b - bytes.length = (a - bytes.length) + b := by omega
    rw [fit, fit, fit, List.drop_eq_nil_of_le h, List.take_of_length_le h,
      List.take_of_length_le (by omega), List.take_nil, List.nil_append, List.length_nil,
      Nat.sub_zero, hall, List.replicate_add, List.append_assoc]

theorem take_fit (length : Nat) (bytes more : List UInt8) :
    (fit length bytes ++ more).take length = fit length bytes :=
  List.take_left' (length_fit length bytes)

/-- A packet is overwritten with its audio and zeros. -/
theorem fillPacket_eq (held : Holds port inputs) (hle : audioLength.toNat ≤ capacity.toNat)
    (hinside : offset.toNat + capacity.toNat ≤ memory.length) :
    ∃ port' readSize block, fillPacket port memory offset capacity audioLength =
        some (port', memory.take offset.toNat ++ block ++
          memory.drop (offset.toNat + capacity.toNat), readSize) ∧
      block.length = capacity.toNat ∧
      block.take audioLength.toNat = fit audioLength.toNat inputs.audio ∧
      Holds port' { inputs with audio := inputs.audio.drop audioLength.toNat } := by
  have hbuffer : bufferAt memory offset audioLength = some ⟨(memory.drop offset.toNat).take
      audioLength.toNat, (List.length_take_le _ _).trans_lt audioLength.toNat_lt⟩ :=
    if_pos (by omega)
  generalize hslice : (⟨(memory.drop offset.toNat).take audioLength.toNat,
    (List.length_take_le _ _).trans_lt audioLength.toNat_lt⟩ : Buffer) = slice at hbuffer
  have hlength : slice.bytes.length = audioLength.toNat := by
    rw [← hslice, List.length_take, List.length_drop]
    omega
  obtain ⟨port', readSize, hcopy, -, held'⟩ := held.readAudio slice
  rw [hlength] at hcopy held'
  have hfit := length_fit audioLength.toNat inputs.audio
  have hzeros : (List.replicate (capacity.toNat - audioLength.toNat) (0 : UInt8)).length =
      capacity.toNat - audioLength.toNat := List.length_replicate
  refine ⟨port', readSize, fit audioLength.toNat inputs.audio ++
    List.replicate (capacity.toNat - audioLength.toNat) 0, ?_, ?_, take_fit _ _ _, held'⟩
  · have hstored : store memory offset.toNat (fit audioLength.toNat inputs.audio) =
        some (memory.take offset.toNat ++ fit audioLength.toNat inputs.audio ++
          memory.drop (offset.toNat + audioLength.toNat)) := by
      rw [store, hfit, if_pos (by omega)]
    simp only [fillPacket, hbuffer, hcopy, hstored, Option.bind_eq_bind, Option.bind_some]
    rw [zeroRest]
    by_cases hlt : audioLength < capacity
    · have hcount : (capacity - audioLength).toNat = capacity.toNat - audioLength.toNat :=
        toNat_sub_of_le hle
      have hfront : (memory.take offset.toNat ++ fit audioLength.toNat inputs.audio).length =
          offset.toNat + audioLength.toNat := by
        rw [List.length_append, hfit, List.length_take_of_le (by omega)]
      have hrest : (List.replicate (capacity - audioLength).toNat (0 : UInt8)).length ≤
          (memory.drop (offset.toNat + audioLength.toNat)).length := by
        rw [List.length_replicate, List.length_drop, hcount]
        omega
      have hstore := store_append (memory.take offset.toNat ++ fit audioLength.toNat inputs.audio)
        _ _ hrest
      rw [hfront] at hstore
      rw [if_pos hlt, hstore, hcount, hzeros, List.drop_drop, List.append_assoc (memory.take _)]
      have hend : offset.toNat + audioLength.toNat + (capacity.toNat - audioLength.toNat) =
          offset.toNat + capacity.toNat := by omega
      rw [hend]
      rfl
    · have hsame : capacity.toNat = audioLength.toNat := by
        have hge := Nat.le_of_not_lt fun h => hlt (UInt32.lt_iff_toNat_lt.mpr h)
        omega
      rw [if_neg hlt, hsame, Nat.sub_self, List.replicate_zero, List.append_nil]
      rfl
  · rw [List.length_append, hfit, hzeros]
    omega

/-- A packet in the mirror is a copy of that in the buffer. -/
theorem mirrorPacket_eq (mirror : Buffer)
    (hinside : offset.toNat + capacity.toNat ≤ memory.length) :
    ∃ mirror', mirrorPacket memory mirror offset capacity = some mirror' ∧
      mirror'.bytes.length = mirror.bytes.length ∧
      mirror'.bytes.take offset.toNat = mirror.bytes.take offset.toNat ∧
      (offset.toNat + capacity.toNat ≤ mirror.bytes.length →
        (mirror'.bytes.drop offset.toNat).take capacity.toNat =
          (memory.drop offset.toNat).take capacity.toNat) := by
  have hsize := mirror.toNat_size
  have hzero (h : capacity.toNat = 0) (bytes other : List UInt8) :
      bytes.take capacity.toNat = other.take capacity.toNat := by
    rw [h, List.take_zero, List.take_zero]
  rw [mirrorPacket]
  by_cases hbefore : offset < mirror.size
  · have hlt := UInt32.lt_iff_toNat_lt.mp hbefore
    have hcount : (min capacity (mirror.size - offset)).toNat =
        min capacity.toNat (mirror.bytes.length - offset.toNat) := by
      rw [toNat_min, toNat_sub_of_le hlt.le, hsize]
    rw [if_pos hbefore]
    dsimp only
    by_cases hpos : min capacity (mirror.size - offset) > 0
    · have hblock : ((memory.drop offset.toNat).take
          (min capacity (mirror.size - offset)).toNat).length =
            (min capacity (mirror.size - offset)).toNat := by
        rw [List.length_take_of_le]
        rw [List.length_drop]
        omega
      rw [if_pos hpos, fetch, if_pos (by omega), Option.bind_eq_bind, Option.bind_some, store,
        if_pos (by omega), Option.bind_some, hblock]
      have hfront : (mirror.bytes.take offset.toNat).length = offset.toNat :=
        List.length_take_of_le (by omega)
      have hlength : (mirror.bytes.take offset.toNat ++ (memory.drop offset.toNat).take
          (min capacity (mirror.size - offset)).toNat ++ mirror.bytes.drop
            (offset.toNat + (min capacity (mirror.size - offset)).toNat)).length =
              mirror.bytes.length := by
        rw [List.length_append, List.length_append, hfront, hblock, List.length_drop]
        omega
      have hbound := hlength.trans_lt mirror.length_lt
      rw [dif_pos hbound]
      refine ⟨_, rfl, hlength, ?_, fun hfits => ?_⟩
      · dsimp only
        rw [List.append_assoc, List.take_left' hfront]
      · have hall : (min capacity (mirror.size - offset)).toNat = capacity.toNat := by omega
        dsimp only
        rw [List.append_assoc, List.drop_left' hfront, ← hall, List.take_left' hblock]
    · have hnone : (min capacity (mirror.size - offset)).toNat = 0 :=
        Nat.eq_zero_of_not_pos fun h => hpos (UInt32.lt_iff_toNat_lt.mpr h)
      rw [if_neg hpos]
      exact ⟨mirror, rfl, rfl, rfl, fun hfits => hzero (by omega) _ _⟩
  · have hge := Nat.le_of_not_lt fun h => hbefore (UInt32.lt_iff_toNat_lt.mpr h)
    rw [if_neg hbefore]
    exact ⟨mirror, rfl, rfl, rfl, fun hfits => hzero (by omega) _ _⟩

/-- What an iteration leaves in the buffers. -/
theorem transferPacket_eq {t : Transfer} (hmemory : t.transferBuffer = some memory)
    (held : Holds t.port inputs) (hle : audioLength.toNat ≤ capacity.toNat)
    (hinside : offset.toNat + capacity.toNat ≤ memory.length) :
    ∃ t' memory', transferPacket t offset capacity audioLength = some t' ∧
      t'.transferBuffer = some memory' ∧ memory'.length = memory.length ∧
      memory'.take offset.toNat = memory.take offset.toNat ∧
      (memory'.drop offset.toNat).take audioLength.toNat = fit audioLength.toNat inputs.audio ∧
      Holds t'.port { inputs with audio := inputs.audio.drop audioLength.toNat } ∧
      t'.bytesCompleted = t.bytesCompleted + audioLength ∧
      (t.mirrorBuffer = none → t'.mirrorBuffer = none) ∧
      ∀ mirror, t.mirrorBuffer = some mirror → ∃ mirror', t'.mirrorBuffer = some mirror' ∧
        mirror'.bytes.length = mirror.bytes.length ∧
        mirror'.bytes.take offset.toNat = mirror.bytes.take offset.toNat ∧
        (offset.toNat + capacity.toNat ≤ mirror.bytes.length →
          (mirror'.bytes.drop offset.toNat).take audioLength.toNat =
            fit audioLength.toNat inputs.audio) := by
  obtain ⟨port', readSize, block, hfill, hblock, haudio, held'⟩ := fillPacket_eq held hle hinside
  have hfront : (memory.take offset.toNat).length = offset.toNat :=
    List.length_take_of_le (by omega)
  generalize hnext : memory.take offset.toNat ++ block ++
    memory.drop (offset.toNat + capacity.toNat) = memory' at hfill
  have hlength : memory'.length = memory.length := by
    rw [← hnext, List.length_append, List.length_append, hfront, hblock, List.length_drop]
    omega
  have hkept : memory'.take offset.toNat = memory.take offset.toNat := by
    rw [← hnext, List.append_assoc, List.take_left' hfront]
  have hbytes : (memory'.drop offset.toNat).take audioLength.toNat =
      fit audioLength.toNat inputs.audio := by
    rw [← hnext, List.append_assoc, List.drop_left' hfront,
      List.take_append_of_le_length (by omega), haudio]
  have haudioStep : transferAudio t offset capacity audioLength = some { t with
      port := port'
      transferBuffer := some memory'
      readTotal := t.readTotal + readSize } := by
    rw [transferAudio, hmemory]
    dsimp only
    rw [hfill]
    rfl
  cases hmirror : t.mirrorBuffer with
  | none =>
      refine ⟨{ t with
        port := port'
        transferBuffer := some memory'
        readTotal := t.readTotal + readSize
        bytesCompleted := t.bytesCompleted + audioLength }, memory', ?_, rfl, hlength, hkept,
        hbytes, held', rfl, fun _ => hmirror, fun mirror h => absurd h.symm (Option.some_ne_none _)⟩
      rw [transferPacket, haudioStep, Option.bind_eq_bind, Option.bind_some, transferMirror]
      simp only [hmirror]
      rfl
  | some mirror =>
      have hinside' : offset.toNat + capacity.toNat ≤ memory'.length := hlength ▸ hinside
      obtain ⟨mirror', hcopy, hlength', hkept', hsame⟩ := mirrorPacket_eq mirror hinside'
      refine ⟨{ t with
        port := port'
        transferBuffer := some memory'
        readTotal := t.readTotal + readSize
        mirrorBuffer := some mirror'
        bytesCompleted := t.bytesCompleted + audioLength }, memory', ?_, rfl, hlength, hkept,
        hbytes, held', rfl, fun h => absurd h (Option.some_ne_none _), ?_⟩
      · rw [transferPacket, haudioStep, Option.bind_eq_bind, Option.bind_some, transferMirror]
        simp only [hmirror, hcopy, Option.bind_eq_bind, Option.bind_some]
        rfl
      · intro other hother
        obtain rfl := Option.some.inj hother
        refine ⟨mirror', rfl, hlength', hkept', fun hfits => ?_⟩
        have hshorter := congrArg (List.take audioLength.toNat) (hsame hfits)
        rw [List.take_take, List.take_take, Nat.min_eq_left hle] at hshorter
        rw [hshorter, hbytes]

end Packets

section Loop

variable {transferLength : UInt32} {packets rest : List IsoPacket} {packet : IsoPacket}
  {inputs : Inputs} {memory memory' : List UInt8} {meanwhile : Meanwhile}

/-- A packet of a completed transfer. -/
def settle (transferLength : UInt32) (packet : IsoPacket) (rest : List IsoPacket) : IsoPacket :=
  if packet.offset > transferLength then
    { packet with length := 0, status := usbdStatusDataOverrun }
  else
    { packet with
      length := min (packetCapacity transferLength packet rest) vdsAudioInBytesPerMs
      status := usbdStatusSuccess }

def settled (transferLength : UInt32) : List IsoPacket → List IsoPacket
  | [] => []
  | packet :: rest => settle transferLength packet rest :: settled transferLength rest

/-- The bytes that the packets have room for. -/
def total (packets : List IsoPacket) : Nat := (packets.map fun packet => packet.length.toNat).sum

/-- The bytes of the packets in a buffer. -/
def contents (memory : List UInt8) (packets : List IsoPacket) : List UInt8 :=
  packets.flatMap fun packet => (memory.drop packet.offset.toNat).take packet.length.toNat

/-- No packet starts before the packets in front of it. -/
def Ascending (packets : List IsoPacket) : Prop :=
  packets.Pairwise fun a b => a.offset.toNat ≤ b.offset.toNat

instance : DecidablePred Ascending := fun packets =>
  inferInstanceAs (Decidable (packets.Pairwise fun a b => a.offset.toNat ≤ b.offset.toNat))

/-- The packets leave what is before all of them. -/
def Kept (packets : List IsoPacket) (memory memory' : List UInt8) : Prop :=
  ∀ start, (∀ packet ∈ packets, start ≤ packet.offset.toNat) →
    memory'.take start = memory.take start

theorem Kept.refl (packets : List IsoPacket) (memory : List UInt8) : Kept packets memory memory :=
  fun _ _ => rfl

theorem Kept.cons {middle : List UInt8}
    (hfirst : middle.take packet.offset.toNat = memory.take packet.offset.toNat)
    (h : Kept rest middle memory') : Kept (packet :: rest) memory memory' := by
  intro start hstart
  rw [h start fun other hother => hstart other (List.mem_cons_of_mem _ hother)]
  have hle := hstart packet List.mem_cons_self
  have hshorter := congrArg (List.take start) hfirst
  rwa [List.take_take, List.take_take, Nat.min_eq_left hle] at hshorter

/-- A packet ends where the next one may start, and inside the transfer. -/
theorem capacity_le (rest : List IsoPacket) (h : ¬packet.offset > transferLength) :
    packet.offset.toNat + (packetCapacity transferLength packet rest).toNat ≤
        transferLength.toNat ∧
      (Ascending (packet :: rest) → ∀ other ∈ rest,
        packet.offset.toNat + (packetCapacity transferLength packet rest).toNat ≤
          other.offset.toNat) := by
  have hbefore : packet.offset.toNat ≤ transferLength.toNat :=
    Nat.le_of_not_lt fun hlt => h (UInt32.lt_iff_toNat_lt.mpr hlt)
  have hnext : (nextOffset transferLength rest).toNat ≤ transferLength.toNat := by
    unfold nextOffset
    dsimp only
    split_ifs with hlong
    · exact le_rfl
    · exact Nat.le_of_not_lt fun hlt => hlong (UInt32.lt_iff_toNat_lt.mpr hlt)
  have hhead : Ascending (packet :: rest) → ∀ other ∈ rest,
      (nextOffset transferLength rest).toNat ≤ other.offset.toNat := by
    intro hascending other hother
    cases rest with
    | nil => cases hother
    | cons first rest =>
        have hfirst : (nextOffset transferLength (first :: rest)).toNat ≤ first.offset.toNat := by
          unfold nextOffset
          dsimp only [List.head?_cons, Option.map_some, Option.getD_some]
          split_ifs with hlong
          · exact (UInt32.lt_iff_toNat_lt.mp hlong).le
          · exact le_rfl
        rcases List.mem_cons.mp hother with rfl | hother
        · exact hfirst
        · have hordered := List.rel_of_pairwise_cons (List.Pairwise.of_cons hascending) hother
          exact hfirst.trans hordered
  unfold packetCapacity
  dsimp only
  split_ifs with hroom
  · have hlt := UInt32.lt_iff_toNat_lt.mp hroom
    rw [toNat_sub_of_le hlt.le]
    refine ⟨by omega, fun hascending other hother => ?_⟩
    have hle := hhead hascending other hother
    omega
  · refine ⟨hbefore, fun hascending other hother => ?_⟩
    exact List.rel_of_pairwise_cons hascending hother

/-- Later packets leave the audio of a packet. -/
theorem take_drop_of_kept {capacity length : Nat} (hkept : Kept rest memory memory')
    (hlater : ∀ other ∈ rest, packet.offset.toNat + capacity ≤ other.offset.toNat)
    (hle : length ≤ capacity) :
    (memory'.drop packet.offset.toNat).take length =
      (memory.drop packet.offset.toNat).take length := by
  have hfront := hkept _ hlater
  have htaken (bytes : List UInt8) : (bytes.drop packet.offset.toNat).take length =
      ((bytes.take (packet.offset.toNat + capacity)).drop packet.offset.toNat).take length := by
    rw [List.drop_take, Nat.add_sub_cancel_left, List.take_take, Nat.min_eq_left hle]
  rw [htaken memory', hfront, ← htaken]

/-- What is left of the queue behind the packets, and what they hear: each takes its bytes out
of the audio that is there at its turn. -/
def hear (transferLength : UInt32) (meanwhile : Meanwhile) : List IsoPacket → Inputs →
    Inputs × List UInt8
  | [], inputs => (inputs, [])
  | packet :: rest, inputs =>
      let inputs := (answers Inputs.serve inputs (meanwhile rest.length)).1
      let count := (settle transferLength packet rest).length.toNat
      let (after, bytes) := hear transferLength meanwhile rest
        { inputs with audio := inputs.audio.drop count }
      (after, fit count inputs.audio ++ bytes)

/-- What a transfer leaves behind: what the packets heard, in each buffer that has room for the
transfer. -/
structure Outcome (transferLength : UInt32) (meanwhile : Meanwhile) (packets : List IsoPacket)
    (t t' : Transfer) (inputs : Inputs) (memory memory' : List UInt8) : Prop where
  buffer : t'.transferBuffer = some memory'
  length_eq : memory'.length = memory.length
  kept : Kept packets memory memory'
  heard : Ascending packets → contents memory' (settled transferLength packets) =
    (hear transferLength meanwhile packets inputs).2
  held : Holds t'.port (hear transferLength meanwhile packets inputs).1
  completed : t'.bytesCompleted =
    t.bytesCompleted + UInt32.ofNat (total (settled transferLength packets))
  plain : t.mirrorBuffer = none → t'.mirrorBuffer = none
  mirror : ∀ mirror, t.mirrorBuffer = some mirror → ∃ mirror', t'.mirrorBuffer = some mirror' ∧
    mirror'.bytes.length = mirror.bytes.length ∧ Kept packets mirror.bytes mirror'.bytes ∧
    (Ascending packets → transferLength.toNat ≤ mirror.bytes.length →
      contents mirror'.bytes (settled transferLength packets) =
        (hear transferLength meanwhile packets inputs).2)

theorem Kept.of_rest (h : Kept rest memory memory') : Kept (packet :: rest) memory memory' :=
  h.cons rfl

/-- The contents of a packet and of the packets behind it. -/
theorem contents_cons_eq {middle : List UInt8} {capacity length : Nat} {first heard : List UInt8}
    {settledPacket : IsoPacket} {others : List IsoPacket}
    (hoffset : settledPacket.offset = packet.offset)
    (hlength : settledPacket.length.toNat = length) (hle : length ≤ capacity)
    (hlater : ∀ other ∈ rest, packet.offset.toNat + capacity ≤ other.offset.toNat)
    (hkept : Kept rest middle memory')
    (hfirst : (middle.drop packet.offset.toNat).take length = first)
    (hothers : contents memory' others = heard) :
    contents memory' (settledPacket :: others) = first ++ heard := by
  rw [contents, List.flatMap_cons, hoffset, hlength, take_drop_of_kept hkept hlater hle, hfirst]
  exact congrArg _ hothers

/-- A packet out of the transfer hears nothing. -/
theorem hear_overrun (hover : packet.offset > transferLength) (meanwhile : Meanwhile)
    (rest : List IsoPacket) (inputs : Inputs) :
    hear transferLength meanwhile (packet :: rest) inputs =
      hear transferLength meanwhile rest
        (answers Inputs.serve inputs (meanwhile rest.length)).1 := by
  have hcount : (settle transferLength packet rest).length.toNat = 0 := by
    rw [settle, if_pos hover]
    rfl
  rw [hear]
  dsimp only
  rw [hcount, fit_zero, List.drop_zero, List.nil_append]

theorem settled_overrun (hover : packet.offset > transferLength) :
    settled transferLength (packet :: rest) =
      { packet with length := 0, status := usbdStatusDataOverrun } ::
        settled transferLength rest := by
  rw [settled, settle, if_pos hover]

theorem total_cons (packet : IsoPacket) (packets : List IsoPacket) :
    total (packet :: packets) = packet.length.toNat + total packets := by
  rw [total, List.map_cons, List.sum_cons]
  rfl

/-- Others leave the buffers alone. -/
theorem yieldPort_eq {t : Transfer} (held : Holds t.port inputs)
    (operations : List ControlWrites.Operation) :
    ∃ port, yieldPort t operations = some { t with port } ∧
      Holds port (answers Inputs.serve inputs operations).1 := by
  obtain ⟨port, hserve, held'⟩ := ControlWrites.refines_inputs.serve_eq held operations
  refine ⟨port, ?_, held'⟩
  rw [yieldPort, hserve]
  rfl

/-- The loop completes whatever the packets are. -/
theorem outcome_of_isoInLoop {t : Transfer} (meanwhile : Meanwhile) (packets : List IsoPacket)
    (hbuffer : t.transferBuffer = some memory)
    (hinside : transferLength.toNat ≤ memory.length) (held : Holds t.port inputs) :
    ∃ t' memory', isoInLoop transferLength meanwhile packets t =
        some (settled transferLength packets, t') ∧
      Outcome transferLength meanwhile packets t t' inputs memory memory' := by
  induction packets generalizing t inputs memory with
  | nil =>
      refine ⟨t, memory, rfl, hbuffer, rfl, .refl _ _, fun _ => rfl, held, ?_, id, ?_⟩
      · exact (UInt32.add_zero _).symm
      · exact fun mirror hmirror => ⟨mirror, hmirror, rfl, .refl _ _, fun _ _ => rfl⟩
  | cons packet rest ih =>
      obtain ⟨port₀, hyield, held₀⟩ := yieldPort_eq held (meanwhile rest.length)
      generalize hbefore : (answers Inputs.serve inputs (meanwhile rest.length)).1 = before at held₀
      by_cases hover : packet.offset > transferLength
      · obtain ⟨t', memory', hloop, outcome⟩ := ih (t := { t with port := port₀ }) hbuffer hinside
          held₀
        have htotal : total (settled transferLength (packet :: rest)) =
            total (settled transferLength rest) := by
          rw [settled_overrun hover, total_cons]
          exact Nat.zero_add _
        have hhear := hear_overrun hover meanwhile rest inputs
        rw [hbefore] at hhear
        have hcontents (bytes : List UInt8) :
            contents bytes (settled transferLength (packet :: rest)) =
              contents bytes (settled transferLength rest) := by
          rw [settled_overrun hover, contents, List.flatMap_cons]
          exact congrArg (· ++ _) (List.take_zero ..)
        refine ⟨t', memory', ?_, outcome.buffer, outcome.length_eq, outcome.kept.of_rest, ?_, ?_,
          ?_, outcome.plain, ?_⟩
        · rw [isoInLoop, hyield, Option.bind_eq_bind, Option.bind_some, if_pos hover, hloop,
            settled_overrun hover]
          rfl
        · rw [hcontents, hhear]
          exact fun hascending => outcome.heard (List.Pairwise.of_cons hascending)
        · rw [hhear]
          exact outcome.held
        · rw [htotal]
          exact outcome.completed
        · intro mirror hmirror
          obtain ⟨mirror', hmirror', hlength, hkept, hheard⟩ := outcome.mirror mirror hmirror
          refine ⟨mirror', hmirror', hlength, hkept.of_rest, ?_⟩
          rw [hcontents, hhear]
          exact fun hascending => hheard (List.Pairwise.of_cons hascending)
      · obtain ⟨hfits, hlater⟩ := capacity_le rest hover
        generalize hcapacity : packetCapacity transferLength packet rest = capacity at hfits hlater
        have hle : (min capacity vdsAudioInBytesPerMs).toNat ≤ capacity.toNat := by
          rw [toNat_min]
          exact Nat.min_le_left _ _
        generalize haudio : min capacity vdsAudioInBytesPerMs = audioLength at hle
        obtain ⟨t₁, memory₁, hstep, hbuffer₁, hlength₁, hkept₁, hfirst, held₁, hcompleted₁, hplain₁,
          hmirror₁⟩ := transferPacket_eq (t := { t with port := port₀ }) hbuffer held₀ hle
            (hfits.trans hinside)
        obtain ⟨t', memory', hloop, outcome⟩ := ih hbuffer₁ (hlength₁ ▸ hinside) held₁
        have hsettle : settle transferLength packet rest =
            { packet with length := audioLength, status := usbdStatusSuccess } := by
          rw [settle, if_neg hover, hcapacity, haudio]
        have hhear : hear transferLength meanwhile (packet :: rest) inputs =
            ((hear transferLength meanwhile rest
              { before with audio := before.audio.drop audioLength.toNat }).1,
              fit audioLength.toNat before.audio ++ (hear transferLength meanwhile rest
                { before with audio := before.audio.drop audioLength.toNat }).2) := by
          rw [hear, hbefore, hsettle]
        refine ⟨t', memory', ?_, outcome.buffer, outcome.length_eq.trans hlength₁,
          outcome.kept.cons hkept₁, fun hascending => ?_, ?_, ?_,
          fun hnone => outcome.plain (hplain₁ hnone), fun mirror hmirror => ?_⟩
        · rw [isoInLoop, hyield, Option.bind_eq_bind, Option.bind_some, if_neg hover, hcapacity]
          dsimp only
          rw [haudio, hstep, settled, hsettle]
          simp only [Option.bind_eq_bind, Option.bind_some, hloop]
          rfl
        · rw [hhear, settled, hsettle]
          exact contents_cons_eq rfl rfl hle (hlater hascending) outcome.kept hfirst
            (outcome.heard (List.Pairwise.of_cons hascending))
        · rw [hhear]
          exact outcome.held
        · rw [outcome.completed, hcompleted₁, settled, hsettle, total_cons, UInt32.ofNat_add,
            UInt32.ofNat_toNat, UInt32.add_assoc]
        · obtain ⟨mirror₁, hset₁, hsize₁, hbefore₁, hcopied₁⟩ := hmirror₁ mirror hmirror
          obtain ⟨mirror', hset', hsize', hkept', hheard'⟩ := outcome.mirror mirror₁ hset₁
          refine ⟨mirror', hset', hsize'.trans hsize₁, hkept'.cons hbefore₁, ?_⟩
          intro hascending hroom
          rw [hhear, settled, hsettle]
          exact contents_cons_eq rfl rfl hle (hlater hascending) hkept'
            (hcopied₁ (hfits.trans hroom))
            (hheard' (List.Pairwise.of_cons hascending) (hsize₁ ▸ hroom))

/-- Without a buffer only others use the queue. -/
def pass (meanwhile : Meanwhile) : List IsoPacket → Inputs → Inputs
  | [], inputs => inputs
  | _ :: rest, inputs => pass meanwhile rest (answers Inputs.serve inputs (meanwhile rest.length)).1

theorem isoInLoop_unbuffered {port : Port} (transferLength : UInt32) (meanwhile : Meanwhile)
    (packets : List IsoPacket) (bytesCompleted readTotal : UInt32) (held : Holds port inputs) :
    ∃ port', isoInLoop transferLength meanwhile packets
        ⟨port, none, none, bytesCompleted, readTotal⟩ =
          some (settled transferLength packets, ⟨port', none, none,
            bytesCompleted + UInt32.ofNat (total (settled transferLength packets)), readTotal⟩) ∧
      Holds port' (pass meanwhile packets inputs) := by
  induction packets generalizing port inputs bytesCompleted with
  | nil =>
      have hnothing : bytesCompleted + UInt32.ofNat (total (settled transferLength [])) =
          bytesCompleted := UInt32.add_zero _
      rw [hnothing]
      exact ⟨port, rfl, held⟩
  | cons packet rest ih =>
      obtain ⟨port₀, hyield, held₀⟩ := yieldPort_eq
        (t := ⟨port, none, none, bytesCompleted, readTotal⟩) held (meanwhile rest.length)
      rw [isoInLoop, hyield, Option.bind_eq_bind, Option.bind_some]
      by_cases hover : packet.offset > transferLength
      · obtain ⟨port', hloop, held'⟩ := ih bytesCompleted held₀
        have htotal : total (settled transferLength (packet :: rest)) =
            total (settled transferLength rest) := by
          rw [settled_overrun hover, total_cons]
          exact Nat.zero_add _
        refine ⟨port', ?_, held'⟩
        rw [if_pos hover, hloop, htotal, settled_overrun hover]
        rfl
      · have hstep (offset capacity audioLength : UInt32) :
            transferPacket ⟨port₀, none, none, bytesCompleted, readTotal⟩ offset capacity
              audioLength = some ⟨port₀, none, none, bytesCompleted + audioLength, readTotal⟩ := rfl
        obtain ⟨port', hloop, held'⟩ := ih (bytesCompleted +
          min (packetCapacity transferLength packet rest) vdsAudioInBytesPerMs) held₀
        refine ⟨port', ?_, held'⟩
        rw [if_neg hover]
        dsimp only
        rw [hstep, Option.bind_some, hloop, settled, total_cons, settle, if_neg hover,
          UInt32.ofNat_add, UInt32.ofNat_toNat, ← UInt32.add_assoc]
        rfl

/-- A transfer that nobody disturbs hears the front of the queue. -/
theorem hear_undisturbed (packets : List IsoPacket) (inputs : Inputs) :
    hear transferLength (fun _ => []) packets inputs =
      ({ inputs with audio := inputs.audio.drop (total (settled transferLength packets)) },
        fit (total (settled transferLength packets)) inputs.audio) := by
  induction packets generalizing inputs with
  | nil => exact congrArg (Prod.mk inputs) (fit_zero _).symm
  | cons packet rest ih =>
      rw [hear]
      dsimp only [answers]
      rw [ih, settled, total_cons, fit_add, List.drop_drop]

end Loop

section Runs

variable {port : Port} {inputs : Inputs} {urb : IsoUrb} {meanwhile : Meanwhile}

/-- The bytes that a transfer may fill. -/
def IsoUrb.transferLength (urb : IsoUrb) : UInt32 :=
  match urb.transferBuffer, urb.mirrorBuffer with
  | none, some mirror =>
      if mirror.size < urb.transferBufferLength then mirror.size else urb.transferBufferLength
  | _, _ => urb.transferBufferLength

def IsoUrb.packets (urb : IsoUrb) : List IsoPacket := settled urb.transferLength urb.isoPacket

/-- What the host does beside the daemon's writes. -/
inductive Operation
  | port (operation : ControlWrites.Operation)
  | isoIn (urb : IsoUrb) (meanwhile : Meanwhile)

/-- A transfer is answered with its packets, their bytes in all, and the audio that a buffer
and a mirror hold in them, where they do not overlap. -/
inductive Answer
  | port (answer : ControlWrites.Answer)
  | isoIn (packets : List IsoPacket) (bytesCompleted : UInt32)
      (heard mirrored : Option (List UInt8))
  deriving DecidableEq

/-- What the buffer of a completed transfer says, where its packets do not overlap. -/
def heard (urb : IsoUrb) (packets : List IsoPacket) (t : Transfer) : Option (List UInt8) :=
  if Ascending urb.isoPacket then t.transferBuffer.map fun memory => contents memory packets
  else none

/-- What a mirror says that has room for the transfer. -/
def mirrored (urb : IsoUrb) (packets : List IsoPacket) (t : Transfer) : Option (List UInt8) :=
  if Ascending urb.isoPacket then
    (t.mirrorBuffer.filter fun mirror =>
      urb.transferLength.toNat ≤ mirror.bytes.length).map fun mirror =>
        contents mirror.bytes packets
  else none

def serveOperation (port : Port) : Operation → Option (Port × Answer)
  | .port operation =>
      (ControlWrites.serveOperation port operation).map fun (port, answer) => (port, .port answer)
  | .isoIn urb meanwhile =>
      (evtIsoInUrb port urb meanwhile).map fun (packets, t) =>
        (t.port, .isoIn packets t.bytesCompleted (heard urb packets t) (mirrored urb packets t))

/-- Whether a transfer has a buffer for the audio. -/
def IsoUrb.hasBuffer (urb : IsoUrb) : Bool := urb.transferBuffer.isSome || urb.mirrorBuffer.isSome

/-- Whether there is a mirror beside the buffer that has room for the transfer. -/
def IsoUrb.hasMirror (urb : IsoUrb) : Bool :=
  urb.transferBuffer.isSome && urb.mirrorBuffer.any fun mirror =>
    urb.transferLength.toNat ≤ mirror.bytes.length

/-- A transfer with a buffer takes audio out of the queue. -/
def serveInputs (inputs : Inputs) : Operation → Inputs × Answer
  | .port operation =>
      let (inputs, answer) := inputs.serve operation
      (inputs, .port answer)
  | .isoIn urb meanwhile =>
      let (after, bytes) := hear urb.transferLength meanwhile urb.isoPacket inputs
      let audio (has : Bool) := if has ∧ Ascending urb.isoPacket then some bytes else none
      (if urb.hasBuffer then after else pass meanwhile urb.isoPacket inputs,
        .isoIn urb.packets (UInt32.ofNat (total urb.packets)) (audio urb.hasBuffer)
          (audio urb.hasMirror))

/-- A transfer with a buffer. -/
theorem serveOperation_of_begin {memory : List UInt8} (urb : IsoUrb) (meanwhile : Meanwhile)
    (hlength : (urb.begin port).1 = urb.transferLength) (hport : (urb.begin port).2.port = port)
    (hcount : (urb.begin port).2.bytesCompleted = 0)
    (hbuffer : (urb.begin port).2.transferBuffer = some memory)
    (hinside : urb.transferLength.toNat ≤ memory.length) (held : Holds port inputs)
    (hmirror : urb.hasMirror = (urb.begin port).2.mirrorBuffer.any fun mirror =>
      urb.transferLength.toNat ≤ mirror.bytes.length) :
    ∃ port', serveOperation port (.isoIn urb meanwhile) = some (port', .isoIn urb.packets
        (UInt32.ofNat (total urb.packets))
        (if Ascending urb.isoPacket then
          some (hear urb.transferLength meanwhile urb.isoPacket inputs).2 else none)
        (if urb.hasMirror ∧ Ascending urb.isoPacket then
          some (hear urb.transferLength meanwhile urb.isoPacket inputs).2 else none)) ∧
      Holds port' (hear urb.transferLength meanwhile urb.isoPacket inputs).1 := by
  obtain ⟨t', memory', hloop, outcome⟩ := outcome_of_isoInLoop meanwhile urb.isoPacket hbuffer
    hinside (hport.symm ▸ held)
  have hevent : evtIsoInUrb port urb meanwhile = some (urb.packets, t') := by
    rw [evtIsoInUrb]
    dsimp only
    rw [hlength]
    exact hloop
  have hcompleted : t'.bytesCompleted = UInt32.ofNat (total urb.packets) := by
    rw [outcome.completed, hcount, UInt32.zero_add]
    rfl
  have hheard : heard urb urb.packets t' =
      if Ascending urb.isoPacket then
        some (hear urb.transferLength meanwhile urb.isoPacket inputs).2 else none := by
    rw [heard]
    split_ifs with hascending
    · rw [outcome.buffer, Option.map_some]
      exact congrArg some (outcome.heard hascending)
    · rfl
  have hmirrored : mirrored urb urb.packets t' =
      if urb.hasMirror ∧ Ascending urb.isoPacket then
        some (hear urb.transferLength meanwhile urb.isoPacket inputs).2 else none := by
    rw [mirrored, hmirror]
    by_cases hascending : Ascending urb.isoPacket
    · rw [if_pos hascending]
      cases hset : (urb.begin port).2.mirrorBuffer with
      | none =>
          rw [outcome.plain hset]
          rfl
      | some mirror =>
          obtain ⟨mirror', hset', hsize, -, hcopied⟩ := outcome.mirror mirror hset
          rw [hset']
          by_cases hroom : urb.transferLength.toNat ≤ mirror.bytes.length
          · simp only [Option.filter, hsize, hroom, decide_true, if_true, Option.map_some,
              Option.any_some, hascending, and_self]
            exact congrArg some (hcopied hascending hroom)
          · simp [Option.filter, hsize, hroom]
    · rw [if_neg hascending, if_neg fun h => hascending h.2]
  refine ⟨t'.port, ?_, outcome.held⟩
  rw [serveOperation, hevent, Option.map_some]
  dsimp only
  rw [hcompleted, hheard, hmirrored]

theorem isoIn_served (held : Holds port inputs) (urb : IsoUrb) (meanwhile : Meanwhile) :
    ∃ port', serveOperation port (.isoIn urb meanwhile) =
        some (port', (serveInputs inputs (.isoIn urb meanwhile)).2) ∧
      Holds port' (serveInputs inputs (.isoIn urb meanwhile)).1 := by
  obtain ⟨transferBufferLength, transferBuffer, mirrorBuffer, isoPacket, inside⟩ := urb
  cases transferBuffer with
  | some memory =>
      have h := serveOperation_of_begin ⟨transferBufferLength, some memory, mirrorBuffer, isoPacket,
        inside⟩ meanwhile rfl rfl rfl rfl (inside memory rfl) held rfl
      simpa [serveInputs, IsoUrb.hasBuffer] using h
  | none =>
      cases mirrorBuffer with
      | some mirror =>
          have hlength : (if mirror.size < transferBufferLength then mirror.size
              else transferBufferLength).toNat ≤ mirror.bytes.length := by
            split_ifs with hshort
            · exact mirror.toNat_size.le
            · rw [← mirror.toNat_size]
              exact Nat.le_of_not_lt fun hlt => hshort (UInt32.lt_iff_toNat_lt.mpr hlt)
          have h := serveOperation_of_begin ⟨transferBufferLength, none, some mirror, isoPacket,
            inside⟩ meanwhile rfl rfl rfl rfl hlength held rfl
          simpa [serveInputs, IsoUrb.hasBuffer] using h
      | none =>
          obtain ⟨port', hloop, held'⟩ := isoInLoop_unbuffered transferBufferLength meanwhile
            isoPacket 0 0 held
          refine ⟨port', ?_, held'⟩
          rw [UInt32.zero_add] at hloop
          rw [serveOperation, evtIsoInUrb]
          dsimp only [IsoUrb.begin]
          rw [hloop, Option.map_some]
          simp [serveInputs, heard, mirrored, IsoUrb.hasBuffer, IsoUrb.hasMirror, IsoUrb.packets,
            IsoUrb.transferLength]

/-- A port with transfers refines its inputs. -/
theorem refines_inputs : Refines serveOperation serveInputs Holds := by
  intro port inputs operation held
  cases operation with
  | port operation =>
      obtain ⟨port', hserve, held'⟩ :=
        ControlWrites.refines_inputs port inputs operation held
      refine ⟨port', ?_, held'⟩
      rw [serveOperation, hserve]
      rfl
  | isoIn urb meanwhile => exact isoIn_served held urb meanwhile

/-- Every sequence of writes, reads and transfers completes, whatever the packets of a transfer
are and whatever others do between two of them. The packets hear the daemon's audio in its
order, and silence where there is none; a transfer that nobody disturbs hears the front of the
queue. -/
theorem transfers_hear_audio :
    (∀ operations, ∃ port, serve serveOperation .new operations =
      some (port, (answers serveInputs .new operations).2)) ∧
    ∀ transferLength packets inputs, hear transferLength (fun _ => []) packets inputs =
      ({ inputs with audio := inputs.audio.drop (total (settled transferLength packets)) },
        fit (total (settled transferLength packets)) inputs.audio) := by
  refine ⟨fun operations => ?_, fun _ => hear_undisturbed⟩
  obtain ⟨port, hserve, -⟩ := refines_inputs.serve_eq .new operations
  exact ⟨port, hserve⟩

end Runs

end VirtualDualSense.WinDrv.IsoIn
