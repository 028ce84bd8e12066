import VirtualDualSense.Lib.Fragments
import VirtualDualSense.UsbIp.Session

/-!
# Receiving requests

The client concatenates its requests in network order, and the socket delivers the
bytes in arbitrary fragments. The receive loop of an import session recovers the
requests, as far as each part of a request fits the length that `recv` can be given.
-/

namespace VirtualDualSense.UsbIp.Receive

open Lib.Fragments Lib.Words Wire CmdSubmit Session

section Loop

abbrev Stream := List (List UInt8)

/-- The length that `recv` is given, cast to a signed word. `recv` returns at most as many
bytes as its buffer has, so a length that is not positive gets none. -/
def recvLength (remaining : Nat) : Nat := (Int32.ofNat remaining).toInt.toNat

def recvExact (size : Nat) (stream : Stream) : Option (List UInt8 × Stream) :=
  readExact recvLength size stream

/-- The packed header after its fields were converted to host order. -/
def cmdOf (header : List UInt8) : UsbipCmdSubmit where
  base :=
    { command := ntoh32 (wordAt header 0)
      seqnum := ntoh32 (wordAt header 1)
      devid := ntoh32 (wordAt header 2)
      direction := ntoh32 (wordAt header 3)
      ep := ntoh32 (wordAt header 4) }
  transferFlags := ntoh32 (wordAt header 5)
  transferBufferLength := (ntoh32 (wordAt header 6)).toInt32
  numberOfPackets := (ntoh32 (wordAt header 8)).toInt32
  setup := Vector.ofFn fun i => header.getD (40 + i) 0

/-- Only the offset and the length of a descriptor are converted. -/
def isoOf (bytes : List UInt8) : UsbipIsoPacketDescriptor where
  offset := ntoh32 (wordAt bytes 0)
  length := ntoh32 (wordAt bytes 1)
  actualLength := wordAt bytes 2
  status := wordAt bytes 3

def isosOf : Nat → List UInt8 → List UsbipIsoPacketDescriptor
  | 0, _ => []
  | count + 1, bytes => isoOf bytes :: isosOf count (bytes.drop 16)

/-- What the loop passes on. -/
inductive Request
  | submit (cmd : UsbipCmdSubmit) (outData : List UInt8) (iso : List UsbipIsoPacketDescriptor)
  | unlink (base : UsbipHeaderBasic) (unlinkSeqnum : UInt32)
  deriving DecidableEq

def outSize (cmd : UsbipCmdSubmit) : Nat :=
  if cmd.base.direction = kDirOut ∧ 0 < cmd.transferBufferLength then
    cmd.transferBufferLength.toInt.toNat
  else 0

def isoCount (cmd : UsbipCmdSubmit) : Nat :=
  if 0 < cmd.numberOfPackets then cmd.numberOfPackets.toInt.toNat else 0

/-- The data and then the descriptors of a submit. -/
def recvSubmit (cmd : UsbipCmdSubmit) (stream : Stream) : Option (Request × Stream) :=
  match recvExact (outSize cmd) stream with
  | none => none
  | some (outData, rest) =>
      match recvExact (isoCount cmd * 16) rest with
      | none => none
      | some (isoBytes, rest) => some (.submit cmd outData (isosOf (isoCount cmd) isoBytes), rest)

/-- One turn of the loop, up to the point where the request is handled. -/
def recvRequest (stream : Stream) : Option (Request × Stream) :=
  match recvExact 48 stream with
  | none => none
  | some (header, rest) =>
      if (cmdOf header).base.command = kCmdUnlink then
        some (.unlink (cmdOf header).base (cmdOf header).transferFlags, rest)
      else if (cmdOf header).base.command ≠ kCmdSubmit then none
      else recvSubmit (cmdOf header) rest

/-- The loop ends when a submit is not handled; an unlink never ends it. -/
def Request.goesOn (handled : UsbipCmdSubmit → List UInt8 → List UsbipIsoPacketDescriptor → Bool) :
    Request → Bool
  | .submit cmd outData iso => handled cmd outData iso
  | .unlink _ _ => true

section Length

variable {size remaining : Nat} {stream rest : Stream} {got : List UInt8}

theorem recvLength_le (remaining : Nat) : recvLength remaining ≤ remaining := by
  rw [recvLength, Int32.toInt_ofNat', Int.bmod_def]
  simp only [Int32.size]
  split <;> omega

theorem recvLength_of_lt (h : remaining < 2 ^ 31) : recvLength remaining = remaining := by
  rw [recvLength, Int32.toInt_ofNat_of_lt h, Int.toNat_natCast]

theorem recvLength_barrier (h : 2 ^ 31 ≤ remaining) :
    2 ^ 31 + recvLength remaining ≤ remaining := by
  rw [recvLength, Int32.toInt_ofNat', Int.bmod_def]
  simp only [Int32.size]
  split <;> omega

theorem recvExact_eq_some (h : recvExact size stream = some (got, rest)) :
    got.length = size ∧ stream.flatten = got ++ rest.flatten :=
  readExact_eq_some recvLength_le h

/-- A read that fits is served. -/
theorem recvExact_append {front tail : List UInt8} (hstream : stream.flatten = front ++ tail)
    (hfront : front.length = size) (hsize : size < 2 ^ 31) :
    ∃ rest, recvExact size stream = some (front, rest) ∧ rest.flatten = tail := by
  have hsome : (recvExact size stream).isSome = true := by
    apply readExact_isSome
    · intro n hn hpos
      rw [recvLength_of_lt (by omega)]
      exact ⟨hpos, le_rfl⟩
    · rw [hstream, List.length_append]
      omega
  obtain ⟨⟨got, rest⟩, hgot⟩ := Option.isSome_iff_exists.mp hsome
  obtain ⟨hlength, hflatten⟩ := recvExact_eq_some hgot
  obtain ⟨rfl, htail⟩ := List.append_inj (hstream.symm.trans hflatten) (hfront.trans hlength.symm)
  exact ⟨rest, hgot, htail.symm⟩

/-- A read that does not fit is never served. -/
theorem recvExact_eq_none (h : 2 ^ 31 ≤ size) : recvExact size stream = none :=
  readExact_eq_none (by decide) (fun _ => recvLength_barrier) h

end Length

theorem length_recvSubmit {cmd : UsbipCmdSubmit} {stream rest : Stream} {request : Request}
    (h : recvSubmit cmd stream = some (request, rest)) :
    rest.flatten.length ≤ stream.flatten.length := by
  unfold recvSubmit at h
  split at h
  · cases h
  · rename_i outData middle hout
    split at h
    · cases h
    · rename_i isoBytes last hiso
      obtain ⟨-, rfl⟩ := Prod.mk.inj (Option.some.inj h)
      obtain ⟨-, hstream⟩ := recvExact_eq_some hout
      obtain ⟨-, hmiddle⟩ := recvExact_eq_some hiso
      rw [hstream, hmiddle, List.length_append, List.length_append]
      omega

/-- Every request takes bytes from the stream. -/
theorem length_recvRequest {stream rest : Stream} {request : Request}
    (h : recvRequest stream = some (request, rest)) :
    rest.flatten.length < stream.flatten.length := by
  unfold recvRequest at h
  split at h
  · cases h
  · rename_i header others hheader
    obtain ⟨hlength, hstream⟩ := recvExact_eq_some hheader
    rw [hstream, List.length_append, hlength]
    split_ifs at h with hunlink hother
    · obtain ⟨-, rfl⟩ := Prod.mk.inj (Option.some.inj h)
      omega
    · have hle := length_recvSubmit h
      omega

/-- The requests that the loop passes on, and what the socket still has when the last turn
begins. -/
def receiveLoop (handled : UsbipCmdSubmit → List UInt8 → List UsbipIsoPacketDescriptor → Bool)
    (stream : Stream) : List Request × Stream :=
  match _h : recvRequest stream with
  | none => ([], stream)
  | some (request, rest) =>
      if request.goesOn handled then
        let (requests, last) := receiveLoop handled rest
        (request :: requests, last)
      else ([request], rest)
termination_by stream.flatten.length
decreasing_by exact length_recvRequest _h

end Loop

section Client

/-- A submit as the client makes it. -/
structure Submit where
  cmd : UsbipCmdSubmit
  startFrame : UInt32
  interval : UInt32
  outData : List UInt8
  iso : List UsbipIsoPacketDescriptor
  command_eq : cmd.base.command = kCmdSubmit
  received : Received cmd outData iso

structure Unlink where
  base : UsbipHeaderBasic
  unlinkSeqnum : UInt32
  padding : Vector UInt8 24
  command_eq : base.command = kCmdUnlink

inductive Pdu
  | submit (urb : Submit)
  | unlink (cancel : Unlink)

def encodeIso (iso : UsbipIsoPacketDescriptor) : List UInt8 :=
  [iso.offset, iso.length, iso.actualLength, iso.status].flatMap beBytes32

/-- The words of the header, in the order of the structure. -/
def Submit.words (urb : Submit) : List UInt32 :=
  urb.cmd.base.words ++
    [urb.cmd.transferFlags, urb.cmd.transferBufferLength.toUInt32, urb.startFrame,
      urb.cmd.numberOfPackets.toUInt32, urb.interval]

def Submit.header (urb : Submit) : List UInt8 :=
  urb.words.flatMap beBytes32 ++ urb.cmd.setup.toList

def Unlink.words (cancel : Unlink) : List UInt32 := cancel.base.words ++ [cancel.unlinkSeqnum]

def Unlink.encode (cancel : Unlink) : List UInt8 :=
  cancel.words.flatMap beBytes32 ++ cancel.padding.toList

def Pdu.encode : Pdu → List UInt8
  | .submit urb => urb.header ++ urb.outData ++ urb.iso.flatMap encodeIso
  | .unlink cancel => cancel.encode

/-- A descriptor as the handler sees it. -/
def heard (iso : UsbipIsoPacketDescriptor) : UsbipIsoPacketDescriptor :=
  { iso with actualLength := hton32 iso.actualLength, status := hton32 iso.status }

/-- The request that stands for a PDU: all fields that are used later in host order. -/
def Pdu.request : Pdu → Request
  | .submit urb => .submit urb.cmd urb.outData (urb.iso.map heard)
  | .unlink cancel => .unlink cancel.base cancel.unlinkSeqnum

def Pdu.packets : Pdu → Int
  | .submit urb => urb.cmd.numberOfPackets.toInt
  | .unlink _ => 0

/-- The loop passes on exactly the PDUs and leaves nothing in the socket. -/
def Recovered (handled : UsbipCmdSubmit → List UInt8 → List UsbipIsoPacketDescriptor → Bool)
    (stream : Stream) (pdus : List Pdu) : Prop :=
  (receiveLoop handled stream).1 = pdus.map Pdu.request ∧
    (receiveLoop handled stream).2.flatten = []

end Client

section Headers

theorem Submit.length_words (urb : Submit) : urb.words.length = 10 := rfl

theorem Unlink.length_words (cancel : Unlink) : cancel.words.length = 6 := rfl

theorem Submit.length_header (urb : Submit) : urb.header.length = 48 := by
  rw [Submit.header, List.length_append, length_flatMap_beBytes32, urb.length_words,
    Vector.length_toList]

theorem Unlink.length_encode (cancel : Unlink) : cancel.encode.length = 48 := by
  rw [Unlink.encode, List.length_append, length_flatMap_beBytes32, cancel.length_words,
    Vector.length_toList]

theorem length_encodeIso (iso : UsbipIsoPacketDescriptor) : (encodeIso iso).length = 16 := rfl

theorem length_flatMap_encodeIso (iso : List UsbipIsoPacketDescriptor) :
    (iso.flatMap encodeIso).length = iso.length * 16 := by
  induction iso with
  | nil => rfl
  | cons first rest ih =>
      rw [List.flatMap_cons, List.length_append, length_encodeIso, ih, List.length_cons]
      omega

theorem Submit.ntoh32_header (urb : Submit) {index : Nat} (h : index < 10) :
    ntoh32 (wordAt urb.header index) = urb.words.getD index 0 :=
  swap32_wordAt urb.words urb.cmd.setup.toList h

/-- The header of a submit is read back. -/
theorem cmdOf_header (urb : Submit) : cmdOf urb.header = urb.cmd := by
  have hsetup : (Vector.ofFn fun i : Fin 8 => urb.header.getD (40 + i) 0) = urb.cmd.setup := by
    apply Vector.ext
    intro i hi
    have hwords : (urb.words.flatMap beBytes32).length = 40 := by
      rw [length_flatMap_beBytes32, urb.length_words]
    rw [Vector.getElem_ofFn, List.getD_eq_getElem?_getD, Submit.header,
      List.getElem?_append_right (by omega), hwords, Nat.add_sub_cancel_left,
      List.getElem?_eq_getElem (by simpa using hi), Option.getD_some, Vector.getElem_toList]
  rw [cmdOf, hsetup, urb.ntoh32_header (by decide), urb.ntoh32_header (by decide),
    urb.ntoh32_header (by decide), urb.ntoh32_header (by decide), urb.ntoh32_header (by decide),
    urb.ntoh32_header (by decide), urb.ntoh32_header (by decide), urb.ntoh32_header (by decide)]
  rfl

/-- The fields of an unlink that are used are read back. -/
theorem cmdOf_unlink (cancel : Unlink) :
    (cmdOf cancel.encode).base = cancel.base ∧
      (cmdOf cancel.encode).transferFlags = cancel.unlinkSeqnum := by
  have hword {index : Nat} (h : index < 6) :
      ntoh32 (wordAt cancel.encode index) = cancel.words.getD index 0 :=
    swap32_wordAt cancel.words cancel.padding.toList h
  constructor
  · simp only [cmdOf]
    rw [hword (by decide), hword (by decide), hword (by decide), hword (by decide),
      hword (by decide)]
    rfl
  · simp only [cmdOf]
    rw [hword (by decide)]
    rfl

/-- A descriptor is read back. -/
theorem isoOf_encodeIso (iso : UsbipIsoPacketDescriptor) (rest : List UInt8) :
    isoOf (encodeIso iso ++ rest) = heard iso := by
  have hword {index : Nat} (h : index < 4) :
      ntoh32 (wordAt (encodeIso iso ++ rest) index) =
        [iso.offset, iso.length, iso.actualLength, iso.status].getD index 0 :=
    swap32_wordAt _ rest h
  have hraw {index : Nat} (h : index < 4) :
      wordAt (encodeIso iso ++ rest) index =
        hton32 ([iso.offset, iso.length, iso.actualLength, iso.status].getD index 0) := by
    rw [← hword h]
    exact (swap32_swap32 _).symm
  rw [isoOf, hword (by decide), hword (by decide), hraw (by decide : 2 < 4),
    hraw (by decide : 3 < 4)]
  rfl

theorem isosOf_flatMap (iso : List UsbipIsoPacketDescriptor) :
    isosOf iso.length (iso.flatMap encodeIso) = iso.map heard := by
  induction iso with
  | nil => rfl
  | cons first rest ih =>
      rw [List.length_cons, isosOf, List.flatMap_cons, isoOf_encodeIso,
        List.drop_left' (length_encodeIso first), ih, List.map_cons]

end Headers

section Turns

variable {stream : Stream} {tail : List UInt8}

theorem outSize_lt (cmd : UsbipCmdSubmit) : outSize cmd < 2 ^ 31 := by
  unfold outSize
  split
  · have hlt := cmd.transferBufferLength.toInt_lt
    omega
  · decide

theorem Submit.length_outData (urb : Submit) : urb.outData.length = outSize urb.cmd :=
  urb.received.1

theorem Submit.length_iso (urb : Submit) : urb.iso.length = isoCount urb.cmd :=
  urb.received.2

/-- The descriptors of a submit fit one read when there are not too many of them. -/
theorem isoCount_lt_iff (cmd : UsbipCmdSubmit) :
    isoCount cmd * 16 < 2 ^ 31 ↔ cmd.numberOfPackets.toInt < 2 ^ 27 := by
  unfold isoCount
  split
  · omega
  · rename_i hle
    have hle : cmd.numberOfPackets.toInt ≤ 0 := by
      rw [Int32.not_lt] at hle
      exact Int32.le_iff_toInt_le.mp hle
    omega

theorem recvSubmit_encode {urb : Submit}
    (hstream : stream.flatten = urb.outData ++ urb.iso.flatMap encodeIso ++ tail)
    (hpackets : urb.cmd.numberOfPackets.toInt < 2 ^ 27) :
    ∃ rest, recvSubmit urb.cmd stream = some ((Pdu.submit urb).request, rest) ∧
      rest.flatten = tail := by
  rw [List.append_assoc] at hstream
  obtain ⟨middle, hout, hmiddle⟩ :=
    recvExact_append hstream urb.length_outData (outSize_lt urb.cmd)
  have hlength : (urb.iso.flatMap encodeIso).length = isoCount urb.cmd * 16 := by
    rw [length_flatMap_encodeIso, urb.length_iso]
  obtain ⟨rest, hiso, hrest⟩ :=
    recvExact_append hmiddle hlength ((isoCount_lt_iff urb.cmd).mpr hpackets)
  refine ⟨rest, ?_, hrest⟩
  rw [recvSubmit, hout]
  dsimp only
  rw [hiso]
  dsimp only
  rw [← urb.length_iso, isosOf_flatMap]
  rfl

/-- Too many descriptors are never received. -/
theorem recvSubmit_eq_none {cmd : UsbipCmdSubmit} (h : 2 ^ 27 ≤ cmd.numberOfPackets.toInt) :
    recvSubmit cmd stream = none := by
  have hlong : 2 ^ 31 ≤ isoCount cmd * 16 := by
    have hiff := isoCount_lt_iff cmd
    omega
  unfold recvSubmit
  split
  · rfl
  · rw [recvExact_eq_none hlong]

theorem recvRequest_submit {urb : Submit} (hstream : stream.flatten = urb.header ++ tail) :
    ∃ rest, recvRequest stream = recvSubmit urb.cmd rest ∧ rest.flatten = tail := by
  obtain ⟨rest, hheader, hrest⟩ := recvExact_append hstream urb.length_header (by decide)
  refine ⟨rest, ?_, hrest⟩
  have hunlink : urb.cmd.base.command ≠ kCmdUnlink := by
    rw [urb.command_eq]
    decide
  rw [recvRequest, hheader]
  dsimp only
  rw [cmdOf_header, if_neg hunlink, if_neg (not_not.mpr urb.command_eq)]

theorem recvRequest_unlink {cancel : Unlink} (hstream : stream.flatten = cancel.encode ++ tail) :
    ∃ rest, recvRequest stream = some ((Pdu.unlink cancel).request, rest) ∧
      rest.flatten = tail := by
  obtain ⟨rest, hheader, hrest⟩ := recvExact_append hstream cancel.length_encode (by decide)
  refine ⟨rest, ?_, hrest⟩
  obtain ⟨hbase, hflags⟩ := cmdOf_unlink cancel
  rw [recvRequest, hheader]
  dsimp only
  rw [hbase, hflags, if_pos cancel.command_eq]
  rfl

/-- A PDU at the front of the stream is received if its descriptors fit. -/
theorem recvRequest_encode {pdu : Pdu} (hstream : stream.flatten = pdu.encode ++ tail)
    (hpackets : pdu.packets < 2 ^ 27) :
    ∃ rest, recvRequest stream = some (pdu.request, rest) ∧ rest.flatten = tail := by
  cases pdu with
  | submit urb =>
      rw [Pdu.encode, List.append_assoc, List.append_assoc] at hstream
      obtain ⟨middle, hheader, hmiddle⟩ := recvRequest_submit hstream
      rw [← List.append_assoc] at hmiddle
      rw [hheader]
      exact recvSubmit_encode hmiddle hpackets
  | unlink cancel => exact recvRequest_unlink hstream

theorem recvRequest_eq_none {pdu : Pdu} (hstream : stream.flatten = pdu.encode ++ tail)
    (hpackets : 2 ^ 27 ≤ pdu.packets) : recvRequest stream = none := by
  cases pdu with
  | submit urb =>
      rw [Pdu.encode, List.append_assoc, List.append_assoc] at hstream
      obtain ⟨middle, hheader, -⟩ := recvRequest_submit hstream
      rw [hheader]
      exact recvSubmit_eq_none hpackets
  | unlink cancel =>
      have hzero : (Pdu.unlink cancel).packets = 0 := rfl
      omega

theorem recvRequest_nil (hstream : stream.flatten = []) : recvRequest stream = none := by
  cases h : recvRequest stream with
  | none => rfl
  | some received =>
      have hlt := length_recvRequest h
      rw [hstream] at hlt
      cases hlt

theorem length_isosOf (count : Nat) (bytes : List UInt8) : (isosOf count bytes).length = count := by
  induction count generalizing bytes with
  | zero => rfl
  | succ count ih => rw [isosOf, List.length_cons, ih]

/-- A received submit has the parts that the session thread expects of it. -/
theorem received_of_recvSubmit {cmd cmd' : UsbipCmdSubmit} {outData : List UInt8}
    {iso : List UsbipIsoPacketDescriptor} {rest : Stream}
    (h : recvSubmit cmd stream = some (.submit cmd' outData iso, rest)) :
    Received cmd' outData iso := by
  unfold recvSubmit at h
  split at h
  · cases h
  · rename_i data middle hout
    split at h
    · cases h
    · obtain ⟨hrequest, -⟩ := Prod.mk.inj (Option.some.inj h)
      obtain ⟨rfl, rfl, rfl⟩ := Request.submit.inj hrequest
      exact ⟨(recvExact_eq_some hout).1, length_isosOf _ _⟩

end Turns

section Streams

variable {handled : UsbipCmdSubmit → List UInt8 → List UsbipIsoPacketDescriptor → Bool}
  {stream : Stream}

theorem receiveLoop_none (h : recvRequest stream = none) :
    receiveLoop handled stream = ([], stream) := by
  rw [receiveLoop]
  split
  · rfl
  · rename_i request rest hsome
    rw [h] at hsome
    cases hsome

theorem receiveLoop_some {request : Request} {rest : Stream}
    (h : recvRequest stream = some (request, rest)) (hgoes : request.goesOn handled = true) :
    receiveLoop handled stream =
      (request :: (receiveLoop handled rest).1, (receiveLoop handled rest).2) := by
  rw [receiveLoop]
  split
  · rename_i hnone
    rw [h] at hnone
    cases hnone
  · rename_i request' rest' hsome
    obtain ⟨rfl, rfl⟩ := Prod.mk.inj (Option.some.inj (h.symm.trans hsome))
    rw [if_pos hgoes]

/-- The loop recovers a sequence of PDUs, whatever the fragments are and provided that each
submit is handled, if and only if every submit has less than 2^27 packets. -/
theorem recovered_iff (pdus : List Pdu) (stream : Stream)
    (hstream : stream.flatten = pdus.flatMap Pdu.encode)
    (hhandled : ∀ pdu ∈ pdus, pdu.request.goesOn handled = true) :
    Recovered handled stream pdus ↔ ∀ pdu ∈ pdus, pdu.packets < 2 ^ 27 := by
  induction pdus generalizing stream with
  | nil =>
      have hend : receiveLoop handled stream = ([], stream) :=
        receiveLoop_none (recvRequest_nil hstream)
      rw [Recovered, hend]
      simpa using hstream
  | cons pdu rest ih =>
      rw [List.flatMap_cons] at hstream
      rw [List.forall_mem_cons]
      by_cases hpackets : pdu.packets < 2 ^ 27
      · obtain ⟨others, hrequest, hothers⟩ := recvRequest_encode hstream hpackets
        have hgoes := hhandled pdu List.mem_cons_self
        have hrest := ih others hothers fun later hlater =>
          hhandled later (List.mem_cons_of_mem _ hlater)
        rw [← hrest, Recovered, Recovered, receiveLoop_some hrequest hgoes, List.map_cons,
          List.cons.injEq]
        simp only [true_and, hpackets]
      · have hend : receiveLoop handled stream = ([], stream) :=
          receiveLoop_none (recvRequest_eq_none hstream (not_lt.mp hpackets))
        rw [Recovered, hend]
        constructor
        · rintro ⟨hnone, -⟩
          cases hnone
        · rintro ⟨hpdu, -⟩
          exact absurd hpdu hpackets

/-- A speaker submit of one packet and an unlink of it. -/
def speakerPdus : List Pdu :=
  [.submit
    { cmd :=
        { base := ⟨kCmdSubmit, 1, 0x10001, kDirOut, kEpAudioOut⟩
          transferFlags := 0
          transferBufferLength := 4
          numberOfPackets := 1
          setup := Vector.replicate 8 0 }
      startFrame := 0
      interval := 1
      outData := [1, 2, 3, 4]
      iso := [⟨0, 4, 0, 0⟩]
      command_eq := rfl
      received := by decide },
    .unlink
      { base := ⟨kCmdUnlink, 2, 0x10001, kDirOut, kEpAudioOut⟩
        unlinkSeqnum := 1
        padding := Vector.replicate 24 0
        command_eq := rfl }]

/-- The bytes of the two PDUs arrive one at a time. -/
theorem recovered_speakerPdus :
    Recovered (fun _ _ _ => true) ((speakerPdus.flatMap Pdu.encode).map fun byte => [byte])
      speakerPdus := by
  have hstream : ((speakerPdus.flatMap Pdu.encode).map fun byte => [byte]).flatten =
      speakerPdus.flatMap Pdu.encode := by decide
  have hhandled : ∀ pdu ∈ speakerPdus, pdu.request.goesOn (fun _ _ _ => true) = true := by decide
  exact (recovered_iff speakerPdus _ hstream hhandled).mpr (by decide)

/-- An isochronous IN submit with 2^28 packets. -/
def longSubmit : UsbipCmdSubmit :=
  { base := ⟨kCmdSubmit, 1, 0x10001, kDirIn, kEpAudioIn⟩
    transferFlags := 0
    transferBufferLength := 0
    numberOfPackets := 2 ^ 28
    setup := Vector.replicate 8 0 }

theorem exists_longSubmit : ∃ urb : Submit, urb.cmd = longSubmit := by
  have hreceived : Received longSubmit [] (List.replicate (2 ^ 28) ⟨0, 0, 0, 0⟩) :=
    ⟨rfl, List.length_replicate.trans (by decide)⟩
  exact ⟨⟨longSubmit, 0, 1, [], _, rfl, hreceived⟩, rfl⟩

/-- Its 2^32 bytes of descriptors are asked for with a length of zero. -/
theorem longSubmit_not_recovered : ∃ urb : Submit, urb.cmd = longSubmit ∧
    ¬Recovered (fun _ _ _ => true) [(Pdu.submit urb).encode] [.submit urb] := by
  obtain ⟨urb, hurb⟩ := exists_longSubmit
  refine ⟨urb, hurb, ?_⟩
  have hpackets : 2 ^ 27 ≤ (Pdu.submit urb).packets := by
    rw [Pdu.packets, hurb]
    decide
  have hstream : [(Pdu.submit urb).encode].flatten = (Pdu.submit urb).encode ++ [] := rfl
  rw [Recovered, receiveLoop_none (recvRequest_eq_none hstream hpackets)]
  rintro ⟨hnone, -⟩
  cases hnone

end Streams

end VirtualDualSense.UsbIp.Receive
