import VirtualDualSense.UsbIp.ReplyFraming
import Mathlib.Algebra.BigOperators.Ring.Finset

/-!
# Framing of isochronous replies

The header of an isochronous reply reports the sum of the packet lengths, while
the data of an IN reply is as long as the transfer buffer. The two agree exactly
when the packets account for every byte of the buffer.
-/

namespace VirtualDualSense.UsbIp.IsoFraming

open Lib.Words Protocol.Frames Usb.Descriptors Wire CmdSubmit ReplyFraming

/-- The `actual_length` words of a packet array. -/
def actualsOf : List UInt32 → List UInt32
  | _ :: _ :: actual :: _ :: rest => actual :: actualsOf rest
  | _ => []

/-- The number of packets of an isochronous submit. -/
def packetCount (cmd : UsbipCmdSubmit) : Nat := cmd.numberOfPackets.toInt.toNat

/-- The words of a packet array, given the length reported for each packet. -/
def descriptorWords (iso : List UsbipIsoPacketDescriptor) (actuals : List UInt32) : List UInt32 :=
  (iso.zip actuals).flatMap fun (packet, actual) => [packet.offset, packet.length, actual, 0]

/-- What a client requires of the reply to an isochronous submit: the header
echoes the request, its length is the sum over the packets, the data is as long
as the header says (and absent for OUT), and one descriptor follows per packet. -/
structure IsoReplyFramed (cmd : UsbipCmdSubmit) (iso : List UsbipIsoPacketDescriptor)
    (bytes : List UInt8) : Prop where
  header : headerWords bytes =
    [kRetSubmit, cmd.base.seqnum, cmd.base.devid, cmd.base.direction, cmd.base.ep, 0,
      (headerWords bytes).getD 6 0, 0, cmd.numberOfPackets.toUInt32, 0]
  packets : packetWords (packetCount cmd) bytes =
    descriptorWords iso (actualsOf (packetWords (packetCount cmd) bytes))
  sum : actualLengthOf bytes =
    ((actualsOf (packetWords (packetCount cmd) bytes)).map (·.toInt32.toInt)).sum
  size : (bytes.length : Int) =
    headerSize + (if cmd.base.direction = kDirIn then actualLengthOf bytes else 0) +
      packetSize * cmd.numberOfPackets.toInt

/-- The bytes that the packets of a submit account for. -/
def packetBytes (iso : List UsbipIsoPacketDescriptor) : Nat := (iso.map (·.length.toNat)).sum

/-- The packets of an IN submit fill the buffer; those of an OUT submit can be
counted by the header. -/
def PacketsTile (cmd : UsbipCmdSubmit) (iso : List UsbipIsoPacketDescriptor) : Prop :=
  if cmd.base.direction = kDirIn then (packetBytes iso : Int) = cmd.transferBufferLength.toInt
  else packetBytes iso < 2 ^ 31

section Words

theorem actualsOf_descriptorWords {iso : List UsbipIsoPacketDescriptor} {actuals : List UInt32}
    (h : actuals.length = iso.length) : actualsOf (descriptorWords iso actuals) = actuals := by
  induction iso generalizing actuals with
  | nil => simp_all [descriptorWords, actualsOf]
  | cons packet rest ih =>
      obtain ⟨actual, tail, rfl⟩ := List.exists_cons_of_length_eq_add_one h
      have htail := @ih tail (by simpa using h)
      simpa [descriptorWords, actualsOf] using htail

theorem toNat_sum (words : List UInt32) :
    words.sum.toNat = (words.map UInt32.toNat).sum % 2 ^ 32 := by
  induction words with
  | nil => rfl
  | cons word rest ih =>
      rw [List.sum_cons, UInt32.toNat_add, ih, List.map_cons, List.sum_cons, Nat.add_mod_mod]

theorem packet_bytes (iso : List UsbipIsoPacketDescriptor) (actuals : List UInt32) :
    ((iso.zip actuals).map fun (packet, actual) =>
      (⟨hton32 packet.offset, hton32 packet.length, hton32 actual, hton32 0⟩ :
        UsbipIsoPacketDescriptor)).flatMap UsbipIsoPacketDescriptor.bytes =
      wordBytes ((descriptorWords iso actuals).map swap32) := by
  induction iso generalizing actuals with
  | nil => rfl
  | cons packet rest ih =>
      cases actuals with
      | nil => rfl
      | cons actual tail =>
          have htail := ih tail
          simp only [List.zip_cons_cons, List.map_cons, List.flatMap_cons] at htail ⊢
          rw [htail]
          rfl

theorem length_descriptorWords {iso : List UsbipIsoPacketDescriptor} {actuals : List UInt32}
    (h : actuals.length = iso.length) : (descriptorWords iso actuals).length = 4 * iso.length := by
  simp [descriptorWords, List.length_flatMap, h]
  omega

end Words

/-- An isochronous submit of one of the audio endpoints, with a packet array
inside the buffer. -/
structure IsoSubmit (cmd : UsbipCmdSubmit) (iso : List UsbipIsoPacketDescriptor) : Prop where
  endpoint : (cmd.base.ep = kEpAudioOut ∧ cmd.base.direction = kDirOut) ∨
    (cmd.base.ep = kEpAudioIn ∧ cmd.base.direction = kDirIn)
  isochronous : 0 < cmd.numberOfPackets
  buffer : 0 ≤ cmd.transferBufferLength
  count : (iso.length : Int) = cmd.numberOfPackets.toInt
  inside : ∀ packet ∈ iso,
    ((packet.offset.toNat + packet.length.toNat : Nat) : Int) ≤ cmd.transferBufferLength.toInt

theorem takeMicBytes_ok (port : Port) {count : Nat} (h : count < 2 ^ 63) :
    ∃ bytes, (takeMicBytes port count).2 = .ok bytes := by
  simp only [takeMicBytes, ge_iff_le, Nat.not_le.mpr h, if_false]
  split_ifs <;> exact ⟨_, rfl⟩

namespace IsoSubmit

variable {cmd : UsbipCmdSubmit} {iso : List UsbipIsoPacketDescriptor}

theorem packetCount_eq (submit : IsoSubmit cmd iso) : packetCount cmd = iso.length := by
  have hcount := submit.count
  unfold packetCount
  omega

theorem transferBufferLength_nonneg (submit : IsoSubmit cmd iso) :
    0 ≤ cmd.transferBufferLength.toInt := by
  have hbuffer := Int32.le_iff_toInt_le.mp submit.buffer
  simpa using hbuffer

/-- The audio branches always produce a body, with the data of the whole buffer
for IN and none for OUT. -/
theorem replyBody_ok (submit : IsoSubmit cmd iso) (port : Port) :
    ∃ body, (replyBody (takeFrame port (waitOf cmd)).1 cmd (takeFrame port (waitOf cmd)).2).2 =
        .ok body ∧ body.status = 0 ∧ body.numberOfPackets = cmd.numberOfPackets ∧
      (body.data.length : Int) =
        if cmd.base.direction = kDirIn then cmd.transferBufferLength.toInt else 0 := by
  rcases submit.endpoint with ⟨hep, hdir⟩ | ⟨hep, hdir⟩
  · have hbranch : branchOf cmd = .audioOut := by
      rw [branchOf, hep, hdir]
      rfl
    refine ⟨⟨0, [], cmd.numberOfPackets⟩, by simp [replyBody, hbranch], rfl, rfl, ?_⟩
    rw [if_neg (by rw [hdir]; decide)]
    rfl
  · have hbranch : branchOf cmd = .audioIn := by
      rw [branchOf, hep, hdir]
      rfl
    have hnonneg := submit.transferBufferLength_nonneg
    have hlt := cmd.transferBufferLength.toInt_lt
    obtain ⟨bytes, hbytes⟩ := takeMicBytes_ok (takeFrame port (waitOf cmd)).1
      (show sizeOfInt32 cmd.transferBufferLength < 2 ^ 63 by unfold sizeOfInt32; omega)
    have hbody : (replyBody (takeFrame port (waitOf cmd)).1 cmd
        (takeFrame port (waitOf cmd)).2).2 = .ok ⟨0, bytes, cmd.numberOfPackets⟩ := by
      simp only [replyBody, hbranch]
      rw [hbytes]
      rfl
    exact ⟨_, hbody, rfl, rfl, by rw [if_pos hdir]; exact length_replyBody_audioIn hbody hbranch⟩

theorem packetActual_eq (submit : IsoSubmit cmd iso) {size : Nat}
    (hsize : (size : Int) =
      if cmd.base.direction = kDirIn then cmd.transferBufferLength.toInt else 0)
    {packet : UsbipIsoPacketDescriptor} (hmem : packet ∈ iso) :
    packetActual cmd.base.direction size packet = packet.length := by
  have hinside := submit.inside packet hmem
  unfold packetActual
  split_ifs with hin hover
  · rw [if_pos hin] at hsize
    apply UInt32.toNat_inj.mp
    simp only [UInt32.toNat_zero]
    omega
  · rw [if_pos hin] at hsize
    have hmin : min packet.length.toNat (size - packet.offset.toNat) = packet.length.toNat := by
      omega
    rw [hmin, UInt32.ofNat_toNat]
  · rfl

/-- The packet lengths of the request are the lengths the reply reports. -/
theorem actuals_eq (submit : IsoSubmit cmd iso) {size : Nat}
    (hsize : (size : Int) =
      if cmd.base.direction = kDirIn then cmd.transferBufferLength.toInt else 0) :
    iso.map (packetActual cmd.base.direction size) = iso.map UsbipIsoPacketDescriptor.length :=
  List.map_congr_left fun _ hmem => submit.packetActual_eq hsize hmem

/-- The bytes of an isochronous reply: header, data, packet array. -/
theorem bytes_eq (submit : IsoSubmit cmd iso) {body : Body}
    (hsize : (body.data.length : Int) =
      if cmd.base.direction = kDirIn then cmd.transferBufferLength.toInt else 0) :
    (buildReply cmd body iso).bytes cmd = (buildReply cmd body iso).ret.bytes ++ body.data ++
      wordBytes ((descriptorWords iso (iso.map UsbipIsoPacketDescriptor.length)).map swap32) := by
  have hdata : (if paceOut cmd then [] else body.data) = body.data := by
    split
    · rename_i hpace
      have hdir : cmd.base.direction = kDirOut := by
        simp only [paceOut, decide_eq_true_eq] at hpace
        exact hpace.2.1
      rw [if_neg (by rw [hdir]; decide)] at hsize
      exact (List.length_eq_zero_iff.mp (by omega)).symm
    · rfl
  rw [SubmitReply.bytes, show (buildReply cmd body iso).data = body.data from rfl, hdata]
  congr 1
  simp only [buildReply, gt_iff_lt, submit.isochronous, if_true, submit.actuals_eq hsize]
  exact packet_bytes iso _

end IsoSubmit

section Readback

variable {cmd : UsbipCmdSubmit} {iso : List UsbipIsoPacketDescriptor} {body : Body}

theorem packetWords_buildReply (submit : IsoSubmit cmd iso)
    (hsize : (body.data.length : Int) =
      if cmd.base.direction = kDirIn then cmd.transferBufferLength.toInt else 0) :
    packetWords (packetCount cmd) ((buildReply cmd body iso).bytes cmd) =
      descriptorWords iso (iso.map UsbipIsoPacketDescriptor.length) := by
  have hwords := length_descriptorWords (show (iso.map UsbipIsoPacketDescriptor.length).length =
      iso.length by simp)
  rw [packetWords, submit.packetCount_eq, submit.bytes_eq hsize]
  have hdrop : ((buildReply cmd body iso).ret.bytes ++ body.data ++
        wordBytes ((descriptorWords iso (iso.map UsbipIsoPacketDescriptor.length)).map
          swap32)).length -
        packetSize * iso.length = ((buildReply cmd body iso).ret.bytes ++ body.data).length := by
    simp only [List.length_append, length_wordBytes, List.length_map, hwords, packetSize]
    omega
  rw [hdrop, List.drop_left, readBeWords_swapped]

theorem length_buildReply (submit : IsoSubmit cmd iso)
    (hsize : (body.data.length : Int) =
      if cmd.base.direction = kDirIn then cmd.transferBufferLength.toInt else 0) :
    ((buildReply cmd body iso).bytes cmd).length =
      headerSize + body.data.length + packetSize * iso.length := by
  have hwords := length_descriptorWords (show (iso.map UsbipIsoPacketDescriptor.length).length =
      iso.length by simp)
  rw [submit.bytes_eq hsize]
  simp only [List.length_append, length_ret_bytes, length_wordBytes, List.length_map, hwords,
    packetSize]
  omega

/-- The header reports the packet bytes if a signed word can count them. -/
theorem actualLengthOf_buildReply_iso (submit : IsoSubmit cmd iso)
    (hsize : (body.data.length : Int) =
      if cmd.base.direction = kDirIn then cmd.transferBufferLength.toInt else 0)
    (hlt : packetBytes iso < 2 ^ 31) :
    actualLengthOf ((buildReply cmd body iso).bytes cmd) = packetBytes iso := by
  have hsum : ((iso.map UsbipIsoPacketDescriptor.length).sum).toNat = packetBytes iso := by
    rw [toNat_sum, List.map_map]
    exact Nat.mod_eq_of_lt (Nat.lt_trans hlt (by decide))
  rw [actualLengthOf_buildReply, reportedLength, if_pos submit.isochronous,
    submit.actuals_eq hsize, toInt_toInt32, hsum, if_pos hlt]

/-- The packet lengths are positive as signed words, so their sum is the number
of packet bytes. -/
theorem sum_actuals (submit : IsoSubmit cmd iso) :
    ((iso.map UsbipIsoPacketDescriptor.length).map (·.toInt32.toInt)).sum =
    (packetBytes iso : Int) := by
  have hlt := cmd.transferBufferLength.toInt_lt
  have hpacket : ∀ packet ∈ iso, packet.length.toInt32.toInt = (packet.length.toNat : Int) := by
    intro packet hmem
    have hinside := submit.inside packet hmem
    rw [toInt_toInt32, if_pos (by omega)]
  rw [packetBytes, List.map_map, Nat.cast_list_sum, List.map_map]
  exact congrArg List.sum (List.map_congr_left hpacket)

end Readback

/-- An isochronous reply is well framed exactly when its packets tile: for IN
they account for the whole buffer, for OUT their total is a signed word. -/
theorem isoReply_framed_iff {port : Port} {cmd : UsbipCmdSubmit}
    {iso : List UsbipIsoPacketDescriptor} (submit : IsoSubmit cmd iso) :
    ∃ reply, (completeSubmit port cmd iso).2 = .ok reply ∧
      (IsoReplyFramed cmd iso (reply.bytes cmd) ↔ PacketsTile cmd iso) := by
  obtain ⟨body, hbody, hstatus, hcount, hsize⟩ := submit.replyBody_ok port
  refine ⟨buildReply cmd body iso, ?_, ?_⟩
  · simp only [completeSubmit, finishSubmit]
    rw [hbody]
    rfl
  have hpackets := packetWords_buildReply submit hsize
  have hlength := length_buildReply submit hsize
  have hheader := buildReply_header cmd body iso
  have hactuals := actualsOf_descriptorWords
    (show (iso.map UsbipIsoPacketDescriptor.length).length = iso.length by simp)
  have hsum := sum_actuals submit
  have hlt := cmd.transferBufferLength.toInt_lt
  have hn := submit.count
  simp only [packetSize] at hlength
  constructor
  · intro hframed
    have hs := hframed.sum
    have hz := hframed.size
    have hword : actualLengthOf ((buildReply cmd body iso).bytes cmd) < 2 ^ 31 := Int32.toInt_lt _
    rw [hpackets, hactuals, hsum] at hs
    unfold PacketsTile
    split_ifs with hin
    · rw [if_pos hin] at hsize hz
      simp only [packetSize] at hz
      omega
    · rw [hs] at hword
      exact_mod_cast hword
  · intro htile
    have hfits : packetBytes iso < 2 ^ 31 := by
      unfold PacketsTile at htile
      split_ifs at htile with hin
      · rw [← htile] at hlt
        exact_mod_cast hlt
      · exact htile
    have htotal := actualLengthOf_buildReply_iso submit hsize hfits
    refine ⟨?_, ?_, ?_, ?_⟩
    · rw [hheader, hstatus, hcount]
      rfl
    · rw [hpackets, hactuals]
    · rw [hpackets, hactuals, hsum, htotal]
    · unfold PacketsTile at htile
      rw [hlength, htotal]
      simp only [packetSize]
      split_ifs at htile hsize ⊢ with hin
      · omega
      · omega

/-- A microphone submit for 8 bytes, with the given number of packets. -/
def micSubmit (packets : Int32) : UsbipCmdSubmit :=
  { base := ⟨kCmdSubmit, 9, 0x10001, kDirIn, kEpAudioIn⟩
    transferFlags := 0
    transferBufferLength := 8
    numberOfPackets := packets
    setup := Vector.replicate 8 0 }

theorem isoReply_framed_micSubmit : ∃ reply,
    (completeSubmit (Port.new .ds5) (micSubmit 2) [⟨0, 4, 0, 0⟩, ⟨4, 4, 0, 0⟩]).2 = .ok reply ∧
      (IsoReplyFramed (micSubmit 2) [⟨0, 4, 0, 0⟩, ⟨4, 4, 0, 0⟩] (reply.bytes (micSubmit 2)) ↔
        PacketsTile (micSubmit 2) [⟨0, 4, 0, 0⟩, ⟨4, 4, 0, 0⟩]) :=
  isoReply_framed_iff
    { endpoint := .inr ⟨rfl, rfl⟩
      isochronous := by decide
      buffer := by decide
      count := by decide
      inside := by decide }

/-- One packet of 4 bytes leaves half of the buffer unaccounted for: the header
says 4 bytes, the reply carries 8. -/
theorem isoReply_not_framed_micSubmit :
    IsoSubmit (micSubmit 1) [⟨0, 4, 0, 0⟩] ∧
      ∃ reply, (completeSubmit (Port.new .ds5) (micSubmit 1) [⟨0, 4, 0, 0⟩]).2 = .ok reply ∧
        ¬IsoReplyFramed (micSubmit 1) [⟨0, 4, 0, 0⟩] (reply.bytes (micSubmit 1)) := by
  refine ⟨⟨.inr ⟨rfl, rfl⟩, by decide, by decide, by decide, by decide⟩, _, rfl, ?_⟩
  intro hframed
  exact absurd hframed.size (by decide)

end VirtualDualSense.UsbIp.IsoFraming
