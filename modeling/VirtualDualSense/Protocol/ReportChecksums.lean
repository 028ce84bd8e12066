import VirtualDualSense.Lib.Crc
import VirtualDualSense.Protocol.BtPackets

/-!
# The checksums are CRC-32

The controller checks the CRC-32 of IEEE 802.3 over the whole packet, the transaction byte
in front of the report included. The daemon computes it over the report alone, from a table
and from a seed that stands for the transaction byte.
-/

namespace VirtualDualSense.Protocol.ReportChecksums

open Lib.Buffers Lib.Words Lib.Crc Checksum BtPackets

/-- The reflected polynomial of IEEE 802.3. -/
def polynomial : BitVec 32 := 0xedb88320#32

/-- The CRC-32 of a message, bit by bit. -/
def crc32 (message : List UInt8) : UInt32 := ⟨crc polynomial (message.map UInt8.toBitVec)⟩

section Table

theorem toBitVec_crc32Round (index : UInt32) :
    (crc32Round index).toBitVec = round polynomial index.toBitVec := by
  have hone : UInt32.toBitVec 1 = 1#32 := rfl
  rw [round_eq, crc32Round, UInt32.toBitVec_xor, UInt32.toBitVec_and, UInt32.toBitVec_sub,
    UInt32.toBitVec_and, hone, BitVec.and_one_eq_setWidth_ofBool_getLsbD]
  -- the mask has all bits or none
  cases index.toBitVec.getLsbD 0 with
  | false => rfl
  | true => rfl

theorem toBitVec_crc32TableEntry (index : UInt32) :
    (crc32TableEntry index).toBitVec = (round polynomial)^[8] index.toBitVec := by
  have hiterate : ∀ n, (crc32Round^[n] index).toBitVec = (round polynomial)^[n] index.toBitVec := by
    intro n
    induction n with
    | zero => rfl
    | succ n ih =>
        rw [Function.iterate_succ_apply', Function.iterate_succ_apply', toBitVec_crc32Round, ih]
  exact hiterate 8

theorem get_kCrc32Table (crc : UInt32) (byte : UInt8) :
    kCrc32Table.get (crc32Index crc byte) = crc32TableEntry ((crc ^^^ byte.toUInt32) &&& 0xff) := by
  have hget : kCrc32Table.get (crc32Index crc byte) =
      crc32TableEntry (crc32Index crc byte).val.toUInt32 := by
    change (Vector.ofFn fun i : Fin 256 =>
      crc32TableEntry i.val.toUInt32)[(crc32Index crc byte).val] = _
    rw [Vector.getElem_ofFn]
  rw [hget]
  exact congrArg crc32TableEntry UInt32.ofNat_toNat

/-- One step of the table-driven loop takes the eight bits of its byte. -/
theorem toBitVec_crc32Step (crc : UInt32) (byte : UInt8) :
    ((crc >>> 8) ^^^ kCrc32Table.get (crc32Index crc byte)).toBitVec =
      feedWord polynomial crc.toBitVec byte.toBitVec := by
  have hlow : ∀ x : BitVec 32, x &&& 0xff#32 = (x.setWidth 8).setWidth 32 := by
    intro x
    apply BitVec.eq_of_toNat_eq
    simp only [BitVec.toNat_and, BitVec.toNat_setWidth, BitVec.toNat_ofNat]
    rw [show 255 % 2 ^ 32 = 2 ^ 8 - 1 from rfl, Nat.and_two_pow_sub_one_eq_mod]
    omega
  rw [feedWord_eq (by decide), UInt32.toBitVec_xor, get_kCrc32Table, toBitVec_crc32TableEntry,
    UInt32.toBitVec_and, UInt32.toBitVec_xor]
  exact congrArg₂ (· ^^^ ·) rfl (congrArg _ (hlow _))

theorem toBitVec_foldl (data : List UInt8) (crc : UInt32) :
    (data.foldl (fun (crc : UInt32) byte => (crc >>> 8) ^^^ kCrc32Table.get (crc32Index crc byte))
      crc).toBitVec = (data.map UInt8.toBitVec).foldl (feedWord polynomial) crc.toBitVec := by
  induction data generalizing crc with
  | nil => rfl
  | cons byte rest ih =>
      rw [List.foldl_cons, ih, toBitVec_crc32Step, List.map_cons, List.foldl_cons]

/-- A seed that is the register after a transaction byte. -/
theorem crc32Seeded_eq {seed : UInt32} {transaction : UInt8}
    (h : (~~~seed).toBitVec = feedWord polynomial (BitVec.allOnes 32) transaction.toBitVec)
    (body : List UInt8) : crc32Seeded body seed = crc32 (transaction :: body) := by
  apply UInt32.toBitVec_inj.mp
  rw [crc32Seeded, UInt32.toBitVec_not, toBitVec_foldl, h]
  rfl

theorem outputCrc32_eq (body : List UInt8) :
    outputCrc32 body = crc32 (kBtHidpOutputPrefix :: body) := crc32Seeded_eq (by decide) body

theorem featureCrc32_eq (body : List UInt8) :
    featureCrc32 body = crc32 (kBtHidpSetFeaturePrefix :: body) := crc32Seeded_eq (by decide) body

end Table

section Packets

variable {n : Nat}

theorem toList_fillReportChecksum (checksum : List UInt8 → UInt32) (report : Vector UInt8 n)
    (h : 4 ≤ n) : (fillReportChecksum checksum report).toList =
      report.toList.take (n - 4) ++ leBytes32 (checksum (report.toList.take (n - 4))) :=
  toList_overwrite_end report rfl h

end Packets

/-- Every output report and every feature report of at least four bytes goes out with the
CRC-32 of all that is in front of it, and the two seeds stand for the transaction bytes. -/
theorem packets_end_with_crc32 :
    (∀ (n : Nat) (report : Vector UInt8 n), 4 ≤ n →
      ∃ body, body = kBtHidpOutputPrefix :: report.toList.take (n - 4) ∧
        hidpOutputPacket (fillOutputReportChecksum report).toList =
          body ++ leBytes32 (crc32 body)) ∧
    (∀ report : List UInt8, 4 ≤ report.length →
      ∃ body, body = kBtHidpSetFeaturePrefix :: report.take (report.length - 4) ∧
        featureSetPacket report = body ++ leBytes32 (crc32 body)) ∧
    ∀ body : List UInt8, crc32Seeded body kOutputCrcSeed = crc32 (0xa2 :: body) ∧
      crc32Seeded body kFeatureCrcSeed = crc32 (0x53 :: body) := by
  refine ⟨fun n report h => ⟨_, rfl, ?_⟩, fun report h => ⟨_, rfl, ?_⟩, fun body => ⟨?_, ?_⟩⟩
  · rw [hidpOutputPacket, fillOutputReportChecksum, toList_fillReportChecksum _ _ h, outputCrc32_eq,
      List.cons_append]
  · have hne : report ≠ [] := by
      rintro rfl
      simp at h
    rw [featureSetPacket, if_neg hne]
    dsimp only
    rw [if_pos h, fillFeatureReportChecksum, toList_fillReportChecksum _ _ h, featureCrc32_eq,
      List.cons_append]
    rfl
  · exact outputCrc32_eq body
  · exact featureCrc32_eq body

/-- The packets of two short reports. -/
theorem packets_end_with_crc32_short :
    (∃ body, body = [0xa2, 0x02] ∧ hidpOutputPacket
      (fillOutputReportChecksum #v[0x02, 0, 0, 0, 0]).toList = body ++ leBytes32 (crc32 body)) ∧
    ∃ body, body = [0x53, 0x80] ∧
      featureSetPacket [0x80, 9, 2, 0, 0] = body ++ leBytes32 (crc32 body) := by
  obtain ⟨houtput, hfeature, -⟩ := packets_end_with_crc32
  exact ⟨houtput 5 #v[0x02, 0, 0, 0, 0] (by decide), hfeature [0x80, 9, 2, 0, 0] (by decide)⟩

end VirtualDualSense.Protocol.ReportChecksums
