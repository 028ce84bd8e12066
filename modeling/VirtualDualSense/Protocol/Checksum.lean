import Mathlib.Logic.Function.Iterate
import VirtualDualSense.Lib.Buffers
import VirtualDualSense.Lib.Words

/-!
# Checksums of Bluetooth reports

Every Bluetooth report ends with a CRC-32 whose seed stands for the transaction
byte in front of the report.
-/

namespace VirtualDualSense.Protocol.Checksum

open Lib.Buffers Lib.Words

def kOutputCrcSeed : UInt32 := 0xeada2d49
def kFeatureCrcSeed : UInt32 := 0x2060efc3

/-- One of the eight rounds of `crc32_table_entry`. -/
def crc32Round (index : UInt32) : UInt32 :=
  (index >>> 1) ^^^ (0xedb88320 &&& (0 - (index &&& 1)))

def crc32TableEntry (index : UInt32) : UInt32 := crc32Round^[8] index

def kCrc32Table : Vector UInt32 256 := Vector.ofFn fun i => crc32TableEntry i.val.toUInt32

/-- The table index of a byte. -/
def crc32Index (crc : UInt32) (byte : UInt8) : Fin 256 :=
  ⟨((crc ^^^ byte.toUInt32) &&& 0xff).toNat, by
    have h : ((crc ^^^ byte.toUInt32) &&& 0xff).toNat ≤ 0xff := by
      rw [UInt32.toNat_and]
      exact Nat.and_le_right
    omega⟩

def crc32Seeded (data : List UInt8) (seed : UInt32) : UInt32 :=
  ~~~ data.foldl (fun crc byte => (crc >>> 8) ^^^ kCrc32Table.get (crc32Index crc byte)) (~~~ seed)

def outputCrc32 (data : List UInt8) : UInt32 := crc32Seeded data kOutputCrcSeed

def featureCrc32 (data : List UInt8) : UInt32 := crc32Seeded data kFeatureCrcSeed

variable {n : Nat}

/-- Store the checksum of all but the last four bytes in the last four. The
report arrays of the callers are long enough. -/
def fillReportChecksum (crc32 : List UInt8 → UInt32) (report : Vector UInt8 n) : Vector UInt8 n :=
  overwrite report (n - 4) (leBytes32 (crc32 (report.toList.take (n - 4))))

def fillOutputReportChecksum (report : Vector UInt8 n) : Vector UInt8 n :=
  fillReportChecksum outputCrc32 report

def fillFeatureReportChecksum (report : Vector UInt8 n) : Vector UInt8 n :=
  fillReportChecksum featureCrc32 report

/-- The checksum leaves the report's content alone. -/
theorem getElem?_fillOutputReportChecksum (report : Vector UInt8 n) (i : Fin n)
    (h : i.val < n - 4) :
    (fillOutputReportChecksum report).toList[i.val]? = some (report.get i) := by
  rw [getElem?_toList]
  exact congrArg some (get_overwrite_of_outside report (.inl h))

end VirtualDualSense.Protocol.Checksum
