import VirtualDualSense.Lib.Words

/-!
# USB/IP messages

Commands are given in host order, as the receive loop leaves them. Replies are
given as the packed structures that the server fills in memory and copies to the
socket, so that a field is in network order exactly when it was passed through
`hton32`.
-/

namespace VirtualDualSense.UsbIp.Wire

open Lib.Words

def kCmdSubmit : UInt32 := 0x00000001
def kRetSubmit : UInt32 := 0x00000003
def kCmdUnlink : UInt32 := 0x00000002
def kRetUnlink : UInt32 := 0x00000004

def kDirOut : UInt32 := 0
def kDirIn : UInt32 := 1

/-- The host is little-endian, so `htonl` swaps the bytes of its argument. -/
def hton32 (v : UInt32) : UInt32 := swap32 v

def ntoh32 (v : UInt32) : UInt32 := swap32 v

structure UsbipHeaderBasic where
  command : UInt32
  seqnum : UInt32
  devid : UInt32
  direction : UInt32
  ep : UInt32
  deriving DecidableEq

structure UsbipCmdSubmit where
  base : UsbipHeaderBasic
  transferFlags : UInt32
  transferBufferLength : Int32
  numberOfPackets : Int32
  setup : Vector UInt8 8
  deriving DecidableEq

structure UsbipRetSubmit where
  base : UsbipHeaderBasic
  status : UInt32
  actualLength : UInt32
  startFrame : UInt32
  numberOfPackets : UInt32
  errorCount : UInt32
  deriving DecidableEq

structure UsbipIsoPacketDescriptor where
  offset : UInt32
  length : UInt32
  actualLength : UInt32
  status : UInt32
  deriving DecidableEq

structure UsbipRetUnlink where
  base : UsbipHeaderBasic
  status : UInt32
  deriving DecidableEq

def UsbipHeaderBasic.words (base : UsbipHeaderBasic) : List UInt32 :=
  [base.command, base.seqnum, base.devid, base.direction, base.ep]

/-- The 48 bytes of a `UsbipRetSubmit`, its trailing padding zero. -/
def UsbipRetSubmit.bytes (ret : UsbipRetSubmit) : List UInt8 :=
  wordBytes (ret.base.words ++
    [ret.status, ret.actualLength, ret.startFrame, ret.numberOfPackets, ret.errorCount]) ++
    List.replicate 8 0

/-- The 16 bytes of a `UsbipIsoPacketDescriptor`. -/
def UsbipIsoPacketDescriptor.bytes (iso : UsbipIsoPacketDescriptor) : List UInt8 :=
  wordBytes [iso.offset, iso.length, iso.actualLength, iso.status]

end VirtualDualSense.UsbIp.Wire
