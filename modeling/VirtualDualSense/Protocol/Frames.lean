import Mathlib.Algebra.Order.Ring.Int
import Mathlib.Data.UInt
import Mathlib.Data.List.Basic

/-!
# Frames between the virtual device and the daemon

Every transport exchanges typed frames of bounded payload with the daemon. The
bound is a field of the frame, because `frame_bytes` refuses to write a longer
payload and the readers refuse to accept one.
-/

namespace VirtualDualSense.Protocol.Frames

def frameMaxPayload : Nat := 4096

/-- `enum vds_frame_type`; a code outside of it stays visible to the readers. -/
inductive FrameType
  | status
  | usbHidOut
  | usbFeatureGet
  | usbFeatureSet
  | usbAudioOut
  | usbHidIn
  | usbFeatureReply
  | usbInterface
  | btControlPacket
  | btInterruptPacket
  | usbAudioIn
  | unknown (code : UInt16)
  deriving DecidableEq

structure Frame where
  type : FrameType
  payload : List UInt8
  payload_le : payload.length ≤ frameMaxPayload
  deriving DecidableEq

/-- A value-initialised frame. -/
def Frame.default : Frame := ⟨.status, [], by decide⟩

/-- `frame_bytes`: the only way a frame is put on a pipe. -/
def frameBytes (type : FrameType) (payload : List UInt8) : Except String Frame :=
  if h : payload.length > frameMaxPayload then
    .error "frame payload exceeds VDS_FRAME_MAX_PAYLOAD"
  else
    .ok ⟨type, payload, by omega⟩

section Microphone

/-- A frame of the microphone stream has two 16-bit samples. -/
def stereoFrameBytes : Nat := 4

theorem stereoFrameBytes_pos : 0 < stereoFrameBytes := by decide

/-- A stereo frame of zero samples. -/
def silence : List UInt8 := List.replicate stereoFrameBytes 0

end Microphone

end VirtualDualSense.Protocol.Frames
