import VirtualDualSense.Protocol.FrameStreams
import VirtualDualSense.WinDrv.ByteRings

/-!
# Frames from the daemon to a port

`VdsEvtControlWrite` takes the frames of a write apart and stores their payloads in the port:
the last input report, the feature reports by their identifiers, and the microphone audio in
its ring. The endpoints answer the host from there. A port is a register, a table and a queue
of what the daemon sent.

## Implementation notes

A write is the buffer of its request, and its offset is a `ULONG`. Buffers whose last frame
would end behind 4 GiB are excluded, because the offset would wrap. The operations lock what
they use, so they are served one after the other. The statistics are left out.
-/

namespace VirtualDualSense.WinDrv.ControlWrites

open Lib.Buffers Lib.Refinements Lib.Rings Lib.Words ByteRings
open ControlUrb (PortState copyFeatureReport copyInputReport hidFeatureReportSize
  updateFeatureCache usbInputReportSize)
open Protocol.FrameStreams
open Protocol.Frames (frameMaxPayload)

section Model

def vdsFrameUsbHidIn : UInt16 := 5
def vdsFrameUsbFeatureReply : UInt16 := 6
def vdsFrameUsbAudioIn : UInt16 := 10
def vdsUsbInputReportId : UInt8 := 0x01

/-- The report of a controller that is at rest. -/
def initialReport : List UInt8 := [vdsUsbInputReportId, 0x80, 0x80, 0x80, 0x80]

/-- What the daemon's frames write of `VDS_PORT_STATE`, and the rest of it that the control
endpoint uses. -/
structure Port where
  state : PortState
  audioIn : AudioInRing

/-- `VdsInitializePortState`: the memory of a new port is zero, but for the input report. -/
def Port.new : Port where
  state :=
    { profile := .ds5
      controlRingSize := 0
      frameSequence := 0
      lastHidInput := overwrite (Vector.replicate _ 0) 0 initialReport
      featureCache := fun _ => Vector.replicate _ 0
      featureCacheValid := fun _ => false
      interfaceAltsetting := Vector.replicate _ 0 }
  audioIn := .new

/-- `VdsStoreInputReport`. -/
def storeInputReport (port : PortState) (payload : List UInt8) : PortState :=
  if payload = [] then port
  else
    let report := overwrite (Vector.replicate usbInputReportSize 0) 0
      (payload.take usbInputReportSize)
    { port with lastHidInput := overwrite report 0 [vdsUsbInputReportId] }

/-- `VdsStoreAudioInPcm`. -/
def storeAudioInPcm (port : Port) (payload : List UInt8) (payloadSize : UInt32) : Option Port :=
  if payload = [] then some port
  else (audioInRingWriteLocked port.audioIn payload payloadSize).map fun audioIn =>
    { port with audioIn }

/-- What `VdsEvtControlWrite` does with a frame. -/
def handleFrame (port : Port) (header : FrameHeader) (payload : List UInt8) : Option Port :=
  if header.type = vdsFrameUsbHidIn then
    some { port with state := storeInputReport port.state payload }
  else if header.type = vdsFrameUsbFeatureReply then
    some { port with state := updateFeatureCache port.state payload }
  else if header.type = vdsFrameUsbAudioIn then storeAudioInPcm port payload header.length
  else some port

/-- The loop of `VdsEvtControlWrite`. -/
def controlWriteLoop (buffer : List UInt8) : Nat → Port → UInt32 → Option (Port × NtStatus)
  | 0, _, _ => none
  | fuel + 1, port, offset =>
      if offset.toNat + headerSize ≤ buffer.length then do
        let header := headerOf (← fetch buffer offset.toNat headerSize)
        if header.length > vdsFrameMaxPayload then return (port, .invalidBufferSize)
        let frameSize := vdsFrameHeaderSize + header.length
        if (offset + frameSize).toNat > buffer.length then return (port, .invalidBufferSize)
        let payload ← fetch buffer (offset.toNat + headerSize) header.length.toNat
        let port ← handleFrame port header payload
        controlWriteLoop buffer fuel port (offset + frameSize)
      else return (port, .success)

/-- `VdsEvtControlWrite` of a port that is ready. Every frame takes some bytes. -/
def evtControlWrite (port : Port) (buffer : List UInt8) : Option (Port × NtStatus) :=
  if buffer.length < headerSize then some (port, .invalidBufferSize)
  else controlWriteLoop buffer (buffer.length + 1) port 0

/-- `VdsCopyAudioInPcm`: what the ring has not is silence. -/
def copyAudioInPcm (port : Port) (buffer : Buffer) : Option (Port × List UInt8 × UInt32) :=
  if buffer.bytes = [] then some (port, [], 0)
  else
    (audioInRingReadLocked port.audioIn buffer.bytes buffer.size).map
      fun (audioIn, bytes, readSize) =>
        ({ port with audioIn },
          bytes.take readSize.toNat ++ List.replicate (buffer.bytes.length - readSize.toNat) 0,
          readSize)

end Model

section Specification

/-- The buffer of a write, in which no offset wraps. -/
structure WriteBuffer where
  bytes : List UInt8
  length_lt : bytes.length + (headerSize + frameMaxPayload) < 4294967296

/-- What the daemon and the host do with a port. -/
inductive Operation
  | write (buffer : WriteBuffer)
  | readInput (length : Nat)
  | readFeature (reportId : UInt8) (length : Nat)
  | setFeature (payload : List UInt8)
  | readAudio (buffer : Buffer)
  | reset

inductive Answer
  | status (status : NtStatus)
  | report (bytes : List UInt8)
  | audio (bytes : List UInt8) (readSize : Nat)
  | done
  deriving DecidableEq

def serveOperation (port : Port) : Operation → Option (Port × Answer)
  | .write buffer =>
      (evtControlWrite port buffer.bytes).map fun (port, status) => (port, .status status)
  | .readInput length => some (port, .report (copyInputReport port.state length))
  | .readFeature reportId length =>
      some (port, .report (copyFeatureReport port.state reportId length))
  | .setFeature payload =>
      some ({ port with state := updateFeatureCache port.state payload }, .done)
  | .readAudio buffer =>
      (copyAudioInPcm port buffer).map fun (port, bytes, readSize) =>
        (port, .audio bytes readSize.toNat)
  | .reset => some ({ port with audioIn := resetAudioInPcmLocked port.audioIn }, .done)

/-- A list cut or filled with zeros to a length. -/
def fit (length : Nat) (bytes : List UInt8) : List UInt8 :=
  bytes.take length ++ List.replicate (length - bytes.length) 0

/-- What a port was given: the last input report, the last payload of each feature report, and
the audio that was not read. -/
structure Inputs where
  report : List UInt8
  features : UInt8 → Option (List UInt8)
  audio : List UInt8

def Inputs.new : Inputs := ⟨fit usbInputReportSize initialReport, fun _ => none, []⟩

def Inputs.setFeature (inputs : Inputs) : List UInt8 → Inputs
  | [] => inputs
  | first :: rest =>
      { inputs with features := Function.update inputs.features first (some (first :: rest)) }

/-- A frame replaces the report, replaces a feature report, or adds audio. -/
def Inputs.take (inputs : Inputs) (frame : Frame) : Inputs :=
  match frame.payload with
  | [] => inputs
  | first :: rest =>
      if frame.header.type = vdsFrameUsbHidIn then
        { inputs with report := fit usbInputReportSize (vdsUsbInputReportId :: rest) }
      else if frame.header.type = vdsFrameUsbFeatureReply then inputs.setFeature frame.payload
      else if frame.header.type = vdsFrameUsbAudioIn then
        { inputs with audio := newest audioInRingCapacity (inputs.audio ++ first :: rest) }
      else inputs

/-- The frames of a write, and whether the rest of it is refused. -/
def Inputs.write (inputs : Inputs) (bytes : List UInt8) : Inputs × NtStatus :=
  let (frames, rest) := splitFrames bytes
  if bytes.length < headerSize then (inputs, .invalidBufferSize)
  else (frames.foldl Inputs.take inputs,
    if rest.length < headerSize then .success else .invalidBufferSize)

def Inputs.serve (inputs : Inputs) : Operation → Inputs × Answer
  | .write buffer =>
      let (inputs, status) := inputs.write buffer.bytes
      (inputs, .status status)
  | .readInput length => (inputs, .report (inputs.report.take length))
  | .readFeature reportId length =>
      let report := (inputs.features reportId).getD [reportId]
      (inputs, .report ((fit hidFeatureReportSize report).take length))
  | .setFeature payload => (inputs.setFeature payload, .done)
  | .readAudio buffer =>
      let length := buffer.bytes.length
      ({ inputs with audio := inputs.audio.drop length },
        .audio (fit length inputs.audio) (min length inputs.audio.length))
  | .reset => ({ inputs with audio := [] }, .done)

end Specification

section Reports

theorem length_fit (length : Nat) (bytes : List UInt8) : (fit length bytes).length = length := by
  rw [fit, List.length_append, List.length_take, List.length_replicate]
  omega

theorem getElem?_fit (length : Nat) (bytes : List UInt8) {i : Nat} (h : i < length) :
    (fit length bytes)[i]? = some (bytes.getD i 0) := by
  by_cases hi : i < bytes.length
  · have hlt : i < (bytes.take length).length := by
      rw [List.length_take]
      omega
    rw [fit, List.getElem?_append_left hlt, List.getElem?_take_of_lt h,
      List.getElem?_eq_getElem hi, List.getD_eq_getElem _ _ hi]
  · have hge : (bytes.take length).length ≤ i := by
      rw [List.length_take]
      omega
    rw [fit, List.getElem?_append_right hge, List.getElem?_replicate, List.length_take,
      if_pos (by omega), List.getD_eq_default _ _ (by omega)]

/-- A vector that agrees with the bytes, filled with zeros, everywhere. -/
theorem toList_eq_fit {n : Nat} {buffer : Vector UInt8 n} {bytes : List UInt8}
    (h : ∀ i : Fin n, buffer.get i = bytes.getD i.val 0) : buffer.toList = fit n bytes := by
  refine List.ext_getElem? fun i => ?_
  by_cases hi : i < n
  · rw [getElem?_fit _ _ hi, getElem?_toList buffer ⟨i, hi⟩, h ⟨i, hi⟩]
  · rw [List.getElem?_eq_none, List.getElem?_eq_none]
    · rw [length_fit]
      omega
    · rw [Vector.length_toList]
      omega

theorem get_overwrite_zeros {n : Nat} (bytes : List UInt8) (i : Fin n) :
    (overwrite (Vector.replicate n 0) 0 bytes).get i = bytes.getD i.val 0 := by
  have hzero : (Vector.replicate n (0 : UInt8)).get i = 0 := by simp [Vector.get]
  rw [get_overwrite, if_pos (Nat.zero_le _), hzero, Nat.sub_zero]

theorem getD_take {n i : Nat} (bytes : List UInt8) (h : i < n) :
    (bytes.take n).getD i 0 = bytes.getD i 0 := by
  rw [List.getD_eq_getElem?_getD, List.getD_eq_getElem?_getD, List.getElem?_take_of_lt h]

/-- A payload that is copied over zeros. -/
theorem toList_copied (n : Nat) (bytes : List UInt8) :
    (overwrite (Vector.replicate n 0) 0 (bytes.take n)).toList = fit n bytes :=
  toList_eq_fit fun i => by rw [get_overwrite_zeros, getD_take bytes i.isLt]

theorem toList_input (first : UInt8) (rest : List UInt8) (n : Nat) (value : UInt8) :
    (overwrite (overwrite (Vector.replicate n 0) 0 ((first :: rest).take n)) 0 [value]).toList =
      fit n (value :: rest) := by
  refine toList_eq_fit fun i => ?_
  rw [get_overwrite, if_pos (Nat.zero_le _), Nat.sub_zero, get_overwrite_zeros,
    getD_take _ i.isLt]
  cases i.val with
  | zero => rfl
  | succ k => rfl

end Reports

section Refinement

variable {port : Port} {inputs : Inputs} {frame : Frame} {buffer : List UInt8}

/-- A port holds its inputs. -/
structure Holds (port : Port) (inputs : Inputs) : Prop where
  report : port.state.lastHidInput.toList = inputs.report
  valid : ∀ reportId, port.state.featureCacheValid reportId = (inputs.features reportId).isSome
  features : ∀ reportId payload, inputs.features reportId = some payload →
    (port.state.featureCache reportId).toList = fit hidFeatureReportSize payload
  audio : HoldsAudio port.audioIn inputs.audio

theorem Holds.new : Holds .new .new where
  report := toList_eq_fit fun i => get_overwrite_zeros _ i
  valid := fun _ => rfl
  features := fun _ _ h => by cases h
  audio := .new

theorem Holds.setFeature (held : Holds port inputs) (payload : List UInt8) :
    Holds { port with state := updateFeatureCache port.state payload }
      (inputs.setFeature payload) := by
  cases payload with
  | nil => exact held
  | cons first rest =>
      refine ⟨held.report, fun reportId => ?_, fun reportId payload h => ?_, held.audio⟩
      · simp only [updateFeatureCache, Inputs.setFeature]
        by_cases heq : reportId = first
        · rw [heq, Function.update_self, Function.update_self]
          rfl
        · rw [Function.update_of_ne heq, Function.update_of_ne heq]
          exact held.valid reportId
      · simp only [updateFeatureCache, Inputs.setFeature] at h ⊢
        by_cases heq : reportId = first
        · rw [heq, Function.update_self] at h ⊢
          rw [toList_copied, Option.some.inj h]
        · rw [Function.update_of_ne heq] at h ⊢
          exact held.features reportId payload h

theorem Holds.storeInput (held : Holds port inputs) (first : UInt8) (rest : List UInt8) :
    Holds { port with state := storeInputReport port.state (first :: rest) }
      { inputs with report := fit usbInputReportSize (vdsUsbInputReportId :: rest) } := by
  rw [storeInputReport, if_neg (List.cons_ne_nil first rest)]
  exact ⟨toList_input first rest _ _, held.valid, held.features, held.audio⟩

theorem Holds.storeAudio (held : Holds port inputs) {payload : List UInt8} {payloadSize : UInt32}
    (hsome : payload ≠ []) (hsize : payload.length = payloadSize.toNat) :
    ∃ port', storeAudioInPcm port payload payloadSize = some port' ∧
      Holds port' { inputs with
        audio := newest audioInRingCapacity (inputs.audio ++ payload) } := by
  have hlt : payload.length < 4294967296 := hsize ▸ payloadSize.toNat_lt
  obtain ⟨ring, hring, hheld⟩ := held.audio.write ⟨payload, hlt⟩
  have hbuffer : Buffer.size ⟨payload, hlt⟩ = payloadSize := by
    rw [← UInt32.toNat_inj, Buffer.toNat_size, hsize]
  rw [hbuffer] at hring
  have hstored : storeAudioInPcm port payload payloadSize = some { port with audioIn := ring } := by
    rw [storeAudioInPcm, if_neg hsome, hring]
    rfl
  have haudio : HoldsAudio ring (newest audioInRingCapacity (inputs.audio ++ payload)) := hheld
  generalize newest audioInRingCapacity (inputs.audio ++ payload) = queue at haudio ⊢
  exact ⟨_, hstored, held.report, held.valid, held.features, haudio⟩

/-- A frame is stored where it belongs. -/
theorem Holds.handleFrame (held : Holds port inputs) (hsized : frame.Sized) :
    ∃ port', handleFrame port frame.header frame.payload = some port' ∧
      Holds port' (inputs.take frame) := by
  obtain ⟨header, payload⟩ := frame
  simp only [ControlWrites.handleFrame, Inputs.take]
  cases payload with
  | nil =>
      have hsame : updateFeatureCache port.state [] = port.state := rfl
      rw [storeInputReport, storeAudioInPcm, if_pos rfl, if_pos rfl, hsame]
      split_ifs
      all_goals exact ⟨port, rfl, held⟩
  | cons first rest =>
      dsimp only
      split_ifs with hinput hfeature haudio
      · exact ⟨_, rfl, held.storeInput first rest⟩
      · exact ⟨_, rfl, held.setFeature (first :: rest)⟩
      · exact held.storeAudio (List.cons_ne_nil _ _) hsized
      · exact ⟨port, rfl, held⟩

end Refinement

section Loop

variable {port : Port} {inputs : Inputs} {buffer : List UInt8} {fuel : Nat} {offset : UInt32}

theorem headerOf_take (bytes : List UInt8) : headerOf (bytes.take headerSize) = headerOf bytes := by
  simp only [headerOf, headerSize, List.drop_take, List.take_take]
  rfl

/-- A header that says too much. -/
theorem long_iff (bytes : List UInt8) :
    (headerOf bytes).length > vdsFrameMaxPayload ↔ frameMaxPayload < announced bytes := by
  rw [gt_iff_lt, UInt32.lt_iff_toNat_lt, toNat_vdsFrameMaxPayload]
  rfl

/-- No sum of the loop wraps. -/
theorem toNat_next {header : FrameHeader}
    (hlength : buffer.length + (headerSize + frameMaxPayload) < 4294967296)
    (hoffset : offset.toNat ≤ buffer.length) (hshort : header.length.toNat ≤ frameMaxPayload) :
    (offset + (vdsFrameHeaderSize + header.length)).toNat =
      offset.toNat + (headerSize + header.length.toNat) := by
  have hheaderSize : vdsFrameHeaderSize.toNat = headerSize := toNat_vdsFrameHeaderSize
  have hframe : (vdsFrameHeaderSize + header.length).toNat =
      headerSize + header.length.toNat := by
    rw [toNat_add_of_lt (by omega), hheaderSize]
  rw [toNat_add_of_lt (by omega), hframe]

/-- An iteration that ends the loop. -/
theorem controlWriteLoop_stuck
    (hlength : buffer.length + (headerSize + frameMaxPayload) < 4294967296)
    (hoffset : offset.toNat ≤ buffer.length) (h : Stuck (buffer.drop offset.toNat)) :
    controlWriteLoop buffer (fuel + 1) port offset = some (port,
      if (buffer.drop offset.toNat).length < headerSize then .success else .invalidBufferSize) := by
  have hleft : (buffer.drop offset.toNat).length = buffer.length - offset.toNat := List.length_drop
  rw [controlWriteLoop]
  by_cases hheader : offset.toNat + headerSize ≤ buffer.length
  · have hrest : ¬(buffer.drop offset.toNat).length < headerSize := by omega
    rw [if_pos hheader, if_neg hrest, fetch, if_pos hheader, Option.bind_eq_bind, Option.bind_some,
      headerOf_take]
    by_cases hlong : (headerOf (buffer.drop offset.toNat)).length > vdsFrameMaxPayload
    · exact if_pos hlong
    · -- the frame ends behind the buffer
      have hshort := Nat.le_of_not_lt fun hlt => hlong ((long_iff _).mpr hlt)
      have hnext := toNat_next hlength hoffset hshort
      have hannounced : announced (buffer.drop offset.toNat) =
          (headerOf (buffer.drop offset.toNat)).length.toNat := rfl
      rw [Stuck] at h
      dsimp only
      rw [if_neg hlong, hnext, if_pos (by omega)]
      rfl
  · have hrest : (buffer.drop offset.toNat).length < headerSize := by omega
    rw [if_neg hheader, if_pos hrest]
    rfl

/-- An iteration that handles a frame. -/
theorem controlWriteLoop_frame (port : Port) (fuel : Nat)
    (hlength : buffer.length + (headerSize + frameMaxPayload) < 4294967296)
    (hoffset : offset.toNat ≤ buffer.length) {frame : Frame} {rest : List UInt8}
    (hframe : frame.Sendable) (h : buffer.drop offset.toNat = frame.bytes ++ rest) :
    (offset + (vdsFrameHeaderSize + frame.header.length)).toNat =
        offset.toNat + frame.bytes.length ∧
      controlWriteLoop buffer (fuel + 1) port offset =
        (handleFrame port frame.header frame.payload).bind fun port =>
          controlWriteLoop buffer fuel port
            (offset + (vdsFrameHeaderSize + frame.header.length)) := by
  have hsize := length_frame hframe.sized
  have hnext := toNat_next hlength hoffset hframe.short
  have hleft : (buffer.drop offset.toNat).length = buffer.length - offset.toNat := List.length_drop
  have hall : buffer.length - offset.toNat = frame.bytes.length + rest.length := by
    rw [← hleft, h, List.length_append]
  have hheader : headerOf (buffer.drop offset.toNat) = frame.header := by
    rw [h, Frame.bytes, List.append_assoc, headerOf_bytes]
  have hpayload : (buffer.drop (offset.toNat + headerSize)).take frame.header.length.toNat =
      frame.payload := by
    rw [← List.drop_drop, h, Frame.bytes, List.append_assoc, List.drop_left' (length_bytes _),
      ← hframe.sized, List.take_left' rfl]
  have hlong : ¬frame.header.length > vdsFrameMaxPayload := by
    rw [gt_iff_lt, UInt32.lt_iff_toNat_lt, toNat_vdsFrameMaxPayload]
    exact Nat.not_lt_of_le hframe.short
  refine ⟨hnext.trans (by rw [hsize]), ?_⟩
  rw [controlWriteLoop, if_pos (by omega), fetch, if_pos (by omega), Option.bind_eq_bind,
    Option.bind_some, headerOf_take, hheader]
  dsimp only
  rw [if_neg hlong, hnext, if_neg (by omega), fetch, if_pos (by omega), hpayload]
  rfl

/-- The loop takes the frames of what is left of the buffer. -/
theorem Holds.controlWriteLoop (held : Holds port inputs)
    (hlength : buffer.length + (headerSize + frameMaxPayload) < 4294967296)
    (hoffset : offset.toNat ≤ buffer.length) (hfuel : buffer.length - offset.toNat < fuel) :
    ∃ port', ControlWrites.controlWriteLoop buffer fuel port offset = some (port',
        if (splitFrames (buffer.drop offset.toNat)).2.length < headerSize then .success
        else .invalidBufferSize) ∧
      Holds port' ((splitFrames (buffer.drop offset.toNat)).1.foldl Inputs.take inputs) := by
  induction fuel generalizing port inputs offset with
  | zero => exact absurd hfuel (Nat.not_lt_zero _)
  | succ fuel ih =>
      by_cases h : Stuck (buffer.drop offset.toNat)
      · rw [controlWriteLoop_stuck hlength hoffset h, splitFrames, if_pos h]
        exact ⟨port, rfl, held⟩
      · obtain ⟨frame, hframe, hheader, hpayload, hfront⟩ := exists_frame h
        obtain ⟨hnext, hloop⟩ := controlWriteLoop_frame port fuel hlength hoffset hframe
          hfront
        have hsize := length_frame hframe.sized
        have hle : frame.bytes.length ≤ buffer.length - offset.toNat := by
          have hall := congrArg List.length hfront
          rw [List.length_append, List.length_drop] at hall
          omega
        have hpos : 0 < frame.bytes.length := hsize ▸ Nat.lt_add_right _ (by decide)
        have hdrop : buffer.drop (offset + (vdsFrameHeaderSize + frame.header.length)).toNat =
            (buffer.drop offset.toNat).drop
              (headerSize + announced (buffer.drop offset.toNat)) := by
          rw [hnext, hsize, announced, hheader, List.drop_drop]
        obtain ⟨port₁, hport₁, held₁⟩ := held.handleFrame hframe.sized
        have hinside : (offset + (vdsFrameHeaderSize + frame.header.length)).toNat ≤
            buffer.length := by omega
        obtain ⟨port', hrest, held'⟩ := ih held₁ hinside (by omega)
        rw [hdrop] at hrest held'
        rw [hloop, hport₁, Option.bind_some, splitFrames, if_neg h]
        dsimp only
        rw [hheader, hpayload]
        exact ⟨port', hrest, held'⟩

theorem Holds.evtControlWrite (held : Holds port inputs) (buffer : WriteBuffer) :
    ∃ port', ControlWrites.evtControlWrite port buffer.bytes =
        some (port', (inputs.write buffer.bytes).2) ∧
      Holds port' (inputs.write buffer.bytes).1 := by
  simp only [ControlWrites.evtControlWrite, Inputs.write]
  by_cases hshort : buffer.bytes.length < headerSize
  · rw [if_pos hshort, if_pos hshort]
    exact ⟨port, rfl, held⟩
  · rw [if_neg hshort, if_neg hshort]
    have hfuel : buffer.bytes.length - (0 : UInt32).toNat < buffer.bytes.length + 1 :=
      Nat.lt_succ_of_le (Nat.sub_le _ _)
    have hloop := held.controlWriteLoop buffer.length_lt (Nat.zero_le _) hfuel
    rwa [UInt32.toNat_zero, List.drop_zero] at hloop

end Loop

section Runs

variable {port : Port} {inputs : Inputs}

theorem Holds.readFeature (held : Holds port inputs) (reportId : UInt8) (length : Nat) :
    copyFeatureReport port.state reportId length =
      (fit hidFeatureReportSize ((inputs.features reportId).getD [reportId])).take length := by
  rw [copyFeatureReport, held.valid reportId]
  cases hpayload : inputs.features reportId with
  | none => rfl
  | some payload =>
      rw [Option.isSome_some, if_pos rfl, held.features reportId payload hpayload]
      rfl

theorem Holds.readAudio (held : Holds port inputs) (buffer : Buffer) :
    ∃ port' readSize, copyAudioInPcm port buffer =
        some (port', fit buffer.bytes.length inputs.audio, readSize) ∧
      readSize.toNat = min buffer.bytes.length inputs.audio.length ∧
      Holds port' { inputs with audio := inputs.audio.drop buffer.bytes.length } := by
  by_cases hempty : buffer.bytes = []
  · rw [copyAudioInPcm, if_pos hempty, hempty]
    refine ⟨port, 0, ?_, ?_, ?_⟩
    · rw [fit, List.length_nil, List.take_zero, Nat.zero_sub, List.replicate_zero, List.append_nil]
    · rw [List.length_nil, Nat.zero_min]
      rfl
    · rw [List.length_nil, List.drop_zero]
      exact held
  · obtain ⟨ring, hstep, hheld⟩ := held.audio.read buffer
    obtain ⟨⟨ring', bytes, readSize⟩, hread, heq⟩ := Option.map_eq_some_iff.mp hstep
    obtain ⟨rfl, hresult⟩ := Prod.mk.inj heq
    obtain ⟨rfl, hcount⟩ := Result.read.inj hresult
    refine ⟨{ port with audioIn := ring' }, readSize, ?_, hcount, held.report, held.valid,
      held.features, hheld⟩
    rw [copyAudioInPcm, if_neg hempty, hread, Option.map_some]
    dsimp only
    rw [hcount, List.take_left' List.length_take, fit]
    have hzeros : buffer.bytes.length - min buffer.bytes.length inputs.audio.length =
        buffer.bytes.length - inputs.audio.length := by omega
    rw [hzeros]

/-- A port refines its inputs. -/
theorem refines_inputs : Refines serveOperation Inputs.serve Holds := by
  intro port inputs operation held
  cases operation with
  | write buffer =>
      obtain ⟨port', hwrite, held'⟩ := held.evtControlWrite buffer
      refine ⟨port', ?_, held'⟩
      rw [serveOperation, hwrite]
      rfl
  | readInput length =>
      refine ⟨port, ?_, held⟩
      rw [serveOperation, copyInputReport, held.report]
      rfl
  | readFeature reportId length =>
      refine ⟨port, ?_, held⟩
      rw [serveOperation, held.readFeature]
      rfl
  | setFeature payload => exact ⟨_, rfl, held.setFeature payload⟩
  | readAudio buffer =>
      obtain ⟨port', readSize, hread, hsize, held'⟩ := held.readAudio buffer
      refine ⟨port', ?_, held'⟩
      rw [serveOperation, hread, Option.map_some]
      dsimp only
      rw [hsize]
      rfl
  | reset => exact ⟨_, rfl, held.report, held.valid, held.features, .reset _⟩

/-- There is one way to read a write as frames, and every sequence of writes and reads is
answered from the last report, the last feature reports and the newest audio in them. -/
theorem port_serves_inputs :
    (∀ bytes frames rest, splitFrames bytes = (frames, rest) ↔
      bytes = streamOf frames ++ rest ∧ (∀ frame ∈ frames, frame.Sendable) ∧ Stuck rest) ∧
    ∀ operations, ∃ port, serve serveOperation .new operations =
      some (port, (answers Inputs.serve .new operations).2) := by
  refine ⟨fun _ _ _ => splitFrames_eq_iff, fun operations => ?_⟩
  obtain ⟨port, hserve, -⟩ := refines_inputs.serve_eq .new operations
  exact ⟨port, hserve⟩

end Runs

end VirtualDualSense.WinDrv.ControlWrites
