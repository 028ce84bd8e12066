import Mathlib.Data.UInt
import VirtualDualSense.Hcd.Sections

/-!
# The audio stream of an isochronous URB

The packets of an OUT URB are handed to the daemon in chunks. A chunk spans packets that follow
each other in the transfer buffer, up to the size of a frame. Packets that leave the buffer are
counted as errors and skipped.
-/

namespace VirtualDualSense.Hcd.IsoOutStream

open Protocol.Frames UsbCore Sections

/-- The bytes of a packet; a packet outside of the buffer has none. -/
def packetBytes {n : Nat} (buffer : Vector UInt8 n) (desc : IsoPacketDescriptor) : List UInt8 :=
  if outOfBounds n desc then [] else (buffer.toList.drop desc.offset).take desc.length

/-- The bytes of a chunk. -/
def chunkBytes {n : Nat} (buffer : Vector UInt8 n) (chunk : Chunk) : List UInt8 :=
  (buffer.toList.drop chunk.start).take chunk.length

/-- A chunk in the buffer that fits a frame. -/
structure Fits (n : Nat) (chunk : Chunk) : Prop where
  nextOffset : chunk.nextOffset = chunk.start + chunk.length
  inside : chunk.nextOffset ≤ n
  nonempty : 0 < chunk.length
  length_le : chunk.length ≤ frameMaxPayload

variable {n : Nat} {buffer : Vector UInt8 n} {chunk : Chunk} {desc : IsoPacketDescriptor}

theorem outOfBounds_eq_false :
    outOfBounds n desc = false ↔ desc.offset + desc.length ≤ n ∧ desc.offset ≤ n := by
  simp only [Sections.outOfBounds, Bool.or_eq_false_iff, decide_eq_false_iff_not]
  omega

namespace Fits

theorem ofDesc (hbounds : outOfBounds n desc = false) (hlength : desc.length ≠ 0)
    (hmax : desc.length ≤ frameMaxPayload) : Fits n (.ofDesc desc) where
  nextOffset := rfl
  inside := (outOfBounds_eq_false.mp hbounds).1
  nonempty := Nat.pos_of_ne_zero hlength
  length_le := hmax

/-- A packet that starts where the chunk ends extends it. -/
theorem extend (h : Fits n chunk) (hbounds : outOfBounds n desc = false)
    (hnext : desc.offset = chunk.nextOffset)
    (hmax : chunk.length + desc.length ≤ frameMaxPayload) :
    Fits n ⟨chunk.start, chunk.length + desc.length, chunk.nextOffset + desc.length⟩ where
  nextOffset := by
    rw [h.nextOffset]
    exact Nat.add_assoc _ _ _
  inside := by
    have hinside := (outOfBounds_eq_false.mp hbounds).1
    rw [← hnext]
    exact hinside
  nonempty := Nat.add_pos_left h.nonempty _
  length_le := hmax

theorem length_chunkBytes (h : Fits n chunk) (buffer : Vector UInt8 n) :
    (chunkBytes buffer chunk).length = chunk.length := by
  have hinside := h.inside
  rw [h.nextOffset] at hinside
  simp only [chunkBytes, List.length_take, List.length_drop, Vector.length_toList]
  omega

/-- The extended chunk has the bytes of the chunk and of the packet. -/
theorem chunkBytes_extend (h : Fits n chunk) (hbounds : outOfBounds n desc = false)
    (hnext : desc.offset = chunk.nextOffset) :
    chunkBytes buffer ⟨chunk.start, chunk.length + desc.length, chunk.nextOffset + desc.length⟩ =
      chunkBytes buffer chunk ++ packetBytes buffer desc := by
  rw [packetBytes, hbounds, hnext, h.nextOffset]
  simp only [chunkBytes, List.take_add, List.drop_drop, Bool.false_eq_true, if_false]

end Fits

/-- The bytes of the chunk under construction. -/
def pendingBytes (buffer : Vector UInt8 n) (pending : Option Chunk) : List UInt8 :=
  (pending.map (chunkBytes buffer)).getD []

/-- The chunks carry the pending bytes and the packets of the list, and each fits a frame. -/
theorem isoOutChunks_spec (buffer : Vector UInt8 n) (pending : Option Chunk)
    {descs : List IsoPacketDescriptor} (hpending : ∀ chunk ∈ pending, Fits n chunk)
    (hdescs : ∀ desc ∈ descs, outOfBounds n desc = false → desc.length ≤ frameMaxPayload) :
    ((isoOutChunks n pending descs).map (chunkBytes buffer)).flatten =
      pendingBytes buffer pending ++ descs.flatMap (packetBytes buffer) ∧
    ∀ chunk ∈ isoOutChunks n pending descs, Fits n chunk := by
  induction descs generalizing pending with
  | nil =>
      cases pending with
      | none => simp [isoOutChunks, pendingBytes]
      | some chunk =>
          simp only [isoOutChunks]
          refine ⟨by simp [pendingBytes], ?_⟩
          intro chunk' hchunk'
          rw [List.mem_singleton.mp hchunk']
          exact hpending chunk rfl
  | cons desc rest ih =>
      have hrest : ∀ desc ∈ rest, outOfBounds n desc = false → desc.length ≤ frameMaxPayload :=
        fun desc hdesc => hdescs desc (List.mem_cons_of_mem _ hdesc)
      by_cases hbounds : outOfBounds n desc = true
      · obtain ⟨hbytes, hfits⟩ := ih _ hpending hrest
        have hskip : isoOutChunks n pending (desc :: rest) = isoOutChunks n pending rest := by
          cases pending <;> simp [isoOutChunks, hbounds]
        rw [hskip, hbytes]
        exact ⟨by simp [packetBytes, hbounds], hfits⟩
      rw [Bool.not_eq_true] at hbounds
      by_cases hlength : desc.length = 0
      · obtain ⟨hbytes, hfits⟩ := ih _ hpending hrest
        have hskip : isoOutChunks n pending (desc :: rest) = isoOutChunks n pending rest := by
          cases pending <;> simp [isoOutChunks, hlength]
        rw [hskip, hbytes]
        exact ⟨by simp [packetBytes, hlength], hfits⟩
      have hdesc := Fits.ofDesc hbounds hlength (hdescs desc List.mem_cons_self hbounds)
      have hown : chunkBytes buffer (.ofDesc desc) = packetBytes buffer desc := by
        simp [chunkBytes, packetBytes, Chunk.ofDesc, hbounds]
      obtain ⟨hbytes, hfits⟩ := ih (some (.ofDesc desc)) (by simpa using hdesc) hrest
      cases pending with
      | none =>
          have hnew : isoOutChunks n none (desc :: rest) =
              isoOutChunks n (some (.ofDesc desc)) rest := by
            simp [isoOutChunks, hbounds, hlength]
          rw [hnew, hbytes]
          exact ⟨by simp [pendingBytes, hown], hfits⟩
      | some chunk =>
          have hchunk := hpending chunk rfl
          by_cases hmerge : desc.offset = chunk.nextOffset ∧
              chunk.length + desc.length ≤ frameMaxPayload
          · obtain ⟨hbytes, hfits⟩ := ih (some ⟨chunk.start,
              chunk.length + desc.length, chunk.nextOffset + desc.length⟩)
              (by simpa using hchunk.extend hbounds hmerge.1 hmerge.2) hrest
            have hmerged : isoOutChunks n (some chunk) (desc :: rest) = isoOutChunks n
                (some ⟨chunk.start, chunk.length + desc.length,
                  chunk.nextOffset + desc.length⟩) rest := by
              rw [isoOutChunks, if_neg (by simp [hbounds, hlength])]
              exact if_pos hmerge
            rw [hmerged, hbytes]
            refine ⟨?_, hfits⟩
            simp [pendingBytes, hchunk.chunkBytes_extend hbounds hmerge.1]
          · have hsplit : isoOutChunks n (some chunk) (desc :: rest) =
                chunk :: isoOutChunks n (some (.ofDesc desc)) rest := by
              rw [isoOutChunks, if_neg (by simp [hbounds, hlength])]
              exact if_neg hmerge
            rw [hsplit, List.map_cons, List.flatten_cons, hbytes]
            refine ⟨by simp [pendingBytes, hown], ?_⟩
            intro chunk' hchunk'
            rcases List.mem_cons.mp hchunk' with rfl | hlater
            · exact hchunk
            · exact hfits chunk' hlater

/-- `vds_enqueue_frame` that succeeds queues the payload as one frame. -/
theorem events_of_enqueueFrame {dev dev' : HcdDev} {type : FrameType} {payload : List UInt8}
    {alloc : Bool} (h : enqueueFrame dev type payload alloc = (dev', 0)) :
    ∃ event, dev'.events = dev.events ++ [event] ∧ event.frame.type = type ∧
      event.frame.payload = payload := by
  unfold enqueueFrame at h
  split_ifs at h
  · exact absurd (Prod.mk.inj h).2 (show enomem ≠ 0 by decide)
  · exact absurd (Prod.mk.inj h).2 (show eshutdown ≠ 0 by decide)
  · exact absurd (Prod.mk.inj h).2 (show enospc ≠ 0 by decide)
  · rw [← (Prod.mk.inj h).1]
    exact ⟨_, rfl, rfl, rfl⟩
  · exact absurd (Prod.mk.inj h).2 (show emsgsize ≠ 0 by decide)

section Counters

variable {descs : List IsoPacketDescriptor}

theorem flatMap_packetBytes (buffer : Vector UInt8 n) :
    descs.flatMap (packetBytes buffer) = (descs.filter fun desc => !outOfBounds n desc).flatMap
      fun desc => (buffer.toList.drop desc.offset).take desc.length := by
  induction descs with
  | nil => rfl
  | cons desc rest ih =>
      rw [List.flatMap_cons, ih]
      cases hbounds : outOfBounds n desc <;> simp [packetBytes, hbounds]

theorem countP_isoOutPackets :
    (isoOutPackets n descs).countP (fun desc => desc.status == eoverflow) =
      descs.countP (outOfBounds n) := by
  rw [isoOutPackets, List.countP_map]
  refine List.countP_congr fun desc _ => ?_
  cases hbounds : outOfBounds n desc <;> simp [hbounds, eoverflow]

theorem sum_isoOutPackets :
    ((isoOutPackets n descs).map IsoPacketDescriptor.actualLength).sum =
      ((descs.filter fun desc => !outOfBounds n desc).map IsoPacketDescriptor.length).sum := by
  induction descs with
  | nil => rfl
  | cons desc rest ih =>
      simp only [isoOutPackets, List.map_cons, List.sum_cons] at ih ⊢
      rw [ih]
      cases hbounds : outOfBounds n desc <;> simp [hbounds]

theorem sum_le_length_mul
    (h : ∀ desc ∈ descs, outOfBounds n desc = false → desc.length ≤ frameMaxPayload) :
    ((descs.filter fun desc => !outOfBounds n desc).map IsoPacketDescriptor.length).sum ≤
      descs.length * frameMaxPayload := by
  induction descs with
  | nil => simp
  | cons desc rest ih =>
      have hrest := ih fun desc hdesc => h desc (List.mem_cons_of_mem _ hdesc)
      rw [List.length_cons, Nat.add_mul, Nat.one_mul]
      cases hbounds : outOfBounds n desc
      · have hdesc := h desc List.mem_cons_self hbounds
        simp only [List.filter_cons, hbounds, Bool.not_false, if_true, List.map_cons,
          List.sum_cons]
        omega
      · simp only [List.filter_cons, hbounds, Bool.not_true, Bool.false_eq_true, if_false]
        omega

end Counters

/-- An OUT URB hands its packets to the daemon as they stand in the descriptors: nothing is
lost, doubled or reordered, every frame is nonempty and fits, and the counters are those of the
packets inside of the buffer. -/
theorem isoOutUrb_stream (urb : Urb) (buffer : Vector UInt8 urb.transferBufferLength)
    (hbuffer : urb.transferBuffer = some buffer)
    (hdescs : ∀ desc ∈ urb.isoFrameDesc, outOfBounds urb.transferBufferLength desc = false →
      desc.length ≤ frameMaxPayload) :
    let inside := urb.isoFrameDesc.filter fun desc => !outOfBounds urb.transferBufferLength desc
    let result := isoOutUrb urb
    result.2.2 = 0 ∧
    result.2.1.flatten =
      inside.flatMap (fun desc => (buffer.toList.drop desc.offset).take desc.length) ∧
    (∀ payload ∈ result.2.1, payload ≠ [] ∧ payload.length ≤ frameMaxPayload ∧
      ∀ dev dev' alloc, enqueueFrame dev .usbAudioOut payload alloc = (dev', 0) →
        ∃ event, dev'.events = dev.events ++ [event] ∧ event.frame.type = .usbAudioOut ∧
          event.frame.payload = payload) ∧
    result.1.errorCount =
      urb.isoFrameDesc.countP (fun desc => outOfBounds urb.transferBufferLength desc) ∧
    result.1.actualLength = (inside.map IsoPacketDescriptor.length).sum ∧
    (urb.isoFrameDesc.length < 1048576 → result.1.actualLength < 4294967296) := by
  intro inside result
  have hresult : result = (Urb.finishIso urb (isoOutPackets urb.transferBufferLength
      urb.isoFrameDesc), (isoOutChunks urb.transferBufferLength none urb.isoFrameDesc).map
        (chunkBytes buffer), 0) := by
    simp only [result, isoOutUrb]
    split <;> rename_i hsome
    · rw [hbuffer] at hsome
      cases hsome
    · rw [hbuffer] at hsome
      cases hsome
      rfl
  obtain ⟨hbytes, hfits⟩ := isoOutChunks_spec buffer none (by simp) hdescs
  have htotal : (Urb.finishIso urb (isoOutPackets urb.transferBufferLength
      urb.isoFrameDesc)).actualLength = (inside.map IsoPacketDescriptor.length).sum :=
    sum_isoOutPackets
  rw [hresult]
  refine ⟨rfl, ?_, ?_, countP_isoOutPackets, htotal, ?_⟩
  · exact hbytes.trans (flatMap_packetBytes buffer)
  · intro payload hpayload
    obtain ⟨chunk, hchunk, rfl⟩ := List.mem_map.mp hpayload
    have hchunk := hfits chunk hchunk
    have hlength := hchunk.length_chunkBytes buffer
    refine ⟨?_, ?_, fun dev dev' alloc h => events_of_enqueueFrame h⟩
    · rw [← List.length_pos_iff, hlength]
      exact hchunk.nonempty
    · rw [hlength]
      exact hchunk.length_le
  · intro hlength
    rw [htotal]
    have hsum : (inside.map IsoPacketDescriptor.length).sum ≤
        urb.isoFrameDesc.length * frameMaxPayload := sum_le_length_mul hdescs
    simp only [frameMaxPayload] at hsum
    omega

/-- Two packets that follow each other, one outside of the buffer, and one after a gap. -/
def gapUrb : Urb where
  pipeType := .isochronous
  endpoint := 1
  dirIn := false
  setupPacket := none
  transferBufferLength := 8
  transferBuffer := some #v[2, 4, 6, 8, 10, 12, 14, 16]
  isoFrameDesc := [⟨0, 2, 0, 0⟩, ⟨7, 2, 0, 0⟩, ⟨2, 2, 0, 0⟩, ⟨6, 2, 0, 0⟩]
  actualLength := 0
  errorCount := 0
  startFrame := 0
  linked := true
  unlinked := false
  hcpriv := true

theorem gapUrb_stream :
    (isoOutUrb gapUrb).2.1 = [[2, 4, 6, 8], [14, 16]] ∧
    (isoOutUrb gapUrb).2.1.flatten = [2, 4, 6, 8, 14, 16] ∧
    (isoOutUrb gapUrb).1.errorCount = 1 ∧ (isoOutUrb gapUrb).1.actualLength = 6 := by
  obtain ⟨-, hstream, -, herrors, htotal, -⟩ :=
    isoOutUrb_stream gapUrb #v[2, 4, 6, 8, 10, 12, 14, 16] rfl (by decide)
  exact ⟨by decide, hstream.trans (by decide), herrors.trans (by decide), htotal.trans (by decide)⟩

end VirtualDualSense.Hcd.IsoOutStream
