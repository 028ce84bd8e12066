import VirtualDualSense.Protocol.OutputState

/-!
# The image inside the reports

Where each Bluetooth report carries the output image, byte by byte.
-/

namespace VirtualDualSense.Protocol.ReportImage

open Lib.Buffers Checksum OutputState PcmAudioExtractor

theorem head?_stateReport (sequence : UInt8) (image : DsState) :
    (DsOutputState.stateReport sequence image).toList.head? = some kBtStateReportId := by
  rw [List.head?_eq_getElem?]
  refine (getElem?_fillOutputReportChecksum _ 0 (by decide)).trans (congrArg some ?_)
  rw [get_overwrite_of_outside _ (.inl (by decide))]
  simp +decide

/-- A state report carries the set-state part of the image. -/
theorem getElem?_stateReport (sequence : UInt8) (image : DsState) {i : Fin kDsStateSize}
    (h : i.val < kSetStateSize) :
    (DsOutputState.stateReport sequence image).toList[kBtStateOffset + i.val]? =
      some (image.get i) := by
  have hlt : kBtStateOffset + i.val < kBtStateReportSize - 4 := by
    simp only [kBtStateOffset, kBtStateReportSize, kSetStateSize] at h ⊢
    omega
  refine (getElem?_fillOutputReportChecksum _ ⟨kBtStateOffset + i.val, by omega⟩ hlt).trans
    (congrArg some ?_)
  refine get_overwrite_of_inside _ (Nat.le_add_right _ _) ?_
  simp only [Nat.add_sub_cancel_left]
  rw [List.getElem?_take_of_lt h]
  exact getElem?_toList image i

theorem head?_buildBtInitReport (o : DsOutputState) :
    o.buildBtInitReport.toList.head? = some kBtMicReportId := by
  rw [List.head?_eq_getElem?]
  refine (getElem?_fillOutputReportChecksum _ 0 (by decide)).trans (congrArg some ?_)
  rw [get_overwrite_of_outside _ (.inl (by decide))]
  simp +decide

theorem getElem?_two_buildBtInitReport (o : DsOutputState) :
    o.buildBtInitReport.toList[2]? = some 0x90 := by
  refine (getElem?_fillOutputReportChecksum _ 2 (by decide)).trans (congrArg some ?_)
  rw [get_overwrite_of_outside _ (.inl (by decide))]
  simp +decide

/-- An init report carries the whole image. -/
theorem getElem?_buildBtInitReport (o : DsOutputState) (i : Fin kDsStateSize) :
    o.buildBtInitReport.toList[kBtInitStateOffset + i.val]? = some (o.state.get i) := by
  have hlt : kBtInitStateOffset + i.val < kBtInitReportSize - 4 := by
    have hi : i.val < 63 := i.isLt
    simp only [kBtInitStateOffset, kBtInitReportSize]
    omega
  refine (getElem?_fillOutputReportChecksum _ ⟨kBtInitStateOffset + i.val, by omega⟩ hlt).trans
    (congrArg some ?_)
  refine get_overwrite_of_inside _ (Nat.le_add_right _ _) ?_
  simp only [Nat.add_sub_cancel_left]
  exact getElem?_toList o.state i

theorem head?_buildBtMicReport (o : DsOutputState) (active : Bool) :
    (o.buildBtMicReport active).2.toList.head? = some kBtMicReportId := by
  rw [List.head?_eq_getElem?]
  refine (getElem?_fillOutputReportChecksum _ 0 (by decide)).trans (congrArg some ?_)
  exact get_overwrite_of_inside _ (by decide) rfl

theorem getElem?_two_buildBtMicReport (o : DsOutputState) (active : Bool) :
    (o.buildBtMicReport active).2.toList[2]? = some 0x91 := by
  refine (getElem?_fillOutputReportChecksum _ 2 (by decide)).trans (congrArg some ?_)
  exact get_overwrite_of_inside _ (by decide) rfl

section Packet

variable (b : HapticsPacketBuilder) (haptics : HapticsChunk) (speaker : SpeakerChunk)
  (state : DsState) (audioSectionsEnabled headsetPlugged : Bool)

theorem head?_buildPacket :
    (b.buildPacket haptics speaker state audioSectionsEnabled headsetPlugged).2.toList.head? =
      some kBtHapticsReportId := by
  rw [List.head?_eq_getElem?]
  refine (getElem?_fillOutputReportChecksum _ 0 (by decide)).trans (congrArg some ?_)
  rw [get_overwrite_of_outside _ (.inl (by decide)), get_overwrite_of_outside _ (.inl (by decide)),
    get_overwrite_of_outside _ (.inl (by decide)), get_overwrite_of_outside _ (.inl (by decide))]
  exact get_overwrite_of_inside _ (by decide) rfl

/-- An audio report carries the whole image. -/
theorem getElem?_buildPacket (i : Fin kDsStateSize) :
    (b.buildPacket haptics speaker state audioSectionsEnabled
      headsetPlugged).2.toList[kBtHapticsStateOffset + i.val]? = some (state.get i) := by
  have hlt : kBtHapticsStateOffset + i.val < 76 := by
    have hi : i.val < 63 := i.isLt
    simp only [kBtHapticsStateOffset]
    omega
  refine (getElem?_fillOutputReportChecksum _ ⟨kBtHapticsStateOffset + i.val,
    Nat.lt_trans hlt (by decide)⟩ (Nat.lt_trans hlt (by decide))).trans (congrArg some ?_)
  rw [get_overwrite_of_outside _ (.inl (Nat.lt_trans hlt (by decide))),
    get_overwrite_of_outside _ (.inl (Nat.lt_trans hlt (by decide))),
    get_overwrite_of_outside _ (.inl hlt)]
  refine get_overwrite_of_inside _ (Nat.le_add_right _ _) ?_
  simp only [Nat.add_sub_cancel_left]
  exact getElem?_toList state i

end Packet

end VirtualDualSense.Protocol.ReportImage
