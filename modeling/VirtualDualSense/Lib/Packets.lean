import VirtualDualSense.Lib.Blocks
import VirtualDualSense.Lib.Ledgers

/-!
# Packet queues that are read as a stream

Items arrive in packets and leave one at a time, in order. A write to a full queue
drops the unread rests of the oldest packets until the new packet fits. A read that
finds too few items is padded.
-/

namespace VirtualDualSense.Lib.Packets

open Blocks Ledgers

inductive Fate
  | delivered
  | dropped
  | flushed
  deriving DecidableEq

/-- The unread rests of the queued packets, oldest first, and the items that left. -/
structure PacketFifo (α : Type*) where
  segments : List (List α)
  gone : List (α × Fate)

variable {α : Type*}

/-- Split off the oldest segments that are in the way of `length` more items. -/
def makeRoom (cap length : Nat) : List (List α) → List (List α) × List (List α)
  | [] => ([], [])
  | oldest :: rest =>
      if cap < (oldest :: rest).flatten.length + length then
        (oldest :: (makeRoom cap length rest).1, (makeRoom cap length rest).2)
      else ([], oldest :: rest)

/-- Remove the first `count` items. -/
def dropItems (count : Nat) : List (List α) → List (List α)
  | [] => []
  | oldest :: rest =>
      if count < oldest.length then oldest.drop count :: rest
      else dropItems (count - oldest.length) rest

namespace PacketFifo

def empty : PacketFifo α := ⟨[], []⟩

/-- The same queue without the packet boundaries. -/
def ledger (f : PacketFifo α) : Ledger α Fate := ⟨f.segments.flatten, f.gone⟩

def write (cap : Nat) (f : PacketFifo α) (packet : List α) : PacketFifo α :=
  let (dropped, kept) := makeRoom cap packet.length f.segments
  { segments := kept ++ [packet]
    gone := f.gone ++ dropped.flatten.map fun item => (item, .dropped) }

/-- The items that a read of `count` finds. -/
def found (f : PacketFifo α) (count : Nat) : List α := f.segments.flatten.take count

def pull (f : PacketFifo α) (count : Nat) : PacketFifo α where
  segments := dropItems count f.segments
  gone := f.gone ++ (f.found count).map fun item => (item, .delivered)

def flush (f : PacketFifo α) : PacketFifo α where
  segments := []
  gone := f.gone ++ f.segments.flatten.map fun item => (item, .flushed)

end PacketFifo

section Segments

variable {cap length count n : Nat} {S : Set (List α)} {segments : List (List α)}

/-- Only the oldest segments are dropped, and they are dropped whole. -/
theorem makeRoom_append (cap length : Nat) (segments : List (List α)) :
    (makeRoom cap length segments).1 ++ (makeRoom cap length segments).2 = segments := by
  induction segments with
  | nil => rfl
  | cons oldest rest ih =>
      rw [makeRoom]
      split
      · rw [List.cons_append, ih]
      · rfl

/-- What is kept leaves room, if anything is kept. -/
theorem makeRoom_fits (h : (makeRoom cap length segments).2 ≠ []) :
    (makeRoom cap length segments).2.flatten.length + length ≤ cap := by
  induction segments with
  | nil => exact absurd rfl h
  | cons oldest rest ih =>
      rw [makeRoom] at h ⊢
      split at h
      · rename_i hfull
        rw [if_pos hfull]
        exact ih h
      · rename_i hfits
        rw [if_neg hfits]
        exact Nat.le_of_not_lt hfits

theorem mem_of_mem_kept {segment : List α} (h : segment ∈ (makeRoom cap length segments).2) :
    segment ∈ segments := by
  rw [← makeRoom_append cap length segments]
  exact List.mem_append_right _ h

theorem flatten_dropItems (count : Nat) (segments : List (List α)) :
    (dropItems count segments).flatten = segments.flatten.drop count := by
  induction segments generalizing count with
  | nil => simp [dropItems]
  | cons oldest rest ih =>
      rw [dropItems]
      split
      · rename_i hlt
        rw [List.flatten_cons, List.flatten_cons, List.drop_append_of_le_length hlt.le]
      · rename_i hle
        rw [ih, List.flatten_cons, List.drop_append,
          List.drop_eq_nil_of_le (Nat.le_of_not_lt hle), List.nil_append]

theorem madeOf_dropItems (hn : 0 < n) (hcount : n ∣ count)
    (h : ∀ segment ∈ segments, MadeOf n S segment) :
    ∀ segment ∈ dropItems count segments, MadeOf n S segment := by
  induction segments generalizing count with
  | nil => simp [dropItems]
  | cons oldest rest ih =>
      have holdest := h oldest List.mem_cons_self
      have hrest : ∀ segment ∈ rest, MadeOf n S segment := by
        intro segment hsegment
        exact h segment (List.mem_cons_of_mem oldest hsegment)
      rw [dropItems]
      split
      · intro segment hsegment
        rcases List.mem_cons.mp hsegment with rfl | hsegment
        · exact holdest.drop hn hcount
        · exact hrest segment hsegment
      · exact ih (Nat.dvd_sub hcount holdest.whole) hrest

end Segments

namespace PacketFifo

variable (f : PacketFifo α)

theorem ledger_write (cap : Nat) (packet : List α) : (f.write cap packet).ledger =
    (f.ledger.retire (makeRoom cap packet.length f.segments).1.flatten.length .dropped).extend
      packet := by
  have hsplit : f.segments.flatten = (makeRoom cap packet.length f.segments).1.flatten ++
      (makeRoom cap packet.length f.segments).2.flatten := by
    rw [← List.flatten_append, makeRoom_append]
  simp only [write, ledger, Ledger.retire, Ledger.extend, hsplit, List.drop_left,
    List.take_left, List.flatten_append, List.flatten_cons, List.flatten_nil, List.append_nil]

theorem ledger_pull (count : Nat) : (f.pull count).ledger = f.ledger.retire count .delivered := by
  simp only [pull, ledger, Ledger.retire, flatten_dropItems, found]

theorem ledger_flush : f.flush.ledger = f.ledger.retireAll .flushed := by
  simp only [flush, ledger, Ledger.retireAll, Ledger.retire, List.drop_length, List.take_length,
    List.flatten_nil]

end PacketFifo

end VirtualDualSense.Lib.Packets
