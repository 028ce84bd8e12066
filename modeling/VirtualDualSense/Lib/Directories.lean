import Mathlib.Data.List.Basic
import Mathlib.Data.List.DropRight
import Mathlib.Data.List.Infix
import Mathlib.Logic.Function.Basic

/-!
# Directories over a medium that can lose power

A volume has the files and the directory that its users see, and what the medium holds of
them. Bytes of a file are on the medium once the file is synchronised and not written
since; changes of the directory are on the medium once the directory is synchronised.
After a power failure any sublist of the other changes may have reached the medium, and a
file that was not synchronised may hold anything.
-/

namespace VirtualDualSense.Lib.Directories

/-- One change of a directory. -/
inductive Change (Name : Type*)
  | link (name : Name) (file : Nat)
  | move (source target : Name) (file : Nat)
  deriving DecidableEq

section Entries

variable {Name : Type*} [DecidableEq Name]

/-- The files that the names of a directory stand for. -/
abbrev Entries (Name : Type*) := Name → Option Nat

/-- A move is one change: the old name goes as the new one comes. -/
def Change.apply (entries : Entries Name) : Change Name → Entries Name
  | .link name file => Function.update entries name (some file)
  | .move source target file =>
      Function.update (Function.update entries source none) target (some file)

def applyAll (entries : Entries Name) (changes : List (Change Name)) : Entries Name :=
  changes.foldl Change.apply entries

theorem applyAll_append (entries : Entries Name) (changes : List (Change Name))
    (change : Change Name) :
    applyAll entries (changes ++ [change]) = change.apply (applyAll entries changes) :=
  List.foldl_concat ..

@[simp] theorem apply_link_self (entries : Entries Name) (name : Name) (file : Nat) :
    (Change.link name file).apply entries name = some file :=
  Function.update_self ..

theorem apply_link_of_ne {name other : Name} (h : other ≠ name) (entries : Entries Name)
    (file : Nat) : (Change.link name file).apply entries other = entries other :=
  Function.update_of_ne h ..

@[simp] theorem apply_move_target (entries : Entries Name) (source target : Name) (file : Nat) :
    (Change.move source target file).apply entries target = some file :=
  Function.update_self ..

theorem apply_move_source {source target : Name} (h : source ≠ target) (entries : Entries Name)
    (file : Nat) : (Change.move source target file).apply entries source = none := by
  simp only [Change.apply]
  rw [Function.update_of_ne h, Function.update_self]

end Entries

/-- A directory with its files. File numbers are not used again. -/
structure Volume (Name α : Type*) where
  content : Nat → List α
  synced : Nat → Bool
  /-- The directory as its users see it. -/
  entries : Name → Option Nat
  /-- The directory on the medium, without the pending changes. -/
  stored : Name → Option Nat
  pending : List (Change Name)
  next : Nat

namespace Volume

variable {Name α : Type*} [DecidableEq Name]

section Operations

/-- A volume whose directory is on the medium. -/
def ofEntries (entries : Name → Option Nat) (content : Nat → List α) (next : Nat) :
    Volume Name α :=
  ⟨content, fun _ => true, entries, entries, [], next⟩

/-- What a user reads under a name. -/
def read? (volume : Volume Name α) (name : Name) : Option (List α) :=
  (volume.entries name).map volume.content

/-- Open a file for writing, emptied, or made when there is none. -/
def openEmptied (volume : Volume Name α) (name : Name) : Nat × Volume Name α :=
  match volume.entries name with
  | some file =>
      (file, { volume with
        content := Function.update volume.content file []
        synced := Function.update volume.synced file false })
  | none =>
      let change := Change.link name volume.next
      (volume.next, { volume with
        content := Function.update volume.content volume.next []
        synced := Function.update volume.synced volume.next false
        entries := change.apply volume.entries
        pending := volume.pending ++ [change]
        next := volume.next + 1 })

/-- Append bytes to a file. -/
def write (volume : Volume Name α) (file : Nat) (bytes : List α) : Volume Name α :=
  { volume with
    content := Function.update volume.content file (volume.content file ++ bytes)
    synced := Function.update volume.synced file false }

def sync (volume : Volume Name α) (file : Nat) : Volume Name α :=
  { volume with synced := Function.update volume.synced file true }

def rename (volume : Volume Name α) (source target : Name) : Option (Volume Name α) :=
  (volume.entries source).map fun file =>
    let change := Change.move source target file
    { volume with
      entries := change.apply volume.entries
      pending := volume.pending ++ [change] }

def syncDirectory (volume : Volume Name α) : Volume Name α :=
  { volume with stored := volume.entries, pending := [] }

/-- The volume that a power failure leaves when the changes `kept` had reached the medium
and `garbage` is what unsynchronised files hold. -/
def losePower (volume : Volume Name α) (kept : List (Change Name)) (garbage : Nat → List α) :
    Volume Name α :=
  let entries := applyAll volume.stored kept
  { content := fun file => if volume.synced file then volume.content file else garbage file
    synced := fun _ => true
    entries, stored := entries, pending := [], next := volume.next }

/-- The directories that a power failure can leave. -/
def Outcome (volume : Volume Name α) (entries : Name → Option Nat) : Prop :=
  ∃ kept, kept.Sublist volume.pending ∧ entries = applyAll volume.stored kept

end Operations

section Files

theorem openEmptied_entries (volume : Volume Name α) (name : Name) :
    (volume.openEmptied name).2.entries name = some (volume.openEmptied name).1 := by
  unfold openEmptied
  cases h : volume.entries name with
  | some file => exact h
  | none => exact apply_link_self ..

theorem openEmptied_content (volume : Volume Name α) (name : Name) :
    (volume.openEmptied name).2.content (volume.openEmptied name).1 = [] := by
  unfold openEmptied
  cases volume.entries name with
  | some file => exact Function.update_self ..
  | none => exact Function.update_self ..

end Files

section Outcomes

variable {entries : Name → Option Nat}

/-- One more change is in the outcome or not. -/
theorem outcome_append (volume : Volume Name α) {after : Volume Name α}
    {change : Change Name} (h : after.Outcome entries) (hstored : after.stored = volume.stored)
    (hpending : after.pending = volume.pending ++ [change]) :
    volume.Outcome entries ∨ ∃ old, volume.Outcome old ∧ entries = change.apply old := by
  obtain ⟨kept, hkept, rfl⟩ := h
  rw [hpending] at hkept
  rw [hstored]
  obtain ⟨before, last, rfl, hbefore, hlast⟩ := List.sublist_append_iff.mp hkept
  cases last with
  | nil => exact .inl ⟨before, hbefore, by rw [List.append_nil]⟩
  | cons first rest =>
      obtain ⟨rfl, rfl⟩ : first = change ∧ rest = [] := by
        have hlength := hlast.length_le
        have hmem := hlast.subset List.mem_cons_self
        simp only [List.length_cons, List.length_nil] at hlength
        exact ⟨List.mem_singleton.mp hmem, List.length_eq_zero_iff.mp (by omega)⟩
      exact .inr ⟨_, ⟨before, hbefore, rfl⟩, applyAll_append ..⟩

/-- Operations on file contents leave the outcomes alone. -/
theorem outcome_of_same {volume after : Volume Name α} (hstored : after.stored = volume.stored)
    (hpending : after.pending = volume.pending) (h : after.Outcome entries) :
    volume.Outcome entries := by
  obtain ⟨kept, hkept, rfl⟩ := h
  exact ⟨kept, hpending ▸ hkept, by rw [hstored]⟩

theorem eq_of_outcome_nil {volume : Volume Name α} (hpending : volume.pending = [])
    (h : volume.Outcome entries) : entries = volume.stored := by
  obtain ⟨kept, hkept, rfl⟩ := h
  obtain rfl := List.sublist_nil.mp (hpending ▸ hkept)
  rfl

end Outcomes

end Volume

end VirtualDualSense.Lib.Directories
