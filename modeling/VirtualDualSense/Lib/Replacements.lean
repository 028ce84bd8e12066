import VirtualDualSense.Lib.Directories

/-!
# Replacing a file through a scratch file

A writer fills a scratch file, synchronises it, moves it over the target and
synchronises the directory. The versions of the target are kept in the order of the
moves. Whatever a power failure leaves, the target is then one of them in full, and no
version goes that the directory was synchronised after.
-/

namespace VirtualDualSense.Lib.Replacements

open Directories

variable {Name α V : Type*} (file : V → Nat) (text : V → List α) (target scratch : Name)

/-- The versions up to the one that the directory names. -/
def survivors (versions : List V) (entries : Name → Option Nat) : List V :=
  versions.rdropWhile fun version => entries target ≠ some (file version)

/-- A directory has the last of the versions that it keeps, which is not being written. -/
structure Explained (versions : List V) (durable : Nat) (entries : Name → Option Nat) : Prop where
  durable : durable ≤ (survivors file target versions entries).length
  latest : entries target = (survivors file target versions entries).getLast?.map file
  apart : ∀ version ∈ survivors file target versions entries,
    entries scratch ≠ some (file version)

/-- The first `durable` versions have reached the medium. -/
structure Replaced [DecidableEq Name] (versions : List V) (durable : Nat)
    (volume : Volume Name α) : Prop where
  visible : volume.entries = applyAll volume.stored volume.pending
  bounded : ∀ entries, volume.Outcome entries → ∀ name number,
    entries name = some number → number < volume.next
  old : ∀ version ∈ versions, file version < volume.next
  synced : ∀ version ∈ versions, volume.synced (file version) = true
  content : ∀ version ∈ versions, volume.content (file version) = text version
  current : volume.entries target = versions.getLast?.map file
  spare : ∀ version ∈ versions, volume.entries scratch ≠ some (file version)
  explained : ∀ entries, volume.Outcome entries →
    Explained file target scratch versions durable entries

variable {file text target scratch} {versions : List V} {durable : Nat} {volume : Volume Name α}
  {entries : Name → Option Nat} {version : V}

section Survivors

theorem survivors_isPrefix (versions : List V) (entries : Name → Option Nat) :
    survivors file target versions entries <+: versions :=
  List.rdropWhile_prefix ..

theorem survivors_subset (versions : List V) (entries : Name → Option Nat) :
    survivors file target versions entries ⊆ versions :=
  (survivors_isPrefix versions entries).subset

/-- A version that the directory does not name is the first to go. -/
theorem survivors_concat_of_ne (versions : List V) (h : entries target ≠ some (file version)) :
    survivors file target (versions ++ [version]) entries =
      survivors file target versions entries :=
  List.rdropWhile_concat_pos _ _ _ (by simpa using h)

theorem survivors_concat_of_eq (h : entries target = some (file version)) :
    survivors file target (versions ++ [version]) entries = versions ++ [version] :=
  List.rdropWhile_concat_neg _ _ _ (by simpa using h)

theorem survivors_of_latest (h : entries target = versions.getLast?.map file) :
    survivors file target versions entries = versions := by
  induction versions using List.reverseRecOn with
  | nil => rfl
  | append_singleton rest version _ =>
      rw [List.getLast?_concat, Option.map_some] at h
      exact survivors_concat_of_eq h

end Survivors

section Explained

/-- The directory reads as before under both names. -/
theorem Explained.of_same {other : Name → Option Nat}
    (h : Explained file target scratch versions durable entries)
    (htarget : other target = entries target)
    (hscratch : ∀ version ∈ versions, other scratch ≠ some (file version)) :
    Explained file target scratch versions durable other := by
  have hsurvivors : survivors file target versions other =
      survivors file target versions entries := by
    simp only [survivors, htarget]
  constructor
  · rw [hsurvivors]
    exact h.durable
  · rw [hsurvivors, htarget]
    exact h.latest
  · intro version hversion
    exact hscratch version (survivors_subset versions other hversion)

/-- A version that the directory does not name changes nothing. -/
theorem Explained.concat (h : Explained file target scratch versions durable entries)
    (hnew : entries target ≠ some (file version)) :
    Explained file target scratch (versions ++ [version]) durable entries := by
  have hsurvivors := survivors_concat_of_ne versions hnew
  constructor
  · rw [hsurvivors]
    exact h.durable
  · rw [hsurvivors]
    exact h.latest
  · rw [hsurvivors]
    exact h.apart

/-- The directory names the last version. -/
theorem explained_of_latest (hdurable : durable ≤ versions.length)
    (h : entries target = versions.getLast?.map file)
    (hscratch : ∀ version ∈ versions, entries scratch ≠ some (file version)) :
    Explained file target scratch versions durable entries := by
  have hsurvivors := survivors_of_latest h
  constructor
  · rw [hsurvivors]
    exact hdurable
  · rw [hsurvivors]
    exact h
  · rw [hsurvivors]
    exact hscratch

/-- A version that the directory could name has been recorded. -/
theorem Explained.mem (h : Explained file target scratch versions durable entries) {number : Nat}
    (hnumber : entries target = some number) : ∃ version ∈ versions, file version = number := by
  have hlatest := h.latest
  rw [hnumber] at hlatest
  obtain ⟨version, hversion, rfl⟩ := Option.map_eq_some_iff.mp hlatest.symm
  exact ⟨version, survivors_subset versions entries (List.mem_of_getLast? hversion), rfl⟩

end Explained

namespace Replaced

variable [DecidableEq Name]

theorem outcome_entries (h : Replaced file text target scratch versions durable volume) :
    volume.Outcome volume.entries :=
  ⟨volume.pending, .refl _, h.visible⟩

theorem durable_le (h : Replaced file text target scratch versions durable volume) :
    durable ≤ versions.length :=
  (h.explained _ h.outcome_entries).durable.trans (survivors_isPrefix ..).length_le

theorem visible_concat (h : Replaced file text target scratch versions durable volume)
    (change : Change Name) :
    change.apply volume.entries = applyAll volume.stored (volume.pending ++ [change]) := by
  rw [applyAll_append, ← h.visible]

/-- The target reads as its last version. -/
theorem read?_target (h : Replaced file text target scratch versions durable volume) :
    volume.read? target = versions.getLast?.map text := by
  rw [Volume.read?, h.current]
  cases hlast : versions.getLast? with
  | none => rfl
  | some version => exact congrArg some (h.content version (List.mem_of_getLast? hlast))

/-- A change of the contents of files that are no version. -/
theorem of_contents {after : Volume Name α}
    (h : Replaced file text target scratch versions durable volume)
    (hentries : after.entries = volume.entries) (hstored : after.stored = volume.stored)
    (hpending : after.pending = volume.pending) (hnext : after.next = volume.next)
    (hsynced : ∀ version ∈ versions, after.synced (file version) = true)
    (hcontent : ∀ version ∈ versions,
      after.content (file version) = volume.content (file version)) :
    Replaced file text target scratch versions durable after where
  visible := by rw [hentries, hstored, hpending, h.visible]
  bounded entries houtcome := by
    rw [hnext]
    exact h.bounded entries (Volume.outcome_of_same hstored hpending houtcome)
  old version hversion := hnext ▸ h.old version hversion
  synced := hsynced
  content version hversion := (hcontent version hversion).trans (h.content version hversion)
  current := hentries ▸ h.current
  spare := hentries ▸ h.spare
  explained entries houtcome :=
    h.explained entries (Volume.outcome_of_same hstored hpending houtcome)

/-- A file that is no version changes its contents. -/
theorem of_written {after : Volume Name α} {number : Nat} {bytes : List α}
    (h : Replaced file text target scratch versions durable volume)
    (hscratch : volume.entries scratch = some number)
    (hafter : after = { volume with
      content := Function.update volume.content number bytes
      synced := Function.update volume.synced number false }) :
    Replaced file text target scratch versions durable after := by
  have hother : ∀ version ∈ versions, file version ≠ number := by
    intro version hversion heq
    exact h.spare version hversion (heq ▸ hscratch)
  subst hafter
  refine h.of_contents rfl rfl rfl rfl ?_ ?_
  · intro version hversion
    exact (Function.update_of_ne (hother version hversion) ..).trans (h.synced version hversion)
  · intro version hversion
    exact Function.update_of_ne (hother version hversion) ..

/-- A new scratch file. -/
theorem link {after : Volume Name α}
    (h : Replaced file text target scratch versions durable volume) (hne : scratch ≠ target)
    (hafter : after = { volume with
      content := Function.update volume.content volume.next []
      synced := Function.update volume.synced volume.next false
      entries := (Change.link scratch volume.next).apply volume.entries
      pending := volume.pending ++ [.link scratch volume.next]
      next := volume.next + 1 }) :
    Replaced file text target scratch versions durable after := by
  have hother : ∀ version ∈ versions, file version ≠ volume.next := fun version hversion =>
    (h.old version hversion).ne
  have hfresh : ∀ (entries : Name → Option Nat), ∀ version ∈ versions,
      (Change.link scratch volume.next).apply entries scratch ≠ some (file version) := by
    intro entries version hversion heq
    rw [apply_link_self] at heq
    exact hother version hversion (Option.some.inj heq).symm
  subst hafter
  constructor
  · exact h.visible_concat (.link scratch volume.next)
  · intro entries houtcome name number hnumber
    refine Nat.lt_succ_of_le ?_
    rcases volume.outcome_append houtcome rfl rfl with hold | ⟨old, hold, rfl⟩
    · exact (h.bounded entries hold name number hnumber).le
    · by_cases hname : name = scratch
      · subst hname
        rw [apply_link_self] at hnumber
        exact (Option.some.inj hnumber).ge
      · rw [apply_link_of_ne hname] at hnumber
        exact (h.bounded old hold name number hnumber).le
  · intro version hversion
    exact Nat.lt_succ_of_lt (h.old version hversion)
  · intro version hversion
    exact (Function.update_of_ne (hother version hversion) ..).trans (h.synced version hversion)
  · intro version hversion
    exact (Function.update_of_ne (hother version hversion) ..).trans (h.content version hversion)
  · exact (apply_link_of_ne hne.symm ..).trans h.current
  · exact hfresh volume.entries
  · intro entries houtcome
    rcases volume.outcome_append houtcome rfl rfl with hold | ⟨old, hold, rfl⟩
    · exact h.explained entries hold
    · exact (h.explained old hold).of_same (apply_link_of_ne hne.symm ..) (hfresh old)

/-- The scratch file is emptied or made. -/
theorem openEmptied (h : Replaced file text target scratch versions durable volume)
    (hne : scratch ≠ target) :
    Replaced file text target scratch versions durable (volume.openEmptied scratch).2 := by
  unfold Volume.openEmptied
  cases hscratch : volume.entries scratch with
  | some number => exact h.of_written hscratch rfl
  | none => exact h.link hne rfl

theorem write {number : Nat} (h : Replaced file text target scratch versions durable volume)
    (hscratch : volume.entries scratch = some number) (bytes : List α) :
    Replaced file text target scratch versions durable (volume.write number bytes) :=
  h.of_written hscratch rfl

theorem sync (h : Replaced file text target scratch versions durable volume) (number : Nat) :
    Replaced file text target scratch versions durable (volume.sync number) := by
  refine h.of_contents rfl rfl rfl rfl ?_ fun _ _ => rfl
  intro version hversion
  change Function.update volume.synced number true (file version) = true
  by_cases heq : file version = number
  · rw [heq, Function.update_self]
  · rw [Function.update_of_ne heq]
    exact h.synced version hversion

/-- The synchronised scratch file becomes the target, as one more version. -/
theorem rename {after : Volume Name α}
    (h : Replaced file text target scratch versions durable volume) (version : V)
    (hne : scratch ≠ target)
    (hscratch : volume.entries scratch = some (file version))
    (hsynced : volume.synced (file version) = true)
    (hcontent : volume.content (file version) = text version)
    (hrename : volume.rename scratch target = some after) :
    Replaced file text target scratch (versions ++ [version]) durable after := by
  rw [Volume.rename, hscratch, Option.map_some] at hrename
  obtain rfl := Option.some.inj hrename
  have hunnamed : ∀ entries, volume.Outcome entries → entries target ≠ some (file version) := by
    intro entries houtcome hnumber
    obtain ⟨other, hother, heq⟩ := (h.explained entries houtcome).mem hnumber
    exact h.spare other hother (heq ▸ hscratch)
  have hbound := h.bounded _ h.outcome_entries scratch _ hscratch
  have hmoved : ∀ (entries : Name → Option Nat), ∀ other ∈ versions ++ [version],
      (Change.move scratch target (file version)).apply entries scratch ≠ some (file other) := by
    intro entries other _
    rw [apply_move_source hne]
    exact Option.some_ne_none _ |>.symm
  have hlatest : ∀ entries : Name → Option Nat,
      (Change.move scratch target (file version)).apply entries target =
        (versions ++ [version]).getLast?.map file := by
    intro entries
    rw [apply_move_target, List.getLast?_concat, Option.map_some]
  have hforall : ∀ {p : V → Prop}, (∀ other ∈ versions, p other) → p version →
      ∀ other ∈ versions ++ [version], p other := by
    intro p hversions hversion other hother
    rcases List.mem_append.mp hother with hother | hother
    · exact hversions other hother
    · exact List.mem_singleton.mp hother ▸ hversion
  constructor
  · exact h.visible_concat (.move scratch target (file version))
  · intro entries houtcome name number hnumber
    rcases volume.outcome_append houtcome rfl rfl with hold | ⟨old, hold, rfl⟩
    · exact h.bounded entries hold name number hnumber
    · by_cases htarget : name = target
      · subst htarget
        rw [apply_move_target] at hnumber
        exact Option.some.inj hnumber ▸ hbound
      · by_cases hname : name = scratch
        · subst hname
          rw [apply_move_source hne] at hnumber
          cases hnumber
        · simp only [Change.apply] at hnumber
          rw [Function.update_of_ne htarget, Function.update_of_ne hname] at hnumber
          exact h.bounded old hold name number hnumber
  · exact hforall h.old hbound
  · exact hforall h.synced hsynced
  · exact hforall h.content hcontent
  · exact hlatest volume.entries
  · exact hmoved volume.entries
  · intro entries houtcome
    rcases volume.outcome_append houtcome rfl rfl with hold | ⟨old, hold, rfl⟩
    · exact (h.explained entries hold).concat (hunnamed entries hold)
    · refine explained_of_latest ?_ (hlatest old) (hmoved old)
      rw [List.length_append]
      exact h.durable_le.trans (Nat.le_add_right ..)

/-- Every version is on the medium once the directory is. -/
theorem syncDirectory (h : Replaced file text target scratch versions durable volume) :
    Replaced file text target scratch versions versions.length volume.syncDirectory := by
  have hentries : ∀ entries, volume.syncDirectory.Outcome entries → entries = volume.entries :=
    fun entries houtcome => Volume.eq_of_outcome_nil rfl houtcome
  constructor
  · rfl
  · intro entries houtcome
    obtain rfl := hentries entries houtcome
    exact h.bounded _ h.outcome_entries
  · exact h.old
  · exact h.synced
  · exact h.content
  · exact h.current
  · exact h.spare
  · intro entries houtcome
    obtain rfl := hentries entries houtcome
    exact explained_of_latest le_rfl h.current h.spare

/-- A power failure leaves the versions up to one that is at least as late as every
durable one. -/
theorem losePower {kept : List (Change Name)} (garbage : Nat → List α)
    (h : Replaced file text target scratch versions durable volume)
    (hkept : kept.Sublist volume.pending) :
    Replaced file text target scratch
      (survivors file target versions (applyAll volume.stored kept))
      (survivors file target versions (applyAll volume.stored kept)).length
      (volume.losePower kept garbage) := by
  have houtcome : volume.Outcome (applyAll volume.stored kept) := ⟨kept, hkept, rfl⟩
  have hexplained := h.explained _ houtcome
  have hentries : ∀ entries, (volume.losePower kept garbage).Outcome entries →
      entries = applyAll volume.stored kept :=
    fun entries houtcome => Volume.eq_of_outcome_nil rfl houtcome
  have hmem : survivors file target versions (applyAll volume.stored kept) ⊆ versions :=
    survivors_subset ..
  constructor
  · rfl
  · intro entries hentry
    obtain rfl := hentries entries hentry
    exact h.bounded _ houtcome
  · intro version hversion
    exact h.old version (hmem hversion)
  · intro _ _
    rfl
  · intro version hversion
    have hcontent := h.content version (hmem hversion)
    have hsynced := h.synced version (hmem hversion)
    simp only [Volume.losePower, hsynced, if_true]
    exact hcontent
  · exact hexplained.latest
  · exact hexplained.apart
  · intro entries hentry
    obtain rfl := hentries entries hentry
    exact explained_of_latest le_rfl hexplained.latest hexplained.apart

end Replaced

end VirtualDualSense.Lib.Replacements
