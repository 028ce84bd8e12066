import Mathlib.Data.List.Basic
import Mathlib.Data.List.Nodup

/-!
# Exclusive holders

Each entry of a list may hold a key. The entries are exclusive when no two of them
hold the same one. Releasing keys and removing entries keeps them exclusive; an entry
that takes a key must find it free.
-/

namespace VirtualDualSense.Lib.Holders

variable {H K : Type*} {holds : H → Option K} {holders other : List H} {holder : H}

/-- The keys that are held. -/
def held (holds : H → Option K) (holders : List H) : List K := holders.filterMap holds

def Exclusive (holds : H → Option K) (holders : List H) : Prop := (held holds holders).Nodup

theorem mem_held {key : K} : key ∈ held holds holders ↔ ∃ h ∈ holders, holds h = some key :=
  List.mem_filterMap

theorem Exclusive.nil : Exclusive holds [] := List.nodup_nil

/-- Fewer held keys. -/
theorem Exclusive.of_held_sublist (h : Exclusive holds holders)
    (hheld : (held holds other).Sublist (held holds holders)) : Exclusive holds other :=
  hheld.nodup h

theorem Exclusive.sublist (h : Exclusive holds holders) (hother : other.Sublist holders) :
    Exclusive holds other :=
  h.of_held_sublist (hother.filterMap holds)

/-- Every entry keeps its key or releases it. -/
def Releases (holds : H → Option K) (before after : H) : Prop :=
  holds after = none ∨ holds after = holds before

theorem held_sublist_of_releases (h : List.Forall₂ (Releases holds) holders other) :
    (held holds other).Sublist (held holds holders) := by
  induction h with
  | nil => exact .refl _
  | @cons before after _ _ hfirst _ ih =>
      rw [held, held, List.filterMap_cons, List.filterMap_cons]
      rcases hfirst with hnone | hsame
      · rw [hnone]
        cases holds before with
        | none => exact ih
        | some key => exact ih.cons key
      · rw [hsame]
        cases holds before with
        | none => exact ih
        | some key => exact ih.cons_cons key

theorem Exclusive.releases (h : Exclusive holds holders)
    (hreleases : List.Forall₂ (Releases holds) holders other) : Exclusive holds other :=
  h.of_held_sublist (held_sublist_of_releases hreleases)

/-- Every entry changes in place. -/
theorem forall₂_mapIdx {R : H → H → Prop} {f : Nat → H → H} (hf : ∀ i h, R h (f i h)) :
    List.Forall₂ R holders (holders.mapIdx f) := by
  refine List.forall₂_iff_get.mpr ⟨List.length_mapIdx.symm, ?_⟩
  intro i _ _
  simpa using hf i _

/-- One entry changes in place. -/
theorem forall₂_modify {R : H → H → Prop} {f : H → H} (i : Nat) (hrefl : ∀ h, R h h)
    (hf : ∀ h, R h (f h)) : List.Forall₂ R holders (holders.modify i f) := by
  refine List.forall₂_iff_get.mpr ⟨(List.length_modify f holders i).symm, ?_⟩
  intro j _ _
  simp only [List.get_eq_getElem, List.getElem_modify]
  split
  · exact hf _
  · exact hrefl _

/-- One entry changes; what it then holds is not held by another one. -/
theorem Exclusive.set {i : Nat} (h : Exclusive holds holders)
    (hfree : ∀ key ∈ holds holder, key ∉ held holds (holders.eraseIdx i)) :
    Exclusive holds (holders.set i holder) := by
  induction holders generalizing i with
  | nil => exact h
  | cons first rest ih =>
      cases i with
      | zero =>
          rw [List.set_cons_zero]
          rw [List.eraseIdx_cons_zero] at hfree
          have hrest : Exclusive holds rest := h.sublist (List.sublist_cons_self first rest)
          rw [Exclusive, held, List.filterMap_cons]
          cases hholder : holds holder with
          | none => exact hrest
          | some key => exact List.nodup_cons.mpr ⟨hfree key hholder, hrest⟩
      | succ i =>
          rw [List.set_cons_succ]
          rw [List.eraseIdx_cons_succ] at hfree
          have hrest : Exclusive holds (rest.set i holder) := by
            refine ih (h.sublist (List.sublist_cons_self first rest)) ?_
            intro key hkey hmem
            refine hfree key hkey ?_
            exact ((List.sublist_cons_self first _).filterMap holds).subset hmem
          rw [Exclusive, held, List.filterMap_cons] at h ⊢
          cases hfirst : holds first with
          | none => exact hrest
          | some key =>
              rw [hfirst] at h
              refine List.nodup_cons.mpr ⟨?_, hrest⟩
              intro hmem
              obtain ⟨found, hfound, hkey⟩ := List.mem_filterMap.mp hmem
              rcases List.mem_or_eq_of_mem_set hfound with hmem | rfl
              · exact (List.nodup_cons.mp h).1 (List.mem_filterMap.mpr ⟨found, hmem, hkey⟩)
              · refine hfree key hkey ?_
                exact List.mem_filterMap.mpr ⟨first, List.mem_cons_self, hfirst⟩

/-- A new entry takes a free key. -/
theorem Exclusive.append (h : Exclusive holds holders)
    (hfree : ∀ key ∈ holds holder, key ∉ held holds holders) :
    Exclusive holds (holders ++ [holder]) := by
  rw [Exclusive, held, List.filterMap_append]
  cases hholder : holds holder with
  | none =>
      simp only [List.filterMap_cons, hholder, List.filterMap_nil, List.append_nil]
      exact h
  | some key =>
      simp only [List.filterMap_cons, hholder, List.filterMap_nil]
      exact List.nodup_append.mpr ⟨h, List.nodup_singleton key, by
        rintro a ha b hb rfl
        obtain rfl := List.mem_singleton.mp hb
        exact hfree _ hholder ha⟩

theorem held_append (holders other : List H) :
    held holds (holders ++ other) = held holds holders ++ held holds other :=
  List.filterMap_append

theorem held_singleton (holder : H) : held holds [holder] = (holds holder).toList := by
  rw [held, List.filterMap_cons]
  cases holds holder <;> rfl

/-- The other entries stay when one entry changes. -/
theorem mem_set_of_ne {i : Nat} {before : H} (h : holders[i]? = some before) (after : H)
    (hmem : holder ∈ holders) (hne : holder ≠ before) : holder ∈ holders.set i after := by
  obtain ⟨j, hj⟩ := List.mem_iff_getElem?.mp hmem
  have hij : i ≠ j := by
    rintro rfl
    exact hne (Option.some.inj (hj.symm.trans h))
  refine List.mem_iff_getElem?.mpr ⟨j, ?_⟩
  rw [List.getElem?_set_ne hij, hj]

/-- What the other entries hold stays when one entry changes. -/
theorem held_set_perm {i : Nat} {before : H} (h : holders[i]? = some before) (after : H) :
    ((holds before).toList ++ held holds (holders.set i after)).Perm
      ((holds after).toList ++ held holds holders) := by
  have hcons : ∀ (entry : H) (rest : List H),
      held holds (entry :: rest) = (holds entry).toList ++ held holds rest := by
    intro entry rest
    rw [← held_singleton, ← held_append]
    rfl
  induction holders generalizing i with
  | nil => cases h
  | cons first rest ih =>
      cases i with
      | zero =>
          obtain rfl : first = before := by simpa using h
          rw [List.set_cons_zero, hcons, hcons]
          exact List.perm_append_comm_assoc _ _ _
      | succ i =>
          rw [List.set_cons_succ, hcons, hcons]
          refine (List.perm_append_comm_assoc _ _ _).trans ?_
          refine .trans ?_ (List.perm_append_comm_assoc _ _ _)
          exact (ih (by simpa using h)).append_left _

theorem count_held_set [BEq K] [LawfulBEq K] {i : Nat} {before : H}
    (h : holders[i]? = some before) (after : H) (key : K) :
    (holds before).toList.count key + (held holds (holders.set i after)).count key =
      (holds after).toList.count key + (held holds holders).count key := by
  rw [← List.count_append, ← List.count_append]
  exact (held_set_perm h after).count_eq key

/-- An entry that keeps its key. -/
theorem held_set_perm_of_eq {i : Nat} {before after : H} (h : holders[i]? = some before)
    (hsame : holds after = holds before) :
    (held holds (holders.set i after)).Perm (held holds holders) := by
  have hperm : ((holds before).toList ++ held holds (holders.set i after)).Perm
      ((holds after).toList ++ held holds holders) := held_set_perm h after
  rw [hsame] at hperm
  exact (List.perm_append_left_iff _).mp hperm

/-- Two entries of an exclusive list that hold one key are the same entry. -/
theorem Exclusive.index_eq {i j : Nat} {a b : H} {key : K} (h : Exclusive holds holders)
    (hi : holders[i]? = some a) (hj : holders[j]? = some b)
    (ha : holds a = some key) (hb : holds b = some key) : i = j := by
  induction holders generalizing i j with
  | nil => cases hi
  | cons first rest ih =>
      have hrest : Exclusive holds rest := h.sublist (List.sublist_cons_self first rest)
      -- an entry of the rest does not hold what the first one holds
      have hfirst : ∀ {k : Nat} {c : H}, rest[k]? = some c → holds c = some key →
          holds first ≠ some key := by
        intro k c hk hc hkey
        rw [Exclusive, held, List.filterMap_cons, hkey] at h
        refine (List.nodup_cons.mp h).1 (List.mem_filterMap.mpr ⟨c, ?_, hc⟩)
        exact List.mem_of_getElem? hk
      cases i with
      | zero =>
          cases j with
          | zero => rfl
          | succ j =>
              obtain rfl : first = a := by simpa using hi
              exact absurd ha (hfirst (by simpa using hj) hb)
      | succ i =>
          cases j with
          | zero =>
              obtain rfl : first = b := by simpa using hj
              exact absurd hb (hfirst (by simpa using hi) ha)
          | succ j =>
              have heq := ih hrest (by simpa using hi) (by simpa using hj)
              rw [heq]

end VirtualDualSense.Lib.Holders
