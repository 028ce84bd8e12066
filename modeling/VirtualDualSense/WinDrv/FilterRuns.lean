import VirtualDualSense.WinDrv.FilterChanges

/-!
# No device change is lost

A client that waits on the generation of its reply sleeps on the present device list,
unless a plug and play thread is on its way to wake it. Every wait ends once.
-/

namespace VirtualDualSense.WinDrv.FilterRuns

open Lib.Runs FilterDevices FilterChanges

section Statements

/-- The listed collections, in their order. -/
def items (s : Filter) : List Extension := s.list.map fun d => (s.devices d).ext

/-- The thread has changed what the list says and has not advanced the generation. -/
def dirty (device : Device) : Bool :=
  match device.stage with
  | .reading | .updating _ => device.ext.listed
  | .notifying _ => true
  | _ => false

def Pending (devices : Nat → Device) : Prop := ∃ d, dirty (devices d) = true

/-- The thread completes the waits that it finds. -/
def drains : Stage → Bool
  | .draining _ _ | .completing _ _ _ => true
  | _ => false

def Draining (devices : Nat → Device) : Prop := ∃ d, drains (devices d).stage = true

end Statements

section Listing

/-- A collection of these stages is not listed. -/
def unlisted : Stage → Bool
  | .absent | .updating false | .notifying true | .draining true _ | .completing true _ _ => true
  | _ => false

structure Listing (devices : Nat → Device) (list : List Nat) : Prop where
  listed : ∀ d, d ∈ list ↔ (devices d).ext.listed = true
  nodup : list.Nodup
  unlisted : ∀ d, unlisted (devices d).stage = true → (devices d).ext.listed = false

variable {s t : Filter} {devices : Nat → Device} {list : List Nat} {d : Nat} {device : Device}
  {action : Action}

/-- A thread goes on and the list stays. -/
theorem Listing.set (h : Listing devices list)
    (hlisted : device.ext.listed = (devices d).ext.listed)
    (hstage : FilterRuns.unlisted device.stage = true → device.ext.listed = false) :
    Listing (Function.update devices d device) list := by
  constructor
  · intro other
    by_cases heq : other = d
    · subst heq
      rw [Function.update_self, hlisted]
      exact h.listed other
    · rw [Function.update_of_ne heq]
      exact h.listed other
  · exact h.nodup
  · intro other
    by_cases heq : other = d
    · subst heq
      rw [Function.update_self]
      exact hstage
    · rw [Function.update_of_ne heq]
      exact h.unlisted other

theorem Listing.append (h : Listing devices list) (hnew : (devices d).ext.listed = false)
    (hlisted : device.ext.listed = true) (hstage : FilterRuns.unlisted device.stage = false) :
    Listing (Function.update devices d device) (list ++ [d]) := by
  have hnotMem : d ∉ list := fun hmem => by
    rw [(h.listed d).mp hmem] at hnew
    cases hnew
  constructor
  · intro other
    rw [List.mem_append, List.mem_singleton]
    by_cases heq : other = d
    · subst heq
      rw [Function.update_self, hlisted]
      exact ⟨fun _ => rfl, fun _ => .inr rfl⟩
    · rw [Function.update_of_ne heq, ← h.listed other]
      exact ⟨fun hmem => hmem.resolve_right heq, .inl⟩
  · refine List.nodup_append.mpr ⟨h.nodup, List.nodup_singleton _, ?_⟩
    rintro other hother last hlast rfl
    exact hnotMem (List.mem_singleton.mp hlast ▸ hother)
  · intro other
    by_cases heq : other = d
    · subst heq
      rw [Function.update_self, hstage]
      exact fun hfalse => absurd hfalse Bool.false_ne_true
    · rw [Function.update_of_ne heq]
      exact h.unlisted other

theorem Listing.erase (h : Listing devices list) (hlisted : device.ext.listed = false) :
    Listing (Function.update devices d device) (list.erase d) := by
  constructor
  · intro other
    rw [h.nodup.mem_erase_iff]
    by_cases heq : other = d
    · subst heq
      rw [Function.update_self, hlisted]
      exact ⟨fun hmem => absurd rfl hmem.1, fun hfalse => absurd hfalse Bool.false_ne_true⟩
    · rw [Function.update_of_ne heq, ← h.listed other]
      exact ⟨fun hmem => hmem.2, fun hmem => ⟨heq, hmem⟩⟩
  · exact h.nodup.erase d
  · intro other
    by_cases heq : other = d
    · subst heq
      rw [Function.update_self]
      exact fun _ => hlisted
    · rw [Function.update_of_ne heq]
      exact h.unlisted other

theorem Listing.update (h : Listing s.devices s.list) (started : Bool) :
    Listing (s.update d started).devices (s.update d started).list := by
  simp only [Filter.update]
  split
  · rename_i hlist
    simp only [Bool.and_eq_true, Bool.not_eq_true'] at hlist
    exact h.append hlist.2 rfl rfl
  · split
    · exact h.erase rfl
    · refine h.set rfl fun hstage => ?_
      split at hstage
      · cases hstage
      · cases hstage

theorem Listing.remove (h : Listing s.devices s.list) :
    Listing (s.remove d).devices (s.remove d).list := by
  simp only [Filter.remove]
  split
  · exact h.erase rfl
  · rename_i hlisted
    exact h.set rfl fun _ => Bool.eq_false_iff.mpr hlisted

theorem Listing.step (h : Listing s.devices s.list) (hstep : Steps s action t) :
    Listing t.devices t.list := by
  cases hstep with
  | add d reportTarget profile address stage =>
      exact h.set (h.unlisted d (by rw [stage]; rfl)).symm fun _ => rfl
  | start d stage => exact h.set rfl fun hfalse => absurd hfalse Bool.false_ne_true
  | field d reportTarget profile address stage =>
      exact h.set rfl fun hfalse => absurd hfalse Bool.false_ne_true
  | readDone d stage => exact h.set rfl fun hfalse => absurd hfalse Bool.false_ne_true
  | update d started stage free => exact h.update started
  | remove d stage free => exact h.remove
  | bump d removed stage =>
      refine h.set rfl fun hremoved => h.unlisted d ?_
      rw [stage]
      cases removed <;> exact hremoved
  | take d removed generation irp rest stage queue =>
      refine h.set rfl fun hremoved => h.unlisted d ?_
      rw [stage]
      cases removed <;> exact hremoved
  | complete d removed generation irp stage =>
      refine h.set rfl fun hremoved => h.unlisted d ?_
      rw [stage]
      cases removed <;> exact hremoved
  | drained d removed generation stage queue =>
      refine h.set rfl fun hremoved => h.unlisted d ?_
      rw [stage]
      cases removed <;> exact hremoved
  | wait | stale | check | refuse | insert | retry | cancel | cancelled | getDevices | visit
  | nextLoop | reply => exact h

end Listing

section Advances

variable {s t : Filter} {d : Nat} {device : Device} {action : Action}

/-- The generation is behind, a thread is about to advance it, or what the list says is
as it was. -/
def Advances (s t : Filter) : Prop :=
  s.bumps < t.bumps ∨ t.bumps = s.bumps ∧ (Pending t.devices ∨
    (Pending s.devices → Pending t.devices) ∧ t.list = s.list ∧
      ∀ other ∈ s.list, (t.devices other).ext = (s.devices other).ext)

theorem Advances.of_devices (hbumps : t.bumps = s.bumps) (hdevices : t.devices = s.devices)
    (hlist : t.list = s.list) : Advances s t :=
  .inr ⟨hbumps, .inr ⟨fun hpending => hdevices ▸ hpending, hlist, fun _ _ => by rw [hdevices]⟩⟩

theorem pending_self (h : dirty device = true) :
    Pending (Function.update s.devices d device) :=
  ⟨d, by rwa [Function.update_self]⟩

theorem pending_of_clean (h : dirty (s.devices d) = false) (hpending : Pending s.devices) :
    Pending (Function.update s.devices d device) := by
  obtain ⟨other, hdirty⟩ := hpending
  refine ⟨other, ?_⟩
  rw [Function.update_of_ne]
  · exact hdirty
  · rintro rfl
    rw [h] at hdirty
    cases hdirty

/-- A thread that had nothing to announce goes on. -/
theorem Advances.clean (hdevices : t.devices = Function.update s.devices d device)
    (hclean : dirty (s.devices d) = false)
    (hext : device.ext = (s.devices d).ext ∨ d ∉ s.list) (hbumps : t.bumps = s.bumps)
    (hlist : t.list = s.list) : Advances s t := by
  refine .inr ⟨hbumps, .inr ⟨fun hpending => hdevices ▸ pending_of_clean hclean hpending, hlist,
    fun other hother => ?_⟩⟩
  rw [hdevices]
  by_cases heq : other = d
  · subst heq
    rw [Function.update_self]
    exact hext.resolve_right (not_not_intro hother)
  · rw [Function.update_of_ne heq]

/-- A thread that has something to announce. -/
theorem Advances.dirty (hdevices : t.devices = Function.update s.devices d device)
    (h : FilterRuns.dirty device = true) (hbumps : t.bumps = s.bumps) : Advances s t :=
  .inr ⟨hbumps, .inl (hdevices ▸ pending_self h)⟩

theorem dirty_eq_of_stage {stage : Stage} (h : (s.devices d).stage = stage) :
    dirty (s.devices d) = dirty ⟨(s.devices d).ext, stage⟩ := by
  rw [← h]

theorem advances_update (h : Listing s.devices s.list) {started : Bool}
    (stage : (s.devices d).stage = .updating started) : Advances s (s.update d started) := by
  simp only [Filter.update]
  split
  · exact .dirty rfl rfl rfl
  · split
    · exact .dirty rfl rfl rfl
    · by_cases hnotify : (started && (s.devices d).ext.listed) = true
      · rw [if_pos hnotify]
        exact .dirty rfl rfl rfl
      · rw [if_neg hnotify]
        refine .clean rfl ?_ (.inl rfl) rfl rfl
        rw [dirty_eq_of_stage stage]
        cases started with
        | false => exact h.unlisted d (by rw [stage]; rfl)
        | true => exact Bool.eq_false_iff.mpr hnotify

theorem advances_remove (stage : (s.devices d).stage = .idle) : Advances s (s.remove d) := by
  simp only [Filter.remove]
  split
  · exact .dirty rfl rfl rfl
  · exact .clean rfl (dirty_eq_of_stage stage) (.inl rfl) rfl rfl

theorem advances_of_steps (h : Listing s.devices s.list) (hstep : Steps s action t) :
    Advances s t := by
  cases hstep with
  | add d reportTarget profile address stage =>
      refine .clean rfl (dirty_eq_of_stage stage) (.inr fun hmem => ?_) rfl rfl
      have hlisted := (h.listed d).mp hmem
      rw [h.unlisted d (by rw [stage]; rfl)] at hlisted
      cases hlisted
  | start d stage => exact .clean rfl (dirty_eq_of_stage stage) (.inl rfl) rfl rfl
  | field d reportTarget profile address stage =>
      cases hlisted : (s.devices d).ext.listed with
      | true => exact .dirty rfl rfl rfl
      | false =>
          refine .clean rfl ((dirty_eq_of_stage stage).trans hlisted) (.inr fun hmem => ?_) rfl rfl
          rw [(h.listed d).mp hmem] at hlisted
          cases hlisted
  | readDone d stage =>
      cases hlisted : (s.devices d).ext.listed with
      | true => exact .dirty rfl hlisted rfl
      | false => exact .clean rfl ((dirty_eq_of_stage stage).trans hlisted) (.inl rfl) rfl rfl
  | update d started stage free => exact advances_update h stage
  | remove d stage free => exact advances_remove stage
  | bump d removed stage => exact .inl (Nat.lt_succ_self _)
  | take d removed generation irp rest stage queue =>
      exact .clean rfl (dirty_eq_of_stage stage) (.inl rfl) rfl rfl
  | complete d removed generation irp stage =>
      exact .clean rfl (dirty_eq_of_stage stage) (.inl rfl) rfl rfl
  | drained d removed generation stage queue =>
      exact .clean rfl (dirty_eq_of_stage stage) (.inl rfl) rfl rfl
  | wait | stale | check | refuse | insert | retry | cancel | cancelled | getDevices | visit
  | nextLoop | reply => exact .of_devices rfl rfl rfl

end Advances

section Replies

variable {s t : Filter} {action : Action}

/-- A reply of an earlier generation, or what the list says, unless a thread is about to
advance the generation. -/
def Fresh (s : Filter) (bumps : Nat) (entries : List DeviceInfo) : Prop :=
  bumps < s.bumps ∨ Pending s.devices ∨ entries = deviceList (items s)

/-- The entries of a walk that goes on with the list as it is. -/
def resume (s : Filter) (walk : Walk) : List DeviceInfo :=
  let entries := appendPass walk.target walk.entries
    (walk.rest.map fun d => (s.devices d).ext)
  if walk.target then appendPass false entries (items s) else entries

/-- The generation counter after a number of changes. -/
def generationOf (bumps : Nat) : UInt32 := UInt32.ofNat (bumps + 1)

structure Replies (s : Filter) : Prop where
  generation : s.generation = generationOf s.bumps
  snapshots : ∀ snapshot ∈ s.snapshots, snapshot.bumps ≤ s.bumps ∧
    snapshot.generation = generationOf snapshot.bumps ∧ Fresh s snapshot.bumps snapshot.entries
  walk : ∀ walk, s.walk = some walk → walk.bumps ≤ s.bumps ∧
    walk.generation = generationOf walk.bumps ∧ walk.rest ⊆ s.list ∧
      Fresh s walk.bumps (resume s walk)

theorem items_eq_of_same (hlist : t.list = s.list)
    (hext : ∀ other ∈ s.list, (t.devices other).ext = (s.devices other).ext) :
    items t = items s := by
  rw [items, items, hlist]
  exact List.map_congr_left hext

theorem resume_eq_of_same {walk : Walk} (hlist : t.list = s.list) (hrest : walk.rest ⊆ s.list)
    (hext : ∀ other ∈ s.list, (t.devices other).ext = (s.devices other).ext) :
    resume t walk = resume s walk := by
  have hmap : walk.rest.map (fun d => (t.devices d).ext) =
      walk.rest.map fun d => (s.devices d).ext :=
    List.map_congr_left fun other hother => hext other (hrest hother)
  simp only [resume, hmap, items_eq_of_same hlist hext]

/-- What a reply says stays true of the present list, or becomes old. -/
theorem Fresh.advance {bumps : Nat} {entries entries' : List DeviceInfo}
    (h : Fresh s bumps entries) (hadvances : Advances s t) (hbumps : bumps ≤ s.bumps)
    (hentries : t.list = s.list →
      (∀ other ∈ s.list, (t.devices other).ext = (s.devices other).ext) → entries' = entries) :
    Fresh t bumps entries' := by
  rcases hadvances with hbumped | ⟨hsame, hpending | ⟨hpending, hlist, hext⟩⟩
  · exact .inl (hbumps.trans_lt hbumped)
  · exact .inr (.inl hpending)
  · rcases h with hold | hbefore | heq
    · exact .inl (hsame ▸ hold)
    · exact .inr (.inl (hpending hbefore))
    · refine .inr (.inr ?_)
      rw [hentries hlist hext, heq, items_eq_of_same hlist hext]

/-- A step that does not work on a reply. -/
theorem Replies.advance (h : Replies s) (hadvances : Advances s t)
    (hgeneration : t.generation = generationOf t.bumps) (hsnapshots : t.snapshots = s.snapshots)
    (hwalk : t.walk = s.walk) (hlist : s.walk ≠ none → t.list = s.list) : Replies t := by
  have hbumps : s.bumps ≤ t.bumps := by
    rcases hadvances with hbumped | ⟨hsame, -⟩
    · exact hbumped.le
    · exact hsame.ge
  constructor
  · exact hgeneration
  · intro snapshot hsnapshot
    obtain ⟨hle, hgen, hfresh⟩ := h.snapshots snapshot (hsnapshots ▸ hsnapshot)
    exact ⟨hle.trans hbumps, hgen, hfresh.advance hadvances hle fun _ _ => rfl⟩
  · intro walk hsome
    rw [hwalk] at hsome
    obtain ⟨hle, hgen, hrest, hfresh⟩ := h.walk walk hsome
    have hsameList := hlist (by rw [hsome]; exact Option.some_ne_none _)
    refine ⟨hle.trans hbumps, hgen, hsameList ▸ hrest, hfresh.advance hadvances hle ?_⟩
    intro hlist hext
    exact resume_eq_of_same hlist hrest hext

theorem update_generation (d : Nat) (started : Bool) :
    (s.update d started).generation = s.generation ∧ (s.update d started).bumps = s.bumps ∧
      (s.update d started).snapshots = s.snapshots ∧ (s.update d started).walk = s.walk := by
  simp only [Filter.update]
  split
  · exact ⟨rfl, rfl, rfl, rfl⟩
  · split
    · exact ⟨rfl, rfl, rfl, rfl⟩
    · exact ⟨rfl, rfl, rfl, rfl⟩

theorem remove_generation (d : Nat) :
    (s.remove d).generation = s.generation ∧ (s.remove d).bumps = s.bumps ∧
      (s.remove d).snapshots = s.snapshots ∧ (s.remove d).walk = s.walk := by
  simp only [Filter.remove]
  split
  · exact ⟨rfl, rfl, rfl, rfl⟩
  · exact ⟨rfl, rfl, rfl, rfl⟩

/-- The next entry of the list, unless its thread is about to advance the generation. -/
theorem Fresh.visit {walk : Walk} {d : Nat} {rest : List Nat} {seen : Extension}
    (h : Fresh s walk.bumps (resume s walk)) (hlisting : Listing s.devices s.list)
    (hnext : walk.rest = d :: rest) (hrest : walk.rest ⊆ s.list)
    (hseen : seen = (s.devices d).ext ∨ (s.devices d).stage = .reading) :
    Fresh s walk.bumps (resume s (walk.visit seen rest)) := by
  rcases hseen with rfl | hreading
  · have hresume : resume s (walk.visit (s.devices d).ext rest) = resume s walk := by
      simp only [resume, Walk.visit, hnext, List.map_cons, appendPass, List.foldl_cons]
      rfl
    rwa [hresume]
  · refine .inr (.inl ⟨d, ?_⟩)
    rw [dirty_eq_of_stage hreading]
    exact (hlisting.listed d).mp (hrest (hnext ▸ List.mem_cons_self))

theorem Replies.step (h : Replies s) (hlisting : Listing s.devices s.list)
    (hstep : Steps s action t) : Replies t := by
  have hadvances := advances_of_steps hlisting hstep
  cases hstep with
  | update d started stage free =>
      obtain ⟨hgeneration, hbumps, hsnapshots, hwalk⟩ := update_generation (s := s) d started
      exact h.advance hadvances (by rw [hgeneration, hbumps, h.generation]) hsnapshots hwalk
        fun hheld => absurd free hheld
  | remove d stage free =>
      obtain ⟨hgeneration, hbumps, hsnapshots, hwalk⟩ := remove_generation (s := s) d
      exact h.advance hadvances (by rw [hgeneration, hbumps, h.generation]) hsnapshots hwalk
        fun hheld => absurd free hheld
  | bump d removed stage =>
      refine h.advance hadvances ?_ rfl rfl fun _ => rfl
      change s.generation + 1 = generationOf (s.bumps + 1)
      rw [h.generation, generationOf, generationOf, UInt32.ofNat_add (s.bumps + 1)]
      rfl
  | getDevices free =>
      refine ⟨h.generation, h.snapshots, fun walk hwalk => ?_⟩
      obtain rfl := Option.some.inj hwalk
      exact ⟨le_rfl, h.generation, List.Subset.refl _, .inr (.inr rfl)⟩
  | visit seen walk d rest held next read =>
      refine ⟨h.generation, h.snapshots, fun walk' hwalk => ?_⟩
      obtain rfl := Option.some.inj hwalk
      obtain ⟨hle, hgen, hrest, hfresh⟩ := h.walk walk held
      refine ⟨hle, hgen, fun other hother => hrest ?_, hfresh.visit hlisting next hrest read⟩
      rw [next]
      exact List.mem_cons_of_mem d hother
  | nextLoop walk held next target =>
      refine ⟨h.generation, h.snapshots, fun walk' hwalk => ?_⟩
      obtain rfl := Option.some.inj hwalk
      obtain ⟨hle, hgen, -, hfresh⟩ := h.walk walk held
      refine ⟨hle, hgen, List.Subset.refl _, ?_⟩
      have hresume : resume s { walk with target := false, rest := s.list } = resume s walk := by
        simp only [resume, target, next, List.map_nil, appendPass, List.foldl_nil, if_true]
        rfl
      rw [← hresume] at hfresh
      exact hfresh
  | reply walk held next target =>
      refine ⟨h.generation, fun snapshot hsnapshot => ?_, fun walk' hwalk => by cases hwalk⟩
      rcases List.mem_append.mp hsnapshot with hold | hnew
      · exact h.snapshots snapshot hold
      · obtain rfl := List.mem_singleton.mp hnew
        obtain ⟨hle, hgen, -, hfresh⟩ := h.walk walk held
        have hresume : resume s walk = walk.entries := by
          simp only [resume, target, next, List.map_nil, appendPass, List.foldl_nil]
          rfl
        rw [hresume] at hfresh
        exact ⟨hle, hgen, hfresh⟩
  | add | start | field | readDone | take | complete | drained | wait | stale | check | refuse
  | insert | retry | cancel | cancelled =>
      exact h.advance hadvances h.generation rfl rfl fun _ => rfl

end Replies

section Custody

/-- The wait that the thread has removed from the queue. -/
def wait? : Stage → Option Nat
  | .completing _ _ irp => some irp
  | _ => none

def isQueued : WaitStage → Bool
  | .queued _ => true
  | _ => false

def isTaken : WaitStage → Bool
  | .taken => true
  | _ => false

def isCompleted : WaitStage → Bool
  | .completed => true
  | _ => false

/-- A wait is in the queue, with one thread, completed once, or still with its client. -/
structure Custody (devices : Nat → Device) (waits : Nat → WaitStage) (queue : List Nat)
    (completions : List Completion) : Prop where
  queued : ∀ irp, isQueued (waits irp) = true ↔ irp ∈ queue
  nodup : queue.Nodup
  taken : ∀ irp, isTaken (waits irp) = true ↔ ∃ d, wait? (devices d).stage = some irp
  takenOnce : ∀ d other irp, wait? (devices d).stage = some irp →
    wait? (devices other).stage = some irp → d = other
  completed : ∀ irp, isCompleted (waits irp) = true ↔ irp ∈ completions.map Completion.irp
  once : (completions.map Completion.irp).Nodup

variable {s t : Filter} {devices : Nat → Device} {waits : Nat → WaitStage} {queue : List Nat}
  {completions : List Completion} {d irp : Nat} {device : Device} {stage : WaitStage}
  {action : Action}

/-- One wait changes its stage. -/
theorem iff_update {is : WaitStage → Bool} {R R' : Nat → Prop}
    (h : ∀ other, is (waits other) = true ↔ R other) (hself : is stage = true ↔ R' irp)
    (hother : ∀ other, other ≠ irp → (R other ↔ R' other)) (other : Nat) :
    is (Function.update waits irp stage other) = true ↔ R' other := by
  by_cases heq : other = irp
  · subst heq
    rw [Function.update_self]
    exact hself
  · rw [Function.update_of_ne heq]
    exact (h other).trans (hother other heq)

/-- A thread goes on with the wait that it had, or without one. -/
theorem Custody.setDevice (h : Custody devices waits queue completions)
    (hbefore : wait? (devices d).stage = none) (hafter : wait? device.stage = none) :
    Custody (Function.update devices d device) waits queue completions := by
  have hsame : ∀ other, wait? (Function.update devices d device other).stage =
      wait? (devices other).stage := by
    intro other
    by_cases heq : other = d
    · subst heq
      rw [Function.update_self, hbefore, hafter]
    · rw [Function.update_of_ne heq]
  refine ⟨h.queued, h.nodup, fun irp => ?_, fun d other irp => ?_, h.completed, h.once⟩
  · simp only [hsame]
    exact h.taken irp
  · rw [hsame, hsame]
    exact h.takenOnce d other irp

/-- A wait of this stage is with its own thread. -/
def own : WaitStage → Bool
  | .unused | .checking _ | .inserting _ | .retrying | .cancelling => true
  | _ => false

theorem own_spec (h : own stage = true) :
    isQueued stage = false ∧ isTaken stage = false ∧ isCompleted stage = false := by
  cases stage with
  | unused | checking | inserting | retrying | cancelling => exact ⟨rfl, rfl, rfl⟩
  | queued | taken | completed => cases h

/-- Where a wait is not. -/
theorem Custody.not_of_false {is : WaitStage → Bool} {R : Nat → Prop}
    (h : ∀ other, is (waits other) = true ↔ R other) (hfalse : is (waits irp) = false) : ¬R irp :=
  fun hR => Bool.false_ne_true (hfalse.symm.trans ((h irp).mpr hR))

theorem nodup_concat {numbers : List Nat} (h : numbers.Nodup) (hnew : irp ∉ numbers) :
    (numbers ++ [irp]).Nodup := by
  refine List.nodup_append.mpr ⟨h, List.nodup_singleton _, ?_⟩
  rintro other hother last hlast rfl
  exact hnew (List.mem_singleton.mp hlast ▸ hother)

theorem mem_concat_of_ne {numbers : List Nat} (other : Nat) (hne : other ≠ irp) :
    other ∈ numbers ↔ other ∈ numbers ++ [irp] := by
  simp [hne]

theorem Custody.setWait (h : Custody devices waits queue completions)
    (hbefore : own (waits irp) = true) (hafter : own stage = true) :
    Custody devices (Function.update waits irp stage) queue completions := by
  obtain ⟨hqueued, htaken, hcompleted⟩ := own_spec hbefore
  obtain ⟨hqueued', htaken', hcompleted'⟩ := own_spec hafter
  exact {
    queued := iff_update h.queued (iff_of_false (Bool.eq_false_iff.mp hqueued')
      (not_of_false h.queued hqueued)) fun _ _ => Iff.rfl
    nodup := h.nodup
    taken := iff_update h.taken (iff_of_false (Bool.eq_false_iff.mp htaken')
      (not_of_false h.taken htaken)) fun _ _ => Iff.rfl
    takenOnce := h.takenOnce
    completed := iff_update h.completed (iff_of_false (Bool.eq_false_iff.mp hcompleted')
      (not_of_false h.completed hcompleted)) fun _ _ => Iff.rfl
    once := h.once }

/-- A wait ends that is with its own thread. -/
theorem Custody.complete {status : Status} {generation : UInt32}
    (h : Custody devices waits queue completions) (hown : own (waits irp) = true) :
    Custody devices (Function.update waits irp .completed) queue
      (completions ++ [⟨irp, status, generation⟩]) := by
  obtain ⟨hqueued, htaken, hcompleted⟩ := own_spec hown
  constructor
  · exact iff_update h.queued (iff_of_false Bool.false_ne_true (not_of_false h.queued hqueued))
      fun _ _ => Iff.rfl
  · exact h.nodup
  · exact iff_update h.taken (iff_of_false Bool.false_ne_true (not_of_false h.taken htaken))
      fun _ _ => Iff.rfl
  · exact h.takenOnce
  · rw [List.map_append]
    exact iff_update h.completed (iff_of_true rfl (List.mem_append_right _ List.mem_cons_self))
      mem_concat_of_ne
  · rw [List.map_append]
    exact nodup_concat h.once (not_of_false h.completed hcompleted)

/-- The wait is in the queue now. -/
theorem Custody.insert {generation : UInt32} (h : Custody devices waits queue completions)
    (hown : own (waits irp) = true) :
    Custody devices (Function.update waits irp (.queued generation)) (queue ++ [irp])
      completions := by
  obtain ⟨hqueued, htaken, hcompleted⟩ := own_spec hown
  constructor
  · exact iff_update h.queued (iff_of_true rfl (List.mem_append_right _ List.mem_cons_self))
      mem_concat_of_ne
  · exact nodup_concat h.nodup (not_of_false h.queued hqueued)
  · exact iff_update h.taken (iff_of_false Bool.false_ne_true (not_of_false h.taken htaken))
      fun _ _ => Iff.rfl
  · exact h.takenOnce
  · exact iff_update h.completed
      (iff_of_false Bool.false_ne_true (not_of_false h.completed hcompleted)) fun _ _ => Iff.rfl
  · exact h.once

/-- A cancelled wait leaves the queue. -/
theorem Custody.cancel {generation : UInt32} (h : Custody devices waits queue completions)
    (hqueued : waits irp = .queued generation) :
    Custody devices (Function.update waits irp .cancelling) (queue.erase irp) completions := by
  have hmem : ∀ other, other ∈ queue.erase irp ↔ other ≠ irp ∧ other ∈ queue := fun other =>
    h.nodup.mem_erase_iff
  constructor
  · refine iff_update h.queued (iff_of_false Bool.false_ne_true fun hself => ?_)
      fun other hne => ?_
    · exact ((hmem irp).mp hself).1 rfl
    · rw [hmem]
      exact ⟨fun hother => ⟨hne, hother⟩, And.right⟩
  · exact h.nodup.erase irp
  · exact iff_update h.taken (iff_of_false Bool.false_ne_true
      (not_of_false h.taken (by rw [hqueued]; rfl))) fun _ _ => Iff.rfl
  · exact h.takenOnce
  · exact iff_update h.completed (iff_of_false Bool.false_ne_true
      (not_of_false h.completed (by rw [hqueued]; rfl))) fun _ _ => Iff.rfl
  · exact h.once

/-- A plug and play thread removes the first wait of the queue. -/
theorem Custody.take {rest : List Nat} (h : Custody devices waits (irp :: rest) completions)
    (hbefore : wait? (devices d).stage = none) (hafter : wait? device.stage = some irp) :
    Custody (Function.update devices d device) (Function.update waits irp .taken) rest
      completions := by
  obtain ⟨hnotMem, hrest⟩ := List.nodup_cons.mp h.nodup
  have hqueued : isQueued (waits irp) = true := (h.queued irp).mpr List.mem_cons_self
  have hneither : isTaken (waits irp) = false ∧ isCompleted (waits irp) = false := by
    cases hstage : waits irp with
    | queued => exact ⟨rfl, rfl⟩
    | unused | checking | inserting | retrying | cancelling | taken | completed =>
        rw [hstage] at hqueued
        cases hqueued
  have hunheld : ∀ other, wait? (devices other).stage ≠ some irp := fun other hother =>
    not_of_false h.taken hneither.1 ⟨other, hother⟩
  have hdevices : ∀ other number,
      wait? (Function.update devices d device other).stage = some number →
        (other = d ∧ number = irp) ∨ other ≠ d ∧ wait? (devices other).stage = some number := by
    intro other number hother
    by_cases heq : other = d
    · subst heq
      rw [Function.update_self, hafter] at hother
      exact .inl ⟨rfl, (Option.some.inj hother).symm⟩
    · rw [Function.update_of_ne heq] at hother
      exact .inr ⟨heq, hother⟩
  constructor
  · refine iff_update h.queued (iff_of_false Bool.false_ne_true hnotMem) fun other hne => ?_
    exact List.mem_cons.trans (or_iff_right hne)
  · exact hrest
  · refine iff_update h.taken (iff_of_true rfl ⟨d, by rw [Function.update_self, hafter]⟩) ?_
    intro other hne
    constructor
    · rintro ⟨holder, hholder⟩
      refine ⟨holder, ?_⟩
      rw [Function.update_of_ne]
      · exact hholder
      · rintro rfl
        rw [hbefore] at hholder
        cases hholder
    · rintro ⟨holder, hholder⟩
      rcases hdevices holder other hholder with ⟨-, heq⟩ | ⟨-, hold⟩
      · exact absurd heq hne
      · exact ⟨holder, hold⟩
  · intro first second number hfirst hsecond
    rcases hdevices first number hfirst with ⟨rfl, rfl⟩ | ⟨-, hfirstOld⟩
    · rcases hdevices second _ hsecond with ⟨rfl, -⟩ | ⟨-, hsecondOld⟩
      · rfl
      · exact absurd hsecondOld (hunheld second)
    · rcases hdevices second number hsecond with ⟨rfl, rfl⟩ | ⟨-, hsecondOld⟩
      · exact absurd hfirstOld (hunheld first)
      · exact h.takenOnce first second number hfirstOld hsecondOld
  · exact iff_update h.completed
      (iff_of_false Bool.false_ne_true (not_of_false h.completed hneither.2)) fun _ _ => Iff.rfl
  · exact h.once

/-- The thread completes the wait that it removed. -/
theorem Custody.finish {status : Status} {generation : UInt32}
    (h : Custody devices waits queue completions) (hbefore : wait? (devices d).stage = some irp)
    (hafter : wait? device.stage = none) :
    Custody (Function.update devices d device) (Function.update waits irp .completed) queue
      (completions ++ [⟨irp, status, generation⟩]) := by
  have htaken : isTaken (waits irp) = true := (h.taken irp).mpr ⟨d, hbefore⟩
  have hneither : isQueued (waits irp) = false ∧ isCompleted (waits irp) = false := by
    cases hstage : waits irp with
    | taken => exact ⟨rfl, rfl⟩
    | unused | checking | inserting | retrying | cancelling | queued | completed =>
        rw [hstage] at htaken
        cases htaken
  have hdevices : ∀ other number,
      wait? (Function.update devices d device other).stage = some number →
        other ≠ d ∧ wait? (devices other).stage = some number := by
    intro other number hother
    by_cases heq : other = d
    · subst heq
      rw [Function.update_self, hafter] at hother
      cases hother
    · rw [Function.update_of_ne heq] at hother
      exact ⟨heq, hother⟩
  constructor
  · exact iff_update h.queued
      (iff_of_false Bool.false_ne_true (not_of_false h.queued hneither.1)) fun _ _ => Iff.rfl
  · exact h.nodup
  · refine iff_update h.taken (iff_of_false Bool.false_ne_true ?_) ?_
    · rintro ⟨holder, hholder⟩
      obtain ⟨hne, hold⟩ := hdevices holder irp hholder
      exact hne (h.takenOnce holder d irp hold hbefore)
    · intro other hne
      constructor
      · rintro ⟨holder, hholder⟩
        refine ⟨holder, ?_⟩
        rw [Function.update_of_ne]
        · exact hholder
        · rintro rfl
          exact hne (Option.some.inj (hholder.symm.trans hbefore))
      · rintro ⟨holder, hholder⟩
        exact ⟨holder, (hdevices holder other hholder).2⟩
  · intro first second number hfirst hsecond
    exact h.takenOnce first second number (hdevices first number hfirst).2
      (hdevices second number hsecond).2
  · rw [List.map_append]
    exact iff_update h.completed (iff_of_true rfl (List.mem_append_right _ List.mem_cons_self))
      mem_concat_of_ne
  · rw [List.map_append]
    exact nodup_concat h.once (not_of_false h.completed hneither.2)

theorem Custody.update (h : Custody s.devices s.waits s.queue s.completions) {started : Bool}
    (stage : (s.devices d).stage = .updating started) :
    Custody (s.update d started).devices (s.update d started).waits (s.update d started).queue
      (s.update d started).completions := by
  have hbefore : wait? (s.devices d).stage = none := by rw [stage]; rfl
  simp only [Filter.update]
  split
  · exact h.setDevice hbefore rfl
  · split
    · exact h.setDevice hbefore rfl
    · refine h.setDevice hbefore ?_
      split
      · rfl
      · rfl

theorem Custody.remove (h : Custody s.devices s.waits s.queue s.completions)
    (stage : (s.devices d).stage = .idle) :
    Custody (s.remove d).devices (s.remove d).waits (s.remove d).queue
      (s.remove d).completions := by
  have hbefore : wait? (s.devices d).stage = none := by rw [stage]; rfl
  simp only [Filter.remove]
  split
  · exact h.setDevice hbefore rfl
  · exact h.setDevice hbefore rfl

theorem Custody.step (h : Custody s.devices s.waits s.queue s.completions)
    (hstep : Steps s action t) : Custody t.devices t.waits t.queue t.completions := by
  cases hstep with
  | add d reportTarget profile address stage => exact h.setDevice (by rw [stage]; rfl) rfl
  | start d stage => exact h.setDevice (by rw [stage]; rfl) rfl
  | field d reportTarget profile address stage => exact h.setDevice (by rw [stage]; rfl) rfl
  | readDone d stage => exact h.setDevice (by rw [stage]; rfl) rfl
  | update d started stage free => exact h.update stage
  | remove d stage free => exact h.remove stage
  | bump d removed stage => exact h.setDevice (by rw [stage]; rfl) rfl
  | take d removed generation irp rest stage queue =>
      rw [queue] at h
      exact h.take (by rw [stage]; rfl) rfl
  | complete d removed generation irp stage => exact h.finish (by rw [stage]; rfl) rfl
  | drained d removed generation stage queue =>
      refine h.setDevice (by rw [stage]; rfl) ?_
      cases removed <;> rfl
  | wait irp generation stage => exact h.setWait (by rw [stage]; rfl) rfl
  | stale irp generation stage differs => exact h.complete (by rw [stage]; rfl)
  | check irp generation stage current => exact h.setWait (by rw [stage]; rfl) rfl
  | refuse irp generation stage differs => exact h.setWait (by rw [stage]; rfl) rfl
  | insert irp generation stage current => exact h.insert (by rw [stage]; rfl)
  | retry irp stage => exact h.complete (by rw [stage]; rfl)
  | cancel irp generation stage => exact h.cancel stage
  | cancelled irp stage => exact h.complete (by rw [stage]; rfl)
  | getDevices | visit | nextLoop | reply => exact h

end Custody

section Waits

variable {s t : Filter} {d : Nat} {device : Device} {action : Action} {actions : List Action}

/-- A wait in the queue is for the current generation, unless a thread is emptying it. -/
def Current (s : Filter) : Prop :=
  ∀ irp generation, s.waits irp = .queued generation →
    generation = s.generation ∨ Draining s.devices

theorem draining_self (h : drains device.stage = true) :
    Draining (Function.update s.devices d device) :=
  ⟨d, by rwa [Function.update_self]⟩

theorem draining_update (h : Draining s.devices)
    (hstage : drains device.stage = true ∨ drains (s.devices d).stage = false) :
    Draining (Function.update s.devices d device) := by
  obtain ⟨other, hother⟩ := h
  by_cases heq : other = d
  · subst heq
    refine ⟨other, ?_⟩
    rw [Function.update_self]
    exact hstage.resolve_right (Bool.eq_false_iff.not.mpr (not_not_intro hother))
  · refine ⟨other, ?_⟩
    rwa [Function.update_of_ne heq]

/-- A plug and play thread goes on. -/
theorem Current.setDevice (h : Current s) (hwaits : t.waits = s.waits)
    (hgeneration : t.generation = s.generation)
    (hdevices : t.devices = Function.update s.devices d device)
    (hstage : drains device.stage = true ∨ drains (s.devices d).stage = false) : Current t := by
  intro irp generation hqueued
  rw [hwaits] at hqueued
  rw [hgeneration, hdevices]
  exact (h irp generation hqueued).imp_right fun hdraining => draining_update hdraining hstage

/-- A wait changes its stage. -/
theorem Current.setWait {irp : Nat} {stage : WaitStage} (h : Current s)
    (hwaits : t.waits = Function.update s.waits irp stage)
    (hgeneration : t.generation = s.generation) (hdevices : t.devices = s.devices)
    (hstage : ∀ generation, stage = .queued generation → generation = s.generation) :
    Current t := by
  intro other generation hqueued
  rw [hgeneration, hdevices]
  rw [hwaits] at hqueued
  by_cases heq : other = irp
  · subst heq
    rw [Function.update_self] at hqueued
    exact .inl (hstage generation hqueued)
  · rw [Function.update_of_ne heq] at hqueued
    exact h other generation hqueued

theorem Current.update (h : Current s) {started : Bool}
    (stage : (s.devices d).stage = .updating started) : Current (s.update d started) := by
  have hdrains : drains (s.devices d).stage = false := by rw [stage]; rfl
  simp only [Filter.update]
  split
  · exact h.setDevice rfl rfl rfl (.inr hdrains)
  · split
    · exact h.setDevice rfl rfl rfl (.inr hdrains)
    · exact h.setDevice rfl rfl rfl (.inr hdrains)

theorem Current.remove (h : Current s) (stage : (s.devices d).stage = .idle) :
    Current (s.remove d) := by
  have hdrains : drains (s.devices d).stage = false := by rw [stage]; rfl
  simp only [Filter.remove]
  split
  · exact h.setDevice rfl rfl rfl (.inr hdrains)
  · exact h.setDevice rfl rfl rfl (.inr hdrains)

theorem Current.step (h : Current s) (hcustody : Custody s.devices s.waits s.queue s.completions)
    (hstep : Steps s action t) : Current t := by
  cases hstep with
  | add d reportTarget profile address stage =>
      exact h.setDevice rfl rfl rfl (.inr (by rw [stage]; rfl))
  | start d stage => exact h.setDevice rfl rfl rfl (.inr (by rw [stage]; rfl))
  | field d reportTarget profile address stage =>
      exact h.setDevice rfl rfl rfl (.inr (by rw [stage]; rfl))
  | readDone d stage => exact h.setDevice rfl rfl rfl (.inr (by rw [stage]; rfl))
  | update d started stage free => exact h.update stage
  | remove d stage free => exact h.remove stage
  | bump d removed stage =>
      intro irp generation _
      exact .inr (draining_self rfl)
  | take d removed generation irp rest stage queue =>
      intro other generation' _
      exact .inr (draining_self rfl)
  | complete d removed generation irp stage =>
      intro other generation' _
      exact .inr (draining_self rfl)
  | drained d removed generation stage queue =>
      intro irp generation' hqueued
      have hmem := (hcustody.queued irp).mp (by
        change s.waits irp = _ at hqueued
        rw [hqueued]
        rfl)
      rw [queue] at hmem
      cases hmem
  | wait irp generation stage => exact h.setWait rfl rfl rfl fun _ hqueued => by cases hqueued
  | stale irp generation stage differs =>
      exact h.setWait rfl rfl rfl fun _ hqueued => by cases hqueued
  | check irp generation stage current =>
      exact h.setWait rfl rfl rfl fun _ hqueued => by cases hqueued
  | refuse irp generation stage differs =>
      exact h.setWait rfl rfl rfl fun _ hqueued => by cases hqueued
  | insert irp generation stage current =>
      refine h.setWait rfl rfl rfl fun other hqueued => ?_
      obtain rfl := WaitStage.queued.inj hqueued
      exact current
  | retry irp stage => exact h.setWait rfl rfl rfl fun _ hqueued => by cases hqueued
  | cancel irp generation stage => exact h.setWait rfl rfl rfl fun _ hqueued => by cases hqueued
  | cancelled irp stage => exact h.setWait rfl rfl rfl fun _ hqueued => by cases hqueued
  | getDevices | visit | nextLoop | reply => exact h

end Waits

section Main

variable {s : Filter} {actions : List Action}

structure Inv (s : Filter) : Prop where
  listing : Listing s.devices s.list
  replies : Replies s
  custody : Custody s.devices s.waits s.queue s.completions
  current : Current s

theorem inv_init : Inv FilterChanges.init where
  listing := ⟨fun _ => iff_of_false List.not_mem_nil Bool.false_ne_true, List.nodup_nil,
    fun _ _ => rfl⟩
  replies := ⟨rfl, fun _ hnil => absurd hnil List.not_mem_nil, fun _ hnone => by cases hnone⟩
  custody := ⟨fun _ => iff_of_false Bool.false_ne_true List.not_mem_nil, List.nodup_nil,
    fun _ => iff_of_false Bool.false_ne_true fun htaken =>
      Option.some_ne_none _ htaken.choose_spec.symm,
    fun _ _ _ hnone => (Option.some_ne_none _ hnone.symm).elim,
    fun _ => iff_of_false Bool.false_ne_true List.not_mem_nil, List.nodup_nil⟩
  current _ _ hqueued := by cases hqueued

theorem inv_of_run (run : Run FilterChanges.step FilterChanges.init actions s) : Inv s := by
  refine run.invariant (fun s action t h _ hstep => ?_) inv_init
  have hsteps := steps_of_step hstep
  exact ⟨h.listing.step hsteps, h.replies.step h.listing hsteps, h.custody.step hsteps,
    h.current.step h.custody hsteps⟩

theorem bumps_eq_of_generation {bumps later : Nat} (h : generationOf bumps = generationOf later)
    (hle : bumps ≤ later) (hlt : later < bumps + 4294967296) : bumps = later := by
  have heq := congrArg UInt32.toNat h
  simp only [generationOf, UInt32.toNat_ofNat'] at heq
  omega

/-- A client that waits on the generation of its reply has the present device list, or a
plug and play thread is on its way to complete the wait. The reply is one of the last 2^32
generations. -/
theorem waiting_client_is_current (run : Run FilterChanges.step FilterChanges.init actions s)
    {irp : Nat} {snapshot : Snapshot} (hsnapshot : snapshot ∈ s.snapshots)
    (hwait : s.waits irp = .queued snapshot.generation)
    (hrecent : s.bumps < snapshot.bumps + 4294967296) :
    snapshot.entries = deviceList (items s) ∨ Pending s.devices ∨ Draining s.devices := by
  have h := inv_of_run run
  rcases h.current irp _ hwait with hcurrent | hdraining
  · obtain ⟨hle, hgeneration, hfresh⟩ := h.replies.snapshots snapshot hsnapshot
    have hbumps : snapshot.bumps = s.bumps := bumps_eq_of_generation
      (by rw [← hgeneration, hcurrent, h.replies.generation]) hle hrecent
    rcases hfresh with hold | hpending | hentries
    · exact absurd hbumps hold.ne
    · exact .inr (.inl hpending)
    · exact .inl hentries
  · exact .inr (.inr hdraining)

/-- Where a wait can be. -/
structure Settled (s : Filter) (irp : Nat) : Prop where
  atMostOnce : (s.completions.map Completion.irp).count irp ≤ 1
  completed : irp ∈ s.completions.map Completion.irp ↔ s.waits irp = .completed
  queued : irp ∈ s.queue ↔ ∃ generation, s.waits irp = .queued generation
  queuedOnce : s.queue.count irp ≤ 1
  taken : s.waits irp = .taken → ∃ d, wait? (s.devices d).stage = some irp ∧
    ∀ other, wait? (s.devices other).stage = some irp → other = d

/-- However completions, cancellations and device changes interleave, a wait is in one
place: its own thread, the queue, one plug and play thread, or completed, once. -/
theorem wait_settled (run : Run FilterChanges.step FilterChanges.init actions s) (irp : Nat) :
    Settled s irp := by
  have h := (inv_of_run run).custody
  constructor
  · exact List.nodup_iff_count_le_one.mp h.once irp
  · rw [← h.completed irp]
    cases s.waits irp with
    | completed => exact iff_of_true rfl rfl
    | unused | checking | inserting | queued | retrying | cancelling | taken =>
        exact iff_of_false Bool.false_ne_true fun heq => by cases heq
  · rw [← h.queued irp]
    cases s.waits irp with
    | queued generation => exact iff_of_true rfl ⟨generation, rfl⟩
    | unused | checking | inserting | completed | retrying | cancelling | taken =>
        exact iff_of_false Bool.false_ne_true fun hany => by cases hany.choose_spec
  · exact List.nodup_iff_count_le_one.mp h.nodup irp
  · intro htaken
    obtain ⟨d, hd⟩ := (h.taken irp).mp (by rw [htaken]; rfl)
    exact ⟨d, hd, fun other hother => h.takenOnce other d irp hother hd⟩

/-- A collection comes, a client reads the list and waits, and the collection goes. -/
def waitedRemoval : List Action :=
  [.add 0 true 1 (List.replicate 18 0), .update 0, .bump 0, .drained 0, .getDevices,
    .visit ⟨true, true, 1, List.replicate 18 0⟩, .finishLoop,
    .visit ⟨true, true, 1, List.replicate 18 0⟩, .finishLoop, .wait 7 2, .check 7, .insert 7,
    .remove 0, .bump 0, .take 0, .complete 0, .drained 0]

theorem waitedRemoval_current :
    ∃ s, Run FilterChanges.step FilterChanges.init (waitedRemoval.take 12) s ∧
      ∃ snapshot ∈ s.snapshots, snapshot.entries.length = 1 ∧
        (snapshot.entries = deviceList (items s) ∨ Pending s.devices ∨ Draining s.devices) := by
  have hexecute : ((execute FilterChanges.step FilterChanges.init (waitedRemoval.take 12)).any
      fun s => decide (s.snapshots.length = 1 ∧ ∀ snapshot ∈ s.snapshots,
        snapshot.entries.length = 1 ∧ s.waits 7 = .queued snapshot.generation ∧
          s.bumps < snapshot.bumps + 4294967296)) = true := by decide +kernel
  obtain ⟨s, run, hone, hall⟩ := exists_run_of_execute hexecute
  obtain ⟨snapshot, hsnapshot⟩ := List.length_eq_one_iff.mp hone
  have hmem : snapshot ∈ s.snapshots := hsnapshot ▸ List.mem_cons_self
  obtain ⟨hlength, hwait, hrecent⟩ := hall snapshot hmem
  exact ⟨s, run, snapshot, hmem, hlength, waiting_client_is_current run hmem hwait hrecent⟩

theorem waitedRemoval_settled :
    ∃ s, Run FilterChanges.step FilterChanges.init waitedRemoval s ∧
      s.completions = [⟨7, .success, 3⟩] ∧ Settled s 7 := by
  have hexecute : ((execute FilterChanges.step FilterChanges.init waitedRemoval).any
      fun s => decide (s.completions = [⟨7, .success, 3⟩])) = true := by decide +kernel
  obtain ⟨s, run, hcompletions⟩ := exists_run_of_execute hexecute
  exact ⟨s, run, hcompletions, wait_settled run 7⟩

end Main

end VirtualDualSense.WinDrv.FilterRuns
