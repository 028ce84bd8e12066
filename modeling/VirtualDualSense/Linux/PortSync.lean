import Mathlib.Algebra.Order.Ring.Int
import VirtualDualSense.Lib.Text

/-!
# Synchronising the virtual ports

`sync_virtual_ports` builds a new vector of ports in the order of the present
devices. It moves the entries of known devices into it one by one and opens the
devices that are new. Opening may throw, and then what was moved is gone.

## Implementation notes

An entry that was moved from has an empty path, no descriptor and no bridge state.
-/

namespace VirtualDualSense.Linux.PortSync

open Lib.Text

abbrev Path := List UInt8

/-- An entry of the ports vector. -/
structure Port (σ : Type*) where
  path : Path
  fd : Option Nat
  state : Option σ
  deriving DecidableEq

variable {σ : Type*}

def Port.movedFrom : Port σ := ⟨[], none, none⟩

/-- A present device, with the descriptor that opening it returns. -/
structure Device where
  path : Path
  fd : Option Nat
  deriving DecidableEq

/-- What `discover_vds_devices` returns: each device node once. -/
structure Devices where
  list : List Device
  nodup : (list.map Device.path).Nodup
  ne_nil : ∀ device ∈ list, device.path ≠ []

/-- Move the first entry with the path out of the vector. -/
def movePort (path : Path) : List (Port σ) → Option (Port σ × List (Port σ))
  | [] => none
  | port :: rest =>
      if port.path = path then some (port, .movedFrom :: rest)
      else (movePort path rest).map fun (found, rest) => (found, port :: rest)

/-- The loop over the devices: what it leaves in the old vector, and the new one unless
opening a device throws. -/
def syncLoop (fresh : σ) (ports updated : List (Port σ)) :
    List Device → List (Port σ) × Except Path (List (Port σ))
  | [] => (ports, .ok updated)
  | device :: rest =>
      match movePort device.path ports with
      | some (port, ports) => syncLoop fresh ports (updated ++ [port]) rest
      | none =>
          match device.fd with
          | some fd => syncLoop fresh ports (updated ++ [⟨device.path, some fd, some fresh⟩]) rest
          | none => (ports, .error device.path)

/-- The ports after the call; `false` when it has thrown. -/
def syncVirtualPorts (fresh : σ) (ports : List (Port σ)) (devices : List Device) :
    List (Port σ) × Bool :=
  match syncLoop fresh ports [] devices with
  | (_, .ok updated) => (updated, true)
  | (ports, .error _) => (ports, false)

/-- All or nothing: a call that throws changes nothing, and one that does not gives one entry
for each device in order, with the old entry wherever there was one. -/
def AllOrNothing (fresh : σ) (ports : List (Port σ)) (devices : List Device) : Prop :=
  match syncVirtualPorts fresh ports devices with
  | (after, true) =>
      after.map Port.path = devices.map Device.path ∧
        ∀ port ∈ ports, port.path ∈ devices.map Device.path → port ∈ after
  | (after, false) => after = ports

/-- The entries that were not moved from. -/
def live (ports : List (Port σ)) : List (Port σ) := ports.filter fun port => port.path ≠ []

/-- The ports vector: the entries that were not moved from have different paths. -/
structure Ports (σ : Type*) where
  list : List (Port σ)
  distinct : (live list).Pairwise fun a b => a.path ≠ b.path

/-- A device that has no entry yet. -/
def New (ports : List (Port σ)) (device : Device) : Prop := device.path ∉ ports.map Port.path

instance (ports : List (Port σ)) (device : Device) : Decidable (New ports device) :=
  inferInstanceAs (Decidable (¬_))

/-- A new device that does not open. -/
def Fails (ports : List (Port σ)) (device : Device) : Prop := New ports device ∧ device.fd = none

instance (ports : List (Port σ)) (device : Device) : Decidable (Fails ports device) :=
  inferInstanceAs (Decidable (_ ∧ _))

/-- The devices that the loop has dealt with when it throws. -/
def beforeFailure (ports : List (Port σ)) (devices : List Device) : List Device :=
  devices.takeWhile fun device => ¬Fails ports device

section MovePort

variable {path : Path} {ports rest : List (Port σ)} {port : Port σ}

theorem movePort_eq_none : movePort path ports = none ↔ path ∉ ports.map Port.path := by
  induction ports with
  | nil => simp [movePort]
  | cons first others ih =>
      rw [movePort, List.map_cons, List.mem_cons, not_or]
      split
      · rename_i hfirst
        simp [hfirst]
      · rename_i hfirst
        rw [Option.map_eq_none_iff, ih]
        simp [Ne.symm hfirst]

/-- The moved entry is the first one with its path; the entries of all other paths stay. -/
theorem movePort_eq_some (h : movePort path ports = some (port, rest)) :
    ports.find? (fun port => port.path = path) = some port ∧
      ∀ other, other ≠ path → other ≠ [] →
        rest.find? (fun port => port.path = other) = ports.find? fun port => port.path = other := by
  induction ports generalizing rest with
  | nil => cases h
  | cons first others ih =>
      rw [movePort] at h
      split at h
      · rename_i hfirst
        obtain ⟨rfl, rfl⟩ := Prod.mk.inj (Option.some.inj h)
        refine ⟨List.find?_cons_of_pos (by simpa using hfirst), ?_⟩
        intro other hother hnonempty
        rw [List.find?_cons_of_neg (by simpa [Port.movedFrom] using hnonempty.symm),
          List.find?_cons_of_neg (by simpa [hfirst] using hother.symm)]
      · rename_i hfirst
        obtain ⟨⟨found, remaining⟩, hmoved, heq⟩ := Option.map_eq_some_iff.mp h
        obtain ⟨rfl, rfl⟩ := Prod.mk.inj heq
        obtain ⟨hfind, hothers⟩ := ih hmoved
        refine ⟨by rw [List.find?_cons_of_neg (by simpa using hfirst), hfind], ?_⟩
        intro other hother hnonempty
        rw [List.find?_cons, List.find?_cons, hothers other hother hnonempty]

theorem live_movePort (hpath : path ≠ []) (h : movePort path ports = some (port, rest)) :
    (live rest).Sublist (live ports) ∧ (live rest).length < (live ports).length := by
  induction ports generalizing rest with
  | nil => cases h
  | cons first others ih =>
      rw [movePort] at h
      split at h
      · rename_i hfirst
        obtain ⟨rfl, rfl⟩ := Prod.mk.inj (Option.some.inj h)
        simp [live, Port.movedFrom, hfirst, hpath]
      · obtain ⟨⟨found, remaining⟩, hmoved, heq⟩ := Option.map_eq_some_iff.mp h
        obtain ⟨rfl, rfl⟩ := Prod.mk.inj heq
        obtain ⟨hsublist, hlt⟩ := ih hmoved
        by_cases hfirst : first.path = []
        · simpa [live, hfirst] using And.intro hsublist hlt
        · simpa [live, hfirst] using And.intro hsublist hlt

end MovePort

section SyncLoop

variable {fresh : σ} {ports : List (Port σ)} {device : Device} {devices : List Device}

/-- The entry that a device gets. -/
def entryFor (fresh : σ) (ports : List (Port σ)) (device : Device) : Port σ :=
  (ports.find? fun port => port.path = device.path).getD ⟨device.path, device.fd, some fresh⟩

theorem new_iff : New ports device ↔ (ports.find? fun port => port.path = device.path) = none := by
  rw [New, List.find?_eq_none]
  simp [List.mem_map]

theorem path_entryFor : (entryFor fresh ports device).path = device.path := by
  unfold entryFor
  cases hfind : ports.find? fun port => port.path = device.path with
  | none => rfl
  | some port =>
      have hpath := List.find?_some hfind
      simpa using hpath

/-- A loop that meets no device that fails gives each device its entry. -/
theorem syncLoop_eq_ok (updated : List (Port σ)) (hnodup : (devices.map Device.path).Nodup)
    (hnonempty : ∀ device ∈ devices, device.path ≠ [])
    (hopens : ∀ device ∈ devices, ¬Fails ports device) :
    ∃ left, syncLoop fresh ports updated devices =
      (left, .ok (updated ++ devices.map (entryFor fresh ports))) := by
  induction devices generalizing ports updated with
  | nil => exact ⟨ports, by rw [syncLoop, List.map_nil, List.append_nil]⟩
  | cons device rest ih =>
      rw [List.map_cons] at hnodup
      obtain ⟨hdevice, hrest⟩ := List.nodup_cons.mp hnodup
      have hrestNonempty : ∀ later ∈ rest, later.path ≠ [] :=
        fun later hlater => hnonempty later (List.mem_cons_of_mem _ hlater)
      rw [syncLoop]
      cases hmove : movePort device.path ports with
      | none =>
          have hnew : New ports device := movePort_eq_none.mp hmove
          cases hfd : device.fd with
          | none => exact absurd ⟨hnew, hfd⟩ (hopens device List.mem_cons_self)
          | some fd =>
              have hentry : entryFor fresh ports device = ⟨device.path, some fd, some fresh⟩ := by
                rw [entryFor, new_iff.mp hnew, Option.getD_none, hfd]
              obtain ⟨left, hleft⟩ := ih
                (updated ++ [⟨device.path, some fd, some fresh⟩]) hrest hrestNonempty
                  fun later hlater => hopens later (List.mem_cons_of_mem _ hlater)
              refine ⟨left, ?_⟩
              simp only
              rw [hleft, List.map_cons, hentry, List.append_assoc]
              rfl
      | some moved =>
          obtain ⟨port, remaining⟩ := moved
          obtain ⟨hfind, hothers⟩ := movePort_eq_some hmove
          have hsame : ∀ later ∈ rest,
              (remaining.find? fun port => port.path = later.path) =
                ports.find? fun port => port.path = later.path := by
            intro later hlater
            refine hothers later.path ?_ (hrestNonempty later hlater)
            intro heq
            exact hdevice (heq ▸ List.mem_map_of_mem hlater)
          have hopens' : ∀ later ∈ rest, ¬Fails remaining later := by
            rintro later hlater ⟨hnew, hfd⟩
            rw [new_iff, hsame later hlater, ← new_iff] at hnew
            exact hopens later (List.mem_cons_of_mem _ hlater) ⟨hnew, hfd⟩
          have hentry : entryFor fresh ports device = port := by
            rw [entryFor, hfind, Option.getD_some]
          have hentries : rest.map (entryFor fresh remaining) =
              rest.map (entryFor fresh ports) := by
            apply List.map_congr_left
            intro later hlater
            rw [entryFor, entryFor, hsame later hlater]
          obtain ⟨left, hleft⟩ := ih (updated ++ [port]) hrest hrestNonempty hopens'
          refine ⟨left, ?_⟩
          simp only
          rw [hleft, List.map_cons, hentry, hentries, List.append_assoc]
          rfl

/-- The loop only takes entries away. -/
theorem live_syncLoop (fresh : σ) (ports updated : List (Port σ))
    (hnonempty : ∀ device ∈ devices, device.path ≠ []) :
    (live (syncLoop fresh ports updated devices).1).Sublist (live ports) := by
  induction devices generalizing ports updated with
  | nil => exact .refl _
  | cons device rest ih =>
      have hrest : ∀ later ∈ rest, later.path ≠ [] :=
        fun later hlater => hnonempty later (List.mem_cons_of_mem _ hlater)
      rw [syncLoop]
      cases hmove : movePort device.path ports with
      | none =>
          cases device.fd with
          | none => exact .refl _
          | some fd => exact ih ports _ hrest
      | some moved =>
          have hmoved := live_movePort (hnonempty device List.mem_cons_self) hmove
          exact (ih _ _ hrest).trans hmoved.1

/-- A loop that meets a device that fails leaves the old vector as it was only if it has moved
nothing before. -/
theorem syncLoop_eq_error (updated : List (Port σ)) (hnodup : (devices.map Device.path).Nodup)
    (hnonempty : ∀ device ∈ devices, device.path ≠ [])
    (hfails : ∃ device ∈ devices, Fails ports device) :
    ∃ left path, syncLoop fresh ports updated devices = (left, .error path) ∧
      (left = ports ↔ ∀ device ∈ beforeFailure ports devices, New ports device) := by
  induction devices generalizing ports updated with
  | nil =>
      obtain ⟨device, hdevice, -⟩ := hfails
      cases hdevice
  | cons device rest ih =>
      rw [List.map_cons] at hnodup
      obtain ⟨hdevice, hrest⟩ := List.nodup_cons.mp hnodup
      have hrestNonempty : ∀ later ∈ rest, later.path ≠ [] :=
        fun later hlater => hnonempty later (List.mem_cons_of_mem _ hlater)
      rw [syncLoop, beforeFailure]
      cases hmove : movePort device.path ports with
      | none =>
          have hnew : New ports device := movePort_eq_none.mp hmove
          cases hfd : device.fd with
          | none =>
              have hfail : Fails ports device := ⟨hnew, hfd⟩
              rw [List.takeWhile_cons_of_neg (by simpa using hfail)]
              exact ⟨ports, device.path, rfl, by simp⟩
          | some fd =>
              have hopens : ¬Fails ports device := by
                rintro ⟨-, hnone⟩
                rw [hfd] at hnone
                cases hnone
              have hlater : ∃ later ∈ rest, Fails ports later := by
                obtain ⟨later, hmem, hlater⟩ := hfails
                rcases List.mem_cons.mp hmem with rfl | hmem
                · exact absurd hlater hopens
                · exact ⟨later, hmem, hlater⟩
              obtain ⟨left, path, hleft, hiff⟩ := ih
                (updated ++ [⟨device.path, some fd, some fresh⟩]) hrest hrestNonempty hlater
              refine ⟨left, path, hleft, hiff.trans ?_⟩
              rw [List.takeWhile_cons_of_pos (by simpa using hopens), List.forall_mem_cons]
              exact (and_iff_right hnew).symm
      | some moved =>
          obtain ⟨port, remaining⟩ := moved
          obtain ⟨hfind, hothers⟩ := movePort_eq_some hmove
          have hold : ¬New ports device := by
            rw [new_iff, hfind]
            simp
          have hopens : ¬Fails ports device := fun h => hold h.1
          have hlater : ∃ later ∈ rest, Fails remaining later := by
            obtain ⟨later, hmem, hnew, hfd⟩ := hfails
            rcases List.mem_cons.mp hmem with rfl | hmem
            · exact absurd ⟨hnew, hfd⟩ hopens
            · refine ⟨later, hmem, ?_, hfd⟩
              rw [new_iff, hothers later.path ?_ (hrestNonempty later hmem), ← new_iff]
              · exact hnew
              · intro heq
                exact hdevice (heq ▸ List.mem_map_of_mem hmem)
          obtain ⟨left, path, hleft, -⟩ := ih (updated ++ [port]) hrest hrestNonempty hlater
          refine ⟨left, path, hleft, iff_of_false ?_ ?_⟩
          · rintro rfl
            -- the moved entry is missing in what is left
            have hle := (live_syncLoop fresh remaining (updated ++ [port]) hrestNonempty).length_le
            have hmoved := live_movePort (hnonempty device List.mem_cons_self) hmove
            rw [hleft] at hle
            exact absurd hle (not_le.mpr hmoved.2)
          · rw [List.takeWhile_cons_of_pos (by simpa using hopens), List.forall_mem_cons]
            exact fun h => hold h.1

end SyncLoop

section Ports

variable {fresh : σ} {ports : Ports σ}

/-- The entry of a device that is already there is the one that the loop finds. -/
theorem Ports.find?_eq {port : Port σ} (hport : port ∈ ports.list) (hpath : port.path ≠ []) :
    ports.list.find? (fun other => other.path = port.path) = some port := by
  obtain ⟨list, hdistinct⟩ := ports
  induction list with
  | nil => cases hport
  | cons first rest ih =>
      rcases List.mem_cons.mp hport with rfl | hmem
      · exact List.find?_cons_of_pos (by simp)
      · have hfirst : first.path ≠ port.path := by
          intro heq
          rw [live, List.filter_cons_of_pos (by simpa [heq] using hpath)] at hdistinct
          refine (List.pairwise_cons.mp hdistinct).1 port ?_ heq
          exact List.mem_filter.mpr ⟨hmem, by simpa using hpath⟩
        rw [List.find?_cons_of_neg (by simpa using hfirst)]
        refine ih (hdistinct.sublist ?_) hmem
        exact (List.sublist_cons_self first rest).filter _

/-- The paths after a call that does not throw are those of the devices. -/
theorem map_path_syncVirtualPorts {after : List (Port σ)} {list : List (Port σ)}
    (devices : Devices) (h : syncVirtualPorts fresh list devices.list = (after, true)) :
    after.map Port.path = devices.list.map Device.path := by
  by_cases hopens : ∀ device ∈ devices.list, ¬Fails list device
  · obtain ⟨left, hleft⟩ := syncLoop_eq_ok [] devices.nodup devices.ne_nil hopens
    rw [syncVirtualPorts, hleft, List.nil_append] at h
    obtain ⟨rfl, -⟩ := Prod.mk.inj h
    rw [List.map_map]
    apply List.map_congr_left
    intro device _
    exact path_entryFor
  · have hfails : ∃ device ∈ devices.list, Fails list device := by
      simpa using hopens
    obtain ⟨left, path, hleft, -⟩ :=
      syncLoop_eq_error [] devices.nodup devices.ne_nil hfails
    rw [syncVirtualPorts, hleft] at h
    cases h

/-- Whether the call throws or not, the paths stay distinct. -/
theorem distinct_syncVirtualPorts (fresh : σ) (ports : Ports σ) (devices : Devices) :
    (live (syncVirtualPorts fresh ports.list devices.list).1).Pairwise
      fun a b => a.path ≠ b.path := by
  cases hsync : syncVirtualPorts fresh ports.list devices.list with
  | mk after completed =>
      cases completed with
      | true =>
          have hnodup := devices.nodup
          rw [← map_path_syncVirtualPorts devices hsync, List.Nodup, List.pairwise_map] at hnodup
          exact hnodup.sublist List.filter_sublist
      | false =>
          rw [syncVirtualPorts] at hsync
          split at hsync
          · cases hsync
          · rename_i left path hloop
            obtain ⟨rfl, -⟩ := Prod.mk.inj hsync
            have hsublist := live_syncLoop fresh ports.list [] devices.ne_nil
            rw [hloop] at hsublist
            exact ports.distinct.sublist hsublist

/-- The call on the vector that the daemon holds. -/
def Ports.sync (fresh : σ) (ports : Ports σ) (devices : Devices) : Ports σ × Bool :=
  (⟨(syncVirtualPorts fresh ports.list devices.list).1,
    distinct_syncVirtualPorts fresh ports devices⟩,
    (syncVirtualPorts fresh ports.list devices.list).2)

theorem entryFor_eq {device : Device} {port : Port σ} (hport : port ∈ ports.list)
    (hpath : port.path = device.path) (hdevice : device.path ≠ []) :
    entryFor fresh ports.list device = port := by
  rw [entryFor, ← hpath, Ports.find?_eq hport (hpath ▸ hdevice), Option.getD_some]

end Ports

/-- The call is all-or-nothing if and only if no new device fails to open, or every device in
front of the first one that fails is new too. -/
theorem allOrNothing_iff (fresh : σ) (ports : Ports σ) (devices : Devices) :
    AllOrNothing fresh ports.list devices.list ↔
      (∀ device ∈ devices.list, ¬Fails ports.list device) ∨
        ∀ device ∈ beforeFailure ports.list devices.list, New ports.list device := by
  by_cases hopens : ∀ device ∈ devices.list, ¬Fails ports.list device
  · obtain ⟨left, hleft⟩ := syncLoop_eq_ok [] devices.nodup devices.ne_nil hopens
    refine iff_of_true ?_ (.inl hopens)
    rw [AllOrNothing, syncVirtualPorts, hleft, List.nil_append]
    constructor
    · exact map_path_syncVirtualPorts devices (by rw [syncVirtualPorts, hleft, List.nil_append])
    · intro port hport hpath
      obtain ⟨device, hdevice, hsame⟩ := List.mem_map.mp hpath
      rw [← entryFor_eq hport hsame.symm (devices.ne_nil device hdevice)]
      exact List.mem_map_of_mem hdevice
  · have hfails : ∃ device ∈ devices.list, Fails ports.list device := by
      simpa using hopens
    obtain ⟨left, path, hleft, hiff⟩ :=
      syncLoop_eq_error [] devices.nodup devices.ne_nil hfails
    rw [AllOrNothing, syncVirtualPorts, hleft]
    dsimp only
    rw [hiff]
    exact (or_iff_right hopens).symm

section Traces

/-- The daemon holds the port of the first device. -/
def firstPort : Ports Unit where
  list := [⟨ascii "/dev/vds0", some 5, some ()⟩]
  distinct := List.pairwise_singleton _ _

/-- The second device does not open. -/
def secondUnopened : Devices where
  list := [⟨ascii "/dev/vds0", some 6⟩, ⟨ascii "/dev/vds1", none⟩]
  nodup := by decide +kernel
  ne_nil := by decide +kernel

end Traces

/-- A device that does not open costs the daemon the port of the device in front of it. -/
theorem secondUnopened_loses_firstPort :
    syncVirtualPorts () firstPort.list secondUnopened.list = ([.movedFrom], false) ∧
      ¬AllOrNothing () firstPort.list secondUnopened.list := by
  have hsync : syncVirtualPorts () firstPort.list secondUnopened.list = ([.movedFrom], false) := by
    decide +kernel
  refine ⟨hsync, ?_⟩
  rw [AllOrNothing, hsync]
  decide +kernel

end VirtualDualSense.Linux.PortSync
