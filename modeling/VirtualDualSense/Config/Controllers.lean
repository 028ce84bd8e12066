import Mathlib.Data.List.Sort
import Mathlib.Data.UInt
import VirtualDualSense.Lib.Text

/-!
# Configured controllers

The database lists the controllers that the daemon bridges, with the ports each
of them may use. Addresses are the byte strings of the source; an address that
the source refuses with an exception is an error here.
-/

namespace VirtualDualSense.Config.Controllers

open Lib.Text

/-- `VDS_MAX_PORT_COUNT`. -/
def kMaxPortCount : Nat := 4

inductive ControllerProfile
  | unspecified
  | ds5
  | dse
  deriving DecidableEq

structure ControllerConfig where
  address : List UInt8
  profile : ControllerProfile
  /-- No ports stand for every port. -/
  ports : List Nat
  deriving DecidableEq

structure ConfigDb where
  controllers : List ControllerConfig
  deriving DecidableEq

/-- The exceptions of the configuration functions. -/
inductive ConfigError
  | invalidBluetoothAddress (address : List UInt8)
  | duplicatePort (port : Nat)
  | portOutOfRange (port : Nat)
  deriving DecidableEq

section Addresses

def isHexDigit (ch : UInt8) : Bool :=
  (0x30 ≤ ch && ch ≤ 0x39) || (0x41 ≤ ch && ch ≤ 0x46) || (0x61 ≤ ch && ch ≤ 0x66)

def lowercaseHex (ch : UInt8) : UInt8 := if 0x41 ≤ ch && ch ≤ 0x5a then ch + 0x20 else ch

/-- The character that `normalize_bluetooth_address` appends for the one at `i`. -/
def normalizeCharacter (i : Nat) (ch : UInt8) : Option UInt8 :=
  if i = 2 ∨ i = 5 ∨ i = 8 ∨ i = 11 ∨ i = 14 then if ch = 0x3a then some 0x3a else none
  else if isHexDigit ch then some (lowercaseHex ch) else none

/-- Six hexadecimal pairs with colons, in lower case. -/
def normalizeBluetoothAddress (address : List UInt8) : Except ConfigError (List UInt8) :=
  if address.length ≠ 17 then .error (.invalidBluetoothAddress address)
  else
    match address.zipIdx.mapM fun (ch, i) => normalizeCharacter i ch with
    | some normalized => .ok normalized
    | none => .error (.invalidBluetoothAddress address)

/-- An address that is its own normal form. -/
def Normalized (address : List UInt8) : Prop := normalizeBluetoothAddress address = .ok address

instance (address : List UInt8) : Decidable (Normalized address) :=
  inferInstanceAs (Decidable (normalizeBluetoothAddress address = .ok address))

theorem normalizeCharacter_idempotent {i : Nat} {ch normalized : UInt8}
    (h : normalizeCharacter i ch = some normalized) :
    normalizeCharacter i normalized = some normalized := by
  rw [normalizeCharacter] at h ⊢
  split at h
  · rename_i hcolon
    rw [if_pos hcolon]
    split at h
    · cases h
      exact if_pos rfl
    · cases h
  · rename_i hcolon
    rw [if_neg hcolon]
    split at h
    · rename_i hdigit
      cases h
      have hall : ∀ n < 256, isHexDigit (UInt8.ofNat n) = true →
          isHexDigit (lowercaseHex (UInt8.ofNat n)) = true ∧
            lowercaseHex (lowercaseHex (UInt8.ofNat n)) = lowercaseHex (UInt8.ofNat n) := by
        decide +kernel
      have hch := hall ch.toNat ch.toNat_lt
      rw [UInt8.ofNat_toNat] at hch
      rw [if_pos (hch hdigit).1, (hch hdigit).2]
    · cases h

theorem mapM_normalizeCharacter_idempotent {address normalized : List UInt8} {start : Nat}
    (h : ((address.zipIdx start).mapM fun (ch, i) => normalizeCharacter i ch) = some normalized) :
    normalized.length = address.length ∧
      ((normalized.zipIdx start).mapM fun (ch, i) => normalizeCharacter i ch) =
        some normalized := by
  induction address generalizing start normalized with
  | nil =>
      cases h
      exact ⟨rfl, rfl⟩
  | cons ch rest ih =>
      rw [List.zipIdx_cons, List.mapM_cons] at h
      obtain ⟨first, hfirst, h⟩ := Option.bind_eq_some_iff.mp h
      obtain ⟨others, hothers, h⟩ := Option.bind_eq_some_iff.mp h
      cases h
      obtain ⟨hlength, hnormal⟩ := ih hothers
      refine ⟨congrArg (· + 1) hlength, ?_⟩
      rw [List.zipIdx_cons, List.mapM_cons]
      dsimp only
      rw [normalizeCharacter_idempotent hfirst, hnormal]
      rfl

/-- The address that the source computes is normalized. -/
theorem normalized_of_normalizeBluetoothAddress {address normalized : List UInt8}
    (h : normalizeBluetoothAddress address = .ok normalized) : Normalized normalized := by
  rw [normalizeBluetoothAddress] at h
  split at h
  · cases h
  · rename_i hlength
    split at h
    · rename_i result hresult
      cases h
      obtain ⟨hsame, hnormal⟩ := mapM_normalizeCharacter_idempotent hresult
      rw [Normalized, normalizeBluetoothAddress, hsame, if_neg hlength, hnormal]
    · cases h

end Addresses

section Ports

/-- The first element that equals its successor. -/
def adjacentFind : List Nat → Option Nat
  | first :: second :: rest =>
      if first = second then some first else adjacentFind (second :: rest)
  | _ => none

/-- Sort the ports and refuse a duplicate or a port that does not exist. -/
def validatePorts (ports : List Nat) : Except ConfigError (List Nat) :=
  let ports := ports.insertionSort (· ≤ ·)
  match adjacentFind ports with
  | some port => .error (.duplicatePort port)
  | none =>
      match ports.find? fun port => decide (kMaxPortCount ≤ port) with
      | some port => .error (.portOutOfRange port)
      | none => .ok ports

/-- Ports as the database stores them. -/
structure ValidPorts (ports : List Nat) : Prop where
  increasing : ports.Pairwise (· < ·)
  inRange : ∀ port ∈ ports, port < kMaxPortCount

theorem adjacentFind_eq_none_iff {ports : List Nat} :
    adjacentFind ports = none ↔ ports.IsChain (· ≠ ·) := by
  fun_induction adjacentFind ports with
  | case1 first rest => simp
  | case2 first second rest hne ih => simp [hne, ih]
  | case3 ports hshort =>
      match ports, hshort with
      | [], _ => simp
      | [port], _ => simp
      | first :: second :: rest, hshort => exact absurd rfl (hshort first second rest)

/-- Sorted ports without equal neighbours are strictly increasing. -/
theorem pairwise_lt_of_adjacentFind {ports : List Nat} (hsorted : ports.Pairwise (· ≤ ·))
    (hfind : adjacentFind ports = none) : ports.Pairwise (· < ·) := by
  rw [adjacentFind_eq_none_iff] at hfind
  rw [← List.isChain_iff_pairwise] at hsorted ⊢
  induction hsorted with
  | nil => exact .nil
  | singleton port => exact .singleton port
  | cons_cons hle hrest ih =>
      obtain ⟨hne, hfind⟩ := List.isChain_cons_cons.mp hfind
      exact .cons_cons (lt_of_le_of_ne hle hne) (ih hfind)

theorem validPorts_of_validatePorts {ports validated : List Nat}
    (h : validatePorts ports = .ok validated) : ValidPorts validated := by
  simp only [validatePorts] at h
  split at h
  · cases h
  · rename_i hadjacent
    split at h
    · cases h
    · rename_i hrange
      cases h
      refine ⟨pairwise_lt_of_adjacentFind (List.pairwise_insertionSort _ _) hadjacent, ?_⟩
      intro port hport
      simpa using List.find?_eq_none.mp hrange port hport

/-- Valid ports pass the check unchanged. -/
theorem validatePorts_of_validPorts {ports : List Nat} (h : ValidPorts ports) :
    validatePorts ports = .ok ports := by
  have hsorted : ports.insertionSort (· ≤ ·) = ports :=
    (h.increasing.imp fun hlt => hlt.le).insertionSort_eq
  have hadjacent : adjacentFind ports = none :=
    adjacentFind_eq_none_iff.mpr
      ((List.isChain_iff_pairwise.mpr h.increasing).imp fun _ _ hlt => hlt.ne)
  have hrange : (ports.find? fun port => decide (kMaxPortCount ≤ port)) = none := by
    rw [List.find?_eq_none]
    intro port hport
    simpa using h.inRange port hport
  simp only [validatePorts, hsorted, hadjacent, hrange]

def controllerConfigAllowsPort (config : ControllerConfig) (port : Nat) : Bool :=
  config.ports.isEmpty || config.ports.contains port

def controllerConfigPortTargets (config : ControllerConfig) : List Nat :=
  if config.ports.isEmpty then List.range kMaxPortCount else config.ports

/-- The first port of the controller that is a candidate and not occupied. -/
def selectControllerConfigPort (config : ControllerConfig)
    (candidatePorts occupiedPorts : List Nat) : Option Nat :=
  (controllerConfigPortTargets config).find? fun port =>
    candidatePorts.contains port && !occupiedPorts.contains port

/-- A selected port is a candidate, free and allowed. -/
theorem selectControllerConfigPort_eq_some {config : ControllerConfig}
    {candidatePorts occupiedPorts : List Nat} {port : Nat}
    (h : selectControllerConfigPort config candidatePorts occupiedPorts = some port) :
    port ∈ candidatePorts ∧ port ∉ occupiedPorts ∧
      controllerConfigAllowsPort config port = true := by
  have hselected := List.find?_some h
  simp only [Bool.and_eq_true, Bool.not_eq_true', List.contains_eq_mem, decide_eq_true_eq,
    decide_eq_false_iff_not] at hselected
  refine ⟨hselected.1, hselected.2, ?_⟩
  have htarget := List.mem_of_find?_eq_some h
  rw [controllerConfigPortTargets] at htarget
  rw [controllerConfigAllowsPort]
  split at htarget
  · rename_i hempty
    rw [hempty, Bool.true_or]
  · rw [List.contains_eq_mem, decide_eq_true htarget, Bool.or_true]

def controllerConfigHasCandidatePort (config : ControllerConfig) (candidatePorts : List Nat) :
    Bool :=
  (selectControllerConfigPort config candidatePorts []).isSome

/-- The loop over the digits of a port: the value, while it stays in range. -/
def portValue (value : Nat) : List UInt8 → Option Nat
  | [] => some value
  | ch :: rest =>
      let value := value * 10 + digitValue ch
      if kMaxPortCount ≤ value then none else portValue value rest

/-- The port of a device path on Linux. -/
def portIndexFromPath (path : List UInt8) : Option Nat :=
  if (ascii "/dev/vds").isPrefixOf path then
    let portText := path.drop (ascii "/dev/vds").length
    if isDecimalNumber portText then portValue 0 portText else none
  else none

def controllerConfigAllowsPath (config : ControllerConfig) (path : List UInt8) : Bool :=
  match portIndexFromPath path with
  | some port => controllerConfigAllowsPort config port
  | none => false

end Ports

section Database

def findControllerConfigByAddress (db : ConfigDb) (address : List UInt8) :
    Except ConfigError (Option ControllerConfig) :=
  (normalizeBluetoothAddress address).map fun normalized =>
    db.controllers.find? fun config => config.address = normalized

/-- Replace the first controller of that address, or append a new one. -/
def replaceOrAppend (config : ControllerConfig) : List ControllerConfig → List ControllerConfig
  | [] => [config]
  | controller :: rest =>
      if controller.address = config.address then config :: rest
      else controller :: replaceOrAppend config rest

def upsertControllerConfig (db : ConfigDb) (config : ControllerConfig) :
    Except ConfigError ConfigDb := do
  let address ← normalizeBluetoothAddress config.address
  let ports ← validatePorts config.ports
  return ⟨replaceOrAppend { config with address, ports } db.controllers⟩

/-- Remove the controller; the flag says whether there was one. -/
def removeControllerConfig (db : ConfigDb) (address : List UInt8) :
    Except ConfigError (ConfigDb × Bool) :=
  (normalizeBluetoothAddress address).map fun normalized =>
    let controllers := db.controllers.filter fun config => config.address ≠ normalized
    (⟨controllers⟩, controllers.length != db.controllers.length)

end Database

end VirtualDualSense.Config.Controllers
