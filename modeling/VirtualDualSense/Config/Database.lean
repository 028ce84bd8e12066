import VirtualDualSense.Config.Controllers
import VirtualDualSense.Config.Jsonl

/-!
# The configuration database

The database is a text with one JSON record for each controller.
-/

namespace VirtualDualSense.Config.Database

open Lib.Scanners Lib.Text Controllers Jsonl

section Errors

/-- The exceptions of reading the database. -/
inductive DatabaseError
  | record (lineNumber : Nat) (error : JsonlError)
  | config (error : ConfigError)
  | unknownProfile (profile : List UInt8)
  | duplicateAddress (lineNumber : Nat)
  deriving DecidableEq

def configErrorMessage : ConfigError → List UInt8
  | .invalidBluetoothAddress address => ascii "invalid Bluetooth address: " ++ address
  | .duplicatePort port => ascii "duplicate port: " ++ decimal port
  | .portOutOfRange port =>
      ascii "port must be in range 0.." ++ decimal (kMaxPortCount - 1) ++ ascii ": " ++ decimal port

/-- The message of an exception. -/
def DatabaseError.what : DatabaseError → List UInt8
  | .record lineNumber error => error.what (ascii "config record at line " ++ decimal lineNumber)
  | .config error => configErrorMessage error
  | .unknownProfile profile => ascii "unknown profile: " ++ profile
  | .duplicateAddress lineNumber =>
      ascii "duplicate controller address at line " ++ decimal lineNumber

end Errors

section Records

def controllerProfileName : ControllerProfile → List UInt8
  | .unspecified => []
  | .ds5 => ascii "ds5"
  | .dse => ascii "dse"

def parseControllerProfile (profile : List UInt8) : Except DatabaseError ControllerProfile :=
  if profile.isEmpty then .ok .unspecified
  else if profile = ascii "ds5" then .ok .ds5
  else if profile = ascii "dse" then .ok .dse
  else .error (.unknownProfile profile)

/-- The record of a controller without the line feed that ends it. -/
def serializeController (config : ControllerConfig) : List UInt8 :=
  [0x7b] ++ jsonlStringField (ascii "address") config.address ++ [0x2c] ++
    jsonlStringField (ascii "profile") (controllerProfileName config.profile) ++ [0x2c] ++
    jsonlUnsignedArrayField (ascii "ports") config.ports ++ [0x7d]

def serializeConfigDb (db : ConfigDb) : List UInt8 :=
  db.controllers.flatMap fun config => serializeController config ++ [0x0a]

def expectedFields : List (List UInt8) := [ascii "address", ascii "profile", ascii "ports"]

def parseControllerLine (line : List UInt8) (lineNumber : Nat) :
    Except DatabaseError ControllerConfig := do
  let fields ← (parseJsonlObject line).mapError (.record lineNumber)
  (rejectUnknownJsonlFields fields expectedFields).mapError (.record lineNumber)
  let address ← (requireJsonlString fields (ascii "address")).mapError (.record lineNumber)
  let address ← (normalizeBluetoothAddress address).mapError .config
  let profile ← (requireJsonlString fields (ascii "profile")).mapError (.record lineNumber)
  let profile ← parseControllerProfile profile
  let ports ← (requireJsonlUnsignedArray fields (ascii "ports")).mapError (.record lineNumber)
  let ports ← (validatePorts ports).mapError .config
  return ⟨address, profile, ports⟩

/-- A line without the carriage return before its end. -/
def dropCarriageReturn (line : List UInt8) : List UInt8 :=
  if line.getLast? = some 0x0d then line.dropLast else line

/-- The loop over the lines after the first `lineNumber`. -/
def parseLines (lineNumber : Nat) (controllers : List ControllerConfig) :
    List (List UInt8) → Except DatabaseError ConfigDb
  | [] => .ok ⟨controllers⟩
  | line :: rest =>
      let lineNumber := lineNumber + 1
      let line := dropCarriageReturn line
      if line.isEmpty then parseLines lineNumber controllers rest
      else
        match parseControllerLine line lineNumber with
        | .error error => .error error
        | .ok config =>
            if controllers.any fun existing => existing.address = config.address then
              .error (.duplicateAddress lineNumber)
            else parseLines lineNumber (controllers ++ [config]) rest

def parseConfigDb (text : List UInt8) : Except DatabaseError ConfigDb :=
  parseLines 0 [] (lines text)

end Records

section Validity

/-- What the database promises of each controller. -/
structure ValidController (config : ControllerConfig) : Prop where
  normalized : Normalized config.address
  ports : ValidPorts config.ports

/-- Normalized, pairwise distinct addresses with strictly increasing existing ports. -/
structure Valid (db : ConfigDb) : Prop where
  controllers : ∀ config ∈ db.controllers, ValidController config
  distinct : (db.controllers.map ControllerConfig.address).Nodup

theorem valid_nil : Valid ⟨[]⟩ := ⟨fun _ hmem => absurd hmem List.not_mem_nil, List.nodup_nil⟩

theorem Valid.append {controllers : List ControllerConfig} {config : ControllerConfig}
    (h : Valid ⟨controllers⟩) (hconfig : ValidController config)
    (hnew : ∀ existing ∈ controllers, existing.address ≠ config.address) :
    Valid ⟨controllers ++ [config]⟩ := by
  constructor
  · intro other hother
    rcases List.mem_append.mp hother with hold | hlast
    · exact h.controllers other hold
    · rw [List.mem_singleton.mp hlast]
      exact hconfig
  · rw [List.map_append, List.map_singleton, List.nodup_append]
    refine ⟨h.distinct, List.nodup_singleton _, ?_⟩
    intro address haddress other hother
    obtain ⟨existing, hexisting, rfl⟩ := List.mem_map.mp haddress
    rw [List.mem_singleton.mp hother]
    exact hnew existing hexisting

/-- A record that is accepted is a valid controller. -/
theorem validController_of_parseControllerLine {line : List UInt8} {lineNumber : Nat}
    {config : ControllerConfig} (h : parseControllerLine line lineNumber = .ok config) :
    ValidController config := by
  obtain ⟨fields, -, h⟩ := exists_of_bind_eq_ok h
  obtain ⟨_, -, h⟩ := exists_of_bind_eq_ok h
  obtain ⟨_, -, h⟩ := exists_of_bind_eq_ok h
  obtain ⟨address, haddress, h⟩ := exists_of_bind_eq_ok h
  obtain ⟨_, -, h⟩ := exists_of_bind_eq_ok h
  obtain ⟨profile, -, h⟩ := exists_of_bind_eq_ok h
  obtain ⟨_, -, h⟩ := exists_of_bind_eq_ok h
  obtain ⟨ports, hports, h⟩ := exists_of_bind_eq_ok h
  cases h
  exact ⟨normalized_of_normalizeBluetoothAddress (ok_of_mapError_eq_ok haddress),
    validPorts_of_validatePorts (ok_of_mapError_eq_ok hports)⟩

theorem valid_of_parseLines {lineNumber : Nat} {controllers : List ControllerConfig}
    {texts : List (List UInt8)} {db : ConfigDb} (hvalid : Valid ⟨controllers⟩)
    (h : parseLines lineNumber controllers texts = .ok db) : Valid db := by
  induction texts generalizing lineNumber controllers with
  | nil =>
      cases h
      exact hvalid
  | cons line rest ih =>
      simp only [parseLines] at h
      split at h
      · exact ih hvalid h
      · split at h
        · cases h
        · rename_i config hconfig
          split at h
          · cases h
          · rename_i hnew
            refine ih (hvalid.append (validController_of_parseControllerLine hconfig) ?_) h
            simpa using hnew

/-- Every text that is accepted gives a valid database. -/
theorem valid_of_parseConfigDb {text : List UInt8} {db : ConfigDb}
    (h : parseConfigDb text = .ok db) : Valid db :=
  valid_of_parseLines valid_nil h

end Validity

section RoundTrip

theorem parseControllerProfile_name (profile : ControllerProfile) :
    parseControllerProfile (controllerProfileName profile) = .ok profile := by
  cases profile <;> decide +kernel

/-- The fields of a record. -/
def recordFields (config : ControllerConfig) : List JsonlField :=
  [⟨ascii "address", .string config.address⟩,
    ⟨ascii "profile", .string (controllerProfileName config.profile)⟩,
    ⟨ascii "ports", .array config.ports⟩]

theorem serializeController_eq (config : ControllerConfig) :
    serializeController config =
      [0x7b] ++ [0x2c].intercalate ((recordFields config).map jsonlField) ++ [0x7d] := by
  simp only [serializeController, recordFields, List.map_cons, List.map_nil, jsonlField,
    List.intercalate_cons_cons, List.intercalate_singleton, List.append_assoc]

theorem printable_recordFields {config : ControllerConfig} (h : ValidPorts config.ports) :
    ∀ field ∈ recordFields config, Printable field := by
  have hkeys : ∀ key ∈ expectedFields, escapeJsonlString key = key := by decide +kernel
  intro field hfield
  have hkey : field.key ∈ (recordFields config).map JsonlField.key := List.mem_map_of_mem hfield
  refine ⟨hkeys field.key hkey, ?_⟩
  rw [recordFields, List.mem_cons, List.mem_cons, List.mem_singleton] at hfield
  obtain rfl | rfl | rfl := hfield
  · exact nofun
  · exact nofun
  · rintro _ ⟨rfl⟩ port hport
    exact (h.inRange port hport).le.trans (by decide)

/-- The record of a valid controller is read back. -/
theorem parseControllerLine_serializeController {config : ControllerConfig}
    (h : ValidController config) (lineNumber : Nat) :
    parseControllerLine (serializeController config) lineNumber = .ok config := by
  have hobject : parseJsonlObject (serializeController config) = .ok (recordFields config) := by
    rw [serializeController_eq]
    exact parseJsonlObject_fields (printable_recordFields h.ports)
  have hknown : rejectUnknownJsonlFields (recordFields config) expectedFields = .ok () := by
    rfl
  have haddress : requireJsonlString (recordFields config) (ascii "address") =
      .ok config.address := by
    rfl
  have hprofile : requireJsonlString (recordFields config) (ascii "profile") =
      .ok (controllerProfileName config.profile) := by
    rfl
  have hports : requireJsonlUnsignedArray (recordFields config) (ascii "ports") =
      .ok config.ports := by
    rfl
  have hnormalized : normalizeBluetoothAddress config.address = .ok config.address := h.normalized
  simp only [parseControllerLine, hobject, hknown, haddress, hnormalized, hprofile,
    parseControllerProfile_name, hports, validatePorts_of_validPorts h.ports, Except.mapError,
    ok_bind]
  rfl

/-- A record has no control characters. -/
theorem le_of_mem_serializeController {config : ControllerConfig} (h : ValidPorts config.ports)
    {ch : UInt8} (hch : ch ∈ serializeController config) : 0x20 ≤ ch := by
  rw [serializeController_eq, List.mem_append, List.mem_append, List.mem_singleton,
    List.mem_singleton] at hch
  obtain (rfl | hfields) | rfl := hch
  · decide
  · obtain hcomma | ⟨text, htext, hch⟩ := mem_of_mem_intercalate hfields
    · rw [List.mem_singleton.mp hcomma]
      decide
    · obtain ⟨field, hfield, rfl⟩ := List.mem_map.mp htext
      exact le_of_mem_jsonlField (printable_recordFields h field hfield) hch
  · decide

theorem dropCarriageReturn_serializeController (config : ControllerConfig) :
    dropCarriageReturn (serializeController config) = serializeController config := by
  rw [dropCarriageReturn, serializeController, List.getLast?_concat]
  exact if_neg (by decide)

theorem serializeConfigDb_cons (config : ControllerConfig) (rest : List ControllerConfig) :
    serializeConfigDb ⟨config :: rest⟩ =
      serializeController config ++ 0x0a :: serializeConfigDb ⟨rest⟩ := by
  simp only [serializeConfigDb, List.flatMap_cons, List.append_assoc, List.singleton_append]

/-- The line of a valid controller with a new address adds the controller. -/
theorem parseLines_serializeController {controllers : List ControllerConfig}
    {config : ControllerConfig} (hconfig : ValidController config)
    (hnew : ∀ existing ∈ controllers, existing.address ≠ config.address) (lineNumber : Nat)
    (rest : List (List UInt8)) :
    parseLines lineNumber controllers (serializeController config :: rest) =
      parseLines (lineNumber + 1) (controllers ++ [config]) rest := by
  have hnone : (controllers.any fun existing => existing.address = config.address) = false := by
    simpa using hnew
  have hempty : (serializeController config).isEmpty = false := by rfl
  simp only [parseLines, dropCarriageReturn_serializeController, hempty, Bool.false_eq_true,
    if_false, parseControllerLine_serializeController hconfig, hnone]

theorem parseLines_serializeConfigDb {controllers rest : List ControllerConfig} {lineNumber : Nat}
    (h : Valid ⟨controllers ++ rest⟩) :
    parseLines lineNumber controllers (lines (serializeConfigDb ⟨rest⟩)) =
      .ok ⟨controllers ++ rest⟩ := by
  induction rest generalizing controllers lineNumber with
  | nil =>
      rw [List.append_nil]
      rfl
  | cons config rest ih =>
      have hconfig : ValidController config :=
        h.controllers config (List.mem_append_right _ List.mem_cons_self)
      have hline : 0x0a ∉ serializeController config := fun hmem =>
        absurd (le_of_mem_serializeController hconfig.ports hmem) (by decide)
      have hnew : ∀ existing ∈ controllers, existing.address ≠ config.address := by
        have hdistinct := h.distinct
        rw [List.map_append, List.nodup_append] at hdistinct
        intro existing hexisting
        exact hdistinct.2.2 _ (List.mem_map_of_mem hexisting) _ List.mem_cons_self
      rw [List.append_cons] at h ⊢
      rw [serializeConfigDb_cons, lines_append hline, parseLines_serializeController hconfig hnew,
        ih h]

/-- A valid database is read back from its text. -/
theorem parseConfigDb_serializeConfigDb {db : ConfigDb} (h : Valid db) :
    parseConfigDb (serializeConfigDb db) = .ok db :=
  @parseLines_serializeConfigDb [] db.controllers 0 h

end RoundTrip

section Updates

/-- The controllers of an address. -/
def entriesOf (address : List UInt8) (db : ConfigDb) : List ControllerConfig :=
  db.controllers.filter fun config => config.address = address

/-- The controllers of the other addresses, in order. -/
def othersOf (address : List UInt8) (db : ConfigDb) : List ControllerConfig :=
  db.controllers.filter fun config => config.address ≠ address

/-- A valid database whose controllers differ from those before only at an address. -/
structure Updated (address : List UInt8) (entries : List ControllerConfig)
    (before after : ConfigDb) : Prop where
  valid : Valid after
  entries : entriesOf address after = entries
  others : othersOf address after = othersOf address before

theorem mem_replaceOrAppend {config other : ControllerConfig}
    {controllers : List ControllerConfig} (h : other ∈ replaceOrAppend config controllers) :
    other = config ∨ other ∈ controllers := by
  induction controllers with
  | nil => exact .inl (List.mem_singleton.mp h)
  | cons controller rest ih =>
      rw [replaceOrAppend] at h
      split at h
      · rcases List.mem_cons.mp h with heq | hrest
        · exact .inl heq
        · exact .inr (List.mem_cons_of_mem controller hrest)
      · rcases List.mem_cons.mp h with heq | hrest
        · exact .inr (heq ▸ List.mem_cons_self)
        · exact (ih hrest).imp_right (List.mem_cons_of_mem controller)

theorem othersOf_replaceOrAppend (config : ControllerConfig)
    (controllers : List ControllerConfig) :
    othersOf config.address ⟨replaceOrAppend config controllers⟩ =
      othersOf config.address ⟨controllers⟩ := by
  induction controllers with
  | nil => simp [othersOf, replaceOrAppend]
  | cons controller rest ih =>
      rw [replaceOrAppend]
      split
      · rename_i hsame
        simp [othersOf, hsame]
      · rename_i hother
        simpa [othersOf, hother] using ih

/-- The entry of an address in a valid database is unique. -/
theorem entriesOf_replaceOrAppend (config : ControllerConfig)
    {controllers : List ControllerConfig}
    (h : (controllers.map ControllerConfig.address).Nodup) :
    entriesOf config.address ⟨replaceOrAppend config controllers⟩ = [config] := by
  induction controllers with
  | nil => simp [entriesOf, replaceOrAppend]
  | cons controller rest ih =>
      rw [List.map_cons, List.nodup_cons] at h
      rw [replaceOrAppend]
      split
      · rename_i hsame
        have hrest : rest.filter (fun other => other.address = config.address) = [] := by
          rw [List.filter_eq_nil_iff]
          intro other hother haddress
          have heq := of_decide_eq_true haddress
          exact h.1 (hsame ▸ heq ▸ List.mem_map_of_mem hother)
        simpa [entriesOf] using hrest
      · rename_i hother
        simpa [entriesOf, hother] using ih h.2

theorem nodup_replaceOrAppend {config : ControllerConfig} {controllers : List ControllerConfig}
    (h : (controllers.map ControllerConfig.address).Nodup) :
    ((replaceOrAppend config controllers).map ControllerConfig.address).Nodup := by
  induction controllers with
  | nil => exact List.nodup_singleton _
  | cons controller rest ih =>
      rw [List.map_cons, List.nodup_cons] at h
      rw [replaceOrAppend]
      split
      · rename_i hsame
        rw [List.map_cons, List.nodup_cons, ← hsame]
        exact h
      · rename_i hother
        rw [List.map_cons, List.nodup_cons]
        refine ⟨?_, ih h.2⟩
        intro hmem
        obtain ⟨other, hmem, haddress⟩ := List.mem_map.mp hmem
        rcases mem_replaceOrAppend hmem with rfl | hrest
        · exact hother haddress.symm
        · exact h.1 (haddress ▸ List.mem_map_of_mem hrest)

/-- A controller that is inserted or replaced is the only change. -/
theorem updated_of_upsertControllerConfig {db db' : ConfigDb} {config : ControllerConfig}
    (hvalid : Valid db) (h : upsertControllerConfig db config = .ok db') :
    ∃ address ports, normalizeBluetoothAddress config.address = .ok address ∧
      validatePorts config.ports = .ok ports ∧
      Updated address [{ config with address, ports }] db db' := by
  obtain ⟨address, haddress, h⟩ := exists_of_bind_eq_ok h
  obtain ⟨ports, hports, h⟩ := exists_of_bind_eq_ok h
  cases h
  refine ⟨address, ports, haddress, hports, ⟨?_, nodup_replaceOrAppend hvalid.distinct⟩,
    entriesOf_replaceOrAppend ⟨address, config.profile, ports⟩ hvalid.distinct,
    othersOf_replaceOrAppend ⟨address, config.profile, ports⟩ db.controllers⟩
  intro other hother
  rcases mem_replaceOrAppend hother with rfl | hold
  · exact ⟨normalized_of_normalizeBluetoothAddress haddress, validPorts_of_validatePorts hports⟩
  · exact hvalid.controllers other hold

/-- A controller that is removed is the only change. -/
theorem updated_of_removeControllerConfig {db db' : ConfigDb} {address : List UInt8}
    {removed : Bool} (hvalid : Valid db)
    (h : removeControllerConfig db address = .ok (db', removed)) :
    ∃ normalized, normalizeBluetoothAddress address = .ok normalized ∧
      Updated normalized [] db db' := by
  rw [removeControllerConfig] at h
  cases haddress : normalizeBluetoothAddress address with
  | error error =>
      rw [haddress] at h
      cases h
  | ok normalized =>
      rw [haddress] at h
      cases h
      have hsublist : (othersOf normalized db).Sublist db.controllers := List.filter_sublist
      refine ⟨normalized, rfl, ⟨fun config hmem => hvalid.controllers config (hsublist.subset hmem),
        hvalid.distinct.sublist (hsublist.map _)⟩, ?_, ?_⟩
      · rw [entriesOf, List.filter_filter, List.filter_eq_nil_iff]
        intro config _ hboth
        simp at hboth
      · rw [othersOf, List.filter_filter]
        simp only [Bool.and_self]
        rfl

end Updates

section Main

/-- Valid databases survive a round trip through their text, accepted texts denote valid
databases, and updates keep validity and touch a single entry. -/
theorem roundTrip_and_updates :
    (∀ db, Valid db → parseConfigDb (serializeConfigDb db) = .ok db) ∧
    (∀ text db, parseConfigDb text = .ok db →
      Valid db ∧ parseConfigDb (serializeConfigDb db) = .ok db) ∧
    (∀ db config db', Valid db → upsertControllerConfig db config = .ok db' →
      ∃ address ports, normalizeBluetoothAddress config.address = .ok address ∧
        validatePorts config.ports = .ok ports ∧
        Updated address [{ config with address, ports }] db db') ∧
    (∀ db address db' removed, Valid db →
      removeControllerConfig db address = .ok (db', removed) →
        ∃ normalized, normalizeBluetoothAddress address = .ok normalized ∧
          Updated normalized [] db db') := by
  refine ⟨?_, ?_, ?_, ?_⟩
  · intro db hvalid
    exact parseConfigDb_serializeConfigDb hvalid
  · intro text db haccepted
    have hvalid := valid_of_parseConfigDb haccepted
    exact ⟨hvalid, parseConfigDb_serializeConfigDb hvalid⟩
  · intro db config db' hvalid hupsert
    exact updated_of_upsertControllerConfig hvalid hupsert
  · intro db address db' removed hvalid hremove
    exact updated_of_removeControllerConfig hvalid hremove

/-- Two controllers, one of them restricted to two ports. -/
def pairDb : ConfigDb :=
  ⟨[⟨ascii "00:11:22:33:44:55", .ds5, [0, 2]⟩, ⟨ascii "aa:bb:cc:dd:ee:ff", .unspecified, []⟩]⟩

theorem valid_pairDb : Valid pairDb := by
  have hnormalized : ∀ config ∈ pairDb.controllers, Normalized config.address := by decide +kernel
  have hincreasing : ∀ config ∈ pairDb.controllers, config.ports.Pairwise (· < ·) := by
    decide +kernel
  have hrange : ∀ config ∈ pairDb.controllers, ∀ port ∈ config.ports, port < kMaxPortCount := by
    decide +kernel
  exact ⟨fun config h => ⟨hnormalized config h, hincreasing config h, hrange config h⟩,
    by decide +kernel⟩

/-- The pair with its second controller replaced. -/
def replacedDb : ConfigDb :=
  ⟨[⟨ascii "00:11:22:33:44:55", .ds5, [0, 2]⟩, ⟨ascii "aa:bb:cc:dd:ee:ff", .dse, [1, 3]⟩]⟩

/-- The pair without its first controller. -/
def removedDb : ConfigDb := ⟨[⟨ascii "aa:bb:cc:dd:ee:ff", .unspecified, []⟩]⟩

/-- The text of the pair is accepted; the second controller is replaced under another spelling
of its address, and the first one removed. -/
theorem roundTrip_and_updates_pair :
    (parseConfigDb (serializeConfigDb pairDb) = .ok pairDb ∧ Valid pairDb) ∧
    (upsertControllerConfig pairDb ⟨ascii "AA:BB:CC:DD:EE:FF", .dse, [3, 1]⟩ = .ok replacedDb ∧
      ∃ address ports, Updated address [⟨address, .dse, ports⟩] pairDb replacedDb) ∧
    (removeControllerConfig pairDb (ascii "00:11:22:33:44:55") = .ok (removedDb, true) ∧
      ∃ address, Updated address [] pairDb removedDb) := by
  obtain ⟨hroundTrip, haccepted, hupsert, hremove⟩ := roundTrip_and_updates
  have hparse := hroundTrip pairDb valid_pairDb
  have hreplaced : upsertControllerConfig pairDb
      ⟨ascii "AA:BB:CC:DD:EE:FF", .dse, [3, 1]⟩ = .ok replacedDb := by
    decide +kernel
  have hremoved : removeControllerConfig pairDb (ascii "00:11:22:33:44:55") =
      .ok (removedDb, true) := by
    decide +kernel
  obtain ⟨address, ports, -, -, hupdated⟩ := hupsert _ _ _ valid_pairDb hreplaced
  obtain ⟨other, -, hother⟩ := hremove _ _ _ _ valid_pairDb hremoved
  exact ⟨⟨hparse, (haccepted _ _ hparse).1⟩, ⟨hreplaced, address, ports, hupdated⟩,
    hremoved, other, hother⟩

-- Spaces, a carriage return, an empty line and the order of the fields do not matter.
example : parseConfigDb (ascii
    "\x7b \"ports\":[2, 0],\"profile\":\"\",\"address\" : \"AA:BB:CC:DD:EE:FF\"\x7d\r\n\n") =
      .ok ⟨[⟨ascii "aa:bb:cc:dd:ee:ff", .unspecified, [0, 2]⟩]⟩ := by
  decide +kernel

end Main

end VirtualDualSense.Config.Database
