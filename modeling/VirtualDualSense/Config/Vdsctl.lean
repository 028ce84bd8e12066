import Mathlib.Data.List.DropRight
import VirtualDualSense.Config.ControlAtomicity

/-!
# The requests of vdsctl

`vdsctl` turns its arguments into a control request, and the daemon on Linux reads at
most 255 bytes of it. An attach or a detach always fits; a trace request carries a scope
of any length.

## Implementation notes

The arguments are the byte strings after the command word. The commands without
arguments send fixed texts and are left out.
-/

namespace VirtualDualSense.Config.Vdsctl

open Lib.Scanners Lib.Text Controllers Jsonl Database Control ControlAtomicity

section Arguments

/-- The exceptions of the argument parsers. -/
inductive VdsctlError
  | addressRequired
  | config (error : ConfigError)
  | profile (error : DatabaseError)
  | unknownOption (option : List UInt8)
  | emptyPort
  | portNotNumber (part : List UInt8)
  | portOverflow (part : List UInt8)
  | unexpectedArgument
  | traceArguments
  | traceOption
  | traceMode
  deriving DecidableEq

/-- The loop over the digits of a port. -/
def parsePort (part : List UInt8) : Except VdsctlError Nat :=
  if isDecimalNumber part then (unsignedValue 0 part).mapError fun _ => .portOverflow part
  else .error (.portNotNumber part)

def splitCommas (text : List UInt8) : Except VdsctlError (List (List UInt8)) :=
  let parts := text.splitOn 0x2c
  if parts.any List.isEmpty then .error .emptyPort else .ok parts

def parsePorts (text : List UInt8) : Except VdsctlError (List Nat) :=
  if text.isEmpty then .ok []
  else do
    let parts ← splitCommas text
    let ports ← parts.mapM parsePort
    (validatePorts ports).mapError .config

/-- One option of `attach` with its value. -/
def parseAttachOption (config : ControllerConfig) (option value : List UInt8) :
    Except VdsctlError ControllerConfig :=
  if option = ascii "--profile" then do
    return { config with profile := ← (parseControllerProfile value).mapError .profile }
  else if option = ascii "--ports" then do
    return { config with ports := ← parsePorts value }
  else .error (.unknownOption option)

/-- The loop over the options of `attach`; an option without a value has an empty one. -/
def parseAttachOptions (config : ControllerConfig) :
    List (List UInt8) → Except VdsctlError ControllerConfig
  | [] => .ok config
  | [option] => parseAttachOption config option []
  | option :: value :: rest =>
      if (ascii "--").isPrefixOf value then do
        parseAttachOptions (← parseAttachOption config option []) (value :: rest)
      else do
        parseAttachOptions (← parseAttachOption config option value) rest

def parseVdsctlAttach (arguments : List (List UInt8)) : Except VdsctlError ControllerConfig :=
  match arguments with
  | [] => .error .addressRequired
  | address :: options => do
      let address ← (normalizeBluetoothAddress address).mapError .config
      parseAttachOptions ⟨address, .unspecified, []⟩ options

/-- The address that `run_vdsctl_detach` sends. -/
def parseVdsctlDetach (arguments : List (List UInt8)) : Except VdsctlError (List UInt8) :=
  match arguments with
  | [address] => (normalizeBluetoothAddress address).mapError .config
  | _ => .error .unexpectedArgument

structure VdsctlTraceCommand where
  enabled : Bool
  scope : List UInt8
  deriving DecidableEq

def traceModeOf (mode scope : List UInt8) : Except VdsctlError VdsctlTraceCommand :=
  if mode = ascii "on" then .ok ⟨true, scope⟩
  else if mode = ascii "off" then .ok ⟨false, scope⟩
  else .error .traceMode

def parseVdsctlTrace (arguments : List (List UInt8)) : Except VdsctlError VdsctlTraceCommand :=
  match arguments with
  | [mode] => traceModeOf mode (ascii "all")
  | [mode, option, scope] =>
      if option = ascii "--scope" then traceModeOf mode scope else .error .traceOption
  | _ => .error .traceArguments

end Arguments

section Requests

/-- A command with its arguments as `vdsctl` understood them. -/
inductive VdsctlRequest
  | attach (config : ControllerConfig)
  | detach (address : List UInt8)
  | trace (command : VdsctlTraceCommand)
  deriving DecidableEq

/-- The request of a command line. -/
inductive Accepts : List (List UInt8) → VdsctlRequest → Prop
  | attach {arguments config} (h : parseVdsctlAttach arguments = .ok config) :
      Accepts arguments (.attach config)
  | detach {arguments address} (h : parseVdsctlDetach arguments = .ok address) :
      Accepts arguments (.detach address)
  | trace {arguments command} (h : parseVdsctlTrace arguments = .ok command) :
      Accepts arguments (.trace command)

def attachRequest (config : ControllerConfig) : List UInt8 :=
  formatRecord [jsonlStringField (ascii "command") (ascii "attach"),
    jsonlStringField (ascii "address") config.address,
    jsonlStringField (ascii "profile") (controllerProfileName config.profile),
    jsonlUnsignedArrayField (ascii "ports") config.ports]

def detachRequest (address : List UInt8) : List UInt8 :=
  formatRecord [jsonlStringField (ascii "command") (ascii "detach"),
    jsonlStringField (ascii "address") address]

def modeName (enabled : Bool) : List UInt8 := if enabled then ascii "on" else ascii "off"

def traceRequest (command : VdsctlTraceCommand) : List UInt8 :=
  formatRecord [jsonlStringField (ascii "command") (ascii "trace"),
    jsonlStringField (ascii "mode") (modeName command.enabled),
    jsonlStringField (ascii "scope") command.scope]

def VdsctlRequest.text : VdsctlRequest → List UInt8
  | .attach config => attachRequest config
  | .detach address => detachRequest address
  | .trace command => traceRequest command

/-- `trim_command`. -/
def trimCommand (command : List UInt8) : List UInt8 :=
  command.rdropWhile fun ch => ch = 0x0a || ch = 0x0d || ch = 0x20 || ch = 0x09

/-- The bytes that one read of the control socket returns at most. -/
def readLimit : Nat := 255

/-- The command that the daemon takes from the socket. -/
def receivedCommand (request : List UInt8) : List UInt8 := trimCommand (request.take readLimit)

/-- The daemon understands the request as it was meant. -/
def Delivered : VdsctlRequest → Prop
  | .attach config => ∃ fields,
      parseRequest (receivedCommand (attachRequest config)) = .ok (fields, ascii "attach") ∧
      rejectUnknownJsonlFields fields
        [ascii "command", ascii "address", ascii "profile", ascii "ports"] = .ok () ∧
      requestedController fields = .ok config
  | .detach address => ∃ fields,
      parseRequest (receivedCommand (detachRequest address)) = .ok (fields, ascii "detach") ∧
      rejectUnknownJsonlFields fields [ascii "command", ascii "address"] = .ok () ∧
      requestAddress fields = .ok address
  | .trace command => ∃ fields,
      parseRequest (receivedCommand (traceRequest command)) = .ok (fields, ascii "trace") ∧
      rejectUnknownJsonlFields fields [ascii "command", ascii "mode", ascii "scope"] = .ok () ∧
      requireJsonlString fields (ascii "mode") = .ok (modeName command.enabled) ∧
      requireJsonlString fields (ascii "scope") = .ok command.scope

end Requests

section Records

/-- The fields of a request. -/
def VdsctlRequest.fields : VdsctlRequest → List JsonlField
  | .attach config =>
      [⟨ascii "command", .string (ascii "attach")⟩, ⟨ascii "address", .string config.address⟩,
        ⟨ascii "profile", .string (controllerProfileName config.profile)⟩,
        ⟨ascii "ports", .array config.ports⟩]
  | .detach address =>
      [⟨ascii "command", .string (ascii "detach")⟩, ⟨ascii "address", .string address⟩]
  | .trace command =>
      [⟨ascii "command", .string (ascii "trace")⟩,
        ⟨ascii "mode", .string (modeName command.enabled)⟩, ⟨ascii "scope", .string command.scope⟩]

/-- What the parsers of `vdsctl` guarantee. -/
def VdsctlRequest.Valid : VdsctlRequest → Prop
  | .attach config => ValidController config
  | .detach address => Normalized address
  | .trace _ => True

variable {request : VdsctlRequest}

theorem validPorts_of_parsePorts {text : List UInt8} {ports : List Nat}
    (h : parsePorts text = .ok ports) : ValidPorts ports := by
  rw [parsePorts] at h
  split at h
  · cases h
    exact ⟨List.Pairwise.nil, fun _ hmem => absurd hmem List.not_mem_nil⟩
  · obtain ⟨parts, -, h⟩ := exists_of_bind_eq_ok h
    obtain ⟨values, -, h⟩ := exists_of_bind_eq_ok h
    exact validPorts_of_validatePorts (ok_of_mapError_eq_ok h)

theorem validController_of_parseAttachOption {config result : ControllerConfig}
    {option value : List UInt8} (hconfig : ValidController config)
    (h : parseAttachOption config option value = .ok result) : ValidController result := by
  rw [parseAttachOption] at h
  split_ifs at h
  · obtain ⟨profile, -, h⟩ := exists_of_bind_eq_ok h
    cases h
    exact ⟨hconfig.normalized, hconfig.ports⟩
  · obtain ⟨ports, hports, h⟩ := exists_of_bind_eq_ok h
    cases h
    exact ⟨hconfig.normalized, validPorts_of_parsePorts hports⟩

theorem validController_of_parseAttachOptions {config result : ControllerConfig}
    {options : List (List UInt8)} (hconfig : ValidController config)
    (h : parseAttachOptions config options = .ok result) : ValidController result := by
  fun_induction parseAttachOptions config options with
  | case1 config =>
      cases h
      exact hconfig
  | case2 config option => exact validController_of_parseAttachOption hconfig h
  | case3 config option value rest hnext ih =>
      obtain ⟨next, hoption, h⟩ := exists_of_bind_eq_ok h
      exact ih next (validController_of_parseAttachOption hconfig hoption) h
  | case4 config option value rest hnext ih =>
      obtain ⟨next, hoption, h⟩ := exists_of_bind_eq_ok h
      exact ih next (validController_of_parseAttachOption hconfig hoption) h

theorem Accepts.valid {arguments : List (List UInt8)} (h : Accepts arguments request) :
    request.Valid := by
  cases h with
  | attach h =>
      cases arguments with
      | nil => cases h
      | cons address options =>
          obtain ⟨normalized, haddress, h⟩ := exists_of_bind_eq_ok h
          have hstart : ValidController ⟨normalized, .unspecified, []⟩ :=
            ⟨normalized_of_normalizeBluetoothAddress (ok_of_mapError_eq_ok haddress),
              List.Pairwise.nil, fun _ hmem => absurd hmem List.not_mem_nil⟩
          exact validController_of_parseAttachOptions hstart h
  | detach h =>
      unfold parseVdsctlDetach at h
      split at h
      · exact normalized_of_normalizeBluetoothAddress (ok_of_mapError_eq_ok h)
      · cases h
  | trace h => exact trivial

/-- The text of a request is the object of its fields and a line feed. -/
theorem text_eq (request : VdsctlRequest) :
    request.text =
      ([0x7b] ++ [0x2c].intercalate (request.fields.map jsonlField) ++ [0x7d]) ++ [0x0a] := by
  cases request with
  | attach config =>
      simp only [VdsctlRequest.text, attachRequest, formatRecord, VdsctlRequest.fields,
        List.map_cons, List.map_nil, jsonlField, List.append_assoc, List.cons_append,
        List.nil_append]
  | detach address =>
      simp only [VdsctlRequest.text, detachRequest, formatRecord, VdsctlRequest.fields,
        List.map_cons, List.map_nil, jsonlField, List.append_assoc, List.cons_append,
        List.nil_append]
  | trace command =>
      simp only [VdsctlRequest.text, traceRequest, formatRecord, VdsctlRequest.fields,
        List.map_cons, List.map_nil, jsonlField, List.append_assoc, List.cons_append,
        List.nil_append]

theorem printable_fields (h : request.Valid) : ∀ field ∈ request.fields, Printable field := by
  have hkeys : ∀ key ∈ [ascii "command", ascii "address", ascii "profile", ascii "ports",
      ascii "mode", ascii "scope"], escapeJsonlString key = key := by
    decide +kernel
  have hnumbers : ∀ config, request = .attach config → ∀ port ∈ config.ports,
      port ≤ unsignedMax := by
    rintro config rfl port hport
    exact ((ValidController.ports h).inRange port hport).le.trans (by decide)
  intro field hfield
  refine ⟨hkeys field.key ?_, ?_⟩
  · cases request with
    | attach config =>
        simp only [VdsctlRequest.fields, List.mem_cons, List.not_mem_nil, or_false] at hfield
        obtain rfl | rfl | rfl | rfl := hfield <;> simp
    | detach address =>
        simp only [VdsctlRequest.fields, List.mem_cons, List.not_mem_nil, or_false] at hfield
        obtain rfl | rfl := hfield <;> simp
    | trace command =>
        simp only [VdsctlRequest.fields, List.mem_cons, List.not_mem_nil, or_false] at hfield
        obtain rfl | rfl | rfl := hfield <;> simp
  · intro values hvalues
    cases request with
    | attach config =>
        simp only [VdsctlRequest.fields, List.mem_cons, List.not_mem_nil, or_false] at hfield
        obtain rfl | rfl | rfl | rfl := hfield
        · cases hvalues
        · cases hvalues
        · cases hvalues
        · cases hvalues
          exact hnumbers config rfl
    | detach address =>
        simp only [VdsctlRequest.fields, List.mem_cons, List.not_mem_nil, or_false] at hfield
        obtain rfl | rfl := hfield
        · cases hvalues
        · cases hvalues
    | trace command =>
        simp only [VdsctlRequest.fields, List.mem_cons, List.not_mem_nil, or_false] at hfield
        obtain rfl | rfl | rfl := hfield
        · cases hvalues
        · cases hvalues
        · cases hvalues

/-- The object of a request, without the line feed. -/
def VdsctlRequest.record (request : VdsctlRequest) : List UInt8 :=
  [0x7b] ++ [0x2c].intercalate (request.fields.map jsonlField) ++ [0x7d]

theorem parseJsonlObject_record (h : request.Valid) :
    parseJsonlObject request.record = .ok request.fields := by
  have hprintable := printable_fields h
  cases request with
  | attach config => exact parseJsonlObject_fields hprintable
  | detach address => exact parseJsonlObject_fields hprintable
  | trace command => exact parseJsonlObject_fields hprintable

end Records

section Reading

variable {request : VdsctlRequest}

/-- A request that fits is read whole. -/
theorem receivedCommand_of_le (h : request.text.length ≤ readLimit + 1) :
    receivedCommand request.text = request.record := by
  have htrim : trimCommand request.record = request.record := by
    rw [trimCommand, VdsctlRequest.record, List.rdropWhile_concat_neg]
    decide
  have hlength : request.record.length ≤ readLimit := by
    rw [text_eq, List.length_append, List.length_singleton] at h
    exact Nat.le_of_succ_le_succ h
  rw [receivedCommand, text_eq, ← VdsctlRequest.record, List.take_append,
    List.take_of_length_le hlength]
  cases readLimit - request.record.length with
  | zero => rw [List.take_zero, List.append_nil, htrim]
  | succ k =>
      rw [List.take_of_length_le (Nat.le_add_left 1 k), trimCommand,
        List.rdropWhile_concat_pos _ _ _ (by decide)]
      exact htrim

/-- Of a request that does not fit, the daemon reads a proper beginning. -/
theorem record_of_lt (h : readLimit + 1 < request.text.length) :
    ∃ more, request.record = receivedCommand request.text ++ (more ++ [0x7d]) := by
  rw [text_eq] at h ⊢
  rw [VdsctlRequest.record]
  generalize [0x7b] ++ [0x2c].intercalate (request.fields.map jsonlField) = body at h ⊢
  rw [List.length_append, List.length_append, List.length_singleton, List.length_singleton] at h
  have htake : (body ++ [0x7d] ++ [0x0a]).take readLimit = body.take readLimit := by
    rw [List.append_assoc, List.take_append_of_le_length]
    omega
  obtain ⟨trimmed, htrimmed⟩ : trimCommand (body.take readLimit) <+: body.take readLimit :=
    List.rdropWhile_prefix _ _
  refine ⟨trimmed ++ body.drop readLimit, ?_⟩
  rw [receivedCommand, htake, ← List.append_assoc, ← List.append_assoc, htrimmed,
    List.take_append_drop]

/-- What is missing of a request that does not fit is not white space. -/
theorem not_parseJsonlObject_of_lt (hvalid : request.Valid)
    (h : readLimit + 1 < request.text.length) {fields : List JsonlField} :
    parseJsonlObject (receivedCommand request.text) ≠ .ok fields := by
  intro hread
  obtain ⟨more, hrecord⟩ := record_of_lt h
  have hwhole := parseJsonlObject_record hvalid
  rw [hrecord] at hwhole
  have hspace := isSpace_of_parseJsonlObject_append hread hwhole 0x7d (by simp)
  exact absurd hspace (by decide)

end Reading

section Fitting

theorem length_escapeJsonlString_le (text : List UInt8) :
    (escapeJsonlString text).length ≤ 6 * text.length := by
  have hcharacter : ∀ ch, (escapeJsonlCharacter ch).length ≤ 6 := by
    intro ch
    rw [escapeJsonlCharacter]
    split_ifs <;> simp
  induction text with
  | nil => exact Nat.le_refl _
  | cons ch rest ih =>
      rw [escapeJsonlString, List.flatMap_cons, List.length_append, List.length_cons,
        ← escapeJsonlString]
      have := hcharacter ch
      omega

theorem length_jsonlStringField (key value : List UInt8) :
    (jsonlStringField key value).length = key.length + (escapeJsonlString value).length + 5 := by
  simp only [jsonlStringField, jsonlStringValue, List.length_append, List.length_cons,
    List.length_nil]
  omega

theorem length_of_normalized {address : List UInt8} (h : Normalized address) :
    address.length = 17 := by
  rw [Normalized, normalizeBluetoothAddress] at h
  by_contra hlength
  rw [if_pos hlength] at h
  cases h

theorem length_le_of_validPorts {ports : List Nat} (h : ValidPorts ports) :
    ports.length ≤ kMaxPortCount := by
  have hnodup : ports.Nodup := h.increasing.imp Nat.ne_of_lt
  have hsubset : ports ⊆ List.range kMaxPortCount := by
    intro port hport
    exact List.mem_range.mpr (h.inRange port hport)
  have hle := (List.subperm_of_subset hnodup hsubset).length_le
  rwa [List.length_range] at hle

theorem length_intercalate_decimal_le {ports : List Nat}
    (h : ∀ port ∈ ports, port < kMaxPortCount) :
    ([0x2c].intercalate (ports.map decimal)).length ≤ 2 * ports.length := by
  have hdecimal : ∀ port < kMaxPortCount, (decimal port).length = 1 := by
    decide +kernel
  induction ports with
  | nil => exact Nat.le_refl _
  | cons port rest ih =>
      have hport := hdecimal port (h port List.mem_cons_self)
      have hrest := ih fun other hother => h other (List.mem_cons_of_mem port hother)
      cases rest with
      | nil =>
          rw [List.map_singleton, List.intercalate_singleton, hport, List.length_singleton]
          decide
      | cons next rest =>
          rw [List.map_cons, List.map_cons, List.intercalate_cons_cons, ← List.map_cons,
            List.length_append, List.length_append, hport, List.length_singleton, List.length_cons]
          omega

/-- The scope that a trace request has room for. -/
def VdsctlRequest.Fits : VdsctlRequest → Prop
  | .attach _ => True
  | .detach _ => True
  | .trace command =>
      (modeName command.enabled).length + (escapeJsonlString command.scope).length ≤ 215

theorem fits_iff {request : VdsctlRequest} (h : request.Valid) :
    request.Fits ↔ request.text.length ≤ readLimit + 1 := by
  have hkeys : (ascii "command").length = 7 ∧ (ascii "address").length = 7 ∧
      (ascii "profile").length = 7 ∧ (ascii "ports").length = 5 ∧ (ascii "mode").length = 4 ∧
      (ascii "scope").length = 5 := by
    decide
  have hcommands : (escapeJsonlString (ascii "attach")).length = 6 ∧
      (escapeJsonlString (ascii "detach")).length = 6 ∧
      (escapeJsonlString (ascii "trace")).length = 5 := by
    decide +kernel
  obtain ⟨hcommand, haddress, hprofile, hports, hmode, hscope⟩ := hkeys
  obtain ⟨hattach, hdetach, htrace⟩ := hcommands
  cases request with
  | attach config =>
      have hname : (escapeJsonlString (controllerProfileName config.profile)).length ≤ 3 := by
        cases config.profile <;> decide +kernel
      have hescaped := length_escapeJsonlString_le config.address
      rw [length_of_normalized (ValidController.normalized h)] at hescaped
      have hlist := length_intercalate_decimal_le (ValidController.ports h).inRange
      have hcount := length_le_of_validPorts (ValidController.ports h)
      refine iff_of_true trivial ?_
      simp only [VdsctlRequest.text, attachRequest, formatRecord, List.intercalate_cons_cons,
        List.intercalate_singleton, List.length_append, length_jsonlStringField,
        jsonlUnsignedArrayField, jsonlUnsignedArray, List.length_cons, List.length_nil, hcommand,
        haddress, hprofile, hports, hattach]
      rw [kMaxPortCount] at hcount
      rw [readLimit]
      omega
  | detach address =>
      have hescaped := length_escapeJsonlString_le address
      rw [length_of_normalized h] at hescaped
      refine iff_of_true trivial ?_
      simp only [VdsctlRequest.text, detachRequest, formatRecord, List.intercalate_cons_cons,
        List.intercalate_singleton, List.length_append, length_jsonlStringField, List.length_cons,
        List.length_nil, hcommand, haddress, hdetach]
      rw [readLimit]
      omega
  | trace command =>
      have hname : (escapeJsonlString (modeName command.enabled)).length =
          (modeName command.enabled).length := by
        cases command.enabled <;> decide +kernel
      simp only [VdsctlRequest.Fits, VdsctlRequest.text, traceRequest, formatRecord,
        List.intercalate_cons_cons, List.intercalate_singleton, List.length_append,
        length_jsonlStringField, List.length_cons, List.length_nil, hcommand, hmode, hscope, htrace,
        hname]
      rw [readLimit]
      omega

end Fitting

section Delivery

theorem parseRequest_record {request : VdsctlRequest} (h : request.Valid) {command : List UInt8}
    (hcommand : requireJsonlString request.fields (ascii "command") = .ok command) :
    parseRequest request.record = .ok (request.fields, command) := by
  simp only [parseRequest, parseJsonlObject_record h, hcommand, Except.mapError, ok_bind]
  rfl

/-- A request that is read whole is understood. -/
theorem delivered_of_receivedCommand {request : VdsctlRequest} (h : request.Valid)
    (hread : receivedCommand request.text = request.record) : Delivered request := by
  cases request with
  | attach config =>
      have haddress : requireJsonlString (VdsctlRequest.attach config).fields (ascii "address") =
          .ok config.address := by
        rfl
      have hprofile : requireJsonlString (VdsctlRequest.attach config).fields (ascii "profile") =
          .ok (controllerProfileName config.profile) := by
        rfl
      have hports : requireJsonlUnsignedArray (VdsctlRequest.attach config).fields
          (ascii "ports") = .ok config.ports := by
        rfl
      have hnormalized : normalizeBluetoothAddress config.address = .ok config.address :=
        ValidController.normalized h
      refine ⟨_, (congrArg parseRequest hread).trans (parseRequest_record h (by rfl)), by rfl, ?_⟩
      simp only [requestedController, requestAddress, haddress, hnormalized, hprofile,
        parseControllerProfile_name, hports, validatePorts_of_validPorts (ValidController.ports h),
        Except.mapError, ok_bind]
      rfl
  | detach address =>
      have haddress : requireJsonlString (VdsctlRequest.detach address).fields (ascii "address") =
          .ok address := by
        rfl
      have hnormalized : normalizeBluetoothAddress address = .ok address := h
      refine ⟨_, (congrArg parseRequest hread).trans (parseRequest_record h (by rfl)), by rfl, ?_⟩
      simp only [requestAddress, haddress, hnormalized, Except.mapError, ok_bind]
  | trace command =>
      exact ⟨_, (congrArg parseRequest hread).trans (parseRequest_record h (by rfl)), by rfl,
        by rfl, by rfl⟩

theorem parseJsonlObject_of_delivered {request : VdsctlRequest} (h : Delivered request) :
    ∃ fields, parseJsonlObject (receivedCommand request.text) = .ok fields := by
  have hparsed : ∃ fields command, parseRequest (receivedCommand request.text) =
      .ok (fields, command) := by
    cases request with
    | attach config =>
        obtain ⟨fields, hparsed, -⟩ := h
        exact ⟨fields, _, hparsed⟩
    | detach address =>
        obtain ⟨fields, hparsed, -⟩ := h
        exact ⟨fields, _, hparsed⟩
    | trace command =>
        obtain ⟨fields, hparsed, -⟩ := h
        exact ⟨fields, _, hparsed⟩
  obtain ⟨fields, command, hparsed⟩ := hparsed
  obtain ⟨object, hobject, -⟩ := exists_of_bind_eq_ok hparsed
  exact ⟨object, ok_of_mapError_eq_ok hobject⟩

/-- The daemon understands every attach and every detach, and a trace request exactly when
its scope leaves the request within one read. -/
theorem delivered_iff_fits (arguments : List (List UInt8)) (request : VdsctlRequest)
    (h : Accepts arguments request) : Delivered request ↔ request.Fits := by
  rw [fits_iff h.valid]
  constructor
  · intro hdelivered
    by_contra hlong
    obtain ⟨fields, hobject⟩ := parseJsonlObject_of_delivered hdelivered
    exact not_parseJsonlObject_of_lt h.valid (Nat.lt_of_not_le hlong) hobject
  · intro hle
    exact delivered_of_receivedCommand h.valid (receivedCommand_of_le hle)

/-- The request for the microphone trace fits. -/
theorem delivered_iff_fits_inputAudio :
    Accepts [ascii "on", ascii "--scope", ascii "input-audio"]
        (.trace ⟨true, ascii "input-audio"⟩) ∧
      Delivered (.trace ⟨true, ascii "input-audio"⟩) := by
  have haccepts : Accepts [ascii "on", ascii "--scope", ascii "input-audio"]
      (.trace ⟨true, ascii "input-audio"⟩) := .trace (by decide +kernel)
  have hfits : (VdsctlRequest.trace ⟨true, ascii "input-audio"⟩).Fits := by
    rw [VdsctlRequest.Fits]
    decide +kernel
  exact ⟨haccepts, (delivered_iff_fits _ _ haccepts).mpr hfits⟩

/-- One scope, named twenty times. -/
def repeatedScope : List UInt8 :=
  [0x2c].intercalate (List.replicate 20 (ascii "input-audio"))

/-- The repetition is a scope for the daemon, but a request with it is cut short. -/
theorem repeatedScope_not_delivered :
    Accepts [ascii "on", ascii "--scope", repeatedScope] (.trace ⟨true, repeatedScope⟩) ∧
      parseTraceScope repeatedScope = .ok kTraceInputAudio ∧
      ¬Delivered (.trace ⟨true, repeatedScope⟩) := by
  have hcut : parseRequest (receivedCommand (traceRequest ⟨true, repeatedScope⟩)) =
      .error (.request .unterminatedString) := by
    decide +kernel
  refine ⟨.trace (by decide +kernel), by decide +kernel, ?_⟩
  rintro ⟨fields, hparsed, -⟩
  rw [hcut] at hparsed
  cases hparsed

end Delivery

end VirtualDualSense.Config.Vdsctl
