import VirtualDualSense.Config.Database

/-!
# Control requests

A client of the control socket sends a JSON record with a command. An attach adds a
controller to the stored database and a detach removes one; both look at the database
before they update it, and another process may store a database in between.

## Implementation notes

`loaded` is the text of the database when a handler loads it and `stored` the text when
it updates it. The port of a device path depends on the platform and is a parameter.
The handlers read the path of a port status only, and reading, locking and writing the
file succeed.
-/

namespace VirtualDualSense.Config.Control

open Lib.Scanners Lib.Text Controllers Jsonl Database

structure ControllerTarget where
  address : List UInt8
  name : List UInt8
  online : Bool
  deriving DecidableEq

structure VdsdControlControllerStatus where
  address : List UInt8
  connected : Bool
  path : List UInt8
  deriving DecidableEq

section Errors

/-- The exceptions of the control handlers. -/
inductive ControlError
  | request (error : JsonlError)
  | database (error : DatabaseError)
  | providerUnavailable
  | noAllowedPort (address : List UInt8)
  | targets (message : List UInt8)
  | traceScope
  | traceMode
  deriving DecidableEq

/-- The message of an exception. -/
def ControlError.what : ControlError → List UInt8
  | .request error => error.what (ascii "control request")
  | .database error => error.what
  | .providerUnavailable => ascii "virtual port provider unavailable"
  | .noAllowedPort address => ascii "no allowed virtual port for " ++ address
  | .targets message => message
  | .traceScope => ascii ("trace scope must be all, input, input-audio, input-control, output, " ++
      "or comma-separated scopes")
  | .traceMode => ascii "trace mode must be on or off"

end Errors

section Replies

def jsonlBoolField (key : List UInt8) (value : Bool) : List UInt8 :=
  [0x22] ++ key ++ [0x22, 0x3a] ++ (if value then ascii "true" else ascii "false")

/-- Fields between braces, with the line feed that ends a reply. -/
def formatRecord (fields : List (List UInt8)) : List UInt8 :=
  [0x7b] ++ [0x2c].intercalate fields ++ [0x7d, 0x0a]

def formatControlErrorReply (error : List UInt8) : List UInt8 :=
  formatRecord [jsonlBoolField (ascii "OK") false, jsonlStringField (ascii "error") error]

def formatControlAttachReply (ok : Bool) (error : List UInt8) (config : ControllerConfig) :
    List UInt8 :=
  formatRecord [jsonlBoolField (ascii "OK") ok, jsonlStringField (ascii "error") error,
    jsonlStringField (ascii "address") config.address,
    jsonlUnsignedArrayField (ascii "ports") config.ports,
    jsonlStringField (ascii "profile") (controllerProfileName config.profile)]

def formatControlDetachReply (ok : Bool) (error address : List UInt8) : List UInt8 :=
  formatRecord [jsonlBoolField (ascii "OK") ok, jsonlStringField (ascii "error") error,
    jsonlStringField (ascii "address") address]

def formatControlListReply (db : ConfigDb) (controllers : List VdsdControlControllerStatus) :
    List UInt8 :=
  db.controllers.flatMap fun controller =>
    let status := controllers.find? fun status => status.address = controller.address
    let connected := status.any VdsdControlControllerStatus.connected
    let path := if connected then (status.map VdsdControlControllerStatus.path).getD [] else []
    formatRecord [jsonlStringField (ascii "address") controller.address,
      jsonlBoolField (ascii "connected") connected, jsonlStringField (ascii "path") path,
      jsonlStringField (ascii "profile") (controllerProfileName controller.profile),
      jsonlUnsignedArrayField (ascii "ports") controller.ports]

def formatControlTargetJsonl (target : ControllerTarget) (registered : Bool) : List UInt8 :=
  formatRecord [jsonlStringField (ascii "address") target.address,
    jsonlStringField (ascii "name") target.name, jsonlBoolField (ascii "online") target.online,
    jsonlBoolField (ascii "registered") registered]

/-- The targets are listed by address. -/
def formatControlListTargetsReply (db : ConfigDb) (targets : List ControllerTarget) :
    Except ControlError (List UInt8) := do
  let sorted := targets.mergeSort fun left right => left.address ≤ right.address
  let lines ← sorted.mapM fun target => do
    let registered ← (findControllerConfigByAddress db target.address).mapError
      (ControlError.database ∘ DatabaseError.config)
    return formatControlTargetJsonl target registered.isSome
  return lines.flatten

end Replies

section Trace

def kTraceInputAudio : UInt32 := 1

def kTraceInputControl : UInt32 := 2

def kTraceInput : UInt32 := kTraceInputAudio ||| kTraceInputControl

def kTraceOutput : UInt32 := 4

def kTraceAll : UInt32 := kTraceInput ||| kTraceOutput

def traceEnabled (traceFlags target : UInt32) : Bool := traceFlags &&& target != 0

/-- The flags of one scope. -/
def traceItem (item : List UInt8) : Except ControlError UInt32 :=
  if item = ascii "input" then .ok kTraceInput
  else if item = ascii "all" then .ok (kTraceInput ||| kTraceOutput)
  else if item = ascii "input-audio" then .ok kTraceInputAudio
  else if item = ascii "input-control" then .ok kTraceInputControl
  else if item = ascii "output" then .ok kTraceOutput
  else .error .traceScope

/-- The flags of scopes between commas. -/
def parseTraceScope (scope : List UInt8) : Except ControlError UInt32 :=
  (scope.splitOn 0x2c).foldlM (fun flags item => do return flags ||| (← traceItem item)) 0

def formatControlTraceReply (ok : Bool) (error : List UInt8) (traceFlags : UInt32) : List UInt8 :=
  let scopes :=
    (if traceEnabled traceFlags kTraceInputAudio then [ascii "input-audio"] else []) ++
    (if traceEnabled traceFlags kTraceInputControl then [ascii "input-control"] else []) ++
    (if traceEnabled traceFlags kTraceOutput then [ascii "output"] else [])
  formatRecord [jsonlBoolField (ascii "OK") ok, jsonlStringField (ascii "error") error,
    jsonlBoolField (ascii "trace") (traceEnabled traceFlags kTraceAll),
    ascii "\"scope\":[" ++ [0x2c].intercalate (scopes.map jsonlStringValue) ++ ascii "]"]

end Trace

section Handlers

variable (portIndex : List UInt8 → Option Nat)

/-- Every restricted controller must have one of its ports among the devices. -/
def validateConfigAssignments (db : ConfigDb) (devices : List (List UInt8)) :
    Except ControlError Unit :=
  if db.controllers.isEmpty then .ok ()
  else if devices.isEmpty then .error .providerUnavailable
  else
    let availablePorts := devices.filterMap portIndex
    match db.controllers.find? fun config =>
      !config.ports.isEmpty && !config.ports.any availablePorts.contains with
    | some config => .error (.noAllowedPort config.address)
    | none => .ok ()

/-- What a handler returns and leaves behind. -/
structure ControlResult where
  reply : List UInt8
  stored : List UInt8
  traceFlags : UInt32
  reloadRequested : Bool
  deriving DecidableEq

/-- The address of a request in normal form. -/
def requestAddress (fields : List JsonlField) : Except ControlError (List UInt8) := do
  let address ← (requireJsonlString fields (ascii "address")).mapError .request
  (normalizeBluetoothAddress address).mapError (ControlError.database ∘ DatabaseError.config)

def loadConfigDb (text : List UInt8) : Except ControlError ConfigDb :=
  (parseConfigDb text).mapError .database

def findRegistered (db : ConfigDb) (address : List UInt8) :
    Except ControlError (Option ControllerConfig) :=
  (findControllerConfigByAddress db address).mapError
    (ControlError.database ∘ DatabaseError.config)

def alreadyRegistered : List UInt8 := ascii "address is already registered"

def notAttachable : List UInt8 :=
  ascii "address is not paired, not supported, or not attachable; run vdsctl list-targets"

def emptyConfig : ControllerConfig := ⟨[], .unspecified, []⟩

/-- An attach that was refused: what its reply says, and the text of the database then. -/
structure AttachRefusal where
  error : List UInt8
  config : ControllerConfig
  stored : List UInt8

/-- The refusal by an exception that leaves the database alone. -/
def refuse (config : ControllerConfig) (stored : List UInt8) (error : ControlError) :
    AttachRefusal := ⟨error.what, config, stored⟩

/-- The update of the database in an attach: the new text, or the controller that is
registered already. -/
def attachUpdate (config : ControllerConfig) (stored : List UInt8)
    (devices : List (List UInt8)) :
    Except ControlError (List UInt8 × Option ControllerConfig) := do
  let db ← loadConfigDb stored
  match ← findRegistered db config.address with
  | some registered => return (serializeConfigDb db, some registered)
  | none =>
      let db ← (upsertControllerConfig db config).mapError
        (ControlError.database ∘ DatabaseError.config)
      validateConfigAssignments portIndex db devices
      return (serializeConfigDb db, none)

/-- The guarded part of `handle_attach_control_request`. -/
def tryAttach (fields : List JsonlField) (loaded stored : List UInt8)
    (devices : List (List UInt8)) (targets : Except (List UInt8) (List ControllerTarget)) :
    Except AttachRefusal (ControllerConfig × List UInt8) := do
  let address ← (requestAddress fields).mapError (refuse emptyConfig stored)
  let currentDb ← (loadConfigDb loaded).mapError (refuse emptyConfig stored)
  let registered ← (findRegistered currentDb address).mapError (refuse emptyConfig stored)
  let config := registered.getD emptyConfig
  (rejectUnknownJsonlFields fields
    [ascii "command", ascii "address", ascii "profile", ascii "ports"]).mapError
      (refuse config stored ∘ .request)
  if config.address ≠ [] then throw ⟨alreadyRegistered, config, stored⟩
  let config := { config with address }
  let profile ← (requireJsonlString fields (ascii "profile")).mapError
    (refuse config stored ∘ .request)
  let profile ← (parseControllerProfile profile).mapError (refuse config stored ∘ .database)
  let config := { config with profile }
  let ports ← (requireJsonlUnsignedArray fields (ascii "ports")).mapError
    (refuse config stored ∘ .request)
  let config := { config with ports }
  let targets ← targets.mapError (refuse config stored ∘ .targets)
  if targets.all fun target => target.address ≠ config.address then
    throw ⟨notAttachable, emptyConfig, stored⟩
  match ← (attachUpdate portIndex config stored devices).mapError (refuse config stored) with
  | (stored, some registered) => throw ⟨alreadyRegistered, registered, stored⟩
  | (stored, none) => return (config, stored)

def handleAttachControlRequest (fields : List JsonlField) (loaded stored : List UInt8)
    (devices : List (List UInt8)) (targets : Except (List UInt8) (List ControllerTarget))
    (traceFlags : UInt32) (reloadRequested : Bool) : ControlResult :=
  match tryAttach portIndex fields loaded stored devices targets with
  | .error refusal =>
      ⟨formatControlAttachReply false refusal.error refusal.config, refusal.stored, traceFlags,
        reloadRequested⟩
  | .ok (config, stored) =>
      ⟨formatControlAttachReply true [] config, stored, traceFlags, true⟩

def notRegistered : List UInt8 := ascii "address is not registered"

/-- The guarded part of `handle_detach_control_request`: the address, the new text and
whether the controller was removed, or the error and the address that the reply names. -/
def tryDetach (fields : List JsonlField) (loaded stored : List UInt8) :
    Except (List UInt8 × List UInt8) (List UInt8 × List UInt8 × Bool) := do
  let address ← (requestAddress fields).mapError (·.what, [])
  let currentDb ← (loadConfigDb loaded).mapError (·.what, address)
  let registered ← (findRegistered currentDb address).mapError (·.what, address)
  let address := if registered.isSome then address else []
  (rejectUnknownJsonlFields fields [ascii "command", ascii "address"]).mapError fun error =>
    ((ControlError.request error).what, address)
  if address = [] then throw (notRegistered, address)
  let db ← (loadConfigDb stored).mapError (·.what, address)
  let (db, removed) ← (removeControllerConfig db address).mapError fun error =>
    ((ControlError.database (.config error)).what, address)
  return (address, serializeConfigDb db, removed)

def handleDetachControlRequest (fields : List JsonlField) (loaded stored : List UInt8)
    (traceFlags : UInt32) (reloadRequested : Bool) : ControlResult :=
  match tryDetach fields loaded stored with
  | .error (error, address) =>
      ⟨formatControlDetachReply false error address, stored, traceFlags, reloadRequested⟩
  -- the flag is assigned, not set, so that a pending request is forgotten
  | .ok (_, stored, false) =>
      ⟨formatControlDetachReply false notRegistered [], stored, traceFlags, false⟩
  | .ok (address, stored, true) =>
      ⟨formatControlDetachReply true [] address, stored, traceFlags, true⟩

def handleListControlRequest (fields : List JsonlField) (loaded : List UInt8)
    (controllers : List VdsdControlControllerStatus) : Except ControlError (List UInt8) := do
  (rejectUnknownJsonlFields fields [ascii "command"]).mapError .request
  return formatControlListReply (← loadConfigDb loaded) controllers

def handleListTargetsControlRequest (fields : List JsonlField) (loaded : List UInt8)
    (targets : Except (List UInt8) (List ControllerTarget)) :
    Except ControlError (List UInt8) := do
  (rejectUnknownJsonlFields fields [ascii "command"]).mapError .request
  let db ← loadConfigDb loaded
  formatControlListTargetsReply db (← targets.mapError .targets)

/-- The trace flags that a request asks for. -/
def tryTrace (fields : List JsonlField) (traceFlags : UInt32) : Except ControlError UInt32 := do
  (rejectUnknownJsonlFields fields [ascii "command", ascii "mode", ascii "scope"]).mapError
    .request
  let mode ← (requireJsonlString fields (ascii "mode")).mapError .request
  let scope ← parseTraceScope (← (requireJsonlString fields (ascii "scope")).mapError .request)
  if mode = ascii "on" then return traceFlags ||| scope
  else if mode = ascii "off" then return traceFlags &&& ~~~scope
  else .error .traceMode

def handleTraceControlRequest (fields : List JsonlField) (traceFlags : UInt32) :
    List UInt8 × UInt32 :=
  match tryTrace fields traceFlags with
  | .error error => (formatControlTraceReply false error.what traceFlags, traceFlags)
  | .ok traceFlags => (formatControlTraceReply true [] traceFlags, traceFlags)

/-- A control request with everything that its handler reads. -/
structure ControlInput where
  request : List UInt8
  loaded : List UInt8
  stored : List UInt8
  controllers : List VdsdControlControllerStatus
  devices : List (List UInt8)
  targets : Except (List UInt8) (List ControllerTarget)
  traceFlags : UInt32
  reloadRequested : Bool

/-- The result of a request that leaves the database and the flags alone. -/
def ControlInput.answer (input : ControlInput) (reply : List UInt8) : ControlResult :=
  ⟨reply, input.stored, input.traceFlags, input.reloadRequested⟩

/-- The fields of a request and its command. -/
def parseRequest (request : List UInt8) : Except ControlError (List JsonlField × List UInt8) := do
  let fields ← (parseJsonlObject request).mapError .request
  let command ← (requireJsonlString fields (ascii "command")).mapError .request
  return (fields, command)

/-- A reply, or the exception that the outer handler reports. -/
def ControlInput.answerOr (input : ControlInput) : Except ControlError (List UInt8) → ControlResult
  | .ok reply => input.answer reply
  | .error error => input.answer (formatControlErrorReply error.what)

def handleVdsdControlCommand (input : ControlInput) : ControlResult :=
  match parseRequest input.request with
  | .error error => input.answer (formatControlErrorReply error.what)
  | .ok (fields, command) =>
      if command = ascii "attach" then
        handleAttachControlRequest portIndex fields input.loaded input.stored input.devices
          input.targets input.traceFlags input.reloadRequested
      else if command = ascii "detach" then
        handleDetachControlRequest fields input.loaded input.stored input.traceFlags
          input.reloadRequested
      else if command = ascii "list" then
        input.answerOr (handleListControlRequest fields input.loaded input.controllers)
      else if command = ascii "list-targets" then
        input.answerOr (handleListTargetsControlRequest fields input.loaded input.targets)
      else if command = ascii "trace" then
        let (reply, traceFlags) := handleTraceControlRequest fields input.traceFlags
        ⟨reply, input.stored, traceFlags, input.reloadRequested⟩
      else input.answer (formatControlErrorReply (ascii "unknown command: " ++ command))

end Handlers

end VirtualDualSense.Config.Control
