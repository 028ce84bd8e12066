import VirtualDualSense.Config.Control

/-!
# Attach and detach are atomic

An attach or a detach that is answered with success changed the database that it found
at the update by that controller, and any other answer leaves the database as it was.
The request for a reload follows the successful ones, except that a detach which loses
a race against another process withdraws a request that was pending.
-/

namespace VirtualDualSense.Config.ControlAtomicity

open Lib.Scanners Lib.Text Controllers Jsonl Database Control

section Statements

/-- The reply of a request that succeeded. -/
def answeredOk (reply : List UInt8) : Bool := (ascii "\x7b\"OK\":true").isPrefixOf reply

def Registered (db : ConfigDb) (address : List UInt8) : Prop :=
  ∃ config ∈ db.controllers, config.address = address

/-- The controller that an attach asks for. -/
def requestedController (fields : List JsonlField) : Except ControlError ControllerConfig := do
  let address ← requestAddress fields
  let profile ← (requireJsonlString fields (ascii "profile")).mapError .request
  let profile ← (parseControllerProfile profile).mapError .database
  let ports ← (requireJsonlUnsignedArray fields (ascii "ports")).mapError .request
  let ports ← (validatePorts ports).mapError (ControlError.database ∘ DatabaseError.config)
  return ⟨address, profile, ports⟩

/-- The database at the update with exactly the requested controller added. -/
def Adds (input : ControlInput) (after : List UInt8) : Prop :=
  ∃ fields config db, parseRequest input.request = .ok (fields, ascii "attach") ∧
    requestedController fields = .ok config ∧ parseConfigDb input.stored = .ok db ∧
    ¬Registered db config.address ∧ parseConfigDb after = .ok ⟨db.controllers ++ [config]⟩

/-- The database at the update with exactly the requested controller removed. -/
def Removes (input : ControlInput) (after : List UInt8) : Prop :=
  ∃ fields address db, parseRequest input.request = .ok (fields, ascii "detach") ∧
    requestAddress fields = .ok address ∧ parseConfigDb input.stored = .ok db ∧
    Registered db address ∧
    parseConfigDb after = .ok ⟨db.controllers.filter fun config => config.address ≠ address⟩

def HasCommand (input : ControlInput) (command : String) : Prop :=
  ∃ fields, parseRequest input.request = .ok (fields, ascii command)

/-- An attach or a detach that was answered with success. -/
def Changed (input : ControlInput) (result : ControlResult) : Prop :=
  (HasCommand input "attach" ∨ HasCommand input "detach") ∧ answeredOk result.reply = true

structure Lawful (input : ControlInput) (result : ControlResult) : Prop where
  attach : HasCommand input "attach" → (answeredOk result.reply = true ↔ Adds input result.stored)
  detach : HasCommand input "detach" →
    (answeredOk result.reply = true ↔ Removes input result.stored)
  unchanged : ¬Changed input result → parseConfigDb result.stored = parseConfigDb input.stored
  reload : result.reloadRequested = true ↔ input.reloadRequested = true ∨ Changed input result

/-- A reload is pending when a detach finds its controller at first and not any more at
the update. -/
structure ReloadForgotten (input : ControlInput) : Prop where
  pending : input.reloadRequested = true
  raced : ∃ fields address before now,
    parseRequest input.request = .ok (fields, ascii "detach") ∧
    rejectUnknownJsonlFields fields [ascii "command", ascii "address"] = .ok () ∧
    requestAddress fields = .ok address ∧ parseConfigDb input.loaded = .ok before ∧
    Registered before address ∧ parseConfigDb input.stored = .ok now ∧ ¬Registered now address

end Statements

section Replies

theorem answeredOk_attach (ok : Bool) (error : List UInt8) (config : ControllerConfig) :
    answeredOk (formatControlAttachReply ok error config) = ok := by
  cases ok <;> rfl

theorem answeredOk_detach (ok : Bool) (error address : List UInt8) :
    answeredOk (formatControlDetachReply ok error address) = ok := by
  cases ok <;> rfl

end Replies

section Database

theorem findRegistered_eq {db : ConfigDb} {address : List UInt8} (h : Normalized address) :
    findRegistered db address =
      .ok (db.controllers.find? fun config => config.address = address) := by
  rw [findRegistered, findControllerConfigByAddress,
    show normalizeBluetoothAddress address = _ from h]
  rfl

theorem find?_isSome_iff {db : ConfigDb} {address : List UInt8} :
    (db.controllers.find? fun config => config.address = address).isSome = true ↔
      Registered db address := by
  rw [List.find?_isSome]
  simp [Registered]

theorem normalized_requestAddress {fields : List JsonlField} {address : List UInt8}
    (h : requestAddress fields = .ok address) : Normalized address := by
  obtain ⟨raw, -, h⟩ := exists_of_bind_eq_ok h
  exact normalized_of_normalizeBluetoothAddress (ok_of_mapError_eq_ok h)

theorem replaceOrAppend_of_new {config : ControllerConfig} {controllers : List ControllerConfig}
    (h : ∀ other ∈ controllers, other.address ≠ config.address) :
    replaceOrAppend config controllers = controllers ++ [config] := by
  induction controllers with
  | nil => rfl
  | cons controller rest ih =>
      rw [replaceOrAppend, if_neg (h controller List.mem_cons_self),
        ih fun other hother => h other (List.mem_cons_of_mem controller hother), List.cons_append]

end Database

section Attach

variable {portIndex : List UInt8 → Option Nat} {fields : List JsonlField}
  {loaded stored after : List UInt8} {devices : List (List UInt8)}
  {targets : Except (List UInt8) (List ControllerTarget)} {config : ControllerConfig}

theorem tryAttach_eq_ok
    (h : tryAttach portIndex fields loaded stored devices targets = .ok (config, after)) :
    ∃ profile, requestAddress fields = .ok config.address ∧
      requireJsonlString fields (ascii "profile") = .ok profile ∧
      parseControllerProfile profile = .ok config.profile ∧
      requireJsonlUnsignedArray fields (ascii "ports") = .ok config.ports ∧
      attachUpdate portIndex config stored devices = .ok (after, none) := by
  obtain ⟨address, haddress, h⟩ := exists_of_bind_eq_ok h
  obtain ⟨currentDb, -, h⟩ := exists_of_bind_eq_ok h
  obtain ⟨registered, -, h⟩ := exists_of_bind_eq_ok h
  dsimp only at h
  obtain ⟨_, -, h⟩ := exists_of_bind_eq_ok h
  split at h
  · cases h
  · obtain ⟨name, hname, h⟩ := exists_of_bind_eq_ok h
    obtain ⟨profile, hprofile, h⟩ := exists_of_bind_eq_ok h
    obtain ⟨ports, hports, h⟩ := exists_of_bind_eq_ok h
    obtain ⟨found, -, h⟩ := exists_of_bind_eq_ok h
    split at h
    · cases h
    · obtain ⟨⟨text, result⟩, hupdate, h⟩ := exists_of_bind_eq_ok h
      cases result with
      | some registered => cases h
      | none =>
          cases h
          exact ⟨name, ok_of_mapError_eq_ok haddress, ok_of_mapError_eq_ok hname,
            ok_of_mapError_eq_ok hprofile, ok_of_mapError_eq_ok hports,
            ok_of_mapError_eq_ok hupdate⟩

/-- What an update leaves of the stored text: the database as it was, or with the
controller at its end. -/
theorem parseConfigDb_of_attachUpdate {registered : Option ControllerConfig}
    (haddress : Normalized config.address)
    (h : attachUpdate portIndex config stored devices = .ok (after, registered)) :
    ∃ db, parseConfigDb stored = .ok db ∧
      ((registered.isSome = true ∧ parseConfigDb after = .ok db) ∨
        (registered = none ∧ ¬Registered db config.address ∧
          ∃ ports, validatePorts config.ports = .ok ports ∧
            parseConfigDb after = .ok ⟨db.controllers ++ [{ config with ports }]⟩)) := by
  obtain ⟨db, hdb, h⟩ := exists_of_bind_eq_ok h
  obtain ⟨found, hfound, h⟩ := exists_of_bind_eq_ok h
  have hparse : parseConfigDb stored = .ok db := ok_of_mapError_eq_ok hdb
  have hvalid := valid_of_parseConfigDb hparse
  refine ⟨db, hparse, ?_⟩
  rw [findRegistered_eq haddress] at hfound
  obtain rfl := Except.ok.inj hfound
  cases hfind : db.controllers.find? fun other => other.address = config.address with
  | some existing =>
      rw [hfind] at h
      cases h
      exact .inl ⟨rfl, parseConfigDb_serializeConfigDb hvalid⟩
  | none =>
      rw [hfind] at h
      obtain ⟨db', hupsert, h⟩ := exists_of_bind_eq_ok h
      obtain ⟨_, -, h⟩ := exists_of_bind_eq_ok h
      cases h
      have hnew : ¬Registered db config.address := by
        rw [← find?_isSome_iff, hfind]
        exact Bool.false_ne_true
      have hupsert := ok_of_mapError_eq_ok hupsert
      obtain ⟨address, ports, -, -, hupdated⟩ := updated_of_upsertControllerConfig hvalid hupsert
      obtain ⟨address', haddress', hupsert⟩ := exists_of_bind_eq_ok hupsert
      obtain ⟨ports', hports', hupsert⟩ := exists_of_bind_eq_ok hupsert
      obtain rfl := Except.ok.inj (haddress.symm.trans haddress')
      have happend : replaceOrAppend { config with ports := ports' } db.controllers =
          db.controllers ++ [{ config with ports := ports' }] :=
        replaceOrAppend_of_new fun other hother heq => hnew ⟨other, hother, heq⟩
      refine .inr ⟨rfl, hnew, ports', hports', ?_⟩
      rw [parseConfigDb_serializeConfigDb hupdated.valid, ← Except.ok.inj hupsert, happend]

/-- A refused attach leaves the database as it was. -/
theorem parseConfigDb_of_tryAttach {refusal : AttachRefusal}
    (h : tryAttach portIndex fields loaded stored devices targets = .error refusal) :
    parseConfigDb refusal.stored = parseConfigDb stored := by
  have hrefuse : ∀ {ε α : Type} {config : ControllerConfig} {f : ε → ControlError}
      {result : Except ε α}, result.mapError (refuse config stored ∘ f) = .error refusal →
        parseConfigDb refusal.stored = parseConfigDb stored := by
    intro ε α config f result hresult
    obtain ⟨error, -, rfl⟩ := exists_of_mapError_eq_error hresult
    rfl
  rcases cases_of_bind_eq_error h with h | ⟨address, haddress, h⟩
  · exact hrefuse (f := id) h
  rcases cases_of_bind_eq_error h with h | ⟨currentDb, -, h⟩
  · exact hrefuse (f := id) h
  rcases cases_of_bind_eq_error h with h | ⟨registered, -, h⟩
  · exact hrefuse (f := id) h
  dsimp only at h
  rcases cases_of_bind_eq_error h with h | ⟨_, -, h⟩
  · exact hrefuse h
  split at h
  · cases h
    rfl
  rcases cases_of_bind_eq_error h with h | ⟨name, -, h⟩
  · exact hrefuse h
  rcases cases_of_bind_eq_error h with h | ⟨profile, -, h⟩
  · exact hrefuse h
  rcases cases_of_bind_eq_error h with h | ⟨ports, -, h⟩
  · exact hrefuse h
  rcases cases_of_bind_eq_error h with h | ⟨found, -, h⟩
  · exact hrefuse h
  split at h
  · cases h
    rfl
  rcases cases_of_bind_eq_error h with h | ⟨⟨after, registered'⟩, hupdate, h⟩
  · exact hrefuse (f := id) h
  obtain ⟨db, hparse, hafter⟩ := parseConfigDb_of_attachUpdate
    (normalized_requestAddress (ok_of_mapError_eq_ok haddress))
    (ok_of_mapError_eq_ok hupdate)
  rcases hafter with ⟨hsome, hafter⟩ | ⟨rfl, -⟩
  · obtain ⟨existing, rfl⟩ := Option.isSome_iff_exists.mp hsome
    cases h
    exact hafter.trans hparse.symm
  · cases h

end Attach

section Detach

variable {fields : List JsonlField} {loaded stored after address : List UInt8} {removed : Bool}

/-- The database without the controllers of an address. -/
def without (db : ConfigDb) (address : List UInt8) : ConfigDb :=
  ⟨db.controllers.filter fun config => config.address ≠ address⟩

theorem without_of_not_registered {db : ConfigDb} (h : ¬Registered db address) :
    without db address = db := by
  rw [without, List.filter_eq_self.mpr]
  intro config hconfig
  exact decide_eq_true fun heq => h ⟨config, hconfig, heq⟩

theorem removeControllerConfig_eq {db : ConfigDb} (h : Normalized address) :
    ∃ removed, removeControllerConfig db address = .ok (without db address, removed) ∧
      (removed = true ↔ Registered db address) := by
  refine ⟨(without db address).controllers.length != db.controllers.length, ?_, ?_⟩
  · rw [removeControllerConfig, show normalizeBluetoothAddress address = _ from h]
    rfl
  · rw [bne_iff_ne, ne_eq, without, List.length_filter_eq_length_iff]
    simp [Registered]

theorem valid_without {db : ConfigDb} (h : Valid db) : Valid (without db address) := by
  have hsublist : (without db address).controllers.Sublist db.controllers := List.filter_sublist
  exact ⟨fun config hmem => h.controllers config (hsublist.subset hmem),
    h.distinct.sublist (hsublist.map _)⟩

/-- What a detach that came to its update found on the way. -/
structure Detaches (fields : List JsonlField) (loaded stored address after : List UInt8)
    (removed : Bool) (before now : ConfigDb) : Prop where
  known : rejectUnknownJsonlFields fields [ascii "command", ascii "address"] = .ok ()
  requested : requestAddress fields = .ok address
  found : parseConfigDb loaded = .ok before
  registered : Registered before address
  current : parseConfigDb stored = .ok now
  updated : parseConfigDb after = .ok (without now address)
  flag : removed = true ↔ Registered now address

theorem detaches_of_tryDetach (h : tryDetach fields loaded stored = .ok (address, after, removed)) :
    ∃ before now, Detaches fields loaded stored address after removed before now := by
  obtain ⟨requested, haddress, h⟩ := exists_of_bind_eq_ok h
  obtain ⟨before, hbefore, h⟩ := exists_of_bind_eq_ok h
  obtain ⟨found, hfound, h⟩ := exists_of_bind_eq_ok h
  dsimp only at h
  obtain ⟨_, hknown, h⟩ := exists_of_bind_eq_ok h
  have haddress := ok_of_mapError_eq_ok haddress
  have hnormalized := normalized_requestAddress haddress
  have hfound := ok_of_mapError_eq_ok hfound
  rw [findRegistered_eq hnormalized] at hfound
  obtain rfl := Except.ok.inj hfound
  by_cases hsome : (before.controllers.find? fun config => config.address = requested).isSome
  · rw [if_pos hsome] at h
    split at h
    · cases h
    · obtain ⟨now, hnow, h⟩ := exists_of_bind_eq_ok h
      obtain ⟨removal, hremoval, h⟩ := exists_of_bind_eq_ok h
      cases h
      have hparse : parseConfigDb stored = .ok now :=
        ok_of_mapError_eq_ok (ok_of_mapError_eq_ok hnow)
      obtain ⟨flag, hremove, hflag⟩ := @removeControllerConfig_eq address now hnormalized
      obtain rfl := Except.ok.inj ((ok_of_mapError_eq_ok hremoval).symm.trans hremove)
      exact ⟨before, now, ok_of_mapError_eq_ok hknown, haddress,
        ok_of_mapError_eq_ok (ok_of_mapError_eq_ok hbefore), find?_isSome_iff.mp hsome, hparse,
        parseConfigDb_serializeConfigDb (valid_without (valid_of_parseConfigDb hparse)), hflag⟩
  · rw [if_neg hsome] at h
    cases h

/-- A detach that finds its controller comes to its update. -/
theorem exists_tryDetach_eq_ok {before now : ConfigDb}
    (hknown : rejectUnknownJsonlFields fields [ascii "command", ascii "address"] = .ok ())
    (haddress : requestAddress fields = .ok address) (hbefore : parseConfigDb loaded = .ok before)
    (hregistered : Registered before address) (hnow : parseConfigDb stored = .ok now) :
    ∃ after removed, tryDetach fields loaded stored = .ok (address, after, removed) := by
  have hnormalized := normalized_requestAddress haddress
  obtain ⟨removed, hremove, -⟩ := @removeControllerConfig_eq address now hnormalized
  have hsome := find?_isSome_iff.mpr hregistered
  have hnonempty : address ≠ [] := by
    rintro rfl
    cases hnormalized
  refine ⟨serializeConfigDb (without now address), removed, ?_⟩
  simp only [tryDetach, haddress, loadConfigDb, hbefore, hnow, findRegistered_eq hnormalized,
    hknown, hsome, hremove, Except.mapError, ok_bind, if_true, if_neg hnonempty]
  rfl

end Detach

section Main

variable {portIndex : List UInt8 → Option Nat} {input : ControlInput} {result : ControlResult}
  {fields : List JsonlField} {command : List UInt8}

theorem hasCommand_iff (h : parseRequest input.request = .ok (fields, command)) (name : String) :
    HasCommand input name ↔ command = ascii name := by
  constructor
  · rintro ⟨fields', h'⟩
    exact (Prod.mk.inj (Except.ok.inj (h.symm.trans h'))).2
  · rintro rfl
    exact ⟨fields, h⟩

theorem ReloadForgotten.hasCommand (h : ReloadForgotten input) : HasCommand input "detach" := by
  obtain ⟨fields, address, before, now, hrequest, -⟩ := h.raced
  exact ⟨fields, hrequest⟩

/-- Other commands leave the database and the flag alone. -/
theorem lawful_of_other (hattach : ¬HasCommand input "attach")
    (hdetach : ¬HasCommand input "detach") (hstored : result.stored = input.stored)
    (hreload : result.reloadRequested = input.reloadRequested) : Lawful input result := by
  have hchanged : ¬Changed input result := fun h => h.1.elim hattach hdetach
  refine ⟨fun h => absurd h hattach, fun h => absurd h hdetach, fun _ => by rw [hstored], ?_⟩
  rw [hreload]
  exact ⟨.inl, fun h => h.resolve_right hchanged⟩

theorem lawful_attach (h : parseRequest input.request = .ok (fields, ascii "attach")) :
    Lawful input (handleAttachControlRequest portIndex fields input.loaded input.stored
      input.devices input.targets input.traceFlags input.reloadRequested) := by
  have hattach : HasCommand input "attach" := ⟨fields, h⟩
  have hdetach : ¬HasCommand input "detach" := by
    rw [hasCommand_iff h]
    decide +kernel
  rw [handleAttachControlRequest]
  cases htry : tryAttach portIndex fields input.loaded input.stored input.devices
    input.targets with
  | error refusal =>
      have hstored := parseConfigDb_of_tryAttach htry
      have hrefused := answeredOk_attach false refusal.error refusal.config
      have hadds : ¬Adds input refusal.stored := by
        rintro ⟨fields', config, db, -, -, hdb, -, hafter⟩
        have heq := Except.ok.inj ((hdb.symm.trans hstored.symm).trans hafter)
        have hlength := congrArg (fun db => db.controllers.length) heq
        simp at hlength
      refine ⟨fun _ => ⟨fun hok => ?_, fun hadd => absurd hadd hadds⟩,
        fun hmem => absurd hmem hdetach, fun _ => hstored, .inl, ?_⟩
      · cases hrefused.symm.trans hok
      · rintro (hpending | ⟨-, hok⟩)
        · exact hpending
        · cases hrefused.symm.trans hok
  | ok success =>
      obtain ⟨config, after⟩ := success
      obtain ⟨name, haddress, hname, hprofile, hports, hupdate⟩ := tryAttach_eq_ok htry
      obtain ⟨db, hdb, ⟨hnone, -⟩ | ⟨-, hnew, ports, hvalid, hafter⟩⟩ :=
        parseConfigDb_of_attachUpdate (normalized_requestAddress haddress) hupdate
      · cases hnone
      · have hok := answeredOk_attach true [] config
        have hrequested : requestedController fields = .ok { config with ports } := by
          simp only [requestedController, haddress, hname, hprofile, hports, hvalid,
            Except.mapError, ok_bind]
          rfl
        have hadds : Adds input after :=
          ⟨fields, { config with ports }, db, h, hrequested, hdb, hnew, hafter⟩
        exact ⟨fun _ => iff_of_true hok hadds, fun hmem => absurd hmem hdetach,
          fun hunchanged => absurd ⟨.inl hattach, hok⟩ hunchanged,
          iff_of_true rfl (.inr ⟨.inl hattach, hok⟩)⟩

/-- A detach that is answered with an error keeps the database; what is left of the law is
the flag. -/
theorem lawful_refused_iff (h : parseRequest input.request = .ok (fields, ascii "detach"))
    (hrefused : answeredOk result.reply = false)
    (hstored : parseConfigDb result.stored = parseConfigDb input.stored) :
    Lawful input result ↔ result.reloadRequested = input.reloadRequested := by
  have hattach : ¬HasCommand input "attach" := by
    rw [hasCommand_iff h]
    decide +kernel
  have hchanged : ¬Changed input result := by
    rintro ⟨-, hok⟩
    cases hrefused.symm.trans hok
  have hremoves : ¬Removes input result.stored := by
    rintro ⟨fields', address, db, -, -, hdb, ⟨config, hmem, haddress⟩, hafter⟩
    have hsame : db = without db address :=
      Except.ok.inj ((hdb.symm.trans hstored.symm).trans hafter)
    rw [hsame, without, List.mem_filter] at hmem
    exact of_decide_eq_true hmem.2 haddress
  constructor
  · intro lawful
    have hreload := lawful.reload
    rw [or_iff_left hchanged] at hreload
    exact Bool.eq_iff_iff.mpr hreload
  · intro hreload
    refine ⟨fun hmem => absurd hmem hattach, fun _ => ⟨fun hok => ?_, fun hremove => ?_⟩,
      fun _ => hstored, ?_⟩
    · cases hrefused.symm.trans hok
    · exact absurd hremove hremoves
    · rw [hreload, or_iff_left hchanged]

theorem lawful_detach_iff (h : parseRequest input.request = .ok (fields, ascii "detach")) :
    Lawful input (handleDetachControlRequest fields input.loaded input.stored input.traceFlags
      input.reloadRequested) ↔ ¬ReloadForgotten input := by
  have hraced : ReloadForgotten input → ∃ address after removed before now,
      tryDetach fields input.loaded input.stored = .ok (address, after, removed) ∧
        Detaches fields input.loaded input.stored address after removed before now ∧
        ¬Registered now address := by
    intro hforgotten
    obtain ⟨fields', address, before, now, hrequest, hknown, haddress, hbefore, hregistered, hnow,
      hgone⟩ := hforgotten.raced
    obtain ⟨rfl, -⟩ := Prod.mk.inj (Except.ok.inj (h.symm.trans hrequest))
    obtain ⟨after, removed, htry⟩ :=
      exists_tryDetach_eq_ok hknown haddress hbefore hregistered hnow
    obtain ⟨before', now', detaches⟩ := detaches_of_tryDetach htry
    obtain rfl := Except.ok.inj (hnow.symm.trans detaches.current)
    exact ⟨address, after, removed, before', now, htry, detaches, hgone⟩
  rw [handleDetachControlRequest]
  cases htry : tryDetach fields input.loaded input.stored with
  | error refusal =>
      refine iff_of_true ((lawful_refused_iff h (answeredOk_detach _ _ _) rfl).mpr rfl) ?_
      intro hforgotten
      obtain ⟨address, after, removed, before, now, htry', -⟩ := hraced hforgotten
      cases htry.symm.trans htry'
  | ok success =>
      obtain ⟨address, after, removed⟩ := success
      obtain ⟨before, now, detaches⟩ := detaches_of_tryDetach htry
      cases removed with
      | true =>
          have hdetach : HasCommand input "detach" := ⟨fields, h⟩
          have hattach : ¬HasCommand input "attach" := by
            rw [hasCommand_iff h]
            decide +kernel
          have hok := answeredOk_detach true [] address
          have hregistered := detaches.flag.mp rfl
          have hremoves : Removes input after :=
            ⟨fields, address, now, h, detaches.requested, detaches.current, hregistered,
              detaches.updated⟩
          refine iff_of_true ⟨fun hmem => absurd hmem hattach, fun _ => iff_of_true hok hremoves,
            fun hunchanged => absurd ⟨.inr hdetach, hok⟩ hunchanged,
            iff_of_true rfl (.inr ⟨.inr hdetach, hok⟩)⟩ ?_
          intro hforgotten
          obtain ⟨address', after', removed', before', now', htry', detaches', hgone⟩ :=
            hraced hforgotten
          obtain ⟨rfl, -⟩ := Prod.mk.inj (Except.ok.inj (htry.symm.trans htry'))
          obtain rfl := Except.ok.inj (detaches.current.symm.trans detaches'.current)
          exact hgone hregistered
      | false =>
          have hgone : ¬Registered now address := fun hmem => by
            cases detaches.flag.mpr hmem
          have hstored : parseConfigDb after = parseConfigDb input.stored := by
            rw [detaches.updated, without_of_not_registered hgone, detaches.current]
          rw [lawful_refused_iff h (answeredOk_detach _ _ _) hstored]
          constructor
          · intro hreload hforgotten
            cases hreload.trans hforgotten.pending
          · intro hkept
            by_contra hreload
            exact hkept ⟨Bool.eq_true_of_not_eq_false fun hfalse => hreload hfalse.symm, fields,
              address, before, now, h, detaches.known, detaches.requested, detaches.found,
              detaches.registered, detaches.current, hgone⟩

theorem stored_answerOr (input : ControlInput) (reply : Except ControlError (List UInt8)) :
    (input.answerOr reply).stored = input.stored ∧
      (input.answerOr reply).reloadRequested = input.reloadRequested := by
  cases reply with
  | error error => exact ⟨rfl, rfl⟩
  | ok reply => exact ⟨rfl, rfl⟩

/-- The handler keeps the law of attach and detach exactly when it does not withdraw a
pending reload. -/
theorem lawful_iff (portIndex : List UInt8 → Option Nat) (input : ControlInput) :
    Lawful input (handleVdsdControlCommand portIndex input) ↔ ¬ReloadForgotten input := by
  rw [handleVdsdControlCommand]
  cases hrequest : parseRequest input.request with
  | error error =>
      have hnone : ∀ name, ¬HasCommand input name := by
        rintro name ⟨fields, hfields⟩
        cases hrequest.symm.trans hfields
      exact iff_of_true (lawful_of_other (hnone _) (hnone _) rfl rfl)
        fun hforgotten => hnone _ hforgotten.hasCommand
  | ok parsed =>
      obtain ⟨fields, command⟩ := parsed
      dsimp only
      split
      · rename_i hattach
        subst hattach
        refine iff_of_true (lawful_attach hrequest) fun hforgotten => ?_
        have hdetach := (hasCommand_iff hrequest _).mp hforgotten.hasCommand
        revert hdetach
        decide +kernel
      · rename_i hattach
        split
        · rename_i hdetach
          subst hdetach
          exact lawful_detach_iff hrequest
        · rename_i hdetach
          have hother : ∀ result : ControlResult, result.stored = input.stored →
              result.reloadRequested = input.reloadRequested →
              (Lawful input result ↔ ¬ReloadForgotten input) := by
            intro result hstored hreload
            refine iff_of_true (lawful_of_other ?_ ?_ hstored hreload) fun hforgotten => ?_
            · rwa [hasCommand_iff hrequest]
            · rwa [hasCommand_iff hrequest]
            · exact hdetach ((hasCommand_iff hrequest _).mp hforgotten.hasCommand)
          split_ifs
          · exact hother _ (stored_answerOr _ _).1 (stored_answerOr _ _).2
          · exact hother _ (stored_answerOr _ _).1 (stored_answerOr _ _).2
          · exact hother _ rfl rfl
          · exact hother _ rfl rfl

/-- A detach whose controller another process removes after the handler looked for it,
while a reload is pending. -/
def racingDetach : ControlInput where
  request := ascii "\x7b\"command\":\"detach\",\"address\":\"aa:bb:cc:dd:ee:ff\"\x7d"
  loaded := serializeConfigDb ⟨[⟨ascii "aa:bb:cc:dd:ee:ff", .ds5, []⟩]⟩
  stored := []
  controllers := []
  devices := [ascii "/dev/vds0"]
  targets := .ok []
  traceFlags := 0
  reloadRequested := true

/-- The pending reload is lost. -/
theorem racingDetach_forgets :
    ¬Lawful racingDetach (handleVdsdControlCommand portIndexFromPath racingDetach) := by
  have hreload :
      (handleVdsdControlCommand portIndexFromPath racingDetach).reloadRequested = false := by
    decide +kernel
  intro lawful
  cases hreload.symm.trans (lawful.reload.mpr (.inl rfl))

end Main

end VirtualDualSense.Config.ControlAtomicity
