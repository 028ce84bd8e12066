import VirtualDualSense.Config.ControlAtomicity
import VirtualDualSense.Config.StorageRuns

/-!
# Control requests over the stored database

The daemon updates the stored database for attach and detach requests only. However
these interleave, fail or are cut short, the file holds a valid database, and it changes by
one controller at a time: a controller comes when its address is not registered and goes
when it is. The process that has the lock can always end its call.
-/

namespace VirtualDualSense.Config.StorageRequests

open Lib.Directories Lib.Replacements Lib.Runs Lib.Scanners Lib.Text Controllers Database Control
  ControlAtomicity Storage StorageRuns

section Requests

variable (portIndex : List UInt8 → Option Nat)

/-- The update that `handle_attach_control_request` passes on. -/
def attachChange (config : ControllerConfig) (devices : List (List UInt8)) (db : ConfigDb) :
    Except ControlError ConfigDb := do
  match ← findRegistered db config.address with
  | some _ => return db
  | none =>
      let db ← (upsertControllerConfig db config).mapError
        (ControlError.database ∘ DatabaseError.config)
      validateConfigAssignments portIndex db devices
      return db

/-- The update that `handle_detach_control_request` passes on. -/
def detachChange (address : List UInt8) (db : ConfigDb) : Except ControlError ConfigDb :=
  ((removeControllerConfig db address).mapError
    (ControlError.database ∘ DatabaseError.config)).map Prod.fst

/-- The handlers normalise the address first. -/
inductive Requested : (ConfigDb → Except ControlError ConfigDb) → Prop
  | attach (config : ControllerConfig) (devices : List (List UInt8))
      (normalized : Normalized config.address) : Requested (attachChange portIndex config devices)
  | detach (address : List UInt8) (normalized : Normalized address) :
      Requested (detachChange address)

/-- The calls of the daemon. -/
def ByRequest : Action → Prop
  | .call _ (some update) => Requested portIndex update
  | _ => True

/-- A controller comes or goes, or nothing changes. -/
def Changes (before after : ConfigDb) : Prop :=
  after = before ∨
    (∃ config, ¬Registered before config.address ∧
      after = ⟨before.controllers ++ [config]⟩) ∨
    ∃ address, Registered before address ∧ after = without before address

/-- Each version is a valid database, one change away from the version before it. -/
def Evolves : ConfigDb → List Version → Prop
  | _, [] => True
  | db, version :: rest => ∃ after, parseConfigDb version.text = .ok after ∧ Valid after ∧
      Changes db after ∧ Evolves after rest

variable {portIndex} {config : ControllerConfig} {devices : List (List UInt8)}
  {stored : List UInt8} {address : List UInt8} {before after : ConfigDb}

/-- The update of an attach, taken out of the handler that holds the text. -/
theorem attachUpdate_eq :
    (attachUpdate portIndex config stored devices).map Prod.fst =
      (do attachChange portIndex config devices (← loadConfigDb stored)).map
        serializeConfigDb := by
  rw [attachUpdate]
  cases loadConfigDb stored with
  | error error => rfl
  | ok db =>
      simp only [attachChange, bind, Except.bind]
      cases findRegistered db config.address with
      | error error => rfl
      | ok registered =>
          cases registered with
          | some registered => rfl
          | none =>
              dsimp only
              cases (upsertControllerConfig db config).mapError
                  (ControlError.database ∘ DatabaseError.config) with
              | error error => rfl
              | ok db' =>
                  dsimp only
                  cases validateConfigAssignments portIndex db' devices with
                  | error error => rfl
                  | ok _ => rfl

theorem changes_of_attachChange (hvalid : Valid before) (haddress : Normalized config.address)
    (h : attachChange portIndex config devices before = .ok after) :
    Valid after ∧ Changes before after := by
  obtain ⟨found, hfound, h⟩ := exists_of_bind_eq_ok h
  rw [findRegistered_eq haddress] at hfound
  obtain rfl := Except.ok.inj hfound
  cases hfind : before.controllers.find? fun other => other.address = config.address with
  | some registered =>
      rw [hfind] at h
      obtain rfl := Except.ok.inj h
      exact ⟨hvalid, .inl rfl⟩
  | none =>
      rw [hfind] at h
      obtain ⟨db, hupsert, h⟩ := exists_of_bind_eq_ok h
      obtain ⟨_, -, h⟩ := exists_of_bind_eq_ok h
      obtain rfl := Except.ok.inj h
      have hupsert := ok_of_mapError_eq_ok hupsert
      obtain ⟨_, _, -, -, hupdated⟩ := updated_of_upsertControllerConfig hvalid hupsert
      obtain ⟨normalized, hnormalized, hupsert⟩ := exists_of_bind_eq_ok hupsert
      obtain ⟨ports, -, hupsert⟩ := exists_of_bind_eq_ok hupsert
      obtain rfl := Except.ok.inj (haddress.symm.trans hnormalized)
      have hnew : ¬Registered before config.address := by
        rw [← find?_isSome_iff, hfind]
        exact Bool.false_ne_true
      refine ⟨hupdated.valid, .inr (.inl ⟨{ config with ports }, hnew, ?_⟩)⟩
      obtain rfl := Except.ok.inj hupsert
      exact congrArg ConfigDb.mk
        (replaceOrAppend_of_new fun other hother heq => hnew ⟨other, hother, heq⟩)

theorem changes_of_detachChange (hvalid : Valid before) (haddress : Normalized address)
    (h : detachChange address before = .ok after) : Valid after ∧ Changes before after := by
  obtain ⟨removed, hremove, -⟩ : ∃ removed,
      removeControllerConfig before address = .ok (without before address, removed) ∧ _ :=
    removeControllerConfig_eq haddress
  rw [detachChange, hremove] at h
  obtain rfl := Except.ok.inj h
  refine ⟨valid_without hvalid, ?_⟩
  by_cases hregistered : Registered before address
  · exact .inr (.inr ⟨address, hregistered, rfl⟩)
  · exact .inl (without_of_not_registered hregistered)

theorem changes_of_requested {update : ConfigDb → Except ControlError ConfigDb}
    (h : Requested portIndex update) (hvalid : Valid before)
    (hupdate : update before = .ok after) : Valid after ∧ Changes before after := by
  cases h with
  | attach config devices normalized => exact changes_of_attachChange hvalid normalized hupdate
  | detach address normalized => exact changes_of_detachChange hvalid normalized hupdate

end Requests

section Runs

variable {P : (ConfigDb → Except ControlError ConfigDb) → Prop} {s t : Store} {pid : Nat}
  {stage : Stage} {actions : List Action}

/-- The update of a call that has stored nothing yet. -/
def update? : Stage → Option (ConfigDb → Except ControlError ConfigDb)
  | .idle | .flushing _ => none
  | .locking call | .examining call | .reading call _ _ => call.update
  | .opening write | .writing write _ _ | .replacing write => some write.update

/-- Every update that is under way or stored satisfies `P`. -/
structure Uses (P : (ConfigDb → Except ControlError ConfigDb) → Prop) (s : Store) : Prop where
  stages : ∀ pid update, update? (s.stages pid) = some update → P update
  versions : ∀ version ∈ s.versions, ∀ write, version.write = some write → P write.update

theorem Uses.update (h : Uses P s) (hstage : ∀ update, update? stage = some update → P update)
    (other : Nat) (update : ConfigDb → Except ControlError ConfigDb)
    (hupdate : update? (Function.update s.stages pid stage other) = some update) : P update := by
  by_cases heq : other = pid
  · subst heq
    rw [Function.update_self] at hupdate
    exact hstage update hupdate
  · rw [Function.update_of_ne heq] at hupdate
    exact h.stages other update hupdate

theorem Uses.leave (h : Uses P s) (pid : Nat) : Uses P (s.leave pid) :=
  ⟨h.update fun _ hnone => (Option.some_ne_none _ hnone.symm).elim, h.versions⟩

theorem Uses.parsed {call : Call} {text : List UInt8} (h : Uses P s)
    (hcall : ∀ update, call.update = some update → P update) : Uses P (s.parsed pid call text) := by
  unfold Store.parsed
  cases parseConfigDb text with
  | error error => exact h.leave pid
  | ok db =>
      dsimp only
      cases hupdate : call.update with
      | none => exact ⟨(h.leave pid).stages, h.versions⟩
      | some update =>
          dsimp only
          cases update db with
          | error error => exact h.leave pid
          | ok after =>
              refine ⟨h.update fun other hother => ?_, h.versions⟩
              exact Option.some.inj hother ▸ hcall update hupdate

theorem Uses.step {action : Action} (h : Uses P s)
    (hcall : ∀ pid update, action = .call pid (some update) → P update)
    (hstep : step s action = some t) : Uses P t := by
  have hkeep : ∀ {pid : Nat} {stage : Stage}, update? stage = update? (s.stages pid) →
      ∀ other update, update? (Function.update s.stages pid stage other) = some update →
        P update := by
    intro pid stage hstage
    exact h.update fun update hupdate => h.stages pid update (hstage ▸ hupdate)
  have hown : ∀ {pid : Nat} {stage : Stage}, s.stages pid = stage →
      ∀ update, update? stage = some update → P update := by
    intro pid stage hstage update hupdate
    exact h.stages pid update (hstage ▸ hupdate)
  cases steps_of_step hstep with
  | call pid update stage =>
      refine ⟨h.update fun other hother => ?_, h.versions⟩
      exact hcall pid other (congrArg (Action.call pid) hother)
  | lock pid call stage free => exact ⟨hkeep (by rw [stage]; rfl), h.versions⟩
  | missing pid call stage absent => exact h.parsed (hown stage)
  | examine pid call file stage present => exact ⟨hkeep (by rw [stage]; rfl), h.versions⟩
  | read pid count call file got stage => exact ⟨hkeep (by rw [stage]; rfl), h.versions⟩
  | endOfFile pid call file got stage whole => exact h.parsed (hown stage)
  | create pid write stage => exact ⟨hkeep (by rw [stage]; rfl), h.versions⟩
  | write pid count write file rest stage => exact ⟨hkeep (by rw [stage]; rfl), h.versions⟩
  | sync pid write file stage => exact ⟨hkeep (by rw [stage]; rfl), h.versions⟩
  | rename pid write file volume stage temporary renamed =>
      refine ⟨h.update fun _ hnone => (by cases hnone), fun version hversion other hother => ?_⟩
      rcases List.mem_append.mp hversion with hold | hnew
      · exact h.versions version hold other hother
      · obtain rfl := List.mem_singleton.mp hnew
        obtain rfl := Option.some.inj hother
        exact hown stage _ rfl
  | syncDirectory pid write stage => exact ⟨(h.leave pid).stages, h.versions⟩
  | fail pid => exact h.leave pid
  | losePower kept garbage pending =>
      refine ⟨fun pid _ hnone => (Option.some_ne_none _ hnone.symm).elim, ?_⟩
      intro version hversion
      exact h.versions version (survivors_subset _ _ hversion)

variable {portIndex : List UInt8 → Option Nat} {start leftover : Option (List UInt8)}

theorem uses_init : Uses P (init start leftover) := by
  refine ⟨fun pid _ hnone => (Option.some_ne_none _ hnone.symm).elim, ?_⟩
  intro version hversion write hwrite
  obtain ⟨text, -, rfl⟩ := List.mem_map.mp hversion
  cases hwrite

theorem uses_of_run
    (run : GuardedRun Storage.step (fun _ => ByRequest portIndex) (init start leftover) actions s) :
    Uses (Requested portIndex) s := by
  refine run.invariant (fun s action t h guard hstep => h.step ?_ hstep) uses_init
  rintro pid update rfl
  exact guard

theorem evolves_of_follows {text : List UInt8} {db : ConfigDb} {versions : List Version}
    (hparse : parseConfigDb text = .ok db) (hfollows : Follows text versions)
    (huses : ∀ version ∈ versions, ∀ write, version.write = some write →
      Requested portIndex write.update) : Evolves db versions := by
  induction versions generalizing text db with
  | nil => trivial
  | cons version rest ih =>
      obtain ⟨⟨write, hwrite, hdecided, htext⟩, hrest⟩ := hfollows
      have hrequested := huses version List.mem_cons_self write hwrite
      have hbefore : db = write.before := Except.ok.inj (hparse.symm.trans hdecided.parsed)
      obtain ⟨hvalid, hchanges⟩ := changes_of_requested hrequested
        (hbefore ▸ valid_of_parseConfigDb hparse) hdecided.updated
      have hafter : parseConfigDb version.text = .ok write.after := by
        rw [htext]
        exact parseConfigDb_serializeConfigDb hvalid
      exact ⟨write.after, hafter, hvalid, hbefore ▸ hchanges,
        ih hafter hrest fun other hother => huses other (List.mem_cons_of_mem _ hother)⟩

/-- The last version of an evolution is a valid database. -/
theorem valid_latestText {text : List UInt8} {db : ConfigDb} {versions : List Version}
    (hparse : parseConfigDb text = .ok db) (h : Evolves db versions) :
    ∃ last, parseConfigDb (latestText text versions) = .ok last ∧ Valid last := by
  induction versions generalizing text db with
  | nil => exact ⟨db, hparse, valid_of_parseConfigDb hparse⟩
  | cons version rest ih =>
      obtain ⟨after, hafter, -, -, hrest⟩ := h
      rw [latestText_cons]
      exact ih hafter hrest

end Runs

section Progress

variable {start leftover : Option (List UInt8)} {s t : Store} {pid : Nat} {actions : List Action}

/-- The system calls of one process that succeed. -/
def Own (pid : Nat) : Action → Prop
  | .lock other | .examine other | .read other _ | .endOfFile other | .create other
  | .write other _ | .sync other | .rename other | .syncDirectory other => other = pid
  | _ => False

/-- The process can end its call by itself. -/
def Finishes (s : Store) (pid : Nat) : Prop :=
  ∃ actions t, (∀ action ∈ actions, Own pid action) ∧ Run Storage.step s actions t ∧
    t.stages pid = .idle ∧ t.holder = none

theorem Finishes.of_step {action : Action} (hstep : Storage.step s action = some t)
    (hown : Own pid action) (h : Finishes t pid) : Finishes s pid := by
  obtain ⟨actions, last, hactions, run, hidle, hfree⟩ := h
  refine ⟨action :: actions, last, ?_, .cons trivial hstep run, hidle, hfree⟩
  intro other hother
  rcases List.mem_cons.mp hother with rfl | hother
  · exact hown
  · exact hactions other hother

theorem finishes_leave (h : Inv start s) (hholds : (s.stages pid).holds = true) :
    Finishes (s.leave pid) pid := by
  refine ⟨[], _, fun _ hnil => absurd hnil List.not_mem_nil, .nil _, Function.update_self .., ?_⟩
  change (if s.holder = some pid then none else s.holder) = none
  rw [if_pos ((h.exclusive pid).mp hholds)]

theorem finishes_answer {ticket : Nat} {wrote : Bool} {db : ConfigDb} (h : Inv start s)
    (hholds : (s.stages pid).holds = true) : Finishes (s.answer pid ticket wrote db) pid := by
  refine ⟨[], _, fun _ hnil => absurd hnil List.not_mem_nil, .nil _, Function.update_self .., ?_⟩
  change (if s.holder = some pid then none else s.holder) = none
  rw [if_pos ((h.exclusive pid).mp hholds)]

theorem finishes_flushing {write : Write} (h : Inv start s)
    (hstage : s.stages pid = .flushing write) : Finishes s pid := by
  have hstep : Storage.step s (.syncDirectory pid) = some (Store.answer
      { s with volume := s.volume.syncDirectory, durable := s.versions.length }
      pid write.ticket true write.after) := by
    simp only [Storage.step, hstage]
  refine .of_step hstep rfl ⟨[], _, fun _ hnil => absurd hnil List.not_mem_nil, .nil _,
    Function.update_self .., ?_⟩
  change (if s.holder = some pid then none else s.holder) = none
  rw [if_pos ((h.exclusive pid).mp (by rw [hstage]; rfl))]

theorem finishes_replacing {write : Write} (h : Inv start s)
    (hstage : s.stages pid = .replacing write) : Finishes s pid := by
  have hok := h.stages pid
  rw [hstage] at hok
  obtain ⟨-, file, htemporary, -⟩ := hok
  obtain ⟨volume, hrename⟩ : ∃ volume, s.volume.rename .temporary .database = some volume :=
    ⟨_, congrArg (Option.map _) htemporary⟩
  have hstep : Storage.step s (.rename pid) = some (s.publish pid file write volume) := by
    simp only [Storage.step, hstage, htemporary, hrename]
  exact .of_step hstep rfl (finishes_flushing (h.step hstep) (Function.update_self ..))

theorem finishes_written {write : Write} {file : Nat} (h : Inv start s)
    (hstage : s.stages pid = .writing write file []) : Finishes s pid := by
  have hstep : Storage.step s (.sync pid) =
      some { s.enter pid (.replacing write) with volume := s.volume.sync file } := by
    simp only [Storage.step, hstage]
  exact .of_step hstep rfl (finishes_replacing (h.step hstep) (Function.update_self ..))

theorem finishes_writing {write : Write} {file : Nat} {rest : List UInt8} (h : Inv start s)
    (hstage : s.stages pid = .writing write file rest) : Finishes s pid := by
  cases rest with
  | nil => exact finishes_written h hstage
  | cons byte more =>
      have hstep : Storage.step s (.write pid (byte :: more).length) =
          some { s.enter pid (.writing write file
              ((byte :: more).drop (byte :: more).length)) with
            volume := s.volume.write file ((byte :: more).take (byte :: more).length) } := by
        simp only [Storage.step, hstage]
        exact if_pos ⟨Nat.succ_pos _, le_rfl⟩
      rw [List.drop_length] at hstep
      exact .of_step hstep rfl (finishes_written (h.step hstep) (Function.update_self ..))

theorem finishes_opening {write : Write} (h : Inv start s)
    (hstage : s.stages pid = .opening write) : Finishes s pid := by
  have hstep : Storage.step s (.create pid) =
      some { s.enter pid (.writing write (s.volume.openEmptied .temporary).1
          (serializeConfigDb write.after)) with
        volume := (s.volume.openEmptied .temporary).2 } := by
    simp only [Storage.step, hstage]
  exact .of_step hstep rfl (finishes_writing (h.step hstep) (Function.update_self ..))

theorem finishes_parsed {call : Call} {text : List UInt8} (h : Inv start s)
    (hafter : Inv start (s.parsed pid call text)) (hholds : (s.stages pid).holds = true) :
    Finishes (s.parsed pid call text) pid := by
  unfold Store.parsed at hafter ⊢
  cases hparse : parseConfigDb text with
  | error error => exact finishes_leave h hholds
  | ok db =>
      rw [hparse] at hafter
      dsimp only at hafter ⊢
      cases hcall : call.update with
      | none => exact finishes_answer h hholds
      | some update =>
          rw [hcall] at hafter
          dsimp only at hafter ⊢
          cases hupdate : update db with
          | error error => exact finishes_leave h hholds
          | ok after =>
              rw [hupdate] at hafter
              exact finishes_opening hafter (Function.update_self ..)

theorem finishes_read {call : Call} {file : Nat} {got : List UInt8} (h : Inv start s)
    (hstage : s.stages pid = .reading call file got)
    (hwhole : (s.volume.content file).length ≤ got.length) : Finishes s pid := by
  have hstep : Storage.step s (.endOfFile pid) = some (s.parsed pid call got) := by
    simp only [Storage.step, hstage]
    exact if_pos hwhole
  exact .of_step hstep rfl (finishes_parsed h (h.step hstep) (by rw [hstage]; rfl))

theorem finishes_reading {call : Call} {file : Nat} {got : List UInt8} (h : Inv start s)
    (hstage : s.stages pid = .reading call file got) : Finishes s pid := by
  have hstep : Storage.step s (.read pid (s.volume.content file).length) =
      some (s.enter pid (.reading call file
        (got ++ ((s.volume.content file).drop got.length).take
          (s.volume.content file).length))) := by
    simp only [Storage.step, hstage]
  refine .of_step hstep rfl (finishes_read (h.step hstep) (Function.update_self ..) ?_)
  change (s.volume.content file).length ≤ _
  rw [List.length_append, List.length_take, List.length_drop]
  omega

theorem finishes_examining {call : Call} (h : Inv start s)
    (hstage : s.stages pid = .examining call) : Finishes s pid := by
  cases hentry : s.volume.entries .database with
  | none =>
      have hstep : Storage.step s (.examine pid) = some (s.parsed pid call []) := by
        simp only [Storage.step, hstage, hentry]
      exact .of_step hstep rfl (finishes_parsed h (h.step hstep) (by rw [hstage]; rfl))
  | some file =>
      have hstep : Storage.step s (.examine pid) =
          some (s.enter pid (.reading call file [])) := by
        simp only [Storage.step, hstage, hentry]
      exact .of_step hstep rfl (finishes_reading (h.step hstep) (Function.update_self ..))

theorem finishes_locking {call : Call} (h : Inv start s) (hstage : s.stages pid = .locking call)
    (hfree : s.holder = none) : Finishes s pid := by
  have hstep : Storage.step s (.lock pid) =
      some { s.enter pid (.examining call) with holder := some pid } := by
    simp only [Storage.step, hstage, hfree]
  exact .of_step hstep rfl (finishes_examining (h.step hstep) (Function.update_self ..))

end Progress

section Main

variable {portIndex : List UInt8 → Option Nat} {start leftover : Option (List UInt8)} {s : Store}
  {actions : List Action} {db : ConfigDb}

/-- However attach and detach requests interleave, fail, are killed or lose power, the file
holds a valid database, and its versions change by one controller at a time. -/
theorem requests_keep_database (hstart : parseConfigDb (start.getD []) = .ok db)
    (run : GuardedRun Storage.step (fun _ => ByRequest portIndex) (init start leftover) actions s) :
    (∃ last, parseConfigDb ((s.volume.read? .database).getD []) = .ok last ∧ Valid last) ∧
      ∃ updates, s.versions = initial start ++ updates ∧ Evolves db updates := by
  have hinv := inv_of_run (run.mono fun _ _ _ => trivial)
  obtain ⟨updates, hversions, hfollows⟩ := hinv.history
  have hevolves : Evolves db updates := by
    have huses := uses_of_run run
    refine evolves_of_follows hstart hfollows fun version hversion => huses.versions version ?_
    rw [hversions]
    exact List.mem_append_right _ hversion
  refine ⟨?_, updates, hversions, hevolves⟩
  rw [← hinv.latestText_eq, hversions, latestText_initial]
  exact valid_latestText hstart hevolves

def pairedController : ControllerConfig := ⟨ascii "aa:bb:cc:dd:ee:ff", .ds5, [2]⟩

/-- An attach waits for the lock that a failing attach of the same controller has, and a
detach is killed before its move. -/
def racingRequests : List Action :=
  let attach := attachChange portIndexFromPath pairedController [ascii "/dev/vds2"]
  [.call 1 (some attach), .call 2 (some attach), .lock 1, .examine 1, .create 1, .fail 1, .lock 2,
    .examine 2, .create 2, .write 2 60, .sync 2, .rename 2, .syncDirectory 2,
    .call 3 (some (detachChange pairedController.address)), .lock 3, .examine 3, .read 3 60,
    .endOfFile 3, .create 3, .fail 3]

theorem byRequest_racingRequests :
    ∀ action ∈ racingRequests, ByRequest portIndexFromPath action := by
  have hnormalized : Normalized pairedController.address := by decide +kernel
  have hattach : Requested portIndexFromPath
      (attachChange portIndexFromPath pairedController [ascii "/dev/vds2"]) :=
    .attach _ _ hnormalized
  have hdetach : Requested portIndexFromPath (detachChange pairedController.address) :=
    .detach _ hnormalized
  simp only [racingRequests, List.forall_mem_cons, ByRequest, hattach, hdetach, true_and]
  exact fun _ hnil => absurd hnil List.not_mem_nil

theorem racingRequests_keep_database :
    ∃ s, Run Storage.step (init none none) racingRequests s ∧ s.versions.length = 1 ∧
      ∃ last, parseConfigDb ((s.volume.read? .database).getD []) = .ok last ∧ Valid last := by
  have hexecute : ((execute Storage.step (init none none) racingRequests).any fun s =>
      decide (s.versions.length = 1)) = true := by decide +kernel
  obtain ⟨s, run, hlength⟩ := exists_run_of_execute hexecute
  have hguarded := run.of_forall byRequest_racingRequests
  have hstart : parseConfigDb ((none : Option (List UInt8)).getD []) = .ok ⟨[]⟩ := rfl
  exact ⟨s, run, hlength, (requests_keep_database hstart hguarded).1⟩

/-- Whatever failed before, a call that has the lock, or finds it free, can end by its own
system calls, and then the lock is free. -/
theorem call_can_finish (run : Run Storage.step (init start leftover) actions s) {pid : Nat}
    (hcall : s.stages pid ≠ .idle) (hlock : s.holder = none ∨ s.holder = some pid) :
    Finishes s pid := by
  have h := inv_of_run run
  cases hstage : s.stages pid with
  | idle => exact absurd hstage hcall
  | locking call =>
      rcases hlock with hfree | hown
      · exact finishes_locking h hstage hfree
      · have hholds := (h.exclusive pid).mpr hown
        rw [hstage] at hholds
        cases hholds
  | examining call => exact finishes_examining h hstage
  | reading call file got => exact finishes_reading h hstage
  | opening write => exact finishes_opening h hstage
  | writing write file rest => exact finishes_writing h hstage
  | replacing write => exact finishes_replacing h hstage
  | flushing write => exact finishes_flushing h hstage

theorem racingRequests_can_finish :
    ∃ s, Run Storage.step (init none none) (racingRequests.take 7) s ∧ Finishes s 2 := by
  have hexecute : ((execute Storage.step (init none none) (racingRequests.take 7)).any fun s =>
      decide ((s.stages 2).holds = true ∧ s.holder = some 2)) = true := by decide +kernel
  obtain ⟨s, run, hholds, hholder⟩ := exists_run_of_execute hexecute
  refine ⟨s, run, call_can_finish run (fun hidle => ?_) (.inr hholder)⟩
  rw [hidle] at hholds
  cases hholds

end Main

end VirtualDualSense.Config.StorageRequests
