import VirtualDualSense.Config.Control
import VirtualDualSense.Lib.Replacements
import VirtualDualSense.Lib.Runs

/-!
# The stored database

Any number of processes load and update the database in one file. A call locks the
directory, reads the whole file, and an update replaces the file through a temporary one
before it releases the lock. A system call of a process can fail, a process can be killed
between any two of them, and the machine can lose power.

## Implementation notes

A call that fails and a process that is killed look the same to the others: its lock goes
and its temporary file stays. A ticket tells the calls apart. The versions of the file and
the number of them that have reached the medium are recorded for the statements; no
process reads them.
-/

namespace VirtualDualSense.Config.Storage

open Lib.Directories Lib.Replacements Controllers Database Control

section Processes

/-- The file at `db_path` and the one beside it at `tmp_path`. -/
inductive FileName
  | database
  | temporary
  deriving DecidableEq

/-- A call of `load_config_db`, or of `update_config_db` with its update. -/
structure Call where
  ticket : Nat
  update : Option (ConfigDb → Except ControlError ConfigDb)

/-- An update that is about to store `after` over `before`. -/
structure Write where
  ticket : Nat
  update : ConfigDb → Except ControlError ConfigDb
  before : ConfigDb
  after : ConfigDb

/-- What a process does next. -/
inductive Stage
  | idle
  /-- `lock_file` -/
  | locking (call : Call)
  /-- `read_file_if_exists` looks for the file. -/
  | examining (call : Call)
  | reading (call : Call) (file : Nat) (got : List UInt8)
  /-- `write_file_atomic` opens the temporary file. -/
  | opening (write : Write)
  | writing (write : Write) (file : Nat) (rest : List UInt8)
  | replacing (write : Write)
  /-- The directory is synchronised. -/
  | flushing (write : Write)

/-- The process has the lock on the directory. -/
def Stage.holds : Stage → Bool
  | .idle | .locking _ => false
  | _ => true

/-- A version of the file and the update that stored it. -/
structure Version where
  file : Nat
  text : List UInt8
  write : Option Write

/-- What a call that returned told its caller. -/
structure Answer where
  ticket : Nat
  wrote : Bool
  db : ConfigDb
  seen : Option (List UInt8)

structure Store where
  volume : Volume FileName UInt8
  stages : Nat → Stage
  holder : Option Nat
  tickets : Nat
  answers : List Answer
  versions : List Version
  durable : Nat

end Processes

section Steps

def Store.enter (s : Store) (pid : Nat) (stage : Stage) : Store :=
  { s with stages := Function.update s.stages pid stage }

/-- The call of a process ends, and its lock with it. -/
def Store.leave (s : Store) (pid : Nat) : Store :=
  { s with
    stages := Function.update s.stages pid .idle
    holder := if s.holder = some pid then none else s.holder }

/-- A call returns to its caller. -/
def Store.answer (s : Store) (pid ticket : Nat) (wrote : Bool) (db : ConfigDb) : Store :=
  { s.leave pid with
    answers := s.answers ++ [⟨ticket, wrote, db, s.volume.read? .database⟩] }

/-- The call goes on with the text of the file. -/
def Store.parsed (s : Store) (pid : Nat) (call : Call) (text : List UInt8) : Store :=
  match parseConfigDb text with
  | .error _ => s.leave pid
  | .ok db =>
      match call.update with
      | none => s.answer pid call.ticket false db
      | some update =>
          match update db with
          | .error _ => s.leave pid
          | .ok after => s.enter pid (.opening ⟨call.ticket, update, db, after⟩)

/-- The temporary file becomes the database, as one more version of it. -/
def Store.publish (s : Store) (pid file : Nat) (write : Write)
    (volume : Volume FileName UInt8) : Store :=
  { s.enter pid (.flushing write) with
    volume := volume
    versions := s.versions ++ [⟨file, serializeConfigDb write.after, some write⟩] }

/-- The system calls of the processes, and what can happen to them. -/
inductive Action
  | call (pid : Nat) (update : Option (ConfigDb → Except ControlError ConfigDb))
  | lock (pid : Nat)
  | examine (pid : Nat)
  | read (pid count : Nat)
  | endOfFile (pid : Nat)
  | create (pid : Nat)
  | write (pid count : Nat)
  | sync (pid : Nat)
  | rename (pid : Nat)
  | syncDirectory (pid : Nat)
  /-- A system call fails, or the process is killed. -/
  | fail (pid : Nat)
  | losePower (kept : List (Change FileName)) (garbage : Nat → List UInt8)

/-- The processes are gone and the volume is what the medium has. -/
def Store.losePower (s : Store) (kept : List (Change FileName))
    (garbage : Nat → List UInt8) : Store :=
  let versions := survivors Version.file .database s.versions (applyAll s.volume.stored kept)
  { volume := s.volume.losePower kept garbage
    stages := fun _ => .idle
    holder := none
    tickets := s.tickets
    answers := s.answers
    versions, durable := versions.length }

def step (s : Store) : Action → Option Store
  | .call pid update =>
      match s.stages pid with
      | .idle =>
          some { s.enter pid (.locking ⟨s.tickets, update⟩) with tickets := s.tickets + 1 }
      | _ => none
  | .lock pid =>
      match s.stages pid, s.holder with
      | .locking call, none => some { s.enter pid (.examining call) with holder := some pid }
      | _, _ => none
  | .examine pid =>
      match s.stages pid with
      | .examining call =>
          match s.volume.entries .database with
          | none => some (s.parsed pid call [])
          | some file => some (s.enter pid (.reading call file []))
      | _ => none
  | .read pid count =>
      match s.stages pid with
      | .reading call file got =>
          let bytes := ((s.volume.content file).drop got.length).take count
          some (s.enter pid (.reading call file (got ++ bytes)))
      | _ => none
  | .endOfFile pid =>
      match s.stages pid with
      | .reading call file got =>
          if (s.volume.content file).length ≤ got.length then some (s.parsed pid call got) else none
      | _ => none
  | .create pid =>
      match s.stages pid with
      | .opening write =>
          let opened := s.volume.openEmptied .temporary
          some { s.enter pid (.writing write opened.1 (serializeConfigDb write.after)) with
            volume := opened.2 }
      | _ => none
  | .write pid count =>
      match s.stages pid with
      | .writing write file rest =>
          if 0 < count ∧ count ≤ rest.length then
            some { s.enter pid (.writing write file (rest.drop count)) with
              volume := s.volume.write file (rest.take count) }
          else none
      | _ => none
  | .sync pid =>
      match s.stages pid with
      | .writing write file [] =>
          some { s.enter pid (.replacing write) with volume := s.volume.sync file }
      | _ => none
  | .rename pid =>
      match s.stages pid, s.volume.entries .temporary, s.volume.rename .temporary .database with
      | .replacing write, some file, some volume => some (s.publish pid file write volume)
      | _, _, _ => none
  | .syncDirectory pid =>
      match s.stages pid with
      | .flushing write =>
          let s := { s with volume := s.volume.syncDirectory, durable := s.versions.length }
          some (s.answer pid write.ticket true write.after)
      | _ => none
  | .fail pid => some (s.leave pid)
  | .losePower kept garbage =>
      if kept.Sublist s.volume.pending then some (s.losePower kept garbage) else none

/-- The version that a file had when the first process started. -/
def initial (start : Option (List UInt8)) : List Version :=
  start.toList.map fun text => ⟨0, text, none⟩

/-- No process runs; a temporary file may be left over. -/
def init (start leftover : Option (List UInt8)) : Store where
  volume := .ofEntries
    (fun
      | .database => start.map fun _ => 0
      | .temporary => leftover.map fun _ => 1)
    (fun file => if file = 0 then start.getD [] else leftover.getD []) 2
  stages _ := .idle
  holder := none
  tickets := 0
  answers := []
  versions := initial start
  durable := (initial start).length

end Steps

section Inversion

/-- What a step can do, by the stage of its process. -/
inductive Steps (s : Store) : Action → Store → Prop
  | call (pid : Nat) (update : Option (ConfigDb → Except ControlError ConfigDb))
      (stage : s.stages pid = .idle) :
      Steps s (.call pid update)
        { s.enter pid (.locking ⟨s.tickets, update⟩) with tickets := s.tickets + 1 }
  | lock (pid : Nat) (call : Call) (stage : s.stages pid = .locking call)
      (free : s.holder = none) :
      Steps s (.lock pid) { s.enter pid (.examining call) with holder := some pid }
  | missing (pid : Nat) (call : Call) (stage : s.stages pid = .examining call)
      (absent : s.volume.entries .database = none) : Steps s (.examine pid) (s.parsed pid call [])
  | examine (pid : Nat) (call : Call) (file : Nat) (stage : s.stages pid = .examining call)
      (present : s.volume.entries .database = some file) :
      Steps s (.examine pid) (s.enter pid (.reading call file []))
  | read (pid count : Nat) (call : Call) (file : Nat) (got : List UInt8)
      (stage : s.stages pid = .reading call file got) :
      Steps s (.read pid count) (s.enter pid (.reading call file
        (got ++ ((s.volume.content file).drop got.length).take count)))
  | endOfFile (pid : Nat) (call : Call) (file : Nat) (got : List UInt8)
      (stage : s.stages pid = .reading call file got)
      (whole : (s.volume.content file).length ≤ got.length) :
      Steps s (.endOfFile pid) (s.parsed pid call got)
  | create (pid : Nat) (write : Write) (stage : s.stages pid = .opening write) :
      Steps s (.create pid)
        { s.enter pid (.writing write (s.volume.openEmptied .temporary).1
            (serializeConfigDb write.after)) with
          volume := (s.volume.openEmptied .temporary).2 }
  | write (pid count : Nat) (write : Write) (file : Nat) (rest : List UInt8)
      (stage : s.stages pid = .writing write file rest) :
      Steps s (.write pid count)
        { s.enter pid (.writing write file (rest.drop count)) with
          volume := s.volume.write file (rest.take count) }
  | sync (pid : Nat) (write : Write) (file : Nat) (stage : s.stages pid = .writing write file []) :
      Steps s (.sync pid) { s.enter pid (.replacing write) with volume := s.volume.sync file }
  | rename (pid : Nat) (write : Write) (file : Nat) (volume : Volume FileName UInt8)
      (stage : s.stages pid = .replacing write)
      (temporary : s.volume.entries .temporary = some file)
      (renamed : s.volume.rename .temporary .database = some volume) :
      Steps s (.rename pid) (s.publish pid file write volume)
  | syncDirectory (pid : Nat) (write : Write) (stage : s.stages pid = .flushing write) :
      Steps s (.syncDirectory pid)
        (Store.answer { s with volume := s.volume.syncDirectory, durable := s.versions.length }
          pid write.ticket true write.after)
  | fail (pid : Nat) : Steps s (.fail pid) (s.leave pid)
  | losePower (kept : List (Change FileName)) (garbage : Nat → List UInt8)
      (pending : kept.Sublist s.volume.pending) :
      Steps s (.losePower kept garbage) (s.losePower kept garbage)

variable {s t : Store} {action : Action}

theorem steps_of_step (h : step s action = some t) : Steps s action t := by
  cases action with
  | call pid update =>
      simp only [step] at h
      split at h
      · rename_i stage
        obtain rfl := Option.some.inj h
        exact .call pid update stage
      · cases h
  | lock pid =>
      simp only [step] at h
      split at h
      · rename_i call stage free
        obtain rfl := Option.some.inj h
        exact .lock pid call stage free
      · cases h
  | examine pid =>
      simp only [step] at h
      split at h
      · rename_i call stage
        split at h
        · rename_i absent
          obtain rfl := Option.some.inj h
          exact .missing pid call stage absent
        · rename_i file present
          obtain rfl := Option.some.inj h
          exact .examine pid call file stage present
      · cases h
  | read pid count =>
      simp only [step] at h
      split at h
      · rename_i call file got stage
        obtain rfl := Option.some.inj h
        exact .read pid count call file got stage
      · cases h
  | endOfFile pid =>
      simp only [step] at h
      split at h
      · rename_i call file got stage
        obtain ⟨whole, hsome⟩ := Option.ite_none_right_eq_some.mp h
        obtain rfl := Option.some.inj hsome
        exact .endOfFile pid call file got stage whole
      · cases h
  | create pid =>
      simp only [step] at h
      split at h
      · rename_i write stage
        obtain rfl := Option.some.inj h
        exact .create pid write stage
      · cases h
  | write pid count =>
      simp only [step] at h
      split at h
      · rename_i write file rest stage
        obtain ⟨-, hsome⟩ := Option.ite_none_right_eq_some.mp h
        obtain rfl := Option.some.inj hsome
        exact .write pid count write file rest stage
      · cases h
  | sync pid =>
      simp only [step] at h
      split at h
      · rename_i write file stage
        obtain rfl := Option.some.inj h
        exact .sync pid write file stage
      · cases h
  | rename pid =>
      simp only [step] at h
      split at h
      · rename_i write file volume stage temporary renamed
        obtain rfl := Option.some.inj h
        exact .rename pid write file volume stage temporary renamed
      · cases h
  | syncDirectory pid =>
      simp only [step] at h
      split at h
      · rename_i write stage
        obtain rfl := Option.some.inj h
        exact .syncDirectory pid write stage
      · cases h
  | fail pid =>
      obtain rfl := Option.some.inj h
      exact .fail pid
  | losePower kept garbage =>
      obtain ⟨pending, hsome⟩ := Option.ite_none_right_eq_some.mp h
      obtain rfl := Option.some.inj hsome
      exact .losePower kept garbage pending

end Inversion

end VirtualDualSense.Config.Storage
