import VirtualDualSense.Config.Storage

/-!
# The stored database is linearisable and durable

Whatever processes load and update the database, and wherever their system calls fail,
they are killed or the machine loses power, the file is one version after another, each
stored by one update of the version before it. A power failure drops only versions whose
update did not return.
-/

namespace VirtualDualSense.Config.StorageRuns

open Lib.Directories Lib.Replacements Lib.Runs Controllers Database Control Storage

section Statements

/-- The text of the last version. -/
def latestText (text : List UInt8) (versions : List Version) : List UInt8 :=
  (versions.getLast?.map Version.text).getD text

/-- The update of a database with this text. -/
structure Decided (text : List UInt8) (write : Write) : Prop where
  parsed : parseConfigDb text = .ok write.before
  updated : write.update write.before = .ok write.after

/-- An update of a database with this text stored a version. -/
def Stored (text : List UInt8) (version : Version) : Prop :=
  ∃ write, version.write = some write ∧ Decided text write ∧
    version.text = serializeConfigDb write.after

/-- Each version was stored by an update of the one before it. -/
def Follows : List UInt8 → List Version → Prop
  | _, [] => True
  | text, version :: rest => Stored text version ∧ Follows version.text rest

def History (start : Option (List UInt8)) (versions : List Version) : Prop :=
  ∃ updates, versions = initial start ++ updates ∧ Follows (start.getD []) updates

/-- The calls whose updates are in the history. -/
def storedTickets (versions : List Version) : List Nat :=
  versions.filterMap fun version => version.write.map Write.ticket

/-- A load returned what the file said, and an update that returned is on the medium. -/
structure Answered (versions : List Version) (durable : Nat) (answer : Answer) : Prop where
  load : answer.wrote = false → parseConfigDb (answer.seen.getD []) = .ok answer.db
  update : answer.wrote = true → answer.seen = some (serializeConfigDb answer.db) ∧
    ∃ version ∈ versions.take durable, ∃ write, version.write = some write ∧
      write.ticket = answer.ticket ∧ write.after = answer.db

structure Linearized (start : Option (List UInt8)) (s : Store) : Prop where
  history : History start s.versions
  once : (storedTickets s.versions).Nodup
  visible : s.volume.read? .database = s.versions.getLast?.map Version.text
  answered : ∀ answer ∈ s.answers, Answered s.versions s.durable answer

end Statements

section Histories

variable {start : Option (List UInt8)} {text : List UInt8} {versions : List Version}
  {version : Version}

@[simp] theorem latestText_concat (text : List UInt8) (versions : List Version)
    (version : Version) : latestText text (versions ++ [version]) = version.text := by
  simp [latestText]

theorem latestText_cons (text : List UInt8) (version : Version) (versions : List Version) :
    latestText text (version :: versions) = latestText version.text versions := by
  cases versions using List.reverseRecOn with
  | nil => rfl
  | append_singleton rest last =>
      rw [← List.cons_append, latestText_concat, latestText_concat]

theorem latestText_initial (start : Option (List UInt8)) (updates : List Version) :
    latestText [] (initial start ++ updates) = latestText (start.getD []) updates := by
  cases start with
  | none => rfl
  | some text => exact latestText_cons [] _ updates

theorem follows_concat (h : Follows text versions)
    (hstored : Stored (latestText text versions) version) :
    Follows text (versions ++ [version]) := by
  induction versions generalizing text with
  | nil => exact ⟨hstored, trivial⟩
  | cons first rest ih =>
      rw [latestText_cons] at hstored
      exact ⟨h.1, ih h.2 hstored⟩

theorem follows_take (h : Follows text versions) (count : Nat) :
    Follows text (versions.take count) := by
  induction versions generalizing text count with
  | nil => rwa [List.take_nil]
  | cons first rest ih =>
      cases count with
      | zero => trivial
      | succ count => exact ⟨h.1, ih h.2 count⟩

theorem History.concat (h : History start versions)
    (hstored : Stored (latestText [] versions) version) :
    History start (versions ++ [version]) := by
  obtain ⟨updates, rfl, hfollows⟩ := h
  rw [latestText_initial] at hstored
  exact ⟨updates ++ [version], List.append_assoc .., follows_concat hfollows hstored⟩

/-- A power failure leaves a history. -/
theorem History.of_isPrefix {kept : List Version} (h : History start versions)
    (hkept : kept <+: versions) (hlength : (initial start).length ≤ kept.length) :
    History start kept := by
  obtain ⟨updates, rfl, hfollows⟩ := h
  refine ⟨updates.take (kept.length - (initial start).length), ?_, follows_take hfollows _⟩
  conv_lhs => rw [List.prefix_iff_eq_take.mp hkept, List.take_append,
    List.take_of_length_le hlength]

end Histories

section Invariants

/-- The call of a process that has stored nothing yet. -/
def ticket? : Stage → Option Nat
  | .idle | .flushing _ => none
  | .locking call | .examining call | .reading call _ _ => some call.ticket
  | .opening write | .writing write _ _ | .replacing write => some write.ticket

/-- What a process knows of the files. -/
def StageOk (volume : Volume FileName UInt8) (versions : List Version) : Stage → Prop
  | .idle | .locking _ | .examining _ => True
  | .reading _ file got => volume.entries .database = some file ∧ got <+: volume.content file
  | .opening write => Decided (latestText [] versions) write
  | .writing write file rest =>
      Decided (latestText [] versions) write ∧ volume.entries .temporary = some file ∧
        volume.content file ++ rest = serializeConfigDb write.after
  | .replacing write =>
      Decided (latestText [] versions) write ∧ ∃ file, volume.entries .temporary = some file ∧
        volume.synced file = true ∧ volume.content file = serializeConfigDb write.after
  | .flushing write =>
      latestText [] versions = serializeConfigDb write.after ∧
        ∃ version ∈ versions, version.write = some write

structure Tickets (s : Store) : Prop where
  old : ∀ pid ticket, ticket? (s.stages pid) = some ticket → ticket < s.tickets
  different : ∀ pid other ticket, ticket? (s.stages pid) = some ticket →
    ticket? (s.stages other) = some ticket → pid = other
  apart : ∀ pid ticket, ticket? (s.stages pid) = some ticket → ticket ∉ storedTickets s.versions
  stored : ∀ ticket ∈ storedTickets s.versions, ticket < s.tickets
  once : (storedTickets s.versions).Nodup

/-- The process that has the lock is the only one beyond it. -/
def Exclusive (s : Store) : Prop := ∀ pid, (s.stages pid).holds = true ↔ s.holder = some pid

structure Inv (start : Option (List UInt8)) (s : Store) : Prop where
  replaced : Replaced Version.file Version.text .database .temporary s.versions s.durable s.volume
  exclusive : Exclusive s
  stages : ∀ pid, StageOk s.volume s.versions (s.stages pid)
  history : History start s.versions
  base : (initial start).length ≤ s.durable
  tickets : Tickets s
  answered : ∀ answer ∈ s.answers, Answered s.versions s.durable answer

end Invariants

section Frames

variable {start : Option (List UInt8)} {s : Store} {pid : Nat} {stage : Stage}
  {volume : Volume FileName UInt8} {versions : List Version} {durable : Nat} {reply : Answer}

theorem stageOk_of_not_holds (h : stage.holds = false) : StageOk volume versions stage := by
  cases stage with
  | idle => trivial
  | locking call => trivial
  | examining call => cases h
  | reading call file got => cases h
  | opening write => cases h
  | writing write file rest => cases h
  | replacing write => cases h
  | flushing write => cases h

theorem Exclusive.eq_of_holds (h : Exclusive s) {other : Nat} (hpid : (s.stages pid).holds = true)
    (hother : (s.stages other).holds = true) : other = pid :=
  Option.some.inj (((h other).mp hother).symm.trans ((h pid).mp hpid))

/-- The holder of the lock takes a step under it; nothing is known of the other stages. -/
theorem Exclusive.stages (h : Exclusive s) (hpid : (s.stages pid).holds = true)
    (hstage : StageOk volume versions stage) (other : Nat) :
    StageOk volume versions (Function.update s.stages pid stage other) := by
  by_cases heq : other = pid
  · subst heq
    rwa [Function.update_self]
  · rw [Function.update_of_ne heq]
    refine stageOk_of_not_holds (Bool.eq_false_iff.mpr fun hother => heq ?_)
    exact h.eq_of_holds hpid hother

theorem Exclusive.enter (h : Exclusive s) (hpid : (s.stages pid).holds = stage.holds) :
    Exclusive (s.enter pid stage) := by
  intro other
  change (Function.update s.stages pid stage other).holds = true ↔ s.holder = some other
  by_cases heq : other = pid
  · subst heq
    rw [Function.update_self, ← hpid]
    exact h other
  · rw [Function.update_of_ne heq]
    exact h other

theorem Exclusive.leave (h : Exclusive s) (pid : Nat) : Exclusive (s.leave pid) := by
  intro other
  change (Function.update s.stages pid .idle other).holds = true ↔
    (if s.holder = some pid then none else s.holder) = some other
  by_cases heq : other = pid
  · subst heq
    rw [Function.update_self]
    refine ⟨fun hidle => absurd hidle Bool.false_ne_true, fun hholder => ?_⟩
    split at hholder
    · cases hholder
    · contradiction
  · rw [Function.update_of_ne heq, h other]
    split
    · rename_i hholder
      rw [hholder]
      exact ⟨fun hsome => absurd (Option.some.inj hsome).symm heq, fun hnone => by cases hnone⟩
    · rfl

/-- A process goes on with its call or ends it. -/
theorem Tickets.update (h : Tickets s) (pid : Nat) (stage : Stage)
    (hstage : ticket? stage = none ∨ ticket? stage = ticket? (s.stages pid)) :
    Tickets (s.enter pid stage) := by
  have hold : ∀ other ticket, ticket? (Function.update s.stages pid stage other) = some ticket →
      ticket? (s.stages other) = some ticket := by
    intro other ticket hticket
    by_cases heq : other = pid
    · subst heq
      rw [Function.update_self] at hticket
      rcases hstage with hnone | hsame
      · rw [hnone] at hticket
        cases hticket
      · rwa [← hsame]
    · rwa [Function.update_of_ne heq] at hticket
  constructor
  · intro other ticket hticket
    exact h.old other ticket (hold other ticket hticket)
  · intro first second ticket hfirst hsecond
    exact h.different first second ticket (hold first ticket hfirst) (hold second ticket hsecond)
  · intro other ticket hticket
    exact h.apart other ticket (hold other ticket hticket)
  · exact h.stored
  · exact h.once

/-- What was answered stays true as versions reach the medium. -/
theorem Answered.mono {versions' : List Version} {durable' : Nat}
    (h : Answered versions durable reply)
    (hsubset : versions.take durable ⊆ versions'.take durable') :
    Answered versions' durable' reply := by
  refine ⟨h.load, fun hwrote => ?_⟩
  obtain ⟨hseen, version, hversion, hwrite⟩ := h.update hwrote
  exact ⟨hseen, version, hsubset hversion, hwrite⟩

theorem Inv.read (h : Inv start s) :
    s.volume.read? .database = s.versions.getLast?.map Version.text :=
  h.replaced.read?_target

theorem Inv.latestText_eq (h : Inv start s) :
    latestText [] s.versions = (s.volume.read? .database).getD [] := by
  rw [h.read, latestText]

/-- A stage under the lock that leaves the files alone. -/
theorem Inv.enter (h : Inv start s) (hholds : (s.stages pid).holds = true)
    (hstage : stage.holds = true) (hok : StageOk s.volume s.versions stage)
    (hticket : ticket? stage = ticket? (s.stages pid)) : Inv start (s.enter pid stage) where
  replaced := h.replaced
  exclusive := h.exclusive.enter (hholds.trans hstage.symm)
  stages := h.exclusive.stages hholds hok
  history := h.history
  base := h.base
  tickets := h.tickets.update pid stage (.inr hticket)
  answered := h.answered

theorem Inv.leave (h : Inv start s) (pid : Nat) : Inv start (s.leave pid) where
  replaced := h.replaced
  exclusive := h.exclusive.leave pid
  stages other := by
    change StageOk s.volume s.versions (Function.update s.stages pid .idle other)
    by_cases heq : other = pid
    · subst heq
      rw [Function.update_self]
      trivial
    · rw [Function.update_of_ne heq]
      exact h.stages other
  history := h.history
  base := h.base
  tickets :=
    let entered := h.tickets.update pid .idle (.inl rfl)
    ⟨entered.old, entered.different, entered.apart, entered.stored, entered.once⟩
  answered := h.answered

theorem Inv.answer {ticket : Nat} {wrote : Bool} {db : ConfigDb} (h : Inv start s)
    (hanswer : Answered s.versions s.durable ⟨ticket, wrote, db, s.volume.read? .database⟩) :
    Inv start (s.answer pid ticket wrote db) :=
  let left := h.leave pid
  { replaced := left.replaced
    exclusive := left.exclusive
    stages := left.stages
    history := left.history
    base := left.base
    tickets := ⟨left.tickets.old, left.tickets.different, left.tickets.apart,
      left.tickets.stored, left.tickets.once⟩
    answered := fun answer hmem => by
      rcases List.mem_append.mp hmem with hmem | hmem
      · exact h.answered answer hmem
      · exact List.mem_singleton.mp hmem ▸ hanswer }

/-- The text that a call read is the one it goes on with. -/
theorem Inv.parsed {call : Call} {text : List UInt8} (h : Inv start s)
    (hholds : (s.stages pid).holds = true) (hticket : ticket? (s.stages pid) = some call.ticket)
    (htext : text = (s.volume.read? .database).getD []) :
    Inv start (s.parsed pid call text) := by
  unfold Store.parsed
  cases hparse : parseConfigDb text with
  | error error => exact h.leave pid
  | ok db =>
      dsimp only
      cases hcall : call.update with
      | none =>
          refine h.answer ⟨fun _ => ?_, fun hwrote => absurd hwrote Bool.false_ne_true⟩
          rw [← htext]
          exact hparse
      | some update =>
          dsimp only
          cases hupdate : update db with
          | error error => exact h.leave pid
          | ok after =>
              refine h.enter hholds rfl ⟨?_, hupdate⟩ hticket.symm
              rw [h.latestText_eq, ← htext]
              exact hparse

end Frames

section Steps

variable {start leftover : Option (List UInt8)} {s t : Store} {pid : Nat}
  {actions : List Action}

theorem replaced_init (start leftover : Option (List UInt8)) :
    Replaced Version.file Version.text .database .temporary (initial start)
      (initial start).length (init start leftover).volume := by
  have hentries : ∀ entries, (init start leftover).volume.Outcome entries →
      entries = (init start leftover).volume.entries := fun entries houtcome =>
    Volume.eq_of_outcome_nil rfl houtcome
  have hmem : ∀ version ∈ initial start, start = some version.text ∧ version.file = 0 := by
    intro version hversion
    obtain ⟨text, htext, rfl⟩ := List.mem_map.mp hversion
    exact ⟨Option.mem_toList.mp htext, rfl⟩
  have hspare : ∀ version ∈ initial start,
      (init start leftover).volume.entries .temporary ≠ some version.file := by
    intro version hversion hfile
    rw [(hmem version hversion).2] at hfile
    obtain ⟨_, _, hone⟩ := Option.map_eq_some_iff.mp hfile
    cases hone
  have hcurrent : (init start leftover).volume.entries .database =
      (initial start).getLast?.map Version.file := by
    cases start with
    | none => rfl
    | some text => rfl
  constructor
  · rfl
  · intro entries houtcome name number hnumber
    obtain rfl := hentries entries houtcome
    cases name with
    | database =>
        obtain ⟨_, _, rfl⟩ := Option.map_eq_some_iff.mp hnumber
        exact Nat.zero_lt_two
    | temporary =>
        obtain ⟨_, _, rfl⟩ := Option.map_eq_some_iff.mp hnumber
        exact Nat.one_lt_two
  · intro version hversion
    rw [(hmem version hversion).2]
    exact Nat.zero_lt_two
  · intro _ _
    rfl
  · intro version hversion
    obtain ⟨rfl, hfile⟩ := hmem version hversion
    rw [hfile]
    rfl
  · exact hcurrent
  · exact hspare
  · intro entries houtcome
    obtain rfl := hentries entries houtcome
    exact explained_of_latest le_rfl hcurrent hspare

theorem storedTickets_initial (start : Option (List UInt8)) :
    storedTickets (initial start) = [] := by
  cases start with
  | none => rfl
  | some text => rfl

theorem inv_init (start leftover : Option (List UInt8)) : Inv start (init start leftover) where
  replaced := replaced_init start leftover
  exclusive pid := ⟨fun hidle => absurd hidle Bool.false_ne_true, fun hnone => by cases hnone⟩
  stages _ := trivial
  history := ⟨[], (List.append_nil _).symm, trivial⟩
  base := le_rfl
  tickets := {
    old := fun _ _ hnone => by cases hnone
    different := fun _ _ _ hnone => by cases hnone
    apart := fun _ _ hnone => by cases hnone
    stored := fun ticket hticket => by
      rw [show storedTickets (init start leftover).versions = [] from
        storedTickets_initial start] at hticket
      cases hticket
    once := by
      rw [show storedTickets (init start leftover).versions = [] from
        storedTickets_initial start]
      exact List.nodup_nil }
  answered _ hmem := by cases hmem

/-- A call begins with a ticket of its own. -/
theorem Inv.call {update : Option (ConfigDb → Except ControlError ConfigDb)}
    (h : Inv start s) (hstage : s.stages pid = .idle) :
    Inv start { s.enter pid (.locking ⟨s.tickets, update⟩) with tickets := s.tickets + 1 } := by
  have hnew : ∀ other ticket,
      ticket? (Function.update s.stages pid (.locking ⟨s.tickets, update⟩) other) = some ticket →
        (other = pid ∧ ticket = s.tickets) ∨ ticket? (s.stages other) = some ticket := by
    intro other ticket hticket
    by_cases heq : other = pid
    · subst heq
      rw [Function.update_self] at hticket
      exact .inl ⟨rfl, (Option.some.inj hticket).symm⟩
    · rw [Function.update_of_ne heq] at hticket
      exact .inr hticket
  constructor
  · exact h.replaced
  · exact h.exclusive.enter (by rw [hstage]; rfl)
  · intro other
    change StageOk s.volume s.versions (Function.update s.stages pid _ other)
    by_cases heq : other = pid
    · subst heq
      rw [Function.update_self]
      trivial
    · rw [Function.update_of_ne heq]
      exact h.stages other
  · exact h.history
  · exact h.base
  · constructor
    · intro other ticket hticket
      rcases hnew other ticket hticket with ⟨rfl, rfl⟩ | hold
      · exact Nat.lt_succ_self _
      · exact Nat.lt_succ_of_lt (h.tickets.old other ticket hold)
    · intro first second ticket hfirst hsecond
      rcases hnew first ticket hfirst with ⟨rfl, rfl⟩ | hfirstOld
      · rcases hnew second _ hsecond with ⟨rfl, -⟩ | hsecondOld
        · rfl
        · exact absurd (h.tickets.old second _ hsecondOld) (lt_irrefl _)
      · rcases hnew second ticket hsecond with ⟨rfl, rfl⟩ | hsecondOld
        · exact absurd (h.tickets.old first _ hfirstOld) (lt_irrefl _)
        · exact h.tickets.different first second ticket hfirstOld hsecondOld
    · intro other ticket hticket hstored
      rcases hnew other ticket hticket with ⟨-, rfl⟩ | hold
      · exact absurd (h.tickets.stored _ hstored) (lt_irrefl _)
      · exact h.tickets.apart other ticket hold hstored
    · intro ticket hticket
      exact Nat.lt_succ_of_lt (h.tickets.stored ticket hticket)
    · exact h.tickets.once
  · exact h.answered

theorem Inv.lock {call : Call} (h : Inv start s) (hstage : s.stages pid = .locking call)
    (hfree : s.holder = none) :
    Inv start { s.enter pid (.examining call) with holder := some pid } where
  replaced := h.replaced
  exclusive other := by
    change (Function.update s.stages pid _ other).holds = true ↔ some pid = some other
    by_cases heq : other = pid
    · subst heq
      rw [Function.update_self]
      exact ⟨fun _ => rfl, fun _ => rfl⟩
    · rw [Function.update_of_ne heq, h.exclusive other, hfree]
      exact ⟨fun hnone => (Option.some_ne_none _ hnone.symm).elim,
        fun hsome => absurd (Option.some.inj hsome).symm heq⟩
  stages other := by
    change StageOk s.volume s.versions (Function.update s.stages pid _ other)
    by_cases heq : other = pid
    · subst heq
      rw [Function.update_self]
      trivial
    · rw [Function.update_of_ne heq]
      exact h.stages other
  history := h.history
  base := h.base
  tickets :=
    let entered := h.tickets.update pid (.examining call) (.inr (by rw [hstage]; rfl))
    ⟨entered.old, entered.different, entered.apart, entered.stored, entered.once⟩
  answered := h.answered

/-- The holder of the lock works on the temporary file. -/
theorem Inv.write {stage : Stage} {volume : Volume FileName UInt8} (h : Inv start s)
    (hholds : (s.stages pid).holds = true)
    (hreplaced : Replaced Version.file Version.text .database .temporary s.versions s.durable
      volume)
    (hstage : stage.holds = true) (hok : StageOk volume s.versions stage)
    (hticket : ticket? stage = ticket? (s.stages pid)) :
    Inv start { s.enter pid stage with volume := volume } where
  replaced := hreplaced
  exclusive := h.exclusive.enter (hholds.trans hstage.symm)
  stages := h.exclusive.stages hholds hok
  history := h.history
  base := h.base
  tickets :=
    let entered := h.tickets.update pid stage (.inr hticket)
    ⟨entered.old, entered.different, entered.apart, entered.stored, entered.once⟩
  answered := h.answered

theorem storedTickets_concat (versions : List Version) (file : Nat) (text : List UInt8)
    (write : Write) :
    storedTickets (versions ++ [⟨file, text, some write⟩]) =
      storedTickets versions ++ [write.ticket] := by
  simp [storedTickets]

/-- The ticket of an update goes from its process to the history. -/
theorem Tickets.publish {write : Write} {file : Nat} {volume : Volume FileName UInt8}
    (h : Tickets s) (hstage : s.stages pid = .replacing write) :
    Tickets (s.publish pid file write volume) := by
  have hticket : ticket? (s.stages pid) = some write.ticket := by rw [hstage]; rfl
  have hupdate := h.update pid (.flushing write) (.inl rfl)
  have hversions : storedTickets (s.publish pid file write volume).versions =
      storedTickets s.versions ++ [write.ticket] := storedTickets_concat ..
  constructor
  · exact hupdate.old
  · exact hupdate.different
  · intro other ticket hother
    rw [hversions, List.mem_append, List.mem_singleton]
    rintro (hstored | rfl)
    · exact hupdate.apart other ticket hother hstored
    · change ticket? (Function.update s.stages pid (.flushing write) other) = _ at hother
      by_cases heq : other = pid
      · subst heq
        rw [Function.update_self] at hother
        cases hother
      · rw [Function.update_of_ne heq] at hother
        exact heq (h.different other pid _ hother hticket)
  · intro ticket hmem
    rw [hversions, List.mem_append, List.mem_singleton] at hmem
    rcases hmem with hstored | rfl
    · exact h.stored ticket hstored
    · exact h.old pid _ hticket
  · rw [hversions]
    exact List.nodup_append.mpr ⟨h.once, List.nodup_singleton _, fun ticket hstored other hother =>
      fun heq => h.apart pid _ hticket (List.mem_singleton.mp hother ▸ heq ▸ hstored)⟩

/-- The move of the temporary file stores the update. -/
theorem Inv.publish {write : Write} {file : Nat} {volume : Volume FileName UInt8}
    (h : Inv start s) (hstage : s.stages pid = .replacing write)
    (htemporary : s.volume.entries .temporary = some file)
    (hrenamed : s.volume.rename .temporary .database = some volume) :
    Inv start (s.publish pid file write volume) := by
  have hok := h.stages pid
  rw [hstage] at hok
  obtain ⟨hdecided, number, hnumber, hsynced, hcontent⟩ := hok
  obtain rfl := Option.some.inj (hnumber.symm.trans htemporary)
  have hholds : (s.stages pid).holds = true := by rw [hstage]; rfl
  constructor
  · exact h.replaced.rename ⟨number, serializeConfigDb write.after, some write⟩
      (fun heq => by cases heq) htemporary hsynced hcontent hrenamed
  · exact h.exclusive.enter hholds
  · exact h.exclusive.stages hholds
      ⟨latestText_concat .., _, List.mem_append_right _ (List.mem_singleton.mpr rfl), rfl⟩
  · exact h.history.concat ⟨write, rfl, hdecided, rfl⟩
  · exact h.base
  · exact h.tickets.publish hstage
  · intro answer hanswer
    refine (h.answered answer hanswer).mono ?_
    change s.versions.take s.durable ⊆ (s.versions ++ [_]).take s.durable
    rw [List.take_append_of_le_length h.replaced.durable_le]
    exact List.Subset.refl _

/-- What has reached the medium is in every version list that a power failure leaves. -/
theorem take_durable_subset {versions kept : List Version} {durable : Nat}
    (hkept : kept <+: versions) (hdurable : durable ≤ kept.length) :
    versions.take durable ⊆ kept := by
  have : versions.take durable <+: kept :=
    List.prefix_of_prefix_length_le (List.take_prefix ..) hkept
      (by rw [List.length_take]; omega)
  exact this.subset

/-- The update returns once the directory is on the medium. -/
theorem Inv.syncDirectory {write : Write} (h : Inv start s)
    (hstage : s.stages pid = .flushing write) :
    Inv start (Store.answer
      { s with volume := s.volume.syncDirectory, durable := s.versions.length }
      pid write.ticket true write.after) := by
  have hok := h.stages pid
  rw [hstage] at hok
  obtain ⟨hlatest, version, hversion, hwrite⟩ := hok
  have hholds : (s.stages pid).holds = true := by rw [hstage]; rfl
  have hsynced : Inv start
      { s with volume := s.volume.syncDirectory, durable := s.versions.length } := by
    constructor
    · exact h.replaced.syncDirectory
    · exact h.exclusive
    · intro other
      by_cases heq : other = pid
      · subst heq
        change StageOk _ _ (s.stages other)
        rw [hstage]
        exact ⟨hlatest, version, hversion, hwrite⟩
      · refine stageOk_of_not_holds (Bool.eq_false_iff.mpr fun hother => heq ?_)
        exact h.exclusive.eq_of_holds hholds hother
    · exact h.history
    · exact h.base.trans h.replaced.durable_le
    · exact ⟨h.tickets.old, h.tickets.different, h.tickets.apart, h.tickets.stored,
        h.tickets.once⟩
    · intro answer hanswer
      refine (h.answered answer hanswer).mono ?_
      rw [List.take_length]
      exact List.take_subset ..
  refine hsynced.answer ⟨fun hwrote => absurd hwrote.symm Bool.false_ne_true, fun _ => ⟨?_, ?_⟩⟩
  · have hlatest' := hlatest
    rw [latestText] at hlatest
    change s.volume.read? .database = _
    rw [h.read]
    cases hlast : s.versions.getLast? with
    | none =>
        rw [List.getLast?_eq_none_iff.mp hlast] at hversion
        cases hversion
    | some last =>
        rw [hlast] at hlatest
        exact congrArg some hlatest
  · refine ⟨version, ?_, write, hwrite, rfl, rfl⟩
    rw [List.take_length]
    exact hversion

theorem Inv.losePower {kept : List (Change FileName)} (garbage : Nat → List UInt8)
    (h : Inv start s) (hkept : kept.Sublist s.volume.pending) :
    Inv start (s.losePower kept garbage) := by
  have hprefix : (s.losePower kept garbage).versions <+: s.versions := survivors_isPrefix ..
  have hdurable := (h.replaced.explained _ ⟨kept, hkept, rfl⟩).durable
  constructor
  · exact h.replaced.losePower garbage hkept
  · intro pid
    exact ⟨fun hidle => absurd hidle Bool.false_ne_true, fun hnone => by cases hnone⟩
  · intro pid
    trivial
  · exact h.history.of_isPrefix hprefix (h.base.trans hdurable)
  · exact h.base.trans hdurable
  · have hsub : (storedTickets (s.losePower kept garbage).versions).Sublist
        (storedTickets s.versions) := hprefix.sublist.filterMap _
    constructor
    · intro pid ticket hnone
      cases hnone
    · intro pid other ticket hnone
      cases hnone
    · intro pid ticket hnone
      cases hnone
    · intro ticket hticket
      exact h.tickets.stored ticket (hsub.subset hticket)
    · exact hsub.nodup h.tickets.once
  · intro answer hanswer
    refine (h.answered answer hanswer).mono ?_
    have htake : (s.losePower kept garbage).versions.take (s.losePower kept garbage).durable =
        (s.losePower kept garbage).versions := List.take_length ..
    rw [htake]
    exact take_durable_subset hprefix hdurable

theorem Inv.step {action : Action} (h : Inv start s) (hstep : step s action = some t) :
    Inv start t := by
  cases steps_of_step hstep with
  | call pid update stage => exact h.call stage
  | lock pid call stage free => exact h.lock stage free
  | missing pid call stage absent =>
      refine h.parsed (by rw [stage]; rfl) (by rw [stage]; rfl) ?_
      rw [Volume.read?, absent]
      rfl
  | examine pid call file stage present =>
      exact h.enter (by rw [stage]; rfl) rfl ⟨present, List.nil_prefix⟩ (by rw [stage]; rfl)
  | read pid count call file got stage =>
      have hok := h.stages pid
      rw [stage] at hok
      obtain ⟨hfile, more, hmore⟩ := hok
      refine h.enter (by rw [stage]; rfl) rfl ⟨hfile, ?_⟩ (by rw [stage]; rfl)
      rw [← hmore, List.drop_left, List.prefix_append_right_inj]
      exact List.take_prefix ..
  | endOfFile pid call file got stage whole =>
      have hok := h.stages pid
      rw [stage] at hok
      obtain ⟨hfile, hgot⟩ := hok
      refine h.parsed (by rw [stage]; rfl) (by rw [stage]; rfl) ?_
      rw [Volume.read?, hfile]
      exact hgot.eq_of_length_le whole
  | create pid write stage =>
      have hok := h.stages pid
      rw [stage] at hok
      refine h.write (by rw [stage]; rfl) (h.replaced.openEmptied fun heq => by cases heq) rfl
        ⟨hok, ?_⟩ (by rw [stage]; rfl)
      exact ⟨s.volume.openEmptied_entries _, by
        rw [s.volume.openEmptied_content, List.nil_append]⟩
  | write pid count write file rest stage =>
      have hok := h.stages pid
      rw [stage] at hok
      obtain ⟨hdecided, hfile, hcontent⟩ := hok
      refine h.write (by rw [stage]; rfl) (h.replaced.write hfile _) rfl ⟨hdecided, hfile, ?_⟩
        (by rw [stage]; rfl)
      simp only [Volume.write, Function.update_self]
      rw [List.append_assoc, List.take_append_drop]
      exact hcontent
  | sync pid write file stage =>
      have hok := h.stages pid
      rw [stage] at hok
      obtain ⟨hdecided, hfile, hcontent⟩ := hok
      refine h.write (by rw [stage]; rfl) (h.replaced.sync file) rfl
        ⟨hdecided, file, hfile, ?_, ?_⟩ (by rw [stage]; rfl)
      · exact Function.update_self ..
      · rwa [List.append_nil] at hcontent
  | rename pid write file volume stage temporary renamed =>
      exact h.publish stage temporary renamed
  | syncDirectory pid write stage => exact h.syncDirectory stage
  | fail pid => exact h.leave pid
  | losePower kept garbage pending => exact h.losePower garbage pending

theorem inv_of_run (run : Run Storage.step (init start leftover) actions s) : Inv start s :=
  run.invariant (fun _ _ _ h _ hstep => h.step hstep) (inv_init start leftover)

end Steps

section Main

variable {start leftover : Option (List UInt8)} {s : Store} {actions : List Action}

theorem Inv.linearized (h : Inv start s) : Linearized start s :=
  ⟨h.history, h.tickets.once, h.read, h.answered⟩

/-- In every run the file is the last of a list of versions in which each was stored by one
update of the version before it, and every call that returned has its place there. A power
failure leaves a part of the list that has every update that returned. -/
theorem linearized_of_run (run : Run Storage.step (init start leftover) actions s) :
    Linearized start s ∧ ∀ kept garbage, kept.Sublist s.volume.pending →
      Linearized start (s.losePower kept garbage) ∧
        (s.losePower kept garbage).versions <+: s.versions ∧
        s.versions.take s.durable ⊆ (s.losePower kept garbage).versions := by
  have hinv := inv_of_run run
  refine ⟨hinv.linearized, fun kept garbage hkept => ?_⟩
  have hprefix : (s.losePower kept garbage).versions <+: s.versions := survivors_isPrefix ..
  exact ⟨(hinv.losePower garbage hkept).linearized, hprefix,
    take_durable_subset hprefix (hinv.replaced.explained _ ⟨kept, hkept, rfl⟩).durable⟩

/-- Adds a controller with the given first digit of its address. -/
def addController (digit : Char) (db : ConfigDb) : Except ControlError ConfigDb :=
  .ok ⟨db.controllers ++
    [⟨Lib.Text.ascii (String.ofList [digit] ++ "0:00:00:00:00:00"), .unspecified, []⟩]⟩

/-- One process is killed after its move, another one reads what it stored and adds to it,
and the power fails before the second temporary file is synchronised. -/
def killedWriter : List Action :=
  [.call 1 (some (addController '1')), .call 2 (some (addController '2')), .lock 1, .examine 1,
    .create 1, .write 1 20, .write 1 36, .sync 1, .rename 1, .fail 1, .lock 2, .examine 2,
    .read 2 100, .endOfFile 2, .create 2, .write 2 30]

theorem killedWriter_linearized :
    ∃ s, Run Storage.step (init none none) killedWriter s ∧
      (s.versions.length = 1 ∧ s.volume.pending.length = 3) ∧ Linearized none s ∧
        Linearized none (s.losePower [] fun _ => [0]) := by
  have hexecute : ((execute Storage.step (init none none) killedWriter).any fun s =>
      decide (s.versions.length = 1 ∧ s.volume.pending.length = 3)) = true := by decide +kernel
  obtain ⟨s, run, hlength⟩ := exists_run_of_execute hexecute
  have h := linearized_of_run run
  exact ⟨s, run, hlength, h.1, (h.2 [] (fun _ => [0]) (List.nil_sublist _)).1⟩

end Main

end VirtualDualSense.Config.StorageRuns
