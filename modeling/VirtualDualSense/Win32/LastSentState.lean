import VirtualDualSense.Win32.BridgeSteps
import VirtualDualSense.Protocol.ReportImage

/-!
# The last sent state

An update is suppressed when the image equals `last_sent_state`, so that state
should be what the controller has. It is written before a state report is sent
and after an audio report was. The two agree in the runs in which no such report
is lost or overtaken and every audio report is recorded with the image it has.
-/

namespace VirtualDualSense.Win32.LastSentState

open Lib.Runs Protocol.Frames Protocol.OutputState Protocol.PcmAudioExtractor
  Protocol.ReportImage Protocol.BtPackets Protocol.BridgeParts Bridge BridgeSteps

/-- The report carries the first `size` bytes of the state from `offset` on. -/
def CarriesAt (offset size : Nat) (report : List UInt8) (state : DsState) : Prop :=
  ∀ i : Fin kDsStateSize, i.val < size → report[offset + i.val]? = some (state.get i)

instance (offset size : Nat) (report : List UInt8) (state : DsState) :
    Decidable (CarriesAt offset size report state) :=
  inferInstanceAs (Decidable (∀ _, _))

/-- The reports that carry the full state: state, init and audio reports. -/
def IsFullState (out : Outgoing) : Prop :=
  out.label = .state ∨ out.label = .init ∨
    out.label = .audio ∧ out.report.head? = some kBtHapticsReportId

instance (out : Outgoing) : Decidable (IsFullState out) := inferInstanceAs (Decidable (_ ∨ _ ∨ _))

/-- A state report has the set-state part of the state, the others all of it. -/
def Carries (out : Outgoing) (state : DsState) : Prop :=
  match out.label with
  | .state => CarriesAt kBtStateOffset kSetStateSize out.report state
  | .audio => CarriesAt kBtHapticsStateOffset kDsStateSize out.report state
  | .init => CarriesAt kBtInitStateOffset kDsStateSize out.report state
  | _ => False

instance (out : Outgoing) (state : DsState) : Decidable (Carries out state) := by
  unfold Carries
  cases out.label <;> infer_instance

variable {E D : Type*}

/-- The accepted reports that carried the full state. -/
def fullStates (b : Session E D) : List Outgoing := b.accepted.filter fun out => IsFullState out

/-- No thread is between building a report and finishing its send. -/
def Quiet (b : Session E D) : Prop :=
  (∀ op ∈ b.toBluetooth ++ b.toVirtual, ∀ out, op ≠ .send out) ∧
    (∀ out, b.flush ≠ .stopping out) ∧ ∀ out audio, b.flush ≠ .sending out audio

/-- When nothing is under way and the image counts as sent, the controller has
it: the last full report that was accepted carried it. -/
def NoLostUpdate (b : Session E D) : Prop :=
  Quiet b → b.state.lastSentState = some b.state.image →
    ∃ out ∈ (fullStates b).getLast?, Carries out b.state.image

/-- An audio packet was accepted and the flush has not recorded it yet. -/
def AudioAccepted (b : Session E D) : Prop :=
  match b.flush with
  | .finishing _ _ sent => sent = true
  | _ => False

/-- No report that was built later has been accepted. -/
def Newest (b : Session E D) (out : Outgoing) : Prop :=
  ∀ other ∈ fullStates b, other.number < out.number

instance (b : Session E D) (out : Outgoing) : Decidable (Newest b out) :=
  inferInstanceAs (Decidable (∀ other ∈ fullStates b, _))

/-- A full report that a thread writes next is accepted, and in order. -/
def AcceptedInOrder (b : Session E D) (program : List Op) (outcome : SendOutcome) : Prop :=
  ∀ out, program.head? = some (.send out) → out.label = .state →
    outcome = .sent ∧ Newest b out

/-- A state report that some thread has built and not sent. -/
def Pending (b : Session E D) (out : Outgoing) : Prop :=
  out.label = .state ∧ (Op.send out ∈ b.toBluetooth ++ b.toVirtual ∨ b.flush = .stopping out)

/-- The image is the one the packet was built with, and the pending reports that
were built after it have it too. -/
def UpToDate (b : Session E D) (packet : Outgoing) (audio : AudioSend) : Prop :=
  b.state.image = audio.imageThen ∧
    ∀ out, Pending b out → packet.number ≤ out.number → Carries out b.state.image

variable (media : Media E D) (tuning : Tuning)

/-- The step leaves the image as it is. -/
def KeepsImage (b : Session E D) (action : Action) : Prop :=
  ∀ t, step media tuning b action = some t → t.state.image = b.state.image

/-- The condition on the environment: the writes of state and init reports
succeed, full reports are accepted in the order in which they were built, an
audio packet is accepted only when it is built and up to date, and no section
changes the image before the packet is recorded. -/
def SendGuard (b : Session E D) (action : Action) : Prop :=
  (AudioAccepted b → KeepsImage media tuning b action) ∧
    match action with
    | .sendInit outcome => outcome = .sent
    | .virtualOp outcome _ => AcceptedInOrder b b.toBluetooth outcome
    | .bluetoothOp outcome _ => AcceptedInOrder b b.toVirtual outcome
    | .flushSend outcome =>
        (∀ out, b.flush = .stopping out → outcome = .sent ∧ Newest b out) ∧
          ∀ out audio, b.flush = .sending out audio → outcome = .sent →
            IsFullState out ∧ Newest b out ∧ UpToDate b out audio
    | _ => True

/-- An accepted report that was built later, or a pending one with the state. -/
def Overtaken (b : Session E D) (state : DsState) (out : Outgoing) : Prop :=
  (∃ later ∈ fullStates b, out.number < later.number) ∨
    ∃ later, Pending b later ∧ Carries later state ∧ out.number < later.number

/-- The last accepted full report carries the state. -/
def LastCarries (b : Session E D) (state : DsState) : Prop :=
  ∃ out ∈ (fullStates b).getLast?, Carries out state

/-- An audio packet was built and the flush has not recorded it yet. -/
def AudioUnderWay (b : Session E D) : Prop :=
  match b.flush with
  | .sending out _ => IsFullState out
  | _ => AudioAccepted b

/-- The flush stays where it is, or handles no audio packet before and after. -/
def FlushKept (b t : Session E D) : Prop :=
  t.flush = b.flush ∨ ¬AudioUnderWay b ∧ ¬AudioUnderWay t

structure Inv (b : Session E D) : Prop where
  labels : ∀ out, Op.send out ∈ b.toBluetooth ++ b.toVirtual →
    out.label ≠ .audio ∧ out.label ≠ .init
  stopping : ∀ out, b.flush = .stopping out → out.label = .state
  pending_lt : ∀ out, Pending b out → out.number < b.builds
  accepted_lt : ∀ out ∈ fullStates b, out.number < b.builds
  order : ∀ state ∈ b.state.lastSentState, ∀ out, Pending b out →
    Carries out state ∨ Overtaken b state out
  recorded : ∀ state ∈ b.state.lastSentState,
    (∃ out, Pending b out ∧ Carries out state) ∨ LastCarries b state ∨
      ∃ out audio, b.flush = .finishing out audio true
  sending : ∀ packet audio, b.flush = .sending packet audio → IsFullState packet →
    packet.number < b.builds ∧ Carries packet audio.imageThen
  finishing : ∀ packet audio, b.flush = .finishing packet audio true →
    (∀ out, Pending b out → packet.number ≤ out.number → Carries out b.state.image) ∧
      ∃ last ∈ (fullStates b).getLast?, packet.number ≤ last.number ∧ Carries last b.state.image
  starting : b.phase ≠ .running → b.state = .new media ∧ b.toBluetooth = [] ∧ b.toVirtual = [] ∧
    b.flush = .idle
  initSent : b.phase = .initSent → LastCarries b b.state.image

section Builders

theorem carries_stateReport (sequence : UInt8) (image : DsState) (number : Nat) :
    Carries ⟨.state, (DsOutputState.stateReport sequence image).toList, number⟩ image := by
  simp only [Carries]
  intro i hi
  exact getElem?_stateReport sequence image hi

theorem carries_buildBtInitReport (o : DsOutputState) (number : Nat) :
    Carries ⟨.init, o.buildBtInitReport.toList, number⟩ o.state := by
  simp only [Carries]
  intro i _
  exact getElem?_buildBtInitReport o i

end Builders

section Accepted

variable {b t : Session E D} {out : Outgoing}

theorem fullStates_append (haccepted : t.accepted = b.accepted ++ [out]) (hfull : IsFullState out) :
    fullStates t = fullStates b ++ [out] := by
  simp [fullStates, haccepted, hfull]

theorem fullStates_append_of_not (haccepted : t.accepted = b.accepted ++ [out])
    (hfull : ¬IsFullState out) : fullStates t = fullStates b := by
  simp [fullStates, haccepted, hfull]

theorem lastCarries_append {state : DsState} (hfull : fullStates t = fullStates b ++ [out])
    (h : Carries out state) : LastCarries t state :=
  ⟨out, by simp [hfull], h⟩

end Accepted

/-- The step adds no audio or init report to a program, and stops with state
reports only. -/
structure LabelsKept (b t : Session E D) : Prop where
  send : ∀ out, Op.send out ∈ t.toBluetooth ++ t.toVirtual →
    Op.send out ∈ b.toBluetooth ++ b.toVirtual ∨ out.label ≠ .audio ∧ out.label ≠ .init
  stop : ∀ out, t.flush = .stopping out → b.flush = .stopping out ∨ out.label = .state

theorem sending_underWay {b : Session E D} {packet : Outgoing} {audio : AudioSend}
    (hflush : b.flush = .sending packet audio) (hfull : IsFullState packet) : AudioUnderWay b := by
  rw [AudioUnderWay, hflush]
  exact hfull

theorem finishing_accepted {b : Session E D} {packet : Outgoing} {audio : AudioSend}
    (hflush : b.flush = .finishing packet audio true) : AudioAccepted b := by
  rw [AudioAccepted, hflush]

theorem AudioAccepted.underWay {b : Session E D} (h : AudioAccepted b) : AudioUnderWay b := by
  unfold AudioUnderWay
  split
  · rename_i hflush
    simp [AudioAccepted, hflush] at h
  · exact h

theorem FlushKept.eq {b t : Session E D} (kept : FlushKept b t)
    (h : AudioUnderWay b ∨ AudioUnderWay t) : t.flush = b.flush := by
  rcases kept with heq | ⟨hb, ht⟩
  · exact heq
  · exact absurd h (not_or.mpr ⟨hb, ht⟩)

namespace Inv

variable {media} {tuning} {b t : Session E D}

theorem keepsLabels (inv : Inv media b) (kept : LabelsKept b t) (out : Outgoing)
    (hout : Op.send out ∈ t.toBluetooth ++ t.toVirtual) :
    out.label ≠ .audio ∧ out.label ≠ .init := by
  rcases kept.send out hout with hold | hnew
  · exact inv.labels out hold
  · exact hnew

theorem keepsStopping (inv : Inv media b) (kept : LabelsKept b t) (out : Outgoing)
    (hout : t.flush = .stopping out) : out.label = .state := by
  rcases kept.stop out hout with hold | hnew
  · exact inv.stopping out hold
  · exact hnew

theorem keepsPending (inv : Inv media b) (hbuilds : b.builds ≤ t.builds)
    (hpending : ∀ out, Pending t out → Pending b out) (out : Outgoing) (hout : Pending t out) :
    out.number < t.builds :=
  (inv.pending_lt out (hpending out hout)).trans_le hbuilds

theorem keepsAccepted (inv : Inv media b) (hbuilds : b.builds ≤ t.builds)
    (hfull : fullStates t = fullStates b) (out : Outgoing) (hout : out ∈ fullStates t) :
    out.number < t.builds := by
  rw [hfull] at hout
  exact (inv.accepted_lt out hout).trans_le hbuilds

/-- A full report that the step accepts was built before. -/
theorem addsAccepted (inv : Inv media b) {new : Outgoing} (hbuilds : b.builds ≤ t.builds)
    (hfull : fullStates t = fullStates b ++ [new]) (hnew : new.number < t.builds) (out : Outgoing)
    (hout : out ∈ fullStates t) : out.number < t.builds := by
  rw [hfull] at hout
  rcases List.mem_append.mp hout with hold | hadded
  · exact (inv.accepted_lt out hold).trans_le hbuilds
  · obtain rfl := List.mem_singleton.mp hadded
    exact hnew

theorem keepsOrder (inv : Inv media b) (hlast : t.state.lastSentState = b.state.lastSentState)
    (hfull : fullStates t = fullStates b) (hpending : ∀ out, Pending t out ↔ Pending b out) :
    ∀ state ∈ t.state.lastSentState, ∀ out, Pending t out →
      Carries out state ∨ Overtaken t state out := by
  rw [hlast]
  intro state hstate out hout
  simpa only [Overtaken, hfull, hpending] using
    inv.order state hstate out ((hpending out).mp hout)

/-- What is recorded stays with a pending or an accepted report, unless the flush has it. -/
theorem keepsRecorded (inv : Inv media b) (hlast : t.state.lastSentState = b.state.lastSentState)
    (hfull : fullStates t = fullStates b) (hpending : ∀ out, Pending t out ↔ Pending b out) :
    ∀ state ∈ t.state.lastSentState, (∃ out, Pending t out ∧ Carries out state) ∨
      LastCarries t state ∨ ∃ out audio, b.flush = .finishing out audio true := by
  rw [hlast]
  intro state hstate
  simpa only [LastCarries, hfull, hpending] using inv.recorded state hstate

/-- A step that builds, sends and records nothing. -/
theorem keeps (inv : Inv media b) (hlabels : LabelsKept b t)
    (hlast : t.state.lastSentState = b.state.lastSentState)
    (himage : AudioAccepted b → t.state.image = b.state.image) (hbuilds : t.builds = b.builds)
    (hflush : FlushKept b t) (hfull : fullStates t = fullStates b)
    (hpending : ∀ out, Pending t out ↔ Pending b out) (hphase : t.phase = .running) :
    Inv media t where
  labels := inv.keepsLabels hlabels
  stopping := inv.keepsStopping hlabels
  pending_lt := inv.keepsPending hbuilds.ge fun out => (hpending out).mp
  accepted_lt := inv.keepsAccepted hbuilds.ge hfull
  order := inv.keepsOrder hlast hfull hpending
  recorded := by
    intro state hstate
    rcases inv.keepsRecorded hlast hfull hpending state hstate with
      hpend | hcarried | ⟨out, audio, hfinishing⟩
    · exact .inl hpend
    · exact .inr (.inl hcarried)
    · exact .inr (.inr ⟨out, audio,
        (hflush.eq (.inl (finishing_accepted hfinishing).underWay)).trans hfinishing⟩)
  sending := by
    intro packet audio hpacket hfullState
    have hsame := hflush.eq (.inr (sending_underWay hpacket hfullState))
    rw [hsame] at hpacket
    rw [hbuilds]
    exact inv.sending packet audio hpacket hfullState
  finishing := by
    intro packet audio hpacket
    have hsame := hflush.eq (.inr (finishing_accepted hpacket).underWay)
    rw [hsame] at hpacket
    have hstill := himage (finishing_accepted hpacket)
    simpa only [hfull, hstill, hpending] using inv.finishing packet audio hpacket
  starting := fun h => absurd hphase h
  initSent := by simp [hphase]

/-- A state report is built: it counts as sent and is pending. -/
theorem builds (inv : Inv media b) {new : Outgoing} (hlabels : LabelsKept b t)
    (hnumber : new.number = b.builds)
    (hcarries : Carries new t.state.image) (hlast : t.state.lastSentState = some t.state.image)
    (himage : AudioAccepted b → t.state.image = b.state.image)
    (hbuilds : t.builds = b.builds + 1) (hfull : fullStates t = fullStates b)
    (hpending : ∀ out, Pending t out ↔ Pending b out ∨ out = new)
    (hflush : FlushKept b t) (hphase : t.phase = .running) : Inv media t where
  labels := inv.keepsLabels hlabels
  stopping := inv.keepsStopping hlabels
  pending_lt := by
    intro out hout
    rw [hbuilds]
    rcases (hpending out).mp hout with hold | rfl
    · exact Nat.lt_succ_of_lt (inv.pending_lt out hold)
    · omega
  accepted_lt := inv.keepsAccepted (by omega) hfull
  order := by
    rw [hlast]
    rintro state ⟨⟩ out hout
    rcases (hpending out).mp hout with hold | rfl
    · refine .inr (.inr ⟨new, (hpending new).mpr (.inr rfl), hcarries, ?_⟩)
      rw [hnumber]
      exact inv.pending_lt out hold
    · exact .inl hcarries
  recorded := by
    rw [hlast]
    rintro state ⟨⟩
    exact .inl ⟨new, (hpending new).mpr (.inr rfl), hcarries⟩
  sending := by
    intro packet audio hpacket hfullState
    have hsame := hflush.eq (.inr (sending_underWay hpacket hfullState))
    rw [hsame] at hpacket
    obtain ⟨hlt, hcarried⟩ := inv.sending packet audio hpacket hfullState
    exact ⟨by omega, hcarried⟩
  finishing := by
    intro packet audio hpacket
    have hsame := hflush.eq (.inr (finishing_accepted hpacket).underWay)
    rw [hsame] at hpacket
    have hstill := himage (finishing_accepted hpacket)
    obtain ⟨hafter, last, hmem, hle, hcarried⟩ := inv.finishing packet audio hpacket
    refine ⟨?_, last, by rwa [hfull], hle, hstill ▸ hcarried⟩
    intro out hout hle
    rcases (hpending out).mp hout with hold | rfl
    · exact hstill ▸ hafter out hold hle
    · exact hcarries
  starting := fun h => absurd hphase h
  initSent := by simp [hphase]

/-- A pending state report is accepted, and none that was built later was. -/
theorem accepts (inv : Inv media b) {out : Outgoing} (hlabels : LabelsKept b t)
    (hout : Pending b out) (hnewest : Newest b out) (hfull : fullStates t = fullStates b ++ [out])
    (hlast : t.state.lastSentState = b.state.lastSentState)
    (himage : t.state.image = b.state.image) (hbuilds : t.builds = b.builds)
    (hpending : ∀ other, Pending t other → Pending b other)
    (hremains : ∀ other, Pending b other → other = out ∨ Pending t other)
    (hflush : FlushKept b t) (hphase : t.phase = .running) : Inv media t where
  labels := inv.keepsLabels hlabels
  stopping := inv.keepsStopping hlabels
  pending_lt := inv.keepsPending hbuilds.ge hpending
  accepted_lt := inv.addsAccepted hbuilds.ge hfull (hbuilds ▸ inv.pending_lt out hout)
  order := by
    rw [hlast]
    intro state hstate other hother
    rcases inv.order state hstate other (hpending other hother) with
      hcarries | ⟨later, hlater, hlt⟩ | ⟨later, hlater, hcarries, hlt⟩
    · exact .inl hcarries
    · exact .inr (.inl ⟨later, by rw [hfull]; exact List.mem_append_left _ hlater, hlt⟩)
    · rcases hremains later hlater with rfl | hstill
      · exact .inr (.inl ⟨later, by simp [hfull], hlt⟩)
      · exact .inr (.inr ⟨later, hstill, hcarries, hlt⟩)
  recorded := by
    rw [hlast]
    intro state hstate
    rcases inv.recorded state hstate with
      ⟨other, hother, hcarries⟩ | hcarried | ⟨packet, audio, hfinishing⟩
    · rcases hremains other hother with rfl | hstill
      · exact .inr (.inl (lastCarries_append hfull hcarries))
      · exact .inl ⟨other, hstill, hcarries⟩
    · -- the order rules out that an older report comes last
      rcases inv.order state hstate out hout with
        hcarries | ⟨later, hlater, hlt⟩ | ⟨later, hlater, hcarries, hlt⟩
      · exact .inr (.inl (lastCarries_append hfull hcarries))
      · exact absurd (hnewest later hlater) (by omega)
      · rcases hremains later hlater with rfl | hstill
        · omega
        · exact .inl ⟨later, hstill, hcarries⟩
    · exact .inr (.inr ⟨packet, audio,
        (hflush.eq (.inl (finishing_accepted hfinishing).underWay)).trans hfinishing⟩)
  sending := by
    intro packet audio hpacket hfullState
    rw [hflush.eq (.inr (sending_underWay hpacket hfullState))] at hpacket
    rw [hbuilds]
    exact inv.sending packet audio hpacket hfullState
  finishing := by
    intro packet audio hpacket
    rw [hflush.eq (.inr (finishing_accepted hpacket).underWay)] at hpacket
    obtain ⟨hafter, last, hmem, hle, -⟩ := inv.finishing packet audio hpacket
    have hlt := hnewest last (List.mem_of_getLast? hmem)
    rw [himage]
    refine ⟨fun other hother => hafter other (hpending other hother), out, by simp [hfull],
      by omega, hafter out hout (by omega)⟩
  starting := fun h => absurd hphase h
  initSent := by simp [hphase]

/-- An audio packet is built around the image. -/
theorem buildsAudio (inv : Inv media b) {packet : Outgoing} {audio : AudioSend}
    (hlabels : LabelsKept b t) (hflush : t.flush = .sending packet audio)
    (hnumber : packet.number = b.builds) (hcarries : Carries packet audio.imageThen)
    (hidle : ¬AudioUnderWay b) (hlast : t.state.lastSentState = b.state.lastSentState)
    (hbuilds : t.builds = b.builds + 1) (hfull : fullStates t = fullStates b)
    (hpending : ∀ out, Pending t out ↔ Pending b out) (hphase : t.phase = .running) :
    Inv media t where
  labels := inv.keepsLabels hlabels
  stopping := inv.keepsStopping hlabels
  pending_lt := inv.keepsPending (by omega) fun out => (hpending out).mp
  accepted_lt := inv.keepsAccepted (by omega) hfull
  order := inv.keepsOrder hlast hfull hpending
  recorded := by
    intro state hstate
    rcases inv.keepsRecorded hlast hfull hpending state hstate with
      hpend | hcarried | ⟨out, audio, hfinishing⟩
    · exact .inl hpend
    · exact .inr (.inl hcarried)
    · exact absurd (finishing_accepted hfinishing).underWay hidle
  sending := by
    intro other _ hother _
    rw [hflush] at hother
    cases hother
    exact ⟨by omega, hcarries⟩
  finishing := by simp [hflush]
  starting := fun h => absurd hphase h
  initSent := by simp [hphase]

/-- The audio packet is accepted. -/
theorem acceptsAudio (inv : Inv media b) {packet : Outgoing} {audio : AudioSend}
    (hsending : b.flush = .sending packet audio) (hfullState : IsFullState packet)
    (hupToDate : UpToDate b packet audio) (hlabels : LabelsKept b t)
    (hflush : t.flush = .finishing packet audio true)
    (hfull : fullStates t = fullStates b ++ [packet]) (hstate : t.state = b.state)
    (hbuilds : t.builds = b.builds) (hpending : ∀ out, Pending t out ↔ Pending b out)
    (hphase : t.phase = .running) : Inv media t := by
  obtain ⟨hlt, hcarries⟩ := inv.sending packet audio hsending hfullState
  obtain ⟨himage, hafter⟩ := hupToDate
  constructor
  case labels => exact inv.keepsLabels hlabels
  case stopping => exact inv.keepsStopping hlabels
  case pending_lt => exact inv.keepsPending hbuilds.ge fun out => (hpending out).mp
  case accepted_lt => exact inv.addsAccepted hbuilds.ge hfull (hbuilds ▸ hlt)
  case order =>
    rw [hstate]
    intro state hlast out hout
    rcases inv.order state hlast out ((hpending out).mp hout) with
      hcarried | ⟨later, hlater, hless⟩ | hlater
    · exact .inl hcarried
    · exact .inr (.inl ⟨later, by rw [hfull]; exact List.mem_append_left _ hlater, hless⟩)
    · exact .inr (.inr (by simpa only [hpending] using hlater))
  case recorded => exact fun _ _ => .inr (.inr ⟨packet, audio, hflush⟩)
  case sending => simp [hflush]
  case finishing =>
    intro other _ hother
    rw [hflush] at hother
    cases hother
    rw [hstate]
    exact ⟨fun out hout => hafter out ((hpending out).mp hout), packet, by simp [hfull],
      Nat.le_refl _, himage ▸ hcarries⟩
  case starting => exact fun h => absurd hphase h
  case initSent => simp [hphase]

/-- The audio packet was not accepted. -/
theorem dropsAudio (inv : Inv media b) {packet : Outgoing} {audio : AudioSend}
    (hsending : b.flush = .sending packet audio) (hlabels : LabelsKept b t)
    (hflush : t.flush = .finishing packet audio false) (hfull : fullStates t = fullStates b)
    (hstate : t.state = b.state) (hbuilds : t.builds = b.builds)
    (hpending : ∀ out, Pending t out ↔ Pending b out) (hphase : t.phase = .running) :
    Inv media t where
  labels := inv.keepsLabels hlabels
  stopping := inv.keepsStopping hlabels
  pending_lt := inv.keepsPending hbuilds.ge fun out => (hpending out).mp
  accepted_lt := inv.keepsAccepted hbuilds.ge hfull
  order := inv.keepsOrder (by rw [hstate]) hfull hpending
  recorded := by
    intro state hlast
    rcases inv.keepsRecorded (by rw [hstate]) hfull hpending state hlast with
      hpend | hcarried | ⟨_, _, hfinishing⟩
    · exact .inl hpend
    · exact .inr (.inl hcarried)
    · rw [hsending] at hfinishing
      cases hfinishing
  sending := by simp [hflush]
  finishing := by simp [hflush]
  starting := fun h => absurd hphase h
  initSent := by simp [hphase]

/-- An accepted audio packet is recorded: the image has rested since it was built. -/
theorem finishes (inv : Inv media b) {packet : Outgoing} {audio : AudioSend}
    (hfinishing : b.flush = .finishing packet audio true) (hlabels : LabelsKept b t)
    (hflush : t.flush = .idle) (hfull : fullStates t = fullStates b)
    (himage : t.state.image = b.state.image)
    (hlast : t.state.lastSentState = some t.state.image) (hbuilds : t.builds = b.builds)
    (hpending : ∀ out, Pending t out ↔ Pending b out) (hphase : t.phase = .running) :
    Inv media t := by
  obtain ⟨hafter, last, hmem, hle, hcarries⟩ := inv.finishing packet audio hfinishing
  constructor
  case labels => exact inv.keepsLabels hlabels
  case stopping => exact inv.keepsStopping hlabels
  case pending_lt => exact inv.keepsPending hbuilds.ge fun out => (hpending out).mp
  case accepted_lt => exact inv.keepsAccepted hbuilds.ge hfull
  case order =>
    rw [hlast, himage]
    rintro state ⟨⟩ out hout
    by_cases hless : packet.number ≤ out.number
    · exact .inl (hafter out ((hpending out).mp hout) hless)
    · refine .inr (.inl ⟨last, ?_, by omega⟩)
      rw [hfull]
      exact List.mem_of_getLast? hmem
  case recorded =>
    rw [hlast, himage]
    rintro state ⟨⟩
    exact .inr (.inl ⟨last, by rwa [hfull], hcarries⟩)
  case sending => simp [hflush]
  case finishing => simp [hflush]
  case starting => exact fun h => absurd hphase h
  case initSent => simp [hphase]

end Inv

section Sections

variable {media} {tuning} {b t : Session E D}

/-- A critical section that neither builds a full report nor records one. -/
structure Section (b t : Session E D) : Prop where
  last : t.state.lastSentState = b.state.lastSentState
  builds : t.builds = b.builds
  flush : t.flush = b.flush
  accepted : t.accepted = b.accepted
  phase : t.phase = b.phase

theorem Section.refl (b : Session E D) : Section b b := ⟨rfl, rfl, rfl, rfl, rfl⟩

theorem applyHidOut_lastSentState {s s' : BridgeState E D} {payload : List UInt8}
    (h : applyHidOut s payload = some s') : s'.lastSentState = s.lastSentState := by
  obtain ⟨outputState, -, rfl⟩ := Option.map_eq_some_iff.mp h
  rfl

theorem applyTestCommand_lastSentState (s : BridgeState E D) (device action : UInt8)
    (data : List UInt8) :
    (applyTestCommand media s device action data).1.lastSentState = s.lastSentState := by
  unfold applyTestCommand
  split_ifs
  · rfl
  · cases data <;> rfl
  · rfl

theorem queueAudioChunks_lastSentState (s : BridgeState E D) (payload : List UInt8) :
    (queueAudioChunks media tuning s payload).lastSentState = s.lastSentState := by
  simp only [queueAudioChunks]
  split
  · rfl
  · split_ifs <;> rfl

theorem handleVirtualFrame_section (frame : Frame) :
    Section b (handleVirtualFrame media tuning b frame) := by
  unfold handleVirtualFrame
  split
  · split
    · dsimp only
      split_ifs
      · exact ⟨rfl, rfl, rfl, rfl, rfl⟩
      · exact ⟨rfl, rfl, rfl, rfl, rfl⟩
      · exact .refl b
    · exact .refl b
  · split
    · exact .refl b
    · rename_i happly
      exact ⟨applyHidOut_lastSentState happly, rfl, rfl, rfl, rfl⟩
  · split
    · exact .refl b
    · split
      · exact ⟨rfl, rfl, rfl, rfl, rfl⟩
      · exact ⟨rfl, rfl, rfl, rfl, rfl⟩
  · split_ifs
    · exact .refl b
    · split
      · exact ⟨rfl, rfl, rfl, rfl, rfl⟩
      · exact ⟨applyTestCommand_lastSentState _ _ _ _, rfl, rfl, rfl, rfl⟩
  · refine ⟨(queueAudioChunks_lastSentState _ _).trans ?_, rfl, rfl, rfl, rfl⟩
    split_ifs <;> rfl
  · exact .refl b

theorem handleVirtualFrame_toVirtual (frame : Frame) :
    (handleVirtualFrame media tuning b frame).toVirtual = b.toVirtual := by
  obtain ⟨_, _, _, hframe⟩ := handleVirtualFrame_frame frame
  rw [hframe]

/-- The first section of a virtual frame leaves no report to be sent. -/
theorem send_notMem_handleVirtualFrame (frame : Frame) (hempty : b.toBluetooth = [])
    (out : Outgoing) : Op.send out ∉ (handleVirtualFrame media tuning b frame).toBluetooth := by
  unfold handleVirtualFrame
  repeat' (first | simp [hempty]; done | split)

theorem handleBluetoothFrame_section (frame : Frame) (muteRequest : Option Bool) :
    Section b (handleBluetoothFrame media b frame muteRequest) := by
  obtain ⟨_, _, _, _, _, _, _, _, hframe⟩ := handleBluetoothFrame_frame frame muteRequest
  rw [hframe]
  exact ⟨rfl, rfl, rfl, rfl, rfl⟩

theorem handleBluetoothFrame_toBluetooth (frame : Frame) (muteRequest : Option Bool) :
    (handleBluetoothFrame media b frame muteRequest).toBluetooth = b.toBluetooth := by
  obtain ⟨_, _, _, _, _, _, _, _, hframe⟩ := handleBluetoothFrame_frame frame muteRequest
  rw [hframe]

theorem handleMicPacket_toVirtual (packet : List UInt8) :
    (handleMicPacket media b packet).toVirtual = b.toVirtual := by
  unfold handleMicPacket
  repeat' (first | rfl | split)

theorem label_handleInputReport {report : UsbInputReport} {muteRequest : Option Bool}
    {out : Outgoing} (hout : Op.send out ∈ (handleInputReport b report muteRequest).toVirtual) :
    out.label = .mic ∨ out.label = .micState := by
  simp only [handleInputReport, List.mem_append, List.mem_map] at hout
  rcases hout with ((⟨_, -, ⟨⟩⟩ | ⟨_, -, ⟨⟩⟩) | ⟨_, -, ⟨⟩⟩) | hstate
  · exact .inl rfl
  · exact .inr rfl
  · exact .inl rfl
  · split_ifs at hstate <;> simp at hstate

/-- A controller packet leaves microphone reports to be sent at most. -/
theorem label_handleBluetoothFrame {frame : Frame} {muteRequest : Option Bool}
    (hempty : b.toVirtual = []) {out : Outgoing}
    (hout : Op.send out ∈ (handleBluetoothFrame media b frame muteRequest).toVirtual) :
    out.label = .mic ∨ out.label = .micState := by
  have hnone : ∀ {c : Session E D}, c.toVirtual = b.toVirtual → Op.send out ∉ c.toVirtual := by
    intro c hsame hmem
    rw [hsame, hempty] at hmem
    cases hmem
  unfold handleBluetoothFrame at hout
  split at hout
  · split_ifs at hout
    · exact absurd hout (hnone (handleMicPacket_toVirtual _))
    · split at hout
      · exact absurd hout (hnone rfl)
      · exact label_handleInputReport hout
  · split at hout
    · exact absurd hout (hnone rfl)
    · exact absurd hout (hnone rfl)
  · exact absurd hout (hnone rfl)

/-- What one operation of a program can do. -/
inductive OpEffect (b c : Session E D) (op : Op) (ops : List Op) (outcome : SendOutcome) : Prop
  | silent (last : c.state.lastSentState = b.state.lastSentState) (builds : c.builds = b.builds)
      (full : fullStates c = fullStates b)
      (labels : ∀ out, Op.send out ∈ ops → out.label = .mic ∨ out.label = .micState)
      (refused : ∀ out, op = .send out → out.label = .state → outcome ≠ .sent)
  | builds (new : Outgoing) (hop : op = .stateIfChanged) (hops : ops = [.send new])
      (label : new.label = .state) (number : new.number = b.builds)
      (carries : Carries new c.state.image) (last : c.state.lastSentState = some c.state.image)
      (builds : c.builds = b.builds + 1) (full : fullStates c = fullStates b)
  | accepts (out : Outgoing) (hop : op = .send out) (hops : ops = []) (label : out.label = .state)
      (state : c.state = b.state) (builds : c.builds = b.builds)
      (full : fullStates c = fullStates b ++ [out])

theorem OpEffect.of_eq {c : Session E D} {op : Op} {ops : List Op} {outcome : SendOutcome}
    (effect : OpEffect b c op ops outcome) (hstate : t.state = c.state)
    (hbuilds : t.builds = c.builds) (haccepted : t.accepted = c.accepted) :
    OpEffect b t op ops outcome := by
  have hfull : fullStates t = fullStates c := by rw [fullStates, fullStates, haccepted]
  cases effect with
  | silent last builds full labels refused =>
      exact .silent (by rw [hstate, last]) (hbuilds.trans builds) (hfull.trans full) labels refused
  | builds new hop hops label number carries last builds full =>
      exact .builds new hop hops label number (by rwa [hstate]) (by rwa [hstate])
        (hbuilds.trans builds) (hfull.trans full)
  | accepts out hop hops label state builds full =>
      exact .accepts out hop hops label (hstate.trans state) (hbuilds.trans builds)
        (hfull.trans full)

/-- `runOp` leaves the programs to its caller and the flush alone. -/
structure OpFrame (b c : Session E D) : Prop where
  toBluetooth : c.toBluetooth = b.toBluetooth
  toVirtual : c.toVirtual = b.toVirtual
  flush : c.flush = b.flush
  phase : c.phase = b.phase

theorem runOp_opFrame (outcome : SendOutcome) (feature : Option (List UInt8)) (op : Op) :
    OpFrame b (runOp b outcome feature op).1 := by
  obtain ⟨_, _, _, _, _, _, _, hframe⟩ := runOp_frame outcome feature op
  rw [hframe]
  exact ⟨rfl, rfl, rfl, rfl⟩

theorem cacheFeatureReport_lastSentState (s : BridgeState E D) (report : List UInt8) :
    (cacheFeatureReport s report).lastSentState = s.lastSentState := by
  unfold cacheFeatureReport
  repeat' (first | rfl | split)

theorem runOp_effect (outcome : SendOutcome) (feature : Option (List UInt8)) {op : Op}
    (hlabel : ∀ out, op = .send out → out.label ≠ .audio ∧ out.label ≠ .init) :
    OpEffect b (runOp b outcome feature op).1 op (runOp b outcome feature op).2 outcome := by
  cases op with
  | stateIfChanged =>
      simp only [runOp, buildBtStateIfChanged]
      split_ifs
      · exact .silent rfl rfl rfl (by simp) (by simp)
      · exact .builds _ rfl rfl rfl rfl (carries_stateReport _ _ _) rfl rfl rfl
  | micState active micReport =>
      refine .silent rfl rfl rfl ?_ (by simp)
      intro out hout
      simp only [runOp, List.mem_cons, Op.send.injEq, List.not_mem_nil, or_false] at hout
      rcases hout with rfl | rfl
      · exact .inr rfl
      · exact .inl rfl
  | send out =>
      obtain ⟨haudio, hinit⟩ := hlabel out rfl
      by_cases hstate : out.label = .state
      · cases outcome with
        | sent => exact .accepts out rfl rfl hstate rfl rfl (fullStates_append rfl (.inl hstate))
        | queueFull => exact .silent rfl rfl rfl (by simp [runOp]) (by simp)
        | exception => exact .silent rfl rfl rfl (by simp [runOp]) (by simp)
      · have hpartial : ¬IsFullState out := by simp [IsFullState, hstate, haudio, hinit]
        have hfull : fullStates (runOp b outcome feature (.send out)).1 = fullStates b := by
          cases outcome with
          | sent => exact fullStates_append_of_not rfl hpartial
          | queueFull => rfl
          | exception => rfl
        refine .silent ?_ ?_ hfull (by simp [runOp]) ?_
        · cases outcome <;> rfl
        · cases outcome <;> rfl
        · rintro other ⟨⟩ hother
          exact absurd hother hstate
  | readFeature reportId =>
      cases feature with
      | none => exact .silent rfl rfl rfl (by simp [runOp]) (by simp)
      | some report =>
          exact .silent (cacheFeatureReport_lastSentState _ _) rfl rfl (by simp [runOp]) (by simp)
  | writeFeature payload =>
      simp only [runOp]
      split_ifs <;> exact .silent rfl rfl rfl (by simp) (by simp)

/-- What the first section of the flush can do. -/
inductive FlushEffect (b t : Session E D) : Prop
  | rests (last : t.state.lastSentState = b.state.lastSentState) (builds : t.builds = b.builds)
      (idle : ¬AudioUnderWay t) (stopping : ∀ out, t.flush ≠ .stopping out)
  | audio (packet : Outgoing) (audio : AudioSend) (flush : t.flush = .sending packet audio)
      (number : packet.number = b.builds) (carries : Carries packet audio.imageThen)
      (last : t.state.lastSentState = b.state.lastSentState) (builds : t.builds = b.builds + 1)
  | stops (new : Outgoing) (flush : t.flush = .stopping new) (label : new.label = .state)
      (number : new.number = b.builds) (carries : Carries new t.state.image)
      (last : t.state.lastSentState = some t.state.image) (builds : t.builds = b.builds + 1)

/-- The flush leaves the programs and the transport alone in its first section. -/
structure FlushFrame (b t : Session E D) : Prop where
  toBluetooth : t.toBluetooth = b.toBluetooth
  toVirtual : t.toVirtual = b.toVirtual
  accepted : t.accepted = b.accepted
  phase : t.phase = b.phase

theorem FlushEffect.idle (hflush : t.flush = .idle)
    (hlast : t.state.lastSentState = b.state.lastSentState) (hbuilds : t.builds = b.builds) :
    FlushEffect b t :=
  .rests hlast hbuilds (by simp [AudioUnderWay, AudioAccepted, hflush]) (by simp [hflush])

theorem carries_buildPacket (builder : HapticsPacketBuilder) (haptics : HapticsChunk)
    (speaker : SpeakerChunk) (image : DsState) (headsetPlugged : Bool) (number : Nat) :
    Carries ⟨.audio, (builder.buildPacket haptics speaker image true headsetPlugged).2.toList,
      number⟩ image := by
  simp only [Carries]
  intro i _
  exact getElem?_buildPacket builder haptics speaker image true headsetPlugged i

theorem buildAudioPacket_effect {c : Session E D} (haptics : HapticsChunk) (speaker : SpeakerChunk)
    (now : Nat) (concealment : Bool) (chunk : Option AudioChunk)
    (hlast : c.state.lastSentState = b.state.lastSentState) (hbuilds : c.builds = b.builds) :
    FlushEffect b (buildAudioPacket c haptics speaker now concealment chunk) := by
  refine .audio _ _ rfl hbuilds ?_ hlast (by simp only [buildAudioPacket, hbuilds])
  exact carries_buildPacket _ _ _ _ _ _

theorem flushUnderflow_effect {c : Session E D}
    (hlast : c.state.lastSentState = b.state.lastSentState) (hbuilds : c.builds = b.builds) :
    FlushEffect b (flushUnderflow c) := by
  simp only [flushUnderflow, buildBtStateIfChanged]
  split_ifs
  · refine .rests hlast hbuilds ?_ (by simp)
    -- nothing was written to the packet, so it is no audio report
    simp +decide [AudioUnderWay, IsFullState]
  · exact .idle rfl hlast hbuilds
  · exact .stops _ rfl rfl hbuilds (carries_stateReport _ _ _) rfl
      (by simp only [buildStateReport, hbuilds])

theorem FlushEffect.of_begins {now : Nat} (begins : Begins tuning b now t) : FlushEffect b t := by
  cases begins with
  | rests s readied =>
      obtain ⟨⟨_, _, _, _, rfl⟩, -, -⟩ := readied
      exact .idle rfl rfl rfl
  | drains s readied =>
      obtain ⟨⟨_, _, _, _, rfl⟩, -, -⟩ := readied
      exact flushUnderflow_effect rfl rfl
  | conceals s readied =>
      obtain ⟨⟨_, _, _, _, rfl⟩, -, -⟩ := readied
      exact buildAudioPacket_effect _ _ _ _ _ rfl rfl
  | takes s readied =>
      obtain ⟨⟨_, _, _, _, rfl⟩, -, -⟩ := readied
      exact buildAudioPacket_effect _ _ _ _ _ rfl rfl

theorem flushUnderflow_frame {c : Session E D} (frame : FlushFrame b c) :
    FlushFrame b (flushUnderflow c) := by
  obtain ⟨h1, h2, h3, h4⟩ := frame
  simp only [flushUnderflow, buildBtStateIfChanged]
  split_ifs <;> exact ⟨h1, h2, h3, h4⟩

theorem FlushFrame.of_begins {now : Nat} (begins : Begins tuning b now t) : FlushFrame b t := by
  cases begins with
  | rests => exact ⟨rfl, rfl, rfl, rfl⟩
  | drains => exact flushUnderflow_frame ⟨rfl, rfl, rfl, rfl⟩
  | conceals => exact ⟨rfl, rfl, rfl, rfl⟩
  | takes => exact ⟨rfl, rfl, rfl, rfl⟩

end Sections

namespace Inv

variable {media} {tuning} {b c t : Session E D}

/-- One operation of a program, wherever in the two programs it stands. -/
theorem runsOp (inv : Inv media b) {outcome : SendOutcome} {op : Op} {ops left right : List Op}
    (hbefore : b.toBluetooth ++ b.toVirtual = left ++ op :: right)
    (hafter : t.toBluetooth ++ t.toVirtual = left ++ ops ++ right)
    (effect : OpEffect b t op ops outcome) (hflush : t.flush = b.flush)
    (hphase : t.phase = .running) (himage : AudioAccepted b → t.state.image = b.state.image)
    (ok : ∀ out, op = .send out → out.label = .state → outcome = .sent ∧ Newest b out) :
    Inv media t := by
  have hmem : ∀ out, Op.send out ∈ t.toBluetooth ++ t.toVirtual →
      Op.send out ∈ b.toBluetooth ++ b.toVirtual ∨ Op.send out ∈ ops := by
    intro out hout
    rw [hafter] at hout
    rw [hbefore]
    simp only [List.mem_append, List.mem_cons] at hout ⊢
    tauto
  have hstay : ∀ out, Op.send out ∈ b.toBluetooth ++ b.toVirtual →
      op = .send out ∨ Op.send out ∈ t.toBluetooth ++ t.toVirtual := by
    intro out hout
    rw [hbefore] at hout
    rw [hafter]
    simp only [List.mem_append, List.mem_cons] at hout ⊢
    rcases hout with h | h | h
    · exact .inr (.inl (.inl h))
    · exact .inl h.symm
    · exact .inr (.inr h)
  have hstop : ∀ out, t.flush = .stopping out → b.flush = .stopping out ∨ out.label = .state :=
    fun out h => .inl (hflush ▸ h)
  cases effect with
  | silent last builds full labels refused =>
      refine inv.keeps ⟨?_, hstop⟩ last himage builds (.inl hflush) full ?_ hphase
      · intro out hout
        rcases hmem out hout with hold | hnew
        · exact .inl hold
        · rcases labels out hnew with h | h <;> simp [h]
      · intro out
        simp only [Pending, hflush]
        refine and_congr_right fun hlabel => or_congr_left ⟨fun hout => ?_, fun hout => ?_⟩
        · rcases hmem out hout with hold | hnew
          · exact hold
          · rcases labels out hnew with h | h <;> simp [h] at hlabel
        · rcases hstay out hout with rfl | hstays
          · exact absurd (ok out rfl hlabel).1 (refused out rfl hlabel)
          · exact hstays
  | builds new hop hops label number carries last builds full =>
      refine inv.builds ⟨?_, hstop⟩ number carries last himage builds full ?_ (.inl hflush) hphase
      · intro out hout
        rcases hmem out hout with hold | hnew
        · exact .inl hold
        · rw [hops] at hnew
          obtain ⟨⟩ := List.mem_singleton.mp hnew
          simp [label]
      · intro out
        simp only [Pending, hflush]
        constructor
        · rintro ⟨hlabel, hout | hstop⟩
          · rcases hmem out hout with hold | hnew
            · exact .inl ⟨hlabel, .inl hold⟩
            · rw [hops] at hnew
              obtain ⟨⟩ := List.mem_singleton.mp hnew
              exact .inr rfl
          · exact .inl ⟨hlabel, .inr hstop⟩
        · rintro (⟨hlabel, hout | hstop⟩ | rfl)
          · rcases hstay out hout with h | hstays
            · rw [hop] at h
              cases h
            · exact ⟨hlabel, .inl hstays⟩
          · exact ⟨hlabel, .inr hstop⟩
          · refine ⟨label, .inl ?_⟩
            rw [hafter, hops]
            simp
  | accepts out hop hops label state builds full =>
      obtain ⟨-, hnewest⟩ := ok out hop label
      have hout : Pending b out := by
        refine ⟨label, .inl ?_⟩
        rw [hbefore, hop]
        simp
      refine inv.accepts ⟨?_, hstop⟩ hout hnewest full (by rw [state]) (by rw [state]) builds ?_ ?_
        (.inl hflush) hphase
      · intro other hother
        rcases hmem other hother with hold | hnew
        · exact .inl hold
        · rw [hops] at hnew
          cases hnew
      · rintro other ⟨hlabel, hother | hstop⟩
        · rcases hmem other hother with hold | hnew
          · exact ⟨hlabel, .inl hold⟩
          · rw [hops] at hnew
            cases hnew
        · exact ⟨hlabel, .inr (hflush ▸ hstop)⟩
      · rintro other ⟨hlabel, hother | hstop⟩
        · rcases hstay other hother with h | hstays
          · rw [hop] at h
            cases h
            exact .inl rfl
          · exact .inr ⟨hlabel, .inl hstays⟩
        · exact .inr ⟨hlabel, .inr (hflush.trans hstop)⟩

/-- A section of a thread whose program gets no state report to send. -/
theorem runsSection (inv : Inv media b) (sec : Section b t) (hphase : b.phase = .running)
    (himage : AudioAccepted b → t.state.image = b.state.image)
    (hold : ∀ out, Op.send out ∈ b.toBluetooth ++ b.toVirtual →
      Op.send out ∈ t.toBluetooth ++ t.toVirtual)
    (hnew : ∀ out, Op.send out ∈ t.toBluetooth ++ t.toVirtual →
      Op.send out ∈ b.toBluetooth ++ b.toVirtual ∨ out.label = .mic ∨ out.label = .micState) :
    Inv media t := by
  refine inv.keeps ⟨?_, fun out h => .inl (sec.flush ▸ h)⟩ sec.last himage sec.builds
    (.inl sec.flush) (by rw [fullStates, fullStates, sec.accepted]) ?_ (sec.phase.trans hphase)
  · intro out hout
    rcases hnew out hout with h | h | h
    · exact .inl h
    · simp [h]
    · simp [h]
  · intro out
    simp only [Pending, sec.flush]
    refine and_congr_right fun hlabel => or_congr_left ⟨fun hout => ?_, hold out⟩
    rcases hnew out hout with h | h | h
    · exact h
    · simp [h] at hlabel
    · simp [h] at hlabel

theorem virtualFrame (inv : Inv media b) (frame : Frame) (hphase : b.phase = .running)
    (hempty : b.toBluetooth = [])
    (himage : AudioAccepted b →
      (handleVirtualFrame media tuning b frame).state.image = b.state.image) :
    Inv media (handleVirtualFrame media tuning b frame) := by
  have htoVirtual : (handleVirtualFrame media tuning b frame).toVirtual = b.toVirtual :=
    handleVirtualFrame_toVirtual frame
  refine inv.runsSection (handleVirtualFrame_section frame) hphase himage ?_ ?_
  · intro out hout
    rw [hempty, List.nil_append] at hout
    rw [htoVirtual]
    exact List.mem_append_right _ hout
  · intro out hout
    rcases List.mem_append.mp hout with h | h
    · exact absurd h (send_notMem_handleVirtualFrame frame hempty out)
    · rw [htoVirtual] at h
      exact .inl (List.mem_append_right _ h)

theorem bluetoothFrame (inv : Inv media b) (frame : Frame) (muteRequest : Option Bool)
    (hphase : b.phase = .running) (hempty : b.toVirtual = [])
    (himage : AudioAccepted b →
      (handleBluetoothFrame media b frame muteRequest).state.image = b.state.image) :
    Inv media (handleBluetoothFrame media b frame muteRequest) := by
  have htoBluetooth : (handleBluetoothFrame media b frame muteRequest).toBluetooth =
      b.toBluetooth := handleBluetoothFrame_toBluetooth frame muteRequest
  refine inv.runsSection (handleBluetoothFrame_section frame muteRequest) hphase himage ?_ ?_
  · intro out hout
    rw [hempty, List.append_nil] at hout
    rw [htoBluetooth]
    exact List.mem_append_left _ hout
  · intro out hout
    rcases List.mem_append.mp hout with h | h
    · rw [htoBluetooth] at h
      exact .inl (List.mem_append_left _ h)
    · exact .inr (label_handleBluetoothFrame hempty h)

/-- A step of the flush between two packets. -/
theorem flushRests (inv : Inv media b) (frame : FlushFrame b t) (hphase : b.phase = .running)
    (hbefore : ¬AudioUnderWay b ∧ ∀ out, b.flush ≠ .stopping out)
    (effect : FlushEffect b t) : Inv media t := by
  have hpending : (∀ out, t.flush ≠ .stopping out) → ∀ out, Pending t out ↔ Pending b out := by
    intro hstop out
    simp only [Pending, frame.toBluetooth, frame.toVirtual, hstop, hbefore.2]
  have hlabels : ∀ out, Op.send out ∈ t.toBluetooth ++ t.toVirtual →
      Op.send out ∈ b.toBluetooth ++ b.toVirtual ∨ out.label ≠ .audio ∧ out.label ≠ .init := by
    intro out hout
    rw [frame.toBluetooth, frame.toVirtual] at hout
    exact .inl hout
  have hfull : fullStates t = fullStates b := by rw [fullStates, fullStates, frame.accepted]
  have hrunning : t.phase = .running := frame.phase.trans hphase
  cases effect with
  | rests last builds idle stopping =>
      exact inv.keeps ⟨hlabels, fun out h => absurd h (stopping out)⟩ last
        (fun h => absurd h.underWay hbefore.1) builds (.inr ⟨hbefore.1, idle⟩) hfull
        (hpending stopping) hrunning
  | audio packet audio flush number carries last builds =>
      exact inv.buildsAudio ⟨hlabels, by simp [flush]⟩ flush number carries hbefore.1 last builds
        hfull (hpending (by simp [flush])) hrunning
  | stops new flush label number carries last builds =>
      have hstop : ∀ out, t.flush = .stopping out →
          b.flush = .stopping out ∨ out.label = .state := by
        intro out hout
        rw [flush] at hout
        cases hout
        exact .inr label
      refine inv.builds ⟨hlabels, hstop⟩ number carries last
        (fun h => absurd h.underWay hbefore.1) builds hfull ?_
        (.inr ⟨hbefore.1, by simp [AudioUnderWay, AudioAccepted, flush]⟩) hrunning
      intro out
      simp only [Pending, frame.toBluetooth, frame.toVirtual, flush, hbefore.2, or_false,
        FlushPc.stopping.injEq]
      constructor
      · rintro ⟨hlabel, hout | rfl⟩
        · exact .inl ⟨hlabel, hout⟩
        · exact .inr rfl
      · rintro (⟨hlabel, hout⟩ | rfl)
        · exact ⟨hlabel, .inl hout⟩
        · exact ⟨label, .inr rfl⟩

/-- The state report of a stopped stream is written. -/
theorem flushStops (inv : Inv media b) {out : Outgoing} (hflush : b.flush = .stopping out)
    (hphase : b.phase = .running) (hnewest : Newest b out) :
    Inv media { trySendBtOutputReport b out .sent with flush := .idle } := by
  have hidle : FlushKept b { trySendBtOutputReport b out .sent with flush := .idle } :=
    .inr ⟨by simp [AudioUnderWay, AudioAccepted, hflush], by simp [AudioUnderWay, AudioAccepted]⟩
  have hlabel := inv.stopping out hflush
  refine inv.accepts ⟨fun _ hout => .inl hout, by simp⟩ ⟨hlabel, .inr hflush⟩ hnewest
    (fullStates_append rfl (.inl hlabel)) rfl rfl rfl ?_ ?_ hidle hphase
  · rintro other ⟨hother, hmem | hstop⟩
    · exact ⟨hother, .inl hmem⟩
    · cases hstop
  · rintro other ⟨hother, hmem | hstop⟩
    · exact .inr ⟨hother, .inl hmem⟩
    · rw [hflush] at hstop
      cases hstop
      exact .inl rfl

theorem running_of_flush (inv : Inv media b) (hflush : b.flush ≠ .idle) : b.phase = .running := by
  by_contra hphase
  exact hflush (inv.starting hphase).2.2.2

/-- The write of an audio packet. -/
theorem flushSends (inv : Inv media b) {outcome : SendOutcome} {out : Outgoing} {audio : AudioSend}
    (hflush : b.flush = .sending out audio) (hphase : b.phase = .running)
    (hsent : outcome = .sent → IsFullState out ∧ UpToDate b out audio) :
    Inv media { trySendBtOutputReport b out outcome with
      flush := .finishing out audio (outcome == .sent) } := by
  have hpending : ∀ {c : Session E D}, c.toBluetooth = b.toBluetooth → c.toVirtual = b.toVirtual →
      (∀ other, c.flush ≠ .stopping other) → ∀ other, Pending c other ↔ Pending b other := by
    intro c h1 h2 h3 other
    simp only [Pending, h1, h2, h3, hflush, reduceCtorEq]
  have hlabels : ∀ {c : Session E D}, c.toBluetooth = b.toBluetooth → c.toVirtual = b.toVirtual →
      (∀ other, c.flush ≠ .stopping other) → LabelsKept b c := by
    intro c h1 h2 h3
    exact ⟨fun other hother => .inl (by rwa [h1, h2] at hother),
      fun other hother => absurd hother (h3 other)⟩
  cases outcome with
  | sent =>
      obtain ⟨hfullState, hupToDate⟩ := hsent rfl
      exact inv.acceptsAudio hflush hfullState hupToDate (hlabels rfl rfl (by simp)) rfl
        (fullStates_append rfl hfullState) rfl rfl (hpending rfl rfl (by simp)) hphase
  | queueFull =>
      exact inv.dropsAudio hflush (hlabels rfl rfl (by simp)) rfl rfl rfl rfl
        (hpending rfl rfl (by simp)) hphase
  | exception =>
      exact inv.dropsAudio hflush (hlabels rfl rfl (by simp)) rfl rfl rfl rfl
        (hpending rfl rfl (by simp)) hphase

theorem flushFinish (inv : Inv media b) {packet : Outgoing} {audio : AudioSend} {sent : Bool}
    (hflush : b.flush = .finishing packet audio sent) (hphase : b.phase = .running) :
    Inv media { b with
      state := Bridge.flushFinish tuning b.state audio sent, flush := .idle } := by
  have hlabels : LabelsKept b { b with
      state := Bridge.flushFinish tuning b.state audio sent, flush := .idle } :=
    ⟨fun _ hout => .inl hout, by simp⟩
  have hpending : ∀ out, Pending { b with
      state := Bridge.flushFinish tuning b.state audio sent, flush := .idle } out ↔
        Pending b out := by
    intro out
    simp only [Pending, hflush, reduceCtorEq]
  cases sent with
  | true => exact inv.finishes hflush hlabels rfl rfl rfl rfl rfl hpending hphase
  | false =>
      have hrest : ¬AudioUnderWay b := by simp [AudioUnderWay, AudioAccepted, hflush]
      exact inv.keeps hlabels rfl (fun hway => absurd hway.underWay hrest) rfl
        (.inr ⟨hrest, by simp [AudioUnderWay, AudioAccepted]⟩) rfl hpending hphase

theorem sendInit (inv : Inv media b) (hphase : b.phase = .created) :
    Inv media { trySendBtOutputReport b
      ⟨.init, b.state.outputState.buildBtInitReport.toList, b.builds⟩ .sent with
        phase := .initSent, builds := b.builds + 1 } := by
  obtain ⟨hstate, htoBluetooth, htoVirtual, hflush⟩ := inv.starting (by simp [hphase])
  have hnone : b.state.lastSentState = none := by rw [hstate]; rfl
  have hpending : ∀ out, ¬Pending b out := by
    intro out
    simp [Pending, htoBluetooth, htoVirtual, hflush]
  have hfull := fullStates_append (b := b) (t := { trySendBtOutputReport b
    ⟨.init, b.state.outputState.buildBtInitReport.toList, b.builds⟩ .sent with
      phase := .initSent, builds := b.builds + 1 }) rfl (.inr (.inl rfl))
  constructor
  case labels => exact inv.labels
  case stopping => exact inv.stopping
  case pending_lt => exact fun out hout => absurd hout (hpending out)
  case accepted_lt =>
    intro out hout
    rw [hfull] at hout
    rcases List.mem_append.mp hout with hold | hnew
    · exact Nat.lt_succ_of_lt (inv.accepted_lt out hold)
    · obtain rfl := List.mem_singleton.mp hnew
      exact Nat.lt_succ_self _
  case order => exact fun state hlast => by simp [trySendBtOutputReport, hnone] at hlast
  case recorded => exact fun state hlast => by simp [trySendBtOutputReport, hnone] at hlast
  case sending => simp [trySendBtOutputReport, hflush]
  case finishing => simp [trySendBtOutputReport, hflush]
  case starting => exact fun _ => ⟨hstate, htoBluetooth, htoVirtual, hflush⟩
  case initSent =>
    exact fun _ => lastCarries_append hfull (carries_buildBtInitReport b.state.outputState b.builds)

/-- Closing the headset microphone of a fresh state changes no byte of it. -/
theorem image_finishInit : (Bridge.finishInit media (BridgeState.new media)).image =
    (BridgeState.new media).image := by
  have hsame : (DsOutputState.new.setHeadsetMicPlugged false).state = DsOutputState.new.state := by
    decide
  exact hsame

theorem finishInit (inv : Inv media b) (hphase : b.phase = .initSent) :
    Inv media { b with state := Bridge.finishInit media b.state, phase := .running } := by
  obtain ⟨hstate, htoBluetooth, htoVirtual, hflush⟩ := inv.starting (by simp [hphase])
  have hpending : ∀ out, ¬Pending { b with
      state := Bridge.finishInit media b.state, phase := .running } out := by
    intro out
    simp [Pending, htoBluetooth, htoVirtual, hflush]
  have himage : (Bridge.finishInit media b.state).image = b.state.image := by
    rw [hstate]
    exact image_finishInit
  constructor
  case labels => exact inv.labels
  case stopping => exact inv.stopping
  case pending_lt => exact fun out hout => absurd hout (hpending out)
  case accepted_lt => exact inv.accepted_lt
  case order => exact fun state _ out hout => absurd hout (hpending out)
  case recorded =>
    rintro state ⟨⟩
    refine .inr (.inl ?_)
    change LastCarries b (Bridge.finishInit media b.state).image
    rw [himage]
    exact inv.initSent hphase
  case sending => simp [hflush]
  case finishing => simp [hflush]
  case starting => simp
  case initSent => simp

theorem running_of_toBluetooth (inv : Inv media b) (h : b.toBluetooth ≠ []) :
    b.phase = .running := by
  by_contra hphase
  exact h (inv.starting hphase).2.1

theorem running_of_toVirtual (inv : Inv media b) (h : b.toVirtual ≠ []) :
    b.phase = .running := by
  by_contra hphase
  exact h (inv.starting hphase).2.2.1

theorem virtualOp (inv : Inv media b) {outcome : SendOutcome} {feature : Option (List UInt8)}
    {op : Op} {rest : List Op} (hprogram : b.toBluetooth = op :: rest)
    (horder : AcceptedInOrder b b.toBluetooth outcome)
    (himage : AudioAccepted b → (runOp b outcome feature op).1.state.image = b.state.image) :
    Inv media { (runOp b outcome feature op).1 with
      toBluetooth := (runOp b outcome feature op).2 ++ rest } := by
  obtain ⟨-, htoVirtual, hflush, hphase⟩ := runOp_opFrame (b := b) outcome feature op
  have hrunning := inv.running_of_toBluetooth (by simp [hprogram])
  have hlabel : ∀ out, op = .send out → out.label ≠ .audio ∧ out.label ≠ .init := by
    rintro out rfl
    exact inv.labels out (by simp [hprogram])
  have hbefore : b.toBluetooth ++ b.toVirtual = [] ++ op :: (rest ++ b.toVirtual) := by
    simp [hprogram]
  have heffect := runOp_effect (b := b) outcome feature hlabel
  refine inv.runsOp hbefore ?_ (heffect.of_eq rfl rfl rfl) hflush (hphase.trans hrunning) himage ?_
  · simp [htoVirtual]
  · rintro out rfl
    exact horder out (by simp [hprogram])

theorem bluetoothOp (inv : Inv media b) {outcome : SendOutcome} {feature : Option (List UInt8)}
    {op : Op} {rest : List Op} (hprogram : b.toVirtual = op :: rest)
    (horder : AcceptedInOrder b b.toVirtual outcome)
    (himage : AudioAccepted b → (runOp b outcome feature op).1.state.image = b.state.image) :
    Inv media { (runOp b outcome feature op).1 with
      toVirtual := (runOp b outcome feature op).2 ++ rest } := by
  obtain ⟨htoBluetooth, -, hflush, hphase⟩ := runOp_opFrame (b := b) outcome feature op
  have hrunning := inv.running_of_toVirtual (by simp [hprogram])
  have hlabel : ∀ out, op = .send out → out.label ≠ .audio ∧ out.label ≠ .init := by
    rintro out rfl
    exact inv.labels out (by simp [hprogram])
  have hbefore : b.toBluetooth ++ b.toVirtual = b.toBluetooth ++ op :: rest := by
    simp [hprogram]
  have heffect := runOp_effect (b := b) outcome feature hlabel
  refine inv.runsOp hbefore ?_ (heffect.of_eq rfl rfl rfl) hflush (hphase.trans hrunning) himage ?_
  · simp [htoBluetooth]
  · rintro out rfl
    exact horder out (by simp [hprogram])

theorem enqueueWaveout (inv : Inv media b) (hidle : b.flush = .idle) (hphase : b.phase = .running) :
    Inv media { b with
      state := enqueueSpeakerWaveoutChunk media tuning b.state, flush := .enqueued } := by
  refine inv.flushRests ⟨rfl, rfl, rfl, rfl⟩ hphase ?_ ?_
  · simp [AudioUnderWay, AudioAccepted, hidle]
  · refine .rests ?_ rfl (by simp [AudioUnderWay, AudioAccepted]) (by simp)
    simp only [enqueueSpeakerWaveoutChunk]
    split_ifs <;> rfl

theorem step {action : Action} (inv : Inv media b) (ok : SendGuard media tuning b action)
    (h : Bridge.step media tuning b action = some t) : Inv media t := by
  obtain ⟨hkeeps, hguard⟩ := ok
  have himage := fun hway => hkeeps hway t h
  cases steps_of_step h with
  | sendInit outcome created =>
      obtain rfl := hguard
      exact inv.sendInit created
  | finishInit sent => exact inv.finishInit sent
  | virtualFrame frame running ready => exact inv.virtualFrame frame running ready himage
  | virtualOp outcome feature op rest program => exact inv.virtualOp program hguard himage
  | bluetoothFrame frame muteRequest running ready =>
      exact inv.bluetoothFrame frame muteRequest running ready himage
  | bluetoothOp outcome feature op rest program => exact inv.bluetoothOp program hguard himage
  | enqueueWaveout idle running => exact inv.enqueueWaveout idle running
  | flushBegin now enqueued =>
      have hphase := inv.running_of_flush (by simp [enqueued])
      have begins : Begins tuning b now (flushBegin tuning b now) := begins_flushBegin b now
      exact inv.flushRests (.of_begins begins) hphase
        (by simp [AudioUnderWay, AudioAccepted, enqueued]) (.of_begins begins)
  | flushStops outcome out stopping =>
      obtain ⟨rfl, hnewest⟩ := hguard.1 out stopping
      exact inv.flushStops stopping (inv.running_of_flush (by simp [stopping])) hnewest
  | flushSends outcome out audio sending =>
      refine inv.flushSends sending (inv.running_of_flush (by simp [sending])) fun hsent => ?_
      obtain ⟨hfullState, -, hupToDate⟩ := hguard.2 out audio sending hsent
      exact ⟨hfullState, hupToDate⟩
  | flushFinish out audio sent finishing =>
      exact inv.flushFinish finishing (inv.running_of_flush (by simp [finishing]))

theorem new : Inv media (Session.new media) where
  labels := by simp [Session.new]
  stopping := by simp [Session.new]
  pending_lt := by simp [Pending, Session.new]
  accepted_lt := by simp [fullStates, Session.new]
  order := by simp [Session.new, BridgeState.new]
  recorded := by simp [Session.new, BridgeState.new]
  sending := by simp [Session.new]
  finishing := by simp [Session.new]
  starting := fun _ => ⟨rfl, rfl, rfl, rfl⟩
  initSent := by simp [Session.new]

/-- In a quiet state the recorded image is with the controller. -/
theorem noLostUpdate (inv : Inv media b) : NoLostUpdate b := by
  rintro ⟨hprograms, hstopping, -⟩ hlast
  rcases inv.recorded b.state.image hlast with
    ⟨out, ⟨-, hsend | hstop⟩, -⟩ | hcarries | ⟨packet, audio, hfinishing⟩
  · exact absurd rfl (hprograms _ hsend out)
  · exact absurd hstop (hstopping out)
  · exact hcarries
  · obtain ⟨-, last, hmem, -, hcarries⟩ := inv.finishing packet audio hfinishing
    exact ⟨last, hmem, hcarries⟩

end Inv

/-- In every run whose steps meet the condition on the environment, no update is
lost. -/
theorem noLostUpdate_of_guardedRun {media : Media E D} {tuning : Tuning}
    {actions : List Action} {t : Session E D}
    (run : GuardedRun (step media tuning) (SendGuard media tuning) (Session.new media) actions t) :
    NoLostUpdate t :=
  (run.invariant (fun _ _ _ inv ok h => inv.step ok h) Inv.new).noLostUpdate

section Examples

/-- An output report that starts both motors. -/
def rumbleReport : Frame where
  type := .usbHidOut
  payload := [kUsbOutputReportId, 0x03, 0x00, 0xff, 0xff] ++ List.replicate 43 0
  payload_le := by decide

theorem quiet_of_idle {b : Session E D} (htoBluetooth : b.toBluetooth = [])
    (htoVirtual : b.toVirtual = []) (hflush : b.flush = .idle) : Quiet b := by
  simp [Quiet, htoBluetooth, htoVirtual, hflush]

theorem guardedRun_rumble : ∃ t, GuardedRun (step silentMedia .default)
    (SendGuard silentMedia .default) (Session.new silentMedia)
    [.sendInit .sent, .finishInit, .virtualFrame rumbleReport, .virtualOp .sent none,
      .virtualOp .sent none] t ∧ t.state.lastSentState = some t.state.image := by
  refine ⟨_, .cons ?_ rfl (.cons ?_ rfl (.cons ?_ rfl (.cons ?_ rfl (.cons ?_ rfl (.nil _))))), ?_⟩
  · exact ⟨fun h => h.elim, rfl⟩
  · exact ⟨fun h => h.elim, trivial⟩
  · exact ⟨fun h => h.elim, trivial⟩
  · exact ⟨fun h => h.elim, fun out h => by cases h⟩
  · refine ⟨fun h => h.elim, fun out h _ => ⟨rfl, ?_⟩⟩
    cases h
    decide
  · decide

/-- A run in which a rumble report reaches the controller. -/
theorem noLostUpdate_rumble : ∃ t, GuardedRun (step silentMedia .default)
    (SendGuard silentMedia .default) (Session.new silentMedia)
    [.sendInit .sent, .finishInit, .virtualFrame rumbleReport, .virtualOp .sent none,
      .virtualOp .sent none] t ∧ t.state.lastSentState = some t.state.image ∧ NoLostUpdate t := by
  obtain ⟨t, run, hlast⟩ := guardedRun_rumble
  exact ⟨t, run, hlast, noLostUpdate_of_guardedRun run⟩

/-- The write of the rumble report throws, and the bridge takes it for sent. -/
theorem rumble_lost : ∃ t, Run (step silentMedia .default) (Session.new silentMedia)
    [.sendInit .sent, .finishInit, .virtualFrame rumbleReport, .virtualOp .sent none,
      .virtualOp .exception none] t ∧ ¬NoLostUpdate t := by
  refine ⟨_, run_of_execute rfl, fun hlost => ?_⟩
  obtain ⟨out, hlast, hcarries⟩ := hlost (quiet_of_idle rfl rfl rfl) (by decide)
  -- the last full report that was accepted is the init report, with the motors off
  obtain rfl : ⟨.init, DsOutputState.new.buildBtInitReport.toList, 0⟩ = out := Option.some.inj hlast
  have hmotor := (getElem?_buildBtInitReport DsOutputState.new 2).symm.trans
    (hcarries 2 (by decide))
  revert hmotor
  decide

end Examples

end VirtualDualSense.Win32.LastSentState
