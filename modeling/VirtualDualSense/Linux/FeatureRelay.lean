import VirtualDualSense.Linux.DaemonSteps

/-!
# Feature reports in the daemon

The daemon copies feature reports from the controller to its cache and from there to the
kernel. Apart from the results it makes up for test commands, every report it caches or
writes was in its cache before or has just come from the controller.
-/

namespace VirtualDualSense.Linux.FeatureRelay

open Protocol.Frames Protocol.OutputState Protocol.BtPackets Protocol.BridgeParts Daemon
  DaemonSteps

/-- The result that the daemon makes up for a test command. -/
def testResult (device action : UInt8) : List UInt8 :=
  [kTestCommandResultReportId, device, action, kTestCommandCompleteStatus] ++ List.replicate 60 0

def Synthetic (report : List UInt8) : Prop := ∃ device action, report = testResult device action

theorem synthetic_iff {report : List UInt8} :
    report = testResult (report.getD 1 0) (report.getD 2 0) ↔ Synthetic report := by
  refine ⟨fun h => ⟨_, _, h⟩, ?_⟩
  rintro ⟨device, action, rfl⟩
  rfl

instance (report : List UInt8) : Decidable (Synthetic report) := decidable_of_iff _ synthetic_iff

variable {E D : Type*} {media : Media E D} {known : List UInt8 → Prop} {b b' b'' : Bridge E D}

/-- A step of the daemon whose new copies of feature reports are all `known`. -/
structure Relays (known : List UInt8 → Prop) (b b' : Bridge E D) : Prop where
  writes : ∃ new, b'.portWrites = b.portWrites ++ new ∧
    ∀ frame ∈ new, frame.type = .usbFeatureReply → known frame.payload
  cache : ∀ reportId report, b'.port.featureCache reportId = some report →
    known report ∧ report.head? = some reportId ∨ b.port.featureCache reportId = some report

namespace Relays

theorem of_eq (hwrites : b'.portWrites = b.portWrites)
    (hcache : b'.port.featureCache = b.port.featureCache) : Relays known b b' where
  writes := ⟨[], by rw [hwrites, List.append_nil], fun _ h => absurd h List.not_mem_nil⟩
  cache := fun reportId report h => .inr (by rwa [← hcache])

theorem after (second : Relays known b' b'') (first : Relays known b b') :
    Relays known b b'' where
  writes := by
    obtain ⟨new, hnew, hknown⟩ := first.writes
    obtain ⟨more, hmore, hknown'⟩ := second.writes
    refine ⟨new ++ more, by rw [hmore, hnew, List.append_assoc], ?_⟩
    intro frame hframe
    exact (List.mem_append.mp hframe).elim (hknown frame) (hknown' frame)
  cache := fun reportId report h =>
    (second.cache reportId report h).elim .inl (first.cache reportId report)

theorem mono {known' : List UInt8 → Prop} (h : Relays known b b')
    (himp : ∀ report, known report → known' report) : Relays known' b b' where
  writes := by
    obtain ⟨new, hnew, hknown⟩ := h.writes
    exact ⟨new, hnew, fun frame hframe htype => himp _ (hknown frame hframe htype)⟩
  cache := fun reportId report hcached =>
    (h.cache reportId report hcached).imp_left fun hknown => ⟨himp _ hknown.1, hknown.2⟩

theorem writeVdsFrame {type : FrameType} {payload : List UInt8}
    (h : type = .usbFeatureReply → known payload) :
    Relays known b (Daemon.writeVdsFrame b type payload) := by
  unfold Daemon.writeVdsFrame frameBytes
  split
  · rename_i frame hframe
    split at hframe
    · cases hframe
    · obtain rfl := Except.ok.inj hframe
      refine ⟨⟨_, rfl, ?_⟩, fun _ _ => .inr⟩
      intro frame hmem
      obtain rfl := List.mem_singleton.mp hmem
      exact h
  · exact .of_eq rfl rfl

/-- A report is put into the cache. -/
theorem update {reportId : UInt8} {report : List UInt8} (h : known report)
    (hhead : report.head? = some reportId) (hwrites : b'.portWrites = b.portWrites)
    (hcache : b'.port.featureCache =
      Function.update b.port.featureCache reportId (some report)) : Relays known b b' where
  writes := ⟨[], by rw [hwrites, List.append_nil], fun _ h => absurd h List.not_mem_nil⟩
  cache := by
    intro other cached hcached
    rw [hcache] at hcached
    rcases eq_or_ne other reportId with rfl | hne
    · rw [Function.update_self] at hcached
      obtain rfl := Option.some.inj hcached
      exact .inl ⟨h, hhead⟩
    · rw [Function.update_of_ne hne] at hcached
      exact .inr hcached

/-- A report is put into the cache and handed to the kernel. -/
theorem cacheFeatureReport {report : List UInt8} (h : known report) :
    Relays known b (Daemon.cacheFeatureReport b report) := by
  unfold Daemon.cacheFeatureReport
  split
  · exact .of_eq rfl rfl
  · exact (writeVdsFrame fun _ => h).after (.update h rfl rfl rfl)

end Relays

section Output

/-- A step that neither writes to the port nor changes the cache. -/
structure Quiet (b b' : Bridge E D) : Prop where
  writes : b'.portWrites = b.portWrites
  cache : b'.port.featureCache = b.port.featureCache

theorem Quiet.relays (h : Quiet b b') : Relays known b b' := .of_eq h.writes h.cache

theorem Relays.quiet (first : Relays known b b') (second : Quiet b' b'') : Relays known b b'' :=
  second.relays.after first

theorem Quiet.after (second : Quiet b' b'') (first : Quiet b b') : Quiet b b'' :=
  ⟨second.writes.trans first.writes, second.cache.trans first.cache⟩

theorem quiet_trySendOutputReport (report : List UInt8) (outcome : SendOutcome) :
    Quiet b (trySendOutputReport b report outcome) := by
  cases outcome <;> exact ⟨rfl, rfl⟩

theorem quiet_flushPendingBtStateReport (outcome : SendOutcome) :
    Quiet b (flushPendingBtStateReport b outcome).1 := by
  unfold flushPendingBtStateReport
  split
  · cases outcome <;> exact ⟨rfl, rfl⟩
  · exact ⟨rfl, rfl⟩

theorem quiet_forwardBtStateIfChanged (first second : SendOutcome) :
    Quiet b (forwardBtStateIfChanged b first second) := by
  refine .after ?_ (quiet_flushPendingBtStateReport first)
  unfold forwardBtStateIfChanged
  dsimp only
  split_ifs
  · exact ⟨rfl, rfl⟩
  · exact ⟨rfl, rfl⟩
  · exact ⟨rfl, rfl⟩
  · cases second <;> exact ⟨rfl, rfl⟩

theorem quiet_forwardIfBackend (first second : SendOutcome) :
    Quiet b (forwardIfBackend b first second) := by
  unfold forwardIfBackend
  split
  · exact quiet_forwardBtStateIfChanged first second
  · exact ⟨rfl, rfl⟩

theorem quiet_sendMicStateReport (outcome : SendOutcome) :
    Quiet b (sendMicStateReport b outcome) := by
  cases outcome <;> exact ⟨rfl, rfl⟩

theorem quiet_sendMicReport (outcome : SendOutcome) : Quiet b (sendMicReport b outcome) := by
  cases outcome <;> exact ⟨rfl, rfl⟩

theorem quiet_handleInterfaceEvent (payload : List UInt8) (first second : SendOutcome) :
    Quiet b (handleInterfaceEvent media b payload first second) := by
  unfold handleInterfaceEvent
  dsimp only
  split
  · split
    · split
      · exact ⟨rfl, rfl⟩
      · exact (quiet_forwardIfBackend first second).after ⟨rfl, rfl⟩
    · split
      · split
        · refine (quiet_sendMicReport second).after ?_
          exact (quiet_sendMicStateReport first).after ⟨rfl, rfl⟩
        · exact ⟨rfl, rfl⟩
      · exact ⟨rfl, rfl⟩
  · exact ⟨rfl, rfl⟩

theorem quiet_handleHidOut (payload : List UInt8) (first second : SendOutcome) :
    Quiet b (handleHidOut b payload first second) := by
  unfold handleHidOut
  split
  · exact ⟨rfl, rfl⟩
  · dsimp only
    split
    · exact (quiet_forwardIfBackend first second).after ⟨rfl, rfl⟩
    · exact (quiet_forwardIfBackend first second).after ⟨rfl, rfl⟩

theorem quiet_handleAudioOut (payload : List UInt8) : Quiet b (handleAudioOut media b payload) := by
  unfold handleAudioOut
  split <;> exact ⟨rfl, rfl⟩

theorem quiet_handleMicInput (report : UsbInputReport) (outcome : SendOutcome) :
    Quiet b (handleMicInput b report outcome) := by
  unfold handleMicInput
  dsimp only
  split
  · exact (quiet_sendMicStateReport outcome).after ⟨rfl, rfl⟩
  · exact ⟨rfl, rfl⟩

theorem quiet_handleHeadsetInput (report : UsbInputReport) (first second : SendOutcome) :
    Quiet b (handleHeadsetInput b report first second) := by
  unfold handleHeadsetInput
  dsimp only
  split
  · split
    · exact (quiet_forwardBtStateIfChanged first second).after ⟨rfl, rfl⟩
    · exact ⟨rfl, rfl⟩
  · exact ⟨rfl, rfl⟩

theorem quiet_enqueueSpeakerWaveoutChunk : Quiet b (enqueueSpeakerWaveoutChunk media b) := by
  unfold enqueueSpeakerWaveoutChunk
  split <;> exact ⟨rfl, rfl⟩

theorem quiet_flushPendingAudioChunk (now later : Nat) (outcome : SendOutcome) :
    Quiet b (flushPendingAudioChunk b now later outcome) := by
  unfold flushPendingAudioChunk
  split
  · exact ⟨rfl, rfl⟩
  · split
    · exact ⟨rfl, rfl⟩
    · cases outcome with
      | wouldBlock => exact ⟨rfl, rfl⟩
      | sent =>
          dsimp only
          split <;> exact ⟨rfl, rfl⟩

theorem quiet_flushPendingOutputs (now later : Nat) (first second : SendOutcome) :
    Quiet b (flushPendingOutputs media b now later first second) := by
  have hflush := quiet_flushPendingBtStateReport (b := b) first
  unfold flushPendingOutputs
  dsimp only
  split
  · exact ((quiet_flushPendingAudioChunk now later second).after
      quiet_enqueueSpeakerWaveoutChunk).after hflush
  · exact hflush

end Output

section Features

theorem relays_handleFeatureGet (payload : List UInt8)
    (h : ∀ reportId report, b.port.featureCache reportId = some report → known report) :
    Relays known b (handleFeatureGet b payload) := by
  unfold handleFeatureGet
  split
  · exact .of_eq rfl rfl
  · split
    · rename_i report hcached
      exact .writeVdsFrame fun _ => h _ report hcached
    · split
      · exact .of_eq rfl rfl
      · exact .of_eq rfl rfl

theorem relays_handleTestCommand (command : List UInt8) (first second : SendOutcome)
    (h : ∀ report, Synthetic report → known report) :
    Relays known b (handleTestCommand media b command first second) := by
  unfold handleTestCommand
  split
  · rename_i device action data
    dsimp only
    have hcache : Relays known b (Daemon.cacheFeatureReport b
        ([kTestCommandResultReportId, device, action, kTestCommandCompleteStatus] ++
          List.replicate 60 0)) := .cacheFeatureReport (h _ ⟨device, action, rfl⟩)
    split
    · exact hcache.quiet ⟨rfl, rfl⟩
    · split
      · split
        · exact hcache
        · refine hcache.quiet ?_
          exact (quiet_forwardIfBackend first second).after ⟨rfl, rfl⟩
      · exact hcache
  · exact .of_eq rfl rfl

theorem relays_handleFeatureSet (payload : List UInt8) (first second : SendOutcome)
    (h : ∀ report, Synthetic report → known report) :
    Relays known b (handleFeatureSet media b payload first second) := by
  obtain ⟨c, _, hframe, htest⟩ := handleFeatureSet_frame (b := b) payload first second
  rw [hframe]
  rcases htest with rfl | ⟨_, _, -, -, rfl⟩
  · exact .of_eq rfl rfl
  · exact (relays_handleTestCommand _ first second h).quiet ⟨rfl, rfl⟩

/-- A frame of the kernel makes the daemon repeat a cached report or make up a result. -/
theorem relays_handleFrame (frame : Frame) (first second : SendOutcome) :
    Relays (fun report => Synthetic report ∨ ∃ reportId, b.port.featureCache reportId = some report)
      b (handleFrame media b frame first second) := by
  unfold handleFrame
  split
  · exact (quiet_handleInterfaceEvent _ first second).relays
  · exact (quiet_handleHidOut _ first second).relays
  · exact relays_handleFeatureGet _ fun reportId _ hcached => .inr ⟨reportId, hcached⟩
  · exact relays_handleFeatureSet _ first second fun _ => .inl
  · exact (quiet_handleAudioOut _).relays
  · exact .of_eq rfl rfl

theorem relays_handleBtInput (packet : List UInt8) (mic first second : SendOutcome) :
    Relays known b (handleBtInput media b packet mic first second) := by
  unfold handleBtInput
  split
  · unfold handleMicPacket
    split
    · split
      · exact .of_eq rfl rfl
      · dsimp only
        split
        · exact .of_eq rfl rfl
        · exact (Relays.writeVdsFrame (by simp)).after (.of_eq rfl rfl)
    · exact .of_eq rfl rfl
  · split
    · exact .of_eq rfl rfl
    · rename_i report _
      have hinput : Quiet b
          (handleHeadsetInput (handleMicInput b report mic) report first second) :=
        (quiet_handleHeadsetInput report first second).after (quiet_handleMicInput report mic)
      exact (Relays.writeVdsFrame (by simp)).after hinput.relays

theorem relays_handleBtControl (packet : List UInt8) :
    Relays (fun report => btFeatureToUsbFeatureReply packet = some report) b
      (handleBtControl b packet) := by
  unfold handleBtControl
  split
  · exact .of_eq rfl rfl
  · exact .of_eq rfl rfl
  · rename_i reportId rest hreply
    dsimp only
    split
    · exact (Relays.writeVdsFrame fun _ => hreply).after (.update hreply rfl rfl rfl)
    · exact .update hreply rfl rfl rfl

theorem relays_awaitFeatureReport (reportId : UInt8) (replies : List (List UInt8))
    (h : ∀ report ∈ replies, known report) :
    Relays known b (awaitFeatureReport b reportId replies).1 := by
  induction replies generalizing b with
  | nil => exact .of_eq rfl rfl
  | cons report rest ih =>
      have hcache : Relays known b (cacheFeatureReport b report) :=
        .cacheFeatureReport (h report List.mem_cons_self)
      simp only [awaitFeatureReport]
      split
      · exact hcache
      · exact (ih fun other hother => h other (List.mem_cons_of_mem _ hother)).after hcache

/-- What is left after the asked reply came are later replies. -/
theorem awaitFeatureReport_rest {reportId : UInt8} {replies rest : List (List UInt8)}
    (h : (awaitFeatureReport b reportId replies).2 = some rest) : rest ⊆ replies := by
  induction replies generalizing b with
  | nil => cases h
  | cons report more ih =>
      simp only [awaitFeatureReport] at h
      split at h
      · obtain rfl := Option.some.inj h
        exact List.subset_cons_self _ _
      · exact List.Subset.trans (ih h) (List.subset_cons_self _ _)

theorem relays_initializeBtController (ids : List UInt8) (replies : List (List UInt8))
    (h : ∀ report ∈ replies, known report) :
    Relays known b (initializeBtController b ids replies).1 := by
  induction ids generalizing b replies with
  | nil => exact .of_eq rfl rfl
  | cons reportId ids ih =>
      simp only [initializeBtController]
      have hawait := relays_awaitFeatureReport (b := { b with
        controlWrites := b.controlWrites ++ [featureGetPacket reportId] }) reportId replies h
      split
      · rename_i hnone
        rw [hnone] at hawait
        exact hawait.after (.of_eq rfl rfl)
      · rename_i b' rest hsome
        have hrest := awaitFeatureReport_rest (congrArg Prod.snd hsome)
        rw [hsome] at hawait
        have hprimed := ih rest (b := b') fun report hreport => h report (hrest hreport)
        exact hprimed.after (hawait.after (.of_eq rfl rfl))

/-- The priming of a new connection hands on the replies it was given. -/
theorem relays_completePendingController (replies : List (List UInt8)) (initSent connected : Bool) :
    Relays (· ∈ replies) b (completePendingController media b replies initSent connected) := by
  have hreset : Relays (· ∈ replies) b { b with port := resetVirtualPort media } :=
    ⟨⟨[], (List.append_nil _).symm, fun _ h => absurd h List.not_mem_nil⟩,
      fun _ _ hcached => by cases hcached⟩
  have hprime := (relays_initializeBtController kInitialFeatureReportIds replies
    fun _ => id).after hreset
  unfold completePendingController
  dsimp only
  split
  · rename_i hnone
    rwa [hnone] at hprime
  · rename_i b' hsome
    rw [hsome] at hprime
    split
    · exact (hprime.quiet (quiet_trySendOutputReport _ .sent)).quiet ⟨rfl, rfl⟩
    · exact hprime

end Features

end VirtualDualSense.Linux.FeatureRelay
