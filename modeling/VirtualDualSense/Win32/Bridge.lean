import VirtualDualSense.Protocol.BridgeParts
import VirtualDualSense.Lib.Runs

/-!
# The Windows bridge

One session bridges a virtual port and a controller with three threads: one
handles the frames of the virtual device, one the packets of the controller, and
one sends the queued audio. They share a state under a mutex and a transport
under another one. A thread never holds the first while it uses the second, so
between building a report and sending it the other threads may run.

## Implementation notes

A step is one critical section or one write. What a thread still has to do is
its program, a list of operations. Times are microseconds, and zero is the
default time point, as in the source. Diagnostics and their counters are left
out. Reports that carry the whole output state are numbered in the order in
which they were built.
-/

namespace VirtualDualSense.Win32.Bridge

open Protocol.Frames Protocol.OutputState Protocol.PcmAudioExtractor Protocol.BtPackets
  Protocol.BridgeParts

def kAudioUnderflowKeepaliveDelay : Nat := 25000
def kAudioJitterBufferMaxDelay : Nat := 120000
def kAudioOutputBaseInterval : Nat := (kPcmWindowFrames * 1000000 + 48000 / 2) / 48000
def kAudioLowWatermarkChunks : Nat := 0
def kAudioLowWatermarkPaceDelay : Nat := 0
def kAudioHighWatermarkCatchupDelay : Nat := 0

/-- The queue bounds that the environment may set, in their allowed ranges. -/
structure Tuning where
  kAudioPrimeChunks : Nat
  kAudioFreshQueueChunks : Nat
  prime_mem : 1 ≤ kAudioPrimeChunks ∧ kAudioPrimeChunks ≤ 64
  fresh_mem : 2 ≤ kAudioFreshQueueChunks ∧ kAudioFreshQueueChunks ≤ 128

def Tuning.default : Tuning := ⟨6, 12, by decide, by decide⟩

def Tuning.kMaxPendingAudioChunks (tuning : Tuning) : Nat :=
  max (tuning.kAudioFreshQueueChunks * 2) 24

def Tuning.kAudioHighWatermarkChunks (tuning : Tuning) : Nat :=
  max (tuning.kAudioFreshQueueChunks - 2) 1

structure BridgeState (E D : Type*) where
  outputState : DsOutputState
  extractor : Extractor E
  waveoutExtractor : Extractor E
  micDecoder : D
  hapticsBuilder : HapticsPacketBuilder
  pendingAudioChunks : List AudioChunk
  lastAudioChunk : Option AudioChunk
  featureCache : UInt8 → Option (List UInt8)
  nextHapticsSendTime : Nat
  audioJitterBufferStart : Nat
  audioQueueEmptySince : Nat
  lastSentState : Option DsState
  audioJitterBuffering : Bool
  audioOutStreamActive : Bool
  audioInStreamActive : Bool
  audioPcmStreamActive : Bool
  micMuted : Bool
  muteButtonDown : Bool
  headsetPlugged : Bool
  headsetMicPlugged : Bool
  speakerWaveoutSelected : Bool
  speakerWaveoutActive : Bool
  speakerWaveoutPhase : Nat

/-- The labels of `try_send_bt_output_report`. -/
inductive Label
  | state
  | micState
  | mic
  | audio
  | init
  deriving DecidableEq

/-- A report on its way to the transport. `number` full-state reports were built
before it. -/
structure Outgoing where
  label : Label
  report : List UInt8
  number : Nat
  deriving DecidableEq

/-- What a thread still has to do for the frame at hand. -/
inductive Op
  | stateIfChanged
  | micState (active : Bool) (micReport : BtInitReport)
  | send (out : Outgoing)
  | readFeature (reportId : UInt8)
  | writeFeature (payload : List UInt8)

/-- What the flush remembers of the packet it sends; the image it had at the time
is for the proofs only. -/
structure AudioSend where
  scheduledSendTime : Nat
  sendTime : Nat
  sendingConcealment : Bool
  sentAudioChunk : Option AudioChunk
  imageThen : DsState

inductive FlushPc
  | idle
  | enqueued
  | stopping (out : Outgoing)
  | sending (out : Outgoing) (audio : AudioSend)
  | finishing (out : Outgoing) (audio : AudioSend) (sent : Bool)

inductive Phase
  | created
  | initSent
  | running
  deriving DecidableEq

/-- One bridge session. `accepted` lists what the transport took, in order. -/
structure Session (E D : Type*) where
  state : BridgeState E D
  builds : Nat
  phase : Phase
  toBluetooth : List Op
  toVirtual : List Op
  flush : FlushPc
  accepted : List Outgoing
  virtualWrites : List (FrameType × List UInt8)
  featureWrites : List (List UInt8)

inductive SendOutcome
  | sent
  | queueFull
  | exception
  deriving DecidableEq

variable {E D : Type*} (media : Media E D) (tuning : Tuning)

def BridgeState.new : BridgeState E D where
  outputState := .new
  extractor := freshExtractor media.encoder
  waveoutExtractor := freshExtractor media.encoder
  micDecoder := media.decoder
  hapticsBuilder := .new
  pendingAudioChunks := []
  lastAudioChunk := none
  featureCache := fun _ => none
  nextHapticsSendTime := 0
  audioJitterBufferStart := 0
  audioQueueEmptySince := 0
  lastSentState := none
  audioJitterBuffering := true
  audioOutStreamActive := false
  audioInStreamActive := false
  audioPcmStreamActive := false
  micMuted := false
  muteButtonDown := false
  headsetPlugged := false
  headsetMicPlugged := false
  speakerWaveoutSelected := true
  speakerWaveoutActive := false
  speakerWaveoutPhase := 0

def Session.new : Session E D :=
  ⟨.new media, 0, .created, [], [], .idle, [], [], []⟩

/-- The image of the output state. -/
def BridgeState.image (s : BridgeState E D) : DsState := s.outputState.state

/-- `try_send_bt_output_report`: the audio label tries, the others wait and throw. -/
def trySendBtOutputReport (b : Session E D) (out : Outgoing) : SendOutcome → Session E D
  | .sent => { b with accepted := b.accepted ++ [out] }
  | .queueFull | .exception => b

/-- Build the full state report; it counts as sent from here on. -/
def buildStateReport (b : Session E D) : Session E D × Outgoing :=
  let (outputState, report) := b.state.outputState.buildBtStateReport
  ({ b with
      state := { b.state with outputState := outputState, lastSentState := some b.state.image }
      builds := b.builds + 1 },
    ⟨.state, report.toList, b.builds⟩)

def buildBtStateIfChanged (b : Session E D) : Option (Session E D × Outgoing) :=
  if b.state.lastSentState = some b.state.image then none else some (buildStateReport b)

/-- What every start and stop of a stream clears. -/
def clearStream (s : BridgeState E D) : BridgeState E D :=
  { s with
    pendingAudioChunks := []
    lastAudioChunk := none
    nextHapticsSendTime := 0
    audioJitterBufferStart := 0
    audioQueueEmptySince := 0 }

/-- An event of the audio OUT interface. -/
def audioOutInterface (s : BridgeState E D) (active : Bool) : BridgeState E D :=
  let waveoutActive := !active && s.speakerWaveoutActive
  { clearStream s with
    outputState := s.outputState.setAudioOutStreamActive (active || waveoutActive) s.headsetPlugged
    speakerWaveoutActive := waveoutActive
    audioOutStreamActive := active
    audioPcmStreamActive := false
    audioJitterBuffering := active
    extractor := if active then freshExtractor media.encoder else s.extractor }

/-- An event of the audio IN interface; the report opens or closes the microphone. -/
def audioInInterface (s : BridgeState E D) (active : Bool) : BridgeState E D × BtInitReport :=
  let (outputState, report) :=
    (s.outputState.setHeadsetMicPlugged s.headsetMicPlugged).buildBtMicReport active
  ({ s with
      outputState := outputState
      audioInStreamActive := active
      micDecoder := media.decoder }, report)

def applyHidOut (s : BridgeState E D) (payload : List UInt8) : Option (BridgeState E D) :=
  (s.outputState.applyUsbOutputReport payload).map fun outputState =>
    { s with outputState :=
        if s.audioOutStreamActive || s.speakerWaveoutActive then
          outputState.setAudioOutStreamActive true s.headsetPlugged
        else outputState }

def isCacheableFeature (reportId : UInt8) : Bool := reportId < 0x80

def cacheFeatureReport (s : BridgeState E D) (report : List UInt8) : BridgeState E D :=
  match report with
  | [] => s
  | reportId :: _ =>
      if isCacheableFeature reportId then
        { s with featureCache := Function.update s.featureCache reportId (some report) }
      else s

def cachedFeatureReport (s : BridgeState E D) (reportId : UInt8) : Option (List UInt8) :=
  if isCacheableFeature reportId then s.featureCache reportId else none

/-- Device and action of a test command, and the data behind them. -/
def parseTestCommand (payload : List UInt8) : Option (UInt8 × UInt8 × List UInt8) :=
  match payload with
  | reportId :: command =>
      if 3 ≤ payload.length ∧ reportId = kTestCommandReportId then
        match if command.head? = some kTestCommandReportId then command.tail else command with
        | device :: action :: data => some (device, action, data)
        | _ => none
      else none
  | [] => none

/-- The synthetic result of a test command. -/
def testResult (device action : UInt8) : List UInt8 :=
  [kTestCommandResultReportId, device, action, kTestCommandCompleteStatus] ++
    List.replicate (kUsbInputReportSize - 4) 0

/-- The cache refuses the result. -/
theorem cacheFeatureReport_testResult (s : BridgeState E D) (device action : UInt8) :
    cacheFeatureReport s (testResult device action) = s := rfl

/-- The waveout commands; the result tells whether the route may have changed. -/
def applyTestCommand (s : BridgeState E D) (device action : UInt8) (data : List UInt8) :
    BridgeState E D × Bool :=
  if device = kTestCommandAudioDevice ∧ action = kTestCommandWaveoutPrepare then
    ({ s with speakerWaveoutSelected := data[2]? == some kTestCommandSpeakerParam }, false)
  else if device = kTestCommandAudioDevice ∧ action = kTestCommandWaveoutControl then
    match data with
    | [] => (s, false)
    | enable :: _ =>
        let speakerWaveout := enable != 0 && s.speakerWaveoutSelected
        ({ s with
            speakerWaveoutActive := speakerWaveout
            speakerWaveoutPhase := 0
            waveoutExtractor := freshExtractor media.encoder
            outputState := s.outputState.setAudioOutStreamActive speakerWaveout s.headsetPlugged
            audioOutStreamActive := speakerWaveout
            audioPcmStreamActive := speakerWaveout
            audioJitterBuffering := speakerWaveout
            audioQueueEmptySince := 0
            lastAudioChunk := none
            pendingAudioChunks := if speakerWaveout then s.pendingAudioChunks else [] }, true)
  else (s, false)

/-- Queue a chunk; a full queue drops its oldest. -/
def queueAudioChunk (pending : List AudioChunk) (chunk : AudioChunk) : List AudioChunk :=
  (if tuning.kMaxPendingAudioChunks ≤ pending.length then pending.tail else pending) ++ [chunk]

/-- PCM for a stopped stream or during the test tone restarts the route. -/
def resetAudioRoute (s : BridgeState E D) : BridgeState E D :=
  { clearStream s with
    speakerWaveoutActive := false
    outputState := s.outputState.setAudioOutStreamActive true s.headsetPlugged
    audioOutStreamActive := true
    audioPcmStreamActive := false
    audioJitterBuffering := true
    extractor := freshExtractor media.encoder }

/-- Queue the chunks of an AUDIO_OUT frame. -/
def queueAudioChunks (s : BridgeState E D) (payload : List UInt8) : BridgeState E D :=
  let (extractor, chunks) := pushUsbAudio media.opusEncode s.extractor payload
  let s := { s with extractor := extractor }
  match chunks with
  | [] => s
  | _ :: _ =>
      let s := if s.audioPcmStreamActive then s
        else { clearStream s with audioPcmStreamActive := true, audioJitterBuffering := true }
      { s with
        pendingAudioChunks := chunks.foldl (queueAudioChunk tuning) s.pendingAudioChunks
        audioQueueEmptySince := 0 }

/-- The first critical section of `handle_virtual_frame`, and what it leaves to do. -/
def handleVirtualFrame (b : Session E D) (frame : Frame) : Session E D :=
  match frame.type with
  | .usbInterface =>
      match frame.payload with
      | [_, altsetting, interfaceType, _] =>
          let active := altsetting != 0
          if interfaceType = kUsbInterfaceAudioOut then
            { b with
              state := audioOutInterface media b.state active, toBluetooth := [.stateIfChanged] }
          else if interfaceType = kUsbInterfaceAudioIn then
            let (state, report) := audioInInterface media b.state active
            { b with state := state, toBluetooth := [.micState active report] }
          else b
      | _ => b
  | .usbHidOut =>
      match applyHidOut b.state frame.payload with
      | none => b
      | some state => { b with state := state, toBluetooth := [.stateIfChanged] }
  | .usbFeatureGet =>
      match frame.payload with
      | [] => b
      | reportId :: _ =>
          match cachedFeatureReport b.state reportId with
          | some report =>
              { b with virtualWrites := b.virtualWrites ++ [(.usbFeatureReply, report)] }
          | none => { b with toBluetooth := [.readFeature reportId] }
  | .usbFeatureSet =>
      if frame.payload.headD 0 = 0 then b
      else
        match parseTestCommand frame.payload with
        | none => { b with toBluetooth := [.writeFeature frame.payload] }
        | some (device, action, data) =>
            let state := cacheFeatureReport b.state (testResult device action)
            let (state, update) := applyTestCommand media state device action data
            { b with state := state, toBluetooth := if update then [.stateIfChanged] else [] }
  | .usbAudioOut =>
      let reset := !b.state.audioOutStreamActive || b.state.speakerWaveoutActive
      let state := if reset then resetAudioRoute media b.state else b.state
      { b with
        state := queueAudioChunks media tuning state frame.payload
        toBluetooth := if reset then [.stateIfChanged] else [] }
  | _ => b

/-- Copy the right channel, which has the samples, to the left one. -/
def duplicateChannel : List UInt8 → List UInt8
  | _ :: _ :: low :: high :: rest => low :: high :: low :: high :: duplicateChannel rest
  | rest => rest

def handleMicPacket (b : Session E D) (packet : List UInt8) : Session E D :=
  match btMicOpusPayload packet with
  | none => b
  | some payload =>
      let (decoder, mono) := media.opusDecode b.state.micDecoder payload
      let b := { b with state := { b.state with micDecoder := decoder } }
      match mono with
      | none => b
      | some samples =>
          { b with virtualWrites := b.virtualWrites ++
              [(.usbAudioIn, duplicateChannel (micUsbPcm (samples.take kMicOpusFrames)))] }

/-- The critical section of a control packet. `muteRequest` is what the user
interface asked for since the last one. -/
def handleInputReport (b : Session E D) (report : UsbInputReport) (muteRequest : Option Bool) :
    Session E D :=
  let s := b.state
  let headsetPlugged := report.get kUsbInputHeadsetOffset &&& kUsbInputHeadphonesPluggedMask != 0
  let headsetMicPlugged := report.get kUsbInputHeadsetOffset &&& kUsbInputMicPluggedMask != 0
  let muteButtonDown := report.get kUsbInputMuteButtonOffset &&& kUsbInputMuteButtonMask != 0
  let headsetChanged := headsetPlugged != s.headsetPlugged
  let headsetMicChanged := headsetMicPlugged != s.headsetMicPlugged
  let pressed := muteButtonDown && !s.muteButtonDown
  let muted := s.micMuted ^^ pressed
  let micMuted := muteRequest.getD muted
  let micMuteChanged := pressed || muted != micMuted
  let reopen := headsetMicChanged && s.audioInStreamActive
  let outputState := if headsetChanged && (s.audioOutStreamActive || s.speakerWaveoutActive) then
      s.outputState.setAudioOutStreamActive true headsetPlugged
    else s.outputState
  let outputState :=
    if headsetMicChanged then outputState.setHeadsetMicPlugged headsetMicPlugged else outputState
  let (outputState, stateReports) :=
    if micMuteChanged || reopen then
      let (outputState, report) := outputState.buildBtMicStateReport s.audioInStreamActive micMuted
      (outputState, [report])
    else (outputState, [])
  let (outputState, closeReports, openReports) :=
    if reopen then
      let (outputState, closeReport) := outputState.buildBtMicReport false
      let (outputState, openReport) := outputState.buildBtMicReport true
      (outputState, [closeReport], [openReport])
    else (outputState, [], [])
  let mic := fun (report : BtInitReport) => Op.send ⟨.mic, report.toList, b.builds⟩
  { b with
    state := { s with
      outputState := outputState
      headsetPlugged := headsetPlugged
      headsetMicPlugged := headsetMicPlugged
      micMuted := micMuted
      muteButtonDown := muteButtonDown }
    virtualWrites := b.virtualWrites ++ [(.usbHidIn, report.toList)]
    toVirtual := closeReports.map mic ++
      stateReports.map (fun report => Op.send ⟨.micState, report.toList, b.builds⟩) ++
      openReports.map mic ++ if headsetChanged then [.stateIfChanged] else [] }

def handleBluetoothFrame (b : Session E D) (frame : Frame) (muteRequest : Option Bool) :
    Session E D :=
  match frame.type with
  | .btInterruptPacket =>
      if btInputPayloadType frame.payload = .audio then handleMicPacket media b frame.payload
      else
        match btInputToUsbInput frame.payload with
        | none => b
        | some report => handleInputReport b report muteRequest
  | .btControlPacket =>
      match btFeatureToUsbFeatureReply frame.payload with
      | none => b
      | some report => { b with virtualWrites := b.virtualWrites ++ [(.usbFeatureReply, report)] }
  | _ => b

/-- Run one operation of a thread's program; what it adds goes in front. -/
def runOp (b : Session E D) (outcome : SendOutcome) (feature : Option (List UInt8)) :
    Op → Session E D × List Op
  | .stateIfChanged =>
      match buildBtStateIfChanged b with
      | none => (b, [])
      | some (b, out) => (b, [.send out])
  | .micState active micReport =>
      let (outputState, report) := b.state.outputState.buildBtMicStateReport active b.state.micMuted
      ({ b with state := { b.state with outputState := outputState } },
        [.send ⟨.micState, report.toList, b.builds⟩, .send ⟨.mic, micReport.toList, b.builds⟩])
  | .send out => (trySendBtOutputReport b out outcome, [])
  | .readFeature _ =>
      match feature with
      | none => (b, [])
      | some report =>
          ({ b with
              state := cacheFeatureReport b.state report
              virtualWrites := b.virtualWrites ++ [(.usbFeatureReply, report)] }, [])
  | .writeFeature payload =>
      (if outcome = .sent then { b with featureWrites := b.featureWrites ++ [payload] } else b, [])

def enqueueSpeakerWaveoutChunk (s : BridgeState E D) : BridgeState E D :=
  if s.speakerWaveoutActive && s.pendingAudioChunks.isEmpty then
    let (extractor, chunks) := pushUsbAudio media.opusEncode s.waveoutExtractor
      (waveoutPcm media s.speakerWaveoutPhase)
    { s with
      speakerWaveoutPhase :=
        (s.speakerWaveoutPhase + kPcmWindowFrames) % kSpeakerWaveoutPeriodFrames
      waveoutExtractor := extractor
      pendingAudioChunks := chunks.take tuning.kMaxPendingAudioChunks }
  else s

/-- Build an audio packet around the current image. -/
def buildAudioPacket (b : Session E D) (haptics : HapticsChunk) (speaker : SpeakerChunk)
    (now : Nat) (concealment : Bool) (chunk : Option AudioChunk) : Session E D :=
  let s := b.state
  let (builder, packet) :=
    s.hapticsBuilder.buildPacket haptics speaker s.image true s.headsetPlugged
  let scheduled := if s.nextHapticsSendTime = 0 then now else s.nextHapticsSendTime
  { b with
    state := { s with hapticsBuilder := builder }
    builds := b.builds + 1
    flush := .sending ⟨.audio, packet.toList, b.builds⟩
      ⟨scheduled, now, concealment, chunk, s.image⟩ }

/-- The flush of an empty queue after the keepalive delay. With the test tone on
it goes on to send a packet that nothing was written to. -/
def flushUnderflow (b : Session E D) : Session E D :=
  let s := { b.state with audioPcmStreamActive := false, nextHapticsSendTime := 0 }
  if s.speakerWaveoutActive then
    { b with
      state := s
      flush := .sending ⟨.audio, List.replicate kBtHapticsReportSize 0, b.builds⟩
        ⟨0, 0, false, none, s.image⟩ }
  else
    let s := { s with
      outputState := s.outputState.setAudioOutStreamActive false s.headsetPlugged
      audioOutStreamActive := false
      audioJitterBuffering := false
      audioQueueEmptySince := 0
      lastAudioChunk := none }
    match buildBtStateIfChanged { b with state := s } with
    | none => { b with state := s, flush := .idle }
    | some (b, out) => { b with flush := .stopping out }

/-- The flush of an empty queue. -/
def flushEmptyQueue (b : Session E D) (now : Nat) : Session E D :=
  let s := b.state
  if s.audioOutStreamActive && s.audioPcmStreamActive then
    let emptySince := if s.audioQueueEmptySince = 0 then now else s.audioQueueEmptySince
    let b := { b with state := { s with
      audioJitterBuffering := false, audioJitterBufferStart := 0,
      audioQueueEmptySince := emptySince } }
    if s.nextHapticsSendTime ≠ 0 ∧ now < s.nextHapticsSendTime then { b with flush := .idle }
    else if now - emptySince < kAudioUnderflowKeepaliveDelay then
      match s.lastAudioChunk with
      | none => { b with flush := .idle }
      | some chunk => buildAudioPacket b (Vector.replicate _ 0) chunk.speaker now true none
    else flushUnderflow b
  else { b with flush := .idle }

/-- The flush of a queue whose next packet is due. -/
def flushChunk (b : Session E D) (now : Nat) : Session E D :=
  let s := b.state
  if s.nextHapticsSendTime ≠ 0 ∧ now < s.nextHapticsSendTime then { b with flush := .idle }
  else
    let pending := s.pendingAudioChunks.drop
      (s.pendingAudioChunks.length - tuning.kAudioFreshQueueChunks)
    match pending with
    | [] => { b with flush := .idle }
    | chunk :: _ =>
        buildAudioPacket { b with state := { s with pendingAudioChunks := pending } }
          (chunk.haptics.map fun sample => Int8.ofInt (max (-128) (min 127 sample.toInt)))
          chunk.speaker now false (some chunk)

/-- The first critical section of `flush_pending_audio_chunk`. -/
def flushBegin (b : Session E D) (now : Nat) : Session E D :=
  let s := b.state
  if s.pendingAudioChunks.isEmpty then flushEmptyQueue b now
  else if s.audioJitterBuffering then
    let start := if s.audioJitterBufferStart = 0 then now else s.audioJitterBufferStart
    if s.pendingAudioChunks.length < tuning.kAudioPrimeChunks ∧
        now - start < kAudioJitterBufferMaxDelay then
      { b with state := { s with audioJitterBufferStart := start }, flush := .idle }
    else
      flushChunk tuning { b with state := { s with
        audioJitterBufferStart := start
        audioJitterBuffering := false
        nextHapticsSendTime := now } } now
  else flushChunk tuning b now

def audioOutputIntervalForPending (pending : Nat) : Nat :=
  if pending ≤ kAudioLowWatermarkChunks then kAudioOutputBaseInterval + kAudioLowWatermarkPaceDelay
  else if tuning.kAudioHighWatermarkChunks ≤ pending then
    kAudioOutputBaseInterval - kAudioHighWatermarkCatchupDelay
  else kAudioOutputBaseInterval

/-- The last critical section of `flush_pending_audio_chunk`. After a packet was
sent it records the current image, not the one in the packet. -/
def flushFinish (s : BridgeState E D) (audio : AudioSend) (sent : Bool) : BridgeState E D :=
  let pending :=
    if audio.sendingConcealment then s.pendingAudioChunks else s.pendingAudioChunks.tail
  let interval :=
    if sent && audio.sendingConcealment then kAudioOutputBaseInterval
    else audioOutputIntervalForPending tuning pending.length
  let next := audio.scheduledSendTime + interval
  { s with
    pendingAudioChunks := pending
    audioJitterBufferStart :=
      if sent && pending.isEmpty then 0 else s.audioJitterBufferStart
    lastSentState := if sent then some s.image else s.lastSentState
    lastAudioChunk :=
      if sent && !audio.sendingConcealment then audio.sentAudioChunk.or s.lastAudioChunk
      else s.lastAudioChunk
    nextHapticsSendTime := if next ≤ audio.sendTime then audio.sendTime + interval else next }

/-- The critical section of `send_initial_bluetooth_reports`. -/
def finishInit (s : BridgeState E D) : BridgeState E D :=
  let outputState := s.outputState.setHeadsetMicPlugged s.headsetMicPlugged
  { s with
    audioInStreamActive := false
    micDecoder := media.decoder
    outputState := outputState
    lastSentState := some outputState.state }

inductive Action
  | sendInit (outcome : SendOutcome)
  | finishInit
  | virtualFrame (frame : Frame)
  | virtualOp (outcome : SendOutcome) (feature : Option (List UInt8))
  | bluetoothFrame (frame : Frame) (muteRequest : Option Bool)
  | bluetoothOp (outcome : SendOutcome) (feature : Option (List UInt8))
  | enqueueWaveout
  | flushBegin (now : Nat)
  | flushSend (outcome : SendOutcome)
  | flushFinish

/-- One critical section or one write of one thread. The threads start after the
init report. -/
def step (b : Session E D) : Action → Option (Session E D)
  | .sendInit outcome =>
      if b.phase = .created then
        some { trySendBtOutputReport b
          ⟨.init, b.state.outputState.buildBtInitReport.toList, b.builds⟩ outcome with
            phase := .initSent, builds := b.builds + 1 }
      else none
  | .finishInit =>
      if b.phase = .initSent then
        some { b with state := finishInit media b.state, phase := .running }
      else none
  | .virtualFrame frame =>
      if b.phase = .running ∧ b.toBluetooth.isEmpty then
        some (handleVirtualFrame media tuning b frame)
      else none
  | .virtualOp outcome feature =>
      match b.toBluetooth with
      | [] => none
      | op :: rest =>
          let (b, ops) := runOp b outcome feature op
          some { b with toBluetooth := ops ++ rest }
  | .bluetoothFrame frame muteRequest =>
      if b.phase = .running ∧ b.toVirtual.isEmpty then
        some (handleBluetoothFrame media b frame muteRequest)
      else none
  | .bluetoothOp outcome feature =>
      match b.toVirtual with
      | [] => none
      | op :: rest =>
          let (b, ops) := runOp b outcome feature op
          some { b with toVirtual := ops ++ rest }
  | .enqueueWaveout =>
      match b.flush with
      | .idle =>
          if b.phase = .running then
            some { b with
              state := enqueueSpeakerWaveoutChunk media tuning b.state
              flush := .enqueued }
          else none
      | _ => none
  | .flushBegin now =>
      match b.flush with
      | .enqueued => some (flushBegin tuning b now)
      | _ => none
  | .flushSend outcome =>
      match b.flush with
      | .stopping out => some { trySendBtOutputReport b out outcome with flush := .idle }
      | .sending out audio =>
          some { trySendBtOutputReport b out outcome with
            flush := .finishing out audio (outcome == .sent) }
      | _ => none
  | .flushFinish =>
      match b.flush with
      | .finishing _ audio sent =>
          some { b with state := flushFinish tuning b.state audio sent, flush := .idle }
      | _ => none

end VirtualDualSense.Win32.Bridge
