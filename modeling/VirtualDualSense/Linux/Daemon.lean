import VirtualDualSense.Protocol.BridgeParts
import VirtualDualSense.Lib.Runs

/-!
# The Linux daemon

The daemon bridges one virtual USB port and one Bluetooth controller from a
single thread. It handles the frames that the kernel module queued, the packets
of both Bluetooth channels, and a periodic flush of what could not be sent. A
non-blocking send either transmits its report or would block.

## Implementation notes

A send that throws drops the Bluetooth backend, which is an action of its own
here: nothing is sent before the next connection, and that one resets the port.
Tracing is left out.
-/

namespace VirtualDualSense.Linux.Daemon

open Protocol.Frames Protocol.OutputState Protocol.PcmAudioExtractor Protocol.BtPackets
  Protocol.BridgeParts

def kMaxPendingAudioChunks : Nat := 8
def kFreshPendingAudioChunks : Nat := 4
def kBtReadBufferSize : Nat := 1024
def kInitialFeatureReportIds : List UInt8 := [0x09, 0x20, 0x05]

/-- Microseconds between two audio reports. -/
def kAudioOutputInterval : Nat := 10000

/-- Microseconds before the next try after a blocked audio report. -/
def kHapticsOutputBlockedRetry : Nat := 2000

structure VirtualPort (E D : Type*) where
  extractor : Extractor E
  waveoutExtractor : Extractor E
  micDecoder : D
  hapticsBuilder : HapticsPacketBuilder
  outputState : DsOutputState
  pendingAudioChunks : List AudioChunk
  lastSentBtState : Option DsState
  pendingBtState : Option DsState
  pendingBtStateReport : Option BtStateReport
  nextHapticsSendTime : Option Nat
  audioOutStreamActive : Bool
  audioInStreamActive : Bool
  micMuted : Bool
  muteButtonDown : Bool
  headsetPlugged : Bool
  headsetMicPlugged : Bool
  speakerWaveoutSelected : Bool
  speakerWaveoutActive : Bool
  speakerWaveoutPhase : Nat
  featureCache : UInt8 → Option (List UInt8)
  pendingFeatureReports : List UInt8

/-- A report that reached the controller, with the mute state at that time. -/
structure Transmission where
  report : List UInt8
  micMuted : Bool
  deriving DecidableEq

/-- One port, its controller, and what was written where. -/
structure Bridge (E D : Type*) where
  port : VirtualPort E D
  backend : Bool
  sent : List Transmission
  controlWrites : List (List UInt8)
  portWrites : List Frame

inductive SendOutcome
  | sent
  | wouldBlock
  deriving DecidableEq

variable {E D : Type*} (media : Media E D)

/-- A port that was just opened, which is also one after `reset_virtual_port`. -/
def resetVirtualPort : VirtualPort E D where
  extractor := freshExtractor media.encoder
  waveoutExtractor := freshExtractor media.encoder
  micDecoder := media.decoder
  hapticsBuilder := .new
  outputState := .new
  pendingAudioChunks := []
  lastSentBtState := none
  pendingBtState := none
  pendingBtStateReport := none
  nextHapticsSendTime := none
  audioOutStreamActive := false
  audioInStreamActive := false
  micMuted := false
  muteButtonDown := false
  headsetPlugged := false
  headsetMicPlugged := false
  speakerWaveoutSelected := true
  speakerWaveoutActive := false
  speakerWaveoutPhase := 0
  featureCache := fun _ => none
  pendingFeatureReports := []

def Bridge.init : Bridge E D := ⟨resetVirtualPort media, false, [], [], []⟩

def disconnectVirtualPort (port : VirtualPort E D) : VirtualPort E D :=
  { port with
    pendingAudioChunks := []
    nextHapticsSendTime := none
    audioOutStreamActive := false
    audioInStreamActive := false
    micMuted := false
    muteButtonDown := false
    speakerWaveoutActive := false
    speakerWaveoutPhase := 0 }

/-- `try_send_output_report`: log the report if it was transmitted. -/
def trySendOutputReport (b : Bridge E D) (report : List UInt8) : SendOutcome → Bridge E D
  | .sent => { b with sent := b.sent ++ [⟨report, b.port.micMuted⟩] }
  | .wouldBlock => b

/-- `write_vds_frame` of `frame_bytes`. No payload of the daemon is too long for
a frame, and a full queue drops the frame behind the daemon's back. -/
def writeVdsFrame (b : Bridge E D) (type : FrameType) (payload : List UInt8) : Bridge E D :=
  match frameBytes type payload with
  | .ok frame => { b with portWrites := b.portWrites ++ [frame] }
  | .error _ => b

def cacheFeatureReport (b : Bridge E D) (report : List UInt8) : Bridge E D :=
  match report with
  | [] => b
  | reportId :: _ =>
      writeVdsFrame { b with port := { b.port with
        featureCache := Function.update b.port.featureCache reportId (some report) } }
        .usbFeatureReply report

/-- The result tells whether nothing is left pending. -/
def flushPendingBtStateReport (b : Bridge E D) (outcome : SendOutcome) : Bridge E D × Bool :=
  match b.port.pendingBtStateReport, b.port.pendingBtState with
  | some report, some state =>
      let b := trySendOutputReport b report.toList outcome
      match outcome with
      | .sent =>
          ({ b with port := { b.port with
              lastSentBtState := some state
              pendingBtState := none
              pendingBtStateReport := none } }, true)
      | .wouldBlock => (b, false)
  | _, _ => (b, true)

def forwardBtStateIfChanged (b : Bridge E D) (first second : SendOutcome) : Bridge E D :=
  let b := (flushPendingBtStateReport b first).1
  let state := b.port.outputState.state
  if b.port.lastSentBtState = some state then
    if b.port.pendingBtState.isSome then
      { b with port := { b.port with pendingBtState := none, pendingBtStateReport := none } }
    else b
  else if b.port.pendingBtState = some state then b
  else
    let (outputState, packet) := b.port.outputState.buildBtStateReport
    let b := { b with port := { b.port with outputState := outputState } }
    match second with
    | .sent =>
        let b := trySendOutputReport b packet.toList .sent
        { b with port := { b.port with
            lastSentBtState := some state, pendingBtState := none, pendingBtStateReport := none } }
    | .wouldBlock =>
        { b with port := { b.port with
            pendingBtState := some state, pendingBtStateReport := some packet } }

/-- Apply `f` to the output state of the port. -/
def modifyOutputState (b : Bridge E D) (f : DsOutputState → DsOutputState) : Bridge E D :=
  { b with port := { b.port with outputState := f b.port.outputState } }

/-- Forward the state if there is a controller. -/
def forwardIfBackend (b : Bridge E D) (first second : SendOutcome) : Bridge E D :=
  if b.backend then forwardBtStateIfChanged b first second else b

/-- Build and try to send a microphone state report. -/
def sendMicStateReport (b : Bridge E D) (outcome : SendOutcome) : Bridge E D :=
  let (outputState, report) :=
    b.port.outputState.buildBtMicStateReport b.port.audioInStreamActive b.port.micMuted
  trySendOutputReport { b with port := { b.port with outputState := outputState } } report.toList
    outcome

/-- Build and try to send the report that opens or closes the microphone. -/
def sendMicReport (b : Bridge E D) (outcome : SendOutcome) : Bridge E D :=
  let (outputState, report) := b.port.outputState.buildBtMicReport b.port.audioInStreamActive
  trySendOutputReport { b with port := { b.port with outputState := outputState } } report.toList
    outcome

/-- An interface event: altsetting zero stops a stream, any other starts it. -/
def handleInterfaceEvent (b : Bridge E D) (payload : List UInt8) (first second : SendOutcome) :
    Bridge E D :=
  match payload with
  | [_, altsetting, interfaceType, _] =>
      if interfaceType = kUsbInterfaceAudioOut then
        if altsetting = 0 then
          { b with port := { b.port with
              audioOutStreamActive := false
              pendingAudioChunks := []
              extractor := freshExtractor media.encoder } }
        else
          let b := { b with port := { b.port with audioOutStreamActive := true } }
          let b := modifyOutputState b (·.setAudioOutStreamActive true b.port.headsetPlugged)
          forwardIfBackend b first second
      else if interfaceType = kUsbInterfaceAudioIn then
        let b := { b with port := { b.port with
          audioInStreamActive := altsetting != 0, micDecoder := media.decoder } }
        if b.backend then sendMicReport (sendMicStateReport b first) second else b
      else b
  | _ => b

def handleHidOut (b : Bridge E D) (payload : List UInt8) (first second : SendOutcome) :
    Bridge E D :=
  match b.port.outputState.applyUsbOutputReport payload with
  | none => b
  | some outputState =>
      let b := { b with port := { b.port with outputState := outputState } }
      let b := if b.port.audioOutStreamActive || b.port.speakerWaveoutActive then
          modifyOutputState b (·.setAudioOutStreamActive true b.port.headsetPlugged)
        else b
      forwardIfBackend b first second

def handleFeatureGet (b : Bridge E D) (payload : List UInt8) : Bridge E D :=
  match payload with
  | [] => b
  | reportId :: _ =>
      match b.port.featureCache reportId with
      | some report => writeVdsFrame b .usbFeatureReply report
      | none =>
          if b.backend then
            { b with
              port := { b.port with
                pendingFeatureReports := b.port.pendingFeatureReports ++ [reportId] }
              controlWrites := b.controlWrites ++ [featureGetPacket reportId] }
          else b

/-- The effect of a test command: the first two bytes are device and action. -/
def handleTestCommand (b : Bridge E D) (command : List UInt8) (first second : SendOutcome) :
    Bridge E D :=
  match command with
  | device :: action :: data =>
      let result := [kTestCommandResultReportId, device, action, kTestCommandCompleteStatus] ++
        List.replicate 60 0
      let b := cacheFeatureReport b result
      if device = kTestCommandAudioDevice ∧ action = kTestCommandWaveoutPrepare then
        { b with port := { b.port with
            speakerWaveoutSelected := data[2]? == some kTestCommandSpeakerParam } }
      else if device = kTestCommandAudioDevice ∧ action = kTestCommandWaveoutControl then
        match data with
        | [] => b
        | enable :: _ =>
            let speakerWaveout := enable != 0 && b.port.speakerWaveoutSelected
            let b := modifyOutputState b
              (·.setAudioOutStreamActive speakerWaveout b.port.headsetPlugged)
            let b := { b with port := { b.port with
              speakerWaveoutActive := speakerWaveout
              speakerWaveoutPhase := 0
              waveoutExtractor := freshExtractor media.encoder
              audioOutStreamActive := speakerWaveout
              pendingAudioChunks := if speakerWaveout then b.port.pendingAudioChunks else [] } }
            forwardIfBackend b first second
      else b
  | _ => b

def handleFeatureSet (b : Bridge E D) (payload : List UInt8) (first second : SendOutcome) :
    Bridge E D :=
  match payload with
  | [] => b
  | reportId :: command =>
      let b :=
        if 3 ≤ payload.length ∧ reportId = kTestCommandReportId then
          -- The report id may be repeated in front of the command.
          handleTestCommand media b
            (if command.head? = some kTestCommandReportId then command.tail else command)
            first second
        else b
      if b.backend then { b with controlWrites := b.controlWrites ++ [featureSetPacket payload] }
      else b

/-- Queue a chunk; a full queue drops its oldest. -/
def queueAudioChunk (pending : List AudioChunk) (chunk : AudioChunk) : List AudioChunk :=
  (if kMaxPendingAudioChunks ≤ pending.length then pending.tail else pending) ++ [chunk]

def handleAudioOut (b : Bridge E D) (payload : List UInt8) : Bridge E D :=
  if b.backend then
    let (extractor, chunks) := pushUsbAudio media.opusEncode b.port.extractor payload
    { b with port := { b.port with
        extractor := extractor
        pendingAudioChunks := chunks.foldl queueAudioChunk b.port.pendingAudioChunks } }
  else b

def handleFrame (b : Bridge E D) (frame : Frame) (first second : SendOutcome) : Bridge E D :=
  match frame.type with
  | .usbInterface => handleInterfaceEvent media b frame.payload first second
  | .usbHidOut => handleHidOut b frame.payload first second
  | .usbFeatureGet => handleFeatureGet b frame.payload
  | .usbFeatureSet => handleFeatureSet media b frame.payload first second
  | .usbAudioOut => handleAudioOut media b frame.payload
  | _ => b

/-- A microphone packet: dropped while the stream is off, when it is malformed,
and when it does not decode. -/
def handleMicPacket (b : Bridge E D) (packet : List UInt8) : Bridge E D :=
  if b.port.audioInStreamActive then
    match btMicOpusPayload packet with
    | none => b
    | some payload =>
        let (decoder, mono) := media.opusDecode b.port.micDecoder payload
        let b := { b with port := { b.port with micDecoder := decoder } }
        match mono with
        | none => b
        | some samples => writeVdsFrame b .usbAudioIn (micUsbPcm (samples.take kMicOpusFrames))
  else b

/-- The mute button and the headset microphone. -/
def handleMicInput (b : Bridge E D) (report : UsbInputReport) (outcome : SendOutcome) :
    Bridge E D :=
  let headsetMicPlugged := report.get kUsbInputHeadsetOffset &&& kUsbInputMicPluggedMask != 0
  let muteButtonDown := report.get kUsbInputMuteButtonOffset &&& kUsbInputMuteButtonMask != 0
  let micMuteChanged := muteButtonDown && !b.port.muteButtonDown
  let headsetMicChanged := headsetMicPlugged != b.port.headsetMicPlugged
  let b := { b with port := { b.port with
    micMuted := b.port.micMuted ^^ micMuteChanged
    muteButtonDown := muteButtonDown
    headsetMicPlugged := headsetMicPlugged } }
  if micMuteChanged || (headsetMicChanged && b.port.audioInStreamActive) then
    sendMicStateReport b outcome
  else b

/-- The headphones: a change reroutes a running stream. -/
def handleHeadsetInput (b : Bridge E D) (report : UsbInputReport) (first second : SendOutcome) :
    Bridge E D :=
  let headsetPlugged := report.get kUsbInputHeadsetOffset &&& kUsbInputHeadphonesPluggedMask != 0
  if headsetPlugged != b.port.headsetPlugged then
    let b := { b with port := { b.port with headsetPlugged := headsetPlugged } }
    if b.port.audioOutStreamActive || b.port.speakerWaveoutActive then
      forwardBtStateIfChanged
        (modifyOutputState b (·.setAudioOutStreamActive true b.port.headsetPlugged)) first second
    else b
  else b

def handleBtInput (b : Bridge E D) (packet : List UInt8) (mic first second : SendOutcome) :
    Bridge E D :=
  if btInputPayloadType packet = .audio then handleMicPacket media b packet
  else
    match btInputToUsbInput packet with
    | none => b
    | some report =>
        let b := handleHeadsetInput (handleMicInput b report mic) report first second
        writeVdsFrame b .usbHidIn report.toList

def handleBtControl (b : Bridge E D) (packet : List UInt8) : Bridge E D :=
  match btFeatureToUsbFeatureReply packet with
  | none | some [] => b
  | some (reportId :: rest) =>
      let b := { b with port := { b.port with
        featureCache := Function.update b.port.featureCache reportId (some (reportId :: rest)) } }
      if reportId ∈ b.port.pendingFeatureReports then
        writeVdsFrame { b with port := { b.port with
          pendingFeatureReports := b.port.pendingFeatureReports.erase reportId } }
          .usbFeatureReply (reportId :: rest)
      else b

def enqueueSpeakerWaveoutChunk (b : Bridge E D) : Bridge E D :=
  if b.port.speakerWaveoutActive && b.port.pendingAudioChunks.isEmpty then
    let (extractor, chunks) := pushUsbAudio media.opusEncode b.port.waveoutExtractor
      (waveoutPcm media b.port.speakerWaveoutPhase)
    { b with port := { b.port with
        speakerWaveoutPhase :=
          (b.port.speakerWaveoutPhase + kPcmWindowFrames) % kSpeakerWaveoutPeriodFrames
        waveoutExtractor := extractor
        pendingAudioChunks := chunks.take kMaxPendingAudioChunks } }
  else b

/-- Send the oldest fresh chunk when its time has come; `later` is the clock
after a send that blocked. -/
def flushPendingAudioChunk (b : Bridge E D) (now later : Nat) (outcome : SendOutcome) :
    Bridge E D :=
  if b.port.nextHapticsSendTime.any (now < ·) then b
  else
    match b.port.pendingAudioChunks.drop
        (b.port.pendingAudioChunks.length - kFreshPendingAudioChunks) with
    | [] => b
    | chunk :: rest =>
        let state := b.port.outputState.state
        let (builder, packet) := b.port.hapticsBuilder.buildPacket chunk.haptics chunk.speaker state
          true b.port.headsetPlugged
        let b := trySendOutputReport b packet.toList outcome
        let b := { b with port := { b.port with
          hapticsBuilder := builder, pendingAudioChunks := rest } }
        match outcome with
        | .wouldBlock =>
            { b with port := { b.port with
                nextHapticsSendTime := some (later + kHapticsOutputBlockedRetry) } }
        | .sent =>
            let b := { b with port := { b.port with
              lastSentBtState := some state
              nextHapticsSendTime := some (now + kAudioOutputInterval) } }
            if b.port.pendingBtState = some state then
              { b with port := { b.port with
                pendingBtState := none
                pendingBtStateReport := none } }
            else b

def flushPendingOutputs (b : Bridge E D) (now later : Nat) (first second : SendOutcome) :
    Bridge E D :=
  let (b, done) := flushPendingBtStateReport b first
  if done then flushPendingAudioChunk (enqueueSpeakerWaveoutChunk media b) now later second else b

def dropBtBackend (b : Bridge E D) : Bridge E D :=
  { b with
    port := disconnectVirtualPort { b.port with
      pendingBtState := none, pendingBtStateReport := none }
    backend := false }

/-- Read replies until the asked one; `none` when the controller stays silent. -/
def awaitFeatureReport (b : Bridge E D) (reportId : UInt8) :
    List (List UInt8) → Bridge E D × Option (List (List UInt8))
  | [] => (b, none)
  | report :: rest =>
      let b := cacheFeatureReport b report
      if report.head? = some reportId then (b, some rest) else awaitFeatureReport b reportId rest

/-- Prime the feature cache; the result tells whether all replies came. -/
def initializeBtController (b : Bridge E D) :
    List UInt8 → List (List UInt8) → Bridge E D × Bool
  | [], _ => (b, true)
  | reportId :: ids, replies =>
      let b := { b with controlWrites := b.controlWrites ++ [featureGetPacket reportId] }
      match awaitFeatureReport b reportId replies with
      | (b, none) => (b, false)
      | (b, some rest) => initializeBtController b ids rest

/-- `complete_pending_controller`. The init report is sent with a blocking write;
a failure of it or of the connect request leaves the port without a backend. -/
def completePendingController (b : Bridge E D) (replies : List (List UInt8))
    (initSent connected : Bool) : Bridge E D :=
  let b := { b with port := resetVirtualPort media }
  match initializeBtController b kInitialFeatureReportIds replies with
  | (b, false) => b
  | (b, true) =>
      if initSent then
        let b := trySendOutputReport b b.port.outputState.buildBtInitReport.toList .sent
        { b with
          port := { b.port with lastSentBtState := some b.port.outputState.state }
          backend := connected }
      else b

/-- What can happen to the daemon. -/
inductive Action
  | frame (frame : Frame) (first second : SendOutcome)
  | btInput (packet : List UInt8) (mic first second : SendOutcome)
  | btControl (packet : List UInt8)
  | flush (now later : Nat) (first second : SendOutcome)
  | drop
  | detach
  | connect (replies : List (List UInt8)) (initSent connected : Bool)

/-- One iteration of an event handler. `detach` is the removal of a controller
from the configuration, which disconnects its port and closes its backend. -/
def step (b : Bridge E D) : Action → Option (Bridge E D)
  | .frame frame first second => some (handleFrame media b frame first second)
  | .btInput packet mic first second =>
      if b.backend ∧ packet.length ≤ kBtReadBufferSize then
        some (handleBtInput media b packet mic first second)
      else none
  | .btControl packet =>
      if b.backend ∧ packet.length ≤ kBtReadBufferSize then some (handleBtControl b packet)
      else none
  | .flush now later first second =>
      if b.backend then some (flushPendingOutputs media b now later first second) else none
  | .drop => if b.backend then some (dropBtBackend b) else none
  | .detach =>
      if b.backend then some { b with port := disconnectVirtualPort b.port, backend := false }
      else none
  | .connect replies initSent connected =>
      if b.backend then none
      else some (completePendingController media b replies initSent connected)

end VirtualDualSense.Linux.Daemon
