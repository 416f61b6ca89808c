import Mxdx.P2P.Transport.State

/-! The driver task: it owns the state cursor, the channel, the session key and
the queue of payloads, and executes the commands of the transition table. What
the driver asks of its environment during one step (clock readings, AES-GCM,
JSON, the channel backend) is collected in `Env`, so a step is a function. -/
namespace Mxdx.P2P

/-- What the caller can see of the state. -/
structure P2PStateSnapshot where
  name : String
  isOpen : Bool
deriving DecidableEq, Repr

/-- `P2PStateSnapshot::from`. -/
def P2PStateSnapshot.of (state : P2PState) : P2PStateSnapshot :=
  ⟨state.name, state.isOpen⟩

/-- How many requests may wait for the driver. -/
def outboundQueueDepth : Nat := 256

/-- More failures than these in a second are a storm. -/
def decryptFailureRatePerSec : Nat := 3

/-- How many nonces are remembered. -/
def replayWindowSize : Nat := 16

/-- A channel may be idle for five minutes. -/
def defaultIdleWindow : Duration := .fromSecs 300

/-- What a transport is made with and never changes. -/
structure P2PTransportConfig where
  ourUserId : String
  ourDeviceId : String
  roomId : String
  sessionUuid : Option String := none
  idleWindow : Duration := defaultIdleWindow
  outboundQueueDepth : Nat := Mxdx.P2P.outboundQueueDepth
deriving DecidableEq

/-- One outbound payload: a Megolm ciphertext and its event type. -/
structure OutboundRequest where
  eventType : String
  payload : Bytes
deriving DecidableEq

/-- A frame as it is sent: both parts in base64. -/
structure EncryptedFrame where
  ciphertext : String
  iv : String
deriving DecidableEq

/-- The session cipher, known by its key. -/
structure P2PCrypto where
  key : Bytes
deriving DecidableEq

/-- The handle of a boxed `WebRtcChannel`. -/
structure Channel where
  id : Nat
deriving DecidableEq

/-- The watch over an open channel. -/
structure IdleWatchdog where
  window : Duration
deriving DecidableEq

/-- Answers of the environment during one driver step. Encryption draws a fresh
IV for every payload, so its answers are indexed by the payload's position in
the drain, as are the answers of `WebRtcChannel::send`. -/
structure Env where
  clock : Nat → Instant
  restartIce : List IceServer → Except ChannelError Sdp
  encrypt : Nat → P2PCrypto → Bytes → Except String EncryptedFrame
  toVec : EncryptedFrame → Except String Bytes
  send : Nat → Bytes → Except ChannelError Unit

/-- What the driver does to the outside. A `channelSend` names the request
whose ciphertext the wire bytes carry. -/
inductive Effect where
  | signaling (command : Command)
  | telemetry (kind : TelemetryKind)
  | channelSend (channel : Channel) (request : OutboundRequest) (wire : Bytes)
  | channelClose (channel : Channel) (reason : String)
  | watchdogReset
  | watchdogShutdown
deriving DecidableEq

/-- All that the driver keeps, with what it has done to the outside. -/
structure DriverTask where
  config : P2PTransportConfig
  state : P2PState
  snapshot : P2PStateSnapshot
  channel : Option Channel
  crypto : Option P2PCrypto
  pendingOutbound : List OutboundRequest
  recentNonces : List (Nonce × String)
  lockedPeers : List String
  verifyFailures : String → Nat
  lastDecryptFailures : List Instant
  idleWatchdog : Option IdleWatchdog
  effects : List Effect

/-- The calls of the owner. -/
inductive ControlMsg where
  | start (peerUserId : String) (peerDeviceId : Option String)
  | hangup (reason : String)
deriving DecidableEq, Repr

namespace DriverTask

/-- The driver of a freshly spawned transport. -/
def spawn (config : P2PTransportConfig) : DriverTask where
  config := config
  state := .idle
  snapshot := .of .idle
  channel := none
  crypto := none
  pendingOutbound := []
  recentNonces := []
  lockedPeers := []
  verifyFailures := fun _ => 0
  lastDecryptFailures := []
  idleWatchdog := none
  effects := []

/-- What the driver does to the outside is kept in its order. -/
def emit (driver : DriverTask) (effects : List Effect) : DriverTask :=
  { driver with effects := driver.effects ++ effects }

/-- A line for the log. -/
def emitTelemetry (driver : DriverTask) (kind : TelemetryKind) : DriverTask :=
  driver.emit [.telemetry kind]

/-- The caller sees the new state. -/
def updateSnapshot (driver : DriverTask) : DriverTask :=
  { driver with snapshot := .of driver.state }

/-- The channel and all that belongs to it go. -/
def tearDown (driver : DriverTask) (reason : String) : DriverTask :=
  { driver with
    channel := none
    crypto := none
    pendingOutbound := []
    idleWatchdog := none
    effects := driver.effects ++ driver.channel.toList.map (.channelClose · reason) ++
      driver.idleWatchdog.toList.map fun _ => .watchdogShutdown }

/-- Encrypt and serialise one payload. -/
def wireOf (env : Env) (crypto : P2PCrypto) (index : Nat) (request : OutboundRequest) :
    Except (List Effect) Bytes :=
  match env.encrypt index crypto request.payload with
  | .error _ => .error [.telemetry (.fallback "encrypt_failed")]
  | .ok frame =>
      match env.toVec frame with
      | .error _ => .error []
      | .ok wire => .ok wire

/-- First loop of `drain_outbound`: the wires to send, and what was emitted
for the payloads that have none. -/
def encryptLoop (env : Env) (crypto : P2PCrypto) :
    Nat → List OutboundRequest → List (OutboundRequest × Bytes) × List Effect
  | _, [] => ([], [])
  | index, request :: rest =>
      let (wires, emitted) := encryptLoop env crypto (index + 1) rest
      match wireOf env crypto index request with
      | .ok wire => ((request, wire) :: wires, emitted)
      | .error failure => (wires, failure ++ emitted)

/-- Second loop of `drain_outbound`. -/
def sendLoop (env : Env) (channel : Channel) : Nat → List (OutboundRequest × Bytes) → List Effect
  | _, [] => []
  | index, (request, wire) :: rest =>
      .channelSend channel request wire ::
        (match env.send index wire with
          | .ok () => []
          | .error _ => [.telemetry (.fallback "channel_send_failed")]) ++
        sendLoop env channel (index + 1) rest

/-- What has waited is sent once the channel is open. -/
def drainOutbound (env : Env) (driver : DriverTask) : DriverTask :=
  if driver.state.isOpen then
    match driver.crypto, driver.channel with
    | some crypto, some channel =>
        let (wires, emitted) := encryptLoop env crypto 0 driver.pendingOutbound
        { driver with
          pendingOutbound := []
          effects := driver.effects ++ emitted ++ sendLoop env channel 0 wires }
    | _, _ => driver
  else driver

/-- Tear-down when ICE could not be restarted; the state goes to `Idle`
without passing through the transition table. -/
def teardownForTurnRefresh (driver : DriverTask) (reason : String) : DriverTask :=
  (({ driver.tearDown reason with state := .idle }.updateSnapshot).emitTelemetry
    (.fallback reason)).emitTelemetry (.stateTransition "Open" "Idle" reason)

/-- Servers of an open call are changed on the fly. -/
def handleConfigureIceServers (env : Env) (driver : DriverTask) (servers : List IceServer) :
    DriverTask :=
  if driver.state.isOpen then
    match driver.channel with
    | none => driver
    | some _ =>
        match env.restartIce servers with
        | .ok _ => driver
        | .error .restartIceUnsupported => driver.teardownForTurnRefresh "turn_refresh_teardown"
        | .error failure =>
            driver.teardownForTurnRefresh ("ice_restart_failed:" ++ failure.display)
  else driver

/-- What a command of the state machine does. -/
def applyCommand (env : Env) (driver : DriverTask) (command : Command) : DriverTask :=
  match command with
  | .sendInvite .. | .sendAnswer .. | .sendCandidates .. | .sendHangup .. | .sendSelectAnswer .. =>
      driver.emit [.signaling command]
  | .startVerifying _ | .beginFetchTurn | .schedule .. => driver
  | .configureIceServers servers => driver.handleConfigureIceServers env servers
  | .tearDownChannel reason => driver.tearDown reason
  | .resetIdle =>
      match driver.idleWatchdog with
      | none =>
          if driver.state.isOpen then
            { driver with idleWatchdog := some ⟨driver.config.idleWindow⟩ }
          else driver
      | some _ => driver.emit [.watchdogReset]
  | .drainOutbound => driver.drainOutbound env
  | .emitTelemetry kind => driver.emitTelemetry kind
  | .lockoutDevice peer => { driver with lockedPeers := driver.lockedPeers.insert peer }

/-- Leaving `Open` shuts the watchdog down. -/
def dropWatchdog (driver : DriverTask) (wasOpen : Bool) : DriverTask :=
  if wasOpen && !driver.state.isOpen then
    { driver with
      idleWatchdog := none
      effects := driver.effects ++ driver.idleWatchdog.toList.map fun _ => .watchdogShutdown }
  else driver

/-- Feed one event to the transition table, move the cursor, apply the
commands. An illegal pair changes nothing. -/
def dispatch (env : Env) (driver : DriverTask) (event : Event) : DriverTask :=
  match transition env.clock driver.state event with
  | .ok next commands =>
      dropWatchdog
        (commands.foldl (applyCommand env) { driver with state := next }.updateSnapshot)
        driver.state.isOpen
  | .illegal _ => driver

/-- The owner's calls become events of the state machine. -/
def handleControl (env : Env) (driver : DriverTask) : ControlMsg → DriverTask
  | .start peerUserId peerDeviceId =>
      if peerUserId ∈ driver.lockedPeers then
        driver.emitTelemetry (.securityEvent .wrongPeer (some peerUserId))
      else
        driver.dispatch env (.start peerUserId peerDeviceId driver.config.ourUserId
          driver.config.ourDeviceId driver.config.roomId driver.config.sessionUuid)
  | .hangup reason => driver.dispatch env (.hangup reason)

/-- The `outbound_rx` arm of `run`: drain in `Open`, drop in every other state. -/
def onOutbound (env : Env) (driver : DriverTask) (request : OutboundRequest) : DriverTask :=
  let queued := { driver with pendingOutbound := driver.pendingOutbound ++ [request] }
  if queued.state.isOpen then
    let drained := queued.drainOutbound env
    drained.emit (drained.idleWatchdog.toList.map fun _ => .watchdogReset)
  else { queued with pendingOutbound := [] }

/-- Slide the one-second window and report whether the rate limit is passed. -/
def recordDecryptFailure (driver : DriverTask) (now : Instant) : DriverTask × Bool :=
  let oneSecAgo := if Duration.fromSecs 1 ≤ now then now - Duration.fromSecs 1 else now
  let failures := driver.lastDecryptFailures.dropWhile (· < oneSecAgo) ++ [now]
  ({ driver with lastDecryptFailures := failures }, failures.length > decryptFailureRatePerSec)

/-- `true` iff the pair was seen recently; a fresh pair enters the window. -/
def checkReplay (driver : DriverTask) (callId : String) (nonce : Nonce) : DriverTask × Bool :=
  if (nonce, callId) ∈ driver.recentNonces then (driver, true)
  else
    let kept :=
      if driver.recentNonces.length ≥ replayWindowSize then driver.recentNonces.tail
      else driver.recentNonces
    ({ driver with recentNonces := kept ++ [(nonce, callId)] }, false)

/-- Count a verify failure; the third one locks the peer out. -/
def bumpVerifyFailure (driver : DriverTask) (peer : String) : DriverTask × Bool :=
  let counter := driver.verifyFailures peer + 1
  let counted := { driver with
    verifyFailures := fun other => if other = peer then counter else driver.verifyFailures other }
  if counter ≥ 3 then
    ({ counted with lockedPeers := counted.lockedPeers.insert peer }.emitTelemetry
      (.securityEvent .wrongPeer (some peer)), true)
  else (counted, false)

end DriverTask

end Mxdx.P2P
