import Mxdx.P2P.Signaling.Events
import Mxdx.P2P.Signaling.Glare

/-! The pure transition table of the P2P transport. `transition` returns the
next state with the commands the driver has to execute, or reports the pair of
state and event as illegal. Only `Instant::now` is read from outside: the
`n`-th reading of a call is `clock n`. -/
namespace Mxdx.P2P

/-- The length of a nonce, in bytes. -/
def nonceLen : Nat := 32

/-- A nonce of its length by its type. -/
abbrev Nonce := Vector UInt8 nonceLen

/-- How long a failed transport rests. -/
def defaultRetryAfter : Duration := .fromSecs 30

/-- How long it rests when no way was found. -/
def iceTimeoutRetryAfter : Duration := .fromSecs 60

/-- How long it rests after a storm of failures to decrypt. -/
def decryptStormRetryAfter : Duration := .fromSecs 60

/-- Nine-state lifecycle. The channel and the session key live in the driver. -/
inductive P2PState where
  | idle
  | fetchingTurn (since : Instant)
  | inviting (callId : String) (started : Instant) (ourOffer : Sdp) (ourPartyId : String)
      (lifetimeMs : Nat)
  | answering (callId partyId theirPartyId : String)
  | glare (ourCall theirCall : String) (resolution : GlareResult)
  | connecting (callId ourPartyId : String) (iceStarted : Instant)
  | verifying (callId ourPartyId : String) (ourNonce : Nonce)
  | opened (callId : String) (lastIo : Instant)
  | failed (reason : String) (retryAfter : Instant)
deriving DecidableEq

namespace P2PState

/-- The name of a state in logs. -/
def name : P2PState → String
  | .idle => "Idle"
  | .fetchingTurn _ => "FetchingTurn"
  | .inviting .. => "Inviting"
  | .answering .. => "Answering"
  | .glare .. => "Glare"
  | .connecting .. => "Connecting"
  | .verifying .. => "Verifying"
  | .opened .. => "Open"
  | .failed .. => "Failed"

/-- Whether data may flow. -/
def isOpen : P2PState → Bool
  | .opened .. => true
  | _ => false

end P2PState

/-- Why the Verifying handshake failed. -/
inductive VerifyFailureReason where
  | signatureMismatch
  | replayDetected
  | timeout
  | invalidPayload
  | deviceLockedOut
deriving DecidableEq, Repr

/-- What the state machine hears of. -/
inductive Event where
  | start (peerUserId : String) (peerDeviceId : Option String)
      (ourUserId ourDeviceId roomId : String) (sessionUuid : Option String)
  | hangup (reason : String)
  | turnRefreshed (servers : List IceServer)
  | turnExpired
  | callEventReceived (event : ParsedCallEvent)
  | channelEvent (event : ChannelEvent)
  | outboundPressure
  | idleTick
  | inviteTimeout
  | iceTimeout
  | verifyOk
  | verifyFail (reason : VerifyFailureReason)
  | decryptStorm
  | retryReady
deriving DecidableEq, Repr

/-- What counts as an attack. -/
inductive SecurityEventKind where
  | verifyFailure
  | decryptStorm
  | replayDetected
  | wrongPeer
deriving DecidableEq, Repr

/-- What the log may be told. -/
inductive TelemetryKind where
  | stateTransition (source target reason : String)
  | handshakeCompleted (totalMs iceMs verifyMs : Nat)
  | turnRefresh (outcome : String)
  | fallback (reason : String)
  | securityEvent (kind : SecurityEventKind) (peer : Option String)
deriving DecidableEq, Repr

/-- The timers that the state machine asks for. -/
inductive ScheduledEvent where
  | inviteTimeout
  | iceTimeout
  | retryReady
deriving DecidableEq, Repr

/-- Side effects the driver executes. -/
inductive Command where
  | sendInvite (callId partyId : String) (sdp : Sdp) (lifetimeMs : Nat)
      (sessionUuid : Option String)
  | sendAnswer (callId partyId : String) (sdp : Sdp)
  | sendCandidates (callId partyId : String) (candidates : List IceCandidate)
  | sendHangup (callId partyId reason : String)
  | sendSelectAnswer (callId partyId selectedPartyId : String)
  | beginFetchTurn
  | startVerifying (ourNonce : Nonce)
  | tearDownChannel (reason : String)
  | configureIceServers (servers : List IceServer)
  | schedule (instant : Instant) (event : ScheduledEvent)
  | resetIdle
  | emitTelemetry (kind : TelemetryKind)
  | lockoutDevice (peer : String)
  | drainOutbound
deriving DecidableEq

/-- The next state with its commands, or a transition that must not be. -/
inductive TransitionResult where
  | ok (next : P2PState) (commands : List Command)
  | illegal (note : String)
deriving DecidableEq

/-- Nothing happens. -/
def TransitionResult.stay (current : P2PState) : TransitionResult := .ok current []

/-- Extract the current `(call_id, party_id)` pair if the state holds one. -/
def currentCall : P2PState → Option (String × String)
  | .idle | .fetchingTurn _ | .failed .. => none
  | .inviting callId _ _ ourPartyId _ => some (callId, ourPartyId)
  | .connecting callId ourPartyId _ => some (callId, ourPartyId)
  | .verifying callId ourPartyId _ => some (callId, ourPartyId)
  | .answering callId partyId _ => some (callId, partyId)
  | .glare ourCall _ _ => some (ourCall, "<pending>")
  | .opened callId _ => some (callId, "<current>")

namespace Transition

/-- The log hears of the new state. -/
def moved (source target reason : String) : Command :=
  .emitTelemetry (.stateTransition source target reason)

/-- The global arm of `Hangup`, valid in every state. -/
def onHangup (state : P2PState) (reason : String) : TransitionResult :=
  .ok .idle
    ((match currentCall state with
      | some (callId, partyId) =>
          [.sendHangup callId partyId reason, .tearDownChannel reason]
      | none => []) ++ [moved state.name "Idle" reason])

/-- The row of `Idle`: a call begins here. -/
def fromIdle (clock : Nat → Instant) : Event → TransitionResult
  | .start .. => .ok (.fetchingTurn (clock 0)) [.beginFetchTurn, moved "Idle" "FetchingTurn" "start"]
  | .callEventReceived (.invite inv) =>
      .ok (.answering inv.callId "our-party" inv.partyId)
        [.beginFetchTurn, moved "Idle" "Answering" "peer_invite"]
  | _ => .stay .idle

/-- The offer before the channel has made one. -/
def pendingOffer : Sdp := ⟨.offer, ""⟩

/-- The row of `FetchingTurn`: the servers have to come first. -/
def fromFetchingTurn (clock : Nat → Instant) (since : Instant) : Event → TransitionResult
  | .turnRefreshed servers =>
      .ok (.inviting "<pending>" (clock 0) pendingOffer "<pending>" defaultInviteLifetimeMs)
        [.configureIceServers servers,
          .sendInvite "<pending>" "<pending>" pendingOffer defaultInviteLifetimeMs none,
          .schedule (clock 1 + Duration.fromMillis defaultInviteLifetimeMs) .inviteTimeout,
          moved "FetchingTurn" "Inviting" "turn_ready"]
  | .turnExpired =>
      .ok (.failed "turn_expired" (clock 0 + defaultRetryAfter))
        [.emitTelemetry (.fallback "turn_expired"), moved "FetchingTurn" "Failed" "turn_expired"]
  | .callEventReceived (.invite inv) =>
      .ok (.answering inv.callId "<pending>" inv.partyId)
        [moved "FetchingTurn" "Answering" "peer_invite_preempts_turn"]
  | .inviteTimeout | .iceTimeout | .verifyOk | .verifyFail _ =>
      .illegal "fetching_turn_timer_events_dropped"
  | .start .. => .illegal "double_start_while_fetching_turn"
  | _ => .stay (.fetchingTurn since)

/-- The arm every state with a call but `Open` shares for a peer hangup. -/
def peerHangup (clock : Nat → Instant) (source : String) : TransitionResult :=
  .ok (.failed "peer_hangup" (clock 0 + defaultRetryAfter))
    [.tearDownChannel "peer_hangup", moved source "Failed" "peer_hangup"]

/-- The arm for a backend failure; the retry delay depends on the state. -/
def channelFailure (clock : Nat → Instant) (source message : String) (delay : Duration) :
    TransitionResult :=
  .ok (.failed ("channel_failure:" ++ message) (clock 0 + delay))
    [.tearDownChannel "channel_failure", moved source "Failed" "channel_failure"]

/-- The row of `Inviting`: the answer may come, or glare, or nothing. -/
def fromInviting (clock : Nat → Instant) (callId : String) (started : Instant) (ourOffer : Sdp)
    (ourPartyId : String) (lifetimeMs : Nat) : Event → TransitionResult
  | .callEventReceived (.answer ans) =>
      if ans.callId ≠ callId then .illegal "inviting_answer_call_id_mismatch"
      else
        .ok (.connecting callId ourPartyId (clock 0))
          [.schedule (clock 1 + Duration.fromSecs 30) .iceTimeout,
            moved "Inviting" "Connecting" "answer_received"]
  | .callEventReceived (.invite peerInv) =>
      .ok (.glare callId peerInv.callId .weWin) [moved "Inviting" "Glare" "concurrent_invites"]
  | .inviteTimeout =>
      .ok (.failed "invite_timeout" (clock 0 + defaultRetryAfter))
        [.sendHangup callId ourPartyId "invite_timeout", .tearDownChannel "invite_timeout",
          moved "Inviting" "Failed" "invite_timeout"]
  | .callEventReceived (.hangup _) => peerHangup clock "Inviting"
  | .verifyOk | .verifyFail _ | .decryptStorm => .illegal "inviting_post_verify_events_dropped"
  | .start .. => .illegal "double_start_while_inviting"
  | _ => .stay (.inviting callId started ourOffer ourPartyId lifetimeMs)

/-- The placeholder nonce of the table; the driver overrides it. -/
def zeroNonce : Nonce := Vector.replicate nonceLen 0

/-- The row of `Answering`: the answer has to be made. -/
def fromAnswering (clock : Nat → Instant) (callId partyId theirPartyId : String) :
    Event → TransitionResult
  | .channelEvent .opened =>
      .ok (.verifying callId partyId zeroNonce)
        [.startVerifying zeroNonce, moved "Answering" "Verifying" "channel_open"]
  | .callEventReceived (.hangup _) => peerHangup clock "Answering"
  | .channelEvent (.failure msg) => channelFailure clock "Answering" msg iceTimeoutRetryAfter
  | .verifyOk | .verifyFail _ | .decryptStorm => .illegal "answering_post_verify_events_dropped"
  | .start .. => .illegal "double_start_while_answering"
  | _ => .stay (.answering callId partyId theirPartyId)

/-- The row of `Connecting`: a way has to be found. -/
def fromConnecting (clock : Nat → Instant) (callId ourPartyId : String) (iceStarted : Instant) :
    Event → TransitionResult
  | .channelEvent .opened =>
      .ok (.verifying callId ourPartyId zeroNonce)
        [.startVerifying zeroNonce, moved "Connecting" "Verifying" "channel_open"]
  | .iceTimeout =>
      .ok (.failed "ice_timeout" (clock 0 + iceTimeoutRetryAfter))
        [.sendHangup callId ourPartyId "ice_timeout", .tearDownChannel "ice_timeout",
          moved "Connecting" "Failed" "ice_timeout"]
  | .callEventReceived (.hangup _) => peerHangup clock "Connecting"
  | .channelEvent (.failure msg) => channelFailure clock "Connecting" msg iceTimeoutRetryAfter
  | .verifyOk | .verifyFail _ | .decryptStorm => .illegal "connecting_post_verify_events_dropped"
  | .start .. => .illegal "double_start_while_connecting"
  | _ => .stay (.connecting callId ourPartyId iceStarted)

/-- Telemetry kind and reason string of a verify failure. -/
def verifyFailure : VerifyFailureReason → SecurityEventKind × String
  | .signatureMismatch => (.verifyFailure, "verify_failure")
  | .replayDetected => (.replayDetected, "replay_detected")
  | .timeout => (.verifyFailure, "verify_timeout")
  | .invalidPayload => (.verifyFailure, "verify_invalid_payload")
  | .deviceLockedOut => (.wrongPeer, "device_locked_out")

/-- The row of `Verifying`: the peer has to prove its device. -/
def fromVerifying (clock : Nat → Instant) (callId ourPartyId : String) (ourNonce : Nonce) :
    Event → TransitionResult
  | .verifyOk =>
      .ok (.opened callId (clock 0))
        [.resetIdle, .drainOutbound, moved "Verifying" "Open" "verify_ok",
          .emitTelemetry (.handshakeCompleted 0 0 0)]
  | .verifyFail reason =>
      let (kind, text) := verifyFailure reason
      .ok (.failed text (clock 0 + defaultRetryAfter))
        [.sendHangup callId ourPartyId text, .tearDownChannel text,
          .emitTelemetry (.securityEvent kind none), moved "Verifying" "Failed" text]
  | .channelEvent (.closed reason) =>
      .ok (.failed ("channel_closed_during_verify:" ++ reason) (clock 0 + defaultRetryAfter))
        [moved "Verifying" "Failed" "channel_closed"]
  | .channelEvent (.failure msg) => channelFailure clock "Verifying" msg iceTimeoutRetryAfter
  | .callEventReceived (.hangup _) => peerHangup clock "Verifying"
  | .inviteTimeout | .iceTimeout | .decryptStorm => .illegal "verifying_unexpected_timer"
  | .start .. => .illegal "double_start_while_verifying"
  | _ => .stay (.verifying callId ourPartyId ourNonce)

/-- `Open` ends with a hangup of its own, then the reason's tear-down. -/
def endOpen (next : P2PState) (callId reason target : String) (security : List Command) :
    TransitionResult :=
  .ok next
    ([.sendHangup callId "<current>" reason, .tearDownChannel reason] ++ security ++
      [moved "Open" target reason])

/-- The row of `Open`: data flows until somebody ends it. -/
def fromOpen (clock : Nat → Instant) (callId : String) (lastIo : Instant) :
    Event → TransitionResult
  | .outboundPressure => .ok (.opened callId (clock 0)) [.resetIdle]
  | .channelEvent (.message _) => .ok (.opened callId (clock 0)) [.resetIdle]
  | .idleTick => endOpen .idle callId "idle_timeout" "Idle" []
  | .turnRefreshed servers => .ok (.opened callId lastIo) [.configureIceServers servers]
  | .turnExpired =>
      endOpen (.failed "turn_expired" (clock 0 + defaultRetryAfter)) callId "turn_expired"
        "Failed" []
  | .decryptStorm =>
      endOpen (.failed "decrypt_storm" (clock 0 + decryptStormRetryAfter)) callId "decrypt_storm"
        "Failed" [.emitTelemetry (.securityEvent .decryptStorm none)]
  | .callEventReceived (.hangup _) =>
      .ok .idle [.tearDownChannel "peer_hangup", moved "Open" "Idle" "peer_hangup"]
  | .channelEvent (.closed reason) =>
      .ok .idle [moved "Open" "Idle" ("channel_closed:" ++ reason)]
  | .channelEvent (.failure msg) => channelFailure clock "Open" msg defaultRetryAfter
  | .inviteTimeout | .iceTimeout | .verifyOk | .verifyFail _ => .illegal "open_timer_events_dropped"
  | .start .. => .illegal "double_start_while_open"
  | _ => .stay (.opened callId lastIo)

/-- The row of `Failed`: the transport rests. -/
def fromFailed (clock : Nat → Instant) (reason : String) (retryAfter : Instant) :
    Event → TransitionResult
  | .retryReady =>
      if clock 0 ≥ retryAfter then .ok .idle [moved "Failed" "Idle" "retry_ready"]
      else .stay (.failed reason retryAfter)
  | .start .. =>
      .ok (.fetchingTurn (clock 0))
        [.beginFetchTurn, moved "Failed" "FetchingTurn" "start_from_failed"]
  | .callEventReceived (.invite inv) =>
      .ok (.answering inv.callId "<pending>" inv.partyId) [moved "Failed" "Answering" "peer_invite"]
  | _ => .stay (.failed reason retryAfter)

end Transition

open Transition in
/-- Pure state-transition function. The arms of each state keep the order of
the table; what a state does not list is dropped. -/
def transition (clock : Nat → Instant) (state : P2PState) (event : Event) : TransitionResult :=
  match event with
  | .hangup reason => onHangup state reason
  | event =>
      match state with
      | .idle => fromIdle clock event
      | .fetchingTurn since => fromFetchingTurn clock since event
      | .inviting callId started ourOffer ourPartyId lifetimeMs =>
          fromInviting clock callId started ourOffer ourPartyId lifetimeMs event
      | .answering callId partyId theirPartyId =>
          fromAnswering clock callId partyId theirPartyId event
      | .glare .. => .stay state
      | .connecting callId ourPartyId iceStarted =>
          fromConnecting clock callId ourPartyId iceStarted event
      | .verifying callId ourPartyId ourNonce => fromVerifying clock callId ourPartyId ourNonce event
      | .opened callId lastIo => fromOpen clock callId lastIo event
      | .failed reason retryAfter => fromFailed clock reason retryAfter event

end Mxdx.P2P
