import Mxdx.Foundations.Automaton
import Mxdx.Foundations.Json
import Mxdx.Core.Signaling
import Mxdx.Core.Verify

/-! The launcher's `P2PTransport`. Its methods run to their next `await`; what
happens there is kept in lists of suspended handlers, each with the channel it
was started for, and every resumption is an input of its own. -/
namespace Mxdx.Core

open P2P (Nonce PublicKey Ed25519 buildTranscript canonicalOrdering nonceLen)

/-- A value that `JSON.parse` returns; a number is given by its bits. -/
abbrev JsValue := Json UInt64

/-- What the language does with values of no particular type, and how it turns
a text into capitals. -/
structure Runtime where
  toUpperCase : String → String
  /-- The text of a value that is no string, as a `TextEncoder` takes it. -/
  toText : JsValue → String
  /-- The bytes of a value of length 32 that is set into a byte array. -/
  nonceOf : JsValue → Option Nonce
  /-- Whether an event with this content is still unacknowledged after `seq`. -/
  outlivesAck : String → Option JsValue → Bool

/-- Whether JavaScript takes a value for true. -/
def truthy : JsValue → Bool
  | .null => false
  | .bool value => value
  | .num bits => bits != 0 && bits != 0x8000000000000000
  | .str value => value != ""
  | .arr _ => true
  | .obj _ => true

section Fingerprint

/-- The characters that `trim` and `\s` take for white space. -/
def isJsSpace (c : Char) : Bool :=
  (9 ≤ c.toNat && c.toNat ≤ 13) || (0x2000 ≤ c.toNat && c.toNat ≤ 0x200a) ||
    [0x20, 0xa0, 0x1680, 0x2028, 0x2029, 0x202f, 0x205f, 0x3000, 0xfeff].contains c.toNat

/-- `String.prototype.trim`. -/
def jsTrim (text : List Char) : List Char :=
  ((text.dropWhile isJsSpace).reverse.dropWhile isJsSpace).reverse

/-- The fingerprint on one line of an SDP. -/
def fingerprintOf (runtime : Runtime) (line : List Char) : Option String :=
  let trimmed := jsTrim line
  let tag := "a=fingerprint:".toList
  if tag.isPrefixOf trimmed then
    let rest := trimmed.drop tag.length
    let algo := rest.takeWhile (!isJsSpace ·)
    let fingerprint := jsTrim (rest.drop (algo.length + 1))
    if algo.map Char.toLower = "sha-256".toList ∧ fingerprint ≠ [] then
      some (runtime.toUpperCase (String.ofList fingerprint))
    else none
  else none

/-- The least of the fingerprints, none where there is no fingerprint. -/
def extractSdpFingerprint (runtime : Runtime) (sdp : String) : Option String :=
  match (sdp.toList.splitOn '\n').filterMap (fingerprintOf runtime) with
  | [] => none
  | first :: rest =>
      some (rest.foldl (fun least next => if lessThan next least then next else least) first)

end Fingerprint

/-- What signaling has agreed on; a field that is not set is null. -/
structure HandshakeContext where
  roomId : Option String
  sessionUuid : Option String
  callId : Option String
  offerSdp : Option String
  answerSdp : Option String
  weAreOfferer : Bool
deriving DecidableEq

/-- An empty text counts as none. -/
def isSet (field : Option String) : Bool := field.any (· != "")

/-- The signed handshake needs all that the transcript speaks of. -/
def HandshakeContext.canDoV2 (context : HandshakeContext) : Bool :=
  isSet context.roomId && isSet context.callId && isSet context.offerSdp &&
    isSet context.answerSdp

/-- Our own nonce: bytes, or the hex text of the legacy protocol. -/
inductive LocalNonce where
  | bytes (nonce : Nonce)
  | hex (text : String)

/-- The peer's nonce: bytes, or whatever a legacy frame had in its place. -/
inductive RemoteNonce where
  | bytes (nonce : Bytes)
  | value (nonce : JsValue)

/-- An array counts as true, even an empty one. -/
def RemoteNonce.truthy : RemoteNonce → Bool
  | bytes _ => true
  | value nonce => Core.truthy nonce

/-- A hex text is twice as long as a nonce may be. -/
def LocalNonce.nonce? : LocalNonce → Option Nonce
  | bytes nonce => some nonce
  | hex _ => none

/-- What `Uint8Array` makes of it, if that is as long as a nonce. -/
def RemoteNonce.nonce? (runtime : Runtime) : RemoteNonce → Option Nonce
  | bytes nonce => if h : nonce.toArray.size = nonceLen then some ⟨nonce.toArray, h⟩ else none
  | value nonce => runtime.nonceOf nonce

/-- All that a transcript is made of, besides our own device id. -/
structure Held where
  context : HandshakeContext
  localNonce : Option LocalNonce
  remoteNonce : Option RemoteNonce
  peerDeviceId : Option JsValue

/-- The peer's device id in a transcript, with a text to fall back on. -/
def partyText (runtime : Runtime) (deviceId : Option JsValue) (fallback : String) : String :=
  match deviceId with
  | some (.str value) => if value = "" then fallback else value
  | some value => if truthy value then runtime.toText value else fallback
  | none => fallback

/-- The text that is signed: the base64 form of the transcript. There is none
where building the transcript throws. -/
def Held.transcriptText (runtime : Runtime) (localDeviceId : String) (held : Held)
    (fallback : String) : Option Bytes := do
  let offererSdpFp ← held.context.offerSdp.bind (extractSdpFingerprint runtime)
  let answererSdpFp ← held.context.answerSdp.bind (extractSdpFingerprint runtime)
  let ours ← held.localNonce.bind LocalNonce.nonce?
  let theirs ← held.remoteNonce.bind (RemoteNonce.nonce? runtime)
  let nonces := canonicalOrdering ours theirs held.context.weAreOfferer
  let parties := canonicalOrdering localDeviceId (partyText runtime held.peerDeviceId fallback)
    held.context.weAreOfferer
  return asBytes (b64encode (buildTranscript (held.context.roomId.getD "null")
    (held.context.sessionUuid.getD "") (held.context.callId.getD "null") nonces.1 nonces.2
    parties.1 parties.2 offererSdpFp answererSdpFp))

/-- Once the fingerprints are there and the nonces are nonces, so is the text. -/
theorem Held.exists_transcriptText {runtime : Runtime} {held : Held}
    {offererSdpFp answererSdpFp : String} {ours theirs : Nonce}
    (hOffer : held.context.offerSdp.bind (extractSdpFingerprint runtime) = some offererSdpFp)
    (hAnswer : held.context.answerSdp.bind (extractSdpFingerprint runtime) = some answererSdpFp)
    (hOurs : held.localNonce.bind LocalNonce.nonce? = some ours)
    (hTheirs : held.remoteNonce.bind (RemoteNonce.nonce? runtime) = some theirs)
    (localDeviceId fallback : String) :
    ∃ text, held.transcriptText runtime localDeviceId fallback = some text := by
  simp only [Held.transcriptText, hOffer, hAnswer, hOurs, hTheirs]
  exact ⟨_, rfl⟩

theorem Held.transcriptText_fallback {runtime : Runtime} {held : Held} {deviceId : String}
    (hDevice : held.peerDeviceId = some (.str deviceId)) (hSet : deviceId ≠ "")
    (localDeviceId fallback : String) :
    held.transcriptText runtime localDeviceId fallback =
      held.transcriptText runtime localDeviceId "" := by
  simp only [Held.transcriptText, hDevice, partyText, hSet, ↓reduceIte]

theorem RemoteNonce.nonce?_bytes (runtime : Runtime) (nonce : Nonce) :
    RemoteNonce.nonce? runtime (.bytes nonce.toList) = some nonce := by
  rw [RemoteNonce.nonce?, dif_pos (by simp)]
  rfl

/-- A `verify_response` as it was parsed. -/
structure Response where
  signature : P2P.Signature
  signerPk : PublicKey
  deviceId : String
deriving DecidableEq

/-- The string-valued properties of a frame that the parsers look at. -/
def frameOf (value : JsValue) : Frame :=
  ["type", "nonce_b64", "device_id", "signature_b64", "signer_ed25519_b64"].filterMap fun name =>
    ((value.get? name).bind Json.asStr).map (name, ·)

/-- The parser checks the lengths. -/
def parseResponse (value : JsValue) : Option Response :=
  match parseResponseFrame (frameOf value) with
  | .ok (signature, signerPk, deviceId) =>
      if h : signature.toArray.size = P2P.ed25519SignatureLen ∧
          signerPk.toArray.size = P2P.ed25519PublicKeyLen then
        some ⟨⟨signature.toArray, h.1⟩, ⟨signerPk.toArray, h.2⟩, deviceId⟩
      else none
  | .error _ => none

/-- The number 2, the version of the handshake. -/
def verifyProtocolVersion : JsValue := .num 0x4000000000000000

/-- A frame as it is sent, with the version added to it. -/
def versioned (frame : Frame) : JsValue :=
  .obj (frame.map (fun field => (field.1, .str field.2)) ++ [("v", verifyProtocolVersion)])

/-- The way that terminal data goes. -/
inductive Status where
  | matrix
  | p2p
deriving DecidableEq

/-- A call of `sendEvent`; the calls are numbered. -/
structure TerminalEvent where
  call : Nat
  roomId : String
  type : String
  contentJson : String
deriving DecidableEq

/-- Only these may go over the channel. -/
def encryptedEventTypes : List String := ["org.mxdx.terminal.data", "org.mxdx.terminal.resize"]

/-- The channels attached so far are numbered; every call of `setDataChannel`
attaches a channel of its own. -/
abbrev Channel := Nat

/-- A response whose signature is being checked, with the key that the lookup
has found for its device. -/
structure Verifying where
  channel : Channel
  response : Response
  known : Option PublicKey
  text : Bytes

/-- The signature of the response verifies over the text. -/
def Verifying.Valid (ed : Ed25519) (task : Verifying) : Prop :=
  ∃ key, ed.fromBytes task.response.signerPk = .ok key ∧
    ed.verify key task.text task.response.signature = true

/-- Where an event went. For a frame on a channel it is kept whether the peer
was verified then, and by what channel's frames. -/
inductive Route where
  | matrix (event : TerminalEvent)
  | channel (channel : Channel) (event : TerminalEvent) (verified : Bool)
      (verifiedOn : Option Channel)
deriving DecidableEq

/-- A moment at which verification was complete: what was held then, and the
response accepted before it. -/
structure Completion where
  held : Held
  accepted : Option Verifying

/-- The timer and the channel that it watches. -/
structure VerifyTimer where
  id : Nat
  channel : Channel
deriving DecidableEq

/-- What a transport is made with and never changes. -/
structure TransportConfig where
  localDeviceId : String
  hasLookup : Bool
  hasIdleTimeout : Bool

/-- The fields of the transport, its suspended handlers and timers, and after
them a record of what it has done. -/
structure P2PTransport (ed : Ed25519) where
  context : HandshakeContext
  hasCrypto : Bool
  dataChannel : Option Channel
  peerVerified : Bool
  status : Status
  closed : Bool
  localNonce : Option LocalNonce
  remoteNonce : Option RemoteNonce
  peerDeviceId : Option JsValue
  localVerified : Bool
  ephemeralKeypair : Option ed.SigningKey
  pendingAcks : List TerminalEvent
  /-- The timer that `#verifyTimer` refers to. -/
  verifyTimer : Option Nat
  verifyTimers : List VerifyTimer
  /-- The idle timer, with the channel that was there when it was set. -/
  idleTimer : Option (Option Channel)
  starting : List Channel
  challenged : List Channel
  signing : List (Channel × JsValue)
  lookingUp : List (Channel × Response)
  verifying : List Verifying
  encrypting : List (Channel × TerminalEvent)
  attached : Nat
  timersSet : Nat
  calls : Nat
  accepted : Option Verifying
  verifiedOn : Option Channel
  /-- The responses that channels have delivered. -/
  received : List (Channel × Response)
  sent : List (Channel × JsValue)
  routed : List Route
  acked : List TerminalEvent
  requeued : List TerminalEvent
  completions : List Completion
  transcripts : List Held
  aborts : Nat

/-- What a data channel delivers: a message that is too long, one that is no
JSON, or a frame. -/
inductive Message where
  | oversized
  | unparsable
  | frame (value : JsValue)

/-- How an encryption ends: it fails, the frame is too long, the channel throws
on it, or the channel takes it. -/
inductive Encrypted where
  | failed
  | oversized
  | sendThrows
  | fits

/-- Calls of the transport, messages and closes of its channels, resumptions of
its handlers by their position, and timers. Keys and nonces are drawn by the
environment. -/
inductive TransportInput (ed : Ed25519) where
  | setHandshakeContext (context : HandshakeContext)
  | setP2PCrypto (present : Bool)
  | setDataChannel (hex : String)
  | message (channel : Channel) (message : Message) (nonce : Nonce)
  | channelClosed (channel : Channel)
  | started (index : Nat) (keypair : ed.SigningKey) (nonce : Nonce)
  | startFailed (index : Nat)
  | challengeReady (index : Nat) (keypair : ed.SigningKey) (nonce : Nonce)
  | challengeFailed (index : Nat)
  | signed (index : Nat)
  | signFailed (index : Nat)
  | lookedUp (index : Nat) (known : Option PublicKey)
  | lookupFailed (index : Nat)
  | verified (index : Nat)
  | verifyFailed (index : Nat)
  | verifyTimeout (index : Nat)
  | idleTimeout
  | sendEvent (roomId type contentJson : String)
  | encrypted (index : Nat) (outcome : Encrypted)
  | close

namespace P2PTransport

variable {ed : Ed25519}

/-- A transport begins on Matrix, with nobody verified. -/
def new (context : HandshakeContext) (hasCrypto : Bool) : P2PTransport ed where
  context
  hasCrypto
  dataChannel := none
  peerVerified := false
  status := .matrix
  closed := false
  localNonce := none
  remoteNonce := none
  peerDeviceId := none
  localVerified := false
  ephemeralKeypair := none
  pendingAcks := []
  verifyTimer := none
  verifyTimers := []
  idleTimer := none
  starting := []
  challenged := []
  signing := []
  lookingUp := []
  verifying := []
  encrypting := []
  attached := 0
  timersSet := 0
  calls := 0
  accepted := none
  verifiedOn := none
  received := []
  sent := []
  routed := []
  acked := []
  requeued := []
  completions := []
  transcripts := []
  aborts := 0

/-- What the transcript is made from. -/
def held (transport : P2PTransport ed) : Held :=
  ⟨transport.context, transport.localNonce, transport.remoteNonce, transport.peerDeviceId⟩

/-- `!!this.#remoteNonce`. -/
def hasRemoteNonce (transport : P2PTransport ed) : Bool :=
  transport.remoteNonce.any RemoteNonce.truthy

/-- The frame is lost where there is no channel. -/
def sendControlFrame (transport : P2PTransport ed) (frame : JsValue) : P2PTransport ed :=
  match transport.dataChannel with
  | some channel => { transport with sent := transport.sent ++ [(channel, frame)] }
  | none => transport

/-- A timer that is cleared does not fire. -/
def clearVerifyTimer (transport : P2PTransport ed) : P2PTransport ed :=
  match transport.verifyTimer with
  | some id =>
      { transport with
        verifyTimer := none
        verifyTimers := transport.verifyTimers.filter (·.id != id) }
  | none => transport

/-- The timer before it is not cleared. -/
def setVerifyTimer (transport : P2PTransport ed) (channel : Channel) : P2PTransport ed :=
  { transport with
    verifyTimer := some transport.timersSet
    verifyTimers := transport.verifyTimers ++ [⟨transport.timersSet, channel⟩]
    timersSet := transport.timersSet + 1 }

/-- The channel may now be idle for as long as it likes. -/
def clearIdleTimer (transport : P2PTransport ed) : P2PTransport ed :=
  { transport with idleTimer := none }

section Methods

variable (config : TransportConfig) (runtime : Runtime)

/-- Traffic puts off the closing of an idle channel. -/
def resetIdleTimer (transport : P2PTransport ed) : P2PTransport ed :=
  { transport with
    idleTimer :=
      if config.hasIdleTimeout && transport.status = .p2p then some transport.dataChannel
      else none }

/-- Any activity on P2P starts the idle time anew. -/
def touch (transport : P2PTransport ed) : P2PTransport ed :=
  if transport.status = .p2p then resetIdleTimer config transport else transport

/-- Handing the unacknowledged events to the Matrix client. -/
def requeue (transport : P2PTransport ed) : P2PTransport ed :=
  { transport with
    pendingAcks := []
    requeued := transport.requeued ++ transport.pendingAcks }

/-- What waits for its acknowledgement goes back to Matrix. -/
def handleChannelClose (transport : P2PTransport ed) : P2PTransport ed :=
  let down :=
    { transport.clearVerifyTimer with
      dataChannel := none, peerVerified := false, localVerified := false, accepted := none
      status := .matrix, idleTimer := none }
  if transport.status = .p2p then down.requeue else down

/-- A signature or a key that does not fit ends the channel. -/
def abort (transport : P2PTransport ed) : P2PTransport ed :=
  { transport.handleChannelClose with aborts := transport.aborts + 1 }

/-- `source` is the channel whose frame or handler got here. -/
def checkVerificationComplete (transport : P2PTransport ed) (source : Channel) :
    P2PTransport ed :=
  if transport.localVerified && transport.hasRemoteNonce then
    resetIdleTimer config
      { transport.clearVerifyTimer with
        peerVerified := true
        status := .p2p
        verifiedOn := if transport.peerVerified then transport.verifiedOn else some source
        completions :=
          if transport.peerVerified then transport.completions
          else transport.completions ++ [⟨transport.held, transport.accepted⟩] }
  else transport

/-- The frame that asks the peer to sign. -/
def challengeFrame (nonce : Nonce) : JsValue :=
  versioned (buildChallengeFrame nonce.toList config.localDeviceId)

/-- The frame that answers with the signature. -/
def responseFrame (keypair : ed.SigningKey) (text : Bytes) : JsValue :=
  versioned (buildResponseFrame (ed.sign keypair) (ed.publicKey keypair).toList text
    config.localDeviceId)

/-- Sign the transcript, if there is all that it takes. -/
def sendVerifyResponse (transport : P2PTransport ed) (source : Channel) : P2PTransport ed :=
  match transport.localNonce, transport.ephemeralKeypair with
  | some _, some keypair =>
      if transport.hasRemoteNonce && transport.context.canDoV2 then
        match transport.held.transcriptText runtime config.localDeviceId "" with
        | some text =>
            { transport with
              signing := transport.signing ++ [(source, responseFrame config keypair text)]
              transcripts := transport.transcripts ++ [transport.held] }
        | none => transport
      else transport
  | _, _ => transport

/-- The rest of `handleVerifyChallenge`, once there is a keypair. -/
def answerChallenge (transport : P2PTransport ed) (source : Channel) (nonce : Nonce) :
    P2PTransport ed :=
  let announced :=
    if transport.localNonce.isNone then
      { transport with localNonce := some (.bytes nonce) }.sendControlFrame
        (challengeFrame config nonce)
    else transport
  announced.sendVerifyResponse config runtime source

/-- A challenge that cannot be read is passed over. -/
def handleVerifyChallenge (transport : P2PTransport ed) (source : Channel) (frame : JsValue)
    (nonce : Nonce) : P2PTransport ed :=
  match parseChallengeFrame (frameOf frame) with
  | .ok (peerNonce, deviceId) =>
      let taken :=
        { transport with
          remoteNonce := some (.bytes peerNonce), peerDeviceId := some (.str deviceId) }
      if transport.ephemeralKeypair.isNone then
        { taken with challenged := transport.challenged ++ [source] }
      else taken.answerChallenge config runtime source nonce
  | .error _ => transport

/-- Rebuild the transcript and have the signature checked. -/
def checkSignature (transport : P2PTransport ed) (source : Channel) (response : Response)
    (known : Option PublicKey) : P2PTransport ed :=
  match transport.held.transcriptText runtime config.localDeviceId response.deviceId with
  | some text =>
      { transport with
        verifying := transport.verifying ++ [⟨source, response, known, text⟩]
        transcripts := transport.transcripts ++ [transport.held] }
  | none => transport

/-- A response is looked at only between two nonces. -/
def handleVerifyResponse (transport : P2PTransport ed) (source : Channel) (frame : JsValue) :
    P2PTransport ed :=
  if transport.localNonce.isNone || !transport.hasRemoteNonce then transport
  else
    match parseResponse frame with
    | some response =>
        let taken := { transport with received := transport.received ++ [(source, response)] }
        if config.hasLookup then
          { taken with lookingUp := transport.lookingUp ++ [(source, response)] }
        else taken.checkSignature config runtime source response none
    | none => transport

/-- A key that was found has to be the key of the frame. -/
def handleLookup (transport : P2PTransport ed) (source : Channel) (response : Response)
    (known : Option PublicKey) : P2PTransport ed :=
  match known with
  | some key =>
      if key = response.signerPk then
        transport.checkSignature config runtime source response known
      else transport.abort
  | none => transport.checkSignature config runtime source response none

/-- Importing a key that is none throws. -/
def handleVerified (transport : P2PTransport ed) (task : Verifying) : P2PTransport ed :=
  match ed.fromBytes task.response.signerPk with
  | .ok key =>
      if ed.verify key task.text task.response.signature then
        { transport with localVerified := true, accepted := some task }.checkVerificationComplete
          config task.channel
      else transport.abort
  | .error _ => transport

/-- The unsigned challenge of older clients. -/
def handlePeerVerify (transport : P2PTransport ed) (source : Channel) (frame : JsValue) :
    P2PTransport ed :=
  let taken :=
    { transport with
      remoteNonce := (frame.get? "nonce").map .value
      peerDeviceId := frame.get? "device_id" }
  if (frame.get? "nonce").any truthy && (frame.get? "device_id").any truthy then
    (taken.sendControlFrame (.obj [("type", .str "peer_verify_response"),
      ("nonce", (frame.get? "nonce").getD .null),
      ("device_id", .str config.localDeviceId)])).checkVerificationComplete config source
  else taken

/-- The nonce of the frame is our own; only a text can be equal to one. -/
def echoesNonce (transport : P2PTransport ed) (frame : JsValue) : Bool :=
  match transport.localNonce, frame.get? "nonce" with
  | some (.hex ours), some (.str theirs) => ours == theirs && theirs != ""
  | _, _ => false

/-- The unsigned response of older clients: the nonce comes back. -/
def handlePeerVerifyResponse (transport : P2PTransport ed) (source : Channel) (frame : JsValue) :
    P2PTransport ed :=
  if transport.echoesNonce frame && (frame.get? "device_id").any truthy then
    { transport with localVerified := true, accepted := none }.checkVerificationComplete config
      source
  else transport

/-- An event that has arrived need not be kept. -/
def handleAck (transport : P2PTransport ed) (frame : JsValue) : P2PTransport ed :=
  { transport with
    pendingAcks := transport.pendingAcks.filter
      fun event => runtime.outlivesAck event.contentJson (frame.get? "seq")
    acked := transport.acked ++ transport.pendingAcks.filter
      fun event => !runtime.outlivesAck event.contentJson (frame.get? "seq") }

/-- A frame is dispatched on its type. Encrypted frames only go to the inbox. -/
def handleFrame (transport : P2PTransport ed) (source : Channel) (frame : JsValue)
    (nonce : Nonce) : P2PTransport ed :=
  match (frame.get? "type").bind Json.asStr with
  | some "ack" => transport.handleAck runtime frame
  | some "ping" => transport.sendControlFrame (.obj [("type", .str "pong")])
  | some "verify_challenge" => transport.handleVerifyChallenge config runtime source frame nonce
  | some "verify_response" => transport.handleVerifyResponse config runtime source frame
  | some "peer_verify" => transport.handlePeerVerify config source frame
  | some "peer_verify_response" => transport.handlePeerVerifyResponse config source frame
  | _ => transport

/-- The handler does not ask which channel the message came from. -/
def handleDataChannelMessage (transport : P2PTransport ed) (source : Channel) (message : Message)
    (nonce : Nonce) : P2PTransport ed :=
  match message with
  | .oversized => transport
  | .unparsable => transport.touch config
  | .frame value => (transport.touch config).handleFrame config runtime source value nonce

/-- `startVerification` up to its `await`; without a context there is none. -/
def startVerification (transport : P2PTransport ed) (source : Channel) (hex : String) :
    P2PTransport ed :=
  if transport.context.canDoV2 then { transport with starting := transport.starting ++ [source] }
  else
    ({ transport with localNonce := some (.hex hex) }.sendControlFrame
      (.obj [("type", .str "peer_verify"), ("nonce", .str hex),
        ("device_id", .str config.localDeviceId)])).setVerifyTimer source

/-- Neither the status nor the timers nor the unacknowledged events change. -/
def setDataChannel (transport : P2PTransport ed) (hex : String) : P2PTransport ed :=
  { transport with
    dataChannel := some transport.attached
    attached := transport.attached + 1
    peerVerified := false
    localVerified := false
    accepted := none
    localNonce := none
    remoteNonce := none
    peerDeviceId := none
    ephemeralKeypair := none }.startVerification config transport.attached hex

/-- `startVerification` after its `await`: keypair and nonce are overwritten. -/
def finishStart (transport : P2PTransport ed) (source : Channel) (keypair : ed.SigningKey)
    (nonce : Nonce) : P2PTransport ed :=
  ({ transport with
    ephemeralKeypair := some keypair
    localNonce := some (.bytes nonce) }.sendControlFrame (challengeFrame config nonce)).setVerifyTimer
      source

/-- A peer that is late is no peer. -/
def handleVerifyTimeout (transport : P2PTransport ed) : P2PTransport ed :=
  if transport.peerVerified then { transport with verifyTimer := none }
  else
    { transport with
      verifyTimer := none, dataChannel := none, peerVerified := false, status := .matrix }

/-- An idle channel is closed, and what waits goes back to Matrix. -/
def handleIdleTimeout (transport : P2PTransport ed) : P2PTransport ed :=
  { transport with
    idleTimer := none, dataChannel := none, peerVerified := false, status := .matrix }.requeue

/-- An event goes on its way. -/
def route (transport : P2PTransport ed) (route : Route) : P2PTransport ed :=
  { transport with routed := transport.routed ++ [route] }

/-- The channel is checked here and used after the `await`. -/
def sendEvent (transport : P2PTransport ed) (roomId type contentJson : String) :
    P2PTransport ed :=
  if transport.closed then transport
  else
    let event : TerminalEvent := ⟨transport.calls, roomId, type, contentJson⟩
    let counted := { transport.touch config with calls := transport.calls + 1 }
    match transport.dataChannel with
    | some channel =>
        if transport.status = .p2p && transport.peerVerified && transport.hasCrypto &&
            encryptedEventTypes.contains type then
          { counted with encrypting := transport.encrypting ++ [(channel, event)] }
        else counted.route (.matrix event)
    | none => counted.route (.matrix event)

/-- Anything that goes wrong on the way to the channel falls back to Matrix,
also a channel that is gone. -/
def finishSend (transport : P2PTransport ed) (event : TerminalEvent) (outcome : Encrypted) :
    P2PTransport ed :=
  match outcome, transport.dataChannel with
  | .fits, some channel =>
      { transport.route (.channel channel event transport.peerVerified transport.verifiedOn) with
        pendingAcks := transport.pendingAcks ++ [event] }
  | _, _ => transport.route (.matrix event)

/-- The owner is done with the transport. -/
def close (transport : P2PTransport ed) : P2PTransport ed :=
  { transport.clearIdleTimer.clearVerifyTimer with closed := true }

/-- Frames, calls and timers, in any order. -/
def step (transport : P2PTransport ed) : TransportInput ed → P2PTransport ed
  | .setHandshakeContext context => { transport with context }
  | .setP2PCrypto present => { transport with hasCrypto := present }
  | .setDataChannel hex => transport.setDataChannel config hex
  | .message channel message nonce =>
      transport.handleDataChannelMessage config runtime channel message nonce
  | .channelClosed channel =>
      if transport.dataChannel = some channel then transport.handleChannelClose else transport
  | .started index keypair nonce =>
      match transport.starting[index]? with
      | some source =>
          { transport with starting := transport.starting.eraseIdx index }.finishStart config
            source keypair nonce
      | none => transport
  | .startFailed index => { transport with starting := transport.starting.eraseIdx index }
  | .challengeReady index keypair nonce =>
      match transport.challenged[index]? with
      | some source =>
          { transport with
            challenged := transport.challenged.eraseIdx index
            ephemeralKeypair := some keypair }.answerChallenge config runtime source nonce
      | none => transport
  | .challengeFailed index => { transport with challenged := transport.challenged.eraseIdx index }
  | .signed index =>
      match transport.signing[index]? with
      | some task =>
          { transport with signing := transport.signing.eraseIdx index }.sendControlFrame task.2
      | none => transport
  | .signFailed index => { transport with signing := transport.signing.eraseIdx index }
  | .lookedUp index known =>
      match transport.lookingUp[index]? with
      | some task =>
          { transport with lookingUp := transport.lookingUp.eraseIdx index }.handleLookup config
            runtime task.1 task.2 known
      | none => transport
  | .lookupFailed index => { transport with lookingUp := transport.lookingUp.eraseIdx index }
  | .verified index =>
      match transport.verifying[index]? with
      | some task =>
          { transport with verifying := transport.verifying.eraseIdx index }.handleVerified config
            task
      | none => transport
  | .verifyFailed index => { transport with verifying := transport.verifying.eraseIdx index }
  | .verifyTimeout index =>
      if index < transport.verifyTimers.length then
        { transport with
          verifyTimers := transport.verifyTimers.eraseIdx index }.handleVerifyTimeout
      else transport
  | .idleTimeout => if transport.idleTimer.isSome then transport.handleIdleTimeout else transport
  | .sendEvent roomId type contentJson => transport.sendEvent config roomId type contentJson
  | .encrypted index outcome =>
      match transport.encrypting[index]? with
      | some task =>
          { transport with encrypting := transport.encrypting.eraseIdx index }.finishSend task.2
            outcome
      | none => transport
  | .close => transport.close

/-- The transport without its timers, the frames on their way out, and the
transcripts built for them; what the properties below are about. -/
def core (transport : P2PTransport ed) : P2PTransport ed :=
  { transport with
    verifyTimer := none, verifyTimers := [], timersSet := 0, idleTimer := none
    signing := [], sent := [], transcripts := [] }

/-- `checkVerificationComplete` up to its timers. -/
def complete (transport : P2PTransport ed) (source : Channel) : P2PTransport ed :=
  if transport.localVerified && transport.hasRemoteNonce then
    { transport with
      peerVerified := true
      status := .p2p
      verifiedOn := if transport.peerVerified then transport.verifiedOn else some source
      completions :=
        if transport.peerVerified then transport.completions
        else transport.completions ++ [⟨transport.held, transport.accepted⟩] }
  else transport

/-- The type that a frame names. -/
def typeOf (frame : JsValue) : Option String := (frame.get? "type").bind Json.asStr

/-- A challenge may set our nonce where there is none. -/
def SetsNonce (before after : Option LocalNonce) : Prop :=
  after = before ∨ before = none ∧ ∃ nonce, after = some (.bytes nonce)

/-- Everything an input can do to the transport, up to its timers and the
frames that go out. -/
inductive Effect (transport : P2PTransport ed) : TransportInput ed → P2PTransport ed → Prop where
  | same {input : TransportInput ed} : Effect transport input transport.core
  | dropped {input : TransportInput ed} (starting challenged : List Channel)
      (lookingUp received : List (Channel × Response)) (verifying : List Verifying)
      (hLookingUp : lookingUp ⊆ transport.lookingUp)
      (hReceived : transport.received ⊆ received)
      (hVerifying : verifying ⊆ transport.verifying) :
      Effect transport input
        { transport.core with starting, challenged, lookingUp, received, verifying }
  | contextSet (context : HandshakeContext) :
      Effect transport (.setHandshakeContext context) { transport.core with context }
  | cryptoSet (hasCrypto : Bool) :
      Effect transport (.setP2PCrypto hasCrypto) { transport.core with hasCrypto }
  | attached {hex : String} (localNonce : Option LocalNonce) (starting : List Channel)
      (hNonce : transport.context.canDoV2 = true → localNonce = none) :
      Effect transport (.setDataChannel hex)
        { transport.core with
          dataChannel := some transport.attached, attached := transport.attached + 1
          peerVerified := false, localVerified := false, accepted := none, localNonce
          remoteNonce := none, peerDeviceId := none, ephemeralKeypair := none, starting }
  | challengeTaken {channel : Channel} {frame : JsValue} {nonce : Nonce} (peerNonce : Bytes)
      (deviceId : String) (localNonce : Option LocalNonce) (challenged : List Channel)
      (hType : typeOf frame = some "verify_challenge")
      (hParse : parseChallengeFrame (frameOf frame) = .ok (peerNonce, deviceId))
      (hNonce : SetsNonce transport.localNonce localNonce) :
      Effect transport (.message channel (.frame frame) nonce)
        { transport.core with
          remoteNonce := some (.bytes peerNonce), peerDeviceId := some (.str deviceId)
          localNonce, challenged }
  | lookupBegun {channel : Channel} {frame : JsValue} {nonce : Nonce} (response : Response)
      (hType : typeOf frame = some "verify_response") :
      Effect transport (.message channel (.frame frame) nonce)
        { transport.core with
          lookingUp := transport.lookingUp ++ [(channel, response)]
          received := transport.received ++ [(channel, response)] }
  | checkBegun {input : TransportInput ed} (lookingUp received : List (Channel × Response))
      (task : Verifying) (hLookingUp : lookingUp ⊆ transport.lookingUp)
      (hReceived : transport.received ⊆ received)
      (hText : transport.held.transcriptText runtime config.localDeviceId
        task.response.deviceId = some task.text)
      (hKnown : task.known = none ∨ task.known = some task.response.signerPk)
      (hInput : (∃ frame nonce, input = .message task.channel (.frame frame) nonce ∧
          typeOf frame = some "verify_response" ∧ (task.channel, task.response) ∈ received) ∨
        ∃ index, input = .lookedUp index task.known ∧
          transport.lookingUp[index]? = some (task.channel, task.response)) :
      Effect transport input
        { transport.core with lookingUp, received, verifying := transport.verifying ++ [task] }
  | aborted {input : TransportInput ed} (lookingUp : List (Channel × Response))
      (verifying : List Verifying) (hLookingUp : lookingUp ⊆ transport.lookingUp)
      (hVerifying : verifying ⊆ transport.verifying)
      (hInput : (∃ index key task, input = .lookedUp index (some key) ∧
          transport.lookingUp[index]? = some task ∧ key ≠ task.2.signerPk) ∨
        ∃ index task, input = .verified index ∧ transport.verifying[index]? = some task) :
      Effect transport input
        { transport.core.handleChannelClose with
          lookingUp, verifying, aborts := transport.aborts + 1 }
  | responseAccepted {index : Nat} (task : Verifying)
      (hTask : transport.verifying[index]? = some task) (hValid : task.Valid ed) :
      Effect transport (.verified index)
        ({ transport.core with
          verifying := transport.verifying.eraseIdx index, localVerified := true
          accepted := some task }.complete task.channel)
  | legacyTaken {channel : Channel} {frame : JsValue} {nonce : Nonce}
      (hType : typeOf frame = some "peer_verify")
      (hFields : ¬ ((frame.get? "nonce").any truthy = true ∧
        (frame.get? "device_id").any truthy = true)) :
      Effect transport (.message channel (.frame frame) nonce)
        { transport.core with
          remoteNonce := (frame.get? "nonce").map .value
          peerDeviceId := frame.get? "device_id" }
  | legacyAnswered {channel : Channel} {frame : JsValue} {nonce : Nonce}
      (hType : typeOf frame = some "peer_verify")
      (hFields : (frame.get? "nonce").any truthy = true ∧
        (frame.get? "device_id").any truthy = true) :
      Effect transport (.message channel (.frame frame) nonce)
        ({ transport.core with
          remoteNonce := (frame.get? "nonce").map .value
          peerDeviceId := frame.get? "device_id" }.complete channel)
  | legacyAccepted {channel : Channel} {frame : JsValue} {nonce : Nonce}
      (hType : typeOf frame = some "peer_verify_response")
      (hEcho : transport.echoesNonce frame = true ∧
        (frame.get? "device_id").any truthy = true) :
      Effect transport (.message channel (.frame frame) nonce)
        ({ transport.core with localVerified := true, accepted := none }.complete channel)
  | ackTaken {channel : Channel} {frame : JsValue} {nonce : Nonce} :
      Effect transport (.message channel (.frame frame) nonce)
        (transport.core.handleAck runtime frame)
  | wentDown {channel : Channel} (hChannel : transport.dataChannel = some channel) :
      Effect transport (.channelClosed channel) transport.core.handleChannelClose
  | startFinished {index : Nat} {keypair : ed.SigningKey} {nonce : Nonce} (source : Channel)
      (hSource : transport.starting[index]? = some source) :
      Effect transport (.started index keypair nonce)
        { transport.core with
          starting := transport.starting.eraseIdx index, ephemeralKeypair := some keypair
          localNonce := some (.bytes nonce) }
  | challengeAnswered {index : Nat} {keypair : ed.SigningKey} {nonce : Nonce} (source : Channel)
      (localNonce : Option LocalNonce) (hSource : transport.challenged[index]? = some source)
      (hNonce : SetsNonce transport.localNonce localNonce) :
      Effect transport (.challengeReady index keypair nonce)
        { transport.core with
          challenged := transport.challenged.eraseIdx index, ephemeralKeypair := some keypair
          localNonce }
  | timedOut {index : Nat} (hTimer : index < transport.verifyTimers.length)
      (hVerified : transport.peerVerified = false) :
      Effect transport (.verifyTimeout index)
        { transport.core with dataChannel := none, peerVerified := false, status := .matrix }
  | idledOut (hTimer : transport.idleTimer.isSome = true) :
      Effect transport .idleTimeout
        { transport.core with
          dataChannel := none, peerVerified := false, status := .matrix }.requeue
  | called {roomId type contentJson : String} (hOpen : transport.closed = false) :
      Effect transport (.sendEvent roomId type contentJson)
        { transport.core with
          calls := transport.calls + 1
          routed := transport.routed ++ [.matrix ⟨transport.calls, roomId, type, contentJson⟩] }
  | encryptionBegun {roomId type contentJson : String} (channel : Channel)
      (hChannel : transport.dataChannel = some channel)
      (hVerified : transport.peerVerified = true) (hStatus : transport.status = .p2p) :
      Effect transport (.sendEvent roomId type contentJson)
        { transport.core with
          calls := transport.calls + 1
          encrypting := transport.encrypting ++
            [(channel, ⟨transport.calls, roomId, type, contentJson⟩)] }
  | fellBack {index : Nat} {outcome : Encrypted} (task : Channel × TerminalEvent)
      (hTask : transport.encrypting[index]? = some task) :
      Effect transport (.encrypted index outcome)
        { transport.core with
          encrypting := transport.encrypting.eraseIdx index
          routed := transport.routed ++ [.matrix task.2] }
  | framed {index : Nat} (task : Channel × TerminalEvent) (channel : Channel)
      (hTask : transport.encrypting[index]? = some task)
      (hChannel : transport.dataChannel = some channel) :
      Effect transport (.encrypted index .fits)
        { transport.core with
          encrypting := transport.encrypting.eraseIdx index
          routed := transport.routed ++
            [.channel channel task.2 transport.peerVerified transport.verifiedOn]
          pendingAcks := transport.pendingAcks ++ [task.2] }
  | shut : Effect transport .close { transport.core with closed := true }

section Core

variable (transport : P2PTransport ed)

@[simp] theorem core_sendControlFrame (frame : JsValue) :
    (transport.sendControlFrame frame).core = transport.core := by
  unfold sendControlFrame
  split <;> rfl

@[simp] theorem core_clearVerifyTimer : transport.clearVerifyTimer.core = transport.core := by
  unfold clearVerifyTimer
  split <;> rfl

@[simp] theorem core_setVerifyTimer (channel : Channel) :
    (transport.setVerifyTimer channel).core = transport.core := rfl

theorem touch_fields :
    ∃ idleTimer, transport.touch config = { transport with idleTimer } := by
  unfold touch
  split
  · exact ⟨_, rfl⟩
  · exact ⟨_, rfl⟩

@[simp] theorem core_sendVerifyResponse (source : Channel) :
    (transport.sendVerifyResponse config runtime source).core = transport.core := by
  unfold sendVerifyResponse
  split
  · split
    · split <;> rfl
    · rfl
  · rfl

theorem clearVerifyTimer_fields :
    ∃ verifyTimer verifyTimers, transport.clearVerifyTimer =
      { transport with verifyTimer, verifyTimers } := by
  unfold clearVerifyTimer
  split
  · exact ⟨_, _, rfl⟩
  · exact ⟨_, _, rfl⟩

theorem core_handleChannelClose :
    transport.handleChannelClose.core = transport.core.handleChannelClose := by
  obtain ⟨verifyTimer, verifyTimers, hClear⟩ := transport.clearVerifyTimer_fields
  simp only [handleChannelClose, hClear]
  by_cases hStatus : transport.status = .p2p
  · simp [hStatus, core, requeue, clearVerifyTimer]
  · simp [hStatus, core, clearVerifyTimer]

theorem core_abort (lookingUp : List (Channel × Response)) (verifying : List Verifying) :
    ({ transport with lookingUp, verifying }.abort).core =
      { transport.core.handleChannelClose with
        lookingUp, verifying, aborts := transport.aborts + 1 } := by
  have hClose := core_handleChannelClose { transport with lookingUp, verifying }
  have hAbort : ({ transport with lookingUp, verifying }.abort).core =
      { ({ transport with lookingUp, verifying } : P2PTransport ed).handleChannelClose.core with
        aborts := transport.aborts + 1 } := rfl
  rw [hAbort, hClose]
  by_cases hStatus : transport.status = .p2p
  · simp [handleChannelClose, core, hStatus, requeue, clearVerifyTimer]
  · simp [handleChannelClose, core, hStatus, clearVerifyTimer]

theorem core_checkVerificationComplete (source : Channel) :
    (transport.checkVerificationComplete config source).core =
      transport.core.complete source := by
  obtain ⟨verifyTimer, verifyTimers, hClear⟩ := transport.clearVerifyTimer_fields
  unfold checkVerificationComplete complete
  have hRemote : transport.core.hasRemoteNonce = transport.hasRemoteNonce := rfl
  have hLocal : transport.core.localVerified = transport.localVerified := rfl
  rw [hRemote, hLocal, hClear]
  split
  · rfl
  · rfl

theorem core_answerChallenge (source : Channel) (nonce : Nonce) :
    ∃ localNonce, SetsNonce transport.localNonce localNonce ∧
      (transport.answerChallenge config runtime source nonce).core =
        { transport.core with localNonce } := by
  unfold answerChallenge
  rw [core_sendVerifyResponse]
  cases hNonce : transport.localNonce with
  | none =>
      refine ⟨some (.bytes nonce), .inr ⟨rfl, nonce, rfl⟩, ?_⟩
      simp only [Option.isNone_none, ↓reduceIte, core_sendControlFrame]
      rfl
  | some known =>
      refine ⟨some known, .inl rfl, ?_⟩
      simp only [Option.isNone_some, Bool.false_eq_true, ↓reduceIte]
      rw [← hNonce]
      rfl

end Core

section StepEffect

variable {config runtime} {transport : P2PTransport ed}

theorem checkSignature_effect {input : TransportInput ed} {source : Channel}
    {response : Response} {known : Option PublicKey}
    (lookingUp received : List (Channel × Response))
    (hLookingUp : lookingUp ⊆ transport.lookingUp) (hReceived : transport.received ⊆ received)
    (hKnown : known = none ∨ known = some response.signerPk)
    (hInput : (∃ frame nonce, input = .message source (.frame frame) nonce ∧
        typeOf frame = some "verify_response" ∧ (source, response) ∈ received) ∨
      ∃ index, input = .lookedUp index known ∧
        transport.lookingUp[index]? = some (source, response)) :
    Effect config runtime transport input
      ({ transport with lookingUp, received }.checkSignature config runtime source response
        known).core := by
  unfold checkSignature
  have hHeld : held { transport with lookingUp, received } = transport.held := rfl
  rw [hHeld]
  split
  · rename_i text hText
    exact .checkBegun lookingUp received ⟨source, response, known, text⟩ hLookingUp hReceived
      hText hKnown hInput
  · exact .dropped _ _ lookingUp received _ hLookingUp hReceived (List.Subset.refl _)

theorem handleVerifyChallenge_effect {channel : Channel} {frame : JsValue} {nonce : Nonce}
    (hType : typeOf frame = some "verify_challenge") :
    Effect config runtime transport (.message channel (.frame frame) nonce)
      (transport.handleVerifyChallenge config runtime channel frame nonce).core := by
  unfold handleVerifyChallenge
  split
  · rename_i peerNonce deviceId hParse
    split
    · exact .challengeTaken peerNonce deviceId _ _ hType hParse (.inl rfl)
    · obtain ⟨localNonce, hNonce, hCore⟩ := core_answerChallenge config runtime
        { transport with
          remoteNonce := some (.bytes peerNonce), peerDeviceId := some (.str deviceId) }
        channel nonce
      rw [hCore]
      exact .challengeTaken peerNonce deviceId localNonce _ hType hParse hNonce
  · exact .same

theorem handleVerifyResponse_effect {channel : Channel} {frame : JsValue} {nonce : Nonce}
    (hType : typeOf frame = some "verify_response") :
    Effect config runtime transport (.message channel (.frame frame) nonce)
      (transport.handleVerifyResponse config runtime channel frame).core := by
  unfold handleVerifyResponse
  split
  · exact .same
  · split
    · rename_i response hParse
      split
      · exact .lookupBegun response hType
      · exact checkSignature_effect transport.lookingUp _ (List.Subset.refl _)
          (List.subset_append_left _ _) (.inl rfl)
          (.inl ⟨frame, nonce, rfl, hType, by simp⟩)
    · exact .same

theorem handlePeerVerify_effect {channel : Channel} {frame : JsValue} {nonce : Nonce}
    (hType : typeOf frame = some "peer_verify") :
    Effect config runtime transport (.message channel (.frame frame) nonce)
      (transport.handlePeerVerify config channel frame).core := by
  unfold handlePeerVerify
  split
  · rename_i hFields
    rw [core_checkVerificationComplete, core_sendControlFrame]
    exact .legacyAnswered hType (by simpa using hFields)
  · rename_i hFields
    exact .legacyTaken hType (by simpa using hFields)

theorem handlePeerVerifyResponse_effect {channel : Channel} {frame : JsValue} {nonce : Nonce}
    (hType : typeOf frame = some "peer_verify_response") :
    Effect config runtime transport (.message channel (.frame frame) nonce)
      (transport.handlePeerVerifyResponse config channel frame).core := by
  unfold handlePeerVerifyResponse
  split
  · rename_i hEcho
    rw [core_checkVerificationComplete]
    exact .legacyAccepted hType (by simpa using hEcho)
  · exact .same

theorem handleFrame_effect (channel : Channel) (frame : JsValue) (nonce : Nonce) :
    Effect config runtime transport (.message channel (.frame frame) nonce)
      (transport.handleFrame config runtime channel frame nonce).core := by
  unfold handleFrame
  split
  · exact .ackTaken
  · rw [core_sendControlFrame]
    exact .same
  · exact handleVerifyChallenge_effect ‹_›
  · exact handleVerifyResponse_effect ‹_›
  · exact handlePeerVerify_effect ‹_›
  · exact handlePeerVerifyResponse_effect ‹_›
  · exact .same

/-- No handler of a message looks at the idle timer. -/
theorem Effect.of_idleTimer {channel : Channel} {message : Message} {nonce : Nonce}
    {next : P2PTransport ed} {idleTimer : Option (Option Channel)}
    (h : Effect config runtime { transport with idleTimer } (.message channel message nonce) next) :
    Effect config runtime transport (.message channel message nonce) next := by
  cases h with
  | same => exact .same
  | dropped starting challenged lookingUp received verifying hLookingUp hReceived hVerifying =>
      exact .dropped starting challenged lookingUp received verifying hLookingUp hReceived
        hVerifying
  | challengeTaken peerNonce deviceId localNonce challenged hType hParse hNonce =>
      exact .challengeTaken peerNonce deviceId localNonce challenged hType hParse hNonce
  | lookupBegun response hType => exact .lookupBegun response hType
  | checkBegun lookingUp received task hLookingUp hReceived hText hKnown hInput =>
      exact .checkBegun lookingUp received task hLookingUp hReceived hText hKnown hInput
  | aborted lookingUp verifying hLookingUp hVerifying hInput =>
      exact .aborted lookingUp verifying hLookingUp hVerifying hInput
  | legacyTaken hType hFields => exact .legacyTaken hType hFields
  | legacyAnswered hType hFields => exact .legacyAnswered hType hFields
  | legacyAccepted hType hEcho => exact .legacyAccepted hType hEcho
  | ackTaken => exact .ackTaken

theorem message_effect (channel : Channel) (message : Message) (nonce : Nonce) :
    Effect config runtime transport (.message channel message nonce)
      (transport.handleDataChannelMessage config runtime channel message nonce).core := by
  obtain ⟨idleTimer, hTouch⟩ := touch_fields config transport
  cases message with
  | oversized => exact .same
  | unparsable =>
      simp only [handleDataChannelMessage, hTouch]
      exact .same
  | frame value =>
      simp only [handleDataChannelMessage, hTouch]
      exact (handleFrame_effect channel value nonce).of_idleTimer

theorem lookedUp_effect (index : Nat) (known : Option PublicKey) :
    Effect config runtime transport (.lookedUp index known)
      (transport.step config runtime (.lookedUp index known)).core := by
  simp only [step]
  split
  · rename_i task hTask
    have hSub : transport.lookingUp.eraseIdx index ⊆ transport.lookingUp :=
      List.eraseIdx_subset
    unfold handleLookup
    split
    · rename_i key
      split
      · rename_i hKey
        exact checkSignature_effect _ _ hSub (List.Subset.refl _)
          (.inr (congrArg some hKey)) (.inr ⟨index, rfl, hTask⟩)
      · rename_i hKey
        rw [core_abort]
        exact .aborted _ _ hSub (List.Subset.refl _)
          (.inl ⟨index, key, task, rfl, hTask, hKey⟩)
    · exact checkSignature_effect _ _ hSub (List.Subset.refl _) (.inl rfl) (.inr ⟨index, rfl, hTask⟩)
  · exact .same

theorem verified_effect (index : Nat) :
    Effect config runtime transport (.verified index)
      (transport.step config runtime (.verified index)).core := by
  simp only [step]
  split
  · rename_i task hTask
    have hSub : transport.verifying.eraseIdx index ⊆ transport.verifying :=
      List.eraseIdx_subset
    unfold handleVerified
    split
    · rename_i key hKey
      split
      · rename_i hVerify
        rw [core_checkVerificationComplete]
        exact .responseAccepted task hTask ⟨key, hKey, hVerify⟩
      · rw [core_abort]
        exact .aborted _ _ (List.Subset.refl _) hSub (.inr ⟨index, task, rfl, hTask⟩)
    · exact .dropped _ _ _ _ _ (List.Subset.refl _) (List.Subset.refl _) hSub
  · exact .same

theorem setDataChannel_effect (hex : String) :
    Effect config runtime transport (.setDataChannel hex)
      (transport.setDataChannel config hex).core := by
  unfold setDataChannel startVerification
  split
  · exact .attached none _ fun _ => rfl
  · rename_i hContext
    rw [core_setVerifyTimer, core_sendControlFrame]
    exact .attached _ _ fun h => absurd h hContext

theorem sendEvent_effect (roomId type contentJson : String) :
    Effect config runtime transport (.sendEvent roomId type contentJson)
      (transport.sendEvent config roomId type contentJson).core := by
  unfold sendEvent
  split
  · exact .same
  · rename_i hClosed
    have hOpen : transport.closed = false := by simpa using hClosed
    obtain ⟨idleTimer, hTouch⟩ := touch_fields config transport
    simp only [hTouch]
    split
    · rename_i channel hChannel
      split
      · rename_i hActive
        simp only [Bool.and_eq_true, decide_eq_true_eq] at hActive
        exact .encryptionBegun channel hChannel hActive.1.1.2 hActive.1.1.1
      · exact .called hOpen
    · exact .called hOpen

theorem encrypted_effect (index : Nat) (outcome : Encrypted) :
    Effect config runtime transport (.encrypted index outcome)
      (transport.step config runtime (.encrypted index outcome)).core := by
  simp only [step]
  split
  · rename_i task hTask
    unfold finishSend
    split
    · rename_i channel hChannel
      exact .framed task channel hTask hChannel
    · exact .fellBack task hTask
  · exact .same

theorem step_effect (config : TransportConfig) (runtime : Runtime) (transport : P2PTransport ed)
    (input : TransportInput ed) :
    Effect config runtime transport input (transport.step config runtime input).core := by
  cases input with
  | setHandshakeContext context => exact .contextSet context
  | setP2PCrypto present => exact .cryptoSet present
  | setDataChannel hex => exact setDataChannel_effect hex
  | message channel message nonce => exact message_effect channel message nonce
  | channelClosed channel =>
      simp only [step]
      split
      · rename_i hChannel
        rw [core_handleChannelClose]
        exact .wentDown hChannel
      · exact .same
  | started index keypair nonce =>
      simp only [step]
      split
      · rename_i source hSource
        rw [finishStart, core_setVerifyTimer, core_sendControlFrame]
        exact .startFinished source hSource
      · exact .same
  | startFailed index =>
      exact .dropped _ _ _ _ _ (List.Subset.refl _) (List.Subset.refl _) (List.Subset.refl _)
  | challengeReady index keypair nonce =>
      simp only [step]
      split
      · rename_i source hSource
        obtain ⟨localNonce, hNonce, hCore⟩ := core_answerChallenge config runtime
          { transport with
            challenged := transport.challenged.eraseIdx index
            ephemeralKeypair := some keypair } source nonce
        rw [hCore]
        exact .challengeAnswered source localNonce hSource hNonce
      · exact .same
  | challengeFailed index =>
      exact .dropped _ _ _ _ _ (List.Subset.refl _) (List.Subset.refl _) (List.Subset.refl _)
  | signed index =>
      simp only [step]
      split
      · rw [core_sendControlFrame]
        exact .same
      · exact .same
  | signFailed index => exact .same
  | lookedUp index known => exact lookedUp_effect index known
  | lookupFailed index =>
      exact .dropped _ _ _ _ _ List.eraseIdx_subset (List.Subset.refl _) (List.Subset.refl _)
  | verified index => exact verified_effect index
  | verifyFailed index =>
      exact .dropped _ _ _ _ _ (List.Subset.refl _) (List.Subset.refl _) List.eraseIdx_subset
  | verifyTimeout index =>
      simp only [step]
      split
      · rename_i hTimer
        unfold handleVerifyTimeout
        split
        · exact .same
        · rename_i hVerified
          exact .timedOut hTimer (by simpa using hVerified)
      · exact .same
  | idleTimeout =>
      simp only [step]
      split
      · rename_i hTimer
        exact .idledOut hTimer
      · exact .same
  | sendEvent roomId type contentJson => exact sendEvent_effect roomId type contentJson
  | encrypted index outcome => exact encrypted_effect index outcome
  | close =>
      have hCore := core_clearVerifyTimer transport.clearIdleTimer
      have hClose : transport.close.core =
          { transport.clearIdleTimer.clearVerifyTimer.core with closed := true } := rfl
      simp only [step]
      rw [hClose, hCore]
      exact .shut

end StepEffect

end Methods

/-- A channel that goes down while the status is `p2p` has its events sent again. -/
theorem core_handleChannelClose_cases (transport : P2PTransport ed) :
    ∃ pendingAcks requeued, transport.core.handleChannelClose =
        { transport.core with
          dataChannel := none, peerVerified := false, localVerified := false, accepted := none
          status := .matrix, pendingAcks, requeued } ∧
      (pendingAcks = [] ∧ requeued = transport.requeued ++ transport.pendingAcks ∨
        transport.status = .matrix ∧ pendingAcks = transport.pendingAcks ∧
          requeued = transport.requeued) := by
  unfold handleChannelClose
  split
  · exact ⟨_, _, rfl, .inl ⟨rfl, rfl⟩⟩
  · rename_i hStatus
    have hMatrix : transport.status = .matrix := by
      cases hCase : transport.status with
      | matrix => rfl
      | p2p => exact absurd hCase hStatus
    exact ⟨_, _, rfl, .inr ⟨hMatrix, rfl, rfl⟩⟩

theorem complete_cases (transport : P2PTransport ed) (source : Channel) :
    transport.complete source = transport ∨
      transport.localVerified = true ∧ transport.hasRemoteNonce = true ∧
        transport.complete source =
          { transport with
            peerVerified := true
            status := .p2p
            verifiedOn := if transport.peerVerified then transport.verifiedOn else some source
            completions :=
              if transport.peerVerified then transport.completions
              else transport.completions ++ [⟨transport.held, transport.accepted⟩] } := by
  unfold complete
  split
  · rename_i h
    rw [Bool.and_eq_true] at h
    exact .inr ⟨h.1, h.2, rfl⟩
  · exact .inl rfl

theorem checkVerificationComplete_fields (transport : P2PTransport ed) (config : TransportConfig)
    (source : Channel) (hLocal : transport.localVerified = true)
    (hRemote : transport.hasRemoteNonce = true) :
    ∃ verifyTimer verifyTimers idleTimer completions verifiedOn,
      transport.checkVerificationComplete config source =
        { transport with
          verifyTimer, verifyTimers, idleTimer, completions, verifiedOn
          peerVerified := true, status := .p2p } := by
  obtain ⟨verifyTimer, verifyTimers, hClear⟩ := transport.clearVerifyTimer_fields
  rw [checkVerificationComplete, if_pos (by rw [hLocal, hRemote]; rfl), hClear]
  exact ⟨_, _, _, _, _, rfl⟩

theorem checkVerificationComplete_completions {transport : P2PTransport ed}
    (config : TransportConfig) (source : Channel) (hLocal : transport.localVerified = true)
    (hRemote : transport.hasRemoteNonce = true) (hVerified : transport.peerVerified = false) :
    (transport.checkVerificationComplete config source).completions =
      transport.completions ++ [⟨transport.held, transport.accepted⟩] := by
  simp [checkVerificationComplete, resetIdleTimer, hLocal, hRemote, hVerified]

section Frames

/-- The version is read under its own name only. -/
theorem get?_versioned (frame : Frame) {name : String} (hName : name ≠ "v") :
    (versioned frame).get? name = (frame.lookup name).map .str := by
  rw [versioned, Json.get?]
  induction frame with
  | nil =>
      have hNe : (name == "v") = false := by simpa using hName
      simp [List.lookup_cons, hNe]
  | cons field frame ih =>
      obtain ⟨field, value⟩ := field
      by_cases hField : name = field
      · simp [hField]
      · have hNe : (name == field) = false := by simpa using hField
        simpa [List.lookup_cons, hNe] using ih

theorem lookup_frameOf_versioned (frame : Frame) {name : String}
    (hName : name ∈ ["type", "nonce_b64", "device_id", "signature_b64", "signer_ed25519_b64"]) :
    (frameOf (versioned frame)).lookup name = frame.lookup name := by
  rw [← Json.lookup_filterMap_lookup frame hName, frameOf]
  congr 1
  apply List.filterMap_congr
  intro other hOther
  have hVersion : other ≠ "v" := by
    rintro rfl
    revert hOther
    decide
  rw [get?_versioned frame hVersion]
  cases frame.lookup other with
  | none => rfl
  | some value => rfl

theorem typeOf_versioned (frame : Frame) : typeOf (versioned frame) = frame.lookup "type" := by
  rw [typeOf, get?_versioned frame (by decide)]
  cases frame.lookup "type" with
  | none => rfl
  | some value => rfl

/-- A challenge of a peer is read as what it was made of. -/
theorem parse_challengeFrame (config : TransportConfig) (nonce : Nonce) :
    parseChallengeFrame (frameOf (challengeFrame config nonce)) =
      .ok (nonce.toList, config.localDeviceId) := by
  rw [← parse_buildChallengeFrame, challengeFrame]
  simp only [parseChallengeFrame]
  rw [lookup_frameOf_versioned _ (by decide), lookup_frameOf_versioned _ (by decide),
    lookup_frameOf_versioned _ (by decide)]

/-- A response of a peer, too. -/
theorem parse_responseFrame (config : TransportConfig) (keypair : ed.SigningKey) (text : Bytes) :
    parseResponse (responseFrame config keypair text) =
      some ⟨ed.sign keypair text, ed.publicKey keypair, config.localDeviceId⟩ := by
  have hParse : parseResponseFrame (frameOf (responseFrame config keypair text)) =
      .ok ((ed.sign keypair text).toList, (ed.publicKey keypair).toList,
        config.localDeviceId) := by
    rw [← parse_buildResponseFrame (ed.sign keypair) _ text, responseFrame]
    simp only [parseResponseFrame]
    rw [lookup_frameOf_versioned _ (by decide), lookup_frameOf_versioned _ (by decide),
      lookup_frameOf_versioned _ (by decide), lookup_frameOf_versioned _ (by decide)]
  simp only [parseResponse, hParse]
  rw [dif_pos ⟨by simp, by simp⟩]
  rfl

theorem typeOf_challengeFrame (config : TransportConfig) (nonce : Nonce) :
    typeOf (challengeFrame config nonce) = some "verify_challenge" :=
  typeOf_versioned _

theorem typeOf_responseFrame (config : TransportConfig) (keypair : ed.SigningKey) (text : Bytes) :
    typeOf (responseFrame config keypair text) = some "verify_response" :=
  typeOf_versioned _

theorem handleFrame_challengeFrame (config peer : TransportConfig) (runtime : Runtime)
    (transport : P2PTransport ed) (source : Channel) (nonce drawn : Nonce) :
    transport.handleFrame config runtime source (challengeFrame peer nonce) drawn =
      let taken :=
        { transport with
          remoteNonce := some (.bytes nonce.toList)
          peerDeviceId := some (.str peer.localDeviceId) }
      if transport.ephemeralKeypair.isNone then
        { taken with challenged := transport.challenged ++ [source] }
      else taken.answerChallenge config runtime source drawn := by
  have hType := typeOf_challengeFrame peer nonce
  rw [typeOf] at hType
  simp only [handleFrame, hType, handleVerifyChallenge, parse_challengeFrame]

theorem handleFrame_responseFrame (config peer : TransportConfig) (runtime : Runtime)
    (transport : P2PTransport ed) (source : Channel) (keypair : ed.SigningKey) (text : Bytes)
    (drawn : Nonce) :
    transport.handleFrame config runtime source (responseFrame peer keypair text) drawn =
      if transport.localNonce.isNone || !transport.hasRemoteNonce then transport
      else
        let response : Response :=
          ⟨ed.sign keypair text, ed.publicKey keypair, peer.localDeviceId⟩
        let taken := { transport with received := transport.received ++ [(source, response)] }
        if config.hasLookup then
          { taken with lookingUp := transport.lookingUp ++ [(source, response)] }
        else taken.checkSignature config runtime source response none := by
  have hType := typeOf_responseFrame peer keypair text
  rw [typeOf] at hType
  simp only [handleFrame, hType, handleVerifyResponse, parse_responseFrame]

end Frames

end P2PTransport

end Mxdx.Core
