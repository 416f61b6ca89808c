import Mxdx.Core.P2PVerification

/-! The handshake of two transports over one reliable channel. Where each side's
first key generation is the one that `startVerification` began, both announce one
nonce only, sign one transcript, and end with the peer verified. -/
namespace Mxdx.Core

open Automaton
open P2P (Ed25519 Nonce PublicKey canonicalOrdering)

/-- The two ends of a call. -/
inductive Side where
  | offerer
  | answerer
deriving DecidableEq

namespace Side

/-- The end that this one talks to. -/
def other : Side → Side
  | offerer => answerer
  | answerer => offerer

@[simp] theorem other_other (side : Side) : side.other.other = side := by
  cases side <;> rfl

theorem other_ne (side : Side) : side.other ≠ side := by
  cases side <;> decide

theorem eq_or_other (first second : Side) : first = second ∨ first = second.other := by
  cases first <;> cases second <;> decide

end Side

/-- Two ends that agree on everything but their role: signaling has told both the
same, with a fingerprint in either SDP. -/
structure Call where
  runtime : Runtime
  config : Side → TransportConfig
  context : HandshakeContext
  canDoV2 : context.canDoV2 = true
  offerFingerprint : (context.offerSdp.bind (extractSdpFingerprint runtime)).isSome = true
  answerFingerprint : (context.answerSdp.bind (extractSdpFingerprint runtime)).isSome = true

namespace Call

variable (call : Call)

/-- The two contexts differ only in who made the offer. -/
def contextOf (side : Side) : HandshakeContext :=
  { call.context with weAreOfferer := side = .offerer }

theorem contextOf_canDoV2 (side : Side) : (call.contextOf side).canDoV2 = true := call.canDoV2

/-- The device that an end shows. -/
abbrev deviceOf (side : Side) : String := (call.config side).localDeviceId

/-- What a side holds once both nonces are announced. -/
def heldBy (side : Side) (ours theirs : Nonce) : Held :=
  ⟨call.contextOf side, some (.bytes ours), some (.bytes theirs.toList),
    some (.str (call.deviceOf side.other))⟩

/-- The text a side signs and checks. -/
def text (side : Side) (ours theirs : Nonce) : Bytes :=
  ((call.heldBy side ours theirs).transcriptText call.runtime (call.deviceOf side) "").getD []

theorem partyText_str (deviceId fallback : String)
    (hFallback : fallback = "" ∨ fallback = deviceId) :
    partyText call.runtime (some (.str deviceId)) fallback = deviceId := by
  rw [partyText]
  split
  · rename_i hEmpty
    rcases hFallback with rfl | rfl
    · exact hEmpty.symm
    · rfl
  · rfl

/-- Whatever text a response falls back on, it is made of the same parts. -/
theorem transcriptText_eq (side : Side) (ours theirs : Nonce) (fallback : String)
    (hFallback : fallback = "" ∨ fallback = call.deviceOf side.other)
    {offererSdpFp answererSdpFp : String}
    (hOffer : call.context.offerSdp.bind (extractSdpFingerprint call.runtime) =
      some offererSdpFp)
    (hAnswer : call.context.answerSdp.bind (extractSdpFingerprint call.runtime) =
      some answererSdpFp) :
    (call.heldBy side ours theirs).transcriptText call.runtime (call.deviceOf side) fallback =
      some (asBytes (b64encode (P2P.buildTranscript (call.context.roomId.getD "null")
        (call.context.sessionUuid.getD "") (call.context.callId.getD "null")
        (canonicalOrdering ours theirs (side = .offerer)).1
        (canonicalOrdering ours theirs (side = .offerer)).2
        (canonicalOrdering (call.deviceOf side) (call.deviceOf side.other) (side = .offerer)).1
        (canonicalOrdering (call.deviceOf side) (call.deviceOf side.other) (side = .offerer)).2
        offererSdpFp answererSdpFp))) := by
  simp only [Held.transcriptText, heldBy, contextOf, hOffer, hAnswer, Option.bind_some,
    LocalNonce.nonce?, RemoteNonce.nonce?_bytes, call.partyText_str _ _ hFallback]
  rfl

/-- The device id of the response cannot differ from the one of the challenge. -/
theorem transcriptText_heldBy (side : Side) (ours theirs : Nonce) (fallback : String)
    (hFallback : fallback = "" ∨ fallback = call.deviceOf side.other) :
    (call.heldBy side ours theirs).transcriptText call.runtime (call.deviceOf side) fallback =
      some (call.text side ours theirs) := by
  obtain ⟨offererSdpFp, hOffer⟩ := Option.isSome_iff_exists.mp call.offerFingerprint
  obtain ⟨answererSdpFp, hAnswer⟩ := Option.isSome_iff_exists.mp call.answerFingerprint
  rw [text, call.transcriptText_eq side ours theirs fallback hFallback hOffer hAnswer,
    call.transcriptText_eq side ours theirs "" (.inl rfl) hOffer hAnswer]
  rfl

/-- Both sides sign one text. -/
theorem text_other (side : Side) (ours theirs : Nonce) :
    call.text side.other theirs ours = call.text side ours theirs := by
  obtain ⟨offererSdpFp, hOffer⟩ := Option.isSome_iff_exists.mp call.offerFingerprint
  obtain ⟨answererSdpFp, hAnswer⟩ := Option.isSome_iff_exists.mp call.answerFingerprint
  rw [text, text, call.transcriptText_eq side ours theirs "" (.inl rfl) hOffer hAnswer,
    call.transcriptText_eq side.other theirs ours "" (.inl rfl) hOffer hAnswer]
  cases side with
  | offerer => rfl
  | answerer => rfl

/-- Another nonce of our own makes another text. -/
theorem text_injective (side : Side) {ours ours' theirs : Nonce}
    (h : call.text side ours theirs = call.text side ours' theirs) : ours = ours' := by
  obtain ⟨offererSdpFp, hOffer⟩ := Option.isSome_iff_exists.mp call.offerFingerprint
  obtain ⟨answererSdpFp, hAnswer⟩ := Option.isSome_iff_exists.mp call.answerFingerprint
  rw [text, text, call.transcriptText_eq side ours theirs "" (.inl rfl) hOffer hAnswer,
    call.transcriptText_eq side ours' theirs "" (.inl rfl) hOffer hAnswer] at h
  have hTranscript := congrArg b64decode (Utf8.bytes_injective h)
  rw [b64decode_b64encode, b64decode_b64encode] at hTranscript
  apply Vector.toList_inj.mp
  cases side with
  | offerer => simpa [P2P.buildTranscript, canonicalOrdering] using hTranscript
  | answerer => simpa [P2P.buildTranscript, canonicalOrdering] using hTranscript

end Call

/-- The two ends of one channel, and how many frames have arrived at each. -/
structure Peers (ed : Ed25519) where
  transport : Side → P2PTransport ed
  arrived : Side → Nat

/-- The next frame arrives at a side, or something of its own happens there. -/
inductive PeersInput (ed : Ed25519) where
  | deliver (side : Side) (nonce : Nonce)
  | happens (side : Side) (input : TransportInput ed)

namespace Peers

variable {ed : Ed25519} (call : Call)

/-- Both ends have opened the same channel. -/
def new (hasCrypto : Bool) (hex : String) : Peers ed where
  transport := fun side =>
    P2PTransport.opened (call.config side) (call.contextOf side) hasCrypto hex
  arrived := fun _ => 0

/-- Frames arrive in the order in which they were sent, and none is lost. -/
def step (peers : Peers ed) : PeersInput ed → Peers ed
  | .deliver side nonce =>
      match (peers.transport side.other).sent[peers.arrived side]? with
      | some (channel, frame) =>
          { transport := Function.update peers.transport side
              ((peers.transport side).step (call.config side) call.runtime
                (.message channel (.frame frame) nonce))
            arrived := Function.update peers.arrived side (peers.arrived side + 1) }
      | none => peers
  | .happens side input =>
      { peers with
        transport := Function.update peers.transport side
          ((peers.transport side).step (call.config side) call.runtime input) }

end Peers

/-- How far a side is with answering the challenge of the other. -/
inductive Answer (ed : Ed25519) where
  | unasked
  | generating (theirs : Nonce)
  | signing (theirs : Nonce) (keypair : ed.SigningKey)
  | sent (theirs : Nonce) (keypair : ed.SigningKey)

/-- How far it is with checking the other's response, made with `keypair`. -/
inductive Check (ed : Ed25519) where
  | idle
  | lookingUp (keypair : ed.SigningKey)
  | verifying (keypair : ed.SigningKey) (known : Option PublicKey)
  | accepted

/-- One side of the handshake: it has not announced a nonce yet, or it has. -/
inductive Progress (ed : Ed25519) where
  | starting (asked : Option Nonce)
  | announced (ours : Nonce) (answer : Answer ed) (check : Check ed)

namespace Answer

variable {ed : Ed25519} (call : Call) (side : Side) (ours : Nonce)

/-- The nonce of the other end, once it has come. -/
def theirs? : Answer ed → Option Nonce
  | unasked => none
  | generating theirs => some theirs
  | signing theirs _ => some theirs
  | sent theirs _ => some theirs

theorem eq_unasked {answer : Answer ed} (hNone : answer.theirs? = none) : answer = unasked := by
  cases answer with
  | unasked => rfl
  | _ => cases hNone

def isChallenged : Answer ed → List Channel
  | generating _ => [0]
  | _ => []

def frameWith (theirs : Nonce) (keypair : ed.SigningKey) : Channel × JsValue :=
  (0, P2PTransport.responseFrame (call.config side) keypair (call.text side ours theirs))

def beingSigned : Answer ed → List (Channel × JsValue)
  | signing theirs keypair => [frameWith call side ours theirs keypair]
  | _ => []

def frames : Answer ed → List (Channel × JsValue)
  | sent theirs keypair => [frameWith call side ours theirs keypair]
  | _ => []

end Answer

namespace Progress

variable {ed : Ed25519} (call : Call) (side : Side)

def ours? : Progress ed → Option Nonce
  | starting _ => none
  | announced ours _ _ => some ours

def theirs? : Progress ed → Option Nonce
  | starting asked => asked
  | announced _ answer _ => answer.theirs?

def check : Progress ed → Check ed
  | starting _ => .idle
  | announced _ _ check => check

@[simp] theorem check_starting (asked : Option Nonce) :
    (starting asked : Progress ed).check = .idle := rfl

@[simp] theorem check_announced (ours : Nonce) (answer : Answer ed) (check : Check ed) :
    (announced ours answer check).check = check := rfl

def isStarting : Progress ed → List Channel
  | starting _ => [0]
  | announced _ _ _ => []

def isChallenged : Progress ed → List Channel
  | starting none => []
  | starting (some _) => [0]
  | announced _ answer _ => answer.isChallenged

def beingSigned : Progress ed → List (Channel × JsValue)
  | starting _ => []
  | announced ours answer _ => answer.beingSigned call side ours

def frames : Progress ed → List (Channel × JsValue)
  | starting _ => []
  | announced ours answer _ =>
      (0, P2PTransport.challengeFrame (call.config side) ours) :: answer.frames call side ours

/-- The response that a side has from the other's `keypair`. -/
def responseOf (text : Bytes) (keypair : ed.SigningKey) : Response :=
  ⟨ed.sign keypair text, ed.publicKey keypair, call.deviceOf side.other⟩

def beingLookedUp (own : Progress ed) : List (Channel × Response) :=
  match own.check, own.ours?, own.theirs? with
  | .lookingUp keypair, some ours, some theirs =>
      [(0, responseOf call side (call.text side ours theirs) keypair)]
  | _, _, _ => []

def beingVerified (own : Progress ed) : List Verifying :=
  match own.check, own.ours?, own.theirs? with
  | .verifying keypair known, some ours, some theirs =>
      [⟨0, responseOf call side (call.text side ours theirs) keypair, known,
        call.text side ours theirs⟩]
  | _, _, _ => []

def arrived (own : Progress ed) : Nat :=
  (if own.theirs?.isSome then 1 else 0) +
    match own.check with
    | .idle => 0
    | _ => 1

theorem isStarting_getElem {own : Progress ed} {index : Nat} {channel : Channel}
    (h : own.isStarting[index]? = some channel) :
    index = 0 ∧ ∃ asked, own = .starting asked := by
  cases own with
  | starting asked =>
      exact ⟨by simpa [isStarting] using (List.getElem?_eq_some_iff.mp h).1, asked, rfl⟩
  | announced ours answer check => simp [isStarting] at h

theorem isChallenged_getElem {own : Progress ed} {index : Nat} {channel : Channel}
    (h : own.isChallenged[index]? = some channel) :
    index = 0 ∧ ((∃ theirs, own = .starting (some theirs)) ∨
      ∃ ours theirs check, own = .announced ours (.generating theirs) check) := by
  obtain ⟨hIndex, -⟩ := List.getElem?_eq_some_iff.mp h
  cases own with
  | starting asked =>
      cases asked with
      | none => simp [isChallenged] at hIndex
      | some theirs => exact ⟨by simpa [isChallenged] using hIndex, .inl ⟨theirs, rfl⟩⟩
  | announced ours answer check =>
      cases answer with
      | generating theirs =>
          exact ⟨by simpa [isChallenged, Answer.isChallenged] using hIndex,
            .inr ⟨ours, theirs, check, rfl⟩⟩
      | _ => simp [isChallenged, Answer.isChallenged] at hIndex

theorem beingSigned_getElem {own : Progress ed} {index : Nat} {task : Channel × JsValue}
    (h : (own.beingSigned call side)[index]? = some task) :
    index = 0 ∧ ∃ ours theirs keypair check,
      own = .announced ours (.signing theirs keypair) check := by
  obtain ⟨hIndex, -⟩ := List.getElem?_eq_some_iff.mp h
  cases own with
  | starting asked => simp [beingSigned] at hIndex
  | announced ours answer check =>
      cases answer with
      | signing theirs keypair =>
          exact ⟨by simpa [beingSigned, Answer.beingSigned] using hIndex, ours, theirs, keypair,
            check, rfl⟩
      | _ => simp [beingSigned, Answer.beingSigned] at hIndex

theorem beingLookedUp_getElem {own : Progress ed} {index : Nat} {task : Channel × Response}
    (h : (own.beingLookedUp call side)[index]? = some task) :
    index = 0 ∧ ∃ ours answer keypair theirs,
      own = .announced ours answer (.lookingUp keypair) ∧ answer.theirs? = some theirs ∧
        task.2.signerPk = ed.publicKey keypair := by
  unfold beingLookedUp at h
  split at h
  · rename_i keypair ours theirs hCheck hOurs hTheirs
    obtain ⟨hIndex, hTask⟩ := List.getElem?_eq_some_iff.mp h
    have hZero : index = 0 := by simpa using hIndex
    subst hZero
    cases own with
    | starting asked => cases hOurs
    | announced ours' answer check =>
        cases hCheck
        refine ⟨rfl, ours', answer, keypair, theirs, rfl, hTheirs, ?_⟩
        rw [← hTask]
        rfl
  · simp at h

theorem beingVerified_getElem {own : Progress ed} {index : Nat} {task : Verifying}
    (h : (own.beingVerified call side)[index]? = some task) :
    index = 0 ∧ ∃ ours answer keypair known theirs,
      own = .announced ours answer (.verifying keypair known) ∧ answer.theirs? = some theirs := by
  unfold beingVerified at h
  split at h
  · rename_i keypair known ours theirs hCheck hOurs hTheirs
    obtain ⟨hIndex, -⟩ := List.getElem?_eq_some_iff.mp h
    have hZero : index = 0 := by simpa using hIndex
    cases own with
    | starting asked => cases hOurs
    | announced ours' answer check =>
        cases hCheck
        exact ⟨hZero, ours', answer, keypair, known, theirs, rfl, hTheirs⟩
  · simp at h

/-- The first frame of a side is its challenge. -/
theorem frames_getElem_zero {own : Progress ed} {frame : Channel × JsValue}
    (h : (own.frames call side)[0]? = some frame) :
    ∃ ours, own.ours? = some ours ∧
      frame = (0, P2PTransport.challengeFrame (call.config side) ours) := by
  cases own with
  | starting asked => simp [frames] at h
  | announced ours answer check => exact ⟨ours, rfl, by simpa [frames] using h.symm⟩

/-- The second frame of a side is its response. -/
theorem frames_getElem_one {own : Progress ed} {frame : Channel × JsValue}
    (h : (own.frames call side)[1]? = some frame) :
    ∃ ours theirs keypair check, own = .announced ours (.sent theirs keypair) check ∧
      frame = Answer.frameWith call side ours theirs keypair := by
  cases own with
  | starting asked => simp [frames] at h
  | announced ours answer check =>
      cases answer with
      | sent theirs keypair =>
          exact ⟨ours, theirs, keypair, check, rfl,
            by simpa [frames, Answer.frames] using h.symm⟩
      | _ => simp [frames, Answer.frames] at h

theorem frames_length_le (own : Progress ed) : (own.frames call side).length ≤ 2 := by
  cases own with
  | starting asked => simp [frames]
  | announced ours answer check => cases answer <;> simp [frames, Answer.frames]

end Progress

section Describes

variable {ed : Ed25519} (call : Call) (side : Side)

/-- The transport is as far as `own` says, after `arrived` frames. -/
structure Describes (own : Progress ed) (transport : P2PTransport ed) (arrived : Nat) : Prop where
  context : transport.context = call.contextOf side
  dataChannel : transport.dataChannel = some 0
  aborts : transport.aborts = 0
  localNonce : transport.localNonce = own.ours?.map .bytes
  remoteNonce : transport.remoteNonce = own.theirs?.map fun theirs => .bytes theirs.toList
  peerDeviceId : transport.peerDeviceId =
    own.theirs?.map fun _ => .str (call.deviceOf side.other)
  keypair : transport.ephemeralKeypair.isSome = own.ours?.isSome
  starting : transport.starting = own.isStarting
  challenged : transport.challenged = own.isChallenged
  signing : transport.signing = own.beingSigned call side
  sent : transport.sent = own.frames call side
  lookingUp : transport.lookingUp = own.beingLookedUp call side
  verifying : transport.verifying = own.beingVerified call side
  arrived : arrived = own.arrived
  status : own.check = .accepted → transport.status = .p2p
  transcripts : ∀ held ∈ transport.transcripts, ∃ theirs, own.theirs? = some theirs ∧
    held.remoteNonce = some (.bytes theirs.toList)

/-- The response is signed with the keypair that is there. -/
theorem sendVerifyResponse_eq (transport : P2PTransport ed) {ours theirs : Nonce}
    {keypair : ed.SigningKey} (hHeld : transport.held = call.heldBy side ours theirs)
    (hKeypair : transport.ephemeralKeypair = some keypair) (source : Channel) :
    transport.sendVerifyResponse (call.config side) call.runtime source =
      { transport with
        signing := transport.signing ++ [(source,
          P2PTransport.responseFrame (call.config side) keypair (call.text side ours theirs))]
        transcripts := transport.transcripts ++ [transport.held] } := by
  have hContext : transport.context = call.contextOf side := congrArg Held.context hHeld
  have hLocal : transport.localNonce = some (.bytes ours) := congrArg Held.localNonce hHeld
  have hRemote : transport.remoteNonce = some (.bytes theirs.toList) :=
    congrArg Held.remoteNonce hHeld
  have hText := call.transcriptText_heldBy side ours theirs "" (.inl rfl)
  simp [P2PTransport.sendVerifyResponse, P2PTransport.hasRemoteNonce, RemoteNonce.truthy, hContext,
    hLocal, hRemote, hKeypair, hHeld, call.contextOf_canDoV2 side, hText]

theorem checkSignature_eq (transport : P2PTransport ed) {ours theirs : Nonce}
    (hHeld : transport.held = call.heldBy side ours theirs) (source : Channel)
    (response : Response) (hDevice : response.deviceId = call.deviceOf side.other)
    (known : Option PublicKey) :
    transport.checkSignature (call.config side) call.runtime source response known =
      { transport with
        verifying := transport.verifying ++
          [⟨source, response, known, call.text side ours theirs⟩]
        transcripts := transport.transcripts ++ [transport.held] } := by
  have hText := call.transcriptText_heldBy side ours theirs response.deviceId (.inr hDevice)
  rw [P2PTransport.checkSignature, hHeld]
  simp only [hText]

/-- A frame only touches the idle timer before it is handled. -/
theorem step_frame (transport : P2PTransport ed) (frame : JsValue) (nonce : Nonce) :
    ∃ idleTimer, transport.step (call.config side) call.runtime
        (.message 0 (.frame frame) nonce) =
      P2PTransport.handleFrame (call.config side) call.runtime { transport with idleTimer } 0 frame
        nonce := by
  obtain ⟨idleTimer, hTouch⟩ := transport.touch_fields (call.config side)
  refine ⟨idleTimer, ?_⟩
  simp only [P2PTransport.step, P2PTransport.handleDataChannelMessage, hTouch]

variable {call side} {transport : P2PTransport ed} {arrived : Nat}

theorem describes_opened (hasCrypto : Bool) (hex : String) :
    Describes call side (.starting none)
      (P2PTransport.opened (call.config side) (call.contextOf side) hasCrypto hex :
        P2PTransport ed) 0 := by
  rw [P2PTransport.opened_eq _ (call.contextOf_canDoV2 side)]
  constructor <;> simp [P2PTransport.new, Progress.ours?, Progress.theirs?, Progress.check,
    Progress.isStarting, Progress.isChallenged, Progress.beingSigned, Progress.frames,
    Progress.beingLookedUp, Progress.beingVerified, Progress.arrived]

/-- The first key generation to finish announces the nonce. -/
theorem Describes.started {asked : Option Nonce}
    (h : Describes call side (.starting asked) transport arrived) (keypair : ed.SigningKey)
    (nonce : Nonce) :
    Describes call side
      (.announced nonce (match asked with | some theirs => .generating theirs | none => .unasked)
        .idle)
      (transport.step (call.config side) call.runtime (.started 0 keypair nonce)) arrived := by
  have hStarting : transport.starting[0]? = some 0 := by rw [h.starting]; rfl
  simp only [P2PTransport.step, hStarting, P2PTransport.finishStart, P2PTransport.sendControlFrame,
    h.dataChannel, P2PTransport.setVerifyTimer]
  have hErase : transport.starting.eraseIdx 0 = [] := by rw [h.starting]; rfl
  have hSent : transport.sent ++
      [(0, P2PTransport.challengeFrame (call.config side) nonce)] =
        [(0, P2PTransport.challengeFrame (call.config side) nonce)] := by rw [h.sent]; rfl
  cases asked with
  | none =>
      exact ⟨h.context, rfl, h.aborts, rfl, h.remoteNonce, h.peerDeviceId, rfl, hErase,
        h.challenged, h.signing, hSent, h.lookingUp, h.verifying, h.arrived,
        (by simp), h.transcripts⟩
  | some theirs =>
      exact ⟨h.context, rfl, h.aborts, rfl, h.remoteNonce, h.peerDeviceId, rfl, hErase,
        h.challenged, h.signing, hSent, h.lookingUp, h.verifying, h.arrived,
        (by simp), h.transcripts⟩

/-- What a side holds once it has announced its nonce and learned the other's. -/
theorem Describes.held {own : Progress ed} {ours theirs : Nonce}
    (h : Describes call side own transport arrived) (hOurs : own.ours? = some ours)
    (hTheirs : own.theirs? = some theirs) : transport.held = call.heldBy side ours theirs := by
  simp only [P2PTransport.held, h.context, h.localNonce, h.remoteNonce, h.peerDeviceId, hOurs,
    hTheirs]
  rfl

/-- A transcript more, of what is held. -/
theorem Describes.transcripts_held {own : Progress ed} {theirs : Nonce}
    (h : Describes call side own transport arrived) (hTheirs : own.theirs? = some theirs) :
    ∀ held ∈ transport.transcripts ++ [transport.held], ∃ theirs, own.theirs? = some theirs ∧
      held.remoteNonce = some (.bytes theirs.toList) := by
  intro held hMem
  rcases List.mem_append.mp hMem with hOld | hNew
  · exact h.transcripts held hOld
  · rw [List.mem_singleton] at hNew
    subst hNew
    refine ⟨theirs, hTheirs, ?_⟩
    rw [P2PTransport.held, h.remoteNonce, hTheirs]
    rfl

/-- The challenge handler signs with a key of its own. -/
theorem Describes.challengeReady {ours theirs : Nonce} {check : Check ed}
    (h : Describes call side (.announced ours (.generating theirs) check) transport arrived)
    (keypair : ed.SigningKey) (nonce : Nonce) :
    Describes call side (.announced ours (.signing theirs keypair) check)
      (transport.step (call.config side) call.runtime (.challengeReady 0 keypair nonce))
      arrived := by
  have hChallenged : transport.challenged[0]? = some 0 := by rw [h.challenged]; rfl
  have hErase : transport.challenged.eraseIdx 0 = [] := by rw [h.challenged]; rfl
  have hLocal : transport.localNonce.isNone = false := by rw [h.localNonce]; rfl
  have hSigning : transport.signing ++ [Answer.frameWith call side ours theirs keypair] =
      [Answer.frameWith call side ours theirs keypair] := by rw [h.signing]; rfl
  have hSend := sendVerifyResponse_eq call side
    { transport with
      challenged := transport.challenged.eraseIdx 0, ephemeralKeypair := some keypair }
    (h.held rfl rfl) rfl 0
  simp only [P2PTransport.step, hChallenged, P2PTransport.answerChallenge, hLocal,
    Bool.false_eq_true, ↓reduceIte]
  rw [hSend]
  exact ⟨h.context, h.dataChannel, h.aborts, h.localNonce, h.remoteNonce, h.peerDeviceId, rfl,
    h.starting, hErase, hSigning, h.sent, h.lookingUp, h.verifying, h.arrived, h.status,
    h.transcripts_held rfl⟩

theorem Describes.signed {ours theirs : Nonce} {keypair : ed.SigningKey} {check : Check ed}
    (h : Describes call side (.announced ours (.signing theirs keypair) check) transport arrived) :
    Describes call side (.announced ours (.sent theirs keypair) check)
      (transport.step (call.config side) call.runtime (.signed 0)) arrived := by
  have hTask : transport.signing[0]? = some (Answer.frameWith call side ours theirs keypair) := by
    rw [h.signing]
    rfl
  have hErase : transport.signing.eraseIdx 0 = [] := by rw [h.signing]; rfl
  simp only [P2PTransport.step, hTask, P2PTransport.sendControlFrame, h.dataChannel]
  refine ⟨h.context, rfl, h.aborts, h.localNonce, h.remoteNonce, h.peerDeviceId, h.keypair,
    h.starting, h.challenged, hErase, ?_, h.lookingUp, h.verifying, h.arrived, h.status,
    h.transcripts⟩
  rw [h.sent]
  rfl

theorem Describes.lookedUp {ours theirs : Nonce} {answer : Answer ed} {keypair : ed.SigningKey}
    (h : Describes call side (.announced ours answer (.lookingUp keypair)) transport arrived)
    (hTheirs : answer.theirs? = some theirs) {known : Option PublicKey}
    (hKnown : known = none ∨ known = some (ed.publicKey keypair)) :
    Describes call side (.announced ours answer (.verifying keypair known))
      (transport.step (call.config side) call.runtime (.lookedUp 0 known)) arrived := by
  have hLookingUp : transport.lookingUp =
      [(0, Progress.responseOf call side (call.text side ours theirs) keypair)] := by
    rw [h.lookingUp]
    simp only [Progress.beingLookedUp, Progress.check, Progress.ours?, Progress.theirs?, hTheirs]
  have hVerifying : transport.verifying ++ [⟨0,
      Progress.responseOf call side (call.text side ours theirs) keypair, known,
      call.text side ours theirs⟩] =
        Progress.beingVerified call side (.announced ours answer (.verifying keypair known)) := by
    rw [h.verifying]
    simp only [Progress.beingVerified, Progress.check, Progress.ours?, Progress.theirs?, hTheirs]
    rfl
  have hTask : transport.lookingUp[0]? =
      some (0, Progress.responseOf call side (call.text side ours theirs) keypair) := by
    rw [hLookingUp]
    rfl
  have hErase : transport.lookingUp.eraseIdx 0 = [] := by rw [hLookingUp]; rfl
  have hCheck := checkSignature_eq call side
    { transport with lookingUp := transport.lookingUp.eraseIdx 0 } (h.held rfl hTheirs) 0
    (Progress.responseOf call side (call.text side ours theirs) keypair) rfl known
  have hHandle : P2PTransport.handleLookup (call.config side) call.runtime
      { transport with lookingUp := transport.lookingUp.eraseIdx 0 } 0
      (Progress.responseOf call side (call.text side ours theirs) keypair) known =
    P2PTransport.checkSignature (call.config side) call.runtime
      { transport with lookingUp := transport.lookingUp.eraseIdx 0 } 0
      (Progress.responseOf call side (call.text side ours theirs) keypair) known := by
    rcases hKnown with rfl | rfl
    · rfl
    · exact if_pos rfl
  simp only [P2PTransport.step, hTask]
  rw [hHandle, hCheck]
  exact ⟨h.context, h.dataChannel, h.aborts, h.localNonce, h.remoteNonce, h.peerDeviceId, h.keypair,
    h.starting, h.challenged, h.signing, h.sent, hErase, hVerifying, h.arrived, (by simp),
    h.transcripts_held hTheirs⟩

theorem Describes.verified (hCorrect : ed.Correct) {ours theirs : Nonce} {answer : Answer ed}
    {keypair : ed.SigningKey} {known : Option PublicKey}
    (h : Describes call side (.announced ours answer (.verifying keypair known)) transport arrived)
    (hTheirs : answer.theirs? = some theirs) :
    Describes call side (.announced ours answer .accepted)
      (transport.step (call.config side) call.runtime (.verified 0)) arrived := by
  have hVerifying : transport.verifying = [⟨0,
      Progress.responseOf call side (call.text side ours theirs) keypair, known,
      call.text side ours theirs⟩] := by
    rw [h.verifying]
    simp only [Progress.beingVerified, Progress.check, Progress.ours?, Progress.theirs?, hTheirs]
  have hTask : transport.verifying[0]? = some ⟨0,
      Progress.responseOf call side (call.text side ours theirs) keypair, known,
      call.text side ours theirs⟩ := by
    rw [hVerifying]
    rfl
  have hErase : transport.verifying.eraseIdx 0 = [] := by rw [hVerifying]; rfl
  have hRemote : transport.hasRemoteNonce = true := by
    rw [P2PTransport.hasRemoteNonce, h.remoteNonce, Progress.theirs?, hTheirs]
    rfl
  obtain ⟨key, hKey, hSignature⟩ := hCorrect keypair (call.text side ours theirs)
  obtain ⟨verifyTimer, verifyTimers, idleTimer, completions, verifiedOn, hComplete⟩ :=
    P2PTransport.checkVerificationComplete_fields
      { transport with
        verifying := transport.verifying.eraseIdx 0, localVerified := true
        accepted := some ⟨0, Progress.responseOf call side (call.text side ours theirs) keypair,
          known, call.text side ours theirs⟩ } (call.config side) 0 rfl hRemote
  simp only [P2PTransport.step, hTask, P2PTransport.handleVerified, Progress.responseOf, hKey,
    hSignature, ↓reduceIte]
  simp only [Progress.responseOf] at hComplete
  rw [hComplete]
  exact ⟨h.context, h.dataChannel, h.aborts, h.localNonce, h.remoteNonce, h.peerDeviceId, h.keypair,
    h.starting, h.challenged, h.signing, h.sent, h.lookingUp, hErase, h.arrived, fun _ => rfl,
    h.transcripts⟩

/-- The challenge arrives before there is a keypair, and one is generated for it. -/
theorem Describes.asked (h : Describes call side (.starting none) transport arrived)
    (theirs nonce : Nonce) :
    Describes call side (.starting (some theirs))
      (transport.step (call.config side) call.runtime (.message 0
        (.frame (P2PTransport.challengeFrame (call.config side.other) theirs)) nonce))
      (arrived + 1) := by
  obtain ⟨idleTimer, hStep⟩ := step_frame call side transport
    (P2PTransport.challengeFrame (call.config side.other) theirs) nonce
  have hKeypair : transport.ephemeralKeypair.isNone = true := by
    have hNone := h.keypair
    simpa [Progress.ours?] using hNone
  have hChallenged : transport.challenged ++ [0] = [0] := by rw [h.challenged]; rfl
  have hArrived : arrived + 1 = 1 := by rw [h.arrived]; rfl
  rw [hStep, P2PTransport.handleFrame_challengeFrame]
  simp only [hKeypair, ↓reduceIte]
  exact ⟨h.context, h.dataChannel, h.aborts, h.localNonce, rfl, rfl, h.keypair, h.starting,
    hChallenged, h.signing, h.sent, h.lookingUp, h.verifying, hArrived, h.status,
    fun held hMem => absurd (h.transcripts held hMem) (by simp [Progress.theirs?])⟩

/-- The challenge arrives after the nonce was announced, and is answered at once. -/
theorem Describes.answered {ours : Nonce}
    (h : Describes call side (.announced ours .unasked .idle) transport arrived)
    (theirs nonce : Nonce) :
    ∃ keypair, Describes call side (.announced ours (.signing theirs keypair) .idle)
      (transport.step (call.config side) call.runtime (.message 0
        (.frame (P2PTransport.challengeFrame (call.config side.other) theirs)) nonce))
      (arrived + 1) := by
  obtain ⟨idleTimer, hStep⟩ := step_frame call side transport
    (P2PTransport.challengeFrame (call.config side.other) theirs) nonce
  obtain ⟨keypair, hKeypair⟩ := Option.isSome_iff_exists.mp h.keypair
  have hThere : transport.ephemeralKeypair.isNone = false := by rw [hKeypair]; rfl
  have hLocal : transport.localNonce.isNone = false := by rw [h.localNonce]; rfl
  have hSigning : transport.signing ++ [Answer.frameWith call side ours theirs keypair] =
      [Answer.frameWith call side ours theirs keypair] := by rw [h.signing]; rfl
  have hArrived : arrived + 1 = 1 := by rw [h.arrived]; rfl
  have hTaken : P2PTransport.held
      { transport with
        idleTimer, remoteNonce := some (.bytes theirs.toList)
        peerDeviceId := some (.str (call.deviceOf side.other)) } =
      call.heldBy side ours theirs := by
    simp only [P2PTransport.held, h.context, h.localNonce]
    rfl
  have hSend := sendVerifyResponse_eq call side
    { transport with
      idleTimer, remoteNonce := some (.bytes theirs.toList)
      peerDeviceId := some (.str (call.deviceOf side.other)) } hTaken hKeypair 0
  refine ⟨keypair, ?_⟩
  rw [hStep, P2PTransport.handleFrame_challengeFrame]
  simp only [hThere, Bool.false_eq_true, ↓reduceIte, P2PTransport.answerChallenge, hLocal]
  rw [hSend]
  refine ⟨h.context, h.dataChannel, h.aborts, h.localNonce, rfl, rfl, h.keypair, h.starting,
    h.challenged, hSigning, h.sent, h.lookingUp, h.verifying, hArrived, h.status, ?_⟩
  intro held hMem
  rcases List.mem_append.mp hMem with hOld | hNew
  · exact absurd (h.transcripts held hOld) (by simp [Progress.theirs?, Answer.theirs?])
  · rw [List.mem_singleton] at hNew
    subst hNew
    exact ⟨theirs, rfl, rfl⟩

/-- The response arrives. -/
theorem Describes.responded {ours theirs : Nonce} {answer : Answer ed}
    (h : Describes call side (.announced ours answer .idle) transport arrived)
    (hTheirs : answer.theirs? = some theirs) (keypair : ed.SigningKey) (nonce : Nonce) :
    ∃ check, check ≠ .idle ∧ Describes call side (.announced ours answer check)
      (transport.step (call.config side) call.runtime (.message 0
        (.frame (P2PTransport.responseFrame (call.config side.other) keypair
          (call.text side.other theirs ours))) nonce))
      (arrived + 1) := by
  obtain ⟨idleTimer, hStep⟩ := step_frame call side transport
    (P2PTransport.responseFrame (call.config side.other) keypair
      (call.text side.other theirs ours)) nonce
  have hLocal : transport.localNonce.isNone = false := by rw [h.localNonce]; rfl
  have hRemote : P2PTransport.hasRemoteNonce { transport with idleTimer } = true := by
    rw [P2PTransport.hasRemoteNonce, h.remoteNonce, Progress.theirs?, hTheirs]
    rfl
  have hArrived : arrived + 1 = 2 := by
    rw [h.arrived, Progress.arrived, Progress.theirs?, hTheirs]
    rfl
  rw [hStep, P2PTransport.handleFrame_responseFrame, call.text_other]
  simp only [hLocal, hRemote, Bool.not_true, Bool.or_self, Bool.false_eq_true, ↓reduceIte]
  split
  · refine ⟨.lookingUp keypair, by simp, ?_⟩
    refine ⟨h.context, h.dataChannel, h.aborts, h.localNonce, h.remoteNonce, h.peerDeviceId,
      h.keypair, h.starting, h.challenged, h.signing, h.sent, ?_, ?_, ?_, (by simp), h.transcripts⟩
    · rw [h.lookingUp]
      simp only [Progress.beingLookedUp, Progress.check, Progress.ours?, Progress.theirs?, hTheirs]
      rfl
    · rw [h.verifying]
      rfl
    · rw [hArrived, Progress.arrived, Progress.theirs?, hTheirs]
      rfl
  · refine ⟨.verifying keypair none, by simp, ?_⟩
    have hCheck := checkSignature_eq call side
      { transport with
        idleTimer
        received := transport.received ++
          [(0, Progress.responseOf call side (call.text side ours theirs) keypair)] }
      (h.held rfl hTheirs) 0
      (Progress.responseOf call side (call.text side ours theirs) keypair) rfl none
    simp only [Progress.responseOf] at hCheck
    rw [hCheck]
    refine ⟨h.context, h.dataChannel, h.aborts, h.localNonce, h.remoteNonce, h.peerDeviceId,
      h.keypair, h.starting, h.challenged, h.signing, h.sent, ?_, ?_, ?_, (by simp),
      h.transcripts_held hTheirs⟩
    · rw [h.lookingUp]
      rfl
    · rw [h.verifying]
      simp only [Progress.beingVerified, Progress.check, Progress.ours?, Progress.theirs?, hTheirs]
      rfl
    · rw [hArrived, Progress.arrived, Progress.theirs?, hTheirs]
      rfl

end Describes

section Invariant

variable {ed : Ed25519} {call : Call}

/-- What a side has learned is what the other has announced, and a response is
checked only once there is something to check it against. -/
structure Linked (own peer : Progress ed) : Prop where
  asked : ∀ theirs, own.theirs? = some theirs → peer.ours? = some theirs
  checked : own.check ≠ .idle → own.theirs?.isSome = true

/-- A nonce is announced once and stays. -/
theorem Linked.peer {own peer next : Progress ed} (h : Linked own peer)
    (hOurs : peer.ours? = none ∨ next.ours? = peer.ours?) : Linked own next := by
  refine ⟨fun theirs hTheirs => ?_, h.checked⟩
  have hPeer := h.asked theirs hTheirs
  rcases hOurs with hNone | hSame
  · rw [hNone] at hPeer
    cases hPeer
  · rw [hSame, hPeer]

/-- What one side has learned and what the other has announced are one nonce. -/
theorem Linked.agree {own peer : Progress ed} (h : Linked own peer) {theirs announced : Nonce}
    (hTheirs : own.theirs? = some theirs) (hAnnounced : peer.ours? = some announced) :
    announced = theirs := by
  have hPeer := h.asked theirs hTheirs
  rw [hAnnounced] at hPeer
  exact Option.some.inj hPeer

theorem Linked.idle {own peer : Progress ed} (h : Linked own peer)
    (hUnasked : own.theirs? = none) : own.check = .idle := by
  by_contra hBusy
  have hSome := h.checked hBusy
  rw [hUnasked] at hSome
  cases hSome

/-- Both sides are as far as some progress says, and that is linked. -/
def Handshaken (call : Call) (peers : Peers ed) : Prop :=
  ∃ progress : Side → Progress ed,
    (∀ side, Describes call side (progress side) (peers.transport side) (peers.arrived side)) ∧
      ∀ side, Linked (progress side) (progress side.other)

theorem handshaken_new (hasCrypto : Bool) (hex : String) :
    Handshaken call (Peers.new call hasCrypto hex : Peers ed) := by
  refine ⟨fun _ => .starting none, fun side => describes_opened hasCrypto hex, fun side => ?_⟩
  exact ⟨nofun, fun h => absurd rfl h⟩

/-- One side goes on, the other stays. -/
theorem handshaken_update {peers : Peers ed} {progress : Side → Progress ed}
    (hDescribes : ∀ side,
      Describes call side (progress side) (peers.transport side) (peers.arrived side))
    (side : Side) {next : Progress ed} {transport : P2PTransport ed} {arrived : Nat}
    (hNext : Describes call side next transport arrived)
    (hOwn : Linked next (progress side.other)) (hPeer : Linked (progress side.other) next) :
    Handshaken call ⟨Function.update peers.transport side transport,
      Function.update peers.arrived side arrived⟩ := by
  refine ⟨Function.update progress side next, fun which => ?_, fun which => ?_⟩
  · rcases Side.eq_or_other which side with rfl | rfl
    · simpa using hNext
    · simpa [Function.update_of_ne side.other_ne] using hDescribes side.other
  · rcases Side.eq_or_other which side with rfl | rfl
    · simpa [Function.update_of_ne which.other_ne] using hOwn
    · simpa [Function.update_of_ne side.other_ne] using hPeer

/-- A side goes on without a frame: it learns no nonce, keeps to the one it has announced, and
begins no check. -/
structure Progress.GoesOn (own next : Progress ed) : Prop where
  ours : own.ours? = none ∨ next.ours? = own.ours?
  theirs : next.theirs? = own.theirs?
  check : next.check ≠ .idle → own.check ≠ .idle

/-- The inputs of a handshake with nothing else going on: frames arrive, and what
a side has begun goes well. -/
def Handshaking : PeersInput ed → Prop
  | .deliver _ _ => True
  | .happens _ (.started _ _ _) => True
  | .happens _ (.challengeReady _ _ _) => True
  | .happens _ (.signed _) => True
  | .happens _ (.lookedUp _ _) => True
  | .happens _ (.verified _) => True
  | _ => False

/-- The key that `startVerification` generates is there before one for the challenge,
and the lookup knows no other key than the one the peer signs with. -/
def Ordered (peers : Peers ed) : PeersInput ed → Prop
  | .happens side (.challengeReady index _ _) =>
      (peers.transport side).challenged[index]?.isSome = true →
        (peers.transport side).starting = []
  | .happens side (.lookedUp index (some key)) =>
      ∀ task, (peers.transport side).lookingUp[index]? = some task → key = task.2.signerPk
  | _ => True

theorem Handshaken.same {peers : Peers ed} (h : Handshaken call peers) {side : Side}
    {input : TransportInput ed} (hSame : (peers.transport side).step (call.config side)
      call.runtime input = peers.transport side) :
    Handshaken call (peers.step call (.happens side input)) := by
  rw [Peers.step, hSame, Function.update_eq_self]
  exact h

/-- A side that takes up what it has begun goes on by itself; where there is nothing to take
up, nothing happens. -/
theorem Handshaken.resumed {peers : Peers ed} (h : Handshaken call peers) (side : Side)
    {input : TransportInput ed} {Task : Type} (task? : Option Task)
    (hNone : task? = none → (peers.transport side).step (call.config side) call.runtime input =
      peers.transport side)
    (hSome : ∀ task own, task? = some task →
      Describes call side own (peers.transport side) (peers.arrived side) →
      ∃ next, Describes call side next
          ((peers.transport side).step (call.config side) call.runtime input)
          (peers.arrived side) ∧ own.GoesOn next) :
    Handshaken call (peers.step call (.happens side input)) := by
  cases hTask : task? with
  | none => exact h.same (hNone hTask)
  | some task =>
      obtain ⟨progress, hDescribes, hLinked⟩ := h
      obtain ⟨next, hNext, hOurs, hTheirs, hCheck⟩ := hSome task _ hTask (hDescribes side)
      have hOwn : Linked next (progress side.other) :=
        ⟨fun theirs h => (hLinked side).asked theirs (hTheirs ▸ h),
          fun h => hTheirs ▸ (hLinked side).checked (hCheck h)⟩
      have hPeer : Linked (progress side.other) next :=
        Linked.peer (by simpa using hLinked side.other) hOurs
      have hUpdate := handshaken_update hDescribes side hNext hOwn hPeer
      rwa [Function.update_eq_self] at hUpdate

theorem Handshaken.started {peers : Peers ed} (h : Handshaken call peers) (side : Side)
    (index : Nat) (keypair : ed.SigningKey) (nonce : Nonce) :
    Handshaken call (peers.step call (.happens side (.started index keypair nonce))) := by
  refine h.resumed side (peers.transport side).starting[index]? (fun hTask => ?_)
    fun channel own hTask hOwn => ?_
  · simp only [P2PTransport.step, hTask]
  · rw [hOwn.starting] at hTask
    obtain ⟨rfl, asked, rfl⟩ := Progress.isStarting_getElem hTask
    refine ⟨_, hOwn.started keypair nonce, .inl rfl, ?_, fun h => absurd rfl h⟩
    cases asked <;> rfl

theorem Handshaken.challengeReady {peers : Peers ed} (h : Handshaken call peers) (side : Side)
    (index : Nat) (keypair : ed.SigningKey) (nonce : Nonce)
    (hOrdered : Ordered peers (.happens side (.challengeReady index keypair nonce))) :
    Handshaken call (peers.step call (.happens side (.challengeReady index keypair nonce))) := by
  refine h.resumed side (peers.transport side).challenged[index]? (fun hTask => ?_)
    fun channel own hTask hOwn => ?_
  · simp only [P2PTransport.step, hTask]
  · have hStarting : (peers.transport side).starting = [] := hOrdered (by rw [hTask]; rfl)
    rw [hOwn.challenged] at hTask
    obtain ⟨rfl, ⟨theirs, rfl⟩ | ⟨ours, theirs, check, rfl⟩⟩ := Progress.isChallenged_getElem hTask
    · rw [hOwn.starting] at hStarting
      cases hStarting
    · exact ⟨_, hOwn.challengeReady keypair nonce, .inr rfl, rfl, id⟩

theorem Handshaken.signed {peers : Peers ed} (h : Handshaken call peers) (side : Side)
    (index : Nat) : Handshaken call (peers.step call (.happens side (.signed index))) := by
  refine h.resumed side (peers.transport side).signing[index]? (fun hTask => ?_)
    fun task own hTask hOwn => ?_
  · simp only [P2PTransport.step, hTask]
  · rw [hOwn.signing] at hTask
    obtain ⟨rfl, ours, theirs, keypair, check, rfl⟩ := Progress.beingSigned_getElem call side hTask
    exact ⟨_, hOwn.signed, .inr rfl, rfl, id⟩

theorem Handshaken.lookedUp {peers : Peers ed} (h : Handshaken call peers) (side : Side)
    (index : Nat) (known : Option PublicKey)
    (hOrdered : Ordered peers (.happens side (.lookedUp index known))) :
    Handshaken call (peers.step call (.happens side (.lookedUp index known))) := by
  refine h.resumed side (peers.transport side).lookingUp[index]? (fun hTask => ?_)
    fun task own hTask hOwn => ?_
  · simp only [P2PTransport.step, hTask]
  · have hKnown : known = none ∨ known = some task.2.signerPk := by
      cases known with
      | none => exact .inl rfl
      | some key => exact .inr (congrArg some (hOrdered task hTask))
    rw [hOwn.lookingUp] at hTask
    obtain ⟨rfl, ours, answer, keypair, theirs, rfl, hTheirs, hKey⟩ :=
      Progress.beingLookedUp_getElem call side hTask
    rw [hKey] at hKnown
    exact ⟨_, hOwn.lookedUp hTheirs hKnown, .inr rfl, rfl, by simp⟩

theorem Handshaken.verified (hCorrect : ed.Correct) {peers : Peers ed}
    (h : Handshaken call peers) (side : Side) (index : Nat) :
    Handshaken call (peers.step call (.happens side (.verified index))) := by
  refine h.resumed side (peers.transport side).verifying[index]? (fun hTask => ?_)
    fun task own hTask hOwn => ?_
  · simp only [P2PTransport.step, hTask]
  · rw [hOwn.verifying] at hTask
    obtain ⟨rfl, ours, answer, keypair, known, theirs, rfl, hTheirs⟩ :=
      Progress.beingVerified_getElem call side hTask
    exact ⟨_, hOwn.verified hCorrect hTheirs, .inr rfl, rfl, by simp⟩

theorem Handshaken.deliver {peers : Peers ed} (h : Handshaken call peers) (side : Side)
    (nonce : Nonce) : Handshaken call (peers.step call (.deliver side nonce)) := by
  cases hFrame : (peers.transport side.other).sent[peers.arrived side]? with
  | none =>
      rw [Peers.step, hFrame]
      exact h
  | some frame =>
      obtain ⟨progress, hDescribes, hLinked⟩ := h
      simp only [Peers.step, hFrame]
      have hSide := hDescribes side
      have hOwnLinked := hLinked side
      have hPeerLinked := hLinked side.other
      rw [Side.other_other] at hPeerLinked
      rw [(hDescribes side.other).sent, hSide.arrived] at hFrame
      cases hOwn : progress side with
      | starting asked =>
          rw [hOwn] at hSide hFrame hOwnLinked hPeerLinked
          cases asked with
          | none =>
              obtain ⟨theirs, hTheirs, rfl⟩ := Progress.frames_getElem_zero call side.other hFrame
              refine handshaken_update hDescribes side (hSide.asked theirs nonce) ?_ ?_
              · exact ⟨fun _ h => h ▸ hTheirs, fun h => absurd rfl h⟩
              · exact hPeerLinked.peer (.inr rfl)
          | some theirs =>
              obtain ⟨_, ours, _, _, hPeer, -⟩ :=
                Progress.frames_getElem_one call side.other hFrame
              have hOurs := hPeerLinked.asked ours (by rw [hPeer]; rfl)
              cases hOurs
      | announced ours answer check =>
          rw [hOwn] at hSide hFrame hOwnLinked hPeerLinked
          cases hTheirs : answer.theirs? with
          | none =>
              have hAnswer := Answer.eq_unasked hTheirs
              have hIdle : check = .idle := hOwnLinked.idle hTheirs
              subst hAnswer hIdle
              obtain ⟨theirs, hPeer, rfl⟩ := Progress.frames_getElem_zero call side.other hFrame
              obtain ⟨keypair, hNext⟩ := hSide.answered theirs nonce
              refine handshaken_update hDescribes side hNext ?_ ?_
              · exact ⟨fun _ h => h ▸ hPeer, fun h => absurd rfl h⟩
              · exact hPeerLinked.peer (.inr rfl)
          | some theirs =>
              rw [Progress.arrived, Progress.theirs?, hTheirs] at hFrame
              cases check with
              | idle =>
                  obtain ⟨theirs', ours', keypair, _, hPeer, rfl⟩ :=
                    Progress.frames_getElem_one call side.other hFrame
                  have hTheirs' : theirs' = theirs := hOwnLinked.agree hTheirs (by rw [hPeer]; rfl)
                  have hOurs' : ours = ours' := hPeerLinked.agree (by rw [hPeer]; rfl) rfl
                  subst hTheirs' hOurs'
                  obtain ⟨check, hBusy, hNext⟩ := hSide.responded hTheirs keypair nonce
                  refine handshaken_update hDescribes side hNext ?_ ?_
                  · exact ⟨hOwnLinked.asked, fun _ => by rw [Progress.theirs?, hTheirs]; rfl⟩
                  · exact hPeerLinked.peer (.inr rfl)
              | _ =>
                  have hLess := (List.getElem?_eq_some_iff.mp hFrame).1
                  have hTwo := Progress.frames_length_le call side.other (progress side.other)
                  simp [Progress.check] at hLess
                  omega

theorem Handshaken.step (hCorrect : ed.Correct) {peers : Peers ed} (h : Handshaken call peers)
    {input : PeersInput ed} (hInput : Handshaking input) (hOrdered : Ordered peers input) :
    Handshaken call (peers.step call input) := by
  cases input with
  | deliver side nonce => exact h.deliver side nonce
  | happens side input =>
      cases input with
      | started index keypair nonce => exact h.started side index keypair nonce
      | challengeReady index keypair nonce =>
          exact h.challengeReady side index keypair nonce hOrdered
      | signed index => exact h.signed side index
      | lookedUp index known => exact h.lookedUp side index known hOrdered
      | verified index => exact h.verified hCorrect side index
      | _ => cases hInput

end Invariant

section Agreement

variable {ed : Ed25519}

/-- Every frame has arrived, and nothing is left to be awaited. -/
structure Quiescent (peers : Peers ed) : Prop where
  starting : ∀ side, (peers.transport side).starting = []
  challenged : ∀ side, (peers.transport side).challenged = []
  signing : ∀ side, (peers.transport side).signing = []
  lookingUp : ∀ side, (peers.transport side).lookingUp = []
  verifying : ∀ side, (peers.transport side).verifying = []
  arrived : ∀ side, peers.arrived side = (peers.transport side.other).sent.length

/-- No side gives up, each builds its transcripts from the nonce that the other
announced first, and in the end both are verified. -/
structure InAgreement (call : Call) (peers : Peers ed) : Prop where
  aborts : ∀ side, (peers.transport side).aborts = 0
  transcripts : ∀ side, ∀ held ∈ (peers.transport side).transcripts, ∃ nonce,
    (peers.transport side.other).sent.head? =
        some (0, P2PTransport.challengeFrame (call.config side.other) nonce) ∧
      held.remoteNonce = some (.bytes nonce.toList)
  established : Quiescent peers → ∀ side, (peers.transport side).status = .p2p

variable {call : Call} {peers : Peers ed} {progress : Side → Progress ed}

/-- A side that has its own nonce out and the other's challenge in has answered. -/
theorem Quiescent.answered (h : Quiescent peers)
    (hDescribes : ∀ side,
      Describes call side (progress side) (peers.transport side) (peers.arrived side))
    (hLinked : ∀ side, Linked (progress side) (progress side.other)) (side : Side) :
    ∃ ours theirs keypair check, progress side = .announced ours (.sent theirs keypair) check := by
  have hAnnounced : ∀ side, ∃ ours answer check, progress side = .announced ours answer check := by
    intro side
    have hStarting := (hDescribes side).starting.symm.trans (h.starting side)
    cases hOwn : progress side with
    | starting asked =>
        rw [hOwn] at hStarting
        cases hStarting
    | announced ours answer check => exact ⟨ours, answer, check, rfl⟩
  obtain ⟨ours, answer, check, hOwn⟩ := hAnnounced side
  obtain ⟨theirs, answer', check', hPeer⟩ := hAnnounced side.other
  have hSide := hDescribes side
  have hOwnLinked := hLinked side
  rw [hOwn] at hSide hOwnLinked
  have hPositive : 0 < (Progress.announced ours answer check).arrived := by
    rw [← hSide.arrived, h.arrived side, (hDescribes side.other).sent, hPeer]
    exact Nat.succ_pos _
  have hChallenged := hSide.challenged.symm.trans (h.challenged side)
  have hSigning := hSide.signing.symm.trans (h.signing side)
  cases answer with
  | unasked =>
      cases check with
      | idle => cases hPositive
      | _ => exact absurd (hOwnLinked.checked nofun) nofun
  | generating theirs => cases hChallenged
  | signing theirs keypair => cases hSigning
  | sent theirs keypair => exact ⟨ours, theirs, keypair, check, hOwn⟩

theorem Handshaken.agreed (h : Handshaken call peers) : InAgreement call peers := by
  obtain ⟨progress, hDescribes, hLinked⟩ := h
  refine ⟨fun side => (hDescribes side).aborts, fun side held hHeld => ?_, fun hQuiet side => ?_⟩
  · obtain ⟨theirs, hTheirs, hRemote⟩ := (hDescribes side).transcripts held hHeld
    refine ⟨theirs, ?_, hRemote⟩
    have hOurs := (hLinked side).asked theirs hTheirs
    rw [(hDescribes side.other).sent]
    cases hOther : progress side.other with
    | starting asked =>
        rw [hOther] at hOurs
        cases hOurs
    | announced ours answer check =>
        rw [hOther] at hOurs
        cases hOurs
        rfl
  · obtain ⟨ours, theirs, keypair, check, hOwn⟩ := hQuiet.answered hDescribes hLinked side
    obtain ⟨ours', theirs', keypair', check', hPeer⟩ :=
      hQuiet.answered hDescribes hLinked side.other
    have hSide := hDescribes side
    rw [hOwn] at hSide
    have hArrived : (Progress.announced ours (.sent theirs keypair) check).arrived = 2 := by
      rw [← hSide.arrived, hQuiet.arrived side, (hDescribes side.other).sent, hPeer]
      rfl
    have hLookingUp := hSide.lookingUp.symm.trans (hQuiet.lookingUp side)
    have hVerifying := hSide.verifying.symm.trans (hQuiet.verifying side)
    cases check with
    | idle => cases hArrived
    | lookingUp keypair => cases hLookingUp
    | verifying keypair known => cases hVerifying
    | accepted => exact hSide.status rfl

/-- Two ends whose transports have no lookup. -/
def plainCall : Call where
  runtime := P2PTransport.plainRuntime
  config := fun side =>
    match side with
    | .offerer => ⟨"CLIENT", false, false⟩
    | .answerer => ⟨"WORKER", false, false⟩
  context := P2PTransport.answererContext
  canDoV2 := rfl
  offerFingerprint := congrArg Option.isSome P2PTransport.extractSdpFingerprint_offer
  answerFingerprint := congrArg Option.isSome P2PTransport.extractSdpFingerprint_answer

section Order

open P2PTransport

/-- Both sides announce their nonces before either hears from the other. -/
def inOrder (ours theirs : Nonce) (keypair keypair' : ed.SigningKey) : List (PeersInput ed) :=
  [.happens .offerer (.started 0 keypair ours), .happens .answerer (.started 0 keypair' theirs),
    .deliver .answerer ours, .deliver .offerer theirs, .happens .answerer (.signed 0),
    .happens .offerer (.signed 0), .deliver .offerer theirs, .deliver .answerer ours,
    .happens .offerer (.verified 0), .happens .answerer (.verified 0)]

/-- On the answering side the key for the offerer's challenge is there before the
one that `startVerification` generates, and a second nonce is announced. -/
def overtaken (theirs first second : Nonce) (keypair keypair' peerKeypair : ed.SigningKey) :
    List (PeersInput ed) :=
  [.happens .offerer (.started 0 peerKeypair theirs), .deliver .answerer first,
    .happens .answerer (.challengeReady 0 keypair first),
    .happens .answerer (.started 0 keypair' second), .deliver .offerer first,
    .happens .offerer (.signed 0), .deliver .answerer first, .happens .answerer (.verified 0)]

theorem quiescent_inOrder (hCorrect : ed.Correct)
    (hLookup : ∀ side, (call.config side).hasLookup = false) (ours theirs : Nonce)
    (keypair keypair' : ed.SigningKey) :
    Quiescent (run (Peers.step call) (Peers.new call true "")
      (inOrder ours theirs keypair keypair')) := by
  have hOpened : ∀ side, (opened (call.config side) (call.contextOf side) true "" :
      P2PTransport ed) = _ := fun side => opened_eq _ (call.contextOf_canDoV2 side) true ""
  have hV2 := call.contextOf_canDoV2
  have hOffer := call.transcriptText_heldBy .offerer ours theirs
  have hAnswer := call.transcriptText_heldBy .answerer theirs ours
  have hText : call.text .answerer theirs ours = call.text .offerer ours theirs :=
    call.text_other .offerer ours theirs
  obtain ⟨key, hKey, hSign⟩ := hCorrect keypair (call.text .offerer ours theirs)
  obtain ⟨key', hKey', hSign'⟩ := hCorrect keypair' (call.text .offerer ours theirs)
  simp only [Call.heldBy, Side.other, hText] at hOffer hAnswer
  constructor <;> intro side <;> cases side <;>
    simp [run, inOrder, Peers.step, Peers.new, hOpened, Function.update, Side.other, step,
      P2PTransport.new, finishStart, sendControlFrame, setVerifyTimer, handleDataChannelMessage,
      touch, handleFrame_challengeFrame, handleFrame_responseFrame, answerChallenge,
      sendVerifyResponse, hasRemoteNonce, RemoteNonce.truthy, held, hV2, hOffer, hAnswer, hLookup,
      checkSignature, handleVerified, hKey, hKey', hSign, hSign', checkVerificationComplete,
      clearVerifyTimer, resetIdleTimer]

/-- The response is checked against the second nonce, and was made for the first. -/
theorem aborts_overtaken (hLookup : ∀ side, (call.config side).hasLookup = false)
    (theirs first second : Nonce) (keypair keypair' peerKeypair : ed.SigningKey)
    {key : ed.VerifyingKey} (hKey : ed.fromBytes (ed.publicKey peerKeypair) = .ok key)
    (hInvalid : ed.verify key (call.text .answerer second theirs)
      (ed.sign peerKeypair (call.text .offerer theirs first)) = false) :
    ((run (Peers.step call) (Peers.new call true "")
      (overtaken theirs first second keypair keypair' peerKeypair)).transport .answerer).aborts =
        1 := by
  have hOpened : ∀ side, (opened (call.config side) (call.contextOf side) true "" :
      P2PTransport ed) = _ := fun side => opened_eq _ (call.contextOf_canDoV2 side) true ""
  have hV2 := call.contextOf_canDoV2
  have hOffer := call.transcriptText_heldBy .offerer theirs first
  have hFirst := call.transcriptText_heldBy .answerer first theirs
  have hSecond := call.transcriptText_heldBy .answerer second theirs
  simp only [Call.heldBy, Side.other] at hOffer hFirst hSecond
  simp [run, overtaken, Peers.step, Peers.new, hOpened, Function.update, Side.other, step,
    P2PTransport.new, finishStart, sendControlFrame, setVerifyTimer, handleDataChannelMessage,
    touch, handleFrame_challengeFrame, handleFrame_responseFrame, answerChallenge,
    sendVerifyResponse, hasRemoteNonce, RemoteNonce.truthy, held, hV2, hOffer, hFirst, hSecond,
    hLookup, checkSignature, handleVerified, hKey, hInvalid, abort]

end Order

abbrev plainScheme : Ed25519 :=
  .marking (plainCall.text .offerer P2PTransport.clientNonce P2PTransport.workerNonce)

def offererKey : plainScheme.SigningKey := (7 : UInt8)

def answererKey : plainScheme.SigningKey := (3 : UInt8)

theorem plainCall_hasLookup (side : Side) : (plainCall.config side).hasLookup = false := by
  cases side <;> rfl

/-- The offerer signs for the first nonce, and for no other. -/
theorem offererKey_invalid {key : plainScheme.VerifyingKey}
    (hKey : plainScheme.fromBytes (plainScheme.publicKey offererKey) = .ok key) :
    plainScheme.verify key
      (plainCall.text .answerer (Vector.replicate _ 9) P2PTransport.clientNonce)
      (plainScheme.sign offererKey
        (plainCall.text .offerer P2PTransport.clientNonce P2PTransport.workerNonce)) = false := by
  have hSigns : plainScheme.SignsExactly offererKey
      (plainCall.text .offerer P2PTransport.clientNonce P2PTransport.workerNonce) :=
    P2P.Ed25519.marking_signsExactly _ _ (by decide)
  rw [Bool.eq_false_iff, Ne, hSigns key hKey]
  intro hText
  have hMirror := plainCall.text_other .answerer P2PTransport.workerNonce P2PTransport.clientNonce
  have hNonce := plainCall.text_injective .answerer (hText.trans hMirror)
  revert hNonce
  decide

/-- Whatever the order of the other events, the handshake succeeds as long as each
side's first key generation is the one that `startVerification` began. -/
theorem always_agreed (call : Call) (hCorrect : ed.Correct) (hasCrypto : Bool) (hex : String)
    (inputs : List (PeersInput ed)) (hInputs : ∀ input ∈ inputs, Handshaking input)
    (hOrdered : Admissible (Peers.step call) Ordered (Peers.new call hasCrypto hex) inputs) :
    Always (Peers.step call) (InAgreement call) (Peers.new call hasCrypto hex) inputs := by
  have hRun := ((admissible_of_forall hInputs).and hOrdered).always
    (fun peers input (h : Handshaken call peers) hGuard =>
      h.step hCorrect hGuard.1 hGuard.2) (handshaken_new hasCrypto hex)
  exact hRun.mono fun peers h => h.agreed

/-- The undisturbed handshake, which does come to its end. -/
theorem always_agreed_inOrder :
    Quiescent (run (Peers.step plainCall) (Peers.new plainCall true "")
        (inOrder P2PTransport.clientNonce P2PTransport.workerNonce offererKey answererKey)) ∧
      Always (Peers.step plainCall) (InAgreement plainCall) (Peers.new plainCall true "")
        (inOrder P2PTransport.clientNonce P2PTransport.workerNonce offererKey answererKey) := by
  have hCorrect : plainScheme.Correct := P2P.Ed25519.marking_correct _
  refine ⟨quiescent_inOrder hCorrect plainCall_hasLookup _ _ _ _, ?_⟩
  refine always_agreed plainCall hCorrect true "" _ ?_ ?_
  · simp [inOrder, Handshaking]
  · exact ⟨trivial, trivial, trivial, trivial, trivial, trivial, trivial, trivial, trivial, trivial,
      trivial⟩

/-- A key generation overtakes the one begun before it, and the answering side
takes the offerer's signature for a wrong one. -/
theorem not_always_agreed :
    (∀ input ∈ overtaken P2PTransport.clientNonce P2PTransport.workerNonce (Vector.replicate _ 9)
      answererKey answererKey offererKey, Handshaking input) ∧
      ¬ Always (Peers.step plainCall) (InAgreement plainCall) (Peers.new plainCall true "")
        (overtaken P2PTransport.clientNonce P2PTransport.workerNonce (Vector.replicate _ 9)
          answererKey answererKey offererKey) := by
  refine ⟨by simp [overtaken, Handshaking], fun h => ?_⟩
  obtain ⟨key, hKey, -⟩ := P2P.Ed25519.marking_correct
    (plainCall.text .offerer P2PTransport.clientNonce P2PTransport.workerNonce) offererKey []
  have hAborts := aborts_overtaken plainCall_hasLookup P2PTransport.clientNonce
    P2PTransport.workerNonce (Vector.replicate _ 9) answererKey answererKey offererKey hKey
    (offererKey_invalid hKey)
  rw [h.last.aborts] at hAborts
  cases hAborts

end Agreement

end Mxdx.Core
