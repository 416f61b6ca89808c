import Mxdx.Foundations.Base64
import Mxdx.P2P.Transport.State

/-! The Verifying handshake: both sides sign one canonical transcript with
their device keys. Ed25519 itself is a parameter; the transcript, the wire
encodings and the checks of a response are the program's own. -/
namespace Mxdx.P2P

/-- The `0x00` between the variable-length fields of the transcript. -/
def fieldSep : UInt8 := 0

/-- What the transcript begins with. -/
def domainSeparationTag : Bytes := asBytes "mxdx.p2p.verify.v1"

abbrev ed25519SignatureLen : Nat := 64

abbrev ed25519PublicKeyLen : Nat := 32

/-- A signature of its length by its type. -/
abbrev Signature := Vector UInt8 ed25519SignatureLen

/-- A public key of its length by its type. -/
abbrev PublicKey := Vector UInt8 ed25519PublicKeyLen

/-- The operations of `ed25519_dalek` that the handshake calls. -/
structure Ed25519 where
  SigningKey : Type
  VerifyingKey : Type
  /-- `signing_key.verifying_key().to_bytes()`. -/
  publicKey : SigningKey → PublicKey
  sign : SigningKey → Bytes → Signature
  fromBytes : PublicKey → Except String VerifyingKey
  verify : VerifyingKey → Bytes → Signature → Bool

/-- What a handshake can fail with. -/
inductive VerifyError where
  | invalidBase64
  | invalidSignatureLength (got : Nat)
  | invalidPublicKeyLength (got : Nat)
  | invalidNonceLength (got : Nat)
  | invalidPublicKey (text : String)
  | signatureMismatch
  | missingSdpFingerprint
  | signingFailed (text : String)
deriving DecidableEq, Repr

/-- A frame of the handshake. -/
inductive HandshakeMsg where
  | challenge (nonceB64 deviceId : String)
  | response (signatureB64 signerEd25519B64 deviceId : String)
deriving DecidableEq, Repr

/-- The bytes both peers sign; the offerer's fields come first. -/
def buildTranscript (roomId sessionUuid callId : String) (offererNonce answererNonce : Nonce)
    (offererPartyId answererPartyId offererSdpFingerprint answererSdpFingerprint : String) :
    Bytes :=
  domainSeparationTag ++ fieldSep :: (asBytes roomId ++ fieldSep :: (asBytes sessionUuid ++
    fieldSep :: (asBytes callId ++ (offererNonce.toList ++ (answererNonce.toList ++
      fieldSep :: (asBytes offererPartyId ++ fieldSep :: (asBytes answererPartyId ++
        fieldSep :: (asBytes offererSdpFingerprint ++
          fieldSep :: asBytes answererSdpFingerprint))))))))

/-- The offerer's part comes first. -/
def canonicalOrdering {α : Type} (our theirs : α) (weAreOfferer : Bool) : α × α :=
  if weAreOfferer then (our, theirs) else (theirs, our)

/-- Glare decides, and without it who sent the invite. -/
def weAreOfferer (glare : Option GlareResult) (sentInvite : Bool) : Bool :=
  match glare with
  | some .weWin => true
  | some .theyWin => false
  | none => sentInvite

/-- A key that is no point fails before its signature is looked at. -/
def verifyPeerSignature (ed : Ed25519) (peerPublicKey : PublicKey) (signature : Signature)
    (transcript : Bytes) : Except VerifyError Unit :=
  match ed.fromBytes peerPublicKey with
  | .error text => .error (.invalidPublicKey text)
  | .ok key =>
      if ed.verify key transcript signature then .ok () else .error .signatureMismatch

/-- Decode base64 text into exactly `size` bytes. -/
def decodeFixed (size : Nat) (wrongLength : Nat → VerifyError) (text : String) :
    Except VerifyError (Vector UInt8 size) :=
  match Base64.decode text with
  | none => .error .invalidBase64
  | some raw =>
      if h : raw.length = size then .ok ⟨raw.toArray, h⟩ else .error (wrongLength raw.length)

def decodeNonceB64 : String → Except VerifyError Nonce :=
  decodeFixed nonceLen .invalidNonceLength

def decodeSignatureB64 : String → Except VerifyError Signature :=
  decodeFixed ed25519SignatureLen .invalidSignatureLength

def decodePublicKeyB64 : String → Except VerifyError PublicKey :=
  decodeFixed ed25519PublicKeyLen .invalidPublicKeyLength

def encodeNonce (nonce : Nonce) : String := Base64.encode nonce.toList

def encodeSignature (signature : Signature) : String := Base64.encode signature.toList

def encodePublicKey (key : PublicKey) : String := Base64.encode key.toList

/-- `HandshakeSigner::sign`. -/
abbrev HandshakeSigner := Bytes → Except VerifyError (Signature × PublicKey)

/-- `HandshakePeerKeySource::peer_public_key`: user id, device id. -/
abbrev HandshakePeerKeySource := String → String → Option PublicKey

/-- `EphemeralKeySigner` signs the transcript itself. -/
def ephemeralKeySigner (ed : Ed25519) (signingKey : ed.SigningKey) : HandshakeSigner :=
  fun transcript => .ok (ed.sign signingKey transcript, ed.publicKey signingKey)

namespace InMemoryPeerKeySource

/-- No device is known. -/
def new : HandshakePeerKeySource := fun _ _ => none

/-- A device has one key. -/
def insert (keys : HandshakePeerKeySource) (userId deviceId : String) (key : PublicKey) :
    HandshakePeerKeySource :=
  fun user device => if user = userId ∧ device = deviceId then some key else keys user device

end InMemoryPeerKeySource

/-- Our side of the handshake. -/
structure HandshakeParams where
  roomId : String
  sessionUuid : String
  callId : String
  ourNonce : Nonce
  ourPartyId : String
  ourUserId : String
  ourDeviceId : String
  peerUserId : String
  peerDeviceId : String
  ourSdpFingerprint : String
  weAreOfferer : Bool
deriving DecidableEq

/-- What a response comes to. -/
inductive HandshakeOutcome where
  | verified
  | signatureMismatch
  | replayDetected
  | peerDeviceUnknown
  | invalidPayload
  | peerKeyMismatch
deriving DecidableEq, Repr

/-- The transcript as one side computes it from its own parameters and what
the peer announced. -/
def handshakeTranscript (params : HandshakeParams) (peerNonce : Nonce)
    (peerPartyId peerSdpFingerprint : String) : Bytes :=
  let (offNonce, ansNonce) := canonicalOrdering params.ourNonce peerNonce params.weAreOfferer
  let (offParty, ansParty) := canonicalOrdering params.ourPartyId peerPartyId params.weAreOfferer
  let (offFp, ansFp) :=
    canonicalOrdering params.ourSdpFingerprint peerSdpFingerprint params.weAreOfferer
  buildTranscript params.roomId params.sessionUuid params.callId offNonce ansNonce offParty
    ansParty offFp ansFp

/-- The checks in the order of the source; the first that fails decides. -/
def verifyHandshakeResponse (ed : Ed25519) (params : HandshakeParams) (peerNonce : Nonce)
    (peerPartyId peerSdpFingerprint : String) (peerResponse : HandshakeMsg)
    (peerKeys : HandshakePeerKeySource) : HandshakeOutcome :=
  match peerResponse with
  | .challenge .. => .invalidPayload
  | .response signatureB64 signerPkB64 responseDeviceId =>
      match decodePublicKeyB64 signerPkB64 with
      | .error _ => .invalidPayload
      | .ok wirePk =>
          match decodeSignatureB64 signatureB64 with
          | .error _ => .invalidPayload
          | .ok signature =>
              match peerKeys params.peerUserId responseDeviceId with
              | none => .peerDeviceUnknown
              | some matrixPk =>
                  if wirePk ≠ matrixPk then .peerKeyMismatch
                  else
                    match verifyPeerSignature ed matrixPk signature
                        (handshakeTranscript params peerNonce peerPartyId peerSdpFingerprint) with
                    | .ok () => .verified
                    | .error _ => .signatureMismatch

/-- The signer gets the transcript and does with it as it likes. -/
def buildHandshakeResponse (params : HandshakeParams) (peerNonce : Nonce)
    (peerPartyId peerSdpFingerprint : String) (signer : HandshakeSigner) :
    Except VerifyError HandshakeMsg :=
  match signer (handshakeTranscript params peerNonce peerPartyId peerSdpFingerprint) with
  | .error failure => .error failure
  | .ok (signature, key) =>
      .ok (.response (encodeSignature signature) (encodePublicKey key) params.ourDeviceId)

/-- The arguments of `build_transcript` as one value. -/
structure TranscriptFields where
  roomId : String
  sessionUuid : String
  callId : String
  offererNonce : Nonce
  answererNonce : Nonce
  offererPartyId : String
  answererPartyId : String
  offererSdpFingerprint : String
  answererSdpFingerprint : String
deriving DecidableEq

namespace TranscriptFields

/-- The bytes that are signed. -/
def transcript (fields : TranscriptFields) : Bytes :=
  buildTranscript fields.roomId fields.sessionUuid fields.callId fields.offererNonce
    fields.answererNonce fields.offererPartyId fields.answererPartyId
    fields.offererSdpFingerprint fields.answererSdpFingerprint

/-- The fields that are texts. -/
def strings (fields : TranscriptFields) : List String :=
  [fields.roomId, fields.sessionUuid, fields.callId, fields.offererPartyId,
    fields.answererPartyId, fields.offererSdpFingerprint, fields.answererSdpFingerprint]

/-- No string field contains a NUL byte. -/
def NulFree (fields : TranscriptFields) : Prop :=
  ∀ text ∈ fields.strings, (0 : UInt8) ∉ asBytes text

instance (fields : TranscriptFields) : Decidable fields.NulFree :=
  inferInstanceAs (Decidable (∀ text ∈ fields.strings, (0 : UInt8) ∉ asBytes text))

end TranscriptFields

/-- Nonces have a fixed width, so they need no separator. -/
theorem nonce_append_inj {first second : Nonce} {restFirst restSecond : Bytes}
    (h : first.toList ++ restFirst = second.toList ++ restSecond) :
    first = second ∧ restFirst = restSecond := by
  obtain ⟨hNonce, hRest⟩ := List.append_inj h (by simp)
  exact ⟨Vector.toList_inj.mp hNonce, hRest⟩

/-- The fields behind the nonces are found from the back, the fields before
them from the front; the call id is what remains in between. -/
theorem transcript_injective (first second : TranscriptFields) (hFirst : first.NulFree)
    (hSecond : second.NulFree) (h : first.transcript = second.transcript) : first = second := by
  obtain ⟨room, session, call, offNonce, ansNonce, offParty, ansParty, offFp, ansFp⟩ := first
  obtain ⟨room', session', call', offNonce', ansNonce', offParty', ansParty', offFp', ansFp'⟩ :=
    second
  simp only [TranscriptFields.NulFree, TranscriptFields.strings, List.mem_cons, List.not_mem_nil,
    or_false, forall_eq_or_imp, forall_eq] at hFirst hSecond
  obtain ⟨hRoom, hSession, -, hOffParty, hAnsParty, hOffFp, hAnsFp⟩ := hFirst
  obtain ⟨hRoom', hSession', -, hOffParty', hAnsParty', hOffFp', hAnsFp'⟩ := hSecond
  simp only [TranscriptFields.transcript, buildTranscript] at h
  have h := (List.cons.inj (List.append_cancel_left h)).2
  obtain ⟨hEqRoom, h⟩ := Framing.front_inj hRoom hRoom' h
  obtain ⟨hEqSession, h⟩ := Framing.front_inj hSession hSession' h
  have hBack : (((asBytes call ++ (offNonce.toList ++ ansNonce.toList) ++
        fieldSep :: asBytes offParty) ++ fieldSep :: asBytes ansParty) ++
        fieldSep :: asBytes offFp) ++ fieldSep :: asBytes ansFp =
      (((asBytes call' ++ (offNonce'.toList ++ ansNonce'.toList) ++
        fieldSep :: asBytes offParty') ++ fieldSep :: asBytes ansParty') ++
        fieldSep :: asBytes offFp') ++ fieldSep :: asBytes ansFp' := by
    simpa only [List.append_assoc, List.cons_append] using h
  obtain ⟨hBack, hEqAnsFp⟩ := Framing.back_inj hAnsFp hAnsFp' hBack
  obtain ⟨hBack, hEqOffFp⟩ := Framing.back_inj hOffFp hOffFp' hBack
  obtain ⟨hBack, hEqAnsParty⟩ := Framing.back_inj hAnsParty hAnsParty' hBack
  obtain ⟨hBack, hEqOffParty⟩ := Framing.back_inj hOffParty hOffParty' hBack
  obtain ⟨hEqCall, hNonces⟩ := List.append_inj' hBack (by simp)
  obtain ⟨rfl, hAnsNonce⟩ := nonce_append_inj hNonces
  obtain rfl := Vector.toList_inj.mp hAnsNonce
  obtain rfl := Utf8.bytes_injective hEqRoom
  obtain rfl := Utf8.bytes_injective hEqSession
  obtain rfl := Utf8.bytes_injective hEqCall
  obtain rfl := Utf8.bytes_injective hEqOffParty
  obtain rfl := Utf8.bytes_injective hEqAnsParty
  obtain rfl := Utf8.bytes_injective hEqOffFp
  obtain rfl := Utf8.bytes_injective hEqAnsFp
  rfl

/-- Zero nonces are full of separators and still cannot hide a call id. -/
theorem zeroNonce_transcript_ne :
    let fields : TranscriptFields :=
      ⟨"!room:x", "", "c1", Transition.zeroNonce, Transition.zeroNonce, "A", "B", "AA:BB", "CC:DD"⟩
    fields.transcript ≠ { fields with callId := "c2" }.transcript := by
  intro fields hEq
  have hFields := transcript_injective fields { fields with callId := "c2" } (by decide)
    (by decide) hEq
  exact absurd (congrArg TranscriptFields.callId hFields) (by decide)

@[simp] theorem decodeFixed_encode {size : Nat} (wrongLength : Nat → VerifyError)
    (value : Vector UInt8 size) :
    decodeFixed size wrongLength (Base64.encode value.toList) = .ok value := by
  have hArray : value.toList.toArray = value.toArray := by simp [Vector.toList]
  simp [decodeFixed, hArray]

end Mxdx.P2P
