import Mxdx.Foundations.Unicode
import Mxdx.P2P.Transport.Verify
import Mathlib

/-! The JavaScript end of the Verifying handshake: the frames it builds and
parses. Its base64 texts carry no padding, and the Rust decoders insist on
padding; the other way around everything is read back. -/
namespace Mxdx.Core

open P2P

/-- `length` of a string: its UTF-16 code units. -/
def jsLength (s : String) : Nat := (Utf16.units s).length

/-- `Buffer.from(bytes).toString('base64')`, then `.replace(/=+$/, '')`. -/
def b64encode (bytes : Bytes) : String :=
  String.ofList (Base64.stripPad (Base64.encode bytes).toList)

/-- The padded text goes through `Buffer.from(padded, 'base64')`. -/
def b64decode (s : String) : Bytes :=
  let padded := s.toList ++ List.replicate ((4 - jsLength s % 4) % 4) '='
  Base64.decodeLenient padded

/-- A parsed frame: its string-valued properties. What is absent or of another
type reads as `none`, and so does every property of a value that is no object. -/
abbrev Frame := List (String × String)

/-- The frame that asks the peer to sign. -/
def buildChallengeFrame (ourNonce : Bytes) (ourDeviceId : String) : Frame :=
  [("type", "verify_challenge"), ("nonce_b64", b64encode ourNonce), ("device_id", ourDeviceId)]

/-- `signTranscript` is what webcrypto computes with the private key. -/
def buildResponseFrame (signTranscript : Bytes → Signature) (publicKeyBytes transcript : Bytes)
    (ourDeviceId : String) : Frame :=
  [("type", "verify_response"), ("signature_b64", b64encode (signTranscript transcript).toList),
    ("signer_ed25519_b64", b64encode publicKeyBytes), ("device_id", ourDeviceId)]

/-- The nonce and the device id of a challenge. -/
def parseChallengeFrame (frame : Frame) : Except String (Bytes × String) :=
  if frame.lookup "type" ≠ some "verify_challenge" then .error "not a verify_challenge frame"
  else
    match frame.lookup "nonce_b64", frame.lookup "device_id" with
    | some nonceB64, some deviceId =>
        let nonce := b64decode nonceB64
        if nonce.length ≠ nonceLen then .error s!"invalid nonce length {nonce.length}"
        else .ok (nonce, deviceId)
    | _, _ => .error "malformed verify_challenge"

/-- The signature, the signer's key and the device id of a response. -/
def parseResponseFrame (frame : Frame) : Except String (Bytes × Bytes × String) :=
  if frame.lookup "type" ≠ some "verify_response" then .error "not a verify_response frame"
  else
    match frame.lookup "signature_b64", frame.lookup "signer_ed25519_b64",
      frame.lookup "device_id" with
    | some signatureB64, some signerB64, some deviceId =>
        let signature := b64decode signatureB64
        let signerPk := b64decode signerB64
        if signature.length ≠ ed25519SignatureLen then
          .error s!"invalid signature length {signature.length}"
        else if signerPk.length ≠ ed25519PublicKeyLen then
          .error s!"invalid signer pk length {signerPk.length}"
        else .ok (signature, signerPk, deviceId)
    | _, _, _ => .error "malformed verify_response"

/-- The JSON object `serde` writes for a frame. -/
def serialize : HandshakeMsg → Frame
  | .challenge nonceB64 deviceId =>
      [("type", "verify_challenge"), ("nonce_b64", nonceB64), ("device_id", deviceId)]
  | .response signatureB64 signerEd25519B64 deviceId =>
      [("type", "verify_response"), ("signature_b64", signatureB64),
        ("signer_ed25519_b64", signerEd25519B64), ("device_id", deviceId)]

/-- The text of some bytes is read back as those bytes, with its padding. -/
theorem b64decode_encode (bytes : Bytes) : b64decode (Base64.encode bytes) = bytes := by
  rw [b64decode, Base64.decodeLenient_append_pad, Base64.encode, String.toList_ofList,
    Base64.decodeLenient_encodeChars]

/-- It is read back without the padding, too. -/
theorem b64decode_b64encode (bytes : Bytes) : b64decode (b64encode bytes) = bytes := by
  rw [b64decode, Base64.decodeLenient_append_pad, b64encode, String.toList_ofList,
    Base64.decodeLenient_stripPad, Base64.encode, String.toList_ofList,
    Base64.decodeLenient_encodeChars]

/-- Bytes that do not fill the last group are lost on the strict decoder. -/
theorem decode_b64encode (bytes : Bytes) (h : bytes.length % 3 ≠ 0) :
    Base64.decode (b64encode bytes) = none := by
  rw [Base64.decode, b64encode, String.toList_ofList, Base64.encode, String.toList_ofList,
    Base64.decodeChars_stripPad bytes h]

theorem decodeFixed_b64encode {size : Nat} (wrongLength : Nat → VerifyError)
    (value : Vector UInt8 size) (h : size % 3 ≠ 0) :
    decodeFixed size wrongLength (b64encode value.toList) = .error .invalidBase64 := by
  have hDecode := decode_b64encode value.toList (by simpa using h)
  simp only [decodeFixed, hDecode]

section Frames

variable {nonceB64 signatureB64 signerB64 : String} {nonce : Nonce} {signature : Signature}
  {key : PublicKey}

/-- A challenge is accepted on the bytes its text decodes to. -/
theorem parseChallengeFrame_serialize (hNonce : b64decode nonceB64 = nonce.toList)
    (deviceId : String) :
    parseChallengeFrame (serialize (.challenge nonceB64 deviceId)) =
      .ok (nonce.toList, deviceId) := by
  simp [parseChallengeFrame, serialize, List.lookup, hNonce]

theorem parseResponseFrame_serialize (hSignature : b64decode signatureB64 = signature.toList)
    (hKey : b64decode signerB64 = key.toList) (deviceId : String) :
    parseResponseFrame (serialize (.response signatureB64 signerB64 deviceId)) =
      .ok (signature.toList, key.toList, deviceId) := by
  simp [parseResponseFrame, serialize, List.lookup, hSignature, hKey]

/-- Between two JavaScript peers a challenge arrives. -/
theorem parse_buildChallengeFrame (nonce : Nonce) (deviceId : String) :
    parseChallengeFrame (buildChallengeFrame nonce.toList deviceId) =
      .ok (nonce.toList, deviceId) :=
  parseChallengeFrame_serialize (b64decode_b64encode _) deviceId

/-- Between two JavaScript peers a response arrives. -/
theorem parse_buildResponseFrame (signTranscript : Bytes → Signature) (key : PublicKey)
    (transcript : Bytes) (deviceId : String) :
    parseResponseFrame (buildResponseFrame signTranscript key.toList transcript deviceId) =
      .ok ((signTranscript transcript).toList, key.toList, deviceId) :=
  parseResponseFrame_serialize (b64decode_b64encode _) (b64decode_b64encode _) deviceId

end Frames

section Interoperability

variable (nonce : Nonce) (signature : Signature) (key : PublicKey)

/-- The texts of the JavaScript side mean the same bytes to the Rust decoders. -/
structure ReadByRust : Prop where
  nonceText : decodeNonceB64 (b64encode nonce.toList) = .ok nonce
  signatureText : decodeSignatureB64 (b64encode signature.toList) = .ok signature
  keyText : decodePublicKeyB64 (b64encode key.toList) = .ok key

/-- The texts of the Rust side mean the same bytes to the JavaScript decoders. -/
structure ReadByJavascript : Prop where
  nonceText : b64decode (encodeNonce nonce) = nonce.toList
  signatureText : b64decode (encodeSignature signature) = signature.toList
  keyText : b64decode (encodePublicKey key) = key.toList
  challengeFrame : ∀ deviceId,
    parseChallengeFrame (serialize (.challenge (encodeNonce nonce) deviceId)) =
      .ok (nonce.toList, deviceId)
  responseFrame : ∀ deviceId,
    parseResponseFrame
        (serialize (.response (encodeSignature signature) (encodePublicKey key) deviceId)) =
      .ok (signature.toList, key.toList, deviceId)

theorem readByJavascript : ReadByJavascript nonce signature key where
  nonceText := b64decode_encode _
  signatureText := b64decode_encode _
  keyText := b64decode_encode _
  challengeFrame := parseChallengeFrame_serialize (b64decode_encode _)
  responseFrame := parseResponseFrame_serialize (b64decode_encode _) (b64decode_encode _)

/-- Frames go one way only. 32 and 64 bytes leave an incomplete last group,
so each text of the JavaScript side is refused by the Rust decoder it is for. -/
theorem frames_never_interoperable :
    ¬ (ReadByRust nonce signature key ∧ ReadByJavascript nonce signature key) ∧
      ReadByJavascript nonce signature key ∧
      decodeNonceB64 (b64encode nonce.toList) = .error .invalidBase64 ∧
      decodeSignatureB64 (b64encode signature.toList) = .error .invalidBase64 ∧
      decodePublicKeyB64 (b64encode key.toList) = .error .invalidBase64 := by
  have hNonce : decodeNonceB64 (b64encode nonce.toList) = .error .invalidBase64 :=
    decodeFixed_b64encode _ nonce (by decide)
  have hSignature : decodeSignatureB64 (b64encode signature.toList) = .error .invalidBase64 :=
    decodeFixed_b64encode _ signature (by decide)
  have hKey : decodePublicKeyB64 (b64encode key.toList) = .error .invalidBase64 :=
    decodeFixed_b64encode _ key (by decide)
  have hRust : ¬ ReadByRust nonce signature key := by
    intro h
    have hRead := h.nonceText
    rw [hNonce] at hRead
    cases hRead
  exact ⟨fun h => hRust h.1, readByJavascript nonce signature key, hNonce, hSignature, hKey⟩

end Interoperability

/-- The zero nonce: forty-three letters `A`, where Rust writes one `=` more. -/
theorem zero_nonce_unreadable :
    b64encode Transition.zeroNonce.toList = "AAAAAAAAAAAAAAAAAAAAAAAAAAAAAAAAAAAAAAAAAAA" ∧
      ¬ ∀ nonce signature key,
        ReadByRust nonce signature key ∧ ReadByJavascript nonce signature key := by
  refine ⟨by decide, fun h => ?_⟩
  have hRead := (h Transition.zeroNonce (Vector.replicate 64 0) (Vector.replicate 32 0)).1.nonceText
  exact absurd hRead (by decide)

end Mxdx.Core
