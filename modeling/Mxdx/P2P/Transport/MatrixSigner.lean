import Mxdx.Matrix.Client
import Mxdx.P2P.Transport.Verify

/-! The production signer of the handshake. It asks the Olm machine for a
signature, and the Olm machine signs text. -/
namespace Mxdx.P2P

open MatrixClient

/-- `MatrixHandshakeSigner::sign`: the transcript is encoded as text first. -/
def matrixHandshakeSigner (olm : Option OlmMachine) : HandshakeSigner := fun transcript =>
  match signWithDeviceKey olm (Base64.encode transcript) with
  | .ok signed => .ok signed
  | .error failure => .error (.signingFailed failure.display)

/-- The machine holds `key` as its device key and signs UTF-8 text with it. -/
structure SignsWith (ed : Ed25519) (olm : OlmMachine) (key : ed.SigningKey) :
    Prop where
  identityKey : olm.identityKey = ed.publicKey key
  signature : ∀ message signatures keyId signature, olm.sign message = .ok signatures →
    olm.keyId = .ok keyId → signatures olm.userId keyId = some signature →
    signature = ed.sign key (asBytes message)

/-- What the signer returns is a signature of the text, not of the transcript. -/
theorem matrixHandshakeSigner_eq {ed : Ed25519} {olm : OlmMachine} {key : ed.SigningKey}
    (hOlm : SignsWith ed olm key) {transcript : Bytes} {signature : Signature}
    {publicKey : PublicKey}
    (h : matrixHandshakeSigner (some olm) transcript = .ok (signature, publicKey)) :
    signature = ed.sign key (asBytes (Base64.encode transcript)) ∧
      publicKey = ed.publicKey key := by
  simp only [matrixHandshakeSigner, signWithDeviceKey] at h
  cases hSign : olm.sign (Base64.encode transcript) with
  | error text => simp [hSign] at h
  | ok signatures =>
      cases hKeyId : olm.keyId with
      | error text => simp [hSign, hKeyId] at h
      | ok keyId =>
          cases hFound : signatures olm.userId keyId with
          | none => simp [hSign, hKeyId, hFound] at h
          | some found =>
              simp only [hSign, hKeyId, hFound, Except.ok.injEq, Prod.mk.injEq] at h
              obtain ⟨rfl, rfl⟩ := h
              exact ⟨hOlm.signature _ _ _ _ hSign hKeyId hFound, hOlm.identityKey⟩

end Mxdx.P2P
