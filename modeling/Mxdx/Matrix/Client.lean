import Mxdx.Basic

/-! The Matrix client, as far as the other crates depend on it. matrix-sdk is
known by the operations that are called on it. -/
namespace Mxdx.MatrixClient

/-- What a call of the client can fail with. -/
inductive MatrixClientError where
  | sdk (text : String)
  | http (text : String)
  | registration (text : String)
  | roomNotFound (id : String)
  | keyExchangeTimeout (message : String)
  | roomCreationTimeout (message : String)
  | stateRoomRejected (message : String)
  | other (text : String)
deriving DecidableEq, Repr

/-- The text of the error. -/
def MatrixClientError.display : MatrixClientError → String
  | .sdk text => "Matrix SDK error: " ++ text
  | .http text => "Matrix HTTP error: " ++ text
  | .registration text => "Registration error: " ++ text
  | .roomNotFound id => "Room not found: " ++ id
  | .keyExchangeTimeout message => "Key exchange timeout: " ++ message
  | .roomCreationTimeout message =>
      "Room creation timeout (server may be rate-limiting): " ++ message
  | .stateRoomRejected message => "State room rejected: " ++ message
  | .other text => text

/-- The part of matrix-sdk's `OlmMachine` that the signer calls. The result of
`sign` is looked up by user id and key id; `parseKeyId` is ruma's. -/
structure OlmMachine where
  userId : String
  deviceId : String
  identityKey : Vector UInt8 32
  sign : String → Except String (String → String → Option (Vector UInt8 64))
  parseKeyId : String → Except String String

/-- The id of the device's signing key. -/
def OlmMachine.keyId (olm : OlmMachine) : Except String String :=
  olm.parseKeyId ("ed25519:" ++ olm.deviceId)

/-- `MatrixClient::sign_with_device_key`. -/
def signWithDeviceKey (olm : Option OlmMachine) (message : String) :
    Except MatrixClientError (Vector UInt8 64 × Vector UInt8 32) :=
  match olm with
  | none => .error (.other "OlmMachine not initialized — E2EE not ready")
  | some olm =>
      match olm.sign message with
      | .error text => .error (.other ("device sign: " ++ text))
      | .ok signatures =>
          match olm.keyId with
          | .error text => .error (.other ("parse key_id: " ++ text))
          | .ok keyId =>
              match signatures olm.userId keyId with
              | none =>
                  .error (.other "device Ed25519 signature not found in OlmMachine::sign result")
              | some signature => .ok (signature, olm.identityKey)

/-- How the answer to `send_state_event` comes back; it can be lost although the
room has taken the event. -/
inductive WriteAnswer where
  | ok
  | lost
  | refused
deriving DecidableEq, Repr

/-- Whether the homeserver has made the write. -/
def WriteAnswer.lands : WriteAnswer → Bool
  | .refused => false
  | _ => true

end Mxdx.MatrixClient
