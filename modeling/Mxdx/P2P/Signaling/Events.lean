import Mxdx.P2P.Channel

/-! Typed `m.call.*` event contents and the parsed event that the transport
receives. The field lists are those of the wire structs. -/
namespace Mxdx.P2P

/-- Default `m.call.invite.lifetime`, in milliseconds. -/
def defaultInviteLifetimeMs : Nat := 30000

/-- A session description inside of a call event. -/
structure CallSdpField where
  kind : String
  sdp : String
deriving DecidableEq, Repr

/-- A candidate inside of a call event, with the fields of the browser. -/
structure CallIceCandidate where
  candidate : String
  sdpMid : Option String
  sdpMlineIndex : Option Nat
deriving DecidableEq, Repr

/-- The event that opens a call. -/
structure CallInvite where
  callId : String
  partyId : String
  version : String
  lifetime : Nat
  offer : CallSdpField
  mxdxSessionKey : Option String
  sessionUuid : Option String
deriving DecidableEq, Repr

/-- The event that takes a call. -/
structure CallAnswer where
  callId : String
  partyId : String
  version : String
  answer : CallSdpField
deriving DecidableEq, Repr

/-- The candidates that one side has gathered since its last batch. -/
structure CallCandidates where
  callId : String
  partyId : String
  version : String
  candidates : List CallIceCandidate
deriving DecidableEq, Repr

/-- The event that ends a call, or turns it down. -/
structure CallHangup where
  callId : String
  partyId : String
  version : String
  reason : Option String
deriving DecidableEq, Repr

/-- The caller tells which of the answers it goes on with. -/
structure CallSelectAnswer where
  callId : String
  partyId : String
  version : String
  selectedPartyId : String
deriving DecidableEq, Repr

/-- An event of the signaling, told by its type. -/
inductive ParsedCallEvent where
  | invite (content : CallInvite)
  | answer (content : CallAnswer)
  | candidates (content : CallCandidates)
  | hangup (content : CallHangup)
  | selectAnswer (content : CallSelectAnswer)
  | unknown (eventType : String)
deriving DecidableEq, Repr

/-- `call_id` of the parsed content; unknown contents are not parsed. -/
def ParsedCallEvent.callId : ParsedCallEvent → Option String
  | .invite e => some e.callId
  | .answer e => some e.callId
  | .candidates e => some e.callId
  | .hangup e => some e.callId
  | .selectAnswer e => some e.callId
  | .unknown _ => none

end Mxdx.P2P
