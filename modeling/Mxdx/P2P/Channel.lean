import Mxdx.Basic

/-! Vocabulary of the `WebRtcChannel` trait: the values that cross it and the
events a backend reports. The transport knows of a backend no more than this. -/
namespace Mxdx.P2P

/-- A server that helps to find a way, with what it asks for. -/
structure IceServer where
  urls : List String
  username : Option String
  credential : Option String
deriving DecidableEq, Repr

/-- The two descriptions of a call. -/
inductive SdpKind where
  | offer
  | answer
deriving DecidableEq, Repr

/-- A session description. -/
structure Sdp where
  kind : SdpKind
  sdp : String
deriving DecidableEq, Repr

/-- A way that may lead to the other side. -/
structure IceCandidate where
  candidate : String
  sdpMid : Option String
  sdpMlineIndex : Option Nat
deriving DecidableEq, Repr

/-- Event emitted by a channel backend. -/
inductive ChannelEvent where
  | localIce (candidate : IceCandidate)
  | message (frame : Bytes)
  | opened
  | closed (reason : String)
  | failure (message : String)
deriving DecidableEq, Repr

/-- What a call of a channel can fail with. -/
inductive ChannelError where
  | invalidSdp (text : String)
  | invalidCandidate (text : String)
  | iceInitFailed (text : String)
  | restartIceUnsupported
  | frameTooLarge (max actual : Nat)
  | closed
  | backend (text : String)
deriving DecidableEq, Repr

/-- The `Display` text of a channel error. -/
def ChannelError.display : ChannelError → String
  | .invalidSdp text => "invalid SDP: " ++ text
  | .invalidCandidate text => "invalid ICE candidate: " ++ text
  | .iceInitFailed text => "ICE initialisation failed: " ++ text
  | .restartIceUnsupported => "restart_ice not supported by this backend"
  | .frameTooLarge max actual =>
      "frame exceeds " ++ toString max ++ "-byte limit (" ++ toString actual ++ " bytes)"
  | .closed => "channel is closed"
  | .backend text => "backend error: " ++ text

end Mxdx.P2P
