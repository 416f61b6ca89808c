import Mxdx.P2P.Channel
import Mxdx.Foundations.BoundedQueue
import Mxdx.Foundations.Holdback

/-! What the two backends of `WebRtcChannel` share: the calls of the trait, each with what the
peer connection underneath answers while it is served, and the queue of events. -/
namespace Mxdx.P2P

/-- The kinds a description can have for the peer connection. -/
inductive SdpType where
  | offer
  | answer
  | pranswer
  | rollback
deriving DecidableEq, Repr

/-- The name a kind has in the texts of errors. -/
def SdpType.debug : SdpType → String
  | .offer => "Offer"
  | .answer => "Answer"
  | .pranswer => "Pranswer"
  | .rollback => "Rollback"

/-- The name a kind has in the texts of errors. -/
def SdpKind.debug : SdpKind → String
  | .offer => "Offer"
  | .answer => "Answer"

/-- The kinds of the protocol are kinds of the peer connection. -/
def SdpKind.toSdpType : SdpKind → SdpType
  | .offer => .offer
  | .answer => .answer

namespace Backend

/-- The largest frame that is taken from a data channel. -/
def maxInboundFrameSize : Nat := 1024 * 1024

/-- How many events may wait for the consumer. -/
def eventQueueDepth : Nat := 256

/-- The label by which both sides know the channel. -/
def dataChannelLabel : String := "mxdx-terminal"

/-- A description as the peer connection has it. -/
structure SessionDescription where
  sdpType : SdpType
  sdp : String
deriving DecidableEq, Repr

/-- What the peer connection says to a request that yields nothing. -/
abbrev Answer := Except String Unit

/-- What becomes of a remote description. Only libdatachannel has it parsed first. -/
inductive Installed where
  | accepted
  | unparsed (text : String)
  | refused (text : String)
deriving DecidableEq, Repr

/-- What becomes of the local description. Only a browser can fail to make one, make one
without a text, or refuse to take its own. -/
inductive LocalDescription where
  | made (description : SessionDescription)
  | refused (text : String)
  | blank
  | unsettable (text : String)
deriving DecidableEq, Repr

/-- The calls of the trait, each with the answers that it will get. -/
inductive Call where
  | createOffer (servers : List IceServer) (opened channel : Answer)
      (described : LocalDescription)
  | acceptOffer (servers : List IceServer) (remote : Sdp) (opened : Answer)
      (installed : Installed) (described : LocalDescription)
  | acceptAnswer (remote : Sdp) (installed : Installed)
  | addIceCandidate (candidate : IceCandidate) (added : Answer)
  | restartIce (servers : List IceServer)
  | send (frame : Bytes) (sent : Answer)
  | close (reason : String)

/-- A step of a channel's life: a call of the trait, a callback of the peer connection, or the
consumer that takes the next event. -/
inductive Input (Callback : Type) where
  | call (call : Call)
  | callback (callback : Callback)
  | recv

/-- What a call comes to; `pending` where it waits for a description that never comes. -/
inductive Outcome where
  | done
  | described (sdp : Sdp)
  | failed (error : ChannelError)
  | pending
deriving DecidableEq, Repr

/-- What has been done to the peer connection. -/
inductive Effect (Config Candidate : Type) where
  | opened (config : Config)
  | madeDataChannel (label : String)
  | installed (remote : Sdp)
  | gave (candidate : Candidate)
  | sent (frame : Bytes)
  | closed
deriving DecidableEq, Repr

/-- The candidate that an effect hands over. -/
def Effect.candidate? {Config Candidate : Type} : Effect Config Candidate → Option Candidate
  | .gave candidate => some candidate
  | _ => none

/-- The candidates that were given to the peer connection, in order. -/
def given {Config Candidate : Type} (effects : List (Effect Config Candidate)) :
    List Candidate :=
  effects.filterMap Effect.candidate?

/-- The candidates a channel is asked to add before it is asked to close. -/
def offered {Callback : Type} : List (Input Callback) → List IceCandidate
  | [] => []
  | .call (.addIceCandidate candidate _) :: rest => candidate :: offered rest
  | .call (.close _) :: _ => []
  | _ :: rest => offered rest

/-- `try_send`, whose refusal nobody looks at. -/
def emit (events : BoundedQueue ChannelEvent) (event : ChannelEvent) :
    BoundedQueue ChannelEvent :=
  events.step eventQueueDepth (.push event)

/-- The event for a frame that has come in. -/
def inbound (frame : Bytes) : ChannelEvent :=
  if frame.length > maxInboundFrameSize then
    .failure ("inbound frame exceeds " ++ toString maxInboundFrameSize ++ "-byte cap (" ++
      toString frame.length ++ " bytes)")
  else
    .message frame

/-- What the consumer hears when the other side closes the data channel. -/
def remoteClosed : ChannelEvent := .closed "remote closed data channel"

/-- What a sender hears before there is a data channel. -/
def notYetOpen : ChannelError := .backend "data channel not yet open"

/-- What a caller hears that brings a description of the wrong kind. -/
def expected (wanted found : SdpKind) : ChannelError :=
  .invalidSdp ("expected " ++ (match wanted with | .offer => "offer" | .answer => "answer") ++
    ", got " ++ found.debug)

/-- What a backend puts the calls of the trait together from. -/
structure Parts (Channel : Type) where
  closed : Channel → Bool
  pc : Channel → Bool
  dc : Channel → Bool
  ready : Channel → Bool
  ensurePc : Channel → List IceServer → Answer → Except ChannelError Channel
  /-- The rest of `create_offer`, once there is a peer connection. -/
  offer : Channel → Answer → LocalDescription → Channel × Outcome
  setRemoteDescription : Channel → Sdp → Installed → Except ChannelError Channel
  /-- The rest of `accept_offer`, once the offer is installed. -/
  answer : Channel → LocalDescription → Channel × Outcome
  hold : Channel → IceCandidate → Channel
  give : Channel → IceCandidate → Answer → Channel × Outcome
  transmit : Channel → Bytes → Channel
  shut : Channel → String → Channel

/-- The calls with the checks that both backends make, in the order in which they make them. -/
def Parts.call {Channel : Type} (parts : Parts Channel) (self : Channel) :
    Call → Channel × Outcome
  | .createOffer servers opened channel described =>
      if parts.closed self then (self, .failed .closed)
      else
        match parts.ensurePc self servers opened with
        | .error error => (self, .failed error)
        | .ok self => parts.offer self channel described
  | .acceptOffer servers remote opened installed described =>
      if parts.closed self then (self, .failed .closed)
      else if remote.kind ≠ .offer then (self, .failed (expected .offer remote.kind))
      else
        match parts.ensurePc self servers opened with
        | .error error => (self, .failed error)
        | .ok self =>
            match parts.setRemoteDescription self remote installed with
            | .error error => (self, .failed error)
            | .ok self => parts.answer self described
  | .acceptAnswer remote installed =>
      if parts.closed self then (self, .failed .closed)
      else if remote.kind ≠ .answer then (self, .failed (expected .answer remote.kind))
      else if !parts.pc self then (self, .failed (.backend "accept_answer before create_offer"))
      else
        match parts.setRemoteDescription self remote installed with
        | .error error => (self, .failed error)
        | .ok self => (self, .done)
  | .addIceCandidate candidate added =>
      if parts.closed self then (self, .failed .closed)
      else if !parts.ready self || !parts.pc self then (parts.hold self candidate, .done)
      else parts.give self candidate added
  | .restartIce _ => (self, .failed .restartIceUnsupported)
  | .send frame sent =>
      if parts.closed self then (self, .failed .closed)
      else if !parts.dc self then (self, .failed notYetOpen)
      else
        match sent with
        | .error text => (self, .failed (.backend ("send: " ++ text)))
        | .ok _ => (parts.transmit self frame, .done)
  | .close reason =>
      if parts.closed self then (self, .done) else (parts.shut self reason, .done)

end Backend

end Mxdx.P2P
