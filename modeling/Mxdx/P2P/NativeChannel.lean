import Mxdx.P2P.Backend

/-! The backend on libdatachannel. Its callbacks come from threads of the library; the first
local description they bring is handed to the call that waits for it. -/
namespace Mxdx.P2P.Backend

open Automaton

/-- A candidate as libdatachannel has it: the index of the media line is not part of it. -/
structure RawCandidate where
  candidate : String
  mid : String
deriving DecidableEq, Repr

/-- The states libdatachannel gives to a peer connection. -/
inductive ConnectionState where
  | new
  | connecting
  | connected
  | disconnected
  | failed
  | closed
deriving DecidableEq, Repr

/-- The name a state has in the texts of events. -/
def ConnectionState.debug : ConnectionState → String
  | .new => "New"
  | .connecting => "Connecting"
  | .connected => "Connected"
  | .disconnected => "Disconnected"
  | .failed => "Failed"
  | .closed => "Closed"

/-- The states libdatachannel gives to its ICE agent. -/
inductive IceState where
  | new
  | checking
  | connected
  | completed
  | failed
  | disconnected
  | closed
deriving DecidableEq, Repr

/-- What the channel keeps between its calls, with the queue to its consumer and all that
was asked of the library. -/
structure NativeWebRtcChannel where
  pc : Bool
  dc : Bool
  /-- The first local description, once a callback has brought it. -/
  localDesc : Option SessionDescription
  /-- Whether nobody has taken the receiver of that description yet. -/
  localDescRx : Bool
  pendingCandidates : List IceCandidate
  remoteDescSet : Bool
  closed : Bool
  events : BoundedQueue ChannelEvent
  effects : List (Effect (List String) RawCandidate)
deriving DecidableEq, Repr

namespace NativeWebRtcChannel

/-- What a thread of the library may call the handlers with. -/
inductive Callback where
  | onDescription (description : SessionDescription)
  | onCandidate (candidate mid : String)
  | onConnectionStateChange (state : ConnectionState)
  | onIceStateChange (state : IceState)
  | onDataChannel
  | onOpen
  | onClosed
  | onError (err : String)
  | onMessage (msg : Bytes)

/-- Neither a peer connection nor a data channel is there before a call makes it. -/
def new : NativeWebRtcChannel where
  pc := false
  dc := false
  localDesc := none
  localDescRx := true
  pendingCandidates := []
  remoteDescSet := false
  closed := false
  events := .empty
  effects := []

/-- The URL libdatachannel is given for one URL of a server. -/
def configUrl (server : IceServer) (url : String) : Option String :=
  let text := url.toList
  let stun := "stun:".toList.isPrefixOf text
  if !stun && !"turn:".toList.isPrefixOf text && !"turns:".toList.isPrefixOf text then none
  else if stun then some url
  else
    match server.username, server.credential with
    | some user, some pass =>
        if text.contains '@' then some url
        else
          match text.span (· ≠ ':') with
          | (scheme, _ :: rest) =>
              some (String.ofList scheme ++ ":" ++ user ++ ":" ++ pass ++ "@" ++
                String.ofList rest)
          | (_, []) => some url
    | _, _ => some url

/-- Servers with a URL of another scheme are passed over, not refused. -/
def buildConfig (servers : List IceServer) : List String :=
  servers.flatMap fun server => server.urls.filterMap (configUrl server)

/-- A candidate without a media id is given to the library with an empty one. -/
def rawCandidate (candidate : IceCandidate) : RawCandidate :=
  ⟨candidate.candidate, candidate.sdpMid.getD ""⟩

/-- One more thing that is asked of the library. -/
def record (self : NativeWebRtcChannel) (effect : Effect (List String) RawCandidate) :
    NativeWebRtcChannel :=
  { self with effects := self.effects ++ [effect] }

/-- An event for the consumer, which is lost when the queue is full. -/
def push (self : NativeWebRtcChannel) (event : ChannelEvent) : NativeWebRtcChannel :=
  { self with events := emit self.events event }

/-- Only the first description is kept. -/
def onDescription (self : NativeWebRtcChannel) (description : SessionDescription) :
    NativeWebRtcChannel :=
  { self with localDesc := self.localDesc.or (some description) }

/-- The callback that the peer connection makes while a call is served. -/
def fire (self : NativeWebRtcChannel) : LocalDescription → NativeWebRtcChannel
  | .made description => self.onDescription description
  | _ => self

/-- The peer connection is made once; its servers are those of the call that made it. -/
def ensurePc (self : NativeWebRtcChannel) (servers : List IceServer) (opened : Answer) :
    Except ChannelError NativeWebRtcChannel :=
  if self.pc then .ok self
  else
    match opened with
    | .error text => .error (.iceInitFailed text)
    | .ok _ => .ok ({ self with pc := true }.record (.opened (buildConfig servers)))

/-- A candidate that is refused here is only logged. -/
def drainPendingCandidates (self : NativeWebRtcChannel) : NativeWebRtcChannel :=
  let pending := self.pendingCandidates
  let self := { self with pendingCandidates := [] }
  if self.pc then
    { self with effects := self.effects ++ pending.map fun c => .gave (rawCandidate c) }
  else self

/-- The library knows more kinds of descriptions than the protocol. -/
def fromSessionDescription (description : SessionDescription) : Except ChannelError Sdp :=
  match description.sdpType with
  | .offer => .ok ⟨.offer, description.sdp⟩
  | .answer => .ok ⟨.answer, description.sdp⟩
  | other => .error (.invalidSdp ("unsupported sdp type: " ++ other.debug))

/-- The end of `create_offer` and `accept_offer`: wait for the local description, which
must be of the kind that was asked for. -/
def awaitLocal (self : NativeWebRtcChannel) (wanted : SdpKind) (twice : String) :
    NativeWebRtcChannel × Outcome :=
  if self.localDescRx then
    let self := { self with localDescRx := false }
    match self.localDesc with
    | none => (self, .pending)
    | some description =>
        match fromSessionDescription description with
        | .error error => (self, .failed error)
        | .ok sdp =>
            if sdp.kind ≠ wanted then (self, .failed (expected wanted sdp.kind))
            else (self, .described sdp)
  else (self, .failed (.backend twice))

/-- The data channel is made before the description, so that the offer speaks of it. -/
def createOffer (self : NativeWebRtcChannel) (servers : List IceServer)
    (opened channel : Answer) (described : LocalDescription) : NativeWebRtcChannel × Outcome :=
  if self.closed then (self, .failed .closed)
  else
    match self.ensurePc servers opened with
    | .error error => (self, .failed error)
    | .ok self =>
        match channel with
        | .error text => (self, .failed (.iceInitFailed ("create_data_channel: " ++ text)))
        | .ok _ =>
            (({ self with dc := true }.record (.madeDataChannel dataChannelLabel)).fire
              described).awaitLocal .offer "create_offer called twice"

/-- Parse a remote description and give it to the peer connection. -/
def setRemoteDescription (self : NativeWebRtcChannel) (remote : Sdp) :
    Installed → Except ChannelError NativeWebRtcChannel
  | .unparsed text => .error (.invalidSdp text)
  | .refused text => .error (.invalidSdp ("set_remote_description: " ++ text))
  | .accepted =>
      .ok ({ self with remoteDescSet := true }.record (.installed remote)).drainPendingCandidates

/-- The remote description is set before the local one is waited for. -/
def acceptOffer (self : NativeWebRtcChannel) (servers : List IceServer) (remote : Sdp)
    (opened : Answer) (installed : Installed) (described : LocalDescription) :
    NativeWebRtcChannel × Outcome :=
  if self.closed then (self, .failed .closed)
  else if remote.kind ≠ .offer then (self, .failed (expected .offer remote.kind))
  else
    match self.ensurePc servers opened with
    | .error error => (self, .failed error)
    | .ok self =>
        match self.setRemoteDescription remote installed with
        | .error error => (self, .failed error)
        | .ok self => (self.fire described).awaitLocal .answer "accept_offer called twice"

/-- An answer needs a peer connection to be there already. -/
def acceptAnswer (self : NativeWebRtcChannel) (remote : Sdp) (installed : Installed) :
    NativeWebRtcChannel × Outcome :=
  if self.closed then (self, .failed .closed)
  else if remote.kind ≠ .answer then (self, .failed (expected .answer remote.kind))
  else if !self.pc then (self, .failed (.backend "accept_answer before create_offer"))
  else
    match self.setRemoteDescription remote installed with
    | .error error => (self, .failed error)
    | .ok self => (self, .done)

/-- A candidate that comes before the remote description waits for it, and counts as taken. -/
def addIceCandidate (self : NativeWebRtcChannel) (candidate : IceCandidate) (added : Answer) :
    NativeWebRtcChannel × Outcome :=
  if self.closed then (self, .failed .closed)
  else if !self.remoteDescSet || !self.pc then
    ({ self with pendingCandidates := self.pendingCandidates ++ [candidate] }, .done)
  else
    let self := self.record (.gave (rawCandidate candidate))
    match added with
    | .error text => (self, .failed (.invalidCandidate text))
    | .ok _ => (self, .done)

/-- The channel is asked to send whether or not it is open. -/
def send (self : NativeWebRtcChannel) (frame : Bytes) (sent : Answer) :
    NativeWebRtcChannel × Outcome :=
  if self.closed then (self, .failed .closed)
  else if !self.dc then (self, .failed notYetOpen)
  else
    match sent with
    | .error text => (self, .failed (.backend ("send: " ++ text)))
    | .ok _ => (self.record (.sent frame), .done)

/-- A second close does nothing, and pushes no second event. -/
def close (self : NativeWebRtcChannel) (reason : String) : NativeWebRtcChannel × Outcome :=
  if self.closed then (self, .done)
  else
    (({ self with closed := true, dc := false, pc := false }.record .closed).push
      (.closed reason), .done)

def call (self : NativeWebRtcChannel) : Call → NativeWebRtcChannel × Outcome
  | .createOffer servers opened channel described =>
      self.createOffer servers opened channel described
  | .acceptOffer servers remote opened installed described =>
      self.acceptOffer servers remote opened installed described
  | .acceptAnswer remote installed => self.acceptAnswer remote installed
  | .addIceCandidate candidate added => self.addIceCandidate candidate added
  | .restartIce _ => (self, .failed .restartIceUnsupported)
  | .send frame sent => self.send frame sent
  | .close reason => self.close reason

/-- The pieces of the backend that the calls are put together from. -/
def parts : Parts NativeWebRtcChannel where
  closed := closed
  pc := pc
  dc := dc
  ready := remoteDescSet
  ensurePc := ensurePc
  offer self channel described :=
    match channel with
    | .error text => (self, .failed (.iceInitFailed ("create_data_channel: " ++ text)))
    | .ok _ =>
        (({ self with dc := true }.record (.madeDataChannel dataChannelLabel)).fire
          described).awaitLocal .offer "create_offer called twice"
  setRemoteDescription := setRemoteDescription
  answer self described := (self.fire described).awaitLocal .answer "accept_offer called twice"
  hold self candidate := { self with pendingCandidates := self.pendingCandidates ++ [candidate] }
  give self candidate added :=
    let self := self.record (.gave (rawCandidate candidate))
    match added with
    | .error text => (self, .failed (.invalidCandidate text))
    | .ok _ => (self, .done)
  transmit self frame := self.record (.sent frame)
  shut self reason :=
    ({ self with closed := true, dc := false, pc := false }.record .closed).push (.closed reason)

/-- The calls are the ones that both backends have in common. -/
theorem call_eq (self : NativeWebRtcChannel) (request : Call) :
    self.call request = parts.call self request := by
  cases request with
  | createOffer servers opened =>
      dsimp only [call, createOffer, Parts.call, parts]
      cases self.ensurePc servers opened <;> rfl
  | acceptOffer servers remote opened installed =>
      dsimp only [call, acceptOffer, Parts.call, parts]
      cases self.ensurePc servers opened with
      | error error => rfl
      | ok next => cases hRemote : next.setRemoteDescription remote installed <;> simp [hRemote]
  | acceptAnswer remote installed =>
      dsimp only [call, acceptAnswer, Parts.call, parts]
      cases self.setRemoteDescription remote installed <;> rfl
  | _ => rfl

/-- The event a handler sends to the consumer. -/
def Callback.event : Callback → Option ChannelEvent
  | .onDescription _ | .onDataChannel => none
  | .onCandidate candidate mid => some (.localIce ⟨candidate, some mid, none⟩)
  | .onConnectionStateChange state =>
      match state with
      | .failed => some (.failure ("connection state: " ++ state.debug))
      | .closed | .disconnected => some (.closed ("connection state: " ++ state.debug))
      | .new | .connecting | .connected => none
  | .onIceStateChange state => if state = .failed then some (.failure "ICE state: Failed") else none
  | .onOpen => some .opened
  | .onClosed => some remoteClosed
  | .onError err => some (.failure ("data channel error: " ++ err))
  | .onMessage msg => some (inbound msg)

/-- The handlers of the peer connection and of the data channel. -/
def callback (self : NativeWebRtcChannel) (callback : Callback) : NativeWebRtcChannel :=
  match callback with
  | .onDescription description => self.onDescription description
  | .onDataChannel => { self with dc := true }
  | other => (other.event.map self.push).getD self

/-- The calls of the owner, the callbacks of the library, and the consumer, in any order. -/
def step (self : NativeWebRtcChannel) : Input Callback → NativeWebRtcChannel
  | .call request => (self.call request).1
  | .callback event => self.callback event
  | .recv => { self with events := self.events.step eventQueueDepth .pop }

end NativeWebRtcChannel

end Mxdx.P2P.Backend
