import Mxdx.P2P.Backend

/-! The backend on the browser's `RTCPeerConnection`. Whether the browser makes a candidate
of what it is given is up to the browser. -/
namespace Mxdx.P2P.Backend

/-- The dictionary that a browser's candidate is made from. -/
structure RtcIceCandidateInit where
  candidate : String
  sdpMid : Option String
  sdpMLineIndex : Option UInt16
deriving DecidableEq, Repr

/-- The states a browser gives to the ICE agent of a connection. -/
inductive RtcIceConnectionState where
  | new
  | checking
  | connected
  | completed
  | failed
  | disconnected
  | closed
deriving DecidableEq, Repr

/-- The name a state has in the texts of events. -/
def RtcIceConnectionState.debug : RtcIceConnectionState → String
  | .new => "New"
  | .checking => "Checking"
  | .connected => "Connected"
  | .completed => "Completed"
  | .failed => "Failed"
  | .disconnected => "Disconnected"
  | .closed => "Closed"

/-- What a message event of the browser carries. -/
inductive MessageData where
  | arrayBuffer (bytes : Bytes)
  | text (s : String)
  | other
deriving DecidableEq, Repr

/-- What the channel keeps between its calls, with the queue to its consumer and all that
was asked of the browser. -/
structure WasmWebRtcChannel where
  pc : Bool
  dc : Bool
  pendingCandidates : List IceCandidate
  remoteDescSet : Bool
  closed : Bool
  events : BoundedQueue ChannelEvent
  effects : List (Effect (List IceServer) RtcIceCandidateInit)
deriving DecidableEq, Repr

namespace WasmWebRtcChannel

/-- What the browser may call the handlers with. -/
inductive Callback where
  | onIceCandidate (candidate : Option IceCandidate)
  | onIceConnectionStateChange (state : RtcIceConnectionState)
  | onDataChannel
  | onOpen
  | onClose
  | onError (msg : String)
  | onMessage (data : MessageData)

/-- Neither a peer connection nor a data channel is there before a call makes it. -/
def new : WasmWebRtcChannel where
  pc := false
  dc := false
  pendingCandidates := []
  remoteDescSet := false
  closed := false
  events := .empty
  effects := []

/-- The index of the media line is cut to the width a browser takes. -/
def candidateInit (candidate : IceCandidate) : RtcIceCandidateInit :=
  ⟨candidate.candidate, candidate.sdpMid, candidate.sdpMlineIndex.map UInt16.ofNat⟩

/-- One more thing that is asked of the browser. -/
def record (self : WasmWebRtcChannel) (effect : Effect (List IceServer) RtcIceCandidateInit) :
    WasmWebRtcChannel :=
  { self with effects := self.effects ++ [effect] }

/-- An event for the consumer, which is lost when the queue is full. -/
def push (self : WasmWebRtcChannel) (event : ChannelEvent) : WasmWebRtcChannel :=
  { self with events := emit self.events event }

/-- The peer connection is made once; its servers are those of the call that made it. -/
def ensurePc (self : WasmWebRtcChannel) (servers : List IceServer) (opened : Answer) :
    Except ChannelError WasmWebRtcChannel :=
  if self.pc then .ok self
  else
    match opened with
    | .error text => .error (.iceInitFailed text)
    | .ok _ => .ok ({ self with pc := true }.record (.opened servers))

/-- The browser makes an offer or an answer, and takes it as its local description. -/
def describe (self : WasmWebRtcChannel) (kind : SdpKind) (name create : String) :
    LocalDescription → WasmWebRtcChannel × Outcome
  | .refused text => (self, .failed (.iceInitFailed (create ++ ": " ++ text)))
  | .blank => (self, .failed (.invalidSdp (name ++ " has no sdp field")))
  | .unsettable text => (self, .failed (.iceInitFailed ("setLocalDescription: " ++ text)))
  | .made description => (self, .described ⟨kind, description.sdp⟩)

/-- The data channel is made before the description, so that the offer speaks of it. -/
def createOffer (self : WasmWebRtcChannel) (servers : List IceServer) (opened : Answer)
    (described : LocalDescription) : WasmWebRtcChannel × Outcome :=
  if self.closed then (self, .failed .closed)
  else
    match self.ensurePc servers opened with
    | .error error => (self, .failed error)
    | .ok self =>
        ({ self with dc := true }.record (.madeDataChannel dataChannelLabel)).describe .offer
          "offer" "createOffer" described

/-- The event a handler sends to the consumer. -/
def Callback.event : Callback → Option ChannelEvent
  | .onIceCandidate candidate => candidate.map .localIce
  | .onIceConnectionStateChange state =>
      match state with
      | .failed => some (.failure "ICE connection state: failed")
      | .closed | .disconnected => some (.closed ("ICE connection state: " ++ state.debug))
      | .new | .checking | .connected | .completed => none
  | .onDataChannel => none
  | .onOpen => some .opened
  | .onClose => some remoteClosed
  | .onError msg => some (.failure ("data channel error: " ++ msg))
  | .onMessage (.arrayBuffer bytes) => some (inbound bytes)
  | .onMessage (.text s) => some (inbound (asBytes s))
  | .onMessage .other => none

/-- The handlers of a data channel that comes in are wired, the channel itself is not stored. -/
def callback (self : WasmWebRtcChannel) (callback : Callback) : WasmWebRtcChannel :=
  (callback.event.map self.push).getD self

section Candidates

variable (builds : RtcIceCandidateInit → Answer)

/-- The browser's candidate, or nothing where the browser makes none. -/
def rtcIceCandidate (candidate : IceCandidate) : Option RtcIceCandidateInit :=
  match builds (candidateInit candidate) with
  | .ok _ => some (candidateInit candidate)
  | .error _ => none

/-- What becomes of a candidate here is not looked at. -/
def drainPendingCandidates (self : WasmWebRtcChannel) : WasmWebRtcChannel :=
  let pending := self.pendingCandidates
  let self := { self with pendingCandidates := [] }
  if self.pc then
    { self with
      effects := self.effects ++ (pending.filterMap (rtcIceCandidate builds)).map .gave }
  else self

/-- A browser parses a description and takes it in one go. -/
def setRemoteDescription (self : WasmWebRtcChannel) (remote : Sdp) :
    Installed → Except ChannelError WasmWebRtcChannel
  | .unparsed text | .refused text => .error (.invalidSdp ("setRemoteDescription: " ++ text))
  | .accepted =>
      .ok (({ self with remoteDescSet := true }.record (.installed remote)).drainPendingCandidates
        builds)

/-- The remote description is set before the local one is made. -/
def acceptOffer (self : WasmWebRtcChannel) (servers : List IceServer) (remote : Sdp)
    (opened : Answer) (installed : Installed) (described : LocalDescription) :
    WasmWebRtcChannel × Outcome :=
  if self.closed then (self, .failed .closed)
  else if remote.kind ≠ .offer then (self, .failed (expected .offer remote.kind))
  else
    match self.ensurePc servers opened with
    | .error error => (self, .failed error)
    | .ok self =>
        match self.setRemoteDescription builds remote installed with
        | .error error => (self, .failed error)
        | .ok self => self.describe .answer "answer" "createAnswer" described

/-- An answer needs a peer connection to be there already. -/
def acceptAnswer (self : WasmWebRtcChannel) (remote : Sdp) (installed : Installed) :
    WasmWebRtcChannel × Outcome :=
  if self.closed then (self, .failed .closed)
  else if remote.kind ≠ .answer then (self, .failed (expected .answer remote.kind))
  else if !self.pc then (self, .failed (.backend "accept_answer before create_offer"))
  else
    match self.setRemoteDescription builds remote installed with
    | .error error => (self, .failed error)
    | .ok self => (self, .done)

/-- A candidate that comes before the remote description waits for it, and counts as taken. -/
def addIceCandidate (self : WasmWebRtcChannel) (candidate : IceCandidate) (added : Answer) :
    WasmWebRtcChannel × Outcome :=
  if self.closed then (self, .failed .closed)
  else if !self.remoteDescSet || !self.pc then
    ({ self with pendingCandidates := self.pendingCandidates ++ [candidate] }, .done)
  else
    match builds (candidateInit candidate) with
    | .error text => (self, .failed (.invalidCandidate text))
    | .ok _ =>
        let self := self.record (.gave (candidateInit candidate))
        match added with
        | .error text => (self, .failed (.invalidCandidate text))
        | .ok _ => (self, .done)

/-- A frame goes out on the data channel that `create_offer` made; the one that the other
side opened is not kept. -/
def send (self : WasmWebRtcChannel) (frame : Bytes) (sent : Answer) :
    WasmWebRtcChannel × Outcome :=
  if self.closed then (self, .failed .closed)
  else if !self.dc then (self, .failed notYetOpen)
  else
    match sent with
    | .error text => (self, .failed (.backend ("send: " ++ text)))
    | .ok _ => (self.record (.sent frame), .done)

/-- A second close does nothing, and pushes no second event. -/
def close (self : WasmWebRtcChannel) (reason : String) : WasmWebRtcChannel × Outcome :=
  if self.closed then (self, .done)
  else
    (({ self with closed := true, dc := false, pc := false }.record .closed).push
      (.closed reason), .done)

def call (self : WasmWebRtcChannel) : Call → WasmWebRtcChannel × Outcome
  | .createOffer servers opened _ described => self.createOffer servers opened described
  | .acceptOffer servers remote opened installed described =>
      self.acceptOffer builds servers remote opened installed described
  | .acceptAnswer remote installed => self.acceptAnswer builds remote installed
  | .addIceCandidate candidate added => self.addIceCandidate builds candidate added
  | .restartIce _ => (self, .failed .restartIceUnsupported)
  | .send frame sent => self.send frame sent
  | .close reason => self.close reason

/-- The pieces of the backend that the calls are put together from. -/
def parts : Parts WasmWebRtcChannel where
  closed := closed
  pc := pc
  dc := dc
  ready := remoteDescSet
  ensurePc := ensurePc
  offer self _ described :=
    ({ self with dc := true }.record (.madeDataChannel dataChannelLabel)).describe .offer
      "offer" "createOffer" described
  setRemoteDescription := setRemoteDescription builds
  answer self described := self.describe .answer "answer" "createAnswer" described
  hold self candidate := { self with pendingCandidates := self.pendingCandidates ++ [candidate] }
  give self candidate added :=
    match builds (candidateInit candidate) with
    | .error text => (self, .failed (.invalidCandidate text))
    | .ok _ =>
        let self := self.record (.gave (candidateInit candidate))
        match added with
        | .error text => (self, .failed (.invalidCandidate text))
        | .ok _ => (self, .done)
  transmit self frame := self.record (.sent frame)
  shut self reason :=
    ({ self with closed := true, dc := false, pc := false }.record .closed).push (.closed reason)

/-- The calls are the ones that both backends have in common. -/
theorem call_eq (self : WasmWebRtcChannel) (request : Call) :
    self.call builds request = (parts builds).call self request := by
  cases request with
  | createOffer servers opened =>
      dsimp only [call, createOffer, Parts.call, parts]
      cases self.ensurePc servers opened <;> rfl
  | acceptOffer servers remote opened installed =>
      dsimp only [call, acceptOffer, Parts.call, parts]
      cases self.ensurePc servers opened with
      | error error => rfl
      | ok next =>
          cases hRemote : next.setRemoteDescription builds remote installed <;> simp [hRemote]
  | acceptAnswer remote installed =>
      dsimp only [call, acceptAnswer, Parts.call, parts]
      cases self.setRemoteDescription builds remote installed <;> rfl
  | _ => rfl

/-- The calls of the owner, the callbacks of the browser, and the consumer, in any order. -/
def step (self : WasmWebRtcChannel) : Input Callback → WasmWebRtcChannel
  | .call request => (self.call builds request).1
  | .callback event => self.callback event
  | .recv => { self with events := self.events.step eventQueueDepth .pop }

end Candidates

end WasmWebRtcChannel

end Mxdx.P2P.Backend
