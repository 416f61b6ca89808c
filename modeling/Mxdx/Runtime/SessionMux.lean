import Mxdx.Core.P2PDelivery
import Mxdx.Foundations.Base64

/-! Terminal input on its way from the transport of a client to the terminal of a
session: in frames over data channels or over Matrix, and from either through the
multiplexer of the launcher's room. -/
namespace Mxdx.Runtime

open Mxdx.Core (JsValue P2PTransport TerminalEvent TransportConfig TransportInput truthy)
open P2P (Ed25519)

/-- `JSON.parse`, the check of `seq`, and `inflateSync` up to its limit. -/
structure Libraries where
  parse : String → Option JsValue
  isCount : UInt64 → Bool
  inflate : Bytes → Option Bytes

/-- What `safeParse` makes of the content of an event, as far as it is used. -/
structure TerminalDataEvent where
  data : String
  encoding : String

/-- The type of an event with terminal data. -/
def terminalData : String := "org.mxdx.terminal.data"

section Mux

variable (libraries : Libraries)

/-- The schema of the event. -/
def TerminalDataEvent.safeParse (content : JsValue) : Option TerminalDataEvent := do
  let data ← (content.get? "data").bind Json.asStr
  let encoding ← (content.get? "encoding").bind Json.asStr
  let seq ← (content.get? "seq").bind Json.asNum
  match content.get? "session_id" with
  | none | some (.str _) => if libraries.isCount seq then return ⟨data, encoding⟩ else none
  | some _ => none

/-- The bytes that the content of an event puts on the terminal. -/
def processInput (content : JsValue) : Option Bytes := do
  let parsed ← TerminalDataEvent.safeParse libraries content
  let raw := Base64.decodeLenient parsed.data.toList
  if parsed.encoding = "zlib+base64" then libraries.inflate raw else return raw

/-- What a session on the launcher does with its input. -/
structure SessionMux where
  roomId : String
  launcherUserId : String
  sessions : List String

/-- The content of an event from Matrix; a frame is nothing but content. -/
def contentOf (event : JsValue) : JsValue :=
  match event.get? "content" with
  | some content => if truthy content then content else event
  | none => event

/-- One turn of the loop: the session that the event is for, and what it writes. -/
def SessionMux.poll (mux : SessionMux) (event : JsValue) : Option (String × Bytes) :=
  match (contentOf event).get? "session_id" with
  | some (.str sessionId) =>
      if (event.get? "sender").bind Json.asStr ≠ some mux.launcherUserId ∧ sessionId ≠ "" ∧
          sessionId ∈ mux.sessions then
        (processInput libraries (contentOf event)).map (sessionId, ·)
      else none
  | _ => none

/-- Whether a decrypted frame goes to the inbox of terminal data. A type in the
content goes before that of the frame. -/
def isInput (event : TerminalEvent) : Bool :=
  match libraries.parse event.contentJson with
  | none | some .null => false
  | some content =>
      match content.get? "type" with
      | some type =>
          if truthy type then type.asStr = some terminalData else event.type = terminalData
      | none => event.type = terminalData

end Mux

/-- An event that was written to the terminal of a session, and whether a frame
brought it. -/
structure Write where
  event : TerminalEvent
  framed : Bool
  sessionId : String
  bytes : Bytes

/-- The two ends and what is under way between them. Only events of terminal data
are followed; `passed` are all that `sendEvent` was called with, `lost` those whose
frame got lost. -/
structure TerminalLink (ed : Ed25519) where
  client : P2PTransport ed
  launcher : P2PTransport ed
  mux : SessionMux
  frames : List TerminalEvent
  matrix : List TerminalEvent
  decrypting : List TerminalEvent
  inbox : List TerminalEvent
  lost : List TerminalEvent
  passed : List TerminalEvent
  written : List Write

/-- The transports of both ends. -/
structure LinkConfig where
  client : TransportConfig
  launcher : TransportConfig
  runtime : Core.Runtime
  libraries : Libraries
  clientUserId : String

/-- Inputs of the two transports, a frame that arrives or gets lost, an encrypted
frame that is decrypted or turns out not to be for this key, and a poll that finds
something in the inbox or gets an event from Matrix. -/
inductive LinkInput (ed : Ed25519) where
  | client (input : TransportInput ed)
  | launcher (input : TransportInput ed)
  | addSession (sessionId : String)
  | removeSession (sessionId : String)
  | frame (index : Nat)
  | frameLost (index : Nat)
  | decrypted (index : Nat)
  | decryptFailed (index : Nat)
  | pollInbox
  | pollMatrix (index : Nat)

/-- Whether an event carries terminal data. -/
def isData (event : TerminalEvent) : Bool := event.type = terminalData

/-- The event that went through Matrix. -/
def mailed? : Core.Route → Option TerminalEvent
  | .matrix event => some event
  | .channel _ _ _ _ => none

/-- The events of these routes that went to a channel. -/
def framed (routed : List Core.Route) : List TerminalEvent :=
  (routed.filterMap Core.Route.framed?).filter isData

/-- The events that went to Matrix, at once or after a channel. -/
def mailed (routed : List Core.Route) (requeued : List TerminalEvent) : List TerminalEvent :=
  (routed.filterMap mailed? ++ requeued).filter isData

namespace TerminalLink

variable {ed : Ed25519}

def new (context : Core.HandshakeContext) (hasCrypto : Bool) (mux : SessionMux) :
    TerminalLink ed where
  client := P2PTransport.new context hasCrypto
  launcher := P2PTransport.new context hasCrypto
  mux
  frames := []
  matrix := []
  decrypting := []
  inbox := []
  lost := []
  passed := []
  written := []

section Steps

variable (config : LinkConfig)

/-- The event of a call of `sendEvent` with terminal data. -/
def call (client : P2PTransport ed) : TransportInput ed → List TerminalEvent
  | .sendEvent roomId type contentJson =>
      [⟨client.calls, roomId, type, contentJson⟩].filter isData
  | _ => []

/-- What the client sends goes on its way. -/
def clientStep (link : TerminalLink ed) (input : TransportInput ed) : TerminalLink ed :=
  let client := link.client.step config.client config.runtime input
  let routed := client.routed.drop link.client.routed.length
  { link with
    client
    passed := link.passed ++ call link.client input
    frames := link.frames ++ framed routed
    matrix := link.matrix ++ mailed routed (client.requeued.drop link.client.requeued.length) }

/-- Input reaches the process, or is dropped. -/
def write (link : TerminalLink ed) (event : TerminalEvent) (framed : Bool)
    (value : Option JsValue) : TerminalLink ed :=
  match value.bind (link.mux.poll config.libraries) with
  | some (sessionId, bytes) =>
      { link with written := link.written ++ [⟨event, framed, sessionId, bytes⟩] }
  | none => link

/-- An event as Matrix hands it on. -/
def matrixEvent (event : TerminalEvent) : Option JsValue :=
  (config.libraries.parse event.contentJson).map fun content =>
    .obj [("type", .str event.type), ("sender", .str config.clientUserId), ("content", content)]

/-- Both ends go on, in any order. -/
def step (link : TerminalLink ed) : LinkInput ed → TerminalLink ed
  | .client input => link.clientStep config input
  | .launcher input =>
      { link with launcher := link.launcher.step config.launcher config.runtime input }
  | .addSession sessionId =>
      { link with mux := { link.mux with sessions := sessionId :: link.mux.sessions } }
  | .removeSession sessionId =>
      { link with
        mux := { link.mux with sessions := link.mux.sessions.filter (· ≠ sessionId) } }
  | .frame index =>
      match link.frames[index]? with
      | some event =>
          let arrived :=
            { link with
              frames := link.frames.eraseIdx index
              launcher := link.launcher.touch config.launcher }
          if link.launcher.peerVerified && link.launcher.hasCrypto then
            { arrived with decrypting := link.decrypting ++ [event] }
          else { arrived with lost := link.lost ++ [event] }
      | none => link
  | .frameLost index =>
      match link.frames[index]? with
      | some event =>
          { link with frames := link.frames.eraseIdx index, lost := link.lost ++ [event] }
      | none => link
  | .decrypted index =>
      match link.decrypting[index]? with
      | some event =>
          if isInput config.libraries event then
            { link with
              decrypting := link.decrypting.eraseIdx index, inbox := link.inbox ++ [event] }
          else
            { link with
              decrypting := link.decrypting.eraseIdx index, lost := link.lost ++ [event] }
      | none => link
  | .decryptFailed index =>
      match link.decrypting[index]? with
      | some event =>
          { link with
            decrypting := link.decrypting.eraseIdx index, lost := link.lost ++ [event] }
      | none => link
  | .pollInbox =>
      match link.inbox with
      | event :: inbox =>
          { link with inbox }.write config event true (config.libraries.parse event.contentJson)
      | [] => link
  | .pollMatrix index =>
      match link.matrix[index]? with
      | some event =>
          if event.roomId = link.mux.roomId then
            { link with matrix := link.matrix.eraseIdx index }.write config event false
              (matrixEvent config event)
          else link
      | none => link

end Steps

end TerminalLink

end Mxdx.Runtime
