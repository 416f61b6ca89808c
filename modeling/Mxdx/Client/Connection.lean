import Mxdx.Client.Handler
import Mxdx.Foundations.Automaton
import Mxdx.Foundations.Lines
import Mxdx.Foundations.SharedLines

/-! The connection of a client to the daemon. One task reads the client's lines and answers
them one by one; another writes the notifications of the sessions that are tailed. Both
write to one stream, on the socket under a lock, on the standard output without one. -/
namespace Mxdx.Client.Daemon

open Automaton
open Protocol (IncomingMessage Notification RequestId fromText intValue parseError toText
  recursionLimit)
open SharedLines (Stream)
open Worker (FloatText Text Value numerals trim)
open JsonText (Writable)

/-- What the task that tails a session sends. -/
inductive Notice where
  | output (uuid data : String)
  | result (uuid : String) (exitCode : Option Int32) (status : String) (tail : Option String)
deriving DecidableEq

/-- A notification about a session names it. -/
def Notice.toValue : Notice → Value
  | output uuid data =>
      (Notification.new "session.output"
        (some (.obj [("uuid", .str uuid), ("data", .str data)]))).toValue
  | result uuid exitCode status tail =>
      (Notification.new "session.result"
        (some (.obj [("uuid", .str uuid), ("exit_code", exitCode.elim .null (intValue ·.toInt)),
          ("status", .str status), ("tail", tail.elim .null .str)]))).toValue

/-- The task that answers, and the task that forwards notifications. -/
inductive Writer where
  | replies
  | notifications
deriving DecidableEq

/-- A reply under the id of its request. -/
abbrev Reply := RequestId × Answer

/-- A reply on its line, without the newline. -/
def replyText (floats : FloatText) (reply : Reply) : Text :=
  toText floats (reply.2.toValue reply.1)

/-- A notification on its line, without the newline. -/
def noticeText (floats : FloatText) (notice : Notice) : Text := toText floats notice.toValue

/-- One line of the client; none where the daemon panics over it. -/
def serveLine (floats : FloatText) (sink : Sink) (world : World) (handler : Handler) (line : Text) :
    Option (Handler × Option Reply) :=
  let trimmed := trim line
  if trimmed = [] then some (handler, none)
  else
    match IncomingMessage.parse floats trimmed with
    | some (.request request) =>
        (handler.handleRequest world sink request).map fun handled =>
          (handled.handler, some (request.id, handled.answer))
    | some (.notification _) => some (handler, none)
    | none =>
        some (handler, some (.number 0, .error ⟨parseError, "invalid JSON: " ++ world.jsonError⟩))

/-- The id under which a line is answered, if it is. -/
def answeredId (floats : FloatText) (line : Text) : Option RequestId :=
  let trimmed := trim line
  if trimmed = [] then none
  else
    match IncomingMessage.parse floats trimmed with
    | some (.request request) => some request.id
    | some (.notification _) => none
    | none => some (.number 0)

/-- `lines` have not been read yet. Once the reading task has come to the end, the other
task is aborted, in the middle of a line if need be. Beside them stand the lines that were
served, the replies and notices given to the writing tasks, and who holds the lock. -/
structure Connection where
  handler : Handler
  lines : List Text
  stream : Stream Writer
  lock : Option Writer
  ended : Bool
  aborted : Bool
  served : List Text
  replies : List Reply
  notices : List Notice

/-- On the socket a line is written in as many writes as it takes, on the standard output
in two. `elsewhere` is what the requests of other clients make of the daemon. -/
inductive ConnectionEvent where
  | read (world : World)
  | notify (notice : Notice)
  | acquire (writer : Writer)
  | write (writer : Writer)
  | advance (writer : Writer) (count : Nat)
  | finish (writer : Writer)
  | elsewhere (handler : Handler)

namespace Connection

variable (floats : FloatText) (sink : Sink)

/-- A connection whose input is known in advance, line by line. -/
def start (handler : Handler) (input : Text) : Connection :=
  ⟨handler, Lines.splitInclusive input, .new, none, false, false, [], [], []⟩

/-- The reply to the last line has been written. -/
def answered (connection : Connection) : Bool :=
  (connection.stream.queue .replies).isEmpty && (connection.stream.pending .replies).isNone

/-- A turn of the loop that reads. -/
def read (world : World) (connection : Connection) : Connection :=
  if connection.ended || !connection.answered then connection
  else
    match connection.lines with
    | [] => { connection with ended := true, aborted := true }
    | line :: lines =>
        match serveLine floats sink world connection.handler line with
        | none => { connection with ended := true }
        | some (handler, none) =>
            { connection with
              handler := handler
              lines := lines
              served := connection.served ++ [line] }
        | some (handler, some reply) =>
            { connection with
              handler := handler
              lines := lines
              stream := connection.stream.push .replies (replyText floats reply)
              served := connection.served ++ [line]
              replies := connection.replies ++ [reply] }

/-- The daemon has something to tell the client. -/
def notify (notice : Notice) (connection : Connection) : Connection :=
  { connection with
    stream := connection.stream.push .notifications (noticeText floats notice)
    notices := connection.notices ++ [notice] }

/-- The task is still there. -/
def alive (connection : Connection) : Writer → Bool
  | .replies => true
  | .notifications => !connection.aborted

end Connection

section Transports

variable (floats : FloatText) (sink : Sink)

/-- Behind a notification that ends a line there is no second line feed. -/
def unixEnding : Writer → Text → Text
  | .replies, _ => ['\n']
  | .notifications, text => if text.getLast? = some '\n' then [] else ['\n']

/-- `handle_client` on the socket: who writes holds the lock. -/
def handleClient (connection : Connection) : ConnectionEvent → Connection
  | .read world => connection.read floats sink world
  | .notify notice => connection.notify floats notice
  | .acquire writer =>
      if connection.lock = none ∧ connection.stream.queue writer ≠ [] ∧
          connection.alive writer = true then
        { connection with lock := some writer }
      else connection
  | .write writer =>
      if connection.lock = some writer ∧ connection.alive writer = true then
        { connection with stream := connection.stream.start (unixEnding writer) writer }
      else connection
  | .advance writer count =>
      if connection.lock = some writer ∧ connection.stream.pending writer ≠ none ∧
          connection.alive writer = true then
        let stream := connection.stream.advance writer count
        { connection with
          stream
          lock := if stream.pending writer = none then none else some writer }
      else connection
  | .finish _ => connection
  | .elsewhere handler => { connection with handler := handler }

/-- `serve_stdio` on the standard output: there is no lock. -/
def serveStdio (connection : Connection) : ConnectionEvent → Connection
  | .read world => connection.read floats sink world
  | .notify notice => connection.notify floats notice
  | .acquire _ => connection
  | .write writer =>
      if connection.alive writer = true then
        { connection with stream := connection.stream.write (fun _ => ['\n']) writer }
      else connection
  | .advance _ _ => connection
  | .finish writer =>
      if connection.alive writer = true then
        { connection with stream := connection.stream.finish writer }
      else connection
  | .elsewhere handler => { connection with handler := handler }

end Transports

/-- What a client makes of a line: it passes over blank ones; the inner none stands for
what is no JSON. -/
def readLine (floats : FloatText) (line : Text) : Option (Option Value) :=
  let trimmed := trim line
  if trimmed = [] then none else some (fromText floats trimmed)

/-- What a client that reads line by line gets. -/
def received (floats : FloatText) (out : Text) : List (Option Value) :=
  (Lines.splitInclusive out).filterMap (readLine floats)

end Mxdx.Client.Daemon
