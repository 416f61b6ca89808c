import Mxdx.Basic
import Mxdx.Foundations.Base64
import Mxdx.Types.Session

/-! How the daemon follows a session: which events of the worker's room it hands
on, and what it tells its client about them. An event that cannot be read is
passed over, but a result ends the tail whether it can be read or not. -/
namespace Mxdx.Client

open Mxdx.Types (SessionStatus SessionOutput SessionResult)
open Worker (Value textField)

/-- An event of the exec room, as far as the client knows its kind. -/
inductive IncomingClientEvent where
  | sessionStart (eventId sessionUuid : String) (content : Value)
  | sessionOutput (eventId sessionUuid : String) (content : Value)
  | sessionHeartbeat (eventId sessionUuid : String) (content : Value)
  | sessionResult (eventId sessionUuid : String) (content : Value)

/-- One round of the loop in `sync_events`. -/
def parseEvent (raw : Value) : Option IncomingClientEvent :=
  let eventId := textField raw "event_id"
  let content := (raw.get? "content").getD .null
  let sessionUuid := textField content "session_uuid"
  if sessionUuid = "" then none
  else
    match textField raw "type" with
    | "org.mxdx.session.start" => some (.sessionStart eventId sessionUuid content)
    | "org.mxdx.session.output" => some (.sessionOutput eventId sessionUuid content)
    | "org.mxdx.session.heartbeat" => some (.sessionHeartbeat eventId sessionUuid content)
    | "org.mxdx.session.result" => some (.sessionResult eventId sessionUuid content)
    | _ => none

def decodeOutput (output : SessionOutput) : Option Bytes := Base64.decode output.data

/-- The name that a status has in the text of a result. -/
def statusText : SessionStatus → String
  | .success => "success"
  | .failed => "failed"
  | .timeout => "timeout"
  | .cancelled => "cancelled"

/-- The line that a result is printed as, with Rust's own spelling of an option. -/
def formatResult (result : SessionResult) : String :=
  let exitCode := result.exitCode.elim "None" fun code => "Some(" ++ toString code.toInt ++ ")"
  "Session " ++ result.sessionUuid ++ " " ++ statusText result.status ++ ": exit_code=" ++
    exitCode ++ ", duration=" ++ toString result.durationSeconds.toNat ++ "s"

/-- A notification to the client, with the bytes that an output is the text of. -/
inductive Notification where
  | output (data : Bytes)
  | result (exitCode : Option Int32) (status : String) (tail : Option String)
deriving DecidableEq

/-- The loop of `tail_session`; `seen` are the ids of earlier events. -/
def tailSession (uuid : String) : List String → List IncomingClientEvent → List Notification
  | _, [] => []
  | seen, .sessionOutput eventId sessionUuid content :: rest =>
      if sessionUuid ≠ uuid ∨ (eventId ≠ "" ∧ eventId ∈ seen) then tailSession uuid seen rest
      else
        match (SessionOutput.fromValue content).bind decodeOutput with
        | some data => .output data :: tailSession uuid (eventId :: seen) rest
        | none => tailSession uuid (eventId :: seen) rest
  | seen, .sessionResult eventId sessionUuid content :: rest =>
      if sessionUuid ≠ uuid ∨ (eventId ≠ "" ∧ eventId ∈ seen) then tailSession uuid seen rest
      else
        match SessionResult.fromValue content with
        | some result => [.result result.exitCode (formatResult result) result.tail]
        | none => []
  | seen, _ :: rest => tailSession uuid seen rest

end Mxdx.Client
