import Mxdx.Worker.Task

/-! The events of a session in its thread, read from their content by the rules
of a derived deserializer. -/
namespace Mxdx.Types

open Worker (Number Value asUInt64 asUnitVariant)

/-- A `u32` of serde: any number that is whole, not negative, and fits. -/
def asUInt32 (value : Value) : Option UInt32 :=
  match asUInt64 value with
  | some number => if number ≤ 4294967295 then some number.toUInt32 else none
  | none => none

/-- An `i32` of serde, from either sign. -/
def asInt32 (value : Value) : Option Int32 :=
  match value.asNum with
  | some (.posInt number) =>
      if number ≤ 2147483647 then some (Int32.ofNat number.toNat) else none
  | some (.negInt number) => if -2147483648 ≤ number then some number.toInt32 else none
  | _ => none

/-- Which of the two streams of the process a line came from. -/
inductive OutputStream where
  | stdout
  | stderr
deriving DecidableEq

/-- The names are in lower case on the wire. -/
def OutputStream.fromValue : Value → Option OutputStream :=
  asUnitVariant [("stdout", .stdout), ("stderr", .stderr)]

/-- How a session came to its end. -/
inductive SessionStatus where
  | success
  | failed
  | timeout
  | cancelled
deriving DecidableEq

/-- The names are in lower case on the wire. -/
def SessionStatus.fromValue : Value → Option SessionStatus :=
  asUnitVariant [("success", .success), ("failed", .failed), ("timeout", .timeout),
    ("cancelled", .cancelled)]

/-- The event that opens the thread of a session. -/
structure SessionStart where
  sessionUuid : String
  workerId : String
  tmuxSession : Option String
  pid : Option UInt32
  startedAt : UInt64
  dmRoomId : Option String
deriving DecidableEq

/-- A sequence may do without the room, which has a default. -/
def SessionStart.fromValue : Value → Option SessionStart :=
  Json.asRecord ["session_uuid", "worker_id", "tmux_session", "pid", "started_at", "dm_room_id"] 5
    fun field => do
      let sessionUuid ← Json.required Json.asStr (field "session_uuid")
      let workerId ← Json.required Json.asStr (field "worker_id")
      let tmuxSession ← Json.nullable Json.asStr (field "tmux_session")
      let pid ← Json.nullable asUInt32 (field "pid")
      let startedAt ← Json.required asUInt64 (field "started_at")
      let dmRoomId ← Json.nullable Json.asStr (field "dm_room_id")
      return ⟨sessionUuid, workerId, tmuxSession, pid, startedAt, dmRoomId⟩

/-- A piece of output with its number in the session. -/
structure SessionOutput where
  sessionUuid : String
  workerId : String
  stream : OutputStream
  data : String
  seq : UInt64
  timestamp : UInt64
deriving DecidableEq

/-- No field has a default: a piece without its number is no piece. -/
def SessionOutput.fromValue : Value → Option SessionOutput :=
  Json.asRecord ["session_uuid", "worker_id", "stream", "data", "seq", "timestamp"] 6
    fun field => do
      let sessionUuid ← Json.required Json.asStr (field "session_uuid")
      let workerId ← Json.required Json.asStr (field "worker_id")
      let stream ← Json.required OutputStream.fromValue (field "stream")
      let data ← Json.required Json.asStr (field "data")
      let seq ← Json.required asUInt64 (field "seq")
      let timestamp ← Json.required asUInt64 (field "timestamp")
      return ⟨sessionUuid, workerId, stream, data, seq, timestamp⟩

/-- The event that ends the thread of a session. -/
structure SessionResult where
  sessionUuid : String
  workerId : String
  status : SessionStatus
  exitCode : Option Int32
  durationSeconds : UInt64
  tail : Option String
deriving DecidableEq

/-- The exit code and the tail may be null, or missing. -/
def SessionResult.fromValue : Value → Option SessionResult :=
  Json.asRecord ["session_uuid", "worker_id", "status", "exit_code", "duration_seconds", "tail"] 6
    fun field => do
      let sessionUuid ← Json.required Json.asStr (field "session_uuid")
      let workerId ← Json.required Json.asStr (field "worker_id")
      let status ← Json.required SessionStatus.fromValue (field "status")
      let exitCode ← Json.nullable asInt32 (field "exit_code")
      let durationSeconds ← Json.required asUInt64 (field "duration_seconds")
      let tail ← Json.nullable Json.asStr (field "tail")
      return ⟨sessionUuid, workerId, status, exitCode, durationSeconds, tail⟩

end Mxdx.Types
