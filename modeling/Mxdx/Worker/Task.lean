import Mxdx.Foundations.Json
import Mathlib.Data.List.Basic

/-! Events of the worker's room. `sync_events` sorts raw events by type and
hands on their content; `SessionTask` is read from the content by the rules of
a derived deserializer. -/
namespace Mxdx.Worker

/-- A JSON number: unsigned, negative, or a float given by its bits. -/
inductive Number where
  | posInt (value : UInt64)
  | negInt (value : Int64)
  | float (bits : UInt64)
deriving DecidableEq

/-- A value of `serde_json`. -/
abbrev Value := Json Number

/-- A `u64` of serde: any number that is whole and not negative. -/
def asUInt64 (value : Value) : Option UInt64 :=
  match value.asNum with
  | some (.posInt number) => some number
  | _ => none

/-- A `u8` of serde: any number that is whole, not negative, and fits. -/
def asUInt8 (value : Value) : Option UInt8 :=
  match asUInt64 value with
  | some number => if number ≤ 255 then some number.toUInt8 else none
  | none => none

/-- How a task gets to its worker. -/
inductive RoutingMode where
  | direct
  | brokered
  | auto
deriving DecidableEq

/-- What becomes of a task that fails. -/
inductive FailurePolicy where
  | escalate
  | respawn (maxRetries : UInt8)
  | respawnWithContext
  | abandon
deriving DecidableEq

/-- A variant without data: its name, or an object that maps it to null. -/
def asUnitVariant {α : Type} (variants : List (String × α)) : Value → Option α
  | .str name => variants.lookup name
  | .obj [(name, .null)] => variants.lookup name
  | _ => none

/-- The names are in lower case on the wire. -/
def RoutingMode.fromValue : Value → Option RoutingMode :=
  asUnitVariant [("direct", .direct), ("brokered", .brokered), ("auto", .auto)]

/-- A variant with fields takes them by name or by position. -/
def FailurePolicy.fromValue : Value → Option FailurePolicy
  | .obj [("respawn", .arr [maxRetries])] => (asUInt8 maxRetries).map respawn
  | .obj [("respawn", .obj fields)] =>
      (Json.required asUInt8 (fields.lookup "max_retries")).map respawn
  | value =>
      asUnitVariant [("escalate", escalate), ("respawn_with_context", respawnWithContext),
        ("abandon", abandon)] value

/-- A task as a client submits it. -/
structure SessionTask where
  uuid : String
  senderId : String
  bin : String
  args : List String
  env : Option (List (String × String))
  cwd : Option String
  interactive : Bool
  noRoomOutput : Bool
  timeoutSeconds : Option UInt64
  heartbeatIntervalSeconds : UInt64
  plan : Option String
  requiredCapabilities : List String
  routingMode : Option RoutingMode
  onTimeout : Option FailurePolicy
  onHeartbeatMiss : Option FailurePolicy
deriving DecidableEq

namespace SessionTask

/-- The fields of a task in their order. -/
def fieldNames : List String :=
  ["uuid", "sender_id", "bin", "args", "env", "cwd", "interactive", "no_room_output",
    "timeout_seconds", "heartbeat_interval_seconds", "plan", "required_capabilities",
    "routing_mode", "on_timeout", "on_heartbeat_miss"]

/-- A task from its fields, however they are found. -/
def fromFields (field : String → Option Value) : Option SessionTask := do
  let uuid ← Json.required Json.asStr (field "uuid")
  let senderId ← Json.required Json.asStr (field "sender_id")
  let bin ← Json.required Json.asStr (field "bin")
  let args ← Json.required (Json.asList Json.asStr) (field "args")
  let env ← Json.nullable (Json.asMap Json.asStr) (field "env")
  let cwd ← Json.nullable Json.asStr (field "cwd")
  let interactive ← Json.defaulted Json.asBool false (field "interactive")
  let noRoomOutput ← Json.defaulted Json.asBool false (field "no_room_output")
  let timeoutSeconds ← Json.nullable asUInt64 (field "timeout_seconds")
  let heartbeatIntervalSeconds ←
    Json.defaulted asUInt64 30 (field "heartbeat_interval_seconds")
  let plan ← Json.nullable Json.asStr (field "plan")
  let requiredCapabilities ←
    Json.defaulted (Json.asList Json.asStr) [] (field "required_capabilities")
  let routingMode ← Json.nullable RoutingMode.fromValue (field "routing_mode")
  let onTimeout ← Json.nullable FailurePolicy.fromValue (field "on_timeout")
  let onHeartbeatMiss ← Json.nullable FailurePolicy.fromValue (field "on_heartbeat_miss")
  return ⟨uuid, senderId, bin, args, env, cwd, interactive, noRoomOutput, timeoutSeconds,
    heartbeatIntervalSeconds, plan, requiredCapabilities, routingMode, onTimeout,
    onHeartbeatMiss⟩

/-- The derived deserializer takes a map by name, unknown names ignored, or a
sequence that has every field in its place. -/
def fromValue : Value → Option SessionTask
  | .obj fields => fromFields fun name => fields.lookup name
  | .arr elems =>
      if elems.length = fieldNames.length then
        fromFields fun name => (fieldNames.zip elems).lookup name
      else none
  | _ => none

end SessionTask

/-- What the main loop gets to see of a room event. -/
inductive IncomingEvent where
  | taskSubmission (eventId : String) (content : Value)
  | sessionInput (sessionUuid : String) (content : Value)
  | sessionSignal (sessionUuid : String) (content : Value)
  | sessionResize (sessionUuid : String) (content : Value)
  | sessionCancel (sessionUuid : String) (content : Value)

/-- A text field, empty where it is missing or no text. -/
def textField (value : Value) (name : String) : String :=
  ((value.get? name).bind Json.asStr).getD ""

/-- One round of the loop in `sync_events`. -/
def parseEvent (event : Value) : Option IncomingEvent :=
  let content := (event.get? "content").getD (.obj [])
  match textField event "type" with
  | "org.mxdx.session.task" => some (.taskSubmission (textField event "event_id") content)
  | "org.mxdx.session.input" =>
      some (.sessionInput (textField content "session_uuid") content)
  | "org.mxdx.session.signal" =>
      some (.sessionSignal (textField content "session_uuid") content)
  | "org.mxdx.session.resize" =>
      some (.sessionResize (textField content "session_uuid") content)
  | "org.mxdx.session.cancel" =>
      some (.sessionCancel (textField content "session_uuid") content)
  | _ => none

/-- The homeserver's `sender` of a raw event; no part of an `IncomingEvent`. -/
def matrixSender (event : Value) : Option String :=
  (event.get? "sender").bind Json.asStr

end Mxdx.Worker
