import Mxdx.Client.Protocol
import Mxdx.Client.Sessions
import Mxdx.Client.Subscriptions

/-! How the daemon answers a request. What a request meets outside of the daemon, the
clock, the Matrix connection and the worker's room, comes with the request. -/
namespace Mxdx.Client.Daemon

open Mxdx.Types (asUInt32)
open Protocol (RequestId Request Response ErrorResponse Carried intValue invalidParams
  internalError matrixUnavailable methodNotFound sessionNotFound)
open Worker (FloatText SessionTask Value asUInt64 numerals)
open JsonText (Writable)

/-- `matrix` tells whether the connection stands. -/
structure Handler where
  sessions : SessionTracker
  subscriptions : SubscriptionRegistry
  profileName : String
  lastActivityMs : UInt64
  matrix : Bool

/-- Why a request is not served, as its response tells it. -/
structure Failure where
  code : Int32
  message : String
deriving DecidableEq

/-- A result or an error. -/
abbrev Answer := Except Failure Value

/-- What comes of a task in the worker's room. -/
inductive Submission where
  | noTelemetry
  | notLive (detail : String)
  | failed (error : String)
  | submitted (uuid : String)

/-- `jsonError` is the text for JSON that cannot be read; `connects` tells whether the
connection comes up while a request waits for it. -/
structure World where
  nowMs : UInt64
  uptimeSeconds : UInt64
  jsonError : String
  connects : Bool
  senderId : String
  submission : Submission
  posted : Except String Unit

/-- An event sent to the worker's room. -/
inductive Posted where
  | task (task : SessionTask)
  | signal (sessionUuid signal : String)
  | cancel (sessionUuid : String)

/-- `tailed` is the session that a task is spawned to tail. -/
structure Handled where
  handler : Handler
  answer : Answer
  posted : List Posted
  tailed : Option String

section Params

/-- A `u16` of serde: any number that is whole, not negative, and fits. -/
def asUInt16 (value : Value) : Option UInt16 :=
  match asUInt64 value with
  | some number => if number ≤ 65535 then some number.toUInt16 else none
  | none => none

/-- A task that the daemon is to hand to a worker. -/
structure SessionRunParams where
  bin : String
  args : List String
  cwd : Option String
  env : Option (List (String × String))
  interactive : Bool
  noRoomOutput : Bool
  timeoutSeconds : Option UInt64
  heartbeatInterval : Option UInt64
  workerRoom : Option String
  detach : Bool
deriving DecidableEq

/-- Only the program has to be there. -/
def SessionRunParams.fromValue : Value → Option SessionRunParams :=
  Json.asRecord ["bin", "args", "cwd", "env", "interactive", "no_room_output", "timeout_seconds",
    "heartbeat_interval", "worker_room", "detach"] 1 fun field => do
      let bin ← Json.required Json.asStr (field "bin")
      let args ← Json.defaulted (Json.asList Json.asStr) [] (field "args")
      let cwd ← Json.nullable Json.asStr (field "cwd")
      let env ← Json.nullable (Json.asMap Json.asStr) (field "env")
      let interactive ← Json.defaulted Json.asBool false (field "interactive")
      let noRoomOutput ← Json.defaulted Json.asBool false (field "no_room_output")
      let timeoutSeconds ← Json.nullable asUInt64 (field "timeout_seconds")
      let heartbeatInterval ← Json.nullable asUInt64 (field "heartbeat_interval")
      let workerRoom ← Json.nullable Json.asStr (field "worker_room")
      let detach ← Json.defaulted Json.asBool false (field "detach")
      return ⟨bin, args, cwd, env, interactive, noRoomOutput, timeoutSeconds, heartbeatInterval,
        workerRoom, detach⟩

/-- A session to end, with a signal where one is named. -/
structure SessionCancelParams where
  uuid : String
  signal : Option String
  workerRoom : Option String

/-- Without a signal the session is cancelled. -/
def SessionCancelParams.fromValue : Value → Option SessionCancelParams :=
  Json.asRecord ["uuid", "signal", "worker_room"] 1 fun field => do
    let uuid ← Json.required Json.asStr (field "uuid")
    let signal ← Json.nullable Json.asStr (field "signal")
    let workerRoom ← Json.nullable Json.asStr (field "worker_room")
    return ⟨uuid, signal, workerRoom⟩

/-- A session whose output is asked for. -/
structure SessionLogsParams where
  uuid : String
  follow : Bool
  workerRoom : Option String

def SessionLogsParams.fromValue : Value → Option SessionLogsParams :=
  Json.asRecord ["uuid", "follow", "worker_room"] 1 fun field => do
    let uuid ← Json.required Json.asStr (field "uuid")
    let follow ← Json.defaulted Json.asBool false (field "follow")
    let workerRoom ← Json.nullable Json.asStr (field "worker_room")
    return ⟨uuid, follow, workerRoom⟩

/-- A session to take part in. -/
structure SessionAttachParams where
  uuid : String
  interactive : Bool

def SessionAttachParams.fromValue : Value → Option SessionAttachParams :=
  Json.asRecord ["uuid", "interactive"] 1 fun field => do
    let uuid ← Json.required Json.asStr (field "uuid")
    let interactive ← Json.defaulted Json.asBool false (field "interactive")
    return ⟨uuid, interactive⟩

/-- Without any field the filter lets everything pass. -/
def EventFilter.fromValue : Value → Option EventFilter :=
  Json.asRecord ["uuid", "worker_id", "worker_room"] 0 fun field => do
    let uuid ← Json.nullable Json.asStr (field "uuid")
    let workerId ← Json.nullable Json.asStr (field "worker_id")
    let workerRoom ← Json.nullable Json.asStr (field "worker_room")
    return ⟨uuid, workerId, workerRoom⟩

/-- The kinds of events that a caller wants to hear of. -/
structure EventsSubscribeParams where
  events : List String
  filter : Option EventFilter

def EventsSubscribeParams.fromValue : Value → Option EventsSubscribeParams :=
  Json.asRecord ["events", "filter"] 1 fun field => do
    let events ← Json.required (Json.asList Json.asStr) (field "events")
    let filter ← Json.nullable EventFilter.fromValue (field "filter")
    return ⟨events, filter⟩

/-- The subscription to give up. -/
structure EventsUnsubscribeParams where
  subscriptionId : String

def EventsUnsubscribeParams.fromValue : Value → Option EventsUnsubscribeParams :=
  Json.asRecord ["subscription_id"] 1 fun field => do
    let subscriptionId ← Json.required Json.asStr (field "subscription_id")
    return ⟨subscriptionId⟩

/-- A way in that the daemon is to open. -/
structure AddTransportParams where
  type : String
  bind : Option String
  port : Option UInt16

def AddTransportParams.fromValue : Value → Option AddTransportParams :=
  Json.asRecord ["type", "bind", "port"] 1 fun field => do
    let type ← Json.required Json.asStr (field "type")
    let bind ← Json.nullable Json.asStr (field "bind")
    let port ← Json.nullable asUInt16 (field "port")
    return ⟨type, bind, port⟩

/-- A way in that the daemon is to close. -/
structure RemoveTransportParams where
  type : String
  address : Option String

def RemoveTransportParams.fromValue : Value → Option RemoveTransportParams :=
  Json.asRecord ["type", "address"] 1 fun field => do
    let type ← Json.required Json.asStr (field "type")
    let address ← Json.nullable Json.asStr (field "address")
    return ⟨type, address⟩

/-- Without params the fields have to do without values. -/
def parseParams {α : Type} (world : World) (read : Value → Option α) :
    Option Value → Except Failure α
  | some params =>
      (read params).elim (.error ⟨invalidParams, "invalid params: " ++ world.jsonError⟩) .ok
  | none =>
      (read (.obj [])).elim (.error ⟨invalidParams, "params required: " ++ world.jsonError⟩) .ok

end Params

/-- The task that is submitted for a run. -/
def buildTask (uuid senderId : String) (params : SessionRunParams) : SessionTask where
  uuid := uuid
  senderId := senderId
  bin := params.bin
  args := params.args
  env := none
  cwd := params.cwd
  interactive := params.interactive
  noRoomOutput := params.noRoomOutput
  timeoutSeconds := params.timeoutSeconds
  heartbeatIntervalSeconds := params.heartbeatInterval.getD 30
  plan := none
  requiredCapabilities := []
  routingMode := none
  onTimeout := none
  onHeartbeatMiss := none

namespace Handler

variable (handler : Handler) (world : World)

/-- A daemon that has just started, without a Matrix connection. -/
def new (profileName : String) (nowMs : UInt64) : Handler :=
  ⟨.new, .new, profileName, nowMs, false⟩

/-- Every request puts off the end of an idle daemon. -/
def touch : Handler := { handler with lastActivityMs := world.nowMs }

/-- An answer that leaves the daemon as it is. -/
def answered (answer : Answer) : Handled := ⟨handler, answer, [], none⟩

/-- A request that is refused changes nothing. -/
def failed (code : Int32) (message : String) : Handled := handler.answered (.error ⟨code, message⟩)

/-- A handler whose params have been read; params that cannot be read are answered at once. -/
def withParams {α : Type} (read : Value → Option α) (params : Option Value)
    (handle : α → Handled) : Handled :=
  match parseParams world read params with
  | .ok params => handle params
  | .error failure => handler.answered (.error failure)

/-- The sessions that have not completed. -/
def activeCount : Nat := handler.sessions.sessions.entries.countP fun entry => !entry.2.completed

/-- The count is cut to a `u32`. -/
def handleDaemonStatus : Handled :=
  handler.answered (.ok (.obj [("uptime_seconds", .num (.posInt world.uptimeSeconds)),
    ("profile", .str handler.profileName), ("connected_clients", intValue 0),
    ("active_sessions", intValue (handler.activeCount % 2 ^ 32 : Nat)), ("transports", .arr []),
    ("matrix_status", .str (if handler.matrix then "connected" else "disconnected")),
    ("accounts", .arr [])]))

/-- The answer goes out; that the daemon ends is for its main loop to see to. -/
def handleDaemonShutdown : Handled :=
  handler.answered (.ok (.obj [("status", .str "shutting_down")]))

/-- The connection, after the request has waited for it. -/
def connected : Bool := handler.matrix || world.connects

/-- Nothing is posted and nothing tracked before the submission has gone well. -/
def handleSessionRun (params : Option Value) : Handled :=
  handler.withParams world SessionRunParams.fromValue params fun params =>
    if handler.connected world = false then
      handler.failed matrixUnavailable "Matrix connection not available after 30s"
    else
      let handler := { handler with matrix := true }
      match world.submission with
      | .noTelemetry =>
          handler.failed internalError "No worker telemetry found — has the worker started?"
      | .notLive detail =>
          handler.failed internalError ("No live worker available: " ++ detail)
      | .failed error => handler.failed internalError ("failed to submit task: " ++ error)
      | .submitted uuid =>
          { handler :=
              { handler with
                sessions := handler.sessions.track uuid (params.workerRoom.getD "default") }
            answer := .ok (.obj [("uuid", .str uuid), ("status", .str "submitted")])
            posted := [.task (buildTask uuid world.senderId params)]
            tailed := if params.detach then none else some uuid }

/-- A signal completes the session, too, as far as the daemon knows. -/
def handleSessionCancel (params : Option Value) : Handled :=
  handler.withParams world SessionCancelParams.fromValue params fun params =>
    if handler.connected world = false then
      handler.failed matrixUnavailable "Matrix connection not available"
    else
      let handler := { handler with matrix := true }
      match world.posted with
      | .error error =>
          handler.failed internalError
            ((if params.signal.isSome then "failed to send signal: " else
              "failed to send cancel: ") ++ error)
      | .ok () =>
          { handler := { handler with sessions := handler.sessions.complete params.uuid }
            answer := .ok (.obj [("status", .str "cancelled"), ("uuid", .str params.uuid)])
            posted := [params.signal.elim (.cancel params.uuid) (.signal params.uuid)]
            tailed := none }

/-- The sessions that are tracked, also those that have ended. -/
def handleSessionLs : Handled :=
  handler.answered (.ok (.obj [("sessions",
    .arr (handler.sessions.sessions.keys.map .str))]))

/-- A session without output cannot be told from one that is not there. -/
def handleSessionLogs (params : Option Value) : Handled :=
  handler.withParams world SessionLogsParams.fromValue params fun params =>
    let output := handler.sessions.bufferedOutput params.uuid
    if output = [] then
      handler.failed sessionNotFound ("session " ++ params.uuid ++ " not found or has no output")
    else handler.answered (.ok (.obj [("output", .arr (output.map .str))]))

/-- The parameters are read before the refusal. -/
def handleSessionAttach (params : Option Value) : Handled :=
  handler.withParams world SessionAttachParams.fromValue params fun _ =>
    handler.failed matrixUnavailable "Interactive attach not yet available in daemon mode"

/-- None where the subscription's number overflows: the call panics. -/
def handleEventsSubscribe (sink : Sink) (params : Option Value) : Option Handled :=
  match parseParams world EventsSubscribeParams.fromValue params with
  | .error failure => some (handler.answered (.error failure))
  | .ok params =>
      match handler.subscriptions.subscribe params.events params.filter sink with
      | (some id, subscriptions) =>
          some { handler := { handler with subscriptions := subscriptions }
                 answer := .ok (.obj [("subscription_id", .str id)])
                 posted := []
                 tailed := none }
      | (none, _) => none

/-- A subscription that is not there is no error. -/
def handleEventsUnsubscribe (params : Option Value) : Handled :=
  handler.withParams world EventsUnsubscribeParams.fromValue params fun params =>
    let (removed, subscriptions) := handler.subscriptions.unsubscribe params.subscriptionId
    { handler := { handler with subscriptions := subscriptions }
      answer := .ok (.obj [("removed", .bool removed)])
      posted := []
      tailed := none }

/-- The parameters are read before the refusal. -/
def handleAddTransport (params : Option Value) : Handled :=
  handler.withParams world AddTransportParams.fromValue params fun _ =>
    handler.failed internalError "Dynamic transport addition not yet implemented"

/-- The parameters are read before the refusal. -/
def handleRemoveTransport (params : Option Value) : Handled :=
  handler.withParams world RemoveTransportParams.fromValue params fun _ =>
    handler.failed internalError "Dynamic transport removal not yet implemented"

/-- The daemon keeps no list of workers. -/
def handleWorkerList : Handled := handler.answered (.ok (.obj [("workers", .arr [])]))

/-- `request.id` plays no part but to stand on the answer. -/
def handleRequest (sink : Sink) (request : Request) : Option Handled :=
  let handler := handler.touch world
  match request.method with
  | "daemon.status" => some (handler.handleDaemonStatus world)
  | "daemon.shutdown" => some handler.handleDaemonShutdown
  | "session.run" => some (handler.handleSessionRun world request.params)
  | "session.cancel" | "session.signal" => some (handler.handleSessionCancel world request.params)
  | "session.ls" => some handler.handleSessionLs
  | "session.logs" => some (handler.handleSessionLogs world request.params)
  | "session.attach" => some (handler.handleSessionAttach world request.params)
  | "events.subscribe" => handler.handleEventsSubscribe world sink request.params
  | "events.unsubscribe" => some (handler.handleEventsUnsubscribe world request.params)
  | "daemon.addTransport" => some (handler.handleAddTransport world request.params)
  | "daemon.removeTransport" => some (handler.handleRemoveTransport world request.params)
  | "worker.list" => some handler.handleWorkerList
  | method => some (handler.failed methodNotFound ("unknown method: " ++ method))

end Handler

/-- The answer under the id of its request. -/
def Answer.toValue (id : RequestId) : Answer → Value
  | .ok result => (Response.new id result).toValue
  | .error failure => (ErrorResponse.new id failure.code failure.message).toValue

section Fits

variable {floats : FloatText} {handler : Handler} {world : World}

/-- A result that the answer's text can carry. -/
def Handled.Fits (floats : FloatText) (handled : Handled) : Prop :=
  ∀ result, handled.answer = .ok result → Carried floats result

/-- A result that has a text makes an answer that has one. -/
theorem fits_answered {result : Value} (h : Carried floats result) :
    (handler.answered (.ok result)).Fits floats := by
  intro other hOther
  obtain rfl := Except.ok.inj hOther
  exact h

/-- A refusal always has a text. -/
theorem fits_failed (code : Int32) (message : String) :
    (handler.failed code message).Fits floats := by
  intro result hResult
  cases hResult

/-- A handler that answers in text does so whatever its parameters were read from. -/
theorem fits_withParams {α : Type} {read : Value → Option α} {params : Option Value}
    {handle : α → Handled} (h : ∀ params, (handle params).Fits floats) :
    (handler.withParams world read params handle).Fits floats := by
  rw [Handler.withParams]
  split
  · exact h _
  · intro result hResult
    cases hResult

/-- An object with few fields, each of which is carried. -/
theorem carried_obj {fields : List (String × Value)} (hNames : (fields.map Prod.fst).Nodup)
    (h : ∀ field ∈ fields, Writable (numerals floats) 125 field.2) : Carried floats (.obj fields) :=
  .obj hNames h

theorem writable_strs {depth : Nat} (texts : List String) :
    Writable (numerals floats) (depth + 1) (.arr (texts.map .str)) := by
  refine .arr fun value hValue => ?_
  obtain ⟨text, -, rfl⟩ := List.mem_map.mp hValue
  exact .str text

theorem fits_handleDaemonStatus : (handler.handleDaemonStatus world).Fits floats := by
  refine fits_answered (carried_obj (by simp) ?_)
  simp only [List.forall_mem_cons, List.not_mem_nil, false_implies, implies_true, and_true]
  refine ⟨.num (Worker.kept_posInt floats _), .str _, Protocol.writable_intValue (by omega),
    Protocol.writable_intValue (by omega), ?_, .str _, ?_⟩
  · exact .arr (by simp)
  · exact .arr (by simp)

/-- One field, and then one more. -/
theorem carried_single {name : String} {value : Value}
    (h : Writable (numerals floats) 125 value) : Carried floats (.obj [(name, value)]) :=
  carried_obj (by simp) (by simpa using h)

theorem carried_pair {first second : String} (hNe : first ≠ second) (left right : String) :
    Carried floats (.obj [(first, .str left), (second, .str right)]) := by
  refine carried_obj (by simpa using hNe) ?_
  simp only [List.forall_mem_cons, List.not_mem_nil, false_implies, implies_true, and_true]
  exact ⟨.str left, .str right⟩

theorem fits_of_answer {handled : Handled} {result : Value} (hAnswer : handled.answer = .ok result)
    (h : Carried floats result) : handled.Fits floats := by
  intro other hOther
  rw [hAnswer] at hOther
  obtain rfl := Except.ok.inj hOther
  exact h

theorem fits_handleSessionRun (params : Option Value) :
    (handler.handleSessionRun world params).Fits floats := by
  refine fits_withParams fun params => ?_
  split
  · exact fits_failed _ _
  · cases world.submission with
    | noTelemetry => exact fits_failed _ _
    | notLive detail => exact fits_failed _ _
    | failed error => exact fits_failed _ _
    | submitted uuid => exact fits_of_answer rfl (carried_pair (by decide) uuid "submitted")

theorem fits_handleSessionCancel (params : Option Value) :
    (handler.handleSessionCancel world params).Fits floats := by
  refine fits_withParams fun params => ?_
  split
  · exact fits_failed _ _
  · cases world.posted with
    | error error => exact fits_failed _ _
    | ok _ => exact fits_of_answer rfl (carried_pair (by decide) "cancelled" params.uuid)

theorem fits_handleSessionLogs (params : Option Value) :
    (handler.handleSessionLogs world params).Fits floats := by
  refine fits_withParams fun params => ?_
  dsimp only
  split
  · exact fits_failed _ _
  · exact fits_answered (carried_single (writable_strs _))

theorem fits_handleEventsSubscribe {sink : Sink} {params : Option Value} {handled : Handled}
    (h : handler.handleEventsSubscribe world sink params = some handled) :
    handled.Fits floats := by
  rw [Handler.handleEventsSubscribe] at h
  split at h
  · obtain rfl := Option.some.inj h
    intro result hResult
    cases hResult
  · split at h
    · obtain rfl := Option.some.inj h
      exact fits_of_answer rfl (carried_single (.str _))
    · cases h

/-- Every answer of the daemon has a text that its caller can read. -/
theorem fits_handleRequest {sink : Sink} {request : Request} {handled : Handled}
    (h : handler.handleRequest world sink request = some handled) : handled.Fits floats := by
  rw [Handler.handleRequest] at h
  split at h
  · exact Option.some.inj h ▸ fits_handleDaemonStatus
  · exact Option.some.inj h ▸ fits_answered (carried_single (.str _))
  · exact Option.some.inj h ▸ fits_handleSessionRun _
  · exact Option.some.inj h ▸ fits_handleSessionCancel _
  · exact Option.some.inj h ▸ fits_handleSessionCancel _
  · exact Option.some.inj h ▸ fits_answered (carried_single (writable_strs _))
  · exact Option.some.inj h ▸ fits_handleSessionLogs _
  · exact Option.some.inj h ▸ fits_withParams fun _ => fits_failed _ _
  · exact fits_handleEventsSubscribe h
  · exact Option.some.inj h ▸ fits_withParams fun _ =>
      fits_of_answer rfl (carried_single (.bool _))
  · exact Option.some.inj h ▸ fits_withParams fun _ => fits_failed _ _
  · exact Option.some.inj h ▸ fits_withParams fun _ => fits_failed _ _
  · exact Option.some.inj h ▸ fits_answered (carried_single (.arr (by simp)))
  · exact Option.some.inj h ▸ fits_failed _ _

end Fits

end Mxdx.Client.Daemon
