import Mxdx.Worker.Task

/-! Tasks of the fabric and what becomes of one that fails: `apply_policy` posts
a message about it, or makes a copy of it for another attempt. The copy carries
its attempt number in its payload. -/
namespace Mxdx.Worker

def ofUInt64 (number : UInt64) : Value := .num (.posInt number)

def RoutingMode.toValue : RoutingMode → Value
  | direct => .str "direct"
  | brokered => .str "brokered"
  | auto => .str "auto"

def FailurePolicy.toValue : FailurePolicy → Value
  | escalate => .str "escalate"
  | respawn maxRetries => .obj [("respawn", .obj [("max_retries", ofUInt64 maxRetries.toUInt64)])]
  | respawnWithContext => .str "respawn_with_context"
  | abandon => .str "abandon"

/-- The policy makes a copy of a task as long as its attempt is below this. -/
def FailurePolicy.retryLimit : FailurePolicy → UInt8
  | respawn maxRetries => maxRetries
  | respawnWithContext => 3
  | escalate | abandon => 0

end Mxdx.Worker

namespace Mxdx.Fabric

open Worker (Value FailurePolicy RoutingMode asUInt64 ofUInt64)

/-- A task as it was posted. -/
structure TaskEvent where
  uuid : String
  senderId : String
  requiredCapabilities : List String
  estimatedCycles : Option UInt64
  timeoutSeconds : UInt64
  heartbeatIntervalSeconds : UInt64
  onTimeout : FailurePolicy
  onHeartbeatMiss : FailurePolicy
  routingMode : RoutingMode
  p2pStream : Bool
  payload : Value
  plan : Option String

/-- The answers of the Matrix client to the calls of one handler. -/
structure Client where
  isUserId : String → Bool
  createNamedEncryptedRoom : (name topic : String) → Except String String
  inviteUser : (roomId userId : String) → Except String Unit
  sendEvent : (roomId : String) → Value → Except String Unit

/-- What is known of a task that has failed. -/
structure FailureContext where
  task : TaskEvent
  reason : String
  attempt : UInt8
  lastProgress : Option String

namespace TaskEvent

def toValue (task : TaskEvent) : Value :=
  .obj [
    ("uuid", .str task.uuid),
    ("sender_id", .str task.senderId),
    ("required_capabilities", .arr (task.requiredCapabilities.map .str)),
    ("estimated_cycles", task.estimatedCycles.elim .null ofUInt64),
    ("timeout_seconds", ofUInt64 task.timeoutSeconds),
    ("heartbeat_interval_seconds", ofUInt64 task.heartbeatIntervalSeconds),
    ("on_timeout", task.onTimeout.toValue),
    ("on_heartbeat_miss", task.onHeartbeatMiss.toValue),
    ("routing_mode", task.routingMode.toValue),
    ("p2p_stream", .bool task.p2pStream),
    ("payload", task.payload),
    ("plan", task.plan.elim .null .str)]

/-- The number under `attempt` in the payload. -/
def payloadAttempt (task : TaskEvent) : Option UInt64 :=
  (task.payload.get? "attempt").bind asUInt64

/-- How many copies either policy may be asked for. -/
def retryLimit (task : TaskEvent) : Nat :=
  max task.onTimeout.retryLimit.toNat task.onHeartbeatMiss.retryLimit.toNat

end TaskEvent

/-- Whatever is no object is given up for one. -/
def putAttempt (attempt : UInt8) : Value → Value
  | .obj fields =>
      .obj (("attempt", ofUInt64 attempt.toUInt64) :: fields.filter (·.1 ≠ "attempt"))
  | _ => .obj [("attempt", ofUInt64 attempt.toUInt64)]

/-- A text for people to read. -/
def sendPlainMessage (client : Client) (roomId body : String) : Except String Unit :=
  client.sendEvent roomId (.obj [
    ("type", .str "m.room.message"),
    ("content", .obj [("msgtype", .str "m.text"), ("body", .str body)])])

namespace FailureContext

/-- What both kinds of respawning do to the task. -/
def retry (ctx : FailureContext) : TaskEvent :=
  let newAttempt := ctx.attempt + 1
  { ctx.task with
    payload := putAttempt newAttempt ctx.task.payload
    uuid := ctx.task.uuid ++ "-retry-" ++ toString newAttempt }

/-- The plan tells the next worker what has happened before. -/
def retryWithContext (ctx : FailureContext) : TaskEvent :=
  let originalPlan := ctx.task.plan.getD "(no plan)"
  { ctx.retry with
    plan := some ("Previous attempt failed: " ++ ctx.reason ++ ". Last progress: " ++
      ctx.lastProgress.getD "none" ++ ". Original plan: " ++ originalPlan) }

/-- The text that asks for help. -/
def escalation (ctx : FailureContext) : String :=
  "⚠️ Task " ++ ctx.task.uuid ++ " stalled: " ++ ctx.reason ++ ". Plan: " ++
    ctx.task.plan.getD "(no plan)" ++ ". Last progress: " ++ ctx.lastProgress.getD "none"

/-- The text that gives the task up. -/
def abandonment (ctx : FailureContext) : String :=
  "❌ Task " ++ ctx.task.uuid ++ " abandoned: " ++ ctx.reason

end FailureContext

/-- Somebody is asked for help. -/
def escalate (ctx : FailureContext) (client : Client) (roomId : String) : Except String Unit :=
  sendPlainMessage client roomId ctx.escalation

/-- The copy for another attempt, or none once a message is posted. -/
def applyPolicy (policy : FailurePolicy) (ctx : FailureContext) (client : Client)
    (roomId : String) : Except String (Option TaskEvent) :=
  match policy with
  | .escalate => do
      escalate ctx client roomId
      return none
  | .respawn maxRetries =>
      if ctx.attempt < maxRetries then return some ctx.retry
      else do
        escalate ctx client roomId
        return none
  | .respawnWithContext =>
      if ctx.attempt < 3 then return some ctx.retryWithContext
      else do
        escalate ctx client roomId
        return none
  | .abandon => do
      sendPlainMessage client roomId ctx.abandonment
      return none

/-- The copy that a policy makes as long as it makes any. -/
def copyFor (policy : FailurePolicy) (ctx : FailureContext) : TaskEvent :=
  match policy with
  | .respawnWithContext => ctx.retryWithContext
  | _ => ctx.retry

section Policies

variable {policy : FailurePolicy} {ctx : FailureContext} {client : Client} {roomId : String}

theorem applyPolicy_of_lt (h : ctx.attempt < policy.retryLimit) :
    applyPolicy policy ctx client roomId = .ok (some (copyFor policy ctx)) := by
  cases policy with
  | escalate => exact absurd h UInt8.not_lt_zero
  | respawn maxRetries => exact if_pos h
  | respawnWithContext => exact if_pos h
  | abandon => exact absurd h UInt8.not_lt_zero

/-- Out of attempts, a task is never copied. -/
theorem applyPolicy_of_not_lt (h : ¬ ctx.attempt < policy.retryLimit) {copy : TaskEvent} :
    applyPolicy policy ctx client roomId ≠ .ok (some copy) := by
  have hNotice : ∀ sent : Except String Unit,
      (do sent; return none : Except String (Option TaskEvent)) ≠ .ok (some copy) := by
    intro sent
    cases sent with
    | error text => exact fun hEq => by cases hEq
    | ok => exact fun hEq => by cases hEq
  cases policy with
  | escalate => exact hNotice _
  | respawn maxRetries =>
      have hLimit : ¬ ctx.attempt < maxRetries := h
      rw [applyPolicy, if_neg hLimit]
      exact hNotice _
  | respawnWithContext =>
      have hLimit : ¬ ctx.attempt < 3 := h
      rw [applyPolicy, if_neg hLimit]
      exact hNotice _
  | abandon => exact hNotice _

theorem applyPolicy_eq_some_iff {copy : TaskEvent} :
    applyPolicy policy ctx client roomId = .ok (some copy) ↔
      ctx.attempt < policy.retryLimit ∧ copy = copyFor policy ctx := by
  by_cases hLimit : ctx.attempt < policy.retryLimit
  · rw [applyPolicy_of_lt hLimit, and_iff_right hLimit, Except.ok.injEq, Option.some.injEq]
    exact eq_comm
  · exact iff_of_false (applyPolicy_of_not_lt hLimit) fun h => hLimit h.1

@[simp] theorem copyFor_onTimeout : (copyFor policy ctx).onTimeout = ctx.task.onTimeout := by
  cases policy <;> rfl

@[simp] theorem copyFor_onHeartbeatMiss :
    (copyFor policy ctx).onHeartbeatMiss = ctx.task.onHeartbeatMiss := by
  cases policy <;> rfl

theorem payload_copyFor :
    (copyFor policy ctx).payload = putAttempt (ctx.attempt + 1) ctx.task.payload := by
  cases policy <;> rfl

theorem get?_putAttempt (attempt : UInt8) (payload : Value) :
    (putAttempt attempt payload).get? "attempt" = some (ofUInt64 attempt.toUInt64) := by
  cases payload <;> rfl

/-- A copy carries the attempt it is for. -/
@[simp] theorem payloadAttempt_copyFor :
    (copyFor policy ctx).payloadAttempt = some (ctx.attempt + 1).toUInt64 := by
  rw [TaskEvent.payloadAttempt, payload_copyFor, get?_putAttempt]
  rfl

/-- Below a limit there is room for one more. -/
theorem toNat_succ_attempt {limit : UInt8} (h : ctx.attempt < limit) :
    (ctx.attempt + 1).toNat = ctx.attempt.toNat + 1 := by
  have hLimit := UInt8.lt_iff_toNat_lt.mp h
  have hBound := limit.toNat_lt
  rw [UInt8.toNat_add, UInt8.toNat_one, Nat.mod_eq_of_lt (by omega)]

end Policies

end Mxdx.Fabric
