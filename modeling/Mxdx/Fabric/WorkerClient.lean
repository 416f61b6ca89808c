import Mxdx.Fabric.ProcessWorker

/-! A worker that watches its room. `watch_and_claim` syncs twice and goes through
what the second sync brings until a claim is won; every sync takes up the events
since the sync before it, and nobody looks at them again. -/
namespace Mxdx.Fabric

open Worker (Value FailurePolicy RoutingMode asUInt64)

def TaskEvent.fieldNames : List String :=
  ["uuid", "sender_id", "required_capabilities", "estimated_cycles", "timeout_seconds",
    "heartbeat_interval_seconds", "on_timeout", "on_heartbeat_miss", "routing_mode",
    "p2p_stream", "payload", "plan"]

def TaskEvent.fromValue : Value → Option TaskEvent :=
  Json.asRecord fieldNames fieldNames.length fun field => do
    let uuid ← Json.required Json.asStr (field "uuid")
    let senderId ← Json.required Json.asStr (field "sender_id")
    let requiredCapabilities ←
      Json.required (Json.asList Json.asStr) (field "required_capabilities")
    let estimatedCycles ← Json.nullable asUInt64 (field "estimated_cycles")
    let timeoutSeconds ← Json.required asUInt64 (field "timeout_seconds")
    let heartbeatIntervalSeconds ← Json.required asUInt64 (field "heartbeat_interval_seconds")
    let onTimeout ← Json.required FailurePolicy.fromValue (field "on_timeout")
    let onHeartbeatMiss ← Json.required FailurePolicy.fromValue (field "on_heartbeat_miss")
    let routingMode ← Json.required RoutingMode.fromValue (field "routing_mode")
    let p2pStream ← Json.required Json.asBool (field "p2p_stream")
    let payload ← Json.required some (field "payload")
    let plan ← Json.nullable Json.asStr (field "plan")
    return ⟨uuid, senderId, requiredCapabilities, estimatedCycles, timeoutSeconds,
      heartbeatIntervalSeconds, onTimeout, onHeartbeatMiss, routingMode, p2pStream, payload, plan⟩

namespace WorkerClient

/-- The type of an event that posts a task. -/
def eventTask : String := "org.mxdx.fabric.task"

/-- What would become of a call of `try_claim`, and the events its sync would take up. -/
structure ClaimTurn where
  outcome : Except String Bool
  synced : List Value

/-- What one call of `watch_and_claim` meets: the events of its two syncs, the
answer for each of the second in case it is tried, and the answer to the second
claim that `run_task` makes for the task it is given. -/
structure WatchCall where
  first : Except String (List Value)
  collected : Except String (List (Value × ClaimTurn))
  run : ClaimTurn

variable (myCaps : List String)

/-- The task of an event that this worker can do. -/
def capableTask (event : Value) : Option TaskEvent :=
  if Worker.textField event "type" = eventTask then
    ((event.get? "content").bind TaskEvent.fromValue).filter fun task =>
      task.requiredCapabilities.all myCaps.contains
  else none

/-- The tasks that a scan tried to claim, with the events taken up on the way,
and what it ended with. -/
structure Scan where
  attempts : List TaskEvent
  synced : List Value
  result : Except String (Option (TaskEvent × String))

/-- The loop over the events of the second sync. -/
def scan : List (Value × ClaimTurn) → Scan
  | [] => ⟨[], [], .ok none⟩
  | (event, turn) :: rest =>
      match capableTask myCaps event with
      | none => scan rest
      | some task =>
          match turn.outcome with
          | .error error => ⟨[task], turn.synced, .error error⟩
          | .ok true =>
              ⟨[task], turn.synced, .ok (some (task, Worker.textField event "event_id"))⟩
          | .ok false =>
              let later := scan rest
              ⟨task :: later.attempts, turn.synced ++ later.synced, later.result⟩

/-- Two syncs: the events of the first are taken up, those of the second are scanned. -/
def watchAndClaim (call : WatchCall) : Scan :=
  match call.first with
  | .error error => ⟨[], [], .error error⟩
  | .ok first =>
      match call.collected with
      | .error error => ⟨[], first, .error error⟩
      | .ok collected =>
          let found := scan myCaps collected
          { found with synced := first ++ collected.map Prod.fst ++ found.synced }

/-- The events taken up by one turn of the worker: a call of `watch_and_claim`,
and `run_task` for the task it returns. -/
def arrivals (call : WatchCall) : List Value :=
  let found := watchAndClaim myCaps call
  match found.result with
  | .ok (some _) => found.synced ++ call.run.synced
  | _ => found.synced

/-- The worker tried to claim every task of the timeline that it can do. -/
def NoneSkipped (calls : List WatchCall) : Prop :=
  ∀ event ∈ calls.flatMap (arrivals myCaps), ∀ task, capableTask myCaps event = some task →
    ∃ call ∈ calls, ∃ tried ∈ (watchAndClaim myCaps call).attempts, tried.uuid = task.uuid

/-- The second sync of a call brings an event of the task, and no task before it
in the batch that the worker can do is won or ends the call. -/
def Reached (call : WatchCall) (uuid : String) : Prop :=
  ∃ first before event turn after, call.first = .ok first ∧
    call.collected = .ok (before ++ (event, turn) :: after) ∧
      (∃ task, capableTask myCaps event = some task ∧ task.uuid = uuid) ∧
        ∀ earlier ∈ before, (capableTask myCaps earlier.1).isSome = true →
          earlier.2.outcome = .ok false

variable {myCaps}

/-- A scan tries what it finds before it stops. -/
theorem mem_attempts_scan_iff {events : List (Value × ClaimTurn)} {task : TaskEvent} :
    task ∈ (scan myCaps events).attempts ↔
      ∃ before event turn after, events = before ++ (event, turn) :: after ∧
        capableTask myCaps event = some task ∧
          ∀ earlier ∈ before, (capableTask myCaps earlier.1).isSome = true →
            earlier.2.outcome = .ok false := by
  induction events with
  | nil => simp [scan]
  | cons head rest ih =>
      obtain ⟨event, turn⟩ := head
      have hTail : (∃ before other otherTurn after,
          (event, turn) :: rest = before ++ (other, otherTurn) :: after ∧
            capableTask myCaps other = some task ∧
              ∀ earlier ∈ before, (capableTask myCaps earlier.1).isSome = true →
                earlier.2.outcome = .ok false) ↔
          capableTask myCaps event = some task ∨
            ((capableTask myCaps event).isSome = true → turn.outcome = .ok false) ∧
              task ∈ (scan myCaps rest).attempts := by
        rw [ih]
        constructor
        · rintro ⟨before, other, otherTurn, after, hEvents, hTask, hBefore⟩
          cases before with
          | nil =>
              injection hEvents with hHead _
              injection hHead with hEvent _
              exact .inl (hEvent ▸ hTask)
          | cons first before =>
              injection hEvents with hHead hRest
              subst hHead
              exact .inr ⟨hBefore _ List.mem_cons_self, before, other, otherTurn, after, hRest,
                hTask, fun earlier hEarlier => hBefore earlier (List.mem_cons_of_mem _ hEarlier)⟩
        · rintro (hTask | ⟨hHead, before, other, otherTurn, after, hRest, hTask, hBefore⟩)
          · exact ⟨[], event, turn, rest, rfl, hTask, by simp⟩
          · refine ⟨(event, turn) :: before, other, otherTurn, after, by rw [hRest]; rfl, hTask, ?_⟩
            intro earlier hEarlier
            rcases List.mem_cons.mp hEarlier with rfl | hEarlier
            · exact hHead
            · exact hBefore earlier hEarlier
      rw [hTail, scan]
      cases hCapable : capableTask myCaps event with
      | none => simp
      | some found =>
          cases hOutcome : turn.outcome with
          | error error => simp [eq_comm]
          | ok won => cases won <;> simp [eq_comm]

theorem mem_attempts_iff {call : WatchCall} {uuid : String} :
    (∃ tried ∈ (watchAndClaim myCaps call).attempts, tried.uuid = uuid) ↔
      Reached myCaps call uuid := by
  unfold watchAndClaim Reached
  cases call.first with
  | error error => simp
  | ok first =>
      cases call.collected with
      | error error => simp
      | ok collected =>
          simp only [mem_attempts_scan_iff, Except.ok.injEq]
          constructor
          · rintro ⟨tried, ⟨before, event, turn, after, hEvents, hTask, hBefore⟩, hUuid⟩
            exact ⟨first, before, event, turn, after, rfl, hEvents, ⟨tried, hTask, hUuid⟩, hBefore⟩
          · rintro ⟨_, before, event, turn, after, -, hEvents, ⟨tried, hTask, hUuid⟩, hBefore⟩
            exact ⟨tried, ⟨before, event, turn, after, hEvents, hTask, hBefore⟩, hUuid⟩

/-- What the second sync brings has arrived, however far the scan goes. -/
theorem mem_arrivals {call : WatchCall} {first : List Value}
    {collected : List (Value × ClaimTurn)} {event : Value} (hFirst : call.first = .ok first)
    (hCollected : call.collected = .ok collected) (hEvent : event ∈ collected.map Prod.fst) :
    event ∈ arrivals myCaps call := by
  have hSynced : event ∈ (watchAndClaim myCaps call).synced := by
    simp only [watchAndClaim, hFirst, hCollected, List.mem_append]
    exact .inl (.inr hEvent)
  simp only [arrivals]
  split
  · exact List.mem_append_left _ hSynced
  · exact hSynced

/-- No task is skipped exactly when each has an event that a second sync brings
with nothing before it that stops the scan. -/
theorem noneSkipped_iff (myCaps : List String) (calls : List WatchCall) :
    NoneSkipped myCaps calls ↔
      ∀ event ∈ calls.flatMap (arrivals myCaps), ∀ task, capableTask myCaps event = some task →
        ∃ call ∈ calls, Reached myCaps call task.uuid := by
  simp only [NoneSkipped, mem_attempts_iff]

/-- The event of a task that anybody can do. -/
def anyTask (uuid : String) : Value :=
  .obj [("type", .str "org.mxdx.fabric.task"), ("event_id", .str ("$" ++ uuid)),
    ("content", { ProcessWorker.echoTask "echo" with uuid }.toValue)]

/-- Two tasks come with one sync, and the first of them is won. -/
def twoAtOnce : WatchCall :=
  ⟨.ok [], .ok [(anyTask "t1", ⟨.ok true, []⟩), (anyTask "t2", ⟨.ok true, []⟩)], ⟨.ok true, []⟩⟩

/-- The second task of the batch is never tried, whatever calls come after. -/
theorem not_noneSkipped : ¬ NoneSkipped [] [twoAtOnce, ⟨.ok [], .ok [], ⟨.ok true, []⟩⟩] := by
  intro h
  have hTried : ([twoAtOnce, ⟨.ok [], .ok [], ⟨.ok true, []⟩⟩].flatMap fun call =>
      (watchAndClaim [] call).attempts).map TaskEvent.uuid = ["t1"] := by
    decide +kernel
  have hArrived : anyTask "t2" ∈ arrivals [] twoAtOnce :=
    mem_arrivals rfl rfl (by simp)
  have hCapable : (capableTask [] (anyTask "t2")).map TaskEvent.uuid = some "t2" := by
    decide +kernel
  obtain ⟨task, hTask, hUuid⟩ := Option.map_eq_some_iff.mp hCapable
  obtain ⟨call, hCall, tried, hMem, hSame⟩ :=
    h (anyTask "t2") (List.mem_flatMap.mpr ⟨twoAtOnce, by simp, hArrived⟩) task hTask
  have hListed : tried.uuid ∈ ([twoAtOnce, ⟨.ok [], .ok [], ⟨.ok true, []⟩⟩].flatMap fun call =>
      (watchAndClaim [] call).attempts).map TaskEvent.uuid :=
    List.mem_map_of_mem (List.mem_flatMap.mpr ⟨call, hCall, hMem⟩)
  rw [hTried, hSame, hUuid] at hListed
  exact absurd hListed (by decide)

end WorkerClient

end Mxdx.Fabric
