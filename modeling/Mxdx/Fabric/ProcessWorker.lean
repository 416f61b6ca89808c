import Mxdx.Fabric.Failure
import Mathlib.Data.List.Count
import Mathlib.Data.List.DropRight

/-! A worker of the fabric that runs processes. `run_task` claims the task, runs
its process and posts the result; what the system answers on the way is given. -/
namespace Mxdx.Fabric

open Worker (Value)

/-- How a task came to its end. -/
inductive TaskStatus where
  | success
  | failed
  | timeout
  | cancelled
deriving DecidableEq

/-- What the sender of a task gets back. -/
structure TaskResultEvent where
  taskUuid : String
  workerId : String
  status : TaskStatus
  output : Option String
  error : Option String
  durationSeconds : Nat
deriving DecidableEq

/-- The process that a task asks for. -/
structure ProcessPayload where
  bin : String
  args : List String
  env : List (String × String)
  cwd : Option String
deriving DecidableEq

namespace ProcessPayload

def asStrings : Value → Option (List String)
  | .arr elems => some (elems.filterMap Json.asStr)
  | _ => none

def asStringMap : Value → Option (List (String × String))
  | .obj fields => some (fields.filterMap fun field => (Json.asStr field.2).map (field.1, ·))
  | _ => none

/-- Only `bin` has to be there; what is no text is left out of the rest. -/
def fromTaskPayload (payload : Value) : Option ProcessPayload :=
  ((payload.get? "bin").bind Json.asStr).map fun bin =>
    { bin
      args := ((payload.get? "args").bind asStrings).getD []
      env := ((payload.get? "env").bind asStringMap).getD []
      cwd := (payload.get? "cwd").bind Json.asStr }

end ProcessPayload

/-- How a process ended. -/
inductive ExitStatus where
  | code (number : Int32)
  | signal
deriving DecidableEq

namespace ExitStatus

/-- Only zero counts as success. -/
def success (status : ExitStatus) : Bool := status = .code 0

/-- The exit status as Rust prints it. -/
def describe : ExitStatus → String
  | .code number => toString number.toInt
  | .signal => "signal"

end ExitStatus

/-- A line of standard output, and whether the batch interval was over then. -/
structure OutputLine where
  text : String
  elapsed : Bool

/-- What the system answers on the way: the claim, the socket, the process. The
lines end where the output does, or with an error of the reader. -/
structure TaskOutcomes where
  claim : Except String Bool
  bind : (socketPath : String) → Except String Unit
  spawn : ProcessPayload → (cwd : String) → Except String Unit
  lines : List OutputLine
  wait : Except String ExitStatus
  durationSeconds : Nat

/-- What the worker sends to the room of the task. -/
inductive TaskPost where
  | streamOffer (stateKey socketPath workerId : String)
  | heartbeat (taskUuid workerId progress : String) (thread : Option String)
  | result (result : TaskResultEvent) (thread : Option String)
deriving DecidableEq

/-- Whether a post is the result of a task. -/
def TaskPost.isResultOf (uuid : String) : TaskPost → Bool
  | result posted _ => posted.taskUuid == uuid
  | _ => false

/-- Why a task was not run. -/
inductive RunError where
  | claim (error : String)
  | bind (error : String)
  | spawn (error : String)
  | wait (error : String)
deriving DecidableEq

/-- What was posted, and what `run_task` returned. -/
structure TaskRun where
  posted : List TaskPost
  returned : Except RunError Unit

namespace ProcessWorker

/-- A batch of so many bytes goes out at once. -/
def batchMaxBytes : Nat := 4096

/-- So many lines go into the result. -/
def tailLines : Nat := 50

/-- The batches that go out as heartbeats, the last one cut off by the end. -/
def batches (buffer : String) : List OutputLine → List String
  | [] => if buffer.isEmpty then [] else [buffer]
  | line :: rest =>
      let filled := buffer ++ line.text ++ "\n"
      if batchMaxBytes ≤ filled.utf8ByteSize || line.elapsed then filled :: batches "" rest
      else batches filled rest

/-- The last lines of the output. -/
def tail (lines : List OutputLine) : String :=
  String.intercalate "\n" ((lines.map OutputLine.text).rtake tailLines)

variable (workerId : String) (task : TaskEvent) (taskEventId : String) (outcomes : TaskOutcomes)

/-- Without an event there is no thread to post in. -/
def threadId : Option String := if taskEventId.isEmpty then none else some taskEventId

/-- The result of a task whose process has ended. -/
def resultOf (payload : ProcessPayload) (status : ExitStatus) : TaskResultEvent where
  taskUuid := task.uuid
  workerId
  status := if status.success then .success else .failed
  output := some (tail outcomes.lines)
  error :=
    if status.success then none else some (payload.bin ++ " exited with code " ++ status.describe)
  durationSeconds := outcomes.durationSeconds

/-- What the two ways of running a task share: the process, its output, its end. -/
def execute (payload : ProcessPayload) : TaskRun :=
  match outcomes.spawn payload (payload.cwd.getD "/tmp") with
  | .error error => ⟨[], .error (.spawn error)⟩
  | .ok () =>
      let heartbeats := (batches "" outcomes.lines).map fun batch =>
        TaskPost.heartbeat task.uuid workerId batch (threadId taskEventId)
      match outcomes.wait with
      | .error error => ⟨heartbeats, .error (.wait error)⟩
      | .ok status =>
          ⟨heartbeats ++
            [.result (resultOf workerId task outcomes payload status) (threadId taskEventId)],
            .ok ()⟩

def runTaskMatrix (payload : ProcessPayload) : TaskRun :=
  execute workerId task taskEventId outcomes payload

/-- The id of the task becomes part of a path. -/
def socketPath : String := "/tmp/mxdx-fabric-" ++ task.uuid ++ ".sock"

/-- The offer names the socket. -/
def streamOffer : TaskPost :=
  .streamOffer ("task/" ++ task.uuid ++ "/stream") (socketPath task) workerId

def runTaskP2p (payload : ProcessPayload) : TaskRun :=
  match outcomes.bind (socketPath task) with
  | .error error => ⟨[], .error (.bind error)⟩
  | .ok () =>
      let run := execute workerId task taskEventId outcomes payload
      { run with posted := streamOffer workerId task :: run.posted }

/-- Only a task that wants to hear often is streamed. -/
def useP2p : Bool := task.p2pStream && decide (task.heartbeatIntervalSeconds < 5)

/-- Nothing happens before the claim is won. -/
def runTask : TaskRun :=
  match outcomes.claim with
  | .error error => ⟨[], .error (.claim error)⟩
  | .ok false => ⟨[], .ok ()⟩
  | .ok true =>
      match ProcessPayload.fromTaskPayload task.payload with
      | none =>
          ⟨[.result ⟨task.uuid, workerId, .failed, none,
            some "task payload missing required 'bin' field", 0⟩ (threadId taskEventId)], .ok ()⟩
      | some payload =>
          if useP2p task then runTaskP2p workerId task taskEventId outcomes payload
          else runTaskMatrix workerId task taskEventId outcomes payload

/-- One result was posted for the task, and a success only for a process that
ran and exited with code 0. -/
structure Answered (run : TaskRun) (task : TaskEvent) (outcomes : TaskOutcomes) : Prop where
  once : run.posted.countP (TaskPost.isResultOf task.uuid) = 1
  honest : ∀ result thread, .result result thread ∈ run.posted → result.status = .success →
    ∃ payload, ProcessPayload.fromTaskPayload task.payload = some payload ∧
      outcomes.spawn payload (payload.cwd.getD "/tmp") = .ok () ∧
        outcomes.wait = .ok (.code 0)

/-- Where the task has a process, its socket is bound if it needs one, the
process starts and the wait for it succeeds. -/
def RunsThrough (task : TaskEvent) (outcomes : TaskOutcomes) : Prop :=
  ∀ payload, ProcessPayload.fromTaskPayload task.payload = some payload →
    (useP2p task = true → (outcomes.bind (socketPath task)).isOk = true) ∧
      (outcomes.spawn payload (payload.cwd.getD "/tmp")).isOk = true ∧
        outcomes.wait.isOk = true

variable {task outcomes}

theorem countP_heartbeats (uuid : String) (batches : List String) :
    (batches.map fun batch =>
      TaskPost.heartbeat task.uuid workerId batch (threadId taskEventId)).countP
        (TaskPost.isResultOf uuid) = 0 := by
  rw [List.countP_map, List.countP_eq_zero]
  intro batch _
  simp [TaskPost.isResultOf]

/-- Between the start of the process and its result, only heartbeats are posted. -/
theorem execute_posted {payload : ProcessPayload} {status : ExitStatus}
    (hSpawn : outcomes.spawn payload (payload.cwd.getD "/tmp") = .ok ())
    (hWait : outcomes.wait = .ok status) :
    (execute workerId task taskEventId outcomes payload).posted.countP
        (TaskPost.isResultOf task.uuid) = 1 ∧
      ∀ result thread,
        .result result thread ∈ (execute workerId task taskEventId outcomes payload).posted →
          result.status = .success → status = .code 0 := by
  simp only [execute, hSpawn, hWait]
  constructor
  · rw [List.countP_append, countP_heartbeats]
    simp [TaskPost.isResultOf, resultOf]
  · intro result thread hMem hStatus
    have hResult : result = resultOf workerId task outcomes payload status := by
      simp only [List.mem_append, List.mem_map, List.mem_singleton, reduceCtorEq, and_false,
        exists_false, false_or, TaskPost.result.injEq] at hMem
      exact hMem.1
    rw [hResult] at hStatus
    by_cases hSuccess : status = .code 0
    · exact hSuccess
    · simp [resultOf, ExitStatus.success, hSuccess] at hStatus

/-- A process that does not start, or whose end cannot be waited for, has no result. -/
theorem execute_unanswered {payload : ProcessPayload}
    (h : ¬ ((outcomes.spawn payload (payload.cwd.getD "/tmp")).isOk = true ∧
      outcomes.wait.isOk = true)) :
    (execute workerId task taskEventId outcomes payload).posted.countP
      (TaskPost.isResultOf task.uuid) = 0 := by
  unfold execute
  cases hSpawn : outcomes.spawn payload (payload.cwd.getD "/tmp") with
  | error error => rfl
  | ok started =>
      cases hWait : outcomes.wait with
      | error error => exact countP_heartbeats workerId taskEventId task.uuid _
      | ok status => simp [hSpawn, hWait, Except.isOk, Except.toBool] at h

theorem isOk_iff {ε α : Type} {result : Except ε α} :
    result.isOk = true ↔ ∃ value, result = .ok value := by
  cases result <;> simp [Except.isOk, Except.toBool]

/-- A run of the process is answered when nothing before it is a result. -/
theorem answered_execute_iff {payload : ProcessPayload} (posted : List TaskPost)
    (hPayload : ProcessPayload.fromTaskPayload task.payload = some payload)
    (hBefore : ∀ result thread, TaskPost.result result thread ∉ posted)
    (returned : Except RunError Unit) :
    Answered
        ⟨posted ++ (execute workerId task taskEventId outcomes payload).posted, returned⟩
        task outcomes ↔
      (outcomes.spawn payload (payload.cwd.getD "/tmp")).isOk = true ∧
        outcomes.wait.isOk = true := by
  have hNone : posted.countP (TaskPost.isResultOf task.uuid) = 0 := by
    rw [List.countP_eq_zero]
    intro post hPost
    cases post with
    | result result thread => exact absurd hPost (hBefore result thread)
    | _ => simp [TaskPost.isResultOf]
  constructor
  · intro h
    by_contra hFailed
    have hOnce := h.once
    rw [List.countP_append, hNone, execute_unanswered workerId taskEventId hFailed] at hOnce
    omega
  · rintro ⟨hSpawn, hWait⟩
    obtain ⟨_, hStarted⟩ := isOk_iff.mp hSpawn
    obtain ⟨status, hEnded⟩ := isOk_iff.mp hWait
    obtain ⟨hOnce, hHonest⟩ := execute_posted workerId taskEventId hStarted hEnded
    constructor
    · rw [List.countP_append, hNone, hOnce]
    · intro result thread hMem hStatus
      refine ⟨payload, hPayload, hStarted, ?_⟩
      have hRun := (List.mem_append.mp hMem).resolve_left (hBefore result thread)
      rw [hEnded, hHonest result thread hRun hStatus]

theorem answered_matrix_iff {payload : ProcessPayload}
    (hPayload : ProcessPayload.fromTaskPayload task.payload = some payload) :
    Answered (runTaskMatrix workerId task taskEventId outcomes payload) task outcomes ↔
      (outcomes.spawn payload (payload.cwd.getD "/tmp")).isOk = true ∧
        outcomes.wait.isOk = true :=
  answered_execute_iff workerId taskEventId [] hPayload (by simp) _

theorem answered_p2p_iff {payload : ProcessPayload}
    (hPayload : ProcessPayload.fromTaskPayload task.payload = some payload) :
    Answered (runTaskP2p workerId task taskEventId outcomes payload) task outcomes ↔
      (outcomes.bind (socketPath task)).isOk = true ∧
        (outcomes.spawn payload (payload.cwd.getD "/tmp")).isOk = true ∧
          outcomes.wait.isOk = true := by
  unfold runTaskP2p
  cases hBind : outcomes.bind (socketPath task) with
  | error error =>
      apply iff_of_false
      · intro h
        exact absurd h.once (by simp)
      · simp [Except.isOk, Except.toBool]
  | ok bound =>
      have hBound : (Except.ok bound : Except String Unit).isOk = true := rfl
      rw [and_iff_right hBound]
      exact answered_execute_iff workerId taskEventId [streamOffer workerId task] hPayload
        (by simp [streamOffer]) _

/-- A claimed task is answered exactly when nothing between the claim and the
result makes `run_task` return early. -/
theorem answered_iff (workerId : String) (task : TaskEvent) (taskEventId : String)
    (outcomes : TaskOutcomes) (hClaim : outcomes.claim = .ok true) :
    Answered (runTask workerId task taskEventId outcomes) task outcomes ↔
      RunsThrough task outcomes := by
  simp only [runTask, hClaim]
  cases hPayload : ProcessPayload.fromTaskPayload task.payload with
  | none =>
      apply iff_of_true
      · constructor
        · simp [TaskPost.isResultOf]
        · intro result thread hMem hStatus
          simp only [List.mem_singleton, TaskPost.result.injEq] at hMem
          rw [hMem.1] at hStatus
          cases hStatus
      · intro payload hSome
        rw [hPayload] at hSome
        cases hSome
  | some payload =>
      simp only [RunsThrough, hPayload, Option.some.injEq, forall_eq']
      by_cases hP2p : useP2p task = true
      · rw [if_pos hP2p, answered_p2p_iff workerId taskEventId hPayload]
        simp only [hP2p, true_implies]
      · rw [if_neg hP2p, answered_matrix_iff workerId taskEventId hPayload]
        simp only [hP2p, Bool.false_eq_true, false_implies, true_and]

/-- A task for a binary that is there; in the fabric's JSON it is `payload.bin`. -/
def echoTask (bin : String) : TaskEvent :=
  ⟨"t1", "@alice:example.com", [], none, 60, 30, .abandon, .abandon, .auto, false,
    .obj [("bin", .str bin)], none⟩

/-- A system on which only `echo` can be started. -/
def echoOutcomes : TaskOutcomes where
  claim := .ok true
  bind _ := .ok ()
  spawn payload _ := if payload.bin = "echo" then .ok () else .error "No such file or directory"
  lines := [⟨"hello", false⟩]
  wait := .ok (.code 0)
  durationSeconds := 1

/-- A task whose binary is missing stays claimed and without a result. -/
theorem not_answered :
    ¬ Answered (runTask "@worker:example.com" (echoTask "no-such-binary") "$task" echoOutcomes)
      (echoTask "no-such-binary") echoOutcomes := by
  intro h
  exact absurd h.once (by decide +kernel)

theorem answered_echo :
    Answered (runTask "@worker:example.com" (echoTask "echo") "$task" echoOutcomes)
      (echoTask "echo") echoOutcomes := by
  apply (answered_iff "@worker:example.com" (echoTask "echo") "$task" echoOutcomes rfl).mpr
  intro payload hPayload
  have hBin : payload.bin = "echo" := by
    rw [← Option.some.inj hPayload]
  exact ⟨fun _ => rfl, by simp [echoOutcomes, hBin, Except.isOk, Except.toBool], rfl⟩

end ProcessWorker

end Mxdx.Fabric
