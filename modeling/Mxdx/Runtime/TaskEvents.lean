import Mxdx.Client.Tail
import Mxdx.Runtime.Gate

/-! The events with which the JavaScript launcher reports a session task, and how
the types of the Rust client take them. The launcher writes the last lines of a
result as an array, the client wants a text. -/
namespace Mxdx.Runtime

open Worker (Number Value)
open Mxdx.Types (OutputStream SessionStart SessionOutput SessionResult)
open Client (decodeOutput statusText)

/-- A result before the session and the launcher are named in it. -/
structure TaskResult where
  status : String
  exitCode : Int
  error : Option String
  durationSeconds : Int
  tail : List String
  timedOut : Option Bool
deriving DecidableEq

/-- The events that the launcher posts for a task. -/
inductive Post where
  | start (startedAt : UInt64)
  | output (stream : OutputStream) (line : String) (seq timestamp : UInt64)
  | result (report : TaskResult)
deriving DecidableEq

/-- A whole number as `JSON.stringify` writes it. -/
def number (n : Int) : Value :=
  .num (if 0 ≤ n then .posInt (UInt64.ofNat n.toNat) else .negInt (Int64.ofInt n))

/-- The name of a stream on the wire. -/
def streamText : OutputStream → String
  | .stdout => "stdout"
  | .stderr => "stderr"

namespace Post

/-- The type of an event. -/
def eventType : Post → String
  | start _ => "org.mxdx.session.start"
  | output _ _ _ _ => "org.mxdx.session.output"
  | result _ => "org.mxdx.session.result"

/-- The fields in their order. An undefined uuid is no field. -/
def fields (uuid : Option Value) (userId : String) (post : Post) : List (String × Value) :=
  (uuid.map (("session_uuid", ·))).toList ++ ("worker_id", .str userId) ::
    match post with
    | start startedAt =>
        [("tmux_session", .null), ("pid", .null), ("started_at", .num (.posInt startedAt))]
    | output stream line seq timestamp =>
        [("stream", .str (streamText stream)), ("data", .str (Base64.encode (asBytes line))),
          ("encoding", .str "base64"), ("seq", .num (.posInt seq)),
          ("timestamp", .num (.posInt timestamp))]
    | result report =>
        [("status", .str report.status), ("exit_code", number report.exitCode)] ++
          (report.error.map fun error => ("error", .str error)).toList ++
          [("duration_seconds", number report.durationSeconds),
            ("tail", .arr (report.tail.map .str))] ++
          (report.timedOut.map fun timedOut => ("timed_out", .bool timedOut)).toList

/-- The content of an event. -/
def content (uuid : Option Value) (userId : String) (post : Post) : Value :=
  .obj (post.fields uuid userId)

end Post

/-- A line of output with what is told of it. -/
structure OutputLine where
  stream : OutputStream
  line : String
  timestamp : UInt64
  isSent : Bool

/-- How `executeCommand` ends: the exit code of the process, if it has one. -/
structure Ending where
  code : Option Int
  timedOut : Bool

/-- A task that ran out of time counts as killed. -/
def Ending.exitCode (ending : Ending) : Int := if ending.timedOut then 137 else ending.code.getD 1

/-- What a task meets with while it is handled. Times are in milliseconds; an error
is the message of an exception. A line is not sent again, and neither is the last
result, which reports a refusal or an error. -/
structure TaskRun where
  startTime : UInt64
  startSent : Except String Unit
  lines : List OutputLine
  executed : Except String Ending
  endTime : UInt64
  resultSent : Except String Unit
  lastSent : Bool

/-- Only the last lines are kept. -/
def trackTail (tailLines : List String) (line : String) (maxLines : Nat) : List String :=
  let pushed := tailLines ++ [line]
  if maxLines < pushed.length then pushed.tail else pushed

namespace TaskRun

variable (run : TaskRun)

/-- The clock may have been set back. -/
def durationSeconds : Int := ((run.endTime.toNat : Int) - run.startTime.toNat) / 1000

/-- The last lines of both streams together. -/
def tailLines : List String :=
  run.lines.foldl (fun tailLines line => trackTail tailLines line.line 10) []

/-- The last result, if the homeserver takes it. -/
def failed (error : String) (durationSeconds : Int) (tail : List String) : List Post :=
  if run.lastSent then
    [.result ⟨"failed", 1, some error, durationSeconds, tail, none⟩]
  else []

/-- Both streams count in one sequence. -/
def outputs : UInt64 → List OutputLine → List Post
  | _, [] => []
  | seqNum, line :: rest =>
      let posts := outputs (seqNum + 1) rest
      if line.isSent then .output line.stream line.line (seqNum + 1) line.timestamp :: posts
      else posts

/-- The result of a task that has run. -/
def completed (ending : Ending) : TaskResult :=
  ⟨if ending.exitCode = 0 then "success" else "failed", ending.exitCode, none,
    run.durationSeconds, run.tailLines, some ending.timedOut⟩

/-- What an admitted task posts. A process that cannot be spawned has no output. The
outputs are not awaited, so that in the room one may stand behind the result. -/
def executionPosts : List Post :=
  match run.startSent with
  | .error error => run.failed error run.durationSeconds []
  | .ok _ =>
      .start (run.startTime / 1000) ::
        match run.executed with
        | .error error => run.failed error run.durationSeconds []
        | .ok ending =>
            outputs 0 run.lines ++
              match run.resultSent with
              | .error error => run.failed error run.durationSeconds run.tailLines
              | .ok _ => [.result (run.completed ending)]

end TaskRun

/-- The check of a task that is not interactive. -/
def Host.admitTask (host : Host) (task : SessionTask) : Except Refusal Launch :=
  host.admitCommand ((task.bin.filter (· ≠ "")).or task.command) task.args task.cwd

/-- The session events of a task that come into the room. An interactive session
has none of them. -/
def Host.taskPosts (host : Host) (task : SessionTask) (run : TaskRun) : List Post :=
  if task.interactive then []
  else
    match host.admitTask task with
    | .error (.result error) => run.failed error 0 []
    | .error .rejected => []
    | .ok _ => run.executionPosts

section Reading

variable {uuid : Option Value} {userId : String}

/-- The Rust type of the event reads it, and finds in it what the launcher wrote. -/
def Post.Readable (uuid : Option Value) (userId : String) (post : Post) : Prop :=
  match post with
  | .start startedAt => ∃ start, SessionStart.fromValue (post.content uuid userId) = some start ∧
      uuid = some (.str start.sessionUuid) ∧ start.startedAt = startedAt
  | .output stream line seq _ =>
      ∃ output, SessionOutput.fromValue (post.content uuid userId) = some output ∧
        uuid = some (.str output.sessionUuid) ∧ output.stream = stream ∧ output.seq = seq ∧
        decodeOutput output = some (asBytes line)
  | .result report => ∃ result, SessionResult.fromValue (post.content uuid userId) = some result ∧
      uuid = some (.str result.sessionUuid) ∧ statusText result.status = report.status ∧
      result.exitCode.map (·.toInt) = some report.exitCode

theorem readable_start (startedAt : UInt64) :
    (Post.start startedAt).Readable uuid userId ↔ ∃ session, uuid = some (.str session) := by
  constructor
  · rintro ⟨start, -, hUuid, -⟩
    exact ⟨start.sessionUuid, hUuid⟩
  · rintro ⟨session, rfl⟩
    exact ⟨⟨session, userId, none, none, startedAt, none⟩, rfl, rfl, rfl⟩

theorem readable_output (stream : OutputStream) (line : String) (seq timestamp : UInt64) :
    (Post.output stream line seq timestamp).Readable uuid userId ↔
      ∃ session, uuid = some (.str session) := by
  constructor
  · rintro ⟨output, -, hUuid, -⟩
    exact ⟨output.sessionUuid, hUuid⟩
  · rintro ⟨session, rfl⟩
    refine ⟨⟨session, userId, stream, Base64.encode (asBytes line), seq, timestamp⟩, ?_, rfl, rfl,
      rfl, Base64.decode_encode _⟩
    cases stream <;> rfl

/-- The last lines are an array, which no reader of a text takes. -/
theorem fromValue_result (report : TaskResult) :
    SessionResult.fromValue ((Post.result report).content uuid userId) = none := by
  have hTail : Json.nullable Json.asStr
      (((Post.result report).fields uuid userId).lookup "tail") = none := by
    obtain ⟨status, exitCode, error, durationSeconds, tail, timedOut⟩ := report
    cases uuid <;> cases error <;> rfl
  simp [SessionResult.fromValue, Post.content, Json.asRecord, hTail]

theorem not_readable_result (report : TaskResult) :
    ¬ (Post.result report).Readable uuid userId := by
  rintro ⟨result, hRead, -⟩
  rw [fromValue_result] at hRead
  cases hRead

end Reading

section Reported

variable {uuid : Option Value} {userId : String} {host : Host} {task : SessionTask}
  {run : TaskRun}

theorem failed_readable_iff (error : String) (durationSeconds : Int) (tail : List String) :
    (∀ post ∈ run.failed error durationSeconds tail, post.Readable uuid userId) ↔
      run.lastSent = false := by
  rw [TaskRun.failed]
  cases run.lastSent with
  | false => simp
  | true => simp [not_readable_result]

theorem outputs_readable (session : String) (seqNum : UInt64) (lines : List OutputLine) :
    ∀ post ∈ TaskRun.outputs seqNum lines, post.Readable (some (.str session)) userId := by
  induction lines generalizing seqNum with
  | nil => simp [TaskRun.outputs]
  | cons line lines ih =>
      rw [TaskRun.outputs]
      split
      · intro post hPost
        rcases List.mem_cons.mp hPost with rfl | hPost
        · exact (readable_output _ _ _ _).mpr ⟨session, rfl⟩
        · exact ih _ post hPost
      · exact ih _

/-- An admitted task is reported in full only if no result is among its events. -/
theorem executionPosts_readable_iff :
    (∀ post ∈ run.executionPosts, post.Readable uuid userId) ↔
      run.lastSent = false ∧ (run.startSent.isOk = true →
        (∃ session, uuid = some (.str session)) ∧
          ¬ (run.executed.isOk = true ∧ run.resultSent.isOk = true)) := by
  rw [TaskRun.executionPosts]
  cases run.startSent with
  | error error => simp [failed_readable_iff, Except.isOk, Except.toBool]
  | ok _ =>
      rw [List.forall_mem_cons, readable_start]
      cases run.executed with
      | error error => simp [failed_readable_iff, Except.isOk, Except.toBool, and_comm]
      | ok ending =>
          dsimp only
          rw [List.forall_mem_append]
          cases run.resultSent with
          | ok _ => simp [not_readable_result, Except.isOk, Except.toBool]
          | error error =>
              rw [failed_readable_iff]
              constructor
              · rintro ⟨hUuid, -, hLast⟩
                exact ⟨hLast, fun _ => ⟨hUuid, by simp [Except.isOk, Except.toBool]⟩⟩
              · rintro ⟨hLast, hUuid⟩
                obtain ⟨⟨session, rfl⟩, -⟩ := hUuid rfl
                exact ⟨⟨session, rfl⟩, outputs_readable session 0 run.lines, hLast⟩

theorem admitTask_ne_rejected : host.admitTask task ≠ .error .rejected := by
  simp only [Host.admitTask, Host.admitCommand]
  split_ifs <;> simp

/-- No result of the task comes into the room, and what does come is named by a text. -/
def Unreported (host : Host) (task : SessionTask) (uuid : Option Value) (run : TaskRun) : Prop :=
  task.interactive = true ∨
    run.lastSent = false ∧ ((host.admitTask task).isOk = true → run.startSent.isOk = true →
      (∃ session, uuid = some (.str session)) ∧
        ¬ (run.executed.isOk = true ∧ run.resultSent.isOk = true))

/-- The client can read all events of a task exactly if no result is among them. -/
theorem taskPosts_readable_iff (host : Host) (task : SessionTask) (uuid : Option Value)
    (run : TaskRun) :
    (∀ post ∈ host.taskPosts task run, post.Readable uuid host.userId) ↔
      Unreported host task uuid run := by
  rw [Host.taskPosts, Unreported]
  cases hInteractive : task.interactive with
  | true => simp
  | false =>
      rw [if_neg Bool.false_ne_true]
      cases hAdmitted : host.admitTask task with
      | ok launch => simp [executionPosts_readable_iff, Except.isOk, Except.toBool]
      | error refusal =>
          cases refusal with
          | result error => simp [failed_readable_iff, Except.isOk, Except.toBool]
          | rejected => exact absurd hAdmitted admitTask_ne_rejected

/-- A command that prints a line and succeeds: the client reads all but its result. -/
theorem completed_task_unread :
    let host : Host := ⟨⟨["uname"], ["/tmp"], 10⟩, none, "@launcher", 0⟩
    let task : SessionTask := ⟨some "uname", none, [], none, false⟩
    let run : TaskRun := ⟨0, .ok (), [⟨.stdout, "Linux", 0, true⟩], .ok ⟨some 0, false⟩, 0, .ok (),
      true⟩
    let report : TaskResult := ⟨"success", 0, none, 0, ["Linux"], some false⟩
    host.taskPosts task run = [.start 0, .output .stdout "Linux" 1 0, .result report] ∧
      SessionResult.fromValue ((Post.result report).content (some (.str "task")) "@launcher") =
        none ∧
      ¬ ∀ post ∈ host.taskPosts task run, post.Readable (some (.str "task")) "@launcher" := by
  intro host task run report
  have hPosts : host.taskPosts task run =
      [.start 0, .output .stdout "Linux" 1 0, .result report] := by decide
  refine ⟨hPosts, fromValue_result report, fun h => ?_⟩
  rw [hPosts] at h
  exact not_readable_result report (h _ (by simp))

end Reported

section Tail

open Client

variable {session userId : String}

/-- An event of the launcher as the client's homeserver hands it out. -/
def Post.received (session userId : String) (event : String × Post) : Value :=
  .obj [("type", .str event.2.eventType), ("event_id", .str event.1), ("sender", .str userId),
    ("content", event.2.content (some (.str session)) userId)]

/-- Whether an event ends the task. -/
def Post.isResult : Post → Bool
  | result _ => true
  | _ => false

/-- The notification that a client should have of an output. -/
def Post.shown : Post → Option Notification
  | output _ line _ _ => some (.output (asBytes line))
  | _ => none

/-- What the client makes of the event. -/
def Post.incoming (session userId : String) (event : String × Post) : IncomingClientEvent :=
  let content := event.2.content (some (.str session)) userId
  match event.2 with
  | start _ => .sessionStart event.1 session content
  | output _ _ _ _ => .sessionOutput event.1 session content
  | result _ => .sessionResult event.1 session content

theorem parseEvent_received (hSession : session ≠ "") (event : String × Post) :
    parseEvent (Post.received session userId event) =
      some (Post.incoming session userId event) := by
  obtain ⟨eventId, post⟩ := event
  cases post <;> exact if_neg hSession

/-- Following a session of the launcher, the client gets every output that comes
before a result, and it never gets the result. -/
theorem tailSession_received (hSession : session ≠ "") (seen : List String)
    (events : List (String × Post)) (hIds : (events.map Prod.fst).Nodup)
    (hSeen : ∀ event ∈ events, event.1 ∉ seen) :
    tailSession session seen
        (events.filterMap fun event => parseEvent (Post.received session userId event)) =
      (events.takeWhile fun event => !event.2.isResult).filterMap fun event => event.2.shown := by
  simp only [parseEvent_received hSession]
  rw [List.filterMap_eq_map']
  induction events generalizing seen with
  | nil => rfl
  | cons event events ih =>
      obtain ⟨eventId, post⟩ := event
      obtain ⟨hNew, hRest⟩ := List.nodup_cons.mp hIds
      obtain ⟨hUnseen, hOthers⟩ := List.forall_mem_cons.mp hSeen
      have hPass : ¬ (session ≠ session ∨ (eventId ≠ "" ∧ eventId ∈ seen)) := by
        rintro (hOther | ⟨-, hMem⟩)
        · exact hOther rfl
        · exact hUnseen hMem
      rw [List.map_cons]
      cases post with
      | start startedAt => exact ih seen hRest hOthers
      | output stream line seq timestamp =>
          rw [Post.incoming, tailSession, if_neg hPass]
          have hReadable : (Post.output stream line seq timestamp).Readable (some (.str session))
              userId := (readable_output _ _ _ _).mpr ⟨session, rfl⟩
          obtain ⟨output, hRead, -, -, -, hData⟩ := hReadable
          rw [hRead, Option.bind_some, hData]
          have hAfter : ∀ event ∈ events, event.1 ∉ eventId :: seen := by
            intro event hEvent hMem
            rcases List.mem_cons.mp hMem with hSame | hMem
            · exact hNew (List.mem_map.mpr ⟨event, hEvent, hSame⟩)
            · exact hOthers event hEvent hMem
          exact congrArg _ (ih (eventId :: seen) hRest hAfter)
      | result report =>
          rw [Post.incoming, tailSession, if_neg hPass, fromValue_result]
          rfl

end Tail

end Mxdx.Runtime
