import Mxdx.Fabric.ProcessWorker

/-! The two ways a worker runs a process, loop by loop. Over P2P each line is also written
to the client of the stream. Wherever that stream is lost, the room of the task sees what
it sees without one; but a write has no timeout, and a client that stops reading stops
the loop. -/
namespace Mxdx.Fabric.ProcessStream

open ProcessWorker (batchMaxBytes tailLines threadId socketPath streamOffer batches echoTask)

/-- A line of standard output, with the clock as it is read after the line for the test of
the batch timer, and as it is read when the timer is set again. -/
structure TimedLine where
  text : String
  readAt : Nat
  resetAt : Nat

/-- A process that was started. Its lines end where the output does, or with an error of the
reader; the clock is in milliseconds. -/
structure Process where
  startedAt : Nat
  lines : List TimedLine
  wait : Except String ExitStatus
  durationSeconds : Nat

/-- What the worker is answered outside the loops: by the socket, the room, the system. -/
structure Answers where
  bind : (socketPath : String) → Except String Unit
  postOffer : Except String Unit
  spawn : ProcessPayload → (cwd : String) → Except String Process
  postResult : TaskResultEvent → Except String Unit

/-- What the wait for a client of the socket comes to. -/
inductive Accept where
  | connected
  | failed (error : String)
  | timedOut

/-- The client of the stream. What becomes of a write may depend on all it was sent;
`none` is a write that is never answered, as when the client does not read. -/
structure StreamClient where
  accept : Accept
  write : (sent : List String) → (data : String) → Option (Except String Unit)

/-- Why no process was run. -/
inductive ProcessError where
  | bind (error : String)
  | offer (error : String)
  | spawn (error : String)
  | wait (error : String)
  | result (error : String)
deriving DecidableEq

/-- What was posted, and what the function returned, if it ever does. A heartbeat that
cannot be posted is logged, so the answers to heartbeats make no difference. -/
structure ProcessOutcome where
  posted : List TaskPost
  returned : Option (Except ProcessError Unit)

/-- A batch that is half a minute old goes out with the next line. -/
def batchInterval : Nat := 30000

/-- The locals of the loop of `run_task_matrix`, and what it has posted. -/
structure MatrixLoop where
  allLines : List String
  batchBuf : String
  batchTimer : Nat
  posted : List TaskPost

/-- The locals of the loop of `run_task_p2p`: the stream, while there is one, with what was
written to it. -/
structure P2pLoop where
  allLines : List String
  unixStream : Option (List String)
  batchBuf : String
  batchTimer : Nat
  posted : List TaskPost

/-- The last lines, as `tail_lines` collects them. -/
def tailOf (allLines : List String) : String :=
  String.intercalate "\n" (allLines.reverse.take tailLines).reverse

section Tasks

variable (workerId : String) (task : TaskEvent) (taskEventId : String)

/-- The lines of a batch as the progress of the task. -/
def flushHeartbeat (batch : String) : TaskPost :=
  .heartbeat task.uuid workerId batch (threadId taskEventId)

/-- A line joins the batch, which goes out when it is full or old. -/
def matrixStep (loop : MatrixLoop) (line : TimedLine) : MatrixLoop :=
  let allLines := loop.allLines ++ [line.text]
  let batchBuf := loop.batchBuf ++ line.text ++ "\n"
  if batchMaxBytes ≤ batchBuf.utf8ByteSize ∨ batchInterval ≤ line.readAt - loop.batchTimer then
    { allLines
      batchBuf := ""
      batchTimer := line.resetAt
      posted := loop.posted ++ [flushHeartbeat workerId task taskEventId batchBuf] }
  else { loop with allLines, batchBuf }

/-- The end of the process, with the last of its lines. -/
def resultEvent (payload : ProcessPayload) (process : Process) (status : ExitStatus)
    (tail : String) : TaskResultEvent where
  taskUuid := task.uuid
  workerId
  status := if status.success then .success else .failed
  output := some tail
  error :=
    if status.success then none else some (payload.bin ++ " exited with code " ++ status.describe)
  durationSeconds := process.durationSeconds

/-- The output goes through the room. -/
def runTaskMatrix (answers : Answers) (payload : ProcessPayload) : ProcessOutcome :=
  match answers.spawn payload (payload.cwd.getD "/tmp") with
  | .error error => ⟨[], some (.error (.spawn error))⟩
  | .ok process =>
      let loop := process.lines.foldl (matrixStep workerId task taskEventId)
        ⟨[], "", process.startedAt, []⟩
      let posted :=
        if loop.batchBuf.isEmpty then loop.posted
        else loop.posted ++ [flushHeartbeat workerId task taskEventId loop.batchBuf]
      match process.wait with
      | .error error => ⟨posted, some (.error (.wait error))⟩
      | .ok status =>
          let result := resultEvent workerId task payload process status (tailOf loop.allLines)
          ⟨posted ++ [.result result (threadId taskEventId)],
            some ((answers.postResult result).mapError .result)⟩

variable (client : StreamClient)

/-- A stream that fails is dropped, and the loop goes on without it. There is no answer
where the write has none. -/
def writeLine (unixStream : Option (List String)) (line : String) :
    Option (Option (List String)) :=
  match unixStream with
  | none => some none
  | some sent =>
      match client.write sent (line ++ "\n") with
      | none => none
      | some (.error _) => some none
      | some (.ok ()) => some (some (sent ++ [line ++ "\n"]))

/-- One turn of the loop; a turn that waits for its write forever leaves what was posted
so far. -/
def p2pStep (loop : P2pLoop) (line : TimedLine) : Except (List TaskPost) P2pLoop :=
  match writeLine client loop.unixStream line.text with
  | none => .error loop.posted
  | some unixStream =>
      let allLines := loop.allLines ++ [line.text]
      let batchBuf := loop.batchBuf ++ line.text ++ "\n"
      if batchMaxBytes ≤ batchBuf.utf8ByteSize ∨
          batchInterval ≤ line.readAt - loop.batchTimer then
        .ok
          { allLines
            unixStream
            batchBuf := ""
            batchTimer := line.resetAt
            posted := loop.posted ++ [flushHeartbeat workerId task taskEventId batchBuf] }
      else .ok { loop with allLines, unixStream, batchBuf }

/-- Only a client that connects in time is streamed to; the task runs without it, too. -/
def acceptStream : Option (List String) :=
  match client.accept with
  | .connected => some []
  | .failed _ => none
  | .timedOut => none

/-- The output goes through the socket, and the room hears of the end. -/
def runTaskP2p (answers : Answers) (payload : ProcessPayload) : ProcessOutcome :=
  match answers.bind (socketPath task) with
  | .error error => ⟨[], some (.error (.bind error))⟩
  | .ok () =>
      match answers.postOffer with
      | .error error => ⟨[streamOffer workerId task], some (.error (.offer error))⟩
      | .ok () =>
          match answers.spawn payload (payload.cwd.getD "/tmp") with
          | .error error => ⟨[streamOffer workerId task], some (.error (.spawn error))⟩
          | .ok process =>
              match process.lines.foldlM (p2pStep workerId task taskEventId client)
                ⟨[], acceptStream client, "", process.startedAt,
                  [streamOffer workerId task]⟩ with
              | .error posted => ⟨posted, none⟩
              | .ok loop =>
                  let posted :=
                    if loop.batchBuf.isEmpty then loop.posted
                    else loop.posted ++ [flushHeartbeat workerId task taskEventId loop.batchBuf]
                  -- the shutdown of a stream that is left comes here; its answer is dropped
                  match process.wait with
                  | .error error => ⟨posted, some (.error (.wait error))⟩
                  | .ok status =>
                      let result :=
                        resultEvent workerId task payload process status (tailOf loop.allLines)
                      ⟨posted ++ [.result result (threadId taskEventId)],
                        some ((answers.postResult result).mapError .result)⟩

end Tasks

/-- Whether a post offers the socket. -/
def isOffer : TaskPost → Bool
  | .streamOffer .. => true
  | _ => false

/-- The lines that a heartbeat carries. -/
def progress? : TaskPost → Option String
  | .heartbeat _ _ progress _ => some progress
  | _ => none

/-- The texts of the heartbeats among the posts. -/
def heartbeatTexts (posted : List TaskPost) : List String := posted.filterMap progress?

/-- The socket is bound and the offer of the stream is in the room. -/
def offered (task : TaskEvent) (answers : Answers) : Bool :=
  (answers.bind (socketPath task)).isOk && answers.postOffer.isOk

/-- The lines that are read of the process, where it starts. -/
def linesRead (answers : Answers) (payload : ProcessPayload) : List String :=
  match answers.spawn payload (payload.cwd.getD "/tmp") with
  | .error _ => []
  | .ok process => process.lines.map TimedLine.text

/-- The posts tell of every line: the heartbeats together are the lines, and the output of a
result is the last fifty of them. -/
structure Reports (lines : List String) (posted : List TaskPost) : Prop where
  heartbeats : String.join (heartbeatTexts posted) = String.join (lines.map (· ++ "\n"))
  output : ∀ result thread, .result result thread ∈ posted →
    result.output = some (String.intercalate "\n" (lines.drop (lines.length - 50)))

/-- Once the stream is offered the room sees the same posts, and `run_task` the same return,
as without P2P; before that the task is given up. -/
structure SameInRoom (offered : Bool) (p2p matrix : ProcessOutcome) : Prop where
  posted : p2p.posted.filter (! isOffer ·) = if offered then matrix.posted else []
  matrixOffer : ∀ post ∈ matrix.posted, isOffer post = false
  returned : offered → p2p.returned = matrix.returned

theorem tailOf_eq (allLines : List String) :
    tailOf allLines = String.intercalate "\n" (allLines.drop (allLines.length - 50)) := by
  rw [tailOf, List.reverse_take, List.reverse_reverse, List.length_reverse]
  rfl

namespace Reports

variable {lines : List String} {posted : List TaskPost}

theorem nil : Reports [] [] := ⟨rfl, by simp⟩

theorem of_heartbeats
    (hTexts : String.join (heartbeatTexts posted) = String.join (lines.map (· ++ "\n")))
    (hPosted : ∀ post ∈ posted, (progress? post).isSome) : Reports lines posted := by
  constructor
  · exact hTexts
  · intro result thread hMem
    cases hPosted _ hMem

theorem append_result (h : Reports lines posted) {result : TaskResultEvent}
    (thread : Option String)
    (hOutput :
      result.output = some (String.intercalate "\n" (lines.drop (lines.length - 50)))) :
    Reports lines (posted ++ [.result result thread]) := by
  constructor
  · have hResult : heartbeatTexts [.result result thread] = [] := rfl
    rw [heartbeatTexts, List.filterMap_append, ← heartbeatTexts, ← heartbeatTexts, hResult,
      List.append_nil, h.heartbeats]
  · intro other thread hMem
    rcases List.mem_append.mp hMem with hMem | hMem
    · exact h.output other thread hMem
    · rw [List.mem_singleton, TaskPost.result.injEq] at hMem
      rw [hMem.1, hOutput]

/-- The offer of a stream is no report. -/
theorem of_filter (h : Reports lines (posted.filter (! isOffer ·))) : Reports lines posted := by
  constructor
  · rw [← h.heartbeats, heartbeatTexts, heartbeatTexts, List.filterMap_filter]
    congr 2
    funext post
    cases post <;> rfl
  · intro result thread hMem
    exact h.output result thread (List.mem_filter.mpr ⟨hMem, rfl⟩)

end Reports

section Loops

variable {workerId : String} {task : TaskEvent} {taskEventId : String} {client : StreamClient}

/-- What the loop of `run_task_p2p` has besides the stream. Its posts begin with the offer. -/
def P2pLoop.toMatrix (loop : P2pLoop) : MatrixLoop :=
  ⟨loop.allLines, loop.batchBuf, loop.batchTimer, loop.posted.filter (! isOffer ·)⟩

/-- From here every write of the data is answered, if all the writes before it went well. -/
def AnsweredFrom (client : StreamClient) (sent data : List String) : Prop :=
  ∀ before line rest, data = before ++ line :: rest →
    (∀ earlier written later, before = earlier ++ written :: later →
      client.write (sent ++ earlier) written = some (.ok ())) →
    (client.write (sent ++ before) line).isSome

theorem answeredFrom_cons_iff {sent rest : List String} {line : String} :
    AnsweredFrom client sent (line :: rest) ↔ (client.write sent line).isSome ∧
      (client.write sent line = some (.ok ()) → AnsweredFrom client (sent ++ [line]) rest) := by
  constructor
  · intro h
    refine ⟨?_, fun hWritten before next later hRest hBefore => ?_⟩
    · simpa using h [] line rest rfl (by simp)
    · have hNext := h (line :: before) next later (by rw [hRest, List.cons_append]) ?_
      · simpa using hNext
      · intro earlier written between hSplit
        cases earlier with
        | nil =>
            obtain ⟨rfl, -⟩ := List.cons.inj hSplit
            simpa using hWritten
        | cons first earlier =>
            obtain ⟨rfl, hTail⟩ := List.cons.inj hSplit
            simpa using hBefore earlier written between hTail
  · rintro ⟨hFirst, hRest⟩ before next later hData hBefore
    cases before with
    | nil =>
        obtain ⟨rfl, -⟩ := List.cons.inj hData
        simpa using hFirst
    | cons first before =>
        obtain ⟨rfl, hTail⟩ := List.cons.inj hData
        have hWritten : client.write sent line = some (.ok ()) := by
          simpa using hBefore [] line before rfl
        have hNext := hRest hWritten before next later hTail ?_
        · simpa using hNext
        · intro earlier written between hSplit
          have hEarlier := hBefore (line :: earlier) written between
            (by rw [hSplit, List.cons_append])
          simpa using hEarlier

/-- The same of a stream that may be lost, and of the lines that are written to it. -/
def StreamAnswers (client : StreamClient) (unixStream : Option (List String))
    (lines : List TimedLine) : Prop :=
  ∀ sent, unixStream = some sent →
    AnsweredFrom client sent (lines.map fun line => line.text ++ "\n")

theorem streamAnswers_cons_iff (unixStream : Option (List String)) (line : TimedLine)
    (rest : List TimedLine) :
    StreamAnswers client unixStream (line :: rest) ↔
      ∃ next, writeLine client unixStream line.text = some next ∧
        StreamAnswers client next rest := by
  cases unixStream with
  | none => simp [StreamAnswers, writeLine]
  | some sent =>
      simp only [StreamAnswers, Option.some.injEq, forall_eq', List.map_cons,
        answeredFrom_cons_iff, writeLine]
      rcases client.write sent (line.text ++ "\n") with _ | _ | _
      · simp
      · simp
      · simp

/-- One line moves both loops alike, whatever becomes of the stream, unless its write is
never answered. -/
theorem toMatrix_p2pStep (loop : P2pLoop) (line : TimedLine) {unixStream : Option (List String)}
    (hWrite : writeLine client loop.unixStream line.text = some unixStream) :
    ∃ next, p2pStep workerId task taskEventId client loop line = .ok next ∧
      next.unixStream = unixStream ∧
      next.toMatrix = matrixStep workerId task taskEventId loop.toMatrix line := by
  obtain ⟨allLines, _, batchBuf, batchTimer, posted⟩ := loop
  simp only [p2pStep, hWrite]
  dsimp only [matrixStep, P2pLoop.toMatrix]
  by_cases hFlush : batchMaxBytes ≤ (batchBuf ++ line.text ++ "\n").utf8ByteSize ∨
      batchInterval ≤ line.readAt - batchTimer
  · rw [if_pos hFlush, if_pos hFlush]
    refine ⟨_, rfl, rfl, ?_⟩
    rw [List.filter_append]
    rfl
  · rw [if_neg hFlush, if_neg hFlush]
    exact ⟨_, rfl, rfl, rfl⟩

theorem toMatrix_foldlM (loop : P2pLoop) {lines : List TimedLine}
    (h : StreamAnswers client loop.unixStream lines) :
    ∃ last, lines.foldlM (p2pStep workerId task taskEventId client) loop = .ok last ∧
      last.toMatrix = lines.foldl (matrixStep workerId task taskEventId) loop.toMatrix := by
  induction lines generalizing loop with
  | nil => exact ⟨loop, rfl, rfl⟩
  | cons line rest ih =>
      obtain ⟨unixStream, hWrite, hRest⟩ := (streamAnswers_cons_iff _ _ _).mp h
      obtain ⟨next, hStep, rfl, hNext⟩ :=
        toMatrix_p2pStep loop line hWrite
      obtain ⟨last, hLast, hMatrix⟩ := ih _ hRest
      refine ⟨last, ?_, ?_⟩
      · rw [List.foldlM_cons, hStep]
        exact hLast
      · rw [List.foldl_cons, ← hNext, hMatrix]

/-- Where a write is never answered, the posts are those for the lines before. -/
theorem stalled_foldlM (loop : P2pLoop) {lines : List TimedLine}
    (h : ¬ StreamAnswers client loop.unixStream lines) :
    ∃ read line rest posted, lines = read ++ line :: rest ∧
      lines.foldlM (p2pStep workerId task taskEventId client) loop = .error posted ∧
      posted.filter (! isOffer ·) =
        (read.foldl (matrixStep workerId task taskEventId) loop.toMatrix).posted := by
  induction lines generalizing loop with
  | nil =>
      apply absurd _ h
      rintro sent - before line rest hNil
      simp at hNil
  | cons line rest ih =>
      rw [List.foldlM_cons]
      cases hWrite : writeLine client loop.unixStream line.text with
      | none =>
          refine ⟨[], line, rest, loop.posted, rfl, ?_, rfl⟩
          simp only [p2pStep, hWrite]
          rfl
      | some unixStream =>
          obtain ⟨next, hStep, rfl, hNext⟩ :=
            toMatrix_p2pStep loop line hWrite
          have hRest : ¬ StreamAnswers client next.unixStream rest := fun hAnswers =>
            h ((streamAnswers_cons_iff _ _ _).mpr ⟨next.unixStream, hWrite, hAnswers⟩)
          obtain ⟨read, stalled, unread, posted, hLines, hRun, hPosted⟩ := ih _ hRest
          refine ⟨line :: read, stalled, unread, posted, ?_, ?_, ?_⟩
          · rw [hLines, List.cons_append]
          · rw [hStep]
            exact hRun
          · rw [List.foldl_cons, ← hNext, hPosted]

/-- The loop has read the lines: they are in the heartbeats and the buffer. -/
structure HasRead (lines : List String) (loop : MatrixLoop) : Prop where
  allLines : loop.allLines = lines
  texts : String.join (heartbeatTexts loop.posted) ++ loop.batchBuf =
    String.join (lines.map (· ++ "\n"))
  heartbeats : ∀ post ∈ loop.posted, (progress? post).isSome

theorem heartbeatTexts_flush (posted : List TaskPost) (batch : String) :
    String.join (heartbeatTexts (posted ++ [flushHeartbeat workerId task taskEventId batch])) =
      String.join (heartbeatTexts posted) ++ batch := by
  rw [heartbeatTexts, List.filterMap_append, String.join_append]
  simp [heartbeatTexts, flushHeartbeat, progress?]

theorem HasRead.flush {posted : List TaskPost} (batch : String)
    (h : ∀ post ∈ posted, (progress? post).isSome) :
    ∀ post ∈ posted ++ [flushHeartbeat workerId task taskEventId batch],
      (progress? post).isSome := by
  intro post hPost
  rcases List.mem_append.mp hPost with hPost | hPost
  · exact h post hPost
  · rw [List.mem_singleton.mp hPost]
    rfl

theorem HasRead.start (startedAt : Nat) : HasRead [] ⟨[], "", startedAt, []⟩ :=
  ⟨rfl, rfl, by simp⟩

theorem HasRead.step {lines : List String} {loop : MatrixLoop} (h : HasRead lines loop)
    (line : TimedLine) :
    HasRead (lines ++ [line.text]) (matrixStep workerId task taskEventId loop line) := by
  have hTexts : String.join (heartbeatTexts loop.posted) ++ (loop.batchBuf ++ line.text ++ "\n") =
      String.join ((lines ++ [line.text]).map (· ++ "\n")) := by
    rw [List.map_append, String.join_append, ← h.texts]
    simp [String.append_assoc]
  simp only [matrixStep]
  split
  · constructor
    · rw [h.allLines]
    · rw [heartbeatTexts_flush, String.append_empty]
      exact hTexts
    · exact HasRead.flush _ h.heartbeats
  · constructor
    · rw [h.allLines]
    · exact hTexts
    · exact h.heartbeats

theorem HasRead.foldl {read : List String} {loop : MatrixLoop} (h : HasRead read loop)
    (lines : List TimedLine) :
    HasRead (read ++ lines.map TimedLine.text)
      (lines.foldl (matrixStep workerId task taskEventId) loop) := by
  induction lines generalizing read loop with
  | nil => simpa using h
  | cons line lines ih => simpa using ih (h.step line)

/-- What is posted when the loop is over: the rest of the buffer goes out, too. -/
def MatrixLoop.flushed (workerId : String) (task : TaskEvent) (taskEventId : String)
    (loop : MatrixLoop) : List TaskPost :=
  if loop.batchBuf.isEmpty then loop.posted
  else loop.posted ++ [flushHeartbeat workerId task taskEventId loop.batchBuf]

theorem HasRead.texts_flushed {lines : List String} {loop : MatrixLoop} (h : HasRead lines loop) :
    String.join (heartbeatTexts (loop.flushed workerId task taskEventId)) =
      String.join (lines.map (· ++ "\n")) := by
  unfold MatrixLoop.flushed
  split
  · rename_i hEmpty
    have hTexts := h.texts
    rwa [String.isEmpty_iff.mp hEmpty, String.append_empty] at hTexts
  · rw [heartbeatTexts_flush]
    exact h.texts

theorem HasRead.heartbeats_flushed {lines : List String} {loop : MatrixLoop}
    (h : HasRead lines loop) :
    ∀ post ∈ loop.flushed workerId task taskEventId, (progress? post).isSome := by
  unfold MatrixLoop.flushed
  split
  · exact h.heartbeats
  · exact HasRead.flush _ h.heartbeats

theorem isOffer_of_progress {post : TaskPost} (h : (progress? post).isSome) :
    isOffer post = false := by
  cases post <;> first | rfl | cases h

/-- The posts when the loop of `run_task_p2p` is over. -/
def P2pLoop.flushed (workerId : String) (task : TaskEvent) (taskEventId : String)
    (loop : P2pLoop) : List TaskPost :=
  if loop.batchBuf.isEmpty then loop.posted
  else loop.posted ++ [flushHeartbeat workerId task taskEventId loop.batchBuf]

theorem P2pLoop.filter_flushed (loop : P2pLoop) (workerId : String) (task : TaskEvent)
    (taskEventId : String) :
    (loop.flushed workerId task taskEventId).filter (! isOffer ·) =
      loop.toMatrix.flushed workerId task taskEventId := by
  obtain ⟨allLines, unixStream, batchBuf, batchTimer, posted⟩ := loop
  dsimp only [P2pLoop.flushed, MatrixLoop.flushed, P2pLoop.toMatrix]
  by_cases hEmpty : batchBuf.isEmpty
  · rw [if_pos hEmpty, if_pos hEmpty]
  · rw [if_neg hEmpty, if_neg hEmpty, List.filter_append]
    rfl

/-- The loop of `run_task_matrix` over the whole output. -/
def matrixLoop (workerId : String) (task : TaskEvent) (taskEventId : String)
    (process : Process) : MatrixLoop :=
  process.lines.foldl (matrixStep workerId task taskEventId) ⟨[], "", process.startedAt, []⟩

theorem hasRead_matrixLoop (workerId : String) (task : TaskEvent) (taskEventId : String)
    (process : Process) :
    HasRead (process.lines.map TimedLine.text) (matrixLoop workerId task taskEventId process) :=
  (HasRead.start process.startedAt).foldl process.lines

/-- The loop of `run_task_p2p` over the whole output. -/
def p2pLoop (workerId : String) (task : TaskEvent) (taskEventId : String)
    (client : StreamClient) (process : Process) : Except (List TaskPost) P2pLoop :=
  process.lines.foldlM (p2pStep workerId task taskEventId client)
    ⟨[], acceptStream client, "", process.startedAt, [streamOffer workerId task]⟩

/-- A client that has connected answers each write of these lines up to one that fails. -/
def WritesAnswered (client : StreamClient) (lines : List String) : Prop :=
  client.accept = .connected → AnsweredFrom client [] (lines.map (· ++ "\n"))

theorem streamAnswers_accept_iff (client : StreamClient) (process : Process) :
    StreamAnswers client (acceptStream client) process.lines ↔
      WritesAnswered client (process.lines.map TimedLine.text) := by
  cases hAccept : client.accept <;>
    simp [StreamAnswers, WritesAnswered, acceptStream, hAccept, Function.comp_def]

/-- A line that is read but not reported is missed: no heartbeats tell of it. -/
theorem HasRead.texts_ne {read rest : List String} {line : String} {loop : MatrixLoop}
    (h : HasRead read loop) :
    String.join (heartbeatTexts loop.posted) ≠
      String.join ((read ++ line :: rest).map (· ++ "\n")) := by
  intro hSame
  have hRead := congrArg String.length h.texts
  have hAll := congrArg String.length hSame
  have hNewline : "\n".length = 1 := rfl
  simp only [String.length_append] at hRead
  simp only [List.map_append, List.map_cons, String.join_append, String.join_cons,
    String.length_append, hNewline] at hAll
  omega

end Loops

section Runs

variable (workerId : String) (task : TaskEvent) (taskEventId : String)
variable {answers : Answers} {payload : ProcessPayload} {process : Process}

/-- A process that was started posts heartbeats, and a result if it can be waited for. -/
theorem matrix_of_spawn
    (hSpawn : answers.spawn payload (payload.cwd.getD "/tmp") = .ok process) :
    runTaskMatrix workerId task taskEventId answers payload =
      let loop := matrixLoop workerId task taskEventId process
      let posted := loop.flushed workerId task taskEventId
      match process.wait with
      | .error error => ⟨posted, some (.error (.wait error))⟩
      | .ok status =>
          let result := resultEvent workerId task payload process status (tailOf loop.allLines)
          ⟨posted ++ [.result result (threadId taskEventId)],
            some ((answers.postResult result).mapError .result)⟩ := by
  rw [runTaskMatrix, hSpawn]
  rfl

theorem matrix_posts_no_offer (answers : Answers) (payload : ProcessPayload) :
    ∀ post ∈ (runTaskMatrix workerId task taskEventId answers payload).posted,
      isOffer post = false := by
  cases hSpawn : answers.spawn payload (payload.cwd.getD "/tmp") with
  | error error => simp [runTaskMatrix, hSpawn]
  | ok process =>
      have hFlushed : ∀ post ∈ (matrixLoop workerId task taskEventId process).flushed
          workerId task taskEventId, isOffer post = false := fun post hPost =>
        isOffer_of_progress
          ((hasRead_matrixLoop workerId task taskEventId process).heartbeats_flushed post hPost)
      rw [matrix_of_spawn workerId task taskEventId hSpawn]
      cases process.wait with
      | error error => exact hFlushed
      | ok status =>
          intro post hPost
          rcases List.mem_append.mp hPost with hPost | hPost
          · exact hFlushed post hPost
          · rw [List.mem_singleton.mp hPost]
            rfl

theorem matrix_reports (answers : Answers) (payload : ProcessPayload) :
    Reports (linesRead answers payload)
      (runTaskMatrix workerId task taskEventId answers payload).posted := by
  cases hSpawn : answers.spawn payload (payload.cwd.getD "/tmp") with
  | error error =>
      constructor
      · simp [runTaskMatrix, linesRead, hSpawn, heartbeatTexts]
      · simp [runTaskMatrix, hSpawn]
  | ok process =>
      have hRead := hasRead_matrixLoop workerId task taskEventId process
      have hLines : linesRead answers payload = process.lines.map TimedLine.text := by
        rw [linesRead, hSpawn]
      rw [matrix_of_spawn workerId task taskEventId hSpawn, hLines]
      have hHeartbeats : Reports (process.lines.map TimedLine.text)
          ((matrixLoop workerId task taskEventId process).flushed workerId task taskEventId) :=
        .of_heartbeats hRead.texts_flushed hRead.heartbeats_flushed
      cases process.wait with
      | error error => exact hHeartbeats
      | ok status =>
          apply hHeartbeats.append_result
          rw [resultEvent, tailOf_eq, hRead.allLines]

/-- The run over P2P of a process that was started, once the stream is offered. -/
theorem p2p_of_spawn (client : StreamClient) (hOffered : offered task answers = true)
    (hSpawn : answers.spawn payload (payload.cwd.getD "/tmp") = .ok process) :
    runTaskP2p workerId task taskEventId client answers payload =
      match p2pLoop workerId task taskEventId client process with
      | .error posted => ⟨posted, none⟩
      | .ok loop =>
          let posted := loop.flushed workerId task taskEventId
          match process.wait with
          | .error error => ⟨posted, some (.error (.wait error))⟩
          | .ok status =>
              let result := resultEvent workerId task payload process status (tailOf loop.allLines)
              ⟨posted ++ [.result result (threadId taskEventId)],
                some ((answers.postResult result).mapError .result)⟩ := by
  obtain ⟨hBind, hOffer⟩ := Bool.and_eq_true_iff.mp hOffered
  obtain ⟨_, hBind⟩ := ProcessWorker.isOk_iff.mp hBind
  obtain ⟨_, hOffer⟩ := ProcessWorker.isOk_iff.mp hOffer
  rw [runTaskP2p, hBind, hOffer, hSpawn]
  rfl

/-- The simulation, after the loop: the same posts but for the offer, and the same lines. -/
theorem same_of_answered (client : StreamClient) (hOffered : offered task answers = true)
    (hSpawn : answers.spawn payload (payload.cwd.getD "/tmp") = .ok process)
    (hAnswered : WritesAnswered client (process.lines.map TimedLine.text)) :
    SameInRoom true (runTaskP2p workerId task taskEventId client answers payload)
      (runTaskMatrix workerId task taskEventId answers payload) := by
  have hStream := (streamAnswers_accept_iff client process).mpr hAnswered
  obtain ⟨last, hRun, hLast⟩ := toMatrix_foldlM
    ⟨[], acceptStream client, "", process.startedAt, [streamOffer workerId task]⟩ hStream
  have hLoop : last.toMatrix = matrixLoop workerId task taskEventId process := hLast
  have hLines : last.allLines = (matrixLoop workerId task taskEventId process).allLines :=
    congrArg MatrixLoop.allLines hLoop
  have hFlushed := last.filter_flushed workerId task taskEventId
  rw [hLoop] at hFlushed
  have hMatrix := matrix_posts_no_offer workerId task taskEventId answers payload
  have hP2p := p2p_of_spawn workerId task taskEventId client hOffered hSpawn
  rw [p2pLoop, hRun] at hP2p
  refine ⟨?_, hMatrix, fun _ => ?_⟩
  · rw [hP2p, matrix_of_spawn workerId task taskEventId hSpawn, if_pos rfl]
    cases process.wait with
    | error error => exact hFlushed
    | ok status =>
        dsimp only
        rw [List.filter_append, hFlushed, hLines]
        rfl
  · rw [hP2p, matrix_of_spawn workerId task taskEventId hSpawn]
    cases process.wait with
    | error error => rfl
    | ok status =>
        dsimp only
        rw [hLines]

/-- A write that is never answered leaves at least one line out of the room. -/
theorem differs_of_stalled (client : StreamClient) (hOffered : offered task answers = true)
    (hSpawn : answers.spawn payload (payload.cwd.getD "/tmp") = .ok process)
    (hStalled : ¬ WritesAnswered client (process.lines.map TimedLine.text)) :
    (runTaskP2p workerId task taskEventId client answers payload).posted.filter (! isOffer ·) ≠
      (runTaskMatrix workerId task taskEventId answers payload).posted := by
  have hStream := mt (streamAnswers_accept_iff client process).mp hStalled
  obtain ⟨read, line, rest, posted, hLines, hRun, hPosted⟩ := stalled_foldlM
    ⟨[], acceptStream client, "", process.startedAt, [streamOffer workerId task]⟩ hStream
  have hP2p := p2p_of_spawn workerId task taskEventId client hOffered hSpawn
  rw [p2pLoop, hRun] at hP2p
  have hReports := matrix_reports workerId task taskEventId answers payload
  have hRead : linesRead answers payload =
      read.map TimedLine.text ++ line.text :: rest.map TimedLine.text := by
    rw [linesRead, hSpawn]
    simp [hLines]
  intro hSame
  rw [hP2p, hPosted] at hSame
  have hTexts := hReports.heartbeats
  rw [← hSame, hRead] at hTexts
  exact ((HasRead.start process.startedAt).foldl read).texts_ne hTexts

theorem sameInRoom (client : StreamClient) (answers : Answers) (payload : ProcessPayload)
    (hAnswered : offered task answers →
      WritesAnswered client (linesRead answers payload)) :
    SameInRoom (offered task answers)
      (runTaskP2p workerId task taskEventId client answers payload)
      (runTaskMatrix workerId task taskEventId answers payload) := by
  have hMatrix := matrix_posts_no_offer workerId task taskEventId answers payload
  cases hBind : answers.bind (socketPath task) with
  | error error =>
      have hOffered : offered task answers = false := by rw [offered, hBind]; rfl
      rw [hOffered]
      exact ⟨by simp [runTaskP2p, hBind], hMatrix, by simp⟩
  | ok bound =>
      cases hOffer : answers.postOffer with
      | error error =>
          have hOffered : offered task answers = false := by rw [offered, hBind, hOffer]; rfl
          rw [hOffered]
          exact ⟨by simp [runTaskP2p, hBind, hOffer, streamOffer, isOffer], hMatrix, by simp⟩
      | ok posted =>
          have hOffered : offered task answers = true := by rw [offered, hBind, hOffer]; rfl
          cases hSpawn : answers.spawn payload (payload.cwd.getD "/tmp") with
          | error error =>
              rw [hOffered]
              refine ⟨?_, hMatrix, fun _ => ?_⟩
              · simp [runTaskP2p, runTaskMatrix, hBind, hOffer, hSpawn, streamOffer, isOffer]
              · simp [runTaskP2p, runTaskMatrix, hBind, hOffer, hSpawn]
          | ok process =>
              have hWrites := hAnswered hOffered
              rw [linesRead, hSpawn] at hWrites
              rw [hOffered]
              exact same_of_answered workerId task taskEventId client hOffered hSpawn hWrites

/-- A client that connects and reads nothing, so that the socket takes no line. -/
def silentClient : StreamClient where
  accept := .connected
  write _ _ := none

/-- A process that prints a line and ends well; everything else goes well, too. -/
def helloAnswers : Answers where
  bind _ := .ok ()
  postOffer := .ok ()
  spawn _ _ := .ok ⟨0, [⟨"hello", 0, 0⟩], .ok (.code 0), 1⟩
  postResult _ := .ok ()

end Runs

section Refinement

variable (workerId : String) (task : TaskEvent) (taskEventId : String)

/-- The lines with what the test of the batch timer would say after each of them. -/
def stamped (batchBuf : String) (batchTimer : Nat) : List TimedLine → List OutputLine
  | [] => []
  | line :: rest =>
      let filled := batchBuf ++ line.text ++ "\n"
      let elapsed := decide (batchInterval ≤ line.readAt - batchTimer)
      ⟨line.text, elapsed⟩ ::
        if batchMaxBytes ≤ filled.utf8ByteSize || elapsed then stamped "" line.resetAt rest
        else stamped filled batchTimer rest

/-- The outcomes of the process, as the worker without clocks and streams is given them. -/
def Answers.outcomes (answers : Answers) (process : Process) : TaskOutcomes where
  claim := .ok true
  bind := answers.bind
  spawn payload cwd := (answers.spawn payload cwd).map fun _ => ()
  lines := stamped "" process.startedAt process.lines
  wait := process.wait
  durationSeconds := process.durationSeconds

theorem stamped_text (batchBuf : String) (batchTimer : Nat) (lines : List TimedLine) :
    (stamped batchBuf batchTimer lines).map OutputLine.text = lines.map TimedLine.text := by
  induction lines generalizing batchBuf batchTimer with
  | nil => rfl
  | cons line lines ih =>
      simp only [stamped, List.map_cons]
      split <;> rw [ih]

/-- The loop sends the batches that its clock readings cut. -/
theorem flushed_foldl (loop : MatrixLoop) (lines : List TimedLine) :
    (lines.foldl (matrixStep workerId task taskEventId) loop).flushed workerId task taskEventId =
      loop.posted ++ (batches loop.batchBuf (stamped loop.batchBuf loop.batchTimer lines)).map
        (flushHeartbeat workerId task taskEventId) := by
  induction lines generalizing loop with
  | nil =>
      rw [List.foldl_nil, stamped, batches, MatrixLoop.flushed]
      split
      · rw [List.map_nil, List.append_nil]
      · rfl
  | cons line lines ih =>
      rw [List.foldl_cons, ih]
      obtain ⟨allLines, batchBuf, batchTimer, posted⟩ := loop
      dsimp only [matrixStep, stamped, batches]
      by_cases hFlush : batchMaxBytes ≤ (batchBuf ++ line.text ++ "\n").utf8ByteSize ∨
          batchInterval ≤ line.readAt - batchTimer
      · have hFlush' : (decide (batchMaxBytes ≤ (batchBuf ++ line.text ++ "\n").utf8ByteSize) ||
            decide (batchInterval ≤ line.readAt - batchTimer)) = true := by
          simpa using hFlush
        rw [if_pos hFlush, if_pos hFlush', if_pos hFlush']
        simp
      · have hKeep : ¬ (decide (batchMaxBytes ≤ (batchBuf ++ line.text ++ "\n").utf8ByteSize) ||
            decide (batchInterval ≤ line.readAt - batchTimer)) = true := by
          simpa using hFlush
        rw [if_neg hFlush, if_neg hKeep, if_neg hKeep]

theorem resultEvent_eq (answers : Answers) (payload : ProcessPayload) (process : Process)
    (status : ExitStatus) :
    resultEvent workerId task payload process status
        (tailOf (process.lines.map TimedLine.text)) =
      ProcessWorker.resultOf workerId task (answers.outcomes process) payload status := by
  have hTail : tailOf (process.lines.map TimedLine.text) =
      ProcessWorker.tail (answers.outcomes process).lines := by
    rw [tailOf_eq, ProcessWorker.tail, List.rtake, Answers.outcomes, stamped_text]
    rfl
  rw [resultEvent, hTail]
  rfl

/-- The worker of the simpler model posts what the loop with its clock posts. -/
theorem matrix_refines_execute {answers : Answers} {payload : ProcessPayload} {process : Process}
    (hSpawn : answers.spawn payload (payload.cwd.getD "/tmp") = .ok process) :
    (runTaskMatrix workerId task taskEventId answers payload).posted =
      (ProcessWorker.runTaskMatrix workerId task taskEventId (answers.outcomes process)
        payload).posted := by
  have hFlushed : (matrixLoop workerId task taskEventId process).flushed workerId task
      taskEventId = (batches "" (stamped "" process.startedAt process.lines)).map
        (flushHeartbeat workerId task taskEventId) :=
    flushed_foldl workerId task taskEventId ⟨[], "", process.startedAt, []⟩ process.lines
  have hStarted : (answers.outcomes process).spawn payload (payload.cwd.getD "/tmp") = .ok () :=
    congrArg (Except.map fun _ => ()) hSpawn
  have hEnd : (answers.outcomes process).wait = process.wait := rfl
  have hLines := (hasRead_matrixLoop workerId task taskEventId process).allLines
  rw [matrix_of_spawn workerId task taskEventId hSpawn, ProcessWorker.runTaskMatrix,
    ProcessWorker.execute, hStarted]
  dsimp only
  rw [hFlushed, hLines, hEnd]
  cases process.wait with
  | error error => rfl
  | ok status =>
      dsimp only
      rw [resultEvent_eq workerId task answers]
      rfl

end Refinement

end Mxdx.Fabric.ProcessStream
