import Mxdx.Worker.Session
import Mxdx.Foundations.Automaton
import Mxdx.Foundations.Base64
import Mxdx.Basic

/-! The main loop of the worker. Events of the room are handled in order; after
them the loop looks for sessions that tmux no longer has and reports their
results. Sends to the room succeed. -/
namespace Mxdx.Worker

/-- What the worker is configured with. -/
structure WorkerConfig where
  authorizedUsers : List String
  maxSessions : UInt32
  allowedCommands : List String
  allowedCwd : List String

/-- The event that ends the thread of a session. -/
structure SessionResult where
  sessionUuid : String
  workerId : String
  status : SessionStatus
  exitCode : Option Int32
  durationSeconds : Nat
  tail : Option String
deriving DecidableEq

/-- The event that opens the thread of a session. -/
structure SessionStart where
  sessionUuid : String
  workerId : String
  tmuxSession : Option String
  pid : Option UInt32
  startedAt : Nat
  dmRoomId : Option String
deriving DecidableEq

/-- Which of the two streams of the process a piece came from. -/
inductive OutputStream where
  | stdout
  | stderr
deriving DecidableEq

/-- A piece of output with its number in the session. -/
structure SessionOutput where
  sessionUuid : String
  workerId : String
  stream : OutputStream
  data : String
  seq : Nat
  timestamp : Nat
deriving DecidableEq

/-- Where a result came from. A completion is recorded with the session as the
host had it then. -/
inductive Origin where
  | rejection
  | completion (exec : Option Exec)
deriving DecidableEq

/-- What the worker sends to its room; the origin of a result is kept for the
record only. -/
inductive RoomEvent where
  | start (threadRoot : String) (start : SessionStart)
  | output (threadRoot : String) (output : SessionOutput)
  | result (threadRoot : String) (result : SessionResult) (origin : Origin)
  | active (uuid : String) (state : ActiveSessionState)
  | completed (uuid : String) (state : CompletedSessionState)
  | removeActive (uuid : String)
deriving DecidableEq

namespace RoomEvent

/-- Whether an event turns the task down. -/
def isRejectionOf (uuid : String) : RoomEvent → Bool
  | result _ posted .rejection => posted.sessionUuid == uuid
  | _ => false

/-- Whether an event tells of the end of a session that ran. -/
def isCompletionOf (uuid : String) : RoomEvent → Bool
  | result _ posted (.completion _) => posted.sessionUuid == uuid
  | _ => false

/-- Whether an event is the result of the task. -/
def isResultOf (uuid : String) : RoomEvent → Bool
  | result _ posted _ => posted.sessionUuid == uuid
  | _ => false

end RoomEvent

/-- Why the main loop returned. -/
inductive LoopError where
  | malformedTask
  | session (error : String)
  | create (error : CreateError)
deriving DecidableEq

/-- A task the worker has claimed, with the Matrix sender of its event. -/
structure TaskClaim where
  sender : Option String
  uuid : String
deriving DecidableEq

/-- The worker's own state, the host around it, the files that a `kill` has yet
to remove, and a record of what was sent, claimed and dealt with. -/
structure WorkerLoop where
  sessions : SessionManager
  threadRoots : String → Option String
  host : Host
  removing : List String
  room : List RoomEvent
  claims : List TaskClaim
  handled : List SessionTask
  stopped : Option LoopError

/-- What the loop goes on with. -/
inductive WorkerInput where
  | event (raw : Value) (now : Nat)
  | check (uuid : String) (now : Nat) (captured : Option String)
  | removeFile
  | host (input : HostInput)

/-- What is decided on a task. -/
inductive Verdict where
  | reject (tail : String)
  | duplicate
  | start (command : ValidatedCommand)

namespace WorkerLoop

/-- A fresh worker; the thread roots of older sessions may have been recovered
from the state room. -/
def new (workerId : String) (recovered : String → Option String)
    (files : String → Option File) : WorkerLoop :=
  ⟨.new workerId, recovered, ⟨files, fun _ => none⟩, [], [], [], [], none⟩

variable (config : WorkerConfig) (platform : Platform)

/-- An empty list lets everybody in. -/
def authorized (task : SessionTask) : Bool :=
  config.authorizedUsers.isEmpty || config.authorizedUsers.contains task.senderId

/-- What is decided about a task, in the order of the checks. -/
def verdict (worker : WorkerLoop) (task : SessionTask) : Verdict :=
  if !authorized config task then .reject "Unauthorized sender"
  else if config.maxSessions.toNat ≤ worker.sessions.activeSessions.length then
    .reject ("Session limit reached (" ++ toString config.maxSessions ++ " max)")
  else
    match validateCommand platform task.bin task.args task.env task.cwd config.allowedCommands
        config.allowedCwd with
    | .error error => .reject ("Command validation failed: " ++ error)
    | .ok command =>
        if worker.sessions.containsSession task.uuid || (worker.threadRoots task.uuid).isSome then
          .duplicate
        else .start command

/-- The loop ends with an error. -/
def stop (worker : WorkerLoop) (error : LoopError) : WorkerLoop :=
  { worker with stopped := some error }

/-- Events go into the room. -/
def post (worker : WorkerLoop) (events : List RoomEvent) : WorkerLoop :=
  { worker with room := worker.room ++ events }

/-- The task has been decided on. -/
def markHandled (worker : WorkerLoop) (task : SessionTask) : WorkerLoop :=
  { worker with handled := worker.handled ++ [task] }

/-- The sender hears why. -/
def reject (worker : WorkerLoop) (eventId : String) (task : SessionTask) (tail : String) :
    WorkerLoop :=
  worker.post [.result eventId
    ⟨task.uuid, worker.sessions.workerId, .failed, some 1, 0, some tail⟩ .rejection]

/-- Claim the task, announce it and start its command. -/
def start (worker : WorkerLoop) (sender : Option String) (eventId : String) (task : SessionTask)
    (now : Nat) : WorkerLoop :=
  match worker.sessions.claim task now with
  | .error error => worker.stop (.session error)
  | .ok (sessions, active) =>
      let claimed : WorkerLoop :=
        { worker with sessions, claims := worker.claims ++ [⟨sender, task.uuid⟩] }
      let announced := claimed.post [.active task.uuid active, .start eventId
        ⟨task.uuid, sessions.workerId, some task.uuid, none, now, none⟩]
      let tracked : WorkerLoop :=
        { announced with
          threadRoots := Function.update announced.threadRoots task.uuid (some eventId) }
      match tracked.host.create platform task.uuid with
      | .error error => tracked.stop (.create error)
      | .ok (host, tmux) =>
          match tracked.sessions.markRunning task.uuid none tmux with
          | .error error => { tracked with host }.stop (.session error)
          | .ok sessions => { tracked with host, sessions }.markHandled task

/-- The checks in the order of the source; the first that fails decides. -/
def taskSubmission (worker : WorkerLoop) (sender : Option String) (eventId : String)
    (content : Value) (now : Nat) : WorkerLoop :=
  match SessionTask.fromValue content with
  | none => worker.stop .malformedTask
  | some task =>
      match worker.verdict config platform task with
      | .reject tail => (worker.reject eventId task tail).markHandled task
      | .duplicate => worker.markHandled task
      | .start _ => worker.start platform sender eventId task now

/-- A cancel kills the tmux session, whatever the state of the session is. -/
def sessionCancel (worker : WorkerLoop) (uuid : String) : WorkerLoop :=
  match (worker.sessions.get uuid).bind Session.tmux with
  | some tmux =>
      { worker with
        host := worker.host.killSession tmux
        removing := Host.filesToRemove platform tmux }
  | none => worker

/-- Only task and cancel events do anything. -/
def handleEvent (worker : WorkerLoop) (raw : Value) (now : Nat) : WorkerLoop :=
  match parseEvent raw with
  | some (.taskSubmission eventId content) =>
      worker.taskSubmission config platform (matrixSender raw) eventId content now
  | some (.sessionCancel uuid _) => worker.sessionCancel platform uuid
  | _ => worker

/-- Only zero counts as success. -/
def statusOf (exitCode : Option Int32) : SessionStatus :=
  if exitCode = some 0 then .success else .failed

/-- Output that is not blank goes to the thread of the session. -/
def finalOutputEvents (worker : WorkerLoop) (uuid finalOutput : String) (now : Nat) :
    List RoomEvent :=
  match worker.threadRoots uuid with
  | some threadRoot =>
      if trim finalOutput.toList = [] then []
      else [.output threadRoot
        ⟨uuid, worker.sessions.workerId, .stdout, Base64.encode (asBytes finalOutput), 0, now⟩]
  | none => []

/-- The result goes into the thread of the session, if that is known. -/
def resultEvents (worker : WorkerLoop) (uuid finalOutput : String) (exitCode : Option Int32)
    (completed : CompletedSessionState) : List RoomEvent :=
  match worker.threadRoots uuid with
  | some threadRoot =>
      [.result threadRoot
        ⟨uuid, worker.sessions.workerId, statusOf exitCode, exitCode, completed.durationSeconds,
          some (String.ofList (finalOutput.toList.take 1024))⟩
        (.completion (worker.host.execs uuid))]
  | none => []

/-- Report a session that tmux no longer has. An exit code that cannot be read
counts as 0. -/
def completeSession (worker : WorkerLoop) (uuid : String) (tmux : TmuxSession) (now : Nat)
    (captured : Option String) : WorkerLoop :=
  let finalOutput := captured.getD ""
  let reported := worker.post (worker.finalOutputEvents uuid finalOutput now)
  let exitCode := (worker.host.readExitCode platform tmux).or (some 0)
  match reported.sessions.complete uuid exitCode now with
  | .error error => reported.stop (.session error)
  | .ok (sessions, completed) =>
      { reported with sessions }.post
        (worker.resultEvents uuid finalOutput exitCode completed ++
          [RoomEvent.completed uuid completed, RoomEvent.removeActive uuid])

/-- One round of the completion loop. A session that tmux has lost stays lost,
so looking for it and reading its exit code are one step. -/
def check (worker : WorkerLoop) (uuid : String) (now : Nat) (captured : Option String) :
    WorkerLoop :=
  match worker.sessions.get uuid with
  | some session =>
      if session.state = .completed then worker
      else
        match session.tmux with
        | some tmux =>
            if worker.host.isAlive tmux then worker
            else worker.completeSession platform uuid tmux now captured
        | none => worker
  | none => worker

/-- The loop goes on only when a `kill` has removed all its files. -/
def finishKill (worker : WorkerLoop) : WorkerLoop :=
  { worker with host := worker.removing.foldl Host.removeFile worker.host, removing := [] }

/-- One of the files that are to go is removed. -/
def removeNext (worker : WorkerLoop) : WorkerLoop :=
  match worker.removing with
  | path :: rest => { worker with host := worker.host.removeFile path, removing := rest }
  | [] => worker

/-- A worker that has stopped does nothing. -/
def step (worker : WorkerLoop) (input : WorkerInput) : WorkerLoop :=
  if worker.stopped.isSome then worker
  else
    match input with
    | .event raw now => worker.finishKill.handleEvent config platform raw now
    | .check uuid now captured => worker.finishKill.check platform uuid now captured
    | .removeFile => worker.removeNext
    | .host input => { worker with host := worker.host.step platform input }

/-- The id and the content of a task event. -/
def submitted (raw : Value) : Option (String × Value) :=
  match parseEvent raw with
  | some (.taskSubmission eventId content) => some (eventId, content)
  | _ => none

/-- Everything an input can do to the worker, up to what it does to the host
and its files. -/
inductive Effect (worker : WorkerLoop) : WorkerInput → WorkerLoop → Prop where
  | stopped {input : WorkerInput} (hStopped : worker.stopped.isSome = true) :
      Effect worker input worker
  | quiet {input : WorkerInput} (host : Host) (removing : List String)
      (hHost : worker.host.Honest → host.Honest) (hRunning : worker.stopped = none)
      (hNoTask : ∀ raw now, input = .event raw now → submitted raw = none) :
      Effect worker input { worker with host, removing }
  | malformed {raw : Value} {now : Nat} {eventId : String} {content : Value}
      (hRunning : worker.stopped = none)
      (hSubmitted : submitted raw = some (eventId, content))
      (hTask : SessionTask.fromValue content = none) :
      Effect worker (.event raw now)
        { worker.finishKill with stopped := some .malformedTask }
  | rejected {raw : Value} {now : Nat} {eventId tail : String} {content : Value}
      {task : SessionTask} (hRunning : worker.stopped = none)
      (hSubmitted : submitted raw = some (eventId, content))
      (hTask : SessionTask.fromValue content = some task)
      (hVerdict : worker.verdict config platform task = .reject tail) :
      Effect worker (.event raw now)
        { worker.finishKill with
          room := worker.room ++ [.result eventId
            ⟨task.uuid, worker.sessions.workerId, .failed, some 1, 0, some tail⟩ .rejection]
          handled := worker.handled ++ [task] }
  | duplicate {raw : Value} {now : Nat} {eventId : String} {content : Value}
      {task : SessionTask} (hRunning : worker.stopped = none)
      (hSubmitted : submitted raw = some (eventId, content))
      (hTask : SessionTask.fromValue content = some task)
      (hVerdict : worker.verdict config platform task = .duplicate) :
      Effect worker (.event raw now)
        { worker.finishKill with handled := worker.handled ++ [task] }
  | notCreated {raw : Value} {now : Nat} {eventId : String} {content : Value}
      {task : SessionTask} {command : ValidatedCommand} {error : CreateError}
      (sessions : SessionManager) (session : Session) (active : ActiveSessionState)
      (start : SessionStart) (hRunning : worker.stopped = none)
      (hSubmitted : submitted raw = some (eventId, content))
      (hTask : SessionTask.fromValue content = some task)
      (hVerdict : worker.verdict config platform task = .start command)
      (hCreate : worker.finishKill.host.create platform task.uuid = .error error)
      (hSession : session.state ≠ .completed) (hTmux : session.tmux = none)
      (hGet : ∀ uuid, sessions.get uuid =
        if uuid = task.uuid then some session else worker.sessions.get uuid) :
      Effect worker (.event raw now)
        { worker.finishKill with
          sessions
          claims := worker.claims ++ [⟨matrixSender raw, task.uuid⟩]
          room := worker.room ++ [.active task.uuid active, .start eventId start]
          threadRoots := Function.update worker.threadRoots task.uuid (some eventId)
          stopped := some (.create error) }
  | started {raw : Value} {now : Nat} {eventId : String} {content : Value}
      {task : SessionTask} {command : ValidatedCommand} {host : Host} {tmux : TmuxSession}
      (removing : List String) (sessions : SessionManager) (session : Session)
      (active : ActiveSessionState) (start : SessionStart)
      (hRunning : worker.stopped = none)
      (hSubmitted : submitted raw = some (eventId, content))
      (hTask : SessionTask.fromValue content = some task)
      (hVerdict : worker.verdict config platform task = .start command)
      (hCreate : worker.finishKill.host.create platform task.uuid = .ok (host, tmux))
      (hSession : session.state ≠ .completed) (hTmux : session.tmux = some tmux)
      (hGet : ∀ uuid, sessions.get uuid =
        if uuid = task.uuid then some session else worker.sessions.get uuid) :
      Effect worker (.event raw now)
        { worker with
          host, removing, sessions
          claims := worker.claims ++ [⟨matrixSender raw, task.uuid⟩]
          room := worker.room ++ [.active task.uuid active, .start eventId start]
          threadRoots := Function.update worker.threadRoots task.uuid (some eventId)
          handled := worker.handled ++ [task] }
  | completed {uuid : String} {now : Nat} {captured : Option String} {session : Session}
      {tmux : TmuxSession} (sessions : SessionManager) (completed : CompletedSessionState)
      (hRunning : worker.stopped = none) (hGet : worker.sessions.get uuid = some session)
      (hActive : session.state ≠ .completed) (hTmux : session.tmux = some tmux)
      (hDead : worker.finishKill.host.isAlive tmux = false)
      (hRest : ∀ other, sessions.get other =
        if other = uuid then some { session with state := .completed }
        else worker.sessions.get other) :
      Effect worker (.check uuid now captured)
        { worker.finishKill with
          sessions
          room := worker.room ++ worker.finalOutputEvents uuid (captured.getD "") now ++
            (worker.finishKill.resultEvents uuid (captured.getD "")
              ((worker.finishKill.host.readExitCode platform tmux).or (some 0)) completed ++
            [RoomEvent.completed uuid completed, RoomEvent.removeActive uuid]) }

variable {config platform}

@[simp] theorem finishKill_stopped (worker : WorkerLoop) :
    worker.finishKill.stopped = worker.stopped := rfl

theorem finishKill_honest {worker : WorkerLoop} (h : worker.host.Honest) :
    worker.finishKill.host.Honest :=
  h.removeFiles worker.removing

theorem containsSession_of_verdict {worker : WorkerLoop} {task : SessionTask}
    {command : ValidatedCommand} (h : worker.verdict config platform task = .start command) :
    worker.sessions.containsSession task.uuid = false ∧ worker.threadRoots task.uuid = none := by
  unfold verdict at h
  split at h
  · cases h
  split at h
  · cases h
  split at h
  · cases h
  split at h
  · cases h
  · rename_i hSeen
    simpa using hSeen

/-- Neither the claim nor the mark of a task that is new can fail. -/
theorem start_effect {worker : WorkerLoop} {raw : Value} {now : Nat} {eventId : String}
    {content : Value} {task : SessionTask} {command : ValidatedCommand}
    (hRunning : worker.stopped = none)
      (hSubmitted : submitted raw = some (eventId, content))
    (hTask : SessionTask.fromValue content = some task)
    (hVerdict : worker.verdict config platform task = .start command) :
    Effect config platform worker (.event raw now)
      (worker.finishKill.start platform (matrixSender raw) eventId task now) := by
  obtain ⟨hNew, -⟩ := containsSession_of_verdict hVerdict
  obtain ⟨sessions, active, hClaim, -, hGet⟩ := SessionManager.claim_of_new hNew now
  have hClaim' : worker.finishKill.sessions.claim task now = .ok (sessions, active) := hClaim
  have hSelf := (hGet task.uuid).trans (if_pos rfl)
  simp only [start, hClaim']
  cases hCreate : worker.finishKill.host.create platform task.uuid with
  | error error =>
      simp only [post, hCreate]
      exact .notCreated sessions _ active _ hRunning hSubmitted hTask hVerdict hCreate
        (by simp) rfl hGet
  | ok created =>
      obtain ⟨host, tmux⟩ := created
      obtain ⟨running, hMark, hRest⟩ :=
        SessionManager.markRunning_of_claimed hSelf rfl none tmux
      simp only [post, hCreate, hMark, markHandled]
      apply Effect.started _ running
        ⟨task.uuid, task, .running, some tmux, now, worker.sessions.workerId, none⟩ active _
        hRunning hSubmitted hTask hVerdict hCreate
      · simp
      · rfl
      · intro uuid
        rw [hRest, hGet]
        by_cases hUuid : uuid = task.uuid <;> simp [hUuid]

theorem taskSubmission_effect {worker : WorkerLoop} {raw : Value} {now : Nat} {eventId : String}
    {content : Value} (hRunning : worker.stopped = none)
    (hSubmitted : submitted raw = some (eventId, content)) :
    Effect config platform worker (.event raw now)
      (worker.finishKill.taskSubmission config platform (matrixSender raw) eventId content
        now) := by
  unfold taskSubmission
  cases hTask : SessionTask.fromValue content with
  | none => exact .malformed hRunning hSubmitted hTask
  | some task =>
      have hVerdict : worker.finishKill.verdict config platform task =
          worker.verdict config platform task := rfl
      simp only [hVerdict]
      cases hCase : worker.verdict config platform task with
      | reject tail => exact .rejected hRunning hSubmitted hTask hCase
      | duplicate => exact .duplicate hRunning hSubmitted hTask hCase
      | start command => exact start_effect hRunning hSubmitted hTask hCase

theorem handleEvent_effect {worker : WorkerLoop} (raw : Value) (now : Nat)
    (hRunning : worker.stopped = none) :
    Effect config platform worker (.event raw now)
      (worker.finishKill.handleEvent config platform raw now) := by
  cases hSubmitted : submitted raw with
  | some task =>
      have hParse : parseEvent raw = some (.taskSubmission task.1 task.2) := by
        unfold submitted at hSubmitted
        split at hSubmitted
        · rename_i hParse
          injection hSubmitted with hSubmitted
          rw [hParse, ← hSubmitted]
        · cases hSubmitted
      simp only [handleEvent, hParse]
      exact taskSubmission_effect hRunning hSubmitted
  | none =>
      have hNoTask : ∀ raw' now', WorkerInput.event raw now = .event raw' now' →
          submitted raw' = none := by
        rintro raw' now' hEq
        injection hEq with hRaw
        rwa [← hRaw]
      unfold handleEvent
      split
      · rename_i hParse
        simp [submitted, hParse] at hSubmitted
      · unfold sessionCancel
        split
        · rename_i tmux _
          exact .quiet _ _ (fun h => (finishKill_honest h).killSession tmux) hRunning hNoTask
        · exact .quiet _ _ finishKill_honest hRunning hNoTask
      · exact .quiet _ _ finishKill_honest hRunning hNoTask

theorem check_effect {worker : WorkerLoop} (uuid : String) (now : Nat) (captured : Option String)
    (hRunning : worker.stopped = none) :
    Effect config platform worker (.check uuid now captured)
      (worker.finishKill.check platform uuid now captured) := by
  have hQuiet : Effect config platform worker (.check uuid now captured) worker.finishKill :=
    .quiet _ _ finishKill_honest hRunning (by rintro raw now' hEq; cases hEq)
  cases hGet : worker.sessions.get uuid with
  | none =>
      have hGet' : worker.finishKill.sessions.get uuid = none := hGet
      simpa only [check, hGet'] using hQuiet
  | some session =>
      have hGet' : worker.finishKill.sessions.get uuid = some session := hGet
      simp only [check, hGet']
      split
      · exact hQuiet
      · rename_i hActive
        split
        · rename_i tmux hTmux
          split
          · exact hQuiet
          · rename_i hDead
            obtain ⟨rest, hComplete, hRest⟩ := SessionManager.complete_of_active hGet hActive
              ((worker.finishKill.host.readExitCode platform tmux).or (some 0)) now
            have hSessions : worker.finishKill.sessions = worker.sessions := rfl
            simp only [completeSession, post, hSessions, hComplete]
            exact .completed rest _ hRunning hGet hActive hTmux (by simpa using hDead) hRest
        · exact hQuiet

theorem step_effect (config : WorkerConfig) (platform : Platform) (worker : WorkerLoop)
    (input : WorkerInput) :
    Effect config platform worker input (worker.step config platform input) := by
  unfold step
  split
  · rename_i hStopped
    exact .stopped hStopped
  · rename_i hStopped
    have hRunning : worker.stopped = none := by simpa using hStopped
    cases input with
    | event raw now => exact handleEvent_effect raw now hRunning
    | check uuid now captured => exact check_effect uuid now captured hRunning
    | removeFile =>
        simp only [removeNext]
        split
        · exact .quiet _ _ (·.of_execs rfl) hRunning (by rintro raw now hEq; cases hEq)
        · exact .quiet _ _ id hRunning (by rintro raw now hEq; cases hEq)
    | host input => exact .quiet _ _ (·.step input) hRunning (by rintro raw now hEq; cases hEq)

end WorkerLoop

end Mxdx.Worker
