import Mxdx.Worker.Loop
import Mathlib.Data.List.Count

/-! What the main loop guarantees over whole runs: who can start a task, which
results are posted for it, when a success is reported, and when the loop
returns. -/
namespace Mxdx.Worker

namespace WorkerLoop

open Automaton

variable {config : WorkerConfig} {platform : Platform}

/-- The task a raw event carries, where its content is one. -/
def taskOf (raw : Value) : Option SessionTask :=
  (submitted raw).bind fun event => SessionTask.fromValue event.2

/-- The checks of a task other than the one on its sender. -/
def PassesOtherChecks (config : WorkerConfig) (platform : Platform) (worker : WorkerLoop)
    (task : SessionTask) : Prop :=
  worker.sessions.activeSessions.length < config.maxSessions.toNat ∧
    (validateCommand platform task.bin task.args task.env task.cwd config.allowedCommands
      config.allowedCwd).isOk = true ∧
    worker.sessions.containsSession task.uuid = false ∧ worker.threadRoots task.uuid = none

instance (worker : WorkerLoop) (task : SessionTask) :
    Decidable (PassesOtherChecks config platform worker task) :=
  inferInstanceAs (Decidable (_ ∧ _ ∧ _ ∧ _))

theorem verdict_eq_start_iff (worker : WorkerLoop) (task : SessionTask) :
    (∃ command, worker.verdict config platform task = .start command) ↔
      authorized config task = true ∧ PassesOtherChecks config platform worker task := by
  unfold verdict PassesOtherChecks
  cases authorized config task with
  | false => simp
  | true =>
      by_cases hLimit : config.maxSessions.toNat ≤ worker.sessions.activeSessions.length
      · simp [hLimit, Nat.not_lt.mpr hLimit]
      · cases validateCommand platform task.bin task.args task.env task.cwd config.allowedCommands
          config.allowedCwd with
        | error error => simp [hLimit, Except.isOk, Except.toBool]
        | ok command =>
            by_cases hSeen : worker.sessions.containsSession task.uuid = true ∨
                (worker.threadRoots task.uuid).isSome = true
            · have hNot : ¬ (worker.sessions.containsSession task.uuid = false ∧
                  worker.threadRoots task.uuid = none) := by
                rintro ⟨hNew, hRoot⟩
                simp [hNew, hRoot] at hSeen
              simp [hLimit, hSeen, hNot]
            · have hNew : worker.sessions.containsSession task.uuid = false ∧
                  worker.threadRoots task.uuid = none := by
                simpa using hSeen
              simp [hLimit, hNew, Nat.lt_of_not_le hLimit, Except.isOk, Except.toBool]

/-- A worker that runs `echo` in `/tmp` for one user. -/
def echoConfig : WorkerConfig := ⟨["@alice:example.com"], 5, ["echo"], ["/tmp"]⟩

/-- A machine with `/tmp` on it, where every short socket path can be bound. -/
def plainPlatform : Platform :=
  ⟨fun _ => false, (· == "/tmp"), fun _ => "[..]", "/tmp/mxdx-tmux", fun _ => true, true⟩

def emptyLoop : WorkerLoop := new "WORKER" (fun _ => none) fun _ => none

/-- The event of an `echo` task. -/
def echoEvent (sender senderId uuid : String) : Value :=
  .obj [("type", .str "org.mxdx.session.task"), ("event_id", .str "$task"),
    ("sender", .str sender),
    ("content", .obj [("uuid", .str uuid), ("sender_id", .str senderId), ("bin", .str "echo"),
      ("args", .arr []), ("cwd", .str "/tmp")])]

def cancelEvent (uuid : String) : Value :=
  .obj [("type", .str "org.mxdx.session.cancel"), ("content", .obj [("session_uuid", .str uuid)])]

section Senders

def Listed (config : WorkerConfig) (sender : Option String) : Prop :=
  ∃ user ∈ config.authorizedUsers, sender = some user

/-- Every claimed task came in an event of a listed user. -/
def SendersListed (config : WorkerConfig) (worker : WorkerLoop) : Prop :=
  ∀ claim ∈ worker.claims, Listed config claim.sender

/-- An event whose content names a listed user, and which passes the other
checks, is from a listed user itself. -/
def NamesItsSender (config : WorkerConfig) (platform : Platform) (worker : WorkerLoop) :
    WorkerInput → Prop
  | .event raw _ =>
      worker.stopped = none → ∀ task, taskOf raw = some task →
        task.senderId ∈ config.authorizedUsers → PassesOtherChecks config platform worker task →
          Listed config (matrixSender raw)
  | _ => True

theorem authorized_iff {task : SessionTask} (hConfig : config.authorizedUsers ≠ []) :
    authorized config task = true ↔ task.senderId ∈ config.authorizedUsers := by
  have hEmpty : config.authorizedUsers.isEmpty = false := by simpa using hConfig
  rw [authorized, hEmpty, Bool.false_or, List.contains_iff_mem]

theorem sendersListed_concat {worker next : WorkerLoop} {claim : TaskClaim}
    (hClaims : next.claims = worker.claims ++ [claim]) :
    SendersListed config next ↔ SendersListed config worker ∧ Listed config claim.sender := by
  simp only [SendersListed, hClaims, List.mem_append, List.mem_singleton]
  constructor
  · intro h
    exact ⟨fun old hOld => h old (.inl hOld), h claim (.inr rfl)⟩
  · rintro ⟨hOld, hNew⟩ other (hOther | rfl)
    · exact hOld other hOther
    · exact hNew

/-- A task that is started was submitted, decoded and let through. -/
theorem namesItsSender_of_start (hConfig : config.authorizedUsers ≠ []) {worker : WorkerLoop}
    {raw : Value} {now : Nat} {eventId : String} {content : Value} {task : SessionTask}
    {command : ValidatedCommand} (hRunning : worker.stopped = none)
    (hSubmitted : submitted raw = some (eventId, content))
    (hTask : SessionTask.fromValue content = some task)
    (hVerdict : worker.verdict config platform task = .start command) :
    NamesItsSender config platform worker (.event raw now) ↔
      Listed config (matrixSender raw) := by
  obtain ⟨hAuthorized, hPasses⟩ := (verdict_eq_start_iff worker task).mp ⟨command, hVerdict⟩
  have hTaskOf : taskOf raw = some task := by simp [taskOf, hSubmitted, hTask]
  constructor
  · intro h
    exact h hRunning task hTaskOf ((authorized_iff hConfig).mp hAuthorized) hPasses
  · intro h _ _ _ _ _
    exact h

theorem namesItsSender_of_not_start (hConfig : config.authorizedUsers ≠ []) {worker : WorkerLoop}
    {raw : Value} {now : Nat}
    (h : ∀ task, taskOf raw = some task → ∀ command,
      worker.verdict config platform task ≠ .start command) :
    NamesItsSender config platform worker (.event raw now) := by
  intro _ task hTask hListed hPasses
  obtain ⟨command, hStart⟩ := (verdict_eq_start_iff worker task).mpr
    ⟨(authorized_iff hConfig).mpr hListed, hPasses⟩
  exact absurd hStart (h task hTask command)

/-- A task that is rejected or a duplicate names whom it likes. -/
theorem namesItsSender_of_refused (hConfig : config.authorizedUsers ≠ []) {worker : WorkerLoop}
    {raw : Value} {now : Nat} {eventId : String} {content : Value} {task : SessionTask}
    (hSubmitted : submitted raw = some (eventId, content))
    (hTask : SessionTask.fromValue content = some task)
    (hVerdict : ∀ command, worker.verdict config platform task ≠ .start command) :
    NamesItsSender config platform worker (.event raw now) := by
  apply namesItsSender_of_not_start hConfig
  intro other hOther
  simp only [taskOf, hSubmitted, Option.bind_some, hTask, Option.some.injEq] at hOther
  exact hOther ▸ hVerdict

theorem step_sendersListed (hConfig : config.authorizedUsers ≠ []) (worker : WorkerLoop)
    (input : WorkerInput) (hListed : SendersListed config worker) :
    SendersListed config (worker.step config platform input) ↔
      NamesItsSender config platform worker input := by
  have hEffect := step_effect config platform worker input
  generalize worker.step config platform input = next at hEffect
  cases hEffect with
  | stopped hStopped =>
      apply iff_of_true hListed
      cases input with
      | event raw now =>
          intro hRunning
          simp [hRunning] at hStopped
      | _ => trivial
  | quiet host removing hHost hRunning hNoTask =>
      apply iff_of_true hListed
      cases input with
      | event raw now =>
          apply namesItsSender_of_not_start hConfig
          intro task hTask
          simp [taskOf, hNoTask raw now rfl] at hTask
      | _ => trivial
  | malformed hRunning hSubmitted hTask =>
      apply iff_of_true hListed
      apply namesItsSender_of_not_start hConfig
      intro task hTaskOf
      simp [taskOf, hSubmitted, hTask] at hTaskOf
  | rejected hRunning hSubmitted hTask hVerdict =>
      apply iff_of_true hListed
      apply namesItsSender_of_refused hConfig hSubmitted hTask
      simp [hVerdict]
  | duplicate hRunning hSubmitted hTask hVerdict =>
      apply iff_of_true hListed
      apply namesItsSender_of_refused hConfig hSubmitted hTask
      simp [hVerdict]
  | notCreated sessions session active start hRunning hSubmitted hTask hVerdict =>
      rw [namesItsSender_of_start hConfig hRunning hSubmitted hTask hVerdict,
        sendersListed_concat rfl]
      exact and_iff_right hListed
  | started removing sessions session active start hRunning hSubmitted hTask hVerdict =>
      rw [namesItsSender_of_start hConfig hRunning hSubmitted hTask hVerdict,
        sendersListed_concat rfl]
      exact and_iff_right hListed
  | completed sessions completed hRunning => exact iff_of_true hListed trivial

/-- With a list of authorized users, the tasks of a run all come from listed
users exactly when no unlisted user sends a task that names a listed one. The
check reads the `sender_id` of the content, never the sender of the event. -/
theorem always_sendersListed_iff (config : WorkerConfig) (platform : Platform)
    (hConfig : config.authorizedUsers ≠ []) (workerId : String)
    (recovered : String → Option String) (files : String → Option File)
    (inputs : List WorkerInput) :
    Always (step config platform) (SendersListed config) (new workerId recovered files) inputs ↔
      Admissible (step config platform) (NamesItsSender config platform)
        (new workerId recovered files) inputs := by
  apply always_iff_admissible
  · exact fun worker input => step_sendersListed hConfig worker input
  · intro claim hClaim
    simp [new] at hClaim

/-- Mallory writes down Alice as the sender of her task, and it is started. -/
theorem not_always_sendersListed :
    ¬ Always (step echoConfig plainPlatform) (SendersListed echoConfig) emptyLoop
      [.event (echoEvent "@mallory:example.com" "@alice:example.com" "t1") 0] := by
  intro h
  have hClaims : (emptyLoop.step echoConfig plainPlatform
      (.event (echoEvent "@mallory:example.com" "@alice:example.com" "t1") 0)).claims =
      [⟨some "@mallory:example.com", "t1"⟩] := by
    decide +kernel
  have hAll := h.last
  rw [run_cons, run_nil, SendersListed, hClaims] at hAll
  obtain ⟨user, hUser, hSender⟩ := hAll _ List.mem_cons_self
  rw [List.mem_singleton.mp hUser] at hSender
  exact absurd hSender (by decide)

theorem always_sendersListed_of_honest :
    echoConfig.authorizedUsers ≠ [] ∧
      Always (step echoConfig plainPlatform) (SendersListed echoConfig) emptyLoop
        [.event (echoEvent "@alice:example.com" "@alice:example.com" "t1") 0] ∧
      (emptyLoop.step echoConfig plainPlatform
        (.event (echoEvent "@alice:example.com" "@alice:example.com" "t1") 0)).claims =
        [⟨some "@alice:example.com", "t1"⟩] := by
  refine ⟨by decide, ?_, by decide +kernel⟩
  apply (always_sendersListed_iff echoConfig plainPlatform (by decide) "WORKER" (fun _ => none)
    (fun _ => none) _).mpr
  refine ⟨?_, trivial⟩
  intro _ task _ _ _
  exact ⟨"@alice:example.com", by decide, by decide +kernel⟩

end Senders

section Results

/-- The tasks claimed so far. -/
def claimed (worker : WorkerLoop) : List String := worker.claims.map TaskClaim.uuid

/-- At most one result is posted for a claimed task, and none but the one
posted on its completion. -/
def OneResult (worker : WorkerLoop) : Prop :=
  ∀ uuid ∈ worker.claimed, worker.room.countP (RoomEvent.isResultOf uuid) ≤ 1 ∧
    worker.room.countP (RoomEvent.isRejectionOf uuid) = 0

/-- A task that is rejected has not been claimed, and a task that is started
has no result yet. -/
def NoStrayResult (config : WorkerConfig) (platform : Platform) (worker : WorkerLoop) :
    WorkerInput → Prop
  | .event raw _ =>
      worker.stopped = none → ∀ task ∈ taskOf raw,
        match worker.verdict config platform task with
        | .reject _ => task.uuid ∉ worker.claimed
        | .start _ => worker.room.countP (RoomEvent.isResultOf task.uuid) = 0
        | .duplicate => True
  | _ => True

/-- How claims, sessions, thread roots and completions belong together. -/
structure Books (worker : WorkerLoop) : Prop where
  claimed_iff : ∀ uuid, uuid ∈ worker.claimed ↔ (worker.sessions.get uuid).isSome = true
  rooted : ∀ uuid, (worker.sessions.get uuid).isSome = true →
    (worker.threadRoots uuid).isSome = true
  completions : ∀ uuid, worker.room.countP (RoomEvent.isCompletionOf uuid) =
    if (worker.sessions.get uuid).map Session.state = some .completed then 1 else 0

theorem countP_isResultOf (uuid : String) (room : List RoomEvent) :
    room.countP (RoomEvent.isResultOf uuid) =
      room.countP (RoomEvent.isRejectionOf uuid) + room.countP (RoomEvent.isCompletionOf uuid) := by
  induction room with
  | nil => rfl
  | cons event rest ih =>
      simp only [List.countP_cons, ih]
      cases event with
      | result threadRoot result origin =>
          cases origin <;>
            simp [RoomEvent.isResultOf, RoomEvent.isRejectionOf, RoomEvent.isCompletionOf] <;> omega
      | _ => simp [RoomEvent.isResultOf, RoomEvent.isRejectionOf, RoomEvent.isCompletionOf]

theorem countP_finalOutputEvents (kind : RoomEvent → Bool)
    (hKind : ∀ threadRoot output, kind (.output threadRoot output) = false) (worker : WorkerLoop)
    (uuid finalOutput : String) (now : Nat) :
    (worker.finalOutputEvents uuid finalOutput now).countP kind = 0 := by
  unfold finalOutputEvents
  split
  · split
    · rfl
    · simp [hKind]
  · rfl

theorem countP_resultEvents (worker : WorkerLoop) (uuid other finalOutput : String)
    (exitCode : Option Int32) (completed : CompletedSessionState) :
    (worker.resultEvents uuid finalOutput exitCode completed).countP
        (RoomEvent.isCompletionOf other) =
      if (worker.threadRoots uuid).isSome = true ∧ other = uuid then 1 else 0 := by
  unfold resultEvents
  cases worker.threadRoots uuid with
  | none => simp
  | some threadRoot =>
      by_cases hOther : other = uuid
      · simp [hOther, RoomEvent.isCompletionOf]
      · simp [hOther, Ne.symm hOther, RoomEvent.isCompletionOf]

theorem countP_rejection_resultEvents (worker : WorkerLoop) (uuid other finalOutput : String)
    (exitCode : Option Int32) (completed : CompletedSessionState) :
    (worker.resultEvents uuid finalOutput exitCode completed).countP
      (RoomEvent.isRejectionOf other) = 0 := by
  unfold resultEvents
  split <;> simp [RoomEvent.isRejectionOf]

/-- A session completes at most once, so only rejections can be in the way. -/
theorem Books.oneResult_iff {worker : WorkerLoop} (hBooks : worker.Books) :
    worker.OneResult ↔
      ∀ uuid ∈ worker.claimed, worker.room.countP (RoomEvent.isRejectionOf uuid) = 0 := by
  constructor
  · intro h uuid hUuid
    exact (h uuid hUuid).2
  · intro h uuid hUuid
    have hOnce : worker.room.countP (RoomEvent.isCompletionOf uuid) ≤ 1 := by
      rw [hBooks.completions]
      split <;> omega
    have hNone := h uuid hUuid
    rw [countP_isResultOf]
    exact ⟨by omega, hNone⟩

theorem Books.of_same {worker next : WorkerLoop} (hBooks : worker.Books)
    (hClaims : next.claims = worker.claims) (hSessions : next.sessions = worker.sessions)
    (hRoots : next.threadRoots = worker.threadRoots)
    (hRoom : ∀ uuid, next.room.countP (RoomEvent.isCompletionOf uuid) =
      worker.room.countP (RoomEvent.isCompletionOf uuid)) : next.Books where
  claimed_iff := by simpa only [claimed, hClaims, hSessions] using hBooks.claimed_iff
  rooted := by simpa only [hSessions, hRoots] using hBooks.rooted
  completions := by simpa only [hRoom, hSessions] using hBooks.completions

/-- A claimed task joins the books with a thread root and no completion. -/
theorem Books.of_start {worker next : WorkerLoop} {uuid eventId : String} {claim : TaskClaim}
    {session : Session} (hBooks : worker.Books) (hNew : worker.sessions.get uuid = none)
    (hUuid : claim.uuid = uuid) (hClaims : next.claims = worker.claims ++ [claim])
    (hGet : ∀ other, next.sessions.get other =
      if other = uuid then some session else worker.sessions.get other)
    (hState : session.state ≠ .completed)
    (hRoots : next.threadRoots = Function.update worker.threadRoots uuid (some eventId))
    (hRoom : ∀ other, next.room.countP (RoomEvent.isCompletionOf other) =
      worker.room.countP (RoomEvent.isCompletionOf other)) : next.Books where
  claimed_iff := by
    intro other
    have hOld := hBooks.claimed_iff other
    rw [claimed] at hOld ⊢
    rw [hClaims, List.map_append, List.mem_append, hOld, hGet]
    by_cases hOther : other = uuid
    · simp [hOther, hUuid]
    · simp [hOther, hUuid]
  rooted := by
    intro other hSome
    rw [hRoots]
    by_cases hOther : other = uuid
    · simp [hOther]
    · rw [hGet, if_neg hOther] at hSome
      simpa [hOther] using hBooks.rooted other hSome
  completions := by
    intro other
    have hOld := hBooks.completions other
    rw [hRoom, hOld, hGet]
    by_cases hOther : other = uuid
    · simp [hOther, hNew, hState]
    · simp [hOther]

theorem Books.of_completed {worker next : WorkerLoop} {uuid : String} {session : Session}
    (hBooks : worker.Books) (hGet : worker.sessions.get uuid = some session)
    (hActive : session.state ≠ .completed) (hClaims : next.claims = worker.claims)
    (hRest : ∀ other, next.sessions.get other =
      if other = uuid then some { session with state := .completed }
      else worker.sessions.get other)
    (hRoots : next.threadRoots = worker.threadRoots)
    (hRoom : ∀ other, next.room.countP (RoomEvent.isCompletionOf other) =
      worker.room.countP (RoomEvent.isCompletionOf other) +
        if (worker.threadRoots uuid).isSome = true ∧ other = uuid then 1 else 0) :
    next.Books := by
  have hIsSome : ∀ other,
      (next.sessions.get other).isSome = (worker.sessions.get other).isSome := by
    intro other
    rw [hRest]
    by_cases hOther : other = uuid
    · simp [hOther, hGet]
    · simp [hOther]
  constructor
  · intro other
    rw [claimed, hClaims, hIsSome]
    exact hBooks.claimed_iff other
  · intro other hSome
    rw [hIsSome] at hSome
    rw [hRoots]
    exact hBooks.rooted other hSome
  · intro other
    have hOld := hBooks.completions other
    rw [hRoom, hOld, hRest]
    by_cases hOther : other = uuid
    · have hRoot := hBooks.rooted uuid (by simp [hGet])
      simp [hOther, hGet, hActive, hRoot]
    · simp [hOther]

theorem get_of_verdict {worker : WorkerLoop} {task : SessionTask} {command : ValidatedCommand}
    (h : worker.verdict config platform task = .start command) :
    worker.sessions.get task.uuid = none := by
  have hNew := (containsSession_of_verdict h).1
  rw [SessionManager.containsSession_eq_isSome] at hNew
  simpa using hNew

theorem books_new (workerId : String) (recovered : String → Option String)
    (files : String → Option File) : (new workerId recovered files).Books := by
  constructor <;> simp [new, claimed, SessionManager.new, SessionManager.get]

theorem step_books (config : WorkerConfig) (platform : Platform) (worker : WorkerLoop)
    (input : WorkerInput) (hBooks : worker.Books) :
    (worker.step config platform input).Books := by
  have hEffect := step_effect config platform worker input
  generalize worker.step config platform input = next at hEffect
  cases hEffect with
  | stopped => exact hBooks
  | quiet => exact hBooks.of_same rfl rfl rfl fun _ => rfl
  | malformed => exact hBooks.of_same rfl rfl rfl fun _ => rfl
  | rejected =>
      refine hBooks.of_same rfl rfl rfl ?_
      intro uuid
      simp [List.countP_append, RoomEvent.isCompletionOf]
  | duplicate => exact hBooks.of_same rfl rfl rfl fun _ => rfl
  | notCreated sessions session active start hRunning hSubmitted hTask hVerdict
      hCreate hSession hTmux hGet =>
      refine hBooks.of_start (get_of_verdict hVerdict) rfl rfl hGet hSession rfl ?_
      intro other
      simp [List.countP_append, RoomEvent.isCompletionOf]
  | started removing sessions session active start hRunning hSubmitted hTask hVerdict hCreate
      hSession hTmux hGet =>
      refine hBooks.of_start (get_of_verdict hVerdict) rfl rfl hGet hSession rfl ?_
      intro other
      simp [List.countP_append, RoomEvent.isCompletionOf]
  | completed sessions completed hRunning hGet hActive hTmux hDead hRest =>
      refine hBooks.of_completed hGet hActive rfl hRest rfl ?_
      intro other
      have hOutput := countP_finalOutputEvents (RoomEvent.isCompletionOf other)
        (fun _ _ => rfl) worker
      have hRoots : worker.finishKill.threadRoots = worker.threadRoots := rfl
      simp [List.countP_append, countP_resultEvents, hOutput, hRoots, RoomEvent.isCompletionOf]

/-- A rejection breaks the rule exactly when the task has been claimed. -/
theorem oneResult_of_rejected {worker next : WorkerLoop} {uuid threadRoot : String}
    {result : SessionResult} (hNext : next.Books) (hOne : worker.OneResult)
    (hClaims : next.claims = worker.claims) (hUuid : result.sessionUuid = uuid)
    (hRoom : next.room = worker.room ++ [.result threadRoot result .rejection]) :
    next.OneResult ↔ uuid ∉ worker.claimed := by
  have hCount : ∀ other, next.room.countP (RoomEvent.isRejectionOf other) =
      worker.room.countP (RoomEvent.isRejectionOf other) + if uuid = other then 1 else 0 := by
    intro other
    simp [hRoom, List.countP_append, List.countP_singleton, RoomEvent.isRejectionOf, hUuid]
  rw [hNext.oneResult_iff, claimed, hClaims]
  constructor
  · intro h hClaimed
    have hNone := h uuid hClaimed
    simp [hCount] at hNone
  · intro hNot other hOther
    have hOld := (hOne other hOther).2
    have hNe : uuid ≠ other := by
      rintro rfl
      exact hNot hOther
    simp [hCount, hOld, hNe]

/-- A start breaks the rule exactly when the task already has a result. -/
theorem oneResult_of_start {worker next : WorkerLoop} {uuid : String} {claim : TaskClaim}
    (hBooks : worker.Books) (hNext : next.Books) (hOne : worker.OneResult)
    (hNew : worker.sessions.get uuid = none) (hUuid : claim.uuid = uuid)
    (hClaims : next.claims = worker.claims ++ [claim])
    (hRoom : ∀ other, next.room.countP (RoomEvent.isRejectionOf other) =
      worker.room.countP (RoomEvent.isRejectionOf other)) :
    next.OneResult ↔ worker.room.countP (RoomEvent.isResultOf uuid) = 0 := by
  have hCompletions : worker.room.countP (RoomEvent.isCompletionOf uuid) = 0 := by
    rw [hBooks.completions, hNew]
    rfl
  have hClaimed : next.claimed = worker.claimed ++ [uuid] := by
    rw [claimed, hClaims, List.map_append, List.map_singleton, hUuid, claimed]
  rw [hNext.oneResult_iff, countP_isResultOf, hCompletions, hClaimed]
  constructor
  · intro h
    have hSelf := h uuid (by simp)
    rw [hRoom] at hSelf
    omega
  · intro h other hOther
    rw [hRoom]
    rcases List.mem_append.mp hOther with hOther | hOther
    · exact (hOne other hOther).2
    · rw [List.mem_singleton.mp hOther]
      omega

theorem noStrayResult_iff {worker : WorkerLoop} {raw : Value} {now : Nat} {eventId : String}
    {content : Value} {task : SessionTask} (hRunning : worker.stopped = none)
    (hSubmitted : submitted raw = some (eventId, content))
    (hTask : SessionTask.fromValue content = some task) :
    NoStrayResult config platform worker (.event raw now) ↔
      match worker.verdict config platform task with
      | .reject _ => task.uuid ∉ worker.claimed
      | .start _ => worker.room.countP (RoomEvent.isResultOf task.uuid) = 0
      | .duplicate => True := by
  simp only [NoStrayResult, taskOf, hSubmitted, Option.bind_some, hTask, hRunning,
    Option.mem_some_iff]
  constructor
  · intro h
    exact h trivial task rfl
  · rintro h _ other rfl
    exact h

theorem step_oneResult (worker : WorkerLoop) (input : WorkerInput) (hBooks : worker.Books)
    (hOne : worker.OneResult) :
    (worker.step config platform input).OneResult ↔
      NoStrayResult config platform worker input := by
  have hNext := step_books config platform worker input hBooks
  have hEffect := step_effect config platform worker input
  generalize worker.step config platform input = next at hEffect hNext
  cases hEffect with
  | stopped hStopped =>
      apply iff_of_true hOne
      cases input with
      | event raw now =>
          intro hRunning
          simp [hRunning] at hStopped
      | _ => trivial
  | quiet host removing hHost hRunning hNoTask =>
      apply iff_of_true hOne
      cases input with
      | event raw now =>
          intro _ task hTask
          simp [taskOf, hNoTask raw now rfl] at hTask
      | _ => trivial
  | malformed hRunning hSubmitted hTask =>
      apply iff_of_true hOne
      intro _ task hTaskOf
      simp [taskOf, hSubmitted, hTask] at hTaskOf
  | rejected hRunning hSubmitted hTask hVerdict =>
      rw [noStrayResult_iff hRunning hSubmitted hTask, hVerdict]
      exact oneResult_of_rejected hNext hOne rfl rfl rfl
  | duplicate hRunning hSubmitted hTask hVerdict =>
      rw [noStrayResult_iff hRunning hSubmitted hTask, hVerdict]
      exact iff_of_true hOne trivial
  | notCreated sessions session active start hRunning hSubmitted hTask hVerdict =>
      rw [noStrayResult_iff hRunning hSubmitted hTask, hVerdict]
      refine oneResult_of_start hBooks hNext hOne (get_of_verdict hVerdict) rfl rfl ?_
      intro other
      simp [List.countP_append, RoomEvent.isRejectionOf]
  | started removing sessions session active start hRunning hSubmitted hTask hVerdict =>
      rw [noStrayResult_iff hRunning hSubmitted hTask, hVerdict]
      refine oneResult_of_start hBooks hNext hOne (get_of_verdict hVerdict) rfl rfl ?_
      intro other
      simp [List.countP_append, RoomEvent.isRejectionOf]
  | completed sessions completed hRunning hGet =>
      refine iff_of_true (hNext.oneResult_iff.mpr ?_) trivial
      intro other hOther
      have hOld := (hOne other hOther).2
      have hOutput := countP_finalOutputEvents (RoomEvent.isRejectionOf other)
        (fun _ _ => rfl) worker
      simp [List.countP_append, countP_rejection_resultEvents, hOutput, hOld,
        RoomEvent.isRejectionOf]

/-- Along a run every claimed task has at most one result, the one of its
completion, exactly when no task is rejected after it was claimed and none is
started after it was rejected. The duplicate guard comes after the rejections. -/
theorem always_oneResult_iff (config : WorkerConfig) (platform : Platform) (workerId : String)
    (recovered : String → Option String) (files : String → Option File)
    (inputs : List WorkerInput) :
    Always (step config platform) OneResult (new workerId recovered files) inputs ↔
      Admissible (step config platform) (NoStrayResult config platform)
        (new workerId recovered files) inputs := by
  apply always_iff_admissible_under (step_books config platform)
  · exact fun worker input => step_oneResult worker input
  · exact books_new workerId recovered files
  · intro uuid hUuid
    simp [new, claimed] at hUuid

/-- A worker with room for one session gets the task again while it runs it:
the second event finds the worker full and is answered with a failure. -/
theorem not_always_oneResult :
    ¬ Always (step { echoConfig with maxSessions := 1 } plainPlatform) OneResult emptyLoop
      [.event (echoEvent "@alice:example.com" "@alice:example.com" "t1") 0,
        .event (echoEvent "@alice:example.com" "@alice:example.com" "t1") 1] := by
  intro h
  have hOne := h.last "t1" (by decide +kernel)
  exact absurd hOne (by decide +kernel)

end Results

section Robustness

/-- The tasks among the inputs, in their order. -/
def tasksOf (inputs : List WorkerInput) : List SessionTask :=
  inputs.filterMap fun
    | .event raw _ => taskOf raw
    | _ => none

/-- A task event holds a task, and a task that is let through gets its exit
listener. -/
def Digestible (config : WorkerConfig) (platform : Platform) (worker : WorkerLoop) :
    WorkerInput → Prop
  | .event raw _ =>
      ((submitted raw).isSome = true → (taskOf raw).isSome = true) ∧
        ∀ task ∈ taskOf raw, authorized config task = true →
          PassesOtherChecks config platform worker task →
            canBind platform (exitNotifyPath platform task.uuid) = true ∧
              platform.mxdxExecExists = true
  | _ => True

theorem digestible_iff {worker : WorkerLoop} {raw : Value} {now : Nat} {eventId : String}
    {content : Value} {task : SessionTask} (hSubmitted : submitted raw = some (eventId, content))
    (hTask : SessionTask.fromValue content = some task) :
    Digestible config platform worker (.event raw now) ↔
      ((∃ command, worker.verdict config platform task = .start command) →
        canBind platform (exitNotifyPath platform task.uuid) = true ∧
          platform.mxdxExecExists = true) := by
  simp [Digestible, taskOf, hSubmitted, hTask, verdict_eq_start_iff]

theorem tasksOf_event {raw : Value} {now : Nat} {eventId : String} {content : Value}
    (hSubmitted : submitted raw = some (eventId, content)) :
    tasksOf [.event raw now] = (SessionTask.fromValue content).toList := by
  cases hTask : SessionTask.fromValue content <;> simp [tasksOf, taskOf, hSubmitted, hTask]

/-- An input stops the loop exactly when it is not digestible, and a task that
does not stop it is dealt with. -/
theorem step_digestible (config : WorkerConfig) (platform : Platform) (worker : WorkerLoop)
    (input : WorkerInput) (hRunning : worker.stopped = none) :
    ((worker.step config platform input).stopped = none ↔
        Digestible config platform worker input) ∧
      ((worker.step config platform input).stopped = none →
        (worker.step config platform input).handled = worker.handled ++ tasksOf [input]) := by
  have hEffect := step_effect config platform worker input
  generalize worker.step config platform input = next at hEffect
  cases hEffect with
  | stopped hStopped => simp [hRunning] at hStopped
  | quiet host removing hHost hRunning hNoTask =>
      cases input with
      | event raw now =>
          have hNone := hNoTask raw now rfl
          simp [Digestible, taskOf, tasksOf, hNone, hRunning]
      | _ => simp [Digestible, tasksOf, hRunning]
  | malformed hRunning hSubmitted hTask =>
      simp [Digestible, taskOf, hSubmitted, hTask]
  | rejected hRunning hSubmitted hTask hVerdict =>
      rw [digestible_iff hSubmitted hTask, tasksOf_event hSubmitted, hTask, hVerdict]
      simp [hRunning]
  | duplicate hRunning hSubmitted hTask hVerdict =>
      rw [digestible_iff hSubmitted hTask, tasksOf_event hSubmitted, hTask, hVerdict]
      simp [hRunning]
  | notCreated sessions session active start hRunning hSubmitted hTask hVerdict
      hCreate =>
      have hNot := Host.create_isOk_iff platform worker.finishKill.host
      rw [digestible_iff hSubmitted hTask, ← hNot, hCreate, hVerdict]
      simp [Except.isOk, Except.toBool]
  | started removing sessions session active start hRunning hSubmitted hTask hVerdict hCreate =>
      have hOk := Host.create_isOk_iff platform worker.finishKill.host
      rw [digestible_iff hSubmitted hTask, ← hOk, hCreate, hVerdict, tasksOf_event hSubmitted,
        hTask]
      simp [Except.isOk, Except.toBool, hRunning]
  | completed sessions completed hRunning => simp [Digestible, tasksOf, finishKill, hRunning]

theorem run_of_stopped {worker : WorkerLoop} (hStopped : worker.stopped.isSome = true)
    (inputs : List WorkerInput) : run (step config platform) worker inputs = worker := by
  induction inputs with
  | nil => rfl
  | cons input rest ih =>
      have hSame : worker.step config platform input = worker := by simp [step, hStopped]
      rw [run_cons, hSame, ih]

/-- The loop gets through its events, every task among them dealt with, exactly
when each task event holds a task and each task that is let through gets its
exit listener. -/
theorem run_handles_tasks_iff (config : WorkerConfig) (platform : Platform) (worker : WorkerLoop)
    (hRunning : worker.stopped = none) (inputs : List WorkerInput) :
    ((run (step config platform) worker inputs).stopped = none ∧
        (run (step config platform) worker inputs).handled = worker.handled ++ tasksOf inputs) ↔
      Admissible (step config platform) (Digestible config platform) worker inputs := by
  induction inputs generalizing worker with
  | nil => simp [tasksOf, Admissible, hRunning]
  | cons input rest ih =>
      obtain ⟨hIff, hHandled⟩ := step_digestible config platform worker input hRunning
      cases hNext : (worker.step config platform input).stopped with
      | none =>
          have hTasks : tasksOf (input :: rest) = tasksOf [input] ++ tasksOf rest :=
            List.filterMap_append (l := [input])
          rw [run_cons, hTasks, ← List.append_assoc, ← hHandled hNext, ih _ hNext]
          exact (and_iff_right (hIff.mp hNext)).symm
      | some error =>
          have hStopped : (worker.step config platform input).stopped.isSome = true := by
            simp [hNext]
          rw [run_cons, run_of_stopped hStopped, hNext]
          apply iff_of_false
          · simp
          · intro h
            simp [hIff.mpr h.1] at hNext

/-- One event with a task type and no task in it stops the worker. -/
theorem not_run_handles_tasks :
    ¬ ((run (step echoConfig plainPlatform) emptyLoop
          [.event (.obj [("type", .str "org.mxdx.session.task")]) 0,
            .event (echoEvent "@alice:example.com" "@alice:example.com" "t1") 1]).stopped = none ∧
        (run (step echoConfig plainPlatform) emptyLoop
          [.event (.obj [("type", .str "org.mxdx.session.task")]) 0,
            .event (echoEvent "@alice:example.com" "@alice:example.com" "t1") 1]).handled =
          tasksOf [.event (.obj [("type", .str "org.mxdx.session.task")]) 0,
            .event (echoEvent "@alice:example.com" "@alice:example.com" "t1") 1]) := by
  intro h
  exact absurd h.1 (by decide +kernel)

theorem run_handles_echo :
    emptyLoop.stopped = none ∧
      (run (step echoConfig plainPlatform) emptyLoop
          [.event (.str "junk") 0,
            .event (echoEvent "@alice:example.com" "@alice:example.com" "t1") 1]).stopped = none ∧
        ((run (step echoConfig plainPlatform) emptyLoop
          [.event (.str "junk") 0,
            .event (echoEvent "@alice:example.com" "@alice:example.com" "t1") 1]).handled.map
              SessionTask.uuid) = ["t1"] := by
  have hDigestible : Admissible (step echoConfig plainPlatform)
      (Digestible echoConfig plainPlatform) emptyLoop
      [.event (.str "junk") 0,
        .event (echoEvent "@alice:example.com" "@alice:example.com" "t1") 1] := by
    have hUuid : (taskOf (echoEvent "@alice:example.com" "@alice:example.com" "t1")).map
        SessionTask.uuid = some "t1" := by
      decide +kernel
    refine ⟨⟨by decide +kernel, ?_⟩, ⟨by decide +kernel, ?_⟩, trivial⟩
    · intro task hTask
      cases hTask
    · intro task hTask _ _
      rw [Option.mem_def.mp hTask, Option.map_some, Option.some.injEq] at hUuid
      rw [hUuid]
      decide +kernel
  obtain ⟨hStopped, hHandled⟩ :=
    (run_handles_tasks_iff echoConfig plainPlatform emptyLoop rfl _).mpr hDigestible
  refine ⟨rfl, hStopped, ?_⟩
  rw [hHandled]
  decide +kernel

end Robustness

section Truthfulness

/-- Success is reported only of a command that exited with code 0, in a session
that was not cancelled and whose exit code had been received. -/
def TruthfulSuccess (worker : WorkerLoop) : Prop :=
  ∀ threadRoot result origin, RoomEvent.result threadRoot result origin ∈ worker.room →
    result.status = .success → ∃ exec, origin = .completion (some exec) ∧
      exec.ended = some (.exited 0) ∧ exec.received.isSome = true ∧ exec.cancelled = false

/-- A session found dead has a failure in its exit file, or the session was not
cancelled and the file is what its background task has received. -/
def ExitFileReady (platform : Platform) (worker : WorkerLoop) : WorkerInput → Prop
  | .check uuid _ _ =>
      ∀ session ∈ worker.sessions.get uuid, ∀ tmux ∈ session.tmux,
        worker.finishKill.host.isAlive tmux = false →
          (∃ code, worker.finishKill.host.readExitCode platform tmux = some code ∧ code ≠ 0) ∨
            ∃ exec line, worker.host.execs uuid = some exec ∧ exec.received = some line ∧
              exec.cancelled = false ∧
              worker.finishKill.host.files (exitFile platform uuid) = some (.text (trim line))
  | _ => True

/-- The lines of the host are honest, and a session is named after its task. -/
structure Traceable (worker : WorkerLoop) : Prop where
  honest : worker.host.Honest
  named : ∀ uuid session tmux, worker.sessions.get uuid = some session →
    session.tmux = some tmux → tmux.sessionName = uuid
  truthful : worker.TruthfulSuccess

theorem finishKill_execs (worker : WorkerLoop) :
    worker.finishKill.host.execs = worker.host.execs := by
  have hFold : ∀ (paths : List String) (host : Host),
      (paths.foldl Host.removeFile host).execs = host.execs := by
    intro paths
    induction paths with
    | nil => intro host; rfl
    | cons path rest ih => intro host; exact ih (host.removeFile path)
  exact hFold worker.removing worker.host

/-- What a completion reports as success did succeed. -/
theorem exited_of_success {worker : WorkerLoop} {uuid : String} {now : Nat}
    {captured : Option String} {session : Session} {tmux : TmuxSession}
    (hTrace : worker.Traceable)
    (hReady : ExitFileReady platform worker (.check uuid now captured))
    (hGet : worker.sessions.get uuid = some session) (hTmux : session.tmux = some tmux)
    (hDead : worker.finishKill.host.isAlive tmux = false)
    (hSuccess : statusOf ((worker.finishKill.host.readExitCode platform tmux).or (some 0)) =
      .success) :
    ∃ exec, worker.finishKill.host.execs uuid = some exec ∧ exec.ended = some (.exited 0) ∧
      exec.received.isSome = true ∧ exec.cancelled = false := by
  have hZero : (worker.finishKill.host.readExitCode platform tmux).or (some 0) = some 0 := by
    by_contra hNot
    rw [statusOf, if_neg hNot] at hSuccess
    cases hSuccess
  rcases hReady session hGet tmux hTmux hDead with
    ⟨code, hCode, hNonzero⟩ | ⟨exec, line, hExec, hReceived, hCancelled, hFile⟩
  · rw [hCode, Option.some_or, Option.some.injEq] at hZero
    exact absurd hZero hNonzero
  · obtain ⟨how, hEnded, hLine⟩ := hTrace.honest uuid exec hExec line (.inr hReceived)
    rw [← hTrace.named uuid session tmux hGet hTmux] at hFile
    have hCode := Host.readExitCode_of_received hLine hFile
    rw [hCode, Option.some_or, Option.some.injEq, ProcessEnd.exitCode_eq_zero_iff] at hZero
    rw [finishKill_execs]
    exact ⟨exec, hExec, hZero ▸ hEnded, by simp [hReceived], hCancelled⟩

theorem TruthfulSuccess.append {worker next : WorkerLoop} {events : List RoomEvent}
    (h : worker.TruthfulSuccess) (hRoom : next.room = worker.room ++ events)
    (hEvents : ∀ threadRoot result origin, RoomEvent.result threadRoot result origin ∈ events →
      result.status = .success → ∃ exec, origin = .completion (some exec) ∧
        exec.ended = some (.exited 0) ∧ exec.received.isSome = true ∧ exec.cancelled = false) :
    next.TruthfulSuccess := by
  intro threadRoot result origin hMem
  rw [hRoom, List.mem_append] at hMem
  rcases hMem with hMem | hMem
  · exact h threadRoot result origin hMem
  · exact hEvents threadRoot result origin hMem

theorem Traceable.named_of_start {worker : WorkerLoop} {sessions : SessionManager}
    {uuid : String} {session : Session} (hTrace : worker.Traceable)
    (hGet : ∀ other, sessions.get other =
      if other = uuid then some session else worker.sessions.get other)
    (hNamed : ∀ tmux, session.tmux = some tmux → tmux.sessionName = uuid) :
    ∀ other found tmux, sessions.get other = some found → found.tmux = some tmux →
      tmux.sessionName = other := by
  intro other found tmux hFound hTmux
  rw [hGet] at hFound
  by_cases hOther : other = uuid
  · rw [if_pos hOther, Option.some.injEq] at hFound
    rw [hOther]
    exact hNamed tmux (hFound ▸ hTmux)
  · rw [if_neg hOther] at hFound
    exact hTrace.named other found tmux hFound hTmux

theorem result_not_mem_finalOutputEvents {worker : WorkerLoop} {uuid finalOutput : String}
    {now : Nat} {threadRoot : String} {result : SessionResult} {origin : Origin} :
    RoomEvent.result threadRoot result origin ∉ worker.finalOutputEvents uuid finalOutput now := by
  unfold finalOutputEvents
  split
  · split <;> simp
  · simp

theorem of_mem_resultEvents {worker : WorkerLoop} {uuid finalOutput : String}
    {exitCode : Option Int32} {completed : CompletedSessionState} {threadRoot : String}
    {result : SessionResult} {origin : Origin}
    (h : RoomEvent.result threadRoot result origin ∈
      worker.resultEvents uuid finalOutput exitCode completed) :
    origin = .completion (worker.host.execs uuid) ∧ result.status = statusOf exitCode := by
  unfold resultEvents at h
  split at h
  · simp only [List.mem_singleton, RoomEvent.result.injEq] at h
    obtain ⟨-, rfl, rfl⟩ := h
    exact ⟨rfl, rfl⟩
  · simp at h

theorem step_traceable (config : WorkerConfig) (platform : Platform) (worker : WorkerLoop)
    (input : WorkerInput) (hTrace : worker.Traceable)
    (hReady : ExitFileReady platform worker input) :
    (worker.step config platform input).Traceable := by
  have hEffect := step_effect config platform worker input
  generalize worker.step config platform input = next at hEffect
  cases hEffect with
  | stopped => exact hTrace
  | quiet host removing hHost => exact ⟨hHost hTrace.honest, hTrace.named, hTrace.truthful⟩
  | malformed => exact ⟨finishKill_honest hTrace.honest, hTrace.named, hTrace.truthful⟩
  | rejected =>
      refine ⟨finishKill_honest hTrace.honest, hTrace.named, hTrace.truthful.append rfl ?_⟩
      intro threadRoot result origin hMem hSuccess
      simp only [List.mem_singleton, RoomEvent.result.injEq] at hMem
      rw [hMem.2.1] at hSuccess
      cases hSuccess
  | duplicate => exact ⟨finishKill_honest hTrace.honest, hTrace.named, hTrace.truthful⟩
  | notCreated sessions session active start hRunning hSubmitted hTask hVerdict hCreate hSession
      hTmux hGet =>
      refine ⟨finishKill_honest hTrace.honest, hTrace.named_of_start hGet ?_,
        hTrace.truthful.append rfl ?_⟩
      · intro tmux hSome
        rw [hTmux] at hSome
        cases hSome
      · intro threadRoot result origin hMem
        simp at hMem
  | started removing sessions session active start hRunning hSubmitted hTask hVerdict hCreate
      hSession hTmux hGet =>
      refine ⟨(finishKill_honest hTrace.honest).create hCreate,
        hTrace.named_of_start hGet ?_, hTrace.truthful.append rfl ?_⟩
      · intro tmux hSome
        rw [hTmux, Option.some.injEq] at hSome
        rw [← hSome, (Host.eq_of_create hCreate).2]
      · intro threadRoot result origin hMem
        simp at hMem
  | completed sessions completed hRunning hGet hActive hTmux hDead hRest =>
      refine ⟨finishKill_honest hTrace.honest, hTrace.named_of_start hRest ?_,
        hTrace.truthful.append (List.append_assoc ..) ?_⟩
      · intro tmux hSome
        exact hTrace.named _ _ tmux hGet hSome
      · intro threadRoot result origin hMem hSuccess
        rcases List.mem_append.mp hMem with hOutput | hMem
        · exact absurd hOutput result_not_mem_finalOutputEvents
        · rcases List.mem_append.mp hMem with hResult | hRest
          · obtain ⟨hOrigin, hStatus⟩ := of_mem_resultEvents hResult
            rw [hStatus] at hSuccess
            obtain ⟨exec, hExec, hFacts⟩ :=
              exited_of_success hTrace hReady hGet hTmux hDead hSuccess
            exact ⟨exec, hExec ▸ hOrigin, hFacts⟩
          · simp at hRest

/-- As long as a session is found dead only when its exit file is ready, no
success is reported that is not one, whatever the order in which commands end,
lines travel, sessions are cancelled and the loop looks for dead sessions. -/
theorem always_truthfulSuccess (config : WorkerConfig) (platform : Platform) (workerId : String)
    (recovered : String → Option String) (files : String → Option File)
    (inputs : List WorkerInput)
    (hReady : Admissible (step config platform) (ExitFileReady platform)
      (new workerId recovered files) inputs) :
    Always (step config platform) TruthfulSuccess (new workerId recovered files) inputs := by
  have hStart : (new workerId recovered files).Traceable := by
    constructor
    · intro sessionName exec hExec
      simp [new] at hExec
    · intro uuid session tmux hGet
      simp [new, SessionManager.new, SessionManager.get] at hGet
    · intro threadRoot result origin hMem
      simp [new] at hMem
  exact (hReady.always (step_traceable config platform) hStart).mono fun _ h => h.truthful

/-- A command is cancelled while it runs; its exit file is missing, and it is
reported as a success. -/
theorem not_always_truthfulSuccess :
    ¬ Always (step echoConfig plainPlatform) TruthfulSuccess emptyLoop
      [.event (echoEvent "@alice:example.com" "@alice:example.com" "t1") 0,
        .event (cancelEvent "t1") 1, .check "t1" 2 none] := by
  intro h
  have hRoom : RoomEvent.result "$task" ⟨"t1", "WORKER", .success, some 0, 2, some ""⟩
      (.completion (some ⟨false, none, false, none, none, true⟩)) ∈
      (run (step echoConfig plainPlatform) emptyLoop
        [.event (echoEvent "@alice:example.com" "@alice:example.com" "t1") 0,
          .event (cancelEvent "t1") 1, .check "t1" 2 none]).room := by
    decide +kernel
  obtain ⟨exec, hExec, hEnded, -⟩ := h.last _ _ _ hRoom rfl
  injection hExec with hExec
  rw [← Option.some.inj hExec] at hEnded
  cases hEnded

/-- The command exits with code 0, its line is received, and then the loop
looks for it. -/
theorem always_truthfulSuccess_of_echo :
    Always (step echoConfig plainPlatform) TruthfulSuccess emptyLoop
        [.event (echoEvent "@alice:example.com" "@alice:example.com" "t1") 0,
          .host (.processEnds "t1" (.exited 0)), .host (.notifyExit "t1"),
          .host (.execExits "t1"), .host (.receiveLine "t1"), .check "t1" 2 none] ∧
      (run (step echoConfig plainPlatform) emptyLoop
        [.event (echoEvent "@alice:example.com" "@alice:example.com" "t1") 0,
          .host (.processEnds "t1" (.exited 0)), .host (.notifyExit "t1"),
          .host (.execExits "t1"), .host (.receiveLine "t1"), .check "t1" 2 none]).room.countP
            (RoomEvent.isCompletionOf "t1") = 1 := by
  refine ⟨?_, by decide +kernel⟩
  apply always_truthfulSuccess echoConfig plainPlatform "WORKER" (fun _ => none) (fun _ => none)
  refine ⟨trivial, trivial, trivial, trivial, trivial, ?_, trivial⟩
  intro session _ tmux _ _
  exact .inr ⟨⟨false, some (.exited 0), true, none, some ['0'], false⟩, ['0'],
    by decide +kernel, rfl, rfl, by decide +kernel⟩

end Truthfulness

end WorkerLoop

end Mxdx.Worker
