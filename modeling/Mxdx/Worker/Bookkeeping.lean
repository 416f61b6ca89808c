import Mxdx.Worker.LoopInvariant
import Mxdx.Worker.SessionMux
import Mathlib.Logic.Relation

/-! The books around the main loop: the session manager, the thread roots, the
session mux and the sessions file are kept by different parts of the loop body.
At the top of the loop they agree. -/
namespace Mxdx.Worker

open Automaton

/-- The moves of a session: it is claimed, then runs, then is completed. -/
inductive StateMove : Option SessionState → Option SessionState → Prop where
  | claim : StateMove none (some .claimed)
  | run : StateMove (some .claimed) (some .running)
  | complete : StateMove (some .running) (some .completed)

/-- One session makes a move and the others stay as they are. -/
def SessionManager.Move (before after : SessionManager) : Prop :=
  ∃ uuid, StateMove ((before.get uuid).map Session.state) ((after.get uuid).map Session.state) ∧
    ∀ other, other ≠ uuid → after.get other = before.get other

/-- A session was started or completed. -/
def RoomEvent.isMilestone : RoomEvent → Bool
  | .start _ _ => true
  | .completed _ _ => true
  | _ => false

/-- A session as the sessions file has it. -/
structure PersistedSession where
  uuid : String
  tmuxSession : String
  bin : String
  args : List String
  startedAt : String
  threadRoot : Option String
deriving DecidableEq

/-- The main loop with the mux and the sessions file. -/
structure WorkerBooks where
  loop : WorkerLoop
  mux : SessionMux
  file : Option (List PersistedSession)

namespace WorkerBooks

/-- What the file says of the sessions that go on. -/
def persisted (loop : WorkerLoop) : List PersistedSession :=
  loop.sessions.activeSessions.map fun session =>
    ⟨session.uuid, session.uuid, session.task.bin, session.task.args,
      toString session.startedAt, loop.threadRoots session.uuid⟩

/-- With no active session the file is removed. -/
def persistActiveSessions (books : WorkerBooks) : WorkerBooks :=
  { books with
    file := if (persisted books.loop).isEmpty then none else some (persisted books.loop) }

variable (config : WorkerConfig) (platform : Platform) (roomId : String)

/-- An interactive session is registered under the room of the worker. -/
def registerInteractive (books : WorkerBooks) (task : SessionTask) : WorkerBooks :=
  if task.interactive then
    { books with mux := books.mux.addSession task.uuid roomId task.senderId }
  else books

/-- The books are brought up to date once the session runs. -/
def start (books : WorkerBooks) (sender : Option String) (eventId : String) (task : SessionTask)
    (now : Nat) : WorkerBooks :=
  let started := { books with loop := books.loop.start platform sender eventId task now }
  if started.loop.stopped.isSome then started
  else started.persistActiveSessions.registerInteractive roomId task

/-- The file is written once the session runs. -/
def taskSubmission (books : WorkerBooks) (sender : Option String) (eventId : String)
    (content : Value) (now : Nat) : WorkerBooks :=
  match SessionTask.fromValue content with
  | none => { books with loop := books.loop.stop .malformedTask }
  | some task =>
      match books.loop.verdict config platform task with
      | .reject tail =>
          { books with loop := (books.loop.reject eventId task tail).markHandled task }
      | .duplicate => { books with loop := books.loop.markHandled task }
      | .start _ => books.start platform roomId sender eventId task now

/-- Only submissions and cancellations touch the books. -/
def handleEvent (books : WorkerBooks) (raw : Value) (now : Nat) : WorkerBooks :=
  match parseEvent raw with
  | some (.taskSubmission eventId content) =>
      books.taskSubmission config platform roomId (matrixSender raw) eventId content now
  | some (.sessionCancel uuid _) => { books with loop := books.loop.sessionCancel platform uuid }
  | _ => books

/-- The file is written without the session. -/
def completeSession (books : WorkerBooks) (uuid : String) (tmux : TmuxSession) (now : Nat)
    (captured : Option String) : WorkerBooks :=
  let reported := { books with loop := books.loop.completeSession platform uuid tmux now captured }
  if reported.loop.stopped.isSome then reported
  else { reported with mux := reported.mux.removeSession uuid }.persistActiveSessions

/-- A session whose process has ended is completed. -/
def check (books : WorkerBooks) (uuid : String) (now : Nat) (captured : Option String) :
    WorkerBooks :=
  match books.loop.sessions.get uuid with
  | some session =>
      if session.state = .completed then books
      else
        match session.tmux with
        | some tmux =>
            if books.loop.host.isAlive tmux then books
            else books.completeSession platform uuid tmux now captured
        | none => books
  | none => books

/-- A worker that has stopped does nothing. -/
def step (books : WorkerBooks) (input : WorkerInput) : WorkerBooks :=
  if books.loop.stopped.isSome then books
  else
    let freed := { books with loop := books.loop.finishKill }
    match input with
    | .event raw now => freed.handleEvent config platform roomId raw now
    | .check uuid now captured => freed.check platform uuid now captured
    | other => { books with loop := books.loop.step config platform other }

/-- A fresh worker; the sessions file is what an earlier one has left. -/
def new (workerId : String) (recovered : String → Option String) (files : String → Option File)
    (file : Option (List PersistedSession)) : WorkerBooks :=
  ⟨.new workerId recovered files, .new, file⟩

@[simp] theorem loop_registerInteractive (books : WorkerBooks) (task : SessionTask) :
    (books.registerInteractive roomId task).loop = books.loop := by
  unfold registerInteractive
  split <;> rfl

theorem loop_start (books : WorkerBooks) (sender : Option String) (eventId : String)
    (task : SessionTask) (now : Nat) :
    (books.start platform roomId sender eventId task now).loop =
      books.loop.start platform sender eventId task now := by
  unfold start
  dsimp only
  split
  · rfl
  · rw [loop_registerInteractive]
    rfl

theorem loop_check (books : WorkerBooks) (uuid : String) (now : Nat) (captured : Option String) :
    (books.check platform uuid now captured).loop =
      books.loop.check platform uuid now captured := by
  unfold check WorkerLoop.check
  cases books.loop.sessions.get uuid with
  | none => rfl
  | some session =>
      dsimp only
      split
      · rfl
      · cases session.tmux with
        | none => rfl
        | some tmux =>
            dsimp only
            split
            · rfl
            · unfold completeSession
              dsimp only
              split <;> rfl

/-- The books follow the loop and never lead it. -/
theorem loop_step (books : WorkerBooks) (input : WorkerInput) :
    (books.step config platform roomId input).loop = books.loop.step config platform input := by
  unfold step WorkerLoop.step
  split
  · rfl
  · rename_i hRunning
    cases input with
    | event raw now =>
        dsimp only [handleEvent, WorkerLoop.handleEvent]
        cases parseEvent raw with
        | none => rfl
        | some event =>
            cases event with
            | taskSubmission eventId content =>
                dsimp only [taskSubmission, WorkerLoop.taskSubmission]
                cases SessionTask.fromValue content with
                | none => rfl
                | some task =>
                    dsimp only
                    cases books.loop.finishKill.verdict config platform task with
                    | reject tail => rfl
                    | duplicate => rfl
                    | start command => exact loop_start platform roomId _ _ _ _ _
            | _ => rfl
    | check uuid now captured => exact loop_check platform _ uuid now captured
    | removeFile => rfl
    | host input => rfl

/-- What a step does to the books. -/
inductive Effect (books : WorkerBooks) : WorkerBooks → Prop where
  | kept (loop : WorkerLoop) (hSessions : loop.sessions = books.loop.sessions)
      (hRoots : loop.threadRoots = books.loop.threadRoots)
      (hRoom : loop.room.any RoomEvent.isMilestone = books.loop.room.any RoomEvent.isMilestone) :
      Effect books { books with loop }
  | stopped (loop : WorkerLoop) (hStopped : loop.stopped.isSome = true)
      (hMoves : Relation.ReflTransGen SessionManager.Move books.loop.sessions loop.sessions) :
      Effect books { books with loop }
  | started (loop : WorkerLoop) {task : SessionTask} {command : ValidatedCommand} {now : Nat}
      {eventId : String} {claimed : SessionManager} {active : ActiveSessionState}
      {tmux : TmuxSession} (hVerdict : books.loop.verdict config platform task = .start command)
      (hClaim : books.loop.sessions.claim task now = .ok (claimed, active))
      (hMark : claimed.markRunning task.uuid none tmux = .ok loop.sessions)
      (hRoots : loop.threadRoots =
        Function.update books.loop.threadRoots task.uuid (some eventId)) :
      Effect books
        (({ books with loop }).persistActiveSessions.registerInteractive roomId task)
  | completed (loop : WorkerLoop) {uuid : String} {session : Session} {exitCode : Option Int32}
      {now : Nat} {completed : CompletedSessionState}
      (hGet : books.loop.sessions.get uuid = some session) (hActive : session.state ≠ .completed)
      (hComplete : books.loop.sessions.complete uuid exitCode now = .ok (loop.sessions, completed))
      (hRoots : loop.threadRoots = books.loop.threadRoots) :
      Effect books ({ books with
        loop, mux := books.mux.removeSession uuid }).persistActiveSessions

variable {config platform roomId}

theorem get_of_new {manager : SessionManager} {uuid : String}
    (hNew : manager.containsSession uuid = false) : manager.get uuid = none := by
  rwa [SessionManager.containsSession_eq_isSome, Option.isSome_eq_false_iff,
    Option.isNone_iff_eq_none] at hNew

theorem get_of_claim {manager claimed : SessionManager} {task : SessionTask} {now : Nat}
    {active : ActiveSessionState} (hNew : manager.containsSession task.uuid = false)
    (hClaim : manager.claim task now = .ok (claimed, active)) (uuid : String) :
    claimed.get uuid =
      if uuid = task.uuid then
        some ⟨task.uuid, task, .claimed, none, now, manager.workerId, none⟩
      else manager.get uuid := by
  obtain ⟨other, _, hOther, -, hGet⟩ := SessionManager.claim_of_new hNew now
  rw [hClaim] at hOther
  injection hOther with hOther
  injection hOther with hOther _
  rw [hOther, hGet]

/-- A session that was started is the only one that changed. -/
theorem get_of_started {manager claimed running : SessionManager} {task : SessionTask}
    {now : Nat} {active : ActiveSessionState} {tmux : TmuxSession}
    (hNew : manager.containsSession task.uuid = false)
    (hClaim : manager.claim task now = .ok (claimed, active))
    (hMark : claimed.markRunning task.uuid none tmux = .ok running) (uuid : String) :
    running.get uuid =
      if uuid = task.uuid then
        some ⟨task.uuid, task, .running, some tmux, now, manager.workerId, none⟩
      else manager.get uuid := by
  have hGet := get_of_claim hNew hClaim
  obtain ⟨last, hLast, hRest⟩ := SessionManager.markRunning_of_claimed
    ((hGet task.uuid).trans (if_pos rfl)) rfl none tmux
  rw [hMark] at hLast
  injection hLast with hLast
  rw [hLast, hRest, hGet]
  by_cases hUuid : uuid = task.uuid <;> simp [hUuid]

theorem move_of_claim {manager claimed : SessionManager} {task : SessionTask} {now : Nat}
    {active : ActiveSessionState} (hNew : manager.containsSession task.uuid = false)
    (hClaim : manager.claim task now = .ok (claimed, active)) :
    SessionManager.Move manager claimed := by
  have hGet := get_of_claim hNew hClaim
  refine ⟨task.uuid, ?_, fun other hOther => (hGet other).trans (if_neg hOther)⟩
  rw [get_of_new hNew, hGet, if_pos rfl]
  exact .claim

theorem move_of_markRunning {manager claimed running : SessionManager} {task : SessionTask}
    {now : Nat} {active : ActiveSessionState} {tmux : TmuxSession}
    (hNew : manager.containsSession task.uuid = false)
    (hClaim : manager.claim task now = .ok (claimed, active))
    (hMark : claimed.markRunning task.uuid none tmux = .ok running) :
    SessionManager.Move claimed running := by
  have hGet := get_of_claim hNew hClaim
  have hRunning := get_of_started hNew hClaim hMark
  refine ⟨task.uuid, ?_, ?_⟩
  · rw [hGet, hRunning, if_pos rfl, if_pos rfl]
    exact .run
  · intro other hOther
    rw [hGet, hRunning, if_neg hOther, if_neg hOther]

theorem start_effect {books : WorkerBooks} {task : SessionTask} {command : ValidatedCommand}
    (hRunning : books.loop.stopped = none)
    (hVerdict : books.loop.verdict config platform task = .start command)
    (sender : Option String) (eventId : String) (now : Nat) :
    Effect config platform roomId books
      (books.start platform roomId sender eventId task now) := by
  obtain ⟨hNew, -⟩ := WorkerLoop.containsSession_of_verdict hVerdict
  obtain ⟨claimed, active, hClaim, -, hGet⟩ := SessionManager.claim_of_new hNew now
  have hSelf := (hGet task.uuid).trans (if_pos rfl)
  simp only [start, WorkerLoop.start, hClaim]
  cases hCreate : books.loop.host.create platform task.uuid with
  | error error =>
      simp only [WorkerLoop.post, hCreate]
      exact .stopped _ rfl (.single (move_of_claim hNew hClaim))
  | ok created =>
      obtain ⟨host, tmux⟩ := created
      obtain ⟨running, hMark, -⟩ := SessionManager.markRunning_of_claimed hSelf rfl none tmux
      simp only [WorkerLoop.post, hCreate, hMark, WorkerLoop.markHandled, hRunning,
        Option.isSome_none, Bool.false_eq_true, ↓reduceIte]
      exact .started _ hVerdict hClaim hMark rfl

theorem taskSubmission_effect {books : WorkerBooks} (hRunning : books.loop.stopped = none)
    (sender : Option String) (eventId : String) (content : Value) (now : Nat) :
    Effect config platform roomId books
      (books.taskSubmission config platform roomId sender eventId content now) := by
  unfold taskSubmission
  split
  · exact .stopped _ rfl .refl
  · rename_i task _
    split
    · exact .kept _ rfl rfl (by
        simp [WorkerLoop.reject, WorkerLoop.post, WorkerLoop.markHandled, RoomEvent.isMilestone])
    · exact .kept _ rfl rfl rfl
    · rename_i command hVerdict
      exact start_effect hRunning hVerdict sender eventId now

theorem handleEvent_effect (books : WorkerBooks) (hRunning : books.loop.stopped = none)
    (raw : Value) (now : Nat) :
    Effect config platform roomId books (books.handleEvent config platform roomId raw now) := by
  unfold handleEvent
  split
  · exact taskSubmission_effect hRunning _ _ _ _
  · apply Effect.kept
    all_goals
      unfold WorkerLoop.sessionCancel
      split <;> rfl
  · exact .kept _ rfl rfl rfl

theorem check_effect (books : WorkerBooks) (hRunning : books.loop.stopped = none) (uuid : String)
    (now : Nat) (captured : Option String) :
    Effect config platform roomId books (books.check platform uuid now captured) := by
  unfold check
  cases hGet : books.loop.sessions.get uuid with
  | none => exact .kept _ rfl rfl rfl
  | some session =>
      dsimp only
      split
      · exact .kept _ rfl rfl rfl
      · rename_i hActive
        split
        · rename_i tmux _
          split
          · exact .kept _ rfl rfl rfl
          · obtain ⟨rest, hComplete, -⟩ := SessionManager.complete_of_active hGet hActive
              ((books.loop.host.readExitCode platform tmux).or (some 0)) now
            simp only [completeSession, WorkerLoop.completeSession, WorkerLoop.post, hComplete,
              hRunning, Option.isSome_none, Bool.false_eq_true, ↓reduceIte]
            exact .completed _ hGet hActive hComplete rfl
        · exact .kept _ rfl rfl rfl

theorem Effect.of_finishKill {books next : WorkerBooks}
    (h : Effect config platform roomId { books with loop := books.loop.finishKill } next) :
    Effect config platform roomId books next := by
  cases h with
  | kept loop hSessions hRoots hRoom => exact .kept loop hSessions hRoots hRoom
  | stopped loop hStopped hMoves => exact .stopped loop hStopped hMoves
  | started loop hVerdict hClaim hMark hRoots => exact .started loop hVerdict hClaim hMark hRoots
  | completed loop hGet hActive hComplete hRoots =>
      exact .completed loop hGet hActive hComplete hRoots

theorem step_effect (config : WorkerConfig) (platform : Platform) (roomId : String)
    (books : WorkerBooks) (input : WorkerInput) :
    Effect config platform roomId books (books.step config platform roomId input) := by
  unfold step
  split
  · exact .kept _ rfl rfl rfl
  · rename_i hStopped
    have hRunning : books.loop.stopped = none := by simpa using hStopped
    cases input with
    | event raw now =>
        exact (handleEvent_effect { books with loop := books.loop.finishKill } hRunning raw
          now).of_finishKill
    | check uuid now captured =>
        exact (check_effect { books with loop := books.loop.finishKill } hRunning uuid now
          captured).of_finishKill
    | removeFile =>
        apply Effect.kept
        all_goals
          rw [WorkerLoop.step, if_neg hStopped]
          dsimp only [WorkerLoop.removeNext]
          split <;> rfl
    | host input =>
        apply Effect.kept
        all_goals rw [WorkerLoop.step, if_neg hStopped]

/-- The sessions the file names; none where there is no file. -/
def listed (books : WorkerBooks) : List String :=
  (books.file.getD []).map PersistedSession.uuid

theorem listed_persistActiveSessions (books : WorkerBooks) :
    books.persistActiveSessions.listed = books.loop.sessions.activeSessions.map Session.uuid := by
  have hMap : (persisted books.loop).map PersistedSession.uuid =
      books.loop.sessions.activeSessions.map Session.uuid := by
    rw [persisted, List.map_map]
    rfl
  rw [listed, persistActiveSessions, ← hMap]
  cases persisted books.loop <;> rfl

/-- The books agree: no more active sessions than allowed, each of them running
under tmux with a thread root, nothing else in the mux, and the file up to date
as soon as there was something to write. -/
structure Booked (config : WorkerConfig) (books : WorkerBooks) : Prop where
  limit : books.loop.sessions.activeSessions.length ≤ config.maxSessions.toNat
  running : ∀ uuid session, books.loop.sessions.get uuid = some session →
    session.state ≠ .completed → session.state = .running ∧ session.tmux.isSome = true ∧
      (books.loop.threadRoots uuid).isSome = true
  mux : ∀ uuid, books.mux.hasSession uuid = true → ∃ session,
    books.loop.sessions.get uuid = some session ∧ session.state ≠ .completed ∧
      session.task.interactive = true
  consistent : books.mux.Consistent
  file : books.loop.room.any RoomEvent.isMilestone = true →
    books.listed = books.loop.sessions.activeSessions.map Session.uuid

theorem get_of_completed {manager rest : SessionManager} {uuid : String} {session : Session}
    {exitCode : Option Int32} {now : Nat} {completed : CompletedSessionState}
    (hGet : manager.get uuid = some session) (hActive : session.state ≠ .completed)
    (hComplete : manager.complete uuid exitCode now = .ok (rest, completed)) (other : String) :
    rest.get other =
      if other = uuid then some { session with state := .completed } else manager.get other := by
  obtain ⟨last, hLast, hRest⟩ := SessionManager.complete_of_active hGet hActive exitCode now
  rw [hComplete] at hLast
  injection hLast with hLast
  injection hLast with hLast _
  rw [hLast, hRest]

theorem hasSession_registerInteractive {books : WorkerBooks} {task : SessionTask} {uuid : String} :
    (books.registerInteractive roomId task).mux.hasSession uuid = true ↔
      (uuid = task.uuid ∧ task.interactive = true) ∨ books.mux.hasSession uuid = true := by
  unfold registerInteractive
  split
  · rename_i hInteractive
    by_cases hUuid : uuid = task.uuid
    · simp [SessionMux.hasSession, SessionMux.addSession, hUuid, hInteractive]
    · simp [SessionMux.hasSession, SessionMux.addSession, hUuid]
  · rename_i hInteractive
    simp [hInteractive]

theorem listed_registerInteractive (books : WorkerBooks) (task : SessionTask) :
    (books.registerInteractive roomId task).listed = books.listed := by
  unfold registerInteractive
  split <;> rfl

theorem Booked.of_started {books : WorkerBooks} (h : Booked config books) {loop : WorkerLoop}
    {task : SessionTask} {command : ValidatedCommand} {now : Nat} {eventId : String}
    {claimed : SessionManager} {active : ActiveSessionState} {tmux : TmuxSession}
    (hVerdict : books.loop.verdict config platform task = .start command)
    (hClaim : books.loop.sessions.claim task now = .ok (claimed, active))
    (hMark : claimed.markRunning task.uuid none tmux = .ok loop.sessions)
    (hRoots : loop.threadRoots =
      Function.update books.loop.threadRoots task.uuid (some eventId)) :
    Booked config
      (({ books with loop }).persistActiveSessions.registerInteractive roomId task) := by
  obtain ⟨hNew, -⟩ := WorkerLoop.containsSession_of_verdict hVerdict
  have hGet := get_of_started hNew hClaim hMark
  have hNone := get_of_new hNew
  refine ⟨?_, ?_, ?_, ?_, ?_⟩
  · obtain ⟨-, hLimit, -⟩ :=
      (WorkerLoop.verdict_eq_start_iff books.loop task).mp ⟨command, hVerdict⟩
    rw [loop_registerInteractive]
    have hMarked := SessionManager.length_activeSessions_markRunning hMark
    have hClaimed := SessionManager.length_activeSessions_claim hClaim
    dsimp only [persistActiveSessions]
    omega
  · intro uuid session hSession hActive
    rw [loop_registerInteractive] at hSession ⊢
    simp only [persistActiveSessions, hGet, hRoots] at hSession ⊢
    by_cases hUuid : uuid = task.uuid
    · rw [if_pos hUuid, Option.some.injEq] at hSession
      simp [← hSession, hUuid]
    · rw [if_neg hUuid] at hSession
      simpa [Function.update_of_ne hUuid] using h.running uuid session hSession hActive
  · intro uuid hHas
    rw [loop_registerInteractive]
    simp only [persistActiveSessions, hGet]
    rw [hasSession_registerInteractive] at hHas
    rcases hHas with ⟨hUuid, hInteractive⟩ | hHas
    · exact ⟨_, if_pos hUuid, by simp, hInteractive⟩
    · obtain ⟨session, hSession, hRest⟩ := h.mux uuid hHas
      refine ⟨session, ?_, hRest⟩
      rw [if_neg, hSession]
      rintro rfl
      rw [hNone] at hSession
      cases hSession
  · unfold registerInteractive
    split
    · apply h.consistent.addSession
      -- what the mux has is in the table, and this task is new there
      rw [← SessionMux.hasSession_eq_false_iff, Bool.eq_false_iff]
      intro hHas
      obtain ⟨session, hSession, -⟩ := h.mux task.uuid hHas
      rw [hNone] at hSession
      cases hSession
    · exact h.consistent
  · intro _
    rw [listed_registerInteractive, listed_persistActiveSessions, loop_registerInteractive]
    rfl

theorem Booked.of_completed {books : WorkerBooks} (h : Booked config books) {loop : WorkerLoop}
    {uuid : String} {session : Session} {exitCode : Option Int32} {now : Nat}
    {completed : CompletedSessionState} (hGet : books.loop.sessions.get uuid = some session)
    (hActive : session.state ≠ .completed)
    (hComplete : books.loop.sessions.complete uuid exitCode now = .ok (loop.sessions, completed))
    (hRoots : loop.threadRoots = books.loop.threadRoots) :
    Booked config
      ({ books with loop, mux := books.mux.removeSession uuid }).persistActiveSessions := by
  have hRest := get_of_completed hGet hActive hComplete
  refine ⟨?_, ?_, ?_, h.consistent.removeSession uuid, ?_⟩
  · exact (SessionManager.length_activeSessions_complete hComplete).trans h.limit
  · intro other found hFound hState
    simp only [persistActiveSessions, hRest, hRoots] at hFound ⊢
    by_cases hOther : other = uuid
    · rw [if_pos hOther, Option.some.injEq] at hFound
      simp [← hFound] at hState
    · rw [if_neg hOther] at hFound
      exact h.running other found hFound hState
  · intro other hHas
    simp only [persistActiveSessions, hRest] at hHas ⊢
    rw [SessionMux.hasSession, SessionMux.sessions_removeSession] at hHas
    by_cases hOther : other = uuid
    · simp [hOther] at hHas
    · rw [if_neg hOther] at hHas ⊢
      exact h.mux other hHas
  · intro _
    rw [listed_persistActiveSessions]
    rfl

/-- The books agree while the loop goes on. -/
def Tidy (config : WorkerConfig) (books : WorkerBooks) : Prop :=
  books.loop.stopped = none → Booked config books

/-- What a step does to the sessions is a sequence of moves. -/
def Advances (config : WorkerConfig) (platform : Platform) (roomId : String)
    (books : WorkerBooks) (input : WorkerInput) : Prop :=
  Relation.ReflTransGen SessionManager.Move books.loop.sessions
    (books.step config platform roomId input).loop.sessions

theorem step_of_stopped {books : WorkerBooks} {input : WorkerInput}
    (hStopped : books.loop.stopped ≠ none) :
    books.step config platform roomId input = books := by
  rw [step, if_pos]
  exact Option.isSome_iff_ne_none.mpr hStopped

theorem step_tidy (books : WorkerBooks) (input : WorkerInput) (h : Tidy config books) :
    Tidy config (books.step config platform roomId input) := by
  by_cases hRunning : books.loop.stopped = none
  · have hBooked := h hRunning
    have hEffect := step_effect config platform roomId books input
    generalize books.step config platform roomId input = next at hEffect
    intro hNext
    cases hEffect with
    | kept loop hSessions hRoots hRoom =>
        refine ⟨?_, ?_, ?_, hBooked.consistent, ?_⟩
        · simpa only [hSessions] using hBooked.limit
        · simpa only [hSessions, hRoots] using hBooked.running
        · simpa only [hSessions] using hBooked.mux
        · simpa only [hSessions, hRoom, listed] using hBooked.file
    | stopped loop hStopped =>
        have hNone : loop.stopped = none := hNext
        rw [hNone] at hStopped
        cases hStopped
    | started loop hVerdict hClaim hMark hRoots =>
        exact hBooked.of_started hVerdict hClaim hMark hRoots
    | completed loop hGet hActive hComplete hRoots =>
        exact hBooked.of_completed hGet hActive hComplete hRoots
  · rwa [step_of_stopped hRunning]

theorem step_advances (books : WorkerBooks) (input : WorkerInput) (h : Tidy config books) :
    Advances config platform roomId books input := by
  by_cases hRunning : books.loop.stopped = none
  · have hBooked := h hRunning
    have hEffect := step_effect config platform roomId books input
    unfold Advances
    generalize books.step config platform roomId input = next at hEffect
    cases hEffect with
    | kept loop hSessions =>
        dsimp only
        rw [hSessions]
    | stopped loop hStopped hMoves => exact hMoves
    | started loop hVerdict hClaim hMark hRoots =>
        obtain ⟨hNew, -⟩ := WorkerLoop.containsSession_of_verdict hVerdict
        rw [loop_registerInteractive]
        exact (Relation.ReflTransGen.single (move_of_claim hNew hClaim)).tail
          (move_of_markRunning hNew hClaim hMark)
    | @completed loop uuid session exitCode now completed hGet hActive hComplete hRoots =>
        apply Relation.ReflTransGen.single
        have hRest := get_of_completed hGet hActive hComplete
        obtain ⟨hState, -⟩ := hBooked.running uuid session hGet hActive
        refine ⟨uuid, ?_, fun other hOther => (hRest other).trans (if_neg hOther)⟩
        dsimp only [persistActiveSessions]
        rw [hRest, if_pos rfl, hGet, Option.map_some, hState]
        exact .complete
  · unfold Advances
    rw [step_of_stopped hRunning]

/-- At every point of every run the books agree, and a session only ever goes
from claimed to running to completed. -/
theorem always_tidy (config : WorkerConfig) (platform : Platform) (roomId workerId : String)
    (recovered : String → Option String) (files : String → Option File)
    (file : Option (List PersistedSession)) (inputs : List WorkerInput) :
    Always (step config platform roomId) (Tidy config) (new workerId recovered files file) inputs ∧
      Admissible (step config platform roomId) (Advances config platform roomId)
        (new workerId recovered files file) inputs := by
  have hStart : Tidy config (new workerId recovered files file) := by
    intro _
    refine ⟨?_, ?_, ?_, SessionMux.consistent_new, ?_⟩
    · exact Nat.zero_le _
    · intro uuid session hGet
      simp [new, WorkerLoop.new, SessionManager.new, SessionManager.get] at hGet
    · intro uuid hHas
      simp [new, SessionMux.new, SessionMux.hasSession] at hHas
    · simp [new, WorkerLoop.new]
  have hStep : ∀ books input, Tidy config books →
      Tidy config (books.step config platform roomId input) := step_tidy
  have hAlways := always_of_step hStep hStart inputs
  exact ⟨hAlways, hAlways.admissible fun books input hTidy _ => step_advances books input hTidy⟩

end WorkerBooks

end Mxdx.Worker
