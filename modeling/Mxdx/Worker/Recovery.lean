import Mxdx.Worker.Bookkeeping
import Mxdx.Worker.Suppression

/-! The worker is killed and started again on the same host. What it knows of
its sessions is in memory and lost; the room, the files and the tmux sessions
are still there. Nothing of them is read at the start but the thread roots of
the state room, to which the worker never writes a session. -/
namespace Mxdx.Worker

open Automaton

/-- The host without the worker: nobody listens for exit codes any more, and a
socket without its listener is as good as none. -/
def Host.orphaned (host : Host) : Host where
  files := fun path =>
    match host.files path with
    | some (.listener _) => none
    | file => file
  execs := fun sessionName => (host.execs sessionName).map fun exec => { exec with line := none }

/-- The steps by which an input changes what outlives the worker. -/
inductive WorldEffect where
  | post (event : RoomEvent)
  | create (uuid : String)
  | refuse (uuid : String)
  | kill (tmux : TmuxSession)
  | removeFile (path : String)
  | persist (file : Option (List PersistedSession))
  | host (input : HostInput)

/-- What outlives the worker, and the tasks whose process it has started. -/
structure Remains where
  room : List RoomEvent
  host : Host
  file : Option (List PersistedSession)
  started : List String

/-- The lives of a worker on one host. `started` are the tasks whose process was
started in this life, `before` those of the lives before. -/
structure WorkerLives where
  books : WorkerBooks
  started : List String
  before : List String

/-- A crash cuts an input short after some of its effects. -/
inductive LivesInput where
  | live (input : WorkerInput)
  | crash (input : WorkerInput) (effects : Nat)

namespace WorkerLives

variable (config : WorkerConfig) (platform : Platform) (roomId : String)
  (recovered : String → Option String)

/-- The first life of a worker. -/
def new (workerId : String) (files : String → Option File)
    (file : Option (List PersistedSession)) : WorkerLives :=
  ⟨.new workerId recovered files file, [], []⟩

/-- `TmuxSession::create` up to the answer of tmux. -/
def created (loop : WorkerLoop) (uuid : String) : Option (Host × TmuxSession) :=
  (loop.host.create platform uuid).toOption

/-- tmux does not start a second session of one name. -/
def nameInUse (loop : WorkerLoop) (uuid : String) : Bool :=
  ((loop.host.execs uuid).map Exec.alive).getD false

/-- The task that an event makes the worker start, as far as the worker can tell. -/
def starting (loop : WorkerLoop) (raw : Value) : Option SessionTask :=
  if loop.stopped.isSome then none
  else
    (WorkerLoop.taskOf raw).filter fun task =>
      match loop.verdict config platform task with
      | .start _ => (created platform loop task.uuid).isSome
      | _ => false

/-- A start that tmux refuses: the session is claimed and announced, and the
loop ends. -/
def refuse (books : WorkerBooks) (raw : Value) (now : Nat) : WorkerBooks :=
  match WorkerLoop.submitted raw, WorkerLoop.taskOf raw with
  | some (eventId, _), some task =>
      match books.loop.sessions.claim task now with
      | .error error => { books with loop := books.loop.stop (.session error) }
      | .ok (sessions, active) =>
          { books with
            loop :=
              { books.loop with
                sessions
                claims := books.loop.claims ++ [⟨matrixSender raw, task.uuid⟩]
                room := books.loop.room ++ [.active task.uuid active, .start eventId
                  ⟨task.uuid, sessions.workerId, some task.uuid, none, now, none⟩]
                threadRoots := Function.update books.loop.threadRoots task.uuid (some eventId)
                host := books.loop.host.removeFile (exitNotifyPath platform task.uuid)
                stopped := some (.create .newSessionFailed) } }
  | _, _ => books

/-- The books of one life. -/
def stepBooks (books : WorkerBooks) : WorkerInput → WorkerBooks
  | .event raw now =>
      let freed := { books with loop := books.loop.finishKill }
      match starting config platform freed.loop raw with
      | some task =>
          if nameInUse freed.loop task.uuid then refuse platform freed raw now
          else books.step config platform roomId (.event raw now)
      | none => books.step config platform roomId (.event raw now)
  | input => books.step config platform roomId input

/-- What the handling of an event does to the world, in the order of the code. -/
def eventEffects (loop : WorkerLoop) (raw : Value) (now : Nat)
    (file : Option (List PersistedSession)) : List WorldEffect :=
  match parseEvent raw with
  | some (.taskSubmission eventId content) =>
      match SessionTask.fromValue content with
      | none => []
      | some task =>
          match loop.verdict config platform task with
          | .reject tail =>
              [.post (.result eventId
                ⟨task.uuid, loop.sessions.workerId, .failed, some 1, 0, some tail⟩ .rejection)]
          | .duplicate => []
          | .start _ =>
              match loop.sessions.claim task now with
              | .error _ => []
              | .ok (sessions, active) =>
                  [.post (.active task.uuid active), .post (.start eventId
                    ⟨task.uuid, sessions.workerId, some task.uuid, none, now, none⟩)] ++
                  match created platform loop task.uuid with
                  | none => []
                  | some _ =>
                      if nameInUse loop task.uuid then [.refuse task.uuid]
                      else [.create task.uuid, .persist file]
  | some (.sessionCancel uuid _) =>
      match (loop.sessions.get uuid).bind Session.tmux with
      | some tmux => [.kill tmux]
      | none => []
  | _ => []

def checkEffects (loop : WorkerLoop) (uuid : String) (now : Nat) (captured : Option String)
    (file : Option (List PersistedSession)) : List WorldEffect :=
  match loop.sessions.get uuid with
  | some session =>
      if session.state = .completed then []
      else
        match session.tmux with
        | some tmux =>
            if loop.host.isAlive tmux then []
            else
              (loop.reportEvents platform uuid session tmux now (captured.getD "")).map
                WorldEffect.post ++ [.persist file]
        | none => []
  | none => []

/-- The effects of an input; the sessions file is written with what the table
has in the end. -/
def effects (books : WorkerBooks) (input : WorkerInput) : List WorldEffect :=
  if books.loop.stopped.isSome then []
  else
    let file := (stepBooks config platform roomId books input).file
    let freed := books.loop.finishKill
    let removals := books.loop.removing.map WorldEffect.removeFile
    match input with
    | .event raw now => removals ++ eventEffects config platform freed raw now file
    | .check uuid now captured => removals ++ checkEffects platform freed uuid now captured file
    | .removeFile => removals.take 1
    | .host input => [.host input]

/-- What an effect leaves behind in the world. -/
def applyEffect (remains : Remains) : WorldEffect → Remains
  | .post event => { remains with room := remains.room ++ [event] }
  | .create uuid =>
      match remains.host.create platform uuid with
      | .ok (host, _) => { remains with host, started := remains.started ++ [uuid] }
      | .error _ => remains
  | .refuse uuid =>
      { remains with host := remains.host.removeFile (exitNotifyPath platform uuid) }
  | .kill tmux => { remains with host := remains.host.killSession tmux }
  | .removeFile path => { remains with host := remains.host.removeFile path }
  | .persist file => { remains with file }
  | .host input => { remains with host := remains.host.step platform input }

/-- What outlives the worker. -/
def remains (lives : WorkerLives) : Remains :=
  ⟨lives.books.loop.room, lives.books.loop.host, lives.books.file, lives.started⟩

/-- What is left when the input is cut short after `count` effects. -/
def remainsAfter (lives : WorkerLives) (input : WorkerInput) (count : Nat) : Remains :=
  ((effects config platform roomId lives.books input).take count).foldl
    (applyEffect platform) lives.remains

/-- The tasks that are started among some effects. -/
def startedBy (effects : List WorldEffect) : List String :=
  effects.filterMap fun
    | .create uuid => some uuid
    | _ => none

/-- The next life. The sessions file is there, but nothing reads it. -/
def restart (lives : WorkerLives) (left : Remains) : WorkerLives where
  books :=
    { WorkerBooks.new lives.books.loop.sessions.workerId recovered left.host.files left.file with
      loop :=
        { WorkerLoop.new lives.books.loop.sessions.workerId recovered left.host.files with
          host := left.host.orphaned
          room := left.room } }
  started := []
  before := lives.before ++ left.started

/-- The worker goes on, is killed at any effect, or starts again. -/
def step (lives : WorkerLives) : LivesInput → WorkerLives
  | .live input =>
      { lives with
        books := stepBooks config platform roomId lives.books input
        started := lives.started ++
          startedBy (effects config platform roomId lives.books input) }
  | .crash input count =>
      lives.restart recovered (remainsAfter config platform roomId lives input count)

variable {config platform roomId recovered}

theorem foldl_removeFile (paths : List String) (remains : Remains) :
    (paths.map WorldEffect.removeFile).foldl (applyEffect platform) remains =
      { remains with host := paths.foldl Host.removeFile remains.host } := by
  induction paths generalizing remains with
  | nil => rfl
  | cons path rest ih => rw [List.map_cons, List.foldl_cons, ih, List.foldl_cons]; rfl

theorem foldl_post (events : List RoomEvent) (remains : Remains) :
    (events.map WorldEffect.post).foldl (applyEffect platform) remains =
      { remains with room := remains.room ++ events } := by
  induction events generalizing remains with
  | nil => simp
  | cons event rest ih =>
      rw [List.map_cons, List.foldl_cons, ih]
      simp [applyEffect]

/-- What a step leaves behind, given what its handler does. -/
def remainsOf (books : WorkerBooks) (started : List String) : Remains :=
  ⟨books.loop.room, books.loop.host, books.file, started⟩

theorem startedBy_removeFile (paths : List String) (effects : List WorldEffect) :
    startedBy (paths.map WorldEffect.removeFile ++ effects) = startedBy effects := by
  simp [startedBy, List.filterMap_append, List.filterMap_map]

theorem startedBy_post (events : List RoomEvent) (effects : List WorldEffect) :
    startedBy (events.map WorldEffect.post ++ effects) = startedBy effects := by
  simp [startedBy, List.filterMap_append, List.filterMap_map]

theorem startedBy_checkEffects (loop : WorkerLoop) (uuid : String) (now : Nat)
    (captured : Option String) (file : Option (List PersistedSession)) :
    startedBy (checkEffects platform loop uuid now captured file) = [] := by
  unfold checkEffects
  split
  · split
    · rfl
    · split
      · split
        · rfl
        · rw [startedBy_post]
          rfl
      · rfl
  · rfl

/-- The effects of a check are what it does to the world. -/
theorem remains_check (books : WorkerBooks) (started : List String) (uuid : String) (now : Nat)
    (captured : Option String) (hRunning : books.loop.stopped = none)
    (hFreed : books.loop.finishKill = books.loop) :
    (checkEffects platform books.loop uuid now captured
        (books.check platform uuid now captured).file).foldl (applyEffect platform)
        (remainsOf books started) =
      remainsOf (books.check platform uuid now captured) started := by
  simp only [checkEffects, WorkerBooks.check]
  cases hGet : books.loop.sessions.get uuid with
  | none => rfl
  | some session =>
      dsimp only
      split
      · rfl
      · rename_i hActive
        cases hTmux : session.tmux with
        | none => rfl
        | some tmux =>
            dsimp only
            by_cases hAlive : books.loop.host.isAlive tmux = true
            · rw [if_pos hAlive, if_pos hAlive]
              rfl
            · rw [if_neg hAlive, if_neg hAlive, List.foldl_append, foldl_post]
              obtain ⟨rest, hComplete, -⟩ := SessionManager.complete_of_active hGet hActive
                ((books.loop.host.readExitCode platform tmux).or (some 0)) now
              simp only [WorkerBooks.completeSession, WorkerLoop.completeSession, WorkerLoop.post,
                hComplete, hRunning, Option.isSome_none, Bool.false_eq_true, if_false,
                WorkerLoop.reportEvents, hFreed]
              simp only [remainsOf, List.append_assoc]
              rfl

theorem stepBooks_event {books : WorkerBooks} {raw : Value} {now : Nat}
    (hRunning : books.loop.stopped = none) (hFreed : books.loop.finishKill = books.loop) :
    stepBooks config platform roomId books (.event raw now) =
      if (starting config platform books.loop raw).any
          (fun task => nameInUse books.loop task.uuid) then
        refuse platform books raw now
      else books.handleEvent config platform roomId raw now := by
  have hStep : books.step config platform roomId (.event raw now) =
      books.handleEvent config platform roomId raw now := by
    simp [WorkerBooks.step, hRunning, hFreed]
  simp only [stepBooks, hFreed, hStep]
  cases starting config platform books.loop raw with
  | none => rfl
  | some task => rfl

theorem starting_eq_none {loop : WorkerLoop} {raw : Value}
    (h : ∀ task, WorkerLoop.taskOf raw = some task → ∀ command,
      loop.verdict config platform task ≠ .start command) :
    starting config platform loop raw = none := by
  unfold starting
  split
  · rfl
  · rw [Option.filter_eq_none_iff]
    intro task hTask
    split
    · rename_i command hVerdict
      exact absurd hVerdict (h task hTask command)
    · simp

theorem starting_of_start {loop : WorkerLoop} {raw : Value} {task : SessionTask}
    {command : ValidatedCommand} (hRunning : loop.stopped = none)
    (hTask : WorkerLoop.taskOf raw = some task)
    (hVerdict : loop.verdict config platform task = .start command) :
    starting config platform loop raw =
      if (created platform loop task.uuid).isSome then some task else none := by
  simp [starting, hRunning, hTask, hVerdict, Option.filter]

/-- The handling of a task that is let through. -/
theorem remains_start {books : WorkerBooks} {raw : Value} {eventId : String} {content : Value}
    {task : SessionTask} {command : ValidatedCommand} (started : List String) (now : Nat)
    (hRunning : books.loop.stopped = none)
    (hParse : parseEvent raw = some (.taskSubmission eventId content))
    (hTask : SessionTask.fromValue content = some task)
    (hVerdict : books.loop.verdict config platform task = .start command) :
    let next :=
      if (starting config platform books.loop raw).any
          (fun task => nameInUse books.loop task.uuid) then
        refuse platform books raw now
      else books.handleEvent config platform roomId raw now
    let effects := eventEffects config platform books.loop raw now next.file
    effects.foldl (applyEffect platform) (remainsOf books started) =
      remainsOf next (started ++ startedBy effects) := by
  have hSubmitted : WorkerLoop.submitted raw = some (eventId, content) := by
    rw [WorkerLoop.submitted, hParse]
  have hTaskOf : WorkerLoop.taskOf raw = some task := by
    rw [WorkerLoop.taskOf, hSubmitted, Option.bind_some, hTask]
  obtain ⟨hNew, -⟩ := WorkerLoop.containsSession_of_verdict hVerdict
  obtain ⟨claimed, active, hClaim, -, hGet⟩ := SessionManager.claim_of_new hNew now
  rw [starting_of_start hRunning hTaskOf hVerdict]
  cases hCreate : books.loop.host.create platform task.uuid with
  | error error =>
      simp [created, hCreate, Except.toOption, eventEffects, hParse, hTask, hVerdict, hClaim,
        WorkerBooks.handleEvent, WorkerBooks.taskSubmission, WorkerBooks.start, WorkerLoop.start,
        WorkerLoop.post, WorkerLoop.stop, remainsOf, applyEffect, startedBy]
  | ok pair =>
      obtain ⟨host, tmux⟩ := pair
      obtain ⟨running, hMark, -⟩ := SessionManager.markRunning_of_claimed
        ((hGet task.uuid).trans (if_pos rfl)) rfl none tmux
      by_cases hInUse : nameInUse books.loop task.uuid = true
      · simp [created, hCreate, Except.toOption, eventEffects, hParse, hTask, hVerdict, hClaim,
          hInUse, refuse, hSubmitted, hTaskOf, remainsOf, applyEffect, startedBy]
      · simp [created, hCreate, Except.toOption, eventEffects, hParse, hTask, hVerdict, hClaim,
          hInUse, WorkerBooks.handleEvent, WorkerBooks.taskSubmission, WorkerBooks.start,
          WorkerLoop.start, WorkerLoop.post, hMark, WorkerLoop.markHandled, hRunning, remainsOf,
          applyEffect, startedBy]
        exact ⟨rfl, rfl⟩

/-- The effects of an event are what it does to the world. -/
theorem remains_event (books : WorkerBooks) (started : List String) (raw : Value) (now : Nat)
    (hRunning : books.loop.stopped = none) (hFreed : books.loop.finishKill = books.loop) :
    let next := stepBooks config platform roomId books (.event raw now)
    let effects := eventEffects config platform books.loop raw now next.file
    effects.foldl (applyEffect platform) (remainsOf books started) =
      remainsOf next (started ++ startedBy effects) := by
  rw [stepBooks_event hRunning hFreed]
  cases hParse : parseEvent raw with
  | none =>
      have hTaskOf : WorkerLoop.taskOf raw = none := by
        simp [WorkerLoop.taskOf, WorkerLoop.submitted, hParse]
      rw [starting_eq_none (by simp [hTaskOf])]
      simp [eventEffects, hParse, WorkerBooks.handleEvent, startedBy]
  | some event =>
      cases event with
      | taskSubmission eventId content =>
          have hTaskOf : WorkerLoop.taskOf raw = SessionTask.fromValue content := by
            simp [WorkerLoop.taskOf, WorkerLoop.submitted, hParse]
          cases hTask : SessionTask.fromValue content with
          | none =>
              rw [starting_eq_none (by simp [hTaskOf, hTask])]
              simp [eventEffects, hParse, hTask, WorkerBooks.handleEvent,
                WorkerBooks.taskSubmission, startedBy, remainsOf, WorkerLoop.stop]
          | some task =>
              cases hVerdict : books.loop.verdict config platform task with
              | reject tail =>
                  rw [starting_eq_none (by simp [hTaskOf, hTask, hVerdict])]
                  simp [eventEffects, hParse, hTask, hVerdict, WorkerBooks.handleEvent,
                    WorkerBooks.taskSubmission, WorkerLoop.reject, WorkerLoop.post,
                    WorkerLoop.markHandled, startedBy, remainsOf, applyEffect]
              | duplicate =>
                  rw [starting_eq_none (by simp [hTaskOf, hTask, hVerdict])]
                  simp [eventEffects, hParse, hTask, hVerdict, WorkerBooks.handleEvent,
                    WorkerBooks.taskSubmission, WorkerLoop.markHandled, startedBy, remainsOf]
              | start command => exact remains_start started now hRunning hParse hTask hVerdict
      | sessionCancel uuid content =>
          have hTaskOf : WorkerLoop.taskOf raw = none := by
            simp [WorkerLoop.taskOf, WorkerLoop.submitted, hParse]
          rw [starting_eq_none (by simp [hTaskOf])]
          cases hTmux : (books.loop.sessions.get uuid).bind Session.tmux <;>
            simp [eventEffects, hParse, hTmux, WorkerBooks.handleEvent, WorkerLoop.sessionCancel,
              startedBy, remainsOf, applyEffect]
      | _ =>
          have hTaskOf : WorkerLoop.taskOf raw = none := by
            simp [WorkerLoop.taskOf, WorkerLoop.submitted, hParse]
          rw [starting_eq_none (by simp [hTaskOf])]
          simp [eventEffects, hParse, WorkerBooks.handleEvent, startedBy]

theorem stepBooks_of_stopped (config : WorkerConfig) (platform : Platform) (roomId : String)
    {books : WorkerBooks} (hStopped : books.loop.stopped.isSome = true)
    (input : WorkerInput) : stepBooks config platform roomId books input = books := by
  have hSame : books.step config platform roomId input = books := by
    rw [WorkerBooks.step, if_pos hStopped]
  cases input with
  | event raw now =>
      simp only [stepBooks, hSame]
      have hNone : starting config platform books.loop.finishKill raw = none := by
        rw [starting, if_pos]
        exact hStopped
      rw [hNone]
  | _ => exact hSame

/-- The files of a kill are removed before an event is handled. -/
theorem stepBooks_freed {books : WorkerBooks} (hRunning : books.loop.stopped = none) (raw : Value)
    (now : Nat) :
    stepBooks config platform roomId { books with loop := books.loop.finishKill }
        (.event raw now) =
      stepBooks config platform roomId books (.event raw now) := by
  have hStep : ({ books with loop := books.loop.finishKill }).step config platform roomId
      (.event raw now) = books.step config platform roomId (.event raw now) := by
    rw [WorkerBooks.step, WorkerBooks.step, if_neg (by simp [hRunning]),
      if_neg (by simp [hRunning])]
    rfl
  simp only [stepBooks, hStep]
  rfl

/-- A step is the sum of its effects: a crash after the last of them leaves
what the step leaves. -/
theorem remains_step (lives : WorkerLives) (input : WorkerInput) :
    (lives.step config platform roomId recovered (.live input)).remains =
      lives.remainsAfter config platform roomId input
        (effects config platform roomId lives.books input).length := by
  obtain ⟨books, started, before⟩ := lives
  rw [remainsAfter, List.take_length]
  simp only [step, remains]
  by_cases hStopped : books.loop.stopped.isSome = true
  · have hSame := stepBooks_of_stopped config platform roomId hStopped input
    simp [effects, hStopped, startedBy, hSame]
  · have hRunning : books.loop.stopped = none := by simpa using hStopped
    have hRunning' : books.loop.finishKill.stopped = none := hRunning
    simp only [effects, hStopped, Bool.false_eq_true, if_false]
    cases input with
    | event raw now =>
        dsimp only
        rw [List.foldl_append, foldl_removeFile, startedBy_removeFile, ← stepBooks_freed hRunning]
        exact (remains_event { books with loop := books.loop.finishKill } started raw now
          hRunning rfl).symm
    | check uuid now captured =>
        have hCheck : stepBooks config platform roomId books (.check uuid now captured) =
            ({ books with loop := books.loop.finishKill }).check platform uuid now captured := by
          rw [stepBooks, WorkerBooks.step, if_neg hStopped]
          · intro raw now hEq
            cases hEq
        dsimp only
        rw [List.foldl_append, foldl_removeFile, startedBy_removeFile, hCheck,
          startedBy_checkEffects, List.append_nil]
        exact (remains_check { books with loop := books.loop.finishKill } started uuid now captured
          hRunning rfl).symm
    | removeFile =>
        have hSame : stepBooks config platform roomId books .removeFile =
            { books with loop := books.loop.removeNext } := by
          simp [stepBooks, WorkerBooks.step, WorkerLoop.step, hRunning]
        rw [hSame]
        simp only [WorkerLoop.removeNext]
        cases books.loop.removing with
        | nil => simp [startedBy]
        | cons path rest => simp [startedBy, applyEffect]
    | host input =>
        have hSame : stepBooks config platform roomId books (.host input) =
            { books with loop :=
              { books.loop with host := books.loop.host.step platform input } } := by
          simp [stepBooks, WorkerBooks.step, WorkerLoop.step, hRunning]
        rw [hSame]
        simp [startedBy, applyEffect]

/-- The task whose process an event starts. -/
def startsTask (config : WorkerConfig) (platform : Platform) (loop : WorkerLoop) (raw : Value) :
    Option SessionTask :=
  (starting config platform loop.finishKill raw).filter fun task =>
    !nameInUse loop.finishKill task.uuid

/-- The tasks whose process an input starts. -/
def startedNext (config : WorkerConfig) (platform : Platform) (loop : WorkerLoop) :
    WorkerInput → List String
  | .event raw _ => ((startsTask config platform loop raw).map SessionTask.uuid).toList
  | _ => []

/-- One result was posted for the task, the one of its completion. -/
def Answered (room : List RoomEvent) (uuid : String) : Prop :=
  room.countP (RoomEvent.isResultOf uuid) = 1 ∧ room.countP (RoomEvent.isCompletionOf uuid) = 1

/-- The worker is at work and waits for the session to end. -/
def Tracked (loop : WorkerLoop) (uuid : String) : Prop :=
  loop.stopped = none ∧ ∃ session, loop.sessions.get uuid = some session ∧
    session.state ≠ .completed

/-- A task whose process was started before a crash was started once, and either
has its one result or is tracked and has none. -/
def Recovered (lives : WorkerLives) : Prop :=
  ∀ uuid ∈ lives.before, (lives.before ++ lives.started).count uuid = 1 ∧
    (Answered lives.books.loop.room uuid ∨
      lives.books.loop.room.countP (RoomEvent.isResultOf uuid) = 0 ∧
        Tracked lives.books.loop uuid)

/-- A crash leaves no started task without its one result, and no event has a
task from before a crash rejected or started. -/
def Settled (config : WorkerConfig) (platform : Platform) (roomId : String)
    (lives : WorkerLives) : LivesInput → Prop
  | .live (.event raw _) =>
      lives.books.loop.stopped = none → ∀ task, WorkerLoop.taskOf raw = some task →
        task.uuid ∈ lives.before →
          (∀ tail, lives.books.loop.verdict config platform task ≠ .reject tail) ∧
            startsTask config platform lives.books.loop raw = none
  | .live _ => True
  | .crash input count =>
      let left := lives.remainsAfter config platform roomId input count
      ∀ uuid ∈ lives.before ++ left.started,
        (lives.before ++ left.started).count uuid = 1 ∧ Answered left.room uuid

/-- The table of a worker at work has only sessions of its own life. -/
def OwnTable (lives : WorkerLives) : Prop :=
  lives.books.loop.stopped = none → ∀ uuid,
    (lives.books.loop.sessions.get uuid).isSome = true → uuid ∈ lives.started

theorem answered_room_iff {room : List RoomEvent} {uuid : String} :
    Answered room uuid ↔ room.countP (RoomEvent.isRejectionOf uuid) = 0 ∧
      room.countP (RoomEvent.isCompletionOf uuid) = 1 := by
  rw [Answered, WorkerLoop.countP_isResultOf]
  omega

/-- What happens to a task of an earlier life is up to the events alone. -/
theorem Recovered.answered {lives : WorkerLives} (h : Recovered lives) (hOwn : OwnTable lives)
    {uuid : String} (hBefore : uuid ∈ lives.before) (hRunning : lives.books.loop.stopped = none) :
    uuid ∉ lives.started ∧ Answered lives.books.loop.room uuid := by
  obtain ⟨hOnce, hAnswered⟩ := h uuid hBefore
  have hNew : uuid ∉ lives.started := by
    intro hStarted
    have hFirst := List.count_pos_iff.mpr hBefore
    have hSecond := List.count_pos_iff.mpr hStarted
    rw [List.count_append] at hOnce
    omega
  refine ⟨hNew, hAnswered.resolve_right ?_⟩
  rintro ⟨-, -, session, hSession, -⟩
  exact hNew (hOwn hRunning uuid (by rw [hSession]; rfl))

theorem step_crash_iff (lives : WorkerLives) (input : WorkerInput) (count : Nat) :
    Recovered (lives.step config platform roomId recovered (.crash input count)) ↔
      Settled config platform roomId lives (.crash input count) := by
  simp only [Recovered, step, restart, Settled, List.append_nil]
  refine forall₂_congr fun uuid _ => and_congr_right fun _ => or_iff_left ?_
  rintro ⟨-, -, session, hSession, -⟩
  simp [WorkerLoop.new, SessionManager.new, SessionManager.get] at hSession

theorem starting_eq_some_iff {loop : WorkerLoop} {raw : Value} {task : SessionTask} :
    starting config platform loop raw = some task ↔
      loop.stopped = none ∧ WorkerLoop.taskOf raw = some task ∧
        (∃ command, loop.verdict config platform task = .start command) ∧
          (created platform loop task.uuid).isSome = true := by
  unfold starting
  split
  · rename_i hStopped
    simp [Option.isSome_iff_ne_none.mp hStopped]
  · rename_i hStopped
    rw [Option.filter_eq_some_iff]
    have hRunning : loop.stopped = none := by simpa using hStopped
    cases hVerdict : loop.verdict config platform task <;> simp [hRunning]

theorem taskOf_of_submitted {raw : Value} {eventId : String} {content : Value}
    (hSubmitted : WorkerLoop.submitted raw = some (eventId, content)) :
    WorkerLoop.taskOf raw = SessionTask.fromValue content := by
  rw [WorkerLoop.taskOf, hSubmitted]
  rfl

theorem taskOf_of_submission {raw : Value} {eventId : String} {content : Value}
    (hParse : parseEvent raw = some (.taskSubmission eventId content)) :
    WorkerLoop.taskOf raw = SessionTask.fromValue content := by
  apply taskOf_of_submitted
  rw [WorkerLoop.submitted, hParse]

theorem startedBy_eventEffects {loop : WorkerLoop} (hRunning : loop.stopped = none) (raw : Value)
    (now : Nat) (file : Option (List PersistedSession)) :
    startedBy (eventEffects config platform loop raw now file) =
      (((starting config platform loop raw).filter fun task =>
        !nameInUse loop task.uuid).map SessionTask.uuid).toList := by
  unfold eventEffects
  split
  · rename_i eventId content hParse
    have hTaskOf := taskOf_of_submission hParse
    split
    · rename_i hTask
      rw [starting_eq_none (by simp [hTaskOf, hTask])]
      rfl
    · rename_i task hTask
      have hSelf := hTaskOf.trans hTask
      split
      · rename_i hVerdict
        rw [starting_eq_none (by simp [hSelf, hVerdict])]
        rfl
      · rename_i hVerdict
        rw [starting_eq_none (by simp [hSelf, hVerdict])]
        rfl
      · rename_i command hVerdict
        obtain ⟨hNew, -⟩ := WorkerLoop.containsSession_of_verdict hVerdict
        obtain ⟨claimed, active, hClaim, -⟩ := SessionManager.claim_of_new hNew now
        rw [starting_of_start hRunning hSelf hVerdict]
        simp only [hClaim]
        cases created platform loop task.uuid with
        | none => rfl
        | some pair => cases hInUse : nameInUse loop task.uuid <;>
            simp [hInUse, startedBy, Option.filter]
  · rename_i uuid content hParse
    rw [starting_eq_none (by simp [WorkerLoop.taskOf, WorkerLoop.submitted, hParse])]
    split <;> rfl
  · rename_i hOther _
    rw [starting_eq_none]
    · rfl
    · intro task hTask
      cases hParse : parseEvent raw with
      | none => simp [WorkerLoop.taskOf, WorkerLoop.submitted, hParse] at hTask
      | some event =>
          cases event with
          | taskSubmission eventId content => exact absurd hParse (hOther eventId content)
          | _ => simp [WorkerLoop.taskOf, WorkerLoop.submitted, hParse] at hTask

/-- Only an event starts a process, and only that of its task. -/
theorem startedBy_effects (books : WorkerBooks) (input : WorkerInput) :
    startedBy (effects config platform roomId books input) =
      startedNext config platform books.loop input := by
  unfold effects
  split
  · rename_i hStopped
    cases input with
    | event raw now =>
        have hNone : starting config platform books.loop.finishKill raw = none := by
          rw [starting, if_pos]
          exact hStopped
        simp [startedNext, startsTask, hNone, startedBy]
    | _ => rfl
  · rename_i hStopped
    have hRunning : books.loop.finishKill.stopped = none := by simpa using hStopped
    cases input with
    | event raw now =>
        dsimp only
        rw [startedBy_removeFile, startedBy_eventEffects hRunning]
        rfl
    | check uuid now captured =>
        dsimp only
        rw [startedBy_removeFile, startedBy_checkEffects]
        rfl
    | removeFile =>
        cases books.loop.removing <;> simp [startedBy, startedNext]
    | host input => rfl

/-- A step follows the loop, but for a start that tmux refuses. -/
theorem stepBooks_loop (roomId : String) {books : WorkerBooks} {input : WorkerInput}
    (hAccepted : ∀ raw now task, input = .event raw now →
      starting config platform books.loop.finishKill raw = some task →
        nameInUse books.loop.finishKill task.uuid = false) :
    (stepBooks config platform roomId books input).loop =
      books.loop.step config platform input := by
  rw [← WorkerBooks.loop_step config platform roomId]
  cases input with
  | event raw now =>
      simp only [stepBooks]
      split
      · rename_i task hStarting
        rw [if_neg]
        simp [hAccepted raw now task rfl hStarting]
      · rfl
  | _ => rfl

/-- Where tmux refuses a name, the loop has announced the session and ends. -/
theorem stepBooks_refused (roomId : String) (now : Nat) {books : WorkerBooks} {raw : Value}
    {task : SessionTask}
    (hStarting : starting config platform books.loop.finishKill raw = some task)
    (hInUse : nameInUse books.loop.finishKill task.uuid = true) :
    (stepBooks config platform roomId books (.event raw now)).loop.stopped.isSome = true ∧
      ∃ active eventId start, (stepBooks config platform roomId books (.event raw now)).loop.room =
        books.loop.room ++ [.active task.uuid active, .start eventId start] := by
  obtain ⟨-, hTask, ⟨command, hVerdict⟩, -⟩ := starting_eq_some_iff.mp hStarting
  obtain ⟨hNew, -⟩ := WorkerLoop.containsSession_of_verdict hVerdict
  obtain ⟨claimed, active, hClaim, -⟩ := SessionManager.claim_of_new hNew now
  have hSubmitted : ∃ event, WorkerLoop.submitted raw = some event := by
    rw [WorkerLoop.taskOf, Option.bind_eq_some_iff] at hTask
    obtain ⟨event, hEvent, -⟩ := hTask
    exact ⟨event, hEvent⟩
  obtain ⟨⟨eventId, content⟩, hSubmitted⟩ := hSubmitted
  simp only [stepBooks, hStarting, hInUse, if_true, refuse, hSubmitted, hTask, hClaim]
  exact ⟨rfl, active, eventId, _, rfl⟩

theorem startsTask_eq_none {loop : WorkerLoop} {raw : Value}
    (h : starting config platform loop.finishKill raw = none) :
    startsTask config platform loop raw = none := by
  rw [startsTask, h]
  rfl

/-- An event whose task is not let through starts nothing. -/
theorem startsTask_of_not_start {loop : WorkerLoop} {raw : Value}
    (h : ∀ task, WorkerLoop.taskOf raw = some task → ∀ command,
      loop.verdict config platform task ≠ .start command) :
    startsTask config platform loop raw = none :=
  startsTask_eq_none (starting_eq_none h)

/-- A task that is let through and gets its listener is about to be started. -/
theorem starting_of_created {loop : WorkerLoop} {raw : Value} {task : SessionTask}
    {command : ValidatedCommand} {pair : Host × TmuxSession} (hRunning : loop.stopped = none)
    (hTask : WorkerLoop.taskOf raw = some task)
    (hVerdict : loop.verdict config platform task = .start command)
    (hCreate : loop.finishKill.host.create platform task.uuid = .ok pair) :
    starting config platform loop.finishKill raw = some task := by
  have hFreed : loop.finishKill.stopped = none := hRunning
  rw [starting_of_start hFreed hTask hVerdict, created, hCreate]
  rfl

theorem settled_of_not_start {lives : WorkerLives} {raw : Value} {now : Nat}
    (h : ∀ task, WorkerLoop.taskOf raw = some task → ∀ command,
      lives.books.loop.verdict config platform task ≠ .start command)
    (hReject : ∀ task, WorkerLoop.taskOf raw = some task → task.uuid ∈ lives.before → ∀ tail,
      lives.books.loop.verdict config platform task ≠ .reject tail) :
    Settled config platform roomId lives (.live (.event raw now)) := by
  intro _ task hTask hBefore
  exact ⟨hReject task hTask hBefore, startsTask_of_not_start h⟩

/-- A second result or a second start for a task of an earlier life. -/
theorem not_recovered_of_rejection {lives : WorkerLives} {uuid : String}
    (hBefore : uuid ∈ lives.before)
    (hRejected : 0 < lives.books.loop.room.countP (RoomEvent.isRejectionOf uuid)) :
    ¬ Recovered lives := by
  intro h
  obtain ⟨-, hAnswered⟩ := h uuid hBefore
  rw [answered_room_iff, WorkerLoop.countP_isResultOf] at hAnswered
  omega

theorem not_recovered_of_started {lives : WorkerLives} {uuid : String}
    (hBefore : uuid ∈ lives.before) (hStarted : uuid ∈ lives.started) : ¬ Recovered lives := by
  intro h
  have hOnce := (h uuid hBefore).1
  have hFirst := List.count_pos_iff.mpr hBefore
  have hSecond := List.count_pos_iff.mpr hStarted
  rw [List.count_append] at hOnce
  omega

@[simp] theorem finishKill_room (loop : WorkerLoop) : loop.finishKill.room = loop.room := rfl

/-- With no old task started and no result posted for one, all stays recovered. -/
theorem Recovered.live {lives : WorkerLives} (h : Recovered lives) (hOwn : OwnTable lives)
    (hRunning : lives.books.loop.stopped = none) {input : WorkerInput}
    (hStarted : ∀ uuid ∈ lives.before, uuid ∉ startedNext config platform lives.books.loop input)
    (hRejections : ∀ uuid ∈ lives.before,
      (stepBooks config platform roomId lives.books input).loop.room.countP
        (RoomEvent.isRejectionOf uuid) =
          lives.books.loop.room.countP (RoomEvent.isRejectionOf uuid))
    (hCompletions : ∀ uuid ∈ lives.before,
      (stepBooks config platform roomId lives.books input).loop.room.countP
        (RoomEvent.isCompletionOf uuid) =
          lives.books.loop.room.countP (RoomEvent.isCompletionOf uuid)) :
    Recovered (lives.step config platform roomId recovered (.live input)) := by
  intro uuid hUuid
  obtain ⟨hNew, hAnswered⟩ := h.answered hOwn hUuid hRunning
  have hOnce := (h uuid hUuid).1
  rw [List.count_append, List.count_eq_zero.mpr hNew] at hOnce
  simp only [step, startedBy_effects]
  rw [List.count_append, List.count_append, List.count_eq_zero.mpr hNew,
    List.count_eq_zero.mpr (hStarted uuid hUuid)]
  rw [answered_room_iff] at hAnswered
  refine ⟨hOnce, .inl (answered_room_iff.mpr ?_)⟩
  rwa [hRejections uuid hUuid, hCompletions uuid hUuid]

theorem recovered_of_refused {lives : WorkerLives} (h : Recovered lives) (hOwn : OwnTable lives)
    {raw : Value} {now : Nat} {task : SessionTask}
    (hStarting : starting config platform lives.books.loop.finishKill raw = some task)
    (hInUse : nameInUse lives.books.loop.finishKill task.uuid = true) :
    Recovered (lives.step config platform roomId recovered (.live (.event raw now))) ∧
      Settled config platform roomId lives (.live (.event raw now)) := by
  obtain ⟨hRunning, hTask, ⟨command, hVerdict⟩, -⟩ := starting_eq_some_iff.mp hStarting
  obtain ⟨-, active, eventId, start, hRoom⟩ :=
    stepBooks_refused roomId now hStarting hInUse
  have hNone : startsTask config platform lives.books.loop raw = none := by
    simp [startsTask, hStarting, hInUse, Option.filter]
  constructor
  · apply h.live hOwn hRunning
    · simp [startedNext, hNone]
    · simp [hRoom, RoomEvent.isRejectionOf]
    · simp [hRoom, RoomEvent.isCompletionOf]
  · intro _ other hOther _
    rw [hTask, Option.some.injEq] at hOther
    refine ⟨?_, hNone⟩
    intro tail hReject
    have hStart : lives.books.loop.verdict config platform task = .start command := hVerdict
    rw [hOther, hReject] at hStart
    cases hStart

/-- An event without a task, or whose task is neither started nor rejected. -/
theorem step_idle_iff {lives : WorkerLives} (h : Recovered lives) (hOwn : OwnTable lives)
    {raw : Value} {now : Nat} (hRunning : lives.books.loop.stopped = none)
    (hNotStart : ∀ task, WorkerLoop.taskOf raw = some task → ∀ command,
      lives.books.loop.verdict config platform task ≠ .start command)
    (hNotReject : ∀ task, WorkerLoop.taskOf raw = some task → ∀ tail,
      lives.books.loop.verdict config platform task ≠ .reject tail)
    (hRoom : (stepBooks config platform roomId lives.books (.event raw now)).loop.room =
      lives.books.loop.room) :
    Recovered (lives.step config platform roomId recovered (.live (.event raw now))) ↔
      Settled config platform roomId lives (.live (.event raw now)) := by
  apply iff_of_true
  · apply h.live hOwn hRunning
    · simp [startedNext, startsTask_of_not_start hNotStart]
    · simp [hRoom]
    · simp [hRoom]
  · exact settled_of_not_start hNotStart fun task hTask _ => hNotReject task hTask

/-- Nothing is asked about a task that no earlier life had. -/
theorem settled_of_new {lives : WorkerLives} {raw : Value} {now : Nat} {task : SessionTask}
    (hTask : WorkerLoop.taskOf raw = some task) (hNew : task.uuid ∉ lives.before) :
    Settled config platform roomId lives (.live (.event raw now)) := by
  intro _ other hOther hBefore
  rw [hTask, Option.some.injEq] at hOther
  exact absurd (hOther ▸ hBefore) hNew

/-- A rejection answers the task once more, if an earlier life had it. -/
theorem step_rejected_iff {lives : WorkerLives} (h : Recovered lives) (hOwn : OwnTable lives)
    {raw : Value} {now : Nat} {task : SessionTask} {tail threadRoot : String}
    {result : SessionResult} (hRunning : lives.books.loop.stopped = none)
    (hTask : WorkerLoop.taskOf raw = some task)
    (hVerdict : lives.books.loop.verdict config platform task = .reject tail)
    (hUuid : result.sessionUuid = task.uuid)
    (hRoom : (stepBooks config platform roomId lives.books (.event raw now)).loop.room =
      lives.books.loop.room ++ [.result threadRoot result .rejection]) :
    Recovered (lives.step config platform roomId recovered (.live (.event raw now))) ↔
      Settled config platform roomId lives (.live (.event raw now)) := by
  have hNone : startsTask config platform lives.books.loop raw = none :=
    startsTask_of_not_start (by simp [hTask, hVerdict])
  by_cases hBefore : task.uuid ∈ lives.before
  · apply iff_of_false
    · have hOld : task.uuid ∈ (lives.step config platform roomId recovered
          (.live (.event raw now))).before := hBefore
      apply not_recovered_of_rejection hOld
      simp [step, hRoom, RoomEvent.isRejectionOf, hUuid]
    · intro hSettled
      exact (hSettled hRunning task hTask hBefore).1 tail hVerdict
  · apply iff_of_true
    · apply h.live hOwn hRunning
      · simp [startedNext, hNone]
      · intro uuid hOld
        have hOther : task.uuid ≠ uuid := by
          rintro rfl
          exact hBefore hOld
        simp [hRoom, RoomEvent.isRejectionOf, hUuid, hOther]
      · simp [hRoom, RoomEvent.isCompletionOf]
    · exact settled_of_new hTask hBefore

/-- A task that is let through, whether tmux then starts it or not. -/
theorem step_announced_iff {lives : WorkerLives} (h : Recovered lives) (hOwn : OwnTable lives)
    {raw : Value} {now : Nat} {task : SessionTask} {command : ValidatedCommand}
    {active : ActiveSessionState} {eventId : String} {start : SessionStart}
    (hRunning : lives.books.loop.stopped = none)
    (hTask : WorkerLoop.taskOf raw = some task)
    (hVerdict : lives.books.loop.verdict config platform task = .start command)
    (hStarts : startsTask config platform lives.books.loop raw = none ∨
      startsTask config platform lives.books.loop raw = some task)
    (hRoom : (stepBooks config platform roomId lives.books (.event raw now)).loop.room =
      lives.books.loop.room ++ [.active task.uuid active, .start eventId start]) :
    Recovered (lives.step config platform roomId recovered (.live (.event raw now))) ↔
      Settled config platform roomId lives (.live (.event raw now)) := by
  have hRecovered : (∀ uuid ∈ lives.before,
        uuid ∉ startedNext config platform lives.books.loop (.event raw now)) →
      Recovered (lives.step config platform roomId recovered (.live (.event raw now))) := by
    intro hStarted
    apply h.live hOwn hRunning hStarted
    · simp [hRoom, RoomEvent.isRejectionOf]
    · simp [hRoom, RoomEvent.isCompletionOf]
  rcases hStarts with hNone | hStarts
  · apply iff_of_true
    · exact hRecovered (by simp [startedNext, hNone])
    · intro _ other hOther _
      rw [hTask, Option.some.injEq] at hOther
      exact ⟨by simp [← hOther, hVerdict], hNone⟩
  · by_cases hBefore : task.uuid ∈ lives.before
    · apply iff_of_false
      · have hOld : task.uuid ∈ (lives.step config platform roomId recovered
            (.live (.event raw now))).before := hBefore
        apply not_recovered_of_started hOld
        simp [step, startedBy_effects, startedNext, hStarts]
      · intro hSettled
        have hNone := (hSettled hRunning task hTask hBefore).2
        rw [hStarts] at hNone
        cases hNone
    · apply iff_of_true
      · apply hRecovered
        intro uuid hUuid
        have hOther : uuid ≠ task.uuid := by
          rintro rfl
          exact hBefore hUuid
        simp [startedNext, hStarts, hOther]
      · exact settled_of_new hTask hBefore

/-- A completion posts results for a session of this life only. -/
theorem recovered_of_completed {lives : WorkerLives} (h : Recovered lives)
    (hOwn : OwnTable lives) {uuid output : String} {now : Nat} {captured : Option String}
    {exitCode : Option Int32} {completed : CompletedSessionState} {worker : WorkerLoop}
    (hRunning : lives.books.loop.stopped = none)
    (hHeld : (lives.books.loop.sessions.get uuid).isSome = true)
    (hRoom : (stepBooks config platform roomId lives.books (.check uuid now captured)).loop.room =
      lives.books.loop.room ++ lives.books.loop.finalOutputEvents uuid output now ++
        (worker.resultEvents uuid output exitCode completed ++
          [.completed uuid completed, .removeActive uuid])) :
    Recovered (lives.step config platform roomId recovered
      (.live (.check uuid now captured))) := by
  have hOwnUuid : uuid ∈ lives.started := hOwn hRunning uuid hHeld
  apply h.live hOwn hRunning
  · simp [startedNext]
  · intro other _
    simp only [hRoom, List.countP_append, WorkerLoop.countP_rejection_resultEvents]
    rw [WorkerLoop.countP_finalOutputEvents _ (fun _ _ => rfl)]
    simp [RoomEvent.isRejectionOf]
  · intro other hOther
    have hNe : other ≠ uuid := by
      rintro rfl
      exact (h.answered hOwn hOther hRunning).1 hOwnUuid
    simp only [hRoom, List.countP_append, WorkerLoop.countP_resultEvents, hNe, and_false,
      if_false]
    rw [WorkerLoop.countP_finalOutputEvents _ (fun _ _ => rfl)]
    simp [RoomEvent.isCompletionOf]

theorem step_accepted_iff {lives : WorkerLives} (h : Recovered lives) (hOwn : OwnTable lives)
    {input : WorkerInput} (hRunning : lives.books.loop.stopped = none)
    (hAccepted : ∀ raw now task, input = .event raw now →
      starting config platform lives.books.loop.finishKill raw = some task →
        nameInUse lives.books.loop.finishKill task.uuid = false) :
    Recovered (lives.step config platform roomId recovered (.live input)) ↔
      Settled config platform roomId lives (.live input) := by
  have hLoop := stepBooks_loop roomId hAccepted
  have hEffect := WorkerLoop.step_effect config platform lives.books.loop input
  generalize lives.books.loop.step config platform input = loop at hEffect hLoop
  cases hEffect with
  | stopped hStopped => simp [hRunning] at hStopped
  | quiet host removing hHost _ hNoTask =>
      cases input with
      | event raw now =>
          have hTaskOf : WorkerLoop.taskOf raw = none := by
            simp [WorkerLoop.taskOf, hNoTask raw now rfl]
          have hRoom : (stepBooks config platform roomId lives.books (.event raw now)).loop.room =
              lives.books.loop.room := by rw [hLoop]
          exact step_idle_iff h hOwn hRunning (by simp [hTaskOf]) (by simp [hTaskOf]) hRoom
      | _ =>
          apply iff_of_true
          · apply h.live hOwn hRunning
            · simp [startedNext]
            · simp [hLoop]
            · simp [hLoop]
          · trivial
  | @malformed raw now eventId content _ hSubmitted hTask =>
      have hTaskOf := (taskOf_of_submitted hSubmitted).trans hTask
      have hRoom : (stepBooks config platform roomId lives.books (.event raw now)).loop.room =
          lives.books.loop.room := by
        rw [hLoop]
        rfl
      exact step_idle_iff h hOwn hRunning (by simp [hTaskOf]) (by simp [hTaskOf]) hRoom
  | @rejected raw now eventId tail content task _ hSubmitted hTask hVerdict =>
      have hTaskOf := (taskOf_of_submitted hSubmitted).trans hTask
      exact step_rejected_iff h hOwn hRunning hTaskOf hVerdict rfl (by rw [hLoop])
  | @duplicate raw now eventId content task _ hSubmitted hTask hVerdict =>
      have hTaskOf := (taskOf_of_submitted hSubmitted).trans hTask
      have hRoom : (stepBooks config platform roomId lives.books (.event raw now)).loop.room =
          lives.books.loop.room := by
        rw [hLoop]
        rfl
      exact step_idle_iff h hOwn hRunning (by simp [hTaskOf, hVerdict])
        (by simp [hTaskOf, hVerdict]) hRoom
  | @notCreated raw now eventId content task command error sessions session active start _
      hSubmitted hTask hVerdict hCreate =>
      have hTaskOf := (taskOf_of_submitted hSubmitted).trans hTask
      have hNone : startsTask config platform lives.books.loop raw = none := by
        have hFreed : lives.books.loop.finishKill.stopped = none := hRunning
        apply startsTask_eq_none
        rw [starting_of_start hFreed hTaskOf hVerdict]
        simp [created, hCreate, Except.toOption]
      exact step_announced_iff h hOwn hRunning hTaskOf hVerdict (.inl hNone) (by rw [hLoop])
  | @started raw now eventId content task command host tmux removing sessions session active start
      _ hSubmitted hTask hVerdict hCreate =>
      have hTaskOf := (taskOf_of_submitted hSubmitted).trans hTask
      have hStarting := starting_of_created hRunning hTaskOf hVerdict hCreate
      have hStarts : startsTask config platform lives.books.loop raw = some task := by
        simp [startsTask, hStarting, Option.filter, hAccepted raw now task rfl hStarting]
      exact step_announced_iff h hOwn hRunning hTaskOf hVerdict (.inr hStarts) (by rw [hLoop])
  | @completed uuid now captured session tmux sessions completed _ hGet hActive hTmux hDead hRest =>
      apply iff_of_true
      · exact recovered_of_completed h hOwn hRunning (by rw [hGet]; rfl) (by rw [hLoop])
      · trivial

theorem step_live_iff {lives : WorkerLives} (h : Recovered lives) (hOwn : OwnTable lives)
    (input : WorkerInput) :
    Recovered (lives.step config platform roomId recovered (.live input)) ↔
      Settled config platform roomId lives (.live input) := by
  by_cases hRunning : lives.books.loop.stopped = none
  · by_cases hRefused : ∃ raw now task, input = .event raw now ∧
        starting config platform lives.books.loop.finishKill raw = some task ∧
          nameInUse lives.books.loop.finishKill task.uuid = true
    · obtain ⟨raw, now, task, rfl, hStarting, hInUse⟩ := hRefused
      obtain ⟨hRecovered, hSettled⟩ := recovered_of_refused h hOwn hStarting hInUse
      exact iff_of_true hRecovered hSettled
    · apply step_accepted_iff h hOwn hRunning
      intro raw now task hInput hStarting
      rw [Bool.eq_false_iff]
      intro hInUse
      exact hRefused ⟨raw, now, task, hInput, hStarting, hInUse⟩
  · have hStopped := Option.isSome_iff_ne_none.mpr hRunning
    have hNothing : effects config platform roomId lives.books input = [] := by
      rw [effects, if_pos hStopped]
    have hSame : lives.step config platform roomId recovered (.live input) = lives := by
      rw [step, stepBooks_of_stopped config platform roomId hStopped, hNothing]
      simp [startedBy]
    rw [hSame]
    apply iff_of_true h
    cases input with
    | event raw now => exact fun hNone => absurd hNone hRunning
    | _ => trivial

theorem step_ownTable (lives : WorkerLives) (input : LivesInput) (hOwn : OwnTable lives) :
    OwnTable (lives.step config platform roomId recovered input) := by
  cases input with
  | crash input count =>
      intro _ uuid hSome
      simp [step, restart, WorkerLoop.new, SessionManager.new, SessionManager.get] at hSome
  | live input =>
      intro hNext uuid hSome
      simp only [step, List.mem_append, startedBy_effects] at hNext hSome ⊢
      by_cases hRefused : ∃ raw now task, input = .event raw now ∧
          starting config platform lives.books.loop.finishKill raw = some task ∧
            nameInUse lives.books.loop.finishKill task.uuid = true
      · obtain ⟨raw, now, task, rfl, hStarting, hInUse⟩ := hRefused
        have hStopped := (stepBooks_refused roomId now hStarting hInUse).1
        rw [hNext] at hStopped
        cases hStopped
      · have hAccepted : ∀ raw now task, input = .event raw now →
            starting config platform lives.books.loop.finishKill raw = some task →
              nameInUse lives.books.loop.finishKill task.uuid = false := by
          intro raw now task hInput hStarting
          rw [Bool.eq_false_iff]
          intro hInUse
          exact hRefused ⟨raw, now, task, hInput, hStarting, hInUse⟩
        have hLoop := stepBooks_loop roomId hAccepted
        have hEffect := WorkerLoop.step_effect config platform lives.books.loop input
        generalize lives.books.loop.step config platform input = loop at hEffect hLoop
        rw [hLoop] at hNext hSome
        cases hEffect with
        | stopped hStopped => exact .inl (hOwn hNext uuid hSome)
        | quiet host removing hHost hRunning => exact .inl (hOwn hRunning uuid hSome)
        | malformed => cases hNext
        | rejected hRunning => exact .inl (hOwn hRunning uuid hSome)
        | duplicate hRunning => exact .inl (hOwn hRunning uuid hSome)
        | notCreated => cases hNext
        | @started raw now eventId content task command host tmux removing sessions session active
            start hRunning hSubmitted hTask hVerdict hCreate _ _ hGet =>
            have hTaskOf : WorkerLoop.taskOf raw = some task := by
              simp [WorkerLoop.taskOf, hSubmitted, hTask]
            have hStarting := starting_of_created hRunning hTaskOf hVerdict hCreate
            rw [hGet] at hSome
            by_cases hUuid : uuid = task.uuid
            · right
              simp [startedNext, startsTask, hStarting, Option.filter,
                hAccepted raw now task rfl hStarting, hUuid]
            · rw [if_neg hUuid] at hSome
              exact .inl (hOwn hRunning uuid hSome)
        | @completed other now captured session tmux sessions completed hRunning hGet _ _ _ hRest =>
            rw [hRest] at hSome
            by_cases hUuid : uuid = other
            · exact .inl (hOwn hRunning uuid (by rw [hUuid, hGet]; rfl))
            · rw [if_neg hUuid] at hSome
              exact .inl (hOwn hRunning uuid hSome)

/-- Nothing of a crashed worker's sessions is recovered: a run goes well exactly
when each crash finds every started task with its one result in the room, and
no task from before a crash is rejected or started again. -/
theorem always_recovered_iff (config : WorkerConfig) (platform : Platform)
    (roomId workerId : String) (recovered : String → Option String)
    (files : String → Option File) (file : Option (List PersistedSession))
    (inputs : List LivesInput) :
    Always (step config platform roomId recovered) Recovered
        (new recovered workerId files file) inputs ↔
      Admissible (step config platform roomId recovered) (Settled config platform roomId)
        (new recovered workerId files file) inputs := by
  have hTable : ∀ lives input, OwnTable lives →
      OwnTable (lives.step config platform roomId recovered input) := step_ownTable
  apply always_iff_admissible_under hTable
  · intro lives input hOwn h
    cases input with
    | live input => exact step_live_iff h hOwn input
    | crash input count => exact step_crash_iff lives input count
  · intro _ uuid hSome
    simp [new, WorkerBooks.new, WorkerLoop.new, SessionManager.new, SessionManager.get] at hSome
  · intro uuid hUuid
    simp [new] at hUuid

/-- A worker that ran `echo` is killed right after it wrote its sessions file.
The next one has the thread roots of an empty state room and does not know the
session; when its task is delivered again after the command has ended, it is
started again. -/
theorem not_always_recovered :
    ¬ Always (step WorkerLoop.echoConfig WorkerLoop.plainPlatform "!room" fun _ => none) Recovered
      (new (fun _ => none) "WORKER" (fun _ => none) none)
      [.live (.event (WorkerLoop.echoEvent "@alice:example.com" "@alice:example.com" "t1") 0),
        .crash .removeFile 0, .live (.host (.sessionLost "t1")),
        .live (.event (WorkerLoop.echoEvent "@alice:example.com" "@alice:example.com" "t1")
          1)] := by
  intro h
  have hOnce := (h.last "t1" (by decide +kernel)).1
  exact absurd hOnce (by decide +kernel)

end WorkerLives

end Mxdx.Worker
