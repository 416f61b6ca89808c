import Mxdx.Worker.LoopInvariant
import Mxdx.Foundations.Transcript

/-! Output suppression as a statement about two runs: what the room gets must
not depend on the terminal of a task that asked for no output in the room. -/
namespace Mxdx.Worker

open Automaton

namespace WorkerLoop

variable {config : WorkerConfig} {platform : Platform}

/-- The worker with an empty record of what it has sent. -/
def silenced (worker : WorkerLoop) : WorkerLoop := { worker with room := [] }

/-- The worker with `events` sent before everything else. -/
def after (worker : WorkerLoop) (events : List RoomEvent) : WorkerLoop :=
  { worker with room := events ++ worker.room }

/-- What one input makes the worker send. -/
def posted (config : WorkerConfig) (platform : Platform) (worker : WorkerLoop)
    (input : WorkerInput) : List RoomEvent :=
  (worker.silenced.step config platform input).room

theorem silenced_after (worker : WorkerLoop) : worker.silenced.after worker.room = worker := by
  simp [silenced, after]

theorem start_after (worker : WorkerLoop) (events : List RoomEvent) (sender : Option String)
    (eventId : String) (task : SessionTask) (now : Nat) :
    (worker.after events).start platform sender eventId task now =
      (worker.start platform sender eventId task now).after events := by
  simp only [start, after]
  cases worker.sessions.claim task now with
  | error error => rfl
  | ok claimed =>
      obtain ⟨sessions, active⟩ := claimed
      dsimp only [post]
      cases worker.host.create platform task.uuid with
      | error error => simp [stop]
      | ok created =>
          obtain ⟨host, tmux⟩ := created
          dsimp only
          cases sessions.markRunning task.uuid none tmux with
          | error error => simp [stop]
          | ok running => simp [markHandled]

theorem handleEvent_after (worker : WorkerLoop) (events : List RoomEvent) (raw : Value)
    (now : Nat) :
    (worker.after events).handleEvent config platform raw now =
      (worker.handleEvent config platform raw now).after events := by
  unfold handleEvent
  split
  · unfold taskSubmission
    split
    · rfl
    · rename_i task _
      have hVerdict : (worker.after events).verdict config platform task =
          worker.verdict config platform task := rfl
      rw [hVerdict]
      split
      · simp [reject, post, markHandled, after]
      · rfl
      · exact start_after worker events _ _ task now
  · simp only [sessionCancel, after]
    split <;> rfl
  · rfl

theorem check_after (worker : WorkerLoop) (events : List RoomEvent) (uuid : String) (now : Nat)
    (captured : Option String) :
    (worker.after events).check platform uuid now captured =
      (worker.check platform uuid now captured).after events := by
  simp only [check, after]
  cases worker.sessions.get uuid with
  | none => rfl
  | some session =>
      dsimp only
      by_cases hState : session.state = .completed
      · simp only [hState, ↓reduceIte]
      · cases session.tmux with
        | none => simp only [hState, ↓reduceIte]
        | some tmux =>
            by_cases hAlive : worker.host.isAlive tmux = true
            · simp only [hState, hAlive, ↓reduceIte]
            · simp only [hState, hAlive, completeSession, post, Bool.false_eq_true, ↓reduceIte]
              cases worker.sessions.complete uuid
                  ((worker.host.readExitCode platform tmux).or (some 0)) now with
              | error error => simp [stop, finalOutputEvents]
              | ok completed => simp [finalOutputEvents, resultEvents]

/-- Nothing the worker does depends on what it has sent. -/
theorem step_after (worker : WorkerLoop) (events : List RoomEvent) (input : WorkerInput) :
    (worker.after events).step config platform input =
      (worker.step config platform input).after events := by
  unfold step
  split
  · rw [if_pos]
    assumption
  · rw [if_neg (by assumption)]
    cases input with
    | event raw now => exact handleEvent_after worker.finishKill events raw now
    | check uuid now captured => exact check_after worker.finishKill events uuid now captured
    | removeFile =>
        simp only [removeNext, after]
        split <;> rfl
    | host input => rfl

theorem step_room (worker : WorkerLoop) (input : WorkerInput) :
    (worker.step config platform input).room =
      worker.room ++ worker.posted config platform input := by
  conv_lhs => rw [← silenced_after worker, step_after]
  rfl

theorem step_silenced (worker : WorkerLoop) (input : WorkerInput) :
    (worker.silenced.step config platform input).silenced =
      (worker.step config platform input).silenced := by
  conv_rhs => rw [← silenced_after worker, step_after]
  rfl

/-- The room gets the transcript of the run. -/
theorem run_room (worker : WorkerLoop) (inputs : List WorkerInput) :
    (run (step config platform) worker inputs).room =
      worker.room ++ transcript (step config platform) (posted config platform) worker inputs := by
  induction inputs generalizing worker with
  | nil => simp [transcript]
  | cons input rest ih => rw [run_cons, ih, step_room, transcript, List.append_assoc]

/-- What the report of a session consists of. -/
def reportEvents (platform : Platform) (worker : WorkerLoop) (uuid : String) (session : Session)
    (tmux : TmuxSession) (now : Nat) (finalOutput : String) : List RoomEvent :=
  let exitCode := (worker.finishKill.host.readExitCode platform tmux).or (some 0)
  let completed : CompletedSessionState := ⟨exitCode, now - session.startedAt, now⟩
  worker.finalOutputEvents uuid finalOutput now ++
    (worker.finishKill.resultEvents uuid finalOutput exitCode completed ++
      [.completed uuid completed, .removeActive uuid])

/-- The session is not completed, but tmux has lost it. -/
structure Due (worker : WorkerLoop) (uuid : String) (session : Session) (tmux : TmuxSession) :
    Prop where
  running : worker.stopped = none
  found : worker.sessions.get uuid = some session
  active : session.state ≠ .completed
  handle : session.tmux = some tmux
  dead : worker.finishKill.host.isAlive tmux = false

/-- Only the room depends on what the terminal showed. -/
theorem step_check_of_due (config : WorkerConfig) (platform : Platform) {worker : WorkerLoop}
    {uuid : String} {session : Session}
    {tmux : TmuxSession} (h : worker.Due uuid session tmux) (now : Nat) :
    ∃ sessions, ∀ captured, worker.step config platform (.check uuid now captured) =
      { worker.finishKill with
        sessions
        room := worker.room ++
          worker.reportEvents platform uuid session tmux now (captured.getD "") } := by
  obtain ⟨rest, hComplete, -⟩ := SessionManager.complete_of_active h.found h.active
    ((worker.finishKill.host.readExitCode platform tmux).or (some 0)) now
  refine ⟨rest, ?_⟩
  intro captured
  have hStopped : ¬ worker.stopped.isSome = true := by simp [h.running]
  have hSessions : worker.finishKill.sessions = worker.sessions := rfl
  simp only [step, if_neg hStopped, check, hSessions, h.found, if_neg h.active, h.handle, h.dead,
    Bool.false_eq_true, if_false, completeSession, post, hComplete]
  rw [List.append_assoc]
  rfl

/-- A session that is not due is not reported. -/
theorem step_check_of_not_due {worker : WorkerLoop} {uuid : String}
    (h : ∀ session tmux, ¬ worker.Due uuid session tmux) (now : Nat)
    (first second : Option String) :
    worker.step config platform (.check uuid now first) =
      worker.step config platform (.check uuid now second) := by
  by_cases hStopped : worker.stopped.isSome = true
  · simp only [step, if_pos hStopped]
  · simp only [step, if_neg hStopped, check]
    cases hFound : worker.finishKill.sessions.get uuid with
    | none => rfl
    | some session =>
        dsimp only
        by_cases hState : session.state = .completed
        · rw [if_pos hState, if_pos hState]
        · rw [if_neg hState, if_neg hState]
          cases hTmux : session.tmux with
          | none => rfl
          | some tmux =>
              dsimp only
              by_cases hAlive : worker.finishKill.host.isAlive tmux = true
              · rw [if_pos hAlive, if_pos hAlive]
              · exact absurd ⟨by simpa using hStopped, hFound, hState, hTmux,
                  by simpa using hAlive⟩ (h session tmux)

/-- Two outputs that the room cannot tell apart: what is blank is not sent, and
of that the result shows the first 1024 characters. -/
def Alike (first second : String) : Prop :=
  first = second ∨ trim first.toList = [] ∧ trim second.toList = [] ∧
    first.toList.take 1024 = second.toList.take 1024

instance (first second : String) : Decidable (Alike first second) :=
  inferInstanceAs (Decidable (_ ∨ _ ∧ _ ∧ _))

theorem encode_inj {first second : String} :
    Base64.encode (asBytes first) = Base64.encode (asBytes second) ↔ first = second := by
  constructor
  · intro h
    have hBytes := congrArg Base64.decode h
    rw [Base64.decode_encode, Base64.decode_encode, Option.some.injEq] at hBytes
    exact Utf8.bytes_inj.mp hBytes
  · rintro rfl
    rfl

section Reports

variable {worker : WorkerLoop} {uuid threadRoot : String} (session : Session) (tmux : TmuxSession)
  (now : Nat) {first second : String}

theorem reportEvents_eq_iff (hRoot : worker.threadRoots uuid = some threadRoot) :
    worker.reportEvents platform uuid session tmux now first =
        worker.reportEvents platform uuid session tmux now second ↔
      Alike first second := by
  have hKilled : worker.finishKill.threadRoots uuid = some threadRoot := hRoot
  simp only [reportEvents, finalOutputEvents, resultEvents, hRoot, hKilled, Alike]
  by_cases hFirst : trim first.toList = [] <;> by_cases hSecond : trim second.toList = []
  · simp only [hFirst, hSecond, ↓reduceIte, true_and]
    constructor
    · intro h
      injection h with hResult _
      injection hResult with _ hResult _
      injection hResult with _ _ _ _ _ hTail
      injection hTail with hTail
      exact .inr (String.ofList_injective hTail)
    · rintro (rfl | hTail)
      · rfl
      · rw [hTail]
  · have hDiffer : first ≠ second := by
      rintro rfl
      exact hSecond hFirst
    simp [hFirst, hSecond, hDiffer]
  · have hDiffer : first ≠ second := by
      rintro rfl
      exact hFirst hSecond
    simp [hFirst, hSecond, hDiffer]
  · constructor
    · intro h
      simp only [hFirst, hSecond, ↓reduceIte] at h
      injection h with hOutput _
      injection hOutput with _ hOutput
      injection hOutput with _ _ _ hData
      exact .inl (encode_inj.mp hData)
    · intro h
      have hSame : first = second := by simpa [hFirst] using h
      rw [hSame]

theorem reportEvents_distinguishable (hRoot : worker.threadRoots uuid = some threadRoot) :
    Distinguishable (worker.reportEvents platform uuid session tmux now first)
      (worker.reportEvents platform uuid session tmux now second) := by
  have hKilled : worker.finishKill.threadRoots uuid = some threadRoot := hRoot
  simp only [reportEvents, finalOutputEvents, resultEvents, hRoot, hKilled]
  by_cases hFirst : trim first.toList = [] <;> by_cases hSecond : trim second.toList = []
  · exact distinguishable_of_length (by simp [hFirst, hSecond])
  · simp only [hFirst, hSecond, ↓reduceIte]
    exact distinguishable_of_head (by simp)
  · simp only [hFirst, hSecond, ↓reduceIte]
    exact distinguishable_of_head (by simp)
  · exact distinguishable_of_length (by simp [hFirst, hSecond])

end Reports

/-- What one input and its counterpart in the other run may differ in. -/
inductive SuppressedTwins (worker : WorkerLoop) : WorkerInput × WorkerInput → Prop where
  | same (input : WorkerInput) : SuppressedTwins worker (input, input)
  | output {uuid : String} {session : Session} (now : Nat) (first second : Option String)
      (hFound : worker.sessions.get uuid = some session)
      (hSuppressed : session.task.noRoomOutput = true) :
      SuppressedTwins worker (.check uuid now first, .check uuid now second)

/-- Two runs that receive the same events and differ only in the terminal output
of tasks that were submitted with `no_room_output`. -/
def TwinRuns (config : WorkerConfig) (platform : Platform) (worker : WorkerLoop)
    (inputs : List (WorkerInput × WorkerInput)) : Prop :=
  Admissible (fun worker pair => worker.step config platform pair.1) SuppressedTwins worker inputs

/-- A suppressed session that is reported shows nothing that tells the two
outputs apart. -/
def ShowsTheSame (worker : WorkerLoop) (pair : WorkerInput × WorkerInput) : Prop :=
  ∀ uuid now first second session tmux,
    pair = (.check uuid now first, .check uuid now second) → worker.Due uuid session tmux →
      session.task.noRoomOutput = true → Alike (first.getD "") (second.getD "")

/-- The worker of the other run: all but the room is the same. -/
structure Twins (first second : WorkerLoop) : Prop where
  same : first.silenced = second.silenced
  books : first.Books

theorem Due.root {worker : WorkerLoop} {uuid : String} {session : Session} {tmux : TmuxSession}
    (h : worker.Due uuid session tmux) (hBooks : worker.Books) :
    ∃ threadRoot, worker.threadRoots uuid = some threadRoot := by
  apply Option.isSome_iff_exists.mp
  apply hBooks.rooted
  rw [h.found]
  rfl

theorem Due.silenced {worker : WorkerLoop} {uuid : String} {session : Session}
    {tmux : TmuxSession} (h : worker.Due uuid session tmux) :
    worker.silenced.Due uuid session tmux :=
  ⟨h.running, h.found, h.active, h.handle, h.dead⟩

theorem posted_of_due {worker : WorkerLoop} {uuid : String} {session : Session}
    {tmux : TmuxSession} (h : worker.Due uuid session tmux) (now : Nat)
    (captured : Option String) :
    worker.posted config platform (.check uuid now captured) =
      worker.reportEvents platform uuid session tmux now (captured.getD "") := by
  obtain ⟨_, hStep⟩ := step_check_of_due config platform h.silenced now
  rw [posted, hStep]
  rfl

theorem posted_of_not_due {worker : WorkerLoop} {uuid : String}
    (h : ∀ session tmux, ¬ worker.Due uuid session tmux) (now : Nat)
    (first second : Option String) :
    worker.posted config platform (.check uuid now first) =
      worker.posted config platform (.check uuid now second) := by
  rw [posted, posted, step_check_of_not_due]
  intro session tmux hDue
  exact h session tmux ⟨hDue.running, hDue.found, hDue.active, hDue.handle, hDue.dead⟩

theorem silenced_check (worker : WorkerLoop) (uuid : String) (now : Nat)
    (first second : Option String) :
    (worker.step config platform (.check uuid now first)).silenced =
      (worker.step config platform (.check uuid now second)).silenced := by
  by_cases hDue : ∃ session tmux, worker.Due uuid session tmux
  · obtain ⟨session, tmux, hDue⟩ := hDue
    obtain ⟨_, hStep⟩ := step_check_of_due config platform hDue now
    rw [hStep, hStep]
    rfl
  · rw [step_check_of_not_due]
    intro session tmux h
    exact hDue ⟨session, tmux, h⟩

theorem posted_twin {first second : WorkerLoop} (h : Twins first second) (input : WorkerInput) :
    second.posted config platform input = first.posted config platform input := by
  rw [posted, posted, h.same]

theorem step_twins {first second : WorkerLoop} {pair : WorkerInput × WorkerInput}
    (h : Twins first second) (hPair : SuppressedTwins first pair) :
    Twins (first.step config platform pair.1) (second.step config platform pair.2) := by
  have hSame : ∀ input, (first.step config platform input).silenced =
      (second.step config platform input).silenced := by
    intro input
    rw [← step_silenced, h.same, step_silenced]
  cases hPair with
  | same input => exact ⟨hSame input, step_books config platform first input h.books⟩
  | output now left right =>
      exact ⟨(silenced_check first _ now left right).trans (hSame _),
        step_books config platform first _ h.books⟩

theorem posted_distinguishable {first second : WorkerLoop} {pair : WorkerInput × WorkerInput}
    (h : Twins first second) (hPair : SuppressedTwins first pair) :
    Distinguishable (first.posted config platform pair.1)
      (second.posted config platform pair.2) := by
  rw [posted_twin h]
  cases hPair with
  | same input => exact distinguishable_self _
  | @output uuid _ now left right =>
      by_cases hDue : ∃ session tmux, first.Due uuid session tmux
      · obtain ⟨session, tmux, hDue⟩ := hDue
        obtain ⟨_, hRoot⟩ := hDue.root h.books
        rw [posted_of_due hDue, posted_of_due hDue]
        exact reportEvents_distinguishable session tmux now hRoot
      · dsimp only
        rw [posted_of_not_due (fun session tmux h => hDue ⟨session, tmux, h⟩) now left right]
        exact distinguishable_self _

theorem posted_eq_iff {first second : WorkerLoop} {pair : WorkerInput × WorkerInput}
    (h : Twins first second) (hPair : SuppressedTwins first pair) :
    first.posted config platform pair.1 = second.posted config platform pair.2 ↔
      ShowsTheSame first pair := by
  rw [posted_twin h]
  cases hPair with
  | same input =>
      apply iff_of_true rfl
      intro uuid now left right session tmux hEq _ _
      injection hEq with hLeft hRight
      rw [hLeft] at hRight
      injection hRight with _ _ hCaptured
      exact .inl (congrArg (·.getD "") hCaptured)
  | @output uuid suppressed now left right hFound hSuppressed =>
      by_cases hDue : ∃ session tmux, first.Due uuid session tmux
      · obtain ⟨session, tmux, hDue⟩ := hDue
        obtain ⟨_, hRoot⟩ := hDue.root h.books
        dsimp only
        rw [posted_of_due hDue, posted_of_due hDue, reportEvents_eq_iff session tmux now hRoot]
        constructor
        · intro hAlike other later left' right' _ _ hEq _ _
          injection hEq with hLeft hRight
          injection hLeft with _ _ hLeft
          injection hRight with _ _ hRight
          rwa [← hLeft, ← hRight]
        · intro hShows
          have hSession : suppressed = session := by
            rw [hDue.found, Option.some.injEq] at hFound
            exact hFound.symm
          exact hShows uuid now left right session tmux rfl hDue (hSession ▸ hSuppressed)
      · have hNot : ∀ session tmux, ¬ first.Due uuid session tmux :=
          fun session tmux h => hDue ⟨session, tmux, h⟩
        apply iff_of_true (posted_of_not_due hNot now left right)
        intro other later left' right' session tmux hEq hOther _
        injection hEq with hLeft _
        injection hLeft with hUuid _ _
        exact absurd (hUuid ▸ hOther) (hNot session tmux)

/-- A task that asks for no output in the room. -/
def quietEvent : Value :=
  .obj [("type", .str "org.mxdx.session.task"), ("event_id", .str "$task"),
    ("sender", .str "@alice:example.com"),
    ("content", .obj [("uuid", .str "t1"), ("sender_id", .str "@alice:example.com"),
      ("bin", .str "echo"), ("args", .arr []), ("cwd", .str "/tmp"),
      ("no_room_output", .bool true)])]

/-- The task is run, cancelled and reported; only what its terminal shows differs. -/
def quietRuns (first second : Option String) : List (WorkerInput × WorkerInput) :=
  [(.event quietEvent 0, .event quietEvent 0),
    (.event (cancelEvent "t1") 1, .event (cancelEvent "t1") 1),
    (.check "t1" 2 first, .check "t1" 2 second)]

theorem twinRuns_quiet (first second : Option String) :
    TwinRuns echoConfig plainPlatform emptyLoop (quietRuns first second) := by
  refine ⟨.same _, .same _, ?_, trivial⟩
  have hSome : (((emptyLoop.step echoConfig plainPlatform (.event quietEvent 0)).step echoConfig
      plainPlatform (.event (cancelEvent "t1") 1)).sessions.get "t1").map
        (fun session => session.task.noRoomOutput) = some true := by
    decide +kernel
  obtain ⟨session, hFound, hSuppressed⟩ := Option.map_eq_some_iff.mp hSome
  exact .output 2 first second hFound hSuppressed

end WorkerLoop

end Mxdx.Worker
