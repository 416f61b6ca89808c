import Mxdx.Worker.Task
import Mxdx.Worker.Tmux
import Mathlib.Data.List.Nodup

/-! The worker's table of sessions. A session is claimed, runs and completes;
it stays in the table for good, which is what the duplicate guard relies on. -/
namespace Mxdx.Worker

/-- A session goes through these in order, or from the first to the last. -/
inductive SessionState where
  | claimed
  | running
  | completed
deriving DecidableEq

/-- The name a state has in the texts of errors. -/
def SessionState.debug : SessionState → String
  | claimed => "Claimed"
  | running => "Running"
  | completed => "Completed"

/-- How a session came to its end. -/
inductive SessionStatus where
  | success
  | failed
  | timeout
  | cancelled
deriving DecidableEq

/-- A session as the worker keeps it. -/
structure Session where
  uuid : String
  task : SessionTask
  state : SessionState
  tmux : Option TmuxSession
  startedAt : Nat
  workerId : String
  pid : Option UInt32
deriving DecidableEq

/-- What the worker publishes of a session that goes on. -/
structure ActiveSessionState where
  bin : String
  args : List String
  pid : Option UInt32
  startTime : Nat
  clientId : String
  interactive : Bool
  workerId : String
deriving DecidableEq

/-- What the worker publishes of a session that has ended. -/
structure CompletedSessionState where
  exitCode : Option Int32
  durationSeconds : Nat
  completionTime : Nat
deriving DecidableEq

/-- The sessions by uuid; no uuid stands twice. -/
structure SessionManager where
  sessions : List Session
  workerId : String
  nodup : (sessions.map Session.uuid).Nodup

namespace SessionManager

/-- No sessions yet. -/
def new (workerId : String) : SessionManager := ⟨[], workerId, List.nodup_nil⟩

/-- The session of an id, whatever its state. -/
def get (manager : SessionManager) (uuid : String) : Option Session :=
  manager.sessions.find? (·.uuid == uuid)

/-- Whether there is a session of an id, whatever its state. -/
def containsSession (manager : SessionManager) (uuid : String) : Bool :=
  (manager.sessions.map Session.uuid).contains uuid

/-- The sessions that have not ended. -/
def activeSessions (manager : SessionManager) : List Session :=
  manager.sessions.filter (·.state != .completed)

/-- Change the session of one uuid, which keeps its uuid. -/
def modify (manager : SessionManager) (uuid : String) (change : Session → Session)
    (hUuid : ∀ session, (change session).uuid = session.uuid) : SessionManager where
  sessions := manager.sessions.map fun session =>
    if session.uuid = uuid then change session else session
  workerId := manager.workerId
  nodup := by
    have hSame : ∀ session : Session,
        (if session.uuid = uuid then change session else session).uuid = session.uuid := by
      intro session
      split
      · exact hUuid session
      · rfl
    simpa only [List.map_map, Function.comp_def, hSame] using manager.nodup

/-- An id counts as taken once it has been claimed. -/
theorem containsSession_iff {manager : SessionManager} {uuid : String} :
    manager.containsSession uuid = true ↔ uuid ∈ manager.sessions.map Session.uuid := by
  rw [containsSession, List.contains_iff_mem]

/-- Start tracking a task. -/
def claim (manager : SessionManager) (task : SessionTask) (now : Nat) :
    Except String (SessionManager × ActiveSessionState) :=
  if hNew : manager.containsSession task.uuid = true then
    .error ("session " ++ task.uuid ++ " already exists")
  else
    .ok ({ sessions := manager.sessions ++
             [⟨task.uuid, task, .claimed, none, now, manager.workerId, none⟩]
           workerId := manager.workerId
           nodup := by
             rw [containsSession_iff] at hNew
             simpa [List.nodup_append] using ⟨manager.nodup, by simpa using hNew⟩ },
      ⟨task.bin, task.args, none, now, task.senderId, task.interactive, manager.workerId⟩)

/-- Only a claimed session starts to run. -/
def markRunning (manager : SessionManager) (uuid : String) (pid : Option UInt32)
    (tmux : TmuxSession) : Except String SessionManager :=
  match manager.get uuid with
  | none => .error ("session " ++ uuid ++ " not found")
  | some session =>
      if session.state = .claimed then
        .ok (manager.modify uuid
          (fun session => { session with state := .running, pid, tmux := some tmux })
          fun _ => rfl)
      else
        .error ("session " ++ uuid ++ " is not in Claimed state (current: " ++
          session.state.debug ++ ")")

/-- A session ends once. -/
def complete (manager : SessionManager) (uuid : String) (exitCode : Option Int32) (now : Nat) :
    Except String (SessionManager × CompletedSessionState) :=
  match manager.get uuid with
  | none => .error ("session " ++ uuid ++ " not found")
  | some session =>
      if session.state = .completed then .error ("session " ++ uuid ++ " already completed")
      else
        .ok (manager.modify uuid (fun session => { session with state := .completed }) fun _ => rfl,
          ⟨exitCode, now - session.startedAt, now⟩)

theorem containsSession_eq_isSome (manager : SessionManager) (uuid : String) :
    manager.containsSession uuid = (manager.get uuid).isSome := by
  rw [Bool.eq_iff_iff, containsSession_iff, get, List.find?_isSome]
  simp

/-- A change to one session leaves the others as they are. -/
theorem get_modify (manager : SessionManager) (uuid other : String) (change : Session → Session)
    (hUuid : ∀ session, (change session).uuid = session.uuid) :
    (manager.modify uuid change hUuid).get other =
      if other = uuid then (manager.get uuid).map change else manager.get other := by
  have hFind : ∀ sessions : List Session,
      (sessions.map fun session => if session.uuid = uuid then change session else session).find?
          (·.uuid == other) =
        if other = uuid then (sessions.find? (·.uuid == uuid)).map change
        else sessions.find? (·.uuid == other) := by
    intro sessions
    induction sessions with
    | nil => simp
    | cons session rest ih =>
        by_cases hHead : session.uuid = uuid
        · by_cases hOther : other = uuid
          · simp [hOther, hHead, hUuid]
          · have hSkip : (uuid == other) = false := by simpa using Ne.symm hOther
            simp [hOther, hHead, hUuid, hSkip, ih]
        · by_cases hOther : other = uuid
          · simpa [hOther, hHead] using ih
          · by_cases hFound : session.uuid = other
            · simp [hOther, hFound]
            · simpa [hOther, hHead, hFound] using ih
  exact hFind manager.sessions

/-- No two sessions have one id, so that each is found. -/
theorem get_of_mem {manager : SessionManager} {session : Session}
    (h : session ∈ manager.sessions) : manager.get session.uuid = some session := by
  cases hFound : manager.get session.uuid with
  | none =>
      have hNone := List.find?_eq_none.mp hFound session h
      simp at hNone
  | some found =>
      have hUuid : found.uuid = session.uuid := by simpa using List.find?_some hFound
      have hMem : found ∈ manager.sessions := List.mem_of_find?_eq_some hFound
      rw [List.inj_on_of_nodup_map manager.nodup hMem h hUuid]

theorem length_activeSessions_modify (manager : SessionManager) (uuid : String)
    (change : Session → Session) (hUuid : ∀ session, (change session).uuid = session.uuid) :
    (manager.modify uuid change hUuid).activeSessions.length =
      manager.sessions.countP fun session =>
        (if session.uuid = uuid then change session else session).state != .completed := by
  rw [activeSessions, ← List.countP_eq_length_filter, modify, List.countP_map]
  rfl

/-- A claim adds one session. -/
theorem length_activeSessions_claim {manager claimed : SessionManager} {task : SessionTask}
    {now : Nat} {active : ActiveSessionState} (h : manager.claim task now = .ok (claimed, active)) :
    claimed.activeSessions.length = manager.activeSessions.length + 1 := by
  unfold claim at h
  split at h
  · cases h
  · injection h with h
    injection h with h _
    subst h
    simp [activeSessions, List.filter_append]

/-- A session that starts to run was active before. -/
theorem length_activeSessions_markRunning {manager running : SessionManager} {uuid : String}
    {pid : Option UInt32} {tmux : TmuxSession}
    (h : manager.markRunning uuid pid tmux = .ok running) :
    running.activeSessions.length = manager.activeSessions.length := by
  unfold markRunning at h
  split at h
  · cases h
  · rename_i session hGet
    split at h
    · rename_i hClaimed
      injection h with h
      rw [← h, length_activeSessions_modify, activeSessions, ← List.countP_eq_length_filter]
      apply List.countP_congr
      intro other hOther
      split
      · rename_i hUuid
        have hSame := get_of_mem hOther
        rw [hUuid, hGet, Option.some.injEq] at hSame
        simp [← hSame, hClaimed]
      · rfl
    · cases h

/-- No session comes back by ending. -/
theorem length_activeSessions_complete {manager rest : SessionManager} {uuid : String}
    {exitCode : Option Int32} {now : Nat} {completed : CompletedSessionState}
    (h : manager.complete uuid exitCode now = .ok (rest, completed)) :
    rest.activeSessions.length ≤ manager.activeSessions.length := by
  unfold complete at h
  split at h
  · cases h
  · split at h
    · cases h
    · injection h with h
      injection h with h _
      rw [← h, length_activeSessions_modify, activeSessions, ← List.countP_eq_length_filter]
      apply List.countP_mono_left
      intro other _ hActive
      split at hActive
      · simp at hActive
      · exact hActive

/-- A new task is claimed, and nothing else changes. -/
theorem claim_of_new {manager : SessionManager} {task : SessionTask}
    (hNew : manager.containsSession task.uuid = false) (now : Nat) :
    ∃ claimed active, manager.claim task now = .ok (claimed, active) ∧
      claimed.workerId = manager.workerId ∧
      ∀ uuid, claimed.get uuid =
        if uuid = task.uuid then
          some ⟨task.uuid, task, .claimed, none, now, manager.workerId, none⟩
        else manager.get uuid := by
  rw [claim, dif_neg (by simp [hNew])]
  refine ⟨_, _, rfl, rfl, ?_⟩
  intro uuid
  rw [containsSession_eq_isSome, Option.isSome_eq_false_iff, Option.isNone_iff_eq_none] at hNew
  by_cases hUuid : uuid = task.uuid
  · subst hUuid
    rw [get] at hNew
    simp [get, List.find?_append, hNew]
  · simp [get, List.find?_append, Ne.symm hUuid, hUuid]

/-- The other sessions go on as they were. -/
theorem markRunning_of_claimed {manager : SessionManager} {uuid : String} {session : Session}
    (hGet : manager.get uuid = some session) (hClaimed : session.state = .claimed)
    (pid : Option UInt32) (tmux : TmuxSession) :
    ∃ running, manager.markRunning uuid pid tmux = .ok running ∧
      ∀ other, running.get other =
        if other = uuid then some { session with state := .running, pid, tmux := some tmux }
        else manager.get other := by
  simp only [markRunning, hGet, hClaimed, ↓reduceIte]
  refine ⟨_, rfl, ?_⟩
  intro other
  rw [get_modify, hGet]
  rfl

/-- The other sessions go on as they were. -/
theorem complete_of_active {manager : SessionManager} {uuid : String} {session : Session}
    (hGet : manager.get uuid = some session) (hActive : session.state ≠ .completed)
    (exitCode : Option Int32) (now : Nat) :
    ∃ rest, manager.complete uuid exitCode now =
        .ok (rest, ⟨exitCode, now - session.startedAt, now⟩) ∧
      ∀ other, rest.get other =
        if other = uuid then some { session with state := .completed } else manager.get other := by
  simp only [complete, hGet, hActive, ↓reduceIte]
  refine ⟨_, rfl, ?_⟩
  intro other
  rw [get_modify, hGet]
  rfl

end SessionManager

end Mxdx.Worker
