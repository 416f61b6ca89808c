import Mxdx.Runtime.Gate
import Mathlib.Logic.Function.Basic

/-! The sessions of `LauncherRuntime`: commands, terminals and reconnects to
terminals. Handlers are cut at their `await`, any number of them may be waiting,
and whether an `await` is resolved or rejected is an input. -/
namespace Mxdx.Runtime

/-- The two ways to ask for a session. -/
inductive Route where
  | legacy
  | task
  | interactive
  | reconnect
deriving DecidableEq

/-- Where a handler stands: the `await` it is at, its terminal left to the
watcher, or its end. -/
inductive Stage where
  | starting
  | activating
  | executing
  | sendingResult
  | updating
  | reportingError
  | awaitingRoom
  | persisting
  | responding
  | syncing
  | creating
  | watched
  | reporting
  | ended
deriving DecidableEq

/-- A `PtyBridge` that was spawned. -/
structure Bridge where
  sessionId : String
  persistent : Bool
  alive : Bool
deriving DecidableEq

/-- A call of a handler from the point where it enters its `try`. `slots` is what
it has added to the count of sessions, less what it has taken off. -/
structure Session where
  route : Route
  stage : Stage
  sender : Option String
  room : Option String
  bridge : Option Bridge
  transport : Option Nat
  slots : Int
deriving DecidableEq

/-- What the launcher knows of a session's room. -/
structure RegistryEntry where
  dmRoomId : String
  sender : Option String
  persistent : Bool

/-- A transport and the number of its users. -/
structure RoomTransport where
  transport : Nat
  refCount : Int

/-- What the launcher keeps of its sessions. -/
structure LauncherRuntime where
  activeSessions : Int
  sessions : List Session
  sessionRegistry : String → Option RegistryEntry
  roomTransports : String → Option RoomTransport
  created : Nat
  closed : List Nat

/-- What stays the same over a run. -/
structure Settings where
  config : LauncherConfig
  shell : Option String
  userId : String
  p2pEnabled : Bool

/-- What can happen to the sessions. -/
inductive SessionInput where
  | event (event : ExecEvent)
  /-- The bridge of a reconnect is spawned before the first `await`. -/
  | reconnect (sessionId : String) (sender : Option String) (spawned : Bool)
  /-- The room is known, and a bridge is spawned if that does not throw. -/
  | gotRoom (index : Nat) (room : String) (bridge : Option (String × Bool))
  | resolved (index : Nat)
  | rejected (index : Nat)
  | exited (index : Nat)
  | watched (index : Nat)

/-- Whether the process of the session runs. -/
def Session.alive (session : Session) : Bool := session.bridge.any Bridge.alive

/-- The bridge, if there is one, dies. -/
def Session.exit (session : Session) : Session :=
  { session with bridge := session.bridge.map fun bridge => { bridge with alive := false } }

@[simp] theorem Session.alive_exit (session : Session) : session.exit.alive = false := by
  unfold Session.alive Session.exit
  cases session.bridge <;> rfl

/-- How the session was asked for. -/
def ExecEvent.route : ExecEvent → Route
  | .task _ request => if request.interactive then .interactive else .task
  | .command _ content => if content.action = some "interactive" then .interactive else .legacy

/-- Who asked for it. -/
def ExecEvent.sender : ExecEvent → Option String
  | .task sender _ => sender
  | .command sender _ => sender

/-- The first `await` of a handler. -/
def Route.firstStage : Route → Stage
  | .legacy => .executing
  | .task => .starting
  | .interactive => .awaitingRoom
  | .reconnect => .responding

namespace LauncherRuntime

/-- The registry may know of sessions from before. -/
def new (sessionRegistry : String → Option RegistryEntry) : LauncherRuntime where
  activeSessions := 0
  sessions := []
  sessionRegistry
  roomTransports := fun _ => none
  created := 0
  closed := []

variable (settings : Settings) (runtime : LauncherRuntime)

/-- What the gate sees of the launcher. -/
def host : Host :=
  ⟨settings.config, settings.shell, settings.userId, runtime.activeSessions⟩

def put (index : Nat) (session : Session) : LauncherRuntime :=
  { runtime with sessions := runtime.sessions.set index session }

/-- A new session, counted. -/
def takeSlot (session : Session) : LauncherRuntime :=
  { runtime with
    activeSessions := runtime.activeSessions + 1
    sessions := runtime.sessions ++ [{ session with slots := session.slots + 1 }] }

/-- The session gives back a slot. -/
def giveSlot (index : Nat) (session : Session) : LauncherRuntime :=
  { runtime with
    activeSessions := runtime.activeSessions - 1
    sessions := runtime.sessions.set index { session with slots := session.slots - 1 } }

/-- The last user closes the transport. -/
def releaseRoomTransport (roomId : String) : LauncherRuntime :=
  match runtime.roomTransports roomId with
  | none => runtime
  | some entry =>
      if entry.refCount - 1 ≤ 0 then
        { runtime with
          roomTransports := Function.update runtime.roomTransports roomId none
          closed := runtime.closed ++ [entry.transport] }
      else
        { runtime with
          roomTransports := Function.update runtime.roomTransports roomId
            (some { entry with refCount := entry.refCount - 1 }) }

/-- The room is released if it is known by then. -/
def leaveRoom (session : Session) : LauncherRuntime :=
  match session.room with
  | some room => runtime.releaseRoomTransport room
  | none => runtime

/-- A session that does not persist is forgotten. -/
def leaveRegistry (session : Session) : LauncherRuntime :=
  match session.bridge with
  | some bridge =>
      if bridge.persistent then runtime
      else
        { runtime with
          sessionRegistry := Function.update runtime.sessionRegistry bridge.sessionId none }
  | none => runtime

/-- A transport of the room is shared; the keys of a new one are awaited. Without
P2P there is none to share. -/
def setupSessionTransport (index : Nat) (session : Session) (room : String) : LauncherRuntime :=
  if settings.p2pEnabled then
    match runtime.roomTransports room with
    | some entry =>
        { runtime with
          roomTransports := Function.update runtime.roomTransports room
            (some { entry with refCount := entry.refCount + 1 }) }.put index
          { session with stage := .watched, transport := some entry.transport }
    | none => runtime.put index { session with stage := .creating }
  else runtime.put index { session with stage := .watched }

/-- The new transport becomes that of the room, whatever was there. -/
def createTransport (index : Nat) (session : Session) (room : String) : LauncherRuntime :=
  { runtime with
    roomTransports := Function.update runtime.roomTransports room (some ⟨runtime.created, 1⟩)
    created := runtime.created + 1 }.put index
    { session with stage := .watched, transport := some runtime.created }

/-- The `catch` of a terminal's handler, up to its report. -/
def fail (index : Nat) (session : Session) : LauncherRuntime :=
  match session.route with
  | .reconnect => runtime.giveSlot index { session with stage := .reporting }
  | _ => (runtime.leaveRoom session).put index { session with stage := .reporting }

/-- An event that passes the gate begins a session. -/
def handleEvent (event : ExecEvent) : LauncherRuntime :=
  match (runtime.host settings).processCommand event with
  | some (.ok _) =>
      runtime.takeSlot
        ⟨event.route, event.route.firstStage, event.sender, none, none, none, 0⟩
  | _ => runtime

/-- The registry entry a reconnect may use. -/
def reconnectable (sessionId : String) (sender : Option String) : Option RegistryEntry :=
  (runtime.sessionRegistry sessionId).filter fun entry => entry.persistent && entry.sender == sender

/-- A reconnect is counted once its bridge is there, and taken off where it fails. -/
def handleReconnect (sessionId : String) (sender : Option String) (spawned : Bool) :
    LauncherRuntime :=
  match runtime.reconnectable sessionId sender with
  | none => runtime
  | some entry =>
      let session : Session :=
        ⟨.reconnect, Route.reconnect.firstStage, sender, some entry.dmRoomId, none, none, 0⟩
      if spawned then
        runtime.takeSlot { session with bridge := some ⟨sessionId, true, true⟩ }
      else
        { runtime with
          activeSessions := runtime.activeSessions - 1
          sessions := runtime.sessions ++ [{ session with stage := .reporting, slots := -1 }] }

/-- The room of the session is there, and its bridge, if that could be spawned. -/
def gotRoom (index : Nat) (session : Session) (room : String) :
    Option (String × Bool) → LauncherRuntime
  | some (sessionId, persistent) =>
      { runtime with
        sessionRegistry := Function.update runtime.sessionRegistry sessionId
          (some ⟨room, session.sender, persistent⟩) }.put index
        { session with
          stage := .persisting, room := some room, bridge := some ⟨sessionId, persistent, true⟩ }
  | none => runtime.fail index { session with room := some room }

/-- The await that the session is at is over. -/
def resolved (index : Nat) (session : Session) : LauncherRuntime :=
  match session.stage with
  | .starting => runtime.put index { session with stage := .activating }
  | .activating => runtime.put index { session with stage := .executing }
  | .executing => runtime.put index { session with stage := .sendingResult }
  | .sendingResult =>
      if session.route = .legacy then runtime.giveSlot index { session with stage := .ended }
      else runtime.put index { session with stage := .updating }
  | .updating | .reportingError => runtime.giveSlot index { session with stage := .ended }
  | .persisting => runtime.put index { session with stage := .responding }
  | .responding => runtime.put index { session with stage := .syncing }
  | .syncing =>
      match session.room with
      | some room => runtime.setupSessionTransport settings index session room
      | none => runtime
  | .creating =>
      match session.room with
      | some room => runtime.createTransport index session room
      | none => runtime
  | .reporting =>
      if session.route = .reconnect then runtime.put index { session with stage := .ended }
      else runtime.giveSlot index { session with stage := .ended }
  | .awaitingRoom | .watched | .ended => runtime

/-- Writes of state are attempted only, and a `finally` runs in any case. -/
def rejected (index : Nat) (session : Session) : LauncherRuntime :=
  match session.stage with
  | .starting | .executing | .sendingResult =>
      runtime.put index { session with stage := .reportingError }
  | .activating => runtime.put index { session with stage := .executing }
  | .updating | .reportingError => runtime.giveSlot index { session with stage := .ended }
  | .persisting => runtime.put index { session with stage := .responding }
  | .awaitingRoom | .responding | .syncing | .creating => runtime.fail index session
  | .reporting => runtime.put index { session with stage := .ended }
  | .watched | .ended => runtime

/-- The watcher's last turn, once the bridge is not alive. -/
def finishWatch (index : Nat) (session : Session) : LauncherRuntime :=
  ((runtime.leaveRoom session).leaveRegistry session).giveSlot index
    { session with stage := .ended }

/-- Events, and sessions that go on, in any order. -/
def step (runtime : LauncherRuntime) (input : SessionInput) : LauncherRuntime :=
  match input with
  | .event event => runtime.handleEvent settings event
  | .reconnect sessionId sender spawned => runtime.handleReconnect sessionId sender spawned
  | .gotRoom index room bridge =>
      match runtime.sessions[index]? with
      | some session =>
          if session.stage = .awaitingRoom then runtime.gotRoom index session room bridge
          else runtime
      | none => runtime
  | .resolved index =>
      match runtime.sessions[index]? with
      | some session => runtime.resolved settings index session
      | none => runtime
  | .rejected index =>
      match runtime.sessions[index]? with
      | some session => runtime.rejected index session
      | none => runtime
  | .exited index =>
      match runtime.sessions[index]? with
      | some session => runtime.put index session.exit
      | none => runtime
  | .watched index =>
      match runtime.sessions[index]? with
      | some session =>
          if session.stage = .watched ∧ session.alive = false then runtime.finishWatch index session
          else runtime
      | none => runtime

section Frames

@[simp] theorem releaseRoomTransport_sessions (runtime : LauncherRuntime) (roomId : String) :
    (runtime.releaseRoomTransport roomId).sessions = runtime.sessions := by
  unfold releaseRoomTransport
  split
  · rfl
  · split <;> rfl

@[simp] theorem releaseRoomTransport_activeSessions (runtime : LauncherRuntime) (roomId : String) :
    (runtime.releaseRoomTransport roomId).activeSessions = runtime.activeSessions := by
  unfold releaseRoomTransport
  split
  · rfl
  · split <;> rfl

@[simp] theorem leaveRoom_sessions (runtime : LauncherRuntime) (session : Session) :
    (runtime.leaveRoom session).sessions = runtime.sessions := by
  unfold leaveRoom
  split <;> simp

@[simp] theorem leaveRoom_activeSessions (runtime : LauncherRuntime) (session : Session) :
    (runtime.leaveRoom session).activeSessions = runtime.activeSessions := by
  unfold leaveRoom
  split <;> simp

/-- Nothing but the registry changes. -/
theorem exists_leaveRegistry (runtime : LauncherRuntime) (session : Session) :
    ∃ sessionRegistry, runtime.leaveRegistry session = { runtime with sessionRegistry } := by
  unfold leaveRegistry
  split
  · split
    · exact ⟨_, rfl⟩
    · exact ⟨_, rfl⟩
  · exact ⟨_, rfl⟩

variable {α : Type*} {list : List α} {index : Nat} {old : α}

/-- One entry of a list is replaced. -/
theorem countP_set_add (p : α → Bool) (h : list[index]? = some old) (new : α) :
    (list.set index new).countP p + (if p old then 1 else 0) =
      list.countP p + (if p new then 1 else 0) := by
  obtain ⟨hIndex, rfl⟩ := List.getElem?_eq_some_iff.mp h
  rw [List.countP_set hIndex]
  have hOld := List.boole_getElem_le_countP hIndex (p := p)
  omega

theorem forall_set_iff {p : α → Prop} (hAll : ∀ entry ∈ list, p entry)
    (h : list[index]? = some old) {new : α} :
    (∀ entry ∈ list.set index new, p entry) ↔ p new := by
  have hIndex : index < list.length := (List.getElem?_eq_some_iff.mp h).1
  constructor
  · intro hSet
    exact hSet new (List.mem_set hIndex new)
  · intro hNew entry hEntry
    rcases List.mem_or_eq_of_mem_set hEntry with hMem | rfl
    · exact hAll entry hMem
    · exact hNew

end Frames

end LauncherRuntime

end Mxdx.Runtime
