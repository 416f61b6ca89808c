import Mxdx.Foundations.Automaton
import Mxdx.Runtime.Sessions

/-! The count of sessions: what each session has added to it, what it says about
the sessions in progress, and the runs in which it is right. -/
namespace Mxdx.Runtime

open Automaton

/-- Somebody is left who will take the session off the count. -/
def Session.busy (session : Session) : Bool :=
  session.stage ≠ .ended && !(session.route = .reconnect && session.stage = .reporting)

/-- Its handler or watcher is at work, or its bridge is alive. -/
def Session.inProgress (session : Session) : Bool := session.busy || session.alive

/-- There may be a bridge at this point. -/
def Stage.hasBridge : Stage → Bool
  | .starting | .activating | .executing | .sendingResult | .updating | .reportingError
  | .awaitingRoom => false
  | _ => true

/-- A session that has no bridge yet is not alive. -/
def Session.Bare (session : Session) : Prop :=
  session.stage.hasBridge = false → session.alive = false

/-- A session in progress is counted once, any other not at all. -/
structure Session.Settled (session : Session) : Prop where
  held : session.slots = if session.inProgress then 1 else 0
  returned : session.busy = false → session.slots = 0

namespace LauncherRuntime

/-- Commands have no bridge, and a session that waits for its room has none yet. -/
def Bridgeless (runtime : LauncherRuntime) : Prop :=
  ∀ session ∈ runtime.sessions, session.Bare

/-- The count is that of the sessions in progress, within the limit, and every
session that took a slot gives it back before it is left alone. -/
structure Accounted (settings : Settings) (runtime : LauncherRuntime) : Prop where
  counted : runtime.activeSessions = runtime.sessions.countP Session.inProgress
  nonnegative : 0 ≤ runtime.activeSessions
  limited : runtime.activeSessions ≤ (runtime.host settings).maxSessions
  settled : ∀ session ∈ runtime.sessions, session.Settled

/-- A reconnect is made below the limit and its bridge can be spawned, the error
report of a session can be sent, and a session whose handler fails has no bridge
alive when it is taken off the count. -/
def KeepsCount (settings : Settings) (runtime : LauncherRuntime) : SessionInput → Prop
  | .reconnect sessionId sender spawned =>
      (runtime.reconnectable sessionId sender).isSome →
        spawned = true ∧ runtime.activeSessions < (runtime.host settings).maxSessions
  | .resolved index => ∀ session, runtime.sessions[index]? = some session →
      session.route ≠ .reconnect → session.stage = .reporting → session.alive = false
  | .rejected index => ∀ session, runtime.sessions[index]? = some session →
      if session.route = .reconnect then
        session.stage = .responding ∨ session.stage = .syncing ∨ session.stage = .creating →
          session.alive = false
      else session.stage ≠ .reporting
  | _ => True

section Counting

variable {settings : Settings} {runtime next : LauncherRuntime} {index : Nat}
  {old new : Session}

/-- Where one session changes, the account depends on that one alone, as long as
it takes no slot. -/
theorem accounted_set_iff (h : Accounted settings runtime)
    (hOld : runtime.sessions[index]? = some old)
    (hSessions : next.sessions = runtime.sessions.set index new)
    (hActive : next.activeSessions = runtime.activeSessions + (new.slots - old.slots))
    (hSlots : new.slots ≤ old.slots) :
    Accounted settings next ↔ new.Settled := by
  have hOldSettled := h.settled old (List.mem_of_getElem? hOld)
  constructor
  · intro hNext
    have hAll := hNext.settled
    rw [hSessions] at hAll
    exact (forall_set_iff h.settled hOld).mp hAll
  · intro hNew
    have hCount : next.activeSessions = next.sessions.countP Session.inProgress := by
      have hSum := countP_set_add Session.inProgress hOld new
      rw [hActive, hSessions, h.counted, hNew.held, hOldSettled.held]
      split_ifs at * <;> omega
    refine ⟨hCount, ?_, ?_, ?_⟩
    · rw [hCount]
      exact Int.natCast_nonneg _
    · have hLimited := h.limited
      have hSame : (next.host settings).maxSessions = (runtime.host settings).maxSessions := rfl
      rw [hSame, hActive]
      omega
    · rw [hSessions]
      exact (forall_set_iff h.settled hOld).mpr hNew

end Counting

section Steps

variable {settings : Settings} {runtime middle : LauncherRuntime} {index : Nat}
  {old new session : Session} {input : SessionInput}

theorem settled_of_busy (h : old.Settled) (hOld : old.busy = true) (hNew : new.busy = true)
    (hSlots : new.slots = old.slots) : new.Settled := by
  have hOne : old.slots = 1 := by simpa [Session.inProgress, hOld] using h.held
  constructor
  · simp [Session.inProgress, hNew, hSlots, hOne]
  · simp [hNew]

/-- A slot is given back in time if there is no bridge alive. -/
theorem settled_giveSlot_iff (h : old.Settled) (hOld : old.busy = true) (hNew : new.busy = false)
    (hSlots : new.slots = old.slots - 1) : new.Settled ↔ new.alive = false := by
  have hOne : old.slots = 1 := by simpa [Session.inProgress, hOld] using h.held
  have hZero : new.slots = 0 := by omega
  constructor
  · intro hNext
    have hHeld := hNext.held
    rw [hZero, Session.inProgress, hNew, Bool.false_or] at hHeld
    cases hAlive : new.alive with
    | false => rfl
    | true => simp [hAlive] at hHeld
  · intro hAlive
    exact ⟨by simp [Session.inProgress, hNew, hAlive, hZero], fun _ => hZero⟩

/-- `middle` differs from `runtime` in the transports and the registry only. -/
theorem accounted_put (h : Accounted settings runtime)
    (hOld : runtime.sessions[index]? = some old) (hBusy : old.busy = true)
    (hSessions : middle.sessions = runtime.sessions)
    (hActive : middle.activeSessions = runtime.activeSessions)
    (hSlots : new.slots = old.slots) (hNew : new.busy = true) :
    Accounted settings (middle.put index new) := by
  have hSet : (middle.put index new).sessions = runtime.sessions.set index new := by
    rw [put, hSessions]
  have hCount : (middle.put index new).activeSessions =
      runtime.activeSessions + (new.slots - old.slots) := by
    rw [put, hActive]
    omega
  apply (accounted_set_iff h hOld hSet hCount (by omega)).mpr
  exact settled_of_busy (h.settled old (List.mem_of_getElem? hOld)) hBusy hNew hSlots

theorem accounted_giveSlot_iff (h : Accounted settings runtime)
    (hOld : runtime.sessions[index]? = some old) (hBusy : old.busy = true)
    (hSessions : middle.sessions = runtime.sessions)
    (hActive : middle.activeSessions = runtime.activeSessions)
    (hSlots : new.slots = old.slots) (hNew : new.busy = false) :
    Accounted settings (middle.giveSlot index new) ↔ new.alive = false := by
  let given : Session := { new with slots := new.slots - 1 }
  have hSet : (middle.giveSlot index new).sessions = runtime.sessions.set index given := by
    rw [giveSlot, hSessions]
  have hGiven : given.slots = old.slots - 1 := by rw [← hSlots]
  have hCount : (middle.giveSlot index new).activeSessions =
      runtime.activeSessions + (given.slots - old.slots) := by
    show middle.activeSessions - 1 = _
    omega
  rw [accounted_set_iff h hOld hSet hCount (by omega)]
  exact settled_giveSlot_iff (h.settled old (List.mem_of_getElem? hOld)) hBusy hNew hGiven

/-- A session that is off the count may change as long as it stays so. -/
theorem accounted_idle (h : Accounted settings runtime)
    (hOld : runtime.sessions[index]? = some old) (hIdle : old.busy = false)
    (hSlots : new.slots = old.slots) (hAlive : new.alive = old.alive) (hNew : new.busy = false) :
    Accounted settings (runtime.put index new) := by
  have hSettled := h.settled old (List.mem_of_getElem? hOld)
  have hCount : (runtime.put index new).activeSessions =
      runtime.activeSessions + (new.slots - old.slots) := by
    show runtime.activeSessions = _
    omega
  apply (accounted_set_iff h hOld rfl hCount (by omega)).mpr
  constructor
  · rw [hSlots, hSettled.held, Session.inProgress, Session.inProgress, hIdle, hNew, hAlive]
  · rw [hSlots]
    exact fun _ => hSettled.returned hIdle

/-- A slot that nobody is left to give back spoils the account. -/
theorem not_accounted_put (h : Accounted settings runtime)
    (hOld : runtime.sessions[index]? = some old) (hBusy : old.busy = true)
    (hSlots : new.slots = old.slots) (hNew : new.busy = false) :
    ¬ Accounted settings (runtime.put index new) := by
  intro hNext
  have hHeld := (h.settled old (List.mem_of_getElem? hOld)).held
  have hAll := hNext.settled
  have hReturned := ((forall_set_iff h.settled hOld).mp hAll).returned hNew
  simp [Session.inProgress, hBusy, ← hSlots, hReturned] at hHeld

theorem busy_of_stage (hEnded : session.stage ≠ .ended) (hReporting : session.stage ≠ .reporting) :
    session.busy = true := by
  simp [Session.busy, hEnded, hReporting]

theorem accounted_move (h : Accounted settings runtime)
    (hOld : runtime.sessions[index]? = some session) (hBusy : session.busy = true) {stage : Stage}
    (hEnded : stage ≠ .ended) (hReporting : stage ≠ .reporting) :
    Accounted settings (runtime.put index { session with stage := stage }) :=
  accounted_put h hOld hBusy rfl rfl rfl (busy_of_stage hEnded hReporting)

theorem accounted_end_iff (h : Accounted settings runtime)
    (hOld : runtime.sessions[index]? = some session) (hBusy : session.busy = true) :
    Accounted settings (runtime.giveSlot index { session with stage := .ended }) ↔
      session.alive = false :=
  accounted_giveSlot_iff h hOld hBusy rfl rfl rfl (by rfl)

/-- A failed reconnect is taken off the count at once, a failed session after its report. -/
theorem accounted_fail_iff (h : Accounted settings runtime)
    (hOld : runtime.sessions[index]? = some old) (hBusy : old.busy = true)
    (hRoute : session.route = old.route) (hBridge : session.bridge = old.bridge)
    (hSlots : session.slots = old.slots) :
    Accounted settings (runtime.fail index session) ↔
      (old.route = .reconnect → old.alive = false) := by
  have hAlive : session.alive = old.alive := by rw [Session.alive, hBridge, Session.alive]
  by_cases hReconnect : old.route = .reconnect
  · let failed : Session := { session with stage := .reporting }
    have hFail : runtime.fail index session = runtime.giveSlot index failed := by
      unfold fail
      split
      next => rfl
      next hOther => exact absurd (hRoute.trans hReconnect) hOther
    have hDone : failed.busy = false := by simp [failed, Session.busy, hRoute, hReconnect]
    have hGive : Accounted settings (runtime.giveSlot index failed) ↔ failed.alive = false :=
      accounted_giveSlot_iff h hOld hBusy rfl rfl hSlots hDone
    rw [hFail, hGive, show failed.alive = old.alive from hAlive]
    exact ⟨fun hDead _ => hDead, fun hDead => hDead hReconnect⟩
  · apply iff_of_true _ fun hEq => absurd hEq hReconnect
    have hBusyNew : ({ session with stage := .reporting } : Session).busy = true := by
      simp [Session.busy, hRoute, hReconnect]
    unfold fail
    split
    next hEq => exact absurd (hRoute.symm.trans hEq) hReconnect
    next =>
      exact accounted_put h hOld hBusy (by simp) (by simp) hSlots hBusyNew

theorem accounted_resolved_iff (h : Accounted settings runtime)
    (hBridgeless : Bridgeless runtime) (hOld : runtime.sessions[index]? = some session) :
    Accounted settings (runtime.resolved settings index session) ↔
      (session.route ≠ .reconnect → session.stage = .reporting → session.alive = false) := by
  have hBare : session.stage.hasBridge = false → session.alive = false :=
    hBridgeless session (List.mem_of_getElem? hOld)
  have hBusy : session.stage ≠ .ended → session.stage ≠ .reporting → session.busy = true :=
    busy_of_stage
  unfold resolved
  cases hStage : session.stage <;> simp only [hStage] at hBare hBusy
  case starting | activating | executing | persisting | responding =>
    apply iff_of_true _ (by simp)
    exact accounted_move h hOld (hBusy (by simp) (by simp)) (by simp) (by simp)
  case awaitingRoom | watched | ended => exact iff_of_true h (by simp)
  case updating | reportingError =>
    apply iff_of_true _ (by simp)
    exact (accounted_end_iff h hOld (hBusy (by simp) (by simp))).mpr (hBare rfl)
  case sendingResult =>
    apply iff_of_true _ (by simp)
    dsimp only
    split
    · exact (accounted_end_iff h hOld (hBusy (by simp) (by simp))).mpr (hBare rfl)
    · exact accounted_move h hOld (hBusy (by simp) (by simp)) (by simp) (by simp)
  case syncing =>
    apply iff_of_true _ (by simp)
    cases session.room with
    | none => exact h
    | some room =>
        have hWatched : ∀ transport,
            ({ session with stage := .watched, transport } : Session).busy :=
          fun transport => busy_of_stage (by simp) (by simp)
        simp only [setupSessionTransport]
        split_ifs
        · cases runtime.roomTransports room with
          | none => exact accounted_move h hOld (hBusy (by simp) (by simp)) (by simp) (by simp)
          | some entry =>
              exact accounted_put h hOld (hBusy (by simp) (by simp)) rfl rfl rfl (hWatched _)
        · exact accounted_move h hOld (hBusy (by simp) (by simp)) (by simp) (by simp)
  case creating =>
    apply iff_of_true _ (by simp)
    cases session.room with
    | none => exact h
    | some room =>
        exact accounted_put h hOld (hBusy (by simp) (by simp)) rfl rfl rfl
          (busy_of_stage (by simp) (by simp))
  case reporting =>
    dsimp only
    split
    next hReconnect =>
      apply iff_of_true _ fun hOther => absurd hReconnect hOther
      have hIdle : session.busy = false := by simp [Session.busy, hReconnect, hStage]
      have hDone : ({ session with stage := .ended } : Session).busy = false := rfl
      exact accounted_idle h hOld hIdle rfl rfl hDone
    next hOther =>
      rw [accounted_end_iff h hOld (by simp [Session.busy, hStage, hOther])]
      simp [hOther]

theorem accounted_rejected_iff (h : Accounted settings runtime)
    (hBridgeless : Bridgeless runtime) (hOld : runtime.sessions[index]? = some session) :
    Accounted settings (runtime.rejected index session) ↔
      if session.route = .reconnect then
        session.stage = .responding ∨ session.stage = .syncing ∨ session.stage = .creating →
          session.alive = false
      else session.stage ≠ .reporting := by
  have hBare : session.stage.hasBridge = false → session.alive = false :=
    hBridgeless session (List.mem_of_getElem? hOld)
  have hBusy : session.stage ≠ .ended → session.stage ≠ .reporting → session.busy = true :=
    busy_of_stage
  unfold rejected
  cases hStage : session.stage <;> simp only [hStage] at hBare hBusy
  case starting | executing | sendingResult | activating | persisting =>
    apply iff_of_true _ (by simp)
    exact accounted_move h hOld (hBusy (by simp) (by simp)) (by simp) (by simp)
  case watched | ended => exact iff_of_true h (by simp)
  case updating | reportingError =>
    apply iff_of_true _ (by simp)
    exact (accounted_end_iff h hOld (hBusy (by simp) (by simp))).mpr (hBare rfl)
  case awaitingRoom =>
    apply iff_of_true _ (by simp)
    exact (accounted_fail_iff h hOld (hBusy (by simp) (by simp)) rfl rfl rfl).mpr fun _ => hBare rfl
  case responding | syncing | creating =>
    rw [accounted_fail_iff h hOld (hBusy (by simp) (by simp)) rfl rfl rfl]
    split <;> simp_all
  case reporting =>
    let done : Session := { session with stage := .ended }
    have hDone : done.busy = false := rfl
    show Accounted settings (runtime.put index done) ↔ _
    by_cases hReconnect : session.route = .reconnect
    · have hIdle : session.busy = false := by simp [Session.busy, hReconnect, hStage]
      have hSame : Accounted settings (runtime.put index done) :=
        accounted_idle h hOld hIdle rfl rfl hDone
      exact iff_of_true hSame (by simp [hReconnect])
    · have hWorking : session.busy = true := by simp [Session.busy, hStage, hReconnect]
      have hLeaks : ¬ Accounted settings (runtime.put index done) :=
        not_accounted_put h hOld hWorking rfl hDone
      exact iff_of_false hLeaks (by simp [hReconnect])

/-- A new session is counted if there is room for it. -/
theorem accounted_takeSlot_iff (h : Accounted settings runtime) (hNew : new.busy = true)
    (hSlots : new.slots = 0) :
    Accounted settings (runtime.takeSlot new) ↔
      runtime.activeSessions < (runtime.host settings).maxSessions := by
  let taken : Session := { new with slots := new.slots + 1 }
  have hTaken : taken.inProgress = true := by
    rw [Session.inProgress, show taken.busy = true from hNew, Bool.true_or]
  have hSettled : taken.Settled := by
    constructor
    · rw [hTaken]
      show new.slots + 1 = 1
      omega
    · exact fun hIdle => absurd hNew (Bool.eq_false_iff.mp hIdle)
  constructor
  · intro hNext
    have hLimited : runtime.activeSessions + 1 ≤ (runtime.host settings).maxSessions :=
      hNext.limited
    omega
  · intro hRoom
    have hNonnegative := h.nonnegative
    refine ⟨?_, ?_, ?_, ?_⟩
    · show runtime.activeSessions + 1 = ((runtime.sessions ++ [taken]).countP _ : Nat)
      rw [List.countP_append, List.countP_singleton, if_pos hTaken, h.counted]
      rfl
    · show 0 ≤ runtime.activeSessions + 1
      omega
    · show runtime.activeSessions + 1 ≤ (runtime.host settings).maxSessions
      omega
    · intro session hSession
      rcases List.mem_append.mp hSession with hOld | hLast
      · exact h.settled session hOld
      · exact List.eq_of_mem_singleton hLast ▸ hSettled

theorem busy_firstStage (route : Route) (sender : Option String) (room : Option String)
    (bridge : Option Bridge) (transport : Option Nat) (slots : Int) :
    (⟨route, route.firstStage, sender, room, bridge, transport, slots⟩ : Session).busy = true := by
  cases route <;> rfl

theorem accounted_handleEvent (h : Accounted settings runtime) (event : ExecEvent) :
    Accounted settings (runtime.handleEvent settings event) := by
  unfold handleEvent
  split
  next launch hLaunch =>
    apply (accounted_takeSlot_iff h (busy_firstStage ..) rfl).mpr
    exact lt_maxSessions_of_isFull (processCommand_ok hLaunch).2
  next => exact h

/-- A reconnect whose bridge cannot be spawned is taken off without having been counted. -/
theorem accounted_handleReconnect_iff (h : Accounted settings runtime) (sessionId : String)
    (sender : Option String) (spawned : Bool) :
    Accounted settings (runtime.handleReconnect sessionId sender spawned) ↔
      ((runtime.reconnectable sessionId sender).isSome →
        spawned = true ∧ runtime.activeSessions < (runtime.host settings).maxSessions) := by
  unfold handleReconnect
  cases hEntry : runtime.reconnectable sessionId sender with
  | none => exact iff_of_true h (by simp)
  | some entry =>
      cases spawned with
      | true =>
          simp only [if_true, Option.isSome_some, true_implies, true_and]
          exact accounted_takeSlot_iff h (busy_firstStage ..) rfl
      | false =>
          apply iff_of_false _ (by simp)
          intro hNext
          have hLast := (hNext.settled _ (List.mem_append_right _ (List.mem_singleton_self _))).held
          simp [Session.inProgress, Session.busy, Session.alive] at hLast

theorem accounted_gotRoom (h : Accounted settings runtime) (hBridgeless : Bridgeless runtime)
    (hOld : runtime.sessions[index]? = some session) (hStage : session.stage = .awaitingRoom)
    (room : String) (bridge : Option (String × Bool)) :
    Accounted settings (runtime.gotRoom index session room bridge) := by
  have hBusy : session.busy = true := busy_of_stage (by simp [hStage]) (by simp [hStage])
  cases bridge with
  | some bridge =>
      exact accounted_put h hOld hBusy rfl rfl (by rfl) (busy_of_stage (by simp) (by simp))
  | none =>
      let placed : Session := { session with room := some room }
      have hFail : Accounted settings (runtime.fail index placed) := by
        apply (accounted_fail_iff h hOld hBusy (by rfl) (by rfl) (by rfl)).mpr
        exact fun _ => hBridgeless session (List.mem_of_getElem? hOld) (by rw [hStage]; rfl)
      exact hFail

/-- A bridge dies. Nobody waits for one whose session is off the count. -/
theorem accounted_exited (h : Accounted settings runtime)
    (hOld : runtime.sessions[index]? = some session) :
    Accounted settings (runtime.put index session.exit) := by
  cases hBusy : session.busy with
  | true => exact accounted_put h hOld hBusy rfl rfl rfl hBusy
  | false =>
      have hSettled := h.settled session (List.mem_of_getElem? hOld)
      have hAlive : session.alive = false := by
        have hHeld := hSettled.held
        rw [hSettled.returned hBusy, Session.inProgress, hBusy, Bool.false_or] at hHeld
        cases hAlive : session.alive with
        | false => rfl
        | true => simp [hAlive] at hHeld
      exact accounted_idle h hOld hBusy rfl (session.alive_exit.trans hAlive.symm) hBusy

theorem accounted_finishWatch (h : Accounted settings runtime)
    (hOld : runtime.sessions[index]? = some session) (hStage : session.stage = .watched)
    (hDead : session.alive = false) : Accounted settings (runtime.finishWatch index session) := by
  have hBusy : session.busy = true := busy_of_stage (by simp [hStage]) (by simp [hStage])
  obtain ⟨sessionRegistry, hRegistry⟩ := exists_leaveRegistry (runtime.leaveRoom session) session
  rw [finishWatch, hRegistry]
  apply (accounted_giveSlot_iff h hOld hBusy (by simp) (by simp) (by rfl) (by rfl)).mpr
  exact hDead

theorem bridgeless_set (h : Bridgeless runtime) (hSessions : middle.sessions = runtime.sessions)
    (hNew : new.Bare) : Bridgeless (middle.put index new) := by
  intro other hOther
  rw [put, hSessions] at hOther
  rcases List.mem_or_eq_of_mem_set hOther with hOld | rfl
  · exact h other hOld
  · exact hNew

theorem bridgeless_giveSlot (h : Bridgeless runtime)
    (hSessions : middle.sessions = runtime.sessions)
    (hNew : new.Bare) : Bridgeless (middle.giveSlot index new) := by
  let given : Session := { new with slots := new.slots - 1 }
  have hPut : Bridgeless (middle.put index given) := bridgeless_set h hSessions hNew
  exact hPut

theorem bare_of_hasBridge (h : session.stage.hasBridge = true) : session.Bare :=
  fun hNone => absurd h (by simp [hNone])

theorem bridgeless_fail (h : Bridgeless runtime) (index : Nat) (session : Session) :
    Bridgeless (runtime.fail index session) := by
  unfold fail
  split
  · exact bridgeless_giveSlot h rfl (bare_of_hasBridge rfl)
  · exact bridgeless_set h (by simp) (bare_of_hasBridge rfl)

theorem bridgeless_resolved (h : Bridgeless runtime) (index : Nat) (hBare : session.Bare) :
    Bridgeless (runtime.resolved settings index session) := by
  have hKeeps : ∀ stage, session.stage.hasBridge = false →
      ({ session with stage } : Session).Bare := fun stage hNone _ => hBare hNone
  unfold resolved
  cases hStage : session.stage <;> simp only [hStage] at hKeeps
  case starting | activating | executing => exact bridgeless_set h rfl (hKeeps _ rfl)
  case awaitingRoom | watched | ended => exact h
  case updating | reportingError => exact bridgeless_giveSlot h rfl (hKeeps _ rfl)
  case persisting | responding => exact bridgeless_set h rfl (bare_of_hasBridge rfl)
  case sendingResult =>
    dsimp only
    split
    · exact bridgeless_giveSlot h rfl (hKeeps _ rfl)
    · exact bridgeless_set h rfl (hKeeps _ rfl)
  case syncing =>
    cases session.room with
    | none => exact h
    | some room =>
        simp only [setupSessionTransport]
        split_ifs
        · cases runtime.roomTransports room with
          | none => exact bridgeless_set h rfl (bare_of_hasBridge rfl)
          | some entry => exact bridgeless_set h rfl (bare_of_hasBridge rfl)
        · exact bridgeless_set h rfl (bare_of_hasBridge rfl)
  case creating =>
    cases session.room with
    | none => exact h
    | some room => exact bridgeless_set h rfl (bare_of_hasBridge rfl)
  case reporting =>
    dsimp only
    split
    · exact bridgeless_set h rfl (bare_of_hasBridge rfl)
    · exact bridgeless_giveSlot h rfl (bare_of_hasBridge rfl)

theorem bridgeless_rejected (h : Bridgeless runtime) (index : Nat) (hBare : session.Bare) :
    Bridgeless (runtime.rejected index session) := by
  have hKeeps : ∀ stage, session.stage.hasBridge = false →
      ({ session with stage } : Session).Bare := fun stage hNone _ => hBare hNone
  unfold rejected
  cases hStage : session.stage <;> simp only [hStage] at hKeeps
  case starting | activating | executing | sendingResult =>
    exact bridgeless_set h rfl (hKeeps _ rfl)
  case updating | reportingError => exact bridgeless_giveSlot h rfl (hKeeps _ rfl)
  case persisting => exact bridgeless_set h rfl (bare_of_hasBridge rfl)
  case awaitingRoom | responding | syncing | creating => exact bridgeless_fail h index session
  case reporting => exact bridgeless_set h rfl (bare_of_hasBridge rfl)
  case watched | ended => exact h

theorem bridgeless_append (h : Bridgeless runtime) (hNew : new.Bare)
    (hSessions : middle.sessions = runtime.sessions ++ [new]) : Bridgeless middle := by
  intro session hSession
  rw [hSessions] at hSession
  rcases List.mem_append.mp hSession with hOld | hLast
  · exact h session hOld
  · exact List.eq_of_mem_singleton hLast ▸ hNew

theorem bridgeless_step (runtime : LauncherRuntime) (input : SessionInput)
    (h : Bridgeless runtime) : Bridgeless (runtime.step settings input) := by
  have hBare : ∀ (index : Nat) (session : Session), runtime.sessions[index]? = some session →
      session.Bare :=
    fun index session hOld => h session (List.mem_of_getElem? hOld)
  cases input with
  | event event =>
      simp only [step, handleEvent]
      split
      · exact bridgeless_append h (fun _ => rfl) rfl
      · exact h
  | reconnect sessionId sender spawned =>
      simp only [step, handleReconnect]
      cases runtime.reconnectable sessionId sender with
      | none => exact h
      | some entry =>
          cases spawned with
          | true => exact bridgeless_append h (bare_of_hasBridge rfl) rfl
          | false => exact bridgeless_append h (bare_of_hasBridge rfl) rfl
  | gotRoom index room bridge =>
      simp only [step]
      cases runtime.sessions[index]? with
      | none => exact h
      | some session =>
          dsimp only
          split
          · cases bridge with
            | none => exact bridgeless_fail h index _
            | some bridge => exact bridgeless_set h rfl (bare_of_hasBridge rfl)
          · exact h
  | resolved index =>
      simp only [step]
      cases hOld : runtime.sessions[index]? with
      | none => exact h
      | some session => exact bridgeless_resolved h index (hBare index session hOld)
  | rejected index =>
      simp only [step]
      cases hOld : runtime.sessions[index]? with
      | none => exact h
      | some session => exact bridgeless_rejected h index (hBare index session hOld)
  | exited index =>
      simp only [step]
      cases runtime.sessions[index]? with
      | none => exact h
      | some session => exact bridgeless_set h rfl fun _ => session.alive_exit
  | watched index =>
      simp only [step]
      cases runtime.sessions[index]? with
      | none => exact h
      | some session =>
          obtain ⟨sessionRegistry, hRegistry⟩ :=
            exists_leaveRegistry (runtime.leaveRoom session) session
          dsimp only
          rw [finishWatch, hRegistry]
          split
          · exact bridgeless_giveSlot h (by simp) (bare_of_hasBridge rfl)
          · exact h

theorem accounted_step_iff (runtime : LauncherRuntime) (input : SessionInput)
    (hBridgeless : Bridgeless runtime) (h : Accounted settings runtime) :
    Accounted settings (runtime.step settings input) ↔ KeepsCount settings runtime input := by
  cases input with
  | event event => exact iff_of_true (accounted_handleEvent h event) trivial
  | reconnect sessionId sender spawned =>
      exact accounted_handleReconnect_iff h sessionId sender spawned
  | gotRoom index room bridge =>
      apply iff_of_true _ trivial
      simp only [step]
      cases hOld : runtime.sessions[index]? with
      | none => exact h
      | some session =>
          dsimp only
          split
          next hStage => exact accounted_gotRoom h hBridgeless hOld hStage room bridge
          next => exact h
  | resolved index =>
      simp only [step, KeepsCount]
      cases hOld : runtime.sessions[index]? with
      | none => exact iff_of_true h (by simp)
      | some session =>
          rw [accounted_resolved_iff h hBridgeless hOld]
          simp
  | rejected index =>
      simp only [step, KeepsCount]
      cases hOld : runtime.sessions[index]? with
      | none => exact iff_of_true h (by simp)
      | some session =>
          rw [accounted_rejected_iff h hBridgeless hOld]
          simp
  | exited index =>
      apply iff_of_true _ trivial
      simp only [step]
      cases hOld : runtime.sessions[index]? with
      | none => exact h
      | some session => exact accounted_exited h hOld
  | watched index =>
      apply iff_of_true _ trivial
      simp only [step]
      cases hOld : runtime.sessions[index]? with
      | none => exact h
      | some session =>
          dsimp only
          split
          next hDone => exact accounted_finishWatch h hOld hDone.1 hDone.2
          next => exact h

end Steps

/-- The count of sessions is right throughout exactly in the runs whose steps keep it. -/
theorem always_accounted_iff (settings : Settings)
    (sessionRegistry : String → Option RegistryEntry) (inputs : List SessionInput) :
    Always (step settings) (Accounted settings) (new sessionRegistry) inputs ↔
      Admissible (step settings) (KeepsCount settings) (new sessionRegistry) inputs := by
  apply always_iff_admissible_under bridgeless_step accounted_step_iff
  · intro session hSession
    cases hSession
  · exact ⟨rfl, Int.le_refl 0, Int.natCast_nonneg _, by simp [new]⟩

/-- A session that persists, and a reconnect to it whose bridge cannot be spawned. -/
theorem not_always_accounted :
    ¬ Always (step ⟨⟨["bash"], ["/tmp"], 5⟩, none, "@launcher", true⟩)
      (Accounted ⟨⟨["bash"], ["/tmp"], 5⟩, none, "@launcher", true⟩)
      (new fun _ => some ⟨"!room", some "@user", true⟩)
      [.reconnect "0123abcd" (some "@user") false] := by
  intro h
  have hNonnegative := h.last.nonnegative
  revert hNonnegative
  decide

end LauncherRuntime

end Mxdx.Runtime
