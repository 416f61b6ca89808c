import Mxdx.P2P.Transport.IdleWatch

/-! Calls that are torn down as idle. A tick that is on its way when a payload is sent is not
called back, and an open call that meets a tick is torn down without a look at when it was
last used; where nothing comes between a payload and its reset, only an idle call is. -/
namespace Mxdx.P2P

open Automaton
open DriverTask (isOpen_eq_false_of_isEnded)

namespace IdleSystem

/-- No call was torn down as idle within the window after a payload went over it. -/
def TornIdle (window : Duration) (system : IdleSystem) : Prop :=
  ∀ lastIo now, (some lastIo, now) ∈ system.torn → lastIo + window ≤ now

/-- A payload of the open call has been handled, and the reset for it is still to come. -/
def resetDue (system : IdleSystem) : Bool :=
  match system.turn with
  | .applying event commands _ => event.isMessage && commands.contains .resetIdle
  | .resetting => true
  | .waiting | .tick | .taken _ => false

/-- The turn is about a payload of the open call, and has not come to its reset. -/
def onPayload (system : IdleSystem) : Bool :=
  match system.turn with
  | .taken (.outbound _) => system.driver.state.isOpen
  | .taken (.internal event) => event.isMessage && system.driver.state.isOpen
  | _ => system.resetDue

/-- The driver is about to send what was left to send when the call opened. -/
def drainsLeftovers (system : IdleSystem) : Bool :=
  match system.turn with
  | .applying _ (.drainOutbound :: _) _ => !system.driver.pendingOutbound.isEmpty
  | _ => false

/-- The watchdog does not fire while a payload is handled, no payload is taken in while a tick
waits, and what is left to send when a call opens is sent before the new watchdog has run. -/
def Undisturbed (system : IdleSystem) : Input → Prop
  | .fire => system.fires = true → system.onPayload = false
  | .take (.internal event) =>
      event.isMessage = true → system.driver.state.isOpen = true → system.ticks = 0
  | .proceed _ =>
      system.drainsLeftovers = true →
        system.watchdog.any (fun task => task.deadline.isNone) = true
  | _ => True

instance (system : IdleSystem) : (input : Input) → Decidable (system.Undisturbed input)
  | .fire => inferInstanceAs (Decidable (_ → _))
  | .take (.internal _) => inferInstanceAs (Decidable (_ → _ → _))
  | .proceed _ => inferInstanceAs (Decidable (_ → _))
  | .take (.control _) | .take (.call _) | .take (.outbound _) => .isTrue trivial
  | .pass _ | .poll | .takeTick | .install .. => .isTrue trivial

end IdleSystem

/-- The commands that are left of an event, by the state that the event has led to. -/
inductive Script : P2PState → Event → List Command → Bool → Prop where
  | closed {state : P2PState} {event : Event} {commands : List Command} {wasOpen : Bool}
      (hOpen : state.isOpen = false) (hEnded : wasOpen = true → state.isEnded = true)
      (hCalm : ∀ command ∈ commands, command.isCalm = true) : Script state event commands wasOpen
  | inert {state : P2PState} {event : Event} {commands : List Command} {wasOpen : Bool}
      (hOpen : state.isOpen = true) (hInert : ∀ command ∈ commands, command.isInert = true) :
      Script state event commands wasOpen
  | refreshing {state : P2PState} {event : Event} (hOpen : state.isOpen = true)
      (hMessage : event.isMessage = false) (servers : List IceServer) :
      Script state event [.configureIceServers servers] true
  | traffic {state : P2PState} {event : Event} (hOpen : state.isOpen = true) :
      Script state event [.resetIdle] true
  | opening {state : P2PState} {rest : List Command} (hOpen : state.isOpen = true)
      (hInert : ∀ command ∈ rest, command.isInert = true) :
      Script state .verifyOk (.resetIdle :: .drainOutbound :: rest) false
  | draining {state : P2PState} {rest : List Command} (hOpen : state.isOpen = true)
      (hInert : ∀ command ∈ rest, command.isInert = true) :
      Script state .verifyOk (.drainOutbound :: rest) false

section Transitions

variable {clock : Nat → Instant} {state next : P2PState} {event : Event}
  {commands : List Command}

theorem isCalm_of_isInert {command : Command} (h : command.isInert = true) :
    command.isCalm = true := by
  cases command <;> first | rfl | cases h

theorem advance_of_ok (h : transition clock state event = .ok next commands) :
    Advance state event next := by
  have hAdvance := next_advance state ⟨clock, event⟩
  rwa [P2PState.next, h] at hAdvance

/-- A call that is left is over. -/
theorem isEnded_of_leaving (h : transition clock state event = .ok next commands)
    (hWas : state.isOpen = true) (hOpen : next.isOpen = false) : next.isEnded = true := by
  cases advance_of_ok h with
  | stay => rw [hWas] at hOpen; cases hOpen
  | start hEnded => rw [isOpen_eq_false_of_isEnded hEnded] at hWas; cases hWas
  | invited hNoCall =>
      cases state with
      | opened => cases hNoCall
      | _ => cases hWas
  | ended hEnded => exact hEnded
  | sent | received => cases hOpen
  | turnReady | glared | answered | answererOpen | offererOpen | verified => cases hWas

/-- Only a start or a call event makes a new call. -/
theorem isInternal_of_leaving_ended (h : transition clock state event = .ok next commands)
    (hWas : state.isEnded = true) (hEnded : next.isEnded = false) : event.isInternal = false := by
  cases advance_of_ok h with
  | stay => rw [hWas] at hEnded; cases hEnded
  | start | invited => rfl
  | ended hNext => rw [hNext] at hEnded; cases hEnded
  | turnReady | glared | answered | answererOpen | offererOpen | verified | sent | received =>
      cases hWas

/-- A call opens with its verification, and its commands are known. -/
theorem opening_of_ok (h : transition clock state event = .ok next commands)
    (hWas : state.isOpen = false) (hOpen : next.isOpen = true) :
    event = .verifyOk ∧ state.isEnded = false ∧
      ∃ rest, commands = .resetIdle :: .drainOutbound :: rest ∧
        ∀ command ∈ rest, command.isInert = true := by
  cases advance_of_ok h with
  | stay => rw [hWas] at hOpen; cases hOpen
  | verified now =>
      refine ⟨rfl, rfl, ?_⟩
      simp only [transition, Transition.fromVerifying, TransitionResult.ok.injEq] at h
      exact ⟨_, h.2.symm, by simp [Transition.moved, Command.isInert]⟩
  | ended hEnded => rw [isOpen_eq_false_of_isEnded hEnded] at hOpen; cases hOpen
  | sent | received => cases hWas
  | start | turnReady | invited | glared | answered | answererOpen | offererOpen => cases hOpen

/-- A tick is legal in every state, and leaves an open call. -/
theorem legal_idleTick (clock : Nat → Instant) (state : P2PState) (note : String) :
    transition clock state .idleTick ≠ .illegal note := by
  cases state <;> nofun

theorem isOpen_of_idleTick (h : transition clock state .idleTick = .ok next commands) :
    next.isOpen = false := by
  cases advance_of_ok h with
  | stay => cases state <;> first | rfl | cases h
  | ended hEnded => exact isOpen_eq_false_of_isEnded hEnded

/-- A payload that comes in on an open call asks for a reset and nothing more. -/
theorem commands_of_isMessage (h : transition clock state event = .ok next commands)
    (hMessage : event.isMessage = true) (hOpen : state.isOpen = true) :
    commands = [.resetIdle] := by
  cases event with
  | channelEvent backend =>
      cases backend with
      | message =>
          cases state with
          | opened => cases h; rfl
          | _ => cases hOpen
      | _ => cases hMessage
  | _ => cases hMessage

/-- The commands of every arm of the table, as far as the watchdog is concerned. -/
theorem script_of_ok (h : transition clock state event = .ok next commands) :
    Script next event commands state.isOpen := by
  have hLeaving := isEnded_of_leaving h
  have hRow := transition_row clock state event
  rw [h] at hRow
  cases hRow with
  | quiet hInert _ =>
      rw [List.all_eq_true] at hInert
      cases hOpen : next.isOpen with
      | false =>
          exact .closed hOpen (hLeaving · hOpen) fun command hMem =>
            isCalm_of_isInert (hInert command hMem)
      | true => exact .inert hOpen hInert
  | sweep before reason after hBefore hAfter hEnded =>
      rw [List.all_eq_true] at hBefore hAfter
      refine .closed (isOpen_eq_false_of_isEnded hEnded) (fun _ => hEnded) fun command hMem => ?_
      rcases List.mem_append.mp hMem with hMem | hMem
      · exact isCalm_of_isInert (hBefore command hMem)
      · rcases List.mem_cons.mp hMem with rfl | hMem
        · rfl
        · exact isCalm_of_isInert (hAfter command hMem)
  | traffic now => exact .traffic rfl
  | verified now hInert => exact .opening rfl (List.all_eq_true.mp hInert)
  | refreshed servers => exact .refreshing rfl rfl servers
  | turnReady servers hOpen _ hInert =>
      rw [List.all_eq_true] at hInert
      refine .closed hOpen nofun fun command hMem => ?_
      rcases List.mem_cons.mp hMem with rfl | hMem
      · rfl
      · exact isCalm_of_isInert (hInert command hMem)

end Transitions

/-- The commands of an opening call have not yet come to its watchdog. -/
def Turn.isOpening : Turn → Bool
  | .applying _ (.resetIdle :: .drainOutbound :: _) _ => true
  | _ => false

/-- The event was one of an open call. -/
def Turn.isLeaving : Turn → Bool
  | .applying _ _ wasOpen => wasOpen
  | _ => false

/-- The driver is not in the middle of handling something. -/
def Turn.isBetween : Turn → Bool
  | .waiting | .tick | .taken _ => true
  | .applying .. | .resetting => false

/-- No reset is to come in the turn, nor anything that begins with one. -/
def Turn.isTail : Turn → Bool
  | .waiting => true
  | .applying _ commands _ => !commands.contains .resetIdle
  | .tick | .taken _ | .resetting => false

namespace Script

variable {state : P2PState} {event : Event} {commands : List Command} {wasOpen : Bool}

/-- A payload that asks for a reset has come in on an open call. -/
theorem traffic_of_reset (h : Script state event commands wasOpen)
    (hMessage : event.isMessage = true) (hReset : .resetIdle ∈ commands) :
    wasOpen = true ∧ state.isOpen = true := by
  cases h with
  | closed _ _ hCalm => cases hCalm _ hReset
  | inert _ hInert => cases hInert _ hReset
  | refreshing => simp at hReset
  | traffic hOpen => exact ⟨rfl, hOpen⟩
  | opening | draining => cases hMessage

/-- A call opens only once. -/
theorem wasOpen_of_isOpening (h : Script state event commands wasOpen)
    (hOpening : (Turn.applying event commands wasOpen).isOpening = true) : wasOpen = false := by
  cases h with
  | closed _ _ hCalm =>
      unfold Turn.isOpening at hOpening
      split at hOpening
      next hTurn =>
        cases hTurn
        cases hCalm .resetIdle List.mem_cons_self
      · cases hOpening
  | inert _ hInert =>
      unfold Turn.isOpening at hOpening
      split at hOpening
      next hTurn =>
        cases hTurn
        cases hInert .resetIdle List.mem_cons_self
      · cases hOpening
  | refreshing | traffic => cases hOpening
  | opening | draining => rfl

end Script

namespace IdleSystem

/-- A tick is queued, or taken up and not yet dispatched. -/
def InFlight (system : IdleSystem) : Prop := 0 < system.ticks ∨ system.turn = .tick

/-- The open call has its watchdog: it has fired after a window without payloads, or it runs
and will not fire before one. -/
structure Watched (window : Duration) (system : IdleSystem) : Prop where
  handle : system.driver.idleWatchdog.isSome = true
  dead : system.watchdog = none →
    system.InFlight ∧ ∀ io, system.lastIo = some io → io + window ≤ system.now
  alive : ∀ task, system.watchdog = some task → task.window = window ∧
    (0 < task.resets ∨ system.resetDue = true ∨
      ∀ deadline io, task.deadline = some deadline → system.lastIo = some io →
        io + window ≤ deadline)

/-- What holds between any two steps of a run in which nothing comes between a payload and
its reset. -/
structure Sound (window : Duration) (system : IdleSystem) : Prop where
  config : system.driver.config.idleWindow = window
  torn : system.TornIdle window
  past : ∀ io, system.lastIo = some io → io ≤ system.now
  handle : system.watchdog.isSome = true → system.driver.idleWatchdog.isSome = true
  script : ∀ event commands wasOpen, system.turn = .applying event commands wasOpen →
    Script system.driver.state event commands wasOpen
  ticking : system.InFlight → system.driver.state.isEnded = true ∨
    system.driver.state.isOpen = true ∧ system.driver.idleWatchdog.isSome = true ∧
      system.watchdog = none
  fresh : ∀ arm, system.turn = .taken arm → (∀ event, arm ≠ .internal event) →
    system.driver.state.isEnded = true → system.ticks = 0
  internal : ∀ event, system.turn = .taken (.internal event) →
    event.isInternal = true ∧ event ≠ .idleTick
  payload : system.onPayload = true → system.ticks = 0 ∧ system.driver.state.isOpen = true
  closed : system.driver.state.isOpen = false → system.turn.isLeaving = false →
    system.driver.idleWatchdog = none
  opening : system.turn.isOpening = true →
    system.driver.idleWatchdog = none ∧ system.lastIo = none
  watched : system.driver.state.isOpen = true → system.turn.isOpening = false →
    system.Watched window

theorem sound_spawn (config : P2PTransportConfig) (now : Instant) :
    (spawn config now).Sound config.idleWindow where
  config := rfl
  torn := by simp [TornIdle, spawn]
  past := nofun
  handle := nofun
  script := nofun
  ticking _ := .inl rfl
  fresh := nofun
  internal := nofun
  payload := nofun
  closed _ _ := rfl
  opening := nofun
  watched := nofun

/-- The call, its watchdog and the time are the same as before. -/
structure SameCall (system after : IdleSystem) : Prop where
  config : after.driver.config = system.driver.config
  state : after.driver.state = system.driver.state
  idleWatchdog : after.driver.idleWatchdog = system.driver.idleWatchdog
  watchdog : after.watchdog = system.watchdog
  lastIo : after.lastIo = system.lastIo
  torn : after.torn = system.torn
  now : after.now = system.now

section Turns

variable {system : IdleSystem}

theorem turn_of_isWaiting (h : system.isWaiting = true) : system.turn = .waiting := by
  unfold isWaiting at h
  split at h
  · assumption
  · cases h

theorem isBetween_of_isWaiting (h : system.isWaiting = true) : system.turn.isBetween = true := by
  rw [turn_of_isWaiting h]
  rfl

theorem isOpening_of_isBetween {turn : Turn} (h : turn.isBetween = true) :
    turn.isOpening = false := by
  cases turn <;> first | rfl | cases h

theorem isLeaving_of_isBetween {turn : Turn} (h : turn.isBetween = true) :
    turn.isLeaving = false := by
  cases turn <;> first | rfl | cases h

theorem resetDue_of_isBetween (h : system.turn.isBetween = true) : system.resetDue = false := by
  unfold resetDue
  cases hTurn : system.turn <;> first | rfl | (rw [hTurn] at h; cases h)

theorem ne_tick_of_applying {event : Event} {commands : List Command} {wasOpen : Bool}
    (h : system.turn = .applying event commands wasOpen) : system.turn ≠ .tick := by
  rw [h]
  nofun

theorem isTail_of_not_mem {event : Event} {commands : List Command} {wasOpen : Bool}
    (h : .resetIdle ∉ commands) : (Turn.applying event commands wasOpen).isTail = true := by
  simpa [Turn.isTail] using h

theorem not_mem_of_isCalm {commands : List Command}
    (h : ∀ command ∈ commands, command.isCalm = true) : .resetIdle ∉ commands :=
  fun hMem => nomatch h _ hMem

theorem not_mem_of_isInert {commands : List Command}
    (h : ∀ command ∈ commands, command.isInert = true) : .resetIdle ∉ commands :=
  fun hMem => nomatch h _ hMem

theorem ne_tick_of_isTail {turn : Turn} (h : turn.isTail = true) : turn ≠ .tick := by
  rintro rfl
  cases h

theorem isOpening_of_isTail {turn : Turn} (h : turn.isTail = true) : turn.isOpening = false := by
  cases turn with
  | applying event commands wasOpen =>
      unfold Turn.isOpening
      split
      next hTurn =>
        cases hTurn
        simp [Turn.isTail] at h
      · rfl
  | waiting => rfl
  | tick | taken | resetting => cases h

theorem resetDue_of_isTail (h : system.turn.isTail = true) : system.resetDue = false := by
  unfold resetDue
  cases hTurn : system.turn with
  | applying event commands wasOpen =>
      rw [hTurn] at h
      have hNone : commands.contains .resetIdle = false := by simpa [Turn.isTail] using h
      dsimp only
      rw [hNone, Bool.and_false]
  | waiting | tick | taken => rfl
  | resetting => rw [hTurn] at h; cases h

theorem onPayload_of_isTail (h : system.turn.isTail = true) : system.onPayload = false := by
  unfold onPayload
  split
  next hTurn => rw [hTurn] at h; cases h
  next hTurn => rw [hTurn] at h; cases h
  · exact resetDue_of_isTail h

theorem onPayload_of_resetDue (h : system.resetDue = true) : system.onPayload = true := by
  unfold onPayload
  split
  next hTurn => simp [resetDue, hTurn] at h
  next hTurn => simp [resetDue, hTurn] at h
  · exact h

end Turns

namespace Sound

variable {window : Duration} {system : IdleSystem}

/-- An event of an open call that has led out of it has ended it. -/
theorem isEnded_of_isLeaving (h : system.Sound window) (hLeaving : system.turn.isLeaving = true)
    (hOpen : system.driver.state.isOpen = false) : system.driver.state.isEnded = true := by
  cases hTurn : system.turn with
  | applying event commands wasOpen =>
      rw [hTurn] at hLeaving
      cases h.script event commands wasOpen hTurn with
      | closed _ hEnded _ => exact hEnded hLeaving
      | inert hWas | refreshing hWas | traffic hWas | opening hWas | draining hWas =>
          rw [hWas] at hOpen
          cases hOpen
  | waiting | tick | taken | resetting => rw [hTurn] at hLeaving; cases hLeaving

theorem pass (h : system.Sound window) (span : Duration) :
    (system.step (.pass span)).Sound window where
  config := h.config
  torn := h.torn
  past io hIo := Nat.le_trans (h.past io hIo) (Nat.le_add_right ..)
  handle := h.handle
  script := h.script
  ticking := h.ticking
  fresh := h.fresh
  internal := h.internal
  payload := h.payload
  closed := h.closed
  opening := h.opening
  watched hOpen hOpening :=
    have hWatched := h.watched hOpen hOpening
    { handle := hWatched.handle
      dead := fun hNone => ⟨(hWatched.dead hNone).1, fun io hIo =>
        Nat.le_trans ((hWatched.dead hNone).2 io hIo) (Nat.le_add_right ..)⟩
      alive := hWatched.alive }

/-- A sleep that begins ends no sooner than a window after the last payload. -/
theorem poll (h : system.Sound window) : (system.step .poll).Sound window where
  config := h.config
  torn := h.torn
  past := h.past
  handle hSome := h.handle (by simpa [step] using hSome)
  script := h.script
  ticking hFlight := (h.ticking hFlight).imp_right fun hOpen =>
    ⟨hOpen.1, hOpen.2.1, by simp [step, hOpen.2.2]⟩
  fresh := h.fresh
  internal := h.internal
  payload := h.payload
  closed := h.closed
  opening := h.opening
  watched hOpen hOpening := by
    have hWatched := h.watched hOpen hOpening
    refine ⟨hWatched.handle, fun hNone => hWatched.dead (by simpa [step] using hNone), ?_⟩
    intro task hTask
    obtain ⟨before, hBefore, rfl⟩ := Option.map_eq_some_iff.mp hTask
    obtain ⟨hWindow, hAlive⟩ := hWatched.alive before hBefore
    have hAnew : ∀ io, system.lastIo = some io → io + window ≤ system.now + before.window := by
      intro io hIo
      rw [hWindow]
      exact Nat.add_le_add_right (h.past io hIo) window
    unfold WatchdogTask.poll
    split
    next =>
      refine ⟨hWindow, .inr (.inr ?_)⟩
      rintro deadline io ⟨⟩ hIo
      exact hAnew io hIo
    next hResets =>
      refine ⟨hWindow, .inr ?_⟩
      rcases hAlive with hPending | hDue | hSleeps
      · exact absurd hPending hResets
      · exact .inl hDue
      · right
        rintro deadline io ⟨⟩ hIo
        cases hDeadline : before.deadline with
        | none => exact hAnew io hIo
        | some deadline => exact hSleeps deadline io hDeadline hIo

/-- A watchdog that fires off the turn of a payload has not seen one for a window. -/
theorem fired (h : system.Sound window) (hFires : system.fires = true)
    (hOff : system.onPayload = false) :
    ({ system with watchdog := none, ticks := system.ticks + 1 } : IdleSystem).Sound window := by
  obtain ⟨hDue, -⟩ := Bool.and_eq_true_iff.mp hFires
  obtain ⟨task, hTask, hDue⟩ := Option.any_eq_true _ _ |>.mp hDue
  obtain ⟨hResets, hDeadline⟩ := Bool.and_eq_true_iff.mp hDue
  obtain ⟨deadline, hDeadline, hPassed⟩ := Option.any_eq_true _ _ |>.mp hDeadline
  have hHandle := h.handle (by rw [hTask]; rfl)
  have hOver : system.driver.state.isOpen = false → system.driver.state.isEnded = true := by
    intro hOpen
    cases hLeaving : system.turn.isLeaving with
    | true => exact h.isEnded_of_isLeaving hLeaving hOpen
    | false => rw [h.closed hOpen hLeaving] at hHandle; cases hHandle
  constructor
  · exact h.config
  · exact h.torn
  · exact h.past
  · nofun
  · exact h.script
  · intro _
    cases hOpen : system.driver.state.isOpen with
    | true => exact .inr ⟨rfl, hHandle, rfl⟩
    | false => exact .inl (hOver hOpen)
  · intro arm hTurn _ hEnded
    have hLeaving : system.turn.isLeaving = false := by rw [hTurn]; rfl
    rw [h.closed (isOpen_eq_false_of_isEnded hEnded) hLeaving] at hHandle
    cases hHandle
  · exact h.internal
  · intro hPayload
    rw [show system.onPayload = true from hPayload] at hOff
    cases hOff
  · exact h.closed
  · exact h.opening
  · intro hOpen hOpening
    have hWatched := h.watched hOpen hOpening
    refine ⟨hHandle, fun _ => ⟨.inl (Nat.succ_pos _), fun io hIo => ?_⟩, nofun⟩
    rcases (hWatched.alive task hTask).2 with hPending | hDueNow | hSleeps
    · rw [of_decide_eq_true hResets] at hPending
      cases hPending
    · rw [onPayload_of_resetDue hDueNow] at hOff
      cases hOff
    · exact Nat.le_trans (hSleeps deadline io hDeadline hIo) (of_decide_eq_true hPassed)

theorem fire (h : system.Sound window) (hQuiet : system.Undisturbed .fire) :
    (system.step .fire).Sound window := by
  simp only [step]
  split
  next hFires => exact h.fired hFires (hQuiet hFires)
  · exact h

/-- Between two turns nothing happens to the call. -/
theorem between (h : system.Sound window) {after : IdleSystem}
    (hBetween : system.turn.isBetween = true) (hSame : SameCall system after)
    (hAfter : after.turn.isBetween = true) (hFlight : after.InFlight ↔ system.InFlight)
    (hFresh : ∀ arm, after.turn = .taken arm → (∀ event, arm ≠ .internal event) →
      after.driver.state.isEnded = true → after.ticks = 0)
    (hInternal : ∀ event, after.turn = .taken (.internal event) →
      event.isInternal = true ∧ event ≠ .idleTick)
    (hPayload : after.onPayload = true → after.ticks = 0 ∧ after.driver.state.isOpen = true) :
    after.Sound window := by
  obtain ⟨hConfig, hState, hHandle, hTask, hIo, hTorn, hNow⟩ := hSame
  have hOpening : system.turn.isOpening = false := isOpening_of_isBetween hBetween
  have hNotLeaving : system.turn.isLeaving = false := isLeaving_of_isBetween hBetween
  constructor
  · rw [hConfig, h.config]
  · rw [TornIdle, hTorn]
    exact h.torn
  · rw [hIo, hNow]
    exact h.past
  · rw [hTask, hHandle]
    exact h.handle
  · intro event commands wasOpen hTurn
    rw [hTurn] at hAfter
    cases hAfter
  · rw [hFlight, hState, hHandle, hTask]
    exact h.ticking
  · exact hFresh
  · exact hInternal
  · exact hPayload
  · intro hOpen _
    rw [hState] at hOpen
    rw [hHandle, h.closed hOpen hNotLeaving]
  · intro hAfterOpening
    rw [isOpening_of_isBetween hAfter] at hAfterOpening
    cases hAfterOpening
  · intro hOpen _
    rw [hState] at hOpen
    have hWatched := h.watched hOpen hOpening
    refine ⟨by rw [hHandle, hWatched.handle], fun hNone => ?_, fun task hSome => ?_⟩
    · rw [hFlight, hIo, hNow]
      exact hWatched.dead (hTask ▸ hNone)
    · obtain ⟨hWindow, hAlive⟩ := hWatched.alive task (hTask ▸ hSome)
      rw [resetDue_of_isBetween hBetween] at hAlive
      rw [hIo]
      exact ⟨hWindow, hAlive.imp_right fun hRest => .inr (hRest.resolve_left nofun)⟩

theorem tookTick (h : system.Sound window) (hWaiting : system.isWaiting = true)
    (hTicks : 0 < system.ticks) :
    ({ system with ticks := system.ticks - 1, turn := .tick } : IdleSystem).Sound window :=
  h.between (isBetween_of_isWaiting hWaiting) ⟨rfl, rfl, rfl, rfl, rfl, rfl, rfl⟩ rfl
    (iff_of_true (.inr rfl) (.inl hTicks)) nofun nofun nofun

theorem takeTick (h : system.Sound window) : (system.step .takeTick).Sound window := by
  simp only [step]
  split
  next hTaken =>
    obtain ⟨hWaiting, hTicks⟩ := Bool.and_eq_true_iff.mp hTaken
    exact h.tookTick hWaiting (of_decide_eq_true hTicks)
  · exact h

/-- A payload is taken up while no tick waits. -/
theorem take (h : system.Sound window) {arm : Arm} (hQuiet : system.Undisturbed (.take arm)) :
    (system.step (.take arm)).Sound window := by
  simp only [step]
  split
  next hTaken =>
    obtain ⟨hWaiting, hCan⟩ := Bool.and_eq_true_iff.mp hTaken
    have hTurn := turn_of_isWaiting hWaiting
    refine h.between (isBetween_of_isWaiting hWaiting) ⟨rfl, rfl, rfl, rfl, rfl, rfl, rfl⟩ rfl
      ?_ ?_ ?_ ?_
    · simp [InFlight, hTurn]
    · rintro _ ⟨⟩ hExternal _
      cases arm with
      | internal event => exact absurd rfl (hExternal event)
      | control | call | outbound => exact of_decide_eq_true hCan
    · rintro event ⟨⟩
      obtain ⟨hInternal, hTick⟩ := Bool.and_eq_true_iff.mp hCan
      exact ⟨hInternal, bne_iff_ne.mp hTick⟩
    · intro hPayload
      cases arm with
      | control | call => cases hPayload
      | outbound request => exact ⟨of_decide_eq_true hCan, hPayload⟩
      | internal event =>
          obtain ⟨hMessage, hOpen⟩ := Bool.and_eq_true_iff.mp hPayload
          exact ⟨hQuiet hMessage hOpen, hOpen⟩
  · exact h

theorem install (h : system.Sound window) (channel : Option Channel) (crypto : Option P2PCrypto) :
    (system.step (.install channel crypto)).Sound window := by
  simp only [step]
  split
  next hWaiting =>
    have hTurn := turn_of_isWaiting hWaiting
    have hBetween := isBetween_of_isWaiting hWaiting
    refine h.between hBetween ?_ hBetween Iff.rfl ?_ ?_ ?_
    · unfold DriverTask.install
      split <;> exact ⟨rfl, rfl, rfl, rfl, rfl, rfl, rfl⟩
    · intro arm hTaken
      simp [hTurn] at hTaken
    · intro event hTaken
      simp [hTurn] at hTaken
    · intro hPayload
      simp [onPayload, resetDue, hTurn] at hPayload
  · exact h

/-- An event whose arm does nothing, and a task that has nothing to do. -/
theorem toWaiting (h : system.Sound window) {driver : DriverTask}
    (hBetween : system.turn.isBetween = true) (hTick : system.turn ≠ .tick)
    (hConfig : driver.config = system.driver.config) (hState : driver.state = system.driver.state)
    (hHandle : driver.idleWatchdog = system.driver.idleWatchdog) :
    ({ system with driver, turn := .waiting } : IdleSystem).Sound window := by
  refine h.between hBetween ⟨hConfig, hState, hHandle, rfl, rfl, rfl, rfl⟩ rfl ?_ nofun nofun nofun
  simp [InFlight, hTick]

/-- A tick that is taken up on an open call comes a window after its last payload. -/
theorem idle_of_tick (h : system.Sound window) (hTurn : system.turn = .tick)
    (hOpen : system.driver.state.isOpen = true) {io : Instant} (hIo : system.lastIo = some io) :
    io + window ≤ system.now := by
  have hNone : system.watchdog = none := by
    rcases h.ticking (.inr hTurn) with hEnded | ⟨-, -, hNone⟩
    · rw [isOpen_eq_false_of_isEnded hEnded] at hOpen
      cases hOpen
    · exact hNone
  have hWatched := h.watched hOpen (by rw [hTurn]; rfl)
  exact (hWatched.dead hNone).2 io hIo

section Arms

variable {event : Event} {next : P2PState} {commands : List Command}
  (hArm : transition (fun _ => system.now) system.driver.state event = .ok next commands)
include hArm

/-- An event that is taken up while a tick waits makes no new call. -/
theorem ticking_of_ok (h : system.Sound window) (hTicks : 0 < system.ticks)
    (hEntry : event.isInternal = false → system.driver.state.isEnded = true → system.ticks = 0) :
    next.isEnded = true ∨ next.isOpen = true ∧ system.driver.idleWatchdog.isSome = true ∧
      system.watchdog = none := by
  rcases h.ticking (.inl hTicks) with hEnded | ⟨hOpen, hHandle, hNone⟩
  · left
    cases hNext : next.isEnded with
    | true => rfl
    | false =>
        have hExternal := isInternal_of_leaving_ended hArm hEnded hNext
        exact absurd (hEntry hExternal hEnded) (Nat.ne_of_gt hTicks)
  · cases hNext : next.isOpen with
    | true => exact .inr ⟨rfl, hHandle, hNone⟩
    | false => exact .inl (isEnded_of_leaving hArm hOpen hNext)

/-- The watchdog is still right about an open call after an event of it; a payload that has
come in leaves a reset to come. -/
theorem watched_of_ok (h : system.Sound window) (hBetween : system.turn.isBetween = true)
    (hTick : system.turn = .tick → event = .idleTick)
    (hMessage : event.isMessage = true → system.driver.state.isOpen = true → system.ticks = 0)
    (hWas : system.driver.state.isOpen = true) (hNext : next.isOpen = true) {after : IdleSystem}
    (hHandle : after.driver.idleWatchdog = system.driver.idleWatchdog)
    (hTask : after.watchdog = system.watchdog) (hTicks : after.ticks = system.ticks)
    (hNow : after.now = system.now) (hTurn : after.turn = .applying event commands true)
    (hIo : after.lastIo = if event.isMessage then some system.now else system.lastIo) :
    after.Watched window := by
  have hWatched := h.watched hWas (isOpening_of_isBetween hBetween)
  refine ⟨by rw [hHandle, hWatched.handle], fun hNone => ?_, fun task hSome => ?_⟩
  · obtain ⟨hFlight, hIdle⟩ := hWatched.dead (hTask ▸ hNone)
    have hWaits : 0 < system.ticks := by
      rcases hFlight with hWaits | hTaken
      · exact hWaits
      · rw [hTick hTaken] at hArm
        rw [isOpen_of_idleTick hArm] at hNext
        cases hNext
    have hQuiet : event.isMessage = false := by
      cases hReceived : event.isMessage with
      | true => exact absurd (hMessage hReceived hWas) (Nat.ne_of_gt hWaits)
      | false => rfl
    rw [hQuiet, if_neg nofun] at hIo
    rw [hIo, hNow]
    exact ⟨.inl (hTicks ▸ hWaits), hIdle⟩
  · obtain ⟨hWindow, hAlive⟩ := hWatched.alive task (hTask ▸ hSome)
    rw [resetDue_of_isBetween hBetween] at hAlive
    refine ⟨hWindow, hAlive.imp_right fun hRest => ?_⟩
    have hSleeps := hRest.resolve_left nofun
    cases hReceived : event.isMessage with
    | true =>
        left
        have hReset : commands = [.resetIdle] := commands_of_isMessage hArm hReceived hWas
        rw [hReset] at hTurn
        simp [resetDue, hTurn, hReceived]
    | false =>
        right
        rw [hReceived, if_neg nofun] at hIo
        rw [hIo]
        exact hSleeps

end Arms

/-- The first half of a dispatch. -/
theorem dispatch (h : system.Sound window) {event : Event}
    (hBetween : system.turn.isBetween = true)
    (hTick : event = .idleTick ↔ system.turn = .tick)
    (hEntry : event.isInternal = false → system.driver.state.isEnded = true → system.ticks = 0)
    (hMessage : event.isMessage = true → system.driver.state.isOpen = true → system.ticks = 0) :
    (system.dispatch event).Sound window := by
  have hNotLeaving : system.turn.isLeaving = false := isLeaving_of_isBetween hBetween
  unfold IdleSystem.dispatch
  dsimp only
  cases hArm : transition (fun _ => system.now) system.driver.state event with
  | illegal note =>
      refine h.toWaiting hBetween (fun hTurn => ?_) rfl rfl rfl
      rw [hTick.mpr hTurn] at hArm
      exact legal_idleTick _ _ note hArm
  | ok next commands =>
      have hScript := script_of_ok hArm
      constructor
      · exact h.config
      · intro io now hMem
        dsimp only at hMem
        split at hMem
        next hTorn =>
          obtain ⟨hWas, hEvent⟩ := Bool.and_eq_true_iff.mp hTorn
          rcases List.mem_append.mp hMem with hMem | hMem
          · exact h.torn io now hMem
          · obtain ⟨hIo, rfl⟩ := Prod.mk.inj (List.mem_singleton.mp hMem)
            exact h.idle_of_tick (hTick.mp (of_decide_eq_true hEvent)) hWas hIo.symm
        · exact h.torn io now hMem
      · intro io hIo
        dsimp only at hIo
        split at hIo
        · cases hIo
        · split at hIo
          · obtain rfl := Option.some.inj hIo
            exact Nat.le_refl _
          · exact h.past io hIo
      · exact h.handle
      · rintro _ _ _ ⟨⟩
        exact hScript
      · intro hFlight
        have hTicks : 0 < system.ticks := hFlight.resolve_right nofun
        have hTicking := ticking_of_ok hArm h hTicks hEntry
        exact hTicking
      · nofun
      · nofun
      · intro hPayload
        obtain ⟨hReceived, hReset⟩ := Bool.and_eq_true_iff.mp hPayload
        obtain ⟨hWas, hNext⟩ := hScript.traffic_of_reset hReceived (List.contains_iff_mem.mp hReset)
        exact ⟨hMessage hReceived hWas, hNext⟩
      · intro _ hLeaving
        exact h.closed hLeaving hNotLeaving
      · intro hOpens
        have hWas := hScript.wasOpen_of_isOpening hOpens
        refine ⟨h.closed hWas hNotLeaving, ?_⟩
        dsimp only
        rw [hWas]
        rfl
      · intro hNext hOpens
        cases hWas : system.driver.state.isOpen with
        | true =>
            refine watched_of_ok hArm h hBetween hTick.mpr hMessage hWas hNext ?_ ?_ ?_ ?_ ?_ ?_
            all_goals rfl
        | false =>
            obtain ⟨-, -, rest, rfl, -⟩ := opening_of_ok hArm hWas hNext
            cases hOpens

/-- No reset is to come: the rest of the invariant is about the call alone. -/
theorem of_isTail {after : IdleSystem} (hTail : after.turn.isTail = true)
    (hConfig : after.driver.config.idleWindow = window) (hTorn : after.TornIdle window)
    (hPast : ∀ io, after.lastIo = some io → io ≤ after.now)
    (hHandle : after.watchdog.isSome = true → after.driver.idleWatchdog.isSome = true)
    (hScript : ∀ event commands wasOpen, after.turn = .applying event commands wasOpen →
      Script after.driver.state event commands wasOpen)
    (hTicking : 0 < after.ticks → after.driver.state.isEnded = true ∨
      after.driver.state.isOpen = true ∧ after.driver.idleWatchdog.isSome = true ∧
        after.watchdog = none)
    (hClosed : after.driver.state.isOpen = false → after.turn.isLeaving = false →
      after.driver.idleWatchdog = none)
    (hWatched : after.driver.state.isOpen = true → after.Watched window) :
    after.Sound window := by
  refine ⟨hConfig, hTorn, hPast, hHandle, hScript, ?_, ?_, ?_, ?_, hClosed, ?_,
    fun hOpen _ => hWatched hOpen⟩
  · intro hFlight
    exact hTicking (hFlight.resolve_right (ne_tick_of_isTail hTail))
  · intro arm hTurn
    rw [hTurn] at hTail
    cases hTail
  · intro event hTurn
    rw [hTurn] at hTail
    cases hTail
  · intro hPayload
    rw [onPayload_of_isTail hTail] at hPayload
    cases hPayload
  · intro hOpening
    rw [isOpening_of_isTail hTail] at hOpening
    cases hOpening

/-- The driver goes on in its turn, and nothing happens to the call. -/
theorem unmoved (h : system.Sound window) {after : DriverTask} {turn : Turn}
    (hMoved : system.Unmoved after) (hFrom : system.turn.isTail = true)
    (hTo : turn.isTail = true)
    (hScript : ∀ event commands wasOpen, turn = .applying event commands wasOpen →
      Script system.driver.state event commands wasOpen)
    (hLeaving : system.driver.state.isOpen = false → turn.isLeaving = false →
      system.turn.isLeaving = false) :
    ({ system.follow after with turn } : IdleSystem).Sound window := by
  obtain ⟨hConfig, hState, hHandle, hTask, hIo⟩ := hMoved
  refine of_isTail hTo ?_ h.torn ?_ ?_ ?_ ?_ ?_ ?_
  · rw [follow_driver, hConfig, h.config]
  · rw [hIo]
    exact h.past
  · rw [hTask, follow_driver, hHandle]
    exact h.handle
  · rw [follow_driver, hState]
    exact hScript
  · intro hTicks
    rw [follow_driver, hState, hHandle, hTask]
    exact h.ticking (.inl hTicks)
  · intro hOpen hNotLeaving
    rw [follow_driver, hState] at hOpen
    rw [follow_driver, hHandle, h.closed hOpen (hLeaving hOpen hNotLeaving)]
  · intro hOpen
    rw [follow_driver, hState] at hOpen
    have hWatched := h.watched hOpen (isOpening_of_isTail hFrom)
    refine ⟨by rw [follow_driver, hHandle, hWatched.handle], fun hNone => ?_, fun task hSome => ?_⟩
    · obtain ⟨hFlight, hIdle⟩ := hWatched.dead (hTask ▸ hNone)
      refine ⟨.inl (hFlight.resolve_right (ne_tick_of_isTail hFrom)), ?_⟩
      rw [hIo]
      exact hIdle
    · obtain ⟨hWindow, hAlive⟩ := hWatched.alive task (hTask ▸ hSome)
      rw [resetDue_of_isTail hFrom] at hAlive
      rw [hIo]
      exact ⟨hWindow, hAlive.imp_right fun hRest => .inr (hRest.resolve_left nofun)⟩

/-- The driver gives its watchdog up, off an open call. -/
theorem dropped (h : system.Sound window) {after : DriverTask} {turn : Turn}
    (hDropped : system.Dropped after) (hTo : turn.isTail = true)
    (hOpen : after.state.isOpen = false)
    (hEnded : 0 < system.ticks → after.state.isEnded = true)
    (hScript : ∀ event commands wasOpen, turn = .applying event commands wasOpen →
      Script after.state event commands wasOpen) :
    ({ system.follow after with turn } : IdleSystem).Sound window := by
  obtain ⟨hConfig, hHandle, hTask, hIo⟩ := hDropped
  refine of_isTail hTo ?_ h.torn ?_ ?_ hScript (fun hTicks => .inl (hEnded hTicks))
    (fun _ _ => hHandle) ?_
  · rw [follow_driver, hConfig, h.config]
  · rw [hIo]
    exact h.past
  · rw [hTask]
    nofun
  · intro hStill
    rw [follow_driver, hOpen] at hStill
    cases hStill

/-- A reset is in the queue of the watchdog before the driver goes on. -/
theorem refreshed (h : system.Sound window) {turn : Turn}
    (hOpen : system.driver.state.isOpen = true) (hOpening : system.turn.isOpening = false)
    (hTick : system.turn ≠ .tick) (hTo : turn.isTail = true)
    (hScript : ∀ event commands wasOpen, turn = .applying event commands wasOpen →
      Script system.driver.state event commands wasOpen) :
    ({ system.follow (system.driver.emit [.watchdogReset]) with turn } : IdleSystem).Sound
      window := by
  obtain ⟨hTask, hIo⟩ := follow_reset system
  have hWatched := h.watched hOpen hOpening
  refine of_isTail hTo h.config h.torn ?_ (fun _ => hWatched.handle) hScript ?_ ?_ fun _ => ?_
  · rw [hIo]
    exact h.past
  · intro hTicks
    refine (h.ticking (.inl hTicks)).imp_right ?_
    rintro ⟨-, hHandle, hNone⟩
    refine ⟨hOpen, hHandle, ?_⟩
    rw [hTask, hNone]
    rfl
  · intro hClosed _
    rw [show system.driver.state.isOpen = false from hClosed] at hOpen
    cases hOpen
  · refine ⟨hWatched.handle, fun hNone => ?_, fun task hSome => ?_⟩
    · obtain ⟨hFlight, hIdle⟩ := hWatched.dead (Option.map_eq_none_iff.mp (hTask ▸ hNone))
      refine ⟨.inl (hFlight.resolve_right hTick), ?_⟩
      rw [hIo]
      exact hIdle
    · obtain ⟨before, hBefore, rfl⟩ := Option.map_eq_some_iff.mp (hTask ▸ hSome)
      refine ⟨(hWatched.alive before hBefore).1, .inl ?_⟩
      exact Nat.lt_min.mpr ⟨Nat.succ_pos _, by decide⟩

/-- An opening call gets its watchdog, which has not run yet. -/
theorem opened (h : system.Sound window) {rest : List Command}
    (hTurn : system.turn = .applying .verifyOk (.resetIdle :: .drainOutbound :: rest) false)
    (hOpen : system.driver.state.isOpen = true)
    (hInert : ∀ command ∈ rest, command.isInert = true) :
    ({ system.follow { system.driver with
          idleWatchdog := some ⟨system.driver.config.idleWindow⟩ } with
        turn := .applying .verifyOk (.drainOutbound :: rest) false } : IdleSystem).Sound
      window := by
  obtain ⟨hHandle, hNoIo⟩ := h.opening (by rw [hTurn]; rfl)
  obtain ⟨hTask, hIo⟩ := follow_spawn hHandle ⟨system.driver.config.idleWindow⟩
  constructor
  · exact h.config
  · exact h.torn
  · rw [hIo]
    exact h.past
  · intro _
    rfl
  · rintro _ _ _ ⟨⟩
    exact .draining hOpen hInert
  · intro hFlight
    have hTicks : 0 < system.ticks := hFlight.resolve_right nofun
    rcases h.ticking (.inl hTicks) with hEnded | ⟨-, hSome, -⟩
    · rw [isOpen_eq_false_of_isEnded hEnded] at hOpen
      cases hOpen
    · rw [hHandle] at hSome
      cases hSome
  · nofun
  · nofun
  · nofun
  · intro hClosed _
    rw [show system.driver.state.isOpen = false from hClosed] at hOpen
    cases hOpen
  · nofun
  · intro _ _
    refine ⟨rfl, fun hNone => ?_, fun task hSome => ?_⟩
    · rw [hTask] at hNone
      cases hNone
    · rw [hTask] at hSome
      obtain rfl := Option.some.inj hSome
      exact ⟨h.config, .inr (.inr nofun)⟩

/-- Payloads go out while the watchdog runs: a reset is still to come, or it does not sleep
yet. -/
theorem sent (h : system.Sound window) {after : DriverTask} {turn : Turn} {effects : List Effect}
    (hEffects : after.effects = system.driver.effects ++ effects)
    (hSilent : ∀ effect ∈ effects, effect.isForWatchdog = false)
    (hConfig : after.config = system.driver.config) (hState : after.state = system.driver.state)
    (hHandle : after.idleWatchdog = system.driver.idleWatchdog)
    (hOpen : system.driver.state.isOpen = true) (hRuns : system.watchdog.isSome = true)
    (hOpening : system.turn.isOpening = false) (hBetween : turn.isBetween = false)
    (hScript : ∀ event commands wasOpen, turn = .applying event commands wasOpen →
      Script system.driver.state event commands wasOpen)
    (hOpens : turn.isOpening = false)
    (hSafe : turn = .resetting ∨ ∀ task, system.watchdog = some task → task.deadline = none) :
    ({ system.follow after with turn } : IdleSystem).Sound window := by
  have hTask : (system.follow after).watchdog = system.watchdog := by
    rw [watchdog_follow _ hEffects fun hNone => hHandle.trans hNone, foldl_heed_eq_self _ hSilent]
  have hWatched := h.watched hOpen hOpening
  have hTicks : system.ticks = 0 := by
    rcases Nat.eq_zero_or_pos system.ticks with hZero | hTicks
    · exact hZero
    · rcases h.ticking (.inl hTicks) with hEnded | ⟨-, -, hNone⟩
      · rw [isOpen_eq_false_of_isEnded hEnded] at hOpen
        cases hOpen
      · rw [hNone] at hRuns
        cases hRuns
  constructor
  · rw [follow_driver, hConfig, h.config]
  · exact h.torn
  · intro io hIo
    rw [lastIo_follow _ hEffects] at hIo
    split at hIo
    · exact h.past io hIo
    · obtain rfl := Option.some.inj hIo
      exact Nat.le_refl _
  · intro _
    rw [follow_driver, hHandle, hWatched.handle]
  · rw [follow_driver, hState]
    exact hScript
  · rintro (hFlight | hTurn)
    · exact absurd hTicks (Nat.ne_of_gt hFlight)
    · rw [show turn = .tick from hTurn] at hBetween
      cases hBetween
  · intro arm hTurn
    rw [show turn = .taken arm from hTurn] at hBetween
    cases hBetween
  · intro event hTurn
    rw [show turn = .taken (.internal event) from hTurn] at hBetween
    cases hBetween
  · intro _
    rw [follow_driver, hState]
    exact ⟨hTicks, hOpen⟩
  · intro hClosed _
    rw [follow_driver, hState, hOpen] at hClosed
    cases hClosed
  · intro hStill
    rw [show turn.isOpening = true from hStill] at hOpens
    cases hOpens
  · intro _ _
    refine ⟨by rw [follow_driver, hHandle, hWatched.handle], fun hNone => ?_, fun task hSome => ?_⟩
    · rw [hTask] at hNone
      rw [hNone] at hRuns
      cases hRuns
    · rw [hTask] at hSome
      refine ⟨(hWatched.alive task hSome).1, .inr ?_⟩
      rcases hSafe with rfl | hAwake
      · exact .inl rfl
      · right
        intro deadline io hDeadline
        rw [hAwake task hSome] at hDeadline
        cases hDeadline

/-- What was left to send goes out before the new watchdog has run. -/
theorem drained (h : system.Sound window) {rest : List Command} {env : Env}
    (hQuiet : system.Undisturbed (.proceed env))
    (hTurn : system.turn = .applying .verifyOk (.drainOutbound :: rest) false)
    (hOpen : system.driver.state.isOpen = true)
    (hInert : ∀ command ∈ rest, command.isInert = true) :
    ({ system.follow (system.driver.drainOutbound env) with
        turn := .applying .verifyOk rest false } : IdleSystem).Sound window := by
  obtain ⟨effects, hEffects, hSilent, hNothing, hConfig, hState, hHandle⟩ :=
    DriverTask.drainOutbound_effects env system.driver
  have hRest : Command.resetIdle ∉ rest := not_mem_of_isInert hInert
  have hFrom : system.turn.isTail = true := by
    rw [hTurn]
    exact isTail_of_not_mem (by simp [hRest])
  have hTo : (Turn.applying .verifyOk rest false).isTail = true := isTail_of_not_mem hRest
  have hScript : ∀ event commands wasOpen,
      Turn.applying .verifyOk rest false = .applying event commands wasOpen →
        Script system.driver.state event commands wasOpen := by
    rintro _ _ _ ⟨⟩
    exact .inert hOpen hInert
  cases hPending : system.driver.pendingOutbound.isEmpty with
  | true =>
    obtain rfl := hNothing (List.isEmpty_iff.mp hPending)
    refine h.unmoved (unmoved_of_effects [] hConfig hState hHandle hEffects rfl hSilent)
      hFrom hTo hScript fun hClosed => ?_
    rw [hOpen] at hClosed
    cases hClosed
  | false =>
    have hLeft : system.drainsLeftovers = true := by
      unfold drainsLeftovers
      rw [hTurn, hPending]
      rfl
    obtain ⟨task, hTask, hAwake⟩ := Option.any_eq_true _ _ |>.mp (hQuiet hLeft)
    refine h.sent hEffects hSilent hConfig hState hHandle hOpen (by rw [hTask]; rfl)
      (isOpening_of_isTail hFrom) rfl hScript (isOpening_of_isTail hTo) (.inr ?_)
    intro other hOther
    obtain rfl := Option.some.inj (hTask.symm.trans hOther)
    exact Option.isNone_iff_eq_none.mp hAwake

/-- A payload for the open call is sent, and its reset is to come. -/
theorem onOutbound (h : system.Sound window) (env : Env) (request : OutboundRequest)
    (hTurn : system.turn = .taken (.outbound request)) :
    (system.onOutbound env request).Sound window := by
  have hBetween : system.turn.isBetween = true := by rw [hTurn]; rfl
  have hTick : system.turn ≠ .tick := by rw [hTurn]; nofun
  unfold IdleSystem.onOutbound
  dsimp only
  split
  next hOpen =>
    obtain ⟨effects, hEffects, hSilent, -, hConfig, hState, hHandle⟩ :=
      DriverTask.drainOutbound_effects env
        { system.driver with pendingOutbound := system.driver.pendingOutbound ++ [request] }
    have hTicks : system.ticks = 0 := by
      refine (h.payload ?_).1
      unfold onPayload
      rw [hTurn]
      exact hOpen
    have hRuns : system.watchdog.isSome = true := by
      cases hTask : system.watchdog with
      | some task => rfl
      | none =>
          have hFlight := ((h.watched hOpen (isOpening_of_isBetween hBetween)).dead hTask).1
          rcases hFlight with hPending | hTaken
          · exact absurd hTicks (Nat.ne_of_gt hPending)
          · exact absurd hTaken hTick
    exact h.sent hEffects hSilent hConfig hState hHandle hOpen hRuns
      (isOpening_of_isBetween hBetween) rfl nofun rfl (.inl rfl)
  · exact h.toWaiting hBetween hTick rfl rfl rfl

theorem handleControl (h : system.Sound window) (message : ControlMsg)
    (hTurn : system.turn = .taken (.control message)) :
    (system.handleControl message).Sound window := by
  have hBetween : system.turn.isBetween = true := by rw [hTurn]; rfl
  have hTick : system.turn ≠ .tick := by rw [hTurn]; nofun
  have hEntry := h.fresh _ hTurn nofun
  cases message with
  | start peerUserId peerDeviceId =>
      unfold IdleSystem.handleControl
      dsimp only
      split
      · exact h.toWaiting hBetween hTick rfl rfl rfl
      · exact h.dispatch hBetween (iff_of_false nofun hTick) (fun _ => hEntry) nofun
  | hangup reason =>
      unfold IdleSystem.handleControl
      exact h.dispatch hBetween (iff_of_false nofun hTick) (fun _ => hEntry) nofun

section Commands

variable {env : Env} {event : Event} {command : Command} {rest : List Command} {wasOpen : Bool}
  (hTurn : system.turn = .applying event (command :: rest) wasOpen)
include hTurn

theorem isLeaving_of_rest (hLeaving : (Turn.applying event rest wasOpen).isLeaving = false) :
    system.turn.isLeaving = false := by
  rw [hTurn]
  exact hLeaving

/-- Off an open call a command leaves the call alone, or gives up what is left of it. -/
theorem applyCalm (h : system.Sound window) (hOpen : system.driver.state.isOpen = false)
    (hEnded : wasOpen = true → system.driver.state.isEnded = true)
    (hCalm : ∀ other ∈ command :: rest, other.isCalm = true) :
    ({ system.follow (system.driver.applyCommand env command) with
        turn := .applying event rest wasOpen } : IdleSystem).Sound window := by
  obtain ⟨hFirst, hRest⟩ := List.forall_mem_cons.mp hCalm
  have hFrom : system.turn.isTail = true := by
    rw [hTurn]
    exact isTail_of_not_mem (not_mem_of_isCalm hCalm)
  have hTo : (Turn.applying event rest wasOpen).isTail = true :=
    isTail_of_not_mem (not_mem_of_isCalm hRest)
  obtain ⟨hState, hMoved | hDropped⟩ := unmoved_or_dropped_of_isCalm env hFirst h.handle hOpen
  · refine h.unmoved hMoved hFrom hTo ?_ fun _ => isLeaving_of_rest hTurn
    rintro _ _ _ ⟨⟩
    exact .closed hOpen hEnded hRest
  · refine h.dropped hDropped hTo (by rw [hState, hOpen]) (fun hTicks => ?_) ?_
    · rw [hState]
      refine (h.ticking (.inl hTicks)).resolve_right fun hStill => ?_
      rw [hOpen] at hStill
      cases hStill.1
    · rintro _ _ _ ⟨⟩
      rw [hState]
      exact .closed hOpen hEnded hRest

theorem applyInert (h : system.Sound window) (hOpen : system.driver.state.isOpen = true)
    (hInert : ∀ other ∈ command :: rest, other.isInert = true) :
    ({ system.follow (system.driver.applyCommand env command) with
        turn := .applying event rest wasOpen } : IdleSystem).Sound window := by
  obtain ⟨hFirst, hRest⟩ := List.forall_mem_cons.mp hInert
  have hFrom : system.turn.isTail = true := by
    rw [hTurn]
    exact isTail_of_not_mem (not_mem_of_isInert hInert)
  refine h.unmoved (unmoved_of_isInert hFirst) hFrom
    (isTail_of_not_mem (not_mem_of_isInert hRest)) ?_ fun _ => isLeaving_of_rest hTurn
  rintro _ _ _ ⟨⟩
  exact .inert hOpen hRest

end Commands

/-- New servers are taken over, or the call is given up for a new one. -/
theorem applyServers (h : system.Sound window) (env : Env) {event : Event}
    {servers : List IceServer}
    (hTurn : system.turn = .applying event [.configureIceServers servers] true)
    (hOpen : system.driver.state.isOpen = true) :
    ({ system.follow (system.driver.applyCommand env (.configureIceServers servers)) with
        turn := .applying event [] true } : IdleSystem).Sound window := by
  rcases unmoved_or_dropped_configure env h.handle hOpen servers with hMoved | ⟨hDropped, hIdle⟩
  · refine h.unmoved hMoved (by rw [hTurn]; rfl) rfl ?_ fun _ => isLeaving_of_rest hTurn
    rintro _ _ _ ⟨⟩
    exact .inert hOpen (List.forall_mem_nil _)
  · refine h.dropped hDropped rfl (by rw [hIdle]; rfl) (fun _ => by rw [hIdle]; rfl) ?_
    rintro _ _ _ ⟨⟩
    rw [hIdle]
    exact .closed rfl (fun _ => rfl) (List.forall_mem_nil _)

/-- A command of the script is applied. -/
theorem applyCommand (h : system.Sound window) {env : Env} {event : Event} {command : Command}
    {rest : List Command} {wasOpen : Bool} (hQuiet : system.Undisturbed (.proceed env))
    (hTurn : system.turn = .applying event (command :: rest) wasOpen) :
    ({ system.follow (system.driver.applyCommand env command) with
        turn := .applying event rest wasOpen } : IdleSystem).Sound window := by
  cases h.script _ _ _ hTurn with
  | closed hOpen hEnded hCalm => exact h.applyCalm hTurn hOpen hEnded hCalm
  | inert hOpen hInert => exact h.applyInert hTurn hOpen hInert
  | refreshing hOpen _ servers => exact h.applyServers env hTurn hOpen
  | traffic hOpen =>
      have hOpening : system.turn.isOpening = false := by rw [hTurn]; rfl
      obtain ⟨watchdog, hHandle⟩ := Option.isSome_iff_exists.mp (h.watched hOpen hOpening).handle
      have hReset : system.driver.applyCommand env .resetIdle =
          system.driver.emit [.watchdogReset] := by
        simp only [DriverTask.applyCommand, hHandle]
      rw [hReset]
      refine h.refreshed hOpen hOpening (ne_tick_of_applying hTurn) rfl ?_
      rintro _ _ _ ⟨⟩
      exact .inert hOpen (List.forall_mem_nil _)
  | opening hOpen hInert =>
      have hHandle := (h.opening (by rw [hTurn]; rfl)).1
      have hSpawn : system.driver.applyCommand env .resetIdle =
          { system.driver with idleWatchdog := some ⟨system.driver.config.idleWindow⟩ } := by
        simp only [DriverTask.applyCommand, hHandle, hOpen, if_true]
      rw [hSpawn]
      exact h.opened hTurn hOpen hInert
  | draining hOpen hInert => exact h.drained hQuiet hTurn hOpen hInert

/-- The end of an event that has led out of the open call. -/
theorem dropWatchdog (h : system.Sound window) {event : Event} {wasOpen : Bool}
    (hTurn : system.turn = .applying event [] wasOpen) :
    ({ system.follow (system.driver.dropWatchdog wasOpen) with turn := .waiting } :
      IdleSystem).Sound window := by
  obtain ⟨hState, hMoved⟩ := unmoved_or_dropped_dropWatchdog h.handle wasOpen
  have hFrom : system.turn.isTail = true := by rw [hTurn]; rfl
  split at hMoved
  next hLeft =>
    obtain ⟨hWas, hOpen⟩ := Bool.and_eq_true_iff.mp hLeft
    rw [Bool.not_eq_true'] at hOpen
    refine h.dropped hMoved rfl (by rw [hState, hOpen]) (fun _ => ?_) nofun
    rw [hState]
    exact h.isEnded_of_isLeaving (by rw [hTurn]; exact hWas) hOpen
  next hStays =>
    refine h.unmoved hMoved hFrom rfl nofun fun hOpen _ => ?_
    rw [hTurn]
    simpa [hOpen, Turn.isLeaving] using hStays

theorem dispatchTick (h : system.Sound window) (hTurn : system.turn = .tick) :
    (system.dispatch .idleTick).Sound window :=
  h.dispatch (by rw [hTurn]; rfl) (iff_of_true rfl hTurn) nofun nofun

theorem dispatchCall (h : system.Sound window) {event : ParsedCallEvent}
    (hTurn : system.turn = .taken (.call event)) :
    (system.dispatch (.callEventReceived event)).Sound window :=
  h.dispatch (by rw [hTurn]; rfl) (iff_of_false nofun (by rw [hTurn]; nofun))
    (fun _ => h.fresh _ hTurn nofun) nofun

/-- What comes from the channel or a timer makes no new call. -/
theorem dispatchInternal (h : system.Sound window) {event : Event}
    (hTurn : system.turn = .taken (.internal event)) : (system.dispatch event).Sound window := by
  obtain ⟨hInternal, hEvent⟩ := h.internal event hTurn
  refine h.dispatch (by rw [hTurn]; rfl) (iff_of_false hEvent (by rw [hTurn]; nofun))
    (fun hExternal => ?_) fun hMessage hOpen => ?_
  · rw [hInternal] at hExternal
    cases hExternal
  · refine (h.payload ?_).1
    unfold onPayload
    rw [hTurn]
    exact Bool.and_eq_true_iff.mpr ⟨hMessage, hOpen⟩

/-- The reset after a payload that was sent. -/
theorem reset (h : system.Sound window) (hTurn : system.turn = .resetting) :
    ({ system.follow (system.driver.emit
        (system.driver.idleWatchdog.toList.map fun _ => .watchdogReset)) with
        turn := .waiting } : IdleSystem).Sound window := by
  have hOpen := (h.payload (by unfold onPayload resetDue; rw [hTurn])).2
  have hOpening : system.turn.isOpening = false := by rw [hTurn]; rfl
  obtain ⟨watchdog, hHandle⟩ := Option.isSome_iff_exists.mp (h.watched hOpen hOpening).handle
  rw [hHandle]
  exact h.refreshed hOpen hOpening (by rw [hTurn]; nofun) rfl nofun

theorem proceed (h : system.Sound window) {env : Env}
    (hQuiet : system.Undisturbed (.proceed env)) :
    (system.step (.proceed env)).Sound window := by
  simp only [step]
  unfold IdleSystem.proceed
  split
  · exact h
  next hTurn => exact h.dispatchTick hTurn
  next message hTurn => exact h.handleControl message hTurn
  next event hTurn => exact h.dispatchCall hTurn
  next request hTurn => exact h.onOutbound env request hTurn
  next event hTurn => exact h.dispatchInternal hTurn
  next hTurn => exact h.applyCommand hQuiet hTurn
  next hTurn => exact h.dropWatchdog hTurn
  next hTurn => exact h.reset hTurn

/-- One step of the driver, its watchdog or the time. -/
theorem step (h : system.Sound window) {input : Input} (hQuiet : system.Undisturbed input) :
    (system.step input).Sound window := by
  cases input with
  | pass span => exact h.pass span
  | poll => exact h.poll
  | fire => exact h.fire hQuiet
  | takeTick => exact h.takeTick
  | take arm => exact h.take hQuiet
  | proceed env => exact h.proceed hQuiet
  | install channel crypto => exact h.install channel crypto

end Sound

/-- In every run in which nothing comes between a payload and its reset, only an idle call is
torn down as idle. -/
theorem tornIdle_of_undisturbed (config : P2PTransportConfig) (now : Instant)
    (inputs : List Input) (h : Admissible step Undisturbed (spawn config now) inputs) :
    Always step (TornIdle config.idleWindow) (spawn config now) inputs :=
  (h.always (fun _ _ hSound hQuiet => hSound.step hQuiet) (sound_spawn config now)).mono
    fun _ hSound => hSound.torn

/-- A call comes in, is opened and verified, and its watchdog falls asleep. -/
def openedCall : List Input :=
  let proceeds := List.replicate 8 (.proceed DriverTask.obligingEnv)
  .take (.call (.invite ⟨"c1", "them", "1", 30000, ⟨"offer", "v=0"⟩, none, none⟩)) :: proceeds ++
    .install (some ⟨1⟩) (some ⟨[9]⟩) :: .take (.internal (.channelEvent .opened)) :: proceeds ++
    .take (.internal .verifyOk) :: proceeds ++ [.poll]

/-- A payload is sent, and a window later the call is torn down. -/
theorem tornIdle_after_window :
    let inputs := openedCall ++ [.take (.outbound ⟨"m.room.encrypted", [1]⟩),
      .proceed DriverTask.obligingEnv, .proceed DriverTask.obligingEnv, .poll,
      .pass defaultIdleWindow, .fire, .takeTick, .proceed DriverTask.obligingEnv]
    Always step (TornIdle defaultIdleWindow) (spawn DriverTask.workerConfig 7) inputs ∧
      (run step (spawn DriverTask.workerConfig 7) inputs).torn =
        [(some 7, 7 + defaultIdleWindow)] :=
  ⟨tornIdle_of_undisturbed DriverTask.workerConfig 7 _ (by decide), by decide⟩

/-- The watchdog fires while the driver is at a payload: the call is torn down right after it
was used. -/
theorem not_always_tornIdle :
    ¬ ∀ (config : P2PTransportConfig) (now : Instant) (inputs : List Input),
      Always step (TornIdle config.idleWindow) (spawn config now) inputs := by
  intro h
  have hLast := (h DriverTask.workerConfig 7 (openedCall ++ [.pass defaultIdleWindow,
    .take (.outbound ⟨"m.room.encrypted", [1]⟩), .fire, .proceed DriverTask.obligingEnv,
    .proceed DriverTask.obligingEnv, .takeTick, .proceed DriverTask.obligingEnv])).last
  have hIdle := hLast (7 + defaultIdleWindow) (7 + defaultIdleWindow) (by decide)
  exact absurd hIdle (by decide)

end IdleSystem

end Mxdx.P2P
