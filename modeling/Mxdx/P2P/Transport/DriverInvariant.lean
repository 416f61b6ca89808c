import Mxdx.P2P.Transport.Driver
import Mxdx.P2P.Transport.Lifecycle

/-! What the driver holds for a call, and when it is given up. `Row` says once
for every arm of the transition table which commands it issues; the driver's
invariants are derived from it. -/
namespace Mxdx.P2P

open Transition

/-- Commands that touch nothing the driver holds. -/
def Command.isInert : Command → Bool
  | .sendInvite .. | .sendAnswer .. | .sendCandidates .. | .sendHangup .. | .sendSelectAnswer ..
  | .beginFetchTurn | .startVerifying _ | .schedule .. | .emitTelemetry _ => true
  | .tearDownChannel _ | .configureIceServers _ | .resetIdle | .lockoutDevice _
  | .drainOutbound => false

/-- Whether a command ends the call. -/
def Command.isTearDown : Command → Bool
  | .tearDownChannel _ => true
  | _ => false

/-- The arms that end a call, or the attempt at one, without a tear-down. -/
def leavesBehind : P2PState → Event → Bool
  | .fetchingTurn _, .hangup _ => true
  | .fetchingTurn _, .turnExpired => true
  | .verifying .., .channelEvent (.closed _) => true
  | .opened .., .channelEvent (.closed _) => true
  | _, _ => false

/-- The shape of every arm of the table, as far as the driver's holdings are
concerned. -/
inductive Row : P2PState → Event → TransitionResult → Prop where
  | illegal (state : P2PState) (event : Event) (note : String) : Row state event (.illegal note)
  | quiet {state : P2PState} {event : Event} {next : P2PState} {commands : List Command}
      (hInert : commands.all Command.isInert = true)
      (hEnded : next.isEnded = true → state.isEnded = true ∨ leavesBehind state event = true) :
      Row state event (.ok next commands)
  | sweep {state : P2PState} {event : Event} {next : P2PState} (before : List Command)
      (reason : String) (after : List Command) (hBefore : before.all Command.isInert = true)
      (hAfter : after.all Command.isInert = true) (hEnded : next.isEnded = true) :
      Row state event (.ok next (before ++ .tearDownChannel reason :: after))
  | traffic {call : String} {lastIo : Instant} {event : Event} (now : Instant) :
      Row (.opened call lastIo) event (.ok (.opened call now) [.resetIdle])
  | verified {call party : String} {nonce : Nonce} {telemetry : List Command} (now : Instant)
      (hInert : telemetry.all Command.isInert = true) :
      Row (.verifying call party nonce) .verifyOk
        (.ok (.opened call now) (.resetIdle :: .drainOutbound :: telemetry))
  | refreshed {call : String} {lastIo : Instant} (servers : List IceServer) :
      Row (.opened call lastIo) (.turnRefreshed servers)
        (.ok (.opened call lastIo) [.configureIceServers servers])
  | turnReady {since : Instant} {next : P2PState} {commands : List Command}
      (servers : List IceServer) (hOpen : next.isOpen = false) (hEnded : next.isEnded = false)
      (hInert : commands.all Command.isInert = true) :
      Row (.fetchingTurn since) (.turnRefreshed servers)
        (.ok next (.configureIceServers servers :: commands))

namespace Row

variable (clock : Nat → Instant)

theorem stay (state : P2PState) (event : Event) : Row state event (.stay state) :=
  .quiet rfl .inl

/-- A quiet move into another state of a call. -/
theorem quietCall {state : P2PState} {event : Event} {next : P2PState} {commands : List Command}
    (hInert : commands.all Command.isInert = true) (hEnded : next.isEnded = false) :
    Row state event (.ok next commands) :=
  .quiet hInert (by rw [hEnded]; nofun)

/-- A quiet move into `Idle` or `Failed`. -/
theorem quietEnd {state : P2PState} {event : Event} {next : P2PState} {commands : List Command}
    (hInert : commands.all Command.isInert = true)
    (h : state.isEnded = true ∨ leavesBehind state event = true) :
    Row state event (.ok next commands) :=
  .quiet hInert fun _ => h

theorem hangup (state : P2PState) (reason : String) :
    Row state (.hangup reason) (onHangup state reason) := by
  cases state with
  | idle | failed => exact quietEnd rfl (.inl rfl)
  | fetchingTurn => exact quietEnd rfl (.inr rfl)
  | inviting | answering | glare | connecting | verifying | opened =>
      exact .sweep [_] reason [_] rfl rfl rfl

theorem peerHangup (state : P2PState) (event : Event) (source : String) :
    Row state event (peerHangup clock source) :=
  .sweep [] "peer_hangup" [_] rfl rfl rfl

theorem channelFailure (state : P2PState) (event : Event) (source message : String)
    (delay : Duration) : Row state event (channelFailure clock source message delay) :=
  .sweep [] "channel_failure" [_] rfl rfl rfl

theorem fromIdle (event : Event) : Row .idle event (fromIdle clock event) := by
  unfold Transition.fromIdle
  split
  · exact quietCall rfl rfl
  · exact quietCall rfl rfl
  · exact stay _ _

theorem fromFetchingTurn (since : Instant) (event : Event) :
    Row (.fetchingTurn since) event (fromFetchingTurn clock since event) := by
  unfold Transition.fromFetchingTurn
  split
  · exact .turnReady _ rfl rfl rfl
  · exact quietEnd rfl (.inr rfl)
  · exact quietCall rfl rfl
  all_goals first | exact .illegal _ _ _ | exact stay _ _

theorem fromInviting (call : String) (started : Instant) (offer : Sdp) (party : String)
    (lifetime : Nat) (event : Event) :
    Row (.inviting call started offer party lifetime) event
      (fromInviting clock call started offer party lifetime event) := by
  unfold Transition.fromInviting
  split
  · split
    · exact .illegal _ _ _
    · exact quietCall rfl rfl
  · exact quietCall rfl rfl
  · exact .sweep [_] _ [_] rfl rfl rfl
  · exact peerHangup clock _ _ _
  all_goals first | exact .illegal _ _ _ | exact stay _ _

theorem fromAnswering (call party theirs : String) (event : Event) :
    Row (.answering call party theirs) event (fromAnswering clock call party theirs event) := by
  unfold Transition.fromAnswering
  split
  · exact quietCall rfl rfl
  · exact peerHangup clock _ _ _
  · exact channelFailure clock _ _ _ _ _
  all_goals first | exact .illegal _ _ _ | exact stay _ _

theorem fromConnecting (call party : String) (iceStarted : Instant) (event : Event) :
    Row (.connecting call party iceStarted) event
      (fromConnecting clock call party iceStarted event) := by
  unfold Transition.fromConnecting
  split
  · exact quietCall rfl rfl
  · exact .sweep [_] _ [_] rfl rfl rfl
  · exact peerHangup clock _ _ _
  · exact channelFailure clock _ _ _ _ _
  all_goals first | exact .illegal _ _ _ | exact stay _ _

theorem fromVerifying (call party : String) (nonce : Nonce) (event : Event) :
    Row (.verifying call party nonce) event (fromVerifying clock call party nonce event) := by
  unfold Transition.fromVerifying
  split
  · exact .verified _ rfl
  · exact .sweep [_] _ [_, _] rfl rfl rfl
  · exact quietEnd rfl (.inr rfl)
  · exact channelFailure clock _ _ _ _ _
  · exact peerHangup clock _ _ _
  all_goals first | exact .illegal _ _ _ | exact stay _ _

theorem fromOpen (call : String) (lastIo : Instant) (event : Event) :
    Row (.opened call lastIo) event (fromOpen clock call lastIo event) := by
  unfold Transition.fromOpen
  split
  · exact .traffic _
  · exact .traffic _
  · exact .sweep [_] _ [_] rfl rfl rfl
  · exact .refreshed _
  · exact .sweep [_] _ [_] rfl rfl rfl
  · exact .sweep [_] _ [_, _] rfl rfl rfl
  · exact .sweep [] _ [_] rfl rfl rfl
  · exact quietEnd rfl (.inr rfl)
  · exact channelFailure clock _ _ _ _ _
  all_goals first | exact .illegal _ _ _ | exact stay _ _

theorem fromFailed (reason : String) (retryAfter : Instant) (event : Event) :
    Row (.failed reason retryAfter) event (fromFailed clock reason retryAfter event) := by
  unfold Transition.fromFailed
  split
  · split
    · exact quietEnd rfl (.inl rfl)
    · exact stay _ _
  · exact quietCall rfl rfl
  · exact quietCall rfl rfl
  · exact stay _ _

end Row

theorem transition_row (clock : Nat → Instant) (state : P2PState) (event : Event) :
    Row state event (transition clock state event) := by
  unfold transition
  split
  · exact .hangup _ _
  · cases state with
    | idle => exact .fromIdle clock _
    | fetchingTurn since => exact .fromFetchingTurn clock since _
    | inviting call started offer party lifetime =>
        exact .fromInviting clock call started offer party lifetime _
    | answering call party theirs => exact .fromAnswering clock call party theirs _
    | glare => exact .stay _ _
    | connecting call party iceStarted => exact .fromConnecting clock call party iceStarted _
    | verifying call party nonce => exact .fromVerifying clock call party nonce _
    | opened call lastIo => exact .fromOpen clock call lastIo _
    | failed reason retryAfter => exact .fromFailed clock reason retryAfter _

/-- The requests whose wires went into `WebRtcChannel::send`, in order. -/
def passed (effects : List Effect) : List OutboundRequest :=
  effects.filterMap fun
    | .channelSend _ request _ => some request
    | _ => none

@[simp] theorem passed_append (first second : List Effect) :
    passed (first ++ second) = passed first ++ passed second :=
  List.filterMap_append

namespace DriverTask

/-- Nothing of a call is left in the driver. -/
def HoldsNothing (driver : DriverTask) : Prop :=
  driver.channel = none ∧ driver.crypto = none ∧ driver.pendingOutbound = [] ∧
    driver.idleWatchdog = none

/-- The driver between two events: an ended call has left nothing behind, and
callers see the state the driver is in. -/
structure Inv (driver : DriverTask) : Prop where
  ended : driver.state.isEnded = true → driver.HoldsNothing
  snapshot : driver.snapshot = .of driver.state

theorem inv_spawn (config : P2PTransportConfig) : (spawn config).Inv :=
  ⟨fun _ => ⟨rfl, rfl, rfl, rfl⟩, rfl⟩

theorem applyCommand_inert (env : Env) (driver : DriverTask) {command : Command}
    (h : command.isInert = true) :
    ∃ emitted, driver.applyCommand env command = driver.emit emitted ∧ passed emitted = [] := by
  have hSame : driver = driver.emit [] := by simp [emit]
  cases command with
  | sendInvite | sendAnswer | sendCandidates | sendHangup | sendSelectAnswer =>
      exact ⟨[.signaling _], rfl, rfl⟩
  | beginFetchTurn | startVerifying | schedule => exact ⟨[], hSame, rfl⟩
  | emitTelemetry kind => exact ⟨[.telemetry kind], rfl, rfl⟩
  | tearDownChannel | configureIceServers | resetIdle | lockoutDevice | drainOutbound => cases h

theorem foldl_inert (env : Env) (driver : DriverTask) {commands : List Command}
    (h : commands.all Command.isInert = true) :
    ∃ emitted, commands.foldl (applyCommand env) driver = driver.emit emitted ∧
      passed emitted = [] := by
  induction commands generalizing driver with
  | nil => exact ⟨[], by simp [emit], rfl⟩
  | cons command rest ih =>
      rw [List.all_cons, Bool.and_eq_true] at h
      obtain ⟨first, hFirst, hFirstPassed⟩ := applyCommand_inert env driver h.1
      obtain ⟨later, hLater, hLaterPassed⟩ := ih (driver.emit first) h.2
      refine ⟨first ++ later, ?_, by simp [hFirstPassed, hLaterPassed]⟩
      rw [List.foldl_cons, hFirst, hLater]
      simp [emit]

/-- A payload that gets no wire causes telemetry at most. -/
theorem passed_of_wireOf_error {env : Env} {crypto : P2PCrypto} {index : Nat}
    {request : OutboundRequest} {failure : List Effect}
    (h : wireOf env crypto index request = .error failure) : passed failure = [] := by
  unfold wireOf at h
  split at h
  · cases h
    rfl
  · split at h <;> cases h
    rfl

theorem passed_encryptLoop (env : Env) (crypto : P2PCrypto) (index : Nat)
    (requests : List OutboundRequest) : passed (encryptLoop env crypto index requests).2 = [] := by
  induction requests generalizing index with
  | nil => rfl
  | cons request rest ih =>
      rw [encryptLoop]
      cases hWire : wireOf env crypto index request with
      | ok wire => exact ih (index + 1)
      | error failure =>
          change passed (failure ++ _) = []
          rw [passed_append, passed_of_wireOf_error hWire, ih (index + 1), List.nil_append]

theorem passed_sendLoop (env : Env) (channel : Channel) (index : Nat)
    (wires : List (OutboundRequest × Bytes)) :
    passed (sendLoop env channel index wires) = wires.map Prod.fst := by
  induction wires generalizing index with
  | nil => rfl
  | cons pair rest ih =>
      obtain ⟨request, wire⟩ := pair
      have hRest := ih (index + 1)
      rw [sendLoop]
      cases env.send index wire <;> simpa [passed] using hRest

/-- The requests a drain gets through to the channel. -/
def drained (env : Env) (crypto : P2PCrypto) (requests : List OutboundRequest) :
    List OutboundRequest :=
  (encryptLoop env crypto 0 requests).1.map Prod.fst

/-- `after` still has the channel, the key and the payloads of `driver`, and
nothing has been sent in between. -/
structure Keeps (driver after : DriverTask) : Prop where
  channel : after.channel = driver.channel
  crypto : after.crypto = driver.crypto
  pendingOutbound : after.pendingOutbound = driver.pendingOutbound
  sent : passed after.effects = passed driver.effects

theorem Keeps.refl (driver : DriverTask) : Keeps driver driver := ⟨rfl, rfl, rfl, rfl⟩

theorem keeps_emit (driver : DriverTask) {emitted : List Effect} (h : passed emitted = []) :
    Keeps driver (driver.emit emitted) :=
  ⟨rfl, rfl, rfl, by simp [emit, h]⟩

theorem Keeps.trans {first second third : DriverTask} (hFirst : Keeps first second)
    (hSecond : Keeps second third) : Keeps first third :=
  ⟨hSecond.channel.trans hFirst.channel, hSecond.crypto.trans hFirst.crypto,
    hSecond.pendingOutbound.trans hFirst.pendingOutbound, hSecond.sent.trans hFirst.sent⟩

/-- Draining sends everything that can be encrypted, provided the call has its
channel and its key; otherwise the payloads wait. -/
theorem drainOutbound_spec (env : Env) (driver : DriverTask) (hOpen : driver.state.isOpen = true) :
    let after := driver.drainOutbound env
    after.state = driver.state ∧ after.snapshot = driver.snapshot ∧
    after.idleWatchdog = driver.idleWatchdog ∧
    ((∃ crypto channel, driver.crypto = some crypto ∧ driver.channel = some channel ∧
        after.channel = driver.channel ∧ after.crypto = driver.crypto ∧
        after.pendingOutbound = [] ∧
        passed after.effects = passed driver.effects ++ drained env crypto driver.pendingOutbound) ∨
      ((driver.crypto = none ∨ driver.channel = none) ∧ Keeps driver after)) := by
  cases hCrypto : driver.crypto with
  | none =>
      have hSame : driver.drainOutbound env = driver := by simp [drainOutbound, hCrypto]
      rw [hSame]
      exact ⟨rfl, rfl, rfl, .inr ⟨.inl rfl, .refl _⟩⟩
  | some crypto =>
      cases hChannel : driver.channel with
      | none =>
          have hSame : driver.drainOutbound env = driver := by
            simp [drainOutbound, hCrypto, hChannel]
          rw [hSame]
          exact ⟨rfl, rfl, rfl, .inr ⟨.inr rfl, .refl _⟩⟩
      | some channel =>
          refine ⟨?_, ?_, ?_, .inl ⟨crypto, channel, rfl, rfl, ?_⟩⟩
          all_goals
            simp [drainOutbound, hOpen, hCrypto, hChannel, passed_encryptLoop, passed_sendLoop,
              drained]

theorem dropWatchdog_spec (driver : DriverTask) (wasOpen : Bool) :
    let after := driver.dropWatchdog wasOpen
    after.state = driver.state ∧ after.snapshot = driver.snapshot ∧ Keeps driver after ∧
    after.idleWatchdog =
      if wasOpen && !driver.state.isOpen then none else driver.idleWatchdog := by
  have hShutdown : passed (driver.idleWatchdog.toList.map fun _ => .watchdogShutdown) = [] := by
    cases driver.idleWatchdog <;> rfl
  unfold dropWatchdog
  split
  · refine ⟨rfl, rfl, ⟨rfl, rfl, rfl, ?_⟩, rfl⟩
    rw [passed_append, hShutdown, List.append_nil]
  · exact ⟨rfl, rfl, .refl _, rfl⟩

theorem tearDown_spec (driver : DriverTask) (reason : String) :
    let after := driver.tearDown reason
    after.HoldsNothing ∧ after.state = driver.state ∧ after.snapshot = driver.snapshot ∧
    passed after.effects = passed driver.effects := by
  refine ⟨⟨rfl, rfl, rfl, rfl⟩, rfl, rfl, ?_⟩
  unfold tearDown
  cases driver.channel <;> cases driver.idleWatchdog <;> simp [passed]

/-- ICE is to be restarted on an open channel and the backend refuses. -/
def refreshFails (env : Env) (driver : DriverTask) : Event → Bool
  | .turnRefreshed servers =>
      driver.state.isOpen && driver.channel.isSome && !(env.restartIce servers).isOk
  | _ => false

/-- The event makes the driver give up everything it holds. -/
def sweeps (env : Env) (driver : DriverTask) (event : Event) : Bool :=
  (transition env.clock driver.state event).commands.any Command.isTearDown ||
    driver.refreshFails env event

/-- The event opens the call of a driver that has its channel and its key. -/
def drains (driver : DriverTask) (event : Event) : Bool :=
  match driver.state, event with
  | .verifying .., .verifyOk => driver.crypto.isSome && driver.channel.isSome
  | _, _ => false

/-- Everything a dispatch can do to what the driver holds. -/
inductive Outcome (env : Env) (driver : DriverTask) (event : Event) : DriverTask → Prop where
  | unchanged (hSweeps : driver.sweeps env event = false) (hDrains : driver.drains event = false)
      (hArm : leavesBehind driver.state event = false) : Outcome env driver event driver
  | kept {after : DriverTask} (hSweeps : driver.sweeps env event = false)
      (hDrains : driver.drains event = false) (hKeeps : Keeps driver after)
      (hSnapshot : after.snapshot = .of after.state)
      (hWatchdog : after.state.isOpen = false →
        after.idleWatchdog = if driver.state.isOpen then none else driver.idleWatchdog)
      (hEnded : after.state.isEnded = true →
        driver.state.isEnded = true ∨ leavesBehind driver.state event = true) :
      Outcome env driver event after
  | swept {after : DriverTask} (hSweeps : driver.sweeps env event = true)
      (hNothing : after.HoldsNothing) (hSnapshot : after.snapshot = .of after.state)
      (hSent : passed after.effects = passed driver.effects) : Outcome env driver event after
  | drained {after : DriverTask} (hSweeps : driver.sweeps env event = false)
      (hDrains : driver.drains event = true) (crypto : P2PCrypto)
      (hCrypto : driver.crypto = some crypto) (hOpen : after.state.isOpen = true)
      (hSnapshot : after.snapshot = .of after.state) (hPending : after.pendingOutbound = [])
      (hSent : passed after.effects =
        passed driver.effects ++ drained env crypto driver.pendingOutbound) :
      Outcome env driver event after

/-- In `Open` nothing is asked about the end of the call. -/
theorem Outcome.keptOpen {env : Env} {driver after : DriverTask} {event : Event} {call : String}
    {lastIo : Instant} (hSweeps : driver.sweeps env event = false)
    (hDrains : driver.drains event = false) (hKeeps : Keeps driver after)
    (hState : after.state = .opened call lastIo)
    (hSnapshot : after.snapshot = .of (.opened call lastIo)) :
    Outcome env driver event after := by
  refine .kept hSweeps hDrains hKeeps (by rw [hSnapshot, hState]) ?_ ?_
  · rw [hState]
    nofun
  · rw [hState]
    nofun

theorem HoldsNothing.dropWatchdog {driver : DriverTask} (h : driver.HoldsNothing)
    (wasOpen : Bool) : (driver.dropWatchdog wasOpen).HoldsNothing := by
  obtain ⟨hChannel, hCrypto, hPending, hWatchdog⟩ := h
  obtain ⟨-, -, hKeeps, hDropped⟩ := dropWatchdog_spec driver wasOpen
  refine ⟨hKeeps.channel.trans hChannel, hKeeps.crypto.trans hCrypto,
    hKeeps.pendingOutbound.trans hPending, ?_⟩
  rw [hDropped]
  exact ite_eq_left_iff.mpr fun _ => hWatchdog

theorem any_isTearDown_inert {commands : List Command}
    (h : commands.all Command.isInert = true) : commands.any Command.isTearDown = false := by
  rw [List.any_eq_false]
  intro command hMem
  have hInert := List.all_eq_true.mp h command hMem
  cases command <;> simp_all [Command.isInert, Command.isTearDown]

section Dispatch

variable (env : Env) (driver : DriverTask) {event : Event} {next : P2PState}

/-- Where the commands start: cursor moved, snapshot published. -/
def moveTo (driver : DriverTask) (next : P2PState) : DriverTask :=
  { driver with state := next }.updateSnapshot

theorem keeps_moveTo : Keeps driver (driver.moveTo next) := ⟨rfl, rfl, rfl, rfl⟩

theorem dispatch_ok {commands : List Command}
    (h : transition env.clock driver.state event = .ok next commands) :
    driver.dispatch env event =
      ((commands.foldl (applyCommand env) (driver.moveTo next)).dropWatchdog
        driver.state.isOpen) := by
  simp only [dispatch, h, moveTo]

theorem sweeps_ok {commands : List Command}
    (h : transition env.clock driver.state event = .ok next commands) :
    driver.sweeps env event = (commands.any Command.isTearDown || driver.refreshFails env event) := by
  simp only [sweeps, h, TransitionResult.commands]

/-- Inert commands change neither the state nor what is held. -/
theorem moveTo_inert (next : P2PState) {commands : List Command}
    (h : commands.all Command.isInert = true) :
    let after := (commands.foldl (applyCommand env) (driver.moveTo next)).dropWatchdog
      driver.state.isOpen
    after.state = next ∧ after.snapshot = .of next ∧ Keeps driver after ∧
    after.idleWatchdog =
      if driver.state.isOpen && !next.isOpen then none else driver.idleWatchdog := by
  obtain ⟨emitted, hFold, hPassed⟩ := foldl_inert env (driver.moveTo next) h
  rw [hFold]
  obtain ⟨hState, hSnapshot, hKeeps, hWatchdog⟩ :=
    dropWatchdog_spec ((driver.moveTo next).emit emitted) driver.state.isOpen
  refine ⟨hState, hSnapshot, ?_, hWatchdog⟩
  exact (keeps_moveTo driver).trans ((keeps_emit _ hPassed).trans hKeeps)

theorem drains_eq_false (h : event ≠ .verifyOk) : driver.drains event = false := by
  unfold drains
  split
  · exact absurd rfl h
  · rfl

/-- Only an arm that issues `DrainOutbound` drains. -/
theorem drains_eq_false_of_commands
    (h : Command.drainOutbound ∉ (transition env.clock driver.state event).commands) :
    driver.drains event = false := by
  unfold drains
  split
  next hState =>
    rw [hState] at h
    exact absurd (by simp [transition, fromVerifying, TransitionResult.commands]) h
  · rfl

/-- Only an arm that issues `ConfigureIceServers` can fail to restart ICE. -/
theorem refreshFails_eq_false_of_commands
    (h : ∀ servers, Command.configureIceServers servers ∉
      (transition env.clock driver.state event).commands) :
    driver.refreshFails env event = false := by
  unfold refreshFails
  split
  next servers =>
    cases hState : driver.state with
    | opened call lastIo =>
        specialize h servers
        rw [hState] at h
        exact absurd (by simp [transition, fromOpen, TransitionResult.commands]) h
    | _ => rfl
  · rfl

/-- The arms that leave something behind end the call with inert commands. -/
theorem transition_leavesBehind (clock : Nat → Instant) {state : P2PState}
    (h : leavesBehind state event = true) :
    ∃ next commands, transition clock state event = .ok next commands ∧
      next.isEnded = true ∧ commands.all Command.isInert = true := by
  unfold leavesBehind at h
  split at h
  · exact ⟨_, _, rfl, rfl, rfl⟩
  · exact ⟨_, _, rfl, rfl, rfl⟩
  · exact ⟨_, _, rfl, rfl, rfl⟩
  · exact ⟨_, _, rfl, rfl, rfl⟩
  · cases h

theorem not_mem_of_inert {commands : List Command} {command : Command}
    (h : commands.all Command.isInert = true) (hLoud : command.isInert = false) :
    command ∉ commands := by
  intro hMem
  rw [List.all_eq_true.mp h command hMem] at hLoud
  cases hLoud

/-- Tear-down in the middle of inert commands leaves nothing held. -/
theorem outcome_sweep {before after : List Command} {reason : String}
    (h : transition env.clock driver.state event =
      .ok next (before ++ .tearDownChannel reason :: after))
    (hBefore : before.all Command.isInert = true) (hAfter : after.all Command.isInert = true) :
    Outcome env driver event (driver.dispatch env event) := by
  have hSweeps : driver.sweeps env event = true := by
    simp [sweeps_ok env driver h, Command.isTearDown]
  rw [dispatch_ok env driver h, List.foldl_append, List.foldl_cons]
  obtain ⟨first, hFirst, hFirstPassed⟩ := foldl_inert env (driver.moveTo next) hBefore
  rw [hFirst]
  have hTear := tearDown_spec ((driver.moveTo next).emit first) reason
  obtain ⟨hNothing, hState, hSnapshot, hSent⟩ := hTear
  obtain ⟨second, hSecond, hSecondPassed⟩ :=
    foldl_inert env (((driver.moveTo next).emit first).tearDown reason) hAfter
  rw [show applyCommand env ((driver.moveTo next).emit first) (.tearDownChannel reason) =
    ((driver.moveTo next).emit first).tearDown reason from rfl, hSecond]
  obtain ⟨hState', hSnapshot', hKeeps, -⟩ :=
    dropWatchdog_spec ((((driver.moveTo next).emit first).tearDown reason).emit second)
      driver.state.isOpen
  have hStill : ((((driver.moveTo next).emit first).tearDown reason).emit second).HoldsNothing :=
    hNothing
  refine .swept hSweeps (hStill.dropWatchdog _) ?_ ?_
  · rw [hSnapshot', hState']
    rfl
  · rw [hKeeps.sent]
    change passed ((((driver.moveTo next).emit first).tearDown reason).effects ++ second) = _
    rw [passed_append, hSecondPassed, List.append_nil, hSent]
    change passed ((driver.moveTo next).effects ++ first) = _
    rw [passed_append, hFirstPassed, List.append_nil]
    rfl

theorem outcome_quiet {commands : List Command}
    (h : transition env.clock driver.state event = .ok next commands)
    (hInert : commands.all Command.isInert = true)
    (hRefresh : driver.refreshFails env event = false) (hDrains : driver.drains event = false)
    (hEnded : next.isEnded = true →
      driver.state.isEnded = true ∨ leavesBehind driver.state event = true) :
    Outcome env driver event (driver.dispatch env event) := by
  have hSweeps : driver.sweeps env event = false := by
    rw [sweeps_ok env driver h, any_isTearDown_inert hInert, hRefresh, Bool.or_false]
  rw [dispatch_ok env driver h]
  obtain ⟨hState, hSnapshot, hKeeps, hWatchdog⟩ := moveTo_inert env driver next hInert
  refine .kept hSweeps hDrains hKeeps ?_ ?_ ?_
  · rw [hSnapshot, hState]
  · intro hClosed
    rw [hState] at hClosed
    rw [hWatchdog, hClosed]
    simp
  · rwa [hState]

/-- `ResetIdle` in `Open` touches the watchdog only. -/
theorem resetIdle_spec (opened : DriverTask) :
    let after := opened.applyCommand env .resetIdle
    after.state = opened.state ∧ after.snapshot = opened.snapshot ∧ Keeps opened after := by
  simp only [applyCommand]
  split
  · split
    · exact ⟨rfl, rfl, rfl, rfl, rfl, rfl⟩
    · exact ⟨rfl, rfl, .refl _⟩
  · exact ⟨rfl, rfl, keeps_emit _ rfl⟩

theorem outcome_traffic {call : String} {lastIo now : Instant}
    (hState : driver.state = .opened call lastIo)
    (hRefresh : driver.refreshFails env event = false)
    (h : transition env.clock driver.state event = .ok (.opened call now) [.resetIdle]) :
    Outcome env driver event (driver.dispatch env event) := by
  have hSweeps : driver.sweeps env event = false := by
    rw [sweeps_ok env driver h, hRefresh]
    rfl
  have hDrains : driver.drains event = false := by
    simp only [drains, hState]
  rw [dispatch_ok env driver h, List.foldl_cons, List.foldl_nil]
  obtain ⟨hState₁, hSnapshot₁, hKeeps₁⟩ := resetIdle_spec env (driver.moveTo (.opened call now))
  obtain ⟨hState₂, hSnapshot₂, hKeeps₂, -⟩ := dropWatchdog_spec
    ((driver.moveTo (.opened call now)).applyCommand env .resetIdle) driver.state.isOpen
  exact .keptOpen hSweeps hDrains ((keeps_moveTo driver).trans (hKeeps₁.trans hKeeps₂))
    (hState₂.trans hState₁) (hSnapshot₂.trans hSnapshot₁)

theorem outcome_verified {call party : String} {nonce : Nonce} {now : Instant}
    {telemetry : List Command} (hState : driver.state = .verifying call party nonce)
    (hInert : telemetry.all Command.isInert = true)
    (h : transition env.clock driver.state .verifyOk =
      .ok (.opened call now) (.resetIdle :: .drainOutbound :: telemetry)) :
    Outcome env driver .verifyOk (driver.dispatch env .verifyOk) := by
  have hSweeps : driver.sweeps env .verifyOk = false := by
    rw [sweeps_ok env driver h, List.any_cons, List.any_cons, any_isTearDown_inert hInert]
    rfl
  rw [dispatch_ok env driver h, List.foldl_cons, List.foldl_cons]
  obtain ⟨hState₁, hSnapshot₁, hKeeps₁⟩ := resetIdle_spec env (driver.moveTo (.opened call now))
  have hKeeps₁ := (keeps_moveTo driver).trans hKeeps₁
  set first := (driver.moveTo (.opened call now)).applyCommand env .resetIdle with hFirst
  obtain ⟨hState₂, hSnapshot₂, -, hDrain⟩ :=
    drainOutbound_spec env first (by rw [hState₁]; rfl)
  obtain ⟨emitted, hFold, hPassed⟩ := foldl_inert env (first.drainOutbound env) hInert
  rw [show applyCommand env first .drainOutbound = first.drainOutbound env from rfl, hFold]
  obtain ⟨hState₃, hSnapshot₃, hKeeps₃, -⟩ :=
    dropWatchdog_spec ((first.drainOutbound env).emit emitted) driver.state.isOpen
  have hKeeps₃ := (keeps_emit _ hPassed).trans hKeeps₃
  have hAfter : (((first.drainOutbound env).emit emitted).dropWatchdog driver.state.isOpen).state =
      .opened call now := hState₃.trans (hState₂.trans hState₁)
  have hSnapshot : (((first.drainOutbound env).emit emitted).dropWatchdog
      driver.state.isOpen).snapshot = .of (.opened call now) :=
    hSnapshot₃.trans (hSnapshot₂.trans hSnapshot₁)
  rcases hDrain with ⟨crypto, channel, hCrypto, hChannel, -, -, hPending, hSent⟩ |
    ⟨hMissing, hKeeps₂⟩
  · rw [hKeeps₁.crypto] at hCrypto
    rw [hKeeps₁.channel] at hChannel
    refine .drained hSweeps ?_ crypto hCrypto ?_ ?_ (hKeeps₃.pendingOutbound.trans hPending) ?_
    · simp only [drains, hState, hCrypto, hChannel, Option.isSome_some, Bool.and_self]
    · rw [hAfter]
      rfl
    · rw [hSnapshot, hAfter]
    · rw [hKeeps₃.sent, hSent, hKeeps₁.sent, hKeeps₁.pendingOutbound]
  · rw [hKeeps₁.crypto, hKeeps₁.channel] at hMissing
    have hDrains : driver.drains .verifyOk = false := by
      rcases hMissing with hMissing | hMissing <;> simp [drains, hState, hMissing]
    exact .keptOpen hSweeps hDrains (hKeeps₁.trans (hKeeps₂.trans hKeeps₃)) hAfter hSnapshot

theorem teardownForTurnRefresh_spec (opened : DriverTask) (reason : String) :
    let after := opened.teardownForTurnRefresh reason
    after.HoldsNothing ∧ after.state = .idle ∧ after.snapshot = .of .idle ∧
    passed after.effects = passed opened.effects := by
  obtain ⟨hNothing, -, -, hSent⟩ := tearDown_spec opened reason
  refine ⟨hNothing, rfl, rfl, ?_⟩
  rw [← hSent]
  simp [teardownForTurnRefresh, emitTelemetry, emit, updateSnapshot, passed]

/-- In `Open` new ICE servers are taken over, or the call is given up. -/
theorem handleConfigureIceServers_cases (opened : DriverTask) (servers : List IceServer)
    (hOpen : opened.state.isOpen = true) :
    ((opened.channel.isSome && !(env.restartIce servers).isOk) = false ∧
      opened.handleConfigureIceServers env servers = opened) ∨
    ((opened.channel.isSome && !(env.restartIce servers).isOk) = true ∧
      ∃ reason, opened.handleConfigureIceServers env servers =
        opened.teardownForTurnRefresh reason) := by
  unfold handleConfigureIceServers
  rw [if_pos hOpen]
  cases opened.channel with
  | none => exact .inl ⟨rfl, rfl⟩
  | some channel =>
      cases env.restartIce servers with
      | ok sdp => exact .inl ⟨rfl, rfl⟩
      | error failure =>
          refine .inr ⟨rfl, ?_⟩
          cases failure <;> exact ⟨_, rfl⟩

/-- A TURN refresh in `Open` keeps the call or gives it up, depending on the
backend's answer. -/
theorem outcome_refreshed {call : String} {lastIo : Instant} {servers : List IceServer}
    (hState : driver.state = .opened call lastIo)
    (h : transition env.clock driver.state (.turnRefreshed servers) =
      .ok (.opened call lastIo) [.configureIceServers servers]) :
    Outcome env driver (.turnRefreshed servers) (driver.dispatch env (.turnRefreshed servers)) := by
  have hSweeps : driver.sweeps env (.turnRefreshed servers) =
      (driver.channel.isSome && !(env.restartIce servers).isOk) := by
    rw [sweeps_ok env driver h, refreshFails, hState]
    rfl
  rw [dispatch_ok env driver h, List.foldl_cons, List.foldl_nil]
  change Outcome env driver _
    (((driver.moveTo (.opened call lastIo)).handleConfigureIceServers env servers).dropWatchdog _)
  rcases handleConfigureIceServers_cases env (driver.moveTo (.opened call lastIo)) servers rfl with
    ⟨hQuiet, hSame⟩ | ⟨hLoud, reason, hTear⟩
  · rw [hSame]
    obtain ⟨hAfter, hSnapshot, hKeeps, -⟩ :=
      dropWatchdog_spec (driver.moveTo (.opened call lastIo)) driver.state.isOpen
    exact .keptOpen (hSweeps.trans hQuiet) (drains_eq_false driver (by simp))
      ((keeps_moveTo driver).trans hKeeps) hAfter hSnapshot
  · rw [hTear]
    obtain ⟨hNothing, hIdle, hIdleSnapshot, hSent⟩ :=
      teardownForTurnRefresh_spec (driver.moveTo (.opened call lastIo)) reason
    obtain ⟨hAfter, hSnapshot, hKeeps, -⟩ := dropWatchdog_spec
      ((driver.moveTo (.opened call lastIo)).teardownForTurnRefresh reason) driver.state.isOpen
    refine .swept (hSweeps.trans hLoud) (hNothing.dropWatchdog _) ?_ (hKeeps.sent.trans hSent)
    rw [hSnapshot, hAfter, hIdleSnapshot, hIdle]

/-- Outside `Open` new ICE servers wait for the next call. -/
theorem outcome_turnReady {since : Instant} {servers : List IceServer} {commands : List Command}
    (hState : driver.state = .fetchingTurn since) (hOpen : next.isOpen = false)
    (hEnded : next.isEnded = false) (hInert : commands.all Command.isInert = true)
    (h : transition env.clock driver.state (.turnRefreshed servers) =
      .ok next (.configureIceServers servers :: commands)) :
    Outcome env driver (.turnRefreshed servers) (driver.dispatch env (.turnRefreshed servers)) := by
  have hSweeps : driver.sweeps env (.turnRefreshed servers) = false := by
    rw [sweeps_ok env driver h, List.any_cons, any_isTearDown_inert hInert, refreshFails, hState]
    rfl
  have hIgnored : applyCommand env (driver.moveTo next) (.configureIceServers servers) =
      driver.moveTo next := by
    have hClosed : ¬ (driver.moveTo next).state.isOpen = true := by
      change ¬ next.isOpen = true
      simp [hOpen]
    change handleConfigureIceServers env (driver.moveTo next) servers = _
    rw [handleConfigureIceServers, if_neg hClosed]
  rw [dispatch_ok env driver h, List.foldl_cons, hIgnored]
  obtain ⟨hAfter, hSnapshot, hKeeps, hWatchdog⟩ := moveTo_inert env driver next hInert
  refine .kept hSweeps (drains_eq_false driver (by simp)) hKeeps ?_ ?_ ?_
  · rw [hSnapshot, hAfter]
  · intro _
    rw [hWatchdog, hState]
    rfl
  · rw [hAfter, hEnded]
    nofun

end Dispatch

/-- The specification of `dispatch` that the invariants are derived from. -/
theorem dispatch_outcome (env : Env) (driver : DriverTask) (event : Event) :
    Outcome env driver event (driver.dispatch env event) := by
  have hRow := transition_row env.clock driver.state event
  generalize hState : driver.state = state at hRow
  generalize hResult : transition env.clock state event = result at hRow
  rw [← hState] at hResult
  cases hRow with
  | illegal _ _ note =>
      have hNone : (transition env.clock driver.state event).commands = [] := by rw [hResult]; rfl
      have hRefresh : driver.refreshFails env event = false :=
        refreshFails_eq_false_of_commands env driver (by simp [hNone])
      have hSame : driver.dispatch env event = driver := by simp only [dispatch, hResult]
      rw [hSame]
      refine .unchanged ?_ (drains_eq_false_of_commands env driver (by simp [hNone])) ?_
      · rw [sweeps, hNone, hRefresh]
        rfl
      · apply Bool.eq_false_iff.mpr
        intro hBehind
        obtain ⟨_, _, hOk, -⟩ := transition_leavesBehind env.clock hBehind
        rw [hResult] at hOk
        cases hOk
  | quiet hInert hEnded =>
      have hCommands : (transition env.clock driver.state event).commands.all
          Command.isInert = true := by rw [hResult]; exact hInert
      subst hState
      refine outcome_quiet env driver hResult hInert ?_ ?_ hEnded
      · exact refreshFails_eq_false_of_commands env driver
          fun servers => not_mem_of_inert hCommands rfl
      · exact drains_eq_false_of_commands env driver (not_mem_of_inert hCommands rfl)
  | sweep before reason after hBefore hAfter _ =>
      exact outcome_sweep env driver hResult hBefore hAfter
  | traffic now =>
      apply outcome_traffic env driver hState _ hResult
      apply refreshFails_eq_false_of_commands env driver
      simp [hResult, TransitionResult.commands]
  | verified now hInert => exact outcome_verified env driver hState hInert hResult
  | refreshed servers => exact outcome_refreshed env driver hState hResult
  | turnReady servers hOpen hEnded hInert =>
      exact outcome_turnReady env driver hState hOpen hEnded hInert hResult

/-- If the arm ends the call without a tear-down, there is nothing to tear
down. A watchdog is no obstacle in `Open`: leaving `Open` drops it. -/
def LeavesNothing (driver : DriverTask) (event : Event) : Prop :=
  leavesBehind driver.state event = true →
    driver.channel = none ∧ driver.crypto = none ∧ driver.pendingOutbound = [] ∧
      (driver.state.isOpen = false → driver.idleWatchdog = none)

theorem Keeps.holdsNothing {driver after : DriverTask} (hKeeps : Keeps driver after)
    (hNothing : driver.HoldsNothing) (hWatchdog : after.idleWatchdog = none) :
    after.HoldsNothing := by
  obtain ⟨hChannel, hCrypto, hPending, -⟩ := hNothing
  exact ⟨hKeeps.channel.trans hChannel, hKeeps.crypto.trans hCrypto,
    hKeeps.pendingOutbound.trans hPending, hWatchdog⟩

theorem isOpen_eq_false_of_isEnded {state : P2PState} (h : state.isEnded = true) :
    state.isOpen = false := by
  cases state <;> first | rfl | cases h

theorem currentCall_of_isEnded {state : P2PState} (h : state.isEnded = true) :
    currentCall state = none := by
  cases state <;> first | rfl | cases h

/-- Every arm that ends a call with a tear-down keeps the invariant. -/
theorem inv_dispatch_of_arm (env : Env) {driver : DriverTask} {event : Event} (hInv : driver.Inv)
    (hArm : leavesBehind driver.state event = false) : (driver.dispatch env event).Inv := by
  have hOutcome := dispatch_outcome env driver event
  generalize driver.dispatch env event = after at hOutcome
  cases hOutcome with
  | unchanged => exact hInv
  | kept _ _ hKeeps hSnapshot hWatchdog hEnded =>
      refine ⟨fun hAfter => ?_, hSnapshot⟩
      have hBefore : driver.state.isEnded = true := by
        rcases hEnded hAfter with hBefore | hBehind
        · exact hBefore
        · rw [hArm] at hBehind
          cases hBehind
      have hNothing := hInv.ended hBefore
      apply hKeeps.holdsNothing hNothing
      rw [hWatchdog (isOpen_eq_false_of_isEnded hAfter), isOpen_eq_false_of_isEnded hBefore]
      exact hNothing.2.2.2
  | swept _ hNothing hSnapshot => exact ⟨fun _ => hNothing, hSnapshot⟩
  | drained _ _ _ _ hOpen hSnapshot =>
      refine ⟨fun hEnded => ?_, hSnapshot⟩
      rw [isOpen_eq_false_of_isEnded hEnded] at hOpen
      cases hOpen

/-- An arm without a tear-down keeps the invariant iff nothing was held. -/
theorem inv_dispatch_leavesBehind (env : Env) {driver : DriverTask} {event : Event}
    (hArm : leavesBehind driver.state event = true) :
    (driver.dispatch env event).Inv ↔ driver.LeavesNothing event := by
  obtain ⟨next, commands, hOk, hEnded, hInert⟩ := transition_leavesBehind env.clock hArm
  obtain ⟨hState, hSnapshot, hKeeps, hWatchdog⟩ := moveTo_inert env driver next hInert
  rw [← dispatch_ok env driver hOk] at hState hSnapshot hKeeps hWatchdog
  rw [isOpen_eq_false_of_isEnded hEnded, Bool.not_false, Bool.and_true] at hWatchdog
  constructor
  · intro hInv _
    obtain ⟨hChannel, hCrypto, hPending, hNone⟩ := hInv.ended (by rw [hState, hEnded])
    rw [hKeeps.channel] at hChannel
    rw [hKeeps.crypto] at hCrypto
    rw [hKeeps.pendingOutbound] at hPending
    refine ⟨hChannel, hCrypto, hPending, fun hClosed => ?_⟩
    rwa [hWatchdog, hClosed, if_neg Bool.false_ne_true] at hNone
  · intro hClean
    obtain ⟨hChannel, hCrypto, hPending, hNone⟩ := hClean hArm
    refine ⟨fun _ => ?_, by rw [hSnapshot, hState]⟩
    refine ⟨hKeeps.channel.trans hChannel, hKeeps.crypto.trans hCrypto,
      hKeeps.pendingOutbound.trans hPending, ?_⟩
    rw [hWatchdog]
    split
    · rfl
    next hClosed => exact hNone (Bool.eq_false_iff.mpr hClosed)

theorem inv_dispatch_iff (env : Env) {driver : DriverTask} {event : Event} (hInv : driver.Inv) :
    (driver.dispatch env event).Inv ↔ driver.LeavesNothing event := by
  cases hArm : leavesBehind driver.state event with
  | true => exact inv_dispatch_leavesBehind env hArm
  | false =>
      apply iff_of_true (inv_dispatch_of_arm env hInv hArm)
      intro hBehind
      rw [hArm] at hBehind
      cases hBehind

/-- A live call is given a channel and a session key. -/
def install (driver : DriverTask) (channel : Option Channel) (crypto : Option P2PCrypto) :
    DriverTask :=
  if (currentCall driver.state).isSome then { driver with channel, crypto } else driver

theorem inv_install {driver : DriverTask} (hInv : driver.Inv) (channel : Option Channel)
    (crypto : Option P2PCrypto) : (driver.install channel crypto).Inv := by
  unfold install
  split
  next hCall =>
    refine ⟨fun hEnded => ?_, hInv.snapshot⟩
    rw [currentCall_of_isEnded hEnded] at hCall
    cases hCall
  · exact hInv

theorem onOutbound_open (env : Env) {driver : DriverTask} (request : OutboundRequest)
    (hOpen : driver.state.isOpen = true) :
    let queued := { driver with pendingOutbound := driver.pendingOutbound ++ [request] }
    let after := driver.onOutbound env request
    after.state = driver.state ∧ after.snapshot = driver.snapshot ∧
      Keeps (queued.drainOutbound env) after := by
  obtain ⟨hState, hSnapshot, -⟩ := drainOutbound_spec env
    { driver with pendingOutbound := driver.pendingOutbound ++ [request] } hOpen
  simp only [onOutbound, if_pos hOpen]
  refine ⟨hState, hSnapshot, keeps_emit _ ?_⟩
  cases (drainOutbound env
    { driver with pendingOutbound := driver.pendingOutbound ++ [request] }).idleWatchdog <;> rfl

theorem inv_onOutbound (env : Env) {driver : DriverTask} (hInv : driver.Inv)
    (request : OutboundRequest) : (driver.onOutbound env request).Inv := by
  by_cases hOpen : driver.state.isOpen = true
  · obtain ⟨hState, hSnapshot, -⟩ := onOutbound_open env request hOpen
    refine ⟨fun hEnded => ?_, by rw [hSnapshot, hState, hInv.snapshot]⟩
    rw [hState] at hEnded
    rw [isOpen_eq_false_of_isEnded hEnded] at hOpen
    cases hOpen
  · simp only [onOutbound, if_neg hOpen]
    refine ⟨fun hEnded => ?_, hInv.snapshot⟩
    obtain ⟨hChannel, hCrypto, -, hWatchdog⟩ := hInv.ended hEnded
    exact ⟨hChannel, hCrypto, rfl, hWatchdog⟩

/-- What can happen to a driver between two looks at it. -/
inductive Input where
  | event (env : Env) (event : Event)
  | outbound (env : Env) (request : OutboundRequest)
  | install (channel : Option Channel) (crypto : Option P2PCrypto)

/-- The arms of the driver's loop, in any order. -/
def step (driver : DriverTask) : Input → DriverTask
  | .event env event => driver.dispatch env event
  | .outbound env request => driver.onOutbound env request
  | .install channel crypto => driver.install channel crypto

/-- The condition of `LeavesNothing`, for the inputs that are events. -/
def CleanEnd (driver : DriverTask) : Input → Prop
  | .event _ event => driver.LeavesNothing event
  | .outbound .. | .install .. => True

theorem inv_step_iff (driver : DriverTask) (input : Input) (hInv : driver.Inv) :
    (driver.step input).Inv ↔ driver.CleanEnd input := by
  cases input with
  | event env event => exact inv_dispatch_iff env hInv
  | outbound env request => exact iff_of_true (inv_onOutbound env hInv request) trivial
  | install channel crypto => exact iff_of_true (inv_install hInv channel crypto) trivial

/-- Nothing of an ended call survives a dispatch exactly when the arm tears
down or there is nothing to tear down, and the same along whole runs. -/
theorem ended_holds_nothing_iff (env : Env) (driver : DriverTask) (event : Event)
    (inputs : List Input) (hInv : driver.Inv) :
    ((driver.dispatch env event).Inv ↔ driver.LeavesNothing event) ∧
    (Automaton.Always step Inv driver inputs ↔
      Automaton.Admissible step CleanEnd driver inputs) :=
  ⟨inv_dispatch_iff env hInv, Automaton.always_iff_admissible inv_step_iff hInv⟩

/-- An environment in which everything succeeds. -/
def obligingEnv : Env where
  clock := fun _ => 7
  restartIce := fun _ => .ok ⟨.offer, "v=0"⟩
  encrypt := fun _ _ _ => .ok ⟨"ciphertext", "iv"⟩
  toVec := fun _ => .ok [1, 2, 3]
  send := fun _ _ => .ok ()

/-- A peer invites, the call gets its channel and key and is verified. -/
def openedCall : List Input :=
  [.event obligingEnv (.callEventReceived
      (.invite ⟨"c1", "them", "1", 30000, ⟨"offer", "v=0"⟩, none, none⟩)),
    .install (some ⟨1⟩) (some ⟨[9]⟩), .event obligingEnv (.channelEvent .opened),
    .event obligingEnv .verifyOk]

def workerConfig : P2PTransportConfig where
  ourUserId := "@worker:x"
  ourDeviceId := "W"
  roomId := "!room:x"

/-- The idle timeout of an open call keeps the invariant. -/
theorem idleTick_holds_nothing :
    ((Automaton.run step (spawn workerConfig) openedCall).dispatch obligingEnv .idleTick).Inv ∧
    Automaton.Always step Inv (spawn workerConfig) (openedCall ++ [.event obligingEnv .idleTick]) := by
  have hOpen : (Automaton.run step (spawn workerConfig) openedCall).Inv := by
    refine ⟨fun hEnded => ?_, rfl⟩
    cases hEnded
  have hStep := (ended_holds_nothing_iff obligingEnv _ .idleTick [] hOpen).1
  have hRun := (ended_holds_nothing_iff obligingEnv (spawn workerConfig) .idleTick
    (openedCall ++ [.event obligingEnv .idleTick]) (inv_spawn _)).2
  refine ⟨hStep.mpr fun h => ?_, hRun.mpr ?_⟩
  · cases h
  · refine ⟨fun h => ?_, trivial, fun h => ?_, fun h => ?_, fun h => ?_, trivial⟩
    all_goals cases h

/-- A channel that closes by itself ends the call, and its key is still there
when the next call begins. -/
theorem closed_channel_leaves_key :
    let driver := Automaton.run step (spawn workerConfig) openedCall
    let after := driver.dispatch obligingEnv (.channelEvent (.closed "remote"))
    driver.Inv ∧ driver.state = .opened "c1" 7 ∧ after.state = .idle ∧ ¬ after.Inv ∧
      (after.dispatch obligingEnv (.callEventReceived
        (.invite ⟨"c2", "them", "1", 30000, ⟨"offer", "v=0"⟩, none, none⟩))).crypto =
          some ⟨[9]⟩ := by
  refine ⟨⟨fun hEnded => ?_, rfl⟩, rfl, rfl, fun hInv => ?_, rfl⟩
  · cases hEnded
  · obtain ⟨hChannel, -⟩ := hInv.ended rfl
    cases hChannel

end DriverTask

end Mxdx.P2P
