import Mxdx.P2P.Transport.Lockout

/-! The idle watchdog beside the driver. The watchdog is a task of its own: the driver resets
it through one queue and hears of its tick through another, and time goes by between any two
steps of either. -/
namespace Mxdx.P2P

open Automaton

/-- What the driver takes up next, the tick apart. -/
inductive Arm where
  | control (message : ControlMsg)
  | call (event : ParsedCallEvent)
  | outbound (request : OutboundRequest)
  | internal (event : Event)

/-- How far the driver is in its loop. While it handles an event it has commands to go. -/
inductive Turn where
  | waiting
  | tick
  | taken (arm : Arm)
  | applying (event : Event) (commands : List Command) (wasOpen : Bool)
  | resetting

/-- The task of a watchdog: the resets in its queue, and when its sleep ends, once it sleeps. -/
structure WatchdogTask where
  window : Duration
  resets : Nat
  deadline : Option Instant

/-- The driver and the task of its watchdog, if it runs, with the queue of ticks between them.
Beside them stand the last time a payload went over the open call, and that time with the
time of the tear-down for every call that was torn down as idle. -/
structure IdleSystem where
  driver : DriverTask
  now : Instant
  watchdog : Option WatchdogTask
  ticks : Nat
  turn : Turn
  lastIo : Option Instant
  torn : List (Option Instant × Instant)

namespace WatchdogTask

/-- The depth of the queue of resets; one that finds it full is lost. -/
def controlDepth : Nat := 8

/-- A reset that finds the queue full is lost. -/
def reset (task : WatchdogTask) : WatchdogTask :=
  { task with resets := min (task.resets + 1) controlDepth }

/-- A turn of the task: it takes a reset out of its queue and sleeps anew, or falls asleep if
it has not slept yet. -/
def poll (now : Instant) (task : WatchdogTask) : WatchdogTask :=
  if 0 < task.resets then
    { task with resets := task.resets - 1, deadline := some (now + task.window) }
  else { task with deadline := some (task.deadline.getD (now + task.window)) }

/-- The sleep is over and no reset waits. -/
def isDue (now : Instant) (task : WatchdogTask) : Bool :=
  task.resets = 0 && task.deadline.any (· ≤ now)

/-- What the task makes of something the driver does. -/
def heed (task : Option WatchdogTask) : Effect → Option WatchdogTask
  | .watchdogReset => task.map reset
  | .watchdogShutdown => none
  | _ => task

end WatchdogTask

/-- A payload has come in. -/
def Event.isMessage : Event → Bool
  | .channelEvent (.message _) => true
  | _ => false

namespace IdleSystem

/-- The depth of the queue of ticks. -/
def tickDepth : Nat := 4

/-- The driver waits, without a watchdog. -/
def spawn (config : P2PTransportConfig) (now : Instant) : IdleSystem :=
  ⟨.spawn config, now, none, 0, .waiting, none, []⟩

/-- Time, the watchdog and the arms of the driver. -/
inductive Input where
  | pass (span : Duration)
  | poll
  | fire
  | takeTick
  | take (arm : Arm)
  | proceed (env : Env)
  | install (channel : Option Channel) (crypto : Option P2PCrypto)

/-- What the driver has done on the way from one look at it to the next. -/
def gained (before after : DriverTask) : List Effect := after.effects.drop before.effects.length

/-- The driver has moved on: a watchdog that is new is spawned, one that is there hears of what
was done, and payloads that went out leave their time. -/
def follow (system : IdleSystem) (after : DriverTask) : IdleSystem :=
  let effects := gained system.driver after
  { system with
    driver := after
    watchdog :=
      match system.driver.idleWatchdog, after.idleWatchdog with
      | none, some fresh => some ⟨fresh.window, 0, none⟩
      | _, _ => effects.foldl WatchdogTask.heed system.watchdog
    lastIo := if (passed effects).isEmpty then system.lastIo else some system.now }

/-- The first half of `dispatch`: the cursor moves, the commands are still to come. -/
def dispatch (system : IdleSystem) (event : Event) : IdleSystem :=
  let wasOpen := system.driver.state.isOpen
  match transition (fun _ => system.now) system.driver.state event with
  | .illegal _ => { system with turn := .waiting }
  | .ok next commands =>
      { system with
        driver := system.driver.moveTo next
        turn := .applying event commands wasOpen
        lastIo :=
          if !wasOpen then none else if event.isMessage then some system.now else system.lastIo
        torn :=
          if wasOpen && event = .idleTick then system.torn ++ [(system.lastIo, system.now)]
          else system.torn }

/-- The owner's calls, served between two waits. -/
def handleControl (system : IdleSystem) : ControlMsg → IdleSystem
  | .start peerUserId peerDeviceId =>
      let driver := system.driver
      if peerUserId ∈ driver.lockedPeers then
        { system with
          driver := driver.emitTelemetry (.securityEvent .wrongPeer (some peerUserId))
          turn := .waiting }
      else
        system.dispatch (.start peerUserId peerDeviceId driver.config.ourUserId
          driver.config.ourDeviceId driver.config.roomId driver.config.sessionUuid)
  | .hangup reason => system.dispatch (.hangup reason)

/-- The `outbound_rx` arm up to its reset. -/
def onOutbound (env : Env) (system : IdleSystem) (request : OutboundRequest) : IdleSystem :=
  let driver := system.driver
  let queued := { driver with pendingOutbound := driver.pendingOutbound ++ [request] }
  if queued.state.isOpen then
    { system.follow (queued.drainOutbound env) with turn := .resetting }
  else { system with driver := { queued with pendingOutbound := [] }, turn := .waiting }

/-- The driver goes on with its turn. -/
def proceed (env : Env) (system : IdleSystem) : IdleSystem :=
  match system.turn with
  | .waiting => system
  | .tick => system.dispatch .idleTick
  | .taken (.control message) => system.handleControl message
  | .taken (.call event) => system.dispatch (.callEventReceived event)
  | .taken (.outbound request) => system.onOutbound env request
  | .taken (.internal event) => system.dispatch event
  | .applying event (command :: rest) wasOpen =>
      { system.follow (system.driver.applyCommand env command) with
        turn := .applying event rest wasOpen }
  | .applying _ [] wasOpen =>
      { system.follow (system.driver.dropWatchdog wasOpen) with turn := .waiting }
  | .resetting =>
      let driver := system.driver
      { system.follow (driver.emit (driver.idleWatchdog.toList.map fun _ => .watchdogReset)) with
        turn := .waiting }

/-- Whether the driver is at its select. -/
def isWaiting (system : IdleSystem) : Bool :=
  match system.turn with
  | .waiting => true
  | _ => false

/-- The loop looks at the ticks before anything else; what comes from the channel and the
timers is not among its arms, and may come at any time. -/
def canTake (system : IdleSystem) : Arm → Bool
  | .internal event => event.isInternal && event != .idleTick
  | .control _ | .call _ | .outbound _ => system.ticks = 0

/-- Whether the watchdog has something to say and room to say it. -/
def fires (system : IdleSystem) : Bool :=
  system.watchdog.any (WatchdogTask.isDue system.now) && system.ticks < tickDepth

/-- Time passes, or one of the tasks goes on. -/
def step (system : IdleSystem) : Input → IdleSystem
  | .pass span => { system with now := system.now + span }
  | .poll => { system with watchdog := system.watchdog.map (WatchdogTask.poll system.now) }
  | .fire =>
      if system.fires then { system with watchdog := none, ticks := system.ticks + 1 }
      else system
  | .takeTick =>
      if system.isWaiting && decide (0 < system.ticks) then
        { system with ticks := system.ticks - 1, turn := .tick }
      else system
  | .take arm =>
      if system.isWaiting && system.canTake arm then { system with turn := .taken arm } else system
  | .proceed env => system.proceed env
  | .install channel crypto =>
      if system.isWaiting then { system with driver := system.driver.install channel crypto }
      else system

end IdleSystem

/-- An arm of the loop, done in one step. -/
def DriverTask.serve (env : Env) (driver : DriverTask) : Arm → DriverTask
  | .control message => driver.handleControl env message
  | .call event => driver.dispatch env (.callEventReceived event)
  | .outbound request => driver.onOutbound env request
  | .internal event => driver.dispatch env event

namespace IdleSystem

/-- If nothing comes between, the driver is through with its turn and has come to `driver`. -/
def Completes (env : Env) (system : IdleSystem) (driver : DriverTask) : Prop :=
  ∃ count, (run step system (List.replicate count (.proceed env))).driver = driver ∧
    (run step system (List.replicate count (.proceed env))).turn = .waiting

section Uninterrupted

variable {env : Env} {system : IdleSystem}

theorem completes_self (hTurn : system.turn = .waiting) : system.Completes env system.driver :=
  ⟨0, rfl, hTurn⟩

theorem Completes.of_step {driver : DriverTask}
    (h : (system.step (.proceed env)).Completes env driver) : system.Completes env driver := by
  obtain ⟨count, hDriver, hTurn⟩ := h
  exact ⟨count + 1, hDriver, hTurn⟩

/-- Command by command, the driver comes to where it comes in one step. -/
theorem completes_applying {event : Event} {commands : List Command} {wasOpen : Bool}
    (hTurn : system.turn = .applying event commands wasOpen) :
    system.Completes env
      ((commands.foldl (DriverTask.applyCommand env) system.driver).dropWatchdog wasOpen) := by
  induction commands generalizing system with
  | nil =>
      have hStep : system.step (.proceed env) =
          { system.follow (system.driver.dropWatchdog wasOpen) with turn := .waiting } := by
        simp only [step, proceed, hTurn]
      refine Completes.of_step ?_
      rw [hStep]
      exact completes_self rfl
  | cons command rest ih =>
      have hStep : system.step (.proceed env) =
          { system.follow (system.driver.applyCommand env command) with
            turn := .applying event rest wasOpen } := by
        simp only [step, proceed, hTurn]
      refine Completes.of_step ?_
      rw [hStep]
      exact ih rfl

theorem completes_dispatch (hClock : env.clock = fun _ => system.now) (event : Event) :
    (system.dispatch event).Completes env (system.driver.dispatch env event) := by
  unfold IdleSystem.dispatch DriverTask.dispatch
  rw [hClock]
  dsimp only
  cases hArm : transition (fun _ => system.now) system.driver.state event with
  | illegal note => exact completes_self rfl
  | ok next commands => exact completes_applying rfl

theorem completes_handleControl (hClock : env.clock = fun _ => system.now)
    (message : ControlMsg) :
    (system.handleControl message).Completes env (system.driver.handleControl env message) := by
  cases message with
  | start peerUserId peerDeviceId =>
      unfold IdleSystem.handleControl DriverTask.handleControl
      dsimp only
      split
      · exact completes_self rfl
      · exact completes_dispatch hClock _
  | hangup reason => exact completes_dispatch hClock (.hangup reason)

theorem completes_onOutbound (request : OutboundRequest) :
    (system.onOutbound env request).Completes env (system.driver.onOutbound env request) := by
  unfold IdleSystem.onOutbound DriverTask.onOutbound
  dsimp only
  split
  · exact Completes.of_step (completes_self rfl)
  · exact completes_self rfl

/-- A turn in which nothing comes between is the step of the driver that the rest of the
development is about. -/
theorem completes_take (hClock : env.clock = fun _ => system.now) {arm : Arm}
    (hWaiting : system.isWaiting = true) (hCan : system.canTake arm = true) :
    (system.step (.take arm)).Completes env (system.driver.serve env arm) := by
  have hTaken : system.step (.take arm) = { system with turn := .taken arm } := by
    simp only [step, hWaiting, hCan, Bool.and_self, if_true]
  rw [hTaken]
  refine Completes.of_step ?_
  cases arm with
  | control message => exact completes_handleControl hClock message
  | call event => exact completes_dispatch hClock _
  | outbound request => exact completes_onOutbound request
  | internal event => exact completes_dispatch hClock event

theorem completes_takeTick (hClock : env.clock = fun _ => system.now)
    (hWaiting : system.isWaiting = true) (hTicks : 0 < system.ticks) :
    (system.step .takeTick).Completes env (system.driver.dispatch env .idleTick) := by
  let taken : IdleSystem := { system with ticks := system.ticks - 1, turn := .tick }
  have hTaken : system.step .takeTick = taken := by
    simp only [step, hWaiting, hTicks, decide_true, Bool.and_self, if_true, taken]
  have hNow : env.clock = fun _ => taken.now := hClock
  rw [hTaken]
  exact Completes.of_step (completes_dispatch hNow .idleTick)

end Uninterrupted

end IdleSystem

/-- Commands that at most give a call up. -/
def Command.isCalm : Command → Bool
  | .resetIdle | .drainOutbound | .lockoutDevice _ => false
  | _ => true

/-- The watchdog hears of it. -/
def Effect.isForWatchdog : Effect → Bool
  | .watchdogReset | .watchdogShutdown => true
  | _ => false

namespace IdleSystem

section Following

variable {system : IdleSystem} {after : DriverTask} {effects : List Effect} {env : Env}

@[simp] theorem follow_driver (system : IdleSystem) (after : DriverTask) :
    (system.follow after).driver = after := rfl

@[simp] theorem follow_now (system : IdleSystem) (after : DriverTask) :
    (system.follow after).now = system.now := rfl

@[simp] theorem follow_ticks (system : IdleSystem) (after : DriverTask) :
    (system.follow after).ticks = system.ticks := rfl

@[simp] theorem follow_torn (system : IdleSystem) (after : DriverTask) :
    (system.follow after).torn = system.torn := rfl

theorem gained_of_append (h : after.effects = system.driver.effects ++ effects) :
    gained system.driver after = effects := by
  rw [gained, h, List.drop_left]

theorem lastIo_follow (effects : List Effect)
    (h : after.effects = system.driver.effects ++ effects) :
    (system.follow after).lastIo =
      if (passed effects).isEmpty then system.lastIo else some system.now := by
  rw [follow, gained_of_append h]

/-- No new watchdog is spawned. -/
theorem watchdog_follow (effects : List Effect)
    (h : after.effects = system.driver.effects ++ effects)
    (hHandle : system.driver.idleWatchdog = none → after.idleWatchdog = none) :
    (system.follow after).watchdog = effects.foldl WatchdogTask.heed system.watchdog := by
  rw [follow, gained_of_append h]
  dsimp only
  split
  next fresh hNone hSome => rw [hHandle hNone] at hSome; cases hSome
  · rfl

theorem foldl_heed_eq_self {effects : List Effect} (task : Option WatchdogTask)
    (h : ∀ effect ∈ effects, effect.isForWatchdog = false) :
    effects.foldl WatchdogTask.heed task = task := by
  induction effects with
  | nil => rfl
  | cons effect rest ih =>
      obtain ⟨hFirst, hRest⟩ := List.forall_mem_cons.mp h
      have hHeed : WatchdogTask.heed task effect = task := by
        cases effect <;> first | rfl | cases hFirst
      rw [List.foldl_cons, hHeed, ih hRest]

/-- The driver has moved on with nothing in it that matters to the watchdog. -/
structure Unmoved (system : IdleSystem) (after : DriverTask) : Prop where
  config : after.config = system.driver.config
  state : after.state = system.driver.state
  idleWatchdog : after.idleWatchdog = system.driver.idleWatchdog
  watchdog : (system.follow after).watchdog = system.watchdog
  lastIo : (system.follow after).lastIo = system.lastIo

/-- The driver has given up its watchdog. -/
structure Dropped (system : IdleSystem) (after : DriverTask) : Prop where
  config : after.config = system.driver.config
  idleWatchdog : after.idleWatchdog = none
  watchdog : (system.follow after).watchdog = none
  lastIo : (system.follow after).lastIo = system.lastIo

theorem unmoved_of_effects (effects : List Effect) (hConfig : after.config = system.driver.config)
    (hState : after.state = system.driver.state)
    (hHandle : after.idleWatchdog = system.driver.idleWatchdog)
    (hEffects : after.effects = system.driver.effects ++ effects)
    (hPassed : passed effects = [])
    (hQuiet : ∀ effect ∈ effects, effect.isForWatchdog = false) : system.Unmoved after := by
  refine ⟨hConfig, hState, hHandle, ?_, ?_⟩
  · rw [watchdog_follow _ hEffects fun hNone => hHandle.trans hNone,
      foldl_heed_eq_self _ hQuiet]
  · rw [lastIo_follow _ hEffects, hPassed]
    rfl

theorem unmoved_self (system : IdleSystem) : system.Unmoved system.driver :=
  unmoved_of_effects [] rfl rfl rfl (by simp) rfl (by simp)

theorem unmoved_of_isInert {command : Command} (h : command.isInert = true) :
    system.Unmoved (system.driver.applyCommand env command) := by
  cases command with
  | sendInvite | sendAnswer | sendCandidates | sendHangup | sendSelectAnswer | emitTelemetry =>
      exact unmoved_of_effects [_] rfl rfl rfl rfl rfl (by simp [Effect.isForWatchdog])
  | beginFetchTurn | startVerifying | schedule => exact system.unmoved_self
  | tearDownChannel | configureIceServers | resetIdle | lockoutDevice | drainOutbound => cases h

/-- Where the watchdog is shut down, its task ends. -/
theorem dropped_of_effects (before effects : List Effect)
    (hSystem : system.watchdog.isSome = true → system.driver.idleWatchdog.isSome = true)
    (hConfig : after.config = system.driver.config) (hHandle : after.idleWatchdog = none)
    (hEffects : after.effects = system.driver.effects ++ (before ++
      system.driver.idleWatchdog.toList.map (fun _ => .watchdogShutdown) ++ effects))
    (hBefore : passed before = []) (hPassed : passed effects = [])
    (hBeforeQuiet : ∀ effect ∈ before, effect.isForWatchdog = false)
    (hQuiet : ∀ effect ∈ effects, effect.isForWatchdog = false) : system.Dropped after := by
  refine ⟨hConfig, hHandle, ?_, ?_⟩
  · rw [watchdog_follow _ hEffects fun _ => hHandle, List.foldl_append, List.foldl_append,
      foldl_heed_eq_self _ hBeforeQuiet, foldl_heed_eq_self _ hQuiet]
    cases hOld : system.driver.idleWatchdog with
    | none =>
        rw [hOld] at hSystem
        cases hTask : system.watchdog with
        | none => rfl
        | some task => rw [hTask] at hSystem; cases hSystem rfl
    | some old => rfl
  · have hShutdown : passed (system.driver.idleWatchdog.toList.map fun _ =>
        Effect.watchdogShutdown) = [] := by
      cases system.driver.idleWatchdog <;> rfl
    rw [lastIo_follow _ hEffects, passed_append, passed_append, hBefore, hPassed, hShutdown]
    rfl

theorem dropped_tearDown
    (hSystem : system.watchdog.isSome = true → system.driver.idleWatchdog.isSome = true)
    (reason : String) : system.Dropped (system.driver.tearDown reason) := by
  refine dropped_of_effects (system.driver.channel.toList.map (.channelClose · reason)) []
    hSystem rfl rfl ?_ ?_ ?_ ?_ ?_
  · simp [DriverTask.tearDown]
  · cases system.driver.channel <;> rfl
  · rfl
  · cases system.driver.channel <;> simp [Effect.isForWatchdog]
  · simp

theorem dropped_teardownForTurnRefresh
    (hSystem : system.watchdog.isSome = true → system.driver.idleWatchdog.isSome = true)
    (reason : String) : system.Dropped (system.driver.teardownForTurnRefresh reason) := by
  refine dropped_of_effects (system.driver.channel.toList.map (.channelClose · reason))
    [.telemetry (.fallback reason), .telemetry (.stateTransition "Open" "Idle" reason)]
    hSystem rfl rfl ?_ ?_ ?_ ?_ ?_
  · simp [DriverTask.teardownForTurnRefresh, DriverTask.tearDown, DriverTask.emitTelemetry,
      DriverTask.emit, DriverTask.updateSnapshot]
  · cases system.driver.channel <;> rfl
  · rfl
  · cases system.driver.channel <;> simp [Effect.isForWatchdog]
  · simp [Effect.isForWatchdog]

/-- On an open call, new servers are taken over or the call is given up. -/
theorem unmoved_or_dropped_configure (env : Env)
    (hSystem : system.watchdog.isSome = true → system.driver.idleWatchdog.isSome = true)
    (hOpen : system.driver.state.isOpen = true) (servers : List IceServer) :
    system.Unmoved (system.driver.applyCommand env (.configureIceServers servers)) ∨
      system.Dropped (system.driver.applyCommand env (.configureIceServers servers)) ∧
        (system.driver.applyCommand env (.configureIceServers servers)).state = .idle := by
  rw [DriverTask.applyCommand]
  rcases DriverTask.handleConfigureIceServers_cases env system.driver servers hOpen with
    ⟨-, hSame⟩ | ⟨-, reason, hTear⟩
  · rw [hSame]
    exact .inl system.unmoved_self
  · rw [hTear]
    exact .inr ⟨dropped_teardownForTurnRefresh hSystem reason, rfl⟩

/-- Off an open call, calm commands leave the state alone. -/
theorem unmoved_or_dropped_of_isCalm (env : Env) {command : Command}
    (h : command.isCalm = true)
    (hSystem : system.watchdog.isSome = true → system.driver.idleWatchdog.isSome = true)
    (hOpen : system.driver.state.isOpen = false) :
    (system.driver.applyCommand env command).state = system.driver.state ∧
      (system.Unmoved (system.driver.applyCommand env command) ∨
        system.Dropped (system.driver.applyCommand env command)) := by
  cases command with
  | tearDownChannel reason => exact ⟨rfl, .inr (dropped_tearDown hSystem reason)⟩
  | configureIceServers servers =>
      have hSame : system.driver.applyCommand env (.configureIceServers servers) =
          system.driver := by
        rw [DriverTask.applyCommand, DriverTask.handleConfigureIceServers, hOpen]
        rfl
      rw [hSame]
      exact ⟨rfl, .inl system.unmoved_self⟩
  | resetIdle | drainOutbound | lockoutDevice => cases h
  | sendInvite | sendAnswer | sendCandidates | sendHangup | sendSelectAnswer | beginFetchTurn
  | startVerifying | schedule | emitTelemetry =>
      exact ⟨rfl, .inl (unmoved_of_isInert rfl)⟩

theorem unmoved_or_dropped_dropWatchdog
    (hSystem : system.watchdog.isSome = true → system.driver.idleWatchdog.isSome = true)
    (wasOpen : Bool) :
    (system.driver.dropWatchdog wasOpen).state = system.driver.state ∧
      if wasOpen && !system.driver.state.isOpen then
        system.Dropped (system.driver.dropWatchdog wasOpen)
      else system.Unmoved (system.driver.dropWatchdog wasOpen) := by
  unfold DriverTask.dropWatchdog
  split
  · refine ⟨rfl, dropped_of_effects [] [] hSystem rfl rfl ?_ rfl rfl (by simp)
      (by simp)⟩
    simp
  · exact ⟨rfl, system.unmoved_self⟩

/-- A reset reaches the task of the watchdog, if it is still there. -/
theorem follow_reset (system : IdleSystem) :
    (system.follow (system.driver.emit [.watchdogReset])).watchdog =
        system.watchdog.map WatchdogTask.reset ∧
      (system.follow (system.driver.emit [.watchdogReset])).lastIo = system.lastIo :=
  ⟨watchdog_follow [.watchdogReset] rfl id,
    lastIo_follow [.watchdogReset] rfl⟩

/-- A fresh watchdog has not run yet. -/
theorem follow_spawn (hNone : system.driver.idleWatchdog = none) (fresh : IdleWatchdog) :
    (system.follow { system.driver with idleWatchdog := some fresh }).watchdog =
        some ⟨fresh.window, 0, none⟩ ∧
      (system.follow { system.driver with idleWatchdog := some fresh }).lastIo =
        system.lastIo := by
  constructor
  · simp only [follow, hNone]
  · exact lastIo_follow [] (by simp)

end Following

end IdleSystem

namespace DriverTask

theorem not_forWatchdog_encryptLoop (env : Env) (crypto : P2PCrypto) (index : Nat)
    (requests : List OutboundRequest) :
    ∀ effect ∈ (encryptLoop env crypto index requests).2, effect.isForWatchdog = false := by
  induction requests generalizing index with
  | nil => simp [encryptLoop]
  | cons request rest ih =>
      rw [encryptLoop]
      cases hWire : wireOf env crypto index request with
      | ok wire => exact ih (index + 1)
      | error failure =>
          have hFailure : ∀ effect ∈ failure, effect.isForWatchdog = false := by
            unfold wireOf at hWire
            split at hWire
            · cases hWire
              simp [Effect.isForWatchdog]
            · split at hWire <;> cases hWire
              simp
          intro effect hMem
          rcases List.mem_append.mp hMem with hMem | hMem
          · exact hFailure effect hMem
          · exact ih (index + 1) effect hMem

theorem not_forWatchdog_sendLoop (env : Env) (channel : Channel) (index : Nat)
    (wires : List (OutboundRequest × Bytes)) :
    ∀ effect ∈ sendLoop env channel index wires, effect.isForWatchdog = false := by
  induction wires generalizing index with
  | nil => simp [sendLoop]
  | cons pair rest ih =>
      obtain ⟨request, wire⟩ := pair
      intro effect hMem
      rw [sendLoop] at hMem
      rcases List.mem_append.mp hMem with hMem | hMem
      · rcases List.mem_cons.mp hMem with rfl | hMem
        · rfl
        · cases hSend : env.send index wire with
          | ok => rw [hSend] at hMem; cases hMem
          | error failure =>
              rw [hSend] at hMem
              rw [List.mem_singleton.mp hMem]
              rfl
      · exact ih (index + 1) effect hMem

/-- A drain tells the watchdog nothing, and does nothing where nothing is pending. -/
theorem drainOutbound_effects (env : Env) (driver : DriverTask) :
    ∃ effects, (driver.drainOutbound env).effects = driver.effects ++ effects ∧
      (∀ effect ∈ effects, effect.isForWatchdog = false) ∧
        (driver.pendingOutbound = [] → effects = []) ∧
          (driver.drainOutbound env).config = driver.config ∧
            (driver.drainOutbound env).state = driver.state ∧
              (driver.drainOutbound env).idleWatchdog = driver.idleWatchdog := by
  have hStay : ∃ effects, driver.effects = driver.effects ++ effects ∧
      (∀ effect ∈ effects, effect.isForWatchdog = false) ∧
        (driver.pendingOutbound = [] → effects = []) := ⟨[], by simp, by simp, by simp⟩
  unfold drainOutbound
  split
  · split
    next crypto channel hCrypto hChannel =>
      refine ⟨(encryptLoop env crypto 0 driver.pendingOutbound).2 ++
        sendLoop env channel 0 (encryptLoop env crypto 0 driver.pendingOutbound).1, ?_, ?_, ?_,
        rfl, rfl, rfl⟩
      · exact List.append_assoc ..
      · intro effect hMem
        rcases List.mem_append.mp hMem with hMem | hMem
        · exact not_forWatchdog_encryptLoop env crypto 0 _ effect hMem
        · exact not_forWatchdog_sendLoop env channel 0 _ effect hMem
      · intro hNone
        rw [hNone]
        rfl
    · obtain ⟨effects, hSame, hQuiet, hNone⟩ := hStay
      exact ⟨effects, hSame, hQuiet, hNone, rfl, rfl, rfl⟩
  · obtain ⟨effects, hSame, hQuiet, hNone⟩ := hStay
    exact ⟨effects, hSame, hQuiet, hNone, rfl, rfl, rfl⟩

end DriverTask

end Mxdx.P2P
