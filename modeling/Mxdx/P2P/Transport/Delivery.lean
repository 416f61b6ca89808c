import Mathlib.Data.List.Perm.Basic
import Mxdx.P2P.Transport.DriverInvariant

/-! Callers and driver. `try_send` decides from a published snapshot and hands
the payload to a bounded queue; the driver empties the queue on its own time.
A `World` holds both sides, and an input list is one interleaving of them. A
dispatch is one step: it never looks at the queue, and what it publishes while
it runs is what it publishes before or after. -/
namespace Mxdx.P2P

/-- What the caller of the transport hears. -/
inductive SendOutcome where
  | sentP2P
  | fallbackToMatrix
  | channelClosed
deriving DecidableEq, Repr

/-- The callers, the `mpsc` queue and the driver. `callers` have read an open
snapshot and have not reached the queue yet. -/
structure World where
  driver : DriverTask
  running : Bool
  outbound : List OutboundRequest
  callers : List OutboundRequest
  reported : List OutboundRequest
  matrix : List OutboundRequest

namespace World

/-- The driver runs, and nothing waits. -/
def spawn (config : P2PTransportConfig) : World where
  driver := .spawn config
  running := true
  outbound := []
  callers := []
  reported := []
  matrix := []

/-- What the caller does with the outcome: a payload the transport did not take
is posted over Matrix. -/
def settle (world : World) (request : OutboundRequest) : SendOutcome → World
  | .sentP2P => { world with reported := world.reported ++ [request] }
  | .fallbackToMatrix | .channelClosed => { world with matrix := world.matrix ++ [request] }

/-- First half of `try_send`: look at the snapshot. -/
def readSnapshot (world : World) (request : OutboundRequest) : World :=
  if world.driver.snapshot.isOpen then { world with callers := world.callers ++ [request] }
  else world.settle request .fallbackToMatrix

/-- `outbound_tx.try_send`. -/
def offer (world : World) (request : OutboundRequest) : World × SendOutcome :=
  if !world.running then (world, .channelClosed)
  else if world.outbound.length < world.driver.config.outboundQueueDepth then
    ({ world with outbound := world.outbound ++ [request] }, .sentP2P)
  else (world, .fallbackToMatrix)

/-- Second half of `try_send`, by the caller at `index`. -/
def enqueue (world : World) (index : Nat) : World :=
  match world.callers[index]? with
  | none => world
  | some request =>
      let (offered, outcome) := { world with callers := world.callers.eraseIdx index }.offer request
      offered.settle request outcome

/-- The driver takes the next payload out of the queue. -/
def dequeue (env : Env) (world : World) : World :=
  match world.outbound with
  | [] => world
  | request :: rest => { world with driver := world.driver.onOutbound env request, outbound := rest }

/-- The shutdown arm of `run`; the receiver goes away with what is queued. -/
def shutdown (world : World) : World :=
  { world with driver := world.driver.tearDown "shutdown", running := false, outbound := [] }

/-- Steps of the callers and of the driver's loop. -/
inductive Input where
  | readSnapshot (request : OutboundRequest)
  | enqueue (index : Nat)
  | event (env : Env) (event : Event)
  | control (env : Env) (message : ControlMsg)
  | dequeue (env : Env)
  | install (channel : Option Channel) (crypto : Option P2PCrypto)
  | shutdown

/-- A driver that has ended does nothing. -/
def driverStep (world : World) (step : World → World) : World :=
  if world.running then step world else world

/-- The caller's two halves and the driver, in any order. -/
def step (world : World) : Input → World
  | .readSnapshot request => world.readSnapshot request
  | .enqueue index => world.enqueue index
  | .event env event =>
      world.driverStep fun w => { w with driver := w.driver.dispatch env event }
  | .control env message =>
      world.driverStep fun w => { w with driver := w.driver.handleControl env message }
  | .dequeue env => world.driverStep (dequeue env)
  | .install channel crypto =>
      world.driverStep fun w => { w with driver := w.driver.install channel crypto }
  | .shutdown => world.driverStep shutdown

/-- Every payload reported as sent has been passed to the channel or is still
on its way there, in the order of the reports. -/
def Accounted (world : World) : Prop :=
  world.reported =
    passed world.driver.effects ++ world.driver.pendingOutbound ++ world.outbound

end World

namespace DriverTask

/-- Encryption and serialisation succeed for every payload of a drain. -/
def Sealable (env : Env) (crypto : P2PCrypto) (requests : List OutboundRequest) : Prop :=
  ∀ index request, requests[index]? = some request →
    ∃ wire, wireOf env crypto index request = .ok wire

theorem encryptLoop_sublist (env : Env) (crypto : P2PCrypto) (start : Nat)
    (requests : List OutboundRequest) :
    ((encryptLoop env crypto start requests).1.map Prod.fst).Sublist requests := by
  induction requests generalizing start with
  | nil => exact .slnil
  | cons request rest ih =>
      rw [encryptLoop]
      cases wireOf env crypto start request with
      | ok wire => exact (ih (start + 1)).cons_cons request
      | error failure => exact (ih (start + 1)).cons request

theorem encryptLoop_eq_iff (env : Env) (crypto : P2PCrypto) (start : Nat)
    (requests : List OutboundRequest) :
    (encryptLoop env crypto start requests).1.map Prod.fst = requests ↔
      ∀ index request, requests[index]? = some request →
        ∃ wire, wireOf env crypto (start + index) request = .ok wire := by
  induction requests generalizing start with
  | nil => simp [encryptLoop]
  | cons request rest ih =>
      rw [encryptLoop]
      cases hWire : wireOf env crypto start request with
      | ok wire =>
          change request :: _ = request :: rest ↔ _
          rw [List.cons_inj_right, ih (start + 1)]
          constructor
          · intro h index other hOther
            cases index with
            | zero =>
                obtain rfl := Option.some.inj hOther
                exact ⟨wire, hWire⟩
            | succ index =>
                rw [show start + (index + 1) = start + 1 + index by omega]
                exact h index other hOther
          · intro h index other hOther
            rw [show start + 1 + index = start + (index + 1) by omega]
            exact h (index + 1) other hOther
      | error failure =>
          refine iff_of_false (fun hEq => ?_) fun h => ?_
          · have hLength := (encryptLoop_sublist env crypto (start + 1) rest).length_le
            have hCons := congrArg List.length hEq
            change ((encryptLoop env crypto (start + 1) rest).1.map Prod.fst).length = _ at hCons
            rw [List.length_cons] at hCons
            omega
          · obtain ⟨wire, hOk⟩ := h 0 request rfl
            rw [Nat.add_zero, hWire] at hOk
            cases hOk

theorem drained_eq_iff (env : Env) (crypto : P2PCrypto) (requests : List OutboundRequest) :
    drained env crypto requests = requests ↔ Sealable env crypto requests := by
  have h := encryptLoop_eq_iff env crypto 0 requests
  simp only [Nat.zero_add] at h
  exact h

/-- The event discards no payload: a tear-down meets an empty buffer, and a
drain can seal what it drains. -/
def KeepsPayloads (env : Env) (driver : DriverTask) (event : Event) : Prop :=
  (driver.sweeps env event = true → driver.pendingOutbound = []) ∧
    (driver.drains event = true → ∀ crypto, driver.crypto = some crypto →
      Sealable env crypto driver.pendingOutbound)

theorem sweeps_eq_false_of_drains (env : Env) {driver : DriverTask} {event : Event}
    (h : driver.drains event = true) : driver.sweeps env event = false := by
  unfold drains at h
  split at h
  next hState =>
    unfold sweeps
    rw [hState]
    rfl
  · cases h

theorem keepsPayloads_of_quiet {env : Env} {driver : DriverTask} {event : Event}
    (hSweeps : driver.sweeps env event = false) (hDrains : driver.drains event = false) :
    driver.KeepsPayloads env event := by
  unfold KeepsPayloads
  rw [hSweeps, hDrains]
  exact ⟨nofun, nofun⟩

/-- `Start` never touches the payloads. -/
theorem keepsPayloads_start (env : Env) (driver : DriverTask) (peer : String)
    (device : Option String) (user ours room : String) (session : Option String) :
    driver.KeepsPayloads env (.start peer device user ours room session) := by
  refine keepsPayloads_of_quiet ?_ (drains_eq_false driver (by simp))
  unfold sweeps
  cases driver.state <;> rfl

end DriverTask

namespace World

/-- The driver's step discards no payload that has been reported as sent. -/
def DriverKeeps (world : World) : Input → Prop
  | .event env event => world.driver.KeepsPayloads env event
  | .control env (.hangup reason) => world.driver.KeepsPayloads env (.hangup reason)
  | .dequeue env => ∀ request rest, world.outbound = request :: rest →
      world.driver.state.isOpen = true ∧
        ∀ crypto channel, world.driver.crypto = some crypto →
          world.driver.channel = some channel →
          DriverTask.Sealable env crypto (world.driver.pendingOutbound ++ [request])
  | .shutdown => world.driver.pendingOutbound = [] ∧ world.outbound = []
  | .readSnapshot _ | .enqueue _ | .control _ (.start ..) | .install .. => True

/-- The same for every step; once the driver is gone nothing is discarded. -/
def Delivers (world : World) (input : Input) : Prop :=
  world.running = true → world.DriverKeeps input

section Steps

variable {world : World} (hAccounted : world.Accounted)
include hAccounted

/-- The driver takes `taken` from the queue and sends `sent`: accounts stay
balanced iff what was waiting is what was sent, followed by what still waits. -/
theorem accounted_iff (after : DriverTask) (taken rest : List OutboundRequest)
    {sent : List OutboundRequest} (hQueue : world.outbound = taken ++ rest)
    (hSent : passed after.effects = passed world.driver.effects ++ sent) :
    { world with driver := after, outbound := rest }.Accounted ↔
      world.driver.pendingOutbound ++ taken = sent ++ after.pendingOutbound := by
  simp only [Accounted] at hAccounted ⊢
  rw [hAccounted, hQueue, hSent]
  simp only [List.append_assoc, List.append_cancel_left_eq]
  simp only [← List.append_assoc, List.append_cancel_right_eq]

theorem accounted_keeps {after : DriverTask} (hKeeps : DriverTask.Keeps world.driver after) :
    { world with driver := after }.Accounted := by
  unfold Accounted
  rw [hKeeps.sent, hKeeps.pendingOutbound]
  exact hAccounted

theorem accounted_dispatch (env : Env) (event : Event) :
    { world with driver := world.driver.dispatch env event }.Accounted ↔
      world.driver.KeepsPayloads env event := by
  have hOutcome := DriverTask.dispatch_outcome env world.driver event
  generalize world.driver.dispatch env event = after at hOutcome
  cases hOutcome with
  | unchanged hSweeps hDrains =>
      exact iff_of_true hAccounted (DriverTask.keepsPayloads_of_quiet hSweeps hDrains)
  | kept hSweeps hDrains hKeeps =>
      exact iff_of_true (accounted_keeps hAccounted hKeeps)
        (DriverTask.keepsPayloads_of_quiet hSweeps hDrains)
  | swept hSweeps hNothing _ hSent =>
      have hNoDrain : world.driver.drains event = false := by
        apply Bool.eq_false_iff.mpr
        intro hDrains
        rw [DriverTask.sweeps_eq_false_of_drains env hDrains] at hSweeps
        cases hSweeps
      obtain ⟨-, -, hPending, -⟩ := hNothing
      have hBalance := accounted_iff hAccounted after [] world.outbound rfl
        (hSent.trans (List.append_nil _).symm)
      rw [List.append_nil, hPending, List.nil_append] at hBalance
      rw [hBalance, DriverTask.KeepsPayloads, hSweeps, hNoDrain]
      simp
  | drained hSweeps hDrains crypto hCrypto _ _ hPending hSent =>
      have hBalance := accounted_iff hAccounted after [] world.outbound rfl hSent
      rw [List.append_nil, hPending, List.append_nil, eq_comm,
        DriverTask.drained_eq_iff] at hBalance
      rw [hBalance, DriverTask.KeepsPayloads, hSweeps, hDrains, hCrypto]
      simp

theorem accounted_control (env : Env) (message : ControlMsg) :
    { world with driver := world.driver.handleControl env message }.Accounted ↔
      world.DriverKeeps (.control env message) := by
  cases message with
  | start peer device =>
      refine iff_of_true ?_ trivial
      simp only [DriverTask.handleControl]
      split
      · exact accounted_keeps hAccounted (DriverTask.keeps_emit _ rfl)
      · exact (accounted_dispatch hAccounted env _).mpr
          (DriverTask.keepsPayloads_start env world.driver ..)
  | hangup reason => exact accounted_dispatch hAccounted env (.hangup reason)

/-- The next payload of the queue survives in `Open` only. -/
theorem accounted_dequeue (env : Env) :
    (world.dequeue env).Accounted ↔ world.DriverKeeps (.dequeue env) := by
  unfold dequeue
  split
  next hEmpty =>
    apply iff_of_true hAccounted
    intro request rest hQueue
    rw [hEmpty] at hQueue
    cases hQueue
  next request rest hQueue =>
    have hDriver : world.DriverKeeps (.dequeue env) ↔ world.driver.state.isOpen = true ∧
        ∀ crypto channel, world.driver.crypto = some crypto →
          world.driver.channel = some channel →
          DriverTask.Sealable env crypto (world.driver.pendingOutbound ++ [request]) := by
      simp [DriverKeeps, hQueue]
    rw [hDriver]
    by_cases hOpen : world.driver.state.isOpen = true
    · obtain ⟨-, -, hKeeps⟩ := DriverTask.onOutbound_open env request hOpen
      obtain ⟨-, -, -, ⟨crypto, channel, hCrypto, hChannel, -, -, hPending, hSent⟩ |
        ⟨hMissing, hWaits⟩⟩ := DriverTask.drainOutbound_spec env
          { world.driver with pendingOutbound := world.driver.pendingOutbound ++ [request] } hOpen
      · rw [accounted_iff hAccounted _ [request] rest hQueue (hKeeps.sent.trans hSent),
          hKeeps.pendingOutbound, hPending, List.append_nil, eq_comm, DriverTask.drained_eq_iff]
        simp only at hCrypto hChannel
        simp [hOpen, hCrypto, hChannel]
      · have hKept := hWaits.trans hKeeps
        rw [accounted_iff hAccounted _ [request] rest hQueue
          (hKept.sent.trans (List.append_nil _).symm), hKept.pendingOutbound]
        refine iff_of_true rfl ⟨hOpen, fun crypto channel hCrypto hChannel => ?_⟩
        simp only [hCrypto, hChannel] at hMissing
        rcases hMissing with hMissing | hMissing <;> cases hMissing
    · have hSent : passed (world.driver.onOutbound env request).effects =
          passed world.driver.effects ++ [] := by
        rw [DriverTask.onOutbound, if_neg hOpen, List.append_nil]
      have hPending : (world.driver.onOutbound env request).pendingOutbound = [] := by
        rw [DriverTask.onOutbound, if_neg hOpen]
      rw [accounted_iff hAccounted _ [request] rest hQueue hSent, hPending]
      simp [hOpen]

theorem accounted_shutdown : world.shutdown.Accounted ↔ world.DriverKeeps .shutdown := by
  obtain ⟨⟨-, -, hPending, -⟩, -, -, hSent⟩ := DriverTask.tearDown_spec world.driver "shutdown"
  have hBalance := accounted_iff hAccounted (world.driver.tearDown "shutdown") world.outbound []
    (List.append_nil _).symm (hSent.trans (List.append_nil _).symm)
  rw [hPending, List.nil_append, List.append_eq_nil_iff] at hBalance
  exact hBalance

theorem accounted_settle {request : OutboundRequest} {outcome : SendOutcome}
    (hOutcome : outcome ≠ .sentP2P) : (world.settle request outcome).Accounted := by
  cases outcome with
  | sentP2P => exact absurd rfl hOutcome
  | fallbackToMatrix | channelClosed => exact hAccounted

theorem accounted_readSnapshot (request : OutboundRequest) :
    (world.readSnapshot request).Accounted := by
  unfold readSnapshot
  split
  · exact hAccounted
  · exact accounted_settle hAccounted nofun

/-- A payload is reported as sent when, and only when, it enters the queue. -/
theorem accounted_enqueue (index : Nat) : (world.enqueue index).Accounted := by
  unfold enqueue
  split
  · exact hAccounted
  next request hCaller =>
    have hErased : { world with callers := world.callers.eraseIdx index }.Accounted := hAccounted
    simp only [offer]
    split
    · exact accounted_settle hErased nofun
    · split
      · simp only [settle, Accounted] at hAccounted ⊢
        rw [hAccounted, List.append_assoc _ _ [request]]
      · exact accounted_settle hErased nofun

theorem accounted_install (channel : Option Channel) (crypto : Option P2PCrypto) :
    { world with driver := world.driver.install channel crypto }.Accounted := by
  unfold DriverTask.install Accounted
  split <;> exact hAccounted

/-- One step balances the accounts exactly when it discards nothing. -/
theorem accounted_step_iff (input : Input) :
    (world.step input).Accounted ↔ world.Delivers input := by
  cases hRunning : world.running with
  | false =>
      have hVacuous : world.Delivers input := by simp [Delivers, hRunning]
      refine iff_of_true ?_ hVacuous
      cases input with
      | readSnapshot request => exact accounted_readSnapshot hAccounted request
      | enqueue index => exact accounted_enqueue hAccounted index
      | event | control | dequeue | install | shutdown =>
          simpa [step, driverStep, hRunning] using hAccounted
  | true =>
      have hDelivers : world.Delivers input ↔ world.DriverKeeps input := by
        simp [Delivers, hRunning]
      rw [hDelivers]
      cases input with
      | readSnapshot request =>
          exact iff_of_true (accounted_readSnapshot hAccounted request) trivial
      | enqueue index => exact iff_of_true (accounted_enqueue hAccounted index) trivial
      | event env event =>
          simp only [step, driverStep, hRunning, if_true]
          exact accounted_dispatch hAccounted env event
      | control env message =>
          simp only [step, driverStep, hRunning, if_true]
          exact accounted_control hAccounted env message
      | dequeue env =>
          simp only [step, driverStep, hRunning, if_true]
          exact accounted_dequeue hAccounted env
      | install channel crypto =>
          simp only [step, driverStep, hRunning, if_true]
          exact iff_of_true (accounted_install hAccounted channel crypto) trivial
      | shutdown =>
          simp only [step, driverStep, hRunning, if_true]
          exact accounted_shutdown hAccounted

end Steps

theorem accounted_spawn (config : P2PTransportConfig) : (spawn config).Accounted := rfl

/-- The payload a caller brings with this input. -/
def Input.submitted : Input → List OutboundRequest
  | .readSnapshot request => [request]
  | .enqueue _ | .event .. | .control .. | .dequeue _ | .install .. | .shutdown => []

/-- The payloads of all callers, by how far their `try_send` got. -/
def answered (world : World) : List OutboundRequest :=
  world.reported ++ world.matrix ++ world.callers

theorem answered_settle (world : World) (request : OutboundRequest) (outcome : SendOutcome) :
    (world.settle request outcome).answered.Perm (request :: world.answered) := by
  cases outcome with
  | sentP2P =>
      simp only [settle, answered, List.append_assoc, List.singleton_append]
      exact List.perm_middle
  | fallbackToMatrix | channelClosed =>
      simp only [settle, answered, List.append_assoc, List.singleton_append]
      rw [← List.append_assoc, ← List.append_assoc]
      exact List.perm_middle

theorem answered_offer (world : World) (request : OutboundRequest) :
    (world.offer request).1.answered = world.answered := by
  unfold offer
  split
  · rfl
  · split <;> rfl

theorem answered_enqueue (world : World) (index : Nat) :
    (world.enqueue index).answered.Perm world.answered := by
  unfold enqueue
  split
  · exact .refl _
  next request hCaller =>
    obtain ⟨hIndex, rfl⟩ := List.getElem?_eq_some_iff.mp hCaller
    have hSettle := answered_settle
      ({ world with callers := world.callers.eraseIdx index }.offer world.callers[index]).1
      world.callers[index]
      ({ world with callers := world.callers.eraseIdx index }.offer world.callers[index]).2
    rw [answered_offer] at hSettle
    apply hSettle.trans
    apply List.perm_middle.symm.trans
    exact (List.getElem_cons_eraseIdx_perm hIndex).append_left _

theorem answered_driverStep {world : World} {step : World → World}
    (hStep : (step world).answered = world.answered) :
    (world.driverStep step).answered = world.answered := by
  unfold driverStep
  split
  · exact hStep
  · rfl

theorem answered_step (world : World) (input : Input) :
    (world.step input).answered.Perm (input.submitted ++ world.answered) := by
  cases input with
  | readSnapshot request =>
      change (world.readSnapshot request).answered.Perm (request :: world.answered)
      unfold readSnapshot
      split
      · rw [answered, ← List.append_assoc]
        exact List.perm_append_singleton request _
      · exact answered_settle world request _
  | enqueue index => exact answered_enqueue world index
  | event | control | install | shutdown =>
      exact .of_eq (answered_driverStep rfl)
  | dequeue env =>
      refine .of_eq (answered_driverStep ?_)
      unfold dequeue
      split <;> rfl

/-- Every payload a caller brings is answered once, whatever the order of steps. -/
theorem answered_run (start : World) (inputs : List Input) :
    (Automaton.run step start inputs).answered.Perm
      (inputs.flatMap Input.submitted ++ start.answered) := by
  induction inputs generalizing start with
  | nil => exact .refl _
  | cons input rest ih =>
      rw [Automaton.run_cons, List.flatMap_cons]
      apply (ih (start.step input)).trans
      apply ((answered_step start input).append_left _).trans
      rw [← List.append_assoc]
      exact List.perm_append_comm.append_right _

/-- In every interleaving of callers and driver, each payload is reported as
sent, routed to Matrix or still with its caller. The reported ones reach the
channel along the run exactly as long as no step of the driver discards one;
when the driver has worked off its queue they have all been passed on. -/
theorem reported_delivered_iff (config : P2PTransportConfig) (inputs : List Input) :
    let world := Automaton.run step (spawn config) inputs
    (world.reported ++ world.matrix ++ world.callers).Perm (inputs.flatMap Input.submitted) ∧
    (Automaton.Always step Accounted (spawn config) inputs ↔
      Automaton.Admissible step Delivers (spawn config) inputs) ∧
    (Automaton.Admissible step Delivers (spawn config) inputs → world.outbound = [] →
      world.driver.pendingOutbound = [] → world.reported = passed world.driver.effects) := by
  have hExact : Automaton.Always step Accounted (spawn config) inputs ↔
      Automaton.Admissible step Delivers (spawn config) inputs :=
    Automaton.always_iff_admissible (fun _ input h => accounted_step_iff h input)
      (accounted_spawn config)
  refine ⟨?_, hExact, fun hAdmissible hQueue hPending => ?_⟩
  · have hPerm := answered_run (spawn config) inputs
    rwa [show (spawn config).answered = [] from rfl, List.append_nil] at hPerm
  · have hLast := (hExact.mpr hAdmissible).last
    rw [Accounted, hQueue, hPending] at hLast
    simpa using hLast

/-- A call with channel and key, open for traffic. -/
def openedCall : List Input :=
  [.event DriverTask.obligingEnv (.callEventReceived
      (.invite ⟨"c1", "them", "1", 30000, ⟨"offer", "v=0"⟩, none, none⟩)),
    .install (some ⟨1⟩) (some ⟨[9]⟩), .event DriverTask.obligingEnv (.channelEvent .opened),
    .event DriverTask.obligingEnv .verifyOk]

/-- Terminal output that a caller wants to send. -/
def output : OutboundRequest := ⟨"org.mxdx.terminal.data", [104, 105]⟩

/-- A payload taken out of the queue in `Open` is passed to the channel. -/
theorem openedCall_delivers :
    let inputs := openedCall ++
      [.readSnapshot output, .enqueue 0, .dequeue DriverTask.obligingEnv]
    (Automaton.run step (spawn DriverTask.workerConfig) inputs).reported = [output] ∧
    Automaton.Always step Accounted (spawn DriverTask.workerConfig) inputs := by
  have hSealable (crypto : P2PCrypto) (requests : List OutboundRequest) :
      DriverTask.Sealable DriverTask.obligingEnv crypto requests := fun _ _ _ => ⟨_, rfl⟩
  refine ⟨rfl, ((reported_delivered_iff DriverTask.workerConfig _).2.1).mpr ?_⟩
  refine ⟨fun _ => DriverTask.keepsPayloads_of_quiet rfl rfl, fun _ => trivial,
    fun _ => DriverTask.keepsPayloads_of_quiet rfl rfl, fun _ => ⟨fun hSweeps => ?_, ?_⟩,
    fun _ => trivial, fun _ => trivial, fun _ request rest _ => ⟨rfl, ?_⟩, trivial⟩
  · cases hSweeps
  · exact fun _ crypto _ => hSealable crypto _
  · exact fun crypto _ _ _ => hSealable crypto _

/-- A hangup between report and dequeue: the payload is dropped, and the caller
was told that it had been sent. -/
theorem hangup_discards_reported :
    let inputs := openedCall ++
      [.readSnapshot output, .enqueue 0, .control DriverTask.obligingEnv (.hangup "done"),
        .dequeue DriverTask.obligingEnv]
    let world := Automaton.run step (spawn DriverTask.workerConfig) inputs
    world.reported = [output] ∧ world.matrix = [] ∧ world.outbound = [] ∧
      world.driver.pendingOutbound = [] ∧ passed world.driver.effects = [] ∧
      ¬ Automaton.Always step Accounted (spawn DriverTask.workerConfig) inputs := by
  refine ⟨rfl, rfl, rfl, rfl, rfl, fun hAlways => ?_⟩
  have hLast := hAlways.last
  cases hLast

end World

end Mxdx.P2P
