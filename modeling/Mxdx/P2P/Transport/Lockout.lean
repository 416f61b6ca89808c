import Mxdx.P2P.Transport.DriverInvariant

/-! Peers that were locked out. The driver is run with every input its loop can
take, and what happened to which peer is written down beside it: a call event
does not say who sent it, so the sender stands in the input. -/
namespace Mxdx.P2P

open Automaton

/-- A peer was locked out, or a call with it was entered. -/
inductive Mark where
  | lockedOut (peer : String)
  | entered (peer : String)
deriving DecidableEq

/-- No call is entered with a peer that was locked out before. -/
def LockoutHolds (marks : List Mark) : Prop :=
  marks.Pairwise fun earlier later => ∀ peer, earlier = .lockedOut peer → later ≠ .entered peer

theorem lockoutHolds_entered_iff (marks : List Mark) (peer : String) :
    LockoutHolds (marks ++ [.entered peer]) ↔
      LockoutHolds marks ∧ .lockedOut peer ∉ marks := by
  rw [LockoutHolds, List.pairwise_append]
  refine and_congr_right fun _ => ?_
  constructor
  · rintro ⟨-, hBefore⟩ hLocked
    exact hBefore _ hLocked _ (List.mem_singleton_self _) peer rfl rfl
  · refine fun hNew => ⟨List.pairwise_singleton .., ?_⟩
    rintro _ hMem _ hLast other rfl hEntered
    rw [List.mem_singleton.mp hLast, Mark.entered.injEq] at hEntered
    exact hNew (hEntered ▸ hMem)

theorem lockoutHolds_lockedOut_iff (marks : List Mark) (peer : String) :
    LockoutHolds (marks ++ [.lockedOut peer]) ↔ LockoutHolds marks := by
  rw [LockoutHolds, List.pairwise_append]
  refine and_iff_left ⟨List.pairwise_singleton .., ?_⟩
  rintro _ _ _ hLast other _ hEntered
  rw [List.mem_singleton.mp hLast] at hEntered
  cases hEntered

/-- Neither a start nor a call event: timers, channel, TURN and verification. -/
def Event.isInternal : Event → Bool
  | .start .. | .callEventReceived _ => false
  | _ => true

/-- The state is one of a call that was not there before. -/
def entersCall (before after : P2PState) : Bool :=
  after != before && !after.isEnded

/-- The states in which the table follows an invite. -/
def takesInvite : P2PState → Bool
  | .idle | .fetchingTurn _ | .inviting .. | .failed .. => true
  | .answering .. | .glare .. | .connecting .. | .verifying .. | .opened .. => false

namespace DriverTask

theorem lockedPeers_drainOutbound (env : Env) (driver : DriverTask) :
    (driver.drainOutbound env).lockedPeers = driver.lockedPeers := by
  unfold drainOutbound
  split
  · split <;> rfl
  · rfl

theorem lockedPeers_handleConfigureIceServers (env : Env) (driver : DriverTask)
    (servers : List IceServer) :
    (driver.handleConfigureIceServers env servers).lockedPeers = driver.lockedPeers := by
  unfold handleConfigureIceServers
  split
  · split
    · rfl
    · split <;> rfl
  · rfl

/-- No command lets a peer in again. -/
theorem lockedPeers_applyCommand (env : Env) (driver : DriverTask) (command : Command) :
    driver.lockedPeers ⊆ (driver.applyCommand env command).lockedPeers := by
  cases command with
  | configureIceServers servers =>
      rw [applyCommand, lockedPeers_handleConfigureIceServers]
      exact List.Subset.refl _
  | resetIdle =>
      unfold applyCommand
      dsimp only
      split
      · split <;> exact List.Subset.refl _
      · exact List.Subset.refl _
  | drainOutbound =>
      rw [applyCommand, lockedPeers_drainOutbound]
      exact List.Subset.refl _
  | lockoutDevice peer => exact fun other hOther => List.mem_insert_of_mem hOther
  | sendInvite | sendAnswer | sendCandidates | sendHangup | sendSelectAnswer | beginFetchTurn
  | startVerifying | tearDownChannel | schedule | emitTelemetry => exact List.Subset.refl _

theorem lockedPeers_foldl (env : Env) (driver : DriverTask) (commands : List Command) :
    driver.lockedPeers ⊆ (commands.foldl (applyCommand env) driver).lockedPeers := by
  induction commands generalizing driver with
  | nil => exact List.Subset.refl _
  | cons command rest ih =>
      exact List.Subset.trans (lockedPeers_applyCommand env driver command) (ih _)

theorem lockedPeers_dropWatchdog (driver : DriverTask) (wasOpen : Bool) :
    (driver.dropWatchdog wasOpen).lockedPeers = driver.lockedPeers := by
  unfold dropWatchdog
  split <;> rfl

theorem lockedPeers_dispatch (env : Env) (driver : DriverTask) (event : Event) :
    driver.lockedPeers ⊆ (driver.dispatch env event).lockedPeers := by
  cases hArm : transition env.clock driver.state event with
  | ok next commands =>
      rw [dispatch_ok env driver hArm, lockedPeers_dropWatchdog]
      exact lockedPeers_foldl env (driver.moveTo next) commands
  | illegal note =>
      simp only [dispatch, hArm]
      exact List.Subset.refl _

theorem lockedPeers_handleControl (env : Env) (driver : DriverTask) (message : ControlMsg) :
    driver.lockedPeers ⊆ (driver.handleControl env message).lockedPeers := by
  unfold handleControl
  split
  · split
    · exact List.Subset.refl _
    · exact lockedPeers_dispatch env driver _
  · exact lockedPeers_dispatch env driver _

theorem lockedPeers_onOutbound (env : Env) (driver : DriverTask) (request : OutboundRequest) :
    (driver.onOutbound env request).lockedPeers = driver.lockedPeers := by
  unfold onOutbound
  dsimp only
  split
  · exact lockedPeers_drainOutbound env _
  · rfl

theorem lockedPeers_bumpVerifyFailure (driver : DriverTask) (peer : String) :
    driver.lockedPeers ⊆ (driver.bumpVerifyFailure peer).1.lockedPeers ∧
      ((driver.bumpVerifyFailure peer).2 = true →
        peer ∈ (driver.bumpVerifyFailure peer).1.lockedPeers) := by
  unfold bumpVerifyFailure
  dsimp only
  split
  · exact ⟨fun other hOther => List.mem_insert_of_mem hOther, fun _ => List.mem_insert_self⟩
  · exact ⟨List.Subset.refl _, fun h => absurd h Bool.false_ne_true⟩

/-- An arm without loud commands leads to its next state. -/
theorem state_dispatch_inert (env : Env) (driver : DriverTask) {event : Event} {next : P2PState}
    {commands : List Command} (h : transition env.clock driver.state event = .ok next commands)
    (hInert : commands.all Command.isInert = true) :
    (driver.dispatch env event).state = next := by
  rw [dispatch_ok env driver h]
  exact (moveTo_inert env driver next hInert).1

/-- An invite enters a call exactly in the states that take one. -/
theorem entersCall_invite (env : Env) (driver : DriverTask) (inv : CallInvite) :
    entersCall driver.state (driver.dispatch env (.callEventReceived (.invite inv))).state =
      takesInvite driver.state := by
  cases hState : driver.state with
  | idle | fetchingTurn | inviting | failed =>
      rw [state_dispatch_inert env driver (by rw [hState]; rfl) rfl]
      rfl
  | answering | glare | connecting | verifying | opened =>
      rw [state_dispatch_inert env driver (by rw [hState]; rfl) rfl]
      simp [entersCall, takesInvite]

end DriverTask

/-- The driver with the peers it has met. -/
structure Session where
  driver : DriverTask
  marks : List Mark

namespace Session

/-- The owner's calls, the peer's events and everything else. -/
inductive Input where
  | control (env : Env) (message : ControlMsg)
  | received (env : Env) (sender : String) (event : ParsedCallEvent)
  | internal (env : Env) (event : {event : Event // event.isInternal = true})
  | outbound (env : Env) (request : OutboundRequest)
  | install (channel : Option Channel) (crypto : Option P2PCrypto)
  | verifyFailed (peer : String)

/-- The driver has met nobody. -/
def spawn (config : P2PTransportConfig) : Session := ⟨.spawn config, []⟩

/-- The driver's own step. -/
def driverAfter (driver : DriverTask) : Input → DriverTask
  | .control env message => driver.handleControl env message
  | .received env _ event => driver.dispatch env (.callEventReceived event)
  | .internal env event => driver.dispatch env event
  | .outbound env request => driver.onOutbound env request
  | .install channel crypto => driver.install channel crypto
  | .verifyFailed peer => (driver.bumpVerifyFailure peer).1

def enteredWith (driver : DriverTask) (input : Input) (peer : String) : List Mark :=
  if entersCall driver.state (driverAfter driver input).state then [.entered peer] else []

/-- What an input does to the peer it is about: a third verify failure locks it out,
a `Start` or an `Invite` may enter a call with it. -/
def marksOf (driver : DriverTask) (input : Input) : List Mark :=
  match input with
  | .verifyFailed peer => if (driver.bumpVerifyFailure peer).2 then [.lockedOut peer] else []
  | .control _ (.start peer _) => enteredWith driver input peer
  | .received _ sender (.invite _) => enteredWith driver input sender
  | _ => []

/-- Whom the driver meets in a step is written down. -/
def step (session : Session) (input : Input) : Session :=
  ⟨driverAfter session.driver input, session.marks ++ marksOf session.driver input⟩

/-- An invite of a locked-out peer comes when the table does not follow one. -/
def InviteIgnored (session : Session) : Input → Prop
  | .received _ sender (.invite _) =>
      .lockedOut sender ∈ session.marks → takesInvite session.driver.state = false
  | _ => True

/-- The driver knows every peer that was locked out. -/
def Guarded (session : Session) : Prop :=
  ∀ peer, .lockedOut peer ∈ session.marks → peer ∈ session.driver.lockedPeers

theorem lockedPeers_driverAfter (driver : DriverTask) (input : Input) :
    driver.lockedPeers ⊆ (driverAfter driver input).lockedPeers := by
  cases input with
  | control env message => exact driver.lockedPeers_handleControl env message
  | received env sender event => exact driver.lockedPeers_dispatch env _
  | internal env event => exact driver.lockedPeers_dispatch env _
  | outbound env request =>
      rw [driverAfter, DriverTask.lockedPeers_onOutbound]
      exact List.Subset.refl _
  | install channel crypto =>
      unfold driverAfter DriverTask.install
      dsimp only
      split <;> exact List.Subset.refl _
  | verifyFailed peer => exact (driver.lockedPeers_bumpVerifyFailure peer).1

/-- Only a verify failure locks a peer out. -/
theorem lockedOut_mem_marksOf {driver : DriverTask} {input : Input} {peer : String}
    (h : .lockedOut peer ∈ marksOf driver input) :
    input = .verifyFailed peer ∧ (driver.bumpVerifyFailure peer).2 = true := by
  unfold marksOf at h
  split at h
  · split at h
    next hLocks =>
      obtain rfl : peer = _ := by simpa using h
      exact ⟨rfl, hLocks⟩
    next => cases h
  · unfold enteredWith at h
    split at h <;> simp at h
  · unfold enteredWith at h
    split at h <;> simp at h
  · cases h

theorem guarded_step (session : Session) (input : Input) (h : session.Guarded) :
    (session.step input).Guarded := by
  intro peer hMem
  rcases List.mem_append.mp hMem with hOld | hNew
  · exact lockedPeers_driverAfter session.driver input (h peer hOld)
  · obtain ⟨rfl, hLocks⟩ := lockedOut_mem_marksOf hNew
    exact (session.driver.lockedPeers_bumpVerifyFailure peer).2 hLocks

/-- A `Start` is refused to a peer that was locked out. -/
theorem lockoutHolds_start {session : Session} (hGuarded : session.Guarded)
    (hHolds : LockoutHolds session.marks) (env : Env) (peer : String) (device : Option String) :
    LockoutHolds (session.step (.control env (.start peer device))).marks := by
  unfold step marksOf enteredWith
  dsimp only
  split
  next hEnters =>
    refine (lockoutHolds_entered_iff ..).mpr ⟨hHolds, fun hLocked => ?_⟩
    have hSame : (driverAfter session.driver (.control env (.start peer device))).state =
        session.driver.state := by
      rw [driverAfter, DriverTask.handleControl, if_pos (hGuarded peer hLocked)]
      rfl
    rw [hSame] at hEnters
    simp [entersCall] at hEnters
  next => rwa [List.append_nil]

theorem lockoutHolds_invite_iff {session : Session} (hHolds : LockoutHolds session.marks)
    (env : Env) (sender : String) (inv : CallInvite) :
    LockoutHolds (session.step (.received env sender (.invite inv))).marks ↔
      session.InviteIgnored (.received env sender (.invite inv)) := by
  unfold step marksOf enteredWith InviteIgnored
  dsimp only
  rw [driverAfter, DriverTask.entersCall_invite]
  cases hTakes : takesInvite session.driver.state with
  | true =>
      rw [if_pos rfl, lockoutHolds_entered_iff]
      simp [hHolds]
  | false =>
      rw [if_neg Bool.false_ne_true, List.append_nil]
      exact iff_of_true hHolds fun _ => rfl

theorem lockoutHolds_step_iff {session : Session} (hGuarded : session.Guarded)
    (hHolds : LockoutHolds session.marks) (input : Input) :
    LockoutHolds (session.step input).marks ↔ session.InviteIgnored input := by
  have hQuiet : LockoutHolds (session.marks ++ []) := by rwa [List.append_nil]
  cases input with
  | control env message =>
      refine iff_of_true ?_ trivial
      cases message with
      | start peer device => exact lockoutHolds_start hGuarded hHolds env peer device
      | hangup reason => exact hQuiet
  | received env sender event =>
      cases event with
      | invite inv => exact lockoutHolds_invite_iff hHolds env sender inv
      | answer | candidates | hangup | selectAnswer | unknown => exact iff_of_true hQuiet trivial
  | internal env event => exact iff_of_true hQuiet trivial
  | outbound env request => exact iff_of_true hQuiet trivial
  | install channel crypto => exact iff_of_true hQuiet trivial
  | verifyFailed peer =>
      refine iff_of_true ?_ trivial
      unfold step marksOf
      dsimp only
      split
      · exact (lockoutHolds_lockedOut_iff ..).mpr hHolds
      · exact hQuiet

/-- Along a run no call is entered with a locked-out peer exactly when every invite of
one comes while a call is being answered, set up or open. -/
theorem lockout_complete_iff (config : P2PTransportConfig) (inputs : List Input) :
    Always step (fun session => LockoutHolds session.marks) (spawn config) inputs ↔
      Admissible step InviteIgnored (spawn config) inputs := by
  have hGuarded : (spawn config).Guarded := fun peer h => absurd h List.not_mem_nil
  have hHolds : LockoutHolds (spawn config).marks := List.Pairwise.nil
  exact always_iff_admissible_under guarded_step
    (fun session input hBefore hMarks => lockoutHolds_step_iff hBefore hMarks input) hGuarded hHolds

/-- Three verify failures, then an invite of the same peer. -/
theorem invite_after_lockout :
    ¬ ∀ (config : P2PTransportConfig) (inputs : List Input),
      Always step (fun session => LockoutHolds session.marks) (spawn config) inputs := by
  intro h
  have hLast := (h ⟨"@u:ex", "DEV", "!r:ex", none, defaultIdleWindow, 256⟩
    [.verifyFailed "@peer:ex", .verifyFailed "@peer:ex", .verifyFailed "@peer:ex",
      .received ⟨fun _ => 0, fun _ => .error .restartIceUnsupported, fun _ _ _ => .error "",
          fun _ => .error "", fun _ _ => .ok ()⟩ "@peer:ex"
        (.invite ⟨"call", "party", "1", 30000, ⟨"offer", "v=0"⟩, none, none⟩)]).last
  have hMarks := (List.pairwise_append.mp hLast).2.2 (.lockedOut "@peer:ex") (by decide)
    (.entered "@peer:ex") (by decide) "@peer:ex" rfl
  exact hMarks rfl

end Session

end Mxdx.P2P
