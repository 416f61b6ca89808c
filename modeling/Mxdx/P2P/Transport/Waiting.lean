import Mxdx.P2P.Transport.Lifecycle

/-! What a call waits for. The table is run together with the TURN fetches that
were begun and the events that were scheduled, each until it is answered or
delivered; a call is stuck where none of them would move it. -/
namespace Mxdx.P2P

open Automaton Transition

def ScheduledEvent.event : ScheduledEvent → Event
  | .inviteTimeout => .inviteTimeout
  | .iceTimeout => .iceTimeout
  | .retryReady => .retryReady

/-- How a TURN fetch is answered. -/
inductive TurnAnswer where
  | refreshed (servers : List IceServer)
  | expired

def TurnAnswer.event : TurnAnswer → Event
  | .refreshed servers => .turnRefreshed servers
  | .expired => .turnExpired

/-- An event that is to be delivered at `instant`. -/
structure Timer where
  instant : Instant
  event : ScheduledEvent

def Command.timer? : Command → Option Timer
  | .schedule instant event => some ⟨instant, event⟩
  | _ => none

/-- The state with the number of fetches not answered yet and the timers that run. -/
structure TimedState where
  state : P2PState
  fetches : Nat
  timers : List Timer

/-- An event from the caller, the peer, the backend or the driver; the answer of a
fetch; and a timer that fires, at its time or later. -/
inductive TimedInput where
  | event (input : Stimulus)
  | fetched (clock : Nat → Instant) (answer : TurnAnswer)
  | fired (clock : Nat → Instant) (index : Nat)

namespace P2PState

/-- The states in which a call is not up yet. -/
def isWaiting : P2PState → Bool
  | .fetchingTurn _ | .inviting .. | .answering .. | .glare .. | .connecting ..
  | .verifying .. => true
  | _ => false

/-- The event leads to another one of the nine states. -/
def LeavesOn (state : P2PState) (input : Stimulus) : Prop :=
  (state.next input).name ≠ state.name

end P2PState

namespace TimedState

/-- A state machine that waits for nothing. -/
def new : TimedState := ⟨.idle, 0, []⟩

/-- The commands of a transition begin fetches and start timers. -/
def after (timed : TimedState) (result : TransitionResult) : TimedState where
  state := result.nextFrom timed.state
  fetches := timed.fetches + result.commands.countP (· = .beginFetchTurn)
  timers := timed.timers ++ result.commands.filterMap Command.timer?

/-- What is asked for is begun at once. -/
def handle (timed : TimedState) (input : Stimulus) : TimedState :=
  timed.after (transition input.clock timed.state input.event)

/-- Time passes, or something is heard. -/
def step (timed : TimedState) : TimedInput → TimedState
  | .event input => timed.handle input
  | .fetched clock answer =>
      if timed.fetches = 0 then timed
      else { timed with fetches := timed.fetches - 1 }.handle ⟨clock, answer.event⟩
  | .fired clock index =>
      match timed.timers[index]? with
      | some timer =>
          if timer.instant ≤ clock 0 then
            { timed with timers := timed.timers.eraseIdx index }.handle ⟨clock, timer.event.event⟩
          else timed
      | none => timed

/-- Something is pending that leaves the state, whenever and however it comes. -/
def CanLeave (timed : TimedState) : Prop :=
  (0 < timed.fetches ∧ ∀ clock (answer : TurnAnswer), timed.state.LeavesOn ⟨clock, answer.event⟩) ∨
    ∃ timer ∈ timed.timers, ∀ clock, timer.instant ≤ clock 0 →
      timed.state.LeavesOn ⟨clock, timer.event.event⟩

/-- A call that waits does not wait for ever, even if nobody else says anything. -/
def Unstuck (timed : TimedState) : Prop :=
  timed.state.isWaiting = true → timed.CanLeave

/-- The timer has been asked for and has not run out. -/
def Running (timed : TimedState) (event : ScheduledEvent) : Prop :=
  ∃ timer ∈ timed.timers, timer.event = event

/-- The same, spelled out: three of the six waiting states have something of their own
to wait for, the others have nothing. -/
def Armed (timed : TimedState) : Prop :=
  match timed.state with
  | .fetchingTurn _ => 0 < timed.fetches
  | .inviting .. => timed.Running .inviteTimeout
  | .connecting .. => timed.Running .iceTimeout
  | .answering .. | .glare .. | .verifying .. => False
  | .idle | .opened .. | .failed .. => True

/-- An invite that is taken, or a channel that opens: what the table answers with a
state but without a timer. -/
def untimed : P2PState → Event → Bool
  | .idle, .callEventReceived (.invite _) => true
  | .fetchingTurn _, .callEventReceived (.invite _) => true
  | .inviting .., .callEventReceived (.invite _) => true
  | .failed .., .callEventReceived (.invite _) => true
  | .connecting .., .channelEvent .opened => true
  | _, _ => false

def Timed (timed : TimedState) : TimedInput → Prop
  | .event input => untimed timed.state input.event = false
  | .fetched .. | .fired .. => True

section Arming

variable {timed : TimedState} {state : P2PState}

/-- The answer of a fetch moves a call only while it waits for the fetch. -/
theorem leavesOn_fetched_iff (hWaiting : state.isWaiting = true) (clock : Nat → Instant)
    (answer : TurnAnswer) :
    state.LeavesOn ⟨clock, answer.event⟩ ↔ ∃ since, state = .fetchingTurn since := by
  cases state with
  | fetchingTurn since =>
      apply iff_of_true _ ⟨since, rfl⟩
      cases answer with
      | refreshed servers => exact (by decide : "Inviting" ≠ "FetchingTurn")
      | expired => exact (by decide : "Failed" ≠ "FetchingTurn")
  | inviting | answering | glare | connecting | verifying =>
      apply iff_of_false
      · intro hLeaves
        cases answer <;> exact hLeaves rfl
      · rintro ⟨since, hState⟩
        cases hState
  | idle | opened | failed => cases hWaiting

/-- The one scheduled event that a waiting state takes. -/
def awaited : P2PState → Option ScheduledEvent
  | .inviting .. => some .inviteTimeout
  | .connecting .. => some .iceTimeout
  | _ => none

theorem leavesOn_fired_iff (hWaiting : state.isWaiting = true) (clock : Nat → Instant)
    (event : ScheduledEvent) :
    state.LeavesOn ⟨clock, event.event⟩ ↔ awaited state = some event := by
  cases state with
  | inviting | connecting =>
      cases event with
      | inviteTimeout | iceTimeout | retryReady =>
        simp [P2PState.LeavesOn, P2PState.next, transition, fromInviting, fromConnecting,
          ScheduledEvent.event, awaited, TransitionResult.nextFrom,
          TransitionResult.stay, P2PState.name]
  | fetchingTurn | answering | glare | verifying =>
      apply iff_of_false
      · intro hLeaves
        cases event <;> exact hLeaves rfl
      · intro hAwaited
        cases hAwaited
  | idle | opened | failed => cases hWaiting

theorem canLeave_iff (hWaiting : timed.state.isWaiting = true) :
    timed.CanLeave ↔ 0 < timed.fetches ∧ (∃ since, timed.state = .fetchingTurn since) ∨
      ∃ event, awaited timed.state = some event ∧ timed.Running event := by
  apply or_congr
  · apply and_congr_right'
    constructor
    · intro h
      exact (leavesOn_fetched_iff hWaiting (fun _ => 0) .expired).mp (h _ _)
    · intro hFetching clock answer
      exact (leavesOn_fetched_iff hWaiting clock answer).mpr hFetching
  · constructor
    · rintro ⟨timer, hTimer, hLeaves⟩
      have hNow := hLeaves (fun _ => timer.instant) (Nat.le_refl _)
      exact ⟨timer.event, (leavesOn_fired_iff hWaiting _ _).mp hNow, timer, hTimer, rfl⟩
    · rintro ⟨event, hAwaited, timer, hTimer, rfl⟩
      exact ⟨timer, hTimer, fun clock _ => (leavesOn_fired_iff hWaiting clock _).mpr hAwaited⟩

theorem unstuck_iff_armed : timed.Unstuck ↔ timed.Armed := by
  obtain ⟨state, fetches, timers⟩ := timed
  cases state with
  | fetchingTurn | inviting | answering | glare | connecting | verifying =>
      rw [Unstuck, forall_prop_of_true (by rfl), canLeave_iff (by rfl)]
      simp [awaited, Armed]
  | idle | opened | failed => exact iff_of_true (fun hWaiting => by cases hWaiting) trivial

end Arming

section Steps

variable {timed : TimedState}

theorem running_after {event : ScheduledEvent} (h : timed.Running event)
    (result : TransitionResult) : (timed.after result).Running event := by
  obtain ⟨timer, hTimer, hEvent⟩ := h
  exact ⟨timer, List.mem_append_left _ hTimer, hEvent⟩

theorem fetches_after_of_begin {result : TransitionResult}
    (h : .beginFetchTurn ∈ result.commands) : 0 < (timed.after result).fetches := by
  have hCount : 0 < result.commands.countP (· = .beginFetchTurn) :=
    List.countP_pos_iff.mpr ⟨_, h, by simp⟩
  simp only [after]
  omega

/-- A row of the table, in the state it belongs to. -/
def RowArmed (timed : TimedState) (event : Event) (result : TransitionResult) : Prop :=
  (timed.after result).Armed ↔ untimed timed.state event = false

section Rows

variable (clock : Nat → Instant) (event : Event) (fetches : Nat) (timers : List Timer)

theorem fromIdle_armed :
    RowArmed ⟨.idle, fetches, timers⟩ event (fromIdle clock event) := by
  unfold fromIdle
  split
  · exact iff_of_true (fetches_after_of_begin (by simp [TransitionResult.commands])) rfl
  · exact iff_of_false id (by simp [untimed])
  next hInvite =>
    apply iff_of_true trivial
    unfold untimed
    split <;> simp_all

theorem fromFetchingTurn_armed (since : Instant) (h : 0 < fetches) :
    RowArmed ⟨.fetchingTurn since, fetches, timers⟩ event (fromFetchingTurn clock since event) := by
  have hKept : 0 < fetches + 0 := h
  unfold fromFetchingTurn
  split
  · exact iff_of_true ⟨_, List.mem_append_right _ List.mem_cons_self, rfl⟩ rfl
  · exact iff_of_true trivial rfl
  · exact iff_of_false id (by simp [untimed])
  · exact iff_of_true hKept rfl
  · exact iff_of_true hKept rfl
  · exact iff_of_true hKept rfl
  · exact iff_of_true hKept rfl
  · exact iff_of_true hKept rfl
  next hInvite _ _ _ _ _ =>
    apply iff_of_true hKept
    unfold untimed
    split <;> simp_all

theorem fromInviting_armed (call : String) (started : Instant) (offer : Sdp) (party : String)
    (lifetime : Nat)
    (h : Running ⟨.inviting call started offer party lifetime, fetches, timers⟩ .inviteTimeout) :
    RowArmed ⟨.inviting call started offer party lifetime, fetches, timers⟩ event
      (fromInviting clock call started offer party lifetime event) := by
  have hKept := running_after h (.stay (.inviting call started offer party lifetime))
  unfold fromInviting
  split
  · split
    · exact iff_of_true hKept rfl
    · exact iff_of_true ⟨_, List.mem_append_right _ List.mem_cons_self, rfl⟩ rfl
  · exact iff_of_false id (by simp [untimed])
  · exact iff_of_true trivial rfl
  · exact iff_of_true trivial rfl
  · exact iff_of_true hKept rfl
  · exact iff_of_true hKept rfl
  · exact iff_of_true hKept rfl
  · exact iff_of_true hKept rfl
  next hInvite _ _ _ _ _ _ =>
    apply iff_of_true hKept
    unfold untimed
    split <;> simp_all

theorem fromConnecting_armed (call party : String) (iceStarted : Instant)
    (h : Running ⟨.connecting call party iceStarted, fetches, timers⟩ .iceTimeout) :
    RowArmed ⟨.connecting call party iceStarted, fetches, timers⟩ event
      (fromConnecting clock call party iceStarted event) := by
  have hKept := running_after h (.stay (.connecting call party iceStarted))
  unfold fromConnecting
  split
  · exact iff_of_false id (by simp [untimed])
  · exact iff_of_true trivial rfl
  · exact iff_of_true trivial rfl
  · exact iff_of_true trivial rfl
  · exact iff_of_true hKept rfl
  · exact iff_of_true hKept rfl
  · exact iff_of_true hKept rfl
  · exact iff_of_true hKept rfl
  next hOpened _ _ _ _ _ _ _ =>
    apply iff_of_true hKept
    unfold untimed
    split <;> simp_all

theorem fromOpen_armed (call : String) (lastIo : Instant) :
    RowArmed ⟨.opened call lastIo, fetches, timers⟩ event (fromOpen clock call lastIo event) := by
  unfold fromOpen
  split <;> exact iff_of_true trivial rfl

theorem fromFailed_armed (reason : String) (retryAfter : Instant) :
    RowArmed ⟨.failed reason retryAfter, fetches, timers⟩ event
      (fromFailed clock reason retryAfter event) := by
  unfold fromFailed
  split
  · split <;> exact iff_of_true trivial rfl
  · exact iff_of_true (fetches_after_of_begin (by simp [TransitionResult.commands])) rfl
  · exact iff_of_false id (by simp [untimed])
  next hInvite =>
    apply iff_of_true trivial
    unfold untimed
    split <;> simp_all

end Rows

/-- A step from a state with its timer finds or starts the next one, but for the
entries that have none. -/
theorem armed_handle_iff (h : timed.Armed) (input : Stimulus) :
    (timed.handle input).Armed ↔ untimed timed.state input.event = false := by
  obtain ⟨clock, event⟩ := input
  obtain ⟨state, fetches, timers⟩ := timed
  change RowArmed ⟨state, fetches, timers⟩ event (transition clock state event)
  unfold transition
  split
  · exact iff_of_true trivial (by cases state <;> rfl)
  · cases state with
    | idle => exact fromIdle_armed clock _ fetches timers
    | fetchingTurn since => exact fromFetchingTurn_armed clock _ fetches timers since h
    | inviting call started offer party lifetime =>
        exact fromInviting_armed clock _ fetches timers call started offer party lifetime h
    | connecting call party iceStarted =>
        exact fromConnecting_armed clock _ fetches timers call party iceStarted h
    | opened call lastIo => exact fromOpen_armed clock _ fetches timers call lastIo
    | failed reason retryAfter => exact fromFailed_armed clock _ fetches timers reason retryAfter
    | answering | glare | verifying => exact h.elim

/-- What is answered or delivered was waited for, or is not needed. -/
theorem armed_fetched (h : timed.Armed) (clock : Nat → Instant) (answer : TurnAnswer) :
    ({ timed with fetches := timed.fetches - 1 }.handle ⟨clock, answer.event⟩).Armed := by
  obtain ⟨state, fetches, timers⟩ := timed
  cases state with
  | fetchingTurn since =>
      cases answer with
      | refreshed servers => exact ⟨_, List.mem_append_right _ List.mem_cons_self, rfl⟩
      | expired => trivial
  | answering | glare | verifying => exact h.elim
  | inviting | connecting | idle | opened | failed =>
      rw [armed_handle_iff (by exact h)]
      cases answer <;> rfl

/-- A timer that fires does not end the wait for another event. -/
theorem running_eraseIdx {event : ScheduledEvent} {index : Nat} {timer : Timer}
    (hTimer : timed.timers[index]? = some timer) (hOther : timer.event ≠ event)
    (h : timed.Running event) :
    Running { timed with timers := timed.timers.eraseIdx index } event := by
  obtain ⟨other, hMem, hEvent⟩ := h
  obtain ⟨place, hPlace⟩ := List.mem_iff_getElem?.mp hMem
  refine ⟨other, List.mem_eraseIdx_iff_getElem?.mpr ⟨place, ?_, hPlace⟩, hEvent⟩
  rintro rfl
  rw [hPlace] at hTimer
  exact hOther (Option.some.inj hTimer ▸ hEvent)

theorem armed_fired (h : timed.Armed) (clock : Nat → Instant) {index : Nat} {timer : Timer}
    (hTimer : timed.timers[index]? = some timer) :
    ({ timed with timers := timed.timers.eraseIdx index }.handle
      ⟨clock, timer.event.event⟩).Armed := by
  obtain ⟨instant, event⟩ := timer
  obtain ⟨state, fetches, timers⟩ := timed
  cases state with
  | inviting =>
      by_cases hOwn : event = .inviteTimeout
      · subst hOwn
        trivial
      · rw [armed_handle_iff (by exact running_eraseIdx hTimer hOwn h)]
        cases event <;> rfl
  | connecting =>
      by_cases hOwn : event = .iceTimeout
      · subst hOwn
        trivial
      · rw [armed_handle_iff (by exact running_eraseIdx hTimer hOwn h)]
        cases event <;> rfl
  | answering | glare | verifying => exact h.elim
  | fetchingTurn | idle | opened | failed =>
      rw [armed_handle_iff (by exact h)]
      cases event <;> rfl

theorem armed_step_iff (timed : TimedState) (input : TimedInput) (h : timed.Armed) :
    (timed.step input).Armed ↔ timed.Timed input := by
  cases input with
  | event input => exact armed_handle_iff h input
  | fetched clock answer =>
      apply iff_of_true _ trivial
      simp only [step]
      split
      · exact h
      · exact armed_fetched h clock answer
  | fired clock index =>
      apply iff_of_true _ trivial
      simp only [step]
      split
      next timer hTimer =>
        split
        · exact armed_fired h clock hTimer
        · exact h
      · exact h

end Steps

/-- No call gets stuck exactly in the runs that never take an invite and in which no
channel opens: a call that answers, meets another one or is verified has no timer. -/
theorem always_unstuck_iff (inputs : List TimedInput) :
    Always step Unstuck new inputs ↔ Admissible step Timed new inputs := by
  have hArmed : Always step Unstuck new inputs ↔ Always step Armed new inputs :=
    ⟨Always.mono fun _ => unstuck_iff_armed.mp, Always.mono fun _ => unstuck_iff_armed.mpr⟩
  rw [hArmed]
  exact always_iff_admissible armed_step_iff trivial

/-- The input is nothing that the peer or the channel says. -/
def Silent : TimedInput → Prop
  | .event ⟨_, .callEventReceived _⟩ => False
  | .event ⟨_, .channelEvent _⟩ => False
  | _ => True

/-- As long as the peer has never said anything, every wait ends. -/
theorem always_unstuck_of_silent {inputs : List TimedInput} (h : ∀ input ∈ inputs, Silent input) :
    Always step Unstuck new inputs := by
  rw [always_unstuck_iff]
  have hSilent : Admissible step (fun _ => Silent) new inputs := admissible_of_forall h
  apply hSilent.mono_under (fun _ _ (_ : True) _ => trivial) _ trivial
  intro timed input _ hInput
  cases input with
  | event input =>
      obtain ⟨clock, event⟩ := input
      cases event with
      | callEventReceived event => exact hInput.elim
      | channelEvent event => exact hInput.elim
      | _ => cases hState : timed.state <;> simp [Timed, untimed, hState]
  | fetched | fired => trivial

/-- A peer calls and then stays silent. The TURN fetch is answered, and the call goes on
answering with nothing left that would end it. -/
theorem not_always_unstuck :
    let invite : CallInvite := ⟨"c1", "them", "1", 30000, ⟨"offer", "v=0"⟩, none, none⟩
    let inputs : List TimedInput :=
      [.event ⟨fun _ => 1, .callEventReceived (.invite invite)⟩,
        .fetched (fun _ => 2) (.refreshed [])]
    run step new inputs = ⟨.answering "c1" "our-party" "them", 0, []⟩ ∧
      ¬ Always step Unstuck new inputs := by
  intro invite inputs
  refine ⟨rfl, fun hAlways => ?_⟩
  exact unstuck_iff_armed.mp hAlways.last

end TimedState

end Mxdx.P2P
