import Mxdx.P2P.Transport.State
import Mxdx.Foundations.Automaton

/-! Whole runs of the transition table. `Advance` is the lifecycle diagram as a
relation: one rule for each way a single event can change the state. The table
refines it, and what every run must have gone through is read off the rules. -/
namespace Mxdx.P2P

open Transition

namespace TransitionResult

/-- The state the driver keeps: an illegal pair leaves it alone. -/
def nextFrom (state : P2PState) : TransitionResult → P2PState
  | .ok next _ => next
  | .illegal _ => state

/-- What the transition asks for. -/
def commands : TransitionResult → List Command
  | .ok _ commands => commands
  | .illegal _ => []

end TransitionResult

/-- One event together with the clock readings of its transition. -/
structure Stimulus where
  clock : Nat → Instant
  event : Event

namespace P2PState

/-- Fold step of `transition`. -/
def next (state : P2PState) (input : Stimulus) : P2PState :=
  (transition input.clock state input.event).nextFrom state

/-- `Idle` and `Failed`: no call is alive. -/
def isEnded : P2PState → Bool
  | .idle | .failed .. => true
  | _ => false

/-- The call of the five states that carry a current call. -/
def liveCall : P2PState → Option String
  | .inviting callId .. => some callId
  | .answering callId .. => some callId
  | .connecting callId .. => some callId
  | .verifying callId .. => some callId
  | .opened callId _ => some callId
  | _ => none

theorem isEnded_eq_false_of_liveCall {state : P2PState} {call : String}
    (h : state.liveCall = some call) : state.isEnded = false := by
  cases state <;> simp_all [liveCall, isEnded]

end P2PState

/-- Every way in which one event changes the state. -/
inductive Advance : P2PState → Event → P2PState → Prop where
  | stay (state : P2PState) (event : Event) : Advance state event state
  | start {state : P2PState} (hEnded : state.isEnded = true) (peer : String)
      (peerDevice : Option String) (user device room : String) (session : Option String)
      (since : Instant) :
      Advance state (.start peer peerDevice user device room session) (.fetchingTurn since)
  | turnReady {since : Instant} (servers : List IceServer) (started : Instant) :
      Advance (.fetchingTurn since) (.turnRefreshed servers)
        (.inviting "<pending>" started pendingOffer "<pending>" defaultInviteLifetimeMs)
  | invited {state : P2PState} (hNoCall : currentCall state = none) (inv : CallInvite)
      (party : String) :
      Advance state (.callEventReceived (.invite inv)) (.answering inv.callId party inv.partyId)
  | glared {call : String} {started : Instant} {offer : Sdp} {party : String} {lifetime : Nat}
      (inv : CallInvite) :
      Advance (.inviting call started offer party lifetime) (.callEventReceived (.invite inv))
        (.glare call inv.callId .weWin)
  | answered {started : Instant} {offer : Sdp} {lifetime : Nat} (ans : CallAnswer)
      (party : String) (iceStarted : Instant) :
      Advance (.inviting ans.callId started offer party lifetime)
        (.callEventReceived (.answer ans)) (.connecting ans.callId party iceStarted)
  | answererOpen {call party theirs : String} :
      Advance (.answering call party theirs) (.channelEvent .opened)
        (.verifying call party zeroNonce)
  | offererOpen {call party : String} {iceStarted : Instant} :
      Advance (.connecting call party iceStarted) (.channelEvent .opened)
        (.verifying call party zeroNonce)
  | verified {call party : String} {nonce : Nonce} (lastIo : Instant) :
      Advance (.verifying call party nonce) .verifyOk (.opened call lastIo)
  | sent {call : String} {before : Instant} (lastIo : Instant) :
      Advance (.opened call before) .outboundPressure (.opened call lastIo)
  | received {call : String} {before : Instant} (frame : Bytes) (lastIo : Instant) :
      Advance (.opened call before) (.channelEvent (.message frame)) (.opened call lastIo)
  | ended {state : P2PState} {event : Event} {final : P2PState} (h : final.isEnded = true) :
      Advance state event final

section Rows

variable (clock : Nat → Instant) (event : Event)

theorem fromIdle_advance :
    Advance .idle event ((fromIdle clock event).nextFrom .idle) := by
  unfold fromIdle
  split
  · exact .start rfl ..
  · exact .invited rfl ..
  · exact .stay _ _

theorem fromFetchingTurn_advance (since : Instant) :
    Advance (.fetchingTurn since) event
      ((fromFetchingTurn clock since event).nextFrom (.fetchingTurn since)) := by
  unfold fromFetchingTurn
  split
  · exact .turnReady _ _
  · exact .ended rfl
  · exact .invited rfl ..
  all_goals exact .stay _ _

theorem fromInviting_advance (call : String) (started : Instant) (offer : Sdp) (party : String)
    (lifetime : Nat) :
    Advance (.inviting call started offer party lifetime) event
      ((fromInviting clock call started offer party lifetime event).nextFrom
        (.inviting call started offer party lifetime)) := by
  unfold fromInviting
  split
  · split
    · exact .stay _ _
    · rename_i ans hCall
      obtain rfl := not_not.mp hCall
      exact .answered ans _ _
  · exact .glared _
  · exact .ended rfl
  · exact .ended rfl
  all_goals exact .stay _ _

theorem fromAnswering_advance (call party theirs : String) :
    Advance (.answering call party theirs) event
      ((fromAnswering clock call party theirs event).nextFrom (.answering call party theirs)) := by
  unfold fromAnswering
  split
  · exact .answererOpen
  · exact .ended rfl
  · exact .ended rfl
  all_goals exact .stay _ _

theorem fromConnecting_advance (call party : String) (iceStarted : Instant) :
    Advance (.connecting call party iceStarted) event
      ((fromConnecting clock call party iceStarted event).nextFrom
        (.connecting call party iceStarted)) := by
  unfold fromConnecting
  split
  · exact .offererOpen
  · exact .ended rfl
  · exact .ended rfl
  · exact .ended rfl
  all_goals exact .stay _ _

theorem fromVerifying_advance (call party : String) (nonce : Nonce) :
    Advance (.verifying call party nonce) event
      ((fromVerifying clock call party nonce event).nextFrom (.verifying call party nonce)) := by
  unfold fromVerifying
  split
  · exact .verified _
  · exact .ended rfl
  · exact .ended rfl
  · exact .ended rfl
  · exact .ended rfl
  all_goals exact .stay _ _

theorem fromOpen_advance (call : String) (lastIo : Instant) :
    Advance (.opened call lastIo) event
      ((fromOpen clock call lastIo event).nextFrom (.opened call lastIo)) := by
  unfold fromOpen
  split
  · exact .sent _
  · exact .received _ _
  · exact .ended rfl
  · exact .stay _ _
  · exact .ended rfl
  · exact .ended rfl
  · exact .ended rfl
  · exact .ended rfl
  · exact .ended rfl
  all_goals exact .stay _ _

theorem fromFailed_advance (reason : String) (retryAfter : Instant) :
    Advance (.failed reason retryAfter) event
      ((fromFailed clock reason retryAfter event).nextFrom (.failed reason retryAfter)) := by
  unfold fromFailed
  split
  · split
    · exact .ended rfl
    · exact .stay _ _
  · exact .start rfl ..
  · exact .invited rfl ..
  · exact .stay _ _

end Rows

/-- The table refines the lifecycle diagram. -/
theorem next_advance (state : P2PState) (input : Stimulus) :
    Advance state input.event (state.next input) := by
  obtain ⟨clock, event⟩ := input
  unfold P2PState.next transition
  dsimp only
  split
  · exact .ended rfl
  · cases state with
    | idle => exact fromIdle_advance clock _
    | fetchingTurn since => exact fromFetchingTurn_advance clock _ since
    | inviting call started offer party lifetime =>
        exact fromInviting_advance clock _ call started offer party lifetime
    | answering call party theirs => exact fromAnswering_advance clock _ call party theirs
    | glare => exact .stay _ _
    | connecting call party iceStarted => exact fromConnecting_advance clock _ call party iceStarted
    | verifying call party nonce => exact fromVerifying_advance clock _ call party nonce
    | opened call lastIo => exact fromOpen_advance clock _ call lastIo
    | failed reason retryAfter => exact fromFailed_advance clock _ reason retryAfter

/-- What sets up call `call`: its answer while inviting it, or its invite. -/
def SetsUp (call : String) (state : P2PState) : Event → Prop
  | .callEventReceived (.answer ans) =>
      ans.callId = call ∧ ∃ started offer party lifetime,
        state = .inviting call started offer party lifetime
  | .callEventReceived (.invite inv) => inv.callId = call
  | _ => False

/-- Waiting for the data channel of `call`, on either side of it. -/
def AwaitsChannel (call : String) (state : P2PState) : Prop :=
  (∃ party theirs, state = .answering call party theirs) ∨
    ∃ party iceStarted, state = .connecting call party iceStarted

section Entries

variable {call : String} {state : P2PState} {input : Stimulus}

theorem opened_entry (hBefore : ¬ ∃ t, state = .opened call t)
    (hAfter : ∃ t, state.next input = .opened call t) :
    (∃ party nonce, state = .verifying call party nonce) ∧ input.event = .verifyOk := by
  obtain ⟨t, hAfter⟩ := hAfter
  obtain ⟨clock, event⟩ := input
  have hAdvance := next_advance state ⟨clock, event⟩
  rw [hAfter] at hAdvance
  cases hAdvance with
  | stay => exact absurd ⟨t, rfl⟩ hBefore
  | verified => exact ⟨⟨_, _, rfl⟩, rfl⟩
  | sent => exact absurd ⟨_, rfl⟩ hBefore
  | received => exact absurd ⟨_, rfl⟩ hBefore
  | ended h => cases h

theorem verifying_entry (hBefore : ¬ ∃ party nonce, state = .verifying call party nonce)
    (hAfter : ∃ party nonce, state.next input = .verifying call party nonce) :
    AwaitsChannel call state ∧ input.event = .channelEvent .opened := by
  obtain ⟨party, nonce, hAfter⟩ := hAfter
  obtain ⟨clock, event⟩ := input
  have hAdvance := next_advance state ⟨clock, event⟩
  rw [hAfter] at hAdvance
  cases hAdvance with
  | stay => exact absurd ⟨party, nonce, rfl⟩ hBefore
  | answererOpen => exact ⟨.inl ⟨_, _, rfl⟩, rfl⟩
  | offererOpen => exact ⟨.inr ⟨_, _, rfl⟩, rfl⟩
  | ended h => cases h

theorem awaitsChannel_entry (hBefore : ¬ AwaitsChannel call state)
    (hAfter : AwaitsChannel call (state.next input)) : SetsUp call state input.event := by
  obtain ⟨clock, event⟩ := input
  have hAdvance := next_advance state ⟨clock, event⟩
  rcases hAfter with ⟨party, theirs, hAfter⟩ | ⟨party, iceStarted, hAfter⟩
  · rw [hAfter] at hAdvance
    cases hAdvance with
    | stay => exact absurd (.inl ⟨_, _, rfl⟩) hBefore
    | invited => rfl
    | ended h => cases h
  · rw [hAfter] at hAdvance
    cases hAdvance with
    | stay => exact absurd (.inr ⟨_, _, rfl⟩) hBefore
    | answered => exact ⟨rfl, _, _, _, _, rfl⟩
    | ended h => cases h

theorem liveCall_of_awaitsChannel (h : AwaitsChannel call state) :
    state.liveCall = some call := by
  rcases h with ⟨_, _, rfl⟩ | ⟨_, _, rfl⟩ <;> rfl

end Entries

open Automaton in
/-- A run from `Idle` that ends in `Open` has been through the whole handshake
of that call: set-up, channel open and verification, in this order, with the
call stored in every state from the set-up on. The set-up comes after the last
moment the machine was in `Idle` or `Failed`. -/
theorem opened_run_handshake (inputs : List Stimulus) (call : String) (lastIo : Instant)
    (hOpen : run P2PState.next .idle inputs = .opened call lastIo) :
    ∃ pre setUp early channelOpen middle verify late,
      inputs = pre ++ setUp :: (early ++ channelOpen :: (middle ++ verify :: late)) ∧
      SetsUp call (run P2PState.next .idle pre) setUp.event ∧
      channelOpen.event = .channelEvent .opened ∧
      verify.event = .verifyOk ∧
      (∀ seen, seen <+: early ++ channelOpen :: (middle ++ verify :: late) →
        (run P2PState.next .idle (pre ++ setUp :: seen)).liveCall = some call) ∧
      (∀ moment, moment <+: inputs → (run P2PState.next .idle moment).isEnded = true →
        moment.length ≤ pre.length) := by
  obtain ⟨toVerify, verify, late, rfl, hVerify, hLate⟩ :=
    exists_last_entry (fun state => ∃ t, state = P2PState.opened call t)
      (by rintro ⟨t, h⟩; cases h) ⟨lastIo, hOpen⟩
  obtain ⟨hVerifying, hVerifyEvent⟩ := opened_entry hVerify hLate.head
  obtain ⟨toOpen, channelOpen, middle, rfl, hChannel, hMiddle⟩ :=
    exists_last_entry (fun state => ∃ p n, state = P2PState.verifying call p n)
      (by rintro ⟨p, n, h⟩; cases h) hVerifying
  obtain ⟨hAwaits, hOpenEvent⟩ := verifying_entry hChannel hMiddle.head
  obtain ⟨pre, setUp, early, rfl, hSetUp, hEarly⟩ :=
    exists_last_entry (AwaitsChannel call)
      (by rintro (⟨_, _, h⟩ | ⟨_, _, h⟩) <;> cases h) hAwaits
  -- The three stretches carry the same call, so they join into one.
  have hLive : Always P2PState.next (fun state => state.liveCall = some call)
      ((run P2PState.next .idle pre).next setUp)
      (early ++ channelOpen :: (middle ++ verify :: late)) := by
    apply (hEarly.mono fun _ => liveCall_of_awaitsChannel).append
    rw [run_append, run_cons] at hMiddle hLate
    refine (hMiddle.mono ?_).append ?_
    · rintro _ ⟨_, _, rfl⟩
      rfl
    · rw [run_append, run_cons] at hLate
      apply hLate.mono
      rintro _ ⟨_, rfl⟩
      rfl
  rw [always_iff_prefixes] at hLive
  refine ⟨pre, setUp, early, channelOpen, middle, verify, late, by simp,
    awaitsChannel_entry hSetUp hEarly.head, hOpenEvent, hVerifyEvent, ?_, ?_⟩
  · intro seen hSeen
    rw [run_append, run_cons]
    exact hLive seen hSeen
  · intro moment hMoment hEnded
    by_contra hLonger
    obtain ⟨seen, rfl⟩ : pre ++ [setUp] <+: moment := by
      have hInputs : pre ++ [setUp] <+:
          pre ++ setUp :: early ++ channelOpen :: middle ++ verify :: late :=
        ⟨early ++ channelOpen :: (middle ++ verify :: late), by simp⟩
      exact List.prefix_of_prefix_length_le hInputs hMoment (by simp; omega)
    have hSeen : seen <+: early ++ channelOpen :: (middle ++ verify :: late) := by
      have : pre ++ [setUp] ++ seen <+:
          pre ++ [setUp] ++ (early ++ channelOpen :: (middle ++ verify :: late)) := by
        simpa using hMoment
      exact (List.prefix_append_right_inj _).mp this
    have hCall := hLive seen hSeen
    rw [run_append, run_concat] at hEnded
    rw [P2PState.isEnded_eq_false_of_liveCall hCall] at hEnded
    cases hEnded

/-- A call answered from `Idle`: invite, channel open, verification. -/
def answeredCall : List Stimulus :=
  [⟨fun _ => 1, .callEventReceived
      (.invite ⟨"c1", "them", "1", 30000, ⟨"offer", "v=0"⟩, none, none⟩)⟩,
    ⟨fun _ => 2, .channelEvent .opened⟩, ⟨fun _ => 3, .verifyOk⟩]

theorem answeredCall_handshake :
    ∃ pre setUp early channelOpen middle verify late,
      answeredCall = pre ++ setUp :: (early ++ channelOpen :: (middle ++ verify :: late)) ∧
      SetsUp "c1" (Automaton.run P2PState.next .idle pre) setUp.event ∧
      channelOpen.event = .channelEvent .opened ∧ verify.event = .verifyOk := by
  obtain ⟨pre, setUp, early, channelOpen, middle, verify, late, hInputs, hSetUp, hOpen, hVerify, -⟩ :=
    opened_run_handshake answeredCall "c1" 3 rfl
  exact ⟨pre, setUp, early, channelOpen, middle, verify, late, hInputs, hSetUp, hOpen, hVerify⟩

/-! Signals of another call. The table compares call ids for answers only. -/

/-- The call id of the signals that refer to a call already set up. -/
def ParsedCallEvent.signalCall : ParsedCallEvent → Option String
  | .answer e => some e.callId
  | .selectAnswer e => some e.callId
  | .candidates e => some e.callId
  | .hangup e => some e.callId
  | .invite _ | .unknown _ => none

def ParsedCallEvent.isHangup : ParsedCallEvent → Bool
  | .hangup _ => true
  | _ => false

/-- The event is a signal of another call than the one the state carries. -/
def Foreign (state : P2PState) : Event → Prop
  | .callEventReceived signal => ∃ call other,
      state.liveCall = some call ∧ signal.signalCall = some other ∧ other ≠ call
  | _ => False

instance (state : P2PState) (event : Event) : Decidable (Foreign state event) :=
  match event with
  | .callEventReceived signal =>
      match hCall : state.liveCall, hOther : signal.signalCall with
      | some call, some other =>
          decidable_of_iff (other ≠ call) (by simp [Foreign, hCall, hOther])
      | none, _ => isFalse (by simp [Foreign, hCall])
      | some _, none => isFalse (by simp [Foreign, hOther])
  | .start .. | .hangup _ | .turnRefreshed _ | .turnExpired | .channelEvent _
  | .outboundPressure | .idleTick | .inviteTimeout | .iceTimeout | .verifyOk | .verifyFail _
  | .decryptStorm | .retryReady => isFalse id

/-- The signal neither moves the state nor ends the call it meets. -/
def Isolated (state : P2PState) (result : TransitionResult) : Prop :=
  result.nextFrom state = state ∧
    ∀ command ∈ result.commands,
      (∀ reason, command ≠ .tearDownChannel reason) ∧
        ∀ call party reason, command ≠ .sendHangup call party reason

theorem isolated_stay (state : P2PState) : Isolated state (.stay state) :=
  ⟨rfl, by simp [TransitionResult.stay, TransitionResult.commands]⟩

theorem isolated_illegal (state : P2PState) (note : String) : Isolated state (.illegal note) :=
  ⟨rfl, by simp [TransitionResult.commands]⟩

theorem not_isolated_of_isEnded {state next : P2PState} {commands : List Command}
    (hLive : state.isEnded = false) (hNext : next.isEnded = true) :
    ¬ Isolated state (.ok next commands) := by
  rintro ⟨hState, -⟩
  rw [show next = state from hState, hLive] at hNext
  cases hNext

/-- Answers, candidates and selections of another call are ignored. -/
theorem isolated_of_foreign (clock : Nat → Instant) {state : P2PState} {signal : ParsedCallEvent}
    (hForeign : Foreign state (.callEventReceived signal)) (hSignal : signal.isHangup = false) :
    Isolated state (transition clock state (.callEventReceived signal)) := by
  obtain ⟨call, other, hCall, hOther, hNe⟩ := hForeign
  cases signal with
  | invite => cases hOther
  | unknown => cases hOther
  | hangup => cases hSignal
  | answer ans =>
      obtain rfl := Option.some.inj hOther
      cases state with
      | inviting current started offer party lifetime =>
          obtain rfl := Option.some.inj hCall
          simp only [transition, fromInviting, if_pos hNe]
          exact isolated_illegal _ _
      | answering | connecting | verifying | opened => exact isolated_stay _
      | idle | fetchingTurn | glare | failed => cases hCall
  | candidates | selectAnswer =>
      cases state with
      | inviting | answering | connecting | verifying | opened => exact isolated_stay _
      | idle | fetchingTurn | glare | failed => cases hCall

/-- A peer hangup ends whatever call the state carries. -/
theorem not_isolated_hangup (clock : Nat → Instant) {state : P2PState} {call : String}
    (hCall : state.liveCall = some call) (content : CallHangup) :
    ¬ Isolated state (transition clock state (.callEventReceived (.hangup content))) := by
  have hLive := P2PState.isEnded_eq_false_of_liveCall hCall
  cases state with
  | inviting | answering | connecting | verifying | opened =>
      exact not_isolated_of_isEnded hLive rfl
  | idle | fetchingTurn | glare | failed => cases hCall

/-- The inputs of a run without the signals that are foreign when they arrive. -/
def withoutForeign : P2PState → List Stimulus → List Stimulus
  | _, [] => []
  | state, input :: rest =>
      if Foreign state input.event then withoutForeign (state.next input) rest
      else input :: withoutForeign (state.next input) rest

/-- No foreign signal of the run is a hangup. -/
def NoForeignHangup (state : P2PState) (input : Stimulus) : Prop :=
  ∀ signal, input.event = .callEventReceived signal → Foreign state input.event →
    signal.isHangup = false

theorem next_eq_of_foreign {state : P2PState} {input : Stimulus}
    (hForeign : Foreign state input.event) (hGuard : NoForeignHangup state input) :
    state.next input = state := by
  obtain ⟨clock, event⟩ := input
  cases event with
  | callEventReceived signal =>
      exact (isolated_of_foreign clock hForeign (hGuard signal rfl hForeign)).1
  | _ => exact hForeign.elim

theorem run_withoutForeign {start : P2PState} {inputs : List Stimulus}
    (h : Automaton.Admissible P2PState.next NoForeignHangup start inputs) :
    Automaton.run P2PState.next start (withoutForeign start inputs) =
      Automaton.run P2PState.next start inputs := by
  induction inputs generalizing start with
  | nil => rfl
  | cons input rest ih =>
      rw [withoutForeign, Automaton.run_cons]
      by_cases hForeign : Foreign start input.event
      · have hRest := ih h.2
        rw [next_eq_of_foreign hForeign h.1] at hRest
        rw [if_pos hForeign, next_eq_of_foreign hForeign h.1, hRest]
      · rw [if_neg hForeign, Automaton.run_cons, ih h.2]

/-- Call isolation holds for a foreign signal exactly when it is not a
hangup; runs without foreign hangups end as if no foreign signal had come. -/
theorem foreign_isolated_iff (clock : Nat → Instant) (state : P2PState) (signal : ParsedCallEvent)
    (inputs : List Stimulus) :
    (Foreign state (.callEventReceived signal) →
      (Isolated state (transition clock state (.callEventReceived signal)) ↔
        signal.isHangup = false)) ∧
    (Automaton.Admissible P2PState.next NoForeignHangup .idle inputs →
      Automaton.run P2PState.next .idle (withoutForeign .idle inputs) =
        Automaton.run P2PState.next .idle inputs) := by
  refine ⟨fun hForeign => ⟨fun hIsolated => ?_, isolated_of_foreign clock hForeign⟩,
    run_withoutForeign⟩
  cases signal with
  | hangup content =>
      obtain ⟨call, _, hCall, -⟩ := hForeign
      exact absurd hIsolated (not_isolated_hangup clock hCall content)
  | _ => rfl

/-- An answer to an earlier call is ignored, in one step and in a run. -/
theorem stale_answer_ignored :
    let state := P2PState.inviting "new" 0 pendingOffer "p" 30000
    let signal := ParsedCallEvent.answer ⟨"old", "them", "1", ⟨"answer", "v=0"⟩⟩
    Isolated state (transition (fun _ => 5) state (.callEventReceived signal)) ∧
      Automaton.run P2PState.next .idle (withoutForeign .idle
        (answeredCall ++ [⟨fun _ => 4, .callEventReceived signal⟩])) = .opened "c1" 3 := by
  intro state signal
  obtain ⟨hStep, hRun⟩ := foreign_isolated_iff (fun _ => 5) state signal
    (answeredCall ++ [⟨fun _ => 4, .callEventReceived signal⟩])
  refine ⟨(hStep ⟨"new", "old", rfl, rfl, by decide⟩).mpr rfl, ?_⟩
  rw [hRun]
  · rfl
  · refine ⟨fun _ hInvite _ => ?_, fun _ hOpen => ?_, fun _ hVerify => ?_, fun _ hAnswer _ => ?_,
      trivial⟩
    · cases hInvite
      rfl
    · cases hOpen
    · cases hVerify
    · cases hAnswer
      rfl

/-- A hangup of an earlier call, delivered late, fails the new one. -/
theorem stale_hangup_fails_new_call :
    let state := P2PState.inviting "new" 0 pendingOffer "p" 30000
    let signal := ParsedCallEvent.hangup ⟨"old", "them", "1", none⟩
    Foreign state (.callEventReceived signal) ∧
      transition (fun _ => 5) state (.callEventReceived signal) =
        .ok (.failed "peer_hangup" (5 + defaultRetryAfter))
          [.tearDownChannel "peer_hangup", moved "Inviting" "Failed" "peer_hangup"] ∧
      ¬ Isolated state (transition (fun _ => 5) state (.callEventReceived signal)) := by
  refine ⟨⟨"new", "old", rfl, rfl, by decide⟩, rfl, ?_⟩
  exact not_isolated_hangup _ rfl _

end Mxdx.P2P
