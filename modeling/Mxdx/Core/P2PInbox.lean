import Mxdx.Core.P2PTransport

/-! The inbox of the launcher's `P2PTransport` while its status is `p2p`: frames
whose decryption is done, callers of `onRoomEvent`, their timers, and what the
Matrix client answers to the calls that are handed on to it. What was decrypted
and what was returned is kept beside the maps. -/
namespace Mxdx.Core.P2PInbox

open Automaton

/-- `event.type || frame.event_type`, where `event` is the parsed plaintext. What is
no object has no type, and `null` is an error. -/
def eventType (parse : String → Option JsValue) (plaintext : String)
    (frameEventType : Option JsValue) : Option JsValue :=
  match parse plaintext with
  | none | some .null => none
  | some event =>
      if (event.get? "type").any truthy then event.get? "type"
      else frameEventType.filter truthy

/-- The maps, by event type. A waiter is known by its timer, a call that was handed to
the Matrix client by its number. -/
structure Inbox where
  inbox : String → List String
  waiters : String → List Nat
  timers : Nat
  calls : List (Nat × String)
  made : Nat
  decrypted : List (String × String)
  returned : List (String × String)

/-- Frames of the peer, calls of the user, timers and answers of Matrix. -/
inductive Input where
  | decrypted (plaintext : String) (frameEventType : Option JsValue)
  | onRoomEvent (type : String) (timeoutSecs : Option Rat)
  | timerFired (type : String) (timer : Nat)
  | matrixAnswered (call : Nat) (answer : Option String)
  | close

namespace Inbox

/-- Nothing has come and nobody waits. -/
def new : Inbox where
  inbox := fun _ => []
  waiters := fun _ => []
  timers := 0
  calls := []
  made := 0
  decrypted := []
  returned := []

/-- Push the plaintext, then hand the oldest one of its type to the first waiter. -/
def deliver (state : Inbox) (type plaintext : String) : Inbox :=
  let queue := state.inbox type ++ [plaintext]
  let pushed := { state with
    inbox := Function.update state.inbox type queue
    decrypted := state.decrypted ++ [(type, plaintext)] }
  match state.waiters type with
  | [] => pushed
  | _ :: waiting =>
      { pushed with
        inbox := Function.update state.inbox type queue.tail
        waiters := Function.update state.waiters type waiting
        returned := state.returned ++ queue.head?.toList.map (type, ·) }

/-- `#handleEncryptedFrame` after its `await`. Nobody asks for a type that is no text. -/
def handleDecrypted (parse : String → Option JsValue) (state : Inbox) (plaintext : String)
    (frameEventType : Option JsValue) : Inbox :=
  match eventType parse plaintext frameEventType with
  | some (.str type) => state.deliver type plaintext
  | _ => state

/-- Whoever waits for a type waits in line. -/
def waitForInbox (state : Inbox) (type : String) : Inbox :=
  { state with
    waiters := Function.update state.waiters type (state.waiters type ++ [state.timers])
    timers := state.timers + 1 }

/-- The inbox first; then a waiter, or the Matrix client where no time was given. -/
def onRoomEvent (state : Inbox) (type : String) (timeoutSecs : Option Rat) : Inbox :=
  match state.inbox type with
  | value :: rest =>
      { state with
        inbox := Function.update state.inbox type rest
        returned := state.returned ++ [(type, value)] }
  | [] =>
      if timeoutSecs.any (0 < ·) then state.waitForInbox type
      else { state with calls := state.calls ++ [(state.made, type)], made := state.made + 1 }

/-- The waiter gets `null`. -/
def handleTimeout (state : Inbox) (type : String) (timer : Nat) : Inbox :=
  { state with waiters := Function.update state.waiters type ((state.waiters type).erase timer) }

/-- A call that has been answered already does not wait for Matrix. -/
def handleMatrixAnswer (state : Inbox) (call : Nat) (answer : Option String) : Inbox :=
  match state.calls.lookup call with
  | none => state
  | some type =>
      { state with
        calls := state.calls.filter (·.1 ≠ call)
        returned := state.returned ++ answer.toList.map (type, ·) }

/-- Every waiter gets `null`. -/
def clearAllWaiters (state : Inbox) : Inbox := { state with waiters := fun _ => [] }

/-- Frames, calls, timers and answers, in any order. -/
def step (parse : String → Option JsValue) (state : Inbox) : Input → Inbox
  | .decrypted plaintext frameEventType => state.handleDecrypted parse plaintext frameEventType
  | .onRoomEvent type timeoutSecs => state.onRoomEvent type timeoutSecs
  | .timerFired type timer => state.handleTimeout type timer
  | .matrixAnswered call answer => state.handleMatrixAnswer call answer
  | .close => state.clearAllWaiters

end Inbox

/-- The texts of one type, in order. -/
def ofType (history : List (String × String)) (type : String) : List String :=
  history.filterMap fun entry => if entry.1 = type then some entry.2 else none

@[simp] theorem ofType_append (first second : List (String × String)) (type : String) :
    ofType (first ++ second) type = ofType first type ++ ofType second type :=
  List.filterMap_append

@[simp] theorem ofType_nil (type : String) : ofType [] type = [] := rfl

@[simp] theorem ofType_singleton (type other text : String) :
    ofType [(type, text)] other = if type = other then [text] else [] := by
  unfold ofType
  split <;> simp [*]

namespace Inbox

/-- What was returned of a type and what is stored of it make up what was decrypted of
it, and nobody waits for what is stored. -/
def Delivered (state : Inbox) : Prop :=
  ∀ type, ofType state.returned type ++ state.inbox type = ofType state.decrypted type ∧
    (state.waiters type = [] ∨ state.inbox type = [])

/-- The Matrix client has no event for a call that was handed to it. -/
def MatrixSilent (state : Inbox) : Input → Prop
  | .matrixAnswered call (some _) => state.calls.lookup call = none
  | _ => True

variable {parse : String → Option JsValue} {state : Inbox}

theorem delivered_new : new.Delivered := fun _ => ⟨rfl, .inl rfl⟩

theorem Delivered.deliver (h : state.Delivered) (type plaintext : String) :
    (state.deliver type plaintext).Delivered := by
  intro other
  obtain ⟨hTexts, hOne⟩ := h other
  unfold Inbox.deliver
  cases hWaiters : state.waiters type with
  | nil =>
      by_cases hType : type = other
      · subst hType
        simp [hWaiters, ← hTexts, List.append_assoc]
      · simp [Function.update_of_ne (Ne.symm hType), hType, hTexts, hOne]
  | cons waiter waiting =>
      by_cases hType : type = other
      · subst hType
        have hEmpty : state.inbox type = [] := hOne.resolve_left (by simp [hWaiters])
        rw [hEmpty, List.append_nil] at hTexts
        simp [hEmpty, hTexts]
      · simp [Function.update_of_ne (Ne.symm hType), hType, hTexts, hOne]

theorem Delivered.handleDecrypted (h : state.Delivered) (plaintext : String)
    (frameEventType : Option JsValue) :
    (state.handleDecrypted parse plaintext frameEventType).Delivered := by
  unfold Inbox.handleDecrypted
  split
  · exact h.deliver _ _
  · exact h

/-- A stored message is returned in its turn; where none is stored, a caller may wait. -/
theorem Delivered.onRoomEvent (h : state.Delivered) (type : String) (timeoutSecs : Option Rat) :
    (state.onRoomEvent type timeoutSecs).Delivered := by
  intro other
  obtain ⟨hTexts, hOne⟩ := h other
  unfold Inbox.onRoomEvent
  cases hInbox : state.inbox type with
  | cons value rest =>
      by_cases hType : type = other
      · subst hType
        rw [hInbox] at hTexts
        have hNoWaiter : state.waiters type = [] := hOne.resolve_right (by simp [hInbox])
        simp [hNoWaiter, ← hTexts]
      · simp [Function.update_of_ne (Ne.symm hType), hType, hTexts, hOne]
  | nil =>
      dsimp only
      split
      · refine ⟨hTexts, ?_⟩
        by_cases hType : type = other
        · subst hType
          exact .inr hInbox
        · simpa [waitForInbox, Function.update_of_ne (Ne.symm hType)] using hOne
      · exact ⟨hTexts, hOne⟩

theorem Delivered.handleTimeout (h : state.Delivered) (type : String) (timer : Nat) :
    (state.handleTimeout type timer).Delivered := by
  intro other
  obtain ⟨hTexts, hOne⟩ := h other
  refine ⟨hTexts, hOne.imp_left fun hNone => ?_⟩
  unfold Inbox.handleTimeout
  by_cases hType : type = other
  · subst hType
    simp [hNone]
  · simpa [Function.update_of_ne (Ne.symm hType)] using hNone

/-- An event from the Matrix client is one that was not decrypted. -/
theorem delivered_matrixAnswer_iff (h : state.Delivered) (call : Nat) (answer : Option String) :
    (state.handleMatrixAnswer call answer).Delivered ↔
      state.MatrixSilent (.matrixAnswered call answer) := by
  unfold handleMatrixAnswer
  cases hCall : state.calls.lookup call with
  | none =>
      refine iff_of_true h ?_
      cases answer with
      | none => trivial
      | some value => exact hCall
  | some type =>
      cases answer with
      | none =>
          refine iff_of_true (fun other => ?_) trivial
          simpa using h other
      | some value =>
          refine iff_of_false (fun hAfter => ?_) ?_
          · have hBefore := congrArg List.length (h type).1
            have hMore := congrArg List.length (hAfter type).1
            simp at hBefore hMore
            omega
          · rw [MatrixSilent, hCall]
            exact Option.some_ne_none type

theorem delivered_step_iff (h : state.Delivered) (input : Input) :
    (state.step parse input).Delivered ↔ state.MatrixSilent input := by
  cases input with
  | decrypted plaintext frameEventType =>
      exact iff_of_true (h.handleDecrypted plaintext frameEventType) trivial
  | onRoomEvent type timeoutSecs => exact iff_of_true (h.onRoomEvent type timeoutSecs) trivial
  | timerFired type timer => exact iff_of_true (h.handleTimeout type timer) trivial
  | matrixAnswered call answer => exact delivered_matrixAnswer_iff h call answer
  | close => exact iff_of_true (fun type => ⟨(h type).1, .inl rfl⟩) trivial

end Inbox

/-- In every state of a run what was returned of a type and what is stored of it are
what was decrypted of it, and no type has both a waiter and a stored message, exactly when
the Matrix client has no event for the calls that are handed on to it. -/
theorem inbox_delivered_iff (parse : String → Option JsValue) (inputs : List Input) :
    Always (Inbox.step parse) Inbox.Delivered .new inputs ↔
      Admissible (Inbox.step parse) Inbox.MatrixSilent .new inputs :=
  always_iff_admissible (fun _ input h => Inbox.delivered_step_iff h input) Inbox.delivered_new

/-- A caller that does not want to wait gets an event that came over Matrix. -/
theorem matrix_event_returned :
    ¬ ∀ (parse : String → Option JsValue) (inputs : List Input),
      Always (Inbox.step parse) Inbox.Delivered .new inputs := by
  intro h
  have hLast := (h (fun _ => none) [.onRoomEvent "org.mxdx.terminal.data" (some 0),
    .matrixAnswered 0 (some "\x7b\x7d")]).last
  have hTexts := (hLast "org.mxdx.terminal.data").1
  revert hTexts
  decide

end Mxdx.Core.P2PInbox
