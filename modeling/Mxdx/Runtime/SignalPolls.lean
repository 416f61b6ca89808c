import Mxdx.Core.RoomEvents
import Mxdx.CoreWasm.Timeline
import Mxdx.Runtime.Attempts
import Mxdx.Runtime.SessionMux

/-! What the polls for signals make of a call that times out. The bindings return the
text `null` then, and the packages wrap their method so that the loops get the value. -/
namespace Mxdx.Runtime

open Automaton
open CoreWasm (timeoutValue)
open Mxdx.Core (JsValue MultiHsClient PollAnswer truthy)

/-- The method that the packages put in the place of the one of the bindings; `none` is
`null`. -/
def onRoomEvent (result : String) : Option String :=
  if result = "null" then none else some result

/-- How an awaited call of `onRoomEvent` ends: with a value or with an exception. -/
inductive Polled where
  | resolved (result : Option String)
  | rejected

/-- What a turn of a loop comes to: another one after a pause, the content of an event
to go on with, or an exception that leaves the loop. -/
inductive Turn where
  | again (pauseMs : Nat)
  | found (content : JsValue)
  | throws

/-- The loops that poll for events, with the call and the party they belong to, or the
interval of the socket. -/
inductive PollingLoop where
  | launcherOffer (callId : String)
  | launcherAnswer (offererCallId : String)
  | launcherCandidates (callId ownPartyId : String)
  | browserOffer (callId : String)
  | browserAnswer (offererCallId : String)
  | browserCandidates (callId ownPartyId : String)
  | sessionMux
  | sessionMuxResize
  | terminalSocket (pollIntervalMs : Nat)
  | webTerminalSocket (pollIntervalMs : Nat)

section Loops

variable (parse : String → Option JsValue)

/-- `event.content || event` of a parsed text. Reading a property of null throws, and
so does a text that does not parse. -/
def readContent (json : String) : Option JsValue :=
  match parse json with
  | none | some .null => none
  | some event => some (contentOf event)

/-- Whether a field holds this text. -/
def hasText (content : JsValue) (name text : String) : Bool :=
  match content.get? name with
  | some (.str value) => value = text
  | _ => false

/-- A loop without a `try`, or with one around all that follows the `await`. -/
def readTurn (onError : Turn) (skips : JsValue → Bool) : Polled → Turn
  | .resolved none => .again 0
  | .rejected => .throws
  | .resolved (some json) =>
      match readContent parse json with
      | none => onError
      | some content => if skips content then .again 0 else .found content

/-- The poll of a socket: everything is inside of the `try`. -/
def socketTurn (idleMs busyMs errorMs : Nat) : Polled → Turn
  | .resolved none => .again idleMs
  | .rejected => .again errorMs
  | .resolved (some json) =>
      match readContent parse json with
      | none => .again busyMs
      | some content => .found content

/-- What the loop does with the outcome of a poll. -/
def PollingLoop.turn : PollingLoop → Polled → Turn
  | .launcherOffer callId => readTurn parse .throws fun content => !hasText content "call_id" callId
  | .launcherAnswer offererCallId =>
      readTurn parse .throws fun content => hasText content "call_id" offererCallId
  | .launcherCandidates callId ownPartyId | .browserCandidates callId ownPartyId =>
      readTurn parse (.again 0) fun content =>
        !hasText content "call_id" callId || hasText content "party_id" ownPartyId
  | .browserOffer callId =>
      readTurn parse (.again 0) fun content => !hasText content "call_id" callId
  | .browserAnswer offererCallId =>
      readTurn parse (.again 0) fun content => hasText content "call_id" offererCallId
  | .sessionMux | .sessionMuxResize => socketTurn parse 0 1000 1000
  | .terminalSocket pollIntervalMs => socketTurn parse pollIntervalMs pollIntervalMs pollIntervalMs
  | .webTerminalSocket pollIntervalMs => socketTurn parse pollIntervalMs 0 pollIntervalMs

/-- The loop takes the value for no event and polls on. -/
def PollingLoop.PollsOn (loop : PollingLoop) (polled : Polled) : Prop :=
  ∃ pauseMs, loop.turn parse polled = .again pauseMs

/-- What `MultiHsClient.onRoomEvent` makes of the value of one of its servers. An
event that does not parse has no id. -/
def pollAnswer : Option String → PollAnswer
  | none => .nothing
  | some json => .event (((parse json).bind (·.get? "event_id")).bind Json.asStr)

/-- The fields of an invite that the answering path reads. -/
def inviteOf (content : JsValue) : Invite where
  callId := (content.get? "call_id").bind Json.asStr
  sdp := ((content.get? "offer").bind (·.get? "sdp")).bind Json.asStr
  sessionKey := (content.get? "mxdx_session_key").bind Json.asStr

/-- A poll of the answering path, and whether its deadline is over after it. -/
def answerInput (polled : Polled) (expired : Bool) : AnswerInput :=
  match polled with
  | .resolved none => .polled none expired
  | .rejected => .rejected
  | .resolved (some json) =>
      match readContent parse json with
      | none => .rejected
      | some content => .polled (some (inviteOf content)) expired

/-- A poll of the offering path for the answer to its call. -/
def offerInput (callId : String) (polled : Polled) (expired : Bool) : OfferInput :=
  match polled with
  | .resolved none => .polled false expired
  | .rejected => .rejected
  | .resolved (some json) =>
      match readContent parse json with
      | none => .rejected
      | some content => .polled (hasText content "call_id" callId) expired

end Loops

section Timeouts

theorem onRoomEvent_timeout : onRoomEvent timeoutValue = none := rfl

theorem onRoomEvent_event {json : String} (hEvent : json ≠ timeoutValue) :
    onRoomEvent json = some json :=
  if_neg hEvent

variable (parse : String → Option JsValue)

/-- No loop takes a timeout for an event or ends because of it. -/
theorem pollsOn_timeout (loop : PollingLoop) :
    loop.PollsOn parse (.resolved (onRoomEvent timeoutValue)) := by
  rw [onRoomEvent_timeout]
  cases loop with
  | launcherOffer | launcherAnswer | launcherCandidates => exact ⟨0, rfl⟩
  | browserOffer | browserAnswer | browserCandidates => exact ⟨0, rfl⟩
  | sessionMux | sessionMuxResize => exact ⟨0, rfl⟩
  | terminalSocket pollIntervalMs | webTerminalSocket pollIntervalMs => exact ⟨pollIntervalMs, rfl⟩

end Timeouts

namespace RoomEntry

section Frame

variable {entry : RoomEntry} {index : Nat} {attempt : Attempt}

theorem attempts_settle (entry : RoomEntry) (index : Nat) (attempt : Attempt) (role : Role)
    (key : Option Key) :
    (entry.settle index attempt role key).attempts =
      entry.attempts.set index { attempt with settled := true } := by
  cases hSettled : attempt.settled with
  | true =>
      obtain ⟨id, settled, call, offer, answer, answerKey⟩ := attempt
      subst hSettled
      rw [settle_of_settled (by rfl)]
      rfl
  | false => exact (settle_of_open entry index role key hSettled).2.1

theorem attempts_unchanged (hOld : entry.attempts[index]? = some attempt) :
    entry.attempts = entry.attempts.set index attempt := by
  obtain ⟨hIndex, rfl⟩ := List.getElem?_eq_some_iff.mp hOld
  exact (List.set_getElem_self hIndex).symm

theorem attempts_awaitAnswer (entry : RoomEntry) (index : Nat) (attempt : Attempt)
    (answered expired : Bool) :
    ∃ offer, (entry.awaitAnswer index attempt answered expired).attempts =
      entry.attempts.set index { attempt with offer } ∧ offer ≠ .idle := by
  unfold awaitAnswer
  split_ifs
  · exact ⟨.polling, rfl, by decide⟩
  · exact ⟨.done, rfl, by decide⟩
  · exact ⟨.accepting, rfl, by decide⟩

/-- A step of the offering path touches its own stage and the flag, which stays once it
is set. -/
theorem attempts_offerPath (hOld : entry.attempts[index]? = some attempt) (input : OfferInput) :
    ∃ offer settled, (entry.offerPath index attempt input).attempts =
        entry.attempts.set index { attempt with offer, settled } ∧
      (attempt.offer ≠ .idle → offer ≠ .idle) ∧ (attempt.settled = true → settled = true) := by
  unfold offerPath
  split
  case h_1 hStage =>
    exact ⟨_, attempt.settled, rfl, by split <;> simp, id⟩
  case h_6 found hStage =>
    obtain ⟨offer, hAttempts, hOffer⟩ := attempts_awaitAnswer entry index attempt found false
    exact ⟨offer, attempt.settled, hAttempts, fun _ => hOffer, id⟩
  case h_7 hStage =>
    obtain ⟨offer, hAttempts, hOffer⟩ := attempts_awaitAnswer entry index attempt false false
    exact ⟨offer, attempt.settled, hAttempts, fun _ => hOffer, id⟩
  case h_8 answered expired hStage =>
    obtain ⟨offer, hAttempts, hOffer⟩ := attempts_awaitAnswer entry index attempt answered expired
    exact ⟨offer, attempt.settled, hAttempts, fun _ => hOffer, id⟩
  case h_10 hStage =>
    exact ⟨.done, true, attempts_settle .., by simp, fun _ => rfl⟩
  case h_18 =>
    exact ⟨attempt.offer, attempt.settled, attempts_unchanged hOld, id, id⟩
  all_goals exact ⟨_, attempt.settled, rfl, by simp, id⟩

theorem attempts_takeInvite (entry : RoomEntry) (index : Nat) (attempt : Attempt)
    (invite : Option Invite) (expired : Bool) :
    ∃ answer answerKey, (entry.takeInvite index attempt invite expired).attempts =
      entry.attempts.set index { attempt with answer, answerKey } ∧ answer ≠ .idle := by
  simp only [takeInvite]
  split
  · exact ⟨_, attempt.answerKey, rfl, by split <;> simp⟩
  next invite hInvite =>
    split_ifs
    · exact ⟨.done, attempt.answerKey, rfl, by decide⟩
    · exact ⟨.done, attempt.answerKey, rfl, by decide⟩
    · cases invite.sessionKey.filter (· ≠ "") with
      | none => exact ⟨.accepting, attempt.answerKey, rfl, by decide⟩
      | some key => exact ⟨.creatingCrypto, some key, rfl, by decide⟩

theorem attempts_answererPath (hOld : entry.attempts[index]? = some attempt)
    (input : AnswerInput) :
    ∃ answer settled answerKey, (entry.answererPath index attempt input).attempts =
        entry.attempts.set index { attempt with answer, settled, answerKey } ∧
      (attempt.answer = .idle → answer = .idle) ∧
      (attempt.settled = true → settled = true) := by
  unfold answererPath
  split
  case h_1 invite expired hStage =>
    obtain ⟨answer, answerKey, hAttempts, -⟩ :=
      attempts_takeInvite entry index attempt invite expired
    exact ⟨answer, attempt.settled, answerKey, hAttempts, by simp [hStage], id⟩
  case h_5 hStage =>
    exact ⟨.done, true, attempt.answerKey, attempts_settle .., by simp [hStage], fun _ => rfl⟩
  case h_11 =>
    exact ⟨attempt.answer, attempt.settled, attempt.answerKey, attempts_unchanged hOld, id, id⟩
  all_goals exact ⟨_, attempt.settled, attempt.answerKey, rfl, by simp_all, id⟩

/-- What a step leaves of an attempt that has begun: the path the input is not for, the
number, and that it is settled. -/
structure Kept (index : Nat) (input : AttemptInput) (attempt changed : Attempt) : Prop where
  begun : changed.offer ≠ .idle
  offer : (∀ own, input ≠ .offer index own) → changed.offer = attempt.offer
  answer : (∀ own, input ≠ .answer index own) → changed.answer = attempt.answer
  id : changed.id = attempt.id
  settled : attempt.settled = true → changed.settled = true

theorem kept_refl (hBegun : attempt.offer ≠ .idle) (input : AttemptInput) :
    Kept index input attempt attempt :=
  ⟨hBegun, fun _ => rfl, fun _ => rfl, rfl, fun hSettled => hSettled⟩

theorem kept_step (hOld : entry.attempts[index]? = some attempt) (hBegun : attempt.offer ≠ .idle)
    (input : AttemptInput) :
    ∃ changed, (entry.step input).attempts[index]? = some changed ∧
      Kept index input attempt changed := by
  have hIndex : index < entry.attempts.length := (List.getElem?_eq_some_iff.mp hOld).1
  have hOther : ∀ (other : Nat) (changed : Attempt), index ≠ other →
      (entry.attempts.set other changed)[index]? = some attempt := fun other changed hNe => by
    rw [List.getElem?_set_ne (Ne.symm hNe), hOld]
  have hNotIdle : ∀ (other : Nat) found, entry.attempts[other]? = some found →
      found.offer = .idle → index ≠ other := by
    rintro other found hFound hIdle rfl
    obtain rfl : attempt = found := Option.some.inj (hOld.symm.trans hFound)
    exact hBegun hIdle
  cases input with
  | attempt now =>
      refine ⟨attempt, ?_, kept_refl hBegun _⟩
      simp only [step, attemptP2PConnection]
      split
      · exact hOld
      · rw [List.getElem?_append_left hIndex, hOld]
  | join => exact ⟨attempt, hOld, kept_refl hBegun _⟩
  | fetched other call | fetchFailed other =>
      refine ⟨attempt, ?_, kept_refl hBegun _⟩
      simp only [step]
      cases hFound : entry.attempts[other]? with
      | none => exact hOld
      | some found =>
          dsimp only
          split
          next hIdle => exact hOther other _ (hNotIdle other found hFound hIdle)
          · exact hOld
  | offer other input =>
      simp only [step]
      cases hFound : entry.attempts[other]? with
      | none => exact ⟨attempt, hOld, kept_refl hBegun _⟩
      | some found =>
          obtain ⟨offer, settled, hAttempts, hStarted, hSettled⟩ := attempts_offerPath hFound input
          rw [hAttempts]
          by_cases hSame : index = other
          · subst hSame
            obtain rfl : attempt = found := Option.some.inj (hOld.symm.trans hFound)
            exact ⟨_, List.getElem?_set_self hIndex, hStarted hBegun,
              fun hNone => absurd rfl (hNone input), fun _ => rfl, rfl, hSettled⟩
          · exact ⟨attempt, hOther other _ hSame, kept_refl hBegun _⟩
  | answer other input =>
      simp only [step]
      cases hFound : entry.attempts[other]? with
      | none => exact ⟨attempt, hOld, kept_refl hBegun _⟩
      | some found =>
          obtain ⟨answer, settled, answerKey, hAttempts, -, hSettled⟩ :=
            attempts_answererPath hFound input
          rw [hAttempts]
          by_cases hSame : index = other
          · subst hSame
            obtain rfl : attempt = found := Option.some.inj (hOld.symm.trans hFound)
            exact ⟨_, List.getElem?_set_self hIndex, hBegun, fun _ => rfl,
              fun hNone => absurd rfl (hNone input), rfl, hSettled⟩
          · exact ⟨attempt, hOther other _ hSame, kept_refl hBegun _⟩

/-- Both paths begin together. -/
def Begun (entry : RoomEntry) : Prop :=
  ∀ attempt ∈ entry.attempts, attempt.offer = .idle → attempt.answer = .idle

theorem begun_set (h : Begun entry) {changed : Attempt}
    (hChanged : changed.offer = .idle → changed.answer = .idle) :
    ∀ attempt ∈ entry.attempts.set index changed,
      attempt.offer = .idle → attempt.answer = .idle := by
  intro attempt hMem
  rcases List.mem_or_eq_of_mem_set hMem with hOld | rfl
  · exact h attempt hOld
  · exact hChanged

theorem begun_step (entry : RoomEntry) (input : AttemptInput) (h : Begun entry) :
    Begun (entry.step input) := by
  cases input with
  | attempt now =>
      simp only [step, attemptP2PConnection]
      split
      · exact h
      · intro attempt hMem
        rcases List.mem_append.mp hMem with hOld | hNew
        · exact h attempt hOld
        · rw [List.mem_singleton.mp hNew]
          exact fun _ => rfl
  | join => exact h
  | fetched other call | fetchFailed other =>
      simp only [step]
      split
      · split
        · exact begun_set h (fun hIdle => by cases hIdle)
        · exact h
      · exact h
  | offer other input =>
      simp only [step]
      split
      next found hFound =>
        obtain ⟨offer, settled, hAttempts, hStarted, -⟩ := attempts_offerPath hFound input
        rw [Begun, hAttempts]
        apply begun_set h
        intro hIdle
        apply h found (List.mem_of_getElem? hFound)
        by_contra hBegun
        exact hStarted hBegun hIdle
      · exact h
  | answer other input =>
      simp only [step]
      split
      next found hFound =>
        obtain ⟨answer, settled, answerKey, hAttempts, hStarted, -⟩ :=
          attempts_answererPath hFound input
        rw [Begun, hAttempts]
        apply begun_set h
        intro hIdle
        exact hStarted (h found (List.mem_of_getElem? hFound) hIdle)
      · exact h

theorem begun_run (inputs : List AttemptInput) : Begun (run step new inputs) :=
  (always_of_step begun_step (by simp [Begun, new]) inputs).last

end Frame

section Runs

variable {index : Nat} {entry : RoomEntry} {attempt : Attempt} {inputs : List AttemptInput}

theorem length_attempts_le_step (entry : RoomEntry) (input : AttemptInput) :
    entry.attempts.length ≤ (entry.step input).attempts.length := by
  cases input with
  | attempt now =>
      simp only [step, attemptP2PConnection]
      split
      · exact le_rfl
      · simp
  | join => exact le_rfl
  | fetched other call | fetchFailed other =>
      simp only [step]
      split
      · split
        · exact List.length_set.ge
        · exact le_rfl
      · exact le_rfl
  | offer other input =>
      simp only [step]
      split
      next found hFound =>
        obtain ⟨offer, settled, hAttempts, -⟩ := attempts_offerPath hFound input
        rw [hAttempts, List.length_set]
      · exact le_rfl
  | answer other input =>
      simp only [step]
      split
      next found hFound =>
        obtain ⟨answer, settled, answerKey, hAttempts, -⟩ := attempts_answererPath hFound input
        rw [hAttempts, List.length_set]
      · exact le_rfl

/-- The attempt has no channel, and it is the newest of the room. -/
def Live (entry : RoomEntry) (attempt : Attempt) : Prop :=
  attempt.settled = false ∧ entry.isStale attempt = false

/-- Numbers only grow, so what is stale or settled stays so. -/
theorem live_of_step (hNumbered : Numbered entry) (hOld : entry.attempts[index]? = some attempt)
    {input : AttemptInput} {changed : Attempt}
    (hChanged : (entry.step input).attempts[index]? = some changed)
    (hKept : Kept index input attempt changed) (h : Live (entry.step input) changed) :
    Live entry attempt := by
  have hNext : Numbered (entry.step input) := (effect_step entry input hNumbered).numbered
  have hIndex : index < entry.attempts.length := (List.getElem?_eq_some_iff.mp hOld).1
  have hGrows := length_attempts_le_step entry input
  have hNewest : (entry.step input).currentAttemptId = changed.id := by simpa [isStale] using h.2
  rw [hNext.current, hNext.ids index changed hChanged] at hNewest
  constructor
  · by_contra hSettled
    have hStill := hKept.settled (by simpa using hSettled)
    rw [h.1] at hStill
    cases hStill
  · have hCurrent : entry.currentAttemptId = attempt.id := by
      rw [hNumbered.current, hNumbered.ids index attempt hOld]
      omega
    simp [isStale, hCurrent]

theorem live_of_run (hNumbered : Numbered entry) (hOld : entry.attempts[index]? = some attempt)
    (hBegun : attempt.offer ≠ .idle)
    (h : ∀ last, (run step entry inputs).attempts[index]? = some last →
      Live (run step entry inputs) last) : Live entry attempt := by
  induction inputs generalizing entry attempt with
  | nil => exact h attempt hOld
  | cons input rest ih =>
      obtain ⟨next, hNext, hKept⟩ := kept_step hOld hBegun input
      have hLive := ih (effect_step entry input hNumbered).numbered hNext hKept.begun h
      exact live_of_step hNumbered hOld hNext hKept hLive

/-- A path whose own inputs are all timeouts polls on as long as its attempt is live. -/
theorem path_run {Stage : Type} (stage : Attempt → Stage) {polling : Stage}
    (own : AttemptInput → Prop) {timeout : AttemptInput}
    (hOther : ∀ input attempt next, Kept index input attempt next → ¬ own input →
      stage next = stage attempt)
    (hStays : ∀ (entry : RoomEntry) attempt next, entry.attempts[index]? = some attempt →
      Live entry attempt → stage attempt = polling →
        (entry.step timeout).attempts[index]? = some next → stage next = polling)
    (hNumbered : Numbered entry) (hOld : entry.attempts[index]? = some attempt)
    (hBegun : attempt.offer ≠ .idle) (hInputs : ∀ input ∈ inputs, own input → input = timeout)
    (hStage : stage attempt = polling)
    (hLive : ∀ last, (run step entry inputs).attempts[index]? = some last →
      Live (run step entry inputs) last) :
    ∃ last, (run step entry inputs).attempts[index]? = some last ∧ stage last = polling := by
  induction inputs generalizing entry attempt with
  | nil => exact ⟨attempt, hOld, hStage⟩
  | cons input rest ih =>
      obtain ⟨next, hNext, hKept⟩ := kept_step hOld hBegun input
      have hRest := List.forall_mem_cons.mp hInputs
      have hPolls : stage next = polling := by
        by_cases hOwn : own input
        · obtain rfl := hRest.1 hOwn
          have hNow := live_of_run hNumbered hOld hBegun hLive
          exact hStays entry attempt next hOld hNow hStage hNext
        · rw [hOther input attempt next hKept hOwn, hStage]
      exact ih (effect_step entry input hNumbered).numbered hNext hKept.begun hRest.2 hPolls hLive

theorem step_answer (hOld : entry.attempts[index]? = some attempt) (input : AnswerInput) :
    entry.step (.answer index input) = entry.answererPath index attempt input := by
  simp only [step, hOld]

theorem step_offer (hOld : entry.attempts[index]? = some attempt) (input : OfferInput) :
    entry.step (.offer index input) = entry.offerPath index attempt input := by
  simp only [step, hOld]

theorem getElem?_put (hOld : entry.attempts[index]? = some attempt) (changed : Attempt) :
    (entry.put index changed).attempts[index]? = some changed :=
  List.getElem?_set_self (List.getElem?_eq_some_iff.mp hOld).1

theorem answer_stays (hOld : entry.attempts[index]? = some attempt) (hLive : Live entry attempt)
    (hPolling : attempt.answer = .polling) {next : Attempt}
    (hNext : (entry.step (.answer index (.polled none false))).attempts[index]? = some next) :
    next.answer = .polling := by
  rw [step_answer hOld] at hNext
  unfold answererPath at hNext
  rw [hPolling] at hNext
  simp only [takeInvite, Option.filter_none, hLive.1, hLive.2, Bool.not_false, Bool.and_self,
    if_true] at hNext
  obtain rfl := Option.some.inj ((getElem?_put hOld _).symm.trans hNext)
  rfl

theorem offer_stays (hOld : entry.attempts[index]? = some attempt) (hLive : Live entry attempt)
    (hPolling : attempt.offer = .polling) {next : Attempt}
    (hNext : (entry.step (.offer index (.polled false false))).attempts[index]? = some next) :
    next.offer = .polling := by
  rw [step_offer hOld] at hNext
  unfold offerPath at hNext
  rw [hPolling] at hNext
  simp only [awaitAnswer, hLive.1, hLive.2, Bool.not_false, Bool.and_self, if_true] at hNext
  obtain rfl := Option.some.inj ((getElem?_put hOld _).symm.trans hNext)
  rfl

/-- An input of the answering path of the attempt. -/
def OfAnswer (index : Nat) (input : AttemptInput) : Prop := ∃ own, input = .answer index own

/-- An input for the path of an offer. -/
def OfOffer (index : Nat) (input : AttemptInput) : Prop := ∃ own, input = .offer index own

end Runs

section Arrival

variable (parse : String → Option JsValue)

/-- The invite is one that the path can answer. -/
def Usable (invite : Invite) (attempt : Attempt) : Prop :=
  (∃ callId, invite.callId = some callId ∧ callId ≠ "" ∧ callId ≠ attempt.offererCallId) ∧
    ∃ sdp, invite.sdp = some sdp ∧ sdp ≠ ""

/-- An attempt polls for an invite, its polls time out before its deadline, and when the
invite comes it is neither settled nor stale. -/
structure InviteComes (before between : List AttemptInput) (index : Nat) (json : String) :
    Prop where
  polls : ∃ attempt, (run step new before).attempts[index]? = some attempt ∧
    attempt.answer = .polling
  timeouts : ∀ input ∈ between, OfAnswer index input →
    input = .answer index (answerInput parse (.resolved (onRoomEvent timeoutValue)) false)
  event : json ≠ timeoutValue
  live : ∀ attempt, (run step new (before ++ between)).attempts[index]? = some attempt →
    Live (run step new (before ++ between)) attempt ∧
      ∃ content, readContent parse json = some content ∧ Usable (inviteOf content) attempt

/-- The same of an attempt that polls for the answer to its offer. -/
structure AnswerComes (before between : List AttemptInput) (index : Nat) (json : String) :
    Prop where
  polls : ∃ attempt, (run step new before).attempts[index]? = some attempt ∧
    attempt.offer = .polling
  timeouts : ∀ input ∈ between, OfOffer index input → ∃ callId,
    input = .offer index (offerInput parse callId (.resolved (onRoomEvent timeoutValue)) false)
  event : json ≠ timeoutValue
  live : ∀ attempt, (run step new (before ++ between)).attempts[index]? = some attempt →
    Live (run step new (before ++ between)) attempt ∧
      ∃ content, readContent parse json = some content ∧
        hasText content "call_id" attempt.offererCallId = true

/-- The path goes on to answer the invite. -/
def Answers (entry : RoomEntry) (index : Nat) : Prop :=
  ∃ attempt, entry.attempts[index]? = some attempt ∧
    (attempt.answer = .creatingCrypto ∨ attempt.answer = .accepting)

/-- The path goes on to accept the answer. -/
def Accepts (entry : RoomEntry) (index : Nat) : Prop :=
  ∃ attempt, entry.attempts[index]? = some attempt ∧ attempt.offer = .accepting

variable {parse} {before between : List AttemptInput} {index : Nat} {json : String}

theorem numbered_run (inputs : List AttemptInput) : Numbered (run step new inputs) := by
  have hNew : Numbered new := ⟨rfl, by simp [new], by simp [new], by simp [new]⟩
  have hStep : ∀ (entry : RoomEntry) (input : AttemptInput), Numbered entry →
      Numbered (entry.step input) := fun entry input h => (effect_step entry input h).numbered
  exact (always_of_step hStep hNew inputs).last

theorem begun_of_polls {attempt : Attempt}
    (hOld : (run step new before).attempts[index]? = some attempt)
    (hPolling : attempt.answer = .polling) : attempt.offer ≠ .idle := by
  intro hIdle
  have hAnswer := begun_run before attempt (List.mem_of_getElem? hOld) hIdle
  rw [hPolling] at hAnswer
  cases hAnswer

theorem answers_of_comes (h : InviteComes parse before between index json) (expired : Bool) :
    Answers ((run step new (before ++ between)).step
      (.answer index (answerInput parse (.resolved (onRoomEvent json)) expired))) index := by
  obtain ⟨attempt, hOld, hPolling⟩ := h.polls
  have hRun := run_append step new before between
  obtain ⟨last, hLast, hPolls⟩ := path_run Attempt.answer (OfAnswer index)
    (fun input attempt next hKept hOwn => hKept.answer fun own hInput => hOwn ⟨own, hInput⟩)
    (fun entry attempt next hOld hLive hPolling hNext => answer_stays hOld hLive hPolling hNext)
    (numbered_run before) hOld (begun_of_polls hOld hPolling) h.timeouts hPolling
    (hRun ▸ fun last hLast => (h.live last hLast).1)
  rw [← hRun] at hLast
  obtain ⟨⟨hSettled, hStale⟩, content, hContent, hUsable⟩ := h.live last hLast
  have hInput : answerInput parse (.resolved (onRoomEvent json)) expired =
      .polled (some (inviteOf content)) expired := by
    rw [onRoomEvent_event h.event, answerInput, hContent]
  rw [step_answer hLast, hInput]
  unfold answererPath
  rw [hPolls]
  obtain ⟨⟨callId, hCall, hCallText, hOther⟩, sdp, hSdp, hSdpText⟩ := hUsable
  have hNotOwn : (some (inviteOf content)).filter
      (fun invite => invite.callId ≠ some last.offererCallId) = some (inviteOf content) := by
    simp [Option.filter, hCall, hOther]
  simp only [takeInvite, hNotOwn, hSettled, hStale, Bool.or_self, Bool.false_eq_true, if_false]
  have hRead : ((inviteOf content).callId.filter (· ≠ "")).isNone = false ∧
      ((inviteOf content).sdp.filter (· ≠ "")).isNone = false := by
    simp [hCall, hSdp, Option.filter, hCallText, hSdpText]
  rw [hRead.1, hRead.2, if_neg (by simp)]
  cases (inviteOf content).sessionKey.filter (· ≠ "") with
  | some key => exact ⟨_, getElem?_put hLast _, .inl rfl⟩
  | none => exact ⟨_, getElem?_put hLast _, .inr rfl⟩

theorem accepts_of_comes (h : AnswerComes parse before between index json) {offering : Attempt}
    (hOffering : (run step new (before ++ between)).attempts[index]? = some offering)
    (expired : Bool) :
    Accepts ((run step new (before ++ between)).step (.offer index
      (offerInput parse offering.offererCallId (.resolved (onRoomEvent json)) expired)))
      index := by
  obtain ⟨attempt, hOld, hPolling⟩ := h.polls
  have hBegun : attempt.offer ≠ .idle := by
    rw [hPolling]
    decide
  have hTimeouts : ∀ input ∈ between, OfOffer index input →
      input = .offer index (.polled false false) := by
    intro input hMem hOwn
    obtain ⟨callId, hInput⟩ := h.timeouts input hMem hOwn
    exact hInput
  have hRun := run_append step new before between
  obtain ⟨last, hLast, hPolls⟩ := path_run Attempt.offer (OfOffer index)
    (fun input attempt next hKept hOwn => hKept.offer fun own hInput => hOwn ⟨own, hInput⟩)
    (fun entry attempt next hOld hLive hPolling hNext => offer_stays hOld hLive hPolling hNext)
    (numbered_run before) hOld hBegun hTimeouts hPolling
    (hRun ▸ fun last hLast => (h.live last hLast).1)
  rw [← hRun] at hLast
  obtain rfl := Option.some.inj (hOffering.symm.trans hLast)
  obtain ⟨⟨hSettled, -⟩, content, hContent, hCall⟩ := h.live offering hOffering
  have hInput : offerInput parse offering.offererCallId (.resolved (onRoomEvent json)) expired =
      .polled true expired := by
    rw [onRoomEvent_event h.event, offerInput, hContent]
    simp [hCall]
  rw [step_offer hOffering, hInput]
  unfold offerPath
  rw [hPolls]
  simp only [awaitAnswer, hSettled, Bool.not_true, Bool.false_and, Bool.or_self,
    Bool.false_eq_true, if_false]
  exact ⟨_, getElem?_put hOffering _, rfl⟩

end Arrival

end RoomEntry

section Servers

universe u
variable {Latency : Type u} [LinearOrder Latency] {n : Nat}
  (entries : Fin n → Core.HsEntry Latency) (parse : String → Option JsValue)

/-- A server whose time is over only ends its poll: the call stays open, and no event is
noted or handed on. -/
theorem polled_timeout (client : MultiHsClient n) (index : Nat) :
    client.step entries (.polled index (pollAnswer parse (onRoomEvent timeoutValue))) =
      { client with polls := client.polls.eraseIdx index } := by
  simp only [onRoomEvent_timeout, pollAnswer, MultiHsClient.step]
  cases hPoll : client.polls[index]? with
  | none => rw [List.eraseIdx_of_length_le (List.getElem?_eq_none_iff.mp hPoll)]
  | some poll => rfl

/-- Nor does the caller of a client with one server get an event. -/
theorem direct_timeout (events : Core.RoomEvents n) :
    events.step entries (.direct (pollAnswer parse (onRoomEvent timeoutValue))) = events := by
  simp [Core.RoomEvents.step, onRoomEvent_timeout, pollAnswer, Core.PollAnswer.id]

end Servers

section Examples

/-- Two texts as `JSON.parse` reads them. -/
def parseInvite : String → Option JsValue
  | "null" => some .null
  | "invite" => some (.obj [("type", .str "m.call.invite"), ("content", .obj
      [("call_id", .str "theirs"), ("offer", .obj [("type", .str "offer"), ("sdp", .str "v=0")])])])
  | _ => none

/-- An attempt that has got its credentials and polls for an invite. -/
def bothPolling : List AttemptInput := [.attempt 20000, .fetched 0 "ours"]

end Examples

end Mxdx.Runtime
