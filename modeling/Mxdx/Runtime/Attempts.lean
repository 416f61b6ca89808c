import Mxdx.Foundations.Automaton
import Mathlib.Data.List.Nodup

/-! The attempts to open a peer-to-peer channel for a room of the JavaScript
launcher. Each races the path that offers with the path that answers; both are cut
at their `await`, and attempts of one room overlap as they like. -/
namespace Mxdx.Runtime

open Automaton

/-- Milliseconds. -/
def rateLimit : Int := 15000

/-- Which end of the call the launcher is. -/
inductive Role where
  | offerer
  | answerer
deriving DecidableEq

/-- The channel that a path of an attempt has made. -/
structure Channel where
  attempt : Nat
  role : Role
deriving DecidableEq

/-- The key the transport was created with, one made for an offer, or one that came
with an invite. -/
inductive Key where
  | initial
  | offered (attempt : Nat)
  | received (text : String)
deriving DecidableEq

/-- How far the path of an offer has come. -/
inductive OfferStage where
  | idle
  | delaying
  | generatingKey
  | creatingCrypto
  | creatingOffer
  | sendingInvite
  | searching
  | polling
  | accepting
  | opening
  | done
deriving DecidableEq

/-- How far the path of an answer has come. -/
inductive AnswerStage where
  | idle
  | polling
  | creatingCrypto
  | accepting
  | sendingAnswer
  | opening
  | done
deriving DecidableEq

/-- The local variables of one attempt. -/
structure Attempt where
  id : Nat
  settled : Bool
  offererCallId : String
  offer : OfferStage
  answer : AnswerStage
  answerKey : Option String
deriving DecidableEq

/-- A channel that was handed to the transport, the key that was set before it if
there was one, and the attempt that was the newest of the room at that time. -/
structure Install where
  channel : Channel
  key : Option Key
  newest : Nat
deriving DecidableEq

/-- The entry of a room, its transport's channel and key, and its attempts. -/
structure RoomEntry where
  currentAttemptId : Nat
  lastP2PAttempt : Int
  channel : Option Channel
  key : Key
  attempts : List Attempt
  closed : List Channel
  installs : List Install

/-- An invite that a poll brings; a text is missing or empty where it is of no use. -/
structure Invite where
  callId : Option String
  sdp : Option String
  sessionKey : Option String

/-- What the path of an offer waits for. -/
inductive OfferInput where
  | resolved
  | rejected
  /-- Whether the history of the room has the answer. -/
  | searched (found : Bool)
  /-- Whether the poll brought the answer, and whether the deadline is over. -/
  | polled (answered expired : Bool)

/-- What the path of an answer waits for. -/
inductive AnswerInput where
  | resolved
  | rejected
  | polled (invite : Option Invite) (expired : Bool)

/-- What can happen to the attempts of a room. -/
inductive AttemptInput where
  | attempt (now : Int)
  /-- A session joins the room, which lifts the rate limit. -/
  | join
  /-- The credentials of the TURN server are there, or were not to be had. -/
  | fetched (index : Nat) (offererCallId : String)
  | fetchFailed (index : Nat)
  | offer (index : Nat) (input : OfferInput)
  | answer (index : Nat) (input : AnswerInput)

namespace RoomEntry

/-- No attempt has been made. -/
def new : RoomEntry where
  currentAttemptId := 0
  lastP2PAttempt := 0
  channel := none
  key := .initial
  attempts := []
  closed := []
  installs := []

variable (entry : RoomEntry)

def put (index : Nat) (attempt : Attempt) : RoomEntry :=
  { entry with attempts := entry.attempts.set index attempt }

/-- A later attempt has begun. -/
def isStale (attempt : Attempt) : Bool := entry.currentAttemptId ≠ attempt.id

/-- A channel that is not needed is closed. -/
def close (channel : Channel) : RoomEntry := { entry with closed := entry.closed ++ [channel] }

/-- The transport closes the channel it had. -/
def setDataChannel (channel : Channel) : RoomEntry :=
  let replaced :=
    match entry.channel with
    | some old => if old = channel then entry else entry.close old
    | none => entry
  { replaced with channel := some channel }

/-- The transport gets the key of the attempt. -/
def setP2PCrypto (key : Key) : RoomEntry := { entry with key }

/-- The first channel to open wins. -/
def settle (index : Nat) (attempt : Attempt) (role : Role) (key : Option Key) : RoomEntry :=
  let channel : Channel := ⟨attempt.id, role⟩
  if attempt.settled then (entry.put index attempt).close channel
  else
    let keyed :=
      match key with
      | some key => entry.setP2PCrypto key
      | none => entry
    let installed := (keyed.put index { attempt with settled := true }).setDataChannel channel
    { installed with installs := entry.installs ++ [⟨channel, key, entry.currentAttemptId⟩] }

/-- Attempts that follow too soon are left out. -/
def attemptP2PConnection (now : Int) : RoomEntry :=
  if now - entry.lastP2PAttempt < rateLimit then entry
  else
    { entry with
      lastP2PAttempt := now
      currentAttemptId := entry.currentAttemptId + 1
      attempts := entry.attempts ++
        [⟨entry.currentAttemptId + 1, false, "", .idle, .idle, none⟩] }

/-- Both paths begin. -/
def race (index : Nat) (attempt : Attempt) (offererCallId : String) : RoomEntry :=
  let listens := !attempt.settled && !entry.isStale attempt
  entry.put index
    { attempt with
      offererCallId
      offer := .delaying
      answer := if listens then .polling else .done }

/-- After the search and after each poll; a new attempt is not looked for once there
is an answer. -/
def awaitAnswer (index : Nat) (attempt : Attempt) (answered expired : Bool) : RoomEntry :=
  if !answered && !expired && !attempt.settled && !entry.isStale attempt then
    entry.put index { attempt with offer := .polling }
  else if !answered || attempt.settled then
    (entry.put index { attempt with offer := .done }).close ⟨attempt.id, .offerer⟩
  else entry.put index { attempt with offer := .accepting }

/-- One await of the path is over. -/
def offerPath (index : Nat) (attempt : Attempt) (input : OfferInput) : RoomEntry :=
  match attempt.offer, input with
  | .delaying, .resolved =>
      let ends := attempt.settled || entry.isStale attempt
      entry.put index { attempt with offer := if ends then .done else .generatingKey }
  | .generatingKey, .resolved => entry.put index { attempt with offer := .creatingCrypto }
  | .creatingCrypto, .resolved => entry.put index { attempt with offer := .creatingOffer }
  | .creatingOffer, .resolved => entry.put index { attempt with offer := .sendingInvite }
  | .sendingInvite, .resolved => entry.put index { attempt with offer := .searching }
  | .searching, .searched found => entry.awaitAnswer index attempt found false
  | .searching, .rejected => entry.awaitAnswer index attempt false false
  | .polling, .polled answered expired => entry.awaitAnswer index attempt answered expired
  | .accepting, .resolved => entry.put index { attempt with offer := .opening }
  | .opening, .resolved =>
      entry.settle index { attempt with offer := .done } .offerer (some (.offered attempt.id))
  | .generatingKey, .rejected | .creatingCrypto, .rejected | .creatingOffer, .rejected
  | .sendingInvite, .rejected | .polling, .rejected | .accepting, .rejected
  | .opening, .rejected => entry.put index { attempt with offer := .done }
  | _, _ => entry

/-- The own invite is skipped, and one without a call or an offer ends the path. -/
def takeInvite (index : Nat) (attempt : Attempt) (invite : Option Invite) (expired : Bool) :
    RoomEntry :=
  let goesOn := !expired && !attempt.settled && !entry.isStale attempt
  match invite.filter fun invite => invite.callId ≠ some attempt.offererCallId with
  | none => entry.put index { attempt with answer := if goesOn then .polling else .done }
  | some invite =>
      if attempt.settled || entry.isStale attempt then
        entry.put index { attempt with answer := .done }
      else if (invite.callId.filter (· ≠ "")).isNone || (invite.sdp.filter (· ≠ "")).isNone then
        entry.put index { attempt with answer := .done }
      else
        match invite.sessionKey.filter (· ≠ "") with
        | some key =>
            entry.put index { attempt with answer := .creatingCrypto, answerKey := some key }
        | none => entry.put index { attempt with answer := .accepting }

/-- One await of the path is over. -/
def answererPath (index : Nat) (attempt : Attempt) (input : AnswerInput) : RoomEntry :=
  match attempt.answer, input with
  | .polling, .polled invite expired => entry.takeInvite index attempt invite expired
  | .creatingCrypto, .resolved => entry.put index { attempt with answer := .accepting }
  | .accepting, .resolved => entry.put index { attempt with answer := .sendingAnswer }
  | .sendingAnswer, .resolved => entry.put index { attempt with answer := .opening }
  | .opening, .resolved =>
      entry.settle index { attempt with answer := .done } .answerer
        (attempt.answerKey.map .received)
  | .polling, .rejected | .creatingCrypto, .rejected | .accepting, .rejected
  | .sendingAnswer, .rejected | .opening, .rejected =>
      entry.put index { attempt with answer := .done }
  | _, _ => entry

/-- Attempts begin, and those under way go on, in any order. -/
def step (entry : RoomEntry) (input : AttemptInput) : RoomEntry :=
  match input with
  | .attempt now => entry.attemptP2PConnection now
  | .join => { entry with lastP2PAttempt := 0 }
  | .fetched index offererCallId =>
      match entry.attempts[index]? with
      | some attempt =>
          if attempt.offer = .idle then entry.race index attempt offererCallId else entry
      | none => entry
  | .fetchFailed index =>
      match entry.attempts[index]? with
      | some attempt =>
          if attempt.offer = .idle then
            entry.put index { attempt with offer := .done, answer := .done }
          else entry
      | none => entry
  | .offer index input =>
      match entry.attempts[index]? with
      | some attempt => entry.offerPath index attempt input
      | none => entry
  | .answer index input =>
      match entry.attempts[index]? with
      | some attempt => entry.answererPath index attempt input
      | none => entry

/-- Every channel was installed by what was then the newest attempt, and no attempt
installed two. -/
structure Silent (entry : RoomEntry) : Prop where
  newest : ∀ install ∈ entry.installs, install.channel.attempt = install.newest
  once : (entry.installs.map fun install => install.channel.attempt).Nodup

/-- A channel that opens belongs to the newest attempt, unless its attempt has one. -/
def NewestOpens (entry : RoomEntry) : AttemptInput → Prop
  | .offer index .resolved => ∀ attempt, entry.attempts[index]? = some attempt →
      attempt.offer = .opening → attempt.settled = false → entry.currentAttemptId = attempt.id
  | .answer index .resolved => ∀ attempt, entry.attempts[index]? = some attempt →
      attempt.answer = .opening → attempt.settled = false → entry.currentAttemptId = attempt.id
  | _ => True

/-- Attempts are numbered as they begin, and one that has installed a channel is settled. -/
structure Numbered (entry : RoomEntry) : Prop where
  current : entry.currentAttemptId = entry.attempts.length
  ids : ∀ index attempt, entry.attempts[index]? = some attempt → attempt.id = index + 1
  installed : ∀ install ∈ entry.installs, ∃ attempt ∈ entry.attempts,
    attempt.id = install.channel.attempt ∧ attempt.settled = true
  once : (entry.installs.map fun install => install.channel.attempt).Nodup

section Steps

variable {entry next : RoomEntry} {index : Nat} {old changed attempt : Attempt}

theorem numbered_congr (h : Numbered entry)
    (hCurrent : next.currentAttemptId = entry.currentAttemptId)
    (hAttempts : next.attempts = entry.attempts) (hInstalls : next.installs = entry.installs) :
    Numbered next := by
  refine ⟨?_, ?_, ?_, ?_⟩
  · rw [hCurrent, hAttempts]
    exact h.current
  · rw [hAttempts]
    exact h.ids
  · rw [hInstalls, hAttempts]
    exact h.installed
  · rw [hInstalls]
    exact h.once

theorem numbered_put (h : Numbered entry) (hOld : entry.attempts[index]? = some old)
    (hId : changed.id = old.id) (hSettled : old.settled = true → changed.settled = true) :
    Numbered (entry.put index changed) := by
  have hIndex : index < entry.attempts.length := (List.getElem?_eq_some_iff.mp hOld).1
  refine ⟨?_, fun other found hFound => ?_, fun install hInstall => ?_, h.once⟩
  · exact h.current.trans List.length_set.symm
  · by_cases hSame : index = other
    · subst hSame
      obtain rfl : changed = found := by simpa [put, hIndex] using hFound
      exact hId.trans (h.ids index old hOld)
    · exact h.ids other found (by simpa [put, List.getElem?_set_ne hSame] using hFound)
  · obtain ⟨attempt, hMem, hAttempt, hDone⟩ := h.installed install hInstall
    obtain ⟨other, hOther⟩ := List.mem_iff_getElem?.mp hMem
    by_cases hSame : index = other
    · subst hSame
      obtain rfl : old = attempt := Option.some.inj (hOld.symm.trans hOther)
      exact ⟨changed, List.mem_set hIndex changed, hId.trans hAttempt, hSettled hDone⟩
    · refine ⟨attempt, List.mem_iff_getElem?.mpr ⟨other, ?_⟩, hAttempt, hDone⟩
      rw [put, List.getElem?_set_ne hSame, hOther]

/-- An attempt that is not settled has not installed anything. -/
theorem not_installed (h : Numbered entry) (hOld : entry.attempts[index]? = some old)
    (hSettled : old.settled = false) :
    old.id ∉ entry.installs.map fun install => install.channel.attempt := by
  intro hMem
  obtain ⟨install, hInstall, hEq⟩ := List.mem_map.mp hMem
  obtain ⟨attempt, hAttempt, hId, hDone⟩ := h.installed install hInstall
  obtain ⟨other, hOther⟩ := List.mem_iff_getElem?.mp hAttempt
  have hIndex : other = index := by
    have hFirst := h.ids other attempt hOther
    have hSecond := h.ids index old hOld
    omega
  subst hIndex
  obtain rfl : attempt = old := Option.some.inj (hOther.symm.trans hOld)
  rw [hSettled] at hDone
  cases hDone

theorem settle_of_settled {role : Role} {key : Option Key} (hSettled : attempt.settled = true) :
    entry.settle index attempt role key = (entry.put index attempt).close ⟨attempt.id, role⟩ := by
  simp [settle, hSettled]

@[simp] theorem setDataChannel_currentAttemptId (entry : RoomEntry) (channel : Channel) :
    (entry.setDataChannel channel).currentAttemptId = entry.currentAttemptId := by
  unfold setDataChannel
  cases entry.channel with
  | none => rfl
  | some old =>
      dsimp only
      split <;> rfl

@[simp] theorem setDataChannel_attempts (entry : RoomEntry) (channel : Channel) :
    (entry.setDataChannel channel).attempts = entry.attempts := by
  unfold setDataChannel
  cases entry.channel with
  | none => rfl
  | some old =>
      dsimp only
      split <;> rfl

/-- The channel that wins is installed, and its attempt is settled. -/
theorem settle_of_open (entry : RoomEntry) (index : Nat) (role : Role) (key : Option Key)
    (hSettled : attempt.settled = false) :
    (entry.settle index attempt role key).currentAttemptId = entry.currentAttemptId ∧
      (entry.settle index attempt role key).attempts =
        entry.attempts.set index { attempt with settled := true } ∧
      (entry.settle index attempt role key).installs =
        entry.installs ++ [⟨⟨attempt.id, role⟩, key, entry.currentAttemptId⟩] := by
  unfold settle
  rw [if_neg (by simp [hSettled])]
  cases key with
  | none => exact ⟨setDataChannel_currentAttemptId .., setDataChannel_attempts .., rfl⟩
  | some key => exact ⟨setDataChannel_currentAttemptId .., setDataChannel_attempts .., rfl⟩

theorem numbered_settle (h : Numbered entry) (hOld : entry.attempts[index]? = some old)
    (hId : attempt.id = old.id) (hSame : attempt.settled = old.settled) (role : Role)
    (key : Option Key) : Numbered (entry.settle index attempt role key) := by
  cases hSettled : attempt.settled with
  | true =>
      rw [settle_of_settled hSettled]
      have hPut : Numbered (entry.put index attempt) :=
        numbered_put h hOld hId fun _ => hSettled
      exact numbered_congr hPut rfl rfl rfl
  | false =>
      obtain ⟨hCurrent, hAttempts, hInstalls⟩ := settle_of_open entry index role key hSettled
      have hPut : Numbered (entry.put index { attempt with settled := true }) :=
        numbered_put h hOld hId fun _ => rfl
      have hIndex : index < entry.attempts.length := (List.getElem?_eq_some_iff.mp hOld).1
      refine ⟨?_, ?_, ?_, ?_⟩
      · rw [hCurrent, hAttempts]
        exact hPut.current
      · rw [hAttempts]
        exact hPut.ids
      · rw [hInstalls, hAttempts]
        intro install hInstall
        rcases List.mem_append.mp hInstall with hBefore | hLast
        · exact hPut.installed install hBefore
        · rw [List.eq_of_mem_singleton hLast]
          exact ⟨_, List.mem_set hIndex _, rfl, rfl⟩
      · rw [hInstalls, List.map_append, List.map_singleton, ← List.concat_eq_append, hId]
        exact h.once.concat (not_installed h hOld (hSame.symm.trans hSettled))

theorem silent_congr (h : Silent entry) (hInstalls : next.installs = entry.installs) :
    Silent next := by
  constructor
  · rw [hInstalls]
    exact h.newest
  · rw [hInstalls]
    exact h.once

theorem silent_settle_iff (h : Silent entry) (hNumbered : Numbered entry)
    (hOld : entry.attempts[index]? = some old)
    (hId : attempt.id = old.id) (hSame : attempt.settled = old.settled) (role : Role)
    (key : Option Key) :
    Silent (entry.settle index attempt role key) ↔
      (old.settled = false → entry.currentAttemptId = old.id) := by
  have hOnce := (numbered_settle hNumbered hOld hId hSame role key).once
  cases hSettled : old.settled with
  | true =>
      apply iff_of_true _ (by simp)
      rw [settle_of_settled (hSame.trans hSettled)]
      exact silent_congr h rfl
  | false =>
      obtain ⟨-, -, hInstalls⟩ := settle_of_open entry index role key (hSame.trans hSettled)
      constructor
      · intro hNext _
        have hLast := hNext.newest ⟨⟨attempt.id, role⟩, key, entry.currentAttemptId⟩
          (by rw [hInstalls]; simp)
        exact hLast.symm.trans hId
      · intro hNewest
        refine ⟨fun install hInstall => ?_, hOnce⟩
        rw [hInstalls] at hInstall
        rcases List.mem_append.mp hInstall with hBefore | hLast
        · exact h.newest install hBefore
        · rw [List.eq_of_mem_singleton hLast]
          exact hId.trans (hNewest rfl).symm

/-- What a step does to the two invariants: the numbers stay in order, and the
entry stays silent under `guard` alone. -/
structure Effect (entry next : RoomEntry) (guard : Prop) : Prop where
  numbered : Numbered next
  silent_iff : Silent entry → (Silent next ↔ guard)

theorem effect_refl (h : Numbered entry) {guard : Prop} (hGuard : guard) :
    Effect entry entry guard :=
  ⟨h, fun hSilent => iff_of_true hSilent hGuard⟩

theorem effect_put (h : Numbered entry) (hOld : entry.attempts[index]? = some old)
    {guard : Prop} (hGuard : guard) (hId : changed.id = old.id)
    (hSettled : changed.settled = old.settled) : Effect entry (entry.put index changed) guard :=
  ⟨numbered_put h hOld hId fun hDone => hSettled.trans hDone,
    fun hSilent => iff_of_true (silent_congr hSilent rfl) hGuard⟩

/-- The paths of an attempt move on. -/
theorem effect_move (h : Numbered entry) (hOld : entry.attempts[index]? = some attempt)
    {guard : Prop} (hGuard : guard) (offererCallId : String) (offer : OfferStage)
    (answer : AnswerStage) (answerKey : Option String) :
    Effect entry
      (entry.put index ⟨attempt.id, attempt.settled, offererCallId, offer, answer, answerKey⟩)
      guard :=
  effect_put h hOld hGuard rfl rfl

theorem effect_close {guard : Prop} (h : Effect entry next guard) (channel : Channel) :
    Effect entry (next.close channel) guard :=
  ⟨numbered_congr h.numbered rfl rfl rfl, fun hSilent =>
    ⟨fun hNext => (h.silent_iff hSilent).mp (silent_congr hNext rfl),
      fun hGuard => silent_congr ((h.silent_iff hSilent).mpr hGuard) rfl⟩⟩

theorem effect_settle (h : Numbered entry) (hOld : entry.attempts[index]? = some old)
    (hId : attempt.id = old.id) (hSame : attempt.settled = old.settled) (role : Role)
    (key : Option Key) :
    Effect entry (entry.settle index attempt role key)
      (old.settled = false → entry.currentAttemptId = old.id) :=
  ⟨numbered_settle h hOld hId hSame role key,
    fun hSilent => silent_settle_iff hSilent h hOld hId hSame role key⟩

theorem effect_awaitAnswer (h : Numbered entry) (hOld : entry.attempts[index]? = some attempt)
    (answered expired : Bool) {guard : Prop} (hGuard : guard) :
    Effect entry (entry.awaitAnswer index attempt answered expired) guard := by
  unfold awaitAnswer
  split_ifs
  · apply effect_move h hOld hGuard
  · apply effect_close
    apply effect_move h hOld hGuard
  · apply effect_move h hOld hGuard

theorem effect_takeInvite (h : Numbered entry) (hOld : entry.attempts[index]? = some attempt)
    (invite : Option Invite) (expired : Bool) {guard : Prop} (hGuard : guard) :
    Effect entry (entry.takeInvite index attempt invite expired) guard := by
  simp only [takeInvite]
  split
  · apply effect_move h hOld hGuard
  next invite hInvite =>
    split_ifs
    · apply effect_move h hOld hGuard
    · apply effect_move h hOld hGuard
    · cases invite.sessionKey.filter (· ≠ "") with
      | none => apply effect_move h hOld hGuard
      | some key => apply effect_move h hOld hGuard

theorem effect_offerPath (h : Numbered entry) (hOld : entry.attempts[index]? = some attempt)
    (input : OfferInput) :
    Effect entry (entry.offerPath index attempt input)
      (input = .resolved → attempt.offer = .opening → attempt.settled = false →
        entry.currentAttemptId = attempt.id) := by
  unfold offerPath
  cases input with
  | searched found =>
      cases attempt.offer with
      | searching => exact effect_awaitAnswer h hOld found false (by simp)
      | _ => exact effect_refl h (by simp)
  | polled answered expired =>
      cases attempt.offer with
      | polling => exact effect_awaitAnswer h hOld answered expired (by simp)
      | _ => exact effect_refl h (by simp)
  | rejected =>
      cases attempt.offer with
      | searching => exact effect_awaitAnswer h hOld false false (by simp)
      | idle | delaying | done => exact effect_refl h (by simp)
      | _ => exact effect_move h hOld (by simp) _ .done _ _
  | resolved =>
      cases hStage : attempt.offer with
      | delaying | generatingKey | creatingCrypto | creatingOffer | sendingInvite | accepting =>
          exact effect_move h hOld (by simp) _ _ _ _
      | idle | searching | polling | done => exact effect_refl h (by simp)
      | opening =>
          let done : Attempt := { attempt with offer := .done }
          have hSettle : Effect entry
              (entry.settle index done .offerer (some (.offered attempt.id)))
              (attempt.settled = false → entry.currentAttemptId = attempt.id) :=
            effect_settle h hOld (by rfl) (by rfl) .offerer _
          simpa using hSettle

theorem effect_answererPath (h : Numbered entry) (hOld : entry.attempts[index]? = some attempt)
    (input : AnswerInput) :
    Effect entry (entry.answererPath index attempt input)
      (input = .resolved → attempt.answer = .opening → attempt.settled = false →
        entry.currentAttemptId = attempt.id) := by
  unfold answererPath
  cases input with
  | polled invite expired =>
      cases attempt.answer with
      | polling => exact effect_takeInvite h hOld invite expired (by simp)
      | _ => exact effect_refl h (by simp)
  | rejected =>
      cases attempt.answer with
      | idle | done => exact effect_refl h (by simp)
      | _ => exact effect_move h hOld (by simp) _ _ .done _
  | resolved =>
      cases hStage : attempt.answer with
      | creatingCrypto | accepting | sendingAnswer => exact effect_move h hOld (by simp) _ _ _ _
      | idle | polling | done => exact effect_refl h (by simp)
      | opening =>
          let done : Attempt := { attempt with answer := .done }
          have hSettle : Effect entry
              (entry.settle index done .answerer (attempt.answerKey.map .received))
              (attempt.settled = false → entry.currentAttemptId = attempt.id) :=
            effect_settle h hOld (by rfl) (by rfl) .answerer _
          simpa using hSettle

theorem numbered_attempt (h : Numbered entry) (now : Int) :
    Numbered (entry.attemptP2PConnection now) := by
  unfold attemptP2PConnection
  split
  · exact h
  · refine ⟨?_, fun index attempt hAttempt => ?_, fun install hInstall => ?_, h.once⟩
    · simp [h.current]
    · rw [List.getElem?_append] at hAttempt
      split at hAttempt
      · exact h.ids index attempt hAttempt
      next hBeyond =>
        obtain ⟨hIndex, rfl⟩ := List.getElem?_eq_some_iff.mp hAttempt
        have hLength : index - entry.attempts.length < 1 := hIndex
        have hEnd : index - entry.attempts.length = 0 := by omega
        simp only [hEnd, List.getElem_cons_zero, h.current]
        omega
    · obtain ⟨attempt, hMem, hInstalled⟩ := h.installed install hInstall
      exact ⟨attempt, List.mem_append_left _ hMem, hInstalled⟩

theorem effect_step (entry : RoomEntry) (input : AttemptInput) (h : Numbered entry) :
    Effect entry (entry.step input) (NewestOpens entry input) := by
  cases input with
  | attempt now =>
      refine ⟨numbered_attempt h now, fun hSilent => iff_of_true (silent_congr hSilent ?_) trivial⟩
      simp only [step, attemptP2PConnection]
      split <;> rfl
  | join =>
      exact ⟨numbered_congr h rfl rfl rfl, fun hSilent =>
        iff_of_true (silent_congr hSilent rfl) trivial⟩
  | fetched index offererCallId =>
      simp only [step]
      cases hOld : entry.attempts[index]? with
      | none => exact effect_refl h trivial
      | some attempt =>
          dsimp only
          split
          · exact effect_move h hOld trivial _ _ _ _
          · exact effect_refl h trivial
  | fetchFailed index =>
      simp only [step]
      cases hOld : entry.attempts[index]? with
      | none => exact effect_refl h trivial
      | some attempt =>
          dsimp only
          split
          · exact effect_move h hOld trivial _ _ _ _
          · exact effect_refl h trivial
  | offer index input =>
      simp only [step]
      cases hOld : entry.attempts[index]? with
      | none => exact effect_refl h (by cases input <;> simp [NewestOpens, hOld])
      | some attempt =>
          have hEffect := effect_offerPath h hOld input
          cases input <;> simpa [NewestOpens, hOld] using hEffect
  | answer index input =>
      simp only [step]
      cases hOld : entry.attempts[index]? with
      | none => exact effect_refl h (by cases input <;> simp [NewestOpens, hOld])
      | some attempt =>
          have hEffect := effect_answererPath h hOld input
          cases input <;> simpa [NewestOpens, hOld] using hEffect

end Steps

/-- Old attempts stay silent exactly in the runs where the channels that open belong
to the newest attempt, or to one that has its channel. -/
theorem always_silent_iff (inputs : List AttemptInput) :
    Always step Silent new inputs ↔ Admissible step NewestOpens new inputs := by
  have hNumbered : Numbered new := ⟨rfl, by simp [new], by simp [new], by simp [new]⟩
  have hSilent : Silent new := ⟨by simp [new], by simp [new]⟩
  exact always_iff_admissible_under (fun entry input h => (effect_step entry input h).numbered)
    (fun entry input h => (effect_step entry input h).silent_iff) hNumbered hSilent

/-- The offer of the first attempt is answered, and its channel opens after a second
attempt has begun. -/
theorem not_always_silent :
    ¬ Always step Silent new
      [.attempt 20000, .fetched 0 "call-1", .offer 0 .resolved, .offer 0 .resolved,
        .offer 0 .resolved, .offer 0 .resolved, .offer 0 .resolved, .offer 0 (.searched true),
        .offer 0 .resolved, .attempt 40000, .offer 0 .resolved] := by
  intro h
  have hNewest := h.last.newest ⟨⟨1, .offerer⟩, some (.offered 1), 2⟩ (by decide)
  cases hNewest

end RoomEntry

end Mxdx.Runtime
