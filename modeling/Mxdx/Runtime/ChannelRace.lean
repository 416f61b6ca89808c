import Mxdx.Runtime.Attempts

/-! One attempt of the launcher and one of the browser for the same room. Each side
offers a call and answers the other's, and takes the first channel that opens. The
paths are cut at their `await`; a signal that was sent may be read at any later time. -/
namespace Mxdx.Runtime

open Automaton

/-- The two sides. A call is named by the side that offers it. -/
inductive Side where
  | launcher
  | browser
deriving DecidableEq

/-- The end that this one talks to. -/
def Side.other : Side → Side
  | launcher => browser
  | browser => launcher

/-- The attempt of one side: the call whose channel and the one whose key it has handed
to its transport, its paths, the signals it has sent, whether it has passed the answer
to its own call on, and the calls whose channel it has closed. -/
structure Peer where
  settled : Bool
  channel : Option Side
  key : Option Side
  offer : OfferStage
  answer : AnswerStage
  inviteSent : Bool
  answerSent : Bool
  accepted : Bool
  closed : List Side
deriving DecidableEq

/-- How an `await` of a path ends; a poll or a search may bring the signal. -/
inductive PathInput where
  | resolved
  | rejected
  | polled (found expired : Bool)

/-- Both ends go on, in any order. -/
inductive RaceInput where
  | begins (side : Side)
  | offer (side : Side) (input : PathInput)
  | answer (side : Side) (input : PathInput)

namespace Peer

def new : Peer := ⟨false, none, none, .idle, .idle, false, false, false, []⟩

variable (side : Side) (peer : Peer)

/-- A channel that has lost is closed. -/
def close (call : Side) : Peer := { peer with closed := peer.closed ++ [call] }

/-- The first channel to open wins. -/
def settle (call : Side) : Peer :=
  if peer.settled then peer.close call
  else { peer with settled := true, channel := some call, key := some call }

/-- After the invite, the search and each poll. -/
def awaitAnswer (answered expired : Bool) : Peer :=
  if !answered && !expired && !peer.settled then { peer with offer := .polling }
  else if !answered || peer.settled then { peer with offer := .done }.close side
  else { peer with offer := .accepting, accepted := true }

/-- The launcher searches the room for an answer first; the browser closes its channel
if the invite cannot be sent. -/
def offerPath (answered : Bool) (input : PathInput) : Peer :=
  match peer.offer, input with
  | .delaying, .resolved =>
      { peer with offer := if peer.settled then .done else .generatingKey }
  | .generatingKey, .resolved => { peer with offer := .creatingCrypto }
  | .creatingCrypto, .resolved => { peer with offer := .creatingOffer }
  | .creatingOffer, .resolved => { peer with offer := .sendingInvite, inviteSent := true }
  | .sendingInvite, .resolved =>
      match side with
      | .launcher => { peer with offer := .searching }
      | .browser => peer.awaitAnswer side false false
  | .sendingInvite, .rejected =>
      match side with
      | .launcher => { peer with offer := .done }
      | .browser => { peer with offer := .done }.close side
  | .searching, .polled found _ => peer.awaitAnswer side (found && answered) false
  | .searching, .rejected => peer.awaitAnswer side false false
  | .polling, .polled found expired => peer.awaitAnswer side (found && answered) expired
  | .accepting, .resolved => { peer with offer := .opening }
  | .opening, .resolved => { peer with offer := .done }.settle side
  | .generatingKey, .rejected | .creatingCrypto, .rejected | .creatingOffer, .rejected
  | .polling, .rejected | .accepting, .rejected | .opening, .rejected =>
      { peer with offer := .done }
  | _, _ => peer

/-- The invite has a call, an offer and a key. The channel opens when the other side has
passed the answer on. -/
def answererPath (invited accepted : Bool) (input : PathInput) : Peer :=
  match peer.answer, input with
  | .polling, .polled found expired =>
      if found && invited then
        { peer with answer := if peer.settled then .done else .creatingCrypto }
      else { peer with answer := if expired || peer.settled then .done else .polling }
  | .creatingCrypto, .resolved => { peer with answer := .accepting }
  | .accepting, .resolved => { peer with answer := .sendingAnswer, answerSent := true }
  | .sendingAnswer, .resolved => { peer with answer := .opening }
  | .opening, .resolved =>
      if accepted then { peer with answer := .done }.settle side.other else peer
  | .polling, .rejected | .creatingCrypto, .rejected | .accepting, .rejected
  | .sendingAnswer, .rejected | .opening, .rejected => { peer with answer := .done }
  | _, _ => peer

end Peer

/-- Both ends of the race. -/
abbrev ChannelRace := Side → Peer

namespace ChannelRace

def new : ChannelRace := fun _ => .new

variable (race : ChannelRace)

def put (side : Side) (peer : Peer) : ChannelRace := Function.update race side peer

/-- One of the ends goes on. -/
def step (race : ChannelRace) : RaceInput → ChannelRace
  | .begins side =>
      if (race side).offer = .idle ∧ (race side).answer = .idle then
        race.put side { race side with offer := .delaying, answer := .polling }
      else race
  | .offer side input =>
      race.put side ((race side).offerPath side (race side.other).answerSent input)
  | .answer side input =>
      race.put side ((race side).answererPath side (race side.other).inviteSent
        (race side.other).accepted input)

/-- If both sides have a channel, then they have it of one call, and its key; and no
side has closed the channel that the other one has. -/
structure Agreed (race : ChannelRace) : Prop where
  channel : ∀ first second, (race .launcher).channel = some first →
    (race .browser).channel = some second → first = second
  key : ∀ first second, (race .launcher).key = some first →
    (race .browser).key = some second → first = second
  kept : ∀ side call, (race side).channel = some call → call ∉ (race side.other).closed

/-- The call whose channel opens on the side with the input. -/
def opens (side : Side) : RaceInput → Option Side
  | .offer own .resolved =>
      if own = side ∧ (race side).offer = .opening then some side else none
  | .answer own .resolved =>
      if own = side ∧ (race side).answer = .opening ∧ (race side.other).accepted = true then
        some side.other
      else none
  | _ => none

/-- The first channel to open on a side is of the call whose channel was the first to
open on the other side, if one has opened there. -/
def SameFirst (input : RaceInput) : Prop :=
  ∀ side call, race.opens side input = some call → (race side).settled = false →
    ∀ first, (race side.other).channel = some first → first = call

end ChannelRace

/-- What the steps of a side keep: a channel was taken by a path that is over, for a call
that was accepted, and a channel that was closed was another's, or the own one before
the answer came. -/
structure Peer.Sound (side : Side) (accepted answered : Bool) (peer : Peer) : Prop where
  settled : peer.settled = peer.channel.isSome
  key : peer.key = peer.channel
  own : peer.channel = some side → peer.accepted = true ∧ peer.offer = .done
  theirs : peer.channel = some side.other → accepted = true ∧ peer.answer = .done
  answered : peer.accepted = true → answered = true
  passed : peer.offer = .accepting ∨ peer.offer = .opening → peer.accepted = true
  late : peer.accepted = true → peer.offer = .accepting ∨ peer.offer = .opening ∨ peer.offer = .done
  closed : ∀ call ∈ peer.closed,
    (call = side ∧ peer.accepted = false ∧ peer.offer = .done) ∨
      (peer.settled = true ∧ peer.channel ≠ some call)

namespace Peer

variable {side : Side} {accepted answered : Bool} {peer : Peer}

@[simp] theorem other_ne (side : Side) : side.other ≠ side := by
  cases side <;> simp [Side.other]

theorem sound_new (side : Side) (accepted answered : Bool) : new.Sound side accepted answered := by
  constructor <;> simp [new]

/-- A path that goes on without a channel keeps what holds. -/
theorem sound_offer (offer : OfferStage) (inviteSent : Bool)
    (h : peer.Sound side accepted answered)
    (hEarly : peer.accepted = true → offer = .opening ∨ offer = .done)
    (hDone : peer.offer = .done → offer = .done)
    (hPassed : offer = .accepting ∨ offer = .opening → peer.accepted = true) :
    { peer with offer, inviteSent }.Sound side accepted answered := by
  refine ⟨h.settled, h.key, fun hOwn => ?_, h.theirs, h.answered, hPassed, fun hAccepted => ?_,
    fun call hCall => ?_⟩
  · obtain ⟨hAccepted, hStage⟩ := h.own hOwn
    exact ⟨hAccepted, hDone hStage⟩
  · exact .inr (hEarly hAccepted)
  · rcases h.closed call hCall with ⟨rfl, hAccepted, hStage⟩ | hOther
    · exact .inl ⟨rfl, hAccepted, hDone hStage⟩
    · exact .inr hOther

theorem sound_close (h : peer.Sound side accepted answered) {call : Side}
    (hCall : (call = side ∧ peer.accepted = false ∧ peer.offer = .done) ∨
      (peer.settled = true ∧ peer.channel ≠ some call)) :
    (peer.close call).Sound side accepted answered := by
  refine ⟨h.settled, h.key, h.own, h.theirs, h.answered, h.passed, h.late, fun other hOther => ?_⟩
  rcases List.mem_append.mp hOther with hOld | hNew
  · exact h.closed other hOld
  · rw [List.mem_singleton.mp hNew]
    exact hCall

theorem channel_eq_none (h : peer.Sound side accepted answered) (hSettled : peer.settled = false) :
    peer.channel = none := by
  have hSome := h.settled
  rw [hSettled] at hSome
  simpa using hSome.symm

theorem accepted_eq_false (h : peer.Sound side accepted answered)
    (hBefore : peer.offer ≠ .accepting ∧ peer.offer ≠ .opening ∧ peer.offer ≠ .done) :
    peer.accepted = false := by
  by_contra hAccepted
  rcases h.late (by simpa using hAccepted) with hStage | hStage | hStage
  · exact hBefore.1 hStage
  · exact hBefore.2.1 hStage
  · exact hBefore.2.2 hStage

theorem sound_awaitAnswer (h : peer.Sound side accepted answered)
    (hStage : peer.offer = .sendingInvite ∨ peer.offer = .searching ∨ peer.offer = .polling)
    {found : Bool} (hFound : found = true → answered = true) (expired : Bool) :
    (peer.awaitAnswer side found expired).Sound side accepted answered := by
  have hAccepted : peer.accepted = false :=
    accepted_eq_false h (by rcases hStage with h | h | h <;> simp [h])
  unfold awaitAnswer
  split_ifs with hPolls hEnds
  · exact sound_offer _ _ h (by simp [hAccepted]) (by rcases hStage with h | h | h <;> simp [h])
      (by simp)
  · have hOver := sound_offer .done peer.inviteSent h (by simp) (by simp) (by simp)
    exact sound_close hOver (.inl ⟨rfl, hAccepted, rfl⟩)
  · have hNot : peer.settled = false ∧ found = true := by
      cases hSettled : peer.settled <;> cases found <;> simp_all
    have hNone := channel_eq_none h hNot.1
    refine ⟨h.settled, h.key, by simp [hNone], by simp [hNone], fun _ => hFound hNot.2, by simp,
      by simp, fun call hCall => ?_⟩
    rcases h.closed call hCall with ⟨-, -, hDone⟩ | ⟨hSettled, -⟩
    · rcases hStage with hStage | hStage | hStage <;> simp [hStage] at hDone
    · rw [hNot.1] at hSettled
      cases hSettled

theorem sound_answer (answer : AnswerStage) (answerSent : Bool)
    (h : peer.Sound side accepted answered) (hDone : peer.answer = .done → answer = .done) :
    { peer with answer, answerSent }.Sound side accepted answered := by
  refine ⟨h.settled, h.key, h.own, fun hTheirs => ?_, h.answered, h.passed, h.late, h.closed⟩
  obtain ⟨hAccepted, hStage⟩ := h.theirs hTheirs
  exact ⟨hAccepted, hDone hStage⟩

/-- The channel of the own call opens. -/
theorem sound_settle_own (h : peer.Sound side accepted answered) (hStage : peer.offer = .opening) :
    ({ peer with offer := .done }.settle side).Sound side accepted answered := by
  have hAccepted := h.passed (.inr hStage)
  have hDone : { peer with offer := .done }.Sound side accepted answered :=
    sound_offer .done peer.inviteSent h (by simp) (by simp) (by simp)
  unfold settle
  split
  next hSettled =>
    refine sound_close hDone (.inr ⟨hSettled, fun hOwn => ?_⟩)
    rw [(h.own hOwn).2] at hStage
    cases hStage
  next hSettled =>
    refine ⟨rfl, rfl, fun _ => ⟨hAccepted, rfl⟩, fun hTheirs => ?_, h.answered, by simp, by simp,
      fun call hCall => ?_⟩
    · exact absurd (Option.some.inj hTheirs).symm (other_ne side)
    · rcases h.closed call hCall with ⟨-, hNot, -⟩ | ⟨hOld, -⟩
      · rw [hAccepted] at hNot
        cases hNot
      · exact absurd hOld hSettled

/-- The channel of the other side's call opens. -/
theorem sound_settle_theirs (h : peer.Sound side true answered) (hStage : peer.answer = .opening) :
    ({ peer with answer := .done }.settle side.other).Sound side true answered := by
  have hDone : { peer with answer := .done }.Sound side true answered :=
    sound_answer .done peer.answerSent h (by simp)
  unfold settle
  split
  next hSettled =>
    refine sound_close hDone (.inr ⟨hSettled, fun hTheirs => ?_⟩)
    rw [(h.theirs hTheirs).2] at hStage
    cases hStage
  next hSettled =>
    refine ⟨rfl, rfl, fun hOwn => ?_, fun _ => ⟨rfl, rfl⟩, h.answered, h.passed, h.late,
      fun call hCall => ?_⟩
    · exact absurd (Option.some.inj hOwn) (other_ne side)
    · rcases h.closed call hCall with ⟨rfl, hNot, hOver⟩ | ⟨hOld, -⟩
      · exact .inl ⟨rfl, hNot, hOver⟩
      · exact absurd hOld hSettled

/-- A path that has no answer yet goes on to its next stage. -/
theorem sound_advance (offer : OfferStage) (inviteSent : Bool)
    (h : peer.Sound side accepted answered)
    (hBefore : peer.offer ≠ .accepting ∧ peer.offer ≠ .opening ∧ peer.offer ≠ .done)
    (hAfter : offer ≠ .accepting ∧ offer ≠ .opening) :
    { peer with offer, inviteSent }.Sound side accepted answered := by
  have hAccepted := accepted_eq_false h hBefore
  refine sound_offer _ _ h (fun hTrue => absurd hTrue (Bool.eq_false_iff.mp hAccepted))
    (fun hDone => absurd hDone hBefore.2.2) ?_
  rintro (hStage | hStage)
  · exact absurd hStage hAfter.1
  · exact absurd hStage hAfter.2

theorem sound_offerPath (h : peer.Sound side accepted answered) (input : PathInput) :
    (peer.offerPath side answered input).Sound side accepted answered := by
  unfold offerPath
  split
  case h_1 hStage => exact sound_advance _ _ h (by simp [hStage]) (by split <;> simp)
  case h_2 hStage | h_3 hStage | h_4 hStage =>
    exact sound_advance _ _ h (by simp [hStage]) (by simp)
  case h_5 hStage =>
    split
    · exact sound_advance _ _ h (by simp [hStage]) (by simp)
    · exact sound_awaitAnswer h (.inl hStage) (by simp) false
  case h_6 hStage =>
    have hAccepted := accepted_eq_false h (by simp [hStage])
    have hDone : { peer with offer := .done }.Sound side accepted answered :=
      sound_advance .done peer.inviteSent h (by simp [hStage]) (by simp)
    split
    · exact hDone
    · exact sound_close hDone (.inl ⟨rfl, hAccepted, rfl⟩)
  case h_7 found _ hStage =>
    exact sound_awaitAnswer h (.inr (.inl hStage))
      (fun hFound => (Bool.and_eq_true_iff.mp hFound).2) false
  case h_8 hStage => exact sound_awaitAnswer h (.inr (.inl hStage)) (by simp) false
  case h_9 found expired hStage =>
    exact sound_awaitAnswer h (.inr (.inr hStage))
      (fun hFound => (Bool.and_eq_true_iff.mp hFound).2) expired
  case h_10 hStage =>
    exact sound_offer _ _ h (by simp) (by simp [hStage]) fun _ => h.passed (.inl hStage)
  case h_11 hStage => exact sound_settle_own h hStage
  case h_18 => exact h
  all_goals exact sound_offer _ _ h (by simp) (by simp) (by simp)

theorem sound_answererPath (h : peer.Sound side accepted answered) (invited : Bool)
    (input : PathInput) :
    (peer.answererPath side invited accepted input).Sound side accepted answered := by
  unfold answererPath
  split
  case h_1 hStage =>
    split
    · exact sound_answer _ _ h (by simp [hStage])
    · exact sound_answer _ _ h (by simp [hStage])
  case h_2 hStage | h_3 hStage | h_4 hStage => exact sound_answer _ _ h (by simp [hStage])
  case h_5 hStage =>
    split
    next hAccepted =>
      subst hAccepted
      exact sound_settle_theirs h hStage
    · exact h
  case h_11 => exact h
  all_goals exact sound_answer _ _ h (by simp)

theorem Sound.mono (h : peer.Sound side accepted answered) {accepted' answered' : Bool}
    (hAccepted : accepted = true → accepted' = true)
    (hAnswered : answered = true → answered' = true) :
    peer.Sound side accepted' answered' :=
  ⟨h.settled, h.key, h.own, fun hTheirs => (h.theirs hTheirs).imp_left hAccepted,
    fun hPassed => hAnswered (h.answered hPassed), h.passed, h.late, h.closed⟩

theorem settle_flags (peer : Peer) (call : Side) :
    (peer.settle call).accepted = peer.accepted ∧
      (peer.settle call).answerSent = peer.answerSent := by
  unfold settle
  split <;> exact ⟨rfl, rfl⟩

theorem awaitAnswer_flags (side : Side) (peer : Peer) (found expired : Bool) :
    (peer.accepted = true → (peer.awaitAnswer side found expired).accepted = true) ∧
      (peer.awaitAnswer side found expired).answerSent = peer.answerSent := by
  unfold awaitAnswer
  split_ifs
  · exact ⟨id, rfl⟩
  · exact ⟨id, rfl⟩
  · exact ⟨fun _ => rfl, rfl⟩

/-- The offering path sends no answer, and does not take an acceptance back. -/
theorem offerPath_flags (side : Side) (peer : Peer) (answered : Bool) (input : PathInput) :
    (peer.accepted = true → (peer.offerPath side answered input).accepted = true) ∧
      (peer.offerPath side answered input).answerSent = peer.answerSent := by
  unfold offerPath
  split
  case h_5 =>
    split
    · exact ⟨id, rfl⟩
    · exact awaitAnswer_flags _ peer _ _
  case h_6 => split <;> exact ⟨id, rfl⟩
  case h_7 | h_8 | h_9 => exact awaitAnswer_flags side peer _ _
  case h_11 =>
    obtain ⟨hAccepted, hSent⟩ := settle_flags { peer with offer := .done } side
    exact ⟨fun h => hAccepted.trans h, hSent⟩
  all_goals exact ⟨id, rfl⟩

theorem answererPath_flags (side : Side) (peer : Peer) (invited accepted : Bool)
    (input : PathInput) :
    (peer.answererPath side invited accepted input).accepted = peer.accepted ∧
      (peer.answerSent = true →
        (peer.answererPath side invited accepted input).answerSent = true) := by
  unfold answererPath
  split
  case h_1 => split <;> exact ⟨rfl, id⟩
  case h_3 => exact ⟨rfl, fun _ => rfl⟩
  case h_5 =>
    split
    · obtain ⟨hAccepted, hSent⟩ := settle_flags { peer with answer := .done } side.other
      exact ⟨hAccepted, fun h => hSent.trans h⟩
    · exact ⟨rfl, id⟩
  all_goals exact ⟨rfl, id⟩

theorem channel_settle (peer : Peer) (call : Side) :
    (peer.settle call).channel = if peer.settled then peer.channel else some call := by
  unfold settle
  split <;> rfl

theorem channel_awaitAnswer (side : Side) (peer : Peer) (found expired : Bool) :
    (peer.awaitAnswer side found expired).channel = peer.channel := by
  unfold awaitAnswer
  split_ifs <;> rfl

/-- Only a channel that opens is taken. -/
theorem channel_offerPath (side : Side) (peer : Peer) (answered : Bool) (input : PathInput)
    (hOpens : input = .resolved → peer.offer = .opening → peer.settled = true) :
    (peer.offerPath side answered input).channel = peer.channel := by
  unfold offerPath
  split
  case h_5 =>
    split
    · rfl
    · exact channel_awaitAnswer ..
  case h_6 => split <;> rfl
  case h_7 | h_8 | h_9 => exact channel_awaitAnswer ..
  case h_11 hStage => rw [channel_settle, if_pos (hOpens rfl hStage)]
  all_goals rfl

theorem channel_answererPath (side : Side) (peer : Peer) (invited accepted : Bool)
    (input : PathInput)
    (hOpens : input = .resolved → peer.answer = .opening → accepted = true → peer.settled = true) :
    (peer.answererPath side invited accepted input).channel = peer.channel := by
  unfold answererPath
  split
  case h_1 => split <;> rfl
  case h_5 hStage =>
    split
    next hAccepted => rw [channel_settle, if_pos (hOpens rfl hStage hAccepted)]
    · rfl
  all_goals rfl

end Peer

@[simp] theorem Side.other_other (side : Side) : side.other.other = side := by
  cases side <;> rfl

theorem Side.eq_or_other (first second : Side) : second = first ∨ second = first.other := by
  cases first <;> cases second <;> simp [Side.other]

namespace ChannelRace

def Sound (race : ChannelRace) : Prop :=
  ∀ side, (race side).Sound side (race side.other).accepted (race side.other).answerSent

section Steps

variable {race : ChannelRace} {side : Side} {peer : Peer}

@[simp] theorem put_self : race.put side peer side = peer := Function.update_self ..

@[simp] theorem put_other : race.put side peer side.other = race side.other :=
  Function.update_of_ne (Peer.other_ne side) ..

theorem sound_put (h : Sound race)
    (hPeer : peer.Sound side (race side.other).accepted (race side.other).answerSent)
    (hAccepted : (race side).accepted = true → peer.accepted = true)
    (hSent : (race side).answerSent = true → peer.answerSent = true) :
    Sound (race.put side peer) := by
  intro found
  rcases Side.eq_or_other side found with rfl | rfl
  · simpa using hPeer
  · have hOther := h side.other
    rw [Side.other_other] at hOther
    simpa using hOther.mono hAccepted hSent

theorem sound_step (race : ChannelRace) (input : RaceInput) (h : Sound race) :
    Sound (race.step input) := by
  cases input with
  | begins side =>
      rw [step]
      split
      next hIdle =>
        have hOffer := Peer.sound_advance .delaying (race side).inviteSent (h side)
          (by simp [hIdle.1]) (by simp)
        have hBegun := Peer.sound_answer .polling (race side).answerSent hOffer (by simp [hIdle.2])
        exact sound_put h hBegun id id
      · exact h
  | offer side input =>
      obtain ⟨hAccepted, hSent⟩ := Peer.offerPath_flags side (race side)
        (race side.other).answerSent input
      exact sound_put h (Peer.sound_offerPath (h side) input) hAccepted fun hOld => hSent.trans hOld
  | answer side input =>
      obtain ⟨hAccepted, hSent⟩ := Peer.answererPath_flags side (race side)
        (race side.other).inviteSent (race side.other).accepted input
      exact sound_put h (Peer.sound_answererPath (h side) _ input)
        (fun hOld => hAccepted.trans hOld) hSent

/-- The two sides do not have channels of different calls. -/
def SameCall (race : ChannelRace) : Prop :=
  ∀ side call other, (race side).channel = some call → (race side.other).channel = some other →
    call = other

/-- Which channels the sides have decides about the rest. -/
theorem agreed_iff (h : Sound race) : Agreed race ↔ SameCall race := by
  constructor
  · intro hAgreed side call other hCall hOther
    cases side with
    | launcher => exact hAgreed.channel call other hCall hOther
    | browser => exact (hAgreed.channel other call hOther hCall).symm
  · intro hSame
    refine ⟨hSame .launcher, fun first second hFirst hSecond => ?_,
      fun side call hCall hClosed => ?_⟩
    · rw [(h .launcher).key] at hFirst
      rw [(h .browser).key] at hSecond
      exact hSame .launcher first second hFirst hSecond
    · rcases (h side.other).closed call hClosed with ⟨rfl, hNot, -⟩ | ⟨hSettled, hOther⟩
      · rw [((h side).theirs hCall).1] at hNot
        cases hNot
      · rw [(h side.other).settled] at hSettled
        obtain ⟨other, hChannel⟩ := Option.isSome_iff_exists.mp hSettled
        exact hOther (hSame side call other hCall hChannel ▸ hChannel)

theorem opens_offer {own call : Side} {input : PathInput}
    (h : race.opens side (.offer own input) = some call) :
    input = .resolved ∧ own = side ∧ (race side).offer = .opening ∧ side = call := by
  cases input with
  | rejected | polled => cases h
  | resolved => simpa [opens, and_assoc] using h

theorem opens_answer {own call : Side} {input : PathInput}
    (h : race.opens side (.answer own input) = some call) :
    input = .resolved ∧ own = side ∧ (race side).answer = .opening ∧
      (race side.other).accepted = true ∧ side.other = call := by
  cases input with
  | rejected | polled => cases h
  | resolved => simpa [opens, and_assoc] using h

theorem sameCall_put_of_eq (hPeer : peer.channel = (race side).channel) (hSame : SameCall race) :
    SameCall (race.put side peer) := by
  intro found call other hCall hOther
  apply hSame found call other
  · rcases Side.eq_or_other side found with rfl | rfl
    · rwa [put_self, hPeer] at hCall
    · rwa [put_other] at hCall
  · rcases Side.eq_or_other side found with rfl | rfl
    · rwa [put_other] at hOther
    · rwa [Side.other_other, put_self, hPeer, ← Side.other_other side] at hOther

theorem sameCall_put_iff {call : Side} (hPeer : peer.channel = some call) :
    SameCall (race.put side peer) ↔
      ∀ first, (race side.other).channel = some first → first = call := by
  constructor
  · intro hSame first hFirst
    exact (hSame side call first (by rw [put_self, hPeer]) (by rw [put_other, hFirst])).symm
  · intro hFirst found one other hOne hOther
    rcases Side.eq_or_other side found with rfl | rfl
    · rw [put_self, hPeer] at hOne
      rw [put_other] at hOther
      rw [hFirst other hOther, Option.some.inj hOne]
    · rw [put_other] at hOne
      rw [Side.other_other, put_self, hPeer] at hOther
      rw [hFirst one hOne, Option.some.inj hOther]

/-- A side that takes the channel which opens on it, unless it has one, keeps the
agreement exactly if the channel is of the call that the other side has. -/
theorem sameCall_opens_iff {input : RaceInput} (hSame : SameCall race)
    (hOnly : ∀ found call, race.opens found input = some call → found = side)
    (hTakes : ∀ call, race.opens side input = some call → (race side).settled = false →
      peer.channel = some call)
    (hKeeps : (∀ call, race.opens side input = some call → (race side).settled = true) →
      peer.channel = (race side).channel) :
    SameCall (race.put side peer) ↔ race.SameFirst input := by
  by_cases hOpens : ∃ call, race.opens side input = some call ∧ (race side).settled = false
  · obtain ⟨call, hCall, hSettled⟩ := hOpens
    rw [sameCall_put_iff (hTakes call hCall hSettled)]
    constructor
    · intro hFirst found one hOne _
      obtain rfl := hOnly found one hOne
      rwa [← Option.some.inj (hCall.symm.trans hOne)]
    · intro hGuard
      exact hGuard side call hCall hSettled
  · apply iff_of_true
    · apply sameCall_put_of_eq (hKeeps fun call hCall => ?_) hSame
      by_contra hSettled
      exact hOpens ⟨call, hCall, by simpa using hSettled⟩
    · intro found call hCall hSettled
      obtain rfl := hOnly found call hCall
      exact absurd ⟨call, hCall, hSettled⟩ hOpens

/-- A step keeps the sides in agreement exactly if the channel that opens, if one does,
is of the call that the other side has. -/
theorem sameCall_step_iff (hSame : SameCall race) (input : RaceInput) :
    SameCall (race.step input) ↔ race.SameFirst input := by
  cases input with
  | begins side =>
      refine iff_of_true ?_ fun found call hOpens => by cases hOpens
      rw [step]
      split
      · exact sameCall_put_of_eq rfl hSame
      · exact hSame
  | offer side input =>
      apply sameCall_opens_iff hSame
      · intro found call hCall
        exact (opens_offer hCall).2.1.symm
      · intro call hCall hSettled
        obtain ⟨rfl, -, hStage, rfl⟩ := opens_offer hCall
        unfold Peer.offerPath
        rw [hStage]
        exact (Peer.channel_settle _ side).trans (if_neg (by simp [hSettled]))
      · intro hTaken
        apply Peer.channel_offerPath
        rintro rfl hStage
        exact hTaken side (by simp [opens, hStage])
  | answer side input =>
      apply sameCall_opens_iff hSame
      · intro found call hCall
        exact (opens_answer hCall).2.1.symm
      · intro call hCall hSettled
        obtain ⟨rfl, -, hStage, hAccepted, rfl⟩ := opens_answer hCall
        unfold Peer.answererPath
        rw [hStage, hAccepted]
        exact (Peer.channel_settle _ side.other).trans (if_neg (by simp [hSettled]))
      · intro hTaken
        apply Peer.channel_answererPath
        rintro rfl hStage hAccepted
        exact hTaken side.other (by simp [opens, hStage, hAccepted])

theorem agreed_step_iff (race : ChannelRace) (input : RaceInput) (h : Sound race)
    (hAgreed : Agreed race) : Agreed (race.step input) ↔ race.SameFirst input := by
  rw [agreed_iff (sound_step race input h), sameCall_step_iff ((agreed_iff h).mp hAgreed)]

end Steps

theorem sound_new : Sound new := fun side => Peer.sound_new side _ _

/-- The two sides agree in every state of a run exactly if the first channel that opens on
the one side and the first one on the other side are of one call. -/
theorem always_agreed_iff (inputs : List RaceInput) :
    Always step Agreed new inputs ↔ Admissible step SameFirst new inputs :=
  always_iff_admissible_under sound_step agreed_step_iff sound_new
    ⟨by simp [new, Peer.new], by simp [new, Peer.new], by simp [new, Peer.new]⟩

/-- With one answer there is one call: then the sides agree whatever opens when. -/
theorem agreed_of_one_answer (inputs : List RaceInput) (side : Side)
    (hOne : (run step new inputs side).answerSent = false) : Agreed (run step new inputs) := by
  have h : Sound (run step new inputs) := (always_of_step sound_step sound_new inputs).last
  rw [agreed_iff h]
  have hCall : ∀ found call, (run step new inputs found).channel = some call → call = side := by
    intro found call hChannel
    have hAccepted : (run step new inputs call).accepted = true := by
      rcases Side.eq_or_other found call with rfl | rfl
      · exact ((h call).own hChannel).1
      · exact ((h found).theirs hChannel).1
    have hAnswered := (h call).answered hAccepted
    rcases Side.eq_or_other side call with rfl | rfl
    · rfl
    · rw [Side.other_other, hOne] at hAnswered
      cases hAnswered
  intro found call other hFirst hOther
  rw [hCall found call hFirst, hCall found.other other hOther]

/-- Both calls are answered; the launcher's opens first on the launcher, the browser's
first on the browser, and each side closes the channel of the other. -/
theorem channels_crossed :
    let offers (side : Side) : List RaceInput :=
      .begins side :: List.replicate 4 (.offer side .resolved)
    let answers (side : Side) : List RaceInput :=
      .answer side (.polled true false) :: List.replicate 3 (.answer side .resolved)
    let inputs : List RaceInput :=
      offers .launcher ++ offers .browser ++ answers .launcher ++ answers .browser ++
        [.offer .launcher .resolved, .offer .launcher (.polled true false),
          .offer .browser .resolved, .offer .browser (.polled true false),
          .offer .launcher .resolved, .offer .browser .resolved,
          .offer .launcher .resolved, .offer .browser .resolved,
          .answer .launcher .resolved, .answer .browser .resolved]
    let race := run step new inputs
    (race .launcher).channel = some .launcher ∧ (race .browser).channel = some .browser ∧
      (race .launcher).closed = [.browser] ∧ (race .browser).closed = [.launcher] ∧
      ¬ Always step Agreed new inputs := by
  intro offers answers inputs race
  have hLauncher : (race .launcher).channel = some .launcher := by decide
  have hBrowser : (race .browser).channel = some .browser := by decide
  refine ⟨hLauncher, hBrowser, by decide, by decide, fun hAlways => ?_⟩
  have hSame := hAlways.last.channel _ _ hLauncher hBrowser
  cases hSame

end ChannelRace

end Mxdx.Runtime
