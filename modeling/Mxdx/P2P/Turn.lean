import Mxdx.Basic
import Mxdx.Foundations.Automaton
import Mathlib.Algebra.Group.Nat.Defs
import Mathlib.Tactic.Common

/-! TURN credentials and the task that refreshes them during a call. The loop
sleeps, fetches and reports by the monotonic clock; the wall clock is only read
to carry the times of the credentials over to it, and each reading is an input. -/
namespace Mxdx.P2P

open Automaton

/-- A wall-clock time, in nanoseconds around 1970. -/
abbrev SystemTime := Int

/-- The clocks count seconds in an `i64`. -/
def clockLimit : Nat := 2 ^ 63 * 1000000000

/-- `SystemTime + Duration`, which panics when the sum is out of range. -/
def SystemTime.add (time : SystemTime) (span : Duration) : Option SystemTime :=
  if time + span < clockLimit then some (time + span) else none

/-- `Instant + Duration`, which panics when the sum is out of range. -/
def Instant.add (time : Instant) (span : Duration) : Option Instant :=
  if time + span < clockLimit then some (time + span) else none

/-- `later.duration_since(earlier)`, or no time at all if it is not later. -/
def SystemTime.since (later earlier : SystemTime) : Duration := (later - earlier).toNat

/-- What a homeserver gives out for its TURN servers. -/
structure TurnCredentials where
  uris : List String
  username : String
  password : String
  ttl : Duration
  fetchedAt : SystemTime
deriving DecidableEq, Repr

namespace TurnCredentials

/-- When the credentials run out, if the clock reaches so far. -/
def expiresAt (creds : TurnCredentials) : Option SystemTime :=
  SystemTime.add creds.fetchedAt creds.ttl

/-- When half of their time is over. -/
def refreshAt (creds : TurnCredentials) : Option SystemTime :=
  SystemTime.add creds.fetchedAt (creds.ttl / 2)

/-- When the credentials expire by the monotonic clock, which shows `now` while
the wall clock shows `wall`. -/
def expiryOn (creds : TurnCredentials) (now : Instant) (wall : SystemTime) : Option Instant := do
  Instant.add now (SystemTime.since (← creds.expiresAt) wall)

/-- When to refresh them, by the monotonic clock. -/
def wakeOn (creds : TurnCredentials) (now : Instant) (wall : SystemTime) : Option Instant := do
  Instant.add now (SystemTime.since (← creds.refreshAt) wall)

end TurnCredentials

/-- What the owner hears of the refreshing. -/
inductive TurnRefreshOutcome where
  | refreshed (creds : TurnCredentials)
  | retryPending
  | expired
deriving DecidableEq, Repr

/-- The waits between two attempts. -/
def refreshBackoffSecs : List Nat := [5, 10, 20, 40, 60]

/-- Where the loop waits: for its timer or a trigger, for the fetcher, or for
room in the channel of outcomes. -/
inductive RefreshPhase where
  | sleeping
  | fetching
  | sending (outcome : TurnRefreshOutcome)
  | ended
  | panicked
deriving DecidableEq, Repr

/-- An outcome with the time at which the loop came to it. -/
structure Emission where
  time : Instant
  outcome : TurnRefreshOutcome
deriving DecidableEq, Repr

/-- The variables of `run_refresh_loop`. `expiry` is kept beside them: when the
credentials obtained last expire, none if no clock gets that far. -/
structure RefreshLoop where
  now : Instant
  hardExpiry : Instant
  nextWake : Instant
  backoffIdx : Fin refreshBackoffSecs.length
  phase : RefreshPhase
  expiry : Option Instant
  emitted : List Emission

/-- A successful fetch comes with the reading of the wall clock after it. -/
inductive RefreshInput where
  | elapse (span : Duration)
  | shutdown
  | trigger
  | timer
  | fetched (creds : TurnCredentials) (wall : SystemTime)
  | fetchFailed
  | sent (accepted : Bool)

namespace RefreshLoop

def firstBackoff : Fin refreshBackoffSecs.length := ⟨0, by decide⟩

/-- The last wait is repeated. -/
def nextBackoff (idx : Fin refreshBackoffSecs.length) : Fin refreshBackoffSecs.length :=
  ⟨min (idx + 1) (refreshBackoffSecs.length - 1), Nat.lt_of_le_of_lt (Nat.min_le_right ..) (by decide)⟩

/-- The start of `run_refresh_loop`, where the times of the seed may be too far
away to be added up. -/
def spawn (initial : TurnCredentials) (now : Instant) (wall : SystemTime) :
    Option RefreshLoop := do
  let hardExpiry ← initial.expiryOn now wall
  let nextWake ← initial.wakeOn now wall
  return ⟨now, hardExpiry, nextWake, firstBackoff, .sleeping, some hardExpiry, []⟩

/-- The loop waits until the owner has taken the outcome. -/
def emit (loop : RefreshLoop) (outcome : TurnRefreshOutcome) : RefreshLoop :=
  { loop with phase := .sending outcome, emitted := loop.emitted ++ [⟨loop.now, outcome⟩] }

/-- What follows the `select!`: the hard expiry is checked before the fetch. -/
def wake (loop : RefreshLoop) : RefreshLoop :=
  if loop.hardExpiry ≤ loop.now then loop.emit .expired else { loop with phase := .fetching }

/-- The next refresh is due at the half-life of the new credentials. -/
def succeed (loop : RefreshLoop) (creds : TurnCredentials) (wall : SystemTime) : RefreshLoop :=
  let obtained := { loop with expiry := creds.expiryOn loop.now wall }
  match creds.wakeOn loop.now wall with
  | some nextWake => { obtained with backoffIdx := firstBackoff, nextWake }.emit (.refreshed creds)
  | none => { obtained with phase := .panicked }

/-- A retry is a minute off at most, too little to overflow a clock, and is not put
off beyond the hard expiry. -/
def fail (loop : RefreshLoop) : RefreshLoop :=
  let backoff := Duration.fromSecs refreshBackoffSecs[loop.backoffIdx]
  let candidateWake := loop.now + backoff
  { loop with
    backoffIdx := nextBackoff loop.backoffIdx
    nextWake :=
      if loop.hardExpiry ≤ candidateWake then loop.hardExpiry else candidateWake }.emit
    .retryPending

/-- The loop goes on from one of its waits. -/
def step (loop : RefreshLoop) : RefreshInput → RefreshLoop
  | .elapse span => { loop with now := loop.now + span }
  | .shutdown => if loop.phase = .sleeping then { loop with phase := .ended } else loop
  | .trigger => if loop.phase = .sleeping then loop.wake else loop
  | .timer => if loop.phase = .sleeping ∧ loop.nextWake ≤ loop.now then loop.wake else loop
  | .fetched creds wall => if loop.phase = .fetching then loop.succeed creds wall else loop
  | .fetchFailed => if loop.phase = .fetching then loop.fail else loop
  | .sent accepted =>
      match loop.phase with
      | .sending outcome =>
          if accepted ∧ outcome ≠ .expired then { loop with phase := .sleeping }
          else { loop with phase := .ended }
      | _ => loop

/-- The loop goes by the expiry of the credentials obtained last, and reports
`Expired` only at a time when they have expired. -/
structure Punctual (loop : RefreshLoop) : Prop where
  current : loop.expiry = some loop.hardExpiry
  expired : ∀ emission ∈ loop.emitted, emission.outcome = .expired →
    ∃ expiry, loop.expiry = some expiry ∧ expiry ≤ emission.time

/-- Credentials that are fetched expire when the seed did. -/
def KeepsExpiry (loop : RefreshLoop) : RefreshInput → Prop
  | .fetched creds wall =>
      loop.phase = .fetching → creds.expiryOn loop.now wall = some loop.hardExpiry
  | _ => True

variable {loop : RefreshLoop}

theorem Punctual.congr {next : RefreshLoop} (h : loop.Punctual)
    (hHard : next.hardExpiry = loop.hardExpiry) (hExpiry : next.expiry = loop.expiry)
    (hEmitted : next.emitted = loop.emitted) : next.Punctual := by
  constructor
  · rw [hExpiry, hHard]
    exact h.current
  · rw [hExpiry, hEmitted]
    exact h.expired

/-- Any outcome may be reported, `Expired` once the hard expiry has come. -/
theorem Punctual.emit (h : loop.Punctual) {outcome : TurnRefreshOutcome}
    (hDue : outcome = .expired → loop.hardExpiry ≤ loop.now) : (loop.emit outcome).Punctual := by
  refine ⟨h.current, ?_⟩
  intro emission hEmission hOutcome
  rcases List.mem_append.mp hEmission with hOld | hNew
  · exact h.expired emission hOld hOutcome
  · obtain rfl := List.mem_singleton.mp hNew
    exact ⟨loop.hardExpiry, h.current, hDue hOutcome⟩

theorem Punctual.wake (h : loop.Punctual) : loop.wake.Punctual := by
  unfold RefreshLoop.wake
  split
  next hDue => exact h.emit fun _ => hDue
  · exact h.congr rfl rfl rfl

theorem Punctual.fail (h : loop.Punctual) : loop.fail.Punctual := by
  apply Punctual.emit _ (by simp)
  exact h.congr rfl rfl rfl

@[simp] theorem succeed_hardExpiry (loop : RefreshLoop) (creds : TurnCredentials)
    (wall : SystemTime) : (loop.succeed creds wall).hardExpiry = loop.hardExpiry := by
  unfold succeed
  split <;> rfl

@[simp] theorem succeed_expiry (loop : RefreshLoop) (creds : TurnCredentials)
    (wall : SystemTime) : (loop.succeed creds wall).expiry = creds.expiryOn loop.now wall := by
  unfold succeed
  split <;> rfl

/-- A refresh leaves the hard expiry where it was. -/
theorem Punctual.succeed_iff (h : loop.Punctual) (creds : TurnCredentials) (wall : SystemTime) :
    (loop.succeed creds wall).Punctual ↔
      creds.expiryOn loop.now wall = some loop.hardExpiry := by
  constructor
  · intro hNext
    simpa using hNext.current
  · intro hExpiry
    have hObtained : Punctual { loop with expiry := creds.expiryOn loop.now wall } :=
      h.congr rfl (hExpiry.trans h.current.symm) rfl
    unfold succeed
    split
    · apply Punctual.emit _ (by simp)
      exact hObtained.congr rfl rfl rfl
    · exact hObtained.congr rfl rfl rfl

theorem punctual_step_iff (loop : RefreshLoop) (input : RefreshInput) (h : loop.Punctual) :
    (loop.step input).Punctual ↔ loop.KeepsExpiry input := by
  cases input with
  | fetched creds wall =>
      simp only [step, KeepsExpiry]
      split
      next hFetching => simp [h.succeed_iff, hFetching]
      next hOther => exact iff_of_true h fun hFetching => absurd hFetching hOther
  | elapse span => exact iff_of_true (h.congr rfl rfl rfl) trivial
  | shutdown =>
      apply iff_of_true _ trivial
      simp only [step]
      split
      · exact h.congr rfl rfl rfl
      · exact h
  | trigger =>
      apply iff_of_true _ trivial
      simp only [step]
      split
      · exact h.wake
      · exact h
  | timer =>
      apply iff_of_true _ trivial
      simp only [step]
      split
      · exact h.wake
      · exact h
  | fetchFailed =>
      apply iff_of_true _ trivial
      simp only [step]
      split
      · exact h.fail
      · exact h
  | sent accepted =>
      apply iff_of_true _ trivial
      simp only [step]
      split
      · split
        · exact h.congr rfl rfl rfl
        · exact h.congr rfl rfl rfl
      · exact h

/-- The loop is punctual exactly in the runs where every refresh brings
credentials that expire when the first ones did. -/
theorem always_punctual_iff {initial : TurnCredentials} {now : Instant} {wall : SystemTime}
    {start : RefreshLoop} (hStart : spawn initial now wall = some start)
    (inputs : List RefreshInput) :
    Always step Punctual start inputs ↔ Admissible step KeepsExpiry start inputs := by
  apply always_iff_admissible punctual_step_iff
  simp only [spawn, Option.bind_eq_bind, Option.bind_eq_some_iff] at hStart
  obtain ⟨hardExpiry, -, nextWake, -, hLoop⟩ := hStart
  cases hLoop
  exact ⟨rfl, by simp⟩

section Minutes

/-- Credentials fetched at the given second, good for ten minutes. -/
def tenMinutes (second : Nat) : TurnCredentials :=
  ⟨["turn:a.example.org:3478"], "u", "p", .fromSecs 600, Duration.fromSecs second⟩

def fresh : RefreshLoop :=
  ⟨0, Duration.fromSecs 600, Duration.fromSecs 300, firstBackoff, .sleeping,
    some (Duration.fromSecs 600), []⟩

theorem spawn_tenMinutes : spawn (tenMinutes 0) 0 0 = some fresh := by rfl

/-- Every fetch fails until the first credentials have expired. -/
theorem always_punctual_failing :
    Always step Punctual fresh
      [.elapse (.fromSecs 300), .timer, .fetchFailed, .sent true, .elapse (.fromSecs 300), .timer,
        .sent true] := by
  apply (always_punctual_iff spawn_tenMinutes _).mpr
  exact ⟨trivial, trivial, trivial, trivial, trivial, trivial, trivial, trivial⟩

/-- Credentials are refreshed after five minutes; after ten minutes the loop
reports `Expired`, five minutes too early. -/
theorem not_always_punctual :
    ¬ Always step Punctual fresh
      [.elapse (.fromSecs 300), .timer, .fetched (tenMinutes 300) (Duration.fromSecs 300),
        .sent true, .elapse (.fromSecs 300), .timer] := by
  intro h
  obtain ⟨expiry, hExpiry, hTime⟩ := h.last.expired ⟨Duration.fromSecs 600, .expired⟩ (by decide) rfl
  have hLater : expiry = Duration.fromSecs 900 := by
    apply Option.some.inj
    exact hExpiry.symm
  subst hLater
  exact absurd hTime (by decide)

end Minutes

end RefreshLoop

end Mxdx.P2P
