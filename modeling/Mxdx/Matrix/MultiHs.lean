import Mxdx.Basic
import Mxdx.Foundations.Automaton
import Mxdx.Foundations.Framing
import Mathlib

/-! `MultiHsClient`: one account on several homeservers. A circuit breaker for
each server decides which one is preferred, and events that arrive through
several servers are delivered once. Latencies are only ever compared, so any
linear order does for them; `maxLatency` stands for `f64::MAX`. -/
namespace Mxdx.MatrixClient

universe u

/-- Failures that are older do not count. -/
def failWindow : Duration := .fromSecs (5 * 60)

/-- So many failures open the breaker. -/
def failThreshold : Nat := 5

/-- How many event ids are remembered. -/
def maxSeenEvents : Nat := 10000

/-- How many of them go at once. -/
def evictBatch : Nat := 2000

/-- Whether a homeserver is used. -/
inductive ServerStatus where
  | healthy
  | down
deriving DecidableEq, Repr

/-- The recent failures of a homeserver. -/
structure CircuitBreaker where
  failures : List Instant
  status : ServerStatus
deriving DecidableEq, Repr

/-- A homeserver is trusted at first. -/
def CircuitBreaker.new : CircuitBreaker := ⟨[], .healthy⟩

/-- A homeserver and how long it took to answer. -/
structure ServerEntry (Latency : Type u) where
  server : String
  latencyMs : Latency

/-- The client over `n` servers. There is a breaker for every server name that
occurs. `preferredChanges` records the calls of the callback. -/
structure MultiHsClient (Latency : Type u) (n : Nat) where
  entries : Fin n → ServerEntry Latency
  preferredIndex : Fin n
  breakers : String → CircuitBreaker
  seenEvents : Std.HashMap String Instant
  seenOrder : List String
  preferredChanges : List (String × String)

/-- The calls that the circuit breaker sees; a failure is dated. -/
inductive BreakerInput (n : Nat) where
  | recordFailure (serverIndex : Fin n) (now : Instant)
  | recordSuccess (serverIndex : Fin n)
  | triggerFailover

namespace MultiHsClient

variable {Latency : Type u} {n : Nat}

/-- One server needs neither breakers nor deduplication. -/
def isSingleServer (_client : MultiHsClient Latency n) : Bool := decide (n ≤ 1)

/-- Breakers go by the name of the server. -/
def breaker (client : MultiHsClient Latency n) (i : Fin n) : CircuitBreaker :=
  client.breakers (client.entries i).server

/-- Two entries of one server share its breaker. -/
def setBreaker (client : MultiHsClient Latency n) (i : Fin n) (breaker : CircuitBreaker) :
    MultiHsClient Latency n :=
  { client with breakers := Function.update client.breakers (client.entries i).server breaker }

/-- A breaker that is open, or would be. -/
def failing (breaker : CircuitBreaker) : Bool :=
  breaker.status == .down || decide (failThreshold ≤ breaker.failures.length)

/-- Nobody is left to turn to. -/
def allFailing (client : MultiHsClient Latency n) : Bool :=
  (List.finRange n).all fun i => failing (client.breaker i)

/-- The failures in the window, with the one of now. -/
def recentFailures (breaker : CircuitBreaker) (now : Instant) : List Instant :=
  breaker.failures.filter (fun t => decide (now - t < failWindow)) ++ [now]

/-- A failure counts with those of the last minutes. -/
def noteFailure (client : MultiHsClient Latency n) (i : Fin n) (now : Instant) :
    MultiHsClient Latency n :=
  client.setBreaker i { client.breaker i with failures := recentFailures (client.breaker i) now }

def markDown (client : MultiHsClient Latency n) (i : Fin n) : MultiHsClient Latency n :=
  client.setBreaker i { client.breaker i with status := .down }

/-- Every homeserver gets another chance. -/
def resetBreakers (client : MultiHsClient Latency n) : MultiHsClient Latency n :=
  { client with breakers := fun _ => .new }

/-- A success closes the breaker. -/
def recordSuccess (client : MultiHsClient Latency n) (serverIndex : Fin n) :
    MultiHsClient Latency n :=
  if client.isSingleServer then client else client.setBreaker serverIndex .new

section Breakers

variable {client : MultiHsClient Latency n}

/-- Every server has a name, and so a breaker, of its own. -/
def Distinct (client : MultiHsClient Latency n) : Prop :=
  Function.Injective fun i => (client.entries i).server

/-- The server is not marked down. -/
def Up (client : MultiHsClient Latency n) (i : Fin n) : Prop := (client.breaker i).status ≠ .down

/-- The preferred server is down only if all are, and not all are. -/
structure WellChosen (client : MultiHsClient Latency n) : Prop where
  preferred : ¬ client.Up client.preferredIndex → ∀ i, ¬ client.Up i
  available : ∃ i, client.Up i

theorem wellChosen_iff : client.WellChosen ↔ client.Up client.preferredIndex := by
  constructor
  · intro h
    obtain ⟨i, hUp⟩ := h.available
    by_contra hDown
    exact h.preferred hDown i hUp
  · intro hUp
    exact ⟨fun hDown => absurd hUp hDown, client.preferredIndex, hUp⟩

theorem Distinct.breaker_setBreaker (h : client.Distinct) (i j : Fin n)
    (breaker : CircuitBreaker) :
    (client.setBreaker i breaker).breaker j = if j = i then breaker else client.breaker j := by
  by_cases hSame : j = i
  · simp [MultiHsClient.breaker, setBreaker, hSame]
  · have hName : (client.entries j).server ≠ (client.entries i).server := fun hEq =>
      hSame (h hEq)
    simp [MultiHsClient.breaker, setBreaker, hSame, hName]

theorem Distinct.up_noteFailure (h : client.Distinct) (i j : Fin n) (now : Instant) :
    (client.noteFailure i now).Up j ↔ client.Up j := by
  rw [Up, noteFailure, h.breaker_setBreaker]
  split
  next hSame => rw [hSame]; rfl
  · rfl

theorem Distinct.up_markDown (h : client.Distinct) (i j : Fin n) :
    (client.markDown i).Up j ↔ j ≠ i ∧ client.Up j := by
  rw [Up, markDown, h.breaker_setBreaker]
  split
  next hSame => simp [hSame]
  next hOther => simp [hOther, Up]

theorem up_resetBreakers (client : MultiHsClient Latency n) (i : Fin n) :
    client.resetBreakers.Up i := by
  simp [Up, breaker, resetBreakers, CircuitBreaker.new]

theorem Distinct.up_recordSuccess (h : client.Distinct) {i j : Fin n} (hUp : client.Up j) :
    (client.recordSuccess i).Up j := by
  unfold recordSuccess
  split
  · exact hUp
  · rw [Up, h.breaker_setBreaker]
    split
    · simp [CircuitBreaker.new]
    · exact hUp

/-- When a breaker trips although not all servers are failing, some other
server is up. -/
theorem exists_up_of_not_allFailing (h : client.Distinct) {i : Fin n} {now : Instant}
    (hTrips : failThreshold ≤ ((client.noteFailure i now).breaker i).failures.length)
    (hAll : (client.noteFailure i now).allFailing = false) : ∃ j, j ≠ i ∧ client.Up j := by
  simp only [allFailing, List.all_eq_false, List.mem_finRange, true_and] at hAll
  obtain ⟨j, hFine⟩ := hAll
  simp only [failing, Bool.or_eq_true, beq_iff_eq, decide_eq_true_eq, not_or] at hFine
  refine ⟨j, ?_, (h.up_noteFailure i j now).mp hFine.1⟩
  rintro rfl
  exact hFine.2 hTrips

end Breakers

section Failover

variable [LinearOrder Latency] (maxLatency : Latency)

/-- The pinned server, or else the first one of lowest latency. -/
def initialIndex [NeZero n] (entries : Fin n → ServerEntry Latency)
    (preferredServer : Option String) : Fin n :=
  match preferredServer with
  | some server => ((List.finRange n).find? fun i => (entries i).server == server).getD 0
  | none =>
      (List.finRange n).foldl
        (fun best i => if (entries i).latencyMs < (entries best).latencyMs then i else best) 0

/-- The client starts at the server that is asked for, or at the fastest. -/
def new [NeZero n] (entries : Fin n → ServerEntry Latency) (preferredServer : Option String) :
    MultiHsClient Latency n where
  entries := entries
  preferredIndex := initialIndex entries preferredServer
  breakers := fun _ => .new
  seenEvents := ∅
  seenOrder := []
  preferredChanges := []

/-- One turn of the loop of `trigger_failover`. -/
def better (client : MultiHsClient Latency n) (best : Option (Fin n) × Latency) (i : Fin n) :
    Option (Fin n) × Latency :=
  if i = client.preferredIndex then best
  else if (client.breaker i).status = .down then best
  else if (client.entries i).latencyMs < best.2 then (some i, (client.entries i).latencyMs)
  else best

/-- With nobody left the client stays where it is. -/
def triggerFailover (client : MultiHsClient Latency n) : MultiHsClient Latency n :=
  match ((List.finRange n).foldl client.better (none, maxLatency)).1 with
  | some index =>
      { client with
        preferredIndex := index
        preferredChanges := client.preferredChanges ++
          [((client.entries index).server, (client.entries client.preferredIndex).server)] }
  | none => client

/-- A client of one server has nowhere to go. -/
def recordFailure (client : MultiHsClient Latency n) (serverIndex : Fin n) (now : Instant) :
    MultiHsClient Latency n :=
  if client.isSingleServer then client
  else
    let client := client.noteFailure serverIndex now
    if failThreshold ≤ (client.breaker serverIndex).failures.length then
      if client.allFailing then client.resetBreakers
      else if serverIndex = client.preferredIndex then
        (client.markDown serverIndex).triggerFailover maxLatency
      else client.markDown serverIndex
    else client

/-- Successes and failures, in any order. -/
def step (client : MultiHsClient Latency n) : BreakerInput n → MultiHsClient Latency n
  | .recordFailure serverIndex now => client.recordFailure maxLatency serverIndex now
  | .recordSuccess serverIndex => client.recordSuccess serverIndex
  | .triggerFailover => client.triggerFailover maxLatency

variable {maxLatency} {client : MultiHsClient Latency n}

/-- A server that failover may choose. -/
def Candidate (client : MultiHsClient Latency n) (i : Fin n) : Prop :=
  i ≠ client.preferredIndex ∧ (client.breaker i).status ≠ .down

theorem better_of_not_candidate {i : Fin n} (h : ¬ client.Candidate i)
    (best : Option (Fin n) × Latency) : client.better best i = best := by
  by_cases hPreferred : i = client.preferredIndex
  · simp [better, hPreferred]
  · have hDown : (client.breaker i).status = .down := by
      by_contra hUp
      exact h ⟨hPreferred, hUp⟩
    simp [better, hDown]

theorem better_of_candidate {i : Fin n} (h : client.Candidate i)
    (best : Option (Fin n) × Latency) :
    client.better best i =
      if (client.entries i).latencyMs < best.2 then (some i, (client.entries i).latencyMs)
      else best := by
  simp [better, h.1, h.2]

theorem foldl_better_isSome (client : MultiHsClient Latency n) (indices : List (Fin n))
    (best : Fin n) (bound : Latency) :
    (indices.foldl client.better (some best, bound)).1.isSome = true := by
  induction indices generalizing best bound with
  | nil => rfl
  | cons i rest ih =>
      rw [List.foldl_cons]
      by_cases hCandidate : client.Candidate i
      · rw [better_of_candidate hCandidate]
        split
        · exact ih i _
        · exact ih best bound
      · rw [better_of_not_candidate hCandidate]
        exact ih best bound

/-- The loop finds nothing exactly when no candidate is below the bound it
starts from. -/
theorem foldl_better_eq_none_iff (indices : List (Fin n)) (bound : Latency) :
    (indices.foldl client.better (none, bound)).1 = none ↔
      ∀ i ∈ indices, client.Candidate i → ¬ (client.entries i).latencyMs < bound := by
  induction indices with
  | nil => simp
  | cons i rest ih =>
      rw [List.foldl_cons, List.forall_mem_cons, ← ih]
      by_cases hCandidate : client.Candidate i
      · rw [better_of_candidate hCandidate]
        split
        next hLower =>
          have hSome := foldl_better_isSome client rest i (client.entries i).latencyMs
          apply iff_of_false
          · intro hNone
            simp [hNone] at hSome
          · exact fun h => h.1 hCandidate hLower
        next hNotLower => simp [hNotLower]
      · rw [better_of_not_candidate hCandidate]
        simp [hCandidate]

theorem candidate_of_foldl_better {indices : List (Fin n)} {best : Option (Fin n) × Latency}
    {index : Fin n} (h : (indices.foldl client.better best).1 = some index) :
    best.1 = some index ∨ client.Candidate index := by
  induction indices generalizing best with
  | nil => exact .inl h
  | cons i rest ih =>
      rw [List.foldl_cons] at h
      rcases ih h with hBest | hCandidate
      · by_cases hCandidate : client.Candidate i
        · rw [better_of_candidate hCandidate] at hBest
          split at hBest
          · obtain rfl := Option.some.inj hBest
            exact .inr hCandidate
          · exact .inl hBest
        · rw [better_of_not_candidate hCandidate] at hBest
          exact .inl hBest
      · exact .inr hCandidate

/-- Failover leaves the breakers alone. -/
theorem triggerFailover_breaker (client : MultiHsClient Latency n) (i : Fin n) :
    (client.triggerFailover maxLatency).breaker i = client.breaker i := by
  unfold triggerFailover
  split <;> rfl

/-- After a failover the preferred server is up exactly when it was up before
or there was something to choose. -/
theorem up_preferred_triggerFailover_iff :
    (client.triggerFailover maxLatency).Up (client.triggerFailover maxLatency).preferredIndex ↔
      client.Up client.preferredIndex ∨
      ∃ i, client.Candidate i ∧ (client.entries i).latencyMs < maxLatency := by
  cases hBest : ((List.finRange n).foldl client.better (none, maxLatency)).1 with
  | none =>
      have hSame : client.triggerFailover maxLatency = client := by simp [triggerFailover, hBest]
      have hNothing := (foldl_better_eq_none_iff (List.finRange n) maxLatency).mp hBest
      rw [hSame]
      constructor
      · exact .inl
      · rintro (hUp | ⟨i, hCandidate, hLower⟩)
        · exact hUp
        · exact absurd hLower (hNothing i (List.mem_finRange i) hCandidate)
  | some index =>
      have hIndex : (client.triggerFailover maxLatency).preferredIndex = index := by
        simp [triggerFailover, hBest]
      have hCandidate : client.Candidate index := by
        rcases candidate_of_foldl_better hBest with hNone | hCandidate
        · cases hNone
        · exact hCandidate
      have hFound : ¬ ∀ i ∈ List.finRange n, client.Candidate i →
          ¬ (client.entries i).latencyMs < maxLatency := by
        rw [← foldl_better_eq_none_iff, hBest]
        simp
      push Not at hFound
      obtain ⟨i, -, hChosen, hLower⟩ := hFound
      apply iff_of_true
      · rw [hIndex, Up, triggerFailover_breaker]
        exact hCandidate.2
      · exact .inr ⟨i, hChosen, hLower⟩

@[simp] theorem triggerFailover_entries (client : MultiHsClient Latency n) :
    (client.triggerFailover maxLatency).entries = client.entries := by
  unfold triggerFailover
  split <;> rfl

/-- What a failure can do to a client over several servers. -/
theorem recordFailure_cases (hServers : 2 ≤ n) (maxLatency : Latency)
    (client : MultiHsClient Latency n) (i : Fin n) (now : Instant) :
    ((client.noteFailure i now).breaker i).failures.length < failThreshold ∧
      client.recordFailure maxLatency i now = client.noteFailure i now ∨
    (client.noteFailure i now).allFailing = true ∧
      client.recordFailure maxLatency i now = (client.noteFailure i now).resetBreakers ∨
    failThreshold ≤ ((client.noteFailure i now).breaker i).failures.length ∧
      (client.noteFailure i now).allFailing = false ∧
      client.recordFailure maxLatency i now =
        if i = client.preferredIndex then
          ((client.noteFailure i now).markDown i).triggerFailover maxLatency
        else (client.noteFailure i now).markDown i := by
  have hMany : ¬ n ≤ 1 := by omega
  by_cases hTrips : failThreshold ≤ ((client.noteFailure i now).breaker i).failures.length
  · cases hAll : (client.noteFailure i now).allFailing with
    | true => exact .inr (.inl ⟨rfl, by simp [recordFailure, isSingleServer, hMany, hTrips, hAll]⟩)
    | false =>
        refine .inr (.inr ⟨hTrips, rfl, ?_⟩)
        simp only [recordFailure, isSingleServer, hMany, hTrips, hAll]
        rfl
  · exact .inl ⟨by omega, by simp [recordFailure, isSingleServer, hMany, hTrips]⟩

theorem distinct_step (client : MultiHsClient Latency n) (input : BreakerInput n)
    (h : client.Distinct) : (client.step maxLatency input).Distinct := by
  have hEntries : (client.step maxLatency input).entries = client.entries := by
    cases input with
    | recordFailure i now =>
        simp only [step, recordFailure]
        split
        · rfl
        · split
          · split
            · rfl
            · split
              · rw [triggerFailover_entries]
                rfl
              · rfl
          · rfl
    | recordSuccess i =>
        simp only [step, recordSuccess]
        split <;> rfl
    | triggerFailover => exact triggerFailover_entries client
  rwa [Distinct, hEntries]

/-- No step leaves the client without a homeserver that is up. -/
theorem available_step (hServers : 2 ≤ n) (client : MultiHsClient Latency n)
    (input : BreakerInput n) (h : client.Distinct) (hUp : ∃ i, client.Up i) :
    ∃ i, (client.step maxLatency input).Up i := by
  obtain ⟨up, hUp⟩ := hUp
  cases input with
  | recordFailure i now =>
      simp only [step]
      have hNoted : (client.noteFailure i now).Distinct := h
      rcases recordFailure_cases hServers maxLatency client i now with
        ⟨-, hEq⟩ | ⟨-, hEq⟩ | ⟨hTrips, hAll, hEq⟩
      · rw [hEq]
        exact ⟨up, (h.up_noteFailure i up now).mpr hUp⟩
      · rw [hEq]
        exact ⟨up, up_resetBreakers _ up⟩
      · obtain ⟨j, hOther, hFine⟩ := exists_up_of_not_allFailing h hTrips hAll
        have hStays : ((client.noteFailure i now).markDown i).Up j :=
          (hNoted.up_markDown i j).mpr ⟨hOther, (h.up_noteFailure i j now).mpr hFine⟩
        rw [hEq]
        refine ⟨j, ?_⟩
        split
        · rwa [Up, triggerFailover_breaker]
        · exact hStays
  | recordSuccess i => exact ⟨up, h.up_recordSuccess hUp⟩
  | triggerFailover =>
      refine ⟨up, ?_⟩
      rwa [step, Up, triggerFailover_breaker]

/-- If the failure trips the breaker of the preferred server, some other server
that is up has a measured latency. -/
def Standby (maxLatency : Latency) (client : MultiHsClient Latency n) : BreakerInput n → Prop
  | .recordFailure i now =>
      i = client.preferredIndex →
      failThreshold ≤ (recentFailures (client.breaker i) now).length →
      (client.noteFailure i now).allFailing = false →
      ∃ j, client.Candidate j ∧ (client.entries j).latencyMs < maxLatency
  | _ => True

/-- When the breaker of the preferred server trips, the choice is among those
that were candidates before. -/
theorem up_preferred_tripped_iff (client : MultiHsClient Latency n) (h : client.Distinct)
    (now : Instant) :
    let tripped := ((client.noteFailure client.preferredIndex now).markDown
      client.preferredIndex).triggerFailover maxLatency
    tripped.Up tripped.preferredIndex ↔
      ∃ j, client.Candidate j ∧ (client.entries j).latencyMs < maxLatency := by
  intro tripped
  have hNoted : (client.noteFailure client.preferredIndex now).Distinct := h
  have hDown : ¬ ((client.noteFailure client.preferredIndex now).markDown
      client.preferredIndex).Up client.preferredIndex := by
    rw [hNoted.up_markDown]
    simp
  have hCandidate : ∀ j, ((client.noteFailure client.preferredIndex now).markDown
      client.preferredIndex).Candidate j ↔ client.Candidate j := by
    intro j
    show j ≠ client.preferredIndex ∧ Up _ j ↔ _
    rw [hNoted.up_markDown, h.up_noteFailure]
    exact ⟨fun hj => hj.2, fun hj => ⟨hj.1, hj⟩⟩
  rw [up_preferred_triggerFailover_iff]
  simp only [hCandidate]
  exact or_iff_right hDown

theorem up_preferred_recordFailure_iff (hServers : 2 ≤ n) (client : MultiHsClient Latency n)
    (i : Fin n) (now : Instant) (h : client.Distinct) (hUp : client.Up client.preferredIndex) :
    (client.recordFailure maxLatency i now).Up
        (client.recordFailure maxLatency i now).preferredIndex ↔
      client.Standby maxLatency (.recordFailure i now) := by
  have hNoted : (client.noteFailure i now).Distinct := h
  have hFailures : ((client.noteFailure i now).breaker i).failures =
      recentFailures (client.breaker i) now := by
    rw [noteFailure, h.breaker_setBreaker, if_pos rfl]
  simp only [Standby, ← hFailures]
  rcases recordFailure_cases hServers maxLatency client i now with
    ⟨hFew, hEq⟩ | ⟨hAll, hEq⟩ | ⟨hTrips, hAll, hEq⟩
  · rw [hEq]
    apply iff_of_true
    · exact (h.up_noteFailure i _ now).mpr hUp
    · intro _ hMany
      omega
  · rw [hEq]
    apply iff_of_true
    · exact up_resetBreakers _ _
    · intro _ _ hNotAll
      simp [hAll] at hNotAll
  · rw [hEq]
    by_cases hPreferred : i = client.preferredIndex
    · subst hPreferred
      rw [if_pos rfl]
      apply (up_preferred_tripped_iff client h now).trans
      exact ⟨fun hChoice _ _ _ => hChoice, fun hGuard => hGuard rfl hTrips hAll⟩
    · rw [if_neg hPreferred]
      apply iff_of_true
      · rw [hNoted.up_markDown]
        exact ⟨fun hSame => hPreferred hSame.symm, (h.up_noteFailure i _ now).mpr hUp⟩
      · exact fun hSame => absurd hSame hPreferred

/-- A step leaves the preferred homeserver up exactly when another stands by for it. -/
theorem up_preferred_step_iff (hServers : 2 ≤ n) (client : MultiHsClient Latency n)
    (input : BreakerInput n) (h : client.Distinct) (hUp : client.Up client.preferredIndex) :
    (client.step maxLatency input).Up (client.step maxLatency input).preferredIndex ↔
      client.Standby maxLatency input := by
  cases input with
  | recordFailure i now => exact up_preferred_recordFailure_iff hServers client i now h hUp
  | recordSuccess i =>
      refine iff_of_true ?_ trivial
      have hIndex : (client.recordSuccess i).preferredIndex = client.preferredIndex := by
        unfold recordSuccess
        split <;> rfl
      rw [step, hIndex]
      exact h.up_recordSuccess hUp
  | triggerFailover =>
      exact iff_of_true (up_preferred_triggerFailover_iff.mpr (.inl hUp)) trivial

theorem up_new [NeZero n] (entries : Fin n → ServerEntry Latency)
    (preferredServer : Option String) (i : Fin n) : (new entries preferredServer).Up i := by
  simp [Up, breaker, new, CircuitBreaker.new]

/-- Not all servers are ever down, and the preferred one is up in every state of
a run exactly when each time its breaker trips a server with a measured latency
stands by. -/
theorem preferred_wellChosen_iff [NeZero n] (hServers : 2 ≤ n)
    (entries : Fin n → ServerEntry Latency)
    (hDistinct : Function.Injective fun i => (entries i).server)
    (preferredServer : Option String) (maxLatency : Latency) (inputs : List (BreakerInput n)) :
    Automaton.Always (step maxLatency) (fun client => ∃ i, client.Up i)
      (new entries preferredServer) inputs ∧
    (Automaton.Always (step maxLatency) WellChosen (new entries preferredServer) inputs ↔
      Automaton.Admissible (step maxLatency) (Standby maxLatency)
        (new entries preferredServer) inputs) := by
  have hStart : (new entries preferredServer).Distinct := hDistinct
  have hUp := up_new entries preferredServer
  constructor
  · have hStep : ∀ (client : MultiHsClient Latency n) input,
        client.Distinct ∧ (∃ i, client.Up i) →
        (client.step maxLatency input).Distinct ∧ ∃ i, (client.step maxLatency input).Up i :=
      fun client input h =>
        ⟨distinct_step client input h.1, available_step hServers client input h.1 h.2⟩
    exact (Automaton.always_of_step hStep ⟨hStart, 0, hUp 0⟩ inputs).mono fun _ h => h.2
  · have hStep : ∀ (client : MultiHsClient Latency n) input,
        client.Distinct ∧ client.WellChosen →
        ((client.step maxLatency input).Distinct ∧ (client.step maxLatency input).WellChosen ↔
          client.Standby maxLatency input) := by
      intro client input h
      rw [and_iff_right (distinct_step client input h.1), wellChosen_iff]
      exact up_preferred_step_iff hServers client input h.1 (wellChosen_iff.mp h.2)
    have hExact : Automaton.Always (step maxLatency)
        (fun client => client.Distinct ∧ client.WellChosen) (new entries preferredServer) inputs ↔
        Automaton.Admissible (step maxLatency) (Standby maxLatency)
          (new entries preferredServer) inputs :=
      Automaton.always_iff_admissible hStep ⟨hStart, wellChosen_iff.mpr (hUp _)⟩
    rw [← hExact]
    constructor
    · intro h
      have hKeep : ∀ (client : MultiHsClient Latency n) input, client.Distinct →
          (client.step maxLatency input).Distinct := distinct_step
      have hNames := Automaton.always_of_step hKeep hStart inputs
      rw [Automaton.always_iff_prefixes] at h hNames ⊢
      exact fun pre hPre => ⟨hNames pre hPre, h pre hPre⟩
    · exact fun h => h.mono fun _ h => h.2

/-- Two servers, of which the second has the given latency. -/
def twoServers (latencyMs : WithTop Nat) : Fin 2 → ServerEntry (WithTop Nat)
  | 0 => ⟨"https://a.example", (20 : Nat)⟩
  | 1 => ⟨"https://b.example", latencyMs⟩

/-- The fifth failure in a row trips the breaker of the preferred server, and
the other one is chosen in its place. -/
theorem measured_standby_chosen :
    let failures : List (BreakerInput 2) := List.replicate 5 (.recordFailure 0 0)
    let client := Automaton.run (step ⊤) (new (twoServers (35 : Nat)) none) failures
    client.preferredIndex = 1 ∧ client.WellChosen := by
  intro failures client
  have hDistinct : Function.Injective fun i => (twoServers (35 : Nat) i).server := by
    intro i j
    revert i j
    decide
  have hStandby : Automaton.Admissible (step ⊤) (Standby ⊤) (new (twoServers (35 : Nat)) none) failures := by
    refine ⟨?_, ?_, ?_, ?_, ?_, trivial⟩ <;> intro _ _ _ <;>
      exact ⟨1, ⟨by decide, by decide⟩, by decide⟩
  have hAlways := (preferred_wellChosen_iff (by decide) (twoServers (35 : Nat)) hDistinct none ⊤
    failures).2.mpr hStandby
  exact ⟨by decide, hAlways.last⟩

/-- The other server is up but failed its first sync: the client stays with the
server that is down. -/
theorem unmeasured_standby_ignored :
    let failures : List (BreakerInput 2) := List.replicate 5 (.recordFailure 0 0)
    let client := Automaton.run (step ⊤) (new (twoServers ⊤) none) failures
    client.preferredIndex = 0 ∧ ¬ client.Up 0 ∧ client.Up 1 ∧
    ¬ Automaton.Always (step ⊤) WellChosen (new (twoServers ⊤) none) failures := by
  intro failures client
  have hIndex : client.preferredIndex = 0 := by decide
  have hDown : ¬ client.Up 0 := by
    show ¬ (client.breaker 0).status ≠ .down
    decide
  refine ⟨hIndex, hDown, ?_, ?_⟩
  · show (client.breaker 1).status ≠ .down
    decide
  · intro hAlways
    have hUp := wellChosen_iff.mp hAlways.last
    change client.Up client.preferredIndex at hUp
    rw [hIndex] at hUp
    exact hDown hUp

end Failover

section Deduplication

/-- Drop the oldest batch when the limit is passed. -/
def evict (client : MultiHsClient Latency n) : MultiHsClient Latency n :=
  if maxSeenEvents < client.seenEvents.size then
    { client with
      seenEvents := (client.seenOrder.take evictBatch).foldl (·.erase ·) client.seenEvents
      seenOrder := client.seenOrder.drop evictBatch }
  else client

/-- Whether the event has been seen; if not, it is recorded. -/
def isDuplicate (client : MultiHsClient Latency n) (eventId : String) (now : Instant) :
    Bool × MultiHsClient Latency n :=
  if client.isSingleServer then (false, client)
  else if client.seenEvents.contains eventId then (true, client)
  else
    (false, evict { client with
      seenEvents := client.seenEvents.insert eventId now
      seenOrder := client.seenOrder ++ [eventId] })

theorem mem_foldl_erase (keys : List String) (seen : Std.HashMap String Instant) (id : String) :
    id ∈ keys.foldl (·.erase ·) seen ↔ id ∈ seen ∧ id ∉ keys := by
  induction keys generalizing seen with
  | nil => simp
  | cons key keys ih =>
      have hKey : (key == id) = false ↔ ¬ id = key := by
        rw [beq_eq_false_iff_ne, ne_eq, eq_comm]
      rw [List.foldl_cons, ih, Std.HashMap.mem_erase, List.mem_cons, not_or, hKey]
      tauto

theorem size_foldl_erase (keys : List String) (seen : Std.HashMap String Instant)
    (hNodup : keys.Nodup) (hKeys : ∀ key ∈ keys, key ∈ seen) :
    (keys.foldl (·.erase ·) seen).size + keys.length = seen.size := by
  induction keys generalizing seen with
  | nil => simp
  | cons key keys ih =>
      rw [List.nodup_cons] at hNodup
      have hKey : key ∈ seen := hKeys key (by simp)
      have hPos : 0 < seen.size := by
        by_contra hEmpty
        have hNone : seen.isEmpty = true := by
          rw [Std.HashMap.isEmpty_eq_size_eq_zero]
          simpa using hEmpty
        exact absurd hKey (Std.HashMap.not_mem_of_isEmpty hNone)
      have hRest : ∀ other ∈ keys, other ∈ seen.erase key := by
        intro other hOther
        rw [Std.HashMap.mem_erase]
        refine ⟨?_, hKeys other (by simp [hOther])⟩
        rw [beq_eq_false_iff_ne]
        rintro rfl
        exact hNodup.1 hOther
      have hErased := ih (seen.erase key) hNodup.2 hRest
      rw [Std.HashMap.size_erase, if_pos hKey] at hErased
      rw [List.foldl_cons, List.length_cons]
      omega

variable {client : MultiHsClient Latency n}

/-- Map and queue hold the same ids, each once. -/
structure Seen (client : MultiHsClient Latency n) : Prop where
  keys : ∀ id, id ∈ client.seenEvents ↔ id ∈ client.seenOrder
  size : client.seenEvents.size = client.seenOrder.length
  nodup : client.seenOrder.Nodup

theorem Seen.record (h : client.Seen) {eventId : String} (hNew : eventId ∉ client.seenEvents)
    (now : Instant) :
    Seen { client with
      seenEvents := client.seenEvents.insert eventId now
      seenOrder := client.seenOrder ++ [eventId] } := by
  constructor
  · intro id
    rw [Std.HashMap.mem_insert, h.keys id, List.mem_append, List.mem_singleton, beq_iff_eq,
      or_comm, eq_comm]
  · rw [Std.HashMap.size_insert, if_neg hNew, h.size, List.length_append, List.length_singleton]
  · have hAbsent : eventId ∉ client.seenOrder := fun hOld => hNew ((h.keys eventId).mpr hOld)
    rw [List.nodup_append]
    refine ⟨h.nodup, by simp, ?_⟩
    intro id hId other hOther
    obtain rfl : other = eventId := by simpa using hOther
    rintro rfl
    exact hAbsent hId

theorem Seen.evict (h : client.Seen) : client.evict.Seen := by
  unfold MultiHsClient.evict
  split
  · have hSplit := List.take_append_drop evictBatch client.seenOrder
    have hNodup := h.nodup
    rw [← hSplit, List.nodup_append] at hNodup
    have hKeys : ∀ key ∈ client.seenOrder.take evictBatch, key ∈ client.seenEvents :=
      fun key hKey => (h.keys key).mpr (List.mem_of_mem_take hKey)
    constructor
    · intro id
      rw [mem_foldl_erase, h.keys id]
      constructor
      · rintro ⟨hId, hNotTaken⟩
        rw [← hSplit] at hId
        exact (List.mem_append.mp hId).resolve_left hNotTaken
      · intro hId
        exact ⟨List.mem_of_mem_drop hId, fun hTaken => hNodup.2.2 id hTaken id hId rfl⟩
    · have hSize := size_foldl_erase _ client.seenEvents hNodup.1 hKeys
      have hLength := congrArg List.length hSplit
      rw [List.length_append] at hLength
      have hOld := h.size
      have hLeft : ((client.seenOrder.take evictBatch).foldl (·.erase ·) client.seenEvents).size =
          (client.seenOrder.drop evictBatch).length := by omega
      exact hLeft
    · exact hNodup.2.1
  · exact h

/-- A client with the ids it has reported new, in order. -/
structure Reports (Latency : Type u) (n : Nat) where
  client : MultiHsClient Latency n
  fresh : List String

/-- An event that is new is passed on. -/
def report (reports : Reports Latency n) (event : String × Instant) : Reports Latency n :=
  let answer := reports.client.isDuplicate event.1 event.2
  ⟨answer.2, if answer.1 then reports.fresh else reports.fresh ++ [event.1]⟩

/-- The queue holds the latest reports, and an id that has left it was followed
by many others. -/
structure Windowed (reports : Reports Latency n) : Prop where
  seen : reports.client.Seen
  capped : reports.client.seenOrder.length ≤ maxSeenEvents
  latest : reports.client.seenOrder <:+ reports.fresh
  window : ∀ before id since, reports.fresh = before ++ id :: since → id ∉ since →
    id ∉ reports.client.seenOrder → 8000 ≤ since.toFinset.card

variable {reports : Reports Latency n}

theorem report_of_mem (hServers : 2 ≤ n) {event : String × Instant}
    (hOld : event.1 ∈ reports.client.seenEvents) : report reports event = reports := by
  have hMany : ¬ n ≤ 1 := by omega
  have hContains := Std.HashMap.mem_iff_contains.mp hOld
  simp [report, isDuplicate, isSingleServer, hMany, hContains]

/-- The queue after a new id: the oldest batch leaves a full one. -/
def slide (order : List String) (eventId : String) : List String :=
  if maxSeenEvents < order.length + 1 then (order ++ [eventId]).drop evictBatch
  else order ++ [eventId]

theorem report_of_not_mem (hServers : 2 ≤ n) (h : reports.client.Seen)
    {event : String × Instant} (hNew : event.1 ∉ reports.client.seenEvents) :
    (report reports event).fresh = reports.fresh ++ [event.1] ∧
    (report reports event).client.Seen ∧
    (report reports event).client.seenOrder = slide reports.client.seenOrder event.1 := by
  have hMany : ¬ n ≤ 1 := by omega
  have hContains : reports.client.seenEvents.contains event.1 = false := by
    rwa [Std.HashMap.mem_iff_contains, Bool.not_eq_true] at hNew
  have hAnswer : reports.client.isDuplicate event.1 event.2 = (false, evict { reports.client with
      seenEvents := reports.client.seenEvents.insert event.1 event.2
      seenOrder := reports.client.seenOrder ++ [event.1] }) := by
    simp [isDuplicate, isSingleServer, hMany, hContains]
  have hRecorded := h.record hNew event.2
  refine ⟨by simp [report, hAnswer], ?_, ?_⟩
  · simp only [report, hAnswer]
    exact hRecorded.evict
  · have hSize : (reports.client.seenEvents.insert event.1 event.2).size =
        reports.client.seenOrder.length + 1 := by
      rw [Std.HashMap.size_insert, if_neg hNew, h.size]
    simp only [report, hAnswer, evict, hSize, slide]
    split <;> rfl

/-- An id that leaves the queue is followed by the rest of it. -/
theorem card_since_evicted {order before since : List String} {id eventId : String}
    {fresh : List String} (hLatest : order <:+ fresh) (hNodup : (order ++ [eventId]).Nodup)
    (hFull : order.length = maxSeenEvents) (hFresh : fresh = before ++ id :: since)
    (hLast : id ∉ since) (hId : id ∈ order) (hGone : id ∉ (order ++ [eventId]).drop evictBatch) :
    8000 ≤ (since ++ [eventId]).toFinset.card := by
  obtain ⟨older, hOlder⟩ := hLatest
  obtain ⟨front, back, rfl⟩ := List.append_of_mem hId
  have hParts : (front ++ id :: back) ++ [eventId] = front ++ id :: (back ++ [eventId]) := by simp
  rw [hParts] at hNodup hGone
  have hTail : (id :: (back ++ [eventId])).Nodup := (List.nodup_append.mp hNodup).2.1
  rw [List.nodup_cons] at hTail
  have hBack : id ∉ back := fun hMem => hTail.1 (by simp [hMem])
  -- both splits are at the last occurrence of the id
  have hSplit : (older ++ front) ++ id :: back = before ++ id :: since := by
    rw [← hFresh, ← hOlder, List.append_assoc]
  obtain ⟨-, rfl⟩ := Framing.back_inj hBack hLast hSplit
  have hEarly : front.length < evictBatch := by
    by_contra hLate
    apply hGone
    rw [List.drop_append_of_le_length (by omega)]
    simp
  rw [List.toFinset_card_of_nodup hTail.2]
  simp only [List.length_append, List.length_cons, List.length_nil, maxSeenEvents, evictBatch]
    at hFull hEarly ⊢
  omega

theorem length_slide_le {order : List String} (hCapped : order.length ≤ maxSeenEvents)
    (eventId : String) : (slide order eventId).length ≤ maxSeenEvents := by
  unfold slide
  split
  · rw [List.length_drop, List.length_append, List.length_singleton]
    simp only [evictBatch]
    omega
  next hRoom =>
    rw [List.length_append, List.length_singleton]
    omega

theorem slide_suffix (order : List String) (eventId : String) :
    slide order eventId <:+ order ++ [eventId] := by
  unfold slide
  split
  · exact List.drop_suffix _ _
  · exact List.suffix_refl _

/-- The id just reported is still in the queue. -/
theorem mem_slide_self (order : List String) (eventId : String) :
    eventId ∈ slide order eventId := by
  unfold slide
  split
  next hFull =>
    have hEnough : evictBatch ≤ order.length := by
      simp only [maxSeenEvents, evictBatch] at hFull ⊢
      omega
    rw [List.drop_append_of_le_length hEnough]
    simp
  · simp

/-- An id that has just left the queue, or had left it before, was followed by
many others. -/
theorem card_since_slide {order fresh before earlier : List String} {id eventId : String}
    (hLatest : order <:+ fresh) (hNodup : (order ++ [eventId]).Nodup)
    (hCapped : order.length ≤ maxSeenEvents) (hFresh : fresh = before ++ id :: earlier)
    (hLast : id ∉ earlier) (hGone : id ∉ slide order eventId)
    (hWindow : id ∉ order → 8000 ≤ earlier.toFinset.card) :
    8000 ≤ (earlier ++ [eventId]).toFinset.card := by
  by_cases hId : id ∈ order
  · have hFull : maxSeenEvents < order.length + 1 := by
      by_contra hRoom
      rw [slide, if_neg hRoom] at hGone
      exact hGone (by simp [hId])
    rw [slide, if_pos hFull] at hGone
    exact card_since_evicted hLatest hNodup (by omega) hFresh hLast hId hGone
  · have hSubset : earlier.toFinset ⊆ (earlier ++ [eventId]).toFinset := by
      intro other hOther
      simp only [List.mem_toFinset, List.mem_append] at hOther ⊢
      exact .inl hOther
    exact Nat.le_trans (hWindow hId) (Finset.card_le_card hSubset)

/-- A report that is new moves the window on by one. -/
theorem windowed_step (hServers : 2 ≤ n) (reports : Reports Latency n) (event : String × Instant)
    (h : Windowed reports) : Windowed (report reports event) := by
  by_cases hOld : event.1 ∈ reports.client.seenEvents
  · rwa [report_of_mem hServers hOld]
  · obtain ⟨hFresh, hSeen, hOrder⟩ := report_of_not_mem hServers h.seen hOld
    have hNodup : (reports.client.seenOrder ++ [event.1]).Nodup := (h.seen.record hOld event.2).nodup
    have hLatest : reports.client.seenOrder ++ [event.1] <:+ reports.fresh ++ [event.1] :=
      List.suffix_append_inj_of_length_eq rfl |>.mpr ⟨h.latest, rfl⟩
    refine ⟨hSeen, ?_, ?_, ?_⟩
    · rw [hOrder]
      exact length_slide_le h.capped event.1
    · rw [hFresh, hOrder]
      exact (slide_suffix _ _).trans hLatest
    · intro before id since hSplit hLast hGone
      rw [hFresh] at hSplit
      rw [hOrder] at hGone
      rcases List.eq_nil_or_concat since with rfl | ⟨earlier, last, rfl⟩
      · obtain ⟨-, hId⟩ := List.append_inj' hSplit rfl
        obtain rfl : event.1 = id := by simpa using hId
        exact absurd (mem_slide_self _ _) hGone
      · rw [List.concat_eq_append, ← List.cons_append, ← List.append_assoc] at hSplit
        obtain ⟨hBefore, hEvent⟩ := List.append_inj' hSplit rfl
        obtain rfl : event.1 = last := by simpa using hEvent
        rw [List.concat_eq_append] at hLast ⊢
        have hEarlier : id ∉ earlier := fun hMem => hLast (by simp [hMem])
        exact card_since_slide h.latest hNodup h.capped hBefore hEarlier hGone
          (h.window before id earlier hBefore hEarlier)

/-- Map and queue agree and stay within the limit, and an id that is reported
new again was followed by at least 8000 others. -/
theorem dedup_window [LinearOrder Latency] [NeZero n] (hServers : 2 ≤ n)
    (entries : Fin n → ServerEntry Latency) (preferredServer : Option String)
    (events : List (String × Instant)) :
    let reports := Automaton.run report ⟨new entries preferredServer, []⟩ events
    (∀ id, id ∈ reports.client.seenEvents ↔ id ∈ reports.client.seenOrder) ∧
    reports.client.seenOrder.Nodup ∧ reports.client.seenOrder.length ≤ 10000 ∧
    ∀ before id since now, reports.fresh = before ++ id :: since → id ∉ since →
      (reports.client.isDuplicate id now).1 = false → 8000 ≤ since.toFinset.card := by
  intro reports
  have hNew : Windowed (⟨new entries preferredServer, []⟩ : Reports Latency n) := by
    refine ⟨⟨by simp [new], by simp [new], by simp [new]⟩, by simp [new], by simp [new], ?_⟩
    intro before id since hSplit
    simp at hSplit
  have hWindowed : Windowed reports :=
    (Automaton.always_of_step (windowed_step hServers) hNew events).last
  refine ⟨hWindowed.seen.keys, hWindowed.seen.nodup, hWindowed.capped, ?_⟩
  intro before id since now hSplit hLast hReported
  apply hWindowed.window before id since hSplit hLast
  intro hId
  have hMany : ¬ n ≤ 1 := by omega
  have hContains := Std.HashMap.mem_iff_contains.mp ((hWindowed.seen.keys id).mpr hId)
  simp [isDuplicate, isSingleServer, hMany, hContains] at hReported

/-- Two servers deliver the same event. -/
theorem dedup_window_two_servers :
    let reports := Automaton.run report ⟨new (twoServers (35 : Nat)) none, []⟩
      [("$event", 0), ("$event", 1)]
    reports.client.seenOrder.Nodup ∧ reports.client.seenOrder.length ≤ 10000 := by
  intro reports
  have hWindow := dedup_window (by decide) (twoServers (35 : Nat)) none
    [("$event", 0), ("$event", 1)]
  exact ⟨hWindow.2.1, hWindow.2.2.1⟩

end Deduplication

end MultiHsClient

end Mxdx.MatrixClient
