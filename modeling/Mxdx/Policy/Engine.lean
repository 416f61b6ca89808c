import Mxdx.Basic
import Mxdx.Foundations.Automaton
import Mxdx.Foundations.LruCache

/-! `PolicyEngine`: who may act, and which events have been acted on already. The
clock is read twice in an evaluation, when the event is looked up and when it is
marked; both readings come with the call. -/
namespace Mxdx.Policy

open Automaton

/-- How many events are remembered. -/
def defaultCacheCapacity : Nat := 10000

/-- How long an event is remembered. -/
def defaultTtl : Duration := .fromSecs 3600

/-- The events that were seen, and the users who may call. -/
structure PolicyEngine where
  replayCache : LruCache String Instant
  ttl : Duration
  authorizedUsers : Finset String

/-- Why a call is turned down. -/
inductive PolicyRejection where
  | replay
  | unauthorized
deriving DecidableEq

/-- The text of the rejection. -/
def PolicyRejection.display : PolicyRejection → String
  | replay => "replayed event rejected"
  | unauthorized => "unauthorized user rejected"

/-- A call of `evaluate`. -/
structure Evaluation where
  eventId : String
  userId : String
  action : String
  checkedAt : Instant
  seenAt : Instant

/-- The calls of the engine. -/
inductive Call where
  | evaluate (evaluation : Evaluation)
  | authorizeUser (userId : String)
  | revokeUser (userId : String)

namespace PolicyEngine

/-- Nothing has been seen and nobody is authorised. -/
def withCapacityAndTtl (capacity : Nat) (hPositive : 0 < capacity) (ttl : Duration) :
    PolicyEngine :=
  ⟨.new capacity hPositive, ttl, ∅⟩

def new : PolicyEngine := withCapacityAndTtl defaultCacheCapacity (by decide) defaultTtl

/-- A user may call from now on. -/
def authorizeUser (engine : PolicyEngine) (userId : String) : PolicyEngine :=
  { engine with authorizedUsers := insert userId engine.authorizedUsers }

/-- A user may call no more. -/
def revokeUser (engine : PolicyEngine) (userId : String) : PolicyEngine :=
  { engine with authorizedUsers := engine.authorizedUsers.erase userId }

/-- Whether the event was seen and has not expired. An expired entry is removed. -/
def checkReplay (engine : PolicyEngine) (eventId : String) (now : Instant) :
    Bool × PolicyEngine :=
  match engine.replayCache.get eventId with
  | (some seenAt, used) =>
      if now - seenAt < engine.ttl then (true, { engine with replayCache := used })
      else (false, { engine with replayCache := used.pop eventId })
  | (none, used) => (false, { engine with replayCache := used })

def markSeen (engine : PolicyEngine) (eventId : String) (now : Instant) : PolicyEngine :=
  { engine with replayCache := engine.replayCache.put eventId now }

/-- The action is only logged. -/
def isAuthorized (engine : PolicyEngine) (userId _action : String) : Bool :=
  userId ∈ engine.authorizedUsers

def evaluate (engine : PolicyEngine) (evaluation : Evaluation) :
    Except PolicyRejection Unit × PolicyEngine :=
  match engine.checkReplay evaluation.eventId evaluation.checkedAt with
  | (true, checked) => (.error .replay, checked)
  | (false, checked) =>
      if checked.isAuthorized evaluation.userId evaluation.action then
        (.ok (), checked.markSeen evaluation.eventId evaluation.seenAt)
      else (.error .unauthorized, checked)

def step (engine : PolicyEngine) : Call → PolicyEngine
  | .evaluate evaluation => (engine.evaluate evaluation).2
  | .authorizeUser userId => engine.authorizeUser userId
  | .revokeUser userId => engine.revokeUser userId

def Accepts (engine : PolicyEngine) (evaluation : Evaluation) : Prop :=
  (engine.evaluate evaluation).1 = .ok ()

/-- The event ids given to `evaluate`. -/
def presented (calls : List Call) : Finset String :=
  (calls.filterMap fun
    | .evaluate evaluation => some evaluation.eventId
    | _ => none).toFinset

/-- Whether the call gives the user the right to act, or takes it away. -/
def grants (userId : String) : Call → Option Bool
  | .authorizeUser granted => if granted = userId then some true else none
  | .revokeUser revoked => if revoked = userId then some false else none
  | .evaluate _ => none

/-- The last call about the user gave the right to act. -/
def Authorized (calls : List Call) (userId : String) : Prop :=
  (calls.filterMap (grants userId)).getLast? = some true

def readings : Call → List Instant
  | .evaluate evaluation => [evaluation.checkedAt, evaluation.seenAt]
  | _ => []

/-- The clock does not go back. -/
def Monotone (calls : List Call) : Prop := (calls.flatMap readings).Pairwise (· ≤ ·)

variable {engine : PolicyEngine} {evaluation : Evaluation}

section Authorization

theorem checkReplay_authorizedUsers (engine : PolicyEngine) (eventId : String) (now : Instant) :
    (engine.checkReplay eventId now).2.authorizedUsers = engine.authorizedUsers := by
  unfold checkReplay
  split
  · split <;> rfl
  · rfl

theorem evaluate_authorizedUsers (engine : PolicyEngine) (evaluation : Evaluation) :
    (engine.evaluate evaluation).2.authorizedUsers = engine.authorizedUsers := by
  have hChecked := engine.checkReplay_authorizedUsers evaluation.eventId evaluation.checkedAt
  unfold evaluate
  split
  · rename_i hReplay
    rw [hReplay] at hChecked
    exact hChecked
  · rename_i hReplay
    rw [hReplay] at hChecked
    split <;> exact hChecked

theorem Accepts.mem_authorizedUsers (h : engine.Accepts evaluation) :
    evaluation.userId ∈ engine.authorizedUsers := by
  rw [← engine.checkReplay_authorizedUsers evaluation.eventId evaluation.checkedAt]
  unfold Accepts evaluate at h
  split at h
  · cases h
  · rename_i checked hReplay
    rw [hReplay]
    split at h
    · rename_i hAuthorized
      simpa [isAuthorized] using hAuthorized
    · cases h

theorem mem_authorizedUsers_step (engine : PolicyEngine) (call : Call) (userId : String) :
    userId ∈ (engine.step call).authorizedUsers ↔
      (grants userId call).getD (decide (userId ∈ engine.authorizedUsers)) = true := by
  cases call with
  | evaluate evaluation => simp [step, grants, evaluate_authorizedUsers]
  | authorizeUser granted =>
      by_cases hSame : granted = userId
      · simp [step, authorizeUser, grants, hSame]
      · simp [step, authorizeUser, grants, hSame, Ne.symm hSame]
  | revokeUser revoked =>
      by_cases hSame : revoked = userId
      · simp [step, revokeUser, grants, hSame]
      · simp [step, revokeUser, grants, hSame, Ne.symm hSame]

/-- In an engine that starts with no users, whoever is in the set was put there by
the last call about them. -/
theorem mem_authorizedUsers_run (hEmpty : engine.authorizedUsers = ∅) (calls : List Call)
    (userId : String) :
    userId ∈ (run step engine calls).authorizedUsers ↔ Authorized calls userId := by
  induction calls using List.reverseRecOn with
  | nil => simp [Authorized, hEmpty]
  | append_singleton calls last ih =>
      rw [run_concat, mem_authorizedUsers_step, Authorized, List.filterMap_append]
      cases hGrants : grants userId last with
      | none => simp [hGrants, ih, Authorized]
      | some granted => simp [hGrants]

end Authorization

section Replay

variable {eventId : String} {since seenAt : Instant} {seen : Finset String}

/-- The event is still known, at a time no earlier than `since`, and only events of
`seen` were looked up after it. -/
def Remembers (engine : PolicyEngine) (eventId : String) (since : Instant)
    (seen : Finset String) : Prop :=
  ∃ seenAt, since ≤ seenAt ∧ engine.replayCache.KeptSince eventId seenAt seen

/-- As many other events as there is room for have been presented. -/
def Crowded (engine : PolicyEngine) (eventId : String) (seen : Finset String) : Prop :=
  engine.replayCache.capacity ≤ (seen.erase eventId).card

theorem checkReplay_capacity (engine : PolicyEngine) (eventId : String) (now : Instant) :
    (engine.checkReplay eventId now).2.replayCache.capacity = engine.replayCache.capacity := by
  have hGet := engine.replayCache.get_capacity eventId
  unfold checkReplay
  split
  · rename_i hUsed
    rw [hUsed] at hGet
    split <;> exact hGet
  · rename_i hUsed
    rw [hUsed] at hGet
    exact hGet

theorem evaluate_capacity (engine : PolicyEngine) (evaluation : Evaluation) :
    (engine.evaluate evaluation).2.replayCache.capacity = engine.replayCache.capacity := by
  have hCapacity := engine.checkReplay_capacity evaluation.eventId evaluation.checkedAt
  unfold evaluate
  split
  · rename_i hReplay
    rw [hReplay] at hCapacity
    exact hCapacity
  · rename_i hReplay
    rw [hReplay] at hCapacity
    split <;> exact hCapacity

theorem step_capacity (engine : PolicyEngine) (call : Call) :
    (engine.step call).replayCache.capacity = engine.replayCache.capacity := by
  cases call with
  | evaluate evaluation => exact engine.evaluate_capacity evaluation
  | authorizeUser userId => rfl
  | revokeUser userId => rfl

/-- An event that is known and has not expired is a replay, and is used by that. -/
theorem Remembers.evaluate_self (h : engine.Remembers eventId since seen)
    (hEvent : evaluation.eventId = eventId) :
    engine.ttl ≤ evaluation.checkedAt - since ∨
      (engine.evaluate evaluation).1 = .error .replay ∧
        (engine.evaluate evaluation).2.Remembers eventId since seen := by
  obtain ⟨seenAt, hSince, hKept⟩ := h
  by_cases hFresh : evaluation.checkedAt - seenAt < engine.ttl
  · right
    have hEvaluate : engine.evaluate evaluation = (.error .replay,
        { engine with replayCache := engine.replayCache.put eventId seenAt }) := by
      simp only [evaluate, checkReplay, hEvent, LruCache.get, hKept.get?_eq, hFresh, ↓reduceIte]
    rw [hEvaluate]
    exact ⟨rfl, seenAt, hSince, engine.replayCache.keptSince_put eventId seenAt seen⟩
  · left
    exact Nat.le_trans (Nat.not_lt.mp hFresh) (Nat.sub_le_sub_left hSince _)

theorem Remembers.checkReplay_other {other : String} (h : engine.Remembers eventId since seen)
    (hOther : other ≠ eventId) (now : Instant) :
    (engine.checkReplay other now).2.Remembers eventId since (insert other seen) ∨
      engine.Crowded eventId (insert other seen) := by
  obtain ⟨seenAt, hSince, hKept⟩ := h
  rcases hKept.get hOther with hUsed | hCrowded
  · left
    refine ⟨seenAt, hSince, ?_⟩
    unfold checkReplay
    split
    · rename_i hGet
      rw [hGet] at hUsed
      split
      · exact hUsed
      · exact hUsed.pop hOther
    · rename_i hGet
      rw [hGet] at hUsed
      exact hUsed
  · exact .inr hCrowded

theorem Remembers.markSeen_other {other : String} (h : engine.Remembers eventId since seen)
    (hOther : other ≠ eventId) (now : Instant) :
    (engine.markSeen other now).Remembers eventId since (insert other seen) ∨
      engine.Crowded eventId (insert other seen) := by
  obtain ⟨seenAt, hSince, hKept⟩ := h
  rcases hKept.put hOther now with hUsed | hCrowded
  · exact .inl ⟨seenAt, hSince, hUsed⟩
  · exact .inr hCrowded

theorem Remembers.evaluate_other (h : engine.Remembers eventId since seen)
    (hOther : evaluation.eventId ≠ eventId) :
    (engine.evaluate evaluation).2.Remembers eventId since (insert evaluation.eventId seen) ∨
      engine.Crowded eventId (insert evaluation.eventId seen) := by
  have hCapacity := engine.checkReplay_capacity evaluation.eventId evaluation.checkedAt
  rcases h.checkReplay_other hOther evaluation.checkedAt with hChecked | hCrowded
  · unfold evaluate
    split
    · rename_i hReplay
      rw [hReplay] at hChecked
      exact .inl hChecked
    · rename_i checked hReplay
      rw [hReplay] at hChecked hCapacity
      split
      · have hMarked := hChecked.markSeen_other hOther evaluation.seenAt
        rw [Finset.insert_idem, Crowded, hCapacity] at hMarked
        exact hMarked
      · exact .inl hChecked
  · exact .inr hCrowded

theorem Accepts.remembers (h : engine.Accepts evaluation) :
    (engine.step (.evaluate evaluation)).Remembers evaluation.eventId evaluation.seenAt ∅ := by
  simp only [Accepts, evaluate] at h
  simp only [step, evaluate]
  split at h
  · cases h
  · split at h
    · rename_i checked hReplay hAuthorized
      simp only [hAuthorized, ↓reduceIte]
      exact ⟨evaluation.seenAt, Nat.le_refl _, checked.replayCache.keptSince_put _ _ _⟩
    · cases h

/-- An event that is known is accepted only once it has expired. -/
theorem Remembers.expired (h : engine.Remembers eventId since seen)
    (hEvent : evaluation.eventId = eventId) (hAccepts : engine.Accepts evaluation) :
    engine.ttl ≤ evaluation.checkedAt - since := by
  rcases h.evaluate_self hEvent with hExpired | ⟨hReplay, -⟩
  · exact hExpired
  · rw [Accepts, hReplay] at hAccepts
    cases hAccepts

theorem checkReplay_ttl (engine : PolicyEngine) (eventId : String) (now : Instant) :
    (engine.checkReplay eventId now).2.ttl = engine.ttl := by
  unfold checkReplay
  split
  · split <;> rfl
  · rfl

theorem step_ttl (engine : PolicyEngine) (call : Call) : (engine.step call).ttl = engine.ttl := by
  cases call with
  | evaluate evaluation =>
      have hChecked := engine.checkReplay_ttl evaluation.eventId evaluation.checkedAt
      simp only [step, evaluate]
      split
      · rename_i hReplay
        rw [hReplay] at hChecked
        exact hChecked
      · rename_i hReplay
        rw [hReplay] at hChecked
        split <;> exact hChecked
  | authorizeUser userId => rfl
  | revokeUser userId => rfl

theorem run_capacity_ttl (engine : PolicyEngine) (calls : List Call) :
    (run step engine calls).replayCache.capacity = engine.replayCache.capacity ∧
      (run step engine calls).ttl = engine.ttl := by
  induction calls generalizing engine with
  | nil => exact ⟨rfl, rfl⟩
  | cons call rest ih =>
      obtain ⟨hCapacity, hTtl⟩ := ih (engine.step call)
      rw [run_cons, hCapacity, hTtl]
      exact ⟨engine.step_capacity call, engine.step_ttl call⟩

theorem presented_cons (call : Call) (rest : List Call) :
    presented (call :: rest) = presented [call] ∪ presented rest := by
  ext eventId
  cases call with
  | evaluate evaluation => simp [presented]
  | _ => simp [presented]

/-- One call later: the event has expired, or it is still known, or it has been
pushed out by others. -/
theorem Remembers.step (h : engine.Remembers eventId since seen) (call : Call) :
    (∃ evaluation, call = .evaluate evaluation ∧ engine.ttl ≤ evaluation.checkedAt - since) ∨
      (engine.step call).Remembers eventId since (presented [call] ∪ seen) ∨
        engine.Crowded eventId (presented [call] ∪ seen) := by
  cases call with
  | evaluate evaluation =>
      have hPresented : presented [.evaluate evaluation] ∪ seen =
          insert evaluation.eventId seen := by
        simp [presented]
      rw [hPresented]
      by_cases hSame : evaluation.eventId = eventId
      · rcases h.evaluate_self hSame with hExpired | ⟨-, seenAt, hSince, hKept⟩
        · exact .inl ⟨evaluation, rfl, hExpired⟩
        · exact .inr (.inl ⟨seenAt, hSince, hKept.mono (Finset.subset_insert _ _)⟩)
      · exact .inr (h.evaluate_other hSame)
  | authorizeUser userId =>
      obtain ⟨seenAt, hSince, hKept⟩ := h
      exact .inr (.inl ⟨seenAt, hSince, hKept.mono Finset.subset_union_right⟩)
  | revokeUser userId =>
      obtain ⟨seenAt, hSince, hKept⟩ := h
      exact .inr (.inl ⟨seenAt, hSince, hKept.mono Finset.subset_union_right⟩)

theorem Remembers.run (h : engine.Remembers eventId since seen) (calls : List Call) :
    (∃ evaluation, .evaluate evaluation ∈ calls ∧ engine.ttl ≤ evaluation.checkedAt - since) ∨
      (run PolicyEngine.step engine calls).Remembers eventId since (presented calls ∪ seen) ∨
        engine.Crowded eventId (presented calls ∪ seen) := by
  induction calls generalizing engine seen with
  | nil => exact .inr (.inl (by simpa [presented] using h))
  | cons call rest ih =>
      have hUnion : presented (call :: rest) ∪ seen =
          presented rest ∪ (presented [call] ∪ seen) := by
        rw [presented_cons, Finset.union_comm (presented [call]), Finset.union_assoc]
      rw [hUnion, run_cons]
      rcases h.step call with ⟨evaluation, rfl, hExpired⟩ | hKnown | hCrowded
      · exact .inl ⟨evaluation, List.mem_cons_self, hExpired⟩
      · rcases ih hKnown with ⟨evaluation, hMem, hExpired⟩ | hRest
        · rw [engine.step_ttl] at hExpired
          exact .inl ⟨evaluation, List.mem_cons_of_mem _ hMem, hExpired⟩
        · rw [Crowded, engine.step_capacity] at hRest
          exact .inr hRest
      · refine .inr (.inr (Nat.le_trans hCrowded (Finset.card_le_card ?_)))
        exact Finset.erase_subset_erase _ Finset.subset_union_right

theorem Monotone.le_last {calls : List Call} {last : Evaluation}
    (h : Monotone (calls ++ [.evaluate last])) (hMem : .evaluate evaluation ∈ calls) :
    evaluation.checkedAt ≤ last.checkedAt := by
  rw [Monotone, List.flatMap_append, List.pairwise_append] at h
  apply h.2.2
  · exact List.mem_flatMap.mpr ⟨_, hMem, by simp [readings]⟩
  · simp [readings]

theorem Accepts.again {first second : Evaluation} {between : List Call}
    (hFirst : engine.Accepts first)
    (hSecond : (run step engine (.evaluate first :: between)).Accepts second)
    (hSame : second.eventId = first.eventId)
    (hClock : Monotone (.evaluate first :: between ++ [.evaluate second])) :
    engine.ttl ≤ second.checkedAt - first.seenAt ∨
      engine.replayCache.capacity ≤ ((presented between).erase first.eventId).card := by
  have hRemembers := hFirst.remembers.run between
  rw [Crowded, Finset.union_empty, engine.step_capacity, engine.step_ttl] at hRemembers
  rcases hRemembers with ⟨evaluation, hMem, hExpired⟩ | hKnown | hCrowded
  · left
    have hLater : evaluation.checkedAt ≤ second.checkedAt :=
      hClock.le_last (List.mem_cons_of_mem _ hMem)
    exact Nat.le_trans hExpired (Nat.sub_le_sub_right hLater _)
  · left
    have hExpired := hKnown.expired hSame hSecond
    rw [((engine.step (.evaluate first)).run_capacity_ttl between).2, engine.step_ttl] at hExpired
    exact hExpired
  · exact .inr hCrowded

/-- An event that was accepted is accepted again only after its time to live, or
after as many other events as the cache has room for; and only users whose right to
act stands are ever obeyed. -/
theorem replay_protection (capacity : Nat) (hPositive : 0 < capacity) (ttl : Duration) :
    (∀ calls evaluation,
      (run step (withCapacityAndTtl capacity hPositive ttl) calls).Accepts evaluation →
        Authorized calls evaluation.userId) ∧
    ∀ before first between second, second.eventId = first.eventId →
      Monotone (.evaluate first :: between ++ [.evaluate second]) →
      (run step (withCapacityAndTtl capacity hPositive ttl) before).Accepts first →
      (run step (withCapacityAndTtl capacity hPositive ttl)
        (before ++ .evaluate first :: between)).Accepts second →
        ttl ≤ second.checkedAt - first.seenAt ∨
          capacity ≤ ((presented between).erase first.eventId).card := by
  constructor
  · intro calls evaluation hAccepts
    exact (mem_authorizedUsers_run rfl calls evaluation.userId).mp hAccepts.mem_authorizedUsers
  · intro before first between second hSame hClock hFirst hSecond
    rw [run_append] at hSecond
    have hAgain := hFirst.again hSecond hSame hClock
    obtain ⟨hCapacity, hTtl⟩ := run_capacity_ttl (withCapacityAndTtl capacity hPositive ttl) before
    rw [hCapacity, hTtl] at hAgain
    exact hAgain

def execute (eventId : String) (now : Instant) : Evaluation :=
  ⟨eventId, "@alice:example.com", "execute", now, now⟩

/-- With room for one event only, another one makes room for the first again. -/
theorem replay_protection_crowded :
    0 < 1 ∧
      (run step (withCapacityAndTtl 1 Nat.one_pos 100) [.authorizeUser "@alice:example.com"]).Accepts
        (execute "$first" 1) ∧
      (run step (withCapacityAndTtl 1 Nat.one_pos 100)
        [.authorizeUser "@alice:example.com", .evaluate (execute "$first" 1),
          .evaluate (execute "$second" 2)]).Accepts (execute "$first" 3) ∧
      (100 ≤ (3 - 1 : Nat) ∨
        1 ≤ ((presented [.evaluate (execute "$second" 2)]).erase "$first").card) := by
  have hFirst : (run step (withCapacityAndTtl 1 Nat.one_pos 100)
      [.authorizeUser "@alice:example.com"]).Accepts (execute "$first" 1) := by
    simp [Accepts, run, step, evaluate, checkReplay, LruCache.get, LruCache.get?, LruCache.new,
      withCapacityAndTtl, isAuthorized, authorizeUser, execute]
  have hSecond : (run step (withCapacityAndTtl 1 Nat.one_pos 100)
      [.authorizeUser "@alice:example.com", .evaluate (execute "$first" 1),
        .evaluate (execute "$second" 2)]).Accepts (execute "$first" 3) := by
    simp [Accepts, run, step, evaluate, checkReplay, LruCache.get, LruCache.get?, LruCache.new,
      LruCache.put, LruCache.without, List.lookup_cons, withCapacityAndTtl, isAuthorized,
      authorizeUser, markSeen, execute]
  refine ⟨Nat.one_pos, hFirst, hSecond, ?_⟩
  exact (replay_protection 1 Nat.one_pos 100).2 _ (execute "$first" 1) _ (execute "$first" 3) rfl
    (by simp [Monotone, readings, execute]) hFirst hSecond

end Replay

end PolicyEngine

end Mxdx.Policy
