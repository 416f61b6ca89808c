import Mxdx.Matrix.Client
import Mxdx.Foundations.Automaton
import Mathlib.Logic.Function.Basic

/-! Claims on fabric tasks. `try_claim` writes a claim into the room state and
then reads back who stands there; the room keeps whatever was written last.
Every request of every worker is one input of the machine below. -/
namespace Mxdx.Fabric

open MatrixClient (WriteAnswer)

/-- A worker's claim to a task. -/
structure ClaimEvent where
  taskUuid : String
  workerId : String
  claimedAt : Nat
deriving DecidableEq, Repr

/-- The state key of the claim on a task. -/
def claimKey (taskUuid : String) : String := "task/" ++ taskUuid ++ "/claim"

/-- Where a worker is in `try_claim`. -/
inductive ClaimPhase where
  | writing (claim : ClaimEvent)
  | reading (taskUuid : String)
deriving DecidableEq, Repr

/-- A call of `try_claim` that has returned. -/
structure ClaimResult where
  taskUuid : String
  workerId : String
  won : Bool
deriving DecidableEq, Repr

/-- The claim events of the room by state key, the workers by their id, and the
calls made and returned. -/
structure ClaimRoom where
  nowSecs : Nat
  state : String → Option ClaimEvent
  phases : String → Option ClaimPhase
  calls : List (String × String)
  results : List ClaimResult

/-- What can happen to the room and its workers. -/
inductive ClaimInput where
  | tick (secs : Nat)
  | tryClaim (workerId taskUuid : String)
  | write (workerId : String) (answer : WriteAnswer)
  | read (workerId : String) (answered : Bool)

namespace ClaimRoom

/-- A room with any old state in it, before any worker has done anything. -/
def new (nowSecs : Nat) (state : String → Option ClaimEvent) : ClaimRoom :=
  ⟨nowSecs, state, fun _ => none, [], []⟩

def setPhase (room : ClaimRoom) (workerId : String) (phase : Option ClaimPhase) : ClaimRoom :=
  { room with phases := Function.update room.phases workerId phase }

/-- The `worker_id` of the claim event, as `try_claim` reads it. -/
def winner (room : ClaimRoom) (taskUuid : String) : String :=
  ((room.state (claimKey taskUuid)).map ClaimEvent.workerId).getD ""

/-- The claim that is written last is the one that stands. -/
def putClaim (room : ClaimRoom) (claim : ClaimEvent) : ClaimRoom :=
  { room with state := Function.update room.state (claimKey claim.taskUuid) (some claim) }

def putResult (room : ClaimRoom) (result : ClaimResult) : ClaimRoom :=
  { room with results := room.results ++ [result] }

/-- A request that fails ends the call with an error. -/
def step (room : ClaimRoom) : ClaimInput → ClaimRoom
  | .tick secs => { room with nowSecs := room.nowSecs + secs }
  | .tryClaim workerId taskUuid =>
      if (room.phases workerId).isNone then
        { room with calls := room.calls ++ [(workerId, taskUuid)] }.setPhase workerId
          (some (.writing ⟨taskUuid, workerId, room.nowSecs⟩))
      else room
  | .write workerId answer =>
      match room.phases workerId with
      | some (.writing claim) =>
          match answer with
          | .ok => (room.putClaim claim).setPhase workerId (some (.reading claim.taskUuid))
          | .lost => (room.putClaim claim).setPhase workerId none
          | .refused => room.setPhase workerId none
      | _ => room
  | .read workerId answered =>
      match room.phases workerId with
      | some (.reading taskUuid) =>
          if answered then
            (room.putResult ⟨taskUuid, workerId, room.winner taskUuid == workerId⟩).setPhase
              workerId none
          else room.setPhase workerId none
      | _ => room

/-- The worker's `try_claim` has returned true. -/
def Won (room : ClaimRoom) (workerId taskUuid : String) : Prop :=
  ⟨taskUuid, workerId, true⟩ ∈ room.results

/-- No task has two winners. -/
def AtMostOneWinner (room : ClaimRoom) : Prop :=
  ∀ taskUuid first second, room.Won first taskUuid → room.Won second taskUuid → first = second

theorem claimKey_injective : Function.Injective claimKey := by
  intro first second h
  have hChars := congrArg String.toList h
  simp only [claimKey, String.toList_append, List.append_assoc] at hChars
  exact String.toList_inj.mp (List.append_cancel_right (List.append_cancel_left hChars))

@[simp] theorem winner_setPhase (room : ClaimRoom) (workerId : String) (phase : Option ClaimPhase)
    (taskUuid : String) : (room.setPhase workerId phase).winner taskUuid = room.winner taskUuid :=
  rfl

/-- A write changes the winner of its own task only. -/
theorem winner_putClaim (room : ClaimRoom) (claim : ClaimEvent) (taskUuid : String) :
    (room.putClaim claim).winner taskUuid =
      if taskUuid = claim.taskUuid then claim.workerId else room.winner taskUuid := by
  by_cases hTask : taskUuid = claim.taskUuid
  · simp [winner, putClaim, hTask]
  · have hKey : claimKey taskUuid ≠ claimKey claim.taskUuid := fun h =>
      hTask (claimKey_injective h)
    simp [winner, putClaim, hTask, hKey]

theorem won_putResult {room : ClaimRoom} {result : ClaimResult} {workerId taskUuid : String} :
    (room.putResult result).Won workerId taskUuid ↔
      room.Won workerId taskUuid ∨ result = ⟨taskUuid, workerId, true⟩ := by
  simp [Won, putResult, eq_comm]

theorem phases_setPhase (room : ClaimRoom) (workerId : String) (phase : Option ClaimPhase)
    (other : String) :
    (room.setPhase workerId phase).phases other =
      if other = workerId then phase else room.phases other := by
  by_cases hOther : other = workerId <;> simp [setPhase, hOther]

/-- Everything a step can do to the room. -/
inductive Effect (room : ClaimRoom) : ClaimInput → ClaimRoom → Prop where
  | nothing (input : ClaimInput) : Effect room input room
  | tick (secs : Nat) : Effect room (.tick secs) { room with nowSecs := room.nowSecs + secs }
  | call {workerId taskUuid : String} (hIdle : room.phases workerId = none) :
      Effect room (.tryClaim workerId taskUuid)
        ({ room with calls := room.calls ++ [(workerId, taskUuid)] }.setPhase workerId
          (some (.writing ⟨taskUuid, workerId, room.nowSecs⟩)))
  | put {workerId : String} {claim : ClaimEvent}
      (hPhase : room.phases workerId = some (.writing claim)) :
      Effect room (.write workerId .ok)
        ((room.putClaim claim).setPhase workerId (some (.reading claim.taskUuid)))
  | putUnseen {workerId : String} {claim : ClaimEvent}
      (hPhase : room.phases workerId = some (.writing claim)) :
      Effect room (.write workerId .lost) ((room.putClaim claim).setPhase workerId none)
  | refused {workerId : String} {claim : ClaimEvent}
      (hPhase : room.phases workerId = some (.writing claim)) :
      Effect room (.write workerId .refused) (room.setPhase workerId none)
  | result {workerId taskUuid : String}
      (hPhase : room.phases workerId = some (.reading taskUuid)) :
      Effect room (.read workerId true)
        ((room.putResult ⟨taskUuid, workerId, room.winner taskUuid == workerId⟩).setPhase
          workerId none)
  | unread {workerId taskUuid : String}
      (hPhase : room.phases workerId = some (.reading taskUuid)) :
      Effect room (.read workerId false) (room.setPhase workerId none)

theorem step_effect (room : ClaimRoom) (input : ClaimInput) :
    room.Effect input (room.step input) := by
  cases input with
  | tick secs => exact .tick secs
  | tryClaim workerId taskUuid =>
      simp only [step]
      split
      next hIdle => exact .call (Option.isNone_iff_eq_none.mp hIdle)
      · exact .nothing _
  | write workerId answer =>
      simp only [step]
      split
      next claim hPhase =>
        cases answer with
        | ok => exact .put hPhase
        | lost => exact .putUnseen hPhase
        | refused => exact .refused hPhase
      · exact .nothing _
  | read workerId answered =>
      simp only [step]
      split
      next taskUuid hPhase =>
        cases answered with
        | true => exact .result hPhase
        | false => exact .unread hPhase
      · exact .nothing _

section Exclusion

variable {room : ClaimRoom}

/-- A worker about to write claims for itself, and whoever has won a task
still stands in its claim event. -/
structure Standing (room : ClaimRoom) : Prop where
  own : ∀ workerId claim, room.phases workerId = some (.writing claim) → claim.workerId = workerId
  stands : ∀ workerId taskUuid, room.Won workerId taskUuid → room.winner taskUuid = workerId

theorem Standing.atMostOneWinner (h : room.Standing) : room.AtMostOneWinner := by
  intro taskUuid first second hFirst hSecond
  rw [← h.stands first taskUuid hFirst, h.stands second taskUuid hSecond]

/-- Nobody's claim lands on a task that somebody else has found to be his. -/
def Uncontested (room : ClaimRoom) : ClaimInput → Prop
  | .write workerId answer =>
      ∀ claim, room.phases workerId = some (.writing claim) → answer.lands = true →
        ∀ other, room.Won other claim.taskUuid → other = workerId
  | _ => True

theorem Standing.setPhase (h : room.Standing) {workerId : String} {phase : Option ClaimPhase}
    (hPhase : ∀ claim, phase = some (.writing claim) → claim.workerId = workerId) :
    (room.setPhase workerId phase).Standing := by
  refine ⟨?_, h.stands⟩
  intro other claim hOther
  rw [phases_setPhase] at hOther
  split at hOther
  next hSame =>
    subst hSame
    exact hPhase claim hOther
  · exact h.own other claim hOther

theorem Standing.putClaim (h : room.Standing) {workerId : String} {claim : ClaimEvent}
    (hPhase : room.phases workerId = some (.writing claim))
    (hAlone : ∀ other, room.Won other claim.taskUuid → other = workerId) :
    (room.putClaim claim).Standing := by
  refine ⟨h.own, ?_⟩
  intro other taskUuid hWon
  rw [winner_putClaim]
  split
  next hTask =>
    subst hTask
    rw [h.own workerId claim hPhase, hAlone other hWon]
  · exact h.stands other taskUuid hWon

theorem Standing.putResult (h : room.Standing) (workerId taskUuid : String) :
    (room.putResult ⟨taskUuid, workerId, room.winner taskUuid == workerId⟩).Standing := by
  refine ⟨h.own, ?_⟩
  intro other task hWon
  rcases won_putResult.mp hWon with hBefore | hNow
  · exact h.stands other task hBefore
  · simp only [ClaimResult.mk.injEq, beq_iff_eq] at hNow
    obtain ⟨rfl, rfl, hWinner⟩ := hNow
    exact hWinner

theorem standing_step (room : ClaimRoom) (input : ClaimInput) (h : room.Standing)
    (hGuard : room.Uncontested input) : (room.step input).Standing := by
  have hEffect := step_effect room input
  generalize room.step input = next at hEffect ⊢
  cases hEffect with
  | nothing => exact h
  | tick secs => exact ⟨h.own, h.stands⟩
  | @call workerId taskUuid hIdle =>
      have hCalled : Standing { room with calls := room.calls ++ [(workerId, taskUuid)] } :=
        ⟨h.own, h.stands⟩
      apply hCalled.setPhase
      intro claim hClaim
      cases hClaim
      rfl
  | put hPhase =>
      apply (h.putClaim hPhase (hGuard _ hPhase rfl)).setPhase
      intro claim hClaim
      cases hClaim
  | putUnseen hPhase => exact (h.putClaim hPhase (hGuard _ hPhase rfl)).setPhase (by simp)
  | refused hPhase => exact h.setPhase (by simp)
  | result hPhase => exact (h.putResult _ _).setPhase (by simp)
  | unread hPhase => exact h.setPhase (by simp)

theorem standing_new (nowSecs : Nat) (state : String → Option ClaimEvent) :
    (new nowSecs state).Standing :=
  ⟨by simp [new], by simp [new, Won]⟩

end Exclusion

section Complete

variable {room : ClaimRoom} {input : ClaimInput}

/-- Every request is answered. -/
def answered : ClaimInput → Bool
  | .write _ answer => answer = .ok
  | .read _ answered => answered
  | _ => true

theorem calls_step (room : ClaimRoom) (input : ClaimInput) :
    room.calls <+: (room.step input).calls := by
  have hEffect := step_effect room input
  generalize room.step input = next at hEffect ⊢
  cases hEffect with
  | call hIdle => exact List.prefix_append _ _
  | _ => exact List.prefix_refl _

theorem calls_run (room : ClaimRoom) (inputs : List ClaimInput) :
    room.calls <+: (Automaton.run step room inputs).calls := by
  induction inputs generalizing room with
  | nil => exact List.prefix_refl _
  | cons input rest ih => exact (calls_step room input).trans (ih _)

/-- Workers work on what they have called for, and one that has won a task is
not about to claim it again. -/
structure Tidy (room : ClaimRoom) : Prop where
  own : ∀ workerId claim, room.phases workerId = some (.writing claim) →
    claim.workerId = workerId ∧ (workerId, claim.taskUuid) ∈ room.calls
  called : ∀ workerId taskUuid, room.phases workerId = some (.reading taskUuid) →
    (workerId, taskUuid) ∈ room.calls
  done : ∀ workerId taskUuid, room.Won workerId taskUuid →
    (workerId, taskUuid) ∈ room.calls ∧
      ∀ claim, room.phases workerId = some (.writing claim) → claim.taskUuid ≠ taskUuid

theorem Tidy.setPhase (h : room.Tidy) {workerId : String} {phase : Option ClaimPhase}
    (hWriting : ∀ claim, phase ≠ some (.writing claim))
    (hReading : ∀ taskUuid, phase = some (.reading taskUuid) →
      (workerId, taskUuid) ∈ room.calls) : (room.setPhase workerId phase).Tidy := by
  refine ⟨?_, ?_, ?_⟩
  · intro other claim hOther
    rw [phases_setPhase] at hOther
    split at hOther
    · exact absurd hOther (hWriting claim)
    · exact h.own other claim hOther
  · intro other taskUuid hOther
    rw [phases_setPhase] at hOther
    split at hOther
    next hSame =>
      subst hSame
      exact hReading taskUuid hOther
    · exact h.called other taskUuid hOther
  · intro other taskUuid hWon
    obtain ⟨hCalled, hElsewhere⟩ := h.done other taskUuid hWon
    refine ⟨hCalled, fun claim hOther => ?_⟩
    rw [phases_setPhase] at hOther
    split at hOther
    · exact absurd hOther (hWriting claim)
    · exact hElsewhere claim hOther

/-- A worker calls for a task it has not called for before. -/
theorem Tidy.call (h : room.Tidy) {workerId taskUuid : String} {nowSecs : Nat}
    (hNew : (workerId, taskUuid) ∉ room.calls) :
    ({ room with calls := room.calls ++ [(workerId, taskUuid)] }.setPhase workerId
      (some (.writing ⟨taskUuid, workerId, nowSecs⟩))).Tidy := by
  refine ⟨?_, ?_, ?_⟩
  · intro other claim hOther
    rw [phases_setPhase] at hOther
    split at hOther
    next hSame =>
      subst hSame
      cases hOther
      exact ⟨rfl, List.mem_append_right _ (by simp)⟩
    · exact ⟨(h.own other claim hOther).1, List.mem_append_left _ (h.own other claim hOther).2⟩
  · intro other task hOther
    rw [phases_setPhase] at hOther
    split at hOther
    · cases hOther
    · exact List.mem_append_left _ (h.called other task hOther)
  · intro other task hWon
    obtain ⟨hCalled, hElsewhere⟩ := h.done other task hWon
    refine ⟨List.mem_append_left _ hCalled, fun claim hOther => ?_⟩
    rw [phases_setPhase] at hOther
    split at hOther
    next hSame =>
      subst hSame
      cases hOther
      rintro rfl
      exact hNew hCalled
    · exact hElsewhere claim hOther

theorem Tidy.putResult (h : room.Tidy) {workerId taskUuid : String}
    (hPhase : room.phases workerId = some (.reading taskUuid)) (won : Bool) :
    (room.putResult ⟨taskUuid, workerId, won⟩).Tidy := by
  refine ⟨h.own, h.called, ?_⟩
  intro other task hWon
  rcases won_putResult.mp hWon with hBefore | hNow
  · exact h.done other task hBefore
  · simp only [ClaimResult.mk.injEq] at hNow
    obtain ⟨rfl, rfl, -⟩ := hNow
    refine ⟨h.called _ _ hPhase, fun claim hClaim => ?_⟩
    change room.phases _ = _ at hClaim
    rw [hPhase] at hClaim
    cases hClaim

theorem tidy_step (h : room.Tidy) (hOnce : (room.step input).calls.Nodup) :
    (room.step input).Tidy := by
  have hEffect := step_effect room input
  generalize room.step input = next at hEffect hOnce ⊢
  cases hEffect with
  | nothing => exact h
  | tick secs => exact ⟨h.own, h.called, h.done⟩
  | call hIdle =>
      apply h.call
      intro hOld
      exact (List.nodup_append.mp hOnce).2.2 _ hOld _ (by simp) rfl
  | @put workerId claim hPhase =>
      have hPut : (room.putClaim claim).Tidy := ⟨h.own, h.called, h.done⟩
      apply hPut.setPhase (by simp)
      intro taskUuid hReading
      cases hReading
      exact (h.own workerId claim hPhase).2
  | @putUnseen workerId claim hPhase =>
      have hPut : (room.putClaim claim).Tidy := ⟨h.own, h.called, h.done⟩
      exact hPut.setPhase (by simp) (by simp)
  | refused hPhase => exact h.setPhase (by simp) (by simp)
  | result hPhase => exact (h.putResult hPhase _).setPhase (by simp) (by simp)
  | unread hPhase => exact h.setPhase (by simp) (by simp)

/-- One worker has won the task, and another one stands in the claim event who
has won it too or is about to. -/
structure Contested (taskUuid first : String) (room : ClaimRoom) : Prop where
  won : room.Won first taskUuid
  rival : room.winner taskUuid ≠ first
  next : room.phases (room.winner taskUuid) = some (.reading taskUuid) ∨
    room.Won (room.winner taskUuid) taskUuid

variable {taskUuid first : String}

/-- It does not matter what other workers go on to do. -/
theorem Contested.setPhase (h : room.Contested taskUuid first) {workerId : String}
    {phase : Option ClaimPhase}
    (hOther : room.phases (room.winner taskUuid) = some (.reading taskUuid) →
      room.winner taskUuid ≠ workerId) :
    (room.setPhase workerId phase).Contested taskUuid first := by
  refine ⟨h.won, h.rival, ?_⟩
  rw [winner_setPhase, phases_setPhase]
  rcases h.next with hReading | hWon
  · rw [if_neg (hOther hReading)]
    exact .inl hReading
  · exact .inr hWon

/-- A claim against a winner who has claimed before leaves the task contested. -/
theorem contested_put {workerId : String} {claim : ClaimEvent}
    (hOwn : claim.workerId = workerId) (hWon : room.Won first claim.taskUuid)
    (hRival : first ≠ workerId) :
    ((room.putClaim claim).setPhase workerId
      (some (.reading claim.taskUuid))).Contested claim.taskUuid first := by
  have hWinner : (room.putClaim claim).winner claim.taskUuid = workerId := by
    rw [winner_putClaim, if_pos rfl, hOwn]
  refine ⟨hWon, ?_, .inl ?_⟩
  · rw [winner_setPhase, hWinner]
    exact hRival.symm
  · rw [winner_setPhase, hWinner, phases_setPhase, if_pos rfl]

/-- The one who stands in the claim event reads it and wins. -/
theorem Contested.result (h : room.Contested taskUuid first) {workerId task : String}
    (hPhase : room.phases workerId = some (.reading task)) :
    ((room.putResult ⟨task, workerId, room.winner task == workerId⟩).setPhase
      workerId none).Contested taskUuid first := by
  by_cases hStands : room.winner taskUuid = workerId
  · refine ⟨List.mem_append_left _ h.won, h.rival, .inr ?_⟩
    show (room.putResult _).Won (room.winner taskUuid) taskUuid
    rcases h.next with hReading | hWon
    · rw [hStands, hPhase] at hReading
      cases hReading
      apply won_putResult.mpr
      right
      simp [hStands]
    · exact won_putResult.mpr (.inl hWon)
  · have hReported : (room.putResult ⟨task, workerId, room.winner task == workerId⟩).Contested
        taskUuid first :=
      ⟨List.mem_append_left _ h.won, h.rival, h.next.imp_right (List.mem_append_left _)⟩
    exact hReported.setPhase fun _ => hStands

theorem contested_step (hTidy : room.Tidy) (hAnswered : answered input = true)
    (h : room.Contested taskUuid first) : (room.step input).Contested taskUuid first := by
  have hEffect := step_effect room input
  generalize room.step input = next at hEffect ⊢
  cases hEffect with
  | nothing => exact h
  | tick secs => exact ⟨h.won, h.rival, h.next⟩
  | @call workerId task hIdle =>
      have hCalled : Contested taskUuid first
          { room with calls := room.calls ++ [(workerId, task)] } := ⟨h.won, h.rival, h.next⟩
      apply hCalled.setPhase
      intro hReading hSame
      change room.phases (room.winner taskUuid) = _ at hReading
      change room.winner taskUuid = workerId at hSame
      rw [hSame, hIdle] at hReading
      cases hReading
  | @put workerId claim hPhase =>
      have hOwn := (hTidy.own workerId claim hPhase).1
      by_cases hTask : taskUuid = claim.taskUuid
      · -- the newcomer cannot be `first`, who has claimed before
        subst hTask
        apply contested_put hOwn h.won
        rintro rfl
        exact (hTidy.done _ _ h.won).2 claim hPhase rfl
      · have hWinner : (room.putClaim claim).winner taskUuid = room.winner taskUuid := by
          rw [winner_putClaim, if_neg hTask]
        have hPut : (room.putClaim claim).Contested taskUuid first :=
          ⟨h.won, by rw [hWinner]; exact h.rival, by rw [hWinner]; exact h.next⟩
        apply hPut.setPhase
        intro hReading hSame
        change room.phases _ = _ at hReading
        rw [hSame, hPhase] at hReading
        cases hReading
  | putUnseen hPhase => simp [answered] at hAnswered
  | refused hPhase => simp [answered] at hAnswered
  | result hPhase => exact h.result hPhase
  | unread hPhase => simp [answered] at hAnswered

theorem contested_run {inputs : List ClaimInput} (hTidy : room.Tidy)
    (hAnswered : ∀ input ∈ inputs, answered input = true)
    (hOnce : (Automaton.run step room inputs).calls.Nodup)
    (h : room.Contested taskUuid first) :
    (Automaton.run step room inputs).Contested taskUuid first := by
  induction inputs generalizing room with
  | nil => exact h
  | cons input rest ih =>
      have hNodup : (room.step input).calls.Nodup := hOnce.sublist (calls_run _ rest).sublist
      exact ih (tidy_step hTidy hNodup) (fun i hi => hAnswered i (by simp [hi])) hOnce
        (contested_step hTidy (hAnswered input (by simp)) h)

/-- A write against a winner leaves the task contested. -/
theorem contested_of_write (hTidy : room.Tidy) (hAnswered : answered input = true)
    (hGuard : ¬ room.Uncontested input) :
    ∃ taskUuid first, (room.step input).Contested taskUuid first := by
  cases input with
  | write workerId answer =>
      obtain rfl : answer = .ok := by simpa [answered] using hAnswered
      simp only [Uncontested, not_forall] at hGuard
      obtain ⟨claim, hPhase, -, first, hWon, hRival⟩ := hGuard
      have hStep : room.step (.write workerId .ok) =
          (room.putClaim claim).setPhase workerId (some (.reading claim.taskUuid)) := by
        simp [step, hPhase]
      rw [hStep]
      exact ⟨_, first, contested_put (hTidy.own workerId claim hPhase).1 hWon hRival⟩
  | _ => exact absurd trivial hGuard

theorem uncontested_of_atMostOneWinner {inputs : List ClaimInput} (hTidy : room.Tidy)
    (hAnswered : ∀ input ∈ inputs, answered input = true)
    (hOnce : (Automaton.run step room inputs).calls.Nodup)
    (hIdle : ∀ workerId, (Automaton.run step room inputs).phases workerId = none)
    (h : (Automaton.run step room inputs).AtMostOneWinner) :
    Automaton.Admissible step Uncontested room inputs := by
  induction inputs generalizing room with
  | nil => trivial
  | cons input rest ih =>
      have hNodup : (room.step input).calls.Nodup := hOnce.sublist (calls_run _ rest).sublist
      have hNext := tidy_step hTidy hNodup
      have hRest : ∀ i ∈ rest, answered i = true := fun i hi => hAnswered i (by simp [hi])
      refine ⟨?_, ih hNext hRest hOnce hIdle h⟩
      by_contra hGuard
      obtain ⟨taskUuid, first, hContested⟩ :=
        contested_of_write hTidy (hAnswered input (by simp)) hGuard
      have hEnd := contested_run hNext hRest hOnce hContested
      rcases hEnd.next with hReading | hWon
      · have hNone := hIdle ((Automaton.run step (room.step input) rest).winner taskUuid)
        rw [Automaton.run_cons, hReading] at hNone
        cases hNone
      · exact hEnd.rival (h taskUuid _ _ hWon hEnd.won)

/-- At most one worker wins each task in every run in which no claim lands on a
task that another worker has already found to be its own. In a run in which
every call is made once, answered and completed, this is also necessary. -/
theorem claim_exclusive_iff (nowSecs : Nat) (state : String → Option ClaimEvent)
    (inputs : List ClaimInput) :
    (Automaton.Admissible step Uncontested (new nowSecs state) inputs →
      Automaton.Always step AtMostOneWinner (new nowSecs state) inputs) ∧
    ((∀ input ∈ inputs, answered input = true) →
      (Automaton.run step (new nowSecs state) inputs).calls.Nodup →
      (∀ workerId, (Automaton.run step (new nowSecs state) inputs).phases workerId = none) →
      ((Automaton.run step (new nowSecs state) inputs).AtMostOneWinner ↔
        Automaton.Admissible step Uncontested (new nowSecs state) inputs)) := by
  have hExclusive : Automaton.Admissible step Uncontested (new nowSecs state) inputs →
      Automaton.Always step AtMostOneWinner (new nowSecs state) inputs := fun hAdmissible =>
    (hAdmissible.always standing_step (standing_new nowSecs state)).mono
      fun _ h => h.atMostOneWinner
  refine ⟨hExclusive, fun hAnswered hOnce hIdle => ⟨fun h => ?_, fun h => (hExclusive h).last⟩⟩
  have hTidy : (new nowSecs state).Tidy :=
    ⟨by simp [new], by simp [new], by simp [new, Won]⟩
  exact uncontested_of_atMostOneWinner hTidy hAnswered hOnce hIdle h

/-- One worker writes and reads, then another one does. -/
theorem claims_in_turn_both_win :
    let inputs : List ClaimInput :=
      [.tryClaim "A" "t", .write "A" .ok, .read "A" true,
       .tryClaim "B" "t", .write "B" .ok, .read "B" true]
    let room := Automaton.run step (new 0 fun _ => none) inputs
    room.Won "A" "t" ∧ room.Won "B" "t" ∧
    ¬ Automaton.Always step AtMostOneWinner (new 0 fun _ => none) inputs := by
  intro inputs room
  have hA : room.Won "A" "t" := by
    show _ ∈ room.results
    decide
  have hB : room.Won "B" "t" := by
    show _ ∈ room.results
    decide
  refine ⟨hA, hB, fun hAlways => ?_⟩
  have hSame : "A" = "B" := hAlways.last "t" "A" "B" hA hB
  simp at hSame

end Complete

end ClaimRoom

end Mxdx.Fabric
