import Mxdx.Foundations.Automaton
import Mathlib.Data.List.Sublists

/-! A queue with room for so many items. An item that finds it full is dropped, and neither
the one who pushes nor the one who reads is told. -/

universe u

/-- What waits, what has been read, and everything that was ever pushed. -/
structure BoundedQueue (α : Type u) where
  waiting : List α
  read : List α
  pushed : List α
deriving DecidableEq, Repr

namespace BoundedQueue

variable {α : Type u}

/-- Nothing has been pushed yet. -/
def empty : BoundedQueue α := ⟨[], [], []⟩

/-- The two ends of the queue. -/
inductive Act (α : Type u) where
  | push (item : α)
  | pop

/-- A push that finds no room is lost; so is a pop that finds nothing. -/
def step (capacity : Nat) (queue : BoundedQueue α) : Act α → BoundedQueue α
  | .push item =>
      { queue with
        waiting :=
          if queue.waiting.length < capacity then queue.waiting ++ [item] else queue.waiting
        pushed := queue.pushed ++ [item] }
  | .pop =>
      match queue.waiting with
      | [] => queue
      | item :: rest => { queue with waiting := rest, read := queue.read ++ [item] }

/-- The queue of a machine some of whose steps leave it alone. -/
def perform (capacity : Nat) (queue : BoundedQueue α) : Option (Act α) → BoundedQueue α
  | none => queue
  | some act => queue.step capacity act

/-- What the queue has not dropped, in order. -/
def kept (queue : BoundedQueue α) : List α := queue.read ++ queue.waiting

/-- The item that an action pushes, and whether the queue has room for it. -/
def offer (capacity : Nat) (queue : BoundedQueue α) : Act α → Option (α × Bool)
  | .push item => some (item, decide (queue.waiting.length < capacity))
  | .pop => none

variable {capacity : Nat} {queue : BoundedQueue α}

/-- Every push is accounted for, with room or without. -/
theorem pushed_step (queue : BoundedQueue α) (act : Act α) :
    (queue.step capacity act).pushed =
      queue.pushed ++ (queue.offer capacity act).toList.map Prod.fst := by
  cases act with
  | push item => rfl
  | pop =>
      unfold step offer
      cases queue.waiting <;> simp

/-- An item is kept if and only if the queue had room for it. -/
theorem kept_step (queue : BoundedQueue α) (act : Act α) :
    (queue.step capacity act).kept =
      queue.kept ++ ((queue.offer capacity act).toList.filter Prod.snd).map Prod.fst := by
  cases act with
  | push item =>
      by_cases hRoom : queue.waiting.length < capacity
      · simp [step, offer, kept, hRoom]
      · simp [step, offer, kept, hRoom]
  | pop =>
      cases hWaiting : queue.waiting with
      | nil => simp [step, offer, hWaiting]
      | cons item rest => simp [step, offer, kept, hWaiting]

section Machine

open Automaton

variable {State Input : Type*} (capacity : Nat) (next : State → Input → State)
  (queue : State → BoundedQueue α) (action : State → Input → Option (Act α))

/-- All that a run of a machine pushes into its queue, in order, each item with whether the
queue had room for it. -/
def offers : State → List Input → List (α × Bool)
  | _, [] => []
  | state, input :: rest =>
      ((action state input).bind ((queue state).offer capacity)).toList ++
        offers (next state input) rest

variable {capacity next queue action}
  (hStep : ∀ state input,
    queue (next state input) = (queue state).perform capacity (action state input))
include hStep

/-- By induction on the inputs, step by step. -/
theorem pushed_run (start : State) (inputs : List Input) :
    (queue (run next start inputs)).pushed =
      (queue start).pushed ++ (offers capacity next queue action start inputs).map Prod.fst := by
  induction inputs generalizing start with
  | nil => simp [offers]
  | cons input rest ih =>
      have hPushed : (queue (next start input)).pushed = (queue start).pushed ++
          ((action start input).bind ((queue start).offer capacity)).toList.map Prod.fst := by
        rw [hStep]
        cases action start input with
        | none => simp [perform]
        | some act => exact pushed_step (queue start) act
      rw [run_cons, ih, hPushed, offers, List.map_append, List.append_assoc]

/-- At the end of a run the queue of a machine has kept the items that found room, each
once and in order, and no others. -/
theorem kept_run (start : State) (inputs : List Input) :
    (queue (run next start inputs)).kept = (queue start).kept ++
      ((offers capacity next queue action start inputs).filter Prod.snd).map Prod.fst := by
  induction inputs generalizing start with
  | nil => simp [offers]
  | cons input rest ih =>
      have hKept : (queue (next start input)).kept = (queue start).kept ++
          (((action start input).bind ((queue start).offer capacity)).toList.filter
            Prod.snd).map Prod.fst := by
        rw [hStep]
        cases action start input with
        | none => simp [perform]
        | some act => exact kept_step (queue start) act
      rw [run_cons, ih, hKept, offers, List.filter_append, List.map_append, List.append_assoc]

end Machine

end BoundedQueue
