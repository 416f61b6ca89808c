import Mathlib.Data.List.Induction
import Mathlib.Tactic.Common

/-! Deterministic machines driven by a list of inputs. The inputs carry every
choice of the environment, so an interleaving is nothing but an input list.
The rules below turn one-step facts into facts about whole runs. -/
namespace Automaton

universe u v
variable {State : Type u} {Input : Type v} (step : State → Input → State)

/-- The state reached from `start` after all of `inputs`, in order. -/
def run (start : State) (inputs : List Input) : State :=
  inputs.foldl step start

@[simp] theorem run_nil (start : State) : run step start [] = start := rfl

@[simp] theorem run_cons (start : State) (input : Input) (rest : List Input) :
    run step start (input :: rest) = run step (step start input) rest := rfl

theorem run_append (start : State) (first second : List Input) :
    run step start (first ++ second) = run step (run step start first) second :=
  List.foldl_append ..

theorem run_concat (start : State) (inputs : List Input) (last : Input) :
    run step start (inputs ++ [last]) = step (run step start inputs) last := by
  rw [run_append, run_cons, run_nil]

/-- Every input of the run satisfies `guard` in the state it is fed to. -/
def Admissible (guard : State → Input → Prop) : State → List Input → Prop
  | _, [] => True
  | state, input :: rest => guard state input ∧ Admissible guard (step state input) rest

/-- Every state met along the run, the first and the last included,
satisfies `predicate`. -/
def Always (predicate : State → Prop) : State → List Input → Prop
  | state, [] => predicate state
  | state, input :: rest => predicate state ∧ Always predicate (step state input) rest

variable {step}

instance Admissible.decidable {guard : State → Input → Prop}
    [∀ state input, Decidable (guard state input)] :
    ∀ start inputs, Decidable (Admissible step guard start inputs)
  | _, [] => .isTrue trivial
  | state, input :: rest =>
      have : Decidable (Admissible step guard (step state input) rest) :=
        Admissible.decidable (step state input) rest
      inferInstanceAs (Decidable (guard state input ∧ _))

theorem Always.head {predicate : State → Prop} {start : State} {inputs : List Input}
    (h : Always step predicate start inputs) : predicate start := by
  cases inputs with
  | nil => exact h
  | cons input rest => exact h.1

theorem Always.mono {first second : State → Prop} (hImp : ∀ state, first state → second state)
    {start : State} {inputs : List Input} (h : Always step first start inputs) :
    Always step second start inputs := by
  induction inputs generalizing start with
  | nil => exact hImp start h
  | cons input rest ih => exact ⟨hImp start h.1, ih h.2⟩

/-- Join two stretches of a run at the input that leads from one to the other. -/
theorem Always.append {predicate : State → Prop} {start : State} {first second : List Input}
    {input : Input} (hFirst : Always step predicate start first)
    (hSecond : Always step predicate (step (run step start first) input) second) :
    Always step predicate start (first ++ input :: second) := by
  induction first generalizing start with
  | nil => exact ⟨hFirst, hSecond⟩
  | cons next first ih => exact ⟨hFirst.1, ih hFirst.2 hSecond⟩

theorem Always.last {predicate : State → Prop} {start : State} {inputs : List Input}
    (h : Always step predicate start inputs) : predicate (run step start inputs) := by
  induction inputs generalizing start with
  | nil => exact h
  | cons input rest ih => exact ih h.2

/-- The states of a run are exactly those reached by the prefixes of its
input list. -/
theorem always_iff_prefixes {predicate : State → Prop} {start : State} {inputs : List Input} :
    Always step predicate start inputs ↔
      ∀ pre, pre <+: inputs → predicate (run step start pre) := by
  constructor
  · intro h pre hPre
    induction pre generalizing start inputs with
    | nil => exact h.head
    | cons input pre ih =>
        obtain ⟨post, rfl⟩ := hPre
        exact ih h.2 ⟨post, rfl⟩
  · intro h
    induction inputs generalizing start with
    | nil => exact h [] (List.prefix_refl _)
    | cons input rest ih =>
        refine ⟨h [] (List.nil_prefix), ih ?_⟩
        rintro pre ⟨post, rfl⟩
        exact h (input :: pre) ⟨post, rfl⟩

theorem Admissible.last {guard : State → Input → Prop} {start : State} {inputs : List Input}
    {last : Input} (h : Admissible step guard start (inputs ++ [last])) :
    guard (run step start inputs) last := by
  induction inputs generalizing start with
  | nil => exact h.1
  | cons input rest ih => exact ih h.2

theorem Admissible.left {guard : State → Input → Prop} {start : State} {first second : List Input}
    (h : Admissible step guard start (first ++ second)) : Admissible step guard start first := by
  induction first generalizing start with
  | nil => trivial
  | cons input first ih => exact ⟨h.1, ih h.2⟩

theorem Admissible.append {guard : State → Input → Prop} {start : State}
    {first second : List Input} (hFirst : Admissible step guard start first)
    (hSecond : Admissible step guard (run step start first) second) :
    Admissible step guard start (first ++ second) := by
  induction first generalizing start with
  | nil => exact hSecond
  | cons input first ih => exact ⟨hFirst.1, ih hFirst.2 hSecond⟩

/-- Two guards that agree wherever a predicate holds admit the same of the runs
along which it holds. -/
theorem Always.admissible_congr {predicate : State → Prop} {first second : State → Input → Prop}
    (hGuard : ∀ state input, predicate state → (first state input ↔ second state input))
    {start : State} {inputs : List Input} (h : Always step predicate start inputs) :
    Admissible step first start inputs ↔ Admissible step second start inputs := by
  induction inputs generalizing start with
  | nil => exact Iff.rfl
  | cons input rest ih => exact and_congr (hGuard start input h.1) (ih h.2)

/-- A guard on the inputs alone does not look at the states. -/
theorem admissible_iff_forall {accepts : Input → Prop} {start : State} {inputs : List Input} :
    Admissible step (fun _ => accepts) start inputs ↔ ∀ input ∈ inputs, accepts input := by
  induction inputs generalizing start with
  | nil => simp [Admissible]
  | cons input rest ih => rw [Admissible, ih, List.forall_mem_cons]

theorem admissible_of_forall {accepts : Input → Prop} {start : State} {inputs : List Input}
    (h : ∀ input ∈ inputs, accepts input) :
    Admissible step (fun _ => accepts) start inputs :=
  admissible_iff_forall.mpr h

theorem Admissible.and {first second : State → Input → Prop} {start : State}
    {inputs : List Input} (hFirst : Admissible step first start inputs)
    (hSecond : Admissible step second start inputs) :
    Admissible step (fun state input => first state input ∧ second state input) start inputs := by
  induction inputs generalizing start with
  | nil => trivial
  | cons input rest ih => exact ⟨⟨hFirst.1, hSecond.1⟩, ih hFirst.2 hSecond.2⟩

theorem Admissible.mono {first second : State → Input → Prop}
    (hImp : ∀ state input, first state input → second state input) {start : State}
    {inputs : List Input} (h : Admissible step first start inputs) :
    Admissible step second start inputs := by
  induction inputs generalizing start with
  | nil => trivial
  | cons input rest ih => exact ⟨hImp start input h.1, ih h.2⟩

/-- Invariant rule for guarded runs: an invariant kept by every admissible
step holds in every state of every admissible run. -/
theorem Admissible.always {guard : State → Input → Prop} {invariant : State → Prop}
    (hStep : ∀ state input, invariant state → guard state input → invariant (step state input))
    {start : State} {inputs : List Input} (hAdmissible : Admissible step guard start inputs)
    (hStart : invariant start) : Always step invariant start inputs := by
  induction inputs generalizing start with
  | nil => exact hStart
  | cons input rest ih =>
      exact ⟨hStart, ih hAdmissible.2 (hStep start input hStart hAdmissible.1)⟩

/-- What an invariant makes of a guard holds at every step of an admissible run. -/
theorem Admissible.mono_under {guard result : State → Input → Prop} {invariant : State → Prop}
    (hStep : ∀ state input, invariant state → guard state input → invariant (step state input))
    (hResult : ∀ state input, invariant state → guard state input → result state input)
    {start : State} {inputs : List Input} (hStart : invariant start)
    (h : Admissible step guard start inputs) : Admissible step result start inputs := by
  induction inputs generalizing start with
  | nil => trivial
  | cons input rest ih =>
      exact ⟨hResult start input hStart h.1, ih (hStep start input hStart h.1) h.2⟩

/-- Invariant rule for runs without a guard. -/
theorem always_of_step {invariant : State → Prop}
    (hStep : ∀ state input, invariant state → invariant (step state input))
    {start : State} (hStart : invariant start) (inputs : List Input) :
    Always step invariant start inputs := by
  induction inputs generalizing start with
  | nil => exact hStart
  | cons input rest ih => exact ⟨hStart, ih (hStep start input hStart)⟩

/-- Two guards that agree wherever an invariant holds admit the same runs. -/
theorem admissible_congr {first second : State → Input → Prop} {invariant : State → Prop}
    (hStep : ∀ state input, invariant state → invariant (step state input))
    (hGuard : ∀ state input, invariant state → (first state input ↔ second state input))
    {start : State} (hStart : invariant start) (inputs : List Input) :
    Admissible step first start inputs ↔ Admissible step second start inputs :=
  (always_of_step hStep hStart inputs).admissible_congr hGuard

/-- Exact form of the invariant rule: when the guard is not only enough for
one step but also necessary, the invariant holds along a run exactly when
every step of the run is admissible. -/
theorem always_iff_admissible {guard : State → Input → Prop} {invariant : State → Prop}
    (hStep : ∀ state input, invariant state → (invariant (step state input) ↔ guard state input))
    {start : State} {inputs : List Input} (hStart : invariant start) :
    Always step invariant start inputs ↔ Admissible step guard start inputs := by
  constructor
  · intro h
    induction inputs generalizing start with
    | nil => trivial
    | cons input rest ih =>
        have hNext : invariant (step start input) := h.2.head
        exact ⟨(hStep start input hStart).mp hNext, ih hNext h.2⟩
  · intro h
    exact h.always (fun state input hs => (hStep state input hs).mpr) hStart

/-- The exact form where the guard decides only under a second invariant, and
only for inputs that are as promised. -/
theorem always_iff_admissible_given {promise guard : State → Input → Prop}
    {background predicate : State → Prop}
    (hBackground : ∀ state input, background state → promise state input →
      background (step state input))
    (hStep : ∀ state input, background state → promise state input → predicate state →
      (predicate (step state input) ↔ guard state input))
    {start : State} {inputs : List Input} (hPromise : Admissible step promise start inputs)
    (hStart : background start) (hPredicate : predicate start) :
    Always step predicate start inputs ↔ Admissible step guard start inputs := by
  induction inputs generalizing start with
  | nil => exact iff_of_true hPredicate trivial
  | cons input rest ih =>
      have hGuard := hStep start input hStart hPromise.1 hPredicate
      by_cases hNext : predicate (step start input)
      · exact and_congr (iff_of_true hPredicate (hGuard.mp hNext))
          (ih hPromise.2 (hBackground start input hStart hPromise.1) hNext)
      · apply iff_of_false
        · intro h
          exact hNext h.2.head
        · intro h
          exact hNext (hGuard.mpr h.1)

/-- The exact form where the guard decides only under a second invariant,
one that every step keeps. -/
theorem always_iff_admissible_under {guard : State → Input → Prop}
    {background predicate : State → Prop}
    (hBackground : ∀ state input, background state → background (step state input))
    (hStep : ∀ state input, background state → predicate state →
      (predicate (step state input) ↔ guard state input))
    {start : State} {inputs : List Input} (hStart : background start)
    (hPredicate : predicate start) :
    Always step predicate start inputs ↔ Admissible step guard start inputs :=
  always_iff_admissible_given (fun state input hBefore _ => hBackground state input hBefore)
    (fun state input hBefore _ => hStep state input hBefore)
    (admissible_of_forall fun _ _ => trivial) hStart hPredicate

/-- A predicate that no step brings about holds along a run exactly when it holds at
its end. -/
theorem always_iff_last {promise : State → Input → Prop} {background predicate : State → Prop}
    (hBackground : ∀ state input, background state → promise state input →
      background (step state input))
    (hBack : ∀ state input, background state → promise state input →
      predicate (step state input) → predicate state)
    {start : State} {inputs : List Input} (hPromise : Admissible step promise start inputs)
    (hStart : background start) :
    Always step predicate start inputs ↔ predicate (run step start inputs) := by
  refine ⟨Always.last, ?_⟩
  induction inputs generalizing start with
  | nil => exact id
  | cons input rest ih =>
      intro hLast
      have hRest := ih hPromise.2 (hBackground start input hStart hPromise.1) hLast
      exact ⟨hBack start input hStart hPromise.1 hRest.head, hRest⟩

/-- The exact form for a predicate that only a stronger invariant lets go on:
admissible steps keep the invariant, and under it no other step keeps the
predicate. Only inputs that are as promised are asked about. -/
theorem always_iff_admissible_of_stronger_given {promise guard : State → Input → Prop}
    {invariant predicate : State → Prop}
    (hStronger : ∀ state, invariant state → predicate state)
    (hKeep : ∀ state input, promise state input → invariant state → guard state input →
      invariant (step state input))
    (hBreak : ∀ state input, promise state input → invariant state →
      predicate (step state input) → guard state input)
    {start : State} {inputs : List Input} (hPromise : Admissible step promise start inputs)
    (hStart : invariant start) :
    Always step predicate start inputs ↔ Admissible step guard start inputs := by
  induction inputs generalizing start with
  | nil => exact iff_of_true (hStronger start hStart) trivial
  | cons input rest ih =>
      constructor
      · intro h
        have hGuard := hBreak start input hPromise.1 hStart h.2.head
        exact ⟨hGuard, (ih hPromise.2 (hKeep start input hPromise.1 hStart hGuard)).mp h.2⟩
      · intro h
        exact ⟨hStronger start hStart,
          (ih hPromise.2 (hKeep start input hPromise.1 hStart h.1)).mpr h.2⟩

/-- The same where the promise is about the inputs alone. -/
theorem always_iff_admissible_of_stronger {accepts : Input → Prop} {guard : State → Input → Prop}
    {invariant predicate : State → Prop}
    (hStronger : ∀ state, invariant state → predicate state)
    (hKeep : ∀ state input, accepts input → invariant state → guard state input →
      invariant (step state input))
    (hBreak : ∀ state input, accepts input → invariant state → predicate (step state input) →
      guard state input)
    {start : State} {inputs : List Input} (hAccepts : ∀ input ∈ inputs, accepts input)
    (hStart : invariant start) :
    Always step predicate start inputs ↔ Admissible step guard start inputs :=
  always_iff_admissible_of_stronger_given hStronger hKeep hBreak (admissible_of_forall hAccepts)
    hStart

/-- What a predicate before and after a step says about the step. -/
theorem Always.admissible {predicate : State → Prop} {guard : State → Input → Prop}
    (hStep : ∀ state input, predicate state → predicate (step state input) → guard state input)
    {start : State} {inputs : List Input} (h : Always step predicate start inputs) :
    Admissible step guard start inputs := by
  induction inputs generalizing start with
  | nil => trivial
  | cons input rest ih => exact ⟨hStep start input h.1 h.2.head, ih h.2⟩

section Conservation

variable {Content : Type*} {content : State → Content} (size : Content → Nat)
  {guard : State → Input → Prop}
  (hKeep : ∀ state input, guard state input → content (step state input) = content state)
  (hLose : ∀ state input, ¬ guard state input →
    size (content (step state input)) < size (content state))
include hKeep hLose

theorem size_run_le (start : State) (inputs : List Input) :
    size (content (run step start inputs)) ≤ size (content start) := by
  induction inputs generalizing start with
  | nil => exact Nat.le_refl _
  | cons input rest ih =>
      have hStep : size (content (step start input)) ≤ size (content start) := by
        by_cases hGuard : guard start input
        · exact Nat.le_of_eq (congrArg size (hKeep start input hGuard))
        · exact Nat.le_of_lt (hLose start input hGuard)
      exact Nat.le_trans (ih (step start input)) hStep

/-- Conservation rule. Steps that meet the guard keep `content`, the others
lose some of it for good; then the content is the same at the end of a run as
at its start exactly when every step met the guard. -/
theorem conserved_iff_admissible (start : State) (inputs : List Input) :
    content (run step start inputs) = content start ↔ Admissible step guard start inputs := by
  induction inputs generalizing start with
  | nil => exact iff_of_true rfl trivial
  | cons input rest ih =>
      by_cases hGuard : guard start input
      · rw [run_cons, ← hKeep start input hGuard, ih (step start input)]
        exact (and_iff_right hGuard).symm
      · refine iff_of_false (fun hEq => ?_) fun h => hGuard h.1
        have hLost := hLose start input hGuard
        have hAfter := size_run_le size hKeep hLose (step start input) rest
        rw [← run_cons, hEq] at hAfter
        omega

end Conservation

/-- Last entry into a predicate. A run that ends inside `predicate` and
starts outside it splits at the input that entered it for the last time;
from there on the run never leaves it. -/
theorem exists_last_entry (predicate : State → Prop) {start : State} {inputs : List Input}
    (hStart : ¬ predicate start) (hEnd : predicate (run step start inputs)) :
    ∃ pre input post, inputs = pre ++ input :: post ∧
      ¬ predicate (run step start pre) ∧
      Always step predicate (step (run step start pre) input) post := by
  induction inputs using List.reverseRecOn with
  | nil => exact absurd hEnd hStart
  | append_singleton inputs last ih =>
      rw [run_concat] at hEnd
      by_cases hBefore : predicate (run step start inputs)
      · obtain ⟨pre, input, post, rfl, hPre, hPost⟩ := ih hBefore
        refine ⟨pre, input, post ++ [last], by simp, hPre, ?_⟩
        rw [always_iff_prefixes] at hPost ⊢
        intro seen hSeen
        rcases List.prefix_concat_iff.mp hSeen with rfl | hSeen
        · rw [run_append, run_cons] at hEnd
          rwa [run_concat]
        · exact hPost seen hSeen
      · exact ⟨inputs, last, [], rfl, hBefore, hEnd⟩

end Automaton
