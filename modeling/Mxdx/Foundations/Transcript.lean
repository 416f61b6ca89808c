import Mxdx.Foundations.Automaton

/-! What a machine says along a run. Two runs whose inputs are paired say the
same exactly when they say the same at every step, as long as neither can make
up for a difference later. -/
namespace Automaton

universe u v w
variable {State : Type u} {Input : Type v} {Event : Type w} (step : State → Input → State)
  (emit : State → Input → List Event)

/-- Everything that is said along a run, in order. -/
def transcript : State → List Input → List Event
  | _, [] => []
  | state, input :: rest => emit state input ++ transcript (step state input) rest

/-- Two lists of events that a reader tells apart whatever follows them. -/
def Distinguishable (first second : List Event) : Prop :=
  ∀ afterFirst afterSecond, first ++ afterFirst = second ++ afterSecond → first = second

variable {step emit}

theorem distinguishable_self (events : List Event) : Distinguishable events events :=
  fun _ _ _ => rfl

theorem Distinguishable.append_eq_iff {first second afterFirst afterSecond : List Event}
    (h : Distinguishable first second) :
    first ++ afterFirst = second ++ afterSecond ↔ first = second ∧ afterFirst = afterSecond := by
  constructor
  · intro hAppend
    have hFirst := h afterFirst afterSecond hAppend
    rw [hFirst, List.append_cancel_left_eq] at hAppend
    exact ⟨hFirst, hAppend⟩
  · rintro ⟨rfl, rfl⟩
    rfl

/-- Lists of one length cannot be confused. -/
theorem distinguishable_of_length {first second : List Event}
    (hLength : first.length = second.length) : Distinguishable first second :=
  fun _ _ h => (List.append_inj h hLength).1

/-- Lists that begin with different events cannot be confused. -/
theorem distinguishable_of_head {first second : Event} {firstRest secondRest : List Event}
    (hHead : first ≠ second) : Distinguishable (first :: firstRest) (second :: secondRest) := by
  intro afterFirst afterSecond h
  injection h with hFirst _
  exact absurd hFirst hHead

/-- Two-run rule. Paired inputs keep the states related and never say what a
reader could mistake; then the two transcripts are the same exactly when the
guard, which decides it for one step, holds all along the first run. -/
theorem transcript_eq_iff {Related : State → State → Prop} {Paired : State → Input × Input → Prop}
    {guard : State → Input × Input → Prop}
    (hStep : ∀ first second pair, Related first second → Paired first pair →
      Related (step first pair.1) (step second pair.2))
    (hDistinguishable : ∀ first second pair, Related first second → Paired first pair →
      Distinguishable (emit first pair.1) (emit second pair.2))
    (hGuard : ∀ first second pair, Related first second → Paired first pair →
      (emit first pair.1 = emit second pair.2 ↔ guard first pair))
    {first second : State} {pairs : List (Input × Input)} (hRelated : Related first second)
    (hPaired : Admissible (fun state pair => step state pair.1) Paired first pairs) :
    transcript step emit first (pairs.map Prod.fst) =
        transcript step emit second (pairs.map Prod.snd) ↔
      Admissible (fun state pair => step state pair.1) guard first pairs := by
  induction pairs generalizing first second with
  | nil => exact iff_of_true rfl trivial
  | cons pair rest ih =>
      have hNext := hStep first second pair hRelated hPaired.1
      have hSplit := hDistinguishable first second pair hRelated hPaired.1
      simp only [List.map_cons, transcript, hSplit.append_eq_iff]
      exact and_congr (hGuard first second pair hRelated hPaired.1) (ih hNext hPaired.2)

end Automaton
