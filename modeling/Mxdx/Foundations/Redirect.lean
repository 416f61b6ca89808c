import Mathlib.Logic.Function.Basic
import Mathlib.Tactic.Common

/-! Items that may name another one in their place. A reader follows such
redirects up to a number of times; the lemmas tell where it gets when redirects
are taken away or put in. -/
namespace Redirect

universe u
variable {Item : Type u}

/-- Where at most `fuel` redirects lead. -/
def follow (next : Item → Option Item) : Nat → Item → Item
  | 0, item => item
  | fuel + 1, item =>
      match next item with
      | some target => follow next fuel target
      | none => item

/-- A marked item is on the way, its first and its last included. -/
def meets (next : Item → Option Item) (marked : Item → Bool) : Nat → Item → Bool
  | 0, item => marked item
  | fuel + 1, item =>
      marked item ||
        match next item with
        | some target => meets next marked fuel target
        | none => false

/-- The redirects without those of marked items. -/
def cut (next : Item → Option Item) (marked : Item → Bool) (item : Item) : Option Item :=
  if marked item then none else next item

variable {next : Item → Option Item} {marked : Item → Bool} {item : Item}

theorem follow_succ_of_none (hNext : next item = none) (fuel : Nat) :
    follow next (fuel + 1) item = item := by
  rw [follow, hNext]

theorem follow_succ_of_some {target : Item} (hNext : next item = some target) (fuel : Nat) :
    follow next (fuel + 1) item = follow next fuel target := by
  rw [follow, hNext]

theorem follow_of_none (hNext : next item = none) (fuel : Nat) : follow next fuel item = item := by
  cases fuel with
  | zero => rfl
  | succ fuel => exact follow_succ_of_none hNext fuel

/-- Past its end the way does not go on. -/
theorem follow_succ_of_end {fuel : Nat} (hEnd : next (follow next fuel item) = none) :
    follow next (fuel + 1) item = follow next fuel item := by
  induction fuel generalizing item with
  | zero => exact follow_succ_of_none hEnd 0
  | succ fuel ih =>
      cases hNext : next item with
      | none => rw [follow_succ_of_none hNext, follow_succ_of_none hNext]
      | some target =>
          rw [follow_succ_of_some hNext] at hEnd
          rw [follow_succ_of_some hNext, follow_succ_of_some hNext, ih hEnd]

/-- The end of the way is met. -/
theorem marked_follow {fuel : Nat} (h : meets next marked fuel item = false) :
    marked (follow next fuel item) = false := by
  induction fuel generalizing item with
  | zero => exact h
  | succ fuel ih =>
      rw [meets, Bool.or_eq_false_iff] at h
      cases hNext : next item with
      | none =>
          rw [follow_succ_of_none hNext]
          exact h.1
      | some target =>
          rw [follow_succ_of_some hNext]
          exact ih (by simpa [hNext] using h.2)

/-- Where no marked item is met, it does not matter where they lead. -/
theorem follow_cut {fuel : Nat} (h : meets next marked fuel item = false) :
    follow (cut next marked) fuel item = follow next fuel item := by
  induction fuel generalizing item with
  | zero => rfl
  | succ fuel ih =>
      rw [meets, Bool.or_eq_false_iff] at h
      have hCut : cut next marked item = next item := by
        rw [cut, if_neg (by simp [h.1])]
      cases hNext : next item with
      | none => rw [follow_succ_of_none hNext, follow_succ_of_none (hCut.trans hNext)]
      | some target =>
          rw [follow_succ_of_some hNext, follow_succ_of_some (hCut.trans hNext)]
          exact ih (by simpa [hNext] using h.2)

/-- Once cut, the way ends at the first marked item that it meets. -/
theorem marked_follow_cut {fuel : Nat} (h : meets next marked fuel item = true) :
    marked (follow (cut next marked) fuel item) = true := by
  induction fuel generalizing item with
  | zero => exact h
  | succ fuel ih =>
      by_cases hMarked : marked item = true
      · rwa [follow_succ_of_none (by rw [cut, if_pos hMarked])]
      · have hCut : cut next marked item = next item := if_neg hMarked
        cases hNext : next item with
        | none => simp [meets, hNext, hMarked] at h
        | some target =>
            rw [follow_succ_of_some (hCut.trans hNext)]
            exact ih (by simpa [meets, hNext, hMarked] using h)

section Patched

variable {patched : Item → Option Item}

/-- A redirect put in where the way ends takes it over, with one redirect to spare. -/
theorem follow_patched {fuel : Nat} {target : Item}
    (hKept : ∀ item target, next item = some target → patched item = some target)
    (hPatched : patched (follow next fuel item) = some target)
    (hEnd : next (follow next fuel item) = none) (hTarget : patched target = none) :
    follow patched (fuel + 1) item = target := by
  induction fuel generalizing item with
  | zero => exact follow_succ_of_some hPatched 0
  | succ fuel ih =>
      cases hNext : next item with
      | none =>
          rw [follow_succ_of_none hNext] at hPatched
          rw [follow_succ_of_some hPatched, follow_of_none hTarget]
      | some between =>
          rw [follow_succ_of_some hNext] at hPatched hEnd
          rw [follow_succ_of_some (hKept _ _ hNext), ih hPatched hEnd]

/-- Where the way goes on as before, it ends as before. -/
theorem follow_unpatched {fuel : Nat}
    (hKept : ∀ item target, next item = some target → patched item = some target)
    (hSame : patched (follow next fuel item) = next (follow next fuel item)) :
    follow patched (fuel + 1) item = follow next (fuel + 1) item := by
  induction fuel generalizing item with
  | zero =>
      have hItem : patched item = next item := hSame
      rw [follow, follow, hItem]
      rfl
  | succ fuel ih =>
      cases hNext : next item with
      | none =>
          rw [follow_succ_of_none hNext] at hSame
          rw [follow_succ_of_none hNext, follow_succ_of_none (hSame.trans hNext)]
      | some between =>
          rw [follow_succ_of_some hNext] at hSame
          rw [follow_succ_of_some hNext, follow_succ_of_some (hKept _ _ hNext), ih hSame]

end Patched

end Redirect
