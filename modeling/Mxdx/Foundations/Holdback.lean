import Mathlib.Tactic.Common

/-! Items that wait for a taker. Those that come before it is there are held back in the
order of their coming; it takes all of them when it comes, and each later one at once. -/

universe u

/-- Nothing has passed before the taker is there, and nothing is held back once it is. -/
structure Holdback (α : Type u) where
  ready : Bool
  held : List α
  passed : List α
  untouched : ready = false → passed = []
  drained : ready = true → held = []

namespace Holdback

variable {α : Type u}

/-- The taker is not there yet. -/
def new : Holdback α where
  ready := false
  held := []
  passed := []
  untouched := fun _ => rfl
  drained := fun _ => rfl

/-- An item passes at once or waits behind those that came before it. -/
def put (hold : Holdback α) (item : α) : Holdback α :=
  match hReady : hold.ready with
  | false =>
      { hold with
        held := hold.held ++ [item]
        drained := fun hTrue => absurd (hReady.symm.trans hTrue) Bool.false_ne_true }
  | true =>
      { hold with
        passed := hold.passed ++ [item]
        untouched := fun hFalse => absurd (hFalse.symm.trans hReady) Bool.false_ne_true }

/-- The taker comes, or comes again. -/
def release (hold : Holdback α) : Holdback α where
  ready := true
  held := []
  passed := hold.passed ++ hold.held
  untouched := fun hFalse => absurd hFalse.symm Bool.false_ne_true
  drained := fun _ => rfl

/-- Everything that has come, in the order in which it came. -/
def contents (hold : Holdback α) : List α := hold.passed ++ hold.held

variable {hold : Holdback α} {item : α}

/-- With a taker there everything that has come has passed. -/
theorem contents_of_ready (h : hold.ready = true) : hold.passed = hold.contents := by
  rw [contents, hold.drained h, List.append_nil]

/-- An item does not bring the taker. -/
@[simp] theorem put_ready (hold : Holdback α) (item : α) : (hold.put item).ready = hold.ready := by
  unfold put
  split <;> rfl

theorem put_held_of_ready (h : hold.ready = true) : (hold.put item).held = hold.held := by
  unfold put
  split
  · rename_i hFalse
    exact absurd (hFalse.symm.trans h) Bool.false_ne_true
  · rfl

theorem put_passed_of_ready (h : hold.ready = true) :
    (hold.put item).passed = hold.passed ++ [item] := by
  unfold put
  split
  · rename_i hFalse
    exact absurd (hFalse.symm.trans h) Bool.false_ne_true
  · rfl

theorem put_held_of_not_ready (h : hold.ready = false) :
    (hold.put item).held = hold.held ++ [item] := by
  unfold put
  split
  · rfl
  · rename_i hTrue
    exact absurd (h.symm.trans hTrue) Bool.false_ne_true

theorem put_passed_of_not_ready (h : hold.ready = false) :
    (hold.put item).passed = hold.passed := by
  unfold put
  split
  · rfl
  · rename_i hTrue
    exact absurd (h.symm.trans hTrue) Bool.false_ne_true

/-- An item comes last, whether it passes or waits. -/
@[simp] theorem contents_put (hold : Holdback α) (item : α) :
    (hold.put item).contents = hold.contents ++ [item] := by
  cases h : hold.ready with
  | false =>
      rw [contents, put_passed_of_not_ready h, put_held_of_not_ready h, contents,
        List.append_assoc]
  | true =>
      rw [← contents_of_ready (by rw [put_ready, h]), put_passed_of_ready h, contents_of_ready h]

/-- The order of what has come does not change when the taker comes. -/
@[simp] theorem contents_release (hold : Holdback α) : hold.release.contents = hold.contents :=
  List.append_nil _

end Holdback
