import Mathlib.Algebra.BigOperators.Group.List.Basic
import Mathlib.Algebra.GroupWithZero.Nat
import Mathlib.Data.List.Infix
import Mathlib.Tactic.Common

/-! The latest items that a budget has room for. A queue that gives up its oldest items
until the next one fits always holds the longest suffix, of all that was put in, that
stays within the budget. -/
namespace Budget

universe u
variable {α : Type u} (size : α → Nat) (budget : Nat)

/-- What the items weigh together. -/
def weight (items : List α) : Nat := (items.map size).sum

@[simp] theorem weight_nil : weight size [] = 0 := rfl

@[simp] theorem weight_cons (item : α) (items : List α) :
    weight size (item :: items) = size item + weight size items := by
  simp [weight]

@[simp] theorem weight_append (first second : List α) :
    weight size (first ++ second) = weight size first + weight size second := by
  simp [weight]

/-- A longest suffix of the items within the budget. -/
structure Longest (items kept : List α) : Prop where
  isSuffix : kept <:+ items
  fits : weight size kept ≤ budget
  longest : ∀ other, other <:+ items → weight size other ≤ budget → other.length ≤ kept.length

/-- The oldest go until there is room for `incoming`. -/
def makeRoom (incoming : Nat) : List α → List α
  | [] => []
  | old :: rest =>
      if weight size (old :: rest) + incoming ≤ budget then old :: rest
      else makeRoom incoming rest

variable {size budget} {items kept queue other : List α} {item : α} {incoming : Nat}

namespace Longest

theorem nil : Longest size budget ([] : List α) [] := by
  refine ⟨List.suffix_refl [], Nat.zero_le _, ?_⟩
  intro other hOther _
  rw [List.suffix_nil.mp hOther]

/-- Whatever else would fit is a part of it. -/
theorem suffix_of_fits (h : Longest size budget items kept) (hOther : other <:+ items)
    (hFits : weight size other ≤ budget) : other <:+ kept :=
  List.suffix_of_suffix_length_le hOther h.isSuffix (h.longest other hOther hFits)

/-- There is one longest suffix only. -/
theorem unique (h : Longest size budget items kept) (hOther : Longest size budget items other) :
    other = kept := by
  have hInside := h.suffix_of_fits hOther.isSuffix hOther.fits
  have hLength := hOther.longest kept h.isSuffix h.fits
  exact hInside.eq_of_length_le hLength

end Longest

theorem makeRoom_suffix : makeRoom size budget incoming queue <:+ queue := by
  induction queue with
  | nil => exact List.suffix_refl []
  | cons old rest ih =>
      rw [makeRoom]
      split
      · exact List.suffix_refl _
      · exact ih.trans (List.suffix_cons old rest)

theorem makeRoom_fits (hIncoming : incoming ≤ budget) :
    weight size (makeRoom size budget incoming queue) + incoming ≤ budget := by
  induction queue with
  | nil => rwa [makeRoom, weight_nil, Nat.zero_add]
  | cons old rest ih =>
      rw [makeRoom]
      split
      next hFits => exact hFits
      next => exact ih

/-- No more goes than has to. -/
theorem suffix_makeRoom (hOther : other <:+ queue) (hFits : weight size other + incoming ≤ budget) :
    other <:+ makeRoom size budget incoming queue := by
  induction queue with
  | nil => exact hOther
  | cons old rest ih =>
      rw [makeRoom]
      split
      next => exact hOther
      next hOver =>
        rcases List.suffix_cons_iff.mp hOther with rfl | hRest
        · exact absurd hFits hOver
        · exact ih hRest

/-- Making room for an item and putting it in keeps the longest suffix. -/
theorem Longest.push (h : Longest size budget items queue) (hItem : size item ≤ budget) :
    Longest size budget (items ++ [item])
      (makeRoom size budget (size item) queue ++ [item]) := by
  have hRoom : weight size (makeRoom size budget (size item) queue) + size item ≤ budget :=
    makeRoom_fits hItem
  refine ⟨?_, ?_, ?_⟩
  · obtain ⟨older, hOlder⟩ := makeRoom_suffix.trans h.isSuffix
    exact ⟨older, by rw [← List.append_assoc, hOlder]⟩
  · rwa [weight_append, weight_cons, weight_nil, Nat.add_zero]
  · intro other hOther hFits
    rcases List.suffix_concat_iff.mp hOther with rfl | ⟨start, rfl, hStart⟩
    · exact Nat.zero_le _
    · rw [weight_append, weight_cons, weight_nil, Nat.add_zero] at hFits
      have hQueue := h.suffix_of_fits hStart (Nat.le_trans (Nat.le_add_right ..) hFits)
      have hKept := (suffix_makeRoom hQueue hFits).length_le
      rw [List.length_append, List.length_append]
      exact Nat.add_le_add_right hKept _

end Budget
