import Mathlib.Data.List.Basic
import Mathlib.Data.List.Range
import Mathlib.Tactic.Common

/-! Releasing numbered items in order. A receiver that expects a number takes
items from the front of a sorted list as long as each has the number expected
next. -/
namespace Reorder

universe u
variable {α : Type u} (num : α → Nat)

/-- The items at the front that carry the expected number and its successors. -/
def due : Nat → List α → List α
  | _, [] => []
  | expected, item :: rest =>
      if num item = expected then item :: due (expected + 1) rest else []

/-- What is left after the due items. -/
def kept : Nat → List α → List α
  | _, [] => []
  | expected, item :: rest =>
      if num item = expected then kept (expected + 1) rest else item :: rest

theorem due_append_kept (expected : Nat) (items : List α) :
    due num expected items ++ kept num expected items = items := by
  induction items generalizing expected with
  | nil => rfl
  | cons item rest ih =>
      by_cases h : num item = expected
      · simp [due, kept, h, ih]
      · simp [due, kept, h]

theorem map_due (expected : Nat) (items : List α) :
    (due num expected items).map num = List.range' expected (due num expected items).length := by
  induction items generalizing expected with
  | nil => rfl
  | cons item rest ih =>
      by_cases h : num item = expected
      · simp [due, h, ih, List.range'_succ]
      · simp [due, h]

variable {num}

/-- The expected number does not stand at the front of what is left. -/
theorem head_kept_ne (expected : Nat) (items : List α) {item : α}
    (h : (kept num expected items).head? = some item) :
    num item ≠ expected + (due num expected items).length := by
  induction items generalizing expected with
  | nil => simp [kept] at h
  | cons first rest ih =>
      by_cases hFirst : num first = expected
      · rw [kept, if_pos hFirst] at h
        have hNext := ih (expected + 1) h
        simp only [due, if_pos hFirst, List.length_cons]
        omega
      · rw [kept, if_neg hFirst] at h
        obtain rfl : first = item := by simpa using h
        simp [due, hFirst]

theorem kept_eq_self {expected : Nat} {items : List α} (h : due num expected items = []) :
    kept num expected items = items := by
  have hAll := due_append_kept num expected items
  rwa [h, List.nil_append] at hAll

/-- No number is present twice that is due now: `expected` and every number up
to it are present. -/
def Single (num : α → Nat) (expected : Nat) (items : List α) : Prop :=
  ∀ n, expected ≤ n → (∀ m, expected ≤ m → m ≤ n → m ∈ items.map num) →
    (items.map num).count n ≤ 1

theorem single_of_absent {expected : Nat} {items : List α} (h : expected ∉ items.map num) :
    Single num expected items := by
  intro n hn hDue
  exact absurd (hDue expected (Nat.le_refl _) hn) h

theorem single_of_nodup {expected : Nat} {items : List α} (h : (items.map num).Nodup) :
    Single num expected items :=
  fun n _ _ => List.nodup_iff_count.mp h n

theorem Single.perm {expected : Nat} {first second : List α} (hPerm : first.Perm second) :
    Single num expected first ↔ Single num expected second := by
  have hMap := hPerm.map num
  simp only [Single, hMap.mem_iff, hMap.count_eq]

/-- Releasing the front item leaves the same question about the rest. -/
theorem single_cons {expected : Nat} {item : α} {rest : List α} (hItem : num item = expected)
    (hRest : ∀ other ∈ rest, expected + 1 ≤ num other) :
    Single num expected (item :: rest) ↔ Single num (expected + 1) rest := by
  have hAbsent : expected ∉ rest.map num := by
    intro hMem
    obtain ⟨other, hOther, hNum⟩ := List.mem_map.mp hMem
    have hLe := hRest other hOther
    omega
  constructor
  · intro h n hn hDue
    have hCount := h n (by omega) fun m hm hmn => by
      rcases Nat.lt_or_ge expected m with hLt | hGe
      · exact List.mem_cons_of_mem _ (hDue m hLt hmn)
      · obtain rfl : m = expected := by omega
        simp [hItem]
    have hNe : num item ≠ n := by omega
    simpa [List.count_cons, hNe] using hCount
  · intro h n hn hDue
    rcases Nat.lt_or_ge expected n with hLt | hGe
    · have hNe : num item ≠ n := by omega
      have hCount := h n hLt fun m hm hmn => by
        have hMem := hDue m (by omega) hmn
        have hNeM : m ≠ num item := by omega
        simpa [hNeM] using hMem
      simpa [List.count_cons, hNe] using hCount
    · obtain rfl : n = expected := by omega
      simp [hItem, List.count_eq_zero_of_not_mem hAbsent]

/-- A repetition of the number just released stays behind. -/
theorem late_of_repeated {expected : Nat} {rest : List α}
    (hSorted : rest.Pairwise fun a b => num a ≤ num b) {other : α} (hOther : other ∈ rest)
    (hSame : num other = expected) :
    ∃ item ∈ kept num (expected + 1) rest, num item ≤ expected := by
  cases rest with
  | nil => simp at hOther
  | cons first rest =>
      have hFirst : num first ≤ num other := by
        rcases List.mem_cons.mp hOther with rfl | hMem
        · exact Nat.le_refl _
        · exact (List.pairwise_cons.mp hSorted).1 other hMem
      have hNe : num first ≠ expected + 1 := by omega
      exact ⟨first, by simp [kept, hNe], by omega⟩

theorem not_single_of_repeated {expected : Nat} {item other : α} {rest : List α}
    (hItem : num item = expected) (hOther : other ∈ rest) (hSame : num other = expected) :
    ¬ Single num expected (item :: rest) := by
  intro hSingle
  have hCount := hSingle expected (Nat.le_refl _) fun m hm hmn => by
    obtain rfl : m = expected := by omega
    simp [hItem]
  have hPos : 0 < (rest.map num).count expected :=
    List.count_pos_iff.mpr (List.mem_map.mpr ⟨other, hOther, hSame⟩)
  simp only [List.map_cons, hItem, List.count_cons_self] at hCount
  omega

/-- In a sorted list without late items, nothing becomes late by the release
exactly when no due number is present twice. -/
theorem kept_not_late_iff {expected : Nat} {items : List α}
    (hSorted : items.Pairwise fun a b => num a ≤ num b)
    (hLate : ∀ item ∈ items, expected ≤ num item) :
    (∀ item ∈ kept num expected items, expected + (due num expected items).length ≤ num item) ↔
      Single num expected items := by
  induction items generalizing expected with
  | nil => exact iff_of_true (by simp [kept]) (by simp [Single])
  | cons item rest ih =>
      rw [List.pairwise_cons] at hSorted
      by_cases hItem : num item = expected
      · simp only [kept, due, if_pos hItem, List.length_cons]
        by_cases hRest : ∀ other ∈ rest, expected + 1 ≤ num other
        · rw [single_cons hItem hRest, ← ih hSorted.2 hRest]
          simp only [Nat.add_assoc, Nat.add_comm 1]
        · push Not at hRest
          obtain ⟨other, hOther, hLt⟩ := hRest
          have hSame : num other = expected := by
            have hGe := hLate other (List.mem_cons_of_mem _ hOther)
            omega
          apply iff_of_false
          · intro hAll
            obtain ⟨behind, hBehind, hLe⟩ := late_of_repeated hSorted.2 hOther hSame
            have hStays := hAll behind hBehind
            omega
          · exact not_single_of_repeated hItem hOther hSame
      · have hDue : due num expected (item :: rest) = [] := by simp [due, hItem]
        have hAbsent : expected ∉ (item :: rest).map num := by
          intro hMem
          obtain ⟨other, hOther, hNum⟩ := List.mem_map.mp hMem
          have hFirst := hLate item (by simp)
          rcases List.mem_cons.mp hOther with rfl | hMem
          · exact hItem hNum
          · have hLe := hSorted.1 other hMem
            omega
        apply iff_of_true
        · simpa [kept_eq_self hDue, hDue] using hLate
        · exact single_of_absent hAbsent

end Reorder
