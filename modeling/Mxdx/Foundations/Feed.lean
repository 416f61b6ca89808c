import Mathlib.Data.List.Infix
import Mathlib.Data.List.Nodup
import Mathlib.Tactic.Common

/-! Reading a feed. Items arrive at the end of a list that only grows; a reader
takes them one at a time, and takes each of them once and in order as long as what
it has taken is a prefix of what has arrived. -/
namespace Feed

universe u
variable {α : Type u}

/-- The items that have arrived and were not taken. -/
def pending (arrived taken : List α) : List α := arrived.drop taken.length

variable {arrived taken : List α}

theorem taken_append_pending (h : taken <+: arrived) : taken ++ pending arrived taken = arrived :=
  (List.prefix_append_drop h).symm

theorem pending_suffix (arrived taken : List α) : pending arrived taken <:+ arrived :=
  List.drop_suffix _ _

/-- Everything is taken. -/
theorem prefix_taken_iff (h : taken <+: arrived) :
    arrived <+: taken ↔ pending arrived taken = [] := by
  rw [pending, List.drop_eq_nil_iff]
  constructor
  · exact List.IsPrefix.length_le
  · intro hLength
    rw [h.eq_of_length_le hLength]

theorem not_mem_taken (h : taken <+: arrived) (hNodup : arrived.Nodup) {item : α}
    (hItem : item ∈ pending arrived taken) : item ∉ taken := by
  rw [← taken_append_pending h, List.nodup_append'] at hNodup
  exact fun hTaken => hNodup.2.2 hTaken hItem

/-- What is pending, told by a mark on the items that were taken. -/
theorem pending_eq_filter (h : taken <+: arrived) (hNodup : arrived.Nodup) {marked : α → Bool}
    (hMarked : ∀ item ∈ arrived, marked item = true ↔ item ∈ taken) :
    pending arrived taken = arrived.filter (!marked ·) := by
  have hAll := taken_append_pending h
  have hTaken : taken.filter (!marked ·) = [] := by
    rw [List.filter_eq_nil_iff]
    intro item hItem
    simp [(hMarked item (h.subset hItem)).mpr hItem]
  have hPending : (pending arrived taken).filter (!marked ·) = pending arrived taken := by
    rw [List.filter_eq_self]
    intro item hItem
    have hNot := not_mem_taken h hNodup hItem
    rw [← hMarked item ((pending_suffix arrived taken).subset hItem)] at hNot
    simpa using hNot
  conv_rhs => rw [← hAll, List.filter_append, hTaken, hPending, List.nil_append]

/-- The next item to take is the first one that is pending. -/
theorem take_iff (h : taken <+: arrived) {item : α} :
    taken ++ [item] <+: arrived ↔ (pending arrived taken).head? = some item := by
  conv_lhs => rw [← taken_append_pending h]
  rw [List.prefix_append_right_inj]
  cases pending arrived taken with
  | nil => simp
  | cons first rest => simp [eq_comm]

/-- A reader that takes the newest item keeps the order exactly if nothing else is pending. -/
theorem take_newest_iff (h : taken <+: arrived) (hNodup : arrived.Nodup) {item : α}
    (hNewest : arrived.getLast? = some item) :
    taken ++ [item] <+: arrived ↔ (pending arrived taken).length = 1 := by
  rw [take_iff h]
  have hAll := taken_append_pending h
  have hPending : (pending arrived taken).Nodup := hNodup.sublist (pending_suffix _ _).sublist
  cases hCase : pending arrived taken with
  | nil => simp
  | cons first rest =>
      rw [hCase] at hAll hPending
      have hLast : (first :: rest).getLast? = some item := by
        rw [← hNewest, ← hAll, List.getLast?_append_of_ne_nil _ (by simp)]
      cases rest with
      | nil => simpa using hLast
      | cons second rest =>
          apply iff_of_false
          · intro hFirst
            obtain rfl : first = item := by simpa using hFirst
            rw [List.getLast?_cons_cons] at hLast
            exact (List.nodup_cons.mp hPending).1 (List.mem_of_getLast? hLast)
          · simp

/-- The last item of a suffix that is not empty is the newest one. -/
theorem getLast?_of_suffix {items : List α} (h : items <:+ arrived) (hSome : items ≠ []) :
    items.getLast? = arrived.getLast? := by
  obtain ⟨earlier, rfl⟩ := h
  rw [List.getLast?_append_of_ne_nil _ hSome]

end Feed
