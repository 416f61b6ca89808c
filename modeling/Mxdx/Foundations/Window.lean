import Mathlib.Data.List.DropRight
import Mathlib.Data.List.Infix
import Mathlib.Data.List.Nodup
import Mathlib.Order.Lattice

/-! A memory of the latest things met, for telling whether one was met lately. It
forgets the oldest, and keeps at least a window of them. -/
namespace Window

variable {α : Type*} {window : Nat} {seen ids block : List α} {id : α}

/-- Any so many in a row are all different. -/
def Distinct (window : Nat) (ids : List α) : Prop :=
  ∀ block, block <:+: ids → block.length ≤ window → block.Nodup

/-- The latest of the ids are remembered, at least so many of them, each once. -/
structure Remembers (window : Nat) (seen ids : List α) : Prop where
  latest : seen <:+ ids
  nodup : seen.Nodup
  enough : window ≤ seen.length ∨ seen = ids

theorem Remembers.subset (h : Remembers window seen ids) (hSeen : id ∈ seen) : id ∈ ids :=
  h.latest.subset hSeen

/-- The last few ids are among those remembered. -/
theorem Remembers.suffix (h : Remembers window seen ids) (hBlock : block <:+ ids)
    (hLength : block.length ≤ window) : block <:+ seen := by
  rcases h.enough with hEnough | rfl
  · exact List.suffix_of_suffix_length_le hBlock h.latest (Nat.le_trans hLength hEnough)
  · exact hBlock

theorem Remembers.concat (h : Remembers window seen ids) (hNew : id ∉ seen) :
    Remembers window (seen ++ [id]) (ids ++ [id]) := by
  obtain ⟨older, rfl⟩ := h.latest
  refine ⟨⟨older, by rw [List.append_assoc]⟩, ?_, ?_⟩
  · rw [List.nodup_append]
    refine ⟨h.nodup, List.nodup_singleton id, ?_⟩
    rintro other hOther _ hSame rfl
    exact hNew (List.mem_singleton.mp hSame ▸ hOther)
  · rw [List.length_append]
    exact h.enough.imp (fun hEnough => Nat.le_trans hEnough (Nat.le_add_right ..)) fun hAll => by
      rw [← hAll]

/-- The oldest may go as long as enough are left. -/
theorem Remembers.drop (h : Remembers window seen ids) {count : Nat}
    (hLeft : window ≤ seen.length - count) : Remembers window (seen.drop count) ids :=
  ⟨(List.drop_suffix count seen).trans h.latest, h.nodup.sublist (List.drop_sublist count seen),
    .inl (by rwa [List.length_drop])⟩

/-- What is not remembered was last met too long ago to matter. -/
theorem Distinct.concat (h : Distinct (window + 1) ids)
    (hRemembers : Remembers window seen ids) (hNew : id ∉ seen) :
    Distinct (window + 1) (ids ++ [id]) := by
  intro block hBlock hLength
  rcases List.infix_concat_iff.mp hBlock with hSuffix | hInfix
  · rcases List.suffix_concat_iff.mp hSuffix with rfl | ⟨start, rfl, hStart⟩
    · exact List.nodup_nil
    · rw [List.length_append, List.length_singleton] at hLength
      have hSeen := hRemembers.suffix hStart (by omega)
      rw [List.nodup_append]
      refine ⟨hRemembers.nodup.sublist hSeen.sublist, List.nodup_singleton id, ?_⟩
      rintro other hOther _ hSame rfl
      exact hNew (List.mem_singleton.mp hSame ▸ hSeen.subset hOther)
  · exact h block hInfix hLength

/-- A memory that never exceeds its window is the last few ids. -/
theorem Remembers.eq_rtake (h : Remembers window seen ids) (hBound : seen.length ≤ window) :
    seen = ids.rtake window := by
  obtain ⟨older, rfl⟩ := h.latest
  rw [List.rtake]
  rcases h.enough with hEnough | hAll
  · have hOlder : (older ++ seen).length - window = older.length := by
      rw [List.length_append]
      omega
    rw [hOlder, List.drop_left]
  · have hOlder : older = [] := List.self_eq_append_left.mp hAll
    rw [hOlder, List.nil_append, Nat.sub_eq_zero_of_le hBound, List.drop_zero]

/-- A sorted queue pruned from the front loses exactly what lies before the cutoff. -/
theorem dropWhile_eq_filter [LinearOrder α] {queue : List α} (cutoff : α)
    (hSorted : queue.Pairwise (· ≤ ·)) :
    queue.dropWhile (fun entry => decide (entry < cutoff)) =
      queue.filter (fun entry => decide (cutoff ≤ entry)) := by
  induction queue with
  | nil => rfl
  | cons entry queue ih =>
      rw [List.pairwise_cons] at hSorted
      by_cases hOld : entry < cutoff
      · rw [List.dropWhile_cons, if_pos (decide_eq_true hOld), ih hSorted.2,
          List.filter_cons_of_neg (by simpa using hOld)]
      · rw [List.dropWhile_cons, if_neg (by simpa using hOld)]
        refine (List.filter_eq_self.mpr fun other hOther => decide_eq_true ?_).symm
        rcases List.mem_cons.mp hOther with rfl | hOther
        · exact not_lt.mp hOld
        · exact (not_lt.mp hOld).trans (hSorted.1 other hOther)

end Window
