import Mathlib.Data.List.Basic
import Mathlib.Tactic.Common

/-! Unique reading of separated fields. A separator that occurs in no field on
one of its sides can be found again from that side, whatever the bytes on the
other side are. The UTF-8 view of strings supplies the fields. -/
namespace Framing

universe u
variable {α : Type u} {sep : α}

/-- Reading from the front: the first separator ends a separator-free field. -/
theorem front_inj {first second restFirst restSecond : List α}
    (hFirst : sep ∉ first) (hSecond : sep ∉ second)
    (h : first ++ sep :: restFirst = second ++ sep :: restSecond) :
    first = second ∧ restFirst = restSecond := by
  induction first generalizing second with
  | nil =>
      cases second with
      | nil => simpa using h
      | cons symbol second =>
          obtain ⟨rfl, -⟩ := List.cons.inj h
          simp at hSecond
  | cons symbol first ih =>
      cases second with
      | nil =>
          obtain ⟨rfl, -⟩ := List.cons.inj h
          simp at hFirst
      | cons symbol' second =>
          obtain ⟨rfl, hRest⟩ := List.cons.inj h
          obtain ⟨rfl, rfl⟩ := ih (fun hm => hFirst (List.mem_cons_of_mem _ hm))
            (fun hm => hSecond (List.mem_cons_of_mem _ hm)) hRest
          exact ⟨rfl, rfl⟩

/-- Reading from the back: the last separator starts a separator-free field. -/
theorem back_inj {first second restFirst restSecond : List α}
    (hFirst : sep ∉ restFirst) (hSecond : sep ∉ restSecond)
    (h : first ++ sep :: restFirst = second ++ sep :: restSecond) :
    first = second ∧ restFirst = restSecond := by
  have hReverse : restFirst.reverse ++ sep :: first.reverse =
      restSecond.reverse ++ sep :: second.reverse := by
    simpa using congrArg List.reverse h
  obtain ⟨hRest, hInit⟩ := front_inj (by simpa using hFirst) (by simpa using hSecond) hReverse
  exact ⟨List.reverse_injective hInit, List.reverse_injective hRest⟩

end Framing

namespace Utf8

/-- The bytes of a string, as a list. -/
def bytes (s : String) : List UInt8 := s.toByteArray.data.toList

theorem bytes_injective : Function.Injective bytes := by
  intro s t h
  exact String.toByteArray_inj.mp (ByteArray.ext (Array.toList_inj.mp h))

@[simp] theorem bytes_inj {s t : String} : bytes s = bytes t ↔ s = t :=
  bytes_injective.eq_iff

/-- Every character takes at least one byte. -/
theorem length_le_utf8Encode_size (chars : List Char) :
    chars.length ≤ chars.utf8Encode.size := by
  induction chars with
  | nil => simp
  | cons c rest ih =>
      have hPos := c.utf8Size_pos
      have hHead : [c].utf8Encode.size = c.utf8Size := by
        simp [List.utf8Encode_singleton]
      rw [List.utf8Encode_cons, ByteArray.size_append, List.length_cons, hHead]
      omega

theorem length_le_bytes_ofList (chars : List Char) :
    chars.length ≤ (bytes (String.ofList chars)).length := by
  have hBytes : bytes (String.ofList chars) = chars.utf8Encode.data.toList := by
    rw [bytes, String.toByteArray_ofList]
  rw [hBytes, Array.length_toList]
  exact length_le_utf8Encode_size chars

end Utf8
