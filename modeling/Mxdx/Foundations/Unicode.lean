import Mxdx.Foundations.Framing
import Mathlib.Order.Compare

/-! Orders on text. An encoding sorts texts by the first characters at which
they part; UTF-8 bytes sort by code point, UTF-16 code units do not. The two
orders part company exactly between U+E000..U+FFFF and what lies beyond. -/
namespace Lexicographic

universe u v
variable {α : Type u} {β : Type v}

section Compare

variable [Ord β]

/-- `first` is smaller than `second` at a position that both of them have. -/
def Below : List β → List β → Prop
  | x :: first, y :: second => compare x y = .lt ∨ (compare x y = .eq ∧ Below first second)
  | _, _ => False

theorem compare_append_of_below {first second : List β} (h : Below first second)
    (restFirst restSecond : List β) :
    compare (first ++ restFirst) (second ++ restSecond) = .lt := by
  induction first generalizing second with
  | nil => simp [Below] at h
  | cons x first ih =>
      cases second with
      | nil => simp [Below] at h
      | cons y second =>
          rw [List.cons_append, List.cons_append, List.compare_cons_cons]
          rcases h with hHead | ⟨hHead, hTail⟩
          · rw [hHead]
            rfl
          · rw [hHead, Ordering.eq_then]
            exact ih hTail

theorem Below.of_map {γ : Type} [Ord γ] (f : β → γ) (hf : ∀ x y, compare (f x) (f y) = compare x y)
    {first second : List β} (h : Below (first.map f) (second.map f)) : Below first second := by
  induction first generalizing second with
  | nil => simp [Below] at h
  | cons x first ih =>
      cases second with
      | nil => simp [Below] at h
      | cons y second =>
          simp only [List.map_cons, Below, hf] at h ⊢
          exact h.imp_right fun hTail => ⟨hTail.1, ih hTail.2⟩

variable [Std.ReflOrd β]

theorem compare_append_left (shared first second : List β) :
    compare (shared ++ first) (shared ++ second) = compare first second := by
  induction shared with
  | nil => rfl
  | cons x shared ih =>
      rw [List.cons_append, List.cons_append, List.compare_cons_cons, Std.ReflOrd.compare_self,
        Ordering.eq_then, ih]

end Compare

/-- A code whose words sort like the keys of what they stand for, each
comparison being settled inside both words. -/
structure OrderedCode [Ord β] (code : α → List β) (key : α → Nat) : Prop where
  nonempty : ∀ a, code a ≠ []
  injective : Function.Injective key
  below : ∀ a b, key a < key b → Below (code a) (code b)

namespace OrderedCode

variable [Ord β] [Std.OrientedOrd β] {code : α → List β} {key : α → Nat}

/-- Encoded texts compare like the lists of keys. -/
theorem compare_flatMap (h : OrderedCode code key) (s t : List α) :
    compare (s.flatMap code) (t.flatMap code) = compare (s.map key) (t.map key) := by
  induction s generalizing t with
  | nil =>
      cases t with
      | nil => rfl
      | cons b t =>
          obtain ⟨y, word, hWord⟩ := List.exists_cons_of_ne_nil (h.nonempty b)
          rw [List.flatMap_cons, hWord]
          rfl
  | cons a s ih =>
      cases t with
      | nil =>
          obtain ⟨x, word, hWord⟩ := List.exists_cons_of_ne_nil (h.nonempty a)
          rw [List.flatMap_cons, hWord]
          rfl
      | cons b t =>
          rw [List.flatMap_cons, List.flatMap_cons, List.map_cons, List.map_cons,
            List.compare_cons_cons]
          rcases Nat.lt_trichotomy (key a) (key b) with hLt | hEq | hGt
          · rw [compare_append_of_below (h.below a b hLt), Nat.compare_eq_lt.mpr hLt]
            rfl
          · obtain rfl := h.injective hEq
            rw [compare_append_left, Std.ReflOrd.compare_self, Ordering.eq_then]
            exact ih t
          · rw [Std.OrientedOrd.eq_swap, compare_append_of_below (h.below b a hGt),
              Nat.compare_eq_gt.mpr hGt]
            rfl

/-- No word begins another: what is written first is settled. -/
theorem eq_of_append_eq (h : OrderedCode code key) {a b : α} {s t : List β}
    (hEq : code a ++ s = code b ++ t) : a = b := by
  rcases Nat.lt_trichotomy (key a) (key b) with hLt | hSame | hGt
  · have hBelow := compare_append_of_below (h.below a b hLt) s t
    rw [hEq, Std.ReflOrd.compare_self] at hBelow
    cases hBelow
  · exact h.injective hSame
  · have hBelow := compare_append_of_below (h.below b a hGt) t s
    rw [hEq, Std.ReflOrd.compare_self] at hBelow
    cases hBelow

end OrderedCode

section Parting

theorem then_of_ne_eq {o p : Ordering} (h : o ≠ .eq) : o.then p = o := by
  cases o with
  | lt => rfl
  | eq => exact absurd rfl h
  | gt => rfl

variable [DecidableEq α]

/-- The first elements at which two texts part, unless one starts the other. -/
def parting : List α → List α → Option (α × α)
  | a :: s, b :: t => if a = b then parting s t else some (a, b)
  | _, _ => none

/-- Two keys sort a pair of texts alike unless they disagree on the elements
at which the texts part. -/
theorem compare_map_eq_iff {key rank : α → Nat} (hKey : Function.Injective key)
    (hRank : Function.Injective rank) (s t : List α) :
    compare (s.map key) (t.map key) = compare (s.map rank) (t.map rank) ↔
      ∀ a b, parting s t = some (a, b) → compare (key a) (key b) = compare (rank a) (rank b) := by
  induction s generalizing t with
  | nil => cases t <;> simp [parting]
  | cons a s ih =>
      cases t with
      | nil => simp [parting]
      | cons b t =>
          simp only [List.map_cons, List.compare_cons_cons]
          by_cases hHead : a = b
          · subst hHead
            simpa [parting] using ih t
          · have hKeyNe : compare (key a) (key b) ≠ .eq := by
              simpa using fun hEq => hHead (hKey hEq)
            have hRankNe : compare (rank a) (rank b) ≠ .eq := by
              simpa using fun hEq => hHead (hRank hEq)
            rw [then_of_ne_eq hKeyNe, then_of_ne_eq hRankNe]
            simp [parting, hHead]

end Parting

end Lexicographic

/-- A character is a code point outside the surrogate range. -/
theorem Unicode.toNat_valid (c : Char) : c.toNat < 55296 ∨ (57343 < c.toNat ∧ c.toNat < 1114112) :=
  c.valid

/-- Characters of the ASCII range only. -/
def Unicode.Ascii (text : List Char) : Prop := ∀ c ∈ text, c.toNat < 128

instance (text : List Char) : Decidable (Unicode.Ascii text) :=
  List.decidableBAll (fun c : Char => c.toNat < 128) text

/-- A property of all ASCII characters is a property of 128 numbers. -/
theorem Unicode.ascii_forall (property : Char → Prop)
    (h : ∀ n : Fin 128, property (Char.ofNat n.val)) {c : Char} (hAscii : c.toNat < 128) :
    property c := by
  have hChar := h ⟨c.toNat, hAscii⟩
  rwa [Char.ofNat_toNat] at hChar

namespace Utf8

open Lexicographic

theorem bytes_eq_flatMap (s : String) : bytes s = s.toList.flatMap String.utf8EncodeChar := by
  rw [bytes, ← String.utf8Encode_toList, List.utf8Encode, List.toList_data_toByteArray]

theorem compare_toNat (x y : UInt8) : compare x.toNat y.toNat = compare x y := by
  simp only [compare, compareOfLessAndEq, UInt8.lt_iff_toNat_lt, UInt8.toNat_inj]

/-- The UTF-8 bytes of a code point, as numbers. -/
def word (n : Nat) : List Nat :=
  if n ≤ 127 then [n]
  else if n ≤ 2047 then [n / 64 + 192, n % 64 + 128]
  else if n ≤ 65535 then [n / 4096 + 224, n / 64 % 64 + 128, n % 64 + 128]
  else [n / 262144 + 240, n / 4096 % 64 + 128, n / 64 % 64 + 128, n % 64 + 128]

theorem map_toNat_utf8EncodeChar (c : Char) :
    (String.utf8EncodeChar c).map UInt8.toNat = word c.toNat := by
  have hValid := Unicode.toNat_valid c
  simp only [String.utf8EncodeChar, Char.toNat_val, word]
  split_ifs <;> simp (disch := omega) [Nat.mod_eq_of_lt]

theorem below_word {m n : Nat} (h : m < n) : Below (word m) (word n) := by
  -- the six-bit groups are digits: each quotient continues the one before it
  have hDigits : ∀ k : Nat, k / 64 / 64 = k / 4096 ∧ k / 4096 / 64 = k / 262144 :=
    fun k => ⟨Nat.div_div_eq_div_mul k 64 64, Nat.div_div_eq_div_mul k 4096 64⟩
  have hm := hDigits m
  have hn := hDigits n
  unfold word
  split_ifs <;> simp [Below, Nat.compare_eq_lt] <;> omega

/-- A character with a smaller code point has smaller UTF-8 bytes. -/
theorem orderedCode : OrderedCode String.utf8EncodeChar Char.toNat where
  nonempty := by
    intro c hNil
    have hPos := c.utf8Size_pos
    rw [← String.length_utf8EncodeChar, hNil] at hPos
    simp at hPos
  injective := fun c d h => Char.toNat_inj.mp h
  below := by
    intro c d h
    apply Below.of_map UInt8.toNat compare_toNat
    rw [map_toNat_utf8EncodeChar, map_toNat_utf8EncodeChar]
    exact below_word h

end Utf8

namespace Utf16

open Lexicographic

/-- The code units of a character: one, or a pair of surrogates. -/
def ofChar (c : Char) : List UInt16 :=
  if c.toNat < 0x10000 then [UInt16.ofNat c.toNat]
  else
    [UInt16.ofNat (0xD800 + (c.toNat - 0x10000) / 0x400),
      UInt16.ofNat (0xDC00 + (c.toNat - 0x10000) % 0x400)]

/-- The code units of a text. -/
def units (s : String) : List UInt16 := s.toList.flatMap ofChar

/-- Where a character stands in code-unit order: those from U+E000 to U+FFFF
come after everything that takes surrogates. -/
def rank (c : Char) : Nat :=
  if 0xE000 ≤ c.toNat ∧ c.toNat < 0x10000 then c.toNat + 0x110000 else c.toNat

theorem compare_toNat (x y : UInt16) : compare x.toNat y.toNat = compare x y := by
  simp only [compare, compareOfLessAndEq, UInt16.lt_iff_toNat_lt, UInt16.toNat_inj]

theorem orderedCode : OrderedCode ofChar rank where
  nonempty := by
    intro c
    unfold ofChar
    split_ifs <;> simp
  injective := by
    intro c d h
    have hc := Unicode.toNat_valid c
    have hd := Unicode.toNat_valid d
    apply Char.toNat_inj.mp
    unfold rank at h
    split_ifs at h <;> omega
  below := by
    intro c d h
    have hc := Unicode.toNat_valid c
    have hd := Unicode.toNat_valid d
    apply Below.of_map UInt16.toNat compare_toNat
    unfold rank at h
    unfold ofChar
    split_ifs at h ⊢ <;> simp [Below, Nat.compare_eq_lt] <;> omega

/-- One character from U+E000 to U+FFFF, the other beyond U+FFFF. -/
def Crossed (c d : Char) : Prop :=
  (0xE000 ≤ c.toNat ∧ c.toNat < 0x10000 ∧ 0x10000 ≤ d.toNat) ∨
    (0xE000 ≤ d.toNat ∧ d.toNat < 0x10000 ∧ 0x10000 ≤ c.toNat)

instance (c d : Char) : Decidable (Crossed c d) := inferInstanceAs (Decidable (_ ∨ _))

theorem compare_rank_eq_iff (c d : Char) :
    compare c.toNat d.toNat = compare (rank c) (rank d) ↔ ¬ Crossed c d := by
  have hc := Unicode.toNat_valid c
  have hd := Unicode.toNat_valid d
  simp only [Nat.compare_eq_ite_lt, rank, Crossed]
  split_ifs <;> simp <;> omega

/-- The first characters at which `s` and `t` part are `Crossed`. -/
def PartCrossed (s t : String) : Prop :=
  match parting s.toList t.toList with
  | some (c, d) => Crossed c d
  | none => False

instance (s t : String) : Decidable (PartCrossed s t) :=
  match h : parting s.toList t.toList with
  | some (c, d) => decidable_of_iff (Crossed c d) (by simp [PartCrossed, h])
  | none => isFalse (by simp [PartCrossed, h])

/-- UTF-8 bytes and UTF-16 code units sort two texts alike unless the texts
part at `Crossed` characters. -/
theorem compare_units_eq_iff (s t : String) :
    compare (Utf8.bytes s) (Utf8.bytes t) = compare (units s) (units t) ↔ ¬ PartCrossed s t := by
  rw [Utf8.bytes_eq_flatMap, Utf8.bytes_eq_flatMap, units, units,
    Utf8.orderedCode.compare_flatMap, orderedCode.compare_flatMap,
    compare_map_eq_iff Utf8.orderedCode.injective orderedCode.injective, PartCrossed]
  simp only [compare_rank_eq_iff]
  cases parting s.toList t.toList with
  | none => simp
  | some pair =>
      obtain ⟨c, d⟩ := pair
      simp

theorem mem_of_parting {s t : List Char} {c d : Char} (h : parting s t = some (c, d)) :
    c ∈ s ∧ d ∈ t := by
  induction s generalizing t with
  | nil => simp [parting] at h
  | cons a s ih =>
      cases t with
      | nil => simp [parting] at h
      | cons b t =>
          rw [parting] at h
          split_ifs at h with hHead
          · obtain ⟨hFirst, hSecond⟩ := ih h
            exact ⟨List.mem_cons_of_mem _ hFirst, List.mem_cons_of_mem _ hSecond⟩
          · cases h
            exact ⟨List.mem_cons_self, List.mem_cons_self⟩

/-- On ASCII the two orders are one. -/
theorem compare_units_of_ascii {s t : String} (hFirst : Unicode.Ascii s.toList)
    (hSecond : Unicode.Ascii t.toList) :
    compare (Utf8.bytes s) (Utf8.bytes t) = compare (units s) (units t) := by
  rw [compare_units_eq_iff, PartCrossed]
  split
  · rename_i c d hParting
    obtain ⟨hc, hd⟩ := mem_of_parting hParting
    have hcAscii := hFirst c hc
    have hdAscii := hSecond d hd
    unfold Crossed
    omega
  · exact not_false

theorem compare_units_eq_eq {s t : String} : compare (units s) (units t) = .eq ↔ s = t := by
  rw [units, units, orderedCode.compare_flatMap, Std.LawfulEqOrd.compare_eq_iff_eq,
    (List.map_injective_iff.mpr orderedCode.injective).eq_iff, String.toList_inj]

end Utf16
