import Mxdx.Foundations.JsonText
import Mxdx.Worker.Task
import Mxdx.Worker.Telemetry
import Mathlib.Algebra.Group.Nat.Defs

/-! The numerals of JSON numbers: an integer is a `u64`, or a negative `i64`, as long as
it fits, and a float otherwise. -/
namespace Mxdx.Worker

open JsonText (Numerals isNumeral)

/-- How floats are written, and which float a numeral is read as that is no integer, or
one that does not fit. -/
structure FloatText where
  write : UInt64 → Text
  read : Text → Option UInt64

/-- Digits with no zero in front. -/
def readPlain (digits : Text) : Option Nat :=
  if digits = ['0'] ∨ digits.head? ≠ some '0' then parseDigits digits else none

/-- Whole numbers that fit stay whole, all others become floats. -/
def readNumber (floats : FloatText) : Text → Option Number
  | '-' :: digits =>
      if digits.all Char.isDigit then
        (readPlain digits).bind fun number =>
          if 0 < number ∧ number ≤ 2 ^ 63 then some (.negInt (.ofInt (-number)))
          else (floats.read ('-' :: digits)).map .float
      else (floats.read ('-' :: digits)).map .float
  | text =>
      if text.all Char.isDigit then
        (readPlain text).bind fun number =>
          if number < 2 ^ 64 then some (.posInt (.ofNat number))
          else (floats.read text).map .float
      else (floats.read text).map .float

/-- Whole numbers are written without a point. -/
def writeNumber (floats : FloatText) : Number → Text
  | .posInt value => Nat.toDigits 10 value.toNat
  | .negInt value => '-' :: Nat.toDigits 10 value.toInt.natAbs
  | .float bits => floats.write bits

/-- How `serde_json` writes and reads numbers. -/
def numerals (floats : FloatText) : Numerals Number where
  write := writeNumber floats
  read := readNumber floats

theorem head?_toDigits {number : Nat} (h : number ≠ 0) :
    (Nat.toDigits 10 number).head? ≠ some '0' := by
  induction number using Nat.strong_induction_on with
  | _ number ih =>
      rw [Nat.toDigits_eq_if (by decide)]
      by_cases hDigit : number < 10
      · have hDigits : ∀ digit < 10, digit ≠ 0 → Nat.digitChar digit ≠ '0' := by decide
        rw [if_pos hDigit]
        simpa using hDigits number hDigit h
      · have hSmaller := ih (number / 10) (by omega) (by omega)
        rw [if_neg hDigit, List.head?_append_of_ne_nil _ Nat.toDigits_ne_nil]
        exact hSmaller

theorem readPlain_toDigits (number : Nat) : readPlain (Nat.toDigits 10 number) = some number := by
  have hPlain : Nat.toDigits 10 number = ['0'] ∨ (Nat.toDigits 10 number).head? ≠ some '0' := by
    by_cases hZero : number = 0
    · subst hZero
      exact .inl rfl
    · exact .inr (head?_toDigits hZero)
  rw [readPlain, if_pos hPlain, parseDigits_toDigits]

theorem all_isDigit_toDigits (number : Nat) : (Nat.toDigits 10 number).all Char.isDigit = true :=
  List.all_eq_true.mpr fun _ hMem => isDigit_of_mem_toDigits hMem

theorem isNumeral_of_mem_toDigits {number : Nat} {c : Char} (h : c ∈ Nat.toDigits 10 number) :
    isNumeral c = true := by
  rw [isNumeral, isDigit_of_mem_toDigits h, Bool.true_or]

theorem kept_posInt (floats : FloatText) (value : UInt64) :
    (numerals floats).Kept (.posInt value) where
  nonempty := Nat.toDigits_ne_nil
  numeral _ hMem := isNumeral_of_mem_toDigits hMem
  back := by
    show readNumber floats (Nat.toDigits 10 value.toNat) = _
    unfold readNumber
    split
    · rename_i digits hText
      have hSign := isDigit_of_mem_toDigits (hText ▸ List.mem_cons_self :
        '-' ∈ Nat.toDigits 10 value.toNat)
      exact absurd hSign (by decide)
    · rw [if_pos (all_isDigit_toDigits _), readPlain_toDigits, Option.bind_some,
        if_pos value.toNat_lt, UInt64.ofNat_toNat]

theorem kept_negInt (floats : FloatText) {value : Int64} (h : value.toInt < 0) :
    (numerals floats).Kept (.negInt value) where
  nonempty := List.cons_ne_nil _ _
  numeral c hMem := by
    rcases List.mem_cons.mp hMem with rfl | hDigit
    · decide
    · exact isNumeral_of_mem_toDigits hDigit
  back := by
    have hLeast := value.le_toInt
    have hValue : -((value.toInt.natAbs : Nat) : Int) = value.toInt := by omega
    show readNumber floats ('-' :: Nat.toDigits 10 value.toInt.natAbs) = _
    rw [readNumber, if_pos (all_isDigit_toDigits _), readPlain_toDigits, Option.bind_some,
      if_pos (by omega), hValue, Int64.ofInt_toInt]

end Mxdx.Worker
