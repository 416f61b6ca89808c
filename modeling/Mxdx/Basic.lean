import Mxdx.Foundations.Framing
import Mathlib.Order.Compare

/-! Conventions shared by the models of all crates: byte strings are lists,
monotonic time is counted in nanoseconds, and strings compare the way Rust's
`str` does. -/
namespace Mxdx

/-- A sequence of bytes. -/
abbrev Bytes := List UInt8

/-- A reading of the monotonic clock, in nanoseconds. -/
abbrev Instant := Nat

/-- A span of time, in nanoseconds. -/
abbrev Duration := Nat

/-- `Duration::from_millis`. -/
def Duration.fromMillis (ms : Nat) : Duration := ms * 1000000

/-- `Duration::from_secs`. -/
def Duration.fromSecs (secs : Nat) : Duration := secs * 1000000000

/-- `str::as_bytes`. -/
abbrev asBytes (s : String) : Bytes := Utf8.bytes s

/-- `str::cmp`: lexicographic order of the UTF-8 bytes. -/
def strCmp (s t : String) : Ordering := compare (asBytes s) (asBytes t)

theorem strCmp_swap (s t : String) : (strCmp s t).swap = strCmp t s :=
  Std.OrientedOrd.eq_swap.symm

@[simp] theorem strCmp_eq_iff {s t : String} : strCmp s t = .eq ↔ s = t := by
  rw [strCmp, Std.LawfulEqCmp.compare_eq_iff_eq, Utf8.bytes_inj]

theorem strCmp_isLE_total (s t : String) : ((strCmp s t).isLE || (strCmp t s).isLE) = true := by
  rw [← strCmp_swap t s]
  cases strCmp t s <;> rfl

theorem strCmp_isLE_trans (s t u : String) (hFirst : (strCmp s t).isLE = true)
    (hSecond : (strCmp t u).isLE = true) : (strCmp s u).isLE = true :=
  Std.TransOrd.isLE_trans hFirst hSecond

theorem strCmp_isLE_antisymm {s t : String} (hFirst : (strCmp s t).isLE = true)
    (hSecond : (strCmp t s).isLE = true) : s = t := by
  rw [strCmp] at hFirst hSecond
  have hSame := Std.OrientedCmp.isLE_antisymm hFirst hSecond
  exact strCmp_eq_iff.mp hSame

end Mxdx
