import Mxdx.Foundations.Unicode
import Mxdx.P2P.Signaling.Glare

/-! Glare between two implementations. The JavaScript side sorts user ids by
UTF-16 code units and has no second criterion; the Rust side sorts by UTF-8
bytes and falls back on the call id. -/
namespace Mxdx.Core

/-- `<` on strings: the order of their UTF-16 code units. -/
def lessThan (s t : String) : Bool := compare (Utf16.units s) (Utf16.units t) == .lt

theorem lessThan_eq_true {s t : String} :
    lessThan s t = true ↔ compare (Utf16.units s) (Utf16.units t) = .lt := beq_iff_eq

/-- What `resolveGlare` returns. -/
inductive Glare where
  | win
  | lose
deriving DecidableEq, Repr

/-- The signaling layer of one party, as far as glare reads it. -/
structure P2PSignaling where
  localUserId : String
deriving DecidableEq, Repr

/-- The lesser user id wins. -/
def P2PSignaling.resolveGlare (signaling : P2PSignaling) (remoteUserId : String) : Glare :=
  if lessThan signaling.localUserId remoteUserId then .win else .lose

theorem resolveGlare_eq_win {signaling : P2PSignaling} {remoteUserId : String} :
    signaling.resolveGlare remoteUserId = .win ↔
      compare (Utf16.units signaling.localUserId) (Utf16.units remoteUserId) = .lt := by
  rw [← lessThan_eq_true, P2PSignaling.resolveGlare]
  split_ifs with h <;> simp [h]

/-- The program a party runs. -/
inductive Implementation where
  | rust
  | javascript
deriving DecidableEq, Repr

/-- A party whose invite crosses the other's. -/
structure Caller where
  implementation : Implementation
  userId : String
  callId : String
deriving DecidableEq, Repr

namespace Caller

/-- `us` keeps its own offer against the one of `them`. -/
def Wins (us them : Caller) : Prop :=
  match us.implementation with
  | .rust => P2P.resolve us.userId them.userId us.callId them.callId = .weWin
  | .javascript => (P2PSignaling.mk us.userId).resolveGlare them.userId = .win

instance (us them : Caller) : Decidable (us.Wins them) :=
  match h : us.implementation with
  | .rust => decidable_of_iff
      (P2P.resolve us.userId them.userId us.callId them.callId = .weWin) (by simp [Wins, h])
  | .javascript => decidable_of_iff
      ((P2PSignaling.mk us.userId).resolveGlare them.userId = .win) (by simp [Wins, h])

/-- A Rust party against a JavaScript one: from one account the Rust call id
must be the lower one, from two accounts the two string orders must agree. -/
def MixedDecided (rust javascript : Caller) : Prop :=
  if rust.userId = javascript.userId then strCmp rust.callId javascript.callId = .lt
  else ¬ Utf16.PartCrossed rust.userId javascript.userId

/-- Pairs of parties between which the two rules leave one winner. -/
def Decided (first second : Caller) : Prop :=
  match first.implementation, second.implementation with
  | .rust, .rust => True
  | .javascript, .javascript => first.userId ≠ second.userId
  | .rust, .javascript => MixedDecided first second
  | .javascript, .rust => MixedDecided second first

variable {first second : Caller}

theorem wins_rust_of_ne (hRust : first.implementation = .rust)
    (hUsers : first.userId ≠ second.userId) :
    first.Wins second ↔ strCmp first.userId second.userId = .lt := by
  have hNe : strCmp first.userId second.userId ≠ .eq := fun h => hUsers (strCmp_eq_iff.mp h)
  simp only [Wins, hRust, P2P.resolve]
  cases hCmp : strCmp first.userId second.userId with
  | lt => simp
  | eq => exact absurd hCmp hNe
  | gt => simp

theorem wins_rust_of_eq (hRust : first.implementation = .rust)
    (hUsers : first.userId = second.userId) (hCalls : first.callId ≠ second.callId) :
    first.Wins second ↔ strCmp first.callId second.callId = .lt := by
  have hEq : strCmp first.userId second.userId = .eq := strCmp_eq_iff.mpr hUsers
  have hNe : strCmp first.callId second.callId ≠ .eq := fun h => hCalls (strCmp_eq_iff.mp h)
  simp only [Wins, hRust, P2P.resolve, hEq]
  cases hCmp : strCmp first.callId second.callId with
  | lt => simp
  | eq => exact absurd hCmp hNe
  | gt => simp

theorem wins_javascript (hJs : first.implementation = .javascript) :
    first.Wins second ↔
      compare (Utf16.units first.userId) (Utf16.units second.userId) = .lt := by
  simp only [Wins, hJs, resolveGlare_eq_win]

theorem wins_javascript_swap (hJs : second.implementation = .javascript) :
    second.Wins first ↔
      (compare (Utf16.units first.userId) (Utf16.units second.userId)).swap = .lt := by
  rw [wins_javascript hJs, ← Std.OrientedOrd.eq_swap]

/-- Nobody wins against its own account by `resolveGlare`. -/
theorem not_wins_javascript_of_eq (hJs : first.implementation = .javascript)
    (hUsers : first.userId = second.userId) : ¬ first.Wins second := by
  rw [wins_javascript hJs, hUsers, Std.ReflOrd.compare_self]
  simp

theorem xor_wins_rust (hFirst : first.implementation = .rust)
    (hSecond : second.implementation = .rust) (hCalls : first.callId ≠ second.callId) :
    Xor (first.Wins second) (second.Wins first) := by
  have hSwap : P2P.resolve second.userId first.userId second.callId first.callId =
      (P2P.resolve first.userId second.userId first.callId second.callId).invert :=
    P2P.resolve_swap fun h => hCalls h.2
  simp only [Wins, hFirst, hSecond, hSwap]
  cases P2P.resolve first.userId second.userId first.callId second.callId with
  | weWin => simp [P2P.GlareResult.invert]
  | theyWin => simp [P2P.GlareResult.invert]

/-- Two ways to separate the users leave one winner exactly when they agree. -/
theorem xor_lt_swap_iff {o p : Ordering} (ho : o ≠ .eq) (hp : p ≠ .eq) :
    Xor (o = .lt) (p.swap = .lt) ↔ o = p := by
  cases o <;> cases p <;> simp_all [Xor]

theorem compare_units_ne_eq (hUsers : first.userId ≠ second.userId) :
    compare (Utf16.units first.userId) (Utf16.units second.userId) ≠ .eq :=
  fun h => hUsers (Utf16.compare_units_eq_eq.mp h)

theorem xor_wins_javascript_iff (hFirst : first.implementation = .javascript)
    (hSecond : second.implementation = .javascript) :
    Xor (first.Wins second) (second.Wins first) ↔ first.userId ≠ second.userId := by
  by_cases hUsers : first.userId = second.userId
  · simp [Xor, not_wins_javascript_of_eq hFirst hUsers,
      not_wins_javascript_of_eq hSecond hUsers.symm, hUsers]
  · have hNe := compare_units_ne_eq hUsers
    rw [wins_javascript hFirst, wins_javascript_swap hSecond, xor_lt_swap_iff hNe hNe]
    simp [hUsers]

theorem xor_wins_mixed_iff (hFirst : first.implementation = .rust)
    (hSecond : second.implementation = .javascript) (hCalls : first.callId ≠ second.callId) :
    Xor (first.Wins second) (second.Wins first) ↔ MixedDecided first second := by
  unfold MixedDecided
  by_cases hUsers : first.userId = second.userId
  · rw [if_pos hUsers, ← wins_rust_of_eq hFirst hUsers hCalls]
    simp [Xor, not_wins_javascript_of_eq hSecond hUsers.symm]
  · have hBytes : strCmp first.userId second.userId ≠ .eq := fun h => hUsers (strCmp_eq_iff.mp h)
    rw [if_neg hUsers, wins_rust_of_ne hFirst hUsers, wins_javascript_swap hSecond,
      xor_lt_swap_iff hBytes (compare_units_ne_eq hUsers), ← Utf16.compare_units_eq_iff]
    rfl

/-- Exactly one offer survives a glare between two parties, whatever either
runs, if and only if the pair is `Decided`. -/
theorem one_offer_survives_iff (first second : Caller) (hCalls : first.callId ≠ second.callId) :
    Xor (first.Wins second) (second.Wins first) ↔ Decided first second := by
  unfold Decided
  cases hFirst : first.implementation with
  | rust =>
      cases hSecond : second.implementation with
      | rust => exact iff_of_true (xor_wins_rust hFirst hSecond hCalls) trivial
      | javascript => exact xor_wins_mixed_iff hFirst hSecond hCalls
  | javascript =>
      cases hSecond : second.implementation with
      | rust =>
          rw [xor_comm]
          exact xor_wins_mixed_iff hSecond hFirst hCalls.symm
      | javascript => exact xor_wins_javascript_iff hFirst hSecond

/-- A launcher and a client of two accounts: the ids part at plain letters. -/
theorem plain_ids_one_offer :
    Xor ((Caller.mk .rust "@alice:ex" "c1").Wins ⟨.javascript, "@bob:ex", "c2"⟩)
      ((Caller.mk .javascript "@bob:ex" "c2").Wins ⟨.rust, "@alice:ex", "c1"⟩) :=
  (one_offer_survives_iff ⟨.rust, "@alice:ex", "c1"⟩ ⟨.javascript, "@bob:ex", "c2"⟩
    (by decide)).mpr (by simp only [Decided, MixedDecided]; decide)

/-- A fullwidth letter against one beyond the basic plane: each side finds
its own id the lower one. One account on two JavaScript devices: neither
finds its id lower. -/
theorem glare_undecided :
    ¬ Xor ((Caller.mk .rust "@\uFF21:ex" "c1").Wins ⟨.javascript, "@𝐀:ex", "c2"⟩)
        ((Caller.mk .javascript "@𝐀:ex" "c2").Wins ⟨.rust, "@\uFF21:ex" , "c1"⟩) ∧
      ¬ Xor ((Caller.mk .javascript "@me:ex" "c1").Wins ⟨.javascript, "@me:ex", "c2"⟩)
        ((Caller.mk .javascript "@me:ex" "c2").Wins ⟨.javascript, "@me:ex", "c1"⟩) := by
  unfold Xor
  decide

end Caller
end Mxdx.Core
