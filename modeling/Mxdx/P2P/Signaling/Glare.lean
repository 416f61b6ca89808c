import Mxdx.Basic

/-! Deterministic resolution of concurrent invites: the lower user id wins,
and one account calling itself is decided by the lower call id. -/
namespace Mxdx.P2P

/-- Whose call goes on when both sides call at once. -/
inductive GlareResult where
  | weWin
  | theyWin
deriving DecidableEq, Repr

/-- The result as the other side has it. -/
def GlareResult.invert : GlareResult → GlareResult
  | .weWin => .theyWin
  | .theyWin => .weWin

/-- The lesser user wins, then the lesser call. -/
def resolve (ourUserId theirUserId ourCallId theirCallId : String) : GlareResult :=
  match strCmp ourUserId theirUserId with
  | .lt => .weWin
  | .gt => .theyWin
  | .eq =>
      match strCmp ourCallId theirCallId with
      | .lt => .weWin
      | .gt => .theyWin
      | .eq => .weWin

/-- Peer agreement: unless both sides quote the same invite, what one peer
computes is the inverse of what the other computes. -/
theorem resolve_swap {userA userB callA callB : String}
    (hDistinct : ¬ (userA = userB ∧ callA = callB)) :
    resolve userB userA callB callA = (resolve userA userB callA callB).invert := by
  unfold resolve
  rw [← strCmp_swap userA userB, ← strCmp_swap callA callB]
  cases hUser : strCmp userA userB with
  | lt => rfl
  | gt => rfl
  | eq =>
      cases hCall : strCmp callA callB with
      | lt => rfl
      | gt => rfl
      | eq => exact absurd ⟨strCmp_eq_iff.mp hUser, strCmp_eq_iff.mp hCall⟩ hDistinct

end Mxdx.P2P
