import Mxdx.Fabric.Failure
import Mxdx.Foundations.Framing

/-! What a copy of a failed task keeps of the task. The attempt is counted in the
payload, which must be an object for that; a payload that is none is given up. -/
namespace Mxdx.Fabric

open Worker (Value FailurePolicy ofUInt64)

section Uuids

/-- The uuid of a copy. -/
def retryUuid (uuid : String) (attempt : UInt8) : String :=
  uuid ++ "-retry-" ++ toString attempt

theorem toList_retryUuid (uuid : String) (attempt : UInt8) :
    (retryUuid uuid attempt).toList =
      (uuid.toList ++ "-retry".toList) ++ '-' :: Nat.toDigits 10 attempt.toNat := by
  have hDigits : (toString attempt).toList = Nat.toDigits 10 attempt.toNat := Nat.toList_repr
  rw [retryUuid, String.toList_append, String.toList_append, hDigits, List.append_assoc,
    List.append_assoc]
  rfl

theorem minus_not_mem_toDigits (number : Nat) : '-' ∉ Nat.toDigits 10 number := by
  intro h
  have hDigit := Nat.isDigit_of_mem_toDigits (by decide) (by decide) h
  exact absurd hDigit (by decide)

/-- A uuid of a copy says of which task and for which attempt it is: the attempt is what
follows the last hyphen. -/
theorem retryUuid_inj {first second : String} {attempt other : UInt8} :
    retryUuid first attempt = retryUuid second other ↔ first = second ∧ attempt = other := by
  constructor
  · intro h
    have hLists := congrArg String.toList h
    rw [toList_retryUuid, toList_retryUuid] at hLists
    obtain ⟨hUuid, hAttempt⟩ :=
      Framing.back_inj (minus_not_mem_toDigits _) (minus_not_mem_toDigits _) hLists
    have hNumbers := congrArg (Nat.ofDigitChars 10 · 0) hAttempt
    simp only [Nat.ofDigitChars_ten_toDigits] at hNumbers
    exact ⟨String.toList_inj.mp (List.append_cancel_right hUuid), UInt8.toNat_inj.mp hNumbers⟩
  · rintro ⟨rfl, rfl⟩
    rfl

theorem uuid_copyFor (policy : FailurePolicy) (ctx : FailureContext) :
    (copyFor policy ctx).uuid = retryUuid ctx.task.uuid (ctx.attempt + 1) := by
  cases policy <;> rfl

end Uuids

section Payloads

/-- A payload without the count of the attempts. -/
def withoutAttempt : Value → Value
  | .obj fields => .obj (fields.filter (·.1 ≠ "attempt"))
  | payload => payload

theorem withoutAttempt_putAttempt_obj (attempt : UInt8) (fields : List (String × Value)) :
    withoutAttempt (putAttempt attempt (.obj fields)) = withoutAttempt (.obj fields) := by
  simp [withoutAttempt, putAttempt]

/-- An entry for the attempt is put into an object, and takes the place of anything else. -/
theorem withoutAttempt_putAttempt_iff {attempt : UInt8} {payload : Value} :
    withoutAttempt (putAttempt attempt payload) = withoutAttempt payload ↔
      ∃ fields, payload = .obj fields := by
  cases payload with
  | obj fields => exact iff_of_true (withoutAttempt_putAttempt_obj ..) ⟨fields, rfl⟩
  | _ => simp [withoutAttempt, putAttempt]

end Payloads

section Respawn

variable {policy : FailurePolicy} {ctx : FailureContext} {client : Client} {roomId : String}

/-- The copy is the task but for its uuid, the count in its payload and, with
context, its plan; and no other copy has its uuid. -/
structure Preserves (policy : FailurePolicy) (ctx : FailureContext) (copy : TaskEvent) :
    Prop where
  rest : { copy with
    uuid := ctx.task.uuid
    payload := ctx.task.payload
    plan := ctx.task.plan } = ctx.task
  payload : withoutAttempt copy.payload = withoutAttempt ctx.task.payload
  plan : policy ≠ .respawnWithContext → copy.plan = ctx.task.plan
  uuid : ∀ otherPolicy other otherClient otherRoom otherCopy,
    applyPolicy otherPolicy other otherClient otherRoom = .ok (some otherCopy) →
      other.task.uuid ≠ ctx.task.uuid ∨ other.attempt ≠ ctx.attempt → otherCopy.uuid ≠ copy.uuid

theorem rest_copyFor (policy : FailurePolicy) (ctx : FailureContext) :
    { copyFor policy ctx with
      uuid := ctx.task.uuid
      payload := ctx.task.payload
      plan := ctx.task.plan } = ctx.task := by
  cases policy <;> rfl

theorem plan_copyFor (h : policy ≠ .respawnWithContext) :
    (copyFor policy ctx).plan = ctx.task.plan := by
  cases policy with
  | respawnWithContext => exact absurd rfl h
  | _ => rfl

theorem preserves_copyFor_iff :
    Preserves policy ctx (copyFor policy ctx) ↔ ∃ fields, ctx.task.payload = .obj fields := by
  constructor
  · intro h
    have hPayload := h.payload
    rwa [payload_copyFor, withoutAttempt_putAttempt_iff] at hPayload
  · intro hObject
    refine ⟨rest_copyFor policy ctx, ?_, plan_copyFor, ?_⟩
    · rw [payload_copyFor, withoutAttempt_putAttempt_iff]
      exact hObject
    · intro otherPolicy other otherClient otherRoom otherCopy hCopy hOther hSame
      rw [(applyPolicy_eq_some_iff.mp hCopy).2, uuid_copyFor, uuid_copyFor, retryUuid_inj] at hSame
      rcases hOther with hTask | hAttempt
      · exact hTask hSame.1
      · exact hAttempt (UInt8.add_left_inj 1 |>.mp hSame.2)

/-- What a policy makes of a task preserves it exactly when the payload is an object,
or no copy is made. -/
theorem respawn_preserves_iff (policy : FailurePolicy) (ctx : FailureContext) (client : Client)
    (roomId : String) :
    (∀ copy, applyPolicy policy ctx client roomId = .ok (some copy) → Preserves policy ctx copy) ↔
      (ctx.attempt < policy.retryLimit → ∃ fields, ctx.task.payload = .obj fields) := by
  simp only [applyPolicy_eq_some_iff]
  constructor
  · intro h hLimit
    exact preserves_copyFor_iff.mp (h _ ⟨hLimit, rfl⟩)
  · rintro h copy ⟨hLimit, rfl⟩
    exact preserves_copyFor_iff.mpr (h hLimit)

/-- A task whose payload is a text is sent round again with nothing of it. -/
theorem respawn_forgets :
    ¬ ∀ (ctx : FailureContext) (client : Client) (roomId : String) (copy : TaskEvent),
      applyPolicy (.respawn 1) ctx client roomId = .ok (some copy) →
        Preserves (.respawn 1) ctx copy := by
  intro h
  let task : TaskEvent := ⟨"t1", "@alice:example.org", ["shell"], none, 60, 10, .abandon,
    .respawn 1, .auto, false, .str "cargo build", none⟩
  let client : Client := ⟨fun _ => true, fun _ _ => .ok "!workers:example.org", fun _ _ => .ok (),
    fun _ _ => .ok ()⟩
  have hLimit : (0 : UInt8) < FailurePolicy.retryLimit (.respawn 1) := by decide
  have hCopy := h ⟨task, "heartbeat overdue", 0, none⟩ client "!alerts:example.org" _
    (applyPolicy_of_lt hLimit)
  obtain ⟨fields, hFields⟩ := preserves_copyFor_iff.mp hCopy
  exact absurd hFields (by simp [task])

end Respawn

end Mxdx.Fabric
