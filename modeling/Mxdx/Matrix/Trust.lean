import Mathlib.Data.List.Basic
import Mathlib.Data.List.Dedup
import Mathlib.Data.List.TakeWhile
import Mathlib.Tactic.Common

/-! `MultiHsClient::sync_trust`: whoever is verified on one homeserver is verified
under the same name on the others. What the clients answer is given with them;
every question is asked once at most, so their order does not matter. -/
namespace Mxdx.MatrixClient

/-- A localpart ends at the first colon of the id. -/
structure UserId where
  localpart : String
  serverName : String
  noColon : ':' ∉ localpart.toList
deriving DecidableEq

/-- What `UserId::parse` asks of localpart and server name, its limit on the
length of the whole included. -/
abbrev ValidId := String → String → Bool

/-- The localpart ends at the first colon. -/
def UserId.parse (valid : ValidId) (text : String) : Option UserId :=
  match text.toList with
  | '@' :: rest =>
      let localpart := rest.takeWhile (· ≠ ':')
      match rest.dropWhile (· ≠ ':') with
      | _ :: serverName =>
          if valid (String.ofList localpart) (String.ofList serverName) then
            some ⟨String.ofList localpart, String.ofList serverName, by
              rw [String.toList_ofList]
              intro hColon
              simpa using List.mem_takeWhile_imp hColon⟩
          else none
      | [] => none
  | _ => none

/-- The text is taken apart where it was put together. -/
theorem UserId.localpart_of_parse {valid : ValidId} {localpart serverName : String}
    (hColon : ':' ∉ localpart.toList) {user : UserId}
    (h : UserId.parse valid ("@" ++ localpart ++ ":" ++ serverName) = some user) :
    user.localpart = localpart ∧ user.serverName = serverName := by
  have hText : ("@" ++ localpart ++ ":" ++ serverName).toList =
      '@' :: (localpart.toList ++ ':' :: serverName.toList) := by
    simp [String.toList_append]
  have hNames : ∀ c ∈ localpart.toList, decide (c ≠ ':') = true := by
    intro c hMem
    rw [decide_eq_true_eq]
    rintro rfl
    exact hColon hMem
  simp only [UserId.parse, hText, List.takeWhile_append_of_pos hNames,
    List.dropWhile_append_of_pos hNames] at h
  simp only [ne_eq, not_true_eq_false, decide_false, Bool.false_eq_true, not_false_eq_true,
    List.takeWhile_cons_of_neg, List.append_nil, String.ofList_toList,
    List.dropWhile_cons_of_neg] at h
  split at h
  · cases h
    exact ⟨rfl, rfl⟩
  · cases h

/-- A client with what it answers: the users it has verified in the room, none
if it fails, and whether it has verified a given one. -/
structure TrustEntry where
  userId : UserId
  verifiedUserIdsInRoom : Option (List UserId)
  isUserVerified : UserId → Option Bool

/-- The set that the first loop collects. -/
def allVerifiedLocalparts (entries : List TrustEntry) : List String :=
  (entries.flatMap fun entry =>
    (entry.verifiedUserIdsInRoom.getD []).map UserId.localpart).dedup

namespace TrustEntry

variable (valid : ValidId)

/-- The user of this name on the client's own server. -/
def target (entry : TrustEntry) (localpart : String) : Option UserId :=
  UserId.parse valid ("@" ++ localpart ++ ":" ++ entry.userId.serverName)

/-- The user that the client is told to verify, unless there is no such id, or
the client has verified it already or cannot say. -/
def verifies (entry : TrustEntry) (localpart : String) : Option UserId := do
  let targetUid ← entry.target valid localpart
  match entry.isUserVerified targetUid with
  | some false => some targetUid
  | _ => none

/-- The client has verified a user of this name on its own server. -/
def VerifiedAtHome (entry : TrustEntry) (localpart : String) : Prop :=
  ∃ user ∈ entry.verifiedUserIdsInRoom.getD [],
    user.localpart = localpart ∧ user.serverName = entry.userId.serverName

instance (entry : TrustEntry) (localpart : String) : Decidable (entry.VerifiedAtHome localpart) :=
  inferInstanceAs (Decidable (∃ user ∈ _, _))

end TrustEntry

variable {valid : ValidId} {entries : List TrustEntry}

/-- The calls of `verify_user`, each on its client. -/
def syncTrust (valid : ValidId) (entries : List TrustEntry) : List (TrustEntry × UserId) :=
  if entries.length ≤ 1 then []
  else
    (allVerifiedLocalparts entries).flatMap fun localpart =>
      entries.filterMap fun entry => (entry.verifies valid localpart).map (entry, ·)

/-- Everyone who is verified was verified under this name by a client of its own
server. -/
def Unamplified (entries : List TrustEntry) (calls : List (TrustEntry × UserId)) : Prop :=
  ∀ call ∈ calls, ∃ entry ∈ entries, entry.VerifiedAtHome call.2.localpart

instance (entries : List TrustEntry) (calls : List (TrustEntry × UserId)) :
    Decidable (Unamplified entries calls) :=
  inferInstanceAs (Decidable (∀ call ∈ calls, ∃ entry ∈ entries, _))

/-- A name that nobody has verified at home is verified, impossible or beyond
telling on every server. -/
def ForeignersSettled (valid : ValidId) (entries : List TrustEntry) : Prop :=
  ∀ localpart ∈ allVerifiedLocalparts entries,
    (∃ entry ∈ entries, entry.VerifiedAtHome localpart) ∨
      ∀ entry ∈ entries, ∀ targetUid, entry.target valid localpart = some targetUid →
        entry.isUserVerified targetUid ≠ some false

theorem noColon_of_mem {localpart : String} (h : localpart ∈ allVerifiedLocalparts entries) :
    ':' ∉ localpart.toList := by
  obtain ⟨entry, -, hUser⟩ := List.mem_flatMap.mp (List.mem_dedup.mp h)
  obtain ⟨user, -, rfl⟩ := List.mem_map.mp hUser
  exact user.noColon

theorem TrustEntry.verifies_eq_some_iff {entry : TrustEntry} {localpart : String} {user : UserId} :
    entry.verifies valid localpart = some user ↔
      entry.target valid localpart = some user ∧ entry.isUserVerified user = some false := by
  rw [verifies, Option.bind_eq_bind, Option.bind_eq_some_iff]
  constructor
  · rintro ⟨targetUid, hTarget, hVerifies⟩
    split at hVerifies
    next hFalse =>
      cases hVerifies
      exact ⟨hTarget, hFalse⟩
    · cases hVerifies
  · rintro ⟨hTarget, hFalse⟩
    exact ⟨user, hTarget, by simp only [hFalse]⟩

/-- A call is made for a collected name, at a client that has not verified it. -/
theorem mem_syncTrust (hSeveral : 1 < entries.length) {call : TrustEntry × UserId} :
    call ∈ syncTrust valid entries ↔
      call.1 ∈ entries ∧ ∃ localpart ∈ allVerifiedLocalparts entries,
        call.1.target valid localpart = some call.2 ∧ call.1.isUserVerified call.2 = some false := by
  obtain ⟨client, user⟩ := call
  rw [syncTrust, if_neg (Nat.not_le.mpr hSeveral)]
  simp only [List.mem_flatMap, List.mem_filterMap, Option.map_eq_some_iff, Prod.mk.injEq]
  constructor
  · rintro ⟨localpart, hName, entry, hEntry, target, hVerifies, rfl, rfl⟩
    exact ⟨hEntry, localpart, hName, TrustEntry.verifies_eq_some_iff.mp hVerifies⟩
  · rintro ⟨hEntry, localpart, hName, hVerifies⟩
    exact ⟨localpart, hName, client, hEntry, user, TrustEntry.verifies_eq_some_iff.mpr hVerifies,
      rfl, rfl⟩

/-- Trust is not amplified exactly when there is one server, or no foreigner's
name is left to be verified. -/
theorem syncTrust_unamplified_iff (valid : ValidId) (entries : List TrustEntry) :
    Unamplified entries (syncTrust valid entries) ↔
      entries.length ≤ 1 ∨ ForeignersSettled valid entries := by
  rcases Nat.lt_or_ge 1 entries.length with hSeveral | hSingle
  · rw [or_iff_right (Nat.not_le.mpr hSeveral)]
    constructor
    · intro h localpart hName
      by_cases hHome : ∃ entry ∈ entries, entry.VerifiedAtHome localpart
      · exact .inl hHome
      · refine .inr fun entry hEntry targetUid hTarget hFalse => hHome ?_
        have hCall : (entry, targetUid) ∈ syncTrust valid entries :=
          (mem_syncTrust hSeveral).mpr ⟨hEntry, localpart, hName, hTarget, hFalse⟩
        have hSame := (UserId.localpart_of_parse (noColon_of_mem hName) hTarget).1
        simpa only [hSame] using h _ hCall
    · intro h call hCall
      obtain ⟨hEntry, localpart, hName, hTarget, hFalse⟩ := (mem_syncTrust hSeveral).mp hCall
      have hSame := (UserId.localpart_of_parse (noColon_of_mem hName) hTarget).1
      rcases h localpart hName with hHome | hSettled
      · rwa [hSame]
      · exact absurd hFalse (hSettled call.1 hEntry call.2 hTarget)
  · apply iff_of_true _ (.inl hSingle)
    intro call hCall
    simp [syncTrust, hSingle] at hCall

/-- A user of some name on some server. -/
def named (localpart serverName : String) (noColon : ':' ∉ localpart.toList := by decide) :
    UserId :=
  ⟨localpart, serverName, noColon⟩

/-- A client that has verified the given users and nobody else. -/
def clientOf (userId : UserId) (users : List UserId) : TrustEntry :=
  ⟨userId, some users, fun user => some (users.contains user)⟩

/-- The worker of one server has verified a stranger's `admin`, and the worker
of the other one is told to verify its own server's `admin`. -/
theorem not_syncTrust_unamplified :
    ¬ Unamplified
      [clientOf (named "worker" "ca1.example") [named "admin" "evil.example"],
        clientOf (named "worker" "ca2.example") []]
      (syncTrust (fun _ _ => true)
        [clientOf (named "worker" "ca1.example") [named "admin" "evil.example"],
          clientOf (named "worker" "ca2.example") []]) := by
  decide

end Mxdx.MatrixClient
