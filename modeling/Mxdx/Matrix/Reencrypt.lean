import Mxdx.Matrix.Account

/-! Rooms of a launcher that are not properly encrypted are replaced: a new room is
made, the old one gets a tombstone and is left. Only making the room has to succeed. -/
namespace Mxdx.MatrixClient

open Automaton Redirect
open Worker (Value)

/-- Only a room whose state is encrypted may stay. -/
def needsReplace : Option EncryptionState → Bool
  | none => true
  | some encryption =>
      encryption.algorithm ≠ "m.megolm.v1.aes-sha2" || !encryption.encryptStateEvents

/-- What the calls for one room meet: the request for its encryption and that for a
new room, and whether the tombstone and the leaving take effect. -/
structure HealAnswer where
  read : Except String Unit
  create : CreateAnswer
  tombstoned : Bool
  left : Bool

def Room.withTombstone (room : Room) (newId : String) : Room :=
  { room with tombstone := some (.obj [
    ("body", .str "This room has been replaced"), ("replacement_room", .str newId)]) }

namespace Account

/-- The old room points to the new one. -/
def putTombstone (account : Account) (roomId newId : String) : Account :=
  { account with
    rooms := Function.update account.rooms roomId
      ((account.rooms roomId).map fun room => room.withTombstone newId) }

/-- The account is no member any more. -/
def leaveRoom (account : Account) (roomId : String) : Account :=
  { account with joined := account.joined.filter (· ≠ roomId) }

/-- A room that may stay is left as it is. -/
def ensureEncrypted (account : Account) (launcherId : String) (answer : HealAnswer)
    (roomId : String) (role : Role) : Except String String × Account :=
  match answer.read.bind fun _ => account.view.getRoomEncryption roomId with
  | .error error => (.error error, account)
  | .ok encryption =>
      if needsReplace encryption then
        match account.createRoom launcherId role false answer.create with
        | (.error error, account) => (.error error, account)
        | (.ok newId, account) =>
            let account := if answer.tombstoned then account.putTombstone roomId newId else account
            (.ok newId, if answer.left then account.leaveRoom roomId else account)
      else (.ok roomId, account)

/-- The rooms are healed one by one; the first failure ends it. -/
def verifyOrReplaceTopology (account : Account) (launcherId : String)
    (answers : Role → HealAnswer) (topology : LauncherTopology) :
    Except String LauncherTopology × Account :=
  match account.ensureEncrypted launcherId (answers .space) topology.spaceId .space with
  | (.error error, account) => (.error error, account)
  | (.ok spaceId, account) =>
      match account.ensureEncrypted launcherId (answers .exec) topology.execRoomId .exec with
      | (.error error, account) => (.error error, account)
      | (.ok execRoomId, account) =>
          match account.ensureEncrypted launcherId (answers .logs) topology.logsRoomId .logs with
          | (.error error, account) => (.error error, account)
          | (.ok logsRoomId, account) => (.ok ⟨spaceId, execRoomId, logsRoomId⟩, account)

/-- The room is there, and its encryption is not what it should be. -/
def unencrypted (account : Account) (roomId : String) : Bool :=
  match account.rooms roomId with
  | some room => needsReplace (room.encryption.map EncryptionState.fromContent)
  | none => false

/-- The rooms of the topology are there and not replaced yet. -/
def Live (account : Account) (topology : LauncherTopology) : Prop :=
  ∀ role, ∃ room, account.rooms (topology.room role) = some room ∧ room.tombstone = none

/-- In any order of the list the topology is found again, and looking after it once
more changes nothing. -/
structure Stable (launcherId : String) (account : Account) (topology : LauncherTopology) :
    Prop where
  finds : account.Finds launcherId topology
  unchanged : ∀ answers, (account.verifyOrReplaceTopology launcherId answers topology).2 = account
  again : ∀ answers, (∀ role, (answers role).read = .ok ()) →
    (account.verifyOrReplaceTopology launcherId answers topology).1 = .ok topology

/-- The call takes the room out of the way: it is left, or leads within nine
tombstones to a room that gets one. -/
def Retires (account : Account) (topology : LauncherTopology) (answers : Role → HealAnswer)
    (roomId : String) : Prop :=
  (∃ role, account.unencrypted (topology.room role) = true ∧ (answers role).left = true ∧
      topology.room role = roomId) ∨
    ∃ role, account.unencrypted (topology.room role) = true ∧ (answers role).tombstoned = true ∧
      topology.room role = follow account.view.replacement 9 roomId

/-- Whatever stands for a role whose room is replaced is taken out of the way. -/
def RetiresAll (account : Account) (launcherId : String) (topology : LauncherTopology)
    (answers : Role → HealAnswer) : Prop :=
  ∀ role, account.unencrypted (topology.room role) = true → ∀ roomId ∈ account.joined,
    (account.view.leadsTo launcherId role roomId).isSome = true →
      account.Retires topology answers roomId

variable {account : Account} {launcherId roomId : String} {topology : LauncherTopology}
  {answers : Role → HealAnswer}

theorem Live.isSome (h : account.Live topology) (role : Role) :
    (account.rooms (topology.room role)).isSome = true := by
  obtain ⟨room, hRoom, -⟩ := h role
  rw [hRoom]
  rfl

theorem getRoomEncryption_view {room : Room} (hRoom : account.rooms roomId = some room) :
    account.view.getRoomEncryption roomId =
      .ok (room.encryption.map EncryptionState.fromContent) := by
  simp only [RestClient.getRoomEncryption, view, rest, hRoom]
  rfl

/-- A room that is properly encrypted is left alone. -/
theorem ensureEncrypted_of_encrypted {answer : HealAnswer} {role : Role} {room : Room}
    (hRoom : account.rooms roomId = some room) (hEncrypted : account.unencrypted roomId = false) :
    account.ensureEncrypted launcherId answer roomId role =
      (answer.read.map fun _ => roomId, account) := by
  have hKeep : needsReplace (room.encryption.map EncryptionState.fromContent) = false := by
    simpa [unencrypted, hRoom] using hEncrypted
  rw [ensureEncrypted, getRoomEncryption_view hRoom]
  cases answer.read with
  | error error => rfl
  | ok read => simp [Except.bind, Except.map, hKeep]

/-- What a call that replaces the room has done to the account. -/
structure Replaced (account : Account) (launcherId : String) (answer : HealAnswer)
    (roomId : String) (role : Role) (after : Account) : Prop where
  isRoomId : after.isRoomId = account.isRoomId
  rooms : ∀ other, after.rooms other =
    let made := if other = answer.create.roomId then some (newRoom launcherId role false)
      else account.rooms other
    if answer.tombstoned = true ∧ other = roomId then
      made.map fun room => room.withTombstone answer.create.roomId
    else made
  joined : ∀ other, other ∈ after.joined ↔
    (other = answer.create.roomId ∨ other ∈ account.joined) ∧
      (answer.left = true → other ≠ roomId)

theorem replaced_made (account : Account) (launcherId : String) (answer : HealAnswer)
    (roomId : String) (role : Role) :
    let made := account.add answer.create.roomId (newRoom launcherId role false)
    let marked := if answer.tombstoned then made.putTombstone roomId answer.create.roomId else made
    account.Replaced launcherId answer roomId role
      (if answer.left then marked.leaveRoom roomId else marked) := by
  intro made marked
  have hRooms : (if answer.left then marked.leaveRoom roomId else marked).rooms =
      marked.rooms := by
    split <;> rfl
  have hMade : ∀ other, made.rooms other =
      if other = answer.create.roomId then some (newRoom launcherId role false)
      else account.rooms other :=
    fun other => Function.update_apply ..
  have hJoined : marked.joined = answer.create.roomId :: account.joined := by
    simp only [marked]
    split <;> rfl
  refine ⟨?_, ?_, ?_⟩
  · simp only [marked]
    split <;> split <;> rfl
  · intro other
    rw [hRooms]
    dsimp only
    rw [← hMade]
    simp only [marked]
    by_cases hTombstoned : answer.tombstoned = true
    · have hMarked : (made.putTombstone roomId answer.create.roomId).rooms other =
          if other = roomId then
            (made.rooms roomId).map fun room => room.withTombstone answer.create.roomId
          else made.rooms other :=
        Function.update_apply ..
      rw [if_pos hTombstoned, hMarked]
      by_cases hSame : other = roomId
      · rw [if_pos hSame, if_pos ⟨hTombstoned, hSame⟩, hSame]
      · rw [if_neg hSame, if_neg fun h => hSame h.2]
    · rw [if_neg hTombstoned, if_neg fun h => hTombstoned h.1]
  · intro other
    by_cases hLeft : answer.left = true
    · simp [hLeft, leaveRoom, hJoined, or_and_right]
    · simp [hLeft, hJoined]

/-- Once a new room is made, the call for a room that needs one succeeds. -/
theorem replaced_of_unencrypted {answer : HealAnswer} {role : Role} {room : Room}
    {newId : String} {after : Account} (hRoom : account.rooms roomId = some room)
    (hUnencrypted : account.unencrypted roomId = true)
    (h : account.ensureEncrypted launcherId answer roomId role = (.ok newId, after)) :
    newId = answer.create.roomId ∧ account.Replaced launcherId answer roomId role after := by
  have hNeeds : needsReplace (room.encryption.map EncryptionState.fromContent) = true := by
    simpa [unencrypted, hRoom] using hUnencrypted
  rw [ensureEncrypted, getRoomEncryption_view hRoom] at h
  cases hRead : answer.read with
  | error error => simp [hRead, Except.bind] at h
  | ok read =>
      cases hOutcome : answer.create.outcome with
      | refused error => simp [hRead, Except.bind, hNeeds, createRoom, hOutcome] at h
      | lost error => simp [hRead, Except.bind, hNeeds, createRoom, hOutcome] at h
      | answered =>
          simp only [hRead, Except.bind, hNeeds, createRoom, hOutcome, if_true, Prod.mk.injEq,
            Except.ok.injEq] at h
          obtain ⟨rfl, rfl⟩ := h
          exact ⟨rfl, replaced_made ..⟩

/-- The account after the rooms of some roles have been replaced. -/
structure Healed (before : Account) (launcherId : String) (topology : LauncherTopology)
    (answers : Role → HealAnswer) (renewed : Role → Prop) (after : Account) : Prop where
  isRoomId : after.isRoomId = before.isRoomId
  joined : ∀ roomId, roomId ∈ after.joined ↔
    (roomId ∈ before.joined ∧ ∀ role, renewed role → (answers role).left = true →
        topology.room role ≠ roomId) ∨
      ∃ role, renewed role ∧ (answers role).create.roomId = roomId
  new : ∀ role, renewed role →
    after.rooms (answers role).create.roomId = some (newRoom launcherId role false)
  old : ∀ roomId, (∀ role, renewed role → (answers role).create.roomId ≠ roomId) →
    (after.rooms roomId = before.rooms roomId ∧ ∀ role, renewed role →
        (answers role).tombstoned = true → topology.room role ≠ roomId) ∨
      (∃ role, renewed role ∧ after.rooms roomId = (before.rooms roomId).map fun room =>
          room.withTombstone (answers role).create.roomId) ∧
        ∃ role, renewed role ∧ (answers role).tombstoned = true ∧ topology.room role = roomId

theorem healed_refl (account : Account) (launcherId : String) (topology : LauncherTopology)
    (answers : Role → HealAnswer) :
    account.Healed launcherId topology answers (fun _ => False) account where
  isRoomId := rfl
  joined := by simp
  new := by simp
  old := by simp

section Healed

variable {before after : Account} {renewed : Role → Prop}
  (h : before.Healed launcherId topology answers renewed after)
  (hNew : before.New fun role => (answers role).create)
  (hLive : before.Live topology)

include hNew in
/-- A room that was there before is none of the new ones. -/
theorem New.ne_of_isSome (hRoom : (before.rooms roomId).isSome = true) (role : Role) :
    (answers role).create.roomId ≠ roomId := by
  rintro rfl
  have hNone : before.rooms (answers role).create.roomId = none := hNew.new role
  rw [hNone] at hRoom
  cases hRoom

include h

/-- Neither what a room declares nor its encryption changes. -/
theorem Healed.kept (hOther : ∀ role, renewed role → (answers role).create.roomId ≠ roomId) :
    (after.rooms roomId).map Room.create = (before.rooms roomId).map Room.create ∧
      (after.rooms roomId).map Room.encryption = (before.rooms roomId).map Room.encryption := by
  rcases h.old roomId hOther with ⟨hSame, -⟩ | ⟨⟨role, -, hMarked⟩, -⟩
  · rw [hSame]
    exact ⟨rfl, rfl⟩
  · rw [hMarked, Option.map_map, Option.map_map]
    exact ⟨rfl, rfl⟩

include hNew

theorem Healed.unencrypted_eq (hRoom : (before.rooms roomId).isSome = true) :
    after.unencrypted roomId = before.unencrypted roomId ∧
      (after.rooms roomId).isSome = true := by
  have hKept := (h.kept fun role _ => New.ne_of_isSome hNew hRoom role).2
  unfold unencrypted
  cases hBefore : before.rooms roomId with
  | none =>
      rw [hBefore] at hRoom
      cases hRoom
  | some room =>
      cases hAfter : after.rooms roomId with
      | none =>
          rw [hBefore, hAfter] at hKept
          cases hKept
      | some now =>
          rw [hBefore, hAfter] at hKept
          have hEncryption : now.encryption = room.encryption := Option.some.inj hKept
          simp [hEncryption]

/-- The rooms of one more role are replaced. -/
theorem Healed.step {role : Role} (hRoom : (before.rooms (topology.room role)).isSome = true)
    {next : Account}
    (hReplaced : after.Replaced launcherId (answers role) (topology.room role) role next) :
    before.Healed launcherId topology answers (fun other => renewed other ∨ other = role) next := by
  have hApart : ∀ other, (answers other).create.roomId ≠ topology.room role :=
    New.ne_of_isSome hNew hRoom
  constructor
  · exact hReplaced.isRoomId.trans h.isRoomId
  · intro roomId
    rw [hReplaced.joined, h.joined]
    constructor
    · rintro ⟨rfl | ⟨hJoined, hKept⟩ | ⟨other, hOther, rfl⟩, hLeft⟩
      · exact .inr ⟨role, .inr rfl, rfl⟩
      · refine .inl ⟨hJoined, ?_⟩
        rintro other (hOther | rfl) hAnswer
        · exact hKept other hOther hAnswer
        · exact (hLeft hAnswer).symm
      · exact .inr ⟨other, .inl hOther, rfl⟩
    · rintro (⟨hJoined, hKept⟩ | ⟨other, hOther | rfl, rfl⟩)
      · exact ⟨.inr (.inl ⟨hJoined, fun other hOther => hKept other (.inl hOther)⟩),
          fun hLeft => (hKept role (.inr rfl) hLeft).symm⟩
      · exact ⟨.inr (.inr ⟨other, hOther, rfl⟩), fun _ => hApart other⟩
      · exact ⟨.inl rfl, fun _ => hApart other⟩
  · intro other hOther
    rw [hReplaced.rooms]
    dsimp only
    rw [if_neg fun hSame => hApart other hSame.2]
    by_cases hSame : other = role
    · rw [hSame, if_pos rfl]
    · rw [if_neg fun hIds => hSame (hNew.distinct hIds)]
      exact h.new other (hOther.resolve_right hSame)
  · intro roomId hOld
    have hNe : roomId ≠ (answers role).create.roomId := (hOld role (.inr rfl)).symm
    have hRooms := hReplaced.rooms roomId
    dsimp only at hRooms
    rw [if_neg hNe] at hRooms
    have hBefore := h.old roomId fun other hOther => hOld other (.inl hOther)
    by_cases hMarked : (answers role).tombstoned = true ∧ roomId = topology.room role
    · right
      refine ⟨⟨role, .inr rfl, ?_⟩, role, .inr rfl, hMarked.1, hMarked.2.symm⟩
      rw [hRooms, if_pos hMarked]
      rcases hBefore with ⟨hSame, -⟩ | ⟨⟨other, -, hOther⟩, -⟩
      · rw [hSame]
      · rw [hOther, Option.map_map]
        rfl
    · rw [hRooms, if_neg hMarked]
      rcases hBefore with ⟨hSame, hKept⟩ | ⟨⟨one, hOne, hMark⟩, other, hOther, hRest⟩
      · left
        refine ⟨hSame, ?_⟩
        rintro other (hOther | rfl) hAnswer
        · exact hKept other hOther hAnswer
        · exact fun hEq => hMarked ⟨hAnswer, hEq.symm⟩
      · exact .inr ⟨⟨one, .inl hOne, hMark⟩, other, .inl hOther, hRest⟩

include hLive

/-- The call for the room of one role: it is left as it is, or replaced. -/
theorem Healed.ensureEncrypted {role : Role} {newId : String} {next : Account}
    (hOk : after.ensureEncrypted launcherId (answers role) (topology.room role) role =
      (.ok newId, next)) :
    newId = (if before.unencrypted (topology.room role) then (answers role).create.roomId
        else topology.room role) ∧
      before.Healed launcherId topology answers
        (fun other => renewed other ∨ other = role ∧ before.unencrypted (topology.room role) = true)
        next ∧
      (before.unencrypted (topology.room role) = false → next = after) := by
  have hRoom := hLive.isSome role
  obtain ⟨hUnencrypted, hAfter⟩ := h.unencrypted_eq hNew hRoom
  obtain ⟨room, hThere⟩ := Option.isSome_iff_exists.mp hAfter
  cases hBefore : before.unencrypted (topology.room role) with
  | false =>
      rw [ensureEncrypted_of_encrypted hThere (hUnencrypted.trans hBefore)] at hOk
      cases hRead : (answers role).read with
      | error error => simp [hRead, Except.map] at hOk
      | ok read =>
          simp only [hRead, Except.map, Prod.mk.injEq, Except.ok.injEq] at hOk
          obtain ⟨rfl, rfl⟩ := hOk
          exact ⟨rfl, by simpa using h, fun _ => rfl⟩
  | true =>
      obtain ⟨hId, hReplaced⟩ :=
        replaced_of_unencrypted hThere (hUnencrypted.trans hBefore) hOk
      exact ⟨hId, by simpa using h.step hNew hRoom hReplaced, fun hFalse => by cases hFalse⟩

end Healed

section Views

variable {before after : Account} {renewed : Role → Prop}
  (h : before.Healed launcherId topology answers renewed after)
  (hNew : before.New fun role => (answers role).create)
  (hLive : before.Live topology)

theorem replacement_withTombstone {isRoomId : String → Bool} {newId : String}
    (hValid : isRoomId newId = true) (room : Room) :
    Room.replacement isRoomId (room.withTombstone newId) = some newId := by
  have hNamed : ((room.withTombstone newId).tombstone.bind fun content =>
      (content.get? "replacement_room").bind Json.asStr) = some newId := rfl
  rw [Room.replacement, hNamed]
  exact Option.filter_some_pos hValid

theorem Live.replacement_eq_none (hLive : account.Live topology) (role : Role) :
    account.view.replacement (topology.room role) = none := by
  obtain ⟨room, hRoom, hTombstone⟩ := hLive role
  rw [replacement_view, hRoom, Option.bind_some, Room.replacement, hTombstone]
  rfl

include hNew in
theorem New.replacement_eq_none (role : Role) :
    before.view.replacement (answers role).create.roomId = none :=
  replacement_new (hNew.new role)

include h

theorem Healed.role_new {role : Role} (hRenewed : renewed role) :
    after.view.role launcherId (answers role).create.roomId = some role := by
  rw [role_view, h.new role hRenewed, Option.bind_some]
  exact declaredRole_creationContent launcherId role false

theorem Healed.role_old (hOther : ∀ role, renewed role → (answers role).create.roomId ≠ roomId) :
    after.view.role launcherId roomId = before.view.role launcherId roomId := by
  have hKept := (h.kept hOther).1
  have hRole : ∀ room : Option Room, (room.bind fun room => declaredRole launcherId room.create) =
      (room.map Room.create).bind (declaredRole launcherId) := by
    intro room
    cases room <;> rfl
  rw [role_view, role_view, hRole, hRole, hKept]

theorem Healed.replacement_new {role : Role} (hRenewed : renewed role) :
    after.view.replacement (answers role).create.roomId = none := by
  rw [replacement_view, h.new role hRenewed]
  rfl

/-- A new room leads to itself, for its own role. -/
theorem Healed.leadsTo_new {role : Role} (hRenewed : renewed role) (other : Role) :
    after.view.leadsTo launcherId other (answers role).create.roomId =
      if role = other then some (answers role).create.roomId else none := by
  rw [RestClient.leadsTo, follow_of_none (h.replacement_new hRenewed), h.role_new hRenewed]
  simp only [Option.some.injEq]

include hNew hLive

/-- A tombstone that is new stands where there was none, and leads to a new room. -/
theorem Healed.replacement_old (roomId : String) :
    (after.view.replacement roomId = before.view.replacement roomId ∧
        ∀ role, renewed role → (answers role).tombstoned = true → topology.room role ≠ roomId) ∨
      before.view.replacement roomId = none ∧
        (∃ role, renewed role ∧
          after.view.replacement roomId = some (answers role).create.roomId) ∧
        ∃ role, renewed role ∧ (answers role).tombstoned = true ∧ topology.room role = roomId := by
  by_cases hOther : ∀ role, renewed role → (answers role).create.roomId ≠ roomId
  · rcases h.old roomId hOther with ⟨hSame, hKept⟩ | ⟨⟨role, hRenewed, hMarked⟩, marked, hRest⟩
    · left
      rw [replacement_view, replacement_view, hSame, h.isRoomId]
      exact ⟨rfl, hKept⟩
    · right
      obtain ⟨room, hRoom, -⟩ := hLive marked
      rw [hRest.2.2] at hRoom
      refine ⟨hRest.2.2 ▸ hLive.replacement_eq_none marked, ⟨role, hRenewed, ?_⟩, marked, hRest⟩
      rw [replacement_view, hMarked, hRoom, Option.map_some, Option.bind_some, h.isRoomId]
      exact replacement_withTombstone (hNew.valid role) room
  · push Not at hOther
    obtain ⟨role, hRenewed, rfl⟩ := hOther
    left
    rw [h.replacement_new hRenewed, hNew.replacement_eq_none]
    exact ⟨rfl, fun other _ _ hSame => New.ne_of_isSome hNew (hLive.isSome other) role hSame.symm⟩

/-- Whatever had a tombstone keeps it. -/
theorem Healed.replacement_kept {target : String}
    (hTarget : before.view.replacement roomId = some target) :
    after.view.replacement roomId = some target := by
  rcases h.replacement_old hNew hLive roomId with ⟨hSame, -⟩ | ⟨hNone, -⟩
  · rw [hSame, hTarget]
  · rw [hTarget] at hNone
    cases hNone

/-- A room that leads to one with a new tombstone leads on to a new room. -/
theorem Healed.leadsTo_marked {marked : Role} (hMarked : renewed marked)
    (hTombstoned : (answers marked).tombstoned = true)
    (hEnd : topology.room marked = follow before.view.replacement 9 roomId) :
    ∃ role, renewed role ∧ ∀ other, after.view.leadsTo launcherId other roomId =
      if role = other then some (answers role).create.roomId else none := by
  rcases h.replacement_old hNew hLive (topology.room marked) with
    ⟨-, hKept⟩ | ⟨hNone, ⟨role, hRenewed, hTarget⟩, -⟩
  · exact absurd rfl (hKept marked hMarked hTombstoned)
  · refine ⟨role, hRenewed, fun other => ?_⟩
    have hFollow : follow after.view.replacement RestClient.tombstoneLimit roomId =
        (answers role).create.roomId :=
      follow_patched (fun _ _ => h.replacement_kept hNew hLive) (hEnd ▸ hTarget) (hEnd ▸ hNone)
        (h.replacement_new hRenewed)
    rw [RestClient.leadsTo, hFollow, h.role_new hRenewed]
    simp only [Option.some.injEq]

/-- Every other room leads where it did before, or to a new room. -/
theorem Healed.leadsTo_unmarked
    (hUnmarked : ∀ role, renewed role → (answers role).tombstoned = true →
      topology.room role ≠ follow before.view.replacement 9 roomId) (other : Role) :
    after.view.leadsTo launcherId other roomId = before.view.leadsTo launcherId other roomId ∨
      before.view.leadsTo launcherId other roomId = none ∧
        ∃ role, renewed role ∧ after.view.leadsTo launcherId other roomId =
          if role = other then some (answers role).create.roomId else none := by
  have hSame : after.view.replacement (follow before.view.replacement 9 roomId) =
      before.view.replacement (follow before.view.replacement 9 roomId) := by
    rcases h.replacement_old hNew hLive (follow before.view.replacement 9 roomId) with
      ⟨hSame, -⟩ | ⟨-, -, role, hRenewed, hTombstoned, hEnd⟩
    · exact hSame
    · exact absurd hEnd (hUnmarked role hRenewed hTombstoned)
  have hFollow : follow after.view.replacement RestClient.tombstoneLimit roomId =
      follow before.view.replacement RestClient.tombstoneLimit roomId :=
    follow_unpatched (fun _ _ => h.replacement_kept hNew hLive) hSame
  by_cases hOld : ∀ role, renewed role → (answers role).create.roomId ≠
      follow before.view.replacement RestClient.tombstoneLimit roomId
  · left
    rw [RestClient.leadsTo, RestClient.leadsTo, hFollow, h.role_old hOld]
  · right
    push Not at hOld
    obtain ⟨role, hRenewed, hEnd⟩ := hOld
    have hUnknown : before.view.role launcherId (answers role).create.roomId = none :=
      Account.role_new (hNew.new role)
    constructor
    · simp [RestClient.leadsTo, ← hEnd, hUnknown]
    · refine ⟨role, hRenewed, ?_⟩
      rw [RestClient.leadsTo, hFollow, ← hEnd, h.role_new hRenewed]
      simp only [Option.some.injEq]

end Views

/-- Everything that a call which returns a topology has done. -/
theorem healed_verify {before after : Account} {renewed : LauncherTopology}
    (hNew : before.New fun role => (answers role).create) (hLive : before.Live topology)
    (hOk : before.verifyOrReplaceTopology launcherId answers topology = (.ok renewed, after)) :
    before.Healed launcherId topology answers
        (fun role => before.unencrypted (topology.room role) = true) after ∧
      (∀ role, renewed.room role =
        if before.unencrypted (topology.room role) then (answers role).create.roomId
        else topology.room role) ∧
      ((∀ role, before.unencrypted (topology.room role) = false) → after = before) := by
  unfold verifyOrReplaceTopology at hOk
  rcases hSpace : before.ensureEncrypted launcherId (answers .space) topology.spaceId .space with
    ⟨error | spaceId, first⟩
  · simp [hSpace] at hOk
  obtain ⟨hSpaceId, hHealed, hSame⟩ :=
    (healed_refl before launcherId topology answers).ensureEncrypted hNew hLive hSpace
  rcases hExec : first.ensureEncrypted launcherId (answers .exec) topology.execRoomId .exec with
    ⟨error | execRoomId, second⟩
  · simp [hSpace, hExec] at hOk
  obtain ⟨hExecId, hHealed', hSame'⟩ := hHealed.ensureEncrypted hNew hLive hExec
  rcases hLogs : second.ensureEncrypted launcherId (answers .logs) topology.logsRoomId .logs with
    ⟨error | logsRoomId, third⟩
  · simp [hSpace, hExec, hLogs] at hOk
  obtain ⟨hLogsId, hHealed'', hSame''⟩ := hHealed'.ensureEncrypted hNew hLive hLogs
  simp only [hSpace, hExec, hLogs, Prod.mk.injEq, Except.ok.injEq] at hOk
  obtain ⟨rfl, rfl⟩ := hOk
  refine ⟨?_, ?_, ?_⟩
  · convert hHealed'' using 2 with role
    cases role <;> simp [LauncherTopology.room]
  · intro role
    cases role with
    | space => exact hSpaceId
    | exec => exact hExecId
    | logs => exact hLogsId
  · intro hNone
    rw [hSame'' (hNone .logs), hSame' (hNone .exec), hSame (hNone .space)]

section Discovery

variable {before after : Account}
  (h : before.Healed launcherId topology answers
    (fun role => before.unencrypted (topology.room role) = true) after)
  (hNew : before.New fun role => (answers role).create)
  (hLive : before.Live topology)
include h hNew hLive

/-- What is found for a role is its new room, or what was found before from a room that
was not taken out of the way. -/
theorem Healed.leads_cases {role : Role} {room roomId : String} (hJoined : roomId ∈ after.joined)
    (hLeads : after.view.leadsTo launcherId role roomId = some room) :
    (before.unencrypted (topology.room role) = true ∧ room = (answers role).create.roomId) ∨
      (roomId ∈ before.joined ∧ ¬ before.Retires topology answers roomId ∧
        before.view.leadsTo launcherId role roomId = some room) := by
  have hFound : ∀ next, before.unencrypted (topology.room next) = true →
      (if next = role then some (answers next).create.roomId else none) = some room →
        before.unencrypted (topology.room role) = true ∧ room = (answers role).create.roomId := by
    intro next hNext hSome
    split at hSome
    next hRole => exact ⟨hRole ▸ hNext, hRole ▸ (Option.some.inj hSome).symm⟩
    · cases hSome
  rcases (h.joined roomId).mp hJoined with ⟨hOld, hNotLeft⟩ | ⟨next, hNext, rfl⟩
  · by_cases hMarked : ∃ other, before.unencrypted (topology.room other) = true ∧
        (answers other).tombstoned = true ∧
          topology.room other = follow before.view.replacement 9 roomId
    · obtain ⟨other, hOther, hTombstoned, hEnd⟩ := hMarked
      obtain ⟨next, hNext, hLeadsTo⟩ := h.leadsTo_marked hNew hLive hOther hTombstoned hEnd
      exact .inl (hFound next hNext (hLeadsTo role ▸ hLeads))
    · rcases h.leadsTo_unmarked hNew hLive
        (fun other hOther hTombstoned hEnd => hMarked ⟨other, hOther, hTombstoned, hEnd⟩) role
        with hSame | ⟨-, next, hNext, hLeadsTo⟩
      · refine .inr ⟨hOld, ?_, hSame ▸ hLeads⟩
        rintro (⟨other, hOther, hLeft, hEq⟩ | hEnd)
        · exact hNotLeft other hOther hLeft hEq
        · exact hMarked hEnd
      · exact .inl (hFound next hNext (hLeadsTo ▸ hLeads))
  · rw [h.leadsTo_new hNext] at hLeads
    exact .inl (hFound next hNext hLeads)

/-- The new room is all that is found for a role exactly when everything that stood
for the role has been taken out of the way. -/
theorem Healed.leads_renewed_iff (role : Role) :
    (∀ room, after.Leads launcherId role room → room = (answers role).create.roomId) ↔
      ∀ roomId ∈ before.joined, (before.view.leadsTo launcherId role roomId).isSome = true →
        before.Retires topology answers roomId := by
  constructor
  · intro hOnly roomId hJoined hLeads
    obtain ⟨room, hRoom⟩ := Option.isSome_iff_exists.mp hLeads
    by_contra hNot
    rw [Retires, not_or] at hNot
    have hStays : roomId ∈ after.joined :=
      (h.joined roomId).mpr (.inl ⟨hJoined, fun other hOther hLeft hSame =>
        hNot.1 ⟨other, hOther, hLeft, hSame⟩⟩)
    have hUnmarked := h.leadsTo_unmarked hNew hLive
      (fun other hOther hTombstoned hEnd => hNot.2 ⟨other, hOther, hTombstoned, hEnd⟩) role
    have hSame : after.view.leadsTo launcherId role roomId = some room := by
      rcases hUnmarked with hSame | ⟨hNone, -⟩
      · rw [hSame, hRoom]
      · rw [hRoom] at hNone
        cases hNone
    have hNewRoom := hOnly room ⟨roomId, hStays, hSame⟩
    have hKnown := role_of_leadsTo hRoom
    rw [hNewRoom, Account.role_new (hNew.new role)] at hKnown
    cases hKnown
  · rintro hRetired room ⟨roomId, hJoined, hLeads⟩
    rcases h.leads_cases hNew hLive hJoined hLeads with ⟨-, hNewRoom⟩ | ⟨hOld, hStays, hBefore⟩
    · exact hNewRoom
    · exact absurd (hRetired roomId hOld (by rw [hBefore]; rfl)) hStays

/-- Nothing new is found for a role whose room is kept. -/
theorem Healed.leads_kept {role : Role} {room : String}
    (hKept : before.unencrypted (topology.room role) = false)
    (hLeads : after.Leads launcherId role room) : before.Leads launcherId role room := by
  obtain ⟨roomId, hJoined, hRoom⟩ := hLeads
  rcases h.leads_cases hNew hLive hJoined hRoom with ⟨hRenewed, -⟩ | ⟨hOld, -, hBefore⟩
  · rw [hKept] at hRenewed
    cases hRenewed
  · exact ⟨roomId, hOld, hBefore⟩

/-- A room that is kept is found as before. -/
theorem Healed.leads_of_kept {role : Role}
    (hKept : before.unencrypted (topology.room role) = false)
    (hLeads : before.Leads launcherId role (topology.room role)) :
    after.Leads launcherId role (topology.room role) := by
  have hNever : ∀ other, before.unencrypted (topology.room other) = true →
      topology.room other ≠ topology.room role := by
    intro other hOther hSame
    rw [hSame, hKept] at hOther
    cases hOther
  obtain ⟨roomId, hJoined, hRoom⟩ := hLeads
  have hEnd : follow before.view.replacement RestClient.tombstoneLimit roomId =
      topology.room role := by
    simp only [RestClient.leadsTo] at hRoom
    split at hRoom
    · exact Option.some.inj hRoom
    · cases hRoom
  have hUnmarked : ∀ other, before.unencrypted (topology.room other) = true →
      (answers other).tombstoned = true →
        topology.room other ≠ follow before.view.replacement 9 roomId := by
    intro other hOther _ hMarked
    have hLast := follow_succ_of_end (hMarked ▸ hLive.replacement_eq_none other)
    exact hNever other hOther (hMarked.trans (hLast.symm.trans hEnd))
  refine ⟨roomId, (h.joined roomId).mpr (.inl ⟨hJoined, ?_⟩), ?_⟩
  · rintro other hOther - rfl
    rw [follow_of_none (hLive.replacement_eq_none other)] at hEnd
    exact hNever other hOther hEnd
  · rcases h.leadsTo_unmarked hNew hLive hUnmarked role with hSame | ⟨hNone, -⟩
    · rw [hSame, hRoom]
    · rw [hRoom] at hNone
      cases hNone

omit hLive in
theorem Healed.valid (hValid : before.Valid) : after.Valid := by
  intro roomId hJoined
  rw [h.isRoomId]
  rcases (h.joined roomId).mp hJoined with ⟨hOld, -⟩ | ⟨role, -, rfl⟩
  · exact hValid roomId hOld
  · exact hNew.valid role

/-- Once a room is replaced, what is found does not depend on the order of the list
exactly when nothing old is left to be found. -/
theorem Healed.finds_iff (hValid : before.Valid) (hFinds : before.Finds launcherId topology)
    {renewed : LauncherTopology}
    (hRooms : ∀ role, renewed.room role =
      if before.unencrypted (topology.room role) then (answers role).create.roomId
      else topology.room role)
    {replaced : Role} (hReplaced : before.unencrypted (topology.room replaced) = true) :
    after.Finds launcherId renewed ↔ before.RetiresAll launcherId topology answers := by
  have hKept : ∀ role, before.unencrypted (topology.room role) = false →
      before.Leads launcherId role (topology.room role) ∧
        ∀ room, before.Leads launcherId role room → room = topology.room role := by
    intro role hRole
    have hNe : topology.room replaced ≠ topology.room role := by
      intro hSame
      rw [hSame, hRole] at hReplaced
      cases hReplaced
    have hTotal := hFinds.total hValid hNe
    have hOnly := (Account.finds_iff hValid hTotal topology).mp hFinds role
    obtain ⟨room, hRoom⟩ := hTotal role
    exact ⟨hOnly room hRoom ▸ hRoom, hOnly⟩
  have hTotal : ∀ role, ∃ room, after.Leads launcherId role room := by
    intro role
    cases hRole : before.unencrypted (topology.room role) with
    | false => exact ⟨_, h.leads_of_kept hNew hLive hRole (hKept role hRole).1⟩
    | true =>
        refine ⟨(answers role).create.roomId, _, (h.joined _).mpr (.inr ⟨role, hRole, rfl⟩), ?_⟩
        rw [h.leadsTo_new hRole, if_pos rfl]
  rw [Account.finds_iff (h.valid hNew hValid) hTotal]
  refine forall_congr' fun role => ?_
  rw [hRooms]
  cases hRole : before.unencrypted (topology.room role) with
  | false =>
      apply iff_of_true
      · intro room hLeads
        exact (hKept role hRole).2 room (h.leads_kept hNew hLive hRole hLeads)
      · intro hTrue
        cases hTrue
  | true =>
      rw [if_pos rfl, h.leads_renewed_iff hNew hLive]
      exact ⟨fun hAll _ => hAll, fun hAll => hAll rfl⟩

end Discovery

/-- Where every room is properly encrypted, nothing is done. -/
theorem verify_of_encrypted (launcherId : String)
    (hThere : ∀ role, (account.rooms (topology.room role)).isSome = true)
    (hEncrypted : ∀ role, account.unencrypted (topology.room role) = false)
    (answers : Role → HealAnswer) :
    (account.verifyOrReplaceTopology launcherId answers topology).2 = account ∧
      ((∀ role, (answers role).read = .ok ()) →
        (account.verifyOrReplaceTopology launcherId answers topology).1 = .ok topology) := by
  have hCall : ∀ role, account.ensureEncrypted launcherId (answers role) (topology.room role) role =
      ((answers role).read.map fun _ => topology.room role, account) := by
    intro role
    obtain ⟨room, hRoom⟩ := Option.isSome_iff_exists.mp (hThere role)
    exact ensureEncrypted_of_encrypted hRoom (hEncrypted role)
  have hSpace := hCall .space
  have hExec := hCall .exec
  have hLogs := hCall .logs
  simp only [LauncherTopology.room] at hSpace hExec hLogs
  unfold verifyOrReplaceTopology
  constructor
  · rw [hSpace]
    cases (answers .space).read with
    | error error => rfl
    | ok read =>
        simp only [Except.map, hExec]
        cases (answers .exec).read with
        | error error => rfl
        | ok read =>
            simp only [Except.map, hLogs]
            cases (answers .logs).read <;> rfl
  · intro hRead
    simp only [hSpace, hExec, hLogs, hRead, Except.map]

theorem encrypted_newRoom (role : Role) :
    needsReplace ((newRoom launcherId role false).encryption.map EncryptionState.fromContent) =
      false := by
  show needsReplace (some (EncryptionState.fromContent recommendedEncryption)) = false
  decide

/-- What a call returns is there and properly encrypted. -/
theorem Healed.encrypted {before after : Account} {renewed : LauncherTopology}
    (h : before.Healed launcherId topology answers
      (fun role => before.unencrypted (topology.room role) = true) after)
    (hNew : before.New fun role => (answers role).create) (hLive : before.Live topology)
    (hRooms : ∀ role, renewed.room role =
      if before.unencrypted (topology.room role) then (answers role).create.roomId
      else topology.room role) (role : Role) :
    (after.rooms (renewed.room role)).isSome = true ∧
      after.unencrypted (renewed.room role) = false := by
  rw [hRooms]
  cases hRole : before.unencrypted (topology.room role) with
  | false =>
      obtain ⟨hSame, hThere⟩ := h.unencrypted_eq hNew (hLive.isSome role)
      exact ⟨hThere, hSame.trans hRole⟩
  | true =>
      have hRoom := h.new role hRole
      rw [if_pos rfl, hRoom]
      refine ⟨rfl, ?_⟩
      rw [unencrypted, hRoom]
      exact encrypted_newRoom role

/-- A healed topology is stable exactly when the old rooms are out of the way. -/
theorem stable_iff_retiresAll {before after : Account} {renewed : LauncherTopology}
    (hValid : before.Valid) (hFinds : before.Finds launcherId topology)
    (hLive : before.Live topology) (hNew : before.New fun role => (answers role).create)
    (hOk : before.verifyOrReplaceTopology launcherId answers topology = (.ok renewed, after)) :
    after.Stable launcherId renewed ↔ before.RetiresAll launcherId topology answers := by
  obtain ⟨hHealed, hRooms, hSame⟩ := healed_verify hNew hLive hOk
  have hEncrypted := hHealed.encrypted hNew hLive hRooms
  have hAgain := verify_of_encrypted launcherId (fun role => (hEncrypted role).1)
    fun role => (hEncrypted role).2
  have hFindsIff : after.Finds launcherId renewed ↔
      before.RetiresAll launcherId topology answers := by
    by_cases hReplaced : ∃ role, before.unencrypted (topology.room role) = true
    · obtain ⟨role, hRole⟩ := hReplaced
      exact hHealed.finds_iff hNew hLive hValid hFinds hRooms hRole
    · have hNone : ∀ role, before.unencrypted (topology.room role) = false := by
        simpa using hReplaced
      have hKept : renewed = topology := by
        apply LauncherTopology.ext_room
        intro role
        rw [hRooms, hNone role]
        rfl
      rw [hSame hNone, hKept]
      exact iff_of_true hFinds fun role hRole => by simp [hNone role] at hRole
  rw [← hFindsIff]
  exact ⟨Stable.finds, fun hAfter =>
    ⟨hAfter, fun answers => (hAgain answers).1, fun answers => (hAgain answers).2⟩⟩

def legacyRole : String → Option Role
  | "!space" => some .space
  | "!exec" => some .exec
  | "!logs" => some .logs
  | _ => none

/-- An account of old, none of whose rooms is encrypted. -/
def legacy : Account where
  isRoomId roomId := roomId.toList.head? = some '!'
  rooms roomId := (legacyRole roomId).map fun role =>
    ⟨mxdxCreationContent "belthanior" role (role = .space), none, none⟩
  joined := ["!space", "!exec", "!logs"]

def legacyTopology : LauncherTopology := ⟨"!space", "!exec", "!logs"⟩

def newId : Role → String
  | .space => "!space2"
  | .exec => "!exec2"
  | .logs => "!logs2"

/-- All rooms are replaced, and the old ones are left or not. -/
def replaced (left : Bool) (role : Role) : HealAnswer :=
  ⟨.ok (), ⟨newId role, .answered⟩, false, left⟩

def newTopology : LauncherTopology := ⟨"!space2", "!exec2", "!logs2"⟩

theorem live_legacy : legacy.Live legacyTopology := by
  intro role
  cases role <;> exact ⟨_, rfl, rfl⟩

theorem isRoomId_newId (role : Role) : legacy.isRoomId (newId role) = true := by
  cases role <;> decide

theorem new_legacy (left : Bool) : legacy.New fun role => (replaced left role).create := by
  constructor
  · exact isRoomId_newId
  · intro role
    cases role <;> rfl
  · intro first second hSame
    cases first <;> cases second <;> simp_all [replaced, newId]

theorem leadsTo_legacy (role : Role) (roomId : String) :
    legacy.view.leadsTo "belthanior" role roomId =
      if legacyRole roomId = some role then some roomId else none := by
  have hReplacement : legacy.view.replacement roomId = none := by
    rw [replacement_view, legacy]
    dsimp only
    cases legacyRole roomId <;> rfl
  have hRole : legacy.view.role "belthanior" roomId = legacyRole roomId := by
    rw [role_view, legacy]
    dsimp only
    cases legacyRole roomId with
    | none => rfl
    | some role => exact declaredRole_creationContent ..
  rw [RestClient.leadsTo, follow_of_none hReplacement, hRole]

theorem leads_legacy_iff {role : Role} {room : String} :
    legacy.Leads "belthanior" role room ↔ room = legacyTopology.room role := by
  constructor
  · rintro ⟨roomId, hJoined, hLeads⟩
    rw [leadsTo_legacy] at hLeads
    split at hLeads
    next hRole =>
      cases hLeads
      simp only [legacy, List.mem_cons, List.not_mem_nil, or_false] at hJoined
      rcases hJoined with rfl | rfl | rfl <;> cases hRole <;> rfl
    · cases hLeads
  · rintro rfl
    refine ⟨legacyTopology.room role, ?_, ?_⟩
    · cases role <;> decide
    · rw [leadsTo_legacy]
      cases role <;> rfl

theorem valid_legacy : legacy.Valid := by
  intro roomId hJoined
  simp only [legacy, List.mem_cons, List.not_mem_nil, or_false] at hJoined
  rcases hJoined with rfl | rfl | rfl <;> decide

theorem finds_legacy : legacy.Finds "belthanior" legacyTopology :=
  (finds_iff valid_legacy (fun _ => ⟨_, leads_legacy_iff.mpr rfl⟩) _).mpr
    fun _ _ => leads_legacy_iff.mp

/-- An account without any rooms, and the calls for the first three. -/
def blank : Account := { legacy with rooms := fun _ => none, joined := [] }

def firstLaunch (logs : CreateOutcome) : LaunchAnswers where
  listing := []
  create role := ⟨newId role, if role = .logs then logs else .answered⟩
  link := .ok ()

theorem honest_firstLaunch (logs : CreateOutcome) :
    blank.Honest "belthanior" (firstLaunch logs) := by
  refine ⟨List.Perm.refl _, fun _ => ⟨isRoomId_newId, fun _ => rfl, ?_⟩⟩
  intro first second hSame
  cases first <;> cases second <;> simp_all [firstLaunch, newId]

theorem valid_blank : blank.Valid := fun _ hJoined => by cases hJoined

theorem settles_blank : blank.Settles "belthanior" :=
  (settles_iff valid_blank).mpr fun ⟨_, _, hJoined, _⟩ => by cases hJoined

end Account

end Mxdx.MatrixClient
