import Mxdx.Worker.Task
import Mxdx.Foundations.Redirect

/-! The rooms of a launcher: a space, a room for commands and a room for logs.
They are found again by two fields of their `m.room.create`, read over REST room
by room; a tombstone leads from a room to its replacement. -/
namespace Mxdx.MatrixClient

open Redirect
open Worker (Value)

/-- What a room of the launcher is for. -/
inductive Role where
  | space
  | exec
  | logs
deriving DecidableEq

namespace Role

/-- The name of a role in the content of a room. -/
def key : Role → String
  | space => "space"
  | exec => "exec"
  | logs => "logs"

/-- The role of a name, if there is one. -/
def ofKey : String → Option Role
  | "space" => some space
  | "exec" => some exec
  | "logs" => some logs
  | _ => none

@[simp] theorem ofKey_key (role : Role) : ofKey role.key = some role := by
  cases role <;> rfl

end Role

/-- The rooms of a launcher. -/
structure LauncherTopology where
  spaceId : String
  execRoomId : String
  logsRoomId : String
deriving DecidableEq

/-- The room of a role. -/
def LauncherTopology.room (topology : LauncherTopology) : Role → String
  | .space => topology.spaceId
  | .exec => topology.execRoomId
  | .logs => topology.logsRoomId

theorem LauncherTopology.ext_room {first second : LauncherTopology}
    (h : ∀ role, first.room role = second.room role) : first = second := by
  have hSpace : first.spaceId = second.spaceId := h .space
  have hExec : first.execRoomId = second.execRoomId := h .exec
  have hLogs : first.logsRoomId = second.logsRoomId := h .logs
  cases first
  cases second
  simp_all

/-- The field that names the launcher. -/
def launcherIdKey : String := "org.mxdx.launcher_id"

/-- The field that names the role. -/
def roleKey : String := "org.mxdx.role"

/-- What tells a launcher's rooms from others. -/
def mxdxCreationContent (launcherId : String) (role : Role) (isSpace : Bool) : Value :=
  .obj ((if isSpace then [("type", .str "m.space")] else []) ++
    [(launcherIdKey, .str launcherId), (roleKey, .str role.key)])

/-- The role in the topology of the launcher that a room declares for itself. -/
def declaredRole (launcherId : String) (create : Value) : Option Role :=
  if (create.get? launcherIdKey).bind Json.asStr = some launcherId then
    ((create.get? roleKey).bind Json.asStr).bind Role.ofKey
  else none

theorem declaredRole_creationContent (launcherId : String) (role : Role) (isSpace : Bool) :
    declaredRole launcherId (mxdxCreationContent launcherId role isSpace) = some role := by
  have hLauncher : ((mxdxCreationContent launcherId role isSpace).get? launcherIdKey).bind
      Json.asStr = some launcherId := by
    cases isSpace <;> rfl
  have hRole : ((mxdxCreationContent launcherId role isSpace).get? roleKey).bind Json.asStr =
      some role.key := by
    cases isSpace <;> rfl
  rw [declaredRole, if_pos hLauncher, hRole, Option.bind_some, Role.ofKey_key]

/-- The encryption of a room. -/
structure EncryptionState where
  algorithm : String
  encryptStateEvents : Bool

/-- What is missing counts as off. -/
def EncryptionState.fromContent (content : Value) : EncryptionState where
  algorithm := ((content.get? "algorithm").bind Json.asStr).getD ""
  encryptStateEvents :=
    (((content.get? "encrypt_state_events").bind Json.asBool).or
      ((content.get? "io.element.msc4362.encrypt_state_events").bind Json.asBool)).getD false

/-- What the homeserver answers: the rooms of the account in the order it lists
them, once the invitations are answered, and the state events of a room, none
where it has no such event. -/
structure RestClient where
  isRoomId : String → Bool
  joinedRooms : Except String (List String)
  invitedRooms : Except String (List String)
  state : (roomId eventType : String) → Except String (Option Value)

namespace RestClient

/-- One text that is no room id spoils the list. -/
def listJoinedRooms (rest : RestClient) : Except String (List String) := do
  let joined ← rest.joinedRooms
  if joined.all rest.isRoomId then return joined else throw "invalid room id"

def listInvitedRooms (rest : RestClient) : Except String (List String) :=
  rest.invitedRooms.map (List.filter rest.isRoomId)

def getRoomCreate (rest : RestClient) (roomId : String) : Except String (Option Value) :=
  rest.state roomId "m.room.create"

/-- The room that has taken this one's place. -/
def getRoomTombstone (rest : RestClient) (roomId : String) : Except String (Option String) := do
  match (← rest.state roomId "m.room.tombstone").bind fun content =>
      (content.get? "replacement_room").bind Json.asStr with
  | some replacement =>
      if rest.isRoomId replacement then return some replacement else throw "invalid room id"
  | none => return none

def getRoomEncryption (rest : RestClient) (roomId : String) :
    Except String (Option EncryptionState) :=
  (rest.state roomId "m.room.encryption").map (Option.map EncryptionState.fromContent)

/-- The room that a tombstone leads to; an error counts as no tombstone. -/
def replacement (rest : RestClient) (roomId : String) : Option String :=
  match rest.getRoomTombstone roomId with
  | .ok replacement => replacement
  | .error _ => none

/-- What a room declares itself to be; an error counts as nothing. -/
def role (rest : RestClient) (launcherId roomId : String) : Option Role :=
  match rest.getRoomCreate roomId with
  | .ok create => create.bind (declaredRole launcherId)
  | .error _ => none

/-- How far a chain of tombstones is followed. -/
def tombstoneLimit : Nat := 10

/-- The loop over the joined rooms: the first room of a role counts. -/
def note (rest : RestClient) (launcherId : String) (found : Role → Option String)
    (roomId : String) : Role → Option String :=
  let current := follow rest.replacement tombstoneLimit roomId
  match rest.role launcherId current with
  | some role =>
      if (found role).isNone then Function.update found role (some current) else found
  | none => found

/-- Without a space or a room for logs, the room for commands stands for all three. -/
def topologyOf (found : Role → Option String) : Option LauncherTopology :=
  match found .space, found .exec, found .logs with
  | some spaceId, some execRoomId, some logsRoomId => some ⟨spaceId, execRoomId, logsRoomId⟩
  | _, some execRoomId, _ => some ⟨execRoomId, execRoomId, execRoomId⟩
  | _, _, _ => none

/-- The invitations that are accepted on the way, and what is found. -/
structure Discovery where
  joins : List String
  topology : Except String (Option LauncherTopology)

/-- Invitations are accepted before the rooms are looked through. -/
def findLauncherSpaceViaRest (rest : RestClient) (launcherId : String) : Discovery where
  joins := rest.listInvitedRooms.toOption.getD []
  topology := do
    let joined ← rest.listJoinedRooms
    return topologyOf (joined.foldl (rest.note launcherId) fun _ => none)

/-- Where a room leads, if the room there declares the role. -/
def leadsTo (rest : RestClient) (launcherId : String) (role : Role) (roomId : String) :
    Option String :=
  let current := follow rest.replacement tombstoneLimit roomId
  if rest.role launcherId current = some role then some current else none

variable {rest : RestClient} {launcherId : String}

/-- The replacement that a tombstone names, if the name can be one of a room. -/
theorem replacement_of_state {roomId : String} {content : Option Value}
    (hState : rest.state roomId "m.room.tombstone" = .ok content) :
    rest.replacement roomId = (content.bind fun content =>
      (content.get? "replacement_room").bind Json.asStr).filter rest.isRoomId := by
  have hTombstone : rest.getRoomTombstone roomId =
      match content.bind fun content =>
        (content.get? "replacement_room").bind Json.asStr with
      | some replacement =>
          if rest.isRoomId replacement then .ok (some replacement) else .error "invalid room id"
      | none => .ok none := by
    rw [getRoomTombstone, hState]
    rfl
  rw [replacement, hTombstone]
  cases content.bind fun content => (content.get? "replacement_room").bind Json.asStr with
  | none => rfl
  | some replacement =>
      cases hValid : rest.isRoomId replacement with
      | true =>
          rw [Option.filter_some_pos hValid]
          simp only [hValid, if_true]
      | false =>
          rw [Option.filter_some_neg (by simp [hValid])]
          simp only [hValid, Bool.false_eq_true, if_false]

theorem note_apply (found : Role → Option String) (role : Role) (roomId : String) :
    rest.note launcherId found roomId role =
      (found role).or (rest.leadsTo launcherId role roomId) := by
  unfold note leadsTo
  dsimp only
  cases rest.role launcherId (follow rest.replacement tombstoneLimit roomId) with
  | none => simp
  | some declared =>
      by_cases hSame : declared = role
      · subst hSame
        cases hFound : found declared <;> simp [hFound]
      · have hOther : (some declared = some role) = False := by simp [hSame]
        dsimp only
        simp only [hOther, if_false, Option.or_none]
        split
        · rw [Function.update_of_ne (Ne.symm hSame)]
        · rfl

/-- The loop finds for each role the first room that one is led to. -/
theorem foldl_note_apply (joined : List String) (found : Role → Option String) (role : Role) :
    joined.foldl (rest.note launcherId) found role =
      (found role).or (joined.findSome? (rest.leadsTo launcherId role)) := by
  induction joined generalizing found with
  | nil => simp
  | cons roomId joined ih =>
      rw [List.foldl_cons, ih, note_apply, List.findSome?_cons, Option.or_assoc]
      cases rest.leadsTo launcherId role roomId <;> rfl

theorem topology_eq {joined : List String} (hJoined : rest.listJoinedRooms = .ok joined) :
    (rest.findLauncherSpaceViaRest launcherId).topology =
      .ok (topologyOf fun role => joined.findSome? (rest.leadsTo launcherId role)) := by
  have hFound : (joined.foldl (rest.note launcherId) fun _ => none) =
      fun role => joined.findSome? (rest.leadsTo launcherId role) := by
    funext role
    rw [foldl_note_apply, Option.none_or]
  simp only [findLauncherSpaceViaRest, hJoined]
  show Except.ok (topologyOf (joined.foldl (rest.note launcherId) fun _ => none)) = _
  rw [hFound]

theorem topologyOf_of_isSome {found : Role → Option String}
    (hFound : ∀ role, (found role).isSome = true) :
    ∃ topology : LauncherTopology, topologyOf found = some topology ∧
      ∀ role, found role = some (topology.room role) := by
  obtain ⟨spaceId, hSpace⟩ := Option.isSome_iff_exists.mp (hFound .space)
  obtain ⟨execRoomId, hExec⟩ := Option.isSome_iff_exists.mp (hFound .exec)
  obtain ⟨logsRoomId, hLogs⟩ := Option.isSome_iff_exists.mp (hFound .logs)
  refine ⟨⟨spaceId, execRoomId, logsRoomId⟩, by rw [topologyOf, hSpace, hExec, hLogs], ?_⟩
  intro role
  cases role with
  | space => exact hSpace
  | exec => exact hExec
  | logs => exact hLogs

theorem topologyOf_eq_none_iff {found : Role → Option String} :
    topologyOf found = none ↔ found .exec = none := by
  unfold topologyOf
  cases found .space <;> cases found .exec <;> cases found .logs <;> simp

theorem topologyOf_partial {found : Role → Option String} {execRoomId : String} {missing : Role}
    (hExec : found .exec = some execRoomId) (hMissing : found missing = none) :
    topologyOf found = some ⟨execRoomId, execRoomId, execRoomId⟩ := by
  cases missing with
  | space => rw [topologyOf, hExec, hMissing]
  | exec => rw [hExec] at hMissing; cases hMissing
  | logs =>
      rw [topologyOf, hExec, hMissing]
      cases found .space <;> rfl

end RestClient

end Mxdx.MatrixClient
