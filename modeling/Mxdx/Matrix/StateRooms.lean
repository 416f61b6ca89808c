import Mxdx.Matrix.Client
import Mxdx.Matrix.Trust
import Mxdx.Worker.Task
import Mathlib.Logic.Function.Basic
import Mathlib.Data.List.Basic

/-! The rooms that workers keep their state in: how the client makes one, finds it
again by its alias or its topic, and tells whether to rely on it. Rooms are numbered
in the order in which they come to be. -/
namespace Mxdx.MatrixClient

open Worker (Value)

/-- The account as Matrix spells it. -/
def UserId.asStr (user : UserId) : String := "@" ++ user.localpart ++ ":" ++ user.serverName

/-- A localpart has no colon, so the spelling tells the account. -/
theorem UserId.asStr_inj {first second : UserId} (h : first.asStr = second.asStr) :
    first = second := by
  have hParse : ∀ user : UserId, UserId.parse (fun _ _ => true) user.asStr = some user := by
    intro user
    have hText : user.asStr.toList =
        '@' :: (user.localpart.toList ++ ':' :: user.serverName.toList) := by
      simp [UserId.asStr, String.toList_append]
    have hNames : ∀ c ∈ user.localpart.toList, decide (c ≠ ':') = true := by
      intro c hMem
      rw [decide_eq_true_eq]
      rintro rfl
      exact user.noColon hMem
    simp only [UserId.parse, hText, List.takeWhile_append_of_pos hNames,
      List.dropWhile_append_of_pos hNames]
    simp
  exact Option.some.inj ((hParse first).symm.trans ((congrArg _ h).trans (hParse second)))

section Validation

/-- Whether an event is of a type. -/
def hasType (type : String) (event : Value) : Bool :=
  (event.get? "type").bind Json.asStr == some type

/-- The creator in the content of `m.room.create` counts before its sender. -/
def extractRoomCreator (createEvent : Value) : String :=
  ((((createEvent.get? "content").bind (Json.get? "creator")).bind Json.asStr).or
    ((createEvent.get? "sender").bind Json.asStr)).getD ""

/-- What `validate_state_room` makes of the state that it has fetched. -/
def validateStateRoom (allState : List Value) (ownUserId : String)
    (trustedCoordinators : List String) : Except MatrixClientError Unit :=
  match allState.find? (hasType "m.room.create") with
  | none => .error (.stateRoomRejected "m.room.create state event not found in room")
  | some createEvent =>
      let creator := extractRoomCreator createEvent
      if creator = ownUserId ∨ creator ∈ trustedCoordinators then
        if allState.any (hasType "m.room.encryption") then .ok ()
        else .error (.stateRoomRejected
          "Room is not encrypted — m.room.encryption state event missing")
      else .error (.stateRoomRejected ("Room creator '" ++ creator ++
        "' is neither own account nor a trusted coordinator"))

/-- What a room has been since it was made. The homeserver writes the creator into the
content of `m.room.create`; from version 11 on it does not, and whoever makes the room
can write there what they like. -/
structure RoomIdentity where
  creator : String
  creatorField : Option String
  version11 : Bool
  topic : String
  named : version11 = false → creatorField = some creator

/-- The event that a room begins with, which nobody can replace. -/
def RoomIdentity.createEvent (identity : RoomIdentity) : Value :=
  .obj [("type", .str "m.room.create"), ("sender", .str identity.creator),
    ("content", .obj ((identity.creatorField.map fun creator => ("creator", .str creator)).toList))]

/-- The creator that `extract_room_creator` finds. -/
def RoomIdentity.namedCreator (identity : RoomIdentity) : String :=
  identity.creatorField.getD identity.creator

/-- Nobody else is written where the creator stands. -/
def RoomIdentity.Unforged (identity : RoomIdentity) : Prop :=
  identity.namedCreator = identity.creator

/-- A room with the further events of its state. -/
structure HostedRoom where
  identity : RoomIdentity
  state : List Value

/-- The state as the homeserver lists it. -/
def HostedRoom.allState (room : HostedRoom) : List Value := room.identity.createEvent :: room.state

theorem hasType_createEvent (identity : RoomIdentity) (type : String) :
    hasType type identity.createEvent = ("m.room.create" == type) := by
  rw [Bool.eq_iff_iff]
  simp [hasType, RoomIdentity.createEvent, Json.get?, Json.asStr]

theorem extractRoomCreator_createEvent (identity : RoomIdentity) :
    extractRoomCreator identity.createEvent = identity.namedCreator := by
  cases hField : identity.creatorField <;>
    simp [extractRoomCreator, RoomIdentity.createEvent, RoomIdentity.namedCreator, Json.get?,
      Json.asStr, hField, List.lookup_cons]

/-- Before room version 11 the homeserver writes the creator itself. -/
theorem RoomIdentity.unforged_of_old {identity : RoomIdentity} (h : identity.version11 = false) :
    identity.Unforged := by
  rw [Unforged, namedCreator, identity.named h, Option.getD_some]

/-- There is an encryption event, whatever it says. -/
def HostedRoom.Encrypted (room : HostedRoom) : Prop :=
  room.state.any (hasType "m.room.encryption") = true

/-- A room passes exactly if its state names the account or a coordinator as its creator
and has an encryption event. -/
theorem HostedRoom.validateStateRoom_eq_ok_iff (room : HostedRoom) {ownUserId : String}
    {trustedCoordinators : List String} :
    validateStateRoom room.allState ownUserId trustedCoordinators = .ok () ↔
      room.identity.namedCreator ∈ ownUserId :: trustedCoordinators ∧ room.Encrypted := by
  have hFind : room.allState.find? (hasType "m.room.create") = some room.identity.createEvent := by
    rw [HostedRoom.allState, List.find?_cons_of_pos (by simp [hasType_createEvent])]
  have hAny : room.allState.any (hasType "m.room.encryption") =
      room.state.any (hasType "m.room.encryption") := by
    rw [HostedRoom.allState, List.any_cons, hasType_createEvent]
    simp
  simp only [validateStateRoom, hFind, hAny, extractRoomCreator_createEvent, List.mem_cons,
    HostedRoom.Encrypted]
  split
  next hCreator => split <;> simp_all
  next hCreator => simp_all

end Validation

/-- The rooms are numbered as they are made. -/
abbrev RoomId := Nat

/-- A worker: the account that its client is logged in to, and what its state room is named
after. The localpart is configured apart from the account. -/
structure WorkerDevice where
  hostname : String
  osUser : String
  localpart : String
  account : UserId
deriving DecidableEq

namespace WorkerDevice

/-- The account that the worker logs in with. -/
def userId (device : WorkerDevice) : String := device.account.asStr

/-- The name of a worker among those of its account. -/
def label (device : WorkerDevice) : String :=
  device.hostname ++ "." ++ device.osUser ++ "." ++ device.localpart

/-- The alias that a worker looks for its room under. -/
def roomAlias (device : WorkerDevice) : String :=
  "#mxdx-state-" ++ device.label ++ ":" ++ device.account.serverName

/-- The topic that tells whose room it is. -/
def topic (device : WorkerDevice) : String := "org.mxdx.worker.state:" ++ device.label

/-- The topics of two workers are the same when their names are. -/
theorem topic_inj {first second : WorkerDevice} :
    first.topic = second.topic ↔ first.label = second.label := by
  unfold topic
  exact String.append_right_inj _

/-- Within an account alias and topic tell the same workers apart. -/
theorem label_of_roomAlias {first second : WorkerDevice} (hAccount : first.account = second.account)
    (h : first.roomAlias = second.roomAlias) : first.label = second.label := by
  rw [roomAlias, roomAlias, hAccount, String.append_left_inj, String.append_left_inj,
    String.append_right_inj] at h
  exact h

/-- The spelling of an account tells it. -/
theorem account_inj {first second : WorkerDevice} :
    first.userId = second.userId ↔ first.account = second.account :=
  ⟨UserId.asStr_inj, congrArg _⟩

end WorkerDevice

def stateEvent (type : String) (content : Value) : Value :=
  .obj [("type", .str type), ("state_key", .str ""), ("content", content)]

/-- The request of `create_worker_state_room`: whose room it becomes and what it starts with. -/
def stateRoomIdentity (device : WorkerDevice) (version11 : Bool) : RoomIdentity where
  creator := device.userId
  creatorField := if version11 then none else some device.userId
  version11 := version11
  topic := device.topic
  named := by
    intro h
    rw [h, if_neg Bool.false_ne_true]

/-- The room is made encrypted, with its topic and its name. -/
def stateRoomState (device : WorkerDevice) : List Value :=
  [stateEvent "m.room.encryption" (.obj [("algorithm", .str "m.megolm.v1.aes-sha2"),
    ("io.element.msc4362.encrypt_state_events", .bool true)]),
   stateEvent "m.room.history_visibility" (.obj [("history_visibility", .str "joined")]),
   stateEvent "m.room.topic" (.obj [("topic", .str device.topic)]),
   stateEvent "m.room.name" (.obj [("name", .str ("mxdx: state — " ++ device.label))])]

/-- The homeserver: every alias with its room and the user who bound it, and who has
joined which room. -/
structure HomeServer where
  rooms : List HostedRoom
  aliases : String → Option (RoomId × String)
  joined : String → RoomId → Bool

/-- How the request for a room ends. -/
inductive Creation where
  | created (roomId : RoomId)
  | roomInUse
  | failed

namespace HomeServer

/-- No rooms and no aliases. -/
def empty : HomeServer := ⟨[], fun _ => none, fun _ _ => false⟩

def identities (server : HomeServer) : List RoomIdentity := server.rooms.map HostedRoom.identity

/-- An account joins a room or leaves it. -/
def setJoined (server : HomeServer) (userId : String) (roomId : RoomId) (joined : Bool) :
    HomeServer where
  rooms := server.rooms
  aliases := server.aliases
  joined := Function.update server.joined userId
    (Function.update (server.joined userId) roomId joined)

/-- An alias is bound or taken away. -/
def setAlias (server : HomeServer) (roomAlias : String) (target : Option (RoomId × String)) :
    HomeServer :=
  { server with aliases := Function.update server.aliases roomAlias target }

/-- A new room, which its creator has joined. -/
def addRoom (server : HomeServer) (room : HostedRoom) : HomeServer :=
  { server with rooms := server.rooms ++ [room] }.setJoined room.identity.creator
    server.rooms.length true

/-- A further event in the state of a room. -/
def sendStateEvent (server : HomeServer) (roomId : RoomId) (event : Value) : HomeServer :=
  { server with rooms := server.rooms.modify roomId fun room =>
      { room with state := room.state ++ [event] } }

/-- The new room and its alias come into being together. -/
def addStateRoom (server : HomeServer) (device : WorkerDevice) (version11 : Bool) : HomeServer :=
  (server.addRoom ⟨stateRoomIdentity device version11, stateRoomState device⟩).setAlias
    device.roomAlias (some (server.rooms.length, device.userId))

/-- An alias that is bound already stops the creation. -/
def createWorkerStateRoom (server : HomeServer) (device : WorkerDevice) (version11 : Bool)
    (answer : WriteAnswer) : HomeServer × Creation :=
  if answer.lands then
    match server.aliases device.roomAlias with
    | some _ => (server, if answer = .ok then .roomInUse else .failed)
    | none =>
        (server.addStateRoom device version11,
          if answer = .ok then .created server.rooms.length else .failed)
  else (server, .failed)

/-- Only who has bound an alias may delete it; an alias that is not there counts as deleted. -/
def deleteRoomAlias (server : HomeServer) (userId roomAlias : String) (answer : WriteAnswer) :
    HomeServer × Bool :=
  if answer.lands then
    match server.aliases roomAlias with
    | none => (server, answer = .ok)
    | some (_, owner) =>
        if owner = userId then (server.setAlias roomAlias none, answer = .ok) else (server, false)
  else (server, false)

/-- `none` where a request fails. The joined rooms are those that the client lists after
its sync, with topics that it can read. -/
def findWorkerStateRoom (server : HomeServer) (device : WorkerDevice) (directory : Bool)
    (listing : Option (List RoomId)) : Option (Option RoomId) :=
  if directory then
    match server.aliases device.roomAlias with
    | some (roomId, _) => some (some roomId)
    | none => listing.map fun listing => listing.find? fun roomId =>
        server.joined device.userId roomId &&
          (server.identities[roomId]?.map RoomIdentity.topic == some device.topic)
  else none

/-- The room, if its state is fetched and passes. -/
def validated (server : HomeServer) (device : WorkerDevice) (trustedCoordinators : List String)
    (answered : Bool) (roomId : RoomId) : Option RoomId :=
  match server.rooms[roomId]? with
  | some room =>
      if answered ∧ validateStateRoom room.allState device.userId trustedCoordinators = .ok () then
        some roomId
      else none
  | none => none

section Rooms

variable (server : HomeServer)

@[simp] theorem identities_setJoined (userId : String) (roomId : RoomId) (joined : Bool) :
    (server.setJoined userId roomId joined).identities = server.identities := rfl

/-- Aliases are not part of the rooms. -/
@[simp] theorem identities_setAlias (roomAlias : String) (target : Option (RoomId × String)) :
    (server.setAlias roomAlias target).identities = server.identities := rfl

@[simp] theorem identities_addRoom (room : HostedRoom) :
    (server.addRoom room).identities = server.identities ++ [room.identity] := by
  simp [addRoom, identities, setJoined]

@[simp] theorem identities_addStateRoom (device : WorkerDevice) (version11 : Bool) :
    (server.addStateRoom device version11).identities =
      server.identities ++ [stateRoomIdentity device version11] := by
  simp [addStateRoom]

@[simp] theorem identities_sendStateEvent (roomId : RoomId) (event : Value) :
    (server.sendStateEvent roomId event).identities = server.identities := by
  apply List.ext_getElem?
  intro index
  simp only [identities, sendStateEvent, List.getElem?_map, List.getElem?_modify]
  cases server.rooms[index]? with
  | none => rfl
  | some room =>
      simp only [Option.map_some]
      split <;> rfl

@[simp] theorem length_identities : server.identities.length = server.rooms.length :=
  List.length_map ..

/-- The worker can rely on the room: its state names the account or a coordinator as its
creator and has an encryption event. -/
def Passes (device : WorkerDevice) (trustedCoordinators : List String) (roomId : RoomId) : Prop :=
  ∃ room, server.rooms[roomId]? = some room ∧
    room.identity.namedCreator ∈ device.userId :: trustedCoordinators ∧ room.Encrypted

variable {server} {device : WorkerDevice} {trustedCoordinators : List String} {answered : Bool}
  {roomId found : RoomId}

/-- A room that is found is the one that was asked about, and passes. -/
theorem validated_eq_some_iff :
    server.validated device trustedCoordinators answered roomId = some found ↔
      found = roomId ∧ answered = true ∧ server.Passes device trustedCoordinators roomId := by
  unfold validated Passes
  cases server.rooms[roomId]? with
  | none => simp
  | some room =>
      simp only [Option.some.injEq, exists_eq_left', ← HostedRoom.validateStateRoom_eq_ok_iff]
      split
      next hPasses => simp only [hPasses, and_self, and_true, Option.some.injEq, eq_comm]
      next hPasses => simp only [hPasses, and_false, reduceCtorEq]

/-- A room that does not pass is not found. -/
theorem validated_eq_none_iff :
    server.validated device trustedCoordinators answered roomId = none ↔
      (answered = true → ¬ server.Passes device trustedCoordinators roomId) := by
  rw [Option.eq_none_iff_forall_ne_some]
  simp only [ne_eq, validated_eq_some_iff, not_and]
  exact ⟨fun h => h roomId rfl, fun h _ _ => h⟩

/-- The rooms that were there still are, with at least the state that they had. -/
def Grows (server later : HomeServer) : Prop :=
  ∀ (roomId : RoomId) (room : HostedRoom), server.rooms[roomId]? = some room →
    ∃ further, later.rooms[roomId]? = some ⟨room.identity, room.state ++ further⟩

theorem Grows.same {later : HomeServer} (h : later.rooms = server.rooms) : server.Grows later := by
  intro roomId room hRoom
  refine ⟨[], ?_⟩
  rw [h, hRoom, List.append_nil]

/-- What has only grown twice has only grown. -/
theorem Grows.trans {between later : HomeServer} (hFirst : server.Grows between)
    (hSecond : between.Grows later) : server.Grows later := by
  intro roomId room hRoom
  obtain ⟨first, hBetween⟩ := hFirst roomId room hRoom
  obtain ⟨second, hLater⟩ := hSecond roomId _ hBetween
  exact ⟨first ++ second, by rw [hLater, List.append_assoc]⟩

theorem grows_addRoom (server : HomeServer) (room : HostedRoom) :
    server.Grows (server.addRoom room) := by
  intro roomId earlier hRoom
  refine ⟨[], ?_⟩
  rw [List.append_nil]
  exact List.getElem?_append_left (List.getElem?_eq_some_iff.mp hRoom).1 ▸ hRoom

/-- A new room leaves the others as they were. -/
theorem grows_addStateRoom (server : HomeServer) (device : WorkerDevice) (version11 : Bool) :
    server.Grows (server.addStateRoom device version11) :=
  grows_addRoom server _

theorem grows_sendStateEvent (server : HomeServer) (roomId : RoomId) (event : Value) :
    server.Grows (server.sendStateEvent roomId event) := by
  intro index room hRoom
  simp only [sendStateEvent, List.getElem?_modify, hRoom]
  split
  · exact ⟨[event], rfl⟩
  · exact ⟨[], by simp⟩

/-- A room that passes goes on passing: what it is judged by stays. -/
theorem Passes.grows {later : HomeServer} (hGrows : server.Grows later)
    (h : server.Passes device trustedCoordinators roomId) :
    later.Passes device trustedCoordinators roomId := by
  obtain ⟨room, hRoom, hCreator, hEncrypted⟩ := h
  obtain ⟨further, hLater⟩ := hGrows roomId room hRoom
  refine ⟨_, hLater, hCreator, ?_⟩
  rw [HostedRoom.Encrypted, List.any_append, show room.state.any _ = true from hEncrypted,
    Bool.true_or]

/-- A worker's own new room passes. -/
theorem passes_addStateRoom (server : HomeServer) (device : WorkerDevice) (version11 : Bool)
    (trustedCoordinators : List String) :
    (server.addStateRoom device version11).Passes device trustedCoordinators
      server.rooms.length := by
  refine ⟨⟨stateRoomIdentity device version11, stateRoomState device⟩, ?_, ?_, ?_⟩
  · exact List.getElem?_concat_length
  · cases version11 <;> simp [stateRoomIdentity, RoomIdentity.namedCreator]
  · simp [HostedRoom.Encrypted, stateRoomState, stateEvent, hasType, Json.get?, Json.asStr]

end Rooms

section Creating

variable {server : HomeServer} {device : WorkerDevice} {version11 : Bool} {answer : WriteAnswer}

/-- With the alias free the room is made, whether or not the answer comes. -/
theorem createWorkerStateRoom_free (hFree : server.aliases device.roomAlias = none)
    (hLands : answer.lands = true) :
    server.createWorkerStateRoom device version11 answer =
      (server.addStateRoom device version11,
        if answer = .ok then .created server.rooms.length else .failed) := by
  rw [createWorkerStateRoom, if_pos hLands, hFree]

/-- With the alias bound nothing is made. -/
theorem createWorkerStateRoom_bound {target : RoomId × String}
    (hBound : server.aliases device.roomAlias = some target) :
    server.createWorkerStateRoom device version11 answer =
      (server, if answer = .ok then .roomInUse else .failed) := by
  rw [createWorkerStateRoom, hBound]
  cases answer <;> rfl

/-- A request that does not get there makes nothing. -/
theorem createWorkerStateRoom_refused (hLands : answer.lands = false) :
    server.createWorkerStateRoom device version11 answer = (server, .failed) := by
  rw [createWorkerStateRoom, hLands, if_neg Bool.false_ne_true]

/-- A deletion that is reported as done has been done for who has bound the alias. -/
theorem deleteRoomAlias_cases (userId : String) (answer : WriteAnswer) {roomAlias : String}
    {target : RoomId × String} (hBound : server.aliases roomAlias = some target) :
    (target.2 = userId ∧ answer = .ok ∧ server.deleteRoomAlias userId roomAlias answer =
      (server.setAlias roomAlias none, true)) ∨
    ∃ later, server.deleteRoomAlias userId roomAlias answer = (later, false) ∧
      (later = server ∨ later = server.setAlias roomAlias none) := by
  rw [deleteRoomAlias, hBound]
  by_cases hOwner : target.2 = userId
  · simp only [if_pos hOwner]
    cases answer with
    | ok => exact .inl ⟨hOwner, rfl, rfl⟩
    | lost => exact .inr ⟨_, rfl, .inr rfl⟩
    | refused => exact .inr ⟨_, rfl, .inl rfl⟩
  · simp only [if_neg hOwner, ite_self]
    exact .inr ⟨_, rfl, .inl rfl⟩

end Creating

end HomeServer

end Mxdx.MatrixClient
