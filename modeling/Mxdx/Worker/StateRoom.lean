import Mxdx.Worker.Task
import Mxdx.Foundations.KeyedStore

/-! The state room of a worker: what it keeps across restarts, as state events of a private
room. An event without content stands for one that is not there. -/
namespace Mxdx.Worker.StateRoom

/-- The one event of this type has the empty state key. -/
def workerStateConfig : String := "org.mxdx.worker.config"
/-- The state key tells the room. -/
def workerStateRoom : String := "org.mxdx.worker.room"
/-- The state key is made of the device and the session. -/
def workerStateSession : String := "org.mxdx.worker.session"
/-- The one event of this type has the empty state key. -/
def workerStateTopology : String := "org.mxdx.worker.topology"
/-- The state key is the account that is trusted. -/
def workerStateTrustedClient : String := "org.mxdx.worker.trusted_client"
def workerStateTrustedCoordinator : String := "org.mxdx.worker.trusted_coordinator"

/-- What a worker is configured with. -/
structure WorkerStateConfig where
  roomName : String
  trustAnchor : Option String
  capabilities : List String
  createdAt : UInt64
deriving DecidableEq

/-- A session that a worker has running, as far as it needs it to take it up again. -/
structure StateRoomSession where
  uuid : String
  bin : String
  args : List String
  tmuxSession : Option String
  startedAt : UInt64
  threadRoot : String
  execRoomId : String
  state : String
deriving DecidableEq

/-- A room that the worker is in, and what it is there for. -/
structure StateRoomEntry where
  roomId : String
  roomName : Option String
  spaceId : Option String
  role : String
  joinedAt : UInt64
deriving DecidableEq

/-- An account that is trusted, since when, and the device that it was verified by. -/
structure TrustedEntity where
  userId : String
  verifiedAt : UInt64
  verifiedByDevice : String
deriving DecidableEq

/-- The space of the worker with the two rooms in it. -/
structure StateRoomTopology where
  spaceId : String
  execRoomId : String
  logsRoomId : String
deriving DecidableEq

section Content

/-- An unsigned number as serde writes it. -/
def u64 (number : UInt64) : Value := .num (.posInt number)

/-- An `Option` that is not skipped: what is missing is written as null. -/
def orNull (text : Option String) : Value := text.elim .null .str

def WorkerStateConfig.toValue (config : WorkerStateConfig) : Value :=
  .obj [("room_name", .str config.roomName), ("trust_anchor", orNull config.trustAnchor),
    ("capabilities", .arr (config.capabilities.map .str)), ("created_at", u64 config.createdAt)]

def WorkerStateConfig.fromValue : Value → Option WorkerStateConfig :=
  Json.asRecord ["room_name", "trust_anchor", "capabilities", "created_at"] 4 fun field => do
    let roomName ← Json.required Json.asStr (field "room_name")
    let trustAnchor ← Json.nullable Json.asStr (field "trust_anchor")
    let capabilities ← Json.required (Json.asList Json.asStr) (field "capabilities")
    let createdAt ← Json.required asUInt64 (field "created_at")
    return ⟨roomName, trustAnchor, capabilities, createdAt⟩

def StateRoomSession.toValue (session : StateRoomSession) : Value :=
  .obj [("uuid", .str session.uuid), ("bin", .str session.bin),
    ("args", .arr (session.args.map .str)), ("tmux_session", orNull session.tmuxSession),
    ("started_at", u64 session.startedAt), ("thread_root", .str session.threadRoot),
    ("exec_room_id", .str session.execRoomId), ("state", .str session.state)]

def StateRoomSession.fromValue : Value → Option StateRoomSession :=
  Json.asRecord ["uuid", "bin", "args", "tmux_session", "started_at", "thread_root",
      "exec_room_id", "state"] 8 fun field => do
    let uuid ← Json.required Json.asStr (field "uuid")
    let bin ← Json.required Json.asStr (field "bin")
    let args ← Json.required (Json.asList Json.asStr) (field "args")
    let tmuxSession ← Json.nullable Json.asStr (field "tmux_session")
    let startedAt ← Json.required asUInt64 (field "started_at")
    let threadRoot ← Json.required Json.asStr (field "thread_root")
    let execRoomId ← Json.required Json.asStr (field "exec_room_id")
    let state ← Json.required Json.asStr (field "state")
    return ⟨uuid, bin, args, tmuxSession, startedAt, threadRoot, execRoomId, state⟩

def StateRoomEntry.toValue (entry : StateRoomEntry) : Value :=
  .obj [("room_id", .str entry.roomId), ("room_name", orNull entry.roomName),
    ("space_id", orNull entry.spaceId), ("role", .str entry.role),
    ("joined_at", u64 entry.joinedAt)]

def StateRoomEntry.fromValue : Value → Option StateRoomEntry :=
  Json.asRecord ["room_id", "room_name", "space_id", "role", "joined_at"] 5 fun field => do
    let roomId ← Json.required Json.asStr (field "room_id")
    let roomName ← Json.nullable Json.asStr (field "room_name")
    let spaceId ← Json.nullable Json.asStr (field "space_id")
    let role ← Json.required Json.asStr (field "role")
    let joinedAt ← Json.required asUInt64 (field "joined_at")
    return ⟨roomId, roomName, spaceId, role, joinedAt⟩

def TrustedEntity.toValue (entity : TrustedEntity) : Value :=
  .obj [("user_id", .str entity.userId), ("verified_at", u64 entity.verifiedAt),
    ("verified_by_device", .str entity.verifiedByDevice)]

def TrustedEntity.fromValue : Value → Option TrustedEntity :=
  Json.asRecord ["user_id", "verified_at", "verified_by_device"] 3 fun field => do
    let userId ← Json.required Json.asStr (field "user_id")
    let verifiedAt ← Json.required asUInt64 (field "verified_at")
    let verifiedByDevice ← Json.required Json.asStr (field "verified_by_device")
    return ⟨userId, verifiedAt, verifiedByDevice⟩

def StateRoomTopology.toValue (topology : StateRoomTopology) : Value :=
  .obj [("space_id", .str topology.spaceId), ("exec_room_id", .str topology.execRoomId),
    ("logs_room_id", .str topology.logsRoomId)]

def StateRoomTopology.fromValue : Value → Option StateRoomTopology :=
  Json.asRecord ["space_id", "exec_room_id", "logs_room_id"] 3 fun field => do
    let spaceId ← Json.required Json.asStr (field "space_id")
    let execRoomId ← Json.required Json.asStr (field "exec_room_id")
    let logsRoomId ← Json.required Json.asStr (field "logs_room_id")
    return ⟨spaceId, execRoomId, logsRoomId⟩

/-- A missing text comes back from the null it was written as. -/
@[simp] theorem nullable_orNull (text : Option String) :
    Json.nullable Json.asStr (some (orNull text)) = some text := by
  cases text <;> rfl

@[simp] theorem asUInt64_u64 (number : UInt64) : asUInt64 (u64 number) = some number := rfl

/-- A list of texts comes back whole. -/
@[simp] theorem asList_strs (texts : List String) :
    Json.asList Json.asStr (.arr (texts.map .str) : Value) = some texts :=
  Json.asList_arr fun _ _ => rfl

/-- A content is read as what it was written from. -/
@[simp] theorem WorkerStateConfig.fromValue_toValue (config : WorkerStateConfig) :
    fromValue config.toValue = some config := by
  simp [toValue, fromValue, Json.asRecord, Json.required, Json.asStr, List.lookup_cons]

@[simp] theorem StateRoomSession.fromValue_toValue (session : StateRoomSession) :
    fromValue session.toValue = some session := by
  simp [toValue, fromValue, Json.asRecord, Json.required, Json.asStr, List.lookup_cons]

@[simp] theorem StateRoomEntry.fromValue_toValue (entry : StateRoomEntry) :
    fromValue entry.toValue = some entry := by
  simp [toValue, fromValue, Json.asRecord, Json.required, Json.asStr, List.lookup_cons]

@[simp] theorem TrustedEntity.fromValue_toValue (entity : TrustedEntity) :
    fromValue entity.toValue = some entity := by
  simp [toValue, fromValue, Json.asRecord, Json.required, Json.asStr, List.lookup_cons]

@[simp] theorem StateRoomTopology.fromValue_toValue (topology : StateRoomTopology) :
    fromValue topology.toValue = some topology := by
  simp [toValue, fromValue, Json.asRecord, Json.required, Json.asStr, List.lookup_cons]

end Content

/-- The current state events of the room, by their type and state key. -/
abbrev RoomState := List ((String × String) × Value)

/-- An event as the homeserver lists it. -/
def envelope (event : (String × String) × Value) : Value :=
  .obj [("type", .str event.1.1), ("state_key", .str event.1.2), ("content", event.2)]

/-- The state key of a session. The separator may stand in either part. -/
def formatSessionKey (deviceId uuid : String) : String := deviceId ++ "/" ++ uuid

/-- What Matrix has in place of a state event that was removed. -/
def isEmptyContent : Value → Bool
  | .obj fields => fields.isEmpty
  | .null => true
  | _ => false

/-- `none` is an error of the decoder. -/
def deserializeIfPresent {α : Type} (fromValue : Value → Option α) (value : Value) :
    Option (Option α) :=
  if (value.get? "errcode").isSome then some none
  else if isEmptyContent value then some none
  else (fromValue value).map some

/-- The state keys and contents of one type, in the order of the listing. -/
def filterStateEventsByType (events : List Value) (eventType : String) :
    List (String × Value) :=
  events.filterMap fun event =>
    if textField event "type" = eventType then
      some (textField event "state_key", (event.get? "content").getD (.obj []))
    else none

/-- Empty content and what cannot be decoded are passed over. -/
def deserializeAllOfType {α : Type} (fromValue : Value → Option α) (listing : List Value)
    (eventType : String) : List α :=
  (filterStateEventsByType listing eventType).filterMap fun entry =>
    if isEmptyContent entry.2 then none else fromValue entry.2

namespace RoomState

/-- Of two events with one type and state key the later replaces the earlier. -/
def sendStateEvent (room : RoomState) (eventType stateKey : String) (content : Value) :
    RoomState :=
  KeyedStore.assign (eventType, stateKey) content room

/-- The body of the answer, which for a missing event tells the error. -/
def getRoomStateEvent (room : RoomState) (eventType stateKey : String) : Value :=
  (room.lookup (eventType, stateKey)).getD
    (.obj [("errcode", .str "M_NOT_FOUND"), ("error", .str "Event not found.")])

variable (room : RoomState)

def writeConfig (config : WorkerStateConfig) : RoomState :=
  room.sendStateEvent workerStateConfig "" config.toValue

/-- The outer `none` is a content that cannot be decoded, the inner one that there is none. -/
def readConfig : Option (Option WorkerStateConfig) :=
  deserializeIfPresent WorkerStateConfig.fromValue (room.getRoomStateEvent workerStateConfig "")

/-- Two sessions whose texts are the same write over one another. -/
def writeSession (deviceId uuid : String) (session : StateRoomSession) : RoomState :=
  room.sendStateEvent workerStateSession (formatSessionKey deviceId uuid) session.toValue

/-- Matrix removes no state event: the content is emptied. -/
def removeSession (deviceId uuid : String) : RoomState :=
  room.sendStateEvent workerStateSession (formatSessionKey deviceId uuid) (.obj [])

def writeRoom (roomIdKey : String) (entry : StateRoomEntry) : RoomState :=
  room.sendStateEvent workerStateRoom roomIdKey entry.toValue

def writeTrustedClient (userId : String) (entity : TrustedEntity) : RoomState :=
  room.sendStateEvent workerStateTrustedClient userId entity.toValue

def writeTrustedCoordinator (userId : String) (entity : TrustedEntity) : RoomState :=
  room.sendStateEvent workerStateTrustedCoordinator userId entity.toValue

def writeTopology (topology : StateRoomTopology) : RoomState :=
  room.sendStateEvent workerStateTopology "" topology.toValue

def readTopology : Option (Option StateRoomTopology) :=
  deserializeIfPresent StateRoomTopology.fromValue
    (room.getRoomStateEvent workerStateTopology "")

end RoomState

/-- The sessions of every device, as the homeserver lists them. -/
def readSessions (listing : List Value) : List StateRoomSession :=
  deserializeAllOfType StateRoomSession.fromValue listing workerStateSession

def readRooms (listing : List Value) : List StateRoomEntry :=
  deserializeAllOfType StateRoomEntry.fromValue listing workerStateRoom

/-- Clients and coordinators are told apart by the type of their events alone. -/
def readTrustedClients (listing : List Value) : List TrustedEntity :=
  deserializeAllOfType TrustedEntity.fromValue listing workerStateTrustedClient

def readTrustedCoordinators (listing : List Value) : List TrustedEntity :=
  deserializeAllOfType TrustedEntity.fromValue listing workerStateTrustedCoordinator

section Live

variable {α : Type} (fromValue : Value → Option α) (eventType : String)

/-- What is read of a content. -/
def present (content : Value) : Option α :=
  if isEmptyContent content then none else fromValue content

/-- What an event of the type holds. -/
def held (event : (String × String) × Value) : Option (String × α) :=
  if event.1.1 = eventType then (present fromValue event.2).map (event.1.2, ·) else none

/-- The entries of a type by their state keys. -/
def live (room : RoomState) : List (String × α) := room.filterMap (held fromValue eventType)

variable {fromValue eventType}

/-- In whatever order the homeserver lists the events, the entries are read from them. -/
theorem deserializeAllOfType_perm {room : RoomState} {listing : List Value}
    (h : listing.Perm (room.map envelope)) :
    (deserializeAllOfType fromValue listing eventType).Perm
      ((live fromValue eventType room).map Prod.snd) := by
  rw [deserializeAllOfType, filterStateEventsByType, List.filterMap_filterMap]
  refine (h.filterMap _).trans (.of_eq ?_)
  rw [List.filterMap_map, live, List.map_filterMap]
  refine List.filterMap_congr fun event _ => ?_
  obtain ⟨⟨type, stateKey⟩, content⟩ := event
  have hFields : textField (envelope ((type, stateKey), content)) "type" = type ∧
      (envelope ((type, stateKey), content)).get? "content" = some content := ⟨rfl, rfl⟩
  rw [Function.comp_apply, hFields.1, hFields.2, held]
  by_cases hType : type = eventType
  · rw [if_pos hType, if_pos hType, Option.bind_some, Option.getD_some, Option.map_map]
    exact Option.map_id'.symm
  · rw [if_neg hType, if_neg hType]
    rfl

/-- Other types are as they were. -/
theorem live_erase_of_ne {type : String} (room : RoomState) (stateKey : String)
    (h : type ≠ eventType) :
    live fromValue eventType (KeyedStore.erase (type, stateKey) room) =
      live fromValue eventType room := by
  rw [live, KeyedStore.erase, List.filterMap_filter]
  refine List.filterMap_congr fun event _ => ?_
  by_cases hEvent : event.1 = (type, stateKey)
  · have hHeld : held fromValue eventType event = none := by rw [held, hEvent, if_neg h]
    rw [hHeld, ite_self]
  · rw [if_pos (by simpa using hEvent)]

/-- To take an event away is to take its entry away. -/
theorem live_erase (room : RoomState) (stateKey : String) :
    live fromValue eventType (KeyedStore.erase (eventType, stateKey) room) =
      KeyedStore.erase stateKey (live fromValue eventType room) := by
  rw [live, live, KeyedStore.erase, KeyedStore.erase, List.filterMap_filter,
    List.filter_filterMap]
  refine List.filterMap_congr fun event _ => ?_
  obtain ⟨⟨type, key⟩, content⟩ := event
  by_cases hType : type = eventType
  · cases hValue : present fromValue content with
    | none => simp [held, hType, hValue]
    | some value =>
        by_cases hKey : key = stateKey <;>
          simp [held, hType, hKey, hValue, Option.filter_some]
  · simp [held, hType]

/-- Each event is read on its own. -/
theorem live_append (first second : RoomState) :
    live fromValue eventType (first ++ second) =
      live fromValue eventType first ++ live fromValue eventType second :=
  List.filterMap_append

/-- An event of another type changes no entry of this one. -/
theorem live_send_of_ne {type : String} (room : RoomState) (stateKey : String) (content : Value)
    (h : type ≠ eventType) :
    live fromValue eventType (room.sendStateEvent type stateKey content) =
      live fromValue eventType room := by
  have hHeld : held fromValue eventType ((type, stateKey), content) = none := if_neg h
  rw [RoomState.sendStateEvent, KeyedStore.assign, live_append, live_erase_of_ne room stateKey h,
    live, live, List.filterMap_cons_none hHeld, List.filterMap_nil, List.append_nil]

/-- An event with a content makes one entry, in place of any of its state key. -/
theorem live_send (room : RoomState) (stateKey : String) {content : Value} {value : α}
    (hContent : isEmptyContent content = false) (hValue : fromValue content = some value) :
    live fromValue eventType (room.sendStateEvent eventType stateKey content) =
      KeyedStore.assign stateKey value (live fromValue eventType room) := by
  have hHeld : held fromValue eventType ((eventType, stateKey), content) =
      some (stateKey, value) := by
    rw [held, if_pos rfl, present, hContent, if_neg Bool.false_ne_true, hValue, Option.map_some]
  rw [RoomState.sendStateEvent, KeyedStore.assign, live_append, live_erase, KeyedStore.assign]
  congr 1
  rw [live, List.filterMap_cons_some hHeld, List.filterMap_nil]

/-- An event without content takes the entry of its state key away. -/
theorem live_send_empty (room : RoomState) (stateKey : String) :
    live fromValue eventType (room.sendStateEvent eventType stateKey (.obj [])) =
      KeyedStore.erase stateKey (live fromValue eventType room) := by
  have hHeld : held fromValue eventType ((eventType, stateKey), .obj []) = none := by
    rw [held, if_pos rfl]
    rfl
  rw [RoomState.sendStateEvent, KeyedStore.assign, live_append, live_erase]
  rw [live, live, List.filterMap_cons_none hHeld, List.filterMap_nil, List.append_nil]

end Live

end Mxdx.Worker.StateRoom
