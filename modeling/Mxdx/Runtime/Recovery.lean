import Mxdx.CoreWasm.StateRoom
import Mxdx.Foundations.Automaton

/-! Sessions and session rooms across a restart. The launcher writes them to its state
room, and a new launcher of the device looks there for those that live on in tmux. -/
namespace Mxdx.Runtime

open Automaton
open CoreWasm (StateEvent StateRoom readRooms readSessions workerStateRoom workerStateSession)
open Mxdx.Core (JsValue)

/-- An entry of the registry, without its bridge. -/
structure TmuxSession where
  tmuxName : Option String
  dmRoomId : Option String
  sender : Option String
  persistent : Bool
  createdAt : Option String
deriving DecidableEq

/-- `JSON.stringify` leaves out the fields that are undefined. -/
def stringify (fields : List (String × Option JsValue)) : JsValue :=
  .obj (fields.filterMap fun field => field.2.map (field.1, ·))

/-- A session as it is written into the state room. -/
def sessionEntry (sessionId : String) (session : TmuxSession) (state : String) : JsValue :=
  stringify
    [("uuid", some (.str sessionId)), ("tmuxName", session.tmuxName.map .str),
      ("dmRoomId", session.dmRoomId.map .str), ("sender", session.sender.map .str),
      ("persistent", some (.bool session.persistent)), ("createdAt", session.createdAt.map .str),
      ("state", some (.str state))]

/-- A room as it is written into the state room. -/
def roomEntry (roomId roomKey joinedAt : String) : JsValue :=
  stringify
    [("room_id", some (.str roomId)), ("room_key", some (.str roomKey)), ("role", some (.str "dm")),
      ("joined_at", some (.str joinedAt))]

/-- What launchers of any device write to the room, and state of other types. -/
inductive StateWrite where
  | started (deviceId sessionId : String) (session : TmuxSession)
  | removed (deviceId sessionId : String)
  | gotRoom (roomId roomKey joinedAt : String)
  | other (type stateKey : String) (content : JsValue)

def record (room : StateRoom) : StateWrite → StateRoom
  | .started deviceId sessionId session =>
      room.writeSession deviceId sessionId (sessionEntry sessionId session "running")
  | .removed deviceId sessionId => room.removeSession deviceId sessionId
  | .gotRoom roomId roomKey joinedAt => room.writeRoom roomId (roomEntry roomId roomKey joinedAt)
  | .other type stateKey content =>
      if type = workerStateRoom ∨ type = workerStateSession then room
      else room.sendStateEvent type stateKey content

/-- The sessions of the registry that `stop` writes; a write may fail. -/
def persisted (registry : List (String × TmuxSession)) (failed : String → Bool) :
    List (String × TmuxSession) :=
  registry.filter fun entry =>
    entry.2.persistent && (entry.2.tmuxName.any (· ≠ "")) && !failed entry.1

/-- The last part of `stop`. An entry says `persistent: true`, as the session is. -/
def stop (deviceId : String) (registry : List (String × TmuxSession)) (failed : String → Bool)
    (room : StateRoom) : StateRoom :=
  (persisted registry failed).foldl
    (fun room entry => room.writeSession deviceId entry.1 (sessionEntry entry.1 entry.2 "detached"))
    room

/-- The maps of a new launcher, the newest entry of a key last, and the sessions that
were removed because their tmux session is gone. -/
structure Recovered where
  sessionRegistry : List (String × TmuxSession)
  sessionRooms : List (String × String)
  stale : List String

/-- A text that is not empty; the entries have texts in these fields or nothing. -/
def textField (value : JsValue) (name : String) : Option String :=
  ((value.get? name).bind Json.asStr).filter (· ≠ "")

/-- An entry that is not of a session's own room is passed over. -/
def recoveredRoom (entry : JsValue) : Option (String × String) := do
  let content ← entry.get? "content"
  let roomId ← textField content "room_id"
  if textField content "role" = some "dm" then
    return (← textField content "room_key", roomId)
  else none

/-- The session id and the session of an entry for this device. -/
def namedSession (deviceId : String) (entry : JsValue) : Option (String × TmuxSession) := do
  let content := ((entry.get? "content").filter Core.truthy).getD (.obj [])
  let stateKey := (textField entry "state_key").getD ""
  let fromKey := ((stateKey.toList.splitOn '/')[1]?.map String.ofList).filter (· ≠ "")
  let sessionId ← (textField content "uuid").or fromKey
  let tmuxName ← textField content "tmuxName"
  if stateKey ≠ "" ∧ ¬ (deviceId ++ "/").toList <+: stateKey.toList then none
  else
    let text (name : String) := (content.get? name).bind Json.asStr
    return (sessionId, ⟨some tmuxName, text "dmRoomId", text "sender", true, text "createdAt"⟩)

/-- Whether tmux still has the session. -/
def isLive (liveTmux : List String) (session : TmuxSession) : Bool :=
  session.tmuxName.any (· ∈ liveTmux)

/-- A room that was recorded for the key. -/
def roomOf (sessionRooms : List (String × String)) (roomKey : String) : Option String :=
  sessionRooms.reverse.lookup roomKey

/-- The rooms of recovered sessions are entered where there is none. -/
def cacheRoom (username : String) (sessionRooms : List (String × String)) (session : TmuxSession) :
    List (String × String) :=
  match session.dmRoomId.filter (· ≠ ""), session.sender.filter (· ≠ "") with
  | some roomId, some sender =>
      let key := username ++ ":" ++ sender
      if (roomOf sessionRooms key).isSome then sessionRooms else sessionRooms ++ [(key, roomId)]
  | _, _ => sessionRooms

/-- What is taken up after a restart. -/
def recoverSessions (deviceId username : String) (liveTmux : List String)
    (response : Option (List StateEvent)) : Recovered :=
  let rooms := (readRooms response).filterMap recoveredRoom
  let sessions := (readSessions response).filterMap (namedSession deviceId)
  let registry := sessions.filter (isLive liveTmux ·.2)
  { sessionRegistry := registry
    sessionRooms := (registry.map (·.2)).foldl (cacheRoom username) rooms
    stale := (sessions.filter (!isLive liveTmux ·.2)).map (·.1) }

/-- The rooms that the history records, by key. -/
def recordedRooms (history : List StateWrite) : List (String × String) :=
  history.filterMap fun write =>
    match write with
    | .gotRoom roomId roomKey _ => some (roomKey, roomId)
    | _ => none

/-- The registry has exactly the sessions that were written and live, and each key that
was recorded has its room. -/
structure RoundTrip (written : List (String × TmuxSession)) (recorded : List (String × String))
    (liveTmux : List String) (recovered : Recovered) : Prop where
  sessions : ∀ entry, entry ∈ recovered.sessionRegistry ↔
    entry ∈ written ∧ isLive liveTmux entry.2 = true
  rooms : ∀ roomKey roomId, roomOf recorded roomKey = some roomId →
    roomOf recovered.sessionRooms roomKey = some roomId

section Entries

/-- No entry has a content within its content. -/
def Bare (room : StateRoom) : Prop :=
  ∀ event ∈ room, event.type = workerStateRoom ∨ event.type = workerStateSession →
    event.content.get? "content" = none

variable {room : StateRoom}

theorem bare_sendStateEvent (h : Bare room) {type stateKey : String} {content : JsValue}
    (hContent : type = workerStateRoom ∨ type = workerStateSession →
      content.get? "content" = none) :
    Bare (room.sendStateEvent type stateKey content) := by
  intro event hEvent hType
  rcases List.mem_append.mp hEvent with hOld | hNew
  · exact h event (List.mem_filter.mp hOld).1 hType
  · obtain rfl := List.mem_singleton.mp hNew
    exact hContent hType

theorem sessionEntry_content (sessionId : String) (session : TmuxSession) (state : String) :
    (sessionEntry sessionId session state).get? "content" = none := by
  obtain ⟨tmuxName, dmRoomId, sender, persistent, createdAt⟩ := session
  cases tmuxName <;> cases dmRoomId <;> cases sender <;> cases createdAt <;> rfl

theorem bare_record (room : StateRoom) (write : StateWrite) (h : Bare room) :
    Bare (record room write) := by
  cases write with
  | started deviceId sessionId session =>
      exact bare_sendStateEvent h fun _ => sessionEntry_content sessionId session _
  | removed deviceId sessionId => exact bare_sendStateEvent h fun _ => rfl
  | gotRoom roomId roomKey joinedAt => exact bare_sendStateEvent h fun _ => rfl
  | other type stateKey content =>
      rw [record]
      split
      · exact h
      next hType => exact bare_sendStateEvent h fun hEntry => absurd hEntry hType

theorem bare_stop (deviceId : String) (registry : List (String × TmuxSession))
    (failed : String → Bool) (h : Bare room) : Bare (stop deviceId registry failed room) := by
  unfold stop
  induction persisted registry failed generalizing room with
  | nil => exact h
  | cons entry rest ih =>
      exact ih (bare_sendStateEvent h fun _ => sessionEntry_content entry.1 entry.2 _)

/-- The reader hands on the contents, and the launcher looks for the contents in them. -/
theorem recoveredRoom_eq_none {entry : JsValue} (h : entry.get? "content" = none) :
    recoveredRoom entry = none := by
  rw [recoveredRoom, h]
  rfl

theorem namedSession_eq_none {entry : JsValue} (deviceId : String)
    (h : entry.get? "content" = none) : namedSession deviceId entry = none := by
  have hTmux : textField (((entry.get? "content").filter Core.truthy).getD (.obj [])) "tmuxName" =
      none := by
    rw [h]
    rfl
  rw [namedSession, hTmux]
  cases (textField _ "uuid").or _ <;> rfl

theorem recoverSessions_eq (deviceId username : String) (liveTmux : List String)
    {events : List StateEvent} (h : Bare events) :
    recoverSessions deviceId username liveTmux (some events) = ⟨[], [], []⟩ := by
  have hRooms : (readRooms (some events)).filterMap recoveredRoom = [] := by
    rw [List.filterMap_eq_nil_iff]
    intro content hContent
    obtain ⟨event, hEvent, hType, rfl⟩ := CoreWasm.mem_readAllStateEventsOfType hContent
    exact recoveredRoom_eq_none (h event hEvent (.inl hType))
  have hSessions : (readSessions (some events)).filterMap (namedSession deviceId) = [] := by
    rw [List.filterMap_eq_nil_iff]
    intro content hContent
    obtain ⟨event, hEvent, hType, rfl⟩ := CoreWasm.mem_readAllStateEventsOfType hContent
    exact namedSession_eq_none deviceId (h event hEvent (.inr hType))
  rw [recoverSessions, hRooms, hSessions]
  rfl

end Entries

theorem roundTrip_nothing_iff {written : List (String × TmuxSession)}
    {recorded : List (String × String)} {liveTmux : List String} :
    RoundTrip written recorded liveTmux ⟨[], [], []⟩ ↔
      (∀ entry ∈ written, isLive liveTmux entry.2 = false) ∧ recorded = [] := by
  constructor
  · intro h
    constructor
    · intro entry hEntry
      by_contra hLive
      have hMem := (h.sessions entry).mpr ⟨hEntry, by simpa using hLive⟩
      cases hMem
    · rcases List.eq_nil_or_concat recorded with hNone | ⟨earlier, ⟨roomKey, roomId⟩, rfl⟩
      · exact hNone
      · have hRoom := h.rooms roomKey roomId (by simp [roomOf])
        cases hRoom
  · rintro ⟨hDead, rfl⟩
    refine ⟨fun entry => iff_of_false (by simp) fun hEntry => ?_, fun roomKey roomId hRoom => ?_⟩
    · rw [hDead entry hEntry.1] at hEntry
      cases hEntry.2
    · cases hRoom

/-- Whatever launchers have written before, after a stop and a restart the sessions and
rooms are there exactly if no written session is alive and no room was recorded. -/
theorem roundTrip_iff (history : List StateWrite) (registry : List (String × TmuxSession))
    (failed : String → Bool) (deviceId username : String) (liveTmux : List String)
    {events : List StateEvent}
    (hEvents : events.Perm (stop deviceId registry failed (run record [] history))) :
    RoundTrip (persisted registry failed) (recordedRooms history) liveTmux
        (recoverSessions deviceId username liveTmux (some events)) ↔
      (∀ entry ∈ persisted registry failed, isLive liveTmux entry.2 = false) ∧
        recordedRooms history = [] := by
  have hHistory : Bare (run record [] history) :=
    (always_of_step bare_record (by simp [Bare]) history).last
  have hBare : Bare events := fun event hEvent =>
    bare_stop deviceId registry failed hHistory event (hEvents.subset hEvent)
  rw [recoverSessions_eq deviceId username liveTmux hBare, roundTrip_nothing_iff]

section Examples

/-- A session as `stop` finds it in the registry. -/
def shellSession : TmuxSession :=
  ⟨some "mxdx-1a2b", some "!dm:hs", some "@client:hs", true, some "2026-03-01T00:00:00.000Z"⟩

theorem roundTrip_dead :
    let registry := [("1a2b3c4d", shellSession)]
    RoundTrip (persisted registry fun _ => false) [] []
      (recoverSessions "DEVICE" "launcher" []
        (some (stop "DEVICE" registry (fun _ => false) []))) := by
  intro registry
  exact (roundTrip_iff [] registry (fun _ => false) "DEVICE" "launcher" [] (List.Perm.refl _)).mpr
    ⟨by decide, rfl⟩

/-- A session that lives on in tmux is written and not found again. -/
theorem live_session_lost :
    let registry := [("1a2b3c4d", shellSession)]
    let recovered := recoverSessions "DEVICE" "launcher" ["mxdx-1a2b"]
      (some (stop "DEVICE" registry (fun _ => false) []))
    persisted registry (fun _ => false) = registry ∧ recovered.sessionRegistry = [] ∧
      ¬ RoundTrip registry [] ["mxdx-1a2b"] recovered := by
  intro registry recovered
  have hBare : Bare (stop "DEVICE" registry (fun _ => false) []) :=
    bare_stop _ _ _ (by simp [Bare])
  have hRecovered : recovered = ⟨[], [], []⟩ := recoverSessions_eq _ _ _ hBare
  refine ⟨rfl, by rw [hRecovered], fun h => ?_⟩
  have hMem := (h.sessions ("1a2b3c4d", shellSession)).mpr ⟨List.mem_singleton.mpr rfl, rfl⟩
  rw [hRecovered] at hMem
  cases hMem

end Examples

end Mxdx.Runtime
