import Mxdx.Core.P2PTransport

/-! The state room of a worker: entries for its sessions and rooms as state events,
and what is read back of them. -/
namespace Mxdx.CoreWasm

open Mxdx.Core (JsValue)

/-- An event as the homeserver lists it. -/
structure StateEvent where
  type : String
  stateKey : String
  content : JsValue

/-- The state key is the id of the room. -/
def workerStateRoom : String := "org.mxdx.worker.room"

/-- The state key is made of the device and the session. -/
def workerStateSession : String := "org.mxdx.worker.session"

/-- The current state events of a room, one for each type and state key. -/
abbrev StateRoom := List StateEvent

namespace StateRoom

/-- Replaces the event of the type and state key. -/
def sendStateEvent (room : StateRoom) (type stateKey : String) (content : JsValue) : StateRoom :=
  (room.filter fun event => !(event.type = type && event.stateKey = stateKey)) ++
    [⟨type, stateKey, content⟩]

/-- The browser does not look at what it writes. -/
def writeSession (room : StateRoom) (deviceId uuid : String) (session : JsValue) : StateRoom :=
  room.sendStateEvent workerStateSession (deviceId ++ "/" ++ uuid) session

/-- Matrix removes no state event: the content is emptied. -/
def removeSession (room : StateRoom) (deviceId uuid : String) : StateRoom :=
  room.sendStateEvent workerStateSession (deviceId ++ "/" ++ uuid) (.obj [])

def writeRoom (room : StateRoom) (roomId : String) (entry : JsValue) : StateRoom :=
  room.sendStateEvent workerStateRoom roomId entry

end StateRoom

/-- What counts as removed. -/
def isEmptyContent : JsValue → Bool
  | .null | .obj [] => true
  | _ => false

/-- The contents of the events of a type, without the removed entries; nothing if the
homeserver does not answer with success. -/
def readAllStateEventsOfType (response : Option (List StateEvent)) (type : String) : List JsValue :=
  match response with
  | none => []
  | some events =>
      (events.filter fun event => event.type = type && !isEmptyContent event.content).map
        (·.content)

/-- Whatever is not empty counts as a session. -/
def readSessions (response : Option (List StateEvent)) : List JsValue :=
  readAllStateEventsOfType response workerStateSession

/-- Whatever is not empty counts as a room. -/
def readRooms (response : Option (List StateEvent)) : List JsValue :=
  readAllStateEventsOfType response workerStateRoom

theorem mem_readAllStateEventsOfType {events : List StateEvent} {type : String} {content : JsValue}
    (h : content ∈ readAllStateEventsOfType (some events) type) :
    ∃ event ∈ events, event.type = type ∧ event.content = content := by
  obtain ⟨event, hEvent, rfl⟩ := List.mem_map.mp h
  obtain ⟨hMem, hType⟩ := List.mem_filter.mp hEvent
  exact ⟨event, hMem, of_decide_eq_true (Bool.and_eq_true_iff.mp hType).1, rfl⟩

end Mxdx.CoreWasm
