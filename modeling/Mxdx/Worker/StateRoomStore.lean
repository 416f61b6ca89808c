import Mxdx.Worker.StateRoom
import Mxdx.Matrix.Client
import Mxdx.Foundations.Automaton

/-! What a worker entrusts to its state room, and what it reads back. Sessions go by the
pair of their device and their id, but the room knows them by one text made of both. -/
namespace Mxdx.Worker.StateRoom

open Automaton
open MatrixClient (WriteAnswer)

/-- The entries as they were written last and not removed since. -/
structure Kept where
  config : Option WorkerStateConfig
  sessions : List ((String × String) × StateRoomSession)
  rooms : List (String × StateRoomEntry)
  trustedClients : List (String × TrustedEntity)
  trustedCoordinators : List (String × TrustedEntity)
  topology : Option StateRoomTopology

/-- The types that the worker keeps anything under. -/
def keptTypes : List String :=
  [workerStateConfig, workerStateSession, workerStateRoom, workerStateTrustedClient,
    workerStateTrustedCoordinator, workerStateTopology]

/-- The writes of the worker, and those that are none of its business. -/
inductive StateRoomWrite where
  | config (config : WorkerStateConfig)
  | session (deviceId uuid : String) (session : StateRoomSession)
  | removal (deviceId uuid : String)
  | room (roomIdKey : String) (entry : StateRoomEntry)
  | trustedClient (userId : String) (entity : TrustedEntity)
  | trustedCoordinator (userId : String) (entity : TrustedEntity)
  | topology (topology : StateRoomTopology)
  | other (eventType : { eventType : String // eventType ∉ keptTypes }) (stateKey : String)
      (content : Value)

namespace StateRoomWrite

/-- The write as the room gets it. -/
def send (write : StateRoomWrite) (state : RoomState) : RoomState :=
  match write with
  | .config value => state.writeConfig value
  | .session deviceId uuid value => state.writeSession deviceId uuid value
  | .removal deviceId uuid => state.removeSession deviceId uuid
  | .room roomIdKey entry => state.writeRoom roomIdKey entry
  | .trustedClient userId entity => state.writeTrustedClient userId entity
  | .trustedCoordinator userId entity => state.writeTrustedCoordinator userId entity
  | .topology value => state.writeTopology value
  | .other eventType stateKey content => state.sendStateEvent eventType stateKey content

/-- The write as it is meant. -/
def record (write : StateRoomWrite) (kept : Kept) : Kept :=
  match write with
  | .config value => { kept with config := some value }
  | .session deviceId uuid value =>
      { kept with sessions := KeyedStore.assign (deviceId, uuid) value kept.sessions }
  | .removal deviceId uuid =>
      { kept with sessions := KeyedStore.erase (deviceId, uuid) kept.sessions }
  | .room roomIdKey entry => { kept with rooms := KeyedStore.assign roomIdKey entry kept.rooms }
  | .trustedClient userId entity =>
      { kept with trustedClients := KeyedStore.assign userId entity kept.trustedClients }
  | .trustedCoordinator userId entity =>
      { kept with
        trustedCoordinators := KeyedStore.assign userId entity kept.trustedCoordinators }
  | .topology value => { kept with topology := some value }
  | .other _ _ _ => kept

/-- The session that is written or removed. -/
def pair? : StateRoomWrite → Option (String × String)
  | session deviceId uuid _ | removal deviceId uuid => some (deviceId, uuid)
  | _ => none

end StateRoomWrite

/-- The room, and what ought to be in it. -/
structure World where
  room : RoomState
  kept : Kept

/-- Nothing has been written. -/
def World.new : World := ⟨[], ⟨none, [], [], [], [], none⟩⟩

/-- A write whose answer is lost has been made. -/
def step (world : World) (input : StateRoomWrite × WriteAnswer) : World :=
  if input.2.lands then ⟨input.1.send world.room, input.1.record world.kept⟩ else world

/-- Every read gives what was written, whatever the order in which the homeserver lists it. -/
structure Agrees (world : World) : Prop where
  config : world.room.readConfig = some world.kept.config
  sessions : ∀ listing, listing.Perm (world.room.map envelope) →
    (readSessions listing).Perm (world.kept.sessions.map Prod.snd)
  rooms : ∀ listing, listing.Perm (world.room.map envelope) →
    (readRooms listing).Perm (world.kept.rooms.map Prod.snd)
  trustedClients : ∀ listing, listing.Perm (world.room.map envelope) →
    (readTrustedClients listing).Perm (world.kept.trustedClients.map Prod.snd)
  trustedCoordinators : ∀ listing, listing.Perm (world.room.map envelope) →
    (readTrustedCoordinators listing).Perm (world.kept.trustedCoordinators.map Prod.snd)
  topology : world.room.readTopology = some world.kept.topology

/-- The text that a session goes by in the room. -/
def sessionKey (pair : String × String) : String := formatSessionKey pair.1 pair.2

/-- A session that is written or removed shares its text with no other one that is kept. -/
def Unshared (world : World) (input : StateRoomWrite × WriteAnswer) : Prop :=
  input.2.lands = true →
    ∀ pair ∈ input.1.pair?, KeyedStore.Apart sessionKey world.kept.sessions pair

section Kinds

variable {α : Type} {fromValue : Value → Option α} {toValue : α → Value}

/-- The one event of a type holds the value, or is not there. -/
def Single (toValue : α → Value) (eventType : String) (room : RoomState) (value : Option α) :
    Prop :=
  room.lookup (eventType, "") = value.map toValue

/-- The events of a type hold the entries of the table. -/
def Many {K : Type} (name : K → String) (fromValue : Value → Option α) (eventType : String)
    (room : RoomState) (table : List (K × α)) : Prop :=
  KeyedStore.Spelled name table (live fromValue eventType room)

variable {eventType type stateKey : String} {room : RoomState} {content : Value}

theorem Single.send_of_ne {value : Option α} (h : Single toValue eventType room value)
    (hType : type ≠ eventType) :
    Single toValue eventType (room.sendStateEvent type stateKey content) value := by
  have hKey : (eventType, "") ≠ (type, stateKey) := fun hEq => hType (congrArg Prod.fst hEq).symm
  rw [Single, RoomState.sendStateEvent, KeyedStore.lookup_assign_of_ne _ _ hKey]
  exact h

theorem Single.send (value : α) :
    Single toValue eventType (room.sendStateEvent eventType "" (toValue value)) (some value) :=
  KeyedStore.lookup_assign_self _ _ _

theorem Single.read {value : Option α} (h : Single toValue eventType room value)
    (hError : ∀ value, (toValue value).get? "errcode" = none)
    (hEmpty : ∀ value, isEmptyContent (toValue value) = false)
    (hBack : ∀ value, fromValue (toValue value) = some value) :
    deserializeIfPresent fromValue (room.getRoomStateEvent eventType "") = some value := by
  rw [RoomState.getRoomStateEvent, h]
  cases value with
  | none => rfl
  | some value => simp [deserializeIfPresent, hError, hEmpty, hBack]

variable {K : Type} {name : K → String} {table : List (K × α)}

theorem Many.send_of_ne (h : Many name fromValue eventType room table) (hType : type ≠ eventType) :
    Many name fromValue eventType (room.sendStateEvent type stateKey content) table := by
  rw [Many, live_send_of_ne room stateKey content hType]
  exact h

theorem Many.read (h : Many name fromValue eventType room table) {listing : List Value}
    (hListing : listing.Perm (room.map envelope)) :
    (deserializeAllOfType fromValue listing eventType).Perm (table.map Prod.snd) :=
  (deserializeAllOfType_perm hListing).trans (KeyedStore.Spelled.values h)

variable [DecidableEq K]

theorem Many.send {key : K} {value : α} (h : Many name fromValue eventType room table)
    (hApart : KeyedStore.Apart name table key) (hContent : isEmptyContent content = false)
    (hValue : fromValue content = some value) :
    Many name fromValue eventType (room.sendStateEvent eventType (name key) content)
      (KeyedStore.assign key value table) := by
  rw [Many, live_send room (name key) hContent hValue]
  exact KeyedStore.Spelled.assign h hApart

theorem Many.remove {key : K} (h : Many name fromValue eventType room table)
    (hApart : KeyedStore.Apart name table key) :
    Many name fromValue eventType (room.sendStateEvent eventType (name key) (.obj []))
      (KeyedStore.erase key table) := by
  rw [Many, live_send_empty]
  exact KeyedStore.Spelled.erase h hApart

theorem Many.apart_of_send {key : K} {value : α} (h : Many name fromValue eventType room table)
    (hContent : isEmptyContent content = false) (hValue : fromValue content = some value)
    (hRead : (deserializeAllOfType fromValue
      ((room.sendStateEvent eventType (name key) content).map envelope) eventType).Perm
        ((KeyedStore.assign key value table).map Prod.snd)) :
    KeyedStore.Apart name table key := by
  have hLive := (deserializeAllOfType_perm (.refl _)).symm.trans hRead
  rw [live_send room (name key) hContent hValue] at hLive
  exact KeyedStore.Spelled.apart_of_assign h hLive

theorem Many.apart_of_remove {key : K} (h : Many name fromValue eventType room table)
    (hRead : (deserializeAllOfType fromValue
      ((room.sendStateEvent eventType (name key) (.obj [])).map envelope) eventType).Perm
        ((KeyedStore.erase key table).map Prod.snd)) :
    KeyedStore.Apart name table key := by
  have hLive := (deserializeAllOfType_perm (.refl _)).symm.trans hRead
  rw [live_send_empty] at hLive
  exact KeyedStore.Spelled.apart_of_erase h hLive

end Kinds

/-- The room holds what is kept, each entry under its own text. -/
structure Holds (world : World) : Prop where
  config : Single WorkerStateConfig.toValue workerStateConfig world.room world.kept.config
  sessions : Many sessionKey StateRoomSession.fromValue workerStateSession world.room
    world.kept.sessions
  rooms : Many id StateRoomEntry.fromValue workerStateRoom world.room world.kept.rooms
  trustedClients : Many id TrustedEntity.fromValue workerStateTrustedClient world.room
    world.kept.trustedClients
  trustedCoordinators : Many id TrustedEntity.fromValue workerStateTrustedCoordinator world.room
    world.kept.trustedCoordinators
  topology : Single StateRoomTopology.toValue workerStateTopology world.room world.kept.topology

namespace Holds

variable {world : World}

theorem new : Holds World.new := ⟨rfl, .refl _, .refl _, .refl _, .refl _, rfl⟩

/-- What the room holds is what is read from it. -/
theorem agrees (h : Holds world) : Agrees world where
  config := h.config.read (fun _ => rfl) (fun _ => rfl) WorkerStateConfig.fromValue_toValue
  sessions _ := h.sessions.read
  rooms _ := h.rooms.read
  trustedClients _ := h.trustedClients.read
  trustedCoordinators _ := h.trustedCoordinators.read
  topology := h.topology.read (fun _ => rfl) (fun _ => rfl) StateRoomTopology.fromValue_toValue

/-- An event of a type that is not kept changes no entry. -/
theorem send_other (h : Holds world) {type : String} (hType : type ∉ keptTypes)
    (stateKey : String) (content : Value) :
    Holds ⟨world.room.sendStateEvent type stateKey content, world.kept⟩ := by
  have hNe : ∀ kept ∈ keptTypes, type ≠ kept := fun kept hKept hSame => hType (hSame ▸ hKept)
  simp only [keptTypes, List.forall_mem_cons] at hNe
  obtain ⟨hConfig, hSession, hRoom, hClient, hCoordinator, hTopology, -⟩ := hNe
  exact ⟨h.config.send_of_ne hConfig, h.sessions.send_of_ne hSession, h.rooms.send_of_ne hRoom,
    h.trustedClients.send_of_ne hClient, h.trustedCoordinators.send_of_ne hCoordinator,
    h.topology.send_of_ne hTopology⟩

/-- A write that shares no text with another entry is kept. -/
theorem write (h : Holds world) (write : StateRoomWrite)
    (hApart : ∀ pair ∈ write.pair?, KeyedStore.Apart sessionKey world.kept.sessions pair) :
    Holds ⟨write.send world.room, write.record world.kept⟩ := by
  cases write with
  | config config =>
      exact ⟨.send config, h.sessions.send_of_ne (by decide), h.rooms.send_of_ne (by decide),
        h.trustedClients.send_of_ne (by decide), h.trustedCoordinators.send_of_ne (by decide),
        h.topology.send_of_ne (by decide)⟩
  | session deviceId uuid session =>
      exact ⟨h.config.send_of_ne (by decide),
        h.sessions.send (hApart _ rfl) rfl (StateRoomSession.fromValue_toValue session),
        h.rooms.send_of_ne (by decide), h.trustedClients.send_of_ne (by decide),
        h.trustedCoordinators.send_of_ne (by decide), h.topology.send_of_ne (by decide)⟩
  | removal deviceId uuid =>
      exact ⟨h.config.send_of_ne (by decide), h.sessions.remove (hApart _ rfl),
        h.rooms.send_of_ne (by decide), h.trustedClients.send_of_ne (by decide),
        h.trustedCoordinators.send_of_ne (by decide), h.topology.send_of_ne (by decide)⟩
  | room roomIdKey entry =>
      exact ⟨h.config.send_of_ne (by decide), h.sessions.send_of_ne (by decide),
        h.rooms.send (KeyedStore.apart_of_injective Function.injective_id _ _) rfl
          (StateRoomEntry.fromValue_toValue entry),
        h.trustedClients.send_of_ne (by decide), h.trustedCoordinators.send_of_ne (by decide),
        h.topology.send_of_ne (by decide)⟩
  | trustedClient userId entity =>
      exact ⟨h.config.send_of_ne (by decide), h.sessions.send_of_ne (by decide),
        h.rooms.send_of_ne (by decide),
        h.trustedClients.send (KeyedStore.apart_of_injective Function.injective_id _ _) rfl
          (TrustedEntity.fromValue_toValue entity),
        h.trustedCoordinators.send_of_ne (by decide), h.topology.send_of_ne (by decide)⟩
  | trustedCoordinator userId entity =>
      exact ⟨h.config.send_of_ne (by decide), h.sessions.send_of_ne (by decide),
        h.rooms.send_of_ne (by decide), h.trustedClients.send_of_ne (by decide),
        h.trustedCoordinators.send (KeyedStore.apart_of_injective Function.injective_id _ _) rfl
          (TrustedEntity.fromValue_toValue entity),
        h.topology.send_of_ne (by decide)⟩
  | topology topology =>
      exact ⟨h.config.send_of_ne (by decide), h.sessions.send_of_ne (by decide),
        h.rooms.send_of_ne (by decide), h.trustedClients.send_of_ne (by decide),
        h.trustedCoordinators.send_of_ne (by decide), .send topology⟩
  | other eventType stateKey content => exact h.send_other eventType.2 stateKey content

theorem step (h : Holds world) {input : StateRoomWrite × WriteAnswer}
    (hUnshared : Unshared world input) : Holds (step world input) := by
  rw [StateRoom.step]
  split_ifs with hLands
  · exact h.write input.1 (hUnshared hLands)
  · exact h

/-- A text that is shared shows in what is read. -/
theorem unshared (h : Holds world) {input : StateRoomWrite × WriteAnswer}
    (hAfter : Agrees (StateRoom.step world input)) : Unshared world input := by
  obtain ⟨write, answer⟩ := input
  intro hLands pair hPair
  rw [StateRoom.step, if_pos hLands] at hAfter
  have hSessions := hAfter.sessions _ (.refl _)
  cases write with
  | session deviceId uuid session =>
      obtain rfl := Option.some.inj hPair
      exact h.sessions.apart_of_send rfl (StateRoomSession.fromValue_toValue session) hSessions
  | removal deviceId uuid =>
      obtain rfl := Option.some.inj hPair
      exact h.sessions.apart_of_remove hSessions
  | _ => cases hPair

end Holds

section Plain

/-- The device of the session has no slash in its name. -/
def StateRoomWrite.Plain (write : StateRoomWrite) : Prop :=
  ∀ pair ∈ write.pair?, '/' ∉ pair.1.toList

theorem takeWhile_slash {text rest : List Char} (h : '/' ∉ text) :
    (text ++ '/' :: rest).takeWhile (· ≠ '/') = text := by
  have hText : ∀ c ∈ text, decide (c ≠ '/') = true := fun c hc =>
    decide_eq_true fun hSlash => h (hSlash ▸ hc)
  rw [List.takeWhile_append_of_pos hText, List.takeWhile_cons_of_neg (by simp), List.append_nil]

theorem sessionKey_inj {first second : String × String} (hFirst : '/' ∉ first.1.toList)
    (hSecond : '/' ∉ second.1.toList) (h : sessionKey first = sessionKey second) :
    first = second := by
  have hText := congrArg String.toList h
  simp only [sessionKey, formatSessionKey, String.toList_append] at hText
  have hSlash : "/".toList = ['/'] := rfl
  rw [hSlash, List.append_assoc, List.append_assoc, List.singleton_append,
    List.singleton_append] at hText
  have hDevice := congrArg (List.takeWhile (· ≠ '/')) hText
  rw [takeWhile_slash hFirst, takeWhile_slash hSecond] at hDevice
  rw [hDevice, List.append_cancel_left_eq, List.cons.injEq] at hText
  exact Prod.ext (String.toList_injective hDevice) (String.toList_injective hText.2)

/-- The devices of the sessions that are kept have no slash in their names. -/
def PlainKept (world : World) : Prop := ∀ entry ∈ world.kept.sessions, '/' ∉ entry.1.1.toList

theorem PlainKept.unshared {world : World} (h : PlainKept world)
    {input : StateRoomWrite × WriteAnswer} (hPlain : input.1.Plain) : Unshared world input :=
  fun _ pair hPair entry hEntry => sessionKey_inj (h entry hEntry) (hPlain pair hPair)

theorem PlainKept.step {world : World} (h : PlainKept world)
    {input : StateRoomWrite × WriteAnswer} (hPlain : input.1.Plain) :
    PlainKept (step world input) := by
  obtain ⟨write, answer⟩ := input
  rw [StateRoom.step]
  split_ifs
  · intro entry hEntry
    cases write with
    | session deviceId uuid session =>
        rcases List.mem_append.mp hEntry with hOld | hNew
        · exact h entry (List.mem_of_mem_filter hOld)
        · obtain rfl := List.mem_singleton.mp hNew
          exact hPlain _ rfl
    | removal deviceId uuid => exact h entry (List.mem_of_mem_filter hEntry)
    | _ => exact h entry hEntry
  · exact h

end Plain

/-- In every state of a run the worker reads back what it has written exactly when no two of
its sessions come to share a text; that never happens where devices have no slash in their
names. -/
theorem state_room_agrees_iff (inputs : List (StateRoomWrite × WriteAnswer)) :
    (Always step Agrees World.new inputs ↔ Admissible step Unshared World.new inputs) ∧
      ((∀ input ∈ inputs, input.1.Plain) → Always step Agrees World.new inputs) := by
  have hIff : Always step Agrees World.new inputs ↔ Admissible step Unshared World.new inputs :=
    always_iff_admissible_of_stronger (fun _ h => Holds.agrees h)
      (fun _ _ _ h hUnshared => Holds.step h hUnshared)
      (fun _ _ _ h hAfter => Holds.unshared h hAfter) (fun _ _ => trivial) Holds.new
  refine ⟨hIff, fun hPlain => hIff.mpr ?_⟩
  have hStart : PlainKept World.new := List.forall_mem_nil _
  exact (admissible_of_forall hPlain).mono_under (fun _ _ h hInput => PlainKept.step h hInput)
    (fun _ _ h hInput => PlainKept.unshared h hInput) hStart

end Mxdx.Worker.StateRoom
