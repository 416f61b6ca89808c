import Mxdx.Matrix.StateRooms
import Mxdx.Foundations.Automaton

/-! `WorkerStateRoom::get_or_create`: a worker takes the room that its keychain has for its
account, else the one that its alias or its topic leads to, else a new one. The keychains
outlive the processes and are shared by all workers that run with them, under whatever
name; the homeserver is shared with everybody else. -/
namespace Mxdx.Worker.StateRoomSetup

open MatrixClient

/-- How the requests of one call end, in the order in which they can be made. `listing` is
what the client lists of the joined rooms in the search by topic, none if its sync fails;
`listed` tells whether it lists the room that was found. -/
structure StartAnswers where
  keychainGet : Bool
  cachedState : Bool
  directory : Bool
  listing : Option (List RoomId)
  sync : Bool
  listed : Bool
  join : WriteAnswer
  foundState : Bool
  create : WriteAnswer
  delete : WriteAnswer
  recreate : WriteAnswer
  version11 : Bool
  keychainSet : Bool
  deviceId : String
  identity : WriteAnswer

/-- The key of the room id in a keychain. -/
def stateRoomKey (userId : String) : String := "mxdx/" ++ userId ++ "/state-room-id"

/-- The key tells the account, and no more than the account. -/
theorem stateRoomKey_inj {first second : String} :
    stateRoomKey first = stateRoomKey second ↔ first = second := by
  rw [stateRoomKey, stateRoomKey, String.append_left_inj, String.append_right_inj]

/-- The keychains of the operating systems, one for each user of a host. -/
abbrev KeychainId := Nat

/-- `keychain` are the entries of all keychains under their keys; an entry that is no room
id is as good as none. `given` are the rooms that calls have returned, the latest first. -/
structure Fleet where
  server : HomeServer
  keychain : KeychainId × String → Option RoomId
  given : List (WorkerDevice × RoomId)

namespace Fleet

/-- No worker has been given a room yet. -/
def new (server : HomeServer) (keychain : KeychainId × String → Option RoomId) : Fleet :=
  ⟨server, keychain, []⟩

def empty : Fleet := new .empty fun _ => none

/-- The room that a keychain has for the account of a worker. -/
def cached (fleet : Fleet) (keychainId : KeychainId) (device : WorkerDevice) : Option RoomId :=
  fleet.keychain (keychainId, stateRoomKey device.userId)

/-- A keychain that refuses to store is passed over. -/
def remember (fleet : Fleet) (keychainId : KeychainId) (device : WorkerDevice) (roomId : RoomId)
    (set : Bool) : Fleet :=
  if set then
    { fleet with
      keychain := Function.update fleet.keychain (keychainId, stateRoomKey device.userId)
        (some roomId) }
  else fleet

/-- Steps 1 to 3. -/
def cachedRoom (fleet : Fleet) (keychainId : KeychainId) (device : WorkerDevice)
    (trusted : List String) (answered : Bool) : Option RoomId :=
  (fleet.cached keychainId device).bind (fleet.server.validated device trusted answered)

/-- Step 4b: the room that was found, if the worker is or gets into it; `none` where the
sync fails. -/
def enterFound (server : HomeServer) (device : WorkerDevice) (answers : StartAnswers) :
    Option RoomId → Option (HomeServer × Option RoomId)
  | none => some (server, none)
  | some roomId =>
      if answers.sync then
        let alreadyJoined := server.joined device.userId roomId && answers.listed
        let joinOk := alreadyJoined || answers.join = .ok
        some (if !alreadyJoined && answers.join.lands then
            server.setJoined device.userId roomId true else server,
          if joinOk then some roomId else none)
      else none

/-- Step 6, up to the new room. An alias that is in the way is deleted once. -/
def makeRoom (server : HomeServer) (device : WorkerDevice) (answers : StartAnswers) :
    HomeServer × Option RoomId :=
  match server.createWorkerStateRoom device answers.version11 answers.create with
  | (made, .created roomId) => (made, some roomId)
  | (made, .failed) => (made, none)
  | (made, .roomInUse) =>
      match made.deleteRoomAlias device.userId device.roomAlias answers.delete with
      | (freed, false) => (freed, none)
      | (freed, true) =>
          match freed.createWorkerStateRoom device answers.version11 answers.recreate with
          | (remade, .created roomId) => (remade, some roomId)
          | (remade, _) => (remade, none)

/-- What tells which device of the account the room belongs to. -/
def identityEvent (device : WorkerDevice) (answers : StartAnswers) : Value :=
  stateEvent "org.mxdx.worker.identity" (.obj [("device_id", .str answers.deviceId),
    ("host", .str device.hostname), ("os_user", .str device.osUser)])

/-- The rest of step 6: a new room is returned once its identity event is written. -/
def introduce (fleet : Fleet) (keychainId : KeychainId) (device : WorkerDevice)
    (answers : StartAnswers) (roomId : RoomId) : Fleet × Option RoomId :=
  let known := fleet.remember keychainId device roomId answers.keychainSet
  let server := if answers.identity.lands then
    known.server.sendStateEvent roomId (identityEvent device answers) else known.server
  ({ known with server := server }, if answers.identity = .ok then some roomId else none)

/-- A room that was made is entered and remembered. -/
def create (fleet : Fleet) (keychainId : KeychainId) (device : WorkerDevice)
    (answers : StartAnswers) : Fleet × Option RoomId :=
  match makeRoom fleet.server device answers with
  | (server, none) => ({ fleet with server := server }, none)
  | (server, some roomId) =>
      introduce { fleet with server := server } keychainId device answers roomId

/-- Steps 4 to 6. -/
def discover (fleet : Fleet) (keychainId : KeychainId) (device : WorkerDevice)
    (trusted : List String) (answers : StartAnswers) : Fleet × Option RoomId :=
  match fleet.server.findWorkerStateRoom device answers.directory answers.listing with
  | none => (fleet, none)
  | some found =>
      match enterFound fleet.server device answers found with
      | none => (fleet, none)
      | some (server, entered) =>
          match entered.bind (server.validated device trusted answers.foundState) with
          | some roomId =>
              ({ fleet with server := server }.remember keychainId device roomId
                answers.keychainSet, some roomId)
          | none => create { fleet with server := server } keychainId device answers

/-- The keychain is asked first, and a keychain that fails ends the start. -/
def getOrCreate (fleet : Fleet) (keychainId : KeychainId) (device : WorkerDevice)
    (trusted : List String) (answers : StartAnswers) : Fleet × Option RoomId :=
  if answers.keychainGet then
    match fleet.cachedRoom keychainId device trusted answers.cachedState with
    | some roomId => (fleet, some roomId)
    | none => fleet.discover keychainId device trusted answers
  else (fleet, none)

/-- A call of a worker with its keychain, or what anybody else does to the homeserver; an
entry of a keychain can get lost or be overwritten, as where a file serves several keys. -/
inductive FleetInput where
  | start (keychainId : KeychainId) (device : WorkerDevice) (answers : StartAnswers)
  | createRoom (room : HostedRoom)
  | bindAlias (userId roomAlias : String) (roomId : RoomId)
  | removeAlias (roomAlias : String)
  | setJoined (userId : String) (roomId : RoomId) (joined : Bool)
  | sendStateEvent (roomId : RoomId) (event : Value)
  | overwrite (keychainId : KeychainId) (key : String) (entry : Option RoomId)

/-- Workers start, and everybody else does what Matrix allows. -/
def step (trusted : List String) (fleet : Fleet) : FleetInput → Fleet
  | .start keychainId device answers =>
      match fleet.getOrCreate keychainId device trusted answers with
      | (next, some roomId) => { next with given := (device, roomId) :: next.given }
      | (next, none) => next
  | .createRoom room => { fleet with server := fleet.server.addRoom room }
  | .bindAlias userId roomAlias roomId =>
      if (fleet.server.aliases roomAlias).isNone && roomId < fleet.server.rooms.length then
        { fleet with server := fleet.server.setAlias roomAlias (some (roomId, userId)) }
      else fleet
  | .removeAlias roomAlias => { fleet with server := fleet.server.setAlias roomAlias none }
  | .setJoined userId roomId joined =>
      { fleet with server := fleet.server.setJoined userId roomId joined }
  | .sendStateEvent roomId event =>
      { fleet with server := fleet.server.sendStateEvent roomId event }
  | .overwrite keychainId key entry =>
      { fleet with keychain := Function.update fleet.keychain (keychainId, key) entry }

section Making

variable {server : HomeServer} {device : WorkerDevice} {answers : StartAnswers}

/-- A new room comes to be if step 6 is reached: the alias is free, or the worker has bound
it itself and gets through the deletion. -/
def Makes (server : HomeServer) (device : WorkerDevice) (answers : StartAnswers) : Prop :=
  (server.aliases device.roomAlias = none ∧ answers.create.lands = true) ∨
  ∃ roomId, server.aliases device.roomAlias = some (roomId, device.userId) ∧
    answers.create = .ok ∧ answers.delete = .ok ∧ answers.recreate.lands = true

theorem addStateRoom_setAlias (server : HomeServer) (device : WorkerDevice)
    (target : Option (RoomId × String)) (version11 : Bool) :
    (server.setAlias device.roomAlias target).addStateRoom device version11 =
      server.addStateRoom device version11 := by
  simp [HomeServer.addStateRoom, HomeServer.addRoom, HomeServer.setAlias, HomeServer.setJoined]

/-- A room that is made may be lost to the one who made it. -/
theorem makeRoom_of_makes (h : Makes server device answers) :
    ∃ returned, makeRoom server device answers =
        (server.addStateRoom device answers.version11, returned) ∧
      (returned = none ∨ returned = some server.rooms.length) := by
  rcases h with ⟨hFree, hLands⟩ | ⟨roomId, hBound, hCreate, hDelete, hLands⟩
  · rw [makeRoom, HomeServer.createWorkerStateRoom_free hFree hLands]
    cases hAnswer : answers.create with
    | ok => exact ⟨_, rfl, .inr rfl⟩
    | lost => exact ⟨_, rfl, .inl rfl⟩
    | refused => exact absurd hLands (by simp [hAnswer, WriteAnswer.lands])
  · have hFreed : server.deleteRoomAlias device.userId device.roomAlias answers.delete =
        (server.setAlias device.roomAlias none, true) := by
      rw [HomeServer.deleteRoomAlias, hDelete, hBound]
      simp [WriteAnswer.lands]
    have hFree : (server.setAlias device.roomAlias none).aliases device.roomAlias = none :=
      Function.update_self ..
    rw [makeRoom, HomeServer.createWorkerStateRoom_bound hBound, hCreate, if_pos rfl]
    simp only [hFreed, HomeServer.createWorkerStateRoom_free hFree hLands,
      addStateRoom_setAlias]
    cases hAnswer : answers.recreate with
    | ok => exact ⟨_, rfl, .inr rfl⟩
    | lost => exact ⟨_, rfl, .inl rfl⟩
    | refused => exact absurd hLands (by simp [hAnswer, WriteAnswer.lands])

/-- A creation that fails may have cost the alias. -/
theorem makeRoom_of_not_makes (h : ¬ Makes server device answers) :
    ∃ later, makeRoom server device answers = (later, none) ∧
      (later = server ∨ later = server.setAlias device.roomAlias none) := by
  rw [Makes, not_or] at h
  obtain ⟨hFirst, hSecond⟩ := h
  cases hAlias : server.aliases device.roomAlias with
  | none =>
      have hLands : answers.create.lands = false := by
        rw [← Bool.not_eq_true]
        exact fun hLands => hFirst ⟨hAlias, hLands⟩
      rw [makeRoom, HomeServer.createWorkerStateRoom_refused hLands]
      exact ⟨server, rfl, .inl rfl⟩
  | some target =>
      cases hCreate : answers.create with
      | lost | refused =>
          rw [makeRoom, HomeServer.createWorkerStateRoom_bound hAlias, hCreate]
          exact ⟨server, rfl, .inl rfl⟩
      | ok =>
          rw [makeRoom, HomeServer.createWorkerStateRoom_bound hAlias, hCreate, if_pos rfl]
          rcases HomeServer.deleteRoomAlias_cases device.userId answers.delete hAlias with
            ⟨hOwner, hDelete, hFreed⟩ | ⟨later, hKept, hLater⟩
          · have hLands : answers.recreate.lands = false := by
              rw [← Bool.not_eq_true]
              exact fun hLands =>
                hSecond ⟨target.1, by rw [← hOwner, hAlias], hCreate, hDelete, hLands⟩
            simp only [hFreed, HomeServer.createWorkerStateRoom_refused hLands]
            exact ⟨_, rfl, .inr rfl⟩
          · simp only [hKept]
            exact ⟨later, rfl, hLater⟩

end Making

section Calls

variable {fleet next : Fleet} {keychainId : KeychainId} {device : WorkerDevice}
  {trusted : List String} {answers : StartAnswers} {returned : Option RoomId} {roomId : RoomId}

/-- The search by alias or topic comes upon the room, and the state of it is read. -/
def Finds (fleet : Fleet) (device : WorkerDevice) (answers : StartAnswers) (roomId : RoomId) :
    Prop :=
  fleet.server.findWorkerStateRoom device answers.directory answers.listing = some (some roomId) ∧
    (fleet.server.joined device.userId roomId && answers.listed || answers.join = .ok) = true ∧
    answers.foundState = true

/-- The call asks for the state of the room and gets it. -/
def Reads (fleet : Fleet) (keychainId : KeychainId) (device : WorkerDevice)
    (answers : StartAnswers) (roomId : RoomId) : Prop :=
  (fleet.cached keychainId device = some roomId ∧ answers.cachedState = true) ∨
  Finds fleet device answers roomId

/-- The call takes the room that its keychain has. -/
def TakesCached (fleet : Fleet) (keychainId : KeychainId) (device : WorkerDevice)
    (trusted : List String) (answers : StartAnswers) (roomId : RoomId) : Prop :=
  answers.keychainGet = true ∧
    fleet.cachedRoom keychainId device trusted answers.cachedState = some roomId

/-- A request fails that the call cannot do without, before it asks for a new room. -/
def GivesUp (fleet : Fleet) (device : WorkerDevice) (answers : StartAnswers) : Prop :=
  answers.keychainGet = false ∨
  match fleet.server.findWorkerStateRoom device answers.directory answers.listing with
  | none => True
  | some found => found.isSome = true ∧ answers.sync = false

/-- No room has come to be, and at most an alias is gone. -/
structure SameRooms (fleet next : Fleet) : Prop where
  rooms : next.server.rooms = fleet.server.rooms
  keychain : next.keychain = fleet.keychain
  given : next.given = fleet.given
  aliases : ∀ roomAlias, next.server.aliases roomAlias = fleet.server.aliases roomAlias ∨
    next.server.aliases roomAlias = none

/-- The worker has got a new room, which its alias leads to and perhaps its keychain. -/
structure Made (fleet : Fleet) (keychainId : KeychainId) (device : WorkerDevice)
    (answers : StartAnswers) (next : Fleet) : Prop where
  identities : next.server.identities =
    fleet.server.identities ++ [stateRoomIdentity device answers.version11]
  grows : fleet.server.Grows next.server
  passes : ∀ trusted, next.server.Passes device trusted fleet.server.rooms.length
  aliases : next.server.aliases = Function.update fleet.server.aliases device.roomAlias
    (some (fleet.server.rooms.length, device.userId))
  keychain : next.keychain = fleet.keychain ∨
    next.keychain = Function.update fleet.keychain (keychainId, stateRoomKey device.userId)
      (some fleet.server.rooms.length)
  given : next.given = fleet.given

theorem SameRooms.refl (fleet : Fleet) : SameRooms fleet fleet :=
  ⟨rfl, rfl, rfl, fun _ => .inl rfl⟩

theorem Makes.congr {server later : HomeServer} (h : later.aliases = server.aliases) :
    Makes later device answers ↔ Makes server device answers := by
  rw [Makes, Makes, h]

theorem enterFound_eq_none_iff {server : HomeServer} {found : Option RoomId} :
    enterFound server device answers found = none ↔
      found.isSome = true ∧ answers.sync = false := by
  cases found with
  | none => simp [enterFound]
  | some roomId => cases hSync : answers.sync <;> simp [enterFound, hSync]

theorem enterFound_cases {server later : HomeServer} {found entered : Option RoomId}
    (h : enterFound server device answers found = some (later, entered)) :
    later.rooms = server.rooms ∧ later.aliases = server.aliases ∧
      ∀ roomId, entered = some roomId ↔ found = some roomId ∧
        (server.joined device.userId roomId && answers.listed || answers.join = .ok) = true := by
  cases found with
  | none =>
      obtain ⟨rfl, rfl⟩ := Prod.mk.inj (Option.some.inj h)
      simp
  | some roomId =>
      rw [enterFound] at h
      split at h
      · obtain ⟨rfl, rfl⟩ := Prod.mk.inj (Option.some.inj h)
        refine ⟨?_, ?_, fun other => ?_⟩
        · split <;> rfl
        · split <;> rfl
        · constructor
          · intro hOther
            split at hOther
            next hEnters =>
              obtain rfl := Option.some.inj hOther
              exact ⟨rfl, hEnters⟩
            · cases hOther
          · rintro ⟨hOther, hEnters⟩
            obtain rfl := Option.some.inj hOther
            exact if_pos hEnters
      · cases h

theorem Made.of_entered {later : HomeServer} (hRooms : later.rooms = fleet.server.rooms)
    (hAliases : later.aliases = fleet.server.aliases)
    (h : Made { fleet with server := later } keychainId device answers next) :
    Made fleet keychainId device answers next where
  identities := by rw [h.identities, HomeServer.identities, hRooms, HomeServer.identities]
  grows := (HomeServer.Grows.same hRooms).trans h.grows
  passes trusted := by simpa only [hRooms] using h.passes trusted
  aliases := by simpa only [hRooms, hAliases] using h.aliases
  keychain := by simpa only [hRooms] using h.keychain
  given := h.given

theorem SameRooms.of_entered {later : HomeServer} (hRooms : later.rooms = fleet.server.rooms)
    (hAliases : later.aliases = fleet.server.aliases)
    (h : SameRooms { fleet with server := later } next) : SameRooms fleet next where
  rooms := h.rooms.trans hRooms
  keychain := h.keychain
  given := h.given
  aliases := by simpa only [hAliases] using h.aliases

theorem remember_cases (set : Bool) :
    fleet.remember keychainId device roomId set = fleet ∨
      fleet.remember keychainId device roomId set =
        { fleet with
          keychain := Function.update fleet.keychain (keychainId, stateRoomKey device.userId)
            (some roomId) } := by
  cases set with
  | false => exact .inl rfl
  | true => exact .inr rfl

/-- The new room is there, whatever becomes of the rest of the call. -/
theorem made_introduce {later : HomeServer}
    (hLater : later = fleet.server.addStateRoom device answers.version11) :
    Made fleet keychainId device answers
      (introduce { fleet with server := later } keychainId device answers
        fleet.server.rooms.length).1 := by
  obtain ⟨between, hBetween, hKeychain⟩ : ∃ between : Fleet,
      { fleet with server := later }.remember keychainId device fleet.server.rooms.length
        answers.keychainSet = between ∧ between.server = later ∧ between.given = fleet.given ∧
      (between.keychain = fleet.keychain ∨ between.keychain =
        Function.update fleet.keychain (keychainId, stateRoomKey device.userId)
          (some fleet.server.rooms.length)) := by
    rcases remember_cases answers.keychainSet with h | h
    · exact ⟨_, h, rfl, rfl, .inl rfl⟩
    · exact ⟨_, h, rfl, rfl, .inr rfl⟩
  obtain ⟨rfl, hGiven, hKeychain⟩ := hKeychain
  rw [introduce, hBetween]
  have hGrows := HomeServer.grows_addStateRoom fleet.server device answers.version11
  have hPasses := HomeServer.passes_addStateRoom fleet.server device answers.version11
  dsimp only
  split
  · have hEvent := HomeServer.grows_sendStateEvent
      (fleet.server.addStateRoom device answers.version11) fleet.server.rooms.length
      (identityEvent device answers)
    rw [hLater]
    exact ⟨by simp, hGrows.trans hEvent, fun trusted => (hPasses trusted).grows hEvent, rfl,
      hKeychain, hGiven⟩
  · rw [hLater]
    exact ⟨by simp, hGrows, hPasses, rfl, hKeychain, hGiven⟩

theorem create_cases (fleet : Fleet) (keychainId : KeychainId) (device : WorkerDevice)
    (answers : StartAnswers) :
    (Makes fleet.server device answers ∧
      Made fleet keychainId device answers (fleet.create keychainId device answers).1 ∧
      ((fleet.create keychainId device answers).2 = none ∨
        (fleet.create keychainId device answers).2 = some fleet.server.rooms.length)) ∨
    (¬ Makes fleet.server device answers ∧
      SameRooms fleet (fleet.create keychainId device answers).1 ∧
      (fleet.create keychainId device answers).2 = none) := by
  by_cases hMakes : Makes fleet.server device answers
  · refine .inl ⟨hMakes, ?_⟩
    obtain ⟨made, hMade, hReturned⟩ := makeRoom_of_makes hMakes
    rw [create, hMade]
    rcases hReturned with rfl | rfl
    · exact ⟨⟨by simp, fleet.server.grows_addStateRoom device _,
        fleet.server.passes_addStateRoom device _, rfl, .inl rfl, rfl⟩, .inl rfl⟩
    · refine ⟨made_introduce rfl, ?_⟩
      dsimp only [introduce]
      split
      · exact .inr rfl
      · exact .inl rfl
  · refine .inr ⟨hMakes, ?_⟩
    obtain ⟨later, hLater, hSame⟩ := makeRoom_of_not_makes hMakes
    rw [create, hLater]
    rcases hSame with rfl | rfl
    · exact ⟨SameRooms.refl fleet, rfl⟩
    · refine ⟨⟨rfl, rfl, rfl, fun roomAlias => ?_⟩, rfl⟩
      by_cases hAlias : roomAlias = device.roomAlias
      · subst hAlias
        exact .inr (Function.update_self ..)
      · exact .inl (Function.update_of_ne hAlias ..)

/-- All that a call can come to: it fails, it takes a room whose state it has read, or it
makes a new one. -/
inductive Outcome (fleet : Fleet) (keychainId : KeychainId) (device : WorkerDevice)
    (trusted : List String) (answers : StartAnswers) : Fleet → Option RoomId → Prop where
  | failed {next : Fleet} (hSame : SameRooms fleet next)
      (hGivesUp : GivesUp fleet device answers ∨ ¬ Makes fleet.server device answers) :
      Outcome fleet keychainId device trusted answers next none
  | taken {between : Fleet} {roomId : RoomId} (set : Bool) (hSame : SameRooms fleet between)
      (hTakes : TakesCached fleet keychainId device trusted answers roomId ∨
        Finds fleet device answers roomId)
      (hPasses : fleet.server.Passes device trusted roomId) :
      Outcome fleet keychainId device trusted answers
        (between.remember keychainId device roomId set) (some roomId)
  | made {next : Fleet} {returned : Option RoomId}
      (hMade : Made fleet keychainId device answers next)
      (hReturned : returned = none ∨ returned = some fleet.server.rooms.length)
      (hMakes : Makes fleet.server device answers) (hGoesOn : ¬ GivesUp fleet device answers)
      (hNone : ∀ roomId, Reads fleet keychainId device answers roomId →
        ¬ fleet.server.Passes device trusted roomId) :
      Outcome fleet keychainId device trusted answers next returned

/-- A cached room is taken when it still passes, whatever its name is. -/
theorem cachedRoom_eq_some_iff {answered : Bool} :
    fleet.cachedRoom keychainId device trusted answered = some roomId ↔
      fleet.cached keychainId device = some roomId ∧ answered = true ∧
        fleet.server.Passes device trusted roomId := by
  simp only [cachedRoom, Option.bind_eq_some_iff, HomeServer.validated_eq_some_iff]
  constructor
  · rintro ⟨found, hCached, rfl, hRest⟩
    exact ⟨hCached, hRest⟩
  · exact fun h => ⟨roomId, h.1, rfl, h.2⟩

theorem TakesCached.reads (h : TakesCached fleet keychainId device trusted answers roomId) :
    Reads fleet keychainId device answers roomId := by
  obtain ⟨hCached, hAnswered, -⟩ := cachedRoom_eq_some_iff.mp h.2
  exact .inl ⟨hCached, hAnswered⟩

/-- A cached room that passes ends the search. -/
theorem getOrCreate_of_takesCached
    (h : TakesCached fleet keychainId device trusted answers roomId) :
    fleet.getOrCreate keychainId device trusted answers = (fleet, some roomId) := by
  rw [getOrCreate, if_pos h.1, h.2]

/-- Without a cached room the start finds a room, makes one or fails. -/
theorem discover_outcome (hGet : answers.keychainGet = true)
    (hCached : fleet.cachedRoom keychainId device trusted answers.cachedState = none) :
    Outcome fleet keychainId device trusted answers
      (fleet.discover keychainId device trusted answers).1
      (fleet.discover keychainId device trusted answers).2 := by
  rw [discover]
  cases hFind : fleet.server.findWorkerStateRoom device answers.directory answers.listing with
  | none => exact .failed (.refl fleet) (.inl (.inr (by rw [hFind]; trivial)))
  | some found =>
      dsimp only
      cases hEnter : enterFound fleet.server device answers found with
      | none =>
          refine .failed (.refl fleet) (.inl (.inr ?_))
          rw [hFind]
          exact enterFound_eq_none_iff.mp hEnter
      | some result =>
          obtain ⟨later, entered⟩ := result
          obtain ⟨hRooms, hAliases, hEntered⟩ := enterFound_cases hEnter
          have hPass : ∀ roomId, later.Passes device trusted roomId ↔
              fleet.server.Passes device trusted roomId := by
            intro roomId
            rw [HomeServer.Passes, hRooms, HomeServer.Passes]
          dsimp only
          cases hValid : entered.bind (later.validated device trusted answers.foundState) with
          | some roomId =>
              obtain ⟨inside, hInside, hValidated⟩ := Option.bind_eq_some_iff.mp hValid
              obtain ⟨rfl, hAnswered, hPasses⟩ := HomeServer.validated_eq_some_iff.mp hValidated
              obtain ⟨hFound, hEnters⟩ := (hEntered roomId).mp hInside
              have hSame : SameRooms fleet { fleet with server := later } :=
                ⟨hRooms, rfl, rfl, fun _ => .inl (congrFun hAliases _)⟩
              exact .taken answers.keychainSet hSame
                (.inr ⟨by rw [hFind, hFound], hEnters, hAnswered⟩) ((hPass roomId).mp hPasses)
          | none =>
              have hNone : ∀ roomId, Reads fleet keychainId device answers roomId →
                  ¬ fleet.server.Passes device trusted roomId := by
                rintro roomId (hReads | ⟨hFound, hEnters, hAnswered⟩) hPasses
                · rw [cachedRoom_eq_some_iff.mpr ⟨hReads.1, hReads.2, hPasses⟩] at hCached
                  cases hCached
                · rw [hFind] at hFound
                  have hInside := (hEntered roomId).mpr ⟨Option.some.inj hFound, hEnters⟩
                  rw [hInside, Option.bind_some] at hValid
                  exact HomeServer.validated_eq_none_iff.mp hValid hAnswered
                    ((hPass roomId).mpr hPasses)
              dsimp only
              rcases create_cases { fleet with server := later } keychainId device answers with
                ⟨hMakes, hMade, hReturned⟩ | ⟨hMakes, hSame, hReturned⟩
              · refine .made (hMade.of_entered hRooms hAliases) (by rwa [← hRooms])
                  ((Makes.congr hAliases).mp hMakes) ?_ hNone
                rintro (hNot | hNot)
                · exact absurd hGet (by simp [hNot])
                · rw [hFind] at hNot
                  rw [enterFound_eq_none_iff.mpr hNot] at hEnter
                  cases hEnter
              · rw [hReturned]
                exact .failed (hSame.of_entered hRooms hAliases)
                  (.inr fun h => hMakes ((Makes.congr hAliases).mpr h))

/-- What a start comes to. -/
theorem getOrCreate_outcome (fleet : Fleet) (keychainId : KeychainId) (device : WorkerDevice)
    (trusted : List String) (answers : StartAnswers) :
    Outcome fleet keychainId device trusted answers
      (fleet.getOrCreate keychainId device trusted answers).1
      (fleet.getOrCreate keychainId device trusted answers).2 := by
  rw [getOrCreate]
  cases hGet : answers.keychainGet with
  | false => exact .failed (.refl fleet) (.inl (.inl hGet))
  | true =>
      rw [if_pos rfl]
      cases hCached : fleet.cachedRoom keychainId device trusted answers.cachedState with
      | some roomId =>
          obtain ⟨-, -, hPasses⟩ := cachedRoom_eq_some_iff.mp hCached
          exact .taken false (.refl fleet) (.inl ⟨hGet, hCached⟩) hPasses
      | none => exact discover_outcome hGet hCached

end Calls

section Trust

variable {trusted : List String} {fleet next : Fleet}

/-- Every room that a worker was given is encrypted and names the worker's account or a
coordinator as its creator; below version 11 the one it names has made it. -/
def Trusted (trusted : List String) (fleet : Fleet) : Prop :=
  ∀ entry ∈ fleet.given, ∃ room, fleet.server.rooms[entry.2]? = some room ∧ room.Encrypted ∧
    room.identity.namedCreator ∈ entry.1.userId :: trusted ∧
    (room.identity.version11 = false → room.identity.creator ∈ entry.1.userId :: trusted)

/-- Every room that was given passes, for the worker it was given to. -/
theorem trusted_iff : Trusted trusted fleet ↔
    ∀ entry ∈ fleet.given, fleet.server.Passes entry.1 trusted entry.2 := by
  refine forall₂_congr fun entry _ => ?_
  constructor
  · rintro ⟨room, hRoom, hEncrypted, hNamed, -⟩
    exact ⟨room, hRoom, hNamed, hEncrypted⟩
  · rintro ⟨room, hRoom, hNamed, hEncrypted⟩
    refine ⟨room, hRoom, hEncrypted, hNamed, fun hOld => ?_⟩
    rwa [← RoomIdentity.unforged_of_old hOld]

theorem remember_server (keychainId : KeychainId) (device : WorkerDevice) (roomId : RoomId)
    (set : Bool) : (fleet.remember keychainId device roomId set).server = fleet.server := by
  cases set <;> rfl

theorem remember_given (keychainId : KeychainId) (device : WorkerDevice) (roomId : RoomId)
    (set : Bool) : (fleet.remember keychainId device roomId set).given = fleet.given := by
  cases set <;> rfl

/-- A call does not take anything away from the homeserver, and it returns what passes. -/
theorem Outcome.grows {keychainId : KeychainId} {device : WorkerDevice} {answers : StartAnswers}
    {returned : Option RoomId} (h : Outcome fleet keychainId device trusted answers next returned) :
    fleet.server.Grows next.server ∧ next.given = fleet.given ∧
      ∀ roomId, returned = some roomId → next.server.Passes device trusted roomId := by
  cases h with
  | failed hSame => exact ⟨.same hSame.rooms, hSame.given, by simp⟩
  | taken set hSame hTakes hPasses =>
      rw [remember_server, remember_given]
      have hGrows : fleet.server.Grows _ := .same hSame.rooms
      refine ⟨hGrows, hSame.given, fun roomId hReturned => ?_⟩
      obtain rfl := Option.some.inj hReturned
      exact hPasses.grows hGrows
  | made hMade hReturned =>
      refine ⟨hMade.grows, hMade.given, fun roomId hRoom => ?_⟩
      rcases hReturned with rfl | rfl
      · cases hRoom
      · obtain rfl := Option.some.inj hRoom
        exact hMade.passes trusted

/-- What was there stays, and a call hands out at most one room, which passes. -/
theorem step_cases (trusted : List String) (fleet : Fleet) (input : FleetInput) :
    fleet.server.Grows (fleet.step trusted input).server ∧
      ((fleet.step trusted input).given = fleet.given ∨
        ∃ keychainId device answers roomId, input = .start keychainId device answers ∧
          (fleet.getOrCreate keychainId device trusted answers).2 = some roomId ∧
          (fleet.step trusted input).given = (device, roomId) :: fleet.given ∧
          (fleet.step trusted input).server.Passes device trusted roomId) := by
  cases input with
  | start keychainId device answers =>
      obtain ⟨hGrows, hGiven, hReturned⟩ :=
        (fleet.getOrCreate_outcome keychainId device trusted answers).grows
      rw [step]
      split
      next after roomId hResult =>
        rw [hResult] at hGrows hGiven hReturned
        refine ⟨hGrows, .inr ⟨keychainId, device, answers, roomId, rfl, ?_, ?_, ?_⟩⟩
        · rw [hResult]
        · exact congrArg _ hGiven
        · exact hReturned roomId rfl
      next after hResult =>
        rw [hResult] at hGrows hGiven
        exact ⟨hGrows, .inl hGiven⟩
  | createRoom room => exact ⟨fleet.server.grows_addRoom room, .inl rfl⟩
  | bindAlias userId roomAlias roomId =>
      rw [step]
      split
      · exact ⟨.same rfl, .inl rfl⟩
      · exact ⟨.same rfl, .inl rfl⟩
  | removeAlias roomAlias => exact ⟨.same rfl, .inl rfl⟩
  | setJoined userId roomId joined => exact ⟨.same rfl, .inl rfl⟩
  | sendStateEvent roomId event =>
      exact ⟨fleet.server.grows_sendStateEvent roomId event, .inl rfl⟩
  | overwrite keychainId key entry => exact ⟨.same rfl, .inl rfl⟩

/-- A start gives no room that does not pass. -/
theorem trusted_step (fleet : Fleet) (input : FleetInput) (h : Trusted trusted fleet) :
    Trusted trusted (fleet.step trusted input) := by
  rw [trusted_iff] at h ⊢
  obtain ⟨hGrows, hSame | ⟨-, device, -, roomId, -, -, hGiven, hPasses⟩⟩ :=
    step_cases trusted fleet input
  · rw [hSame]
    exact fun entry hEntry => (h entry hEntry).grows hGrows
  · rw [hGiven]
    intro entry hEntry
    rcases List.mem_cons.mp hEntry with rfl | hEarlier
    · exact hPasses
    · exact (h entry hEarlier).grows hGrows

/-- Whatever is on the homeserver and in the keychains at the beginning, and whatever anybody
does to the homeserver later: no worker is ever given a room that is not encrypted or
that names a stranger as its creator. -/
theorem given_rooms_trusted (trusted : List String) (server : HomeServer)
    (keychain : KeychainId × String → Option RoomId) (inputs : List FleetInput) :
    Automaton.Always (step trusted) (Trusted trusted) (new server keychain) inputs :=
  Automaton.always_of_step trusted_step (by simp [Trusted, new]) inputs

end Trust

end Fleet

end Mxdx.Worker.StateRoomSetup
