import Mxdx.Worker.StateRoomSetup

/-! One state room for each name: when the workers of an account whose hosts, users and
localparts spell the same name keep sharing one room, and no others do. What a keychain has
for an account may be its room under another name. No coordinator is trusted, as the worker
calls `get_or_create`. -/
namespace Mxdx.Worker.StateRoomSetup.Fleet

open MatrixClient

/-- The account of the worker has made the room. -/
def MadeBy (server : HomeServer) (device : WorkerDevice) (roomId : RoomId) : Prop :=
  ∃ identity, server.identities[roomId]? = some identity ∧ identity.creator = device.userId

/-- The room is one of the worker's name. -/
def IsHome (server : HomeServer) (device : WorkerDevice) (roomId : RoomId) : Prop :=
  ∃ identity, server.identities[roomId]? = some identity ∧ identity.creator = device.userId ∧
    identity.topic = device.topic

/-- The room is one of the worker's account, under this name or another. -/
def OfAccount (server : HomeServer) (device : WorkerDevice) (roomId : RoomId) : Prop :=
  ∃ other : WorkerDevice, other.account = device.account ∧ IsHome server other roomId

/-- The room is there, and if the worker's account has made it, it has made it for a worker. -/
def Harmless (server : HomeServer) (device : WorkerDevice) (roomId : RoomId) : Prop :=
  roomId < server.rooms.length ∧ (MadeBy server device roomId → OfAccount server device roomId)

/-- No worker has two rooms. -/
def OneRoomEach (fleet : Fleet) : Prop :=
  ∀ device first second, IsHome fleet.server device first → IsHome fleet.server device second →
    first = second

/-- The workers were given the rooms of their names. -/
def OwnRooms (fleet : Fleet) : Prop :=
  ∀ entry ∈ fleet.given, IsHome fleet.server entry.1 entry.2

/-- Nobody makes rooms like those of the workers or writes a false creator into one, and
neither a worker's alias nor an entry for its account is made to lead to another room that
the account has made. -/
def Honest (fleet : Fleet) : FleetInput → Prop
  | .createRoom room => room.identity.Unforged ∧ ∀ device : WorkerDevice,
      ¬ (room.identity.creator = device.userId ∧ room.identity.topic = device.topic)
  | .bindAlias _ roomAlias roomId => ∀ device : WorkerDevice, device.roomAlias = roomAlias →
      MadeBy fleet.server device roomId → IsHome fleet.server device roomId
  | .overwrite _ key entry => ∀ roomId, entry = some roomId → ∀ device : WorkerDevice,
      stateRoomKey device.userId = key → Harmless fleet.server device roomId
  | _ => True

/-- A worker whose room is there gets to read the state of a room that it can take, or
fails, or is not let make another one. -/
def Keeps (fleet : Fleet) : FleetInput → Prop
  | .start keychainId device answers => ∀ roomId, IsHome fleet.server device roomId →
      (∃ taken, Reads fleet keychainId device answers taken ∧
        fleet.server.Passes device [] taken) ∨
      GivesUp fleet device answers ∨ ¬ Makes fleet.server device answers
  | _ => True

/-- What a worker takes from its keychain is the room of its name. -/
def Steady (fleet : Fleet) : FleetInput → Prop
  | .start keychainId device answers => ∀ roomId,
      TakesCached fleet keychainId device [] answers roomId → IsHome fleet.server device roomId
  | _ => True

/-- Aliases lead to the one room of the name and keychains to a room of the account, unless
they lead to one that cannot be mistaken for it. -/
structure Tidy (fleet : Fleet) : Prop where
  sole : OneRoomEach fleet
  unforged : ∀ identity ∈ fleet.server.identities, identity.Unforged
  homes : ∀ device roomId, IsHome fleet.server device roomId →
    fleet.server.Passes device [] roomId
  aliases : ∀ (device : WorkerDevice) roomId owner,
    fleet.server.aliases device.roomAlias = some (roomId, owner) →
      roomId < fleet.server.rooms.length ∧
        (MadeBy fleet.server device roomId → IsHome fleet.server device roomId)
  keychain : ∀ keychainId device roomId, fleet.cached keychainId device = some roomId →
    Harmless fleet.server device roomId
  given : ∀ entry ∈ fleet.given, OfAccount fleet.server entry.1 entry.2

section Homes

variable {fleet next : Fleet} {server later : HomeServer} {device : WorkerDevice}
  {roomId : RoomId}

theorem IsHome.congr (h : later.identities = server.identities) :
    IsHome later device roomId ↔ IsHome server device roomId := by
  rw [IsHome, IsHome, h]

theorem MadeBy.congr (h : later.identities = server.identities) :
    MadeBy later device roomId ↔ MadeBy server device roomId := by
  rw [MadeBy, MadeBy, h]

theorem OfAccount.congr (h : later.identities = server.identities) :
    OfAccount later device roomId ↔ OfAccount server device roomId := by
  simp only [OfAccount, IsHome.congr h]

theorem Harmless.congr (h : later.identities = server.identities) :
    Harmless later device roomId ↔ Harmless server device roomId := by
  rw [Harmless, Harmless, MadeBy.congr h, OfAccount.congr h, ← later.length_identities, h,
    server.length_identities]

theorem IsHome.ofAccount (h : IsHome server device roomId) : OfAccount server device roomId :=
  ⟨device, rfl, h⟩

theorem IsHome.grows (h : IsHome server device roomId) (hGrows : server.Grows later) :
    IsHome later device roomId := by
  obtain ⟨identity, hIdentity, hName⟩ := h
  obtain ⟨room, hRoom, rfl⟩ := Option.map_eq_some_iff.mp (List.getElem?_map.symm.trans hIdentity)
  obtain ⟨further, hLater⟩ := hGrows roomId room hRoom
  refine ⟨room.identity, ?_, hName⟩
  rw [HomeServer.identities, List.getElem?_map, hLater]
  rfl

theorem IsHome.lt (h : IsHome server device roomId) : roomId < server.rooms.length := by
  obtain ⟨identity, hIdentity, -⟩ := h
  rw [← server.length_identities]
  exact (List.getElem?_eq_some_iff.mp hIdentity).1

/-- A name is an account with a label. -/
theorem IsHome.other (h : IsHome server device roomId) {other : WorkerDevice}
    (hAccount : other.account = device.account) (hLabel : other.label = device.label) :
    IsHome server other roomId := by
  obtain ⟨identity, hIdentity, hCreator, hTopic⟩ := h
  refine ⟨identity, hIdentity, hCreator.trans ?_, hTopic.trans ?_⟩
  · exact WorkerDevice.account_inj.mpr hAccount.symm
  · exact WorkerDevice.topic_inj.mpr hLabel.symm

theorem IsHome.same_name (hFirst : IsHome server device roomId) {other : WorkerDevice}
    (hSecond : IsHome server other roomId) :
    device.account = other.account ∧ device.label = other.label := by
  obtain ⟨identity, hIdentity, hCreator, hTopic⟩ := hFirst
  obtain ⟨again, hAgain, hOtherCreator, hOtherTopic⟩ := hSecond
  obtain rfl : identity = again := Option.some.inj (hIdentity.symm.trans hAgain)
  exact ⟨WorkerDevice.account_inj.mp (hCreator.symm.trans hOtherCreator),
    WorkerDevice.topic_inj.mp (hTopic.symm.trans hOtherTopic)⟩

/-- Which of an account's entries is read does not depend on the name. -/
theorem OfAccount.other (h : OfAccount server device roomId) {other : WorkerDevice}
    (hAccount : other.account = device.account) : OfAccount server other roomId := by
  obtain ⟨named, hNamed, hHome⟩ := h
  exact ⟨named, hNamed.trans hAccount.symm, hHome⟩

theorem OfAccount.lt (h : OfAccount server device roomId) : roomId < server.rooms.length := by
  obtain ⟨other, -, hHome⟩ := h
  exact hHome.lt

theorem OfAccount.harmless (h : OfAccount server device roomId) :
    Harmless server device roomId :=
  ⟨h.lt, fun _ => h⟩

theorem identity_append {identity added : RoomIdentity}
    (h : later.identities = server.identities ++ [added]) :
    later.identities[roomId]? = some identity ↔
      server.identities[roomId]? = some identity ∨
        roomId = server.rooms.length ∧ added = identity := by
  rw [h, ← server.length_identities, List.getElem?_append]
  split
  next hOld =>
    constructor
    · exact .inl
    · rintro (hOther | ⟨rfl, -⟩)
      · exact hOther
      · exact absurd hOld (Nat.lt_irrefl _)
  next hNew =>
    rw [List.getElem?_singleton, List.getElem?_eq_none (Nat.le_of_not_lt hNew)]
    constructor
    · intro hAdded
      split at hAdded
      next hZero =>
        exact .inr ⟨Nat.le_antisymm (Nat.sub_eq_zero_iff_le.mp hZero) (Nat.le_of_not_lt hNew),
          Option.some.inj hAdded⟩
      · cases hAdded
    · rintro (hOther | ⟨rfl, rfl⟩)
      · cases hOther
      · rw [Nat.sub_self, if_pos rfl]

theorem isHome_append {added : RoomIdentity}
    (h : later.identities = server.identities ++ [added]) :
    IsHome later device roomId ↔ IsHome server device roomId ∨
      roomId = server.rooms.length ∧ added.creator = device.userId ∧
        added.topic = device.topic := by
  simp only [IsHome, identity_append h]
  constructor
  · rintro ⟨identity, hOld | ⟨hNew, rfl⟩, hName⟩
    · exact .inl ⟨identity, hOld, hName⟩
    · exact .inr ⟨hNew, hName⟩
  · rintro (⟨identity, hOld, hName⟩ | ⟨hNew, hName⟩)
    · exact ⟨identity, .inl hOld, hName⟩
    · exact ⟨added, .inr ⟨hNew, rfl⟩, hName⟩

theorem madeBy_append {added : RoomIdentity}
    (h : later.identities = server.identities ++ [added]) (hOld : roomId < server.rooms.length) :
    MadeBy later device roomId ↔ MadeBy server device roomId := by
  simp only [MadeBy, identity_append h]
  constructor
  · rintro ⟨identity, hIdentity | ⟨rfl, -⟩, hCreator⟩
    · exact ⟨identity, hIdentity, hCreator⟩
    · exact absurd hOld (Nat.lt_irrefl _)
  · rintro ⟨identity, hIdentity, hCreator⟩
    exact ⟨identity, .inl hIdentity, hCreator⟩

theorem Harmless.append {added : RoomIdentity}
    (hAdded : later.identities = server.identities ++ [added])
    (h : Harmless server device roomId) : Harmless later device roomId := by
  obtain ⟨hOld, hOfAccount⟩ := h
  refine ⟨?_, fun hMade => ?_⟩
  · rw [← later.length_identities, hAdded, List.length_append, server.length_identities]
    exact Nat.lt_of_lt_of_le hOld (Nat.le_add_right ..)
  · obtain ⟨other, hAccount, hHome⟩ := hOfAccount ((madeBy_append hAdded hOld).mp hMade)
    exact ⟨other, hAccount, (isHome_append hAdded).mpr (.inl hHome)⟩

end Homes

section Steps

variable {fleet next : Fleet} {keychainId : KeychainId} {device : WorkerDevice}
  {roomId : RoomId}

theorem tidy_empty : Tidy empty where
  sole := by
    intro device first second hFirst
    exact absurd hFirst.lt (Nat.not_lt_zero _)
  unforged := by
    intro identity hIdentity
    cases hIdentity
  homes := by
    intro device roomId hHome
    exact absurd hHome.lt (Nat.not_lt_zero _)
  aliases := by
    intro device roomId owner hAlias
    cases hAlias
  keychain := by
    intro keychainId device roomId hKeychain
    cases hKeychain
  given := by
    intro entry hEntry
    cases hEntry

/-- The account has made what passes for the worker. -/
theorem Tidy.creator_of_passes (h : Tidy fleet) {identity : RoomIdentity}
    (hIdentity : fleet.server.identities[roomId]? = some identity)
    (hPasses : fleet.server.Passes device [] roomId) : identity.creator = device.userId := by
  obtain ⟨room, hRoom, hNamed, -⟩ := hPasses
  have hSame : room.identity = identity := by
    rw [HomeServer.identities, List.getElem?_map, hRoom] at hIdentity
    exact Option.some.inj hIdentity
  subst hSame
  rw [← h.unforged room.identity (List.mem_of_getElem? hIdentity)]
  exact List.mem_singleton.mp hNamed

theorem Tidy.madeBy_of_passes (h : Tidy fleet) (hPasses : fleet.server.Passes device [] roomId) :
    MadeBy fleet.server device roomId := by
  obtain ⟨room, hRoom, -⟩ := id hPasses
  have hIdentity : fleet.server.identities[roomId]? = some room.identity := by
    rw [HomeServer.identities, List.getElem?_map, hRoom]
    rfl
  exact ⟨room.identity, hIdentity, h.creator_of_passes hIdentity hPasses⟩

/-- What a worker finds fit in its search is the room of its name. -/
theorem Tidy.home_of_finds (h : Tidy fleet) {answers : StartAnswers}
    (hFinds : Finds fleet device answers roomId)
    (hPasses : fleet.server.Passes device [] roomId) : IsHome fleet.server device roomId := by
  have hMadeBy := h.madeBy_of_passes hPasses
  obtain ⟨identity, hIdentity, hCreator⟩ := id hMadeBy
  have hFound := hFinds.1
  rw [HomeServer.findWorkerStateRoom] at hFound
  split at hFound
  · cases hAlias : fleet.server.aliases device.roomAlias with
    | some target =>
        rw [hAlias] at hFound
        obtain rfl : target.1 = roomId := Option.some.inj (Option.some.inj hFound)
        exact (h.aliases device target.1 target.2 hAlias).2 hMadeBy
    | none =>
        rw [hAlias] at hFound
        obtain ⟨listing, -, hFirst⟩ := Option.map_eq_some_iff.mp hFound
        have hTopic := List.find?_some hFirst
        rw [hIdentity] at hTopic
        simp only [Option.map_some, Bool.and_eq_true, beq_iff_eq, Option.some.injEq] at hTopic
        exact ⟨identity, hIdentity, hCreator, hTopic.2⟩
  · cases hFound

/-- What it finds fit in its keychain is a room of its account. -/
theorem Tidy.ofAccount_of_takesCached (h : Tidy fleet) {answers : StartAnswers}
    (hTakes : TakesCached fleet keychainId device [] answers roomId) :
    OfAccount fleet.server device roomId := by
  obtain ⟨hCached, -, hPasses⟩ := cachedRoom_eq_some_iff.mp hTakes.2
  exact (h.keychain keychainId device roomId hCached).2 (h.madeBy_of_passes hPasses)

/-- Steps that make no room, bind no alias and fill no keychain. -/
theorem Tidy.same (h : Tidy fleet) (hIdentities : next.server.identities = fleet.server.identities)
    (hGrows : fleet.server.Grows next.server)
    (hAliases : ∀ roomAlias, next.server.aliases roomAlias = fleet.server.aliases roomAlias ∨
      next.server.aliases roomAlias = none)
    (hKeychain : next.keychain = fleet.keychain)
    (hGiven : next.given = fleet.given) : Tidy next where
  sole := by
    intro device first second hFirst hSecond
    exact h.sole device first second ((IsHome.congr hIdentities).mp hFirst)
      ((IsHome.congr hIdentities).mp hSecond)
  unforged := by
    rw [hIdentities]
    exact h.unforged
  homes := by
    intro device roomId hHome
    exact (h.homes device roomId ((IsHome.congr hIdentities).mp hHome)).grows hGrows
  aliases := by
    intro device roomId owner hAlias
    rcases hAliases device.roomAlias with hSame | hGone
    · rw [IsHome.congr hIdentities, MadeBy.congr hIdentities, ← next.server.length_identities,
        hIdentities, fleet.server.length_identities]
      exact h.aliases device roomId owner (hSame.symm.trans hAlias)
    · rw [hGone] at hAlias
      cases hAlias
  keychain := by
    intro keychainId device roomId hEntry
    rw [cached, hKeychain] at hEntry
    exact (Harmless.congr hIdentities).mpr (h.keychain keychainId device roomId hEntry)
  given := by
    rw [hGiven]
    exact fun entry hEntry => (OfAccount.congr hIdentities).mpr (h.given entry hEntry)

/-- One entry of one keychain is another. -/
theorem cached_update {keychainId other : KeychainId} {key : String} {entry : Option RoomId}
    {keychain : KeychainId × String → Option RoomId} {server : HomeServer}
    (hKeychain : ∀ keychainId device roomId,
      keychain (keychainId, stateRoomKey device.userId) = some roomId →
        Harmless server device roomId)
    (hEntry : ∀ roomId, entry = some roomId → ∀ device : WorkerDevice,
      stateRoomKey device.userId = key → Harmless server device roomId)
    (h : Function.update keychain (keychainId, key) entry (other, stateRoomKey device.userId) =
      some roomId) : Harmless server device roomId := by
  by_cases hSame : (other, stateRoomKey device.userId) = (keychainId, key)
  · rw [hSame, Function.update_self] at h
    exact hEntry roomId h device (Prod.mk.inj hSame).2
  · rw [Function.update_of_ne hSame] at h
    exact hKeychain other device roomId h

theorem OfAccount.entry {server : HomeServer} (h : OfAccount server device roomId)
    {other : WorkerDevice} (hKey : stateRoomKey other.userId = stateRoomKey device.userId) :
    Harmless server other roomId :=
  (h.other (WorkerDevice.account_inj.mp (stateRoomKey_inj.mp hKey))).harmless

theorem Tidy.remember (h : Tidy fleet) (hOfAccount : OfAccount fleet.server device roomId)
    (set : Bool) : Tidy (fleet.remember keychainId device roomId set) := by
  rcases remember_cases set with hSame | hSet
  · rwa [hSame]
  · rw [hSet]
    refine ⟨h.sole, h.unforged, h.homes, h.aliases, fun other named otherId hEntry => ?_, h.given⟩
    refine cached_update h.keychain (fun found hFound device hKey => ?_) hEntry
    obtain rfl := Option.some.inj hFound
    exact hOfAccount.entry hKey

theorem Tidy.give (h : Tidy fleet) (hOfAccount : OfAccount fleet.server device roomId) :
    Tidy { fleet with given := (device, roomId) :: fleet.given } where
  sole := h.sole
  unforged := h.unforged
  homes := h.homes
  aliases := h.aliases
  keychain := h.keychain
  given := by
    intro entry hEntry
    rcases List.mem_cons.mp hEntry with rfl | hEarlier
    · exact hOfAccount
    · exact h.given entry hEarlier

section Making

variable {answers : StartAnswers} (hMade : Made fleet keychainId device answers next)
include hMade

theorem Made.home : IsHome next.server device fleet.server.rooms.length :=
  (isHome_append hMade.identities).mpr (.inr ⟨rfl, rfl, rfl⟩)

theorem Made.home_of_old {other : WorkerDevice} (h : IsHome fleet.server other roomId) :
    IsHome next.server other roomId :=
  (isHome_append hMade.identities).mpr (.inl h)

theorem Made.home_cases {other : WorkerDevice} (h : IsHome next.server other roomId) :
    IsHome fleet.server other roomId ∨ roomId = fleet.server.rooms.length :=
  ((isHome_append hMade.identities).mp h).imp_right fun hLast => hLast.1

theorem Made.lt_length : fleet.server.rooms.length < next.server.rooms.length := by
  rw [← next.server.length_identities, hMade.identities, List.length_append,
    fleet.server.length_identities]
  exact Nat.lt_succ_self _

/-- Where the new room is the home of a worker, the worker had none if its maker had none. -/
theorem Made.first {other : WorkerDevice} (h : IsHome next.server other fleet.server.rooms.length)
    (hFirst : ∀ roomId, ¬ IsHome fleet.server device roomId) (roomId : RoomId) :
    ¬ IsHome fleet.server other roomId := by
  intro hOld
  obtain ⟨hAccount, hLabel⟩ := hMade.home.same_name h
  exact hFirst roomId (hOld.other hAccount hLabel)

theorem Tidy.made_aliases (h : Tidy fleet) {other : WorkerDevice} {owner : String}
    (hAlias : next.server.aliases other.roomAlias = some (roomId, owner)) :
    roomId < next.server.rooms.length ∧
      (MadeBy next.server other roomId → IsHome next.server other roomId) := by
  rw [hMade.aliases] at hAlias
  by_cases hSame : other.roomAlias = device.roomAlias
  · rw [hSame, Function.update_self] at hAlias
    obtain rfl : fleet.server.rooms.length = roomId := (Prod.mk.inj (Option.some.inj hAlias)).1
    refine ⟨hMade.lt_length, fun hMadeBy => ?_⟩
    obtain ⟨identity, hIdentity, hCreator⟩ := hMadeBy
    obtain ⟨again, hAgain, hOwner, -⟩ := hMade.home
    obtain rfl : identity = again := Option.some.inj (hIdentity.symm.trans hAgain)
    have hAccount := WorkerDevice.account_inj.mp (hCreator.symm.trans hOwner)
    exact hMade.home.other hAccount (WorkerDevice.label_of_roomAlias hAccount hSame)
  · rw [Function.update_of_ne hSame] at hAlias
    obtain ⟨hOld, hHome⟩ := h.aliases other roomId owner hAlias
    refine ⟨hOld.trans hMade.lt_length, fun hMadeBy => ?_⟩
    exact hMade.home_of_old (hHome ((madeBy_append hMade.identities hOld).mp hMadeBy))

theorem Tidy.made_keychain (h : Tidy fleet) {otherId : KeychainId} {other : WorkerDevice}
    (hEntry : next.cached otherId other = some roomId) : Harmless next.server other roomId := by
  have hOld : ∀ keychainId device roomId, fleet.cached keychainId device = some roomId →
      Harmless next.server device roomId :=
    fun keychainId device roomId hCached =>
      (h.keychain keychainId device roomId hCached).append hMade.identities
  rw [cached] at hEntry
  rcases hMade.keychain with hSame | hSet
  · rw [hSame] at hEntry
    exact hOld otherId other roomId hEntry
  · rw [hSet] at hEntry
    refine cached_update hOld (fun found hFound device hKey => ?_) hEntry
    obtain rfl := Option.some.inj hFound
    exact hMade.home.ofAccount.entry hKey

/-- The first room of a name. -/
theorem Tidy.made (h : Tidy fleet) (hFirst : ∀ roomId, ¬ IsHome fleet.server device roomId) :
    Tidy next where
  sole := by
    intro other first second hHome hSecond
    rcases hMade.home_cases hHome, hMade.home_cases hSecond with ⟨hOld | rfl, hOldToo | rfl⟩
    · exact h.sole other first second hOld hOldToo
    · exact absurd hOld (hMade.first hSecond hFirst first)
    · exact absurd hOldToo (hMade.first hHome hFirst second)
    · rfl
  unforged := by
    rw [hMade.identities]
    intro identity hIdentity
    rcases List.mem_append.mp hIdentity with hOld | hAdded
    · exact h.unforged identity hOld
    · rw [List.mem_singleton.mp hAdded]
      cases answers.version11 <;> rfl
  homes := by
    intro other roomId hHome
    rcases hMade.home_cases hHome with hOld | rfl
    · exact (h.homes other roomId hOld).grows hMade.grows
    · obtain ⟨hAccount, -⟩ := hMade.home.same_name hHome
      obtain ⟨room, hRoom, hNamed, hEncrypted⟩ := hMade.passes []
      exact ⟨room, hRoom, by rwa [← WorkerDevice.account_inj.mpr hAccount], hEncrypted⟩
  aliases := fun _ _ _ hAlias => h.made_aliases hMade hAlias
  keychain := fun _ _ _ hEntry => h.made_keychain hMade hEntry
  given := by
    rw [hMade.given]
    intro entry hEntry
    obtain ⟨other, hAccount, hHome⟩ := h.given entry hEntry
    exact ⟨other, hAccount, hMade.home_of_old hHome⟩

end Making

/-- A room of somebody else. -/
theorem Tidy.addRoom (h : Tidy fleet) {room : HostedRoom} (hUnforged : room.identity.Unforged)
    (hOther : ∀ device : WorkerDevice,
      ¬ (room.identity.creator = device.userId ∧ room.identity.topic = device.topic)) :
    Tidy { fleet with server := fleet.server.addRoom room } := by
  have hAdded := fleet.server.identities_addRoom room
  have hHome : ∀ {device : WorkerDevice} {roomId},
      IsHome (fleet.server.addRoom room) device roomId ↔ IsHome fleet.server device roomId := by
    intro device roomId
    rw [isHome_append hAdded]
    exact or_iff_left fun hNew => hOther device hNew.2
  constructor
  · intro device first second hFirst hSecond
    exact h.sole device first second (hHome.mp hFirst) (hHome.mp hSecond)
  · intro identity hIdentity
    rw [hAdded] at hIdentity
    rcases List.mem_append.mp hIdentity with hOld | hNew
    · exact h.unforged identity hOld
    · rw [List.mem_singleton.mp hNew]
      exact hUnforged
  · intro device roomId hIs
    exact (h.homes device roomId (hHome.mp hIs)).grows (fleet.server.grows_addRoom room)
  · intro device roomId owner hAlias
    obtain ⟨hOld, hMadeBy⟩ := h.aliases device roomId owner hAlias
    refine ⟨Nat.lt_of_lt_of_le hOld ?_, fun hMade => ?_⟩
    · rw [← (fleet.server.addRoom room).length_identities, hAdded, List.length_append,
        fleet.server.length_identities]
      exact Nat.le_add_right ..
    · exact hHome.mpr (hMadeBy ((madeBy_append hAdded hOld).mp hMade))
  · exact fun keychainId device roomId hEntry =>
      (h.keychain keychainId device roomId hEntry).append hAdded
  · intro entry hEntry
    obtain ⟨other, hAccount, hIs⟩ := h.given entry hEntry
    exact ⟨other, hAccount, hHome.mpr hIs⟩

theorem Tidy.bindAlias (h : Tidy fleet) {roomAlias userId : String}
    (hOld : roomId < fleet.server.rooms.length)
    (hHonest : ∀ device : WorkerDevice, device.roomAlias = roomAlias →
      MadeBy fleet.server device roomId → IsHome fleet.server device roomId) :
    Tidy { fleet with server := fleet.server.setAlias roomAlias (some (roomId, userId)) } := by
  refine ⟨h.sole, h.unforged, h.homes, ?_, h.keychain, h.given⟩
  intro device bound owner hAlias
  change Function.update fleet.server.aliases roomAlias (some (roomId, userId)) device.roomAlias =
    some (bound, owner) at hAlias
  by_cases hSame : device.roomAlias = roomAlias
  · rw [hSame, Function.update_self] at hAlias
    obtain rfl : roomId = bound := (Prod.mk.inj (Option.some.inj hAlias)).1
    exact ⟨hOld, hHonest device hSame⟩
  · rw [Function.update_of_ne hSame] at hAlias
    exact h.aliases device bound owner hAlias

theorem Tidy.outcome (h : Tidy fleet) {answers : StartAnswers} {returned : Option RoomId}
    (hOutcome : Outcome fleet keychainId device [] answers next returned)
    (hKeeps : Keeps fleet (.start keychainId device answers)) :
    Tidy next ∧ ∀ roomId, returned = some roomId → OfAccount next.server device roomId := by
  cases hOutcome with
  | failed hSame =>
      refine ⟨h.same ?_ (.same hSame.rooms) hSame.aliases hSame.keychain hSame.given, by simp⟩
      rw [HomeServer.identities, hSame.rooms, HomeServer.identities]
  | taken set hSame hTakes hPasses =>
      have hIdentities : HomeServer.identities _ = fleet.server.identities :=
        congrArg (List.map HostedRoom.identity) hSame.rooms
      have hOfAccount : OfAccount fleet.server device _ := hTakes.elim h.ofAccount_of_takesCached
        fun hFinds => (h.home_of_finds hFinds hPasses).ofAccount
      have hAfter := (OfAccount.congr hIdentities).mpr hOfAccount
      have hTidy := h.same hIdentities (.same hSame.rooms) hSame.aliases hSame.keychain hSame.given
      refine ⟨hTidy.remember hAfter set, fun roomId hReturned => ?_⟩
      obtain rfl := Option.some.inj hReturned
      rwa [remember_server]
  | made hMade hReturned hMakes hGoesOn hNone =>
      have hFirst : ∀ roomId, ¬ IsHome fleet.server device roomId := by
        intro roomId hHome
        rcases hKeeps roomId hHome with ⟨taken, hReads, hPasses⟩ | hGivesUp | hNot
        · exact hNone taken hReads hPasses
        · exact hGoesOn hGivesUp
        · exact hNot hMakes
      refine ⟨h.made hMade hFirst, fun roomId hRoom => ?_⟩
      rcases hReturned with rfl | rfl
      · cases hRoom
      · obtain rfl := Option.some.inj hRoom
        exact hMade.home.ofAccount

theorem tidy_step (fleet : Fleet) (input : FleetInput) (hHonest : Honest fleet input)
    (h : Tidy fleet) (hKeeps : Keeps fleet input) : Tidy (fleet.step [] input) := by
  cases input with
  | start keychainId device answers =>
      obtain ⟨hTidy, hOfAccount⟩ :=
        h.outcome (fleet.getOrCreate_outcome keychainId device [] answers) hKeeps
      rw [step]
      split
      next after roomId hResult =>
        rw [hResult] at hTidy hOfAccount
        exact hTidy.give (hOfAccount roomId rfl)
      next after hResult =>
        rw [hResult] at hTidy
        exact hTidy
  | createRoom room => exact h.addRoom hHonest.1 hHonest.2
  | bindAlias userId roomAlias roomId =>
      rw [step]
      split
      next hFree =>
        rw [Bool.and_eq_true, decide_eq_true_eq] at hFree
        exact h.bindAlias hFree.2 hHonest
      · exact h
  | removeAlias roomAlias =>
      refine h.same rfl (.same rfl) (fun other => ?_) rfl rfl
      by_cases hSame : other = roomAlias
      · subst hSame
        exact .inr (Function.update_self ..)
      · exact .inl (Function.update_of_ne hSame ..)
  | setJoined userId roomId joined =>
      exact h.same rfl (.same rfl) (fun _ => .inl rfl) rfl rfl
  | sendStateEvent roomId event =>
      exact h.same (fleet.server.identities_sendStateEvent roomId event)
        (fleet.server.grows_sendStateEvent roomId event) (fun _ => .inl rfl) rfl rfl
  | overwrite keychainId key entry =>
      exact ⟨h.sole, h.unforged, h.homes, h.aliases,
        fun _ _ _ hEntry => cached_update h.keychain hHonest hEntry, h.given⟩

/-- A worker that neither reads the state of a room that it can take nor fails gets a
second one. -/
theorem keeps_of_oneRoomEach (fleet : Fleet) (input : FleetInput)
    (hSole : OneRoomEach (fleet.step [] input)) : Keeps fleet input := by
  cases input with
  | start keychainId device answers =>
      intro roomId hHome
      by_contra hNot
      rw [not_or, not_or, not_not] at hNot
      obtain ⟨hUntaken, hGoesOn, hMakes⟩ := hNot
      have hServer : (fleet.step [] (.start keychainId device answers)).server =
          (fleet.getOrCreate keychainId device [] answers).1.server := by
        rw [step]
        split
        next hResult => rw [hResult]
        next hResult => rw [hResult]
      have hOutcome := fleet.getOrCreate_outcome keychainId device [] answers
      rw [OneRoomEach, hServer] at hSole
      generalize hNext : (fleet.getOrCreate keychainId device [] answers).1 = next
        at hOutcome hSole
      generalize (fleet.getOrCreate keychainId device [] answers).2 = returned at hOutcome
      cases hOutcome with
      | failed hSame hFailed => exact hFailed.elim hGoesOn (· hMakes)
      | taken set hSame hTakes hPasses =>
          exact hUntaken ⟨_, hTakes.elim TakesCached.reads .inr, hPasses⟩
      | made hMade =>
          have hOld := (isHome_append hMade.identities).mpr (.inl hHome)
          have hLast := hSole device roomId _ hOld hMade.home
          exact absurd hHome.lt (by rw [hLast]; exact Nat.lt_irrefl _)
  | _ => trivial

theorem Tidy.home_of_outcome (h : Tidy fleet) {answers : StartAnswers} {returned : Option RoomId}
    (hOutcome : Outcome fleet keychainId device [] answers next returned)
    (hSteady : Steady fleet (.start keychainId device answers))
    (hReturned : returned = some roomId) : IsHome next.server device roomId := by
  cases hOutcome with
  | failed => cases hReturned
  | taken set hSame hTakes hPasses =>
      obtain rfl := Option.some.inj hReturned
      rw [remember_server]
      exact (hTakes.elim (hSteady _) (h.home_of_finds · hPasses)).grows (.same hSame.rooms)
  | made hMade hMaybe =>
      rcases hMaybe with hNone | hLast
      · rw [hNone] at hReturned
        cases hReturned
      · obtain rfl := Option.some.inj (hLast.symm.trans hReturned)
        exact hMade.home

theorem ownRooms_step (fleet : Fleet) (input : FleetInput) (h : Tidy fleet)
    (hOwn : OwnRooms fleet) (hSteady : Steady fleet input) : OwnRooms (fleet.step [] input) := by
  obtain ⟨hGrows, hSame | ⟨keychainId, device, answers, roomId, rfl, hReturned, hGiven, -⟩⟩ :=
    step_cases [] fleet input
  · rw [OwnRooms, hSame]
    exact fun entry hEntry => (hOwn entry hEntry).grows hGrows
  · rw [OwnRooms, hGiven]
    intro entry hEntry
    rcases List.mem_cons.mp hEntry with rfl | hEarlier
    · have hHome := h.home_of_outcome (fleet.getOrCreate_outcome keychainId device [] answers)
        hSteady hReturned
      rw [step]
      split
      next after found hResult =>
        rw [hResult] at hHome
        exact hHome
      next after hResult =>
        rw [hResult] at hHome
        exact hHome
    · exact (hOwn entry hEarlier).grows hGrows

/-- A room of another name that a worker takes from its keychain is handed out. -/
theorem steady_of_ownRooms (fleet : Fleet) (input : FleetInput)
    (hOwn : OwnRooms (fleet.step [] input)) : Steady fleet input := by
  cases input with
  | start keychainId device answers =>
      intro roomId hTakes
      have hStep : fleet.step [] (.start keychainId device answers) =
          { fleet with given := (device, roomId) :: fleet.given } := by
        rw [step, getOrCreate_of_takesCached hTakes]
      rw [hStep] at hOwn
      exact hOwn (device, roomId) List.mem_cons_self
  | _ => trivial

end Steps

def sampleDevice : WorkerDevice := ⟨"node", "deploy", "worker", ⟨"worker", "example.org", by simp⟩⟩

def sampleAnswers : StartAnswers :=
  ⟨true, true, true, some [], true, true, .ok, true, .ok, .ok, .ok, false, true, "DEVICE", .ok⟩

end Mxdx.Worker.StateRoomSetup.Fleet
