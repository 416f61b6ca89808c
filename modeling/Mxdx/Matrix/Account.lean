import Mxdx.Matrix.Rooms
import Mxdx.Foundations.Automaton
import Mathlib.Data.List.Perm.Basic

/-! An account on a homeserver and the calls that make launcher rooms for it.
Every call can fail by itself, and what it did before that stays. -/
namespace Mxdx.MatrixClient

open Automaton Redirect
open Worker (Value)

/-- A room as far as the launcher looks at it. -/
structure Room where
  create : Value
  tombstone : Option Value
  encryption : Option Value

/-- The content of a state event of the empty state key. -/
def Room.state (room : Room) : String → Option Value
  | "m.room.create" => some room.create
  | "m.room.tombstone" => room.tombstone
  | "m.room.encryption" => room.encryption
  | _ => none

/-- The room that a tombstone points to, if that is a room id. -/
def Room.replacement (isRoomId : String → Bool) (room : Room) : Option String :=
  (room.tombstone.bind fun content =>
    (content.get? "replacement_room").bind Json.asStr).filter isRoomId

/-- The rooms an account can read, those it has left included, and those that it
has joined. -/
structure Account where
  isRoomId : String → Bool
  rooms : String → Option Room
  joined : List String

/-- What becomes of a request for a room: none is made, it is made and the answer
is lost, or it is answered. -/
inductive CreateOutcome where
  | refused (error : String)
  | lost (error : String)
  | answered

namespace CreateOutcome

/-- Whether the room is there now. -/
def made : CreateOutcome → Bool
  | refused _ => false
  | lost _ | answered => true

/-- Whether the launcher hears of the new room. -/
def isAnswered : CreateOutcome → Bool
  | answered => true
  | refused _ | lost _ => false

theorem made_of_isAnswered {outcome : CreateOutcome} (h : outcome.isAnswered = true) :
    outcome.made = true := by
  cases outcome with
  | answered => rfl
  | _ => cases h

end CreateOutcome

/-- The outcome, and the id that the room has or would have. -/
structure CreateAnswer where
  roomId : String
  outcome : CreateOutcome

/-- The encryption of a room with recommended defaults and encrypted state. -/
def recommendedEncryption : Value :=
  .obj [("algorithm", .str "m.megolm.v1.aes-sha2"),
    ("io.element.msc4362.encrypt_state_events", .bool true)]

/-- A room as the launcher asks for it. -/
def newRoom (launcherId : String) (role : Role) (isSpace : Bool) : Room :=
  ⟨mxdxCreationContent launcherId role isSpace, none, some recommendedEncryption⟩

/-- What one call of `get_or_create_launcher_space` meets: the order in which the
homeserver lists the rooms, the requests for rooms and the links between them. -/
structure LaunchAnswers where
  listing : List String
  create : Role → CreateAnswer
  link : Except String Unit

/-- The rooms that come to be when none of the three was there. -/
def LaunchAnswers.makes (answers : LaunchAnswers) : Role → Bool
  | .space => (answers.create .space).outcome.made
  | .exec => (answers.create .space).outcome.isAnswered && (answers.create .exec).outcome.made
  | .logs =>
      (answers.create .space).outcome.isAnswered && (answers.create .exec).outcome.isAnswered &&
        (answers.create .logs).outcome.made

/-- Nothing fails. -/
structure LaunchAnswers.Smooth (answers : LaunchAnswers) : Prop where
  create : ∀ role, (answers.create role).outcome = .answered
  link : answers.link = .ok ()

namespace Account

/-- The account as `RestClient` sees it, its rooms listed in some order. -/
def rest (account : Account) (listing : List String) : RestClient where
  isRoomId := account.isRoomId
  joinedRooms := .ok listing
  invitedRooms := .ok []
  state roomId eventType :=
    match account.rooms roomId with
    | some room => .ok (room.state eventType)
    | none => .error "not in the room"

/-- What the account gets to see. -/
def view (account : Account) : RestClient := account.rest account.joined

/-- A new room, with its maker in it. -/
def add (account : Account) (roomId : String) (room : Room) : Account :=
  { account with
    rooms := Function.update account.rooms roomId (some room)
    joined := roomId :: account.joined }

/-- A room may be made without its maker hearing of it. -/
def createRoom (account : Account) (launcherId : String) (role : Role) (isSpace : Bool)
    (answer : CreateAnswer) : Except String String × Account :=
  let after := account.add answer.roomId (newRoom launcherId role isSpace)
  match answer.outcome with
  | .refused error => (.error error, account)
  | .lost error => (.error error, after)
  | .answered => (.ok answer.roomId, after)

/-- The space, then the rooms in it; the first failure ends it. -/
def createLauncherSpace (account : Account) (launcherId : String) (answers : LaunchAnswers) :
    Except String LauncherTopology × Account :=
  match account.createRoom launcherId .space true (answers.create .space) with
  | (.error error, account) => (.error error, account)
  | (.ok spaceId, account) =>
      match account.createRoom launcherId .exec false (answers.create .exec) with
      | (.error error, account) => (.error error, account)
      | (.ok execRoomId, account) =>
          match account.createRoom launcherId .logs false (answers.create .logs) with
          | (.error error, account) => (.error error, account)
          | (.ok logsRoomId, account) =>
              (answers.link.map fun _ => ⟨spaceId, execRoomId, logsRoomId⟩, account)

/-- The rooms are looked through in the order of the listing. -/
def findLauncherSpace (account : Account) (launcherId : String) (listing : List String) :
    Except String (Option LauncherTopology) :=
  ((account.rest listing).findLauncherSpaceViaRest launcherId).topology

/-- Rooms are made only when none are found. -/
def getOrCreateLauncherSpace (account : Account) (launcherId : String)
    (answers : LaunchAnswers) : Except String LauncherTopology × Account :=
  match account.findLauncherSpace launcherId answers.listing with
  | .error error => (.error error, account)
  | .ok (some topology) => (.ok topology, account)
  | .ok none => account.createLauncherSpace launcherId answers

/-- A joined room leads to the room, which declares the role. -/
def Leads (account : Account) (launcherId : String) (role : Role) (room : String) : Prop :=
  ∃ roomId ∈ account.joined, account.view.leadsTo launcherId role roomId = some room

def Valid (account : Account) : Prop := ∀ roomId ∈ account.joined, account.isRoomId roomId = true

variable {account : Account} {launcherId : String} {role : Role} {room roomId : String}

theorem role_view : account.view.role launcherId roomId =
    (account.rooms roomId).bind fun room => declaredRole launcherId room.create := by
  simp only [RestClient.role, RestClient.getRoomCreate, view, rest]
  cases account.rooms roomId <;> rfl

theorem replacement_view : account.view.replacement roomId =
    (account.rooms roomId).bind (Room.replacement account.isRoomId) := by
  cases hRoom : account.rooms roomId with
  | none =>
      simp only [RestClient.replacement, RestClient.getRoomTombstone, view, rest, hRoom]
      rfl
  | some room =>
      have hState : account.view.state roomId "m.room.tombstone" = .ok room.tombstone := by
        simp only [view, rest, hRoom]
        rfl
      exact RestClient.replacement_of_state hState

/-- A search goes by the first room of the list that leads to each role. -/
theorem findLauncherSpace_eq (hValid : account.Valid) {listing : List String}
    (hPerm : listing.Perm account.joined) :
    account.findLauncherSpace launcherId listing =
      .ok (RestClient.topologyOf fun role =>
        listing.findSome? (account.view.leadsTo launcherId role)) := by
  have hListed : (account.rest listing).listJoinedRooms = .ok listing := by
    apply if_pos
    rw [List.all_eq_true]
    exact fun roomId hMem => hValid roomId (hPerm.subset hMem)
  exact RestClient.topology_eq hListed

theorem leads_of_findSome? {listing : List String} (hPerm : listing.Perm account.joined)
    (h : listing.findSome? (account.view.leadsTo launcherId role) = some room) :
    account.Leads launcherId role room := by
  obtain ⟨before, roomId, after, hListing, hLeads, -⟩ := List.findSome?_eq_some_iff.mp h
  exact ⟨roomId, hPerm.subset (by simp [hListing]), hLeads⟩

theorem isSome_findSome?_iff {listing : List String} (hPerm : listing.Perm account.joined) :
    (listing.findSome? (account.view.leadsTo launcherId role)).isSome = true ↔
      ∃ room, account.Leads launcherId role room := by
  constructor
  · intro h
    obtain ⟨room, hRoom⟩ := Option.isSome_iff_exists.mp h
    exact ⟨room, leads_of_findSome? hPerm hRoom⟩
  · rintro ⟨room, roomId, hMem, hLeads⟩
    exact List.findSome?_isSome_iff.mpr ⟨roomId, hPerm.symm.subset hMem, by rw [hLeads]; rfl⟩

/-- Whatever can be found comes first in some listing. -/
theorem Leads.listed (h : account.Leads launcherId role room) :
    ∃ listing : List String, listing.Perm account.joined ∧
      listing.findSome? (account.view.leadsTo launcherId role) = some room := by
  obtain ⟨roomId, hMem, hLeads⟩ := h
  refine ⟨roomId :: account.joined.erase roomId, (List.perm_cons_erase hMem).symm, ?_⟩
  rw [List.findSome?_cons, hLeads]

/-- The topology is found in whatever order the rooms are listed. -/
def Finds (account : Account) (launcherId : String) (topology : LauncherTopology) : Prop :=
  ∀ listing, listing.Perm account.joined →
    account.findLauncherSpace launcherId listing = .ok (some topology)

/-- With a room for each role, the order does not matter when each role has one. -/
theorem finds_iff (hValid : account.Valid)
    (hTotal : ∀ role, ∃ room, account.Leads launcherId role room) (topology : LauncherTopology) :
    account.Finds launcherId topology ↔
      ∀ role room, account.Leads launcherId role room → room = topology.room role := by
  have hFound : ∀ listing, listing.Perm account.joined →
      ∃ found : LauncherTopology,
        account.findLauncherSpace launcherId listing = .ok (some found) ∧
          ∀ role, listing.findSome? (account.view.leadsTo launcherId role) =
            some (found.room role) := by
    intro listing hPerm
    obtain ⟨found, hTopology, hRooms⟩ := RestClient.topologyOf_of_isSome
      fun role => (isSome_findSome?_iff hPerm).mpr (hTotal role)
    exact ⟨found, by rw [findLauncherSpace_eq hValid hPerm, hTopology], hRooms⟩
  constructor
  · intro h role room hLeads
    obtain ⟨listing, hPerm, hFirst⟩ := hLeads.listed
    obtain ⟨found, hTopology, hRooms⟩ := hFound listing hPerm
    have hSame : found = topology := by
      have hFinds := h listing hPerm
      rw [hTopology] at hFinds
      simpa using hFinds
    rw [hRooms role, hSame] at hFirst
    exact (Option.some.inj hFirst).symm
  · intro h listing hPerm
    obtain ⟨found, hTopology, hRooms⟩ := hFound listing hPerm
    have hSame : found = topology := by
      apply LauncherTopology.ext_room
      exact fun role => h role _ (leads_of_findSome? hPerm (hRooms role))
    rw [hTopology, hSame]

/-- A topology of different rooms is found only where each role has one. -/
theorem Finds.total {topology : LauncherTopology} (h : account.Finds launcherId topology)
    (hValid : account.Valid) {first second : Role}
    (hNe : topology.room first ≠ topology.room second) :
    ∀ role, ∃ room, account.Leads launcherId role room := by
  intro missing
  by_contra hMissing
  have hNone : account.joined.findSome? (account.view.leadsTo launcherId missing) = none := by
    rw [← Option.not_isSome_iff_eq_none, isSome_findSome?_iff (List.Perm.refl _)]
    exact hMissing
  have hFound := h account.joined (List.Perm.refl _)
  rw [findLauncherSpace_eq hValid (List.Perm.refl _), Except.ok.injEq] at hFound
  cases hExec : account.joined.findSome? (account.view.leadsTo launcherId .exec) with
  | none =>
      rw [RestClient.topologyOf_eq_none_iff.mpr hExec] at hFound
      cases hFound
  | some execRoomId =>
      rw [RestClient.topologyOf_partial hExec hNone, Option.some.injEq] at hFound
      rw [← hFound] at hNe
      exact hNe (by cases first <;> cases second <;> rfl)

/-- What a room leads to declares the role. -/
theorem role_of_leadsTo (h : account.view.leadsTo launcherId role roomId = some room) :
    account.view.role launcherId room = some role := by
  unfold RestClient.leadsTo at h
  dsimp only at h
  split at h
  next hRole => exact Option.some.inj h ▸ hRole
  · cases h

theorem Leads.role_eq (h : account.Leads launcherId role room) :
    account.view.role launcherId room = some role := by
  obtain ⟨roomId, -, hLeads⟩ := h
  exact role_of_leadsTo hLeads

theorem rooms_add_self (added : Room) : (account.add roomId added).rooms roomId = some added :=
  Function.update_self ..

theorem rooms_add_of_ne {other : String} (hNe : other ≠ roomId) (added : Room) :
    (account.add roomId added).rooms other = account.rooms other :=
  Function.update_of_ne hNe ..

section Add

variable {added : Room} (hNew : account.rooms roomId = none)
include hNew

/-- A new room is replaced by no other, and was not before it was made. -/
theorem replacement_add (hTombstone : added.tombstone = none) :
    (account.add roomId added).view.replacement = account.view.replacement := by
  funext other
  rw [replacement_view, replacement_view]
  by_cases hSame : other = roomId
  · rw [hSame, hNew, rooms_add_self, Option.bind_some, Room.replacement, hTombstone]
    rfl
  · rw [rooms_add_of_ne hSame]
    rfl

theorem replacement_new : account.view.replacement roomId = none := by
  rw [replacement_view, hNew, Option.bind_none]

theorem role_new : account.view.role launcherId roomId = none := by
  rw [role_view, hNew, Option.bind_none]

/-- A new room can be found for the role that it declares; besides, nothing changes. -/
theorem leads_add_iff (hTombstone : added.tombstone = none) {declared : Role}
    (hDeclared : declaredRole launcherId added.create = some declared) :
    (account.add roomId added).Leads launcherId role room ↔
      account.Leads launcherId role room ∨ role = declared ∧ room = roomId := by
  have hSelf : (account.add roomId added).view.role launcherId roomId = some declared := by
    rw [role_view, rooms_add_self, Option.bind_some, hDeclared]
  have hOther : ∀ other, other ≠ roomId → (account.add roomId added).view.role launcherId other =
      account.view.role launcherId other := by
    intro other hNe
    rw [role_view, role_view, rooms_add_of_ne hNe]
  have hLeadsTo : ∀ start, (account.add roomId added).view.leadsTo launcherId role start =
      if follow account.view.replacement RestClient.tombstoneLimit start = roomId then
        if role = declared then some roomId else none
      else account.view.leadsTo launcherId role start := by
    intro start
    simp only [RestClient.leadsTo, replacement_add hNew hTombstone]
    by_cases hEnd : follow account.view.replacement RestClient.tombstoneLimit start = roomId
    · rw [if_pos hEnd, hEnd, hSelf]
      simp only [Option.some.injEq, eq_comm]
    · rw [if_neg hEnd, hOther _ hEnd]
  have hOld : ∀ start, account.view.leadsTo launcherId role start = some room →
      follow account.view.replacement RestClient.tombstoneLimit start ≠ roomId := by
    intro start hLeads hEnd
    simp [RestClient.leadsTo, hEnd, role_new hNew] at hLeads
  constructor
  · rintro ⟨start, hMem, hLeads⟩
    rw [hLeadsTo] at hLeads
    split at hLeads
    · right
      split at hLeads
      next hRole => exact ⟨hRole, (Option.some.inj hLeads).symm⟩
      · cases hLeads
    next hEnd =>
      left
      rcases List.mem_cons.mp hMem with rfl | hJoined
      · exact absurd (follow_of_none (replacement_new hNew) _) hEnd
      · exact ⟨start, hJoined, hLeads⟩
  · rintro (⟨start, hMem, hLeads⟩ | ⟨rfl, rfl⟩)
    · refine ⟨start, List.mem_cons_of_mem _ hMem, ?_⟩
      rw [hLeadsTo, if_neg (hOld start hLeads), hLeads]
    · refine ⟨room, List.mem_cons_self, ?_⟩
      rw [hLeadsTo, if_pos (follow_of_none (replacement_new hNew) _), if_pos rfl]

end Add

/-- The homeserver gives every new room an id of its own that it never gave before. -/
structure New (account : Account) (create : Role → CreateAnswer) : Prop where
  valid : ∀ role, account.isRoomId (create role).roomId = true
  new : ∀ role, account.rooms (create role).roomId = none
  distinct : Function.Injective fun role => (create role).roomId

theorem createRoom_eq (account : Account) (launcherId : String) (role : Role) (isSpace : Bool)
    (answer : CreateAnswer) :
    (account.createRoom launcherId role isSpace answer).2 =
      if answer.outcome.made then account.add answer.roomId (newRoom launcherId role isSpace)
      else account := by
  unfold createRoom
  cases answer.outcome <;> rfl

theorem leads_createRoom_iff {declared : Role} {isSpace : Bool} {answer : CreateAnswer}
    (hNew : account.rooms answer.roomId = none) :
    (account.createRoom launcherId declared isSpace answer).2.Leads launcherId role room ↔
      account.Leads launcherId role room ∨
        answer.outcome.made = true ∧ role = declared ∧ room = answer.roomId := by
  rw [createRoom_eq]
  split
  next hMade =>
    rw [leads_add_iff hNew rfl (declaredRole_creationContent launcherId declared isSpace)]
    simp only [hMade, true_and]
  next hNot => simp only [hNot, Bool.false_eq_true, false_and, or_false]

theorem rooms_createRoom {declared : Role} {isSpace : Bool} {answer : CreateAnswer}
    (hNe : roomId ≠ answer.roomId) :
    (account.createRoom launcherId declared isSpace answer).2.rooms roomId =
      account.rooms roomId := by
  rw [createRoom_eq]
  split
  · exact rooms_add_of_ne hNe _
  · rfl

@[simp] theorem isRoomId_createRoom (account : Account) (launcherId : String) (role : Role)
    (isSpace : Bool) (answer : CreateAnswer) :
    (account.createRoom launcherId role isSpace answer).2.isRoomId = account.isRoomId := by
  rw [createRoom_eq]
  split <;> rfl

theorem Valid.createRoom (h : account.Valid) (launcherId : String) (role : Role) (isSpace : Bool)
    {answer : CreateAnswer} (hAnswer : account.isRoomId answer.roomId = true) :
    (account.createRoom launcherId role isSpace answer).2.Valid := by
  rw [createRoom_eq]
  split
  · exact List.forall_mem_cons.mpr ⟨hAnswer, h⟩
  · exact h

theorem createLauncherSpace_snd (account : Account) (launcherId : String)
    (answers : LaunchAnswers) :
    (account.createLauncherSpace launcherId answers).2 =
      let space := (account.createRoom launcherId .space true (answers.create .space)).2
      let exec := (space.createRoom launcherId .exec false (answers.create .exec)).2
      let logs := (exec.createRoom launcherId .logs false (answers.create .logs)).2
      if (answers.create .space).outcome.isAnswered then
        if (answers.create .exec).outcome.isAnswered then logs else exec
      else space := by
  unfold createLauncherSpace createRoom
  dsimp only
  cases (answers.create .space).outcome with
  | refused error => rfl
  | lost error => rfl
  | answered =>
      dsimp only
      cases (answers.create .exec).outcome with
      | refused error => rfl
      | lost error => rfl
      | answered =>
          dsimp only
          cases (answers.create .logs).outcome <;> rfl

/-- What an attempt leaves behind, whether it ends with an error or not. -/
theorem leads_createLauncherSpace_iff {answers : LaunchAnswers}
    (hNew : account.New answers.create) :
    (account.createLauncherSpace launcherId answers).2.Leads launcherId role room ↔
      account.Leads launcherId role room ∨
        answers.makes role = true ∧ room = (answers.create role).roomId := by
  have hNe : ∀ {first second : Role}, first ≠ second →
      (answers.create first).roomId ≠ (answers.create second).roomId :=
    fun hRoles hSame => hRoles (hNew.distinct hSame)
  have hExec : (account.createRoom launcherId .space true (answers.create .space)).2.rooms
      (answers.create .exec).roomId = none := by
    rw [rooms_createRoom (hNe (by decide)), hNew.new]
  have hLogs : ((account.createRoom launcherId .space true
      (answers.create .space)).2.createRoom launcherId .exec false
        (answers.create .exec)).2.rooms (answers.create .logs).roomId = none := by
    rw [rooms_createRoom (hNe (by decide)), rooms_createRoom (hNe (by decide)), hNew.new]
  rw [createLauncherSpace_snd]
  dsimp only
  split
  next hSpace =>
    split
    next hExecAnswered =>
      rw [leads_createRoom_iff hLogs, leads_createRoom_iff hExec,
        leads_createRoom_iff (hNew.new .space)]
      cases role <;> simp [LaunchAnswers.makes, hSpace, hExecAnswered,
        CreateOutcome.made_of_isAnswered hSpace, CreateOutcome.made_of_isAnswered hExecAnswered]
    next hExecNot =>
      rw [leads_createRoom_iff hExec, leads_createRoom_iff (hNew.new .space)]
      cases role <;> simp [LaunchAnswers.makes, hSpace, hExecNot,
        CreateOutcome.made_of_isAnswered hSpace]
  next hSpaceNot =>
    rw [leads_createRoom_iff (hNew.new .space)]
    cases role <;> simp [LaunchAnswers.makes, hSpaceNot]

theorem Valid.createLauncherSpace (h : account.Valid) {answers : LaunchAnswers}
    (hNew : account.New answers.create) :
    (account.createLauncherSpace launcherId answers).2.Valid := by
  have hSpace := h.createRoom launcherId .space true (hNew.valid .space)
  have hExec := hSpace.createRoom launcherId .exec false
    (by rw [isRoomId_createRoom]; exact hNew.valid .exec)
  have hLogs := hExec.createRoom launcherId .logs false
    (by rw [isRoomId_createRoom, isRoomId_createRoom]; exact hNew.valid .logs)
  rw [createLauncherSpace_snd]
  dsimp only
  split
  · split
    · exact hLogs
    · exact hExec
  · exact hSpace

/-- Every call that makes rooms gets new ones, and the list is that of the rooms
that are joined. -/
structure Honest (launcherId : String) (account : Account) (answers : LaunchAnswers) : Prop where
  listed : answers.listing.Perm account.joined
  new : account.findLauncherSpace launcherId answers.listing = .ok none →
    account.New answers.create

/-- Three rooms, one for each role. -/
structure Whole (account : Account) (launcherId : String) (topology : LauncherTopology) :
    Prop where
  role : ∀ role, account.view.role launcherId (topology.room role) = some role
  distinct : Function.Injective topology.room

/-- The next call in which nothing fails returns three rooms, one for each role. -/
def Settles (launcherId : String) (account : Account) : Prop :=
  ∀ answers, account.Honest launcherId answers → answers.Smooth →
    ∃ topology, (account.getOrCreateLauncherSpace launcherId answers).1 = .ok topology ∧
      (account.getOrCreateLauncherSpace launcherId answers).2.Whole launcherId topology

theorem whole_of_role {topology : LauncherTopology}
    (hRole : ∀ role, account.view.role launcherId (topology.room role) = some role) :
    account.Whole launcherId topology := by
  refine ⟨hRole, ?_⟩
  intro first second hSame
  have hFirst := hRole first
  rw [hSame, hRole second] at hFirst
  exact (Option.some.inj hFirst).symm

theorem findLauncherSpace_eq_none_iff (hValid : account.Valid) {listing : List String}
    (hPerm : listing.Perm account.joined) :
    account.findLauncherSpace launcherId listing = .ok none ↔
      ¬ ∃ room, account.Leads launcherId .exec room := by
  rw [findLauncherSpace_eq hValid hPerm, Except.ok.injEq, RestClient.topologyOf_eq_none_iff,
    ← isSome_findSome?_iff hPerm, Option.not_isSome_iff_eq_none]

/-- A call that finds the launcher changes nothing. -/
theorem getOrCreate_of_found {answers : LaunchAnswers} {topology : LauncherTopology}
    (hFound : account.findLauncherSpace launcherId answers.listing = .ok (some topology)) :
    account.getOrCreateLauncherSpace launcherId answers = (.ok topology, account) := by
  rw [getOrCreateLauncherSpace, hFound]

theorem getOrCreate_of_none {answers : LaunchAnswers}
    (hNone : account.findLauncherSpace launcherId answers.listing = .ok none) :
    account.getOrCreateLauncherSpace launcherId answers =
      account.createLauncherSpace launcherId answers := by
  rw [getOrCreateLauncherSpace, hNone]

/-- Where no request fails, the new rooms are the topology. -/
theorem createLauncherSpace_of_smooth {answers : LaunchAnswers} (hSmooth : answers.Smooth) :
    (account.createLauncherSpace launcherId answers).1 =
      .ok ⟨(answers.create .space).roomId, (answers.create .exec).roomId,
        (answers.create .logs).roomId⟩ := by
  simp only [createLauncherSpace, createRoom, hSmooth.create, hSmooth.link]
  rfl

theorem makes_of_smooth {answers : LaunchAnswers} (hSmooth : answers.Smooth) (role : Role) :
    answers.makes role = true := by
  cases role <;> simp [LaunchAnswers.makes, hSmooth.create, CreateOutcome.made,
    CreateOutcome.isAnswered]

/-- The account settles unless it has a room for commands and lacks another one. -/
theorem settles_iff (hValid : account.Valid) :
    account.Settles launcherId ↔
      ((∃ room, account.Leads launcherId .exec room) →
        ∀ role, ∃ room, account.Leads launcherId role room) := by
  constructor
  · intro h hExec missing
    by_contra hMissing
    obtain ⟨execRoomId, hFirst⟩ := Option.isSome_iff_exists.mp
      ((isSome_findSome?_iff (List.Perm.refl account.joined)).mpr hExec)
    have hNone : account.joined.findSome? (account.view.leadsTo launcherId missing) = none := by
      rw [← Option.not_isSome_iff_eq_none, isSome_findSome?_iff (List.Perm.refl _)]
      exact hMissing
    let answers : LaunchAnswers := ⟨account.joined, fun _ => ⟨"", .answered⟩, .ok ()⟩
    have hFound : account.findLauncherSpace launcherId answers.listing =
        .ok (some ⟨execRoomId, execRoomId, execRoomId⟩) := by
      rw [findLauncherSpace_eq hValid (List.Perm.refl _),
        RestClient.topologyOf_partial hFirst hNone]
    have hHonest : account.Honest launcherId answers := by
      refine ⟨List.Perm.refl _, fun hNew => ?_⟩
      rw [hFound] at hNew
      cases hNew
    obtain ⟨topology, hOk, hWhole⟩ := h answers hHonest ⟨fun _ => rfl, rfl⟩
    rw [getOrCreate_of_found hFound] at hOk hWhole
    cases hOk
    have hSame : Role.space = Role.exec := hWhole.distinct rfl
    cases hSame
  · intro h answers hHonest hSmooth
    by_cases hExec : ∃ room, account.Leads launcherId .exec room
    · have hTotal := h hExec
      obtain ⟨topology, hTopology, hRooms⟩ := RestClient.topologyOf_of_isSome
        fun role => (isSome_findSome?_iff hHonest.listed).mpr (hTotal role)
      have hFound : account.findLauncherSpace launcherId answers.listing = .ok (some topology) := by
        rw [findLauncherSpace_eq hValid hHonest.listed, hTopology]
      rw [getOrCreate_of_found hFound]
      exact ⟨topology, rfl, whole_of_role fun role =>
        (leads_of_findSome? hHonest.listed (hRooms role)).role_eq⟩
    · have hNone := (findLauncherSpace_eq_none_iff hValid hHonest.listed).mpr hExec
      have hNew := hHonest.new hNone
      rw [getOrCreate_of_none hNone, createLauncherSpace_of_smooth hSmooth]
      refine ⟨_, rfl, whole_of_role fun role => ?_⟩
      have hLeads : (account.createLauncherSpace launcherId answers).2.Leads launcherId role
          (answers.create role).roomId :=
        (leads_createLauncherSpace_iff hNew).mpr (.inr ⟨makes_of_smooth hSmooth role, rfl⟩)
      cases role <;> exact hLeads.role_eq

/-- The account after a call. -/
def launch (launcherId : String) (account : Account) (answers : LaunchAnswers) : Account :=
  (account.getOrCreateLauncherSpace launcherId answers).2

/-- A call that finds no room for commands and leaves one behind leaves one for logs
too, if there is none. -/
def Completes (launcherId : String) (account : Account) (answers : LaunchAnswers) : Prop :=
  (¬ ∃ room, account.Leads launcherId .exec room) → answers.makes .exec = true →
    answers.makes .logs = true ∨ ∃ room, account.Leads launcherId .logs room

theorem launch_of_exec (hValid : account.Valid) {answers : LaunchAnswers}
    (hHonest : account.Honest launcherId answers)
    (hExec : ∃ room, account.Leads launcherId .exec room) :
    account.launch launcherId answers = account := by
  cases hFound : account.findLauncherSpace launcherId answers.listing with
  | error error => rw [launch, getOrCreateLauncherSpace, hFound]
  | ok found =>
      cases found with
      | none => exact absurd hExec ((findLauncherSpace_eq_none_iff hValid hHonest.listed).mp hFound)
      | some topology => rw [launch, getOrCreate_of_found hFound]

theorem launch_of_not_exec (hValid : account.Valid) {answers : LaunchAnswers}
    (hHonest : account.Honest launcherId answers)
    (hExec : ¬ ∃ room, account.Leads launcherId .exec room) :
    account.New answers.create ∧ account.launch launcherId answers =
      (account.createLauncherSpace launcherId answers).2 := by
  have hNone := (findLauncherSpace_eq_none_iff hValid hHonest.listed).mpr hExec
  exact ⟨hHonest.new hNone, by rw [launch, getOrCreate_of_none hNone]⟩

theorem Valid.launch (h : account.Valid) {answers : LaunchAnswers}
    (hHonest : account.Honest launcherId answers) : (account.launch launcherId answers).Valid := by
  by_cases hExec : ∃ room, account.Leads launcherId .exec room
  · rw [launch_of_exec h hHonest hExec]
    exact h
  · obtain ⟨hNew, hLaunch⟩ := launch_of_not_exec h hHonest hExec
    rw [hLaunch]
    exact h.createLauncherSpace hNew

theorem settles_launch_iff (hValid : account.Valid) {answers : LaunchAnswers}
    (hHonest : account.Honest launcherId answers) (hSettles : account.Settles launcherId) :
    (account.launch launcherId answers).Settles launcherId ↔
      account.Completes launcherId answers := by
  by_cases hExec : ∃ room, account.Leads launcherId .exec room
  · rw [launch_of_exec hValid hHonest hExec]
    exact iff_of_true hSettles fun hNot => absurd hExec hNot
  · obtain ⟨hNew, hLaunch⟩ := launch_of_not_exec hValid hHonest hExec
    have hLeads : ∀ role, (∃ room, (account.launch launcherId answers).Leads launcherId role room) ↔
        (∃ room, account.Leads launcherId role room) ∨ answers.makes role = true := by
      intro role
      rw [hLaunch]
      simp only [leads_createLauncherSpace_iff hNew, exists_or, exists_and_left, exists_eq,
        and_true]
    rw [settles_iff (hValid.launch hHonest), hLeads]
    simp only [hExec, false_or, hLeads, Completes, not_false_eq_true, true_implies]
    refine forall_congr' fun hMakes => ?_
    -- with the room for commands, the space has been made before it
    have hSpace : answers.makes .space = true := by
      simp only [LaunchAnswers.makes, Bool.and_eq_true] at hMakes
      exact CreateOutcome.made_of_isAnswered hMakes.1
    constructor
    · intro h
      exact (h .logs).symm
    · intro hLogs role
      cases role with
      | space => exact .inr hSpace
      | exec => exact .inr hMakes
      | logs => exact hLogs.symm

/-- Calls can go on failing; what they leave settles as long as none of them leaves
a room for commands without one for logs. -/
theorem settles_always_iff (hValid : account.Valid) (hStart : account.Settles launcherId)
    {calls : List LaunchAnswers}
    (hHonest : Admissible (launch launcherId) (Honest launcherId) account calls) :
    Always (launch launcherId) (Settles launcherId) account calls ↔
      Admissible (launch launcherId) (Completes launcherId) account calls := by
  have hKept : ∀ (before : Account) (answers : LaunchAnswers), before.Valid →
      before.Honest launcherId answers → (before.launch launcherId answers).Valid :=
    fun _ _ hBefore hCall => hBefore.launch hCall
  exact always_iff_admissible_given hKept
    (fun _ _ hBefore hCall hSettles => settles_launch_iff hBefore hCall hSettles)
    hHonest hValid hStart

end Account

end Mxdx.MatrixClient
