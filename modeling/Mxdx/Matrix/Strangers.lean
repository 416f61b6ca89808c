import Mxdx.Matrix.Rooms

/-! Discovery where other people have rooms of their own. The same account looks
for a launcher with and without them; nothing in the search asks who made a room. -/
namespace Mxdx.MatrixClient

open Redirect

namespace RestClient

/-- The homeserver as it answers where there are no such further rooms. -/
def without (rest : RestClient) (further : String → Bool) : RestClient where
  isRoomId := rest.isRoomId
  joinedRooms := rest.joinedRooms.map (List.filter fun roomId => !further roomId)
  invitedRooms := rest.invitedRooms.map (List.filter fun roomId => !further roomId)
  state roomId eventType :=
    if further roomId then .error "not in the room" else rest.state roomId eventType

/-- The rooms of the topology are joined, made by the account itself, replaced by
no other and say what they are. -/
def Genuine (rest : RestClient) (launcherId account : String) (creator : String → String)
    (topology : LauncherTopology) (joined : List String) : Prop :=
  ∀ role, topology.room role ∈ joined ∧ creator (topology.room role) = account ∧
    rest.replacement (topology.room role) = none ∧
      rest.role launcherId (topology.room role) = some role

/-- A further room is met on the way from this one. -/
def strays (rest : RestClient) (further : String → Bool) (roomId : String) : Bool :=
  meets rest.replacement further tombstoneLimit roomId

/-- Where the first room that leads to a room of a role is a further one, or gets
there by way of one, it leads to no other room than the first that does not. -/
def Unsteered (rest : RestClient) (launcherId : String) (further : String → Bool)
    (joined : List String) : Prop :=
  ∀ role before roomId after room, joined = before ++ roomId :: after →
    (∀ earlier ∈ before, rest.leadsTo launcherId role earlier = none) →
      rest.strays further roomId = true → rest.leadsTo launcherId role roomId = some room →
        (joined.filter fun other => !rest.strays further other).findSome?
          (rest.leadsTo launcherId role) = some room

variable {rest : RestClient} {launcherId : String} {further : String → Bool}
  {joined : List String}

theorem state_without_of_further {roomId : String} (h : further roomId = true)
    (eventType : String) :
    (rest.without further).state roomId eventType = .error "not in the room" :=
  if_pos h

theorem state_without_of_not {roomId : String} (h : further roomId ≠ true) (eventType : String) :
    (rest.without further).state roomId eventType = rest.state roomId eventType :=
  if_neg h

theorem replacement_without :
    (rest.without further).replacement = cut rest.replacement further := by
  funext roomId
  by_cases hFurther : further roomId = true
  · rw [replacement, getRoomTombstone, state_without_of_further hFurther, cut, if_pos hFurther]
    rfl
  · rw [replacement, getRoomTombstone, state_without_of_not hFurther, cut, if_neg hFurther]
    rfl

theorem role_without (roomId : String) :
    (rest.without further).role launcherId roomId =
      if further roomId then none else rest.role launcherId roomId := by
  by_cases hFurther : further roomId = true
  · rw [role, getRoomCreate, state_without_of_further hFurther, if_pos hFurther]
  · rw [role, getRoomCreate, state_without_of_not hFurther, if_neg hFurther]
    rfl

/-- Without the further rooms, whatever met one leads nowhere. -/
theorem leadsTo_without (role : Role) (roomId : String) :
    (rest.without further).leadsTo launcherId role roomId =
      if rest.strays further roomId then none else rest.leadsTo launcherId role roomId := by
  unfold leadsTo strays
  dsimp only
  rw [replacement_without, role_without]
  cases hMeets : meets rest.replacement further tombstoneLimit roomId with
  | true => simp [marked_follow_cut hMeets]
  | false => simp [follow_cut hMeets, marked_follow hMeets]

/-- A further room meets itself. -/
theorem strays_of_further {roomId : String} (h : further roomId = true) :
    rest.strays further roomId = true := by
  rw [strays, tombstoneLimit, meets, h, Bool.true_or]

theorem findSome?_without (role : Role) :
    (joined.filter fun roomId => !further roomId).findSome?
        ((rest.without further).leadsTo launcherId role) =
      (joined.filter fun roomId => !rest.strays further roomId).findSome?
        (rest.leadsTo launcherId role) := by
  induction joined with
  | nil => rfl
  | cons roomId joined ih =>
      by_cases hFurther : further roomId = true
      · rw [List.filter_cons_of_neg (by simp [hFurther]),
          List.filter_cons_of_neg (by simp [strays_of_further hFurther]), ih]
      · rw [List.filter_cons_of_pos (by simp [hFurther]), List.findSome?_cons, leadsTo_without]
        by_cases hStrays : rest.strays further roomId = true
        · rw [if_pos hStrays, List.filter_cons_of_neg (by simp [hStrays]), ih]
        · rw [if_neg hStrays, List.filter_cons_of_pos (by simp [hStrays]), List.findSome?_cons, ih]

/-- The list of a homeserver without the further rooms. -/
theorem listJoinedRooms_without (hJoined : rest.listJoinedRooms = .ok joined) :
    (rest.without further).listJoinedRooms =
      .ok (joined.filter fun roomId => !further roomId) := by
  unfold listJoinedRooms at hJoined ⊢
  cases hAnswer : rest.joinedRooms with
  | error error =>
      rw [hAnswer] at hJoined
      cases hJoined
  | ok listed =>
      rw [hAnswer] at hJoined
      have hWithout : (rest.without further).joinedRooms =
          .ok (listed.filter fun roomId => !further roomId) := by
        rw [without, hAnswer]
        rfl
      by_cases hAll : listed.all rest.isRoomId = true
      · have hSame : Except.ok listed = (Except.ok joined : Except String _) := by
          rw [← hJoined]
          exact (if_pos hAll).symm
        cases hSame
        rw [hWithout]
        apply if_pos
        rw [List.all_eq_true] at hAll ⊢
        exact fun roomId hMem => hAll roomId (List.mem_of_mem_filter hMem)
      · have hError : (throw "invalid room id" : Except String (List String)) = .ok joined := by
          rw [← hJoined]
          exact (if_neg hAll).symm
        cases hError

/-- Where all three rooms are found, the topology tells which. -/
theorem topologyOf_eq_iff {first second : Role → Option String}
    (hFirst : ∀ role, (first role).isSome = true) (hSecond : ∀ role, (second role).isSome = true) :
    topologyOf first = topologyOf second ↔ ∀ role, first role = second role := by
  obtain ⟨one, hOne, hRoomsOne⟩ := topologyOf_of_isSome hFirst
  obtain ⟨other, hOther, hRoomsOther⟩ := topologyOf_of_isSome hSecond
  rw [hOne, hOther, Option.some.injEq]
  constructor
  · rintro rfl role
    rw [hRoomsOne, hRoomsOther]
  · intro h
    apply LauncherTopology.ext_room
    intro role
    have hRole := h role
    rwa [hRoomsOne, hRoomsOther, Option.some.injEq] at hRole

section Genuine

variable {account : String} {creator : String → String} {topology : LauncherTopology}

/-- A genuine room leads to itself and meets no further one. -/
theorem Genuine.leadsTo (h : rest.Genuine launcherId account creator topology joined)
    (role : Role) :
    rest.leadsTo launcherId role (topology.room role) = some (topology.room role) := by
  obtain ⟨-, -, hReplacement, hRole⟩ := h role
  rw [RestClient.leadsTo, follow_of_none hReplacement]
  exact if_pos hRole

theorem Genuine.not_strays (h : rest.Genuine launcherId account creator topology joined)
    (hFurther : ∀ roomId, further roomId = true → creator roomId ≠ account) (role : Role) :
    rest.strays further (topology.room role) = false := by
  obtain ⟨-, hCreator, hReplacement, -⟩ := h role
  have hOwn : further (topology.room role) = false := by
    by_contra hNot
    exact hFurther _ (by simpa using hNot) hCreator
  simp [strays, tombstoneLimit, meets, hReplacement, hOwn]

/-- The room found first is the same with and without the further rooms when it
is not steered. -/
theorem findSome?_eq_iff {role : Role} {own : String}
    (hOwn : own ∈ joined)
    (hLeads : (rest.leadsTo launcherId role own).isSome = true) :
    joined.findSome? (rest.leadsTo launcherId role) =
        (joined.filter fun roomId => !rest.strays further roomId).findSome?
          (rest.leadsTo launcherId role) ↔
      ∀ before roomId after room, joined = before ++ roomId :: after →
        (∀ earlier ∈ before, rest.leadsTo launcherId role earlier = none) →
          rest.strays further roomId = true → rest.leadsTo launcherId role roomId = some room →
            (joined.filter fun other => !rest.strays further other).findSome?
              (rest.leadsTo launcherId role) = some room := by
  constructor
  · intro h before roomId after room hJoined hBefore _ hRoom
    rw [← h, List.findSome?_eq_some_iff]
    exact ⟨before, roomId, after, hJoined, hRoom, hBefore⟩
  · intro h
    have hFound : (joined.findSome? (rest.leadsTo launcherId role)).isSome = true :=
      List.findSome?_isSome_iff.mpr ⟨own, hOwn, hLeads⟩
    obtain ⟨room, hRoom⟩ := Option.isSome_iff_exists.mp hFound
    obtain ⟨before, roomId, after, hJoined, hLead, hBefore⟩ :=
      List.findSome?_eq_some_iff.mp hRoom
    rw [hRoom]
    by_cases hSteered : rest.strays further roomId = true
    · exact (h before roomId after room hJoined hBefore hSteered hLead).symm
    · -- the first room of all is also the first of those that do not stray
      symm
      rw [List.findSome?_eq_some_iff]
      refine ⟨before.filter fun other => !rest.strays further other, roomId,
        after.filter fun other => !rest.strays further other, ?_, hLead, ?_⟩
      · rw [hJoined, List.filter_append, List.filter_cons_of_pos (by simp [hSteered])]
      · exact fun earlier hEarlier => hBefore earlier (List.mem_of_mem_filter hEarlier)

end Genuine

/-- Nothing in the search tells the rooms of the account from those of a stranger;
only the order of the list does. -/
theorem topology_without_iff (rest : RestClient) (launcherId account : String)
    (creator : String → String) (further : String → Bool) (topology : LauncherTopology)
    (joined : List String) (hJoined : rest.listJoinedRooms = .ok joined)
    (hGenuine : rest.Genuine launcherId account creator topology joined)
    (hFurther : ∀ roomId, further roomId = true → creator roomId ≠ account) :
    (rest.findLauncherSpaceViaRest launcherId).topology =
        ((rest.without further).findLauncherSpaceViaRest launcherId).topology ↔
      rest.Unsteered launcherId further joined := by
  have hWithout : (rest.without further).listJoinedRooms =
      .ok (joined.filter fun roomId => !further roomId) :=
    listJoinedRooms_without hJoined
  have hStrays : ∀ role, rest.strays further (topology.room role) = false :=
    hGenuine.not_strays hFurther
  have hLeads : ∀ role, (rest.leadsTo launcherId role (topology.room role)).isSome = true := by
    intro role
    rw [hGenuine.leadsTo, Option.isSome_some]
  have hFirst : ∀ role, (joined.findSome? (rest.leadsTo launcherId role)).isSome = true :=
    fun role => List.findSome?_isSome_iff.mpr ⟨_, (hGenuine role).1, hLeads role⟩
  have hSecond : ∀ role, ((joined.filter fun roomId => !rest.strays further roomId).findSome?
      (rest.leadsTo launcherId role)).isSome = true := by
    intro role
    refine List.findSome?_isSome_iff.mpr ⟨topology.room role, ?_, hLeads role⟩
    exact List.mem_filter.mpr ⟨(hGenuine role).1, by rw [hStrays]; rfl⟩
  rw [topology_eq hJoined, topology_eq hWithout, Except.ok.injEq]
  simp only [findSome?_without]
  rw [topologyOf_eq_iff hFirst hSecond]
  exact forall_congr' fun role => findSome?_eq_iff (hGenuine role).1 (hLeads role)

def belthanior : LauncherTopology := ⟨"!space", "!exec", "!logs"⟩

/-- A stranger has a room too, which says that it is for commands. -/
def declared : String → Option Role
  | "!space" => some .space
  | "!exec" => some .exec
  | "!logs" => some .logs
  | "!trap" => some .exec
  | _ => none

def isTrap (roomId : String) : Bool := roomId = "!trap"

def madeBy (roomId : String) : String :=
  if isTrap roomId then "@mallory:evil.example" else "@belthanior:example.com"

/-- A homeserver with these rooms, none of which is replaced. -/
def listing (joined : List String) : RestClient where
  isRoomId roomId := roomId.toList.head? = some '!'
  joinedRooms := .ok joined
  invitedRooms := .ok []
  state roomId eventType :=
    .ok (if eventType = "m.room.create" then
      (declared roomId).map fun role => mxdxCreationContent "belthanior" role (role = .space)
    else none)

theorem madeBy_ne {roomId : String} (h : isTrap roomId = true) :
    madeBy roomId ≠ "@belthanior:example.com" := by
  rw [madeBy, if_pos h]
  decide

theorem genuine_listing (joined : List String)
    (hJoined : ∀ roomId ∈ ["!space", "!exec", "!logs"], roomId ∈ joined) :
    (listing joined).Genuine "belthanior" "@belthanior:example.com" madeBy belthanior joined := by
  intro role
  have hDeclared : declared (belthanior.room role) = some role := by
    cases role <;> rfl
  refine ⟨hJoined _ ?_, ?_, ?_, ?_⟩
  · cases role <;> decide
  · cases role <;> decide
  · simp [replacement, getRoomTombstone, listing, bind, Except.bind, pure, Except.pure]
  · simp [RestClient.role, getRoomCreate, listing, hDeclared, declaredRole_creationContent]

theorem unsteered_listing : (listing ["!space", "!exec", "!logs", "!trap"]).Unsteered
    "belthanior" isTrap ["!space", "!exec", "!logs", "!trap"] :=
  (topology_without_iff (listing ["!space", "!exec", "!logs", "!trap"]) "belthanior"
    "@belthanior:example.com" madeBy isTrap belthanior ["!space", "!exec", "!logs", "!trap"]
    rfl (genuine_listing _ (by decide)) fun _ => madeBy_ne).mp (by decide +kernel)

/-- Listed first, the stranger's room is where commands are taken from. -/
theorem steered_listing :
    (listing ["!trap", "!space", "!exec", "!logs"]).Genuine "belthanior"
        "@belthanior:example.com" madeBy belthanior ["!trap", "!space", "!exec", "!logs"] ∧
      (∀ roomId, isTrap roomId = true → madeBy roomId ≠ "@belthanior:example.com") ∧
        ((listing ["!trap", "!space", "!exec", "!logs"]).findLauncherSpaceViaRest
            "belthanior").topology ≠
          (((listing ["!trap", "!space", "!exec", "!logs"]).without isTrap).findLauncherSpaceViaRest
            "belthanior").topology := by
  refine ⟨genuine_listing _ (by decide), fun _ => madeBy_ne, ?_⟩
  decide +kernel

end RestClient

end Mxdx.MatrixClient
