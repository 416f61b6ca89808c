import Mxdx.Fabric.Redelivery
import Mxdx.Foundations.Registry

/-! The rooms that capabilities lead to. The name of a room is the capabilities in
order, with a dot between them, so it keeps the pieces between the dots and nothing
else; the index of rooms gives every name one room. -/
namespace Mxdx.Fabric.CapabilityIndex

section Join

variable {α : Type*} [BEq α] [LawfulBEq α]

/-- Cut at the separators again, joined parts fall apart into the pieces of the parts. -/
theorem splitOn_intercalate_of_ne_nil (separator : α) {parts : List (List α)} (h : parts ≠ []) :
    ([separator].intercalate parts).splitOn separator =
      parts.flatMap fun part => part.splitOn separator := by
  induction parts with
  | nil => exact absurd rfl h
  | cons part rest ih =>
      cases rest with
      | nil => simp
      | cons next rest =>
          rw [List.intercalate_cons_cons, List.append_assoc, List.singleton_append,
            List.splitOn_append_cons_self, ih (by simp)]
          exact List.flatMap_cons.symm

end Join

section Name

def sorted (caps : List String) : List String := caps.mergeSort fun s t => (strCmp s t).isLE

/-- The pieces between the dots, in the order of the capabilities. No capability at
all is spelled like the empty one. -/
def spelling (caps : List String) : List (List Char) :=
  if caps = [] then [[]] else (sorted caps).flatMap fun cap => cap.toList.splitOn '.'

theorem sorted_perm (caps : List String) : (sorted caps).Perm caps := List.mergeSort_perm ..

/-- The order in which capabilities are listed does not matter, but how often does. -/
theorem sorted_eq_iff {first second : List String} :
    sorted first = sorted second ↔ first.Perm second := by
  constructor
  · intro h
    exact (sorted_perm first).symm.trans (h ▸ sorted_perm second)
  · intro h
    apply List.Perm.eq_of_pairwise (fun s t _ _ => strCmp_isLE_antisymm)
      (List.pairwise_mergeSort strCmp_isLE_trans strCmp_isLE_total first)
      (List.pairwise_mergeSort strCmp_isLE_trans strCmp_isLE_total second)
    exact (sorted_perm first).trans (h.trans (sorted_perm second).symm)

theorem sorted_of_pairwise {caps : List String}
    (h : caps.Pairwise fun s t => (strCmp s t).isLE = true) : sorted caps = caps :=
  List.mergeSort_of_pairwise h

theorem toList_capabilityRoomName (caps : List String) :
    (capabilityRoomName caps).toList =
      "workers.".toList ++ ['.'].intercalate ((sorted caps).map String.toList) := by
  rw [capabilityRoomName, String.toList_append, String.toList_intercalate]
  rfl

theorem splitOn_intercalate_sorted (caps : List String) :
    (['.'].intercalate ((sorted caps).map String.toList)).splitOn '.' = spelling caps := by
  unfold spelling
  split_ifs with hEmpty
  · rw [hEmpty, sorted, List.mergeSort_nil, List.map_nil, List.intercalate_nil, List.splitOn_nil]
  · have hSorted : (sorted caps).map String.toList ≠ [] := fun h =>
      hEmpty (List.Perm.nil_eq (List.map_eq_nil_iff.mp h ▸ sorted_perm caps)).symm
    rw [splitOn_intercalate_of_ne_nil '.' hSorted, List.flatMap_map]

/-- The name of a room says how its capabilities are spelled, no more and no less. -/
theorem capabilityRoomName_eq_iff {first second : List String} :
    capabilityRoomName first = capabilityRoomName second ↔ spelling first = spelling second := by
  rw [← String.toList_inj, toList_capabilityRoomName, toList_capabilityRoomName,
    List.append_cancel_left_eq, ← splitOn_intercalate_sorted, ← splitOn_intercalate_sorted]
  constructor
  · exact congrArg _
  · intro h
    simpa only [List.intercalate_splitOn] using congrArg ['.'].intercalate h

end Name

section Lists

/-- The lists have the same capabilities, in whatever order and however often. -/
def SameCapabilities (first second : List String) : Prop := ∀ cap, cap ∈ first ↔ cap ∈ second

/-- Lists of the same capabilities are spelled alike, as they are when one is the other
in another order; lists of different capabilities are not. -/
structure ToldApart (first second : List String) : Prop where
  alike : SameCapabilities first second → first.Perm second ∨ spelling first = spelling second
  apart : ¬ SameCapabilities first second → spelling first ≠ spelling second

theorem spelling_of_perm {first second : List String} (h : first.Perm second) :
    spelling first = spelling second := by
  rw [← splitOn_intercalate_sorted, ← splitOn_intercalate_sorted, sorted_eq_iff.mpr h]

theorem capabilityRoomName_eq_iff_same {first second : List String} :
    (capabilityRoomName first = capabilityRoomName second ↔ SameCapabilities first second) ↔
      ToldApart first second := by
  rw [capabilityRoomName_eq_iff]
  constructor
  · intro h
    exact ⟨fun hSame => .inr (h.mpr hSame), fun hDiffer hSpelled => hDiffer (h.mp hSpelled)⟩
  · intro h
    constructor
    · intro hSpelled
      by_contra hDiffer
      exact h.apart hDiffer hSpelled
    · intro hSame
      exact (h.alike hSame).elim spelling_of_perm id

/-- No capability is listed twice, is empty or has a dot. -/
structure Plain (caps : List String) : Prop where
  once : caps.Nodup
  filled : ∀ cap ∈ caps, cap ≠ ""
  dotless : ∀ cap ∈ caps, '.' ∉ cap.toList

theorem Plain.spelling_eq {caps : List String} (h : Plain caps) :
    spelling caps = if caps = [] then [[]] else (sorted caps).map String.toList := by
  unfold spelling
  congr 1
  have hWhole : ∀ cap ∈ sorted caps, cap.toList.splitOn '.' = [cap.toList] := fun cap hCap =>
    List.splitOn_eq_singleton (h.dotless cap ((sorted_perm caps).mem_iff.mp hCap))
  rw [List.flatMap_congr hWhole]
  exact (List.map_eq_flatMap ..).symm

theorem Plain.nil_mem_spelling {caps : List String} (h : Plain caps) :
    [] ∈ spelling caps ↔ caps = [] := by
  rw [h.spelling_eq]
  split_ifs with hEmpty
  · exact iff_of_true List.mem_cons_self hEmpty
  · refine iff_of_false (fun hMem => ?_) hEmpty
    obtain ⟨cap, hCap, hNil⟩ := List.mem_map.mp hMem
    exact h.filled cap ((sorted_perm caps).mem_iff.mp hCap) (String.toList_eq_nil_iff.mp hNil)

/-- Plain lists are always told apart. -/
theorem toldApart_of_plain {first second : List String} (hFirst : Plain first)
    (hSecond : Plain second) : ToldApart first second := by
  constructor
  · intro hSame
    exact .inl ((List.perm_ext_iff_of_nodup hFirst.once hSecond.once).mpr hSame)
  · intro hDiffer hSpelled
    have hEmpty : first = [] ↔ second = [] := by
      rw [← hFirst.nil_mem_spelling, hSpelled, hSecond.nil_mem_spelling]
    rw [hFirst.spelling_eq, hSecond.spelling_eq] at hSpelled
    by_cases hNone : second = []
    · rw [hEmpty.mpr hNone, hNone] at hDiffer
      exact hDiffer fun cap => Iff.rfl
    · rw [if_neg hNone, if_neg (mt hEmpty.mp hNone)] at hSpelled
      have hSorted := List.map_injective_iff.mpr (fun s t => String.toList_inj.mp) hSpelled
      exact hDiffer fun cap => (sorted_eq_iff.mp hSorted).mem_iff

end Lists

section Calls

/-- The answer of the homeserver where a room is created. -/
def offer (caps : List String) (client : Client) : Option String :=
  (client.createNamedEncryptedRoom (capabilityRoomName caps)
    ("org.mxdx.fabric.workers:" ++ capabilityRoomName caps)).toOption

/-- The rooms of the calls that return one, with what they are called for. -/
def roomsOf (index : CapabilityIndex) : List (List String × Client) → List (List String × String)
  | [] => []
  | (caps, client) :: rest =>
      match index.getOrCreateRoom caps client with
      | (.ok roomId, index) => (caps, roomId) :: index.roomsOf rest
      | (.error _, index) => index.roomsOf rest

/-- The rooms that the calls create. -/
def created (index : CapabilityIndex) : List (List String × Client) → List String
  | [] => []
  | (caps, client) :: rest =>
      (if (index.findRoom caps).isSome then [] else (offer caps client).toList) ++
        (index.getOrCreateRoom caps client).2.created rest

/-- A room on the index has one name, and the homeserver never gives out a room as
new that it has given out before. -/
structure NewRooms (index : CapabilityIndex) (calls : List (List String × Client)) : Prop where
  oneName : ∀ ⦃first second roomId⦄, index first = some roomId → index second = some roomId →
    first = second
  unused : ∀ name roomId, index name = some roomId → roomId ∉ index.created calls
  distinct : (index.created calls).Nodup

/-- A call as a request for the room of a name. -/
def request (call : List String × Client) : String × Option String :=
  (capabilityRoomName call.1, offer call.1 call.2)

theorem getOrCreateRoom_snd (index : CapabilityIndex) (caps : List String) (client : Client) :
    (index.getOrCreateRoom caps client).2 =
      Registry.enter index (capabilityRoomName caps) (offer caps client) := by
  unfold getOrCreateRoom findRoom offer
  cases hKnown : index (capabilityRoomName caps) with
  | some roomId => exact (Registry.enter_of_some hKnown _).symm
  | none =>
      dsimp only
      rw [Registry.enter_of_none hKnown]
      cases client.createNamedEncryptedRoom (capabilityRoomName caps)
        ("org.mxdx.fabric.workers:" ++ capabilityRoomName caps) with
      | error text =>
          rw [Except.toOption, ← hKnown, Function.update_eq_self]
      | ok roomId => rfl

theorem getOrCreateRoom_fst (index : CapabilityIndex) (caps : List String) (client : Client) :
    (index.getOrCreateRoom caps client).1.toOption =
      (index (capabilityRoomName caps)).or (offer caps client) := by
  unfold getOrCreateRoom findRoom offer
  cases index (capabilityRoomName caps) with
  | some roomId => rfl
  | none =>
      dsimp only
      cases client.createNamedEncryptedRoom (capabilityRoomName caps)
        ("org.mxdx.fabric.workers:" ++ capabilityRoomName caps) with
      | error text => rfl
      | ok roomId => rfl

theorem created_eq (index : CapabilityIndex) (calls : List (List String × Client)) :
    index.created calls = Registry.taken index (calls.map request) := by
  induction calls generalizing index with
  | nil => rfl
  | cons call rest ih =>
      rw [created, ih, getOrCreateRoom_snd]
      rfl

theorem mem_answers_of_mem_roomsOf {index : CapabilityIndex} {calls : List (List String × Client)}
    {caps : List String} {roomId : String} (h : (caps, roomId) ∈ index.roomsOf calls) :
    (capabilityRoomName caps, roomId) ∈ Registry.answers index (calls.map request) := by
  induction calls generalizing index with
  | nil => cases h
  | cons call rest ih =>
      obtain ⟨asked, client⟩ := call
      have hAnswer := getOrCreateRoom_fst index asked client
      have hAfter := getOrCreateRoom_snd index asked client
      change _ ∈ (((index (capabilityRoomName asked)).or (offer asked client)).map
        (capabilityRoomName asked, ·)).toList ++
          Registry.answers (Registry.enter index (capabilityRoomName asked) (offer asked client))
            (rest.map request)
      rw [← hAnswer, ← hAfter, List.mem_append]
      unfold roomsOf at h
      split at h
      next found after hCall =>
        rw [hCall]
        rcases List.mem_cons.mp h with hNow | hLater
        · cases hNow
          exact .inl List.mem_cons_self
        · exact .inr (ih hLater)
      next error after hCall =>
        rw [hCall]
        exact .inr (ih h)

theorem NewRooms.fresh {index : CapabilityIndex} {calls : List (List String × Client)}
    (h : NewRooms index calls) : Registry.Fresh index (calls.map request) := by
  obtain ⟨hName, hUnused, hDistinct⟩ := h
  rw [created_eq] at hUnused hDistinct
  exact ⟨hName, hUnused, hDistinct⟩

/-- Two calls return one room exactly when they ask for one name. -/
theorem NewRooms.room_eq_iff {index : CapabilityIndex} {calls : List (List String × Client)}
    (h : NewRooms index calls) {first second : List String × String}
    (hFirst : first ∈ index.roomsOf calls) (hSecond : second ∈ index.roomsOf calls) :
    first.2 = second.2 ↔ capabilityRoomName first.1 = capabilityRoomName second.1 :=
  h.fresh.answers_eq_iff (mem_answers_of_mem_roomsOf hFirst) (mem_answers_of_mem_roomsOf hSecond)

end Calls

/-- Names, and rooms in the course of any calls, stand for sets of capabilities
exactly as far as the lists are told apart by their spelling. -/
theorem capabilityRooms_iff {index : CapabilityIndex} {calls : List (List String × Client)}
    (hNew : NewRooms index calls) :
    (∀ first second : List String,
      (capabilityRoomName first = capabilityRoomName second ↔ SameCapabilities first second) ↔
        ToldApart first second) ∧
    ((∀ first ∈ index.roomsOf calls, ∀ second ∈ index.roomsOf calls,
      first.2 = second.2 ↔ SameCapabilities first.1 second.1) ↔
        ∀ first ∈ index.roomsOf calls, ∀ second ∈ index.roomsOf calls,
          ToldApart first.1 second.1) := by
  refine ⟨fun first second => capabilityRoomName_eq_iff_same, ?_⟩
  refine forall₂_congr fun first hFirst => forall₂_congr fun second hSecond => ?_
  rw [hNew.room_eq_iff hFirst hSecond, capabilityRoomName_eq_iff_same]

/-- A homeserver that calls every room by its name. -/
def namingClient : Client where
  isUserId := fun _ => true
  createNamedEncryptedRoom := fun name _ => .ok ("!" ++ name)
  inviteUser := fun _ _ => .ok ()
  sendEvent := fun _ _ => .ok ()

theorem capabilityRooms_rust_linux :
    let calls := [(["rust", "linux"], namingClient), (["linux", "rust"], namingClient)]
    NewRooms (fun _ => none) calls ∧
      ∀ first ∈ roomsOf (fun _ => none) calls, ∀ second ∈ roomsOf (fun _ => none) calls,
        first.2 = second.2 ↔ SameCapabilities first.1 second.1 := by
  have hPerm : ["rust", "linux"].Perm ["linux", "rust"] := by decide
  have hName := capabilityRoomName_eq_iff.mpr (spelling_of_perm hPerm)
  have hNew : NewRooms (fun _ => none)
      [(["rust", "linux"], namingClient), (["linux", "rust"], namingClient)] := by
    refine ⟨fun _ _ _ h => absurd h (by simp), fun _ _ h => absurd h (by simp), ?_⟩
    simp [created, findRoom, getOrCreateRoom, hName, offer, namingClient, Except.toOption]
  have hRooms : roomsOf (fun _ => none)
      [(["rust", "linux"], namingClient), (["linux", "rust"], namingClient)] =
        [(["rust", "linux"], "!" ++ capabilityRoomName ["linux", "rust"]),
          (["linux", "rust"], "!" ++ capabilityRoomName ["linux", "rust"])] := by
    simp [roomsOf, findRoom, getOrCreateRoom, hName, namingClient]
  have hPlain : ∀ room ∈ [(["rust", "linux"], "!" ++ capabilityRoomName ["linux", "rust"]),
      (["linux", "rust"], "!" ++ capabilityRoomName ["linux", "rust"])], Plain room.1 := by
    rintro room hRoom
    rcases List.mem_pair.mp hRoom with rfl | rfl
    · exact ⟨by decide, by decide, by decide⟩
    · exact ⟨by decide, by decide, by decide⟩
  refine ⟨hNew, (capabilityRooms_iff hNew).2.mpr ?_⟩
  rw [hRooms]
  exact fun first hFirst second hSecond =>
    toldApart_of_plain (hPlain first hFirst) (hPlain second hSecond)

/-- A capability with a dot passes for two, and one that is listed twice counts twice. -/
theorem capabilityRooms_mistaken :
    (capabilityRoomName ["linux.rust"] = capabilityRoomName ["linux", "rust"] ∧
      ¬ SameCapabilities ["linux.rust"] ["linux", "rust"]) ∧
    capabilityRoomName ["rust", "rust"] ≠ capabilityRoomName ["rust"] ∧
      SameCapabilities ["rust", "rust"] ["rust"] := by
  refine ⟨⟨?_, fun h => ?_⟩, ?_, fun cap => by simp⟩
  · rw [capabilityRoomName_eq_iff, spelling, spelling, sorted_of_pairwise (by decide),
      sorted_of_pairwise (by decide)]
    decide
  · exact absurd ((h "linux.rust").mp List.mem_cons_self) (by decide)
  · rw [Ne, capabilityRoomName_eq_iff, spelling, spelling, sorted_of_pairwise (by decide),
      sorted_of_pairwise (by decide)]
    decide

end Mxdx.Fabric.CapabilityIndex
