import Mxdx.Foundations.Automaton
import Mathlib.Data.List.Nodup
import Mathlib.Logic.Function.Basic

/-! `SessionMux`: which sessions are there, and which of them share a room. The
two maps say the same thing twice, as long as no session is registered again. -/
namespace Mxdx.Worker

open Automaton

/-- A session, its room and its client. -/
structure SessionMuxEntry where
  sessionId : String
  dmRoomId : String
  clientUserId : String
deriving DecidableEq, Repr

/-- The sessions, and those of each room. -/
structure SessionMux where
  sessions : String → Option SessionMuxEntry
  roomSessions : String → Option (List String)

/-- The calls that change the tables. -/
inductive SessionMuxCall where
  | addSession (sessionId dmRoomId clientUserId : String)
  | removeSession (sessionId : String)

namespace SessionMux

/-- No sessions yet. -/
def new : SessionMux := ⟨fun _ => none, fun _ => none⟩

/-- The list of the room grows whether or not the session was registered before. -/
def addSession (mux : SessionMux) (sessionId dmRoomId clientUserId : String) : SessionMux where
  sessions := Function.update mux.sessions sessionId (some ⟨sessionId, dmRoomId, clientUserId⟩)
  roomSessions :=
    Function.update mux.roomSessions dmRoomId
      (some ((mux.roomSessions dmRoomId).getD [] ++ [sessionId]))

/-- The session leaves the list of the room it was last registered with. -/
def removeSession (mux : SessionMux) (sessionId : String) : SessionMux :=
  match mux.sessions sessionId with
  | some entry =>
      let sessions := Function.update mux.sessions sessionId none
      match mux.roomSessions entry.dmRoomId with
      | some ids =>
          let ids := ids.filter (· ≠ sessionId)
          ⟨sessions, Function.update mux.roomSessions entry.dmRoomId
            (if ids.isEmpty then none else some ids)⟩
      | none => { mux with sessions }
  | none => mux

/-- The sessions of a room in the order in which they came. -/
def sessionsInRoom (mux : SessionMux) (roomId : String) : List String :=
  (mux.roomSessions roomId).getD []

/-- Whether the session is known. -/
def hasSession (mux : SessionMux) (sessionId : String) : Bool :=
  (mux.sessions sessionId).isSome

/-- The calls in any order. -/
def step (mux : SessionMux) : SessionMuxCall → SessionMux
  | .addSession sessionId dmRoomId clientUserId => mux.addSession sessionId dmRoomId clientUserId
  | .removeSession sessionId => mux.removeSession sessionId

/-- The session is registered with this room. -/
def Registered (mux : SessionMux) (sessionId roomId : String) : Prop :=
  ∃ entry, mux.sessions sessionId = some entry ∧ entry.dmRoomId = roomId

/-- A room lists the sessions that are registered with it, each once, and no
room is kept for nothing. -/
structure Consistent (mux : SessionMux) : Prop where
  listed : ∀ roomId sessionId,
    sessionId ∈ mux.sessionsInRoom roomId ↔ mux.Registered sessionId roomId
  nodup : ∀ roomId, (mux.sessionsInRoom roomId).Nodup
  nonempty : ∀ roomId, mux.roomSessions roomId ≠ some []

/-- Only sessions that are not there are added. -/
def AddsNew (mux : SessionMux) : SessionMuxCall → Prop
  | .addSession sessionId _ _ => mux.hasSession sessionId = false
  | .removeSession _ => True

variable {mux : SessionMux} {sessionId dmRoomId clientUserId : String}

theorem hasSession_eq_false_iff :
    mux.hasSession sessionId = false ↔ mux.sessions sessionId = none :=
  Option.isSome_eq_false_iff.trans Option.isNone_iff_eq_none

theorem sessionsInRoom_addSession (roomId : String) :
    (mux.addSession sessionId dmRoomId clientUserId).sessionsInRoom roomId =
      if roomId = dmRoomId then mux.sessionsInRoom roomId ++ [sessionId]
      else mux.sessionsInRoom roomId := by
  by_cases hRoom : roomId = dmRoomId
  · simp [sessionsInRoom, addSession, hRoom]
  · simp [sessionsInRoom, addSession, hRoom]

theorem registered_addSession (other roomId : String) :
    (mux.addSession sessionId dmRoomId clientUserId).Registered other roomId ↔
      if other = sessionId then roomId = dmRoomId else mux.Registered other roomId := by
  by_cases hSession : other = sessionId
  · simp [Registered, addSession, hSession, eq_comm]
  · simp [Registered, addSession, hSession]

theorem sessions_removeSession (other : String) :
    (mux.removeSession sessionId).sessions other =
      if other = sessionId then none else mux.sessions other := by
  unfold removeSession
  split
  next entry hEntry =>
    rw [← Function.update_apply]
    split <;> rfl
  next hNone =>
    split
    next hSession => rw [hSession, hNone]
    · rfl

/-- A room whose last session has left counts as a room with none. -/
theorem getD_ids (ids : List String) : (if ids.isEmpty then none else some ids).getD [] = ids := by
  cases ids <;> rfl

theorem registered_removeSession (other roomId : String) :
    (mux.removeSession sessionId).Registered other roomId ↔
      other ≠ sessionId ∧ mux.Registered other roomId := by
  rw [Registered, sessions_removeSession]
  by_cases hSession : other = sessionId
  · simp [hSession]
  · simp [hSession, Registered]

/-- A consistent mux lists the session nowhere else, so it is gone everywhere. -/
theorem Consistent.sessionsInRoom_removeSession (h : mux.Consistent) (roomId : String) :
    (mux.removeSession sessionId).sessionsInRoom roomId =
      (mux.sessionsInRoom roomId).filter (· ≠ sessionId) := by
  have hElsewhere : ¬ mux.Registered sessionId roomId →
      (mux.sessionsInRoom roomId).filter (· ≠ sessionId) = mux.sessionsInRoom roomId := by
    intro hNot
    apply List.filter_eq_self.mpr
    rintro other hListed
    rw [decide_eq_true_eq]
    rintro rfl
    exact hNot ((h.listed roomId other).mp hListed)
  cases hEntry : mux.sessions sessionId with
  | none =>
      rw [hElsewhere (by simp [Registered, hEntry]), removeSession, hEntry]
  | some entry =>
      by_cases hRoom : roomId = entry.dmRoomId
      · subst hRoom
        simp only [removeSession, hEntry, sessionsInRoom]
        cases hIds : mux.roomSessions entry.dmRoomId with
        | none => simp [hIds]
        | some ids =>
            dsimp only
            rw [Function.update_self, getD_ids, Option.getD_some]
      · rw [hElsewhere (by simpa [Registered, hEntry, eq_comm] using hRoom)]
        simp only [removeSession, hEntry, sessionsInRoom]
        cases mux.roomSessions entry.dmRoomId with
        | none => rfl
        | some ids => simp [hRoom]

theorem Consistent.roomSessions_removeSession_ne (h : mux.Consistent) (roomId : String) :
    (mux.removeSession sessionId).roomSessions roomId ≠ some [] := by
  have hBefore := h.nonempty roomId
  unfold removeSession
  split
  next entry hEntry =>
    split
    next ids hIds =>
      dsimp only
      by_cases hRoom : roomId = entry.dmRoomId
      · subst hRoom
        rw [Function.update_self]
        split
        · simp
        next hKept =>
          intro hNil
          exact hKept (by simpa using hNil)
      · rwa [Function.update_of_ne hRoom]
    · exact hBefore
  · exact hBefore

theorem Consistent.removeSession (h : mux.Consistent) (sessionId : String) :
    (mux.removeSession sessionId).Consistent where
  listed := by
    intro roomId other
    rw [h.sessionsInRoom_removeSession, registered_removeSession, List.mem_filter,
      h.listed, decide_eq_true_eq, and_comm]
  nodup := by
    intro roomId
    rw [h.sessionsInRoom_removeSession]
    exact (h.nodup roomId).filter _
  nonempty := h.roomSessions_removeSession_ne

theorem Consistent.addSession (h : mux.Consistent) (hNew : mux.sessions sessionId = none) :
    (mux.addSession sessionId dmRoomId clientUserId).Consistent := by
  have hUnlisted : ∀ roomId, sessionId ∉ mux.sessionsInRoom roomId := by
    intro roomId hListed
    obtain ⟨entry, hEntry, -⟩ := (h.listed roomId sessionId).mp hListed
    rw [hNew] at hEntry
    cases hEntry
  refine ⟨?_, ?_, ?_⟩
  · intro roomId other
    rw [sessionsInRoom_addSession, registered_addSession, ← h.listed roomId other]
    by_cases hSession : other = sessionId
    · subst hSession
      by_cases hRoom : roomId = dmRoomId <;> simp [hRoom, hUnlisted]
    · by_cases hRoom : roomId = dmRoomId <;> simp [hRoom, hSession]
  · intro roomId
    rw [sessionsInRoom_addSession]
    split
    · exact (h.nodup roomId).append (List.nodup_singleton _)
        (List.disjoint_singleton.mpr (hUnlisted roomId))
    · exact h.nodup roomId
  · intro roomId
    by_cases hRoom : roomId = dmRoomId
    · simp [SessionMux.addSession, hRoom]
    · simpa [SessionMux.addSession, hRoom] using h.nonempty roomId

/-- A session that is registered again is listed twice, or listed in a room that
it has left. -/
theorem Consistent.not_addSession (h : mux.Consistent) {entry : SessionMuxEntry}
    (hEntry : mux.sessions sessionId = some entry) :
    ¬ (mux.addSession sessionId dmRoomId clientUserId).Consistent := by
  have hListed : sessionId ∈ mux.sessionsInRoom entry.dmRoomId :=
    (h.listed _ _).mpr ⟨entry, hEntry, rfl⟩
  intro hNext
  by_cases hRoom : entry.dmRoomId = dmRoomId
  · have hOnce := hNext.nodup entry.dmRoomId
    rw [sessionsInRoom_addSession, if_pos hRoom] at hOnce
    exact List.disjoint_of_nodup_append hOnce hListed (List.mem_singleton_self _)
  · have hStill := hNext.listed entry.dmRoomId sessionId
    rw [sessionsInRoom_addSession, if_neg hRoom, registered_addSession, if_pos rfl] at hStill
    exact hRoom (hStill.mp hListed)

theorem consistent_step_iff (mux : SessionMux) (call : SessionMuxCall) (h : mux.Consistent) :
    (mux.step call).Consistent ↔ mux.AddsNew call := by
  cases call with
  | removeSession sessionId => exact iff_of_true (h.removeSession sessionId) trivial
  | addSession sessionId dmRoomId clientUserId =>
      cases hEntry : mux.sessions sessionId with
      | none => exact iff_of_true (h.addSession hEntry) (hasSession_eq_false_iff.mpr hEntry)
      | some entry =>
          apply iff_of_false (h.not_addSession hEntry)
          rw [AddsNew, hasSession_eq_false_iff, hEntry]
          simp

theorem consistent_new : new.Consistent :=
  ⟨by simp [sessionsInRoom, Registered, new], by simp [sessionsInRoom, new], by simp [new]⟩

/-- The two maps agree exactly in the histories that never register a session
which is there already. -/
theorem always_consistent_iff (calls : List SessionMuxCall) :
    Always step Consistent new calls ↔ Admissible step AddsNew new calls :=
  always_iff_admissible consistent_step_iff consistent_new

/-- A session moves to another room, and the first room goes on listing it
after it is gone. -/
theorem not_always_consistent :
    ¬ Always step Consistent new
      [.addSession "sess-1" "!dm1:example.com" "@client:example.com",
        .addSession "sess-1" "!dm2:example.com" "@client:example.com",
        .removeSession "sess-1"] := by
  intro h
  have hListed := (h.last.listed "!dm1:example.com" "sess-1").mp (by decide)
  obtain ⟨entry, hEntry, -⟩ := hListed
  have hGone : (run step new
      [.addSession "sess-1" "!dm1:example.com" "@client:example.com",
        .addSession "sess-1" "!dm2:example.com" "@client:example.com",
        .removeSession "sess-1"]).sessions "sess-1" = none := by decide
  rw [hGone] at hEntry
  cases hEntry

end SessionMux

end Mxdx.Worker
