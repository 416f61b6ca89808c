import Mxdx.Foundations.Automaton
import Mxdx.Runtime.Sessions

/-! The transport that the sessions of a room share: who uses it, what its count of
references says about them, and the runs in which it is right. -/
namespace Mxdx.Runtime

open Automaton

/-- The room and the transport that a session uses. -/
def Session.share (session : Session) : Option (String × Nat) :=
  if session.stage = .watched then
    session.room.bind fun room => session.transport.map fun transport => (room, transport)
  else none

/-- The session holds a share in the transport of the room. -/
def Session.sharesIn (room : String) (session : Session) : Bool :=
  session.share.any fun share => share.1 == room

/-- Only with P2P is a transport created, and then every terminal has one. -/
structure Session.Fits (settings : Settings) (session : Session) : Prop where
  creating : session.stage = .creating → settings.p2pEnabled = true
  watched : session.stage = .watched → settings.p2pEnabled = true → session.transport.isSome
  disabled : settings.p2pEnabled = false → session.transport = none

namespace LauncherRuntime

/-- The count that the launcher keeps. -/
def references (runtime : LauncherRuntime) (room : String) : Int :=
  (runtime.roomTransports room).elim 0 RoomTransport.refCount

/-- The references to the transport of a room are the sessions that use it, each of
them uses the one of its room, and a transport is open exactly while it is that of
a room. -/
structure Shared (runtime : LauncherRuntime) : Prop where
  counted : ∀ room, runtime.sessions.countP (Session.sharesIn room) = runtime.references room
  positive : ∀ room entry, runtime.roomTransports room = some entry → 0 < entry.refCount
  used : ∀ session ∈ runtime.sessions, ∀ room transport, session.share = some (room, transport) →
    ∃ entry, runtime.roomTransports room = some entry ∧ entry.transport = transport ∧
      transport ∉ runtime.closed
  open_iff : ∀ transport < runtime.created, transport ∉ runtime.closed →
    ∃ room entry, runtime.roomTransports room = some entry ∧ entry.transport = transport

/-- A session that fails once it knows its room finds no transport there, nor does
one that has created a transport for its room. -/
def KeepsShared (runtime : LauncherRuntime) : SessionInput → Prop
  | .gotRoom index room none => ∀ session, runtime.sessions[index]? = some session →
      session.stage = .awaitingRoom → session.route ≠ .reconnect →
        runtime.roomTransports room = none
  | .resolved index => ∀ session, runtime.sessions[index]? = some session →
      session.stage = .creating → ∀ room, session.room = some room →
        runtime.roomTransports room = none
  | .rejected index => ∀ session, runtime.sessions[index]? = some session →
      session.stage = .awaitingRoom ∨ session.stage = .responding ∨ session.stage = .syncing ∨
          session.stage = .creating →
        session.route ≠ .reconnect → ∀ room, session.room = some room →
          runtime.roomTransports room = none
  | _ => True

/-- Transports are numbered as they are created, and without P2P there are none. -/
structure Wired (settings : Settings) (runtime : LauncherRuntime) : Prop where
  fresh : ∀ room entry, runtime.roomTransports room = some entry →
    entry.transport < runtime.created ∧ entry.transport ∉ runtime.closed
  apart : ∀ first second entry other, runtime.roomTransports first = some entry →
    runtime.roomTransports second = some other → entry.transport = other.transport →
      first = second
  closed_lt : ∀ transport ∈ runtime.closed, transport < runtime.created
  disabled : settings.p2pEnabled = false → ∀ room, runtime.roomTransports room = none
  fits : ∀ session ∈ runtime.sessions, session.Fits settings

section Shares

variable {settings : Settings} {runtime next : LauncherRuntime} {index : Nat}
  {old changed session : Session} {room : String}

theorem share_of_stage (h : session.stage ≠ .watched) : session.share = none := by
  rw [Session.share, if_neg h]

/-- The other fields do not matter. -/
theorem shared_congr (h : Shared runtime) (hSessions : next.sessions = runtime.sessions)
    (hTransports : next.roomTransports = runtime.roomTransports)
    (hCreated : next.created = runtime.created) (hClosed : next.closed = runtime.closed) :
    Shared next := by
  refine ⟨fun room => ?_, ?_, ?_, ?_⟩
  · rw [hSessions, references, hTransports]
    exact h.counted room
  · rw [hTransports]
    exact h.positive
  · rw [hSessions, hTransports, hClosed]
    exact h.used
  · rw [hCreated, hClosed, hTransports]
    exact h.open_iff

theorem countP_set_of_share (hOld : runtime.sessions[index]? = some old)
    (hShare : changed.share = old.share) (room : String) :
    (runtime.sessions.set index changed).countP (Session.sharesIn room) =
      runtime.sessions.countP (Session.sharesIn room) := by
  have hSum := countP_set_add (Session.sharesIn room) hOld changed
  have hSame : Session.sharesIn room changed = Session.sharesIn room old := by
    rw [Session.sharesIn, hShare, Session.sharesIn]
  rwa [hSame, Nat.add_right_cancel_iff] at hSum

/-- A session that is replaced by one with the same share changes nothing. -/
theorem shared_set (h : Shared runtime) (hOld : runtime.sessions[index]? = some old)
    (hShare : changed.share = old.share) : Shared (runtime.put index changed) := by
  have hUsed : ∀ room transport, changed.share = some (room, transport) →
      ∃ entry, runtime.roomTransports room = some entry ∧ entry.transport = transport ∧
        transport ∉ runtime.closed := by
    rw [hShare]
    exact h.used old (List.mem_of_getElem? hOld)
  refine ⟨fun room => ?_, h.positive, ?_, h.open_iff⟩
  · exact (congrArg Nat.cast (countP_set_of_share hOld hShare room)).trans (h.counted room)
  · exact (forall_set_iff h.used hOld).mpr hUsed

theorem shared_append (h : Shared runtime) (hNew : changed.share = none)
    (hSessions : next.sessions = runtime.sessions ++ [changed])
    (hTransports : next.roomTransports = runtime.roomTransports)
    (hCreated : next.created = runtime.created) (hClosed : next.closed = runtime.closed) :
    Shared next := by
  have hNone : ∀ room, Session.sharesIn room changed = false := by
    intro room
    rw [Session.sharesIn, hNew]
    rfl
  refine ⟨fun room => ?_, ?_, ?_, ?_⟩
  · rw [hSessions, List.countP_append, List.countP_singleton, hNone, references, hTransports]
    exact h.counted room
  · rw [hTransports]
    exact h.positive
  · rw [hSessions, hTransports, hClosed]
    intro session hSession room transport hShare
    rcases List.mem_append.mp hSession with hOld | hLast
    · exact h.used session hOld room transport hShare
    · rw [List.eq_of_mem_singleton hLast, hNew] at hShare
      cases hShare
  · rw [hCreated, hClosed, hTransports]
    exact h.open_iff

theorem releaseRoomTransport_of_none (hNone : runtime.roomTransports room = none) :
    runtime.releaseRoomTransport room = runtime := by
  rw [releaseRoomTransport, hNone]

/-- The transport of a room loses one reference, and none is left where it is closed. -/
theorem references_release {entry : RoomTransport} (hPositive : 0 < entry.refCount)
    (hEntry : runtime.roomTransports room = some entry) :
    (runtime.releaseRoomTransport room).references room = entry.refCount - 1 := by
  rw [releaseRoomTransport, hEntry]
  dsimp only
  split
  next hLast =>
    simp only [references, Function.update_self, Option.elim_none]
    omega
  next => simp [references]

/-- A session that gives up a room's transport without using it spoils the count. -/
theorem shared_release_iff (h : Shared runtime) (hOld : runtime.sessions[index]? = some old)
    (hShare : changed.share = old.share) (room : String) :
    Shared ((runtime.releaseRoomTransport room).put index changed) ↔
      runtime.roomTransports room = none := by
  constructor
  · intro hNext
    cases hEntry : runtime.roomTransports room with
    | none => rfl
    | some entry =>
        have hBefore := h.counted room
        have hAfter := hNext.counted room
        have hFewer := references_release (h.positive room entry hEntry) hEntry
        have hRefs : runtime.references room = entry.refCount := by rw [references, hEntry]; rfl
        change (((runtime.releaseRoomTransport room).sessions.set index changed).countP _ : Int) =
          (runtime.releaseRoomTransport room).references room at hAfter
        rw [releaseRoomTransport_sessions, countP_set_of_share hOld hShare, hBefore, hFewer,
          hRefs] at hAfter
        omega
  · intro hNone
    rw [releaseRoomTransport_of_none hNone]
    exact shared_set h hOld hShare

theorem sharesIn_of_share {transport : Nat} (h : session.share = some (room, transport))
    (other : String) : Session.sharesIn other session = decide (other = room) := by
  rw [Session.sharesIn, h]
  simp [eq_comm, beq_eq_decide]

theorem sharesIn_of_none (h : session.share = none) (other : String) :
    Session.sharesIn other session = false := by
  rw [Session.sharesIn, h]
  rfl

theorem share_ne_of_countP {sessions : List Session}
    (hNone : sessions.countP (Session.sharesIn room) = 0) (hSession : session ∈ sessions)
    (transport : Nat) : session.share ≠ some (room, transport) := by
  intro hShare
  apply List.countP_eq_zero.mp hNone session hSession
  rw [sharesIn_of_share hShare]
  exact decide_eq_true rfl

/-- One session more in `room`, none elsewhere. -/
theorem countP_set_of_joins {transport : Nat} (hOld : runtime.sessions[index]? = some old)
    (hBefore : old.share = none) (hAfter : changed.share = some (room, transport))
    (other : String) :
    (runtime.sessions.set index changed).countP (Session.sharesIn other) =
      runtime.sessions.countP (Session.sharesIn other) + if other = room then 1 else 0 := by
  have hSum := countP_set_add (Session.sharesIn other) hOld changed
  rw [sharesIn_of_none hBefore, sharesIn_of_share hAfter] at hSum
  simpa using hSum

theorem countP_set_of_leaves {transport : Nat} (hOld : runtime.sessions[index]? = some old)
    (hBefore : old.share = some (room, transport)) (hAfter : changed.share = none)
    (other : String) :
    (runtime.sessions.set index changed).countP (Session.sharesIn other) +
        (if other = room then 1 else 0) =
      runtime.sessions.countP (Session.sharesIn other) := by
  have hSum := countP_set_add (Session.sharesIn other) hOld changed
  rw [sharesIn_of_none hAfter, sharesIn_of_share hBefore] at hSum
  simpa using hSum

/-- An update for one room leaves the references of the others alone. -/
theorem references_update (runtime : LauncherRuntime) (room : String)
    (entry : Option RoomTransport) {after : LauncherRuntime}
    (h : after.roomTransports = Function.update runtime.roomTransports room entry)
    (other : String) :
    after.references other =
      if other = room then entry.elim 0 RoomTransport.refCount else runtime.references other := by
  rw [references, h]
  by_cases hRoom : other = room
  · subst hRoom
    rw [Function.update_self, if_pos rfl]
  · rw [Function.update_of_ne hRoom, if_neg hRoom, references]

/-- What is updated for a room keeps the transport of that room. -/
theorem exists_update {entry replaced : RoomTransport} {other : String} {transport : Nat}
    (hEntry : runtime.roomTransports room = some entry)
    (hSame : replaced.transport = entry.transport)
    (h : ∃ entry, runtime.roomTransports other = some entry ∧ entry.transport = transport) :
    ∃ entry, Function.update runtime.roomTransports room (some replaced) other = some entry ∧
      entry.transport = transport := by
  obtain ⟨found, hFound, hTransport⟩ := h
  by_cases hRoom : other = room
  · subst hRoom
    obtain rfl : found = entry := Option.some.inj (hFound.symm.trans hEntry)
    exact ⟨replaced, by simp, hSame.trans hTransport⟩
  · exact ⟨found, by simp [hRoom, hFound], hTransport⟩

/-- The sessions that are there after a change use the transports that were there. -/
def UsesOpen (runtime : LauncherRuntime) (sessions : List Session) : Prop :=
  ∀ session ∈ sessions, ∀ room transport, session.share = some (room, transport) →
    ∃ entry, runtime.roomTransports room = some entry ∧ entry.transport = transport ∧
      transport ∉ runtime.closed

theorem usesOpen_set (h : Shared runtime) (hNew : ∀ room transport,
    changed.share = some (room, transport) →
      ∃ entry, runtime.roomTransports room = some entry ∧ entry.transport = transport ∧
        transport ∉ runtime.closed) :
    UsesOpen runtime (runtime.sessions.set index changed) := by
  intro session hSession room transport hUse
  rcases List.mem_or_eq_of_mem_set hSession with hMem | rfl
  · exact h.used session hMem room transport hUse
  · exact hNew room transport hUse

/-- The transport of a room is kept, and its references are as many as its sessions. -/
theorem shared_update (h : Shared runtime) {entry replaced : RoomTransport}
    (hEntry : runtime.roomTransports room = some entry)
    (hSame : replaced.transport = entry.transport) (hPositive : 0 < replaced.refCount)
    (hCounted : ∀ other, ((runtime.sessions.set index changed).countP
      (Session.sharesIn other) : Int) =
        if other = room then replaced.refCount else runtime.references other)
    (hUsed : UsesOpen runtime (runtime.sessions.set index changed)) :
    Shared ({ runtime with
      roomTransports := Function.update runtime.roomTransports room (some replaced) }.put index
        changed) := by
  constructor
  · intro other
    refine (hCounted other).trans
      (references_update runtime room (some replaced) ?_ other).symm
    rfl
  · intro other found hFound
    by_cases hRoom : other = room
    · subst hRoom
      obtain rfl : replaced = found := by simpa [put] using hFound
      exact hPositive
    · exact h.positive other found (by simpa [put, hRoom] using hFound)
  · intro session hSession other transport hUse
    obtain ⟨found, hFound, hTransport, hOpen⟩ := hUsed session hSession other transport hUse
    obtain ⟨next, hNext, hKept⟩ := exists_update hEntry hSame ⟨found, hFound, hTransport⟩
    exact ⟨next, hNext, hKept, hOpen⟩
  · intro transport hCreated hOpen
    obtain ⟨other, found⟩ := h.open_iff transport hCreated hOpen
    exact ⟨other, exists_update hEntry hSame found⟩

theorem shared_join (h : Shared runtime) (hOld : runtime.sessions[index]? = some old)
    (hShare : old.share = none) {entry : RoomTransport}
    (hEntry : runtime.roomTransports room = some entry) (hClosed : entry.transport ∉ runtime.closed)
    (hNew : changed.share = some (room, entry.transport)) :
    Shared ({ runtime with
      roomTransports := Function.update runtime.roomTransports room
        (some { entry with refCount := entry.refCount + 1 }) }.put index changed) := by
  have hPositive := h.positive room entry hEntry
  apply shared_update h hEntry
  · rfl
  · show 0 < entry.refCount + 1
    omega
  · intro other
    have hCounted := h.counted other
    rw [countP_set_of_joins hOld hShare hNew]
    by_cases hRoom : other = room
    · subst hRoom
      rw [references, hEntry, Option.elim_some] at hCounted
      simp [hCounted]
    · simp [hRoom, hCounted]
  · apply usesOpen_set h
    intro other transport hUse
    obtain ⟨rfl, rfl⟩ := Prod.ext_iff.mp (Option.some.inj (hNew.symm.trans hUse))
    exact ⟨entry, hEntry, rfl, hClosed⟩

theorem shared_create (h : Shared runtime) (hWired : Wired settings runtime)
    (hOld : runtime.sessions[index]? = some old) (hShare : old.share = none)
    (hNew : changed.share = some (room, runtime.created))
    (hNone : runtime.roomTransports room = none) :
    Shared ({ runtime with
      roomTransports := Function.update runtime.roomTransports room (some ⟨runtime.created, 1⟩)
      created := runtime.created + 1 }.put index changed) := by
  have hZero : runtime.sessions.countP (Session.sharesIn room) = 0 := by
    have hCounted := h.counted room
    rw [references, hNone, Option.elim_none] at hCounted
    exact_mod_cast hCounted
  have hElse : ∀ other entry, runtime.roomTransports other = some entry →
      Function.update runtime.roomTransports room (some ⟨runtime.created, 1⟩) other =
        some entry := by
    intro other entry hEntry
    have hRoom : other ≠ room := by
      rintro rfl
      rw [hNone] at hEntry
      cases hEntry
    rw [Function.update_of_ne hRoom, hEntry]
  constructor
  · intro other
    have hNext : ((runtime.sessions.set index changed).countP (Session.sharesIn other) : Int) =
        if other = room then 1 else runtime.references other := by
      rw [countP_set_of_joins hOld hShare hNew]
      by_cases hRoom : other = room
      · subst hRoom
        simp [hZero]
      · simp [hRoom, h.counted other]
    refine hNext.trans (references_update runtime room (some ⟨runtime.created, 1⟩) ?_ other).symm
    rfl
  · intro other found hFound
    by_cases hRoom : other = room
    · subst hRoom
      obtain rfl : ⟨runtime.created, 1⟩ = found := by simpa [put] using hFound
      exact Int.one_pos
    · exact h.positive other found (by simpa [put, hRoom] using hFound)
  · intro session hSession other transport hUse
    rcases List.mem_or_eq_of_mem_set hSession with hMem | rfl
    · obtain ⟨entry, hEntry, hTransport, hOpen⟩ := h.used session hMem other transport hUse
      exact ⟨entry, hElse other entry hEntry, hTransport, hOpen⟩
    · obtain ⟨rfl, rfl⟩ := Prod.ext_iff.mp (Option.some.inj (hNew.symm.trans hUse))
      refine ⟨⟨runtime.created, 1⟩, by simp [put], rfl, fun hClosed => ?_⟩
      exact Nat.lt_irrefl _ (hWired.closed_lt _ hClosed)
  · intro transport hCreated hOpen
    by_cases hLast : transport = runtime.created
    · exact ⟨room, ⟨runtime.created, 1⟩, by simp [put], hLast.symm⟩
    · have hLt : transport < runtime.created := by
        have hLe : transport < runtime.created + 1 := hCreated
        omega
      obtain ⟨other, entry, hEntry, hTransport⟩ := h.open_iff transport hLt hOpen
      exact ⟨other, entry, hElse other entry hEntry, hTransport⟩

/-- A new transport is counted right if its room had none. -/
theorem shared_create_iff (h : Shared runtime) (hWired : Wired settings runtime)
    (hOld : runtime.sessions[index]? = some old) (hShare : old.share = none)
    (hNew : changed.share = some (room, runtime.created)) :
    Shared ({ runtime with
      roomTransports := Function.update runtime.roomTransports room (some ⟨runtime.created, 1⟩)
      created := runtime.created + 1 }.put index changed) ↔
        runtime.roomTransports room = none := by
  constructor
  · intro hNext
    have hBefore := h.counted room
    have hAfter := hNext.counted room
    change ((runtime.sessions.set index changed).countP (Session.sharesIn room) : Int) =
      (Function.update runtime.roomTransports room (some ⟨runtime.created, 1⟩) room).elim 0 _
      at hAfter
    rw [countP_set_of_joins hOld hShare hNew, if_pos rfl] at hAfter
    cases hEntry : runtime.roomTransports room with
    | none => rfl
    | some entry =>
        have hPositive := h.positive room entry hEntry
        rw [references, hEntry] at hBefore
        simp only [Option.elim_some, Function.update_self] at hBefore hAfter
        omega
  · exact shared_create h hWired hOld hShare hNew

/-- The transport of a room that no session uses any more is closed. -/
theorem shared_close (h : Shared runtime) (hWired : Wired settings runtime)
    {entry : RoomTransport} (hEntry : runtime.roomTransports room = some entry)
    (hCounted : ∀ other, ((runtime.sessions.set index changed).countP
      (Session.sharesIn other) : Int) = if other = room then 0 else runtime.references other)
    (hUsed : UsesOpen runtime (runtime.sessions.set index changed)) :
    Shared ({ runtime with
      roomTransports := Function.update runtime.roomTransports room none
      closed := runtime.closed ++ [entry.transport] }.put index changed) := by
  constructor
  · intro other
    refine (hCounted other).trans (references_update runtime room none ?_ other).symm
    rfl
  · intro other found hFound
    by_cases hRoom : other = room
    · simp [put, hRoom] at hFound
    · exact h.positive other found (by simpa [put, hRoom] using hFound)
  · intro session hSession other transport hUse
    obtain ⟨found, hFound, rfl, hOpen⟩ := hUsed session hSession other transport hUse
    have hNobody : (runtime.sessions.set index changed).countP (Session.sharesIn room) = 0 := by
      have hRoomCount := hCounted room
      rw [if_pos rfl] at hRoomCount
      exact_mod_cast hRoomCount
    have hRoom : other ≠ room := by
      rintro rfl
      exact share_ne_of_countP hNobody hSession _ hUse
    have hOther : found.transport ≠ entry.transport :=
      fun hSame => hRoom (hWired.apart other room found entry hFound hEntry hSame)
    exact ⟨found, by simp [put, hRoom, hFound], rfl, by simp [put, hOpen, hOther]⟩
  · intro transport hCreated hOpen
    have hStill : transport ∉ runtime.closed ∧ transport ≠ entry.transport := by
      simpa [put] using hOpen
    obtain ⟨other, found, hFound, rfl⟩ := h.open_iff transport hCreated hStill.1
    have hRoom : other ≠ room := by
      rintro rfl
      exact hStill.2 (congrArg _ (Option.some.inj (hFound.symm.trans hEntry)))
    exact ⟨other, found, by simp [put, hRoom, hFound], rfl⟩

/-- The last session of a room closes its transport, and no other one does. -/
theorem shared_leave (h : Shared runtime) (hWired : Wired settings runtime)
    (hOld : runtime.sessions[index]? = some old) {transport : Nat}
    (hShare : old.share = some (room, transport)) (hNew : changed.share = none) :
    Shared ((runtime.releaseRoomTransport room).put index changed) := by
  obtain ⟨entry, hEntry, rfl, -⟩ := h.used old (List.mem_of_getElem? hOld) room transport hShare
  have hPositive := h.positive room entry hEntry
  have hUsed : UsesOpen runtime (runtime.sessions.set index changed) := by
    apply usesOpen_set h
    intro other transport hUse
    rw [hNew] at hUse
    cases hUse
  have hCounted : ∀ other, ((runtime.sessions.set index changed).countP
      (Session.sharesIn other) : Int) =
        if other = room then entry.refCount - 1 else runtime.references other := by
    intro other
    have hFewer := countP_set_of_leaves hOld hShare hNew other
    have hBefore := h.counted other
    by_cases hRoom : other = room
    · subst hRoom
      rw [references, hEntry, Option.elim_some] at hBefore
      rw [if_pos rfl] at hFewer ⊢
      omega
    · rw [if_neg hRoom] at hFewer ⊢
      omega
  rw [releaseRoomTransport, hEntry]
  dsimp only
  split
  next hLast =>
    have hZero : entry.refCount - 1 = 0 := by omega
    rw [hZero] at hCounted
    exact shared_close h hWired hEntry hCounted hUsed
  next hMore =>
    have hLeft : 0 < entry.refCount - 1 := by omega
    exact shared_update h hEntry rfl hLeft hCounted hUsed

end Shares

section Wiring

variable {settings : Settings} {runtime next : LauncherRuntime} {index : Nat}
  {old changed session : Session} {room : String}

theorem wired_congr (h : Wired settings runtime)
    (hTransports : next.roomTransports = runtime.roomTransports)
    (hCreated : next.created = runtime.created) (hClosed : next.closed = runtime.closed)
    (hFits : ∀ session ∈ next.sessions, session.Fits settings) : Wired settings next := by
  refine ⟨?_, ?_, ?_, ?_, hFits⟩
  · rw [hTransports, hCreated, hClosed]
    exact h.fresh
  · rw [hTransports]
    exact h.apart
  · rw [hClosed, hCreated]
    exact h.closed_lt
  · rw [hTransports]
    exact h.disabled

theorem fits_set (h : Wired settings runtime) (index : Nat) (hFits : changed.Fits settings) :
    ∀ session ∈ runtime.sessions.set index changed, session.Fits settings := by
  intro session hSession
  rcases List.mem_or_eq_of_mem_set hSession with hOld | rfl
  · exact h.fits session hOld
  · exact hFits

theorem wired_put (h : Wired settings runtime) (index : Nat) (hFits : changed.Fits settings) :
    Wired settings (runtime.put index changed) :=
  wired_congr h rfl rfl rfl (fits_set h index hFits)

theorem wired_append (h : Wired settings runtime) (hFits : changed.Fits settings)
    (hSessions : next.sessions = runtime.sessions ++ [changed])
    (hTransports : next.roomTransports = runtime.roomTransports)
    (hCreated : next.created = runtime.created) (hClosed : next.closed = runtime.closed) :
    Wired settings next := by
  apply wired_congr h hTransports hCreated hClosed
  intro session hSession
  rw [hSessions] at hSession
  rcases List.mem_append.mp hSession with hOld | hLast
  · exact h.fits session hOld
  · exact List.eq_of_mem_singleton hLast ▸ hFits

theorem wired_giveSlot (h : Wired settings runtime) (index : Nat) (hFits : changed.Fits settings) :
    Wired settings (runtime.giveSlot index changed) := by
  let given : Session := { changed with slots := changed.slots - 1 }
  have hGiven : given.Fits settings := ⟨hFits.creating, hFits.watched, hFits.disabled⟩
  exact wired_congr h rfl rfl rfl (fits_set h index hGiven)

/-- A room's transport may be replaced by one with the same number. -/
theorem wired_update (h : Wired settings runtime) {entry replaced : RoomTransport}
    (hEntry : runtime.roomTransports room = some entry)
    (hSame : replaced.transport = entry.transport) :
    Wired settings { runtime with
      roomTransports := Function.update runtime.roomTransports room (some replaced) } := by
  have hBack : ∀ other found,
      Function.update runtime.roomTransports room (some replaced) other = some found →
        ∃ before, runtime.roomTransports other = some before ∧
          before.transport = found.transport := by
    intro other found hFound
    by_cases hRoom : other = room
    · subst hRoom
      obtain rfl : replaced = found := by simpa using hFound
      exact ⟨entry, hEntry, hSame.symm⟩
    · exact ⟨found, by simpa [hRoom] using hFound, rfl⟩
  refine ⟨fun other found hFound => ?_, fun first second found other hFirst hSecond hEq => ?_,
    h.closed_lt, fun hDisabled other => ?_, h.fits⟩
  · obtain ⟨before, hBefore, hTransport⟩ := hBack other found hFound
    exact hTransport ▸ h.fresh other before hBefore
  · obtain ⟨before, hBefore, hTransport⟩ := hBack first found hFirst
    obtain ⟨before', hBefore', hTransport'⟩ := hBack second other hSecond
    exact h.apart first second before before' hBefore hBefore'
      (hTransport.trans (hEq.trans hTransport'.symm))
  · rw [h.disabled hDisabled room] at hEntry
    cases hEntry

theorem wired_create (h : Wired settings runtime) (hEnabled : settings.p2pEnabled = true)
    (room : String) :
    Wired settings { runtime with
      roomTransports := Function.update runtime.roomTransports room (some ⟨runtime.created, 1⟩)
      created := runtime.created + 1 } := by
  have hCases : ∀ other found,
      Function.update runtime.roomTransports room (some ⟨runtime.created, 1⟩) other = some found →
        (other = room ∧ found.transport = runtime.created) ∨
          runtime.roomTransports other = some found := by
    intro other found hFound
    by_cases hRoom : other = room
    · subst hRoom
      obtain rfl : ⟨runtime.created, 1⟩ = found := by simpa using hFound
      exact .inl ⟨rfl, rfl⟩
    · exact .inr (by simpa [hRoom] using hFound)
  have hOlder : ∀ other found, runtime.roomTransports other = some found →
      found.transport < runtime.created := fun other found hFound => (h.fresh other found hFound).1
  refine ⟨fun other found hFound => ?_, fun first second found other hFirst hSecond hEq => ?_,
    fun transport hClosed => Nat.lt_succ_of_lt (h.closed_lt transport hClosed),
    fun hDisabled => absurd hEnabled (by simp [hDisabled]), h.fits⟩
  · rcases hCases other found hFound with ⟨-, hNew⟩ | hOld
    · rw [hNew]
      exact ⟨Nat.lt_succ_self _, fun hClosed => Nat.lt_irrefl _ (h.closed_lt _ hClosed)⟩
    · exact ⟨Nat.lt_succ_of_lt (hOlder other found hOld), (h.fresh other found hOld).2⟩
  · rcases hCases first found hFirst with ⟨hRoom, hNew⟩ | hOld <;>
      rcases hCases second other hSecond with ⟨hRoom', hNew'⟩ | hOld'
    · exact hRoom.trans hRoom'.symm
    · have hLt := hOlder second other hOld'
      omega
    · have hLt := hOlder first found hOld
      omega
    · exact h.apart first second found other hOld hOld' hEq

theorem wired_close (h : Wired settings runtime) {entry : RoomTransport}
    (hEntry : runtime.roomTransports room = some entry) :
    Wired settings { runtime with
      roomTransports := Function.update runtime.roomTransports room none
      closed := runtime.closed ++ [entry.transport] } := by
  have hBack : ∀ other found, Function.update runtime.roomTransports room none other = some found →
      other ≠ room ∧ runtime.roomTransports other = some found := by
    intro other found hFound
    by_cases hRoom : other = room
    · simp [hRoom] at hFound
    · exact ⟨hRoom, by simpa [hRoom] using hFound⟩
  refine ⟨fun other found hFound => ?_, fun first second found other hFirst hSecond => ?_,
    fun transport hClosed => ?_, fun hDisabled other => ?_, h.fits⟩
  · obtain ⟨hRoom, hOld⟩ := hBack other found hFound
    have hOther : found.transport ≠ entry.transport :=
      fun hSame => hRoom (h.apart other room found entry hOld hEntry hSame)
    exact ⟨(h.fresh other found hOld).1, by simp [(h.fresh other found hOld).2, hOther]⟩
  · exact h.apart first second found other (hBack first found hFirst).2
      (hBack second other hSecond).2
  · rcases List.mem_append.mp hClosed with hOld | hLast
    · exact h.closed_lt transport hOld
    · exact List.eq_of_mem_singleton hLast ▸ (h.fresh room entry hEntry).1
  · rw [h.disabled hDisabled room] at hEntry
    cases hEntry

theorem wired_release (h : Wired settings runtime) (room : String) :
    Wired settings (runtime.releaseRoomTransport room) := by
  unfold releaseRoomTransport
  cases hEntry : runtime.roomTransports room with
  | none => exact h
  | some entry =>
      dsimp only
      split
      · exact wired_close h hEntry
      · exact wired_update h hEntry rfl

theorem wired_leaveRoom (h : Wired settings runtime) (session : Session) :
    Wired settings (runtime.leaveRoom session) := by
  unfold leaveRoom
  split
  · exact wired_release h _
  · exact h

theorem wired_leaveRegistry (h : Wired settings runtime) (session : Session) :
    Wired settings (runtime.leaveRegistry session) := by
  obtain ⟨sessionRegistry, hRegistry⟩ := exists_leaveRegistry runtime session
  rw [hRegistry]
  exact wired_congr h rfl rfl rfl h.fits

/-- Outside of these two points only the transport counts. -/
theorem fits_of_stage (h : session.Fits settings) {stage : Stage} (hCreating : stage ≠ .creating)
    (hWatched : stage ≠ .watched) : ({ session with stage := stage } : Session).Fits settings :=
  ⟨fun hStage => absurd hStage hCreating, fun hStage => absurd hStage hWatched, h.disabled⟩

theorem wired_fail (h : Wired settings runtime) (index : Nat) (hFits : session.Fits settings) :
    Wired settings (runtime.fail index session) := by
  have hReporting : ({ session with stage := .reporting } : Session).Fits settings :=
    fits_of_stage hFits (by simp) (by simp)
  unfold fail
  split
  · exact wired_giveSlot h index hReporting
  · exact wired_put (wired_leaveRoom h session) index hReporting

theorem wired_setupSessionTransport (h : Wired settings runtime) (index : Nat)
    (hFits : session.Fits settings) (room : String) :
    Wired settings (runtime.setupSessionTransport settings index session room) := by
  unfold setupSessionTransport
  split_ifs with hEnabled
  · cases hEntry : runtime.roomTransports room with
    | none =>
        apply wired_put h
        exact ⟨fun _ => hEnabled, fun hStage => by simp at hStage, hFits.disabled⟩
    | some entry =>
        have hJoined : ({ entry with refCount := entry.refCount + 1 } : RoomTransport).transport =
            entry.transport := rfl
        apply wired_put (wired_update h hEntry hJoined)
        exact ⟨fun _ => hEnabled, fun _ _ => rfl, fun hDisabled => by simp [hEnabled] at hDisabled⟩
  · apply wired_put h
    exact ⟨fun hStage => by simp at hStage, fun _ hOn => absurd hOn hEnabled, hFits.disabled⟩

theorem wired_resolved (h : Wired settings runtime) (index : Nat) (hFits : session.Fits settings) :
    Wired settings (runtime.resolved settings index session) := by
  have hMoves : ∀ {stage : Stage}, stage ≠ .creating → stage ≠ .watched →
      Wired settings (runtime.put index { session with stage := stage }) :=
    fun hCreating hWatched => wired_put h index (fits_of_stage hFits hCreating hWatched)
  have hEnds : Wired settings (runtime.giveSlot index { session with stage := .ended }) :=
    wired_giveSlot h index (fits_of_stage hFits (by simp) (by simp))
  unfold resolved
  cases hStage : session.stage with
  | starting | activating | executing | persisting | responding => exact hMoves (by simp) (by simp)
  | updating | reportingError => exact hEnds
  | awaitingRoom | watched | ended => exact h
  | sendingResult =>
      dsimp only
      split
      · exact hEnds
      · exact hMoves (by simp) (by simp)
  | reporting =>
      dsimp only
      split
      · exact hMoves (by simp) (by simp)
      · exact hEnds
  | syncing =>
      cases session.room with
      | none => exact h
      | some room => exact wired_setupSessionTransport h index hFits room
  | creating =>
      cases session.room with
      | none => exact h
      | some room =>
          have hEnabled := hFits.creating hStage
          apply wired_put (wired_create h hEnabled room)
          exact ⟨fun _ => hEnabled, fun _ _ => rfl, fun hOff => by simp [hEnabled] at hOff⟩

theorem wired_rejected (h : Wired settings runtime) (index : Nat) (hFits : session.Fits settings) :
    Wired settings (runtime.rejected index session) := by
  have hMoves : ∀ {stage : Stage}, stage ≠ .creating → stage ≠ .watched →
      Wired settings (runtime.put index { session with stage := stage }) :=
    fun hCreating hWatched => wired_put h index (fits_of_stage hFits hCreating hWatched)
  unfold rejected
  cases session.stage with
  | starting | activating | executing | sendingResult | persisting | reporting =>
      exact hMoves (by simp) (by simp)
  | updating | reportingError =>
      exact wired_giveSlot h index (fits_of_stage hFits (by simp) (by simp))
  | awaitingRoom | responding | syncing | creating => exact wired_fail h index hFits
  | watched | ended => exact h

theorem wired_step (runtime : LauncherRuntime) (input : SessionInput)
    (h : Wired settings runtime) : Wired settings (runtime.step settings input) := by
  have hFits : ∀ (index : Nat) (session : Session), runtime.sessions[index]? = some session →
      session.Fits settings := fun index session hOld => h.fits session (List.mem_of_getElem? hOld)
  cases input with
  | event event =>
      simp only [step, handleEvent]
      split
      · refine wired_append h ⟨?_, ?_, fun _ => rfl⟩ rfl rfl rfl rfl
        · cases event.route <;> simp [Route.firstStage]
        · cases event.route <;> simp [Route.firstStage]
      · exact h
  | reconnect sessionId sender spawned =>
      simp only [step, handleReconnect]
      cases runtime.reconnectable sessionId sender with
      | none => exact h
      | some entry =>
          cases spawned with
          | true =>
              exact wired_append h ⟨by simp [Route.firstStage], by simp [Route.firstStage],
                fun _ => rfl⟩ rfl rfl rfl rfl
          | false => exact wired_append h ⟨by simp, by simp, fun _ => rfl⟩ rfl rfl rfl rfl
  | gotRoom index room bridge =>
      simp only [step]
      cases hOld : runtime.sessions[index]? with
      | none => exact h
      | some session =>
          have hSession := hFits index session hOld
          dsimp only
          split
          · cases bridge with
            | none =>
                exact wired_fail h index ⟨hSession.creating, hSession.watched, hSession.disabled⟩
            | some bridge =>
                exact wired_congr h rfl rfl rfl
                  (fits_set h index ⟨by simp, by simp, hSession.disabled⟩)
          · exact h
  | resolved index =>
      simp only [step]
      cases hOld : runtime.sessions[index]? with
      | none => exact h
      | some session => exact wired_resolved h index (hFits index session hOld)
  | rejected index =>
      simp only [step]
      cases hOld : runtime.sessions[index]? with
      | none => exact h
      | some session => exact wired_rejected h index (hFits index session hOld)
  | exited index =>
      simp only [step]
      cases hOld : runtime.sessions[index]? with
      | none => exact h
      | some session =>
          have hSession := hFits index session hOld
          exact wired_put h index ⟨hSession.creating, hSession.watched, hSession.disabled⟩
  | watched index =>
      simp only [step]
      cases hOld : runtime.sessions[index]? with
      | none => exact h
      | some session =>
          dsimp only
          split
          · apply wired_giveSlot (wired_leaveRegistry (wired_leaveRoom h session) session)
            exact fits_of_stage (hFits index session hOld) (by simp) (by simp)
          · exact h

end Wiring

section Steps

variable {settings : Settings} {runtime : LauncherRuntime} {index : Nat}
  {old changed session : Session}

theorem leaveRoom_of_none (hRoom : session.room = none) :
    runtime.leaveRoom session = runtime := by
  rw [leaveRoom, hRoom]

theorem leaveRoom_of_some {room : String} (hRoom : session.room = some room) :
    runtime.leaveRoom session = runtime.releaseRoomTransport room := by
  rw [leaveRoom, hRoom]

theorem shared_giveSlot (h : Shared runtime) (hOld : runtime.sessions[index]? = some old)
    (hShare : changed.share = old.share) : Shared (runtime.giveSlot index changed) := by
  let given : Session := { changed with slots := changed.slots - 1 }
  have hPut : Shared (runtime.put index given) := shared_set h hOld hShare
  exact shared_congr hPut rfl rfl rfl rfl

/-- A session that was not watched moves on. -/
theorem shared_move (h : Shared runtime) (hOld : runtime.sessions[index]? = some session)
    (hStage : session.stage ≠ .watched) {stage : Stage} (hNext : stage ≠ .watched) :
    Shared (runtime.put index { session with stage := stage }) :=
  shared_set h hOld ((share_of_stage hNext).trans (share_of_stage hStage).symm)

theorem shared_end (h : Shared runtime) (hOld : runtime.sessions[index]? = some session)
    (hStage : session.stage ≠ .watched) :
    Shared (runtime.giveSlot index { session with stage := .ended }) :=
  shared_giveSlot h hOld ((share_of_stage (by simp)).trans (share_of_stage hStage).symm)

theorem shared_fail_iff (h : Shared runtime) (hOld : runtime.sessions[index]? = some old)
    (hStage : old.stage ≠ .watched) (session : Session) :
    Shared (runtime.fail index session) ↔
      (session.route ≠ .reconnect → ∀ room, session.room = some room →
        runtime.roomTransports room = none) := by
  let failed : Session := { session with stage := .reporting }
  have hShare : failed.share = old.share :=
    (share_of_stage (by simp [failed])).trans (share_of_stage hStage).symm
  unfold fail
  split
  next hReconnect =>
    apply iff_of_true (shared_giveSlot h hOld hShare)
    exact fun hOther => absurd hReconnect hOther
  next hOther =>
    rcases Option.eq_none_or_eq_some session.room with hRoom | ⟨room, hRoom⟩
    · rw [leaveRoom_of_none hRoom]
      exact iff_of_true (shared_set h hOld hShare) (by simp [hRoom])
    · rw [leaveRoom_of_some hRoom]
      have hRelease : Shared ((runtime.releaseRoomTransport room).put index failed) ↔
          runtime.roomTransports room = none := shared_release_iff h hOld hShare room
      apply hRelease.trans
      constructor
      · intro hNone _ other hSame
        exact Option.some.inj (hRoom.symm.trans hSame) ▸ hNone
      · intro hAll
        exact hAll hOther room hRoom

theorem shared_setupSessionTransport (h : Shared runtime) (hWired : Wired settings runtime)
    (hOld : runtime.sessions[index]? = some session) (hStage : session.stage ≠ .watched)
    {room : String} (hRoom : session.room = some room) :
    Shared (runtime.setupSessionTransport settings index session room) := by
  have hShare := share_of_stage hStage
  unfold setupSessionTransport
  split_ifs with hEnabled
  · cases hEntry : runtime.roomTransports room with
    | none => exact shared_move h hOld hStage (by simp)
    | some entry =>
        apply shared_join h hOld hShare hEntry (hWired.fresh room entry hEntry).2
        simp [Session.share, hRoom]
  · apply shared_set h hOld
    have hNone : session.transport = none :=
      (hWired.fits session (List.mem_of_getElem? hOld)).disabled (Bool.eq_false_iff.mpr hEnabled)
    rw [hShare]
    simp [Session.share, hNone]

/-- A session that waits for its room keeps the law unless it fails in a room that another
session uses. -/
theorem shared_gotRoom_iff (h : Shared runtime) (hOld : runtime.sessions[index]? = some session)
    (hStage : session.stage = .awaitingRoom) {room : String} {bridge : Option (String × Bool)} :
    Shared (runtime.gotRoom index session room bridge) ↔
      (bridge = none → session.route ≠ .reconnect → runtime.roomTransports room = none) := by
  cases bridge with
  | none =>
      let placed : Session := { session with room := some room }
      show Shared (runtime.fail index placed) ↔ _
      rw [shared_fail_iff h hOld (by simp [hStage])]
      simp [placed]
  | some bridge =>
      apply iff_of_true _ (by simp)
      let placed : Session :=
        { session with
          stage := .persisting, room := some room
          bridge := some ⟨bridge.1, bridge.2, true⟩ }
      have hPut : Shared (runtime.put index placed) :=
        shared_set h hOld ((share_of_stage (by simp [placed])).trans
          (share_of_stage (by simp [hStage])).symm)
      exact shared_congr hPut rfl rfl rfl rfl

theorem shared_resolved_iff (h : Shared runtime) (hWired : Wired settings runtime)
    (hOld : runtime.sessions[index]? = some session) :
    Shared (runtime.resolved settings index session) ↔
      (session.stage = .creating → ∀ room, session.room = some room →
        runtime.roomTransports room = none) := by
  have hMoves : ∀ {stage : Stage}, session.stage ≠ .watched → stage ≠ .watched →
      Shared (runtime.put index { session with stage := stage }) :=
    fun hStage hNext => shared_move h hOld hStage hNext
  have hEnds : session.stage ≠ .watched →
      Shared (runtime.giveSlot index { session with stage := .ended }) := shared_end h hOld
  unfold resolved
  cases hStage : session.stage with
  | starting | activating | executing | persisting | responding =>
      exact iff_of_true (hMoves (by simp [hStage]) (by simp)) (by simp)
  | updating | reportingError => exact iff_of_true (hEnds (by simp [hStage])) (by simp)
  | awaitingRoom | watched | ended => exact iff_of_true h (by simp)
  | sendingResult =>
      apply iff_of_true _ (by simp)
      dsimp only
      split
      · exact hEnds (by simp [hStage])
      · exact hMoves (by simp [hStage]) (by simp)
  | reporting =>
      apply iff_of_true _ (by simp)
      dsimp only
      split
      · exact hMoves (by simp [hStage]) (by simp)
      · exact hEnds (by simp [hStage])
  | syncing =>
      apply iff_of_true _ (by simp)
      cases hRoom : session.room with
      | none => exact h
      | some room => exact shared_setupSessionTransport h hWired hOld (by simp [hStage]) hRoom
  | creating =>
      cases hRoom : session.room with
      | none => exact iff_of_true h (by simp)
      | some room =>
          let joined : Session :=
            { session with stage := .watched, transport := some runtime.created }
          have hShare : joined.share = some (room, runtime.created) := by
            simp [joined, Session.share, hRoom]
          have hCreate := shared_create_iff h hWired hOld (share_of_stage (by simp [hStage])) hShare
          simpa [createTransport] using hCreate

theorem shared_rejected_iff (h : Shared runtime)
    (hOld : runtime.sessions[index]? = some session) :
    Shared (runtime.rejected index session) ↔
      (session.stage = .awaitingRoom ∨ session.stage = .responding ∨ session.stage = .syncing ∨
          session.stage = .creating →
        session.route ≠ .reconnect → ∀ room, session.room = some room →
          runtime.roomTransports room = none) := by
  have hMoves : ∀ {stage : Stage}, session.stage ≠ .watched → stage ≠ .watched →
      Shared (runtime.put index { session with stage := stage }) :=
    fun hStage hNext => shared_move h hOld hStage hNext
  unfold rejected
  cases hStage : session.stage with
  | starting | activating | executing | sendingResult | persisting | reporting =>
      exact iff_of_true (hMoves (by simp [hStage]) (by simp)) (by simp)
  | updating | reportingError =>
      exact iff_of_true (shared_end h hOld (by simp [hStage])) (by simp)
  | watched | ended => exact iff_of_true h (by simp)
  | awaitingRoom | responding | syncing | creating =>
      have hFail := shared_fail_iff h hOld (by simp [hStage]) session
      simpa using hFail

theorem shared_finishWatch (h : Shared runtime) (hWired : Wired settings runtime)
    (hOld : runtime.sessions[index]? = some session) (hStage : session.stage = .watched) :
    Shared (runtime.finishWatch index session) := by
  let finished : Session := { session with stage := .ended, slots := session.slots - 1 }
  have hNone : finished.share = none := share_of_stage (by simp [finished])
  have hPut : Shared ((runtime.leaveRoom session).put index finished) := by
    rcases Option.eq_none_or_eq_some session.room with hRoom | ⟨room, hRoom⟩
    · rw [leaveRoom_of_none hRoom]
      apply shared_set h hOld
      rw [hNone, Session.share, hRoom]
      simp
    · rw [leaveRoom_of_some hRoom]
      rcases Option.eq_none_or_eq_some session.transport with hTransport | ⟨transport, hTransport⟩
      · have hOff : settings.p2pEnabled = false := by
          have hFits := (hWired.fits session (List.mem_of_getElem? hOld)).watched hStage
          rw [hTransport] at hFits
          simpa using hFits
        rw [releaseRoomTransport_of_none (hWired.disabled hOff room)]
        apply shared_set h hOld
        rw [hNone, Session.share, hTransport]
        simp
      · have hUses : session.share = some (room, transport) := by
          simp [Session.share, hStage, hRoom, hTransport]
        exact shared_leave h hWired hOld hUses hNone
  obtain ⟨sessionRegistry, hRegistry⟩ := exists_leaveRegistry (runtime.leaveRoom session) session
  rw [finishWatch, hRegistry]
  exact shared_congr hPut rfl rfl rfl rfl

theorem shared_step_iff (runtime : LauncherRuntime) (input : SessionInput)
    (hWired : Wired settings runtime) (h : Shared runtime) :
    Shared (runtime.step settings input) ↔ KeepsShared runtime input := by
  cases input with
  | event event =>
      apply iff_of_true _ trivial
      simp only [step, handleEvent]
      split
      · have hFirst : event.route.firstStage ≠ .watched := by
          cases event.route <;> simp [Route.firstStage]
        exact shared_append h (share_of_stage hFirst) rfl rfl rfl rfl
      · exact h
  | reconnect sessionId sender spawned =>
      apply iff_of_true _ trivial
      simp only [step, handleReconnect]
      cases runtime.reconnectable sessionId sender with
      | none => exact h
      | some entry =>
          cases spawned with
          | true =>
              exact shared_append h (share_of_stage (by simp [Route.firstStage])) rfl rfl rfl rfl
          | false => exact shared_append h (share_of_stage (by simp)) rfl rfl rfl rfl
  | gotRoom index room bridge =>
      cases hOld : runtime.sessions[index]? with
      | none =>
          rw [step, hOld]
          exact iff_of_true h (by cases bridge <;> simp [KeepsShared, hOld])
      | some session =>
          rw [step, hOld]
          dsimp only
          split
          next hStage =>
            rw [shared_gotRoom_iff h hOld hStage]
            cases bridge <;> simp [KeepsShared, hOld, hStage]
          next hStage =>
            exact iff_of_true h (by cases bridge <;> simp [KeepsShared, hOld, hStage])
  | resolved index =>
      cases hOld : runtime.sessions[index]? with
      | none =>
          rw [step, hOld]
          exact iff_of_true h (by simp [KeepsShared, hOld])
      | some session =>
          have hResolved := shared_resolved_iff h hWired hOld
          simpa [step, KeepsShared, hOld] using hResolved
  | rejected index =>
      cases hOld : runtime.sessions[index]? with
      | none =>
          rw [step, hOld]
          exact iff_of_true h (by simp [KeepsShared, hOld])
      | some session =>
          have hRejected := shared_rejected_iff h hOld
          simpa [step, KeepsShared, hOld] using hRejected
  | exited index =>
      apply iff_of_true _ trivial
      simp only [step]
      cases hOld : runtime.sessions[index]? with
      | none => exact h
      | some session => exact shared_set h hOld rfl
  | watched index =>
      apply iff_of_true _ trivial
      simp only [step]
      cases hOld : runtime.sessions[index]? with
      | none => exact h
      | some session =>
          dsimp only
          split
          next hDone => exact shared_finishWatch h hWired hOld hDone.1
          next => exact h

end Steps

/-- The transports of the rooms are counted right throughout exactly in the runs
whose steps keep them so. -/
theorem always_shared_iff (settings : Settings)
    (sessionRegistry : String → Option RegistryEntry) (inputs : List SessionInput) :
    Always (step settings) Shared (new sessionRegistry) inputs ↔
      Admissible (step settings) KeepsShared (new sessionRegistry) inputs := by
  have hWired : Wired settings (new sessionRegistry) :=
    ⟨by simp [new], by simp [new], by simp [new], fun _ _ => rfl, by simp [new]⟩
  have hShared : Shared (new sessionRegistry) :=
    ⟨fun _ => rfl, by simp [new], by simp [new], by simp [new]⟩
  exact always_iff_admissible_under wired_step shared_step_iff hWired hShared

/-- A second session of a room fails before it has asked for the transport: the
first one loses it. -/
theorem not_always_shared :
    ¬ Always (step ⟨⟨["bash"], ["/tmp"], 5⟩, none, "@launcher", true⟩) Shared (new fun _ => none)
      [.event (.command (some "@user") ⟨some "interactive", none, [], none⟩),
        .gotRoom 0 "!room" (some ("00000000", false)), .resolved 0, .resolved 0, .resolved 0,
        .resolved 0,
        .event (.command (some "@user") ⟨some "interactive", none, [], none⟩),
        .gotRoom 1 "!room" (some ("11111111", false)), .resolved 1, .rejected 1] := by
  intro h
  have hCounted := h.last.counted "!room"
  revert hCounted
  decide +kernel

end LauncherRuntime

end Mxdx.Runtime
