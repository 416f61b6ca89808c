import Mxdx.Basic
import Mathlib.Data.List.Basic
import Mathlib.Tactic.Common

/-! `cleanupRooms` of the JavaScript core package: the rooms of all launchers, or
those without recent activity, are listed, and left and forgotten on demand. The
homeserver may answer every request as it likes. -/
namespace Mxdx.Core.Cleanup

/-- An entry of what `listLauncherSpaces` returns. -/
structure Launcher where
  launcherId : String
  spaceId : String
  execRoomId : String
  logsRoomId : String

/-- What a room is for. -/
inductive RoomType where
  | exec
  | logs
  | space
deriving DecidableEq

/-- A room of the launcher. -/
structure Room where
  roomId : String
  type : RoomType
  launcherId : String
deriving DecidableEq

/-- The requests that are made, all with the caller's token. -/
inductive Request where
  | messages (roomId : String)
  | leave (roomId : String)
  | forget (roomId : String)
deriving DecidableEq

/-- What the cleanup reads of an event. -/
structure TimelineEvent where
  originServerTs : Option Int

/-- The body of an answer to `messages`, latest event first. -/
structure Page where
  chunk : Option (List TimelineEvent)

/-- What the homeserver answers, with a body that may not be JSON. -/
structure Response where
  status : Nat
  json : Except String Page

/-- `resp.ok` of fetch. -/
def Response.ok (resp : Response) : Bool := 200 ≤ resp.status && resp.status < 300

/-- What `fetch` resolves to, or throws, after the requests made so far. -/
abbrev Homeserver := List Request → Request → Except String Response

/-- The answer to a request and all requests up to then. An answer of 429 is not
taken as long as there are retries left. -/
def matrixFetch (server : Homeserver) (request : Request) (log : List Request) :
    (retries : Nat) → Except String Response × List Request
  | 0 => (server log request, log ++ [request])
  | retries + 1 =>
      match server log request with
      | .error error => (.error error, log ++ [request])
      | .ok resp =>
          if resp.status = 429 then matrixFetch server request (log ++ [request]) retries
          else (.ok resp, log ++ [request])

/-- The timestamp of the latest event. -/
def Page.reported (page : Page) : Option Int :=
  match page.chunk with
  | some (event :: _) => event.originServerTs
  | _ => none

/-- `null` stands for a timestamp that is missing or zero. -/
def Page.lastTs (page : Page) : Option Int := page.reported.filter (· ≠ 0)

/-- A room without events has no timestamp. -/
def getLastEventTimestamp (server : Homeserver) (roomId : String) (log : List Request) :
    Except String (Option Int) × List Request :=
  match matrixFetch server (.messages roomId) log 3 with
  | (.error error, log) => (.error error, log)
  | (.ok resp, log) =>
      if !resp.ok then (.ok none, log)
      else
        match resp.json with
        | .error error => (.error error, log)
        | .ok data => (.ok data.lastTs, log)

/-- Children first. -/
def roomsOf (launchers : List Launcher) : List Room :=
  launchers.flatMap fun l =>
    [⟨l.execRoomId, .exec, l.launcherId⟩, ⟨l.logsRoomId, .logs, l.launcherId⟩,
      ⟨l.spaceId, .space, l.launcherId⟩]

/-- The rooms to clean: those without a timestamp, and those whose timestamp is
before the cutoff. -/
def inactiveRooms (server : Homeserver) (olderThan : Int) :
    List Room → List Request → Except String (List Room) × List Request
  | [], log => (.ok [], log)
  | room :: rooms, log =>
      match getLastEventTimestamp server room.roomId log with
      | (.error error, log) => (.error error, log)
      | (.ok lastTs, log) =>
          match inactiveRooms server olderThan rooms log with
          | (.error error, log) => (.error error, log)
          | (.ok filtered, log) =>
              (.ok (if lastTs.all (· < olderThan) then room :: filtered else filtered), log)

/-- The preview. A cutoff of zero is as good as none. -/
def cleanupRooms (server : Homeserver) (launchers : List Launcher) (olderThan : Option Int)
    (log : List Request) : Except String (List Room) × List Request :=
  match olderThan with
  | some cutoff =>
      if cutoff = 0 then (.ok (roomsOf launchers), log)
      else inactiveRooms server cutoff (roomsOf launchers) log
  | none => (.ok (roomsOf launchers), log)

/-- One request of `execute`; an answer of 403 will do. -/
def post (server : Homeserver) (request : Request) (verb : String) (log : List Request) :
    Except String Unit × List Request :=
  match matrixFetch server request log 3 with
  | (.error error, log) => (.error error, log)
  | (.ok resp, log) =>
      if !resp.ok && resp.status ≠ 403 then
        (.error (verb ++ " failed: " ++ toString resp.status), log)
      else (.ok (), log)

/-- A room that cannot be left is not forgotten. -/
def leaveAndForget (server : Homeserver) (room : Room) (log : List Request) :
    Except String Unit × List Request :=
  match post server (.leave room.roomId) "leave" log with
  | (.error error, log) => (.error error, log)
  | (.ok (), log) => post server (.forget room.roomId) "forget" log

/-- What a cleanup reports. -/
structure Outcome where
  left : Nat
  errors : Nat
deriving DecidableEq

/-- What `execute` does with the rooms of the preview; an error ends its own room only. -/
def execute (server : Homeserver) :
    List Room → Outcome → List Request → Outcome × List Request
  | [], outcome, log => (outcome, log)
  | room :: rooms, outcome, log =>
      match leaveAndForget server room log with
      | (.ok (), log) => execute server rooms { outcome with left := outcome.left + 1 } log
      | (.error _, log) => execute server rooms { outcome with errors := outcome.errors + 1 } log

/-- A room and the page that the homeserver gave for it, if it gave one. -/
structure Reading where
  room : Room
  page : Option Page

namespace Reading

/-- The homeserver reported a last event before the cutoff. -/
def Stale (cutoff : Int) (reading : Reading) : Prop :=
  ∃ ts ∈ reading.page.bind Page.reported, ts < cutoff

/-- The homeserver reported a last event, with a timestamp that is not taken for none. -/
def Readable (cutoff : Int) (reading : Reading) : Prop :=
  ∃ ts ∈ reading.page.bind Page.reported, ts = 0 → 0 < cutoff

/-- The test that a room has to pass to be cleaned. -/
def passes (cutoff : Int) (reading : Reading) : Bool :=
  (reading.page.bind Page.lastTs).all (· < cutoff)

theorem passes_of_stale {cutoff : Int} {reading : Reading} (h : reading.Stale cutoff) :
    reading.passes cutoff = true := by
  obtain ⟨ts, hTs, hBefore⟩ := h
  obtain ⟨page, hPage, hReported⟩ := Option.bind_eq_some_iff.mp hTs
  rw [passes, hPage, Option.bind_some, Page.lastTs, hReported]
  by_cases hZero : ts = 0 <;> simp [Option.filter_some, hZero, hBefore]

theorem stale_of_readable {cutoff : Int} {reading : Reading} (h : reading.Readable cutoff)
    (hPasses : reading.passes cutoff = true) : reading.Stale cutoff := by
  obtain ⟨ts, hTs, hZero⟩ := h
  refine ⟨ts, hTs, ?_⟩
  obtain ⟨page, hPage, hReported⟩ := Option.bind_eq_some_iff.mp hTs
  rw [passes, hPage, Option.bind_some, Page.lastTs, hReported] at hPasses
  by_cases hNull : ts = 0
  · exact hNull ▸ hZero hNull
  · simpa [Option.filter_some, hNull] using hPasses

/-- What cannot be read passes the test, and has no date before the cutoff. -/
theorem unreadable {cutoff : Int} {reading : Reading} (h : ¬ reading.Readable cutoff) :
    reading.passes cutoff = true ∧ ¬ reading.Stale cutoff := by
  constructor
  · rw [passes]
    cases hPage : reading.page with
    | none => rfl
    | some page =>
        rw [Option.bind_some, Page.lastTs]
        cases hReported : page.reported with
        | none => rfl
        | some ts =>
            have hNull : ts = 0 := by
              by_contra hNe
              exact h ⟨ts, by rw [hPage]; exact hReported, fun hZero => absurd hZero hNe⟩
            simp [Option.filter_some, hNull]
  · rintro ⟨ts, hTs, hBefore⟩
    exact h ⟨ts, hTs, fun hZero => hZero ▸ hBefore⟩

end Reading

section Requests

variable {server : Homeserver}

theorem log_matrixFetch (server : Homeserver) (request : Request) (log : List Request)
    (retries : Nat) :
    ∃ n, (matrixFetch server request log retries).2 = log ++ List.replicate (n + 1) request := by
  induction retries generalizing log with
  | zero => exact ⟨0, rfl⟩
  | succ retries ih =>
      unfold matrixFetch
      split
      · exact ⟨0, rfl⟩
      · split
        · obtain ⟨n, hLog⟩ := ih (log ++ [request])
          exact ⟨n + 1, by rw [hLog, List.append_assoc]; rfl⟩
        · exact ⟨0, rfl⟩

theorem mem_log_post {request other : Request} {verb : String} {log : List Request}
    (h : other ∈ (post server request verb log).2) : other ∈ log ∨ other = request := by
  have hSame : (post server request verb log).2 = (matrixFetch server request log 3).2 := by
    unfold post
    split
    next hFetch => rw [hFetch]
    next hFetch => rw [hFetch]; split <;> rfl
  obtain ⟨n, hLog⟩ := log_matrixFetch server request log 3
  rw [hSame, hLog] at h
  exact (List.mem_append.mp h).imp_right List.eq_of_mem_replicate

theorem mem_log_leaveAndForget {room : Room} {request : Request} {log : List Request}
    (h : request ∈ (leaveAndForget server room log).2) :
    request ∈ log ∨ request = .leave room.roomId ∨ request = .forget room.roomId := by
  unfold leaveAndForget at h
  have hLeave := @mem_log_post server (.leave room.roomId) request "leave" log
  split at h
  next hPost =>
    rw [hPost] at hLeave
    exact (hLeave h).imp_right .inl
  next hPost =>
    rw [hPost] at hLeave
    rcases mem_log_post h with hLog | hForget
    · exact (hLeave hLog).imp_right .inl
    · exact .inr (.inr hForget)

/-- `execute` leaves the rooms it is given and no others. -/
theorem mem_log_execute {rooms : List Room} {outcome : Outcome} {roomId : String}
    {log : List Request} (h : .leave roomId ∈ (execute server rooms outcome log).2) :
    .leave roomId ∈ log ∨ ∃ room ∈ rooms, room.roomId = roomId := by
  induction rooms generalizing outcome log with
  | nil => exact .inl h
  | cons room rooms ih =>
      have hRoom := @mem_log_leaveAndForget server room (.leave roomId) log
      have hOne : .leave roomId ∈ (leaveAndForget server room log).2 →
          .leave roomId ∈ log ∨ ∃ other ∈ room :: rooms, other.roomId = roomId := by
        intro hMem
        rcases hRoom hMem with hLog | hLeave | hForget
        · exact .inl hLog
        · exact .inr ⟨room, List.mem_cons_self, (Request.leave.inj hLeave).symm⟩
        · cases hForget
      have hRest : (∃ other ∈ rooms, other.roomId = roomId) →
          ∃ other ∈ room :: rooms, other.roomId = roomId := fun ⟨other, hMem, hId⟩ =>
        ⟨other, List.mem_cons_of_mem _ hMem, hId⟩
      unfold execute at h
      split at h
      all_goals
        next hCall =>
          rw [hCall] at hOne
          exact (ih h).elim hOne fun hOther => .inr (hRest hOther)

/-- The reading of one room; an error of `fetch` or of the body goes through. -/
def ask (server : Homeserver) (room : Room) (log : List Request) :
    Except String Reading × List Request :=
  match matrixFetch server (.messages room.roomId) log 3 with
  | (.error error, log) => (.error error, log)
  | (.ok resp, log) =>
      (if resp.ok then resp.json.map fun data => ⟨room, some data⟩ else .ok ⟨room, none⟩, log)

/-- The readings of all rooms, one after the other. -/
def survey (server : Homeserver) :
    List Room → List Request → Except String (List Reading) × List Request
  | [], log => (.ok [], log)
  | room :: rooms, log =>
      match ask server room log with
      | (.error error, log) => (.error error, log)
      | (.ok reading, log) =>
          ((survey server rooms log).1.map (reading :: ·), (survey server rooms log).2)

theorem room_of_ask {room : Room} {log : List Request} {reading : Reading}
    (h : (ask server room log).1 = .ok reading) : reading.room = room := by
  unfold ask at h
  split at h
  · cases h
  next resp after hFetch =>
    cases hOk : resp.ok with
    | false => rw [hOk] at h; cases h; rfl
    | true =>
        rw [hOk, if_pos rfl] at h
        cases hJson : resp.json with
        | error error => rw [hJson] at h; cases h
        | ok data => rw [hJson] at h; cases h; rfl

theorem getLastEventTimestamp_eq (room : Room) (log : List Request) :
    getLastEventTimestamp server room.roomId log =
      ((ask server room log).1.map fun reading => reading.page.bind Page.lastTs,
        (ask server room log).2) := by
  unfold getLastEventTimestamp ask
  rcases matrixFetch server (.messages room.roomId) log 3 with ⟨error | resp, log⟩
  · rfl
  · dsimp only
    cases resp.ok with
    | false => rfl
    | true => cases resp.json <;> rfl

/-- The rooms to clean are those whose readings pass. -/
theorem inactiveRooms_eq (cutoff : Int) (rooms : List Room) (log : List Request) :
    inactiveRooms server cutoff rooms log =
      ((survey server rooms log).1.map fun readings =>
        (readings.filter (·.passes cutoff)).map Reading.room, (survey server rooms log).2) := by
  induction rooms generalizing log with
  | nil => rfl
  | cons room rooms ih =>
      rw [inactiveRooms, survey, getLastEventTimestamp_eq]
      rcases hAsk : ask server room log with ⟨error | reading, after⟩
      · rfl
      · dsimp only [Except.map]
        rw [ih after]
        rcases survey server rooms after with ⟨error | readings, last⟩
        · rfl
        · dsimp only [Except.map]
          rw [List.filter_cons]
          by_cases hPasses : reading.passes cutoff = true
          · have hAll : (reading.page.bind Page.lastTs).all (· < cutoff) = true := hPasses
            rw [if_pos hPasses, if_pos hAll, List.map_cons, room_of_ask (by rw [hAsk])]
          · have hAll : ¬ (reading.page.bind Page.lastTs).all (· < cutoff) = true := hPasses
            rw [if_neg hPasses, if_neg hAll]

theorem length_log_ask (server : Homeserver) (room : Room) (log : List Request) :
    log.length < (ask server room log).2.length := by
  have hSame : (ask server room log).2 =
      (matrixFetch server (.messages room.roomId) log 3).2 := by
    unfold ask
    split
    all_goals
      next hFetch => rw [hFetch]
  obtain ⟨n, hLog⟩ := log_matrixFetch server (.messages room.roomId) log 3
  rw [hSame, hLog, List.length_append, List.length_replicate]
  omega

theorem length_log_survey (server : Homeserver) (rooms : List Room) (log : List Request) :
    log.length ≤ (survey server rooms log).2.length := by
  induction rooms generalizing log with
  | nil => exact Nat.le_refl _
  | cons room rooms ih =>
      have hFirst := length_log_ask server room log
      unfold survey
      split
      all_goals
        next after hAsk =>
          rw [hAsk] at hFirst
          have hRest := ih after
          dsimp only at hFirst ⊢
          omega

/-- A survey of any rooms at all makes requests. -/
theorem survey_snd_ne {rooms : List Room} {log : List Request} (hRooms : rooms ≠ []) :
    (survey server rooms log).2 ≠ log := by
  intro hSame
  obtain ⟨room, rooms, rfl⟩ := List.exists_cons_of_ne_nil hRooms
  have hFirst := length_log_ask server room log
  have hLength := congrArg List.length hSame
  unfold survey at hLength
  split at hLength
  all_goals
    next after hAsk =>
      rw [hAsk] at hFirst
      have hRest := length_log_survey server rooms after
      dsimp only at hFirst hLength
      omega

theorem roomsOf_ne_nil {launchers : List Launcher} (h : launchers ≠ []) :
    roomsOf launchers ≠ [] := by
  obtain ⟨launcher, launchers, rfl⟩ := List.exists_cons_of_ne_nil h
  exact List.cons_ne_nil _ _

end Requests

/-- A preview that spares active rooms: each room in it was asked about, the
homeserver reported a last event before the cutoff for it, and no other room is
left on its account. -/
structure Sparing (server : Homeserver) (rooms : List Room) (cutoff : Int)
    (log : List Request) (preview : List Room) (after : List Request)
    (readings chosen : List Reading) : Prop where
  asked : survey server rooms log = (.ok readings, after)
  sublist : chosen.Sublist readings
  previewed : chosen.map Reading.room = preview
  stale : ∀ reading ∈ chosen, reading.Stale cutoff
  leaves : ∀ outcome later roomId,
    .leave roomId ∈ (execute server preview outcome later).2 →
      .leave roomId ∈ later ∨ ∃ reading ∈ chosen, reading.room.roomId = roomId

/-- A cleanup up to a cutoff comes out with a sparing preview or none at all. -/
def SparesActive (server : Homeserver) (launchers : List Launcher) (cutoff : Int)
    (log : List Request) : Prop :=
  ∀ preview after, cleanupRooms server launchers (some cutoff) log = (.ok preview, after) →
    ∃ readings chosen,
      Sparing server (roomsOf launchers) cutoff log preview after readings chosen

/-- All rooms can be read, unless an error ends the survey. -/
def AllReadable (server : Homeserver) (launchers : List Launcher) (cutoff : Int)
    (log : List Request) : Prop :=
  ∀ readings, (survey server (roomsOf launchers) log).1 = .ok readings →
    ∀ reading ∈ readings, reading.Readable cutoff

theorem leaves_of_preview {server : Homeserver} {chosen : List Reading} {outcome : Outcome}
    {later : List Request} {roomId : String}
    (h : .leave roomId ∈ (execute server (chosen.map Reading.room) outcome later).2) :
    .leave roomId ∈ later ∨ ∃ reading ∈ chosen, reading.room.roomId = roomId := by
  rcases mem_log_execute h with hLog | ⟨room, hRoom, hId⟩
  · exact .inl hLog
  · obtain ⟨reading, hReading, rfl⟩ := List.mem_map.mp hRoom
    exact .inr ⟨reading, hReading, hId⟩

/-- Where at least as many readings are before the cutoff as pass the test, every
reading that passes is. -/
theorem stale_of_sublist {cutoff : Int} {readings chosen : List Reading}
    (hSublist : chosen.Sublist readings) (hStale : ∀ reading ∈ chosen, reading.Stale cutoff)
    (hLength : (readings.filter (·.passes cutoff)).length ≤ chosen.length) :
    ∀ reading ∈ readings, reading.passes cutoff = true → reading.Stale cutoff := by
  have hPass : chosen.filter (·.passes cutoff) = chosen :=
    List.filter_eq_self.mpr fun reading hMem => Reading.passes_of_stale (hStale reading hMem)
  have hFiltered := hSublist.filter (·.passes cutoff)
  rw [hPass] at hFiltered
  intro reading hMem hPasses
  have hAll := hFiltered.eq_of_length_le hLength
  exact hStale reading (hAll ▸ List.mem_filter.mpr ⟨hMem, hPasses⟩)

theorem sparesActive_nil (server : Homeserver) (cutoff : Int) (log : List Request) :
    SparesActive server [] cutoff log := by
  intro preview after hCleanup
  have hEmpty : cleanupRooms server [] (some cutoff) log = (.ok [], log) := by
    show (if cutoff = 0 then (Except.ok [], log) else (Except.ok [], log)) = _
    exact ite_self _
  cases hEmpty.symm.trans hCleanup
  exact ⟨[], [], rfl, .slnil, rfl, by simp, fun _ _ _ => @leaves_of_preview _ [] _ _ _⟩

section Spares

variable {server : Homeserver} {launchers : List Launcher} {cutoff : Int} {log : List Request}

/-- Without a cutoff no room is asked about. -/
theorem cutoff_ne_zero_of_sparesActive (hSome : launchers ≠ [])
    (h : SparesActive server launchers cutoff log) : cutoff ≠ 0 := by
  rintro rfl
  obtain ⟨readings, chosen, hSparing⟩ := h _ _ rfl
  have hAsked := congrArg Prod.snd hSparing.asked
  exact survey_snd_ne (roomsOf_ne_nil hSome) hAsked

/-- A room whose activity cannot be read is chosen like a stale one. -/
theorem allReadable_of_sparesActive (hCutoff : cutoff ≠ 0)
    (h : SparesActive server launchers cutoff log) :
    AllReadable server launchers cutoff log := by
  intro readings hReadings reading hMem
  by_contra hUnreadable
  obtain ⟨hPasses, hNot⟩ := Reading.unreadable hUnreadable
  have hCleanup : cleanupRooms server launchers (some cutoff) log =
      (.ok ((readings.filter (·.passes cutoff)).map Reading.room),
        (survey server (roomsOf launchers) log).2) := by
    simp only [cleanupRooms, if_neg hCutoff, inactiveRooms_eq, hReadings, Except.map]
  obtain ⟨others, chosen, hSparing⟩ := h _ _ hCleanup
  have hSame : others = readings := by
    rw [hSparing.asked] at hReadings
    exact Except.ok.inj hReadings
  have hLength := congrArg List.length hSparing.previewed
  rw [List.length_map, List.length_map] at hLength
  exact hNot (stale_of_sublist (hSame ▸ hSparing.sublist) hSparing.stale
    (Nat.le_of_eq hLength.symm) reading hMem hPasses)

theorem sparesActive_of_allReadable (hCutoff : cutoff ≠ 0)
    (hReadable : AllReadable server launchers cutoff log) :
    SparesActive server launchers cutoff log := by
  intro preview after hCleanup
  simp only [cleanupRooms, if_neg hCutoff, inactiveRooms_eq] at hCleanup
  rcases hSurvey : survey server (roomsOf launchers) log with ⟨error | readings, last⟩
  · rw [hSurvey] at hCleanup
    cases hCleanup
  · rw [hSurvey] at hCleanup
    cases hCleanup
    refine ⟨readings, readings.filter (·.passes cutoff), hSurvey, List.filter_sublist, rfl,
      ?_, fun _ _ _ => leaves_of_preview⟩
    intro reading hMem
    obtain ⟨hReading, hPasses⟩ := List.mem_filter.mp hMem
    exact Reading.stale_of_readable
      (hReadable readings (by rw [hSurvey]) reading hReading) hPasses

end Spares

/-- Active rooms are spared exactly where the activity of every room can be read. -/
theorem sparesActive_iff (server : Homeserver) (launchers : List Launcher) (cutoff : Int)
    (log : List Request) :
    SparesActive server launchers cutoff log ↔
      launchers = [] ∨ cutoff ≠ 0 ∧ AllReadable server launchers cutoff log := by
  by_cases hNone : launchers = []
  · subst hNone
    exact iff_of_true (sparesActive_nil server cutoff log) (.inl rfl)
  · rw [or_iff_right hNone]
    constructor
    · intro h
      have hCutoff := cutoff_ne_zero_of_sparesActive hNone h
      exact ⟨hCutoff, allReadable_of_sparesActive hCutoff h⟩
    · rintro ⟨hCutoff, hReadable⟩
      exact sparesActive_of_allReadable hCutoff hReadable

/-- A homeserver that answers every request with an internal error. -/
def failing : Homeserver := fun _ _ => .ok ⟨500, .error "no page"⟩

/-- With the homeserver down, all rooms are up for cleaning. -/
theorem not_sparesActive_failing :
    ¬ ∀ server launchers cutoff log, SparesActive server launchers cutoff log := by
  intro h
  have hPreview : cleanupRooms failing [⟨"l1", "!space", "!exec", "!logs"⟩] (some 1000) [] =
      (.ok [⟨"!exec", .exec, "l1"⟩, ⟨"!logs", .logs, "l1"⟩, ⟨"!space", .space, "l1"⟩],
        [.messages "!exec", .messages "!logs", .messages "!space"]) := rfl
  obtain ⟨readings, chosen, hSparing⟩ := h _ _ _ _ _ _ hPreview
  have hReadings : readings = [⟨⟨"!exec", .exec, "l1"⟩, none⟩, ⟨⟨"!logs", .logs, "l1"⟩, none⟩,
      ⟨⟨"!space", .space, "l1"⟩, none⟩] := (Except.ok.inj (congrArg Prod.fst hSparing.asked)).symm
  cases chosen with
  | nil => cases hSparing.previewed
  | cons reading chosen =>
      obtain ⟨ts, hTs, -⟩ := hSparing.stale reading List.mem_cons_self
      have hPage : reading.page = none := by
        have hMem := hSparing.sublist.subset List.mem_cons_self
        rw [hReadings] at hMem
        simp only [List.mem_cons, List.not_mem_nil, or_false] at hMem
        rcases hMem with rfl | rfl | rfl <;> rfl
      rw [hPage] at hTs
      cases hTs

end Mxdx.Core.Cleanup
