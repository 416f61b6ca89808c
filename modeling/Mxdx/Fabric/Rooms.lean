import Mxdx.Fabric.Coordinator

/-! The fabric with its rooms. Tasks are handed in in the coordinator's room and
workers report in the room that a task was routed to. The coordinator's loop syncs
every room, and goes through the events of its own. -/
namespace Mxdx.Fabric

open Automaton

/-- The events that the loop of the coordinator has a handler for. -/
inductive RoomEvent where
  | task (task : TaskEvent)
  | claim (claim : ClaimEvent)
  | heartbeat (heartbeat : HeartbeatEvent)
  | result (taskUuid : String)

namespace RoomEvent

/-- Whether an event posts a task. -/
def isTask : RoomEvent → Bool
  | task _ => true
  | _ => false

def isClaimOf (uuid : String) : RoomEvent → Bool
  | claim event => event.taskUuid = uuid
  | _ => false

def isHeartbeatOf (uuid : String) : RoomEvent → Bool
  | heartbeat event => event.taskUuid = uuid
  | _ => false

/-- Whether an event is the result of a task. -/
def isResultOf (uuid : String) : RoomEvent → Bool
  | result taskUuid => taskUuid = uuid
  | _ => false

end RoomEvent

/-- An event of a room and the moment it was posted. -/
structure Posted where
  event : RoomEvent
  moment : Nat

/-- What the handler of an event meets. -/
structure Meeting where
  now : Nat
  client : Client

namespace CoordinatorBot

/-- Each kind of event has its handler. -/
def handle (bot : CoordinatorBot) (event : RoomEvent) (meeting : Meeting) :
    Except TaskError Unit × CoordinatorBot :=
  match event with
  | .task task => bot.handleTaskEvent task meeting.now meeting.client
  | .claim claim => (.ok (), bot.handleClaimEvent claim meeting.now)
  | .heartbeat heartbeat => (.ok (), bot.handleHeartbeatEvent heartbeat meeting.now)
  | .result taskUuid => (.ok (), bot.handleResultEvent taskUuid)

/-- An error ends `run`, which is started again on the same coordinator; the rest
of the batch is lost. -/
def handleAll (bot : CoordinatorBot) : List (RoomEvent × Meeting) → CoordinatorBot
  | [] => bot
  | (event, meeting) :: rest =>
      match bot.handle event meeting with
      | (.ok (), after) => after.handleAll rest
      | (.error _, after) => after

/-- The room that a task on the watchlist was routed to. -/
def roomOf (bot : CoordinatorBot) (uuid : String) : Option String := do
  let entry ← bot.watchlist.lookup uuid
  bot.capabilityIndex.findRoom entry.task.requiredCapabilities

/-- A pass visits every entry of the watchlist once, in any order. -/
def IsPass (bot : CoordinatorBot) (checks : List EntryCheck) : Prop :=
  (checks.map EntryCheck.uuid).isPerm bot.watchlist.keys = true

instance (bot : CoordinatorBot) (checks : List EntryCheck) : Decidable (bot.IsPass checks) :=
  inferInstanceAs (Decidable (_ = true))

end CoordinatorBot

/-- The coordinator, what was posted in each room, and what of it the coordinator
has synced. -/
structure Brokerage where
  bot : CoordinatorBot
  rooms : String → List Posted
  synced : String → List Posted

/-- The loop of the coordinator is `syncOnce`, `collect` and, every ten seconds,
`check`. What a sync brings of the coordinator's room is met in order; what it
leaves out meets nothing. -/
inductive BrokerageInput where
  | post (roomId : String) (posted : Posted)
  | syncOnce
  | collect (meetings : List (Option Meeting))
  | check (checks : List EntryCheck)

namespace Brokerage

/-- Nothing has been posted or read. -/
def new (coordinatorRoomId : String) : Brokerage :=
  ⟨.new coordinatorRoomId, fun _ => [], fun _ => []⟩

/-- What was posted in the coordinator's own room since it last read. -/
def unread (brokerage : Brokerage) : List Posted :=
  let roomId := brokerage.bot.coordinatorRoomId
  (brokerage.rooms roomId).drop (brokerage.synced roomId).length

def delivered (brokerage : Brokerage) (meetings : List (Option Meeting)) :
    List (RoomEvent × Meeting) :=
  (brokerage.unread.zip meetings).filterMap fun met => met.2.map (met.1.event, ·)

/-- Posts of anybody, and the coordinator's reading. -/
def step (brokerage : Brokerage) : BrokerageInput → Brokerage
  | .post roomId posted =>
      { brokerage with
        rooms := Function.update brokerage.rooms roomId (brokerage.rooms roomId ++ [posted]) }
  | .syncOnce => { brokerage with synced := brokerage.rooms }
  | .collect meetings =>
      { brokerage with
        bot := brokerage.bot.handleAll (brokerage.delivered meetings)
        synced := brokerage.rooms }
  | .check checks => { brokerage with bot := brokerage.bot.step (.check checks) }

/-- What the coordinator has synced of the room of a task. -/
def reports (brokerage : Brokerage) (uuid : String) : List Posted :=
  (brokerage.bot.roomOf uuid).elim [] brokerage.synced

/-- A result of the task has been posted somewhere. -/
def Finished (brokerage : Brokerage) (uuid : String) : Prop :=
  ∃ posted ∈ brokerage.reports uuid, posted.event.isResultOf uuid = true

instance (brokerage : Brokerage) (uuid : String) : Decidable (brokerage.Finished uuid) :=
  inferInstanceAs (Decidable (∃ posted ∈ _, _))

/-- The task is claimed, and was last heard of no longer than two intervals ago. -/
def Beating (brokerage : Brokerage) (entry : WatchEntry) (check : EntryCheck) : Prop :=
  (∃ posted ∈ brokerage.reports check.uuid, posted.event.isClaimOf check.uuid = true) ∧
    ∃ posted ∈ brokerage.reports check.uuid, posted.event.isHeartbeatOf check.uuid = true ∧
      check.now - posted.moment ≤ fromSecs (entry.task.heartbeatIntervalSeconds * 2)

instance (brokerage : Brokerage) (entry : WatchEntry) (check : EntryCheck) :
    Decidable (brokerage.Beating entry check) := inferInstanceAs (Decidable (_ ∧ _))

/-- A finished task meets no policy, and one that is claimed and beating does not
count as unclaimed for too long. -/
structure SparesEntry (brokerage : Brokerage) (check : EntryCheck) : Prop where
  finished : brokerage.Finished check.uuid → brokerage.bot.applied check = none
  beating : ∀ entry, brokerage.bot.watchlist.lookup check.uuid = some entry →
    brokerage.Beating entry check → entry.claimedAt = none → entry.failure check.now = none

def Spares (brokerage : Brokerage) : BrokerageInput → Prop
  | .check checks => brokerage.bot.IsPass checks → ∀ check ∈ checks, brokerage.SparesEntry check
  | _ => True

/-- Workers report in other rooms than the coordinator's. -/
def Apart (brokerage : Brokerage) : BrokerageInput → Prop
  | .post roomId posted => posted.event.isTask = true ∨ roomId ≠ brokerage.bot.coordinatorRoomId
  | _ => True

instance (brokerage : Brokerage) : ∀ input, Decidable (brokerage.Apart input)
  | .post _ _ => inferInstanceAs (Decidable (_ ∨ _))
  | .syncOnce | .collect _ | .check _ => .isTrue trivial

/-- No pass finds a task on the watchlist that is finished, or claimed and beating,
when the timeout of the task has run out since it was put there. -/
def Timely (brokerage : Brokerage) : BrokerageInput → Prop
  | .check checks => brokerage.bot.IsPass checks → ∀ check ∈ checks,
      ∀ entry ∈ brokerage.bot.watchlist.lookup check.uuid,
        brokerage.Finished check.uuid ∨ brokerage.Beating entry check →
          check.now - entry.lastHeartbeat ≤ fromSecs entry.task.timeoutSeconds
  | _ => True

instance (brokerage : Brokerage) : ∀ input, Decidable (brokerage.Timely input)
  | .check _ => inferInstanceAs (Decidable (_ → ∀ check ∈ _, ∀ entry ∈ _, _ → _))
  | .post _ _ | .syncOnce | .collect _ => .isTrue trivial

end Brokerage

section Fresh

variable {bot : CoordinatorBot}

/-- Every entry is as it was put on the watchlist. -/
def CoordinatorBot.Fresh (bot : CoordinatorBot) : Prop :=
  ∀ uuid entry, bot.watchlist.lookup uuid = some entry →
    entry = .new entry.task entry.lastHeartbeat

namespace CoordinatorBot

theorem Fresh.remove (h : bot.Fresh) (uuid : String) : (bot.remove uuid).Fresh := by
  intro other entry hEntry
  by_cases hSame : other = uuid
  · rw [hSame, CoordinatorBot.remove, AList.lookup_erase] at hEntry
    cases hEntry
  · rw [CoordinatorBot.remove, AList.lookup_erase_ne hSame] at hEntry
    exact h other entry hEntry

theorem Fresh.handleTaskEvent (h : bot.Fresh) (task : TaskEvent) (now : Nat) (client : Client) :
    (bot.handleTaskEvent task now client).2.Fresh := by
  intro uuid entry hEntry
  rw [watchlist_handleTaskEvent] at hEntry
  split at hEntry
  · by_cases hSame : uuid = task.uuid
    · rw [hSame, AList.lookup_insert] at hEntry
      cases hEntry
      rfl
    · rw [AList.lookup_insert_ne hSame] at hEntry
      exact h uuid entry hEntry
  · exact h uuid entry hEntry

/-- A pass only takes entries off the watchlist and submits tasks again. -/
theorem checkWatchlist_induction {invariant : CoordinatorBot → Prop}
    (hRemove : ∀ bot uuid, invariant bot → invariant (bot.remove uuid))
    (hSubmit : ∀ bot task now client, invariant bot →
      invariant (bot.handleTaskEvent task now client).2)
    (h : invariant bot) (checks : List EntryCheck) : invariant (bot.checkWatchlist checks) := by
  apply List.foldlRecOn
  · apply List.foldlRecOn
    · exact h
    · exact fun before hBefore uuid _ => hRemove before uuid hBefore
  · exact fun before hBefore copy _ => hSubmit before copy.1 _ _ hBefore

theorem Fresh.checkWatchlist (h : bot.Fresh) (checks : List EntryCheck) :
    (bot.checkWatchlist checks).Fresh :=
  checkWatchlist_induction (fun _ uuid hBefore => hBefore.remove uuid)
    (fun _ task now client hBefore => hBefore.handleTaskEvent task now client) h checks

/-- Of the events it has handlers for, a coordinator that is given tasks only
knows of nothing but tasks. -/
theorem Fresh.handleAll {events : List (RoomEvent × Meeting)} (h : bot.Fresh)
    (hTasks : ∀ met ∈ events, met.1.isTask = true) : (bot.handleAll events).Fresh := by
  induction events generalizing bot with
  | nil => exact h
  | cons met rest ih =>
      obtain ⟨event, meeting⟩ := met
      obtain ⟨hTask, hRest⟩ := List.forall_mem_cons.mp hTasks
      cases event with
      | task task =>
          have hAfter := h.handleTaskEvent task meeting.now meeting.client
          rw [CoordinatorBot.handleAll, handle]
          split
          next after hHandled => exact ih (by rwa [hHandled] at hAfter) hRest
          next after hHandled => rwa [hHandled] at hAfter
      | _ => cases hTask

theorem roomId_checkWatchlist (checks : List EntryCheck) :
    (bot.checkWatchlist checks).coordinatorRoomId = bot.coordinatorRoomId := by
  let sameRoom (now : CoordinatorBot) : Prop := now.coordinatorRoomId = bot.coordinatorRoomId
  have hRemove : ∀ now uuid, sameRoom now → sameRoom (now.remove uuid) := fun _ _ h => h
  have hSubmit : ∀ now task clock client, sameRoom now →
      sameRoom (now.handleTaskEvent task clock client).2 :=
    fun _ _ _ _ h => roomId_handleTaskEvent.trans h
  exact checkWatchlist_induction hRemove hSubmit rfl checks

theorem roomId_modify (uuid : String) (update : WatchEntry → WatchEntry) :
    (bot.modify uuid update).coordinatorRoomId = bot.coordinatorRoomId := by
  unfold modify
  split <;> rfl

theorem roomId_handle (event : RoomEvent) (meeting : Meeting) :
    (bot.handle event meeting).2.coordinatorRoomId = bot.coordinatorRoomId := by
  cases event with
  | task task => exact roomId_handleTaskEvent
  | claim claim => exact roomId_modify ..
  | heartbeat heartbeat => exact roomId_modify ..
  | result taskUuid => rfl

theorem roomId_handleAll (events : List (RoomEvent × Meeting)) :
    (bot.handleAll events).coordinatorRoomId = bot.coordinatorRoomId := by
  induction events generalizing bot with
  | nil => rfl
  | cons met rest ih =>
      obtain ⟨event, meeting⟩ := met
      have hHandle := bot.roomId_handle event meeting
      rw [handleAll]
      split
      next after hAfter => exact ih.trans (by rw [← hHandle, hAfter])
      next after hAfter => rw [← hHandle, hAfter]

end CoordinatorBot

/-- An entry that was never heard of again is overdue when its timeout has run out. -/
theorem WatchEntry.failure_eq_none_iff {entry : WatchEntry} {now : Nat}
    (hFresh : entry = .new entry.task entry.lastHeartbeat) :
    entry.failure now = none ↔ now - entry.lastHeartbeat ≤ fromSecs entry.task.timeoutSeconds := by
  have hUnclaimed : entry.claimedAt = none := by
    rw [hFresh]
    rfl
  simp [failure, hUnclaimed]

theorem CoordinatorBot.applied_eq_none_iff {check : EntryCheck} {entry : WatchEntry}
    (hEntry : bot.watchlist.lookup check.uuid = some entry) :
    bot.applied check = none ↔ entry.failure check.now = none := by
  rw [applied_eq hEntry, Option.map_eq_none_iff]

end Fresh

namespace Brokerage

/-- Nothing that a worker has posted has come to the coordinator. -/
structure Unheard (brokerage : Brokerage) : Prop where
  fresh : brokerage.bot.Fresh
  tasks : ∀ posted ∈ brokerage.rooms brokerage.bot.coordinatorRoomId, posted.event.isTask = true

variable {brokerage : Brokerage}

/-- What is delivered was posted in the room of the coordinator. -/
theorem mem_delivered {meetings : List (Option Meeting)} {met : RoomEvent × Meeting}
    (h : met ∈ brokerage.delivered meetings) :
    ∃ posted ∈ brokerage.rooms brokerage.bot.coordinatorRoomId, posted.event = met.1 := by
  obtain ⟨⟨posted, meeting⟩, hMem, hMet⟩ := List.mem_filterMap.mp h
  obtain ⟨given, -, rfl⟩ := Option.map_eq_some_iff.mp hMet
  exact ⟨posted, List.mem_of_mem_drop (List.of_mem_zip hMem).1, rfl⟩

theorem Unheard.step (h : brokerage.Unheard) {input : BrokerageInput}
    (hApart : brokerage.Apart input) : (brokerage.step input).Unheard := by
  cases input with
  | post roomId posted =>
      refine ⟨h.fresh, ?_⟩
      intro other hOther
      by_cases hRoom : brokerage.bot.coordinatorRoomId = roomId
      · simp only [Brokerage.step, hRoom, Function.update_self, List.mem_append,
          List.mem_singleton] at hOther
        rcases hOther with hOld | rfl
        · exact h.tasks other (hRoom ▸ hOld)
        · exact hApart.resolve_right fun hNe => hNe hRoom.symm
      · simp only [Brokerage.step, Function.update_of_ne hRoom] at hOther
        exact h.tasks other hOther
  | syncOnce => exact ⟨h.fresh, h.tasks⟩
  | collect meetings =>
      constructor
      · apply h.fresh.handleAll
        intro met hMet
        obtain ⟨posted, hPosted, hEvent⟩ := mem_delivered hMet
        exact hEvent ▸ h.tasks posted hPosted
      · intro posted hPosted
        simp only [Brokerage.step, CoordinatorBot.roomId_handleAll] at hPosted
        exact h.tasks posted hPosted
  | check checks =>
      simp only [Brokerage.step, CoordinatorBot.step]
      split
      · refine ⟨h.fresh.checkWatchlist checks, ?_⟩
        simp only [CoordinatorBot.roomId_checkWatchlist]
        exact h.tasks
      · exact h

/-- Where nothing was heard, only the time since it was put on the watchlist tells
whether an entry is spared. -/
theorem sparesEntry_iff (h : brokerage.Unheard) {check : EntryCheck} :
    brokerage.SparesEntry check ↔
      ∀ entry ∈ brokerage.bot.watchlist.lookup check.uuid,
        brokerage.Finished check.uuid ∨ brokerage.Beating entry check →
          check.now - entry.lastHeartbeat ≤ fromSecs entry.task.timeoutSeconds := by
  constructor
  · intro hSpares entry hEntry hReported
    have hFresh := h.fresh check.uuid entry hEntry
    rw [← WatchEntry.failure_eq_none_iff hFresh]
    rcases hReported with hFinished | hBeating
    · exact (CoordinatorBot.applied_eq_none_iff hEntry).mp (hSpares.finished hFinished)
    · exact hSpares.beating entry hEntry hBeating (by rw [hFresh]; rfl)
  · intro hTimely
    constructor
    · intro hFinished
      cases hEntry : brokerage.bot.watchlist.lookup check.uuid with
      | none => rw [CoordinatorBot.applied, hEntry]; rfl
      | some entry =>
          rw [CoordinatorBot.applied_eq_none_iff hEntry,
            WatchEntry.failure_eq_none_iff (h.fresh check.uuid entry hEntry)]
          exact hTimely entry hEntry (.inl hFinished)
    · intro entry hEntry hBeating _
      rw [WatchEntry.failure_eq_none_iff (h.fresh check.uuid entry hEntry)]
      exact hTimely entry hEntry (.inr hBeating)

theorem spares_iff_timely (h : brokerage.Unheard) (input : BrokerageInput) :
    brokerage.Spares input ↔ brokerage.Timely input := by
  cases input with
  | check checks => exact forall_congr' fun _ => forall₂_congr fun _ _ => sparesEntry_iff h
  | _ => exact Iff.rfl

theorem unheard_new (coordinatorRoomId : String) : (new coordinatorRoomId).Unheard :=
  ⟨by simp [CoordinatorBot.Fresh, new, CoordinatorBot.new], by simp [new]⟩

/-- The coordinator reads no room that a worker reports in. A task that is worked
on is spared exactly as long as its timeout has not run out. -/
theorem spares_iff (coordinatorRoomId : String) (inputs : List BrokerageInput)
    (hApart : Admissible step Apart (new coordinatorRoomId) inputs) :
    Admissible step Spares (new coordinatorRoomId) inputs ↔
      Admissible step Timely (new coordinatorRoomId) inputs := by
  have hUnheard : Always step Unheard (new coordinatorRoomId) inputs :=
    hApart.always (fun _ _ hBefore hInput => hBefore.step hInput) (unheard_new coordinatorRoomId)
  exact hUnheard.admissible_congr fun brokerage input h => spares_iff_timely h input

def buildTask : TaskEvent :=
  ⟨"t1", "@alice:example.com", ["rust"], none, 60, 30, .respawn 1, .escalate, .brokered, false,
    .obj [("bin", .str "cargo")], none⟩

/-- A server that does whatever it is asked. -/
def willing : Client where
  isUserId _ := true
  createNamedEncryptedRoom name _ := .ok ("!" ++ name)
  inviteUser _ _ := .ok ()
  sendEvent _ _ := .ok ()

/-- The task is routed, claimed and done, and the coordinator syncs. -/
def worked : List BrokerageInput :=
  [.post "!coordinator" ⟨.task buildTask, 0⟩, .collect [some ⟨0, willing⟩],
    .post "!workers.rust" ⟨.claim ⟨"t1", "@worker:example.com", 1⟩, fromSecs 1⟩,
    .post "!workers.rust" ⟨.result "t1", fromSecs 2⟩, .syncOnce, .collect []]

def passAt (now : Nat) : EntryCheck := ⟨"t1", now, willing, now, willing⟩

theorem spares_in_time :
    Admissible step Spares (new "!coordinator") (worked ++ [.check [passAt (fromSecs 60)]]) :=
  (spares_iff "!coordinator" (worked ++ [.check [passAt (fromSecs 60)]])
    (by decide +kernel)).mpr (by decide +kernel)

/-- A minute later the task is made once more, though its result is in its room. -/
theorem not_spares :
    ¬ ∀ inputs, Admissible step Apart (new "!coordinator") inputs →
      Admissible step Spares (new "!coordinator") inputs := by
  intro h
  have hRun := h (worked ++ [.check [passAt (fromSecs 61)]]) (by decide +kernel)
  have hSpared := hRun.last (by decide +kernel) (passAt (fromSecs 61)) List.mem_cons_self
  have hApplied := hSpared.finished (by decide +kernel)
  have hRespawned : ((run step (new "!coordinator") worked).bot.applied
      (passAt (fromSecs 61))).isSome = true := by
    decide +kernel
  rw [hApplied] at hRespawned
  cases hRespawned

end Brokerage

end Mxdx.Fabric
