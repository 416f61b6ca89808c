import Mxdx.Fabric.Claim
import Mxdx.Fabric.Failure
import Mathlib.Data.List.AList

/-! The fabric coordinator. It routes every task it sees for the first time to
the room of the workers that can do it and keeps it on a watchlist; a pass over
the watchlist applies the failure policy of whatever is overdue, and hands the
copies that come out of this in again. -/
namespace Mxdx.Fabric

open Worker (FailurePolicy RoutingMode)

/-- Why a task could not be handled. -/
inductive TaskError where
  | createRoom (text : String)
  | invalidSenderId
  | inviteUser (text : String)
  | sendEvent (text : String)
deriving DecidableEq

/-- The text of the error. -/
def TaskError.message : TaskError → String
  | createRoom text => text
  | invalidSenderId => "invalid sender_id in task event"
  | inviteUser text => "invite_user failed: " ++ text
  | sendEvent text => text

/-- Worker rooms by name. -/
abbrev CapabilityIndex := String → Option String

namespace CapabilityIndex

/-- The capabilities are sorted, so that their order does not matter. -/
def capabilityRoomName (caps : List String) : String :=
  "workers." ++ String.intercalate "." (caps.mergeSort fun s t => (strCmp s t).isLE)

/-- Rooms go by their names alone. -/
def findRoom (index : CapabilityIndex) (caps : List String) : Option String :=
  index (capabilityRoomName caps)

/-- A room is made once for every name. -/
def getOrCreateRoom (index : CapabilityIndex) (caps : List String) (client : Client) :
    Except TaskError String × CapabilityIndex :=
  match index.findRoom caps with
  | some roomId => (.ok roomId, index)
  | none =>
      let roomName := capabilityRoomName caps
      let topic := "org.mxdx.fabric.workers:" ++ roomName
      match client.createNamedEncryptedRoom roomName topic with
      | .error text => (.error (.createRoom text), index)
      | .ok roomId => (.ok roomId, Function.update index roomName (some roomId))

end CapabilityIndex

/-- Short tasks go the direct way, unless the task says how. -/
def TaskEvent.effectiveMode (task : TaskEvent) : RoutingMode :=
  match task.routingMode with
  | .auto => if task.timeoutSeconds < 30 then .direct else .brokered
  | other => other

/-- The sender is invited into the room of the workers. -/
def routeDirect (task : TaskEvent) (workerRoomId : String) (client : Client) :
    Except TaskError Unit :=
  if client.isUserId task.senderId then
    (client.inviteUser workerRoomId task.senderId).mapError .inviteUser
  else .error .invalidSenderId

/-- The task is posted in the room of the workers. -/
def routeBrokered (task : TaskEvent) (workerRoomId : String) (client : Client) :
    Except TaskError Unit :=
  (client.sendEvent workerRoomId (.obj [
    ("type", .str "org.mxdx.fabric.task"), ("content", task.toValue)])).mapError .sendEvent

/-- The way that the mode asks for. -/
def route (task : TaskEvent) (workerRoomId : String) (client : Client) : Except TaskError Unit :=
  match task.effectiveMode with
  | .direct => routeDirect task workerRoomId client
  -- `effectiveMode` leaves no task on `auto`
  | .brokered | .auto => routeBrokered task workerRoomId client

/-- Moments and durations are in nanoseconds. -/
structure WatchEntry where
  task : TaskEvent
  claimedAt : Option Nat
  lastHeartbeat : Nat
  attempt : UInt8
  lastProgress : Option String

/-- A worker tells how far it has come. -/
structure HeartbeatEvent where
  taskUuid : String
  progress : Option String

/-- The attempt that a task says it is, cut to eight bits. -/
def TaskEvent.attempt (task : TaskEvent) : UInt8 := (task.payloadAttempt.getD 0).toUInt8

/-- Seconds in nanoseconds. -/
def fromSecs (secs : UInt64) : Nat := secs.toNat * 1000000000

namespace WatchEntry

/-- The entry of a task that has just been routed. -/
def new (task : TaskEvent) (now : Nat) : WatchEntry := ⟨task, none, now, task.attempt, none⟩

def failureContext (entry : WatchEntry) (reason : String) : FailureContext :=
  ⟨entry.task, reason, entry.attempt, entry.lastProgress⟩

/-- The policy to apply when the entry is overdue. The doubled interval is the
one of a build without overflow checks. -/
def failure (entry : WatchEntry) (now : Nat) : Option (FailurePolicy × FailureContext) :=
  let elapsed := now - entry.lastHeartbeat
  match entry.claimedAt with
  | none =>
      if elapsed > fromSecs entry.task.timeoutSeconds then
        some (entry.task.onTimeout, entry.failureContext
          ("unclaimed for " ++ toString entry.task.timeoutSeconds ++ "s"))
      else none
  | some _ =>
      if elapsed > fromSecs (entry.task.heartbeatIntervalSeconds * 2) then
        some (entry.task.onHeartbeatMiss, entry.failureContext "heartbeat overdue")
      else none

/-- What fails is the entry as it stands, under one of its own policies. -/
theorem failure_spec {entry : WatchEntry} {now : Nat} {policy : FailurePolicy}
    {ctx : FailureContext} (h : entry.failure now = some (policy, ctx)) :
    ctx.task = entry.task ∧ ctx.attempt = entry.attempt ∧
      (policy = entry.task.onTimeout ∨ policy = entry.task.onHeartbeatMiss) := by
  simp only [failure] at h
  split at h
  · split at h
    · cases h
      exact ⟨rfl, rfl, .inl rfl⟩
    · cases h
  · split at h
    · cases h
      exact ⟨rfl, rfl, .inr rfl⟩
    · cases h

end WatchEntry

/-- What the coordinator knows of rooms and tasks. -/
structure CoordinatorBot where
  coordinatorRoomId : String
  capabilityIndex : CapabilityIndex
  watchlist : AList fun _ : String => WatchEntry
  seenTaskUuids : List String

/-- What one entry meets on a pass: the clock, the answers to its policy, and the
clock and the answers again when its copy is handed in. -/
structure EntryCheck where
  uuid : String
  now : Nat
  client : Client
  repostNow : Nat
  repostClient : Client

/-- Everything that can happen to a coordinator. -/
inductive CoordinatorInput where
  | task (task : TaskEvent) (now : Nat) (client : Client)
  | claim (claim : ClaimEvent) (now : Nat)
  | heartbeat (heartbeat : HeartbeatEvent) (now : Nat)
  | result (taskUuid : String)
  | check (checks : List EntryCheck)

namespace CoordinatorBot

def new (coordinatorRoomId : String) : CoordinatorBot := ⟨coordinatorRoomId, fun _ => none, ∅, []⟩

/-- A task counts as seen from here on, whatever becomes of it. -/
def handleTaskEvent (bot : CoordinatorBot) (task : TaskEvent) (now : Nat) (client : Client) :
    Except TaskError Unit × CoordinatorBot :=
  if task.uuid ∈ bot.seenTaskUuids then (.ok (), bot)
  else
    let bot := { bot with seenTaskUuids := task.uuid :: bot.seenTaskUuids }
    match bot.capabilityIndex.getOrCreateRoom task.requiredCapabilities client with
    | (.error error, index) => (.error error, { bot with capabilityIndex := index })
    | (.ok workerRoomId, index) =>
        let bot := { bot with capabilityIndex := index }
        match route task workerRoomId client with
        | .error error => (.error error, bot)
        | .ok () =>
            (.ok (), { bot with watchlist := bot.watchlist.insert task.uuid (.new task now) })

/-- `get_mut` on the watchlist. -/
def modify (bot : CoordinatorBot) (uuid : String) (update : WatchEntry → WatchEntry) :
    CoordinatorBot :=
  match bot.watchlist.lookup uuid with
  | some entry => { bot with watchlist := bot.watchlist.insert uuid (update entry) }
  | none => bot

/-- Of a task that is not watched nothing is noted. -/
def handleClaimEvent (bot : CoordinatorBot) (claim : ClaimEvent) (now : Nat) : CoordinatorBot :=
  bot.modify claim.taskUuid fun entry => { entry with claimedAt := some now }

/-- A heartbeat puts off the deadline. -/
def handleHeartbeatEvent (bot : CoordinatorBot) (heartbeat : HeartbeatEvent) (now : Nat) :
    CoordinatorBot :=
  bot.modify heartbeat.taskUuid fun entry =>
    { entry with
      lastHeartbeat := now
      lastProgress := heartbeat.progress.or entry.lastProgress }

/-- A task is watched no more. -/
def remove (bot : CoordinatorBot) (uuid : String) : CoordinatorBot :=
  { bot with watchlist := bot.watchlist.erase uuid }

/-- A task with a result is done. -/
def handleResultEvent (bot : CoordinatorBot) (taskUuid : String) : CoordinatorBot :=
  bot.remove taskUuid

/-- The answer of the policy of an entry, if the entry is overdue. -/
def applied (bot : CoordinatorBot) (check : EntryCheck) :
    Option (Except String (Option TaskEvent)) := do
  let entry ← bot.watchlist.lookup check.uuid
  let (policy, ctx) ← entry.failure check.now
  return applyPolicy policy ctx check.client bot.coordinatorRoomId

def toRemove (bot : CoordinatorBot) (check : EntryCheck) : Option String :=
  match bot.applied check with
  | some (.ok _) => some check.uuid
  | _ => none

def toRepost (bot : CoordinatorBot) (check : EntryCheck) : Option (TaskEvent × EntryCheck) :=
  match bot.applied check with
  | some (.ok (some newTask)) => some (newTask, check)
  | _ => none

/-- An error is logged and forgotten. -/
def repost (bot : CoordinatorBot) (respawned : TaskEvent × EntryCheck) : CoordinatorBot :=
  (bot.handleTaskEvent respawned.1 respawned.2.repostNow respawned.2.repostClient).2

/-- Every entry is looked at before the first one is removed. -/
def checkWatchlist (bot : CoordinatorBot) (checks : List EntryCheck) : CoordinatorBot :=
  let toRemove := checks.filterMap bot.toRemove
  let toRepost := checks.filterMap bot.toRepost
  toRepost.foldl repost (toRemove.foldl remove bot)

/-- A pass visits what is on the watchlist, in any order. -/
def step (bot : CoordinatorBot) : CoordinatorInput → CoordinatorBot
  | .task task now client => (bot.handleTaskEvent task now client).2
  | .claim claim now => bot.handleClaimEvent claim now
  | .heartbeat heartbeat now => bot.handleHeartbeatEvent heartbeat now
  | .result taskUuid => bot.handleResultEvent taskUuid
  | .check checks =>
      if (checks.map EntryCheck.uuid).isPerm bot.watchlist.keys then bot.checkWatchlist checks
      else bot

/-- Room and route for a task, without a look at whether it has been seen. -/
def routed (bot : CoordinatorBot) (task : TaskEvent) (client : Client) : Except TaskError Unit := do
  let workerRoomId ← (bot.capabilityIndex.getOrCreateRoom task.requiredCapabilities client).1
  route task workerRoomId client

/-- The task is new, its room is known or can be created, and it is routed. -/
def Takes (bot : CoordinatorBot) (task : TaskEvent) (client : Client) : Prop :=
  task.uuid ∉ bot.seenTaskUuids ∧ (bot.routed task client).isOk = true

instance (bot : CoordinatorBot) (task : TaskEvent) (client : Client) :
    Decidable (bot.Takes task client) := inferInstanceAs (Decidable (_ ∧ _))

/-- What a pass does on account of one entry. -/
def settle (bot : CoordinatorBot) (check : EntryCheck) : CoordinatorBot :=
  match bot.applied check with
  | some (.ok none) => bot.remove check.uuid
  | some (.ok (some newTask)) => (bot.remove check.uuid).repost (newTask, check)
  | _ => bot

variable {bot : CoordinatorBot} {task : TaskEvent} {now : Nat} {client : Client} {uuid : String}
  {check : EntryCheck}

theorem applied_eq {entry : WatchEntry} (hEntry : bot.watchlist.lookup check.uuid = some entry) :
    bot.applied check = (entry.failure check.now).map fun failed =>
      applyPolicy failed.1 failed.2 check.client bot.coordinatorRoomId := by
  rw [applied, hEntry]
  show (entry.failure check.now).bind _ = _
  cases entry.failure check.now <;> rfl

/-- A copy comes from an overdue entry with an attempt to go. -/
theorem applied_eq_copy_iff {entry : WatchEntry} {copy : TaskEvent}
    (hEntry : bot.watchlist.lookup check.uuid = some entry) :
    bot.applied check = some (.ok (some copy)) ↔
      ∃ policy ctx, entry.failure check.now = some (policy, ctx) ∧
        ctx.attempt < policy.retryLimit ∧ copy = copyFor policy ctx := by
  rw [applied_eq hEntry, Option.map_eq_some_iff]
  simp only [applyPolicy_eq_some_iff, Prod.exists]

/-- Everything a task event does to the coordinator. -/
theorem handleTaskEvent_cases :
    (task.uuid ∈ bot.seenTaskUuids ∧ (bot.handleTaskEvent task now client).2 = bot) ∨
    ∃ index, task.uuid ∉ bot.seenTaskUuids ∧
      (bot.handleTaskEvent task now client).2 =
        { bot with
          seenTaskUuids := task.uuid :: bot.seenTaskUuids
          capabilityIndex := index
          watchlist := if bot.Takes task client then
            bot.watchlist.insert task.uuid (.new task now) else bot.watchlist } := by
  by_cases hSeen : task.uuid ∈ bot.seenTaskUuids
  · left
    exact ⟨hSeen, by rw [handleTaskEvent, if_pos hSeen]⟩
  · right
    rw [handleTaskEvent, if_neg hSeen]
    dsimp only
    rcases hRoom : bot.capabilityIndex.getOrCreateRoom task.requiredCapabilities client with
      ⟨error | workerRoomId, index⟩
    · have hNot : ¬ bot.Takes task client := by
        simp [Takes, routed, hRoom, bind, Except.bind, Except.isOk, Except.toBool]
      exact ⟨index, hSeen, by rw [if_neg hNot]⟩
    · have hRouted : bot.routed task client = route task workerRoomId client := by
        rw [routed, hRoom]
        rfl
      refine ⟨index, hSeen, ?_⟩
      dsimp only
      cases hRoute : route task workerRoomId client with
      | error error =>
          have hNot : ¬ bot.Takes task client := by
            simp [Takes, hRouted, hRoute, Except.isOk, Except.toBool]
          rw [if_neg hNot]
      | ok =>
          have hTakes : bot.Takes task client := by
            simp [Takes, hSeen, hRouted, hRoute, Except.isOk, Except.toBool]
          rw [if_pos hTakes]

theorem watchlist_handleTaskEvent (bot : CoordinatorBot) (task : TaskEvent) (now : Nat)
    (client : Client) :
    (bot.handleTaskEvent task now client).2.watchlist =
      if bot.Takes task client then bot.watchlist.insert task.uuid (.new task now)
      else bot.watchlist := by
  rcases bot.handleTaskEvent_cases with ⟨hSeen, hAfter⟩ | ⟨index, -, hAfter⟩
  · rw [hAfter, if_neg fun hTakes => hTakes.1 hSeen]
  · rw [hAfter]

theorem mem_seen_handleTaskEvent :
    uuid ∈ (bot.handleTaskEvent task now client).2.seenTaskUuids ↔
      uuid = task.uuid ∨ uuid ∈ bot.seenTaskUuids := by
  rcases bot.handleTaskEvent_cases with ⟨hSeen, hAfter⟩ | ⟨index, -, hAfter⟩
  · rw [hAfter]
    exact ⟨.inr, fun h => h.elim (fun hSame => hSame ▸ hSeen) id⟩
  · rw [hAfter, List.mem_cons]

theorem roomId_handleTaskEvent :
    (bot.handleTaskEvent task now client).2.coordinatorRoomId = bot.coordinatorRoomId := by
  rcases bot.handleTaskEvent_cases with ⟨-, hAfter⟩ | ⟨index, -, hAfter⟩ <;> rw [hAfter]

theorem erase_insert_comm (watchlist : AList fun _ : String => WatchEntry) (entry : WatchEntry)
    (hNe : uuid ≠ task.uuid) :
    (watchlist.erase uuid).insert task.uuid entry =
      (watchlist.insert task.uuid entry).erase uuid := by
  apply AList.ext
  show ⟨task.uuid, entry⟩ :: List.kerase task.uuid (List.kerase uuid watchlist.entries) =
    List.kerase uuid (⟨task.uuid, entry⟩ :: List.kerase task.uuid watchlist.entries)
  rw [List.kerase_cons_ne hNe, List.kerase_comm]

/-- A task that was seen before may be removed first or last: nothing that is
handed in takes its place. -/
theorem repost_remove (hSeen : uuid ∈ bot.seenTaskUuids) (respawned : TaskEvent × EntryCheck) :
    (bot.remove uuid).repost respawned = (bot.repost respawned).remove uuid := by
  obtain ⟨task, check⟩ := respawned
  by_cases hKnown : task.uuid ∈ bot.seenTaskUuids
  · simp [repost, handleTaskEvent, remove, hKnown]
  · have hNe : uuid ≠ task.uuid := by
      rintro rfl
      exact hKnown hSeen
    simp only [repost, handleTaskEvent, remove, hKnown, if_false]
    split
    · rfl
    · split
      · rfl
      · simp only [erase_insert_comm _ _ hNe]

theorem lookup_repost (bot : CoordinatorBot) (respawned : TaskEvent × EntryCheck)
    (hSeen : uuid ∈ bot.seenTaskUuids) :
    (bot.repost respawned).watchlist.lookup uuid = bot.watchlist.lookup uuid := by
  rw [repost, watchlist_handleTaskEvent]
  split
  next hTakes =>
    apply AList.lookup_insert_ne
    rintro rfl
    exact hTakes.1 hSeen
  · rfl

theorem seen_repost (bot : CoordinatorBot) (respawned : TaskEvent × EntryCheck)
    (hSeen : uuid ∈ bot.seenTaskUuids) :
    uuid ∈ (bot.repost respawned).seenTaskUuids :=
  mem_seen_handleTaskEvent.mpr (.inr hSeen)

theorem seen_settle (hSeen : uuid ∈ bot.seenTaskUuids) :
    uuid ∈ (bot.settle check).seenTaskUuids := by
  unfold settle
  split
  · exact hSeen
  · exact seen_repost (bot.remove check.uuid) _ hSeen
  · exact hSeen

/-- What is done for one entry does not touch another. -/
theorem applied_settle {other : EntryCheck} (hNe : other.uuid ≠ check.uuid)
    (hSeen : other.uuid ∈ bot.seenTaskUuids) :
    (bot.settle check).applied other = bot.applied other := by
  have hApplied : ∀ after : CoordinatorBot, after.coordinatorRoomId = bot.coordinatorRoomId →
      after.watchlist.lookup other.uuid = bot.watchlist.lookup other.uuid →
      after.applied other = bot.applied other := by
    intro after hRoom hLookup
    rw [applied, applied, hRoom, hLookup]
  have hRemoved : (bot.remove check.uuid).watchlist.lookup other.uuid =
      bot.watchlist.lookup other.uuid := AList.lookup_erase_ne hNe
  unfold settle
  split
  · exact hApplied _ rfl hRemoved
  · apply hApplied
    · exact roomId_handleTaskEvent
    · rw [lookup_repost (bot.remove check.uuid) _ hSeen]
      exact hRemoved
  · rfl

theorem foldl_remove_repost (bot : CoordinatorBot) (respawned : TaskEvent × EntryCheck)
    {uuids : List String} (hSeen : ∀ uuid ∈ uuids, uuid ∈ bot.seenTaskUuids) :
    (uuids.foldl remove bot).repost respawned = uuids.foldl remove (bot.repost respawned) := by
  induction uuids generalizing bot with
  | nil => rfl
  | cons uuid uuids ih =>
      obtain ⟨hFirst, hRest⟩ := List.forall_mem_cons.mp hSeen
      have hNext := ih (bot.remove uuid) hRest
      rw [List.foldl_cons, List.foldl_cons, hNext, repost_remove hFirst]

/-- Removing all before handing in the first copy comes to the same as taking one
entry after the other. -/
theorem foldl_repost_eq_run {start : CoordinatorBot} {checks : List EntryCheck}
    (hSeen : ∀ check ∈ checks, check.uuid ∈ bot.seenTaskUuids)
    (hNodup : (checks.map EntryCheck.uuid).Nodup)
    (hSame : ∀ check ∈ checks, bot.applied check = start.applied check) :
    (checks.filterMap start.toRepost).foldl repost
        ((checks.filterMap start.toRemove).foldl remove bot) =
      Automaton.run settle bot checks := by
  induction checks generalizing bot with
  | nil => rfl
  | cons check checks ih =>
      obtain ⟨hFirst, hRest⟩ := List.forall_mem_cons.mp hSeen
      obtain ⟨hNew, hNodup⟩ := List.nodup_cons.mp hNodup
      have hStill : ∀ other ∈ checks, (bot.settle check).applied other = start.applied other := by
        intro other hOther
        have hNe : other.uuid ≠ check.uuid := fun hEq => hNew (hEq ▸ List.mem_map_of_mem hOther)
        rw [applied_settle hNe (hRest other hOther)]
        exact hSame other (List.mem_cons_of_mem _ hOther)
      have hNext := @ih (bot.settle check) (fun other hOther => seen_settle (hRest other hOther))
        hNodup hStill
      have hApplied := hSame check List.mem_cons_self
      have hRemovals : ∀ uuid ∈ checks.filterMap start.toRemove, uuid ∈ bot.seenTaskUuids := by
        intro uuid hMem
        obtain ⟨other, hOther, hUuid⟩ := List.mem_filterMap.mp hMem
        unfold toRemove at hUuid
        split at hUuid
        · cases hUuid
          exact hRest other hOther
        · cases hUuid
      rw [Automaton.run_cons, ← hNext, List.filterMap_cons, List.filterMap_cons]
      simp only [settle, toRemove, toRepost, hApplied]
      rcases start.applied check with _ | (text | (_ | copy))
      · rfl
      · rfl
      · rfl
      · dsimp only
        rw [List.foldl_cons, List.foldl_cons,
          foldl_remove_repost (bot.remove check.uuid) _ hRemovals]

/-- A pass settles the entries one by one. -/
theorem checkWatchlist_eq_run {checks : List EntryCheck}
    (hSeen : ∀ uuid ∈ bot.watchlist, uuid ∈ bot.seenTaskUuids)
    (hVisits : (checks.map EntryCheck.uuid).isPerm bot.watchlist.keys = true) :
    bot.checkWatchlist checks = Automaton.run settle bot checks := by
  have hPerm := List.isPerm_iff.mp hVisits
  refine foldl_repost_eq_run (fun check hCheck => hSeen _ ?_)
    (hPerm.nodup_iff.mpr bot.watchlist.keys_nodup) fun _ _ => rfl
  exact hPerm.subset (List.mem_map_of_mem hCheck)

end CoordinatorBot

end Mxdx.Fabric
