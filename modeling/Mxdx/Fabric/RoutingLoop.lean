import Mxdx.Fabric.Journal
import Mxdx.Fabric.Redelivery
import Mxdx.Fabric.WorkerClient
import Mathlib.Algebra.Group.Nat.Defs

/-! The loop of the coordinator over the events of its room. Contents that do not parse
are skipped; a task that parses and cannot be routed ends the loop. The homeserver answers
every request here, so that whatever goes wrong comes from the events. -/
namespace Mxdx.Fabric

open Automaton
open Worker (Value asUInt64 asUnitVariant textField)

def ClaimEvent.fieldNames : List String := ["task_uuid", "worker_id", "claimed_at"]

def ClaimEvent.fromValue : Value → Option ClaimEvent :=
  Json.asRecord fieldNames fieldNames.length fun field => do
    let taskUuid ← Json.required Json.asStr (field "task_uuid")
    let workerId ← Json.required Json.asStr (field "worker_id")
    let claimedAt ← Json.required asUInt64 (field "claimed_at")
    return ⟨taskUuid, workerId, claimedAt.toNat⟩

def HeartbeatEvent.fieldNames : List String := ["task_uuid", "worker_id", "progress", "timestamp"]

/-- All fields have to be there; the coordinator keeps two of them. -/
def HeartbeatEvent.fromValue : Value → Option HeartbeatEvent :=
  Json.asRecord fieldNames fieldNames.length fun field => do
    let taskUuid ← Json.required Json.asStr (field "task_uuid")
    let _ ← Json.required Json.asStr (field "worker_id")
    let progress ← Json.nullable Json.asStr (field "progress")
    let _ ← Json.required asUInt64 (field "timestamp")
    return ⟨taskUuid, progress⟩

/-- The names are in lower case on the wire. -/
def TaskStatus.fromValue : Value → Option TaskStatus :=
  asUnitVariant [("success", .success), ("failed", .failed), ("timeout", .timeout),
    ("cancelled", .cancelled)]

def TaskResultEvent.fieldNames : List String :=
  ["task_uuid", "worker_id", "status", "output", "error", "duration_seconds"]

/-- The task of a result that parses; the coordinator looks at nothing else. -/
def TaskResultEvent.uuidFromValue : Value → Option String :=
  Json.asRecord fieldNames fieldNames.length fun field => do
    let taskUuid ← Json.required Json.asStr (field "task_uuid")
    let _ ← Json.required Json.asStr (field "worker_id")
    let _ ← Json.required TaskStatus.fromValue (field "status")
    let _ ← Json.nullable some (field "output")
    let _ ← Json.nullable Json.asStr (field "error")
    let _ ← Json.required asUInt64 (field "duration_seconds")
    return taskUuid

/-- The coordinator with its journal, the error that `run` has returned, if any, and whether
an interval has been doubled past 64 bits. -/
structure RoutingLoop where
  journal : Journal
  lastBackstopCheck : Nat
  returned : Option TaskError
  overflowed : Bool

/-- What one entry of the watchlist meets on a pass: the clock, the clock when its copy is
handed in, and the room that is created for the copy if one is needed. -/
structure RoutingCheck where
  uuid : String
  now : Nat
  repostNow : Nat
  createdRoomId : String

/-- An event that a sync brings, with the clock and the room that is created for it if one
is needed; and the end of a round, where a pass over the watchlist may be due. -/
inductive RoutingInput where
  | event (raw : Value) (now : Nat) (createdRoomId : String)
  | roundEnd (now : Nat) (checks : List RoutingCheck) (resetAt : Nat)

/-- A client whose requests all succeed. -/
def succeeding (isUserId : String → Bool) (createdRoomId : String) : Client where
  isUserId
  createNamedEncryptedRoom _ _ := .ok createdRoomId
  inviteUser _ _ := .ok ()
  sendEvent _ _ := .ok ()

namespace RoutingLoop

def new (coordinatorRoomId : String) (now : Nat) : RoutingLoop :=
  ⟨.new coordinatorRoomId, now, none, false⟩

/-- The watchlist is looked through every ten seconds. -/
def backstopInterval : Nat := 10000000000

variable (isUserId : String → Bool)

/-- An error of the handler ends `run`. -/
def onTask (loop : RoutingLoop) (task : TaskEvent) (now : Nat) (createdRoomId : String) :
    RoutingLoop :=
  let client := succeeding isUserId createdRoomId
  let returned :=
    match (loop.journal.bot.handleTaskEvent task now client).1 with
    | .error error => some error
    | .ok () => none
  { loop with journal := loop.journal.step (.task task now client), returned }

/-- An event without a content is passed over. -/
def onEvent (loop : RoutingLoop) (raw : Value) (now : Nat) (createdRoomId : String) :
    RoutingLoop :=
  match raw.get? "content" with
  | none => loop
  | some content =>
      let eventType := textField raw "type"
      if eventType = "org.mxdx.fabric.task" then
        match TaskEvent.fromValue content with
        | some task => loop.onTask isUserId task now createdRoomId
        | none => loop
      else if eventType = "org.mxdx.fabric.claim" then
        match ClaimEvent.fromValue content with
        | some claim => { loop with journal := loop.journal.step (.claim claim now) }
        | none => loop
      else if eventType = "org.mxdx.fabric.heartbeat" then
        match HeartbeatEvent.fromValue content with
        | some heartbeat => { loop with journal := loop.journal.step (.heartbeat heartbeat now) }
        | none => loop
      else if eventType = "org.mxdx.fabric.result" then
        match TaskResultEvent.uuidFromValue content with
        | some taskUuid => { loop with journal := loop.journal.step (.result taskUuid) }
        | none => loop
      else loop

/-- `heartbeat_interval_seconds * 2` of a claimed entry does not fit into 64 bits. -/
def doubleOverflows (entry : WatchEntry) : Bool :=
  entry.claimedAt.isSome && decide (2 ^ 64 ≤ entry.task.heartbeatIntervalSeconds.toNat * 2)

def entryCheck (check : RoutingCheck) : EntryCheck :=
  let client := succeeding isUserId check.createdRoomId
  ⟨check.uuid, check.now, client, check.repostNow, client⟩

/-- Between two looks the interval has to pass. -/
def onRoundEnd (loop : RoutingLoop) (now : Nat) (checks : List RoutingCheck) (resetAt : Nat) :
    RoutingLoop :=
  if backstopInterval ≤ now - loop.lastBackstopCheck then
    { loop with
      journal := loop.journal.step (.check (checks.map (entryCheck isUserId)))
      lastBackstopCheck := resetAt
      overflowed := loop.overflowed ||
        loop.journal.bot.watchlist.entries.any fun entry => doubleOverflows entry.2 }
  else loop

/-- After an error `run` is over. -/
def step (loop : RoutingLoop) (input : RoutingInput) : RoutingLoop :=
  if loop.returned.isSome then loop
  else
    match input with
    | .event raw now createdRoomId => loop.onEvent isUserId raw now createdRoomId
    | .roundEnd now checks resetAt => loop.onRoundEnd isUserId now checks resetAt

/-- The task of an event, if the event is one of a task and parses. -/
def taskOf (raw : Value) : Option TaskEvent :=
  if textField raw "type" = "org.mxdx.fabric.task" then
    (raw.get? "content").bind TaskEvent.fromValue
  else none

end RoutingLoop

/-- A sender that is to be invited is a user id. -/
def TaskEvent.SenderValid (isUserId : String → Bool) (task : TaskEvent) : Prop :=
  task.effectiveMode = .direct → isUserId task.senderId = true

/-- The task that was routed and put on the watchlist by an act. -/
def Act.taken? : Act → Option TaskEvent
  | .watch entry => some entry.task
  | .respawn _ copy true => some copy
  | _ => none

/-- The uuids of all tasks that were ever routed and put on the watchlist. -/
def Journal.entered (journal : Journal) : List String :=
  (journal.log.filterMap Act.taken?).map TaskEvent.uuid

namespace RoutingLoop

variable (isUserId : String → Bool)

/-- The events neither end the loop nor make it overflow, and every task that is well-formed
has been routed and put on the watchlist. -/
structure Robust (coordinatorRoomId : String) (now : Nat) (inputs : List RoutingInput) :
    Prop where
  returned : (run (step isUserId) (new coordinatorRoomId now) inputs).returned = none
  overflowed : (run (step isUserId) (new coordinatorRoomId now) inputs).overflowed = false
  attempts : ∀ entry copy watched, Act.respawn entry copy watched ∈
    (run (step isUserId) (new coordinatorRoomId now) inputs).journal.log →
      entry.attempt.toNat + 1 < 2 ^ 8
  entered : ∀ raw clock createdRoomId, .event raw clock createdRoomId ∈ inputs →
    ∀ task, taskOf raw = some task → task.SenderValid isUserId →
      task.uuid ∈ (run (step isUserId) (new coordinatorRoomId now) inputs).journal.entered

/-- No task that is new to the coordinator has a sender whom it cannot invite; and at no
pass is there a claimed task whose interval does not fit into 63 bits. -/
def Harmless (loop : RoutingLoop) : RoutingInput → Prop
  | .event raw _ _ => ∀ task, taskOf raw = some task →
      task.uuid ∉ loop.journal.bot.seenTaskUuids → task.SenderValid isUserId
  | .roundEnd now _ _ => backstopInterval ≤ now - loop.lastBackstopCheck →
      ∀ uuid entry, loop.journal.bot.watchlist.lookup uuid = some entry →
        entry.claimedAt.isSome → entry.task.heartbeatIntervalSeconds.toNat < 2 ^ 63

end RoutingLoop

section Routing

variable {isUserId : String → Bool} {bot : CoordinatorBot} {task : TaskEvent} {room : String}

theorem CoordinatorBot.answered_succeeding_iff :
    bot.Answered task (succeeding isUserId room) ↔ task.SenderValid isUserId := by
  have hRoutable : ∀ workerRoomId,
      task.Routable workerRoomId (succeeding isUserId room) ↔ task.SenderValid isUserId := by
    intro workerRoomId
    unfold TaskEvent.Routable TaskEvent.SenderValid
    cases task.effectiveMode <;> simp [succeeding, Except.isOk, Except.toBool]
  have hProvides : ∃ workerRoomId, bot.capabilityIndex.Provides task.requiredCapabilities
      (succeeding isUserId room) workerRoomId := by
    unfold CapabilityIndex.Provides
    cases bot.capabilityIndex.findRoom task.requiredCapabilities with
    | some known => exact ⟨known, rfl⟩
    | none => exact ⟨room, rfl⟩
  constructor
  · rintro ⟨workerRoomId, -, hRoute⟩
    exact (hRoutable workerRoomId).mp hRoute
  · intro hSender
    obtain ⟨workerRoomId, hRoom⟩ := hProvides
    exact ⟨workerRoomId, hRoom, (hRoutable workerRoomId).mpr hSender⟩

/-- With every request answered, a new task is taken unless its sender cannot be invited. -/
theorem CoordinatorBot.takes_succeeding_iff :
    bot.Takes task (succeeding isUserId room) ↔
      task.uuid ∉ bot.seenTaskUuids ∧ task.SenderValid isUserId := by
  rw [Takes, isOk_routed_iff, answered_succeeding_iff]

theorem senderValid_copyFor {policy : Worker.FailurePolicy} {ctx : FailureContext} :
    (copyFor policy ctx).SenderValid isUserId ↔ ctx.task.SenderValid isUserId := by
  cases policy <;> exact Iff.rfl

/-- An entry stays as it is, or makes way for a message, or for its copy. -/
theorem CoordinatorBot.settle_cases (bot : CoordinatorBot) (check : EntryCheck) :
    (bot.settleAct check = none ∧ bot.settle check = bot) ∨
    (bot.settleAct check = some (.notice check.uuid) ∧
      bot.settle check = bot.remove check.uuid) ∨
    ∃ entry copy,
      bot.settleAct check = some (.respawn entry copy (bot.Takes copy check.repostClient)) ∧
        bot.applied check = some (.ok (some copy)) ∧
          bot.settle check = (bot.remove check.uuid).repost (copy, check) := by
  cases hEntry : bot.watchlist.lookup check.uuid with
  | none =>
      have hApplied : bot.applied check = none := by rw [applied, hEntry]; rfl
      exact .inl (by simp [settleAct, settle, hEntry, hApplied])
  | some entry =>
      rcases hApplied : bot.applied check with _ | (text | (_ | copy))
      · exact .inl (by simp [settleAct, settle, hEntry, hApplied])
      · exact .inl (by simp [settleAct, settle, hEntry, hApplied])
      · exact .inr (.inl (by simp [settleAct, settle, hEntry, hApplied]))
      · exact .inr (.inr ⟨entry, copy, by simp [settleAct, settle, hEntry, hApplied]⟩)

theorem hold_eq_some {held : String → Option TaskEvent} {act : Act} {uuid : String}
    (h : act.hold held uuid = some task) : held uuid = some task ∨ act.taken? = some task := by
  have hUpdate : ∀ (before : String → Option TaskEvent) (key : String) (value : Option TaskEvent),
      Function.update before key value uuid = some task →
        before uuid = some task ∨ value = some task := by
    intro before key value hUpdated
    rw [Function.update_apply] at hUpdated
    split at hUpdated
    · exact .inr hUpdated
    · exact .inl hUpdated
  cases act with
  | watch entry => exact hUpdate _ _ _ h
  | finish gone => exact (hUpdate _ _ _ h).imp_right nofun
  | notice gone => exact (hUpdate _ _ _ h).imp_right nofun
  | respawn entry copy watched =>
      cases watched with
      | true =>
          rcases hUpdate _ _ _ h with hBefore | hCopy
          · exact (hUpdate _ _ _ hBefore).imp_right nofun
          · exact .inr hCopy
      | false => exact (hUpdate _ _ _ h).imp_right nofun

/-- Every task that was seen was taken, and whoever has to be invited for a watched task
can be. -/
structure Journal.Kept (isUserId : String → Bool) (journal : Journal) : Prop where
  sound : journal.bot.Sound
  sender : ∀ uuid task, journal.bot.held uuid = some task → task.SenderValid isUserId
  entered : ∀ uuid ∈ journal.bot.seenTaskUuids, uuid ∈ journal.entered
  attempts : ∀ entry copy watched, Act.respawn entry copy watched ∈ journal.log →
    entry.attempt.toNat + 1 < 2 ^ 8

theorem Journal.entered_append (log : List Act) (act : Option Act) (after : CoordinatorBot) :
    Journal.entered ⟨after, log ++ act.toList⟩ =
      Journal.entered ⟨bot, log⟩ ++ ((act.bind Act.taken?).map TaskEvent.uuid).toList := by
  rw [entered, List.filterMap_append, List.map_append]
  cases act with
  | none => rfl
  | some done => cases hTaken : done.taken? <;> simp [entered, hTaken]

namespace Journal.Kept

variable {log : List Act} {act : Option Act} {after : CoordinatorBot} {uuid : String}

theorem start (coordinatorRoomId : String) : (new coordinatorRoomId).Kept isUserId := by
  refine ⟨sound_new coordinatorRoomId, ?_, ?_, ?_⟩
  · simp [new, CoordinatorBot.new, CoordinatorBot.held]
  · simp [new, CoordinatorBot.new]
  · simp [new]

/-- What is seen anew is taken with the act, and has a sender who can be invited. -/
theorem onEffect (h : Kept isUserId ⟨bot, log⟩) (hEffect : bot.Effect act after)
    (hSeen : ∀ uuid ∈ after.seenTaskUuids,
      uuid ∈ bot.seenTaskUuids ∨ (act.bind Act.taken?).map TaskEvent.uuid = some uuid)
    (hSender : ∀ task, act.bind Act.taken? = some task → task.SenderValid isUserId) :
    Kept isUserId ⟨after, log ++ act.toList⟩ := by
  refine ⟨hEffect.sound, ?_, ?_, ?_⟩
  · intro uuid task hHeld
    have hAfter : after.held uuid = some task := hHeld
    rw [hEffect.held] at hAfter
    cases act with
    | none => exact h.sender uuid task hAfter
    | some done =>
        rcases hold_eq_some hAfter with hBefore | hTaken
        · exact h.sender uuid task hBefore
        · exact hSender task hTaken
  · intro uuid hUuid
    rw [@entered_append bot, List.mem_append]
    exact (hSeen uuid hUuid).imp (h.entered uuid) fun hTaken => by rw [hTaken]; simp
  · intro entry copy watched hMem
    rcases List.mem_append.mp hMem with hOld | hNew
    · exact h.attempts entry copy watched hOld
    · have hAllowed := hEffect.allowed _ (Option.mem_toList.mp hNew)
      have hSucc := hAllowed.2.1.succ
      have hBound := (entry.attempt + 1).toNat_lt
      omega

theorem onModify (h : Kept isUserId ⟨bot, log⟩) {update : WatchEntry → WatchEntry}
    (hTask : ∀ entry, (update entry).task = entry.task)
    (hAttempt : ∀ entry, (update entry).attempt = entry.attempt) :
    Kept isUserId ⟨bot.modify uuid update, log ++ []⟩ := by
  have hSeen : (bot.modify uuid update).seenTaskUuids = bot.seenTaskUuids := by
    unfold CoordinatorBot.modify
    split <;> rfl
  refine h.onEffect (h.sound.effect_modify hTask hAttempt) (fun other hOther => ?_)
    fun _ hTaken => nomatch hTaken
  rw [hSeen] at hOther
  exact .inl hOther

theorem onResult (h : Kept isUserId ⟨bot, log⟩) :
    Kept isUserId ⟨bot.handleResultEvent uuid,
      log ++ if uuid ∈ bot.watchlist then [Act.finish uuid] else []⟩ := by
  rw [← toList_ite]
  refine h.onEffect h.sound.effect_result (fun other hOther => .inl hOther) fun task hTaken => ?_
  split at hTaken <;> cases hTaken

/-- A task that is new, and whose sender can be invited if need be, is taken. -/
theorem onTask (h : Kept isUserId ⟨bot, log⟩) (now : Nat)
    (hFits : task.uuid ∉ bot.seenTaskUuids → task.SenderValid isUserId) :
    Kept isUserId ⟨(bot.handleTaskEvent task now (succeeding isUserId room)).2,
      log ++ if bot.Takes task (succeeding isUserId room) then [Act.watch (.new task now)]
        else []⟩ := by
  rw [← toList_ite]
  refine h.onEffect (h.sound.effect_handleTaskEvent task now _) (fun other hOther => ?_)
    fun taken hTaken => ?_
  · rcases CoordinatorBot.mem_seen_handleTaskEvent.mp hOther with rfl | hOld
    · by_cases hSeen : task.uuid ∈ bot.seenTaskUuids
      · exact .inl hSeen
      · rw [if_pos (CoordinatorBot.takes_succeeding_iff.mpr ⟨hSeen, hFits hSeen⟩)]
        exact .inr rfl
    · exact .inl hOld
  · split at hTaken
    next hTakes =>
      cases hTaken
      exact (CoordinatorBot.takes_succeeding_iff.mp hTakes).2
    · cases hTaken

/-- A copy has the sender of the task it was made of. -/
theorem senderValid_of_applied (h : Kept isUserId ⟨bot, log⟩) {check : EntryCheck}
    {copy : TaskEvent} (hApplied : bot.applied check = some (.ok (some copy))) :
    copy.SenderValid isUserId := by
  cases hEntry : bot.watchlist.lookup check.uuid with
  | none =>
      rw [CoordinatorBot.applied, hEntry] at hApplied
      cases hApplied
  | some entry =>
      obtain ⟨policy, ctx, hFailure, -, rfl⟩ :=
        (CoordinatorBot.applied_eq_copy_iff hEntry).mp hApplied
      rw [senderValid_copyFor, (WatchEntry.failure_spec hFailure).1]
      exact h.sender check.uuid entry.task
        (CoordinatorBot.held_eq_some_iff.mpr ⟨entry, hEntry, rfl⟩)

/-- What a pass does on account of one entry. -/
theorem onSettle (h : Kept isUserId ⟨bot, log⟩) {check : EntryCheck}
    (hClient : check.repostClient = succeeding isUserId room) :
    Kept isUserId ⟨bot.settle check, log ++ (bot.settleAct check).toList⟩ := by
  have hEffect := h.sound.effect_settle check
  rcases bot.settle_cases check with
    ⟨hAct, hSettle⟩ | ⟨hAct, hSettle⟩ | ⟨entry, copy, hAct, hApplied, hSettle⟩
  · rw [hAct, hSettle] at hEffect ⊢
    exact h.onEffect hEffect (fun other hOther => .inl hOther) fun _ hIs => nomatch hIs
  · rw [hAct, hSettle] at hEffect ⊢
    exact h.onEffect hEffect (fun other hOther => .inl hOther) fun _ hIs => nomatch hIs
  · have hSender := h.senderValid_of_applied hApplied
    have hTaken : ((some (Act.respawn entry copy (bot.Takes copy check.repostClient))).bind
        Act.taken?) = if bot.Takes copy check.repostClient then some copy else none := by
      by_cases hTakes : bot.Takes copy check.repostClient <;> simp [hTakes, Act.taken?]
    rw [hAct, hSettle] at hEffect ⊢
    refine h.onEffect hEffect (fun other hOther => ?_) fun taken hIs => ?_
    · rcases CoordinatorBot.mem_seen_handleTaskEvent.mp hOther with rfl | hOld
      · by_cases hSeen : copy.uuid ∈ bot.seenTaskUuids
        · exact .inl hSeen
        · rw [hTaken, hClient,
            if_pos (CoordinatorBot.takes_succeeding_iff.mpr ⟨hSeen, hSender⟩)]
          exact .inr rfl
      · exact .inl hOld
    · rw [hTaken] at hIs
      split at hIs
      · cases hIs
        exact hSender
      · cases hIs

/-- A pass over the watchlist, in any order. -/
theorem onPass (h : Kept isUserId ⟨bot, log⟩) (checks : List RoutingCheck) :
    Kept isUserId ⟨run CoordinatorBot.settle bot (checks.map (RoutingLoop.entryCheck isUserId)),
      log ++ bot.passActs (checks.map (RoutingLoop.entryCheck isUserId))⟩ := by
  induction checks generalizing bot log with
  | nil => simpa [CoordinatorBot.passActs] using h
  | cons check checks ih =>
      rw [List.map_cons, run_cons, CoordinatorBot.passActs, ← List.append_assoc]
      exact ih (h.onSettle rfl)

theorem onCheck {journal : Journal} (h : journal.Kept isUserId) (checks : List RoutingCheck) :
    (journal.step (.check (checks.map (RoutingLoop.entryCheck isUserId)))).Kept isUserId := by
  rw [Journal.step, CoordinatorBot.step, CoordinatorBot.acts]
  split
  next hVisits =>
    rw [CoordinatorBot.checkWatchlist_eq_run h.sound.seen hVisits]
    exact h.onPass checks
  · rw [List.append_nil]
    exact h

end Journal.Kept

end Routing

namespace RoutingLoop

variable {isUserId : String → Bool} {loop : RoutingLoop} {raw : Value} {now : Nat}
  {createdRoomId : String} {input : RoutingInput}

theorem onEvent_of_task {task : TaskEvent} (hTask : taskOf raw = some task) :
    loop.onEvent isUserId raw now createdRoomId = loop.onTask isUserId task now createdRoomId := by
  unfold taskOf at hTask
  split at hTask
  next hType =>
    obtain ⟨content, hContent, hParse⟩ := Option.bind_eq_some_iff.mp hTask
    simp only [onEvent, hContent, hType, if_true, hParse]
  · cases hTask

/-- An event of anything but a task leaves the loop going. -/
theorem onEvent_of_none (isUserId : String → Bool) (loop : RoutingLoop) (now : Nat)
    (createdRoomId : String) (hTask : taskOf raw = none) :
    ∃ journal, loop.onEvent isUserId raw now createdRoomId = { loop with journal } ∧
      loop.journal.log <+: journal.log ∧
        (loop.journal.Kept isUserId → journal.Kept isUserId) := by
  have hStay : ∃ journal, loop = { loop with journal } ∧ loop.journal.log <+: journal.log ∧
      (loop.journal.Kept isUserId → journal.Kept isUserId) :=
    ⟨loop.journal, rfl, List.prefix_refl _, id⟩
  unfold onEvent
  cases hContent : raw.get? "content" with
  | none => exact hStay
  | some content =>
      dsimp only
      split
      next hType =>
        have hParse : TaskEvent.fromValue content = none := by
          simpa [taskOf, hType, hContent] using hTask
        rw [hParse]
        exact hStay
      · split
        · split
          next claim _ =>
            exact ⟨_, rfl, List.prefix_append _ _, fun h =>
              h.onModify (fun _ => rfl) fun _ => rfl⟩
          · exact hStay
        · split
          · split
            next heartbeat _ =>
              exact ⟨_, rfl, List.prefix_append _ _, fun h =>
                h.onModify (fun _ => rfl) fun _ => rfl⟩
            · exact hStay
          · split
            · split
              next taskUuid _ =>
                exact ⟨_, rfl, List.prefix_append _ _, fun h => h.onResult⟩
              · exact hStay
            · exact hStay

theorem log_step (loop : RoutingLoop) (input : RoutingInput) :
    loop.journal.log <+: (loop.step isUserId input).journal.log := by
  unfold step
  split
  · exact List.prefix_refl _
  · cases input with
    | event raw now createdRoomId =>
        cases hTask : taskOf raw with
        | none =>
            obtain ⟨journal, hEvent, hLog, -⟩ :=
              onEvent_of_none isUserId loop now createdRoomId hTask
            dsimp only
            rw [hEvent]
            exact hLog
        | some task =>
            dsimp only
            rw [onEvent_of_task hTask]
            exact List.prefix_append _ _
    | roundEnd now checks resetAt =>
        dsimp only [onRoundEnd]
        split
        · exact List.prefix_append _ _
        · exact List.prefix_refl _

theorem entered_run (start : RoutingLoop) (inputs : List RoutingInput) :
    start.journal.entered ⊆ (run (step isUserId) start inputs).journal.entered := by
  induction inputs generalizing start with
  | nil => exact List.Subset.refl _
  | cons input inputs ih =>
      have hStep : start.journal.entered ⊆ (start.step isUserId input).journal.entered :=
        (((log_step start input).filterMap _).map _).subset
      exact List.Subset.trans hStep (ih _)

/-- `run` has neither returned nor overflowed. -/
def Unharmed (loop : RoutingLoop) : Prop := loop.returned = none ∧ loop.overflowed = false

/-- The loop goes on, and has taken every task it has seen. -/
structure Going (isUserId : String → Bool) (loop : RoutingLoop) : Prop where
  unharmed : loop.Unharmed
  kept : loop.journal.Kept isUserId

theorem Going.start (coordinatorRoomId : String) (now : Nat) :
    (new coordinatorRoomId now).Going isUserId :=
  ⟨⟨rfl, rfl⟩, .start coordinatorRoomId⟩

theorem Going.step_eq (h : loop.Going isUserId) :
    loop.step isUserId input = match input with
      | .event raw now createdRoomId => loop.onEvent isUserId raw now createdRoomId
      | .roundEnd now checks resetAt => loop.onRoundEnd isUserId now checks resetAt := by
  unfold RoutingLoop.step
  rw [h.unharmed.1]
  rfl

/-- The error of the handler is what `run` returns. -/
theorem returned_onTask_iff {task : TaskEvent} :
    (loop.onTask isUserId task now createdRoomId).returned = none ↔
      (task.uuid ∉ loop.journal.bot.seenTaskUuids → task.SenderValid isUserId) := by
  have hFails := @CoordinatorBot.handleTaskEvent_fails_iff loop.journal.bot task now
    (succeeding isUserId createdRoomId)
  rw [CoordinatorBot.answered_succeeding_iff] at hFails
  unfold onTask
  dsimp only
  cases hResult : (loop.journal.bot.handleTaskEvent task now
      (succeeding isUserId createdRoomId)).1 with
  | error error =>
      rw [hResult] at hFails
      obtain ⟨hNew, hNot⟩ := hFails.mp rfl
      exact iff_of_false nofun fun h => hNot (h hNew)
  | ok done =>
      rw [hResult] at hFails
      exact iff_of_true rfl fun hNew => by_contra fun hNot => nomatch hFails.mpr ⟨hNew, hNot⟩

theorem any_doubleOverflows_eq_false_iff :
    (loop.journal.bot.watchlist.entries.any fun entry => doubleOverflows entry.2) = false ↔
      ∀ uuid entry, loop.journal.bot.watchlist.lookup uuid = some entry →
        entry.claimedAt.isSome → entry.task.heartbeatIntervalSeconds.toNat < 2 ^ 63 := by
  rw [List.any_eq_false]
  constructor
  · intro h uuid entry hEntry hClaimed
    have hFits := h ⟨uuid, entry⟩ (AList.mem_lookup_iff.mp hEntry)
    simp only [doubleOverflows, hClaimed, Bool.true_and, decide_eq_true_eq] at hFits
    omega
  · intro h entry hMem
    have hEntry := AList.mem_lookup_iff.mpr hMem
    simp only [doubleOverflows, Bool.and_eq_true, decide_eq_true_eq, not_and]
    intro hClaimed
    have hFits := h entry.1 entry.2 hEntry hClaimed
    omega

/-- A step leaves the loop unharmed exactly if it is harmless. -/
theorem Going.unharmed_step_iff (h : loop.Going isUserId) (input : RoutingInput) :
    (loop.step isUserId input).Unharmed ↔ loop.Harmless isUserId input := by
  obtain ⟨hReturned, hOverflowed⟩ := h.unharmed
  rw [h.step_eq]
  cases input with
  | event raw now createdRoomId =>
      dsimp only [Harmless]
      cases hTask : taskOf raw with
      | none =>
          obtain ⟨journal, hEvent, -, -⟩ := onEvent_of_none isUserId loop now createdRoomId hTask
          rw [hEvent]
          exact iff_of_true h.unharmed fun _ hSome => nomatch hSome
      | some task =>
          rw [onEvent_of_task hTask, Unharmed, returned_onTask_iff]
          simp only [Option.some.injEq, forall_eq']
          exact and_iff_left hOverflowed
  | roundEnd now checks resetAt =>
      dsimp only [Harmless, onRoundEnd]
      split
      next hDue =>
        rw [forall_prop_of_true hDue, ← any_doubleOverflows_eq_false_iff, Unharmed]
        simp only [hReturned, hOverflowed, Bool.false_or, true_and]
      next hNot => exact iff_of_true h.unharmed fun hDue => absurd hDue hNot

theorem Going.step (h : loop.Going isUserId) (hHarmless : loop.Harmless isUserId input) :
    (loop.step isUserId input).Going isUserId := by
  refine ⟨(h.unharmed_step_iff input).mpr hHarmless, ?_⟩
  rw [h.step_eq]
  cases input with
  | event raw now createdRoomId =>
      dsimp only
      cases hTask : taskOf raw with
      | none =>
          obtain ⟨journal, hEvent, -, hKept⟩ :=
            onEvent_of_none isUserId loop now createdRoomId hTask
          rw [hEvent]
          exact hKept h.kept
      | some task =>
          rw [onEvent_of_task hTask]
          exact h.kept.onTask now (hHarmless task hTask)
  | roundEnd now checks resetAt =>
      dsimp only [onRoundEnd]
      split
      · exact h.kept.onCheck checks
      · exact h.kept

/-- A task that comes while the loop is going has been taken afterwards. -/
theorem Going.entered_step {task : TaskEvent} (h : loop.Going isUserId)
    (hHarmless : loop.Harmless isUserId (.event raw now createdRoomId))
    (hTask : taskOf raw = some task) :
    task.uuid ∈ (loop.step isUserId (.event raw now createdRoomId)).journal.entered := by
  apply (h.step hHarmless).kept.entered
  rw [h.step_eq]
  dsimp only
  rw [onEvent_of_task hTask]
  exact CoordinatorBot.mem_seen_handleTaskEvent.mpr (.inl rfl)

theorem Going.entered_run {start : RoutingLoop} {inputs : List RoutingInput}
    (h : start.Going isUserId)
    (hHarmless : Admissible (RoutingLoop.step isUserId) (Harmless isUserId) start inputs)
    {task : TaskEvent} (hEvent : .event raw now createdRoomId ∈ inputs)
    (hTask : taskOf raw = some task) :
    task.uuid ∈ (run (RoutingLoop.step isUserId) start inputs).journal.entered := by
  induction inputs generalizing start with
  | nil => cases hEvent
  | cons input inputs ih =>
      rcases List.mem_cons.mp hEvent with rfl | hEvent
      · exact RoutingLoop.entered_run _ inputs (h.entered_step hHarmless.1 hTask)
      · exact ih (h.step hHarmless.1) hHarmless.2 hEvent

/-- Neither an error nor an overflow is ever made good. -/
theorem unharmed_of_step (input : RoutingInput) (h : (loop.step isUserId input).Unharmed) :
    loop.Unharmed := by
  unfold RoutingLoop.step at h
  split at h
  · exact h
  next hGoing =>
    refine ⟨Option.not_isSome_iff_eq_none.mp hGoing, ?_⟩
    cases input with
    | event raw now createdRoomId =>
        dsimp only at h
        cases hTask : taskOf raw with
        | none =>
            obtain ⟨journal, hEvent, -, -⟩ := onEvent_of_none isUserId loop now createdRoomId hTask
            rw [hEvent] at h
            exact h.2
        | some task =>
            rw [onEvent_of_task hTask] at h
            exact h.2
    | roundEnd now checks resetAt =>
        dsimp only [onRoundEnd] at h
        split at h
        · exact (Bool.or_eq_false_iff.mp h.2).1
        · exact h.2

/-- The coordinator withstands the events of its room exactly when no new task has a sender
whom it cannot invite, and no pass meets a claimed task with too long an interval. -/
theorem robust_iff (isUserId : String → Bool) (coordinatorRoomId : String) (now : Nat)
    (inputs : List RoutingInput) :
    Robust isUserId coordinatorRoomId now inputs ↔
      Admissible (step isUserId) (Harmless isUserId) (new coordinatorRoomId now) inputs := by
  have hStart : (new coordinatorRoomId now).Going isUserId := .start coordinatorRoomId now
  have hAlways : Always (step isUserId) Unharmed (new coordinatorRoomId now) inputs ↔
      Admissible (step isUserId) (Harmless isUserId) (new coordinatorRoomId now) inputs :=
    always_iff_admissible_of_stronger_given (fun _ h => h.unharmed)
      (fun loop input _ h hHarmless => h.step hHarmless)
      (fun loop input _ h => (h.unharmed_step_iff input).mp)
      (admissible_of_forall fun _ _ => trivial) hStart
  constructor
  · intro h
    have hLast : (run (step isUserId) (new coordinatorRoomId now) inputs).Unharmed :=
      ⟨h.returned, h.overflowed⟩
    have hPromise : Admissible (step isUserId) (fun _ _ => True) (new coordinatorRoomId now)
        inputs := admissible_of_forall fun _ _ => trivial
    have hUnharmed := (@always_iff_last _ _ (step isUserId) _ (fun _ => True) Unharmed
      (fun _ _ _ _ => trivial) (fun _ input _ _ => unharmed_of_step input) _ _ hPromise
      trivial).mpr hLast
    exact hAlways.mp hUnharmed
  · intro h
    have hGoing : Always (step isUserId) (Going isUserId) (new coordinatorRoomId now) inputs :=
      h.always (fun _ _ hBefore hHarmless => hBefore.step hHarmless) hStart
    have hEnd := hGoing.last
    exact ⟨hEnd.unharmed.1, hEnd.unharmed.2, hEnd.kept.attempts,
      fun raw clock createdRoomId hEvent task hTask _ => hStart.entered_run h hEvent hTask⟩

/-- A task of somebody who has to be invited, unless it is brokered. -/
def senderTask (uuid senderId : String) (routingMode : Worker.RoutingMode) : Value :=
  .obj [("type", .str "org.mxdx.fabric.task"),
    ("content", { ProcessWorker.echoTask "echo" with uuid, senderId, routingMode }.toValue)]

/-- A direct task from nobody ends the loop, and the task behind it is not routed. -/
theorem not_robust : ¬ Robust (· == "@alice:example.com") "!coordinator:example.com" 0
    [.event (senderTask "t1" "not-a-user-id" .direct) 0 "!workers:example.com",
      .event (senderTask "t2" "@alice:example.com" .direct) 0 "!workers:example.com"] := by
  intro h
  have hReturned := h.returned
  revert hReturned
  decide +kernel

end RoutingLoop

end Mxdx.Fabric
