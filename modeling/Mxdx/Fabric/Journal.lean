import Mxdx.Fabric.Coordinator
import Mxdx.Foundations.Custody

/-! What happens to the tasks on the watchlist, kept in a journal beside the
coordinator. The coordinator is a custodian: no task that it has put on its
watchlist leaves it without a result, a notice or a copy in its place, as long as
every copy is taken. -/
namespace Mxdx.Fabric

open Automaton
open Worker (FailurePolicy)

/-- Put on the watchlist for a task event; off it by a result event, after a
message of its policy, or for a copy, which itself may have been put on. -/
inductive Act where
  | watch (entry : WatchEntry)
  | finish (uuid : String)
  | notice (uuid : String)
  | respawn (entry : WatchEntry) (copy : TaskEvent) (watched : Bool)

namespace CoordinatorBot

def settleAct (bot : CoordinatorBot) (check : EntryCheck) : Option Act :=
  match bot.watchlist.lookup check.uuid, bot.applied check with
  | some _, some (.ok none) => some (.notice check.uuid)
  | some entry, some (.ok (some copy)) =>
      some (.respawn entry copy (bot.Takes copy check.repostClient))
  | _, _ => none

/-- The acts of a pass, each at the turn of its entry. -/
def passActs (bot : CoordinatorBot) : List EntryCheck → List Act
  | [] => []
  | check :: checks => (bot.settleAct check).toList ++ (bot.settle check).passActs checks

/-- What the coordinator does to its watchlist, in order. -/
def acts (bot : CoordinatorBot) : CoordinatorInput → List Act
  | .task task now client => if bot.Takes task client then [.watch (.new task now)] else []
  | .claim _ _ => []
  | .heartbeat _ _ => []
  | .result taskUuid => if taskUuid ∈ bot.watchlist then [.finish taskUuid] else []
  | .check checks =>
      if (checks.map EntryCheck.uuid).isPerm bot.watchlist.keys then bot.passActs checks else []

end CoordinatorBot

/-- The coordinator with all that it has done. -/
structure Journal where
  bot : CoordinatorBot
  log : List Act

namespace Journal

/-- Nothing has been done yet. -/
def new (coordinatorRoomId : String) : Journal := ⟨.new coordinatorRoomId, []⟩

/-- What a step does is written down. -/
def step (journal : Journal) (input : CoordinatorInput) : Journal :=
  ⟨journal.bot.step input, journal.log ++ journal.bot.acts input⟩

end Journal

section Effects

/-- The copy is the task again, one attempt on, and one of the policies of the
task allows for that attempt. -/
structure WatchEntry.Precedes (entry : WatchEntry) (copy : TaskEvent) : Prop where
  onTimeout : copy.onTimeout = entry.task.onTimeout
  onHeartbeatMiss : copy.onHeartbeatMiss = entry.task.onHeartbeatMiss
  payloadAttempt : copy.payloadAttempt = some (entry.attempt + 1).toUInt64
  succ : (entry.attempt + 1).toNat = entry.attempt.toNat + 1
  limit : entry.attempt.toNat < entry.task.retryLimit

/-- An entry stands under the uuid of its task, has the attempt of its task, and
its task has been seen. -/
structure CoordinatorBot.Sound (bot : CoordinatorBot) : Prop where
  uuid : ∀ uuid entry, bot.watchlist.lookup uuid = some entry → entry.task.uuid = uuid
  attempt : ∀ uuid entry, bot.watchlist.lookup uuid = some entry →
    entry.attempt = entry.task.attempt
  seen : ∀ uuid ∈ bot.watchlist, uuid ∈ bot.seenTaskUuids

/-- The tasks on the watchlist. -/
def CoordinatorBot.held (bot : CoordinatorBot) (uuid : String) : Option TaskEvent :=
  (bot.watchlist.lookup uuid).map WatchEntry.task

namespace Act

/-- The tasks on the watchlist after an act. -/
def hold (held : String → Option TaskEvent) : Act → String → Option TaskEvent
  | watch entry => Function.update held entry.task.uuid (some entry.task)
  | finish uuid => Function.update held uuid none
  | notice uuid => Function.update held uuid none
  | respawn entry copy true =>
      Function.update (Function.update held entry.task.uuid none) copy.uuid (some copy)
  | respawn entry _ false => Function.update held entry.task.uuid none

/-- When the coordinator acts so. -/
def Allowed (bot : CoordinatorBot) : Act → Prop
  | watch entry => entry.task.uuid ∉ bot.seenTaskUuids ∧ entry.attempt = entry.task.attempt
  | finish uuid => uuid ∈ bot.watchlist
  | notice uuid => uuid ∈ bot.watchlist
  | respawn entry copy watched =>
      bot.watchlist.lookup entry.task.uuid = some entry ∧ entry.Precedes copy ∧
        (watched = true → copy.uuid ∉ bot.seenTaskUuids)

end Act

/-- Everything that the coordinator can do to its watchlist in one go. -/
structure CoordinatorBot.Effect (bot : CoordinatorBot) (act : Option Act) (after : CoordinatorBot) :
    Prop where
  sound : after.Sound
  allowed : ∀ done ∈ act, done.Allowed bot
  held : after.held = act.elim bot.held (Act.hold bot.held)
  seen : ∀ uuid ∈ bot.seenTaskUuids, uuid ∈ after.seenTaskUuids

namespace CoordinatorBot

variable {bot : CoordinatorBot} {uuid : String} {check : EntryCheck}

theorem mem_of_lookup {entry : WatchEntry} (h : bot.watchlist.lookup uuid = some entry) :
    uuid ∈ bot.watchlist :=
  AList.lookup_isSome.mp (Option.isSome_of_eq_some h)

theorem held_eq_some_iff {task : TaskEvent} :
    bot.held uuid = some task ↔
      ∃ entry, bot.watchlist.lookup uuid = some entry ∧ entry.task = task :=
  Option.map_eq_some_iff

theorem isSome_held : (bot.held uuid).isSome = true ↔ uuid ∈ bot.watchlist := by
  rw [held, Option.isSome_map, AList.lookup_isSome]

theorem held_insert {entry : WatchEntry} {after : CoordinatorBot}
    (h : after.watchlist = bot.watchlist.insert entry.task.uuid entry) :
    after.held = Function.update bot.held entry.task.uuid (some entry.task) := by
  funext other
  rw [held, h, Function.update_apply]
  split
  next hSame => rw [hSame, AList.lookup_insert, Option.map_some]
  next hOther => rw [AList.lookup_insert_ne hOther, held]

theorem held_remove : (bot.remove uuid).held = Function.update bot.held uuid none := by
  funext other
  rw [held, remove, Function.update_apply]
  split
  next hSame => rw [hSame, AList.lookup_erase, Option.map_none]
  next hOther => rw [AList.lookup_erase_ne hOther, held]

theorem Sound.remove (h : bot.Sound) : (bot.remove uuid).Sound := by
  have hLookup : ∀ other entry, (bot.remove uuid).watchlist.lookup other = some entry →
      bot.watchlist.lookup other = some entry := by
    intro other entry hEntry
    by_cases hSame : other = uuid
    · rw [hSame, CoordinatorBot.remove, AList.lookup_erase] at hEntry
      cases hEntry
    · rwa [CoordinatorBot.remove, AList.lookup_erase_ne hSame] at hEntry
  refine ⟨fun other entry hEntry => h.uuid other entry (hLookup other entry hEntry),
    fun other entry hEntry => h.attempt other entry (hLookup other entry hEntry), ?_⟩
  intro other hOther
  exact h.seen other (AList.mem_erase.mp hOther).2

theorem Sound.insert (h : bot.Sound) {entry : WatchEntry} {after : CoordinatorBot}
    (hAttempt : entry.attempt = entry.task.attempt)
    (hList : after.watchlist = bot.watchlist.insert entry.task.uuid entry)
    (hSeen : ∀ uuid, uuid = entry.task.uuid ∨ uuid ∈ bot.seenTaskUuids →
      uuid ∈ after.seenTaskUuids) : after.Sound := by
  have hLookup : ∀ other found, after.watchlist.lookup other = some found →
      (other = entry.task.uuid ∧ found = entry) ∨ bot.watchlist.lookup other = some found := by
    intro other found hFound
    rw [hList] at hFound
    by_cases hSame : other = entry.task.uuid
    · rw [hSame, AList.lookup_insert, Option.some.injEq] at hFound
      exact .inl ⟨hSame, hFound.symm⟩
    · rw [AList.lookup_insert_ne hSame] at hFound
      exact .inr hFound
  refine ⟨fun other found hFound => ?_, fun other found hFound => ?_, fun other hOther => ?_⟩
  · rcases hLookup other found hFound with ⟨rfl, rfl⟩ | hOld
    · rfl
    · exact h.uuid other found hOld
  · rcases hLookup other found hFound with ⟨rfl, rfl⟩ | hOld
    · exact hAttempt
    · exact h.attempt other found hOld
  · rw [hList, AList.mem_insert] at hOther
    exact hSeen other (hOther.imp_right (h.seen other))

/-- Claims and heartbeats leave the task and its attempt alone. -/
theorem Sound.effect_modify (h : bot.Sound) {update : WatchEntry → WatchEntry}
    (hTask : ∀ entry, (update entry).task = entry.task)
    (hAttempt : ∀ entry, (update entry).attempt = entry.attempt) :
    bot.Effect none (bot.modify uuid update) := by
  unfold modify
  split
  next entry hEntry =>
    have hUuid : (update entry).task.uuid = uuid := by rw [hTask, h.uuid uuid entry hEntry]
    have hSame : (update entry).attempt = (update entry).task.attempt := by
      rw [hTask, hAttempt, h.attempt uuid entry hEntry]
    have hSeen : uuid ∈ bot.seenTaskUuids := h.seen uuid (mem_of_lookup hEntry)
    subst hUuid
    refine ⟨h.insert hSame rfl ?_, by simp, ?_, fun _ => id⟩
    · rintro other (rfl | hOther)
      · exact hSeen
      · exact hOther
    · rw [held_insert rfl, Option.elim_none, Function.update_eq_self_iff]
      exact (held_eq_some_iff.mpr ⟨entry, hEntry, (hTask entry).symm⟩).symm
  · exact ⟨h, by simp, rfl, fun _ => id⟩

theorem Sound.effect_remove (h : bot.Sound) {act : Act} (hAllowed : act.Allowed bot)
    (hHold : act.hold bot.held = Function.update bot.held uuid none) :
    bot.Effect (some act) (bot.remove uuid) := by
  refine ⟨h.remove, ?_, ?_, fun _ => id⟩
  · rintro done ⟨⟩
    exact hAllowed
  · rw [held_remove, Option.elim_some, hHold]

theorem Sound.effect_handleTaskEvent (h : bot.Sound) (task : TaskEvent) (now : Nat)
    (client : Client) :
    bot.Effect (if bot.Takes task client then some (.watch (.new task now)) else none)
      (bot.handleTaskEvent task now client).2 := by
  have hSeen : ∀ uuid, uuid = task.uuid ∨ uuid ∈ bot.seenTaskUuids →
      uuid ∈ (bot.handleTaskEvent task now client).2.seenTaskUuids := fun uuid =>
    mem_seen_handleTaskEvent.mpr
  have hList := bot.watchlist_handleTaskEvent task now client
  split
  next hTakes =>
    rw [if_pos hTakes] at hList
    have hAttempt : (WatchEntry.new task now).attempt = task.attempt := rfl
    refine ⟨h.insert hAttempt hList hSeen, ?_, held_insert hList, fun uuid hOld =>
      hSeen uuid (.inr hOld)⟩
    rintro act ⟨⟩
    exact ⟨hTakes.1, rfl⟩
  next hNot =>
    rw [if_neg hNot] at hList
    have hHeld : (bot.handleTaskEvent task now client).2.held = bot.held := by
      funext uuid
      rw [held, hList, held]
    refine ⟨⟨?_, ?_, ?_⟩, by simp, hHeld, fun uuid hOld => hSeen uuid (.inr hOld)⟩
    · rw [hList]
      exact h.uuid
    · rw [hList]
      exact h.attempt
    · rw [hList]
      exact fun uuid hWatched => hSeen uuid (.inr (h.seen uuid hWatched))

theorem precedes_of_applied {entry : WatchEntry} {copy : TaskEvent}
    (hEntry : bot.watchlist.lookup check.uuid = some entry)
    (hApplied : bot.applied check = some (.ok (some copy))) :
    entry.Precedes copy := by
  obtain ⟨policy, ctx, hFailure, hLimit, rfl⟩ := (applied_eq_copy_iff hEntry).mp hApplied
  obtain ⟨hTask, hAttempt, hPolicy⟩ := WatchEntry.failure_spec hFailure
  refine ⟨by simp [hTask], by simp [hTask], by simp [hAttempt], ?_, ?_⟩
  · rw [← hAttempt]
    exact toNat_succ_attempt hLimit
  · rw [hAttempt, UInt8.lt_iff_toNat_lt] at hLimit
    rw [TaskEvent.retryLimit]
    rcases hPolicy with rfl | rfl <;> omega

theorem takes_remove {copy : TaskEvent} {client : Client} :
    (bot.remove uuid).Takes copy client ↔ bot.Takes copy client := Iff.rfl

theorem Sound.effect_settle (h : bot.Sound) (check : EntryCheck) :
    bot.Effect (bot.settleAct check) (bot.settle check) := by
  have hQuiet : bot.Effect none bot := ⟨h, by simp, rfl, fun _ => id⟩
  cases hEntry : bot.watchlist.lookup check.uuid with
  | none =>
      have hApplied : bot.applied check = none := by rw [applied, hEntry]; rfl
      simpa only [settleAct, settle, hEntry, hApplied] using hQuiet
  | some entry =>
      have hUuid := h.uuid check.uuid entry hEntry
      have hWatched : check.uuid ∈ bot.watchlist := mem_of_lookup hEntry
      rcases hApplied : bot.applied check with _ | (text | (_ | copy))
      · simpa only [settleAct, settle, hEntry, hApplied] using hQuiet
      · simpa only [settleAct, settle, hEntry, hApplied] using hQuiet
      · simp only [settleAct, settle, hEntry, hApplied]
        exact h.effect_remove hWatched rfl
      · simp only [settleAct, settle, hEntry, hApplied]
        have hRemoved : (bot.remove check.uuid).held =
            Function.update bot.held entry.task.uuid none := by rw [held_remove, hUuid]
        have hPrecedes := precedes_of_applied hEntry hApplied
        have hGone : (bot.remove check.uuid).Sound := h.remove
        have hRepost := hGone.effect_handleTaskEvent copy check.repostNow check.repostClient
        refine ⟨hRepost.sound, ?_, ?_, hRepost.seen⟩
        · rintro act ⟨⟩
          refine ⟨hUuid ▸ hEntry, hPrecedes, fun hTakes => ?_⟩
          exact (of_decide_eq_true hTakes).1
        · refine hRepost.held.trans ?_
          rw [hRemoved]
          by_cases hTakes : bot.Takes copy check.repostClient
          · rw [if_pos (takes_remove.mpr hTakes), decide_eq_true hTakes]
            rfl
          · rw [if_neg (mt takes_remove.mp hTakes), decide_eq_false hTakes]
            rfl

/-- A result for a task that is not on the watchlist does nothing. -/
theorem Sound.effect_result (h : bot.Sound) :
    bot.Effect (if uuid ∈ bot.watchlist then some (.finish uuid) else none)
      (bot.handleResultEvent uuid) := by
  split
  next hWatched => exact h.effect_remove hWatched rfl
  next hNot =>
    refine ⟨h.remove, by simp, ?_, fun _ => id⟩
    have hNone : bot.held uuid = none := by
      rw [held, AList.lookup_eq_none.mpr hNot, Option.map_none]
    rw [handleResultEvent, held_remove, Option.elim_none, Function.update_eq_self_iff, hNone]

end CoordinatorBot

theorem toList_ite {α : Type*} (condition : Prop) [Decidable condition] (value : α) :
    (if condition then some value else none).toList = if condition then [value] else [] := by
  split <;> rfl

namespace Journal

variable {invariant : Journal → Prop}
  (hEffect : ∀ journal act after, journal.bot.Sound → invariant journal →
    journal.bot.Effect act after → invariant ⟨after, journal.log ++ act.toList⟩)
include hEffect

theorem pass_keeps {bot : CoordinatorBot} {log : List Act} (checks : List EntryCheck)
    (hSound : bot.Sound) (h : invariant ⟨bot, log⟩) :
    (run CoordinatorBot.settle bot checks).Sound ∧
      invariant ⟨run CoordinatorBot.settle bot checks, log ++ bot.passActs checks⟩ := by
  induction checks generalizing bot log with
  | nil =>
      rw [run_nil, CoordinatorBot.passActs, List.append_nil]
      exact ⟨hSound, h⟩
  | cons check checks ih =>
      have hSettle := hSound.effect_settle check
      rw [run_cons, CoordinatorBot.passActs, ← List.append_assoc]
      exact ih hSettle.sound (hEffect ⟨bot, log⟩ _ _ hSound h hSettle)

/-- Invariant rule for the journal: what every single effect keeps is kept by
every input, a whole pass included. -/
theorem step_keeps {journal : Journal} (input : CoordinatorInput)
    (h : journal.bot.Sound ∧ invariant journal) :
    (journal.step input).bot.Sound ∧ invariant (journal.step input) := by
  obtain ⟨hSound, hInvariant⟩ := h
  have hOne : ∀ {act : Option Act} {after : CoordinatorBot} {done : List Act},
      journal.bot.Effect act after → done = act.toList →
      after.Sound ∧ invariant ⟨after, journal.log ++ done⟩ := by
    rintro act after _ hDone rfl
    exact ⟨hDone.sound, hEffect journal act after hSound hInvariant hDone⟩
  cases input with
  | task task now client =>
      exact hOne (hSound.effect_handleTaskEvent task now client) (toList_ite _ _).symm
  | claim claim now =>
      exact hOne (hSound.effect_modify (fun _ => rfl) fun _ => rfl) rfl
  | heartbeat heartbeat now =>
      exact hOne (hSound.effect_modify (fun _ => rfl) fun _ => rfl) rfl
  | result taskUuid => exact hOne hSound.effect_result (toList_ite _ _).symm
  | check checks =>
      rw [step, CoordinatorBot.step, CoordinatorBot.acts]
      split
      next hVisits =>
        rw [CoordinatorBot.checkWatchlist_eq_run hSound.seen hVisits]
        exact pass_keeps hEffect checks hSound hInvariant
      · rw [List.append_nil]
        exact ⟨hSound, hInvariant⟩

end Journal

end Effects

section Custody

open Custody (Ledger)

/-- Why a task is done with. -/
inductive Closing where
  | result
  | notice
deriving DecidableEq

/-- Posts and removals as the ledger knows them. -/
def Act.custody : Act → Custody.Act String Closing
  | watch entry => .take entry.task.uuid
  | finish uuid => .close uuid .result
  | notice uuid => .close uuid .notice
  | respawn entry copy true => .replace entry.task.uuid copy.uuid
  | respawn entry _ false => .lose entry.task.uuid

/-- Every copy that an overdue entry leads to is taken in its turn. -/
def CoordinatorBot.CopyTaken (bot : CoordinatorBot) (check : EntryCheck) : Prop :=
  ∀ entry policy ctx, bot.watchlist.lookup check.uuid = some entry →
    entry.failure check.now = some (policy, ctx) → ctx.attempt < policy.retryLimit →
    bot.Takes (copyFor policy ctx) check.repostClient

namespace Journal

/-- What the log says about every task. -/
def ledger (journal : Journal) : Ledger String Closing :=
  run Ledger.step .empty (journal.log.map Act.custody)

/-- Every task that was ever put on the watchlist is still there, or has had its
result, or a notice, or is replaced by a copy of which the same is true. -/
def NoTaskLost (journal : Journal) : Prop :=
  ∀ uuid ∈ journal.ledger.taken,
    Custody.Accounted (· ∈ journal.bot.watchlist) journal.ledger.fates uuid

/-- Copies are made on passes only. -/
def CopiesTaken (journal : Journal) : CoordinatorInput → Prop
  | .check checks =>
      (checks.map EntryCheck.uuid).isPerm journal.bot.watchlist.keys = true →
        Admissible CoordinatorBot.settle CoordinatorBot.CopyTaken journal.bot checks
  | _ => True

/-- The ledger is kept properly, what it has as live is on the watchlist, and
what it has taken has been seen. -/
structure Custodial (journal : Journal) : Prop where
  proper : Admissible Ledger.step Ledger.Proper .empty (journal.log.map Act.custody)
  live : ∀ uuid, uuid ∈ journal.ledger.live ↔ uuid ∈ journal.bot.watchlist
  taken : ∀ uuid ∈ journal.ledger.taken, uuid ∈ journal.bot.seenTaskUuids

variable {journal : Journal}

/-- Ledger and watchlist go together through every act. -/
theorem live_custody {ledger : Ledger String Closing} {held : String → Option TaskEvent}
    (hLive : ∀ uuid, uuid ∈ ledger.live ↔ (held uuid).isSome = true) (act : Act) (uuid : String) :
    uuid ∈ (ledger.step act.custody).live ↔ (act.hold held uuid).isSome = true := by
  have hGone : ∀ other, uuid ∈ ledger.live.filter (· ≠ other) ↔
      (Function.update held other none uuid).isSome = true := by
    intro other
    rw [List.mem_filter, hLive, Function.update_apply]
    split <;> simp [*]
  have hAdded : ∀ {live : List String} {before : String → Option TaskEvent} (task : TaskEvent),
      (uuid ∈ live ↔ (before uuid).isSome = true) →
      (uuid ∈ task.uuid :: live ↔
        (Function.update before task.uuid (some task) uuid).isSome = true) := by
    intro live before task hBefore
    rw [List.mem_cons, hBefore, Function.update_apply]
    split <;> simp [*]
  cases act with
  | watch entry => exact hAdded entry.task (hLive uuid)
  | finish other => exact hGone other
  | notice other => exact hGone other
  | respawn entry copy watched =>
      cases watched with
      | false => exact hGone entry.task.uuid
      | true => exact hAdded copy (hGone entry.task.uuid)

theorem taken_custody {ledger : Ledger String Closing} {act : Act} {uuid : String}
    (h : uuid ∈ (ledger.step act.custody).taken) :
    uuid ∈ ledger.taken ∨ uuid ∈ (ledger.step act.custody).live := by
  have hCons : ∀ {new : String}, uuid ∈ new :: ledger.taken →
      ∀ live : List String, uuid ∈ ledger.taken ∨ uuid ∈ new :: live := by
    intro new hTaken live
    rcases List.mem_cons.mp hTaken with rfl | hOld
    · exact .inr List.mem_cons_self
    · exact .inl hOld
  cases act with
  | watch entry => exact hCons h _
  | finish other => exact .inl h
  | notice other => exact .inl h
  | respawn entry copy watched =>
      cases watched with
      | false => exact .inl h
      | true => exact hCons h _

theorem Custodial.proper_custody (h : journal.Custodial) {act : Act}
    (hAllowed : act.Allowed journal.bot) : journal.ledger.Proper act.custody := by
  have hNew : ∀ uuid, uuid ∉ journal.bot.seenTaskUuids → uuid ∉ journal.ledger.taken :=
    fun uuid => mt (h.taken uuid)
  cases act with
  | watch entry => exact hNew _ hAllowed.1
  | finish uuid => exact (h.live uuid).mpr hAllowed
  | notice uuid => exact (h.live uuid).mpr hAllowed
  | respawn entry copy watched =>
      obtain ⟨hEntry, -, hCopy⟩ := hAllowed
      have hLive : entry.task.uuid ∈ journal.ledger.live :=
        (h.live _).mpr (CoordinatorBot.mem_of_lookup hEntry)
      cases watched with
      | false => exact hLive
      | true => exact ⟨hLive, hNew _ (hCopy rfl)⟩

theorem Custodial.effect (h : journal.Custodial) {act : Option Act} {after : CoordinatorBot}
    (hEffect : journal.bot.Effect act after) : Custodial ⟨after, journal.log ++ act.toList⟩ := by
  have hLive : ∀ uuid, uuid ∈ journal.ledger.live ↔ (journal.bot.held uuid).isSome = true :=
    fun uuid => (h.live uuid).trans CoordinatorBot.isSome_held.symm
  cases act with
  | none =>
      rw [Option.toList_none, List.append_nil]
      refine ⟨h.proper, fun uuid => ?_, fun uuid hTaken => hEffect.seen uuid (h.taken uuid hTaken)⟩
      rw [← CoordinatorBot.isSome_held, hEffect.held]
      exact hLive uuid
  | some act =>
      have hLedger : ledger ⟨after, journal.log ++ [act]⟩ = journal.ledger.step act.custody := by
        rw [ledger, List.map_append, List.map_singleton, run_concat]
        rfl
      have hAfter : ∀ uuid, uuid ∈ (journal.ledger.step act.custody).live ↔
          uuid ∈ after.watchlist := by
        intro uuid
        rw [← CoordinatorBot.isSome_held, hEffect.held]
        exact live_custody hLive act uuid
      rw [Option.toList_some]
      refine ⟨?_, by rwa [hLedger], ?_⟩
      · rw [List.map_append, List.map_singleton]
        exact h.proper.append ⟨h.proper_custody (hEffect.allowed act rfl), trivial⟩
      · rw [hLedger]
        intro uuid hTaken
        rcases taken_custody hTaken with hOld | hNew
        · exact hEffect.seen uuid (h.taken uuid hOld)
        · exact hEffect.sound.seen uuid ((hAfter uuid).mp hNew)

theorem Custodial.noTaskLost_iff (h : journal.Custodial) :
    journal.NoTaskLost ↔ ∀ act ∈ journal.log, act.custody.Keeps := by
  have hRule := Ledger.intact_run_iff Ledger.sound_empty Ledger.intact_empty h.proper
  rw [List.forall_mem_map] at hRule
  rw [← hRule]
  refine forall₂_congr fun uuid _ => ⟨fun hHere => ?_, fun hHere => ?_⟩
  · exact hHere.congr fun other _ => h.live other
  · exact hHere.congr fun other _ => (h.live other).symm

theorem copyTaken_iff {bot : CoordinatorBot} {check : EntryCheck} {entry : WatchEntry}
    (hEntry : bot.watchlist.lookup check.uuid = some entry) :
    bot.CopyTaken check ↔
      ∀ copy, bot.applied check = some (.ok (some copy)) → bot.Takes copy check.repostClient := by
  simp only [CoordinatorBot.applied_eq_copy_iff hEntry, CoordinatorBot.CopyTaken, hEntry]
  constructor
  · rintro h copy ⟨policy, ctx, hFailure, hLimit, rfl⟩
    exact h entry policy ctx rfl hFailure hLimit
  · rintro h _ policy ctx ⟨⟩ hFailure hLimit
    exact h _ ⟨policy, ctx, hFailure, hLimit, rfl⟩

/-- An act loses its task exactly when it is a respawning whose copy is not taken. -/
theorem keeps_settleAct (bot : CoordinatorBot) (check : EntryCheck) :
    (∀ act ∈ (bot.settleAct check).toList, act.custody.Keeps) ↔ bot.CopyTaken check := by
  cases hEntry : bot.watchlist.lookup check.uuid with
  | none => simp [CoordinatorBot.settleAct, CoordinatorBot.CopyTaken, hEntry]
  | some entry =>
      rw [copyTaken_iff hEntry]
      rcases hApplied : bot.applied check with _ | (text | (_ | copy))
      · simp [CoordinatorBot.settleAct, hEntry, hApplied]
      · simp [CoordinatorBot.settleAct, hEntry, hApplied]
      · simp [CoordinatorBot.settleAct, hEntry, hApplied, Act.custody, Custody.Act.Keeps]
      · by_cases hTakes : bot.Takes copy check.repostClient
        · simp [CoordinatorBot.settleAct, hEntry, hApplied, hTakes, Act.custody, Custody.Act.Keeps]
        · simp [CoordinatorBot.settleAct, hEntry, hApplied, hTakes, Act.custody, Custody.Act.Keeps]

theorem keeps_passActs (bot : CoordinatorBot) (checks : List EntryCheck) :
    (∀ act ∈ bot.passActs checks, act.custody.Keeps) ↔
      Admissible CoordinatorBot.settle CoordinatorBot.CopyTaken bot checks := by
  induction checks generalizing bot with
  | nil => simp [CoordinatorBot.passActs, Admissible]
  | cons check checks ih =>
      rw [CoordinatorBot.passActs, List.forall_mem_append, keeps_settleAct, ih, Admissible]

theorem keeps_acts (journal : Journal) (input : CoordinatorInput) :
    (∀ act ∈ journal.bot.acts input, act.custody.Keeps) ↔ journal.CopiesTaken input := by
  cases input with
  | task task now client =>
      refine iff_of_true (fun act hAct => ?_) trivial
      rw [CoordinatorBot.acts] at hAct
      split at hAct
      · rw [List.mem_singleton.mp hAct]
        trivial
      · cases hAct
  | claim claim now => exact iff_of_true (fun _ hAct => by cases hAct) trivial
  | heartbeat heartbeat now => exact iff_of_true (fun _ hAct => by cases hAct) trivial
  | result taskUuid =>
      refine iff_of_true (fun act hAct => ?_) trivial
      rw [CoordinatorBot.acts] at hAct
      split at hAct
      · rw [List.mem_singleton.mp hAct]
        trivial
      · cases hAct
  | check checks =>
      rw [CoordinatorBot.acts, CopiesTaken]
      split
      next hVisits => rw [keeps_passActs, forall_prop_of_true hVisits]
      next hNot => simp [hNot]

theorem custodial_new (coordinatorRoomId : String) : (new coordinatorRoomId).Custodial := by
  refine ⟨trivial, ?_, ?_⟩ 
  · simp [new, ledger, Ledger.empty, CoordinatorBot.new]
  · simp [new, ledger, Ledger.empty]

theorem sound_new (coordinatorRoomId : String) : (new coordinatorRoomId).bot.Sound := by
  refine ⟨?_, ?_, ?_⟩ <;> simp [new, CoordinatorBot.new]

/-- No task is lost along a run exactly when every copy is taken. -/
theorem always_noTaskLost_iff (coordinatorRoomId : String) (inputs : List CoordinatorInput) :
    Always step NoTaskLost (new coordinatorRoomId) inputs ↔
      Admissible step CopiesTaken (new coordinatorRoomId) inputs := by
  have hKeep : ∀ (journal : Journal) (input : CoordinatorInput),
      journal.bot.Sound ∧ journal.Custodial →
      (journal.step input).bot.Sound ∧ (journal.step input).Custodial := fun journal input =>
    step_keeps (fun _ _ _ _ h hEffect => h.effect hEffect) input
  refine always_iff_admissible_under hKeep ?_
    ⟨sound_new coordinatorRoomId, custodial_new coordinatorRoomId⟩ ?_
  · intro journal input hBefore hKept
    rw [(hKeep journal input hBefore).2.noTaskLost_iff, step, List.forall_mem_append, keeps_acts]
    exact and_iff_right (hBefore.2.noTaskLost_iff.mp hKept)
  · simp [NoTaskLost, new, ledger, Ledger.empty]

/-- A client that does everything, and one whose posts are refused. -/
def answering : Client where
  isUserId _ := true
  createNamedEncryptedRoom _ _ := .ok "!workers"
  inviteUser _ _ := .ok ()
  sendEvent _ _ := .ok ()

def refusing : Client := { answering with sendEvent := fun _ _ => .error "forbidden" }

def unclaimed : TaskEvent where
  uuid := "t"
  senderId := "@alice:example.org"
  requiredCapabilities := []
  estimatedCycles := none
  timeoutSeconds := 60
  heartbeatIntervalSeconds := 10
  onTimeout := .respawn 3
  onHeartbeatMiss := .escalate
  routingMode := .brokered
  p2pStream := false
  payload := .null
  plan := none

/-- Nobody claims the task, and by the time of its copy posts are refused. -/
def refusedCopy : List CoordinatorInput :=
  [.task unclaimed 0 answering,
   .check [⟨"t", 61000000000, answering, 61000000000, refusing⟩]]

/-- The task is off the watchlist, and neither a copy nor a notice is left of it. -/
theorem not_noTaskLost : ¬ Always step NoTaskLost (new "!coordinator") refusedCopy := by
  intro h
  have hTaken : "t" ∈ (run step (new "!coordinator") refusedCopy).ledger.taken := by
    decide +kernel
  have hGone : "t" ∉ (run step (new "!coordinator") refusedCopy).bot.watchlist := by
    decide +kernel
  have hFates : Custody.fatesOf (run step (new "!coordinator") refusedCopy).ledger.fates "t" = [] :=
    List.isEmpty_iff.mp (by decide +kernel)
  exact Custody.not_accounted hGone hFates (h.last "t" hTaken)

end Journal

end Custody

end Mxdx.Fabric
