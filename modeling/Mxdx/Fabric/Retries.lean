import Mxdx.Fabric.Journal
import Mathlib.Algebra.Group.Nat.Defs

/-! How often a task is tried. Every copy comes down from a task that was
submitted, through tasks that failed one after the other; the attempt that each
copy carries in its payload is read back when the copy is watched, and so counts
the whole line. -/
namespace Mxdx.Fabric

open Automaton

/-- A copy made of an entry that failed, and the submitted task it comes down from. -/
structure Link where
  root : String
  entry : WatchEntry
  copy : TaskEvent

/-- The submitted tasks as they were watched, the one that each watched task comes
down from, and all copies. -/
structure Family where
  submitted : List WatchEntry
  root : String → String
  links : List Link

namespace Family

def empty : Family := ⟨[], id, []⟩

def step (family : Family) : Act → Family
  | .watch entry =>
      { family with
        submitted := family.submitted ++ [entry]
        root := Function.update family.root entry.task.uuid entry.task.uuid }
  | .finish _ => family
  | .notice _ => family
  | .respawn entry copy watched =>
      let root := family.root entry.task.uuid
      { family with
        links := family.links ++ [⟨root, entry, copy⟩]
        root := if watched then Function.update family.root copy.uuid root else family.root }

/-- The copies that come down from a task, in the order they were made. -/
def line (family : Family) (uuid : String) : List Link :=
  family.links.filter (·.root = uuid)

/-- The line of a task is no longer than its policies allow, and along it every
attempt is one more than the one before, as recorded on the watchlist and as
written into the copies. -/
structure Bounded (family : Family) (entry : WatchEntry) : Prop where
  length : (family.line entry.task.uuid).length ≤ entry.task.retryLimit
  recorded : (family.line entry.task.uuid).map (·.entry.attempt.toNat) =
    List.range' entry.attempt.toNat (family.line entry.task.uuid).length
  written : (family.line entry.task.uuid).map (·.copy.payloadAttempt.map UInt64.toNat) =
    (List.range' (entry.attempt.toNat + 1) (family.line entry.task.uuid).length).map some

end Family

namespace Journal

def family (journal : Journal) : Family := run Family.step .empty journal.log

/-- Every task is copied a bounded number of times, and no attempt is too large
for the next one to fit into eight bits. -/
structure RetriesBounded (journal : Journal) : Prop where
  rooted : ∀ link ∈ journal.family.links,
    ∃ entry ∈ journal.family.submitted, entry.task.uuid = link.root
  bounded : ∀ entry ∈ journal.family.submitted, journal.family.Bounded entry
  fits : ∀ link ∈ journal.family.links, link.entry.attempt.toNat + 1 < 2 ^ 8

end Journal

namespace Family

/-- The task is the one that was submitted, or its latest copy. -/
structure Heir (family : Family) (first : WatchEntry) (task : TaskEvent) : Prop where
  onTimeout : task.onTimeout = first.task.onTimeout
  onHeartbeatMiss : task.onHeartbeatMiss = first.task.onHeartbeatMiss
  attempt : task.attempt.toNat = first.attempt.toNat + (family.line first.task.uuid).length

/-- Each task that is held is the heir of a submitted one, and no two come down
from the same. -/
structure Heirs (family : Family) (held : String → Option TaskEvent) : Prop where
  heir : ∀ uuid task, held uuid = some task →
    ∃ first ∈ family.submitted, first.task.uuid = family.root uuid ∧ family.Heir first task
  single : ∀ uuid task other otherTask, held uuid = some task → held other = some otherTask →
    family.root uuid = family.root other → uuid = other

/-- No two submitted tasks have one uuid, and all copies come down from them, within
their bounds. -/
structure Orderly (family : Family) : Prop where
  unique : ∀ first ∈ family.submitted, ∀ second ∈ family.submitted,
    first.task.uuid = second.task.uuid → first = second
  rooted : ∀ link ∈ family.links, ∃ entry ∈ family.submitted, entry.task.uuid = link.root
  bounded : ∀ entry ∈ family.submitted, family.Bounded entry
  fits : ∀ link ∈ family.links, link.entry.attempt.toNat + 1 < 2 ^ 8

variable {family : Family} {held : String → Option TaskEvent} {entry first : WatchEntry}
  {task copy : TaskEvent} {uuid root : String}

/-- Bounds and heirs of a task depend on its own line only. -/
theorem Bounded.congr {next : Family} (h : family.Bounded first)
    (hLine : next.line first.task.uuid = family.line first.task.uuid) : next.Bounded first :=
  ⟨hLine ▸ h.length, hLine ▸ h.recorded, hLine ▸ h.written⟩

theorem Heir.congr {next : Family} (h : family.Heir first task)
    (hLine : next.line first.task.uuid = family.line first.task.uuid) : next.Heir first task :=
  ⟨h.onTimeout, h.onHeartbeatMiss, hLine ▸ h.attempt⟩

theorem Heirs.mono (h : family.Heirs held) {fewer : String → Option TaskEvent}
    (hFewer : ∀ uuid task, fewer uuid = some task → held uuid = some task) :
    family.Heirs fewer where
  heir uuid task hTask := h.heir uuid task (hFewer uuid task hTask)
  single uuid task other otherTask hTask hOther :=
    h.single uuid task other otherTask (hFewer uuid task hTask) (hFewer other otherTask hOther)

theorem update_none_eq_some (h : Function.update held uuid none root = some task) :
    root ≠ uuid ∧ held root = some task := by
  rw [Function.update_apply] at h
  split at h
  · cases h
  next hOther => exact ⟨hOther, h⟩

theorem Heirs.remove (h : family.Heirs held) (uuid : String) :
    family.Heirs (Function.update held uuid none) :=
  h.mono fun _ _ hTask => (update_none_eq_some hTask).2

/-- One more task is held, and no other comes down from the same. -/
theorem Heirs.attach (h : family.Heirs held) (hFirst : first ∈ family.submitted)
    (hHeir : family.Heir first task)
    (hElse : ∀ uuid task, held uuid = some task → family.root uuid ≠ first.task.uuid) :
    { family with root := Function.update family.root uuid first.task.uuid }.Heirs
      (Function.update held uuid (some task)) := by
  constructor
  · intro other otherTask hOther
    simp only [Function.update_apply] at hOther ⊢
    split at hOther
    next hSame =>
      obtain rfl := Option.some.inj hOther
      exact ⟨first, hFirst, (if_pos hSame).symm, hHeir.congr rfl⟩
    next hNe =>
      obtain ⟨found, hFound, hUuid, hKin⟩ := h.heir other otherTask hOther
      exact ⟨found, hFound, hUuid.trans (if_neg hNe).symm, hKin.congr rfl⟩
  · intro one oneTask two twoTask hOne hTwo hSame
    simp only [Function.update_apply] at hOne hTwo hSame
    split at hOne <;> split at hTwo
    next hFirst hSecond => exact hFirst.trans hSecond.symm
    next hFirst hSecond =>
      rw [if_pos hFirst, if_neg hSecond] at hSame
      exact absurd hSame.symm (hElse two twoTask hTwo)
    next hFirst hSecond =>
      rw [if_neg hFirst, if_pos hSecond] at hSame
      exact absurd hSame (hElse one oneTask hOne)
    next hFirst hSecond =>
      rw [if_neg hFirst, if_neg hSecond] at hSame
      exact h.single one oneTask two twoTask hOne hTwo hSame

theorem Orderly.line_eq_nil (h : family.Orderly)
    (hNew : ∀ entry ∈ family.submitted, entry.task.uuid ≠ uuid) : family.line uuid = [] := by
  rw [line, List.filter_eq_nil_iff]
  intro link hLink hRoot
  obtain ⟨entry, hEntry, hUuid⟩ := h.rooted link hLink
  rw [decide_eq_true_eq] at hRoot
  exact hNew entry hEntry (hUuid.trans hRoot)

theorem bounded_of_line_eq_nil (h : family.line entry.task.uuid = []) : family.Bounded entry := by
  refine ⟨?_, ?_, ?_⟩ <;> simp [h]

/-- A task that is submitted starts a line of its own. -/
theorem Orderly.watch (h : family.Orderly)
    (hNew : ∀ first ∈ family.submitted, first.task.uuid ≠ entry.task.uuid) :
    (family.step (.watch entry)).Orderly := by
  have hSubmitted : ∀ {found}, found ∈ (family.step (.watch entry)).submitted ↔
      found ∈ family.submitted ∨ found = entry := by
    intro found
    rw [step, List.mem_append, List.mem_singleton]
  refine ⟨?_, fun link hLink => ?_, fun found hFound => ?_, h.fits⟩
  · intro one hOne two hTwo hSame
    rcases hSubmitted.mp hOne with hOldOne | hNewOne <;>
      rcases hSubmitted.mp hTwo with hOldTwo | hNewTwo
    · exact h.unique one hOldOne two hOldTwo hSame
    · exact absurd (hNewTwo ▸ hSame) (hNew one hOldOne)
    · exact absurd (hNewOne ▸ hSame.symm) (hNew two hOldTwo)
    · rw [hNewOne, hNewTwo]
  · obtain ⟨found, hFound, hUuid⟩ := h.rooted link hLink
    exact ⟨found, hSubmitted.mpr (.inl hFound), hUuid⟩
  · rcases hSubmitted.mp hFound with hOld | rfl
    · exact (h.bounded found hOld).congr rfl
    · exact bounded_of_line_eq_nil (h.line_eq_nil hNew)

theorem Heirs.watch (h : family.Heirs held) (hOrderly : family.Orderly)
    (hNew : ∀ first ∈ family.submitted, first.task.uuid ≠ entry.task.uuid)
    (hAttempt : entry.attempt = entry.task.attempt) :
    (family.step (.watch entry)).Heirs
      (Function.update held entry.task.uuid (some entry.task)) := by
  have hNil : family.line entry.task.uuid = [] := hOrderly.line_eq_nil hNew
  have hMore : { family with submitted := family.submitted ++ [entry] }.Heirs held := by
    refine ⟨fun uuid task hTask => ?_, h.single⟩
    obtain ⟨first, hFirst, hUuid, hHeir⟩ := h.heir uuid task hTask
    exact ⟨first, List.mem_append_left _ hFirst, hUuid, hHeir.congr rfl⟩
  refine hMore.attach (List.mem_append_right _ (List.mem_singleton_self entry)) ?_ ?_
  · refine ⟨rfl, rfl, ?_⟩
    show entry.task.attempt.toNat = entry.attempt.toNat + (family.line entry.task.uuid).length
    rw [hNil, hAttempt, List.length_nil, Nat.add_zero]
  · intro uuid task hTask
    obtain ⟨first, hFirst, hUuid, -⟩ := h.heir uuid task hTask
    exact hUuid ▸ hNew first hFirst

/-- One more copy, and nobody on the watchlist has changed. -/
def extend (family : Family) (link : Link) : Family :=
  { family with links := family.links ++ [link] }

variable {link : Link}

theorem line_extend : (family.extend link).line uuid =
    if link.root = uuid then family.line uuid ++ [link] else family.line uuid := by
  rw [line, extend, List.filter_append, List.filter_singleton]
  by_cases hRoot : link.root = uuid <;> simp [hRoot, line]

theorem line_extend_of_ne (hNe : link.root ≠ uuid) :
    (family.extend link).line uuid = family.line uuid := by
  rw [line_extend, if_neg hNe]

/-- The heir of a task fails: its attempt is the next of the line, and so is the
attempt of its copy. -/
theorem bounded_extend (h : family.Bounded first) (hHeir : family.Heir first link.entry.task)
    (hRoot : link.root = first.task.uuid) (hAttempt : link.entry.attempt = link.entry.task.attempt)
    (hCopy : link.entry.Precedes link.copy) : (family.extend link).Bounded first := by
  have hLine : (family.extend link).line first.task.uuid =
      family.line first.task.uuid ++ [link] := by
    rw [line_extend, if_pos hRoot]
  have hNext : link.entry.attempt.toNat =
      first.attempt.toNat + (family.line first.task.uuid).length := by
    rw [hAttempt, hHeir.attempt]
  have hWritten : link.copy.payloadAttempt.map UInt64.toNat =
      some (first.attempt.toNat + 1 + (family.line first.task.uuid).length) := by
    rw [hCopy.payloadAttempt, Option.map_some, UInt8.toNat_toUInt64, hCopy.succ, hNext]
    congr 1
    omega
  have hLimit : link.entry.task.retryLimit = first.task.retryLimit := by
    rw [TaskEvent.retryLimit, hHeir.onTimeout, hHeir.onHeartbeatMiss, TaskEvent.retryLimit]
  refine ⟨?_, ?_, ?_⟩
  · rw [hLine, List.length_append, List.length_singleton, ← hLimit]
    have hRoom := hCopy.limit
    omega
  · rw [hLine, List.map_append, h.recorded, List.length_append, List.length_singleton,
      List.range'_1_concat, List.map_singleton, hNext]
  · rw [hLine, List.map_append, h.written, List.length_append, List.length_singleton,
      List.range'_1_concat, List.map_append, List.map_singleton, List.map_singleton, hWritten]

theorem Orderly.extend (h : family.Orderly) (hFirst : first ∈ family.submitted)
    (hHeir : family.Heir first link.entry.task) (hRoot : link.root = first.task.uuid)
    (hAttempt : link.entry.attempt = link.entry.task.attempt)
    (hCopy : link.entry.Precedes link.copy) : (family.extend link).Orderly := by
  have hLinks : ∀ {found}, found ∈ (family.extend link).links ↔
      found ∈ family.links ∨ found = link := by
    intro found
    rw [Family.extend, List.mem_append, List.mem_singleton]
  refine ⟨h.unique, fun found hFound => ?_, fun found hFound => ?_, fun found hFound => ?_⟩
  · rcases hLinks.mp hFound with hOld | rfl
    · exact h.rooted found hOld
    · exact ⟨first, hFirst, hRoot.symm⟩
  · by_cases hSame : link.root = found.task.uuid
    · obtain rfl := h.unique first hFirst found hFound (hRoot.symm.trans hSame)
      exact bounded_extend (h.bounded first hFirst) hHeir hRoot hAttempt hCopy
    · exact (h.bounded found hFound).congr (line_extend_of_ne hSame)
  · rcases hLinks.mp hFound with hOld | rfl
    · exact h.fits found hOld
    · rw [← hCopy.succ]
      exact UInt8.toNat_lt _

/-- The others come down from elsewhere, where nothing has changed. -/
theorem Heirs.extend (h : family.Heirs held)
    (hElse : ∀ uuid task, held uuid = some task → family.root uuid ≠ link.root) :
    (family.extend link).Heirs held := by
  refine ⟨fun uuid task hTask => ?_, h.single⟩
  obtain ⟨first, hFirst, hUuid, hHeir⟩ := h.heir uuid task hTask
  have hNe : link.root ≠ first.task.uuid := fun hSame =>
    hElse uuid task hTask (hUuid.symm.trans hSame.symm)
  exact ⟨first, hFirst, hUuid, hHeir.congr (line_extend_of_ne hNe)⟩

/-- What is written into a copy is read back unchanged. -/
theorem attempt_copy (hCopy : entry.Precedes copy) : copy.attempt = entry.attempt + 1 := by
  rw [TaskEvent.attempt, hCopy.payloadAttempt, Option.getD_some, UInt8.toUInt8_toUInt64]

theorem Heir.copied (h : family.Heir first entry.task)
    (hAttempt : entry.attempt = entry.task.attempt) (hCopy : entry.Precedes copy) :
    (family.extend ⟨first.task.uuid, entry, copy⟩).Heir first copy := by
  refine ⟨hCopy.onTimeout.trans h.onTimeout, hCopy.onHeartbeatMiss.trans h.onHeartbeatMiss, ?_⟩
  rw [line_extend, if_pos rfl, List.length_append, List.length_singleton, attempt_copy hCopy,
    hCopy.succ, hAttempt, h.attempt, Nat.add_assoc]

theorem Heirs.respawn (h : family.Heirs held) (hOrderly : family.Orderly)
    (hHeld : held entry.task.uuid = some entry.task) (hAttempt : entry.attempt = entry.task.attempt)
    (hCopy : entry.Precedes copy) (watched : Bool) :
    (family.step (.respawn entry copy watched)).Orderly ∧
      (family.step (.respawn entry copy watched)).Heirs
        (Act.hold held (.respawn entry copy watched)) := by
  obtain ⟨first, hFirst, hRoot, hHeir⟩ := h.heir _ _ hHeld
  -- the entry was the one heir, so nobody that stays has its root
  have hElse : ∀ uuid task, Function.update held entry.task.uuid none uuid = some task →
      family.root uuid ≠ first.task.uuid := by
    intro uuid task hTask hSame
    obtain ⟨hNe, hStays⟩ := update_none_eq_some hTask
    exact hNe (h.single uuid task _ _ hStays hHeld (hSame.trans hRoot))
  have hExtended : (family.extend ⟨first.task.uuid, entry, copy⟩).Orderly :=
    hOrderly.extend hFirst hHeir rfl hAttempt hCopy
  have hOthers : (family.extend ⟨first.task.uuid, entry, copy⟩).Heirs
      (Function.update held entry.task.uuid none) := (h.remove entry.task.uuid).extend hElse
  cases watched with
  | false =>
      simp only [step, Act.hold, ← hRoot, Bool.false_eq_true, if_false]
      exact ⟨hExtended, hOthers⟩
  | true =>
      simp only [step, Act.hold, ← hRoot, if_true]
      refine ⟨⟨hExtended.unique, hExtended.rooted, fun found hFound => ?_, hExtended.fits⟩, ?_⟩
      · exact (hExtended.bounded found hFound).congr rfl
      · exact hOthers.attach hFirst (hHeir.copied hAttempt hCopy) hElse

end Family

namespace Journal

/-- The family is orderly, the tasks on the watchlist are its heirs, and whatever
was submitted has been seen. -/
structure Lineal (journal : Journal) : Prop where
  orderly : journal.family.Orderly
  heirs : journal.family.Heirs journal.bot.held
  seen : ∀ entry ∈ journal.family.submitted, entry.task.uuid ∈ journal.bot.seenTaskUuids

variable {journal : Journal}

theorem submitted_step {family : Family} {act : Act} {entry : WatchEntry}
    (h : entry ∈ (family.step act).submitted) : entry ∈ family.submitted ∨ act = .watch entry := by
  cases act with
  | watch other =>
      rw [Family.step, List.mem_append, List.mem_singleton] at h
      exact h.imp_right fun hSame => by rw [hSame]
  | _ => exact .inl h

theorem Lineal.effect (hSound : journal.bot.Sound) (h : journal.Lineal) {act : Option Act}
    {after : CoordinatorBot} (hEffect : journal.bot.Effect act after) :
    Lineal ⟨after, journal.log ++ act.toList⟩ := by
  cases act with
  | none =>
      rw [Option.toList_none, List.append_nil]
      refine ⟨h.orderly, ?_, fun entry hEntry => hEffect.seen _ (h.seen entry hEntry)⟩
      show journal.family.Heirs after.held
      rw [hEffect.held]
      exact h.heirs
  | some act =>
      have hFamily : family ⟨after, journal.log ++ [act]⟩ = journal.family.step act := by
        rw [family, run_concat]
        rfl
      have hAllowed := hEffect.allowed act rfl
      have hKept : (journal.family.step act).Orderly ∧
          (journal.family.step act).Heirs after.held := by
        rw [hEffect.held, Option.elim_some]
        cases act with
        | watch entry =>
            have hNew : ∀ first ∈ journal.family.submitted, first.task.uuid ≠ entry.task.uuid :=
              fun first hFirst hSame => hAllowed.1 (hSame ▸ h.seen first hFirst)
            exact ⟨h.orderly.watch hNew, h.heirs.watch h.orderly hNew hAllowed.2⟩
        | finish uuid => exact ⟨h.orderly, h.heirs.remove uuid⟩
        | notice uuid => exact ⟨h.orderly, h.heirs.remove uuid⟩
        | respawn entry copy watched =>
            obtain ⟨hEntry, hCopy, -⟩ := hAllowed
            exact h.heirs.respawn h.orderly
              (CoordinatorBot.held_eq_some_iff.mpr ⟨entry, hEntry, rfl⟩)
              (hSound.attempt _ entry hEntry) hCopy watched
      have hSeen : ∀ entry ∈ (journal.family.step act).submitted,
          entry.task.uuid ∈ after.seenTaskUuids := by
        intro entry hEntry
        rcases submitted_step hEntry with hOld | rfl
        · exact hEffect.seen _ (h.seen entry hOld)
        · refine hEffect.sound.seen _ (CoordinatorBot.isSome_held.mp ?_)
          rw [hEffect.held, Option.elim_some, Act.hold, Function.update_self]
          rfl
      rw [Option.toList_some]
      refine ⟨?_, ?_, ?_⟩ <;> rw [hFamily]
      · exact hKept.1
      · exact hKept.2
      · exact hSeen

theorem lineal_new (coordinatorRoomId : String) : (new coordinatorRoomId).Lineal := by
  refine ⟨⟨?_, ?_, ?_, ?_⟩, ⟨?_, ?_⟩, ?_⟩ <;>
    simp [new, family, Family.empty, CoordinatorBot.new, CoordinatorBot.held]

/-- In every run of a coordinator, whatever fails and however often, every task is
copied at most as often as its policies allow, with attempts that go up by one. -/
theorem always_retriesBounded (coordinatorRoomId : String) (inputs : List CoordinatorInput) :
    Always step RetriesBounded (new coordinatorRoomId) inputs := by
  have hKeep : ∀ (journal : Journal) (input : CoordinatorInput),
      journal.bot.Sound ∧ journal.Lineal →
      (journal.step input).bot.Sound ∧ (journal.step input).Lineal := fun journal input =>
    step_keeps (fun _ _ _ hSound h hEffect => h.effect hSound hEffect) input
  have hStart := And.intro (sound_new coordinatorRoomId) (lineal_new coordinatorRoomId)
  refine (always_of_step hKeep hStart inputs).mono fun journal h => ?_
  have hOrderly := h.2.orderly
  exact ⟨hOrderly.rooted, hOrderly.bounded, hOrderly.fits⟩

-- a task that nobody claims, and then its copy
example : ((run step (new "!coordinator")
    [.task unclaimed 0 answering,
     .check [⟨"t", 61000000000, answering, 61000000000, answering⟩],
     .check [⟨"t-retry-1", 122000000000, answering, 122000000000, answering⟩]]).family.line
    "t").map (·.copy.uuid) = ["t-retry-1", "t-retry-1-retry-2"] := by
  decide +kernel

end Journal

end Mxdx.Fabric
