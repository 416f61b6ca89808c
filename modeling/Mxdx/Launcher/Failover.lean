import Mxdx.Basic
import Mxdx.Foundations.Automaton
import Mathlib.Algebra.Group.Nat.Defs
import Mathlib.Data.Fin.VecNotation
import Mathlib.Data.Fintype.Basic
import Mathlib.Data.List.FinRange
import Mathlib.Data.List.MinMax

/-! `MultiHsLauncher`: a launcher with an identity on several homeservers, of which one is
the primary. A primary that misses three health checks in a row is given up for the
reachable server that answers fastest. -/
namespace Mxdx.Launcher

open Automaton

/-- So many probes have to fail in a row. -/
def failThreshold : UInt32 := 3

/-- How far the launcher has come in giving up its primary. -/
inductive FailoverState where
  | active
  | failing
  | failover
  | unavailable
deriving DecidableEq, Repr

/-- How long each server takes to answer a `sync_once` in one check, if it does. -/
abbrev Probe (n : Nat) := Fin n → Option Duration

/-- `Duration::MAX`. -/
def maxLatency : Duration := (2 ^ 64 - 1) * 1000000000 + 999999999

/-- The primary `old` is given up for `new`, after `streak` missed checks in a row and by
the answers of `probe`. -/
structure Switch (n : Nat) where
  old : Fin n
  new : Fin n
  streak : Nat
  probe : Probe n

/-- The old primary had missed three checks in a row, the last of them this one, in which
the new one answered, and no other answered faster. -/
structure Switch.Justified (change : Switch n) : Prop where
  streak : 3 ≤ change.streak
  missed : change.probe change.old = none
  moved : change.new ≠ change.old
  fastest : ∃ elapsed, change.probe change.new = some elapsed ∧
    ∀ i other, change.probe i = some other → elapsed ≤ other

/-- The launcher with its clients. `streak` counts the checks in a row that the present
primary has missed, without a bound; `lastProbe` are the answers of the latest check, and
`switches` the changes of the primary so far. -/
structure MultiHsLauncher (n : Nat) where
  primaryIndex : Fin n
  state : FailoverState
  consecutiveFailures : UInt32
  streak : Nat
  lastProbe : Option (Probe n)
  switches : List (Switch n)

namespace MultiHsLauncher

variable {n : Nat}

/-- A server that does not answer counts as the slowest. -/
def latency (probe : Probe n) (i : Fin n) : Duration := (probe i).getD maxLatency

/-- `Iterator::min_by_key`: the first of the smallest. -/
def minByKey {α : Type} (key : α → Nat) (items : List α) : Option α :=
  items.foldl (fun best item => match best with
    | none => some item
    | some held => if key item < key held then some item else some held) none

/-- `connect` tells whether the account on a server could be registered. -/
def start (connect : Fin n → Bool) (probe : Probe n) : Option (MultiHsLauncher n) :=
  if (List.finRange n).all connect then
    (minByKey (latency probe) (List.finRange n)).map fun primaryIndex =>
      ⟨primaryIndex, .active, 0, 0, none, []⟩
  else none

/-- One turn of the loop of `failover`. -/
def better (probe : Probe n) (best : Option (Fin n × Duration)) (i : Fin n) :
    Option (Fin n × Duration) :=
  match probe i with
  | some elapsed =>
      if best.all (fun held => elapsed < held.2) then some (i, elapsed) else best
  | none => best

/-- The fastest of the others that answers becomes the primary. -/
def failover (launcher : MultiHsLauncher n) (probe : Probe n) : MultiHsLauncher n :=
  let others := (List.finRange n).filter (· ≠ launcher.primaryIndex)
  match others.foldl (better probe) none with
  | some (newIndex, _) =>
      { launcher with
        primaryIndex := newIndex
        state := .active
        consecutiveFailures := 0
        streak := 0
        switches := launcher.switches ++
          [⟨launcher.primaryIndex, newIndex, launcher.streak, probe⟩] }
  | none => { launcher with state := .unavailable }

/-- The counter wraps in a release build. -/
def healthCheck (launcher : MultiHsLauncher n) (probe : Probe n) : MultiHsLauncher n :=
  let launcher := { launcher with lastProbe := some probe }
  match probe launcher.primaryIndex with
  | some _ => { launcher with state := .active, consecutiveFailures := 0, streak := 0 }
  | none =>
      let launcher := { launcher with
        consecutiveFailures := launcher.consecutiveFailures + 1
        streak := launcher.streak + 1 }
      if failThreshold ≤ launcher.consecutiveFailures then
        { launcher with state := .failover }.failover probe
      else { launcher with state := .failing }

section Choice

theorem minByKey_eq_argmin {α : Type} (key : α → Nat) (items : List α) :
    minByKey key items = items.argmin key := by
  rw [minByKey, List.argmin]
  congr 1
  funext best item
  cases best <;> rfl

/-- The loop finds the fastest of the servers that answer. -/
theorem foldl_better (probe : Probe n) (indices : List (Fin n)) :
    indices.foldl (better probe) none =
      (indices.filterMap fun i => (probe i).map fun elapsed => (i, elapsed)).argmin Prod.snd := by
  rw [← minByKey_eq_argmin, minByKey, List.foldl_filterMap]
  congr 1
  funext best i
  cases hProbe : probe i with
  | none => simp [better, hProbe]
  | some elapsed => cases best <;> simp [better, hProbe]

theorem mem_candidates {probe : Probe n} {primary : Fin n} {candidate : Fin n × Duration} :
    candidate ∈ ((List.finRange n).filter (· ≠ primary)).filterMap
        (fun i => (probe i).map fun elapsed => (i, elapsed)) ↔
      candidate.1 ≠ primary ∧ probe candidate.1 = some candidate.2 := by
  obtain ⟨i, elapsed⟩ := candidate
  simp [List.mem_filterMap]

end Choice

section Soundness

/-- What the launcher knows after its latest check. -/
structure Sound (launcher : MultiHsLauncher n) : Prop where
  counted : launcher.consecutiveFailures.toNat = launcher.streak % 2 ^ 32
  settled : launcher.state ≠ .failover
  active : ∀ probe, launcher.lastProbe = some probe →
    (launcher.state = .active ↔ (probe launcher.primaryIndex).isSome)
  unavailable : launcher.state = .unavailable →
    ∃ probe, launcher.lastProbe = some probe ∧ ∀ i, probe i = none
  failing : launcher.state = .failing → launcher.streak % 2 ^ 32 < 3
  switches : ∀ change ∈ launcher.switches, change.Justified

variable {launcher : MultiHsLauncher n}

theorem failover_cases (launcher : MultiHsLauncher n) (probe : Probe n)
    (hMissed : probe launcher.primaryIndex = none) :
    (∀ i, probe i = none) ∧ launcher.failover probe = { launcher with state := .unavailable } ∨
    ∃ newIndex elapsed, newIndex ≠ launcher.primaryIndex ∧ probe newIndex = some elapsed ∧
      (∀ i other, probe i = some other → elapsed ≤ other) ∧
      launcher.failover probe = { launcher with
        primaryIndex := newIndex
        state := .active
        consecutiveFailures := 0
        streak := 0
        switches := launcher.switches ++
          [⟨launcher.primaryIndex, newIndex, launcher.streak, probe⟩] } := by
  have hOther : ∀ i other, probe i = some other → i ≠ launcher.primaryIndex := by
    rintro i other hProbe rfl
    simp [hMissed] at hProbe
  cases hBest :
      ((List.finRange n).filter (· ≠ launcher.primaryIndex)).foldl (better probe) none with
  | none =>
      refine .inl ⟨fun i => ?_, by simp only [failover, hBest]⟩
      rw [foldl_better, List.argmin_eq_none] at hBest
      by_contra hSome
      obtain ⟨elapsed, hProbe⟩ := Option.ne_none_iff_exists'.mp hSome
      have hMem : (i, elapsed) ∈ _ := mem_candidates.mpr ⟨hOther i elapsed hProbe, hProbe⟩
      rw [hBest] at hMem
      cases hMem
  | some best =>
      obtain ⟨newIndex, elapsed⟩ := best
      have hFound := hBest
      rw [foldl_better] at hFound
      obtain ⟨hMoved, hProbe⟩ := mem_candidates.mp (List.argmin_mem hFound)
      refine .inr ⟨newIndex, elapsed, hMoved, hProbe, ?_, by simp only [failover, hBest]⟩
      intro i other hAnswer
      have hMem : (i, other) ∈ _ := mem_candidates.mpr ⟨hOther i other hAnswer, hAnswer⟩
      exact List.le_of_mem_argmin hMem hFound

theorem toNat_succ_failures
    (hCounted : launcher.consecutiveFailures.toNat = launcher.streak % 2 ^ 32) :
    (launcher.consecutiveFailures + 1).toNat = (launcher.streak + 1) % 2 ^ 32 := by
  rw [UInt32.toNat_add, hCounted]
  simp

theorem sound_failover {probe : Probe n}
    (hCounted : launcher.consecutiveFailures.toNat = launcher.streak % 2 ^ 32)
    (hSwitches : ∀ change ∈ launcher.switches, change.Justified)
    (hProbe : launcher.lastProbe = some probe) (hMissed : probe launcher.primaryIndex = none)
    (hStreak : 3 ≤ launcher.streak) : (launcher.failover probe).Sound := by
  rcases failover_cases launcher probe hMissed with
    ⟨hNone, hEq⟩ | ⟨newIndex, elapsed, hMoved, hAnswer, hFastest, hEq⟩
  · rw [hEq]
    refine ⟨hCounted, by simp, ?_, fun _ => ⟨probe, hProbe, hNone⟩, by simp, hSwitches⟩
    intro latest hLatest
    obtain rfl := Option.some.inj (hProbe.symm.trans hLatest)
    exact iff_of_false (by simp) (by simp [hNone])
  · rw [hEq]
    refine ⟨rfl, by simp, ?_, by simp, by simp, ?_⟩
    · intro latest hLatest
      obtain rfl := Option.some.inj (hProbe.symm.trans hLatest)
      exact iff_of_true rfl (by simp [hAnswer])
    · intro change hMem
      rcases List.mem_append.mp hMem with hOld | hNew
      · exact hSwitches change hOld
      · obtain rfl := List.mem_singleton.mp hNew
        exact ⟨hStreak, hMissed, hMoved, elapsed, hAnswer, hFastest⟩

theorem sound_healthCheck (launcher : MultiHsLauncher n) (probe : Probe n) (h : launcher.Sound) :
    (launcher.healthCheck probe).Sound := by
  cases hPrimary : probe launcher.primaryIndex with
  | some elapsed =>
      have hEq : launcher.healthCheck probe = { launcher with
          lastProbe := some probe, state := .active, consecutiveFailures := 0, streak := 0 } := by
        simp only [healthCheck, hPrimary]
      rw [hEq]
      refine ⟨rfl, by simp, ?_, by simp, by simp, h.switches⟩
      rintro _ ⟨⟩
      exact iff_of_true rfl (by simp [hPrimary])
  | none =>
      have hCounted := toNat_succ_failures h.counted
      by_cases hThreshold : failThreshold ≤ launcher.consecutiveFailures + 1
      · have hStreak : 3 ≤ (launcher.streak + 1) % 2 ^ 32 := by
          rw [← hCounted]
          exact UInt32.le_iff_toNat_le.mp hThreshold
        have hEq : launcher.healthCheck probe = failover { launcher with
            lastProbe := some probe
            consecutiveFailures := launcher.consecutiveFailures + 1
            streak := launcher.streak + 1
            state := .failover } probe := by
          simp only [healthCheck, hPrimary, if_pos hThreshold]
        rw [hEq]
        exact sound_failover hCounted h.switches rfl hPrimary
          (Nat.le_trans hStreak (Nat.mod_le _ _))
      · have hShort : (launcher.streak + 1) % 2 ^ 32 < 3 := by
          rw [← hCounted]
          exact Nat.lt_of_not_le fun hLe => hThreshold (UInt32.le_iff_toNat_le.mpr hLe)
        have hEq : launcher.healthCheck probe = { launcher with
            lastProbe := some probe
            consecutiveFailures := launcher.consecutiveFailures + 1
            streak := launcher.streak + 1
            state := .failing } := by
          simp only [healthCheck, hPrimary, if_neg hThreshold]
        rw [hEq]
        refine ⟨hCounted, by simp, ?_, by simp, fun _ => hShort, h.switches⟩
        rintro _ ⟨⟩
        exact iff_of_false (by simp) (by simp [hPrimary])

theorem start_eq_some {connect : Fin n → Bool} {probe : Probe n} {launcher : MultiHsLauncher n}
    (h : start connect probe = some launcher) :
    (∀ i, latency probe launcher.primaryIndex ≤ latency probe i) ∧ launcher.Sound := by
  unfold start at h
  split at h
  · obtain ⟨primary, hPrimary, rfl⟩ := Option.map_eq_some_iff.mp h
    rw [minByKey_eq_argmin] at hPrimary
    refine ⟨fun i => List.le_of_mem_argmin (List.mem_finRange i) hPrimary, ?_⟩
    exact ⟨rfl, by simp, by simp, by simp, by simp, List.forall_mem_nil _⟩
  · cases h

/-- However the servers answer: the launcher begins with the fastest, gives up a primary only
after three missed checks in a row and only for the fastest that answers, and is active after
a check exactly if its primary has answered it, unavailable only if none has. -/
theorem failover_sound (connect : Fin n → Bool) (probe : Probe n) (launcher : MultiHsLauncher n)
    (hStart : start connect probe = some launcher) (checks : List (Probe n)) :
    (∀ i, latency probe launcher.primaryIndex ≤ latency probe i) ∧
      Always healthCheck Sound launcher checks := by
  obtain ⟨hFastest, hSound⟩ := start_eq_some hStart
  exact ⟨hFastest, always_of_step sound_healthCheck hSound checks⟩

/-- The second of two servers is the faster one, and then no longer answers. -/
theorem failover_sound_two :
    (∀ i, latency ![some 7, some 4] (1 : Fin 2) ≤ latency ![some 7, some 4] i) ∧
      Always healthCheck Sound (⟨1, .active, 0, 0, none, []⟩ : MultiHsLauncher 2)
        [![none, none], ![none, none], ![some 7, none]] :=
  failover_sound (fun _ => true) ![some 7, some 4] _ rfl _

end Soundness

end MultiHsLauncher

end Mxdx.Launcher
