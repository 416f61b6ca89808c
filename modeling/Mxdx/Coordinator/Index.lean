import Mxdx.Foundations.Automaton
import Mathlib.Data.List.AList
import Mathlib.Logic.Function.Basic

/-! `CapabilityIndex`: the workers that have each capability. It is kept up to
date with every worker that comes, changes or goes, and stands for a registry of
what each worker said last. -/
namespace Mxdx.Coordinator

/-- A tool that a worker offers, and whether it works. -/
structure WorkerTool where
  name : String
  healthy : Bool
deriving DecidableEq, Repr

/-- What a worker tells of itself. -/
structure WorkerInfo where
  workerId : String
  tools : List WorkerTool
  capabilities : List String
deriving DecidableEq, Repr

/-- The names that a worker is listed under: its capabilities and its healthy tools. -/
def WorkerInfo.names (info : WorkerInfo) : List String :=
  info.capabilities ++ (info.tools.filter WorkerTool.healthy).map WorkerTool.name

/-- Every required name is a capability or a healthy tool of the worker. -/
def WorkerInfo.Qualifies (info : WorkerInfo) (required : List String) : Prop :=
  ∀ name ∈ required, name ∈ info.capabilities ∨
    ∃ tool ∈ info.tools, tool.name = name ∧ tool.healthy = true

theorem WorkerInfo.qualifies_iff {info : WorkerInfo} {required : List String} :
    info.Qualifies required ↔ ∀ name ∈ required, name ∈ info.names := by
  have hName : ∀ name, name ∈ info.names ↔ name ∈ info.capabilities ∨
      ∃ tool ∈ info.tools, tool.name = name ∧ tool.healthy = true := by
    intro name
    simp only [names, List.mem_append, List.mem_map, List.mem_filter]
    apply or_congr_right
    constructor
    · rintro ⟨tool, ⟨hTool, hHealthy⟩, hSame⟩
      exact ⟨tool, hTool, hSame, hHealthy⟩
    · rintro ⟨tool, hTool, hSame, hHealthy⟩
      exact ⟨tool, ⟨hTool, hHealthy⟩, hSame⟩
  simp only [Qualifies, hName]

/-- What every worker said last, none for a worker that is gone. -/
abbrev Registry := String → Option WorkerInfo

namespace Registry

/-- No worker is known. -/
def new : Registry := fun _ => none

/-- What a worker tells replaces what it told before. -/
def update (registry : Registry) (info : WorkerInfo) : Registry :=
  Function.update registry info.workerId (some info)

/-- A worker is gone. -/
def remove (registry : Registry) (workerId : String) : Registry :=
  Function.update registry workerId none

/-- The names of a worker, with repetitions. -/
def names (registry : Registry) (workerId : String) : List String :=
  ((registry workerId).map WorkerInfo.names).getD []

/-- No worker that has all the required names has the first of them twice. -/
def FirstNameOnce (registry : Registry) (required : List String) : Prop :=
  ∀ name ∈ required.head?, ∀ workerId info, registry workerId = some info →
    info.Qualifies required → info.names.count name ≤ 1

theorem names_update (registry : Registry) (info : WorkerInfo) (workerId : String) :
    (registry.update info).names workerId =
      if workerId = info.workerId then info.names else registry.names workerId := by
  by_cases hWorker : workerId = info.workerId <;> simp [names, update, hWorker]

theorem names_remove (registry : Registry) (gone workerId : String) :
    (registry.remove gone).names workerId =
      if workerId = gone then [] else registry.names workerId := by
  by_cases hWorker : workerId = gone <;> simp [names, remove, hWorker]

end Registry

/-- The workers of each capability, and what each of them last told. -/
structure CapabilityIndex where
  byCapability : String → Option (List String)
  workers : AList fun _ : String => WorkerInfo

namespace CapabilityIndex

/-- No worker is known. -/
def new : CapabilityIndex := ⟨fun _ => none, ∅⟩

/-- `by_capability.entry(name).or_default().push(worker_id)`. -/
def push (index : CapabilityIndex) (workerId name : String) : CapabilityIndex :=
  { index with
    byCapability := Function.update index.byCapability name
      (some ((index.byCapability name).getD [] ++ [workerId])) }

/-- Capabilities that are left without a worker are dropped. -/
def remove (index : CapabilityIndex) (workerId : String) : CapabilityIndex where
  workers := index.workers.erase workerId
  byCapability := fun name =>
    ((index.byCapability name).map fun ids => ids.filter (· ≠ workerId)).filter (!·.isEmpty)

/-- The old entries of the worker go before the new ones come. -/
def update (index : CapabilityIndex) (info : WorkerInfo) : CapabilityIndex :=
  let removed := index.remove info.workerId
  let capable := info.capabilities.foldl (push · info.workerId ·) removed
  let equipped := info.tools.foldl
    (fun index tool => if tool.healthy then index.push info.workerId tool.name else index) capable
  { equipped with workers := equipped.workers.insert info.workerId info }

/-- The workers in the order in which they came. -/
def workersWithCapability (index : CapabilityIndex) (capability : String) : List String :=
  (index.byCapability capability).getD []

/-- The workers of the first capability that have all the others, too. -/
def workersWithAll (index : CapabilityIndex) (capabilities : List String) : List String :=
  if capabilities.isEmpty then index.workers.keys
  else
    (capabilities.foldl
      (fun result cap =>
        let workers := index.workersWithCapability cap
        match result with
        | none => some workers
        | some prev => some (prev.filter (workers.contains ·)))
      none).getD []

section Counting

variable {index : CapabilityIndex} {registry : Registry}

theorem workersWithCapability_push (workerId name capability : String) :
    (index.push workerId name).workersWithCapability capability =
      if capability = name then index.workersWithCapability capability ++ [workerId]
      else index.workersWithCapability capability := by
  by_cases hName : capability = name <;> simp [workersWithCapability, push, hName]

theorem workersWithCapability_remove (workerId capability : String) :
    (index.remove workerId).workersWithCapability capability =
      (index.workersWithCapability capability).filter (· ≠ workerId) := by
  simp only [workersWithCapability, remove]
  cases index.byCapability capability with
  | none => rfl
  | some ids =>
      rw [Option.map_some, Option.getD_some]
      cases ids.filter (· ≠ workerId) <;> rfl

theorem count_remove (workerId gone capability : String) :
    ((index.remove gone).workersWithCapability capability).count workerId =
      if workerId = gone then 0 else (index.workersWithCapability capability).count workerId := by
  rw [workersWithCapability_remove]
  split
  next hGone =>
    rw [List.count_eq_zero, List.mem_filter]
    simp [hGone]
  next hOther => exact List.count_filter (by simpa using hOther)

@[simp] theorem workers_push (workerId name : String) :
    (index.push workerId name).workers = index.workers := rfl

/-- A worker is pushed once for each time that a name occurs. -/
theorem count_foldl_push (index : CapabilityIndex) (names : List String)
    (added workerId capability : String) :
    ((names.foldl (push · added ·) index).workersWithCapability capability).count workerId =
      (index.workersWithCapability capability).count workerId +
        if workerId = added then names.count capability else 0 := by
  induction names generalizing index with
  | nil => simp
  | cons name names ih =>
      rw [List.foldl_cons, ih, workersWithCapability_push, List.count_cons]
      by_cases hName : capability = name
      · by_cases hWorker : workerId = added
        · simp [hName, hWorker, Nat.add_comm, Nat.add_assoc]
        · simp [hName, hWorker, Ne.symm hWorker]
      · simp [hName, Ne.symm hName]

@[simp] theorem workers_foldl_push (names : List String) (workerId : String) :
    (names.foldl (push · workerId ·) index).workers = index.workers := by
  induction names generalizing index with
  | nil => rfl
  | cons name names ih => rw [List.foldl_cons, ih, workers_push]

/-- The two loops of `update` push the worker under all its names. -/
theorem update_eq (info : WorkerInfo) :
    index.update info =
      let pushed := info.names.foldl (push · info.workerId ·) (index.remove info.workerId)
      { pushed with workers := pushed.workers.insert info.workerId info } := by
  rw [update, WorkerInfo.names, List.foldl_append, List.foldl_map, List.foldl_filter]

theorem count_update (info : WorkerInfo) (workerId capability : String) :
    ((index.update info).workersWithCapability capability).count workerId =
      if workerId = info.workerId then info.names.count capability
      else (index.workersWithCapability capability).count workerId := by
  have hPushed := count_foldl_push (index.remove info.workerId) info.names info.workerId
    workerId capability
  rw [count_remove] at hPushed
  rw [update_eq]
  refine hPushed.trans ?_
  split <;> simp

theorem lookup_update (info : WorkerInfo) (workerId : String) :
    (index.update info).workers.lookup workerId =
      if workerId = info.workerId then some info else index.workers.lookup workerId := by
  rw [update_eq]
  simp only [workers_foldl_push]
  split
  next hWorker => rw [hWorker, AList.lookup_insert]
  next hOther =>
    rw [AList.lookup_insert_ne hOther]
    exact AList.lookup_erase_ne hOther

/-- The index says what the registry says, and lists a worker under a name as
often as the worker has it. -/
structure Mirrors (index : CapabilityIndex) (registry : Registry) : Prop where
  workers : ∀ workerId, index.workers.lookup workerId = registry workerId
  listed : ∀ capability workerId,
    (index.workersWithCapability capability).count workerId =
      (registry.names workerId).count capability

theorem mirrors_new : new.Mirrors .new :=
  ⟨fun _ => rfl, fun _ _ => rfl⟩

theorem Mirrors.update (h : index.Mirrors registry) (info : WorkerInfo) :
    (index.update info).Mirrors (registry.update info) where
  workers := by
    intro workerId
    rw [lookup_update, h.workers, Registry.update, Function.update_apply]
  listed := by
    intro capability workerId
    rw [count_update, Registry.names_update, h.listed]
    split <;> rfl

theorem Mirrors.remove (h : index.Mirrors registry) (gone : String) :
    (index.remove gone).Mirrors (registry.remove gone) where
  workers := by
    intro workerId
    rw [Registry.remove, Function.update_apply]
    split
    next hGone =>
      rw [hGone]
      exact AList.lookup_erase gone index.workers
    next hOther => exact (AList.lookup_erase_ne hOther).trans (h.workers workerId)
  listed := by
    intro capability workerId
    rw [count_remove, Registry.names_remove, h.listed]
    split <;> rfl

/-- Every further capability thins out the list. -/
theorem foldl_capabilities (prev : List String) (capabilities : List String) :
    capabilities.foldl
      (fun result cap =>
        let workers := index.workersWithCapability cap
        match result with
        | none => some workers
        | some prev => some (prev.filter (workers.contains ·)))
      (some prev) =
    some (prev.filter fun id =>
      capabilities.all fun cap => (index.workersWithCapability cap).contains id) := by
  induction capabilities generalizing prev with
  | nil => simp
  | cons cap capabilities ih =>
      rw [List.foldl_cons]
      dsimp only
      rw [ih, List.filter_filter]
      simp only [List.all_cons, Bool.and_comm]

theorem workersWithAll_cons (first : String) (rest : List String) :
    index.workersWithAll (first :: rest) =
      (index.workersWithCapability first).filter fun id =>
        rest.all fun cap => (index.workersWithCapability cap).contains id := by
  rw [workersWithAll, if_neg (by simp), List.foldl_cons]
  dsimp only
  rw [foldl_capabilities, Option.getD_some]

variable (h : index.Mirrors registry)
include h

theorem Mirrors.mem_workersWithCapability {capability workerId : String} :
    workerId ∈ index.workersWithCapability capability ↔
      capability ∈ registry.names workerId := by
  rw [← List.count_pos_iff, h.listed, List.count_pos_iff]

theorem Mirrors.mem_keys {workerId : String} :
    workerId ∈ index.workers.keys ↔ ∃ info, registry workerId = some info := by
  rw [← AList.mem_keys, ← AList.lookup_isSome, h.workers, Option.isSome_iff_exists]

/-- A name that is listed belongs to a worker that is there. -/
theorem Mirrors.mem_workersWithAll {required : List String} {workerId : String} :
    workerId ∈ index.workersWithAll required ↔
      ∃ info, registry workerId = some info ∧ info.Qualifies required := by
  cases required with
  | nil =>
      rw [workersWithAll, if_pos List.isEmpty_nil, h.mem_keys]
      simp [WorkerInfo.Qualifies]
  | cons first rest =>
      rw [workersWithAll_cons, List.mem_filter, h.mem_workersWithCapability, List.all_eq_true]
      simp only [List.contains_iff_mem, h.mem_workersWithCapability, WorkerInfo.qualifies_iff,
        List.forall_mem_cons]
      cases hInfo : registry workerId with
      | none => simp [Registry.names, hInfo]
      | some info => simp [Registry.names, hInfo]

/-- A worker stands in the list as often as it has the first name. -/
theorem Mirrors.nodup_workersWithAll_iff {required : List String} :
    (index.workersWithAll required).Nodup ↔ registry.FirstNameOnce required := by
  cases required with
  | nil =>
      rw [workersWithAll, if_pos List.isEmpty_nil]
      exact iff_of_true index.workers.keys_nodup (by simp [Registry.FirstNameOnce])
  | cons first rest =>
      have hCount : ∀ workerId info, registry workerId = some info →
          info.Qualifies (first :: rest) →
          (index.workersWithAll (first :: rest)).count workerId = info.names.count first := by
        intro workerId info hInfo hQualifies
        have hMem := h.mem_workersWithAll.mpr ⟨info, hInfo, hQualifies⟩
        rw [workersWithAll_cons, List.mem_filter] at hMem
        rw [workersWithAll_cons, List.count_filter, h.listed, Registry.names, hInfo]
        · rfl
        · exact hMem.2
      rw [List.nodup_iff_count_le_one]
      constructor
      · rintro hOnce name hName workerId info hInfo hQualifies
        cases hName
        rw [← hCount workerId info hInfo hQualifies]
        exact hOnce workerId
      · intro hOnce workerId
        by_cases hMem : workerId ∈ index.workersWithAll (first :: rest)
        · obtain ⟨info, hInfo, hQualifies⟩ := h.mem_workersWithAll.mp hMem
          rw [hCount workerId info hInfo hQualifies]
          exact hOnce first rfl workerId info hInfo hQualifies
        · rw [List.count_eq_zero.mpr hMem]
          exact Nat.zero_le 1

end Counting

end CapabilityIndex

end Mxdx.Coordinator
