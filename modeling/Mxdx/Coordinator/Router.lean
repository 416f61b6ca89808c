import Mxdx.Coordinator.Index
import Mxdx.Worker.Task

/-! `Router`: the first worker that has all that a task asks for. A fleet gives
every report of a worker to the router and to the index, and the two should
answer alike. -/
namespace Mxdx.Coordinator

open Automaton
open Worker (SessionTask)

/-- A worker and the room that it is reached in. -/
structure WorkerEntry where
  roomId : String
  info : WorkerInfo
deriving DecidableEq, Repr

/-- The workers in the order of their first report. -/
structure Router where
  workers : List WorkerEntry

namespace Router

/-- No worker is known. -/
def new : Router := ⟨[]⟩

/-- The entry takes the place of the worker's old one, or goes to the end. -/
def place (entry : WorkerEntry) : List WorkerEntry → List WorkerEntry
  | [] => [entry]
  | first :: rest =>
      if first.info.workerId = entry.info.workerId then entry :: rest
      else first :: place entry rest

/-- A worker that is known keeps its place. -/
def updateWorker (router : Router) (roomId : String) (info : WorkerInfo) : Router :=
  ⟨place ⟨roomId, info⟩ router.workers⟩

/-- A worker is gone. -/
def removeWorker (router : Router) (workerId : String) : Router :=
  ⟨router.workers.filter (·.info.workerId ≠ workerId)⟩

/-- The worker has the name as a capability, or a healthy tool of this name. -/
def provides (info : WorkerInfo) (req : String) : Bool :=
  info.capabilities.contains req || info.tools.any fun tool => tool.name == req && tool.healthy

/-- The first worker that has everything that is asked for. -/
def route (router : Router) (task : SessionTask) : Option WorkerEntry :=
  if task.requiredCapabilities.isEmpty then router.workers.head?
  else
    (router.workers.filter fun entry =>
      task.requiredCapabilities.all (provides entry.info ·)).head?

theorem all_provides_iff {info : WorkerInfo} {required : List String} :
    required.all (provides info ·) = true ↔ info.Qualifies required := by
  simp [provides, WorkerInfo.Qualifies]

/-- Both branches of `route` take the first worker that qualifies. -/
theorem route_eq (router : Router) (task : SessionTask) :
    router.route task =
      (router.workers.filter fun entry =>
        task.requiredCapabilities.all (provides entry.info ·)).head? := by
  unfold route
  split
  next hNone =>
    rw [List.isEmpty_iff.mp hNone]
    simp
  · rfl

section Mirroring

variable {router : Router} {registry : Registry}

/-- The router knows what the registry says of each worker, once. -/
structure Mirrors (router : Router) (registry : Registry) : Prop where
  once : (router.workers.map (·.info.workerId)).Nodup
  known : ∀ workerId info, registry workerId = some info ↔
    info.workerId = workerId ∧ info ∈ router.workers.map (·.info)

theorem mirrors_new : new.Mirrors .new :=
  ⟨List.nodup_nil, by simp [new, Registry.new]⟩

theorem map_workerId_place (entry : WorkerEntry) (workers : List WorkerEntry) :
    (place entry workers).map (·.info.workerId) =
      if entry.info.workerId ∈ workers.map (·.info.workerId) then workers.map (·.info.workerId)
      else workers.map (·.info.workerId) ++ [entry.info.workerId] := by
  induction workers with
  | nil => simp [place]
  | cons first rest ih =>
      rw [place]
      by_cases hFirst : first.info.workerId = entry.info.workerId
      · simp [hFirst]
      · rw [if_neg hFirst, List.map_cons, ih]
        simp only [List.map_cons, List.mem_cons, Ne.symm hFirst, false_or]
        split <;> rfl

/-- The others keep their entries. -/
theorem mem_place {entry other : WorkerEntry} {workers : List WorkerEntry}
    (hOnce : (workers.map (·.info.workerId)).Nodup) :
    other ∈ place entry workers ↔
      other = entry ∨ (other ∈ workers ∧ other.info.workerId ≠ entry.info.workerId) := by
  induction workers with
  | nil => simp [place]
  | cons first rest ih =>
      rw [List.map_cons, List.nodup_cons] at hOnce
      rw [place]
      by_cases hFirst : first.info.workerId = entry.info.workerId
      · have hRest : other ∈ rest → other.info.workerId ≠ entry.info.workerId := by
          rintro hMem hSame
          apply hOnce.1
          rw [hFirst, ← hSame]
          exact List.mem_map_of_mem hMem
        rw [if_pos hFirst, List.mem_cons, List.mem_cons]
        constructor
        · rintro (hEntry | hMem)
          · exact .inl hEntry
          · exact .inr ⟨.inr hMem, hRest hMem⟩
        · rintro (hEntry | ⟨hOld | hMem, hOther⟩)
          · exact .inl hEntry
          · rw [hOld] at hOther
            exact absurd hFirst hOther
          · exact .inr hMem
      · rw [if_neg hFirst, List.mem_cons, List.mem_cons, ih hOnce.2]
        constructor
        · rintro (rfl | hEntry | ⟨hMem, hOther⟩)
          · exact .inr ⟨.inl rfl, hFirst⟩
          · exact .inl hEntry
          · exact .inr ⟨.inr hMem, hOther⟩
        · rintro (hEntry | ⟨hOld | hMem, hOther⟩)
          · exact .inr (.inl hEntry)
          · exact .inl hOld
          · exact .inr (.inr ⟨hMem, hOther⟩)

theorem Mirrors.updateWorker (h : router.Mirrors registry) (roomId : String) (info : WorkerInfo) :
    (router.updateWorker roomId info).Mirrors (registry.update info) where
  once := by
    rw [Router.updateWorker, map_workerId_place]
    split
    · exact h.once
    next hNew =>
      exact h.once.append (List.nodup_singleton _) (List.disjoint_singleton.mpr hNew)
  known := by
    intro workerId other
    simp only [Router.updateWorker, List.mem_map, mem_place h.once]
    by_cases hWorker : workerId = info.workerId
    · subst hWorker
      rw [Registry.update, Function.update_self, Option.some.injEq]
      constructor
      · rintro rfl
        exact ⟨rfl, _, .inl rfl, rfl⟩
      · rintro ⟨hSame, entry, rfl | ⟨-, hOther⟩, rfl⟩
        · rfl
        · exact absurd hSame hOther
    · rw [Registry.update, Function.update_of_ne hWorker, h.known, List.mem_map]
      apply and_congr_right
      rintro rfl
      constructor
      · rintro ⟨entry, hEntry, rfl⟩
        exact ⟨entry, .inr ⟨hEntry, hWorker⟩, rfl⟩
      · rintro ⟨entry, rfl | ⟨hEntry, -⟩, rfl⟩
        · exact absurd rfl hWorker
        · exact ⟨entry, hEntry, rfl⟩

theorem Mirrors.removeWorker (h : router.Mirrors registry) (gone : String) :
    (router.removeWorker gone).Mirrors (registry.remove gone) where
  once := h.once.sublist (List.filter_sublist.map _)
  known := by
    intro workerId info
    simp only [Router.removeWorker, List.mem_map, List.mem_filter, decide_eq_true_eq]
    by_cases hGone : workerId = gone
    · subst hGone
      rw [Registry.remove, Function.update_self]
      apply iff_of_false (by simp)
      rintro ⟨hSame, entry, ⟨-, hOther⟩, rfl⟩
      exact hOther hSame
    · rw [Registry.remove, Function.update_of_ne hGone, h.known, List.mem_map]
      apply and_congr_right
      rintro rfl
      constructor
      · rintro ⟨entry, hEntry, rfl⟩
        exact ⟨entry, ⟨hEntry, hGone⟩, rfl⟩
      · rintro ⟨entry, ⟨hEntry, -⟩, rfl⟩
        exact ⟨entry, hEntry, rfl⟩

/-- The worker that a task goes to is there and qualifies. -/
theorem Mirrors.qualifies_of_route (h : router.Mirrors registry) {task : SessionTask}
    {entry : WorkerEntry} (hRoute : router.route task = some entry) :
    registry entry.info.workerId = some entry.info ∧
      entry.info.Qualifies task.requiredCapabilities := by
  rw [route_eq] at hRoute
  have hMem := List.mem_filter.mp (List.mem_of_mem_head? hRoute)
  exact ⟨(h.known _ _).mpr ⟨rfl, List.mem_map_of_mem hMem.1⟩, all_provides_iff.mp hMem.2⟩

/-- A task goes to some worker if any worker qualifies. -/
theorem Mirrors.isSome_route_iff (h : router.Mirrors registry) {task : SessionTask} :
    (router.route task).isSome = true ↔
      ∃ workerId info, registry workerId = some info ∧
        info.Qualifies task.requiredCapabilities := by
  constructor
  · intro hSome
    obtain ⟨entry, hRoute⟩ := Option.isSome_iff_exists.mp hSome
    exact ⟨_, _, h.qualifies_of_route hRoute⟩
  · rintro ⟨workerId, info, hInfo, hQualifies⟩
    obtain ⟨rfl, hMem⟩ := (h.known workerId info).mp hInfo
    obtain ⟨entry, hEntry, rfl⟩ := List.mem_map.mp hMem
    rw [route_eq, List.isSome_head?]
    exact List.ne_nil_of_mem (List.mem_filter.mpr ⟨hEntry, all_provides_iff.mpr hQualifies⟩)

end Mirroring

end Router

/-- A report of a worker, or its end. -/
inductive FleetCall where
  | update (roomId : String) (info : WorkerInfo)
  | remove (workerId : String)

/-- What the workers have told, without any index. -/
def Registry.step (registry : Registry) : FleetCall → Registry
  | .update _ info => registry.update info
  | .remove workerId => registry.remove workerId

/-- Index and router, beside the registry of what they were told. -/
structure Fleet where
  index : CapabilityIndex
  router : Router
  registry : Registry

namespace Fleet

/-- No worker is known to anybody. -/
def new : Fleet := ⟨.new, .new, .new⟩

/-- The index, the router and the registry hear the same calls. -/
def step (fleet : Fleet) : FleetCall → Fleet
  | .update roomId info =>
      ⟨fleet.index.update info, fleet.router.updateWorker roomId info, fleet.registry.update info⟩
  | .remove workerId =>
      ⟨fleet.index.remove workerId, fleet.router.removeWorker workerId,
        fleet.registry.remove workerId⟩

/-- Index and router agree on a task, and on who is fit for it. -/
structure Agrees (fleet : Fleet) (task : SessionTask) : Prop where
  listed : ∀ workerId, workerId ∈ fleet.index.workersWithAll task.requiredCapabilities ↔
    ∃ info, fleet.registry workerId = some info ∧ info.Qualifies task.requiredCapabilities
  routed : (fleet.router.route task).isSome = true ↔
    fleet.index.workersWithAll task.requiredCapabilities ≠ []
  fit : ∀ entry ∈ fleet.router.route task,
    entry.info.workerId ∈ fleet.index.workersWithAll task.requiredCapabilities
  once : (fleet.index.workersWithAll task.requiredCapabilities).Nodup

/-- Both structures hold what the registry holds. -/
structure Mirrored (fleet : Fleet) : Prop where
  index : fleet.index.Mirrors fleet.registry
  router : fleet.router.Mirrors fleet.registry

variable {fleet : Fleet}

theorem mirrored_step (fleet : Fleet) (call : FleetCall) (h : fleet.Mirrored) :
    (fleet.step call).Mirrored := by
  cases call with
  | update roomId info => exact ⟨h.index.update info, h.router.updateWorker roomId info⟩
  | remove workerId => exact ⟨h.index.remove workerId, h.router.removeWorker workerId⟩

theorem Mirrored.agrees_iff_firstNameOnce (h : fleet.Mirrored) (task : SessionTask) :
    fleet.Agrees task ↔ fleet.registry.FirstNameOnce task.requiredCapabilities := by
  rw [← h.index.nodup_workersWithAll_iff]
  constructor
  · exact Agrees.once
  · intro hOnce
    refine ⟨fun _ => h.index.mem_workersWithAll, ?_, ?_, hOnce⟩
    · rw [h.router.isSome_route_iff]
      constructor
      · rintro ⟨workerId, hFit⟩
        exact List.ne_nil_of_mem (h.index.mem_workersWithAll.mpr hFit)
      · intro hSome
        obtain ⟨workerId, hMem⟩ := List.exists_mem_of_ne_nil _ hSome
        exact ⟨workerId, h.index.mem_workersWithAll.mp hMem⟩
    · intro entry hRoute
      exact h.index.mem_workersWithAll.mpr ⟨_, h.router.qualifies_of_route hRoute⟩

theorem registry_run (fleet : Fleet) (calls : List FleetCall) :
    (run step fleet calls).registry = run Registry.step fleet.registry calls := by
  induction calls generalizing fleet with
  | nil => rfl
  | cons call rest ih =>
      rw [run_cons, run_cons, ih]
      cases call <;> rfl

/-- After any history, index and router agree on a task exactly when no worker
that is fit for it has the first required name twice. -/
theorem agrees_iff (calls : List FleetCall) (task : SessionTask) :
    (run step new calls).Agrees task ↔
      (run Registry.step .new calls).FirstNameOnce task.requiredCapabilities := by
  have hNew : new.Mirrored := ⟨CapabilityIndex.mirrors_new, Router.mirrors_new⟩
  have hMirrored := (always_of_step mirrored_step hNew calls).last
  rw [hMirrored.agrees_iff_firstNameOnce, registry_run]
  rfl

/-- A task that asks for these capabilities and nothing else in particular. -/
def taskFor (requiredCapabilities : List String) : SessionTask where
  uuid := "task-1"
  senderId := "@alice:example.com"
  bin := "echo"
  args := ["hello"]
  env := none
  cwd := none
  interactive := false
  noRoomOutput := false
  timeoutSeconds := none
  heartbeatIntervalSeconds := 30
  plan := none
  requiredCapabilities := requiredCapabilities
  routingMode := none
  onTimeout := none
  onHeartbeatMiss := none

/-- A worker with the capability `docker` and a healthy tool of this name is
listed twice. -/
theorem not_agrees :
    ¬ (run step new
      [.update "!room1:example.com" ⟨"worker-1", [⟨"docker", true⟩], ["docker"]⟩]).Agrees
        (taskFor ["docker"]) := by
  intro h
  have hOnce := h.once
  revert hOnce
  decide

end Fleet

end Mxdx.Coordinator
