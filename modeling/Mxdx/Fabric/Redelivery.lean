import Mxdx.Fabric.Coordinator

/-! A task whose routing fails. Its uuid is recorded before the first request to
the homeserver is made and stays recorded when a request fails, so that the same
task, delivered again, passes for a duplicate. -/
namespace Mxdx.Fabric

open Automaton

/-- The homeserver takes the one request that routes the task into a room. -/
def TaskEvent.Routable (task : TaskEvent) (workerRoomId : String) (client : Client) : Prop :=
  match task.effectiveMode with
  | .direct =>
      client.isUserId task.senderId = true ∧
        (client.inviteUser workerRoomId task.senderId).isOk = true
  | .brokered | .auto =>
      (client.sendEvent workerRoomId (.obj [
        ("type", .str "org.mxdx.fabric.task"), ("content", task.toValue)])).isOk = true

namespace CapabilityIndex

/-- The room is on the index, or the homeserver creates it. -/
def Provides (index : CapabilityIndex) (caps : List String) (client : Client) (roomId : String) :
    Prop :=
  match index.findRoom caps with
  | some known => known = roomId
  | none =>
      client.createNamedEncryptedRoom (capabilityRoomName caps)
        ("org.mxdx.fabric.workers:" ++ capabilityRoomName caps) = .ok roomId

theorem getOrCreateRoom_eq_ok_iff {index : CapabilityIndex} {caps : List String} {client : Client}
    {roomId : String} :
    (index.getOrCreateRoom caps client).1 = .ok roomId ↔ index.Provides caps client roomId := by
  unfold getOrCreateRoom Provides
  cases index.findRoom caps with
  | some known => exact Except.ok.injEq known roomId ▸ Iff.rfl
  | none =>
      dsimp only
      cases client.createNamedEncryptedRoom (capabilityRoomName caps)
        ("org.mxdx.fabric.workers:" ++ capabilityRoomName caps) with
      | error text => simp
      | ok created => simp

end CapabilityIndex

theorem isOk_mapError {ε ε' α : Type} (f : ε → ε') (result : Except ε α) :
    (result.mapError f).isOk = result.isOk := by
  cases result <;> rfl

theorem isOk_route_iff {task : TaskEvent} {workerRoomId : String} {client : Client} :
    (route task workerRoomId client).isOk = true ↔ task.Routable workerRoomId client := by
  unfold route TaskEvent.Routable
  cases task.effectiveMode with
  | direct =>
      dsimp only [routeDirect]
      by_cases hUser : client.isUserId task.senderId = true
      · rw [if_pos hUser, isOk_mapError]
        exact (and_iff_right hUser).symm
      · rw [if_neg hUser]
        exact iff_of_false nofun fun h => hUser h.1
  | brokered => exact Bool.eq_iff_iff.mp (isOk_mapError _ _)
  | auto => exact Bool.eq_iff_iff.mp (isOk_mapError _ _)

namespace CoordinatorBot

variable {bot : CoordinatorBot} {task : TaskEvent} {now : Nat} {client : Client} {uuid : String}

/-- Every request that the task needs is answered with success. -/
def Answered (bot : CoordinatorBot) (task : TaskEvent) (client : Client) : Prop :=
  ∃ workerRoomId, bot.capabilityIndex.Provides task.requiredCapabilities client workerRoomId ∧
    task.Routable workerRoomId client

theorem isOk_routed_iff : (bot.routed task client).isOk = true ↔ bot.Answered task client := by
  unfold routed Answered
  simp only [← CapabilityIndex.getOrCreateRoom_eq_ok_iff, ← isOk_route_iff]
  cases (bot.capabilityIndex.getOrCreateRoom task.requiredCapabilities client).1 with
  | error error => exact iff_of_false nofun fun ⟨_, h, _⟩ => nomatch h
  | ok workerRoomId =>
      constructor
      · exact fun h => ⟨workerRoomId, rfl, h⟩
      · rintro ⟨_, ⟨⟩, h⟩
        exact h

/-- What the caller is told. -/
theorem handleTaskEvent_fst (hNew : task.uuid ∉ bot.seenTaskUuids) :
    (bot.handleTaskEvent task now client).1 = bot.routed task client := by
  rw [handleTaskEvent, if_neg hNew, routed]
  dsimp only
  rcases bot.capabilityIndex.getOrCreateRoom task.requiredCapabilities client with
    ⟨error | workerRoomId, index⟩
  · rfl
  · show _ = route task workerRoomId client
    dsimp only
    cases route task workerRoomId client <;> rfl

/-- A call fails when the task is new and a request it needs is not answered. -/
theorem handleTaskEvent_fails_iff :
    (bot.handleTaskEvent task now client).1.isOk = false ↔
      task.uuid ∉ bot.seenTaskUuids ∧ ¬ bot.Answered task client := by
  by_cases hSeen : task.uuid ∈ bot.seenTaskUuids
  · rw [handleTaskEvent, if_pos hSeen]
    exact iff_of_false (by simp [Except.isOk, Except.toBool]) fun h => h.1 hSeen
  · rw [handleTaskEvent_fst hSeen, ← isOk_routed_iff, Bool.not_eq_true]
    exact (and_iff_right hSeen).symm

/-- A call that fails records the uuid and leaves the watchlist alone. -/
theorem handleTaskEvent_of_fails (hFails : (bot.handleTaskEvent task now client).1.isOk = false) :
    (bot.handleTaskEvent task now client).2.seenTaskUuids = task.uuid :: bot.seenTaskUuids ∧
      (bot.handleTaskEvent task now client).2.watchlist = bot.watchlist := by
  obtain ⟨hNew, hNot⟩ := handleTaskEvent_fails_iff.mp hFails
  rcases bot.handleTaskEvent_cases with ⟨hSeen, -⟩ | ⟨index, -, hAfter⟩
  · exact absurd hSeen hNew
  · rw [hAfter, if_neg fun hTakes => hNot (isOk_routed_iff.mp hTakes.2)]
    exact ⟨rfl, rfl⟩

/-- The bot after a failed call is as good as before: it has seen and watches the
same tasks, and takes this one as soon as its requests are answered. -/
structure Undone (bot after : CoordinatorBot) (task : TaskEvent) : Prop where
  seen : ∀ uuid, uuid ∈ after.seenTaskUuids ↔ uuid ∈ bot.seenTaskUuids
  watchlist : after.watchlist = bot.watchlist
  redelivered : ∀ now client, after.Answered task client →
    task.uuid ∈ (after.handleTaskEvent task now client).2.watchlist

/-- A call leaves nothing behind when it fails. -/
def Atomic (bot : CoordinatorBot) (task : TaskEvent) (now : Nat) (client : Client) : Prop :=
  ∀ error, (bot.handleTaskEvent task now client).1 = .error error →
    bot.Undone (bot.handleTaskEvent task now client).2 task

/-- The same task once more, however the requests are answered this time. -/
theorem handleTaskEvent_redelivered (later : Nat) (laterClient : Client) :
    (bot.handleTaskEvent task now client).2.handleTaskEvent task later laterClient =
      (.ok (), (bot.handleTaskEvent task now client).2) := by
  have hSeen : task.uuid ∈ (bot.handleTaskEvent task now client).2.seenTaskUuids :=
    mem_seen_handleTaskEvent.mpr (.inl rfl)
  rw [handleTaskEvent, if_pos hSeen]

/-- A call leaves nothing behind when it fails, exactly if it does not fail. -/
theorem atomic_iff (bot : CoordinatorBot) (task : TaskEvent) (now : Nat) (client : Client) :
    bot.Atomic task now client ↔ task.uuid ∈ bot.seenTaskUuids ∨ bot.Answered task client := by
  have hCall := @handleTaskEvent_fails_iff bot task now client
  by_cases hMeets : task.uuid ∈ bot.seenTaskUuids ∨ bot.Answered task client
  · refine iff_of_true (fun error hError => ?_) hMeets
    obtain ⟨hNew, hNot⟩ := hCall.mp (by rw [hError]; rfl)
    exact absurd hMeets (not_or.mpr ⟨hNew, hNot⟩)
  · refine iff_of_false (fun hAtomic => ?_) hMeets
    obtain ⟨hNew, hNot⟩ := not_or.mp hMeets
    have hFails := hCall.mpr ⟨hNew, hNot⟩
    cases hResult : (bot.handleTaskEvent task now client).1 with
    | ok => rw [hResult] at hFails; cases hFails
    | error error =>
        have hBack := (hAtomic error hResult).seen task.uuid
        exact hNew (hBack.mp (mem_seen_handleTaskEvent.mpr (.inl rfl)))

/-- A server that refuses to create rooms. -/
def refusing : Client where
  isUserId := fun _ => true
  createNamedEncryptedRoom := fun _ _ => .error "M_LIMIT_EXCEEDED"
  inviteUser := fun _ _ => .ok ()
  sendEvent := fun _ _ => .ok ()

/-- The uuid of the first task of a coordinator is on record after its room could
not be created. -/
theorem not_atomic_refused :
    ¬ ∀ (bot : CoordinatorBot) (task : TaskEvent) (now : Nat) (client : Client),
      bot.Atomic task now client := by
  intro h
  let task : TaskEvent := ⟨"t1", "@alice:example.org", ["shell"], none, 60, 10, .abandon, .abandon,
    .auto, false, .obj [], none⟩
  have hBack := (h (new "!coordinator:example.org") task 0 refusing
    (.createRoom "M_LIMIT_EXCEEDED") rfl).seen "t1"
  exact absurd (hBack.mp List.mem_cons_self) (by decide)

/-- The task has been seen and is not watched. -/
def Lost (uuid : String) (bot : CoordinatorBot) : Prop :=
  uuid ∈ bot.seenTaskUuids ∧ uuid ∉ bot.watchlist

theorem Lost.handleTaskEvent (h : bot.Lost uuid) :
    (bot.handleTaskEvent task now client).2.Lost uuid := by
  refine ⟨mem_seen_handleTaskEvent.mpr (.inr h.1), ?_⟩
  rw [watchlist_handleTaskEvent]
  split
  next hTakes =>
    rw [AList.mem_insert]
    rintro (rfl | hMem)
    · exact hTakes.1 h.1
    · exact h.2 hMem
  · exact h.2

theorem Lost.modify {other : String} {update : WatchEntry → WatchEntry} (h : bot.Lost uuid) :
    (bot.modify other update).Lost uuid := by
  unfold CoordinatorBot.modify
  split
  next entry hEntry =>
    refine ⟨h.1, fun hMem => ?_⟩
    rcases (AList.mem_insert _).mp hMem with rfl | hMem
    · exact h.2 (AList.lookup_isSome.mp (Option.isSome_of_eq_some hEntry))
    · exact h.2 hMem
  · exact h

theorem Lost.remove {other : String} (h : bot.Lost uuid) : (bot.remove other).Lost uuid :=
  ⟨h.1, fun hMem => h.2 (AList.mem_erase.mp hMem).2⟩

theorem Lost.repost (h : bot.Lost uuid) (respawned : TaskEvent × EntryCheck) :
    (bot.repost respawned).Lost uuid := h.handleTaskEvent

theorem Lost.step (h : bot.Lost uuid) (input : CoordinatorInput) : (bot.step input).Lost uuid := by
  cases input with
  | task task now client => exact h.handleTaskEvent
  | claim claim now => exact h.modify
  | heartbeat heartbeat now => exact h.modify
  | result other => exact h.remove
  | check checks =>
      show (if _ then bot.checkWatchlist checks else bot).Lost uuid
      split
      · have hRemoved : Always CoordinatorBot.remove (Lost uuid) bot
            (checks.filterMap bot.toRemove) := always_of_step (fun _ _ => Lost.remove) h _
        have hReposted : Always CoordinatorBot.repost (Lost uuid)
            (run CoordinatorBot.remove bot (checks.filterMap bot.toRemove))
            (checks.filterMap bot.toRepost) :=
          always_of_step (fun _ respawned h => h.repost respawned) hRemoved.last _
        exact hReposted.last
      · exact h

/-- A task that fails on its way is lost for good: whatever comes after, its own
redeliveries and its copies included, it is not watched. -/
theorem always_lost_of_fails (hSound : ∀ uuid ∈ bot.watchlist, uuid ∈ bot.seenTaskUuids)
    (hFails : (bot.handleTaskEvent task now client).1.isOk = false)
    (inputs : List CoordinatorInput) :
    Always step (·.Lost task.uuid) (bot.handleTaskEvent task now client).2 inputs := by
  refine always_of_step (fun _ input h => h.step input) ⟨?_, ?_⟩ inputs
  · exact mem_seen_handleTaskEvent.mpr (.inl rfl)
  · rw [(handleTaskEvent_of_fails hFails).2]
    exact fun hMem => (handleTaskEvent_fails_iff.mp hFails).1 (hSound _ hMem)

end CoordinatorBot

end Mxdx.Fabric
