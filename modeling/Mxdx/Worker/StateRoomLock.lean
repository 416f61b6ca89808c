import Mxdx.Matrix.Client
import Mxdx.Foundations.Automaton
import Mathlib.Logic.Function.Basic

/-! The single-writer lock of a worker's state room. It is one state event, and
the room keeps whatever was written last. Workers read it and write it in
separate requests, so the machine below has one input for every request and
for everything that can happen between two requests. -/
namespace Mxdx.Worker

open MatrixClient (WriteAnswer)

/-- The lease that the lock event holds; times are in milliseconds. -/
structure WorkerStateLock where
  deviceId : String
  workerUuid : String
  host : String
  osUser : String
  acquiredAt : Nat
  expiresAt : Nat
deriving DecidableEq, Repr

/-- What a worker process puts into the locks it writes besides its device and
the time. `lockTtlMs` is twice the telemetry refresh of its configuration. -/
structure WorkerInfo where
  workerUuid : String
  host : String
  osUser : String
  lockTtlMs : Nat
deriving DecidableEq, Repr

/-- The lock that a worker writes, which runs out after its time. -/
def WorkerInfo.lock (info : WorkerInfo) (deviceId : String) (nowMs : Nat) : WorkerStateLock where
  deviceId := deviceId
  workerUuid := info.workerUuid
  host := info.host
  osUser := info.osUser
  acquiredAt := nowMs
  expiresAt := nowMs + info.lockTtlMs

/-- The check that `try_acquire_lock` makes on what it has read. -/
def mayTake (existing : Option WorkerStateLock) (deviceId : String) (nowMs : Nat) : Bool :=
  match existing with
  | none => true
  | some lock => lock.deviceId == deviceId || !decide (nowMs < lock.expiresAt)

/-- Where a worker is in one of the three operations. -/
inductive LockRequest where
  | reading (lock : WorkerStateLock) (nowMs : Nat)
  | taking (lock : WorkerStateLock)
  | renewing (lock : WorkerStateLock)
  | releasing
deriving DecidableEq, Repr

/-- The lock that the operation writes. -/
def LockRequest.lock : LockRequest → Option WorkerStateLock
  | .reading lock _ | .taking lock | .renewing lock => some lock
  | .releasing => none

/-- One worker process. `lease` is present while `lock_held` is set: it is the
lock of the last acquisition or renewal that succeeded. -/
structure LockClient where
  info : WorkerInfo
  request : Option LockRequest
  lease : Option WorkerStateLock
deriving DecidableEq, Repr

/-- The room, the clock and the workers by their device. No event and an event
without content are the same. -/
structure LockRoom where
  event : Option WorkerStateLock
  nowMs : Nat
  clients : String → LockClient

/-- `start` is a new process on the device; what ran there before is gone. -/
inductive LockInput where
  | tick (ms : Nat)
  | start (deviceId : String) (info : WorkerInfo)
  | acquire (deviceId : String)
  | read (deviceId : String) (answered : Bool)
  | renew (deviceId : String)
  | release (deviceId : String)
  | write (deviceId : String) (answer : WriteAnswer)

namespace LockRoom

/-- A room with any old event in it, before any worker has done anything. -/
def new (event : Option WorkerStateLock) (nowMs : Nat) (infos : String → WorkerInfo) : LockRoom :=
  ⟨event, nowMs, fun deviceId => ⟨infos deviceId, none, none⟩⟩

def setClient (room : LockRoom) (deviceId : String) (client : LockClient) : LockRoom :=
  { room with clients := Function.update room.clients deviceId client }

/-- The end of a write: what the room holds then, and what the worker believes. -/
def written (room : LockRoom) (deviceId : String) (answer : WriteAnswer)
    (content : Option WorkerStateLock) (lease : Option WorkerStateLock) : LockRoom :=
  { room with event := if answer.lands then content else room.event }.setClient deviceId
    { room.clients deviceId with request := none, lease := lease }

/-- The worker goes on with the next part of its operation. -/
def requests (room : LockRoom) (deviceId : String) (request : Option LockRequest) : LockRoom :=
  room.setClient deviceId { room.clients deviceId with request := request }

/-- `try_acquire_lock` reads the clock before the event. A worker renews and
releases only while `lock_held` is set; a worker whose release fails ends all
the same. -/
def step (room : LockRoom) : LockInput → LockRoom
  | .tick ms => { room with nowMs := room.nowMs + ms }
  | .start deviceId info => room.setClient deviceId ⟨info, none, none⟩
  | .acquire deviceId =>
      let client := room.clients deviceId
      if client.request.isNone then
        room.requests deviceId (some (.reading (client.info.lock deviceId room.nowMs) room.nowMs))
      else room
  | .read deviceId answered =>
      match (room.clients deviceId).request with
      | some (.reading lock nowMs) =>
          if answered && mayTake room.event lock.deviceId nowMs then
            room.requests deviceId (some (.taking lock))
          else room.requests deviceId none
      | _ => room
  | .renew deviceId =>
      let client := room.clients deviceId
      if client.request.isNone && client.lease.isSome then
        room.requests deviceId (some (.renewing (client.info.lock deviceId room.nowMs)))
      else room
  | .release deviceId =>
      let client := room.clients deviceId
      if client.request.isNone && client.lease.isSome then
        room.requests deviceId (some .releasing)
      else room
  | .write deviceId answer =>
      let client := room.clients deviceId
      match client.request with
      | some (.taking lock) | some (.renewing lock) =>
          room.written deviceId answer (some lock)
            (if answer = .ok then some lock else client.lease)
      | some .releasing => room.written deviceId answer none none
      | _ => room

/-- The worker got the lock, has not given it back, and its lease runs. -/
def Believes (room : LockRoom) (deviceId : String) : Prop :=
  ∃ lease, (room.clients deviceId).lease = some lease ∧ room.nowMs < lease.expiresAt

/-- No two workers believe they have the lock. -/
def MutuallyExclusive (room : LockRoom) : Prop :=
  ∀ first second, room.Believes first → room.Believes second → first = second

section Exclusion

/-- The worker's belief is true: while its lease runs, the lock event names it
for at least as long. The locks it is about to write last no shorter. -/
structure Sound (event : Option WorkerStateLock) (nowMs : Nat) (deviceId : String)
    (client : LockClient) : Prop where
  named : ∀ lease, client.lease = some lease → nowMs < lease.expiresAt →
    ∃ lock, event = some lock ∧ lock.deviceId = deviceId ∧ lease.expiresAt ≤ lock.expiresAt
  dated : ∀ lease, client.lease = some lease → lease.expiresAt ≤ nowMs + client.info.lockTtlMs
  requested : ∀ request lock, client.request = some request → request.lock = some lock →
    lock.deviceId = deviceId ∧ lock.expiresAt ≤ nowMs + client.info.lockTtlMs ∧
      ∀ lease, client.lease = some lease → lease.expiresAt ≤ lock.expiresAt

variable {event : Option WorkerStateLock} {nowMs : Nat} {deviceId : String} {client : LockClient}

theorem sound_started (info : WorkerInfo) : Sound event nowMs deviceId ⟨info, none, none⟩ :=
  ⟨by simp, by simp, by simp⟩

theorem Sound.later (h : Sound event nowMs deviceId client) (ms : Nat) :
    Sound event (nowMs + ms) deviceId client := by
  constructor
  · intro lease hLease hRuns
    exact h.named lease hLease (by omega)
  · intro lease hLease
    have hDated := h.dated lease hLease
    omega
  · intro request lock hRequest hLock
    obtain ⟨hDevice, hExpires, hLonger⟩ := h.requested request lock hRequest hLock
    exact ⟨hDevice, by omega, hLonger⟩

/-- The worker begins an operation with the lock of this moment, if with any. -/
theorem Sound.begin (h : Sound event nowMs deviceId client) {request : LockRequest}
    (hLock : ∀ lock, request.lock = some lock → lock = client.info.lock deviceId nowMs) :
    Sound event nowMs deviceId { client with request := some request } := by
  refine ⟨h.named, h.dated, ?_⟩
  rintro started lock hStarted hWrites
  obtain rfl := Option.some.inj hStarted
  obtain rfl := hLock lock hWrites
  exact ⟨rfl, Nat.le_refl _, h.dated⟩

theorem Sound.abandon (h : Sound event nowMs deviceId client) :
    Sound event nowMs deviceId { client with request := none } :=
  ⟨h.named, h.dated, by simp⟩

/-- Somebody else may take the lock when the check of `try_acquire_lock` passes. -/
theorem Sound.overwrite (h : Sound event nowMs deviceId client) {other : String}
    (hOther : deviceId ≠ other) (hFree : mayTake event other nowMs = true)
    (content : Option WorkerStateLock) : Sound content nowMs deviceId client := by
  refine ⟨?_, h.dated, h.requested⟩
  intro lease hLease hRuns
  obtain ⟨lock, rfl, hDevice, hLonger⟩ := h.named lease hLease hRuns
  simp only [mayTake, Bool.or_eq_true, beq_iff_eq, Bool.not_eq_true', decide_eq_false_iff_not]
    at hFree
  rcases hFree with hSame | hExpired
  · exact absurd (hDevice.symm.trans hSame) hOther
  · omega

/-- The worker's own lock arrives, whether or not it hears of it. -/
theorem Sound.written (h : Sound event nowMs deviceId client) {request : LockRequest}
    {lock : WorkerStateLock} (hRequest : client.request = some request)
    (hLock : request.lock = some lock) (answer : WriteAnswer) :
    Sound (some lock) nowMs deviceId { client with
      request := none
      lease := if answer = .ok then some lock else client.lease } := by
  obtain ⟨hDevice, hExpires, hLonger⟩ := h.requested request lock hRequest hLock
  have hLease : ∀ lease, (if answer = .ok then some lock else client.lease) = some lease →
      lease.expiresAt ≤ lock.expiresAt := by
    intro lease hLease
    split at hLease
    · obtain rfl := Option.some.inj hLease
      exact Nat.le_refl _
    · exact hLonger lease hLease
  constructor
  · intro lease hHeld _
    exact ⟨lock, rfl, hDevice, hLease lease hHeld⟩
  · intro lease hHeld
    exact Nat.le_trans (hLease lease hHeld) hExpires
  · simp

variable {room : LockRoom}

/-- Every worker's belief is borne out by the event. -/
def Truthful (room : LockRoom) : Prop :=
  ∀ deviceId, Sound room.event room.nowMs deviceId (room.clients deviceId)

/-- One event bears out one belief. -/
theorem Truthful.mutuallyExclusive (h : room.Truthful) : room.MutuallyExclusive := by
  rintro first second ⟨firstLease, hFirst, hFirstRuns⟩ ⟨secondLease, hSecond, hSecondRuns⟩
  obtain ⟨lock, hLock, rfl, -⟩ := (h first).named firstLease hFirst hFirstRuns
  obtain ⟨other, hOther, rfl, -⟩ := (h second).named secondLease hSecond hSecondRuns
  rw [hLock] at hOther
  obtain rfl := Option.some.inj hOther
  rfl

theorem truthful_setClient (deviceId : String) (client : LockClient)
    (hOthers : ∀ other, other ≠ deviceId →
      Sound room.event room.nowMs other (room.clients other))
    (hClient : Sound room.event room.nowMs deviceId client) :
    (room.setClient deviceId client).Truthful := by
  intro other
  by_cases hOther : other = deviceId
  · subst hOther
    simpa [setClient] using hClient
  · simpa [setClient, hOther] using hOthers other hOther

theorem Truthful.requests (h : room.Truthful) {request : Option LockRequest}
    (hClient : Sound room.event room.nowMs deviceId
      { room.clients deviceId with request := request }) :
    (room.requests deviceId request).Truthful :=
  truthful_setClient deviceId _ (fun other _ => h other) hClient

/-- The worker has a write under way. -/
def writing (room : LockRoom) (deviceId : String) : Bool :=
  match (room.clients deviceId).request with
  | none | some (.reading _ _) => false
  | _ => true

/-- A write arrives only where the check of `try_acquire_lock` would let its
worker through at that moment. -/
def Unopposed (room : LockRoom) : LockInput → Prop
  | .write deviceId answer =>
      room.writing deviceId = true → answer.lands = true →
        mayTake room.event deviceId room.nowMs = true
  | _ => True

theorem truthful_new (event : Option WorkerStateLock) (nowMs : Nat)
    (infos : String → WorkerInfo) : (new event nowMs infos).Truthful :=
  fun _ => sound_started _

theorem truthful_write (h : room.Truthful) (deviceId : String) (answer : WriteAnswer)
    (hGuard : room.Unopposed (.write deviceId answer)) :
    (room.step (.write deviceId answer)).Truthful := by
  have hOthers : room.writing deviceId = true → ∀ content other, other ≠ deviceId →
      Sound (if answer.lands then content else room.event) room.nowMs other
        (room.clients other) := by
    intro hWriting content other hOther
    split
    next hLands => exact (h other).overwrite hOther (hGuard hWriting hLands) content
    · exact h other
  have hClient := h deviceId
  simp only [step]
  split
  next lock hRequest =>
    apply truthful_setClient deviceId _ (hOthers (by simp [writing, hRequest]) (some lock))
    cases answer with
    | ok => exact hClient.written hRequest rfl .ok
    | lost => exact hClient.written hRequest rfl .lost
    | refused => exact hClient.abandon
  next lock hRequest =>
    apply truthful_setClient deviceId _ (hOthers (by simp [writing, hRequest]) (some lock))
    cases answer with
    | ok => exact hClient.written hRequest rfl .ok
    | lost => exact hClient.written hRequest rfl .lost
    | refused => exact hClient.abandon
  next hRequest =>
    apply truthful_setClient deviceId _ (hOthers (by simp [writing, hRequest]) none)
    exact ⟨by simp, by simp, by simp⟩
  · exact h

/-- By cases on the input; only a write can put another worker in the wrong. -/
theorem truthful_step (room : LockRoom) (input : LockInput) (h : room.Truthful)
    (hGuard : room.Unopposed input) : (room.step input).Truthful := by
  cases input with
  | tick ms => exact fun deviceId => (h deviceId).later ms
  | start deviceId info =>
      exact truthful_setClient deviceId _ (fun other _ => h other) (sound_started info)
  | acquire deviceId =>
      simp only [step]
      split
      · apply h.requests
        exact (h deviceId).begin fun lock hLock => (Option.some.inj hLock).symm
      · exact h
  | read deviceId answered =>
      simp only [step]
      split
      next lock nowMs hRequest =>
        split
        · apply h.requests
          refine ⟨(h deviceId).named, (h deviceId).dated, ?_⟩
          rintro taking other hTaking hOther
          obtain rfl := Option.some.inj hTaking
          obtain rfl := Option.some.inj hOther
          exact (h deviceId).requested _ _ hRequest rfl
        · exact h.requests (h deviceId).abandon
      · exact h
  | renew deviceId =>
      simp only [step]
      split
      · apply h.requests
        exact (h deviceId).begin fun lock hLock => (Option.some.inj hLock).symm
      · exact h
  | release deviceId =>
      simp only [step]
      split
      · apply h.requests
        exact (h deviceId).begin fun lock hLock => by cases hLock
      · exact h
  | write deviceId answer => exact truthful_write h deviceId answer hGuard

/-- In every run in which each write arrives where the lock is still free for
its worker, no two workers ever hold unexpired leases. -/
theorem lock_exclusive_of_unopposed (event : Option WorkerStateLock) (nowMs : Nat)
    (infos : String → WorkerInfo) (inputs : List LockInput)
    (hUnopposed : Automaton.Admissible step Unopposed (new event nowMs infos) inputs) :
    Automaton.Always step MutuallyExclusive (new event nowMs infos) inputs :=
  (hUnopposed.always truthful_step (truthful_new event nowMs infos)).mono
    fun _ h => h.mutuallyExclusive

/-- A lease of two minutes. -/
def sampleInfo : WorkerInfo := ⟨"uuid", "host", "user", 120000⟩

/-- The second worker starts after the first has taken the lock, and the third
after the lease has run out. -/
theorem lock_exclusive_in_turn :
    Automaton.Always step MutuallyExclusive (new none 0 fun _ => sampleInfo)
      [.acquire "A", .read "A" true, .write "A" .ok, .tick 60000,
       .acquire "B", .read "B" true, .write "B" .ok, .tick 60000,
       .acquire "C", .read "C" true, .write "C" .ok] := by
  apply lock_exclusive_of_unopposed
  simp [Automaton.Admissible, Unopposed, writing, step, requests, written, setClient, new, mayTake,
    sampleInfo, WorkerInfo.lock, WriteAnswer.lands, Function.update]

/-- Two workers start at the same time: both find no lock, both write theirs. -/
theorem simultaneous_acquire_both_hold :
    let inputs : List LockInput :=
      [.acquire "A", .acquire "B", .read "A" true, .read "B" true, .write "A" .ok, .write "B" .ok]
    let room := Automaton.run step (new none 0 fun _ => sampleInfo) inputs
    room.Believes "A" ∧ room.Believes "B" ∧
    ¬ Automaton.Always step MutuallyExclusive (new none 0 fun _ => sampleInfo) inputs := by
  intro inputs room
  have hA : room.Believes "A" := ⟨sampleInfo.lock "A" 0, by decide, by decide⟩
  have hB : room.Believes "B" := ⟨sampleInfo.lock "B" 0, by decide, by decide⟩
  refine ⟨hA, hB, fun hAlways => ?_⟩
  have hSame : "A" = "B" := hAlways.last "A" "B" hA hB
  simp at hSame

end Exclusion

end LockRoom

/-- The operations when nothing comes between the requests of one of them. -/
inductive LockOperation where
  | tick (ms : Nat)
  | start (deviceId : String) (info : WorkerInfo)
  | tryAcquireLock (deviceId : String) (answer : WriteAnswer)
  | renewLock (deviceId : String) (answer : WriteAnswer)
  | releaseLock (deviceId : String) (answer : WriteAnswer)

def LockOperation.inputs : LockOperation → List LockInput
  | .tick ms => [.tick ms]
  | .start deviceId info => [.start deviceId info]
  | .tryAcquireLock deviceId answer => [.acquire deviceId, .read deviceId true, .write deviceId answer]
  | .renewLock deviceId answer => [.renew deviceId, .write deviceId answer]
  | .releaseLock deviceId answer => [.release deviceId, .write deviceId answer]

/-- The worker whose operation it is. -/
def LockOperation.actor : LockOperation → Option String
  | .tick _ | .start _ _ => none
  | .tryAcquireLock deviceId _ | .renewLock deviceId _ | .releaseLock deviceId _ => some deviceId

namespace LockRoom

section Atomic

def perform (room : LockRoom) (operation : LockOperation) : LockRoom :=
  Automaton.run step room operation.inputs

/-- No operation is under way. -/
def Quiescent (room : LockRoom) : Prop := ∀ deviceId, (room.clients deviceId).request = none

/-- The operation leaves an unexpired lock of somebody else in place. -/
def Spares (room : LockRoom) (operation : LockOperation) : Prop :=
  ∀ lock, room.event = some lock → room.nowMs < lock.expiresAt →
    operation.actor ≠ some lock.deviceId → (room.perform operation).event = some lock

/-- A worker that renews or releases would also pass the check that
`try_acquire_lock` makes. -/
def Entitled (room : LockRoom) : LockOperation → Prop
  | .renewLock deviceId answer | .releaseLock deviceId answer =>
      (room.clients deviceId).lease.isSome = true → answer.lands = true →
        mayTake room.event deviceId room.nowMs = true
  | _ => True

/-- A worker renews and releases before its lease has run out. -/
def Prompt (room : LockRoom) : LockOperation → Prop
  | .renewLock deviceId _ | .releaseLock deviceId _ =>
      ∀ lease, (room.clients deviceId).lease = some lease → room.nowMs < lease.expiresAt
  | _ => True

variable {room : LockRoom}

theorem mayTake_eq_false_iff {event : Option WorkerStateLock} {deviceId : String} {nowMs : Nat} :
    mayTake event deviceId nowMs = false ↔
      ∃ lock, event = some lock ∧ lock.deviceId ≠ deviceId ∧ nowMs < lock.expiresAt := by
  cases event with
  | none => simp [mayTake]
  | some lock => simp [mayTake]

theorem quiescent_new (event : Option WorkerStateLock) (nowMs : Nat) (infos : String → WorkerInfo) :
    (new event nowMs infos).Quiescent :=
  fun _ => rfl

theorem Quiescent.setClient (h : room.Quiescent) (deviceId : String) {client : LockClient}
    (hClient : client.request = none) : (room.setClient deviceId client).Quiescent := by
  intro other
  by_cases hOther : other = deviceId
  · subst hOther
    simpa [LockRoom.setClient] using hClient
  · simpa [LockRoom.setClient, hOther] using h other

theorem Quiescent.requests_none (h : room.Quiescent) (deviceId : String) :
    room.requests deviceId none = room := by
  have hClient : { room.clients deviceId with request := none } = room.clients deviceId := by
    rw [← h deviceId]
  rw [LockRoom.requests, hClient, LockRoom.setClient, Function.update_eq_self]

@[simp] theorem requests_requests (room : LockRoom) (deviceId : String)
    (first second : Option LockRequest) :
    (room.requests deviceId first).requests deviceId second = room.requests deviceId second := by
  simp [LockRoom.requests, LockRoom.setClient]

@[simp] theorem requests_event (room : LockRoom) (deviceId : String)
    (request : Option LockRequest) : (room.requests deviceId request).event = room.event := rfl

@[simp] theorem requests_nowMs (room : LockRoom) (deviceId : String)
    (request : Option LockRequest) : (room.requests deviceId request).nowMs = room.nowMs := rfl

@[simp] theorem requests_clients_self (room : LockRoom) (deviceId : String)
    (request : Option LockRequest) :
    (room.requests deviceId request).clients deviceId =
      { room.clients deviceId with request := request } := by
  simp [LockRoom.requests, LockRoom.setClient]

@[simp] theorem written_requests (room : LockRoom) (deviceId : String)
    (request : Option LockRequest) (answer : WriteAnswer)
    (content lease : Option WorkerStateLock) :
    (room.requests deviceId request).written deviceId answer content lease =
      room.written deviceId answer content lease := by
  simp [LockRoom.requests, LockRoom.written, LockRoom.setClient]

/-- What an atomic acquisition does. -/
theorem perform_tryAcquireLock (h : room.Quiescent) (deviceId : String) (answer : WriteAnswer) :
    let lock := (room.clients deviceId).info.lock deviceId room.nowMs
    room.perform (.tryAcquireLock deviceId answer) =
      if mayTake room.event deviceId room.nowMs then
        room.written deviceId answer (some lock)
          (if answer = .ok then some lock else (room.clients deviceId).lease)
      else room := by
  intro lock
  have hDevice : lock.deviceId = deviceId := rfl
  cases hFree : mayTake room.event deviceId room.nowMs with
  | true => simp [perform, LockOperation.inputs, step, h deviceId, lock, hDevice, hFree]
  | false =>
      simp [perform, LockOperation.inputs, step, h deviceId, lock, hDevice, hFree,
        h.requests_none]

theorem perform_renewLock (h : room.Quiescent) (deviceId : String) (answer : WriteAnswer) :
    let lock := (room.clients deviceId).info.lock deviceId room.nowMs
    room.perform (.renewLock deviceId answer) =
      if (room.clients deviceId).lease.isSome then
        room.written deviceId answer (some lock)
          (if answer = .ok then some lock else (room.clients deviceId).lease)
      else room := by
  intro lock
  cases hHeld : (room.clients deviceId).lease.isSome with
  | true => simp [perform, LockOperation.inputs, step, h deviceId, lock, hHeld]
  | false => simp [perform, LockOperation.inputs, step, h deviceId, hHeld]

theorem perform_releaseLock (h : room.Quiescent) (deviceId : String) (answer : WriteAnswer) :
    room.perform (.releaseLock deviceId answer) =
      if (room.clients deviceId).lease.isSome then room.written deviceId answer none none
      else room := by
  cases hHeld : (room.clients deviceId).lease.isSome with
  | true => simp [perform, LockOperation.inputs, step, h deviceId, hHeld]
  | false => simp [perform, LockOperation.inputs, step, h deviceId, hHeld]

theorem Quiescent.written (h : room.Quiescent) (deviceId : String) (answer : WriteAnswer)
    (content lease : Option WorkerStateLock) :
    (room.written deviceId answer content lease).Quiescent := by
  have hRoom : Quiescent { room with event := if answer.lands then content else room.event } := h
  exact hRoom.setClient deviceId rfl

/-- An operation that is carried through leaves no request open. -/
theorem quiescent_perform (room : LockRoom) (operation : LockOperation) (h : room.Quiescent) :
    (room.perform operation).Quiescent := by
  cases operation with
  | tick ms => exact h
  | start deviceId info => exact h.setClient deviceId rfl
  | tryAcquireLock deviceId answer =>
      rw [perform_tryAcquireLock h]
      split
      · exact h.written deviceId answer _ _
      · exact h
  | renewLock deviceId answer =>
      rw [perform_renewLock h]
      split
      · exact h.written deviceId answer _ _
      · exact h
  | releaseLock deviceId answer =>
      rw [perform_releaseLock h]
      split
      · exact h.written deviceId answer _ _
      · exact h

/-- A write without a check spares other locks exactly when the check would
have passed. -/
theorem spares_written_iff {deviceId : String} {answer : WriteAnswer}
    {content lease : Option WorkerStateLock}
    (hContent : ∀ lock, content = some lock → lock.deviceId = deviceId) :
    (∀ lock, room.event = some lock → room.nowMs < lock.expiresAt →
        some deviceId ≠ some lock.deviceId →
        (room.written deviceId answer content lease).event = some lock) ↔
      (answer.lands = true → mayTake room.event deviceId room.nowMs = true) := by
  constructor
  · intro hSpares hLands
    by_contra hTaken
    obtain ⟨lock, hLock, hForeign, hRuns⟩ := mayTake_eq_false_iff.mp (by simpa using hTaken)
    have hKept := hSpares lock hLock hRuns fun hSame => hForeign (Option.some.inj hSame).symm
    rw [LockRoom.written] at hKept
    simp only [hLands, if_true, LockRoom.setClient] at hKept
    exact hForeign (hContent lock hKept)
  · intro hFree lock hLock hRuns hForeign
    cases hLands : answer.lands with
    | false => simp [LockRoom.written, LockRoom.setClient, hLands, hLock]
    | true =>
        have hTaken : mayTake room.event deviceId room.nowMs = false :=
          mayTake_eq_false_iff.mpr ⟨lock, hLock, fun hSame => hForeign (by rw [hSame]), hRuns⟩
        rw [hFree hLands] at hTaken
        cases hTaken

/-- An operation spares the locks of others exactly when it is entitled. -/
theorem spares_iff_entitled (room : LockRoom) (operation : LockOperation) (h : room.Quiescent) :
    room.Spares operation ↔ room.Entitled operation := by
  cases operation with
  | tick ms => exact iff_of_true (fun lock hLock _ _ => hLock) trivial
  | start deviceId info => exact iff_of_true (fun lock hLock _ _ => hLock) trivial
  | tryAcquireLock deviceId answer =>
      refine iff_of_true (fun lock hLock hRuns hForeign => ?_) trivial
      have hTaken : mayTake room.event deviceId room.nowMs = false :=
        mayTake_eq_false_iff.mpr ⟨lock, hLock, fun hSame => hForeign (by rw [hSame]; rfl), hRuns⟩
      rw [perform_tryAcquireLock h, hTaken]
      exact hLock
  | renewLock deviceId answer =>
      simp only [Spares, Entitled, LockOperation.actor]
      rw [perform_renewLock h]
      cases hHeld : (room.clients deviceId).lease.isSome with
      | false => exact iff_of_true (fun lock hLock _ _ => hLock) (by simp)
      | true =>
          simp only [if_true, forall_const]
          apply spares_written_iff
          intro lock hLock
          obtain rfl := Option.some.inj hLock
          rfl
  | releaseLock deviceId answer =>
      simp only [Spares, Entitled, LockOperation.actor]
      rw [perform_releaseLock h]
      cases hHeld : (room.clients deviceId).lease.isSome with
      | false => exact iff_of_true (fun lock hLock _ _ => hLock) (by simp)
      | true =>
          simp only [if_true, forall_const]
          apply spares_written_iff
          intro lock hLock
          cases hLock

/-- An operation of an entitled worker writes nothing against a lock. -/
theorem unopposed_inputs (h : room.Quiescent) {operation : LockOperation}
    (hEntitled : room.Entitled operation) :
    Automaton.Admissible step Unopposed room operation.inputs := by
  cases operation with
  | tick ms => exact ⟨trivial, trivial⟩
  | start deviceId info => exact ⟨trivial, trivial⟩
  | tryAcquireLock deviceId answer =>
      refine ⟨trivial, trivial, ?_, trivial⟩
      intro hWriting _
      cases hFree : mayTake room.event deviceId room.nowMs with
      | true => simp [step, h deviceId, WorkerInfo.lock, hFree]
      | false => simp [step, h deviceId, WorkerInfo.lock, hFree, writing] at hWriting
  | renewLock deviceId answer =>
      refine ⟨trivial, ?_, trivial⟩
      intro hWriting hLands
      cases hHeld : (room.clients deviceId).lease.isSome with
      | true => simpa [step, h deviceId, hHeld] using hEntitled hHeld hLands
      | false => simp [step, h deviceId, hHeld, writing] at hWriting
  | releaseLock deviceId answer =>
      refine ⟨trivial, ?_, trivial⟩
      intro hWriting hLands
      cases hHeld : (room.clients deviceId).lease.isSome with
      | true => simpa [step, h deviceId, hHeld] using hEntitled hHeld hLands
      | false => simp [step, h deviceId, hHeld, writing] at hWriting

/-- While the lease of a truthful worker runs, the event in place is its own. -/
theorem Truthful.mayTake (h : room.Truthful) {deviceId : String} {lease : WorkerStateLock}
    (hLease : (room.clients deviceId).lease = some lease) (hRuns : room.nowMs < lease.expiresAt) :
    mayTake room.event deviceId room.nowMs = true := by
  obtain ⟨lock, hLock, hDevice, -⟩ := (h deviceId).named lease hLease hRuns
  simp [Worker.mayTake, hLock, hDevice]

/-- Where all beliefs are true, being in time is enough. -/
theorem Truthful.entitled (h : room.Truthful) {operation : LockOperation}
    (hPrompt : room.Prompt operation) : room.Entitled operation := by
  cases operation with
  | tick ms => trivial
  | start deviceId info => trivial
  | tryAcquireLock deviceId answer => trivial
  | renewLock deviceId answer =>
      intro hHeld _
      obtain ⟨lease, hLease⟩ := Option.isSome_iff_exists.mp hHeld
      exact h.mayTake hLease (hPrompt lease hLease)
  | releaseLock deviceId answer =>
      intro hHeld _
      obtain ⟨lease, hLease⟩ := Option.isSome_iff_exists.mp hHeld
      exact h.mayTake hLease (hPrompt lease hLease)

theorem entitled_of_prompt (hQuiescent : room.Quiescent) (hTruthful : room.Truthful)
    {operations : List LockOperation} (hPrompt : Automaton.Admissible perform Prompt room operations) :
    Automaton.Admissible perform Entitled room operations := by
  induction operations generalizing room with
  | nil => trivial
  | cons operation rest ih =>
      have hEntitled := hTruthful.entitled hPrompt.1
      have hNext : (room.perform operation).Truthful :=
        ((unopposed_inputs hQuiescent hEntitled).always truthful_step hTruthful).last
      exact ⟨hEntitled, ih (quiescent_perform room operation hQuiescent) hNext hPrompt.2⟩

/-- Atomic operations leave the unexpired locks of others alone exactly as long
as nobody renews or releases against the check of `try_acquire_lock`; it is
enough that workers renew and release before their leases run out. -/
theorem locks_spared_iff (event : Option WorkerStateLock) (nowMs : Nat)
    (infos : String → WorkerInfo) (operations : List LockOperation) :
    (Automaton.Admissible perform Spares (new event nowMs infos) operations ↔
      Automaton.Admissible perform Entitled (new event nowMs infos) operations) ∧
    (Automaton.Admissible perform Prompt (new event nowMs infos) operations →
      Automaton.Admissible perform Spares (new event nowMs infos) operations) := by
  have hStart := quiescent_new event nowMs infos
  have hIff := Automaton.admissible_congr quiescent_perform spares_iff_entitled hStart operations
  refine ⟨hIff, fun hPrompt => ?_⟩
  exact hIff.mpr (entitled_of_prompt hStart (truthful_new event nowMs infos) hPrompt)

/-- The lease of the first worker has run out and the second has taken over;
then the first one renews, or shuts down. -/
theorem stale_holder_overwrites :
    let takeover : List LockOperation :=
      [.tryAcquireLock "A" .ok, .tick 120000, .tryAcquireLock "B" .ok]
    let start := new none 0 fun _ => sampleInfo
    let room := Automaton.run perform start takeover
    room.event = some (sampleInfo.lock "B" 120000) ∧ room.nowMs < 240000 ∧
    (room.perform (.renewLock "A" .ok)).event = some (sampleInfo.lock "A" 120000) ∧
    (room.perform (.releaseLock "A" .ok)).event = none ∧
    ¬ Automaton.Admissible perform Spares start (takeover ++ [.renewLock "A" .ok]) ∧
    ¬ Automaton.Admissible perform Spares start (takeover ++ [.releaseLock "A" .ok]) := by
  intro takeover start room
  have hEvent : room.event = some (sampleInfo.lock "B" 120000) := by decide
  have hRenewed : (room.perform (.renewLock "A" .ok)).event =
      some (sampleInfo.lock "A" 120000) := by decide
  have hReleased : (room.perform (.releaseLock "A" .ok)).event = none := by decide
  refine ⟨hEvent, by decide, hRenewed, hReleased, ?_, ?_⟩
  · intro hSpares
    have hKept := hSpares.last _ hEvent (by decide) (by decide)
    rw [hRenewed] at hKept
    exact absurd hKept (by decide)
  · intro hSpares
    have hKept := hSpares.last _ hEvent (by decide) (by decide)
    rw [hReleased] at hKept
    cases hKept

end Atomic

end LockRoom

end Mxdx.Worker
