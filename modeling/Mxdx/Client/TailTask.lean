import Mxdx.Client.Tail
import Mxdx.Foundations.Broadcast
import Mathlib.Data.List.AList

/-! The daemon's sync loop and one task that tails a session. The loop broadcasts
every batch of events it has synced, and the task takes the batches off a channel
that keeps 256 of them. Between two batches it does nothing else, and what it does
with one does not touch the channel. -/
namespace Mxdx.Client

open Automaton Broadcast
open Mxdx.Types (SessionOutput SessionResult)
open Worker (Value)

/-- The capacity of the broadcast channel. -/
def channelCapacity : Nat := 256

/-- What the tail needs to know of a session. -/
structure TrackedSession where
  workerRoom : String
  completed : Bool
deriving DecidableEq

/-- The sessions by their ids. -/
structure SessionTracker where
  sessions : AList fun _ : String => TrackedSession

namespace SessionTracker

/-- To track a session again is to begin anew. -/
def track (tracker : SessionTracker) (uuid workerRoom : String) : SessionTracker where
  sessions := tracker.sessions.insert uuid ⟨workerRoom, false⟩

/-- A session that has ended stays in the tracker. -/
def complete (tracker : SessionTracker) (uuid : String) : SessionTracker :=
  match tracker.sessions.lookup uuid with
  | some session => ⟨tracker.sessions.insert uuid { session with completed := true }⟩
  | none => tracker

/-- The session is tracked and marked complete. -/
def Completed (tracker : SessionTracker) (uuid : String) : Prop :=
  ∃ session, tracker.sessions.lookup uuid = some session ∧ session.completed = true

end SessionTracker

/-- What one tail holds between two events: the ids met, the notifications sent, each
with the id of its event, and whether a result has made it return. -/
structure Tail where
  seen : List String
  sent : List (String × Notification)
  tracker : SessionTracker
  returned : Bool

namespace Tail

/-- The task has seen nothing yet. -/
def new (tracker : SessionTracker) : Tail := ⟨[], [], tracker, false⟩

/-- What the caller hears at the end of a session. -/
def resultNotification (result : SessionResult) : Notification :=
  .result result.exitCode (formatResult result) result.tail

/-- The body of the loop over a batch. An empty id is never looked up among `seen`. -/
def onEvent (uuid : String) (tail : Tail) (event : IncomingClientEvent) : Tail :=
  if tail.returned then tail
  else
    match event with
    | .sessionOutput eventId sessionUuid content =>
        if sessionUuid ≠ uuid ∨ (eventId ≠ "" ∧ eventId ∈ tail.seen) then tail
        else
          let tail := { tail with seen := eventId :: tail.seen }
          match (SessionOutput.fromValue content).bind decodeOutput with
          | some data => { tail with sent := tail.sent ++ [(eventId, .output data)] }
          | none => tail
    | .sessionResult eventId sessionUuid content =>
        if sessionUuid ≠ uuid ∨ (eventId ≠ "" ∧ eventId ∈ tail.seen) then tail
        else
          let tail := { tail with seen := eventId :: tail.seen }
          match SessionResult.fromValue content with
          | some result =>
              { tail with
                sent := tail.sent ++ [(eventId, resultNotification result)]
                tracker := tail.tracker.complete uuid
                returned := true }
          | none => { tail with returned := true }
    | _ => tail

/-- A batch is worked off in its order. -/
def onEvents (uuid : String) (tail : Tail) (events : List IncomingClientEvent) : Tail :=
  events.foldl (onEvent uuid) tail

/-- The result notifications sent. -/
def results (tail : Tail) : List Notification :=
  (tail.sent.map Prod.snd).filter fun
    | .result .. => true
    | .output _ => false

/-- The outputs forwarded, with the ids of their events. -/
def outputs (tail : Tail) : List (String × Bytes) :=
  tail.sent.filterMap fun
    | (eventId, .output data) => some (eventId, data)
    | _ => none

/-- What a readable output of the session is forwarded as. -/
def outputOf (uuid : String) : IncomingClientEvent → Option (String × Bytes)
  | .sessionOutput eventId sessionUuid content =>
      if sessionUuid = uuid then
        ((SessionOutput.fromValue content).bind decodeOutput).map (eventId, ·)
      else none
  | _ => none

end Tail

/-- A round of the sync loop, the task coming to call `recv`, or the end of the last
sender. -/
inductive TailInput where
  | synced (result : Except String (List IncomingClientEvent))
  | polled
  | closed

/-- What an input does to the channel: the loop sends a batch unless it is empty. -/
def TailInput.signal : TailInput → Option (Signal (List IncomingClientEvent))
  | .synced (.ok events) => if events.isEmpty then none else some (.send events)
  | .synced (.error _) => none
  | .polled => some .recv
  | .closed => some .close

/-- The task with its end of the channel; `stopped` is the `break` on a closed channel. -/
structure TailTask where
  reception : Reception (List IncomingClientEvent)
  tail : Tail
  stopped : Bool

namespace TailTask

/-- The task is spawned after the session was tracked. -/
def new (tracker : SessionTracker) (uuid workerRoom : String) : TailTask where
  reception := .new
  tail := .new (tracker.track uuid workerRoom)
  stopped := false

/-- One turn of the loop of `tail_session`. -/
def poll (uuid : String) (task : TailTask) : TailTask :=
  if task.tail.returned || task.stopped then task
  else
    let reception := task.reception.recv
    match task.reception.receiver.recv.1 with
    | .value events => { task with reception := reception, tail := task.tail.onEvents uuid events }
    | .lagged _ => { task with reception := reception }
    | .closed => { task with stopped := true }
    | .pending => task

/-- The loop puts a batch on the channel, or the task takes one off it. -/
def step (uuid : String) (task : TailTask) (input : TailInput) : TailTask :=
  match input.signal with
  | none => task
  | some .recv => task.poll uuid
  | some signal => { task with reception := task.reception.step channelCapacity signal }

/-- The events broadcast since the task subscribed. -/
def broadcast (task : TailTask) : List IncomingClientEvent := task.reception.sent.flatten

/-- The events that the task has taken off the channel. -/
def received (task : TailTask) : List IncomingClientEvent := task.reception.received.flatten

/-- The task has ended, or has nothing left to take. -/
def Settled (task : TailTask) : Prop :=
  task.tail.returned = true ∨ task.stopped = true ∨ task.reception.Idle

/-- The daemon reports: once the task is settled, a result that was broadcast for the
session has been told to the client once and the session is complete. Outputs are
forwarded at most once each and in order. -/
structure Reports (uuid : String) (task : TailTask) : Prop where
  reported : task.Settled →
    (∃ eventId content, .sessionResult eventId uuid content ∈ task.broadcast) →
      (∃ eventId content result, .sessionResult eventId uuid content ∈ task.broadcast ∧
        SessionResult.fromValue content = some result ∧
        task.tail.results = [Tail.resultNotification result]) ∧
      task.tail.tracker.Completed uuid
  once : ((task.tail.outputs.map Prod.fst).filter (· ≠ "")).Nodup
  inOrder : task.tail.outputs.Sublist (task.received.filterMap (Tail.outputOf uuid))

end TailTask

/-- The first result of the session that does not bear the id of an earlier output or
result of it. -/
def firstResult (uuid : String) : List String → List IncomingClientEvent → Option Value
  | _, [] => none
  | seen, .sessionOutput eventId sessionUuid _ :: rest =>
      if sessionUuid ≠ uuid ∨ (eventId ≠ "" ∧ eventId ∈ seen) then firstResult uuid seen rest
      else firstResult uuid (eventId :: seen) rest
  | seen, .sessionResult eventId sessionUuid content :: rest =>
      if sessionUuid ≠ uuid ∨ (eventId ≠ "" ∧ eventId ∈ seen) then firstResult uuid seen rest
      else some content
  | seen, _ :: rest => firstResult uuid seen rest

/-- The batches that a receiver gets which goes on polling: those that have not been
pushed out of the channel when it comes to take them. -/
def delivered (inputs : List TailInput) : List IncomingClientEvent :=
  (run (Reception.step channelCapacity) Reception.new
    (inputs.filterMap TailInput.signal)).received.flatten

namespace Tail

variable {uuid : String} {tail : Tail} {events : List IncomingClientEvent}

theorem onEvents_append (tail : Tail) (first second : List IncomingClientEvent) :
    tail.onEvents uuid (first ++ second) = (tail.onEvents uuid first).onEvents uuid second :=
  List.foldl_append ..

theorem onEvents_returned (hReturned : tail.returned = true)
    (events : List IncomingClientEvent) : tail.onEvents uuid events = tail := by
  induction events with
  | nil => rfl
  | cons event events ih =>
      have hSame : tail.onEvent uuid event = tail := by simp [onEvent, hReturned]
      rw [onEvents, List.foldl_cons, hSame]
      exact ih

/-- One event of a running tail, told by what `firstResult` makes of it. -/
theorem onEvent_cases (hRunning : tail.returned = false) (event : IncomingClientEvent) :
    ((tail.onEvent uuid event).returned = false ∧
      (tail.onEvent uuid event).results = tail.results ∧
      (tail.onEvent uuid event).tracker = tail.tracker ∧
      ∀ rest, firstResult uuid tail.seen (event :: rest) =
        firstResult uuid (tail.onEvent uuid event).seen rest) ∨
    ∃ content, (∀ rest, firstResult uuid tail.seen (event :: rest) = some content) ∧
      (tail.onEvent uuid event).returned = true ∧
      (tail.onEvent uuid event).results = tail.results ++
        ((SessionResult.fromValue content).map resultNotification).toList ∧
      ((SessionResult.fromValue content).isSome →
        (tail.onEvent uuid event).tracker = tail.tracker.complete uuid) := by
  unfold onEvent
  rw [if_neg (by simp [hRunning])]
  cases event with
  | sessionStart eventId sessionUuid content => exact .inl ⟨hRunning, rfl, rfl, fun _ => rfl⟩
  | sessionHeartbeat eventId sessionUuid content => exact .inl ⟨hRunning, rfl, rfl, fun _ => rfl⟩
  | sessionOutput eventId sessionUuid content =>
      left
      dsimp only
      split
      next hSkip =>
        exact ⟨hRunning, rfl, rfl, fun rest => by rw [firstResult, if_pos hSkip]⟩
      next hTake =>
        split
        · refine ⟨hRunning, ?_, rfl, fun rest => by rw [firstResult, if_neg hTake]⟩
          simp [results]
        · exact ⟨hRunning, rfl, rfl, fun rest => by rw [firstResult, if_neg hTake]⟩
  | sessionResult eventId sessionUuid content =>
      dsimp only
      split
      next hSkip =>
        exact .inl ⟨hRunning, rfl, rfl, fun rest => by rw [firstResult, if_pos hSkip]⟩
      next hTake =>
        refine .inr ⟨content, fun rest => by rw [firstResult, if_neg hTake], ?_⟩
        cases hResult : SessionResult.fromValue content with
        | none => exact ⟨rfl, by simp [results], nofun⟩
        | some result =>
            refine ⟨rfl, ?_, fun _ => rfl⟩
            simp [results, resultNotification]

/-- A whole stretch of events. A tail sends one notification for the first result, and
none if that cannot be read. -/
theorem onEvents_results (hRunning : tail.returned = false)
    (events : List IncomingClientEvent) :
    (tail.onEvents uuid events).results = tail.results ++
      (((firstResult uuid tail.seen events).bind SessionResult.fromValue).map
        resultNotification).toList ∧
    (((firstResult uuid tail.seen events).bind SessionResult.fromValue).isSome →
      (tail.onEvents uuid events).tracker = tail.tracker.complete uuid) ∧
    (tail.onEvents uuid events).returned = (firstResult uuid tail.seen events).isSome := by
  induction events generalizing tail with
  | nil => exact ⟨(List.append_nil _).symm, nofun, hRunning⟩
  | cons event events ih =>
      have hCons : tail.onEvents uuid (event :: events) =
          (tail.onEvent uuid event).onEvents uuid events := rfl
      rw [hCons]
      rcases onEvent_cases hRunning event with
        ⟨hStill, hResults, hTracker, hFirst⟩ | ⟨content, hFirst, hReturned, hResults, hTracker⟩
      · have hRest := ih hStill
        rwa [hResults, hTracker, ← hFirst] at hRest
      · rw [onEvents_returned hReturned, hFirst]
        exact ⟨hResults, hTracker, hReturned⟩

theorem mem_of_firstResult {seen : List String} {content : Value}
    (h : firstResult uuid seen events = some content) :
    ∃ eventId, .sessionResult eventId uuid content ∈ events := by
  induction events generalizing seen with
  | nil => cases h
  | cons event events ih =>
      have hLater : ∀ {met : List String}, firstResult uuid met events = some content →
          ∃ eventId, .sessionResult eventId uuid content ∈ event :: events := by
        intro met hMet
        obtain ⟨eventId, hMem⟩ := ih hMet
        exact ⟨eventId, .tail _ hMem⟩
      cases event with
      | sessionStart eventId sessionUuid other => exact hLater h
      | sessionHeartbeat eventId sessionUuid other => exact hLater h
      | sessionOutput eventId sessionUuid other =>
          rw [firstResult] at h
          split at h
          · exact hLater h
          · exact hLater h
      | sessionResult eventId sessionUuid other =>
          rw [firstResult] at h
          split at h
          · exact hLater h
          next hTake =>
            obtain rfl : sessionUuid = uuid := not_not.mp (not_or.mp hTake).1
            obtain rfl : other = content := Option.some.inj h
            exact ⟨eventId, .head _⟩

/-- What comes after the first result does not matter. -/
theorem firstResult_append {seen : List String} {content : Value}
    (h : firstResult uuid seen events = some content) (later : List IncomingClientEvent) :
    firstResult uuid seen (events ++ later) = some content := by
  induction events generalizing seen with
  | nil => cases h
  | cons event events ih =>
      cases event with
      | sessionStart eventId sessionUuid other => exact ih h
      | sessionHeartbeat eventId sessionUuid other => exact ih h
      | sessionOutput eventId sessionUuid other =>
          rw [List.cons_append, firstResult]
          rw [firstResult] at h
          split at h
          next hSkip => rw [if_pos hSkip, ih h]
          next hTake => rw [if_neg hTake, ih h]
      | sessionResult eventId sessionUuid other =>
          rw [List.cons_append, firstResult]
          rw [firstResult] at h
          split at h
          next hSkip => rw [if_pos hSkip, ih h]
          next hTake => rw [if_neg hTake, h]

/-- The notifications of one tail are those told by `tailSession`. -/
theorem onEvents_sent (hRunning : tail.returned = false) (events : List IncomingClientEvent) :
    (tail.onEvents uuid events).sent.map Prod.snd =
      tail.sent.map Prod.snd ++ tailSession uuid tail.seen events := by
  induction events generalizing tail with
  | nil => exact (List.append_nil _).symm
  | cons event events ih =>
      have hCons : tail.onEvents uuid (event :: events) =
          (tail.onEvent uuid event).onEvents uuid events := rfl
      have hBranch : ¬ tail.returned = true := by simp [hRunning]
      rw [hCons]
      cases event with
      | sessionStart eventId sessionUuid content =>
          have hSame : tail.onEvent uuid (.sessionStart eventId sessionUuid content) = tail :=
            if_neg hBranch
          rw [hSame, ih hRunning, tailSession]
          · exact nofun
          · exact nofun
      | sessionHeartbeat eventId sessionUuid content =>
          have hSame : tail.onEvent uuid (.sessionHeartbeat eventId sessionUuid content) = tail :=
            if_neg hBranch
          rw [hSame, ih hRunning, tailSession]
          · exact nofun
          · exact nofun
      | sessionOutput eventId sessionUuid content =>
          rw [tailSession, onEvent, if_neg hBranch]
          dsimp only
          split
          · exact ih hRunning
          · cases (SessionOutput.fromValue content).bind decodeOutput with
            | none => exact ih hRunning
            | some data =>
                dsimp only
                rw [ih]
                · simp
                · exact hRunning
      | sessionResult eventId sessionUuid content =>
          rw [tailSession, onEvent, if_neg hBranch]
          dsimp only
          split
          · exact ih hRunning
          · cases SessionResult.fromValue content with
            | none => rw [onEvents_returned rfl, List.append_nil]
            | some result =>
                rw [onEvents_returned rfl, List.map_append]
                rfl

/-- What is forwarded of the outputs in a list of events: a part of them in order, no
two under one id, and every id is remembered. -/
structure Forwards (uuid : String) (tail : Tail) (events : List IncomingClientEvent) : Prop where
  remembered : ∀ output ∈ tail.outputs, output.1 ∈ tail.seen
  once : ((tail.outputs.map Prod.fst).filter (· ≠ "")).Nodup
  inOrder : tail.outputs.Sublist (events.filterMap (outputOf uuid))

/-- An event that forwards nothing. -/
theorem Forwards.quiet {next : Tail} (h : tail.Forwards uuid events) (event : IncomingClientEvent)
    (hSeen : tail.seen ⊆ next.seen) (hOutputs : next.outputs = tail.outputs) :
    next.Forwards uuid (events ++ [event]) := by
  refine ⟨fun output hOutput => ?_, by rw [hOutputs]; exact h.once, ?_⟩
  · rw [hOutputs] at hOutput
    exact hSeen (h.remembered output hOutput)
  · rw [hOutputs, List.filterMap_append]
    exact h.inOrder.trans (List.sublist_append_left _ _)

/-- An output under an id that is empty or new. -/
theorem Forwards.forward {next : Tail} {eventId : String} {content : Value} {data : Bytes}
    (h : tail.Forwards uuid events) (hNew : ¬ (eventId ≠ "" ∧ eventId ∈ tail.seen))
    (hData : (SessionOutput.fromValue content).bind decodeOutput = some data)
    (hSeen : next.seen = eventId :: tail.seen)
    (hOutputs : next.outputs = tail.outputs ++ [(eventId, data)]) :
    next.Forwards uuid (events ++ [.sessionOutput eventId uuid content]) := by
  refine ⟨fun output hOutput => ?_, ?_, ?_⟩
  · rw [hOutputs] at hOutput
    rw [hSeen]
    rcases List.mem_append.mp hOutput with hOld | hLast
    · exact .tail _ (h.remembered output hOld)
    · rw [List.mem_singleton.mp hLast]
      exact .head _
  · rw [hOutputs, List.map_append, List.filter_append, List.nodup_append]
    refine ⟨h.once, (List.nodup_singleton eventId).filter _, ?_⟩
    rintro id hId other hOther rfl
    obtain ⟨hLast, hNonempty⟩ := List.mem_filter.mp hOther
    obtain rfl : id = eventId := List.mem_singleton.mp hLast
    obtain ⟨output, hOutput, rfl⟩ := List.mem_map.mp (List.mem_filter.mp hId).1
    exact hNew ⟨of_decide_eq_true hNonempty, h.remembered output hOutput⟩
  · have hOutputOf : [IncomingClientEvent.sessionOutput eventId uuid content].filterMap
        (outputOf uuid) = [(eventId, data)] := by
      simp [outputOf, hData]
    rw [hOutputs, List.filterMap_append, hOutputOf]
    exact h.inOrder.append (List.Sublist.refl _)

theorem Forwards.concat (h : tail.Forwards uuid events) (event : IncomingClientEvent) :
    (tail.onEvent uuid event).Forwards uuid (events ++ [event]) := by
  unfold onEvent
  split
  · exact h.quiet event (List.Subset.refl _) rfl
  cases event with
  | sessionStart eventId sessionUuid content => exact h.quiet _ (List.Subset.refl _) rfl
  | sessionHeartbeat eventId sessionUuid content => exact h.quiet _ (List.Subset.refl _) rfl
  | sessionOutput eventId sessionUuid content =>
      dsimp only
      split
      · exact h.quiet _ (List.Subset.refl _) rfl
      next hTake =>
        obtain ⟨hSession, hNew⟩ := not_or.mp hTake
        obtain rfl : sessionUuid = uuid := not_not.mp hSession
        cases hData : (SessionOutput.fromValue content).bind decodeOutput with
        | none => exact h.quiet _ (List.subset_cons_self _ _) rfl
        | some data => exact h.forward hNew hData rfl (by simp [outputs])
  | sessionResult eventId sessionUuid content =>
      dsimp only
      split
      · exact h.quiet _ (List.Subset.refl _) rfl
      · cases SessionResult.fromValue content with
        | none => exact h.quiet _ (List.subset_cons_self _ _) rfl
        | some result =>
            exact h.quiet _ (List.subset_cons_self _ _) (by simp [outputs, resultNotification])

theorem forwards_onEvents (tracker : SessionTracker) (events : List IncomingClientEvent) :
    ((new tracker).onEvents uuid events).Forwards uuid events := by
  induction events using List.reverseRecOn with
  | nil => exact ⟨nofun, .nil, .slnil⟩
  | append_singleton events event ih =>
      rw [onEvents_append]
      exact ih.concat event

end Tail

namespace TailTask

variable {uuid : String} {task : TailTask} {start : Tail}

/-- The task against a receiver that polls whether the task still runs or not. -/
structure Agrees (uuid : String) (start : Tail) (task : TailTask)
    (reception : Reception (List IncomingClientEvent)) : Prop where
  taken : task.tail = start.onEvents uuid task.reception.received.flatten
  tail_eq : task.tail = start.onEvents uuid reception.received.flatten
  sent_eq : task.reception.sent = reception.sent
  closed_eq : task.reception.receiver.closed = reception.receiver.closed
  running : task.tail.returned = false → task.stopped = false → task.reception = reception
  exhausted : task.tail.returned = false → task.stopped = true → reception.Exhausted

variable {reception : Reception (List IncomingClientEvent)}

theorem onEvents_concat (start : Tail) (batches : List (List IncomingClientEvent))
    (events : List IncomingClientEvent) :
    start.onEvents uuid (batches ++ [events]).flatten =
      (start.onEvents uuid batches.flatten).onEvents uuid events := by
  rw [List.flatten_append, List.flatten_singleton, Tail.onEvents_append]

/-- What a tail that has returned does not take changes nothing. -/
theorem onEvents_recv
    (hReturned : (start.onEvents uuid reception.received.flatten).returned = true) :
    start.onEvents uuid reception.recv.received.flatten =
      start.onEvents uuid reception.received.flatten := by
  rcases reception.recv_cases with ⟨-, -, hRecv⟩ | ⟨value, rest, -, -, -, hRecv⟩ | ⟨-, hRecv, -⟩
  · rw [hRecv]
  · rw [hRecv, onEvents_concat, Tail.onEvents_returned hReturned]
  · rw [hRecv]

theorem Agrees.poll (h : task.Agrees uuid start reception) :
    (task.poll uuid).Agrees uuid start reception.recv := by
  have hSent := h.sent_eq
  have hClosed := h.closed_eq
  unfold TailTask.poll
  cases hReturned : task.tail.returned with
  | true =>
      refine ⟨h.taken, ?_, by simpa using hSent, by simpa using hClosed, ?_, ?_⟩
      · have hAll := hReturned
        rw [h.tail_eq] at hAll
        exact h.tail_eq.trans (onEvents_recv hAll).symm
      · exact fun hNot => absurd (hReturned.symm.trans hNot) nofun
      · exact fun hNot => absurd (hReturned.symm.trans hNot) nofun
  | false =>
  cases hStopped : task.stopped with
  | true =>
      have hExhausted := h.exhausted hReturned hStopped
      rw [hExhausted.1.recv]
      exact h
  | false =>
      have hSame := h.running hReturned hStopped
      subst hSame
      simp only [Bool.or_self, Bool.false_eq_true, if_false]
      rcases task.reception.recv_cases with
        ⟨-, hResult, hRecv⟩ | ⟨events, rest, -, -, hResult, hRecv⟩ | ⟨hIdle, hRecv, hResult⟩
      · rw [hResult]
        have hTail : task.tail = start.onEvents uuid task.reception.recv.received.flatten := by
          rw [hRecv]
          exact h.tail_eq
        exact ⟨hTail, hTail, rfl, rfl, fun _ _ => rfl,
          fun _ hStop => absurd hStop Bool.false_ne_true⟩
      · rw [hResult]
        have hTail : task.tail.onEvents uuid events =
            start.onEvents uuid task.reception.recv.received.flatten := by
          rw [hRecv, onEvents_concat, ← h.tail_eq]
        exact ⟨hTail, hTail, rfl, rfl, fun _ _ => rfl,
          fun _ hStop => absurd hStop Bool.false_ne_true⟩
      · rw [hResult, hRecv]
        cases hClose : task.reception.receiver.closed with
        | true =>
            exact ⟨h.taken, h.tail_eq, rfl, rfl, fun _ hNot => absurd hNot.symm Bool.false_ne_true,
              fun _ _ => ⟨hIdle, hClose⟩⟩
        | false => exact h

theorem Agrees.send (h : task.Agrees uuid start reception) (events : List IncomingClientEvent) :
    Agrees uuid start
      { task with reception := task.reception.send channelCapacity events }
      (reception.send channelCapacity events) := by
  have hClosed := h.closed_eq
  unfold Reception.send
  rw [hClosed]
  split
  · exact h
  next hOpen =>
    refine ⟨h.taken, h.tail_eq, ?_, ?_, fun hReturned hStopped => ?_,
      fun hReturned hStopped => ?_⟩
    · exact congrArg (· ++ [events]) h.sent_eq
    · unfold Receiver.send
      split <;> split <;> exact hClosed
    · rw [h.running hReturned hStopped]
    · exact absurd (h.exhausted hReturned hStopped).2 hOpen

theorem Agrees.close (h : task.Agrees uuid start reception) :
    Agrees uuid start
      { task with reception := task.reception.step channelCapacity .close }
      (reception.step channelCapacity .close) := by
  refine ⟨h.taken, h.tail_eq, h.sent_eq, rfl, fun hReturned hStopped => ?_,
    fun hReturned hStopped => ?_⟩
  · rw [h.running hReturned hStopped]
  · exact ⟨(h.exhausted hReturned hStopped).1, rfl⟩

/-- After any inputs the task has told what the events delivered to it make it tell. -/
theorem agrees_run (tracker : SessionTracker) (uuid workerRoom : String)
    (inputs : List TailInput) :
    (run (step uuid) (new tracker uuid workerRoom) inputs).Agrees uuid
      (.new (tracker.track uuid workerRoom))
      (run (Reception.step channelCapacity) .new (inputs.filterMap TailInput.signal)) := by
  induction inputs using List.reverseRecOn with
  | nil => exact ⟨rfl, rfl, rfl, rfl, fun _ _ => rfl, nofun⟩
  | append_singleton inputs input ih =>
      rw [run_concat, List.filterMap_append, run_append]
      cases input with
      | polled => exact ih.poll
      | closed => exact ih.close
      | synced result =>
          cases result with
          | error error => exact ih
          | ok events =>
              cases events with
              | nil => exact ih
              | cons event events => exact ih.send (event :: events)

theorem completed_complete_track (tracker : SessionTracker) (uuid workerRoom : String) :
    ((tracker.track uuid workerRoom).complete uuid).Completed uuid := by
  have hLookup : (tracker.track uuid workerRoom).sessions.lookup uuid =
      some ⟨workerRoom, false⟩ := AList.lookup_insert _
  rw [SessionTracker.complete, hLookup]
  exact ⟨⟨workerRoom, true⟩, AList.lookup_insert _, rfl⟩

/-- What is delivered was broadcast. -/
theorem mem_broadcast {tracker : SessionTracker} {workerRoom : String} {inputs : List TailInput}
    {event : IncomingClientEvent} (h : event ∈ delivered inputs) :
    event ∈ (run (step uuid) (new tracker uuid workerRoom) inputs).broadcast := by
  rw [broadcast, (agrees_run tracker uuid workerRoom inputs).sent_eq]
  have hOrdered := (Reception.ordered_new : Reception.new.Ordered channelCapacity).run
    (inputs.filterMap TailInput.signal)
  obtain ⟨events, hEvents, hEvent⟩ := List.mem_flatten.mp h
  exact List.mem_flatten.mpr
    ⟨events, hOrdered.sublist.subset (List.mem_append_left _ hEvents), hEvent⟩

/-- The notifications of the task and its tracker after a run. -/
theorem results_run (tracker : SessionTracker) (uuid workerRoom : String)
    (inputs : List TailInput) :
    let task := run (step uuid) (new tracker uuid workerRoom) inputs
    let read := (firstResult uuid [] (delivered inputs)).bind SessionResult.fromValue
    task.tail.results = (read.map Tail.resultNotification).toList ∧
      (read.isSome → task.tail.tracker = (tracker.track uuid workerRoom).complete uuid) ∧
      task.tail.returned = (firstResult uuid [] (delivered inputs)).isSome := by
  intro task read
  have hTail : task.tail =
      (Tail.new (tracker.track uuid workerRoom)).onEvents uuid (delivered inputs) :=
    (agrees_run tracker uuid workerRoom inputs).tail_eq
  rw [hTail]
  exact Tail.onEvents_results rfl (delivered inputs)

/-- The client is told what `tailSession` makes of the events delivered. -/
theorem notifications_run (tracker : SessionTracker) (uuid workerRoom : String)
    (inputs : List TailInput) :
    (run (step uuid) (new tracker uuid workerRoom) inputs).tail.sent.map Prod.snd =
      tailSession uuid [] (delivered inputs) := by
  rw [(agrees_run tracker uuid workerRoom inputs).tail_eq]
  exact Tail.onEvents_sent rfl (delivered inputs)

theorem read_of_reports {tracker : SessionTracker} {workerRoom : String} {inputs : List TailInput}
    (h : (run (step uuid) (new tracker uuid workerRoom) inputs).Reports uuid)
    (hSettled : (run (step uuid) (new tracker uuid workerRoom) inputs).Settled)
    (hBroadcast : ∃ eventId content, .sessionResult eventId uuid content ∈
      (run (step uuid) (new tracker uuid workerRoom) inputs).broadcast) :
    ∃ content result, firstResult uuid [] (delivered inputs) = some content ∧
      SessionResult.fromValue content = some result := by
  obtain ⟨⟨eventId, content, result, -, -, hOne⟩, -⟩ := h.reported hSettled hBroadcast
  rw [(results_run tracker uuid workerRoom inputs).1] at hOne
  cases hRead : (firstResult uuid [] (delivered inputs)).bind SessionResult.fromValue with
  | none => simp [hRead] at hOne
  | some read =>
      obtain ⟨first, hFirst, hContent⟩ := Option.bind_eq_some_iff.mp hRead
      exact ⟨first, read, hFirst, hContent⟩

theorem reports_of_read {tracker : SessionTracker} {workerRoom : String} {inputs : List TailInput}
    (hRead : (run (step uuid) (new tracker uuid workerRoom) inputs).Settled →
      (∃ eventId content, .sessionResult eventId uuid content ∈
        (run (step uuid) (new tracker uuid workerRoom) inputs).broadcast) →
      ∃ content result, firstResult uuid [] (delivered inputs) = some content ∧
        SessionResult.fromValue content = some result) :
    (run (step uuid) (new tracker uuid workerRoom) inputs).Reports uuid := by
  have hForwards : (run (step uuid) (new tracker uuid workerRoom) inputs).tail.Forwards uuid
      (run (step uuid) (new tracker uuid workerRoom) inputs).received := by
    rw [received, (agrees_run tracker uuid workerRoom inputs).taken]
    exact Tail.forwards_onEvents _ _
  refine ⟨fun hSettled hBroadcast => ?_, hForwards.once, hForwards.inOrder⟩
  obtain ⟨content, result, hFirst, hContent⟩ := hRead hSettled hBroadcast
  have hBind : (firstResult uuid [] (delivered inputs)).bind SessionResult.fromValue =
      some result := by rw [hFirst, Option.bind_some, hContent]
  obtain ⟨hResults, hTracker, -⟩ := results_run tracker uuid workerRoom inputs
  rw [hBind] at hResults hTracker
  obtain ⟨eventId, hMem⟩ := Tail.mem_of_firstResult hFirst
  refine ⟨⟨eventId, content, result, mem_broadcast hMem, hContent, hResults⟩, ?_⟩
  rw [hTracker rfl]
  exact completed_complete_track tracker uuid workerRoom

theorem settled_of_idle (h : task.Agrees uuid start reception) (hIdle : reception.Idle) :
    task.Settled := by
  cases hReturned : task.tail.returned with
  | true => exact .inl hReturned
  | false =>
  cases hStopped : task.stopped with
  | true => exact .inr (.inl hStopped)
  | false =>
      rw [← h.running hReturned hStopped] at hIdle
      exact .inr (.inr hIdle)

theorem signal_polls (count : Nat) :
    (List.replicate count TailInput.polled).filterMap TailInput.signal =
      List.replicate count .recv :=
  List.filterMap_replicate_of_some rfl

/-- However far the task has come, polling it often enough settles it. -/
theorem exists_settled (tracker : SessionTracker) (uuid workerRoom : String)
    (inputs : List TailInput) :
    ∃ count, (run (step uuid) (new tracker uuid workerRoom)
      (inputs ++ List.replicate count .polled)).Settled := by
  let before := run (Reception.step channelCapacity) Reception.new
    (inputs.filterMap TailInput.signal)
  have hPolls := (Reception.polls_run channelCapacity before before.backlog).2.2
  rw [Nat.sub_self, Reception.backlog_eq_zero] at hPolls
  refine ⟨before.backlog, settled_of_idle (agrees_run tracker uuid workerRoom _) ?_⟩
  rwa [List.filterMap_append, signal_polls, run_append]

theorem signal_syncs {batches : List (List IncomingClientEvent)} (h : [] ∉ batches) :
    (batches.map fun events => TailInput.synced (.ok events)).filterMap TailInput.signal =
      batches.map .send := by
  induction batches with
  | nil => rfl
  | cons events batches ih =>
      obtain ⟨hEvents, hRest⟩ := not_or.mp (List.mem_cons.not.mp h)
      cases events with
      | nil => exact absurd rfl hEvents
      | cons event events =>
          have hSignal : (TailInput.synced (.ok (event :: events))).signal =
              some (.send (event :: events)) := rfl
          rw [List.map_cons, List.filterMap_cons_some hSignal, ih hRest, List.map_cons]

/-- One batch with the result of a session, and then as many batches as the channel keeps
before the task comes to poll. -/
def overrun (uuid eventId : String) (content : Value)
    (batches : List (List IncomingClientEvent)) : List TailInput :=
  .synced (.ok [.sessionResult eventId uuid content]) ::
    (batches.map fun events => .synced (.ok events)) ++
    List.replicate (channelCapacity + 1) .polled

/-- A result that is pushed out of the channel is not reported. -/
theorem not_reports_of_overrun (tracker : SessionTracker) (workerRoom eventId : String)
    (content : Value) {batches : List (List IncomingClientEvent)}
    (hLength : batches.length = channelCapacity) (hNonempty : [] ∉ batches)
    (hOther : ∀ otherId other, .sessionResult otherId uuid other ∉ batches.flatten) :
    ¬ (run (step uuid) (new tracker uuid workerRoom)
      (overrun uuid eventId content batches)).Reports uuid := by
  have hSignals : (overrun uuid eventId content batches).filterMap TailInput.signal =
      .send [.sessionResult eventId uuid content] :: batches.map .send ++
        List.replicate (channelCapacity + 1) .recv := by
    have hSyncs : ([.sessionResult eventId uuid content] :: batches).map
        (fun events => TailInput.synced (.ok events)) ++
          List.replicate (channelCapacity + 1) .polled = overrun uuid eventId content batches := rfl
    have hAllNonempty : [] ∉ [.sessionResult eventId uuid content] :: batches := by
      simpa using hNonempty
    rw [← hSyncs, List.filterMap_append, signal_syncs hAllNonempty, signal_polls, List.map_cons]
  have hAgrees := agrees_run tracker uuid workerRoom (overrun uuid eventId content batches)
  obtain ⟨hReceived, hSent, hIdle⟩ := Reception.overrun_run
    [IncomingClientEvent.sessionResult eventId uuid content] hLength (by decide)
  rw [← hSignals] at hReceived hSent hIdle
  have hBroadcast : .sessionResult eventId uuid content ∈ (run (step uuid)
      (new tracker uuid workerRoom) (overrun uuid eventId content batches)).broadcast := by
    rw [broadcast, hAgrees.sent_eq, hSent]
    exact List.mem_append_left _ (List.mem_singleton_self _)
  intro hReports
  obtain ⟨first, read, hFirst, -⟩ := read_of_reports hReports
    (settled_of_idle hAgrees hIdle) ⟨eventId, content, hBroadcast⟩
  rw [delivered, hReceived] at hFirst
  obtain ⟨otherId, hMem⟩ := Tail.mem_of_firstResult hFirst
  exact hOther otherId first hMem

/-- A task that never falls behind by more than the channel keeps reports, if the first
result of the session that is broadcast can be read. -/
theorem reports_of_hasRoom {tracker : SessionTracker} {workerRoom : String}
    {inputs : List TailInput} {content : Value} {result : SessionResult}
    (hRoom : Admissible (Reception.step channelCapacity) (Reception.HasRoom channelCapacity) .new
      (inputs.filterMap TailInput.signal))
    (hFirst : firstResult uuid []
      (run (step uuid) (new tracker uuid workerRoom) inputs).broadcast = some content)
    (hContent : SessionResult.fromValue content = some result) :
    (run (step uuid) (new tracker uuid workerRoom) inputs).Reports uuid := by
  have hAgrees := agrees_run tracker uuid workerRoom inputs
  have hAll := congrArg List.flatten (Reception.received_append_unread hRoom)
  rw [List.flatten_append, ← hAgrees.sent_eq] at hAll
  apply reports_of_read
  intro hSettled _
  refine ⟨content, result, ?_, hContent⟩
  cases hReturned : (run (step uuid) (new tracker uuid workerRoom) inputs).tail.returned with
  | true =>
      have hSome := (results_run tracker uuid workerRoom inputs).2.2
      rw [hReturned] at hSome
      obtain ⟨first, hDelivered⟩ := Option.isSome_iff_exists.mp hSome.symm
      have hSame := Tail.firstResult_append hDelivered (run (Reception.step channelCapacity) .new
        (inputs.filterMap TailInput.signal)).receiver.unread.flatten
      rw [delivered, hAll] at hSame
      rw [hDelivered, ← hSame]
      exact hFirst
  | false =>
      have hIdle : (run (Reception.step channelCapacity) .new
          (inputs.filterMap TailInput.signal)).Idle := by
        cases hStopped : (run (step uuid) (new tracker uuid workerRoom) inputs).stopped with
        | true => exact (hAgrees.exhausted hReturned hStopped).1
        | false =>
            rw [← hAgrees.running hReturned hStopped]
            rcases hSettled with hReturn | hStop | hIdle
            · exact absurd (hReturned.symm.trans hReturn) nofun
            · exact absurd (hStopped.symm.trans hStop) nofun
            · exact hIdle
      rw [hIdle.1, List.flatten_nil, List.append_nil] at hAll
      rw [delivered, hAll]
      exact hFirst

/-- The daemon reports in a run exactly if, once the task is settled and a result was
broadcast, the first result of the session among the events delivered can be read. -/
theorem reports_iff (tracker : SessionTracker) (uuid workerRoom : String)
    (inputs : List TailInput) :
    let task := run (step uuid) (new tracker uuid workerRoom) inputs
    task.Reports uuid ↔
      (task.Settled →
        (∃ eventId content, .sessionResult eventId uuid content ∈ task.broadcast) →
        ∃ content result, firstResult uuid [] (delivered inputs) = some content ∧
          SessionResult.fromValue content = some result) :=
  ⟨read_of_reports, reports_of_read⟩

/-- 256 batches without a result of the session behind the one with its result. -/
theorem not_reports_lagged :
    ¬ ∀ (tracker : SessionTracker) (uuid workerRoom : String) (inputs : List TailInput),
      (run (step uuid) (new tracker uuid workerRoom) inputs).Reports uuid := by
  intro h
  let content : Value := .obj [("session_uuid", .str "s-1"), ("worker_id", .str "@w:example.com"),
    ("status", .str "success"), ("exit_code", .num (.posInt 0)),
    ("duration_seconds", .num (.posInt 10)), ("tail", .null)]
  let batches := List.replicate channelCapacity
    [IncomingClientEvent.sessionHeartbeat "$beat" "s-2" .null]
  have hNonempty : [] ∉ batches := fun hMem => nomatch List.eq_of_mem_replicate hMem
  have hOther : ∀ otherId other, .sessionResult otherId "s-1" other ∉ batches.flatten := by
    intro otherId other hMem
    obtain ⟨batch, hBatch, hEvent⟩ := List.mem_flatten.mp hMem
    rw [List.eq_of_mem_replicate hBatch] at hEvent
    cases List.mem_singleton.mp hEvent
  exact not_reports_of_overrun ⟨∅⟩ "!room" "$result" content (List.length_replicate ..) hNonempty
    hOther (h _ _ _ _)

end TailTask

end Mxdx.Client
