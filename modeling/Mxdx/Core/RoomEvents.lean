import Mxdx.Core.MultiHsClient
import Mxdx.Foundations.Window

/-! The events that `onRoomEvent` hands to its caller. Every server is asked for
the next event at once; each answer uses up the event it brings, and only the one
that resolves the call is handed on. -/
namespace Mxdx.Core

open Automaton

universe u

/-- The id that an event is told apart by; the empty one does not count. -/
def PollAnswer.id : PollAnswer → Option String
  | nothing => none
  | event eventId => eventId.filter (· ≠ "")

/-- How many other ids come in between before one is forgotten. -/
def dedupWindow : Nat := maxSeen + 1 - evictBatch

/-- The client, the ids of the events that its servers have returned, and those of
the events handed to the caller, in order. -/
structure RoomEvents (n : Nat) where
  client : MultiHsClient n
  returned : List String
  delivered : List String

/-- An input of the client, or the answer of a single server, which is handed
through. -/
inductive RoomEventsInput where
  | client (input : HsInput)
  | direct (answer : PollAnswer)

namespace MultiHsClient

variable {n : Nat}

/-- The call is over; what arrives for it now is dropped. -/
def Closed (client : MultiHsClient n) (call : Nat) : Prop :=
  (client.resolved[call]?).getD true = true

instance (client : MultiHsClient n) (call : Nat) : Decidable (client.Closed call) :=
  inferInstanceAs (Decidable (_ = true))

/-- The poll that an input ends with an event, and the id of the event. -/
def arrival (client : MultiHsClient n) : HsInput → Option (Poll n × String)
  | .polled index answer => do
      let poll ← client.polls[index]?
      let id ← answer.id
      return (poll, id)
  | _ => none

/-- The ids seen once another one is noted. -/
def noteSeen (seen : List String) (id : String) : List String :=
  if maxSeen < (seen ++ [id]).length then (seen ++ [id]).drop evictBatch else seen ++ [id]

section Seen

variable {Latency : Type u} {entries : Fin n → HsEntry Latency} {client : MultiHsClient n}

@[simp] theorem startRecoveryProbe_seenEvents (client : MultiHsClient n) (i : Fin n) :
    (client.startRecoveryProbe entries i).seenEvents = client.seenEvents :=
  (startRecoveryProbe_untouched client i).seenEvents

@[simp] theorem recordSuccess_seenEvents (client : MultiHsClient n) (i : Fin n) :
    (client.recordSuccess entries i).seenEvents = client.seenEvents :=
  (recordSuccess_untouched client i).seenEvents

@[simp] theorem recordSuccess_resolved (client : MultiHsClient n) (i : Fin n) :
    (client.recordSuccess entries i).resolved = client.resolved :=
  (recordSuccess_untouched client i).resolved

@[simp] theorem noteRecord_seenEvents (client : MultiHsClient n) (producer charged : Fin n) :
    (client.noteRecord producer charged).seenEvents = client.seenEvents := by
  unfold noteRecord
  split <;> rfl

@[simp] theorem noteRecord_resolved (client : MultiHsClient n) (producer charged : Fin n) :
    (client.noteRecord producer charged).resolved = client.resolved := by
  unfold noteRecord
  split <;> rfl

theorem isDuplicate_of_single (hSingle : n ≤ 1) (id : String) :
    client.isDuplicate id = (false, client) := by
  simp [isDuplicate, isSingleServer, hSingle]

theorem isDuplicate_of_several (hSeveral : 2 ≤ n) (id : String) :
    client.isDuplicate id =
      if id ∈ client.seenEvents then (true, client)
      else (false, { client with seenEvents := noteSeen client.seenEvents id }) := by
  have hNot : ¬ n ≤ 1 := by omega
  simp only [isDuplicate, isSingleServer, hNot, decide_false, Bool.false_eq_true, if_false,
    List.contains_iff_mem, noteSeen]

/-- Everything an event with an id can do: it comes too late, it is a duplicate, or
it resolves its call. -/
theorem deliver_cases (entries : Fin n → HsEntry Latency) (client : MultiHsClient n)
    (poll : Poll n) {id : String} (hId : id ≠ "") :
    let next := client.deliver entries poll (some id)
    (client.Closed poll.call ∧ next = client) ∨
    (¬ client.Closed poll.call ∧ 2 ≤ n ∧ id ∈ client.seenEvents ∧ next = client) ∨
    (¬ client.Closed poll.call ∧ next.resolved = client.resolved.set poll.call true ∧
      (2 ≤ n → id ∉ client.seenEvents ∧ next.seenEvents = noteSeen client.seenEvents id)) := by
  intro next
  have hFilter : (some id).filter (· ≠ "") = some id := by simp [hId]
  by_cases hClosed : client.Closed poll.call
  · exact .inl ⟨hClosed, if_pos hClosed⟩
  · right
    have hOpen : ¬ (client.resolved[poll.call]?).getD true = true := hClosed
    have hNext : next = client.deliver entries poll (some id) := rfl
    rw [deliver, if_neg hOpen, hFilter] at hNext
    dsimp only at hNext
    by_cases hSeveral : 2 ≤ n
    · rw [isDuplicate_of_several hSeveral] at hNext
      split at hNext
      next hSeen => exact .inl ⟨hClosed, hSeveral, hSeen, hNext⟩
      next hNew =>
        refine .inr ⟨hClosed, ?_, fun _ => ⟨hNew, ?_⟩⟩
        · simp [hNext]
        · simp [hNext]
    · rw [isDuplicate_of_single (by omega)] at hNext
      exact .inr ⟨hClosed, by simp [hNext], fun h => absurd h hSeveral⟩

/-- An event without an id is not noted. -/
theorem deliver_none_seenEvents (client : MultiHsClient n) (poll : Poll n) {eventId : Option String}
    (hNone : eventId.filter (· ≠ "") = none) :
    (client.deliver entries poll eventId).seenEvents = client.seenEvents := by
  unfold deliver
  split
  · rfl
  · rw [hNone]
    simp

variable [LinearOrder Latency]

@[simp] theorem recordFailure_seenEvents (client : MultiHsClient n) (i : Fin n) (now : Int) :
    (client.recordFailure entries i now).seenEvents = client.seenEvents :=
  (recordFailure_untouched client i now).seenEvents

@[simp] theorem finishSend_seenEvents (client : MultiHsClient n) (index : Nat)
    (failedAt : Option Int) :
    (client.finishSend entries index failedAt).seenEvents = client.seenEvents := by
  unfold finishSend
  split
  · cases failedAt <;> simp
  · rfl

theorem arrival_eq_some (entries : Fin n → HsEntry Latency) {input : HsInput} {poll : Poll n}
    {id : String} (h : client.arrival input = some (poll, id)) :
    id ≠ "" ∧ ∃ index, client.step entries input =
      { client with polls := client.polls.eraseIdx index }.deliver entries poll (some id) := by
  cases input with
  | polled index answer =>
      simp only [arrival, Option.bind_eq_bind, Option.bind_eq_some_iff, Option.pure_def,
        Option.some.injEq, Prod.mk.injEq] at h
      obtain ⟨_, hPoll, _, hId, rfl, rfl⟩ := h
      cases answer with
      | nothing => cases hId
      | event eventId =>
          obtain ⟨rfl, hText⟩ := Option.filter_eq_some_iff.mp hId
          refine ⟨by simpa using hText, index, ?_⟩
          simp only [step, hPoll]
  | _ => cases h

/-- Only an event with an id changes what has been seen. -/
theorem seenEvents_step {input : HsInput} (h : client.arrival input = none) :
    (client.step entries input).seenEvents = client.seenEvents := by
  cases input with
  | sent index => exact finishSend_seenEvents ..
  | sendFailed index now => exact finishSend_seenEvents ..
  | onRoomEvent =>
      simp only [step, onRoomEvent]
      split <;> rfl
  | polled index answer =>
      simp only [step]
      cases hPoll : client.polls[index]? with
      | none => rfl
      | some poll =>
          cases answer with
          | nothing => rfl
          | event eventId =>
              simp only [arrival, hPoll, Option.bind_eq_bind, Option.bind_some, Option.pure_def,
                Option.bind_eq_none_iff, reduceCtorEq] at h
              rw [deliver_none_seenEvents _ poll (Option.eq_none_iff_forall_ne_some.mpr h)]
  | pollFailed index now =>
      simp only [step]
      split
      · simp
      · rfl
  | probeDue index =>
      simp only [step]
      split
      · split <;> rfl
      · rfl
  | probed index =>
      simp only [step]
      split
      · simp
      · rfl
  | probeFailed index =>
      simp only [step]
      split
      · split <;> simp
      · rfl
  | _ => rfl

end Seen

end MultiHsClient

namespace RoomEvents

variable {Latency : Type u} {n : Nat} [LinearOrder Latency] (entries : Fin n → HsEntry Latency)

/-- No events yet, and nobody has asked for one. -/
def new [NeZero n] (preferredServer : Option String) : RoomEvents n :=
  ⟨.createFromClients entries preferredServer, [], []⟩

/-- An event is handed on when its arrival closes the call. -/
def step (events : RoomEvents n) : RoomEventsInput → RoomEvents n
  | .client input =>
      let client := events.client.step entries input
      match events.client.arrival input with
      | some (poll, id) =>
          { client
            returned := events.returned ++ [id]
            delivered :=
              if ¬ events.client.Closed poll.call ∧ client.Closed poll.call then
                events.delivered ++ [id]
              else events.delivered }
      | none => { events with client }
  | .direct answer =>
      if events.client.isSingleServer then
        { events with
          returned := events.returned ++ answer.id.toList
          delivered := events.delivered ++ answer.id.toList }
      else events

/-- Every event that a server has returned has been handed on, and with several
servers none has been handed on twice within the window. -/
structure Faithful (events : RoomEvents n) : Prop where
  complete : ∀ id ∈ events.returned, id ∈ events.delivered
  distinct : 2 ≤ n → Window.Distinct (dedupWindow + 1) events.delivered

/-- An event for a call that is over has been handed on before. -/
def NotLate (events : RoomEvents n) : RoomEventsInput → Prop
  | .client input =>
      ∀ poll id, events.client.arrival input = some (poll, id) →
        events.client.Closed poll.call → id ∈ events.delivered
  | .direct _ => True

instance (events : RoomEvents n) : ∀ input, Decidable (events.NotLate input)
  | .client input =>
      match hArrival : events.client.arrival input with
      | none => .isTrue fun _ _ h => by rw [hArrival] at h; cases h
      | some (poll, id) =>
          decidable_of_iff (events.client.Closed poll.call → id ∈ events.delivered)
            ⟨fun h _ _ hSome => by
              rw [hArrival] at hSome
              cases hSome
              exact h, fun h => h poll id hArrival⟩
  | .direct _ => .isTrue trivial

section Delivery

variable {entries} {events : RoomEvents n}

/-- Everything an input can do to what was returned, handed on and noted. Where an
event comes too late, its id is given. -/
inductive Effect (events after : RoomEvents n) : Option String → Prop where
  | quiet (hReturned : after.returned = events.returned)
      (hDelivered : after.delivered = events.delivered)
      (hSeen : after.client.seenEvents = events.client.seenEvents) : Effect events after none
  | late (id : String) (hReturned : after.returned = events.returned ++ [id])
      (hDelivered : after.delivered = events.delivered)
      (hSeen : after.client.seenEvents = events.client.seenEvents) : Effect events after (some id)
  | duplicate (id : String) (hSeveral : 2 ≤ n) (hOld : id ∈ events.client.seenEvents)
      (hReturned : after.returned = events.returned ++ [id])
      (hDelivered : after.delivered = events.delivered)
      (hSeen : after.client.seenEvents = events.client.seenEvents) : Effect events after none
  | handed (id : String) (hReturned : after.returned = events.returned ++ [id])
      (hDelivered : after.delivered = events.delivered ++ [id])
      (hSeen : 2 ≤ n → id ∉ events.client.seenEvents ∧
        after.client.seenEvents = MultiHsClient.noteSeen events.client.seenEvents id) :
      Effect events after none

theorem closed_set (client : MultiHsClient n) {call : Nat} (hOpen : ¬ client.Closed call) :
    ((client.resolved.set call true)[call]?).getD true = true := by
  have hLength : call < client.resolved.length := by
    by_contra hNot
    rw [MultiHsClient.Closed, List.getElem?_eq_none (by omega)] at hOpen
    exact hOpen rfl
  rw [List.getElem?_set_self hLength, Option.getD_some]

/-- An event that arrives with an id. -/
theorem effect_arrival {input : HsInput} {poll : Poll n} {id : String}
    (hArrival : events.client.arrival input = some (poll, id)) :
    Effect events (events.step entries (.client input))
      (if events.client.Closed poll.call then some id else none) := by
  obtain ⟨hId, index, hStep⟩ := MultiHsClient.arrival_eq_some entries hArrival
  have hAfter : events.step entries (.client input) =
      ⟨events.client.step entries input, events.returned ++ [id],
        if ¬ events.client.Closed poll.call ∧
          (events.client.step entries input).Closed poll.call then events.delivered ++ [id]
        else events.delivered⟩ := by
    simp only [step, hArrival]
  rw [hAfter]
  rcases MultiHsClient.deliver_cases entries
    { events.client with polls := events.client.polls.eraseIdx index } poll hId with
    ⟨hClosed, hNext⟩ | ⟨hOpen, hSeveral, hOld, hNext⟩ | ⟨hOpen, hResolved, hSeen⟩
  · have hClosed : events.client.Closed poll.call := hClosed
    rw [if_pos hClosed]
    refine .late id rfl (if_neg fun h => h.1 hClosed) ?_
    rw [hStep, hNext]
  · have hOpen : ¬ events.client.Closed poll.call := hOpen
    rw [if_neg hOpen]
    refine .duplicate id hSeveral hOld rfl (if_neg fun h => hOpen ?_) ?_
    · rw [hStep, hNext] at h
      exact h.2
    · rw [hStep, hNext]
  · have hOpen : ¬ events.client.Closed poll.call := hOpen
    rw [if_neg hOpen]
    have hSet : (events.client.step entries input).resolved =
        events.client.resolved.set poll.call true := by rw [hStep, hResolved]
    have hClosed : (events.client.step entries input).Closed poll.call := by
      show ((events.client.step entries input).resolved[poll.call]?).getD true = true
      rw [hSet]
      exact closed_set events.client hOpen
    refine .handed id rfl (if_pos ⟨hOpen, hClosed⟩) ?_
    rw [hStep]
    exact hSeen

theorem exists_effect (entries : Fin n → HsEntry Latency) (events : RoomEvents n)
    (input : RoomEventsInput) :
    ∃ late, Effect events (events.step entries input) late ∧
      (events.NotLate input ↔ ∀ id ∈ late, id ∈ events.delivered) := by
  cases input with
  | client input =>
      cases hArrival : events.client.arrival input with
      | none =>
          refine ⟨none, ?_, by simp [NotLate, hArrival]⟩
          simp only [step, hArrival]
          exact .quiet rfl rfl (MultiHsClient.seenEvents_step hArrival)
      | some arrived =>
          obtain ⟨poll, id⟩ := arrived
          refine ⟨_, effect_arrival hArrival, ?_⟩
          simp only [NotLate, hArrival, Option.some.injEq, Prod.mk.injEq]
          split
          next hClosed =>
            constructor
            · rintro h _ ⟨⟩
              exact h poll id ⟨rfl, rfl⟩ hClosed
            · rintro h _ _ ⟨rfl, rfl⟩ -
              exact h id rfl
          next hOpen =>
            refine iff_of_true ?_ (by simp)
            rintro _ _ ⟨rfl, rfl⟩ hClosed
            exact absurd hClosed hOpen
  | direct answer =>
      refine ⟨none, ?_, by simp [NotLate]⟩
      simp only [step]
      split
      next hSingle =>
        have hNot : ¬ 2 ≤ n := by
          have hLe : n ≤ 1 := by simpa [MultiHsClient.isSingleServer] using hSingle
          omega
        cases answer.id with
        | none => exact .quiet (List.append_nil _) (List.append_nil _) rfl
        | some id => exact .handed id rfl rfl fun hSeveral => absurd hSeveral hNot
      · exact .quiet rfl rfl rfl

/-- With several servers, the ids seen are the latest of those handed on. -/
structure Kept (events : RoomEvents n) : Prop where
  remembers : 2 ≤ n → Window.Remembers dedupWindow events.client.seenEvents events.delivered
  distinct : 2 ≤ n → Window.Distinct (dedupWindow + 1) events.delivered

theorem remembers_noteSeen {seen ids : List String} {id : String}
    (h : Window.Remembers dedupWindow seen ids) (hNew : id ∉ seen) :
    Window.Remembers dedupWindow (MultiHsClient.noteSeen seen id) (ids ++ [id]) := by
  have hNoted := h.concat hNew
  unfold MultiHsClient.noteSeen
  split
  next hFull =>
    apply hNoted.drop
    rw [dedupWindow]
    omega
  · exact hNoted

theorem Kept.effect (h : events.Kept) {after : RoomEvents n} {late : Option String}
    (hEffect : Effect events after late) : after.Kept := by
  have hSame : after.delivered = events.delivered →
      after.client.seenEvents = events.client.seenEvents → after.Kept := by
    intro hDelivered hSeen
    exact ⟨by rw [hDelivered, hSeen]; exact h.remembers, by rw [hDelivered]; exact h.distinct⟩
  cases hEffect with
  | quiet _ hDelivered hSeen => exact hSame hDelivered hSeen
  | late _ _ hDelivered hSeen => exact hSame hDelivered hSeen
  | duplicate _ _ _ _ hDelivered hSeen => exact hSame hDelivered hSeen
  | handed id _ hDelivered hSeen =>
      refine ⟨fun hSeveral => ?_, fun hSeveral => ?_⟩
      · obtain ⟨hNew, hNoted⟩ := hSeen hSeveral
        rw [hDelivered, hNoted]
        exact remembers_noteSeen (h.remembers hSeveral) hNew
      · rw [hDelivered]
        exact (h.distinct hSeveral).concat (h.remembers hSeveral) (hSeen hSeveral).1

/-- Only a late event can be lost. -/
theorem complete_effect_iff (h : events.Kept)
    (hComplete : ∀ id ∈ events.returned, id ∈ events.delivered) {after : RoomEvents n}
    {late : Option String} (hEffect : Effect events after late) :
    (∀ id ∈ after.returned, id ∈ after.delivered) ↔ ∀ id ∈ late, id ∈ events.delivered := by
  cases hEffect with
  | quiet hReturned hDelivered _ =>
      rw [hReturned, hDelivered]
      exact iff_of_true hComplete (by simp)
  | late id hReturned hDelivered _ =>
      rw [hReturned, hDelivered, List.forall_mem_append, List.forall_mem_singleton]
      constructor
      · rintro ⟨-, hLate⟩ _ ⟨⟩
        exact hLate
      · intro hLate
        exact ⟨hComplete, hLate id rfl⟩
  | duplicate id hSeveral hOld hReturned hDelivered _ =>
      rw [hReturned, hDelivered, List.forall_mem_append, List.forall_mem_singleton]
      exact iff_of_true ⟨hComplete, (h.remembers hSeveral).subset hOld⟩ (by simp)
  | handed id hReturned hDelivered _ =>
      rw [hReturned, hDelivered, List.forall_mem_append, List.forall_mem_singleton]
      exact iff_of_true ⟨fun other hOther => List.mem_append_left _ (hComplete other hOther),
        by simp⟩ (by simp)

theorem kept_new [NeZero n] (entries : Fin n → HsEntry Latency) (preferredServer : Option String) :
    (new entries preferredServer).Kept := by
  have hNil : Window.Distinct (dedupWindow + 1) (new entries preferredServer).delivered := by
    intro block hBlock _
    rw [List.infix_nil.mp hBlock]
    exact List.nodup_nil
  exact ⟨fun _ => ⟨List.suffix_refl _, List.nodup_nil, .inr rfl⟩, fun _ => hNil⟩

/-- Delivery is faithful along a run exactly when no event is late for its call
before it has been handed on. -/
theorem always_faithful_iff [NeZero n] (entries : Fin n → HsEntry Latency)
    (preferredServer : Option String) (inputs : List RoomEventsInput) :
    Always (step entries) Faithful (new entries preferredServer) inputs ↔
      Admissible (step entries) NotLate (new entries preferredServer) inputs := by
  have hStart := kept_new entries preferredServer
  have hKeep : ∀ (events : RoomEvents n) (input : RoomEventsInput), events.Kept →
      (events.step entries input).Kept := by
    intro events input h
    obtain ⟨late, hEffect, -⟩ := exists_effect entries events input
    exact h.effect hEffect
  refine always_iff_admissible_under hKeep ?_ hStart ⟨by simp [new], hStart.distinct⟩
  intro events input h hFaithful
  obtain ⟨late, hEffect, hGuard⟩ := exists_effect entries events input
  rw [hGuard, ← complete_effect_iff h hFaithful.complete hEffect]
  exact ⟨Faithful.complete, fun hComplete => ⟨hComplete, (hKeep events input h).distinct⟩⟩

/-- The input brings this event from some server. -/
def Brings (id : String) : RoomEventsInput → Prop
  | .client (.polled _ answer) => answer.id = some id
  | .client _ => False
  | .direct answer => answer.id = some id

/-- Nothing is kept of an event but what is handed on. -/
theorem delivered_step {id : String} {input : RoomEventsInput} (hBrings : ¬ Brings id input)
    (h : id ∉ events.delivered) : id ∉ (events.step entries input).delivered := by
  cases input with
  | client input =>
      simp only [step]
      split
      next poll other hArrival =>
        have hOther : other ≠ id := by
          rintro rfl
          cases input with
          | polled index answer =>
              simp only [MultiHsClient.arrival, Option.bind_eq_bind, Option.bind_eq_some_iff,
                Option.pure_def, Option.some.injEq, Prod.mk.injEq] at hArrival
              obtain ⟨_, -, _, hId, -, rfl⟩ := hArrival
              exact hBrings hId
          | _ => cases hArrival
        dsimp only
        split
        · simp [h, hOther.symm]
        · exact h
      · exact h
  | direct answer =>
      simp only [step]
      split
      · rw [List.mem_append, not_or, Option.mem_toList]
        exact ⟨h, hBrings⟩
      · exact h

theorem delivered_run {id : String} {rest : List RoomEventsInput}
    (hRest : ∀ input ∈ rest, ¬ Brings id input) (h : id ∉ events.delivered) :
    id ∉ (run (step entries) events rest).delivered := by
  have hStep : ∀ (events : RoomEvents n) (input : RoomEventsInput), id ∉ events.delivered →
      ¬ Brings id input → id ∉ (events.step entries input).delivered :=
    fun _ _ hBefore hBrings => delivered_step hBrings hBefore
  exact ((admissible_of_forall hRest).always hStep h).last

end Delivery

/-- Both servers answer one call, with the same event. -/
theorem always_faithful_same_event :
    Always (step MultiHsClient.twoServers) Faithful (new MultiHsClient.twoServers none)
      [.client .onRoomEvent, .client (.polled 0 (.event (some "$first"))),
       .client (.polled 0 (.event (some "$first")))] :=
  (always_faithful_iff MultiHsClient.twoServers none _).mpr (by decide +kernel)

/-- Both servers answer one call, each with an event of its own. -/
def raced : List RoomEventsInput :=
  [.client .onRoomEvent, .client (.polled 0 (.event (some "$first"))),
   .client (.polled 0 (.event (some "$second")))]

/-- The second event is dropped, and no later call hands it on unless a server
returns it once more. -/
theorem second_event_lost :
    let start := new MultiHsClient.twoServers none
    let events := run (step MultiHsClient.twoServers) start raced
    "$second" ∈ events.returned ∧
      (∀ rest, (∀ input ∈ rest, ¬ Brings "$second" input) →
        "$second" ∉ (run (step MultiHsClient.twoServers) events rest).delivered) ∧
      ¬ Always (step MultiHsClient.twoServers) Faithful start raced := by
  intro start events
  have hReturned : "$second" ∈ events.returned := by decide +kernel
  have hLost : "$second" ∉ events.delivered := by decide +kernel
  refine ⟨hReturned, fun rest hRest => delivered_run hRest hLost, fun h => ?_⟩
  exact hLost (h.last.complete "$second" hReturned)

end RoomEvents

end Mxdx.Core
