import Mxdx.Foundations.Automaton
import Mxdx.Foundations.Feed

/-! Polling a room for events of one type. Each call of `on_room_event` notes what
the timeline already holds, then syncs until a page has something else of the type.
Calls are cut at their `await`; what the homeserver does in between are inputs. -/
namespace Mxdx.CoreWasm

open Automaton

universe u

/-- An event of the timeline. The homeserver gives each its own id. -/
structure RoomEvent (Content : Type u) where
  eventId : String
  eventType : String
  sender : String
  content : Content
deriving DecidableEq

section Pages

variable {Content : Type u}

/-- `messages(MessagesOptions::backward())`: a page of the newest events, newest first. -/
def backward (limit : Nat) (timeline : List (RoomEvent Content)) : List (RoomEvent Content) :=
  timeline.reverse.take limit

/-- A page that is large enough. -/
def messages (timeline : List (RoomEvent Content)) : List (RoomEvent Content) :=
  backward timeline.length timeline

/-- The events of a page that `collect_room_events` returns; what could not be
decrypted and the changes of membership are left out. -/
def collectRoomEvents (limit : Nat) (timeline : List (RoomEvent Content)) :
    List (RoomEvent Content) :=
  (backward limit timeline).filter fun event =>
    event.eventType ∉ ["m.room.encrypted", "m.room.encryption", "m.room.member"]

/-- What `on_room_event` returns when the time is over. -/
def timeoutValue : String := "null"

end Pages

/-- Where the present call is suspended, if there is one. -/
inductive CallStage where
  | idle
  | entered
  | waiting (seenEventIds : List String)
deriving DecidableEq

/-- The timeline, oldest event first, and the calls for one type of event. `arrived`
are the events of the type since the first call, `returned` what the calls returned,
and `checked` what had arrived when a page last had nothing to return. -/
structure Polling (Content : Type u) where
  timeline : List (RoomEvent Content)
  called : Bool
  stage : CallStage
  arrived : List (RoomEvent Content)
  returned : List (RoomEvent Content)
  checked : List (RoomEvent Content)

/-- The first page of a call may fail to load; a later one that does ends the call. -/
inductive PollingInput (Content : Type u) where
  | arrive (event : RoomEvent Content)
  | call
  | firstPage (loaded : Bool)
  | page
  | expired
  | failed

namespace Polling

variable {Content : Type u} (eventType : String)

/-- Nothing has been posted. -/
def new : Polling Content := ⟨[], false, .idle, [], [], []⟩

/-- Whether the poll is for events like this one. -/
def ofType (event : RoomEvent Content) : Bool := event.eventType = eventType

/-- The test of the loop. -/
def isNew (seen : List String) (event : RoomEvent Content) : Bool :=
  ofType eventType event && !seen.contains event.eventId

/-- An event is in the timeline once. -/
def arrive (polling : Polling Content) (event : RoomEvent Content) : Polling Content :=
  if event.eventId ∈ polling.timeline.map (·.eventId) then polling
  else
    { polling with
      timeline := polling.timeline ++ [event]
      arrived := polling.arrived ++
        if polling.called && ofType eventType event then [event] else [] }

/-- The first match of the page is returned. -/
def examine (polling : Polling Content) (seen : List String) : Polling Content :=
  match (messages polling.timeline).find? (isNew eventType seen) with
  | some event => { polling with stage := .idle, returned := polling.returned ++ [event] }
  | none => { polling with checked := polling.arrived }

/-- Arrivals and polls, in any order. -/
def step (polling : Polling Content) : PollingInput Content → Polling Content
  | .arrive event => polling.arrive eventType event
  | .call =>
      if polling.stage = .idle then { polling with called := true, stage := .entered } else polling
  | .firstPage loaded =>
      if polling.stage = .entered then
        let seen := if loaded then (messages polling.timeline).map (·.eventId) else []
        { polling with stage := .waiting seen }
      else polling
  | .page =>
      match polling.stage with
      | .waiting seen => polling.examine eventType seen
      | _ => polling
  | .expired | .failed =>
      match polling.stage with
      | .waiting _ => { polling with stage := .idle }
      | _ => polling

/-- What was returned is what arrived, in order and each event once, and a page that
has nothing new comes when everything was returned. -/
structure EachOnce (polling : Polling Content) : Prop where
  inOrder : polling.returned <+: polling.arrived
  complete : polling.checked <+: polling.returned

/-- The events of the type that the present call has not seen. -/
def unseen (polling : Polling Content) (seen : List String) : List (RoomEvent Content) :=
  polling.timeline.filter (isNew eventType seen)

/-- At a page at most one event is due, and one is exactly if the page has an event
that was not there when the call began. -/
def Prompt (polling : Polling Content) : PollingInput Content → Prop
  | .page => ∀ seen, polling.stage = .waiting seen →
      (Feed.pending polling.arrived polling.returned).length =
        if polling.unseen eventType seen = [] then 0 else 1
  | _ => True

/-- The ids are different, the events of the type since the first call are the newest
of their type, and what a call has seen was once the whole timeline, or nothing. -/
structure Ordered (polling : Polling Content) : Prop where
  ids : (polling.timeline.map (·.eventId)).Nodup
  newest : polling.arrived <:+ polling.timeline.filter (ofType eventType)
  uncalled : polling.called = false → polling.arrived = []
  seen : ∀ seen, polling.stage = .waiting seen → ∃ earlier later,
    polling.timeline = earlier ++ later ∧ ∀ id, id ∈ seen ↔ id ∈ earlier.map (·.eventId)

section Pages

variable {eventType} {polling : Polling Content} {seen : List String}

theorem messages_eq (timeline : List (RoomEvent Content)) :
    messages timeline = timeline.reverse := by
  rw [messages, backward, List.take_of_length_le (by simp)]

/-- The first match of a page is the newest one. -/
theorem find?_messages (polling : Polling Content) (seen : List String) :
    (messages polling.timeline).find? (isNew eventType seen) =
      (polling.unseen eventType seen).getLast? := by
  rw [messages_eq, ← List.head?_filter, List.filter_reverse, List.head?_reverse, unseen]

/-- What a call has not seen is what came last. -/
theorem Ordered.unseen_suffix (h : polling.Ordered eventType)
    (hStage : polling.stage = .waiting seen) :
    polling.unseen eventType seen <:+ polling.timeline.filter (ofType eventType) := by
  obtain ⟨earlier, later, hTimeline, hSeen⟩ := h.seen seen hStage
  have hIds := h.ids
  rw [hTimeline, List.map_append, List.nodup_append'] at hIds
  have hEarlier : earlier.filter (isNew eventType seen) = [] := by
    rw [List.filter_eq_nil_iff]
    intro event hEvent
    have hMem := (hSeen event.eventId).mpr (List.mem_map_of_mem hEvent)
    simp [isNew, hMem]
  have hLater : later.filter (isNew eventType seen) = later.filter (ofType eventType) := by
    apply List.filter_congr
    intro event hEvent
    have hOther : event.eventId ∉ seen := fun hMem =>
      hIds.2.2 ((hSeen event.eventId).mp hMem) (List.mem_map_of_mem hEvent)
    simp [isNew, hOther]
  rw [unseen, hTimeline, List.filter_append, List.filter_append, hEarlier, hLater]
  exact List.suffix_append _ _

theorem Ordered.nodup (h : polling.Ordered eventType) : polling.arrived.Nodup :=
  (h.ids.of_map.filter _).sublist h.newest.sublist

/-- The newest event that a call has not seen is the last one that arrived. -/
theorem Ordered.getLast?_unseen (h : polling.Ordered eventType)
    (hStage : polling.stage = .waiting seen) (hUnseen : polling.unseen eventType seen ≠ [])
    (hArrived : polling.arrived ≠ []) :
    (polling.unseen eventType seen).getLast? = polling.arrived.getLast? := by
  rw [Feed.getLast?_of_suffix (h.unseen_suffix hStage) hUnseen,
    Feed.getLast?_of_suffix h.newest hArrived]

/-- A page keeps the law exactly if what is due is the one event it returns. -/
theorem eachOnce_examine_iff (hOrdered : polling.Ordered eventType) (h : polling.EachOnce)
    (hStage : polling.stage = .waiting seen) :
    (polling.examine eventType seen).EachOnce ↔
      (Feed.pending polling.arrived polling.returned).length =
        if polling.unseen eventType seen = [] then 0 else 1 := by
  rw [examine, find?_messages]
  by_cases hUnseen : polling.unseen eventType seen = []
  · rw [hUnseen, if_pos rfl, List.length_eq_zero_iff, ← Feed.prefix_taken_iff h.inOrder]
    exact ⟨fun hNext => hNext.complete, fun hAll => ⟨h.inOrder, hAll⟩⟩
  · rw [if_neg hUnseen]
    cases hLast : (polling.unseen eventType seen).getLast? with
    | none => exact absurd (List.getLast?_eq_none_iff.mp hLast) hUnseen
    | some event =>
        have hTake : polling.returned ++ [event] <+: polling.arrived ↔
            (Feed.pending polling.arrived polling.returned).length = 1 := by
          by_cases hArrived : polling.arrived = []
          · simp [hArrived, Feed.pending]
          · rw [hOrdered.getLast?_unseen hStage hUnseen hArrived] at hLast
            exact Feed.take_newest_iff h.inOrder hOrdered.nodup hLast
        rw [← hTake]
        constructor
        · intro hNext
          exact hNext.inOrder
        · intro hOrder
          exact ⟨hOrder, h.complete.trans (List.prefix_append _ _)⟩

end Pages

section Steps

variable {eventType}

theorem ordered_new : (new : Polling Content).Ordered eventType where
  ids := List.nodup_nil
  newest := List.nil_suffix
  uncalled _ := rfl
  seen _ hStage := by cases hStage

theorem ordered_arrive {polling : Polling Content} (h : polling.Ordered eventType)
    (event : RoomEvent Content) : (polling.arrive eventType event).Ordered eventType := by
  unfold arrive
  split
  · exact h
  next hNew =>
    constructor
    · rw [List.map_append, List.nodup_append']
      exact ⟨h.ids, by simp, by simpa using hNew⟩
    · rw [List.filter_append]
      cases hCalled : polling.called with
      | false => simp [h.uncalled hCalled]
      | true =>
          obtain ⟨older, hOlder⟩ := h.newest
          exact ⟨older, by simp [← hOlder, List.filter_cons]⟩
    · intro hCalled
      change polling.called = false at hCalled
      simp [h.uncalled hCalled, hCalled]
    · intro seen hStage
      obtain ⟨earlier, later, hTimeline, hSeen⟩ := h.seen seen hStage
      exact ⟨earlier, later ++ [event], by simp [hTimeline], hSeen⟩

theorem ordered_examine {polling : Polling Content} (h : polling.Ordered eventType)
    (seen : List String) : (polling.examine eventType seen).Ordered eventType := by
  unfold examine
  split
  · exact ⟨h.ids, h.newest, h.uncalled, fun _ hStage => by cases hStage⟩
  · exact ⟨h.ids, h.newest, h.uncalled, h.seen⟩

theorem ordered_step (polling : Polling Content) (input : PollingInput Content)
    (h : polling.Ordered eventType) : (polling.step eventType input).Ordered eventType := by
  cases input with
  | arrive event => exact ordered_arrive h event
  | call =>
      simp only [step]
      split
      · exact ⟨h.ids, h.newest, (fun hCalled => by cases hCalled), fun _ hStage => by cases hStage⟩
      · exact h
  | firstPage loaded =>
      simp only [step]
      split
      · refine ⟨h.ids, h.newest, h.uncalled, fun seen hStage => ?_⟩
        obtain rfl := CallStage.waiting.inj hStage
        cases loaded with
        | false => exact ⟨[], polling.timeline, rfl, by simp⟩
        | true => exact ⟨polling.timeline, [], by simp, by simp [messages_eq]⟩
      · exact h
  | page =>
      simp only [step]
      split
      · exact ordered_examine h _
      · exact h
  | expired | failed =>
      simp only [step]
      split
      · exact ⟨h.ids, h.newest, h.uncalled, fun _ hStage => by cases hStage⟩
      · exact h

theorem eachOnce_step_iff (polling : Polling Content) (input : PollingInput Content)
    (hOrdered : polling.Ordered eventType) (h : polling.EachOnce) :
    (polling.step eventType input).EachOnce ↔ polling.Prompt eventType input := by
  cases input with
  | arrive event =>
      apply iff_of_true _ trivial
      simp only [step, arrive]
      split
      · exact h
      · exact ⟨h.inOrder.trans (List.prefix_append _ _), h.complete⟩
  | call =>
      apply iff_of_true _ trivial
      simp only [step]
      split
      · exact ⟨h.inOrder, h.complete⟩
      · exact h
  | firstPage loaded =>
      apply iff_of_true _ trivial
      simp only [step]
      split
      · exact ⟨h.inOrder, h.complete⟩
      · exact h
  | page =>
      simp only [step, Prompt]
      split
      next seen hStage =>
        rw [eachOnce_examine_iff hOrdered h hStage]
        constructor
        · intro hDue other hOther
          obtain rfl := CallStage.waiting.inj (hStage.symm.trans hOther)
          exact hDue
        · intro hDue
          exact hDue seen hStage
      next hOther => exact iff_of_true h fun seen hStage => absurd hStage (hOther seen)
  | expired | failed =>
      apply iff_of_true _ trivial
      simp only [step]
      split
      · exact ⟨h.inOrder, h.complete⟩
      · exact h

end Steps

/-- Polling gives every event once and in order exactly in the runs where no page
finds more than one event due, and finds it due exactly if the present call has not
seen it before. -/
theorem always_eachOnce_iff (inputs : List (PollingInput Content)) :
    Always (step eventType) EachOnce new inputs ↔
      Admissible (step eventType) (Prompt eventType) new inputs :=
  always_iff_admissible_under ordered_step eachOnce_step_iff ordered_new
    ⟨List.nil_prefix, List.nil_prefix⟩

/-- Two events that arrive together: the call returns the newer one, and the next call
takes the older one for seen. -/
theorem second_of_two_lost :
    let first : RoomEvent Unit := ⟨"$1", "org.mxdx.terminal.data", "@client", ()⟩
    let second : RoomEvent Unit := ⟨"$2", "org.mxdx.terminal.data", "@client", ()⟩
    let inputs : List (PollingInput Unit) :=
      [.call, .firstPage true, .arrive first, .arrive second, .page, .call, .firstPage true, .page]
    let polling := run (step "org.mxdx.terminal.data") new inputs
    polling.returned = [second] ∧ polling.checked = [first, second] ∧
      ¬ Always (step "org.mxdx.terminal.data") EachOnce new inputs := by
  intro first second inputs polling
  have hReturned : polling.returned = [second] := by decide
  have hChecked : polling.checked = [first, second] := by decide
  refine ⟨hReturned, hChecked, fun hAlways => ?_⟩
  have hOrder := hAlways.last.inOrder
  revert hOrder
  decide

end Polling

end Mxdx.CoreWasm
