import Mxdx.Core.P2PTransport
import Mxdx.CoreWasm.Timeline

/-! The commands of the exec room. Each iteration of the sync loop takes one page of
the room's newest events and works through it; the loop over the page is cut where a
handler is awaited, and after its timeout the sync loop goes on beside it. -/
namespace Mxdx.Runtime

open Automaton
open CoreWasm (RoomEvent collectRoomEvents)
open Mxdx.Core (JsValue)

/-- What `#processCommands` does with an event. -/
inductive Handler where
  | skipOwn
  | sessionTask
  | sessionCancel
  | sessionSignal
  | listSessions
  | reconnect
  | interactive
  | command
deriving DecidableEq

/-- An event as the launcher gets it from the room. -/
abbrev TimelineEvent := RoomEvent JsValue

/-- Content of the older form goes by its action. -/
def legacyHandler (content : JsValue) : Handler :=
  match content.get? "action" with
  | some (.str "list_sessions") => .listSessions
  | some (.str "reconnect") => .reconnect
  | some (.str "interactive") => .interactive
  | _ => .command

/-- The branch of an event, if its type has one. -/
def handlerOf (userId : String) (event : TimelineEvent) : Option Handler :=
  let unlessOwn (handler : Handler) := if event.sender = userId then .skipOwn else handler
  match event.eventType with
  | "org.mxdx.session.task" => some (unlessOwn .sessionTask)
  | "org.mxdx.session.cancel" => some (unlessOwn .sessionCancel)
  | "org.mxdx.session.signal" => some (unlessOwn .sessionSignal)
  | "org.mxdx.command" => some (legacyHandler event.content)
  | _ => none

/-- A call of `#processCommands` that awaits a handler: the event, the rest of its
page, and the commands that were in the room when the page was taken. -/
structure Activation where
  event : TimelineEvent
  rest : List TimelineEvent
  commands : List TimelineEvent

/-- The room and the events that were taken up. `covered` are the commands in the room
at the pages that were worked through, and `undone` the events whose handler threw
before it had done anything. -/
structure CommandLoop where
  timeline : List TimelineEvent
  processedEvents : List String
  handled : List TimelineEvent
  activations : List Activation
  covered : List TimelineEvent
  undone : List TimelineEvent

/-- Events come, and the loop goes on. -/
inductive CommandInput where
  | arrive (event : TimelineEvent)
  | page
  | resolved (index : Nat)
  /-- Whether the handler had done something before it threw. -/
  | rejected (index : Nat) (begun : Bool)

namespace CommandLoop

/-- Nothing has come and nothing was handled. -/
def new : CommandLoop := ⟨[], [], [], [], [], []⟩

variable (userId : String) (limit : Nat)

/-- Whether there is a handler for the event. -/
def isCommand (event : TimelineEvent) : Bool := (handlerOf userId event).isSome

/-- The task, cancel, signal and command events of the room, oldest first. -/
def commands (loop : CommandLoop) : List TimelineEvent := loop.timeline.filter (isCommand userId)

/-- The homeserver gives each event an id of its own. -/
def arrive (loop : CommandLoop) (event : TimelineEvent) : CommandLoop :=
  if event.eventId = "" ∨ event.eventId ∈ loop.timeline.map (·.eventId) then loop
  else { loop with timeline := loop.timeline ++ [event] }

/-- An event is taken up once. -/
def mark (loop : CommandLoop) (event : TimelineEvent) : CommandLoop :=
  { loop with processedEvents := loop.processedEvents ++ [event.eventId] }

/-- The handler of the event has run. -/
def handle (loop : CommandLoop) (event : TimelineEvent) : CommandLoop :=
  { loop with handled := loop.handled ++ [event] }

/-- The loop over a page, up to the next handler that is awaited. -/
def work (atPage : List TimelineEvent) : CommandLoop → List TimelineEvent → CommandLoop
  | loop, [] => { loop with covered := loop.covered ++ atPage }
  | loop, event :: rest =>
      if event.eventId = "" ∨ event.eventId ∈ loop.processedEvents then work atPage loop rest
      else
        match handlerOf userId event with
        | none => work atPage (loop.mark event) rest
        | some .skipOwn => work atPage ((loop.mark event).handle event) rest
        | some _ =>
            { (loop.mark event).handle event with
              activations := loop.activations ++ [⟨event, rest, atPage⟩] }

/-- Events come, and the loop goes on. -/
def step (loop : CommandLoop) : CommandInput → CommandLoop
  | .arrive event => loop.arrive event
  | .page => work userId (loop.commands userId) loop (collectRoomEvents limit loop.timeline)
  | .resolved index =>
      match loop.activations[index]? with
      | some activation =>
          work userId activation.commands
            { loop with activations := loop.activations.eraseIdx index } activation.rest
      | none => loop
  | .rejected index begun =>
      match loop.activations[index]? with
      | some activation =>
          { loop with
            activations := loop.activations.eraseIdx index
            undone := loop.undone ++ if begun then [] else [activation.event] }
      | none => loop

/-- The commands are handled once each and in the order of the room, all of a page when
it is worked through, and one whose handler did nothing is not taken for done. -/
structure EachHandled (loop : CommandLoop) : Prop where
  inOrder : loop.handled <+: loop.commands userId
  complete : loop.covered ⊆ loop.handled
  retried : ∀ event ∈ loop.undone, event.eventId ∉ loop.processedEvents

/-- The commands that were not handled. -/
def due (loop : CommandLoop) : List TimelineEvent :=
  Feed.pending (loop.commands userId) loop.handled

/-- At a page at most one command is due, and it is on the page; a handler that throws
has done something. -/
def OneByOne (loop : CommandLoop) : CommandInput → Prop
  | .page => (loop.due userId).length ≤ 1 ∧
      loop.due userId ⊆ collectRoomEvents limit loop.timeline
  | .rejected index begun => index < loop.activations.length → begun = true
  | _ => True

/-- A command that has not been taken up. -/
def isDue (loop : CommandLoop) (event : TimelineEvent) : Bool :=
  isCommand userId event && !loop.processedEvents.contains event.eventId

/-- The loop has nothing to do for these events. -/
def Quiet (loop : CommandLoop) (page : List TimelineEvent) : Prop :=
  ∀ event ∈ page, isCommand userId event → event.eventId ∈ loop.processedEvents

section Page

variable {userId} {limit} {loop : CommandLoop} {atPage page rest : List TimelineEvent}

/-- Events without work for the loop are at most marked. -/
theorem work_quiet_append (atPage : List TimelineEvent) (hQuiet : loop.Quiet userId page)
    (rest : List TimelineEvent) :
    ∃ marked, work userId atPage loop (page ++ rest) =
        work userId atPage { loop with processedEvents := loop.processedEvents ++ marked } rest ∧
      ∀ id ∈ marked, ∃ event ∈ page, event.eventId = id ∧ isCommand userId event = false := by
  induction page generalizing loop with
  | nil => exact ⟨[], by simp, by simp⟩
  | cons event page ih =>
      obtain ⟨hEvent, hPage⟩ := List.forall_mem_cons.mp hQuiet
      rw [List.cons_append, work]
      by_cases hSeen : event.eventId = "" ∨ event.eventId ∈ loop.processedEvents
      · obtain ⟨marked, hWork, hMarked⟩ := ih hPage
        refine ⟨marked, by rw [if_pos hSeen, hWork], fun id hId => ?_⟩
        obtain ⟨found, hFound, hRest⟩ := hMarked id hId
        exact ⟨found, List.mem_cons_of_mem _ hFound, hRest⟩
      · rw [if_neg hSeen]
        cases hHandler : handlerOf userId event with
        | some handler => exact absurd (.inr (hEvent (by rw [isCommand, hHandler]; rfl))) hSeen
        | none =>
            have hMark : (loop.mark event).Quiet userId page := fun found hFound hCommand =>
              List.mem_append_left _ (hPage found hFound hCommand)
            obtain ⟨marked, hWork, hMarked⟩ := ih hMark
            refine ⟨event.eventId :: marked, ?_, fun id hId => ?_⟩
            · dsimp only
              rw [hWork]
              simp [mark]
            · rcases List.mem_cons.mp hId with rfl | hId
              · exact ⟨event, List.mem_cons_self, rfl, by rw [isCommand, hHandler]; rfl⟩
              · obtain ⟨found, hFound, hRest⟩ := hMarked id hId
                exact ⟨found, List.mem_cons_of_mem _ hFound, hRest⟩

/-- A page without work is worked through at once. -/
theorem work_quiet (atPage : List TimelineEvent) (hQuiet : loop.Quiet userId page) :
    ∃ marked, work userId atPage loop page =
        { loop with
          processedEvents := loop.processedEvents ++ marked
          covered := loop.covered ++ atPage } ∧
      ∀ id ∈ marked, ∃ event ∈ page, event.eventId = id ∧ isCommand userId event = false := by
  obtain ⟨marked, hWork, hMarked⟩ := work_quiet_append atPage hQuiet []
  exact ⟨marked, by rw [List.append_nil] at hWork; exact hWork, hMarked⟩

/-- What was handled stays so. -/
theorem handled_work (loop : CommandLoop) (page : List TimelineEvent) :
    loop.handled <+: (work userId atPage loop page).handled := by
  induction page generalizing loop with
  | nil => exact List.prefix_refl _
  | cons event rest ih =>
      unfold work
      split
      · exact ih loop
      · split
        · exact ih (loop.mark event)
        · exact (List.prefix_append _ _).trans (ih ((loop.mark event).handle event))
        · exact List.prefix_append _ _

theorem timeline_work (loop : CommandLoop) (page : List TimelineEvent) :
    (work userId atPage loop page).timeline = loop.timeline := by
  induction page generalizing loop with
  | nil => rfl
  | cons event rest ih =>
      unfold work
      split
      · exact ih loop
      · split
        · exact ih (loop.mark event)
        · exact ih ((loop.mark event).handle event)
        · rfl

end Page

/-- The ids are different and none is empty, the handled commands are those that are
marked, and what awaits a handler has nothing else to do. -/
structure Sound (loop : CommandLoop) : Prop where
  inOrder : loop.handled <+: loop.commands userId
  complete : loop.covered ⊆ loop.handled
  undone : loop.undone = []
  ids : (loop.timeline.map (·.eventId)).Nodup
  named : ∀ event ∈ loop.timeline, event.eventId ≠ ""
  processed : ∀ id ∈ loop.processedEvents, id ∈ loop.timeline.map (·.eventId)
  marked : ∀ event ∈ loop.commands userId,
    event.eventId ∈ loop.processedEvents ↔ event ∈ loop.handled
  suspended : ∀ activation ∈ loop.activations,
    activation.event.eventId ∈ loop.processedEvents ∧ activation.rest ⊆ loop.timeline ∧
      loop.Quiet userId activation.rest ∧ activation.commands ⊆ loop.handled

section Steps

variable {userId} {limit} {loop : CommandLoop} {atPage page rest : List TimelineEvent}

theorem Sound.eachHandled (h : Sound userId loop) : loop.EachHandled userId :=
  ⟨h.inOrder, h.complete, by simp [h.undone]⟩

theorem Sound.eq_of_eventId (h : Sound userId loop) {first second : TimelineEvent}
    (hFirst : first ∈ loop.timeline) (hSecond : second ∈ loop.timeline)
    (hId : first.eventId = second.eventId) : first = second :=
  List.inj_on_of_nodup_map h.ids hFirst hSecond hId

theorem Sound.nodup (h : Sound userId loop) : (loop.commands userId).Nodup :=
  h.ids.of_map.filter _

theorem mem_commands {event : TimelineEvent} :
    event ∈ loop.commands userId ↔ event ∈ loop.timeline ∧ isCommand userId event = true :=
  List.mem_filter

theorem quiet_mono {marked : List String} (h : loop.Quiet userId page) :
    Quiet userId { loop with processedEvents := loop.processedEvents ++ marked } page :=
  fun event hEvent hCommand => List.mem_append_left _ (h event hEvent hCommand)

/-- Events without a handler may be marked. -/
theorem sound_marked (h : Sound userId loop) {marked : List String}
    (hMarked : ∀ id ∈ marked,
      ∃ event ∈ loop.timeline, event.eventId = id ∧ isCommand userId event = false) :
    Sound userId { loop with processedEvents := loop.processedEvents ++ marked } := by
  refine ⟨h.inOrder, h.complete, h.undone, h.ids, h.named, fun id hId => ?_,
    fun event hEvent => ?_, fun activation hActivation => ?_⟩
  · rcases List.mem_append.mp hId with hOld | hNew
    · exact h.processed id hOld
    · obtain ⟨event, hEvent, rfl, -⟩ := hMarked id hNew
      exact List.mem_map_of_mem hEvent
  · rw [← h.marked event hEvent, List.mem_append]
    apply or_iff_left
    intro hNew
    obtain ⟨other, hOther, hId, hNone⟩ := hMarked _ hNew
    obtain ⟨hTimeline, hCommand⟩ := mem_commands.mp hEvent
    rw [h.eq_of_eventId hOther hTimeline hId, hCommand] at hNone
    cases hNone
  · obtain ⟨hEvent, hRest, hQuiet, hCommands⟩ := h.suspended activation hActivation
    exact ⟨List.mem_append_left _ hEvent, hRest, quiet_mono hQuiet, hCommands⟩

theorem sound_covered (h : Sound userId loop) (hPage : atPage ⊆ loop.handled) :
    Sound userId { loop with covered := loop.covered ++ atPage } :=
  ⟨h.inOrder, List.append_subset.mpr ⟨h.complete, hPage⟩, h.undone, h.ids, h.named, h.processed,
    h.marked, h.suspended⟩

/-- A page without work changes nothing that counts. -/
theorem sound_work_quiet (h : Sound userId loop) (hTimeline : page ⊆ loop.timeline)
    (hQuiet : loop.Quiet userId page) (hPage : atPage ⊆ loop.handled) :
    Sound userId (work userId atPage loop page) := by
  obtain ⟨marked, hWork, hMarked⟩ := work_quiet atPage hQuiet
  rw [hWork]
  refine sound_covered (sound_marked h fun id hId => ?_) hPage
  obtain ⟨event, hEvent, hRest⟩ := hMarked id hId
  exact ⟨event, hTimeline hEvent, hRest⟩

/-- The one command that is due is taken up. -/
theorem sound_handle (h : Sound userId loop) {event : TimelineEvent}
    (hDue : loop.due userId = [event]) : Sound userId ((loop.mark event).handle event) := by
  have hAll : loop.handled ++ [event] = loop.commands userId := by
    rw [← hDue]
    exact Feed.taken_append_pending h.inOrder
  have hEvent : event ∈ loop.commands userId := by simp [← hAll]
  refine ⟨hAll ▸ List.prefix_refl _, fun found hFound => ?_, h.undone, h.ids, h.named,
    fun id hId => ?_, fun found hFound => ?_, fun activation hActivation => ?_⟩
  · exact List.mem_append_left _ (h.complete hFound)
  · rcases List.mem_append.mp hId with hOld | hNew
    · exact h.processed id hOld
    · rw [List.mem_singleton.mp hNew]
      exact List.mem_map_of_mem (mem_commands.mp hEvent).1
  · change found.eventId ∈ loop.processedEvents ++ [event.eventId] ↔ found ∈ loop.handled ++ [event]
    rw [List.mem_append, List.mem_append, h.marked found hFound, List.mem_singleton,
      List.mem_singleton]
    refine or_congr_right ⟨fun hId => ?_, fun hSame => congrArg _ hSame⟩
    exact h.eq_of_eventId (mem_commands.mp hFound).1 (mem_commands.mp hEvent).1 hId
  · obtain ⟨hStarted, hRest, hQuiet, hCommands⟩ := h.suspended activation hActivation
    exact ⟨List.mem_append_left _ hStarted, hRest, quiet_mono hQuiet,
      fun found hFound => List.mem_append_left _ (hCommands hFound)⟩

theorem sound_suspend (h : Sound userId loop) {activation : Activation}
    (hActivation : activation.event.eventId ∈ loop.processedEvents ∧
      activation.rest ⊆ loop.timeline ∧ loop.Quiet userId activation.rest ∧
        activation.commands ⊆ loop.handled) :
    Sound userId { loop with activations := loop.activations ++ [activation] } := by
  refine ⟨h.inOrder, h.complete, h.undone, h.ids, h.named, h.processed, h.marked, ?_⟩
  intro found hFound
  rcases List.mem_append.mp hFound with hOld | hNew
  · exact h.suspended found hOld
  · rw [List.mem_singleton.mp hNew]
    exact hActivation

theorem sound_eraseIdx (h : Sound userId loop) (index : Nat) :
    Sound userId { loop with activations := loop.activations.eraseIdx index } :=
  ⟨h.inOrder, h.complete, h.undone, h.ids, h.named, h.processed, h.marked,
    fun activation hActivation => h.suspended activation (List.mem_of_mem_eraseIdx hActivation)⟩

theorem sound_arrive (h : Sound userId loop) (event : TimelineEvent) :
    Sound userId (loop.arrive event) := by
  unfold arrive
  split
  · exact h
  next hNew =>
    obtain ⟨hNamed, hId⟩ := not_or.mp hNew
    refine ⟨?_, h.complete, h.undone, ?_, ?_, fun id hOld => ?_, fun found hFound => ?_,
      fun activation hActivation => ?_⟩
    · refine h.inOrder.trans ?_
      simp only [commands, List.filter_append]
      exact List.prefix_append _ _
    · rw [List.map_append, List.nodup_append']
      exact ⟨h.ids, by simp, by simpa using hId⟩
    · intro found hFound
      rcases List.mem_append.mp hFound with hOld | hLast
      · exact h.named found hOld
      · rw [List.mem_singleton.mp hLast]
        exact hNamed
    · rw [List.map_append]
      exact List.mem_append_left _ (h.processed id hOld)
    · simp only [commands, List.filter_append, List.mem_append] at hFound
      rcases hFound with hOld | hLast
      · exact h.marked found hOld
      · obtain rfl := List.mem_singleton.mp (List.mem_filter.mp hLast).1
        apply iff_of_false
        · intro hProcessed
          exact hId (h.processed _ hProcessed)
        · intro hHandled
          have hOld := (mem_commands.mp (h.inOrder.subset hHandled)).1
          exact hId (List.mem_map_of_mem hOld)
    · obtain ⟨hStarted, hRest, hQuiet, hCommands⟩ := h.suspended activation hActivation
      exact ⟨hStarted, fun found hFound => List.mem_append_left _ (hRest hFound), hQuiet, hCommands⟩

/-- The commands that are due are the ones without a mark. -/
theorem Sound.due_eq (h : Sound userId loop) :
    loop.due userId = loop.timeline.filter (loop.isDue userId) := by
  have hMarked : ∀ event ∈ loop.commands userId,
      loop.processedEvents.contains event.eventId = true ↔ event ∈ loop.handled := by
    intro event hEvent
    rw [List.contains_iff_mem, h.marked event hEvent]
  rw [due, Feed.pending_eq_filter h.inOrder h.nodup hMarked, commands, List.filter_filter]
  apply List.filter_congr
  intro event _
  rw [isDue, Bool.and_comm]

theorem collected_subset (limit : Nat) : collectRoomEvents limit loop.timeline ⊆ loop.timeline := by
  intro event hEvent
  have hPage := List.mem_of_mem_take (List.mem_filter.mp hEvent).1
  exact List.mem_reverse.mp hPage

theorem collected_nodup (limit : Nat) (h : Sound userId loop) :
    (collectRoomEvents limit loop.timeline).Nodup := by
  apply List.Nodup.filter
  exact (List.nodup_reverse.mpr h.ids.of_map).sublist (List.take_sublist _ _)

/-- A command that is not marked is due. -/
theorem quiet_of_due (h : Sound userId loop) (hTimeline : page ⊆ loop.timeline)
    (hDue : ∀ event ∈ page, event ∉ loop.due userId) : loop.Quiet userId page := by
  intro event hEvent hCommand
  by_contra hNot
  refine hDue event hEvent ?_
  rw [h.due_eq]
  exact List.mem_filter.mpr ⟨hTimeline hEvent, by simp [isDue, hCommand, hNot]⟩

/-- A command without a mark is handled, and awaited unless it is skipped. -/
theorem work_command (loop : CommandLoop) (atPage rest : List TimelineEvent)
    {event : TimelineEvent} (hNamed : event.eventId ≠ "")
    (hNew : event.eventId ∉ loop.processedEvents) (hCommand : isCommand userId event = true) :
    work userId atPage loop (event :: rest) =
        work userId atPage ((loop.mark event).handle event) rest ∨
      work userId atPage loop (event :: rest) =
        { (loop.mark event).handle event with
          activations := loop.activations ++ [⟨event, rest, atPage⟩] } := by
  rw [work, if_neg (not_or.mpr ⟨hNamed, hNew⟩)]
  split
  next hHandler => rw [isCommand, hHandler] at hCommand; cases hCommand
  · exact .inl rfl
  · exact .inr rfl

theorem commands_eq_append (h : Sound userId loop) {event : TimelineEvent}
    (hDue : loop.due userId = [event]) : loop.commands userId = loop.handled ++ [event] := by
  rw [← hDue]
  exact (Feed.taken_append_pending h.inOrder).symm

theorem commands_subset (h : Sound userId loop) (hDue : loop.due userId = []) :
    loop.commands userId ⊆ loop.handled :=
  ((Feed.prefix_taken_iff h.inOrder).mpr hDue).subset

/-- The page up to the one command that is due. -/
theorem work_due (atPage : List TimelineEvent) (h : Sound userId loop) {event : TimelineEvent}
    {before after : List TimelineEvent}
    (hPage : collectRoomEvents limit loop.timeline = before ++ event :: after)
    (hEvent : event ∈ loop.due userId) (hBefore : ∀ found ∈ before, found ∉ loop.due userId) :
    ∃ marked, Sound userId { loop with processedEvents := loop.processedEvents ++ marked } ∧
      event.eventId ∉ loop.processedEvents ++ marked ∧
      work userId atPage loop (collectRoomEvents limit loop.timeline) =
        work userId atPage { loop with processedEvents := loop.processedEvents ++ marked }
          (event :: after) := by
  have hTimeline : before ++ event :: after ⊆ loop.timeline := hPage ▸ collected_subset limit
  have hSubset : before ⊆ loop.timeline := fun found hFound =>
    hTimeline (List.mem_append_left _ hFound)
  obtain ⟨marked, hWork, hMarked⟩ :=
    work_quiet_append atPage (quiet_of_due h hSubset hBefore) (event :: after)
  have hSound : Sound userId { loop with processedEvents := loop.processedEvents ++ marked } := by
    apply sound_marked h
    intro id hId
    obtain ⟨found, hFound, hRest⟩ := hMarked id hId
    exact ⟨found, hSubset hFound, hRest⟩
  refine ⟨marked, hSound, fun hId => ?_, hPage ▸ hWork⟩
  have hCommand := (Feed.pending_suffix _ _).subset hEvent
  have hHandled : event ∈ loop.handled := (hSound.marked event hCommand).mp hId
  exact Feed.not_mem_taken h.inOrder h.nodup hEvent hHandled

theorem sound_page (h : Sound userId loop) (hPrompt : loop.OneByOne userId limit .page) :
    Sound userId (loop.step userId limit .page) := by
  obtain ⟨hLength, hPage⟩ := hPrompt
  rw [step]
  cases hDue : loop.due userId with
  | nil =>
      have hQuiet := quiet_of_due h (collected_subset limit) (by simp [hDue])
      exact sound_work_quiet h (collected_subset limit) hQuiet (commands_subset h hDue)
  | cons event others =>
      obtain rfl : others = [] := by simpa [hDue] using hLength
      obtain ⟨before, after, hSplit⟩ := List.append_of_mem (hPage (hDue ▸ List.mem_cons_self))
      have hNodup := collected_nodup limit h
      rw [hSplit, List.nodup_append'] at hNodup
      have hBefore : ∀ found ∈ before, found ∉ loop.due userId := by
        intro found hFound hMem
        rw [hDue, List.mem_singleton] at hMem
        exact hNodup.2.2 hFound (hMem ▸ List.mem_cons_self)
      obtain ⟨marked, hSound, hNew, hWork⟩ := work_due (loop.commands userId) h hSplit
        (hDue ▸ List.mem_cons_self) hBefore
      rw [hWork]
      have hTimeline : before ++ event :: after ⊆ loop.timeline := hSplit ▸ collected_subset limit
      have hAfter : after ⊆ loop.timeline := fun found hFound =>
        hTimeline (List.mem_append_right _ (List.mem_cons_of_mem _ hFound))
      have hCommands := commands_eq_append h hDue
      have hEvent : event ∈ loop.commands userId := by simp [hCommands]
      obtain ⟨hMem, hCommand⟩ := mem_commands.mp hEvent
      have hHandled := sound_handle hSound hDue
      have hAll : loop.commands userId ⊆ loop.handled ++ [event] := hCommands ▸ List.Subset.refl _
      have hQuiet : Quiet userId
          ((mark { loop with processedEvents := loop.processedEvents ++ marked }
            event).handle event) after := by
        apply quiet_of_due hHandled hAfter
        have hNone : Feed.pending (loop.commands userId) (loop.handled ++ [event]) = [] :=
          (Feed.prefix_taken_iff hHandled.inOrder).mp (hCommands ▸ List.prefix_refl _)
        intro found _ hFound
        change found ∈ Feed.pending (loop.commands userId) (loop.handled ++ [event]) at hFound
        rw [hNone] at hFound
        cases hFound
      rcases work_command { loop with processedEvents := loop.processedEvents ++ marked }
        (loop.commands userId) after
        (h.named event hMem) hNew hCommand with hSkipped | hAwaited
      · rw [hSkipped]
        exact sound_work_quiet hHandled hAfter hQuiet hAll
      · rw [hAwaited]
        exact sound_suspend hHandled ⟨by simp [mark, handle], hAfter, hQuiet, hAll⟩

/-- No command is of a type that a page leaves out. -/
theorem type_of_isCommand {event : TimelineEvent} (hCommand : isCommand userId event = true) :
    event.eventType ∉ ["m.room.encrypted", "m.room.encryption", "m.room.member"] := by
  intro hType
  simp only [List.mem_cons, List.not_mem_nil, or_false] at hType
  rcases hType with hType | hType | hType <;> simp [isCommand, handlerOf, hType] at hCommand

/-- The first command of a page that is due is the newest one in the room. -/
theorem getLast?_due (h : Sound userId loop) {event : TimelineEvent}
    (hFind : (collectRoomEvents limit loop.timeline).find? (loop.isDue userId) = some event) :
    (loop.due userId).getLast? = some event := by
  have hPage : (collectRoomEvents limit loop.timeline).filter (loop.isDue userId) =
      (CoreWasm.backward limit loop.timeline).filter (loop.isDue userId) := by
    rw [collectRoomEvents, List.filter_filter]
    apply List.filter_congr
    intro found _
    apply Bool.and_eq_left_iff_imp.mpr
    intro hDue
    exact decide_eq_true (type_of_isCommand (Bool.and_eq_true_iff.mp hDue).1)
  rw [← List.head?_filter, hPage, List.head?_filter] at hFind
  rw [h.due_eq, ← List.head?_reverse, ← List.filter_reverse, List.head?_filter]
  exact (List.take_prefix limit loop.timeline.reverse).find?_eq_some hFind

/-- If a page keeps the order, then at most one command was due, and it was on the page. -/
theorem oneByOne_of_page (h : Sound userId loop)
    (hNext : (loop.step userId limit .page).EachHandled userId) :
    loop.OneByOne userId limit .page := by
  rw [step] at hNext
  cases hFind : (collectRoomEvents limit loop.timeline).find? (loop.isDue userId) with
  | none =>
      have hQuiet : loop.Quiet userId (collectRoomEvents limit loop.timeline) := by
        intro event hEvent hCommand
        have hNot := List.find?_eq_none.mp hFind event hEvent
        simpa [isDue, hCommand] using hNot
      obtain ⟨marked, hWork, -⟩ := work_quiet (loop.commands userId) hQuiet
      rw [hWork] at hNext
      have hAll : loop.commands userId ⊆ loop.handled := fun event hEvent =>
        hNext.complete (List.mem_append_right _ hEvent)
      have hDue : loop.due userId = [] := by
        rw [List.eq_nil_iff_forall_not_mem]
        intro event hEvent
        have hCommand := (Feed.pending_suffix _ _).subset hEvent
        exact Feed.not_mem_taken h.inOrder h.nodup hEvent (hAll hCommand)
      simp [OneByOne, hDue]
  | some event =>
      have hLast := getLast?_due h hFind
      obtain ⟨-, before, after, hSplit, hBefore⟩ := List.find?_eq_some_iff_append.mp hFind
      have hEvent := List.mem_of_getLast? hLast
      have hNotDue : ∀ found ∈ before, found ∉ loop.due userId := by
        intro found hFound hMem
        rw [h.due_eq] at hMem
        simpa [(List.mem_filter.mp hMem).2] using hBefore found hFound
      obtain ⟨marked, hSound, hNew, hWork⟩ :=
        work_due (loop.commands userId) h hSplit hEvent hNotDue
      obtain ⟨hMem, hCommand⟩ := mem_commands.mp ((Feed.pending_suffix _ _).subset hEvent)
      have hHandled : loop.handled ++ [event] <+:
          (work userId (loop.commands userId) loop
            (collectRoomEvents limit loop.timeline)).handled := by
        rw [hWork]
        rcases work_command { loop with processedEvents := loop.processedEvents ++ marked }
          (loop.commands userId) after
          (h.named event hMem) hNew hCommand with hSkipped | hAwaited
        · rw [hSkipped]
          exact handled_work
            ((mark { loop with processedEvents := loop.processedEvents ++ marked }
              event).handle event) after
        · rw [hAwaited]
          exact List.prefix_refl _
      have hOrder := hHandled.trans hNext.inOrder
      rw [commands, timeline_work] at hOrder
      have hNewest : (loop.commands userId).getLast? = some event := by
        rw [← hLast]
        exact (Feed.getLast?_of_suffix (Feed.pending_suffix _ _) (List.ne_nil_of_mem hEvent)).symm
      have hOne : (loop.due userId).length = 1 :=
        (Feed.take_newest_iff h.inOrder h.nodup hNewest).mp hOrder
      obtain ⟨only, hOnly⟩ := List.length_eq_one_iff.mp hOne
      refine ⟨Nat.le_of_eq hOne, fun found hFound => ?_⟩
      rw [hOnly] at hEvent hFound
      rw [List.mem_singleton.mp hFound, ← List.mem_singleton.mp hEvent, hSplit]
      exact List.mem_append_right _ List.mem_cons_self

theorem sound_resolved (h : Sound userId loop) (index : Nat) :
    Sound userId (loop.step userId limit (.resolved index)) := by
  rw [step]
  cases hActivation : loop.activations[index]? with
  | none => exact h
  | some activation =>
      obtain ⟨-, hRest, hQuiet, hCommands⟩ :=
        h.suspended activation (List.mem_of_getElem? hActivation)
      exact sound_work_quiet (sound_eraseIdx h index) hRest hQuiet hCommands

theorem sound_rejected (h : Sound userId loop) (index : Nat) :
    Sound userId (loop.step userId limit (.rejected index true)) := by
  rw [step]
  cases hActivation : loop.activations[index]? with
  | none => exact h
  | some activation =>
      dsimp only
      rw [if_pos rfl, List.append_nil]
      exact sound_eraseIdx h index

/-- An event whose handler threw at once is marked all the same. -/
theorem begun_of_rejected (h : Sound userId loop) {index : Nat} {begun : Bool}
    (hNext : (loop.step userId limit (.rejected index begun)).EachHandled userId)
    (hIndex : index < loop.activations.length) : begun = true := by
  rw [step, List.getElem?_eq_getElem hIndex] at hNext
  by_contra hBegun
  refine hNext.retried loop.activations[index].event (List.mem_append_right _ ?_) ?_
  · simp [hBegun]
  · exact (h.suspended _ (List.getElem_mem hIndex)).1

theorem sound_step (loop : CommandLoop) (input : CommandInput) (h : Sound userId loop)
    (hPrompt : loop.OneByOne userId limit input) : Sound userId (loop.step userId limit input) := by
  cases input with
  | arrive event => exact sound_arrive h event
  | page => exact sound_page h hPrompt
  | resolved index => exact sound_resolved h index
  | rejected index begun =>
      by_cases hIndex : index < loop.activations.length
      · obtain rfl : begun = true := hPrompt hIndex
        exact sound_rejected h index
      · rw [step, List.getElem?_eq_none (Nat.le_of_not_lt hIndex)]
        exact h

theorem oneByOne_of_step (loop : CommandLoop) (input : CommandInput) (h : Sound userId loop)
    (hNext : (loop.step userId limit input).EachHandled userId) :
    loop.OneByOne userId limit input := by
  cases input with
  | arrive event => trivial
  | page => exact oneByOne_of_page h hNext
  | resolved index => trivial
  | rejected index begun => exact begun_of_rejected h hNext

end Steps

theorem sound_new : Sound userId new := by
  refine ⟨List.nil_prefix, List.Subset.refl _, rfl, List.nodup_nil, ?_, ?_, ?_, ?_⟩ <;>
    simp [new, commands]

/-- Each command is handled once and in order, and none is given up, exactly in the runs
where a page finds at most one command due and has it, and where no handler throws
before it has done something. -/
theorem always_eachHandled_iff (inputs : List CommandInput) :
    Always (step userId limit) (EachHandled userId) new inputs ↔
      Admissible (step userId limit) (OneByOne userId limit) new inputs :=
  always_iff_admissible_of_stronger (fun _ => Sound.eachHandled)
    (fun loop input (_ : True) => sound_step loop input)
    (fun loop input _ => oneByOne_of_step loop input)
    (fun _ _ => trivial) (sound_new userId)

/-- Two tasks that arrive between two pages: the second one is taken up first. -/
theorem later_task_first :
    let task (id : String) : TimelineEvent := ⟨id, "org.mxdx.session.task", "@client", .obj []⟩
    let inputs : List CommandInput := [.arrive (task "$1"), .arrive (task "$2"), .page, .resolved 0]
    let loop := run (step "@launcher" 10) new inputs
    loop.handled.map (·.eventId) = ["$2", "$1"] ∧
      ¬ Always (step "@launcher" 10) (EachHandled "@launcher") new inputs := by
  intro task inputs loop
  have hHandled : loop.handled.map (·.eventId) = ["$2", "$1"] := by decide
  have hCommands : (loop.commands "@launcher").map (·.eventId) = ["$1", "$2"] := by decide
  refine ⟨hHandled, fun hAlways => ?_⟩
  have hOrder := hAlways.last.inOrder.map (·.eventId)
  rw [hHandled, hCommands] at hOrder
  revert hOrder
  decide

end CommandLoop

end Mxdx.Runtime
