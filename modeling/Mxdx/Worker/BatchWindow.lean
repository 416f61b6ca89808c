import Mxdx.Worker.BatchedSender
import Mathlib.Data.List.Basic

/-! The batch loop by the clock. The window is counted anew from every chunk that
is received, and sending takes no time; a rate limit is slept off before the next
chunk is received. -/
namespace Mxdx.Worker

open Automaton

namespace BatchLoop

variable {deflate : Bytes → Option Bytes} {config : BatchConfig} {loop : BatchLoop} {turn : Turn}

/-- A turn that sends nothing receives a chunk if there is one. -/
theorem step_receives {data : Bytes} {queue : List Bytes} (hRunning : loop.finished = false)
    (hQueue : loop.queue = data :: queue) (hQuiet : loop.sends turn = false) :
    loop.step deflate config turn =
      { loop.rest with buffer := loop.buffer ++ data, queue := queue } := by
  have hNoTimeout : (!loop.buffer.isEmpty && turn.timedOut) = false := by
    simpa [sends, hRunning, hQueue] using hQuiet
  have hReceive : loop.rest.receive turn.timedOut = some (data, queue) := by
    simp [rest, receive, hQueue, hNoTimeout]
  rw [step, if_neg (by rw [hRunning]; decide), hReceive]

/-- The loop ends when the channel is closed and nothing is left to send. -/
theorem step_closed (hRunning : loop.finished = false) (hQueue : loop.queue = [])
    (hBuffer : loop.buffer = []) :
    loop.step deflate config turn = { loop.rest with finished := true } := by
  have hReceive : loop.rest.receive turn.timedOut = none := by
    simp [rest, receive, hQueue]
  have hDrain : loop.rest.drainRemaining deflate config turn.outcome = loop.rest := by
    rw [drainRemaining, if_pos (by rw [rest, hBuffer]; rfl)]
  rw [step, if_neg (by rw [hRunning]; decide), hReceive]
  dsimp only
  rw [if_pos (by rw [hBuffer]; rfl), hDrain]

end BatchLoop

/-- The chunks given to a sender, each with the moment it is given, and the moment
the channel is closed. -/
structure Feed where
  chunks : List (Instant × Bytes)
  closes : Instant
  ordered : (chunks.map Prod.fst).Pairwise (· ≤ ·)
  stillOpen : ∀ time ∈ chunks.map Prod.fst, time ≤ closes

/-- A batch handed to the send function: when its chunks were received, and when
it was handed over. -/
structure Handover where
  received : List Instant
  time : Instant

/-- The batch loop with its clock. `times` are the moments of the chunks in its
queue, `received` those at which the chunks in its buffer were received. -/
structure TimedLoop where
  loop : BatchLoop
  times : List Instant
  now : Instant
  received : List Instant
  handovers : List Handover

/-- All chunks of the batch were received within the window from the first, and it
is handed over within the window from the first. -/
def Handover.Timely (window : Duration) (handover : Handover) : Prop :=
  ∀ first rest, handover.received = first :: rest →
    (∀ time ∈ handover.received, time ≤ first + window) ∧ handover.time ≤ first + window

namespace TimedLoop

/-- Nothing has come yet. -/
def new (feed : Feed) : TimedLoop :=
  ⟨.new (feed.chunks.map Prod.snd), feed.chunks.map Prod.fst, 0, [], []⟩

/-- The backoff is over. -/
def awake (timed : TimedLoop) : Instant := timed.now + timed.loop.backoff.getD 0

section Clock

variable (deflate : Bytes → Option Bytes) (config : BatchConfig) (closes : Instant)

/-- The window begins anew with every wait. -/
def deadline (timed : TimedLoop) : Instant := timed.awake + config.batchWindow

/-- Nothing comes before the window is over. -/
def timesOut (timed : TimedLoop) : Bool :=
  match timed.times with
  | time :: _ => timed.deadline config < time
  | [] => timed.deadline config < closes

/-- How the wait ends. -/
def turn (timed : TimedLoop) (outcome : Except String Unit) : Turn :=
  ⟨timed.timesOut config closes, outcome⟩

/-- When a turn hands over what it has: at the end of the window, or when it finds
the channel closed. -/
def handoverTime (timed : TimedLoop) : Instant :=
  if timed.timesOut config closes then timed.deadline config else max timed.awake closes

/-- One turn of the loop, which comes out as `loop`. -/
def advance (timed : TimedLoop) (sends : Bool) (loop : BatchLoop) : TimedLoop :=
  if sends then
    { timed with
      loop := loop
      now := timed.handoverTime config closes
      received := []
      handovers := timed.handovers ++ [⟨timed.received, timed.handoverTime config closes⟩] }
  else
    match timed.times, timed.loop.queue with
    | time :: times, data :: _ =>
        { timed with
          loop := loop
          times := times
          now := max timed.awake time
          received :=
            if data.isEmpty then timed.received else timed.received ++ [max timed.awake time] }
    | _, _ => { timed with loop := loop }

/-- The loop waits, and goes on with what has come. -/
def step (timed : TimedLoop) (outcome : Except String Unit) : TimedLoop :=
  if timed.loop.finished then timed
  else
    let turn := timed.turn config closes outcome
    timed.advance config closes (timed.loop.sends turn) (timed.loop.step deflate config turn)

theorem loop_advance (timed : TimedLoop) (sends : Bool) (loop : BatchLoop) :
    (timed.advance config closes sends loop).loop = loop := by
  unfold advance
  split
  · rfl
  · split <;> rfl

/-- The clock does not interfere: without it the turn is one of the batch loop. -/
theorem loop_step (timed : TimedLoop) (outcome : Except String Unit) :
    (timed.step deflate config closes outcome).loop =
      timed.loop.step deflate config (timed.turn config closes outcome) := by
  unfold step
  split
  next hFinished => rw [BatchLoop.step, if_pos hFinished]
  · exact loop_advance config closes timed _ _

/-- Where nothing is handed over, no batch is open or the next chunk comes in time. -/
theorem inTime_of_not_sends {timed : TimedLoop} {outcome : Except String Unit} {time : Instant}
    {times : List Instant} (hRunning : timed.loop.finished = false)
    (hTimes : timed.times = time :: times)
    (hSends : timed.loop.sends (timed.turn config closes outcome) = false) :
    timed.loop.buffer = [] ∨ time ≤ timed.deadline config := by
  by_contra hNot
  obtain ⟨hBuffer, hLate⟩ := not_or.mp hNot
  have hTimesOut : timed.timesOut config closes = true := by
    rw [timesOut, hTimes]
    exact decide_eq_true (Nat.not_le.mp hLate)
  simp [BatchLoop.sends, turn, hRunning, hBuffer, hTimesOut] at hSends

/-- Everything a turn can do: nothing, hand over the open batch, find the channel
closed with no batch open, or receive a chunk. -/
theorem step_cases {timed : TimedLoop} {outcome : Except String Unit}
    (hTidy : timed.loop.queue.length = timed.times.length) :
    (timed.loop.finished = true ∧ timed.step deflate config closes outcome = timed) ∨
    (timed.loop.finished = false ∧ timed.loop.buffer ≠ [] ∧
      (timed.timesOut config closes = true ∨ timed.times = []) ∧
      timed.step deflate config closes outcome =
        { timed with
          loop := timed.loop.rest.sendBatch deflate config outcome
          now := timed.handoverTime config closes
          received := []
          handovers := timed.handovers ++
            [⟨timed.received, timed.handoverTime config closes⟩] }) ∨
    (timed.loop.finished = false ∧ timed.loop.buffer = [] ∧ timed.times = [] ∧
      timed.step deflate config closes outcome =
        { timed with loop := { timed.loop.rest with finished := true } }) ∨
    ∃ time times data queue, timed.loop.finished = false ∧ timed.times = time :: times ∧
      timed.loop.queue = data :: queue ∧
      (timed.loop.buffer = [] ∨ time ≤ timed.deadline config) ∧
      timed.step deflate config closes outcome =
        { timed with
          loop := { timed.loop.rest with buffer := timed.loop.buffer ++ data, queue := queue }
          times := times
          now := max timed.awake time
          received :=
            if data.isEmpty then timed.received
            else timed.received ++ [max timed.awake time] } := by
  cases hFinished : timed.loop.finished with
  | true => exact .inl ⟨rfl, if_pos hFinished⟩
  | false =>
      right
      have hStep : timed.step deflate config closes outcome =
          timed.advance config closes (timed.loop.sends (timed.turn config closes outcome))
            (timed.loop.step deflate config (timed.turn config closes outcome)) := by
        rw [step, if_neg (by rw [hFinished]; decide)]
      rw [hStep]
      cases hSends : timed.loop.sends (timed.turn config closes outcome) with
      | true =>
          left
          obtain ⟨hBuffer, hLoop⟩ := BatchLoop.step_sends deflate config hSends
          refine ⟨rfl, hBuffer, ?_, by rw [hLoop]; rfl⟩
          simp only [BatchLoop.sends, Bool.and_eq_true, Bool.or_eq_true,
            List.isEmpty_iff] at hSends
          refine hSends.2.imp_right fun hQueue => ?_
          rw [hQueue] at hTidy
          exact List.eq_nil_of_length_eq_zero hTidy.symm
      | false =>
          right
          cases hTimes : timed.times with
          | nil =>
              left
              rw [hTimes] at hTidy
              have hQueue : timed.loop.queue = [] := List.eq_nil_of_length_eq_zero hTidy
              have hBuffer : timed.loop.buffer = [] := by
                simpa [BatchLoop.sends, hFinished, hQueue] using hSends
              refine ⟨rfl, hBuffer, rfl, ?_⟩
              rw [BatchLoop.step_closed hFinished hQueue hBuffer, advance, if_neg (by decide),
                hTimes]
          | cons time times =>
              right
              rw [hTimes] at hTidy
              obtain ⟨data, queue, hQueue⟩ := List.exists_cons_of_length_eq_add_one hTidy
              have hWaits := inTime_of_not_sends config closes hFinished hTimes hSends
              refine ⟨time, times, data, queue, rfl, rfl, hQueue, hWaits, ?_⟩
              rw [BatchLoop.step_receives hFinished hQueue hSends, advance, if_neg (by decide)]
              simp only [hTimes, hQueue]

end Clock

/-- The loop after some turns; `answers` are what the send function returns. -/
def after (deflate : Bytes → Option Bytes) (config : BatchConfig) (feed : Feed)
    (answers : Nat → Except String Unit) (turns : Nat) : TimedLoop :=
  run (step deflate config feed.closes) (new feed) ((List.range turns).map answers)

/-- Every chunk that comes while a batch is open comes no later than the first
chunk of the batch was received, or the channel is closed within the window from
that moment. -/
def Punctual (config : BatchConfig) (closes : Instant) (timed : TimedLoop) : Prop :=
  ∀ first received, timed.received = first :: received →
    ∀ time times, timed.times = time :: times → time ≤ timed.deadline config →
      time ≤ first ∨ closes ≤ first + config.batchWindow

/-- What the fields of a loop have to do with each other between two turns. -/
structure Tidy (closes : Instant) (timed : TimedLoop) : Prop where
  aligned : timed.loop.queue.length = timed.times.length
  open_iff : timed.received = [] ↔ timed.loop.buffer = []
  rested : timed.loop.buffer ≠ [] → timed.loop.backoff = none
  drained : timed.loop.finished = true → timed.loop.buffer = []
  past : ∀ time ∈ timed.received, time ≤ timed.now
  before : ∀ time ∈ timed.times, time ≤ closes

/-- The open batch can still be handed over in time. -/
def OnSchedule (window : Duration) (closes : Instant) (timed : TimedLoop) : Prop :=
  ∀ first received, timed.received = first :: received →
    timed.now = first ∨ (closes ≤ first + window ∧ timed.now ≤ first + window)

/-- The open batch cannot be handed over in time any more. -/
def Late (window : Duration) (closes : Instant) (timed : TimedLoop) : Prop :=
  ∃ first received, timed.received = first :: received ∧ first < timed.now ∧
    first + window < closes

variable {deflate : Bytes → Option Bytes} {config : BatchConfig} {closes : Instant}
  {timed : TimedLoop} {outcome : Except String Unit} {first : Instant} {received : List Instant}

theorem now_le_awake (timed : TimedLoop) : timed.now ≤ timed.awake := Nat.le_add_right _ _

theorem tidy_new (feed : Feed) : (new feed).Tidy feed.closes where
  aligned := by simp [new, BatchLoop.new]
  open_iff := iff_of_true rfl rfl
  rested := fun h => absurd rfl h
  drained := nofun
  past := nofun
  before := feed.stillOpen

theorem Tidy.step (h : timed.Tidy closes) :
    (timed.step deflate config closes outcome).Tidy closes := by
  rcases step_cases deflate config closes h.aligned with ⟨-, hStep⟩ | ⟨hRunning, -, -, hStep⟩ |
    ⟨-, hBuffer, hTimes, hStep⟩ | ⟨time, times, data, queue, hRunning, hTimes, hQueue, -, hStep⟩
  · rw [hStep]
    exact h
  · rw [hStep]
    exact {
      aligned := h.aligned
      open_iff := iff_of_true rfl rfl
      rested := fun hOpen => absurd rfl hOpen
      drained := fun _ => rfl
      past := nofun
      before := h.before }
  · rw [hStep]
    exact {
      aligned := h.aligned
      open_iff := h.open_iff
      rested := fun _ => rfl
      drained := fun _ => hBuffer
      past := h.past
      before := h.before }
  · have hAligned := h.aligned
    rw [hTimes, hQueue] at hAligned
    have hLater : ∀ earlier ∈ timed.received, earlier ≤ max timed.awake time :=
      fun earlier hEarlier => Nat.le_trans (h.past earlier hEarlier)
        (Nat.le_trans timed.now_le_awake (Nat.le_max_left _ _))
    rw [hStep]
    refine {
      aligned := Nat.succ.inj hAligned
      open_iff := ?_
      rested := fun _ => rfl
      drained := fun hFinished => ?_
      past := ?_
      before := fun later hLater => h.before later (by rw [hTimes]; exact .tail _ hLater) }
    · cases data with
      | nil => simpa using h.open_iff
      | cons byte bytes => simp
    · have hStill : timed.loop.finished = true := hFinished
      rw [hRunning] at hStill
      cases hStill
    · intro earlier hEarlier
      dsimp only at hEarlier
      split at hEarlier
      · exact hLater earlier hEarlier
      · rcases List.mem_append.mp hEarlier with hOld | hNew
        · exact hLater earlier hOld
        · exact Nat.le_of_eq (List.mem_singleton.mp hNew)

/-- A loop with an open batch is awake. -/
theorem Tidy.awake_eq (h : timed.Tidy closes) (hOpen : timed.received = first :: received) :
    timed.awake = timed.now ∧ timed.loop.buffer ≠ [] := by
  have hBuffer : timed.loop.buffer ≠ [] := fun hEmpty => by
    rw [h.open_iff.mpr hEmpty] at hOpen
    cases hOpen
  rw [awake, h.rested hBuffer]
  exact ⟨rfl, hBuffer⟩

theorem Tidy.now_le_handoverTime (h : timed.Tidy closes)
    (hOpen : timed.received = first :: received) :
    timed.now ≤ timed.handoverTime config closes := by
  rw [handoverTime, deadline, (h.awake_eq hOpen).1]
  split
  · exact Nat.le_add_right _ _
  · exact Nat.le_max_left _ _

/-- The first chunk of a batch stays the first. -/
theorem received_cons (hOpen : timed.received = first :: received) (data : Bytes)
    (time : Instant) : ∃ later,
      (if data.isEmpty then timed.received else timed.received ++ [time]) = first :: later := by
  rw [hOpen]
  split
  · exact ⟨received, rfl⟩
  · exact ⟨received ++ [time], rfl⟩

/-- A batch on schedule is handed over in time. -/
theorem OnSchedule.timely (h : timed.OnSchedule config.batchWindow closes)
    (hTidy : timed.Tidy closes) (hOver : timed.timesOut config closes = true ∨ timed.times = []) :
    Handover.Timely config.batchWindow
      ⟨timed.received, timed.handoverTime config closes⟩ := by
  intro first received hOpen
  replace hOpen : timed.received = first :: received := hOpen
  have hAwake := (hTidy.awake_eq hOpen).1
  have hTime : timed.handoverTime config closes ≤ first + config.batchWindow := by
    rw [handoverTime, deadline, hAwake]
    split
    next hTimesOut =>
      rcases h first received hOpen with hFirst | ⟨hCloses, -⟩
      · exact Nat.le_of_eq (by rw [hFirst])
      · have hFuture : timed.now + config.batchWindow < closes := by
          unfold timesOut at hTimesOut
          rw [deadline, hAwake] at hTimesOut
          split at hTimesOut
          next time times hTimes =>
            have hBefore := hTidy.before time (by rw [hTimes]; exact List.mem_cons_self)
            exact Nat.lt_of_lt_of_le (of_decide_eq_true hTimesOut) hBefore
          · exact of_decide_eq_true hTimesOut
        have hMem : first ∈ timed.received := hOpen ▸ List.mem_cons_self
        have hLate := Nat.add_le_add_right (hTidy.past first hMem) config.batchWindow
        exact absurd (Nat.lt_of_lt_of_le hFuture hCloses) (Nat.not_lt.mpr hLate)
    next hInTime =>
      have hTimes : timed.times = [] := hOver.resolve_left hInTime
      have hCloses : closes ≤ timed.now + config.batchWindow := by
        unfold timesOut at hInTime
        rw [hTimes, deadline, hAwake] at hInTime
        exact Nat.not_lt.mp fun hLate => hInTime (decide_eq_true hLate)
      rcases h first received hOpen with hFirst | ⟨hClose, hNow⟩
      · rw [hFirst] at hCloses ⊢
        exact Nat.max_le.mpr ⟨Nat.le_add_right _ _, hCloses⟩
      · exact Nat.max_le.mpr ⟨hNow, hClose⟩
  refine ⟨fun time hMem => ?_, hTime⟩
  exact Nat.le_trans (Nat.le_trans (hTidy.past time hMem)
    (hTidy.now_le_handoverTime hOpen)) hTime

/-- A punctual chunk leaves the open batch on schedule. -/
theorem OnSchedule.receive {window : Duration} {time : Instant}
    (h : timed.OnSchedule window closes) (hOpen : timed.received = first :: received)
    (hBefore : time ≤ closes) (hCame : time ≤ first ∨ closes ≤ first + window) :
    max timed.now time = first ∨
      (closes ≤ first + window ∧ max timed.now time ≤ first + window) := by
  have hNow : timed.now ≤ first + window := by
    rcases h first received hOpen with hFirst | ⟨-, hNow⟩
    · rw [hFirst]
      exact Nat.le_add_right _ _
    · exact hNow
  rcases hCame with hEarly | hCloses
  · rcases h first received hOpen with hFirst | ⟨hCloses, -⟩
    · exact .inl (by rw [hFirst]; exact Nat.max_eq_left hEarly)
    · exact .inr ⟨hCloses, Nat.max_le.mpr ⟨hNow, Nat.le_trans hEarly (Nat.le_add_right _ _)⟩⟩
  · exact .inr ⟨hCloses, Nat.max_le.mpr ⟨hNow, Nat.le_trans hBefore hCloses⟩⟩

/-- One turn of a loop on schedule. -/
theorem OnSchedule.step (h : timed.OnSchedule config.batchWindow closes)
    (hTidy : timed.Tidy closes)
    (hTimely : ∀ handover ∈ timed.handovers, handover.Timely config.batchWindow)
    (hPunctual : timed.Punctual config closes) :
    (timed.step deflate config closes outcome).OnSchedule config.batchWindow closes ∧
      ∀ handover ∈ (timed.step deflate config closes outcome).handovers,
        handover.Timely config.batchWindow := by
  rcases step_cases deflate config closes hTidy.aligned with ⟨-, hStep⟩ |
    ⟨-, -, hOver, hStep⟩ | ⟨-, -, -, hStep⟩ |
    ⟨time, times, data, queue, -, hTimes, -, hWaits, hStep⟩
  · rw [hStep]
    exact ⟨h, hTimely⟩
  · rw [hStep]
    refine ⟨nofun, fun handover hMem => ?_⟩
    rcases List.mem_append.mp hMem with hOld | hNew
    · exact hTimely handover hOld
    · rw [List.mem_singleton.mp hNew]
      exact h.timely hTidy hOver
  · rw [hStep]
    exact ⟨h, hTimely⟩
  · rw [hStep]
    refine ⟨fun first received hOpen => ?_, hTimely⟩
    dsimp only at hOpen ⊢
    cases hReceived : timed.received with
    | nil =>
        rw [hReceived] at hOpen
        split at hOpen
        · cases hOpen
        · exact .inl (List.cons.inj hOpen).1
    | cons old rest =>
        obtain ⟨later, hLater⟩ := received_cons hReceived data (max timed.awake time)
        obtain rfl : old = first := (List.cons.inj (hLater.symm.trans hOpen)).1
        obtain ⟨hAwake, hBuffer⟩ := hTidy.awake_eq hReceived
        have hBefore := hTidy.before time (by rw [hTimes]; exact List.mem_cons_self)
        have hCame := hPunctual old rest hReceived time times hTimes (hWaits.resolve_left hBuffer)
        rw [hAwake]
        exact h.receive hReceived hBefore hCame

/-- A late batch is handed over late, however long that takes. -/
theorem Late.step (deflate : Bytes → Option Bytes) (outcome : Except String Unit)
    (h : timed.Late config.batchWindow closes)
    (hTidy : timed.Tidy closes) :
    (∃ handover ∈ (timed.step deflate config closes outcome).handovers,
      ¬ handover.Timely config.batchWindow) ∨
    (timed.step deflate config closes outcome).Late config.batchWindow closes ∧
      (timed.step deflate config closes outcome).times.length < timed.times.length := by
  obtain ⟨first, received, hOpen, hNow, hCloses⟩ := h
  obtain ⟨hAwake, hBuffer⟩ := hTidy.awake_eq hOpen
  rcases step_cases deflate config closes hTidy.aligned with ⟨hFinished, -⟩ |
    ⟨-, -, -, hStep⟩ | ⟨-, hEmpty, -, -⟩ | ⟨time, times, data, queue, -, hTimes, -, -, hStep⟩
  · exact absurd (hTidy.drained hFinished) hBuffer
  · left
    rw [hStep]
    refine ⟨_, List.mem_append_right _ (List.mem_singleton_self _), fun hTimely => ?_⟩
    have hTime := (hTimely first received hOpen).2
    simp only [handoverTime, deadline, hAwake] at hTime
    split at hTime
    · exact absurd (Nat.le_of_add_le_add_right hTime) (Nat.not_le.mpr hNow)
    · exact absurd (Nat.max_le.mp hTime).2 (Nat.not_le.mpr hCloses)
  · exact absurd hEmpty hBuffer
  · right
    rw [hStep, hTimes]
    obtain ⟨later, hLater⟩ := received_cons hOpen data (max timed.awake time)
    refine ⟨⟨first, later, hLater, ?_, hCloses⟩, Nat.lt_succ_self _⟩
    exact Nat.lt_of_lt_of_le (hAwake ▸ hNow) (Nat.le_max_left _ _)

/-- A chunk that is not punctual makes its batch late. -/
theorem late_of_not_punctual (deflate : Bytes → Option Bytes) (outcome : Except String Unit)
    (hTidy : timed.Tidy closes) (h : ¬ timed.Punctual config closes) :
    (timed.step deflate config closes outcome).Late config.batchWindow closes := by
  simp only [Punctual, not_forall, not_or, Nat.not_le] at h
  obtain ⟨first, received, hOpen, time, times, hTimes, hWindow, hTime, hCloses⟩ := h
  have hBuffer := (hTidy.awake_eq hOpen).2
  rcases step_cases deflate config closes hTidy.aligned with ⟨hFinished, -⟩ |
    ⟨-, -, hOver, -⟩ | ⟨-, hEmpty, -, -⟩ | ⟨next, rest, data, queue, -, hNext, -, -, hStep⟩
  · exact absurd (hTidy.drained hFinished) hBuffer
  · rcases hOver with hTimesOut | hNone
    · rw [timesOut, hTimes] at hTimesOut
      exact absurd hWindow (Nat.not_le.mpr (of_decide_eq_true hTimesOut))
    · rw [hNone] at hTimes
      cases hTimes
  · exact absurd hEmpty hBuffer
  · obtain ⟨rfl, rfl⟩ := List.cons.inj (hTimes.symm.trans hNext)
    rw [hStep]
    obtain ⟨later, hLater⟩ := received_cons hOpen data (max timed.awake time)
    exact ⟨first, later, hLater, Nat.lt_of_lt_of_le hTime (Nat.le_max_right _ _), hCloses⟩

section Runs

variable {feed : Feed} {answers : Nat → Except String Unit}

theorem after_succ (turns : Nat) :
    after deflate config feed answers (turns + 1) =
      (after deflate config feed answers turns).step deflate config feed.closes
        (answers turns) := by
  rw [after, List.range_succ, List.map_append, List.map_singleton, run_concat]
  rfl

theorem tidy_after (turns : Nat) : (after deflate config feed answers turns).Tidy feed.closes := by
  induction turns with
  | zero => exact tidy_new feed
  | succ turns ih =>
      rw [after_succ]
      exact ih.step

theorem exists_late_handover {count : Nat} {turns : Nat}
    (hCount : (after deflate config feed answers turns).times.length = count)
    (hLate : (after deflate config feed answers turns).Late config.batchWindow feed.closes) :
    ∃ later, ∃ handover ∈ (after deflate config feed answers later).handovers,
      ¬ handover.Timely config.batchWindow := by
  induction count using Nat.strongRecOn generalizing turns with
  | ind count ih =>
      have hStep := hLate.step deflate (answers turns) (tidy_after turns)
      rw [← after_succ] at hStep
      rcases hStep with hHandover | ⟨hStill, hFewer⟩
      · exact ⟨turns + 1, hHandover⟩
      · exact ih _ (hCount ▸ hFewer) rfl hStill

/-- Every batch of a run is handed over within the window from its first chunk,
exactly if every chunk that comes while a batch is open is punctual. -/
theorem timely_iff_punctual (deflate : Bytes → Option Bytes) (config : BatchConfig) (feed : Feed)
    (answers : Nat → Except String Unit) :
    (∀ turns, ∀ handover ∈ (after deflate config feed answers turns).handovers,
      handover.Timely config.batchWindow) ↔
    ∀ turns, (after deflate config feed answers turns).Punctual config feed.closes := by
  constructor
  · intro h turns
    by_contra hNot
    have hLate := late_of_not_punctual deflate (answers turns) (tidy_after turns) hNot
    rw [← after_succ] at hLate
    obtain ⟨later, handover, hMem, hUntimely⟩ := exists_late_handover rfl hLate
    exact hUntimely (h later handover hMem)
  · intro h turns
    have hKept : (after deflate config feed answers turns).OnSchedule config.batchWindow
          feed.closes ∧
        ∀ handover ∈ (after deflate config feed answers turns).handovers,
          handover.Timely config.batchWindow := by
      induction turns with
      | zero => exact ⟨nofun, nofun⟩
      | succ turns ih =>
          rw [after_succ]
          exact ih.1.step (tidy_after turns) ih.2 (h turns)
    exact hKept.2

/-- Two chunks 150 ms apart on a channel that stays open for ten seconds. -/
def twoChunks : Feed where
  chunks := [(0, [1]), (Duration.fromMillis 150, [2])]
  closes := Duration.fromSecs 10
  ordered := by decide
  stillOpen := by decide

/-- With the default window of 200 ms they are handed over after 350 ms. -/
theorem not_timely_twoChunks :
    ¬ ∀ deflate config feed answers turns,
      ∀ handover ∈ (after deflate config feed answers turns).handovers,
        handover.Timely config.batchWindow := by
  intro h
  have hHandovers : (after some {} twoChunks (fun _ => .ok ()) 3).handovers =
      [⟨[0, Duration.fromMillis 150], Duration.fromMillis 350⟩] := rfl
  have hTimely := h some {} twoChunks (fun _ => .ok ()) 3
  rw [hHandovers] at hTimely
  have hLate := (hTimely _ List.mem_cons_self 0 _ rfl).2
  revert hLate
  decide

end Runs

end TimedLoop

end Mxdx.Worker
