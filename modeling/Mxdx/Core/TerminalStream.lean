import Mxdx.Core.SentEvents
import Mxdx.Core.TerminalSocket
import Mathlib.Data.List.Flatten
import Mathlib.Data.List.Perm.Subperm

/-! A `BatchedSender` and the `TerminalSocket` that receives its events. The
sender numbers a batch when it is cut and forgets all numbers but the last when
it coalesces; the socket takes every missing number for a lost event. It decodes
an event before it looks at the number, and skips one that inflates to more than
its limit. -/
namespace Mxdx.Core

namespace BatchedSender

section Numbers

theorem getLast?_seq_coalesce (queue : List Batch) :
    ((coalesce queue).map Batch.seq).getLast? = (queue.map Batch.seq).getLast? := by
  cases queue with
  | nil => rfl
  | cons first rest =>
      cases rest with
      | nil => rfl
      | cons second rest =>
          have hLast := List.getLast?_eq_some_getLast (List.cons_ne_nil second rest)
          rw [List.getLast?_map, List.getLast?_map, List.getLast?_cons_cons, hLast]
          rfl

theorem length_coalesce (queue : List Batch) :
    (coalesce queue).length + (queue.length - 1) = queue.length := by
  cases queue with
  | nil => rfl
  | cons first rest => cases rest <;> simp [coalesce, Nat.add_comm]

/-- The last number given out is in the ledger, and `gap` numbers are not. -/
structure Numbered (gap : Nat) (sender : BatchedSender) : Prop where
  last : sender.ledger.getLast?.elim 0 (· + 1) = sender.seq
  count : sender.ledger.length + gap = sender.seq

variable {gap : Nat} {sender : BatchedSender}

theorem Numbered.cut (h : sender.Numbered gap) : sender.cut.Numbered gap := by
  unfold BatchedSender.cut
  split
  · exact h
  · have hCount := h.count
    constructor
    · simp [ledger, ← List.append_assoc]
    · simp only [ledger, List.length_append, List.length_map, List.length_singleton] at hCount ⊢
      omega

/-- A turn of the loop loses the number of every batch in the queue but the last. -/
theorem Numbered.drainLoop (h : sender.Numbered gap) (hAlive : sender.destroyed = false) :
    sender.drainLoop.Numbered (gap + (sender.queue.length - 1)) := by
  obtain ⟨hQueue, hEq⟩ | ⟨batch, rest, hQueue, hEq⟩ := drainLoop_cases hAlive
  · have hNone : sender.queue.length - 1 = 0 := by simp [hQueue]
    rw [hEq, hNone]
    exact ⟨h.last, h.count⟩
  · have hLast := getLast?_seq_coalesce sender.queue
    have hLength := length_coalesce sender.queue
    have hCount := h.count
    rw [hQueue] at hLast hLength
    rw [hEq]
    constructor
    · rw [← h.last, ledger, ledger, List.getLast?_append, List.getLast?_append, hLast]
    · simp only [ledger, List.length_append, List.length_map] at hCount ⊢
      omega

/-- Only a running `#drain` leaves something in the queue. -/
def Idle (sender : BatchedSender) : Prop := sender.sending = false → sender.queue = []

theorem idle_drainLoop (hAlive : sender.destroyed = false) (hFlag : sender.sending = true) :
    sender.drainLoop.Idle := by
  obtain ⟨hQueue, hEq⟩ | ⟨batch, rest, hQueue, hEq⟩ := drainLoop_cases hAlive
  · rw [hEq]
    exact fun _ => hQueue
  · rw [hEq]
    intro hIdle
    change sender.sending = false at hIdle
    simp [hFlag] at hIdle

theorem length_queue_cut (sender : BatchedSender) :
    sender.cut.queue.length = sender.queue.length + if sender.buffer.isEmpty then 0 else 1 := by
  unfold BatchedSender.cut
  split <;> simp

/-- A batch that is cut while nothing runs is sent alone. -/
theorem Numbered.cut_drain (hOrderly : sender.Orderly) (hIdle : sender.Idle)
    (h : sender.Numbered gap) : sender.cut.drain.Numbered gap ∧ sender.cut.drain.Idle := by
  have hAlive : sender.cut.destroyed = false := by
    rw [cut_destroyed, hOrderly.alive]
  cases hFlag : sender.sending with
  | true =>
      have hSame : sender.cut.drain = sender.cut := by simp [BatchedSender.drain, hFlag]
      rw [hSame]
      exact ⟨h.cut, fun hNever => by simp [hFlag] at hNever⟩
  | false =>
      have hTurn : sender.cut.drain = { sender.cut with sending := true }.drainLoop := by
        simp only [BatchedSender.drain, cut_sending, hFlag, hAlive, Bool.or_self,
          Bool.false_eq_true, if_false]
      have hShort : sender.cut.queue.length ≤ 1 := by
        rw [length_queue_cut, hIdle hFlag]
        split <;> simp
      have hCut : Numbered gap { sender.cut with sending := true } := ⟨h.cut.last, h.cut.count⟩
      have hNumbered := hCut.drainLoop hAlive
      rw [hTurn]
      refine ⟨?_, idle_drainLoop hAlive rfl⟩
      rwa [Nat.sub_eq_zero_of_le hShort] at hNumbered

/-- How many numbers the step coalesces away: all but one of those that are
queued when the loop takes its next turn. -/
def lost (sender : BatchedSender) : SenderInput → Nat
  | .answered index (.ok ()) =>
      match sender.drains[index]? with
      | some (.sending _ _) => sender.queue.length - 2
      | _ => 0
  | .waited index =>
      match sender.drains[index]? with
      | some (.waiting _) => sender.queue.length + (if sender.buffer.isEmpty then 0 else 1) - 1
      | _ => 0
  | _ => 0

theorem Numbered.push (hOrderly : sender.Orderly) (hIdle : sender.Idle)
    (h : sender.Numbered gap) (chunk : Chunk) :
    (sender.push chunk).Numbered gap ∧ (sender.push chunk).Idle := by
  have hAccepted : Numbered gap (sender.accept chunk.encode) := ⟨h.last, h.count⟩
  have hAlive : ¬ sender.destroyed = true := by simp [hOrderly.alive]
  rw [BatchedSender.push, if_neg hAlive]
  split
  · have hBuffer : ¬ (sender.accept chunk.encode).buffer.isEmpty = true := by simp [accept]
    rw [flushBuffer, if_neg hBuffer]
    exact Numbered.cut_drain ((hOrderly.accept _).setTimer false) hIdle
      ⟨hAccepted.last, hAccepted.count⟩
  · exact ⟨⟨hAccepted.last, hAccepted.count⟩, hIdle⟩

theorem Numbered.flushBuffer (hOrderly : sender.Orderly) (hIdle : sender.Idle)
    (h : sender.Numbered gap) :
    sender.flushBuffer.Numbered gap ∧ sender.flushBuffer.Idle := by
  unfold BatchedSender.flushBuffer
  split
  · exact ⟨⟨h.last, h.count⟩, hIdle⟩
  · exact Numbered.cut_drain (hOrderly.setTimer false) hIdle ⟨h.last, h.count⟩

theorem Numbered.flush (hOrderly : sender.Orderly) (hIdle : sender.Idle)
    (h : sender.Numbered gap) : sender.flush.Numbered gap ∧ sender.flush.Idle := by
  have hTimer : Numbered gap { sender with flushTimer := false } := ⟨h.last, h.count⟩
  simp only [BatchedSender.flush]
  split
  · exact hTimer.cut_drain (hOrderly.setTimer false) hIdle
  next hNothing =>
    refine ⟨hTimer.cut, fun hFlag => ?_⟩
    rw [cut_sending] at hFlag
    change sender.sending = false at hFlag
    simpa [hFlag] using hNothing

/-- The queue behind a batch that was sent goes into one event. -/
theorem Numbered.acknowledged (hOrderly : sender.Orderly) (h : sender.Numbered gap) {index : Nat}
    {batch : Batch} {event : Event} (hGet : sender.drains[index]? = some (.sending batch event)) :
    ((sender.resume index).acknowledge batch event).drainLoop.Numbered
      (gap + sender.lost (.answered index (.ok ()))) ∧
    ((sender.resume index).acknowledge batch event).drainLoop.Idle := by
  obtain ⟨hResumed, hHolds⟩ := hOrderly.resume hGet
  have hAck := hResumed.acknowledge hHolds
  have hLedger := ledger_acknowledge hHolds
  have hNumbered : ((sender.resume index).acknowledge batch event).Numbered gap := by
    constructor
    · rw [hLedger]
      exact h.last
    · rw [hLedger]
      exact h.count
  have hLost : sender.lost (.answered index (.ok ())) =
      ((sender.resume index).acknowledge batch event).queue.length - 1 := by
    simp only [lost, hGet, acknowledge, resume, List.length_tail]
    omega
  rw [hLost]
  exact ⟨hNumbered.drainLoop hAck.alive, idle_drainLoop hAck.alive hAck.flag⟩

/-- What came in during a wait goes into one event with the refused batch. -/
theorem Numbered.waited (hOrderly : sender.Orderly) (h : sender.Numbered gap) {index ms : Nat}
    (hGet : sender.drains[index]? = some (.waiting ms)) :
    (sender.resume index).onWaited.Numbered (gap + sender.lost (.waited index)) ∧
    (sender.resume index).onWaited.Idle := by
  obtain ⟨hResumed, -⟩ := hOrderly.resume hGet
  have hTimer : Numbered gap { sender.resume index with flushTimer := false } :=
    ⟨h.last, h.count⟩
  have hAlive : { sender.resume index with flushTimer := false }.cut.destroyed = false := by
    simp [hResumed.alive]
  have hFlag : { sender.resume index with flushTimer := false }.cut.sending = true := by
    simp [hResumed.flag]
  have hNumbered := hTimer.cut.drainLoop hAlive
  rw [length_queue_cut] at hNumbered
  simp only [lost, hGet]
  exact ⟨hNumbered, idle_drainLoop hAlive hFlag⟩

theorem numbered_step (options : SenderOptions) (hOrderly : sender.Orderly) (hIdle : sender.Idle)
    (h : sender.Numbered gap) {input : SenderInput} (hInput : ordinary input = true) :
    (sender.step options input).Numbered (gap + sender.lost input) ∧
    (sender.step options input).Idle := by
  cases input with
  | push chunk => exact h.push hOrderly hIdle chunk
  | timer =>
      simp only [step]
      split
      · exact h.flushBuffer hOrderly hIdle
      · exact ⟨h, hIdle⟩
  | flush => exact h.flush hOrderly hIdle
  | setBatchMs ms => exact ⟨⟨h.last, h.count⟩, hIdle⟩
  | compressed index result =>
      simp only [step, lost]
      split
      · cases result with
        | error err => simp [ordinary, Except.isOk, Except.toBool] at hInput
        | ok encoded => exact ⟨⟨h.last, h.count⟩, hIdle⟩
      · exact ⟨h, hIdle⟩
  | answered index result =>
      simp only [step]
      split
      next batch event hGet =>
        cases result with
        | ok done => exact h.acknowledged hOrderly hGet
        | error err =>
            have hErr : rateLimited err = true := hInput
            simp only [onAnswered, hErr, if_true]
            exact ⟨⟨h.last, h.count⟩, hIdle⟩
      next hNone =>
        have hLost : sender.lost (.answered index result) = 0 := by
          cases result with
          | ok done => simp only [lost]
          | error err => rfl
        rw [hLost]
        exact ⟨h, hIdle⟩
  | waited index =>
      simp only [step]
      split
      next ms hGet => exact h.waited hOrderly hGet
      next hNone =>
        have hLost : sender.lost (.waited index) = 0 := by simp only [lost]
        rw [hLost]
        exact ⟨h, hIdle⟩
  | destroy => simp [ordinary] at hInput

@[simp] theorem lost_compressedBy (compress : Bytes → Encoded) (input : SenderInput) :
    sender.lost (compressedBy compress sender input) = sender.lost input := by
  cases input with
  | compressed index result =>
      simp only [compressedBy]
      split <;> rfl
  | push | timer | flush | setBatchMs | answered | waited | destroy => rfl

/-- The numbers lost along a run are never regained. -/
theorem numbered_run (compress : Bytes → Encoded) (options : SenderOptions)
    {inputs : List SenderInput} (hInputs : ∀ input ∈ inputs, ordinary input = true)
    (hOrderly : sender.Orderly) (hIdle : sender.Idle) (h : sender.Numbered gap) :
    ∃ later, (Automaton.run (stepWith compress options) sender inputs).Numbered later ∧
      gap ≤ later ∧ (later = gap ↔ Automaton.Admissible (stepWith compress options)
        (fun s input => s.lost input = 0) sender inputs) := by
  induction inputs generalizing sender gap with
  | nil => exact ⟨gap, h, Nat.le_refl _, iff_of_true rfl trivial⟩
  | cons input rest ih =>
      have hInput := hInputs input (by simp)
      obtain ⟨hNumbered, hStepIdle⟩ :=
        numbered_step options hOrderly hIdle h (ordinary_compressedBy hInput)
      obtain ⟨later, hLater, hLe, hIff⟩ := ih (fun i hi => hInputs i (by simp [hi]))
        (orderly_stepWith options hOrderly hInput) hStepIdle hNumbered
      rw [lost_compressedBy] at hLe hIff
      refine ⟨later, hLater, by omega, ?_⟩
      rw [Automaton.Admissible, ← hIff]
      omega

/-- A strictly increasing list of `n` numbers below `n` leaves none out. -/
theorem eq_range_of_length {numbers : List Nat} {n : Nat} (hIncreasing : numbers.Pairwise (· < ·))
    (hBounded : ∀ m ∈ numbers, m < n) (hLength : numbers.length = n) :
    numbers = List.range n := by
  have hSubset : numbers ⊆ List.range n := fun m hm => List.mem_range.mpr (hBounded m hm)
  have hNodup : numbers.Nodup := hIncreasing.imp Nat.ne_of_lt
  have hSubperm := hNodup.subperm hSubset
  have hSublist := List.sublist_of_subperm_of_pairwise hSubperm hIncreasing List.pairwise_lt_range
  exact hSublist.eq_of_length (by simp [hLength])

theorem Numbered.ledger_eq_range (hAccounted : sender.Accounted) (h : sender.Numbered 0) :
    sender.ledger = List.range sender.seq :=
  eq_range_of_length hAccounted.increasing hAccounted.bounded h.count

/-- With no number lost, the sent events carry the first numbers. -/
theorem Numbered.seq_sent_eq_range (hAccounted : sender.Accounted) (h : sender.Numbered 0) :
    sender.sent.map Sent.seq = List.range sender.sent.length := by
  have hLedger := h.ledger_eq_range hAccounted
  have hTake : sender.sent.map Sent.seq = sender.ledger.take sender.sent.length := by
    simp [ledger]
  have hLe : sender.sent.length ≤ sender.seq := by
    have hCount := h.count
    simp only [ledger, List.length_append, List.length_map] at hCount
    omega
  rw [hTake, hLedger, List.take_range, Nat.min_eq_left hLe]

/-- With nothing queued, the sent events carry the first numbers only if no
number was lost. -/
theorem Numbered.eq_zero_of_seq_sent (hQueue : sender.queue = []) (h : sender.Numbered gap)
    (hSent : sender.sent.map Sent.seq = List.range sender.sent.length) : gap = 0 := by
  have hLedger : sender.ledger = List.range sender.sent.length := by
    simp [ledger, hQueue, hSent]
  have hLast := h.last
  have hCount := h.count
  rw [hLedger] at hLast hCount
  rw [List.length_range] at hCount
  cases hLength : sender.sent.length with
  | zero =>
      simp [hLength] at hLast hCount
      omega
  | succ n =>
      simp [hLength, List.range_succ] at hLast hCount
      omega

end Numbers

end BatchedSender

namespace TerminalSocket

/-- The packets that arrive in a run. -/
def arrivals (inputs : List SocketInput) : List Packet :=
  inputs.filterMap fun
    | .data packet => some packet
    | _ => none

@[simp] theorem arrivals_data (packet : Packet) (rest : List SocketInput) :
    arrivals (.data packet :: rest) = packet :: arrivals rest := rfl

/-- The socket misses nothing. -/
structure Quiet (socket : TerminalSocket) : Prop where
  gapTimer : socket.gapTimer = false
  retransmitTimer : socket.retransmitTimer = false
  requests : socket.requests = []

variable {socket : TerminalSocket}

/-- The expected packet passes straight through. -/
theorem step_expected (hBuffer : socket.buffer = []) (hQuiet : socket.Quiet) {packet : Packet}
    (hSeq : packet.seq = socket.expectedSeq) :
    socket.step (.data packet) = { socket with
      expectedSeq := socket.expectedSeq + 1
      emitted := socket.emitted ++ [packet] } := by
  obtain ⟨expected, buffer, closed, gapTimer, retransmitTimer, emitted, requests⟩ := socket
  obtain ⟨hGap, hRetransmit, hRequests⟩ := hQuiet
  simp only at hBuffer hSeq hGap hRetransmit
  simp [step, enqueue, sort, hBuffer, hSeq, flush, headIsDue, clearGapTimers, emitDue, Reorder.due,
    Reorder.kept, watchGap, headIsAhead, hGap, hRetransmit]

/-- Consecutive packets are all emitted and no timer is ever started, however
the other wake-ups fall between them. -/
theorem consecutive_run (inputs : List SocketInput) (hBuffer : socket.buffer = [])
    (hQuiet : socket.Quiet)
    (hSeqs : (arrivals inputs).map Packet.seq =
      List.range' socket.expectedSeq (arrivals inputs).length) :
    Automaton.Always step Quiet socket inputs ∧
    (Automaton.run step socket inputs).emitted = socket.emitted ++ arrivals inputs := by
  induction inputs generalizing socket with
  | nil => exact ⟨hQuiet, by simp [arrivals]⟩
  | cons input rest ih =>
      cases input with
      | data packet =>
          simp only [arrivals_data, List.map_cons, List.length_cons, List.range'_succ,
            List.cons.injEq] at hSeqs
          have hStep := step_expected hBuffer hQuiet hSeqs.1
          have hNext : Quiet { socket with
              expectedSeq := socket.expectedSeq + 1
              emitted := socket.emitted ++ [packet] } :=
            ⟨hQuiet.gapTimer, hQuiet.retransmitTimer, hQuiet.requests⟩
          obtain ⟨hAlways, hEmitted⟩ := ih (by exact hBuffer) hNext hSeqs.2
          refine ⟨⟨hQuiet, by rwa [hStep]⟩, ?_⟩
          rw [Automaton.run_cons, hStep, hEmitted]
          simp
      | gapTimer =>
          have hStep : socket.step .gapTimer = socket := by simp [step, hQuiet.gapTimer]
          obtain ⟨hAlways, hEmitted⟩ := ih hBuffer hQuiet hSeqs
          exact ⟨⟨hQuiet, by rwa [hStep]⟩, by rwa [Automaton.run_cons, hStep]⟩
      | retransmitTimer =>
          have hStep : socket.step .retransmitTimer = socket := by
            simp [step, hQuiet.retransmitTimer]
          obtain ⟨hAlways, hEmitted⟩ := ih hBuffer hQuiet hSeqs
          exact ⟨⟨hQuiet, by rwa [hStep]⟩, by rwa [Automaton.run_cons, hStep]⟩
      | close =>
          have hStep : socket.step .close = { socket with closed := true } := by
            obtain ⟨expected, buffer, closed, gapTimer, retransmitTimer, emitted, requests⟩ :=
              socket
            obtain ⟨hGap, hRetransmit, hRequests⟩ := hQuiet
            simp only at hGap hRetransmit
            cases closed <;> simp [step, close, clearGapTimers, hGap, hRetransmit]
          have hClosed : Quiet { socket with closed := true } :=
            ⟨hQuiet.gapTimer, hQuiet.retransmitTimer, hQuiet.requests⟩
          obtain ⟨hAlways, hEmitted⟩ := ih (by exact hBuffer) hClosed hSeqs
          exact ⟨⟨hQuiet, by rwa [hStep]⟩, by rwa [Automaton.run_cons, hStep]⟩

end TerminalSocket

namespace BatchedSender

section Sizes

variable {compress : Bytes → Encoded} {sender next : BatchedSender}

/-- The bodies of the events that were sent and of the batches that are queued. -/
def bodies (sender : BatchedSender) : List Bytes :=
  sender.sent.map Sent.data ++ sender.queue.map Batch.data

/-- One of them is too large for the receiver. -/
def Oversized (sender : BatchedSender) : Prop :=
  ∃ body ∈ sender.bodies, maxDecompressedSize < body.length

/-- Bodies are only ever joined to larger ones. -/
def Grows (sender next : BatchedSender) : Prop :=
  ∀ body ∈ sender.bodies, ∃ larger ∈ next.bodies, body.length ≤ larger.length

theorem Grows.of_subset (h : sender.bodies ⊆ next.bodies) : sender.Grows next :=
  fun body hBody => ⟨body, h hBody, Nat.le_refl _⟩

theorem Grows.trans {last : BatchedSender} (h : sender.Grows next) (hNext : next.Grows last) :
    sender.Grows last := by
  intro body hBody
  obtain ⟨larger, hLarger, hLe⟩ := h body hBody
  obtain ⟨largest, hLargest, hLe'⟩ := hNext larger hLarger
  exact ⟨largest, hLargest, Nat.le_trans hLe hLe'⟩

theorem Oversized.grow (h : sender.Oversized) (hGrows : sender.Grows next) : next.Oversized := by
  obtain ⟨body, hBody, hLength⟩ := h
  obtain ⟨larger, hLarger, hLe⟩ := hGrows body hBody
  exact ⟨larger, hLarger, Nat.lt_of_lt_of_le hLength hLe⟩

theorem grows_cut (sender : BatchedSender) : sender.Grows sender.cut := by
  apply Grows.of_subset
  unfold cut
  split
  · exact List.Subset.refl _
  · simp [bodies, ← List.append_assoc]

theorem grows_drainLoop (hAlive : sender.destroyed = false) : sender.Grows sender.drainLoop := by
  by_cases hQueue : sender.queue = []
  · obtain ⟨-, hEq⟩ | ⟨batch, rest, hTaken, -⟩ := drainLoop_cases hAlive
    · rw [hEq]
      exact .of_subset (List.Subset.refl _)
    · rw [hQueue] at hTaken
      cases hTaken
  · obtain ⟨batch, hData, hEq⟩ := drainLoop_takes_queue hAlive hQueue
    intro body hBody
    rw [hEq]
    rcases List.mem_append.mp hBody with hSent | hQueued
    · exact ⟨body, List.mem_append_left _ hSent, Nat.le_refl _⟩
    · refine ⟨batch.data, List.mem_append_right _ (by simp), ?_⟩
      rw [hData, queuedBytes]
      exact (List.sublist_flatten_of_mem hQueued).length_le

theorem grows_drain (hAlive : sender.destroyed = false) : sender.Grows sender.drain := by
  unfold drain
  split
  · exact .of_subset (List.Subset.refl _)
  · have hTurn : { sender with sending := true }.destroyed = false := hAlive
    exact grows_drainLoop hTurn

theorem grows_cut_drain (hAlive : sender.destroyed = false) : sender.Grows sender.cut.drain :=
  (grows_cut sender).trans (grows_drain (by rw [cut_destroyed, hAlive]))

theorem grows_flushBuffer (hAlive : sender.destroyed = false) :
    sender.Grows sender.flushBuffer := by
  unfold flushBuffer
  split
  · exact .of_subset (List.Subset.refl _)
  · have hTimer : { sender with flushTimer := false }.destroyed = false := hAlive
    exact grows_cut_drain hTimer

theorem grows_acknowledge {batch : Batch} {event : Event}
    (hHolds : Holds sender.queue (.sending batch event)) :
    sender.Grows (sender.acknowledge batch event) := by
  obtain ⟨rest, hQueue⟩ := List.head?_eq_some_iff.mp hHolds.1
  apply Grows.of_subset
  simp [bodies, acknowledge, hQueue]

/-- As long as nothing is dropped, a body that is too large stays. -/
theorem grows_step (options : SenderOptions) (h : sender.Orderly) {input : SenderInput}
    (hInput : ordinary input = true) : sender.Grows (sender.step options input) := by
  have hStays : sender.Grows sender := .of_subset (List.Subset.refl _)
  cases input with
  | push chunk =>
      rw [step, push, if_neg (by simp [h.alive])]
      split
      · have hAccepted : sender.Grows (sender.accept chunk.encode) := hStays
        have hAlive : { sender.accept chunk.encode with flushTimer := false }.destroyed = false :=
          h.alive
        exact hAccepted.trans (grows_flushBuffer hAlive)
      · exact hStays
  | timer =>
      rw [step]
      split
      · exact grows_flushBuffer h.alive
      · exact hStays
  | flush =>
      simp only [step, flush]
      split
      · have hAlive : { sender with flushTimer := false }.destroyed = false := h.alive
        exact grows_cut_drain hAlive
      · exact grows_cut { sender with flushTimer := false }
  | setBatchMs ms => exact hStays
  | compressed index result =>
      cases result with
      | error err => simp [ordinary, Except.isOk, Except.toBool] at hInput
      | ok encoded =>
          simp only [step]
          split
          · exact hStays
          · exact hStays
  | answered index result =>
      simp only [step]
      split
      next batch event hGet =>
        obtain ⟨hResumed, hHolds⟩ := h.resume hGet
        cases result with
        | ok done =>
            have hAcknowledged : sender.Grows ((sender.resume index).acknowledge batch event) :=
              grows_acknowledge hHolds
            exact hAcknowledged.trans (grows_drainLoop hResumed.alive)
        | error err =>
            have hErr : rateLimited err = true := hInput
            simp only [onAnswered, hErr, if_true]
            exact hStays
      · exact hStays
  | waited index =>
      simp only [step]
      split
      next ms hGet =>
        have hAlive : { sender.resume index with flushTimer := false }.cut.destroyed = false :=
          (cut_destroyed _).trans h.alive
        have hCut : sender.Grows { sender.resume index with flushTimer := false }.cut :=
          grows_cut { sender.resume index with flushTimer := false }
        exact hCut.trans (grows_drainLoop hAlive)
      · exact hStays
  | destroy => simp [ordinary] at hInput

theorem fits_step (options : SenderOptions) (sender : BatchedSender) (input : SenderInput)
    (h : ∀ event ∈ outgoing compress sender, event.1.length ≤ maxDecompressedSize)
    (hFits : sender.Fits input) :
    ∀ event ∈ outgoing compress (sender.stepWith compress options input),
      event.1.length ≤ maxDecompressedSize := by
  intro event hEvent
  rcases (took_step compress options sender input).only event hEvent with hOld | rfl
  · exact h event hOld
  · exact hFits

/-- Where the loop has taken too much, that is still there at the end. -/
theorem oversized_of_not_admissible {options : SenderOptions} {inputs : List SenderInput}
    (hInputs : ∀ input ∈ inputs, ordinary input = true) (hOrderly : sender.Orderly)
    (h : sender.Oversized ∨ ¬ Automaton.Admissible (stepWith compress options) Fits sender inputs) :
    (Automaton.run (stepWith compress options) sender inputs).Oversized := by
  induction inputs generalizing sender with
  | nil => exact h.resolve_right fun hNot => hNot trivial
  | cons input rest ih =>
      have hInput := hInputs input (by simp)
      apply ih (fun i hi => hInputs i (by simp [hi])) (orderly_stepWith options hOrderly hInput)
      rcases h with hOver | hNot
      · exact .inl (hOver.grow (grows_step options hOrderly (ordinary_compressedBy hInput)))
      · by_cases hFits : sender.Fits input
        · exact .inr fun hRest => hNot ⟨hFits, hRest⟩
        · left
          have hLarge : maxDecompressedSize < (sender.backlog input).length :=
            Nat.lt_of_not_le hFits
          have hSome : sender.backlog input ≠ [] := by
            intro hNil
            rw [hNil] at hLarge
            cases hLarge
          obtain ⟨-, batch, hQueued, hData⟩ := (took_step compress options sender input).all hSome
          refine ⟨batch.data, List.mem_append_right _ (List.mem_map_of_mem hQueued), ?_⟩
          rwa [hData]

end Sizes

end BatchedSender

namespace TerminalSocket

theorem flush_held (socket : TerminalSocket) :
    socket.flush.emitted ++ socket.flush.buffer = socket.emitted ++ socket.buffer := by
  obtain ⟨-, hBuffer, hEmitted⟩ := flush_emitDue socket
  rw [hBuffer, hEmitted, emitDue, List.append_assoc, Reorder.due_append_kept]

/-- A step emits and holds no packet that has not arrived. -/
theorem step_held (socket : TerminalSocket) (input : SocketInput) :
    ((socket.step input).emitted ++ (socket.step input).buffer).Subperm
      (socket.emitted ++ socket.buffer ++ arrivals [input]) := by
  have hStays : (socket.emitted ++ socket.buffer).Subperm
      (socket.emitted ++ socket.buffer ++ arrivals [input]) :=
    (List.sublist_append_left _ _).subperm
  cases input with
  | data packet =>
      rw [step, flush_held, enqueue]
      split
      · exact hStays
      · rw [List.append_assoc]
        exact ((sort_perm _).append_left _).subperm
  | gapTimer =>
      simp only [step]
      split
      · simp only [onGapTimer]
        split
        · split
          · rw [flush_held]
            exact hStays
          · exact hStays
        · exact hStays
      · exact hStays
  | retransmitTimer =>
      simp only [step]
      split
      · rcases onRetransmitTimer_cases socket with ⟨-, hEq⟩ | ⟨first, rest, -, -, hEq⟩
        · rw [hEq]
          exact hStays
        · rw [hEq, flush_held]
          exact hStays
      · exact hStays
  | close =>
      simp only [step, close]
      split
      · exact hStays
      · exact hStays

theorem run_held (socket : TerminalSocket) (inputs : List SocketInput) :
    ((Automaton.run step socket inputs).emitted ++
      (Automaton.run step socket inputs).buffer).Subperm
        (socket.emitted ++ socket.buffer ++ arrivals inputs) := by
  induction inputs generalizing socket with
  | nil =>
      rw [Automaton.run_nil, arrivals, List.filterMap_nil, List.append_nil]
  | cons input rest ih =>
      have hArrivals : arrivals (input :: rest) = arrivals [input] ++ arrivals rest :=
        List.filterMap_append (l := [input])
      rw [Automaton.run_cons, hArrivals, ← List.append_assoc]
      exact (ih (socket.step input)).trans
        ((List.subperm_append_right _).mpr (step_held socket input))

/-- So it emits no more bytes than have arrived. -/
theorem length_emitted_le (inputs : List SocketInput) :
    ((Automaton.run step new inputs).emitted.map Packet.data).flatten.length ≤
      ((arrivals inputs).map Packet.data).flatten.length := by
  have hHeld := ((List.sublist_append_left _ _).subperm).trans (run_held new inputs)
  obtain ⟨kept, hPerm, hSublist⟩ := hHeld
  rw [← ((hPerm.map Packet.data).flatten).length_eq]
  exact (hSublist.map Packet.data).flatten.length_le

end TerminalSocket

section Agreement

open BatchedSender TerminalSocket

variable (zlib : Zlib)

/-- A sent event as the socket decodes it, unless the socket skips it. -/
def Sent.packet? (sent : Sent) : Option Packet :=
  (decodeData zlib sent.event.encoded).map fun data => ⟨sent.seq, data⟩

/-- The events sent so far, each delivered once and in order to a new socket,
are numbered from 0 on, leave the socket quiet and make it emit all that was
pushed except what the sender still holds. -/
structure Agreed (sender : BatchedSender) : Prop where
  consecutive : sender.sent.map Sent.seq = List.range sender.sent.length
  received : ∀ inputs, arrivals inputs = sender.sent.filterMap (Sent.packet? zlib) →
    Automaton.Always TerminalSocket.step Quiet .new inputs ∧
    ((Automaton.run TerminalSocket.step .new inputs).emitted.map Packet.data).flatten ++
      sender.pendingBytes = sender.pushed.flatten

/-- The step loses no number, and what it takes is not too large for the socket. -/
def Separate (sender : BatchedSender) (input : SenderInput) : Prop :=
  sender.lost input = 0 ∧ sender.Fits input

section Decoding

variable {zlib} {options : SenderOptions} {inputs : List SenderInput}

/-- The socket skips the events that are too large and gets the bytes of the others. -/
theorem packet?_run (h : zlib.Inverts) {sent : Sent}
    (hSent : sent ∈ (Automaton.run (stepWith (defaultCompress zlib) options) (new options)
      inputs).sent) :
    sent.packet? zlib =
      if sent.data.length ≤ maxDecompressedSize then some ⟨sent.seq, sent.data⟩ else none := by
  have hMade : sent.event.encoded = defaultCompress zlib sent.data :=
    outgoing_run (defaultCompress zlib) options inputs
      (List.mem_append_left _ (List.mem_map_of_mem hSent))
  rw [Sent.packet?, hMade, decodeData_defaultCompress h]
  split <;> rfl

/-- The bodies that get through are those that are not too large. -/
theorem data_packets (h : zlib.Inverts) {sents : List Sent}
    (hSents : sents ⊆ (Automaton.run (stepWith (defaultCompress zlib) options) (new options)
      inputs).sent) :
    (sents.filterMap (Sent.packet? zlib)).map Packet.data =
      (sents.map Sent.data).filter (·.length ≤ maxDecompressedSize) := by
  induction sents with
  | nil => rfl
  | cons sent rest ih =>
      have hPacket := packet?_run h (hSents List.mem_cons_self)
      have hRest := ih fun other hOther => hSents (List.mem_cons_of_mem _ hOther)
      by_cases hSmall : sent.data.length ≤ maxDecompressedSize
      · rw [if_pos hSmall] at hPacket
        rw [List.filterMap_cons_some hPacket, List.map_cons, List.map_cons, hRest,
          List.filter_cons_of_pos (by simpa using hSmall)]
      · rw [if_neg hSmall] at hPacket
        rw [List.filterMap_cons_none hPacket, List.map_cons, hRest,
          List.filter_cons_of_neg (by simpa using hSmall)]

/-- As long as the events fit, each of them is a packet. -/
theorem packets_of_fits (h : zlib.Inverts)
    (hFits : Automaton.Admissible (stepWith (defaultCompress zlib) options) Fits (new options)
      inputs) :
    let sender := Automaton.run (stepWith (defaultCompress zlib) options) (new options) inputs
    sender.sent.filterMap (Sent.packet? zlib) =
      sender.sent.map fun sent => ⟨sent.seq, sent.data⟩ := by
  intro sender
  have hNone : ∀ event ∈ outgoing (defaultCompress zlib) (BatchedSender.new options),
      event.1.length ≤ maxDecompressedSize := by
    simp [outgoing, BatchedSender.new]
  have hSmall := (hFits.always (fits_step options) hNone).last
  rw [← List.filterMap_eq_map]
  apply List.filterMap_congr
  intro sent hSent
  have hEvent : (sent.data, sent.event.encoded) ∈ outgoing (defaultCompress zlib) sender :=
    List.mem_append_left _ (List.mem_map_of_mem hSent)
  rw [packet?_run h hSent, if_pos (hSmall _ hEvent)]
  rfl

end Decoding

variable {zlib}

theorem agreed_of_consecutive {sender : BatchedSender} (hAccounted : sender.Accounted)
    (hPackets : sender.sent.filterMap (Sent.packet? zlib) =
      sender.sent.map fun sent => ⟨sent.seq, sent.data⟩)
    (hSeqs : sender.sent.map Sent.seq = List.range sender.sent.length) : Agreed zlib sender := by
  refine ⟨hSeqs, fun inputs hArrivals => ?_⟩
  rw [hPackets] at hArrivals
  have hPacketSeqs : (arrivals inputs).map Packet.seq =
      List.range' TerminalSocket.new.expectedSeq (arrivals inputs).length := by
    show _ = List.range' 0 _
    rw [hArrivals, List.map_map, List.length_map, ← List.range_eq_range', ← hSeqs]
    rfl
  obtain ⟨hQuiet, hEmitted⟩ := consecutive_run inputs rfl ⟨rfl, rfl, rfl⟩ hPacketSeqs
  have hData : (arrivals inputs).map Packet.data = sender.sent.map Sent.data := by
    rw [hArrivals, List.map_map]
    rfl
  refine ⟨hQuiet, ?_⟩
  rw [hEmitted, TerminalSocket.new, List.nil_append, hData]
  exact hAccounted.stream

/-- Where no bytes are missing, only empty bodies were filtered out. -/
theorem eq_nil_of_filter {bodies : List Bytes} {keeps : Bytes → Bool}
    (h : bodies.flatten.length ≤ (bodies.filter keeps).flatten.length) :
    ∀ body ∈ bodies, keeps body = false → body = [] := by
  induction bodies with
  | nil => simp
  | cons first rest ih =>
      have hRest : (rest.filter keeps).flatten.length ≤ rest.flatten.length :=
        (List.filter_sublist.flatten).length_le
      cases hKeeps : keeps first with
      | true =>
          rw [List.filter_cons_of_pos hKeeps] at h
          simp only [List.flatten_cons, List.length_append] at h
          intro body hBody hDropped
          rcases List.mem_cons.mp hBody with rfl | hMem
          · rw [hKeeps] at hDropped
            cases hDropped
          · exact ih (by omega) body hMem hDropped
      | false =>
          rw [List.filter_cons_of_neg (by simp [hKeeps])] at h
          simp only [List.flatten_cons, List.length_append] at h
          intro body hBody hDropped
          rcases List.mem_cons.mp hBody with rfl | hMem
          · exact List.length_eq_zero_iff.mp (by omega)
          · exact ih (by omega) body hMem hDropped

/-- A socket that emits all that was sent has skipped nothing. -/
theorem Agreed.length_le (h : zlib.Inverts) {options : SenderOptions} {inputs : List SenderInput}
    (hInputs : ∀ input ∈ inputs, ordinary input = true)
    (hAgreed : Agreed zlib
      (Automaton.run (stepWith (defaultCompress zlib) options) (new options) inputs)) :
    ∀ sent ∈ (Automaton.run (stepWith (defaultCompress zlib) options) (new options) inputs).sent,
      sent.data.length ≤ maxDecompressedSize := by
  intro sent hSent
  obtain ⟨hOrderly, -⟩ := orderly_run (defaultCompress zlib) options hInputs
  have hBodies := data_packets h (List.Subset.refl
    (Automaton.run (stepWith (defaultCompress zlib) options) (new options) inputs).sent)
  generalize Automaton.run (stepWith (defaultCompress zlib) options) (new options) inputs = sender
    at *
  have hArrivals : arrivals ((sender.sent.filterMap (Sent.packet? zlib)).map .data) =
      sender.sent.filterMap (Sent.packet? zlib) := by
    rw [arrivals, List.filterMap_map]
    exact List.filterMap_some
  obtain ⟨-, hEmitted⟩ := hAgreed.received _ hArrivals
  have hAll := List.append_cancel_right (hEmitted.trans hOrderly.accounted.stream.symm)
  have hArrived := length_emitted_le ((sender.sent.filterMap (Sent.packet? zlib)).map .data)
  rw [hAll, hArrivals, hBodies, sentBytes] at hArrived
  by_contra hLarge
  have hNil := eq_nil_of_filter hArrived sent.data (List.mem_map_of_mem hSent)
    (by simpa using hLarge)
  rw [hNil] at hLarge
  exact hLarge (Nat.zero_le _)

/-- Sender and socket agree in every state of a run in which no turn of the loop coalesces or
takes more than the socket inflates; and where they agree on a sender with an empty queue,
none has. -/
theorem numbers_agree_iff (h : zlib.Inverts) (options : SenderOptions) (inputs : List SenderInput)
    (hInputs : ∀ input ∈ inputs, ordinary input = true) :
    (Automaton.Admissible (stepWith (defaultCompress zlib) options) Separate (new options) inputs →
      Automaton.Always (stepWith (defaultCompress zlib) options) (Agreed zlib) (new options)
        inputs) ∧
    ((Automaton.run (stepWith (defaultCompress zlib) options) (new options) inputs).queue = [] →
      (Agreed zlib
          (Automaton.run (stepWith (defaultCompress zlib) options) (new options) inputs) ↔
        Automaton.Admissible (stepWith (defaultCompress zlib) options) Separate (new options)
          inputs)) := by
  have hNew : (new options).Numbered 0 := ⟨rfl, rfl⟩
  have hIdle : (new options).Idle := fun _ => rfl
  have hAgreed : ∀ {seen : List SenderInput}, (∀ input ∈ seen, ordinary input = true) →
      Automaton.Admissible (stepWith (defaultCompress zlib) options) Separate (new options) seen →
      Agreed zlib
        (Automaton.run (stepWith (defaultCompress zlib) options) (new options) seen) := by
    intro seen hSeen hSeparate
    obtain ⟨gap, hNumbered, -, hIff⟩ :=
      numbered_run (defaultCompress zlib) options hSeen (orderly_new options) hIdle hNew
    have hAccounted := (orderly_run (defaultCompress zlib) options hSeen).1.accounted
    rw [hIff.mpr (hSeparate.mono fun _ _ hStep => hStep.1)] at hNumbered
    exact agreed_of_consecutive hAccounted
      (packets_of_fits h (hSeparate.mono fun _ _ hStep => hStep.2))
      (hNumbered.seq_sent_eq_range hAccounted)
  constructor
  · intro hSeparate
    rw [Automaton.always_iff_prefixes]
    rintro seen ⟨rest, rfl⟩
    exact hAgreed (fun input hi => hInputs input (by simp [hi])) hSeparate.left
  · intro hQueue
    constructor
    · intro hSame
      obtain ⟨gap, hNumbered, -, hIff⟩ :=
        numbered_run (defaultCompress zlib) options hInputs (orderly_new options) hIdle hNew
      have hLost := hIff.mp (hNumbered.eq_zero_of_seq_sent hQueue hSame.consecutive)
      refine hLost.and (Classical.byContradiction fun hNot => ?_)
      obtain ⟨body, hBody, hLarge⟩ :=
        oversized_of_not_admissible hInputs (orderly_new options) (.inr hNot)
      rw [bodies, hQueue, List.map_nil, List.append_nil] at hBody
      obtain ⟨sent, hSent, rfl⟩ := List.mem_map.mp hBody
      exact absurd (hSame.length_le h hInputs sent hSent) (Nat.not_le.mpr hLarge)
    · exact hAgreed hInputs

/-- Two batches sent one after the other. -/
theorem separate_batches_agree :
    let options : SenderOptions := ⟨"!room", "org.mxdx.terminal.data", none, 10⟩
    let inputs : List SenderInput :=
      [.push (.text "ls"), .compressed 0 (.ok ⟨"", ""⟩), .answered 0 (.ok ()),
       .push (.text "\n"), .compressed 0 (.ok ⟨"", ""⟩), .answered 0 (.ok ())]
    let sender := Automaton.run (stepWith (defaultCompress zeroZlib) options) (new options) inputs
    sender.sent.filterMap (Sent.packet? zeroZlib) = [⟨0, asBytes "ls"⟩, ⟨1, asBytes "\n"⟩] ∧
      Agreed zeroZlib sender := by
  intro options inputs sender
  have hSeparate : Automaton.Admissible (stepWith (defaultCompress zeroZlib) options) Separate
      (new options) inputs := by
    simp only [Automaton.Admissible, inputs, Separate, Fits]
    decide
  have hAgreed := (numbers_agree_iff inverts_zeroZlib options inputs (by decide)).1 hSeparate
  exact ⟨by decide, hAgreed.last⟩

/-- A batch is cut while the first one waits out a rate limit. Both are sent
under number 1, and the socket waits for number 0, asks for it and emits nothing. -/
theorem coalesced_batches_disagree :
    let options : SenderOptions := ⟨"!room", "org.mxdx.terminal.data", none, 200⟩
    let inputs : List SenderInput :=
      [.push (.text "ls"), .timer, .compressed 0 (.ok ⟨"", ""⟩),
       .answered 0 (.error "429 M_LIMIT_EXCEEDED"), .push (.text "\n"), .waited 0,
       .compressed 0 (.ok ⟨"", ""⟩), .answered 0 (.ok ())]
    let sender := Automaton.run (stepWith (defaultCompress zeroZlib) options) (new options) inputs
    let socket := Automaton.run TerminalSocket.step .new
      ((sender.sent.filterMap (Sent.packet? zeroZlib)).map .data)
    (∀ input ∈ inputs, ordinary input = true) ∧
    sender.queue = [] ∧ sender.buffer = [] ∧
    sender.sent.filterMap (Sent.packet? zeroZlib) = [⟨1, asBytes "ls\n"⟩] ∧
    socket.emitted = [] ∧ socket.gapTimer = true ∧
    (socket.step .gapTimer).requests = [⟨0, 0⟩] ∧ ¬ Agreed zeroZlib sender := by
  intro options inputs sender socket
  have hSent : sender.sent.map Sent.seq = [1] := by decide
  refine ⟨by decide, by decide, by decide, by decide, by decide, by decide, by decide, ?_⟩
  intro hAgreed
  have hLength : sender.sent.length = 1 := by decide
  have hConsecutive := hAgreed.consecutive
  rw [hSent, hLength] at hConsecutive
  simp at hConsecutive

end Agreement

end Mxdx.Core
