import Mxdx.Basic
import Mxdx.Foundations.Automaton
import Mxdx.Foundations.Reorder
import Mathlib.Data.List.Sort

/-! The receiving half of `TerminalSocket`: terminal data events are decoded,
put in order by their numbers and handed to `onmessage`. A number that stays
missing is asked for once and then given up. -/
namespace Mxdx.Core

/-- A decoded terminal data event. The schema admits the safe integers from 0
on, so that the numbers are exact. -/
structure Packet where
  seq : Nat
  data : Bytes
deriving DecidableEq, Repr

/-- The content of a retransmit event. -/
structure Retransmit where
  fromSeq : Nat
  toSeq : Nat
deriving DecidableEq, Repr

/-- The fields of the class that deal with incoming data, with the packets
handed to `onmessage` and the retransmit events sent. -/
structure TerminalSocket where
  expectedSeq : Nat
  buffer : List Packet
  closed : Bool
  gapTimer : Bool
  retransmitTimer : Bool
  emitted : List Packet
  requests : List Retransmit
deriving DecidableEq, Repr

/-- What can happen to the receiving half. -/
inductive SocketInput where
  | data (packet : Packet)
  | gapTimer
  | retransmitTimer
  | close

namespace TerminalSocket

/-- The first packet is number zero. -/
def new : TerminalSocket := ⟨0, [], false, false, false, [], []⟩

/-- `Array.prototype.sort` by number, which is stable. -/
def sort (buffer : List Packet) : List Packet :=
  buffer.insertionSort fun a b => a.seq ≤ b.seq

/-- A packet that is late is dropped. -/
def enqueue (socket : TerminalSocket) (packet : Packet) : TerminalSocket :=
  if packet.seq < socket.expectedSeq then socket
  else { socket with buffer := sort (socket.buffer ++ [packet]) }

/-- The gap is closed, or given up. -/
def clearGapTimers (socket : TerminalSocket) : TerminalSocket :=
  { socket with gapTimer := false, retransmitTimer := false }

/-- The loop of `#flush`. -/
def emitDue (socket : TerminalSocket) : TerminalSocket :=
  let due := Reorder.due Packet.seq socket.expectedSeq socket.buffer
  { socket with
    expectedSeq := socket.expectedSeq + due.length
    buffer := Reorder.kept Packet.seq socket.expectedSeq socket.buffer
    emitted := socket.emitted ++ due }

/-- The next packet is here. -/
def headIsDue (socket : TerminalSocket) : Bool :=
  socket.buffer.head?.any fun first => first.seq == socket.expectedSeq

/-- The next packet is missing, and a later one is here. -/
def headIsAhead (socket : TerminalSocket) : Bool :=
  socket.buffer.head?.any fun first => socket.expectedSeq < first.seq

/-- The end of `#flush`: wait for what is missing. -/
def watchGap (socket : TerminalSocket) : TerminalSocket :=
  if socket.headIsAhead && !socket.gapTimer && !socket.retransmitTimer then
    { socket with gapTimer := true }
  else socket

/-- A packet that is due closes the gap. -/
def flush (socket : TerminalSocket) : TerminalSocket :=
  if socket.headIsDue then socket.clearGapTimers.emitDue.watchGap
  else socket.emitDue.watchGap

/-- The gap is given up: the next packet that is here counts as due. -/
def acceptGap (socket : TerminalSocket) : TerminalSocket :=
  match socket.buffer with
  | [] => socket
  | first :: _ => { socket with expectedSeq := first.seq }.flush

/-- The callback of `#startGapTimer`. -/
def onGapTimer (socket : TerminalSocket) : TerminalSocket :=
  match socket.closed, socket.buffer with
  | false, first :: _ =>
      if first.seq ≤ socket.expectedSeq then { socket with gapTimer := false }.flush
      else
        { socket with
          gapTimer := false
          requests := socket.requests ++ [⟨socket.expectedSeq, first.seq - 1⟩]
          retransmitTimer := true }
  | _, _ => { socket with gapTimer := false }

/-- The callback of the timer set there. -/
def onRetransmitTimer (socket : TerminalSocket) : TerminalSocket :=
  if socket.closed || socket.buffer.isEmpty then { socket with retransmitTimer := false }
  else { socket with retransmitTimer := false }.acceptGap

/-- Nothing is emitted any more. -/
def close (socket : TerminalSocket) : TerminalSocket :=
  if socket.closed then socket else { socket with closed := true }.clearGapTimers

/-- An event that was being decoded when the socket was closed still arrives. -/
def step (socket : TerminalSocket) : SocketInput → TerminalSocket
  | .data packet => (socket.enqueue packet).flush
  | .gapTimer => if socket.gapTimer then socket.onGapTimer else socket
  | .retransmitTimer => if socket.retransmitTimer then socket.onRetransmitTimer else socket
  | .close => socket.close

@[simp] theorem mem_sort {buffer : List Packet} {packet : Packet} :
    packet ∈ sort buffer ↔ packet ∈ buffer :=
  List.mem_insertionSort _

theorem sort_perm (buffer : List Packet) : (sort buffer).Perm buffer :=
  List.perm_insertionSort _ buffer

theorem sorted_sort (buffer : List Packet) :
    (sort buffer).Pairwise fun a b => a.seq ≤ b.seq := by
  have hTotal : Std.Total fun a b : Packet => a.seq ≤ b.seq := ⟨fun a b => Nat.le_total _ _⟩
  have hTrans : IsTrans Packet fun a b => a.seq ≤ b.seq := ⟨fun _ _ _ => Nat.le_trans⟩
  exact List.pairwise_insertionSort _ buffer

section Order

/-- A timer of the gap is running. -/
def waiting (socket : TerminalSocket) : Bool := socket.gapTimer || socket.retransmitTimer

/-- What holds when `#flush` is called. -/
structure Pending (socket : TerminalSocket) : Prop where
  sorted : socket.buffer.Pairwise fun a b => a.seq ≤ b.seq
  increasing : (socket.emitted.map Packet.seq).Pairwise (· < ·)
  past : ∀ packet ∈ socket.emitted, packet.seq < socket.expectedSeq
  timely : socket.waiting = true → ∀ packet ∈ socket.buffer, socket.expectedSeq ≤ packet.seq

/-- What holds between two wake-ups, whatever has arrived: while a timer runs,
everything in the buffer lies behind the gap. -/
structure Settled (socket : TerminalSocket) : Prop where
  sorted : socket.buffer.Pairwise fun a b => a.seq ≤ b.seq
  increasing : (socket.emitted.map Packet.seq).Pairwise (· < ·)
  past : ∀ packet ∈ socket.emitted, packet.seq < socket.expectedSeq
  notDue : socket.headIsDue = false
  ahead : socket.waiting = true → ∀ packet ∈ socket.buffer, socket.expectedSeq < packet.seq

variable {socket : TerminalSocket}

theorem Settled.pending (h : socket.Settled) : socket.Pending :=
  ⟨h.sorted, h.increasing, h.past, fun hWaiting packet hp => Nat.le_of_lt (h.ahead hWaiting packet hp)⟩

theorem headIsDue_eq_false_iff :
    socket.headIsDue = false ↔
      ∀ first, socket.buffer.head? = some first → first.seq ≠ socket.expectedSeq := by
  cases hHead : socket.buffer.head? <;> simp [headIsDue, hHead]

/-- In a sorted buffer the head speaks for all. -/
theorem forall_lt_of_head {buffer : List Packet} {expected : Nat}
    (hSorted : buffer.Pairwise fun a b => a.seq ≤ b.seq)
    (hHead : ∀ first, buffer.head? = some first → expected < first.seq) :
    ∀ packet ∈ buffer, expected < packet.seq := by
  cases buffer with
  | nil => simp
  | cons first rest =>
      have hFirst := hHead first rfl
      intro packet hPacket
      rcases List.mem_cons.mp hPacket with rfl | hRest
      · exact hFirst
      · exact Nat.lt_of_lt_of_le hFirst ((List.pairwise_cons.mp hSorted).1 packet hRest)

theorem due_eq_nil_of_headIsDue (h : socket.headIsDue = false) :
    Reorder.due Packet.seq socket.expectedSeq socket.buffer = [] := by
  rw [headIsDue_eq_false_iff] at h
  cases hBuffer : socket.buffer with
  | nil => rfl
  | cons first rest =>
      have hFirst := h first (by simp [hBuffer])
      simp [Reorder.due, hFirst]

theorem emitDue_of_headIsDue (h : socket.headIsDue = false) : socket.emitDue = socket := by
  have hDue := due_eq_nil_of_headIsDue h
  simp [emitDue, hDue, Reorder.kept_eq_self hDue]

/-- A buffer without late packets whose head is not due lies ahead. -/
theorem forall_lt_of_not_due (hSorted : socket.buffer.Pairwise fun a b => a.seq ≤ b.seq)
    (hDue : socket.headIsDue = false)
    (hLate : ∀ packet ∈ socket.buffer, socket.expectedSeq ≤ packet.seq) :
    ∀ packet ∈ socket.buffer, socket.expectedSeq < packet.seq := by
  apply forall_lt_of_head hSorted
  intro first hFirst
  have hNe := headIsDue_eq_false_iff.mp hDue first hFirst
  have hLe := hLate first (List.mem_of_head? hFirst)
  omega

theorem Pending.emitDue (h : socket.Pending)
    (hTimers : socket.waiting = true → socket.headIsDue = false) : socket.emitDue.Settled := by
  have hAll := Reorder.due_append_kept Packet.seq socket.expectedSeq socket.buffer
  have hSeqs := Reorder.map_due Packet.seq socket.expectedSeq socket.buffer
  have hRange : ∀ packet ∈ Reorder.due Packet.seq socket.expectedSeq socket.buffer,
      socket.expectedSeq ≤ packet.seq ∧ packet.seq < socket.emitDue.expectedSeq := by
    intro packet hPacket
    have hMem := List.mem_map_of_mem (f := Packet.seq) hPacket
    rw [hSeqs, List.mem_range'_1] at hMem
    exact hMem
  constructor
  · have hSorted := h.sorted
    rw [← hAll, List.pairwise_append] at hSorted
    exact hSorted.2.1
  · rw [TerminalSocket.emitDue, List.map_append, List.pairwise_append, hSeqs]
    refine ⟨h.increasing, List.pairwise_lt_range', ?_⟩
    intro n hn m hm
    obtain ⟨packet, hPacket, rfl⟩ := List.mem_map.mp hn
    have hPast := h.past packet hPacket
    rw [List.mem_range'_1] at hm
    omega
  · intro packet hPacket
    rcases List.mem_append.mp hPacket with hOld | hNew
    · have hPast := h.past packet hOld
      simp only [TerminalSocket.emitDue]
      omega
    · exact (hRange packet hNew).2
  · rw [headIsDue_eq_false_iff]
    intro first hFirst
    exact Reorder.head_kept_ne _ _ hFirst
  · intro hWaiting
    have hDue := hTimers hWaiting
    rw [emitDue_of_headIsDue hDue]
    exact forall_lt_of_not_due h.sorted hDue (h.timely hWaiting)

theorem Settled.watchGap (h : socket.Settled) : socket.watchGap.Settled := by
  unfold TerminalSocket.watchGap
  split
  next hStart =>
    refine ⟨h.sorted, h.increasing, h.past, h.notDue, fun _ => ?_⟩
    apply forall_lt_of_head h.sorted
    intro first hFirst
    change socket.buffer.head? = some first at hFirst
    simp only [headIsAhead, hFirst, Option.any_some, Bool.and_eq_true, decide_eq_true_eq] at hStart
    exact hStart.1.1
  · exact h

theorem Pending.flush (h : socket.Pending) : socket.flush.Settled := by
  unfold TerminalSocket.flush
  split
  · have hCleared : socket.clearGapTimers.Pending :=
      ⟨h.sorted, h.increasing, h.past, fun hWaiting => by cases hWaiting⟩
    exact (hCleared.emitDue fun hWaiting => by cases hWaiting).watchGap
  next hDue => exact (h.emitDue fun _ => by simpa using hDue).watchGap

/-- A packet that arrives while a timer runs is not late, since the buffer lies
ahead of what is expected. -/
theorem Settled.enqueue (h : socket.Settled) (packet : Packet) :
    (socket.enqueue packet).Pending := by
  unfold TerminalSocket.enqueue
  split
  · exact h.pending
  next hLate =>
    refine ⟨sorted_sort _, h.increasing, h.past, ?_⟩
    intro hWaiting other hOther
    have hMem : other ∈ socket.buffer ∨ other = packet := by simpa using hOther
    rcases hMem with hOld | rfl
    · exact Nat.le_of_lt (h.ahead hWaiting other hOld)
    · exact Nat.le_of_not_lt hLate

/-- Neither the timers nor the flag `closed` matter to a buffer that lies ahead. -/
theorem Settled.retime (h : socket.Settled) {closed gapTimer retransmitTimer : Bool}
    (hTimers : (gapTimer || retransmitTimer) = true → socket.waiting = true) :
    { socket with
      closed := closed, gapTimer := gapTimer, retransmitTimer := retransmitTimer }.Settled :=
  ⟨h.sorted, h.increasing, h.past, h.notDue, fun hWaiting => h.ahead (hTimers hWaiting)⟩

/-- The socket that has given up the gap before `first`. -/
theorem Settled.pending_acceptGap (h : socket.Settled) (hWaiting : socket.waiting = true)
    {first : Packet} {rest : List Packet} (hBuffer : socket.buffer = first :: rest) :
    { socket with retransmitTimer := false, expectedSeq := first.seq }.Pending := by
  have hSorted := h.sorted
  rw [hBuffer, List.pairwise_cons] at hSorted
  refine ⟨h.sorted, h.increasing, ?_, ?_⟩
  · intro packet hPacket
    have hPast := h.past packet hPacket
    have hAhead := h.ahead hWaiting first (by simp [hBuffer])
    exact Nat.lt_trans hPast hAhead
  · intro _ packet hPacket
    change packet ∈ socket.buffer at hPacket
    rw [hBuffer] at hPacket
    rcases List.mem_cons.mp hPacket with rfl | hRest
    · exact Nat.le_refl _
    · exact hSorted.1 packet hRest

/-- The gap timer fires: the head is ahead, so that the socket asks for what is
missing and never flushes. -/
theorem Settled.onGapTimer_cases (h : socket.Settled) (hTimer : socket.gapTimer = true) :
    socket.onGapTimer = { socket with gapTimer := false } ∨
    ∃ first, socket.buffer.head? = some first ∧ socket.onGapTimer = { socket with
      gapTimer := false
      requests := socket.requests ++ [⟨socket.expectedSeq, first.seq - 1⟩]
      retransmitTimer := true } := by
  have hWaiting : socket.waiting = true := by simp [waiting, hTimer]
  simp only [onGapTimer]
  split
  next first rest hClosed hBuffer =>
    have hAhead := h.ahead hWaiting first (by simp [hBuffer])
    have hNotDue : ¬ first.seq ≤ socket.expectedSeq := by omega
    rw [if_neg hNotDue]
    exact .inr ⟨first, by simp [hBuffer], rfl⟩
  · exact .inl rfl

theorem onRetransmitTimer_cases (socket : TerminalSocket) :
    (socket.closed = true ∨ socket.buffer = []) ∧
      socket.onRetransmitTimer = { socket with retransmitTimer := false } ∨
    ∃ first rest, socket.closed = false ∧ socket.buffer = first :: rest ∧
      socket.onRetransmitTimer =
        { socket with retransmitTimer := false, expectedSeq := first.seq }.flush := by
  cases hClosed : socket.closed with
  | true => exact .inl ⟨.inl rfl, by simp [onRetransmitTimer, hClosed]⟩
  | false =>
      cases hBuffer : socket.buffer with
      | nil => exact .inl ⟨.inr rfl, by simp [onRetransmitTimer, hClosed, hBuffer]⟩
      | cons first rest =>
          exact .inr ⟨first, rest, rfl, rfl, by simp [onRetransmitTimer, acceptGap, hClosed, hBuffer]⟩

theorem settled_new : new.Settled :=
  ⟨.nil, .nil, by simp [new], rfl, by simp [new]⟩

theorem settled_step (socket : TerminalSocket) (input : SocketInput) (h : socket.Settled) :
    (socket.step input).Settled := by
  cases input with
  | data packet => exact (h.enqueue packet).flush
  | gapTimer =>
      simp only [step]
      split
      next hTimer =>
        have hWaiting : socket.waiting = true := by simp [waiting, hTimer]
        rcases h.onGapTimer_cases hTimer with hEq | ⟨first, -, hEq⟩
        · rw [hEq]
          exact h.retime fun _ => hWaiting
        · rw [hEq]
          exact ⟨h.sorted, h.increasing, h.past, h.notDue, fun _ => h.ahead hWaiting⟩
      · exact h
  | retransmitTimer =>
      simp only [step]
      split
      next hTimer =>
        have hWaiting : socket.waiting = true := by simp [waiting, hTimer]
        rcases onRetransmitTimer_cases socket with ⟨-, hEq⟩ | ⟨first, rest, -, hBuffer, hEq⟩
        · rw [hEq]
          exact h.retime fun _ => hWaiting
        · rw [hEq]
          exact (h.pending_acceptGap hWaiting hBuffer).flush
      · exact h
  | close =>
      simp only [step, close]
      split
      · exact h
      · exact h.retime fun hNever => by cases hNever

/-- The loop is all that `#flush` does to the numbers and the packets. -/
theorem flush_emitDue (socket : TerminalSocket) :
    socket.flush.expectedSeq = socket.emitDue.expectedSeq ∧
    socket.flush.buffer = socket.emitDue.buffer ∧
    socket.flush.emitted = socket.emitDue.emitted := by
  have hWatch : ∀ other : TerminalSocket, other.watchGap.expectedSeq = other.expectedSeq ∧
      other.watchGap.buffer = other.buffer ∧ other.watchGap.emitted = other.emitted := by
    intro other
    unfold watchGap
    split <;> simp
  unfold flush
  split
  · exact hWatch _
  · exact hWatch _

theorem le_expectedSeq_flush (socket : TerminalSocket) :
    socket.expectedSeq ≤ socket.flush.expectedSeq := by
  rw [(flush_emitDue socket).1]
  exact Nat.le_add_right _ _

@[simp] theorem enqueue_expectedSeq (socket : TerminalSocket) (packet : Packet) :
    (socket.enqueue packet).expectedSeq = socket.expectedSeq := by
  unfold enqueue
  split <;> rfl

theorem le_expectedSeq_step (socket : TerminalSocket) (input : SocketInput) (h : socket.Settled) :
    socket.expectedSeq ≤ (socket.step input).expectedSeq := by
  cases input with
  | data packet => simpa [step] using le_expectedSeq_flush (socket.enqueue packet)
  | gapTimer =>
      simp only [step]
      split
      next hTimer =>
        rcases h.onGapTimer_cases hTimer with hEq | ⟨first, -, hEq⟩ <;> simp [hEq]
      · exact Nat.le_refl _
  | retransmitTimer =>
      simp only [step]
      split
      next hTimer =>
        have hWaiting : socket.waiting = true := by simp [waiting, hTimer]
        rcases onRetransmitTimer_cases socket with ⟨-, hEq⟩ | ⟨first, rest, -, hBuffer, hEq⟩
        · simp [hEq]
        · rw [hEq]
          have hAhead := h.ahead hWaiting first (by simp [hBuffer])
          have hFlush := le_expectedSeq_flush
            { socket with retransmitTimer := false, expectedSeq := first.seq }
          exact Nat.le_trans (Nat.le_of_lt hAhead) hFlush
      · exact Nat.le_refl _
  | close =>
      simp only [step, close]
      split <;> simp [clearGapTimers]

theorem le_expectedSeq_run {socket : TerminalSocket} (h : socket.Settled)
    (inputs : List SocketInput) :
    socket.expectedSeq ≤ (Automaton.run step socket inputs).expectedSeq := by
  induction inputs generalizing socket with
  | nil => exact Nat.le_refl _
  | cons input rest ih =>
      exact Nat.le_trans (le_expectedSeq_step socket input h) (ih (settled_step socket input h))

/-- The packet is late, and no gap is left that nobody waits for, as there may be in a
closed socket. -/
def Ignores (socket : TerminalSocket) (packet : Packet) : Prop :=
  packet.seq < socket.expectedSeq ∧ (socket.headIsAhead = true → socket.waiting = true)

theorem length_flush (socket : TerminalSocket) :
    socket.flush.emitted.length + socket.flush.buffer.length =
      socket.emitted.length + socket.buffer.length := by
  obtain ⟨-, hBuffer, hEmitted⟩ := flush_emitDue socket
  have hAll := congrArg List.length
    (Reorder.due_append_kept Packet.seq socket.expectedSeq socket.buffer)
  rw [List.length_append] at hAll
  rw [hBuffer, hEmitted, emitDue, List.length_append]
  dsimp only
  omega

theorem watchGap_eq_self_iff (socket : TerminalSocket) :
    socket.watchGap = socket ↔ (socket.headIsAhead = true → socket.waiting = true) := by
  unfold watchGap
  split
  next hStart =>
    simp only [Bool.and_eq_true, Bool.not_eq_true'] at hStart
    obtain ⟨⟨hAhead, hGap⟩, hRetransmit⟩ := hStart
    apply iff_of_false
    · intro hSame
      have hTimer := congrArg TerminalSocket.gapTimer hSame
      rw [hGap] at hTimer
      cases hTimer
    · simp [hAhead, waiting, hGap, hRetransmit]
  next hStays =>
    refine iff_of_true rfl fun hAhead => ?_
    by_contra hWaiting
    simp only [waiting, Bool.or_eq_true, not_or, Bool.not_eq_true] at hWaiting
    exact hStays (by simp [hAhead, hWaiting])

/-- Only such a packet leaves the socket as it is. -/
theorem Settled.step_data_eq_self_iff (h : socket.Settled) (packet : Packet) :
    socket.step (.data packet) = socket ↔ socket.Ignores packet := by
  rw [step, TerminalSocket.enqueue, Ignores]
  split
  next hLate =>
    have hFlush : socket.flush = socket.watchGap := by
      rw [flush, if_neg (by simp [h.notDue]), emitDue_of_headIsDue h.notDue]
    rw [hFlush, watchGap_eq_self_iff, and_iff_right hLate]
  next hNew =>
    apply iff_of_false
    · intro hSame
      have hLength := length_flush { socket with buffer := sort (socket.buffer ++ [packet]) }
      rw [hSame] at hLength
      have hSort := (sort_perm (socket.buffer ++ [packet])).length_eq
      simp only [List.length_append, List.length_singleton] at hSort
      dsimp only at hLength
      omega
    · exact fun hIgnores => hNew hIgnores.1

theorem settled_run (inputs : List SocketInput) : (Automaton.run step new inputs).Settled :=
  (Automaton.always_of_step settled_step settled_new inputs).last

end Order

section Wedge

variable {socket : TerminalSocket}

/-- Nothing in the buffer is below the expected number. -/
def NoneLate (socket : TerminalSocket) : Prop :=
  ∀ packet ∈ socket.buffer, socket.expectedSeq ≤ packet.seq

/-- No number that the step makes due is waiting twice. -/
def NoneDueTwice (socket : TerminalSocket) : SocketInput → Prop
  | .data packet => Reorder.Single Packet.seq socket.expectedSeq (packet :: socket.buffer)
  | .retransmitTimer =>
      socket.retransmitTimer = true → socket.closed = false →
        ∀ first, socket.buffer.head? = some first →
          Reorder.Single Packet.seq first.seq socket.buffer
  | _ => True

theorem noneLate_flush_iff (h : socket.Pending) (hLate : socket.NoneLate) :
    socket.flush.NoneLate ↔ Reorder.Single Packet.seq socket.expectedSeq socket.buffer := by
  obtain ⟨hSeq, hBuffer, -⟩ := flush_emitDue socket
  rw [NoneLate, hSeq, hBuffer]
  exact Reorder.kept_not_late_iff h.sorted hLate

theorem noneLate_data_iff (h : socket.Settled) (hLate : socket.NoneLate) (packet : Packet) :
    (socket.enqueue packet).flush.NoneLate ↔ socket.NoneDueTwice (.data packet) := by
  have hPending := h.enqueue packet
  have hAhead := forall_lt_of_not_due h.sorted h.notDue hLate
  by_cases hOld : packet.seq < socket.expectedSeq
  · -- a late packet is dropped, and what waits lies ahead
    have hSame : socket.enqueue packet = socket := by simp [enqueue, hOld]
    have hAbsent : socket.expectedSeq ∉ (packet :: socket.buffer).map Packet.seq := by
      intro hMem
      obtain ⟨other, hOther, hSeq⟩ := List.mem_map.mp hMem
      rcases List.mem_cons.mp hOther with rfl | hBuffered
      · omega
      · have hLt := hAhead other hBuffered
        omega
    rw [hSame] at hPending ⊢
    rw [noneLate_flush_iff hPending hLate]
    apply iff_of_true
    · exact Reorder.single_of_absent fun hMem => hAbsent (List.mem_cons_of_mem _ hMem)
    · exact Reorder.single_of_absent hAbsent
  · have hBuffer : (socket.enqueue packet).buffer = sort (socket.buffer ++ [packet]) := by
      simp [enqueue, hOld]
    have hEnqueued : (socket.enqueue packet).NoneLate := by
      intro other hOther
      rw [hBuffer, mem_sort, List.mem_append, List.mem_singleton] at hOther
      rw [enqueue_expectedSeq]
      rcases hOther with hBuffered | rfl
      · exact hLate other hBuffered
      · exact Nat.le_of_not_lt hOld
    have hPerm : (sort (socket.buffer ++ [packet])).Perm (packet :: socket.buffer) :=
      (sort_perm _).trans (List.perm_append_singleton _ _)
    rw [noneLate_flush_iff hPending hEnqueued, hBuffer, enqueue_expectedSeq]
    exact Reorder.Single.perm hPerm

/-- Accepting the gap makes the first packet that waits the expected one. -/
theorem Settled.noneLate_acceptGap (h : socket.Settled) {first : Packet} {rest : List Packet}
    (hBuffer : socket.buffer = first :: rest) :
    NoneLate { socket with retransmitTimer := false, expectedSeq := first.seq } := by
  intro packet hPacket
  change packet ∈ socket.buffer at hPacket
  have hSorted := h.sorted
  rw [hBuffer] at hPacket hSorted
  rcases List.mem_cons.mp hPacket with rfl | hRest
  · exact Nat.le_refl _
  · exact (List.pairwise_cons.mp hSorted).1 packet hRest

theorem noneLate_step_iff (socket : TerminalSocket) (input : SocketInput) (h : socket.Settled)
    (hLate : socket.NoneLate) :
    (socket.step input).NoneLate ↔ socket.NoneDueTwice input := by
  cases input with
  | data packet => exact noneLate_data_iff h hLate packet
  | gapTimer =>
      refine iff_of_true ?_ trivial
      simp only [step]
      split
      next hTimer =>
        rcases h.onGapTimer_cases hTimer with hEq | ⟨first, -, hEq⟩
        · rw [hEq]
          exact hLate
        · rw [hEq]
          exact hLate
      · exact hLate
  | retransmitTimer =>
      simp only [step, NoneDueTwice]
      split
      next hTimer =>
        have hWaiting : socket.waiting = true := by simp [waiting, hTimer]
        rcases onRetransmitTimer_cases socket with ⟨hNone, hEq⟩ | ⟨first, rest, hOpen, hBuffer, hEq⟩
        · rw [hEq]
          apply iff_of_true
          · exact hLate
          · intro _ hOpen first hFirst
            rcases hNone with hClosed | hEmpty
            · simp [hOpen] at hClosed
            · simp [hEmpty] at hFirst
        · have hPending := h.pending_acceptGap hWaiting hBuffer
          rw [hEq, noneLate_flush_iff hPending (h.noneLate_acceptGap hBuffer)]
          simp [hTimer, hOpen, hBuffer]
      next hTimer =>
        exact iff_of_true hLate fun hFires => absurd hFires hTimer
  | close =>
      refine iff_of_true ?_ trivial
      simp only [step, close]
      split
      · exact hLate
      · exact hLate

/-- A late packet at the head stops the loop and keeps the gap timer off. -/
theorem flush_of_late (hSorted : socket.buffer.Pairwise fun a b => a.seq ≤ b.seq)
    (hLate : ¬ socket.NoneLate) : socket.flush = socket := by
  simp only [NoneLate, not_forall, not_le] at hLate
  obtain ⟨late, hMem, hLt⟩ := hLate
  cases hBuffer : socket.buffer with
  | nil => simp [hBuffer] at hMem
  | cons first rest =>
      have hFirst : first.seq ≤ late.seq := by
        rw [hBuffer] at hMem hSorted
        rcases List.mem_cons.mp hMem with rfl | hRest
        · exact Nat.le_refl _
        · exact (List.pairwise_cons.mp hSorted).1 late hRest
      have hNotDue : socket.headIsDue = false := by
        simp only [headIsDue, hBuffer, List.head?_cons, Option.any_some, beq_eq_false_iff_ne]
        omega
      have hNotAhead : socket.headIsAhead = false := by
        simp only [headIsAhead, hBuffer, List.head?_cons, Option.any_some, decide_eq_false_iff_not]
        omega
      simp [flush, hNotDue, emitDue_of_headIsDue hNotDue, watchGap, hNotAhead]

theorem wedged_step (h : socket.Settled) (hLate : ¬ socket.NoneLate) (input : SocketInput) :
    ¬ (socket.step input).NoneLate ∧ (socket.step input).emitted = socket.emitted := by
  have hIdle : socket.waiting = false := by
    by_contra hWaiting
    exact hLate fun packet hPacket => Nat.le_of_lt (h.ahead (by simpa using hWaiting) packet hPacket)
  obtain ⟨hGap, hRetransmit⟩ : socket.gapTimer = false ∧ socket.retransmitTimer = false := by
    simpa [waiting] using hIdle
  cases input with
  | data packet =>
      have hStill : ¬ (socket.enqueue packet).NoneLate := by
        intro hNone
        apply hLate
        intro other hOther
        have hMem : other ∈ (socket.enqueue packet).buffer := by
          unfold enqueue
          split <;> simp [hOther]
        simpa using hNone other hMem
      have hEmitted : (socket.enqueue packet).emitted = socket.emitted := by
        unfold enqueue
        split <;> rfl
      rw [step, flush_of_late (h.enqueue packet).sorted hStill]
      exact ⟨hStill, hEmitted⟩
  | gapTimer => simp [step, hGap, hLate]
  | retransmitTimer => simp [step, hRetransmit, hLate]
  | close =>
      simp only [step, close]
      split
      · exact ⟨hLate, rfl⟩
      · exact ⟨hLate, rfl⟩

/-- A socket that has kept a late packet never emits anything again. -/
theorem wedged_run (h : socket.Settled) (hLate : ¬ socket.NoneLate) (inputs : List SocketInput) :
    (Automaton.run step socket inputs).emitted = socket.emitted := by
  induction inputs generalizing socket with
  | nil => rfl
  | cons input rest ih =>
      obtain ⟨hStill, hEmitted⟩ := wedged_step h hLate input
      rw [Automaton.run_cons, ih (settled_step socket input h) hStill, hEmitted]

/-- What the reorder buffer is for, in one state. -/
structure InOrder (socket : TerminalSocket) : Prop where
  increasing : (socket.emitted.map Packet.seq).Pairwise (· < ·)
  once : (socket.emitted.map Packet.seq).Nodup
  noneLate : socket.NoneLate

theorem Settled.inOrder_iff (h : socket.Settled) : socket.InOrder ↔ socket.NoneLate :=
  ⟨InOrder.noneLate, fun hLate => ⟨h.increasing, h.increasing.imp Nat.ne_of_lt, hLate⟩⟩

/-- Along a run the expected number never decreases, and the buffer stays in
order exactly as long as no due number is waiting twice. -/
theorem reorder_in_order_iff (inputs : List SocketInput) :
    (Automaton.Always step InOrder new inputs ∧
      ∀ early late, early <+: late → late <+: inputs →
        (Automaton.run step new early).expectedSeq ≤ (Automaton.run step new late).expectedSeq) ↔
    Automaton.Admissible step NoneDueTwice new inputs := by
  have hMonotone : ∀ early late, early <+: late → late <+: inputs →
      (Automaton.run step new early).expectedSeq ≤ (Automaton.run step new late).expectedSeq := by
    rintro early late ⟨more, rfl⟩ -
    have hSettled := (Automaton.always_of_step settled_step settled_new early).last
    rw [Automaton.run_append]
    exact le_expectedSeq_run hSettled more
  rw [and_iff_left hMonotone]
  have hStep : ∀ (socket : TerminalSocket) input, socket.Settled ∧ socket.NoneLate →
      ((socket.step input).Settled ∧ (socket.step input).NoneLate ↔ socket.NoneDueTwice input) := by
    intro socket input h
    rw [and_iff_right (settled_step socket input h.1)]
    exact noneLate_step_iff socket input h.1 h.2
  have hExact : Automaton.Always step (fun socket => socket.Settled ∧ socket.NoneLate) new inputs ↔
      Automaton.Admissible step NoneDueTwice new inputs :=
    Automaton.always_iff_admissible hStep ⟨settled_new, by simp [NoneLate, new]⟩
  rw [← hExact, Automaton.always_iff_prefixes, Automaton.always_iff_prefixes]
  apply forall₂_congr
  intro pre _
  have hSettled := (Automaton.always_of_step settled_step settled_new pre).last
  rw [hSettled.inOrder_iff, and_iff_right hSettled]

/-- Number 1 arrives twice before number 0. Its second copy stays at the head
of the buffer, and number 2 and everything after it is never emitted. -/
theorem duplicate_wedges_socket :
    let arrivals := [.data ⟨1, [98]⟩, .data ⟨1, [98]⟩, .data ⟨0, [97]⟩]
    let socket := Automaton.run step new arrivals
    socket.expectedSeq = 2 ∧ socket.buffer = [⟨1, [98]⟩] ∧
    ¬ Automaton.Always step InOrder new arrivals ∧
    ∀ inputs, (Automaton.run step socket inputs).emitted = [⟨0, [97]⟩, ⟨1, [98]⟩] := by
  intro arrivals socket
  have hSettled : socket.Settled :=
    (Automaton.always_of_step settled_step settled_new arrivals).last
  have hLate : ¬ socket.NoneLate := by
    intro hNone
    have hSecond : 2 ≤ 1 := hNone ⟨1, [98]⟩ (by decide)
    omega
  refine ⟨by decide, by decide, fun hAlways => hLate hAlways.last.noneLate, ?_⟩
  intro inputs
  rw [wedged_run hSettled hLate inputs]
  decide

end Wedge

end TerminalSocket

end Mxdx.Core
