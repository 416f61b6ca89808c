import Mxdx.Core.TerminalStream

/-! What a `TerminalSocket` makes of a stream of frames whose events the room may lose,
repeat and deliver in any order. -/
namespace Mxdx.Core.TerminalSocket

open Automaton

variable {socket : TerminalSocket}

section Gaps

/-- Every number the socket has passed was emitted or asked for. -/
def Accounts (socket : TerminalSocket) : Prop :=
  ∀ n < socket.expectedSeq, n ∈ socket.emitted.map Packet.seq ∨
    ∃ request ∈ socket.requests, request.fromSeq ≤ n ∧ n ≤ request.toSeq

/-- While the second timer runs, what is missing before some packet that waits has been
asked for. -/
def Asked (socket : TerminalSocket) : Prop :=
  socket.retransmitTimer = true →
    ∃ request ∈ socket.requests, request.fromSeq = socket.expectedSeq ∧
      ∃ packet ∈ socket.buffer, packet.seq ≤ request.toSeq + 1

/-- A gap that is waited for has been told to the sender. -/
structure Announced (socket : TerminalSocket) : Prop where
  accounts : socket.Accounts
  asked : socket.Asked

theorem Accounts.emitDue (h : socket.Accounts) : socket.emitDue.Accounts := by
  have hSeqs := Reorder.map_due Packet.seq socket.expectedSeq socket.buffer
  intro n hn
  rcases Nat.lt_or_ge n socket.expectedSeq with hOld | hNew
  · refine (h n hOld).imp_left fun hMem => ?_
    rw [TerminalSocket.emitDue, List.map_append]
    exact List.mem_append_left _ hMem
  · left
    rw [TerminalSocket.emitDue, List.map_append, hSeqs]
    exact List.mem_append_right _ (List.mem_range'_1.mpr ⟨hNew, hn⟩)

theorem Announced.watchGap (h : socket.Announced) : socket.watchGap.Announced := by
  unfold TerminalSocket.watchGap
  split
  · exact ⟨h.accounts, h.asked⟩
  · exact h

/-- A due packet stops the second timer, and otherwise nothing moves. -/
theorem Announced.flush (h : socket.Announced) : socket.flush.Announced := by
  unfold TerminalSocket.flush
  split
  · have hCleared : socket.clearGapTimers.emitDue.Accounts := Accounts.emitDue h.accounts
    exact Announced.watchGap ⟨hCleared, fun hNever => by cases hNever⟩
  next hDue =>
    rw [emitDue_of_headIsDue (by simpa using hDue)]
    exact h.watchGap

theorem Announced.enqueue (h : socket.Announced) (packet : Packet) :
    (socket.enqueue packet).Announced := by
  unfold TerminalSocket.enqueue
  split
  · exact h
  · refine ⟨h.accounts, fun hTimer => ?_⟩
    obtain ⟨request, hRequest, hFrom, other, hOther, hLe⟩ := h.asked hTimer
    have hStays : other ∈ sort (socket.buffer ++ [packet]) := by simp [hOther]
    exact ⟨request, hRequest, hFrom, other, hStays, hLe⟩

/-- The numbers given up lie in the range that was asked for. -/
theorem Announced.accounts_acceptGap (hSettled : socket.Settled) (h : socket.Announced)
    (hTimer : socket.retransmitTimer = true) {first : Packet} {rest : List Packet}
    (hBuffer : socket.buffer = first :: rest) :
    Accounts { socket with retransmitTimer := false, expectedSeq := first.seq } := by
  obtain ⟨request, hRequest, hFrom, packet, hPacket, hLe⟩ := h.asked hTimer
  have hFirst : first.seq ≤ packet.seq := by
    have hSorted := hSettled.sorted
    rw [hBuffer] at hPacket hSorted
    rcases List.mem_cons.mp hPacket with rfl | hRest
    · exact Nat.le_refl _
    · exact (List.pairwise_cons.mp hSorted).1 packet hRest
  intro n hn
  rcases Nat.lt_or_ge n socket.expectedSeq with hOld | hMissing
  · exact h.accounts n hOld
  · right
    change n < first.seq at hn
    exact ⟨request, hRequest, by omega, by omega⟩

theorem announced_step (socket : TerminalSocket) (input : SocketInput)
    (h : socket.Settled ∧ socket.Announced) :
    (socket.step input).Settled ∧ (socket.step input).Announced := by
  obtain ⟨hSettled, h⟩ := h
  refine ⟨settled_step socket input hSettled, ?_⟩
  cases input with
  | data packet => exact (h.enqueue packet).flush
  | gapTimer =>
      simp only [step]
      split
      next hTimer =>
        rcases hSettled.onGapTimer_cases hTimer with hEq | ⟨first, hFirst, hEq⟩
        · rw [hEq]
          exact ⟨h.accounts, h.asked⟩
        · rw [hEq]
          constructor
          · intro n hn
            refine (h.accounts n hn).imp_right fun hAsked => ?_
            obtain ⟨request, hRequest, hRange⟩ := hAsked
            exact ⟨request, List.mem_append_left _ hRequest, hRange⟩
          · intro _
            have hAsked : first.seq ≤ first.seq - 1 + 1 := by omega
            exact ⟨⟨socket.expectedSeq, first.seq - 1⟩, by simp, rfl, first,
              List.mem_of_head? hFirst, hAsked⟩
      · exact h
  | retransmitTimer =>
      simp only [step]
      split
      next hTimer =>
        rcases onRetransmitTimer_cases socket with ⟨-, hEq⟩ | ⟨first, rest, -, hBuffer, hEq⟩
        · rw [hEq]
          exact ⟨h.accounts, fun hNever => by cases hNever⟩
        · have hAccounts := h.accounts_acceptGap hSettled hTimer hBuffer
          rw [hEq]
          exact Announced.flush ⟨hAccounts, fun hNever => by cases hNever⟩
      · exact h
  | close =>
      simp only [step, close]
      split
      · exact h
      · exact ⟨h.accounts, fun hNever => by cases hNever⟩

theorem announced_new : new.Announced :=
  ⟨fun n hn => absurd hn (Nat.not_lt_zero n), fun hNever => by cases hNever⟩

/-- Whatever arrives and whenever the timers fire, no number is skipped before it was
asked for. -/
theorem accounts_run (inputs : List SocketInput) : (run step new inputs).Accounts :=
  (always_of_step announced_step ⟨settled_new, announced_new⟩ inputs).last.2.accounts

end Gaps

section Stream

/-- The events of a stream: its frames are numbered from 0 on. -/
def numbered (frames : List Bytes) : List Packet := frames.mapIdx fun seq data => ⟨seq, data⟩

@[simp] theorem map_seq_numbered (frames : List Bytes) :
    (numbered frames).map Packet.seq = List.range frames.length := by
  apply List.ext_getElem
  · simp [numbered]
  · intro n _ _
    simp [numbered]

theorem eq_of_mem_numbered {frames : List Bytes} {first second : Packet}
    (hFirst : first ∈ numbered frames) (hSecond : second ∈ numbered frames)
    (hSeq : first.seq = second.seq) : first = second := by
  obtain ⟨n, hn, rfl⟩ := List.mem_mapIdx.mp hFirst
  obtain ⟨m, hm, rfl⟩ := List.mem_mapIdx.mp hSecond
  obtain rfl : n = m := hSeq
  rfl

theorem mem_flush {packet : Packet} :
    packet ∈ socket.flush.emitted ∨ packet ∈ socket.flush.buffer ↔
      packet ∈ socket.emitted ∨ packet ∈ socket.buffer := by
  obtain ⟨-, hBuffer, hEmitted⟩ := flush_emitDue socket
  have hAll := Reorder.due_append_kept Packet.seq socket.expectedSeq socket.buffer
  rw [hBuffer, hEmitted, emitDue, List.mem_append, or_assoc, ← List.mem_append, hAll]

/-- What a step does to the packets: the arriving one is taken unless it is late. -/
theorem mem_step (hSettled : socket.Settled) (input : SocketInput) (packet : Packet) :
    packet ∈ (socket.step input).emitted ∨ packet ∈ (socket.step input).buffer ↔
      (packet ∈ socket.emitted ∨ packet ∈ socket.buffer) ∨
        input = .data packet ∧ socket.expectedSeq ≤ packet.seq := by
  cases input with
  | data arriving =>
      simp only [step, mem_flush, enqueue, SocketInput.data.injEq]
      split
      next hLate =>
        refine (or_iff_left fun hBoth => ?_).symm
        obtain ⟨hSame, hLe⟩ := hBoth
        subst hSame
        omega
      next hNew =>
        rw [mem_sort, List.mem_append, List.mem_singleton, ← or_assoc]
        refine or_congr_right ⟨fun hSame => ⟨hSame.symm, ?_⟩, fun h => h.1.symm⟩
        subst hSame
        omega
  | gapTimer =>
      simp only [step]
      split
      next hTimer =>
        rcases hSettled.onGapTimer_cases hTimer with hEq | ⟨first, -, hEq⟩ <;> simp [hEq]
      · simp
  | retransmitTimer =>
      simp only [step]
      split
      · rcases onRetransmitTimer_cases socket with ⟨-, hEq⟩ | ⟨first, rest, -, hBuffer, hEq⟩
        · simp [hEq]
        · rw [hEq, mem_flush]
          simp
      · simp
  | close =>
      simp only [step, close]
      split <;> simp [clearGapTimers]

@[simp] theorem arrivals_concat (inputs : List SocketInput) (input : SocketInput) :
    arrivals (inputs ++ [input]) = arrivals inputs ++ arrivals [input] :=
  List.filterMap_append ..

theorem mem_arrivals_singleton {input : SocketInput} {packet : Packet} :
    packet ∈ arrivals [input] ↔ input = .data packet := by
  cases input <;> simp [arrivals, eq_comm]

/-- Only packets that arrived are emitted or kept. -/
theorem mem_arrivals_of_mem (inputs : List SocketInput) {packet : Packet}
    (h : packet ∈ (run step new inputs).emitted ∨ packet ∈ (run step new inputs).buffer) :
    packet ∈ arrivals inputs := by
  induction inputs using List.reverseRecOn with
  | nil => simp [new] at h
  | append_singleton inputs input ih =>
      rw [run_concat, mem_step (settled_run inputs)] at h
      rw [arrivals_concat, List.mem_append, mem_arrivals_singleton]
      exact h.imp ih And.left

/-- A packet that arrived is emitted, kept, or below what is expected. -/
theorem mem_of_mem_arrivals (inputs : List SocketInput) {packet : Packet}
    (h : packet ∈ arrivals inputs) :
    (packet ∈ (run step new inputs).emitted ∨ packet ∈ (run step new inputs).buffer) ∨
      packet.seq < (run step new inputs).expectedSeq := by
  induction inputs using List.reverseRecOn with
  | nil => simp [arrivals] at h
  | append_singleton inputs input ih =>
      have hMonotone := le_expectedSeq_step _ input (settled_run inputs)
      rw [arrivals_concat, List.mem_append, mem_arrivals_singleton] at h
      rw [run_concat, mem_step (settled_run inputs)]
      rcases Nat.lt_or_ge packet.seq (run step new inputs).expectedSeq with hLate | hNew
      · exact .inr (Nat.lt_of_lt_of_le hLate hMonotone)
      · rcases h with hBefore | hNow
        · rcases ih hBefore with hHeld | hPast
          · exact .inl (.inl hHeld)
          · omega
        · exact .inl (.inr ⟨hNow, hNew⟩)

theorem mem_numbered_of_emitted {frames : List Bytes} {inputs : List SocketInput}
    (hNetwork : ∀ packet ∈ arrivals inputs, packet ∈ numbered frames) :
    ∀ packet ∈ (run step new inputs).emitted, packet ∈ numbered frames :=
  fun packet hPacket => hNetwork packet (mem_arrivals_of_mem inputs (.inl hPacket))

theorem emitted_sublist {frames : List Bytes} {inputs : List SocketInput}
    (hNetwork : ∀ packet ∈ arrivals inputs, packet ∈ numbered frames) :
    (run step new inputs).emitted.Sublist (numbered frames) := by
  have hIncreasing := (settled_run inputs).increasing
  rw [List.pairwise_map] at hIncreasing
  have hOrder : (numbered frames).Pairwise fun a b => a.seq < b.seq := by
    rw [← List.pairwise_map, map_seq_numbered]
    exact List.pairwise_lt_range
  have hNodup : (run step new inputs).emitted.Nodup :=
    hIncreasing.imp fun hLt hSame => absurd (congrArg Packet.seq hSame) (Nat.ne_of_lt hLt)
  have hAntisymm : Std.Antisymm fun a b : Packet => a.seq < b.seq :=
    ⟨fun _ _ hLt hGt => absurd hLt (Nat.lt_asymm hGt)⟩
  exact List.sublist_of_subperm_of_pairwise
    (hNodup.subperm (mem_numbered_of_emitted hNetwork)) hIncreasing hOrder

/-- What the receiver of a stream is promised: frames of the stream in its order, none of
them twice, and each one passed over was asked for. -/
structure Delivers (frames : List Bytes) (socket : TerminalSocket) : Prop where
  inOrder : socket.emitted.Sublist (numbered frames)
  missing : ∀ packet ∈ numbered frames, packet.seq < socket.expectedSeq →
    packet ∈ socket.emitted ∨
      ∃ request ∈ socket.requests, request.fromSeq ≤ packet.seq ∧ packet.seq ≤ request.toSeq

/-- The promise is kept whatever the room loses, repeats or reorders, and whenever the
timers fire. -/
theorem stream_delivered (frames : List Bytes) (inputs : List SocketInput)
    (hNetwork : ∀ packet ∈ arrivals inputs, packet ∈ numbered frames) :
    Always step (Delivers frames) new inputs := by
  rw [always_iff_prefixes]
  rintro pre ⟨post, rfl⟩
  have hPre : ∀ packet ∈ arrivals pre, packet ∈ numbered frames := by
    intro packet hPacket
    apply hNetwork
    rw [arrivals, List.filterMap_append]
    exact List.mem_append_left _ hPacket
  refine ⟨emitted_sublist hPre, ?_⟩
  intro packet hPacket hPast
  refine (accounts_run pre packet.seq hPast).imp_left fun hEmitted => ?_
  obtain ⟨other, hOther, hSeq⟩ := List.mem_map.mp hEmitted
  rwa [← eq_of_mem_numbered (mem_numbered_of_emitted hPre other hOther) hPacket hSeq]

/-- Frame 1 is lost and frame 2 comes twice, once before frame 0. -/
theorem stream_delivered_lossy :
    Always step (Delivers [[97], [98], [99]]) new
      [.data ⟨2, [99]⟩, .data ⟨0, [97]⟩, .gapTimer, .retransmitTimer, .data ⟨2, [99]⟩] :=
  stream_delivered [[97], [98], [99]] _ (by decide)

end Stream

section Prefix

/-- As long as the socket has asked for nothing, it has emitted the first numbers. -/
structure Patient (socket : TerminalSocket) : Prop where
  settled : socket.Settled
  noneLate : socket.NoneLate
  seqs : socket.requests = [] →
    socket.emitted.map Packet.seq = List.range socket.expectedSeq
  notAsking : socket.requests = [] → socket.retransmitTimer = false

theorem seqs_emitDue
    (h : socket.emitted.map Packet.seq = List.range socket.expectedSeq) :
    socket.emitDue.emitted.map Packet.seq = List.range socket.emitDue.expectedSeq := by
  rw [emitDue, List.map_append, h, Reorder.map_due, List.range_eq_range', List.range_eq_range']
  simpa using List.range'_append_1 (s := 0)

@[simp] theorem watchGap_requests (socket : TerminalSocket) :
    socket.watchGap.requests = socket.requests := by
  unfold watchGap
  split <;> rfl

@[simp] theorem watchGap_retransmitTimer (socket : TerminalSocket) :
    socket.watchGap.retransmitTimer = socket.retransmitTimer := by
  unfold watchGap
  split <;> rfl

theorem requests_flush (socket : TerminalSocket) : socket.flush.requests = socket.requests := by
  unfold flush
  split <;> simp [emitDue, clearGapTimers]

theorem retransmitTimer_flush (h : socket.retransmitTimer = false) :
    socket.flush.retransmitTimer = false := by
  unfold flush
  split <;> simp [emitDue, clearGapTimers, h]

theorem patient_step (socket : TerminalSocket) (input : SocketInput) (h : socket.Patient)
    (hOnce : socket.NoneDueTwice input) : (socket.step input).Patient := by
  have hSettled := settled_step socket input h.settled
  have hLate := (noneLate_step_iff socket input h.settled h.noneLate).mpr hOnce
  cases input with
  | data packet =>
      have hSame : (socket.enqueue packet).requests = socket.requests ∧
          (socket.enqueue packet).retransmitTimer = socket.retransmitTimer ∧
          (socket.enqueue packet).emitted = socket.emitted := by
        unfold enqueue
        split <;> simp
      obtain ⟨hRequests, hTimer, hEmitted⟩ := hSame
      refine ⟨hSettled, hLate, fun hNone => ?_, fun hNone => ?_⟩
      · obtain ⟨hSeq, -, hFlushed⟩ := flush_emitDue (socket.enqueue packet)
        simp only [step, requests_flush, hRequests] at hNone
        rw [step, hSeq, hFlushed]
        apply seqs_emitDue
        rw [hEmitted, enqueue_expectedSeq]
        exact h.seqs hNone
      · simp only [step, requests_flush, hRequests] at hNone
        exact retransmitTimer_flush (hTimer.trans (h.notAsking hNone))
  | gapTimer =>
      simp only [step] at hSettled hLate ⊢
      split at hSettled
      next hTimer =>
        rw [if_pos hTimer] at hLate ⊢
        rcases h.settled.onGapTimer_cases hTimer with hEq | ⟨first, -, hEq⟩
        · rw [hEq] at hSettled hLate ⊢
          exact ⟨hSettled, hLate, h.seqs, h.notAsking⟩
        · rw [hEq] at hSettled hLate ⊢
          exact ⟨hSettled, hLate, fun hNone => by simp at hNone, fun hNone => by simp at hNone⟩
      next hTimer =>
        rwa [if_neg hTimer]
  | retransmitTimer =>
      simp only [step] at hSettled hLate ⊢
      split at hSettled
      next hTimer =>
        rw [if_pos hTimer] at hLate ⊢
        have hAsked : socket.onRetransmitTimer.requests ≠ [] := by
          intro hNone
          have hBefore : socket.onRetransmitTimer.requests = socket.requests := by
            rcases onRetransmitTimer_cases socket with ⟨-, hEq⟩ | ⟨first, rest, -, -, hEq⟩
            · rw [hEq]
            · rw [hEq, requests_flush]
          rw [hBefore] at hNone
          simp [h.notAsking hNone] at hTimer
        exact ⟨hSettled, hLate, fun hNone => absurd hNone hAsked, fun hNone => absurd hNone hAsked⟩
      next hTimer =>
        rwa [if_neg hTimer]
  | close =>
      simp only [step, close] at hSettled hLate ⊢
      split at hSettled
      next hClosed =>
        rwa [if_pos hClosed]
      next hOpen =>
        rw [if_neg hOpen] at hLate ⊢
        exact ⟨hSettled, hLate, h.seqs, fun _ => rfl⟩

theorem patient_new : new.Patient :=
  ⟨settled_new, by simp [NoneLate, new], fun _ => rfl, fun _ => rfl⟩

theorem eq_take_of_seqs {frames : List Bytes} {packets : List Packet} {count : Nat}
    (hStream : packets.Sublist (numbered frames))
    (hSeqs : packets.map Packet.seq = List.range count) :
    packets = (numbered frames).take count := by
  have hLength : packets.length = count := by simpa using congrArg List.length hSeqs
  have hLe := hStream.length_le
  apply List.ext_getElem
  · rw [List.length_take]
    omega
  · intro n hn hTake
    rw [List.getElem_take]
    refine eq_of_mem_numbered (hStream.subset (List.getElem_mem hn)) (List.getElem_mem _) ?_
    have hAt : n < (packets.map Packet.seq).length := by simpa using hn
    have hSeq : (packets.map Packet.seq)[n] = n := by
      simp [hSeqs]
    simpa [numbered] using hSeq

theorem seq_of_drop_numbered {frames : List Bytes} {count : Nat} {next : Packet}
    {rest : List Packet} (h : (numbered frames).drop count = next :: rest) : next.seq = count := by
  have hGet : (numbered frames)[count]? = some next := by
    rw [← List.head?_drop, h, List.head?_cons]
  obtain ⟨hn, rfl⟩ := List.getElem?_eq_some_iff.mp hGet
  simp [numbered]

/-- Up to the first gap that lasts, the socket has emitted the longest beginning of the
stream that has arrived, in whatever order it came. -/
theorem emitted_eq_takeWhile (frames : List Bytes) (inputs : List SocketInput)
    (hNetwork : ∀ packet ∈ arrivals inputs, packet ∈ numbered frames)
    (hOnce : Admissible step NoneDueTwice new inputs)
    (hPatient : (run step new inputs).requests = []) :
    (run step new inputs).emitted =
      (numbered frames).takeWhile fun packet => packet ∈ arrivals inputs := by
  have h : (run step new inputs).Patient := (hOnce.always patient_step patient_new).last
  have hMem : ∀ packet, packet ∈ (run step new inputs).emitted ∨
      packet ∈ (run step new inputs).buffer → packet ∈ arrivals inputs :=
    fun _ => mem_arrivals_of_mem inputs
  have hArrived : ∀ packet, packet ∈ arrivals inputs →
      (packet ∈ (run step new inputs).emitted ∨ packet ∈ (run step new inputs).buffer) ∨
        packet.seq < (run step new inputs).expectedSeq := fun _ => mem_of_mem_arrivals inputs
  have hStream := emitted_sublist hNetwork
  generalize run step new inputs = socket at h hMem hArrived hPatient hStream ⊢
  have hTake := eq_take_of_seqs hStream (h.seqs hPatient)
  have hTaken : ∀ packet ∈ (numbered frames).take socket.expectedSeq,
      decide (packet ∈ arrivals inputs) = true := by
    intro packet hPacket
    rw [← hTake] at hPacket
    exact decide_eq_true (hMem packet (.inl hPacket))
  have hNext : ((numbered frames).drop socket.expectedSeq).takeWhile
      (fun packet => packet ∈ arrivals inputs) = [] := by
    cases hRest : (numbered frames).drop socket.expectedSeq with
    | nil => rfl
    | cons next rest =>
        have hSeq := seq_of_drop_numbered hRest
        rw [List.takeWhile_cons_of_neg]
        intro hNext
        -- the expected frame would have been emitted
        rcases hArrived next (of_decide_eq_true hNext) with (hEmitted | hBuffer) | hPast
        · have hBelow := h.settled.past next hEmitted
          omega
        · have hAhead :=
            forall_lt_of_not_due h.settled.sorted h.settled.notDue h.noneLate next hBuffer
          omega
        · omega
  conv_rhs => rw [← List.take_append_drop socket.expectedSeq (numbered frames)]
  rw [List.takeWhile_append_of_pos hTaken, hNext, List.append_nil, ← hTake]

/-- The first two frames arrive the wrong way round, the last one before its turn. -/
theorem emitted_eq_takeWhile_reordered :
    (run step new [.data ⟨1, [98]⟩, .data ⟨0, [97]⟩, .data ⟨3, [100]⟩]).emitted =
      (numbered [[97], [98], [99], [100]]).takeWhile fun packet =>
        packet ∈ arrivals [.data ⟨1, [98]⟩, .data ⟨0, [97]⟩, .data ⟨3, [100]⟩] :=
  emitted_eq_takeWhile [[97], [98], [99], [100]] _ (by decide)
    ⟨Reorder.single_of_nodup (by decide), Reorder.single_of_nodup (by decide),
      Reorder.single_of_nodup (by decide), trivial⟩ (by decide)

end Prefix

end Mxdx.Core.TerminalSocket
