import Mxdx.Core.BatchedSender

/-! What a `BatchedSender` puts into its events. A turn of the loop of `#drain` takes all
that is queued; what it takes is known before the step from the bytes that were pushed
and not sent, and it is what the event then carries. -/
namespace Mxdx.Core.BatchedSender

open Automaton

section Events

variable (compress : Bytes → Encoded)

/-- The event that an activation sends, now or once its batch is compressed. -/
def outgoing? : Suspended → Option (Bytes × Encoded)
  | .compressing batch => some (batch.data, compress batch.data)
  | .sending batch event => some (batch.data, event.encoded)
  | .waiting _ => none

/-- The events that were sent or are on their way, with the bytes they are made of. -/
def outgoing (sender : BatchedSender) : List (Bytes × Encoded) :=
  sender.sent.map (fun sent => (sent.data, sent.event.encoded)) ++
    sender.drains.filterMap (outgoing? compress)

/-- The bytes that wait in the queue. -/
def queuedBytes (sender : BatchedSender) : Bytes := (sender.queue.map Batch.data).flatten

/-- An answer of `sendEvent` after which the loop goes on at once. -/
def goesOn : Except String Unit → Bool
  | .ok () => true
  | .error err => !rateLimited err

/-- What a call of `#drain` takes of the bytes, if the sender is free to take any. -/
def ifIdle (sender : BatchedSender) (bytes : Bytes) : Bytes :=
  if sender.sending || sender.destroyed then [] else bytes

/-- The bytes that the loop takes in a step, read off the state before it. An idle sender
takes all that was pushed and not sent, and so does one whose wait is over; after an
answer it is what was queued behind the batch, and the buffer waits for its timer. -/
def backlog (sender : BatchedSender) : SenderInput → Bytes
  | .push chunk =>
      if sender.batchMs ≤ 10 then sender.ifIdle (sender.pendingBytes ++ chunk.encode) else []
  | .timer =>
      if sender.flushTimer && !sender.buffer.isEmpty then sender.ifIdle sender.pendingBytes
      else []
  | .flush => sender.ifIdle sender.pendingBytes
  | .answered index result =>
      match sender.drains[index]? with
      | some (.sending _ _) =>
          if goesOn result && !sender.destroyed then (sender.queue.tail.map Batch.data).flatten
          else []
      | _ => []
  | .waited index =>
      match sender.drains[index]? with
      | some (.waiting _) => if sender.destroyed then [] else sender.pendingBytes
      | _ => []
  | _ => []

/-- What the loop takes in the step is not too large for the receivers. -/
def Fits (sender : BatchedSender) (input : SenderInput) : Prop :=
  (sender.backlog input).length ≤ maxDecompressedSize

/-- The sender has taken these bytes, and nothing else is on its way that was not before. -/
structure Took (before : List (Bytes × Encoded)) (next : BatchedSender) (bytes : Bytes) :
    Prop where
  only : ∀ event ∈ outgoing compress next, event ∈ before ∨ event = (bytes, compress bytes)
  all : bytes ≠ [] → (bytes, compress bytes) ∈ outgoing compress next ∧
    ∃ batch ∈ next.queue, batch.data = bytes

end Events

section Turns

variable {compress : Bytes → Encoded} {sender next : BatchedSender}
variable {before : List (Bytes × Encoded)} {bytes : Bytes}

theorem Took.nothing (h : outgoing compress next ⊆ before) : Took compress before next [] :=
  ⟨fun _ hEvent => .inl (h hEvent), fun hBytes => absurd rfl hBytes⟩

theorem Took.same (h : outgoing compress next = before) : Took compress before next [] :=
  .nothing (h ▸ List.Subset.refl _)

/-- A turn of the loop takes all that is queued into one batch. -/
theorem drainLoop_takes_queue (hAlive : sender.destroyed = false) (hQueue : sender.queue ≠ []) :
    ∃ batch, batch.data = sender.queuedBytes ∧ sender.drainLoop =
      { sender with queue := [batch], drains := sender.drains ++ [.compressing batch] } := by
  obtain ⟨hEmpty, -⟩ | ⟨batch, rest, hTaken, hEq⟩ := drainLoop_cases hAlive
  · exact absurd hEmpty hQueue
  · have hRest : rest = [] := by
      cases hCase : sender.queue with
      | nil => exact absurd hCase hQueue
      | cons first others =>
          rw [hCase] at hTaken
          cases others with
          | nil => exact (List.cons.inj hTaken).2.symm
          | cons second others => exact (List.cons.inj hTaken).2.symm
    subst hRest
    have hData := flatten_data_coalesce sender.queue
    rw [hTaken] at hData
    exact ⟨batch, by simpa [queuedBytes] using hData, hEq⟩

theorem took_drainLoop (hAlive : sender.destroyed = false) :
    Took compress (outgoing compress sender) sender.drainLoop sender.queuedBytes := by
  by_cases hQueue : sender.queue = []
  · obtain ⟨-, hEq⟩ | ⟨batch, rest, hTaken, -⟩ := drainLoop_cases hAlive
    · have hBytes : sender.queuedBytes = [] := by simp [queuedBytes, hQueue]
      rw [hBytes, hEq]
      exact .same rfl
    · rw [hQueue] at hTaken
      cases hTaken
  · obtain ⟨batch, hData, hEq⟩ := drainLoop_takes_queue hAlive hQueue
    have hOutgoing : outgoing compress sender.drainLoop =
        outgoing compress sender ++ [(sender.queuedBytes, compress sender.queuedBytes)] := by
      rw [hEq, ← hData]
      simp [outgoing, outgoing?]
    refine ⟨fun event hEvent => ?_, fun _ => ⟨?_, batch, ?_, hData⟩⟩
    · rw [hOutgoing, List.mem_append, List.mem_singleton] at hEvent
      exact hEvent
    · simp [hOutgoing]
    · simp [hEq]

theorem outgoing_cut (sender : BatchedSender) :
    outgoing compress sender.cut = outgoing compress sender := by
  unfold cut
  split <;> rfl

/-- What is cut joins the queue. -/
theorem queuedBytes_cut (sender : BatchedSender) :
    sender.cut.queuedBytes = sender.pendingBytes := by
  unfold cut
  split
  next hBuffer => simp [queuedBytes, pendingBytes, List.isEmpty_iff.mp hBuffer]
  · simp [queuedBytes, pendingBytes]

/-- A call of `#drain` on what was just cut. -/
theorem took_cut_drain (sender : BatchedSender) :
    Took compress (outgoing compress sender) sender.cut.drain
      (sender.ifIdle sender.pendingBytes) := by
  cases hBusy : sender.sending || sender.destroyed with
  | true =>
      have hSame : sender.cut.drain = sender.cut := by
        simp only [drain, cut_sending, cut_destroyed, hBusy, if_true]
      rw [ifIdle, hBusy, hSame, if_pos rfl]
      exact .same (outgoing_cut sender)
  | false =>
      have hAlive : { sender.cut with sending := true }.destroyed = false :=
        (cut_destroyed sender).trans (Bool.or_eq_false_iff.mp hBusy).2
      have hTurn : sender.cut.drain = { sender.cut with sending := true }.drainLoop := by
        simp only [drain, cut_sending, cut_destroyed, hBusy, Bool.false_eq_true, if_false]
      rw [ifIdle, hBusy, hTurn, if_neg Bool.false_ne_true, ← queuedBytes_cut, ← outgoing_cut]
      exact took_drainLoop hAlive

theorem took_flushBuffer (sender : BatchedSender) :
    Took compress (outgoing compress sender) sender.flushBuffer
      (if sender.buffer.isEmpty then [] else sender.ifIdle sender.pendingBytes) := by
  unfold flushBuffer
  split
  · exact .same rfl
  · exact took_cut_drain { sender with flushTimer := false }

theorem outgoing_resume (sender : BatchedSender) (index : Nat) :
    outgoing compress (sender.resume index) ⊆ outgoing compress sender := by
  intro event hEvent
  rcases List.mem_append.mp hEvent with hSent | hDrains
  · exact List.mem_append_left _ hSent
  · have hSublist : (sender.drains.eraseIdx index).Sublist sender.drains :=
      List.eraseIdx_sublist _ _
    exact List.mem_append_right _ ((hSublist.filterMap _).subset hDrains)

/-- What an activation sends is on its way. -/
theorem mem_outgoing {index : Nat} {activation : Suspended} {event : Bytes × Encoded}
    (hGet : sender.drains[index]? = some activation)
    (hEvent : outgoing? compress activation = some event) : event ∈ outgoing compress sender :=
  List.mem_append_right _ (List.mem_filterMap.mpr ⟨_, List.mem_of_getElem? hGet, hEvent⟩)

theorem took_push (sender : BatchedSender) (chunk : Chunk) :
    Took compress (outgoing compress sender) (sender.push chunk)
      (sender.backlog (.push chunk)) := by
  unfold push
  split
  next hDestroyed =>
    have hNothing : sender.backlog (.push chunk) = [] := by simp [backlog, ifIdle, hDestroyed]
    rw [hNothing]
    exact .same rfl
  · split
    next hNow =>
      have hBacklog : sender.backlog (.push chunk) =
          sender.ifIdle (sender.accept chunk.encode).pendingBytes := by
        simp [backlog, hNow, accept, pendingBytes]
      have hTook : Took compress _ _ _ :=
        took_flushBuffer { sender.accept chunk.encode with flushTimer := false }
      rw [if_neg (by simp [accept])] at hTook
      rw [hBacklog]
      exact hTook
    next hLater =>
      have hNothing : sender.backlog (.push chunk) = [] := if_neg hLater
      rw [hNothing]
      exact .same rfl

theorem took_flush (sender : BatchedSender) :
    Took compress (outgoing compress sender) sender.flush (sender.backlog .flush) := by
  have hDrain : Took compress (outgoing compress sender)
      { sender with flushTimer := false }.cut.drain (sender.ifIdle sender.pendingBytes) :=
    took_cut_drain { sender with flushTimer := false }
  have hOutgoing : outgoing compress { sender with flushTimer := false }.cut =
      outgoing compress sender := outgoing_cut _
  have hQueued : { sender with flushTimer := false }.cut.queuedBytes = sender.pendingBytes :=
    queuedBytes_cut _
  simp only [flush]
  split
  · exact hDrain
  next hStays =>
    have hNothing : sender.backlog .flush = [] := by
      rw [backlog, ifIdle]
      split
      · rfl
      next hIdle =>
        have hSending : { sender with flushTimer := false }.cut.sending = false := by
          rw [cut_sending]
          simp only [Bool.or_eq_true, not_or, Bool.not_eq_true] at hIdle
          exact hIdle.1
        rw [hSending] at hStays
        rw [← hQueued, queuedBytes]
        simp at hStays
        simp [hStays]
    rw [hNothing]
    exact .same hOutgoing

theorem took_onAnswered {index : Nat} {batch : Batch} {event : Event}
    (hGet : sender.drains[index]? = some (.sending batch event)) (result : Except String Unit) :
    Took compress (outgoing compress sender)
      ((sender.resume index).onAnswered batch event result)
      (sender.backlog (.answered index result)) := by
  have hOwn : (batch.data, event.encoded) ∈ outgoing compress sender := mem_outgoing hGet rfl
  have hResume : outgoing compress (sender.resume index) ⊆ outgoing compress sender :=
    outgoing_resume sender index
  have hDrainLoop : ∀ other : BatchedSender, outgoing compress other ⊆ outgoing compress sender →
      other.destroyed = sender.destroyed → other.queue = sender.queue.tail →
        Took compress (outgoing compress sender) other.drainLoop
          (if sender.destroyed then [] else (sender.queue.tail.map Batch.data).flatten) := by
    intro other hOther hDestroyed hQueue
    cases hGone : sender.destroyed with
    | true =>
        have hReturns : other.drainLoop = { other with sending := false } := by
          rw [drainLoop, hDestroyed, hGone, if_pos rfl]
        rw [hReturns]
        exact .nothing hOther
    | false =>
        have hTurn : Took compress (outgoing compress other) other.drainLoop other.queuedBytes :=
          took_drainLoop (hDestroyed.trans hGone)
        rw [queuedBytes, hQueue] at hTurn
        exact ⟨fun event hEvent => (hTurn.only event hEvent).imp_left (@hOther event), hTurn.all⟩
  unfold onAnswered
  split
  · have hBacklog : sender.backlog (.answered index (.ok ())) =
        if sender.destroyed then [] else (sender.queue.tail.map Batch.data).flatten := by
      cases hGone : sender.destroyed <;> simp [backlog, hGet, goesOn, hGone]
    rw [hBacklog]
    refine hDrainLoop _ (fun found hFound => ?_) rfl rfl
    rcases List.mem_append.mp hFound with hSent | hDrains
    · simp only [acknowledge, List.map_append, List.mem_append, List.map_cons, List.map_nil,
        List.mem_singleton] at hSent
      rcases hSent with hOld | rfl
      · exact List.mem_append_left _ hOld
      · exact hOwn
    · exact hResume (List.mem_append_right _ hDrains)
  next err =>
    split
    next hLimited =>
      have hNothing : sender.backlog (.answered index (.error err)) = [] := by
        simp [backlog, hGet, goesOn, hLimited]
      rw [hNothing]
      apply Took.nothing
      intro found hFound
      apply hResume
      simpa [outgoing, outgoing?] using hFound
    next hOther =>
      have hBacklog : sender.backlog (.answered index (.error err)) =
          if sender.destroyed then [] else (sender.queue.tail.map Batch.data).flatten := by
        cases hGone : sender.destroyed <;> simp [backlog, hGet, goesOn, hOther, hGone]
      rw [hBacklog]
      exact hDrainLoop _ hResume rfl rfl

theorem took_onWaited {index ms : Nat} (hGet : sender.drains[index]? = some (.waiting ms)) :
    Took compress (outgoing compress sender) (sender.resume index).onWaited
      (sender.backlog (.waited index)) := by
  have hCut : outgoing compress { sender.resume index with flushTimer := false }.cut ⊆
      outgoing compress sender := by
    rw [outgoing_cut]
    exact outgoing_resume sender index
  have hBacklog : sender.backlog (.waited index) =
      if sender.destroyed then [] else sender.pendingBytes := by
    simp [backlog, hGet]
  have hDestroyed : { sender.resume index with flushTimer := false }.cut.destroyed =
      sender.destroyed := cut_destroyed _
  rw [hBacklog, onWaited]
  cases hGone : sender.destroyed with
  | true =>
      rw [drainLoop, hDestroyed, hGone, if_pos rfl]
      exact .nothing hCut
  | false =>
      have hTurn : Took compress _ _ _ := took_drainLoop (hDestroyed.trans hGone)
      rw [queuedBytes_cut] at hTurn
      exact ⟨fun event hEvent => (hTurn.only event hEvent).imp_left (@hCut event), hTurn.all⟩

/-- A step sends nothing but what was on its way before and what the loop takes. -/
theorem took_step (compress : Bytes → Encoded) (options : SenderOptions) (sender : BatchedSender)
    (input : SenderInput) :
    Took compress (outgoing compress sender) (sender.stepWith compress options input)
      (sender.backlog input) := by
  cases input with
  | push chunk => exact took_push sender chunk
  | timer =>
      have hFlush : Took compress (outgoing compress sender) sender.flushBuffer _ :=
        took_flushBuffer sender
      simp only [stepWith, compressedBy, step, backlog]
      cases sender.flushTimer with
      | false => exact .same rfl
      | true =>
          cases hBuffer : sender.buffer.isEmpty <;> simpa [hBuffer] using hFlush
  | flush => exact took_flush sender
  | setBatchMs ms => exact .same rfl
  | compressed index result =>
      simp only [stepWith, compressedBy]
      split
      next batch hGet =>
        have hOwn : (batch.data, compress batch.data) ∈ outgoing compress sender :=
          mem_outgoing hGet rfl
        simp only [step, hGet]
        apply Took.nothing
        intro found hFound
        have hCases : found ∈ outgoing compress (sender.resume index) ∨
            found = (batch.data, compress batch.data) := by
          simpa [outgoing, outgoing?, onCompressed, Event.encoded, or_assoc] using hFound
        rcases hCases with hOld | rfl
        · exact outgoing_resume sender index hOld
        · exact hOwn
      next hOther =>
        have hSame : sender.step options (.compressed index result) = sender := by
          simp only [step]
        rw [hSame]
        exact .same rfl
  | answered index result =>
      simp only [stepWith, compressedBy, step]
      split
      next batch event hGet => exact took_onAnswered hGet result
      next hOther =>
        have hNothing : sender.backlog (.answered index result) = [] := by
          simp only [backlog]
        rw [hNothing]
        exact .same rfl
  | waited index =>
      simp only [stepWith, compressedBy, step]
      split
      next ms hGet => exact took_onWaited hGet
      next hOther =>
        have hNothing : sender.backlog (.waited index) = [] := by
          simp only [backlog]
        rw [hNothing]
        exact .same rfl
  | destroy => exact .same rfl

/-- Every event was made of its bytes by the sender's `compress`. -/
theorem outgoing_run (compress : Bytes → Encoded) (options : SenderOptions)
    (inputs : List SenderInput) {event : Bytes × Encoded}
    (hEvent : event ∈ outgoing compress (run (stepWith compress options) (new options) inputs)) :
    event.2 = compress event.1 := by
  have hStep : ∀ sender input, (∀ event ∈ outgoing compress sender, event.2 = compress event.1) →
      ∀ event ∈ outgoing compress (stepWith compress options sender input),
        event.2 = compress event.1 := by
    intro sender input h event hEvent
    rcases (took_step compress options sender input).only event hEvent with hOld | rfl
    · exact h event hOld
    · rfl
  exact (always_of_step hStep (by simp [outgoing, new]) inputs).last event hEvent

end Turns

section Runs

variable {compress : Bytes → Encoded} {sender : BatchedSender}

theorem ordinary_compressedBy {input : SenderInput} (h : ordinary input = true) :
    ordinary (compressedBy compress sender input) = true := by
  cases input with
  | compressed index result =>
      simp only [compressedBy]
      split
      · rfl
      · exact h
  | push | timer | flush | setBatchMs | answered | waited | destroy => exact h

theorem chunks_compressedBy (input : SenderInput) :
    chunks [compressedBy compress sender input] = chunks [input] := by
  cases input with
  | compressed index result =>
      simp only [compressedBy]
      split <;> rfl
  | push | timer | flush | setBatchMs | answered | waited | destroy => rfl

theorem orderly_stepWith (options : SenderOptions) (h : sender.Orderly) {input : SenderInput}
    (hInput : ordinary input = true) : (sender.stepWith compress options input).Orderly :=
  orderly_step options sender _ h (ordinary_compressedBy hInput)

/-- What holds of an ordinary run. -/
theorem orderly_run (compress : Bytes → Encoded) (options : SenderOptions)
    {inputs : List SenderInput} (hInputs : ∀ input ∈ inputs, ordinary input = true) :
    (run (stepWith compress options) (new options) inputs).Orderly ∧
    (run (stepWith compress options) (new options) inputs).pushed = chunks inputs := by
  induction inputs using List.reverseRecOn with
  | nil => exact ⟨orderly_new options, rfl⟩
  | append_singleton inputs input ih =>
      obtain ⟨hOrderly, hPushed⟩ := ih fun i hi => hInputs i (by simp [hi])
      rw [run_concat]
      constructor
      · exact orderly_stepWith options hOrderly (hInputs input (by simp))
      · rw [stepWith, pushed_step options _ _ hOrderly.alive, chunks_compressedBy, hPushed, chunks,
          chunks, chunks, List.filterMap_append]

/-- What the event of a successful send carries. -/
def payloadBytes (codec : Codec) (sent : Sent) : Bytes := codec.decode sent.event.encoded

theorem payloadBytes_run (codec : Codec) (options : SenderOptions) (inputs : List SenderInput) :
    let sender := run (stepWith codec.compress options) (new options) inputs
    sender.sent.map (payloadBytes codec) = sender.sent.map Sent.data := by
  intro sender
  apply List.map_congr_left
  intro sent hSent
  have hEvent : (sent.data, sent.event.encoded) ∈ outgoing codec.compress sender :=
    List.mem_append_left _ (List.mem_map_of_mem hSent)
  have hMade : sent.event.encoded = codec.compress sent.data :=
    outgoing_run codec.compress options inputs hEvent
  rw [payloadBytes, hMade, codec.decode_compress]

/-- Nothing is lost, duplicated or reordered, whatever the interleaving: the events of the
successful sends carry what was pushed and is neither queued nor in the buffer. -/
theorem pushed_stream_delivered (codec : Codec) (options : SenderOptions)
    (inputs : List SenderInput) (hInputs : ∀ input ∈ inputs, ordinary input = true) :
    let sender := run (stepWith codec.compress options) (new options) inputs
    (sender.sent.map (payloadBytes codec)).flatten ++ (sender.queue.map Batch.data).flatten ++
      sender.buffer.flatten = (chunks inputs).flatten ∧
    sender.inFlight.length ≤ 1 ∧
    (sender.sent.map Sent.seq).Pairwise (· < ·) := by
  intro sender
  obtain ⟨hOrderly, hPushed⟩ := orderly_run codec.compress options hInputs
  refine ⟨?_, ?_, ?_⟩
  · have hStream := hOrderly.accounted.stream
    rw [hPushed, sentBytes, pendingBytes, ← List.append_assoc] at hStream
    rw [payloadBytes_run codec options inputs]
    exact hStream
  · exact Nat.le_trans (List.length_filter_le _ _) hOrderly.length_drains_le
  · exact hOrderly.accounted.increasing.sublist (List.sublist_append_left _ _)

/-- A rate limited batch is sent again together with what came in meanwhile. -/
theorem rate_limited_stream_delivered :
    let codec := Codec.default zeroZlib inverts_zeroZlib
    let options : SenderOptions := ⟨"!room", "org.mxdx.terminal.data", none, 200⟩
    let sender := run (stepWith codec.compress options) (new options)
      [.push (.text "ls"), .timer, .compressed 0 (.ok ⟨"", ""⟩),
       .answered 0 (.error "M_LIMIT_EXCEEDED"), .push (.text " -l"), .waited 0,
       .compressed 0 (.ok ⟨"", ""⟩), .answered 0 (.ok ())]
    sender.sent.map (fun sent => sent.event.payload.data) = ["bHMgLWw="] ∧
    (sender.sent.map (payloadBytes codec)).flatten ++ (sender.queue.map Batch.data).flatten ++
      sender.buffer.flatten = (asBytes "ls" ++ asBytes " -l") ∧
    sender.inFlight.length ≤ 1 ∧ (sender.sent.map Sent.seq).Pairwise (· < ·) := by
  intro codec options sender
  exact ⟨by decide, pushed_stream_delivered codec options _ (by decide)⟩

end Runs

end Mxdx.Core.BatchedSender
