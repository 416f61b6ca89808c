import Mxdx.Core.BatchedSender

/-! The promises of the public `flush` of a `BatchedSender`. Beside the sender
stand the bytes that have been sent or reported, and for every suspended
activation of `#drain` the call of `flush` that awaits it. A promise is looked
at when the awaited activation returns: what may run before the caller goes on
only adds bytes pushed after the call. -/
namespace Mxdx.Core

namespace BatchedSender

/-- The bytes whose send ends with this input, well or with a report. -/
def settledBy (sender : BatchedSender) : SenderInput → Bytes
  | .answered index result =>
      match sender.drains[index]?, result with
      | some (.sending batch _), .ok () => batch.data
      | some (.sending batch _), .error err => if rateLimited err then [] else batch.data
      | _, _ => []
  | _ => []

/-- The suspended activation that an input goes on with. -/
def woken (sender : BatchedSender) : SenderInput → Option Nat
  | .compressed index _ =>
      match sender.drains[index]? with
      | some (.compressing _) => some index
      | _ => none
  | .answered index _ =>
      match sender.drains[index]? with
      | some (.sending _ _) => some index
      | _ => none
  | .waited index =>
      match sender.drains[index]? with
      | some (.waiting _) => some index
      | _ => none
  | _ => none

/-- The bytes of the queue. -/
def queueBytes (sender : BatchedSender) : Bytes := (sender.queue.map Batch.data).flatten

/-- The bytes that the sender still has are the end of the stream pushed. Here the
queue begins. -/
def queueStart (sender : BatchedSender) : Nat :=
  sender.pushed.flatten.length - sender.pendingBytes.length

/-- The queue holds byte number `n` of the stream. -/
def Queued (sender : BatchedSender) (n : Nat) : Prop :=
  sender.queueStart ≤ n ∧ n < sender.queueStart + sender.queueBytes.length

/-- A queue that has been coalesced is one batch at most. -/
theorem coalesce_cons_tail {queue rest : List Batch} {batch : Batch}
    (h : coalesce queue = batch :: rest) : rest = [] := by
  cases queue with
  | nil => cases h
  | cons first queue =>
      cases queue with
      | nil => exact (List.cons.inj h).2.symm
      | cons second queue => exact (List.cons.inj h).2.symm

/-- A drain with nothing queued ends where it began. -/
theorem drain_of_empty {sender : BatchedSender} (hQueue : sender.queue = []) :
    sender.drain = sender := by
  unfold drain drainLoop
  cases hFlag : sender.sending with
  | true => simp
  | false =>
  cases hGone : sender.destroyed with
  | true => simp
  | false =>
      calc _
        _ = { sender with sending := false } := by simp [hGone, hQueue, coalesce]
        _ = sender := by rw [← hFlag]

/-- The input finds no activation that awaits it. -/
structure Ignores (sender : BatchedSender) (options : SenderOptions) (input : SenderInput) :
    Prop where
  woken : sender.woken input = none
  settled : sender.settledBy input = []
  step : sender.step options input = sender

section Awaited

variable (sender : BatchedSender) (options : SenderOptions) (index : Nat)

theorem compressed_cases (result : Except String Encoded) :
    sender.Ignores options (.compressed index result) ∨
      ∃ batch, sender.drains[index]? = some (.compressing batch) := by
  cases hGet : sender.drains[index]? with
  | none => exact .inl ⟨by simp [woken, hGet], rfl, by simp [step, hGet]⟩
  | some activation =>
  cases activation with
  | compressing batch => exact .inr ⟨batch, rfl⟩
  | sending batch event => exact .inl ⟨by simp [woken, hGet], rfl, by simp [step, hGet]⟩
  | waiting ms => exact .inl ⟨by simp [woken, hGet], rfl, by simp [step, hGet]⟩

theorem answered_cases (result : Except String Unit) :
    sender.Ignores options (.answered index result) ∨
      ∃ batch event, sender.drains[index]? = some (.sending batch event) := by
  cases hGet : sender.drains[index]? with
  | none =>
      exact .inl ⟨by simp [woken, hGet], by simp [settledBy, hGet], by simp [step, hGet]⟩
  | some activation =>
  cases activation with
  | sending batch event => exact .inr ⟨batch, event, rfl⟩
  | compressing batch =>
      exact .inl ⟨by simp [woken, hGet], by simp [settledBy, hGet], by simp [step, hGet]⟩
  | waiting ms =>
      exact .inl ⟨by simp [woken, hGet], by simp [settledBy, hGet], by simp [step, hGet]⟩

theorem waited_cases :
    sender.Ignores options (.waited index) ∧
        (∀ ms, sender.drains[index]? ≠ some (.waiting ms)) ∨
      ∃ ms, sender.drains[index]? = some (.waiting ms) := by
  cases hGet : sender.drains[index]? with
  | none => exact .inl ⟨⟨by simp [woken, hGet], rfl, by simp [step, hGet]⟩, by simp⟩
  | some activation =>
  cases activation with
  | waiting ms => exact .inr ⟨ms, rfl⟩
  | compressing batch =>
      exact .inl ⟨⟨by simp [woken, hGet], rfl, by simp [step, hGet]⟩, by simp⟩
  | sending batch event =>
      exact .inl ⟨⟨by simp [woken, hGet], rfl, by simp [step, hGet]⟩, by simp⟩

end Awaited

end BatchedSender

/-- A call of `flush` whose promise has resolved: the stream pushed before the
call, and what was settled and where the sender was when it resolved. -/
structure Resolution where
  due : Bytes
  settled : Bytes
  sender : BatchedSender
deriving DecidableEq, Repr

/-- Every byte pushed before the call has been sent or reported, and the queue
holds none of them. -/
def Resolution.Kept (flush : Resolution) : Prop :=
  flush.due <+: flush.settled ∧ ∀ n < flush.due.length, ¬ flush.sender.Queued n

/-- `settled` are the bytes sent or reported, in order. The entry of `waiters` for an
activation is the stream pushed before the `flush` that awaits it, if one does. -/
structure FlushPromises where
  sender : BatchedSender
  settled : Bytes
  waiters : List (Option Bytes)
  resolved : List Resolution
deriving DecidableEq, Repr

namespace FlushPromises

open Automaton

/-- No promise has been made. -/
def new (options : SenderOptions) : FlushPromises where
  sender := .new options
  settled := []
  waiters := []
  resolved := []

/-- A promise resolves. -/
def resolve (promises : FlushPromises) (due : Bytes) : FlushPromises :=
  { promises with
    resolved := promises.resolved ++ [⟨due, promises.settled, promises.sender⟩] }

/-- An activation has run on from its suspension. It is suspended again, or it has
thrown, or it has returned to the `flush` that awaits it. -/
def ranOn (promises : FlushPromises) (index : Nat) (suspended thrown : Bool) : FlushPromises :=
  let waiter := promises.waiters[index]?.join
  let rest := { promises with waiters := promises.waiters.eraseIdx index }
  if suspended then { rest with waiters := rest.waiters ++ [waiter] }
  else
    match thrown, waiter with
    | false, some due => rest.resolve due
    | _, _ => rest

/-- The input makes the awaited `#drain` reject. -/
def throws : SenderInput → Bool
  | .compressed _ (.error _) => true
  | _ => false

/-- What a step of the sender settles is written down. -/
def step (options : SenderOptions) (promises : FlushPromises) (input : SenderInput) :
    FlushPromises :=
  let sender := promises.sender.step options input
  let settled := promises.settled ++ promises.sender.settledBy input
  let next : FlushPromises := { promises with sender := sender, settled := settled }
  match promises.sender.woken input with
  | some index =>
      next.ranOn index (promises.sender.drains.length ≤ sender.drains.length) (throws input)
  | none =>
      let due := promises.sender.pushed.flatten
      match input, decide (promises.sender.drains.length < sender.drains.length) with
      | .flush, true => { next with waiters := promises.waiters ++ [some due] }
      | .flush, false => next.resolve due
      | _, true => { next with waiters := promises.waiters ++ [none] }
      | _, false => next

/-- No `flush` is called while a drain is in flight or after `destroy`, unless all
bytes pushed are settled, and no wait of an awaited drain ends on a destroyed
sender, unless all bytes due are settled. -/
def Honours (promises : FlushPromises) : SenderInput → Prop
  | .flush =>
      (promises.sender.sending = false ∧ promises.sender.destroyed = false) ∨
        promises.settled = promises.sender.pushed.flatten
  | .waited index =>
      promises.sender.destroyed = true → ∀ ms due,
        promises.sender.drains[index]? = some (.waiting ms) →
        promises.waiters[index]? = some (some due) → due <+: promises.settled
  | _ => True

/-- What an activation still owes to the `flush` that awaits it. A batch in hand is the
next part of the stream and, once it is settled, all that was due is. -/
def Owes (sender : BatchedSender) (settled : Bytes) (waiter : Option Bytes) : Suspended → Prop
  | .compressing batch | .sending batch _ =>
      settled ++ batch.data <+: sender.pushed.flatten ∧
      (sender.destroyed = false → sender.queue.head? = some batch) ∧
      ∀ due, waiter = some due → due <+: settled ++ batch.data
  | .waiting _ =>
      sender.destroyed = false → sender.queue ≠ [] ∧
        ∀ due, waiter = some due → due <+: settled ++ sender.queueBytes

/-- There is at most one activation. -/
def Activity (sender : BatchedSender) (settled : Bytes) (waiters : List (Option Bytes)) : Prop :=
  (sender.drains = [] ∧ waiters = []) ∨
    ∃ activation waiter, sender.drains = [activation] ∧ waiters = [waiter] ∧
      sender.sending = true ∧ Owes sender settled waiter activation

/-- What holds between two wake-ups, whatever goes wrong. -/
structure Sound (sender : BatchedSender) (settled : Bytes) (waiters : List (Option Bytes)) :
    Prop where
  stream : sender.destroyed = false → settled ++ sender.pendingBytes = sender.pushed.flatten
  emptied : sender.destroyed = true → sender.queue = [] ∧ sender.buffer = []
  past : settled <+: sender.pushed.flatten
  rested : sender.destroyed = false → sender.sending = false → sender.queue = []
  activity : Activity sender settled waiters

variable {options : SenderOptions} {sender : BatchedSender} {settled : Bytes}
  {waiters : List (Option Bytes)}

/-- For a sound sender the queue holds nothing that has been settled. -/
theorem Sound.kept_iff (h : Sound sender settled waiters) (due : Bytes) :
    Resolution.Kept ⟨due, settled, sender⟩ ↔ due <+: settled := by
  refine and_iff_left_of_imp fun hDue n hn hQueued => ?_
  cases hAlive : sender.destroyed with
  | true =>
      have hNone : sender.queueBytes = [] := by simp [BatchedSender.queueBytes, h.emptied hAlive]
      simp only [BatchedSender.Queued, hNone, List.length_nil] at hQueued
      omega
  | false =>
      have hLength := congrArg List.length (h.stream hAlive)
      rw [List.length_append] at hLength
      have hStart := hQueued.1
      simp only [BatchedSender.queueStart] at hStart
      have hDueLength := hDue.length_le
      simp only at hn hDueLength
      omega

theorem sound_new (options : SenderOptions) : Sound (.new options) [] [] where
  stream := fun _ => rfl
  emptied := fun hGone => absurd hGone Bool.false_ne_true
  past := List.nil_prefix
  rested := fun _ _ => rfl
  activity := .inl ⟨rfl, rfl⟩

/-- The invariant does not look at what has been sent and notified. -/
theorem Sound.report (h : Sound sender settled waiters) (buffering : Bool)
    (sent : List Sent) (notices : List Notice) :
    Sound { sender with buffering := buffering, sent := sent, notices := notices } settled
      waiters :=
  ⟨h.stream, h.emptied, h.past, h.rested, h.activity⟩

theorem Sound.setTimer (h : Sound sender settled waiters) (on : Bool) :
    Sound { sender with flushTimer := on } settled waiters :=
  ⟨h.stream, h.emptied, h.past, h.rested, h.activity⟩

/-- The loop of the only activation, from its head to the next suspension or the return. -/
theorem Sound.drainLoop {waiter : Option Bytes} (h : Sound sender settled [])
    (hAlone : sender.drains = []) (hFlag : sender.sending = true)
    (hWaiter : sender.destroyed = false → ∀ due, waiter = some due →
      due <+: settled ++ sender.queueBytes) :
    (sender.drainLoop.drains = [] ∧ Sound sender.drainLoop settled [] ∧
      (sender.destroyed = false → sender.queue = [])) ∨
    sender.destroyed = false ∧ ∃ activation, sender.drainLoop.drains = [activation] ∧
      Sound sender.drainLoop settled [waiter] := by
  cases hAlive : sender.destroyed with
  | true =>
      left
      have hLoop : sender.drainLoop = { sender with sending := false } := by
        simp [BatchedSender.drainLoop, hAlive]
      rw [hLoop]
      exact ⟨hAlone, ⟨h.stream, h.emptied, h.past,
        fun hNot => absurd (hNot.symm.trans hAlive) Bool.false_ne_true, .inl ⟨hAlone, rfl⟩⟩,
        fun hNot => absurd hNot.symm Bool.false_ne_true⟩
  | false =>
      rcases BatchedSender.drainLoop_cases hAlive with
        ⟨hQueue, hLoop⟩ | ⟨batch, rest, hQueue, hLoop⟩
      · left
        rw [hLoop]
        exact ⟨hAlone, ⟨h.stream, h.emptied, h.past, fun _ _ => hQueue, .inl ⟨hAlone, rfl⟩⟩,
          fun _ => hQueue⟩
      · right
        have hData := BatchedSender.flatten_data_coalesce sender.queue
        rw [hQueue] at hData
        obtain rfl : rest = [] := BatchedSender.coalesce_cons_tail hQueue
        have hBytes : sender.queueBytes = batch.data := by
          rw [BatchedSender.queueBytes, ← hData]
          simp
        have hStream := h.stream hAlive
        rw [BatchedSender.pendingBytes] at hStream
        rw [hLoop]
        refine ⟨rfl, .compressing batch, by rw [hAlone]; rfl, ?_, ?_, h.past, ?_, .inr ?_⟩
        · intro _
          rw [← hStream, BatchedSender.pendingBytes]
          rw [hData]
        · intro hGone
          exact absurd (hAlive.symm.trans hGone) Bool.false_ne_true
        · intro _ hRest
          exact absurd (hRest.symm.trans hFlag) Bool.false_ne_true
        · refine ⟨.compressing batch, waiter, by rw [hAlone]; rfl, rfl, hFlag, ?_, fun _ => rfl, ?_⟩
          · rw [← hStream, ← hBytes, ← List.append_assoc]
            exact List.prefix_append _ _
          · intro due hDue
            rw [← hBytes]
            exact hWaiter hAlive due hDue

theorem Owes.cut {waiter : Option Bytes} {activation : Suspended}
    (h : Owes sender settled waiter activation) : Owes sender.cut settled waiter activation := by
  unfold BatchedSender.cut
  split
  · exact h
  · have hHead : ∀ batch, sender.queue.head? = some batch →
        (sender.queue ++ [Batch.mk sender.buffer.flatten sender.seq]).head? = some batch :=
      fun batch hHead => by rw [List.head?_append, hHead]; rfl
    cases activation with
    | compressing batch => exact ⟨h.1, fun hAlive => hHead _ (h.2.1 hAlive), h.2.2⟩
    | sending batch event => exact ⟨h.1, fun hAlive => hHead _ (h.2.1 hAlive), h.2.2⟩
    | waiting ms =>
        intro hAlive
        refine ⟨by simp, fun due hDue => ((h hAlive).2 due hDue).trans ?_⟩
        simp only [BatchedSender.queueBytes, List.map_append, List.flatten_append,
          ← List.append_assoc]
        exact List.prefix_append _ _

/-- A sender that is draining, or will never drain again, cuts its buffer. -/
theorem Sound.cut (h : Sound sender settled waiters) (hFlag : sender.sending = true) :
    Sound sender.cut settled waiters := by
  constructor
  · intro hAlive
    have hStream := h.stream (by simpa using hAlive)
    rw [BatchedSender.cut_pushed, ← hStream]
    unfold BatchedSender.cut BatchedSender.pendingBytes
    split <;> simp
  · intro hGone
    have hEmptied := h.emptied (by simpa using hGone)
    simpa [BatchedSender.cut, hEmptied.2] using hEmptied
  · simpa using h.past
  · intro _ hRest
    simp [hFlag] at hRest
  · rcases h.activity with hNone | ⟨activation, waiter, hDrains, hWaiters, -, hOwes⟩
    · exact .inl (by simpa using hNone)
    · exact .inr ⟨activation, waiter, by simpa using hDrains, hWaiters, by simpa using hFlag,
        hOwes.cut⟩

theorem Sound.idle (h : Sound sender settled waiters) (hFlag : sender.sending = false) :
    sender.drains = [] ∧ waiters = [] := by
  rcases h.activity with hNone | ⟨activation, waiter, -, -, hBusy, -⟩
  · exact hNone
  · exact absurd (hFlag.symm.trans hBusy) Bool.false_ne_true

/-- A drain that starts on a buffer with something in it takes all of the stream. -/
theorem Sound.start {waiter : Option Bytes} (h : Sound sender settled [])
    (hAlive : sender.destroyed = false) (hFlag : sender.sending = false)
    (hBuffer : sender.buffer ≠ [])
    (hWaiter : ∀ due, waiter = some due → due = sender.pushed.flatten) :
    sender.cut.drain.drains.length = 1 ∧ Sound sender.cut.drain settled [waiter] := by
  have hQueue := h.rested hAlive hFlag
  have hStream := h.stream hAlive
  rw [BatchedSender.pendingBytes, hQueue] at hStream
  have hCut : sender.cut = { sender with
      buffer := []
      seq := sender.seq + 1
      queue := [⟨sender.buffer.flatten, sender.seq⟩] } := by
    simp [BatchedSender.cut, hBuffer, hQueue]
  have hDrain : sender.cut.drain = { sender.cut with sending := true }.drainLoop := by
    simp [BatchedSender.drain, hFlag, hAlive]
  have hStarted : Sound { sender.cut with sending := true } settled [] := by
    rw [hCut]
    refine ⟨fun _ => ?_, fun hGone => absurd (hAlive.symm.trans hGone) Bool.false_ne_true,
      h.past, fun _ hRest => absurd hRest.symm Bool.false_ne_true, .inl (h.idle hFlag)⟩
    simpa [BatchedSender.pendingBytes] using hStream
  have hDue : ∀ due, waiter = some due →
      due <+: settled ++ { sender.cut with sending := true }.queueBytes := by
    intro due hDue
    rw [hWaiter due hDue, hCut, ← hStream]
    simp [BatchedSender.queueBytes]
  have hLoop := hStarted.drainLoop (by rw [hCut]; exact (h.idle hFlag).1) rfl fun _ => hDue
  rw [hDrain]
  rcases hLoop with ⟨-, -, hEmpty⟩ | ⟨-, activation, hOne, hSound⟩
  · have hNone := hEmpty (by rw [hCut]; exact hAlive)
    rw [hCut] at hNone
    cases hNone
  · exact ⟨by rw [hOne]; rfl, hSound⟩

/-- Cut the buffer and drain. Either the number of activations stays, and if the sender
was at rest then nothing is left to send, or a drain starts with all of the stream. -/
theorem Sound.cut_drain (h : Sound sender settled waiters) {waiter : Option Bytes}
    (hWaiter : ∀ due, waiter = some due → due = sender.pushed.flatten) :
    (sender.cut.drain.drains.length ≤ sender.drains.length ∧
      Sound sender.cut.drain settled waiters ∧
      (sender.sending = false → sender.destroyed = false → settled = sender.pushed.flatten)) ∨
    (sender.drains.length < sender.cut.drain.drains.length ∧ sender.sending = false ∧
      sender.destroyed = false ∧ Sound sender.cut.drain settled (waiters ++ [waiter])) := by
  cases hAlive : sender.destroyed with
  | true =>
      have hCut : sender.cut = sender := by simp [BatchedSender.cut, h.emptied hAlive]
      rw [hCut, BatchedSender.drain_of_empty (h.emptied hAlive).1]
      exact .inl ⟨Nat.le_refl _, h, fun _ hNot => absurd hNot.symm Bool.false_ne_true⟩
  | false =>
  cases hFlag : sender.sending with
  | true =>
      have hSame : sender.cut.drain = sender.cut := by simp [BatchedSender.drain, hFlag]
      rw [hSame, BatchedSender.cut_drains]
      exact .inl ⟨Nat.le_refl _, h.cut hFlag, fun hRest => absurd hRest.symm Bool.false_ne_true⟩
  | false =>
      obtain ⟨hDrains, rfl⟩ := h.idle hFlag
      by_cases hBuffer : sender.buffer = []
      · have hQueue := h.rested hAlive hFlag
        have hCut : sender.cut = sender := by simp [BatchedSender.cut, hBuffer]
        have hStream := h.stream hAlive
        rw [BatchedSender.pendingBytes, hQueue] at hStream
        rw [hCut, BatchedSender.drain_of_empty hQueue]
        refine .inl ⟨Nat.le_refl _, h, fun _ _ => ?_⟩
        simpa [hBuffer] using hStream
      · obtain ⟨hOne, hSound⟩ := h.start hAlive hFlag hBuffer hWaiter
        exact .inr ⟨by rw [hOne, hDrains]; exact Nat.one_pos, rfl, rfl, hSound⟩

/-- The public `flush` cuts and drains as `drain` itself looks at the flag, and there is
nothing for it to do on an empty queue. -/
theorem flush_eq (sender : BatchedSender) :
    sender.flush = { sender with flushTimer := false }.cut.drain := by
  unfold BatchedSender.flush
  generalize { sender with flushTimer := false }.cut = sender
  by_cases hFlag : sender.sending = true
  · simp [BatchedSender.drain, hFlag]
  rw [Bool.not_eq_true] at hFlag
  by_cases hQueue : sender.queue = []
  · simp [hQueue, BatchedSender.drain_of_empty hQueue]
  · simp [hQueue, hFlag]

theorem Sound.flushBuffer (h : Sound sender settled waiters) :
    (sender.flushBuffer.drains.length ≤ sender.drains.length ∧
      Sound sender.flushBuffer settled waiters) ∨
    (sender.drains.length < sender.flushBuffer.drains.length ∧
      Sound sender.flushBuffer settled (waiters ++ [none])) := by
  unfold BatchedSender.flushBuffer
  split
  · exact .inl ⟨Nat.le_refl _, h.setTimer false⟩
  · have hNobody : ∀ due, (none : Option Bytes) = some due → due = sender.pushed.flatten := by
      simp
    rcases (h.setTimer false).cut_drain hNobody with
      ⟨hLength, hSound, -⟩ | ⟨hLength, -, -, hSound⟩
    · exact .inl ⟨hLength, hSound⟩
    · exact .inr ⟨hLength, hSound⟩

theorem Sound.accept (h : Sound sender settled waiters) (hAlive : sender.destroyed = false)
    (bytes : Bytes) : Sound (sender.accept bytes) settled waiters := by
  have hMore : sender.pushed.flatten <+: (sender.accept bytes).pushed.flatten := by
    simp [BatchedSender.accept]
  refine ⟨fun _ => ?_, fun hGone => absurd (hAlive.symm.trans hGone) Bool.false_ne_true,
    h.past.trans hMore, h.rested, ?_⟩
  · have hStream := h.stream hAlive
    simp only [BatchedSender.pendingBytes, BatchedSender.accept, List.flatten_append] at hStream ⊢
    rw [← hStream]
    simp
  · rcases h.activity with hNone | ⟨activation, waiter, hDrains, hWaiters, hFlag, hOwes⟩
    · exact .inl hNone
    · refine .inr ⟨activation, waiter, hDrains, hWaiters, hFlag, ?_⟩
      cases activation with
      | compressing batch => exact ⟨hOwes.1.trans hMore, hOwes.2⟩
      | sending batch event => exact ⟨hOwes.1.trans hMore, hOwes.2⟩
      | waiting ms => exact hOwes

theorem Sound.push (h : Sound sender settled waiters) (chunk : Chunk) :
    ((sender.push chunk).drains.length ≤ sender.drains.length ∧
      Sound (sender.push chunk) settled waiters) ∨
    (sender.drains.length < (sender.push chunk).drains.length ∧
      Sound (sender.push chunk) settled (waiters ++ [none])) := by
  unfold BatchedSender.push
  cases hAlive : sender.destroyed with
  | true => exact .inl ⟨Nat.le_refl _, h⟩
  | false =>
      rw [if_neg Bool.false_ne_true]
      have hAccepted := h.accept hAlive chunk.encode
      split
      · exact (hAccepted.setTimer false).flushBuffer
      · exact .inl ⟨Nat.le_refl _, hAccepted.setTimer true⟩

/-- What a step does to the promises: those it resolves are kept exactly if it honours
them. -/
def Follows (promises next : FlushPromises) (input : SenderInput) : Prop :=
  Sound next.sender next.settled next.waiters ∧
    ∃ resolved, next.resolved = promises.resolved ++ resolved ∧
      ((∀ flush ∈ resolved, flush.Kept) ↔ promises.Honours input)

variable {promises : FlushPromises} {input : SenderInput}

theorem follows_of_unresolved {next : FlushPromises}
    (hSound : Sound next.sender next.settled next.waiters)
    (hResolved : next.resolved = promises.resolved) (hHonours : promises.Honours input) :
    promises.Follows next input :=
  ⟨hSound, [], by rw [hResolved, List.append_nil], iff_of_true (List.forall_mem_nil _) hHonours⟩

/-- An input that is no `flush` and goes on with no activation may start a drain that
nobody awaits. -/
theorem follows_quiet (hWoken : promises.sender.woken input = none)
    (hSettled : promises.sender.settledBy input = []) (hFlush : input ≠ .flush)
    (hHonours : promises.Honours input)
    (hNext : ((promises.sender.step options input).drains.length ≤ promises.sender.drains.length ∧
        Sound (promises.sender.step options input) promises.settled promises.waiters) ∨
      (promises.sender.drains.length < (promises.sender.step options input).drains.length ∧
        Sound (promises.sender.step options input) promises.settled
          (promises.waiters ++ [none]))) :
    promises.Follows (promises.step options input) input := by
  unfold step
  simp only [hWoken, hSettled, List.append_nil]
  rcases hNext with ⟨hLength, hSound⟩ | ⟨hLength, hSound⟩
  · rw [decide_eq_false (Nat.not_lt.mpr hLength)]
    split
    next hEq => cases hEq
    next => exact absurd rfl hFlush
    next hEq => cases hEq
    next => exact follows_of_unresolved hSound rfl hHonours
  · rw [decide_eq_true hLength]
    split
    next => exact absurd rfl hFlush
    next hEq => cases hEq
    next => exact follows_of_unresolved hSound rfl hHonours
    next hNot => cases hNot

theorem Sound.destroy (h : Sound sender settled waiters) :
    Sound sender.destroy settled waiters := by
  have hNever : ¬ sender.destroy.destroyed = false := fun hAlive => Bool.false_ne_true hAlive.symm
  refine ⟨fun hAlive => absurd hAlive hNever, fun _ => ⟨rfl, rfl⟩, h.past,
    fun hAlive => absurd hAlive hNever, ?_⟩
  rcases h.activity with hNone | ⟨activation, waiter, hDrains, hWaiters, hFlag, hOwes⟩
  · exact .inl hNone
  · refine .inr ⟨activation, waiter, hDrains, hWaiters, hFlag, ?_⟩
    cases activation with
    | compressing batch => exact ⟨hOwes.1, fun hAlive => absurd hAlive hNever, hOwes.2.2⟩
    | sending batch event => exact ⟨hOwes.1, fun hAlive => absurd hAlive hNever, hOwes.2.2⟩
    | waiting ms => exact fun hAlive => absurd hAlive hNever

theorem follows_flush (h : Sound promises.sender promises.settled promises.waiters) :
    promises.Follows (promises.step options .flush) .flush := by
  have hWaiter : ∀ due, some promises.sender.pushed.flatten = some due →
      due = promises.sender.pushed.flatten := fun due hDue => (Option.some.inj hDue).symm
  have hStep : promises.sender.step options .flush =
      { promises.sender with flushTimer := false }.cut.drain := flush_eq promises.sender
  have hPushed : (promises.sender.step options .flush).pushed = promises.sender.pushed := by
    simp [hStep]
  unfold step
  simp only [BatchedSender.woken, BatchedSender.settledBy, List.append_nil]
  rcases (h.setTimer false).cut_drain hWaiter with
    ⟨hLength, hSound, hDone⟩ | ⟨hLength, hFlag, hAlive, hSound⟩
  · rw [← hStep] at hLength hSound
    rw [decide_eq_false (Nat.not_lt.mpr hLength)]
    refine ⟨hSound, _, rfl, ?_⟩
    rw [List.forall_mem_singleton, hSound.kept_iff]
    constructor
    · intro hDue
      exact .inr (h.past.eq_of_length_le hDue.length_le)
    · rintro (⟨hFlag, hAlive⟩ | hSettled)
      · rw [hDone hFlag hAlive]
      · rw [hSettled]
  · rw [← hStep] at hLength hSound
    rw [decide_eq_true hLength]
    exact follows_of_unresolved hSound rfl (.inl ⟨hFlag, hAlive⟩)

/-- The activation that an input goes on with is the only one. -/
theorem Sound.resume {index : Nat} {activation : Suspended}
    (h : Sound sender settled waiters) (hGet : sender.drains[index]? = some activation) :
    index = 0 ∧ sender.drains = [activation] ∧ sender.sending = true ∧
      Sound (sender.resume index) settled [] ∧ (sender.resume index).drains = [] ∧
      ∃ waiter, waiters = [waiter] ∧ Owes sender settled waiter activation := by
  rcases h.activity with ⟨hNone, -⟩ | ⟨only, waiter, hDrains, hWaiters, hFlag, hOwes⟩
  · simp [hNone] at hGet
  · cases index with
    | succ index => simp [hDrains] at hGet
    | zero =>
        obtain rfl : only = activation := by simpa [hDrains] using hGet
        have hAlone : (sender.resume 0).drains = [] := by simp [BatchedSender.resume, hDrains]
        exact ⟨rfl, hDrains, hFlag, ⟨h.stream, h.emptied, h.past, h.rested, .inl ⟨hAlone, rfl⟩⟩,
          hAlone, waiter, hWaiters, hOwes⟩

/-- The promises after the only activation has run on. -/
theorem step_woken {activation : Suspended} {waiter : Option Bytes}
    (hWoken : promises.sender.woken input = some 0)
    (hDrains : promises.sender.drains = [activation]) (hWaiters : promises.waiters = [waiter]) :
    promises.step options input =
      let sender := promises.sender.step options input
      let settled := promises.settled ++ promises.sender.settledBy input
      if sender.drains = [] then
        ⟨sender, settled, [], promises.resolved ++
          (if throws input then [] else waiter.toList.map fun due => ⟨due, settled, sender⟩)⟩
      else ⟨sender, settled, [waiter], promises.resolved⟩ := by
  unfold step ranOn
  simp only [hWoken, hDrains, hWaiters, List.length_singleton]
  cases hNext : (promises.sender.step options input).drains with
  | nil =>
      cases waiter with
      | none => cases throws input <;> simp
      | some due => cases throws input <;> simp [resolve]
  | cons next rest => simp

/-- The only activation has come back to the head of its loop. -/
theorem follows_drainLoop {activation : Suspended} {waiter : Option Bytes} {after : BatchedSender}
    (hWoken : promises.sender.woken input = some 0)
    (hDrains : promises.sender.drains = [activation]) (hWaiters : promises.waiters = [waiter])
    (hThrows : throws input = false)
    (hStep : promises.sender.step options input = after.drainLoop)
    (hSettled : promises.settled ++ promises.sender.settledBy input = settled)
    (h : Sound after settled []) (hAlone : after.drains = []) (hFlag : after.sending = true)
    (hWaiter : after.destroyed = false → ∀ due, waiter = some due →
      due <+: settled ++ after.queueBytes)
    (hHonours : promises.Honours input ↔
      (after.destroyed = true → ∀ due, waiter = some due → due <+: settled)) :
    promises.Follows (promises.step options input) input := by
  rw [step_woken hWoken hDrains hWaiters]
  simp only [hStep, hSettled, hThrows]
  rcases h.drainLoop hAlone hFlag hWaiter with
    ⟨hReturned, hSound, hEmpty⟩ | ⟨hAlive, next, hSuspended, hSound⟩
  · rw [if_pos hReturned]
    refine ⟨hSound, _, rfl, ?_⟩
    rw [hHonours]
    have hKept : (∀ flush ∈ waiter.toList.map fun due =>
          Resolution.mk due settled after.drainLoop, flush.Kept) ↔
        ∀ due, waiter = some due → due <+: settled := by
      simp [hSound.kept_iff]
    refine hKept.trans ⟨fun hAll _ => hAll, fun hAll due hDue => ?_⟩
    cases hAlive : after.destroyed with
    | true => exact hAll hAlive due hDue
    | false =>
        have hPrefix := hWaiter hAlive due hDue
        rwa [BatchedSender.queueBytes, hEmpty hAlive, List.map_nil, List.flatten_nil,
          List.append_nil] at hPrefix
  · rw [if_neg (by simp [hSuspended])]
    exact follows_of_unresolved hSound rfl
      (hHonours.mpr fun hGone => absurd (hAlive.symm.trans hGone) Bool.false_ne_true)

/-- The only activation is suspended again. -/
theorem follows_suspended {activation next : Suspended} {waiter : Option Bytes}
    (hWoken : promises.sender.woken input = some 0)
    (hDrains : promises.sender.drains = [activation]) (hWaiters : promises.waiters = [waiter])
    (hNext : (promises.sender.step options input).drains = [next])
    (hSettled : promises.sender.settledBy input = [])
    (h : Sound (promises.sender.step options input) promises.settled [waiter])
    (hHonours : promises.Honours input) :
    promises.Follows (promises.step options input) input := by
  rw [step_woken hWoken hDrains hWaiters]
  simp only [hSettled, List.append_nil]
  rw [if_neg (by simp [hNext])]
  exact follows_of_unresolved h rfl hHonours

/-- The only activation suspends itself, owing what it owed. -/
theorem Sound.suspend {waiter : Option Bytes} {next : Suspended} (h : Sound sender settled [])
    (hAlone : sender.drains = []) (hFlag : sender.sending = true)
    (hOwes : Owes sender settled waiter next) :
    Sound { sender with drains := sender.drains ++ [next] } settled [waiter] :=
  ⟨h.stream, h.emptied, h.past, h.rested,
    .inr ⟨next, waiter, by rw [hAlone]; rfl, rfl, hFlag, hOwes⟩⟩

/-- The batch in hand is settled. -/
theorem Sound.settle {batch : Batch} (h : Sound sender settled []) (hAlone : sender.drains = [])
    (hFlag : sender.sending = true) (hPast : settled ++ batch.data <+: sender.pushed.flatten)
    (hHead : sender.destroyed = false → sender.queue.head? = some batch) :
    Sound { sender with queue := sender.queue.tail } (settled ++ batch.data) [] := by
  refine ⟨fun hAlive => ?_, fun hGone => ?_, hPast, fun _ hRest => ?_, .inl ⟨hAlone, rfl⟩⟩
  · obtain ⟨rest, hQueue⟩ := List.head?_eq_some_iff.mp (hHead hAlive)
    have hStream := h.stream hAlive
    rw [BatchedSender.pendingBytes, hQueue] at hStream
    rw [← hStream, BatchedSender.pendingBytes, hQueue]
    simp
  · exact ⟨by rw [(h.emptied hGone).1]; rfl, (h.emptied hGone).2⟩
  · exact absurd (hRest.symm.trans hFlag) Bool.false_ne_true

/-- An operation that no activation awaits. -/
theorem follows_ignored (h : Sound promises.sender promises.settled promises.waiters)
    (hFlush : input ≠ .flush) (hHonours : promises.Honours input)
    (hIgnored : promises.sender.Ignores options input) :
    promises.Follows (promises.step options input) input := by
  apply follows_quiet hIgnored.woken hIgnored.settled hFlush hHonours
  rw [hIgnored.step]
  exact .inl ⟨Nat.le_refl _, h⟩

theorem follows_compressed (h : Sound promises.sender promises.settled promises.waiters)
    (index : Nat) (result : Except String Encoded) :
    promises.Follows (promises.step options (.compressed index result))
      (.compressed index result) := by
  rcases promises.sender.compressed_cases options index result with hIgnored | ⟨batch, hGet⟩
  · exact follows_ignored h (by simp) trivial hIgnored
  obtain ⟨rfl, hDrains, hFlag, hResumed, hAlone, waiter, hWaiters, hOwes⟩ := h.resume hGet
  have hWoken : promises.sender.woken (.compressed 0 result) = some 0 := by
    simp [BatchedSender.woken, hGet]
  have hStep : promises.sender.step options (.compressed 0 result) =
      (promises.sender.resume 0).onCompressed options batch result := by
    simp [BatchedSender.step, hGet]
  cases result with
  | error err =>
      rw [step_woken hWoken hDrains hWaiters]
      simp only [hStep, BatchedSender.onCompressed, BatchedSender.settledBy, List.append_nil]
      rw [if_pos hAlone]
      exact follows_of_unresolved hResumed (by simp [throws]) trivial
  | ok encoded =>
      apply follows_suspended hWoken hDrains hWaiters
        (by rw [hStep]; exact congrArg (· ++ _) hAlone) rfl _ trivial
      rw [hStep]
      exact hResumed.suspend hAlone hFlag hOwes

/-- The server asks the only activation to wait: the batch stays in the queue. -/
theorem follows_rateLimited (h : Sound promises.sender promises.settled promises.waiters)
    {batch : Batch} {event : Event} {err : String} (hLimited : rateLimited err = true)
    (hGet : promises.sender.drains[0]? = some (.sending batch event)) :
    promises.Follows (promises.step options (.answered 0 (.error err)))
      (.answered 0 (.error err)) := by
  obtain ⟨-, hDrains, hFlag, hResumed, hAlone, waiter, hWaiters, hOwes⟩ := h.resume hGet
  let after := promises.sender.resume 0
  let notices := after.notices ++ if after.buffering then [] else [.buffering true]
  have hStep : promises.sender.step options (.answered 0 (.error err)) =
      { after with
        buffering := true
        notices := notices
        drains := after.drains ++ [.waiting (parseRetryAfter err)] } := by
    simp [BatchedSender.step, hGet, BatchedSender.onAnswered, hLimited, after, notices]
  have hWaiting : Owes { after with buffering := true, notices := notices }
      promises.settled waiter (.waiting (parseRetryAfter err)) := by
    intro hAlive
    obtain ⟨rest, hQueue⟩ := List.head?_eq_some_iff.mp (hOwes.2.1 hAlive)
    refine ⟨fun hEmpty => ?_, fun due hDue => ?_⟩
    · cases hQueue.symm.trans hEmpty
    · have hBytes : promises.sender.queueBytes =
          batch.data ++ (rest.map Batch.data).flatten := by
        simp [BatchedSender.queueBytes, hQueue]
      show due <+: promises.settled ++ promises.sender.queueBytes
      rw [hBytes, ← List.append_assoc]
      exact (hOwes.2.2 due hDue).trans (List.prefix_append _ _)
  have hWoken : promises.sender.woken (.answered 0 (.error err)) = some 0 := by
    simp [BatchedSender.woken, hGet]
  apply follows_suspended hWoken hDrains hWaiters
    (by rw [hStep]; exact congrArg (· ++ _) hAlone)
    (by simp [BatchedSender.settledBy, hGet, hLimited]) _ trivial
  rw [hStep]
  exact (hResumed.report true after.sent notices).suspend hAlone hFlag hWaiting

theorem follows_answered (h : Sound promises.sender promises.settled promises.waiters)
    (index : Nat) (result : Except String Unit) :
    promises.Follows (promises.step options (.answered index result)) (.answered index result) := by
  rcases promises.sender.answered_cases options index result with hIgnored | ⟨batch, event, hGet⟩
  · exact follows_ignored h (by simp) trivial hIgnored
  obtain ⟨rfl, hDrains, hFlag, hResumed, hAlone, waiter, hWaiters, hOwes⟩ := h.resume hGet
  have hWoken : promises.sender.woken (.answered 0 result) = some 0 := by
    simp [BatchedSender.woken, hGet]
  have hStep : promises.sender.step options (.answered 0 result) =
      (promises.sender.resume 0).onAnswered batch event result := by
    simp [BatchedSender.step, hGet]
  have hSettle := hResumed.settle hAlone hFlag hOwes.1 hOwes.2.1
  have hMore : ∀ due, waiter = some due → ∀ more : Bytes,
      due <+: promises.settled ++ batch.data ++ more :=
    fun due hDue more => (hOwes.2.2 due hDue).trans (List.prefix_append _ _)
  cases result with
  | ok done =>
      exact follows_drainLoop hWoken hDrains hWaiters rfl hStep
        (by simp [BatchedSender.settledBy, hGet]) (hSettle.report false _ _) hAlone hFlag
        (fun _ due hDue => hMore due hDue _) (iff_of_true trivial fun _ => hOwes.2.2)
  | error err =>
      cases hLimited : rateLimited err with
      | true => exact follows_rateLimited h hLimited hGet
      | false =>
          rw [BatchedSender.onAnswered, if_neg (by simp [hLimited])] at hStep
          exact follows_drainLoop hWoken hDrains hWaiters rfl hStep
            (by simp [BatchedSender.settledBy, hGet, hLimited]) (hSettle.report _ _ _) hAlone hFlag
            (fun _ due hDue => hMore due hDue _) (iff_of_true trivial fun _ => hOwes.2.2)

theorem follows_waited (h : Sound promises.sender promises.settled promises.waiters)
    (index : Nat) :
    promises.Follows (promises.step options (.waited index)) (.waited index) := by
  rcases promises.sender.waited_cases options index with ⟨hIgnored, hNot⟩ | ⟨ms, hGet⟩
  · exact follows_ignored h (by simp) (fun _ ms _ hMs => absurd hMs (hNot ms)) hIgnored
  obtain ⟨rfl, hDrains, hFlag, hResumed, hAlone, waiter, hWaiters, hOwes⟩ := h.resume hGet
  have hWoken : promises.sender.woken (.waited 0) = some 0 := by
    simp [BatchedSender.woken, hGet]
  have hStep : promises.sender.step options (.waited 0) =
      { promises.sender.resume 0 with flushTimer := false }.cut.drainLoop := by
    simp [BatchedSender.step, hGet, BatchedSender.onWaited]
  have hOwesCut : Owes { promises.sender.resume 0 with flushTimer := false }.cut
      promises.settled waiter (.waiting ms) := Owes.cut hOwes
  apply follows_drainLoop hWoken hDrains hWaiters rfl hStep (List.append_nil _)
    ((hResumed.setTimer false).cut hFlag) (by simpa using hAlone)
    ((BatchedSender.cut_sending _).trans hFlag)
    fun hAlive => (hOwesCut hAlive).2
  rw [BatchedSender.cut_destroyed]
  constructor
  · rintro hHonours hGone due rfl
    exact hHonours hGone ms due hGet (by rw [hWaiters]; rfl)
  · intro hDue hGone _ due _ hWaiter
    rw [hWaiters] at hWaiter
    exact hDue hGone due (Option.some.inj hWaiter)

/-- What one step does, for every input. -/
theorem follows_step (options : SenderOptions) (promises : FlushPromises) (input : SenderInput)
    (h : Sound promises.sender promises.settled promises.waiters) :
    promises.Follows (promises.step options input) input := by
  cases input with
  | push chunk => exact follows_quiet rfl rfl (by simp) trivial (h.push chunk)
  | timer =>
      have hFlush : SenderInput.timer ≠ .flush := by simp
      apply follows_quiet rfl rfl hFlush trivial
      simp only [BatchedSender.step]
      split
      · exact h.flushBuffer
      · exact .inl ⟨Nat.le_refl _, h⟩
  | flush => exact follows_flush h
  | setBatchMs ms =>
      exact follows_quiet rfl rfl (by simp) trivial
        (.inl ⟨Nat.le_refl _, h.stream, h.emptied, h.past, h.rested, h.activity⟩)
  | compressed index result => exact follows_compressed h index result
  | answered index result => exact follows_answered h index result
  | waited index => exact follows_waited h index
  | destroy => exact follows_quiet rfl rfl (by simp) trivial (.inl ⟨Nat.le_refl _, h.destroy⟩)

@[simp] theorem ranOn_sender (promises : FlushPromises) (index : Nat) (suspended thrown : Bool) :
    (promises.ranOn index suspended thrown).sender = promises.sender := by
  unfold ranOn
  dsimp only
  split
  · rfl
  · split <;> rfl

/-- The promises stand beside the sender and do not change what it does. -/
theorem sender_step (options : SenderOptions) (promises : FlushPromises) (input : SenderInput) :
    (promises.step options input).sender = promises.sender.step options input := by
  unfold step
  split
  · exact ranOn_sender ..
  · dsimp only
    split <;> rfl

section Runs

theorem sender_run (options : SenderOptions) (inputs : List SenderInput) :
    (run (step options) (new options) inputs).sender =
      run (BatchedSender.step options) (.new options) inputs := by
  induction inputs using List.reverseRecOn with
  | nil => rfl
  | append_singleton inputs input ih => rw [run_concat, run_concat, sender_step, ih]

/-- In every run, all promises that resolve are kept, exactly if every step honours
them. -/
theorem kept_iff_honours (options : SenderOptions) (inputs : List SenderInput) :
    (∀ flush ∈ (run (step options) (new options) inputs).resolved, flush.Kept) ↔
      Admissible (step options) Honours (new options) inputs := by
  have hSound : ∀ (promises : FlushPromises) (input : SenderInput),
      Sound promises.sender promises.settled promises.waiters →
      Sound (promises.step options input).sender (promises.step options input).settled
        (promises.step options input).waiters :=
    fun promises input h => (follows_step options promises input h).1
  have hKept : ∀ (promises : FlushPromises) (input : SenderInput),
      Sound promises.sender promises.settled promises.waiters →
      ((∀ flush ∈ (promises.step options input).resolved, flush.Kept) ↔
        (∀ flush ∈ promises.resolved, flush.Kept) ∧ promises.Honours input) := by
    intro promises input h
    obtain ⟨-, resolved, hResolved, hHonours⟩ := follows_step options promises input h
    rw [hResolved, List.forall_mem_append, hHonours]
  calc (∀ flush ∈ (run (step options) (new options) inputs).resolved, flush.Kept)
    _ ↔ Always (step options) (fun promises => ∀ flush ∈ promises.resolved, flush.Kept)
          (new options) inputs := by
        apply Iff.symm
        exact always_iff_last (fun promises input h _ => hSound promises input h)
          (fun promises input h _ hNext => ((hKept promises input h).mp hNext).1)
          (admissible_of_forall fun _ _ => trivial) (sound_new options)
    _ ↔ Admissible (step options) Honours (new options) inputs :=
        always_iff_admissible_under hSound
          (fun promises input h hBefore => (hKept promises input h).trans (and_iff_right hBefore))
          (sound_new options) (List.forall_mem_nil _)

/-- A `flush` while the drain of the first chunk is in flight. -/
def flushInFlight : List SenderInput := [.push (.text "ls"), .timer, .flush]

/-- It resolves at once, and the chunk has not been sent. -/
theorem not_kept_flushInFlight :
    ¬ ∀ (options : SenderOptions) (inputs : List SenderInput),
      ∀ flush ∈ (run (step options) (new options) inputs).resolved, flush.Kept := by
  intro h
  let options : SenderOptions := ⟨"!room", "org.mxdx.terminal.data", none, 200⟩
  have hResolved : (run (step options) (new options) flushInFlight).resolved.map
      (fun flush => (flush.due, flush.settled)) = [(asBytes "ls", [])] := by
    rfl
  have hMem : (asBytes "ls", []) ∈ (run (step options) (new options) flushInFlight).resolved.map
      (fun flush => (flush.due, flush.settled)) := by
    rw [hResolved]
    exact List.mem_singleton_self _
  obtain ⟨flush, hFlush, hEq⟩ := List.mem_map.mp hMem
  have hPrefix := (h options flushInFlight flush hFlush).1
  obtain ⟨hDue, hSettled⟩ := Prod.mk.inj hEq
  rw [hDue, hSettled, List.prefix_nil] at hPrefix
  revert hPrefix
  decide

end Runs

end FlushPromises

end Mxdx.Core
