import Mxdx.Foundations.Automaton
import Mxdx.Core.TerminalCodec
import Mathlib.Data.List.Infix

/-! `BatchedSender` of the JavaScript core package. The event loop runs one
callback at a time, so the machine below has one input for everything that can
wake the sender up: a call of one of its methods, its timer, or the end of an
operation that a suspended activation of `#drain` awaits. The callbacks
`onError` and `onBuffering` are taken not to throw. -/
namespace Mxdx.Core

/-- `String.prototype.includes`. -/
def includes (text pattern : String) : Bool :=
  decide (pattern.toList <:+: text.toList)

/-- The characters of the class `\s`. -/
def isSpace (c : Char) : Bool :=
  c.toNat ∈ [9, 10, 11, 12, 13, 32, 0xa0, 0x1680, 0x2028, 0x2029, 0x202f, 0x205f, 0x3000, 0xfeff] ||
    (0x2000 ≤ c.toNat && c.toNat ≤ 0x200a)

/-- `parseInt` on a word of ASCII digits. -/
def parseInt (digits : List Char) : Nat :=
  digits.foldl (fun n c => 10 * n + (c.toNat - '0'.toNat)) 0

/-- The group of `/retry_after_ms["\s:]+(\d+)/` when the match starts here. -/
def retryAfterHere (text : List Char) : Option (List Char) := do
  let rest ← text.dropPrefix? "retry_after_ms".toList
  let separator := fun c => c == '"' || c == ':' || isSpace c
  if (rest.takeWhile separator).isEmpty then none
  let digits := (rest.dropWhile separator).takeWhile Char.isDigit
  if digits.isEmpty then none else some digits

/-- The first match of the expression. -/
def matchRetryAfter : List Char → Option (List Char)
  | [] => none
  | c :: rest => (retryAfterHere (c :: rest)).orElse fun _ => matchRetryAfter rest

/-- A tenth of a second is added to what the homeserver asks for. -/
def parseRetryAfter (errStr : String) : Nat :=
  match matchRetryAfter errStr.toList with
  | some digits => parseInt digits + 100
  | none => 2000

/-- A batch of the queue. -/
structure Batch where
  data : Bytes
  seq : Nat
deriving DecidableEq, Repr

/-- The content of a terminal data event. -/
structure Payload where
  data : String
  encoding : String
  seq : Nat
  sessionId : Option String
deriving DecidableEq, Repr

/-- The arguments of one call of `sendEvent`. -/
structure Event where
  roomId : String
  eventType : String
  payload : Payload
deriving DecidableEq, Repr

/-- The part of the content that `compress` made. -/
def Event.encoded (event : Event) : Encoded := ⟨event.payload.data, event.payload.encoding⟩

/-- A call of `sendEvent` that succeeded, with the bytes compressed for it. -/
structure Sent where
  data : Bytes
  event : Event
deriving DecidableEq, Repr

/-- The number that a sent event carries. -/
def Sent.seq (sent : Sent) : Nat := sent.event.payload.seq

/-- Where an activation of `#drain` is suspended. -/
inductive Suspended where
  | compressing (batch : Batch)
  | sending (batch : Batch) (event : Event)
  | waiting (ms : Nat)
deriving DecidableEq, Repr

/-- What the sender tells its owner. -/
inductive Notice where
  | buffering (on : Bool)
  | error (err : String) (seq : Nat)
deriving DecidableEq, Repr

/-- The constructor's options; `batchMs` is only ever compared with 10. -/
structure SenderOptions where
  roomId : String
  eventType : String := "org.mxdx.terminal.data"
  sessionId : Option String := none
  batchMs : Int := 200

/-- The fields of the class. `flushTimer` and `sending` are its flags, `drains`
are the activations of `#drain` that have not returned. `pushed`, `sent` and
`notices` record what went in and what came out. -/
structure BatchedSender where
  seq : Nat
  buffer : List Bytes
  flushTimer : Bool
  sending : Bool
  queue : List Batch
  batchMs : Int
  destroyed : Bool
  buffering : Bool
  drains : List Suspended
  pushed : List Bytes
  sent : List Sent
  notices : List Notice
deriving DecidableEq, Repr

/-- The argument of `push`. -/
inductive Chunk where
  | text (s : String)
  | bytes (data : Bytes)

/-- Texts count as their bytes. -/
def Chunk.encode : Chunk → Bytes
  | .text s => asBytes s
  | .bytes data => data

/-- What can wake the sender up. An index says which suspended activation the
finished operation belongs to. -/
inductive SenderInput where
  | push (chunk : Chunk)
  | timer
  | flush
  | setBatchMs (ms : Int)
  | compressed (index : Nat) (result : Except String Encoded)
  | answered (index : Nat) (result : Except String Unit)
  | waited (index : Nat)
  | destroy

/-- The errors after which `#drain` waits and tries again. -/
def rateLimited (errStr : String) : Bool :=
  includes errStr "429" || includes errStr "M_LIMIT_EXCEEDED"

namespace BatchedSender

/-- Nothing has been pushed yet. -/
def new (options : SenderOptions) : BatchedSender where
  seq := 0
  buffer := []
  flushTimer := false
  sending := false
  queue := []
  batchMs := options.batchMs
  destroyed := false
  buffering := false
  drains := []
  pushed := []
  sent := []
  notices := []

/-- Make one batch of the buffer, unless it is empty. -/
def cut (sender : BatchedSender) : BatchedSender :=
  if sender.buffer.isEmpty then sender
  else
    { sender with
      buffer := []
      seq := sender.seq + 1
      queue := sender.queue ++ [⟨sender.buffer.flatten, sender.seq⟩] }

/-- Several queued batches become one, under the number of the last of them. -/
def coalesce : List Batch → List Batch
  | first :: second :: rest =>
      let queue := first :: second :: rest
      [⟨(queue.map Batch.data).flatten, ((second :: rest).getLast (by simp)).seq⟩]
  | queue => queue

/-- The head of the loop of `#drain`, up to the next suspension or the return. -/
def drainLoop (sender : BatchedSender) : BatchedSender :=
  if sender.destroyed then { sender with sending := false }
  else
    match coalesce sender.queue with
    | [] => { sender with sending := false }
    | batch :: rest =>
        { sender with
          queue := batch :: rest
          drains := sender.drains ++ [.compressing batch] }

/-- A call of `#drain`. -/
def drain (sender : BatchedSender) : BatchedSender :=
  if sender.sending || sender.destroyed then sender
  else { sender with sending := true }.drainLoop

/-- The private `#flush`. -/
def flushBuffer (sender : BatchedSender) : BatchedSender :=
  if sender.buffer.isEmpty then { sender with flushTimer := false }
  else { sender with flushTimer := false }.cut.drain

/-- Append a chunk to the buffer. -/
def accept (sender : BatchedSender) (bytes : Bytes) : BatchedSender :=
  { sender with buffer := sender.buffer ++ [bytes], pushed := sender.pushed ++ [bytes] }

/-- A window of at most ten milliseconds is no window. -/
def push (sender : BatchedSender) (chunk : Chunk) : BatchedSender :=
  if sender.destroyed then sender
  else if sender.batchMs ≤ 10 then
    { sender.accept chunk.encode with flushTimer := false }.flushBuffer
  else { sender.accept chunk.encode with flushTimer := true }

/-- The public `flush`. -/
def flush (sender : BatchedSender) : BatchedSender :=
  let sender := { sender with flushTimer := false }.cut
  if !sender.queue.isEmpty && !sender.sending then sender.drain else sender

/-- `#drain` after `compress`. A rejection leaves the loop before the `try`, with
the flag set. -/
def onCompressed (options : SenderOptions) (sender : BatchedSender) (batch : Batch)
    (result : Except String Encoded) : BatchedSender :=
  match result with
  | .error _ => sender
  | .ok encoded =>
      let payload := ⟨encoded.encoded, encoded.encoding, batch.seq,
        options.sessionId.filter (· ≠ "")⟩
      { sender with
        drains := sender.drains ++ [.sending batch ⟨options.roomId, options.eventType, payload⟩] }

/-- The head of the queue has been sent. -/
def acknowledge (sender : BatchedSender) (batch : Batch) (event : Event) : BatchedSender :=
  { sender with
    queue := sender.queue.tail
    sent := sender.sent ++ [⟨batch.data, event⟩]
    buffering := false
    notices := sender.notices ++ if sender.buffering then [.buffering false] else [] }

/-- `#drain` after `sendEvent`. -/
def onAnswered (sender : BatchedSender) (batch : Batch) (event : Event)
    (result : Except String Unit) : BatchedSender :=
  match result with
  | .ok () => (sender.acknowledge batch event).drainLoop
  | .error err =>
      if rateLimited err then
        { sender with
          buffering := true
          notices := sender.notices ++ if sender.buffering then [] else [.buffering true]
          drains := sender.drains ++ [.waiting (parseRetryAfter err)] }
      else
        drainLoop { sender with
          queue := sender.queue.tail
          notices := sender.notices ++ [.error err batch.seq] }

/-- `#drain` after the wait. -/
def onWaited (sender : BatchedSender) : BatchedSender :=
  { sender with flushTimer := false }.cut.drainLoop

/-- What has not been sent is dropped. -/
def destroy (sender : BatchedSender) : BatchedSender :=
  { sender with destroyed := true, flushTimer := false, buffer := [], queue := [] }

/-- Take one activation out of the suspended ones, to go on with it. -/
def resume (sender : BatchedSender) (index : Nat) : BatchedSender :=
  { sender with drains := sender.drains.eraseIdx index }

/-- Pushes, timers and answers, in any order. -/
def step (options : SenderOptions) (sender : BatchedSender) : SenderInput → BatchedSender
  | .push chunk => sender.push chunk
  | .timer => if sender.flushTimer then sender.flushBuffer else sender
  | .flush => sender.flush
  | .setBatchMs ms => { sender with batchMs := ms }
  | .compressed index result =>
      match sender.drains[index]? with
      | some (.compressing batch) => (sender.resume index).onCompressed options batch result
      | _ => sender
  | .answered index result =>
      match sender.drains[index]? with
      | some (.sending batch event) => (sender.resume index).onAnswered batch event result
      | _ => sender
  | .waited index =>
      match sender.drains[index]? with
      | some (.waiting _) => (sender.resume index).onWaited
      | _ => sender
  | .destroy => sender.destroy

/-- A compression that ends has done what the option `compress` does. -/
def compressedBy (compress : Bytes → Encoded) (sender : BatchedSender) :
    SenderInput → SenderInput
  | .compressed index result =>
      match sender.drains[index]? with
      | some (.compressing batch) => .compressed index (.ok (compress batch.data))
      | _ => .compressed index result
  | input => input

/-- A wake-up of a sender with that option. -/
def stepWith (compress : Bytes → Encoded) (options : SenderOptions) (sender : BatchedSender)
    (input : SenderInput) : BatchedSender :=
  sender.step options (compressedBy compress sender input)

@[simp] theorem flatten_data_coalesce (queue : List Batch) :
    ((coalesce queue).map Batch.data).flatten = (queue.map Batch.data).flatten := by
  cases queue with
  | nil => rfl
  | cons first rest =>
      cases rest with
      | nil => rfl
      | cons second rest => simp [coalesce]

/-- Coalescing keeps the last number and forgets the others. -/
theorem seq_coalesce_sublist (queue : List Batch) :
    ((coalesce queue).map Batch.seq).Sublist (queue.map Batch.seq) := by
  cases queue with
  | nil => exact .slnil
  | cons first rest =>
      cases rest with
      | nil => exact .refl _
      | cons second rest =>
          apply List.Sublist.cons
          show [_].Sublist _
          rw [List.singleton_sublist]
          exact List.mem_map.mpr ⟨_, List.getLast_mem _, rfl⟩

@[simp] theorem coalesce_eq_nil {queue : List Batch} : coalesce queue = [] ↔ queue = [] := by
  cases queue with
  | nil => simp [coalesce]
  | cons first rest => cases rest <;> simp [coalesce]

/-- What a turn of the loop does to a sender that is not destroyed. -/
theorem drainLoop_cases {sender : BatchedSender} (hAlive : sender.destroyed = false) :
    (sender.queue = [] ∧ sender.drainLoop = { sender with sending := false }) ∨
    ∃ batch rest, coalesce sender.queue = batch :: rest ∧
      sender.drainLoop = { sender with
        queue := batch :: rest
        drains := sender.drains ++ [.compressing batch] } := by
  cases hQueue : coalesce sender.queue with
  | nil => exact .inl ⟨coalesce_eq_nil.mp hQueue, by simp [drainLoop, hAlive, hQueue]⟩
  | cons batch rest => exact .inr ⟨batch, rest, rfl, by simp [drainLoop, hAlive, hQueue]⟩

@[simp] theorem drainLoop_destroyed (sender : BatchedSender) :
    sender.drainLoop.destroyed = sender.destroyed := by
  unfold drainLoop
  split
  · rfl
  · split <;> rfl

@[simp] theorem drainLoop_pushed (sender : BatchedSender) :
    sender.drainLoop.pushed = sender.pushed := by
  unfold drainLoop
  split
  · rfl
  · split <;> rfl

@[simp] theorem drain_pushed (sender : BatchedSender) : sender.drain.pushed = sender.pushed := by
  unfold drain
  split <;> simp

@[simp] theorem cut_destroyed (sender : BatchedSender) :
    sender.cut.destroyed = sender.destroyed := by
  unfold cut
  split <;> rfl

@[simp] theorem cut_pushed (sender : BatchedSender) : sender.cut.pushed = sender.pushed := by
  unfold cut
  split <;> rfl

@[simp] theorem flushBuffer_pushed (sender : BatchedSender) :
    sender.flushBuffer.pushed = sender.pushed := by
  unfold flushBuffer
  split <;> simp

section Accounts

/-- The numbers of the sent events and of the queued batches, in order. -/
def ledger (sender : BatchedSender) : List Nat :=
  sender.sent.map Sent.seq ++ sender.queue.map Batch.seq

/-- Everything that was sent, one event after the other. -/
def sentBytes (sender : BatchedSender) : Bytes := (sender.sent.map Sent.data).flatten

/-- Bytes that were pushed and have not been sent. -/
def pendingBytes (sender : BatchedSender) : Bytes :=
  (sender.queue.map Batch.data).flatten ++ sender.buffer.flatten

/-- The account of the bytes and of the numbers given out for them. -/
structure Accounted (sender : BatchedSender) : Prop where
  stream : sender.sentBytes ++ sender.pendingBytes = sender.pushed.flatten
  increasing : sender.ledger.Pairwise (· < ·)
  bounded : ∀ n ∈ sender.ledger, n < sender.seq

variable {sender : BatchedSender}

theorem Accounted.cut (h : sender.Accounted) : sender.cut.Accounted := by
  unfold BatchedSender.cut
  split
  · exact h
  · constructor
    · have hStream := h.stream
      simp only [sentBytes, pendingBytes] at hStream ⊢
      simpa using hStream
    · simp only [ledger, List.map_append, ← List.append_assoc, List.pairwise_append]
      have hIncreasing := h.increasing
      rw [ledger, List.pairwise_append] at hIncreasing
      refine ⟨hIncreasing, by simp, ?_⟩
      intro n hn m hm
      obtain rfl : m = sender.seq := by simpa using hm
      exact h.bounded n hn
    · intro n hn
      simp only [ledger, List.map_append, ← List.append_assoc] at hn
      rcases List.mem_append.mp hn with hOld | hNew
      · exact Nat.lt_succ_of_lt (h.bounded n hOld)
      · obtain rfl : n = sender.seq := by simpa using hNew
        exact Nat.lt_succ_self _

theorem Accounted.drainLoop (hAlive : sender.destroyed = false) (h : sender.Accounted) :
    sender.drainLoop.Accounted := by
  obtain ⟨-, hEq⟩ | ⟨batch, rest, hQueue, hEq⟩ := drainLoop_cases hAlive
  · rw [hEq]
    exact ⟨h.stream, h.increasing, h.bounded⟩
  · rw [hEq]
    have hData := flatten_data_coalesce sender.queue
    have hSeq : (sender.sent.map Sent.seq ++ (coalesce sender.queue).map Batch.seq).Sublist
        sender.ledger :=
      (List.Sublist.refl _).append (seq_coalesce_sublist sender.queue)
    rw [hQueue] at hData hSeq
    constructor
    · have hStream := h.stream
      simp only [sentBytes, pendingBytes] at hStream ⊢
      rwa [hData]
    · exact h.increasing.sublist hSeq
    · intro n hn
      exact h.bounded n (hSeq.subset hn)

end Accounts

section Activation

/-- A suspended activation still finds the batch it took at the head of the queue. -/
def Holds (queue : List Batch) : Suspended → Prop
  | .compressing batch => queue.head? = some batch
  | .sending batch event => queue.head? = some batch ∧ event.payload.seq = batch.seq
  | .waiting _ => queue ≠ []

/-- The flag `sending` guards the one activation there is. -/
inductive Exclusive (sender : BatchedSender) : Prop where
  | idle (hFlag : sender.sending = false) (hDrains : sender.drains = [])
  | busy (activation : Suspended) (hFlag : sender.sending = true)
      (hDrains : sender.drains = [activation]) (hHolds : Holds sender.queue activation)

variable {sender : BatchedSender}

theorem Holds.append {queue : List Batch} {activation : Suspended} (h : Holds queue activation)
    (more : List Batch) : Holds (queue ++ more) activation := by
  cases queue with
  | nil => cases activation <;> simp [Holds] at h
  | cons batch rest => cases activation <;> simp_all [Holds]

theorem Exclusive.cut (h : sender.Exclusive) : sender.cut.Exclusive := by
  unfold BatchedSender.cut
  split
  · exact h
  · cases h with
    | idle hFlag hDrains => exact .idle hFlag hDrains
    | busy activation hFlag hDrains hHolds =>
        exact .busy activation hFlag hDrains (hHolds.append _)

/-- What holds between two wake-ups as long as nothing goes wrong but rate limits. -/
structure Orderly (sender : BatchedSender) : Prop where
  alive : sender.destroyed = false
  accounted : sender.Accounted
  exclusive : sender.Exclusive

theorem Orderly.cut (h : sender.Orderly) : sender.cut.Orderly :=
  ⟨by simp [h.alive], h.accounted.cut, h.exclusive.cut⟩

theorem Orderly.setTimer (h : sender.Orderly) (on : Bool) :
    { sender with flushTimer := on }.Orderly := by
  refine ⟨h.alive, ⟨h.accounted.stream, h.accounted.increasing, h.accounted.bounded⟩, ?_⟩
  cases h.exclusive with
  | idle hFlag hDrains => exact .idle hFlag hDrains
  | busy activation hFlag hDrains hHolds => exact .busy activation hFlag hDrains hHolds

/-- The sender while its activation runs. -/
structure Resumed (sender : BatchedSender) : Prop where
  alive : sender.destroyed = false
  flag : sender.sending = true
  alone : sender.drains = []
  accounted : sender.Accounted

theorem Resumed.drainLoop (h : sender.Resumed) : sender.drainLoop.Orderly := by
  refine ⟨by simp [h.alive], h.accounted.drainLoop h.alive, ?_⟩
  obtain ⟨-, hEq⟩ | ⟨batch, rest, -, hEq⟩ := drainLoop_cases h.alive
  · rw [hEq]
    exact .idle rfl h.alone
  · rw [hEq]
    exact .busy (.compressing batch) h.flag (by simp [h.alone]) rfl

theorem Orderly.drain (h : sender.Orderly) : sender.drain.Orderly := by
  cases h.exclusive with
  | busy activation hFlag hDrains hHolds =>
      have hSame : sender.drain = sender := by simp [BatchedSender.drain, hFlag]
      rwa [hSame]
  | idle hFlag hDrains =>
      have hTurn : sender.drain = { sender with sending := true }.drainLoop := by
        simp [BatchedSender.drain, hFlag, h.alive]
      rw [hTurn]
      apply Resumed.drainLoop
      exact ⟨h.alive, rfl, hDrains, h.accounted.stream, h.accounted.increasing,
        h.accounted.bounded⟩

theorem Orderly.flushBuffer (h : sender.Orderly) : sender.flushBuffer.Orderly := by
  unfold BatchedSender.flushBuffer
  split
  · exact h.setTimer false
  · exact (h.setTimer false).cut.drain

theorem Orderly.flush (h : sender.Orderly) : sender.flush.Orderly := by
  simp only [BatchedSender.flush]
  split
  · exact (h.setTimer false).cut.drain
  · exact (h.setTimer false).cut

theorem Orderly.accept (h : sender.Orderly) (bytes : Bytes) : (sender.accept bytes).Orderly := by
  refine ⟨h.alive, ⟨?_, h.accounted.increasing, h.accounted.bounded⟩, ?_⟩
  · have hStream := h.accounted.stream
    simp only [sentBytes, pendingBytes, BatchedSender.accept] at hStream ⊢
    simp [← hStream]
  · cases h.exclusive with
    | idle hFlag hDrains => exact .idle hFlag hDrains
    | busy activation hFlag hDrains hHolds => exact .busy activation hFlag hDrains hHolds

theorem Orderly.push (h : sender.Orderly) (chunk : Chunk) : (sender.push chunk).Orderly := by
  have hAlive : ¬ sender.destroyed = true := by simp [h.alive]
  rw [BatchedSender.push, if_neg hAlive]
  split
  · exact ((h.accept _).setTimer false).flushBuffer
  · exact (h.accept _).setTimer true

theorem Orderly.resume (h : sender.Orderly) {index : Nat} {activation : Suspended}
    (hGet : sender.drains[index]? = some activation) :
    (sender.resume index).Resumed ∧ Holds (sender.resume index).queue activation := by
  cases h.exclusive with
  | idle hFlag hDrains => simp [hDrains] at hGet
  | busy only hFlag hDrains hHolds =>
      cases index with
      | zero =>
          obtain rfl : only = activation := by simpa [hDrains] using hGet
          have hAlone : (sender.resume 0).drains = [] := by simp [BatchedSender.resume, hDrains]
          exact ⟨⟨h.alive, hFlag, hAlone, h.accounted.stream, h.accounted.increasing,
            h.accounted.bounded⟩, hHolds⟩
      | succ index => simp [hDrains] at hGet

/-- The activation comes to its next `await`. -/
theorem Resumed.suspend (h : sender.Resumed) {activation : Suspended}
    (hHolds : Holds sender.queue activation) :
    { sender with drains := sender.drains ++ [activation] }.Orderly := by
  refine ⟨h.alive, ⟨h.accounted.stream, h.accounted.increasing, h.accounted.bounded⟩, ?_⟩
  have hDrains : sender.drains ++ [activation] = [activation] := by simp [h.alone]
  exact .busy activation h.flag hDrains hHolds

theorem Resumed.onCompressed (h : sender.Resumed) (options : SenderOptions) {batch : Batch}
    (hHolds : Holds sender.queue (.compressing batch)) (encoded : Encoded) :
    (sender.onCompressed options batch (.ok encoded)).Orderly :=
  h.suspend ⟨hHolds, rfl⟩

/-- An answered batch moves from the head of the queue to the end of the log. -/
theorem ledger_acknowledge {batch : Batch} {event : Event}
    (hHolds : Holds sender.queue (.sending batch event)) :
    (sender.acknowledge batch event).ledger = sender.ledger := by
  obtain ⟨hHead, hSeq⟩ := hHolds
  obtain ⟨rest, hQueue⟩ := List.head?_eq_some_iff.mp hHead
  simp [ledger, BatchedSender.acknowledge, hQueue, Sent.seq, hSeq]

theorem Resumed.acknowledge (h : sender.Resumed) {batch : Batch} {event : Event}
    (hHolds : Holds sender.queue (.sending batch event)) :
    (sender.acknowledge batch event).Resumed := by
  have hLedger := ledger_acknowledge hHolds
  obtain ⟨rest, hQueue⟩ := List.head?_eq_some_iff.mp hHolds.1
  refine ⟨h.alive, h.flag, h.alone, ?_, ?_, ?_⟩
  · have hStream := h.accounted.stream
    simp only [sentBytes, pendingBytes, BatchedSender.acknowledge] at hStream ⊢
    simpa [hQueue] using hStream
  · rw [hLedger]
    exact h.accounted.increasing
  · rw [hLedger]
    exact h.accounted.bounded

theorem Resumed.onAnswered_rateLimited (h : sender.Resumed) {batch : Batch} {event : Event}
    (hHolds : Holds sender.queue (.sending batch event)) {err : String}
    (hErr : rateLimited err = true) :
    (sender.onAnswered batch event (.error err)).Orderly := by
  simp only [BatchedSender.onAnswered, hErr, if_true]
  have hResumed : Resumed { sender with
      buffering := true
      notices := sender.notices ++ if sender.buffering then [] else [.buffering true] } :=
    ⟨h.alive, h.flag, h.alone, h.accounted.stream, h.accounted.increasing, h.accounted.bounded⟩
  apply hResumed.suspend
  intro hEmpty
  change sender.queue = [] at hEmpty
  simp [Holds, hEmpty] at hHolds

@[simp] theorem cut_sending (sender : BatchedSender) : sender.cut.sending = sender.sending := by
  unfold BatchedSender.cut
  split <;> rfl

@[simp] theorem cut_drains (sender : BatchedSender) : sender.cut.drains = sender.drains := by
  unfold BatchedSender.cut
  split <;> rfl

theorem Resumed.onWaited (h : sender.Resumed) : sender.onWaited.Orderly := by
  have hAccounted : { sender with flushTimer := false }.Accounted :=
    ⟨h.accounted.stream, h.accounted.increasing, h.accounted.bounded⟩
  apply Resumed.drainLoop
  exact ⟨by simp [h.alive], by simp [h.flag], by simp [h.alone], hAccounted.cut⟩

end Activation

section Runs

variable {sender : BatchedSender}

/-- Everything but `destroy`, a failed compression, and a send that fails for
another reason than the rate limit. -/
def ordinary : SenderInput → Bool
  | .compressed _ result => result.isOk
  | .answered _ (.error err) => rateLimited err
  | .destroy => false
  | _ => true

/-- The chunks that a run pushes. -/
def chunks (inputs : List SenderInput) : List Bytes :=
  inputs.filterMap fun
    | .push chunk => some chunk.encode
    | _ => none

theorem orderly_new (options : SenderOptions) : (new options).Orderly :=
  ⟨rfl, ⟨rfl, .nil, nofun⟩, .idle rfl rfl⟩

theorem orderly_step (options : SenderOptions) (sender : BatchedSender) (input : SenderInput)
    (h : sender.Orderly) (hInput : ordinary input = true) : (sender.step options input).Orderly := by
  cases input with
  | push chunk => exact h.push chunk
  | timer =>
      simp only [step]
      split
      · exact h.flushBuffer
      · exact h
  | flush => exact h.flush
  | setBatchMs ms =>
      refine ⟨h.alive, ⟨h.accounted.stream, h.accounted.increasing, h.accounted.bounded⟩, ?_⟩
      cases h.exclusive with
      | idle hFlag hDrains => exact .idle hFlag hDrains
      | busy activation hFlag hDrains hHolds => exact .busy activation hFlag hDrains hHolds
  | compressed index result =>
      cases result with
      | error err => simp [ordinary, Except.isOk, Except.toBool] at hInput
      | ok encoded =>
          simp only [step]
          split
          next batch hGet =>
            obtain ⟨hResumed, hHolds⟩ := h.resume hGet
            exact hResumed.onCompressed options hHolds encoded
          · exact h
  | answered index result =>
      simp only [step]
      split
      next batch event hGet =>
        obtain ⟨hResumed, hHolds⟩ := h.resume hGet
        cases result with
        | ok done => exact (hResumed.acknowledge hHolds).drainLoop
        | error err => exact hResumed.onAnswered_rateLimited hHolds hInput
      · exact h
  | waited index =>
      simp only [step]
      split
      next ms hGet => exact (h.resume hGet).1.onWaited
      · exact h
  | destroy => simp [ordinary] at hInput

theorem pushed_step (options : SenderOptions) (sender : BatchedSender) (input : SenderInput)
    (hAlive : sender.destroyed = false) :
    (sender.step options input).pushed = sender.pushed ++ chunks [input] := by
  cases input with
  | push chunk =>
      simp only [step, push, hAlive, Bool.false_eq_true, if_false]
      split <;> simp [chunks, accept]
  | timer =>
      simp only [step]
      split <;> simp [chunks]
  | flush =>
      simp only [step, flush]
      split <;> simp [chunks]
  | setBatchMs ms => simp [step, chunks]
  | compressed index result =>
      simp only [step]
      split
      · cases result <;> simp [onCompressed, resume, chunks]
      · simp [chunks]
  | answered index result =>
      simp only [step]
      split
      · cases result with
        | ok done => simp [onAnswered, acknowledge, resume, chunks]
        | error err =>
            simp only [onAnswered]
            split <;> simp [resume, chunks]
      · simp [chunks]
  | waited index =>
      simp only [step]
      split <;> simp [onWaited, resume, chunks]
  | destroy => simp [step, destroy, chunks]

theorem Orderly.length_drains_le (h : sender.Orderly) : sender.drains.length ≤ 1 := by
  cases h.exclusive with
  | idle hFlag hDrains => simp [hDrains]
  | busy activation hFlag hDrains hHolds => simp [hDrains]

/-- The calls of `sendEvent` that have not been answered. -/
def inFlight (sender : BatchedSender) : List Suspended :=
  sender.drains.filter fun
    | .sending _ _ => true
    | _ => false

end Runs

end BatchedSender

end Mxdx.Core
