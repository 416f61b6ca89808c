import Mxdx.Basic
import Mxdx.Foundations.Automaton
import Mathlib.Algebra.Group.Nat.Defs

/-! `BatchedSender` collects chunks and sends them in batches. The loop is a
machine whose inputs are the turns of the loop: whether the batch window ran
out, and what the send function answered if it was called. -/
namespace Mxdx.Worker

/-- How long a batch waits for more. -/
def defaultBatchWindow : Duration := .fromMillis 200

/-- What the sender is made with. -/
structure BatchConfig where
  batchWindow : Duration := defaultBatchWindow
  compressionThreshold : Nat := 32
deriving DecidableEq

/-- The text from the first occurrence of `pattern` on. -/
def find (pattern : List Char) : List Char → Option (List Char)
  | [] => if pattern.isEmpty then some [] else none
  | c :: rest => if pattern.isPrefixOf (c :: rest) then some (c :: rest) else find pattern rest

/-- `str::contains`. -/
def contains (text pattern : String) : Bool :=
  (find pattern.toList text.toList).isSome

/-- `str::parse::<u64>` on a word of ASCII digits. -/
def parseU64 (word : List Char) : Option Nat :=
  if word.isEmpty then none
  else
    let value := word.foldl (fun n c => 10 * n + (c.toNat - '0'.toNat)) 0
    if value < 2 ^ 64 then some value else none

/-- The first positive number after `retry_after_ms`. -/
def parseRetryAfter (errorMsg : String) : Option Nat := do
  let rest ← find "retry_after_ms".toList errorMsg.toList
  ((rest.splitOnP (!·.isDigit)).filterMap parseU64).find? (0 < ·)

/-- Deflate `data` when it is long enough and that makes it shorter. -/
def maybeCompress (deflate : Bytes → Option Bytes) (data : Bytes) (threshold : Nat) :
    Bytes × Bool :=
  if data.length < threshold then (data, false)
  else
    match deflate data with
    | some compressed =>
        if compressed.length < data.length then (compressed, true) else (data, false)
    | none => (data, false)

/-- One call of the send function, with its answer. -/
structure Call where
  payload : Bytes
  seq : Nat
  compressed : Bool
  outcome : Except String Unit

/-- The homeserver has taken the event. -/
def Call.succeeded (call : Call) : Bool := call.outcome.isOk

/-- One turn of the loop. The outcome is read only if the turn sends. -/
structure Turn where
  timedOut : Bool
  outcome : Except String Unit

/-- The variables of `batch_loop`. `queue` is what the channel will still
deliver before it is closed; `calls` and `slept` record what was done. `seq`
counts the calls in a `u64`, which no run exhausts. -/
structure BatchLoop where
  queue : List Bytes
  seq : Nat
  buffer : Bytes
  backoff : Option Duration
  finished : Bool
  calls : List Call
  slept : List Duration

namespace BatchLoop

/-- The loop of a new sender to which `pushed` will be sent before the flush. -/
def new (pushed : List Bytes) : BatchLoop := ⟨pushed, 0, [], none, false, [], []⟩

/-- Sit out the backoff. -/
def rest (loop : BatchLoop) : BatchLoop :=
  { loop with backoff := none, slept := loop.slept ++ loop.backoff.toList }

/-- The next chunk with the chunks after it; nothing on a timeout or when the
channel is closed. The window runs only while the buffer holds something. -/
def receive (loop : BatchLoop) (timedOut : Bool) : Option (Bytes × List Bytes) :=
  if !loop.buffer.isEmpty && timedOut then none
  else
    match loop.queue with
    | [] => none
    | data :: rest => some (data, rest)

/-- How long to back off after an answer. -/
def backoffAfter : Except String Unit → Option Duration
  | .ok () => none
  | .error e =>
      if contains e "429" then some (.fromMillis ((parseRetryAfter e).getD 5000)) else none

section Loop

variable (deflate : Bytes → Option Bytes) (config : BatchConfig)

/-- The event that the buffer makes. -/
def nextCall (loop : BatchLoop) (outcome : Except String Unit) : Call :=
  let (payload, compressed) := maybeCompress deflate loop.buffer config.compressionThreshold
  ⟨payload, loop.seq + 1, compressed, outcome⟩

/-- Send the buffer as one batch; whatever the answer, the buffer is empty
afterwards. -/
def sendBatch (loop : BatchLoop) (outcome : Except String Unit) : BatchLoop :=
  { loop with
    buffer := []
    seq := loop.seq + 1
    backoff := backoffAfter outcome
    calls := loop.calls ++ [loop.nextCall deflate config outcome] }

/-- The code after the loop. -/
def drainRemaining (loop : BatchLoop) (outcome : Except String Unit) : BatchLoop :=
  if loop.buffer.isEmpty then loop
  else
    { loop with
      seq := loop.seq + 1
      calls := loop.calls ++ [loop.nextCall deflate config outcome] }

/-- A chunk is waited for; when none comes the buffer is sent. -/
def step (loop : BatchLoop) (turn : Turn) : BatchLoop :=
  if loop.finished then loop
  else
    match loop.rest.receive turn.timedOut with
    | some (data, queue) => { loop.rest with buffer := loop.buffer ++ data, queue := queue }
    | none =>
        if loop.buffer.isEmpty then
          { loop.rest.drainRemaining deflate config turn.outcome with finished := true }
        else loop.rest.sendBatch deflate config turn.outcome

/-- The turn calls the send function. -/
def sends (loop : BatchLoop) (turn : Turn) : Bool :=
  !loop.finished && !loop.buffer.isEmpty && (turn.timedOut || loop.queue.isEmpty)

/-- A turn that sends nothing moves bytes from the queue to the buffer at most;
the loop ends with both of them empty. -/
theorem step_quiet {loop : BatchLoop} {turn : Turn} (h : loop.sends turn = false) :
    let after := loop.step deflate config turn
    after.calls = loop.calls ∧ after.seq = loop.seq ∧
    after.buffer ++ after.queue.flatten = loop.buffer ++ loop.queue.flatten ∧
    (after.finished = true → after = loop ∨ after.buffer = [] ∧ after.queue = []) := by
  obtain ⟨queue, seq, buffer, backoff, finished, calls, slept⟩ := loop
  simp only [sends] at h
  cases finished with
  | true => simp [step]
  | false =>
      cases queue with
      | nil =>
          have hBuffer : buffer = [] := by simpa using h
          simp [step, rest, receive, hBuffer, drainRemaining]
      | cons data queue =>
          have hNoTimeout : (!buffer.isEmpty && turn.timedOut) = false := by simpa using h
          simp [step, rest, receive, hNoTimeout]

/-- A turn that sends empties the buffer, whatever the answer. -/
theorem step_sends {loop : BatchLoop} {turn : Turn} (h : loop.sends turn = true) :
    loop.buffer ≠ [] ∧
    loop.step deflate config turn = loop.rest.sendBatch deflate config turn.outcome := by
  obtain ⟨queue, seq, buffer, backoff, finished, calls, slept⟩ := loop
  simp only [sends, Bool.and_eq_true, Bool.not_eq_true', List.isEmpty_eq_false_iff,
    Bool.or_eq_true, List.isEmpty_iff] at h
  obtain ⟨⟨hRunning, hBuffer⟩, hNothing⟩ := h
  subst hRunning
  refine ⟨hBuffer, ?_⟩
  have hReceive : (rest ⟨queue, seq, buffer, backoff, false, calls, slept⟩).receive
      turn.timedOut = none := by
    rcases hNothing with hTimeout | hQueue
    · simp [rest, receive, hTimeout, hBuffer]
    · simp [rest, receive, hQueue]
  simp [step, hReceive, hBuffer]

end Loop

end BatchLoop

section Delivery

variable (deflate : Bytes → Option Bytes) (inflate : Bytes → Bytes) (config : BatchConfig)

/-- What the receiver makes of a call. -/
def Call.decompressed (call : Call) : Bytes :=
  if call.compressed then inflate call.payload else call.payload

/-- The bytes that arrived, in order. -/
def delivered (calls : List Call) : Bytes :=
  (calls.filter Call.succeeded).flatMap (Call.decompressed inflate)

/-- Inflating undoes deflating. -/
def Inverts : Prop :=
  ∀ data compressed, deflate data = some compressed → inflate compressed = data

theorem maybeCompress_cases (data : Bytes) (threshold : Nat) :
    maybeCompress deflate data threshold = (data, false) ∨
    ∃ compressed, deflate data = some compressed ∧
      maybeCompress deflate data threshold = (compressed, true) := by
  unfold maybeCompress
  split
  · exact .inl rfl
  · split
    next compressed hDeflate =>
      split
      · exact .inr ⟨compressed, hDeflate, rfl⟩
      · exact .inl rfl
    · exact .inl rfl

variable {deflate inflate}

theorem decompressed_nextCall (hInverts : Inverts deflate inflate) (loop : BatchLoop)
    (outcome : Except String Unit) :
    (loop.nextCall deflate config outcome).decompressed inflate = loop.buffer := by
  simp only [BatchLoop.nextCall, Call.decompressed]
  rcases maybeCompress_cases deflate loop.buffer config.compressionThreshold with
    hPlain | ⟨compressed, hDeflate, hCompressed⟩
  · simp [hPlain]
  · simp [hCompressed, hInverts _ _ hDeflate]

/-- All bytes in flight: arrived, buffered, and not yet received. -/
def content (inflate : Bytes → Bytes) (loop : BatchLoop) : Bytes :=
  delivered inflate loop.calls ++ loop.buffer ++ loop.queue.flatten

/-- If the turn sends, the send is accepted. -/
def Accepted (loop : BatchLoop) (turn : Turn) : Prop :=
  loop.sends turn = true → turn.outcome = .ok ()

theorem delivered_concat (calls : List Call) (call : Call) :
    delivered inflate (calls ++ [call]) =
      delivered inflate calls ++ if call.succeeded then call.decompressed inflate else [] := by
  cases hCall : call.succeeded <;> simp [delivered, List.filter_append, hCall]

theorem content_accepted (hInverts : Inverts deflate inflate) (loop : BatchLoop) (turn : Turn)
    (h : Accepted loop turn) :
    content inflate (loop.step deflate config turn) = content inflate loop := by
  cases hSends : loop.sends turn with
  | false =>
      obtain ⟨hCalls, -, hBytes, -⟩ := BatchLoop.step_quiet deflate config hSends
      rw [content, content, hCalls, List.append_assoc, hBytes, List.append_assoc]
  | true =>
      obtain ⟨-, hStep⟩ := BatchLoop.step_sends deflate config hSends
      have hOk : turn.outcome = .ok () := h hSends
      have hCall : (loop.rest.nextCall deflate config (.ok ())).succeeded = true := rfl
      rw [hStep, hOk, content, content, BatchLoop.sendBatch, delivered_concat, if_pos hCall,
        decompressed_nextCall config hInverts]
      simp [BatchLoop.rest]

theorem content_rejected (loop : BatchLoop) (turn : Turn) (h : ¬ Accepted loop turn) :
    (content inflate (loop.step deflate config turn)).length <
      (content inflate loop).length := by
  obtain ⟨hSends, hFailed⟩ := Classical.not_imp.mp h
  obtain ⟨hBuffer, hStep⟩ := BatchLoop.step_sends deflate config hSends
  have hCall : (loop.rest.nextCall deflate config turn.outcome).succeeded = false := by
    cases hOutcome : turn.outcome with
    | ok done => exact absurd hOutcome hFailed
    | error e => rfl
  have hLength := List.length_pos_of_ne_nil hBuffer
  rw [hStep, content, content, BatchLoop.sendBatch, delivered_concat, hCall]
  simp only [BatchLoop.rest, List.length_append]
  simp
  omega

/-- Between two turns: sequence numbers count the calls, and a loop that has
ended has nothing left. -/
structure Orderly (loop : BatchLoop) : Prop where
  increasing : (loop.calls.map Call.seq).Pairwise (· < ·)
  bounded : ∀ call ∈ loop.calls, call.seq ≤ loop.seq
  drained : loop.finished = true → loop.buffer = [] ∧ loop.queue = []

theorem orderly_new (pushed : List Bytes) : Orderly (.new pushed) :=
  ⟨.nil, nofun, nofun⟩

theorem orderly_step (loop : BatchLoop) (turn : Turn) (h : Orderly loop) :
    Orderly (loop.step deflate config turn) := by
  cases hSends : loop.sends turn with
  | false =>
      obtain ⟨hCalls, hSeq, hBytes, hFinished⟩ := BatchLoop.step_quiet deflate config hSends
      refine ⟨by rw [hCalls]; exact h.increasing, by rw [hCalls, hSeq]; exact h.bounded, ?_⟩
      intro hAfter
      rcases hFinished hAfter with hSame | hEmpty
      · rw [hSame] at hAfter ⊢
        exact h.drained hAfter
      · exact hEmpty
  | true =>
      obtain ⟨-, hStep⟩ := BatchLoop.step_sends deflate config hSends
      have hRunning : loop.finished = false := by
        cases hFinished : loop.finished with
        | false => rfl
        | true => simp [BatchLoop.sends, hFinished] at hSends
      rw [hStep]
      refine ⟨?_, ?_, ?_⟩
      · simp only [BatchLoop.sendBatch, BatchLoop.rest, BatchLoop.nextCall, List.map_append,
          List.map_cons, List.map_nil, List.pairwise_append]
        refine ⟨h.increasing, List.pairwise_singleton _ _, ?_⟩
        intro earlier hEarlier later hLater
        obtain ⟨call, hCall, rfl⟩ := List.mem_map.mp hEarlier
        rw [List.mem_singleton.mp hLater]
        exact Nat.lt_succ_of_le (h.bounded call hCall)
      · intro call hCall
        rcases List.mem_append.mp hCall with hEarlier | hLast
        · exact Nat.le_succ_of_le (h.bounded call hEarlier)
        · rw [List.mem_singleton.mp hLast]
          exact Nat.le_refl _
      · intro hFinished
        change loop.finished = true at hFinished
        rw [hRunning] at hFinished
        cases hFinished

/-- A drained loop has delivered what was pushed, under increasing sequence
numbers, exactly when no send of the run was refused. -/
theorem pushed_delivered_iff (hInverts : Inverts deflate inflate) (pushed : List Bytes)
    (turns : List Turn)
    (hFinished : (Automaton.run (BatchLoop.step deflate config) (.new pushed) turns).finished =
      true) :
    let loop := Automaton.run (BatchLoop.step deflate config) (.new pushed) turns
    (delivered inflate loop.calls = pushed.flatten ∧
      ((loop.calls.filter Call.succeeded).map Call.seq).Pairwise (· < ·)) ↔
    Automaton.Admissible (BatchLoop.step deflate config) Accepted (.new pushed) turns := by
  intro loop
  have hOrderly : Orderly loop :=
    (Automaton.always_of_step (orderly_step config) (orderly_new pushed) turns).last
  have hIncreasing : ((loop.calls.filter Call.succeeded).map Call.seq).Pairwise (· < ·) :=
    hOrderly.increasing.sublist (List.filter_sublist.map Call.seq)
  obtain ⟨hBuffer, hQueue⟩ := hOrderly.drained hFinished
  have hConserved := Automaton.conserved_iff_admissible List.length
    (content_accepted config hInverts) (content_rejected config) (.new pushed) turns
  have hContent : content inflate loop = delivered inflate loop.calls := by
    rw [content, hBuffer, hQueue]
    simp
  have hPushed : content inflate (.new pushed) = pushed.flatten := by
    simp [content, BatchLoop.new, delivered]
  rw [and_iff_left hIncreasing, ← hConserved, ← hContent, ← hPushed]

/-- Two chunks in one accepted batch. -/
theorem accepted_batch_delivered :
    let turns : List Turn := [⟨false, .ok ()⟩, ⟨false, .ok ()⟩, ⟨true, .ok ()⟩, ⟨false, .ok ()⟩]
    delivered id (Automaton.run (BatchLoop.step some {})
      (.new [[1, 2], [3]]) turns).calls = [1, 2, 3] := by
  intro turns
  have hInverts : Inverts some id := fun _ _ hDeflate => (Option.some.inj hDeflate).symm
  have hDelivered := (pushed_delivered_iff {} hInverts [[1, 2], [3]] turns rfl).mpr
    ⟨fun _ => rfl, fun _ => rfl, fun _ => rfl, fun _ => rfl, trivial⟩
  exact hDelivered.1

/-- The rate limit hits the first batch: the loop backs off and goes on without
it, so only the second batch arrives. -/
theorem rate_limited_batch_lost :
    let pushed := [asBytes "rate-limited", asBytes "-more"]
    let turns : List Turn := [⟨false, .ok ()⟩, ⟨true, .error "429 retry_after_ms: 50"⟩,
      ⟨false, .ok ()⟩, ⟨true, .ok ()⟩, ⟨false, .ok ()⟩]
    let loop := Automaton.run (BatchLoop.step some {})
      (.new pushed) turns
    (∀ turn ∈ turns, turn.outcome = .ok () ∨
      ∃ e, turn.outcome = .error e ∧ contains e "429" = true) ∧
    loop.finished = true ∧ loop.calls.getLast?.map Call.succeeded = some true ∧
    loop.slept = [.fromMillis 50] ∧
    delivered id loop.calls = asBytes "-more" ∧ delivered id loop.calls ≠ pushed.flatten := by
  refine ⟨?_, rfl, rfl, by decide, by decide, by decide⟩
  intro turn hTurn
  simp only [List.mem_cons, List.not_mem_nil, or_false] at hTurn
  rcases hTurn with rfl | rfl | rfl | rfl | rfl
  · exact .inl rfl
  · exact .inr ⟨_, rfl, by decide⟩
  · exact .inl rfl
  · exact .inl rfl
  · exact .inl rfl

end Delivery

end Mxdx.Worker
