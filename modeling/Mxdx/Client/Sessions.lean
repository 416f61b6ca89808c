import Mathlib.Data.List.AList
import Mxdx.Foundations.Budget

/-! The sessions that the daemon streams output for. The output of each is kept in a
buffer of 64 KB for those who attach later; the oldest lines go first, and a line that
is larger than the buffer is not kept at all. -/
namespace Mxdx.Client.Daemon

open Budget

/-- What is kept of one session at most, in bytes. -/
def defaultBufferSize : Nat := 65536

/-- `outputTx` holds the lines that were sent on the channel. -/
structure TrackedSession where
  outputBuffer : List String
  bufferBytes : Nat
  maxBufferBytes : Nat
  outputTx : List String
  workerRoom : String
  completed : Bool
deriving DecidableEq

/-- The sessions by their ids. -/
structure SessionTracker where
  sessions : AList fun _ : String => TrackedSession

/-- The calls that change the tracker. -/
inductive TrackerCall where
  | track (uuid workerRoom : String)
  | pushOutput (uuid line : String)
  | complete (uuid : String)
  | remove (uuid : String)

/-- The session that a call is about. -/
def TrackerCall.uuid : TrackerCall → String
  | track uuid _ | pushOutput uuid _ | complete uuid | remove uuid => uuid

/-- The `while` loop of `push_output` over the buffer and its bytes; a subtraction below
zero panics. -/
def popFront (maxBufferBytes lineLen : Nat) : Nat → List String → Option (Nat × List String)
  | bufferBytes, [] => some (bufferBytes, [])
  | bufferBytes, old :: rest =>
      if maxBufferBytes < bufferBytes + lineLen then
        if old.utf8ByteSize ≤ bufferBytes then
          popFront maxBufferBytes lineLen (bufferBytes - old.utf8ByteSize) rest
        else none
      else some (bufferBytes, old :: rest)

namespace TrackedSession

/-- A session with an empty buffer. -/
def new (workerRoom : String) : TrackedSession := ⟨[], 0, defaultBufferSize, [], workerRoom, false⟩

/-- A line that is larger than the buffer is passed over. -/
def pushOutput (session : TrackedSession) (line : String) : Option TrackedSession :=
  let lineLen := line.utf8ByteSize
  if session.maxBufferBytes < lineLen then some session
  else do
    let (bufferBytes, outputBuffer) ←
      popFront session.maxBufferBytes lineLen session.bufferBytes session.outputBuffer
    return { session with
      outputBuffer := outputBuffer ++ [line]
      bufferBytes := bufferBytes + lineLen
      outputTx := session.outputTx ++ [line] }

end TrackedSession

namespace SessionTracker

/-- No sessions yet. -/
def new : SessionTracker := ⟨∅⟩

/-- To track a session again is to begin anew. -/
def track (tracker : SessionTracker) (uuid workerRoom : String) : SessionTracker where
  sessions := tracker.sessions.insert uuid (.new workerRoom)

/-- Output of a session that is not tracked is passed over. -/
def pushOutput (tracker : SessionTracker) (uuid line : String) : Option SessionTracker :=
  match tracker.sessions.lookup uuid with
  | some session =>
      (session.pushOutput line).map fun session => ⟨tracker.sessions.insert uuid session⟩
  | none => some tracker

/-- A session that has ended stays until it is removed. -/
def complete (tracker : SessionTracker) (uuid : String) : SessionTracker :=
  match tracker.sessions.lookup uuid with
  | some session => ⟨tracker.sessions.insert uuid { session with completed := true }⟩
  | none => tracker

/-- The output goes with the session. -/
def remove (tracker : SessionTracker) (uuid : String) : SessionTracker where
  sessions := tracker.sessions.erase uuid

/-- A session that is not tracked has no output. -/
def bufferedOutput (tracker : SessionTracker) (uuid : String) : List String :=
  ((tracker.sessions.lookup uuid).map TrackedSession.outputBuffer).getD []

/-- One call; nothing where it panics. -/
def step (tracker : SessionTracker) : TrackerCall → Option SessionTracker
  | .track uuid workerRoom => some (tracker.track uuid workerRoom)
  | .pushOutput uuid line => tracker.pushOutput uuid line
  | .complete uuid => some (tracker.complete uuid)
  | .remove uuid => some (tracker.remove uuid)

/-- `none` as soon as one of the calls panics. -/
def run (tracker : SessionTracker) (calls : List TrackerCall) : Option SessionTracker :=
  calls.foldlM step tracker

end SessionTracker

section History

variable (uuid : String)

/-- What a call does to the lines that were pushed since the session was last tracked;
there are none while it is not. -/
def pushedNext (pushed : Option (List String)) : TrackerCall → Option (List String)
  | .track other _ => if other = uuid then some [] else pushed
  | .pushOutput other line => if other = uuid then pushed.map (· ++ [line]) else pushed
  | .complete _ => pushed
  | .remove other => if other = uuid then none else pushed

/-- The lines that were pushed since the session was tracked for the last time. -/
def pushedSince (calls : List TrackerCall) : Option (List String) :=
  calls.foldl (pushedNext uuid) none

/-- The lines that are not larger than the whole buffer. -/
def keepable (lines : List String) : List String :=
  lines.filter (·.utf8ByteSize ≤ defaultBufferSize)

end History

/-- The count of bytes is right and within the limit, and of the lines the buffer has the
longest suffix that the limit has room for. -/
structure Buffered (session : TrackedSession) (lines : List String) : Prop where
  limit : session.maxBufferBytes = defaultBufferSize
  counted : session.bufferBytes = (session.outputBuffer.map String.utf8ByteSize).sum
  bounded : session.bufferBytes ≤ defaultBufferSize
  longest : Longest String.utf8ByteSize defaultBufferSize (keepable lines) session.outputBuffer

/-- A session is there while it is tracked, with its lines. -/
def Follows (session : Option TrackedSession) (pushed : Option (List String)) : Prop :=
  match session, pushed with
  | some session, some lines => Buffered session lines
  | none, none => True
  | _, _ => False

section Buffer

variable {session : TrackedSession} {lines queue : List String}

/-- With the right count the loop never subtracts too much, and gives up what it has to. -/
theorem popFront_weight (maxBufferBytes lineLen : Nat) :
    popFront maxBufferBytes lineLen (weight String.utf8ByteSize queue) queue =
      some (weight String.utf8ByteSize
          (makeRoom String.utf8ByteSize maxBufferBytes lineLen queue),
        makeRoom String.utf8ByteSize maxBufferBytes lineLen queue) := by
  induction queue with
  | nil => rfl
  | cons old rest ih =>
      rw [popFront, makeRoom]
      by_cases hFits : weight String.utf8ByteSize (old :: rest) + lineLen ≤ maxBufferBytes
      · rw [if_neg (Nat.not_lt.mpr hFits), if_pos hFits]
      · have hOld : old.utf8ByteSize ≤ weight String.utf8ByteSize (old :: rest) := by
          rw [weight_cons]
          exact Nat.le_add_right ..
        rw [if_pos (Nat.lt_of_not_le hFits), if_pos hOld, if_neg hFits, weight_cons,
          Nat.add_sub_cancel_left]
        exact ih

theorem buffered_new (workerRoom : String) : Buffered (.new workerRoom) [] :=
  ⟨rfl, rfl, Nat.zero_le _, Longest.nil⟩

theorem Buffered.complete (h : Buffered session lines) :
    Buffered { session with completed := true } lines :=
  ⟨h.limit, h.counted, h.bounded, h.longest⟩

theorem keepable_concat (lines : List String) (line : String) :
    keepable (lines ++ [line]) =
      keepable lines ++ if line.utf8ByteSize ≤ defaultBufferSize then [line] else [] := by
  rw [keepable, List.filter_append, keepable]
  simp only [List.filter_cons, List.filter_nil, decide_eq_true_eq]

theorem Buffered.pushOutput (h : Buffered session lines) (line : String) :
    ∃ next, session.pushOutput line = some next ∧ Buffered next (lines ++ [line]) := by
  rw [TrackedSession.pushOutput]
  dsimp only
  rw [h.limit]
  by_cases hLine : line.utf8ByteSize ≤ defaultBufferSize
  · have hCount : session.bufferBytes = weight String.utf8ByteSize session.outputBuffer := h.counted
    rw [if_neg (Nat.not_lt.mpr hLine), hCount, popFront_weight]
    have hLongest := h.longest.push hLine
    refine ⟨_, rfl, ⟨rfl, ?_, ?_, ?_⟩⟩
    · simp [weight]
    · have hFits := hLongest.fits
      rwa [weight_append, weight_cons, weight_nil, Nat.add_zero] at hFits
    · rwa [keepable_concat, if_pos hLine]
  · refine ⟨session, if_pos (Nat.lt_of_not_le hLine), ⟨h.limit, h.counted, h.bounded, ?_⟩⟩
    rw [keepable_concat, if_neg hLine, List.append_nil]
    exact h.longest

end Buffer

namespace SessionTracker

variable {tracker : SessionTracker} {call : TrackerCall} {uuid : String}

/-- A call on one session leaves the others as they are. -/
theorem lookup_step_ne {next : SessionTracker} (hStep : tracker.step call = some next)
    (hOther : uuid ≠ call.uuid) : next.sessions.lookup uuid = tracker.sessions.lookup uuid := by
  cases call with
  | track other workerRoom =>
      cases hStep
      exact AList.lookup_insert_ne hOther
  | pushOutput other line =>
      unfold step pushOutput at hStep
      dsimp only at hStep
      split at hStep
      · obtain ⟨session, -, rfl⟩ := Option.map_eq_some_iff.mp hStep
        exact AList.lookup_insert_ne hOther
      · cases hStep
        rfl
  | complete other =>
      cases hStep
      unfold complete
      split
      · exact AList.lookup_insert_ne hOther
      · rfl
  | remove other =>
      cases hStep
      exact AList.lookup_erase_ne hOther

theorem pushedNext_ne {pushed : Option (List String)} (hOther : uuid ≠ call.uuid) :
    pushedNext uuid pushed call = pushed := by
  cases call with
  | track other | pushOutput other | remove other => exact if_neg fun h => hOther h.symm
  | complete => rfl

/-- No call on a session panics, and the session keeps up with its lines. -/
theorem follows_step_self {pushed : Option (List String)}
    (h : Follows (tracker.sessions.lookup call.uuid) pushed) :
    ∃ next, tracker.step call = some next ∧
      Follows (next.sessions.lookup call.uuid) (pushedNext call.uuid pushed call) := by
  cases call with
  | track uuid workerRoom =>
      refine ⟨_, rfl, ?_⟩
      rw [track, TrackerCall.uuid, AList.lookup_insert, pushedNext, if_pos rfl]
      exact buffered_new workerRoom
  | pushOutput uuid line =>
      simp only [step, pushOutput, pushedNext, TrackerCall.uuid, if_pos] at h ⊢
      cases hSession : tracker.sessions.lookup uuid with
      | none =>
          rw [hSession] at h
          cases pushed with
          | none => exact ⟨tracker, rfl, by rw [hSession]; exact h⟩
          | some lines => exact h.elim
      | some session =>
          rw [hSession] at h
          cases pushed with
          | none => exact h.elim
          | some lines =>
              obtain ⟨next, hNext, hBuffered⟩ := Buffered.pushOutput h line
              refine ⟨⟨tracker.sessions.insert uuid next⟩, by simp [hNext], ?_⟩
              rw [AList.lookup_insert]
              exact hBuffered
  | complete uuid =>
      refine ⟨_, rfl, ?_⟩
      simp only [complete, pushedNext, TrackerCall.uuid] at h ⊢
      cases hSession : tracker.sessions.lookup uuid with
      | none =>
          dsimp only
          rw [hSession] at h ⊢
          exact h
      | some session =>
          rw [hSession] at h
          dsimp only
          rw [AList.lookup_insert]
          cases pushed with
          | none => exact h
          | some lines => exact Buffered.complete h
  | remove uuid =>
      refine ⟨_, rfl, ?_⟩
      rw [remove, TrackerCall.uuid, AList.lookup_erase, pushedNext, if_pos rfl]
      trivial

theorem follows_step {pushed : String → Option (List String)}
    (h : ∀ uuid, Follows (tracker.sessions.lookup uuid) (pushed uuid)) (call : TrackerCall) :
    ∃ next, tracker.step call = some next ∧
      ∀ uuid, Follows (next.sessions.lookup uuid) (pushedNext uuid (pushed uuid) call) := by
  obtain ⟨next, hNext, hSelf⟩ := follows_step_self (h call.uuid)
  refine ⟨next, hNext, fun uuid => ?_⟩
  by_cases hCall : uuid = call.uuid
  · rw [hCall]
    exact hSelf
  · rw [lookup_step_ne hNext hCall, pushedNext_ne hCall]
    exact h uuid

/-- No run panics, and in every run every session keeps up with its lines. -/
theorem follows_run (calls : List TrackerCall) :
    ∃ tracker, SessionTracker.new.run calls = some tracker ∧
      ∀ uuid, Follows (tracker.sessions.lookup uuid) (pushedSince uuid calls) := by
  induction calls using List.reverseRecOn with
  | nil => exact ⟨.new, rfl, fun _ => trivial⟩
  | append_singleton calls last ih =>
      obtain ⟨tracker, hRun, hFollows⟩ := ih
      obtain ⟨next, hNext, hLast⟩ := follows_step hFollows last
      refine ⟨next, ?_, fun uuid => ?_⟩
      · rw [run, List.foldlM_append]
        rw [run] at hRun
        rw [hRun]
        simp [hNext]
      · rw [pushedSince, List.foldl_append]
        exact hLast uuid

/-- Whatever is called in whatever order, nothing underflows; a tracked session has
counted the bytes of its buffer, which is the longest suffix, of the lines that are not
too large, that 64 KB have room for; a session that is not tracked has no output; and a
further call leaves all sessions but its own alone. -/
theorem outputBuffers (calls : List TrackerCall) :
    ∃ tracker, SessionTracker.new.run calls = some tracker ∧
      (∀ uuid lines, pushedSince uuid calls = some lines →
        ∃ session, tracker.sessions.lookup uuid = some session ∧ Buffered session lines ∧
          tracker.bufferedOutput uuid = session.outputBuffer) ∧
      (∀ uuid, pushedSince uuid calls = none →
        tracker.sessions.lookup uuid = none ∧ tracker.bufferedOutput uuid = []) ∧
      ∀ call next, tracker.step call = some next → ∀ uuid, uuid ≠ call.uuid →
        next.sessions.lookup uuid = tracker.sessions.lookup uuid := by
  obtain ⟨tracker, hRun, hFollows⟩ := follows_run calls
  refine ⟨tracker, hRun, ?_, ?_, ?_⟩
  · intro uuid lines hPushed
    have hSession := hFollows uuid
    rw [hPushed] at hSession
    cases hLookup : tracker.sessions.lookup uuid with
    | none =>
        rw [hLookup] at hSession
        exact hSession.elim
    | some session =>
        rw [hLookup] at hSession
        refine ⟨session, rfl, hSession, ?_⟩
        rw [bufferedOutput, hLookup]
        rfl
  · intro uuid hPushed
    have hSession := hFollows uuid
    rw [hPushed] at hSession
    cases hLookup : tracker.sessions.lookup uuid with
    | none =>
        refine ⟨rfl, ?_⟩
        rw [bufferedOutput, hLookup]
        rfl
    | some session =>
        rw [hLookup] at hSession
        exact hSession.elim
  · intro call next hStep uuid hOther
    exact lookup_step_ne hStep hOther

end SessionTracker

end Mxdx.Client.Daemon
