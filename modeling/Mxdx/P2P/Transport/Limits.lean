import Mxdx.Foundations.Automaton
import Mxdx.Foundations.Window
import Mxdx.P2P.Transport.Driver

/-! The two memories of the driver that answer by the call: the replay window
and the decrypt-failure rate limit. Each is run over any sequence of its calls
and compared with the history of that sequence. -/
namespace Mxdx.P2P

open Automaton

namespace DriverTask

section Replay

/-- A call of `checkReplay`: the call id and the nonce. -/
abbrev ReplayCall := String × Nonce

def replayed (driver : DriverTask) (call : ReplayCall) : DriverTask :=
  (driver.checkReplay call.1 call.2).1

/-- The pairs of the calls that were answered `false`, in order. -/
def acceptedPairs (driver : DriverTask) : List ReplayCall → List (Nonce × String)
  | [] => []
  | call :: rest =>
      if (driver.checkReplay call.1 call.2).2 then acceptedPairs (driver.replayed call) rest
      else (call.2, call.1) :: acceptedPairs (driver.replayed call) rest

theorem checkReplay_seen {driver : DriverTask} {callId : String} {nonce : Nonce}
    (hSeen : (nonce, callId) ∈ driver.recentNonces) :
    driver.checkReplay callId nonce = (driver, true) :=
  if_pos hSeen

theorem checkReplay_fresh {driver : DriverTask} {callId : String} {nonce : Nonce}
    (hFresh : (nonce, callId) ∉ driver.recentNonces) :
    driver.checkReplay callId nonce =
      ({ driver with recentNonces :=
          (if driver.recentNonces.length ≥ replayWindowSize then driver.recentNonces.tail
            else driver.recentNonces) ++ [(nonce, callId)] }, false) :=
  if_neg hFresh

theorem checkReplay_iff_mem (driver : DriverTask) (callId : String) (nonce : Nonce) :
    (driver.checkReplay callId nonce).2 = true ↔ (nonce, callId) ∈ driver.recentNonces := by
  by_cases hSeen : (nonce, callId) ∈ driver.recentNonces
  · rw [checkReplay_seen hSeen]
    exact iff_of_true rfl hSeen
  · rw [checkReplay_fresh hSeen]
    exact iff_of_false Bool.false_ne_true hSeen

/-- The window remembers the accepted pairs and is never larger than allowed. -/
structure ReplayWindow (driver : DriverTask) (accepted : List (Nonce × String)) : Prop where
  remembers : Window.Remembers replayWindowSize driver.recentNonces accepted
  bounded : driver.recentNonces.length ≤ replayWindowSize

/-- A fresh pair enters the window, and the oldest leaves it when it is full. -/
theorem ReplayWindow.accept {driver : DriverTask} {accepted : List (Nonce × String)}
    (h : ReplayWindow driver accepted) {callId : String} {nonce : Nonce}
    (hFresh : (nonce, callId) ∉ driver.recentNonces) :
    ReplayWindow (driver.checkReplay callId nonce).1 (accepted ++ [(nonce, callId)]) := by
  have hEntered := h.remembers.concat hFresh
  have hBounded := h.bounded
  rw [checkReplay_fresh hFresh]
  by_cases hFull : driver.recentNonces.length ≥ replayWindowSize
  · have hNonempty : driver.recentNonces ≠ [] := by
      intro hEmpty
      rw [hEmpty] at hFull
      exact absurd hFull (by decide)
    have hDropped : (driver.recentNonces ++ [(nonce, callId)]).drop 1 =
        driver.recentNonces.tail ++ [(nonce, callId)] := by
      rw [List.drop_one, List.tail_append_of_ne_nil hNonempty]
    have hLength : (driver.recentNonces ++ [(nonce, callId)]).length =
        driver.recentNonces.length + 1 := by simp
    rw [if_pos hFull]
    constructor
    · rw [← hDropped]
      exact hEntered.drop (by omega)
    · rw [← hDropped, List.length_drop]
      omega
  · rw [if_neg hFull]
    refine ⟨hEntered, ?_⟩
    rw [List.length_append, List.length_singleton]
    omega

theorem ReplayWindow.run {driver : DriverTask} {accepted : List (Nonce × String)}
    (h : ReplayWindow driver accepted) (calls : List ReplayCall) :
    ReplayWindow (Automaton.run replayed driver calls)
      (accepted ++ acceptedPairs driver calls) := by
  induction calls generalizing driver accepted with
  | nil => rwa [acceptedPairs, List.append_nil]
  | cons call rest ih =>
      rw [run_cons, acceptedPairs]
      by_cases hSeen : (call.2, call.1) ∈ driver.recentNonces
      · -- a call that was answered `true` leaves the window as it is
        have hSame : driver.replayed call = driver := by
          rw [replayed, checkReplay_seen hSeen]
        rw [if_pos ((checkReplay_iff_mem ..).mpr hSeen), hSame]
        exact ih h
      · have hNext := ih (h.accept hSeen)
        rw [if_neg (mt (checkReplay_iff_mem ..).mp hSeen)]
        rwa [List.append_assoc, List.singleton_append] at hNext

theorem spawn_replayWindow (config : P2PTransportConfig) : ReplayWindow (spawn config) [] :=
  ⟨⟨List.suffix_refl _, List.nodup_nil, .inr rfl⟩, Nat.zero_le _⟩

/-- After any sequence of calls the next one is answered `true` exactly when its
pair is among the latest accepted ones, and the window holds these, each once. -/
theorem checkReplay_iff_lately_accepted (config : P2PTransportConfig) (calls : List ReplayCall)
    (callId : String) (nonce : Nonce) :
    let driver := run replayed (spawn config) calls
    ((driver.checkReplay callId nonce).2 = true ↔
        (nonce, callId) ∈ (acceptedPairs (spawn config) calls).rtake replayWindowSize) ∧
      driver.recentNonces.Nodup ∧ driver.recentNonces.length ≤ replayWindowSize := by
  intro driver
  have hWindow : ReplayWindow driver (acceptedPairs (spawn config) calls) :=
    (spawn_replayWindow config).run calls
  refine ⟨?_, hWindow.remembers.nodup, hWindow.bounded⟩
  rw [checkReplay_iff_mem, hWindow.remembers.eq_rtake hWindow.bounded]

end Replay

section DecryptFailures

/-- `now.checked_sub(Duration::from_secs(1)).unwrap_or(now)`. -/
def oneSecAgo (now : Instant) : Instant :=
  if Duration.fromSecs 1 ≤ now then now - Duration.fromSecs 1 else now

def failed (driver : DriverTask) (now : Instant) : DriverTask :=
  (driver.recordDecryptFailure now).1

theorem failed_queue (driver : DriverTask) (now : Instant) :
    (driver.failed now).lastDecryptFailures =
      driver.lastDecryptFailures.dropWhile (· < oneSecAgo now) ++ [now] := rfl

theorem recordDecryptFailure_iff (driver : DriverTask) (now : Instant) :
    (driver.recordDecryptFailure now).2 = true ↔
      decryptFailureRatePerSec < (driver.failed now).lastDecryptFailures.length :=
  decide_eq_true_iff

/-- The failures that lie within the second before `now`. -/
def withinLastSecond (failures : List Instant) (now : Instant) : List Instant :=
  failures.filter (now ≤ · + Duration.fromSecs 1)

/-- Within its first second the clock cannot be set back by one, and what failed
before an instant of that second is forgotten. -/
def Early (failure : Instant) : Prop := failure < Duration.fromSecs 1

instance (failure : Instant) : Decidable (Early failure) :=
  inferInstanceAs (Decidable (failure < _))

theorem oneSecAgo_of_early {now : Instant} (h : Early now) : oneSecAgo now = now :=
  if_neg (Nat.not_le_of_lt h)

theorem oneSecAgo_of_late {now : Instant} (h : ¬ Early now) :
    oneSecAgo now = now - Duration.fromSecs 1 :=
  if_pos (Nat.le_of_not_lt h)

theorem oneSecAgo_le (now : Instant) : oneSecAgo now ≤ now := by
  by_cases hEarly : Early now
  · exact Nat.le_of_eq (oneSecAgo_of_early hEarly)
  · rw [oneSecAgo_of_late hEarly]
    exact Nat.sub_le ..

theorem le_add_of_oneSecAgo_le {now failure : Instant} (h : oneSecAgo now ≤ failure) :
    now ≤ failure + Duration.fromSecs 1 := by
  by_cases hEarly : Early now
  · rw [oneSecAgo_of_early hEarly] at h
    exact Nat.le_add_right_of_le h
  · rw [oneSecAgo_of_late hEarly] at h
    exact Nat.le_add_of_sub_le h

/-- No call at these instants dropped the failure. -/
def Kept (instants : List Instant) (failure : Instant) : Prop :=
  ∀ later ∈ instants, oneSecAgo later ≤ failure

instance (instants : List Instant) : DecidablePred (Kept instants) :=
  fun failure => inferInstanceAs (Decidable (∀ later ∈ instants, oneSecAgo later ≤ failure))

theorem kept_concat (earlier : List Instant) (now failure : Instant) :
    Kept (earlier ++ [now]) failure ↔ oneSecAgo now ≤ failure ∧ Kept earlier failure := by
  simp only [Kept, List.mem_append, List.mem_singleton, or_imp, forall_and, forall_eq]
  exact and_comm

theorem kept_last {earlier : List Instant} {now : Instant}
    (hSorted : (earlier ++ [now]).Pairwise (· ≤ ·)) : Kept (earlier ++ [now]) now := by
  obtain ⟨-, -, hNow⟩ := List.pairwise_append.mp hSorted
  refine (kept_concat ..).mpr ⟨oneSecAgo_le now, fun later hLater => ?_⟩
  exact (oneSecAgo_le later).trans (hNow later hLater now (List.mem_singleton_self now))

theorem filter_kept_concat {earlier : List Instant} {now : Instant}
    (hSorted : (earlier ++ [now]).Pairwise (· ≤ ·)) :
    (earlier ++ [now]).filter (Kept (earlier ++ [now])) =
      (earlier.filter (Kept earlier)).filter (oneSecAgo now ≤ ·) ++ [now] := by
  have hLast : [now].filter (Kept (earlier ++ [now])) = [now] :=
    List.filter_cons_of_pos (decide_eq_true (kept_last hSorted))
  rw [List.filter_append, hLast, List.filter_filter]
  congr 1
  apply List.filter_congr
  intro failure _
  rw [← Bool.decide_and, decide_eq_decide, kept_concat]

/-- The queue after a sorted sequence: the failures that no call dropped. -/
theorem run_failed_queue (config : P2PTransportConfig) {instants : List Instant}
    (hSorted : instants.Pairwise (· ≤ ·)) :
    (run failed (spawn config) instants).lastDecryptFailures =
      instants.filter (Kept instants) := by
  induction instants using List.reverseRecOn with
  | nil => rfl
  | append_singleton earlier now ih =>
      have hQueue := ih (List.pairwise_append.mp hSorted).1
      have hPruned : (run failed (spawn config) earlier).lastDecryptFailures.Pairwise (· ≤ ·) := by
        rw [hQueue]
        exact (List.pairwise_append.mp hSorted).1.filter _
      rw [run_concat, failed_queue, Window.dropWhile_eq_filter (oneSecAgo now) hPruned, hQueue,
        filter_kept_concat hSorted]

/-- What is kept lies within the last second; of what lies there, only what came
before an instant of the clock's first second is not kept. -/
theorem kept_iff_within {earlier : List Instant} {now : Instant}
    (hSorted : (earlier ++ [now]).Pairwise (· ≤ ·)) (failure : Instant) :
    Kept (earlier ++ [now]) failure ↔
      now ≤ failure + Duration.fromSecs 1 ∧
        ∀ early ∈ earlier ++ [now], Early early → early ≤ failure := by
  constructor
  · intro hKept
    refine ⟨le_add_of_oneSecAgo_le ((kept_concat ..).mp hKept).1, fun early hMem hEarly => ?_⟩
    rw [← oneSecAgo_of_early hEarly]
    exact hKept early hMem
  · rintro ⟨hWithin, hSpared⟩ later hLater
    by_cases hEarly : Early later
    · rw [oneSecAgo_of_early hEarly]
      exact hSpared later hLater hEarly
    · have hOrder : later ≤ now := by
        rcases List.mem_append.mp hLater with hBefore | hLast
        · exact (List.pairwise_append.mp hSorted).2.2 later hBefore now
            (List.mem_singleton_self now)
        · exact Nat.le_of_eq (List.mem_singleton.mp hLast)
      rw [oneSecAgo_of_late hEarly]
      exact Nat.sub_le_of_le_add (hOrder.trans hWithin)

/-- A failure at `now` after those at `earlier` is answered by the number within the
last second, and leaves a queue of the documented size. -/
def LimitedAt (config : P2PTransportConfig) (earlier : List Instant) (now : Instant) : Prop :=
  let outcome := (run failed (spawn config) earlier).recordDecryptFailure now
  (outcome.2 = true ↔
      decryptFailureRatePerSec < (withinLastSecond (earlier ++ [now]) now).length) ∧
    outcome.1.lastDecryptFailures.length ≤ decryptFailureRatePerSec + 1

/-- The last second holds no more failures than the queue may, and when it holds that
many none of them came before a failure of the clock's first second. -/
def SparseAt (earlier : List Instant) (now : Instant) : Prop :=
  (withinLastSecond (earlier ++ [now]) now).length ≤ decryptFailureRatePerSec + 1 ∧
    ((withinLastSecond (earlier ++ [now]) now).length = decryptFailureRatePerSec + 1 →
      ∀ failure ∈ withinLastSecond (earlier ++ [now]) now,
        ∀ early ∈ earlier ++ [now], Early early → early ≤ failure)

section Sorted

variable {earlier : List Instant} {now : Instant}
  (hSorted : (earlier ++ [now]).Pairwise (· ≤ ·))
include hSorted

theorem kept_sublist_within :
    ((earlier ++ [now]).filter (Kept (earlier ++ [now]))).Sublist
      (withinLastSecond (earlier ++ [now]) now) := by
  apply List.monotone_filter_right
  intro failure hKept
  exact decide_eq_true ((kept_iff_within hSorted failure).mp (of_decide_eq_true hKept)).1

theorem limitedAt_iff (config : P2PTransportConfig) :
    LimitedAt config earlier now ↔
      (withinLastSecond (earlier ++ [now]) now).length ≤ decryptFailureRatePerSec ∨
        ((earlier ++ [now]).filter (Kept (earlier ++ [now]))).length =
          decryptFailureRatePerSec + 1 := by
  have hQueue : ((run failed (spawn config) earlier).failed now).lastDecryptFailures =
      (earlier ++ [now]).filter (Kept (earlier ++ [now])) := by
    rw [← run_failed_queue config hSorted, run_concat]
  have hLe := (kept_sublist_within hSorted).length_le
  unfold LimitedAt
  dsimp only
  rw [recordDecryptFailure_iff, ← failed, hQueue]
  omega

/-- As many kept as lie within the last second: then nothing there came before an
instant of the first second. -/
theorem length_kept_eq_iff :
    ((earlier ++ [now]).filter (Kept (earlier ++ [now]))).length =
        (withinLastSecond (earlier ++ [now]) now).length ↔
      ∀ failure ∈ withinLastSecond (earlier ++ [now]) now,
        ∀ early ∈ earlier ++ [now], Early early → early ≤ failure := by
  constructor
  · intro hLength failure hFailure
    rw [← (kept_sublist_within hSorted).eq_of_length hLength] at hFailure
    have hKept := of_decide_eq_true (List.mem_filter.mp hFailure).2
    exact ((kept_iff_within hSorted failure).mp hKept).2
  · intro hSpared
    congr 1
    apply List.filter_congr
    intro failure hMem
    rw [decide_eq_decide, kept_iff_within hSorted]
    refine and_iff_left_of_imp fun hWithin => hSpared failure ?_
    exact List.mem_filter.mpr ⟨hMem, decide_eq_true hWithin⟩

theorem LimitedAt.of_sparseAt (config : P2PTransportConfig) (h : SparseAt earlier now) :
    LimitedAt config earlier now := by
  rw [limitedAt_iff hSorted]
  rcases Nat.lt_or_eq_of_le h.1 with hFew | hFull
  · exact .inl (Nat.le_of_lt_succ hFew)
  · right
    rw [(length_kept_eq_iff hSorted).mpr (h.2 hFull), hFull]

end Sorted

section Burst

variable {start : List Instant} {prev now : Instant}
  (hSorted : (start ++ [prev] ++ [now]).Pairwise (· ≤ ·))
include hSorted

theorem prev_le_now : prev ≤ now :=
  (List.pairwise_append.mp hSorted).2.2 prev (by simp) now (List.mem_singleton_self now)

/-- What is in the queue stays or goes together when all of it lies within the last
second: in the clock's first second all its entries are the same instant. -/
theorem kept_all_or_none
    (hWithin : ∀ failure ∈ (start ++ [prev]).filter (Kept (start ++ [prev])),
      now ≤ failure + Duration.fromSecs 1) :
    (∀ failure ∈ (start ++ [prev]).filter (Kept (start ++ [prev])), oneSecAgo now ≤ failure) ∨
      ∀ failure ∈ (start ++ [prev]).filter (Kept (start ++ [prev])),
        ¬ oneSecAgo now ≤ failure := by
  by_cases hEarly : Early now
  · have hSame : ∀ failure ∈ (start ++ [prev]).filter (Kept (start ++ [prev])),
        failure = prev := by
      intro failure hMem
      obtain ⟨hBefore, hKept⟩ := List.mem_filter.mp hMem
      have hPrevEarly : Early prev := Nat.lt_of_le_of_lt (prev_le_now hSorted) hEarly
      have hGe := ((kept_concat ..).mp (of_decide_eq_true hKept)).1
      rw [oneSecAgo_of_early hPrevEarly] at hGe
      refine Nat.le_antisymm ?_ hGe
      rcases List.mem_append.mp hBefore with hBefore | hLast
      · exact (List.pairwise_append.mp (List.pairwise_append.mp hSorted).1).2.2 failure hBefore
          prev (List.mem_singleton_self prev)
      · exact Nat.le_of_eq (List.mem_singleton.mp hLast)
    by_cases hStays : oneSecAgo now ≤ prev
    · left
      intro failure hMem
      rwa [hSame failure hMem]
    · right
      intro failure hMem
      rwa [hSame failure hMem]
  · left
    intro failure hMem
    rw [oneSecAgo_of_late hEarly]
    exact Nat.sub_le_of_le_add (hWithin failure hMem)

/-- After a queue that is full and answered right, a fifth failure within the second
is not. -/
theorem not_limitedAt_of_burst {config : P2PTransportConfig}
    (hBefore : (withinLastSecond (start ++ [prev]) prev).length ≤ decryptFailureRatePerSec + 1)
    (hLimited : LimitedAt config start prev)
    (hBurst : decryptFailureRatePerSec + 1 <
      (withinLastSecond (start ++ [prev] ++ [now]) now).length) :
    ¬ LimitedAt config (start ++ [prev]) now := by
  have hNow : withinLastSecond (start ++ [prev] ++ [now]) now =
      (start ++ [prev]).filter (now ≤ · + Duration.fromSecs 1) ++ [now] := by
    rw [withinLastSecond, List.filter_append, List.filter_cons_of_pos (by simp), List.filter_nil]
  have hShrinks : ((start ++ [prev]).filter (now ≤ · + Duration.fromSecs 1)).Sublist
      (withinLastSecond (start ++ [prev]) prev) := by
    apply List.monotone_filter_right
    intro failure hFailure
    exact decide_eq_true ((prev_le_now hSorted).trans (of_decide_eq_true hFailure))
  have hLength := hShrinks.length_le
  rw [hNow, List.length_append, List.length_singleton] at hBurst
  -- the queue before is full and holds just what lay within the second
  have hPrevSorted := (List.pairwise_append.mp hSorted).1
  have hAllStill := hShrinks.eq_of_length (by omega)
  have hFull : ((start ++ [prev]).filter (Kept (start ++ [prev]))).length =
      decryptFailureRatePerSec + 1 :=
    ((limitedAt_iff hPrevSorted config).mp hLimited).resolve_left (by omega)
  have hQueue := (kept_sublist_within hPrevSorted).eq_of_length (by omega)
  have hWithin : ∀ failure ∈ (start ++ [prev]).filter (Kept (start ++ [prev])),
      now ≤ failure + Duration.fromSecs 1 := by
    intro failure hMem
    rw [hQueue, ← hAllStill] at hMem
    exact of_decide_eq_true (List.mem_filter.mp hMem).2
  rw [limitedAt_iff hSorted, filter_kept_concat hSorted, hNow, List.length_append,
    List.length_append, List.length_singleton]
  rcases kept_all_or_none hSorted hWithin with hAll | hNone
  · rw [List.filter_eq_self.mpr fun failure hMem => decide_eq_true (hAll failure hMem), hFull]
    omega
  · have hEmpty : ((start ++ [prev]).filter (Kept (start ++ [prev]))).filter
        (oneSecAgo now ≤ ·) = [] :=
      List.filter_eq_nil_iff.mpr fun failure hMem h => hNone failure hMem (of_decide_eq_true h)
    have hRate : decryptFailureRatePerSec = 3 := rfl
    rw [hEmpty, List.length_nil]
    omega

end Burst

/-- Along a sorted sequence of failures the limiter counts the last second and keeps
its queue short exactly when the failures are sparse all along. -/
theorem limited_iff_sparse (config : P2PTransportConfig) (instants : List Instant)
    (hSorted : instants.Pairwise (· ≤ ·)) :
    (∀ earlier now, earlier ++ [now] <+: instants → LimitedAt config earlier now) ↔
      ∀ earlier now, earlier ++ [now] <+: instants → SparseAt earlier now := by
  constructor
  · intro hLimited
    have hFew : ∀ earlier now, earlier ++ [now] <+: instants →
        (withinLastSecond (earlier ++ [now]) now).length ≤ decryptFailureRatePerSec + 1 := by
      intro earlier
      induction earlier using List.reverseRecOn with
      | nil => exact fun now _ => (List.length_filter_le _ _).trans (by simp)
      | append_singleton start prev ih =>
          intro now hPrefix
          have hPrevPrefix := (List.prefix_append (start ++ [prev]) [now]).trans hPrefix
          by_contra hBurst
          exact not_limitedAt_of_burst (hSorted.sublist hPrefix.sublist) (ih prev hPrevPrefix)
            (hLimited start prev hPrevPrefix) (Nat.lt_of_not_le hBurst)
            (hLimited (start ++ [prev]) now hPrefix)
    intro earlier now hPrefix
    have hNowSorted := hSorted.sublist hPrefix.sublist
    refine ⟨hFew earlier now hPrefix, fun hFull => ?_⟩
    rw [← length_kept_eq_iff hNowSorted, hFull]
    exact ((limitedAt_iff hNowSorted config).mp (hLimited earlier now hPrefix)).resolve_left
      (by omega)
  · intro hSparse earlier now hPrefix
    exact .of_sparseAt (hSorted.sublist hPrefix.sublist) config (hSparse earlier now hPrefix)

/-- Three failures, two seconds apart. -/
theorem limited_iff_sparse_spread :
    let config : P2PTransportConfig := ⟨"@u:ex", "DEV", "!r:ex", none, defaultIdleWindow, 256⟩
    let instants : List Instant := [1, 3, 5].map Duration.fromSecs
    (∀ earlier now, earlier ++ [now] <+: instants → LimitedAt config earlier now) ↔
      ∀ earlier now, earlier ++ [now] <+: instants → SparseAt earlier now :=
  limited_iff_sparse _ _ (by decide)

/-- Five failures within one second leave five entries in the queue. -/
theorem five_failures_overflow :
    ¬ ∀ (config : P2PTransportConfig) (instants : List Instant), instants.Pairwise (· ≤ ·) →
      ∀ earlier now, earlier ++ [now] <+: instants → LimitedAt config earlier now := by
  intro h
  have hFifth := h ⟨"@u:ex", "DEV", "!r:ex", none, defaultIdleWindow, 256⟩
    (List.replicate 5 (Duration.fromSecs 60)) (by decide) (List.replicate 4 (Duration.fromSecs 60))
    (Duration.fromSecs 60) (List.prefix_refl _)
  exact absurd hFifth.2 (by decide)

end DecryptFailures

end DriverTask

end Mxdx.P2P
