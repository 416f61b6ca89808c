import Mxdx.Policy.Engine
import Mathlib.Data.List.Perm.Subperm

/-! What a rejected event leaves behind. The engine is compared with one that
never gets the calls that it rejects. A lookup counts as a use of the entry, and
so a rejected replay can change which entry is pushed out much later. -/
namespace Mxdx.Policy

open Automaton

namespace PolicyEngine

/-- What a call returns; the changes of the user set return nothing. -/
def outcome (engine : PolicyEngine) : Call → Except PolicyRejection Unit
  | .evaluate evaluation => (engine.evaluate evaluation).1
  | .authorizeUser _ | .revokeUser _ => .ok ()

/-- All calls of a run with their results. -/
def record : PolicyEngine → List Call → List (Call × Except PolicyRejection Unit)
  | _, [] => []
  | engine, call :: rest => (call, engine.outcome call) :: record (engine.step call) rest

/-- The calls of a run that are not rejected. -/
def survivors (engine : PolicyEngine) (calls : List Call) : List Call :=
  ((engine.record calls).filter (·.2.isOk)).map Prod.fst

/-- The event was seen and has not expired. -/
def Known (engine : PolicyEngine) (eventId : String) (now : Instant) : Prop :=
  ∃ seenAt, (eventId, seenAt) ∈ engine.replayCache.entries ∧ now - seenAt < engine.ttl

variable {engine : PolicyEngine} {evaluation : Evaluation} {eventId : String} {now : Instant}
  {entry : String × Instant}

/-- A lookup finds a known event and keeps all entries, or else removes the entry
of the event. -/
theorem checkReplay_cases (engine : PolicyEngine) (eventId : String) (now : Instant) :
    (engine.Known eventId now ∧ (engine.checkReplay eventId now).1 = true ∧
      ∀ entry, entry ∈ (engine.checkReplay eventId now).2.replayCache.entries ↔
        entry ∈ engine.replayCache.entries) ∨
    (¬ engine.Known eventId now ∧ (engine.checkReplay eventId now).1 = false ∧
      (engine.checkReplay eventId now).2.replayCache.entries =
        LruCache.without eventId engine.replayCache.entries) := by
  cases hGet : engine.replayCache.get? eventId with
  | none =>
      have hAbsent : ∀ seenAt, (eventId, seenAt) ∉ engine.replayCache.entries := by
        intro seenAt hMem
        rw [LruCache.get?_eq_some_iff.mpr hMem] at hGet
        cases hGet
      right
      refine ⟨fun ⟨seenAt, hMem, _⟩ => hAbsent seenAt hMem, ?_, ?_⟩
      · simp only [checkReplay, LruCache.get, hGet]
      · simp only [checkReplay, LruCache.get, hGet]
        refine (List.filter_eq_self.mpr fun entry hMem => decide_eq_true ?_).symm
        rintro rfl
        exact hAbsent entry.2 hMem
  | some seenAt =>
      have hMem := LruCache.get?_eq_some_iff.mp hGet
      have hRoom : engine.replayCache.dropped eventId = [] :=
        List.eq_nil_iff_forall_not_mem.mpr fun entry hDropped =>
          (LruCache.full_of_mem_dropped hDropped).absent _ hMem rfl
      by_cases hFresh : now - seenAt < engine.ttl
      · left
        refine ⟨⟨seenAt, hMem, hFresh⟩, ?_, fun entry => ?_⟩
        · simp only [checkReplay, LruCache.get, hGet, if_pos hFresh]
        · simp only [checkReplay, LruCache.get, hGet, if_pos hFresh, LruCache.mem_put, hRoom,
            LruCache.mem_without, List.not_mem_nil, not_false_iff, and_true]
          constructor
          · rintro (rfl | ⟨hEntry, -⟩)
            · exact hMem
            · exact hEntry
          · intro hEntry
            by_cases hSame : entry.1 = eventId
            · subst hSame
              exact .inl (Prod.ext rfl (LruCache.value_unique hEntry hMem))
            · exact .inr ⟨hEntry, hSame⟩
      · right
        refine ⟨?_, ?_, ?_⟩
        · rintro ⟨other, hOther, hKnown⟩
          rw [LruCache.value_unique hOther hMem] at hKnown
          exact hFresh hKnown
        · simp only [checkReplay, LruCache.get, hGet, if_neg hFresh]
        · simp only [checkReplay, LruCache.get, hGet, if_neg hFresh]
          exact LruCache.pop_put hRoom

theorem known_iff : engine.Known eventId now ↔ (engine.checkReplay eventId now).1 = true := by
  rcases engine.checkReplay_cases eventId now with ⟨hKnown, hTrue, -⟩ | ⟨hNew, hFalse, -⟩
  · exact iff_of_true hKnown hTrue
  · exact iff_of_false hNew (by rw [hFalse]; decide)

/-- Everything an evaluation can come to. -/
theorem evaluate_cases (engine : PolicyEngine) (evaluation : Evaluation) :
    (engine.Known evaluation.eventId evaluation.checkedAt ∧
      (engine.evaluate evaluation).1 = .error .replay ∧
      ∀ entry, entry ∈ (engine.evaluate evaluation).2.replayCache.entries ↔
        entry ∈ engine.replayCache.entries) ∨
    (¬ engine.Known evaluation.eventId evaluation.checkedAt ∧
      evaluation.userId ∉ engine.authorizedUsers ∧
      (engine.evaluate evaluation).1 = .error .unauthorized ∧
      (engine.evaluate evaluation).2.replayCache.entries =
        LruCache.without evaluation.eventId engine.replayCache.entries) ∨
    (¬ engine.Known evaluation.eventId evaluation.checkedAt ∧
      evaluation.userId ∈ engine.authorizedUsers ∧
      (engine.evaluate evaluation).1 = .ok () ∧
      (engine.evaluate evaluation).2.replayCache.entries =
        (engine.replayCache.put evaluation.eventId evaluation.seenAt).entries) := by
  have hUsers := engine.checkReplay_authorizedUsers evaluation.eventId evaluation.checkedAt
  have hCapacity := engine.checkReplay_capacity evaluation.eventId evaluation.checkedAt
  have hCases := engine.checkReplay_cases evaluation.eventId evaluation.checkedAt
  rcases hChecked : engine.checkReplay evaluation.eventId evaluation.checkedAt with
    ⟨_ | _, checked⟩
  · rw [hChecked] at hUsers hCapacity hCases
    obtain ⟨hKnown, hFalse, -⟩ | ⟨hNew, -, hEntries⟩ := hCases
    · cases hFalse
    · right
      by_cases hUser : evaluation.userId ∈ engine.authorizedUsers
      · right
        have hAuthorized : checked.isAuthorized evaluation.userId evaluation.action = true :=
          decide_eq_true (hUsers ▸ hUser)
        simp only [evaluate, hChecked, hAuthorized, if_true]
        refine ⟨hNew, hUser, trivial, ?_⟩
        show (evaluation.eventId, evaluation.seenAt) ::
          (LruCache.without evaluation.eventId checked.replayCache.entries).take _ = _
        rw [hEntries, LruCache.without_without, hCapacity]
        rfl
      · left
        have hAuthorized : checked.isAuthorized evaluation.userId evaluation.action = false :=
          decide_eq_false (hUsers ▸ hUser)
        simp only [evaluate, hChecked, hAuthorized]
        exact ⟨hNew, hUser, rfl, hEntries⟩
  · rw [hChecked] at hCases
    obtain ⟨hKnown, -, hEntries⟩ | ⟨-, hTrue, -⟩ := hCases
    · left
      simp only [evaluate, hChecked]
      exact ⟨hKnown, trivial, hEntries⟩
    · cases hTrue

end PolicyEngine

/-- An engine beside one that gets only the calls the first does not reject, the
events that were accepted, latest first, and the last reading of the clock. -/
structure Twin where
  engine : PolicyEngine
  undisturbed : PolicyEngine
  accepted : List String
  now : Instant

def Call.eventIds : Call → List String
  | .evaluate evaluation => [evaluation.eventId]
  | .authorizeUser _ | .revokeUser _ => []

def Call.after (now : Instant) : Call → Instant
  | .evaluate evaluation => evaluation.seenAt
  | .authorizeUser _ | .revokeUser _ => now

namespace Twin

def new (engine : PolicyEngine) : Twin := ⟨engine, engine, [], 0⟩

def step (twin : Twin) (call : Call) : Twin :=
  if (twin.engine.outcome call).isOk then
    ⟨twin.engine.step call, twin.undisturbed.step call, call.eventIds ++ twin.accepted,
      call.after twin.now⟩
  else { twin with engine := twin.engine.step call, now := call.after twin.now }

/-- The two engines hold the same events that have not expired. -/
def Agree (twin : Twin) : Prop :=
  ∀ entry : String × Instant, twin.now - entry.2 < twin.engine.ttl →
    (entry ∈ twin.engine.replayCache.entries ↔ entry ∈ twin.undisturbed.replayCache.entries)

/-- The clock has not gone back since the last call. -/
def OnTime (twin : Twin) : Call → Prop
  | .evaluate evaluation =>
      twin.now ≤ evaluation.checkedAt ∧ evaluation.checkedAt ≤ evaluation.seenAt
  | .authorizeUser _ | .revokeUser _ => True

/-- The call marks its event as seen. -/
def Marks (engine : PolicyEngine) (evaluation : Evaluation) : Prop :=
  (engine.checkReplay evaluation.eventId evaluation.checkedAt).1 = false ∧
    engine.isAuthorized evaluation.userId evaluation.action = true

/-- An entry that is pushed out before it has expired is the one that was accepted
longest ago. -/
def DropsOldest (twin : Twin) : Call → Prop
  | .evaluate evaluation =>
      Marks twin.engine evaluation →
        ∀ dropped ∈ twin.engine.replayCache.dropped evaluation.eventId,
          evaluation.seenAt - dropped.2 < twin.engine.ttl →
            ∀ other ∈ twin.engine.replayCache.entries, other ≠ dropped →
              twin.accepted.idxOf other.1 < twin.accepted.idxOf dropped.1
  | .authorizeUser _ | .revokeUser _ => True

/-- What was accepted later was seen later. -/
structure Dated (accepted : List String) (now : Instant) (entries : List (String × Instant)) :
    Prop where
  order : ∀ newer ∈ entries, ∀ older ∈ entries,
    accepted.idxOf newer.1 < accepted.idxOf older.1 → older.2 ≤ newer.2
  past : ∀ entry ∈ entries, entry.2 ≤ now

/-- The undisturbed engine has its entries in the order in which they were accepted. -/
structure Ordered (twin : Twin) : Prop where
  capacity : twin.undisturbed.replayCache.capacity = twin.engine.replayCache.capacity
  ttl : twin.undisturbed.ttl = twin.engine.ttl
  users : twin.undisturbed.authorizedUsers = twin.engine.authorizedUsers
  dated : Dated twin.accepted twin.now twin.engine.replayCache.entries
  undisturbedDated : Dated twin.accepted twin.now twin.undisturbed.replayCache.entries
  sorted : twin.undisturbed.replayCache.entries.Pairwise fun newer older =>
    twin.accepted.idxOf newer.1 < twin.accepted.idxOf older.1

variable {twin : Twin} {evaluation : Evaluation} {accepted : List String}
  {now later : Instant} {entries next : List (String × Instant)} {entry : String × Instant}

theorem Dated.mono (h : Dated accepted now entries) (hSub : next ⊆ entries) (hLater : now ≤ later) :
    Dated accepted later next :=
  ⟨fun newer hNewer older hOlder => h.order newer (hSub hNewer) older (hSub hOlder),
    fun entry hEntry => Nat.le_trans (h.past entry (hSub hEntry)) hLater⟩

theorem idxOf_cons_lt {eventId first second : String} (hFirst : first ≠ eventId)
    (hSecond : second ≠ eventId) :
    (eventId :: accepted).idxOf first < (eventId :: accepted).idxOf second ↔
      accepted.idxOf first < accepted.idxOf second := by
  rw [List.idxOf_cons_ne _ hFirst.symm, List.idxOf_cons_ne _ hSecond.symm]
  exact Nat.succ_lt_succ_iff

/-- An accepted event is the latest. -/
theorem Dated.accept {cache : LruCache String Instant} {eventId : String}
    (h : Dated accepted now cache.entries) (hLater : now ≤ later) :
    Dated (eventId :: accepted) later (cache.put eventId later).entries := by
  have hOld : ∀ entry ∈ (cache.put eventId later).entries, entry = (eventId, later) ∨
      entry ∈ cache.entries ∧ entry.1 ≠ eventId := fun entry hEntry =>
    (LruCache.mem_put.mp hEntry).imp_right fun hKept => LruCache.mem_without.mp hKept.1
  constructor
  · intro newer hNewer older hOlder hBefore
    rcases hOld older hOlder with rfl | ⟨hOlder, hOlderId⟩
    · rw [List.idxOf_cons_self] at hBefore
      cases hBefore
    · rcases hOld newer hNewer with rfl | ⟨hNewer, hNewerId⟩
      · exact Nat.le_trans (h.past older hOlder) hLater
      · exact h.order newer hNewer older hOlder ((idxOf_cons_lt hNewerId hOlderId).mp hBefore)
  · intro entry hEntry
    rcases hOld entry hEntry with rfl | ⟨hEntry, -⟩
    · exact Nat.le_refl _
    · exact Nat.le_trans (h.past entry hEntry) hLater

theorem sorted_accept {cache : LruCache String Instant} {eventId : String}
    (h : cache.entries.Pairwise fun newer older =>
      accepted.idxOf newer.1 < accepted.idxOf older.1) :
    (cache.put eventId later).entries.Pairwise fun newer older =>
      (eventId :: accepted).idxOf newer.1 < (eventId :: accepted).idxOf older.1 := by
  have hKept : ∀ entry ∈ (LruCache.without eventId cache.entries).take (cache.capacity - 1),
      entry.1 ≠ eventId := fun entry hEntry =>
    (LruCache.mem_without.mp (List.mem_of_mem_take hEntry)).2
  have hSublist := (List.take_sublist (cache.capacity - 1) _).trans
    (LruCache.without_sublist eventId cache.entries)
  refine List.pairwise_cons.mpr ⟨fun older hOlder => ?_, ?_⟩
  · rw [List.idxOf_cons_self, List.idxOf_cons_ne _ (hKept older hOlder).symm]
    exact Nat.succ_pos _
  · refine (h.sublist hSublist).imp_of_mem fun hNewer hOlder hBefore => ?_
    exact (idxOf_cons_lt (hKept _ hNewer) (hKept _ hOlder)).mpr hBefore

/-- The engine accepts what it does not know from a user it does. -/
theorem marks_iff {engine : PolicyEngine} :
    Marks engine evaluation ↔ ¬ engine.Known evaluation.eventId evaluation.checkedAt ∧
      evaluation.userId ∈ engine.authorizedUsers := by
  unfold Marks PolicyEngine.isAuthorized
  rw [PolicyEngine.known_iff, Bool.not_eq_true, decide_eq_true_iff]

theorem ok_iff_marks {engine : PolicyEngine} :
    (engine.evaluate evaluation).1 = .ok () ↔ Marks engine evaluation := by
  rw [marks_iff]
  rcases engine.evaluate_cases evaluation with ⟨hKnown, hReplay, -⟩ | ⟨-, hUser, hDenied, -⟩ |
    ⟨hNew, hUser, hOk, -⟩
  · exact iff_of_false (by simp [hReplay]) fun h => h.1 hKnown
  · exact iff_of_false (by simp [hDenied]) fun h => hUser h.2
  · exact iff_of_true hOk ⟨hNew, hUser⟩

theorem entries_of_marks {engine : PolicyEngine} (hMarks : Marks engine evaluation) :
    (engine.evaluate evaluation).2.replayCache.entries =
      (engine.replayCache.put evaluation.eventId evaluation.seenAt).entries := by
  obtain ⟨hNew, hUser⟩ := marks_iff.mp hMarks
  rcases engine.evaluate_cases evaluation with ⟨hKnown, -⟩ | ⟨-, hDenied, -⟩ |
    ⟨-, -, -, hEntries⟩
  · exact absurd hKnown hNew
  · exact absurd hUser hDenied
  · exact hEntries

/-- What has not expired later has not expired yet. -/
theorem fresh_earlier {stamp : Instant} {ttl : Duration} (hLater : now ≤ later)
    (h : later - stamp < ttl) : now - stamp < ttl :=
  Nat.lt_of_le_of_lt (Nat.sub_le_sub_right hLater stamp) h

theorem Agree.known_iff (hAgree : twin.Agree) (hOrdered : twin.Ordered) {eventId : String}
    (hLater : twin.now ≤ later) :
    twin.undisturbed.Known eventId later ↔ twin.engine.Known eventId later := by
  unfold PolicyEngine.Known
  rw [hOrdered.ttl]
  refine exists_congr fun seenAt => and_congr_left fun hFresh => ?_
  exact (hAgree (eventId, seenAt) (fresh_earlier hLater hFresh)).symm

theorem Agree.marks_iff (hAgree : twin.Agree) (hOrdered : twin.Ordered)
    (hLater : twin.now ≤ evaluation.checkedAt) :
    Marks twin.undisturbed evaluation ↔ Marks twin.engine evaluation := by
  rw [Twin.marks_iff, Twin.marks_iff, hAgree.known_iff hOrdered hLater, hOrdered.users]

/-- The two engines keep the same of what an accepted event leaves room for,
exactly if nothing is pushed out of turn. -/
theorem agree_put_iff (hAgree : twin.Agree) (hOrdered : twin.Ordered)
    (hLater : twin.now ≤ later) (eventId : String) :
    (∀ entry : String × Instant, later - entry.2 < twin.engine.ttl →
      (entry ∈ (twin.engine.replayCache.put eventId later).entries ↔
        entry ∈ (twin.undisturbed.replayCache.put eventId later).entries)) ↔
    ∀ dropped ∈ twin.engine.replayCache.dropped eventId,
      later - dropped.2 < twin.engine.ttl →
        ∀ other ∈ twin.engine.replayCache.entries, other ≠ dropped →
          twin.accepted.idxOf other.1 < twin.accepted.idxOf dropped.1 := by
  have hFreshAgree : ∀ entry : String × Instant, later - entry.2 < twin.engine.ttl →
      (entry ∈ twin.engine.replayCache.entries ↔
        entry ∈ twin.undisturbed.replayCache.entries) := fun entry hFresh =>
    hAgree entry (fresh_earlier hLater hFresh)
  have hUpward : ∀ entries, Dated twin.accepted twin.now entries →
      ∀ newer ∈ entries, ∀ older ∈ entries,
        twin.accepted.idxOf newer.1 < twin.accepted.idxOf older.1 →
          later - older.2 < twin.engine.ttl → later - newer.2 < twin.engine.ttl :=
    fun entries hDated newer hNewer older hOlder hBefore hFresh =>
      Nat.lt_of_le_of_lt
        (Nat.sub_le_sub_left (hDated.order newer hNewer older hOlder hBefore) later) hFresh
  refine Iff.trans ?_ (LruCache.dropped_iff hOrdered.capacity hFreshAgree hOrdered.sorted
    (hUpward _ hOrdered.dated) (hUpward _ hOrdered.undisturbedDated))
  refine forall_congr' fun entry => imp_congr_right fun hFresh => ?_
  have hKept := hFreshAgree entry hFresh
  have hOld : ∀ cache : LruCache String Instant, entry ∈ cache.dropped eventId →
      entry ∈ cache.entries ∧ entry.1 ≠ eventId := fun cache hDropped =>
    LruCache.mem_without.mp (List.mem_of_mem_drop hDropped)
  rw [LruCache.mem_put, LruCache.mem_put, LruCache.mem_without, LruCache.mem_without]
  by_cases hSame : entry.1 = eventId
  · have hStays : ∀ cache : LruCache String Instant, entry ∉ cache.dropped eventId :=
      fun cache hDropped => (hOld cache hDropped).2 hSame
    simp [hSame, hStays]
  · have hOther : entry ≠ (eventId, later) := fun hNew => hSame (congrArg Prod.fst hNew)
    by_cases hMem : entry ∈ twin.engine.replayCache.entries
    · simp [hOther, hSame, hMem, hKept.mp hMem, not_iff_not]
    · have hGone := mt (hOld twin.engine.replayCache ·|>.1) hMem
      have hOtherGone := mt (hOld twin.undisturbed.replayCache ·|>.1) (mt hKept.mpr hMem)
      simp [hOther, hMem, mt hKept.mpr hMem, hGone, hOtherGone]

/-- A rejected call leaves the engines in agreement: it can only remove an entry
that has expired. -/
theorem reject (hAgree : twin.Agree) (hOrdered : twin.Ordered)
    (hOnTime : twin.OnTime (.evaluate evaluation))
    (hRejects : (twin.engine.evaluate evaluation).1.isOk = false) :
    (twin.step (.evaluate evaluation)).Agree ∧ (twin.step (.evaluate evaluation)).Ordered := by
  have hStep : twin.step (.evaluate evaluation) =
      { twin with engine := (twin.engine.evaluate evaluation).2, now := evaluation.seenAt } := by
    rw [step, if_neg (by rw [PolicyEngine.outcome, hRejects]; decide)]
    rfl
  have hLater : twin.now ≤ evaluation.seenAt := Nat.le_trans hOnTime.1 hOnTime.2
  have hEntries : ∀ entry : String × Instant,
      (entry ∈ (twin.engine.evaluate evaluation).2.replayCache.entries →
        entry ∈ twin.engine.replayCache.entries) ∧
      (evaluation.seenAt - entry.2 < twin.engine.ttl → entry ∈ twin.engine.replayCache.entries →
        entry ∈ (twin.engine.evaluate evaluation).2.replayCache.entries) := by
    intro entry
    rcases twin.engine.evaluate_cases evaluation with ⟨-, -, hSame⟩ | ⟨hNew, -, -, hWithout⟩ |
      ⟨-, -, hOk, -⟩
    · exact ⟨(hSame entry).mp, fun _ => (hSame entry).mpr⟩
    · rw [hWithout]
      refine ⟨fun hMem => (LruCache.mem_without.mp hMem).1, fun hFresh hMem => ?_⟩
      refine LruCache.mem_without.mpr ⟨hMem, fun hSame => hNew ⟨entry.2, hSame ▸ hMem, ?_⟩⟩
      exact fresh_earlier hOnTime.2 hFresh
    · rw [hOk] at hRejects
      cases hRejects
  rw [hStep]
  refine ⟨fun entry hFresh => ?_, ?_⟩
  · have hTtl := twin.engine.step_ttl (.evaluate evaluation)
    replace hFresh : evaluation.seenAt - entry.2 < twin.engine.ttl := hTtl ▸ hFresh
    rw [← hAgree entry (fresh_earlier hLater hFresh)]
    exact ⟨(hEntries entry).1, (hEntries entry).2 hFresh⟩
  · exact {
      capacity := hOrdered.capacity.trans (twin.engine.evaluate_capacity evaluation).symm
      ttl := hOrdered.ttl.trans (twin.engine.step_ttl (.evaluate evaluation)).symm
      users := hOrdered.users.trans (twin.engine.evaluate_authorizedUsers evaluation).symm
      dated := hOrdered.dated.mono (fun entry => (hEntries entry).1) hLater
      undisturbedDated := hOrdered.undisturbedDated.mono (fun _ => id) hLater
      sorted := hOrdered.sorted }

/-- An accepted call is accepted by both engines; they still agree exactly if
nothing is pushed out of turn. -/
theorem accept (hAgree : twin.Agree) (hOrdered : twin.Ordered)
    (hOnTime : twin.OnTime (.evaluate evaluation))
    (hAccepts : (twin.engine.evaluate evaluation).1 = .ok ()) :
    (twin.undisturbed.evaluate evaluation).1 = .ok () ∧
      ((twin.step (.evaluate evaluation)).Agree ↔ twin.DropsOldest (.evaluate evaluation)) ∧
      (twin.step (.evaluate evaluation)).Ordered := by
  have hLater : twin.now ≤ evaluation.seenAt := Nat.le_trans hOnTime.1 hOnTime.2
  have hMarks := ok_iff_marks.mp hAccepts
  have hOtherMarks := (hAgree.marks_iff hOrdered hOnTime.1).mpr hMarks
  have hEntries := entries_of_marks hMarks
  have hOtherEntries := entries_of_marks hOtherMarks
  have hStep : twin.step (.evaluate evaluation) =
      ⟨(twin.engine.evaluate evaluation).2, (twin.undisturbed.evaluate evaluation).2,
        evaluation.eventId :: twin.accepted, evaluation.seenAt⟩ := by
    rw [step, if_pos (by rw [PolicyEngine.outcome, hAccepts]; rfl)]
    rfl
  refine ⟨ok_iff_marks.mpr hOtherMarks, ?_, ?_⟩
  · have hTtl := twin.engine.step_ttl (.evaluate evaluation)
    rw [hStep]
    refine Iff.trans ?_ ((agree_put_iff hAgree hOrdered hLater evaluation.eventId).trans
      (imp_iff_right hMarks).symm)
    unfold Agree
    dsimp only
    rw [hEntries, hOtherEntries, show (twin.engine.evaluate evaluation).2.ttl = _ from hTtl]
  · rw [hStep]
    exact {
      capacity := by
        rw [PolicyEngine.evaluate_capacity, PolicyEngine.evaluate_capacity, hOrdered.capacity]
      ttl := ((twin.undisturbed.step_ttl (.evaluate evaluation)).trans hOrdered.ttl).trans
        (twin.engine.step_ttl (.evaluate evaluation)).symm
      users := by
        rw [PolicyEngine.evaluate_authorizedUsers, PolicyEngine.evaluate_authorizedUsers,
          hOrdered.users]
      dated := hEntries ▸ hOrdered.dated.accept hLater
      undisturbedDated := hOtherEntries ▸ hOrdered.undisturbedDated.accept hLater
      sorted := hOtherEntries ▸ sorted_accept hOrdered.sorted }

/-- One call of a run in which the engines agree so far. -/
theorem keeps (hAgree : twin.Agree) (hOrdered : twin.Ordered) {call : Call}
    (hOnTime : twin.OnTime call) :
    ((twin.step call).Agree ↔ twin.DropsOldest call) ∧ (twin.step call).Ordered ∧
      ((twin.engine.outcome call).isOk = true →
        twin.undisturbed.outcome call = twin.engine.outcome call) := by
  cases call with
  | evaluate evaluation =>
      rcases hResult : (twin.engine.evaluate evaluation).1 with rejection | _
      · have hRejects : (twin.engine.evaluate evaluation).1.isOk = false := by rw [hResult]; rfl
        obtain ⟨hNext, hNextOrdered⟩ := reject hAgree hOrdered hOnTime hRejects
        have hNotMarks : ¬ Marks twin.engine evaluation := by
          rw [← ok_iff_marks, hResult]
          simp
        refine ⟨iff_of_true hNext fun hMarks => absurd hMarks hNotMarks, hNextOrdered, ?_⟩
        intro hOk
        rw [PolicyEngine.outcome, hRejects] at hOk
        cases hOk
      · obtain ⟨hOther, hNext, hNextOrdered⟩ := accept hAgree hOrdered hOnTime hResult
        exact ⟨hNext, hNextOrdered, fun _ => hOther.trans hResult.symm⟩
  | authorizeUser userId =>
      refine ⟨iff_of_true hAgree trivial, ?_, fun _ => rfl⟩
      exact { hOrdered with users := congrArg (insert userId) hOrdered.users }
  | revokeUser userId =>
      refine ⟨iff_of_true hAgree trivial, ?_, fun _ => rfl⟩
      exact { hOrdered with users := congrArg (Finset.erase · userId) hOrdered.users }

theorem agree_new (engine : PolicyEngine) : (new engine).Agree := fun _ _ => Iff.rfl

theorem ordered_new (capacity : Nat) (hPositive : 0 < capacity) (ttl : Duration) :
    (new (.withCapacityAndTtl capacity hPositive ttl)).Ordered where
  capacity := rfl
  ttl := rfl
  users := rfl
  dated := ⟨nofun, nofun⟩
  undisturbedDated := ⟨nofun, nofun⟩
  sorted := List.Pairwise.nil

/-- What the engine does not reject, the undisturbed one answers in the same way. -/
theorem record_survivors {calls : List Call} (hAgree : twin.Agree) (hOrdered : twin.Ordered)
    (hOnTime : Admissible step OnTime twin calls)
    (hOldest : Admissible step DropsOldest twin calls) :
    twin.undisturbed.record (twin.engine.survivors calls) =
      (twin.engine.record calls).filter (·.2.isOk) := by
  induction calls generalizing twin with
  | nil => rfl
  | cons call rest ih =>
      obtain ⟨hNext, hNextOrdered, hSame⟩ := keeps hAgree hOrdered hOnTime.1
      have hRest := ih (hNext.mpr hOldest.1) hNextOrdered hOnTime.2 hOldest.2
      by_cases hOk : (twin.engine.outcome call).isOk = true
      · have hStep : twin.step call = ⟨twin.engine.step call, twin.undisturbed.step call,
            call.eventIds ++ twin.accepted, call.after twin.now⟩ := if_pos hOk
        rw [hStep] at hRest
        simp only [PolicyEngine.survivors, PolicyEngine.record, List.filter_cons, hOk, if_true,
          List.map_cons, hSame hOk] at hRest ⊢
        rw [hRest]
      · have hStep : twin.step call = { twin with
            engine := twin.engine.step call, now := call.after twin.now } := if_neg hOk
        rw [hStep] at hRest
        simpa only [PolicyEngine.survivors, PolicyEngine.record, List.filter_cons, hOk,
          Bool.false_eq_true, if_false] using hRest

theorem now_step (twin : Twin) (call : Call) : (twin.step call).now = call.after twin.now := by
  unfold step
  split <;> rfl

/-- With a clock that does not go back every call comes on time. -/
theorem admissible_onTime {calls : List Call} (hClock : PolicyEngine.Monotone calls)
    (hNow : ∀ reading ∈ calls.flatMap PolicyEngine.readings, twin.now ≤ reading) :
    Admissible step OnTime twin calls := by
  induction calls generalizing twin with
  | nil => trivial
  | cons call rest ih =>
      unfold PolicyEngine.Monotone at hClock ih
      rw [List.flatMap_cons] at hClock hNow
      obtain ⟨hCall, hRest, hAcross⟩ := List.pairwise_append.mp hClock
      have hLater : ∀ reading ∈ rest.flatMap PolicyEngine.readings,
          (twin.step call).now ≤ reading := by
        rw [now_step]
        intro reading hReading
        cases call with
        | evaluate evaluation =>
            exact hAcross evaluation.seenAt (by simp [PolicyEngine.readings]) _ hReading
        | authorizeUser userId => exact hNow reading (List.mem_append_right _ hReading)
        | revokeUser userId => exact hNow reading (List.mem_append_right _ hReading)
      refine ⟨?_, ih hRest hLater⟩
      cases call with
      | evaluate evaluation =>
          exact ⟨hNow _ (by simp [PolicyEngine.readings]), List.rel_of_pairwise_cons hCall
            List.mem_cons_self⟩
      | authorizeUser userId => trivial
      | revokeUser userId => trivial

end Twin

namespace PolicyEngine

/-- In every run in which an unexpired entry is pushed out only if it was accepted
longest ago, removing the rejected calls changes no result; and these are exactly the
runs in which the engine always knows what it would know without the rejected calls. -/
theorem record_survivors_of_dropsOldest (capacity : Nat) (hPositive : 0 < capacity)
    (ttl : Duration) {calls : List Call} (hClock : Monotone calls) :
    (Admissible Twin.step Twin.DropsOldest (.new (withCapacityAndTtl capacity hPositive ttl))
        calls →
      (withCapacityAndTtl capacity hPositive ttl).record
          ((withCapacityAndTtl capacity hPositive ttl).survivors calls) =
        ((withCapacityAndTtl capacity hPositive ttl).record calls).filter (·.2.isOk)) ∧
    (Always Twin.step Twin.Agree (.new (withCapacityAndTtl capacity hPositive ttl)) calls ↔
      Admissible Twin.step Twin.DropsOldest (.new (withCapacityAndTtl capacity hPositive ttl))
        calls) := by
  have hAgree := Twin.agree_new (withCapacityAndTtl capacity hPositive ttl)
  have hOrdered := Twin.ordered_new capacity hPositive ttl
  have hOnTime : Admissible Twin.step Twin.OnTime
      (.new (withCapacityAndTtl capacity hPositive ttl)) calls :=
    Twin.admissible_onTime hClock fun _ _ => Nat.zero_le _
  constructor
  · exact Twin.record_survivors hAgree hOrdered hOnTime
  · have hStronger : ∀ twin : Twin, twin.Agree ∧ twin.Ordered → twin.Agree := fun _ h => h.1
    refine always_iff_admissible_of_stronger_given hStronger ?_ ?_ hOnTime ⟨hAgree, hOrdered⟩
    · intro twin call hCall h hOldest
      obtain ⟨hNext, hNextOrdered, -⟩ := Twin.keeps h.1 h.2 hCall
      exact ⟨hNext.mpr hOldest, hNextOrdered⟩
    · intro twin call hCall h hNext
      exact (Twin.keeps h.1 h.2 hCall).1.mp hNext

def asUser (userId eventId : String) (now : Instant) : Call :=
  .evaluate ⟨eventId, userId, "execute", now, now⟩

/-- A replay while there is room. -/
theorem record_survivors_roomy :
    Monotone [.authorizeUser "@alice:example.com", asUser "@alice:example.com" "$a" 1,
      asUser "@mallory:example.com" "$a" 2, asUser "@alice:example.com" "$b" 3] ∧
    (withCapacityAndTtl 2 Nat.two_pos 100).record
        ((withCapacityAndTtl 2 Nat.two_pos 100).survivors
          [.authorizeUser "@alice:example.com", asUser "@alice:example.com" "$a" 1,
            asUser "@mallory:example.com" "$a" 2, asUser "@alice:example.com" "$b" 3]) =
      ((withCapacityAndTtl 2 Nat.two_pos 100).record
        [.authorizeUser "@alice:example.com", asUser "@alice:example.com" "$a" 1,
          asUser "@mallory:example.com" "$a" 2, asUser "@alice:example.com" "$b" 3]).filter
            (·.2.isOk) := by
  have hClock : Monotone [.authorizeUser "@alice:example.com", asUser "@alice:example.com" "$a" 1,
      asUser "@mallory:example.com" "$a" 2, asUser "@alice:example.com" "$b" 3] := by
    simp [Monotone, readings, asUser]
  refine ⟨hClock, (record_survivors_of_dropsOldest 2 Nat.two_pos 100 hClock).1 ?_⟩
  refine ⟨trivial, fun _ _ h => ?_, fun _ _ h => ?_, fun _ _ h => ?_, trivial⟩
  · cases h
  · cases h
  · cases h

/-- With room for two, a replay by a stranger keeps `$a` and so pushes out `$b`, which
is then accepted again. -/
theorem not_record_survivors_promoted :
    ¬ ∀ capacity (hPositive : 0 < capacity) ttl calls, Monotone calls →
      (withCapacityAndTtl capacity hPositive ttl).record
          ((withCapacityAndTtl capacity hPositive ttl).survivors calls) =
        ((withCapacityAndTtl capacity hPositive ttl).record calls).filter (·.2.isOk) := by
  intro h
  have hClock : Monotone [.authorizeUser "@alice:example.com", asUser "@alice:example.com" "$a" 1,
      asUser "@alice:example.com" "$b" 2, asUser "@mallory:example.com" "$a" 3,
      asUser "@alice:example.com" "$c" 4, asUser "@alice:example.com" "$b" 5] := by
    simp [Monotone, readings, asUser]
  have hResults := congrArg (List.map Prod.snd) (h 2 Nat.two_pos 100 _ hClock)
  revert hResults
  decide +kernel

end PolicyEngine

end Mxdx.Policy
