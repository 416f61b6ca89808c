import Mxdx.Foundations.Automaton

/-! Things taken into custody. A thing is live until it is closed for a reason or
handed over to another one that is taken in its place; a thing that stops being
live without either is lost. -/
namespace Custody

variable {Item Reason : Type*}

/-- How a thing left custody. -/
inductive Fate (Item Reason : Type*) where
  | closed (reason : Reason)
  | replaced (next : Item)

/-- What can be done to an item. -/
inductive Act (Item Reason : Type*) where
  | take (item : Item)
  | close (item : Item) (reason : Reason)
  | replace (item next : Item)
  | lose (item : Item)

/-- Everything ever taken, what is live, and the fates in the order they fell. -/
structure Ledger (Item Reason : Type*) where
  taken : List Item
  live : List Item
  fates : List (Item × Fate Item Reason)

variable [DecidableEq Item]

/-- What has become of an item. -/
def fatesOf (fates : List (Item × Fate Item Reason)) (item : Item) : List (Fate Item Reason) :=
  (fates.filter (·.1 = item)).map (·.2)

/-- The thing is in exactly one place: it is live, it is closed, or it is replaced
by one that is itself accounted for. -/
inductive Accounted (live : Item → Prop) (fates : List (Item × Fate Item Reason)) :
    Item → Prop where
  | live {item : Item} (hLive : live item) (hFates : fatesOf fates item = []) :
      Accounted live fates item
  | closed {item : Item} {reason : Reason} (hLive : ¬ live item)
      (hFates : fatesOf fates item = [.closed reason]) : Accounted live fates item
  | replaced {item next : Item} (hLive : ¬ live item)
      (hFates : fatesOf fates item = [.replaced next]) (hNext : Accounted live fates next) :
      Accounted live fates item

namespace Ledger

/-- Nothing was ever taken. -/
def empty : Ledger Item Reason := ⟨[], [], []⟩

/-- An item that is let go has a fate, unless it is lost. -/
def step (ledger : Ledger Item Reason) : Act Item Reason → Ledger Item Reason
  | .take item => ⟨item :: ledger.taken, item :: ledger.live, ledger.fates⟩
  | .close item reason =>
      ⟨ledger.taken, ledger.live.filter (· ≠ item), ledger.fates ++ [(item, .closed reason)]⟩
  | .replace item next =>
      ⟨next :: ledger.taken, next :: ledger.live.filter (· ≠ item),
        ledger.fates ++ [(item, .replaced next)]⟩
  | .lose item => { ledger with live := ledger.live.filter (· ≠ item) }

/-- Only what is live leaves custody, and nothing is taken twice. -/
def Proper (ledger : Ledger Item Reason) : Act Item Reason → Prop
  | .take item => item ∉ ledger.taken
  | .close item _ => item ∈ ledger.live
  | .replace item next => item ∈ ledger.live ∧ next ∉ ledger.taken
  | .lose item => item ∈ ledger.live

/-- Nothing is live or has a fate that was not taken. -/
structure Sound (ledger : Ledger Item Reason) : Prop where
  live : ∀ item ∈ ledger.live, item ∈ ledger.taken
  fates : ∀ fate ∈ ledger.fates, fate.1 ∈ ledger.taken

/-- Everything ever taken is accounted for. -/
def Intact (ledger : Ledger Item Reason) : Prop :=
  ∀ item ∈ ledger.taken, Accounted (· ∈ ledger.live) ledger.fates item

/-- An item that was taken and is gone without a word. -/
def Lost (ledger : Ledger Item Reason) (item : Item) : Prop :=
  item ∈ ledger.taken ∧ item ∉ ledger.live ∧ fatesOf ledger.fates item = []

end Ledger

/-- Nothing gets lost by it. -/
def Act.Keeps : Act Item Reason → Prop
  | .lose _ => False
  | _ => True

section Fates

variable {fates : List (Item × Fate Item Reason)} {item other : Item} {fate : Fate Item Reason}

theorem fatesOf_concat :
    fatesOf (fates ++ [(item, fate)]) other =
      if item = other then fatesOf fates other ++ [fate] else fatesOf fates other := by
  by_cases hSame : item = other <;> simp [fatesOf, hSame]

theorem fatesOf_eq_nil (h : ∀ fate ∈ fates, fate.1 ≠ item) : fatesOf fates item = [] := by
  rw [fatesOf, List.map_eq_nil_iff, List.filter_eq_nil_iff]
  simpa using h

end Fates

section Accounting

variable {live next : Item → Prop} {fates : List (Item × Fate Item Reason)} {item other : Item}

/-- A live thing has no fate behind it. -/
theorem Accounted.fates_eq_nil (h : Accounted live fates item) (hLive : live item) :
    fatesOf fates item = [] := by
  cases h with
  | live _ hFates => exact hFates
  | closed hHere => exact absurd hLive hHere
  | replaced hHere => exact absurd hLive hHere

/-- What is neither live nor has a fate is not accounted for. -/
theorem not_accounted (hLive : ¬ live item) (hFates : fatesOf fates item = []) :
    ¬ Accounted live fates item := by
  intro h
  cases h with
  | live hHere => exact hLive hHere
  | closed _ hClosed => simp [hFates] at hClosed
  | replaced _ hReplaced => simp [hFates] at hReplaced

/-- A thing that leaves takes its own fate with it and touches nobody else's; so
what was accounted for still is, if only the thing itself is. -/
theorem Accounted.leave {fate : Fate Item Reason} (h : Accounted live fates other)
    (hItem : Accounted next (fates ++ [(item, fate)]) item)
    (hElse : ∀ other, other ≠ item → fatesOf fates other ≠ [] ∨ live other →
      (next other ↔ live other)) :
    Accounted next (fates ++ [(item, fate)]) other := by
  have hSame : ∀ {other}, item ≠ other →
      fatesOf (fates ++ [(item, fate)]) other = fatesOf fates other := by
    intro other hOther
    rw [fatesOf_concat, if_neg hOther]
  induction h with
  | @live other hHere hFates =>
      by_cases hOther : item = other
      · exact hOther ▸ hItem
      · refine .live ?_ ((hSame hOther).trans hFates)
        exact (hElse other (Ne.symm hOther) (.inr hHere)).mpr hHere
  | @closed other reason hHere hFates =>
      by_cases hOther : item = other
      · exact hOther ▸ hItem
      · refine .closed (fun hNext => hHere ?_) ((hSame hOther).trans hFates)
        exact (hElse other (Ne.symm hOther) (.inl (by simp [hFates]))).mp hNext
  | @replaced other successor hHere hFates _ ih =>
      by_cases hOther : item = other
      · exact hOther ▸ hItem
      · refine .replaced (fun hNext => hHere ?_) ((hSame hOther).trans hFates) ih
        exact (hElse other (Ne.symm hOther) (.inl (by simp [hFates]))).mp hNext

/-- Only the liveness of what is live or has a fate counts. -/
theorem Accounted.congr (h : Accounted live fates other)
    (hElse : ∀ other, fatesOf fates other ≠ [] ∨ live other → (next other ↔ live other)) :
    Accounted next fates other := by
  induction h with
  | live hHere hFates => exact .live ((hElse _ (.inr hHere)).mpr hHere) hFates
  | closed hHere hFates =>
      exact .closed (fun hNext => hHere ((hElse _ (.inl (by simp [hFates]))).mp hNext)) hFates
  | replaced hHere hFates _ ih =>
      exact .replaced (fun hNext => hHere ((hElse _ (.inl (by simp [hFates]))).mp hNext)) hFates ih

end Accounting

namespace Ledger

variable {ledger : Ledger Item Reason} {act : Act Item Reason} {item : Item}

omit [DecidableEq Item] in
theorem sound_empty : (empty : Ledger Item Reason).Sound := ⟨by simp [empty], by simp [empty]⟩

theorem intact_empty : (empty : Ledger Item Reason).Intact := by simp [Intact, empty]

theorem Sound.step (h : ledger.Sound) (hProper : ledger.Proper act) : (ledger.step act).Sound := by
  cases act with
  | take item =>
      refine ⟨fun other hLive => ?_, fun fate hFate => List.mem_cons_of_mem _ (h.fates fate hFate)⟩
      exact List.mem_cons.mpr ((List.mem_cons.mp hLive).imp_right (h.live other))
  | close item reason =>
      refine ⟨fun other hLive => h.live other (List.mem_filter.mp hLive).1, fun fate hFate => ?_⟩
      rcases List.mem_append.mp hFate with hFate | hFate
      · exact h.fates fate hFate
      · rw [List.mem_singleton.mp hFate]
        exact h.live item hProper
  | replace item next =>
      refine ⟨fun other hLive => ?_, fun fate hFate => List.mem_cons_of_mem _ ?_⟩
      · apply List.mem_cons.mpr
        exact (List.mem_cons.mp hLive).imp_right fun hLive =>
          h.live other (List.mem_filter.mp hLive).1
      · rcases List.mem_append.mp hFate with hFate | hFate
        · exact h.fates fate hFate
        · rw [List.mem_singleton.mp hFate]
          exact h.live item hProper.1
  | lose item => exact ⟨fun other hLive => h.live other (List.mem_filter.mp hLive).1, h.fates⟩

/-- Something that was never taken has no fate. -/
theorem Sound.fatesOf_eq_nil (h : ledger.Sound) (hNew : item ∉ ledger.taken) :
    fatesOf ledger.fates item = [] := by
  apply Custody.fatesOf_eq_nil
  rintro fate hFate rfl
  exact hNew (h.fates fate hFate)

/-- What is live or has a fate is not new. -/
theorem Sound.ne_of_new (h : ledger.Sound) (hNew : item ∉ ledger.taken) {other : Item}
    (hOther : fatesOf ledger.fates other ≠ [] ∨ other ∈ ledger.live) : other ≠ item := by
  rintro rfl
  rcases hOther with hFates | hLive
  · exact hFates (h.fatesOf_eq_nil hNew)
  · exact hNew (h.live other hLive)

theorem Intact.step (h : ledger.Intact) (hSound : ledger.Sound) (hProper : ledger.Proper act)
    (hKeeps : act.Keeps) : (ledger.step act).Intact := by
  cases act with
  | take item =>
      intro other hTaken
      rcases List.mem_cons.mp hTaken with rfl | hTaken
      · exact .live List.mem_cons_self (hSound.fatesOf_eq_nil hProper)
      · apply (h other hTaken).congr
        intro other hOther
        simp [step, hSound.ne_of_new hProper hOther]
  | close item reason =>
      have hNil := (h item (hSound.live item hProper)).fates_eq_nil hProper
      have hFates : fatesOf (ledger.fates ++ [(item, .closed reason)]) item = [.closed reason] := by
        simp [fatesOf_concat, hNil]
      have hItem : Accounted (· ∈ (ledger.step (.close item reason)).live)
          (ledger.fates ++ [(item, .closed reason)]) item := .closed (by simp [step]) hFates
      intro other hTaken
      apply (h other hTaken).leave hItem
      intro other hOther _
      simp [step, hOther]
  | replace item next =>
      obtain ⟨hLive, hNew⟩ := hProper
      have hNil := (h item (hSound.live item hLive)).fates_eq_nil hLive
      have hNe : item ≠ next := hSound.ne_of_new hNew (.inr hLive)
      have hNext : Accounted (· ∈ (ledger.step (.replace item next)).live)
          (ledger.fates ++ [(item, .replaced next)]) next := by
        refine .live List.mem_cons_self ?_
        rw [fatesOf_concat, if_neg hNe, hSound.fatesOf_eq_nil hNew]
      have hItem : Accounted (· ∈ (ledger.step (.replace item next)).live)
          (ledger.fates ++ [(item, .replaced next)]) item :=
        .replaced (by simp [step, hNe]) (by simp [fatesOf_concat, hNil]) hNext
      intro other hTaken
      rcases List.mem_cons.mp hTaken with rfl | hTaken
      · exact hNext
      · apply (h other hTaken).leave hItem
        intro other hOther hKnown
        simp [step, hOther, hSound.ne_of_new hNew hKnown]
  | lose item => exact hKeeps.elim

/-- A live thing that stops being live without a fate is lost. -/
theorem lost_of_lose (h : ledger.Intact) (hSound : ledger.Sound) (hProper : ledger.Proper act)
    (hLoses : ¬ act.Keeps) : ∃ item, (ledger.step act).Lost item := by
  cases act with
  | lose item =>
      refine ⟨item, hSound.live item hProper, by simp [step], ?_⟩
      exact (h item (hSound.live item hProper)).fates_eq_nil hProper
  | _ => exact absurd trivial hLoses

/-- What is lost is lost for good. -/
theorem Lost.step (h : ledger.Lost item) (hProper : ledger.Proper act) :
    (ledger.step act).Lost item := by
  obtain ⟨hTaken, hLive, hFates⟩ := h
  cases act with
  | take other =>
      refine ⟨List.mem_cons_of_mem _ hTaken, ?_, hFates⟩
      rw [step, List.mem_cons, not_or]
      exact ⟨fun hSame => hProper (hSame ▸ hTaken), hLive⟩
  | close other reason =>
      refine ⟨hTaken, fun h => hLive (List.mem_filter.mp h).1, ?_⟩
      rw [step, fatesOf_concat, if_neg, hFates]
      rintro rfl
      exact hLive hProper
  | replace other next =>
      refine ⟨List.mem_cons_of_mem _ hTaken, ?_, ?_⟩
      · rw [step, List.mem_cons, not_or]
        exact ⟨fun hSame => hProper.2 (hSame ▸ hTaken), fun h => hLive (List.mem_filter.mp h).1⟩
      · rw [step, fatesOf_concat, if_neg, hFates]
        rintro rfl
        exact hLive hProper.1
  | lose other => exact ⟨hTaken, fun h => hLive (List.mem_filter.mp h).1, hFates⟩

theorem Lost.run {acts : List (Act Item Reason)} (h : ledger.Lost item)
    (hProper : Automaton.Admissible Ledger.step Proper ledger acts) :
    (Automaton.run Ledger.step ledger acts).Lost item := by
  induction acts generalizing ledger with
  | nil => exact h
  | cons act acts ih => exact ih (h.step hProper.1) hProper.2

theorem Lost.not_intact (h : ledger.Lost item) : ¬ ledger.Intact := fun hIntact =>
  not_accounted h.2.1 h.2.2 (hIntact item h.1)

/-- The rule of custody: after proper acts everything is accounted for exactly
when none of them lost anything. -/
theorem intact_run_iff {acts : List (Act Item Reason)} (hSound : ledger.Sound) (h : ledger.Intact)
    (hProper : Automaton.Admissible Ledger.step Proper ledger acts) :
    (Automaton.run Ledger.step ledger acts).Intact ↔ ∀ act ∈ acts, act.Keeps := by
  induction acts generalizing ledger with
  | nil => simpa using h
  | cons act acts ih =>
      rw [Automaton.run_cons, List.forall_mem_cons]
      by_cases hKeeps : act.Keeps
      · rw [ih (hSound.step hProper.1) (h.step hSound hProper.1 hKeeps) hProper.2]
        exact (and_iff_right hKeeps).symm
      · obtain ⟨item, hLost⟩ := lost_of_lose h hSound hProper.1 hKeeps
        exact iff_of_false (hLost.run hProper.2).not_intact fun hAll => hKeeps hAll.1

end Ledger

end Custody
