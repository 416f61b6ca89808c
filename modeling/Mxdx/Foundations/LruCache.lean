import Mathlib.Data.Finset.Card
import Mathlib.Data.List.Nodup
import Mathlib.Tactic.Common

/-! A bounded map that forgets the key that has not been used for longest. The
entries stand in the order of their last use, the most recent first. -/

universe u v

/-- The entries from the one used last to the one used longest ago, never more than fit. -/
structure LruCache (Key : Type u) (Value : Type v) where
  capacity : Nat
  entries : List (Key × Value)
  positive : 0 < capacity
  nodup : (entries.map Prod.fst).Nodup
  bounded : entries.length ≤ capacity

namespace LruCache

variable {Key : Type u} {Value : Type v}

/-- No entries. -/
def new (capacity : Nat) (hPositive : 0 < capacity) : LruCache Key Value :=
  ⟨capacity, [], hPositive, List.nodup_nil, Nat.zero_le _⟩

/-- The key is there, and every key used after it is one of `seen`. -/
def KeptSince (cache : LruCache Key Value) (key : Key) (value : Value) (seen : Finset Key) :
    Prop :=
  ∃ newer older, cache.entries = newer ++ (key, value) :: older ∧
    ∀ entry ∈ newer, entry.1 ∈ seen

variable {cache : LruCache Key Value} {key other : Key} {value : Value} {seen : Finset Key}

theorem KeptSince.mono {later : Finset Key} (hSub : seen ⊆ later)
    (h : cache.KeptSince key value seen) : cache.KeptSince key value later := by
  obtain ⟨newer, older, hEntries, hNewer⟩ := h
  exact ⟨newer, older, hEntries, fun entry hEntry => hSub (hNewer entry hEntry)⟩

/-- No key stands twice. -/
theorem nodup_of_entries {newer older : List (Key × Value)}
    (hEntries : cache.entries = newer ++ (key, value) :: older) :
    (newer.map Prod.fst).Nodup ∧ key ∉ newer.map Prod.fst := by
  have hNodup := cache.nodup
  rw [hEntries, List.map_append, List.map_cons, List.nodup_append] at hNodup
  obtain ⟨hNewer, -, hApart⟩ := hNodup
  exact ⟨hNewer, fun hKey => hApart key hKey key List.mem_cons_self rfl⟩

/-- The cache has no room for the key, which is not there. -/
structure Full (cache : LruCache Key Value) (key : Key) : Prop where
  absent : ∀ entry ∈ cache.entries, entry.1 ≠ key
  length : cache.entries.length = cache.capacity

/-- A cache of the same capacity that has all entries of a full one has no others. -/
theorem Full.perm {second : LruCache Key Value} (h : cache.Full key)
    (hCapacity : second.capacity = cache.capacity) (hSub : cache.entries ⊆ second.entries) :
    cache.entries.Perm second.entries ∧ second.Full key := by
  have hSubperm := List.subperm_of_subset (cache.nodup.of_map _) hSub
  have hBounded := second.bounded
  have hPerm := hSubperm.perm_of_length_le (by rw [h.length]; omega)
  refine ⟨hPerm, fun entry hEntry => h.absent entry (hPerm.mem_iff.mpr hEntry), ?_⟩
  rw [← hPerm.length_eq, h.length, hCapacity]

variable [DecidableEq Key]

/-- The entries of all other keys. -/
def without (key : Key) (entries : List (Key × Value)) : List (Key × Value) :=
  entries.filter fun entry => entry.1 ≠ key

theorem without_sublist (key : Key) (entries : List (Key × Value)) :
    (without key entries).Sublist entries :=
  List.filter_sublist

theorem mem_without {key : Key} {entries : List (Key × Value)} {entry : Key × Value} :
    entry ∈ without key entries ↔ entry ∈ entries ∧ entry.1 ≠ key := by
  simp [without]

/-- The key comes first. Where it is new and the cache is full, the last entry goes. -/
def put (cache : LruCache Key Value) (key : Key) (value : Value) : LruCache Key Value where
  capacity := cache.capacity
  entries := (key, value) :: (without key cache.entries).take (cache.capacity - 1)
  positive := cache.positive
  nodup := by
    rw [List.map_cons, List.nodup_cons]
    constructor
    · intro hKey
      obtain ⟨entry, hEntry, hSame⟩ := List.mem_map.mp hKey
      exact (mem_without.mp (List.mem_of_mem_take hEntry)).2 hSame
    · exact cache.nodup.sublist
        (((List.take_sublist _ _).trans (without_sublist key cache.entries)).map Prod.fst)
  bounded := by
    have hPositive := cache.positive
    simp only [List.length_cons, List.length_take]
    omega

def get? (cache : LruCache Key Value) (key : Key) : Option Value := cache.entries.lookup key

/-- Looking a key up is using it. -/
def get (cache : LruCache Key Value) (key : Key) : Option Value × LruCache Key Value :=
  match cache.get? key with
  | some value => (some value, cache.put key value)
  | none => (none, cache)

/-- The entry of the key goes. -/
def pop (cache : LruCache Key Value) (key : Key) : LruCache Key Value where
  capacity := cache.capacity
  entries := without key cache.entries
  positive := cache.positive
  nodup := cache.nodup.sublist ((without_sublist key cache.entries).map Prod.fst)
  bounded := Nat.le_trans (without_sublist key cache.entries).length_le cache.bounded

@[simp] theorem get_capacity (cache : LruCache Key Value) (key : Key) :
    (cache.get key).2.capacity = cache.capacity := by
  unfold get
  split <;> rfl

theorem KeptSince.get?_eq (h : cache.KeptSince key value seen) : cache.get? key = some value := by
  obtain ⟨newer, older, hEntries, -⟩ := h
  have hAbsent : newer.lookup key = none := by
    rw [List.lookup_eq_none_iff]
    intro entry hEntry
    rw [bne_iff_ne]
    rintro rfl
    exact (nodup_of_entries hEntries).2 (List.mem_map_of_mem hEntry)
  rw [get?, hEntries, List.lookup_append, hAbsent, List.lookup_cons_self, Option.none_or]

theorem keptSince_put (cache : LruCache Key Value) (key : Key) (value : Value)
    (seen : Finset Key) : (cache.put key value).KeptSince key value seen :=
  ⟨[], _, rfl, by simp⟩

theorem KeptSince.pop (h : cache.KeptSince key value seen) (hOther : other ≠ key) :
    (cache.pop other).KeptSince key value seen := by
  obtain ⟨newer, older, hEntries, hNewer⟩ := h
  refine ⟨without other newer, without other older, ?_, ?_⟩
  · simp [LruCache.pop, without, hEntries, hOther.symm]
  · intro entry hEntry
    exact hNewer entry (mem_without.mp hEntry).1

/-- The key that is used now and those that stand before `key` are as many keys
used since. -/
theorem length_lt_card {newer older : List (Key × Value)}
    (hEntries : cache.entries = newer ++ (key, value) :: older)
    (hNewer : ∀ entry ∈ newer, entry.1 ∈ seen) (hOther : other ≠ key) :
    (without other newer).length < ((insert other seen).erase key).card := by
  obtain ⟨hNodup, hAbsent⟩ := nodup_of_entries hEntries
  have hKeys : ((other :: (without other newer).map Prod.fst).toFinset) ⊆
      (insert other seen).erase key := by
    intro used hUsed
    rw [List.mem_toFinset, List.mem_cons, List.mem_map] at hUsed
    rw [Finset.mem_erase, Finset.mem_insert]
    rcases hUsed with rfl | ⟨entry, hEntry, rfl⟩
    · exact ⟨hOther, .inl rfl⟩
    · have hMem := (mem_without.mp hEntry).1
      refine ⟨?_, .inr (hNewer entry hMem)⟩
      rintro rfl
      exact hAbsent (List.mem_map_of_mem hMem)
  have hDistinct : (other :: (without other newer).map Prod.fst).Nodup := by
    rw [List.nodup_cons]
    constructor
    · intro hUsed
      obtain ⟨entry, hEntry, hSame⟩ := List.mem_map.mp hUsed
      exact (mem_without.mp hEntry).2 hSame
    · exact hNodup.sublist ((without_sublist other newer).map Prod.fst)
  calc (without other newer).length
    _ < (without other newer).length + 1 := Nat.lt_succ_self _
    _ = (other :: (without other newer).map Prod.fst).toFinset.card := by
      rw [List.toFinset_card_of_nodup hDistinct, List.length_cons, List.length_map]
    _ ≤ ((insert other seen).erase key).card := Finset.card_le_card hKeys

/-- Putting one more key drops an entry only after as many other keys as there
is room for have been used since. -/
theorem KeptSince.put (h : cache.KeptSince key value seen) (hOther : other ≠ key)
    (given : Value) :
    (cache.put other given).KeptSince key value (insert other seen) ∨
      cache.capacity ≤ ((insert other seen).erase key).card := by
  obtain ⟨newer, older, hEntries, hNewer⟩ := h
  have hWithout : without other cache.entries =
      without other newer ++ (key, value) :: without other older := by
    simp [without, hEntries, hOther.symm]
  by_cases hRoom : (without other newer).length < cache.capacity - 1
  · left
    refine ⟨(other, given) :: without other newer,
      (without other older).take (cache.capacity - 1 - (without other newer).length - 1), ?_, ?_⟩
    · have hTake : (without other newer).take (cache.capacity - 1) = without other newer :=
        List.take_of_length_le (Nat.le_of_lt hRoom)
      obtain ⟨left, hLeft⟩ : ∃ left,
          cache.capacity - 1 - (without other newer).length = left + 1 :=
        Nat.exists_eq_succ_of_ne_zero (Nat.sub_ne_zero_of_lt hRoom)
      simp only [LruCache.put, hWithout, List.take_append, hTake, hLeft, List.take_succ_cons,
        Nat.add_sub_cancel, List.cons_append]
    · intro entry hEntry
      rw [Finset.mem_insert]
      rcases List.mem_cons.mp hEntry with rfl | hOld
      · exact .inl rfl
      · exact .inr (hNewer entry (mem_without.mp hOld).1)
  · right
    have hUsed := length_lt_card hEntries hNewer hOther
    omega

theorem KeptSince.get (h : cache.KeptSince key value seen) (hOther : other ≠ key) :
    (cache.get other).2.KeptSince key value (insert other seen) ∨
      cache.capacity ≤ ((insert other seen).erase key).card := by
  unfold LruCache.get
  split
  · exact h.put hOther _
  · exact .inl (h.mono (Finset.subset_insert _ _))

theorem get?_eq_some_iff : cache.get? key = some value ↔ (key, value) ∈ cache.entries := by
  rw [get?, List.lookup_eq_some_iff]
  constructor
  · rintro ⟨newer, older, hEntries, -⟩
    rw [hEntries]
    simp
  · intro hMem
    obtain ⟨newer, older, hEntries⟩ := List.append_of_mem hMem
    refine ⟨newer, older, hEntries, fun entry hEntry => ?_⟩
    rw [bne_iff_ne]
    rintro rfl
    exact (nodup_of_entries hEntries).2 (List.mem_map_of_mem hEntry)

/-- No key has two values. -/
theorem value_unique {first second : Value} (hFirst : (key, first) ∈ cache.entries)
    (hSecond : (key, second) ∈ cache.entries) : first = second := by
  rw [← get?_eq_some_iff] at hFirst hSecond
  exact Option.some.inj (hFirst.symm.trans hSecond)

/-- The entry that a key pushes out when it is put. -/
def dropped (cache : LruCache Key Value) (key : Key) : List (Key × Value) :=
  (without key cache.entries).drop (cache.capacity - 1)

/-- A full cache loses its last entry. -/
theorem Full.dropped (h : cache.Full key) :
    ∃ front last, cache.entries = front ++ [last] ∧ cache.dropped key = [last] := by
  have hPositive := cache.positive
  have hNonempty : cache.entries ≠ [] := by
    rintro hNil
    have hLength := h.length
    rw [hNil, List.length_nil] at hLength
    omega
  have hAll : without key cache.entries = cache.entries :=
    List.filter_eq_self.mpr fun entry hEntry => decide_eq_true (h.absent entry hEntry)
  refine ⟨cache.entries.dropLast, cache.entries.getLast hNonempty,
    (List.dropLast_append_getLast hNonempty).symm, ?_⟩
  rw [LruCache.dropped, hAll, ← h.length, List.drop_length_sub_one hNonempty]

/-- Only a full cache loses anything. -/
theorem full_of_mem_dropped {entry : Key × Value} (h : entry ∈ cache.dropped key) :
    cache.Full key := by
  have hBounded := cache.bounded
  have hSublist := without_sublist key cache.entries
  have hLength := hSublist.length_le
  have hRoom := List.length_pos_of_mem h
  rw [dropped, List.length_drop] at hRoom
  have hAll : without key cache.entries = cache.entries :=
    hSublist.eq_of_length_le (by omega)
  refine ⟨fun other hOther => ?_, by omega⟩
  rw [← hAll] at hOther
  exact (mem_without.mp hOther).2

theorem mem_put {entry : Key × Value} :
    entry ∈ (cache.put key value).entries ↔ entry = (key, value) ∨
      (entry ∈ without key cache.entries ∧ entry ∉ cache.dropped key) := by
  have hNodup : (without key cache.entries).Nodup :=
    (cache.nodup.of_map _).sublist (without_sublist key cache.entries)
  have hSplit : entry ∈ without key cache.entries ↔
      entry ∈ (without key cache.entries).take (cache.capacity - 1) ∨
        entry ∈ cache.dropped key := by
    rw [dropped, ← List.mem_append, List.take_append_drop]
  have hApart : entry ∈ (without key cache.entries).take (cache.capacity - 1) →
      entry ∉ cache.dropped key := fun hTake hDrop =>
    List.disjoint_take_drop hNodup (Nat.le_refl _) hTake hDrop
  show entry ∈ _ :: _ ↔ _
  rw [List.mem_cons, hSplit]
  tauto

@[simp] theorem without_without (key : Key) (entries : List (Key × Value)) :
    without key (without key entries) = without key entries := by
  simp [without]

/-- Putting a key that needs no room and removing it again only removes it. -/
theorem pop_put (h : cache.dropped key = []) :
    ((cache.put key value).pop key).entries = without key cache.entries := by
  have hTake : (without key cache.entries).take (cache.capacity - 1) =
      without key cache.entries := List.take_of_length_le (List.drop_eq_nil_iff.mp h)
  show without key ((key, value) :: (without key cache.entries).take _) = _
  rw [hTake, without, List.filter_cons_of_neg (by simp)]
  exact without_without key cache.entries

section Comparison

/-! Two caches that hold the same of some entries, the fresh ones. The entries of
the second stand in the order of a rank, and an entry of smaller rank than a fresh
one is fresh. -/

variable {first second : LruCache Key Value} {fresh : Key × Value → Prop}
  {rank : Key × Value → Nat}

omit [DecidableEq Key] in
theorem rank_lt_last (hSorted : second.entries.Pairwise fun e f => rank e < rank f)
    {front : List (Key × Value)} {last : Key × Value} (hEntries : second.entries = front ++ [last])
    {entry : Key × Value} (hEntry : entry ∈ second.entries) (hNe : entry ≠ last) :
    rank entry < rank last := by
  rw [hEntries] at hEntry hSorted
  rcases List.mem_append.mp hEntry with hFront | hLast
  · exact (List.pairwise_append.mp hSorted).2.2 entry hFront last (List.mem_singleton_self _)
  · exact absurd (List.mem_singleton.mp hLast) hNe

/-- A full cache in which everything is fresh is the same set as the other, and
loses what stands last there. -/
theorem dropped_of_full (hSorted : second.entries.Pairwise fun e f => rank e < rank f)
    (hPerm : first.entries.Perm second.entries) (hSecond : second.Full key) :
    ∃ last, second.dropped key = [last] ∧ last ∈ first.entries ∧
      ∀ entry ∈ first.entries, entry ≠ last → rank entry < rank last := by
  obtain ⟨front, last, hEntries, hDropped⟩ := hSecond.dropped
  refine ⟨last, hDropped, hPerm.mem_iff.mpr (by simp [hEntries]), fun entry hEntry hNe => ?_⟩
  exact rank_lt_last hSorted hEntries (hPerm.mem_iff.mp hEntry) hNe

variable (hCapacity : second.capacity = first.capacity)
  (hAgree : ∀ entry, fresh entry → (entry ∈ first.entries ↔ entry ∈ second.entries))
  (hSorted : second.entries.Pairwise fun e f => rank e < rank f)
  (hFirst : ∀ newer ∈ first.entries, ∀ older ∈ first.entries,
    rank newer < rank older → fresh older → fresh newer)
  (hSecond : ∀ newer ∈ second.entries, ∀ older ∈ second.entries,
    rank newer < rank older → fresh older → fresh newer)
include hCapacity hAgree hSorted hSecond

/-- A fresh entry that the second cache loses is the last in rank of both. -/
theorem full_of_mem_dropped_second {entry : Key × Value} (hFresh : fresh entry)
    (hDropped : entry ∈ second.dropped key) :
    first.Full key ∧ ∀ other ∈ first.entries, other ≠ entry → rank other < rank entry := by
  have hFull := full_of_mem_dropped hDropped
  obtain ⟨front, last, hEntries, hLast⟩ := hFull.dropped
  obtain rfl : entry = last := by simpa [hLast] using hDropped
  have hMem : entry ∈ second.entries := by simp [hEntries]
  have hSub : second.entries ⊆ first.entries := by
    intro other hOther
    by_cases hSame : other = entry
    · exact hSame ▸ (hAgree entry hFresh).mpr hMem
    · have hBefore := rank_lt_last hSorted hEntries hOther hSame
      exact (hAgree other (hSecond other hOther entry hMem hBefore hFresh)).mpr hOther
  obtain ⟨hPerm, hFirstFull⟩ := hFull.perm hCapacity.symm hSub
  refine ⟨hFirstFull, fun other hOther hNe => ?_⟩
  exact rank_lt_last hSorted hEntries (hPerm.mem_iff.mpr hOther) hNe

include hFirst

/-- The caches lose the same fresh entries exactly if what the first one loses,
fresh, is the last in rank. -/
theorem dropped_iff :
    (∀ entry, fresh entry → (entry ∈ first.dropped key ↔ entry ∈ second.dropped key)) ↔
      ∀ entry ∈ first.dropped key, fresh entry →
        ∀ other ∈ first.entries, other ≠ entry → rank other < rank entry := by
  constructor
  · intro h entry hDropped hFresh
    exact (full_of_mem_dropped_second hCapacity hAgree hSorted hSecond hFresh
      ((h entry hFresh).mp hDropped)).2
  · intro h entry hFresh
    constructor
    · intro hDropped
      have hFull := full_of_mem_dropped hDropped
      have hMem : entry ∈ first.entries :=
        (mem_without.mp (List.mem_of_mem_drop hDropped)).1
      have hOldest := h entry hDropped hFresh
      have hSub : first.entries ⊆ second.entries := by
        intro other hOther
        by_cases hSame : other = entry
        · exact hSame ▸ (hAgree entry hFresh).mp hMem
        · exact (hAgree other (hFirst other hOther entry hMem (hOldest other hOther hSame)
            hFresh)).mp hOther
      obtain ⟨hPerm, hSecondFull⟩ := hFull.perm hCapacity hSub
      obtain ⟨last, hLast, hLastMem, hBefore⟩ := dropped_of_full hSorted hPerm hSecondFull
      have hSame : entry = last := by
        by_contra hNe
        have hUp := hBefore entry hMem hNe
        have hDown := hOldest last hLastMem fun hEq => hNe hEq.symm
        omega
      rw [hLast, hSame]
      exact List.mem_singleton_self _
    · intro hDropped
      obtain ⟨hFull, hBefore⟩ :=
        full_of_mem_dropped_second hCapacity hAgree hSorted hSecond hFresh hDropped
      have hMem := (hAgree entry hFresh).mpr
        (mem_without.mp (List.mem_of_mem_drop hDropped)).1
      obtain ⟨front, last, hEntries, hLast⟩ := hFull.dropped
      have hLastMem : last ∈ first.entries := by simp [hEntries]
      have hSame : last = entry := by
        by_contra hNe
        have hUp := hBefore last hLastMem hNe
        have hLastFresh := hFirst last hLastMem entry hMem hUp hFresh
        have hDown := h last (by simp [hLast]) hLastFresh entry hMem fun hEq => hNe hEq.symm
        omega
      rw [hLast, hSame]
      exact List.mem_singleton_self _

end Comparison

end LruCache
