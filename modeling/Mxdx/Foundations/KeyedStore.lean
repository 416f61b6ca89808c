import Mathlib.Data.List.Perm.Basic
import Mathlib.Tactic.Common

/-! A table that is kept in a store under the names of its keys. Where two keys have one
name the store has room for one entry only. -/
namespace KeyedStore

variable {K C V : Type*}

/-- Every entry of the key goes. -/
def erase [DecidableEq K] (key : K) (table : List (K × V)) : List (K × V) :=
  table.filter fun entry => entry.1 ≠ key

/-- The new entry comes last, in place of any of its key. -/
def assign [DecidableEq K] (key : K) (value : V) (table : List (K × V)) : List (K × V) :=
  erase key table ++ [(key, value)]

/-- The store has the entries of the table under their names, in any order. -/
def Spelled (name : K → C) (table : List (K × V)) (store : List (C × V)) : Prop :=
  store.Perm (table.map (Prod.map name id))

/-- No other key of the table goes by the name of this one. -/
def Apart (name : K → C) (table : List (K × V)) (key : K) : Prop :=
  ∀ entry ∈ table, name entry.1 = name key → entry.1 = key

variable {name : K → C} {table : List (K × V)} {store : List (C × V)} {key : K} {value : V}

theorem Spelled.values (h : Spelled name table store) :
    (store.map Prod.snd).Perm (table.map Prod.snd) := by
  have hValues := h.map Prod.snd
  rwa [List.map_map] at hValues

theorem apart_of_injective (hName : Function.Injective name) (table : List (K × V)) (key : K) :
    Apart name table key :=
  fun _ _ hSame => hName hSame

variable [DecidableEq C]

theorem erase_map (name : K → C) (table : List (K × V)) (key : K) :
    erase (name key) (table.map (Prod.map name id)) =
      (table.filter fun entry => name entry.1 ≠ name key).map (Prod.map name id) := by
  rw [erase, List.filter_map]
  rfl

variable [DecidableEq K]

theorem Spelled.erase (h : Spelled name table store) (hApart : Apart name table key) :
    Spelled name (erase key table) (erase (name key) store) := by
  have hErased : (KeyedStore.erase (name key) store).Perm
      (KeyedStore.erase (name key) (table.map (Prod.map name id))) := h.filter _
  rw [erase_map] at hErased
  rw [Spelled, KeyedStore.erase]
  refine hErased.trans (.of_eq (congrArg _ (List.filter_congr fun entry hEntry => ?_)))
  have hSame : name entry.1 = name key ↔ entry.1 = key :=
    ⟨hApart entry hEntry, congrArg name⟩
  simp only [ne_eq, hSame]

theorem Spelled.assign (h : Spelled name table store) (hApart : Apart name table key) :
    Spelled name (assign key value table) (assign (name key) value store) := by
  rw [Spelled, KeyedStore.assign, KeyedStore.assign, List.map_append]
  exact (h.erase hApart).append_right _

/-- A name that is shared costs the store an entry. -/
theorem Spelled.length_erase_lt (h : Spelled name table store) (hShared : ¬ Apart name table key) :
    (KeyedStore.erase (name key) store).length < (KeyedStore.erase key table).length := by
  have hErased : (KeyedStore.erase (name key) store).Perm
      (KeyedStore.erase (name key) (table.map (Prod.map name id))) := h.filter _
  rw [erase_map] at hErased
  rw [hErased.length_eq, List.length_map, KeyedStore.erase]
  have hBoth : (table.filter fun entry => name entry.1 ≠ name key) =
      (table.filter fun entry => entry.1 ≠ key).filter fun entry => name entry.1 ≠ name key := by
    rw [List.filter_filter]
    refine List.filter_congr fun entry _ => ?_
    by_cases hKey : entry.1 = key <;> simp [hKey]
  rw [hBoth, List.length_filter_lt_length_iff_exists]
  simp only [Apart, not_forall] at hShared
  obtain ⟨entry, hEntry, hSame, hOther⟩ := hShared
  exact ⟨entry, List.mem_filter.mpr ⟨hEntry, by simpa using hOther⟩, by simpa using hSame⟩

/-- The values tell that nothing was lost: the key had its name to itself. -/
theorem Spelled.apart_of_erase (h : Spelled name table store)
    (hValues : ((KeyedStore.erase (name key) store).map Prod.snd).Perm
      ((KeyedStore.erase key table).map Prod.snd)) : Apart name table key := by
  by_contra hShared
  have hLess := h.length_erase_lt hShared
  have hLength := hValues.length_eq
  rw [List.length_map, List.length_map] at hLength
  omega

theorem Spelled.apart_of_assign (h : Spelled name table store)
    (hValues : ((KeyedStore.assign (name key) value store).map Prod.snd).Perm
      ((KeyedStore.assign key value table).map Prod.snd)) : Apart name table key := by
  refine h.apart_of_erase ?_
  rw [KeyedStore.assign, KeyedStore.assign, List.map_append, List.map_append] at hValues
  exact (List.perm_append_right_iff _).mp hValues

section Found

variable [BEq K] [LawfulBEq K]

theorem lookup_erase_self (table : List (K × V)) (key : K) :
    (erase key table).lookup key = none := by
  rw [List.lookup_eq_none_iff]
  intro entry hEntry
  have hKey := (List.mem_filter.mp hEntry).2
  simp only [ne_eq, decide_not, Bool.not_eq_true', decide_eq_false_iff_not] at hKey
  exact bne_iff_ne.mpr (Ne.symm hKey)

theorem lookup_erase_of_ne {other : K} (table : List (K × V)) (h : other ≠ key) :
    (erase key table).lookup other = table.lookup other := by
  induction table with
  | nil => rfl
  | cons entry table ih =>
      obtain ⟨first, value⟩ := entry
      rw [erase, List.filter_cons]
      rw [erase] at ih
      by_cases hFirst : first = key
      · have hNe : (other == first) = false := beq_false_of_ne (hFirst ▸ h)
        rw [if_neg (by simpa using hFirst), ih, List.lookup_cons, hNe]
      · rw [if_pos (by simpa using hFirst), List.lookup_cons, List.lookup_cons, ih]

@[simp] theorem lookup_assign_self (table : List (K × V)) (key : K) (value : V) :
    (assign key value table).lookup key = some value := by
  rw [assign, List.lookup_append, lookup_erase_self, Option.none_or, List.lookup_cons_self]

theorem lookup_assign_of_ne {other : K} (table : List (K × V)) (value : V) (h : other ≠ key) :
    (assign key value table).lookup other = table.lookup other := by
  have hNe : (other == key) = false := beq_false_of_ne h
  rw [assign, List.lookup_append, lookup_erase_of_ne table h, List.lookup_cons, hNe,
    List.lookup_nil, Option.or_none]

end Found

end KeyedStore
