import Mathlib.Data.List.Nodup
import Mathlib.Logic.Function.Basic
import Mathlib.Tactic.Common

/-! Tables that give every key one name for good: a key that is on the table keeps
its name, and one that is not takes the name that comes with the request. -/
namespace Registry

variable {Key Name : Type*} [DecidableEq Key] {table : Key → Option Name}

/-- The table after a request. A request without a name that comes with it has no
answer unless the key is on the table. -/
def enter (table : Key → Option Name) (key : Key) (offer : Option Name) : Key → Option Name :=
  Function.update table key ((table key).or offer)

theorem enter_of_some {key : Key} {name : Name} (h : table key = some name)
    (offer : Option Name) : enter table key offer = table := by
  rw [enter, h, Option.some_or, ← h, Function.update_eq_self]

theorem enter_of_none {key : Key} (h : table key = none) (offer : Option Name) :
    enter table key offer = Function.update table key offer := by
  rw [enter, h, Option.none_or]

@[simp] theorem enter_self (table : Key → Option Name) (key : Key) (offer : Option Name) :
    enter table key offer key = (table key).or offer :=
  Function.update_self ..

/-- A name stays. -/
theorem enter_mono {key : Key} {name : Name} (h : table key = some name) (other : Key)
    (offer : Option Name) : enter table other offer key = some name := by
  by_cases hKey : key = other
  · subst hKey
    rw [enter_self, h, Option.some_or]
  · rw [enter, Function.update_of_ne hKey, h]

/-- The table after all requests. -/
def final (table : Key → Option Name) : List (Key × Option Name) → Key → Option Name
  | [] => table
  | (key, offer) :: rest => final (enter table key offer) rest

/-- The requests that have an answer, with it. -/
def answers (table : Key → Option Name) : List (Key × Option Name) → List (Key × Name)
  | [] => []
  | (key, offer) :: rest =>
      (((table key).or offer).map (key, ·)).toList ++ answers (enter table key offer) rest

/-- The names that were taken over from a request. -/
def taken (table : Key → Option Name) : List (Key × Option Name) → List Name
  | [] => []
  | (key, offer) :: rest =>
      (if (table key).isSome then [] else offer.toList) ++ taken (enter table key offer) rest

theorem final_mono {key : Key} {name : Name} (h : table key = some name)
    (requests : List (Key × Option Name)) : final table requests key = some name := by
  induction requests generalizing table with
  | nil => exact h
  | cons request rest ih => exact ih (enter_mono h request.1 request.2)

/-- An answer can be looked up ever after. -/
theorem final_of_mem_answers {requests : List (Key × Option Name)} {key : Key} {name : Name}
    (h : (key, name) ∈ answers table requests) : final table requests key = some name := by
  induction requests generalizing table with
  | nil => cases h
  | cons request rest ih =>
      rcases List.mem_append.mp h with hNow | hLater
      · obtain ⟨found, hFound, hSame⟩ := Option.map_eq_some_iff.mp (Option.mem_toList.mp hNow)
        cases hSame
        exact final_mono (by rw [enter_self, hFound]) rest
      · exact ih hLater

/-- No name stands for two keys. -/
def OneKey (table : Key → Option Name) : Prop :=
  ∀ ⦃first second name⦄, table first = some name → table second = some name → first = second

theorem OneKey.update {key : Key} {name : Name} (h : OneKey table)
    (hNew : ∀ other, table other ≠ some name) : OneKey (Function.update table key (some name)) := by
  intro first second found hFirst hSecond
  by_cases hOne : first = key <;> by_cases hTwo : second = key
  · rw [hOne, hTwo]
  · rw [hOne, Function.update_self] at hFirst
    rw [Function.update_of_ne hTwo, ← hFirst] at hSecond
    exact absurd hSecond (hNew second)
  · rw [hTwo, Function.update_self] at hSecond
    rw [Function.update_of_ne hOne, ← hSecond] at hFirst
    exact absurd hFirst (hNew first)
  · rw [Function.update_of_ne hOne] at hFirst
    rw [Function.update_of_ne hTwo] at hSecond
    exact h hFirst hSecond

/-- The names that come with the requests are new, every one of them. -/
structure Fresh (table : Key → Option Name) (requests : List (Key × Option Name)) : Prop where
  oneKey : OneKey table
  unused : ∀ key name, table key = some name → name ∉ taken table requests
  distinct : (taken table requests).Nodup

theorem Fresh.tail {key : Key} {offer : Option Name} {rest : List (Key × Option Name)}
    (h : Fresh table ((key, offer) :: rest)) : Fresh (enter table key offer) rest := by
  obtain ⟨hOne, hUnused, hDistinct⟩ := h
  cases hKnown : table key with
  | some name =>
      simp only [taken, hKnown, Option.isSome_some, if_true, List.nil_append,
        enter_of_some hKnown offer] at hUnused hDistinct ⊢
      exact ⟨hOne, hUnused, hDistinct⟩
  | none =>
      simp only [taken, hKnown, Option.isSome_none, Bool.false_eq_true, if_false,
        enter_of_none hKnown offer] at hUnused hDistinct ⊢
      cases offer with
      | none =>
          have hSame : Function.update table key none = table := by
            rw [← hKnown, Function.update_eq_self]
          simp only [hSame, Option.toList_none, List.nil_append] at hUnused hDistinct ⊢
          exact ⟨hOne, hUnused, hDistinct⟩
      | some name =>
          obtain ⟨hHead, hTail⟩ := List.nodup_cons.mp hDistinct
          refine ⟨hOne.update fun other hOther => hUnused other name hOther List.mem_cons_self,
            fun other found hFound hMem => ?_, hTail⟩
          by_cases hOther : other = key
          · rw [hOther, Function.update_self] at hFound
            exact hHead (Option.some.inj hFound ▸ hMem)
          · rw [Function.update_of_ne hOther] at hFound
            exact hUnused other found hFound (List.mem_cons_of_mem _ hMem)

theorem Fresh.final {requests : List (Key × Option Name)} (h : Fresh table requests) :
    OneKey (final table requests) := by
  induction requests generalizing table with
  | nil => exact h.oneKey
  | cons request rest ih => exact ih h.tail

/-- Two requests have one answer exactly when they are for one key. -/
theorem Fresh.answers_eq_iff {requests : List (Key × Option Name)} (h : Fresh table requests)
    {first second : Key × Name} (hFirst : first ∈ answers table requests)
    (hSecond : second ∈ answers table requests) : first.2 = second.2 ↔ first.1 = second.1 := by
  have hOne := final_of_mem_answers hFirst
  have hTwo := final_of_mem_answers hSecond
  constructor
  · intro hName
    exact h.final hOne (hName ▸ hTwo)
  · intro hKey
    rw [hKey, hTwo] at hOne
    exact (Option.some.inj hOne).symm

end Registry
