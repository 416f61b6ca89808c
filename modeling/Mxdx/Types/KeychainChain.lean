import Mxdx.Basic
import Mxdx.Foundations.Automaton
import Mathlib.Logic.Function.Basic

/-! A keychain over two backends, each a map that may refuse any single call.
Writes go to both and reads prefer the primary one. What the chain says about a
key is compared with what was last stored or deleted under it with success. -/
namespace Mxdx.Types

open Automaton

/-- What a backend holds. A call that fails leaves it as it is. -/
abbrev Backend := String → Option Bytes

/-- The errors with which the two backends answer one call, if they fail. -/
structure Faults where
  primary : Option String
  fallback : Option String
deriving DecidableEq

namespace Backend

/-- A backend that fails tells nothing of what it has. -/
def get (backend : Backend) (fault : Option String) (key : String) :
    Except String (Option Bytes) :=
  match fault with
  | some error => .error error
  | none => .ok (backend key)

/-- A backend that fails changes nothing. -/
def set (backend : Backend) (fault : Option String) (key : String) (value : Bytes) :
    Except String Unit × Backend :=
  match fault with
  | some error => (.error error, backend)
  | none => (.ok (), Function.update backend key (some value))

/-- A backend that fails changes nothing. -/
def delete (backend : Backend) (fault : Option String) (key : String) :
    Except String Unit × Backend :=
  match fault with
  | some error => (.error error, backend)
  | none => (.ok (), Function.update backend key none)

end Backend

/-- Two backends, of which the second stands in for the first. -/
structure ChainedKeychain where
  primary : Backend
  fallback : Backend

namespace ChainedKeychain

/-- The fallback is asked when the primary has nothing or fails. -/
def get (chain : ChainedKeychain) (faults : Faults) (key : String) :
    Except String (Option Bytes) :=
  match chain.primary.get faults.primary key with
  | .ok (some value) => .ok (some value)
  | .ok none => chain.fallback.get faults.fallback key
  | .error _ => chain.fallback.get faults.fallback key

/-- The primary backend is written to at best effort. -/
def set (chain : ChainedKeychain) (faults : Faults) (key : String) (value : Bytes) :
    Except String Unit × ChainedKeychain :=
  let primary := (chain.primary.set faults.primary key value).2
  let (result, fallback) := chain.fallback.set faults.fallback key value
  (result, ⟨primary, fallback⟩)

/-- One backend that deletes is enough. -/
def delete (chain : ChainedKeychain) (faults : Faults) (key : String) :
    Except String Unit × ChainedKeychain :=
  let (primaryResult, primary) := chain.primary.delete faults.primary key
  let (fallbackResult, fallback) := chain.fallback.delete faults.fallback key
  if !primaryResult.isOk && !fallbackResult.isOk then (fallbackResult, ⟨primary, fallback⟩)
  else (.ok (), ⟨primary, fallback⟩)

end ChainedKeychain

/-- The calls of the chain. -/
inductive ChainCall where
  | get (key : String)
  | set (key : String) (value : Bytes)
  | delete (key : String)

/-- The key that a call is about. -/
def ChainCall.key : ChainCall → String
  | get key => key
  | set key _ => key
  | delete key => key

/-- A chain beside what its answers promise: nothing for a key, or what is to be
read there from now on. -/
structure ChainHistory where
  chain : ChainedKeychain
  promised : String → Option (Option Bytes)

namespace ChainHistory

def new (chain : ChainedKeychain) : ChainHistory := ⟨chain, fun _ => none⟩

/-- A promise is made by a `set` or `delete` that succeeds. One about a value ends
with the next of these calls on its key, one about an absence with the next `set`. -/
def step (history : ChainHistory) (input : ChainCall × Faults) : ChainHistory :=
  match input with
  | (.get _, _) => history
  | (.set key value, faults) =>
      let (result, chain) := history.chain.set faults key value
      ⟨chain, Function.update history.promised key
        (if result.isOk then some (some value) else none)⟩
  | (.delete key, faults) =>
      let (result, chain) := history.chain.delete faults key
      ⟨chain, Function.update history.promised key
        (if result.isOk then some none else (history.promised key).filter (·.isNone))⟩

/-- Every read that succeeds returns what is promised, and so does every read
that no backend refuses. -/
def Coherent (history : ChainHistory) : Prop :=
  ∀ key promise, history.promised key = some promise →
    history.chain.get ⟨none, none⟩ key = .ok promise ∧
      ∀ faults value, history.chain.get faults key = .ok value → value = promise

/-- No backend keeps something else than what the call promises. -/
def Thorough (history : ChainHistory) (input : ChainCall × Faults) : Prop :=
  match input with
  | (.get _, _) => True
  | (.set key value, faults) =>
      faults.fallback = none → faults.primary = none ∨
        history.chain.primary key = none ∨ history.chain.primary key = some value
  | (.delete key, faults) =>
      faults.primary = none ∨ faults.fallback = none →
        (faults.primary = none ∨ history.chain.primary key = none) ∧
          (faults.fallback = none ∨ history.chain.fallback key = none)

end ChainHistory

variable {chain : ChainedKeychain} {faults : Faults} {key other : String} {value : Bytes}

namespace Backend

variable {backend : Backend} {fault : Option String}

theorem set_snd : (backend.set fault key value).2 =
    if fault = none then Function.update backend key (some value) else backend := by
  cases fault <;> rfl

theorem delete_snd : (backend.delete fault key).2 =
    if fault = none then Function.update backend key none else backend := by
  cases fault <;> rfl

theorem isOk_set : (backend.set fault key value).1.isOk = true ↔ fault = none := by
  cases fault <;> simp [set, Except.isOk, Except.toBool]

theorem isOk_delete : (backend.delete fault key).1.isOk = true ↔ fault = none := by
  cases fault <;> simp [delete, Except.isOk, Except.toBool]

end Backend

namespace ChainedKeychain

/-- A read looks at what the two backends hold for the key. -/
theorem get_congr {next : ChainedKeychain} (hPrimary : next.primary key = chain.primary key)
    (hFallback : next.fallback key = chain.fallback key) :
    next.get faults key = chain.get faults key := by
  simp only [get, Backend.get, hPrimary, hFallback]

/-- A read that succeeds returns what one of the backends holds. -/
theorem get_ok {result : Option Bytes} (h : chain.get faults key = .ok result) :
    result = chain.fallback key ∨ (result ≠ none ∧ result = chain.primary key) := by
  have hFallback : ∀ fault, chain.fallback.get fault key = .ok result →
      result = chain.fallback key := by
    intro fault hRead
    cases fault with
    | some error => cases hRead
    | none => exact (Except.ok.inj hRead).symm
  unfold get at h
  split at h
  next value hPrimary =>
    cases hFault : faults.primary with
    | some error => rw [hFault] at hPrimary; cases hPrimary
    | none =>
        rw [hFault] at hPrimary
        cases h
        exact .inr ⟨nofun, (Except.ok.inj hPrimary).symm⟩
  · exact .inl (hFallback _ h)
  · exact .inl (hFallback _ h)

/-- All reads of a key come to the same exactly if the fallback holds it and the
primary backend holds nothing else. -/
theorem reads_iff {promise : Option Bytes} :
    (chain.get ⟨none, none⟩ key = .ok promise ∧
      ∀ faults value, chain.get faults key = .ok value → value = promise) ↔
    (chain.primary key = none ∨ chain.primary key = promise) ∧ chain.fallback key = promise := by
  constructor
  · rintro ⟨-, hReads⟩
    have hFallback : chain.fallback key = promise := hReads ⟨some "", none⟩ _ rfl
    refine ⟨?_, hFallback⟩
    cases hPrimary : chain.primary key with
    | none => exact .inl rfl
    | some value =>
        have hGet : chain.get ⟨none, none⟩ key = .ok (some value) := by
          simp only [get, Backend.get, hPrimary]
        exact .inr (hReads _ _ hGet)
  · rintro ⟨hPrimary, rfl⟩
    constructor
    · rcases hPrimary with hPrimary | hPrimary
      · simp only [get, Backend.get, hPrimary]
      · cases hFallback : chain.fallback key <;>
          simp only [get, Backend.get, hPrimary, hFallback]
    · intro faults value hRead
      rcases get_ok hRead with hSame | ⟨hSome, hSame⟩
      · exact hSame
      · rcases hPrimary with hNone | hFallback
        · exact absurd (hSame.trans hNone) hSome
        · exact hSame.trans hFallback

theorem isOk_set : (chain.set faults key value).1.isOk = true ↔ faults.fallback = none :=
  Backend.isOk_set

theorem isOk_delete : (chain.delete faults key).1.isOk = true ↔
    faults.primary = none ∨ faults.fallback = none := by
  rcases faults with ⟨_ | primary, _ | fallback⟩ <;>
    simp [delete, Backend.delete, Except.isOk, Except.toBool]

theorem set_snd : (chain.set faults key value).2 =
    ⟨if faults.primary = none then Function.update chain.primary key (some value)
      else chain.primary,
      if faults.fallback = none then Function.update chain.fallback key (some value)
      else chain.fallback⟩ := by
  rw [← Backend.set_snd, ← Backend.set_snd]
  rfl

theorem delete_snd : (chain.delete faults key).2 =
    ⟨if faults.primary = none then Function.update chain.primary key none else chain.primary,
      if faults.fallback = none then Function.update chain.fallback key none
      else chain.fallback⟩ := by
  rw [← Backend.delete_snd, ← Backend.delete_snd]
  unfold delete
  dsimp only
  split <;> rfl

end ChainedKeychain

namespace ChainHistory

variable {history : ChainHistory} {input : ChainCall × Faults}

/-- A call does not touch what is held, read or promised under another key. -/
theorem step_other (history : ChainHistory) (input : ChainCall × Faults)
    (hOther : other ≠ input.1.key) :
    (history.step input).chain.primary other = history.chain.primary other ∧
      (history.step input).chain.fallback other = history.chain.fallback other ∧
      (history.step input).promised other = history.promised other := by
  obtain ⟨call, faults⟩ := input
  cases call with
  | get key => exact ⟨rfl, rfl, rfl⟩
  | set key value =>
      have hNe : other ≠ key := hOther
      simp only [step, ChainedKeychain.set_snd]
      refine ⟨?_, ?_, Function.update_of_ne hNe _ _⟩
      · split <;> simp [hNe]
      · split <;> simp [hNe]
  | delete key =>
      have hNe : other ≠ key := hOther
      simp only [step, ChainedKeychain.delete_snd]
      refine ⟨?_, ?_, Function.update_of_ne hNe _ _⟩
      · split <;> simp [hNe]
      · split <;> simp [hNe]

/-- What is promised for a key is what the fallback holds, and the primary backend
holds that or nothing. -/
def Kept (history : ChainHistory) (key : String) : Prop :=
  ∀ promise, history.promised key = some promise →
    (history.chain.primary key = none ∨ history.chain.primary key = promise) ∧
      history.chain.fallback key = promise

theorem coherent_iff : history.Coherent ↔ ∀ key, history.Kept key :=
  forall_congr' fun _ => forall_congr' fun _ => imp_congr_right fun _ =>
    ChainedKeychain.reads_iff

theorem kept_set (faults : Faults) :
    (history.step (.set key value, faults)).Kept key ↔
      history.Thorough (.set key value, faults) := by
  simp only [Kept, Thorough, step, Function.update_self, ChainedKeychain.isOk_set,
    ChainedKeychain.set_snd]
  by_cases hFallback : faults.fallback = none
  · by_cases hPrimary : faults.primary = none <;> simp [hFallback, hPrimary]
  · simp [hFallback]

theorem kept_delete (faults : Faults) (h : history.Kept key) :
    (history.step (.delete key, faults)).Kept key ↔
      history.Thorough (.delete key, faults) := by
  simp only [Kept, Thorough, step, Function.update_self, ChainedKeychain.isOk_delete,
    ChainedKeychain.delete_snd]
  by_cases hAny : faults.primary = none ∨ faults.fallback = none
  · by_cases hPrimary : faults.primary = none <;>
      by_cases hFallback : faults.fallback = none <;>
      simp [hFallback, hPrimary] at hAny ⊢
  · obtain ⟨hPrimary, hFallback⟩ := not_or.mp hAny
    simp only [hPrimary, hFallback, if_false, false_or, false_imp_iff, iff_true]
    intro promise hPromise
    exact h promise (Option.filter_eq_some_iff.mp hPromise).1

/-- One call keeps a coherent chain coherent exactly if it is thorough. -/
theorem coherent_step (h : history.Coherent) :
    (history.step input).Coherent ↔ history.Thorough input := by
  rw [coherent_iff] at h ⊢
  have hKey : (∀ key, (history.step input).Kept key) ↔ (history.step input).Kept input.1.key := by
    refine ⟨fun hAll => hAll _, fun hSame other => ?_⟩
    by_cases hOther : other = input.1.key
    · exact hOther ▸ hSame
    · obtain ⟨hPrimary, hFallback, hPromised⟩ := history.step_other input hOther
      unfold Kept
      rw [hPrimary, hFallback, hPromised]
      exact h other
  rw [hKey]
  obtain ⟨call, faults⟩ := input
  cases call with
  | get key => exact iff_of_true (h key) trivial
  | set key value => exact kept_set faults
  | delete key => exact kept_delete faults (h key)

theorem coherent_new (chain : ChainedKeychain) : (new chain).Coherent := nofun

end ChainHistory

/-- Over all histories: no call affects what is read under another key, and the
chain is coherent throughout exactly if every call is thorough. -/
theorem always_coherent_iff_thorough (chain : ChainedKeychain)
    (inputs : List (ChainCall × Faults)) :
    (∀ pre input other faults, pre ++ [input] <+: inputs → other ≠ input.1.key →
        (run ChainHistory.step (.new chain) (pre ++ [input])).chain.get faults other =
          (run ChainHistory.step (.new chain) pre).chain.get faults other) ∧
      (Always ChainHistory.step ChainHistory.Coherent (.new chain) inputs ↔
        Admissible ChainHistory.step ChainHistory.Thorough (.new chain) inputs) := by
  constructor
  · intro pre input other faults _ hOther
    rw [run_concat]
    obtain ⟨hPrimary, hFallback, -⟩ := ChainHistory.step_other _ input hOther
    exact ChainedKeychain.get_congr hPrimary hFallback
  · exact always_iff_admissible (fun _ _ => ChainHistory.coherent_step)
      (ChainHistory.coherent_new chain)

/-- A token that was renewed while the primary backend was locked reads as it was
before, and one deleted there alone is still read from the other. -/
theorem not_coherent_locked :
    (¬ Always ChainHistory.step ChainHistory.Coherent (.new ⟨fun _ => none, fun _ => none⟩)
      [(.set "token" [1], ⟨none, none⟩), (.set "token" [2], ⟨some "locked", none⟩)]) ∧
    ¬ Always ChainHistory.step ChainHistory.Coherent (.new ⟨fun _ => none, fun _ => none⟩)
      [(.set "token" [1], ⟨none, none⟩), (.delete "token", ⟨none, some "read-only"⟩)] := by
  constructor
  · intro h
    have hRead := (h.last "token" (some [2]) rfl).1
    cases hRead
  · intro h
    have hRead := (h.last "token" none rfl).1
    cases hRead

end Mxdx.Types
