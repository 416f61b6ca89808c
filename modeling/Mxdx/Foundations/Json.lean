import Mathlib.Data.List.Defs
import Mathlib.Tactic.Common

/-! JSON values over any type of numbers, and the readers a typed decoder is
put together from. A reader answers `none` where decoding fails. -/

/-- A parsed JSON value. The fields of an object stand in no particular order;
a name that stands twice counts where it stands first. -/
inductive Json (Num : Type) where
  | null
  | bool (value : Bool)
  | num (value : Num)
  | str (value : String)
  | arr (elems : List (Json Num))
  | obj (fields : List (String × Json Num))

namespace Json

variable {Num : Type} {α : Type}

/-- The value of a field; only objects have any. -/
def get? (name : String) : Json Num → Option (Json Num)
  | obj fields => fields.lookup name
  | _ => none

def asStr : Json Num → Option String
  | str value => some value
  | _ => none

def asBool : Json Num → Option Bool
  | bool value => some value
  | _ => none

def asNum : Json Num → Option Num
  | num value => some value
  | _ => none

def isNull : Json Num → Bool
  | null => true
  | _ => false

/-- A list, each element read by `read`. -/
def asList (read : Json Num → Option α) : Json Num → Option (List α)
  | arr elems => elems.mapM read
  | _ => none

/-- A map from names to values, each value read by `read`. -/
def asMap (read : Json Num → Option α) : Json Num → Option (List (String × α))
  | obj fields => fields.mapM fun field => (read field.2).map (field.1, ·)
  | _ => none

/-- A field that has to be there. -/
def required (read : Json Num → Option α) (field : Option (Json Num)) : Option α :=
  field.bind read

/-- A field that may be missing or null. -/
def nullable (read : Json Num → Option α) : Option (Json Num) → Option (Option α)
  | none => some none
  | some value => if value.isNull then some none else (read value).map some

/-- A field with a value to fall back on where it is missing. -/
def defaulted (read : Json Num → Option α) (default : α) : Option (Json Num) → Option α
  | none => some default
  | some value => read value

/-- A record: an object, of which unknown names are ignored, or an array in the
order of `names`, of which at least the first `needed` are there. -/
def asRecord (names : List String) (needed : Nat)
    (read : (String → Option (Json Num)) → Option α) : Json Num → Option α
  | obj fields => read fun name => fields.lookup name
  | arr elems =>
      if needed ≤ elems.length ∧ elems.length ≤ names.length then
        read fun name => (names.zip elems).lookup name
      else none
  | _ => none

section WrittenBack

variable {read : Json Num → Option α} {write : α → Json Num}

/-- What may be missing is read back when every value of it is. -/
theorem nullable_map {value : Option α} (hRead : ∀ inner, value = some inner →
    read (write inner) = some inner) (hNull : ∀ inner, (write inner).isNull = false) :
    nullable read (value.map write) = some value := by
  cases value with
  | none => rfl
  | some inner =>
      rw [Option.map_some, nullable, if_neg (by simp [hNull]), hRead inner rfl, Option.map_some]

@[simp] theorem nullable_str (value : Option String) :
    nullable asStr (value.map (.str : String → Json Num)) = some value :=
  nullable_map (fun _ _ => rfl) fun _ => rfl

theorem asList_arr {values : List α} (hRead : ∀ value ∈ values, read (write value) = some value) :
    asList read (arr (values.map write)) = some values := by
  rw [asList]
  induction values with
  | nil => rfl
  | cons value values ih =>
      obtain ⟨hFirst, hRest⟩ := List.forall_mem_cons.mp hRead
      rw [List.map_cons, List.mapM_cons, hFirst, ih hRest]
      rfl

end WrittenBack

/-- Reading some of the fields: what is asked for is found as before. -/
theorem lookup_filterMap_lookup {α : Type} (fields : List (String × α)) {name : String}
    {names : List String} (hName : name ∈ names) :
    (names.filterMap fun name => (fields.lookup name).map (name, ·)).lookup name =
      fields.lookup name := by
  induction names with
  | nil => simp at hName
  | cons first names ih =>
      by_cases hFirst : name = first
      · subst hFirst
        cases hField : fields.lookup name with
        | none =>
            rw [List.lookup_eq_none_iff]
            intro field hMem
            obtain ⟨other, -, hOther⟩ := List.mem_filterMap.mp hMem
            obtain ⟨value, hValue, rfl⟩ := Option.map_eq_some_iff.mp hOther
            rw [bne_iff_ne]
            rintro rfl
            rw [hField] at hValue
            cases hValue
        | some value => simp [hField]
      · have hRest := ih (by simpa [hFirst] using hName)
        have hNe : (name == first) = false := by simpa using hFirst
        cases hField : fields.lookup first with
        | none => simpa [hField] using hRest
        | some value => simpa [hField, List.lookup_cons, hNe] using hRest

end Json
