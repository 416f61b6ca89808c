import Mathlib.Data.List.Nodup
import Mxdx.Foundations.Base64
import Mxdx.Foundations.Calendar
import Mxdx.Foundations.Json

/-! The snapshot of the crypto store: how values that JSON has no form for are
tagged, and how they are read back. JSON texts stand here as the trees that
`JSON.parse` makes of what `JSON.stringify` wrote. -/
namespace Mxdx.Core.PersistentIndexedDB

section Values

/-- Both parts of a pair are smaller than a list that it is in. -/
theorem sizeOf_parts_lt {α β : Type} [SizeOf α] [SizeOf β] {pairs : List (α × β)} {pair : α × β}
    (h : pair ∈ pairs) : sizeOf pair.1 < sizeOf pairs ∧ sizeOf pair.2 < sizeOf pairs := by
  have hPair := List.sizeOf_lt_of_mem h
  obtain ⟨first, second⟩ := pair
  simp only [Prod.mk.sizeOf_spec] at hPair ⊢
  omega

/-- The typed arrays, with the names of their constructors. -/
inductive TypedArray where
  | int8 | uint8 | uint8Clamped | int16 | uint16 | int32 | uint32 | float32 | float64
  | bigInt64 | bigUint64
  deriving DecidableEq

namespace TypedArray

/-- The name of the constructor. -/
def name : TypedArray → String
  | int8 => "Int8Array"
  | uint8 => "Uint8Array"
  | uint8Clamped => "Uint8ClampedArray"
  | int16 => "Int16Array"
  | uint16 => "Uint16Array"
  | int32 => "Int32Array"
  | uint32 => "Uint32Array"
  | float32 => "Float32Array"
  | float64 => "Float64Array"
  | bigInt64 => "BigInt64Array"
  | bigUint64 => "BigUint64Array"

/-- The width of an element. -/
def bytesPerElement : TypedArray → Nat
  | int8 | uint8 | uint8Clamped => 1
  | int16 | uint16 => 2
  | int32 | uint32 | float32 => 4
  | float64 | bigInt64 | bigUint64 => 8

/-- The constructor of a name, if there is one. -/
def ofName (name : String) : Option TypedArray :=
  [int8, uint8, uint8Clamped, int16, uint16, int32, uint32, float32, float64, bigInt64,
    bigUint64].find? (·.name = name)

@[simp] theorem ofName_name (kind : TypedArray) : ofName kind.name = some kind := by
  cases kind <;> decide

end TypedArray

/-- A value that IndexedDB holds. Numbers are compared as `===` does, the two zeros
being one; a buffer is its bytes, a date its milliseconds, and Maps, Sets and
objects list what is in them in their own order. -/
inductive Value (Num : Type) where
  | null
  | bool (value : Bool)
  | num (value : Num)
  | str (value : String)
  | arrayBuffer (bytes : List UInt8)
  | typedArray (kind : TypedArray) (bytes : List UInt8)
  | date (time : Int)
  | map (entries : List (Value Num × Value Num))
  | set (elems : List (Value Num))
  | array (elems : List (Value Num))
  | object (fields : List (String × Value Num))

variable {Num : Type}

/-- Keys of a Map and elements of a Set that are the same one. Only primitive
values are: what is read back has an identity of its own. -/
def sameValueZero [DecidableEq Num] : Value Num → Value Num → Bool
  | .null, .null => true
  | .bool first, .bool second => first = second
  | .num first, .num second => first = second
  | .str first, .str second => first = second
  | _, _ => false

/-- Values that are well formed all through. -/
inductive Value.Valid [DecidableEq Num] : Value Num → Prop
  | null : Valid .null
  | bool (value : Bool) : Valid (.bool value)
  | num (value : Num) : Valid (.num value)
  | str (value : String) : Valid (.str value)
  | arrayBuffer (bytes : List UInt8) : Valid (.arrayBuffer bytes)
  | typedArray (kind : TypedArray) (bytes : List UInt8)
      (hWhole : kind.bytesPerElement ∣ bytes.length) : Valid (.typedArray kind bytes)
  | date (time : Int) (hTime : time.natAbs ≤ Calendar.maxTime) : Valid (.date time)
  | map (entries : List (Value Num × Value Num))
      (hDistinct : entries.Pairwise fun first second => sameValueZero first.1 second.1 = false)
      (hKeys : ∀ entry ∈ entries, Valid entry.1) (hValues : ∀ entry ∈ entries, Valid entry.2) :
      Valid (.map entries)
  | set (elems : List (Value Num))
      (hDistinct : elems.Pairwise fun first second => sameValueZero first second = false)
      (hElems : ∀ elem ∈ elems, Valid elem) : Valid (.set elems)
  | array (elems : List (Value Num)) (hElems : ∀ elem ∈ elems, Valid elem) : Valid (.array elems)
  | object (fields : List (String × Value Num)) (hNames : (fields.map Prod.fst).Nodup)
      (hFields : ∀ field ∈ fields, Valid field.2) : Valid (.object fields)

/-- What a database can hold. -/
structure StoredValue (Num : Type) [DecidableEq Num] where
  value : Value Num
  valid : value.Valid

end Values

section Snapshots

variable {Num Pool : Type}

/-- The values of `__t` that `deserialize` looks for. -/
inductive Tag where
  | AB | TV | D | M | S

/-- The letters that a tag is written with. -/
def Tag.text : Tag → String
  | AB => "AB"
  | TV => "TV"
  | D => "D"
  | M => "M"
  | S => "S"

/-- The tag of an object; any other value of `__t` is a field as others are. -/
def tagOf (fields : List (String × Json Num)) : Option Tag :=
  match fields.lookup "__t" with
  | some (.str text) => [Tag.AB, .TV, .D, .M, .S].find? (·.text = text)
  | _ => none

/-- The tag comes first. -/
def tagged (tag : Tag) (fields : List (String × Json Num)) : Json Num :=
  .obj (("__t", .str tag.text) :: fields)

/-- `result[k] = v` makes a field for each name but one, which stands for the
prototype. -/
def ownFields {α : Type} (fields : List (String × α)) : List (String × α) :=
  fields.filter fun field => field.1 ≠ "__proto__"

/-- Only what JSON has no form for gets a tag. -/
def serialize : Value Num → Json Num
  | .null => .null
  | .bool value => .bool value
  | .num value => .num value
  | .str value => .str value
  | .arrayBuffer bytes => tagged .AB [("d", .str (Base64.encode bytes))]
  | .typedArray kind bytes => tagged .TV [("c", .str kind.name), ("d", .str (Base64.encode bytes))]
  | .date time => tagged .D [("d", .str (Calendar.toISOString time))]
  | .map entries =>
      tagged .M [("d", .arr (entries.map fun entry => .arr [serialize entry.1, serialize entry.2]))]
  | .set elems => tagged .S [("d", .arr (elems.map serialize))]
  | .array elems => .arr (elems.map serialize)
  | .object fields => .obj (ownFields (fields.map fun field => (field.1, serialize field.2)))
decreasing_by
  all_goals simp_wf
  · have hEntry := sizeOf_parts_lt ‹_›
    omega
  · have hEntry := sizeOf_parts_lt ‹_›
    omega
  · have hElem := List.sizeOf_lt_of_mem ‹_›
    omega
  · have hElem := List.sizeOf_lt_of_mem ‹_›
    omega
  · have hField := sizeOf_parts_lt ‹_›
    omega

/-- A buffer, and what stands before and after it in the memory it is cut from. -/
structure Buffer where
  before : List UInt8
  bytes : List UInt8
  after : List UInt8

/-- The whole ArrayBuffer that a buffer is a part of. -/
def Buffer.buffer (buf : Buffer) : List UInt8 := buf.before ++ buf.bytes ++ buf.after

/-- What the code takes from the platform: the buffer that a text is decoded into,
which the platform may cut from a larger pool where the text is short, and what
`Buffer.from`, `new Date` and the constructors of typed arrays make of arguments that
`serialize` does not write. -/
structure Platform (Num Pool : Type) where
  pooled : String → Bool
  allocate : String → Pool → Buffer × Pool
  bufferOf : Option (Json Num) → Pool → Option (Buffer × Pool)
  dateOf : Option (Json Num) → Option Int
  construct : Option (Json Num) → List UInt8 → Option (Value Num)
  allocate_bytes : ∀ text pool,
    (allocate text pool).1.bytes = Base64.decodeLenient text.toList
  allocate_pooled : ∀ text pool, pooled text = true →
    (Base64.decodeLenient text.toList).length < (allocate text pool).1.buffer.length
  allocate_own : ∀ text pool, pooled text = false →
    (allocate text pool).1.buffer = Base64.decodeLenient text.toList
  construct_ne : ∀ name bytes fields, construct name bytes ≠ some (.object fields)

/-- Reading back takes memory from the pool as it goes. It has no answer where it
throws, or where what it makes is no value of these kinds. -/
abbrev Restoring (Pool : Type) := StateT Pool Option

namespace Platform

/-- `Buffer.from(data, 'base64')`. -/
def bufferFrom (platform : Platform Num Pool) (data : Option (Json Num)) :
    Restoring Pool Buffer := fun pool =>
  match data with
  | some (.str text) => some (platform.allocate text pool)
  | _ => platform.bufferOf data pool

/-- `new Date(data)`. -/
def newDate (platform : Platform Num Pool) (data : Option (Json Num)) : Option Int :=
  match data with
  | some (.str text) => (Calendar.ofISOString text).or (platform.dateOf data)
  | _ => platform.dateOf data

/-- `new (globalThis[name] || Uint8Array)(bytes)`. -/
def newTypedArray (platform : Platform Num Pool) (name : Option (Json Num))
    (bytes : List UInt8) : Option (Value Num) :=
  match name with
  | some (.str text) =>
      match TypedArray.ofName text with
      | some kind =>
          if kind.bytesPerElement ∣ bytes.length then some (.typedArray kind bytes) else none
      | none => platform.construct name bytes
  | _ => platform.construct name bytes

end Platform

section Collections

variable [DecidableEq Num]

/-- One more item; where the same one is there already, that is updated. -/
def put {α : Type} (same : α → α → Bool) (update : α → α → α) (kept : List α) (item : α) :
    List α :=
  if kept.any (same · item) then kept.map fun old => if same old item then update old item else old
  else kept ++ [item]

/-- Items that count as the same are brought together. -/
def collect {α : Type} (same : α → α → Bool) (update : α → α → α) (items : List α) : List α :=
  items.foldl (put same update) []

/-- The later value takes the place of the earlier. -/
def newMap (entries : List (Value Num × Value Num)) : List (Value Num × Value Num) :=
  collect (fun first second => sameValueZero first.1 second.1)
    (fun old entry => (old.1, entry.2)) entries

/-- The first of two that are the same stays. -/
def newSet (elems : List (Value Num)) : List (Value Num) :=
  collect sameValueZero (fun old _ => old) elems

end Collections

/-- Setting the prototype to a primitive value does nothing, unless it is null. -/
def Value.isPrototype : Value Num → Bool
  | .bool _ | .num _ | .str _ => false
  | _ => true

/-- An object with these fields assigned to it; with another prototype it is no
plain object. -/
def assign (fields : List (String × Value Num)) : Option (List (String × Value Num)) :=
  if fields.any fun field => field.1 = "__proto__" ∧ field.2.isPrototype then none
  else some (ownFields fields)

theorem sizeOf_lookup_lt {fields : List (String × Json Num)} {name : String} {value : Json Num}
    (h : fields.lookup name = some value) : sizeOf value < sizeOf fields := by
  obtain ⟨before, after, rfl, -⟩ := List.lookup_eq_some_iff.mp h
  have hMem : (name, value) ∈ before ++ (name, value) :: after := by simp
  exact (sizeOf_parts_lt hMem).2

variable [DecidableEq Num]

/-- What looks like a tag is taken for one. -/
def deserialize (platform : Platform Num Pool) (json : Json Num) : Restoring Pool (Value Num) :=
  match json with
  | .null => return .null
  | .bool value => return .bool value
  | .num value => return .num value
  | .str value => return .str value
  | .arr elems => return .array (← elems.mapM fun elem => deserialize platform elem)
  | .obj fields =>
      match tagOf fields with
      | some .AB => return .arrayBuffer (← platform.bufferFrom (fields.lookup "d")).buffer
      | some .TV => do
          let buf ← platform.bufferFrom (fields.lookup "d")
          platform.newTypedArray (fields.lookup "c") buf.bytes
      | some .D => return .date (← platform.newDate (fields.lookup "d"))
      | some .M =>
          match _hData : fields.lookup "d" with
          | some (.arr pairs) => return .map (newMap (← pairs.attach.mapM fun
              | ⟨.arr (key :: value :: _), _⟩ =>
                  return (← deserialize platform key, ← deserialize platform value)
              -- A text comes apart into its characters.
              | ⟨.str text, _⟩ =>
                  match text.toList with
                  | key :: value :: _ =>
                      return (.str (String.singleton key), .str (String.singleton value))
                  | _ => failure
              | _ => failure))
          | _ => failure
      | some .S =>
          match _hData : fields.lookup "d" with
          | some (.arr elems) =>
              return .set (newSet (← elems.attach.mapM fun elem => deserialize platform elem.1))
          | _ => failure
      | none => do
          let fields ← fields.mapM fun field => return (field.1, ← deserialize platform field.2)
          return .object (← assign fields)
termination_by sizeOf json
decreasing_by
  all_goals simp_wf
  · have hElem := List.sizeOf_lt_of_mem ‹_›
    omega
  · have hPairs := sizeOf_lookup_lt _hData
    have hPair := List.sizeOf_lt_of_mem ‹_›
    simp at hPairs hPair
    omega
  · have hPairs := sizeOf_lookup_lt _hData
    have hPair := List.sizeOf_lt_of_mem ‹_›
    simp at hPairs hPair
    omega
  · have hElems := sizeOf_lookup_lt _hData
    have hElem := List.sizeOf_lt_of_mem elem.2
    simp at hElems
    omega
  · have hField := sizeOf_parts_lt ‹_›
    omega

end Snapshots

section Answers

variable {Pool α β γ : Type}

/-- A run from here gets through and ends with this answer. -/
def Answers (run : Restoring Pool α) (pool : Pool) (answer : α) : Prop :=
  ∃ rest, run pool = some (answer, rest)

@[simp] theorem answers_pure {pool : Pool} {value answer : α} :
    Answers (pure value) pool answer ↔ value = answer := by
  show (∃ rest, some (value, pool) = some (answer, rest)) ↔ value = answer
  simp

theorem run'_eq_some_iff {run : Restoring Pool α} {pool : Pool} {answer : α} :
    run.run' pool = some answer ↔ Answers run pool answer := by
  simp [StateT.run', Answers]

theorem answers_bind {run : Restoring Pool α} {next : α → Restoring Pool β} {pool : Pool}
    {answer : β} :
    Answers (run >>= next) pool answer ↔
      ∃ value rest, run pool = some (value, rest) ∧ Answers (next value) rest answer := by
  simp only [Answers, bind, StateT.bind, Option.bind_eq_some_iff, Prod.exists]
  constructor
  · rintro ⟨rest, value, mid, hRun, hNext⟩
    exact ⟨value, mid, hRun, rest, hNext⟩
  · rintro ⟨value, mid, hRun, rest, hNext⟩
    exact ⟨rest, value, mid, hRun, hNext⟩

@[simp] theorem answers_map {run : Restoring Pool α} {f : α → β} {pool : Pool} {answer : β} :
    Answers (f <$> run) pool answer ↔ ∃ value, Answers run pool value ∧ f value = answer := by
  rw [map_eq_pure_bind, answers_bind]
  constructor
  · rintro ⟨value, rest, hRun, hValue⟩
    exact ⟨value, ⟨rest, hRun⟩, answers_pure.mp hValue⟩
  · rintro ⟨value, ⟨rest, hRun⟩, hValue⟩
    exact ⟨value, rest, hRun, answers_pure.mpr hValue⟩

@[simp] theorem not_answers_failure {pool : Pool} {answer : α} :
    ¬ Answers (failure : Restoring Pool α) pool answer := by
  rintro ⟨rest, hRun⟩
  cases hRun

@[simp] theorem answers_lift {value : Option α} {pool : Pool} {answer : α} :
    Answers (liftM value) pool answer ↔ value = some answer := by
  cases value <;> simp [Answers, liftM, monadLift, MonadLift.monadLift, StateT.lift]

/-- Where each item comes back just if `P` holds of it, the items together come
back just if it holds of all of them. -/
theorem answers_mapM_iff {items : List α} {read : α → Restoring Pool α} {P : α → Prop}
    (hItems : ∀ item ∈ items, ∀ pool, Answers (read item) pool item ↔ P item) (pool : Pool) :
    Answers (items.mapM read) pool items ↔ ∀ item ∈ items, P item := by
  induction items generalizing pool with
  | nil => simp
  | cons item items ih =>
      have hHead := hItems item (by simp)
      have hTail := ih fun item hItem => hItems item (by simp [hItem])
      simp only [List.mapM_cons, answers_bind, answers_pure, List.forall_mem_cons]
      constructor
      · rintro ⟨head, rest, hRead, tail, last, hReads, hEq⟩
        obtain ⟨rfl, rfl⟩ := List.cons_eq_cons.mp hEq
        exact ⟨(hHead pool).mp ⟨rest, hRead⟩, (hTail rest).mp ⟨last, hReads⟩⟩
      · rintro ⟨hItem, hAll⟩
        obtain ⟨rest, hRead⟩ := (hHead pool).mpr hItem
        obtain ⟨last, hReads⟩ := (hTail rest).mpr hAll
        exact ⟨item, rest, hRead, items, last, hReads, rfl⟩

theorem length_of_mapM {items : List α} {read : α → Restoring Pool β} {pool : Pool}
    {answers : List β} (h : Answers (items.mapM read) pool answers) :
    answers.length = items.length := by
  induction items generalizing pool answers with
  | nil =>
      simp only [List.mapM_nil, answers_pure] at h
      simp [← h]
  | cons item items ih =>
      simp only [List.mapM_cons, answers_bind, answers_pure] at h
      obtain ⟨head, rest, -, tail, last, hReads, rfl⟩ := h
      simpa using ih ⟨last, hReads⟩

end Answers

section Collecting

variable {α : Type} {same : α → α → Bool} {update : α → α → α}

variable (same update) in
theorem length_foldl_put_le (kept items : List α) :
    (items.foldl (put same update) kept).length ≤ kept.length + items.length := by
  induction items generalizing kept with
  | nil => simp
  | cons item items ih =>
      have hPut : (put same update kept item).length ≤ kept.length + 1 := by
        unfold put
        split <;> simp
      have hRest := ih (put same update kept item)
      simp only [List.foldl_cons, List.length_cons]
      omega

/-- No item is updated where none is missing at the end. -/
theorem foldl_put_of_length {kept items : List α}
    (h : (items.foldl (put same update) kept).length = kept.length + items.length) :
    items.foldl (put same update) kept = kept ++ items := by
  induction items generalizing kept with
  | nil => simp
  | cons item items ih =>
      have hRest := length_foldl_put_le same update (put same update kept item) items
      simp only [List.foldl_cons, List.length_cons] at h ⊢
      have hPut : put same update kept item = kept ++ [item] := by
        by_cases hSame : kept.any (same · item) = true
        · simp only [put, hSame, if_true, List.length_map] at h hRest
          omega
        · simp [put, hSame]
      rw [hPut] at h ⊢
      have hLength : (kept ++ [item]).length = kept.length + 1 := List.length_append
      rw [ih (by omega), List.append_assoc, List.singleton_append]

theorem foldl_put_eq_append {kept items : List α}
    (h : (kept ++ items).Pairwise fun first second => same first second = false) :
    items.foldl (put same update) kept = kept ++ items := by
  induction items generalizing kept with
  | nil => simp
  | cons item items ih =>
      have hNone : kept.any (same · item) = false := by
        rw [List.any_eq_false]
        intro old hOld
        rw [(List.pairwise_append.mp h).2.2 old hOld item (by simp)]
        exact Bool.false_ne_true
      have hRest : ((kept ++ [item]) ++ items).Pairwise fun first second =>
          same first second = false := by simpa using h
      simpa [put, hNone] using ih hRest

/-- What collects to items that are all distinct, and as many, are these items. -/
theorem collect_eq_iff {items wanted : List α} (hLength : items.length = wanted.length)
    (hWanted : wanted.Pairwise fun first second => same first second = false) :
    collect same update items = wanted ↔ items = wanted := by
  constructor
  · intro h
    have hItems : collect same update items = items :=
      foldl_put_of_length (by rw [← collect, h, List.length_nil, Nat.zero_add, hLength])
    rw [← hItems, h]
  · rintro rfl
    exact foldl_put_eq_append hWanted

variable (update) in
theorem answers_collect_iff {Pool : Type} {items : List α} {read : α → Restoring Pool α}
    {P : α → Prop} (hDistinct : items.Pairwise fun first second => same first second = false)
    (hItems : ∀ item ∈ items, ∀ pool, Answers (read item) pool item ↔ P item) (pool : Pool) :
    (∃ found, Answers (items.mapM read) pool found ∧ collect same update found = items) ↔
      ∀ item ∈ items, P item := by
  rw [← answers_mapM_iff hItems pool]
  constructor
  · rintro ⟨found, hFound, hCollect⟩
    rwa [(collect_eq_iff (length_of_mapM hFound) hDistinct).mp hCollect] at hFound
  · intro hItems
    exact ⟨items, hItems, (collect_eq_iff rfl hDistinct).mpr rfl⟩

end Collecting

section RoundTrip

variable {Num Pool : Type}

/-- The values that a snapshot keeps: no ArrayBuffer in them is small enough for the
pool, and no object has a field of the name `__proto__` or looks like a tag. -/
inductive Value.Kept (platform : Platform Num Pool) : Value Num → Prop
  | null : Kept platform .null
  | bool (value : Bool) : Kept platform (.bool value)
  | num (value : Num) : Kept platform (.num value)
  | str (value : String) : Kept platform (.str value)
  | arrayBuffer (bytes : List UInt8) (hOwn : platform.pooled (Base64.encode bytes) = false) :
      Kept platform (.arrayBuffer bytes)
  | typedArray (kind : TypedArray) (bytes : List UInt8) : Kept platform (.typedArray kind bytes)
  | date (time : Int) : Kept platform (.date time)
  | map (entries : List (Value Num × Value Num)) (hKeys : ∀ entry ∈ entries, Kept platform entry.1)
      (hValues : ∀ entry ∈ entries, Kept platform entry.2) : Kept platform (.map entries)
  | set (elems : List (Value Num)) (hElems : ∀ elem ∈ elems, Kept platform elem) :
      Kept platform (.set elems)
  | array (elems : List (Value Num)) (hElems : ∀ elem ∈ elems, Kept platform elem) :
      Kept platform (.array elems)
  | object (fields : List (String × Value Num)) (hNames : "__proto__" ∉ fields.map Prod.fst)
      (hTag : ∀ tag : Tag, fields.lookup "__t" ≠ some (.str tag.text))
      (hFields : ∀ field ∈ fields, Kept platform field.2) : Kept platform (.object fields)

variable (platform : Platform Num Pool)

theorem decodeLenient_encode (bytes : List UInt8) :
    Base64.decodeLenient (Base64.encode bytes).toList = bytes := by
  simp [Base64.encode, Base64.decodeLenient_encodeChars]

theorem answers_bufferFrom (bytes : List UInt8) (pool : Pool) {buf : Buffer} :
    Answers (platform.bufferFrom (some (.str (Base64.encode bytes)))) pool buf ↔
      (platform.allocate (Base64.encode bytes) pool).1 = buf := by
  simp [Answers, Platform.bufferFrom, Prod.ext_iff]

/-- The memory of a buffer is its bytes unless it is cut from the pool. -/
theorem buffer_allocate_iff (bytes : List UInt8) (pool : Pool) :
    (platform.allocate (Base64.encode bytes) pool).1.buffer = bytes ↔
      platform.pooled (Base64.encode bytes) = false := by
  constructor
  · intro hBuffer
    by_contra hPooled
    have hLonger := platform.allocate_pooled (Base64.encode bytes) pool (by simpa using hPooled)
    rw [hBuffer, decodeLenient_encode] at hLonger
    omega
  · intro hOwn
    rw [platform.allocate_own _ pool hOwn, decodeLenient_encode]

theorem tagOf_tagged (tag : Tag) (fields : List (String × Json Num)) :
    tagOf (("__t", .str tag.text) :: fields) = some tag := by
  cases tag <;> simp [tagOf, Tag.text]

theorem tagOf_eq_none_iff {fields : List (String × Json Num)} :
    tagOf fields = none ↔ ∀ tag : Tag, fields.lookup "__t" ≠ some (.str tag.text) := by
  constructor
  · intro h tag hTag
    rw [tagOf, hTag] at h
    cases tag <;> simp [Tag.text] at h
  · intro h
    unfold tagOf
    split
    next text hText =>
        rw [List.find?_eq_none]
        intro tag _ hTag
        exact h tag (by rw [hText, of_decide_eq_true hTag])
    next => rfl

theorem ownFields_eq_self {α : Type} {fields : List (String × α)}
    (h : "__proto__" ∉ fields.map Prod.fst) : ownFields fields = fields := by
  apply List.filter_eq_self.mpr
  intro field hField
  rw [decide_eq_true_iff]
  intro hName
  exact h (hName ▸ List.mem_map_of_mem hField)

theorem not_mem_ownFields {α : Type} (fields : List (String × α)) :
    "__proto__" ∉ (ownFields fields).map Prod.fst := by
  simp [ownFields]

theorem eq_of_assign {fields wanted : List (String × Value Num)}
    (h : assign fields = some wanted) : ownFields fields = wanted := by
  unfold assign at h
  split at h
  · cases h
  · exact Option.some.inj h

theorem assign_eq_self {fields : List (String × Value Num)}
    (h : "__proto__" ∉ fields.map Prod.fst) : assign fields = some fields := by
  have hNone : (fields.any fun field => field.1 = "__proto__" ∧ field.2.isPrototype) = false := by
    rw [List.any_eq_false]
    intro field hField hPrototype
    have hName := (of_decide_eq_true hPrototype).1
    exact h (hName ▸ List.mem_map_of_mem hField)
  rw [assign, hNone, ownFields_eq_self h]
  rfl

/-- Where the fields read are assigned to an object again, none of them was lost. -/
theorem answers_assign_iff {items : List (String × Value Num)}
    {read : String × Value Num → Restoring Pool (String × Value Num)}
    (hNames : "__proto__" ∉ items.map Prod.fst) (pool : Pool) :
    (∃ found, Answers (items.mapM read) pool found ∧ assign found = some items) ↔
      Answers (items.mapM read) pool items := by
  constructor
  · rintro ⟨found, hFound, hAssign⟩
    have hOwn := eq_of_assign hAssign
    have hLength : (ownFields found).length = found.length := by
      rw [hOwn, length_of_mapM hFound]
    have hAll : ownFields found = found := (List.filter_sublist).eq_of_length hLength
    rwa [← hAll, hOwn] at hFound
  · exact fun hFound => ⟨items, hFound, assign_eq_self hNames⟩

theorem lookup_map {α β : Type} (f : α → β) (name : String) (fields : List (String × α)) :
    (fields.map fun field => (field.1, f field.2)).lookup name = (fields.lookup name).map f := by
  induction fields with
  | nil => rfl
  | cons field fields ih =>
      rw [List.map_cons, List.lookup_cons, List.lookup_cons, ih]
      split <;> rfl

theorem serialize_eq_str_iff {value : Value Num} {text : String} :
    serialize value = .str text ↔ value = .str text := by
  cases value <;> simp [serialize, tagged]

theorem kept_map_iff (entries : List (Value Num × Value Num)) :
    (Value.map entries).Kept platform ↔ ∀ entry ∈ entries, entry.1.Kept platform ∧ entry.2.Kept platform := by
  constructor
  · intro h entry hEntry
    cases h with
    | map _ hKeys hValues => exact ⟨hKeys entry hEntry, hValues entry hEntry⟩
  · exact fun h => .map entries (fun entry hEntry => (h entry hEntry).1)
      fun entry hEntry => (h entry hEntry).2

theorem kept_object_iff (fields : List (String × Value Num)) :
    (Value.object fields).Kept platform ↔ "__proto__" ∉ fields.map Prod.fst ∧
      tagOf (fields.map fun field => (field.1, serialize field.2)) = none ∧
        ∀ field ∈ fields, field.2.Kept platform := by
  have hTags : tagOf (fields.map fun field => (field.1, serialize field.2)) = none ↔
      ∀ tag : Tag, fields.lookup "__t" ≠ some (.str tag.text) := by
    rw [tagOf_eq_none_iff]
    apply forall_congr'
    intro tag
    simp [lookup_map, serialize_eq_str_iff]
  rw [hTags]
  constructor
  · intro h
    cases h with
    | object _ hNames hTag hFields => exact ⟨hNames, hTag, hFields⟩
  · exact fun ⟨hNames, hTag, hFields⟩ => .object fields hNames hTag hFields

theorem newTypedArray_ne_object (name : Option (Json Num)) (bytes : List UInt8)
    (fields : List (String × Value Num)) :
    platform.newTypedArray name bytes ≠ some (.object fields) := by
  unfold Platform.newTypedArray
  split
  next =>
    split
    next => split <;> simp
    next => exact platform.construct_ne _ _ _
  next => exact platform.construct_ne _ _ _

variable [DecidableEq Num]

/-- An entry of a Map, taken apart as an array or a text is. -/
def readEntry (pair : Json Num) : Restoring Pool (Value Num × Value Num) :=
  match pair with
  | .arr (key :: value :: _) =>
      return (← deserialize platform key, ← deserialize platform value)
  | .str text =>
      match text.toList with
      | key :: value :: _ =>
          return (.str (String.singleton key), .str (String.singleton value))
      | _ => failure
  | _ => failure

theorem deserialize_pairs {fields : List (String × Json Num)} {pairs : List (Json Num)}
    (hTag : tagOf fields = some .M) (hData : fields.lookup "d" = some (.arr pairs)) :
    deserialize platform (.obj fields) =
      (fun entries => .map (newMap entries)) <$> pairs.mapM (readEntry platform) := by
  rw [deserialize, hTag]
  dsimp only
  split
  next hPairs =>
      obtain ⟨rfl⟩ := hData.symm.trans hPairs
      have hEntries : pairs.attach.mapM (fun pair => readEntry platform pair.1) =
          pairs.mapM (readEntry platform) := by
        simp
      rw [← hEntries, map_eq_pure_bind]
      congr 2
      funext ⟨pair, hPair⟩
      cases pair with
      | arr elems => rcases elems with _ | ⟨key, _ | ⟨value, rest⟩⟩ <;> rfl
      | null | bool _ | num _ | str _ | obj _ => rfl
  next hOther => exact absurd hData (hOther _)

/-- What has a tag is read as no object. -/
theorem not_answers_object {fields : List (String × Json Num)} {tag : Tag}
    (hTag : tagOf fields = some tag) (pool : Pool) (wanted : List (String × Value Num)) :
    ¬ Answers (deserialize platform (.obj fields)) pool (.object wanted) := by
  rw [deserialize, hTag]
  cases tag with
  | AB => simp
  | TV => simp [answers_bind, newTypedArray_ne_object]
  | D => simp
  | M =>
      dsimp only
      split <;> simp
  | S =>
      dsimp only
      split <;> simp

theorem answers_readEntry {key value : Value Num}
    (hKey : ∀ pool, Answers (deserialize platform (serialize key)) pool key ↔ key.Kept platform)
    (hValue : ∀ pool, Answers (deserialize platform (serialize value)) pool value ↔ value.Kept platform)
    (pool : Pool) :
    Answers (readEntry platform (.arr [serialize key, serialize value])) pool (key, value) ↔
      key.Kept platform ∧ value.Kept platform := by
  simp only [readEntry, answers_bind, answers_pure, Prod.mk.injEq]
  constructor
  · rintro ⟨_, rest, hFirst, _, last, hSecond, rfl, rfl⟩
    exact ⟨(hKey pool).mp ⟨rest, hFirst⟩, (hValue rest).mp ⟨last, hSecond⟩⟩
  · rintro ⟨hFirst, hSecond⟩
    obtain ⟨rest, hFirst⟩ := (hKey pool).mpr hFirst
    obtain ⟨last, hSecond⟩ := (hValue rest).mpr hSecond
    exact ⟨key, rest, hFirst, value, last, hSecond, rfl, rfl⟩

theorem answers_untagged_iff {fields : List (String × Json Num)} (hTag : tagOf fields = none)
    (pool : Pool) (wanted : List (String × Value Num)) :
    Answers (deserialize platform (.obj fields)) pool (.object wanted) ↔
      ∃ found, Answers (fields.mapM fun field =>
        return (field.1, ← deserialize platform field.2)) pool found ∧
          assign found = some wanted := by
  rw [deserialize, hTag]
  dsimp only
  rw [answers_bind]
  constructor
  · rintro ⟨found, rest, hFound, hAssign⟩
    exact ⟨found, ⟨rest, hFound⟩, by simpa using hAssign⟩
  · rintro ⟨found, ⟨rest, hFound⟩, hAssign⟩
    exact ⟨found, rest, hFound, by simpa using hAssign⟩

/-- An object comes back just if it keeps all its fields and is taken for no tag. -/
theorem answers_object {fields : List (String × Value Num)}
    (hFields : ∀ field ∈ fields, ∀ pool,
      Answers (deserialize platform (serialize field.2)) pool field.2 ↔ field.2.Kept platform)
    (pool : Pool) :
    Answers (deserialize platform (serialize (.object fields))) pool (.object fields) ↔
      (Value.object fields).Kept platform := by
  rw [serialize, kept_object_iff]
  by_cases hNames : "__proto__" ∈ fields.map Prod.fst
  · apply iff_of_false _ fun hKept => hKept.1 hNames
    intro hObject
    cases hTag : tagOf (ownFields (fields.map fun field => (field.1, serialize field.2))) with
    | some tag => exact not_answers_object platform hTag pool fields hObject
    | none =>
        obtain ⟨found, -, hAssign⟩ := (answers_untagged_iff platform hTag pool fields).mp hObject
        exact not_mem_ownFields found (eq_of_assign hAssign ▸ hNames)
  · rw [ownFields_eq_self (by simpa using hNames)]
    cases hTag : tagOf (fields.map fun field => (field.1, serialize field.2)) with
    | some tag => simpa using not_answers_object platform hTag pool fields
    | none =>
        have hReads : Answers (fields.mapM fun field =>
            (field.1, ·) <$> deserialize platform (serialize field.2)) pool fields ↔
              ∀ field ∈ fields, field.2.Kept platform := by
          apply answers_mapM_iff
          rintro ⟨name, value⟩ hField pool
          simpa using hFields (name, value) hField pool
        rw [answers_untagged_iff platform hTag]
        simpa [Function.comp_def, hNames] using (answers_assign_iff hNames pool).trans hReads

theorem answers_serialize {value : Value Num} (hValid : value.Valid) (pool : Pool) :
    Answers (deserialize platform (serialize value)) pool value ↔ value.Kept platform := by
  induction value using serialize.induct generalizing pool with
  | case1 => simp [serialize, deserialize, Value.Kept.null]
  | case2 value => simp [serialize, deserialize, Value.Kept.bool]
  | case3 value => simp [serialize, deserialize, Value.Kept.num]
  | case4 value => simp [serialize, deserialize, Value.Kept.str]
  | case5 bytes =>
      have hKept : (Value.arrayBuffer bytes : Value Num).Kept platform ↔
          platform.pooled (Base64.encode bytes) = false :=
        ⟨fun h => by cases h; assumption, .arrayBuffer bytes⟩
      simp [serialize, tagged, deserialize, tagOf_tagged, List.lookup_cons, answers_bufferFrom,
        buffer_allocate_iff, hKept]
  | case6 kind bytes =>
      cases hValid with
      | typedArray _ _ hWhole =>
          apply iff_of_true _ (.typedArray kind bytes)
          obtain ⟨rest, hBuffer⟩ := (answers_bufferFrom platform bytes pool).mpr rfl
          simp [serialize, tagged, deserialize, tagOf_tagged, List.lookup_cons, answers_bind,
            Platform.newTypedArray, hBuffer, platform.allocate_bytes, decodeLenient_encode, hWhole]
  | case7 time =>
      cases hValid with
      | date _ hTime =>
          apply iff_of_true _ (.date time)
          simp [serialize, tagged, deserialize, tagOf_tagged, List.lookup_cons, Platform.newDate,
            Calendar.ofISOString_toISOString hTime]
  | case8 entries ihKeys ihValues =>
      cases hValid with
      | map _ hDistinct hKeys hValues =>
          have hEntries : ∀ entry ∈ entries, ∀ pool,
              Answers (readEntry platform (.arr [serialize entry.1, serialize entry.2])) pool
                (entry.1, entry.2) ↔ entry.1.Kept platform ∧ entry.2.Kept platform :=
            fun entry hEntry => answers_readEntry platform
              (ihKeys entry hEntry (hKeys entry hEntry))
              (ihValues entry hEntry (hValues entry hEntry))
          have hCollect := answers_collect_iff (fun old entry => (old.1, entry.2)) hDistinct
            hEntries pool
          rw [serialize, tagged, deserialize_pairs platform (tagOf_tagged _ _)
            (List.lookup_cons.trans rfl)]
          simpa [kept_map_iff, newMap, Function.comp_def] using hCollect
  | case9 elems ih =>
      cases hValid with
      | set _ hDistinct hElems =>
          have hKept : (Value.set elems).Kept platform ↔ ∀ elem ∈ elems, elem.Kept platform :=
            ⟨fun h => by cases h; assumption, .set elems⟩
          have hCollect := answers_collect_iff (fun old _ => old) hDistinct
            (fun elem hElem pool => ih elem hElem (hElems elem hElem) pool) pool
          simpa [serialize, tagged, deserialize, tagOf_tagged, List.lookup_cons, hKept, newSet,
            Function.comp_def] using hCollect
  | case10 elems ih =>
      cases hValid with
      | array _ hElems =>
          have hKept : (Value.array elems).Kept platform ↔ ∀ elem ∈ elems, elem.Kept platform :=
            ⟨fun h => by cases h; assumption, .array elems⟩
          have hReads := answers_mapM_iff
            (fun elem hElem pool => ih elem hElem (hElems elem hElem) pool) pool
          simpa [serialize, deserialize, hKept, Function.comp_def] using hReads
  | case11 fields ih =>
      cases hValid with
      | object _ hNames hFields =>
          exact answers_object platform
            (fun field hField => ih field hField (hFields field hField)) pool

/-- A stored value comes back from its snapshot as it was exactly if no ArrayBuffer for
the pool and no misleading field name is in it. -/
theorem restored_iff_kept (stored : StoredValue Num) (pool : Pool) :
    (deserialize platform (serialize stored.value)).run' pool = some stored.value ↔
      stored.value.Kept platform := by
  rw [run'_eq_some_iff, answers_serialize platform stored.valid pool]

end RoundTrip

section SmallBuffers

/-- The size of the memory that small buffers are cut from. -/
def poolSize : Nat := 8192

/-- A platform that puts every short text, but the empty one, at the beginning of a pool
of its own. -/
def freshPlatform : Platform Nat Unit where
  pooled text := text ≠ "" ∧ text.length < poolSize / 2
  allocate text pool :=
    let bytes := Base64.decodeLenient text.toList
    let rest := if text ≠ "" ∧ text.length < poolSize / 2 then poolSize - bytes.length else 0
    (⟨[], bytes, List.replicate rest 0⟩, pool)
  bufferOf _ _ := none
  dateOf _ := none
  construct _ _ := none
  allocate_bytes _ _ := rfl
  allocate_pooled text pool hPooled := by
    have hShort := of_decide_eq_true hPooled
    have hLength : (Base64.decodeLenient text.toList).length ≤ text.length :=
      Base64.length_decodeLenient_le text.toList
    have hSize : poolSize = 8192 := rfl
    simp only [Buffer.buffer, if_pos hShort, List.length_append, List.length_replicate,
      List.length_nil]
    omega
  allocate_own text pool hOwn := by
    have hLong := of_decide_eq_false hOwn
    simp only [Buffer.buffer, if_neg hLong, List.replicate_zero, List.nil_append, List.append_nil]
  construct_ne _ _ _ := by simp

/-- Three bytes come back as the whole pool. -/
theorem not_restored_arrayBuffer :
    ¬ ∀ stored : StoredValue Nat,
      (deserialize freshPlatform (serialize stored.value)).run' () = some stored.value := by
  intro h
  have hBytes := h ⟨.arrayBuffer [1, 2, 3], .arrayBuffer _⟩
  rw [run'_eq_some_iff, answers_serialize freshPlatform (.arrayBuffer _)] at hBytes
  cases hBytes with
  | arrayBuffer _ hOwn =>
      revert hOwn
      decide

end SmallBuffers

end Mxdx.Core.PersistentIndexedDB
