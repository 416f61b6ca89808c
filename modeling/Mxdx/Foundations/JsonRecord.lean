import Mxdx.Foundations.JsonText

/-! Records read straight from their text. A reader that keeps values takes the last of two
fields of one name; one that fills a record as it reads refuses the second, and it takes an
array in the order of the names as well. -/
namespace JsonText

variable {Num : Type} {α : Type} (numerals : Numerals Num)

/-- The fields of the object that a text is, as often as they stand in it. -/
def parseFields (text : List Char) : Option (List (String × Json Num)) :=
  match skipBlanks text with
  | '\x7b' :: rest =>
      match skipBlanks rest with
      | '\x7d' :: rest => if skipBlanks rest = [] then some [] else none
      | _ =>
          match fields numerals (2 * text.length) (text.length - 1) rest with
          | some (found, rest) => if skipBlanks rest = [] then some found else none
          | none => none
  | _ => none

/-- A record read from its text; none of its names stands twice. -/
def record (names : List String) (needed : Nat) (read : (String → Option (Json Num)) → Option α)
    (text : List Char) : Option α :=
  match parseFields numerals text with
  | some found =>
      if ∀ name ∈ names, (found.map Prod.fst).count name ≤ 1 then
        (Json.obj found).asRecord names needed read
      else none
  | none =>
      match parse numerals text.length text with
      | some (.arr elems) => (Json.arr elems).asRecord names needed read
      | _ => none

variable {numerals}

/-- A name that stands once is found either way. -/
theorem lookup_latest {name : String} {found : List (String × α)}
    (h : (found.map Prod.fst).count name ≤ 1) : (latest found).lookup name = found.lookup name := by
  induction found with
  | nil => rfl
  | cons field found ih =>
      obtain ⟨first, value⟩ := field
      rw [List.map_cons, List.count_cons] at h
      by_cases hName : first = name
      · subst hName
        rw [beq_self_eq_true, if_pos rfl] at h
        have hNone : first ∉ found.map Prod.fst := List.count_eq_zero.mp (by omega)
        rw [latest, if_neg hNone, List.lookup_cons_self, List.lookup_cons_self]
      · have hNe : (name == first) = false := beq_false_of_ne (Ne.symm hName)
        have hFound := ih (by omega)
        rw [latest]
        split_ifs
        · rw [hFound, List.lookup_cons, hNe]
        · rw [List.lookup_cons, hNe, hFound, List.lookup_cons, hNe]

/-- A record is read between its braces, empty or not. -/
theorem parseFields_cases {text : List Char} {found : List (String × Json Num)}
    (h : parseFields numerals text = some found) :
    ∃ rest behind, skipBlanks text = '\x7b' :: rest ∧ skipBlanks behind = [] ∧
      (skipBlanks rest = '\x7d' :: behind ∧ found = [] ∨
        (∀ other, skipBlanks rest ≠ '\x7d' :: other) ∧
          fields numerals (2 * text.length) (text.length - 1) rest = some (found, behind)) := by
  rw [parseFields] at h
  split at h
  · rename_i rest hText
    split at h
    · rename_i behind hEmpty
      split_ifs at h with hEnd
      obtain rfl := Option.some.inj h
      exact ⟨rest, behind, hText, hEnd, .inl ⟨hEmpty, rfl⟩⟩
    · rename_i hOther
      split at h
      · rename_i read behind hRead
        split_ifs at h with hEnd
        obtain rfl := Option.some.inj h
        exact ⟨rest, behind, hText, hEnd, .inr ⟨hOther, hRead⟩⟩
      · cases h
  · cases h

section Value

variable {fuel depth : Nat} {text rest behind : List Char}

theorem value_empty (hText : skipBlanks text = '\x7b' :: rest) (hDepth : depth ≠ 0)
    (hEmpty : skipBlanks rest = '\x7d' :: behind) :
    value numerals (fuel + 1) depth text = some (.obj [], behind) := by
  simp only [value, hText, hDepth, if_false, hEmpty]

theorem value_fields {found : List (String × Json Num)} (hText : skipBlanks text = '\x7b' :: rest)
    (hDepth : depth ≠ 0) (hOther : ∀ other, skipBlanks rest ≠ '\x7d' :: other)
    (hFound : fields numerals fuel (depth - 1) rest = some (found, behind)) :
    value numerals (fuel + 1) depth text = some (.obj (latest found), behind) := by
  simp only [value, hText, hDepth, if_false, hFound, Option.map_some]

end Value

/-- A reader that keeps values reads the same object, each name with its last value. -/
theorem parse_of_parseFields {text : List Char} {found : List (String × Json Num)}
    (h : parseFields numerals text = some found) :
    parse numerals text.length text = some (.obj (latest found)) := by
  obtain ⟨rest, behind, hText, hEnd, hCases⟩ := parseFields_cases h
  have hDepth : text.length ≠ 0 := by
    intro hZero
    rw [List.length_eq_zero_iff.mp hZero] at hText
    cases hText
  have hValue : value numerals (2 * text.length + 1) text.length text =
      some (.obj (latest found), behind) := by
    rcases hCases with ⟨hEmpty, rfl⟩ | ⟨hOther, hFound⟩
    · exact value_empty hText hDepth hEmpty
    · exact value_fields hText hDepth hOther hFound
  rw [parse, hValue]
  exact if_pos hEnd

/-- A record is read field by field as it was written. -/
theorem parseFields_write {written : List (String × Json Num)} (hNe : written ≠ [])
    (h : ∀ depth, ∀ field ∈ written, Writable numerals depth field.2) :
    parseFields numerals (write numerals (.obj written)) = some written := by
  have hLength : ([','].intercalate (fieldTexts numerals written)).length <
      (write numerals (.obj written)).length := by
    rw [write, List.length_cons, List.length_append]
    omega
  have hFields := @fields_write Num numerals ((write numerals (.obj written)).length - 1) written
    (2 * (write numerals (.obj written)).length) [] hNe
    (fun field hField => back_of_writable (h _ field hField)) (by omega)
  obtain ⟨first, others, rfl⟩ := List.exists_cons_of_ne_nil hNe
  obtain ⟨behind, hBehind⟩ := intercalate_begins '"' (first.1.toList.flatMap escape ++
    '"' :: ':' :: write numerals first.2) (fieldTexts numerals others)
  have hText : write numerals (.obj (first :: others)) =
      '\x7b' :: '"' :: (behind ++ ['\x7d']) := by
    rw [write, fieldTexts, fieldText, quote_append, hBehind, List.cons_append]
  rw [fieldTexts, fieldText, quote_append, hBehind] at hFields
  rw [parseFields]
  rw [hText] at hFields ⊢
  rw [skipBlanks_cons (by decide)]
  simp only [skipBlanks_cons (c := '"') (by decide)]
  rw [List.cons_append] at hFields
  rw [hFields]
  rfl

end JsonText
