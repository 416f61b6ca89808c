import Mxdx.Foundations.Json

/-! The text of a JSON value, without a blank, and the value that a text is read as. A
reader goes down into arrays and objects a fixed number of levels only; of a name that
stands twice in an object it keeps the last value. -/
namespace JsonText

variable {Num : Type}

/-- How numbers are written, and which number a numeral is read as. -/
structure Numerals (Num : Type) where
  write : Num → List Char
  read : List Char → Option Num

/-- The characters that a number is written with. -/
def isNumeral (c : Char) : Bool := c.isDigit || ['-', '+', '.', 'e', 'E'].contains c

/-- The four blanks that may stand between two tokens. -/
def isBlank (c : Char) : Bool := [' ', '\n', '\t', '\r'].contains c

def skipBlanks (text : List Char) : List Char := text.dropWhile isBlank

/-- The characters that are written as a backslash and a letter. -/
def shorthand : List (Char × Char) :=
  [('"', '"'), ('\\', '\\'), ('\x08', 'b'), ('\x0c', 'f'), ('\n', 'n'), ('\r', 'r'), ('\t', 't')]

/-- A control character without a letter of its own is written by its code. -/
def escape (c : Char) : List Char :=
  match shorthand.lookup c with
  | some letter => ['\\', letter]
  | none =>
      if c.toNat < 32 then
        ['\\', 'u', '0', '0', Nat.digitChar (c.toNat / 16), Nat.digitChar (c.toNat % 16)]
      else [c]

/-- A string between its quotation marks. -/
def quote (text : String) : List Char := '"' :: (text.toList.flatMap escape ++ ['"'])

/-- A slash may be escaped, though it is never written so. -/
def unescape (letter : Char) : Option Char :=
  if letter = '/' then some '/' else (shorthand.find? (·.2 = letter)).map Prod.fst

/-- A digit of either case. -/
def hexValue (c : Char) : Option Nat :=
  if c.isDigit then some (c.toNat - 48)
  else if 97 ≤ c.toNat ∧ c.toNat ≤ 102 then some (c.toNat - 87)
  else if 65 ≤ c.toNat ∧ c.toNat ≤ 70 then some (c.toNat - 55)
  else none

/-- The code unit that four digits stand for. -/
def codeUnit (first second third fourth : Char) : Option Nat := do
  return (← hexValue first) * 4096 + (← hexValue second) * 256 + (← hexValue third) * 16 +
    (← hexValue fourth)

/-- The string that ends at the next quotation mark, with what stands behind it. -/
def chars : List Char → Option (List Char × List Char)
  | [] => none
  | '"' :: rest => some ([], rest)
  | '\\' :: 'u' :: a :: b :: c :: d :: rest =>
      match codeUnit a b c d with
      | none => none
      | some unit =>
          if 0xD800 ≤ unit ∧ unit < 0xDC00 then
            match rest with
            | '\\' :: 'u' :: e :: f :: g :: h :: rest =>
                match codeUnit e f g h with
                | none => none
                | some trail =>
                    if 0xDC00 ≤ trail ∧ trail < 0xE000 then
                      (chars rest).map fun (text, rest) =>
                        (Char.ofNat (0x10000 + (unit - 0xD800) * 0x400 + (trail - 0xDC00)) :: text,
                          rest)
                    else none
            | _ => none
          else if 0xDC00 ≤ unit ∧ unit < 0xE000 then none
          else (chars rest).map fun (text, rest) => (Char.ofNat unit :: text, rest)
  | '\\' :: letter :: rest =>
      match unescape letter with
      | none => none
      | some c => (chars rest).map fun (text, rest) => (c :: text, rest)
  | c :: rest =>
      if c.toNat < 32 then none else (chars rest).map fun (text, rest) => (c :: text, rest)

/-- Each name with its last value. -/
def latest {α : Type} : List (String × α) → List (String × α)
  | [] => []
  | (name, value) :: fields =>
      if name ∈ fields.map Prod.fst then latest fields else (name, value) :: latest fields

section Write

variable (numerals : Numerals Num)

mutual

/-- Nothing stands between two tokens but the comma or the colon. -/
def write : Json Num → List Char
  | .null => ['n', 'u', 'l', 'l']
  | .bool true => ['t', 'r', 'u', 'e']
  | .bool false => ['f', 'a', 'l', 's', 'e']
  | .num number => numerals.write number
  | .str text => quote text
  | .arr elems => '[' :: ([','].intercalate (elemTexts elems) ++ [']'])
  | .obj fields => '\x7b' :: ([','].intercalate (fieldTexts fields) ++ ['\x7d'])

/-- The texts between the commas of an array. -/
def elemTexts : List (Json Num) → List (List Char)
  | [] => []
  | value :: values => write value :: elemTexts values

/-- The texts between the commas of an object. -/
def fieldTexts : List (String × Json Num) → List (List Char)
  | [] => []
  | field :: fields => fieldText field :: fieldTexts fields

/-- A name, a colon and a value. -/
def fieldText : String × Json Num → List Char
  | (name, value) => quote name ++ ':' :: write value

end

end Write

section Read

variable (numerals : Numerals Num)

/-- A word, or a number. -/
def scalar : List Char → Option (Json Num × List Char)
  | 'n' :: 'u' :: 'l' :: 'l' :: rest => some (.null, rest)
  | 't' :: 'r' :: 'u' :: 'e' :: rest => some (.bool true, rest)
  | 'f' :: 'a' :: 'l' :: 's' :: 'e' :: rest => some (.bool false, rest)
  | text =>
      (numerals.read (text.takeWhile isNumeral)).map fun number =>
        (.num number, text.dropWhile isNumeral)

mutual

/-- The value at the beginning of a text, with what stands behind it. -/
def value : Nat → Nat → List Char → Option (Json Num × List Char)
  | 0, _, _ => none
  | fuel + 1, depth, text =>
      match skipBlanks text with
      | '"' :: rest => (chars rest).map fun (text, rest) => (.str (String.ofList text), rest)
      | '[' :: rest =>
          if depth = 0 then none
          else
            match skipBlanks rest with
            | ']' :: rest => some (.arr [], rest)
            | _ => (elems fuel (depth - 1) rest).map fun (values, rest) => (.arr values, rest)
      | '\x7b' :: rest =>
          if depth = 0 then none
          else
            match skipBlanks rest with
            | '\x7d' :: rest => some (.obj [], rest)
            | _ => (fields fuel (depth - 1) rest).map fun (fields, rest) =>
                (.obj (latest fields), rest)
      | text => scalar numerals text

/-- At least one value, up to the bracket. -/
def elems : Nat → Nat → List Char → Option (List (Json Num) × List Char)
  | 0, _, _ => none
  | fuel + 1, depth, text =>
      match value fuel depth text with
      | none => none
      | some (first, rest) =>
          match skipBlanks rest with
          | ',' :: rest => (elems fuel depth rest).map fun (values, rest) => (first :: values, rest)
          | ']' :: rest => some ([first], rest)
          | _ => none

/-- At least one name with its value, up to the brace. -/
def fields : Nat → Nat → List Char → Option (List (String × Json Num) × List Char)
  | 0, _, _ => none
  | fuel + 1, depth, text =>
      match skipBlanks text with
      | '"' :: rest =>
          match chars rest with
          | none => none
          | some (name, rest) =>
              match skipBlanks rest with
              | ':' :: rest =>
                  match value fuel depth rest with
                  | none => none
                  | some (first, rest) =>
                      match skipBlanks rest with
                      | ',' :: rest =>
                          (fields fuel depth rest).map fun (fields, rest) =>
                            ((String.ofList name, first) :: fields, rest)
                      | '\x7d' :: rest => some ([(String.ofList name, first)], rest)
                      | _ => none
              | _ => none
      | _ => none

end

/-- Every level takes a character and two calls, so that the calls last. -/
def parse (depth : Nat) (text : List Char) : Option (Json Num) :=
  match value numerals (2 * text.length + 1) depth text with
  | some (value, rest) => if skipBlanks rest = [] then some value else none
  | none => none

end Read

section Strings

theorem hexValue_digitChar : ∀ digit < 16, hexValue (Nat.digitChar digit) = some digit := by
  decide

/-- A letter is found only where it stands in the table. -/
theorem mem_shorthand {c letter : Char} (h : shorthand.lookup c = some letter) :
    (c, letter) ∈ shorthand := by
  obtain ⟨before, after, hSplit, -⟩ := List.lookup_eq_some_iff.mp h
  rw [hSplit]
  simp

/-- No two characters have one letter, and none has the `u` of a code. -/
theorem unescape_letter : ∀ entry ∈ shorthand, entry.2 ≠ 'u' ∧ unescape entry.2 = some entry.1 := by
  decide

/-- An escaped letter stands for one character. -/
theorem chars_letter {letter : Char} (rest : List Char) (h : letter ≠ 'u') :
    chars ('\\' :: letter :: rest) =
      (unescape letter).bind fun c => (chars rest).map fun (text, rest) => (c :: text, rest) := by
  rw [chars]
  · cases unescape letter <;> rfl
  · intro a b c d after hLetter
    exact absurd hLetter h

/-- A control character comes back from its code. -/
theorem chars_unit {c : Char} (rest : List Char) (h : c.toNat < 32) :
    chars ('\\' :: 'u' :: '0' :: '0' :: Nat.digitChar (c.toNat / 16) ::
      Nat.digitChar (c.toNat % 16) :: rest) =
        (chars rest).map fun (text, rest) => (c :: text, rest) := by
  have hUnit : codeUnit '0' '0' (Nat.digitChar (c.toNat / 16)) (Nat.digitChar (c.toNat % 16)) =
      some c.toNat := by
    have hZero : hexValue '0' = some 0 := by decide
    have hHigh := hexValue_digitChar (c.toNat / 16) (by omega)
    have hLow := hexValue_digitChar (c.toNat % 16) (by omega)
    have hSum : c.toNat / 16 * 16 + c.toNat % 16 = c.toNat := by omega
    simp [codeUnit, hZero, hHigh, hLow, hSum]
  rw [chars, hUnit]
  dsimp only
  rw [if_neg (by omega), if_neg (by omega), Char.ofNat_toNat]

/-- Any other character stands for itself. -/
theorem chars_plain {c : Char} (rest : List Char) (hQuote : c ≠ '"') (hSlash : c ≠ '\\')
    (h : 32 ≤ c.toNat) :
    chars (c :: rest) = (chars rest).map fun (text, rest) => (c :: text, rest) := by
  rw [chars]
  · rw [if_neg (by omega)]
  · exact hQuote
  · intro a b d e after hEq
    exact absurd hEq hSlash
  · intro letter after hEq
    exact absurd hEq hSlash

/-- A character comes back however it was written. -/
theorem chars_escape (c : Char) (rest : List Char) :
    chars (escape c ++ rest) = (chars rest).map fun (text, rest) => (c :: text, rest) := by
  rw [escape]
  cases hShort : shorthand.lookup c with
  | some letter =>
      obtain ⟨hLetter, hBack⟩ := unescape_letter _ (mem_shorthand hShort)
      simp only [List.cons_append, List.nil_append]
      rw [chars_letter rest hLetter, hBack, Option.bind_some]
  | none =>
      by_cases hControl : c.toNat < 32
      · simp only [hControl, if_true, List.cons_append, List.nil_append]
        exact chars_unit rest hControl
      · simp only [hControl, if_false, List.cons_append, List.nil_append]
        refine chars_plain rest ?_ ?_ (by omega)
        · rintro rfl
          simp [shorthand] at hShort
        · rintro rfl
          simp [shorthand] at hShort

/-- By induction on the text: the reader stops at the mark behind it and not before. -/
theorem chars_flatMap_escape (text rest : List Char) :
    chars (text.flatMap escape ++ '"' :: rest) = some (text, rest) := by
  induction text with
  | nil => rw [List.flatMap_nil, List.nil_append, chars]
  | cons c text ih => rw [List.flatMap_cons, List.append_assoc, chars_escape, ih]; rfl

/-- Behind the first quotation mark the reader sees an escaped text. -/
theorem quote_append (text : String) (rest : List Char) :
    quote text ++ rest = '"' :: (text.toList.flatMap escape ++ '"' :: rest) := by
  simp [quote]

end Strings

section RoundTrip

variable {numerals : Numerals Num} {depth : Nat}

/-- A number that is read back as it was written. -/
structure Numerals.Kept (numerals : Numerals Num) (number : Num) : Prop where
  nonempty : numerals.write number ≠ []
  numeral : ∀ c ∈ numerals.write number, isNumeral c = true
  back : numerals.read (numerals.write number) = some number

/-- A value of at most `depth` levels that is read back: its numbers are, and its objects
have no name twice. -/
inductive Writable (numerals : Numerals Num) : Nat → Json Num → Prop
  | null {depth : Nat} : Writable numerals depth .null
  | bool {depth : Nat} (flag : Bool) : Writable numerals depth (.bool flag)
  | num {depth : Nat} {number : Num} (h : numerals.Kept number) :
      Writable numerals depth (.num number)
  | str {depth : Nat} (text : String) : Writable numerals depth (.str text)
  | arr {depth : Nat} {values : List (Json Num)}
      (h : ∀ value ∈ values, Writable numerals depth value) :
      Writable numerals (depth + 1) (.arr values)
  | obj {depth : Nat} {fields : List (String × Json Num)} (hNames : (fields.map Prod.fst).Nodup)
      (h : ∀ field ∈ fields, Writable numerals depth field.2) :
      Writable numerals (depth + 1) (.obj fields)

/-- What stands behind a number does not go on with it. -/
def Ends (rest : List Char) : Prop := ∀ c ∈ rest.head?, isNumeral c = false

/-- One character is enough to end a number. -/
theorem ends_cons {c : Char} (rest : List Char) (h : isNumeral c = false) : Ends (c :: rest) := by
  intro first hFirst
  obtain rfl := Option.some.inj hFirst
  exact h

theorem not_numeral : ∀ c ∈ [' ', '\n', '\t', '\r', '"', '[', ']', '\x7b', '\x7d', 'n', 't', 'f'],
    isNumeral c = false := by
  simp [isNumeral]

theorem elemTexts_eq_map (values : List (Json Num)) :
    elemTexts numerals values = values.map (write numerals) := by
  induction values with
  | nil => rfl
  | cons value values ih => rw [elemTexts, ih, List.map_cons]

theorem fieldTexts_eq_map (fields : List (String × Json Num)) :
    fieldTexts numerals fields = fields.map (fieldText numerals) := by
  induction fields with
  | nil => rfl
  | cons field fields ih => rw [fieldTexts, ih, List.map_cons]

/-- A comma stands behind every text but the last. -/
theorem intercalate_cons_cons (first second : List Char) (texts : List (List Char)) :
    [','].intercalate (first :: second :: texts) =
      first ++ ',' :: [','].intercalate (second :: texts) := by
  simp [List.intercalate]

theorem skipBlanks_cons {c : Char} {rest : List Char} (h : isBlank c = false) :
    skipBlanks (c :: rest) = c :: rest := by
  rw [skipBlanks, List.dropWhile_cons_of_neg (by simp [h])]

/-- Nothing of what is behind a number is taken for it. -/
theorem takeWhile_of_ends {rest : List Char} (h : Ends rest) :
    rest.takeWhile isNumeral = [] ∧ rest.dropWhile isNumeral = rest := by
  cases rest with
  | nil => exact ⟨rfl, rfl⟩
  | cons c rest =>
      have hFirst : isNumeral c = false := h c rfl
      simp [hFirst]

/-- The text of a number is no word. -/
theorem scalar_of_isNumeral {c : Char} (text : List Char) (h : isNumeral c = true) :
    scalar numerals (c :: text) =
      (numerals.read ((c :: text).takeWhile isNumeral)).map fun number =>
        (.num number, (c :: text).dropWhile isNumeral) := by
  have hNe : ∀ letter ∈ ['n', 't', 'f'], c ≠ letter := by
    rintro letter hMem rfl
    rw [not_numeral c (List.mem_append_right
      [' ', '\n', '\t', '\r', '"', '[', ']', '\x7b', '\x7d'] hMem)] at h
    cases h
  rw [scalar]
  · intro rest hWord
    exact hNe 'n' (by simp) (List.cons.inj hWord).1
  · intro rest hWord
    exact hNe 't' (by simp) (List.cons.inj hWord).1
  · intro rest hWord
    exact hNe 'f' (by simp) (List.cons.inj hWord).1

/-- A number is read up to its end. -/
theorem scalar_write {number : Num} {rest : List Char} (h : numerals.Kept number)
    (hRest : Ends rest) :
    scalar numerals (numerals.write number ++ rest) = some (.num number, rest) := by
  obtain ⟨hTake, hDrop⟩ := takeWhile_of_ends hRest
  have hSplit : (numerals.write number ++ rest).takeWhile isNumeral = numerals.write number ∧
      (numerals.write number ++ rest).dropWhile isNumeral = rest := by
    rw [List.takeWhile_append_of_pos h.numeral, List.dropWhile_append_of_pos h.numeral, hTake,
      hDrop, List.append_nil]
    exact ⟨rfl, rfl⟩
  cases hText : numerals.write number with
  | nil => exact absurd hText h.nonempty
  | cons c text =>
      have hFirst : isNumeral c = true := h.numeral c (by rw [hText]; exact List.mem_cons_self)
      rw [hText] at hSplit
      rw [List.cons_append] at hSplit ⊢
      rw [scalar_of_isNumeral _ hFirst, hSplit.1, hSplit.2, ← hText, h.back]
      rfl

/-- A value begins with neither a blank nor a closing bracket. -/
theorem write_begins {value : Json Num} (h : Writable numerals depth value) :
    ∃ c rest, write numerals value = c :: rest ∧ isBlank c = false ∧ c ≠ ']' := by
  cases h with
  | null => exact ⟨_, _, rfl, by decide, by decide⟩
  | bool flag => cases flag <;> exact ⟨_, _, rfl, by decide, by decide⟩
  | str text => exact ⟨_, _, rfl, by decide, by decide⟩
  | arr h => exact ⟨_, _, rfl, by decide, by decide⟩
  | obj hNames h => exact ⟨_, _, rfl, by decide, by decide⟩
  | @num _ number h =>
      cases hText : numerals.write number with
      | nil => exact absurd hText h.nonempty
      | cons c text =>
          have hFirst : isNumeral c = true := h.numeral c (by rw [hText]; exact List.mem_cons_self)
          refine ⟨c, text, hText, ?_, ?_⟩
          · rw [← Bool.not_eq_true]
            intro hBlank
            have hMem : c ∈ [' ', '\n', '\t', '\r'] := by simpa [isBlank] using hBlank
            rw [not_numeral c (List.mem_append_left
              ['"', '[', ']', '\x7b', '\x7d', 'n', 't', 'f'] hMem)] at hFirst
            cases hFirst
          · rintro rfl
            cases hFirst.symm.trans (not_numeral ']' (by decide))

/-- A text that begins with no mark is left to the words and numbers. -/
theorem value_scalar {c : Char} {text : List Char} (fuel depth : Nat) (hBlank : isBlank c = false)
    (hQuote : c ≠ '"') (hBracket : c ≠ '[') (hBrace : c ≠ '\x7b') :
    value numerals (fuel + 1) depth (c :: text) = scalar numerals (c :: text) := by
  rw [value, skipBlanks_cons hBlank]
  split
  · rename_i hEq
    exact absurd (List.cons.inj hEq).1 hQuote
  · rename_i hEq
    exact absurd (List.cons.inj hEq).1 hBracket
  · rename_i hEq
    exact absurd (List.cons.inj hEq).1 hBrace
  · rfl

/-- The value is read back from any text that begins with its own. -/
def Back (numerals : Numerals Num) (depth : Nat) (written : Json Num) : Prop :=
  ∀ fuel rest, 2 * (write numerals written).length ≤ fuel → Ends rest →
    value numerals fuel depth (write numerals written ++ rest) = some (written, rest)

/-- A bound that is undershot leaves a call to make. -/
theorem exists_call {count fuel : Nat} (h : count < fuel) : ∃ left, fuel = left + 1 :=
  ⟨fuel - 1, by omega⟩

/-- By induction on the elements, each of which comes back from its own text. -/
theorem elems_write {values : List (Json Num)} {fuel : Nat} (rest : List Char) (hNe : values ≠ [])
    (h : ∀ value ∈ values, Back numerals depth value)
    (hFuel : 2 * ([','].intercalate (elemTexts numerals values)).length < fuel) :
    elems numerals fuel depth ([','].intercalate (elemTexts numerals values) ++ ']' :: rest) =
      some (values, rest) := by
  induction values generalizing fuel with
  | nil => exact absurd rfl hNe
  | cons first values ih =>
      obtain ⟨hFirst, hValues⟩ := List.forall_mem_cons.mp h
      obtain ⟨fuel, rfl⟩ := exists_call hFuel
      cases values with
      | nil =>
          rw [elemTexts, elemTexts, List.intercalate_singleton] at hFuel ⊢
          rw [elems, hFirst fuel _ (by omega) (ends_cons rest (by decide))]
          rfl
      | cons second values =>
          rw [elemTexts, elemTexts, intercalate_cons_cons, ← elemTexts] at hFuel ⊢
          rw [List.length_append, List.length_cons] at hFuel
          have hNext := @ih fuel (List.cons_ne_nil _ _) hValues (by omega)
          rw [List.append_assoc, List.cons_append, elems,
            hFirst fuel _ (by omega) (ends_cons _ (by decide))]
          simp only [skipBlanks_cons (c := ',') (by decide), hNext, Option.map_some]

/-- A field comes back, and what stands behind its value decides how the reader goes on. -/
theorem field_write {name : String} {written : Json Num} {fuel : Nat} {rest : List Char}
    (h : Back numerals depth written)
    (hFuel : 2 * (fieldText numerals (name, written)).length ≤ fuel) (hRest : Ends rest) :
    fields numerals (fuel + 1) depth (fieldText numerals (name, written) ++ rest) =
      match skipBlanks rest with
      | ',' :: rest =>
          (fields numerals fuel depth rest).map fun (fields, rest) =>
            ((name, written) :: fields, rest)
      | '\x7d' :: rest => some ([(name, written)], rest)
      | _ => none := by
  rw [fieldText, List.length_append, List.length_cons] at hFuel
  have hColon : ∀ text, skipBlanks (':' :: text) = ':' :: text :=
    fun text => skipBlanks_cons (by decide)
  have hQuote : ∀ text, skipBlanks ('"' :: text) = '"' :: text :=
    fun text => skipBlanks_cons (by decide)
  rw [fieldText, List.append_assoc, quote_append, List.cons_append, fields, hQuote]
  simp only [chars_flatMap_escape, hColon, h fuel rest (by omega) hRest, String.ofList_toList]

/-- By induction on the fields, as for the elements. -/
theorem fields_write {written : List (String × Json Num)} {fuel : Nat} (rest : List Char)
    (hNe : written ≠ []) (h : ∀ field ∈ written, Back numerals depth field.2)
    (hFuel : 2 * ([','].intercalate (fieldTexts numerals written)).length < fuel) :
    fields numerals fuel depth ([','].intercalate (fieldTexts numerals written) ++ '\x7d' :: rest) =
      some (written, rest) := by
  induction written generalizing fuel with
  | nil => exact absurd rfl hNe
  | cons first written ih =>
      obtain ⟨hFirst, hWritten⟩ := List.forall_mem_cons.mp h
      obtain ⟨name, value⟩ := first
      replace hFirst : Back numerals depth value := hFirst
      obtain ⟨fuel, rfl⟩ := exists_call hFuel
      cases written with
      | nil =>
          rw [fieldTexts, fieldTexts, List.intercalate_singleton] at hFuel ⊢
          rw [field_write hFirst (by omega) (ends_cons rest (by decide))]
          simp only [skipBlanks_cons (c := '\x7d') (by decide)]
      | cons second written =>
          rw [fieldTexts, fieldTexts, intercalate_cons_cons, ← fieldTexts] at hFuel ⊢
          rw [List.length_append, List.length_cons] at hFuel
          have hNext := @ih fuel (List.cons_ne_nil _ _) hWritten (by omega)
          rw [List.append_assoc, List.cons_append,
            field_write hFirst (by omega) (ends_cons _ (by decide))]
          simp only [skipBlanks_cons (c := ',') (by decide), hNext, Option.map_some]

/-- Where no name stands twice nothing is dropped. -/
theorem latest_of_nodup {α : Type} {fields : List (String × α)}
    (h : (fields.map Prod.fst).Nodup) : latest fields = fields := by
  induction fields with
  | nil => rfl
  | cons field fields ih =>
      rw [List.map_cons, List.nodup_cons] at h
      rw [latest, if_neg h.1, ih h.2]

/-- To read a value that has a text there is at least one call. -/
theorem exists_fuel {c : Char} {text : List Char} {fuel : Nat} (h : 2 * (c :: text).length ≤ fuel) :
    ∃ left, fuel = left + 1 ∧ 2 * text.length < left := by
  rw [List.length_cons] at h
  exact ⟨fuel - 1, by omega, by omega⟩

/-- A number comes back from in front of anything that does not go on with it. -/
theorem back_num {number : Num} (h : numerals.Kept number) :
    Back numerals depth (.num number) := by
  intro fuel rest hFuel hRest
  rw [write] at hFuel ⊢
  have hScalar := scalar_write h hRest
  obtain ⟨c, text, hText, hBlank, -⟩ := write_begins (Writable.num h : Writable numerals depth _)
  rw [write] at hText
  have hFirst : isNumeral c = true := h.numeral c (by rw [hText]; exact List.mem_cons_self)
  have hNe : ∀ other, isNumeral other = false → c ≠ other := by
    rintro other hOther rfl
    cases hOther.symm.trans hFirst
  rw [hText] at hFuel hScalar ⊢
  obtain ⟨left, rfl, -⟩ := exists_fuel hFuel
  rw [List.cons_append] at hScalar ⊢
  rw [value_scalar left depth hBlank (hNe _ (by decide)) (hNe _ (by decide)) (hNe _ (by decide)),
    hScalar]

/-- Joined texts begin as the first of them does. -/
theorem intercalate_begins (c : Char) (text : List Char) (texts : List (List Char)) :
    ∃ behind, [','].intercalate ((c :: text) :: texts) = c :: behind := by
  cases texts with
  | nil => exact ⟨text, List.intercalate_singleton⟩
  | cons second texts => exact ⟨_, intercalate_cons_cons _ _ _⟩

/-- An array comes back when its elements do, one level further down. -/
theorem back_arr {values : List (Json Num)}
    (hBegins : ∀ value ∈ values, Writable numerals depth value)
    (h : ∀ value ∈ values, Back numerals depth value) :
    Back numerals (depth + 1) (.arr values) := by
  intro fuel rest hFuel hRest
  rw [write] at hFuel ⊢
  obtain ⟨left, rfl, hLeft⟩ := exists_fuel hFuel
  rw [List.length_append] at hLeft
  rw [List.cons_append, List.append_assoc, value, skipBlanks_cons (by decide)]
  simp only [Nat.add_one_ne_zero, if_false, Nat.add_sub_cancel]
  cases values with
  | nil => rfl
  | cons first values =>
      have hElems := @elems_write _ _ _ _ left rest (List.cons_ne_nil first values) h (by omega)
      obtain ⟨c, text, hText, hBlank, hBracket⟩ := write_begins (hBegins first List.mem_cons_self)
      obtain ⟨behind, hBehind⟩ := intercalate_begins c text (elemTexts numerals values)
      rw [List.singleton_append, hElems, elemTexts, hText, hBehind, List.cons_append,
        skipBlanks_cons hBlank]
      split
      · rename_i hEq
        exact absurd (List.cons.inj hEq).1 hBracket
      · rfl

/-- An object comes back when its values do, one level further down. -/
theorem back_obj {written : List (String × Json Num)} (hNames : (written.map Prod.fst).Nodup)
    (h : ∀ field ∈ written, Back numerals depth field.2) :
    Back numerals (depth + 1) (.obj written) := by
  intro fuel rest hFuel hRest
  rw [write] at hFuel ⊢
  obtain ⟨left, rfl, hLeft⟩ := exists_fuel hFuel
  rw [List.length_append] at hLeft
  rw [List.cons_append, List.append_assoc, value, skipBlanks_cons (by decide)]
  simp only [Nat.add_one_ne_zero, if_false, Nat.add_sub_cancel]
  cases written with
  | nil => rfl
  | cons first written =>
      have hFields := @fields_write _ _ _ _ left rest (List.cons_ne_nil first written) h (by omega)
      obtain ⟨behind, hBehind⟩ := intercalate_begins '"' (first.1.toList.flatMap escape ++
        '"' :: ':' :: write numerals first.2) (fieldTexts numerals written)
      rw [List.singleton_append, hFields, fieldTexts, fieldText, quote_append, hBehind,
        List.cons_append, skipBlanks_cons (by decide)]
      simp only [Option.map_some, latest_of_nodup hNames]
      rfl

/-- By induction on the value; the rest of the text is what the brackets need. -/
theorem back_of_writable {written : Json Num} (h : Writable numerals depth written) :
    Back numerals depth written := by
  induction h with
  | null =>
      intro fuel rest hFuel hRest
      obtain ⟨left, rfl, -⟩ := exists_fuel hFuel
      rfl
  | bool flag =>
      intro fuel rest hFuel hRest
      cases flag with
      | true =>
          obtain ⟨left, rfl, -⟩ := exists_fuel hFuel
          rfl
      | false =>
          obtain ⟨left, rfl, -⟩ := exists_fuel hFuel
          rfl
  | num hNumber => exact back_num hNumber
  | str text =>
      intro fuel rest hFuel hRest
      obtain ⟨left, rfl, -⟩ := exists_fuel hFuel
      rw [write, quote_append, value, skipBlanks_cons (by decide)]
      simp only [chars_flatMap_escape, Option.map_some, String.ofList_toList]
  | arr h ih => exact back_arr h ih
  | obj hNames h ih => exact back_obj hNames ih

/-- The round trip: a text that was written is read as the value it was written from. -/
theorem parse_write {written : Json Num} (h : Writable numerals depth written) :
    parse numerals depth (write numerals written) = some written := by
  have hBack := back_of_writable h (2 * (write numerals written).length + 1) [] (by omega) nofun
  rw [List.append_nil] at hBack
  rw [parse, hBack]
  rfl

end RoundTrip

section Printable

variable {numerals : Numerals Num} {depth : Nat}

/-- No escape has a control character in it. -/
theorem printable_escape {c d : Char} (h : d ∈ escape c) : 32 ≤ d.toNat := by
  rw [escape] at h
  cases hShort : shorthand.lookup c with
  | some letter =>
      have hLetters : ∀ entry ∈ shorthand, 32 ≤ entry.2.toNat := by decide
      rw [hShort] at h
      rcases List.mem_cons.mp h with rfl | hLetter
      · decide
      · rw [List.mem_singleton.mp hLetter]
        exact hLetters _ (mem_shorthand hShort)
  | none =>
      by_cases hControl : c.toNat < 32
      · have hDigits : ∀ digit < 16, 32 ≤ (Nat.digitChar digit).toNat := by decide
        simp only [hShort, hControl, if_true, List.mem_cons, List.not_mem_nil, or_false] at h
        rcases h with rfl | rfl | rfl | rfl | rfl | rfl
        · decide
        · decide
        · decide
        · decide
        · exact hDigits _ (by omega)
        · exact hDigits _ (by omega)
      · simp only [hShort, hControl, if_false, List.mem_singleton] at h
        rw [h]
        omega

theorem printable_quote {text : String} {d : Char} (h : d ∈ quote text) : 32 ≤ d.toNat := by
  rcases List.mem_cons.mp h with rfl | h
  · decide
  · rcases List.mem_append.mp h with h | h
    · obtain ⟨c, -, hc⟩ := List.mem_flatMap.mp h
      exact printable_escape hc
    · rw [List.mem_singleton.mp h]
      decide

/-- No number has a control character in it. -/
theorem printable_numeral {c : Char} (h : isNumeral c = true) : 32 ≤ c.toNat := by
  rw [isNumeral, Bool.or_eq_true] at h
  rcases h with hDigit | hSign
  · rw [Char.isDigit, Bool.and_eq_true, decide_eq_true_eq] at hDigit
    exact Nat.le_trans (by decide) (UInt32.le_iff_toNat_le.mp hDigit.1)
  · have hSigns : ∀ sign ∈ ['-', '+', '.', 'e', 'E'], 32 ≤ sign.toNat := by simp
    exact hSigns c (List.contains_iff_mem.mp hSign)

/-- Joining texts brings in commas alone. -/
theorem printable_intercalate {texts : List (List Char)} {d : Char}
    (hTexts : ∀ text ∈ texts, ∀ c ∈ text, 32 ≤ c.toNat)
    (h : d ∈ [','].intercalate texts) : 32 ≤ d.toNat := by
  induction texts with
  | nil => simp [List.intercalate] at h
  | cons first texts ih =>
      obtain ⟨hFirst, hRest⟩ := List.forall_mem_cons.mp hTexts
      cases texts with
      | nil =>
          rw [List.intercalate_singleton] at h
          exact hFirst d h
      | cons second texts =>
          rw [intercalate_cons_cons, List.mem_append, List.mem_cons] at h
          rcases h with h | rfl | h
          · exact hFirst d h
          · decide
          · exact ih hRest h

/-- A text holds no control character: it stands on one line. -/
theorem printable_write {written : Json Num} (h : Writable numerals depth written) :
    ∀ d ∈ write numerals written, 32 ≤ d.toNat := by
  induction h with
  | null => simp [write]
  | bool flag => cases flag <;> simp [write]
  | num hNumber => exact fun d hd => printable_numeral (hNumber.numeral d hd)
  | str text => exact fun d hd => printable_quote hd
  | arr h ih =>
      intro d hd
      rw [write, List.mem_cons, List.mem_append, List.mem_singleton] at hd
      rcases hd with rfl | hd | rfl
      · decide
      · refine printable_intercalate ?_ hd
        intro text hText
        rw [elemTexts_eq_map] at hText
        obtain ⟨value, hValue, rfl⟩ := List.mem_map.mp hText
        exact ih value hValue
      · decide
  | obj hNames h ih =>
      intro d hd
      rw [write, List.mem_cons, List.mem_append, List.mem_singleton] at hd
      rcases hd with rfl | hd | rfl
      · decide
      · refine printable_intercalate ?_ hd
        intro text hText c hc
        rw [fieldTexts_eq_map] at hText
        obtain ⟨⟨name, value⟩, hField, rfl⟩ := List.mem_map.mp hText
        rw [fieldText, List.mem_append, List.mem_cons] at hc
        rcases hc with hc | rfl | hc
        · exact printable_quote hc
        · decide
        · exact ih _ hField c hc
      · decide

/-- A text stands on one line. -/
theorem not_newline_mem_write {written : Json Num} (h : Writable numerals depth written) :
    '\n' ∉ write numerals written := by
  intro hMem
  exact absurd (printable_write h '\n' hMem) (by decide)

end Printable

end JsonText
