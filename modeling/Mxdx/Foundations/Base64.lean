import Mxdx.Foundations.Framing
import Mathlib.Data.List.DropRight
import Mathlib.Tactic.Common

/-! Base64 with the standard alphabet and canonical padding. The strict decoder
wants the padding present and complete and the unused low bits of the last
symbol zero; the lenient one reads the symbols it knows, up to the first padding. -/
namespace Base64

/-- The symbol of a six-bit value. -/
def symbol (n : Nat) : Char :=
  if n < 26 then Char.ofNat (65 + n)
  else if n < 52 then Char.ofNat (71 + n)
  else if n < 62 then Char.ofNat (n - 4)
  else if n = 62 then '+' else '/'

/-- The six bits of a character. -/
def value (c : Char) : Option Nat :=
  let n := c.toNat
  if 65 ≤ n ∧ n ≤ 90 then some (n - 65)
  else if 97 ≤ n ∧ n ≤ 122 then some (n - 71)
  else if 48 ≤ n ∧ n ≤ 57 then some (n + 4)
  else if c = '+' then some 62
  else if c = '/' then some 63
  else none

@[simp] theorem value_symbol {n : Nat} (h : n < 64) : value (symbol n) = some n := by
  have hAll : ∀ m : Fin 64, value (symbol m.val) = some m.val := by decide
  exact hAll ⟨n, h⟩

theorem symbol_ne_pad {n : Nat} (h : n < 64) : symbol n ≠ '=' := by
  have hAll : ∀ m : Fin 64, symbol m.val ≠ '=' := by decide
  exact hAll ⟨n, h⟩

/-- Groups of three bytes become four symbols; a shorter last group is padded. -/
def encodeChars : List UInt8 → List Char
  | [] => []
  | [a] => [symbol (a.toNat / 4), symbol (a.toNat % 4 * 16), '=', '=']
  | [a, b] =>
      [symbol (a.toNat / 4), symbol (a.toNat % 4 * 16 + b.toNat / 16),
        symbol (b.toNat % 16 * 4), '=']
  | a :: b :: c :: rest =>
      symbol (a.toNat / 4) :: symbol (a.toNat % 4 * 16 + b.toNat / 16) ::
        symbol (b.toNat % 16 * 4 + c.toNat / 64) :: symbol (c.toNat % 64) :: encodeChars rest

/-- The last group when it ends in padding: one or two bytes, no stray bits. -/
def decodeTail (w x y : Char) : Option (List UInt8) := do
  let w ← value w
  let x ← value x
  if y = '=' then
    if x % 16 = 0 then return [UInt8.ofNat (w * 4 + x / 16)] else none
  else
    let y ← value y
    if y % 4 = 0 then
      return [UInt8.ofNat (w * 4 + x / 16), UInt8.ofNat (x % 16 * 16 + y / 4)]
    else none

/-- Three bytes from four characters. -/
def decodeGroup (w x y z : Char) : Option (List UInt8) := do
  let w ← value w
  let x ← value x
  let y ← value y
  let z ← value z
  return [UInt8.ofNat (w * 4 + x / 16), UInt8.ofNat (x % 16 * 16 + y / 4),
    UInt8.ofNat (y % 4 * 64 + z)]

/-- The last group may be padded. -/
def decodeChars : List Char → Option (List UInt8)
  | [] => some []
  | w :: x :: y :: z :: rest =>
      if z = '=' then
        if rest = [] then decodeTail w x y else none
      else do
        let head ← decodeGroup w x y z
        let tail ← decodeChars rest
        return head ++ tail
  | _ => none

/-- The text of so many bytes. -/
def encode (bytes : List UInt8) : String := String.ofList (encodeChars bytes)

/-- Only the text that was written is read. -/
def decode (text : String) : Option (List UInt8) := decodeChars text.toList

section Sextets

/-! How the bytes come back from their six-bit pieces. -/

variable (a b c : UInt8)

theorem firstByte_eq :
    UInt8.ofNat (a.toNat / 4 * 4 + (a.toNat % 4 * 16 + b.toNat / 16) / 16) = a := by
  have hb := b.toNat_lt
  have hPieces : a.toNat / 4 * 4 + (a.toNat % 4 * 16 + b.toNat / 16) / 16 = a.toNat := by omega
  rw [hPieces, UInt8.ofNat_toNat]

theorem firstByte_alone_eq : UInt8.ofNat (a.toNat / 4 * 4 + a.toNat % 4 * 16 / 16) = a := by
  have hPieces : a.toNat / 4 * 4 + a.toNat % 4 * 16 / 16 = a.toNat := by omega
  rw [hPieces, UInt8.ofNat_toNat]

theorem secondByte_eq :
    UInt8.ofNat ((a.toNat % 4 * 16 + b.toNat / 16) % 16 * 16 +
      (b.toNat % 16 * 4 + c.toNat / 64) / 4) = b := by
  have hb := b.toNat_lt
  have hc := c.toNat_lt
  have hPieces : (a.toNat % 4 * 16 + b.toNat / 16) % 16 * 16 +
      (b.toNat % 16 * 4 + c.toNat / 64) / 4 = b.toNat := by omega
  rw [hPieces, UInt8.ofNat_toNat]

theorem secondByte_last_eq :
    UInt8.ofNat ((a.toNat % 4 * 16 + b.toNat / 16) % 16 * 16 + b.toNat % 16 * 4 / 4) = b := by
  have hb := b.toNat_lt
  have hPieces : (a.toNat % 4 * 16 + b.toNat / 16) % 16 * 16 + b.toNat % 16 * 4 / 4 =
      b.toNat := by omega
  rw [hPieces, UInt8.ofNat_toNat]

theorem thirdByte_eq :
    UInt8.ofNat ((b.toNat % 16 * 4 + c.toNat / 64) % 4 * 64 + c.toNat % 64) = c := by
  have hc := c.toNat_lt
  have hPieces : (b.toNat % 16 * 4 + c.toNat / 64) % 4 * 64 + c.toNat % 64 = c.toNat := by omega
  rw [hPieces, UInt8.ofNat_toNat]

/-- Every piece is a six-bit value. -/
theorem sextets_lt :
    a.toNat / 4 < 64 ∧ a.toNat % 4 * 16 + b.toNat / 16 < 64 ∧
      b.toNat % 16 * 4 + c.toNat / 64 < 64 ∧ c.toNat % 64 < 64 := by
  have ha := a.toNat_lt
  have hb := b.toNat_lt
  have hc := c.toNat_lt
  omega

end Sextets

theorem decodeGroup_symbols (a b c : UInt8) :
    decodeGroup (symbol (a.toNat / 4)) (symbol (a.toNat % 4 * 16 + b.toNat / 16))
      (symbol (b.toNat % 16 * 4 + c.toNat / 64)) (symbol (c.toNat % 64)) = some [a, b, c] := by
  obtain ⟨h₁, h₂, h₃, h₄⟩ := sextets_lt a b c
  simp only [decodeGroup, value_symbol h₁, value_symbol h₂, value_symbol h₃, value_symbol h₄,
    Option.pure_def, Option.bind_eq_bind, Option.bind_some, firstByte_eq, secondByte_eq,
    thirdByte_eq]

theorem decodeTail_one (a : UInt8) :
    decodeTail (symbol (a.toNat / 4)) (symbol (a.toNat % 4 * 16)) '=' = some [a] := by
  have ha := a.toNat_lt
  simp only [decodeTail]
  rw [value_symbol (by omega), value_symbol (by omega)]
  simp only [Option.pure_def, Option.bind_eq_bind, Option.bind_some, ↓reduceIte,
    Nat.mul_mod_left, firstByte_alone_eq]

theorem decodeTail_two (a b : UInt8) :
    decodeTail (symbol (a.toNat / 4)) (symbol (a.toNat % 4 * 16 + b.toNat / 16))
      (symbol (b.toNat % 16 * 4)) = some [a, b] := by
  have ha := a.toNat_lt
  have hb := b.toNat_lt
  have hPad : symbol (b.toNat % 16 * 4) ≠ '=' := symbol_ne_pad (by omega)
  have hLow : b.toNat % 16 * 4 % 4 = 0 := by omega
  simp only [decodeTail]
  rw [value_symbol (by omega), value_symbol (by omega), value_symbol (by omega)]
  simp only [Option.pure_def, Option.bind_eq_bind, Option.bind_some, hPad, ↓reduceIte, hLow,
    firstByte_eq, secondByte_last_eq]

theorem decodeChars_encodeChars (bytes : List UInt8) :
    decodeChars (encodeChars bytes) = some bytes := by
  induction bytes using encodeChars.induct with
  | case1 => rfl
  | case2 a => simp [encodeChars, decodeChars, decodeTail_one]
  | case3 a b => simp [encodeChars, decodeChars, decodeTail_two]
  | case4 a b c rest ih =>
      have hPad : symbol (c.toNat % 64) ≠ '=' := symbol_ne_pad (by omega)
      simp [encodeChars, decodeChars, hPad, decodeGroup_symbols, ih]

/-- Strict decoding inverts encoding on every byte string. -/
@[simp] theorem decode_encode (bytes : List UInt8) : decode (encode bytes) = some bytes := by
  rw [decode, encode, String.toList_ofList, decodeChars_encodeChars]

/-- A text that was encoded is symbols and padding. -/
theorem mem_encodeChars {bytes : List UInt8} {c : Char} (h : c ∈ encodeChars bytes) :
    c = '=' ∨ ∃ n < 64, c = symbol n := by
  induction bytes using encodeChars.induct with
  | case1 => cases h
  | case2 a =>
      have ha := a.toNat_lt
      simp only [encodeChars, List.mem_cons, List.not_mem_nil, or_false] at h
      rcases h with rfl | rfl | rfl | rfl
      · exact .inr ⟨_, by omega, rfl⟩
      · exact .inr ⟨_, by omega, rfl⟩
      · exact .inl rfl
      · exact .inl rfl
  | case3 a b =>
      have ha := a.toNat_lt
      have hb := b.toNat_lt
      simp only [encodeChars, List.mem_cons, List.not_mem_nil, or_false] at h
      rcases h with rfl | rfl | rfl | rfl
      · exact .inr ⟨_, by omega, rfl⟩
      · exact .inr ⟨_, by omega, rfl⟩
      · exact .inr ⟨_, by omega, rfl⟩
      · exact .inl rfl
  | case4 a b c rest ih =>
      obtain ⟨h₁, h₂, h₃, h₄⟩ := sextets_lt a b c
      simp only [encodeChars, List.mem_cons] at h
      rcases h with rfl | rfl | rfl | rfl | hRest
      · exact .inr ⟨_, h₁, rfl⟩
      · exact .inr ⟨_, h₂, rfl⟩
      · exact .inr ⟨_, h₃, rfl⟩
      · exact .inr ⟨_, h₄, rfl⟩
      · exact ih hRest

/-- Four symbols stand for at most three bytes, so the text is longer than
any non-empty byte string it encodes. -/
theorem length_lt_encodeChars (bytes : List UInt8) (h : bytes ≠ []) :
    bytes.length < (encodeChars bytes).length := by
  induction bytes using encodeChars.induct with
  | case1 => exact absurd rfl h
  | case2 a => simp [encodeChars]
  | case3 a b => simp [encodeChars]
  | case4 a b c rest ih =>
      cases rest with
      | nil => simp [encodeChars]
      | cons d rest =>
          have hRest := ih (List.cons_ne_nil _ _)
          simp only [encodeChars, List.length_cons] at hRest ⊢
          omega

/-- Base64 lengthens its input, so the text never spells the bytes that it stands for. -/
theorem bytes_encode_ne (bytes : List UInt8) (h : bytes ≠ []) :
    Utf8.bytes (encode bytes) ≠ bytes := by
  intro hEq
  have hLonger := length_lt_encodeChars bytes h
  have hBytes := Utf8.length_le_bytes_ofList (encodeChars bytes)
  have hLength := congrArg List.length hEq
  rw [encode] at hLength
  omega

/-- Strict decoding reads whole groups of four symbols. -/
theorem length_mod_of_decodeChars (text : List Char) {bytes : List UInt8}
    (h : decodeChars text = some bytes) : text.length % 4 = 0 := by
  induction text using decodeChars.induct generalizing bytes with
  | case1 => rfl
  | case2 w x y => simp
  | case3 w x y rest hRest => simp [decodeChars, hRest] at h
  | case4 w x y z rest hPad ih =>
      simp only [decodeChars, hPad, ↓reduceIte, Option.bind_eq_bind, Option.bind_eq_some_iff] at h
      obtain ⟨head, -, tail, hTail, -⟩ := h
      have hRest := ih hTail
      simp only [List.length_cons]
      omega
  | case5 text hNil hGroup => simp [decodeChars] at h

section Unpadded

/-- A text without the padding at its end. -/
def stripPad (text : List Char) : List Char := text.rdropWhile (· = '=')

theorem stripPad_concat (text : List Char) (c : Char) :
    stripPad (text ++ [c]) = if c = '=' then stripPad text else text ++ [c] := by
  simp only [stripPad, List.rdropWhile_concat, decide_eq_true_eq]

/-- Nothing before a symbol is stripped. -/
theorem stripPad_append_symbol {n : Nat} (h : n < 64) (shared rest : List Char) :
    stripPad (shared ++ symbol n :: rest) = shared ++ symbol n :: stripPad rest := by
  induction rest using List.reverseRecOn with
  | nil => simp [symbol_ne_pad h, stripPad]
  | append_singleton rest c ih =>
      rw [← List.cons_append, ← List.append_assoc, stripPad_concat, stripPad_concat]
      split_ifs
      · exact ih
      · rw [List.append_assoc, List.cons_append]

/-- Each byte takes eight bits, each symbol that is left holds six. -/
theorem length_stripPad_encodeChars (bytes : List UInt8) :
    (stripPad (encodeChars bytes)).length = (4 * bytes.length + 2) / 3 := by
  induction bytes using encodeChars.induct with
  | case1 => rfl
  | case2 a =>
      have hStrip := stripPad_append_symbol (show a.toNat % 4 * 16 < 64 by omega)
        [symbol (a.toNat / 4)] ['=', '=']
      have hGroup := congrArg List.length hStrip
      simpa [encodeChars, stripPad, List.rdropWhile] using hGroup
  | case3 a b =>
      have hStrip := stripPad_append_symbol (show b.toNat % 16 * 4 < 64 by omega)
        [symbol (a.toNat / 4), symbol (a.toNat % 4 * 16 + b.toNat / 16)] ['=']
      have hGroup := congrArg List.length hStrip
      simpa [encodeChars, stripPad, List.rdropWhile] using hGroup
  | case4 a b c rest ih =>
      have hStrip := stripPad_append_symbol (show c.toNat % 64 < 64 by omega)
        [symbol (a.toNat / 4), symbol (a.toNat % 4 * 16 + b.toNat / 16),
          symbol (b.toNat % 16 * 4 + c.toNat / 64)] (encodeChars rest)
      have hGroup := congrArg List.length hStrip
      simp only [List.cons_append, List.nil_append, List.length_cons, ih] at hGroup
      simp only [encodeChars, hGroup, List.length_cons]
      omega

/-- A text that lost its padding is refused by the strict decoder. -/
theorem decodeChars_stripPad (bytes : List UInt8) (h : bytes.length % 3 ≠ 0) :
    decodeChars (stripPad (encodeChars bytes)) = none := by
  cases hDecode : decodeChars (stripPad (encodeChars bytes)) with
  | none => rfl
  | some read =>
      have hLength := length_mod_of_decodeChars _ hDecode
      rw [length_stripPad_encodeChars] at hLength
      omega

end Unpadded

section Lenient

/-- The value of a symbol of the standard or the URL-safe alphabet. -/
def valueAny (c : Char) : Option Nat :=
  if c = '-' then some 62 else if c = '_' then some 63 else value c

/-- Bytes from six-bit values; the bits that do not fill a byte are dropped. -/
def bytesOf : List Nat → List UInt8
  | w :: x :: y :: z :: rest =>
      UInt8.ofNat (w * 4 + x / 16) :: UInt8.ofNat (x % 16 * 16 + y / 4) ::
        UInt8.ofNat (y % 4 * 64 + z) :: bytesOf rest
  | [w, x, y] => [UInt8.ofNat (w * 4 + x / 16), UInt8.ofNat (x % 16 * 16 + y / 4)]
  | [w, x] => [UInt8.ofNat (w * 4 + x / 16)]
  | _ => []

/-- The symbols in front of the first padding character; characters of neither
alphabet, white space among them, are passed over. -/
def sextets (text : List Char) : List Nat := (text.takeWhile (· ≠ '=')).filterMap valueAny

/-- Lenient decoding ends at the first padding character. -/
def decodeLenient (text : List Char) : List UInt8 := bytesOf (sextets text)

theorem length_bytesOf_le (values : List Nat) : (bytesOf values).length ≤ values.length := by
  fun_induction bytesOf values with
  | case1 w x y z rest ih =>
      simp only [List.length_cons]
      omega
  | case2 | case3 => simp
  | case4 => exact Nat.zero_le _

/-- A text is at least as long as what it is decoded to. -/
theorem length_decodeLenient_le (text : List Char) :
    (decodeLenient text).length ≤ text.length := by
  have hBytes := length_bytesOf_le (sextets text)
  have hValues := List.length_filterMap_le valueAny (text.takeWhile (· ≠ '='))
  have hPrefix := (List.takeWhile_prefix (p := (· ≠ '=')) (l := text)).length_le
  exact hBytes.trans (hValues.trans hPrefix)

theorem valueAny_symbol {n : Nat} (h : n < 64) : valueAny (symbol n) = some n := by
  have hAll : ∀ m : Fin 64, valueAny (symbol m.val) = some m.val := by decide
  exact hAll ⟨n, h⟩

theorem sextets_cons {c : Char} (h : c ≠ '=') (rest : List Char) :
    sextets (c :: rest) = (valueAny c).toList ++ sextets rest := by
  cases hValue : valueAny c <;> simp [sextets, h, hValue]

theorem sextets_symbol {n : Nat} (h : n < 64) (rest : List Char) :
    sextets (symbol n :: rest) = n :: sextets rest := by
  rw [sextets_cons (symbol_ne_pad h), valueAny_symbol h]
  rfl

/-- Padding after a text changes nothing. -/
theorem sextets_concat_pad (text : List Char) : sextets (text ++ ['=']) = sextets text := by
  induction text with
  | nil => rfl
  | cons c text ih =>
      by_cases hPad : c = '='
      · simp [sextets, hPad]
      · rw [List.cons_append, sextets_cons hPad, sextets_cons hPad, ih]

theorem decodeLenient_append_pad (text : List Char) (count : Nat) :
    decodeLenient (text ++ List.replicate count '=') = decodeLenient text := by
  induction count with
  | zero => simp
  | succ count ih =>
      rw [List.replicate_succ', ← List.append_assoc, decodeLenient, sextets_concat_pad,
        ← decodeLenient, ih]

theorem decodeLenient_stripPad (text : List Char) :
    decodeLenient (stripPad text) = decodeLenient text := by
  induction text using List.reverseRecOn with
  | nil => rfl
  | append_singleton text c ih =>
      rw [stripPad_concat]
      split_ifs with hPad
      · rw [ih, hPad]
        exact (decodeLenient_append_pad text 1).symm
      · rfl

/-- Lenient decoding, too, inverts encoding. -/
theorem decodeLenient_encodeChars (bytes : List UInt8) :
    decodeLenient (encodeChars bytes) = bytes := by
  unfold decodeLenient
  induction bytes using encodeChars.induct with
  | case1 => rfl
  | case2 a =>
      have ha := a.toNat_lt
      rw [encodeChars, sextets_symbol (by omega), sextets_symbol (by omega)]
      exact congrArg (fun x => [x]) (firstByte_alone_eq a)
  | case3 a b =>
      have ha := a.toNat_lt
      have hb := b.toNat_lt
      rw [encodeChars, sextets_symbol (by omega), sextets_symbol (by omega),
        sextets_symbol (by omega)]
      exact congrArg₂ (fun x y => [x, y]) (firstByte_eq a b) (secondByte_last_eq a b)
  | case4 a b c rest ih =>
      obtain ⟨h₁, h₂, h₃, h₄⟩ := sextets_lt a b c
      rw [encodeChars, sextets_symbol h₁, sextets_symbol h₂, sextets_symbol h₃,
        sextets_symbol h₄, bytesOf, ih, firstByte_eq, secondByte_eq, thirdByte_eq]

end Lenient

end Base64
