import Mxdx.Foundations.Base64

/-! Which texts stand for which bytes. The strict decoder takes one text for each byte
string; the forgiving decoder, which wants no padding and passes over white space and
stray bits, takes many, and agrees with the strict one on its texts. -/
namespace Base64

section Canonical

theorem symbol_of_value {c : Char} {n : Nat} (h : value c = some n) : symbol n = c ∧ n < 64 := by
  simp only [value] at h
  split_ifs at h with hUpper hLower hDigit hPlus hSlash
  · obtain rfl := Option.some.inj h
    rw [symbol, if_pos (by omega), Nat.add_sub_cancel' hUpper.1, Char.ofNat_toNat]
    exact ⟨rfl, by omega⟩
  · obtain rfl := Option.some.inj h
    rw [symbol, if_neg (by omega), if_pos (by omega), Nat.add_sub_cancel' (by omega),
      Char.ofNat_toNat]
    exact ⟨rfl, by omega⟩
  · obtain rfl := Option.some.inj h
    rw [symbol, if_neg (by omega), if_neg (by omega), if_pos (by omega), Nat.add_sub_cancel,
      Char.ofNat_toNat]
    exact ⟨rfl, by omega⟩
  · obtain rfl := Option.some.inj h
    exact ⟨hPlus.symm, by decide⟩
  · obtain rfl := Option.some.inj h
    exact ⟨hSlash.symm, by decide⟩

theorem toNat_byte {n : Nat} (h : n < 256) : (UInt8.ofNat n).toNat = n := by
  rw [UInt8.toNat_ofNat', Nat.mod_eq_of_lt h]

/-- Four values come back from the three bytes that they make. -/
theorem encodeChars_group {w x y z : Nat} (hw : w < 64) (hx : x < 64) (hy : y < 64) (hz : z < 64)
    (rest : List UInt8) :
    encodeChars (UInt8.ofNat (w * 4 + x / 16) :: UInt8.ofNat (x % 16 * 16 + y / 4) ::
      UInt8.ofNat (y % 4 * 64 + z) :: rest) =
        symbol w :: symbol x :: symbol y :: symbol z :: encodeChars rest := by
  have hFirst : (w * 4 + x / 16) / 4 = w := by omega
  have hSecond : (w * 4 + x / 16) % 4 * 16 + (x % 16 * 16 + y / 4) / 16 = x := by omega
  have hThird : (x % 16 * 16 + y / 4) % 16 * 4 + (y % 4 * 64 + z) / 64 = y := by omega
  have hFourth : (y % 4 * 64 + z) % 64 = z := by omega
  rw [encodeChars, toNat_byte (by omega), toNat_byte (by omega), toNat_byte (by omega), hFirst,
    hSecond, hThird, hFourth]

theorem encodeChars_decodeGroup {w x y z : Char} {bytes : List UInt8}
    (h : decodeGroup w x y z = some bytes) (rest : List UInt8) :
    encodeChars (bytes ++ rest) = w :: x :: y :: z :: encodeChars rest := by
  simp only [decodeGroup, Option.pure_def, Option.bind_eq_bind, Option.bind_eq_some_iff] at h
  obtain ⟨w', hw, x', hx, y', hy, z', hz, hBytes⟩ := h
  obtain rfl := Option.some.inj hBytes
  obtain ⟨hw, hwLt⟩ := symbol_of_value hw
  obtain ⟨hx, hxLt⟩ := symbol_of_value hx
  obtain ⟨hy, hyLt⟩ := symbol_of_value hy
  obtain ⟨hz, hzLt⟩ := symbol_of_value hz
  rw [List.cons_append, List.cons_append, List.cons_append, List.nil_append,
    encodeChars_group hwLt hxLt hyLt hzLt, hw, hx, hy, hz]

theorem encodeChars_decodeTail {w x y : Char} {bytes : List UInt8}
    (h : decodeTail w x y = some bytes) : encodeChars bytes = [w, x, y, '='] := by
  simp only [decodeTail, Option.pure_def, Option.bind_eq_bind, Option.bind_eq_some_iff] at h
  obtain ⟨w', hw, x', hx, h⟩ := h
  obtain ⟨hw, hwLt⟩ := symbol_of_value hw
  obtain ⟨hx, hxLt⟩ := symbol_of_value hx
  split_ifs at h with hPad hLow
  · obtain rfl := Option.some.inj h
    have hFirst : (w' * 4 + x' / 16) / 4 = w' := by omega
    have hSecond : (w' * 4 + x' / 16) % 4 * 16 = x' := by omega
    rw [encodeChars, toNat_byte (by omega), hFirst, hSecond, hw, hx, hPad]
  · rw [Option.bind_eq_some_iff] at h
    obtain ⟨y', hy, h⟩ := h
    obtain ⟨hy, hyLt⟩ := symbol_of_value hy
    split_ifs at h with hLow
    obtain rfl := Option.some.inj h
    have hFirst : (w' * 4 + x' / 16) / 4 = w' := by omega
    have hSecond : (w' * 4 + x' / 16) % 4 * 16 + (x' % 16 * 16 + y' / 4) / 16 = x' := by omega
    have hThird : (x' % 16 * 16 + y' / 4) % 16 * 4 = y' := by omega
    rw [encodeChars, toNat_byte (by omega), toNat_byte (by omega), hFirst, hSecond, hThird, hw,
      hx, hy]

theorem encodeChars_of_decodeChars (text : List Char) {bytes : List UInt8}
    (h : decodeChars text = some bytes) : encodeChars bytes = text := by
  induction text using decodeChars.induct generalizing bytes with
  | case1 =>
      obtain rfl := Option.some.inj h
      rfl
  | case2 w x y =>
      rw [decodeChars, if_pos rfl, if_pos rfl] at h
      exact encodeChars_decodeTail h
  | case3 w x y rest hRest => simp [decodeChars, hRest] at h
  | case4 w x y z rest hPad ih =>
      simp only [decodeChars, hPad, ↓reduceIte, Option.pure_def, Option.bind_eq_bind,
        Option.bind_eq_some_iff] at h
      obtain ⟨head, hHead, tail, hTail, hBytes⟩ := h
      obtain rfl := Option.some.inj hBytes
      rw [encodeChars_decodeGroup hHead, ih hTail]
  | case5 text hNil hGroup => simp [decodeChars] at h

/-- Strict decoding takes the text that encoding makes, and no other. -/
theorem decode_eq_some_iff {text : String} {bytes : List UInt8} :
    decode text = some bytes ↔ text = encode bytes := by
  constructor
  · intro h
    rw [encode, encodeChars_of_decodeChars _ h, String.ofList_toList]
  · rintro rfl
    exact decode_encode bytes

end Canonical

section Forgiving

/-- The blanks that the forgiving decoder passes over. -/
def isBlank (c : Char) : Bool := ['\t', '\n', '\x0c', '\r', ' '].contains c

/-- Without an equals sign at the end. -/
def dropPad (text : List Char) : List Char :=
  if text.getLast? = some '=' then text.dropLast else text

/-- `atob`: white space is passed over, of a text in whole groups up to two equals signs at
the end, and the bits that do not fill a byte. -/
def decodeForgiving (text : List Char) : Option (List UInt8) :=
  let text := text.filter (!isBlank ·)
  let text := if text.length % 4 = 0 then dropPad (dropPad text) else text
  if text.length % 4 = 1 then none else (text.mapM value).map bytesOf

theorem dropPad_concat_pad (text : List Char) : dropPad (text ++ ['=']) = text := by
  rw [dropPad, List.getLast?_concat, if_pos rfl, List.dropLast_concat]

theorem dropPad_of_symbol {n : Nat} (h : n < 64) (text : List Char) :
    dropPad (text ++ [symbol n]) = text ++ [symbol n] := by
  rw [dropPad, List.getLast?_concat, if_neg]
  exact fun hPad => symbol_ne_pad h (Option.some.inj hPad)

theorem isBlank_symbol {n : Nat} (h : n < 64) : isBlank (symbol n) = false := by
  have hAll : ∀ m : Fin 64, isBlank (symbol m.val) = false := by decide
  exact hAll ⟨n, h⟩

/-- What an encoded text is made of: symbols in an order in which they make the bytes, and
the padding of the last group. -/
structure Symbols (bytes : List UInt8) (values : List Nat) (pads : Nat) : Prop where
  text : encodeChars bytes = values.map symbol ++ List.replicate pads '='
  lt : ∀ n ∈ values, n < 64
  made : bytesOf values = bytes
  groups : (values.length + pads) % 4 = 0
  few : pads ≤ 2

theorem exists_symbols (bytes : List UInt8) : ∃ values pads, Symbols bytes values pads := by
  induction bytes using encodeChars.induct with
  | case1 => exact ⟨[], 0, rfl, List.forall_mem_nil _, rfl, rfl, Nat.zero_le 2⟩
  | case2 a =>
      have ha := a.toNat_lt
      refine ⟨[a.toNat / 4, a.toNat % 4 * 16], 2, rfl, ?_, ?_, by simp, Nat.le_refl 2⟩
      · simp only [List.forall_mem_cons]
        exact ⟨by omega, by omega, List.forall_mem_nil _⟩
      · rw [bytesOf, firstByte_alone_eq]
  | case3 a b =>
      have ha := a.toNat_lt
      have hb := b.toNat_lt
      refine ⟨[a.toNat / 4, a.toNat % 4 * 16 + b.toNat / 16, b.toNat % 16 * 4], 1, rfl, ?_, ?_,
        by simp, Nat.le_succ 1⟩
      · simp only [List.forall_mem_cons]
        exact ⟨by omega, by omega, by omega, List.forall_mem_nil _⟩
      · rw [bytesOf, firstByte_eq, secondByte_last_eq]
  | case4 a b c rest ih =>
      obtain ⟨values, pads, h⟩ := ih
      obtain ⟨h₁, h₂, h₃, h₄⟩ := sextets_lt a b c
      refine ⟨a.toNat / 4 :: (a.toNat % 4 * 16 + b.toNat / 16) ::
        (b.toNat % 16 * 4 + c.toNat / 64) :: c.toNat % 64 :: values, pads, ?_, ?_, ?_, ?_, h.few⟩
      · rw [encodeChars, h.text]
        rfl
      · simp only [List.forall_mem_cons]
        exact ⟨h₁, h₂, h₃, h₄, h.lt⟩
      · rw [bytesOf, firstByte_eq, secondByte_eq, thirdByte_eq, h.made]
      · have hGroups := h.groups
        simp only [List.length_cons]
        omega

theorem mapM_value_symbol {values : List Nat} (h : ∀ n ∈ values, n < 64) :
    (values.map symbol).mapM value = some values := by
  induction values with
  | nil => rfl
  | cons n values ih =>
      obtain ⟨hn, hValues⟩ := List.forall_mem_cons.mp h
      simp [value_symbol hn, ih hValues]

/-- Symbols do not end in padding. -/
theorem dropPad_symbols {values : List Nat} (h : ∀ n ∈ values, n < 64) :
    dropPad (values.map symbol) = values.map symbol := by
  rcases List.eq_nil_or_concat values with rfl | ⟨values, n, rfl⟩
  · rfl
  · rw [List.concat_eq_append, List.map_append, List.map_singleton]
    exact dropPad_of_symbol (h n (by simp)) _

theorem dropPad_dropPad {values : List Nat} {pads : Nat} (h : ∀ n ∈ values, n < 64)
    (hFew : pads ≤ 2) :
    dropPad (dropPad (values.map symbol ++ List.replicate pads '=')) = values.map symbol := by
  match pads, hFew with
  | 0, _ => rw [List.replicate_zero, List.append_nil, dropPad_symbols h, dropPad_symbols h]
  | 1, _ => rw [List.replicate_one, dropPad_concat_pad, dropPad_symbols h]
  | 2, _ =>
      have hTwo : List.replicate 2 '=' = ['='] ++ ['='] := rfl
      rw [hTwo, ← List.append_assoc, dropPad_concat_pad, dropPad_concat_pad]

/-- Forgiving decoding inverts encoding. -/
theorem decodeForgiving_encodeChars (bytes : List UInt8) :
    decodeForgiving (encodeChars bytes) = some bytes := by
  obtain ⟨values, pads, h⟩ := exists_symbols bytes
  have hBlank : (encodeChars bytes).filter (!isBlank ·) = encodeChars bytes := by
    refine List.filter_eq_self.mpr fun c hc => ?_
    rcases mem_encodeChars hc with rfl | ⟨n, hn, rfl⟩
    · rfl
    · rw [isBlank_symbol hn]
      rfl
  have hLength : (encodeChars bytes).length % 4 = 0 := by
    rw [h.text, List.length_append, List.length_map, List.length_replicate, h.groups]
  have hData : (values.map symbol).length % 4 ≠ 1 := by
    have hGroups := h.groups
    have hFew := h.few
    rw [List.length_map]
    omega
  simp only [decodeForgiving, hBlank, hLength, ↓reduceIte]
  rw [h.text, dropPad_dropPad h.lt h.few, if_neg hData, mapM_value_symbol h.lt, Option.map_some,
    h.made]

/-- A text of the strict decoder means the same to the forgiving one. -/
theorem decodeForgiving_of_decode {text : String} {bytes : List UInt8}
    (h : decode text = some bytes) : decodeForgiving text.toList = some bytes := by
  rw [decode_eq_some_iff.mp h, encode, String.toList_ofList, decodeForgiving_encodeChars]

end Forgiving

end Base64
