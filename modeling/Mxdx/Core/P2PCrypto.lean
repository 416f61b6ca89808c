import Mxdx.P2P.Crypto
import Mxdx.Foundations.Unicode

/-! The cipher of the data channel on the side of the launcher, and how it gets along with
the one in the browser. -/
namespace Mxdx.Core

open P2P.Crypto (Aes256Gcm EncryptedFrame GcmIv SealedKey)

/-- `TextDecoder`: a byte order mark at the beginning is dropped, and what is not UTF-8 is
repaired. -/
def textDecode (repaired : Bytes → String) (bytes : Bytes) : String :=
  let bytes :=
    match bytes with
    | 0xEF :: 0xBB :: 0xBF :: rest => rest
    | _ => bytes
  (Types.strFromUtf8 bytes).getD (repaired bytes)

/-- A text without the mark that `TextDecoder` takes off its beginning. -/
def withoutMark (text : String) : String :=
  match text.toList with
  | '\uFEFF' :: rest => String.ofList rest
  | _ => text

/-- What `atob` is given: a string as it is, and what `String` makes of anything else. -/
def coerced {Num : Type} (toText : Json Num → String) : Option (Json Num) → String
  | none => "undefined"
  | some (.str text) => text
  | some other => toText other

/-- `atob`, which passes over blanks and does without padding. -/
def base64ToArray (b64 : String) : Option Bytes := Base64.decodeForgiving b64.toList

/-- The one key that both directions of a session share. -/
structure P2PCrypto where
  aesKey : SealedKey

/-- The Web Crypto API refuses a key of another length. -/
def createP2PCrypto (base64Key : String) : Option P2PCrypto :=
  match base64ToArray base64Key with
  | none => none
  | some raw => if h : raw.toArray.size = 32 then some ⟨⟨raw.toArray, h⟩⟩ else none

namespace P2PCrypto

variable {Num : Type} (numerals : JsonText.Numerals Num) (gcm : Aes256Gcm)
  (toText : Json Num → String) (repaired : Bytes → String) (crypto : P2PCrypto)

/-- The frame is written as `JSON.stringify` writes it. -/
def encrypt (iv : GcmIv) (plaintext : String) : Option (List Char) :=
  let encoded := asBytes plaintext
  if encoded.length ≤ gcm.maxLength then
    some (JsonText.write numerals (.obj
      [("c", .str (Base64.encode (gcm.encrypt crypto.aesKey.toList iv.toList encoded))),
        ("iv", .str (Base64.encode iv.toList))]))
  else none

/-- `none` is thrown, by whichever of the steps. -/
def decrypt (ciphertextJson : List Char) : Option String := do
  let frame ← JsonText.parse numerals ciphertextJson.length ciphertextJson
  let ciphertext ← base64ToArray (coerced toText (frame.get? "c"))
  let ivBytes ← base64ToArray (coerced toText (frame.get? "iv"))
  let plaintext ← gcm.decrypt crypto.aesKey.toList ivBytes ciphertext
  return textDecode repaired plaintext

end P2PCrypto

section Mark

theorem asBytes_cons (c : Char) (rest : List Char) :
    asBytes (String.ofList (c :: rest)) =
      String.utf8EncodeChar c ++ asBytes (String.ofList rest) := by
  rw [asBytes, asBytes, Utf8.bytes_eq_flatMap, Utf8.bytes_eq_flatMap, String.toList_ofList,
    String.toList_ofList, List.flatMap_cons]

theorem utf8EncodeChar_mark : String.utf8EncodeChar '\uFEFF' = [0xEF, 0xBB, 0xBF] := by decide

/-- A text begins with the mark when its bytes do. -/
theorem eq_mark_of_asBytes {c : Char} {rest : List Char} {behind : Bytes}
    (h : asBytes (String.ofList (c :: rest)) = 0xEF :: 0xBB :: 0xBF :: behind) : c = '\uFEFF' := by
  rw [asBytes_cons] at h
  have hMark : (0xEF :: 0xBB :: 0xBF :: behind : Bytes) =
      String.utf8EncodeChar '\uFEFF' ++ behind := by rw [utf8EncodeChar_mark]; rfl
  rw [hMark] at h
  exact Utf8.orderedCode.eq_of_append_eq h

/-- The mark is lost on the way. -/
theorem textDecode_mark (repaired : Bytes → String) (rest : List Char) :
    textDecode repaired (asBytes (String.ofList ('\uFEFF' :: rest))) = String.ofList rest := by
  rw [asBytes_cons, utf8EncodeChar_mark]
  simp only [textDecode, List.cons_append, List.nil_append, Types.strFromUtf8_asBytes,
    Option.getD_some]

/-- Any other text comes back. -/
theorem textDecode_of_ne (repaired : Bytes → String) {text : String}
    (h : ∀ rest, text.toList ≠ '\uFEFF' :: rest) : textDecode repaired (asBytes text) = text := by
  have hBytes : ∀ behind, asBytes text ≠ 0xEF :: 0xBB :: 0xBF :: behind := by
    intro behind hBehind
    obtain ⟨chars, rfl⟩ : ∃ chars, text = String.ofList chars :=
      ⟨text.toList, String.ofList_toList.symm⟩
    cases chars with
    | nil => cases hBehind
    | cons c chars =>
        obtain rfl := eq_mark_of_asBytes hBehind
        exact h chars String.toList_ofList
  rw [textDecode, Types.strFromUtf8_asBytes, Option.getD_some]
  exact hBytes

/-- A text comes back but for its mark. -/
theorem textDecode_asBytes (repaired : Bytes → String) (text : String) :
    textDecode repaired (asBytes text) = withoutMark text := by
  rw [withoutMark]
  split
  · rename_i rest hText
    rw [← textDecode_mark repaired rest, ← hText, String.ofList_toList]
  · rename_i hOther
    exact textDecode_of_ne repaired hOther

end Mark

section Wire

/-- No frame has a number in it. -/
def noNumerals : JsonText.Numerals Empty := ⟨fun number => number.elim, fun _ => none⟩

variable {Num : Type} (numerals : JsonText.Numerals Num) (gcm : Aes256Gcm)
  (toText : Json Num → String) (repaired : Bytes → String)

/-- What the strict decoder takes is the same for `atob`. -/
theorem base64ToArray_of_decode {b64 : String} {bytes : Bytes}
    (h : Base64.decode b64 = some bytes) : base64ToArray b64 = some bytes :=
  Base64.decodeForgiving_of_decode h

/-- A key that the browser reads is read here as the same key. -/
theorem createP2PCrypto_toBase64 (key : SealedKey) : createP2PCrypto key.toBase64 = some ⟨key⟩ := by
  have hSize : key.toList.toArray.size = 32 := by simp
  rw [createP2PCrypto, SealedKey.toBase64, base64ToArray_of_decode (Base64.decode_encode _)]
  simp only [hSize, dite_true]
  rfl

/-- Both sides seal a text in the same frame. -/
theorem P2PCrypto.exists_frame (key : SealedKey) (iv : GcmIv) (plaintext : String)
    (h : (asBytes plaintext).length ≤ gcm.maxLength) :
    ∃ frame, (P2P.Crypto.P2PCrypto.fromSealed key).encrypt gcm iv (asBytes plaintext) = .ok frame ∧
      encrypt numerals gcm ⟨key⟩ iv plaintext = some (frame.toText numerals) :=
  ⟨_, if_pos h, if_pos h⟩

/-- A frame of the two fields that the browser opens is opened here. -/
theorem P2PCrypto.decrypt_of_fields {key : SealedKey} {text : List Char} {plaintext : Bytes}
    {frame : EncryptedFrame} {iv : GcmIv} {found : List (String × Json Num)}
    (hFound : JsonText.parseFields numerals text = some found)
    (hCiphertext : (JsonText.latest found).lookup "c" = some (.str frame.ciphertext))
    (hIv : (JsonText.latest found).lookup "iv" = some (.str frame.iv))
    (hFrame : (P2P.Crypto.P2PCrypto.fromSealed key).encrypt gcm iv plaintext = .ok frame) :
    decrypt numerals gcm toText repaired ⟨key⟩ text = some (textDecode repaired plaintext) := by
  rw [P2P.Crypto.P2PCrypto.encrypt] at hFrame
  split_ifs at hFrame with hMax
  obtain rfl := Except.ok.inj hFrame
  have hOpened := (gcm.decrypt_eq_some_iff key.toList iv.toList
    (gcm.encrypt key.toList iv.toList plaintext) plaintext (P2P.Crypto.length_iv iv)).mpr
    ⟨hMax, rfl⟩
  simp only [decrypt, JsonText.parse_of_parseFields hFound, Json.get?, hCiphertext, hIv, coerced,
    base64ToArray_of_decode (Base64.decode_encode _), P2P.Crypto.P2PCrypto.fromSealed, hOpened,
    Option.pure_def, Option.bind_eq_bind, Option.bind_some]

/-- An array has no field by the name. -/
theorem P2PCrypto.decrypt_array {crypto : P2PCrypto} {text : List Char} {elems : List (Json Num)}
    (h : JsonText.parse numerals text.length text = some (.arr elems)) :
    decrypt numerals gcm toText repaired crypto text = none := by
  have hMissing : base64ToArray "undefined" = none := by decide
  simp only [decrypt, h, Json.get?, coerced, hMissing, Option.bind_eq_bind, Option.bind_some,
    Option.bind_none]

/-- The two sides are compatible on the wire: they read one key out of the invite, seal the
same frame under it, and open each other's; only a byte order mark at the beginning is lost
on the side of the launcher. -/
theorem wire_compatible (key : SealedKey) (iv : GcmIv) (plaintext : String)
    (h : (asBytes plaintext).length ≤ gcm.maxLength) :
    CoreWasm.P2PCrypto.fromKey key.toBase64 = .ok (.fromSealed key) ∧
      createP2PCrypto key.toBase64 = some ⟨key⟩ ∧
      ∃ frame, CoreWasm.P2PCrypto.encrypt numerals gcm (.fromSealed key) iv plaintext = .ok frame ∧
        P2PCrypto.encrypt numerals gcm ⟨key⟩ iv plaintext = some frame ∧
        CoreWasm.P2PCrypto.decrypt numerals gcm (.fromSealed key) frame = .ok plaintext ∧
        P2PCrypto.decrypt numerals gcm toText repaired ⟨key⟩ frame =
          some (withoutMark plaintext) := by
  have hKey : SealedKey.fromBase64 key.toBase64 = .ok key := SealedKey.fromBase64_eq_ok_iff.mpr rfl
  obtain ⟨frame, hSealed, hHere⟩ := P2PCrypto.exists_frame numerals gcm key iv plaintext h
  refine ⟨by rw [CoreWasm.P2PCrypto.fromKey, hKey], createP2PCrypto_toBase64 key,
    frame.toText numerals, by rw [CoreWasm.P2PCrypto.encrypt, hSealed], hHere, ?_, ?_⟩
  · exact CoreWasm.P2PCrypto.decrypt_eq_ok_iff.mpr
      ⟨frame, iv, EncryptedFrame.fromText_toText numerals frame, hSealed⟩
  · rw [← textDecode_asBytes repaired]
    exact P2PCrypto.decrypt_of_fields numerals gcm toText repaired
      (EncryptedFrame.parseFields_toText numerals frame) rfl rfl hSealed

/-- The byte of the vector is an asterisk. -/
theorem wire_compatible_vector :
    CoreWasm.P2PCrypto.fromKey SealedKey.ofVector.toBase64 = .ok (.fromSealed .ofVector) ∧
      createP2PCrypto SealedKey.ofVector.toBase64 = some ⟨.ofVector⟩ ∧
      ∃ frame, CoreWasm.P2PCrypto.encrypt noNumerals .ofVector (.fromSealed .ofVector) .ofVector
            "*" = .ok frame ∧
        P2PCrypto.encrypt noNumerals .ofVector ⟨.ofVector⟩ .ofVector "*" = some frame ∧
        CoreWasm.P2PCrypto.decrypt noNumerals .ofVector (.fromSealed .ofVector) frame = .ok "*" ∧
        P2PCrypto.decrypt noNumerals .ofVector (fun _ => "") (fun _ => "") ⟨.ofVector⟩ frame =
          some (withoutMark "*") :=
  wire_compatible noNumerals .ofVector (fun _ => "") (fun _ => "") .ofVector .ofVector "*"
    (by decide)

/-- What the browser opens was sealed under the key, however its text is laid out. The
launcher opens exactly the objects among these texts, to the same plaintext; the browser
takes an array as well. -/
theorem decrypt_agrees_iff (key : SealedKey) (text : List Char) (plaintext : String)
    (h : CoreWasm.P2PCrypto.decrypt numerals gcm (.fromSealed key) text = .ok plaintext) :
    (∃ frame iv, EncryptedFrame.fromText numerals text = some frame ∧
      (P2P.Crypto.P2PCrypto.fromSealed key).encrypt gcm iv (asBytes plaintext) = .ok frame) ∧
    (P2PCrypto.decrypt numerals gcm toText repaired ⟨key⟩ text = some (withoutMark plaintext) ↔
      (JsonText.parseFields numerals text).isSome) := by
  obtain ⟨frame, iv, hFrame, hSealed⟩ := CoreWasm.P2PCrypto.decrypt_eq_ok_iff.mp h
  refine ⟨⟨frame, iv, hFrame, hSealed⟩, ?_⟩
  rcases EncryptedFrame.fromText_cases numerals hFrame with
    ⟨found, hFound, hCiphertext, hIv⟩ | ⟨hNone, elems, hElems⟩
  · rw [P2PCrypto.decrypt_of_fields numerals gcm toText repaired hFound hCiphertext hIv hSealed,
      textDecode_asBytes, hFound]
    exact iff_of_true rfl rfl
  · rw [P2PCrypto.decrypt_array numerals gcm toText repaired hElems, hNone]
    exact iff_of_false (by simp) (by simp)

/-- The frame of the vector is an object. -/
theorem decrypt_agrees_iff_vector :
    P2PCrypto.decrypt noNumerals .ofVector (fun _ => "") (fun _ => "") ⟨.ofVector⟩
        (EncryptedFrame.ofVector.toText noNumerals) = some (withoutMark "*") ↔
      (JsonText.parseFields noNumerals (EncryptedFrame.ofVector.toText noNumerals)).isSome := by
  have hOpened := CoreWasm.P2PCrypto.decrypt_eq_ok_iff.mpr
    ⟨EncryptedFrame.ofVector, .ofVector,
      EncryptedFrame.fromText_toText noNumerals EncryptedFrame.ofVector,
      P2P.Crypto.encrypt_ofVector⟩
  exact (decrypt_agrees_iff noNumerals .ofVector (fun _ => "") (fun _ => "") .ofVector
    (EncryptedFrame.ofVector.toText noNumerals) "*" hOpened).2

end Wire

end Mxdx.Core
