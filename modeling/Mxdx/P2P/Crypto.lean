import Mxdx.Types.KeychainFile
import Mxdx.Foundations.Base64Canonical
import Mxdx.Foundations.JsonRecord

/-! The cipher of the data channel. A frame carries the nonce and what was sealed under it,
both in base64; the key travels in the invite the same way. -/
namespace Mxdx.P2P.Crypto

/-- AES-256-GCM without associated data, the tag behind the ciphertext. What is sealed is
settled by key, nonce and text, and only that is opened. -/
structure Aes256Gcm where
  maxLength : Nat
  encrypt : Bytes → Bytes → Bytes → Bytes
  decrypt : Bytes → Bytes → Bytes → Option Bytes
  decrypt_eq_some_iff : ∀ key nonce ciphertext text, nonce.length = 12 →
    (decrypt key nonce ciphertext = some text ↔
      text.length ≤ maxLength ∧ ciphertext = encrypt key nonce text)

namespace Aes256Gcm

/-- Of the vectors that both sides are tested with, the one of a single byte. -/
def vectorKey : Bytes := (List.range 32).map UInt8.ofNat

def vectorIv : Bytes := List.replicate 12 2

def vectorCiphertext : Bytes :=
  [0xB1, 0x2E, 0x4E, 0xAE, 0x88, 0x33, 0x16, 0xB2, 0x00, 0x67, 0x96, 0x97,
    0xC3, 0xFC, 0x94, 0xEE, 0x67]

def sealVector (key nonce text : Bytes) : Bytes :=
  if key = vectorKey ∧ nonce = vectorIv ∧ text = [0x2A] then vectorCiphertext
  else text ++ List.replicate 16 0

/-- The cipher as far as the vector tells it; any other text is left as it is, under a tag
of zeros. -/
def ofVector : Aes256Gcm where
  maxLength := 2 ^ 36 - 32
  encrypt := sealVector
  decrypt key nonce ciphertext :=
    if key = vectorKey ∧ nonce = vectorIv ∧ ciphertext = vectorCiphertext then some [0x2A]
    else
      let text := ciphertext.take (ciphertext.length - 16)
      if text.length ≤ 2 ^ 36 - 32 ∧ ciphertext = sealVector key nonce text then some text
      else none
  decrypt_eq_some_iff := by
    intro key nonce ciphertext text _
    have hTag : ∀ text : Bytes, text ++ List.replicate 16 0 ≠ vectorCiphertext := by
      intro text hEq
      have hLast := congrArg List.getLast? hEq
      rw [List.getLast?_append] at hLast
      cases hLast
    dsimp only
    constructor
    · intro h
      split_ifs at h with hVector hSealed
      · obtain ⟨rfl, rfl, rfl⟩ := hVector
        obtain rfl := Option.some.inj h
        exact ⟨by decide, (if_pos ⟨rfl, rfl, rfl⟩).symm⟩
      · obtain rfl := Option.some.inj h
        exact hSealed
    · rintro ⟨hMax, rfl⟩
      by_cases hVector : key = vectorKey ∧ nonce = vectorIv ∧ text = [0x2A]
      · obtain ⟨rfl, rfl, rfl⟩ := hVector
        exact if_pos ⟨rfl, rfl, if_pos ⟨rfl, rfl, rfl⟩⟩
      · have hPlain : sealVector key nonce text = text ++ List.replicate 16 0 := if_neg hVector
        rw [if_neg fun h => hTag text (hPlain ▸ h.2.2), hPlain]
        have hTake : (text ++ List.replicate 16 0).take
            ((text ++ List.replicate 16 (0 : UInt8)).length - 16) = text := by simp
        rw [hTake, hPlain, if_pos ⟨hMax, rfl⟩]

end Aes256Gcm

/-- What a frame or a key can be refused for. -/
inductive CryptoError where
  | aeadFailure
  | invalidBase64 (field : String)
  | invalidIvLength (got : Nat)
  | invalidKeyLength (got : Nat)
deriving DecidableEq, Repr

/-- The text of the error, before what the decoder adds to it. -/
def CryptoError.message : CryptoError → String
  | aeadFailure => "AES-GCM operation failed (tag mismatch or invalid key)"
  | invalidBase64 field => "invalid base64 in EncryptedFrame field " ++ field ++ ": "
  | invalidIvLength got => "invalid IV length: got " ++ toString got ++ " bytes, expected 12"
  | invalidKeyLength got => "invalid key length: got " ++ toString got ++ " bytes, expected 32"

/-- A frame as it is sent: both parts in base64. -/
structure EncryptedFrame where
  ciphertext : String
  iv : String
deriving DecidableEq, Repr

/-- A key of AES-256, of its length by its type. -/
abbrev SealedKey := Vector UInt8 32

/-- A nonce of GCM, of its length by its type. -/
abbrev GcmIv := Vector UInt8 12

def SealedKey.ofVector : SealedKey := ⟨Aes256Gcm.vectorKey.toArray, by simp [Aes256Gcm.vectorKey]⟩

def GcmIv.ofVector : GcmIv := .replicate 12 2

namespace SealedKey

/-- The key as the call events carry it. -/
def toBase64 (key : SealedKey) : String := Base64.encode key.toList

/-- A text of another length is no key. -/
def fromBase64 (b64 : String) : Except CryptoError SealedKey :=
  match Base64.decode b64 with
  | none => .error (.invalidBase64 "mxdx_session_key")
  | some raw =>
      if h : raw.toArray.size = 32 then .ok ⟨raw.toArray, h⟩
      else .error (.invalidKeyLength raw.length)

end SealedKey

/-- The one key that both directions of a session share. -/
structure P2PCrypto where
  key : SealedKey

namespace P2PCrypto

variable (gcm : Aes256Gcm) (crypto : P2PCrypto)

def fromSealed (key : SealedKey) : P2PCrypto := ⟨key⟩

/-- Each frame brings its own nonce, which is sent with it. -/
def encrypt (iv : GcmIv) (plaintext : Bytes) : Except CryptoError EncryptedFrame :=
  if plaintext.length ≤ gcm.maxLength then
    .ok { ciphertext := Base64.encode (gcm.encrypt crypto.key.toList iv.toList plaintext)
          iv := Base64.encode iv.toList }
  else .error .aeadFailure

/-- The ciphertext is decoded before the nonce, so its error comes first. -/
def decrypt (frame : EncryptedFrame) : Except CryptoError Bytes :=
  match Base64.decode frame.ciphertext with
  | none => .error (.invalidBase64 "c")
  | some ciphertext =>
      match Base64.decode frame.iv with
      | none => .error (.invalidBase64 "iv")
      | some iv =>
          if iv.length ≠ 12 then .error (.invalidIvLength iv.length)
          else
            match gcm.decrypt crypto.key.toList iv ciphertext with
            | none => .error .aeadFailure
            | some plaintext => .ok plaintext

end P2PCrypto

def EncryptedFrame.ofVector : EncryptedFrame := ⟨"sS5OrogzFrIAZ5aXw/yU7mc=", "AgICAgICAgICAgIC"⟩

theorem encrypt_ofVector :
    (P2PCrypto.fromSealed .ofVector).encrypt .ofVector .ofVector (asBytes "*") =
      .ok EncryptedFrame.ofVector := by
  decide

section Exact

/-- A key is read from the one text that it is written as. -/
theorem SealedKey.fromBase64_eq_ok_iff {b64 : String} {key : SealedKey} :
    fromBase64 b64 = .ok key ↔ b64 = key.toBase64 := by
  constructor
  · intro h
    rw [fromBase64] at h
    split at h
    · cases h
    · rename_i raw hRaw
      split_ifs at h
      obtain rfl := Except.ok.inj h
      exact Base64.decode_eq_some_iff.mp hRaw
  · rintro rfl
    have hSize : key.toList.toArray.size = 32 := by simp
    rw [fromBase64, toBase64, Base64.decode_encode]
    simp only [hSize, dite_true]
    rfl

variable {gcm : Aes256Gcm} {crypto : P2PCrypto} {frame : EncryptedFrame} {plaintext : Bytes}

/-- A nonce has its length by its type. -/
theorem length_iv (iv : GcmIv) : iv.toList.length = 12 := by simp

/-- A frame that is opened is, letter for letter, one that the key has sealed. -/
theorem P2PCrypto.decrypt_eq_ok_iff :
    crypto.decrypt gcm frame = .ok plaintext ↔
      ∃ iv, crypto.encrypt gcm iv plaintext = .ok frame := by
  constructor
  · intro h
    rw [decrypt] at h
    split at h
    · cases h
    · rename_i ciphertext hCiphertext
      split at h
      · cases h
      · rename_i iv hIv
        split_ifs at h with hLength
        split at h
        · cases h
        · rename_i opened hOpened
          obtain rfl := Except.ok.inj h
          rw [not_not] at hLength
          obtain ⟨hMax, rfl⟩ := (gcm.decrypt_eq_some_iff _ _ _ _ hLength).mp hOpened
          have hFrame : frame = ⟨frame.ciphertext, frame.iv⟩ := rfl
          rw [Base64.decode_eq_some_iff.mp hCiphertext, Base64.decode_eq_some_iff.mp hIv] at hFrame
          exact ⟨⟨iv.toArray, by simpa using hLength⟩, by rw [encrypt, if_pos hMax, hFrame]; rfl⟩
  · rintro ⟨iv, h⟩
    rw [encrypt] at h
    split_ifs at h with hMax
    obtain rfl := Except.ok.inj h
    have hOpened := (gcm.decrypt_eq_some_iff crypto.key.toList iv.toList
      (gcm.encrypt crypto.key.toList iv.toList plaintext) plaintext (length_iv iv)).mpr
      ⟨hMax, rfl⟩
    simp only [decrypt, Base64.decode_encode, length_iv, ne_eq, not_true_eq_false, if_false,
      hOpened]

end Exact

section Text

variable {Num : Type} (numerals : JsonText.Numerals Num)

/-- The names of the fields are one letter and two. -/
def EncryptedFrame.toJson (frame : EncryptedFrame) : Json Num :=
  .obj [("c", .str frame.ciphertext), ("iv", .str frame.iv)]

/-- `serde_json::to_string`. -/
def EncryptedFrame.toText (frame : EncryptedFrame) : List Char :=
  JsonText.write numerals frame.toJson

/-- `serde_json::from_str`. -/
def EncryptedFrame.fromText (text : List Char) : Option EncryptedFrame :=
  JsonText.record numerals ["c", "iv"] 2 (fun field => do
    let ciphertext ← Json.required Json.asStr (field "c")
    let iv ← Json.required Json.asStr (field "iv")
    return ⟨ciphertext, iv⟩) text

/-- The text of a frame has its two fields and no others. -/
theorem EncryptedFrame.parseFields_toText (frame : EncryptedFrame) :
    JsonText.parseFields numerals (frame.toText numerals) =
      some [("c", .str frame.ciphertext), ("iv", .str frame.iv)] := by
  refine JsonText.parseFields_write (List.cons_ne_nil _ _) fun depth field hField => ?_
  simp only [List.mem_cons, List.not_mem_nil, or_false] at hField
  rcases hField with rfl | rfl <;> exact .str _

/-- A frame is read as what it was written from. -/
@[simp] theorem EncryptedFrame.fromText_toText (frame : EncryptedFrame) :
    fromText numerals (frame.toText numerals) = some frame := by
  rw [fromText, JsonText.record, parseFields_toText]
  rfl

theorem eq_str_of_asStr {Num : Type} {value : Json Num} {text : String}
    (h : value.asStr = some text) : value = .str text := by
  cases value with
  | str found => rw [Option.some.inj h]
  | _ => cases h

/-- A frame is an object with the two fields, or an array. -/
theorem EncryptedFrame.fromText_cases {text : List Char} {frame : EncryptedFrame}
    (h : fromText numerals text = some frame) :
    (∃ found, JsonText.parseFields numerals text = some found ∧
      (JsonText.latest found).lookup "c" = some (.str frame.ciphertext) ∧
      (JsonText.latest found).lookup "iv" = some (.str frame.iv)) ∨
    JsonText.parseFields numerals text = none ∧
      ∃ elems, JsonText.parse numerals text.length text = some (.arr elems) := by
  rw [fromText, JsonText.record] at h
  split at h
  · rename_i found hFound
    split_ifs at h with hOnce
    simp only [Json.asRecord, Json.required, Option.pure_def, Option.bind_eq_bind,
      Option.bind_eq_some_iff] at h
    obtain ⟨ciphertext, ⟨first, hFirst, hCiphertext⟩, iv, ⟨second, hSecond, hIv⟩, hFrame⟩ := h
    obtain rfl := Option.some.inj hFrame
    obtain rfl := eq_str_of_asStr hCiphertext
    obtain rfl := eq_str_of_asStr hIv
    refine .inl ⟨found, hFound, ?_, ?_⟩
    · rw [JsonText.lookup_latest (hOnce "c" (by simp)), hFirst]
    · rw [JsonText.lookup_latest (hOnce "iv" (by simp)), hSecond]
  · rename_i hNone
    split at h
    · rename_i elems hElems
      exact .inr ⟨hNone, elems, hElems⟩
    · cases h

end Text

end Mxdx.P2P.Crypto

namespace Mxdx.CoreWasm.P2PCrypto

open P2P.Crypto (Aes256Gcm CryptoError EncryptedFrame GcmIv SealedKey)

/-- What is thrown, by the operation that failed. -/
inductive Thrown where
  | invalidSessionKey (error : CryptoError)
  | encrypt (error : CryptoError)
  | parseFrame
  | decrypt (error : CryptoError)
  | utf8
deriving DecidableEq, Repr

/-- A key that cannot be read is told as one. -/
def fromKey (base64Key : String) : Except Thrown P2P.Crypto.P2PCrypto :=
  match SealedKey.fromBase64 base64Key with
  | .error error => .error (.invalidSessionKey error)
  | .ok key => .ok (.fromSealed key)

variable {Num : Type} (numerals : JsonText.Numerals Num) (gcm : Aes256Gcm)
  (crypto : P2P.Crypto.P2PCrypto)

/-- The frame goes to JavaScript as a text. -/
def encrypt (iv : GcmIv) (plaintext : String) : Except Thrown (List Char) :=
  match crypto.encrypt gcm iv (asBytes plaintext) with
  | .error error => .error (.encrypt error)
  | .ok frame => .ok (frame.toText numerals)

/-- The frame is read before the key is used. -/
def decrypt (ciphertextJson : List Char) : Except Thrown String :=
  match EncryptedFrame.fromText numerals ciphertextJson with
  | none => .error .parseFrame
  | some frame =>
      match crypto.decrypt gcm frame with
      | .error error => .error (.decrypt error)
      | .ok plaintext =>
          match Types.strFromUtf8 plaintext with
          | none => .error .utf8
          | some text => .ok text

variable {numerals gcm crypto}

/-- What is opened is a frame that the key has sealed, however its text is laid out. -/
theorem decrypt_eq_ok_iff {ciphertextJson : List Char} {plaintext : String} :
    decrypt numerals gcm crypto ciphertextJson = .ok plaintext ↔
      ∃ frame iv, EncryptedFrame.fromText numerals ciphertextJson = some frame ∧
        crypto.encrypt gcm iv (asBytes plaintext) = .ok frame := by
  constructor
  · intro h
    rw [decrypt] at h
    split at h
    · cases h
    · rename_i frame hFrame
      split at h
      · cases h
      · rename_i opened hOpened
        split at h
        · cases h
        · rename_i text hText
          obtain rfl := Except.ok.inj h
          obtain ⟨iv, hIv⟩ := P2P.Crypto.P2PCrypto.decrypt_eq_ok_iff.mp hOpened
          rw [← Types.asBytes_of_strFromUtf8 hText] at hIv
          exact ⟨frame, iv, hFrame, hIv⟩
  · rintro ⟨frame, iv, hFrame, hIv⟩
    have hOpened := P2P.Crypto.P2PCrypto.decrypt_eq_ok_iff.mpr ⟨iv, hIv⟩
    simp only [decrypt, hFrame, hOpened, Types.strFromUtf8_asBytes]

end Mxdx.CoreWasm.P2PCrypto
