import Mxdx.Basic
import Mxdx.Worker.Tmux
import Mxdx.Foundations.Automaton
import Mxdx.Foundations.Base64
import Mathlib.Algebra.Group.Nat.Defs
import Mathlib.Data.Set.Function

/-! `FileKeychain`: one encrypted file for a key, named after the key with every
character outside `a-zA-Z0-9._-` rewritten. The in-memory keychain, which keeps
the keys as they are, says what a keychain is for. -/
namespace Mxdx.Types

open Automaton

/-- AES-256-GCM with a nonce of 16 bytes. The tag, as long as the nonce, follows
the ciphertext, which is as long as the text. -/
structure AesGcm where
  maxLength : Nat
  encrypt : Bytes → Bytes → Bytes → Bytes
  decrypt : Bytes → Bytes → Bytes → Option Bytes
  length_encrypt : ∀ key nonce text, (encrypt key nonce text).length = text.length + 16
  decrypt_encrypt : ∀ key nonce text, text.length ≤ maxLength →
    decrypt key nonce (encrypt key nonce text) = some text

/-- What a call can fail with. -/
inductive KeychainError where
  | valueNotUtf8
  | encryptionFailed
  | invalidBase64
  | tooShort
  | decryptionFailed
  | decryptedNotUtf8
deriving DecidableEq

/-- The text of the error, before what the crate that failed adds to it. -/
def KeychainError.message : KeychainError → String
  | valueNotUtf8 => "file keychain value must be valid UTF-8"
  | encryptionFailed => "AES-GCM encryption failed: "
  | invalidBase64 => "invalid base64 in keychain file"
  | tooShort => "keychain file too short (expected at least 32 bytes for IV + AuthTag)"
  | decryptionFailed => "AES-GCM decryption failed: "
  | decryptedNotUtf8 => "decrypted value is not valid UTF-8"

/-- A key of its length by its type. -/
abbrev EncryptionKey := Vector UInt8 32

/-- A nonce of its length by its type. -/
abbrev GcmNonce := Vector UInt8 16

/-- `String::from_utf8`. -/
def strFromUtf8 (bytes : Bytes) : Option String := String.fromUTF8? ⟨bytes.toArray⟩

theorem asBytes_of_strFromUtf8 {bytes : Bytes} {text : String}
    (h : strFromUtf8 bytes = some text) : asBytes text = bytes := by
  unfold strFromUtf8 String.fromUTF8? at h
  split at h
  · cases h
    rfl
  · cases h

theorem strFromUtf8_asBytes (text : String) : strFromUtf8 (asBytes text) = some text := by
  have hValid : (⟨(asBytes text).toArray⟩ : ByteArray).IsValidUTF8 := text.isValidUTF8
  rw [strFromUtf8, String.fromUTF8?, dif_pos hValid]
  rfl

/-- The characters that stay in a file name. -/
def isKeyChar (c : Char) : Bool := c.isAlphanum || c == '.' || c == '_' || c == '-'

/-- Every other character becomes an underscore. -/
def sanitizeChar (c : Char) : Char := if isKeyChar c then c else '_'

/-- A key as a file name. -/
def sanitizeKey (key : String) : String := String.ofList (key.toList.map sanitizeChar)

/-- The name in the configuration directory. -/
def filePath (key : String) : String := sanitizeKey key ++ ".enc"

section Cipher

variable (gcm : AesGcm) (key : EncryptionKey)

/-- `base64(IV || AuthTag || Ciphertext)`. -/
def encrypt (nonce : GcmNonce) (plaintext : String) : Except KeychainError String :=
  if (asBytes plaintext).length ≤ gcm.maxLength then
    let ciphertextWithTag := gcm.encrypt key.toList nonce.toList (asBytes plaintext)
    let ctLen := ciphertextWithTag.length - 16
    let ciphertext := ciphertextWithTag.take ctLen
    let tag := ciphertextWithTag.drop ctLen
    .ok (Base64.encode (nonce.toList ++ tag ++ ciphertext))
  else .error .encryptionFailed

/-- The nonce stands in front of the ciphertext. -/
def decrypt (encoded : String) : Except KeychainError String :=
  match Base64.decode encoded with
  | none => .error .invalidBase64
  | some wire =>
      if wire.length < 32 then .error .tooShort
      else
        let iv := wire.take 16
        let tag := (wire.drop 16).take 16
        let ciphertext := wire.drop 32
        match gcm.decrypt key.toList iv (ciphertext ++ tag) with
        | none => .error .decryptionFailed
        | some plaintext =>
            match strFromUtf8 plaintext with
            | none => .error .decryptedNotUtf8
            | some text => .ok text

variable {gcm key} {nonce : GcmNonce} {plaintext encoded : String}

theorem decrypt_encrypt (h : encrypt gcm key nonce plaintext = .ok encoded) :
    decrypt gcm key encoded = .ok plaintext := by
  unfold encrypt at h
  split at h
  case isFalse => cases h
  case isTrue hLength =>
    have hSealed := gcm.length_encrypt key.toList nonce.toList (asBytes plaintext)
    have hOpen := gcm.decrypt_encrypt key.toList nonce.toList (asBytes plaintext) hLength
    revert h
    generalize gcm.encrypt key.toList nonce.toList (asBytes plaintext) = sealed at hSealed hOpen ⊢
    intro h
    cases h
    have hNonce : nonce.toList.length = 16 := Vector.length_toList
    have hTag : (sealed.drop (sealed.length - 16)).length = 16 := by
      rw [List.length_drop]
      omega
    have hParts : (nonce.toList ++ sealed.drop (sealed.length - 16)).length = 32 := by
      rw [List.length_append, hNonce, hTag]
    have hLong : ¬ (nonce.toList ++ sealed.drop (sealed.length - 16) ++
        sealed.take (sealed.length - 16)).length < 32 := by
      rw [List.length_append, hParts]
      omega
    unfold decrypt
    simp only [Base64.decode_encode, if_neg hLong]
    rw [List.drop_left' hParts, List.append_assoc, List.take_left' hNonce,
      List.drop_left' hNonce, List.take_left' hTag, List.take_append_drop, hOpen]
    simp only [strFromUtf8_asBytes]

/-- No white space: reading the file trims nothing off. -/
theorem trim_of_encrypt (h : encrypt gcm key nonce plaintext = .ok encoded) :
    Worker.trim encoded.toList = encoded.toList := by
  unfold encrypt at h
  split at h
  case isFalse => cases h
  case isTrue =>
    cases h
    apply Worker.trim_of_no_whitespace
    intro c hMem
    rw [Base64.encode, String.toList_ofList] at hMem
    have hSymbols : ∀ n : Fin 64, Worker.isWhitespace (Base64.symbol n.val) = false := by decide
    rcases Base64.mem_encodeChars hMem with rfl | ⟨n, hn, rfl⟩
    · rfl
    · exact hSymbols ⟨n, hn⟩

end Cipher

/-- The key, and the texts of the files in the configuration directory. -/
structure FileKeychain where
  key : EncryptionKey
  files : String → Option String

namespace FileKeychain

variable (gcm : AesGcm)

/-- The directory is empty. -/
def withDirAndKey (key : EncryptionKey) : FileKeychain := ⟨key, fun _ => none⟩

def get (keychain : FileKeychain) (key : String) : Except KeychainError (Option Bytes) :=
  match keychain.files (filePath key) with
  | none => .ok none
  | some encoded =>
      (decrypt gcm keychain.key (String.ofList (Worker.trim encoded.toList))).map
        (some ∘ asBytes)

/-- The nonce is drawn for the call. -/
def set (keychain : FileKeychain) (key : String) (value : Bytes) (nonce : GcmNonce) :
    Except KeychainError FileKeychain :=
  match strFromUtf8 value with
  | none => .error .valueNotUtf8
  | some plaintext =>
      (encrypt gcm keychain.key nonce plaintext).map fun encoded =>
        { keychain with files := Function.update keychain.files (filePath key) (some encoded) }

def delete (keychain : FileKeychain) (key : String) : FileKeychain :=
  { keychain with files := Function.update keychain.files (filePath key) none }

end FileKeychain

/-- The keychain that keeps every key apart. -/
structure InMemoryKeychain where
  store : String → Option Bytes

namespace InMemoryKeychain

def new : InMemoryKeychain := ⟨fun _ => none⟩

def get (keychain : InMemoryKeychain) (key : String) : Option Bytes := keychain.store key

def set (keychain : InMemoryKeychain) (key : String) (value : Bytes) : InMemoryKeychain :=
  ⟨Function.update keychain.store key (some value)⟩

def delete (keychain : InMemoryKeychain) (key : String) : InMemoryKeychain :=
  ⟨Function.update keychain.store key none⟩

variable (keychain : InMemoryKeychain) {key other : String} (value : Bytes)

@[simp] theorem get_new : new.get key = none := rfl

@[simp] theorem get_set_self : (keychain.set key value).get key = some value := by
  simp [get, set]

@[simp] theorem get_delete_self : (keychain.delete key).get key = none := by
  simp [get, delete]

theorem get_set_of_ne (h : other ≠ key) : (keychain.set key value).get other = keychain.get other := by
  simp [get, set, h]

theorem get_delete_of_ne (h : other ≠ key) : (keychain.delete key).get other = keychain.get other := by
  simp [get, delete, h]

end InMemoryKeychain

section GetSet

variable {gcm : AesGcm} {keychain next : FileKeychain} {key other : String} {value : Bytes}
  {nonce : GcmNonce}

/-- What a key reads depends on its file alone. -/
theorem FileKeychain.get_congr (hKey : next.key = keychain.key)
    (hFile : next.files (filePath key) = keychain.files (filePath other)) :
    next.get gcm key = keychain.get gcm other := by
  rw [get, get, hKey, hFile]

theorem FileKeychain.set_isOk_iff :
    (∃ next, keychain.set gcm key value nonce = .ok next) ↔
      (strFromUtf8 value).isSome ∧ value.length ≤ gcm.maxLength := by
  unfold set
  cases hText : strFromUtf8 value with
  | none => simp
  | some plaintext =>
      have hBytes := asBytes_of_strFromUtf8 hText
      simp only [encrypt, hBytes, Option.isSome_some, true_and]
      split_ifs with hLength
      · simp [Except.map, hLength]
      · simp [Except.map, hLength]

/-- Every key of that file name reads the value. -/
theorem FileKeychain.get_set (h : keychain.set gcm key value nonce = .ok next)
    (hFile : filePath other = filePath key) : next.get gcm other = .ok (some value) := by
  unfold set at h
  cases hText : strFromUtf8 value with
  | none => simp [hText] at h
  | some plaintext =>
      cases hSealed : encrypt gcm keychain.key nonce plaintext with
      | error error => simp [hText, hSealed, Except.map] at h
      | ok encoded =>
          have hBytes := asBytes_of_strFromUtf8 hText
          simp only [hText, hSealed, Except.map, Except.ok.injEq] at h
          subst h
          have hTrim := trim_of_encrypt hSealed
          simp [get, hFile, hTrim, decrypt_encrypt hSealed, hBytes, Except.map]

theorem FileKeychain.get_set_of_file_ne (h : keychain.set gcm key value nonce = .ok next)
    (hFile : filePath other ≠ filePath key) : next.get gcm other = keychain.get gcm other := by
  unfold set at h
  cases hText : strFromUtf8 value with
  | none => simp [hText] at h
  | some plaintext =>
      cases hSealed : encrypt gcm keychain.key nonce plaintext with
      | error error => simp [hText, hSealed, Except.map] at h
      | ok encoded =>
          simp only [hText, hSealed, Except.map, Except.ok.injEq] at h
          subst h
          exact FileKeychain.get_congr rfl (by simp [hFile])

theorem FileKeychain.get_delete (hFile : filePath other = filePath key) :
    (keychain.delete key).get gcm other = .ok none := by
  simp [get, delete, hFile]

theorem FileKeychain.get_delete_of_file_ne (hFile : filePath other ≠ filePath key) :
    (keychain.delete key).get gcm other = keychain.get gcm other := by
  exact FileKeychain.get_congr rfl (by simp [delete, hFile])

end GetSet

/-- The calls that change a keychain. -/
inductive KeychainOperation where
  | set (key : String) (value : Bytes) (nonce : GcmNonce)
  | delete (key : String)

/-- The key that a call is about. -/
def KeychainOperation.key : KeychainOperation → String
  | set key _ _ => key
  | delete key => key

/-- The files beside a keychain in memory that was asked for the same. -/
structure KeychainHistory where
  keychain : FileKeychain
  stored : InMemoryKeychain

namespace KeychainHistory

variable (gcm : AesGcm)

def new (key : EncryptionKey) : KeychainHistory := ⟨.withDirAndKey key, .new⟩

/-- A `set` that fails stores nothing: it fails before the file is written. -/
def step (history : KeychainHistory) : KeychainOperation → KeychainHistory
  | .set key value nonce =>
      match history.keychain.set gcm key value nonce with
      | .ok keychain => ⟨keychain, history.stored.set key value⟩
      | .error _ => history
  | .delete key => ⟨history.keychain.delete key, history.stored.delete key⟩

/-- Each of `keys` reads what was set last for it and not deleted since. -/
def Faithful (keys : Set String) (history : KeychainHistory) : Prop :=
  ∀ key ∈ keys, history.keychain.get gcm key = .ok (history.stored.get key)

/-- The operation leaves what the others of `keys` read as it was. -/
def Isolated (keys : Set String) (history : KeychainHistory) (operation : KeychainOperation) :
    Prop :=
  ∀ other ∈ keys, other ≠ operation.key →
    (history.step gcm operation).keychain.get gcm other = history.keychain.get gcm other

/-- Of `keys`, only this one has its file name. -/
def Alone (keys : Set String) (key : String) : Prop :=
  ∀ other ∈ keys, filePath other = filePath key → other = key

/-- A value that gets stored goes under a name of its own. -/
def StoresAlone (keys : Set String) : KeychainOperation → Prop
  | .set key value _ =>
      (strFromUtf8 value).isSome ∧ value.length ≤ gcm.maxLength → Alone keys key
  | .delete _ => True

/-- Faithful, and no value is stored but under a name of its own. -/
def FaithfulAlone (keys : Set String) (history : KeychainHistory) : Prop :=
  Faithful gcm keys history ∧
    ∀ key ∈ keys, (history.stored.get key).isSome → Alone keys key

variable {gcm} {keys : Set String} {history : KeychainHistory} {operation : KeychainOperation}

theorem FaithfulAlone.set {key : String} {value : Bytes} {next : FileKeychain} {nonce : GcmNonce}
    (h : FaithfulAlone gcm keys history) (hAlone : Alone keys key)
    (hSet : history.keychain.set gcm key value nonce = .ok next) :
    FaithfulAlone gcm keys ⟨next, history.stored.set key value⟩ := by
  constructor
  · intro other hOther
    by_cases hSame : other = key
    · subst hSame
      rw [FileKeychain.get_set hSet rfl, InMemoryKeychain.get_set_self]
    · have hFile : filePath other ≠ filePath key := fun hEq => hSame (hAlone other hOther hEq)
      rw [FileKeychain.get_set_of_file_ne hSet hFile, InMemoryKeychain.get_set_of_ne _ _ hSame]
      exact h.1 other hOther
  · intro other hOther hStored
    by_cases hSame : other = key
    · rw [hSame]
      exact hAlone
    · rw [InMemoryKeychain.get_set_of_ne _ _ hSame] at hStored
      exact h.2 other hOther hStored

/-- A key that loses its file to another one had no value in it. -/
theorem FaithfulAlone.delete {key : String} (h : FaithfulAlone gcm keys history)
    (hKey : key ∈ keys) :
    FaithfulAlone gcm keys ⟨history.keychain.delete key, history.stored.delete key⟩ := by
  constructor
  · intro other hOther
    by_cases hSame : other = key
    · subst hSame
      rw [FileKeychain.get_delete rfl, InMemoryKeychain.get_delete_self]
    · rw [InMemoryKeychain.get_delete_of_ne _ hSame]
      by_cases hFile : filePath other = filePath key
      · have hNone : history.stored.get other = none := by
          rw [Option.eq_none_iff_forall_ne_some]
          intro value hValue
          exact hSame (h.2 other hOther (by rw [hValue]; rfl) key hKey hFile.symm).symm
        rw [FileKeychain.get_delete hFile, hNone]
      · rw [FileKeychain.get_delete_of_file_ne hFile]
        exact h.1 other hOther
  · intro other hOther hStored
    by_cases hSame : other = key
    · rw [hSame, InMemoryKeychain.get_delete_self] at hStored
      cases hStored
    · rw [InMemoryKeychain.get_delete_of_ne _ hSame] at hStored
      exact h.2 other hOther hStored

theorem FaithfulAlone.step (h : FaithfulAlone gcm keys history) (hKey : operation.key ∈ keys)
    (hStores : StoresAlone gcm keys operation) :
    FaithfulAlone gcm keys (history.step gcm operation) := by
  cases operation with
  | set key value nonce =>
      cases hSet : history.keychain.set gcm key value nonce with
      | ok next =>
          have hAccepted := FileKeychain.set_isOk_iff.mp ⟨next, hSet⟩
          simpa only [KeychainHistory.step, hSet] using h.set (hStores hAccepted) hSet
      | error error => simpa only [KeychainHistory.step, hSet] using h
  | delete key => exact h.delete hKey

/-- A value stored under a shared name is what the other key reads, too. -/
theorem FaithfulAlone.storesAlone (h : FaithfulAlone gcm keys history)
    (hKey : operation.key ∈ keys) (hNext : Faithful gcm keys (history.step gcm operation)) :
    StoresAlone gcm keys operation := by
  cases operation with
  | delete key => trivial
  | set key value nonce =>
      intro hAccepted other hOther hFile
      obtain ⟨next, hSet⟩ : ∃ next, history.keychain.set gcm key value nonce = .ok next :=
        FileKeychain.set_isOk_iff.mpr hAccepted
      by_contra hNe
      have hRead := hNext other hOther
      simp only [KeychainHistory.step, hSet] at hRead
      rw [FileKeychain.get_set hSet hFile, InMemoryKeychain.get_set_of_ne _ _ hNe] at hRead
      have hStored : history.stored.get other = some value := (Except.ok.inj hRead).symm
      exact hNe (h.2 other hOther (by rw [hStored]; rfl) key hKey hFile.symm).symm

theorem faithfulAlone_new (key : EncryptionKey) : FaithfulAlone gcm keys (new key) :=
  ⟨fun _ _ => rfl, fun _ _ hStored => nomatch hStored⟩

/-- Among the keys of a history all is well exactly as long as none of them
shares its file name with one that a value is stored for. -/
theorem always_faithful_iff_storesAlone (key : EncryptionKey) {operations : List KeychainOperation}
    (hKeys : ∀ operation ∈ operations, operation.key ∈ keys) :
    Always (step gcm) (Faithful gcm keys) (new key) operations ↔
      ∀ operation ∈ operations, StoresAlone gcm keys operation := by
  have hAdmissible : Always (step gcm) (Faithful gcm keys) (new key) operations ↔
      Admissible (step gcm) (fun _ => StoresAlone gcm keys) (new key) operations :=
    always_iff_admissible_of_stronger (fun _ h => h.1)
      (fun _ _ hKey h hStores => h.step hKey hStores)
      (fun _ _ hKey h hNext => h.storesAlone hKey hNext) hKeys (faithfulAlone_new key)
  exact hAdmissible.trans admissible_iff_forall

theorem always_faithful_of_injOn (key : EncryptionKey) {operations : List KeychainOperation}
    (hKeys : ∀ operation ∈ operations, operation.key ∈ keys)
    (hApart : Set.InjOn filePath keys) :
    Always (step gcm) (Faithful gcm keys) (new key) operations := by
  apply (always_faithful_iff_storesAlone key hKeys).mpr
  intro operation hMem
  cases operation with
  | set name value nonce => exact fun _ other hOther hFile => hApart hOther (hKeys _ hMem) hFile
  | delete name => trivial

end KeychainHistory

section Plain

/-- What `sanitize_key` leaves as it is and writes for nothing else. -/
def isPlain (c : Char) : Bool := c.isAlphanum || c == '.' || c == '-'

theorem isKeyChar_eq (c : Char) : isKeyChar c = (isPlain c || c == '_') := by
  simp only [isKeyChar, isPlain, Bool.or_right_comm]

theorem eq_of_sanitizeChar_eq {c d : Char} (hPlain : isPlain c = true)
    (h : sanitizeChar d = sanitizeChar c) : d = c := by
  have hKept : sanitizeChar c = c := by simp [sanitizeChar, isKeyChar_eq, hPlain]
  rw [hKept, sanitizeChar] at h
  split_ifs at h
  · exact h
  · subst h
    exact absurd hPlain (by decide)

/-- Another character that is written alike, unless the character is plain. -/
def lookalikeChar (c : Char) : Char := if isPlain c then c else if c = '_' then ':' else '_'

theorem sanitizeChar_lookalikeChar (c : Char) :
    sanitizeChar (lookalikeChar c) = sanitizeChar c := by
  unfold lookalikeChar
  split_ifs with hPlain hUnderscore
  · rfl
  · subst hUnderscore
    rfl
  · have hRewritten : isKeyChar c = false := by simp [isKeyChar_eq, hPlain, hUnderscore]
    rw [sanitizeChar, sanitizeChar, hRewritten]
    rfl

theorem lookalikeChar_eq_iff (c : Char) : lookalikeChar c = c ↔ isPlain c = true := by
  unfold lookalikeChar
  split_ifs with hPlain hUnderscore
  · simp [hPlain]
  · subst hUnderscore
    decide
  · simp [hPlain, Ne.symm hUnderscore]

theorem eq_of_map_sanitizeChar_eq {chars others : List Char}
    (hPlain : ∀ c ∈ chars, isPlain c = true)
    (h : others.map sanitizeChar = chars.map sanitizeChar) : others = chars := by
  induction chars generalizing others with
  | nil => exact List.map_eq_nil_iff.mp h
  | cons c chars ih =>
      obtain ⟨d, rest, rfl, hHead, hTail⟩ := List.map_eq_cons_iff.mp h
      rw [eq_of_sanitizeChar_eq (hPlain c List.mem_cons_self) hHead,
        ih (fun e hMem => hPlain e (List.mem_cons_of_mem _ hMem)) hTail]

theorem filePath_eq_iff {key other : String} :
    filePath other = filePath key ↔
      other.toList.map sanitizeChar = key.toList.map sanitizeChar := by
  rw [filePath, filePath, String.append_left_inj, sanitizeKey, sanitizeKey, String.ofList_inj]

/-- The keys that share their file name with no other string. -/
theorem alone_univ_iff {key : String} :
    KeychainHistory.Alone Set.univ key ↔ ∀ c ∈ key.toList, isPlain c = true := by
  constructor
  · intro hAlone
    have hSame : String.ofList (key.toList.map lookalikeChar) = key := by
      apply hAlone _ (Set.mem_univ _)
      rw [filePath_eq_iff, String.toList_ofList, List.map_map]
      exact List.map_congr_left fun c _ => sanitizeChar_lookalikeChar c
    rw [← String.toList_inj, String.toList_ofList] at hSame
    have hFixed := List.map_inj_left.mp (hSame.trans (List.map_id _).symm)
    exact fun c hMem => (lookalikeChar_eq_iff c).mp (hFixed c hMem)
  · intro hPlain other _ hFile
    exact String.toList_inj.mp (eq_of_map_sanitizeChar_eq hPlain (filePath_eq_iff.mp hFile))

end Plain

namespace KeychainHistory

/-- No operation changes what another key reads, and every key reads what was
set last for it and not deleted since. -/
def KeyIsolation (gcm : AesGcm) (start : KeychainHistory) (operations : List KeychainOperation) :
    Prop :=
  Admissible (step gcm) (Isolated gcm Set.univ) start operations ∧
    Always (step gcm) (Faithful gcm Set.univ) start operations

/-- Every value that is valid UTF-8, and short enough for the cipher, is set
under a key of letters, digits, points and hyphens. -/
def StoresPlain (gcm : AesGcm) : KeychainOperation → Prop
  | .set key value _ =>
      (strFromUtf8 value).isSome ∧ value.length ≤ gcm.maxLength →
        ∀ c ∈ key.toList, isPlain c = true
  | .delete _ => True

theorem storesAlone_univ_iff {gcm : AesGcm} {operation : KeychainOperation} :
    StoresAlone gcm Set.univ operation ↔ StoresPlain gcm operation := by
  cases operation with
  | set key value nonce => exact imp_congr_right fun _ => alone_univ_iff
  | delete key => exact Iff.rfl

theorem stored_step_of_ne {gcm : AesGcm} {history : KeychainHistory}
    {operation : KeychainOperation} {other : String} (hNe : other ≠ operation.key) :
    (history.step gcm operation).stored.get other = history.stored.get other := by
  cases operation with
  | set key value nonce =>
      cases hSet : history.keychain.set gcm key value nonce with
      | ok next =>
          simp only [step, hSet]
          exact InMemoryKeychain.get_set_of_ne _ _ hNe
      | error error => simp only [step, hSet]
  | delete key => exact InMemoryKeychain.get_delete_of_ne _ hNe

theorem Faithful.isolated {gcm : AesGcm} {keys : Set String} {history : KeychainHistory}
    {operation : KeychainOperation} (h : Faithful gcm keys history)
    (hNext : Faithful gcm keys (history.step gcm operation)) :
    Isolated gcm keys history operation := by
  intro other hOther hNe
  rw [hNext other hOther, h other hOther, stored_step_of_ne hNe]

theorem keyIsolation_iff (gcm : AesGcm) (key : EncryptionKey)
    (operations : List KeychainOperation) :
    KeyIsolation gcm (new key) operations ↔
      ∀ operation ∈ operations, StoresPlain gcm operation := by
  have hFaithful : Always (step gcm) (Faithful gcm Set.univ) (new key) operations ↔
      ∀ operation ∈ operations, StoresAlone gcm Set.univ operation :=
    always_faithful_iff_storesAlone key fun _ _ => Set.mem_univ _
  simp only [storesAlone_univ_iff] at hFaithful
  rw [← hFaithful]
  constructor
  · exact And.right
  · intro h
    exact ⟨h.admissible fun _ _ hBefore hAfter => hBefore.isolated hAfter, h⟩

/-- The text as it is, under a tag of zeros. -/
def zeroTag : AesGcm where
  maxLength := 2 ^ 36
  encrypt _ _ text := text ++ List.replicate 16 0
  decrypt _ _ sealed := some (sealed.take (sealed.length - 16))
  length_encrypt := by simp
  decrypt_encrypt := by simp

/-- `build/ci` saves its session; `build_ci`, which has none, reads it. -/
theorem not_keyIsolation :
    ¬ KeyIsolation zeroTag (new (Vector.replicate 32 0))
      [.set "mxdx:build/ci@matrix.org:session" (asBytes "token") (Vector.replicate 16 0)] := by
  rintro ⟨-, -, hFaithful⟩
  have hRead := hFaithful "mxdx:build_ci@matrix.org:session" (Set.mem_univ _)
  have hAccepted : (strFromUtf8 (asBytes "token")).isSome ∧
      (asBytes "token").length ≤ zeroTag.maxLength := by
    rw [strFromUtf8_asBytes]
    decide
  obtain ⟨next, hSet⟩ : ∃ next, (FileKeychain.withDirAndKey (Vector.replicate 32 0)).set zeroTag
      "mxdx:build/ci@matrix.org:session" (asBytes "token") (Vector.replicate 16 0) = .ok next :=
    FileKeychain.set_isOk_iff.mpr hAccepted
  have hFile : filePath "mxdx:build_ci@matrix.org:session" =
      filePath "mxdx:build/ci@matrix.org:session" := by decide
  simp only [step, new, hSet] at hRead
  rw [FileKeychain.get_set hSet hFile,
    InMemoryKeychain.get_set_of_ne _ _ (by decide)] at hRead
  cases hRead

end KeychainHistory

end Mxdx.Types
