import Mxdx.Basic
import Mxdx.Foundations.Automaton
import Mathlib.Data.Set.Function

/-! `CredentialStore`: secrets in the keychain of the operating system or, where
there is none, in encrypted files. Every operation finds out anew whether the
keychain is there, and uses one of the two places only. -/
namespace Mxdx.Core

open Automaton

/-- Encryption under the key of the machine. The initialization vector is drawn
for each call. -/
structure StoreCipher where
  encrypt : Bytes → String → String
  decrypt : String → Except String String
  decrypt_encrypt : ∀ iv text, decrypt (encrypt iv text) = .ok text

/-- `server.replace(/^https?:\/\//, '')`. -/
def stripProtocol (server : List Char) : List Char :=
  if "https://".toList <+: server then server.drop 8
  else if "http://".toList <+: server then server.drop 7
  else server

/-- `server.replace(/\/$/, '')`. -/
def stripSlash (server : List Char) : List Char :=
  if server.getLast? = some '/' then server.dropLast else server

/-- The server counts without its protocol and a slash at its end. -/
def keychainKey (username server field : String) : String :=
  "mxdx:" ++ username ++ "@" ++ String.ofList (stripSlash (stripProtocol server.toList)) ++ ":" ++
    field

/-- One of `a-zA-Z0-9._-`. -/
def isFilenameChar (c : Char) : Bool :=
  ('a' ≤ c && c ≤ 'z') || ('A' ≤ c && c ≤ 'Z') || ('0' ≤ c && c ≤ '9') || c == '.' || c == '_' ||
    c == '-'

/-- A character outside the basic plane is two code units, each of which is replaced. -/
def sanitizeFilename (key : String) : String :=
  String.ofList (key.toList.flatMap fun c =>
    if isFilenameChar c then [c] else if c.toNat < 0x10000 then ['_'] else ['_', '_'])

/-- Keys that differ in what is sanitised away share a file. -/
def filename (key : String) : String := sanitizeFilename key ++ ".enc"

/-- What is stored of an account. -/
inductive Field where
  | session
  | password
deriving DecidableEq

/-- The end of the key. -/
def Field.name : Field → String
  | session => "session"
  | password => "password"

/-- What a secret is saved for. -/
structure CredentialEntry where
  username : String
  server : String
  field : Field
deriving DecidableEq

namespace CredentialEntry

/-- The key of an entry in the keychain. -/
def key (entry : CredentialEntry) : String :=
  keychainKey entry.username entry.server entry.field.name

/-- The file of an entry where there is no keychain. -/
def file (entry : CredentialEntry) : String := filename entry.key

@[simp] theorem filename_key (entry : CredentialEntry) : filename entry.key = entry.file := rfl

end CredentialEntry

/-- A session as `JSON.stringify` writes it. -/
structure SessionText where
  text : String
  nonempty : text ≠ ""

/-- Whether the keychain answers, and the vector for an encryption. -/
structure Access where
  available : Bool
  iv : Bytes

/-- The calls of the store. -/
inductive CredentialOperation where
  | saveSession (username server : String) (session : SessionText)
  | loadSession (username server : String)
  | savePassword (username server password : String)
  | loadPassword (username server : String)
  | deletePassword (username server : String)

/-- The accounts of the service `mxdx` in the keychain, and the files of the
configuration directory. -/
structure CredentialStore where
  useKeychain : Bool
  keychain : String → Option String
  files : String → Option String

namespace CredentialStore

/-- Nothing is stored yet. -/
def new (useKeychain : Bool) : CredentialStore := ⟨useKeychain, fun _ => none, fun _ => none⟩

variable (cipher : StoreCipher)

/-- The operation gets through to the keychain. -/
def usesKeychain (store : CredentialStore) (access : Access) : Bool :=
  store.useKeychain && access.available

/-- The keychain if it works, or else a file. -/
def setSecret (store : CredentialStore) (key value : String) (access : Access) :
    CredentialStore :=
  if store.usesKeychain access then
    { store with keychain := Function.update store.keychain key (some value) }
  else
    { store with
      files := Function.update store.files (filename key) (some (cipher.encrypt access.iv value)) }

/-- A file that is missing is no error; one that cannot be decrypted is. -/
def readFile (store : CredentialStore) (key : String) : Except String (Option String) :=
  match store.files (filename key) with
  | some encrypted => (cipher.decrypt encrypted).map some
  | none => .ok none

/-- An empty text in the keychain counts as none. -/
def getSecret (store : CredentialStore) (key : String) (access : Access) :
    Except String (Option String) :=
  match if store.usesKeychain access then store.keychain key else none with
  | some stored => if stored ≠ "" then .ok (some stored) else store.readFile cipher key
  | none => store.readFile cipher key

/-- A secret is deleted where it would be looked for. -/
def deleteSecret (store : CredentialStore) (key : String) (access : Access) : CredentialStore :=
  if store.usesKeychain access then
    { store with keychain := Function.update store.keychain key none }
  else { store with files := Function.update store.files (filename key) none }

/-- The session is stored as its JSON text. -/
def saveSession (store : CredentialStore) (username server : String) (session : SessionText)
    (access : Access) : CredentialStore :=
  store.setSecret cipher (keychainKey username server "session") session.text access

/-- The text is parsed; an empty one is null. -/
def loadSession (store : CredentialStore) (username server : String) (access : Access) :
    Except String (Option String) :=
  (store.getSecret cipher (keychainKey username server "session") access).map
    (·.filter (· ≠ ""))

def savePassword (store : CredentialStore) (username server password : String)
    (access : Access) : CredentialStore :=
  store.setSecret cipher (keychainKey username server "password") password access

def loadPassword (store : CredentialStore) (username server : String) (access : Access) :
    Except String (Option String) :=
  store.getSecret cipher (keychainKey username server "password") access

def deletePassword (store : CredentialStore) (username server : String) (access : Access) :
    CredentialStore :=
  store.deleteSecret (keychainKey username server "password") access

/-- What an operation does to the store; a load does nothing to it. -/
def perform (store : CredentialStore) (access : Access) : CredentialOperation → CredentialStore
  | .saveSession username server session =>
      store.saveSession cipher username server session access
  | .savePassword username server password =>
      store.savePassword cipher username server password access
  | .deletePassword username server => store.deletePassword username server access
  | .loadSession .. | .loadPassword .. => store

/-- What a load answers. -/
def answer (store : CredentialStore) (access : Access) :
    CredentialOperation → Option (Except String (Option String))
  | .loadSession username server => some (store.loadSession cipher username server access)
  | .loadPassword username server => some (store.loadPassword cipher username server access)
  | _ => none

end CredentialStore

/-- What an operation means for its entry. -/
inductive Change where
  | keep
  | set (value : String)
  | clear

namespace CredentialOperation

def entry : CredentialOperation → CredentialEntry
  | saveSession username server _ => ⟨username, server, .session⟩
  | loadSession username server => ⟨username, server, .session⟩
  | savePassword username server _ => ⟨username, server, .password⟩
  | loadPassword username server => ⟨username, server, .password⟩
  | deletePassword username server => ⟨username, server, .password⟩

def change : CredentialOperation → Change
  | saveSession _ _ session => .set session.text
  | savePassword _ _ password => .set password
  | deletePassword .. => .clear
  | loadSession .. | loadPassword .. => .keep

end CredentialOperation

/-- What was saved last for each entry and not deleted since. -/
abbrev Ledger := CredentialEntry → Option String

def Ledger.perform (saved : Ledger) (operation : CredentialOperation) : Ledger :=
  match operation.change with
  | .keep => saved
  | .set value => Function.update saved operation.entry (some value)
  | .clear => Function.update saved operation.entry none

/-- A store beside the ledger of all that was done to it. -/
structure CredentialHistory where
  store : CredentialStore
  saved : Ledger

namespace CredentialHistory

variable (cipher : StoreCipher)

def new (useKeychain : Bool) : CredentialHistory := ⟨.new useKeychain, fun _ => none⟩

def step (history : CredentialHistory) (input : CredentialOperation × Access) :
    CredentialHistory :=
  ⟨history.store.perform cipher input.2 input.1, history.saved.perform input.1⟩

/-- A load answers what the ledger says. -/
def Right (history : CredentialHistory) (input : CredentialOperation × Access) : Prop :=
  ∀ answer ∈ history.store.answer cipher input.2 input.1,
    answer = .ok (history.saved input.1.entry)

/-- The place that the operation leaves alone holds no copy of the entry, and no
empty text goes to the keychain. -/
def Undivided (history : CredentialHistory) (input : CredentialOperation × Access) : Prop :=
  if history.store.usesKeychain input.2 then
    match input.1.change with
    | .keep => True
    | .set value => history.store.files input.1.entry.file = none ∧ value ≠ ""
    | .clear => history.store.files input.1.entry.file = none
  else history.store.keychain input.1.entry.key = none

/-- An entry is in one place at most, and there as it was saved. -/
inductive Held (store : CredentialStore) (entry : CredentialEntry) : Option String → Prop where
  | nowhere (hKeychain : store.keychain entry.key = none)
      (hFile : store.files entry.file = none) : Held store entry none
  | inKeychain {value : String} (hKeychain : store.keychain entry.key = some value)
      (hFile : store.files entry.file = none) (hText : value ≠ "") : Held store entry (some value)
  | inFile {value : String} (iv : Bytes) (hKeychain : store.keychain entry.key = none)
      (hFile : store.files entry.file = some (cipher.encrypt iv value))
      (hText : entry.field = .session → value ≠ "") : Held store entry (some value)

variable {cipher} {store : CredentialStore} {entry : CredentialEntry} {saved : Option String}
  {access : Access}

/-- The keychain is asked only where it answers. -/
theorem Held.getSecret (h : Held cipher store entry saved)
    (hPlace : store.usesKeychain access = false → store.keychain entry.key = none) :
    store.getSecret cipher entry.key access = .ok saved := by
  have hAsked : (if store.usesKeychain access then store.keychain entry.key else none) =
      store.keychain entry.key := by
    cases hUses : store.usesKeychain access with
    | true => rfl
    | false => exact (hPlace hUses).symm
  rw [CredentialStore.getSecret, hAsked]
  cases h with
  | nowhere hKeychain hFile => simp [hKeychain, CredentialStore.readFile, hFile]
  | inKeychain hKeychain hFile hText => simp [hKeychain, hText]
  | inFile iv hKeychain hFile hText =>
      simp [hKeychain, CredentialStore.readFile, hFile, cipher.decrypt_encrypt, Except.map]

theorem Held.filter_session (h : Held cipher store entry saved) (hField : entry.field = .session) :
    saved.filter (· ≠ "") = saved := by
  cases h with
  | nowhere hKeychain hFile => rfl
  | inKeychain hKeychain hFile hText => simp [hText]
  | inFile iv hKeychain hFile hText => simp [hText hField]

/-- Entries with names of their own are left alone. -/
theorem Held.frame {next : CredentialStore} (h : Held cipher store entry saved)
    (hKeychain : next.keychain entry.key = store.keychain entry.key)
    (hFile : next.files entry.file = store.files entry.file) : Held cipher next entry saved := by
  cases h with
  | nowhere hNoKey hNoFile => exact .nowhere (hKeychain.trans hNoKey) (hFile.trans hNoFile)
  | inKeychain hKey hNoFile hText =>
      exact .inKeychain (hKeychain.trans hKey) (hFile.trans hNoFile) hText
  | inFile iv hNoKey hHeld hText =>
      exact .inFile iv (hKeychain.trans hNoKey) (hFile.trans hHeld) hText

theorem held_setSecret {value : String}
    (hKeychain : store.usesKeychain access = true → store.files entry.file = none ∧ value ≠ "")
    (hFile : store.usesKeychain access = false → store.keychain entry.key = none)
    (hText : entry.field = .session → value ≠ "") :
    Held cipher (store.setSecret cipher entry.key value access) entry (some value) := by
  unfold CredentialStore.setSecret
  cases hUses : store.usesKeychain access with
  | true =>
      obtain ⟨hNone, hValue⟩ := hKeychain hUses
      exact .inKeychain (by simp) hNone hValue
  | false => exact .inFile access.iv (hFile hUses) (by simp) hText

theorem held_deleteSecret
    (hKeychain : store.usesKeychain access = true → store.files entry.file = none)
    (hFile : store.usesKeychain access = false → store.keychain entry.key = none) :
    Held cipher (store.deleteSecret entry.key access) entry none := by
  unfold CredentialStore.deleteSecret
  cases hUses : store.usesKeychain access with
  | true => exact .nowhere (by simp) (hKeychain hUses)
  | false => exact .nowhere (hFile hUses) (by simp)

variable {other : CredentialEntry}

theorem key_ne_of_file_ne (hFile : entry.file ≠ other.file) : entry.key ≠ other.key := by
  intro hKey
  rw [CredentialEntry.file, hKey] at hFile
  exact hFile rfl

theorem Held.setSecret_other (h : Held cipher store entry saved) (hFile : entry.file ≠ other.file)
    (value : String) : Held cipher (store.setSecret cipher other.key value access) entry saved := by
  have hKey := key_ne_of_file_ne hFile
  rw [CredentialStore.setSecret, CredentialEntry.filename_key]
  split
  · apply h.frame <;> simp [hKey]
  · apply h.frame <;> simp [hFile]

theorem Held.deleteSecret_other (h : Held cipher store entry saved)
    (hFile : entry.file ≠ other.file) :
    Held cipher (store.deleteSecret other.key access) entry saved := by
  have hKey := key_ne_of_file_ne hFile
  rw [CredentialStore.deleteSecret, CredentialEntry.filename_key]
  split
  · apply h.frame <;> simp [hKey]
  · apply h.frame <;> simp [hFile]

theorem perform_eq (store : CredentialStore) (access : Access)
    (operation : CredentialOperation) :
    store.perform cipher access operation =
      match operation.change with
      | .keep => store
      | .set value => store.setSecret cipher operation.entry.key value access
      | .clear => store.deleteSecret operation.entry.key access := by
  cases operation <;> rfl

theorem nonempty_of_session {operation : CredentialOperation} {value : String}
    (hChange : operation.change = .set value) (hField : operation.entry.field = .session) :
    value ≠ "" := by
  cases operation with
  | saveSession username server session =>
      cases hChange
      exact session.nonempty
  | savePassword username server password => cases hField
  | _ => cases hChange

/-- Every entry of `entries` is held as the ledger says. -/
def AllHeld (cipher : StoreCipher) (entries : Set CredentialEntry)
    (history : CredentialHistory) : Prop :=
  ∀ entry ∈ entries, Held cipher history.store entry (history.saved entry)

variable {entries : Set CredentialEntry} {history : CredentialHistory}
  {input : CredentialOperation × Access}

theorem AllHeld.step (hApart : Set.InjOn CredentialEntry.file entries)
    (h : AllHeld cipher entries history) (hEntry : input.1.entry ∈ entries)
    (hGuard : Undivided history input) : AllHeld cipher entries (history.step cipher input) := by
  obtain ⟨operation, access⟩ := input
  intro entry hMem
  have hHeld := h entry hMem
  rw [CredentialHistory.step, perform_eq, Ledger.perform]
  cases hChange : operation.change with
  | keep => exact hHeld
  | set value =>
      dsimp only
      by_cases hSame : entry = operation.entry
      · subst hSame
        rw [Function.update_self]
        apply held_setSecret
        · intro hUses
          simpa [Undivided, hUses, hChange] using hGuard
        · intro hUses
          simpa [Undivided, hUses] using hGuard
        · exact nonempty_of_session hChange
      · rw [Function.update_of_ne hSame]
        exact hHeld.setSecret_other (fun hFile => hSame (hApart hMem hEntry hFile)) value
  | clear =>
      dsimp only
      by_cases hSame : entry = operation.entry
      · subst hSame
        rw [Function.update_self]
        apply held_deleteSecret
        · intro hUses
          simpa [Undivided, hUses, hChange] using hGuard
        · intro hUses
          simpa [Undivided, hUses] using hGuard
      · rw [Function.update_of_ne hSame]
        exact hHeld.deleteSecret_other fun hFile => hSame (hApart hMem hEntry hFile)

theorem AllHeld.right (h : AllHeld cipher entries history) (hEntry : input.1.entry ∈ entries)
    (hGuard : Undivided history input) : Right cipher history input := by
  obtain ⟨operation, access⟩ := input
  have hHeld := h operation.entry hEntry
  have hGet : history.store.getSecret cipher operation.entry.key access =
      .ok (history.saved operation.entry) := by
    apply hHeld.getSecret
    intro hUses
    simpa [Undivided, hUses] using hGuard
  intro answer hAnswer
  cases operation with
  | loadSession username server =>
      have hFilter := hHeld.filter_session rfl
      cases hAnswer
      rw [CredentialStore.loadSession]
      exact (congrArg _ hGet).trans (congrArg Except.ok hFilter)
  | loadPassword username server =>
      cases hAnswer
      exact hGet
  | _ => cases hAnswer

/-- A history answers every load right as long as the place that an operation
does not use holds no copy of its entry, and no two of its entries have one name. -/
theorem admissible_right (cipher : StoreCipher) (useKeychain : Bool)
    (inputs : List (CredentialOperation × Access))
    (hApart : ∀ first ∈ inputs, ∀ second ∈ inputs,
      first.1.entry.file = second.1.entry.file → first.1.entry = second.1.entry)
    (hGuard : Admissible (step cipher) Undivided (new useKeychain) inputs) :
    Admissible (step cipher) (Right cipher) (new useKeychain) inputs := by
  let entries : Set CredentialEntry := {entry | ∃ input ∈ inputs, input.1.entry = entry}
  have hInjective : Set.InjOn CredentialEntry.file entries := by
    rintro _ ⟨first, hFirst, rfl⟩ _ ⟨second, hSecond, rfl⟩ hFile
    exact hApart first hFirst second hSecond hFile
  have hEntries : ∀ input ∈ inputs, input.1.entry ∈ entries :=
    fun input hInput => ⟨input, hInput, rfl⟩
  have hStart : AllHeld cipher entries (new useKeychain) := fun entry _ => .nowhere rfl rfl
  apply Admissible.mono_under _ _ hStart ((admissible_of_forall hEntries).and hGuard)
  · intro history input h hBoth
    exact h.step hInjective hBoth.1 hBoth.2
  · intro history input h hBoth
    exact h.right hBoth.1 hBoth.2

/-- Texts kept as they are. -/
def plainCipher : StoreCipher := ⟨fun _ text => text, .ok, fun _ _ => rfl⟩

def withKeychain : Access := ⟨true, []⟩

def withoutKeychain : Access := ⟨false, []⟩

/-- With the keychain always there, a password is saved, read, deleted and gone. -/
theorem admissible_right_keychain :
    Admissible (step plainCipher) (Right plainCipher) (new true)
      [(.savePassword "alice" "https://matrix.org/" "secret", withKeychain),
        (.loadPassword "alice" "https://matrix.org/", withKeychain),
        (.deletePassword "alice" "https://matrix.org/", withKeychain),
        (.loadPassword "alice" "https://matrix.org/", withKeychain)] := by
  refine admissible_right plainCipher true _ ?_ ?_
  · simp [CredentialOperation.entry]
  · refine ⟨⟨rfl, by decide⟩, trivial, rfl, trivial, trivial⟩

/-- A password saved while there was no keychain, and deleted while there was
one, is still there. -/
theorem not_admissible_right :
    ¬ Admissible (step plainCipher) (Right plainCipher) (new true)
      [(.savePassword "alice" "https://matrix.org/" "secret", withoutKeychain),
        (.deletePassword "alice" "https://matrix.org/", withKeychain),
        (.loadPassword "alice" "https://matrix.org/", withKeychain)] := by
  rintro ⟨-, -, hRight, -⟩
  have hAnswer := hRight _ rfl
  simp [step, Ledger.perform, CredentialOperation.change, CredentialOperation.entry,
    CredentialStore.perform, CredentialStore.savePassword, CredentialStore.setSecret,
    CredentialStore.deletePassword, CredentialStore.deleteSecret, CredentialStore.loadPassword,
    CredentialStore.getSecret, CredentialStore.readFile, CredentialStore.usesKeychain, new,
    CredentialStore.new, withKeychain, withoutKeychain, plainCipher, Except.map] at hAnswer

end CredentialHistory

end Mxdx.Core
