import Mathlib.Data.List.DropRight
import Mathlib.Logic.Function.Basic
import Mathlib.Tactic.Common

/-! Connecting with a session from the keychain. `connect_with_session` restores
the device it finds there; where this fails it clears the crypto store and logs in
as a new device. -/
namespace Mxdx.MatrixClient

/-- A session as it is kept. -/
structure SessionData where
  userId : String
  deviceId : String
  accessToken : String
  homeserverUrl : String
deriving DecidableEq

/-- `str::trim_start_matches`; every match takes a character at least. -/
def trimStartMatches (pattern : List Char) : Nat → List Char → List Char
  | 0, text => text
  | fuel + 1, text =>
      if pattern.isPrefixOf text then trimStartMatches pattern fuel (text.drop pattern.length)
      else text

/-- The server counts without its protocol and slashes at its end. -/
def normalizeServer (server : String) : String :=
  let bare := trimStartMatches "https://".toList server.length server.toList
  let bare := trimStartMatches "http://".toList server.length bare
  String.ofList (bare.rdropWhile (· = '/'))

/-- The beginning of all keys of an account. -/
def keychainEntry (username server : String) : String :=
  "mxdx:" ++ username ++ "@" ++ normalizeServer server

/-- Where the session is kept. -/
def sessionKey (username server : String) : String := keychainEntry username server ++ ":session"

/-- Where the password is kept. -/
def passwordKey (username server : String) : String := keychainEntry username server ++ ":password"

/-- Where the passphrase of the store is kept. -/
def storeKeyKey (username server : String) : String :=
  keychainEntry username server ++ ":store_key"

theorem sessionKey_ne_storeKeyKey (username server : String) :
    sessionKey username server ≠ storeKeyKey username server := by
  simp [sessionKey, storeKeyKey, ← String.toList_inj]

theorem passwordKey_ne_sessionKey (username server : String) :
    passwordKey username server ≠ sessionKey username server := by
  simp [sessionKey, passwordKey, ← String.toList_inj]

/-- How texts and sessions are kept as bytes. -/
structure Encoding (Bytes : Type) where
  text : String → Bytes
  toText : Bytes → Option String
  session : SessionData → Bytes
  toSession : Bytes → Option SessionData
  toText_text : ∀ text', toText (text text') = some text'
  toSession_session : ∀ data, toSession (session data) = some data

/-- The hash of Fowler, Noll and Vo. -/
def fnv1a (offset prime : UInt64) (bytes : List UInt8) : UInt64 :=
  bytes.foldl (fun hash byte => (hash ^^^ byte.toUInt64) * prime) offset

/-- `{:016x}`. -/
def hex16 (number : UInt64) : List Char := (Nat.toDigits 16 number.toNat).leftpad 16 '0'

/-- What is new about a passphrase: the time in nanoseconds, the host, the process. -/
structure Entropy where
  seed : Nat
  hostname : String
  processId : Nat

/-- The passphrase is hashed from all of it and the user. -/
def newPassphrase (username : String) (entropy : Entropy) : String :=
  let material := toString entropy.seed ++ ":" ++ entropy.hostname ++ ":" ++
    toString entropy.processId ++ ":" ++ username
  let bytes := material.toUTF8.toList
  let hash1 := fnv1a 14695981039346656037 1099511628211 bytes
  let hash2 := fnv1a (14695981039346656037 + 1) (1099511628211 + 2) bytes
  String.ofList (hex16 hash1 ++ hex16 hash2)

theorem newPassphrase_ne_empty (username : String) (entropy : Entropy) :
    newPassphrase username entropy ≠ "" := by
  intro hEmpty
  have hLength := congrArg (fun text => text.toList.length) hEmpty
  simp [newPassphrase, hex16] at hLength

/-- The keys of a device, told from others of the same name by their identity. -/
structure DeviceKeys where
  userId : String
  deviceId : String
  identity : Nat
deriving DecidableEq

/-- A crypto store with keys in it, and the passphrase that opens it. A directory
without keys counts as no store. -/
structure CryptoStore where
  lock : Option String
  keys : DeviceKeys
deriving DecidableEq

/-- The keychain and the store of one user on one machine. -/
structure Profile (Bytes : Type) where
  keychain : String → Option Bytes
  store : Option CryptoStore

/-- How far a restored session gets: an error before it has keys, an error after,
or none. Where the store has no keys, new ones of some identity are made. -/
inductive RestoreAnswer where
  | unopened
  | unsynced (identity : Nat)
  | synced (identity : Nat)

/-- What a login yields. -/
structure Login where
  userId : String
  deviceId : String
  accessToken : String
  identity : Nat

def Login.keys (login : Login) : DeviceKeys := ⟨login.userId, login.deviceId, login.identity⟩

/-- How far a login gets; an error may come before the homeserver has made a device
or after. -/
inductive LoginAnswer where
  | refused
  | unsynced (login : Login)
  | synced (login : Login)

def LoginAnswer.login? : LoginAnswer → Option Login
  | refused => none
  | unsynced login | synced login => some login

/-- What one call meets. -/
structure ConnectAnswers where
  storeKeyRead : Bool
  entropy : Entropy
  storeKeyWritten : Bool
  sessionRead : Bool
  restore : RestoreAnswer
  wiped : Bool
  login : LoginAnswer
  exported : Bool
  sessionWritten : Bool
  passwordWritten : Bool

/-- A client by the keys of its device. -/
structure Connected where
  keys : DeviceKeys
  fresh : Bool
deriving DecidableEq

/-- A store opens with its passphrase, for its own device. -/
def CryptoStore.serves (store : CryptoStore) (passphrase : Option String)
    (userId deviceId : String) : Bool :=
  store.lock = passphrase ∧ store.keys.userId = userId ∧ store.keys.deviceId = deviceId

/-- The client, if there is one, and the store. -/
def connectWithToken (store : Option CryptoStore) (passphrase : Option String)
    (session : SessionData) : RestoreAnswer → Option DeviceKeys × Option CryptoStore
  | .unopened => (none, store)
  | .unsynced identity =>
      (none, store.or (some ⟨passphrase, session.userId, session.deviceId, identity⟩))
  | .synced identity =>
      match store with
      | some found =>
          (if found.serves passphrase session.userId session.deviceId then some found.keys
            else none, store)
      | none =>
          let keys : DeviceKeys := ⟨session.userId, session.deviceId, identity⟩
          (some keys, some ⟨passphrase, keys⟩)

/-- A store that still has the keys of another device fails the login. -/
def loginAndConnect (store : Option CryptoStore) (passphrase : Option String) :
    LoginAnswer → Option (Login × DeviceKeys) × Option CryptoStore
  | .refused => (none, store)
  | .unsynced login => (none, store.or (some ⟨passphrase, login.keys⟩))
  | .synced login =>
      match store with
      | some found =>
          (if found.serves passphrase login.userId login.deviceId then some (login, found.keys)
            else none, store)
      | none => (some (login, login.keys), some ⟨passphrase, login.keys⟩)

/-- Whose session it is, on which homeserver, and how the keychain keeps it. -/
structure Target (Bytes : Type) where
  encoding : Encoding Bytes
  username : String
  server : String
  password : String

namespace Target

variable {Bytes : Type} (target : Target Bytes)

/-- The passphrase that a call finds in the keychain. -/
def storedPassphrase (keychain : String → Option Bytes) : Option String :=
  ((keychain (storeKeyKey target.username target.server)).bind
    target.encoding.toText).filter (· ≠ "")

/-- A passphrase that could not be kept is not used either. -/
def getOrCreateStorePassphrase (keychain : String → Option Bytes) (answers : ConnectAnswers) :
    Option String × (String → Option Bytes) :=
  match if answers.storeKeyRead then target.storedPassphrase keychain else none with
  | some passphrase => (some passphrase, keychain)
  | none =>
      let passphrase := newPassphrase target.username answers.entropy
      if answers.storeKeyWritten then
        (some passphrase, Function.update keychain (storeKeyKey target.username target.server)
          (some (target.encoding.text passphrase)))
      else (none, keychain)

/-- What is kept and can be read. -/
def storedSession (keychain : String → Option Bytes) : Option SessionData :=
  (keychain (sessionKey target.username target.server)).bind target.encoding.toSession

/-- The first step: the session of the keychain, if there is one and it is wanted. -/
def restoreSession (forceNewDevice : Bool) (keychain : String → Option Bytes)
    (store : Option CryptoStore) (passphrase : Option String) (answers : ConnectAnswers) :
    Option DeviceKeys × Option CryptoStore :=
  if forceNewDevice then (none, store)
  else
    match if answers.sessionRead then target.storedSession keychain else none with
    | some session => connectWithToken store passphrase session answers.restore
    | none => (none, store)

def saveLogin (keychain : String → Option Bytes) (login : Login) (answers : ConnectAnswers) :
    String → Option Bytes :=
  let session : SessionData := ⟨login.userId, login.deviceId, login.accessToken, target.server⟩
  let keychain :=
    if answers.sessionWritten then
      Function.update keychain (sessionKey target.username target.server)
        (some (target.encoding.session session))
    else keychain
  if answers.passwordWritten then
    Function.update keychain (passwordKey target.username target.server)
      (some (target.encoding.text target.password))
  else keychain

/-- No client where the call returns an error. -/
def connectWithSession (profile : Profile Bytes) (forceNewDevice : Bool)
    (answers : ConnectAnswers) : Option Connected × Profile Bytes :=
  let (passphrase, keychain) := target.getOrCreateStorePassphrase profile.keychain answers
  match target.restoreSession forceNewDevice keychain profile.store passphrase answers with
  | (some keys, store) => (some ⟨keys, false⟩, ⟨keychain, store⟩)
  | (none, store) =>
      let store := if answers.wiped then none else store
      match loginAndConnect store passphrase answers.login with
      | (none, store) => (none, ⟨keychain, store⟩)
      | (some (login, keys), store) =>
          if answers.exported then
            (some ⟨keys, true⟩, ⟨target.saveLogin keychain login answers, store⟩)
          else (none, ⟨keychain, store⟩)

section Law

variable (profile before : Profile Bytes) (forceNewDevice : Bool) (answers : ConnectAnswers)

/-- The passphrase that the call opens the store with. -/
def passphrase : Option String :=
  (target.getOrCreateStorePassphrase profile.keychain answers).1

/-- The session that the call tries. -/
def wantedSession : Option SessionData :=
  if forceNewDevice = false ∧ answers.sessionRead then target.storedSession profile.keychain
  else none

/-- The session opens the store, or makes one where there is none, and syncs. -/
def Restores : Prop :=
  ∃ session identity, target.wantedSession profile forceNewDevice answers = some session ∧
    answers.restore = .synced identity ∧
      ∀ store, profile.store = some store →
        store.serves (target.passphrase profile answers) session.userId session.deviceId

/-- The keys that a session makes where it fails after it has opened an empty store. -/
def leftover : Option CryptoStore :=
  match target.wantedSession profile forceNewDevice answers, answers.restore with
  | some session, .unsynced identity =>
      some ⟨target.passphrase profile answers, session.userId, session.deviceId, identity⟩
  | _, _ => none

/-- What the login finds in the store. -/
def storeAtLogin : Option CryptoStore :=
  if answers.wiped then none else profile.store.or (target.leftover profile forceNewDevice answers)

def LogsIn : Prop :=
  answers.exported = true ∧ ∃ login, answers.login = .synced login ∧
    ∀ store, target.storeAtLogin profile forceNewDevice answers = some store →
      store.serves (target.passphrase profile answers) login.userId login.deviceId

/-- The keys in the store are those of the session, and the passphrase opens it. -/
def Restorable (keys : DeviceKeys) : Prop :=
  ∃ session passphrase, target.storedSession profile.keychain = some session ∧
    target.storedPassphrase profile.keychain = some passphrase ∧
      profile.store = some ⟨some passphrase, keys⟩ ∧ keys.userId = session.userId ∧
        keys.deviceId = session.deviceId

/-- A call that meets no failure on its way to the old device. -/
structure Smooth : Prop where
  storeKeyRead : answers.storeKeyRead = true
  sessionRead : answers.sessionRead = true
  restore : ∃ identity, answers.restore = .synced identity

/-- What a call has to keep when it fails, and what its session has to name when it does
not. -/
structure Atomic (result : Option Connected) (after : Profile Bytes) : Prop where
  store : result = none → after.store = before.store
  session : result = none →
    after.keychain (sessionKey target.username target.server) =
      before.keychain (sessionKey target.username target.server)
  retry : result = none → ∀ keys, target.Restorable before keys →
    ∀ again, Smooth again →
      (target.connectWithSession after false again).1 = some ⟨keys, false⟩
  named : ∀ client, result = some client → (client.fresh = true → answers.sessionWritten = true) →
    ∃ session lock, target.storedSession after.keychain = some session ∧
      after.store = some ⟨lock, client.keys⟩ ∧ client.keys.userId = session.userId ∧
        client.keys.deviceId = session.deviceId

/-- A store with keys is not cleared, an empty one gets no keys, and the passphrase of a
store that can be restored is read, or at least not replaced. -/
structure Harmless : Prop where
  kept : before.store.isSome = true → answers.wiped = false
  empty : before.store = none →
    (answers.wiped = true ∨ target.leftover before forceNewDevice answers = none) ∧
      answers.login = .refused
  passphrase : ∀ keys, target.Restorable before keys →
    answers.storeKeyRead = true ∨ answers.storeKeyWritten = false ∨
      target.storedPassphrase before.keychain =
        some (newPassphrase target.username answers.entropy)

end Law

variable {target} {profile before : Profile Bytes} {forceNewDevice : Bool}
  {answers : ConnectAnswers}

theorem loginAndConnect_some {store : CryptoStore} {passphrase : Option String}
    (answer : LoginAnswer) :
    (loginAndConnect (some store) passphrase answer).2 = some store := by
  cases answer <;> rfl

/-- The client of a login is in the store, under the device that the login names. -/
theorem store_of_login {store after : Option CryptoStore} {passphrase : Option String}
    {answer : LoginAnswer} {login : Login} {keys : DeviceKeys}
    (hLogin : loginAndConnect store passphrase answer = (some (login, keys), after)) :
    (∃ lock, after = some ⟨lock, keys⟩) ∧ keys.userId = login.userId ∧
      keys.deviceId = login.deviceId := by
  cases answer with
  | refused => simp [loginAndConnect] at hLogin
  | unsynced _ => simp [loginAndConnect] at hLogin
  | synced _ =>
      cases store with
      | none =>
          simp only [loginAndConnect, Prod.mk.injEq, Option.some.injEq] at hLogin
          obtain ⟨⟨rfl, rfl⟩, rfl⟩ := hLogin
          exact ⟨⟨_, rfl⟩, rfl, rfl⟩
      | some found =>
          simp only [loginAndConnect, Prod.mk.injEq, Option.ite_none_right_eq_some,
            Option.some.injEq] at hLogin
          obtain ⟨⟨hServes, rfl, rfl⟩, rfl⟩ := hLogin
          simp only [CryptoStore.serves, decide_eq_true_eq] at hServes
          exact ⟨⟨_, rfl⟩, hServes.2⟩

theorem loginAndConnect_isSome {store : Option CryptoStore} {passphrase : Option String}
    {answer : LoginAnswer} :
    (loginAndConnect store passphrase answer).1.isSome = true ↔
      ∃ login, answer = .synced login ∧ ∀ found, store = some found →
        found.serves passphrase login.userId login.deviceId := by
  cases answer with
  | refused => simp [loginAndConnect]
  | unsynced _ => simp [loginAndConnect]
  | synced login =>
      cases store with
      | none => simp [loginAndConnect]
      | some found => simp [loginAndConnect]

/-- An empty store stays empty only where the login is refused. -/
theorem loginAndConnect_none_iff {passphrase : Option String} {answer : LoginAnswer} :
    (loginAndConnect none passphrase answer).2 = none ↔ answer = .refused := by
  cases answer <;> simp [loginAndConnect]

/-- The keychain is left alone, or gets a new passphrase. -/
theorem getOrCreate_keychain (answers : ConnectAnswers) (keychain : String → Option Bytes) :
    (target.getOrCreateStorePassphrase keychain answers).2 = keychain ∨
      (target.getOrCreateStorePassphrase keychain answers).2 =
        Function.update keychain (storeKeyKey target.username target.server)
          (some (target.encoding.text (newPassphrase target.username answers.entropy))) := by
  unfold getOrCreateStorePassphrase
  split
  · exact Or.inl rfl
  · split
    · exact Or.inr rfl
    · exact Or.inl rfl

theorem getOrCreate_session (keychain : String → Option Bytes) :
    (target.getOrCreateStorePassphrase keychain answers).2
        (sessionKey target.username target.server) =
      keychain (sessionKey target.username target.server) := by
  obtain hSame | hNew := target.getOrCreate_keychain answers keychain
  · rw [hSame]
  · rw [hNew, Function.update_of_ne (sessionKey_ne_storeKeyKey _ _)]

theorem storedSession_getOrCreate (keychain : String → Option Bytes) :
    target.storedSession (target.getOrCreateStorePassphrase keychain answers).2 =
      target.storedSession keychain := by
  simp only [storedSession, getOrCreate_session]

/-- A passphrase that is read is used, and the keychain is left alone. -/
theorem getOrCreate_of_stored {keychain : String → Option Bytes} {passphrase : String}
    (hRead : answers.storeKeyRead = true)
    (hStored : target.storedPassphrase keychain = some passphrase) :
    target.getOrCreateStorePassphrase keychain answers = (some passphrase, keychain) := by
  simp only [getOrCreateStorePassphrase, hRead, hStored, if_true]

theorem storedPassphrase_update (keychain : String → Option Bytes) (entropy : Entropy) :
    target.storedPassphrase (Function.update keychain (storeKeyKey target.username target.server)
        (some (target.encoding.text (newPassphrase target.username entropy)))) =
      some (newPassphrase target.username entropy) := by
  simp [storedPassphrase, target.encoding.toText_text, newPassphrase_ne_empty]

/-- The stored passphrase stays the same unless a new one is written over it. -/
theorem storedPassphrase_getOrCreate_iff (answers : ConnectAnswers)
    {keychain : String → Option Bytes} {passphrase : String}
    (hStored : target.storedPassphrase keychain = some passphrase) :
    target.storedPassphrase (target.getOrCreateStorePassphrase keychain answers).2 =
        some passphrase ↔
      answers.storeKeyRead = true ∨ answers.storeKeyWritten = false ∨
        some passphrase = some (newPassphrase target.username answers.entropy) := by
  cases hRead : answers.storeKeyRead with
  | true => simp [getOrCreate_of_stored hRead hStored, hStored]
  | false =>
      cases hWritten : answers.storeKeyWritten with
      | false => simp [getOrCreateStorePassphrase, hRead, hWritten, hStored]
      | true =>
          have hUpdated : (target.getOrCreateStorePassphrase keychain answers).2 =
              Function.update keychain (storeKeyKey target.username target.server)
                (some (target.encoding.text
                  (newPassphrase target.username answers.entropy))) := by
            simp [getOrCreateStorePassphrase, hRead, hWritten]
          rw [hUpdated, storedPassphrase_update]
          simp [eq_comm]

/-- What the first step of a call does, with the keychain it has by then. -/
def restoreStep (target : Target Bytes) (profile : Profile Bytes) (forceNewDevice : Bool)
    (answers : ConnectAnswers) : Option DeviceKeys × Option CryptoStore :=
  target.restoreSession forceNewDevice
    (target.getOrCreateStorePassphrase profile.keychain answers).2 profile.store
      (target.passphrase profile answers) answers

theorem restoreStep_eq :
    target.restoreStep profile forceNewDevice answers =
      match target.wantedSession profile forceNewDevice answers with
      | some session =>
          connectWithToken profile.store (target.passphrase profile answers) session
            answers.restore
      | none => (none, profile.store) := by
  simp only [restoreStep, restoreSession, wantedSession, storedSession_getOrCreate]
  cases forceNewDevice <;> simp

theorem restoreStep_of_restores (hRestores : target.Restores profile forceNewDevice answers) :
    ∃ session keys lock, target.wantedSession profile forceNewDevice answers = some session ∧
      keys.userId = session.userId ∧ keys.deviceId = session.deviceId ∧
        target.restoreStep profile forceNewDevice answers = (some keys, some ⟨lock, keys⟩) ∧
          ∀ store, profile.store = some store → store.keys = keys := by
  obtain ⟨session, identity, hSession, hAnswer, hServes⟩ := hRestores
  refine ⟨session, ?_⟩
  rw [restoreStep_eq, hSession, hAnswer]
  cases hStore : profile.store with
  | none =>
      exact ⟨⟨session.userId, session.deviceId, identity⟩, _, rfl, rfl, rfl, rfl, by simp⟩
  | some found =>
      have hFound := hServes found hStore
      have hParts := hFound
      simp only [CryptoStore.serves, decide_eq_true_eq] at hParts
      refine ⟨found.keys, found.lock, rfl, hParts.2.1, hParts.2.2, ?_, ?_⟩
      · simp [connectWithToken, hFound]
      · rintro store ⟨⟩
        rfl

theorem restoreStep_of_not_restores
    (hRestores : ¬ target.Restores profile forceNewDevice answers) :
    target.restoreStep profile forceNewDevice answers =
      (none, profile.store.or (target.leftover profile forceNewDevice answers)) := by
  rw [restoreStep_eq]
  cases hSession : target.wantedSession profile forceNewDevice answers with
  | none => simp [leftover, hSession]
  | some session =>
      cases hAnswer : answers.restore with
      | unopened => simp [leftover, hSession, hAnswer, connectWithToken]
      | unsynced identity => simp [leftover, hSession, hAnswer, connectWithToken]
      | synced identity =>
          cases hStore : profile.store with
          | none =>
              refine absurd ⟨session, identity, hSession, hAnswer, ?_⟩ hRestores
              simp [hStore]
          | some found =>
              have hRefused : found.serves (target.passphrase profile answers) session.userId
                  session.deviceId = false := by
                rw [← Bool.not_eq_true]
                intro hServes
                refine hRestores ⟨session, identity, hSession, hAnswer, ?_⟩
                rw [hStore]
                rintro store ⟨⟩
                exact hServes
              simp [leftover, hSession, hAnswer, connectWithToken, hRefused]

theorem connect_of_restored {keys : DeviceKeys} {store : Option CryptoStore}
    (hStep : target.restoreStep profile forceNewDevice answers = (some keys, store)) :
    target.connectWithSession profile forceNewDevice answers =
      (some ⟨keys, false⟩,
        ⟨(target.getOrCreateStorePassphrase profile.keychain answers).2, store⟩) := by
  simp only [restoreStep, passphrase] at hStep
  simp only [connectWithSession, hStep]

theorem connect_of_not_restores (hRestores : ¬ target.Restores profile forceNewDevice answers) :
    target.connectWithSession profile forceNewDevice answers =
      let keychain := (target.getOrCreateStorePassphrase profile.keychain answers).2
      match loginAndConnect (target.storeAtLogin profile forceNewDevice answers)
          (target.passphrase profile answers) answers.login with
      | (none, store) => (none, ⟨keychain, store⟩)
      | (some (login, keys), store) =>
          if answers.exported then
            (some ⟨keys, true⟩, ⟨target.saveLogin keychain login answers, store⟩)
          else (none, ⟨keychain, store⟩) := by
  have hStep := restoreStep_of_not_restores hRestores
  simp only [restoreStep, passphrase] at hStep
  simp only [connectWithSession, hStep]
  rfl

/-- A call that fails leaves what the login left, and the keychain of its first lines. -/
theorem connect_failed (hRestores : ¬ target.Restores profile forceNewDevice answers)
    (hLogsIn : ¬ target.LogsIn profile forceNewDevice answers) :
    target.connectWithSession profile forceNewDevice answers =
      (none, ⟨(target.getOrCreateStorePassphrase profile.keychain answers).2,
        (loginAndConnect (target.storeAtLogin profile forceNewDevice answers)
          (target.passphrase profile answers) answers.login).2⟩) := by
  rw [connect_of_not_restores hRestores]
  cases hAnswer : loginAndConnect (target.storeAtLogin profile forceNewDevice answers)
      (target.passphrase profile answers) answers.login with
  | mk client store =>
      cases client with
      | none => rfl
      | some client =>
          have hExported : ¬ answers.exported = true := by
            intro hExported
            refine hLogsIn ⟨hExported, loginAndConnect_isSome.1 ?_⟩
            rw [hAnswer]
            rfl
          simp only [hExported, Bool.false_eq_true, if_false]

/-- A call that logs in writes the session under the device of its store. -/
theorem connect_of_logsIn (hRestores : ¬ target.Restores profile forceNewDevice answers)
    (hLogsIn : target.LogsIn profile forceNewDevice answers) :
    ∃ login keys lock, keys.userId = login.userId ∧ keys.deviceId = login.deviceId ∧
      target.connectWithSession profile forceNewDevice answers =
        (some ⟨keys, true⟩,
          ⟨target.saveLogin (target.getOrCreateStorePassphrase profile.keychain answers).2 login
            answers, some ⟨lock, keys⟩⟩) := by
  rw [connect_of_not_restores hRestores]
  have hSome := loginAndConnect_isSome.2 hLogsIn.2
  cases hAnswer : loginAndConnect (target.storeAtLogin profile forceNewDevice answers)
      (target.passphrase profile answers) answers.login with
  | mk client store =>
      rw [hAnswer] at hSome
      obtain ⟨⟨login, keys⟩, rfl⟩ := Option.isSome_iff_exists.1 hSome
      obtain ⟨⟨lock, rfl⟩, hUser, hDevice⟩ := store_of_login hAnswer
      refine ⟨login, keys, lock, hUser, hDevice, ?_⟩
      simp only [hLogsIn.1, if_true]

theorem connect_eq_none_iff :
    (target.connectWithSession profile forceNewDevice answers).1 = none ↔
      ¬ target.Restores profile forceNewDevice answers ∧
        ¬ target.LogsIn profile forceNewDevice answers := by
  by_cases hRestores : target.Restores profile forceNewDevice answers
  · obtain ⟨_, _, _, -, -, -, hStep, -⟩ := restoreStep_of_restores hRestores
    simp [connect_of_restored hStep, hRestores]
  · by_cases hLogsIn : target.LogsIn profile forceNewDevice answers
    · obtain ⟨_, _, _, -, -, hConnect⟩ := connect_of_logsIn hRestores hLogsIn
      simp [hConnect, hLogsIn]
    · simp [connect_failed hRestores hLogsIn, hRestores, hLogsIn]

/-- The old device comes back exactly where it is restored. -/
theorem connect_eq_restored_iff {keys : DeviceKeys} :
    (target.connectWithSession profile forceNewDevice answers).1 = some ⟨keys, false⟩ ↔
      (target.restoreStep profile forceNewDevice answers).1 = some keys := by
  by_cases hRestores : target.Restores profile forceNewDevice answers
  · obtain ⟨_, _, _, -, -, -, hStep, -⟩ := restoreStep_of_restores hRestores
    simp [connect_of_restored hStep, hStep]
  · rw [restoreStep_of_not_restores hRestores]
    by_cases hLogsIn : target.LogsIn profile forceNewDevice answers
    · obtain ⟨_, _, _, -, -, hConnect⟩ := connect_of_logsIn hRestores hLogsIn
      simp [hConnect]
    · simp [connect_failed hRestores hLogsIn]

theorem storedSession_saveLogin {keychain : String → Option Bytes} {login : Login}
    (hWritten : answers.sessionWritten = true) :
    target.storedSession (target.saveLogin keychain login answers) =
      some ⟨login.userId, login.deviceId, login.accessToken, target.server⟩ := by
  have hKeys := passwordKey_ne_sessionKey target.username target.server
  cases hPassword : answers.passwordWritten <;>
    simp [storedSession, saveLogin, hWritten, hPassword, Function.update_of_ne hKeys.symm,
      target.encoding.toSession_session]

theorem wantedSession_eq_some {session : SessionData}
    (hSession : target.wantedSession profile forceNewDevice answers = some session) :
    target.storedSession profile.keychain = some session := by
  unfold wantedSession at hSession
  split at hSession
  · exact hSession
  · simp at hSession

/-- The session of a call that succeeds names the device in its store. -/
theorem connect_named {client : Connected}
    (hClient : (target.connectWithSession profile forceNewDevice answers).1 = some client)
    (hWritten : client.fresh = true → answers.sessionWritten = true) :
    ∃ session lock,
      target.storedSession (target.connectWithSession profile forceNewDevice answers).2.keychain =
          some session ∧
        (target.connectWithSession profile forceNewDevice answers).2.store =
            some ⟨lock, client.keys⟩ ∧
          client.keys.userId = session.userId ∧ client.keys.deviceId = session.deviceId := by
  by_cases hRestores : target.Restores profile forceNewDevice answers
  · obtain ⟨session, keys, lock, hSession, hUser, hDevice, hStep, -⟩ :=
      restoreStep_of_restores hRestores
    rw [connect_of_restored hStep] at hClient ⊢
    obtain rfl := Option.some.inj hClient
    refine ⟨session, lock, ?_, rfl, hUser, hDevice⟩
    rw [storedSession_getOrCreate]
    exact wantedSession_eq_some hSession
  · by_cases hLogsIn : target.LogsIn profile forceNewDevice answers
    · obtain ⟨login, keys, lock, hUser, hDevice, hConnect⟩ := connect_of_logsIn hRestores hLogsIn
      rw [hConnect] at hClient ⊢
      obtain rfl := Option.some.inj hClient
      exact ⟨_, lock, storedSession_saveLogin (hWritten rfl), rfl, hUser, hDevice⟩
    · rw [connect_failed hRestores hLogsIn] at hClient
      simp at hClient

theorem storedPassphrase_getOrCreate (answers : ConnectAnswers)
    {keychain : String → Option Bytes} {passphrase : String}
    (hStored : target.storedPassphrase keychain = some passphrase) :
    ∃ next, target.storedPassphrase
      (target.getOrCreateStorePassphrase keychain answers).2 = some next := by
  obtain hSame | hNew := target.getOrCreate_keychain answers keychain
  · rw [hSame]
    exact ⟨passphrase, hStored⟩
  · rw [hNew]
    exact ⟨_, storedPassphrase_update keychain answers.entropy⟩

/-- With the network back, the device comes back where its store has the passphrase of
the keychain. -/
theorem restoreStep_smooth_iff {session : SessionData} {lock passphrase : String}
    {keys : DeviceKeys} (hSmooth : Smooth answers)
    (hSession : target.storedSession profile.keychain = some session)
    (hStored : target.storedPassphrase profile.keychain = some passphrase)
    (hStore : profile.store = some ⟨some lock, keys⟩) (hUser : keys.userId = session.userId)
    (hDevice : keys.deviceId = session.deviceId) :
    (target.restoreStep profile false answers).1 = some keys ↔ lock = passphrase := by
  obtain ⟨identity, hAnswer⟩ := hSmooth.restore
  have hWanted : target.wantedSession profile false answers = some session := by
    simp [wantedSession, hSmooth.sessionRead, hSession]
  have hPassphrase : target.passphrase profile answers = some passphrase := by
    simp [Target.passphrase, getOrCreate_of_stored hSmooth.storeKeyRead hStored]
  rw [restoreStep_eq, hWanted, hAnswer, hStore, hPassphrase]
  simp [connectWithToken, CryptoStore.serves, hUser, hDevice]

/-- After a failing call that kept the store, the old device comes back unless the call
has written a new passphrase. -/
theorem retry_iff {after : Profile Bytes} {keys : DeviceKeys}
    (hKeychain : after.keychain = (target.getOrCreateStorePassphrase before.keychain answers).2)
    (hStore : after.store = before.store) (hRestorable : target.Restorable before keys) :
    (∀ again, Smooth again →
        (target.connectWithSession after false again).1 = some ⟨keys, false⟩) ↔
      answers.storeKeyRead = true ∨ answers.storeKeyWritten = false ∨
        target.storedPassphrase before.keychain =
          some (newPassphrase target.username answers.entropy) := by
  obtain ⟨session, passphrase, hSession, hStored, hBefore, hUser, hDevice⟩ := hRestorable
  obtain ⟨next, hNext⟩ := storedPassphrase_getOrCreate answers hStored
  rw [← hKeychain] at hNext
  have hSessionAfter : target.storedSession after.keychain = some session := by
    rw [hKeychain, storedSession_getOrCreate, hSession]
  have hRetry : ∀ again, Smooth again →
      ((target.connectWithSession after false again).1 = some ⟨keys, false⟩ ↔
        passphrase = next) := by
    intro again hSmooth
    rw [connect_eq_restored_iff]
    exact restoreStep_smooth_iff hSmooth hSessionAfter hNext (hStore.trans hBefore) hUser hDevice
  have hSmooth : Smooth ⟨true, ⟨0, "", 0⟩, true, true, .synced 0, true, .refused, true, true,
    true⟩ := ⟨rfl, rfl, 0, rfl⟩
  have hKept := storedPassphrase_getOrCreate_iff answers hStored
  rw [← hKeychain, hNext, Option.some.injEq] at hKept
  rw [hStored, ← hKept, eq_comm]
  constructor
  · intro hAll
    exact (hRetry _ hSmooth).1 (hAll _ hSmooth)
  · intro hSame again hAgain
    exact (hRetry again hAgain).2 hSame

/-- A store with keys outlives a failing call where it is not cleared; a new device has
new keys. -/
theorem failed_store_some {store : CryptoStore} (hStore : before.store = some store)
    (hFresh : ∀ login, answers.login.login? = some login →
      login.identity ≠ store.keys.identity) :
    (loginAndConnect (target.storeAtLogin before forceNewDevice answers)
        (target.passphrase before answers) answers.login).2 = some store ↔
      answers.wiped = false := by
  cases hWiped : answers.wiped with
  | false => simp [storeAtLogin, hWiped, hStore, loginAndConnect_some]
  | true =>
      have hOther : ∀ login, answers.login.login? = some login →
          (⟨target.passphrase before answers, login.keys⟩ : CryptoStore) ≠ store := by
        rintro login hLogin rfl
        exact hFresh login hLogin rfl
      cases hAnswer : answers.login with
      | refused => simp [storeAtLogin, hWiped, loginAndConnect]
      | unsynced login =>
          simpa [storeAtLogin, hWiped, loginAndConnect]
            using hOther login (by rw [hAnswer]; rfl)
      | synced login =>
          simpa [storeAtLogin, hWiped, loginAndConnect]
            using hOther login (by rw [hAnswer]; rfl)

theorem failed_store_none (hStore : before.store = none) :
    (loginAndConnect (target.storeAtLogin before forceNewDevice answers)
        (target.passphrase before answers) answers.login).2 = none ↔
      (answers.wiped = true ∨ target.leftover before forceNewDevice answers = none) ∧
        answers.login = .refused := by
  cases hWiped : answers.wiped with
  | true => simp [storeAtLogin, hWiped, loginAndConnect_none_iff]
  | false =>
      cases hLeft : target.leftover before forceNewDevice answers with
      | none => simp [storeAtLogin, hWiped, hStore, hLeft, loginAndConnect_none_iff]
      | some left => simp [storeAtLogin, hWiped, hStore, hLeft, loginAndConnect_some]

/-- Connecting is failure-atomic where a call that fails has done no harm on the way. -/
theorem connect_atomic_iff (target : Target Bytes) (before : Profile Bytes)
    (forceNewDevice : Bool) (answers : ConnectAnswers)
    (hFresh : ∀ store login, before.store = some store → answers.login.login? = some login →
      login.identity ≠ store.keys.identity) :
    target.Atomic before answers (target.connectWithSession before forceNewDevice answers).1
        (target.connectWithSession before forceNewDevice answers).2 ↔
      (¬ target.Restores before forceNewDevice answers →
        ¬ target.LogsIn before forceNewDevice answers →
          target.Harmless before forceNewDevice answers) := by
  constructor
  · intro hAtomic hRestores hLogsIn
    have hNone := connect_eq_none_iff.2 ⟨hRestores, hLogsIn⟩
    have hStore := hAtomic.store hNone
    have hRetry := hAtomic.retry hNone
    rw [connect_failed hRestores hLogsIn] at hStore hRetry
    refine ⟨?_, ?_, ?_⟩
    · intro hSome
      obtain ⟨store, hBefore⟩ := Option.isSome_iff_exists.1 hSome
      rw [hBefore] at hStore
      exact (failed_store_some hBefore (hFresh store · hBefore)).1 hStore
    · intro hBefore
      rw [hBefore] at hStore
      exact (failed_store_none hBefore).1 hStore
    · intro keys hRestorable
      exact (retry_iff rfl hStore hRestorable).1 (hRetry keys hRestorable)
  · intro hHarmless
    by_cases hFails : ¬ target.Restores before forceNewDevice answers ∧
        ¬ target.LogsIn before forceNewDevice answers
    · have hHarmless := hHarmless hFails.1 hFails.2
      rw [connect_failed hFails.1 hFails.2]
      have hStore : (loginAndConnect (target.storeAtLogin before forceNewDevice answers)
          (target.passphrase before answers) answers.login).2 = before.store := by
        cases hBefore : before.store with
        | none => exact (failed_store_none hBefore).2 (hHarmless.empty hBefore)
        | some store =>
            have hKept := hHarmless.kept (by rw [hBefore]; rfl)
            exact (failed_store_some hBefore (hFresh store · hBefore)).2 hKept
      refine ⟨fun _ => hStore, fun _ => getOrCreate_session _, ?_, by simp⟩
      intro _ keys hRestorable
      exact (retry_iff rfl hStore hRestorable).2 (hHarmless.passphrase keys hRestorable)
    · have hSome : (target.connectWithSession before forceNewDevice answers).1 ≠ none :=
        mt connect_eq_none_iff.1 hFails
      exact ⟨(absurd · hSome), (absurd · hSome), (absurd · hSome), fun _ => connect_named⟩

def plainEncoding : Encoding (String ⊕ SessionData) where
  text := .inl
  toText := Sum.getLeft?
  session := .inr
  toSession := Sum.getRight?
  toText_text _ := rfl
  toSession_session _ := rfl

def aliceTarget : Target (String ⊕ SessionData) :=
  ⟨plainEncoding, "alice", "https://matrix.org", "secret"⟩

/-- A machine with a session, its passphrase, and the keys of its device. -/
def aliceProfile : Profile (String ⊕ SessionData) :=
  ⟨Function.update
      (Function.update (fun _ => none) (sessionKey "alice" "https://matrix.org")
        (some (.inr ⟨"@alice:matrix.org", "OLD", "token", "https://matrix.org"⟩)))
      (storeKeyKey "alice" "https://matrix.org") (some (.inl "0123")),
    some ⟨some "0123", "@alice:matrix.org", "OLD", 1⟩⟩

/-- The homeserver is not reached in the restore; nothing else fails before the login. -/
def unsyncedRestore (login : LoginAnswer) : ConnectAnswers :=
  ⟨true, ⟨0, "host", 1⟩, true, true, .unsynced 2, true, login, true, true, true⟩

theorem connect_atomic_back_online :
    aliceTarget.Atomic aliceProfile
      (unsyncedRestore (.synced ⟨"@alice:matrix.org", "NEW", "token", 3⟩))
      (aliceTarget.connectWithSession aliceProfile false
        (unsyncedRestore (.synced ⟨"@alice:matrix.org", "NEW", "token", 3⟩))).1
      (aliceTarget.connectWithSession aliceProfile false
        (unsyncedRestore (.synced ⟨"@alice:matrix.org", "NEW", "token", 3⟩))).2 := by
  refine (connect_atomic_iff aliceTarget aliceProfile false _ ?_).2 ?_
  · rintro store login ⟨⟩ ⟨⟩
    decide
  · intro _ hLogsIn
    refine absurd ⟨rfl, _, rfl, ?_⟩ hLogsIn
    simp [storeAtLogin, unsyncedRestore]

/-- With the homeserver away in the login too, the keys of the device are gone. -/
theorem not_connect_atomic_offline :
    ¬ aliceTarget.Atomic aliceProfile (unsyncedRestore .refused)
      (aliceTarget.connectWithSession aliceProfile false (unsyncedRestore .refused)).1
      (aliceTarget.connectWithSession aliceProfile false (unsyncedRestore .refused)).2 := by
  have hRestores : ¬ aliceTarget.Restores aliceProfile false (unsyncedRestore .refused) := by
    simp [Restores, unsyncedRestore]
  have hLogsIn : ¬ aliceTarget.LogsIn aliceProfile false (unsyncedRestore .refused) := by
    simp [LogsIn, unsyncedRestore]
  intro hAtomic
  have hStore := hAtomic.store (connect_eq_none_iff.2 ⟨hRestores, hLogsIn⟩)
  rw [connect_failed hRestores hLogsIn] at hStore
  simp [storeAtLogin, unsyncedRestore, loginAndConnect, aliceProfile] at hStore

end Target

end Mxdx.MatrixClient
