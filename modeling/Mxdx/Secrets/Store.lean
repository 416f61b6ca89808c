import Mxdx.Types.KeychainFile
import Mathlib.Data.List.AList

/-! `SecretStore`: every value encrypted on its own to the holder's age key, and
the map of ciphertexts written out as a list of pairs. The crates age and
serde_json are parameters; a failed call is told by the text of its error. -/
namespace Mxdx.Secrets

open Automaton

/-- The parts of the crate age that are used. `Entropy` is what an encryption draws. -/
structure Age where
  Identity : Type
  Recipient : Type
  Entropy : Type
  Encryptor : Type
  StreamWriter : Type
  Decryptor : Type
  StreamReader : Type
  toPublic : Identity → Recipient
  parseRecipient : String → Except String Recipient
  withRecipients : List Recipient → Except String Encryptor
  wrapOutput : Encryptor → Entropy → Except String StreamWriter
  writeAll : StreamWriter → Bytes → Except String StreamWriter
  finish : StreamWriter → Except String Bytes
  decryptor : Bytes → Except String Decryptor
  decrypt : Decryptor → List Identity → Except String StreamReader
  readToEnd : StreamReader → Except String Bytes

/-- `serde_json::to_vec` and `serde_json::from_slice` at a list of pairs of a string
and a byte array. -/
structure PairsJson where
  toVec : List (String × Bytes) → Except String Bytes
  fromSlice : Bytes → Except String (List (String × Bytes))

namespace Age

variable (age : Age)

/-- The body of `encrypt_value` and of `encrypt_to_recipient`. -/
def encryptTo (recipient : age.Recipient) (entropy : age.Entropy) (plaintext : Bytes) :
    Except String Bytes := do
  let encryptor ← (age.withRecipients [recipient]).mapError ("encryption setup failed: " ++ ·)
  let writer ← (age.wrapOutput encryptor entropy).mapError
    fun _ => "failed to create encryption writer"
  let writer ← age.writeAll writer plaintext
  age.finish writer

/-- The body of `decrypt_value` and of `decrypt_with_identity`. -/
def decryptBy (identity : age.Identity) (ciphertext : Bytes) : Except String Bytes := do
  let decryptor ← (age.decryptor ciphertext).mapError ("decryption setup failed: " ++ ·)
  let reader ← (age.decrypt decryptor [identity]).mapError ("decryption failed: " ++ ·)
  age.readToEnd reader

/-- Encryption in memory succeeds, and decryption inverts it. -/
structure Lawful : Prop where
  encrypts : ∀ recipient entropy plaintext,
    ∃ ciphertext, age.encryptTo recipient entropy plaintext = .ok ciphertext
  decrypts : ∀ identity entropy plaintext ciphertext,
    age.encryptTo (age.toPublic identity) entropy plaintext = .ok ciphertext →
      age.decryptBy identity ciphertext = .ok plaintext

end Age

/-- What is written can be read back. -/
def PairsJson.RoundTrips (json : PairsJson) : Prop :=
  ∀ pairs, ∃ data, json.toVec pairs = .ok data ∧ json.fromSlice data = .ok pairs

def encryptValue (age : Age) := age.encryptTo

def decryptValue (age : Age) := age.decryptBy

/-- A `HashMap` of ciphertexts. -/
abbrev Entries := AList fun _ : String => Bytes

namespace Entries

/-- The pairs of the map, in one order. -/
def listing (entries : Entries) : List (String × Bytes) :=
  entries.entries.map fun entry => (entry.1, entry.2)

/-- `into_iter().collect()`: a later pair replaces an earlier one. -/
def collect (pairs : List (String × Bytes)) : Entries :=
  pairs.foldl (fun entries pair => entries.insert pair.1 pair.2) ∅

end Entries

/-- The order in which a `HashMap` hands out its pairs. -/
structure IterationOrder where
  order : List (String × Bytes) → List (String × Bytes)
  perm : ∀ pairs, (order pairs).Perm pairs

/-- The recipient is the public half of the identity. -/
structure SecretStore (age : Age) where
  identity : age.Identity
  recipient : age.Recipient
  entries : Entries
  recipient_eq : recipient = age.toPublic identity

namespace SecretStore

variable {age : Age}

def new (identity : age.Identity) : SecretStore age where
  identity := identity
  recipient := age.toPublic identity
  entries := ∅
  recipient_eq := rfl

def add (store : SecretStore age) (key value : String) (entropy : age.Entropy) :
    Except String (SecretStore age) := do
  let encrypted ← (encryptValue age store.recipient entropy (asBytes value)).mapError
    fun _ => "failed to encrypt secret"
  return { store with entries := store.entries.insert key encrypted }

def get (store : SecretStore age) (key : String) : Except String (Option String) :=
  match store.entries.lookup key with
  | none => .ok none
  | some encrypted => do
      let decrypted ← (decryptValue age store.identity encrypted).mapError
        fun _ => "failed to decrypt secret"
      match Types.strFromUtf8 decrypted with
      | some plaintext => return some plaintext
      | none => throw "decrypted value is not valid UTF-8"

def serialize (json : PairsJson) (iteration : IterationOrder) (store : SecretStore age) :
    Except String Bytes :=
  (json.toVec (iteration.order store.entries.listing)).mapError
    fun _ => "failed to serialize store"

def deserialize (json : PairsJson) (data : Bytes) (identity : age.Identity) :
    Except String (SecretStore age) := do
  let entries ← (json.fromSlice data).mapError fun _ => "failed to deserialize store"
  return {
    identity := identity
    recipient := age.toPublic identity
    entries := .collect entries
    recipient_eq := rfl }

/-- `key`, the store's identity. -/
def key (store : SecretStore age) : age.Identity := store.identity

end SecretStore

/-- What happens to a store: a value is added, or the store is written out and read
back with the same identity. -/
inductive StoreOperation (age : Age) where
  | add (key value : String) (entropy : age.Entropy)
  | reload (iteration : IterationOrder)

namespace SecretStore

variable {age : Age}

/-- `serialize` followed by `deserialize` with the identity of the store. -/
def reload (json : PairsJson) (iteration : IterationOrder) (store : SecretStore age) :
    Except String (SecretStore age) := do
  let data ← store.serialize json iteration
  deserialize json data store.key

/-- A failed operation leaves its caller with the store it had. -/
def step (json : PairsJson) (store : SecretStore age) : StoreOperation age → SecretStore age
  | .add key value entropy => (store.add key value entropy).toOption.getD store
  | .reload iteration => (store.reload json iteration).toOption.getD store

end SecretStore

/-- The value last added under a key. -/
def lastAdded {age : Age} (operations : List (StoreOperation age)) (key : String) :
    Option String :=
  (operations.filterMap fun
    | .add other value _ => if other = key then some value else none
    | .reload _ => none).getLast?

namespace Entries

theorem mem_listing {entries : Entries} {key : String} {value : Bytes} :
    (key, value) ∈ entries.listing ↔ entries.lookup key = some value := by
  have hLookup := @AList.mem_lookup_iff _ _ _ key value entries
  rw [← Option.mem_def, hLookup, listing, List.mem_map]
  constructor
  · rintro ⟨entry, hMem, hEq⟩
    obtain ⟨hKey, hValue⟩ := Prod.mk.inj hEq
    rwa [← hKey, ← hValue]
  · intro hMem
    exact ⟨⟨key, value⟩, hMem, rfl⟩

theorem nodup_listing (entries : Entries) : (entries.listing.map Prod.fst).Nodup := by
  rw [listing, List.map_map]
  exact entries.keys_nodup

theorem lookup_collect {pairs : List (String × Bytes)} (hNodup : (pairs.map Prod.fst).Nodup)
    (key : String) (value : Bytes) :
    (collect pairs).lookup key = some value ↔ (key, value) ∈ pairs := by
  induction pairs using List.reverseRecOn with
  | nil => simp [collect]
  | append_singleton pairs pair ih =>
      rw [List.map_append, List.nodup_append] at hNodup
      obtain ⟨hBefore, -, hNew⟩ := hNodup
      have hCollect : collect (pairs ++ [pair]) = (collect pairs).insert pair.1 pair.2 := by
        rw [collect, List.foldl_append]
        rfl
      rw [hCollect, List.mem_append, List.mem_singleton]
      by_cases hKey : key = pair.1
      · subst hKey
        have hOld : (pair.1, value) ∉ pairs := fun hMem =>
          hNew _ (List.mem_map_of_mem hMem) _ (List.mem_singleton_self _) rfl
        rw [AList.lookup_insert, or_iff_right hOld, Option.some.injEq]
        constructor
        · rintro rfl
          rfl
        · intro hEq
          rw [← hEq]
      · have hOther : (key, value) ≠ pair := fun hEq => hKey (by rw [← hEq])
        rw [AList.lookup_insert_ne hKey, ih hBefore, or_iff_left hOther]

/-- The map read back from its pairs, in whatever order they were written. -/
theorem lookup_collect_listing (iteration : IterationOrder) (entries : Entries) (key : String) :
    (collect (iteration.order entries.listing)).lookup key = entries.lookup key := by
  have hPerm := iteration.perm entries.listing
  have hNodup : ((iteration.order entries.listing).map Prod.fst).Nodup :=
    (hPerm.map Prod.fst).nodup_iff.mpr entries.nodup_listing
  apply Option.ext
  intro value
  rw [lookup_collect hNodup, hPerm.mem_iff, mem_listing]

end Entries

namespace SecretStore

variable {age : Age} {json : PairsJson} {store : SecretStore age}

/-- What the store is for: a map from keys to texts. -/
def Holds (store : SecretStore age) (contents : String → Option String) : Prop :=
  ∀ key, store.get key = .ok (contents key)

theorem holds_new (identity : age.Identity) : (new identity).Holds fun _ => none :=
  fun _ => rfl

theorem get_congr {first second : SecretStore age} (hIdentity : first.identity = second.identity)
    {key : String} (hLookup : first.entries.lookup key = second.entries.lookup key) :
    first.get key = second.get key := by
  rw [get, get, hLookup, hIdentity]

theorem get_of_decrypts {key value : String} {ciphertext : Bytes}
    (hLookup : store.entries.lookup key = some ciphertext)
    (hPlaintext : decryptValue age store.identity ciphertext = .ok (asBytes value)) :
    store.get key = .ok (some value) := by
  simp only [get, hLookup, hPlaintext, Except.mapError, bind, Except.bind,
    Types.strFromUtf8_asBytes]
  rfl

theorem Holds.add {contents : String → Option String} (h : store.Holds contents)
    (hAge : age.Lawful) (key value : String) (entropy : age.Entropy) :
    ∃ next, store.add key value entropy = .ok next ∧
      next.Holds (Function.update contents key (some value)) := by
  obtain ⟨ciphertext, hCiphertext⟩ := hAge.encrypts store.recipient entropy (asBytes value)
  have hAdd : store.add key value entropy =
      .ok { store with entries := store.entries.insert key ciphertext } := by
    rw [SecretStore.add, encryptValue, hCiphertext]
    rfl
  refine ⟨_, hAdd, fun other => ?_⟩
  by_cases hKey : other = key
  · subst hKey
    rw [store.recipient_eq] at hCiphertext
    rw [Function.update_self]
    exact get_of_decrypts (AList.lookup_insert _) (hAge.decrypts _ _ _ _ hCiphertext)
  · rw [Function.update_of_ne hKey, ← h other]
    apply get_congr
    · rfl
    · exact AList.lookup_insert_ne hKey

theorem Holds.reload {contents : String → Option String} (h : store.Holds contents)
    (hJson : json.RoundTrips) (iteration : IterationOrder) :
    ∃ next, store.reload json iteration = .ok next ∧ next.Holds contents := by
  obtain ⟨data, hData, hPairs⟩ := hJson (iteration.order store.entries.listing)
  have hReload : store.reload json iteration = .ok
      { identity := store.identity
        recipient := age.toPublic store.identity
        entries := .collect (iteration.order store.entries.listing)
        recipient_eq := rfl } := by
    simp only [SecretStore.reload, serialize, hData, Except.mapError, bind, Except.bind,
      deserialize, hPairs]
    rfl
  refine ⟨_, hReload, fun other => ?_⟩
  rw [← h other]
  apply get_congr
  · rfl
  · exact Entries.lookup_collect_listing iteration store.entries other

theorem lastAdded_concat_add (operations : List (StoreOperation age)) (key value : String)
    (entropy : age.Entropy) :
    lastAdded (operations ++ [.add key value entropy]) =
      Function.update (lastAdded operations) key (some value) := by
  funext other
  by_cases hKey : other = key
  · subst hKey
    simp [lastAdded]
  · have hOther : ¬ key = other := fun hEq => hKey hEq.symm
    simp [lastAdded, hKey, hOther]

theorem lastAdded_concat_reload (operations : List (StoreOperation age))
    (iteration : IterationOrder) :
    lastAdded (operations ++ [.reload iteration]) = lastAdded operations := by
  funext other
  simp [lastAdded]

/-- After any history the store gives back the value last added under each key. -/
theorem holds_run (hAge : age.Lawful) (hJson : json.RoundTrips) (identity : age.Identity)
    (operations : List (StoreOperation age)) :
    (run (step json) (new identity) operations).Holds (lastAdded operations) := by
  induction operations using List.reverseRecOn with
  | nil => exact holds_new identity
  | append_singleton operations operation ih =>
      rw [run_concat]
      cases operation with
      | add key value entropy =>
          obtain ⟨next, hNext, hHolds⟩ := ih.add hAge key value entropy
          rw [lastAdded_concat_add, step, hNext]
          exact hHolds
      | reload iteration =>
          obtain ⟨next, hNext, hHolds⟩ := ih.reload hJson iteration
          rw [lastAdded_concat_reload, step, hNext]
          exact hHolds

end SecretStore

end Mxdx.Secrets
