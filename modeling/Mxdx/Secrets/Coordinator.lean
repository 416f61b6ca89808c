import Mxdx.Secrets.Store
import Mathlib.Data.Finset.Insert

/-! The coordinator releases a secret: it decrypts the value with the key of the
store and encrypts it again to the one-time key of the request. -/
namespace Mxdx.Secrets

open Automaton

/-- The fields of a request that the coordinator reads. -/
structure SecretRequestEvent where
  requestId : String
  scope : String
  ephemeralPublicKey : String
deriving DecidableEq, Repr

structure SecretResponseEvent where
  requestId : String
  granted : Bool
  encryptedValue : Option String
  error : Option String
deriving DecidableEq, Repr

structure SecretCoordinator (age : Age) where
  store : SecretStore age
  authorizedScopes : Finset String

def encryptToRecipient (age : Age) := age.encryptTo

def decryptWithIdentity (age : Age) := age.decryptBy

/-- A response without a value. -/
def SecretRequestEvent.refuse (request : SecretRequestEvent) (error : String) :
    SecretResponseEvent where
  requestId := request.requestId
  granted := false
  encryptedValue := none
  error := some error

namespace SecretCoordinator

variable {age : Age}

/-- `entropy` is drawn by the encryption to the requester. -/
def handleSecretRequest (coordinator : SecretCoordinator age) (request : SecretRequestEvent)
    (entropy : age.Entropy) : SecretResponseEvent :=
  if request.scope ∉ coordinator.authorizedScopes then
    request.refuse ("unauthorized scope: " ++ request.scope)
  else
    match coordinator.store.get request.scope with
    | .error e => request.refuse ("store error: " ++ e)
    | .ok none => request.refuse ("secret not found: " ++ request.scope)
    | .ok (some plaintext) =>
        match age.parseRecipient request.ephemeralPublicKey with
        | .error e => request.refuse ("invalid ephemeral public key: " ++ e)
        | .ok recipient =>
            match encryptToRecipient age recipient entropy (asBytes plaintext) with
            | .ok ciphertext =>
                { requestId := request.requestId
                  granted := true
                  encryptedValue := some (Base64.encode ciphertext)
                  error := none }
            | .error e => request.refuse ("encryption failed: " ++ e)

variable {json : PairsJson} {coordinator : SecretCoordinator age} {request : SecretRequestEvent}
  {entropy : age.Entropy}

/-- A response answers its request, and carries a value or an error but never both. -/
theorem handleSecretRequest_wellFormed (coordinator : SecretCoordinator age)
    (request : SecretRequestEvent) (entropy : age.Entropy) :
    let response := coordinator.handleSecretRequest request entropy
    response.requestId = request.requestId ∧
      response.encryptedValue.isSome = response.granted ∧
      response.error.isNone = response.granted := by
  unfold handleSecretRequest
  split
  · exact ⟨rfl, rfl, rfl⟩
  · split
    · exact ⟨rfl, rfl, rfl⟩
    · exact ⟨rfl, rfl, rfl⟩
    · split
      · exact ⟨rfl, rfl, rfl⟩
      · split <;> exact ⟨rfl, rfl, rfl⟩

/-- The answer to a request out of scope is a function of the request. -/
theorem handleSecretRequest_unauthorized
    (hScope : request.scope ∉ coordinator.authorizedScopes) :
    coordinator.handleSecretRequest request entropy =
      request.refuse ("unauthorized scope: " ++ request.scope) := by
  rw [handleSecretRequest, if_pos hScope]

/-- The answer of a coordinator whose store holds `contents`. -/
theorem handleSecretRequest_cases (hAge : age.Lawful) {contents : String → Option String}
    (hStore : coordinator.store.Holds contents)
    (hScope : request.scope ∈ coordinator.authorizedScopes) :
    (contents request.scope = none ∧
      coordinator.handleSecretRequest request entropy =
        request.refuse ("secret not found: " ++ request.scope)) ∨
    (∃ error, age.parseRecipient request.ephemeralPublicKey = .error error ∧
      coordinator.handleSecretRequest request entropy =
        request.refuse ("invalid ephemeral public key: " ++ error)) ∨
    ∃ value recipient ciphertext, contents request.scope = some value ∧
      age.parseRecipient request.ephemeralPublicKey = .ok recipient ∧
      encryptToRecipient age recipient entropy (asBytes value) = .ok ciphertext ∧
      coordinator.handleSecretRequest request entropy =
        ⟨request.requestId, true, some (Base64.encode ciphertext), none⟩ := by
  have hGet := hStore request.scope
  have hAuthorized : ¬ request.scope ∉ coordinator.authorizedScopes := fun hNot => hNot hScope
  rw [handleSecretRequest, if_neg hAuthorized, hGet]
  cases hContents : contents request.scope with
  | none => exact .inl ⟨rfl, rfl⟩
  | some value =>
      right
      cases hParse : age.parseRecipient request.ephemeralPublicKey with
      | error error => exact .inl ⟨error, rfl, rfl⟩
      | ok recipient =>
          obtain ⟨ciphertext, hCiphertext⟩ := hAge.encrypts recipient entropy (asBytes value)
          have hEncrypted : encryptToRecipient age recipient entropy (asBytes value) =
              .ok ciphertext := hCiphertext
          refine .inr ⟨value, recipient, ciphertext, rfl, rfl, hEncrypted, ?_⟩
          simp only [hEncrypted]

/-- A request is granted exactly if its scope is authorised and held and its key parses. -/
theorem granted_iff (hAge : age.Lawful) {contents : String → Option String}
    (hStore : coordinator.store.Holds contents) :
    (coordinator.handleSecretRequest request entropy).granted = true ↔
      request.scope ∈ coordinator.authorizedScopes ∧
      (∃ value, contents request.scope = some value) ∧
      ∃ recipient, age.parseRecipient request.ephemeralPublicKey = .ok recipient := by
  by_cases hScope : request.scope ∈ coordinator.authorizedScopes
  · rw [and_iff_right hScope]
    rcases handleSecretRequest_cases hAge hStore hScope with
      ⟨hNone, hResponse⟩ | ⟨error, hParse, hResponse⟩ |
      ⟨value, recipient, ciphertext, hValue, hParse, -, hResponse⟩
    · rw [hResponse, hNone]
      exact iff_of_false nofun nofun
    · rw [hResponse, hParse]
      exact iff_of_false nofun nofun
    · rw [hResponse, hParse]
      exact iff_of_true rfl ⟨⟨value, hValue⟩, recipient, rfl⟩
  · rw [handleSecretRequest_unauthorized hScope]
    exact iff_of_false nofun fun h => hScope h.1

/-- What is granted decrypts to the value that the store holds. -/
theorem decrypts_of_granted (hAge : age.Lawful) {contents : String → Option String}
    (hStore : coordinator.store.Holds contents) {ephemeral : age.Identity}
    (hKey : age.parseRecipient request.ephemeralPublicKey = .ok (age.toPublic ephemeral))
    (hGranted : (coordinator.handleSecretRequest request entropy).granted = true) :
    ∃ encoded ciphertext value,
      (coordinator.handleSecretRequest request entropy).encryptedValue = some encoded ∧
      Base64.decode encoded = some ciphertext ∧ contents request.scope = some value ∧
      decryptWithIdentity age ephemeral ciphertext = .ok (asBytes value) := by
  have hScope := ((granted_iff hAge hStore).mp hGranted).1
  rcases handleSecretRequest_cases hAge hStore hScope with
    ⟨-, hResponse⟩ | ⟨error, hParse, -⟩ |
    ⟨value, recipient, ciphertext, hValue, hParse, hCiphertext, hResponse⟩
  · rw [hResponse] at hGranted
    cases hGranted
  · cases hKey.symm.trans hParse
  · obtain rfl : age.toPublic ephemeral = recipient := Except.ok.inj (hKey.symm.trans hParse)
    refine ⟨Base64.encode ciphertext, ciphertext, value, ?_, Base64.decode_encode _, hValue,
      hAge.decrypts _ _ _ _ hCiphertext⟩
    rw [hResponse]

/-- Secret release. After any history of the store, a request is granted exactly if its
scope is authorised and was added and its key parses. What is granted decrypts to the
value last added, and the answer to an unauthorised request does not depend on the store. -/
theorem secret_release (hAge : age.Lawful) (hJson : json.RoundTrips) (identity : age.Identity)
    (operations : List (StoreOperation age)) (authorizedScopes : Finset String)
    (request : SecretRequestEvent) (entropy : age.Entropy) :
    let store := run (SecretStore.step json) (SecretStore.new identity) operations
    let response := (mk store authorizedScopes).handleSecretRequest request entropy
    (response.granted = true ↔
      request.scope ∈ authorizedScopes ∧
      (∃ value, lastAdded operations request.scope = some value) ∧
      ∃ recipient, age.parseRecipient request.ephemeralPublicKey = .ok recipient) ∧
    (response.granted = true → ∀ ephemeral : age.Identity,
      age.parseRecipient request.ephemeralPublicKey = .ok (age.toPublic ephemeral) →
      ∃ encoded ciphertext value, response.encryptedValue = some encoded ∧
        Base64.decode encoded = some ciphertext ∧
        lastAdded operations request.scope = some value ∧
        decryptWithIdentity age ephemeral ciphertext = .ok (asBytes value)) ∧
    (request.scope ∉ authorizedScopes → ∀ (other : SecretStore age) (draw : age.Entropy),
      (mk other authorizedScopes).handleSecretRequest request draw = response) := by
  intro store response
  have hStore : (mk store authorizedScopes).store.Holds (lastAdded operations) :=
    SecretStore.holds_run hAge hJson identity operations
  refine ⟨granted_iff hAge hStore, fun hGranted ephemeral hKey =>
    decrypts_of_granted hAge hStore hKey hGranted, fun hScope other draw => ?_⟩
  calc (mk other authorizedScopes).handleSecretRequest request draw
    _ = request.refuse ("unauthorized scope: " ++ request.scope) :=
        handleSecretRequest_unauthorized hScope
    _ = response := (handleSecretRequest_unauthorized hScope).symm

section Instance

def plainPublic (identity : String) : String := "age1" ++ identity

def plainParse (text : String) : Except String String :=
  if "age1".toList <+: text.toList then .ok text else .error "invalid Bech32 encoding"

def plainDecrypt (identity : String) (ciphertext : Bytes) : Except String Bytes :=
  let header := asBytes (plainPublic identity)
  if header <+: ciphertext then .ok (ciphertext.drop header.length)
  else .error "No matching keys found"

theorem plainDecrypt_append (identity : String) (plaintext : Bytes) :
    plainDecrypt identity (asBytes (plainPublic identity) ++ plaintext) = .ok plaintext := by
  simp [plainDecrypt]

/-- An age whose ciphertext is the name of the recipient before the plain text. -/
def plainAge : Age where
  Identity := String
  Recipient := String
  Entropy := Unit
  Encryptor := String
  StreamWriter := Bytes
  Decryptor := Bytes
  StreamReader := Bytes
  toPublic := plainPublic
  parseRecipient := plainParse
  withRecipients recipients := .ok (recipients.headD "")
  wrapOutput encryptor _ := .ok (asBytes encryptor)
  writeAll writer bytes := .ok (writer ++ bytes)
  finish writer := .ok writer
  decryptor ciphertext := .ok ciphertext
  decrypt ciphertext identities := plainDecrypt (identities.headD "") ciphertext
  readToEnd reader := .ok reader

theorem plainAge_lawful : plainAge.Lawful where
  encrypts recipient entropy plaintext := ⟨_, rfl⟩
  decrypts identity entropy plaintext ciphertext h := by
    obtain rfl : asBytes (plainPublic identity) ++ plaintext = ciphertext := Except.ok.inj h
    exact congrArg (fun decrypted : Except String Bytes =>
      decrypted.mapError ("decryption failed: " ++ ·) >>= Except.ok)
      (plainDecrypt_append identity plaintext)

/-- A field of the document: every byte after a one, and a zero at the end. -/
def field (bytes : Bytes) : Bytes := bytes.flatMap (fun byte => [1, byte]) ++ [0]

def fields : Bytes → Option (List Bytes)
  | [] => some []
  | 0 :: rest => (fields rest).map ([] :: ·)
  | 1 :: byte :: rest =>
      match fields rest with
      | some (first :: others) => some ((byte :: first) :: others)
      | _ => none
  | _ => none

def pairUp : List Bytes → Option (List (String × Bytes))
  | [] => some []
  | key :: value :: rest => do
      let key ← Types.strFromUtf8 key
      let rest ← pairUp rest
      return (key, value) :: rest
  | [_] => none

/-- A document made of fields. -/
def fieldJson : PairsJson where
  toVec pairs := .ok (pairs.flatMap fun pair => field (asBytes pair.1) ++ field pair.2)
  fromSlice data :=
    match (fields data).bind pairUp with
    | some pairs => .ok pairs
    | none => .error "expected value"

theorem fields_field (bytes rest : Bytes) :
    fields (field bytes ++ rest) = (fields rest).map (bytes :: ·) := by
  induction bytes with
  | nil => rfl
  | cons byte bytes ih =>
      show (match fields (field bytes ++ rest) with
        | some (first :: others) => some ((byte :: first) :: others)
        | _ => none) = _
      rw [ih]
      cases fields rest <;> rfl

theorem fieldJson_roundTrips : fieldJson.RoundTrips := by
  intro pairs
  refine ⟨_, rfl, ?_⟩
  have hFields : (fields (pairs.flatMap fun pair => field (asBytes pair.1) ++ field pair.2)).bind
      pairUp = some pairs := by
    induction pairs with
    | nil => rfl
    | cons pair pairs ih =>
        obtain ⟨rest, hRest, hPairs⟩ := Option.bind_eq_some_iff.mp ih
        rw [List.flatMap_cons, List.append_assoc, fields_field, fields_field, hRest]
        simp [pairUp, hPairs, Types.strFromUtf8_asBytes]
  simp only [fieldJson, hFields]

/-- The second value added is released, also after the store was read back from its
pairs in the reverse order. -/
theorem secret_release_replaced :
    let operations : List (StoreOperation plainAge) :=
      [.add "github.token" "ghp_old" (), .add "aws.key" "AKIA" (),
        .add "github.token" "ghp_secret123" (), .reload ⟨List.reverse, List.reverse_perm⟩]
    let store := run (SecretStore.step fieldJson) (SecretStore.new "holder") operations
    let response := (mk store {"github.token"}).handleSecretRequest
      ⟨"req-001", "github.token", "age1worker"⟩ ()
    response.granted = true ∧
      ∃ encoded ciphertext, response.encryptedValue = some encoded ∧
        Base64.decode encoded = some ciphertext ∧
        decryptWithIdentity plainAge "worker" ciphertext = .ok (asBytes "ghp_secret123") := by
  intro operations store response
  have hRelease := secret_release plainAge_lawful fieldJson_roundTrips "holder" operations
    {"github.token"} ⟨"req-001", "github.token", "age1worker"⟩ ()
  have hPrefix : "age1".toList <+: "age1worker".toList := by decide
  have hParse : plainParse "age1worker" = .ok "age1worker" := if_pos hPrefix
  have hKey : plainAge.parseRecipient "age1worker" = .ok (plainAge.toPublic "worker") := hParse
  have hAdded : lastAdded operations "github.token" = some "ghp_secret123" := by
    decide
  have hGranted : response.granted = true :=
    hRelease.1.mpr ⟨Finset.mem_singleton_self _, ⟨_, hAdded⟩, _, hKey⟩
  obtain ⟨encoded, ciphertext, value, hEncoded, hDecoded, hValue, hPlaintext⟩ :=
    hRelease.2.1 hGranted "worker" hKey
  obtain rfl : "ghp_secret123" = value := Option.some.inj (hAdded.symm.trans hValue)
  exact ⟨hGranted, encoded, ciphertext, hEncoded, hDecoded, hPlaintext⟩

end Instance

end SecretCoordinator

end Mxdx.Secrets
