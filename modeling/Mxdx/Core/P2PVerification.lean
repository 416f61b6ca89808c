import Mxdx.Core.P2PTransport
import Mxdx.P2P.Transport.Handshake

/-! What stands behind a verified peer: every completion of the handshake goes
back to a response that was received and whose signature was found valid. What
the code does not ask is whether the nonces are still the same when the check
of the signature is over, and whether the key belongs to the device. -/
namespace Mxdx.Core

open Automaton
open P2P (Ed25519 Nonce PublicKey)

variable {ed : Ed25519}

/-- The signature of the response verifies over the transcript of what is held. -/
def SignedOver (ed : Ed25519) (config : TransportConfig) (runtime : Runtime) (held : Held)
    (response : Response) : Prop :=
  ∃ text key, held.transcriptText runtime config.localDeviceId response.deviceId = some text ∧
    ed.fromBytes response.signerPk = .ok key ∧ ed.verify key text response.signature = true

/-- A response of a channel among `sources`, with no key known for its device
or with the key it carries. -/
structure Verifying.Received (sources : Channel → Prop) (received : List (Channel × Response))
    (task : Verifying) : Prop where
  received : (task.channel, task.response) ∈ received
  source : sources task.channel
  known : task.known = none ∨ task.known = some task.response.signerPk

theorem Verifying.Received.mono {sources : Channel → Prop}
    {received later : List (Channel × Response)} {task : Verifying} (hSub : received ⊆ later)
    (h : task.Received sources received) : task.Received sources later :=
  ⟨hSub h.received, h.source, h.known⟩

/-- The transcript that was checked is the one of what is held. -/
def CheckedOver (config : TransportConfig) (runtime : Runtime) (held : Held)
    (task : Verifying) : Prop :=
  held.transcriptText runtime config.localDeviceId task.response.deviceId = some task.text

theorem CheckedOver.signedOver {config : TransportConfig} {runtime : Runtime} {held : Held}
    {task : Verifying} (h : CheckedOver config runtime held task) (hValid : task.Valid ed) :
    SignedOver ed config runtime held task.response := by
  obtain ⟨key, hKey, hVerify⟩ := hValid
  exact ⟨task.text, key, h, hKey, hVerify⟩

/-- What was signed with a key is valid under it. -/
theorem Verifying.valid_of_sign (hCorrect : ed.Correct) (keypair : ed.SigningKey) (text : Bytes)
    (channel : Channel) (deviceId : String) (known : Option PublicKey) :
    (⟨channel, ⟨ed.sign keypair text, ed.publicKey keypair, deviceId⟩, known, text⟩ :
      Verifying).Valid ed :=
  hCorrect keypair text

namespace P2PTransport

/-- Every context is complete, and frames come from `sources` alone. -/
def From (sources : Channel → Prop) : TransportInput ed → Prop
  | .setHandshakeContext context => context.canDoV2 = true
  | .message channel _ _ => sources channel
  | _ => True

section Bound

/-- With a complete context a response is accepted only after its signature was
found valid; legacy frames never are. -/
structure Bound (sources : Channel → Prop) (transport : P2PTransport ed) : Prop where
  context : transport.context.canDoV2 = true
  localNonce : ∀ text, transport.localNonce ≠ some (.hex text)
  lookingUp : ∀ entry ∈ transport.lookingUp, entry ∈ transport.received ∧ sources entry.1
  verifying : ∀ task ∈ transport.verifying, task.Received sources transport.received
  accepted : transport.localVerified = true → ∃ task, transport.accepted = some task ∧
    task.Received sources transport.received ∧ task.Valid ed
  verified : transport.peerVerified = true ∨ transport.status = .p2p → transport.completions ≠ []

variable {sources : Channel → Prop} {transport : P2PTransport ed}

theorem Bound.of_core (h : Bound sources transport.core) : Bound sources transport :=
  ⟨h.context, h.localNonce, h.lookingUp, h.verifying, h.accepted, h.verified⟩

theorem Bound.core (h : Bound sources transport) : Bound sources transport.core :=
  ⟨h.context, h.localNonce, h.lookingUp, h.verifying, h.accepted, h.verified⟩

theorem bound_new {context : HandshakeContext} (hContext : context.canDoV2 = true)
    (hasCrypto : Bool) : Bound sources (P2PTransport.new context hasCrypto : P2PTransport ed) := by
  constructor <;> simp [P2PTransport.new, hContext]

theorem SetsNonce.bytes {before after : Option LocalNonce} (h : SetsNonce before after)
    (hBefore : ∀ text, before ≠ some (.hex text)) (text : String) :
    after ≠ some (.hex text) := by
  rcases h with rfl | ⟨-, nonce, rfl⟩
  · exact hBefore text
  · simp

/-- No text can echo a nonce that is bytes. -/
theorem Bound.not_echoesNonce (h : Bound sources transport) (frame : JsValue) :
    ¬ transport.echoesNonce frame = true := by
  unfold echoesNonce
  split
  · rename_i hLocal _
    exact absurd hLocal (h.localNonce _)
  · simp

/-- More is received; what is looked up and checked then was so before, or has
been received. -/
theorem Bound.receive (h : Bound sources transport) {starting challenged : List Channel}
    {lookingUp received : List (Channel × Response)} {verifying : List Verifying}
    (hReceived : transport.received ⊆ received)
    (hLookingUp : ∀ entry ∈ lookingUp,
      entry ∈ transport.lookingUp ∨ entry ∈ received ∧ sources entry.1)
    (hVerifying : ∀ task ∈ verifying,
      task ∈ transport.verifying ∨ task.Received sources received) :
    Bound sources
      { transport.core with starting, challenged, lookingUp, received, verifying } := by
  refine ⟨h.context, h.localNonce, ?_, ?_, ?_, h.verified⟩
  · intro entry hEntry
    rcases hLookingUp entry hEntry with hOld | hNew
    · obtain ⟨hMem, hSource⟩ := h.lookingUp entry hOld
      exact ⟨hReceived hMem, hSource⟩
    · exact hNew
  · intro task hTask
    rcases hVerifying task hTask with hOld | hNew
    · exact (h.verifying task hOld).mono hReceived
    · exact hNew
  · intro hLocal
    obtain ⟨task, hAccepted, hTask, hValid⟩ := h.accepted hLocal
    exact ⟨task, hAccepted, hTask.mono hReceived, hValid⟩

theorem Bound.complete (h : Bound sources transport) (source : Channel) :
    Bound sources (transport.complete source) := by
  rcases transport.complete_cases source with hSame | ⟨-, -, hComplete⟩
  · rw [hSame]
    exact h
  · rw [hComplete]
    refine ⟨h.context, h.localNonce, h.lookingUp, h.verifying, h.accepted, fun _ => ?_⟩
    dsimp only
    split
    · rename_i hVerified
      exact h.verified (.inl hVerified)
    · simp

theorem Bound.accept (h : Bound sources transport) {index : Nat} {task : Verifying}
    (hTask : transport.verifying[index]? = some task) (hValid : task.Valid ed) :
    Bound sources
      { transport.core with
        verifying := transport.verifying.eraseIdx index, localVerified := true
        accepted := some task } :=
  ⟨h.context, h.localNonce, h.lookingUp,
    fun other hOther => h.verifying other (List.eraseIdx_subset hOther),
    fun _ => ⟨task, rfl, h.verifying task (List.mem_of_getElem? hTask), hValid⟩, h.verified⟩

theorem Bound.takeLegacy (h : Bound sources transport) (frame : JsValue) :
    Bound sources
      { transport.core with
        remoteNonce := (frame.get? "nonce").map .value
        peerDeviceId := frame.get? "device_id" } :=
  ⟨h.context, h.localNonce, h.lookingUp, h.verifying, h.accepted, h.verified⟩

/-- A response that is looked up has been received. -/
theorem Bound.lookup (h : Bound sources transport) {channel : Channel}
    (hSource : sources channel) (response : Response) :
    Bound sources
      { transport.core with
        lookingUp := transport.lookingUp ++ [(channel, response)]
        received := transport.received ++ [(channel, response)] } := by
  apply h.receive (List.subset_append_left _ _)
  · intro entry hEntry
    rcases List.mem_append.mp hEntry with hOld | hNew
    · exact .inl hOld
    · obtain rfl := List.mem_singleton.mp hNew
      exact .inr ⟨by simp, hSource⟩
  · exact fun task hTask => .inl hTask

/-- A response that is checked has been received, and is of the key that is known. -/
theorem Bound.check (h : Bound sources transport) {lookingUp received : List (Channel × Response)}
    {task : Verifying} (hLookingUp : lookingUp ⊆ transport.lookingUp)
    (hReceived : transport.received ⊆ received) (hTask : task.Received sources received) :
    Bound sources
      { transport.core with lookingUp, received, verifying := transport.verifying ++ [task] } := by
  apply h.receive hReceived
  · exact fun entry hEntry => .inl (hLookingUp hEntry)
  · intro other hOther
    rcases List.mem_append.mp hOther with hOld | hNew
    · exact .inl hOld
    · obtain rfl := List.mem_singleton.mp hNew
      exact .inr hTask

theorem Bound.step (config : TransportConfig) (runtime : Runtime) {input : TransportInput ed}
    (h : Bound sources transport) (hFrom : From sources input) :
    Bound sources (transport.step config runtime input) := by
  apply Bound.of_core
  have hEffect := step_effect config runtime transport input
  generalize (transport.step config runtime input).core = next at hEffect ⊢
  cases hEffect with
  | same => exact h.core
  | dropped starting challenged lookingUp received verifying hLookingUp hReceived hVerifying =>
      apply h.receive hReceived
      · exact fun entry hEntry => .inl (hLookingUp hEntry)
      · exact fun task hTask => .inl (hVerifying hTask)
  | contextSet context =>
      exact ⟨hFrom, h.localNonce, h.lookingUp, h.verifying, h.accepted, h.verified⟩
  | attached localNonce starting hNonce =>
      have hLocal : localNonce = none := hNonce h.context
      exact ⟨h.context, by simp [hLocal], h.lookingUp, h.verifying, by simp,
        fun hVerified => h.verified (hVerified.imp (by simp) id)⟩
  | challengeTaken peerNonce deviceId localNonce challenged hType hParse hNonce =>
      exact ⟨h.context, hNonce.bytes h.localNonce, h.lookingUp, h.verifying, h.accepted,
        h.verified⟩
  | lookupBegun response hType => exact h.lookup hFrom response
  | checkBegun lookingUp received task hLookingUp hReceived hText hKnown hInput =>
      have hNew : (task.channel, task.response) ∈ received ∧ sources task.channel := by
        rcases hInput with ⟨frame, nonce, rfl, -, hMem⟩ | ⟨index, rfl, hEntry⟩
        · exact ⟨hMem, hFrom⟩
        · obtain ⟨hMem, hSource⟩ := h.lookingUp _ (List.mem_of_getElem? hEntry)
          exact ⟨hReceived hMem, hSource⟩
      exact h.check hLookingUp hReceived ⟨hNew.1, hNew.2, hKnown⟩
  | aborted lookingUp verifying hLookingUp hVerifying hInput =>
      obtain ⟨pendingAcks, requeued, hClose, -⟩ := transport.core_handleChannelClose_cases
      rw [hClose]
      exact ⟨h.context, h.localNonce, fun entry hEntry => h.lookingUp entry (hLookingUp hEntry),
        fun task hTask => h.verifying task (hVerifying hTask), by simp, by simp⟩
  | responseAccepted task hTask hValid =>
      exact (h.accept hTask hValid).complete _
  | legacyTaken hType hFields => exact h.takeLegacy _
  | legacyAnswered hType hFields => exact (h.takeLegacy _).complete _
  | legacyAccepted hType hEcho => exact absurd hEcho.1 (h.not_echoesNonce _)
  | wentDown hChannel =>
      obtain ⟨pendingAcks, requeued, hClose, -⟩ := transport.core_handleChannelClose_cases
      rw [hClose]
      exact ⟨h.context, h.localNonce, h.lookingUp, h.verifying, by simp, by simp⟩
  | startFinished source hSource =>
      exact ⟨h.context, by simp, h.lookingUp, h.verifying, h.accepted, h.verified⟩
  | challengeAnswered source localNonce hSource hNonce =>
      exact ⟨h.context, hNonce.bytes h.localNonce, h.lookingUp, h.verifying, h.accepted,
        h.verified⟩
  | timedOut hTimer hVerified =>
      exact ⟨h.context, h.localNonce, h.lookingUp, h.verifying, h.accepted, by simp⟩
  | idledOut hTimer =>
      exact ⟨h.context, h.localNonce, h.lookingUp, h.verifying, h.accepted, by simp [requeue]⟩
  -- what is left touches nothing of the verification
  | cryptoSet | ackTaken | called | encryptionBegun | fellBack | framed | shut =>
      exact ⟨h.context, h.localNonce, h.lookingUp, h.verifying, h.accepted, h.verified⟩

end Bound

section Completed

/-- What is held once a legacy challenge was taken. -/
def legacyHeld (transport : P2PTransport ed) (frame : JsValue) : Held :=
  { transport.held with
    remoteNonce := (frame.get? "nonce").map .value
    peerDeviceId := frame.get? "device_id" }

/-- Every completion goes back to a valid response for which `checked` was true
of what was held at that moment. -/
def CompletedBy (sources : Channel → Prop) (checked : Held → Verifying → Prop)
    (transport : P2PTransport ed) : Prop :=
  ∀ completion ∈ transport.completions, ∃ task, completion.accepted = some task ∧
    task.Received sources transport.received ∧ task.Valid ed ∧ checked completion.held task

/-- The question the code leaves out, at the two places where it would have to
be asked: when a valid signature completes the handshake, and when a legacy
challenge does so after a response was accepted. -/
def Rechecked (checked : Held → Verifying → Prop) (transport : P2PTransport ed) :
    TransportInput ed → Prop
  | .verified index =>
      transport.peerVerified = false → transport.hasRemoteNonce = true →
        ∀ task, transport.verifying[index]? = some task → task.Valid ed →
          checked transport.held task
  | .message _ (.frame frame) _ =>
      typeOf frame = some "peer_verify" → (frame.get? "nonce").any truthy = true →
        (frame.get? "device_id").any truthy = true →
        transport.peerVerified = false → transport.localVerified = true →
          ∀ task, transport.accepted = some task → checked (transport.legacyHeld frame) task
  | _ => True

variable {sources : Channel → Prop} {checked : Held → Verifying → Prop}
  {transport next : P2PTransport ed} {config : TransportConfig} {runtime : Runtime}
  {input : TransportInput ed}

theorem CompletedBy.mono (hReceived : transport.received ⊆ next.received)
    (hCompletions : next.completions = transport.completions)
    (h : CompletedBy sources checked transport) : CompletedBy sources checked next := by
  intro completion hCompletion
  rw [hCompletions] at hCompletion
  obtain ⟨task, hAccepted, hTask, hValid, hChecked⟩ := h completion hCompletion
  exact ⟨task, hAccepted, hTask.mono hReceived, hValid, hChecked⟩

/-- A completion adds what is held and what was accepted last. -/
theorem CompletedBy.complete (hBound : Bound sources transport)
    (h : CompletedBy sources checked transport) (source : Channel)
    (hChecked : transport.peerVerified = false → transport.localVerified = true →
      transport.hasRemoteNonce = true →
        ∀ task, transport.accepted = some task → checked transport.held task) :
    CompletedBy sources checked (transport.complete source) := by
  rcases transport.complete_cases source with hSame | ⟨hLocal, hRemote, hComplete⟩
  · rw [hSame]
    exact h
  · rw [hComplete]
    intro completion hCompletion
    dsimp only at hCompletion
    split at hCompletion
    · exact h completion hCompletion
    · rename_i hVerified
      rcases List.mem_append.mp hCompletion with hOld | hNew
      · exact h completion hOld
      · rw [List.mem_singleton] at hNew
        obtain ⟨task, hAccepted, hTask, hValid⟩ := hBound.accepted hLocal
        subst hNew
        exact ⟨task, hAccepted, hTask, hValid,
          hChecked (by simpa using hVerified) hLocal hRemote task hAccepted⟩

theorem CompletedBy.step (hBound : Bound sources transport)
    (h : CompletedBy sources checked transport) (hGuard : Rechecked checked transport input) :
    CompletedBy sources checked (transport.step config runtime input) := by
  suffices hCore : CompletedBy sources checked (transport.step config runtime input).core from hCore
  have hEffect := step_effect config runtime transport input
  generalize (transport.step config runtime input).core = next at hEffect ⊢
  cases hEffect with
  | dropped starting challenged lookingUp received verifying hLookingUp hReceived hVerifying =>
      exact h.mono hReceived rfl
  | lookupBegun response hType => exact h.mono (List.subset_append_left _ _) rfl
  | checkBegun lookingUp received task hLookingUp hReceived hText hKnown hInput =>
      exact h.mono hReceived rfl
  | aborted lookingUp verifying hLookingUp hVerifying hInput =>
      obtain ⟨pendingAcks, requeued, hClose, -⟩ := transport.core_handleChannelClose_cases
      rw [hClose]
      exact h
  | responseAccepted task hTask hValid =>
      refine CompletedBy.complete (hBound.accept hTask hValid) ?_ _ ?_
      · exact h
      · rintro hVerified - hRemote other ⟨⟩
        exact hGuard hVerified hRemote task hTask hValid
  | @legacyAnswered channel frame nonce hType hFields =>
      refine CompletedBy.complete (hBound.takeLegacy frame) ?_ _ ?_
      · exact h
      · intro hVerified hLocal _ task hAccepted
        exact hGuard hType hFields.1 hFields.2 hVerified hLocal task hAccepted
  | legacyAccepted hType hEcho => exact absurd hEcho.1 (hBound.not_echoesNonce _)
  | wentDown hChannel =>
      obtain ⟨pendingAcks, requeued, hClose, -⟩ := transport.core_handleChannelClose_cases
      rw [hClose]
      exact h
  | _ => exact h

/-- The handshake is completed by checked responses alone wherever the question
is answered with yes. -/
theorem always_bound_completedBy (hBound : Bound sources transport)
    (h : CompletedBy sources checked transport) {inputs : List (TransportInput ed)}
    (hFrom : ∀ input ∈ inputs, From sources input)
    (hGuard : Admissible (step config runtime) (Rechecked checked) transport inputs) :
    Always (step config runtime)
      (fun transport => Bound sources transport ∧ CompletedBy sources checked transport)
      transport inputs := by
  refine Admissible.always ?_ ((admissible_of_forall hFrom).and hGuard) ⟨hBound, h⟩
  rintro transport input ⟨hBound, h⟩ ⟨hFrom, hGuard⟩
  exact ⟨hBound.step config runtime hFrom, h.step hBound hGuard⟩

end Completed

section Unanswered

/-- A frame that claims to answer the challenge. -/
def IsResponse : TransportInput ed → Prop
  | .message _ (.frame frame) _ => typeOf frame = some "verify_response"
  | _ => False

/-- Nothing was accepted, and nothing is there that could be. -/
structure Unverified (transport : P2PTransport ed) : Prop where
  bound : Bound (fun _ => True) transport
  lookingUp : transport.lookingUp = []
  verifying : transport.verifying = []
  localVerified : transport.localVerified = false
  peerVerified : transport.peerVerified = false
  status : transport.status = .matrix

variable {transport : P2PTransport ed} {config : TransportConfig} {runtime : Runtime}
  {input : TransportInput ed}

theorem Unverified.complete (h : Unverified transport) (source : Channel) :
    transport.complete source = transport := by
  rcases transport.complete_cases source with hSame | ⟨hLocal, -, -⟩
  · exact hSame
  · simp [h.localVerified] at hLocal

theorem Unverified.step (h : Unverified transport) (hFrom : From (fun _ => True) input)
    (hInput : ¬ IsResponse input) : Unverified (transport.step config runtime input) := by
  have hBound : Bound (fun _ => True) (transport.step config runtime input) :=
    h.bound.step config runtime hFrom
  suffices hCore : Unverified (transport.step config runtime input).core from
    ⟨hBound, hCore.lookingUp, hCore.verifying, hCore.localVerified, hCore.peerVerified,
      hCore.status⟩
  replace hBound := hBound.core
  have hEffect := step_effect config runtime transport input
  generalize (transport.step config runtime input).core = next at hBound hEffect ⊢
  cases hEffect with
  | dropped starting challenged lookingUp received verifying hLookingUp hReceived hVerifying =>
      rw [h.lookingUp] at hLookingUp
      rw [h.verifying] at hVerifying
      exact ⟨hBound, List.subset_nil.mp hLookingUp, List.subset_nil.mp hVerifying,
        h.localVerified, h.peerVerified, h.status⟩
  | attached localNonce starting hNonce =>
      exact ⟨hBound, h.lookingUp, h.verifying, rfl, rfl, h.status⟩
  | lookupBegun response hType => exact absurd hType hInput
  | checkBegun lookingUp received task hLookingUp hReceived hText hKnown hSource =>
      rcases hSource with ⟨frame, nonce, rfl, hType, -⟩ | ⟨index, -, hEntry⟩
      · exact absurd hType hInput
      · simp [h.lookingUp] at hEntry
  | aborted lookingUp verifying hLookingUp hVerifying hSource =>
      rcases hSource with ⟨index, key, task, -, hEntry, -⟩ | ⟨index, task, -, hTask⟩
      · simp [h.lookingUp] at hEntry
      · simp [h.verifying] at hTask
  | responseAccepted task hTask hValid => simp [h.verifying] at hTask
  | legacyAnswered hType hFields =>
      rw [Unverified.complete ⟨h.bound.takeLegacy _, h.lookingUp, h.verifying, h.localVerified,
        h.peerVerified, h.status⟩]
      exact ⟨h.bound.takeLegacy _, h.lookingUp, h.verifying, h.localVerified, h.peerVerified,
        h.status⟩
  | legacyAccepted hType hEcho => exact absurd hEcho.1 (h.bound.not_echoesNonce _)
  | wentDown hChannel =>
      obtain ⟨pendingAcks, requeued, hClose, -⟩ := transport.core_handleChannelClose_cases
      rw [hClose] at hBound ⊢
      exact ⟨hBound, h.lookingUp, h.verifying, rfl, rfl, rfl⟩
  | timedOut hTimer hVerified =>
      exact ⟨hBound, h.lookingUp, h.verifying, h.localVerified, rfl, rfl⟩
  | idledOut hTimer => exact ⟨hBound, h.lookingUp, h.verifying, h.localVerified, rfl, rfl⟩
  | _ => exact ⟨hBound, h.lookingUp, h.verifying, h.localVerified, h.peerVerified, h.status⟩

end Unanswered

section Opened

/-- A new transport with its first channel. -/
def opened (config : TransportConfig) (context : HandshakeContext) (hasCrypto : Bool)
    (hex : String) : P2PTransport ed :=
  (P2PTransport.new context hasCrypto).setDataChannel config hex

variable (config : TransportConfig) {context : HandshakeContext}
  (hContext : context.canDoV2 = true) (hasCrypto : Bool)
include hContext

theorem opened_eq (hex : String) :
    (opened config context hasCrypto hex : P2PTransport ed) =
      { P2PTransport.new context hasCrypto with
        dataChannel := some 0, attached := 1, starting := [0] } := by
  simp [opened, setDataChannel, startVerification, P2PTransport.new, hContext]

theorem bound_opened (sources : Channel → Prop) (hex : String) :
    Bound sources (opened config context hasCrypto hex : P2PTransport ed) := by
  rw [opened_eq config hContext]
  constructor <;> simp [P2PTransport.new, hContext]

theorem completedBy_opened {sources : Channel → Prop} {checked : Held → Verifying → Prop}
    (hex : String) :
    CompletedBy sources checked (opened config context hasCrypto hex : P2PTransport ed) := by
  rw [opened_eq config hContext]
  intro completion hCompletion
  cases hCompletion

theorem unverified_opened (hex : String) :
    Unverified (opened config context hasCrypto hex : P2PTransport ed) := by
  have hBound : Bound (fun _ => True) (opened config context hasCrypto hex : P2PTransport ed) :=
    bound_opened config hContext hasCrypto _ hex
  rw [opened_eq config hContext] at hBound ⊢
  exact ⟨hBound, rfl, rfl, rfl, rfl, rfl⟩

end Opened

section Handshake

/-- What the language does with the plain values below. -/
def plainRuntime : Runtime where
  toUpperCase := fun text => String.ofList (text.toList.map Char.toUpper)
  toText := fun _ => "[object Object]"
  nonceOf := fun _ => none
  outlivesAck := fun _ _ => true

def answererContext : HandshakeContext where
  roomId := some "!room:x"
  sessionUuid := some "s1"
  callId := some "c1"
  offerSdp := some "a=fingerprint:sha-256 AA"
  answerSdp := some "a=fingerprint:sha-256 BB"
  weAreOfferer := false

def workerConfig : TransportConfig := ⟨"WORKER", true, true⟩

def clientConfig : TransportConfig := ⟨"CLIENT", true, true⟩

def workerNonce : Nonce := Vector.replicate _ 1

def clientNonce : Nonce := Vector.replicate _ 2

def workerHeld : Held :=
  ⟨answererContext, some (.bytes workerNonce), some (.bytes clientNonce.toList),
    some (.str clientConfig.localDeviceId)⟩

/-- The text both ends sign. -/
def signedText : Bytes :=
  (workerHeld.transcriptText plainRuntime workerConfig.localDeviceId "").getD []

theorem extractSdpFingerprint_offer :
    extractSdpFingerprint plainRuntime "a=fingerprint:sha-256 AA" = some "AA" := by
  decide +kernel

theorem extractSdpFingerprint_answer :
    extractSdpFingerprint plainRuntime "a=fingerprint:sha-256 BB" = some "BB" := by
  decide +kernel

theorem workerHeld_transcriptText (fallback : String) :
    workerHeld.transcriptText plainRuntime workerConfig.localDeviceId fallback =
      some signedText := by
  rw [Held.transcriptText_fallback rfl (by decide)]
  obtain ⟨text, hText⟩ : ∃ text,
      workerHeld.transcriptText plainRuntime workerConfig.localDeviceId "" = some text :=
    @Held.exists_transcriptText plainRuntime workerHeld _ _ _ _ extractSdpFingerprint_offer
      extractSdpFingerprint_answer rfl (RemoteNonce.nonce?_bytes plainRuntime clientNonce) _ _
  rw [signedText, hText]
  rfl

abbrev scheme : Ed25519 := .marking signedText

def workerKey : scheme.SigningKey := (3 : UInt8)

def clientKey : scheme.SigningKey := (7 : UInt8)

def clientResponse : Response :=
  ⟨scheme.sign clientKey signedText, scheme.publicKey clientKey, clientConfig.localDeviceId⟩

/-- The handshake of the worker's end up to the check of the client's response. -/
def checkInputs (known : Option PublicKey) : List (TransportInput scheme) :=
  [.started 0 workerKey workerNonce,
    .message 0 (.frame (challengeFrame clientConfig clientNonce)) workerNonce,
    .message 0 (.frame (responseFrame clientConfig clientKey signedText)) workerNonce,
    .lookedUp 0 known]

def workerStart : P2PTransport scheme := opened workerConfig answererContext true ""

theorem run_checkInputs {known : Option PublicKey}
    (hKnown : known = none ∨ known = some clientResponse.signerPk) :
    run (step workerConfig plainRuntime) workerStart (checkInputs known) =
      { (P2PTransport.new answererContext true : P2PTransport scheme) with
        dataChannel := some 0, attached := 1, localNonce := workerHeld.localNonce
        remoteNonce := workerHeld.remoteNonce, peerDeviceId := workerHeld.peerDeviceId
        ephemeralKeypair := some workerKey, verifyTimer := some 0, verifyTimers := [⟨0, 0⟩]
        timersSet := 1, signing := [(0, responseFrame workerConfig workerKey signedText)]
        verifying := [⟨0, clientResponse, known, signedText⟩]
        received := [(0, clientResponse)], sent := [(0, challengeFrame workerConfig workerNonce)]
        transcripts := [workerHeld, workerHeld] } := by
  have hText := workerHeld_transcriptText
  have hContext : answererContext.canDoV2 = true := rfl
  have hLookup : workerConfig.hasLookup = true := rfl
  rw [workerStart, opened_eq workerConfig hContext]
  simp only [workerHeld] at hText ⊢
  rcases hKnown with rfl | rfl <;>
    simp [run, checkInputs, step, P2PTransport.new, finishStart, sendControlFrame, setVerifyTimer,
      handleDataChannelMessage, touch, handleFrame_challengeFrame, handleFrame_responseFrame,
      answerChallenge, sendVerifyResponse, hasRemoteNonce, RemoteNonce.truthy, held, hContext,
      hText, hLookup, handleLookup, checkSignature, clientResponse]

theorem clientResponse_valid (known : Option PublicKey) :
    (⟨0, clientResponse, known, signedText⟩ : Verifying).Valid scheme :=
  Verifying.valid_of_sign (P2P.Ed25519.marking_correct signedText) clientKey signedText 0
    clientConfig.localDeviceId known

/-- A valid response completes the handshake under whatever is held by then. -/
theorem completions_verified {transport : P2PTransport ed} {task : Verifying}
    (config : TransportConfig) (runtime : Runtime) (hVerifying : transport.verifying = [task])
    (hValid : task.Valid ed) (hRemote : transport.hasRemoteNonce = true)
    (hVerified : transport.peerVerified = false) :
    (transport.step config runtime (.verified 0)).completions =
      transport.completions ++ [⟨transport.held, some task⟩] := by
  obtain ⟨key, hKey, hSignature⟩ := hValid
  simp only [step, hVerifying, List.getElem?_cons_zero, List.eraseIdx, handleVerified, hKey,
    hSignature, ↓reduceIte]
  exact checkVerificationComplete_completions config task.channel rfl hRemote hVerified

theorem admissible_checkInputs {checked : Held → Verifying → Prop} {known : Option PublicKey} :
    Admissible (step workerConfig plainRuntime) (Rechecked checked) workerStart
      (checkInputs known) := by
  have hChallenge := typeOf_challengeFrame clientConfig clientNonce
  have hResponse := typeOf_responseFrame clientConfig clientKey signedText
  refine ⟨trivial, fun hType => ?_, fun hType => ?_, trivial, trivial⟩
  · simp [hChallenge] at hType
  · simp [hResponse] at hType

theorem checkedOver_checkInputs {known : Option PublicKey}
    (hKnown : known = none ∨ known = some clientResponse.signerPk) {task : Verifying}
    (hTask : (run (step workerConfig plainRuntime) workerStart (checkInputs known)).verifying[0]? =
      some task) :
    task.known = known ∧ CheckedOver workerConfig plainRuntime
      (run (step workerConfig plainRuntime) workerStart (checkInputs known)).held task := by
  rw [run_checkInputs hKnown] at hTask ⊢
  obtain rfl : ⟨0, clientResponse, known, signedText⟩ = task := Option.some.inj hTask
  refine ⟨rfl, ?_⟩
  simp only [CheckedOver, held, P2PTransport.new]
  exact workerHeld_transcriptText clientResponse.deviceId

theorem completions_checkInputs {known : Option PublicKey}
    (hKnown : known = none ∨ known = some clientResponse.signerPk) :
    (run (step workerConfig plainRuntime) workerStart
        (checkInputs known ++ [.verified 0])).completions =
      [⟨workerHeld, some ⟨0, clientResponse, known, signedText⟩⟩] := by
  rw [run_concat, run_checkInputs hKnown]
  exact completions_verified workerConfig plainRuntime rfl (clientResponse_valid known) rfl rfl

def legacyChallenge : JsValue :=
  .obj [("type", .str "peer_verify"), ("nonce", .str "x"), ("device_id", .str "d")]

/-- The same handshake with a legacy challenge before the check is over. -/
def replacedInputs : List (TransportInput scheme) :=
  checkInputs (some clientResponse.signerPk) ++
    [.message 0 (.frame legacyChallenge) workerNonce, .verified 0]

theorem completions_replacedInputs :
    (run (step workerConfig plainRuntime) workerStart replacedInputs).completions =
      [⟨⟨answererContext, some (.bytes workerNonce), some (.value (.str "x")), some (.str "d")⟩,
        some ⟨0, clientResponse, some clientResponse.signerPk, signedText⟩⟩] := by
  rw [replacedInputs, run_append, run_checkInputs (.inr rfl), run_cons, run_cons, run_nil]
  exact completions_verified workerConfig plainRuntime rfl (clientResponse_valid _) rfl rfl

end Handshake

section Authentication

variable (config : TransportConfig) (runtime : Runtime)

/-- The transport has this one channel, and its context stays complete. -/
def OnChannel (channel : Channel) : TransportInput ed → Prop
  | .setDataChannel _ => False
  | input => From (· = channel) input

theorem OnChannel.from {channel : Channel} {input : TransportInput ed}
    (h : OnChannel channel input) : From (· = channel) input := by
  cases input with
  | setDataChannel hex => trivial
  | _ => exact h

theorem From.mono {first second : Channel → Prop} {input : TransportInput ed}
    (hSources : ∀ channel, first channel → second channel) (h : From first input) :
    From second input := by
  cases input with
  | message channel message nonce => exact hSources channel h
  | _ => exact h

/-- Whenever the peer became verified, the channel had delivered a response
with a valid signature over the transcript of the nonces held at that moment. -/
structure Authenticated (channel : Channel) (transport : P2PTransport ed) : Prop where
  completions : ∀ completion ∈ transport.completions, ∃ response,
    (channel, response) ∈ transport.received ∧
      SignedOver ed config runtime completion.held response
  verified : transport.peerVerified = true ∨ transport.status = .p2p → transport.completions ≠ []

/-- The same, and the lookup had found for the device of the response the key
that the response carries. -/
structure KeyBound (transport : P2PTransport ed) : Prop where
  completions : ∀ completion ∈ transport.completions, ∃ task,
    completion.accepted = some task ∧ (task.channel, task.response) ∈ transport.received ∧
      task.known = some task.response.signerPk ∧
      SignedOver ed config runtime completion.held task.response
  verified : transport.peerVerified = true ∨ transport.status = .p2p → transport.completions ≠ []

/-- The transcript is the one that is held, and a key is known. -/
def CheckedWithKey (held : Held) (task : Verifying) : Prop :=
  CheckedOver config runtime held task ∧ task.known.isSome = true

variable {context : HandshakeContext}

/-- On one channel a legacy frame never stands in for a response, and without a
response no peer is ever verified. A response may still be accepted under other
nonces than those it was checked with, where they were replaced meanwhile. -/
theorem always_authenticated (hContext : context.canDoV2 = true) (hasCrypto : Bool)
    (hex : String) (inputs : List (TransportInput ed))
    (hInputs : ∀ input ∈ inputs, OnChannel 0 input) :
    (Admissible (step config runtime) (Rechecked (CheckedOver config runtime))
        (opened config context hasCrypto hex) inputs →
      Always (step config runtime) (Authenticated config runtime 0)
        (opened config context hasCrypto hex) inputs) ∧
    ((∀ input ∈ inputs, ¬ IsResponse input) →
      Always (step config runtime)
        (fun transport => transport.peerVerified = false ∧ transport.status = .matrix)
        (opened config context hasCrypto hex) inputs) := by
  have hFrom : ∀ input ∈ inputs, From (· = 0) input := fun input hInput =>
    (hInputs input hInput).from
  constructor
  · intro hGuard
    have hRun := always_bound_completedBy (bound_opened config hContext hasCrypto _ hex)
      (completedBy_opened config hContext hasCrypto hex) hFrom hGuard
    refine hRun.mono ?_
    rintro transport ⟨hBound, hCompleted⟩
    refine ⟨fun completion hCompletion => ?_, hBound.verified⟩
    obtain ⟨task, -, hTask, hValid, hChecked⟩ := hCompleted completion hCompletion
    have hChannel : task.channel = 0 := hTask.source
    exact ⟨task.response, hChannel ▸ hTask.received, hChecked.signedOver hValid⟩
  · intro hNone
    have hStart : Unverified (opened config context hasCrypto hex : P2PTransport ed) :=
      unverified_opened config hContext hasCrypto hex
    have hAccepts : ∀ input ∈ inputs, From (fun _ => True) input ∧ ¬ IsResponse input :=
      fun input hInput =>
        ⟨(hFrom input hInput).mono fun _ _ => trivial, hNone input hInput⟩
    refine ((admissible_of_forall hAccepts).always ?_ hStart).mono ?_
    · rintro transport input h ⟨hSource, hInput⟩
      exact h.step hSource hInput
    · intro transport h
      exact ⟨h.peerVerified, h.status⟩

/-- The undisturbed handshake: nothing is replaced while the response is checked. -/
theorem always_authenticated_of_handshake :
    (run (step workerConfig plainRuntime) workerStart
        (checkInputs (some clientResponse.signerPk) ++ [.verified 0])).completions.length = 1 ∧
      Always (step workerConfig plainRuntime) (Authenticated workerConfig plainRuntime 0)
        workerStart (checkInputs (some clientResponse.signerPk) ++ [.verified 0]) := by
  refine ⟨by rw [completions_checkInputs (.inr rfl)]; rfl, ?_⟩
  refine (always_authenticated workerConfig plainRuntime rfl true "" _ ?_).1 ?_
  · simp [checkInputs, OnChannel, From]
  · refine admissible_checkInputs.append ⟨?_, trivial⟩
    intro _ _ task hTask _
    exact (checkedOver_checkInputs (.inr rfl) hTask).2

/-- A legacy challenge arrives while the signature of the response is checked.
The handshake is completed, and there is no transcript of what is held then. -/
theorem not_always_authenticated :
    answererContext.canDoV2 = true ∧
      (∀ input ∈ replacedInputs, OnChannel 0 input) ∧
      ¬ Always (step workerConfig plainRuntime) (Authenticated workerConfig plainRuntime 0)
        workerStart replacedInputs := by
  refine ⟨rfl, by simp [replacedInputs, checkInputs, OnChannel, From], fun h => ?_⟩
  have hCompletions := h.last.completions
  rw [completions_replacedInputs] at hCompletions
  obtain ⟨response, -, text, -, hText, -⟩ := hCompletions _ (List.mem_singleton_self _)
  simp [Held.transcriptText, RemoteNonce.nonce?, plainRuntime] at hText

/-- A response is accepted under a key that the lookup knows only where the
lookup knows one; otherwise the key of the frame is taken for it. -/
theorem always_keyBound (hContext : context.canDoV2 = true) (hasCrypto : Bool)
    (inputs : List (TransportInput ed))
    (hInputs : ∀ input ∈ inputs, From (fun _ => True) input)
    (hGuard : Admissible (step config runtime) (Rechecked (CheckedWithKey config runtime))
      (P2PTransport.new context hasCrypto) inputs) :
    Always (step config runtime) (KeyBound config runtime)
      (P2PTransport.new context hasCrypto) inputs := by
  have hRun := always_bound_completedBy (bound_new hContext hasCrypto)
    (fun completion hCompletion => nomatch hCompletion) hInputs hGuard
  refine hRun.mono ?_
  rintro transport ⟨hBound, hCompleted⟩
  refine ⟨fun completion hCompletion => ?_, hBound.verified⟩
  obtain ⟨task, hAccepted, hTask, hValid, hChecked, hKnown⟩ := hCompleted completion hCompletion
  refine ⟨task, hAccepted, hTask.received, ?_, hChecked.signedOver hValid⟩
  rcases hTask.known with hNone | hSome
  · simp [hNone] at hKnown
  · exact hSome

/-- The lookup finds the client's key. -/
theorem always_keyBound_of_known :
    (run (step workerConfig plainRuntime) workerStart
        (checkInputs (some clientResponse.signerPk) ++ [.verified 0])).completions.length = 1 ∧
      Always (step workerConfig plainRuntime) (KeyBound workerConfig plainRuntime)
        (P2PTransport.new answererContext true : P2PTransport scheme)
        (.setDataChannel "" :: (checkInputs (some clientResponse.signerPk) ++ [.verified 0])) := by
  refine ⟨by rw [completions_checkInputs (.inr rfl)]; rfl, ?_⟩
  refine always_keyBound workerConfig plainRuntime rfl true _ ?_ ⟨trivial, ?_⟩
  · simp [checkInputs, From]
  · refine admissible_checkInputs.append ⟨?_, trivial⟩
    intro _ _ task hTask _
    obtain ⟨hKnown, hChecked⟩ := checkedOver_checkInputs (.inr rfl) hTask
    exact ⟨hChecked, by rw [hKnown]; rfl⟩

/-- The lookup knows no key for the device. Whoever answers with a key of their
own is then taken for the peer. -/
theorem not_always_keyBound :
    answererContext.canDoV2 = true ∧
      ¬ Always (step workerConfig plainRuntime) (KeyBound workerConfig plainRuntime)
        (P2PTransport.new answererContext true : P2PTransport scheme)
        (.setDataChannel "" :: (checkInputs none ++ [.verified 0])) := by
  refine ⟨rfl, fun h => ?_⟩
  have hCompletions := h.2.last.completions
  have hStart : step workerConfig plainRuntime (P2PTransport.new answererContext true)
      (.setDataChannel "") = workerStart := rfl
  rw [hStart, completions_checkInputs (.inl rfl)] at hCompletions
  obtain ⟨task, hAccepted, -, hKnown, -⟩ := hCompletions _ (List.mem_singleton_self _)
  obtain rfl := Option.some.inj hAccepted
  cases hKnown

end Authentication

end P2PTransport

end Mxdx.Core
