import Mxdx.Core.P2PVerification

/-! Replaced channels. `setDataChannel` resets the state of the verification,
but only the close callback asks whether its channel is still the current one:
what exactly the frames and the suspended handlers of the others can change. -/
namespace Mxdx.Core.P2PTransport

open Automaton
open P2P (Ed25519 Nonce PublicKey)

variable {ed : Ed25519}

/-- The state of the verification of the current channel. -/
structure Verification where
  localNonce : Option LocalNonce
  remoteNonce : Option RemoteNonce
  peerDeviceId : Option JsValue
  localVerified : Bool
  peerVerified : Bool
  status : Status

/-- What the verification of the peer has come to. -/
def verification (transport : P2PTransport ed) : Verification :=
  ⟨transport.localNonce, transport.remoteNonce, transport.peerDeviceId, transport.localVerified,
    transport.peerVerified, transport.status⟩

/-- The channel a frame or a close comes from, or a handler was started for. -/
def sourceOf (transport : P2PTransport ed) : TransportInput ed → Option Channel
  | .message channel _ _ => some channel
  | .channelClosed channel => some channel
  | .started index _ _ => transport.starting[index]?
  | .startFailed index => transport.starting[index]?
  | .challengeReady index _ _ => transport.challenged[index]?
  | .challengeFailed index => transport.challenged[index]?
  | .signed index => transport.signing[index]?.map (·.1)
  | .signFailed index => transport.signing[index]?.map (·.1)
  | .lookedUp index _ => transport.lookingUp[index]?.map (·.1)
  | .lookupFailed index => transport.lookingUp[index]?.map (·.1)
  | .verified index => transport.verifying[index]?.map (·.channel)
  | .verifyFailed index => transport.verifying[index]?.map (·.channel)
  | .encrypted index _ => transport.encrypting[index]?.map (·.1)
  | _ => none

/-- The input belongs to a channel that has been replaced. -/
def Stale (transport : P2PTransport ed) (input : TransportInput ed) : Prop :=
  ∃ source current, transport.sourceOf input = some source ∧
    transport.dataChannel = some current ∧ source ≠ current

/-- Accepting a response changes nothing any more. -/
def Settled (transport : P2PTransport ed) : Prop :=
  transport.localVerified = true ∧
    (transport.hasRemoteNonce = true → transport.peerVerified = true ∧ transport.status = .p2p)

/-- Giving up the channel changes nothing of the verification. -/
def Unsettled (transport : P2PTransport ed) : Prop :=
  transport.localVerified = false ∧ transport.peerVerified = false ∧ transport.status = .matrix

/-- The frames that leave the verification as it is: those of another type, and
those that repeat what is held. -/
def KeepsFrame (transport : P2PTransport ed) (frame : JsValue) : Prop :=
  match typeOf frame with
  | some "verify_challenge" =>
      ∀ peerNonce deviceId, parseChallengeFrame (frameOf frame) = .ok (peerNonce, deviceId) →
        transport.remoteNonce = some (.bytes peerNonce) ∧
        transport.peerDeviceId = some (.str deviceId) ∧
        (transport.ephemeralKeypair.isSome = true → transport.localNonce.isSome = true)
  | some "peer_verify" =>
      transport.remoteNonce = (frame.get? "nonce").map .value ∧
        transport.peerDeviceId = frame.get? "device_id" ∧
        ((frame.get? "nonce").any truthy = true → (frame.get? "device_id").any truthy = true →
          transport.localVerified = true → transport.peerVerified = true ∧ transport.status = .p2p)
  | some "peer_verify_response" =>
      transport.echoesNonce frame = true → (frame.get? "device_id").any truthy = true →
        transport.Settled
  | _ => True

/-- What an input of a replaced channel must not do: bring a frame that is not
among those, finish generating a key before there is a nonce, find a response
valid that is not accepted yet, or give up a channel that is still up. -/
def Harmless (transport : P2PTransport ed) : TransportInput ed → Prop
  | .message _ (.frame frame) _ => transport.KeepsFrame frame
  | .started _ _ nonce => transport.localNonce = some (.bytes nonce)
  | .challengeReady _ _ _ => transport.localNonce.isSome = true
  | .lookedUp index (some key) =>
      ∀ task, transport.lookingUp[index]? = some task → key ≠ task.2.signerPk →
        transport.Unsettled
  | .verified index =>
      ∀ task key, transport.verifying[index]? = some task →
        ed.fromBytes task.response.signerPk = .ok key →
        if ed.verify key task.text task.response.signature then transport.Settled
        else transport.Unsettled
  | _ => True

section Steps

variable (config : TransportConfig) (runtime : Runtime) (transport : P2PTransport ed)

/-- Nothing of the verification is outside the core. -/
theorem verification_of_core {first second : P2PTransport ed} (h : first.core = second.core) :
    first.verification = second.verification :=
  congrArg (fun transport => transport.verification) h

theorem verification_handleChannelClose :
    transport.handleChannelClose.verification =
      { transport.verification with
        localVerified := false, peerVerified := false, status := .matrix } := by
  obtain ⟨pendingAcks, requeued, hClose, -⟩ := transport.core_handleChannelClose_cases
  have hCore := congrArg verification (transport.core_handleChannelClose.trans hClose)
  exact hCore

theorem verification_abort_iff :
    transport.abort.verification = transport.verification ↔ transport.Unsettled := by
  have hAbort : transport.abort.verification = transport.handleChannelClose.verification := rfl
  rw [hAbort, verification_handleChannelClose]
  simp only [verification, Verification.mk.injEq, Unsettled]
  grind

theorem verification_checkVerificationComplete (source : Channel) :
    (transport.checkVerificationComplete config source).verification =
      if transport.localVerified && transport.hasRemoteNonce then
        { transport.verification with peerVerified := true, status := .p2p }
      else transport.verification := by
  have hCore := congrArg verification (transport.core_checkVerificationComplete config source)
  have hComplete : (transport.checkVerificationComplete config source).verification =
      (transport.core.complete source).verification := hCore
  have hCondition : (transport.core.localVerified && transport.core.hasRemoteNonce) =
      (transport.localVerified && transport.hasRemoteNonce) := rfl
  rw [hComplete, complete, hCondition]
  split
  · rfl
  · rfl

theorem verification_sendControlFrame_complete (frame : JsValue) (source : Channel) :
    ((transport.sendControlFrame frame).checkVerificationComplete config source).verification =
      (transport.checkVerificationComplete config source).verification := by
  apply verification_of_core
  rw [core_checkVerificationComplete, core_checkVerificationComplete, core_sendControlFrame]

/-- Accepting a response, and asking then whether the verification is complete. -/
theorem verification_accept_iff (verifying : List Verifying) (accepted : Option Verifying)
    (source : Channel) :
    ({ transport with verifying, localVerified := true, accepted }.checkVerificationComplete config
      source).verification = transport.verification ↔ transport.Settled := by
  have hRemote : hasRemoteNonce { transport with verifying, localVerified := true, accepted } =
      transport.hasRemoteNonce := rfl
  rw [verification_checkVerificationComplete, hRemote]
  cases hHas : transport.hasRemoteNonce with
  | false =>
      simp only [verification, Settled, hHas]
      grind
  | true =>
      simp only [verification, Settled, hHas]
      grind

theorem verification_answerChallenge (source : Channel) (nonce : Nonce) :
    (transport.answerChallenge config runtime source nonce).verification =
      { transport.verification with
        localNonce := transport.localNonce.or (some (.bytes nonce)) } := by
  unfold answerChallenge
  rw [verification_of_core (core_sendVerifyResponse config runtime _ source)]
  cases hNonce : transport.localNonce with
  | none =>
      simp only [Option.isNone_none, ↓reduceIte]
      rw [verification_of_core (core_sendControlFrame _ _)]
      rfl
  | some known =>
      simp [verification, hNonce]

theorem verification_answerChallenge_iff (source : Channel) (nonce : Nonce) :
    (transport.answerChallenge config runtime source nonce).verification =
      transport.verification ↔ transport.localNonce.isSome = true := by
  rw [verification_answerChallenge]
  cases hNonce : transport.localNonce with
  | none => simp [verification, hNonce]
  | some known => simp [verification, hNonce]

theorem verification_handleVerifyChallenge_iff (source : Channel) (frame : JsValue)
    (nonce : Nonce) :
    (transport.handleVerifyChallenge config runtime source frame nonce).verification =
        transport.verification ↔
      ∀ peerNonce deviceId, parseChallengeFrame (frameOf frame) = .ok (peerNonce, deviceId) →
        transport.remoteNonce = some (.bytes peerNonce) ∧
        transport.peerDeviceId = some (.str deviceId) ∧
        (transport.ephemeralKeypair.isSome = true → transport.localNonce.isSome = true) := by
  unfold handleVerifyChallenge
  split
  · rename_i peerNonce deviceId hParse
    cases hKey : transport.ephemeralKeypair with
    | none =>
        simp only [Option.isNone_none, ↓reduceIte, verification, Verification.mk.injEq]
        grind
    | some keypair =>
        simp only [Option.isNone_some, Bool.false_eq_true, ↓reduceIte]
        rw [verification_answerChallenge]
        simp only [verification, Verification.mk.injEq]
        cases hNonce : transport.localNonce with
        | none => grind
        | some known => grind
  · rename_i error hParse
    refine iff_of_true rfl fun peerNonce deviceId hOk => ?_
    rw [hParse] at hOk
    cases hOk

theorem verification_handlePeerVerify_iff (source : Channel) (frame : JsValue) :
    (transport.handlePeerVerify config source frame).verification = transport.verification ↔
      transport.remoteNonce = (frame.get? "nonce").map .value ∧
        transport.peerDeviceId = frame.get? "device_id" ∧
        ((frame.get? "nonce").any truthy = true → (frame.get? "device_id").any truthy = true →
          transport.localVerified = true →
            transport.peerVerified = true ∧ transport.status = .p2p) := by
  unfold handlePeerVerify
  split
  · rename_i hFields
    rw [Bool.and_eq_true] at hFields
    have hRemote : ((frame.get? "nonce").map RemoteNonce.value).any RemoteNonce.truthy = true := by
      rw [Option.any_map]
      exact hFields.1
    dsimp only
    rw [verification_sendControlFrame_complete, verification_checkVerificationComplete]
    simp only [hasRemoteNonce, hRemote, Bool.and_true, verification, hFields, forall_const]
    cases hLocal : transport.localVerified with
    | false => grind
    | true => grind
  · rename_i hFields
    rw [Bool.and_eq_true] at hFields
    simp only [verification, Verification.mk.injEq]
    grind

theorem verification_checkSignature (source : Channel) (response : Response)
    (known : Option PublicKey) :
    (transport.checkSignature config runtime source response known).verification =
      transport.verification := by
  unfold checkSignature
  split
  · rfl
  · rfl

theorem verification_handleVerifyResponse (source : Channel) (frame : JsValue) :
    (transport.handleVerifyResponse config runtime source frame).verification =
      transport.verification := by
  unfold handleVerifyResponse
  split
  · rfl
  · split
    · split
      · rfl
      · exact verification_checkSignature ..
    · rfl

theorem verification_handlePeerVerifyResponse_iff (source : Channel) (frame : JsValue) :
    (transport.handlePeerVerifyResponse config source frame).verification =
        transport.verification ↔
      (transport.echoesNonce frame = true → (frame.get? "device_id").any truthy = true →
        transport.Settled) := by
  unfold handlePeerVerifyResponse
  split
  · rename_i hEcho
    rw [Bool.and_eq_true] at hEcho
    have hAccept := verification_accept_iff config transport transport.verifying none source
    rw [hAccept]
    exact ⟨fun h _ _ => h, fun h => h hEcho.1 hEcho.2⟩
  · rename_i hEcho
    rw [Bool.and_eq_true] at hEcho
    exact iff_of_true rfl fun hOurs hDevice => absurd ⟨hOurs, hDevice⟩ hEcho

theorem verification_handleFrame_iff (source : Channel) (frame : JsValue) (nonce : Nonce) :
    (transport.handleFrame config runtime source frame nonce).verification =
      transport.verification ↔ transport.KeepsFrame frame := by
  unfold handleFrame KeepsFrame typeOf
  split
  · rename_i hType
    rw [hType]
    exact iff_of_true rfl trivial
  · rename_i hType
    rw [hType]
    exact iff_of_true (verification_of_core (core_sendControlFrame _ _)) trivial
  · rename_i hType
    rw [hType]
    exact verification_handleVerifyChallenge_iff ..
  · rename_i hType
    rw [hType]
    exact iff_of_true (verification_handleVerifyResponse ..) trivial
  · rename_i hType
    rw [hType]
    exact verification_handlePeerVerify_iff ..
  · rename_i hType
    rw [hType]
    exact verification_handlePeerVerifyResponse_iff ..
  · rename_i hChallenge _ hLegacy hEcho
    refine iff_of_true rfl ?_
    split
    · exact absurd ‹_› hChallenge
    · exact absurd ‹_› hLegacy
    · exact absurd ‹_› hEcho
    · trivial

theorem verification_message_iff (source : Channel) (message : Message) (nonce : Nonce) :
    (transport.step config runtime (.message source message nonce)).verification =
      transport.verification ↔ transport.Harmless (.message source message nonce) := by
  obtain ⟨idleTimer, hTouch⟩ := transport.touch_fields config
  simp only [step]
  cases message with
  | oversized => exact iff_of_true rfl trivial
  | unparsable =>
      simp only [handleDataChannelMessage, hTouch]
      exact iff_of_true rfl trivial
  | frame value =>
      simp only [handleDataChannelMessage, hTouch]
      exact verification_handleFrame_iff config runtime { transport with idleTimer } source value
        nonce

theorem verification_lookedUp_iff {index : Nat} (known : Option PublicKey)
    {task : Channel × Response} (hTask : transport.lookingUp[index]? = some task) :
    (transport.step config runtime (.lookedUp index known)).verification =
      transport.verification ↔ transport.Harmless (.lookedUp index known) := by
  simp only [step, hTask, handleLookup]
  cases known with
  | none => exact iff_of_true (verification_checkSignature ..) trivial
  | some key =>
      simp only [Harmless, hTask, Option.some.injEq, forall_eq']
      split
      · rename_i hKey
        exact iff_of_true (verification_checkSignature ..) fun hNe => absurd hKey hNe
      · rename_i hKey
        have hAbort := verification_abort_iff
          { transport with lookingUp := transport.lookingUp.eraseIdx index }
        exact hAbort.trans ⟨fun h _ => h, fun h => h hKey⟩

theorem verification_verified_iff {index : Nat} {task : Verifying}
    (hTask : transport.verifying[index]? = some task) :
    (transport.step config runtime (.verified index)).verification = transport.verification ↔
      transport.Harmless (.verified index) := by
  simp only [step, hTask, handleVerified, Harmless, Option.some.injEq]
  cases hKey : ed.fromBytes task.response.signerPk with
  | error text =>
      refine iff_of_true rfl ?_
      rintro _ key rfl hOk
      rw [hKey] at hOk
      cases hOk
  | ok key =>
      have hOnly : (∀ other key', task = other → ed.fromBytes other.response.signerPk = .ok key' →
            if ed.verify key' other.text other.response.signature then transport.Settled
            else transport.Unsettled) ↔
          if ed.verify key task.text task.response.signature then transport.Settled
          else transport.Unsettled := by
        constructor
        · intro h
          exact h task key rfl hKey
        · rintro h _ key' rfl hOk
          rw [hKey] at hOk
          cases hOk
          exact h
      rw [hOnly]
      dsimp only
      split
      · exact verification_accept_iff config transport _ (some task) task.channel
      · exact verification_abort_iff
          { transport with verifying := transport.verifying.eraseIdx index }

/-- What a step of a replaced channel does not change is the verification,
exactly where the input is harmless. -/
theorem verification_step_iff {input : TransportInput ed} (hStale : transport.Stale input) :
    (transport.step config runtime input).verification = transport.verification ↔
      transport.Harmless input := by
  obtain ⟨source, current, hSource, hCurrent, hOther⟩ := hStale
  cases input with
  | message channel message nonce =>
      exact verification_message_iff config runtime transport channel message nonce
  | channelClosed channel =>
      obtain rfl : channel = source := Option.some.inj hSource
      have hNot : transport.dataChannel ≠ some channel := by
        rw [hCurrent]
        exact fun h => hOther (Option.some.inj h).symm
      rw [step, if_neg hNot]
      exact iff_of_true rfl trivial
  | started index keypair nonce =>
      rw [sourceOf] at hSource
      simp only [step, hSource, finishStart]
      rw [verification_of_core (core_setVerifyTimer _ _),
        verification_of_core (core_sendControlFrame _ _)]
      simp only [verification, Verification.mk.injEq, Harmless, and_true]
      exact eq_comm
  | startFailed index => exact iff_of_true rfl trivial
  | challengeReady index keypair nonce =>
      rw [sourceOf] at hSource
      simp only [step, hSource]
      exact verification_answerChallenge_iff config runtime _ source nonce
  | challengeFailed index => exact iff_of_true rfl trivial
  | signed index =>
      obtain ⟨task, hTask, -⟩ := Option.map_eq_some_iff.mp hSource
      simp only [step, hTask]
      exact iff_of_true (verification_of_core (core_sendControlFrame _ _)) trivial
  | signFailed index => exact iff_of_true rfl trivial
  | lookedUp index known =>
      obtain ⟨task, hTask, -⟩ := Option.map_eq_some_iff.mp hSource
      exact verification_lookedUp_iff config runtime transport known hTask
  | lookupFailed index => exact iff_of_true rfl trivial
  | verified index =>
      obtain ⟨task, hTask, -⟩ := Option.map_eq_some_iff.mp hSource
      exact verification_verified_iff config runtime transport hTask
  | verifyFailed index => exact iff_of_true rfl trivial
  | encrypted index outcome =>
      obtain ⟨task, hTask, -⟩ := Option.map_eq_some_iff.mp hSource
      simp only [step, hTask, finishSend]
      refine iff_of_true ?_ trivial
      split
      · rfl
      · rfl
  | _ => cases hSource

end Steps

section Runs

variable (config : TransportConfig) (runtime : Runtime)

/-- An input of a replaced channel leaves the verification as it is. -/
def Isolated (transport : P2PTransport ed) (input : TransportInput ed) : Prop :=
  transport.Stale input →
    (transport.step config runtime input).verification = transport.verification

/-- In any run, whatever is left of replaced channels leaves the verification
alone exactly as long as it does none of the things that `Harmless` rules out. -/
theorem admissible_isolated_iff (start : P2PTransport ed) (inputs : List (TransportInput ed)) :
    Admissible (step config runtime) (Isolated config runtime) start inputs ↔
      Admissible (step config runtime)
        (fun transport input => transport.Stale input → transport.Harmless input) start inputs := by
  refine @admissible_congr _ _ (step config runtime) _ _ (fun _ => True) ?_ ?_ _ trivial inputs
  · exact fun _ _ _ => trivial
  · intro transport input _
    exact forall_congr' fun hStale => verification_step_iff config runtime transport hStale

/-- A frame of a replaced channel sets the peer's nonce and device for the next
one, and a key generated for a replaced channel sets our own nonce. -/
theorem not_admissible_isolated :
    ¬ Admissible (step workerConfig plainRuntime) (Isolated workerConfig plainRuntime)
        (P2PTransport.new answererContext true : P2PTransport scheme)
        [.setDataChannel "", .setDataChannel "", .message 0 (.frame legacyChallenge) workerNonce] ∧
      ¬ Admissible (step workerConfig plainRuntime) (Isolated workerConfig plainRuntime)
        (P2PTransport.new answererContext true : P2PTransport scheme)
        [.setDataChannel "", .setDataChannel "", .started 0 workerKey workerNonce] := by
  constructor
  · rintro ⟨-, -, hFrame, -⟩
    have hSame := congrArg (fun state => state.peerDeviceId.isSome)
      (hFrame ⟨0, 1, rfl, rfl, by decide⟩)
    cases hSame
  · rintro ⟨-, -, hStarted, -⟩
    have hSame := congrArg (fun state => state.localNonce.isSome)
      (hStarted ⟨0, 1, rfl, rfl, by decide⟩)
    cases hSame

end Runs

end Mxdx.Core.P2PTransport
