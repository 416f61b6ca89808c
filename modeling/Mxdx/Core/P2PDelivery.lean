import Mxdx.Core.P2PVerification

/-! Where the events go. No call of `sendEvent` is lost or sent twice; what the
code leaves open is which channel is there when an encryption is over, and who
sends the unacknowledged events again when a timeout ends the channel. -/
namespace Mxdx.Core

open Automaton
open P2P (Ed25519)

variable {ed : Ed25519}

/-- The event that went this way. -/
def Route.event : Route → TerminalEvent
  | matrix event => event
  | channel _ event _ _ => event

/-- The event of a frame on a channel. -/
def Route.framed? : Route → Option TerminalEvent
  | matrix _ => none
  | channel _ event _ _ => some event

namespace P2PTransport

variable {config : TransportConfig} {runtime : Runtime} {transport : P2PTransport ed}
  {input : TransportInput ed}

section Accounting

/-- Every call is on exactly one way, and every frame is acknowledged, waits for
its acknowledgement or was handed to Matrix. -/
structure Accounted (transport : P2PTransport ed) : Prop where
  calls : ((transport.routed.map Route.event ++ transport.encrypting.map (·.2)).map
    TerminalEvent.call).Perm (List.range transport.calls)
  framed : (transport.acked ++ transport.pendingAcks ++ transport.requeued).Perm
    (transport.routed.filterMap Route.framed?)

/-- What leaves `encrypting` at one place arrives in `routed`. -/
theorem Accounted.calls_eraseIdx (h : Accounted transport) {index : Nat}
    {task : Channel × TerminalEvent} (hTask : transport.encrypting[index]? = some task)
    (route : Route) (hRoute : route.event = task.2) :
    (((transport.routed ++ [route]).map Route.event ++
        (transport.encrypting.eraseIdx index).map (·.2)).map TerminalEvent.call).Perm
      (List.range transport.calls) := by
  obtain ⟨hIndex, rfl⟩ := List.getElem?_eq_some_iff.mp hTask
  have hErase := (List.getElem_cons_eraseIdx_perm hIndex).map (·.2)
  refine List.Perm.trans ?_ h.calls
  apply List.Perm.map
  rw [List.map_append, List.append_assoc, List.map_singleton, hRoute]
  exact hErase.append_left _

theorem accounted_new (context : HandshakeContext) (hasCrypto : Bool) :
    Accounted (P2PTransport.new context hasCrypto : P2PTransport ed) :=
  ⟨List.Perm.refl _, List.Perm.refl _⟩

theorem Accounted.requeue (h : Accounted transport) {pendingAcks requeued : List TerminalEvent}
    (hSplit : pendingAcks = [] ∧ requeued = transport.requeued ++ transport.pendingAcks ∨
      transport.status = .matrix ∧ pendingAcks = transport.pendingAcks ∧
        requeued = transport.requeued) :
    (transport.acked ++ pendingAcks ++ requeued).Perm
      (transport.routed.filterMap Route.framed?) := by
  refine List.Perm.trans ?_ h.framed
  rcases hSplit with ⟨rfl, rfl⟩ | ⟨-, rfl, rfl⟩
  · rw [List.append_nil, List.append_assoc]
    exact List.perm_append_comm.append_left _
  · exact List.Perm.refl _

/-- A new call is one more, at the end of either list. -/
theorem Accounted.calls_append (h : Accounted transport) {routed encrypting : List TerminalEvent}
    (event : TerminalEvent) (hEvent : event.call = transport.calls)
    (hSplit : (routed ++ encrypting).Perm
      (transport.routed.map Route.event ++ transport.encrypting.map (·.2) ++ [event])) :
    ((routed ++ encrypting).map TerminalEvent.call).Perm (List.range (transport.calls + 1)) := by
  refine (hSplit.map TerminalEvent.call).trans ?_
  rw [List.map_append, List.range_succ, List.map_singleton, hEvent]
  exact h.calls.append_right _

theorem Accounted.complete (h : Accounted transport) (source : Channel) :
    Accounted (transport.complete source) := by
  rcases transport.complete_cases source with hSame | ⟨-, -, hComplete⟩
  · rw [hSame]
    exact h
  · rw [hComplete]
    exact ⟨h.calls, h.framed⟩

theorem Accounted.step (config : TransportConfig) (runtime : Runtime) (input : TransportInput ed)
    (h : Accounted transport) : Accounted (transport.step config runtime input) := by
  suffices hCore : Accounted (transport.step config runtime input).core from
    ⟨hCore.calls, hCore.framed⟩
  have hEffect := step_effect config runtime transport input
  generalize (transport.step config runtime input).core = next at hEffect ⊢
  cases hEffect with
  | aborted lookingUp verifying hLookingUp hVerifying hInput =>
      obtain ⟨pendingAcks, requeued, hClose, hSplit⟩ := transport.core_handleChannelClose_cases
      rw [hClose]
      exact ⟨h.calls, h.requeue hSplit⟩
  | responseAccepted task hTask hValid =>
      refine Accounted.complete ?_ _
      exact ⟨h.calls, h.framed⟩
  | legacyAnswered hType hFields =>
      refine Accounted.complete ?_ _
      exact ⟨h.calls, h.framed⟩
  | legacyAccepted hType hEcho =>
      refine Accounted.complete ?_ _
      exact ⟨h.calls, h.framed⟩
  | @ackTaken channel frame nonce =>
      refine ⟨h.calls, List.Perm.trans ?_ h.framed⟩
      apply List.Perm.append_right
      simp only [handleAck, List.append_assoc]
      apply List.Perm.append_left
      exact List.perm_append_comm.trans (List.filter_append_perm _ _)
  | wentDown hChannel =>
      obtain ⟨pendingAcks, requeued, hClose, hSplit⟩ := transport.core_handleChannelClose_cases
      rw [hClose]
      exact ⟨h.calls, h.requeue hSplit⟩
  | idledOut hTimer => exact ⟨h.calls, h.requeue (.inl ⟨rfl, rfl⟩)⟩
  | @called roomId type contentJson hOpen =>
      refine ⟨h.calls_append ⟨transport.calls, roomId, type, contentJson⟩ rfl ?_, ?_⟩
      · rw [List.map_append, List.append_assoc, List.append_assoc]
        exact List.perm_append_comm.append_left _
      · rw [List.filterMap_append]
        exact (List.append_nil _).symm ▸ h.framed
  | @encryptionBegun roomId type contentJson channel hChannel hVerified hStatus =>
      refine ⟨h.calls_append ⟨transport.calls, roomId, type, contentJson⟩ rfl ?_, h.framed⟩
      rw [List.map_append, List.append_assoc]
      exact List.Perm.refl _
  | fellBack task hTask =>
      refine ⟨h.calls_eraseIdx hTask (.matrix task.2) rfl, ?_⟩
      rw [List.filterMap_append]
      exact (List.append_nil _).symm ▸ h.framed
  | framed task channel hTask hChannel =>
      refine ⟨h.calls_eraseIdx hTask _ rfl, ?_⟩
      rw [List.filterMap_append]
      refine List.Perm.trans ?_ (h.framed.append_right _)
      simp only [List.append_assoc]
      apply List.Perm.append_left
      apply List.Perm.append_left
      exact List.perm_append_comm
  | _ => exact ⟨h.calls, h.framed⟩

end Accounting

section Carrying

/-- What has to be the case at the end of an encryption and when a verification
completes: the channel that is there now is the one that it began with, or has
been verified since; and nothing completes the verification of a channel but its
own frames. -/
def Confined (transport : P2PTransport ed) : TransportInput ed → Prop
  | .encrypted index .fits =>
      ∀ task channel, transport.encrypting[index]? = some task →
        transport.dataChannel = some channel → channel = task.1 ∨ transport.peerVerified = true
  | .verified index =>
      ∀ task channel, transport.verifying[index]? = some task →
        transport.dataChannel = some channel → transport.peerVerified = false →
          task.Valid ed → transport.hasRemoteNonce = true → task.channel = channel
  | .message source (.frame frame) _ =>
      ∀ channel, transport.dataChannel = some channel → transport.peerVerified = false →
        (typeOf frame = some "peer_verify" → transport.localVerified = true → source = channel) ∧
          (typeOf frame = some "peer_verify_response" → transport.echoesNonce frame = true →
            source = channel)
  | _ => True

/-- A frame goes out only on a channel whose own frames verified the peer. -/
structure Carried (transport : P2PTransport ed) : Prop where
  attached : ∀ channel, transport.dataChannel = some channel → channel < transport.attached
  encrypting : ∀ task ∈ transport.encrypting, task.1 < transport.attached ∧
    (transport.dataChannel = some task.1 → transport.peerVerified = true)
  verifiedOn : ∀ channel, transport.dataChannel = some channel →
    transport.peerVerified = true → transport.verifiedOn = some channel
  routed : ∀ channel event verified verifiedOn,
    .channel channel event verified verifiedOn ∈ transport.routed →
      verified = true ∧ verifiedOn = some channel

theorem carried_new (context : HandshakeContext) (hasCrypto : Bool) :
    Carried (P2PTransport.new context hasCrypto : P2PTransport ed) := by
  constructor <;> simp [P2PTransport.new]

/-- Without a channel nothing is left to be shown but what was sent before. -/
theorem Carried.down (h : Carried transport) {next : P2PTransport ed}
    (hChannel : next.dataChannel = none) (hAttached : next.attached = transport.attached)
    (hEncrypting : next.encrypting = transport.encrypting)
    (hRouted : next.routed = transport.routed) : Carried next := by
  refine ⟨by simp [hChannel], ?_, by simp [hChannel], hRouted ▸ h.routed⟩
  intro task hTask
  rw [hEncrypting] at hTask
  exact ⟨hAttached ▸ (h.encrypting task hTask).1, by simp [hChannel]⟩

theorem Carried.complete (h : Carried transport) (source : Channel)
    (hSource : ∀ channel, transport.dataChannel = some channel → transport.peerVerified = false →
      transport.localVerified = true → transport.hasRemoteNonce = true → source = channel) :
    Carried (transport.complete source) := by
  rcases transport.complete_cases source with hSame | ⟨hLocal, hRemote, hComplete⟩
  · rw [hSame]
    exact h
  · rw [hComplete]
    refine ⟨h.attached, fun task hTask => ⟨(h.encrypting task hTask).1, fun _ => rfl⟩, ?_, h.routed⟩
    intro channel hChannel _
    dsimp only
    split
    · rename_i hVerified
      exact h.verifiedOn channel hChannel hVerified
    · rename_i hVerified
      rw [hSource channel hChannel (by simpa using hVerified) hLocal hRemote]

/-- Encryption begins on a channel that is there, with the peer verified. -/
theorem Carried.encrypt (h : Carried transport) {channel : Channel}
    (hChannel : transport.dataChannel = some channel) (hVerified : transport.peerVerified = true)
    (event : TerminalEvent) :
    Carried { transport.core with
      calls := transport.calls + 1
      encrypting := transport.encrypting ++ [(channel, event)] } := by
  refine ⟨h.attached, fun task hTask => ?_, h.verifiedOn, h.routed⟩
  rcases List.mem_append.mp hTask with hOld | hNew
  · exact h.encrypting task hOld
  · obtain rfl := List.mem_singleton.mp hNew
    exact ⟨h.attached channel hChannel, fun _ => hVerified⟩

/-- A frame goes to the channel that is there, on which the peer is verified. -/
theorem Carried.frame (h : Carried transport) {channel : Channel}
    (hChannel : transport.dataChannel = some channel) (hVerified : transport.peerVerified = true)
    (index : Nat) (event : TerminalEvent) :
    Carried { transport.core with
      encrypting := transport.encrypting.eraseIdx index
      routed := transport.routed ++
        [.channel channel event transport.peerVerified transport.verifiedOn]
      pendingAcks := transport.pendingAcks ++ [event] } := by
  refine ⟨h.attached, fun other hOther => h.encrypting other (List.eraseIdx_subset hOther),
    h.verifiedOn, fun target sent verified on hRoute => ?_⟩
  rcases List.mem_append.mp hRoute with hOld | hNew
  · exact h.routed target sent verified on hOld
  · obtain ⟨rfl, -, rfl, rfl⟩ : target = channel ∧ sent = event ∧
        verified = transport.peerVerified ∧ on = transport.verifiedOn := by
      simpa using hNew
    exact ⟨hVerified, h.verifiedOn _ hChannel hVerified⟩

theorem Carried.step (config : TransportConfig) (runtime : Runtime) (h : Carried transport)
    (hGuard : transport.Confined input) : Carried (transport.step config runtime input) := by
  suffices hCore : Carried (transport.step config runtime input).core from
    ⟨hCore.attached, hCore.encrypting, hCore.verifiedOn, hCore.routed⟩
  have hEffect := step_effect config runtime transport input
  generalize (transport.step config runtime input).core = next at hEffect ⊢
  cases hEffect with
  | attached localNonce starting hNonce =>
      refine ⟨by simp, ?_, by simp, h.routed⟩
      intro task hTask
      obtain ⟨hLess, -⟩ := h.encrypting task hTask
      refine ⟨Nat.lt_succ_of_lt hLess, fun hSame => ?_⟩
      exact absurd (Option.some.inj hSame) (Nat.ne_of_gt hLess)
  | aborted lookingUp verifying hLookingUp hVerifying hInput =>
      obtain ⟨pendingAcks, requeued, hClose, -⟩ := transport.core_handleChannelClose_cases
      rw [hClose]
      exact h.down rfl rfl rfl rfl
  | responseAccepted task hTask hValid =>
      refine Carried.complete ?_ _ ?_
      · exact ⟨h.attached, h.encrypting, h.verifiedOn, h.routed⟩
      · intro channel hChannel hVerified _ hRemote
        exact hGuard task channel hTask hChannel hVerified hValid hRemote
  | legacyAnswered hType hFields =>
      refine Carried.complete ?_ _ ?_
      · exact ⟨h.attached, h.encrypting, h.verifiedOn, h.routed⟩
      · intro channel hChannel hVerified hLocal _
        exact (hGuard channel hChannel hVerified).1 hType hLocal
  | legacyAccepted hType hEcho =>
      refine Carried.complete ?_ _ ?_
      · exact ⟨h.attached, h.encrypting, h.verifiedOn, h.routed⟩
      · intro channel hChannel hVerified _ _
        exact (hGuard channel hChannel hVerified).2 hType hEcho.1
  | wentDown hChannel =>
      obtain ⟨pendingAcks, requeued, hClose, -⟩ := transport.core_handleChannelClose_cases
      rw [hClose]
      exact h.down rfl rfl rfl rfl
  | timedOut hTimer hVerified => exact h.down rfl rfl rfl rfl
  | idledOut hTimer => exact h.down rfl rfl rfl rfl
  | called hOpen =>
      refine ⟨h.attached, h.encrypting, h.verifiedOn, fun channel event verified on hRoute => ?_⟩
      exact h.routed channel event verified on (by simpa using hRoute)
  | encryptionBegun channel hChannel hVerified hStatus => exact h.encrypt hChannel hVerified _
  | fellBack task hTask =>
      refine ⟨h.attached, fun other hOther => h.encrypting other (List.eraseIdx_subset hOther),
        h.verifiedOn, fun channel event verified on hRoute => ?_⟩
      exact h.routed channel event verified on (by simpa using hRoute)
  | framed task current hTask hCurrent =>
      have hVerified : transport.peerVerified = true := by
        rcases hGuard task current hTask hCurrent with rfl | hVerified
        · exact (h.encrypting task (List.mem_of_getElem? hTask)).2 hCurrent
        · exact hVerified
      exact h.frame hCurrent hVerified _ _
  | _ => exact ⟨h.attached, h.encrypting, h.verifiedOn, h.routed⟩

/-- Every event is on its way, went to Matrix, or went to a channel on which the
peer was verified at that moment. -/
structure Delivered (transport : P2PTransport ed) : Prop where
  verified : ∀ channel event verified verifiedOn,
    .channel channel event verified verifiedOn ∈ transport.routed →
      verified = true ∧ verifiedOn = some channel
  calls : ((transport.routed.map Route.event ++ transport.encrypting.map (·.2)).map
    TerminalEvent.call).Perm (List.range transport.calls)

theorem always_delivered (config : TransportConfig) (runtime : Runtime)
    (context : HandshakeContext) (hasCrypto : Bool) (inputs : List (TransportInput ed))
    (hGuard : Admissible (step config runtime) Confined (P2PTransport.new context hasCrypto)
      inputs) :
    Always (step config runtime) Delivered (P2PTransport.new context hasCrypto) inputs := by
  have hRun : Always (step config runtime)
      (fun transport => Carried transport ∧ Accounted transport)
      (P2PTransport.new context hasCrypto) inputs := by
    refine hGuard.always ?_ ⟨carried_new context hasCrypto, accounted_new context hasCrypto⟩
    rintro transport input ⟨hCarried, hAccounted⟩ hInput
    exact ⟨hCarried.step config runtime hInput, hAccounted.step config runtime input⟩
  refine hRun.mono ?_
  rintro transport ⟨hCarried, hAccounted⟩
  exact ⟨hCarried.routed, hAccounted.calls⟩

/-- Signaling has agreed on nothing; the legacy protocol has to do. -/
def legacyContext : HandshakeContext := ⟨none, none, none, none, none, false⟩

/-- A legacy handshake on the first channel, and an event on its way to it. -/
def sendInputs : List (TransportInput scheme) :=
  [.setDataChannel "6f757273",
    .message 0 (.frame legacyChallenge) workerNonce,
    .message 0 (.frame (.obj [("type", .str "peer_verify_response"), ("nonce", .str "6f757273"),
      ("device_id", .str "d")])) workerNonce,
    .sendEvent "!room:x" "org.mxdx.terminal.data" "\x7b\x7d"]

/-- The encryption ends on the channel it began with. -/
theorem always_delivered_on_channel :
    (run (step workerConfig plainRuntime) (P2PTransport.new legacyContext true)
        (sendInputs ++ [.encrypted 0 .fits])).pendingAcks.length = 1 ∧
      Always (step workerConfig plainRuntime) Delivered (P2PTransport.new legacyContext true)
        (sendInputs ++ [.encrypted 0 .fits]) := by
  refine ⟨by decide +kernel, always_delivered workerConfig plainRuntime legacyContext true _ ?_⟩
  refine ⟨trivial, ?_, ?_, trivial, ?_, trivial⟩
  · rintro channel ⟨⟩ -
    exact ⟨fun _ _ => rfl, fun _ _ => rfl⟩
  · rintro channel ⟨⟩ -
    exact ⟨fun _ _ => rfl, fun _ _ => rfl⟩
  · rintro task channel - -
    right
    decide +kernel

/-- The channel is replaced while the event is being encrypted, and the frame goes
to the new one. -/
theorem not_always_delivered :
    ¬ Always (step workerConfig plainRuntime) Delivered (P2PTransport.new legacyContext true)
        (sendInputs ++ [.setDataChannel "7468656d", .encrypted 0 .fits]) := by
  intro h
  have hRoute : .channel 1 ⟨0, "!room:x", "org.mxdx.terminal.data", "\x7b\x7d"⟩ false (some 0) ∈
      (run (step workerConfig plainRuntime) (P2PTransport.new legacyContext true)
        (sendInputs ++ [.setDataChannel "7468656d", .encrypted 0 .fits])).routed := by
    decide +kernel
  exact absurd (h.last.verified _ _ _ _ hRoute).1 (by decide)

end Carrying

section Requeueing

/-- Nothing sent on a channel is left waiting once the status is `matrix`. -/
def NoneLeft (transport : P2PTransport ed) : Prop :=
  transport.status = .matrix → transport.pendingAcks = []

/-- Every event sent on a channel is acknowledged, waits for that, or was handed
to Matrix, each of them once; and none is left waiting. -/
structure Requeued (transport : P2PTransport ed) : Prop where
  noneLeft : NoneLeft transport
  framed : (transport.acked ++ transport.pendingAcks ++ transport.requeued).Perm
    (transport.routed.filterMap Route.framed?)
  once : ((transport.acked ++ transport.pendingAcks ++ transport.requeued).map
    TerminalEvent.call).Nodup

/-- The events of a list of routes that went to a channel are some of all. -/
theorem framed_sublist (routed : List Route) :
    (routed.filterMap Route.framed?).Sublist (routed.map Route.event) := by
  induction routed with
  | nil => exact List.Sublist.refl _
  | cons route routed ih =>
      cases route with
      | matrix event => exact ih.cons event
      | channel channel event verified verifiedOn => exact ih.cons_cons event

theorem Accounted.requeued (h : Accounted transport) (hNone : NoneLeft transport) :
    Requeued transport := by
  refine ⟨hNone, h.framed, ?_⟩
  have hAll : ((transport.routed.map Route.event ++ transport.encrypting.map (·.2)).map
      TerminalEvent.call).Nodup := h.calls.nodup_iff.mpr List.nodup_range
  have hRouted : ((transport.routed.map Route.event).map TerminalEvent.call).Nodup := by
    rw [List.map_append] at hAll
    exact hAll.of_append_left
  have hFramed := ((framed_sublist transport.routed).map TerminalEvent.call).nodup hRouted
  exact (h.framed.map TerminalEvent.call).nodup_iff.mpr hFramed

/-- When a verification times out nothing may be waiting for an acknowledgement,
and no encryption may end on a channel while the status is `matrix`. -/
def Handed (transport : P2PTransport ed) : TransportInput ed → Prop
  | .verifyTimeout index =>
      index < transport.verifyTimers.length → transport.peerVerified = false →
        transport.pendingAcks = []
  | .encrypted index .fits =>
      index < transport.encrypting.length → transport.dataChannel.isSome = true →
        transport.status = .p2p
  | _ => True

theorem NoneLeft.complete (h : NoneLeft transport) (source : Channel) :
    NoneLeft (transport.complete source) := by
  rcases transport.complete_cases source with hSame | ⟨-, -, hComplete⟩
  · rw [hSame]
    exact h
  · rw [hComplete]
    intro hStatus
    cases hStatus

theorem NoneLeft.down (h : NoneLeft transport) {pendingAcks requeued : List TerminalEvent}
    (hSplit : pendingAcks = [] ∧ requeued = transport.requeued ++ transport.pendingAcks ∨
      transport.status = .matrix ∧ pendingAcks = transport.pendingAcks ∧
        requeued = transport.requeued) : pendingAcks = [] := by
  rcases hSplit with ⟨hNone, -⟩ | ⟨hStatus, rfl, -⟩
  · exact hNone
  · exact h hStatus

theorem NoneLeft.step (config : TransportConfig) (runtime : Runtime) (h : NoneLeft transport)
    (hGuard : transport.Handed input) : NoneLeft (transport.step config runtime input) := by
  suffices hCore : NoneLeft (transport.step config runtime input).core from hCore
  have hEffect := step_effect config runtime transport input
  generalize (transport.step config runtime input).core = next at hEffect ⊢
  cases hEffect with
  | aborted lookingUp verifying hLookingUp hVerifying hInput =>
      obtain ⟨pendingAcks, requeued, hClose, hSplit⟩ := transport.core_handleChannelClose_cases
      rw [hClose]
      exact fun _ => h.down hSplit
  | responseAccepted task hTask hValid =>
      refine NoneLeft.complete ?_ _
      exact h
  | legacyAnswered hType hFields =>
      refine NoneLeft.complete ?_ _
      exact h
  | legacyAccepted hType hEcho =>
      refine NoneLeft.complete ?_ _
      exact h
  | ackTaken =>
      intro hStatus
      have hNone : transport.core.pendingAcks = [] := h hStatus
      simp [handleAck, hNone]
  | wentDown hChannel =>
      obtain ⟨pendingAcks, requeued, hClose, hSplit⟩ := transport.core_handleChannelClose_cases
      rw [hClose]
      exact fun _ => h.down hSplit
  | timedOut hTimer hVerified => exact fun _ => hGuard hTimer hVerified
  | idledOut hTimer => exact fun _ => rfl
  | framed task channel hTask hChannel =>
      have hIndex := (List.getElem?_eq_some_iff.mp hTask).1
      have hStatus : transport.status = .p2p := hGuard hIndex (by simp [hChannel])
      intro hMatrix
      exact absurd (hStatus.symm.trans hMatrix) (by decide)
  | _ => exact h

/-- The two inputs leave something behind where the guard does not hold. -/
theorem NoneLeft.handed (config : TransportConfig) (runtime : Runtime)
    (h : NoneLeft (transport.step config runtime input)) : transport.Handed input := by
  cases input with
  | verifyTimeout index =>
      intro hTimer hVerified
      simp only [P2PTransport.step, hTimer, ↓reduceIte, handleVerifyTimeout, hVerified,
        Bool.false_eq_true] at h
      exact h rfl
  | encrypted index outcome =>
      cases outcome with
      | fits =>
          intro hIndex hSome
          obtain ⟨channel, hChannel⟩ := Option.isSome_iff_exists.mp hSome
          simp only [P2PTransport.step, List.getElem?_eq_getElem hIndex, finishSend, hChannel] at h
          cases hStatus : transport.status with
          | p2p => rfl
          | matrix => simpa using h hStatus
      | _ => trivial
  | _ => trivial

/-- In any run all that was sent on a channel is acknowledged or handed to Matrix
by the time the status is `matrix`, exactly as long as no timeout of a verification
finds unacknowledged events and no encryption ends on an unverified channel. -/
theorem always_requeued_iff (config : TransportConfig) (runtime : Runtime)
    (context : HandshakeContext) (hasCrypto : Bool) (inputs : List (TransportInput ed)) :
    Always (step config runtime) Requeued (P2PTransport.new context hasCrypto) inputs ↔
      Admissible (step config runtime) Handed (P2PTransport.new context hasCrypto) inputs := by
  apply always_iff_admissible_under
  · exact fun transport input h => Accounted.step config runtime input h
  · intro transport input hAccounted hRequeued
    constructor
    · exact fun h => h.noneLeft.handed config runtime
    · intro hGuard
      exact (hAccounted.step config runtime input).requeued
        (hRequeued.noneLeft.step config runtime hGuard)
  · exact accounted_new context hasCrypto
  · exact (accounted_new context hasCrypto).requeued fun _ => rfl

/-- An event is sent and the channel replaced; the verification of the new one
times out, and nobody sends the event again. -/
theorem not_always_requeued :
    ¬ Always (step workerConfig plainRuntime) Requeued (P2PTransport.new legacyContext true)
        (sendInputs ++ [.encrypted 0 .fits, .setDataChannel "7468656d", .verifyTimeout 0]) := by
  intro h
  have hLeft : (run (step workerConfig plainRuntime) (P2PTransport.new legacyContext true)
      (sendInputs ++ [.encrypted 0 .fits, .setDataChannel "7468656d",
        .verifyTimeout 0])).pendingAcks.length = 1 := by
    decide +kernel
  rw [h.last.noneLeft (by decide +kernel)] at hLeft
  cases hLeft

end Requeueing

end P2PTransport

end Mxdx.Core
