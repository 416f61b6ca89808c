import Mxdx.Core.P2PDelivery

/-! What an input of a `P2PTransport` can do to the events that it was given: where
they are before and after it, whatever else has happened. -/
namespace Mxdx.Core

open P2P (Ed25519 Nonce)

namespace P2PTransport

variable {ed : Ed25519}

/-- Where the events of a transport are, and its status. -/
structure Stock where
  status : Status
  pendingAcks : List TerminalEvent
  encrypting : List TerminalEvent
  routed : List Route
  requeued : List TerminalEvent

/-- Where the events of a transport are. -/
def stock (transport : P2PTransport ed) : Stock :=
  ⟨transport.status, transport.pendingAcks, transport.encrypting.map (·.2), transport.routed,
    transport.requeued⟩

/-- The transport has sent the event again, or will when P2P ends. -/
def Stock.Held (stock : Stock) (event : TerminalEvent) : Prop :=
  event ∈ stock.requeued ∨ stock.status = .p2p ∧ event ∈ stock.pendingAcks

/-- The events that `sendEvent` has got to a channel or to Matrix, or is at work on. -/
def Stock.sent (stock : Stock) : List TerminalEvent :=
  stock.routed.map Route.event ++ stock.encrypting

/-- The inputs that end P2P and hand the unacknowledged events to Matrix. -/
def Requeues (transport : P2PTransport ed) : TransportInput ed → Prop
  | .channelClosed channel => transport.status = .p2p ∧ transport.dataChannel = some channel
  | .idleTimeout => transport.idleTimer.isSome
  | .lookedUp index known => transport.status = .p2p ∧ ∃ task key,
      transport.lookingUp[index]? = some task ∧ known = some key ∧ key ≠ task.2.signerPk
  | .verified index => transport.status = .p2p ∧ ∃ task key,
      transport.verifying[index]? = some task ∧ ed.fromBytes task.response.signerPk = .ok key ∧
        ed.verify key task.text task.response.signature = false
  | _ => False

/-- All that an input can do to the events. -/
inductive Moved (runtime : Runtime) (transport : P2PTransport ed) :
    TransportInput ed → Stock → Prop where
  | same {input : TransportInput ed}
      (hCall : ∀ roomId type contentJson, input = .sendEvent roomId type contentJson →
        transport.closed = true) :
      Moved runtime transport input transport.stock
  | wentUp {input : TransportInput ed}
      (hCall : ∀ roomId type contentJson, input ≠ .sendEvent roomId type contentJson) :
      Moved runtime transport input { transport.stock with status := .p2p }
  | requeued {input : TransportInput ed} (hInput : Requeues transport input) :
      Moved runtime transport input
        { transport.stock with
          status := .matrix, pendingAcks := []
          requeued := transport.requeued ++ transport.pendingAcks }
  | timedOut {index : Nat} (hTimer : index < transport.verifyTimers.length)
      (hVerified : transport.peerVerified = false) :
      Moved runtime transport (.verifyTimeout index) { transport.stock with status := .matrix }
  | acked {channel : Channel} {frame : JsValue} {nonce : Nonce}
      (hType : typeOf frame = some "ack") :
      Moved runtime transport (.message channel (.frame frame) nonce)
        { transport.stock with
          pendingAcks := transport.pendingAcks.filter
            fun event => runtime.outlivesAck event.contentJson (frame.get? "seq") }
  | mailed {roomId type contentJson : String} :
      Moved runtime transport (.sendEvent roomId type contentJson)
        { transport.stock with
          routed := transport.routed ++ [.matrix ⟨transport.calls, roomId, type, contentJson⟩] }
  | encrypting {roomId type contentJson : String} :
      Moved runtime transport (.sendEvent roomId type contentJson)
        { transport.stock with
          encrypting := transport.encrypting.map (·.2) ++
            [⟨transport.calls, roomId, type, contentJson⟩] }
  | fellBack {index : Nat} {outcome : Encrypted} (task : Channel × TerminalEvent)
      (hTask : transport.encrypting[index]? = some task) :
      Moved runtime transport (.encrypted index outcome)
        { transport.stock with
          encrypting := (transport.encrypting.eraseIdx index).map (·.2)
          routed := transport.routed ++ [.matrix task.2] }
  | framed {index : Nat} (task : Channel × TerminalEvent) (channel : Channel)
      (hTask : transport.encrypting[index]? = some task) :
      Moved runtime transport (.encrypted index .fits)
        { transport.stock with
          encrypting := (transport.encrypting.eraseIdx index).map (·.2)
          routed := transport.routed ++
            [.channel channel task.2 transport.peerVerified transport.verifiedOn]
          pendingAcks := transport.pendingAcks ++ [task.2] }

variable {config : TransportConfig} {runtime : Runtime} {transport next : P2PTransport ed}
  {input : TransportInput ed}

theorem moved_complete (source : Channel)
    (hCall : ∀ roomId type contentJson, input ≠ .sendEvent roomId type contentJson)
    (hNext : next.stock = transport.stock) :
    Moved runtime transport input (next.complete source).stock := by
  rcases next.complete_cases source with hSame | ⟨-, -, hComplete⟩
  · rw [hSame, hNext]
    exact .same fun roomId type contentJson hInput => absurd hInput (hCall _ _ _)
  · have hStock : (next.complete source).stock = { next.stock with status := .p2p } := by
      rw [hComplete]
      rfl
    rw [hStock, hNext]
    exact .wentUp hCall

/-- A channel that goes down takes events with it only while the status is `p2p`. -/
theorem moved_close (hInput : transport.status = .p2p → Requeues transport input)
    (hCall : ∀ roomId type contentJson, input ≠ .sendEvent roomId type contentJson) :
    Moved runtime transport input transport.core.handleChannelClose.stock := by
  cases hStatus : transport.status with
  | p2p =>
      have hStock : transport.core.handleChannelClose.stock =
          { transport.stock with
            status := .matrix, pendingAcks := []
            requeued := transport.requeued ++ transport.pendingAcks } := by
        rw [handleChannelClose, if_pos (show transport.core.status = .p2p from hStatus)]
        rfl
      rw [hStock]
      exact .requeued (hInput hStatus)
  | matrix =>
      have hStock : transport.core.handleChannelClose.stock = transport.stock := by
        have hNot : transport.core.status ≠ .p2p := by
          rw [show transport.core.status = .matrix from hStatus]
          decide
        rw [handleChannelClose, if_neg hNot, stock, stock, hStatus]
        rfl
      rw [hStock]
      exact .same fun roomId type contentJson hEq => absurd hEq (hCall _ _ _)

theorem moved_of_effect
    (hEffect : Effect config runtime transport input next)
    (hCall : ∀ roomId type contentJson, input ≠ .sendEvent roomId type contentJson)
    (hCheck : ∀ index task, input = .verified index → transport.verifying[index]? = some task →
      transport.status = .p2p → Requeues transport input ∨ next.aborts = transport.aborts)
    (hAck : ∀ channel frame nonce, input = .message channel (.frame frame) nonce →
      typeOf frame = some "ack" ∨ next.acked = transport.acked) :
    Moved runtime transport input next.stock := by
  have hSame : Moved runtime transport input transport.stock :=
    .same fun roomId type contentJson hInput => absurd hInput (hCall _ _ _)
  cases hEffect with
  | aborted lookingUp verifying hLookingUp hVerifying hInput =>
      apply moved_close _ hCall
      intro hStatus
      rcases hInput with ⟨index, key, task, rfl, hTask, hKey⟩ | ⟨index, task, rfl, hTask⟩
      · exact ⟨hStatus, task, key, hTask, rfl, hKey⟩
      · exact (hCheck index task rfl hTask hStatus).resolve_right (Nat.succ_ne_self _)
  | responseAccepted task hTask hValid => exact moved_complete task.channel hCall rfl
  | legacyAnswered hType hFields => exact moved_complete _ hCall rfl
  | legacyAccepted hType hEcho => exact moved_complete _ hCall rfl
  | @ackTaken channel frame nonce =>
      rcases hAck channel frame nonce rfl with hType | hAcked
      · exact .acked hType
      · have hNone : transport.pendingAcks.filter
            (fun event => !runtime.outlivesAck event.contentJson (frame.get? "seq")) = [] :=
          List.append_right_eq_self.mp hAcked
        have hAll : transport.pendingAcks.filter
            (fun event => runtime.outlivesAck event.contentJson (frame.get? "seq")) =
              transport.pendingAcks := by
          rw [List.filter_eq_self]
          intro event hEvent
          simpa using List.filter_eq_nil_iff.mp hNone event hEvent
        have hStock : (transport.core.handleAck runtime frame).stock = transport.stock := by
          have hPending : (transport.core.handleAck runtime frame).pendingAcks =
              transport.pendingAcks := hAll
          rw [stock, hPending]
          rfl
        rw [hStock]
        exact hSame
  | wentDown hChannel => exact moved_close (fun hStatus => ⟨hStatus, hChannel⟩) hCall
  | timedOut hTimer hVerified => exact .timedOut hTimer hVerified
  | idledOut hTimer => exact .requeued hTimer
  | called hOpen => exact absurd rfl (hCall _ _ _)
  | encryptionBegun channel hChannel hPeer hStatus => exact absurd rfl (hCall _ _ _)
  | fellBack task hTask => exact .fellBack task hTask
  | framed task channel hTask hChannel => exact .framed task channel hTask
  | _ => exact hSame

section Acknowledgements

variable (config runtime transport)

theorem acked_sendControlFrame (frame : JsValue) :
    (transport.sendControlFrame frame).acked = transport.acked := by
  have hCore := congrArg acked (transport.core_sendControlFrame frame)
  exact hCore

theorem acked_answerChallenge (source : Channel) (nonce : Nonce) :
    (transport.answerChallenge config runtime source nonce).acked = transport.acked := by
  obtain ⟨localNonce, -, hAnswer⟩ := core_answerChallenge config runtime transport source
    nonce
  have hCore := congrArg acked hAnswer
  exact hCore

theorem checkVerificationComplete_kept (source : Channel) :
    (transport.checkVerificationComplete config source).acked = transport.acked ∧
      (transport.checkVerificationComplete config source).aborts = transport.aborts := by
  have hCore := core_checkVerificationComplete config transport source
  have hAcked := congrArg acked hCore
  have hAborts := congrArg aborts hCore
  rcases transport.core.complete_cases source with hSame | ⟨-, -, hComplete⟩
  · rw [hSame] at hAcked hAborts
    exact ⟨hAcked, hAborts⟩
  · rw [hComplete] at hAcked hAborts
    exact ⟨hAcked, hAborts⟩

theorem acked_handleVerifyChallenge (source : Channel) (frame : JsValue)
    (nonce : Nonce) :
    (transport.handleVerifyChallenge config runtime source frame nonce).acked =
      transport.acked := by
  unfold handleVerifyChallenge
  split
  · dsimp only
    split
    · rfl
    · rw [acked_answerChallenge]
  · rfl

theorem acked_handleVerifyResponse (source : Channel) (frame : JsValue) :
    (transport.handleVerifyResponse config runtime source frame).acked = transport.acked := by
  unfold handleVerifyResponse
  split
  · rfl
  · split
    · dsimp only
      split
      · rfl
      · unfold checkSignature
        split <;> rfl
    · rfl

theorem acked_handlePeerVerify (source : Channel) (frame : JsValue) :
    (transport.handlePeerVerify config source frame).acked = transport.acked := by
  unfold handlePeerVerify
  dsimp only
  split
  · rw [(checkVerificationComplete_kept config _ source).1, acked_sendControlFrame]
  · rfl

theorem acked_handlePeerVerifyResponse (source : Channel) (frame : JsValue) :
    (transport.handlePeerVerifyResponse config source frame).acked = transport.acked := by
  unfold handlePeerVerifyResponse
  split
  · rw [(checkVerificationComplete_kept config _ source).1]
  · rfl

/-- Frames that are no acknowledgements acknowledge nothing. -/
theorem acked_message {channel : Channel} {frame : JsValue} {nonce : Nonce}
    (hType : typeOf frame ≠ some "ack") :
    (transport.step config runtime (.message channel (.frame frame) nonce)).acked =
      transport.acked := by
  obtain ⟨idleTimer, hTouch⟩ := touch_fields config transport
  simp only [step, handleDataChannelMessage, hTouch,
    handleFrame]
  split
  next hAck => exact absurd hAck hType
  next => rw [acked_sendControlFrame]
  next => rw [acked_handleVerifyChallenge]
  next => rw [acked_handleVerifyResponse]
  next => rw [acked_handlePeerVerify]
  next => rw [acked_handlePeerVerifyResponse]
  next => rfl

end Acknowledgements

/-- A signature that is valid aborts nothing, nor does a key that is none. -/
theorem requeues_or_aborts_verified (config : TransportConfig) {index : Nat}
    {task : Verifying} (hTask : transport.verifying[index]? = some task)
    (hStatus : transport.status = .p2p) :
    Requeues transport (.verified index) ∨
      (transport.step config runtime (.verified index)).aborts = transport.aborts := by
  simp only [step, hTask, handleVerified]
  cases hKey : ed.fromBytes task.response.signerPk with
  | error => exact .inr rfl
  | ok key =>
      cases hVerify : ed.verify key task.text task.response.signature with
      | true =>
          right
          simp only [hVerify, if_true, (checkVerificationComplete_kept config _ task.channel).2]
      | false => exact .inl ⟨hStatus, task, key, hTask, hKey, hVerify⟩

theorem moved_sendEvent (config : TransportConfig) (transport : P2PTransport ed)
    (roomId type contentJson : String) :
    Moved runtime transport (.sendEvent roomId type contentJson)
      (transport.sendEvent config roomId type contentJson).stock := by
  obtain ⟨idleTimer, hTouch⟩ := touch_fields config transport
  unfold sendEvent
  simp only [hTouch]
  split
  next hClosed => exact .same fun _ _ _ _ => hClosed
  next =>
    split
    next channel hChannel =>
      split
      next =>
        rw [stock, List.map_append]
        exact .encrypting
      next => exact .mailed
    next => exact .mailed

theorem moved_step (config : TransportConfig) (runtime : Runtime) (transport : P2PTransport ed)
    (input : TransportInput ed) :
    Moved runtime transport input (transport.step config runtime input).stock := by
  by_cases hCall : ∃ roomId type contentJson, input = .sendEvent roomId type contentJson
  · obtain ⟨roomId, type, contentJson, rfl⟩ := hCall
    exact moved_sendEvent config transport roomId type contentJson
  have hEffect := step_effect config runtime transport input
  have hMoved := moved_of_effect hEffect (fun roomId type contentJson hInput =>
    hCall ⟨roomId, type, contentJson, hInput⟩) ?_ ?_
  · exact hMoved
  · rintro index task rfl hTask hStatus
    exact requeues_or_aborts_verified config hTask hStatus
  · rintro channel frame nonce rfl
    by_cases hType : typeOf frame = some "ack"
    · exact .inl hType
    · exact .inr (acked_message config runtime transport hType)

section Moves

variable {stock : Stock} {event : TerminalEvent}

/-- Nothing that was routed or handed to Matrix is taken back. -/
theorem Moved.isPrefix (h : Moved runtime transport input stock) :
    transport.routed <+: stock.routed ∧ transport.requeued <+: stock.requeued := by
  cases h with
  | requeued hInput => exact ⟨List.prefix_rfl, List.prefix_append _ _⟩
  | mailed => exact ⟨List.prefix_append _ _, List.prefix_rfl⟩
  | fellBack task hTask => exact ⟨List.prefix_append _ _, List.prefix_rfl⟩
  | framed task channel hTask => exact ⟨List.prefix_append _ _, List.prefix_rfl⟩
  | _ => exact ⟨List.prefix_rfl, List.prefix_rfl⟩

theorem Moved.mem_requeued (h : Moved runtime transport input stock)
    (hEvent : event ∈ stock.requeued) :
    event ∈ transport.requeued ∨ Requeues transport input ∧ event ∈ transport.pendingAcks := by
  cases h with
  | requeued hInput =>
      rcases List.mem_append.mp hEvent with hOld | hPending
      · exact .inl hOld
      · exact .inr ⟨hInput, hPending⟩
  | _ => exact .inl hEvent

/-- An event stays with the transport unless a verification times out or it is acknowledged. -/
theorem Moved.held (h : Moved runtime transport input stock) (hHeld : transport.stock.Held event)
    (hTimeout : ∀ index, input = .verifyTimeout index → index < transport.verifyTimers.length →
      transport.peerVerified = false → transport.status = .p2p → event ∉ transport.pendingAcks)
    (hAck : ∀ channel frame nonce, input = .message channel (.frame frame) nonce →
      typeOf frame = some "ack" → event ∈ transport.pendingAcks →
        runtime.outlivesAck event.contentJson (frame.get? "seq") = true) :
    stock.Held event := by
  rcases hHeld with hRequeued | ⟨hStatus, hPending⟩
  · have hKept := h.isPrefix.2.subset hRequeued
    exact .inl hKept
  cases h with
  | wentUp hCall => exact .inr ⟨rfl, hPending⟩
  | requeued hInput => exact .inl (List.mem_append_right _ hPending)
  | timedOut hTimer hVerified =>
      exact absurd hPending (hTimeout _ rfl hTimer hVerified hStatus)
  | acked hType =>
      exact .inr ⟨hStatus, List.mem_filter.mpr ⟨hPending, hAck _ _ _ rfl hType hPending⟩⟩
  | framed task channel hTask => exact .inr ⟨hStatus, List.mem_append_left _ hPending⟩
  | _ => exact .inr ⟨hStatus, hPending⟩

theorem mem_eraseIdx_or {tasks : List (Channel × TerminalEvent)} {index : Nat}
    {task : Channel × TerminalEvent} (hTask : tasks[index]? = some task)
    (hEvent : event ∈ tasks.map (·.2)) :
    event = task.2 ∨ event ∈ (tasks.eraseIdx index).map (·.2) := by
  obtain ⟨hIndex, rfl⟩ := List.getElem?_eq_some_iff.mp hTask
  have hPerm := (List.getElem_cons_eraseIdx_perm hIndex).map (·.2)
  simpa using hPerm.symm.subset hEvent

/-- No event gets out of sight. -/
theorem Moved.mem_sent (h : Moved runtime transport input stock)
    (hEvent : event ∈ transport.stock.sent) : event ∈ stock.sent := by
  rcases List.mem_append.mp hEvent with hRouted | hEncrypting
  · have hKept := (h.isPrefix.1.map Route.event).subset hRouted
    exact List.mem_append_left _ hKept
  · cases h with
    | encrypting => exact List.mem_append_right _ (List.mem_append_left _ hEncrypting)
    | fellBack task hTask =>
        rcases mem_eraseIdx_or hTask hEncrypting with rfl | hRest
        · exact List.mem_append_left _ (by simp [Route.event])
        · exact List.mem_append_right _ hRest
    | framed task channel hTask =>
        rcases mem_eraseIdx_or hTask hEncrypting with rfl | hRest
        · exact List.mem_append_left _ (by simp [Route.event])
        · exact List.mem_append_right _ hRest
    | _ => exact List.mem_append_right _ hEncrypting

theorem Moved.mem_called {roomId type contentJson : String}
    (h : Moved runtime transport (.sendEvent roomId type contentJson) stock)
    (hOpen : transport.closed = false) :
    ⟨transport.calls, roomId, type, contentJson⟩ ∈ stock.sent := by
  cases h with
  | same hCall => simp [hCall roomId type contentJson rfl] at hOpen
  | wentUp hCall => exact absurd rfl (hCall roomId type contentJson)
  | requeued hInput => cases hInput
  | mailed => exact List.mem_append_left _ (by simp [Route.event])
  | encrypting => exact List.mem_append_right _ (by simp)

end Moves

end P2PTransport

end Mxdx.Core
