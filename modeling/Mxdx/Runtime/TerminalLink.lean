import Mathlib.Data.List.Count
import Mxdx.Core.P2PStock
import Mxdx.Runtime.SessionMux

/-! Terminal input is written once and none of it gets lost, as long as what comes
through on a channel and what the client hands to Matrix are kept apart. -/
namespace Mxdx.Runtime

open Automaton
open Mxdx.Core (JsValue P2PTransport TerminalEvent TransportInput truthy)
open P2P (Ed25519)

namespace TerminalLink

variable {ed : Ed25519}

/-- The events whose writes were brought by frames, or by Matrix. -/
def writtenBy (framed : Bool) (written : List Write) : List TerminalEvent :=
  (written.filter (·.framed = framed)).map (·.event)

/-- An event that is being encrypted or decrypted, is under way or in the inbox, or
that the client will send again because its frame got lost. -/
def OnItsWay (link : TerminalLink ed) (event : TerminalEvent) : Prop :=
  event ∈ link.client.encrypting.map (·.2) ∨ event ∈ link.frames ∨ event ∈ link.decrypting ∨
    event ∈ link.inbox ∨ event ∈ link.matrix ∨
      event ∈ link.lost ∧ link.client.status = .p2p ∧ event ∈ link.client.pendingAcks

/-- The session is the one that the event names, and the bytes are its data. -/
def Carries (libraries : Libraries) (write : Write) : Prop :=
  ∃ content, libraries.parse write.event.contentJson = some content ∧
    content.get? "session_id" = some (.str write.sessionId) ∧
      processInput libraries content = some write.bytes

/-- No event is written twice, every one that was passed to `sendEvent` is written or
on its way, and what is written is what was passed. -/
structure ExactlyOnce (libraries : Libraries) (link : TerminalLink ed) : Prop where
  once : (link.written.map (·.event)).Nodup
  all : ∀ event ∈ link.passed, event ∈ link.written.map (·.event) ∨ link.OnItsWay event
  carried : ∀ write ∈ link.written, Carries libraries write

/-- Content that the multiplexer can read, for a session that it knows. -/
structure Addressed (libraries : Libraries) (mux : SessionMux) (content : JsValue) : Prop where
  session : ∃ sessionId ∈ mux.sessions,
    sessionId ≠ "" ∧ content.get? "session_id" = some (.str sessionId)
  readable : (processInput libraries content).isSome

/-- When the client hands its events to Matrix none of them has come through, and
when a frame comes through its event was not handed over. A frame is lost only if
its event is or will be sent again. What is polled is addressed to a session of the
room, and does not look like the launcher's own. -/
def Careful (config : LinkConfig) (link : TerminalLink ed) : LinkInput ed → Prop
  | .client input =>
      (link.client.Requeues input → ∀ event ∈ link.client.pendingAcks,
        event ∉ link.inbox ∧ event ∉ writtenBy true link.written) ∧
      match input with
      | .sendEvent _ type _ => type = terminalData → link.client.closed = false
      | .verifyTimeout index =>
          index < link.client.verifyTimers.length → link.client.peerVerified = false →
            link.client.status = .p2p → ∀ event ∈ link.client.pendingAcks, event ∉ link.lost
      | .message _ (.frame frame) _ =>
          P2PTransport.typeOf frame = some "ack" → ∀ event ∈ link.client.pendingAcks,
            config.runtime.outlivesAck event.contentJson (frame.get? "seq") = false →
              event ∉ link.lost
      | _ => True
  | .frame index => ∀ event, link.frames[index]? = some event →
      (link.launcher.peerVerified && link.launcher.hasCrypto) = false → link.client.stock.Held event
  | .frameLost index => ∀ event, link.frames[index]? = some event → link.client.stock.Held event
  | .decrypted index => ∀ event, link.decrypting[index]? = some event →
      if isInput config.libraries event then event ∉ link.client.requeued
      else link.client.stock.Held event
  | .decryptFailed index => ∀ event, link.decrypting[index]? = some event →
      link.client.stock.Held event
  | .pollInbox => ∀ event inbox, link.inbox = event :: inbox →
      ∃ content, config.libraries.parse event.contentJson = some content ∧
        Addressed config.libraries link.mux content ∧
          (content.get? "content").any truthy = false ∧
            (content.get? "sender").bind Json.asStr ≠ some link.mux.launcherUserId
  | .pollMatrix index => ∀ event, link.matrix[index]? = some event →
      event.roomId = link.mux.roomId →
        ∃ content, config.libraries.parse event.contentJson = some content ∧
          Addressed config.libraries link.mux content ∧
            config.clientUserId ≠ link.mux.launcherUserId
  | _ => True

/-- Where the events are that went to a channel or to Matrix. -/
structure Tracked (libraries : Libraries) (link : TerminalLink ed) : Prop where
  client : P2PTransport.Accounted link.client
  frames : (link.frames ++ link.decrypting ++ link.inbox ++ writtenBy true link.written ++
    link.lost).Perm (framed link.client.routed)
  matrix : (link.matrix ++ writtenBy false link.written).Perm
    (mailed link.client.routed link.client.requeued)
  apart : ∀ event ∈ link.client.requeued,
    event ∉ link.inbox ∧ event ∉ writtenBy true link.written
  lost : ∀ event ∈ link.lost, link.client.stock.Held event
  passed : ∀ event ∈ link.passed, isData event = true ∧ event ∈ link.client.stock.sent
  carried : ∀ write ∈ link.written, Carries libraries write

section Writing

variable {config : LinkConfig} {libraries : Libraries} {mux : SessionMux} {content : JsValue}

/-- What is addressed to a session is written to it, unless its sender is the launcher. -/
theorem poll_of_addressed {event : JsValue} (hContent : contentOf event = content)
    (hSender : (event.get? "sender").bind Json.asStr ≠ some mux.launcherUserId)
    (hAddressed : Addressed libraries mux content) :
    ∃ sessionId bytes, mux.poll libraries event = some (sessionId, bytes) ∧
      content.get? "session_id" = some (.str sessionId) ∧
        processInput libraries content = some bytes := by
  obtain ⟨sessionId, hMem, hNonempty, hSession⟩ := hAddressed.session
  obtain ⟨bytes, hBytes⟩ := Option.isSome_iff_exists.mp hAddressed.readable
  refine ⟨sessionId, bytes, ?_, hSession, hBytes⟩
  simp [SessionMux.poll, hContent, hSession, hSender, hNonempty, hMem, hBytes]

theorem contentOf_frame (h : (content.get? "content").any truthy = false) :
    contentOf content = content := by
  unfold contentOf
  split
  next inner hInner =>
    rw [hInner] at h
    rw [if_neg (by simpa using h)]
  next => rfl

/-- Only objects have a session, and objects are truthy. -/
theorem contentOf_matrix (hAddressed : Addressed libraries mux content) (type user : String) :
    contentOf (.obj [("type", .str type), ("sender", .str user), ("content", content)]) =
      content := by
  obtain ⟨sessionId, -, -, hSession⟩ := hAddressed.session
  have hTruthy : truthy content = true := by
    cases content with
    | obj fields => rfl
    | null | bool _ | num _ | str _ | arr _ => cases hSession
  simp [contentOf, Json.get?, List.lookup_cons, hTruthy]

end Writing

section Apart

variable {client : P2PTransport ed} {event : TerminalEvent}

/-- Every route is one to a channel or one to Matrix. -/
theorem mailed_append_framed_perm (routed : List Core.Route) :
    (routed.filterMap mailed? ++ routed.filterMap Core.Route.framed?).Perm
      (routed.map Core.Route.event) := by
  induction routed with
  | nil => exact List.Perm.refl _
  | cons route routed ih =>
      cases route with
      | matrix event => exact ih.cons event
      | channel channel event verified verifiedOn => exact List.perm_middle.trans (ih.cons event)

theorem nodup_routes (h : P2PTransport.Accounted client) :
    (client.routed.filterMap mailed? ++ client.routed.filterMap Core.Route.framed?).Nodup := by
  have hCalls : ((client.routed.map Core.Route.event ++ client.encrypting.map (·.2)).map
      TerminalEvent.call).Nodup := h.calls.nodup_iff.mpr List.nodup_range
  exact (mailed_append_framed_perm client.routed).nodup_iff.mpr hCalls.of_map.of_append_left

theorem requeued_subset (h : P2PTransport.Accounted client) :
    client.requeued ⊆ client.routed.filterMap Core.Route.framed? := fun _ hEvent =>
  h.framed.subset (List.mem_append_right _ hEvent)

theorem nodup_framed (h : P2PTransport.Accounted client) : (framed client.routed).Nodup :=
  (nodup_routes h).of_append_right.filter _

theorem nodup_mailed (h : P2PTransport.Accounted client) :
    (mailed client.routed client.requeued).Nodup := by
  apply List.Nodup.filter
  rw [List.nodup_append']
  refine ⟨(nodup_routes h).of_append_left, ?_, ?_⟩
  · have hFramed := h.framed.nodup_iff.mpr (nodup_routes h).of_append_right
    exact hFramed.of_append_right
  · intro event hMailed hRequeued
    exact (List.nodup_append'.mp (nodup_routes h)).2.2 hMailed (requeued_subset h hRequeued)

end Apart

section Invariant

variable {config : LinkConfig} {libraries : Libraries} {link : TerminalLink ed}

theorem written_perm (written : List Write) :
    (writtenBy true written ++ writtenBy false written).Perm (written.map (·.event)) := by
  rw [writtenBy, writtenBy, ← List.map_append]
  apply List.Perm.map
  have hSplit := List.filter_append_perm (·.framed) written
  simpa using hSplit

theorem Tracked.exactlyOnce (h : Tracked config.libraries link) :
    ExactlyOnce config.libraries link := by
  have hFramed : writtenBy true link.written ⊆ framed link.client.routed := fun event hEvent =>
    h.frames.subset (by simp [hEvent])
  have hMailed : writtenBy false link.written ⊆ mailed link.client.routed link.client.requeued :=
    fun event hEvent => h.matrix.subset (by simp [hEvent])
  constructor
  · rw [← (written_perm link.written).nodup_iff, List.nodup_append']
    refine ⟨?_, ?_, ?_⟩
    · have hAll := h.frames.nodup_iff.mpr (nodup_framed h.client)
      exact hAll.of_append_left.of_append_right
    · have hAll := h.matrix.nodup_iff.mpr (nodup_mailed h.client)
      exact hAll.of_append_right
    · intro event hFrame hMatrix
      have hChannel := List.mem_of_mem_filter (hFramed hFrame)
      rcases List.mem_append.mp (List.mem_of_mem_filter (hMailed hMatrix)) with hAtOnce | hAgain
      · exact (List.nodup_append'.mp (nodup_routes h.client)).2.2 hAtOnce hChannel
      · exact (h.apart event hAgain).2 hFrame
  · intro event hPassed
    obtain ⟨hData, hSent⟩ := h.passed event hPassed
    have hWritten : ∀ framed, event ∈ writtenBy framed link.written →
        event ∈ link.written.map (·.event) := by
      intro framed hEvent
      apply (written_perm link.written).subset
      cases framed with
      | true => exact List.mem_append_left _ hEvent
      | false => exact List.mem_append_right _ hEvent
    have hMatrix : event ∈ mailed link.client.routed link.client.requeued →
        event ∈ link.written.map (·.event) ∨ link.OnItsWay event := by
      intro hMailed
      rcases List.mem_append.mp (h.matrix.symm.subset hMailed) with hWay | hBy
      · exact .inr (.inr (.inr (.inr (.inr (.inl hWay)))))
      · exact .inl (hWritten false hBy)
    rcases List.mem_append.mp hSent with hRouted | hEncrypting
    · rcases List.mem_append.mp ((mailed_append_framed_perm _).symm.subset hRouted)
        with hMailed | hFrame
      · exact hMatrix (List.mem_filter.mpr ⟨List.mem_append_left _ hMailed, hData⟩)
      · have hPlaces := h.frames.symm.subset (List.mem_filter.mpr ⟨hFrame, hData⟩)
        simp only [List.mem_append] at hPlaces
        rcases hPlaces with (((hWay | hWay) | hWay) | hBy) | hLost
        · exact .inr (.inr (.inl hWay))
        · exact .inr (.inr (.inr (.inl hWay)))
        · exact .inr (.inr (.inr (.inr (.inl hWay))))
        · exact .inl (hWritten true hBy)
        · rcases h.lost event hLost with hRequeued | hPending
          · exact hMatrix (List.mem_filter.mpr ⟨List.mem_append_right _ hRequeued, hData⟩)
          · exact .inr (.inr (.inr (.inr (.inr (.inr ⟨hLost, hPending⟩)))))
    · exact .inr (.inl hEncrypting)
  · exact h.carried

theorem tracked_new (context : Core.HandshakeContext) (hasCrypto : Bool) (mux : SessionMux) :
    Tracked config.libraries (TerminalLink.new context hasCrypto mux : TerminalLink ed) := by
  constructor
  · exact P2PTransport.accounted_new context hasCrypto
  · exact List.Perm.refl _
  · exact List.Perm.refl _
  · simp [new, P2PTransport.new]
  · simp [new]
  · simp [new]
  · simp [new]

theorem count_of_getElem? {events : List TerminalEvent} {index : Nat} {event : TerminalEvent}
    (h : events[index]? = some event) (other : TerminalEvent) :
    events.count other = (events.eraseIdx index).count other + [event].count other := by
  obtain ⟨hIndex, rfl⟩ := List.getElem?_eq_some_iff.mp h
  have hPerm := (List.getElem_cons_eraseIdx_perm hIndex).count_eq other
  rw [← hPerm, List.count_cons, List.count_singleton]

theorem writtenBy_concat (brought framed : Bool) (written : List Write) (event : TerminalEvent)
    (sessionId : String) (bytes : Bytes) :
    writtenBy brought (written ++ [⟨event, framed, sessionId, bytes⟩]) =
      writtenBy brought written ++ if framed = brought then [event] else [] := by
  by_cases hSame : framed = brought <;> simp [writtenBy, hSame]

/-- A frame arrives, is decrypted, or gets lost. -/
theorem Tracked.move (h : Tracked config.libraries link) {next : TerminalLink ed}
    (hClient : next.client = link.client) (hMatrix : next.matrix = link.matrix)
    (hPassed : next.passed = link.passed) (hWritten : next.written = link.written)
    (hCount : ∀ event, (next.frames ++ next.decrypting ++ next.inbox ++ next.lost).count event =
      (link.frames ++ link.decrypting ++ link.inbox ++ link.lost).count event)
    (hInbox : ∀ event ∈ next.inbox, event ∈ link.inbox ∨ event ∉ link.client.requeued)
    (hLost : ∀ event ∈ next.lost, event ∈ link.lost ∨ link.client.stock.Held event) :
    Tracked config.libraries next := by
  constructor
  · rw [hClient]
    exact h.client
  · rw [hClient, hWritten, List.perm_iff_count]
    intro event
    have hFrames := h.frames.count_eq event
    have hMoved := hCount event
    simp only [List.count_append] at hFrames hMoved ⊢
    omega
  · rw [hClient, hMatrix, hWritten]
    exact h.matrix
  · rw [hClient, hWritten]
    intro event hRequeued
    refine ⟨fun hEvent => ?_, (h.apart event hRequeued).2⟩
    rcases hInbox event hEvent with hOld | hNew
    · exact (h.apart event hRequeued).1 hOld
    · exact hNew hRequeued
  · rw [hClient]
    intro event hEvent
    exact (hLost event hEvent).elim (h.lost event) id
  · rw [hClient, hPassed]
    exact h.passed
  · rw [hWritten]
    exact h.carried

theorem mem_concat_or {held : TerminalEvent → Prop} {lost : List TerminalEvent}
    {event : TerminalEvent} (hHeld : held event) :
    ∀ other ∈ lost ++ [event], other ∈ lost ∨ held other := by
  intro other hOther
  rcases List.mem_append.mp hOther with hOld | hNew
  · exact .inl hOld
  · rw [List.mem_singleton.mp hNew]
    exact .inr hHeld

theorem Tracked.loseFrame (h : Tracked config.libraries link) {index : Nat}
    {event : TerminalEvent} (hEvent : link.frames[index]? = some event)
    (hHeld : link.client.stock.Held event) (launcher : P2PTransport ed) :
    Tracked config.libraries { link with
      launcher, frames := link.frames.eraseIdx index, lost := link.lost ++ [event] } := by
  refine h.move (by rfl) (by rfl) (by rfl) (by rfl) ?_ (fun _ => .inl) (mem_concat_or hHeld)
  intro other
  have hSplit := count_of_getElem? hEvent other
  simp only [List.count_append]
  omega

theorem Tracked.loseDecrypting (h : Tracked config.libraries link) {index : Nat}
    {event : TerminalEvent} (hEvent : link.decrypting[index]? = some event)
    (hHeld : link.client.stock.Held event) :
    Tracked config.libraries { link with
      decrypting := link.decrypting.eraseIdx index, lost := link.lost ++ [event] } := by
  refine h.move (by rfl) (by rfl) (by rfl) (by rfl) ?_ (fun _ => .inl) (mem_concat_or hHeld)
  intro other
  have hSplit := count_of_getElem? hEvent other
  simp only [List.count_append]
  omega

theorem Tracked.beginDecrypting (h : Tracked config.libraries link) {index : Nat}
    {event : TerminalEvent} (hEvent : link.frames[index]? = some event)
    (launcher : P2PTransport ed) :
    Tracked config.libraries { link with
      launcher
      frames := link.frames.eraseIdx index
      decrypting := link.decrypting ++ [event] } := by
  refine h.move (by rfl) (by rfl) (by rfl) (by rfl) ?_ (fun _ => .inl) (fun _ => .inl)
  intro other
  have hSplit := count_of_getElem? hEvent other
  simp only [List.count_append]
  omega

theorem Tracked.putInInbox (h : Tracked config.libraries link) {index : Nat}
    {event : TerminalEvent} (hEvent : link.decrypting[index]? = some event)
    (hApart : event ∉ link.client.requeued) :
    Tracked config.libraries { link with
      decrypting := link.decrypting.eraseIdx index, inbox := link.inbox ++ [event] } := by
  refine h.move (by rfl) (by rfl) (by rfl) (by rfl) ?_ (mem_concat_or hApart) (fun _ => .inl)
  intro other
  have hSplit := count_of_getElem? hEvent other
  simp only [List.count_append]
  omega

theorem write_of_poll (config : LinkConfig) (link : TerminalLink ed) (event : TerminalEvent)
    (framed : Bool) {value : Option JsValue} {sessionId : String} {bytes : Bytes}
    (hPoll : value.bind (link.mux.poll config.libraries) = some (sessionId, bytes)) :
    link.write config event framed value =
      { link with written := link.written ++ [⟨event, framed, sessionId, bytes⟩] } := by
  rw [TerminalLink.write, hPoll]

theorem framed_append (first second : List Core.Route) :
    framed (first ++ second) = framed first ++ framed second := by
  rw [framed, List.filterMap_append, List.filter_append]
  rfl

theorem count_mailed_append (first second : List Core.Route) (old new : List TerminalEvent)
    (event : TerminalEvent) :
    (mailed (first ++ second) (old ++ new)).count event =
      (mailed first old).count event + (mailed second new).count event := by
  simp only [mailed, List.filterMap_append, List.filter_append, List.count_append]
  omega

theorem Tracked.clientStep (h : Tracked config.libraries link) (input : TransportInput ed)
    (hGuard : Careful config link (.client input)) :
    Tracked config.libraries (link.clientStep config input) := by
  have hMoved := P2PTransport.moved_step config.client config.runtime link.client input
  have hPrefix := hMoved.isPrefix
  have hAccounted := h.client.step config.client config.runtime input
  unfold TerminalLink.clientStep
  generalize link.client.step config.client config.runtime input = client at *
  obtain ⟨⟨routed, hRouted⟩, requeued, hRequeued⟩ := hPrefix
  have hNewRouted : client.routed = link.client.routed ++ routed := hRouted.symm
  have hNewRequeued : client.requeued = link.client.requeued ++ requeued := hRequeued.symm
  constructor
  · exact hAccounted
  · rw [List.perm_iff_count]
    intro event
    have hFrames := h.frames.count_eq event
    simp only [hNewRouted, List.drop_left, framed_append, List.count_append] at hFrames ⊢
    omega
  · rw [List.perm_iff_count]
    intro event
    have hMatrix := h.matrix.count_eq event
    simp only [hNewRouted, hNewRequeued, List.drop_left, count_mailed_append, List.count_append]
      at hMatrix ⊢
    omega
  · intro event hEvent
    rcases hMoved.mem_requeued hEvent with hOld | ⟨hInput, hPending⟩
    · exact h.apart event hOld
    · exact hGuard.1 hInput event hPending
  · intro event hLost
    apply hMoved.held (h.lost event hLost)
    · rintro index rfl hTimer hVerified hStatus hPending
      exact hGuard.2 hTimer hVerified hStatus event hPending hLost
    · rintro channel frame nonce rfl hType hPending
      by_contra hAcked
      exact hGuard.2 hType event hPending (by simpa using hAcked) hLost
  · intro event hEvent
    rcases List.mem_append.mp hEvent with hOld | hNew
    · exact ⟨(h.passed event hOld).1, hMoved.mem_sent (h.passed event hOld).2⟩
    · cases input with
      | sendEvent roomId type contentJson =>
          obtain ⟨hNew, hData⟩ := List.mem_filter.mp hNew
          rw [List.mem_singleton] at hNew
          subst hNew
          exact ⟨hData, hMoved.mem_called (hGuard.2 (of_decide_eq_true hData))⟩
      | _ => cases hNew
  · exact h.carried

theorem carries_concat {written : List Write} {write : Write}
    (h : ∀ old ∈ written, Carries libraries old) (hWrite : Carries libraries write) :
    ∀ old ∈ written ++ [write], Carries libraries old := by
  intro old hOld
  rcases List.mem_append.mp hOld with hBefore | hNew
  · exact h old hBefore
  · rw [List.mem_singleton.mp hNew]
    exact hWrite

theorem Tracked.pollInbox (h : Tracked config.libraries link) {event : TerminalEvent}
    {inbox : List TerminalEvent} {sessionId : String} {bytes : Bytes}
    (hInbox : link.inbox = event :: inbox)
    (hCarries : Carries config.libraries ⟨event, true, sessionId, bytes⟩) :
    Tracked config.libraries { link with
      inbox, written := link.written ++ [⟨event, true, sessionId, bytes⟩] } := by
  have hEvent : event ∈ link.inbox := hInbox ▸ List.mem_cons_self
  constructor
  · exact h.client
  · rw [List.perm_iff_count]
    intro other
    have hFrames := h.frames.count_eq other
    simp only [hInbox, writtenBy_concat, if_true, List.count_append, List.count_cons,
      List.count_nil] at hFrames ⊢
    omega
  · rw [writtenBy_concat, if_neg (by decide), List.append_nil]
    exact h.matrix
  · intro other hRequeued
    obtain ⟨hNotInbox, hNotWritten⟩ := h.apart other hRequeued
    rw [writtenBy_concat, if_pos rfl]
    constructor
    · exact fun hOther => hNotInbox (hInbox ▸ List.mem_cons_of_mem event hOther)
    · intro hOther
      rcases List.mem_append.mp hOther with hOld | hNew
      · exact hNotWritten hOld
      · exact hNotInbox (List.mem_singleton.mp hNew ▸ hEvent)
  · exact h.lost
  · exact h.passed
  · exact carries_concat h.carried hCarries

theorem Tracked.pollMatrix (h : Tracked config.libraries link) {index : Nat}
    {event : TerminalEvent} {sessionId : String} {bytes : Bytes}
    (hEvent : link.matrix[index]? = some event)
    (hCarries : Carries config.libraries ⟨event, false, sessionId, bytes⟩) :
    Tracked config.libraries { link with
      matrix := link.matrix.eraseIdx index
      written := link.written ++ [⟨event, false, sessionId, bytes⟩] } := by
  have hFrames : writtenBy true (link.written ++ [⟨event, false, sessionId, bytes⟩]) =
      writtenBy true link.written := by
    rw [writtenBy_concat, if_neg (by decide), List.append_nil]
  constructor
  · exact h.client
  · rw [hFrames]
    exact h.frames
  · rw [List.perm_iff_count]
    intro other
    have hMatrix := h.matrix.count_eq other
    have hSplit := count_of_getElem? hEvent other
    simp only [writtenBy_concat, if_true, List.count_append] at hMatrix ⊢
    omega
  · rw [hFrames]
    exact h.apart
  · exact h.lost
  · exact h.passed
  · exact carries_concat h.carried hCarries

theorem Tracked.step (h : Tracked config.libraries link) (input : LinkInput ed)
    (hGuard : Careful config link input) :
    Tracked config.libraries (link.step config input) := by
  cases input with
  | client input => exact h.clientStep input hGuard
  | launcher input =>
      exact ⟨h.client, h.frames, h.matrix, h.apart, h.lost, h.passed, h.carried⟩
  | addSession sessionId =>
      exact ⟨h.client, h.frames, h.matrix, h.apart, h.lost, h.passed, h.carried⟩
  | removeSession sessionId =>
      exact ⟨h.client, h.frames, h.matrix, h.apart, h.lost, h.passed, h.carried⟩
  | frame index =>
      simp only [TerminalLink.step]
      cases hEvent : link.frames[index]? with
      | none => exact h
      | some event =>
          dsimp only
          split
          next => exact h.beginDecrypting hEvent _
          next hRefused =>
            exact h.loseFrame hEvent (hGuard event hEvent (by simpa using hRefused)) _
  | frameLost index =>
      simp only [TerminalLink.step]
      cases hEvent : link.frames[index]? with
      | none => exact h
      | some event => exact h.loseFrame hEvent (hGuard event hEvent) _
  | decrypted index =>
      simp only [TerminalLink.step]
      cases hEvent : link.decrypting[index]? with
      | none => exact h
      | some event =>
          have hTaken := hGuard event hEvent
          dsimp only
          split
          next hInput =>
            rw [if_pos hInput] at hTaken
            exact h.putInInbox hEvent hTaken
          next hInput =>
            rw [if_neg hInput] at hTaken
            exact h.loseDecrypting hEvent hTaken
  | decryptFailed index =>
      simp only [TerminalLink.step]
      cases hEvent : link.decrypting[index]? with
      | none => exact h
      | some event => exact h.loseDecrypting hEvent (hGuard event hEvent)
  | pollInbox =>
      simp only [TerminalLink.step]
      cases hInbox : link.inbox with
      | nil => exact h
      | cons event inbox =>
          obtain ⟨content, hParse, hAddressed, hContent, hSender⟩ := hGuard event inbox hInbox
          obtain ⟨sessionId, bytes, hPoll, hSession, hBytes⟩ :=
            poll_of_addressed (contentOf_frame hContent) hSender hAddressed
          dsimp only
          rw [write_of_poll config { link with inbox } event true (by rw [hParse]; exact hPoll)]
          exact h.pollInbox hInbox ⟨content, hParse, hSession, hBytes⟩
  | pollMatrix index =>
      simp only [TerminalLink.step]
      cases hEvent : link.matrix[index]? with
      | none => exact h
      | some event =>
          dsimp only
          split
          next hRoom =>
            obtain ⟨content, hParse, hAddressed, hUser⟩ := hGuard event hEvent hRoom
            obtain ⟨sessionId, bytes, hPoll, hSession, hBytes⟩ := poll_of_addressed
              (contentOf_matrix hAddressed event.type config.clientUserId)
              (by simpa [Json.get?, List.lookup_cons, Json.asStr] using hUser) hAddressed
            rw [write_of_poll config { link with matrix := link.matrix.eraseIdx index } event false
              (by rw [matrixEvent, hParse]; exact hPoll)]
            exact h.pollMatrix hEvent ⟨content, hParse, hSession, hBytes⟩
          next => exact h

end Invariant

/-- Terminal input is written exactly once as long as the client hands over no event
that has come through, and no event is lost that the client does not hold. -/
theorem always_exactlyOnce (config : LinkConfig) (context : Core.HandshakeContext)
    (hasCrypto : Bool) (mux : SessionMux) (inputs : List (LinkInput ed))
    (hGuard : Admissible (step config) (Careful config) (new context hasCrypto mux) inputs) :
    Always (step config) (ExactlyOnce config.libraries) (new context hasCrypto mux) inputs := by
  have hRun : Always (step config) (Tracked config.libraries) (new context hasCrypto mux) inputs :=
    hGuard.always (fun _ input h hInput => h.step input hInput)
      (tracked_new context hasCrypto mux)
  exact hRun.mono fun _ => Tracked.exactlyOnce

section Runs

/-- One key stroke, as the client's sender writes it down. -/
def keyStroke : String :=
  "\x7b\"data\":\"eA==\",\"encoding\":\"base64\",\"seq\":0,\"session_id\":\"s\"\x7d"

def keyStrokeContent : JsValue :=
  .obj [("data", .str "eA=="), ("encoding", .str "base64"), ("seq", .num 0),
    ("session_id", .str "s")]

def linkConfig : LinkConfig where
  client := ⟨"CLIENT", false, true⟩
  launcher := ⟨"WORKER", false, true⟩
  runtime := P2PTransport.plainRuntime
  libraries := ⟨fun text => if text = keyStroke then some keyStrokeContent else none,
    fun bits => bits = 0, fun _ => none⟩
  clientUserId := "@user"

/-- The room of one session, before there is any channel. -/
def start : TerminalLink ed :=
  new P2PTransport.legacyContext true ⟨"!room:x", "@launcher", ["s"]⟩

/-- The legacy handshake on a first channel, at an end that draws this nonce and
hears this one. -/
def handshake (ours theirs : String) : List (TransportInput ed) :=
  [.setDataChannel ours,
    .message 0 (.frame (.obj [("type", .str "peer_verify"), ("nonce", .str theirs),
      ("device_id", .str "d")])) P2PTransport.workerNonce,
    .message 0 (.frame (.obj [("type", .str "peer_verify_response"), ("nonce", .str ours),
      ("device_id", .str "d")])) P2PTransport.workerNonce]

/-- Both ends verify one another. -/
def opening : List (LinkInput ed) :=
  (handshake "6f" "74").map LinkInput.client ++ (handshake "74" "6f").map LinkInput.launcher

/-- A key stroke that comes through on a channel, after which the channel closes. -/
def typedTwice : List (LinkInput ed) :=
  [.client (.sendEvent "!room:x" terminalData keyStroke), .client (.encrypted 0 .fits),
    .frame 0, .decrypted 0, .pollInbox, .client (.channelClosed 0), .launcher (.channelClosed 0),
    .pollMatrix 0]

theorem not_always_exactlyOnce :
    ¬ Always (step linkConfig) (ExactlyOnce linkConfig.libraries)
      (start : TerminalLink P2PTransport.scheme) (opening ++ typedTwice) := by
  intro h
  have hOnce := h.last.once
  revert hOnce
  decide +kernel

def strokeEvent : TerminalEvent := ⟨0, "!room:x", terminalData, keyStroke⟩

/-- A key stroke whose frame is lost with the channel. -/
def typedAgain : List (LinkInput ed) :=
  [.client (.sendEvent "!room:x" terminalData keyStroke), .client (.encrypted 0 .fits),
    .frameLost 0, .client (.channelClosed 0), .launcher (.channelClosed 0), .pollMatrix 0]

theorem always_exactlyOnce_lost :
    Always (step linkConfig) (ExactlyOnce linkConfig.libraries)
      (start : TerminalLink P2PTransport.scheme) (opening ++ typedAgain) := by
  apply always_exactlyOnce
  simp only [opening, typedAgain, handshake, List.map_cons, List.map_nil, List.cons_append,
    List.nil_append, Admissible]
  refine ⟨⟨False.elim, trivial⟩, ⟨False.elim, ?_⟩, ⟨False.elim, ?_⟩, trivial, trivial, trivial,
    ⟨False.elim, ?_⟩, ⟨False.elim, trivial⟩, ?_, ⟨?_, trivial⟩, trivial, ?_, trivial⟩
  · exact fun hType => absurd hType (by decide)
  · exact fun hType => absurd hType (by decide)
  · exact fun _ => rfl
  · intro event hEvent
    obtain rfl : event = strokeEvent := Option.some.inj (hEvent.symm.trans (by decide +kernel))
    exact .inr ⟨by decide +kernel, by decide +kernel⟩
  · intro _ event _
    constructor
    · exact List.eq_nil_iff_forall_not_mem.mp (by decide +kernel) event
    · exact List.eq_nil_iff_forall_not_mem.mp (by decide +kernel) event
  · intro event hEvent _
    obtain rfl : event = strokeEvent := Option.some.inj (hEvent.symm.trans (by decide +kernel))
    refine ⟨keyStrokeContent, rfl, ⟨⟨"s", by decide, by decide, rfl⟩, by decide +kernel⟩, by decide⟩

end Runs

end TerminalLink

end Mxdx.Runtime
