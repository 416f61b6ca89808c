import Mxdx.P2P.NativeChannel
import Mxdx.P2P.WasmChannel

/-! The two backends side by side. They serve the same calls over peer connections that
answer alike, and their outcomes are compared up to the wording of the errors. -/
namespace Mxdx.P2P.Backend.Agreement

open Automaton

/-- An error without its text. -/
def kindOf : ChannelError → ChannelError
  | .invalidSdp _ => .invalidSdp ""
  | .invalidCandidate _ => .invalidCandidate ""
  | .iceInitFailed _ => .iceInitFailed ""
  | .restartIceUnsupported => .restartIceUnsupported
  | .frameTooLarge _ _ => .frameTooLarge 0 0
  | .closed => .closed
  | .backend _ => .backend ""

/-- An outcome without the wording of its error. -/
def outcomeKind : Outcome → Outcome
  | .failed error => .failed (kindOf error)
  | outcome => outcome

/-- The two backends of one side of a call. -/
structure Pair where
  native : NativeWebRtcChannel
  wasm : WasmWebRtcChannel

/-- Both backends as they are made. -/
def Pair.new : Pair := ⟨.new, .new⟩

/-- What happens to both: a call of the trait, or a data channel that the other side opened. -/
inductive Shared where
  | call (request : Call)
  | dataChannel

section Backends

variable (builds : RtcIceCandidateInit → Answer)

/-- Both backends get the same call, or their peer connections make the same callback. -/
def step (pair : Pair) : Shared → Pair
  | .call request => ⟨(pair.native.call request).1, (pair.wasm.call builds request).1⟩
  | .dataChannel =>
      ⟨pair.native.callback .onDataChannel, pair.wasm.callback .onDataChannel⟩

/-- The caller cannot tell the backends apart by what the call comes to. -/
def Agrees (pair : Pair) : Shared → Prop
  | .call request =>
      outcomeKind (pair.native.call request).2 = outcomeKind (pair.wasm.call builds request).2
  | .dataChannel => True

/-- The peer connections do not fail at what only one of them can fail at: they make the data
channel, the description that is asked for and the candidate. -/
def Obliging : Shared → Prop
  | .call (.createOffer _ _ channel described) =>
      channel = .ok () ∧ ∃ sdp, described = .made ⟨.offer, sdp⟩
  | .call (.acceptOffer _ _ _ _ described) => ∃ sdp, described = .made ⟨.answer, sdp⟩
  | .call (.addIceCandidate candidate _) =>
      builds (WasmWebRtcChannel.candidateInit candidate) = .ok ()
  | _ => True

end Backends

/-- The call asks for no local description after the first, and sends nothing on a data
channel that was only opened by the other side. -/
def Proper (pair : Pair) : Shared → Prop
  | .call (.createOffer _ opened _ _) =>
      pair.native.closed = false → (pair.native.pc = true ∨ opened = .ok ()) →
        pair.native.localDescRx = true
  | .call (.acceptOffer _ remote opened installed _) =>
      pair.native.closed = false → remote.kind = .offer →
        (pair.native.pc = true ∨ opened = .ok ()) → installed = .accepted →
        pair.native.localDescRx = true
  | .call (.send _ sent) =>
      pair.native.closed = false → pair.native.dc = true → sent = .ok () → pair.wasm.dc = true
  | _ => True

/-- The backends are in the same state, but for the local description and for a data channel
that the browser's backend has not kept. -/
structure Alike (native : NativeWebRtcChannel) (wasm : WasmWebRtcChannel) : Prop where
  closed : wasm.closed = native.closed
  pc : wasm.pc = native.pc
  ready : wasm.remoteDescSet = native.remoteDescSet
  dc : wasm.dc = true → native.dc = true
  fresh : native.localDescRx = true → native.localDesc = none

/-- The two sides of a call: the backends it leaves behind are alike, and its outcomes are the
same for the caller if and only if `agree` holds. -/
structure Matched (agree : Prop) (native : NativeWebRtcChannel × Outcome)
    (wasm : WasmWebRtcChannel × Outcome) : Prop where
  alike : Alike native.1 wasm.1
  agrees : outcomeKind native.2 = outcomeKind wasm.2 ↔ agree

variable {builds : RtcIceCandidateInit → Answer} {native : NativeWebRtcChannel}
  {wasm : WasmWebRtcChannel}

/-- Either both have no peer connection and get none, or both have one afterwards. -/
theorem Alike.ensurePc (h : Alike native wasm) (servers : List IceServer) (opened : Answer) :
    (¬(native.pc = true ∨ opened = .ok ()) ∧ ∃ text,
      native.ensurePc servers opened = .error (.iceInitFailed text) ∧
      wasm.ensurePc servers opened = .error (.iceInitFailed text)) ∨
    ((native.pc = true ∨ opened = .ok ()) ∧ ∃ native' wasm',
      native.ensurePc servers opened = .ok native' ∧ wasm.ensurePc servers opened = .ok wasm' ∧
      Alike native' wasm' ∧ native'.localDescRx = native.localDescRx) := by
  rw [NativeWebRtcChannel.ensurePc.eq_def, WasmWebRtcChannel.ensurePc.eq_def, h.pc]
  by_cases hPc : native.pc = true
  · rw [if_pos hPc, if_pos hPc]
    exact .inr ⟨.inl hPc, native, wasm, rfl, rfl, h, rfl⟩
  · rw [if_neg hPc, if_neg hPc]
    cases opened with
    | error text => exact .inl ⟨by simp [hPc], text, rfl, rfl⟩
    | ok done => exact .inr ⟨.inr rfl, _, _, rfl, rfl, ⟨h.closed, rfl, h.ready, h.dc, h.fresh⟩, rfl⟩

/-- Draining touches what was held back and what has been asked for, nothing else. -/
theorem drain_native (native : NativeWebRtcChannel) :
    ∃ effects, native.drainPendingCandidates =
      { native with pendingCandidates := [], effects := effects } := by
  unfold NativeWebRtcChannel.drainPendingCandidates
  dsimp only
  split <;> exact ⟨_, rfl⟩

/-- Draining touches what was held back and what has been asked for, nothing else. -/
theorem drain_wasm (builds : RtcIceCandidateInit → Answer) (wasm : WasmWebRtcChannel) :
    ∃ effects, wasm.drainPendingCandidates builds =
      { wasm with pendingCandidates := [], effects := effects } := by
  unfold WasmWebRtcChannel.drainPendingCandidates
  dsimp only
  split <;> exact ⟨_, rfl⟩

/-- Either both refuse the description, or both have it afterwards. -/
theorem Alike.setRemoteDescription (h : Alike native wasm)
    (builds : RtcIceCandidateInit → Answer) (remote : Sdp) (installed : Installed) :
    (installed ≠ .accepted ∧ ∃ text other,
      native.setRemoteDescription remote installed = .error (.invalidSdp text) ∧
      wasm.setRemoteDescription builds remote installed = .error (.invalidSdp other)) ∨
    (installed = .accepted ∧ ∃ native' wasm',
      native.setRemoteDescription remote installed = .ok native' ∧
      wasm.setRemoteDescription builds remote installed = .ok wasm' ∧
      Alike native' wasm' ∧ native'.localDescRx = native.localDescRx) := by
  cases installed with
  | unparsed text => exact .inl ⟨by simp, _, _, rfl, rfl⟩
  | refused text => exact .inl ⟨by simp, _, _, rfl, rfl⟩
  | accepted =>
      obtain ⟨effects, hNative⟩ :=
        drain_native ({ native with remoteDescSet := true }.record (.installed remote))
      obtain ⟨others, hWasm⟩ := drain_wasm builds
        ({ wasm with remoteDescSet := true }.record (.installed remote))
      refine .inr ⟨rfl, _, _, congrArg Except.ok hNative, congrArg Except.ok hWasm, ?_, rfl⟩
      exact ⟨h.closed, h.pc, rfl, h.dc, h.fresh⟩

/-- Whoever takes the description, the receiver is gone. -/
theorem awaitLocal_state (native : NativeWebRtcChannel) (wanted : SdpKind) (twice : String) :
    (native.awaitLocal wanted twice).1 = { native with localDescRx := false } := by
  unfold NativeWebRtcChannel.awaitLocal
  split
  · dsimp only
    split
    · rfl
    · split
      · rfl
      · split <;> rfl
  · rename_i hRx
    rw [← Bool.eq_false_iff.mpr hRx]

/-- The first description is handed over; there is no second one. -/
theorem awaitLocal_fire (hFresh : native.localDescRx = true → native.localDesc = none)
    (kind : SdpKind) (sdp twice : String) :
    ((native.fire (.made ⟨kind.toSdpType, sdp⟩)).awaitLocal kind twice).2 =
      if native.localDescRx then .described ⟨kind, sdp⟩ else .failed (.backend twice) := by
  cases hRx : native.localDescRx with
  | false =>
      simp [NativeWebRtcChannel.fire, NativeWebRtcChannel.onDescription,
        NativeWebRtcChannel.awaitLocal, hRx]
  | true =>
      have hNone := hFresh hRx
      cases kind <;>
        simp [NativeWebRtcChannel.fire, NativeWebRtcChannel.onDescription,
          NativeWebRtcChannel.awaitLocal, NativeWebRtcChannel.fromSessionDescription,
          SdpKind.toSdpType, hRx, hNone]

/-- A condition may be put in other words. -/
theorem Matched.congr {first second : Prop} {left : NativeWebRtcChannel × Outcome}
    {right : WasmWebRtcChannel × Outcome} (h : Matched first left right)
    (hIff : first ↔ second) : Matched second left right :=
  ⟨h.alike, h.agrees.trans hIff⟩

/-- A call that ends the same way on both sides. -/
theorem Alike.same (h : Alike native wasm) {agree : Prop} {first second : Outcome}
    (hKind : outcomeKind first = outcomeKind second) (hAgree : agree) :
    Matched agree (native, first) (wasm, second) :=
  ⟨h, iff_of_true hKind hAgree⟩

/-- The end of `create_offer` and of `accept_offer`. -/
theorem Alike.describe (h : Alike native wasm) (kind : SdpKind)
    (sdp twice name create : String) :
    Matched (native.localDescRx = true)
      ((native.fire (.made ⟨kind.toSdpType, sdp⟩)).awaitLocal kind twice)
      (wasm.describe kind name create (.made ⟨kind.toSdpType, sdp⟩)) where
  alike := by
    rw [awaitLocal_state]
    exact ⟨h.closed, h.pc, h.ready, h.dc, fun hRx => absurd hRx Bool.false_ne_true⟩
  agrees := by
    rw [awaitLocal_fire h.fresh, WasmWebRtcChannel.describe]
    cases native.localDescRx <;> simp [outcomeKind]

section Calls

variable (h : Alike native wasm)
include h

/-- Only a second wait for a description makes a difference. -/
theorem matched_createOffer (servers : List IceServer) (opened : Answer) (sdp : String) :
    Matched (native.closed = false → (native.pc = true ∨ opened = .ok ()) →
        native.localDescRx = true)
      (native.createOffer servers opened (.ok ()) (.made ⟨.offer, sdp⟩))
      (wasm.createOffer servers opened (.made ⟨.offer, sdp⟩)) := by
  unfold NativeWebRtcChannel.createOffer WasmWebRtcChannel.createOffer
  rw [h.closed]
  by_cases hClosed : native.closed = true
  · rw [if_pos hClosed, if_pos hClosed]
    exact h.same rfl fun hOpen => absurd (hOpen.symm.trans hClosed) Bool.false_ne_true
  · have hOpen := Bool.eq_false_iff.mpr hClosed
    rw [if_neg hClosed, if_neg hClosed]
    rcases h.ensurePc servers opened with ⟨hNone, text, hNative, hWasm⟩ |
      ⟨hSome, native', wasm', hNative, hWasm, hAlike, hRx⟩
    · rw [hNative, hWasm]
      exact h.same rfl fun _ hSome => absurd hSome hNone
    · rw [hNative, hWasm]
      have hMade : Alike ({ native' with dc := true }.record (.madeDataChannel dataChannelLabel))
          ({ wasm' with dc := true }.record (.madeDataChannel dataChannelLabel)) :=
        ⟨hAlike.closed, hAlike.pc, hAlike.ready, fun _ => rfl, hAlike.fresh⟩
      exact (hMade.describe .offer sdp _ _ _).congr
        ⟨fun hFirst _ _ => hRx.symm.trans hFirst, fun hFirst => hRx.trans (hFirst hOpen hSome)⟩

/-- Only a second wait for a description makes a difference. -/
theorem matched_acceptOffer (servers : List IceServer) (remote : Sdp) (opened : Answer)
    (installed : Installed) (sdp : String) :
    Matched (native.closed = false → remote.kind = .offer →
        (native.pc = true ∨ opened = .ok ()) → installed = .accepted → native.localDescRx = true)
      (native.acceptOffer servers remote opened installed (.made ⟨.answer, sdp⟩))
      (wasm.acceptOffer builds servers remote opened installed (.made ⟨.answer, sdp⟩)) := by
  unfold NativeWebRtcChannel.acceptOffer WasmWebRtcChannel.acceptOffer
  rw [h.closed]
  by_cases hClosed : native.closed = true
  · rw [if_pos hClosed, if_pos hClosed]
    exact h.same rfl fun hOpen => absurd (hOpen.symm.trans hClosed) Bool.false_ne_true
  · have hOpen := Bool.eq_false_iff.mpr hClosed
    rw [if_neg hClosed, if_neg hClosed]
    by_cases hKind : remote.kind ≠ .offer
    · rw [if_pos hKind, if_pos hKind]
      exact h.same rfl fun _ hOffer => absurd hOffer hKind
    · rw [if_neg hKind, if_neg hKind]
      rcases h.ensurePc servers opened with ⟨hNone, text, hNative, hWasm⟩ |
        ⟨hSome, native', wasm', hNative, hWasm, hAlike, hRx⟩
      · rw [hNative, hWasm]
        exact h.same rfl fun _ _ hSome => absurd hSome hNone
      · rw [hNative, hWasm]
        dsimp only
        rcases hAlike.setRemoteDescription builds remote installed with
          ⟨hRefused, text, other, hLeft, hRight⟩ |
          ⟨hTaken, native'', wasm'', hLeft, hRight, hInstalled, hRx'⟩
        · rw [hLeft, hRight]
          exact hAlike.same rfl fun _ _ _ hTaken => absurd hTaken hRefused
        · rw [hLeft, hRight]
          have hSameRx := hRx'.trans hRx
          exact (hInstalled.describe .answer sdp _ _ _).congr
            ⟨fun hFirst _ _ _ _ => hSameRx.symm.trans hFirst,
              fun hFirst => hSameRx.trans (hFirst hOpen (not_not.mp hKind) hSome hTaken)⟩

/-- An answer waits for no description. -/
theorem matched_acceptAnswer (remote : Sdp) (installed : Installed) :
    Matched True (native.acceptAnswer remote installed)
      (wasm.acceptAnswer builds remote installed) := by
  unfold NativeWebRtcChannel.acceptAnswer WasmWebRtcChannel.acceptAnswer
  rw [h.closed, h.pc]
  split
  · exact h.same rfl trivial
  · split
    · exact h.same rfl trivial
    · split
      · exact h.same rfl trivial
      · rcases h.setRemoteDescription builds remote installed with
          ⟨_, text, other, hLeft, hRight⟩ | ⟨_, native', wasm', hLeft, hRight, hInstalled, _⟩
        · rw [hLeft, hRight]
          exact h.same rfl trivial
        · rw [hLeft, hRight]
          exact hInstalled.same rfl trivial

/-- A candidate that the browser can build is treated alike. -/
theorem matched_addIceCandidate (candidate : IceCandidate) (added : Answer)
    (hBuilds : builds (WasmWebRtcChannel.candidateInit candidate) = .ok ()) :
    Matched True (native.addIceCandidate candidate added)
      (wasm.addIceCandidate builds candidate added) := by
  unfold NativeWebRtcChannel.addIceCandidate WasmWebRtcChannel.addIceCandidate
  by_cases hClosed : native.closed = true
  · rw [if_pos hClosed, if_pos (h.closed.trans hClosed)]
    exact h.same rfl trivial
  · have hWasmClosed : ¬wasm.closed = true := by rwa [h.closed]
    have hWaits : (!wasm.remoteDescSet || !wasm.pc) = (!native.remoteDescSet || !native.pc) := by
      rw [h.ready, h.pc]
    rw [if_neg hClosed, if_neg hWasmClosed]
    by_cases hWait : (!native.remoteDescSet || !native.pc) = true
    · rw [if_pos hWait, if_pos (hWaits.trans hWait)]
      exact ⟨⟨h.closed, h.pc, h.ready, h.dc, h.fresh⟩, iff_of_true rfl trivial⟩
    · rw [if_neg hWait, if_neg fun hWasm => hWait (hWaits.symm.trans hWasm), hBuilds]
      cases added <;>
        exact ⟨⟨h.closed, h.pc, h.ready, h.dc, h.fresh⟩, iff_of_true rfl trivial⟩

/-- What was sent counts on both sides that have a channel. -/
theorem matched_send (frame : Bytes) (sent : Answer) :
    Matched (native.closed = false → native.dc = true → sent = .ok () → wasm.dc = true)
      (native.send frame sent) (wasm.send frame sent) := by
  rw [NativeWebRtcChannel.send.eq_def, WasmWebRtcChannel.send.eq_def, h.closed]
  by_cases hClosed : native.closed = true
  · rw [if_pos hClosed, if_pos hClosed]
    exact h.same rfl fun hOpen => absurd (hOpen.symm.trans hClosed) Bool.false_ne_true
  · have hOpen := Bool.eq_false_iff.mpr hClosed
    rw [if_neg hClosed, if_neg hClosed]
    cases hNative : native.dc with
    | false =>
        have hWasm : wasm.dc = false :=
          Bool.eq_false_iff.mpr fun hTrue => Bool.false_ne_true (hNative.symm.trans (h.dc hTrue))
        rw [hWasm]
        exact h.same rfl fun _ hTrue => absurd hTrue Bool.false_ne_true
    | true =>
        cases hWasm : wasm.dc with
        | true =>
            cases sent with
            | error text => exact h.same rfl fun _ _ _ => rfl
            | ok done =>
                exact ⟨⟨h.closed, h.pc, h.ready, h.dc, h.fresh⟩, iff_of_true rfl fun _ _ _ => rfl⟩
        | false =>
            -- both refuse, or only the one that has kept the channel sends
            cases sent with
            | error text => exact h.same rfl fun _ _ hSent => by cases hSent
            | ok done =>
                refine ⟨⟨h.closed, h.pc, h.ready, h.dc, h.fresh⟩, iff_of_false ?_ ?_⟩
                · exact fun hSame => by cases hSame
                · exact fun hAll => Bool.false_ne_true (hAll hOpen rfl rfl)

/-- Closing is the same on both sides. -/
theorem matched_close (reason : String) :
    Matched True (native.close reason) (wasm.close reason) := by
  unfold NativeWebRtcChannel.close WasmWebRtcChannel.close
  rw [h.closed]
  split
  · exact h.same rfl trivial
  · exact ⟨⟨rfl, rfl, h.ready, id, h.fresh⟩, iff_of_true rfl trivial⟩

end Calls

/-- One step of both: they stay alike, and they agree on it if and only if it is proper. -/
theorem Alike.step (h : Alike native wasm) {input : Shared} (hInput : Obliging builds input) :
    Alike (step builds ⟨native, wasm⟩ input).native (step builds ⟨native, wasm⟩ input).wasm ∧
      (Agrees builds ⟨native, wasm⟩ input ↔ Proper ⟨native, wasm⟩ input) := by
  have hServed {agree : Prop} {request : Call}
      (hMatched : Matched agree (native.call request) (wasm.call builds request)) :
      Alike (native.call request).1 (wasm.call builds request).1 ∧
        (Agrees builds ⟨native, wasm⟩ (.call request) ↔ agree) := ⟨hMatched.alike, hMatched.agrees⟩
  cases input with
  | dataChannel => exact ⟨⟨h.closed, h.pc, h.ready, fun _ => rfl, h.fresh⟩, Iff.rfl⟩
  | call request =>
      cases request with
      | createOffer servers opened channel described =>
          obtain ⟨rfl, sdp, rfl⟩ := hInput
          exact hServed (matched_createOffer h servers opened sdp)
      | acceptOffer servers remote opened installed described =>
          obtain ⟨sdp, rfl⟩ := hInput
          exact hServed (matched_acceptOffer h servers remote opened installed sdp)
      | acceptAnswer remote installed => exact hServed (matched_acceptAnswer h remote installed)
      | addIceCandidate candidate added =>
          exact hServed (matched_addIceCandidate h candidate added hInput)
      | restartIce servers => exact hServed (h.same rfl trivial)
      | send frame sent => exact hServed (matched_send h frame sent)
      | close reason => exact hServed (matched_close h reason)

/-- Under peer connections that answer alike, the caller can tell the backends apart if and
only if it asks for a second local description, or sends on a data channel that only the other
side opened: libdatachannel's backend refuses the first, the browser's the second. -/
theorem agrees_iff_proper (builds : RtcIceCandidateInit → Answer) {inputs : List Shared}
    (hInputs : ∀ input ∈ inputs, Obliging builds input) :
    Admissible (step builds) (Agrees builds) .new inputs ↔
      Admissible (step builds) Proper .new inputs := by
  suffices hFrom : ∀ pair : Pair, Alike pair.native pair.wasm →
      (Admissible (step builds) (Agrees builds) pair inputs ↔
        Admissible (step builds) Proper pair inputs) from
    hFrom .new ⟨rfl, rfl, rfl, id, fun _ => rfl⟩
  induction inputs with
  | nil => exact fun _ _ => Iff.rfl
  | cons input rest ih =>
      intro pair hPair
      obtain ⟨hInput, hRest⟩ := List.forall_mem_cons.mp hInputs
      obtain ⟨hNext, hAgrees⟩ := hPair.step hInput
      exact and_congr hAgrees (ih hRest _ hNext)

/-- A browser makes no candidate that names neither a media line nor its index. -/
def browserBuilds (init : RtcIceCandidateInit) : Answer :=
  if init.sdpMid.isSome || init.sdpMLineIndex.isSome then .ok ()
  else .error "TypeError"

/-- The side that takes the offer, and answers the first frame. -/
def answering : List Shared :=
  [.call (.acceptOffer [] ⟨.offer, "v=0"⟩ (.ok ()) .accepted (.made ⟨.answer, "v=0"⟩)),
    .call (.addIceCandidate ⟨"candidate:1", some "0", some 0⟩ (.ok ())),
    .dataChannel, .call (.send [7] (.ok ()))]

theorem answering_told_apart :
    ¬Admissible (step browserBuilds) (Agrees browserBuilds) .new answering := by
  have hInputs : ∀ input ∈ answering, Obliging browserBuilds input := by
    simp [answering, Obliging, browserBuilds, WasmWebRtcChannel.candidateInit]
  rw [agrees_iff_proper browserBuilds hInputs]
  rintro ⟨_, _, _, hSend, _⟩
  exact Bool.false_ne_true (hSend rfl rfl rfl)

end Mxdx.P2P.Backend.Agreement
