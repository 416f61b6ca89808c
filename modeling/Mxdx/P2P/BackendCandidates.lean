import Mxdx.P2P.NativeChannel
import Mxdx.P2P.WasmChannel

/-! The candidates of the other side on their way to the peer connection. Both backends hold
them back until the remote description is there, and then give every one of them once. -/
namespace Mxdx.P2P.Backend

open Automaton

/-- What of a backend matters to the candidates. -/
structure View (Config Candidate : Type) where
  pc : Bool
  ready : Bool
  closed : Bool
  pending : List IceCandidate
  given : List Candidate

variable {Config Candidate : Type}

namespace View

/-- What one step can do to the candidates, with those that it takes in and whether it
closes the channel. -/
inductive Step (convert : IceCandidate → Option Candidate) (view : View Config Candidate) :
    List IceCandidate → Bool → View Config Candidate → Prop where
  | same : Step convert view [] false view
  | connect : Step convert view [] false { view with pc := true }
  | install : Step convert view [] false
      { view with
        pc := true
        ready := true
        pending := []
        given := view.given ++ view.pending.filterMap convert }
  | keep (candidate : IceCandidate) (hReady : view.ready = false) :
      Step convert view [candidate] false { view with pending := view.pending ++ [candidate] }
  | give (candidate : IceCandidate) (hReady : view.ready = true) :
      Step convert view [candidate] false
        { view with given := view.given ++ (convert candidate).toList }
  | close (pc : Bool) : Step convert view [] true { view with pc := pc, closed := true }

/-- The peer connection lives as long as a channel that has the remote description. -/
def Alive (view : View Config Candidate) : Prop :=
  view.ready = true → view.closed = false → view.pc = true

/-- The candidates are where a buffer that waits for the remote description has them. -/
structure Shows (convert : IceCandidate → Option Candidate) (hold : Holdback IceCandidate)
    (view : View Config Candidate) : Prop where
  alive : view.Alive
  ready : hold.ready = view.ready
  held : hold.held = view.pending
  given : view.given = hold.passed.filterMap convert

variable {convert : IceCandidate → Option Candidate} {hold : Holdback IceCandidate}
  {view next : View Config Candidate} {taken : List IceCandidate} {closes : Bool}

/-- A channel is closed from the call that closes it on. -/
theorem Step.closed (h : Step convert view taken closes next) :
    next.closed = (view.closed || closes) := by
  cases h <;> simp

/-- No step takes the peer connection away but the one that closes. -/
theorem Step.alive (h : Step convert view taken closes next) (hAlive : view.Alive) :
    next.Alive := by
  cases h with
  | connect => exact fun _ _ => rfl
  | install => exact fun _ _ => rfl
  | close pc => exact fun _ hClosed => absurd hClosed.symm Bool.false_ne_true
  | _ => exact hAlive

/-- Every step of a backend is one of the buffer's, or none. -/
theorem Shows.step (h : Shows convert hold view) (hStep : Step convert view taken closes next) :
    ∃ after : Holdback IceCandidate, Shows convert after next ∧
      after.contents = hold.contents ++ taken := by
  have hAlive := hStep.alive h.alive
  cases hStep with
  | same => exact ⟨hold, h, (List.append_nil _).symm⟩
  | connect => exact ⟨hold, ⟨hAlive, h.ready, h.held, h.given⟩, (List.append_nil _).symm⟩
  | close pc => exact ⟨hold, ⟨hAlive, h.ready, h.held, h.given⟩, (List.append_nil _).symm⟩
  | install =>
      refine ⟨hold.release, ⟨hAlive, rfl, rfl, ?_⟩, ?_⟩
      · dsimp only
        rw [h.given, ← h.held, ← List.filterMap_append]
        rfl
      · rw [Holdback.contents_release, List.append_nil]
  | keep candidate hReady =>
      have hWaits : hold.ready = false := h.ready.trans hReady
      refine ⟨hold.put candidate, ⟨hAlive, ?_, ?_, ?_⟩, Holdback.contents_put hold candidate⟩
      · rw [Holdback.put_ready, h.ready]
      · rw [Holdback.put_held_of_not_ready hWaits, h.held]
      · rw [Holdback.put_passed_of_not_ready hWaits, h.given]
  | give candidate hReady =>
      have hThere : hold.ready = true := h.ready.trans hReady
      refine ⟨hold.put candidate, ⟨hAlive, ?_, ?_, ?_⟩, Holdback.contents_put hold candidate⟩
      · rw [Holdback.put_ready, h.ready]
      · rw [Holdback.put_held_of_ready hThere, h.held]
      · rw [Holdback.put_passed_of_ready hThere, List.filterMap_append, h.given]
        cases hConvert : convert candidate <;> simp [hConvert]

end View

/-- The candidates that have `come` reach the peer connection once and in their order: none of
them before the remote description, and none waits once that is there. -/
structure Relayed (convert : IceCandidate → Option Candidate) (come : List IceCandidate)
    (view : View Config Candidate) : Prop where
  whole : ∃ passed, passed ++ view.pending = come ∧ view.given = passed.filterMap convert
  early : view.ready = false → view.given = []
  late : view.ready = true → view.pending = []

/-- What is held back and what has passed is everything that was offered. -/
theorem View.Shows.relayed {convert : IceCandidate → Option Candidate}
    {hold : Holdback IceCandidate} {view : View Config Candidate}
    (h : View.Shows convert hold view) : Relayed convert hold.contents view where
  whole := ⟨hold.passed, by rw [← h.held, Holdback.contents], h.given⟩
  early := fun hReady => by rw [h.given, hold.untouched (h.ready.trans hReady)]; rfl
  late := fun hReady => by rw [← h.held, hold.drained (h.ready.trans hReady)]

section Inputs

variable {Callback : Type}

/-- Whether an input asks the channel to close. -/
def Input.closes : Input Callback → Bool
  | .call (.close _) => true
  | _ => false

/-- The candidate that an input brings. -/
def Input.candidates : Input Callback → List IceCandidate
  | .call (.addIceCandidate candidate _) => [candidate]
  | _ => []

/-- What comes behind the closing call does not count. -/
theorem offered_cons (input : Input Callback) (rest : List (Input Callback)) :
    offered (input :: rest) =
      if input.closes then [] else input.candidates ++ offered rest := by
  cases input with
  | call request => cases request <;> rfl
  | callback event => rfl
  | recv => rfl

end Inputs

section Given

@[simp] theorem given_append (first second : List (Effect Config Candidate)) :
    given (first ++ second) = given first ++ given second :=
  List.filterMap_append ..

/-- Candidates that are handed over one by one are those that were given. -/
@[simp] theorem given_map_gave (candidates : List Candidate) :
    given (candidates.map .gave : List (Effect Config Candidate)) = candidates := by
  induction candidates with
  | nil => rfl
  | cons candidate rest ih => exact congrArg (candidate :: ·) ih

/-- Other effects give no candidate. -/
theorem given_concat_of_none (effects : List (Effect Config Candidate))
    {effect : Effect Config Candidate} (h : effect.candidate? = none) :
    given (effects ++ [effect]) = given effects := by
  rw [given_append, given, given, List.filterMap_cons_none h]
  exact List.append_nil _

/-- A candidate that is handed over is the last that was given. -/
theorem given_concat_gave (effects : List (Effect Config Candidate)) (candidate : Candidate) :
    given (effects ++ [.gave candidate]) = given effects ++ [candidate] :=
  given_append ..

end Given

section Runs

variable {Callback Channel : Type} {step : Channel → Input Callback → Channel}
  {view : Channel → View Config Candidate} {convert : IceCandidate → Option Candidate}
  (hStep : ∀ channel input, (view channel).Alive →
    View.Step convert (view channel)
      (if (view channel).closed then [] else input.candidates)
      (!(view channel).closed && input.closes) (view (step channel input)))
include hStep

/-- A backend that steps its view relays all that it is asked to add before it is closed. -/
theorem shows_run (inputs : List (Input Callback)) {channel : Channel}
    {hold : Holdback IceCandidate} (h : View.Shows convert hold (view channel)) :
    ∃ after : Holdback IceCandidate, View.Shows convert after (view (run step channel inputs)) ∧
      after.contents =
        hold.contents ++ if (view channel).closed then [] else offered inputs := by
  induction inputs generalizing channel hold with
  | nil => exact ⟨hold, h, by simp [offered]⟩
  | cons input rest ih =>
      have hInput := hStep channel input h.alive
      obtain ⟨middle, hMiddle, hContents⟩ := h.step hInput
      obtain ⟨after, hAfter, hRest⟩ := ih hMiddle
      refine ⟨after, hAfter, ?_⟩
      rw [hRest, hContents, hInput.closed, offered_cons, List.append_assoc]
      cases (view channel).closed <;> cases hCloses : input.closes
      · rfl
      · have hNone : input.candidates = [] := by
          cases input with
          | call request => cases request <;> first | rfl | cases hCloses
          | callback event => rfl
          | recv => rfl
        simp [hNone]
      · rfl
      · rfl

/-- What a channel that starts out empty has done by the end of a run. -/
theorem relayed_run {channel : Channel} (hPending : (view channel).pending = [])
    (hReady : (view channel).ready = false) (hGiven : (view channel).given = [])
    (hOpen : (view channel).closed = false) (inputs : List (Input Callback)) :
    Relayed convert (offered inputs) (view (run step channel inputs)) := by
  have hNew : View.Shows convert Holdback.new (view channel) :=
    ⟨fun hTrue => absurd (hReady.symm.trans hTrue) Bool.false_ne_true, hReady.symm,
      hPending.symm, hGiven⟩
  obtain ⟨hold, hShows, hContents⟩ := shows_run hStep inputs hNew
  rw [if_neg (by simp [hOpen])] at hContents
  have hOffered : hold.contents = offered inputs := hContents
  exact hOffered ▸ hShows.relayed

end Runs

section Calls

variable {Callback Channel : Type} {parts : Parts Channel}
  {view : Channel → View Config Candidate} {convert : IceCandidate → Option Candidate}

/-- What the parts of a backend do to the candidates. -/
structure Parts.Relays (parts : Parts Channel) (view : Channel → View Config Candidate)
    (convert : IceCandidate → Option Candidate) : Prop where
  closed : ∀ self, (view self).closed = parts.closed self
  pc : ∀ self, (view self).pc = parts.pc self
  ready : ∀ self, (view self).ready = parts.ready self
  ensurePc : ∀ {self next servers opened},
    parts.ensurePc self servers opened = .ok next → view next = { view self with pc := true }
  offer : ∀ self channel described, view (parts.offer self channel described).1 = view self
  setRemoteDescription : ∀ {self next remote installed}, (view self).pc = true →
    parts.setRemoteDescription self remote installed = .ok next →
    view next = { view self with
      pc := true
      ready := true
      pending := []
      given := (view self).given ++ (view self).pending.filterMap convert }
  answer : ∀ self described, view (parts.answer self described).1 = view self
  hold : ∀ self candidate, view (parts.hold self candidate) =
    { view self with pending := (view self).pending ++ [candidate] }
  give : ∀ self candidate added, view (parts.give self candidate added).1 =
    { view self with given := (view self).given ++ (convert candidate).toList }
  transmit : ∀ self frame, view (parts.transmit self frame) = view self
  shut : ∀ self reason, view (parts.shut self reason) =
    { view self with pc := false, closed := true }

/-- What each call does to the candidates of a channel that is not closed. -/
theorem Parts.Relays.call (h : parts.Relays view convert) {self : Channel}
    (hAlive : (view self).Alive) (hOpen : (view self).closed = false) (request : Call) :
    View.Step convert (view self) (.call request : Input Callback).candidates
      (.call request : Input Callback).closes (view (parts.call self request).1) := by
  have hPartsOpen : ¬ parts.closed self = true := by simp [← h.closed, hOpen]
  cases request with
  | createOffer servers opened channel described =>
      rw [Parts.call, if_neg hPartsOpen]
      cases hEnsure : parts.ensurePc self servers opened with
      | error error => exact .same
      | ok next =>
          dsimp only
          rw [h.offer, h.ensurePc hEnsure]
          exact .connect
  | acceptOffer servers remote opened installed described =>
      rw [Parts.call, if_neg hPartsOpen]
      split
      · exact .same
      · cases hEnsure : parts.ensurePc self servers opened with
        | error error => exact .same
        | ok connected =>
            have hConnected := h.ensurePc hEnsure
            dsimp only
            cases hRemote : parts.setRemoteDescription connected remote installed with
            | error error => exact hConnected ▸ View.Step.connect
            | ok next =>
                have hPc : (view connected).pc = true := congrArg View.pc hConnected
                dsimp only
                rw [h.answer, h.setRemoteDescription hPc hRemote, hConnected]
                exact .install
  | acceptAnswer remote installed =>
      rw [Parts.call, if_neg hPartsOpen]
      split
      · exact .same
      · split
        · exact .same
        · rename_i hNotMissing
          have hPc : (view self).pc = true := by simpa [h.pc] using hNotMissing
          cases hRemote : parts.setRemoteDescription self remote installed with
          | error error => exact .same
          | ok next =>
              dsimp only
              rw [h.setRemoteDescription hPc hRemote]
              exact .install
  | addIceCandidate candidate added =>
      rw [Parts.call, if_neg hPartsOpen, ← h.ready, ← h.pc]
      cases hReady : (view self).ready with
      | true =>
          rw [hAlive hReady hOpen, if_neg (by simp), h.give]
          exact .give candidate hReady
      | false =>
          rw [if_pos (by simp), h.hold]
          exact .keep candidate hReady
  | restartIce servers => exact .same
  | send frame sent =>
      rw [Parts.call.eq_def]
      dsimp only
      rw [if_neg hPartsOpen]
      split
      · exact .same
      · cases sent with
        | error text => exact .same
        | ok done => exact (h.transmit self frame).symm ▸ View.Step.same
  | close reason =>
      rw [Parts.call, if_neg hPartsOpen, h.shut]
      exact .close false

/-- A closed channel does nothing more. -/
theorem Parts.call_closed {self : Channel} (hClosed : parts.closed self = true)
    (request : Call) : (parts.call self request).1 = self := by
  cases request <;> simp [Parts.call.eq_def, hClosed]

/-- A backend whose callbacks and reads leave the candidates alone. -/
theorem Parts.Relays.step (h : parts.Relays view convert)
    {step : Channel → Input Callback → Channel}
    (hCall : ∀ self request, step self (.call request) = (parts.call self request).1)
    (hCallback : ∀ self callback, view (step self (.callback callback)) = view self)
    (hRecv : ∀ self, view (step self .recv) = view self) (self : Channel)
    (input : Input Callback) (hAlive : (view self).Alive) :
    View.Step convert (view self) (if (view self).closed then [] else input.candidates)
      (!(view self).closed && input.closes) (view (step self input)) := by
  cases hClosed : (view self).closed with
  | false =>
      cases input with
      | call request => exact hCall self request ▸ h.call hAlive hClosed request
      | callback event => exact (hCallback self event).symm ▸ View.Step.same
      | recv => exact (hRecv self).symm ▸ View.Step.same
  | true =>
      have hSame : view (step self input) = view self := by
        cases input with
        | call request =>
            rw [hCall, Parts.call_closed ((h.closed self).symm.trans hClosed)]
        | callback event => exact hCallback self event
        | recv => exact hRecv self
      exact hSame.symm ▸ View.Step.same

end Calls

namespace NativeWebRtcChannel

/-- What of the channel matters to the candidates. -/
def view (self : NativeWebRtcChannel) : View (List String) RawCandidate :=
  ⟨self.pc, self.remoteDescSet, self.closed, self.pendingCandidates, given self.effects⟩

variable {self next : NativeWebRtcChannel}

@[simp] theorem view_push (self : NativeWebRtcChannel) (event : ChannelEvent) :
    (self.push event).view = self.view := rfl

@[simp] theorem view_onDescription (self : NativeWebRtcChannel)
    (description : SessionDescription) : (self.onDescription description).view = self.view := rfl

@[simp] theorem view_fire (self : NativeWebRtcChannel) (described : LocalDescription) :
    (self.fire described).view = self.view := by
  cases described <;> rfl

@[simp] theorem view_awaitLocal (self : NativeWebRtcChannel) (wanted : SdpKind) (twice : String) :
    (self.awaitLocal wanted twice).1.view = self.view := by
  unfold awaitLocal
  split
  · dsimp only
    split
    · rfl
    · split
      · rfl
      · split <;> rfl
  · rfl

theorem view_record (self : NativeWebRtcChannel) {effect : Effect (List String) RawCandidate}
    (h : effect.candidate? = none) : (self.record effect).view = self.view := by
  rw [view, view, record, given_concat_of_none _ h]

theorem view_record_gave (self : NativeWebRtcChannel) (candidate : RawCandidate) :
    (self.record (.gave candidate)).view =
      { self.view with given := self.view.given ++ [candidate] } := by
  rw [view, view, record, given_concat_gave]

/-- A peer connection is there afterwards, and nothing else of the view has changed. -/
theorem view_ensurePc {servers : List IceServer} {opened : Answer}
    (h : self.ensurePc servers opened = .ok next) : next.view = { self.view with pc := true } := by
  unfold ensurePc at h
  split at h
  · rename_i hPc
    cases h
    simp [view, hPc]
  · split at h
    · cases h
    · cases h
      exact view_record _ rfl

theorem view_setRemoteDescription {remote : Sdp} {installed : Installed} (hPc : self.pc = true)
    (h : self.setRemoteDescription remote installed = .ok next) :
    next.view = { self.view with
      pc := true
      ready := true
      pending := []
      given := self.view.given ++
        self.view.pending.filterMap (some ∘ rawCandidate) } := by
  cases installed with
  | unparsed text => cases h
  | refused text => cases h
  | accepted =>
      cases h
      have hDrained : self.pendingCandidates.map
          (fun c => (.gave (rawCandidate c) : Effect (List String) RawCandidate)) =
          (self.pendingCandidates.map rawCandidate).map .gave := (List.map_map ..).symm
      simp only [view, drainPendingCandidates, record, hPc, if_true, hDrained, given_append,
        given_map_gave, List.filterMap_eq_map]
      rw [← given_append, given_concat_of_none _ rfl]

theorem view_callback (self : NativeWebRtcChannel) (event : Callback) :
    (self.callback event).view = self.view := by
  unfold callback
  split
  · rfl
  · rfl
  · cases event.event <;> rfl

/-- The pieces of this backend do to the candidates what a relay may. -/
theorem relays : parts.Relays view (some ∘ rawCandidate) where
  closed _ := rfl
  pc _ := rfl
  ready _ := rfl
  ensurePc := view_ensurePc
  offer self channel described := by
    cases channel with
    | error text => rfl
    | ok made =>
        have hMade : ({ self with dc := true }.record
            (.madeDataChannel dataChannelLabel)).view = self.view := view_record _ rfl
        dsimp only [parts]
        rw [view_awaitLocal, view_fire, hMade]
  setRemoteDescription := view_setRemoteDescription
  answer self described := by
    dsimp only [parts]
    rw [view_awaitLocal, view_fire]
  hold _ _ := rfl
  give self candidate added := by
    have hGave := view_record_gave self (rawCandidate candidate)
    cases added <;> exact hGave
  transmit self frame := view_record self (by rfl)
  shut self reason := by
    dsimp only [parts]
    rw [view_push, view_record _ rfl]
    rfl

theorem step_view (self : NativeWebRtcChannel) (input : Input Callback)
    (hAlive : self.view.Alive) :
    View.Step (some ∘ rawCandidate) self.view (if self.view.closed then [] else input.candidates)
      (!self.view.closed && input.closes) (self.step input).view :=
  relays.step (fun self request => congrArg Prod.fst (call_eq self request)) view_callback
    (fun _ => rfl) self input hAlive

end NativeWebRtcChannel

namespace WasmWebRtcChannel

/-- What of the channel matters to the candidates. -/
def view (self : WasmWebRtcChannel) : View (List IceServer) RtcIceCandidateInit :=
  ⟨self.pc, self.remoteDescSet, self.closed, self.pendingCandidates, given self.effects⟩

variable {builds : RtcIceCandidateInit → Answer} {self next : WasmWebRtcChannel}

@[simp] theorem view_push (self : WasmWebRtcChannel) (event : ChannelEvent) :
    (self.push event).view = self.view := rfl

@[simp] theorem view_describe (self : WasmWebRtcChannel) (kind : SdpKind) (name create : String)
    (described : LocalDescription) :
    (self.describe kind name create described).1.view = self.view := by
  cases described <;> rfl

theorem view_record (self : WasmWebRtcChannel)
    {effect : Effect (List IceServer) RtcIceCandidateInit} (h : effect.candidate? = none) :
    (self.record effect).view = self.view := by
  rw [view, view, record, given_concat_of_none _ h]

theorem view_record_gave (self : WasmWebRtcChannel) (candidate : RtcIceCandidateInit) :
    (self.record (.gave candidate)).view =
      { self.view with given := self.view.given ++ [candidate] } := by
  rw [view, view, record, given_concat_gave]

theorem view_ensurePc {servers : List IceServer} {opened : Answer}
    (h : self.ensurePc servers opened = .ok next) : next.view = { self.view with pc := true } := by
  unfold ensurePc at h
  split at h
  · rename_i hPc
    cases h
    simp [view, hPc]
  · split at h
    · cases h
    · cases h
      exact view_record _ rfl

theorem view_setRemoteDescription {remote : Sdp} {installed : Installed} (hPc : self.pc = true)
    (h : self.setRemoteDescription builds remote installed = .ok next) :
    next.view = { self.view with
      pc := true
      ready := true
      pending := []
      given := self.view.given ++ self.view.pending.filterMap (rtcIceCandidate builds) } := by
  cases installed with
  | unparsed text => cases h
  | refused text => cases h
  | accepted =>
      cases h
      simp only [view, drainPendingCandidates, record, hPc, if_true, given_append, given_map_gave]
      rw [← given_append, given_concat_of_none _ rfl]

theorem view_callback (self : WasmWebRtcChannel) (event : Callback) :
    (self.callback event).view = self.view := by
  unfold callback
  cases event.event <;> rfl

/-- The pieces of this backend do to the candidates what a relay may. -/
theorem relays (builds : RtcIceCandidateInit → Answer) :
    (parts builds).Relays view (rtcIceCandidate builds) where
  closed _ := rfl
  pc _ := rfl
  ready _ := rfl
  ensurePc := view_ensurePc
  offer self channel described := by
    have hMade : ({ self with dc := true }.record
        (.madeDataChannel dataChannelLabel)).view = self.view := view_record _ rfl
    dsimp only [parts]
    rw [view_describe, hMade]
  setRemoteDescription := view_setRemoteDescription
  answer self described := view_describe self _ _ _ described
  hold _ _ := rfl
  give self candidate added := by
    have hGave := view_record_gave self (candidateInit candidate)
    dsimp only [parts, rtcIceCandidate]
    -- a candidate of which the browser makes nothing is taken in and goes nowhere
    cases builds (candidateInit candidate) with
    | error text => exact (View.mk.injEq ..).mpr ⟨rfl, rfl, rfl, rfl, (List.append_nil _).symm⟩
    | ok built => cases added <;> exact hGave
  transmit self frame := view_record self (by rfl)
  shut self reason := by
    dsimp only [parts]
    rw [view_push, view_record _ rfl]
    rfl

theorem step_view (self : WasmWebRtcChannel) (input : Input Callback)
    (hAlive : self.view.Alive) :
    View.Step (rtcIceCandidate builds) self.view
      (if self.view.closed then [] else input.candidates)
      (!self.view.closed && input.closes) (self.step builds input).view :=
  (relays builds).step (fun self request => congrArg Prod.fst (call_eq builds self request))
    view_callback (fun _ => rfl) self input hAlive

end WasmWebRtcChannel

/-- Whatever the calls, the callbacks and the answers of the peer connection are, a candidate
that a channel is asked to add before it is asked to close is handed to the peer connection
once, in the order of the calls, and never before the remote description. In a browser those
that the browser makes nothing of stay out. -/
theorem candidates_relayed (builds : RtcIceCandidateInit → Answer) :
    (∀ inputs, Relayed (some ∘ NativeWebRtcChannel.rawCandidate) (offered inputs)
      (run NativeWebRtcChannel.step .new inputs).view) ∧
    (∀ inputs, Relayed (WasmWebRtcChannel.rtcIceCandidate builds) (offered inputs)
      (run (WasmWebRtcChannel.step builds) .new inputs).view) := by
  constructor
  · intro inputs
    exact relayed_run NativeWebRtcChannel.step_view rfl rfl rfl rfl inputs
  · intro inputs
    exact relayed_run WasmWebRtcChannel.step_view rfl rfl rfl rfl inputs

end Mxdx.P2P.Backend
