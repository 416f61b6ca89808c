import Mxdx.P2P.NativeChannel
import Mxdx.P2P.WasmChannel

/-! What the consumer of a backend gets to see. The handlers push their events into a queue
that the consumer empties at its own pace; an event that finds the queue full is dropped. -/
namespace Mxdx.P2P.Backend

open Automaton

/-- The frame that an event brings to the consumer. -/
def frameOf : ChannelEvent → Option Bytes
  | .message frame => some frame
  | _ => none

/-- Whether a frame that comes in is passed on. -/
def fits (frame : Bytes) : Bool := frame.length ≤ maxInboundFrameSize

/-- What the consumer has got or can still get. Of the events that were `offered` to the
queue, each with whether there was room for it, it keeps those that found room and loses the
others; of the frames that `came` in it gets those that fit, in their order. -/
structure Delivered (came : List Bytes) (offered : List (ChannelEvent × Bool))
    (events : BoundedQueue ChannelEvent) : Prop where
  pushed : events.pushed = offered.map Prod.fst
  kept : events.kept = (offered.filter Prod.snd).map Prod.fst
  passed : (offered.map Prod.fst).filterMap frameOf = came.filter fits
  inOrder : (events.kept.filterMap frameOf).Sublist (came.filter fits)
  all : (∀ offer ∈ offered, offer.2 = true) → events.kept.filterMap frameOf = came.filter fits

/-- A frame that is too large becomes a failure. -/
theorem frameOf_inbound (frame : Bytes) :
    frameOf (inbound frame) = if fits frame then some frame else none := by
  unfold inbound fits
  by_cases h : frame.length > maxInboundFrameSize
  · simp [h, frameOf]
  · simp [h, frameOf, Nat.le_of_not_lt h]

section Runs

variable {Callback Channel : Type} {step : Channel → Input Callback → Channel}
  {events : Channel → BoundedQueue ChannelEvent} {closed : Channel → Bool}
  (event : Callback → Option ChannelEvent) (frame : Callback → Option Bytes)

/-- The event that an input pushes. -/
def pushes (closed : Channel → Bool) (channel : Channel) : Input Callback → Option ChannelEvent
  | .callback callback => event callback
  | .call (.close reason) => if closed channel then none else some (.closed reason)
  | _ => none

/-- What an input does to the queue. -/
def action (closed : Channel → Bool) (channel : Channel) (input : Input Callback) :
    Option (BoundedQueue.Act ChannelEvent) :=
  match input with
  | .recv => some .pop
  | input => (pushes event closed channel input).map .push

/-- The frames that come in, in order. -/
def frames (inputs : List (Input Callback)) : List Bytes :=
  inputs.filterMap fun input =>
    match input with
    | .callback callback => frame callback
    | _ => none

variable {event frame}

variable
  (hStep : ∀ channel input, events (step channel input) =
    (events channel).perform eventQueueDepth (action event closed channel input))
  (hFrame : ∀ callback, (event callback).bind frameOf = (frame callback).filter fits)
include hStep hFrame

/-- One input pushes the frame that it brings, if that fits. -/
theorem pushed_step (channel : Channel) (input : Input Callback) :
    (events (step channel input)).pushed.filterMap frameOf =
      (events channel).pushed.filterMap frameOf ++ (frames frame [input]).filter fits := by
  have hPush (pushed : Option ChannelEvent) :
      ((events channel).perform eventQueueDepth (pushed.map .push)).pushed.filterMap frameOf =
      (events channel).pushed.filterMap frameOf ++ (pushed.bind frameOf).toList := by
    cases pushed with
    | none => simp [BoundedQueue.perform]
    | some pushed =>
        simp only [Option.map_some, BoundedQueue.perform, BoundedQueue.step,
          List.filterMap_append, Option.bind_some]
        cases hPushed : frameOf pushed <;> simp [hPushed]
  rw [hStep]
  cases input with
  | recv =>
      simp [action, frames, BoundedQueue.perform, BoundedQueue.pushed_step, BoundedQueue.offer]
  | call request =>
      refine (hPush _).trans (congrArg _ ?_)
      cases request with
      | close reason =>
          rw [pushes]
          cases closed channel <;> rfl
      | _ => rfl
  | callback callback =>
      refine (hPush _).trans (congrArg _ ?_)
      rw [pushes, hFrame]
      cases hSome : frame callback with
      | none => simp [frames, hSome]
      | some came => by_cases hFits : fits came <;> simp [frames, hSome, hFits]

/-- By induction on the inputs: what is pushed are the frames that fit, in their order. -/
theorem pushed_run (channel : Channel) (inputs : List (Input Callback)) :
    (events (run step channel inputs)).pushed.filterMap frameOf =
      (events channel).pushed.filterMap frameOf ++ (frames frame inputs).filter fits := by
  induction inputs generalizing channel with
  | nil => simp [frames]
  | cons input rest ih =>
      rw [run_cons, ih, pushed_step hStep hFrame, List.append_assoc, ← List.filter_append]
      congr 2
      exact (List.filterMap_append ..).symm

/-- A backend whose steps touch the queue as its handlers say delivers what they push. -/
theorem delivered_run {channel : Channel} (hNew : events channel = .empty)
    (inputs : List (Input Callback)) :
    Delivered (frames frame inputs)
      (BoundedQueue.offers eventQueueDepth step events (action event closed) channel inputs)
      (events (run step channel inputs)) := by
  let offered :=
    BoundedQueue.offers eventQueueDepth step events (action event closed) channel inputs
  have hPushed : (events (run step channel inputs)).pushed = offered.map Prod.fst := by
    rw [BoundedQueue.pushed_run hStep channel inputs, hNew]
    rfl
  have hKept : (events (run step channel inputs)).kept =
      (offered.filter Prod.snd).map Prod.fst := by
    rw [BoundedQueue.kept_run hStep channel inputs, hNew]
    rfl
  have hCame : (offered.map Prod.fst).filterMap frameOf = (frames frame inputs).filter fits := by
    rw [← hPushed, pushed_run hStep hFrame channel inputs, hNew]
    rfl
  refine ⟨hPushed, hKept, hCame, ?_, fun hRoom => ?_⟩
  · rw [hKept, ← hCame]
    exact (List.filter_sublist.map Prod.fst).filterMap frameOf
  · rw [hKept, List.filter_eq_self.mpr hRoom, hCame]

end Runs

section Calls

variable {Channel : Type} {parts : Parts Channel} {events : Channel → BoundedQueue ChannelEvent}

/-- The parts of a backend leave its events alone, but for the one that closes it. -/
structure Parts.KeepsEvents (parts : Parts Channel)
    (events : Channel → BoundedQueue ChannelEvent) : Prop where
  ensurePc : ∀ {self next servers opened},
    parts.ensurePc self servers opened = .ok next → events next = events self
  offer : ∀ self channel described, events (parts.offer self channel described).1 = events self
  setRemoteDescription : ∀ {self next remote installed},
    parts.setRemoteDescription self remote installed = .ok next → events next = events self
  answer : ∀ self described, events (parts.answer self described).1 = events self
  hold : ∀ self candidate, events (parts.hold self candidate) = events self
  give : ∀ self candidate added, events (parts.give self candidate added).1 = events self
  transmit : ∀ self frame, events (parts.transmit self frame) = events self
  shut : ∀ self reason, events (parts.shut self reason) = emit (events self) (.closed reason)

/-- The only call that pushes an event is the first `close`. -/
theorem Parts.KeepsEvents.call (h : parts.KeepsEvents events) {Callback : Type}
    (event : Callback → Option ChannelEvent) (self : Channel) (request : Call) :
    events (parts.call self request).1 = (events self).perform eventQueueDepth
      (action event parts.closed self (.call request)) := by
  cases request with
  | createOffer servers opened channel described =>
      show events (parts.call self _).1 = events self
      rw [Parts.call]
      split
      · rfl
      · cases hEnsure : parts.ensurePc self servers opened with
        | error error => rfl
        | ok next => exact (h.offer next channel described).trans (h.ensurePc hEnsure)
  | acceptOffer servers remote opened installed described =>
      show events (parts.call self _).1 = events self
      rw [Parts.call]
      split
      · rfl
      · split
        · rfl
        · cases hEnsure : parts.ensurePc self servers opened with
          | error error => rfl
          | ok connected =>
              dsimp only
              cases hRemote : parts.setRemoteDescription connected remote installed with
              | error error => exact h.ensurePc hEnsure
              | ok next =>
                  dsimp only
                  rw [h.answer, h.setRemoteDescription hRemote, h.ensurePc hEnsure]
  | acceptAnswer remote installed =>
      show events (parts.call self _).1 = events self
      rw [Parts.call]
      split
      · rfl
      · split
        · rfl
        · split
          · rfl
          · cases hRemote : parts.setRemoteDescription self remote installed with
            | error error => rfl
            | ok next => exact h.setRemoteDescription hRemote
  | addIceCandidate candidate added =>
      show events (parts.call self _).1 = events self
      rw [Parts.call]
      split
      · rfl
      · split
        · exact h.hold self candidate
        · exact h.give self candidate added
  | restartIce servers => rfl
  | send frame sent =>
      show events (parts.call self _).1 = events self
      rw [Parts.call.eq_def]
      dsimp only
      split
      · rfl
      · split
        · rfl
        · cases sent with
          | error text => rfl
          | ok done => exact h.transmit self frame
  | close reason =>
      show events (parts.call self (.close reason)).1 = (events self).perform eventQueueDepth
        ((pushes event parts.closed self (.call (.close reason))).map .push)
      rw [Parts.call, pushes]
      cases hClosed : parts.closed self with
      | true => rfl
      | false => exact h.shut self reason

end Calls

namespace NativeWebRtcChannel

variable {self next : NativeWebRtcChannel}

/-- The frame that a callback brings. -/
def Callback.frame : Callback → Option Bytes
  | .onMessage msg => some msg
  | _ => none

/-- The handler of messages passes on the frames that fit. -/
theorem Callback.event_frame (callback : Callback) :
    callback.event.bind frameOf = callback.frame.filter fits := by
  cases callback with
  | onMessage msg => simp [event, frame, frameOf_inbound, Option.filter]
  | onConnectionStateChange state => cases state <;> rfl
  | onIceStateChange state => cases state <;> rfl
  | _ => rfl

@[simp] theorem events_fire (self : NativeWebRtcChannel) (described : LocalDescription) :
    (self.fire described).events = self.events := by
  cases described <;> rfl

@[simp] theorem events_awaitLocal (self : NativeWebRtcChannel) (wanted : SdpKind)
    (twice : String) : (self.awaitLocal wanted twice).1.events = self.events := by
  unfold awaitLocal
  split
  · dsimp only
    split
    · rfl
    · split
      · rfl
      · split <;> rfl
  · rfl

theorem events_ensurePc {servers : List IceServer} {opened : Answer}
    (h : self.ensurePc servers opened = .ok next) : next.events = self.events := by
  unfold ensurePc at h
  split at h
  · cases h
    rfl
  · split at h <;> cases h
    rfl

theorem events_setRemoteDescription {remote : Sdp} {installed : Installed}
    (h : self.setRemoteDescription remote installed = .ok next) : next.events = self.events := by
  cases installed <;> cases h
  unfold drainPendingCandidates
  dsimp only
  split <;> rfl

/-- Only the part that closes the channel pushes an event. -/
theorem keepsEvents : parts.KeepsEvents events where
  ensurePc := events_ensurePc
  offer self channel described := by
    cases channel with
    | error text => rfl
    | ok made => exact (events_awaitLocal _ _ _).trans (events_fire _ described)
  setRemoteDescription := events_setRemoteDescription
  answer self described := (events_awaitLocal _ _ _).trans (events_fire self described)
  hold _ _ := rfl
  give _ _ added := by cases added <;> rfl
  transmit _ _ := rfl
  shut _ _ := rfl

/-- An input does to the queue what its action says. -/
theorem events_step (self : NativeWebRtcChannel) (input : Input Callback) :
    (self.step input).events = self.events.perform eventQueueDepth
      (action Callback.event NativeWebRtcChannel.closed self input) := by
  cases input with
  | call request =>
      rw [step, call_eq]
      exact keepsEvents.call Callback.event self request
  | recv => rfl
  | callback event =>
      show (self.callback event).events = _
      unfold callback
      split
      · rfl
      · rfl
      · dsimp only [action, pushes]
        cases event.event <;> rfl

end NativeWebRtcChannel

namespace WasmWebRtcChannel

variable {builds : RtcIceCandidateInit → Answer} {self next : WasmWebRtcChannel}

/-- A text that comes in counts as the bytes it is made of. -/
def Callback.frame : Callback → Option Bytes
  | .onMessage (.arrayBuffer bytes) => some bytes
  | .onMessage (.text s) => some (asBytes s)
  | _ => none

/-- The handler of messages passes on the frames that fit. -/
theorem Callback.event_frame (callback : Callback) :
    callback.event.bind frameOf = callback.frame.filter fits := by
  cases callback with
  | onIceCandidate candidate => cases candidate <;> rfl
  | onIceConnectionStateChange state => cases state <;> rfl
  | onMessage data =>
      cases data with
      | other => rfl
      | _ => simp [event, frame, frameOf_inbound, Option.filter]
  | _ => rfl

@[simp] theorem events_describe (self : WasmWebRtcChannel) (kind : SdpKind)
    (name create : String) (described : LocalDescription) :
    (self.describe kind name create described).1.events = self.events := by
  cases described <;> rfl

theorem events_ensurePc {servers : List IceServer} {opened : Answer}
    (h : self.ensurePc servers opened = .ok next) : next.events = self.events := by
  unfold ensurePc at h
  split at h
  · cases h
    rfl
  · split at h <;> cases h
    rfl

theorem events_setRemoteDescription {remote : Sdp} {installed : Installed}
    (h : self.setRemoteDescription builds remote installed = .ok next) :
    next.events = self.events := by
  cases installed <;> cases h
  unfold drainPendingCandidates
  dsimp only
  split <;> rfl

/-- Only the part that closes the channel pushes an event. -/
theorem keepsEvents (builds : RtcIceCandidateInit → Answer) :
    (parts builds).KeepsEvents events where
  ensurePc := events_ensurePc
  offer _ _ described := events_describe _ _ _ _ described
  setRemoteDescription := events_setRemoteDescription
  answer _ described := events_describe _ _ _ _ described
  hold _ _ := rfl
  give _ candidate added := by
    dsimp only [parts]
    cases builds (candidateInit candidate) with
    | error text => rfl
    | ok built => cases added <;> rfl
  transmit _ _ := rfl
  shut _ _ := rfl

/-- An input does to the queue what its action says. -/
theorem events_step (self : WasmWebRtcChannel) (input : Input Callback) :
    (self.step builds input).events = self.events.perform eventQueueDepth
      (action Callback.event WasmWebRtcChannel.closed self input) := by
  cases input with
  | call request =>
      rw [step, call_eq]
      exact (keepsEvents builds).call Callback.event self request
  | recv => rfl
  | callback event =>
      show (self.callback event).events = _
      unfold callback
      dsimp only [action, pushes]
      cases event.event <;> rfl

end WasmWebRtcChannel

/-- The consumer gets the frames that come in, each once and in order, but for those above the
cap and those that find the queue full; an event of any kind is lost if and only if it finds
the queue full, and nobody is told. This holds of both backends, for any order of calls,
callbacks and reads. -/
theorem frames_delivered (builds : RtcIceCandidateInit → Answer) :
    (∀ inputs, Delivered (frames NativeWebRtcChannel.Callback.frame inputs)
      (BoundedQueue.offers eventQueueDepth NativeWebRtcChannel.step NativeWebRtcChannel.events
        (action NativeWebRtcChannel.Callback.event NativeWebRtcChannel.closed) .new inputs)
      (run NativeWebRtcChannel.step .new inputs).events) ∧
    (∀ inputs, Delivered (frames WasmWebRtcChannel.Callback.frame inputs)
      (BoundedQueue.offers eventQueueDepth (WasmWebRtcChannel.step builds)
        WasmWebRtcChannel.events
        (action WasmWebRtcChannel.Callback.event WasmWebRtcChannel.closed) .new inputs)
      (run (WasmWebRtcChannel.step builds) .new inputs).events) := by
  constructor
  · intro inputs
    exact delivered_run NativeWebRtcChannel.events_step
      NativeWebRtcChannel.Callback.event_frame rfl inputs
  · intro inputs
    exact delivered_run WasmWebRtcChannel.events_step
      WasmWebRtcChannel.Callback.event_frame rfl inputs

end Mxdx.P2P.Backend
