import Mxdx.Core.TerminalStream
import Mathlib.Logic.Function.Basic

/-! The sockets of a client that share a room and a transport, one for each session.
They all poll for the same type of event: what has come over the data channel is taken
from one inbox, and what the room has is returned to each of them, own events included. -/
namespace Mxdx.Core

open Automaton

/-- A terminal data event, sent by the launcher or by the client itself, with the tag
of its session. -/
structure DataEvent where
  fromLauncher : Bool
  sessionId : Option String
  packet : Packet
deriving DecidableEq

/-- The event is one the launcher sent for the session. -/
def DataEvent.isFor (event : DataEvent) (sessionId : String) : Bool :=
  event.fromLauncher && event.sessionId = some sessionId

/-- The two sockets, which differ in what they do with their own events. -/
inductive SocketKind where
  | core
  | webConsole
deriving DecidableEq

/-- The filter of `#handleIncomingData`. The schema of the web console has no session. -/
def SocketKind.handles (kind : SocketKind) (sessionId : String) (event : DataEvent) : Bool :=
  match kind with
  | .core => sessionId = "" || !(event.sessionId.filter (· ≠ "")).any (· ≠ sessionId)
  | .webConsole => true

/-- The sockets by session, the events each of them is decoding, the inbox and the room.
`own` are the wake-ups of a socket that its session accounts for: its timers, and the
packets that the launcher sent for it. `taken` is what was taken from the inbox. -/
structure SocketRoom where
  sockets : String → TerminalSocket
  decoding : String → List DataEvent
  inbox : List DataEvent
  timeline : List DataEvent
  own : String → List SocketInput
  taken : List (String × DataEvent)

/-- Data that is not compressed is decoded at once, which is one of the times that an
input `decoded` may come. -/
inductive SocketRoomInput where
  | framed (event : DataEvent)
  | posted (event : DataEvent)
  | polledInbox (sessionId : String)
  | polledMatrix (sessionId : String) (index : Nat)
  | decoded (sessionId : String) (index : Nat)
  | undecodable (sessionId : String) (index : Nat)
  | gapTimer (sessionId : String)
  | retransmitTimer (sessionId : String)
  | close (sessionId : String)

namespace SocketRoom

/-- Nobody has sent anything. -/
def new : SocketRoom := ⟨fun _ => .new, fun _ => [], [], [], fun _ => [], []⟩

variable (kind : String → SocketKind) (room : SocketRoom)

/-- A poll has brought the event. -/
def handleIncomingData (sessionId : String) (event : DataEvent) : SocketRoom :=
  if (kind sessionId).handles sessionId event then
    { room with
      decoding := Function.update room.decoding sessionId (room.decoding sessionId ++ [event]) }
  else room

/-- A socket hears of an event. -/
def wake (sessionId : String) (input : SocketInput) (isOwn : Bool) : SocketRoom :=
  { room with
    sockets := Function.update room.sockets sessionId ((room.sockets sessionId).step input)
    own := Function.update room.own sessionId
      (room.own sessionId ++ if isOwn then [input] else []) }

/-- An event has been decoded. -/
def forget (sessionId : String) (index : Nat) : SocketRoom :=
  { room with
    decoding :=
      Function.update room.decoding sessionId ((room.decoding sessionId).eraseIdx index) }

/-- Senders, decoders and timers, in any order. -/
def step (room : SocketRoom) : SocketRoomInput → SocketRoom
  | .framed event =>
      if event.fromLauncher then { room with inbox := room.inbox ++ [event] } else room
  | .posted event => { room with timeline := room.timeline ++ [event] }
  | .polledInbox sessionId =>
      match room.inbox with
      | [] => room
      | event :: rest =>
          { room with
            inbox := rest
            taken := room.taken ++ [(sessionId, event)] }.handleIncomingData kind sessionId event
  | .polledMatrix sessionId index =>
      match room.timeline[index]? with
      | some event => room.handleIncomingData kind sessionId event
      | none => room
  | .decoded sessionId index =>
      match (room.decoding sessionId)[index]? with
      | some event =>
          (room.forget sessionId index).wake sessionId (.data event.packet) (event.isFor sessionId)
      | none => room
  | .undecodable sessionId index => room.forget sessionId index
  | .gapTimer sessionId => room.wake sessionId .gapTimer true
  | .retransmitTimer sessionId => room.wake sessionId .retransmitTimer true
  | .close sessionId => room.wake sessionId .close true

/-- A socket is as if only the launcher's events of its session had ever reached it, and
no event was taken from the inbox by the socket of another session. -/
structure Isolated (room : SocketRoom) : Prop where
  sockets : ∀ sessionId, room.sockets sessionId = run TerminalSocket.step .new (room.own sessionId)
  taken : ∀ taken ∈ room.taken, taken.2.sessionId = some taken.1

/-- An event is taken from the inbox by the socket of its session, and a socket that
decodes an event of someone else ignores it. -/
def Apart (room : SocketRoom) : SocketRoomInput → Prop
  | .polledInbox sessionId =>
      ∀ event, room.inbox.head? = some event → event.sessionId = some sessionId
  | .decoded sessionId index => ∀ event, (room.decoding sessionId)[index]? = some event →
      event.isFor sessionId = true ∨ (room.sockets sessionId).Ignores event.packet
  | _ => True

section Steps

variable {room : SocketRoom} {sessionId : String} {event : DataEvent}

theorem handleIncomingData_eq (room : SocketRoom) (sessionId : String) (event : DataEvent) :
    ∃ decoding, room.handleIncomingData kind sessionId event = { room with decoding } := by
  unfold handleIncomingData
  split
  · exact ⟨_, rfl⟩
  · exact ⟨room.decoding, rfl⟩

/-- A wake-up that its session accounts for. -/
theorem isolated_wake (h : room.Isolated) (sessionId : String) (input : SocketInput) :
    (room.wake sessionId input true).Isolated := by
  refine ⟨fun found => ?_, h.taken⟩
  by_cases hSame : found = sessionId
  · subst hSame
    simp only [wake, Function.update_self, if_true]
    rw [run_concat, ← h.sockets found]
  · simp only [wake, Function.update_of_ne hSame]
    exact h.sockets found

/-- One that it does not account for must not make a difference. -/
theorem isolated_wake_iff (h : room.Isolated) (sessionId : String) (packet : Packet) :
    (room.wake sessionId (.data packet) false).Isolated ↔
      (room.sockets sessionId).Ignores packet := by
  have hSettled : (room.sockets sessionId).Settled := by
    rw [h.sockets sessionId]
    exact TerminalSocket.settled_run _
  rw [← hSettled.step_data_eq_self_iff packet]
  constructor
  · intro hNext
    have hSocket := hNext.sockets sessionId
    simp only [wake, Function.update_self, Bool.false_eq_true, if_false, List.append_nil] at hSocket
    rw [hSocket, ← h.sockets sessionId]
  · intro hSame
    refine ⟨fun found => ?_, h.taken⟩
    by_cases hFound : found = sessionId
    · subst hFound
      simp only [wake, Function.update_self, Bool.false_eq_true, if_false, List.append_nil]
      rw [hSame, ← h.sockets found]
    · simp only [wake, Function.update_of_ne hFound]
      exact h.sockets found

theorem isolated_step_iff (room : SocketRoom) (input : SocketRoomInput) (h : room.Isolated) :
    (room.step kind input).Isolated ↔ room.Apart input := by
  cases input with
  | framed event =>
      refine iff_of_true ?_ trivial
      rw [step]
      split
      · exact ⟨h.sockets, h.taken⟩
      · exact h
  | posted event => exact iff_of_true ⟨h.sockets, h.taken⟩ trivial
  | polledInbox sessionId =>
      rw [step, Apart]
      cases hInbox : room.inbox with
      | nil => exact iff_of_true h (by simp)
      | cons event rest =>
          obtain ⟨decoding, hNext⟩ := handleIncomingData_eq kind
            { room with inbox := rest, taken := room.taken ++ [(sessionId, event)] } sessionId event
          dsimp only
          rw [hNext]
          constructor
          · intro hIsolated found hFound
            obtain rfl : event = found := by simpa using hFound
            exact hIsolated.taken (sessionId, event) (List.mem_append_right _ List.mem_cons_self)
          · intro hOwn
            refine ⟨h.sockets, fun taken hTaken => ?_⟩
            rcases List.mem_append.mp hTaken with hOld | hNew
            · exact h.taken taken hOld
            · rw [List.mem_singleton.mp hNew]
              exact hOwn event rfl
  | polledMatrix sessionId index =>
      refine iff_of_true ?_ trivial
      rw [step]
      split
      next event _ =>
        obtain ⟨decoding, hNext⟩ := handleIncomingData_eq kind room sessionId event
        rw [hNext]
        exact ⟨h.sockets, h.taken⟩
      · exact h
  | decoded sessionId index =>
      rw [step, Apart]
      cases hEvent : (room.decoding sessionId)[index]? with
      | none => exact iff_of_true h (by simp)
      | some event =>
          have hForget : (room.forget sessionId index).Isolated := ⟨h.sockets, h.taken⟩
          simp only [Option.some.injEq, forall_eq']
          cases hFor : event.isFor sessionId with
          | true => exact iff_of_true (isolated_wake hForget sessionId _) (.inl rfl)
          | false =>
              rw [isolated_wake_iff hForget]
              simp [forget]
  | undecodable sessionId index => exact iff_of_true ⟨h.sockets, h.taken⟩ trivial
  | gapTimer sessionId | retransmitTimer sessionId | close sessionId =>
      exact iff_of_true (isolated_wake h sessionId _) trivial

end Steps

/-- A socket that is kept apart emits what reaches it in turn, and nothing else. -/
theorem emitted_of_isolated {room : SocketRoom} (h : room.Isolated) (sessionId : String)
    (hSeqs : (TerminalSocket.arrivals (room.own sessionId)).map Packet.seq =
      List.range (TerminalSocket.arrivals (room.own sessionId)).length) :
    (room.sockets sessionId).emitted = TerminalSocket.arrivals (room.own sessionId) := by
  rw [List.range_eq_range'] at hSeqs
  have hQuiet : TerminalSocket.new.Quiet := ⟨rfl, rfl, rfl⟩
  have hRun := (TerminalSocket.consecutive_run (room.own sessionId) rfl hQuiet hSeqs).2
  rw [h.sockets sessionId, hRun]
  exact List.nil_append _

end SocketRoom

end Mxdx.Core
