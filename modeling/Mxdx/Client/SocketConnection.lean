import Mxdx.Basic
import Mxdx.Foundations.Automaton
import Mxdx.Foundations.Base64
import Mathlib.Data.List.Range

/-! The sending half of the TypeScript `TerminalSocket`, and its subscription to the room.
A send that is refused drops the subscription until a timer renews it; data of some length
is compressed before it gets its number. -/
namespace Mxdx.Client

open Automaton

/-- Shorter data is sent as it is. -/
def compressionThreshold : Nat := 32

/-- A terminal data event as it is handed to `sendEvent`, with the call of `send` it
comes from. -/
structure SentData where
  data : String
  encoding : String
  seq : Nat
  call : Nat
deriving DecidableEq, Repr

/-- The fields of the class that deal with sending and with the subscription. `compressing`
and `sending` are the awaits of `send`; `calls` counts the calls that did not throw,
`posted` are the events in the order they were sent, `subscriptions` the callbacks that the
client holds, and `armed` the delays of all timers that were set. -/
structure SocketConnection where
  sendSeq : Nat
  closed : Bool
  unsubscribe : Bool
  reconnectTimer : Option Nat
  reconnectDelay : Nat
  connected : Bool
  compressing : List (Nat × Bytes)
  sending : List SentData
  calls : Nat
  posted : List SentData
  subscriptions : Nat
  armed : List Nat
deriving DecidableEq, Repr

/-- What can happen to the connection; calls under way go by their place in line. -/
inductive ConnectionInput where
  | send (data : Bytes)
  | compressed (index : Nat)
  | compressFailed (index : Nat)
  | answered (index : Nat) (ok : Bool)
  | reconnectTimer
  | close

namespace SocketConnection

variable (deflate : Bytes → Bytes)

/-- A new subscription counts as a connection that stands. -/
def subscribe (socket : SocketConnection) : SocketConnection :=
  { socket with
    unsubscribe := true
    subscriptions := socket.subscriptions + 1
    connected := true
    reconnectDelay := 1000 }

/-- The socket subscribes when it is made. -/
def new : SocketConnection :=
  subscribe ⟨0, false, false, none, 1000, true, [], [], 0, [], 0, []⟩

/-- `this._unsubscribe?.()`, which forgets the callback. -/
def dropSubscription (socket : SocketConnection) : SocketConnection :=
  if socket.unsubscribe then
    { socket with unsubscribe := false, subscriptions := socket.subscriptions - 1 }
  else socket

/-- One timer at a time; the next would wait twice as long, up to half a minute. -/
def scheduleReconnect (socket : SocketConnection) : SocketConnection :=
  if socket.closed || socket.reconnectTimer.isSome then socket
  else
    { socket with
      reconnectDelay := min (socket.reconnectDelay * 2) 30000
      reconnectTimer := some socket.reconnectDelay
      armed := socket.armed ++ [socket.reconnectDelay] }

/-- A connection that is lost is taken up again after the delay. -/
def handleSyncDrop (socket : SocketConnection) : SocketConnection :=
  if socket.closed then socket
  else { socket with connected := false }.dropSubscription.scheduleReconnect

/-- The end of `send`, from where the number is taken to `sendEvent`. -/
def post (socket : SocketConnection) (call : Nat) (data encoding : String) : SocketConnection :=
  let event : SentData := ⟨data, encoding, socket.sendSeq, call⟩
  { socket with
    sendSeq := socket.sendSeq + 1
    sending := socket.sending ++ [event]
    posted := socket.posted ++ [event] }

/-- Short data is posted at once, other data after its compression. -/
def send (socket : SocketConnection) (data : Bytes) : SocketConnection :=
  if socket.closed then socket
  else if compressionThreshold ≤ data.length then
    { socket with
      calls := socket.calls + 1
      compressing := socket.compressing ++ [(socket.calls, data)] }
  else { socket with calls := socket.calls + 1 }.post socket.calls (Base64.encode data) "base64"

/-- The call goes on as soon as its own compression is through. -/
def onCompressed (socket : SocketConnection) (index : Nat) : SocketConnection :=
  match socket.compressing[index]? with
  | some (call, data) =>
      { socket with compressing := socket.compressing.eraseIdx index }.post call
        (Base64.encode (deflate data)) "zlib+base64"
  | none => socket

/-- An answer tells whether the connection stands. -/
def onAnswered (socket : SocketConnection) (index : Nat) (ok : Bool) : SocketConnection :=
  if index < socket.sending.length then
    let socket := { socket with sending := socket.sending.eraseIdx index }
    if ok then { socket with connected := true, reconnectDelay := 1000 }
    else socket.handleSyncDrop
  else socket

/-- The callback of `_scheduleReconnect`. -/
def onReconnectTimer (socket : SocketConnection) : SocketConnection :=
  if socket.reconnectTimer.isNone then socket
  else
    let socket := { socket with reconnectTimer := none }
    if socket.closed then socket else socket.subscribe

/-- A closed socket neither listens nor waits. -/
def close (socket : SocketConnection) : SocketConnection :=
  if socket.closed then socket
  else { { socket with closed := true }.dropSubscription with reconnectTimer := none }

/-- Whatever comes next. -/
def step (socket : SocketConnection) : ConnectionInput → SocketConnection
  | .send data => socket.send data
  | .compressed index => socket.onCompressed deflate index
  | .compressFailed index =>
      { socket with compressing := socket.compressing.eraseIdx index }
  | .answered index ok => socket.onAnswered index ok
  | .reconnectTimer => socket.onReconnectTimer
  | .close => socket.close

/-- The getter `connected`. -/
def isConnected (socket : SocketConnection) : Bool := socket.connected && !socket.closed

variable {socket : SocketConnection}

section Subscription

/-- The client holds the callback of an open socket, once, except while a timer is to renew
it; only an open socket has such a timer, and every timer has the first delay. -/
structure Subscribed (socket : SocketConnection) : Prop where
  handle : socket.unsubscribe = (!socket.closed && socket.reconnectTimer.isNone)
  once : socket.subscriptions = if socket.unsubscribe then 1 else 0
  timer : ∀ delay, socket.reconnectTimer = some delay → socket.closed = false ∧ delay = 1000
  delay : ∀ delay ∈ socket.armed, delay = 1000

/-- Only a timer that is running has doubled the delay. -/
structure Renewing (socket : SocketConnection) : Prop extends Subscribed socket where
  next : socket.closed = false → socket.reconnectTimer = none → socket.reconnectDelay = 1000

/-- A refused send ends the subscription, if there is one. -/
theorem Subscribed.handleSyncDrop_cases (h : socket.Subscribed) :
    socket.closed = true ∧ socket.handleSyncDrop = socket ∨
    socket.closed = false ∧ socket.reconnectTimer.isSome ∧
      socket.handleSyncDrop = { socket with connected := false } ∨
    socket.closed = false ∧ socket.reconnectTimer = none ∧ socket.handleSyncDrop = { socket with
      unsubscribe := false
      subscriptions := socket.subscriptions - 1
      connected := false
      reconnectDelay := min (socket.reconnectDelay * 2) 30000
      reconnectTimer := some socket.reconnectDelay
      armed := socket.armed ++ [socket.reconnectDelay] } := by
  have hHandle := h.handle
  cases hClosed : socket.closed with
  | true => exact .inl ⟨rfl, by simp [handleSyncDrop, hClosed]⟩
  | false =>
      right
      cases hTimer : socket.reconnectTimer with
      | some pending =>
          have hNone : socket.unsubscribe = false := by simp [hHandle, hTimer]
          refine .inl ⟨rfl, rfl, ?_⟩
          simp [handleSyncDrop, dropSubscription, scheduleReconnect, hClosed, hNone, hTimer]
      | none =>
          have hHeld : socket.unsubscribe = true := by simp [hHandle, hClosed, hTimer]
          refine .inr ⟨rfl, rfl, ?_⟩
          simp [handleSyncDrop, dropSubscription, scheduleReconnect, hClosed, hHeld, hTimer]

/-- A drop doubles the delay only together with the timer that it starts. -/
theorem Renewing.handleSyncDrop (h : socket.Renewing) : socket.handleSyncDrop.Renewing := by
  rcases h.handleSyncDrop_cases with ⟨-, hEq⟩ | ⟨-, -, hEq⟩ | ⟨hOpen, hTimer, hEq⟩
  · rwa [hEq]
  · rw [hEq]
    exact ⟨⟨h.handle, h.once, h.timer, h.delay⟩, h.next⟩
  · have hHeld : socket.unsubscribe = true := by simp [h.handle, hOpen, hTimer]
    have hOnce := h.once
    have hFirst := h.next hOpen hTimer
    rw [hHeld] at hOnce
    rw [hEq, hFirst]
    refine ⟨⟨by simp, by simp [hOnce], ?_, ?_⟩, fun _ hNone => by cases hNone⟩
    · intro delay hDelay
      exact ⟨hOpen, (Option.some.inj hDelay).symm⟩
    · intro delay hMem
      rcases List.mem_append.mp hMem with hOld | hNew
      · exact h.delay delay hOld
      · exact List.mem_singleton.mp hNew

/-- No step leaves the delay doubled without a timer that runs. -/
theorem renewing_step (socket : SocketConnection) (input : ConnectionInput)
    (h : socket.Renewing) : (socket.step deflate input).Renewing := by
  cases input with
  | send data =>
      simp only [step, send, post]
      split
      · exact h
      · split
        · exact ⟨⟨h.handle, h.once, h.timer, h.delay⟩, h.next⟩
        · exact ⟨⟨h.handle, h.once, h.timer, h.delay⟩, h.next⟩
  | compressed index =>
      simp only [step, onCompressed, post]
      split
      · exact ⟨⟨h.handle, h.once, h.timer, h.delay⟩, h.next⟩
      · exact h
  | compressFailed index => exact ⟨⟨h.handle, h.once, h.timer, h.delay⟩, h.next⟩
  | answered index ok =>
      simp only [step, onAnswered]
      split
      · cases ok with
        | true => exact ⟨⟨h.handle, h.once, h.timer, h.delay⟩, fun _ _ => rfl⟩
        | false =>
            apply Renewing.handleSyncDrop
            exact ⟨⟨h.handle, h.once, h.timer, h.delay⟩, h.next⟩
      · exact h
  | reconnectTimer =>
      simp only [step, onReconnectTimer]
      split
      · exact h
      next hTimer =>
        obtain ⟨delay, hPending⟩ := Option.ne_none_iff_exists'.mp (by simpa using hTimer)
        have hOpen := (h.timer delay hPending).1
        have hNone : socket.unsubscribe = false := by simp [h.handle, hPending]
        have hOnce := h.once
        rw [hNone] at hOnce
        rw [if_neg (by simp [hOpen])]
        constructor
        · exact ⟨by simp [subscribe, hOpen], by simpa [subscribe] using hOnce,
            (fun _ hDelay => by cases hDelay), h.delay⟩
        · exact fun _ _ => rfl
  | close =>
      simp only [step, close]
      split
      · exact h
      · have hOnce := h.once
        unfold dropSubscription
        split
        next hHeld =>
          change socket.unsubscribe = true at hHeld
          rw [hHeld] at hOnce
          exact ⟨⟨rfl, by simp [hOnce], (fun _ hDelay => by cases hDelay), h.delay⟩,
            fun hOpen => by cases hOpen⟩
        next hNone =>
          change ¬ socket.unsubscribe = true at hNone
          refine ⟨⟨by simpa using hNone, ?_, (fun _ hDelay => by cases hDelay), h.delay⟩,
            fun hOpen => by cases hOpen⟩
          simpa [hNone] using hOnce

/-- A new socket has no timer, and the first delay. -/
theorem renewing_new : new.Renewing :=
  ⟨⟨rfl, rfl, (fun _ hDelay => by cases hDelay), List.forall_mem_nil _⟩, fun _ _ => rfl⟩

/-- In every run there is one subscription exactly while the socket is open and no timer
is to renew it, a closed socket has neither, and the delay is never more than the first
one: the doubling comes to nothing, since every renewal undoes it. -/
theorem always_subscribed (inputs : List ConnectionInput) :
    Always (step deflate) Subscribed new inputs :=
  (always_of_step (renewing_step deflate) renewing_new inputs).mono fun _ h => h.toSubscribed

end Subscription

section Connected

/-- `connected` tells whether the socket is subscribed. -/
def Honest (socket : SocketConnection) : Prop := socket.isConnected = socket.unsubscribe

/-- No send succeeds while the subscription waits for its renewal. -/
def NoLateAnswer (socket : SocketConnection) : ConnectionInput → Prop
  | .answered index true => index < socket.sending.length → socket.closed = false →
      socket.reconnectTimer = none
  | _ => True

/-- The flag tells the truth after a step exactly when no late answer came. -/
theorem honest_step_iff (socket : SocketConnection) (input : ConnectionInput)
    (hRenewing : socket.Renewing) (h : socket.Honest) :
    (socket.step deflate input).Honest ↔ socket.NoLateAnswer input := by
  have hHandle := hRenewing.handle
  cases input with
  | send data =>
      refine iff_of_true ?_ trivial
      simp only [step, send, post]
      split
      · exact h
      · split <;> exact h
  | compressed index =>
      refine iff_of_true ?_ trivial
      simp only [step, onCompressed, post]
      split <;> exact h
  | compressFailed index => exact iff_of_true h trivial
  | answered index ok =>
      simp only [step, onAnswered]
      split
      next hIndex =>
        cases ok with
        | true =>
            simp only [if_true, Honest, isConnected, Bool.true_and, NoLateAnswer, hIndex,
              true_imp_iff, hHandle]
            cases socket.closed <;> cases socket.reconnectTimer <;> simp
        | false =>
            refine iff_of_true ?_ trivial
            have hSent : Subscribed
                { socket with sending := socket.sending.eraseIdx index } :=
              ⟨hHandle, hRenewing.once, hRenewing.timer, hRenewing.delay⟩
            simp only [Bool.false_eq_true, if_false]
            rcases hSent.handleSyncDrop_cases with ⟨-, hEq⟩ | ⟨-, hTimer, hEq⟩ | ⟨-, -, hEq⟩
            · rw [hEq]
              exact h
            · have hNone : socket.unsubscribe = false := by
                rw [hHandle, ← Option.not_isSome, hTimer]
                simp
              rw [hEq]
              simp [Honest, isConnected, hNone]
            · rw [hEq]
              rfl
      next hIndex =>
        refine iff_of_true h ?_
        cases ok with
        | true => exact fun hLt => absurd hLt hIndex
        | false => trivial
  | reconnectTimer =>
      refine iff_of_true ?_ trivial
      simp only [step, onReconnectTimer]
      split
      · exact h
      · split
        · exact h
        next hOpen => simpa [Honest, isConnected, subscribe] using hOpen
  | close =>
      refine iff_of_true ?_ trivial
      simp only [step, close]
      split
      · exact h
      · simp only [dropSubscription, Honest, isConnected]
        split <;> simp_all

/-- `connected` is right in every state of a run exactly when no send succeeds while the
subscription is down; otherwise a socket that receives nothing calls itself connected. -/
theorem always_honest_iff (inputs : List ConnectionInput) :
    Always (step deflate) Honest new inputs ↔
      Admissible (step deflate) NoLateAnswer new inputs :=
  always_iff_admissible_under (renewing_step deflate) (honest_step_iff deflate) renewing_new rfl

end Connected

section Order

/-- The events that were posted are in the order of the calls. -/
def InCallOrder (socket : SocketConnection) : Prop :=
  (socket.posted.map SentData.call).Pairwise (· < ·)

/-- Nor has an event passed a call whose data is still being compressed. -/
def NoneOvertaken (socket : SocketConnection) : Prop :=
  (socket.posted.map SentData.call ++ socket.compressing.map Prod.fst).Pairwise (· < ·)

/-- What holds of the numbers in every run. -/
structure Numbered (socket : SocketConnection) : Prop where
  seqs : socket.posted.map SentData.seq = List.range socket.sendSeq
  waiting : (socket.compressing.map Prod.fst).Pairwise (· < ·)
  bounded : ∀ call ∈ socket.posted.map SentData.call ++ socket.compressing.map Prod.fst,
    call < socket.calls

/-- Data is sent at once, or next after its compression, only if it is the oldest that
waits. -/
def NoOvertaking (socket : SocketConnection) : ConnectionInput → Prop
  | .send data =>
      socket.closed = false → data.length < compressionThreshold → socket.compressing = []
  | .compressed index => index < socket.compressing.length → index = 0
  | _ => True

/-- A call posts under the next number of the socket. -/
theorem Numbered.post (h : socket.Numbered) {call : Nat} (hCall : call < socket.calls)
    (data encoding : String) : (socket.post call data encoding).Numbered := by
  constructor
  · simp [SocketConnection.post, h.seqs, List.range_succ]
  · exact h.waiting
  · intro other hOther
    simp only [SocketConnection.post, List.map_append, List.map_cons, List.map_nil,
      List.mem_append, List.mem_singleton] at hOther
    rcases hOther with (hPosted | rfl) | hWaiting
    · exact h.bounded other (List.mem_append_left _ hPosted)
    · exact hCall
    · exact h.bounded other (List.mem_append_right _ hWaiting)

/-- A new call has a number of its own. -/
theorem Numbered.moreCalls (h : socket.Numbered) :
    Numbered { socket with calls := socket.calls + 1 } :=
  ⟨h.seqs, h.waiting, fun call hCall => Nat.lt_succ_of_lt (h.bounded call hCall)⟩

theorem Numbered.fewer (h : socket.Numbered) {compressing : List (Nat × Bytes)}
    (hSublist : compressing.Sublist socket.compressing) :
    Numbered { socket with compressing := compressing } := by
  have hCalls := hSublist.map Prod.fst
  refine ⟨h.seqs, h.waiting.sublist hCalls, fun call hCall => h.bounded call ?_⟩
  exact ((List.Sublist.refl _).append hCalls).subset hCall

/-- Two sockets that agree in what `send` has done so far. -/
def SameSends (next socket : SocketConnection) : Prop :=
  next.sendSeq = socket.sendSeq ∧ next.compressing = socket.compressing ∧
    next.calls = socket.calls ∧ next.posted = socket.posted

theorem SameSends.numbered {next : SocketConnection} (hSame : next.SameSends socket)
    (h : socket.Numbered) : next.Numbered := by
  obtain ⟨hSeq, hCompressing, hCalls, hPosted⟩ := hSame
  exact ⟨by rw [hSeq, hPosted, h.seqs], by rw [hCompressing]; exact h.waiting,
    by rw [hCompressing, hCalls, hPosted]; exact h.bounded⟩

theorem SameSends.noneOvertaken {next : SocketConnection} (hSame : next.SameSends socket)
    (h : socket.NoneOvertaken) : next.NoneOvertaken := by
  obtain ⟨-, hCompressing, -, hPosted⟩ := hSame
  rwa [NoneOvertaken, hCompressing, hPosted]

theorem sameSends_handleSyncDrop (socket : SocketConnection) :
    socket.handleSyncDrop.SameSends socket := by
  simp only [handleSyncDrop, scheduleReconnect, dropSubscription, SameSends]
  split
  · simp
  · split <;> split <;> simp

theorem sameSends_answered (socket : SocketConnection) (index : Nat) (ok : Bool) :
    (socket.onAnswered index ok).SameSends socket := by
  unfold onAnswered
  split
  · cases ok with
    | true => exact ⟨rfl, rfl, rfl, rfl⟩
    | false => exact sameSends_handleSyncDrop _
  · exact ⟨rfl, rfl, rfl, rfl⟩

theorem sameSends_reconnectTimer (socket : SocketConnection) :
    socket.onReconnectTimer.SameSends socket := by
  simp only [onReconnectTimer, subscribe, SameSends]
  split
  · simp
  · split <;> simp

theorem sameSends_close (socket : SocketConnection) : socket.close.SameSends socket := by
  simp only [close, dropSubscription, SameSends]
  split
  · simp
  · split <;> simp

/-- Every step keeps the calls apart. -/
theorem numbered_step (socket : SocketConnection) (input : ConnectionInput)
    (h : socket.Numbered) : (socket.step deflate input).Numbered := by
  cases input with
  | send data =>
      simp only [step, send]
      split
      · exact h
      · split
        · refine ⟨h.seqs, ?_, fun call hCall => ?_⟩
          · rw [List.map_append, List.pairwise_append]
            refine ⟨h.waiting, List.pairwise_singleton _ _, ?_⟩
            intro call hCall other hOther
            obtain rfl : other = socket.calls := by simpa using hOther
            exact h.bounded call (List.mem_append_right _ hCall)
          · rw [List.map_append, ← List.append_assoc] at hCall
            rcases List.mem_append.mp hCall with hOld | hNew
            · exact Nat.lt_succ_of_lt (h.bounded call hOld)
            · obtain rfl : call = socket.calls := by simpa using hNew
              exact Nat.lt_succ_self _
        · exact h.moreCalls.post (Nat.lt_succ_self _) _ _
  | compressed index =>
      simp only [step, onCompressed]
      split
      next call data hGet =>
        have hCall : call < socket.calls := by
          apply h.bounded
          exact List.mem_append_right _ (List.mem_map_of_mem (List.mem_of_getElem? hGet))
        exact (h.fewer (List.eraseIdx_sublist _ index)).post hCall _ _
      · exact h
  | compressFailed index => exact h.fewer (List.eraseIdx_sublist _ index)
  | answered index ok => exact (sameSends_answered socket index ok).numbered h
  | reconnectTimer => exact (sameSends_reconnectTimer socket).numbered h
  | close => exact (sameSends_close socket).numbered h

theorem numbered_new : new.Numbered := ⟨rfl, .nil, List.forall_mem_nil _⟩

/-- An event that is posted stays in order exactly if its call comes before all that
wait. -/
theorem noneOvertaken_post_iff (h : socket.Numbered) (hOrder : socket.NoneOvertaken) {call : Nat}
    (hAfter : ∀ posted ∈ socket.posted.map SentData.call, posted < call) (data encoding : String) :
    (socket.post call data encoding).NoneOvertaken ↔
      ∀ waiting ∈ socket.compressing.map Prod.fst, call < waiting := by
  rw [NoneOvertaken, List.pairwise_append] at hOrder
  rw [NoneOvertaken, SocketConnection.post]
  simp only [List.map_append, List.map_cons, List.map_nil, List.append_assoc,
    List.singleton_append]
  rw [List.pairwise_append, List.pairwise_cons]
  constructor
  · exact fun hNew => hNew.2.1.1
  · intro hBefore
    refine ⟨hOrder.1, ⟨hBefore, h.waiting⟩, ?_⟩
    intro posted hPosted other hOther
    rcases List.mem_cons.mp hOther with rfl | hWaiting
    · exact hAfter posted hPosted
    · exact hOrder.2.2 posted hPosted other hWaiting

/-- A call that posts at once overtakes those that compress. -/
theorem noneOvertaken_send_iff (h : socket.Numbered) (hOrder : socket.NoneOvertaken)
    (data : Bytes) :
    (socket.send data).NoneOvertaken ↔ socket.NoOvertaking (.send data) := by
  unfold send
  split
  next hClosed => exact iff_of_true hOrder fun hOpen => by simp [hClosed] at hOpen
  next hOpen =>
    split
    next hLong =>
      apply iff_of_true
      · have hNew : (socket.posted.map SentData.call ++
            (socket.compressing.map Prod.fst ++ [socket.calls])).Pairwise (· < ·) := by
          rw [← List.append_assoc, List.pairwise_append]
          refine ⟨hOrder, List.pairwise_singleton _ _, ?_⟩
          intro call hCall other hOther
          obtain rfl := List.mem_singleton.mp hOther
          exact h.bounded call hCall
        simpa [NoneOvertaken] using hNew
      · intro _ hShort
        omega
    next hShort =>
      have hAfter : ∀ posted ∈ socket.posted.map SentData.call, posted < socket.calls :=
        fun posted hPosted => h.bounded posted (List.mem_append_left _ hPosted)
      rw [noneOvertaken_post_iff h.moreCalls hOrder hAfter]
      have hOpen : socket.closed = false := by simpa using hOpen
      simp only [NoOvertaking, hOpen, true_imp_iff, Nat.lt_of_not_le hShort]
      cases hWaiting : socket.compressing with
      | nil => simp
      | cons oldest rest =>
          have hOldest : oldest.1 < socket.calls := h.bounded oldest.1 (by simp [hWaiting])
          refine iff_of_false (fun hBefore => ?_) (List.cons_ne_nil _ _)
          have hCalls := hBefore oldest.1 (by simp)
          omega

/-- A call whose compression is through overtakes those before it. -/
theorem noneOvertaken_compressed_iff (h : socket.Numbered) (hOrder : socket.NoneOvertaken)
    (index : Nat) :
    (socket.onCompressed deflate index).NoneOvertaken ↔
      socket.NoOvertaking (.compressed index) := by
  unfold onCompressed
  split
  next call data hGet =>
    obtain ⟨hIndex, hAt⟩ := List.getElem?_eq_some_iff.mp hGet
    have hSublist := List.eraseIdx_sublist socket.compressing index
    have hFewer : NoneOvertaken
        { socket with compressing := socket.compressing.eraseIdx index } :=
      hOrder.sublist ((List.Sublist.refl _).append (hSublist.map Prod.fst))
    have hAfter : ∀ posted ∈ socket.posted.map SentData.call, posted < call := by
      intro posted hPosted
      rw [NoneOvertaken, List.pairwise_append] at hOrder
      exact hOrder.2.2 posted hPosted call (List.mem_map_of_mem (List.mem_of_getElem? hGet))
    rw [noneOvertaken_post_iff (h.fewer hSublist) hFewer hAfter]
    simp only [NoOvertaking, hIndex, true_imp_iff]
    have hWaiting := h.waiting
    cases hList : socket.compressing with
    | nil => simp [hList] at hIndex
    | cons oldest rest =>
        rw [hList, List.map_cons, List.pairwise_cons] at hWaiting
        cases index with
        | zero =>
            obtain rfl : oldest = (call, data) := by simpa [hList] using hGet
            exact iff_of_true hWaiting.1 rfl
        | succ index =>
            have hBehind : oldest.1 < call := by
              apply hWaiting.1
              have hRest : rest[index]? = some (call, data) := by simpa [hList] using hGet
              exact List.mem_map_of_mem (List.mem_of_getElem? hRest)
            refine iff_of_false (fun hBefore => ?_) (Nat.succ_ne_zero _)
            have hFirst := hBefore oldest.1 (by simp)
            omega
  next hNone =>
    refine iff_of_true hOrder fun hIndex => ?_
    rw [List.getElem?_eq_none_iff] at hNone
    omega

/-- Only a call that posts can overtake another. -/
theorem noneOvertaken_step_iff (socket : SocketConnection) (input : ConnectionInput)
    (h : socket.Numbered) (hOrder : socket.NoneOvertaken) :
    (socket.step deflate input).NoneOvertaken ↔ socket.NoOvertaking input := by
  cases input with
  | send data => exact noneOvertaken_send_iff h hOrder data
  | compressed index => exact noneOvertaken_compressed_iff deflate h hOrder index
  | compressFailed index =>
      have hSublist := (List.eraseIdx_sublist socket.compressing index).map Prod.fst
      exact iff_of_true (hOrder.sublist ((List.Sublist.refl _).append hSublist)) trivial
  | answered index ok =>
      exact iff_of_true ((sameSends_answered socket index ok).noneOvertaken hOrder) trivial
  | reconnectTimer =>
      exact iff_of_true ((sameSends_reconnectTimer socket).noneOvertaken hOrder) trivial
  | close => exact iff_of_true ((sameSends_close socket).noneOvertaken hOrder) trivial

/-- Where no call has overtaken another the events are in order. -/
theorem NoneOvertaken.inCallOrder (h : socket.NoneOvertaken) : socket.InCallOrder :=
  h.sublist (List.sublist_append_left _ _)

/-- The compression of some data fails. -/
def ConnectionInput.Fails : ConnectionInput → Prop
  | .compressFailed _ => True
  | _ => False

theorem noneOvertaken_of_send (data : Bytes) (hNext : (socket.send data).NoneOvertaken) :
    socket.NoneOvertaken := by
  unfold send at hNext
  split at hNext
  · exact hNext
  · split at hNext
    · apply List.Pairwise.sublist _ hNext
      simp only [List.map_append]
      exact (List.Sublist.refl _).append (List.sublist_append_left _ _)
    · apply List.Pairwise.sublist _ hNext
      simp only [post, List.map_append]
      exact (List.sublist_append_left _ _).append (List.Sublist.refl _)

theorem noneOvertaken_of_compressed (h : socket.Numbered) (index : Nat)
    (hNext : (socket.onCompressed deflate index).NoneOvertaken) : socket.NoneOvertaken := by
  unfold onCompressed at hNext
  split at hNext
  next call data hGet =>
    simp only [NoneOvertaken, post, List.map_append, List.map_cons, List.map_nil,
      List.append_assoc, List.pairwise_append, List.mem_append] at hNext
    obtain ⟨hPosted, -, hBetween⟩ := hNext
    refine List.pairwise_append.mpr ⟨hPosted, h.waiting, fun posted hMem waiting hWaiting => ?_⟩
    obtain ⟨entry, hEntry, rfl⟩ := List.mem_map.mp hWaiting
    by_cases hSame : entry = (call, data)
    · rw [hSame]
      exact hBetween posted hMem call (.inl (List.mem_singleton_self call))
    · apply hBetween posted hMem
      apply Or.inr (List.mem_map_of_mem _)
      obtain ⟨other, hOther⟩ := List.mem_iff_getElem?.mp hEntry
      apply List.mem_eraseIdx_iff_getElem?.mpr
      refine ⟨other, ?_, hOther⟩
      rintro rfl
      exact hSame (Option.some.inj (hOther.symm.trans hGet))
  next => exact hNext

/-- What has been overtaken stays so until its compression fails. -/
theorem noneOvertaken_of_step (socket : SocketConnection) (input : ConnectionInput)
    (h : socket.Numbered) (hInput : ¬ ConnectionInput.Fails input)
    (hNext : (socket.step deflate input).NoneOvertaken) : socket.NoneOvertaken := by
  have hBack : ∀ {next : SocketConnection}, next.SameSends socket → next.NoneOvertaken →
      socket.NoneOvertaken := by
    rintro next ⟨-, hCompressing, -, hPosted⟩ hOrder
    rwa [NoneOvertaken, hCompressing, hPosted] at hOrder
  cases input with
  | send data => exact noneOvertaken_of_send data hNext
  | compressed index => exact noneOvertaken_of_compressed deflate h index hNext
  | compressFailed index => exact absurd trivial hInput
  | answered index ok => exact hBack (sameSends_answered socket index ok) hNext
  | reconnectTimer => exact hBack (sameSends_reconnectTimer socket) hNext
  | close => exact hBack (sameSends_close socket) hNext

/-- The events are always numbered from 0 on. They are in the order of the calls in every
state of a run in which no data overtakes data that is being compressed, and at the end of
a run that has compressed all its data only then. -/
theorem numbered_in_call_order (inputs : List ConnectionInput) :
    (Always (step deflate) (fun socket => socket.posted.map SentData.seq =
        List.range socket.posted.length) new inputs) ∧
      (Admissible (step deflate) NoOvertaking new inputs →
        Always (step deflate) InCallOrder new inputs) ∧
      ((∀ input ∈ inputs, ¬ ConnectionInput.Fails input) →
        (run (step deflate) new inputs).compressing = [] →
        ((run (step deflate) new inputs).InCallOrder ↔
          Admissible (step deflate) NoOvertaking new inputs)) := by
  have hAlways : Always (step deflate) NoneOvertaken new inputs ↔
      Admissible (step deflate) NoOvertaking new inputs :=
    always_iff_admissible_under (numbered_step deflate) (noneOvertaken_step_iff deflate)
      numbered_new .nil
  refine ⟨?_, fun h => (hAlways.mpr h).mono fun _ => NoneOvertaken.inCallOrder, ?_⟩
  · refine (always_of_step (numbered_step deflate) numbered_new inputs).mono fun socket h => ?_
    have hLength := congrArg List.length h.seqs
    rw [List.length_map, List.length_range] at hLength
    rw [h.seqs, hLength]
  · intro hCompresses hDone
    have hLast : Always (step deflate) NoneOvertaken new inputs ↔
        (run (step deflate) new inputs).NoneOvertaken :=
      always_iff_last (fun socket input h _ => numbered_step deflate socket input h)
        (noneOvertaken_of_step deflate) (admissible_of_forall hCompresses) numbered_new
    rw [← hAlways, hLast, NoneOvertaken, hDone, List.map_nil, List.append_nil, InCallOrder]

end Order

end SocketConnection

end Mxdx.Client
