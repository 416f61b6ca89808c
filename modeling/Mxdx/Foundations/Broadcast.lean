import Mxdx.Foundations.Automaton
import Mathlib.Data.List.Infix

/-! One receiver of a bounded broadcast channel. The channel keeps the latest
values, as many as its capacity; a receiver that falls further behind is told how
many it has missed and goes on with the oldest value that is kept. -/
namespace Broadcast

open Automaton

universe u
variable {α : Type u}

/-- `unread` are the kept values that the receiver has not taken, `missed` counts those
it can no longer take and has not been told about. -/
structure Receiver (α : Type u) where
  unread : List α
  missed : Nat
  closed : Bool

/-- What a receiver gets. -/
inductive RecvResult (α : Type u) where
  | value (a : α)
  | lagged (missed : Nat)
  | closed
  | pending

/-- A receiver that has missed nothing. -/
def Receiver.new : Receiver α := ⟨[], 0, false⟩

/-- With the buffer full the oldest value goes. -/
def Receiver.send (capacity : Nat) (receiver : Receiver α) (value : α) : Receiver α :=
  if receiver.unread.length < capacity then
    { receiver with unread := receiver.unread ++ [value] }
  else
    { receiver with
      unread := (receiver.unread ++ [value]).tail
      missed := receiver.missed + 1 }

/-- The gap is told before the values behind it. -/
def Receiver.recv (receiver : Receiver α) : RecvResult α × Receiver α :=
  if receiver.missed ≠ 0 then (.lagged receiver.missed, { receiver with missed := 0 })
  else
    match receiver.unread with
    | value :: rest => (.value value, { receiver with unread := rest })
    | [] => (if receiver.closed then .closed else .pending, receiver)

/-- What happens to a receiver. -/
inductive Signal (α : Type u) where
  | send (value : α)
  | recv
  | close

/-- A receiver with the values sent since it subscribed and those it has taken. -/
structure Reception (α : Type u) where
  receiver : Receiver α
  sent : List α
  received : List α

namespace Reception

/-- Nothing was sent. -/
def new : Reception α := ⟨.new, [], []⟩

/-- Nothing is sent after the last sender has gone. -/
def send (capacity : Nat) (reception : Reception α) (value : α) : Reception α :=
  if reception.receiver.closed then reception
  else
    { reception with
      receiver := reception.receiver.send capacity value
      sent := reception.sent ++ [value] }

def recv (reception : Reception α) : Reception α :=
  match reception.receiver.recv with
  | (.value value, receiver) =>
      { reception with receiver := receiver, received := reception.received ++ [value] }
  | (_, receiver) => { reception with receiver := receiver }

/-- The sender and the receiver, in any order. -/
def step (capacity : Nat) (reception : Reception α) : Signal α → Reception α
  | .send value => reception.send capacity value
  | .recv => reception.recv
  | .close =>
      { reception with receiver := { reception.receiver with closed := true } }

/-- The receiver has nothing to take and nothing to be told. -/
def Idle (reception : Reception α) : Prop :=
  reception.receiver.unread = [] ∧ reception.receiver.missed = 0

variable {capacity : Nat} {reception : Reception α}

/-- What one `recv` does. -/
theorem recv_cases (reception : Reception α) :
    (reception.receiver.missed ≠ 0 ∧
      reception.receiver.recv.1 = .lagged reception.receiver.missed ∧
      reception.recv = { reception with receiver := { reception.receiver with missed := 0 } }) ∨
    (∃ value rest, reception.receiver.missed = 0 ∧ reception.receiver.unread = value :: rest ∧
      reception.receiver.recv.1 = .value value ∧
      reception.recv = { reception with
        receiver := { reception.receiver with unread := rest }
        received := reception.received ++ [value] }) ∨
    (reception.Idle ∧ reception.recv = reception ∧
      reception.receiver.recv.1 = if reception.receiver.closed then .closed else .pending) := by
  by_cases hMissed : reception.receiver.missed = 0
  · right
    cases hUnread : reception.receiver.unread with
    | cons value rest =>
        exact .inl ⟨value, rest, hMissed, rfl, by simp [Receiver.recv, hMissed, hUnread],
          by simp [recv, Receiver.recv, hMissed, hUnread]⟩
    | nil =>
        have hRecv : reception.receiver.recv =
            (if reception.receiver.closed then .closed else .pending, reception.receiver) := by
          simp [Receiver.recv, hMissed, hUnread]
        refine .inr ⟨⟨hUnread, hMissed⟩, ?_, by rw [hRecv]⟩
        rw [recv, hRecv]
        cases reception.receiver.closed <;> rfl
  · left
    exact ⟨hMissed, by simp [Receiver.recv, hMissed], by simp [recv, Receiver.recv, hMissed]⟩

@[simp] theorem recv_sent (reception : Reception α) : reception.recv.sent = reception.sent := by
  rcases recv_cases reception with ⟨-, -, hRecv⟩ | ⟨value, rest, -, -, -, hRecv⟩ | ⟨-, hRecv, -⟩
  all_goals rw [hRecv]

@[simp] theorem recv_closed (reception : Reception α) :
    reception.recv.receiver.closed = reception.receiver.closed := by
  rcases recv_cases reception with ⟨-, -, hRecv⟩ | ⟨value, rest, -, -, -, hRecv⟩ | ⟨-, hRecv, -⟩
  all_goals rw [hRecv]

/-- A receiver that will not get anything any more. -/
def Exhausted (reception : Reception α) : Prop :=
  reception.Idle ∧ reception.receiver.closed = true

theorem Idle.recv (h : reception.Idle) : reception.recv = reception := by
  rcases recv_cases reception with ⟨hMissed, -⟩ | ⟨value, rest, -, hUnread, -⟩ | ⟨-, hRecv, -⟩
  · exact absurd h.2 hMissed
  · rw [h.1] at hUnread
    cases hUnread
  · exact hRecv

/-- What the receiver has taken and can still take, in the order it was sent. -/
structure Ordered (capacity : Nat) (reception : Reception α) : Prop where
  sublist : (reception.received ++ reception.receiver.unread).Sublist reception.sent
  latest : reception.receiver.unread <:+ reception.sent
  bounded : reception.receiver.unread.length ≤ capacity

theorem ordered_new : (new : Reception α).Ordered capacity :=
  ⟨.slnil, List.nil_suffix, Nat.zero_le _⟩

theorem Ordered.step (h : reception.Ordered capacity) (signal : Signal α) :
    (reception.step capacity signal).Ordered capacity := by
  cases signal with
  | close => exact ⟨h.sublist, h.latest, h.bounded⟩
  | recv =>
      rw [Reception.step]
      rcases recv_cases reception with ⟨-, -, hRecv⟩ | ⟨value, rest, -, hUnread, -, hRecv⟩ |
        ⟨-, hRecv, -⟩
      · rw [hRecv]
        exact ⟨h.sublist, h.latest, h.bounded⟩
      · have hSublist := h.sublist
        have hLatest := h.latest
        have hBounded := h.bounded
        rw [hUnread] at hSublist hLatest hBounded
        rw [hRecv]
        refine ⟨?_, (List.suffix_cons value rest).trans hLatest, Nat.le_of_succ_le hBounded⟩
        rwa [List.append_assoc, List.singleton_append]
      · rw [hRecv]
        exact h
  | send value =>
      rw [Reception.step, send]
      split
      · exact h
      have hLatest : reception.receiver.unread ++ [value] <:+ reception.sent ++ [value] := by
        obtain ⟨before, hBefore⟩ := h.latest
        exact ⟨before, by rw [← hBefore, List.append_assoc]⟩
      have hSublist := h.sublist.append (List.Sublist.refl [value])
      rw [List.append_assoc] at hSublist
      unfold Receiver.send
      split
      next hRoom =>
        refine ⟨hSublist, hLatest, ?_⟩
        rw [List.length_append]
        exact hRoom
      next hFull =>
        refine ⟨?_, (List.tail_suffix _).trans hLatest, ?_⟩
        · exact ((List.Sublist.refl _).append (List.tail_sublist _)).trans hSublist
        · rw [List.length_tail, List.length_append]
          exact h.bounded

theorem Ordered.run (h : reception.Ordered capacity) (signals : List (Signal α)) :
    (run (Reception.step capacity) reception signals).Ordered capacity := by
  have hStep : ∀ (before : Reception α) (signal : Signal α), before.Ordered capacity →
      (before.step capacity signal).Ordered capacity := fun _ signal hBefore => hBefore.step signal
  have hAlways : Always (Reception.step capacity) (Ordered capacity) reception signals :=
    always_of_step hStep h signals
  exact hAlways.last

/-- There is room for what is sent. -/
def HasRoom (capacity : Nat) (reception : Reception α) : Signal α → Prop
  | .send _ => reception.receiver.unread.length < capacity
  | _ => True

/-- A receiver that never falls behind by more than the capacity misses nothing. -/
theorem received_append_unread {signals : List (Signal α)}
    (h : Admissible (step capacity) (HasRoom capacity) new signals) :
    let reception := run (step capacity) new signals
    reception.received ++ reception.receiver.unread = reception.sent := by
  have hStep : ∀ (reception : Reception α) (signal : Signal α),
      reception.received ++ reception.receiver.unread = reception.sent →
      reception.HasRoom capacity signal →
      (reception.step capacity signal).received ++
        (reception.step capacity signal).receiver.unread =
          (reception.step capacity signal).sent := by
    intro reception signal hAll hRoom
    cases signal with
    | close => exact hAll
    | recv =>
        rw [step]
        rcases recv_cases reception with ⟨-, -, hRecv⟩ | ⟨value, rest, -, hUnread, -, hRecv⟩ |
          ⟨-, hRecv, -⟩
        · rw [hRecv]
          exact hAll
        · rw [hRecv, List.append_assoc, List.singleton_append, ← hUnread]
          exact hAll
        · rw [hRecv]
          exact hAll
    | send value =>
        rw [step, send]
        split
        · exact hAll
        · have hLess : reception.receiver.unread.length < capacity := hRoom
          rw [Receiver.send, if_pos hLess]
          show reception.received ++ (reception.receiver.unread ++ [value]) = _
          rw [← List.append_assoc, hAll]
  exact (h.always hStep rfl).last

/-- Values sent one after the other. -/
theorem sends_run (h : reception.Ordered capacity) (hOpen : reception.receiver.closed = false)
    (values : List α) :
    let after := run (step capacity) reception (values.map .send)
    after.received = reception.received ∧ after.sent = reception.sent ++ values ∧
      min capacity (reception.receiver.unread.length + values.length) ≤
        after.receiver.unread.length := by
  induction values generalizing reception with
  | nil => exact ⟨rfl, (List.append_nil _).symm, Nat.min_le_right _ _⟩
  | cons value values ih =>
      have hClosed : ¬ reception.receiver.closed = true := by simp [hOpen]
      have hSend : reception.step capacity (.send value) =
          { reception with
            receiver := reception.receiver.send capacity value
            sent := reception.sent ++ [value] } := by
        rw [step, send, if_neg hClosed]
      have hLength : min capacity (reception.receiver.unread.length + 1) ≤
          (reception.receiver.send capacity value).unread.length := by
        unfold Receiver.send
        split
        · rw [List.length_append]
          exact Nat.min_le_right _ _
        next hFull =>
          rw [List.length_tail, List.length_append]
          exact Nat.le_trans (Nat.min_le_left _ _) (Nat.not_lt.mp hFull)
      have hStillOpen : (reception.receiver.send capacity value).closed = false := by
        unfold Receiver.send
        split <;> exact hOpen
      obtain ⟨hReceived, hSent, hAfter⟩ :=
        ih (h.step (.send value)) (by rw [hSend]; exact hStillOpen)
      rw [hSend] at hReceived hSent hAfter
      rw [List.map_cons, run_cons, hSend]
      refine ⟨hReceived, ?_, ?_⟩
      · rw [hSent, List.append_assoc, List.singleton_append]
      · rw [List.length_cons]
        have hRest : min capacity
            ((reception.receiver.send capacity value).unread.length + values.length) ≤ _ := hAfter
        refine Nat.le_trans ?_ hRest
        omega

/-- As many values in a row as the channel keeps push out all that came before them. -/
theorem unread_of_sends (h : reception.Ordered capacity)
    (hOpen : reception.receiver.closed = false) {values : List α}
    (hLength : values.length = capacity) :
    (run (step capacity) reception (values.map .send)).receiver.unread = values := by
  obtain ⟨-, hSent, hUnread⟩ := sends_run h hOpen values
  have hAfter := h.run (values.map Signal.send)
  have hSuffix : values <:+ (run (step capacity) reception (values.map .send)).sent := by
    rw [hSent]
    exact List.suffix_append _ _
  have hEqual : (run (step capacity) reception (values.map .send)).receiver.unread.length =
      values.length := by
    have hBounded := hAfter.bounded
    omega
  exact (List.suffix_of_suffix_length_le hAfter.latest hSuffix (Nat.le_of_eq hEqual)).eq_of_length
    hEqual

theorem recv_received_append_unread (reception : Reception α) :
    reception.recv.received ++ reception.recv.receiver.unread =
      reception.received ++ reception.receiver.unread := by
  rcases recv_cases reception with ⟨-, -, hRecv⟩ | ⟨value, rest, -, hUnread, -, hRecv⟩ |
    ⟨-, hRecv, -⟩
  · rw [hRecv]
  · rw [hRecv, hUnread, List.append_assoc, List.singleton_append]
  · rw [hRecv]

/-- The polls that empty the channel: one for every value, and one to hear of the lag. -/
def backlog (reception : Reception α) : Nat :=
  reception.receiver.unread.length + min reception.receiver.missed 1

theorem backlog_eq_zero : reception.backlog = 0 ↔ reception.Idle := by
  rw [backlog, Idle, ← List.length_eq_zero_iff]
  omega

theorem backlog_recv (reception : Reception α) :
    reception.recv.backlog = reception.backlog - 1 := by
  rcases recv_cases reception with ⟨hMissed, -, hRecv⟩ | ⟨value, rest, hMissed, hUnread, -, hRecv⟩ |
    ⟨hIdle, hRecv, -⟩
  · rw [hRecv, backlog, backlog]
    dsimp only
    omega
  · rw [hRecv, backlog, backlog, hUnread, List.length_cons]
    dsimp only
    omega
  · rw [hRecv, backlog_eq_zero.mpr hIdle]

/-- Polling takes what is there, and enough of it leaves nothing. -/
theorem polls_run (capacity : Nat) (reception : Reception α) (count : Nat) :
    let after := run (step capacity) reception (List.replicate count .recv)
    after.received ++ after.receiver.unread = reception.received ++ reception.receiver.unread ∧
      after.sent = reception.sent ∧ after.backlog = reception.backlog - count := by
  induction count generalizing reception with
  | zero => exact ⟨rfl, rfl, rfl⟩
  | succ count ih =>
      obtain ⟨hAll, hSent, hBacklog⟩ := ih reception.recv
      rw [List.replicate_succ, run_cons]
      refine ⟨hAll.trans reception.recv_received_append_unread, hSent.trans reception.recv_sent,
        hBacklog.trans ?_⟩
      rw [backlog_recv]
      omega

/-- A receiver that polls only after the channel has been filled anew gets what fills it
and not what was sent before. -/
theorem overrun_run (value : α) {values : List α} (hLength : values.length = capacity)
    (hCapacity : 0 < capacity) :
    let after := run (step capacity) new
      (.send value :: values.map .send ++ List.replicate (capacity + 1) .recv)
    after.received = values ∧ after.sent = value :: values ∧ after.Idle := by
  intro after
  let start : Reception α := new.step capacity (.send value)
  let full := run (step capacity) start (values.map .send)
  have hStart : start = ⟨⟨[value], 0, false⟩, [value], []⟩ := by
    show new.send capacity value = _
    simp [send, new, Receiver.new, Receiver.send, hCapacity]
  have hOrdered : start.Ordered capacity := ordered_new.step (.send value)
  have hOpen : start.receiver.closed = false := by rw [hStart]
  obtain ⟨hReceived, hSent, -⟩ := sends_run hOrdered hOpen values
  have hUnread : full.receiver.unread = values := unread_of_sends hOrdered hOpen hLength
  have hAfter : after = run (step capacity) full (List.replicate (capacity + 1) .recv) :=
    run_append ..
  obtain ⟨hAll, hSame, hBacklog⟩ := polls_run capacity full (capacity + 1)
  rw [← hAfter] at hAll hSame hBacklog
  have hIdle : after.Idle := by
    rw [← backlog_eq_zero, hBacklog, backlog, hUnread, hLength]
    omega
  refine ⟨?_, ?_, hIdle⟩
  · rw [hIdle.1, hUnread, List.append_nil] at hAll
    rw [hAll, hReceived, hStart]
    rfl
  · rw [hSame, hSent, hStart]
    rfl

end Reception

end Broadcast
