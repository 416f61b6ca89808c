import Mxdx.Foundations.Automaton
import Mathlib.Algebra.GroupWithZero.Nat
import Mathlib.Data.Fintype.Basic
import Mathlib.Data.List.FinRange
import Mathlib.Logic.Function.Basic
import Mathlib.Order.Defs.LinearOrder

/-! `MultiHsClient` of the JavaScript packages. Calls are cut at their `await`:
what a server answers is an input of its own, and any number of calls, polls and
probes may be waiting. Latencies are only ever compared. -/
namespace Mxdx.Core

open Automaton

universe u

/-- Failures that are older do not count. -/
def failWindowMs : Int := 5 * 60 * 1000

/-- So many failures open the breaker. -/
def failThreshold : Nat := 5

/-- How many event ids are remembered. -/
def maxSeen : Nat := 10000

/-- How many of them go at once. -/
def evictBatch : Nat := 2000

/-- Whether a homeserver is used. -/
inductive BreakerStatus where
  | healthy
  | down
deriving DecidableEq

/-- The recent failures of a homeserver. -/
structure Breaker where
  failures : List Int
  status : BreakerStatus

/-- A homeserver is trusted at first. -/
def Breaker.new : Breaker := ⟨[], .healthy⟩

/-- A homeserver and how long it took to answer. -/
structure HsEntry (Latency : Type u) where
  server : String
  latencyMs : Latency

/-- A success or failure that was recorded: the server whose client produced it,
and the one it was recorded against. -/
structure Record (n : Nat) where
  producer : Fin n
  charged : Fin n
deriving DecidableEq

/-- A poll for an event, with the call of `onRoomEvent` it belongs to. -/
structure Poll (n : Nat) where
  call : Nat
  server : Fin n

/-- The fields of the client and its suspended calls. A send is kept with the
server that was preferred when it began; `resolved` has a flag for each call of
`onRoomEvent`, and `probes` the recovery probes under way. -/
structure MultiHsClient (n : Nat) where
  preferredIndex : Fin n
  running : Bool
  seenEvents : List String
  breakers : String → Breaker
  recoveryTimers : List (Fin n)
  sends : List (Fin n)
  resolved : List Bool
  polls : List (Poll n)
  probes : List (Fin n)
  records : List (Record n)

/-- What a poll brings: nothing, or an event that may have an id. -/
inductive PollAnswer where
  | nothing
  | event (eventId : Option String)

/-- Failures come with the time at which they are recorded. -/
inductive HsInput where
  | sendEvent
  | sendStateEvent
  | sent (index : Nat)
  | sendFailed (index : Nat) (now : Int)
  | onRoomEvent
  | polled (index : Nat) (answer : PollAnswer)
  | pollFailed (index : Nat) (now : Int)
  | pollTimeout (call : Nat)
  | probeDue (index : Nat)
  | probed (index : Nat)
  | probeFailed (index : Nat)
  | shutdown

namespace MultiHsClient

variable {Latency : Type u} {n : Nat}

/-- One server needs neither breakers nor deduplication. -/
def isSingleServer (_client : MultiHsClient n) : Bool := decide (n ≤ 1)

section Methods

variable [LinearOrder Latency] (entries : Fin n → HsEntry Latency)

/-- The pinned server, or else the first one of lowest latency. -/
def selectPreferred [NeZero n] (preferredServer : Option String) : Fin n :=
  match preferredServer.filter (· ≠ "") with
  | some server => ((List.finRange n).find? fun i => (entries i).server == server).getD 0
  | none =>
      (List.finRange n).foldl
        (fun best i => if (entries i).latencyMs < (entries best).latencyMs then i else best) 0

/-- The client starts at the server that is asked for, or at the fastest. -/
def createFromClients [NeZero n] (preferredServer : Option String) : MultiHsClient n where
  preferredIndex := selectPreferred entries preferredServer
  running := true
  seenEvents := []
  breakers := fun _ => .new
  recoveryTimers := []
  sends := []
  resolved := []
  polls := []
  probes := []
  records := []

/-- Breakers go by the name of the server. -/
def breaker (client : MultiHsClient n) (i : Fin n) : Breaker :=
  client.breakers (entries i).server

/-- Two entries of one server share its breaker. -/
def setBreaker (client : MultiHsClient n) (i : Fin n) (breaker : Breaker) : MultiHsClient n :=
  { client with breakers := Function.update client.breakers (entries i).server breaker }

/-- The id is new and noted, and the oldest ids go when there are too many. -/
def isDuplicate (client : MultiHsClient n) (eventId : String) : Bool × MultiHsClient n :=
  if client.isSingleServer then (false, client)
  else if client.seenEvents.contains eventId then (true, client)
  else
    let seen := client.seenEvents ++ [eventId]
    (false,
      { client with seenEvents := if maxSeen < seen.length then seen.drop evictBatch else seen })

/-- The first healthy server of lowest latency other than the preferred one. -/
def bestHealthy (client : MultiHsClient n) : Option (Fin n) :=
  (List.finRange n).foldl
    (fun best i =>
      if i = client.preferredIndex || (client.breaker entries i).status = .down then best
      else
        match best with
        | none => some i
        | some least => if (entries i).latencyMs < (entries least).latencyMs then some i else best)
    none

/-- With nobody left the client stays where it is. -/
def triggerFailover (client : MultiHsClient n) : MultiHsClient n :=
  match client.bestHealthy entries with
  | some index => { client with preferredIndex := index }
  | none => client

/-- There is one timer for each server name. -/
def startRecoveryProbe (client : MultiHsClient n) (serverIndex : Fin n) : MultiHsClient n :=
  if client.recoveryTimers.any fun i => (entries i).server == (entries serverIndex).server then
    client
  else { client with recoveryTimers := client.recoveryTimers ++ [serverIndex] }

/-- A breaker that is open, or would be. -/
def failing (breaker : Breaker) : Bool :=
  breaker.status = .down || decide (failThreshold ≤ breaker.failures.length)

/-- A client of one server has nowhere to go. -/
def recordFailure (client : MultiHsClient n) (serverIndex : Fin n) (now : Int) :
    MultiHsClient n :=
  if client.isSingleServer then client
  else
    let breaker := client.breaker entries serverIndex
    let failures := breaker.failures.filter (fun t => now - t < failWindowMs) ++ [now]
    let noted := client.setBreaker entries serverIndex { breaker with failures }
    if failThreshold ≤ failures.length then
      if (List.finRange n).all fun i => failing (noted.breaker entries i) then
        { noted with breakers := fun _ => .new }
      else
        let marked := noted.setBreaker entries serverIndex ⟨failures, .down⟩
        (if serverIndex = marked.preferredIndex then marked.triggerFailover entries
          else marked).startRecoveryProbe entries serverIndex
    else noted

/-- A success closes the breaker. -/
def recordSuccess (client : MultiHsClient n) (serverIndex : Fin n) : MultiHsClient n :=
  if client.isSingleServer then client
  else
    let healthy := client.setBreaker entries serverIndex .new
    if (client.breaker entries serverIndex).status = .down then
      { healthy with
        recoveryTimers := client.recoveryTimers.filter
          fun i => (entries i).server != (entries serverIndex).server }
    else healthy

/-- What was recorded, kept beside the state; a single server records nothing. -/
def noteRecord (client : MultiHsClient n) (producer charged : Fin n) : MultiHsClient n :=
  if client.isSingleServer then client
  else { client with records := client.records ++ [⟨producer, charged⟩] }

/-- The preferred server is read once for the client, before the `await`. -/
def beginSend (client : MultiHsClient n) : MultiHsClient n :=
  { client with sends := client.sends ++ [client.preferredIndex] }

/-- And a second time for the record, after it. -/
def finishSend (client : MultiHsClient n) (index : Nat) (failedAt : Option Int) :
    MultiHsClient n :=
  match client.sends[index]? with
  | some producer =>
      let ended := { client with sends := client.sends.eraseIdx index }
      let charged := client.preferredIndex
      (match failedAt with
        | none => ended.recordSuccess entries charged
        | some now => ended.recordFailure entries charged now).noteRecord producer charged
  | none => client

/-- Servers that are down are not polled. -/
def onRoomEvent (client : MultiHsClient n) : MultiHsClient n :=
  if client.isSingleServer then client
  else
    { client with
      resolved := client.resolved ++ [false]
      polls := client.polls ++
        ((List.finRange n).filter fun i => (client.breaker entries i).status ≠ .down).map
          fun i => ⟨client.resolved.length, i⟩ }

/-- The first event of a call resolves it, unless it is a duplicate. -/
def deliver (client : MultiHsClient n) (poll : Poll n) (eventId : Option String) :
    MultiHsClient n :=
  if (client.resolved[poll.call]?).getD true then client
  else
    let (duplicate, noted) :=
      match eventId.filter (· ≠ "") with
      | some eventId => client.isDuplicate eventId
      | none => (false, client)
    if duplicate then noted
    else
      ({ noted with resolved := noted.resolved.set poll.call true }.recordSuccess entries
        poll.server).noteRecord poll.server poll.server

/-- Successes, failures and events, in any order. -/
def step (client : MultiHsClient n) : HsInput → MultiHsClient n
  | .sendEvent | .sendStateEvent => client.beginSend
  | .sent index => client.finishSend entries index none
  | .sendFailed index now => client.finishSend entries index (some now)
  | .onRoomEvent => client.onRoomEvent entries
  | .polled index answer =>
      match client.polls[index]? with
      | some poll =>
          let ended := { client with polls := client.polls.eraseIdx index }
          match answer with
          | .nothing => ended
          | .event eventId => ended.deliver entries poll eventId
      | none => client
  | .pollFailed index now =>
      match client.polls[index]? with
      | some poll =>
          ({ client with polls := client.polls.eraseIdx index }.recordFailure entries poll.server
            now).noteRecord poll.server poll.server
      | none => client
  | .pollTimeout call => { client with resolved := client.resolved.set call true }
  | .probeDue index =>
      match client.recoveryTimers[index]? with
      | some server =>
          let fired := { client with recoveryTimers := client.recoveryTimers.eraseIdx index }
          if client.running then { fired with probes := client.probes ++ [server] } else fired
      | none => client
  | .probed index =>
      match client.probes[index]? with
      | some server =>
          ({ client with probes := client.probes.eraseIdx index }.recordSuccess entries
            server).noteRecord server server
      | none => client
  | .probeFailed index =>
      match client.probes[index]? with
      | some server =>
          let ended := { client with probes := client.probes.eraseIdx index }
          if client.running then ended.startRecoveryProbe entries server else ended
      | none => client
  | .shutdown => { client with running := false, recoveryTimers := [] }

end Methods

section Records

variable {entries : Fin n → HsEntry Latency} {client : MultiHsClient n}

/-- Every outcome was recorded against the server it came from. -/
def Attributed (entries : Fin n → HsEntry Latency) (client : MultiHsClient n) : Prop :=
  ∀ record ∈ client.records, (entries record.charged).server = (entries record.producer).server

/-- A send that ends finds the server it began with still preferred. -/
def StillPreferred (entries : Fin n → HsEntry Latency) (client : MultiHsClient n) :
    HsInput → Prop
  | .sent index | .sendFailed index _ =>
      ∀ producer, client.sends[index]? = some producer →
        (entries client.preferredIndex).server = (entries producer).server
  | _ => True

/-- Breakers, timers and the choice of a server are one thing, and what was
recorded, seen and resolved is another. -/
structure Untouched (client next : MultiHsClient n) : Prop where
  records : next.records = client.records
  seenEvents : next.seenEvents = client.seenEvents
  resolved : next.resolved = client.resolved

theorem Untouched.trans {middle next : MultiHsClient n} (hFirst : Untouched client middle)
    (hSecond : Untouched middle next) : Untouched client next :=
  ⟨hSecond.records.trans hFirst.records, hSecond.seenEvents.trans hFirst.seenEvents,
    hSecond.resolved.trans hFirst.resolved⟩

theorem setBreaker_untouched (client : MultiHsClient n) (i : Fin n) (breaker : Breaker) :
    Untouched client (client.setBreaker entries i breaker) := ⟨rfl, rfl, rfl⟩

theorem startRecoveryProbe_untouched (client : MultiHsClient n) (i : Fin n) :
    Untouched client (client.startRecoveryProbe entries i) := by
  unfold startRecoveryProbe
  split <;> exact ⟨rfl, rfl, rfl⟩

theorem recordSuccess_untouched (client : MultiHsClient n) (i : Fin n) :
    Untouched client (client.recordSuccess entries i) := by
  simp only [recordSuccess]
  split_ifs <;> exact ⟨rfl, rfl, rfl⟩

@[simp] theorem startRecoveryProbe_records (client : MultiHsClient n) (i : Fin n) :
    (client.startRecoveryProbe entries i).records = client.records :=
  (startRecoveryProbe_untouched client i).records

@[simp] theorem recordSuccess_records (client : MultiHsClient n) (i : Fin n) :
    (client.recordSuccess entries i).records = client.records :=
  (recordSuccess_untouched client i).records

@[simp] theorem isDuplicate_records (client : MultiHsClient n) (eventId : String) :
    (client.isDuplicate eventId).2.records = client.records := by
  simp only [isDuplicate]
  split_ifs <;> rfl

theorem attributed_of_records {next : MultiHsClient n} (h : Attributed entries client)
    (hRecords : next.records = client.records) : Attributed entries next := by
  intro record hRecord
  exact h record (hRecords ▸ hRecord)

/-- A single server is the one that is charged. -/
theorem attributed_noteRecord_iff {next : MultiHsClient n} (h : Attributed entries client)
    (hRecords : next.records = client.records) (producer charged : Fin n) :
    Attributed entries (next.noteRecord producer charged) ↔
      (entries charged).server = (entries producer).server := by
  unfold noteRecord
  split
  next hSingle =>
    have hSame : charged = producer := by
      have hLe : n ≤ 1 := by simpa [isSingleServer] using hSingle
      apply Fin.ext
      omega
    exact iff_of_true (attributed_of_records h hRecords) (hSame ▸ rfl)
  next hSeveral =>
    constructor
    · intro hNext
      exact hNext ⟨producer, charged⟩ (by simp)
    · intro hServer record hRecord
      rw [hRecords, List.mem_append, List.mem_singleton] at hRecord
      rcases hRecord with hOld | rfl
      · exact h record hOld
      · exact hServer

/-- What is recorded against its own producer is recorded right. -/
theorem attributed_noteRecord {next : MultiHsClient n} (h : Attributed entries client)
    (hRecords : next.records = client.records) (server : Fin n) :
    Attributed entries (next.noteRecord server server) :=
  (attributed_noteRecord_iff h hRecords server server).mpr rfl

theorem attributed_deliver (h : Attributed entries client) (poll : Poll n)
    (eventId : Option String) : Attributed entries (client.deliver entries poll eventId) := by
  unfold deliver
  split
  · exact h
  · cases eventId.filter (· ≠ "") with
    | none => exact attributed_noteRecord h (by simp) poll.server
    | some eventId =>
        dsimp only
        split
        · exact attributed_of_records h (by simp)
        · exact attributed_noteRecord h (by simp) poll.server

variable [LinearOrder Latency]

theorem triggerFailover_untouched (client : MultiHsClient n) :
    Untouched client (client.triggerFailover entries) := by
  unfold triggerFailover
  split <;> exact ⟨rfl, rfl, rfl⟩

theorem recordFailure_untouched (client : MultiHsClient n) (i : Fin n) (now : Int) :
    Untouched client (client.recordFailure entries i now) := by
  simp only [recordFailure]
  split_ifs
  · exact ⟨rfl, rfl, rfl⟩
  · exact ⟨rfl, rfl, rfl⟩
  · exact ((setBreaker_untouched ..).trans (setBreaker_untouched ..)).trans
      ((triggerFailover_untouched _).trans (startRecoveryProbe_untouched _ i))
  · exact ((setBreaker_untouched ..).trans (setBreaker_untouched ..)).trans
      (startRecoveryProbe_untouched _ i)
  · exact setBreaker_untouched ..

@[simp] theorem recordFailure_records (client : MultiHsClient n) (i : Fin n) (now : Int) :
    (client.recordFailure entries i now).records = client.records :=
  (recordFailure_untouched client i now).records

theorem attributed_finishSend_iff (h : Attributed entries client) (index : Nat)
    (failedAt : Option Int) :
    Attributed entries (client.finishSend entries index failedAt) ↔
      ∀ producer, client.sends[index]? = some producer →
        (entries client.preferredIndex).server = (entries producer).server := by
  unfold finishSend
  cases hSend : client.sends[index]? with
  | none => exact iff_of_true h (by simp)
  | some producer =>
      have hNote : ∀ next : MultiHsClient n, next.records = client.records →
          (Attributed entries (next.noteRecord producer client.preferredIndex) ↔
            ∀ sender, some producer = some sender →
              (entries client.preferredIndex).server = (entries sender).server) := by
        intro next hRecords
        rw [attributed_noteRecord_iff h hRecords]
        simp
      cases failedAt with
      | none => exact hNote _ (by simp)
      | some now => exact hNote _ (by simp)

theorem attributed_polled (h : Attributed entries client) (index : Nat) (answer : PollAnswer) :
    Attributed entries (client.step entries (.polled index answer)) := by
  simp only [step]
  cases client.polls[index]? with
  | none => exact h
  | some poll =>
      have hEnded : Attributed entries { client with polls := client.polls.eraseIdx index } := h
      cases answer with
      | nothing => exact hEnded
      | event eventId => exact attributed_deliver hEnded poll eventId

theorem attributed_step_iff (client : MultiHsClient n) (input : HsInput)
    (h : Attributed entries client) :
    Attributed entries (client.step entries input) ↔ StillPreferred entries client input := by
  cases input with
  | sent index => exact attributed_finishSend_iff h index none
  | sendFailed index now => exact attributed_finishSend_iff h index (some now)
  | onRoomEvent =>
      refine iff_of_true (attributed_of_records h ?_) trivial
      simp only [step, onRoomEvent]
      split <;> rfl
  | polled index answer => exact iff_of_true (attributed_polled h index answer) trivial
  | pollFailed index now =>
      apply iff_of_true _ trivial
      simp only [step]
      cases client.polls[index]? with
      | none => exact h
      | some poll => exact attributed_noteRecord h (by simp) poll.server
  | probeDue index =>
      apply iff_of_true _ trivial
      simp only [step]
      cases client.recoveryTimers[index]? with
      | none => exact h
      | some server =>
          dsimp only
          split <;> exact h
  | probed index =>
      apply iff_of_true _ trivial
      simp only [step]
      cases client.probes[index]? with
      | none => exact h
      | some server => exact attributed_noteRecord h (by simp) server
  | probeFailed index =>
      apply iff_of_true _ trivial
      simp only [step]
      cases client.probes[index]? with
      | none => exact h
      | some server =>
          dsimp only
          split
          · exact attributed_of_records h (by simp)
          · exact h
  | _ => exact iff_of_true h trivial

/-- Outcomes are charged to the servers they came from exactly in the runs where
a send never ends after the preferred server has changed under it. -/
theorem always_attributed_iff [NeZero n] (entries : Fin n → HsEntry Latency)
    (preferredServer : Option String) (inputs : List HsInput) :
    Always (step entries) (Attributed entries) (createFromClients entries preferredServer) inputs ↔
      Admissible (step entries) (StillPreferred entries)
        (createFromClients entries preferredServer) inputs := by
  apply always_iff_admissible attributed_step_iff
  intro record hRecord
  cases hRecord

/-- A close server and a far one. -/
def twoServers : Fin 2 → HsEntry Nat
  | 0 => ⟨"https://near", 1⟩
  | 1 => ⟨"https://far", 2⟩

/-- A send that ends while its server is still preferred. -/
theorem always_attributed_sent :
    Always (step twoServers) (Attributed twoServers) (createFromClients twoServers none)
      [.sendEvent, .sendFailed 0 0, .sendStateEvent, .sent 0] := by
  apply (always_attributed_iff twoServers none _).mpr
  refine ⟨trivial, ?_, trivial, ?_, trivial⟩ <;>
    · intro producer hProducer
      revert hProducer producer
      decide

/-- Six sends to the close server fail: the fifth failure makes the far one
preferred, and the sixth is charged to that one. -/
theorem not_always_attributed :
    ¬ Always (step twoServers) (Attributed twoServers) (createFromClients twoServers none)
      (List.replicate 6 .sendEvent ++ List.replicate 6 (.sendFailed 0 0)) := by
  intro h
  have hCharged := h.last ⟨0, 1⟩ (by decide +kernel)
  revert hCharged
  decide

end Records

end MultiHsClient

end Mxdx.Core
