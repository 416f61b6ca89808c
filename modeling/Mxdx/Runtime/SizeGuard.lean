import Mxdx.Core.SentEvents
import Mxdx.Runtime.SessionMux

/-! The limits of the receivers and the sender that knows of none. After a rate limit
the sender puts all that has queued up into one event; the receivers, which guard
against zlib bombs, look at the size of it. -/
namespace Mxdx.Runtime

open Automaton
open Mxdx.Core (BatchedSender Encoded JsValue SenderInput SenderOptions Zlib decodeData
  defaultCompress inflateSync maxDecompressedSize)
open Mxdx.Core.BatchedSender (Fits new outgoing stepWith took_step)

section Receiver

variable {zlib : Zlib} {parse : String → Option JsValue} {isCount : UInt64 → Bool}

/-- The multiplexer of the launcher decodes as the socket does. -/
theorem processInput_eq {content : JsValue} {parsed : TerminalDataEvent}
    (hParsed : TerminalDataEvent.safeParse ⟨parse, isCount, inflateSync zlib⟩ content =
      some parsed) :
    processInput ⟨parse, isCount, inflateSync zlib⟩ content =
      decodeData zlib ⟨parsed.data, parsed.encoding⟩ := by
  rw [processInput, hParsed]
  rfl

end Receiver

namespace SizeGuard

variable (zlib : Zlib) (options : SenderOptions)

/-- No receiver discards an event, be it sent or on its way. -/
structure Received (sender : BatchedSender) : Prop where
  socket : ∀ event ∈ outgoing (defaultCompress zlib) sender,
    decodeData zlib event.2 = some event.1
  mux : ∀ event ∈ outgoing (defaultCompress zlib) sender, ∀ parse isCount content,
    TerminalDataEvent.safeParse ⟨parse, isCount, inflateSync zlib⟩ content =
        some ⟨event.2.encoded, event.2.encoding⟩ →
      processInput ⟨parse, isCount, inflateSync zlib⟩ content = some event.1

section Steps

variable {zlib} {options} {sender : BatchedSender}

theorem received_iff (sender : BatchedSender) :
    Received zlib sender ↔ ∀ event ∈ outgoing (defaultCompress zlib) sender,
      decodeData zlib event.2 = some event.1 := by
  constructor
  · exact Received.socket
  · intro h
    refine ⟨h, fun event hEvent parse isCount content hParsed => ?_⟩
    rw [processInput_eq hParsed]
    exact h event hEvent

/-- What a step sends besides is received just if the loop takes no more than the limit. -/
theorem received_step_iff (h : zlib.Inverts) (sender : BatchedSender) (input : SenderInput)
    (hReceived : Received zlib sender) :
    Received zlib (stepWith (defaultCompress zlib) options sender input) ↔ Fits sender input := by
  have hTook := took_step (defaultCompress zlib) options sender input
  rw [received_iff]
  constructor
  · intro hNext
    by_cases hNone : sender.backlog input = []
    · rw [Fits, hNone]
      exact Nat.zero_le _
    · have hDecoded := hNext _ (hTook.all hNone).1
      exact (Core.decodeData_defaultCompress_iff h _).mp hDecoded
  · intro hFits event hEvent
    rcases hTook.only event hEvent with hOld | rfl
    · exact hReceived.socket event hOld
    · exact (Core.decodeData_defaultCompress_iff h _).mpr hFits

end Steps

/-- No receiver ever discards an event exactly if no turn of the loop finds more bytes than
the limit that were pushed and not sent. -/
theorem always_received_iff (h : zlib.Inverts) (inputs : List SenderInput) :
    Always (stepWith (defaultCompress zlib) options) (Received zlib) (new options) inputs ↔
      Admissible (stepWith (defaultCompress zlib) options) Fits (new options) inputs :=
  always_iff_admissible (received_step_iff h) ⟨by simp [outgoing, new], by simp [outgoing, new]⟩

section Examples

/-- A chunk, a rate limit, and another chunk while it lasts. -/
def limitedInputs (first second : Bytes) : List SenderInput :=
  [.push (.bytes first), .timer, .compressed 0 (.error ""), .answered 0 (.error "429"),
    .push (.bytes second), .waited 0, .compressed 0 (.error "")]

/-- The second attempt sends both chunks in one event. -/
theorem outgoing_limitedInputs (zlib : Zlib) (roomId : String) (first second : Bytes) :
    outgoing (defaultCompress zlib)
      (run (stepWith (defaultCompress zlib) ⟨roomId, "org.mxdx.terminal.data", none, 200⟩)
        (new ⟨roomId, "org.mxdx.terminal.data", none, 200⟩) (limitedInputs first second)) =
      [(first ++ second, defaultCompress zlib (first ++ second))] := by
  have hLimited : Core.rateLimited "429" = true := by decide
  simp [limitedInputs, stepWith, Core.BatchedSender.compressedBy, new, Core.BatchedSender.step,
    Core.BatchedSender.push, Core.BatchedSender.accept, Core.Chunk.encode,
    Core.BatchedSender.flushBuffer, Core.BatchedSender.cut, Core.BatchedSender.drain,
    Core.BatchedSender.drainLoop, Core.BatchedSender.coalesce, Core.BatchedSender.resume,
    Core.BatchedSender.onCompressed, Core.BatchedSender.onAnswered, hLimited,
    Core.BatchedSender.onWaited, outgoing, Core.BatchedSender.outgoing?, Core.Event.encoded]

theorem always_received_zeros :
    Core.zeroZlib.Inverts ∧
      Always (stepWith (defaultCompress Core.zeroZlib)
          ⟨"!room", "org.mxdx.terminal.data", none, 200⟩)
        (Received Core.zeroZlib) (new ⟨"!room", "org.mxdx.terminal.data", none, 200⟩)
        [.push (.bytes (List.replicate 32 0)), .timer, .compressed 0 (.error "")] := by
  refine ⟨Core.inverts_zeroZlib, (always_received_iff _ _ Core.inverts_zeroZlib _).mpr ?_⟩
  simp only [Admissible, Fits]
  decide

/-- It is discarded if the two together pass the limit. -/
theorem not_received_of_backlog {zlib : Zlib} (h : zlib.Inverts) (roomId : String)
    {first second : Bytes} (hSize : maxDecompressedSize < (first ++ second).length) :
    ¬ Always (stepWith (defaultCompress zlib) ⟨roomId, "org.mxdx.terminal.data", none, 200⟩)
      (Received zlib) (new ⟨roomId, "org.mxdx.terminal.data", none, 200⟩)
      (limitedInputs first second) := by
  intro hAlways
  have hSocket := hAlways.last.socket
  rw [outgoing_limitedInputs] at hSocket
  have hDecoded := hSocket _ (List.mem_singleton.mpr rfl)
  rw [Core.decodeData_defaultCompress_iff h] at hDecoded
  omega

/-- Each chunk fits, and the event that carries both after the rate limit does not. -/
theorem backlog_discarded :
    let first : Bytes := [0x24]
    let second : Bytes := List.replicate maxDecompressedSize 0
    let options : SenderOptions := ⟨"!room", "org.mxdx.terminal.data", none, 200⟩
    first.length ≤ maxDecompressedSize ∧ second.length ≤ maxDecompressedSize ∧
      ¬ Always (stepWith (defaultCompress Core.zeroZlib) options) (Received Core.zeroZlib)
        (new options) (limitedInputs first second) := by
  intro first second options
  have hSecond : second.length = maxDecompressedSize := List.length_replicate
  refine ⟨by decide, Nat.le_of_eq hSecond, not_received_of_backlog Core.inverts_zeroZlib "!room" ?_⟩
  rw [List.length_append, hSecond]
  exact Nat.lt_add_of_pos_left (by decide)

end Examples

end SizeGuard

end Mxdx.Runtime
