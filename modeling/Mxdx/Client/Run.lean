import Mxdx.CoreWasm.Timeline
import Mxdx.Runtime.TaskEvents
import Mxdx.Types.KeychainFile

/-! The loop with which the JavaScript client follows a session. Each round reads one
page of the room, newest event first, writes the outputs that it has not written
before, and looks for the result. -/
namespace Mxdx.Client

open Automaton
open CoreWasm (RoomEvent backward collectRoomEvents)
open Worker (Value asUInt64 textField)
open Mxdx.Types (OutputStream SessionOutput strFromUtf8 strFromUtf8_asBytes)

/-- `read_room_events` keeps of a page what `collect_room_events` keeps. -/
def readRoomEvents (limit : Nat) (timeline : List (RoomEvent Value)) : List (RoomEvent Value) :=
  collectRoomEvents limit timeline

/-- `===` and `Set.has` on parsed JSON; an object is only the same as itself. -/
def sameValue : Value → Value → Bool
  | .num first, .num second => first = second
  | .str first, .str second => first = second
  | .bool first, .bool second => first = second
  | _, _ => false

/-- An event of the thread that names the session. -/
def isOfSession (uuid : String) (event : RoomEvent Value) : Bool :=
  (event.content.get? "session_uuid").any (sameValue (.str uuid))

/-- A piece of output of the session. -/
def isOutput (uuid : String) (event : RoomEvent Value) : Bool :=
  event.eventType = "org.mxdx.session.output" && isOfSession uuid event

/-- The end of the session. -/
def isResult (uuid : String) (event : RoomEvent Value) : Bool :=
  event.eventType = "org.mxdx.session.result" && isOfSession uuid event

/-- A number that is null is none. -/
def seq? (event : RoomEvent Value) : Option Value :=
  (event.content.get? "seq").filter (!·.isNull)

/-- `content.exit_code ?? 1`. -/
def exitCode (event : RoomEvent Value) : Value :=
  ((event.content.get? "exit_code").filter (!·.isNull)).getD (Runtime.number 1)

/-- Whatever is not called stderr is printed as stdout. -/
def streamOf (event : RoomEvent Value) : OutputStream :=
  if textField event.content "stream" = "stderr" then .stderr else .stdout

/-- `replaced` is the text that Node makes of bytes that are not UTF-8. -/
def decodeOutputData (replaced : Bytes → String) (data encoding : String) : String :=
  if data = "" then ""
  else if encoding = "base64" ∨ encoding = "zlib+base64" then
    let bytes := Base64.decodeLenient data.toList
    (strFromUtf8 bytes).getD (replaced bytes)
  else data

/-- How a run of the loop ends. An error of a sync or of a read ends it, too. -/
inductive Outcome where
  | returned (exitCode : Value)
  | timedOut
  | thrown

/-- The room's timeline, oldest event first, and what the loop keeps: the numbers it has
seen, and the events whose data it has written, in the order of the writes. -/
structure SessionView where
  timeline : List (RoomEvent Value)
  printedSeqs : List Value
  printed : List (RoomEvent Value)
  outcome : Option Outcome

/-- A page has at most `limit` events; the homeserver may give fewer than asked for. -/
inductive ViewInput where
  | arrive (event : RoomEvent Value)
  | poll (limit : Nat)
  | expired
  | failed

namespace SessionView

variable (uuid : String)

/-- Nothing has been seen yet. -/
def new : SessionView := ⟨[], [], [], none⟩

/-- One round of the loop over the outputs of a page. -/
def printEvent (view : SessionView) (event : RoomEvent Value) : SessionView :=
  if isOutput uuid event then
    match seq? event with
    | some seq =>
        if view.printedSeqs.any (sameValue seq) then view
        else
          { view with
            printedSeqs := view.printedSeqs ++ [seq]
            printed := view.printed ++ [event] }
    | none => { view with printed := view.printed ++ [event] }
  else view

/-- One round: the page is printed, then looked through for the result. -/
def poll (view : SessionView) (limit : Nat) : SessionView :=
  let page := readRoomEvents limit view.timeline
  let view := page.foldl (printEvent uuid) view
  match page.find? (isResult uuid) with
  | some result => { view with outcome := some (.returned (exitCode result)) }
  | none => view

/-- Nothing happens once the run has ended. -/
def step (view : SessionView) (input : ViewInput) : SessionView :=
  if view.outcome.isSome then view
  else
    match input with
    | .arrive event => { view with timeline := view.timeline ++ [event] }
    | .poll limit => view.poll uuid limit
    | .expired => { view with outcome := some .timedOut }
    | .failed => { view with outcome := some .thrown }

/-- The outputs of one stream among the events that were written. -/
def printedTo (view : SessionView) (stream : OutputStream) : List (RoomEvent Value) :=
  view.printed.filter (streamOf · = stream)

/-- The bytes that the loop has written to a stream. -/
def written (replaced : Bytes → String) (view : SessionView) (stream : OutputStream) : Bytes :=
  (view.printedTo stream).flatMap fun event =>
    asBytes (decodeOutputData replaced (textField event.content "data")
      (textField event.content "encoding"))

end SessionView

section Workers

/-- The fields of an output as they are derived, and the relation to its thread. -/
def threadedOutput (threadRoot : String) (output : SessionOutput) : Value :=
  .obj [("session_uuid", .str output.sessionUuid), ("worker_id", .str output.workerId),
    ("stream", .str (Runtime.streamText output.stream)), ("data", .str output.data),
    ("seq", .num (.posInt output.seq)), ("timestamp", .num (.posInt output.timestamp)),
    ("m.relates_to", .obj [("rel_type", .str "m.thread"), ("event_id", .str threadRoot)])]

/-- Who runs the session. -/
inductive Source where
  | launcher (userId : String)
  | worker (workerId : String)

/-- An output as the JavaScript launcher sends it for each line, or as the Rust worker
sends it once, with the whole pane. -/
def Source.Sends (uuid : String) : Source → RoomEvent Value → Prop
  | launcher userId, event => ∃ stream line seq timestamp,
      event.content = (Runtime.Post.output stream line seq timestamp).content
        (some (.str uuid)) userId
  | worker workerId, event => ∃ finalOutput threadRoot timestamp, finalOutput ≠ "" ∧
      event.content = threadedOutput threadRoot
        ⟨uuid, workerId, .stdout, Base64.encode (asBytes finalOutput), 0, timestamp⟩

end Workers

/-- Pieces without a number come first. -/
def seqNumber (event : RoomEvent Value) : Nat :=
  ((event.content.get? "seq").bind asUInt64).elim 0 UInt64.toNat

/-- The bytes that the data of an output stands for, whatever its encoding field says. -/
def decodedData (event : RoomEvent Value) : Bytes :=
  (Base64.decode (textField event.content "data")).getD []

section Reading

variable {uuid : String} {source : Source} {event other : RoomEvent Value}

/-- What the loop reads of an output that the launcher sends. -/
theorem launcher_output {stream : OutputStream} {line userId : String} {seq timestamp : UInt64}
    (hContent : event.content = (Runtime.Post.output stream line seq timestamp).content
      (some (.str uuid)) userId) :
    seq? event = some (.num (.posInt seq)) ∧ seqNumber event = seq.toNat ∧
      textField event.content "data" = Base64.encode (asBytes line) ∧
        textField event.content "encoding" = "base64" := by
  obtain ⟨eventId, eventType, sender, content⟩ := event
  obtain rfl : content = _ := hContent
  exact ⟨rfl, rfl, rfl, rfl⟩

/-- What it reads of the output that the worker sends. -/
theorem worker_output {finalOutput threadRoot workerId : String} {timestamp : UInt64}
    (hContent : event.content = threadedOutput threadRoot
      ⟨uuid, workerId, .stdout, Base64.encode (asBytes finalOutput), 0, timestamp⟩) :
    seq? event = some (.num (.posInt 0)) ∧ seqNumber event = 0 ∧
      textField event.content "data" = Base64.encode (asBytes finalOutput) ∧
        textField event.content "encoding" = "" := by
  obtain ⟨eventId, eventType, sender, content⟩ := event
  obtain rfl : content = _ := hContent
  exact ⟨rfl, rfl, rfl, rfl⟩

theorem Source.Sends.seq (hSends : source.Sends uuid event) :
    ∃ seq : UInt64, seq? event = some (.num (.posInt seq)) ∧ seqNumber event = seq.toNat := by
  cases source with
  | launcher userId =>
      obtain ⟨stream, line, seq, timestamp, hContent⟩ := hSends
      exact ⟨seq, (launcher_output hContent).1, (launcher_output hContent).2.1⟩
  | worker workerId =>
      obtain ⟨finalOutput, threadRoot, timestamp, -, hContent⟩ := hSends
      exact ⟨0, (worker_output hContent).1, (worker_output hContent).2.1⟩

/-- Two outputs have the same number as the loop sees it if they have the same number. -/
theorem sameValue_seq {source' : Source} (hSends : source.Sends uuid event)
    (hOther : source'.Sends uuid other) :
    ((seq? event).any fun seq => (seq? other).any fun seen => sameValue seq seen) = true ↔
      seqNumber event = seqNumber other := by
  obtain ⟨seq, hSeq, hNumber⟩ := hSends.seq
  obtain ⟨seq', hSeq', hNumber'⟩ := hOther.seq
  rw [hSeq, hSeq', hNumber, hNumber', UInt64.toNat_inj]
  simp [sameValue]

/-- What an output stands for, as text: its own line or pane. -/
theorem Source.Sends.text (hSends : source.Sends uuid event) :
    ∃ text, textField event.content "data" = Base64.encode (asBytes text) := by
  cases source with
  | launcher userId =>
      obtain ⟨stream, line, seq, timestamp, hContent⟩ := hSends
      exact ⟨line, (launcher_output hContent).2.2.1⟩
  | worker workerId =>
      obtain ⟨finalOutput, threadRoot, timestamp, -, hContent⟩ := hSends
      exact ⟨finalOutput, (worker_output hContent).2.2.1⟩

theorem decodedData_of_text {text : String}
    (hText : textField event.content "data" = Base64.encode (asBytes text)) :
    decodedData event = asBytes text := by
  rw [decodedData, hText, Base64.decode_encode, Option.getD_some]

/-- Data that is named as base64 is written as what it stands for. -/
theorem decodeOutputData_base64 (replaced : Bytes → String) (text : String) :
    decodeOutputData replaced (Base64.encode (asBytes text)) "base64" = text := by
  have hLenient : Base64.decodeLenient (Base64.encode (asBytes text)).toList = asBytes text := by
    rw [Base64.encode, String.toList_ofList, Base64.decodeLenient_encodeChars]
  unfold decodeOutputData
  split
  · rename_i hEmpty
    rw [hEmpty] at hLenient
    have hBytes : asBytes text = asBytes "" := hLenient.symm
    exact (Utf8.bytes_injective hBytes).symm
  · simp only [true_or, if_true, hLenient, strFromUtf8_asBytes, Option.getD_some]

theorem decodeOutputData_plain (replaced : Bytes → String) (data : String) :
    decodeOutputData replaced data "" = data := by
  unfold decodeOutputData
  split
  · rename_i hEmpty
    exact hEmpty.symm
  · rfl

end Reading

namespace SessionView

variable (uuid : String) (source : Source) (replaced : Bytes → String) (view : SessionView)

/-- The session's outputs come from who runs it, each with its own number. They may come
in any order, and behind the result. -/
def Sent : ViewInput → Prop
  | .arrive event => isOutput uuid event = true → source.Sends uuid event ∧
      ∀ other ∈ view.timeline, isOutput uuid other = true → seqNumber other ≠ seqNumber event
  | _ => True

/-- What was written is the data of the session's outputs, of each of them once and in
the order of their numbers. -/
structure Faithful : Prop where
  once : ∀ stream, (view.printedTo stream).Perm
    ((view.timeline.filter (isOutput uuid)).filter (streamOf · = stream))
  inOrder : ∀ stream, ((view.printedTo stream).map seqNumber).Pairwise (· < ·)
  decoded : ∀ stream, view.written replaced stream =
    (view.printedTo stream).flatMap decodedData

/-- The command has come to an end of its own. -/
def Returned : Prop := ∃ exitCode, view.outcome = some (.returned exitCode)

/-- The law of `run`, from the moment it returns the exit code. -/
def Reported : Prop := view.Returned → view.Faithful uuid replaced

/-- The outputs of a page that are not passed over. -/
def isNew (event : RoomEvent Value) : Bool :=
  isOutput uuid event &&
    !(seq? event).any fun seq => view.printedSeqs.any (sameValue seq)

def newOn (limit : Nat) : List (RoomEvent Value) :=
  (readRoomEvents limit view.timeline).filter (view.isNew uuid)

/-- A page with the result has all outputs that are not written. On every page the new
outputs of one stream stand in order, which is against the order of the room, behind
those that were written; and each of them names its encoding. -/
structure Clean (limit : Nat) : Prop where
  complete : (readRoomEvents limit view.timeline).any (isResult uuid) = true →
    ∀ event ∈ view.timeline, view.isNew uuid event = true →
      event ∈ readRoomEvents limit view.timeline
  ascending : ∀ stream, (((view.newOn uuid limit).filter (streamOf · = stream)).map
    seqNumber).Pairwise (· < ·)
  above : ∀ event ∈ view.newOn uuid limit, ∀ earlier ∈ view.printedTo (streamOf event),
    seqNumber earlier < seqNumber event
  encoded : ∀ event ∈ view.newOn uuid limit, textField event.content "encoding" = "base64"

/-- The polls of the run are clean; other inputs do not matter. -/
def CleanPolls : ViewInput → Prop
  | .poll limit => view.outcome = none → view.Clean uuid limit
  | _ => True

/-- What the loop keeps is what it has been sent: outputs with numbers of their own, of
which it has written some, and remembers the numbers of these. -/
structure Tracked : Prop where
  sent : ∀ event ∈ view.timeline, isOutput uuid event = true → source.Sends uuid event
  distinct : ((view.timeline.filter (isOutput uuid)).map seqNumber).Nodup
  seqs : view.printedSeqs = view.printed.filterMap seq?
  printed : ∀ event ∈ view.printed, event ∈ view.timeline ∧ isOutput uuid event = true
  once : view.printed.Nodup

variable {uuid} {source} {replaced} {view}

theorem printEvent_of_not_new {event : RoomEvent Value} (hNew : view.isNew uuid event = false) :
    view.printEvent uuid event = view := by
  unfold printEvent
  split
  · rename_i hOutput
    cases hSeq : seq? event with
    | none => simp [isNew, hOutput, hSeq] at hNew
    | some seq =>
        have hSeen : view.printedSeqs.any (sameValue seq) = true := by
          simpa [isNew, hOutput, hSeq] using hNew
        simp only [hSeen, if_true]
  · rfl

theorem printEvent_of_new {event : RoomEvent Value} (hNew : view.isNew uuid event = true) :
    view.printEvent uuid event =
      { view with
        printedSeqs := view.printedSeqs ++ (seq? event).toList
        printed := view.printed ++ [event] } := by
  rw [isNew, Bool.and_eq_true] at hNew
  unfold printEvent
  rw [if_pos hNew.1]
  cases hSeq : seq? event with
  | none => simp
  | some seq =>
      have hUnseen : view.printedSeqs.any (sameValue seq) = false := by
        simpa [hSeq] using hNew.2
      simp only [hUnseen, Bool.false_eq_true, if_false, Option.toList_some]

/-- Of a page whose outputs have numbers of their own, the new ones are written, in the
order of the page. -/
theorem foldl_printEvent (page : List (RoomEvent Value))
    (hSent : ∀ event ∈ page, isOutput uuid event = true → source.Sends uuid event)
    (hDistinct : ((page.filter (isOutput uuid)).map seqNumber).Nodup) :
    page.foldl (printEvent uuid) view =
      { view with
        printedSeqs := view.printedSeqs ++ (page.filter (view.isNew uuid)).filterMap seq?
        printed := view.printed ++ page.filter (view.isNew uuid) } := by
  induction page generalizing view with
  | nil => simp
  | cons event rest ih =>
      have hRest : ((rest.filter (isOutput uuid)).map seqNumber).Nodup :=
        hDistinct.sublist (((List.sublist_cons_self event rest).filter _).map _)
      have hSentRest : ∀ event ∈ rest, isOutput uuid event = true → source.Sends uuid event :=
        fun later hLater => hSent later (List.mem_cons_of_mem _ hLater)
      rw [List.foldl_cons, ih hSentRest hRest]
      cases hNew : view.isNew uuid event with
      | false =>
          rw [printEvent_of_not_new hNew, List.filter_cons_of_neg (by simp [hNew])]
      | true =>
          -- the number of this output is none of those that follow
          have hOutput : isOutput uuid event = true := by
            rw [isNew, Bool.and_eq_true] at hNew
            exact hNew.1
          have hLater : ∀ later ∈ rest,
              isNew uuid (view.printEvent uuid event) later = view.isNew uuid later := by
            intro later hLater
            rw [printEvent_of_new hNew]
            cases hOutputLater : isOutput uuid later with
            | false => simp [isNew, hOutputLater]
            | true =>
                obtain ⟨seq, hSeq, hNumber⟩ := (hSent event List.mem_cons_self hOutput).seq
                obtain ⟨seq', hSeq', hNumber'⟩ := (hSentRest later hLater hOutputLater).seq
                rw [List.filter_cons_of_pos hOutput, List.map_cons, List.nodup_cons] at hDistinct
                have hNe : seq' ≠ seq := by
                  rintro rfl
                  refine hDistinct.1 (List.mem_map.2 ⟨later, ?_, hNumber'.trans hNumber.symm⟩)
                  exact List.mem_filter.2 ⟨hLater, hOutputLater⟩
                simp [isNew, hOutputLater, hSeq, hSeq', sameValue, hNe]
          rw [List.filter_congr hLater, printEvent_of_new hNew,
            List.filter_cons_of_pos hNew]
          cases hSeq : seq? event with
          | none => simp [hSeq]
          | some seq => simp [hSeq]

theorem readRoomEvents_sublist (limit : Nat) (timeline : List (RoomEvent Value)) :
    (readRoomEvents limit timeline).Sublist timeline.reverse :=
  (List.filter_sublist).trans (List.take_sublist _ _)

theorem mem_readRoomEvents {limit : Nat} {timeline : List (RoomEvent Value)}
    {event : RoomEvent Value} (hEvent : event ∈ readRoomEvents limit timeline) :
    event ∈ timeline :=
  List.mem_reverse.1 ((readRoomEvents_sublist limit timeline).subset hEvent)

namespace Tracked

variable (hTracked : view.Tracked uuid source)
include hTracked

theorem nodup_page (limit : Nat) :
    (((readRoomEvents limit view.timeline).filter (isOutput uuid)).map seqNumber).Nodup := by
  have hReverse : ((view.timeline.reverse.filter (isOutput uuid)).map seqNumber).Nodup := by
    rw [List.filter_reverse, List.map_reverse, List.nodup_reverse]
    exact hTracked.distinct
  exact hReverse.sublist (((readRoomEvents_sublist limit view.timeline).filter _).map _)

/-- A poll writes the new outputs of its page, in the order of the page. -/
theorem poll_eq (limit : Nat) :
    view.poll uuid limit =
      { view with
        printedSeqs := view.printedSeqs ++ (view.newOn uuid limit).filterMap seq?
        printed := view.printed ++ view.newOn uuid limit
        outcome := ((readRoomEvents limit view.timeline).find? (isResult uuid)).elim view.outcome
          fun result => some (.returned (exitCode result)) } := by
  have hSent : ∀ event ∈ readRoomEvents limit view.timeline, isOutput uuid event = true →
      source.Sends uuid event := fun event hEvent => hTracked.sent event (mem_readRoomEvents hEvent)
  simp only [poll, foldl_printEvent _ hSent (hTracked.nodup_page limit)]
  cases (readRoomEvents limit view.timeline).find? (isResult uuid) <;> rfl

/-- Two outputs with one number are one event. -/
theorem eq_of_seqNumber {event other : RoomEvent Value} (hEvent : event ∈ view.timeline)
    (hOutput : isOutput uuid event = true) (hOther : other ∈ view.timeline)
    (hOutput' : isOutput uuid other = true) (hSeq : seqNumber event = seqNumber other) :
    event = other :=
  List.inj_on_of_nodup_map hTracked.distinct (List.mem_filter.2 ⟨hEvent, hOutput⟩)
    (List.mem_filter.2 ⟨hOther, hOutput'⟩) hSeq

/-- The new outputs are those that were not written. -/
theorem isNew_iff {event : RoomEvent Value} (hEvent : event ∈ view.timeline) :
    view.isNew uuid event = true ↔ isOutput uuid event = true ∧ event ∉ view.printed := by
  rw [isNew, Bool.and_eq_true]
  refine and_congr_right fun hOutput => ?_
  have hSends := hTracked.sent event hEvent hOutput
  rw [Bool.not_eq_true', ← Bool.not_eq_true, not_iff_not, hTracked.seqs]
  constructor
  · intro hSeen
    rw [Option.any_eq_true] at hSeen
    obtain ⟨seq, hSeq, hSeen⟩ := hSeen
    rw [List.any_eq_true] at hSeen
    obtain ⟨seen, hMem, hSame⟩ := hSeen
    obtain ⟨other, hOther, hSeqOther⟩ := List.mem_filterMap.1 hMem
    obtain ⟨hTimeline, hOutputOther⟩ := hTracked.printed other hOther
    have hNumber := (sameValue_seq hSends (hTracked.sent other hTimeline hOutputOther)).1
      (by simp [hSeq, hSeqOther, hSame])
    rwa [hTracked.eq_of_seqNumber hEvent hOutput hTimeline hOutputOther hNumber]
  · intro hPrinted
    obtain ⟨seq, hSeq, -⟩ := hSends.seq
    rw [hSeq, Option.any_some, List.any_eq_true]
    exact ⟨_, List.mem_filterMap.2 ⟨event, hPrinted, hSeq⟩, by simp [sameValue]⟩

theorem mem_newOn_iff {limit : Nat} {event : RoomEvent Value} :
    event ∈ view.newOn uuid limit ↔ event ∈ readRoomEvents limit view.timeline ∧
      isOutput uuid event = true ∧ event ∉ view.printed := by
  rw [newOn, List.mem_filter]
  exact and_congr_right fun hPage => hTracked.isNew_iff (mem_readRoomEvents hPage)

theorem nodup_newOn (limit : Nat) : (view.newOn uuid limit).Nodup := by
  refine (List.Nodup.of_map _ (hTracked.nodup_page limit)).sublist ?_
  refine List.monotone_filter_right _ ?_
  intro event hNew
  rw [isNew, Bool.and_eq_true] at hNew
  exact hNew.1

theorem arrive {event : RoomEvent Value} (hSent : view.Sent uuid source (.arrive event)) :
    Tracked uuid source { view with timeline := view.timeline ++ [event] } := by
  refine ⟨?_, ?_, hTracked.seqs, ?_, hTracked.once⟩
  · intro other hOther hOutput
    rcases List.mem_append.1 hOther with hOther | hOther
    · exact hTracked.sent other hOther hOutput
    · obtain rfl := List.mem_singleton.1 hOther
      exact (hSent hOutput).1
  · rw [List.filter_append, List.map_append]
    cases hOutput : isOutput uuid event with
    | false => simpa [hOutput] using hTracked.distinct
    | true =>
        rw [List.filter_cons_of_pos hOutput]
        refine List.nodup_append.2 ⟨hTracked.distinct, by simp, ?_⟩
        intro number hNumber _ hEvent hSame
        obtain ⟨other, hOther, hSeq⟩ := List.mem_map.1 hNumber
        obtain ⟨hTimeline, hOutputOther⟩ := List.mem_filter.1 hOther
        simp only [List.filter_nil, List.map_cons, List.map_nil, List.mem_singleton] at hEvent
        exact (hSent hOutput).2 other hTimeline hOutputOther (hSeq.trans (hSame.trans hEvent))
  · intro other hOther
    exact (hTracked.printed other hOther).imp_left (List.mem_append_left _)

theorem poll (limit : Nat) : (view.poll uuid limit).Tracked uuid source := by
  rw [hTracked.poll_eq limit]
  refine ⟨hTracked.sent, hTracked.distinct, ?_, ?_, ?_⟩
  · simp only [List.filterMap_append, hTracked.seqs]
  · intro event hEvent
    rcases List.mem_append.1 hEvent with hEvent | hEvent
    · exact hTracked.printed event hEvent
    · have hNew := hTracked.mem_newOn_iff.1 hEvent
      exact ⟨mem_readRoomEvents hNew.1, hNew.2.1⟩
  · refine List.nodup_append.2 ⟨hTracked.once, hTracked.nodup_newOn limit, ?_⟩
    rintro event hPrinted _ hNew rfl
    exact (hTracked.mem_newOn_iff.1 hNew).2.2 hPrinted

end Tracked

theorem tracked_new : new.Tracked uuid source :=
  ⟨by simp [new], by simp [new], rfl, by simp [new], by simp [new]⟩

theorem tracked_step (view : SessionView) (input : ViewInput) (hTracked : view.Tracked uuid source)
    (hSent : view.Sent uuid source input) : (view.step uuid input).Tracked uuid source := by
  unfold step
  split
  · exact hTracked
  · cases input with
    | arrive event => exact hTracked.arrive hSent
    | poll limit => exact hTracked.poll limit
    | expired => exact ⟨hTracked.1, hTracked.2, hTracked.3, hTracked.4, hTracked.5⟩
    | failed => exact ⟨hTracked.1, hTracked.2, hTracked.3, hTracked.4, hTracked.5⟩

/-- What was written so far is in order and decoded, and once the run has returned,
nothing is missing. -/
structure Accurate (uuid : String) (view : SessionView) : Prop where
  inOrder : ∀ stream, ((view.printedTo stream).map seqNumber).Pairwise (· < ·)
  encoded : ∀ event ∈ view.printed, textField event.content "encoding" = "base64"
  complete : view.Returned → ∀ event ∈ view.timeline, isOutput uuid event = true →
    event ∈ view.printed

section Polls

variable (hTracked : view.Tracked uuid source) {limit : Nat}
include hTracked

theorem printedTo_poll (stream : OutputStream) :
    (view.poll uuid limit).printedTo stream =
      view.printedTo stream ++ (view.newOn uuid limit).filter (streamOf · = stream) := by
  rw [hTracked.poll_eq limit, printedTo, printedTo, List.filter_append]

theorem printed_poll :
    (view.poll uuid limit).printed = view.printed ++ view.newOn uuid limit := by
  rw [hTracked.poll_eq limit]

theorem returned_poll (hRunning : view.outcome = none) :
    (view.poll uuid limit).Returned ↔
      (readRoomEvents limit view.timeline).any (isResult uuid) = true := by
  rw [hTracked.poll_eq limit, Returned, List.any_eq_true, ← List.find?_isSome]
  cases (readRoomEvents limit view.timeline).find? (isResult uuid) with
  | none => simp [hRunning]
  | some result => simp

theorem accurate_poll_iff (hRunning : view.outcome = none) (hAccurate : view.Accurate uuid) :
    (view.poll uuid limit).Accurate uuid ↔ view.Clean uuid limit := by
  have hTimeline : (view.poll uuid limit).timeline = view.timeline := by
    rw [hTracked.poll_eq limit]
  constructor
  · intro hAfter
    have hInOrder : ∀ stream, ((view.printedTo stream ++
        (view.newOn uuid limit).filter (streamOf · = stream)).map seqNumber).Pairwise (· < ·) := by
      intro stream
      rw [← printedTo_poll hTracked stream]
      exact hAfter.inOrder stream
    refine ⟨?_, ?_, ?_, ?_⟩
    · intro hResult event hEvent hNew
      obtain ⟨hOutput, hUnwritten⟩ := (hTracked.isNew_iff hEvent).1 hNew
      have hPrinted := hAfter.complete ((returned_poll hTracked hRunning).2 hResult) event
        (by rwa [hTimeline]) hOutput
      rw [printed_poll hTracked, List.mem_append] at hPrinted
      exact (hTracked.mem_newOn_iff.1 (hPrinted.resolve_left hUnwritten)).1
    · intro stream
      have hBoth := hInOrder stream
      rw [List.map_append, List.pairwise_append] at hBoth
      exact hBoth.2.1
    · intro event hEvent earlier hEarlier
      have hBoth := hInOrder (streamOf event)
      rw [List.map_append, List.pairwise_append] at hBoth
      refine hBoth.2.2 _ (List.mem_map_of_mem hEarlier) _ (List.mem_map_of_mem ?_)
      exact List.mem_filter.2 ⟨hEvent, by simp⟩
    · intro event hEvent
      refine hAfter.encoded event ?_
      rw [printed_poll hTracked]
      exact List.mem_append_right _ hEvent
  · intro hClean
    refine ⟨?_, ?_, ?_⟩
    · intro stream
      rw [printedTo_poll hTracked stream, List.map_append, List.pairwise_append]
      refine ⟨hAccurate.inOrder stream, hClean.ascending stream, ?_⟩
      intro first hFirst second hSecond
      obtain ⟨earlier, hEarlier, rfl⟩ := List.mem_map.1 hFirst
      obtain ⟨event, hEvent, rfl⟩ := List.mem_map.1 hSecond
      obtain ⟨hEvent, hStream⟩ := List.mem_filter.1 hEvent
      refine hClean.above event hEvent earlier ?_
      rwa [of_decide_eq_true hStream]
    · intro event hEvent
      rw [printed_poll hTracked, List.mem_append] at hEvent
      exact hEvent.elim (hAccurate.encoded event) (hClean.encoded event)
    · intro hReturned event hEvent hOutput
      rw [hTimeline] at hEvent
      rw [printed_poll hTracked, List.mem_append]
      by_cases hPrinted : event ∈ view.printed
      · exact Or.inl hPrinted
      · have hNew := (hTracked.isNew_iff hEvent).2 ⟨hOutput, hPrinted⟩
        have hPage := hClean.complete ((returned_poll hTracked hRunning).1 hReturned) event
          hEvent hNew
        exact Or.inr (hTracked.mem_newOn_iff.2 ⟨hPage, hOutput, hPrinted⟩)

/-- What a poll leaves in order was in order before it. -/
theorem accurate_of_poll (hRunning : view.outcome = none)
    (hAfter : (view.poll uuid limit).Accurate uuid) : view.Accurate uuid := by
  refine ⟨?_, ?_, ?_⟩
  · intro stream
    have hBoth := hAfter.inOrder stream
    rw [printedTo_poll hTracked stream, List.map_append, List.pairwise_append] at hBoth
    exact hBoth.1
  · intro event hEvent
    refine hAfter.encoded event ?_
    rw [printed_poll hTracked]
    exact List.mem_append_left _ hEvent
  · rintro ⟨exitCode, hReturned⟩
    rw [hRunning] at hReturned
    cases hReturned

end Polls

section Reports

variable (hTracked : view.Tracked uuid source)
include hTracked

/-- Data that is not named as base64 is the worker's, and shows as it is. -/
theorem encoded_of_decoded
    (hDecoded : ∀ stream, view.written replaced stream =
      (view.printedTo stream).flatMap decodedData)
    {event : RoomEvent Value} (hEvent : event ∈ view.printed) :
    textField event.content "encoding" = "base64" := by
  obtain ⟨hTimeline, hOutput⟩ := hTracked.printed event hEvent
  have hSends := hTracked.sent event hTimeline hOutput
  cases source with
  | launcher userId =>
      obtain ⟨stream, line, seq, timestamp, hContent⟩ := hSends
      exact (launcher_output hContent).2.2.2
  | worker workerId =>
      obtain ⟨finalOutput, threadRoot, timestamp, hSome, hContent⟩ := hSends
      obtain ⟨-, hZero, hData, hEncoding⟩ := worker_output hContent
      have hOnly : ∀ other ∈ view.printed, other = event := by
        intro other hOther
        obtain ⟨hTimelineOther, hOutputOther⟩ := hTracked.printed other hOther
        obtain ⟨_, _, _, -, hContentOther⟩ := hTracked.sent other hTimelineOther hOutputOther
        exact hTracked.eq_of_seqNumber hTimelineOther hOutputOther hTimeline hOutput
          ((worker_output hContentOther).2.1.trans hZero.symm)
      have hPrinted : view.printed = [event] := by
        have hReplicate := List.eq_replicate_of_mem hOnly
        have hOnce := hTracked.once
        rw [hReplicate, List.nodup_replicate] at hOnce
        rw [hReplicate, hOnce.antisymm (List.length_pos_of_mem hEvent), List.replicate_one]
      have hBytes := hDecoded (streamOf event)
      simp only [written, printedTo, hPrinted, decide_true, List.filter_cons_of_pos,
        List.filter_nil, List.flatMap_singleton, hData, hEncoding, decodeOutputData_plain,
        decodedData_of_text hData] at hBytes
      refine absurd hBytes (Base64.bytes_encode_ne _ ?_)
      intro hEmpty
      exact hSome (Utf8.bytes_injective hEmpty)

theorem faithful_iff_accurate (hReturned : view.Returned) :
    view.Faithful uuid replaced ↔ view.Accurate uuid := by
  constructor
  · intro hFaithful
    refine ⟨hFaithful.inOrder, fun event => encoded_of_decoded hTracked hFaithful.decoded, ?_⟩
    intro _ event hEvent hOutput
    have hMem := (hFaithful.once (streamOf event)).mem_iff.2
      (List.mem_filter.2 ⟨List.mem_filter.2 ⟨hEvent, hOutput⟩, by simp⟩)
    exact (List.mem_filter.1 hMem).1
  · intro hAccurate
    have hOutputs : (view.timeline.filter (isOutput uuid)).Nodup :=
      List.Nodup.of_map _ hTracked.distinct
    have hAll : view.printed.Perm (view.timeline.filter (isOutput uuid)) := by
      refine (List.perm_ext_iff_of_nodup hTracked.once hOutputs).2 fun event => ?_
      rw [List.mem_filter]
      constructor
      · exact hTracked.printed event
      · rintro ⟨hEvent, hOutput⟩
        exact hAccurate.complete hReturned event hEvent hOutput
    refine ⟨fun stream => hAll.filter _, hAccurate.inOrder, ?_⟩
    intro stream
    refine List.flatMap_congr fun event hEvent => ?_
    have hPrinted := (List.mem_filter.1 hEvent).1
    obtain ⟨hTimeline, hOutput⟩ := hTracked.printed event hPrinted
    obtain ⟨text, hText⟩ := (hTracked.sent event hTimeline hOutput).text
    rw [hText, hAccurate.encoded event hPrinted, decodeOutputData_base64,
      decodedData_of_text hText]

end Reports

section Runs

theorem step_ended (hEnded : view.outcome.isSome = true) (input : ViewInput) :
    view.step uuid input = view := by
  unfold step
  rw [if_pos hEnded]

theorem run_of_returned (hReturned : view.Returned) (inputs : List ViewInput) :
    run (step uuid) view inputs = view := by
  obtain ⟨exitCode, hOutcome⟩ := hReturned
  induction inputs with
  | nil => rfl
  | cons input rest ih => rw [run_cons, step_ended (by rw [hOutcome]; rfl), ih]

/-- The law need only be looked at where the run has come to. -/
theorem always_reported_iff (inputs : List ViewInput) :
    Always (step uuid) (Reported uuid replaced) view inputs ↔
      Reported uuid replaced (run (step uuid) view inputs) := by
  refine ⟨Always.last, ?_⟩
  intro hLast
  rw [always_iff_prefixes]
  rintro pre ⟨post, rfl⟩ hReturned
  rw [run_append, run_of_returned hReturned] at hLast
  exact hLast hReturned

/-- A view that has not returned is judged by what was written. -/
theorem accurate_of_same {other : SessionView} (hPrinted : other.printed = view.printed)
    (hReturned : ¬ other.Returned) (hAccurate : view.Accurate uuid) : other.Accurate uuid := by
  refine ⟨?_, ?_, fun h => absurd h hReturned⟩
  · intro stream
    rw [printedTo, hPrinted]
    exact hAccurate.inOrder stream
  · rw [hPrinted]
    exact hAccurate.encoded

theorem step_cases (hRunning : view.outcome = none) (input : ViewInput) :
    (∃ limit, input = .poll limit ∧ view.step uuid input = view.poll uuid limit) ∨
      ((∀ limit, input ≠ .poll limit) ∧ (view.step uuid input).printed = view.printed ∧
        ¬ (view.step uuid input).Returned) := by
  have hNotEnded : ¬ view.outcome.isSome = true := by simp [hRunning]
  cases input with
  | arrive event =>
      refine Or.inr ⟨by simp, ?_, ?_⟩ <;> simp [step, hRunning, Returned]
  | poll limit => exact Or.inl ⟨limit, rfl, if_neg hNotEnded⟩
  | expired =>
      refine Or.inr ⟨by simp, ?_, ?_⟩ <;> simp [step, hRunning, Returned]
  | failed =>
      refine Or.inr ⟨by simp, ?_, ?_⟩ <;> simp [step, hRunning, Returned]

theorem accurate_step_iff (view : SessionView) (input : ViewInput)
    (hTracked : view.Tracked uuid source) (hAccurate : view.Accurate uuid) :
    (view.step uuid input).Accurate uuid ↔ view.CleanPolls uuid input := by
  cases hOutcome : view.outcome with
  | some outcome =>
      rw [step_ended (by rw [hOutcome]; rfl)]
      cases input <;> simp [CleanPolls, hOutcome, hAccurate]
  | none =>
      rcases step_cases hOutcome input with ⟨limit, rfl, hStep⟩ | ⟨hOther, hPrinted, hReturned⟩
      · rw [hStep, accurate_poll_iff hTracked hOutcome hAccurate]
        simp [CleanPolls, hOutcome]
      · refine iff_of_true (accurate_of_same hPrinted hReturned hAccurate) ?_
        cases input with
        | poll limit => exact absurd rfl (hOther limit)
        | _ => trivial

theorem accurate_of_step (view : SessionView) (input : ViewInput)
    (hTracked : view.Tracked uuid source) (hAfter : (view.step uuid input).Accurate uuid) :
    view.Accurate uuid := by
  cases hOutcome : view.outcome with
  | some outcome => rwa [step_ended (by rw [hOutcome]; rfl)] at hAfter
  | none =>
      rcases step_cases hOutcome input with ⟨limit, rfl, hStep⟩ | ⟨-, hPrinted, -⟩
      · rw [hStep] at hAfter
        exact accurate_of_poll hTracked hOutcome hAfter
      · refine accurate_of_same hPrinted.symm ?_ hAfter
        rintro ⟨exitCode, hReturned⟩
        rw [hOutcome] at hReturned
        cases hReturned

theorem accurate_new : new.Accurate uuid :=
  ⟨fun _ => List.Pairwise.nil, by simp [new], by simp [new]⟩

/-- Once the client has the exit code, what it wrote is the session's output exactly if
every poll on the way was clean. -/
theorem reported_iff_clean (uuid : String) (source : Source) (replaced : Bytes → String)
    (inputs : List ViewInput) (hSent : Admissible (step uuid) (Sent uuid source) new inputs) :
    Always (step uuid) (Reported uuid replaced) new inputs ↔
      ((run (step uuid) new inputs).Returned →
        Admissible (step uuid) (CleanPolls uuid) new inputs) := by
  have hTracked : (run (step uuid) new inputs).Tracked uuid source :=
    (hSent.always tracked_step tracked_new).last
  have hAccurate : Accurate uuid (run (step uuid) new inputs) ↔
      Admissible (step uuid) (CleanPolls uuid) new inputs := by
    rw [← always_iff_last tracked_step
      (fun view input hBefore _ => accurate_of_step view input hBefore) hSent tracked_new]
    exact always_iff_admissible_given tracked_step
      (fun view input hBefore _ => accurate_step_iff view input hBefore) hSent tracked_new
      accurate_new
  rw [always_reported_iff, Reported, ← hAccurate]
  exact forall_congr' (faithful_iff_accurate hTracked)

def printedLine (line : String) (seq : UInt64) : RoomEvent Value :=
  let post := Runtime.Post.output .stdout line seq 0
  ⟨"$" ++ line, post.eventType, "@launcher:x", post.content (some (.str "u")) "@launcher:x"⟩

def succeeded : RoomEvent Value :=
  let post := Runtime.Post.result ⟨"success", 0, none, 0, ["a"], some false⟩
  ⟨"$result", post.eventType, "@launcher:x", post.content (some (.str "u")) "@launcher:x"⟩

theorem sends_printedLine (line : String) (seq : UInt64) :
    (Source.launcher "@launcher:x").Sends "u" (printedLine line seq) :=
  ⟨.stdout, line, seq, 0, rfl⟩

theorem not_isOutput_succeeded : ¬ isOutput "u" succeeded = true := by decide

/-- One line, on one page with the result. -/
theorem reported_one_line :
    Always (step "u") (Reported "u" fun _ => "") new
      [.arrive (printedLine "a" 1), .arrive succeeded, .poll 10] := by
  refine (reported_iff_clean "u" (.launcher "@launcher:x") _ _ ?_).2 fun _ => ?_
  · refine ⟨fun _ => ⟨sends_printedLine "a" 1, by simp [new]⟩, ?_, trivial, trivial⟩
    intro hOutput
    exact absurd hOutput not_isOutput_succeeded
  · let view := run (step "u") new [.arrive (printedLine "a" 1), .arrive succeeded]
    have hNew : view.newOn "u" 10 = [printedLine "a" 1] := rfl
    have hClean : view.Clean "u" 10 := by
      refine ⟨?_, ?_, ?_, ?_⟩
      · intro _ event hEvent _
        exact List.mem_reverse.2 hEvent
      · intro stream
        rw [hNew]
        exact (List.pairwise_singleton _ _).sublist (List.filter_sublist.map seqNumber)
      · intro event _ earlier hEarlier
        cases hEarlier
      · rw [hNew]
        simp only [List.mem_singleton, forall_eq]
        rfl
    exact ⟨trivial, trivial, fun _ => hClean, trivial⟩

/-- Two lines that come between two polls are written in the order of the page. -/
theorem not_reported_two_lines :
    ¬ Always (step "u") (Reported "u" fun _ => "") new
      [.arrive (printedLine "a" 1), .arrive (printedLine "b" 2), .arrive succeeded, .poll 10] := by
  intro hAlways
  have hInOrder := (hAlways.last ⟨Runtime.number 0, rfl⟩).inOrder .stdout
  have hReversed : ¬ ([2, 1] : List Nat).Pairwise (· < ·) := by decide
  exact hReversed hInOrder

end Runs

end SessionView

end Mxdx.Client
