import Mxdx.Client.Connection

/-! What reaches a client of the daemon. -/
namespace Mxdx.Client.Daemon

open Automaton
open Protocol (Carried IncomingMessage RequestId fromText fromText_toText intValue recursionLimit
  toText writable_intValue)
open SharedLines (Stream)
open Worker (FloatText Text Value isWhitespace numerals trim)
open JsonText (Writable)

section Texts

variable {floats : FloatText} {text rest : Text}

/-- The text of a message: an object that is read back. -/
def IsMessage (floats : FloatText) (text : Text) : Prop :=
  ∃ fields, text = toText floats (.obj fields) ∧
    Writable (numerals floats) recursionLimit (.obj fields)

/-- A message stands on one line. -/
theorem IsMessage.not_newline_mem (h : IsMessage floats text) : '\n' ∉ text := by
  obtain ⟨fields, rfl, hWritable⟩ := h
  exact JsonText.not_newline_mem_write hWritable

/-- It begins and ends with a brace. -/
theorem IsMessage.braces (h : IsMessage floats text) :
    ∃ inner, text = '\x7b' :: (inner ++ ['\x7d']) := by
  obtain ⟨fields, rfl, -⟩ := h
  exact ⟨_, rfl⟩

/-- A message is the text of a value. -/
theorem IsMessage.exists_value (h : IsMessage floats text) :
    ∃ value, fromText floats text = some value ∧
      Writable (numerals floats) recursionLimit value ∧ text = toText floats value := by
  obtain ⟨fields, rfl, hWritable⟩ := h
  exact ⟨_, fromText_toText hWritable, hWritable, rfl⟩

/-- Blanks are taken off behind the last brace only. -/
theorem trim_braces (inner rest : Text) :
    trim ('\x7b' :: (inner ++ ['\x7d']) ++ rest) =
      '\x7b' :: (inner ++ ['\x7d']) ++ (rest.reverse.dropWhile isWhitespace).reverse := by
  have hOpen : isWhitespace '\x7b' = false := by decide
  have hClose : isWhitespace '\x7d' = false := by decide
  rw [trim, List.cons_append, List.dropWhile_cons_of_neg (by simp [hOpen])]
  have hReverse : ('\x7b' :: (inner ++ ['\x7d'] ++ rest)).reverse =
      rest.reverse ++ '\x7d' :: (inner.reverse ++ ['\x7b']) := by
    simp
  have hDrop : ('\x7d' :: (inner.reverse ++ ['\x7b'])).dropWhile isWhitespace =
      '\x7d' :: (inner.reverse ++ ['\x7b']) :=
    List.dropWhile_cons_of_neg (by simp [hClose])
  rw [hReverse, List.dropWhile_append, hDrop]
  split
  · rename_i hEmpty
    rw [List.isEmpty_iff.mp hEmpty]
    simp
  · simp

/-- Blanks are taken off behind a message, and nothing of it. -/
theorem IsMessage.trim_append (h : IsMessage floats text) (rest : Text) :
    trim (text ++ rest) = text ++ (rest.reverse.dropWhile isWhitespace).reverse := by
  obtain ⟨inner, rfl⟩ := h.braces
  exact trim_braces inner rest

theorem IsMessage.ne_nil (h : IsMessage floats text) : text ≠ [] := by
  obtain ⟨inner, rfl⟩ := h.braces
  exact List.cons_ne_nil _ _

/-- A line with one message, with or without its line feed. -/
theorem IsMessage.trim_line (h : IsMessage floats text) :
    trim (text ++ ['\n']) = text ∧ trim text = text := by
  have hEnd := h.trim_append ['\n']
  have hNone := h.trim_append []
  have hFeed : (['\n'].reverse.dropWhile isWhitespace).reverse = [] := by decide
  rw [hFeed, List.append_nil] at hEnd
  rw [List.append_nil, List.reverse_nil, List.dropWhile_nil, List.reverse_nil,
    List.append_nil] at hNone
  exact ⟨hEnd, hNone⟩

/-- A reader sees a line without the blanks around it. -/
theorem readLine_of_trim {line : Text} (hTrim : trim line = text) (hNe : text ≠ []) :
    readLine floats line = some (fromText floats text) := by
  rw [readLine, hTrim]
  exact if_neg hNe

/-- Messages on lines of their own are read one by one. -/
theorem received_lines {texts : List Text} (h : ∀ text ∈ texts, IsMessage floats text)
    (rest : Text) :
    received floats (texts.flatMap (· ++ ['\n']) ++ rest) =
      texts.map (fromText floats) ++ received floats rest := by
  have hLines : ∀ text ∈ texts, '\n' ∉ text := fun text hText => (h text hText).not_newline_mem
  rw [received, Lines.splitInclusive_flatMap hLines, List.filterMap_append, received,
    List.filterMap_map, ← List.filterMap_eq_map]
  congr 1
  refine List.filterMap_congr fun text hText => ?_
  exact readLine_of_trim (h text hText).trim_line.1 (h text hText).ne_nil

/-- The last message needs no newline to be read. -/
theorem received_message (h : IsMessage floats text) :
    received floats text = [fromText floats text] := by
  rw [received, Lines.splitInclusive_unfinished h.not_newline_mem h.ne_nil,
    List.filterMap_cons_some (readLine_of_trim h.trim_line.2 h.ne_nil), List.filterMap_nil]

/-- Behind a message there is no other on the same line. -/
theorem fromText_glued {first second : Text} (hFirst : IsMessage floats first)
    (hSecond : IsMessage floats second) (rest : Text) :
    fromText floats (first ++ (second ++ rest)) = none := by
  obtain ⟨fields, rfl, hWritable⟩ := hFirst
  obtain ⟨inner, rfl⟩ := hSecond.braces
  have hBack := JsonText.back_of_writable hWritable
    (2 * (toText floats (.obj fields) ++ ('\x7b' :: (inner ++ ['\x7d']) ++ rest)).length + 1)
    ('\x7b' :: (inner ++ ['\x7d']) ++ rest)
    (by rw [List.length_append, toText]; omega) (JsonText.ends_cons _ (by decide))
  rw [fromText, JsonText.parse]
  simp only [toText] at hBack ⊢
  rw [hBack]
  simp only [List.cons_append, JsonText.skipBlanks_cons (c := '\x7b') (by decide)]
  rw [if_neg (List.cons_ne_nil _ _)]

/-- Two messages on one line are read as none. -/
theorem readLine_glued {first second : Text} (hFirst : IsMessage floats first)
    (hSecond : IsMessage floats second) (rest : Text) :
    readLine floats (first ++ second ++ rest) = some none := by
  have hTrim : trim (first ++ second ++ rest) =
      first ++ (second ++ (rest.reverse.dropWhile isWhitespace).reverse) := by
    obtain ⟨left, rfl⟩ := hFirst.braces
    obtain ⟨right, rfl⟩ := hSecond.braces
    simpa using trim_braces (left ++ '\x7d' :: '\x7b' :: right) rest
  rw [readLine_of_trim hTrim (List.append_ne_nil_of_left_ne_nil hFirst.ne_nil _),
    fromText_glued hFirst hSecond]

/-- Of two messages that run together a reader gets a line it cannot read. -/
theorem none_mem_received_glued {first second : Text} (hFirst : IsMessage floats first)
    (hSecond : IsMessage floats second) (after : Text) :
    none ∈ received floats (first ++ second ++ after) := by
  have hBoth : '\n' ∉ first ++ second := by
    rw [List.mem_append, not_or]
    exact ⟨hFirst.not_newline_mem, hSecond.not_newline_mem⟩
  rw [received, List.mem_filterMap]
  by_cases hFeed : '\n' ∈ after
  · obtain ⟨line, rest, rfl, hLine⟩ := List.eq_append_cons_of_mem hFeed
    have hWhole : '\n' ∉ first ++ second ++ line := by
      rw [List.mem_append, not_or]
      exact ⟨hBoth, hLine⟩
    refine ⟨first ++ second ++ (line ++ ['\n']), ?_, readLine_glued hFirst hSecond _⟩
    rw [← List.append_assoc, Lines.splitInclusive_append rest hWhole, List.append_assoc _ line]
    exact List.mem_cons_self
  · have hWhole : '\n' ∉ first ++ second ++ after := by
      rw [List.mem_append, not_or]
      exact ⟨hBoth, hFeed⟩
    have hLine : first ++ second ++ after ≠ [] := by
      rw [List.append_assoc]
      exact List.append_ne_nil_of_left_ne_nil hFirst.ne_nil _
    refine ⟨_, ?_, readLine_glued hFirst hSecond after⟩
    rw [Lines.splitInclusive_unfinished hWhole hLine]
    exact List.mem_singleton_self _

end Texts

section Streams

variable {floats : FloatText} {stream : Stream Writer}

/-- What a client reads of a stream of whole lines is its messages. -/
theorem received_of_whole (h : stream.Whole)
    (hMessage : ∀ text ∈ stream.texts, IsMessage floats text) :
    received floats stream.out = stream.texts.map (fromText floats) := by
  rcases h with ⟨-, hOut⟩ | ⟨writer, -, -, hOut⟩
  · have hLines := received_lines hMessage []
    rw [List.append_nil] at hLines
    rw [hOut, hLines]
    simp [received, Lines.splitInclusive]
  · rcases List.eq_nil_or_concat stream.texts with hNone | ⟨done, last, hTexts⟩
    · rw [hNone, List.flatMap_nil] at hOut
      exact absurd hOut (by simp)
    · rw [List.concat_eq_append] at hTexts
      rw [hTexts, List.forall_mem_append] at hMessage
      rw [hTexts, List.flatMap_append, List.flatMap_singleton, ← List.append_assoc] at hOut
      rw [List.append_cancel_right hOut, received_lines hMessage.1,
        received_message (hMessage.2 last (List.mem_singleton_self last)), hTexts, List.map_append,
        List.map_singleton]

/-- What has run together shows in what is read. -/
theorem none_mem_received (h : stream.Glued)
    (hMessage : ∀ text ∈ stream.texts, IsMessage floats text) :
    none ∈ received floats stream.out := by
  obtain ⟨done, first, second, after, hOut, hDone, hFirst, hSecond⟩ := h
  rw [hOut, List.append_assoc, List.append_assoc, received_lines fun text hText =>
    hMessage text (hDone hText), List.mem_append, ← List.append_assoc]
  exact .inr (none_mem_received_glued (hMessage _ hFirst) (hMessage _ hSecond) after)

end Streams

section Messages

variable {floats : FloatText}

/-- A response has a text when what it carries has one. -/
theorem writable_reply {id : RequestId} {answer : Answer}
    (h : ∀ result, answer = .ok result → Carried floats result) :
    Writable (numerals floats) recursionLimit (answer.toValue id) := by
  have hId : Writable (numerals floats) 126 id.toValue := by
    cases id with
    | number value => exact writable_intValue value.le_toInt
    | string text => exact .str text
  cases answer with
  | ok result =>
      refine .obj (by simp [Protocol.Response.new]) ?_
      simp only [List.forall_mem_cons, List.not_mem_nil, false_implies, implies_true, and_true]
      exact ⟨.str _, hId, h result rfl⟩
  | error failure =>
      refine .obj (by simp) ?_
      simp only [List.forall_mem_cons, List.not_mem_nil, false_implies, implies_true, and_true]
      refine ⟨.str _, hId, ?_⟩
      have hLeast := failure.code.le_toInt
      have hCode : Writable (numerals floats) 125 (intValue failure.code.toInt) :=
        writable_intValue (by omega)
      refine .obj (by simp [Protocol.ErrorResponse.new, Protocol.optional]) ?_
      simpa [Protocol.ErrorResponse.new, Protocol.optional] using ⟨hCode, .str _⟩

/-- Every notification has a text. -/
theorem writable_notice (notice : Notice) :
    Writable (numerals floats) recursionLimit notice.toValue := by
  have hParams : ∀ {method : String} {fields : List (String × Value)},
      Writable (numerals floats) 126 (.obj fields) →
        Writable (numerals floats) recursionLimit
          (Protocol.Notification.new method (some (.obj fields))).toValue := by
    intro method fields hFields
    refine .obj (by simp [Protocol.Notification.new, Protocol.optional]) ?_
    simpa [Protocol.Notification.new, Protocol.optional] using ⟨.str _, .str _, hFields⟩
  cases notice with
  | output uuid data =>
      refine hParams (.obj (by simp) ?_)
      simpa using ⟨.str uuid, .str data⟩
  | result uuid exitCode status tail =>
      have hCode : Writable (numerals floats) 125 (exitCode.elim .null (intValue ·.toInt)) := by
        cases exitCode with
        | none => exact .null
        | some code =>
            have hLeast := code.le_toInt
            exact writable_intValue (by omega)
      have hTail : Writable (numerals floats) 125 (tail.elim .null .str) := by
        cases tail with
        | none => exact .null
        | some text => exact .str text
      refine hParams (.obj (by simp) ?_)
      simpa using ⟨.str uuid, hCode, .str status, hTail⟩

end Messages

section Served

variable {floats : FloatText} {sink : Sink} {world : World} {handler next : Handler} {line : Text}
  {reply : Option Reply}

/-- A line is answered under its id, with what the client can read. -/
theorem serveLine_some (h : serveLine floats sink world handler line = some (next, reply)) :
    answeredId floats line = reply.map Prod.fst ∧
      ∀ answered, reply = some answered →
        Writable (numerals floats) recursionLimit (answered.2.toValue answered.1) := by
  rw [serveLine] at h
  rw [answeredId]
  by_cases hBlank : trim line = []
  · rw [if_pos hBlank] at h ⊢
    obtain ⟨-, rfl⟩ := Prod.mk.inj (Option.some.inj h)
    exact ⟨rfl, by simp⟩
  · rw [if_neg hBlank] at h ⊢
    cases hParse : IncomingMessage.parse floats (trim line) with
    | none =>
        rw [hParse] at h
        obtain ⟨-, rfl⟩ := Prod.mk.inj (Option.some.inj h)
        refine ⟨rfl, fun answered hAnswered => ?_⟩
        obtain rfl := Option.some.inj hAnswered
        exact writable_reply fun result hResult => by cases hResult
    | some message =>
        rw [hParse] at h
        cases message with
        | notification notification =>
            obtain ⟨-, rfl⟩ := Prod.mk.inj (Option.some.inj h)
            exact ⟨rfl, by simp⟩
        | request request =>
            obtain ⟨handled, hHandled, hBoth⟩ := Option.map_eq_some_iff.mp h
            obtain ⟨-, rfl⟩ := Prod.mk.inj hBoth
            refine ⟨rfl, fun answered hAnswered => ?_⟩
            obtain rfl := Option.some.inj hAnswered
            exact writable_reply (fits_handleRequest hHandled)

end Served

section Account

/-- Every line that was served has its reply, if it is due one, and the writing tasks have
what they were given. -/
structure Accounted (floats : FloatText) (input : Text) (connection : Connection) : Prop where
  lines : connection.served ++ connection.lines = Lines.splitInclusive input
  ids : connection.replies.map Prod.fst = connection.served.filterMap (answeredId floats)
  fits : ∀ reply ∈ connection.replies,
    Writable (numerals floats) recursionLimit (reply.2.toValue reply.1)
  replies : connection.stream.Holds .replies (connection.replies.map (replyText floats))
  notices : connection.stream.Holds .notifications (connection.notices.map (noticeText floats))

variable {floats : FloatText} {sink : Sink} {input : Text} {connection : Connection}

/-- Before the first event nothing is on its way. -/
theorem accounted_start (handler : Handler) : Accounted floats input (.start handler input) where
  lines := rfl
  ids := rfl
  fits _ hMem := by cases hMem
  replies := SharedLines.Stream.holds_new _
  notices := SharedLines.Stream.holds_new _

/-- A line that is read is answered once or not at all. -/
theorem Accounted.read (h : Accounted floats input connection) (world : World) :
    Accounted floats input (connection.read floats sink world) := by
  rw [Connection.read]
  split
  · exact h
  · split
    · exact ⟨h.lines, h.ids, h.fits, h.replies, h.notices⟩
    · rename_i line lines hLines
      have hServed : (connection.served ++ [line]) ++ lines = Lines.splitInclusive input := by
        rw [List.append_assoc, List.singleton_append, ← hLines]
        exact h.lines
      split
      · exact ⟨h.lines, h.ids, h.fits, h.replies, h.notices⟩
      · rename_i next hServe
        refine ⟨hServed, ?_, h.fits, h.replies, h.notices⟩
        show connection.replies.map Prod.fst = _
        rw [List.filterMap_append, List.filterMap_cons_none (serveLine_some hServe).1,
          List.filterMap_nil, List.append_nil]
        exact h.ids
      · rename_i next reply hServe
        obtain ⟨hId, hFits⟩ := serveLine_some hServe
        refine ⟨hServed, ?_, ?_, ?_, h.notices.push_ne (by decide) _⟩
        · show (connection.replies ++ [reply]).map Prod.fst = _
          rw [List.map_append, List.filterMap_append, h.ids, List.filterMap_cons_some hId]
          rfl
        · exact List.forall_mem_append.mpr ⟨h.fits, List.forall_mem_singleton.mpr (hFits reply rfl)⟩
        · show (connection.stream.push _ _).Holds _ ((connection.replies ++ [reply]).map _)
          rw [List.map_append]
          exact h.replies.push _

/-- A notification goes behind those that wait. -/
theorem Accounted.notify (h : Accounted floats input connection) (notice : Notice) :
    Accounted floats input (connection.notify floats notice) where
  lines := h.lines
  ids := h.ids
  fits := h.fits
  replies := h.replies.push_ne (by decide) _
  notices := by
    show (connection.stream.push _ _).Holds _ ((connection.notices ++ [notice]).map _)
    rw [List.map_append]
    exact h.notices.push _

/-- A text leaves the queue of its writer for the stream. -/
theorem Accounted.write (h : Accounted floats input connection) (ending : Text → Text)
    (writer : Writer) :
    Accounted floats input { connection with stream := connection.stream.write ending writer } :=
  ⟨h.lines, h.ids, h.fits, h.replies.write _ _, h.notices.write _ _⟩

/-- The end of a text changes nobody's account. -/
theorem Accounted.finish (h : Accounted floats input connection) (writer : Writer)
    (lock : Option Writer) :
    Accounted floats input
      { connection with stream := connection.stream.finish writer, lock := lock } :=
  ⟨h.lines, h.ids, h.fits, h.replies.finish _, h.notices.finish _⟩

/-- A text that is begun counts as written. -/
theorem Accounted.start (h : Accounted floats input connection) (ending : Text → Text)
    (writer : Writer) :
    Accounted floats input { connection with stream := connection.stream.start ending writer } :=
  ⟨h.lines, h.ids, h.fits, h.replies.start _ _, h.notices.start _ _⟩

/-- How far a text has come changes nobody's account. -/
theorem Accounted.advance (h : Accounted floats input connection) (writer : Writer)
    (count : Nat) (lock : Option Writer) :
    Accounted floats input
      { connection with stream := connection.stream.advance writer count, lock := lock } :=
  ⟨h.lines, h.ids, h.fits, h.replies.advance _ _, h.notices.advance _ _⟩

/-- The books of a socket are kept by every event. -/
theorem Accounted.handleClient (h : Accounted floats input connection) (event : ConnectionEvent) :
    Accounted floats input (handleClient floats sink connection event) := by
  cases event with
  | read world => exact h.read world
  | notify notice => exact h.notify notice
  | elsewhere handler => exact ⟨h.lines, h.ids, h.fits, h.replies, h.notices⟩
  | acquire writer =>
      rw [Daemon.handleClient]
      split
      · exact ⟨h.lines, h.ids, h.fits, h.replies, h.notices⟩
      · exact h
  | write writer =>
      rw [Daemon.handleClient]
      split
      · exact h.start _ _
      · exact h
  | advance writer count =>
      rw [Daemon.handleClient]
      split
      · exact h.advance _ _ _
      · exact h
  | finish writer => exact h

/-- The books of the standard streams are kept by every event. -/
theorem Accounted.serveStdio (h : Accounted floats input connection) (event : ConnectionEvent) :
    Accounted floats input (serveStdio floats sink connection event) := by
  cases event with
  | read world => exact h.read world
  | notify notice => exact h.notify notice
  | elsewhere handler => exact ⟨h.lines, h.ids, h.fits, h.replies, h.notices⟩
  | acquire writer => exact h
  | advance writer count => exact h
  | write writer =>
      rw [Daemon.serveStdio]
      split
      · exact h.write _ _
      · exact h
  | finish writer =>
      rw [Daemon.serveStdio]
      split
      · exact h.finish _ _
      · exact h

theorem isMessage_reply {reply : Reply}
    (h : Writable (numerals floats) recursionLimit (reply.2.toValue reply.1)) :
    IsMessage floats (replyText floats reply) := by
  obtain ⟨id, answer⟩ := reply
  cases answer with
  | ok result => exact ⟨_, rfl, h⟩
  | error failure => exact ⟨_, rfl, h⟩

theorem isMessage_notice (notice : Notice) : IsMessage floats (noticeText floats notice) := by
  have h : Writable (numerals floats) recursionLimit notice.toValue := writable_notice notice
  cases notice with
  | output uuid data => exact ⟨_, rfl, h⟩
  | result uuid exitCode status tail => exact ⟨_, rfl, h⟩

/-- The writing tasks are given nothing but messages. -/
theorem Accounted.isMessage (h : Accounted floats input connection) (writer : Writer) :
    ∀ text ∈ connection.stream.writtenBy writer ++ connection.stream.queue writer,
      IsMessage floats text := by
  intro text hText
  cases writer with
  | replies =>
      rw [show connection.stream.writtenBy .replies ++ connection.stream.queue .replies =
        connection.replies.map (replyText floats) from h.replies] at hText
      obtain ⟨reply, hReply, rfl⟩ := List.mem_map.mp hText
      exact isMessage_reply (h.fits reply hReply)
  | notifications =>
      rw [show connection.stream.writtenBy .notifications ++
        connection.stream.queue .notifications = connection.notices.map (noticeText floats)
          from h.notices] at hText
      obtain ⟨notice, -, rfl⟩ := List.mem_map.mp hText
      exact isMessage_notice notice

/-- Nothing but messages is on the stream or on its way there. -/
theorem Accounted.isMessage_texts (h : Accounted floats input connection) :
    ∀ text ∈ connection.stream.texts, IsMessage floats text := by
  intro text hText
  obtain ⟨⟨writer, other⟩, hWritten, rfl⟩ := List.mem_map.mp hText
  refine h.isMessage writer other (List.mem_append_left _ ?_)
  exact List.mem_map.mpr ⟨_, List.mem_filter.mpr ⟨hWritten, by simp⟩, rfl⟩

end Account

section Delivery

/-- The values that one task has sent. -/
def sentBy (messages : List (Writer × Value)) (writer : Writer) : List Value :=
  (messages.filter (·.1 = writer)).map Prod.snd

/-- The message that a reply is sent as. -/
def replyValue (reply : Reply) : Value := reply.2.toValue reply.1

/-- The client reads nothing but messages: the notices in their order, and in the order of
the lines one reply for each line that is due one, under its id, but for the last, which may
still wait. -/
structure Delivered (floats : FloatText) (input : Text) (connection : Connection) : Prop where
  messages : ∃ messages : List (Writer × Value),
    received floats connection.stream.out = messages.map (fun message => some message.2) ∧
      sentBy messages .replies <+: connection.replies.map replyValue ∧
      (connection.answered = true →
        sentBy messages .replies = connection.replies.map replyValue) ∧
      sentBy messages .notifications <+: connection.notices.map Notice.toValue
  ids : connection.replies.map Prod.fst = connection.served.filterMap (answeredId floats)
  lines : connection.served ++ connection.lines = Lines.splitInclusive input

variable {floats : FloatText} {sink : Sink} {input : Text} {connection : Connection}

/-- The value of a message; every text that is written has one. -/
def valueOf (floats : FloatText) (text : Text) : Value := (fromText floats text).getD .null

/-- A message is read as the value it was written from. -/
theorem fromText_eq_valueOf {text : Text} (h : IsMessage floats text) :
    fromText floats text = some (valueOf floats text) := by
  obtain ⟨value, hValue, -⟩ := h.exists_value
  rw [valueOf, hValue, Option.getD_some]

theorem valueOf_toText {value : Value} (h : Writable (numerals floats) recursionLimit value) :
    valueOf floats (toText floats value) = value := by
  rw [valueOf, fromText_toText h, Option.getD_some]

theorem sentBy_map_valueOf (stream : Stream Writer) (writer : Writer) :
    sentBy (stream.written.map fun message => (message.1, valueOf floats message.2)) writer =
      (stream.writtenBy writer).map (valueOf floats) := by
  rw [sentBy, List.filter_map, List.map_map, SharedLines.Stream.writtenBy, List.map_map]
  rfl

theorem Accounted.map_replyText (h : Accounted floats input connection) :
    (connection.replies.map (replyText floats)).map (valueOf floats) =
      connection.replies.map replyValue := by
  rw [List.map_map]
  exact List.map_congr_left fun reply hReply => valueOf_toText (h.fits reply hReply)

theorem map_noticeText (notices : List Notice) :
    (notices.map (noticeText floats)).map (valueOf floats) = notices.map Notice.toValue := by
  rw [List.map_map]
  exact List.map_congr_left fun notice _ => valueOf_toText (writable_notice notice)

/-- Where every text stands whole on its line nothing is lost. -/
theorem Accounted.delivered (h : Accounted floats input connection)
    (hWhole : connection.stream.Whole) : Delivered floats input connection where
  ids := h.ids
  lines := h.lines
  messages := by
    refine ⟨connection.stream.written.map fun message => (message.1, valueOf floats message.2),
      ?_, ?_, ?_, ?_⟩
    · rw [received_of_whole hWhole h.isMessage_texts, SharedLines.Stream.texts, List.map_map,
        List.map_map]
      refine List.map_congr_left fun message hMessage => ?_
      exact fromText_eq_valueOf (h.isMessage_texts _ (List.mem_map_of_mem hMessage))
    · rw [sentBy_map_valueOf, ← h.map_replyText, ← h.replies, List.map_append]
      exact List.prefix_append _ _
    · intro hAnswered
      rw [Connection.answered, Bool.and_eq_true, List.isEmpty_iff] at hAnswered
      rw [sentBy_map_valueOf, ← h.map_replyText, ← h.replies, hAnswered.1, List.append_nil]
    · rw [sentBy_map_valueOf, ← map_noticeText, ← h.notices, List.map_append]
      exact List.prefix_append _ _

/-- All that a task was given to send. -/
def given (connection : Connection) : Writer → List Value
  | .replies => connection.replies.map replyValue
  | .notifications => connection.notices.map Notice.toValue

/-- What of it waits. -/
def waiting (floats : FloatText) (connection : Connection) (writer : Writer) : List Value :=
  (connection.stream.queue writer).map (valueOf floats)

/-- The client has `lines` and a `part` of the next one. The lines are messages; the part is
the beginning of the one that is just being written, if there is one; and what each task was
given is, in order and each message once, what stands in the lines, the message it is
writing, and what waits. A reply is due to each line under the id of its request. -/
structure Relayed (floats : FloatText) (input : Text) (connection : Connection) : Prop where
  messages : ∃ (messages : List (Writer × Value)) (begun : Option (Writer × Value))
      (lines part : Text),
    connection.stream.out = lines ++ part ∧
      (lines = [] ∨ lines.getLast? = some '\n') ∧ '\n' ∉ part ∧
      received floats lines = messages.map (fun message => some message.2) ∧
      (begun = none → part = []) ∧
      (∀ writer value, begun = some (writer, value) → part <+: toText floats value ∧
        connection.stream.pending writer ≠ none) ∧
      ∀ writer, sentBy (messages ++ begun.toList) writer ++ waiting floats connection writer =
        given connection writer
  ids : connection.replies.map Prod.fst = connection.served.filterMap (answeredId floats)
  lines : connection.served ++ connection.lines = Lines.splitInclusive input

theorem Accounted.map_valueOf (h : Accounted floats input connection) (writer : Writer) :
    (connection.stream.writtenBy writer).map (valueOf floats) ++
      waiting floats connection writer = given connection writer := by
  rw [waiting, ← List.map_append]
  cases writer with
  | replies => rw [given, ← h.map_replyText, ← h.replies]
  | notifications => rw [given, ← map_noticeText, ← h.notices]

/-- A part of a line is one of its message, unless the line is there as a whole. -/
theorem prefix_of_unfinished {part left text : Text} (hLine : part ++ left = text ++ ['\n'])
    (hLeft : left ≠ []) : part <+: text := by
  have hPrefix : part <+: text ++ ['\n'] := ⟨left, hLine⟩
  rcases List.prefix_concat_iff.mp hPrefix with hAll | hText
  · rw [hAll] at hLine
    exact absurd (List.append_right_eq_self.mp hLine) hLeft
  · exact hText

theorem getLast_lines (texts : List Text) :
    texts.flatMap (· ++ ['\n']) = [] ∨
      (texts.flatMap (· ++ ['\n'])).getLast? = some '\n' := by
  rcases List.eq_nil_or_concat texts with rfl | ⟨done, last, rfl⟩
  · exact .inl rfl
  · right
    rw [List.concat_eq_append, List.flatMap_append, List.flatMap_singleton, ← List.append_assoc,
      List.getLast?_concat]

/-- Where one text at a time is on its way only the end of the stream may be torn. -/
theorem Accounted.relayed (h : Accounted floats input connection)
    (hSingle : connection.stream.Single) : Relayed floats input connection where
  ids := h.ids
  lines := h.lines
  messages := by
    let value (message : Writer × Text) : Writer × Value := (message.1, valueOf floats message.2)
    have hReceived (done : List (Writer × Text)) (hDone : done ⊆ connection.stream.written) :
        received floats ((done.map Prod.snd).flatMap (· ++ ['\n'])) =
          (done.map value).map (fun message => some message.2) := by
      have hMessages : ∀ text ∈ done.map Prod.snd, IsMessage floats text := by
        intro text hText
        obtain ⟨message, hMessage, rfl⟩ := List.mem_map.mp hText
        exact h.isMessage_texts _ (List.mem_map_of_mem (hDone hMessage))
      have hLines := received_lines hMessages []
      rw [List.append_nil] at hLines
      rw [hLines, List.map_map, List.map_map]
      have hNone : received floats [] = [] := by simp [received, Lines.splitInclusive]
      rw [hNone, List.append_nil]
      exact List.map_congr_left fun message hMessage =>
        fromText_eq_valueOf (hMessages _ (List.mem_map_of_mem hMessage))
    have hGiven (writer : Writer) :
        sentBy (connection.stream.written.map value) writer ++ waiting floats connection writer =
          given connection writer := by
      rw [sentBy_map_valueOf]
      exact h.map_valueOf writer
    rcases hSingle with ⟨-, hOut⟩ | ⟨writer, done, text, part, left, hPending, hLeft, -, hWritten,
      hOut, hLine⟩
    · refine ⟨connection.stream.written.map value, none, connection.stream.out, [],
        (List.append_nil _).symm, ?_, List.not_mem_nil, ?_, fun _ => rfl, ?_, fun writer => ?_⟩
      · rw [hOut]
        exact getLast_lines _
      · rw [hOut]
        exact hReceived _ (List.Subset.refl _)
      · simp
      · simpa using hGiven writer
    · have hDone : done ⊆ connection.stream.written := by
        rw [hWritten]
        exact List.subset_append_left _ _
      have hText : IsMessage floats text := by
        apply h.isMessage_texts
        rw [SharedLines.Stream.texts, hWritten]
        simp
      have hPart := prefix_of_unfinished hLine hLeft
      have hNoFeed : '\n' ∉ part := fun hMem => hText.not_newline_mem (hPart.subset hMem)
      refine ⟨done.map value, some (value (writer, text)), _, part, hOut, getLast_lines _, hNoFeed,
        hReceived done hDone, (fun hNone => by cases hNone), ?_, fun other => ?_⟩
      · intro other found hFound
        obtain ⟨rfl, rfl⟩ := Prod.mk.inj (Option.some.inj hFound)
        obtain ⟨found, hValue, -, hSame⟩ := hText.exists_value
        rw [valueOf, hValue, Option.getD_some, ← hSame, hPending]
        exact ⟨hPart, by simp⟩
      · rw [← hGiven other, hWritten, List.map_append]
        rfl

/-- Who has begun a line holds the lock. -/
def Locked (connection : Connection) : Prop :=
  ∀ writer, connection.stream.pending writer ≠ none → connection.lock = some writer

/-- The socket between two steps. -/
structure Guarded (floats : FloatText) (input : Text) (connection : Connection) : Prop where
  accounted : Accounted floats input connection
  single : connection.stream.Single
  locked : Locked connection

/-- Reading takes no part in the writing but for one reply more. -/
theorem stream_read (world : World) (connection : Connection) :
    (connection.read floats sink world).lock = connection.lock ∧
      ((connection.read floats sink world).stream = connection.stream ∨
        ∃ text, (connection.read floats sink world).stream =
          connection.stream.push .replies text) := by
  rw [Connection.read]
  split
  · exact ⟨rfl, .inl rfl⟩
  · split
    · exact ⟨rfl, .inl rfl⟩
    · split
      · exact ⟨rfl, .inl rfl⟩
      · exact ⟨rfl, .inl rfl⟩
      · exact ⟨rfl, .inr ⟨_, rfl⟩⟩

theorem whole_read (h : connection.stream.Whole) (world : World) :
    (connection.read floats sink world).stream.Whole := by
  obtain ⟨-, hSame | ⟨text, hPush⟩⟩ := @stream_read floats sink world connection
  · rwa [hSame]
  · rw [hPush]
    exact h.push _ _

theorem single_read (h : connection.stream.Single) (world : World) :
    (connection.read floats sink world).stream.Single := by
  obtain ⟨-, hSame | ⟨text, hPush⟩⟩ := @stream_read floats sink world connection
  · rwa [hSame]
  · rw [hPush]
    exact h

theorem locked_read (h : Locked connection) (world : World) :
    Locked (connection.read floats sink world) := by
  intro writer hPending
  obtain ⟨hLock, hSame | ⟨text, hPush⟩⟩ := @stream_read floats sink world connection
  · rw [hSame] at hPending
    rw [hLock]
    exact h writer hPending
  · rw [hPush] at hPending
    rw [hLock]
    exact h writer hPending

/-- A message gets its newline from the writer. -/
theorem unixEnding_of_isMessage {text : Text} (h : IsMessage floats text) (writer : Writer) :
    unixEnding writer text = ['\n'] := by
  cases writer with
  | replies => rfl
  | notifications =>
      obtain ⟨inner, rfl⟩ := h.braces
      rw [unixEnding, if_neg]
      rw [← List.cons_append, List.getLast?_concat]
      decide

/-- Before the first event nobody has the lock. -/
theorem guarded_start (handler : Handler) : Guarded floats input (.start handler input) where
  accounted := accounted_start handler
  single := SharedLines.Stream.single_new
  locked _ hPending := absurd rfl hPending

/-- Who has the lock may begin a text. -/
theorem Guarded.start (h : Guarded floats input connection) {writer : Writer}
    (hLock : connection.lock = some writer) :
    Guarded floats input
      { connection with stream := connection.stream.start (unixEnding writer) writer } := by
  refine ⟨h.accounted.start _ _, ?_, ?_⟩
  · by_cases hPending : connection.stream.pending writer = none
    · refine h.single.start ?_ ?_
      · intro other
        by_contra hOther
        have hHolder := h.locked other hOther
        rw [hLock] at hHolder
        obtain rfl := Option.some.inj hHolder
        exact hOther hPending
      · intro text hText
        exact unixEnding_of_isMessage
          (h.accounted.isMessage writer text (List.mem_append_right _ hText)) writer
    · obtain ⟨last, hLast⟩ := Option.ne_none_iff_exists'.mp hPending
      rw [SharedLines.Stream.start_of_pending hLast]
      exact h.single
  · intro other hOther
    by_cases hSame : other = writer
    · rw [hSame]
      exact hLock
    · rw [SharedLines.Stream.pending_start_ne _ _ hSame] at hOther
      exact h.locked other hOther

/-- The lock is given back when the line is complete. -/
theorem Guarded.advance (h : Guarded floats input connection) {writer : Writer}
    (hLock : connection.lock = some writer) (count : Nat) :
    let stream := connection.stream.advance writer count
    Guarded floats input
      { connection with
        stream
        lock := if stream.pending writer = none then none else some writer } := by
  refine ⟨h.accounted.advance _ _ _, h.single.advance _ _, ?_⟩
  intro other hOther
  by_cases hSame : other = writer
  · subst hSame
    exact if_neg hOther
  · rw [SharedLines.Stream.pending_advance_ne _ _ hSame] at hOther
    have hHolder := h.locked other hOther
    rw [hLock] at hHolder
    exact absurd (Option.some.inj hHolder).symm hSame

/-- The lock keeps the texts apart, event by event. -/
theorem Guarded.handleClient (h : Guarded floats input connection) (event : ConnectionEvent) :
    Guarded floats input (handleClient floats sink connection event) := by
  have hAccounted : Accounted floats input (Daemon.handleClient floats sink connection event) :=
    h.accounted.handleClient event
  cases event with
  | read world => exact ⟨hAccounted, single_read h.single world, locked_read h.locked world⟩
  | notify notice => exact ⟨hAccounted, h.single, h.locked⟩
  | elsewhere handler => exact ⟨hAccounted, h.single, h.locked⟩
  | acquire writer =>
      rw [Daemon.handleClient] at hAccounted ⊢
      split
      · rename_i hFree
        rw [if_pos hFree] at hAccounted
        refine ⟨hAccounted, h.single, fun other hOther => ?_⟩
        have hHolder := h.locked other hOther
        rw [hFree.1] at hHolder
        cases hHolder
      · exact h
  | write writer =>
      rw [Daemon.handleClient]
      split
      · rename_i hHolds
        exact h.start hHolds.1
      · exact h
  | advance writer count =>
      rw [Daemon.handleClient]
      split
      · rename_i hHolds
        exact h.advance hHolds.1 count
      · exact h
  | finish writer => exact h

/-- On the socket, whatever the two tasks, their partial writes and the other clients do
between, the client reads the replies to its lines and the notices, whole and in order, and
behind them a part of the next message. -/
theorem handleClient_delivers (floats : FloatText) (sink : Sink) (handler : Handler)
    (input : Text) (events : List ConnectionEvent) :
    Always (handleClient floats sink) (Relayed floats input) (.start handler input) events := by
  have hStep : ∀ connection event, Guarded floats input connection →
      Guarded floats input (handleClient floats sink connection event) :=
    fun _ event h => h.handleClient event
  have hGuarded := always_of_step hStep (guarded_start handler) events
  exact hGuarded.mono fun connection h => h.accounted.relayed h.single

/-- A message is begun only when no line lacks its end. -/
def Apart (connection : Connection) : ConnectionEvent → Prop
  | .write writer =>
      connection.alive writer = true → connection.stream.pending writer = none →
        connection.stream.queue writer ≠ [] → connection.stream.Quiet
  | _ => True

/-- The standard output between two steps that are apart. -/
structure Unlocked (floats : FloatText) (input : Text) (connection : Connection) : Prop where
  accounted : Accounted floats input connection
  whole : connection.stream.Whole

/-- Without a lock the texts stay apart as long as none is begun inside of another. -/
theorem Unlocked.serveStdio (h : Unlocked floats input connection) {event : ConnectionEvent}
    (hApart : Apart connection event) :
    Unlocked floats input (serveStdio floats sink connection event) := by
  refine ⟨h.accounted.serveStdio event, ?_⟩
  cases event with
  | read world => exact whole_read h.whole world
  | notify notice => exact h.whole.push _ _
  | elsewhere handler => exact h.whole
  | acquire writer => exact h.whole
  | advance writer count => exact h.whole
  | write writer =>
      rw [Daemon.serveStdio]
      split
      · rename_i hAlive
        show (connection.stream.write _ _).Whole
        by_cases hPending : connection.stream.pending writer = none
        · by_cases hQueue : connection.stream.queue writer = []
          · rw [SharedLines.Stream.write_of_empty hQueue]
            exact h.whole
          · exact h.whole.write (hApart hAlive hPending hQueue) fun _ _ => rfl
        · obtain ⟨last, hLast⟩ := Option.ne_none_iff_exists'.mp hPending
          rw [SharedLines.Stream.write_of_pending hLast]
          exact h.whole
      · exact h.whole
  | finish writer =>
      rw [Daemon.serveStdio]
      split
      · exact h.whole.finish writer
      · exact h.whole

/-- A line that begins with two messages cannot be read. -/
theorem Delivered.not_glued (h : Delivered floats input connection)
    (hAccounted : Accounted floats input connection) : ¬ connection.stream.Glued := by
  intro hGlued
  have hNone := none_mem_received hGlued hAccounted.isMessage_texts
  obtain ⟨messages, hReceived, -⟩ := h.messages
  rw [hReceived] at hNone
  obtain ⟨message, -, hMessage⟩ := List.mem_map.mp hNone
  cases hMessage

/-- A text that is begun inside of another shows in what is read. -/
theorem apart_of_delivered (h : Unlocked floats input connection) {event : ConnectionEvent}
    (hDelivered : Delivered floats input (serveStdio floats sink connection event)) :
    Apart connection event := by
  cases event with
  | write writer =>
      intro hAlive hPending hQueue other
      by_contra hOther
      obtain ⟨text, rest, hNext⟩ := List.exists_cons_of_ne_nil hQueue
      refine hDelivered.not_glued (h.accounted.serveStdio (.write writer)) ?_
      rw [Daemon.serveStdio, if_pos hAlive]
      exact h.whole.glued_write hOther hPending hNext
  | _ => trivial

end Delivery

end Mxdx.Client.Daemon
