import Mxdx.Client.ConnectionDelivery

/-! A run through the daemon, from the side of the command line: the request, the reply,
and the notifications of the session behind it. -/
namespace Mxdx.Client.Daemon

open Automaton
open JsonText (Writable)
open Protocol (Carried ErrorResponse IncomingMessage Request Response RequestId asInt64 fromText
  toText writable_intValue)
open Worker (FloatText SessionTask Text Value numerals)

/-- What is asked of `mxdx-client run`. -/
structure RunCommand where
  command : String
  args : List String
  detach : Bool
  interactive : Bool
  noRoomOutput : Bool
  timeout : Option UInt64
  cwd : Option String
  workerRoom : Option String

namespace RunCommand

/-- What is not given on the command line is null. -/
def params (run : RunCommand) : Value :=
  .obj [("bin", .str run.command), ("args", .arr (run.args.map .str)), ("detach", .bool run.detach),
    ("interactive", .bool run.interactive), ("no_room_output", .bool run.noRoomOutput),
    ("timeout_seconds", run.timeout.elim .null fun seconds => .num (.posInt seconds)),
    ("cwd", run.cwd.elim .null .str), ("worker_room", run.workerRoom.elim .null .str)]

/-- Each command is the first request of its own connection. -/
def request (run : RunCommand) : Request := .new (.number 1) "session.run" (some run.params)

/-- What `send_request` writes. -/
def line (floats : FloatText) (run : RunCommand) : Text :=
  toText floats run.request.toValue ++ ['\n']

end RunCommand

/-- How `send_request` returns, or that it goes on waiting. -/
inductive CallResult where
  | answered (result : Value)
  | failed (code : Int32) (message : String)
  | unreadable
  | waiting

/-- `send_request` over the lines of the daemon: up to a message with an id there is none
for it. -/
def awaitReply : List (Option Value) → CallResult × List (Option Value)
  | [] => (.waiting, [])
  | none :: rest => (.unreadable, rest)
  | some value :: rest =>
      if (value.get? "id").isSome then
        if (value.get? "error").isSome then
          match ErrorResponse.fromValue value with
          | some response => (.failed response.error.code response.error.message, rest)
          | none => (.unreadable, rest)
        else
          match Response.fromValue value with
          | some response => (.answered response.result, rest)
          | none => (.unreadable, rest)
      else awaitReply rest

/-- What the command has written to its output and to its errors, and the code it has exited
with. -/
structure RunView where
  printed : List String
  reported : List String
  exit : Option Int32
deriving DecidableEq

/-- A field of the params. -/
def param (value : Value) (name : String) : Option Value :=
  (value.get? "params").bind fun params => params.get? name

/-- The loop behind the reply. -/
def followRun (view : RunView) : List (Option Value) → RunView
  | [] => view
  | none :: rest => followRun view rest
  | some value :: rest =>
      match (value.get? "method").bind Json.asStr with
      | some "session.output" =>
          followRun
            { view with
              printed := view.printed ++ ((param value "data").bind Json.asStr).toList } rest
      | some "session.result" =>
          let exitCode := ((param value "exit_code").bind asInt64).map Int64.toInt32
          let status := ((param value "status").bind Json.asStr).toList
          let reason := (((param value "tail").bind Json.asStr).filter (· ≠ "")).toList
          { view with
            reported := view.reported ++ status ++ reason.map ("  reason: " ++ ·)
            exit := some (exitCode.getD 1) }
      | _ => followRun view rest

/-- What the daemon answers to a task it has submitted. -/
structure SessionRunResult where
  uuid : String
  status : String

/-- Both fields have to be there. -/
def SessionRunResult.fromValue : Value → Option SessionRunResult :=
  Json.asRecord ["uuid", "status"] 2 fun field => do
    let uuid ← Json.required Json.asStr (field "uuid")
    let status ← Json.required Json.asStr (field "status")
    return ⟨uuid, status⟩

/-- An error ends the command with a one. -/
def RunView.failed : RunView := ⟨[], [], some 1⟩

/-- The command over what it reads from the daemon. -/
def runViaDaemon (detach : Bool) (received : List (Option Value)) : RunView :=
  match awaitReply received with
  | (.answered result, rest) =>
      match SessionRunResult.fromValue result with
      | none => .failed
      | some run =>
          if detach then ⟨[run.uuid], [], some 0⟩
          else
            followRun ⟨[], ["Session " ++ run.uuid ++ " submitted, waiting for output..."], none⟩
              rest
  | (.failed .., _) | (.unreadable, _) => .failed
  | (.waiting, _) => ⟨[], [], none⟩

section Request

variable {floats : FloatText} {sink : Sink} {handler : Handler} {world : World}

/-- A command leaves room for the message around it. -/
theorem carried_params (run : RunCommand) : Carried floats run.params := by
  have hTimeout : Writable (numerals floats) 125
      (run.timeout.elim .null fun seconds => .num (.posInt seconds)) := by
    cases run.timeout with
    | none => exact .null
    | some seconds => exact .num (Worker.kept_posInt floats seconds)
  have hText : ∀ text : Option String, Writable (numerals floats) 125 (text.elim .null .str) := by
    intro text
    cases text with
    | none => exact .null
    | some text => exact .str text
  refine carried_obj (by simp) ?_
  simp only [List.forall_mem_cons, List.not_mem_nil, false_implies, implies_true, and_true]
  exact ⟨.str _, writable_strs _, .bool _, .bool _, .bool _, hTimeout, hText _, hText _⟩

/-- Every command has a text. -/
theorem writable_request (run : RunCommand) :
    Writable (numerals floats) Protocol.recursionLimit run.request.toValue := by
  have hId : Writable (numerals floats) 126 (RequestId.number 1).toValue :=
    writable_intValue (by decide)
  refine .obj (by simp [RunCommand.request, Request.new, Protocol.optional]) ?_
  simpa [RunCommand.request, Request.new, Protocol.optional] using
    ⟨.str _, hId, .str _, carried_params run⟩

/-- The daemon reads the request that was sent. -/
theorem fromValue_request (run : RunCommand) :
    Request.fromValue run.request.toValue = some run.request := by
  rw [Protocol.Request.fromValue_toValue]
  rfl

/-- The daemon gets the request that the command has written. -/
theorem parse_line (run : RunCommand) :
    IncomingMessage.parse floats (Worker.trim (run.line floats)) = some (.request run.request) := by
  have h : IsMessage floats (toText floats run.request.toValue) :=
    ⟨_, rfl, writable_request run⟩
  rw [RunCommand.line, h.trim_line.1, IncomingMessage.parse,
    Protocol.fromText_toText (writable_request run)]
  simp only [fromValue_request, Option.map_some]
  exact if_pos rfl

/-- The handler reads the command that was given. -/
theorem read_params (run : RunCommand) :
    SessionRunParams.fromValue run.params =
      some
        { bin := run.command
          args := run.args
          cwd := run.cwd
          env := none
          interactive := run.interactive
          noRoomOutput := run.noRoomOutput
          timeoutSeconds := run.timeout
          heartbeatInterval := none
          workerRoom := run.workerRoom
          detach := run.detach } := by
  obtain ⟨command, args, detach, interactive, noRoomOutput, timeout, cwd, workerRoom⟩ := run
  have hArgs : Json.asList Json.asStr (.arr (args.map .str) : Value) = some args :=
    Json.asList_arr fun _ _ => rfl
  cases timeout <;> cases cwd <;> cases workerRoom <;>
    simp [RunCommand.params, SessionRunParams.fromValue, Json.asRecord, Json.required,
      Json.nullable, Json.defaulted, Json.asStr, Json.asBool, Json.isNull, Json.asNum,
      Worker.asUInt64, List.lookup_cons, List.lookup_nil, hArgs]

/-- One task is posted, and the session is tailed unless nobody waits. -/
theorem handleSessionRun_params {run : RunCommand} {uuid : String}
    (hConnected : handler.connected world = true)
    (hSubmission : world.submission = .submitted uuid) :
    (handler.handleSessionRun world (some run.params)).answer =
        .ok (.obj [("uuid", .str uuid), ("status", .str "submitted")]) ∧
      (handler.handleSessionRun world (some run.params)).posted =
        [.task
          { uuid := uuid
            senderId := world.senderId
            bin := run.command
            args := run.args
            env := none
            cwd := run.cwd
            interactive := run.interactive
            noRoomOutput := run.noRoomOutput
            timeoutSeconds := run.timeout
            heartbeatIntervalSeconds := 30
            plan := none
            requiredCapabilities := []
            routingMode := none
            onTimeout := none
            onHeartbeatMiss := none }] ∧
      (handler.handleSessionRun world (some run.params)).tailed =
        if run.detach then none else some uuid := by
  have hFree : ¬ handler.connected world = false := by rw [hConnected]; decide
  simp only [Handler.handleSessionRun, Handler.withParams, parseParams, read_params,
    Option.elim_some, if_neg hFree, hSubmission]
  exact ⟨trivial, rfl, trivial⟩

/-- The task that the daemon submits is the one that was typed, and the session is tailed
unless the command is detached. -/
theorem run_submits_what_was_typed (floats : FloatText) (sink : Sink) (handler : Handler)
    (world : World) (run : RunCommand) (uuid : String)
    (hMatrix : handler.matrix = true ∨ world.connects = true)
    (hSubmission : world.submission = .submitted uuid) :
    ∃ request handled,
      IncomingMessage.parse floats (Worker.trim (run.line floats)) = some (.request request) ∧
        handler.handleRequest world sink request = some handled ∧
        handled.posted = [.task
          { uuid := uuid
            senderId := world.senderId
            bin := run.command
            args := run.args
            env := none
            cwd := run.cwd
            interactive := run.interactive
            noRoomOutput := run.noRoomOutput
            timeoutSeconds := run.timeout
            heartbeatIntervalSeconds := 30
            plan := none
            requiredCapabilities := []
            routingMode := none
            onTimeout := none
            onHeartbeatMiss := none }] ∧
        handled.tailed = if run.detach then none else some uuid := by
  have hConnected : (handler.touch world).connected world = true := by
    rw [Handler.connected, Bool.or_eq_true]
    exact hMatrix
  obtain ⟨-, hPosted, hTailed⟩ := handleSessionRun_params hConnected hSubmission
  exact ⟨run.request, _, parse_line run, rfl, hPosted, hTailed⟩

/-- A run of `ls -l` in `/tmp`. -/
theorem run_submits_what_was_typed_ls :
    let floats : FloatText := ⟨fun _ => [], fun _ => none⟩
    let world : World := ⟨0, 0, "", false, "@alice:example.com", .submitted "u", .ok ()⟩
    let run : RunCommand := ⟨"ls", ["-l"], false, false, false, some 5, some "/tmp", none⟩
    ∃ request handled,
      IncomingMessage.parse floats (Worker.trim (run.line floats)) = some (.request request) ∧
        ({ Handler.new "default" 0 with matrix := true } : Handler).handleRequest world ⟨0⟩
          request = some handled ∧
        handled.posted = [.task ⟨"u", "@alice:example.com", "ls", ["-l"], none, some "/tmp", false,
          false, some 5, 30, none, [], none, none, none⟩] ∧
        handled.tailed = some "u" :=
  run_submits_what_was_typed _ ⟨0⟩ { Handler.new "default" 0 with matrix := true } _
    ⟨"ls", ["-l"], false, false, false, some 5, some "/tmp", none⟩ "u" (.inl rfl) rfl

end Request

section Reading

variable {received : List (Option Value)}

/-- Notifications are passed over until the reply comes. -/
theorem awaitReply_notices (notices : List Notice) (rest : List (Option Value)) :
    awaitReply (notices.map (fun notice => some notice.toValue) ++ rest) = awaitReply rest := by
  induction notices with
  | nil => rfl
  | cons notice notices ih =>
      cases notice with
      | output uuid data => exact ih
      | result uuid exitCode status tail => exact ih

/-- The reply ends the waiting. -/
theorem awaitReply_ok (id : RequestId) (result : Value) (rest : List (Option Value)) :
    awaitReply (some (replyValue (id, .ok result)) :: rest) = (.answered result, rest) := by
  have hRead : Response.fromValue (replyValue (id, .ok result)) = some (.new id result) :=
    Protocol.Response.fromValue_toValue _
  simp only [awaitReply, hRead]
  rfl

/-- Output is printed as it comes. -/
theorem followRun_outputs (uuid : String) (outputs : List String) (view : RunView)
    (rest : List (Option Value)) :
    followRun view
        ((outputs.map (Notice.output uuid)).map (fun notice => some notice.toValue) ++ rest) =
      followRun { view with printed := view.printed ++ outputs } rest := by
  induction outputs generalizing view with
  | nil => rw [List.append_nil]; rfl
  | cons output outputs ih =>
      have hFirst := ih { view with printed := view.printed ++ [output] }
      rw [List.append_assoc, List.singleton_append] at hFirst
      exact hFirst

/-- What a result adds to the errors. -/
def resultLines (status : String) (tail : Option String) : List String :=
  status :: ((tail.filter (· ≠ "")).toList.map ("  reason: " ++ ·))

/-- The result ends the command. -/
theorem followRun_result (uuid : String) (exitCode : Option Int32) (status : String)
    (tail : Option String) (view : RunView) (rest : List (Option Value)) :
    followRun view (some (Notice.result uuid exitCode status tail).toValue :: rest) =
      { view with
        reported := view.reported ++ resultLines status tail
        exit := some (exitCode.getD 1) } := by
  have hCode : ((param (Notice.result uuid exitCode status tail).toValue "exit_code").bind
      asInt64).map Int64.toInt32 = exitCode := by
    cases exitCode with
    | none => rfl
    | some code =>
        have hLeast := code.le_toInt
        have hMost := code.toInt_lt
        have hRead := Protocol.asInt64_intValue (.ofInt code.toInt)
        rw [Int64.toInt_ofInt_of_le (by omega) (by omega)] at hRead
        show (asInt64 (Protocol.intValue code.toInt)).map Int64.toInt32 = _
        rw [hRead, Option.map_some, Int64.toInt32_ofInt, Int32.ofInt_toInt]
  have hTail : ((param (Notice.result uuid exitCode status tail).toValue "tail").bind
      Json.asStr) = tail := by
    cases tail <;> rfl
  have hStatus : ((param (Notice.result uuid exitCode status tail).toValue "status").bind
      Json.asStr) = some status := rfl
  have hMethod : ((Notice.result uuid exitCode status tail).toValue.get? "method").bind
      Json.asStr = some "session.result" := rfl
  simp only [followRun, hMethod, hCode, hTail, hStatus]
  simp [resultLines]

end Reading

section Heard

variable {floats : FloatText} {input : Text} {connection : Connection}

/-- All that the tasks were given stands in the stream. -/
def AllWritten (connection : Connection) : Prop :=
  connection.stream.Quiet ∧ ∀ writer, connection.stream.queue writer = []

/-- What the command is to show of a session. -/
def sessionView (uuid : String) (outputs : List String) (exitCode : Option Int32) (status : String)
    (tail : Option String) : RunView :=
  ⟨outputs, ("Session " ++ uuid ++ " submitted, waiting for output...") :: resultLines status tail,
    some (exitCode.getD 1)⟩

/-- When a session has been accepted, has ended and is told to the last line, the command
has shown it and exited with its code exactly if the reply was written ahead of all
notifications. -/
def Heard (floats : FloatText) (connection : Connection) : Prop :=
  ∀ uuid outputs exitCode status tail,
    connection.replies =
        [(.number 1, .ok (.obj [("uuid", .str uuid), ("status", .str "submitted")]))] →
      connection.notices = outputs.map (.output uuid) ++ [.result uuid exitCode status tail] →
        AllWritten connection →
          (runViaDaemon false (received floats connection.stream.out) =
              sessionView uuid outputs exitCode status tail ↔
            connection.stream.written.head?.map Prod.fst = some .replies)

/-- A client that reads to the end reads every message, each writer's in order. -/
theorem received_of_allWritten (h : Guarded floats input connection)
    (hWritten : AllWritten connection) :
    ∃ messages : List (Writer × Value),
      received floats connection.stream.out = messages.map (fun message => some message.2) ∧
        messages.map Prod.fst = connection.stream.written.map Prod.fst ∧
        sentBy messages .replies = connection.replies.map replyValue ∧
        sentBy messages .notifications = connection.notices.map Notice.toValue := by
  have hAll : ∀ writer texts, connection.stream.Holds writer texts →
      connection.stream.writtenBy writer = texts := by
    intro writer texts hHolds
    rw [← hHolds, hWritten.2 writer, List.append_nil]
  refine ⟨connection.stream.written.map fun message => (message.1, valueOf floats message.2),
    ?_, ?_, ?_, ?_⟩
  · rw [received_of_whole (h.single.whole hWritten.1) h.accounted.isMessage_texts,
      SharedLines.Stream.texts, List.map_map, List.map_map]
    refine List.map_congr_left fun message hMessage => ?_
    exact fromText_eq_valueOf (h.accounted.isMessage_texts _ (List.mem_map_of_mem hMessage))
  · rw [List.map_map]
    rfl
  · rw [sentBy_map_valueOf, hAll _ _ h.accounted.replies, h.accounted.map_replyText]
  · rw [sentBy_map_valueOf, hAll _ _ h.accounted.notices, map_noticeText]

@[simp] theorem sentBy_cons_self (writer : Writer) (value : Value)
    (messages : List (Writer × Value)) :
    sentBy ((writer, value) :: messages) writer = value :: sentBy messages writer := by
  simp [sentBy]

@[simp] theorem sentBy_cons_ne {writer other : Writer} (hNe : other ≠ writer) (value : Value)
    (messages : List (Writer × Value)) :
    sentBy ((other, value) :: messages) writer = sentBy messages writer := by
  simp [sentBy, hNe]

/-- Without replies the messages are the notifications. -/
theorem eq_map_of_no_reply {messages : List (Writer × Value)} (h : sentBy messages .replies = []) :
    messages = (sentBy messages .notifications).map (Prod.mk .notifications) := by
  induction messages with
  | nil => rfl
  | cons message messages ih =>
      obtain ⟨writer, value⟩ := message
      cases writer with
      | replies =>
          rw [sentBy_cons_self] at h
          cases h
      | notifications =>
          rw [sentBy_cons_ne (by decide)] at h
          rw [sentBy_cons_self, List.map_cons, ← ih h]

/-- One reply stands among the notifications. -/
theorem exists_split {messages : List (Writer × Value)} {reply : Value}
    (h : sentBy messages .replies = [reply]) :
    ∃ before after : List Value, messages = before.map (Prod.mk .notifications) ++
      (.replies, reply) :: after.map (Prod.mk .notifications) ∧
        sentBy messages .notifications = before ++ after := by
  induction messages with
  | nil => cases h
  | cons message messages ih =>
      obtain ⟨writer, value⟩ := message
      cases writer with
      | replies =>
          rw [sentBy_cons_self, List.cons.injEq] at h
          obtain ⟨rfl, hRest⟩ := h
          refine ⟨[], sentBy messages .notifications, ?_, sentBy_cons_ne (by decide) _ _⟩
          rw [← eq_map_of_no_reply hRest]
          rfl
      | notifications =>
          rw [sentBy_cons_ne (by decide)] at h
          obtain ⟨before, after, hMessages, hSent⟩ := ih h
          refine ⟨value :: before, after, ?_, ?_⟩
          · rw [hMessages]
            rfl
          · rw [sentBy_cons_self, hSent]
            rfl

/-- The command over a stream in which some of the notices stand ahead of the reply. -/
theorem runViaDaemon_split (uuid : String) (before after : List Notice) :
    runViaDaemon false
        (before.map (fun notice => some notice.toValue) ++
          some (replyValue (.number 1,
            .ok (.obj [("uuid", .str uuid), ("status", .str "submitted")]))) ::
              after.map (fun notice => some notice.toValue)) =
      followRun ⟨[], ["Session " ++ uuid ++ " submitted, waiting for output..."], none⟩
        (after.map fun notice => some notice.toValue) := by
  rw [runViaDaemon, awaitReply_notices, awaitReply_ok]
  rfl

/-- A whole session is printed and reported. -/
theorem followRun_session (uuid : String) (outputs : List String) (exitCode : Option Int32)
    (status : String) (tail : Option String) (view : RunView) :
    followRun view
        ((outputs.map (Notice.output uuid) ++ [Notice.result uuid exitCode status tail]).map
          fun notice => some notice.toValue) =
      { printed := view.printed ++ outputs
        reported := view.reported ++ resultLines status tail
        exit := some (exitCode.getD 1) } := by
  rw [List.map_append, followRun_outputs, List.map_singleton, followRun_result]

/-- What is ahead of the reply is missed: an output, or else the result. -/
theorem followRun_eq_sessionView_iff {uuid : String} {outputs : List String}
    {exitCode : Option Int32} {status : String} {tail : Option String} {before after : List Notice}
    (h : outputs.map (Notice.output uuid) ++ [.result uuid exitCode status tail] =
      before ++ after) :
    followRun ⟨[], ["Session " ++ uuid ++ " submitted, waiting for output..."], none⟩
        (after.map fun notice => some notice.toValue) =
      sessionView uuid outputs exitCode status tail ↔ before = [] := by
  constructor
  · intro hView
    rcases List.append_eq_append_iff.mp h with ⟨middle, rfl, hResult⟩ | ⟨middle, hOutputs, rfl⟩
    · cases middle with
      | nil =>
          rw [List.nil_append] at hResult
          have hShown := followRun_session uuid [] exitCode status tail
            ⟨[], ["Session " ++ uuid ++ " submitted, waiting for output..."], none⟩
          rw [List.map_nil, List.nil_append, hResult, hView] at hShown
          have hNone : outputs = [] := congrArg RunView.printed hShown
          rw [hNone]
          rfl
      | cons notice middle =>
          have hAfter : after = [] := by
            have hLength := congrArg List.length hResult
            simp only [List.length_cons, List.length_nil, List.length_append] at hLength
            exact List.eq_nil_of_length_eq_zero (by omega)
          rw [hAfter] at hView
          cases congrArg RunView.exit hView
    · obtain ⟨first, second, rfl, rfl, rfl⟩ := List.map_eq_append_iff.mp hOutputs
      rw [followRun_session] at hView
      have hPrinted : second = first ++ second := congrArg RunView.printed hView
      rw [List.self_eq_append_left] at hPrinted
      rw [hPrinted]
      rfl
  · rintro rfl
    rw [List.nil_append] at h
    rw [← h, followRun_session]
    rfl

/-- The command misses what the daemon writes ahead of its reply: whatever the schedule of
the two writing tasks, it shows the session that it has run and exits with its code exactly
when the reply comes first. -/
theorem run_heard_iff_reply_first (floats : FloatText) (sink : Sink) (handler : Handler)
    (input : Text) (events : List ConnectionEvent) :
    Always (handleClient floats sink) (Heard floats) (.start handler input) events := by
  have hStep : ∀ connection event, Guarded floats input connection →
      Guarded floats input (handleClient floats sink connection event) :=
    fun _ event h => h.handleClient event
  refine (always_of_step hStep (guarded_start handler) events).mono fun connection h => ?_
  intro uuid outputs exitCode status tail hReplies hNotices hWritten
  obtain ⟨messages, hReceived, hWriters, hReply, hSent⟩ := received_of_allWritten h hWritten
  rw [hReplies, List.map_singleton] at hReply
  obtain ⟨before, after, hMessages, hBoth⟩ := exists_split hReply
  rw [hBoth, hNotices] at hSent
  obtain ⟨first, second, hSplit, rfl, rfl⟩ := List.map_eq_append_iff.mp hSent.symm
  have hView : received floats connection.stream.out =
      first.map (fun notice => some notice.toValue) ++
        some (replyValue (.number 1,
          .ok (.obj [("uuid", .str uuid), ("status", .str "submitted")]))) ::
            second.map (fun notice => some notice.toValue) := by
    rw [hReceived, hMessages]
    simp only [List.map_append, List.map_cons, List.map_map]
    rfl
  rw [hView, runViaDaemon_split, followRun_eq_sessionView_iff hSplit, ← List.head?_map, ← hWriters,
    hMessages]
  cases first with
  | nil => exact iff_of_true rfl rfl
  | cons notice first => exact iff_of_false (List.cons_ne_nil _ _) (by simp)

end Heard

section Logs

variable {floats : FloatText}

/-- What is asked of `mxdx-client logs`. -/
structure LogsCommand where
  uuid : String
  follow : Bool
  workerRoom : Option String

namespace LogsCommand

/-- What is not given on the command line is null. -/
def params (logs : LogsCommand) : Value :=
  .obj [("uuid", .str logs.uuid), ("follow", .bool logs.follow),
    ("worker_room", logs.workerRoom.elim .null .str)]

/-- Each command is the first request of its own connection. -/
def request (logs : LogsCommand) : Request := .new (.number 1) "session.logs" (some logs.params)

def line (floats : FloatText) (logs : LogsCommand) : Text :=
  toText floats logs.request.toValue ++ ['\n']

end LogsCommand

/-- The command looks for the field `lines`. -/
def logsViaDaemon (received : List (Option Value)) : RunView :=
  match (awaitReply received).1 with
  | .answered result =>
      let lines := (result.get? "lines").bind (Json.asList some)
      ⟨(lines.getD []).filterMap Json.asStr, [], some 0⟩
  | .failed .. | .unreadable => .failed
  | .waiting => ⟨[], [], none⟩

theorem writable_logsRequest (logs : LogsCommand) :
    Writable (numerals floats) Protocol.recursionLimit logs.request.toValue := by
  have hId : Writable (numerals floats) 126 (RequestId.number 1).toValue :=
    writable_intValue (by decide)
  have hRoom : Writable (numerals floats) 125 (logs.workerRoom.elim .null .str) := by
    cases logs.workerRoom with
    | none => exact .null
    | some room => exact .str room
  have hParams : Writable (numerals floats) 126 logs.params :=
    .obj (by simp) (by simpa using ⟨.str _, .bool _, hRoom⟩)
  refine .obj (by simp [LogsCommand.request, Request.new, Protocol.optional]) ?_
  simpa [LogsCommand.request, Request.new, Protocol.optional] using
    ⟨.str _, hId, .str _, hParams⟩

/-- The daemon reads the request that was sent. -/
theorem parse_logsLine (logs : LogsCommand) :
    IncomingMessage.parse floats (Worker.trim (logs.line floats)) =
      some (.request logs.request) := by
  have h : IsMessage floats (toText floats logs.request.toValue) :=
    ⟨_, rfl, writable_logsRequest logs⟩
  have hRead : Request.fromValue logs.request.toValue = some logs.request := by
    rw [Protocol.Request.fromValue_toValue]
    rfl
  rw [LogsCommand.line, h.trim_line.1, IncomingMessage.parse,
    Protocol.fromText_toText (writable_logsRequest logs)]
  simp only [hRead, Option.map_some]
  exact if_pos rfl

theorem trim_logsLine (logs : LogsCommand) : Worker.trim (logs.line floats) ≠ [] := by
  have h : IsMessage floats (toText floats logs.request.toValue) :=
    ⟨_, rfl, writable_logsRequest logs⟩
  rw [LogsCommand.line, h.trim_line.1]
  exact h.ne_nil

/-- The handler reads the command that was given. -/
theorem read_logsParams (logs : LogsCommand) :
    SessionLogsParams.fromValue logs.params = some ⟨logs.uuid, logs.follow, logs.workerRoom⟩ := by
  obtain ⟨uuid, follow, workerRoom⟩ := logs
  cases workerRoom <;>
    simp [LogsCommand.params, SessionLogsParams.fromValue, Json.asRecord, Json.required,
      Json.nullable, Json.defaulted, Json.asStr, Json.asBool, Json.isNull, List.lookup_cons]

/-- A reply on a line of its own. -/
theorem received_reply {id : RequestId} {answer : Answer}
    (h : ∀ result, answer = .ok result → Carried floats result) :
    received floats (replyText floats (id, answer) ++ ['\n']) =
      [some (replyValue (id, answer))] := by
  have hWritable : Writable (numerals floats) Protocol.recursionLimit (answer.toValue id) :=
    writable_reply h
  have hMessage : IsMessage floats (replyText floats (id, answer)) := isMessage_reply hWritable
  have hLines := received_lines (List.forall_mem_singleton.mpr hMessage) []
  rw [List.flatMap_singleton, List.append_nil, List.map_singleton] at hLines
  rw [hLines, replyText, Protocol.fromText_toText hWritable]
  rfl

/-- The daemon answers with the field `output`: of the lines it has kept of a session the
command shows none, and it fails where none are kept. -/
theorem logs_shows_no_line (floats : FloatText) (sink : Sink) (handler : Handler) (world : World)
    (logs : LogsCommand) :
    ∃ next answer,
      serveLine floats sink world handler (logs.line floats) =
          some (next, some (.number 1, answer)) ∧
        logsViaDaemon (received floats (replyText floats (.number 1, answer) ++ ['\n'])) =
          if handler.sessions.bufferedOutput logs.uuid = [] then .failed else ⟨[], [], some 0⟩ := by
  have hServe : serveLine floats sink world handler (logs.line floats) =
      some (((handler.touch world).handleSessionLogs world (some logs.params)).handler,
        some (.number 1, ((handler.touch world).handleSessionLogs world
          (some logs.params)).answer)) := by
    rw [serveLine, parse_logsLine]
    exact if_neg (trim_logsLine logs)
  have hFits : ((handler.touch world).handleSessionLogs world (some logs.params)).Fits floats :=
    fits_handleSessionLogs _
  refine ⟨_, _, hServe, ?_⟩
  rw [received_reply hFits]
  by_cases hKept : handler.sessions.bufferedOutput logs.uuid = []
  · rw [if_pos hKept]
    simp only [Handler.handleSessionLogs, Handler.withParams, parseParams, read_logsParams,
      Option.elim_some, Handler.touch, hKept, if_true]
    rfl
  · rw [if_neg hKept]
    simp only [Handler.handleSessionLogs, Handler.withParams, parseParams, read_logsParams,
      Option.elim_some, Handler.touch, Handler.answered, hKept, if_false]
    rw [logsViaDaemon, awaitReply_ok]
    rfl

end Logs

end Mxdx.Client.Daemon
