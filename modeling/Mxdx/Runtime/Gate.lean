import Mxdx.Foundations.Paths

/-! Which requests `LauncherRuntime` of the JavaScript launcher answers with a
process: the checks of its three routes, in their order, with the answers they
send. -/
namespace Mxdx.Runtime

open Path

/-- What the launcher allows. -/
structure LauncherConfig where
  allowedCommands : List String
  allowedCwd : List String
  maxSessions : Nat

/-- What the handlers know: the configuration, the shell of the environment, the
own user and the count of sessions, which is never capped from below. -/
structure Host where
  config : LauncherConfig
  shell : Option String
  userId : String
  activeSessions : Int

/-- A task as the launcher reads it, with nothing checked. -/
structure SessionTask where
  bin : Option String
  command : Option String
  args : List String
  cwd : Option String
  interactive : Bool

/-- A command of older clients. -/
structure CommandContent where
  action : Option String
  command : Option String
  args : List String
  cwd : Option String

/-- An event of the exec room, with its sender if it names one. -/
inductive ExecEvent where
  | task (sender : Option String) (task : SessionTask)
  | command (sender : Option String) (content : CommandContent)

/-- A process that is to be started; one in a terminal gets no arguments. -/
structure Launch where
  command : String
  args : List String
  cwd : String
deriving DecidableEq

inductive Refusal where
  /-- The error text of a result. -/
  | result (error : String)
  /-- A session response with the status `rejected`. -/
  | rejected
deriving DecidableEq

/-- The operator `||` on texts: an empty one counts as none. -/
def orText (text : Option String) (fallback : String) : String :=
  (text.filter (· ≠ "")).getD fallback

namespace Host

variable (host : Host)

/-- Zero counts as no limit given. -/
def maxSessions : Nat := if host.config.maxSessions = 0 then 10 else host.config.maxSessions

/-- No more sessions can begin. -/
def isFull : Bool := decide (host.maxSessions ≤ host.activeSessions)

/-- The name has to be on the list as it stands. -/
def isCommandAllowed (command : Option String) : Bool :=
  command.any fun command => host.config.allowedCommands.contains command

/-- Any text that begins like an allowed one. -/
def isCwdAllowed (cwd : String) : Bool :=
  host.config.allowedCwd.any fun allowed => allowed.toList.isPrefixOf cwd.toList

/-- The checks of the two routes that run a command and report its result. -/
def admitCommand (command : Option String) (args : List String) (cwd : Option String) :
    Except Refusal Launch :=
  let cwd := orText cwd "/tmp"
  let shown := command.getD "undefined"
  if !host.isCommandAllowed command then
    .error (.result ("Command '" ++ shown ++ "' is not allowed"))
  else if !host.isCwdAllowed cwd then
    .error (.result ("Working directory '" ++ cwd ++ "' is not allowed"))
  else if host.isFull then
    .error (.result ("Session limit reached (" ++ toString host.maxSessions ++ " max)"))
  else .ok ⟨shown, args, cwd⟩

/-- The default shell needs no permission. -/
def handleInteractiveSession (command cwd sender : Option String) : Except Refusal Launch :=
  let command := command.filter (· ≠ "")
  let cwd := orText cwd "/tmp"
  if command.isSome && !host.isCommandAllowed command then .error .rejected
  else if !host.isCwdAllowed cwd then .error .rejected
  else if host.isFull then .error .rejected
  else if (sender.filter (· ≠ "")).isNone then .error .rejected
  else .ok ⟨command.getD (orText host.shell "/bin/bash"), [], cwd⟩

/-- An interactive task goes another way than a command. -/
def handleSessionTask (task : SessionTask) (sender : Option String) : Except Refusal Launch :=
  let bin := (task.bin.filter (· ≠ "")).or task.command
  if task.interactive then host.handleInteractiveSession bin task.cwd sender
  else host.admitCommand bin task.args task.cwd

/-- What one event starts or is refused, if it asks for a process at all. The
launcher skips its own tasks. -/
def processCommand : ExecEvent → Option (Except Refusal Launch)
  | .task sender task =>
      if sender = some host.userId then none else some (host.handleSessionTask task sender)
  | .command sender content =>
      if content.action = some "list_sessions" ∨ content.action = some "reconnect" then none
      else if content.action = some "interactive" then
        some (host.handleInteractiveSession content.command content.cwd sender)
      else some (host.admitCommand content.command content.args content.cwd)

end Host

section Routes

variable {host : Host} {launch : Launch}

theorem maxSessions_pos (host : Host) : 0 < host.maxSessions := by
  unfold Host.maxSessions
  split <;> omega

theorem isCwdAllowed_iff {cwd : String} :
    host.isCwdAllowed cwd = true ↔
      ∃ allowed ∈ host.config.allowedCwd, allowed.toList <+: cwd.toList := by
  simp [Host.isCwdAllowed]

theorem lt_maxSessions_of_isFull (h : host.isFull = false) :
    host.activeSessions < host.maxSessions := by
  have hBelow : ¬ (host.maxSessions : Int) ≤ host.activeSessions := of_decide_eq_false h
  omega

theorem admitCommand_ok {command cwd : Option String} {args : List String}
    (h : host.admitCommand command args cwd = .ok launch) :
    host.isCwdAllowed launch.cwd = true ∧ host.isFull = false := by
  simp only [Host.admitCommand] at h
  split_ifs at h with hCommand hCwd hFull
  obtain rfl := Except.ok.inj h
  exact ⟨by simpa using hCwd, by simpa using hFull⟩

theorem handleInteractiveSession_ok {command cwd sender : Option String}
    (h : host.handleInteractiveSession command cwd sender = .ok launch) :
    host.isCwdAllowed launch.cwd = true ∧ host.isFull = false := by
  simp only [Host.handleInteractiveSession] at h
  split_ifs at h with hCommand hCwd hFull hSender
  obtain rfl := Except.ok.inj h
  exact ⟨by simpa using hCwd, by simpa using hFull⟩

/-- Every route checks the directory of its process, and that there is room for it. -/
theorem processCommand_ok {event : ExecEvent}
    (h : host.processCommand event = some (.ok launch)) :
    host.isCwdAllowed launch.cwd = true ∧ host.isFull = false := by
  cases event with
  | task sender task =>
      simp only [Host.processCommand, Host.handleSessionTask] at h
      split_ifs at h
      · exact handleInteractiveSession_ok (Option.some.inj h)
      · exact admitCommand_ok (Option.some.inj h)
  | command sender content =>
      simp only [Host.processCommand] at h
      split_ifs at h
      · exact handleInteractiveSession_ok (Option.some.inj h)
      · exact admitCommand_ok (Option.some.inj h)

end Routes

section Confinement

/-- Every process the launcher starts runs in an allowed directory or inside of
one. The launcher itself runs in `base`. -/
def Confined (base : List Text) (config : LauncherConfig) : Prop :=
  ∀ (host : Host) (event : ExecEvent) (launch : Launch), host.config = config →
    host.processCommand event = some (.ok launch) →
      ∃ allowed ∈ config.allowedCwd,
        resolve base allowed.toList <+: resolve base launch.cwd.toList

/-- `allowed` followed by steps up that end at the root. -/
def escape (base : List Text) (allowed : String) : Text :=
  let directory := (segments allowed.toList).foldl enter
    (if isAbsolute (allowed.toList ++ ['/']) then [] else base)
  allowed.toList ++ '/' :: List.intercalate ['/'] (List.replicate (directory.length + 1) up)

theorem resolve_escape (base : List Text) (allowed : String) :
    resolve base (escape base allowed) = [] := by
  have hStart : ∀ text : Text, isAbsolute (allowed.toList ++ '/' :: text) =
      isAbsolute (allowed.toList ++ ['/']) := by
    intro text
    cases allowed.toList <;> rfl
  have hUps : ∀ count, segments (List.intercalate ['/'] (List.replicate (count + 1) up)) =
      List.replicate (count + 1) up := by
    intro count
    apply List.splitOn_intercalate
    · intro segment hSegment
      rw [List.eq_of_mem_replicate hSegment]
      decide
    · simp
  simp only [resolve, escape, hStart]
  rw [segments, List.splitOn_append_cons_self, List.foldl_append, ← segments, ← segments, hUps]
  apply foldl_enter_ups
  omega

/-- The default shell is started in any directory whose text begins with an allowed one. -/
theorem exists_launch {config : LauncherConfig} {allowed : String}
    (hAllowed : allowed ∈ config.allowedCwd) {cwd : String} (hText : cwd ≠ "")
    (h : allowed.toList <+: cwd.toList) :
    ∃ (host : Host) (event : ExecEvent), host.config = config ∧
      host.processCommand event = some (.ok ⟨"/bin/bash", [], cwd⟩) := by
  let host : Host := ⟨config, none, "", 0⟩
  refine ⟨host, .command (some "@user") ⟨some "interactive", none, [], some cwd⟩, rfl, ?_⟩
  have hCwd : host.isCwdAllowed cwd = true := isCwdAllowed_iff.mpr ⟨allowed, hAllowed, h⟩
  have hText' : orText (some cwd) "/tmp" = cwd := by simp [orText, Option.filter, hText]
  have hRoom : host.isFull = false := by
    have hPos := maxSessions_pos host
    exact decide_eq_false (by show ¬ (host.maxSessions : Int) ≤ 0; omega)
  have hLaunch : host.handleInteractiveSession none (some cwd) (some "@user") =
      .ok ⟨"/bin/bash", [], cwd⟩ := by
    rw [Host.handleInteractiveSession, hText', hCwd, hRoom]
    rfl
  simp [Host.processCommand, hLaunch]

/-- The launcher confines its processes exactly if it allows no directory, or the
root and with it all of them: any other allowed directory can be left again. -/
theorem confined_iff_root (base : List Text) (config : LauncherConfig) :
    Confined base config ↔
      config.allowedCwd = [] ∨ ∃ allowed ∈ config.allowedCwd, resolve base allowed.toList = [] := by
  constructor
  · intro h
    cases hList : config.allowedCwd with
    | nil => exact .inl rfl
    | cons allowed others =>
        have hAllowed : allowed ∈ config.allowedCwd := by simp [hList]
        let cwd := String.ofList (escape base allowed)
        have hText : cwd ≠ "" := by
          intro hEmpty
          have hChars := congrArg String.toList hEmpty
          simp [cwd, escape] at hChars
        have hBegins : allowed.toList <+: cwd.toList := by simp [cwd, escape]
        obtain ⟨host, event, hHost, hLaunch⟩ := exists_launch hAllowed hText hBegins
        obtain ⟨wide, hWide, hInside⟩ := h host event _ hHost hLaunch
        rw [String.toList_ofList, resolve_escape, List.prefix_nil] at hInside
        exact .inr ⟨wide, hList ▸ hWide, hInside⟩
  · intro hCondition host event launch hHost hLaunch
    have hCwd : host.isCwdAllowed launch.cwd = true := (processCommand_ok hLaunch).1
    obtain ⟨allowed, hAllowed, -⟩ := isCwdAllowed_iff.mp hCwd
    rw [hHost] at hAllowed
    rcases hCondition with hNone | ⟨root, hRoot, hResolve⟩
    · simp [hNone] at hAllowed
    · exact ⟨root, hRoot, hResolve ▸ List.nil_prefix⟩

/-- From an allowed directory the way up leads to one that is not. -/
theorem not_confined_up : ¬ Confined [] ⟨["echo"], ["/tmp"], 5⟩ := by
  intro h
  obtain ⟨allowed, hAllowed, hInside⟩ :=
    h ⟨⟨["echo"], ["/tmp"], 5⟩, none, "@launcher", 0⟩
      (.command (some "@user") ⟨none, some "echo", [], some "/tmp/../etc"⟩)
      ⟨"echo", [], "/tmp/../etc"⟩ rfl (by decide +kernel)
  obtain rfl : allowed = "/tmp" := by simpa using hAllowed
  revert hInside
  decide

end Confinement

end Mxdx.Runtime
