import Mxdx.Worker.Executor
import Mathlib.Data.List.TakeWhile
import Mathlib.Logic.Function.Basic
import Mathlib.Data.Fin.Basic

/-! Sessions under tmux. `mxdx-exec` runs the command and sends its exit code
to a socket; a background task of the worker reads the line and writes it to a
file, which the worker reads once tmux no longer knows the session. -/
namespace Mxdx.Worker

abbrev Text := List Char

/-- Unicode's `White_Space`. -/
def isWhitespace (c : Char) : Bool :=
  (9 ≤ c.toNat && c.toNat ≤ 13) || (0x2000 ≤ c.toNat && c.toNat ≤ 0x200a) ||
    [0x20, 0x85, 0xa0, 0x1680, 0x2028, 0x2029, 0x202f, 0x205f, 0x3000].contains c.toNat

/-- `str::trim`. -/
def trim (text : Text) : Text :=
  ((text.dropWhile isWhitespace).reverse.dropWhile isWhitespace).reverse

/-- `{}` of a number. -/
def showInt : Int → Text
  | .ofNat number => Nat.toDigits 10 number
  | .negSucc number => '-' :: Nat.toDigits 10 (number + 1)

/-- A number without a sign. -/
def parseDigits (digits : Text) : Option Nat :=
  if digits ≠ [] ∧ digits.all Char.isDigit then some (Nat.ofDigitChars 10 digits 0) else none

/-- A number that fits. -/
def toI32 (number : Int) : Option Int32 :=
  if -2147483648 ≤ number ∧ number < 2147483648 then some (Int32.ofInt number) else none

/-- `str::parse::<i32>`: an optional sign, digits, and no overflow. -/
def parseI32 : Text → Option Int32
  | '-' :: digits => (parseDigits digits).bind fun number => toI32 (-number)
  | '+' :: digits => (parseDigits digits).bind fun number => toI32 number
  | digits => (parseDigits digits).bind fun number => toI32 number

theorem isDigit_of_mem_toDigits {number : Nat} {c : Char} (h : c ∈ Nat.toDigits 10 number) :
    c.isDigit = true :=
  Nat.isDigit_of_mem_toDigits (by decide) (by decide) h

theorem parseDigits_toDigits (number : Nat) :
    parseDigits (Nat.toDigits 10 number) = some number := by
  have hDigits : (Nat.toDigits 10 number).all Char.isDigit = true :=
    List.all_eq_true.mpr fun c hc => isDigit_of_mem_toDigits hc
  rw [parseDigits, if_pos ⟨Nat.toDigits_ne_nil, hDigits⟩, Nat.ofDigitChars_ten_toDigits]

/-- Digits are parsed as they stand: the first of them is no sign. -/
theorem parseI32_of_isDigit {digits : Text} (h : ∀ c ∈ digits, c.isDigit = true) :
    parseI32 digits = (parseDigits digits).bind fun number => toI32 number := by
  cases digits with
  | nil => rfl
  | cons first rest =>
      have hFirst := h first List.mem_cons_self
      unfold parseI32
      split
      · rename_i hEq
        injection hEq with hHead _
        rw [hHead] at hFirst
        exact absurd hFirst (by decide)
      · rename_i hEq
        injection hEq with hHead _
        rw [hHead] at hFirst
        exact absurd hFirst (by decide)
      · rfl

theorem toI32_toInt (code : Int32) : toI32 code.toInt = some code := by
  have hLow := code.le_toInt
  have hHigh := code.toInt_lt
  rw [toI32, if_pos ⟨hLow, hHigh⟩, Int32.ofInt_toInt]

theorem parseI32_minus (digits : Text) :
    parseI32 ('-' :: digits) = (parseDigits digits).bind fun number => toI32 (-number) := rfl

theorem parseI32_showInt (number : Int) : parseI32 (showInt number) = toI32 number := by
  cases number with
  | ofNat number =>
      simp only [showInt]
      rw [parseI32_of_isDigit fun c hc => isDigit_of_mem_toDigits hc, parseDigits_toDigits,
        Option.bind_some, Int.ofNat_eq_natCast]
  | negSucc number =>
      rw [showInt, parseI32_minus, parseDigits_toDigits, Option.bind_some, Int.negSucc_eq,
        Int.natCast_add, Int.natCast_one]

theorem isWhitespace_of_isDigit {c : Char} (h : c.isDigit = true) : isWhitespace c = false := by
  obtain ⟨hLow, hHigh⟩ : 48 ≤ c.toNat ∧ c.toNat ≤ 57 := by
    rw [Char.isDigit, Bool.and_eq_true, decide_eq_true_eq, decide_eq_true_eq] at h
    exact ⟨UInt32.le_iff_toNat_le.mp h.1, UInt32.le_iff_toNat_le.mp h.2⟩
  have hNotListed : c.toNat ∉
      [0x20, 0x85, 0xa0, 0x1680, 0x2028, 0x2029, 0x202f, 0x205f, 0x3000] := by
    intro hListed
    simp only [List.mem_cons, List.not_mem_nil, or_false] at hListed
    omega
  have hControl : ¬ (9 ≤ c.toNat ∧ c.toNat ≤ 13) := by omega
  have hSpaces : ¬ (0x2000 ≤ c.toNat ∧ c.toNat ≤ 0x200a) := by omega
  rw [Bool.eq_false_iff]
  intro hWhite
  simp only [isWhitespace, Bool.or_eq_true, Bool.and_eq_true, decide_eq_true_eq,
    List.contains_iff_mem] at hWhite
  rcases hWhite with (hWhite | hWhite) | hWhite
  · exact hControl hWhite
  · exact hSpaces hWhite
  · exact hNotListed hWhite

theorem isWhitespace_of_mem_showInt {number : Int} {c : Char} (h : c ∈ showInt number) :
    isWhitespace c = false := by
  cases number with
  | ofNat number => exact isWhitespace_of_isDigit (isDigit_of_mem_toDigits h)
  | negSucc number =>
      rcases List.mem_cons.mp h with rfl | h
      · decide
      · exact isWhitespace_of_isDigit (isDigit_of_mem_toDigits h)

theorem trim_of_no_whitespace {text : Text} (h : ∀ c ∈ text, isWhitespace c = false) :
    trim text = text := by
  have hDrop : ∀ {other : Text}, (∀ c ∈ other, isWhitespace c = false) →
      other.dropWhile isWhitespace = other := by
    intro other hOther
    cases other with
    | nil => rfl
    | cons first rest => simp [hOther first List.mem_cons_self]
  rw [trim, hDrop h, hDrop fun c hc => h c (List.mem_reverse.mp hc), List.reverse_reverse]

theorem trim_showInt (number : Int) : trim (showInt number) = showInt number :=
  trim_of_no_whitespace fun _ => isWhitespace_of_mem_showInt

/-- How a command ended, as `mxdx-exec` finds out. -/
inductive ProcessEnd where
  | spawnFailed
  | exited (code : Int32)
  | killed (signal : Fin 128)
  | waitFailed
deriving DecidableEq

/-- The code that `mxdx-exec` reports. -/
def ProcessEnd.exitCode : ProcessEnd → Int32
  | spawnFailed => 127
  | exited code => code
  | killed signal => 128 + Int32.ofNat signal
  | waitFailed => 1

/-- Only a command that exited with code 0 itself is reported with code 0. -/
theorem ProcessEnd.exitCode_eq_zero_iff {how : ProcessEnd} :
    how.exitCode = 0 ↔ how = .exited 0 := by
  cases how with
  | spawnFailed => decide
  | exited code => simp [exitCode]
  | killed signal => revert signal; decide
  | waitFailed => decide

/-- A file of the socket directory. -/
inductive File where
  | text (content : Text)
  | listener (sessionName : String)
  | tmuxSocket
deriving DecidableEq

/-- A session from the outside: whether tmux still has it, how its command
ended, the line on its way to the background task, the line that task has read,
and whether the session was cancelled. -/
structure Exec where
  alive : Bool
  ended : Option ProcessEnd
  notified : Bool
  line : Option Text
  received : Option Text
  cancelled : Bool
deriving DecidableEq

/-- A command that runs. -/
def Exec.new : Exec := ⟨true, none, false, none, none, false⟩

/-- Why `TmuxSession::create` gives up. That tmux refuses a name only happens
where an earlier worker has left a session. -/
inductive CreateError where
  | bindFailed (path : String)
  | mxdxExecNotFound
  | newSessionFailed
deriving DecidableEq

/-- A session of tmux, by its name and socket. -/
structure TmuxSession where
  sessionName : String
  socketPath : String
  exitNotifyPath : String
deriving DecidableEq

section Paths

variable (platform : Platform) (sessionName : String)

/-- Where tmux listens. -/
def socketPath : String := platform.socketDir ++ "/mxdx-" ++ sessionName

/-- Where the end of the session is told. -/
def exitNotifyPath : String := platform.socketDir ++ "/mxdx-" ++ sessionName ++ ".notify"

/-- What the exit code is written to. -/
def exitFile : String := platform.socketDir ++ "/mxdx-" ++ sessionName ++ ".exit"

end Paths

/-- The address of a Unix socket holds 108 bytes, the closing null included. -/
def sunPathLen : Nat := 108

/-- The standard library refuses null bytes and long paths before it asks the
system to bind. -/
def canBind (platform : Platform) (path : String) : Bool :=
  !path.toList.contains '\x00' && decide (path.utf8ByteSize < sunPathLen) && platform.bind path

/-- The files and processes of the host. -/
structure Host where
  files : String → Option File
  execs : String → Option Exec

/-- What happens around the worker, in any order. -/
inductive HostInput where
  | processEnds (sessionName : String) (how : ProcessEnd)
  | notifyExit (sessionName : String)
  | execExits (sessionName : String)
  | sessionLost (sessionName : String)
  | receiveLine (sessionName : String)
  | removeNotify (sessionName : String)

namespace Host

def removeFile (host : Host) (path : String) : Host :=
  { host with files := Function.update host.files path none }

def writeFile (host : Host) (path : String) (file : File) : Host :=
  { host with files := Function.update host.files path (some file) }

def setExec (host : Host) (sessionName : String) (exec : Exec) : Host :=
  { host with execs := Function.update host.execs sessionName (some exec) }

/-- Change a session that is there. -/
def modifyExec (host : Host) (sessionName : String) (change : Exec → Exec) : Host :=
  match host.execs sessionName with
  | some exec => host.setExec sessionName (change exec)
  | none => host

section Operations

variable (platform : Platform)

/-- `TmuxSession::create`: bind the listener, then start tmux. -/
def create (host : Host) (sessionName : String) :
    Except CreateError (Host × TmuxSession) :=
  let notifyPath := exitNotifyPath platform sessionName
  if !canBind platform notifyPath then .error (.bindFailed notifyPath)
  else if !platform.mxdxExecExists then .error .mxdxExecNotFound
  else
    let listening := host.writeFile notifyPath (.listener sessionName)
    let started := listening.writeFile (socketPath platform sessionName) .tmuxSocket
    .ok (started.setExec sessionName .new,
      ⟨sessionName, socketPath platform sessionName, notifyPath⟩)

theorem create_isOk_iff (host : Host) (sessionName : String) :
    (host.create platform sessionName).isOk = true ↔
      canBind platform (exitNotifyPath platform sessionName) = true ∧
        platform.mxdxExecExists = true := by
  cases hBind : canBind platform (exitNotifyPath platform sessionName) <;>
    cases hExec : platform.mxdxExecExists <;>
      simp [create, hBind, hExec, Except.isOk, Except.toBool]

/-- Whether tmux still has the session. -/
def isAlive (host : Host) (tmux : TmuxSession) : Bool :=
  ((host.execs tmux.sessionName).map Exec.alive).getD false

/-- A file that is missing or holds no number gives none. -/
def readExitCode (host : Host) (tmux : TmuxSession) : Option Int32 :=
  match host.files (exitFile platform tmux.sessionName) with
  | some (.text content) => parseI32 (trim content)
  | _ => none

/-- The first half of `kill`; the files go one by one afterwards. -/
def killSession (host : Host) (tmux : TmuxSession) : Host :=
  host.modifyExec tmux.sessionName fun exec => { exec with alive := false, cancelled := true }

/-- What a session leaves behind. -/
def filesToRemove (tmux : TmuxSession) : List String :=
  [tmux.socketPath, tmux.exitNotifyPath, exitFile platform tmux.sessionName]

/-- `notify_exit`: the line arrives where the listener is still bound. -/
def notifyExit (host : Host) (sessionName : String) (exec : Exec) (how : ProcessEnd) : Host :=
  host.setExec sessionName
    { exec with
      notified := true
      line :=
        if host.files (exitNotifyPath platform sessionName) = some (.listener sessionName) then
          some (showInt how.exitCode.toInt)
        else none }

/-- The host goes on by itself. -/
def step (host : Host) : HostInput → Host
  | .processEnds sessionName how =>
      host.modifyExec sessionName fun exec =>
        if exec.ended.isNone then { exec with ended := some how } else exec
  | .notifyExit sessionName =>
      match host.execs sessionName with
      | some exec =>
          match exec.ended with
          | some how =>
              if exec.notified then host else host.notifyExit platform sessionName exec how
          | none => host
      | none => host
  | .execExits sessionName =>
      host.modifyExec sessionName fun exec =>
        if exec.notified then { exec with alive := false } else exec
  | .sessionLost sessionName =>
      host.modifyExec sessionName fun exec => { exec with alive := false }
  | .receiveLine sessionName =>
      match host.execs sessionName with
      | some exec =>
          match exec.line with
          | some line =>
              (host.writeFile (exitFile platform sessionName) (.text (trim line))).setExec
                sessionName { exec with line := none, received := some line }
          | none => host
      | none => host
  | .removeNotify sessionName =>
      match host.execs sessionName with
      | some exec =>
          if exec.received.isSome then host.removeFile (exitNotifyPath platform sessionName)
          else host
      | none => host

end Operations

end Host

/-- What is on its way to the worker, or has been read there, is the code of a
command that has ended. -/
def Exec.Honest (exec : Exec) : Prop :=
  ∀ line, exec.line = some line ∨ exec.received = some line →
    ∃ how, exec.ended = some how ∧ line = showInt how.exitCode.toInt

namespace Host

/-- Every process is what it seems. -/
def Honest (host : Host) : Prop :=
  ∀ sessionName exec, host.execs sessionName = some exec → exec.Honest

theorem Honest.of_execs {host next : Host} (h : host.Honest) (hExecs : next.execs = host.execs) :
    next.Honest := by
  intro sessionName exec hExec
  rw [hExecs] at hExec
  exact h sessionName exec hExec

theorem Honest.setExec {host : Host} (h : host.Honest) (sessionName : String) {exec : Exec}
    (hExec : exec.Honest) : (host.setExec sessionName exec).Honest := by
  intro other found hFound
  by_cases hOther : other = sessionName
  · subst hOther
    simp only [Host.setExec, Function.update_self, Option.some.injEq] at hFound
    rwa [← hFound]
  · simp only [Host.setExec, Function.update_of_ne hOther] at hFound
    exact h other found hFound

theorem Honest.modifyExec {host : Host} (h : host.Honest) (sessionName : String)
    {change : Exec → Exec} (hChange : ∀ exec, exec.Honest → (change exec).Honest) :
    (host.modifyExec sessionName change).Honest := by
  unfold Host.modifyExec
  split
  · rename_i exec hExec
    exact h.setExec sessionName (hChange exec (h sessionName exec hExec))
  · exact h

theorem Honest.removeFiles {host : Host} (h : host.Honest) (paths : List String) :
    (paths.foldl removeFile host).Honest := by
  induction paths generalizing host with
  | nil => exact h
  | cons path rest ih => exact ih (h.of_execs rfl)

theorem Honest.killSession {host : Host} (h : host.Honest) (tmux : TmuxSession) :
    (host.killSession tmux).Honest :=
  h.modifyExec tmux.sessionName fun _ hExec => hExec

theorem eq_of_create {platform : Platform} {host next : Host} {sessionName : String}
    {tmux : TmuxSession} (hCreate : host.create platform sessionName = .ok (next, tmux)) :
    next = ((host.writeFile (exitNotifyPath platform sessionName) (.listener sessionName)).writeFile
        (socketPath platform sessionName) .tmuxSocket).setExec sessionName .new ∧
      tmux =
        ⟨sessionName, socketPath platform sessionName, exitNotifyPath platform sessionName⟩ := by
  simp only [Host.create] at hCreate
  split at hCreate
  · cases hCreate
  · split at hCreate
    · cases hCreate
    · injection hCreate with hPair
      injection hPair with hNext hTmux
      exact ⟨hNext.symm, hTmux.symm⟩

theorem Honest.create {platform : Platform} {host next : Host} {sessionName : String}
    {tmux : TmuxSession} (h : host.Honest)
    (hCreate : host.create platform sessionName = .ok (next, tmux)) : next.Honest := by
  rw [(eq_of_create hCreate).1]
  apply Honest.setExec (h.of_execs rfl)
  intro line hLine
  simp [Exec.new] at hLine

/-- The line that the exit hook sends is the code of the command. -/
theorem Honest.notifyExit {platform : Platform} {host : Host} (h : host.Honest)
    {sessionName : String} {exec : Exec} {how : ProcessEnd}
    (hExec : host.execs sessionName = some exec) (hEnded : exec.ended = some how) :
    (host.notifyExit platform sessionName exec how).Honest := by
  apply h.setExec
  intro line hLine
  refine ⟨how, hEnded, ?_⟩
  rcases hLine with hLine | hLine
  · simp only [Option.ite_none_right_eq_some, Option.some.injEq] at hLine
    exact hLine.2.symm
  · obtain ⟨other, hOther, hText⟩ := h sessionName exec hExec line (.inr hLine)
    rw [hEnded, Option.some.injEq] at hOther
    rw [hText, hOther]

/-- The line that is read is the one that was sent. -/
theorem Honest.receiveLine {host : Host} (h : host.Honest) {sessionName path : String}
    {file : File} {exec : Exec} {line : Text} (hExec : host.execs sessionName = some exec)
    (hLine : exec.line = some line) :
    ((host.writeFile path file).setExec sessionName
      { exec with line := none, received := some line }).Honest := by
  apply Honest.setExec (h.of_execs rfl)
  intro other hOther
  simp only [reduceCtorEq, Option.some.injEq, false_or] at hOther
  exact h sessionName exec hExec other (.inl (hOther ▸ hLine))

theorem Honest.step {platform : Platform} {host : Host} (h : host.Honest) (input : HostInput) :
    (host.step platform input).Honest := by
  cases input with
  | processEnds sessionName how =>
      apply h.modifyExec
      intro exec hExec
      split
      · rename_i hNone
        intro line hLine
        -- nothing is sent before the command has ended
        obtain ⟨other, hEnded, -⟩ := hExec line hLine
        simp [hEnded] at hNone
      · exact hExec
  | notifyExit sessionName =>
      simp only [Host.step]
      split
      · rename_i exec hExec
        split
        · rename_i how hEnded
          split
          · exact h
          · exact h.notifyExit hExec hEnded
        · exact h
      · exact h
  | execExits sessionName =>
      apply h.modifyExec
      intro exec hExec
      split
      · exact hExec
      · exact hExec
  | sessionLost sessionName => exact h.modifyExec sessionName fun _ hExec => hExec
  | receiveLine sessionName =>
      simp only [Host.step]
      split
      · rename_i exec hExec
        split
        · rename_i line hLine
          exact h.receiveLine hExec hLine
        · exact h
      · exact h
  | removeNotify sessionName =>
      simp only [Host.step]
      split
      · split
        · exact h.of_execs rfl
        · exact h
      · exact h

/-- The exit file that the background task has written is read back as the
code the command ended with. -/
theorem readExitCode_of_received {platform : Platform} {host : Host} {tmux : TmuxSession}
    {line : Text} {how : ProcessEnd} (hLine : line = showInt how.exitCode.toInt)
    (hFile : host.files (exitFile platform tmux.sessionName) = some (.text (trim line))) :
    host.readExitCode platform tmux = some how.exitCode := by
  simp only [readExitCode, hFile, hLine, trim_showInt]
  rw [parseI32_showInt, toI32_toInt]

end Host

end Mxdx.Worker
