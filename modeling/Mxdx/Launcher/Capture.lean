import Mxdx.Launcher.Executor
import Mathlib.Logic.Function.Basic

/-! How the launcher's crate collects the output of a command. Its loop takes
lines from both streams as they arrive, in the order of a schedule; when one
stream ends, another loop reads the rest of the other one. -/
namespace Mxdx.Launcher

/-- The two streams of a process. -/
inductive Source where
  | stdout
  | stderr
deriving DecidableEq

namespace Source

def label : Source → String
  | stdout => "stdout"
  | stderr => "stderr"

def other : Source → Source
  | stdout => stderr
  | stderr => stdout

end Source

/-- What `next_line` reads before the end: a line, or an error such as bytes that
are not UTF-8. -/
abbrev Line := Except String String

/-- The two lists of lines, and the number of lines. -/
structure Collected where
  lines : Source → List String
  seq : Nat

namespace Collected

/-- No line has come yet. -/
def empty : Collected := ⟨fun _ => [], 0⟩

/-- A line is numbered across both streams. -/
def push (got : Collected) (side : Source) (line : String) : Collected :=
  ⟨Function.update got.lines side (got.lines side ++ [line]), got.seq + 1⟩

/-- The loop over one stream alone; it stops at the end and at an error. -/
def drain (got : Collected) (side : Source) : List Line → Collected
  | .ok line :: rest => (got.push side line).drain side rest
  | _ => got

/-- The loop over both streams. Nothing comes out as long as the schedule ends
before the loop does. -/
def collect (streams : Source → List Line) (got : Collected) :
    List Source → Option (Except String Collected)
  | [] => none
  | side :: schedule =>
      match streams side with
      | .ok line :: rest =>
          (got.push side line).collect (Function.update streams side rest) schedule
      | [] => some (.ok (got.drain side.other (streams side.other)))
      | .error error :: _ => some (.error (side.label ++ " read error: " ++ error))

end Collected

/-- A running child: what it writes, and the answer to `wait`. -/
structure Child where
  streams : Source → List Line
  wait : Except String (Option Int)

/-- What is told of a command that has run. -/
structure CommandResult where
  exitCode : Option Int
  stdoutLines : List String
  stderrLines : List String
  totalSeq : Nat
deriving DecidableEq

/-- The lines are told only if the process could be waited for. -/
def Collected.finish (got : Collected) (wait : Except String (Option Int)) :
    Except String CommandResult :=
  match wait with
  | .error error => .error ("wait failed: " ++ error)
  | .ok exitCode => .ok ⟨exitCode, got.lines .stdout, got.lines .stderr, got.seq⟩

/-- A command that has been spawned, or could not be. -/
def executeCommand (spawned : Except String Child) (schedule : List Source) :
    Option (Except String CommandResult) :=
  match spawned with
  | .error error => some (.error ("spawn failed: " ++ error))
  | .ok child =>
      (Collected.empty.collect child.streams schedule).map fun collected =>
        collected.bind (·.finish child.wait)

/-- Everything on the stream is a line. -/
def Valid (stream : List Line) : Prop := ∃ text : List String, stream = text.map .ok

section Streams

variable {streams : Source → List Line} {got : Collected} {side : Source}

theorem valid_or_first_error (stream : List Line) :
    Valid stream ∨ ∃ text : List String, ∃ error rest,
      stream = text.map .ok ++ .error error :: rest := by
  induction stream with
  | nil => exact .inl ⟨[], rfl⟩
  | cons line stream ih =>
      cases line with
      | error error => exact .inr ⟨[], error, stream, rfl⟩
      | ok line =>
          rcases ih with ⟨text, rfl⟩ | ⟨text, error, rest, rfl⟩
          · exact .inl ⟨line :: text, rfl⟩
          · exact .inr ⟨line :: text, error, rest, rfl⟩

namespace Collected

/-- The lines of a text, one after the other. -/
def pushAll (got : Collected) (side : Source) (text : List String) : Collected :=
  text.foldl (·.push side ·) got

theorem lines_pushAll (text : List String) :
    (got.pushAll side text).lines =
      Function.update got.lines side (got.lines side ++ text) := by
  induction text generalizing got with
  | nil => simp [pushAll]
  | cons line text ih =>
      have hPush : (got.push side line).lines =
        Function.update got.lines side (got.lines side ++ [line]) := rfl
      show ((got.push side line).pushAll side text).lines = _
      rw [ih, hPush, Function.update_idem, Function.update_self, List.append_assoc]
      rfl

theorem seq_pushAll (text : List String) :
    (got.pushAll side text).seq = got.seq + text.length := by
  induction text generalizing got with
  | nil => rfl
  | cons line text ih =>
      have hPush : (got.push side line).seq = got.seq + 1 := rfl
      show ((got.push side line).pushAll side text).seq = _
      rw [ih, hPush, List.length_cons]
      omega

theorem drain_map_ok (text : List String) :
    got.drain side (text.map .ok) = got.pushAll side text := by
  induction text generalizing got with
  | nil => rfl
  | cons line text ih => exact ih

theorem push_append {text : Source → List String} {line : String} {rest : List String}
    (hText : text side = line :: rest) :
    (fun s => (got.push side line).lines s ++ Function.update text side rest s) =
      fun s => got.lines s ++ text s := by
  funext s
  by_cases hSide : s = side
  · subst hSide
    simp [push, hText]
  · simp [push, hSide]

/-- Where both streams are valid, the loops collect both in full. -/
theorem collect_valid {text : Source → List String} (schedule : List Source)
    {result : Except String Collected}
    (h : got.collect (fun s => (text s).map .ok) schedule = some result) :
    ∃ all, result = .ok all ∧ all.lines = (fun s => got.lines s ++ text s) ∧
      all.seq = got.seq + ((text .stdout).length + (text .stderr).length) := by
  induction schedule generalizing got text with
  | nil => cases h
  | cons side schedule ih =>
      cases hText : text side with
      | nil =>
          simp only [collect, hText, List.map_nil, drain_map_ok] at h
          obtain rfl := Option.some.inj h
          refine ⟨_, rfl, ?_, ?_⟩
          · rw [lines_pushAll]
            funext s
            cases side <;> cases s <;> simp [Source.other, hText]
          · rw [seq_pushAll]
            cases side <;> simp [Source.other, hText]
      | cons line rest =>
          have hStreams : Function.update (fun s => (text s).map Except.ok) side
              (rest.map Except.ok) =
              fun s => (Function.update text side rest s).map (Except.ok : String → Line) := by
            funext s
            by_cases hSide : s = side
            · subst hSide
              simp
            · simp [hSide]
          simp only [collect, hText, List.map_cons] at h
          rw [hStreams] at h
          obtain ⟨all, hAll, hLines, hSeq⟩ := ih h
          refine ⟨all, hAll, ?_, ?_⟩
          · rw [hLines, push_append hText]
          · rw [hSeq]
            cases side <;> simp [push, hText] <;> omega

/-- A schedule that asks one stream only comes to its first error. -/
theorem collect_error {text : List String} {error : String} {rest : List Line}
    (hStream : streams side = text.map .ok ++ .error error :: rest) :
    got.collect streams (List.replicate (text.length + 1) side) =
      some (.error (side.label ++ " read error: " ++ error)) := by
  induction text generalizing streams got with
  | nil => simp [collect, hStream]
  | cons line text ih =>
      rw [List.length_cons, List.replicate_succ, collect, hStream]
      exact ih (Function.update_self ..)

/-- Or to its end, and then drains the other stream. -/
theorem collect_end {text : List String} (hStream : streams side = text.map .ok) :
    ∃ all, got.collect streams (List.replicate (text.length + 1) side) = some (.ok all) := by
  induction text generalizing streams got with
  | nil => exact ⟨_, by simp [collect, hStream]; rfl⟩
  | cons line text ih =>
      rw [List.length_cons, List.replicate_succ, collect, hStream]
      exact ih (Function.update_self ..)

/-- The loops come to an end when every line can be asked for. -/
theorem isSome_collect (schedule : List Source)
    (hLength : (streams .stdout).length + (streams .stderr).length < schedule.length) :
    (got.collect streams schedule).isSome = true := by
  induction schedule generalizing streams got with
  | nil => cases hLength
  | cons side schedule ih =>
      unfold collect
      split
      next line rest hStream =>
        apply ih
        cases side <;> simp [hStream] at hLength ⊢ <;> omega
      · rfl
      · rfl

end Collected

end Streams

section Timing

variable {child : Child}

/-- A result that is not an error holds all lines of both streams. -/
def Child.Complete (child : Child) (result : Except String CommandResult) : Prop :=
  ∀ collected, result = .ok collected →
    child.streams .stdout = collected.stdoutLines.map .ok ∧
      child.streams .stderr = collected.stderrLines.map .ok ∧
      collected.totalSeq = collected.stdoutLines.length + collected.stderrLines.length

/-- Whatever the order in which the lines arrive, the result is the same, and complete. -/
def TimingIndependent (spawned : Except String Child) : Prop :=
  ∀ first second firstResult secondResult,
    executeCommand spawned first = some firstResult →
    executeCommand spawned second = some secondResult →
      firstResult = secondResult ∧ ∀ child, spawned = .ok child → child.Complete firstResult

/-- Every command comes to a result. -/
theorem isSome_executeCommand {schedule : List Source}
    (hLength : (child.streams .stdout).length + (child.streams .stderr).length <
      schedule.length) :
    (executeCommand (.ok child) schedule).isSome = true := by
  rw [executeCommand, Option.isSome_map]
  exact Collected.isSome_collect schedule hLength

theorem executeCommand_valid {text : Source → List String}
    (hText : ∀ side, child.streams side = (text side).map .ok) {schedule : List Source}
    {result : Except String CommandResult}
    (h : executeCommand (.ok child) schedule = some result) :
    result = Collected.finish
      ⟨text, (text .stdout).length + (text .stderr).length⟩ child.wait := by
  obtain ⟨collected, hCollect, rfl⟩ := Option.map_eq_some_iff.mp h
  rw [show child.streams = fun side => (text side).map .ok from funext hText] at hCollect
  obtain ⟨⟨lines, seq⟩, rfl, hLines, hSeq⟩ := Collected.collect_valid schedule hCollect
  have hAll : lines = text := hLines
  have hCount : seq = (text .stdout).length + (text .stderr).length :=
    hSeq.trans (Nat.zero_add _)
  rw [hAll, hCount]
  rfl

theorem complete_finish {text : Source → List String}
    (hText : ∀ side, child.streams side = (text side).map .ok) :
    child.Complete (Collected.finish
      ⟨text, (text .stdout).length + (text .stderr).length⟩ child.wait) := by
  intro collected hOk
  unfold Collected.finish at hOk
  split at hOk
  · cases hOk
  · cases hOk
    exact ⟨hText .stdout, hText .stderr, rfl⟩

/-- Only an error of a stream is told with the name of that stream. -/
theorem label_ne (side : Source) (error other : String) :
    side.label ++ " read error: " ++ error ≠ side.other.label ++ " read error: " ++ other ∧
      side.label ++ " read error: " ++ error ≠ "wait failed: " ++ other := by
  constructor
  · intro h
    have hChar := congrArg (fun text => text.toList[3]?) h
    cases side <;> simp [Source.label, Source.other] at hChar
  · intro h
    have hChar := congrArg (fun text => text.toList[0]?) h
    cases side <;> simp [Source.label] at hChar

/-- An error on a stream comes out when that stream is asked first, and not when
the other one is. -/
theorem exists_other_result {side : Source} (hError : ¬ Valid (child.streams side)) :
    ∃ first second error other,
      executeCommand (.ok child) first =
        some (.error (side.label ++ " read error: " ++ error)) ∧
      executeCommand (.ok child) second = some other ∧
      other ≠ .error (side.label ++ " read error: " ++ error) := by
  rcases valid_or_first_error (child.streams side) with hValid | ⟨text, error, rest, hStream⟩
  · exact absurd hValid hError
  · have hReported : executeCommand (.ok child) (List.replicate (text.length + 1) side) =
        some (.error (side.label ++ " read error: " ++ error)) := by
      rw [executeCommand, Collected.collect_error hStream]
      rfl
    rcases valid_or_first_error (child.streams side.other) with
      ⟨others, hOther⟩ | ⟨others, otherError, otherRest, hOther⟩
    · obtain ⟨all, hAll⟩ := @Collected.collect_end child.streams .empty _ _ hOther
      have hSilent : executeCommand (.ok child) (List.replicate (others.length + 1) side.other) =
          some (all.finish child.wait) := by
        rw [executeCommand, hAll]
        rfl
      refine ⟨_, _, error, _, hReported, hSilent, ?_⟩
      unfold Collected.finish
      split
      · intro hSame
        exact (label_ne side error _).2 (Except.error.inj hSame).symm
      · nofun
    · have hOtherReported : executeCommand (.ok child)
          (List.replicate (others.length + 1) side.other) =
          some (.error (side.other.label ++ " read error: " ++ otherError)) := by
        rw [executeCommand, Collected.collect_error hOther]
        rfl
      refine ⟨_, _, error, _, hReported, hOtherReported, fun hSame => ?_⟩
      exact (label_ne side error otherError).1 (Except.error.inj hSame).symm

/-- The result is independent of the timing exactly for a command that cannot be
spawned and for one that writes nothing but lines. -/
theorem timingIndependent_iff (spawned : Except String Child) :
    TimingIndependent spawned ↔
      ∀ child, spawned = .ok child → ∀ side, Valid (child.streams side) := by
  constructor
  · rintro h child rfl side
    by_contra hError
    obtain ⟨first, second, error, other, hFirst, hSecond, hNe⟩ := exists_other_result hError
    exact hNe (h _ _ _ _ hFirst hSecond).1.symm
  · intro h first second firstResult secondResult hFirst hSecond
    cases spawned with
    | error error =>
        refine ⟨?_, nofun⟩
        exact Option.some.inj (hFirst.symm.trans hSecond)
    | ok child =>
        choose text hText using h child rfl
        rw [executeCommand_valid hText hFirst, executeCommand_valid hText hSecond]
        refine ⟨rfl, ?_⟩
        rintro _ ⟨⟩
        exact complete_finish hText

/-- One line on each stream, the one on `stderr` not UTF-8. -/
def mixed : Child where
  streams
    | .stdout => [.ok "built"]
    | .stderr => [.error "stream did not contain valid UTF-8"]
  wait := .ok (some 0)

/-- The error is reported or passed over in silence. -/
theorem not_timingIndependent_mixed : ¬ TimingIndependent (.ok mixed) := by
  intro h
  have hSilent : executeCommand (.ok mixed) [.stdout, .stdout] =
      some (.ok ⟨some 0, ["built"], [], 1⟩) := rfl
  have hReported : executeCommand (.ok mixed) [.stderr] =
      some (.error "stderr read error: stream did not contain valid UTF-8") := by decide
  cases (h _ _ _ _ hSilent hReported).1

end Timing

end Mxdx.Launcher
