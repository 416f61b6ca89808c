import Mathlib.Logic.Function.Basic

/-! Several writers send their messages to one stream, a message a line. A writer writes the
message first and what ends its line later, or its line bit by bit. As long as nobody writes
between, the lines are the messages; two messages on one line stay there. -/
namespace SharedLines

variable {Writer : Type}

/-- The messages that wait, of each writer what its message lacks, the text of the stream,
and the messages that stand in it. -/
structure Stream (Writer : Type) where
  queue : Writer → List (List Char)
  pending : Writer → Option (List Char)
  out : List Char
  written : List (Writer × List Char)

namespace Stream

/-- Nothing is queued or written. -/
def new : Stream Writer := ⟨fun _ => [], fun _ => none, [], []⟩

section Operations

variable [DecidableEq Writer]

/-- A text waits for its writer. -/
def push (stream : Stream Writer) (writer : Writer) (text : List Char) : Stream Writer :=
  { stream with queue := Function.update stream.queue writer (stream.queue writer ++ [text]) }

/-- The next message of the writer, unless its last one is not yet complete. -/
def write (ending : List Char → List Char) (stream : Stream Writer) (writer : Writer) :
    Stream Writer :=
  match stream.pending writer, stream.queue writer with
  | none, text :: rest =>
      { queue := Function.update stream.queue writer rest
        pending := Function.update stream.pending writer (some (ending text))
        out := stream.out ++ text
        written := stream.written ++ [(writer, text)] }
  | _, _ => stream

/-- The line of the writer is ended. -/
def finish (stream : Stream Writer) (writer : Writer) : Stream Writer :=
  match stream.pending writer with
  | some ending =>
      { stream with
        pending := Function.update stream.pending writer none
        out := stream.out ++ ending }
  | none => stream

/-- The same of a writer that has not written anything of the line yet. -/
def start (ending : List Char → List Char) (stream : Stream Writer) (writer : Writer) :
    Stream Writer :=
  match stream.pending writer, stream.queue writer with
  | none, text :: rest =>
      { stream with
        queue := Function.update stream.queue writer rest
        pending := Function.update stream.pending writer (some (text ++ ending text))
        written := stream.written ++ [(writer, text)] }
  | _, _ => stream

/-- So many characters more of a line; of a character that is cut nothing counts as
written. -/
def advance (stream : Stream Writer) (writer : Writer) (count : Nat) : Stream Writer :=
  match stream.pending writer with
  | some left =>
      let rest := left.drop count
      { stream with
        pending := Function.update stream.pending writer (if rest = [] then none else some rest)
        out := stream.out ++ left.take count }
  | none => stream

end Operations

/-- Every line is complete. -/
def Quiet (stream : Stream Writer) : Prop := ∀ writer, stream.pending writer = none

/-- The texts that were begun, in that order. -/
def texts (stream : Stream Writer) : List (List Char) := stream.written.map Prod.snd

/-- The messages of a writer that stand in the stream. -/
def writtenBy [DecidableEq Writer] (stream : Stream Writer) (writer : Writer) :
    List (List Char) :=
  (stream.written.filter (·.1 = writer)).map Prod.snd

/-- The stream consists of its messages, a line each; the last one may lack its line feed. -/
def Whole (stream : Stream Writer) : Prop :=
  (stream.Quiet ∧ stream.out = stream.texts.flatMap (· ++ ['\n'])) ∨
    ∃ writer, stream.pending writer = some ['\n'] ∧
      (∀ other, other ≠ writer → stream.pending other = none) ∧
      stream.out ++ ['\n'] = stream.texts.flatMap (· ++ ['\n'])

/-- Every message has its line, but for the last one: of its line a `part` may be there, and
the rest is what its writer has left to write. -/
def Single (stream : Stream Writer) : Prop :=
  (stream.Quiet ∧ stream.out = stream.texts.flatMap (· ++ ['\n'])) ∨
    ∃ (writer : Writer) (done : List (Writer × List Char)) (text part left : List Char),
      stream.pending writer = some left ∧ left ≠ [] ∧
      (∀ other, other ≠ writer → stream.pending other = none) ∧
      stream.written = done ++ [(writer, text)] ∧
      stream.out = (done.map Prod.snd).flatMap (· ++ ['\n']) ++ part ∧
      part ++ left = text ++ ['\n']

/-- A line begins with two messages. -/
def Glued (stream : Stream Writer) : Prop :=
  ∃ (done : List (List Char)) (first second after : List Char),
    stream.out = done.flatMap (· ++ ['\n']) ++ first ++ second ++ after ∧
      done ⊆ stream.texts ∧ first ∈ stream.texts ∧ second ∈ stream.texts

/-- In the order in which the writer was given them: the messages that it has written, and
those that wait. -/
def Holds [DecidableEq Writer] (stream : Stream Writer) (writer : Writer)
    (texts : List (List Char)) : Prop :=
  stream.writtenBy writer ++ stream.queue writer = texts

variable {stream : Stream Writer}

theorem whole_new : Whole (new : Stream Writer) := .inl ⟨fun _ => rfl, rfl⟩

theorem single_new : Single (new : Stream Writer) := .inl ⟨fun _ => rfl, rfl⟩

theorem Single.whole (h : stream.Single) (hQuiet : stream.Quiet) : stream.Whole := by
  rcases h with hDone | ⟨writer, _, _, _, _, hPending, -⟩
  · exact .inl hDone
  · rw [hQuiet writer] at hPending
    cases hPending

theorem texts_concat (stream : Stream Writer) (writer : Writer) (text : List Char) :
    ((stream.written ++ [(writer, text)]).map Prod.snd) = stream.texts ++ [text] := by
  simp [texts]

section Steps

variable [DecidableEq Writer] {writer : Writer} {ending : List Char → List Char}

theorem Whole.push (h : stream.Whole) (writer : Writer) (text : List Char) :
    (stream.push writer text).Whole := h

theorem write_of_pending {last : List Char} (h : stream.pending writer = some last) :
    stream.write ending writer = stream := by
  simp [write, h]

theorem write_of_empty (h : stream.queue writer = []) :
    stream.write ending writer = stream := by
  unfold write
  split
  · rename_i hQueue
    rw [h] at hQueue
    cases hQueue
  · rfl

theorem write_of_next {text : List Char} {rest : List (List Char)}
    (hPending : stream.pending writer = none) (hQueue : stream.queue writer = text :: rest) :
    stream.write ending writer =
      { queue := Function.update stream.queue writer rest
        pending := Function.update stream.pending writer (some (ending text))
        out := stream.out ++ text
        written := stream.written ++ [(writer, text)] } := by
  simp [write, hPending, hQueue]

/-- A message that is begun on a new line. -/
theorem Whole.write (h : stream.Whole) (hQuiet : stream.Quiet)
    (hEnding : ∀ text ∈ stream.queue writer, ending text = ['\n']) :
    (stream.write ending writer).Whole := by
  cases hQueue : stream.queue writer with
  | nil => rwa [write_of_empty hQueue]
  | cons text rest =>
      have hOut : stream.out = stream.texts.flatMap (· ++ ['\n']) := by
        rcases h with ⟨-, hOut⟩ | ⟨other, hOther, -⟩
        · exact hOut
        · rw [hQuiet other] at hOther
          cases hOther
      have hText : ending text = ['\n'] := hEnding text (by rw [hQueue]; exact List.mem_cons_self)
      rw [write_of_next (hQuiet writer) hQueue]
      refine .inr ⟨writer, ?_, ?_, ?_⟩
      · exact (Function.update_self ..).trans (congrArg some hText)
      · intro other hOther
        exact (Function.update_of_ne hOther _ _).trans (hQuiet other)
      · rw [Stream.texts, texts_concat, List.flatMap_append, ← hOut, List.flatMap_singleton,
          List.append_assoc]

theorem Whole.finish (h : stream.Whole) (writer : Writer) : (stream.finish writer).Whole := by
  cases hPending : stream.pending writer with
  | none => simpa [Stream.finish, hPending] using h
  | some last =>
      rcases h with ⟨hQuiet, -⟩ | ⟨other, hOther, hRest, hOut⟩
      · rw [hQuiet writer] at hPending
        cases hPending
      · have hSame : writer = other := by
          by_contra hNe
          rw [hRest writer hNe] at hPending
          cases hPending
        subst hSame
        obtain rfl : ['\n'] = last := Option.some.inj (hOther.symm.trans hPending)
        simp only [Stream.finish, hPending]
        refine .inl ⟨fun next => ?_, hOut⟩
        by_cases hNext : next = writer
        · rw [hNext]
          exact Function.update_self ..
        · exact (Function.update_of_ne hNext _ _).trans (hRest next hNext)

/-- A message that is begun behind another on its line. -/
theorem Whole.glued_write (h : stream.Whole) {other : Writer} {text : List Char}
    {rest : List (List Char)} (hOther : stream.pending other ≠ none)
    (hPending : stream.pending writer = none) (hQueue : stream.queue writer = text :: rest) :
    (stream.write ending writer).Glued := by
  rcases h with ⟨hQuiet, -⟩ | ⟨last, -, -, hOut⟩
  · exact absurd (hQuiet other) hOther
  · rw [write_of_next hPending hQueue]
    rcases List.eq_nil_or_concat stream.texts with hNone | ⟨done, first, hTexts⟩
    · rw [hNone, List.flatMap_nil] at hOut
      exact absurd hOut (by simp)
    · rw [List.concat_eq_append] at hTexts
      rw [hTexts, List.flatMap_append, List.flatMap_singleton, ← List.append_assoc] at hOut
      have hLine : stream.out = done.flatMap (· ++ ['\n']) ++ first := List.append_cancel_right hOut
      refine ⟨done, first, text, [], ?_, ?_, ?_, ?_⟩
      · rw [List.append_nil, ← hLine]
      · intro before hBefore
        rw [Stream.texts, texts_concat, hTexts]
        exact List.mem_append_left _ (List.mem_append_left _ hBefore)
      · rw [Stream.texts, texts_concat, hTexts]
        simp
      · rw [Stream.texts, texts_concat]
        simp

@[simp] theorem pending_finish (stream : Stream Writer) (writer : Writer) :
    (stream.finish writer).pending writer = none := by
  cases hPending : stream.pending writer with
  | none => simp [finish, hPending]
  | some ending => simp [finish, hPending]

theorem start_of_pending {last : List Char} (h : stream.pending writer = some last) :
    stream.start ending writer = stream := by
  simp [start, h]

theorem start_of_empty (h : stream.queue writer = []) : stream.start ending writer = stream := by
  unfold start
  split
  · rename_i hQueue
    rw [h] at hQueue
    cases hQueue
  · rfl

/-- A message is begun when every line is complete. -/
theorem Single.start (h : stream.Single) (hQuiet : stream.Quiet)
    (hEnding : ∀ text ∈ stream.queue writer, ending text = ['\n']) :
    (stream.start ending writer).Single := by
  cases hQueue : stream.queue writer with
  | nil => rwa [start_of_empty hQueue]
  | cons text rest =>
      have hOut : stream.out = stream.texts.flatMap (· ++ ['\n']) := by
        rcases h with ⟨-, hOut⟩ | ⟨other, _, _, _, _, hOther, -⟩
        · exact hOut
        · rw [hQuiet other] at hOther
          cases hOther
      have hText : ending text = ['\n'] := hEnding text (by rw [hQueue]; exact List.mem_cons_self)
      simp only [Stream.start, hQuiet writer, hQueue]
      refine .inr ⟨writer, stream.written, text, [], text ++ ending text, ?_, ?_, ?_, rfl, ?_, ?_⟩
      · exact Function.update_self ..
      · simp [hText]
      · intro other hOther
        exact (Function.update_of_ne hOther _ _).trans (hQuiet other)
      · rw [List.append_nil]
        exact hOut
      · rw [List.nil_append, hText]

/-- What is written of a line goes on where the line stands. -/
theorem Single.advance (h : stream.Single) (writer : Writer) (count : Nat) :
    (stream.advance writer count).Single := by
  cases hPending : stream.pending writer with
  | none => simpa [Stream.advance, hPending] using h
  | some rest =>
      rcases h with ⟨hQuiet, -⟩ | ⟨other, done, text, part, left, hOther, -, hRest, hWritten,
        hOut, hLine⟩
      · rw [hQuiet writer] at hPending
        cases hPending
      · have hSame : writer = other := by
          by_contra hNe
          rw [hRest writer hNe] at hPending
          cases hPending
        subst hSame
        obtain rfl : left = rest := Option.some.inj (hOther.symm.trans hPending)
        have hParts : left.take count ++ left.drop count = left := List.take_append_drop count left
        simp only [Stream.advance, hPending]
        by_cases hDone : left.drop count = []
        · refine .inl ⟨fun next => ?_, ?_⟩
          · by_cases hNext : next = writer
            · rw [hNext]
              exact (Function.update_self ..).trans (if_pos hDone)
            · exact (Function.update_of_ne hNext _ _).trans (hRest next hNext)
          · rw [hDone, List.append_nil] at hParts
            rw [hParts, hOut, List.append_assoc, hLine, texts, hWritten, List.map_append,
              List.flatMap_append]
            simp
        · refine .inr ⟨writer, done, text, part ++ left.take count, left.drop count, ?_, hDone,
            ?_, hWritten, ?_, ?_⟩
          · exact (Function.update_self ..).trans (if_neg hDone)
          · intro next hNext
            exact (Function.update_of_ne hNext _ _).trans (hRest next hNext)
          · rw [hOut, List.append_assoc]
          · rw [List.append_assoc, hParts, hLine]

theorem pending_start_ne (stream : Stream Writer) (ending : List Char → List Char)
    {other : Writer} (hNe : other ≠ writer) :
    (stream.start ending writer).pending other = stream.pending other := by
  unfold start
  split
  · exact Function.update_of_ne hNe _ _
  · rfl

theorem pending_advance_ne (stream : Stream Writer) (count : Nat) {other : Writer}
    (hNe : other ≠ writer) :
    (stream.advance writer count).pending other = stream.pending other := by
  unfold advance
  split
  · exact Function.update_of_ne hNe _ _
  · rfl

section Order

variable {texts : List (List Char)}

theorem holds_new (writer : Writer) : Holds (new : Stream Writer) writer [] := rfl

theorem Holds.push (h : stream.Holds writer texts) (text : List Char) :
    (stream.push writer text).Holds writer (texts ++ [text]) := by
  rw [Holds] at h ⊢
  rw [← h, List.append_assoc]
  simp [Stream.push, writtenBy]

theorem Holds.push_ne (h : stream.Holds writer texts) {other : Writer} (hNe : other ≠ writer)
    (text : List Char) : (stream.push other text).Holds writer texts := by
  rw [Holds] at h ⊢
  rw [← h]
  simp [Stream.push, writtenBy, Function.update_of_ne (Ne.symm hNe)]

theorem Holds.write (h : stream.Holds writer texts) (ending : List Char → List Char)
    (other : Writer) : (stream.write ending other).Holds writer texts := by
  unfold Stream.write
  split
  · rename_i text rest hPending hQueue
    rw [Holds] at h ⊢
    by_cases hSame : other = writer
    · subst hSame
      rw [← h, hQueue]
      simp [writtenBy]
    · rw [← h]
      simp [writtenBy, hSame, Function.update_of_ne (Ne.symm hSame)]
  · exact h

theorem Holds.finish (h : stream.Holds writer texts) (other : Writer) :
    (stream.finish other).Holds writer texts := by
  unfold Stream.finish
  split
  · exact h
  · exact h

/-- Whether the line is written at once makes no difference to what waits. -/
theorem Holds.start (h : stream.Holds writer texts) (ending : List Char → List Char)
    (other : Writer) : (stream.start ending other).Holds writer texts := by
  have hSame : (stream.start ending other).queue = (stream.write ending other).queue ∧
      (stream.start ending other).written = (stream.write ending other).written := by
    unfold Stream.start Stream.write
    split <;> exact ⟨rfl, rfl⟩
  rw [Holds, writtenBy, hSame.1, hSame.2]
  exact h.write ending other

theorem Holds.advance (h : stream.Holds writer texts) (other : Writer) (count : Nat) :
    (stream.advance other count).Holds writer texts := by
  unfold Stream.advance
  split
  · exact h
  · exact h

end Order

end Steps

end Stream

end SharedLines
