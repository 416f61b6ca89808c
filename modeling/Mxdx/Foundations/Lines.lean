import Mathlib.Data.List.Basic
import Mathlib.Tactic.Common

/-! The lines of a text, cut by two rules: a line with its terminator, which is
then taken off, or a split at every terminator. The rules differ in nothing but
the empty line that a split finds after a last terminator. -/
namespace Lines

/-- Induction on the lines of a text, one after the other. -/
@[elab_as_elim] theorem induction {motive : List Char → Prop}
    (unfinished : ∀ line, '\n' ∉ line → motive line)
    (line : ∀ line rest, '\n' ∉ line → motive rest → motive (line ++ '\n' :: rest))
    (text : List Char) : motive text := by
  by_cases hEnd : '\n' ∈ text
  · obtain ⟨first, rest, rfl, hFirst⟩ := List.eq_append_cons_of_mem hEnd
    exact line first rest hFirst (induction unfinished line rest)
  · exact unfinished text hEnd
termination_by text.length

/-- A line without the carriage return at its end. -/
def dropCr (line : List Char) : List Char :=
  if line.getLast? = some '\r' then line.dropLast else line

theorem dropCr_cons {c : Char} {line : List Char} (h : c ≠ '\r' ∨ line ≠ []) :
    dropCr (c :: line) = c :: dropCr line := by
  cases line with
  | nil =>
      have hChar : c ≠ '\r' := h.resolve_right fun hNe => hNe rfl
      simp [dropCr, hChar]
  | cons d line =>
      simp only [dropCr, List.getLast?_cons_cons, List.dropLast_cons_cons]
      split_ifs <;> rfl

section Inclusive

/-- Every line with its terminator; there is no line after the last of them. -/
def splitInclusive : List Char → List (List Char)
  | [] => []
  | c :: rest =>
      if c = '\n' then ['\n'] :: splitInclusive rest
      else
        match splitInclusive rest with
        | [] => [[c]]
        | line :: lines => (c :: line) :: lines

/-- The line without this character at its end. -/
def stripSuffix (c : Char) (line : List Char) : Option (List Char) :=
  if line.getLast? = some c then some line.dropLast else none

/-- The terminator is a line feed, or a carriage return and a line feed. -/
def stripTerminator (line : List Char) : List Char :=
  match stripSuffix '\n' line with
  | none => line
  | some line =>
      match stripSuffix '\r' line with
      | none => line
      | some line => line

/-- The lines without their ends. -/
def lines (text : List Char) : List (List Char) := (splitInclusive text).map stripTerminator

theorem splitInclusive_append {line : List Char} (rest : List Char) (h : '\n' ∉ line) :
    splitInclusive (line ++ '\n' :: rest) = (line ++ ['\n']) :: splitInclusive rest := by
  induction line with
  | nil => simp [splitInclusive]
  | cons c line ih =>
      rw [List.mem_cons, not_or] at h
      rw [List.cons_append, splitInclusive, if_neg (Ne.symm h.1), ih h.2]
      rfl

theorem splitInclusive_unfinished {line : List Char} (h : '\n' ∉ line) (hLine : line ≠ []) :
    splitInclusive line = [line] := by
  induction line with
  | nil => exact absurd rfl hLine
  | cons c line ih =>
      rw [List.mem_cons, not_or] at h
      rw [splitInclusive, if_neg (Ne.symm h.1)]
      by_cases hRest : line = []
      · rw [hRest]
        rfl
      · rw [ih h.2 hRest]

theorem stripTerminator_append (line : List Char) :
    stripTerminator (line ++ ['\n']) = dropCr line := by
  simp only [stripTerminator, stripSuffix, List.getLast?_concat, List.dropLast_concat, if_true,
    dropCr]
  split_ifs <;> rfl

theorem stripTerminator_unfinished {line : List Char} (h : '\n' ∉ line) :
    stripTerminator line = line := by
  have hLast : line.getLast? ≠ some '\n' := fun hEq => h (List.mem_of_getLast? hEq)
  simp [stripTerminator, stripSuffix, hLast]

theorem lines_append {line : List Char} (rest : List Char) (h : '\n' ∉ line) :
    lines (line ++ '\n' :: rest) = dropCr line :: lines rest := by
  rw [lines, splitInclusive_append rest h, List.map_cons, stripTerminator_append, lines]

theorem lines_unfinished {line : List Char} (h : '\n' ∉ line) (hLine : line ≠ []) :
    lines line = [line] := by
  rw [lines, splitInclusive_unfinished h hLine, List.map_singleton, stripTerminator_unfinished h]

/-- A text of whole lines, each with its line feed. -/
theorem splitInclusive_flatMap {texts : List (List Char)} (h : ∀ text ∈ texts, '\n' ∉ text)
    (rest : List Char) :
    splitInclusive (texts.flatMap (· ++ ['\n']) ++ rest) =
      texts.map (· ++ ['\n']) ++ splitInclusive rest := by
  induction texts with
  | nil => rfl
  | cons text texts ih =>
      obtain ⟨hText, hTexts⟩ := List.forall_mem_cons.mp h
      rw [List.flatMap_cons, List.append_assoc, List.append_assoc, List.singleton_append,
        splitInclusive_append _ hText, ih hTexts, List.map_cons, List.cons_append]

end Inclusive

section Split

/-- A split at `\r?\n`. -/
def splitCrLf : List Char → List (List Char)
  | [] => [[]]
  | '\r' :: '\n' :: rest => [] :: splitCrLf rest
  | c :: rest => if c = '\n' then [] :: splitCrLf rest else (splitCrLf rest).modifyHead (c :: ·)

theorem splitCrLf_cons {c : Char} {rest : List Char} (hChar : c ≠ '\n')
    (hPair : c ≠ '\r' ∨ rest.head? ≠ some '\n') :
    splitCrLf (c :: rest) = (splitCrLf rest).modifyHead (c :: ·) := by
  have hNoPair : ∀ after, c = '\r' → rest = '\n' :: after → False := by
    rintro after rfl rfl
    simp at hPair
  rw [splitCrLf, if_neg hChar]
  exact hNoPair

theorem splitCrLf_append {line : List Char} (rest : List Char) (h : '\n' ∉ line) :
    splitCrLf (line ++ '\n' :: rest) = dropCr line :: splitCrLf rest := by
  induction line with
  | nil => simp [splitCrLf, dropCr]
  | cons c line ih =>
      rw [List.mem_cons, not_or] at h
      by_cases hCr : c = '\r' ∧ line = []
      · obtain ⟨rfl, rfl⟩ := hCr
        simp [splitCrLf, dropCr]
      · have hPair : c ≠ '\r' ∨ line ≠ [] := by rwa [not_and_or] at hCr
        have hHead : c ≠ '\r' ∨ (line ++ '\n' :: rest).head? ≠ some '\n' := by
          refine hPair.imp_right fun hLine => ?_
          obtain ⟨d, line, rfl⟩ := List.exists_cons_of_ne_nil hLine
          rw [List.mem_cons, not_or] at h
          simpa using Ne.symm h.2.1
        rw [List.cons_append, splitCrLf_cons (Ne.symm h.1) hHead, ih h.2, dropCr_cons hPair]
        rfl

theorem splitCrLf_unfinished {line : List Char} (h : '\n' ∉ line) : splitCrLf line = [line] := by
  induction line with
  | nil => rfl
  | cons c line ih =>
      rw [List.mem_cons, not_or] at h
      have hHead : line.head? ≠ some '\n' := fun hEq => h.2 (List.mem_of_mem_head? hEq)
      rw [splitCrLf_cons (Ne.symm h.1) (.inr hHead), ih h.2]
      rfl

end Split

section Scan

universe u
variable {β : Type u} {f : List Char → Option β}

/-- A scanner that finds nothing on an empty line finds the same by both rules. -/
theorem filterMap_splitCrLf (hEmpty : f [] = none) (text : List Char) :
    (splitCrLf text).filterMap f = (lines text).filterMap f := by
  induction text using induction with
  | unfinished line hLine =>
      by_cases hNil : line = []
      · subst hNil
        simp [splitCrLf, lines, splitInclusive, hEmpty]
      · rw [splitCrLf_unfinished hLine, lines_unfinished hLine hNil]
  | line line rest hLine ih =>
      rw [splitCrLf_append rest hLine, lines_append rest hLine, List.filterMap_cons,
        List.filterMap_cons, ih]

/-- One that does not see a carriage return at the end finds it by line feeds alone. -/
theorem filterMap_splitOn (hCr : ∀ line, f (dropCr line) = f line) (text : List Char) :
    (text.splitOn '\n').filterMap f = (splitCrLf text).filterMap f := by
  induction text using induction with
  | unfinished line hLine =>
      rw [splitCrLf_unfinished hLine, List.splitOn_eq_singleton hLine]
  | line line rest hLine ih =>
      rw [splitCrLf_append rest hLine, List.splitOn_append_cons_self_of_not_mem hLine,
        List.filterMap_cons, List.filterMap_cons, ih, hCr]

theorem mem_of_mem_dropCr {line : List Char} {c : Char} (h : c ∈ dropCr line) : c ∈ line := by
  unfold dropCr at h
  split_ifs at h
  · exact List.dropLast_subset line h
  · exact h

/-- The lines are made of the characters of the text. -/
theorem mem_of_mem_lines {text line : List Char} (h : line ∈ lines text) {c : Char}
    (hMem : c ∈ line) : c ∈ text := by
  induction text using induction with
  | unfinished text hText =>
      by_cases hNil : text = []
      · subst hNil
        cases h
      · rw [lines_unfinished hText hNil, List.mem_singleton] at h
        exact h ▸ hMem
  | line first rest hFirst ih =>
      rw [lines_append rest hFirst, List.mem_cons] at h
      rcases h with rfl | hRest
      · exact List.mem_append_left _ (mem_of_mem_dropCr hMem)
      · exact List.mem_append_right _ (List.mem_cons_of_mem _ (ih hRest))

end Scan

end Lines
