import Mathlib.Data.List.DropRight
import Mathlib.Data.List.Infix
import Mathlib.Tactic.Common

/-! Paths as texts, and the directories they denote: a directory is the list of
the names that lead to it from the root. `Beginnings` relates a test of the text
alone, whether a path begins with a given text, to what lies inside a directory;
the last two sections are about the components of a path, as a standard library
lists them, and about the slashes at its end. -/
namespace Path

abbrev Text := List Char

/-- The segment that leads to the directory above. -/
def up : Text := ['.', '.']

/-- What stands between the slashes. -/
def segments (text : Text) : List Text := text.splitOn '/'

/-- A path that begins at the root. -/
def isAbsolute (text : Text) : Bool := text.head? == some '/'

/-- One step from a directory. -/
def enter (directory : List Text) (segment : Text) : List Text :=
  if segment = [] ∨ segment = ['.'] then directory
  else if segment = up then directory.dropLast
  else directory ++ [segment]

/-- The directory that `text` denotes to a process that runs in `base`. -/
def resolve (base : List Text) (text : Text) : List Text :=
  (segments text).foldl enter (if isAbsolute text then [] else base)

/-- A segment that leads down. -/
structure IsName (segment : Text) : Prop where
  nonempty : segment ≠ []
  not_here : segment ≠ ['.']
  not_up : segment ≠ up
  no_slash : '/' ∉ segment

section Directories

variable {directory : List Text} {segment : Text} {names : List Text}

@[simp] theorem enter_nil (directory : List Text) : enter directory [] = directory := by
  simp [enter]

@[simp] theorem enter_here (directory : List Text) : enter directory ['.'] = directory := by
  simp [enter]

@[simp] theorem enter_up (directory : List Text) : enter directory up = directory.dropLast := by
  simp [enter, up]

theorem IsName.enter (h : IsName segment) (directory : List Text) :
    Path.enter directory segment = directory ++ [segment] := by
  simp [Path.enter, h.nonempty, h.not_here, h.not_up]

theorem foldl_enter_names (h : ∀ name ∈ names, IsName name) (directory : List Text) :
    names.foldl enter directory = directory ++ names := by
  induction names generalizing directory with
  | nil => simp
  | cons name names ih =>
      obtain ⟨hName, hNames⟩ := List.forall_mem_cons.mp h
      rw [List.foldl_cons, hName.enter, ih hNames, List.append_assoc, List.singleton_append]

/-- Enough steps up end at the root. -/
theorem foldl_enter_ups {count : Nat} (h : directory.length ≤ count) :
    (List.replicate count up).foldl enter directory = [] := by
  induction count generalizing directory with
  | zero => exact List.eq_nil_of_length_eq_zero (Nat.le_zero.mp h)
  | succ count ih =>
      rw [List.replicate_succ, List.foldl_cons, enter_up]
      apply ih
      rw [List.length_dropLast]
      omega

theorem no_slash_of_mem_segments {text : Text} (h : segment ∈ segments text) : '/' ∉ segment := by
  induction text generalizing segment with
  | nil => simp_all [segments]
  | cons c text ih =>
      rw [segments, List.splitOn_cons_eq_if_modifyHead] at h
      split at h
      · rcases List.mem_cons.mp h with rfl | hRest
        · simp
        · exact ih hRest
      next hSlash =>
        cases hSplit : text.splitOn '/' with
        | nil => simp [hSplit] at h
        | cons first rest =>
            rw [hSplit, List.modifyHead_cons] at h
            rcases List.mem_cons.mp h with rfl | hRest
            · have hFirst : '/' ∉ first := ih (by simp [segments, hSplit])
              have hChar : '/' ≠ c := fun hEq => hSlash (beq_iff_eq.mpr hEq.symm)
              simp [hFirst, hChar]
            · exact ih (by simp [segments, hSplit, hRest])

end Directories

/-- What the normal form of a path is made of. Only a relative one may lead up. -/
structure NormalPath where
  absolute : Bool
  ups : Nat
  names : List Text
  isName : ∀ name ∈ names, IsName name
  ups_absolute : absolute = true → ups = 0

namespace NormalPath

/-- First all steps up, then all steps down. -/
def components (path : NormalPath) : List Text := List.replicate path.ups up ++ path.names

/-- The text after the slash of an absolute path. -/
def body (path : NormalPath) : Text := List.intercalate ['/'] path.components

/-- The path as it is written. -/
def text (path : NormalPath) : Text :=
  if path.absolute then '/' :: path.body else path.body

/-- Where a path leads from a directory. -/
def directory (path : NormalPath) (base : List Text) : List Text :=
  path.components.foldl enter (if path.absolute then [] else base)

variable (path : NormalPath)

theorem component (segment : Text) (h : segment ∈ path.components) :
    segment ≠ [] ∧ '/' ∉ segment := by
  rcases List.mem_append.mp h with hUp | hName
  · rw [List.eq_of_mem_replicate hUp]
    simp [up]
  · exact ⟨(path.isName segment hName).nonempty, (path.isName segment hName).no_slash⟩

theorem segments_body (h : path.components ≠ []) : segments path.body = path.components :=
  List.splitOn_intercalate '/' (fun segment hSegment => (path.component segment hSegment).2) h

theorem body_of_nil (h : path.components = []) : path.body = [] := by
  rw [body, h, List.intercalate_nil]

theorem isAbsolute_body : isAbsolute path.body = false := by
  unfold isAbsolute body
  cases hComponents : path.components with
  | nil => simp
  | cons first rest =>
      obtain ⟨hNonempty, hSlash⟩ := path.component first (by simp [hComponents])
      cases first with
      | nil => exact absurd rfl hNonempty
      | cons c first =>
          have hChar : c ≠ '/' := fun hEq => hSlash (by simp [hEq])
          cases rest with
          | nil => simp [hChar]
          | cons next rest => simp [hChar]

@[simp] theorem isAbsolute_text : isAbsolute path.text = path.absolute := by
  unfold text
  split
  next hAbsolute => rw [hAbsolute]; rfl
  next hRelative => rw [isAbsolute_body, Bool.eq_false_iff.mpr hRelative]

theorem foldl_enter_body (directory : List Text) :
    (segments path.body).foldl enter directory = path.components.foldl enter directory := by
  by_cases hNil : path.components = []
  · rw [path.body_of_nil hNil, hNil]
    simp [segments]
  · rw [path.segments_body hNil]

/-- The slash of an absolute path stands after an empty segment. -/
theorem segments_text :
    segments path.text = (if path.absolute then [[]] else []) ++ segments path.body := by
  unfold text
  split
  next hAbsolute => simp [segments, List.splitOn_cons_eq_if_modifyHead]
  next hRelative => rfl

@[simp] theorem resolve_text (base : List Text) : resolve base path.text = path.directory base := by
  rw [resolve, isAbsolute_text, directory, ← foldl_enter_body, segments_text]
  split <;> simp

end NormalPath

section Beginnings

/-- A text without the slash that makes it absolute. -/
def body (text : Text) : Text := if isAbsolute text then text.tail else text

/-- The segments of a text that a slash ends. -/
def closed (text : Text) : List Text := (segments (body text)).dropLast

/-- What stands after them. -/
def rest (text : Text) : Text := (segments (body text)).getLastD []

/-- The closed segments of `text` are those of a normal path. -/
def Opens (text : Text) : Prop :=
  ∃ path : NormalPath, path.absolute = isAbsolute text ∧ path.components = closed text

/-- The innermost directory with all normal paths that begin with `text`. When
`text` can go on as a path that only leads up, there is none but the root. -/
def reach (base : List Text) (text : Text) : List Text :=
  if isAbsolute text = false ∧ (∀ segment ∈ closed text, segment = up) ∧ rest text <+: up then []
  else (closed text).foldl enter (if isAbsolute text then [] else base)

variable {text : Text} {base : List Text}

/-- Segments, each with the slash that ends it. -/
def stem (closed : List Text) : Text := closed.flatMap (· ++ ['/'])

theorem intercalate_append (closed : List Text) (segment : Text) (more : List Text) :
    List.intercalate ['/'] (closed ++ segment :: more) =
      stem closed ++ List.intercalate ['/'] (segment :: more) := by
  induction closed with
  | nil => rfl
  | cons first closed ih =>
      rw [List.cons_append, List.intercalate_cons_of_ne_nil (by simp), ih]
      simp [stem]

theorem segments_eq (text : Text) : segments (body text) = closed text ++ [rest text] := by
  have hNonempty : segments (body text) ≠ [] := List.splitOn_ne_nil '/' (body text)
  rw [closed, rest, List.getLastD_eq_getLast?, List.getLast?_eq_some_getLast hNonempty,
    Option.getD_some, List.dropLast_concat_getLast]

theorem body_eq (text : Text) : body text = stem (closed text) ++ rest text := by
  have hJoin : List.intercalate ['/'] (segments (body text)) = body text :=
    List.intercalate_splitOn '/'
  rw [← hJoin, segments_eq, intercalate_append, List.intercalate_singleton]

theorem no_slash_rest (text : Text) : '/' ∉ rest text := by
  have hMem : rest text ∈ segments (body text) := by simp [segments_eq]
  exact no_slash_of_mem_segments hMem

theorem no_slash_closed (text : Text) (segment : Text) (h : segment ∈ closed text) :
    '/' ∉ segment := by
  have hMem : segment ∈ segments (body text) := by simp [segments_eq, h]
  exact no_slash_of_mem_segments hMem

theorem segments_stem_append {closed : List Text} (h : ∀ segment ∈ closed, '/' ∉ segment)
    (text : Text) : segments (stem closed ++ text) = closed ++ segments text := by
  induction closed with
  | nil => rfl
  | cons first closed ih =>
      obtain ⟨hFirst, hClosed⟩ := List.forall_mem_cons.mp h
      have hStem : stem (first :: closed) ++ text = first ++ '/' :: (stem closed ++ text) := by
        simp [stem]
      rw [hStem, segments, List.splitOn_append_cons_self_of_not_mem hFirst, ← segments, ih hClosed,
        List.cons_append]

theorem exists_segments_append {first : Text} (h : '/' ∉ first) (text : Text) :
    ∃ more segments', segments (first ++ text) = (first ++ more) :: segments' := by
  induction first with
  | nil =>
      obtain ⟨more, segments', hSegments⟩ :=
        List.exists_cons_of_ne_nil (List.splitOn_ne_nil '/' text)
      exact ⟨more, segments', hSegments⟩
  | cons c first ih =>
      have hChar : c ≠ '/' := fun hEq => h (by simp [hEq])
      obtain ⟨more, segments', hSegments⟩ := ih fun hMem => h (List.mem_cons_of_mem c hMem)
      refine ⟨more, segments', ?_⟩
      rw [List.cons_append, segments, List.splitOn_cons_eq_if_modifyHead, ← segments, hSegments]
      simp [hChar]

/-- A text that goes on keeps its closed segments, and its last segment may grow. -/
theorem segments_append (text more : Text) :
    ∃ grown segments',
      segments (body text ++ more) = closed text ++ (rest text ++ grown) :: segments' := by
  obtain ⟨grown, segments', hSegments⟩ := exists_segments_append (no_slash_rest text) more
  refine ⟨grown, segments', ?_⟩
  rw [body_eq, List.append_assoc, segments_stem_append (no_slash_closed text), hSegments]

theorem body_prefix_of_prefix {path : NormalPath} (hNonempty : text ≠ [])
    (h : text <+: path.text) : isAbsolute text = path.absolute ∧ body text <+: path.body := by
  obtain ⟨more, hMore⟩ := h
  have hAbsolute : isAbsolute text = path.absolute := by
    rw [← path.isAbsolute_text, ← hMore]
    cases text with
    | nil => exact absurd rfl hNonempty
    | cons c text => rfl
  refine ⟨hAbsolute, more, ?_⟩
  cases text with
  | nil => exact absurd rfl hNonempty
  | cons c text =>
      rw [NormalPath.text, ← hAbsolute] at hMore
      rw [body]
      split at hMore
      next hRoot =>
        rw [if_pos hRoot]
        exact (List.cons_eq_cons.mp hMore).2
      next hRelative =>
        rw [if_neg hRelative]
        exact hMore

/-- The components of a normal path that begins with `text`: the closed segments,
then one that begins with the last segment, unless there is none at all. -/
theorem components_of_prefix {path : NormalPath} (h : body text <+: path.body) :
    (path.components = [] ∧ closed text = []) ∨
      ∃ grown more, path.components = closed text ++ (rest text ++ grown) :: more := by
  obtain ⟨tail, hTail⟩ := h
  obtain ⟨grown, more, hSegments⟩ := segments_append text tail
  rw [hTail] at hSegments
  by_cases hNil : path.components = []
  · rw [path.body_of_nil hNil] at hSegments
    cases hClosed : closed text with
    | nil => exact .inl ⟨hNil, rfl⟩
    | cons first closed => simp [segments, hClosed] at hSegments
  · rw [path.segments_body hNil] at hSegments
    exact .inr ⟨grown, more, hSegments⟩

theorem opens_of_isPrefix {path : NormalPath} (h : text <+: path.text) : Opens text := by
  by_cases hEmpty : text = []
  · subst hEmpty
    exact ⟨⟨false, 0, [], by simp, by simp⟩, rfl, rfl⟩
  obtain ⟨hAbsolute, hBody⟩ := body_prefix_of_prefix hEmpty h
  rcases components_of_prefix hBody with ⟨-, hClosed⟩ | ⟨grown, more, hComponents⟩
  · refine ⟨⟨path.absolute, 0, [], by simp, fun _ => rfl⟩, hAbsolute.symm, ?_⟩
    simp [NormalPath.components, hClosed]
  · rw [NormalPath.components, List.append_eq_append_iff] at hComponents
    rcases hComponents with ⟨names, hClosed, hNames⟩ | ⟨ups, hUps, -⟩
    · refine ⟨⟨path.absolute, path.ups, names, ?_, path.ups_absolute⟩, hAbsolute.symm, hClosed.symm⟩
      intro name hName
      exact path.isName name (by simp [hNames, hName])
    · have hClosed : closed text = List.replicate (closed text).length up := by
        apply List.eq_replicate_of_mem
        intro segment hSegment
        exact List.eq_of_mem_replicate (n := path.ups) (by simp [hUps, hSegment])
      refine ⟨⟨path.absolute, (closed text).length, [], by simp, ?_⟩, hAbsolute.symm, ?_⟩
      · intro hRoot
        have hLength := congrArg List.length hUps
        rw [path.ups_absolute hRoot, List.length_replicate, List.length_append] at hLength
        omega
      · simp [NormalPath.components, ← hClosed]

/-- Every normal path that begins with `text` lies in its reach. -/
theorem reach_isPrefix {path : NormalPath} (h : text <+: path.text) :
    reach base text <+: path.directory base := by
  unfold reach
  split
  · exact List.nil_prefix
  next hStays =>
    have hNonempty : text ≠ [] := by
      rintro rfl
      exact hStays ⟨rfl, by simp [closed, body, isAbsolute, segments],
        by simp [rest, body, isAbsolute, segments]⟩
    obtain ⟨hAbsolute, hBody⟩ := body_prefix_of_prefix hNonempty h
    rw [NormalPath.directory, hAbsolute]
    rcases components_of_prefix hBody with ⟨hNil, hClosed⟩ | ⟨grown, more, hComponents⟩
    · rw [hNil, hClosed]
    · have hNames : ∀ name ∈ (rest text ++ grown) :: more, IsName name := by
        have hParts := hComponents
        rw [NormalPath.components, List.append_eq_append_iff] at hParts
        rcases hParts with ⟨names, -, hNames⟩ | ⟨ups, hUps, hMore⟩
        · intro name hName
          exact path.isName name (by rw [hNames]; exact List.mem_append_right _ hName)
        · cases ups with
          | nil =>
              rw [hMore, List.nil_append]
              exact path.isName
          | cons first ups =>
              obtain ⟨hFirst, -⟩ := List.cons_eq_cons.mp hMore
              have hMem : ∀ segment ∈ closed text ++ first :: ups, segment = up := by
                rw [← hUps]
                exact fun segment => List.eq_of_mem_replicate
              have hCount : path.ups ≠ 0 := by
                intro hZero
                simp [hZero] at hUps
              refine absurd ⟨?_, ?_, ?_⟩ hStays
              · rw [hAbsolute]
                exact Bool.eq_false_iff.mpr fun hRoot => hCount (path.ups_absolute hRoot)
              · exact fun segment hSegment => hMem segment (List.mem_append_left _ hSegment)
              · exact ⟨grown, hFirst.trans (hMem first (by simp))⟩
      rw [hComponents, List.foldl_append, foldl_enter_names hNames]
      exact List.prefix_append ..

theorem prefix_text {path : NormalPath} (hAbsolute : path.absolute = isAbsolute text)
    {first : Text} {more : List Text} (hRest : rest text <+: first)
    (hComponents : path.components = closed text ++ first :: more) : text <+: path.text := by
  have hFirst : first <+: List.intercalate ['/'] (first :: more) := by
    cases more with
    | nil => simp
    | cons next more => simp [List.intercalate_cons_cons, List.append_assoc]
  have hBody : body text <+: path.body := by
    rw [body_eq, NormalPath.body, hComponents, intercalate_append]
    exact (List.prefix_append_right_inj _).mpr (hRest.trans hFirst)
  rw [NormalPath.text, hAbsolute]
  cases hRoot : isAbsolute text with
  | false => simpa [body, hRoot] using hBody
  | true =>
      cases text with
      | nil => cases hRoot
      | cons c text =>
          obtain rfl : c = '/' := by simpa [isAbsolute] using hRoot
          simpa [body, hRoot] using hBody

/-- A name longer than those of `directories` is in none of them. -/
theorem exists_fresh (directories : List (List Text)) (text : Text) (hSlash : '/' ∉ text) :
    ∃ name, text <+: name ∧ IsName name ∧ ∀ directory ∈ directories, name ∉ directory := by
  let letters : Text := List.replicate (directories.flatten.flatten.length + 1) 'x'
  have hLast : 'x' ∈ text ++ letters := by simp [letters]
  refine ⟨text ++ letters, List.prefix_append .., ⟨?_, ?_, ?_, ?_⟩, ?_⟩
  · exact List.ne_nil_of_mem hLast
  · intro hHere
    simp [hHere] at hLast
  · intro hUp
    simp [hUp, up] at hLast
  · simp [hSlash, letters]
  · intro directory hDirectory hName
    have hSub : (text ++ letters).Sublist directories.flatten.flatten :=
      List.sublist_flatten_of_mem (List.mem_flatten.mpr ⟨directory, hDirectory, hName⟩)
    have hLength := hSub.length_le
    simp only [letters, List.length_append, List.length_replicate] at hLength
    omega

/-- And nothing smaller holds them all: where no one of finitely many directories
holds the reach of `text`, none of them holds some normal path that begins with it. -/
theorem exists_outside (hOpens : Opens text) (directories : List (List Text))
    (h : ∀ directory ∈ directories, ¬ directory <+: reach base text) :
    ∃ path : NormalPath, text <+: path.text ∧
      ∀ directory ∈ directories, ¬ directory <+: path.directory base := by
  unfold reach at h
  split at h
  next hUp =>
    obtain ⟨hRelative, hClosed, hRest⟩ := hUp
    let path : NormalPath :=
      ⟨false, (closed text).length + (base.length + 1), [], by simp, by simp⟩
    have hComponents : path.components = closed text ++ up :: List.replicate base.length up := by
      simp only [path, NormalPath.components, List.append_nil]
      rw [← List.replicate_append_replicate, List.replicate_succ,
        ← List.eq_replicate_of_mem hClosed]
    have hRoot : path.directory base = [] := by
      simp only [path, NormalPath.directory, NormalPath.components, List.append_nil]
      apply foldl_enter_ups
      simp only [Bool.false_eq_true, if_false]
      omega
    refine ⟨path, prefix_text hRelative.symm hRest hComponents, ?_⟩
    intro directory hDirectory
    rw [hRoot]
    exact h directory hDirectory
  next hStays =>
    obtain ⟨start, hAbsolute, hClosed⟩ := hOpens
    obtain ⟨name, hRest, hName, hFresh⟩ := exists_fresh directories (rest text) (no_slash_rest text)
    let path : NormalPath :=
      { start with
        names := start.names ++ [name]
        isName := by
          intro other hOther
          rcases List.mem_append.mp hOther with hOld | hNew
          · exact start.isName other hOld
          · exact List.eq_of_mem_singleton hNew ▸ hName }
    have hComponents : path.components = closed text ++ [name] := by
      rw [← hClosed]
      exact (List.append_assoc ..).symm
    have hDirectory : path.directory base =
        (closed text).foldl enter (if isAbsolute text then [] else base) ++ [name] := by
      rw [NormalPath.directory, hComponents, List.foldl_concat, hName.enter, ← hAbsolute]
    refine ⟨path, prefix_text hAbsolute hRest hComponents, ?_⟩
    intro directory hMem hInside
    rw [hDirectory] at hInside
    rcases List.prefix_concat_iff.mp hInside with rfl | hReach
    · exact hFresh _ hMem (by simp)
    · exact h directory hMem hReach

/-- What a textual test lets through lies in one of finitely many directories
exactly if the reach of its text does. -/
theorem covered_iff (directories : List (List Text)) :
    (∀ path : NormalPath, text <+: path.text →
        ∃ directory ∈ directories, directory <+: path.directory base) ↔
      (Opens text → ∃ directory ∈ directories, directory <+: reach base text) := by
  constructor
  · intro hCovered hOpens
    by_contra hNone
    push Not at hNone
    obtain ⟨path, hPath, hOutside⟩ := exists_outside hOpens directories hNone
    obtain ⟨directory, hMem, hInside⟩ := hCovered path hPath
    exact hOutside directory hMem hInside
  · intro hReach path hPath
    obtain ⟨directory, hMem, hInside⟩ := hReach (opens_of_isPrefix hPath)
    exact ⟨directory, hMem, hInside.trans (reach_isPrefix hPath)⟩

end Beginnings

section Components

/-- The components of Rust's `Path`. -/
inductive Component where
  | rootDir
  | curDir
  | parentDir
  | normal (name : Text)
deriving DecidableEq

/-- Empty segments and those that stay in the directory are left out. -/
def Component.ofSegment? (segment : Text) : Option Component :=
  if segment = [] ∨ segment = ['.'] then none
  else if segment = up then some .parentDir
  else some (.normal segment)

/-- Only at its very beginning a relative path keeps a segment that stays. -/
def components (text : Text) : List Component :=
  (if isAbsolute text then [.rootDir]
    else if (segments text).head? = some ['.'] then [.curDir]
    else []) ++ (segments text).filterMap Component.ofSegment?

theorem components_nil : components [] = [] := by
  simp [components, isAbsolute, segments, Component.ofSegment?]

/-- A path that goes on after a slash goes on with components of its own. -/
theorem components_append_slash {text : Text} (hNonempty : text ≠ []) (more : Text) :
    components (text ++ '/' :: more) =
      components text ++ (segments more).filterMap Component.ofSegment? := by
  have hSegments : segments (text ++ '/' :: more) = segments text ++ segments more :=
    List.splitOn_append_cons_self text more
  have hAbsolute : isAbsolute (text ++ '/' :: more) = isAbsolute text := by
    rw [isAbsolute, isAbsolute, List.head?_append_of_ne_nil text hNonempty]
  have hHead : (segments text ++ segments more).head? = (segments text).head? :=
    List.head?_append_of_ne_nil _ (List.splitOn_ne_nil '/' text)
  rw [components, hAbsolute, hSegments, hHead, List.filterMap_append, ← List.append_assoc,
    ← components]

theorem components_append_slashes {text : Text} (hNonempty : text ≠ []) (count : Nat) :
    components (text ++ List.replicate count '/') = components text := by
  induction count with
  | zero => simp
  | succ count ih =>
      have hLonger : text ++ List.replicate count '/' ≠ [] := by simp [hNonempty]
      rw [List.replicate_succ', ← List.append_assoc, components_append_slash hLonger, ih]
      simp [segments, Component.ofSegment?]

theorem infix_of_mem_segments {text segment : Text} (h : segment ∈ segments text) :
    segment <:+: text := by
  obtain ⟨before, after, hSplit⟩ := List.append_of_mem h
  have hJoin : List.intercalate ['/'] (segments text) = text := List.intercalate_splitOn '/'
  rw [hSplit, intercalate_append] at hJoin
  rw [← hJoin]
  refine List.IsInfix.trans ?_ (List.suffix_append ..).isInfix
  cases after with
  | nil => rw [List.intercalate_singleton]
  | cons next after =>
      rw [List.intercalate_cons_cons, List.append_assoc]
      exact (List.prefix_append ..).isInfix

theorem parentDir_notMem_components {text : Text} (h : ¬ up <:+: text) :
    .parentDir ∉ components text := by
  intro hMem
  rcases List.mem_append.mp hMem with hLeading | hSegment
  · split at hLeading
    · simp at hLeading
    · split at hLeading <;> simp at hLeading
  · obtain ⟨segment, hIn, hParent⟩ := List.mem_filterMap.mp hSegment
    have hUp : segment = up := by
      by_contra hOther
      simp [Component.ofSegment?, hOther] at hParent
    exact h (hUp ▸ infix_of_mem_segments hIn)

end Components

section TrailingSlashes

def trimSlashes (text : Text) : Text := text.rdropWhile (· == '/')

theorem exists_slashes (text : Text) :
    ∃ count, text = trimSlashes text ++ List.replicate count '/' := by
  refine ⟨(text.rtakeWhile (· == '/')).length, ?_⟩
  have hSlashes : text.rtakeWhile (· == '/') =
      List.replicate (text.rtakeWhile (· == '/')).length '/' :=
    List.eq_replicate_of_mem fun c hMem =>
      eq_of_beq (List.mem_rtakeWhile_imp (p := (· == '/')) hMem)
  rw [← hSlashes]
  exact (List.rdropWhile_append_rtakeWhile ..).symm

theorem trimSlashes_isPrefix (text : Text) : trimSlashes text <+: text :=
  List.rdropWhile_prefix _ text

@[simp] theorem trimSlashes_trimSlashes (text : Text) :
    trimSlashes (trimSlashes text) = trimSlashes text :=
  List.rdropWhile_idempotent ..

@[simp] theorem trimSlashes_concat (text : Text) :
    trimSlashes (text ++ ['/']) = trimSlashes text :=
  List.rdropWhile_concat_pos _ _ _ rfl

/-- What is left does not end in a slash. -/
theorem trimSlashes_ne_concat (text before : Text) : trimSlashes text ≠ before ++ ['/'] := by
  intro hEq
  have hTwice := trimSlashes_trimSlashes text
  rw [hEq, trimSlashes_concat] at hTwice
  have hLength := (trimSlashes_isPrefix before).length_le
  rw [hTwice, List.length_append, List.length_singleton] at hLength
  omega

/-- A path begins with a trimmed one and a slash when it lies below it, or is the
same path and written with a slash at its end. -/
theorem slash_prefix_iff (directory text : Text) :
    trimSlashes directory ++ ['/'] <+: text ↔
      trimSlashes directory ++ ['/'] <+: trimSlashes text ∨
        (trimSlashes directory = trimSlashes text ∧ text ≠ trimSlashes text) := by
  obtain ⟨count, hText⟩ := exists_slashes text
  constructor
  · intro hPrefix
    rcases List.prefix_or_prefix_of_prefix hPrefix (trimSlashes_isPrefix text) with
      hInside | hShorter
    · exact .inl hInside
    right
    rcases List.prefix_concat_iff.mp hShorter with hEnds | hStart
    · exact absurd hEnds (trimSlashes_ne_concat text _)
    obtain ⟨tail, hTail⟩ := hStart
    have hSlashes : tail <+: List.replicate count '/' := by
      have hWhole : trimSlashes directory <+: text := (List.prefix_append ..).trans hPrefix
      rw [hText, ← hTail, List.prefix_append_right_inj] at hWhole
      exact hWhole
    have hNil : tail = [] := by
      rcases List.eq_nil_or_concat' tail with hNil | ⟨start, last, hLast⟩
      · exact hNil
      · have hSlash : last = '/' :=
          List.eq_of_mem_replicate (hSlashes.subset (by simp [hLast]))
        rw [hLast, hSlash, ← List.append_assoc] at hTail
        exact absurd hTail.symm (trimSlashes_ne_concat directory _)
    rw [hNil, List.append_nil] at hTail
    refine ⟨hTail.symm, fun hBare => ?_⟩
    have hLength := hPrefix.length_le
    rw [hBare, ← hTail, List.length_append, List.length_singleton] at hLength
    omega
  · rintro (hInside | ⟨hSame, hSlashed⟩)
    · exact hInside.trans (trimSlashes_isPrefix text)
    · cases count with
      | zero => exact absurd (by simpa using hText) hSlashed
      | succ count =>
          rw [hText, hSame, List.replicate_succ, List.prefix_append_right_inj]
          exact ⟨_, rfl⟩

end TrailingSlashes

end Path
