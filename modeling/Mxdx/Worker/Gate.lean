import Mathlib.Data.List.Forall2
import Mxdx.Foundations.Paths
import Mxdx.Worker.Executor

/-! The command gate of the worker. Its directory check works on the text of the
paths; here it is compared with their components, and with the other ways in
which the same paths can be written. -/
namespace Mxdx.Worker

section Sound

/-- A check that passed was made of steps that passed. -/
theorem bind_eq_ok {ε α β : Type} {first : Except ε α} {next : α → Except ε β} {value : β}
    (h : first >>= next = .ok value) : ∃ passed, first = .ok passed ∧ next passed = .ok value := by
  cases first with
  | error error => cases h
  | ok passed => exact ⟨passed, rfl, h⟩

theorem ensure_eq_ok_iff {holds : Bool} {error : String} :
    ensure holds error = .ok () ↔ holds = true := by
  cases holds <;> simp [ensure]

theorem validateArgs_eq_ok_iff {args : List String} :
    validateArgs args = .ok () ↔ ∀ arg ∈ args, '\x00' ∉ arg.toList := by
  unfold validateArgs
  cases hIndex : args.findIdx? fun arg => arg.toList.contains '\x00' with
  | some index =>
      obtain ⟨hLt, hNull, -⟩ := List.findIdx?_eq_some_iff_getElem.mp hIndex
      refine iff_of_false (by simp) fun h => ?_
      exact h args[index] (List.getElem_mem hLt) (by simpa using hNull)
  | none => simpa using hIndex

/-- The pattern `[A-Z_][A-Z0-9_]*`. -/
def IsEnvKey (key : String) : Prop :=
  ∃ first rest, key.toList = first :: rest ∧
    ('A' ≤ first ∧ first ≤ 'Z' ∨ first = '_') ∧
    ∀ c ∈ rest, ('A' ≤ c ∧ c ≤ 'Z') ∨ ('0' ≤ c ∧ c ≤ '9') ∨ c = '_'

theorem isValidEnvKey_iff (key : String) : isValidEnvKey key = true ↔ IsEnvKey key := by
  unfold isValidEnvKey IsEnvKey
  cases key.toList with
  | nil => simp
  | cons first rest =>
      simp only [isAsciiUppercase, Char.isDigit, Bool.and_eq_true, Bool.or_eq_true, beq_iff_eq,
        decide_eq_true_eq, List.all_eq_true, List.cons.injEq, or_assoc]
      constructor
      · rintro ⟨hFirst, hRest⟩
        exact ⟨first, rest, ⟨rfl, rfl⟩, hFirst, hRest⟩
      · rintro ⟨_, _, ⟨rfl, rfl⟩, hFirst, hRest⟩
        exact ⟨hFirst, hRest⟩

theorem validateEnv_eq_ok_iff {env : List (String × String)} :
    validateEnv env = .ok () ↔ ∀ entry ∈ env, IsEnvKey entry.1 := by
  unfold validateEnv
  cases hBad : env.find? fun entry => !isValidEnvKey entry.1 with
  | some entry =>
      refine iff_of_false (by simp) fun h => ?_
      have hKey := (isValidEnvKey_iff entry.1).mpr (h entry (List.mem_of_find?_eq_some hBad))
      have hInvalid := List.find?_some hBad
      rw [hKey] at hInvalid
      cases hInvalid
  | none => simpa [isValidEnvKey_iff] using hBad

variable (platform : Platform)

theorem trimEndSlashes_eq (path : String) :
    trimEndSlashes path = Path.trimSlashes path.toList := rfl

theorem underAllowed_iff (cwd allowed : String) :
    underAllowed cwd allowed = true ↔
      cwd = allowed ∨ Path.trimSlashes allowed.toList ++ ['/'] <+: cwd.toList := by
  rw [underAllowed, Bool.or_eq_true, beq_iff_eq, List.isPrefixOf_iff_prefix, trimEndSlashes_eq]

theorem validateCwdAllowlist_eq_ok_iff {cwd : String} {allowed : List String} :
    validateCwdAllowlist platform cwd allowed = .ok () ↔
      ∃ entry ∈ allowed, underAllowed cwd entry = true := by
  unfold validateCwdAllowlist
  cases allowed with
  | nil => simp [ensure, bind, Except.bind]
  | cons first rest =>
      change ensure _ _ = _ ↔ _
      rw [ensure_eq_ok_iff, List.any_eq_true]

/-- A directory that lies under an entry by its text lies under it by its components. -/
theorem components_prefix_of_underAllowed {cwd allowed : String}
    (hAbsolute : Path.isAbsolute cwd.toList = true) (h : underAllowed cwd allowed = true) :
    Path.components allowed.toList <+: Path.components cwd.toList := by
  rcases (underAllowed_iff cwd allowed).mp h with rfl | ⟨more, hMore⟩
  · exact List.prefix_refl _
  obtain ⟨count, hAllowed⟩ := Path.exists_slashes allowed.toList
  by_cases hRoot : Path.trimSlashes allowed.toList = []
  · -- an entry of slashes has the root for its only component, if any
    have hLeading : Path.components cwd.toList =
        .rootDir :: (Path.segments cwd.toList).filterMap Path.Component.ofSegment? := by
      rw [Path.components, if_pos hAbsolute, List.singleton_append]
    rw [hRoot, List.nil_append] at hAllowed
    rw [hAllowed]
    cases count with
    | zero =>
        rw [List.replicate_zero, Path.components_nil]
        exact List.nil_prefix
    | succ count =>
        rw [List.replicate_succ, ← List.singleton_append,
          Path.components_append_slashes (List.cons_ne_nil _ _), hLeading]
        exact ⟨_, rfl⟩
  · rw [hAllowed, Path.components_append_slashes hRoot, ← hMore, List.append_assoc,
      List.singleton_append, Path.components_append_slash hRoot]
    exact List.prefix_append ..

theorem validateCwd_eq_ok {cwd : String} (h : validateCwd platform cwd = .ok ()) :
    Path.isAbsolute cwd.toList = true ∧ ¬ Path.up <:+: cwd.toList := by
  unfold validateCwd at h
  cases hAbsolute : (cwd.toList.head? == some '/') with
  | false =>
      rw [hAbsolute] at h
      cases h
  | true =>
      by_cases hUp : ['.', '.'] <:+: cwd.toList
      · rw [hAbsolute, decide_eq_true hUp] at h
        cases h
      · exact ⟨hAbsolute, hUp⟩

theorem validateAllowlist_eq_ok {bin : String} {allowed : List String}
    (h : validateAllowlist platform bin allowed = .ok ()) : bin ∈ allowed := by
  obtain ⟨_, -, hContains⟩ := bind_eq_ok h
  simpa using ensure_eq_ok_iff.mp hContains

theorem validateBin_eq_ok {bin : String} (h : validateBin platform bin = .ok ()) :
    ∀ c ∈ bin.toList, c ∉ shellMetacharacters := by
  obtain ⟨_, -, hRest⟩ := bind_eq_ok h
  obtain ⟨_, hMeta, -⟩ := bind_eq_ok hRest
  simpa using ensure_eq_ok_iff.mp hMeta

/-- The checks in their order, those of what may be missing as checks of an option. -/
theorem validateCommand_eq (bin : String) (args : List String)
    (env : Option (List (String × String))) (cwd : Option String)
    (allowedCommands allowedCwd : List String) :
    validateCommand platform bin args env cwd allowedCommands allowedCwd =
      (do
        validateAllowlist platform bin allowedCommands
        cwd.elim (ensure allowedCwd.isEmpty "cwd is required when a cwd allowlist is configured")
          fun cwd => validateCwdAllowlist platform cwd allowedCwd
        validateBin platform bin
        validateArgs args
        env.elim (.ok ()) validateEnv
        cwd.elim (.ok ()) (validateCwd platform)
        return ⟨bin, args, env.getD [], cwd⟩) := by
  cases cwd <;> cases env <;> rfl

/-- What `validateCommand` has checked of a command that it lets through. -/
structure Sound (bin : String) (args : List String) (env : Option (List (String × String)))
    (cwd : Option String) (allowedCommands allowedCwd : List String)
    (command : ValidatedCommand) : Prop where
  allowed : bin ∈ allowedCommands
  noMetacharacter : ∀ c ∈ bin.toList, c ∉ shellMetacharacters
  noNull : ∀ arg ∈ args, '\x00' ∉ arg.toList
  envKeys : ∀ entry ∈ env.getD [], IsEnvKey entry.1
  same : command = ⟨bin, args, env.getD [], cwd⟩
  cwdGiven : allowedCwd ≠ [] → cwd ≠ none
  cwdUnder : ∀ directory, cwd = some directory →
    (∃ entry ∈ allowedCwd,
      Path.components entry.toList <+: Path.components directory.toList) ∧
    .parentDir ∉ Path.components directory.toList

/-- The gate is sound: what it returns was allowed, is well formed and runs below an
allowed directory. -/
theorem validateCommand_sound {bin : String} {args : List String}
    {env : Option (List (String × String))} {cwd : Option String}
    {allowedCommands allowedCwd : List String} {command : ValidatedCommand}
    (h : validateCommand platform bin args env cwd allowedCommands allowedCwd = .ok command) :
    Sound bin args env cwd allowedCommands allowedCwd command := by
  rw [validateCommand_eq] at h
  obtain ⟨_, hAllowed, h⟩ := bind_eq_ok h
  obtain ⟨_, hAllowedCwd, h⟩ := bind_eq_ok h
  obtain ⟨_, hBin, h⟩ := bind_eq_ok h
  obtain ⟨_, hArgs, h⟩ := bind_eq_ok h
  obtain ⟨_, hEnv, h⟩ := bind_eq_ok h
  obtain ⟨_, hCwd, h⟩ := bind_eq_ok h
  refine ⟨validateAllowlist_eq_ok platform hAllowed, validateBin_eq_ok platform hBin,
    validateArgs_eq_ok_iff.mp hArgs, ?_, (Except.ok.inj h).symm, ?_, ?_⟩
  · cases env with
    | none => exact List.forall_mem_nil _
    | some env => exact validateEnv_eq_ok_iff.mp hEnv
  · rintro hNonempty rfl
    simpa [hNonempty] using ensure_eq_ok_iff.mp hAllowedCwd
  · rintro directory rfl
    obtain ⟨hAbsolute, hUp⟩ := validateCwd_eq_ok platform hCwd
    obtain ⟨entry, hEntry, hUnder⟩ := (validateCwdAllowlist_eq_ok_iff platform).mp hAllowedCwd
    exact ⟨⟨entry, hEntry, components_prefix_of_underAllowed hAbsolute hUnder⟩,
      Path.parentDir_notMem_components hUp⟩

/-- `git status` in a directory below an allowed one. -/
theorem validateCommand_sound_git :
    let platform : Platform := ⟨fun _ => true, fun _ => true, fun _ => "", "", fun _ => true, true⟩
    let env := some [("GIT_DIR", "x")]
    validateCommand platform "git" ["status"] env (some "/srv/repo") ["git"] ["/srv/"] =
        .ok ⟨"git", ["status"], [("GIT_DIR", "x")], some "/srv/repo"⟩ ∧
      Sound "git" ["status"] env (some "/srv/repo") ["git"] ["/srv/"]
        ⟨"git", ["status"], [("GIT_DIR", "x")], some "/srv/repo"⟩ :=
  have hOk : validateCommand ⟨fun _ => true, fun _ => true, fun _ => "", "", fun _ => true, true⟩
      "git" ["status"] (some [("GIT_DIR", "x")]) (some "/srv/repo") ["git"] ["/srv/"] =
      .ok ⟨"git", ["status"], [("GIT_DIR", "x")], some "/srv/repo"⟩ := by decide
  ⟨hOk, validateCommand_sound _ hOk⟩

end Sound

section Spelling

variable (platform : Platform)

/-- The same text but for slashes at the end. -/
def SameButSlashes (first second : String) : Prop :=
  trimEndSlashes first = trimEndSlashes second

instance (first second : String) : Decidable (SameButSlashes first second) :=
  inferInstanceAs (Decidable (_ = _))

/-- An entry written in another way; the root stays as it is. -/
def Respelled (entry other : String) : Prop :=
  SameButSlashes entry other ∧ (trimEndSlashes entry = [] → other = entry)

/-- The answer does not depend on how the entries and the directory are written. -/
def SpellingIndependent (cwd : String) (allowed : List String) : Prop :=
  ∀ cwd' allowed', SameButSlashes cwd cwd' → List.Forall₂ Respelled allowed allowed' →
    (validateCwdAllowlist platform cwd' allowed').isOk =
      (validateCwdAllowlist platform cwd allowed).isOk

/-- The directory lies below the entry. -/
def Below (cwd entry : String) : Prop :=
  trimEndSlashes entry ++ ['/'] <+: trimEndSlashes cwd

theorem isOk_validateCwdAllowlist_iff (cwd : String) (allowed : List String) :
    (validateCwdAllowlist platform cwd allowed).isOk = true ↔
      ∃ entry ∈ allowed, underAllowed cwd entry = true := by
  rw [← validateCwdAllowlist_eq_ok_iff platform]
  cases validateCwdAllowlist platform cwd allowed <;> simp [Except.isOk, Except.toBool]

/-- An entry lets through what lies below it in any spelling, and itself when it is written
the same or with a slash at its end. -/
theorem underAllowed_iff_below (cwd entry : String) :
    underAllowed cwd entry = true ↔
      Below cwd entry ∨
        (SameButSlashes entry cwd ∧ (cwd = entry ∨ cwd.toList ≠ trimEndSlashes cwd)) := by
  rw [underAllowed_iff, Path.slash_prefix_iff]
  constructor
  · rintro (rfl | hBelow | hSlashed)
    · exact .inr ⟨rfl, .inl rfl⟩
    · exact .inl hBelow
    · exact .inr ⟨hSlashed.1, .inr hSlashed.2⟩
  · rintro (hBelow | ⟨hSame, rfl | hSlashed⟩)
    · exact .inr (.inl hBelow)
    · exact .inl rfl
    · exact .inr (.inr ⟨hSame, hSlashed⟩)

theorem Respelled.below_iff {cwd cwd' entry entry' : String} (hEntry : Respelled entry entry')
    (hCwd : SameButSlashes cwd cwd') : Below cwd' entry' ↔ Below cwd entry := by
  unfold Below
  rw [hCwd, hEntry.1]

/-- The text with one slash at its end. -/
def slashed (path : String) : String := String.ofList (trimEndSlashes path ++ ['/'])

/-- The text with none. -/
def bare (path : String) : String := String.ofList (trimEndSlashes path)

theorem sameButSlashes_slashed (path : String) : SameButSlashes path (slashed path) := by
  simp [SameButSlashes, slashed, trimEndSlashes_eq]

theorem sameButSlashes_bare (path : String) : SameButSlashes path (bare path) := by
  simp [SameButSlashes, bare, trimEndSlashes_eq]

/-- What an entry lets through of a directory below it or of another one does not
depend on the spelling. -/
theorem underAllowed_respelled {cwd cwd' entry entry' : String} (hCwd : SameButSlashes cwd cwd')
    (hEntry : Respelled entry entry') (hOther : ¬ SameButSlashes entry cwd) :
    underAllowed cwd' entry' = true ↔ underAllowed cwd entry = true := by
  have hOther' : ¬ SameButSlashes entry' cwd' := by
    intro hSame
    exact hOther (hEntry.1.trans (hSame.trans hCwd.symm))
  rw [underAllowed_iff_below, underAllowed_iff_below, or_iff_left fun h => hOther' h.1,
    or_iff_left fun h => hOther h.1, hEntry.below_iff hCwd]

/-- The entries as they can be written so that none lets its own bare text through. -/
def slashedEntry (entry : String) : String :=
  if trimEndSlashes entry = [] then entry else slashed entry

theorem respelled_slashedEntry (entry : String) : Respelled entry (slashedEntry entry) := by
  unfold slashedEntry
  split
  · exact ⟨rfl, fun _ => rfl⟩
  next hNotRoot => exact ⟨sameButSlashes_slashed entry, fun hRoot => absurd hRoot hNotRoot⟩

/-- The bare text is let through only by what lies above it, or by the empty entry. -/
theorem underAllowed_bare_slashedEntry {cwd entry : String} (hBelow : ¬ Below cwd entry)
    (hEmpty : trimEndSlashes cwd = [] → entry ≠ "") :
    underAllowed (bare cwd) (slashedEntry entry) = false := by
  rw [Bool.eq_false_iff]
  intro hUnder
  rcases (underAllowed_iff_below ..).mp hUnder with hInside | ⟨hSame, hWritten | hSlashed⟩
  · exact hBelow (((respelled_slashedEntry entry).below_iff (sameButSlashes_bare cwd)).mp hInside)
  · unfold slashedEntry at hWritten
    split at hWritten
    next hRoot =>
      have hTrim : trimEndSlashes cwd = [] := by
        rw [sameButSlashes_bare cwd, hWritten, hRoot]
      rw [bare, hTrim] at hWritten
      exact hEmpty hTrim hWritten.symm
    next hNotRoot =>
      have hEnds := congrArg String.toList hWritten
      simp only [bare, slashed, String.toList_ofList] at hEnds
      exact Path.trimSlashes_ne_concat _ _ hEnds
  · apply hSlashed
    rw [← sameButSlashes_bare cwd, bare, String.toList_ofList]

/-- Every entry has its place in a list that is written in another way. -/
theorem exists_respelled {allowed allowed' : List String}
    (hAllowed : List.Forall₂ Respelled allowed allowed') {entry : String}
    (hEntry : entry ∈ allowed) :
    ∃ entry' ∈ allowed', Respelled entry entry' := by
  induction hAllowed with
  | nil => cases hEntry
  | @cons first first' rest rest' hFirst hRest ih =>
      rcases List.mem_cons.mp hEntry with rfl | hLater
      · exact ⟨first', List.mem_cons_self, hFirst⟩
      · obtain ⟨entry', hMem, hRespelled⟩ := ih hLater
        exact ⟨entry', List.mem_cons_of_mem _ hMem, hRespelled⟩

theorem any_underAllowed_respelled {cwd cwd' : String} {allowed allowed' : List String}
    (hCwd : SameButSlashes cwd cwd') (hAllowed : List.Forall₂ Respelled allowed allowed')
    (hOther : ∀ entry ∈ allowed, ¬ SameButSlashes entry cwd) :
    (∃ entry ∈ allowed', underAllowed cwd' entry = true) ↔
      ∃ entry ∈ allowed, underAllowed cwd entry = true := by
  induction hAllowed with
  | nil => simp
  | cons hFirst hRest ih =>
      obtain ⟨hHere, hLater⟩ := List.forall_mem_cons.mp hOther
      rw [List.exists_mem_cons_iff, List.exists_mem_cons_iff, ih hLater,
        underAllowed_respelled hCwd hFirst hHere]

/-- Neither spelling matters where something above the directory is allowed. -/
theorem isOk_of_below {cwd : String} {allowed : List String}
    (h : ∃ entry ∈ allowed, Below cwd entry) :
    (validateCwdAllowlist platform cwd allowed).isOk = true := by
  obtain ⟨entry, hEntry, hBelow⟩ := h
  rw [isOk_validateCwdAllowlist_iff]
  exact ⟨entry, hEntry, (underAllowed_iff_below ..).mpr (.inl hBelow)⟩

/-- The empty entry lets the root through, be it written as nothing or with slashes. -/
theorem isOk_of_empty_entry {cwd : String} {allowed : List String} (hRoot : trimEndSlashes cwd = [])
    (hEmpty : "" ∈ allowed) : (validateCwdAllowlist platform cwd allowed).isOk = true := by
  rw [isOk_validateCwdAllowlist_iff]
  refine ⟨"", hEmpty, (underAllowed_iff_below ..).mpr (.inr ⟨hRoot.symm, ?_⟩)⟩
  by_cases hText : cwd.toList = []
  · exact .inl (String.toList_eq_nil_iff.mp hText)
  · right
    rwa [hRoot]

/-- The spelling is of no account exactly when an entry lies above the directory, when no
entry is the directory itself, or when the directory is the root and the empty text an
entry. -/
theorem spellingIndependent_iff (cwd : String) (allowed : List String) :
    SpellingIndependent platform cwd allowed ↔
      (∃ entry ∈ allowed, Below cwd entry) ∨
        (∀ entry ∈ allowed, ¬ SameButSlashes entry cwd) ∨
        (trimEndSlashes cwd = [] ∧ "" ∈ allowed) := by
  constructor
  · intro hIndependent
    by_contra hNone
    push Not at hNone
    obtain ⟨hBelow, ⟨entry, hEntry, hSame⟩, hEmpty⟩ := hNone
    -- with a slash the directory passes, without one it does not pass slashed entries
    have hPasses : (validateCwdAllowlist platform (slashed cwd) allowed).isOk = true := by
      rw [isOk_validateCwdAllowlist_iff]
      refine ⟨entry, hEntry, (underAllowed_iff_below ..).mpr (.inr ⟨?_, .inr fun hBare => ?_⟩)⟩
      · exact hSame.trans (sameButSlashes_slashed cwd)
      · rw [← sameButSlashes_slashed cwd, slashed, String.toList_ofList] at hBare
        simp at hBare
    have hFails : ¬ (validateCwdAllowlist platform (bare cwd)
        (allowed.map slashedEntry)).isOk = true := by
      rw [isOk_validateCwdAllowlist_iff]
      rintro ⟨_, hMem, hUnder⟩
      obtain ⟨other, hOther, rfl⟩ := List.mem_map.mp hMem
      rw [underAllowed_bare_slashedEntry (hBelow other hOther)] at hUnder
      · cases hUnder
      · rintro hRoot rfl
        exact hEmpty hRoot hOther
    rw [hIndependent _ _ (sameButSlashes_bare cwd)
      (List.forall₂_map_right_iff.mpr (List.forall₂_same.mpr fun other _ =>
        respelled_slashedEntry other)),
      ← hIndependent _ _ (sameButSlashes_slashed cwd) (List.forall₂_same.mpr fun other _ =>
        ⟨rfl, fun _ => rfl⟩)] at hFails
    exact hFails hPasses
  · intro hCondition cwd' allowed' hCwd hAllowed
    rcases hCondition with ⟨entry, hEntry, hBelow⟩ | hOther | ⟨hRoot, hEmpty⟩
    · obtain ⟨entry', hMem, hRespelled⟩ := exists_respelled hAllowed hEntry
      rw [isOk_of_below platform ⟨entry, hEntry, hBelow⟩,
        isOk_of_below platform ⟨entry', hMem, (hRespelled.below_iff hCwd).mpr hBelow⟩]
    · rw [Bool.eq_iff_iff, isOk_validateCwdAllowlist_iff, isOk_validateCwdAllowlist_iff,
        any_underAllowed_respelled hCwd hAllowed hOther]
    · obtain ⟨entry', hMem, hRespelled⟩ := exists_respelled hAllowed hEmpty
      rw [hRespelled.2 rfl] at hMem
      rw [isOk_of_empty_entry platform hRoot hEmpty,
        isOk_of_empty_entry platform (hCwd.symm.trans hRoot) hMem]

/-- An entry with a slash at its end refuses its own directory, which it accepts
without. -/
theorem slash_refuses_directory :
    ¬ ∀ (platform : Platform) (cwd : String) (allowed : List String),
      SpellingIndependent platform cwd allowed := by
  intro h
  have hSame := h ⟨fun _ => true, fun _ => true, fun _ => "", "", fun _ => true, true⟩ "/tmp"
    ["/tmp"] "/tmp" ["/tmp/"] rfl (.cons ⟨by decide, by decide⟩ .nil)
  exact absurd hSame (by decide)

end Spelling

end Mxdx.Worker
