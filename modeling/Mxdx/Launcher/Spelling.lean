import Mxdx.Launcher.Executor

/-! The options that the launcher's crate keeps from `git` and `docker`, in the
spellings that these programs take. The checks know an option as a word of its
own; a spelling joined with its value, and a `foreach` behind options of
`submodule`, are other words. -/
namespace Mxdx.Launcher

/-- The arguments behind some occurrence of a word have the property. -/
def Behind (word : String) (property : List String → Prop) (args : List String) : Prop :=
  ∃ rest, word :: rest <:+ args ∧ property rest

theorem behind_cons {word arg : String} {property : List String → Prop} {args : List String} :
    Behind word property (arg :: args) ↔
      (arg = word ∧ property args) ∨ Behind word property args := by
  unfold Behind
  simp only [List.suffix_cons_iff, List.cons.injEq]
  constructor
  · rintro ⟨rest, ⟨rfl, rfl⟩ | hSuffix, hRest⟩
    · exact .inl ⟨rfl, hRest⟩
    · exact .inr ⟨rest, hSuffix, hRest⟩
  · rintro (⟨rfl, hRest⟩ | ⟨rest, hSuffix, hRest⟩)
    · exact ⟨args, .inl ⟨rfl, rfl⟩, hRest⟩
    · exact ⟨rest, .inr hSuffix, hRest⟩

theorem not_behind_nil {word : String} {property : List String → Prop} :
    ¬ Behind word property [] := by
  rintro ⟨rest, hSuffix, -⟩
  cases List.suffix_nil.mp hSuffix

theorem Behind.mono {word : String} {first second : List String → Prop} {args : List String}
    (h : Behind word first args) (hMono : ∀ rest, first rest → second rest) :
    Behind word second args := by
  obtain ⟨rest, hSuffix, hRest⟩ := h
  exact ⟨rest, hSuffix, hMono rest hRest⟩

theorem behind_or {word : String} {first second : List String → Prop} {args : List String} :
    Behind word (fun rest => first rest ∨ second rest) args ↔
      Behind word first args ∨ Behind word second args := by
  constructor
  · rintro ⟨rest, hSuffix, hFirst | hSecond⟩
    · exact .inl ⟨rest, hSuffix, hFirst⟩
    · exact .inr ⟨rest, hSuffix, hSecond⟩
  · rintro (h | h)
    · exact h.mono fun _ => .inl
    · exact h.mono fun _ => .inr

/-- `-f X` and `--file X`. -/
def FileWord (arg : String) : Prop := arg = "-f" ∨ arg = "--file"

/-- `-fX`, `-f=X` and `--file=X`. -/
def FileJoined (arg : String) : Prop :=
  (∃ value, value ≠ "" ∧ arg = "-f" ++ value) ∨ ∃ value, arg = "--file=" ++ value

/-- `-c X` and `--config X`. -/
def ConfigWord (arg : String) : Prop := arg = "-c" ∨ arg = "--config"

/-- `--config=X` and `--config-env=X`. -/
def ConfigJoined (arg : String) : Prop :=
  (∃ value, arg = "--config=" ++ value) ∨ ∃ value, arg = "--config-env=" ++ value

/-- `foreach` comes next. -/
def ForeachNext (rest : List String) : Prop := rest.head? = some "foreach"

/-- `foreach` comes after at least one option. -/
def ForeachLater (rest : List String) : Prop :=
  ∃ options after, rest = options ++ "foreach" :: after ∧ options ≠ [] ∧
    ∀ option ∈ options, ['-'] <+: option.toList

/-- `foreach` comes next or after options. -/
def Foreach (rest : List String) : Prop :=
  ∃ options after, rest = options ++ "foreach" :: after ∧
    ∀ option ∈ options, ['-'] <+: option.toList

theorem foreach_iff {rest : List String} : Foreach rest ↔ ForeachNext rest ∨ ForeachLater rest := by
  constructor
  · rintro ⟨options, after, rfl, hOptions⟩
    by_cases hNone : options = []
    · subst hNone
      exact .inl rfl
    · exact .inr ⟨options, after, rfl, hNone, hOptions⟩
  · rintro (hNext | ⟨options, after, hRest, -, hOptions⟩)
    · obtain ⟨after, rfl⟩ := List.head?_eq_some_iff.mp hNext
      exact ⟨[], after, rfl, by simp⟩
    · exact ⟨options, after, hRest, hOptions⟩

/-- A blocked option stands in the arguments, in any spelling. -/
def Selects (cmd : String) (args : List String) : Prop :=
  (cmd = "docker" ∧ Behind "compose" (∃ arg ∈ ·, FileWord arg ∨ FileJoined arg) args) ∨
    (cmd = "git" ∧ ((∃ arg ∈ args, ConfigWord arg ∨ ConfigJoined arg) ∨
      Behind "submodule" Foreach args))

/-- One stands there as a word of its own. -/
def SelectsPlainly (cmd : String) (args : List String) : Prop :=
  (cmd = "docker" ∧ Behind "compose" (∃ arg ∈ ·, FileWord arg) args) ∨
    (cmd = "git" ∧ ((∃ arg ∈ args, ConfigWord arg) ∨ Behind "submodule" ForeachNext args))

/-- One stands there in another spelling. -/
def SelectsOtherwise (cmd : String) (args : List String) : Prop :=
  (cmd = "docker" ∧ Behind "compose" (∃ arg ∈ ·, FileJoined arg) args) ∨
    (cmd = "git" ∧ ((∃ arg ∈ args, ConfigJoined arg) ∨ Behind "submodule" ForeachLater args))

theorem exists_mem_or {args : List String} {first second : String → Prop} :
    (∃ arg ∈ args, first arg ∨ second arg) ↔
      (∃ arg ∈ args, first arg) ∨ ∃ arg ∈ args, second arg := by
  simp only [and_or_left, exists_or]

theorem selects_iff {cmd : String} {args : List String} :
    Selects cmd args ↔ SelectsPlainly cmd args ∨ SelectsOtherwise cmd args := by
  have hForeach : Behind "submodule" Foreach args ↔
      Behind "submodule" ForeachNext args ∨ Behind "submodule" ForeachLater args := by
    rw [← behind_or]
    exact exists_congr fun rest => and_congr_right fun _ => foreach_iff
  have hFile : Behind "compose" (∃ arg ∈ ·, FileWord arg ∨ FileJoined arg) args ↔
      Behind "compose" (∃ arg ∈ ·, FileWord arg) args ∨
        Behind "compose" (∃ arg ∈ ·, FileJoined arg) args := by
    rw [← behind_or]
    exact exists_congr fun rest => and_congr_right fun _ => exists_mem_or
  unfold Selects SelectsPlainly SelectsOtherwise
  rw [hForeach, hFile, exists_mem_or, or_or_or_comm, and_or_left, and_or_left, or_or_or_comm]

theorem validateGitArgs_ok_iff {args : List String} :
    validateGitArgs args = .ok () ↔
      ¬ ((∃ arg ∈ args, ConfigWord arg) ∨ Behind "submodule" ForeachNext args) := by
  induction args with
  | nil => exact iff_of_true rfl (by simp [not_behind_nil])
  | cons arg rest ih =>
      rw [validateGitArgs, behind_cons, List.exists_mem_cons_iff]
      by_cases hConfig : arg = "-c" ∨ arg = "--config"
      · rw [if_pos hConfig]
        exact iff_of_false nofun fun h => h (.inl (.inl hConfig))
      · rw [if_neg hConfig]
        by_cases hForeach : arg = "submodule" ∧ rest.head? = some "foreach"
        · rw [if_pos hForeach]
          exact iff_of_false nofun fun h => h (.inr (.inl hForeach))
        · rw [if_neg hForeach, ih, not_iff_not]
          exact or_congr (or_iff_right hConfig).symm (or_iff_right hForeach).symm

theorem validateDockerArgs_ok_iff {args : List String} :
    validateDockerArgs args = .ok () ↔ ¬ Behind "compose" (∃ arg ∈ ·, FileWord arg) args := by
  induction args with
  | nil => exact iff_of_true rfl not_behind_nil
  | cons arg rest ih =>
      rw [validateDockerArgs, behind_cons]
      by_cases hFile : arg = "compose" ∧ ∃ subsequent ∈ rest,
          subsequent = "-f" ∨ subsequent = "--file"
      · rw [if_pos hFile]
        exact iff_of_false nofun fun h => h (.inl hFile)
      · rw [if_neg hFile, ih, not_iff_not]
        exact (or_iff_right hFile).symm

/-- The checks on the arguments see what stands as a word of its own. -/
theorem validateArgs_ok_iff {cmd : String} {args : List String} :
    validateArgs cmd args = .ok () ↔ cmd ≠ "env" ∧ ¬ SelectsPlainly cmd args := by
  unfold validateArgs SelectsPlainly
  by_cases hGit : cmd = "git"
  · subst hGit
    rw [if_pos rfl, validateGitArgs_ok_iff]
    simp
  · rw [if_neg hGit]
    by_cases hDocker : cmd = "docker"
    · subst hDocker
      rw [if_pos rfl, validateDockerArgs_ok_iff]
      simp
    · rw [if_neg hDocker]
      by_cases hEnv : cmd = "env" <;> simp [hEnv, hGit, hDocker]

variable {config : CapabilitiesConfig} {cmd : String} {args : List String} {cwd : Option String}

/-- The command may be run, and the directory may be run in. -/
def Permitted (config : CapabilitiesConfig) (cmd : String) (cwd : Option String) : Prop :=
  (config.mode = .allowlist → cmd ∈ config.allowedCommands) ∧
    ∃ resolved, validateCwd config cwd = .ok resolved

theorem validateCommand_ok_iff :
    (∃ validated, validateCommand config cmd args cwd = .ok validated) ↔
      Permitted config cmd cwd ∧ validateArgs cmd args = .ok () := by
  unfold validateCommand Permitted
  by_cases hDenied : config.mode = .allowlist ∧ cmd ∉ config.allowedCommands
  · rw [if_pos hDenied]
    refine iff_of_false (fun ⟨validated, h⟩ => nomatch h) fun ⟨⟨hAllowed, _⟩, _⟩ => ?_
    exact hDenied.2 (hAllowed hDenied.1)
  · rw [if_neg hDenied]
    have hAllowed : config.mode = .allowlist → cmd ∈ config.allowedCommands := fun hMode =>
      by_contra fun hMissing => hDenied ⟨hMode, hMissing⟩
    cases validateCwd config cwd with
    | error text => exact iff_of_false (fun ⟨_, h⟩ => nomatch h) fun ⟨⟨_, _, h⟩, _⟩ => nomatch h
    | ok resolved =>
        cases validateArgs cmd args with
        | error text => exact iff_of_false (fun ⟨_, h⟩ => nomatch h) fun ⟨_, h⟩ => nomatch h
        | ok value => exact iff_of_true ⟨_, rfl⟩ ⟨⟨hAllowed, resolved, rfl⟩, rfl⟩

/-- A command that gets through has none of the blocked options. -/
def Blocks (config : CapabilitiesConfig) (cmd : String) (args : List String)
    (cwd : Option String) : Prop :=
  ∀ validated, validateCommand config cmd args cwd = .ok validated → ¬ Selects cmd args

/-- The options are blocked exactly where every other spelling comes with a plain one. -/
theorem blocks_iff (config : CapabilitiesConfig) (cmd : String) (args : List String)
    (cwd : Option String) :
    Blocks config cmd args cwd ↔
      (Permitted config cmd cwd → SelectsOtherwise cmd args → SelectsPlainly cmd args) := by
  have hOther : SelectsOtherwise cmd args → cmd ≠ "env" := by
    rintro (⟨rfl, -⟩ | ⟨rfl, -⟩) <;> decide
  constructor
  · intro h hPermitted hOtherwise
    by_contra hPlain
    have hArgs := validateArgs_ok_iff.mpr ⟨hOther hOtherwise, hPlain⟩
    obtain ⟨validated, hOk⟩ := validateCommand_ok_iff.mpr ⟨hPermitted, hArgs⟩
    exact h validated hOk (selects_iff.mpr (.inr hOtherwise))
  · intro h validated hOk hSelects
    obtain ⟨hPermitted, hArgs⟩ := validateCommand_ok_iff.mp ⟨validated, hOk⟩
    have hPlain := (validateArgs_ok_iff.mp hArgs).2
    exact hPlain ((selects_iff.mp hSelects).elim id (h hPermitted))

/-- A compose file joined with its option, and a configuration from the environment,
get through. -/
theorem not_blocks_joined :
    ¬ Blocks ⟨.allowlist, ["docker"], []⟩ "docker" ["compose", "-f/tmp/evil.yml", "up"] none ∧
      ¬ Blocks ⟨.allowlist, ["git"], []⟩ "git" ["--config-env=core.pager=EVIL", "log"] none ∧
      ¬ Blocks ⟨.allowlist, ["git"], []⟩ "git" ["submodule", "--quiet", "foreach", "evil"]
        none := by
  refine ⟨fun h => ?_, fun h => ?_, fun h => ?_⟩
  · apply h ⟨"docker", ["compose", "-f/tmp/evil.yml", "up"], none⟩ rfl
    exact .inl ⟨rfl, ["-f/tmp/evil.yml", "up"], List.suffix_refl _, "-f/tmp/evil.yml",
      List.mem_cons_self, .inr (.inl ⟨"/tmp/evil.yml", by decide, rfl⟩)⟩
  · apply h ⟨"git", ["--config-env=core.pager=EVIL", "log"], none⟩ rfl
    exact .inr ⟨rfl, .inl ⟨"--config-env=core.pager=EVIL", List.mem_cons_self,
      .inr (.inr ⟨"core.pager=EVIL", rfl⟩)⟩⟩
  · apply h ⟨"git", ["submodule", "--quiet", "foreach", "evil"], none⟩ rfl
    exact .inr ⟨rfl, .inr ⟨["--quiet", "foreach", "evil"], List.suffix_refl _,
      ["--quiet"], ["evil"], rfl, by decide⟩⟩

end Mxdx.Launcher
