import Mxdx.Foundations.Paths

/-! The checks of the launcher's crate on a command and on the directory to run
it in. The directory is normalised as a text and compared with the allowed
prefixes as a text. -/
namespace Mxdx.Launcher

open Path

/-- Whether the list names what may run. -/
inductive CapabilityMode where
  | allowlist
  | denylist
deriving DecidableEq

/-- What the launcher allows. -/
structure CapabilitiesConfig where
  mode : CapabilityMode
  allowedCommands : List String
  allowedCwdPrefixes : List String

/-- A command that has passed all checks. -/
structure ValidatedCommand where
  cmd : String
  args : List String
  cwd : Option String
deriving DecidableEq

/-- One turn of the loop over the parts of a path. -/
def pushPart (isAbsolute : Bool) (components : List Text) (part : Text) : List Text :=
  match part with
  | [] | ['.'] => components
  | ['.', '.'] =>
      if isAbsolute then components.dropLast
      else if components.getLast?.all (· == up) then components ++ [up]
      else components.dropLast
  | other => components ++ [other]

/-- Resolve the parts of a path that lead up or nowhere, on the text alone. -/
def normalizePath (path : String) : String :=
  let isAbsolute := Path.isAbsolute path.toList
  let components := (segments path.toList).foldl (pushPart isAbsolute) []
  let joined := List.intercalate ['/'] components
  String.ofList (if isAbsolute then '/' :: joined else joined)

/-- A configuration of the caller's own is refused, and `submodule foreach`. -/
def validateGitArgs : List String → Except String Unit
  | [] => .ok ()
  | arg :: rest =>
      if arg = "-c" ∨ arg = "--config" then
        .error ("argument not permitted: git " ++ arg ++ " is blocked")
      else if arg = "submodule" ∧ rest.head? = some "foreach" then
        .error "argument not permitted: git submodule foreach is blocked"
      else validateGitArgs rest

/-- A compose file of the caller's own is refused. -/
def validateDockerArgs : List String → Except String Unit
  | [] => .ok ()
  | arg :: rest =>
      if arg = "compose" ∧ ∃ subsequent ∈ rest, subsequent = "-f" ∨ subsequent = "--file" then
        .error "argument not permitted: docker compose -f/--file is blocked"
      else validateDockerArgs rest

/-- Of git and docker the arguments are looked at; `env` takes none at all. -/
def validateArgs (cmd : String) (args : List String) : Except String Unit :=
  if cmd = "git" then validateGitArgs args
  else if cmd = "docker" then validateDockerArgs args
  else if cmd = "env" then
    .error "argument not permitted: env command is blocked to prevent prefix injection"
  else .ok ()

/-- A task without a directory gets through with none. -/
def validateCwd (config : CapabilitiesConfig) : Option String → Except String (Option String)
  | some cwd =>
      let normalized := normalizePath cwd
      if config.allowedCwdPrefixes.any fun allowed =>
          allowed.toList.isPrefixOf normalized.toList then
        .ok (some normalized)
      else .error ("cwd not permitted: " ++ normalized)
  | none => .ok none

/-- The name is checked first, then the directory, then the arguments. -/
def validateCommand (config : CapabilitiesConfig) (cmd : String) (args : List String)
    (cwd : Option String) : Except String ValidatedCommand := do
  if config.mode = .allowlist ∧ cmd ∉ config.allowedCommands then
    .error ("command '" ++ cmd ++ "' not permitted")
  let resolvedCwd ← validateCwd config cwd
  validateArgs cmd args
  return ⟨cmd, args, resolvedCwd⟩

section Normalisation

variable {path : NormalPath} {segment : Text}

theorem pushPart_name (h : IsName segment) (isAbsolute : Bool) (components : List Text) :
    pushPart isAbsolute components segment = components ++ [segment] := by
  unfold pushPart
  split
  · exact absurd rfl h.nonempty
  · exact absurd rfl h.not_here
  · exact absurd rfl h.not_up
  · rfl

theorem pushPart_up_of_name {names : List Text} (h : ∀ name ∈ names, IsName name)
    (hNames : names ≠ []) (isAbsolute : Bool) (components : List Text) :
    pushPart isAbsolute (components ++ names) up = components ++ names.dropLast := by
  have hLast : names.getLast hNames ≠ up := (h _ (List.getLast_mem hNames)).not_up
  have hPop : (components ++ names).dropLast = components ++ names.dropLast :=
    List.dropLast_append_of_ne_nil hNames
  have hNotUp : (components ++ names).getLast?.all (· == up) = false := by
    simp [List.getLast?_append, List.getLast?_eq_some_getLast hNames, hLast]
  cases isAbsolute with
  | true => exact hPop
  | false =>
      rw [← hPop]
      show (if (components ++ names).getLast?.all (· == up) = true then _ else _) = _
      rw [hNotUp]
      rfl

theorem pushPart_up_of_ups (count : Nat) :
    pushPart false (List.replicate count up) up = List.replicate (count + 1) up := by
  have hUps : (List.replicate count up).getLast?.all (· == up) = true := by
    cases count with
    | zero => rfl
    | succ count => simp [List.getLast?_replicate]
  show (if (List.replicate count up).getLast?.all (· == up) = true then _ else _) = _
  rw [hUps, List.replicate_succ']
  rfl

/-- A part is pushed as it is entered. -/
theorem exists_pushPart (path : NormalPath) (hSlash : '/' ∉ segment) :
    ∃ next : NormalPath, next.absolute = path.absolute ∧
      next.components = pushPart path.absolute path.components segment ∧
      ∀ base, next.directory base = enter (path.directory base) segment := by
  by_cases hNothing : segment = []
  · subst hNothing
    exact ⟨path, rfl, rfl, fun base => (enter_nil _).symm⟩
  by_cases hHere : segment = ['.']
  · subst hHere
    exact ⟨path, rfl, rfl, fun base => (enter_here _).symm⟩
  by_cases hUp : segment = up
  · subst hUp
    by_cases hNames : path.names = []
    · cases hAbsolute : path.absolute with
      | true =>
          have hRoot : path.components = [] := by
            simp [NormalPath.components, hNames, path.ups_absolute hAbsolute]
          refine ⟨path, hAbsolute, ?_, fun base => ?_⟩
          · rw [hRoot]
            rfl
          · simp [NormalPath.directory, hRoot, hAbsolute]
      | false =>
          have hUps : path.components = List.replicate path.ups up := by
            simp [NormalPath.components, hNames]
          let next : NormalPath := ⟨false, path.ups + 1, [], by simp, by simp⟩
          have hNext : next.components = List.replicate (path.ups + 1) up := by
            simp [next, NormalPath.components]
          refine ⟨next, rfl, ?_, fun base => ?_⟩
          · rw [hUps, hNext, pushPart_up_of_ups]
          · rw [NormalPath.directory, NormalPath.directory, hUps, hNext, List.replicate_succ',
              List.foldl_concat, enter_up, enter_up, hAbsolute]
    · let next : NormalPath :=
        { path with
          names := path.names.dropLast
          isName := fun name hName => path.isName name (List.mem_of_mem_dropLast hName) }
      refine ⟨next, rfl, ?_, fun base => ?_⟩
      · exact (pushPart_up_of_name path.isName hNames _ _).symm
      · simp only [NormalPath.directory, NormalPath.components, List.foldl_append, enter_up,
          foldl_enter_names path.isName, foldl_enter_names next.isName]
        exact (List.dropLast_append_of_ne_nil hNames).symm
  · have hName : IsName segment := ⟨hNothing, hHere, hUp, hSlash⟩
    let next : NormalPath :=
      { path with
        names := path.names ++ [segment]
        isName := by
          intro name hMem
          rcases List.mem_append.mp hMem with hOld | hNew
          · exact path.isName name hOld
          · exact List.eq_of_mem_singleton hNew ▸ hName }
    have hNext : next.components = path.components ++ [segment] := (List.append_assoc ..).symm
    refine ⟨next, rfl, ?_, fun base => ?_⟩
    · rw [hNext, pushPart_name hName]
    · rw [NormalPath.directory, hNext, List.foldl_concat]
      rfl

theorem exists_foldl_pushPart (path : NormalPath) {parts : List Text}
    (hSlash : ∀ part ∈ parts, '/' ∉ part) :
    ∃ next : NormalPath, next.absolute = path.absolute ∧
      next.components = parts.foldl (pushPart path.absolute) path.components ∧
      ∀ base, next.directory base = parts.foldl enter (path.directory base) := by
  induction parts generalizing path with
  | nil => exact ⟨path, rfl, rfl, fun base => rfl⟩
  | cons part parts ih =>
      obtain ⟨hPart, hParts⟩ := List.forall_mem_cons.mp hSlash
      obtain ⟨middle, hAbsolute, hComponents, hDirectory⟩ := exists_pushPart path hPart
      obtain ⟨next, hAbsolute', hComponents', hDirectory'⟩ := ih middle hParts
      refine ⟨next, hAbsolute'.trans hAbsolute, ?_, fun base => ?_⟩
      · rw [hComponents', hComponents, hAbsolute, List.foldl_cons]
      · rw [hDirectory', hDirectory, List.foldl_cons]

/-- The result is in normal form and denotes the directory of the input. -/
theorem exists_normalizePath (path : String) :
    ∃ normal : NormalPath, (normalizePath path).toList = normal.text ∧
      normal.absolute = isAbsolute path.toList ∧
      ∀ base, normal.directory base = resolve base path.toList := by
  let empty : NormalPath := ⟨isAbsolute path.toList, 0, [], by simp, fun _ => rfl⟩
  have hSlash : ∀ part ∈ segments path.toList, '/' ∉ part :=
    fun part hPart => no_slash_of_mem_segments hPart
  obtain ⟨normal, hAbsolute, hComponents, hDirectory⟩ := exists_foldl_pushPart empty hSlash
  refine ⟨normal, ?_, hAbsolute, hDirectory⟩
  rw [normalizePath, String.toList_ofList, NormalPath.text, NormalPath.body, hAbsolute, hComponents]
  rfl

theorem foldl_pushPart_components (path : NormalPath) :
    path.components.foldl (pushPart path.absolute) [] = path.components := by
  have hNames : ∀ (names components : List Text), (∀ name ∈ names, IsName name) →
      names.foldl (pushPart path.absolute) components = components ++ names := by
    intro names
    induction names with
    | nil => simp
    | cons name names ih =>
        intro components h
        obtain ⟨hName, hRest⟩ := List.forall_mem_cons.mp h
        rw [List.foldl_cons, pushPart_name hName, ih _ hRest, List.append_assoc,
          List.singleton_append]
  have hUps : ∀ count, (path.absolute = true → count = 0) →
      (List.replicate count up).foldl (pushPart path.absolute) [] = List.replicate count up := by
    intro count hCount
    induction count with
    | zero => rfl
    | succ count ih =>
        cases hAbsolute : path.absolute with
        | true => exact absurd (hCount hAbsolute) (Nat.succ_ne_zero count)
        | false =>
            rw [hAbsolute] at ih
            rw [List.replicate_succ', List.foldl_concat, ih (by simp), pushPart_up_of_ups,
              List.replicate_succ']
  rw [NormalPath.components, List.foldl_append, hUps _ path.ups_absolute, hNames _ _ path.isName]

theorem foldl_pushPart_text (path : NormalPath) :
    (segments path.text).foldl (pushPart path.absolute) [] = path.components := by
  have hBody : (segments path.body).foldl (pushPart path.absolute) [] = path.components := by
    by_cases hNil : path.components = []
    · rw [path.body_of_nil hNil, hNil]
      rfl
    · rw [path.segments_body hNil, foldl_pushPart_components]
  rw [path.segments_text, List.foldl_append, ← hBody]
  split <;> rfl

theorem normalizePath_text (path : NormalPath) :
    normalizePath (String.ofList path.text) = String.ofList path.text := by
  simp only [normalizePath, String.toList_ofList, path.isAbsolute_text, foldl_pushPart_text]
  rfl

theorem normalizePath_normalizePath (path : String) :
    normalizePath (normalizePath path) = normalizePath path := by
  obtain ⟨normal, hText, -, -⟩ := exists_normalizePath path
  rw [← String.ofList_toList (s := normalizePath path), hText, normalizePath_text]

end Normalisation

section Gate

variable {config : CapabilitiesConfig}

/-- A directory that the checks let through is in normal form, is the one that was
asked for, and is an allowed one or lies inside of one. The launcher runs in `base`. -/
def Confined (base : List Text) (config : CapabilitiesConfig) : Prop :=
  ∀ cmd args cwd validated directory,
    validateCommand config cmd args cwd = .ok validated → validated.cwd = some directory →
      ∃ input, cwd = some input ∧
        (∃ normal : NormalPath, directory.toList = normal.text ∧
          normal.absolute = isAbsolute input.toList) ∧
        (∀ start, resolve start directory.toList = resolve start input.toList) ∧
        ∃ allowed ∈ config.allowedCwdPrefixes,
          resolve base allowed.toList <+: resolve base directory.toList

/-- No command is let through, in whatever directory. -/
def Vacant (config : CapabilitiesConfig) : Prop :=
  config.mode = .allowlist ∧ ∀ cmd ∈ config.allowedCommands, cmd = "env"

/-- Where a path can begin with an allowed prefix, an allowed directory holds
all the paths that do. -/
def Bounded (base : List Text) (config : CapabilitiesConfig) : Prop :=
  ∀ allowed ∈ config.allowedCwdPrefixes, Opens allowed.toList →
    ∃ wide ∈ config.allowedCwdPrefixes, resolve base wide.toList <+: reach base allowed.toList

theorem validateCwd_ok {cwd : Option String} {result : Option String}
    (h : validateCwd config cwd = .ok result) {directory : String}
    (hDirectory : result = some directory) :
    ∃ input, cwd = some input ∧ directory = normalizePath input ∧
      ∃ allowed ∈ config.allowedCwdPrefixes, allowed.toList <+: directory.toList := by
  cases cwd with
  | none => simp_all [validateCwd]
  | some input =>
      simp only [validateCwd] at h
      split at h
      next hAny =>
        obtain rfl := (Except.ok.inj h).trans hDirectory |> Option.some.inj
        simp only [List.any_eq_true, List.isPrefixOf_iff_prefix] at hAny
        exact ⟨input, rfl, rfl, hAny⟩
      next hNone => cases h

theorem validateCommand_ok {cmd : String} {args : List String} {cwd : Option String}
    {validated : ValidatedCommand} (h : validateCommand config cmd args cwd = .ok validated) :
    (config.mode = .allowlist → cmd ∈ config.allowedCommands) ∧ cmd ≠ "env" ∧
      validateCwd config cwd = .ok validated.cwd := by
  unfold validateCommand at h
  split at h
  next hDenied => cases h
  next hAllowed =>
    cases hCwd : validateCwd config cwd with
    | error text =>
        rw [hCwd] at h
        cases h
    | ok resolved =>
        cases hArgs : validateArgs cmd args with
        | error text =>
            rw [hCwd, hArgs] at h
            cases h
        | ok value =>
            rw [hCwd, hArgs] at h
            obtain rfl := Except.ok.inj h
            refine ⟨fun hMode => ?_, ?_, rfl⟩
            · exact by_contra fun hMissing => hAllowed ⟨hMode, hMissing⟩
            · rintro rfl
              simp [validateArgs] at hArgs

theorem validateArgs_nil {cmd : String} (h : cmd ≠ "env") : validateArgs cmd [] = .ok () := by
  unfold validateArgs
  split_ifs <;> rfl

/-- Unless the gate is closed there is a command for which only the directory counts. -/
theorem exists_validateCommand (h : ¬ Vacant config) :
    ∃ cmd, ∀ cwd directory, validateCwd config (some cwd) = .ok (some directory) →
      validateCommand config cmd [] (some cwd) = .ok ⟨cmd, [], some directory⟩ := by
  have hCmd : ∃ cmd, cmd ≠ "env" ∧ (config.mode = .allowlist → cmd ∈ config.allowedCommands) := by
    by_cases hMode : config.mode = .allowlist
    · by_contra hNone
      apply h
      refine ⟨hMode, fun cmd hCmd => ?_⟩
      by_contra hOther
      exact hNone ⟨cmd, hOther, fun _ => hCmd⟩
    · exact ⟨"", by decide, fun hAllowlist => absurd hAllowlist hMode⟩
  obtain ⟨cmd, hOther, hAllowed⟩ := hCmd
  refine ⟨cmd, fun cwd directory hCwd => ?_⟩
  rw [validateCommand, if_neg (fun hDenied => hDenied.2 (hAllowed hDenied.1)), hCwd,
    validateArgs_nil hOther]
  rfl

/-- Every normal path that begins with an allowed prefix gets through. -/
theorem validateCwd_text {allowed : String} (hAllowed : allowed ∈ config.allowedCwdPrefixes)
    {path : NormalPath} (h : allowed.toList <+: path.text) :
    validateCwd config (some (String.ofList path.text)) =
      .ok (some (String.ofList path.text)) := by
  simp only [validateCwd, normalizePath_text]
  rw [if_pos]
  simp only [List.any_eq_true, List.isPrefixOf_iff_prefix, String.toList_ofList]
  exact ⟨allowed, hAllowed, h⟩

/-- The checks confine commands exactly if they let none through, or if every
allowed prefix that a path can begin with reaches no further than the allowed
directories do. Normalising twice is normalising once in any case. -/
theorem confined_iff_bounded (base : List Text) (config : CapabilitiesConfig) :
    (Confined base config ∧ ∀ path, normalizePath (normalizePath path) = normalizePath path) ↔
      Vacant config ∨ Bounded base config := by
  let directories := config.allowedCwdPrefixes.map fun allowed => resolve base allowed.toList
  constructor
  · rintro ⟨hConfined, -⟩
    refine or_iff_not_imp_left.mpr fun hOpen allowed hAllowed => ?_
    obtain ⟨cmd, hCmd⟩ := exists_validateCommand hOpen
    have hCovered : ∀ path : NormalPath, allowed.toList <+: path.text →
        ∃ directory ∈ directories, directory <+: path.directory base := by
      intro path hPath
      obtain ⟨-, -, -, -, wide, hWide, hInside⟩ :=
        hConfined cmd [] _ _ _ (hCmd _ _ (validateCwd_text hAllowed hPath)) rfl
      rw [String.toList_ofList, path.resolve_text] at hInside
      exact ⟨_, List.mem_map_of_mem hWide, hInside⟩
    simpa [directories] using (covered_iff directories).mp hCovered
  · intro hCondition
    refine ⟨?_, normalizePath_normalizePath⟩
    intro cmd args cwd validated directory hOk hDirectory
    obtain ⟨hListed, hCmd, hCwd⟩ := validateCommand_ok hOk
    obtain ⟨input, rfl, rfl, allowed, hAllowed, hBegins⟩ := validateCwd_ok hCwd hDirectory
    obtain ⟨normal, hText, hAbsolute, hSame⟩ := exists_normalizePath input
    refine ⟨input, rfl, ⟨normal, hText, hAbsolute⟩, fun start => ?_, ?_⟩
    · rw [hText, normal.resolve_text, hSame]
    · rcases hCondition with hVacant | hBounded
      · exact absurd (hVacant.2 cmd (hListed hVacant.1)) hCmd
      · have hReach : Opens allowed.toList →
            ∃ directory ∈ directories, directory <+: reach base allowed.toList := by
          simpa [directories] using hBounded allowed hAllowed
        rw [hText] at hBegins ⊢
        rw [normal.resolve_text]
        simpa [directories] using (covered_iff directories).mpr hReach normal hBegins

/-- A prefix that a slash ends reaches no further than its directory. -/
example : Bounded [] ⟨.allowlist, ["cargo"], ["/workspace/"]⟩ := by
  intro allowed hAllowed hOpens
  obtain rfl : allowed = "/workspace/" := by simpa using hAllowed
  exact ⟨"/workspace/", by simp, by decide⟩

/-- The directory `/workspace-evil` passes for one inside of `/workspace`. -/
theorem not_confined_sibling :
    ¬ (Confined [] ⟨.allowlist, ["cargo"], ["/workspace"]⟩ ∧
      ∀ path, normalizePath (normalizePath path) = normalizePath path) := by
  rintro ⟨hConfined, -⟩
  obtain ⟨-, -, -, -, allowed, hAllowed, hInside⟩ :=
    hConfined "cargo" ["build"] (some "/workspace-evil")
      ⟨"cargo", ["build"], some "/workspace-evil"⟩ "/workspace-evil" (by decide +kernel) rfl
  obtain rfl : allowed = "/workspace" := by simpa using hAllowed
  revert hInside
  decide

end Gate

end Mxdx.Launcher
