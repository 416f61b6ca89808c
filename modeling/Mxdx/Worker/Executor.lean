import Mathlib.Data.List.Infix

/-! Validation of commands before anything is run. Every check fails with the
text that the worker sends back in the result of a rejected task. -/
namespace Mxdx.Worker

/-- What the worker asks of the machine it runs on: which paths there are, how
the standard library prints a list of texts for debugging, and where a socket
can be bound. -/
structure Platform where
  pathExists : String → Bool
  isDir : String → Bool
  debugList : List String → String
  socketDir : String
  bind : String → Bool
  mxdxExecExists : Bool

/-- A command that has passed all checks. -/
structure ValidatedCommand where
  bin : String
  args : List String
  env : List (String × String)
  cwd : Option String
deriving DecidableEq

/-- The characters that a shell would make something of. -/
def shellMetacharacters : List Char :=
  ";|&$\x60()\x7b\x7d<>\n\r".toList

/-- `bail!` unless the condition holds. -/
def ensure (holds : Bool) (error : String) : Except String Unit :=
  if holds then .ok () else .error error

section Checks

variable (platform : Platform)

/-- A program has no blank in it unless it is the path of a file that is there. -/
def validateBin (bin : String) : Except String Unit := do
  ensure (!bin.isEmpty) "bin must not be empty"
  ensure (!bin.toList.any (shellMetacharacters.contains ·))
    ("bin contains shell metacharacters: " ++ bin)
  ensure (!bin.toList.contains ' ' || platform.pathExists bin)
    ("bin contains spaces and is not a valid path: " ++ bin)

/-- The error names the first argument with a null character. -/
def validateArgs (args : List String) : Except String Unit :=
  match args.findIdx? fun arg => arg.toList.contains '\x00' with
  | some index => .error ("arg[" ++ toString index ++ "] contains null byte")
  | none => .ok ()

/-- A directory is an absolute path without a step up. -/
def validateCwd (cwd : String) : Except String Unit := do
  ensure (cwd.toList.head? == some '/') ("cwd must be an absolute path: " ++ cwd)
  ensure (!decide (['.', '.'] <:+: cwd.toList))
    ("cwd must not contain path traversal (..): " ++ cwd)
  ensure (platform.isDir cwd) ("cwd does not exist or is not a directory: " ++ cwd)

def isAsciiUppercase (c : Char) : Bool := 'A' ≤ c && c ≤ 'Z'

/-- Capital letters, digits and underscores, and no digit first. -/
def isValidEnvKey (key : String) : Bool :=
  match key.toList with
  | [] => false
  | first :: rest =>
      (isAsciiUppercase first || first == '_') &&
        rest.all fun c => isAsciiUppercase c || c.isDigit || c == '_'

/-- The error names the first bad key in the order the map is walked. -/
def validateEnv (env : List (String × String)) : Except String Unit :=
  match env.find? fun entry => !isValidEnvKey entry.1 with
  | some entry =>
      .error ("invalid env key (must match [A-Z_][A-Z0-9_]*): " ++ entry.1)
  | none => .ok ()

/-- An empty list denies everything. -/
def validateAllowlist (bin : String) (allowed : List String) : Except String Unit := do
  ensure (!allowed.isEmpty) "command allowlist is empty — all commands are denied"
  ensure (allowed.contains bin)
    ("command '" ++ bin ++ "' is not in the allowlist: " ++ platform.debugList allowed)

def trimEndSlashes (path : String) : List Char :=
  (path.toList.reverse.dropWhile (· == '/')).reverse

/-- The directory itself or one below it. -/
def underAllowed (cwd allowed : String) : Bool :=
  cwd == allowed || (trimEndSlashes allowed ++ ['/']).isPrefixOf cwd.toList

/-- The directory is one of the list or lies below one. -/
def validateCwdAllowlist (cwd : String) (allowed : List String) : Except String Unit := do
  ensure (!allowed.isEmpty) "cwd allowlist is empty — all directories are denied"
  ensure (allowed.any (underAllowed cwd))
    ("cwd '" ++ cwd ++ "' is not under any allowed directory: " ++ platform.debugList allowed)

/-- The allowlists come first, the shape of the command after them. -/
def validateCommand (bin : String) (args : List String) (env : Option (List (String × String)))
    (cwd : Option String) (allowedCommands allowedCwd : List String) :
    Except String ValidatedCommand := do
  validateAllowlist platform bin allowedCommands
  match cwd with
  | some cwd => validateCwdAllowlist platform cwd allowedCwd
  | none => ensure allowedCwd.isEmpty "cwd is required when a cwd allowlist is configured"
  validateBin platform bin
  validateArgs args
  match env with
  | some env => validateEnv env
  | none => .ok ()
  match cwd with
  | some cwd => validateCwd platform cwd
  | none => .ok ()
  return ⟨bin, args, env.getD [], cwd⟩

end Checks

end Mxdx.Worker
