/-
  The machine that a program runs on, as far as it can be seen: its files, the
  current directory and the environment.

  * `Host.programFor?` looks a program up on the search path;
  * `Host.normalizeArgs` replaces the program of a command by where it is.
-/
import FlowLens.System.FileTree

namespace FlowLens

/-- Variables with their values. -/
abbrev Environment := List (Text × Text)

namespace Environment

/-- The value of a variable. -/
def get? (name : Text) : Environment → Option Text
  | [] => none
  | (n, v) :: rest => if n = name then some v else get? name rest

/-- The environment with a variable set. -/
def put (name value : Text) : Environment → Environment
  | [] => [(name, value)]
  | (n, v) :: rest => if n = name then (n, value) :: rest else (n, v) :: put name value rest

end Environment

/-- What a program sees of the machine. -/
structure Host where
  /-- The files. -/
  tree : FileTree
  /-- The current directory, which is absolute and has no links. -/
  cwd : Path
  /-- The environment. -/
  env : Environment

namespace Host

/-- A file name behind a directory of the search path. -/
def inDirectory (directory name : Text) : Text :=
  if directory.isEmpty then name
  else if directory.getLast? = some (.char '/') then directory ++ name
  else directory ++ .char '/' :: name

/-- Where programs are looked for if the environment does not say. -/
def standardSearchPath : Text := "/bin:/usr/bin"

/-- The directories of the search path; an empty one has none. -/
def searchPath (host : Host) : List Text :=
  match (Environment.get? "PATH" host.env).getD standardSearchPath with
  | [] => []
  | path => Text.splitBy (· = .char ':') path

/-- Where a program is: a name with a slash is taken as it is, any other is
    looked for in the directories of the search path. -/
def programFor? (host : Host) (name : Text) : Option Text :=
  if name.any Path.isSlash then
    if host.tree.isProgram host.cwd name then some name else none
  else (host.searchPath.map (inDirectory · name)).find? (host.tree.isProgram host.cwd)

/-- Why a command cannot be run. -/
inductive CommandFault where
  /-- It is empty. -/
  | noProgram
  /-- Its program is nowhere. -/
  | notFound (program : Text)
  deriving DecidableEq, Repr

/-- The wording of a fault. -/
def CommandFault.message : CommandFault → Text
  | noProgram => "subprocess command requires at least one argument"
  | notFound program => "Executable '" ++ program ++ "' was not found on PATH"

/-- A command with its program replaced by where it is. -/
def normalizeArgs (host : Host) : List Text → Except CommandFault (List Text)
  | [] => .error .noProgram
  | program :: rest =>
    let path := Path.ofText program
    if path.isAbsolute then .ok (path.text :: rest)
    else
      match host.programFor? program with
      | some found => .ok (found :: rest)
      | none => .error (.notFound program)

/-- A path with its links worked out. -/
def realPath (host : Host) (p : Path) : Except FileTree.Impasse Path :=
  host.tree.realPath host.cwd p

end Host

end FlowLens
