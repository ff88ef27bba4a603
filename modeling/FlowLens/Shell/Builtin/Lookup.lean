/-
  What a name stands for: `type`, `command -v` and `hash`.
-/
import FlowLens.Shell.Builtin.Options

namespace FlowLens

namespace Shell

/-! ## Finding programs -/

/-- The paths that a name may stand for. -/
def candidates (path name : Octets) : List Octets :=
  (Octets.splitAt ':' path).map fun place =>
    if place.isEmpty then name
    else if place.getLast? = some '/' then place ++ name
    else place ++ "/" ++ name

/-- The first program that a name stands for on a search path. -/
def State.findOn (s : State) (path name : Octets) : Option Octets :=
  (candidates path name).find? fun p =>
    match s.nodeAt p with | .ok (.file _ true) => true | _ => false

/-- The first regular file that a name stands for on a search path. -/
def State.findFile (s : State) (path name : Octets) : Option Octets :=
  (candidates path name).find? fun p =>
    match s.nodeAt p with | .ok (.file _ _) | .ok (.sealed _) => true | _ => false

/-- What is said of a name that stands for no program on a search path. -/
def State.lackOn (s : State) (path name : Octets) : Octets :=
  let isThere := (candidates path name).any fun p =>
    match s.nodeAt p with | .ok _ => true | .error _ => false
  name ++ (if isThere then ": Permission denied" else ": not found")

/-- The search path. -/
def State.searchPath (s : State) : Octets :=
  (s.value? "PATH").getD []

/-- The built-in commands that functions hide. -/
def plainCommands : List Octets :=
  (["[", "alias", "bg", "cd", "chdir", "command", "echo", "false", "fg", "getopts", "hash", "jobs",
    "kill", "printf", "pwd", "read", "test", "true", "type", "ulimit", "umask", "unalias",
    "wait"] : List String).map String.toList

/-- Says what a name stands for, or where it is. -/
def describe (verbose : Bool) (name : Octets) : Act Nat := do
  let s ← get
  let tell (short long : Octets) : Act Nat := do
    put ((if verbose then name ++ long else short) ++ "\n")
    return 0
  if keywords.contains name then tell name " is a shell keyword"
  else
    match s.aliases.lookup name with
    | some value =>
      if verbose then tell [] (" is an alias for " ++ value)
      else tell ("alias " ++ name ++ "=" ++ inQuotes value) []
    | none =>
      if specialCommands.contains name then tell name " is a special shell builtin"
      else if s.functions.any (·.1 = name) then tell name " is a shell function"
      else if plainCommands.contains name then tell name " is a shell builtin"
      else
        let path : Option Octets :=
          if name.contains '/' then match s.nodeAt name with | .ok _ => some name | .error _ => none
          else s.findOn s.searchPath name
        match path with
        | some p =>
          let tracked := !name.contains '/' && s.found.any (·.1 = name)
          tell p ((if tracked then (" is a tracked alias for " : Octets) else " is ") ++ p)
        | none =>
          if verbose then put (name ++ ": not found\n")
          return 127

/-- Says what names stand for. -/
def typeCommand (args : List Octets) : Act Nat :=
  args.foldlM
    (fun status name => do
      let n ← describe true name
      return if n = 0 then status else n)
    0

/-- Shows or looks up the programs that were found. -/
def hashCommand (args : List Octets) : Act Nat := do
  let (options, names) ← splitOptions "r" args
  if !options.isEmpty then
    modify fun s => { s with found := [] }
    return 0
  else if names.isEmpty then
    (← get).found.reverse.forM fun (_, path) => put (path ++ "\n")
    return 0
  else
    names.foldlM
      (fun status name => do
        let s ← get
        if specialCommands.contains name || plainCommands.contains name ||
            s.functions.any (·.1 = name) || name.contains '/' then return status
        else
          match s.findOn s.searchPath name with
          | some path =>
            set { s with found := (name, path) :: s.found.filter (·.1 ≠ name) }
            return status
          | none =>
            complain (s.lackOn s.searchPath name)
            return 1)
      0

end Shell

end FlowLens
