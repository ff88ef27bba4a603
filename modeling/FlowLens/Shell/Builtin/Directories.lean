/-
  The working directory: `cd` and `pwd`.
-/
import FlowLens.Shell.Builtin.Arguments

namespace FlowLens

namespace Shell

/-! ## Directories -/

/-- What a path starts with: two slashes stay two, and any other number is one. -/
def leadingSlashes (path : Octets) : Octets :=
  match path.takeWhile (· = '/') with
  | ['/', '/'] => "//"
  | _ => "/"

/-- The directory behind a path as it is shown, without dots. -/
def shownDirectory (here path : Octets) : Octets :=
  let isAbsolute := path.head? = some '/'
  let full : Octets := if isAbsolute then path else here ++ "/" ++ path
  let parts := (Octets.splitAt '/' full).foldl
    (fun (done : List Octets) (part : Octets) =>
      if part.isEmpty || part = "." then done
      else if part = ".." then done.dropLast
      else done ++ [part])
    []
  leadingSlashes (if isAbsolute then path else here) ++ Octets.joined "/" parts

/-- Goes to a directory, if that can be done. -/
def enterDirectory (path : Octets) (physical : Bool) : Act Bool := do
  let s ← get
  let target := if physical then path else shownDirectory s.shownCwd path
  match s.world.tree.partsOf true s.cwd target.toText with
  | .error _ => return false
  | .ok parts =>
    if s.world.tree.find? parts ≠ some .dir then return false
    else
      let cwd : Path := ⟨.root, parts⟩
      let shown := if physical then Octets.ofText cwd.text else target
      let exported (name value : Octets) (s : State) : State :=
        { s with bindings := putVariable name ⟨some value, true, false⟩ s.bindings }
      set (exported "PWD" shown (exported "OLDPWD" s.shownCwd { s with cwd, shownCwd := shown }))
      return true

/-- Whether a path is looked for only where it says. -/
def isPlainPath (path : Octets) : Bool :=
  match path with
  | '/' :: _ => true
  | '.' :: [] => true
  | '.' :: '/' :: _ => true
  | '.' :: '.' :: [] => true
  | '.' :: '.' :: '/' :: _ => true
  | _ => false

/-- Goes to another directory. -/
def cdCommand (args : List Octets) : Act Nat := do
  let (options, operands) ← splitOptions "LP" args
  let physical := options.getLast?.any (·.1 = 'P')
  let s ← get
  let back := operands.head? = some "-"
  let target : Octets :=
    match operands with
    | [] => s.valueOf "HOME"
    | path :: _ => if back then s.valueOf "OLDPWD" else path
  let go (path : Octets) (shows : Bool) : Act Nat := do
    if ← enterDirectory path physical then
      if shows then put ((← get).shownCwd ++ "\n")
      return 0
    else fail ("can't cd to " ++ target)
  if isPlainPath target then go target back
  else
    let path : Octets := if target.isEmpty then "." else target
    let places := (Octets.splitAt ':' (s.valueOf "CDPATH")).map fun place =>
      (if place.isEmpty then path else place ++ "/" ++ path, !place.isEmpty)
    match places.find? fun (p, _) => s.isDirectory p with
    | some (p, shows) => go p (shows || back)
    | none => go path back

/-- Shows the directory. -/
def pwdCommand (args : List Octets) : Act Nat := do
  let (options, _) ← splitOptions "LP" args
  let s ← get
  if options.getLast?.any (·.1 = 'P') then put (Octets.ofText s.cwd.text ++ "\n")
  else put (s.shownCwd ++ "\n")
  return 0

end Shell

end FlowLens
