/-
  Finding the checker: the one that is set, else the nearest one installed above
  a directory, else the one on the search path.
-/
import FlowLens.Settings.Basic

namespace FlowLens

/-- Why the checker is not found. -/
inductive LocateFault where
  /-- It is in none of the places that were searched. -/
  | notFound (searched : List Text)
  /-- The directory to start from cannot be worked out. -/
  | impasse (cause : FileTree.Impasse)
  /-- A place cannot be looked at. -/
  | refused (e : SystemFault)
  deriving DecidableEq, Repr

/-- What to do about a checker that is in no place that was searched. -/
def installGuidance : Text :=
  "\nOops! Something went wrong! :(\n\n" ++
    "flowdiag could not find the \"flow\" binary. " ++
    "This can happen for a couple different reasons.\n\n" ++
    "1. If flow is installed globally, make sure the \"flow\" executable is on your PATH.\n\n" ++
    "2. If flow is installed locally, then it's likely that \"flow-bin\" is not installed " ++
    "correctly. " ++
    "Try reinstalling by running the following:\n\n" ++
    "  npm i -D flow-bin@latest\n\n" ++
    "You can also point FLOW_BIN at the checker executable.\n"

/-- The wording of a fault. -/
def LocateFault.message : LocateFault → Text
  | notFound _ => installGuidance
  | impasse cause => cause.message
  | refused e => e.message

namespace Host

/-- A directory, the one that holds it, and so on to the root. -/
def ancestors (p : Path) : List Path :=
  (List.range (p.parts.length + 1)).map fun n =>
    { p with parts := p.parts.take (p.parts.length - n) }

/-- Where a directory has the checker, if it has. -/
def installedIn (directory : Path) : Path :=
  ((directory.child "node_modules").child ".bin").child "flow"

/-- The first of some places where there is a program. -/
def firstProgram (host : Host) : List Path → Except LocateFault (Option Path)
  | [] => .ok none
  | place :: rest =>
    match host.tree.regular? host.cwd place.text with
    | .error r => .error (.refused (r.about place.text))
    | .ok (some (_, true)) => .ok (some place)
    | .ok _ => firstProgram host rest

/-- The checker installed nearest to a directory, in it or above it. -/
def localChecker (host : Host) (start : Path) : Except LocateFault (Option Path) :=
  match host.realPath start with
  | .error cause => .error (.impasse cause)
  | .ok directory => host.firstProgram ((ancestors directory).map installedIn)

/-- The checker to run. -/
def checkerFor (host : Host) (settings : Settings) (searchFrom : Option Path) :
    Except LocateFault Text :=
  match settings.flowBin with
  | some path => .ok path.text
  | none => do
    let start := searchFrom.getD host.cwd
    match ← host.localChecker start with
    | some path => .ok path.text
    | none =>
      match host.programFor? "flow" with
      | some path => .ok path
      | none => .error (.notFound ["node_modules/.bin above " ++ start.text, "PATH"])

end Host

end FlowLens
