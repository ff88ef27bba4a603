/-
  Running programs on a host whose files are known: `execute` is the launcher whose
  programs are shell scripts and a few that every machine has.
-/
import FlowLens.Shell.Evaluation.Compound

namespace FlowLens

namespace Shell

/-! ## From outside -/

/-- How many commands a program runs that is not taken to be endless. -/
def commandLimit : Nat := 200000

/-- How deep commands may stand in commands. -/
def depthLimit : Nat := 12000

/-- The number of the process of a program that is run. -/
def firstProcess : Nat := 4242

/-- The machine before a program is run. -/
def stateOf (host : Host) (input : Option (List UInt8)) : State :=
  let source : Channel :=
    match input with | some bytes => .source (Octets.ofBytes bytes) | none => .null
  let world : World :=
    { tree := host.tree
      channels := [(0, source), (1, .sink []), (2, .sink [])]
      nextChannel := 3
      documents := []
      nextDocument := 0
      nextProcess := firstProcess
      alive := []
      signals := []
      clock := .zero false
      patience := commandLimit
      ends := [] }
  { world
    process := firstProcess - 1
    parent := 1
    leader := firstProcess - 1
    job := 0
    cwd := host.cwd
    shownCwd := Octets.ofText host.cwd.text
    bindings := host.env.foldl
      (fun vars (n, v) =>
        putVariable (Octets.ofText n) ⟨some (Octets.ofText v), true, false⟩ vars) []
    functions := []
    aliases := []
    name := []
    params := []
    options := []
    status := 0
    substituted := 0
    line := 0
    command := none
    descriptors := [(0, 0), (1, 1), (2, 2)]
    shut := []
    traps := []
    ignored := []
    waiting := []
    saved := none
    loops := 0
    calls := 0
    locals := []
    jobs := []
    lastJob := none
    place := .start
    mask := 18
    found := []
    output := [] }

/-- Whether a refusal says that there is no such file. -/
def isAbsence : Refusal → Bool
  | .noEntry => true
  | .notDirectory => true
  | _ => false

/-- The first of some paths that can be started.  Without one, the first refusal
    counts that does not say that there is no such file, or else the last one. -/
def State.firstStartable (s : State) (refusal : Refusal) : List Octets → Except Refusal Octets
  | [] => .error refusal
  | path :: rest =>
    match s.startable scriptDepth path with
    | .ok () => .ok path
    | .error other => s.firstStartable (if isAbsence refusal then other else refusal) rest

/-- Runs a program on a host: the first of some paths that can be started, or none. -/
def execute : Launcher := fun host name paths args input =>
  let s := stateOf host input
  let self := evaluateCommand depthLimit
  let collect (code : Int) (elapsed : Double) (s : State) : ProgramEnd :=
    ⟨code, (s.world.collected 1).toBytes, (s.world.collected 2).toBytes, elapsed⟩
  match s.firstStartable .noEntry (paths.map Octets.ofText) with
  | .error refusal => .error refusal
  | .ok path =>
    let life := become self scriptDepth path (Octets.ofText name) (args.map Octets.ofText)
    match inProcess self (discard life) s with
    | .ok code t => .ok (collect code ((t.world.ends.map (·.2)).foldl later t.world.clock) t)
    | .error _ t => .ok (collect 0 (.infinite false) t)

end Shell

end FlowLens
