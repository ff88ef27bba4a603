/-
  Running a command to its end: its program is looked up, it runs in a directory
  with an environment and an input, and its output is taken as text.  How programs
  run is not said here: `Host.spawn` takes a `Launcher` for that.
-/
import FlowLens.Number.Amount
import FlowLens.Process.Located

namespace FlowLens

/-- How a command is to be run. -/
structure SpawnOptions where
  /-- The directory, if not the current one. -/
  cwd : Option Path
  /-- The environment, if not that of the host. -/
  env : Option Environment
  /-- The input, if there is one. -/
  input : Option Text
  /-- The seconds after which the command is stopped. -/
  timeout : Option Amount

/-- What a program leaves behind. -/
structure ProgramEnd where
  /-- The status, negative for the number of the signal that ended it. -/
  code : Int
  /-- What it wrote to the standard output. -/
  stdout : List UInt8
  /-- What it wrote to the error stream. -/
  stderr : List UInt8
  /-- The seconds that it took, infinite if it does not end. -/
  elapsed : Double

/-- A way to run programs: in the current directory of a host, with its environment,
    the first of some paths that can be started, under a name and with arguments and
    an input. -/
abbrev Launcher :=
  Host → Text → List Text → List Text → Option (List UInt8) → Except Refusal ProgramEnd

/-- A command that came to its end. -/
structure Completed where
  /-- The command, with its program where it was found. -/
  args : List Text
  /-- The status, negative for the number of the signal that ended it. -/
  code : Int
  /-- The standard output. -/
  stdout : Text
  /-- The error stream. -/
  stderr : Text
  deriving DecidableEq, Repr

/-- Why a time to wait is none. -/
inductive TimeoutFault where
  /-- It is no number. -/
  | notANumber
  /-- It is infinite. -/
  | infinite
  /-- It has more milliseconds than can be waited for. -/
  | tooLong
  /-- It has more nanoseconds than the clock counts. -/
  | beyondClock
  /-- It is an integer beyond all doubles. -/
  | beyondDoubles
  deriving DecidableEq, Repr

/-- The wording of a fault of a time to wait. -/
def TimeoutFault.message : TimeoutFault → Text
  | notANumber => "cannot convert float NaN to integer"
  | infinite => "cannot convert float infinity to integer"
  | tooLong => "timeout is too large"
  | beyondClock => "timestamp too large to convert to C _PyTime_t"
  | beyondDoubles => "int too large to convert to float"

/-- The fault of a time to wait of some seconds, if it has one. -/
def TimeoutFault.ofSeconds? : Double → Option TimeoutFault
  | .nan => some .notANumber
  | .infinite negative => if negative then none else some .infinite
  | x =>
    let isWithin (milliseconds : Int) : Bool := (x.mul (.ofInt 1000)).le (.ofInt milliseconds)
    if isWithin 2147483647 then none
    else if isWithin 9223372036854 then some .tooLong
    else some .beyondClock

/-- The fault of a time to wait, if it has one. -/
def TimeoutFault.of? : Amount → Option TimeoutFault
  | .truth _ => none
  | .whole n =>
    let x := Double.ofInt n
    if x.isFinite then ofSeconds? x else some .beyondDoubles
  | .real x => ofSeconds? x

/-- Why a command came to no end of its own. -/
inductive SpawnFault where
  /-- It cannot be run. -/
  | command (fault : Host.CommandFault)
  /-- A variable of the environment has an equals sign in its name. -/
  | badVariable
  /-- A text for the operating system holds a NUL. -/
  | embeddedNul
  /-- The operating system refuses a file. -/
  | refused (refusal : Refusal) (file : Text)
  /-- The time to wait for it is none. -/
  | timeout (fault : TimeoutFault)
  /-- It was stopped. -/
  | timedOut (args : List Text) (limit : Amount)
  deriving DecidableEq, Repr

/-- The wording of a fault. -/
def SpawnFault.message : SpawnFault → Text
  | command fault => fault.message
  | badVariable => "illegal environment variable name"
  | embeddedNul => "embedded null byte"
  | refused refusal file => (refusal.about file).message
  | timeout fault => fault.message
  | timedOut args limit =>
    let seconds : Text := match limit.text with | .ok t => t | .error _ => []
    "Command '" ++ Text.quotedList args ++ "' timed out after " ++ seconds ++ " seconds"

/-- Output as text: what is no text is replaced, and every line ends in a line
    feed. -/
def outputText (bytes : List UInt8) : Text :=
  (Utf8.decodeLossy bytes).unixLines

/-- Whether a text can be handed to the operating system. -/
def isPassable (t : Text) : Bool :=
  !t.contains (.char '\x00')

/-- The fault of what is handed over with a command, if it has one. -/
def SpawnOptions.fault? (o : SpawnOptions) (args : List Text) : Option SpawnFault :=
  let vars := o.env.getD []
  let texts := vars.flatMap (fun v => [v.1, v.2]) ++ args ++ (o.cwd.map Path.text).toList
  if vars.any (·.1.contains (.char '=')) then some .badVariable
  else if texts.any (!isPassable ·) then some .embeddedNul
  else .none

/-- Input as bytes, with a question mark for what is no text. -/
def inputBytes (t : Text) : List UInt8 :=
  t.flatMap fun c =>
    match c with
    | .char _ => Utf8.encode [c]
    | .lone _ => [63]

/-- The seconds that even the shortest command takes. -/
def startupTime : Double := .ofRatio false 1 2000

/-- The later of two times. -/
def later (a b : Double) : Double := if a.le b then b else a

namespace Host

/-- The directory that a command runs in. -/
def enter (host : Host) (p : Path) : Except SpawnFault Path :=
  match host.tree.partsOf true host.cwd p.text with
  | .error r => .error (.refused r p.text)
  | .ok parts =>
    match host.tree.find? parts with
    | some .dir => .ok ⟨.root, parts⟩
    | some .locked => .error (.refused .denied p.text)
    | _ => .error (.refused .notDirectory p.text)

/-- The paths that are tried for the program of a command; a name without a slash
    is looked for once more, with the command's own environment. -/
def programPaths (host : Host) (program : Text) : List Text :=
  if program.any Path.isSlash then [program]
  else
    let path := (Environment.get? "PATH" host.env).getD standardSearchPath
    (Text.splitBy (· = .char ':') path).map (inDirectory · program)

/-- Runs a command to its end. -/
def spawn (launch : Launcher) (host : Host) (args : List Text) (o : SpawnOptions) :
    Except SpawnFault Completed :=
  match host.normalizeArgs args with
  | .error fault => .error (.command fault)
  | .ok [] => .error (.command .noProgram)
  | .ok (program :: rest) => do
    if let some fault := o.fault? (program :: rest) then .error fault
    let cwd ←
      match o.cwd with
      | some p => host.enter p
      | none => .ok host.cwd
    let child : Host := ⟨host.tree, cwd, o.env.getD host.env⟩
    let input := o.input.map inputBytes
    match launch child program (child.programPaths program) rest input with
    | .error r => .error (.refused r program)
    | .ok p =>
      if let some fault := o.timeout.bind TimeoutFault.of? then .error (.timeout fault)
      let elapsed := later startupTime p.elapsed
      match o.timeout with
      | some timeout =>
        if timeout.le elapsed then .error (.timedOut (program :: rest) timeout)
        else .ok ⟨program :: rest, p.code, outputText p.stdout, outputText p.stderr⟩
      | none => .ok ⟨program :: rest, p.code, outputText p.stdout, outputText p.stderr⟩

end Host

end FlowLens
