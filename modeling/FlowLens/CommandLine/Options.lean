/-
  What a command line asks for.  A command line names a command, a file and
  options; an option that is given again is set anew, a value may be attached to
  its option, and everything behind `--` is no option.

  * `scan` sorts arguments into options and the rest;
  * `parse` reads a whole command line.
-/
import FlowLens.Schema.Scalar
import FlowLens.Text.Similar

namespace FlowLens

namespace CommandLine

/-! ## Options -/

/-- A command. -/
inductive Mode where
  | check
  | coverage
  deriving DecidableEq, Repr

/-- An option that takes a value. -/
inductive ValueOption where
  | root
  | offsetLine
  | offsetColumn
  | minCoverage
  deriving DecidableEq, Repr

/-- An option that takes none. -/
inductive Switch where
  | stop (b : Bool)
  | stdin
  | json
  | emoji (b : Bool)
  | help
  deriving DecidableEq, Repr

/-- An option. -/
inductive Known where
  | value (o : ValueOption)
  | switch (s : Switch)
  deriving DecidableEq, Repr

/-- The name of an option that takes a value. -/
def ValueOption.name : ValueOption → Text
  | root => "--root"
  | offsetLine => "--offset-line"
  | offsetColumn => "--offset-column"
  | minCoverage => "--min-coverage"

/-- The options that every command has. -/
def commonOptions : List (Text × Known) := [
  ("--root", .value .root), ("--stop-on-exit", .switch (.stop true)),
  ("--keep-server", .switch (.stop false)), ("--stdin", .switch .stdin), ("--json", .switch .json),
  ("--emoji", .switch (.emoji true)), ("--no-emoji", .switch (.emoji false)),
  ("--help", .switch .help)]

/-- The options of a command. -/
def Mode.options : Mode → List (Text × Known)
  | check =>
    ("--offset-line", .value .offsetLine) :: ("--offset-column", .value .offsetColumn) ::
      commonOptions
  | coverage => ("--min-coverage", .value .minCoverage) :: commonOptions

/-- The option of a name. -/
def Mode.option? (mode : Mode) (name : Text) : Option Known :=
  (mode.options.find? (·.1 = name)).map (·.2)

/-! ## Faults -/

/-- Why a command line cannot be followed. -/
inductive UsageFault where
  /-- It is empty. -/
  | noArguments
  /-- It names no command. -/
  | missingCommand
  /-- It names a command that does not exist. -/
  | noSuchCommand (name : Text)
  /-- It names an option that does not exist. -/
  | noSuchOption (name : Text)
  /-- An option lacks its value. -/
  | needsValue (name : Text)
  /-- An option has a value that it does not take. -/
  | takesNoValue (name : Text)
  /-- It names no file. -/
  | missingFile
  /-- It goes on behind the file. -/
  | extraArguments (args : List Text)
  /-- The value of an option is not what is expected. -/
  | badValue (o : ValueOption) (expected : Expectation)
  /-- Some fault, where one of some commands may be meant. -/
  | hinted (fault : UsageFault) (commands : List Text)
  deriving DecidableEq, Repr

/-- What is said about a value that is not what is expected. -/
def expectationText : Expectation → Text
  | .intParsingSize => "Unable to parse input string as an integer, exceeded maximum size"
  | .floatParsing => "Input should be a valid number, unable to parse string as a number"
  | .lessThanEqual => "Input should be less than or equal to 100"
  | .greaterThanEqual => "Input should be greater than or equal to 0"
  | _ => "Input should be a valid integer, unable to parse string as an integer"

/-- The wording of a fault. -/
def UsageFault.message : UsageFault → Text
  | noArguments => []
  | missingCommand => "Missing command."
  | noSuchCommand name => "No such command " ++ name.quoted ++ "."
  | noSuchOption name => "No such option: " ++ name
  | needsValue name => "Option " ++ name.quoted ++ " requires an argument."
  | takesNoValue name => "Option " ++ name.quoted ++ " does not take a value."
  | missingFile => "Missing argument 'FILE'."
  | extraArguments args => "Got unexpected extra argument(s) (" ++ Text.joinWith " " args ++ ")"
  | badValue o expected => "Invalid value for '" ++ o.name ++ "': " ++ expectationText expected
  | hinted fault commands =>
    (fault.message.reverse.dropWhile (· = .char '.')).reverse ++ ". Did you mean " ++
      Text.joinWith ", " (commands.map Text.quoted) ++ "?"

/-- A fault with the commands that are close to the first of the arguments that
    are left. -/
def UsageFault.withHint (fault : UsageFault) (commands : List Text) : List Text → UsageFault
  | [] => fault
  | arg :: _ =>
    match Text.closest commands arg with
    | [] => fault
    | close => .hinted fault close

/-! ## Sorting arguments -/

/-- An option as it is given. -/
inductive Given where
  | value (o : ValueOption) (t : Text)
  | switch (s : Switch)
  deriving DecidableEq, Repr

/-- An argument that is an option, looked at alone. -/
inductive Head where
  /-- It is complete. -/
  | complete (g : Given)
  /-- Its value is the next argument. -/
  | awaiting (o : ValueOption) (name : Text)
  deriving DecidableEq, Repr

/-- Whether an argument is an option. -/
def isOption (arg : Text) : Bool :=
  arg.head? = some (.char '-') && 1 < arg.length

/-- The part of an argument before an equals sign, and the part behind it. -/
def splitValue (arg : Text) : Text × Option Text :=
  match arg.span (· ≠ .char '=') with
  | (name, []) => (name, none)
  | (name, _ :: value) => (name, some value)

/-- An option with a short name: `-r`, whose value may be attached. -/
def shortOption : Text → Except UsageFault Head
  | dash :: c :: more =>
    if c = .char 'r' then
      match more with
      | [] => .ok (.awaiting .root [dash, c])
      | value => .ok (.complete (.value .root value))
    else .error (.noSuchOption [dash, c])
  | arg => .error (.noSuchOption arg)

/-- An argument that is an option. -/
def readOption (mode : Mode) (arg : Text) : Except UsageFault Head :=
  let (name, value) := splitValue arg
  match mode.option? name, value with
  | some (.value o), some v => .ok (.complete (.value o v))
  | some (.value o), none => .ok (.awaiting o name)
  | some (.switch s), none => .ok (.complete (.switch s))
  | some (.switch _), some _ => .error (.takesNoValue name)
  | none, _ =>
    if ("--" : Text).isPrefixOf arg then .error (.noSuchOption name) else shortOption arg

/-- The options among some arguments, and the rest. -/
def scan (mode : Mode) : List Text → Except UsageFault (List Given × List Text)
  | [] => .ok ([], [])
  | arg :: rest =>
    if arg = "--" then .ok ([], rest)
    else if isOption arg then
      match readOption mode arg with
      | .error fault => .error fault
      | .ok (.complete g) => (scan mode rest).map fun (gs, others) => (g :: gs, others)
      | .ok (.awaiting o name) =>
        match rest with
        | [] => .error (.needsValue name)
        | value :: rest' =>
          (scan mode rest').map fun (gs, others) => (.value o value :: gs, others)
    else (scan mode rest).map fun (gs, others) => (gs, arg :: others)

/-! ## Requests -/

/-- What every command is asked for. -/
structure Common where
  /-- The file. -/
  file : Path
  /-- The root of the project, if it is not the current directory. -/
  root : Option Path
  /-- Whether the server is to be stopped at exit, if that is said. -/
  stop : Option Bool
  /-- Whether the text is read from the standard input. -/
  fromStdin : Bool
  /-- Whether the answer is JSON. -/
  json : Bool
  /-- Whether announcements have symbols. -/
  emoji : Bool
  deriving DecidableEq, Repr

/-- What a command line asks for. -/
inductive Request where
  /-- The diagnostics of a text that starts at a line and a column. -/
  | check (c : Common) (line column : Int)
  /-- The coverage of a text, of which at least so much is expected. -/
  | coverage (c : Common) (minimum : Option Double)
  /-- How to use the program. -/
  | help
  deriving DecidableEq, Repr

/-- What is asked for apart from the command. -/
def Request.common? : Request → Option Common
  | .check c _ _ => some c
  | .coverage c _ => some c
  | .help => none

/-- The last value of an option. -/
def lastValue? (o : ValueOption) (gs : List Given) : Option Text :=
  gs.reverse.findSome? fun
    | .value p t => if p = o then some t else none
    | .switch _ => none

/-- The last switch of a kind. -/
def lastSwitch? {α : Type} (pick : Switch → Option α) (gs : List Given) : Option α :=
  gs.reverse.findSome? fun
    | .switch s => pick s
    | .value _ _ => none

/-- Whether a switch is given. -/
def has (s : Switch) (gs : List Given) : Bool :=
  gs.contains (.switch s)

/-- The options with a value, in the order in which they are first given. -/
def valueOptions (gs : List Given) : List ValueOption :=
  (gs.filterMap fun
    | .value o _ => some o
    | .switch _ => none).eraseDups

/-- A check's value, or the first expectation that the value of an option
    fails. -/
def orBadValue {α : Type} (o : ValueOption) : Checked α → Except UsageFault α
  | .good a => .ok a
  | .bad problems => .error (.badValue o ((problems.head?.map (·.expected)).getD .intParsing))

/-- The integer that an option gives, zero if it is not given. -/
def intOption (o : ValueOption) (gs : List Given) : Except UsageFault Int :=
  match lastValue? o gs with
  | none => .ok 0
  | some t => orBadValue o (checkInt (.str t))

/-- The percentage that an option gives. -/
def percentOption (o : ValueOption) (gs : List Given) : Except UsageFault (Option Double) :=
  match lastValue? o gs with
  | none => .ok none
  | some t => (orBadValue o (checkDoubleWithin 0 100 (.str t))).map some

/-- Whether the value of an option is what is expected. -/
def validate (gs : List Given) : ValueOption → Except UsageFault Unit
  | .root => .ok ()
  | .minCoverage => (percentOption .minCoverage gs).map fun _ => ()
  | o => (intOption o gs).map fun _ => ()

/-- What a command is asked for by its arguments. -/
def request (mode : Mode) (args : List Text) : Except UsageFault Request := do
  let (gs, others) ← scan mode args
  if has .help gs then return .help
  (valueOptions gs).forM (validate gs)
  match others with
  | [] => .error .missingFile
  | [file] =>
    let common : Common :=
      { file := .ofText file
        root := (lastValue? .root gs).map Path.ofText
        stop := lastSwitch? (fun | .stop b => some b | _ => none) gs
        fromStdin := has .stdin gs
        json := has .json gs
        emoji := (lastSwitch? (fun | .emoji b => some b | _ => none) gs).getD true }
    match mode with
    | .check => return .check common (← intOption .offsetLine gs) (← intOption .offsetColumn gs)
    | .coverage => return .coverage common (← percentOption .minCoverage gs)
  | _ :: extra => .error (.extraArguments extra)

/-- The command of a name. -/
def Mode.ofName? (name : Text) : Option Mode :=
  if name = "check" then some .check
  else if name = "coverage" then some .coverage
  else none

/-- The names of the commands. -/
def Mode.names : List Text :=
  ["check", "coverage"]

/-- What stands before a command: whether help is asked for, and what is left. -/
structure Front where
  /-- Whether help is asked for. -/
  help : Bool
  /-- The command and its arguments. -/
  rest : List Text
  deriving DecidableEq, Repr

/-- What stands before a command; only help may be asked for.  A fault comes with
    the arguments behind it. -/
def readFront (help : Bool) : List Text → Except (UsageFault × List Text) Front
  | [] => .ok ⟨help, []⟩
  | arg :: rest =>
    if arg = "--" then .ok ⟨help, rest⟩
    else if isOption arg then
      let (name, value) := splitValue arg
      if name = "--help" then
        if value.isSome then .error (.takesNoValue name, rest) else readFront true rest
      else if ("--" : Text).isPrefixOf arg then .error (.noSuchOption name, rest)
      else .error (.noSuchOption (arg.take 2), rest)
    else .ok ⟨help, arg :: rest⟩

/-- What a command and its arguments ask for.  A command that does not exist may
    be an option behind `--`, which is read then. -/
def requestNamed : List Text → Except UsageFault Request
  | [] => .error .missingCommand
  | name :: args =>
    match Mode.ofName? name with
    | some mode => request mode args
    | none =>
      match readFront false (name :: args) with
      | .error (fault, left) => .error (fault.withHint Mode.names left)
      | .ok ⟨true, _⟩ => .ok .help
      | .ok ⟨false, left⟩ => .error ((UsageFault.noSuchCommand name).withHint Mode.names left)

/-- What a command line asks for. -/
def parse : List Text → Except UsageFault Request
  | [] => .error .noArguments
  | args =>
    match readFront false args with
    | .error (fault, _) => .error fault
    | .ok ⟨true, _⟩ => .ok .help
    | .ok ⟨false, rest⟩ => requestNamed rest

end CommandLine

end FlowLens
