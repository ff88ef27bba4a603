/-
  Finding commands and starting programs, by the rules of the system for files that
  name their interpreter.
-/
import FlowLens.Shell.Evaluation.Redirection
import FlowLens.Shell.Programs

namespace FlowLens

namespace Shell

/-! ## Finding commands -/

/-- What a command stands for. -/
inductive Target where
  /-- Nothing but assignments and redirections. -/
  | nothing
  /-- A built-in command; `special` ones end the shell when they fail. -/
  | builtin (name : Octets) (args : List Octets) (special : Bool)
  | function (function : Function) (args : List Octets)
  /-- A program, on a search path of its own if it has one. -/
  | program (name : Octets) (args : List Octets) (path : Option Octets)

/-- The words behind `command` and its options, if it runs a command. -/
def behindCommand : List Octets → Option (Bool × List Octets)
  | [] => none
  | word :: rest =>
    if word = "-p" then (behindCommand rest).map fun (_, words) => (true, words)
    else if word = "--" then if rest.isEmpty then none else some (false, rest)
    else if word.head? = some '-' && word.length > 1 then none
    else some (false, word :: rest)

/-- What a command without functions stands for. -/
def withoutFunctions (words : List Octets) (path : Option Octets) (special : Bool) : Target :=
  match words with
  | [] => .nothing
  | name :: args =>
    if specialCommands.contains name then .builtin name args special
    else if plainCommands.contains name then .builtin name args false
    else .program name args path

/-- What a command stands for. -/
def State.target (s : State) (words : List Octets) : Target :=
  match words with
  | [] => .nothing
  | name :: args =>
    match (if specialCommands.contains name then none else s.functions.lookup name) with
    | some function => .function function args
    | none =>
      if name = "command" then
        match behindCommand args with
        | some (standard, words) =>
          withoutFunctions words (if standard then some defaultPath else none) false
        | none => .builtin name args false
      else withoutFunctions words none true

/-- Whether the arguments of a command may be assignments. -/
def assigns (words : List Octets) : Bool :=
  let words :=
    if words.head? = some "command" then ((behindCommand words.tail).map (·.2)).getD [] else words
  match words.head? with
  | some name => name = "export" || name = "readonly" || name = "local" || name = "alias"
  | none => false

/-- Expands the words of a command. -/
def expandWords (self : Eval) : List Octets → List Word → Act (List Octets)
  | fields, [] => return fields
  | fields, word :: rest => do
    match (if assigns fields then assignment? word else none) with
    | some (name, value) =>
      let value ← expandValue (capture self) value
      expandWords self (fields ++ [name ++ '=' :: value]) rest
    | none =>
      let more ← expandFields (capture self) word
      expandWords self (fields ++ more) rest

/-! ## Programs -/

/-- What kind of program a file is. -/
inductive ProgramKind where
  | shell
  | cat
  | sleep
  /-- A script for another program, with an argument. -/
  | script (interpreter : Octets) (argument : Option Octets)

/-- The bytes of a file that are looked at to see what kind of program it is. -/
def headLength : Nat := 256

/-- Whether a byte divides the first line of a script. -/
def isLineBlank (c : Char) : Bool :=
  c = ' ' || c = '\t'

/-- Whether a name or an argument on the first line of a script ends at a byte. -/
def endsLinePart (c : Char) : Bool :=
  isLineBlank c || c = '\x00'

/-- What the first line of a script has behind its mark, if it names a program for
    certain.  The head of the file is filled up with NULs, and its last byte is not
    looked at unless the line ends there. -/
def firstLine? (rest : Octets) : Option Octets :=
  let start := rest.dropWhile isLineBlank
  if rest.contains '\n' then
    let line := start.takeWhile (· ≠ '\n')
    if line.isEmpty then none else some line
  else if start.any endsLinePart then some (start.take (start.length - 1))
  else none

/-- The program that the first line of a script names, and its argument. -/
def interpreter? (bytes : List UInt8) : Option (Octets × Option Octets) :=
  let head := Octets.ofBytes (bytes.take headLength)
  match head ++ List.replicate (headLength - head.length) '\x00' with
  | '#' :: '!' :: rest => do
    let line := ((← firstLine? rest).reverse.dropWhile isLineBlank).reverse
    let program := line.takeWhile (!endsLinePart ·)
    let behind := line.drop program.length
    let argument :=
      if behind.head?.any isLineBlank then
        some ((behind.dropWhile isLineBlank).takeWhile (· ≠ '\x00'))
      else none
    return (program, argument)
  | _ => none

/-- The program at some components that every machine has. -/
def standardProgram? (parts : List Text) : Option ProgramKind :=
  if parts.dropLast = [("usr" : Text), "bin"] ∨ parts.dropLast = [("bin" : Text)] then
    match parts.getLast? with
    | some name =>
      if name = "sh" ∨ name = "dash" then some .shell
      else if name = "cat" then some .cat
      else if name = "sleep" then some .sleep
      else none
    | none => none
  else none

/-- The program that a path names. -/
def State.programAt (s : State) (path : Octets) : Except Refusal ProgramKind := do
  let parts ← s.world.tree.partsOf true s.cwd path.toText
  match s.world.tree.find? parts with
  | some (.file bytes true) =>
    match standardProgram? parts with
    | some kind => .ok kind
    | none =>
      match interpreter? bytes with
      | some (program, argument) => .ok (.script program argument)
      | none => .error .badFormat
  | some _ => .error .denied
  | none => .error .noEntry

/-- The directory as a shell shows it at its start. -/
def State.startDirectory (s : State) : Octets :=
  let given := s.valueOf "PWD"
  let fits : Bool :=
    given.head? = some '/' &&
      match s.world.tree.partsOf true s.cwd given.toText with
      | .ok parts => parts = s.cwd.parts
      | .error _ => false
  if fits then given else Octets.ofText s.cwd.text

/-- A shell at its start, in the process of another program. -/
def State.fresh (s : State) (name : Octets) : State :=
  let inherited := s.environment.filter fun (n, _) => Octets.isName n
  let given := inherited.foldl
    (fun vars (n, v) => putVariable n ⟨some v, true, false⟩ vars) ([] : List (Octets × Variable))
  let start (name value : Octets) (exported : Bool) (vars : List (Octets × Variable)) :=
    putVariable name ⟨some value, exported || inherited.any (·.1 = name), false⟩ vars
  let default (name value : Octets) (vars : List (Octets × Variable)) :=
    if vars.any (·.1 = name) then vars else start name value false vars
  let s := { s with bindings := given }
  let shownCwd := s.startDirectory
  let vars := start "PWD" shownCwd true (start "PPID" (Octets.ofNat s.parent) false given)
  let vars := start "IFS" " \t\n" false (start "OPTIND" "1" false vars)
  let vars := default "PS1" "# " (default "PS2" "> " (default "PS4" "+ " vars))
  let vars := default "PATH" defaultPath vars
  { s with
    bindings := vars
    shownCwd
    leader := s.process
    functions := []
    aliases := []
    name
    params := []
    options := []
    status := 0
    substituted := 0
    line := 0
    command := none
    traps := []
    ignored := s.ignored ++ (s.traps.filter (·.2.isEmpty)).map (·.1)
    waiting := []
    saved := none
    loops := 0
    calls := 0
    locals := []
    jobs := []
    lastJob := none
    place := .start
    shut := []
    found := []
    output := [] }

/-- How often the standard input of a shell may become another one. -/
def inputLimit : Nat := 1000

/-- Runs the commands on the standard input.  Behind them stand those of another
    input that took its place. -/
def runInput (self : Eval) : Nat → Act Unit
  | 0 => throw .endless
  | fuel + 1 => do
    let s ← get
    match s.descriptors.lookup 0 with
    | none => pure ()
    | some n =>
      match s.world.unread? n with
      | .error _ => pure ()
      | .ok [] => pure ()
      | .ok text =>
        modifyWorld (·.consume n text.length)
        discard (runText self .plain true text)
        runInput self fuel

/-- Runs a script from a file. -/
def runFile (self : Eval) (path : Octets) : Act Unit := do
  let s ← get
  match s.openToRead path false with
  | .error refusal => fail ("cannot open " ++ path ++ ": " ++ openingText false refusal)
  | .ok (.file parts _ _ _ _) =>
    discard (runText self .plain true (Octets.ofBytes (s.world.fileBytes parts)))
  | .ok _ => pure ()

/-- Runs the shell with some arguments. -/
def shellProgram (self : Eval) (name : Octets) (args : List Octets) : Act Unit := do
  modify (·.fresh name)
  let (left, wantsText) ← readOptions true (args.length + 1) args
  discard passOn
  if (← get).has 'i' then refuseJobControl
  match wantsText, left with
  | true, none => fail "-c requires an argument"
  | true, some [] => fail "-c requires an argument"
  | true, some (text :: rest) =>
    modify fun s => { s with name := rest.headD name, params := rest.tail }
    discard (runText self .plain false text)
    if (← get).has 's' then runInput self inputLimit
  | false, some (path :: rest) =>
    if (← get).has 's' then
      modify fun s => { s with params := path :: rest }
      runInput self inputLimit
    else
      let s ← get
      match s.openToRead path false with
      | .error refusal => fail ("cannot open " ++ path ++ ": " ++ openingText false refusal)
      | .ok _ =>
        modify fun s => { s with name := path, params := rest }
        runFile self path
  | false, _ =>
    turn true 's'
    runInput self inputLimit

/-- How deep scripts may name scripts as their programs. -/
def scriptDepth : Nat := 6

/-- Whether a program can be started, through all the scripts that it may be. -/
def State.startable (s : State) : Nat → Octets → Except Refusal Unit
  | 0, path =>
    match s.programAt path with
    | .error .badFormat => .error .linkLoop
    | .error refusal => .error refusal
    | .ok _ => .error .linkLoop
  | depth + 1, path => do
    match ← s.programAt path with
    | .script program _ => s.startable depth program
    | _ => return ()

/-- Turns the process into a program; gives why that cannot be done. -/
def become (self : Eval) : Nat → Octets → Octets → List Octets → Act Refusal
  | 0, path, _, _ => do
    match (← get).startable 0 path with
    | .error refusal => return refusal
    | .ok () => return .linkLoop
  | depth + 1, path, name, args => do
    match (← get).programAt path with
    | .error refusal => return refusal
    | .ok kind =>
      match kind with
      | .script program argument =>
        become self depth program program (argument.toList ++ path :: args)
      | .shell =>
        shellProgram self name args
        throw .exit
      | .cat =>
        modify fun s => { s with traps := [] }
        setStatus (← catProgram name args)
        throw .exit
      | .sleep =>
        modify fun s => { s with traps := [] }
        setStatus (← sleepProgram name args)
        throw .exit

/-- Turns the process into the first of some programs that can be run; what is no
    program is a script. -/
def becomeFirst (self : Eval) (name : Octets) (args : List Octets) :
    Refusal → List Octets → Act Refusal
  | refusal, [] => return refusal
  | refusal, path :: rest => do
    match ← become self scriptDepth path name args with
    | .badFormat => become self scriptDepth "/bin/sh" "/bin/sh" (path :: args)
    | .noEntry => becomeFirst self name args refusal rest
    | .notDirectory => becomeFirst self name args refusal rest
    | other => becomeFirst self name args other rest

/-- Turns the process into a program, or ends it with a complaint. -/
def becomeProgram (self : Eval) (name : Octets) (args : List Octets) (path : Octets) :
    Act Unit := do
  let paths := if name.contains '/' then [name] else candidates path name
  let refusal ← becomeFirst self name args .noEntry paths
  let status :=
    match refusal with
    | .noEntry => 127
    | .notDirectory => 127
    | .nameTooLong => 127
    | .linkLoop => 127
    | _ => 126
  setStatus status
  complain (name ++ ": " ++ runningText refusal)
  throw .exit

/-- Runs a program. -/
def runProgram (self : Eval) (calling : Calling) (name : Octets) (args : List Octets)
    (path : Option Octets) : Act Unit := do
  spend programWeight
  let s ← get
  let search := path.getD s.searchPath
  let found := if name.contains '/' then some name else s.findOn search name
  match found with
  | none =>
    complain (s.lackOn search name)
    setStatus 127
  | some place =>
    if !name.contains '/' then
      modify fun s => { s with found := (name, place) :: s.found.filter (·.1 ≠ name) }
    if calling.isLast && s.traps.isEmpty then becomeProgram self name args search
    else inForeground self (becomeProgram self name args search)

end Shell

end FlowLens
