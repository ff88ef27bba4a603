/-
  Simple commands: built-in commands that run others, functions and programs.
-/
import FlowLens.Shell.Evaluation.Start

namespace FlowLens

namespace Shell

/-! ## Built-in commands that run others -/

/-- Runs its arguments as a script. -/
def evalCommand (self : Eval) (calling : Calling) (args : List Octets) : Act Nat := do
  let ran ← runText self ⟨calling.tested, false⟩ false (Octets.joined " " args)
  let s ← get
  return if ran then s.status else 0

/-- Runs a file in this shell. -/
def dotCommand (self : Eval) (args : List Octets) : Act Nat := do
  let (_, operands) ← splitOptions [] args
  match operands with
  | [] => return 0
  | name :: _ =>
    let s ← get
    let path ←
      if name.contains '/' then pure name
      else
        match s.findFile s.searchPath name with
        | some path => pure path
        | none => fail (name ++ ": not found")
    match s.openToRead path false with
    | .error refusal => fail ("cannot open " ++ path ++ ": " ++ openingText false refusal)
    | .ok (.file parts _ _ _ _) =>
      modify fun s => { s with command := some path }
      match ← attempt (runText self .plain true (Octets.ofBytes (s.world.fileBytes parts))) with
      | .ok ran =>
        let s ← get
        return if ran then s.status else 0
      | .error .returned => return (← get).status
      | .error stop => throw stop
    | .ok _ => return 0

/-- Says what a name stands for. -/
def commandCommand (args : List Octets) : Act Nat := do
  let (options, operands) ← splitOptions "pvV" args
  match operands.head?, options.find? fun o => o.1 = 'v' || o.1 = 'V' with
  | some name, some (letter, _) => describe (letter = 'V') name
  | _, _ => return 0

/-- Runs a built-in command and sets the status. -/
def runBuiltin (self : Eval) (calling : Calling) (name : Octets) (args : List Octets)
    (special : Bool) : Act Unit := do
  let before := (← get).command
  modify fun s => { s with command := some name, output := [] }
  let act : Act Nat :=
    if name = "eval" then evalCommand self calling args
    else if name = "." then dotCommand self args
    else if name = "command" then commandCommand args
    else if name = "exec" then
      match args with
      | [] => return 0
      | program :: rest => do
        becomeProgram self program rest (← get).searchPath
        return 0
    else (plainCommand? name args).getD (pure 0)
  match ← attempt act with
  | .ok status =>
    let isWritten ← passOn
    if !isWritten then complain (name ++ ": I/O error")
    modify fun s =>
      { s with command := before, status := if isWritten then status else status ||| 1 }
  | .error stop =>
    discard passOn
    if stop ≠ .exit then modify fun s => { s with command := before }
    if stop ≠ .fault || special then throw stop

/-! ## Functions -/

/-- How deep functions may call each other. -/
def callLimit : Nat := 1000

/-- Puts a variable back as it was. -/
def State.restore (s : State) (name : Octets) (old : Option Variable) : State :=
  if name = "-" then { s with options := (old.bind (·.value)).getD s.options }
  else
    match old with
    | some v =>
      let s := { s with bindings := putVariable name v s.bindings }
      match v.value.bind Octets.number? with
      | some n => if name = "OPTIND" then { s with place := .word n } else s
      | none => s
    | none => { s with bindings := s.bindings.filter (·.1 ≠ name) }

/-- A step behind which the variables are put back that it keeps. -/
def inFrame (act : Act Unit) : Act Unit := do
  modify fun s => { s with locals := [] :: s.locals }
  followedBy act
    (modify fun s =>
      let s := (s.locals.headD []).foldl (fun s (name, old) => s.restore name old) s
      { s with locals := s.locals.tail })

/-- Calls a function, in the frame of the command that names it. -/
def callFunction (self : Eval) (calling : Calling) (function : Function) (args : List Octets) :
    Act Unit := do
  let s ← get
  if callLimit ≤ s.calls then
    fail ("Maximum function recursion depth (" ++ Octets.ofNat callLimit ++ ") reached")
  set { s with params := args, loops := 0, calls := s.calls + 1, place := .start }
  let result ← attempt (self ⟨calling.tested, false⟩ function.body)
  modify fun t =>
    { t with
      params := s.params
      loops := s.loops
      calls := s.calls
      place := s.place }
  match result with
  | .error .returned => pure ()
  | .error stop => throw stop
  | .ok () => pure ()

/-! ## Simple commands -/

/-- A text that is expanded like a document. -/
def expandText (self : Eval) (text : Octets) : Act Octets := do
  match (readParts (8 * text.length + 64) .document).run (Reader.start text 0) with
  | .ok (parts, _) => expandWhole (capture self) [.double parts]
  | .error _ => return text

/-- Shows a command before it is run, on the error stream that it starts with. -/
def trace (self : Eval) (stream : Option Nat) (shown : List Octets) : Act Unit := do
  if (← get).has 'x' then
    let front ← expandText self ((← get).valueOf "PS4")
    let s ← get
    let line := front ++ Octets.joined " " shown ++ "\n"
    match stream.bind fun n => s.world.write? s.job n line with
    | some world => set { s with world }
    | none => pure ()

/-- Carries out assignments, and gives them as they are shown.  Those of a command
    are put back behind it. -/
def assignAll (self : Eval) (passing exported : Bool) : List Word → Act (List Octets)
  | [] => return []
  | word :: rest => do
    match assignment? word with
    | none => assignAll self passing exported rest
    | some (name, value) =>
      let value ← expandValue (capture self) value
      if passing then keepVariable name
      assign name value
      if passing || exported then modifyVariable name fun v => { v with exported := true }
      let shown ← assignAll self passing exported rest
      return (name ++ '=' :: value) :: shown

/-- Runs what a command stands for, behind its assignments. -/
def runTarget (self : Eval) (calling : Calling) : Target → Act Unit
  | .nothing => modify fun s => { s with status := s.substituted }
  | .builtin name args special => runBuiltin self calling name args special
  | .function function args => callFunction self calling function args
  | .program name args path => runProgram self calling name args path

/-- Runs a simple command. -/
def runSimple (self : Eval) (calling : Calling) (line : Nat) (assignments words : List Word)
    (redirects : List Redirect) : Act Unit := do
  modify fun s => { s with line, substituted := 0 }
  let fields ← expandWords self [] words
  let target := (← get).target fields
  let special : Bool := match target with | .builtin _ _ special => special | _ => false
  let passing : Bool := match target with | .nothing => false | _ => !special
  let staysOpen : Bool := match target with | .builtin name _ _ => name = "exec" | _ => false
  let stream := (← get).descriptors.lookup 2
  let act : Act Unit := do
    let redirections ← redirects.mapM (expandRedirect self)
    match ← redirectAll self redirections with
    | none => if special then throw .fault
    | some kept =>
      let act : Act Unit := do
        let shown ← assignAll self passing (staysOpen && fields.length > 1) assignments
        if !(shown.isEmpty && fields.isEmpty) then trace self stream (shown ++ fields)
        runTarget self calling target
      followedBy act (if staysOpen then pure () else putBackDescriptors kept)
  if passing then inFrame act else act

end Shell

end FlowLens
