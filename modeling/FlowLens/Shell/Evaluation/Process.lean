/-
  How commands are run: scripts, signals and processes.

  * `Eval` is the type of what runs commands;
  * `inProcess` runs a step in a process of its own.
-/
import FlowLens.Shell.Builtins

namespace FlowLens

namespace Shell

/-- How a command is run. -/
structure Calling where
  /-- Whether its status is looked at, so that a failure ends nothing. -/
  tested : Bool
  /-- Whether the process ends with it. -/
  isLast : Bool

/-- A command of which nothing is asked. -/
def Calling.plain : Calling := ⟨false, false⟩

/-- A command whose status is looked at. -/
def Calling.condition : Calling := ⟨true, false⟩

/-- How commands are run. -/
abbrev Eval := Calling → Command → Act Unit

/-- Uses up patience, as a command does. -/
def spend (n : Nat) : Act Unit := do
  let s ← get
  if s.world.patience < n then throw .endless
  set { s with world := { s.world with patience := s.world.patience - n } }

/-- How many commands a program counts for. -/
def programWeight : Nat := 20

/-! ## Texts -/

/-- Shows lines of a script as they are read, if that is asked for. -/
def showLines (lines : Octets) : Act Unit := do
  if (← get).has 'v' then discard (emit 2 lines)

/-- The first lines of a text. -/
def firstLines : Nat → Octets → Octets
  | 0, _ => []
  | n + 1, t =>
    let line := t.takeWhile (· ≠ '\n')
    match t.drop line.length with
    | [] => line
    | c :: rest => line ++ c :: firstLines n rest

/-- Runs the commands of a script one by one, and says whether there was any.  The
    lines of a file may be shown. -/
def runReader (self : Eval) (calling : Calling) (isFile : Bool) : Nat → Bool → Reader → Act Bool
  | 0, ran, _ => return ran
  | fuel + 1, ran, r => do
    let s ← get
    match { r with aliases := s.aliases, count := s.world.nextDocument }.next? with
    | .error complaint =>
      if isFile then showLines (firstLines (complaint.line + 1 - r.line) r.rest)
      modify fun s => { s with line := complaint.line }
      fail complaint.text
    | .ok (next, after) =>
      if isFile then showLines (r.rest.take (r.rest.length - after.rest.length))
      modifyWorld fun w =>
        { w with documents := after.documents ++ w.documents, nextDocument := after.count }
      let after := { after with documents := [] }
      match next with
      | .finish => return ran
      | .command none _ => runReader self calling isFile fuel ran after
      | .command (some command) _ =>
        self calling command
        runReader self calling isFile fuel true after

/-- Runs a script, and says whether there was any command.  In a file, NULs are
    passed over. -/
def runText (self : Eval) (calling : Calling) (isFile : Bool) (text : Octets) : Act Bool :=
  let text := if isFile then text.filter (· ≠ '\x00') else text
  runReader self calling isFile (text.length + 2) false (Reader.start text 0)

/-! ## Signals -/

/-- Takes the signals that were sent to this process. -/
def receive : Act Unit := do
  let s ← get
  let mine := s.world.signals.filter (·.1 = s.process)
  if mine.isEmpty then return
  modifyWorld fun w => { w with signals := w.signals.filter (·.1 ≠ s.process) }
  mine.forM fun (_, n) =>
    let action : Option Octets :=
      if n = 9 || n = 19 then none
      else if s.ignored.contains n then some []
      else s.traps.lookup n
    match action with
    | some [] => pure ()
    | some _ => modify fun s => { s with waiting := s.waiting ++ [n] }
    | none =>
      match defaultOf n with
      | .ends => throw (.killed n)
      | .ignored => pure ()
      | .stops => throw .endless

/-- Runs the traps of signals that wait for them. -/
def runTraps (self : Eval) : Act Unit := do
  receive
  let s ← get
  if s.waiting.isEmpty then return
  set { s with waiting := [], saved := some (s.saved.getD s.status) }
  ((List.range signalLimit).filter s.waiting.contains).forM fun n =>
    match s.traps.lookup n with
    | some action => do
      discard (runText self .plain false action)
      setStatus s.status
    | none => pure ()
  modify fun t => { t with saved := s.saved }

/-! ## Processes -/

/-- Runs a step to the end of its process, with what is to be done at the end. -/
def wholeLife (self : Eval) (act : Act Unit) : Act Int := do
  match ← attempt act with
  | .error (.killed n) => return -(n : Int)
  | .error .endless => throw .endless
  | _ =>
    let s ← get
    match s.traps.lookup 0 with
    | none => return s.status % 256
    | some action =>
      set { s with
        traps := s.traps.filter (·.1 ≠ 0)
        saved := some s.status
        loops := 0
        command := none }
      match ← attempt (runText self .plain false action) with
      | .error (.killed n) => return -(n : Int)
      | .error .endless => throw .endless
      | .error .exit => return (← get).status % 256
      | .error .fault => return (← get).status % 256
      | _ => return s.status % 256

/-- A copy of a shell. -/
def State.child (s : State) : State :=
  let process := s.world.nextProcess
  { s with
    world := { s.world with nextProcess := process + 1, alive := process :: s.world.alive }
    process
    parent := s.process
    traps := s.traps.filter (·.2.isEmpty)
    waiting := []
    saved := none
    jobs := [] }

/-- Runs a step in a process of its own, and gives its code. -/
def inProcess (self : Eval) (act : Act Unit) : Act Int := fun s =>
  let back (t : State) : State :=
    { s with world := { t.world.forget s.world.nextChannel [] with alive := s.world.alive } }
  match wholeLife self act s.child with
  | .ok code t => .ok code (back t)
  | .error stop t => .error stop (back t)

/-- Takes over the code of a process. -/
def takeCode (code : Int) : Act Unit := do
  modify State.noticing
  reportCode code
  setStatus (statusOfCode code)

/-- Runs a step in a process of its own and waits for it. -/
def inForeground (self : Eval) (act : Act Unit) : Act Unit := do
  modify State.withRoom
  takeCode (← inProcess self act)

/-- The output of a command. -/
def capture (self : Eval) : Capture := fun script => do
  match script with
  | none =>
    modify fun s => { s with substituted := 0 }
    return []
  | some command =>
    let (n, world) := (← get).world.openChannel (.sink [])
    modify fun s => { s with world }.withRoom
    let code ← inProcess self do
      modify fun s => s.withDescriptor 1 (some n)
      self ⟨false, true⟩ command
    receive
    let output := (← get).world.collected n
    modifyWorld (·.close n)
    modify State.noticing
    reportCode code
    modify fun s => { s with substituted := statusOfCode code }
    return output

end Shell

end FlowLens
