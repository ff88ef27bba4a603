/-
  Compound commands.

  * `evaluateCommand` runs a command, down to a depth.
-/
import FlowLens.Shell.Evaluation.Simple

namespace FlowLens

namespace Shell

/-! ## Compound commands -/

/-- Ends the shell behind a failure, if it is to end there. -/
def endOnFailure (calling : Calling) : Act Unit := do
  let s ← get
  if s.has 'e' && !calling.tested && s.status ≠ 0 then throw .exit

/-- The code of a process that writes where nobody reads. -/
def brokenPipe : Int := -13

/-- Runs the commands of a pipeline, of which each reads what the one before it
    wrote, from the same time on.  One without end is ended by the next one, if that
    does not read all that it is given. -/
def runStages (self : Eval) (calling : Calling) (start : Double) :
    Option Nat → List Command → Act Int
  | _, [] => return 0
  | input, command :: rest => do
    let (n, world) := (← get).world.openChannel (.sink [])
    modify fun s => { s with world := { world with clock := start } }
    let isLast := rest.isEmpty
    let result ← attempt (inProcess self do
      modify fun s =>
        let s := match input with | some i => s.withDescriptor 0 (some i) | none => s
        if isLast then s else s.withDescriptor 1 (some n)
      self ⟨calling.tested, true⟩ command)
    let isEndless : Bool := match result with | .error _ => true | .ok _ => false
    if isEndless && isLast then throw .endless
    let code := match result with | .ok code => code | .error _ => brokenPipe
    if isEndless then modifyWorld fun w => { w with patience := world.patience }
    let world := (← get).world
    let ended := if isEndless then start else world.clock
    reportCode code
    let output := world.collected n
    modifyWorld (·.setChannel n (.source output))
    let code ← if isLast then pure code else runStages self calling start (some n) rest
    let left := (← get).world.unread? n
    let allRead : Bool := match left with | .ok (_ :: _) => false | _ => true
    if isEndless && allRead then throw .endless
    modifyWorld fun w => { (w.close n) with clock := later w.clock ended }
    return code

/-- Runs a command that is not waited for. -/
def runInBackground (self : Eval) (command : Command) : Act Unit := do
  modify State.withRoom
  let s ← get
  let process := s.world.nextProcess
  let (n, world) := s.world.openChannel .null
  set { s with world }
  let result ← attempt (inProcess self do
    modify fun s =>
      { s with job := process, ignored := 2 :: 3 :: s.ignored }.withDescriptor 0 (some n)
    self ⟨false, true⟩ command)
  let after := (← get).world
  let (code, finish, patience) : Int × Double × Nat :=
    match result with
    | .ok code => (code, after.clock, after.patience)
    | .error _ => (0, .infinite false, world.patience)
  modify fun t =>
    { t with
      world :=
        { t.world with clock := s.world.clock, patience, ends := (process, finish) :: t.world.ends }
      jobs := ⟨t.freeNumber, process, code, finish, false, false⟩ :: t.jobs
      lastJob := some process
      status := 0 }

/-- How often a loop is run before it is taken to be endless. -/
def loopLimit : Nat := 100000

/-- What becomes of a loop behind its body. -/
inductive Onward where
  | again
  | ended
  deriving DecidableEq

/-- Runs a part of a loop, and says how the loop goes on. -/
def inLoop (act : Act Unit) : Act Onward := do
  match ← attempt act with
  | .ok () => return .again
  | .error (.leave count again) =>
    if count > 1 then throw (.leave (count - 1) again)
    else return if again then .again else .ended
  | .error stop => throw stop

/-- Runs a loop by the status of a command. -/
def runLoop (self : Eval) (calling : Calling) (onSuccess : Bool) (condition body : Command) :
    Nat → Nat → Act Unit
  | 0, _ => throw .endless
  | fuel + 1, status => do
    match ← attempt (self .condition condition) with
    | .error (.leave count again) =>
      if count > 1 then throw (.leave (count - 1) again)
      else if again then runLoop self calling onSuccess condition body fuel status
      else setStatus status
    | .error stop => throw stop
    | .ok () =>
      if decide ((← get).status = 0) != onSuccess then setStatus status
      else
        let onward ← inLoop (self ⟨calling.tested, false⟩ body)
        if onward = .ended then return
        else runLoop self calling onSuccess condition body fuel (← get).status

/-- Runs a loop over words. -/
def runEach (self : Eval) (calling : Calling) (name : Octets) (body : Command) :
    List Octets → Act Unit
  | [] => pure ()
  | value :: rest => do
    assign name value
    let onward ← inLoop (self ⟨calling.tested, false⟩ body)
    if onward = .ended then return else runEach self calling name body rest

/-- Counts a loop around a step. -/
def asLoop (act : Act Unit) : Act Unit := do
  modify fun s => { s with loops := s.loops + 1 }
  followedBy act (modify fun s => { s with loops := s.loops - 1 })

/-- Whether one of some patterns matches. -/
def anyFits (self : Eval) (subject : Octets) : List Word → Act Bool
  | [] => return false
  | word :: rest => do
    let p ← expandPattern (capture self) word
    if fits p subject then return true else anyFits self subject rest

/-- Runs the first arm whose pattern matches. -/
def runArms (self : Eval) (calling : Calling) (subject : Octets) :
    List (List Word × Option Command) → Act Unit
  | [] => setStatus 0
  | (patterns, body) :: rest => do
    if ← anyFits self subject patterns then
      match body with
      | some command => self calling command
      | none => setStatus 0
    else runArms self calling subject rest

/-- Runs a command, where `self` runs the commands inside it. -/
def step (self : Eval) : Eval := fun calling command => do
  if (← get).has 'n' then return
  spend 1
  runTraps self
  match command with
  | .simple line assignments words redirects =>
    runSimple self calling line assignments words redirects
    endOnFailure calling
  | .pipeline commands =>
    modify State.withRoom
    let start := (← get).world.clock
    let code ← runStages self calling start none commands
    modify State.noticing
    setStatus (statusOfCode code)
    endOnFailure calling
  | .subshell line body redirects =>
    modify fun s => { s with line }
    let act : Act Unit := do
      let redirections ← redirects.mapM (expandRedirect self)
      redirections.forM (redirect self)
      self ⟨calling.tested, true⟩ body
    if calling.isLast && (← get).traps.isEmpty then
      act
      throw .exit
    else inForeground self act
    endOnFailure calling
  | .background command => runInBackground self command
  | .negated command =>
    self .condition command
    modify fun s => { s with status := if s.status = 0 then 1 else 0 }
  | .sequence first second =>
    self ⟨calling.tested, false⟩ first
    self calling second
  | .chain onSuccess first second =>
    self .condition first
    if decide ((← get).status = 0) = onSuccess then self calling second
  | .redirected line body redirects =>
    modify fun s => { s with line }
    let redirections ← redirects.mapM (expandRedirect self)
    match ← redirectAll self redirections with
    | none => endOnFailure calling
    | some kept => followedBy (self ⟨calling.tested, false⟩ body) (putBackDescriptors kept)
  | .branch condition yes no =>
    self .condition condition
    if (← get).status = 0 then self calling yes
    else
      match no with
      | some command => self calling command
      | none => setStatus 0
  | .loop onSuccess condition body =>
    asLoop (runLoop self calling onSuccess condition body loopLimit 0)
  | .each line name words body =>
    modify fun s => { s with line }
    let values := (← words.mapM (expandFields (capture self))).flatten
    if values.isEmpty then setStatus 0
    asLoop (runEach self calling name body values)
  | .choice line subject arms =>
    modify fun s => { s with line }
    let subject ← expandWhole (capture self) subject
    runArms self calling subject arms
  | .define line name body =>
    modify fun s =>
      { s with functions := (name, ⟨line, body⟩) :: s.functions.filter (·.1 ≠ name), status := 0 }
  runTraps self

/-- Runs a command.  The first argument bounds how deep commands stand in commands;
    what goes deeper is ended as a process is whose stack is full. -/
def evaluateCommand : Nat → Eval
  | 0 => fun _ _ => throw (.killed 11)
  | depth + 1 => step (evaluateCommand depth)

end Shell

end FlowLens
