/-
  Other processes: `kill`, `wait`, `jobs`, `bg` and `fg`.
-/
import FlowLens.Shell.Builtin.Arguments
import FlowLens.Shell.Signals

namespace FlowLens

namespace Shell

/-! ## Processes -/

/-- Brings a signal to a process: to this one, to one that runs, or to one that is
    not waited for. -/
def sendSignal (signal process : Nat) : Act Bool := do
  let s ← get
  match s.jobs.find? (·.process = process) with
  | some job =>
    if job.finish.le s.world.clock || signal = 0 || defaultOf signal ≠ .ends then return true
    else
      let ended : Job := { job with code := -(signal : Int), finish := s.world.clock }
      set { s with
        jobs := s.jobs.map fun (j : Job) => if j.process = process then ended else j
        world :=
          { s.world.withdraw process s.world.clock with
            ends := (process, s.world.clock) :: s.world.ends.filter (·.1 ≠ process) } }
      return true
  | none =>
    if s.world.alive.contains process then
      if signal ≠ 0 then modifyWorld fun w => { w with signals := w.signals ++ [(process, signal)] }
      return true
    else return false

/-- The list of jobs with those marked that ended by now. -/
def State.noticing (s : State) : State :=
  { s with
    jobs := s.jobs.map fun (j : Job) =>
      if j.finish.le s.world.clock then { j with noticed := true } else j }

/-- Makes room for a new job: the first one that ended and was waited for is
    forgotten. -/
def State.withRoom (s : State) : State :=
  let known := s.jobs.filter fun (j : Job) => j.noticed && j.waited
  match (known.map (·.number)).min? with
  | some n => { s with jobs := s.jobs.filter (·.number ≠ n) }
  | none => s

/-- The least number that no job has. -/
def State.freeNumber (s : State) : Nat :=
  ((List.range (s.jobs.length + 1)).find? fun i => !s.jobs.any (·.number = i + 1)).getD 0 + 1

/-- The job that a text with a percent sign stands for.  Without a sign and for no
    text it is the last one. -/
def jobOf (name : Option Octets) : Act Job := do
  let s ← get
  let found (job : Option Job) (text : Octets) : Act Job :=
    match job with
    | some job => return job
    | none => fail text
  let unknown : Octets := "No such job: " ++ name.getD []
  match name with
  | none => found s.jobs.head? "No current job"
  | some ['%'] => found s.jobs.head? "No current job"
  | some ['%', '%'] => found s.jobs.head? "No current job"
  | some ['%', '+'] => found s.jobs.head? "No current job"
  | some ['%', '-'] => found s.jobs.tail.head? "No previous job"
  | some ('%' :: digits) =>
    found ((Octets.toNat? digits).bind fun n => s.jobs.find? (·.number = n)) unknown
  | some _ => fail unknown

/-- How signals are asked for. -/
def killUsage : Octets :=
  "Usage: kill [-s sigspec | -signum | -sigspec] [pid | job]... or\nkill -l [exitstatus]"

/-- Shows the signals, or the one behind a status. -/
def listSignals (args : List Octets) : Act Nat := do
  match args with
  | [] =>
    put "0\n"
    signalNames.forM fun name => put (name ++ "\n")
    return 0
  | t :: _ =>
    let n ← numberOf t
    let n := if n > 128 then n - 128 else n
    if 0 < n && n < signalLimit then
      put (signalName n ++ "\n")
      return 0
    else fail ("invalid signal number or exit status: " ++ t)

/-- Sends a signal. -/
def killCommand (args : List Octets) : Act Nat := do
  let send (signal : Nat) (targets : List Octets) : Act Nat := do
    if targets.isEmpty then fail killUsage
    targets.foldlM
      (fun status target => do
        let reached ←
          match target with
          | '%' :: _ => do
            discard (jobOf (some target))
            pure false
          | '-' :: rest => do
            discard (numberOf rest)
            pure false
          | _ => do sendSignal signal (← numberOf target)
        if reached then return status
        else
          complain "No such process\n"
          return 1)
      0
  match args with
  | [] => fail killUsage
  | first :: rest =>
    match first with
    | '-' :: name =>
      match signalOf? 1 name with
      | some n => send n rest
      | none =>
        let (options, targets) ← splitOptions "ls:" args
        if options.any (·.1 = 'l') then listSignals targets
        else
          match options.getLast? with
          | some (_, name) =>
            match signalOf? 1 name with
            | some n => send n targets
            | none => fail ("invalid signal number or name: " ++ name)
          | none => send 15 targets
    | _ => send 15 args

/-- The status behind the code of a process. -/
def statusOfCode (code : Int) : Nat :=
  if code < 0 then 128 + code.natAbs else code.toNat

/-- Says that a signal ended a process, unless that is nothing to speak of. -/
def reportCode (code : Int) : Act Unit :=
  if code < 0 && code ≠ -2 && code ≠ -13 then
    discard (emit 2 (signalText code.natAbs ++ "\n"))
  else pure ()

/-- Waits until a time. -/
def waitUntil (time : Double) : Act Unit := do
  modifyWorld fun w => { w with clock := later w.clock time }
  checkTime

/-- Waits for a job and gives its status. -/
def waitForJob (job : Job) : Act Nat := do
  waitUntil job.finish
  if !job.noticed then reportCode job.code
  modify fun s =>
    let s := s.noticing
    { s with
      jobs := s.jobs.map fun (j : Job) =>
        if j.number = job.number then { j with noticed := true, waited := true } else j }
  return statusOfCode job.code

/-- Waits for commands. -/
def waitCommand (args : List Octets) : Act Nat := do
  let (_, targets) ← splitOptions [] args
  if targets.isEmpty then
    (← get).jobs.forM fun (job : Job) => waitUntil job.finish
    modify fun s =>
      { s with jobs := s.jobs.map fun (j : Job) => { j with noticed := true, waited := true } }
    return 0
  else
    targets.foldlM
      (fun status target => do
        match target with
        | '%' :: _ => waitForJob (← jobOf (some target))
        | _ =>
          let n ← numberOf target
          match (← get).jobs.find? (·.process = n) with
          | some job => waitForJob job
          | none => return status)
      127

/-- What is said of a job. -/
def Job.text (job : Job) : Octets :=
  if !job.noticed then "Running"
  else if job.code < 0 then signalText job.code.natAbs
  else if job.code = 0 then "Done"
  else "Done(" ++ Octets.ofInt job.code ++ ")"

/-- Shows a job.  One that ended is forgotten behind that. -/
def showJob (withProcess : Bool) (job : Job) : Act Unit := do
  let s ← get
  let mark : Octets :=
    if s.jobs.head?.any (·.number = job.number) then "+"
    else if s.jobs.tail.head?.any (·.number = job.number) then "-"
    else " "
  let text : Octets := (if withProcess then Octets.ofNat job.process ++ " " else []) ++ job.text
  put ("[" ++ Octets.ofNat job.number ++ "] " ++ mark ++ " " ++ text ++
    List.replicate (27 - text.length) ' ' ++ "\n")
  if job.noticed then modify fun s => { s with jobs := s.jobs.filter (·.number ≠ job.number) }

/-- Shows the jobs. -/
def jobsCommand (args : List Octets) : Act Nat := do
  let (options, names) ← splitOptions "lp" args
  modify State.noticing
  let show_ (job : Job) : Act Unit :=
    match options.getLast? with
    | some ('p', _) => put (Octets.ofNat job.process ++ "\n")
    | o => showJob o.isSome job
  if names.isEmpty then (← get).jobs.forM show_
  else names.forM fun name => do show_ (← jobOf (some name))
  return 0

/-- Brings jobs to the front or lets them run on, which no job here can. -/
def resumeCommand (args : List Octets) : Act Nat := do
  let (_, names) ← splitOptions [] args
  discard (jobOf names.head?)
  fail ("job " ++ names.headD "(null)" ++ " not created under job control")

end Shell

end FlowLens
