/-
  The built-in commands that run no other commands.  Each gives its status, or
  stops with a complaint.
-/
import FlowLens.Shell.Builtin.Directories
import FlowLens.Shell.Builtin.Jobs
import FlowLens.Shell.Builtin.Lookup
import FlowLens.Shell.Builtin.Options
import FlowLens.Shell.Builtin.Output
import FlowLens.Shell.Builtin.Traps
import FlowLens.Shell.Builtin.Variables

namespace FlowLens

namespace Shell

/-! ## Ways out -/

/-- Ends the shell. -/
def exitCommand (args : List Octets) : Act Nat := do
  match args with
  | t :: _ => setStatus (← numberOf t)
  | [] => modify fun s => { s with status := s.saved.getD s.status }
  throw .exit

/-- Leaves a function or a script. -/
def returnCommand (args : List Octets) : Act Nat := do
  match args with
  | t :: _ => setStatus (← numberOf t)
  | [] => pure ()
  throw .returned

/-- Leaves loops. -/
def leaveCommand (again : Bool) (args : List Octets) : Act Nat := do
  let n ← match args with
    | t :: _ => do
      let n ← numberOf t
      if n = 0 then fail ("Illegal number: " ++ t) else pure n
    | [] => pure 1
  let loops := (← get).loops
  setStatus 0
  if loops = 0 then return 0 else throw (.leave (min n loops) again)

/-- The limits of a process, of which none is kept. -/
def ulimitCommand (args : List Octets) : Act Nat := do
  let (options, operands) ← splitOptions "HSatfdscmlpnvwr" args
  match operands with
  | [] =>
    put (if options.any (·.1 = 'c') then "0\n" else if options.any (·.1 = 'n') then "1024\n"
      else "unlimited\n")
    return 0
  | limit :: more =>
    if options.any (·.1 = 'a') || !more.isEmpty then fail "too many arguments"
    if limit ≠ "unlimited" && !limit.all Char.isDigit then fail "bad number"
    return 0

/-- Runs a built-in command that runs no other commands. -/
def plainCommand? (name : Octets) (args : List Octets) : Option (Act Nat) :=
  if name = "echo" then some (echoCommand args)
  else if name = "printf" then some (printfCommand args)
  else if name = "test" then some (testCommand false args)
  else if name = "[" then some (testCommand true args)
  else if name = ":" || name = "true" then some (pure 0)
  else if name = "false" then some (pure 1)
  else if name = "cd" || name = "chdir" then some (cdCommand args)
  else if name = "pwd" then some (pwdCommand args)
  else if name = "read" then some (readVariables args)
  else if name = "export" then some (exportCommand false args)
  else if name = "readonly" then some (exportCommand true args)
  else if name = "unset" then some (unsetCommand args)
  else if name = "local" then some (localCommand args)
  else if name = "shift" then some (shiftCommand args)
  else if name = "set" then some (setCommand args)
  else if name = "getopts" then some (getoptsCommand args)
  else if name = "umask" then some (umaskCommand args)
  else if name = "ulimit" then some (ulimitCommand args)
  else if name = "alias" then some (aliasCommand args)
  else if name = "unalias" then some (unaliasCommand args)
  else if name = "type" then some (typeCommand args)
  else if name = "hash" then some (hashCommand args)
  else if name = "kill" then some (killCommand args)
  else if name = "wait" then some (waitCommand args)
  else if name = "jobs" then some (jobsCommand args)
  else if name = "bg" || name = "fg" then some (resumeCommand args)
  else if name = "times" then
    some (do
      put "0m0.000000s 0m0.000000s\n0m0.000000s 0m0.000000s\n"
      return 0)
  else if name = "trap" then some (trapCommand args)
  else if name = "exit" then some (exitCommand args)
  else if name = "return" then some (returnCommand args)
  else if name = "break" then some (leaveCommand false args)
  else if name = "continue" then some (leaveCommand true args)
  else none

end Shell

end FlowLens
