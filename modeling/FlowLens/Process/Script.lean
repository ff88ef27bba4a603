/-
  Calls with known results.  A script says what the next calls give; the last of
  its runs repeats.  An exchange keeps what happened.

  * `Runner`, anything that carries out calls in an exchange;
  * `Runner.scripted`, which follows the script.
-/
import FlowLens.Process.Call

namespace FlowLens

/-- What a call is to give. -/
inductive Run where
  /-- An output. -/
  | prints (stdout : Option Text) (code : Int)
  /-- A refusal of the operating system. -/
  | refused (e : SystemFault)
  /-- A wrong value. -/
  | badValue (text : Text)
  /-- Some other failure. -/
  | fails (text : Text)
  /-- No end within so many seconds. -/
  | timesOut (seconds : Double)
  deriving DecidableEq, Repr

/-- The result of a call. -/
def Run.result (args : List Text) : Run → Except CallFault Output
  | prints stdout code => .ok ⟨stdout, code⟩
  | refused e => .error (.system e)
  | badValue text => .error (.badValue text)
  | fails text => .error (.failed text)
  | timesOut seconds => .error (.timedOut args seconds)

/-- The runs to come: at least one, of which the last repeats. -/
structure Script where
  /-- The next run. -/
  next : Run
  /-- The runs after it. -/
  later : List Run
  deriving DecidableEq, Repr

namespace Script

/-- A program that writes nothing. -/
def silent : Script :=
  ⟨.prints (some []) 0, []⟩

/-- The script of some runs; without any, every call writes nothing. -/
def ofList : List Run → Script
  | [] => silent
  | r :: rest => ⟨r, rest⟩

/-- The script after a call. -/
def advance (s : Script) : Script :=
  match s.later with
  | [] => s
  | r :: rest => ⟨r, rest⟩

end Script

/-- The calls that were made, and what the next ones will give. -/
structure Exchange where
  /-- What the next calls will give. -/
  script : Script
  /-- The calls so far, the first one first. -/
  calls : List Call
  /-- The warnings so far. -/
  warnings : List Text
  deriving DecidableEq, Repr

/-- An exchange before its first call. -/
def Exchange.start (script : Script) : Exchange :=
  ⟨script, [], []⟩

/-- Anything that carries out calls. -/
abbrev Runner := Call → Exchange → Except CallFault Output × Exchange

/-- Every call is made and gives what the script says. -/
def Runner.scripted : Runner := fun call x =>
  (x.script.next.result call.args,
    { x with script := x.script.advance, calls := x.calls ++ [call] })

end FlowLens
