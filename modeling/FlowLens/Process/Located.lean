/-
  Calls whose program is looked up first.  A call of a program that is nowhere is
  not made.
-/
import FlowLens.Process.Script
import FlowLens.System.Host

namespace FlowLens

/-- A command that cannot be run, as the fault of a call. -/
def Host.CommandFault.toCallFault (fault : Host.CommandFault) : CallFault :=
  match fault with
  | .noProgram => .badValue fault.message
  | .notFound _ => .system (.worded fault.message)

/-- Every call whose program is found is made, with the program replaced by where
    it is, and gives what the script says. -/
def Runner.located (host : Host) : Runner := fun call x =>
  match host.normalizeArgs call.args with
  | .ok args => Runner.scripted { call with args } x
  | .error fault => (.error fault.toCallFault, x)

end FlowLens
