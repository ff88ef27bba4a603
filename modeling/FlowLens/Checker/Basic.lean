/-
  The checker and its calls.

  * `Checker.invoke` runs the checker on a source text;
  * `Checker.stopAll` stops the servers of all roots in the ledger.
-/
import FlowLens.Checker.Ledger
import FlowLens.Process.Script

namespace FlowLens

/-- How the checker is run. -/
structure Checker where
  /-- The program. -/
  binary : Text
  /-- Whether diagnostics carry the whole report. -/
  debug : Bool
  deriving DecidableEq, Repr

/-- A source text to be checked. -/
structure Request where
  /-- The text. -/
  source : Text
  /-- The root of the project. -/
  root : Text
  /-- The file that the text belongs to. -/
  file : Text
  /-- Whether the server of the root is to be stopped at exit. -/
  stop : Bool
  deriving DecidableEq, Repr

/-- The calls so far, and the roots to be stopped. -/
structure Session where
  /-- The calls. -/
  exchange : Exchange
  /-- The roots. -/
  ledger : Ledger
  deriving DecidableEq, Repr

/-- How an invocation went. -/
inductive Invocation where
  /-- There was nothing to check. -/
  | skipped
  /-- The checker gave no output. -/
  | unsupported (reason : Text)
  /-- The checker's output. -/
  | completed (stdout : Text)
  deriving DecidableEq, Repr

namespace Checker

/-- The call that has a text checked in a mode. -/
def callFor (c : Checker) (mode : Text) (r : Request) : Call :=
  ⟨[c.binary, mode, "--json", "--root=" ++ r.root, r.file], some r.source⟩

/-- The reason for an output that is empty. -/
def noOutput : Text := "flow produced no output"

/-- The warning about a call that the operating system refuses. -/
def refusalWarning (e : SystemFault) : Text :=
  "unable to run flow: " ++ e.message

/-- What an output amounts to; the root of a usable one is written down if it is
    to be stopped. -/
def takeOutput (r : Request) (out : Output) (ledger : Ledger) : Invocation × Ledger :=
  match out.stdout.getD [] with
  | [] => (.unsupported noOutput, ledger)
  | stdout => (.completed stdout, if r.stop then (ledger.schedule r.root).2 else ledger)

/-- Runs the checker on a text.  An empty text needs no call, and a refusal of
    the operating system is a reason, not a fault. -/
def invoke (run : Runner) (c : Checker) (mode : Text) (r : Request) (s : Session) :
    Except CallFault Invocation × Session :=
  if r.source.isEmpty then (.ok .skipped, s)
  else
    match run (c.callFor mode r) s.exchange with
    | (.ok out, x) =>
      let (invocation, ledger) := takeOutput r out s.ledger
      (.ok invocation, ⟨x, ledger⟩)
    | (.error (.system e), x) =>
      (.ok (.unsupported e.message),
        ⟨{ x with warnings := x.warnings ++ [refusalWarning e] }, s.ledger⟩)
    | (.error fault, x) => (.error fault, ⟨x, s.ledger⟩)

/-- The call that stops the server of a root. -/
def stopCall (binary root : Text) : Call :=
  ⟨[binary, "stop", root], none⟩

/-- Stops the servers of some roots one after the other.  A refusal of the
    operating system is passed over; any other fault ends it. -/
def stopEach (run : Runner) (binary : Text) :
    List Text → Exchange → Except CallFault Unit × Exchange
  | [], x => (.ok (), x)
  | root :: rest, x =>
    match run (stopCall binary root) x with
    | (.ok _, x) => stopEach run binary rest x
    | (.error (.system _), x) => stopEach run binary rest x
    | (.error fault, x) => (.error fault, x)

/-- Stops the servers of all roots in the ledger, which are crossed out first. -/
def stopAll (run : Runner) (binary : Text) (s : Session) : Except CallFault Unit × Session :=
  let (result, x) := stopEach run binary s.ledger.roots s.exchange
  (result, ⟨x, s.ledger.settle⟩)

end Checker

end FlowLens
