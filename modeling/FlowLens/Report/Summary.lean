/-
  What is told about one file: its diagnostics, or how far it is covered, and how
  the check concluded.
-/
import FlowLens.Number.Amount
import FlowLens.Report.Coverage
import FlowLens.Report.Diagnostic

namespace FlowLens

/-- How a check concluded. -/
inductive Status where
  /-- The checker answered. -/
  | ok
  /-- There was nothing to check. -/
  | skipped
  /-- The checker gave no output. -/
  | unsupported
  deriving DecidableEq, Repr

/-- The word for a status. -/
def Status.label : Status → Text
  | ok => "ok"
  | skipped => "skipped"
  | unsupported => "unsupported"

/-! ## Diagnostics -/

/-- The diagnostics of a file. -/
structure LintReport where
  /-- The file. -/
  path : Text
  /-- How the check concluded. -/
  status : Status
  /-- The diagnostics. -/
  diagnostics : List Diagnostic

namespace LintReport

/-- The number of diagnostics of a severity. -/
def count (r : LintReport) (s : Severity) : Nat :=
  r.diagnostics.countP (·.severity = s)

/-- Whether there is an error. -/
def failed (r : LintReport) : Bool :=
  0 < r.count .error

/-- What the host is given. -/
def payload (r : LintReport) : Value :=
  .obj [("path", .str r.path), ("status", .str r.status.label),
    ("diagnostics", .arr (r.diagnostics.map (·.payload)))]

end LintReport

/-! ## Coverage -/

/-- The coverage of a file. -/
structure CoverageReport where
  /-- The file. -/
  path : Text
  /-- How the check concluded. -/
  status : Status
  /-- The counts. -/
  result : Coverage
  deriving DecidableEq, Repr

/-- Why a coverage cannot be told. -/
inductive CoverageFault where
  /-- The covered share is beyond all doubles. -/
  | shareTooLarge
  /-- An integer of too many digits. -/
  | tooLong (cause : TooManyDigits)
  deriving DecidableEq, Repr

/-- The wording of a fault. -/
def CoverageFault.message : CoverageFault → Text
  | shareTooLarge => "integer division result too large for a float"
  | tooLong cause => cause.message

namespace CoverageReport

/-- The covered share in percent. -/
def percent (r : CoverageReport) : Except CoverageFault Double :=
  match r.result.percent? with
  | some x => .ok x
  | none => .error .shareTooLarge

/-- Whether the coverage is at least `minimum` percent; it is if nothing is
    asked for or nothing was measured. -/
def meets (r : CoverageReport) (minimum : Option Amount) : Except CoverageFault Bool :=
  match minimum with
  | none => .ok true
  | some least => if r.status = .ok then r.percent.map least.le else .ok true

/-- What is told about a coverage below `minimum` percent. -/
def shortfall (minimum : Amount) (percent : Double) : Except CoverageFault Text :=
  match minimum.text with
  | .ok least =>
    .ok ("Expected coverage to be at least " ++ least ++ "%, but is: " ++ percent.text ++ "%")
  | .error cause => .error (.tooLong cause)

/-- The diagnostic for a coverage below `minimum` percent. -/
def thresholdDiagnostic (r : CoverageReport) (minimum : Amount) :
    Except CoverageFault (Option Diagnostic) := do
  if ← r.meets (some minimum) then return none
  let message ← shortfall minimum (← r.percent)
  return some { Diagnostic.fatal message with path := some r.path }

/-- What the host is given. -/
def payload (r : CoverageReport) : Except CoverageFault Value := do
  let percent ← r.percent
  let share : Members := [("percent", .float percent)]
  return .obj (("path", .str r.path) :: ("status", .str r.status.label) ::
    (r.result.members .byKey ++ share))

end CoverageReport

end FlowLens
