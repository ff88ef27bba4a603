/-
  The rule that a diagnostic falls under, by which a host may switch it off.
-/
import FlowLens.Schema.Checked
import FlowLens.Text.LowerCase

namespace FlowLens

/-- The rule that a diagnostic falls under. -/
inductive Rule where
  /-- A type annotation is missing. -/
  | missingAnnotation
  /-- Everything else. -/
  | general
  deriving DecidableEq, Repr

namespace Rule

/-- The word for a rule. -/
def label : Rule → Text
  | missingAnnotation => "missing-annotation"
  | general => "default"

/-- The rule that a message falls under. -/
def ofMessage (message : Text) : Rule :=
  if Text.has "missing type annotation" message.lower then missingAnnotation else general

/-- The word for a rule. -/
def check : Value → Checked Rule
  | .str t =>
    if t = "missing-annotation" then .good missingAnnotation
    else if t = "default" then .good general
    else .fail .literalError
  | _ => .fail .literalError

end Rule

end FlowLens
