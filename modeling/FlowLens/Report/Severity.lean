/-
  How serious a diagnostic is.
-/
import FlowLens.Document.Value
import FlowLens.Schema.Checked
import FlowLens.Text.Blank
import FlowLens.Text.LowerCase

namespace FlowLens

/-- How serious a diagnostic is. -/
inductive Severity where
  | error
  | warning
  deriving DecidableEq, Repr

namespace Severity

/-- The word for a severity. -/
def label : Severity → Text
  | error => "error"
  | warning => "warning"

/-- The severity of a word. -/
def ofLabel? (word : Text) : Option Severity :=
  if word = "error" then some error
  else if word = "warning" then some warning
  else none

/-- A value that is none of the words. -/
structure NotAMember where
  /-- The value. -/
  value : Value

/-- The wording of the refusal. -/
def NotAMember.message (e : NotAMember) : Text :=
  e.value.quoted ++ " is not a valid Severity"

/-- The severity whose word a value is. -/
def ofMember (v : Value) : Except NotAMember Severity :=
  match v with
  | .str t =>
    match ofLabel? t with
    | some s => .ok s
    | none => .error ⟨v⟩
  | _ => .error ⟨v⟩

/-- The severity of a word or of its short form. -/
def ofWord? (word : Text) : Option Severity :=
  if word = "error" ∨ word = "err" then some error
  else if word = "warning" ∨ word = "warn" then some warning
  else none

/-- The severity that a text names, in letters of either case and with blanks
    around it. -/
def ofText (fallback : Severity) (t : Text) : Severity :=
  (ofWord? t.strip.lower).getD fallback

/-- The severity that a value names. -/
def ofValue (fallback : Severity) : Value → Severity
  | .str t => ofText fallback t
  | _ => fallback

/-- One of the two words. -/
def check : Value → Checked Severity
  | .str t =>
    match ofLabel? t with
    | some s => .good s
    | none => .fail .enumMember
  | _ => .fail .enumMember

end Severity

end FlowLens
