/-
  Diagnostics, as handed to the host that asked for them.
-/
import FlowLens.Report.Position
import FlowLens.Report.Rule
import FlowLens.Report.Severity

namespace FlowLens

/-- Something to tell the author of a program. -/
structure Diagnostic where
  /-- The rule that it falls under. -/
  rule : Option Rule
  /-- How serious it is. -/
  severity : Severity
  /-- What to tell. -/
  message : Text
  /-- The file that it is about. -/
  path : Option Text
  /-- The line where it starts. -/
  startLine : Option Int
  /-- The line where it ends. -/
  endLine : Option Int
  /-- The stretch of text that it is about. -/
  span : Span
  /-- The whole report that it was found in, for debugging. -/
  raw : Option Members

namespace Diagnostic

/-- What the rule is called. -/
def ruleField : Field := ⟨"category", "type"⟩

/-- What the severity is called. -/
def severityField : Field := ⟨"severity", "level"⟩

/-- What the first line is called. -/
def startField : Field := ⟨"start_line", "start"⟩

/-- What the last line is called. -/
def endField : Field := ⟨"end_line", "end"⟩

/-- What the span is called. -/
def spanField : Field := ⟨"location", "loc"⟩

/-- The members of any object. -/
def checkMembers : Value → Checked Members
  | .obj members => .good members
  | _ => .fail .dictType

/-- The diagnostic that a document describes. -/
def check : Value → Checked Diagnostic :=
  checkRecord fun members =>
    Diagnostic.mk
      <$> members.optional ruleField none (checkNullable Rule.check)
      <*> members.required severityField Severity.check
      <*> members.required (.plain "message") checkText
      <*> members.optional (.plain "path") none (checkNullable checkText)
      <*> members.optional startField none (checkNullable checkInt)
      <*> members.optional endField none (checkNullable checkInt)
      <*> members.required spanField Span.check
      <*> members.optional (.plain "raw") none (checkNullable checkMembers)

/-- A diagnostic as a document, with all that is known of it. -/
def toValue (naming : Naming) (d : Diagnostic) : Value :=
  .obj [(ruleField.label naming, .ofOption (fun r => .str r.label) d.rule),
    (severityField.label naming, .str d.severity.label), ("message", .str d.message),
    ("path", .ofOption .str d.path), (startField.label naming, .ofOption .int d.startLine),
    (endField.label naming, .ofOption .int d.endLine), (spanField.label naming, d.span.toValue),
    ("raw", .ofOption .obj d.raw)]

/-- A member for a value that may be absent. -/
def member {α : Type} (name : Text) (f : α → Value) (a : Option α) : Members :=
  (a.map fun a => (name, f a)).toList

/-- The members that the host is given, absent ones left out. -/
def ownMembers (d : Diagnostic) : Members :=
  let severity : Value := .str d.severity.label
  let message : Members := [(severityField.key, severity), ("message", .str d.message)]
  let span : Members := [(spanField.key, d.span.payload)]
  member ruleField.key (fun r => .str r.label) d.rule ++ message ++ member "path" .str d.path ++
    member startField.key .int d.startLine ++ member endField.key .int d.endLine ++ span

/-- What the host is given: the diagnostic's members, set over those of the
    report that it was found in. -/
def payload (d : Diagnostic) : Value :=
  .obj (Members.merge (d.raw.getD []) d.ownMembers)

/-- The diagnostic for output of the checker that cannot be used. -/
def fatal (message : Text) : Diagnostic :=
  ⟨none, .error, message, none, none, none, .nowhere, none⟩

end Diagnostic

end FlowLens
