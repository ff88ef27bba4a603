/-
  The checker's whole answer.  Its text is read as JSON and sorted into one of
  three: a report, an exit note in place of a report, or output that cannot be
  used.

  * `Report`, of which entries that cannot be read are left out;
  * `Decoded` and `decode`, the sorting;
  * `Decoded.fatal`, what the host is told if there is no report.
-/
import FlowLens.Json.Reader
import FlowLens.Report.Diagnostic
import FlowLens.Report.Entry

namespace FlowLens

/-! ## Reports -/

/-- The status that the checker ended with: a number or a word. -/
inductive ExitCode where
  | number (n : Int)
  | word (t : Text)
  deriving DecidableEq, Repr

/-- A note on how the checker ended. -/
structure ExitNote where
  /-- What it says. -/
  msg : Text
  /-- The status. -/
  code : Option ExitCode
  deriving DecidableEq, Repr

/-- What the checker reports. -/
structure Report where
  /-- The entries. -/
  entries : List Entry
  /-- The version of the checker. -/
  version : Text
  /-- How the checker ended. -/
  exit : Option ExitNote
  deriving DecidableEq, Repr

/-- A status: text stays text, and what can be an integer is one.  Anything else
    fails both ways of reading it. -/
def ExitCode.check : Value → Checked ExitCode
  | .str t => .good (.word t)
  | v =>
    match checkInt v with
    | .good n => .good (.number n)
    | .bad problems =>
      let asInt : Checked ExitCode := .bad problems
      let asText := (checkText v).map ExitCode.word
      .bad ((asInt.under (.name "int")).problems ++ (asText.under (.name "str")).problems)

/-- A status as a document. -/
def ExitCode.toValue : ExitCode → Value
  | number n => .int n
  | word t => .str t

namespace ExitNote

/-- The note that a document describes. -/
def check : Value → Checked ExitNote :=
  checkRecord fun members =>
    ExitNote.mk
      <$> members.optional (.plain "msg") [] checkText
      <*> members.optional (.plain "code") none (checkNullable ExitCode.check)

/-- A note as a document. -/
def toValue (e : ExitNote) : Value :=
  .obj [("msg", .str e.msg), ("code", .ofOption ExitCode.toValue e.code)]

end ExitNote

namespace Report

/-- What the version is called. -/
def versionField : Field := ⟨"flow_version", "flowVersion"⟩

/-- The report with given entries that an object describes otherwise. -/
def checkAround (entries : Checked (List Entry)) (members : Members) : Checked Report :=
  Report.mk
    <$> entries
    <*> members.optional versionField [] checkText
    <*> members.optional (.plain "exit") none (checkNullable ExitNote.check)

/-- The report that a document describes. -/
def check : Value → Checked Report :=
  checkRecord fun members =>
    checkAround (members.required (.plain "errors") (checkList Entry.check)) members

/-- A report as a document. -/
def toValue (naming : Naming) (r : Report) : Value :=
  .obj [("errors", .arr (r.entries.map (Entry.toValue naming))),
    (versionField.label naming, .str r.version), ("exit", .ofOption ExitNote.toValue r.exit)]

/-- The entries of a list that can be read. -/
def readableEntries (items : List Value) : List Entry :=
  items.filterMap fun v => (Entry.check v).toOption

end Report

/-! ## Decoding -/

/-- Why output cannot be used. -/
inductive Unusable where
  /-- It is no JSON text. -/
  | notJson (fault : Json.Fault)
  /-- It is no object. -/
  | notObject
  /-- It has no list of errors. -/
  | noErrors
  /-- The rest of it has that many problems. -/
  | wrongShape (problems : Nat)
  deriving DecidableEq, Repr

/-- The wording of a reason. -/
def Unusable.detail : Unusable → Text
  | notJson fault => "invalid json: " ++ fault.message
  | notObject => "top-level JSON value is not an object"
  | noErrors => "missing errors array"
  | wrongShape problems => "unexpected envelope shape (" ++ natText problems ++ " problem(s))"

/-- How the checker ended without a report. -/
structure Ending where
  /-- What it says. -/
  msg : Text
  /-- The status, whatever it is. -/
  code : Value

/-- The wording of an ending. -/
def Ending.message (e : Ending) : Text :=
  "Flow returned an error: " ++ e.msg ++ " (code: " ++ e.code.display ++ ")"

/-- The ending that an exit value describes. -/
def Ending.ofValue : Value → Ending
  | .obj members =>
    ⟨((Members.get? "msg" members).map Value.display).getD [],
      (Members.get? "code" members).getD .null⟩
  | v => ⟨v.display, .null⟩

/-- The checker's output, sorted. -/
inductive Decoded where
  /-- A report, with the members of the document that it was read from. -/
  | report (r : Report) (document : Members)
  /-- An ending in place of a report. -/
  | ended (e : Ending)
  /-- Nothing that can be used. -/
  | unusable (reason : Unusable)

namespace Decoded

/-- The members of a document without a list of errors, sorted. -/
def ofUnreported (members : Members) : Decoded :=
  match members.get? "exit" with
  | some v => if v.isPresent then .ended (.ofValue v) else .unusable .noErrors
  | none => .unusable .noErrors

/-- A document, sorted. -/
def ofValue : Value → Decoded
  | .obj members =>
    match Members.get? "errors" members with
    | some (.arr items) =>
      match Report.checkAround (.good (Report.readableEntries items)) members with
      | .good r => .report r members
      | .bad problems => .unusable (.wrongShape problems.length)
    | _ => ofUnreported members
  | _ => .unusable .notObject

/-- The diagnostic for output without a report. -/
def fatal : Decoded → List Diagnostic
  | report _ _ => []
  | ended e => [.fatal e.message]
  | unusable _ => [.fatal "Flow returned invalid json"]

end Decoded

/-- The checker's output, sorted; an integer of too many digits is refused. -/
def decode (stdout : Text) : Except TooManyDigits Decoded :=
  match Json.read stdout with
  | .ok v => .ok (.ofValue v)
  | .error (.malformed fault) => .ok (.unusable (.notJson fault))
  | .error (.tooLong cause) => .error cause

end FlowLens
