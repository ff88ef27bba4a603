/-
  From the checker's output to what the host is told.

  * `diagnose` turns an output into the diagnostics of one file, entry by entry;
  * `coverageOf` reads the counts of an output;
  * `Checker.collect` and `Checker.coverage` run the checker and do so.
-/
import FlowLens.Checker.Basic
import FlowLens.Path.Basic
import FlowLens.Report.Envelope
import FlowLens.Report.Reference
import FlowLens.Report.Summary

namespace FlowLens

/-- Why the host is told nothing. -/
inductive Failure where
  /-- A call fails. -/
  | call (fault : CallFault)
  /-- The offset cannot be used. -/
  | offset (fault : OffsetFault)
  /-- The output holds an integer of too many digits. -/
  | tooLong (cause : TooManyDigits)
  deriving DecidableEq, Repr

/-- What comes of a check. -/
inductive Outcome (α : Type) where
  /-- There was nothing to check. -/
  | skipped
  /-- The checker gave no output. -/
  | unsupported (reason : Text)
  /-- The checker answered. -/
  | told (a : α)
  deriving Repr

/-! ## Diagnostics -/

/-- The file that a path below a root names. -/
def fileBelow (cwd : Path) (root file : Text) : Path :=
  Path.resolve cwd ((Path.ofText root).join (.ofText file))

/-- What the checker says about definitions that several files share; it is of
    no use for one file. -/
def sharedDefinitions : Text := "inconsistent use of"

/-- Whether an entry is about the file `target` and worth telling. -/
def Entry.concerns (cwd : Path) (root : Text) (target : Path) (e : Entry) : Bool :=
  match e.place?.bind (·.source) with
  | none => false
  | some source =>
    !source.isEmpty && !e.primary.descr.isEmpty && !Text.has sharedDefinitions e.primary.descr &&
      fileBelow cwd root source = target

/-- What is told about an entry: its description, with references resolved if
    there are any to refer to. -/
def Entry.describe (root version : Text) (offset : Offset) (e : Entry) : Except OffsetFault Text :=
  match e.references with
  | [] => .ok e.primary.descr
  | references => FlowLens.describe e.primary references root version offset.line

/-- The severity of an entry; one that is not named is an error. -/
def Entry.severity (e : Entry) : Severity :=
  (e.level.map (Severity.ofText .error)).getD .error

/-- The diagnostic for an entry. -/
def Entry.diagnostic (root version : Text) (offset : Offset) (raw : Option Members) (e : Entry) :
    Except OffsetFault Diagnostic := do
  let message ← e.describe root version offset
  let span ← offset.shiftPlace e.primary.place
  return ⟨some (.ofMessage message), e.severity, message, some e.primary.path,
    some span.start.line, some span.stop.line, span, raw⟩

/-- The diagnostics for those entries of a report that are about one file, in
    order. -/
def Report.diagnostics (cwd : Path) (root file : Text) (offset : Offset) (raw : Option Members)
    (r : Report) : Except OffsetFault (List Diagnostic) :=
  (r.entries.filter (Entry.concerns cwd root (fileBelow cwd root file))).mapM
    (Entry.diagnostic root r.version offset raw)

/-- The diagnostics for an output of the checker: those of its report, or a
    single one that says what is wrong with it. -/
def diagnose (cwd : Path) (debug : Bool) (root file : Text) (offset : Offset) (stdout : Text) :
    Except Failure (List Diagnostic) :=
  match decode stdout with
  | .error cause => .error (.tooLong cause)
  | .ok (.report r document) =>
    match r.diagnostics cwd root file offset (if debug then some document else none) with
    | .ok ds => .ok ds
    | .error fault => .error (.offset fault)
  | .ok other => .ok other.fatal

/-! ## Coverage -/

/-- A count: an integer, or a truth value as 0 or 1. -/
def countOf? : Value → Option Int
  | .int n => some n
  | .bool b => some (Amount.ofBool b)
  | _ => none

/-- The counts of a document; nothing is counted unless both are there. -/
def Coverage.ofDocument (v : Value) : Coverage :=
  (counts? v).getD Coverage.none
where
  /-- The counts, if both are there. -/
  counts? : Value → Option Coverage
    | .obj members =>
      match Members.get? "expressions" members with
      | some (.obj expressions) => do
        let covered ← (Members.get? "covered_count" expressions).bind countOf?
        let uncovered ← (Members.get? "uncovered_count" expressions).bind countOf?
        return ⟨covered, uncovered⟩
      | _ => Option.none
    | _ => Option.none

/-- The counts of an output of the checker; one that cannot be read counts
    nothing. -/
def coverageOf (stdout : Text) : Except Failure Coverage :=
  match Json.read stdout with
  | .ok v => .ok (.ofDocument v)
  | .error (.malformed _) => .ok .none
  | .error (.tooLong cause) => .error (.tooLong cause)

/-! ## Running the checker -/

namespace Checker

/-- What is made of an invocation. -/
def tell {α : Type} (read : Text → Except Failure α) :
    Except CallFault Invocation × Session → Except Failure (Outcome α) × Session
  | (.error fault, s) => (.error (.call fault), s)
  | (.ok .skipped, s) => (.ok .skipped, s)
  | (.ok (.unsupported reason), s) => (.ok (.unsupported reason), s)
  | (.ok (.completed stdout), s) => ((read stdout).map .told, s)

/-- The diagnostics of a text that starts at a given offset. -/
def collectAt (run : Runner) (cwd : Path) (c : Checker) (r : Request) (offset : Offset)
    (s : Session) :
    Except Failure (Outcome (List Diagnostic)) × Session :=
  tell (diagnose cwd c.debug r.root r.file offset) (c.invoke run "check-contents" r s)

/-- The diagnostics of a text.  An offset that cannot be taken in is a fault
    before the checker is run. -/
def collect (run : Runner) (cwd : Path) (c : Checker) (r : Request)
    (offset : Except OffsetFault Offset) (s : Session) :
    Except Failure (Outcome (List Diagnostic)) × Session :=
  match offset with
  | .error fault => (.error (.offset fault), s)
  | .ok offset => c.collectAt run cwd r offset s

/-- The coverage of a text. -/
def coverage (run : Runner) (c : Checker) (r : Request) (s : Session) :
    Except Failure (Outcome Coverage) × Session :=
  tell coverageOf (c.invoke run "coverage" r s)

end Checker

/-! ## Summaries -/

/-- The summary of the diagnostics of a file. -/
def LintReport.ofOutcome (path : Text) : Outcome (List Diagnostic) → LintReport
  | .skipped => ⟨path, .skipped, []⟩
  | .unsupported _ => ⟨path, .unsupported, []⟩
  | .told diagnostics => ⟨path, .ok, diagnostics⟩

/-- The summary of the coverage of a file. -/
def CoverageReport.ofOutcome (path : Text) : Outcome Coverage → CoverageReport
  | .skipped => ⟨path, .skipped, .none⟩
  | .unsupported _ => ⟨path, .unsupported, .none⟩
  | .told coverage => ⟨path, .ok, coverage⟩

end FlowLens
