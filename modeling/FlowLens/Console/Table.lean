/-
  The table of a file's diagnostics: the file, a heading and a row for each
  diagnostic, as wide as the console.  The name of the file is markup.
-/
import FlowLens.Console.Columns
import FlowLens.Console.Markup
import FlowLens.Console.Terminal
import FlowLens.Report.Summary

namespace FlowLens

/-- Why a table cannot be written. -/
inductive TableFault where
  /-- An integer has too many digits. -/
  | tooLong (cause : TooManyDigits)
  /-- The size of the console is no number. -/
  | console (fault : IntegerFault)
  /-- The console is too wide for its columns to share. -/
  | shareTooLarge
  /-- The console is too wide for a line. -/
  | room (fault : RoomFault)
  /-- The name of the file is no markup. -/
  | markup (fault : MarkupFault)
  /-- It holds half of a surrogate pair. -/
  | loneSurrogate
  deriving DecidableEq, Repr

/-- An integer in a table. -/
def cellText (n : Int) : Except TableFault Text :=
  match boundedIntText n with
  | .ok t => .ok t
  | .error cause => .error (.tooLong cause)

/-! ## The table -/

/-- The columns of a table of diagnostics. -/
def lintColumns : List Column :=
  [⟨"Line", .right, false, []⟩, ⟨"Col", .right, false, []⟩, ⟨"Level", .left, false, "bold"⟩,
    ⟨"Rule", .left, false, []⟩, ⟨"Message", .left, true, []⟩]

/-- The colour of a severity. -/
def Severity.color : Severity → Text
  | error => "red"
  | warning => "yellow"

/-- The texts of a diagnostic's row. -/
def Diagnostic.row (d : Diagnostic) : Except TableFault (List StyledText) := do
  let line ← cellText d.span.start.line
  let column ← cellText d.span.start.column
  let rule := (d.rule.map Rule.label).getD "-"
  return [.ofText [] line, .ofText [] column, .ofText d.severity.color d.severity.label,
    .ofText [] rule, .ofText [] d.message]

/-- A fault of a style, as one of a table. -/
def TableFault.ofColor : ColorFault → TableFault := fun _ => .markup .noNumber

/-- The least number that is beyond all doubles. -/
def beyondDoubles : Nat := twoTo 1024 - twoTo 970

/-- The lines of the table of a file's diagnostics on a console; one without cells
    shows nothing. -/
def LintReport.tableLines (width : Nat) (r : LintReport) : Except TableFault SegmentLines := do
  let rows ← r.diagnostics.mapM (·.row)
  if width = 0 then return []
  let texts := (List.range lintColumns.length).map fun k =>
    (lintColumns.map (·.heading)).getD k [] :: rows.map fun row => (row.map (·.plain)).getD k []
  let widths := columnWidths (width - gridCells lintColumns) texts
  if widths.any (beyondDoubles ≤ ·) then throw .shareTooLarge
  let title ← (Markup.read "table.title" r.path).mapError .markup
  let room := totalWidth widths + gridCells lintColumns
  if let some fault := roomFault? ((room - title.plain.cells) / 2) then throw (.room fault)
  let titleLines := title.wrapped .center true room
  let above ← (titleLines.mapM PlacedText.segments).mapError .ofColor
  let heading ← (Style.named "table.header").mapError .ofColor
  let grid ← (layOut (lintColumns.zip widths) heading rows).mapError .ofColor
  return (above ++ grid).map fun line =>
    if width < Segment.cells line then Segment.crop width line else line

/-- The table of a file's diagnostics on a console. -/
def LintReport.table (env : Environment) (r : LintReport) : Except TableFault Printout := do
  let console ← (env.console false).mapError .console
  let lines ← r.tableLines console.width
  let bare := (env.get? "NO_COLOR").any (!·.isEmpty)
  let shown (s : Segment) : Segment := if bare then { s with style := s.style.withoutColor } else s
  let output : Printout := lines.flatMap fun line =>
    (line.flatMap fun s => (shown s).written console.depth) ++ [.text "\n"]
  if output.isWritable then return output else .error .loneSurrogate

end FlowLens
