/-
  Where something stands in a source text.

  * `Position`, a line and a column;
  * `Span`, from one position to another;
  * `Place`, a span in a source that the checker names.

  Each has a check that reads it from a document and a `toValue` that writes it.
-/
import FlowLens.Schema.Scalar

namespace FlowLens

/-! ## Positions -/

/-- A place between two characters. -/
structure Position where
  /-- The line. -/
  line : Int
  /-- The column. -/
  column : Int
  /-- The distance from the start of the text, if known. -/
  offset : Option Int
  deriving DecidableEq, Repr

namespace Position

/-- The position that a document describes. -/
def check : Value → Checked Position :=
  checkRecord fun members =>
    Position.mk
      <$> members.required (.plain "line") checkInt
      <*> members.required (.plain "column") checkInt
      <*> members.optional (.plain "offset") none (checkNullable checkInt)

/-- A position as a document. -/
def toValue (p : Position) : Value :=
  .obj [("line", .int p.line), ("column", .int p.column), ("offset", .ofOption .int p.offset)]

/-- A position as a document, without an unknown offset. -/
def payload (p : Position) : Value :=
  .obj (("line", .int p.line) :: ("column", .int p.column) ::
    (p.offset.map fun n => (Text.ofString "offset", Value.int n)).toList)

end Position

/-! ## Spans -/

/-- A stretch of text. -/
structure Span where
  /-- Where it starts. -/
  start : Position
  /-- Where it ends. -/
  stop : Position
  deriving DecidableEq, Repr

namespace Span

/-- The span that a document describes. -/
def check : Value → Checked Span :=
  checkRecord fun members =>
    Span.mk
      <$> members.required (.plain "start") Position.check
      <*> members.required (.plain "end") Position.check

/-- A span as a document. -/
def toValue (s : Span) : Value :=
  .obj [("start", s.start.toValue), ("end", s.stop.toValue)]

/-- A span as a document, without unknown offsets. -/
def payload (s : Span) : Value :=
  .obj [("start", s.start.payload), ("end", s.stop.payload)]

/-- The span for something that stands nowhere. -/
def nowhere : Span :=
  ⟨⟨1, 1, none⟩, ⟨1, 1, none⟩⟩

end Span

/-! ## Places -/

/-- A span in a source. -/
structure Place where
  /-- The source, if named. -/
  source : Option Text
  /-- Where the span starts. -/
  start : Position
  /-- Where the span ends. -/
  stop : Position
  /-- What kind of source it is. -/
  kind : Option Text
  deriving DecidableEq, Repr

namespace Place

/-- What a kind of source is called. -/
def kindField : Field := ⟨"kind", "type"⟩

/-- The place that a document describes. -/
def check : Value → Checked Place :=
  checkRecord fun members =>
    Place.mk
      <$> members.optional (.plain "source") none (checkNullable checkText)
      <*> members.required (.plain "start") Position.check
      <*> members.required (.plain "end") Position.check
      <*> members.optional kindField (some "SourceFile") (checkNullable checkText)

/-- A place as a document. -/
def toValue (naming : Naming) (p : Place) : Value :=
  .obj [("source", .ofOption .str p.source), ("start", p.start.toValue), ("end", p.stop.toValue),
    (kindField.label naming, .ofOption .str p.kind)]

/-- Whether a place is in a library that comes with the checker. -/
def isLibrary (p : Place) : Bool :=
  p.kind = some "LibFile"

end Place

end FlowLens
