/-
  Columns side by side on a console.

  * `columnWidths` are the widths of columns that fill the console: a column is as
    wide as its widest line, the widest ones give way if there is too little room,
    and what is left over goes to all of them in proportion;
  * `Column.lay` is what a column shows of a cell, line by line;
  * `layOut` is the grid of headings and rows.
-/
import FlowLens.Console.StyledText

namespace FlowLens

/-- A column. -/
structure Column where
  /-- What stands above it. -/
  heading : Text
  /-- Where its texts stand. -/
  alignment : Alignment
  /-- Whether a word that is too wide goes on in the next line; otherwise its end
      is left out. -/
  cuts : Bool
  /-- The words of the style of its cells. -/
  words : Text

/-! ## Widths -/

/-- The blanks on the two sides of a text in a column. -/
def columnPadding : Nat := 2

/-- Whether a code point ends a line when a text is measured. -/
def endsLine (c : CodePoint) : Bool :=
  let n := c.val
  (10 ≤ n && n ≤ 13) || (0x1C ≤ n && n ≤ 0x1E) || n == 0x85 || n == 0x2028 || n == 0x2029

/-- The cells of the widest line of a text. -/
def widestLine (t : Text) : Nat :=
  ((Text.splitBy endsLine t).map Text.cells).foldl max 0

/-- The width that the texts of a column ask for, of at most `limit`. -/
def askedWidth (limit : Nat) (texts : List Text) : Nat :=
  if limit ≤ columnPadding then limit
  else min ((texts.map widestLine).foldl max 0 + columnPadding) limit

/-- Widths put together. -/
def totalWidth (widths : List Nat) : Nat :=
  widths.foldl Nat.add 0

/-- The least integer not below a quotient. -/
def quotientAbove (a b : Nat) : Nat :=
  (a + b - 1) / b

/-- Takes `excess` off the widths in equal parts, from each at most the number
    beside it; `count` of these are not zero. -/
def shrinkWidths (excess count : Nat) : List (Nat × Nat) → List Nat
  | [] => []
  | (width, most) :: rest =>
    if most = 0 then width :: shrinkWidths excess count rest
    else
      let part := min most (roundDiv excess count)
      (width - part) :: shrinkWidths (excess - part) (count - 1) rest

/-- Brings the widest columns down to the next widest ones, until all fit into
    `room`; `fuel` bounds the steps. -/
def levelWidths (room : Nat) : Nat → List Nat → List Nat
  | 0, widths => widths
  | fuel + 1, widths =>
    let excess := totalWidth widths - room
    let widest := widths.foldl max 0
    let next := (widths.filter (· ≠ widest)).foldl max 0
    if excess = 0 || widest = next then widths
    else
      let most := min excess (widest - next)
      levelWidths room fuel (shrinkWidths excess (widths.count widest)
        (widths.map fun width => (width, if width = widest then most else 0)))

/-- Adds `spare` to the widths in proportion to them; `total` is their sum. -/
def growWidths (spare total : Nat) : List Nat → List Nat
  | [] => []
  | width :: rest =>
    let part := if total = 0 then spare else quotientAbove (width * spare) total
    (width + part) :: growWidths (spare - part) (total - width) rest

/-- The widths of columns with the given texts in `room` cells. -/
def columnWidths (room : Nat) (columns : List (List Text)) : List Nat :=
  let asked := columns.map fun texts => max 1 (askedWidth room texts)
  let total := totalWidth asked
  if total ≤ room then growWidths (room - total) total asked
  else
    let level := levelWidths room total asked
    let fitting := shrinkWidths (totalWidth level - room) (level.countP (· ≠ 0))
      (level.map fun width => (width, width))
    (columns.zip fitting).map fun (texts, width) => askedWidth width texts

/-! ## Cells -/

/-- Lines of segments. -/
abbrev SegmentLines := List (List Segment)

/-- What a column of `width` cells shows of a text in a style, line by line. -/
def Column.lay (c : Column) (width : Nat) (style : Style) (t : StyledText) :
    Except ColorFault SegmentLines := do
  let room := width - columnPadding
  if room = 0 then return []
  (t.wrapped c.alignment c.cuts room).mapM fun line => do
    let inner := Segment.adjust room .plain (← line.segments)
    return Segment.laidOn style ([Segment.blank 1 .plain] ++ inner ++ [Segment.blank 1 .plain])

/-! ## The grid -/

/-- The cells of a line that the edges and the gaps between columns take up. -/
def gridCells (columns : List Column) : Nat :=
  columns.length + 1

/-- A cell in its column. -/
structure Cell where
  /-- The width of the column. -/
  width : Nat
  /-- The style of the cell. -/
  style : Style
  /-- What the column shows of it. -/
  lines : SegmentLines

/-- A cell in `height` lines, with blank ones below or above. -/
def Cell.raised (fromTop : Bool) (height : Nat) (cell : Cell) : SegmentLines :=
  let missing := List.replicate (height - cell.lines.length) [Segment.blank cell.width cell.style]
  if fromTop then cell.lines ++ missing else missing ++ cell.lines

/-- The lines of a row of cells, laid out from the top or from the bottom.  A row
    has a line even if no column has room for its cell. -/
def gridRow (fromTop : Bool) (cells : List Cell) : SegmentLines :=
  let height := (cells.map (·.lines.length)).foldl max 0
  let gap := Segment.blank 1 .plain
  let full := cells.map fun cell => (cell, cell.raised fromTop height)
  (List.range (max 1 height)).map fun k =>
    let line := full.map fun (cell, lines) => lines.getD k [Segment.blank cell.width .plain]
    [gap] ++ (line.intersperse [gap]).flatten ++ [gap]

/-- The line below the headings. -/
def gridRule (widths : List Nat) : Printout :=
  [.text " ", .run (.char '─') (totalWidth widths + (widths.length - 1)), .text " "]

/-- The lines of a grid of rows below headings, with a blank line above it and
    one below. -/
def layOut (columns : List (Column × Nat)) (heading : Style) (rows : List (List StyledText)) :
    Except ColorFault SegmentLines := do
  let widths := columns.map (·.2)
  let edge := [Segment.blank (totalWidth widths + gridCells (columns.map (·.1))) .plain]
  let top ← columns.mapM fun (c, width) => do
    return ⟨width, heading, ← c.lay width heading (.ofText [] c.heading)⟩
  let below ← rows.mapM fun row => (columns.zip row).mapM fun ((c, width), t) => do
    let style ← Style.named c.words
    return (⟨width, style, ← c.lay width style t⟩ : Cell)
  return [edge] ++ gridRow false top ++ [[⟨gridRule widths, .plain⟩]] ++
    below.flatMap (gridRow true) ++ [edge]

end FlowLens
