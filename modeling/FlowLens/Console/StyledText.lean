/-
  Text with styles: one for all of it, and one for each of some stretches, where a
  later stretch lies over an earlier one.

  * `StyledText.lines` are the lines of a text, with blanks for its tabs;
  * `StyledText.divide` cuts a text, `StyledText.fit` shortens it, and
    `StyledText.place` puts it at the left, in the middle or at the right of a line;
  * `PlacedText.segments` are its pieces of one style each;
  * `Segment.written` is a piece with the codes of its style.
-/
import FlowLens.Console.Printout
import FlowLens.Console.Theme
import FlowLens.Console.Wrap

namespace FlowLens

/-- A piece of a line in one style. -/
structure Segment where
  /-- What it shows. -/
  shown : Printout
  /-- The style. -/
  style : Style
  deriving DecidableEq, Repr

/-- A stretch of a text and the words of its style. -/
structure Stretch where
  /-- Where it starts. -/
  start : Nat
  /-- Where it stops. -/
  stop : Nat
  /-- The words of its style. -/
  words : Text
  deriving DecidableEq, Repr

/-- A text with styles. -/
structure StyledText where
  /-- The text. -/
  plain : Text
  /-- The stretches that have styles of their own. -/
  stretches : List Stretch
  /-- The words of the style of all of it, empty if it has none. -/
  base : Text
  deriving DecidableEq, Repr

/-- A text with blanks on its two sides. -/
structure PlacedText where
  /-- The blanks before it. -/
  before : Nat
  /-- The text. -/
  text : StyledText
  /-- The blanks behind it. -/
  behind : Nat
  deriving DecidableEq, Repr

/-- Where a text stands in a line. -/
inductive Alignment where
  | left
  | center
  | right
  deriving DecidableEq, Repr

/-- Whether a code point would move the cursor of a terminal about. -/
def movesCursor (c : CodePoint) : Bool :=
  c.val = 7 || c.val = 8 || c.val = 11 || c.val = 12 || c.val = 13

/-- A number of blanks. -/
def blanks (n : Nat) : Text :=
  List.replicate n (.char ' ')

namespace StyledText

/-- A text in a style, without what would move the cursor about. -/
def ofText (base : Text) (t : Text) : StyledText :=
  ⟨t.filter (!movesCursor ·), [], base⟩

/-- A text all of which is a stretch. -/
def stretched (words : Text) (t : StyledText) : StyledText :=
  if t.plain.isEmpty then t
  else { t with stretches := t.stretches ++ [⟨0, t.plain.length, words⟩] }

/-! ## Cutting -/

/-- The part of a text between two places, with what is in it of its stretches. -/
def part (start stop : Nat) (t : StyledText) : StyledText :=
  let inside (s : Stretch) : Stretch :=
    ⟨s.start - start, min (s.stop - start) (stop - start), s.words⟩
  { t with
    plain := (t.plain.take stop).drop start
    stretches := (t.stretches.map inside).filter fun s => s.start < s.stop }

/-- The parts of a text between some places in it. -/
def parts (t : StyledText) : Nat → List Nat → List StyledText
  | start, [] => [t.part start t.plain.length]
  | start, stop :: rest => t.part start stop :: parts t stop rest

/-- A text cut at some places; one that is not cut stays as it is. -/
def divide (places : List Nat) (t : StyledText) : List StyledText :=
  if places.isEmpty then [t] else t.parts 0 places

/-- The places behind the code points that satisfy `p`. -/
def placesBehind (p : CodePoint → Bool) (t : Text) : List Nat :=
  (t.zipIdx.filter fun (c, _) => p c).map fun (_, k) => k + 1

/-- The pieces of a text between line feeds. -/
def rawLines (t : StyledText) : List StyledText :=
  let ends := placesBehind (· = .char '\n') t.plain
  if ends.isEmpty then [t]
  else
    let stops := ends.map (· - 1) ++ [t.plain.length]
    ((0 :: ends).zip stops).map fun (start, stop) => t.part start stop

/-- The text as another one; what is beyond the end of a shorter one is no part of
    a stretch. -/
def withPlain (plain : Text) (t : StyledText) : StyledText :=
  let clipped (s : Stretch) : Stretch := { s with stop := min plain.length s.stop }
  if plain.length < t.plain.length then
    { t with plain, stretches := (t.stretches.filter (·.start < plain.length)).map clipped }
  else { t with plain }

/-- The texts one after the other; the style of each is its first stretch. -/
def joined (ts : List StyledText) : StyledText :=
  ts.foldl (fun (sum : StyledText) t =>
    let offset := sum.plain.length
    let own : List Stretch := if t.base.isEmpty then [] else [⟨0, t.plain.length, t.base⟩]
    let moved := (own ++ t.stretches).map fun s => ⟨s.start + offset, s.stop + offset, s.words⟩
    { sum with plain := sum.plain ++ t.plain, stretches := sum.stretches ++ moved }) ⟨[], [], []⟩

/-! ## Tabs -/

/-- The distance between the stops of tabs. -/
def tabWidth : Nat := 8

/-- The text with more blanks, which belong to the stretches that reach its end. -/
def extended (n : Nat) (t : StyledText) : StyledText :=
  let stretch (s : Stretch) : Stretch :=
    if t.plain.length ≤ s.stop then { s with stop := s.stop + n } else s
  { t with plain := t.plain ++ blanks n, stretches := t.stretches.map stretch }

/-- The parts of a line, each up to and with a tab, from the cell `position` on,
    with blanks up to the next stop for each tab. -/
def expandParts (position : Nat) : List StyledText → List StyledText
  | [] => []
  | part :: rest =>
    if part.plain.getLast? = some (.char '\t') then
      let part := { part with plain := part.plain.dropLast ++ blanks 1 }
      let position := position + part.plain.cells
      let gap := (tabWidth - position % tabWidth) % tabWidth
      part.extended gap :: expandParts (position + gap) rest
    else part :: expandParts (position + part.plain.cells) rest

/-- A line with blanks for its tabs. -/
def withoutTabs (t : StyledText) : StyledText :=
  if t.plain.contains (.char '\t') then
    let places := placesBehind (· = .char '\t') t.plain
    let parts := (t.divide places).filter fun p => !p.plain.isEmpty
    { joined (expandParts 0 parts) with base := t.base }
  else t

/-- The lines of a text, with blanks for its tabs. -/
def lines (t : StyledText) : List StyledText :=
  t.rawLines.map withoutTabs

/-! ## Placing -/

/-- The text without the blanks at its end. -/
def trimEnd (t : StyledText) : StyledText :=
  t.withPlain (Text.trimEnd t.plain)

/-- The text without blanks at its end, as far as they are beyond `width` code
    points. -/
def trimBeyond (width : Nat) (t : StyledText) : StyledText :=
  let blank := t.plain.length - (Text.trimEnd t.plain).length
  t.withPlain (t.plain.take (t.plain.length - min blank (t.plain.length - width)))

/-- The text in at most `width` cells, with an ellipsis for what is left out if
    that is wanted. -/
def fit (ellipsis : Bool) (width : Nat) (t : StyledText) : StyledText :=
  if t.plain.cells ≤ width then t
  else if ellipsis then t.withPlain (Text.crop (width - 1) t.plain ++ [.char '…'])
  else t.withPlain (Text.crop width t.plain)

/-- The text in a line of `width` cells. -/
def place (alignment : Alignment) (ellipsis : Bool) (width : Nat) (t : StyledText) : PlacedText :=
  match alignment with
  | .left =>
    let spare := width - t.plain.cells
    ⟨0, t.fit ellipsis width, spare⟩
  | .center =>
    let t := t.trimEnd.fit ellipsis width
    let spare := width - t.plain.cells
    ⟨spare / 2, t, spare - spare / 2⟩
  | .right =>
    let t := t.trimEnd.fit ellipsis width
    ⟨width - t.plain.cells, t, 0⟩

/-- The text in lines of `width` cells.  A word that is wider goes on in the next
    line if it may be cut. -/
def wrapped (alignment : Alignment) (cuts : Bool) (width : Nat) (t : StyledText) :
    List PlacedText :=
  t.lines.flatMap fun line =>
    (line.divide (Text.breaks cuts width line.plain)).map fun piece =>
      (piece.trimBeyond width).place alignment (!cuts) width

end StyledText

/-! ## Segments -/

/-- The numbers in ascending order, each once. -/
def ascending (ns : List Nat) : List Nat :=
  (ns.mergeSort).eraseDups

/-- The part of a line between two places, with the blanks of its sides. -/
def PlacedText.between (start stop : Nat) (p : PlacedText) : Printout :=
  let behind := p.before + p.text.plain.length
  [.run (.char ' ') (min stop p.before - start),
    .text ((p.text.plain.take (stop - p.before)).drop (start - p.before)),
    .run (.char ' ') (stop - max start behind)]

/-- The pieces of a line of one style each. -/
def PlacedText.segments (p : PlacedText) : Except ColorFault (List Segment) := do
  let length := p.before + p.text.plain.length + p.behind
  let own : List Stretch := if p.text.base.isEmpty then [] else [⟨0, length, p.text.base⟩]
  let stretches := own ++ p.text.stretches.map fun s =>
    ⟨s.start + p.before, s.stop + p.before, s.words⟩
  let styled ← stretches.mapM fun s => do return (s, ← Style.named s.words)
  let places := ascending (0 :: length :: stretches.flatMap fun s => [s.start, s.stop])
  return (places.zip places.tail).map fun (start, stop) =>
    let covering := styled.filter fun (s, _) => s.start ≤ start && stop ≤ s.stop
    ⟨p.between start stop, covering.foldl (fun style (_, top) => top.on style) .plain⟩

namespace Segment

/-- The cells of some segments. -/
def cells (segments : List Segment) : Nat :=
  segments.foldl (fun n s => n + s.shown.cells) 0

/-- Blanks in a style. -/
def blank (n : Nat) (style : Style) : Segment :=
  ⟨.blank n, style⟩

/-- Segments over a style. -/
def laidOn (style : Style) (segments : List Segment) : List Segment :=
  segments.map fun s => { s with style := s.style.on style }

/-- Segments of which at most `width` cells are left. -/
def crop (width : Nat) : List Segment → List Segment
  | [] => []
  | s :: rest =>
    if s.shown.cells < width then s :: crop (width - s.shown.cells) rest
    else [{ s with shown := .ofText (Text.crop width s.shown.text) }]

/-- Segments in exactly `width` cells, with blanks in a style if they have fewer. -/
def adjust (width : Nat) (style : Style) (segments : List Segment) : List Segment :=
  let n := cells segments
  if n < width then segments ++ [blank (width - n) style]
  else if width < n then crop width segments
  else segments

/-- A segment with the codes of its style. -/
def written (depth : Option ColorDepth) (s : Segment) : Printout :=
  match depth with
  | some depth =>
    if s.shown.isBare then s.shown
    else
      let (front, back) := s.style.around depth
      .text front :: s.shown ++ [.text back]
  | none => s.shown

end Segment

end FlowLens
