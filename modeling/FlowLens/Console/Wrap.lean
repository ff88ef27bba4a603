/-
  Lines of a limited width.

  * `Text.clusters` are the pieces of a text that are shown as one;
  * `Text.chop` cuts a word into pieces that fit;
  * `Text.words` are the words of a line, each with the blanks behind it;
  * `Text.breaks` says where to break a line between its words, and where to cut
    those that are wider than a whole line;
  * `Text.crop` is the front of a text.
-/
import FlowLens.Text.Blank
import FlowLens.Text.Width

namespace FlowLens

namespace Text

/-! ## What is shown as one -/

/-- A piece of text that is shown as one, and the cells that it takes up. -/
structure Cluster where
  /-- Its text. -/
  text : Text
  /-- Its cells. -/
  cells : Nat
  deriving DecidableEq, Repr

/-- The clusters with more text in the last one, which is the first here. -/
def extendLast (more : Text) (cells : Nat) : List Cluster → List Cluster
  | [] => [⟨more, cells⟩]
  | last :: earlier => ⟨last.text ++ more, last.cells + cells⟩ :: earlier

/-- The clusters of a text behind those of `done`, which are in reverse; `last` is
    the last code point that takes up a cell and has not been widened.  A joiner
    with nothing before it joins nothing. -/
def clustersAfter (last : Option CodePoint) (done : List Cluster) : Text → List Cluster
  | [] => done.reverse
  | c :: rest =>
    if c = CodePoint.joiner && !done.isEmpty then
      match rest with
      | [] => (extendLast [c] 0 done).reverse
      | d :: rest => clustersAfter last (extendLast [c, d] 0 done) rest
    else if c = CodePoint.emojiSelector then
      let widened := last.any fun c => CodePoint.inRanges CodePoint.widenedRanges c.val
      clustersAfter none (extendLast [c] (if widened then 1 else 0) done) rest
    else if c.cells = 0 then clustersAfter last (extendLast [c] 0 done) rest
    else clustersAfter (some c) (⟨[c], c.cells⟩ :: done) rest

/-- The pieces of a text that are shown as one each. -/
def clusters (t : Text) : List Cluster :=
  clustersAfter none [] t

/-- Clusters in pieces of at most `width` cells; `piece` is what there is of the
    first one, in reverse, and `cells` are its cells. -/
def chopFrom (width : Nat) (piece : List Text) (cells : Nat) : List Cluster → List Text
  | [] => [piece.reverse.flatten]
  | cluster :: rest =>
    if cells + cluster.cells ≤ width then
      chopFrom width (cluster.text :: piece) (cells + cluster.cells) rest
    else piece.reverse.flatten :: chopFrom width [cluster.text] cluster.cells rest

/-- A text in pieces of at most `width` cells, each as long as can be. -/
def chop (width : Nat) (t : Text) : List Text :=
  chopFrom width [] 0 t.clusters

/-! ## Words -/

/-- The words of a line, each with the blanks behind it.  Those at the start
    belong to the first word, and a blank line has none. -/
def words : Text → List Text
  | [] => []
  | c :: rest =>
    match words rest with
    | [] => if c.isBlank then [] else [c :: rest]
    | word :: more =>
      if c.isBlank || !(word.head?.any CodePoint.isBlank) then (c :: word) :: more
      else
        let blanks := word.takeWhile CodePoint.isBlank
        (c :: blanks) :: word.drop blanks.length :: more

/-- A text without the blanks at its end. -/
def trimEnd (t : Text) : Text :=
  (t.reverse.dropWhile CodePoint.isBlank).reverse

/-! ## Lines -/

/-- A line that is being broken. -/
structure Wrapping where
  /-- Where the next word starts. -/
  place : Nat
  /-- The cells of the last line. -/
  cells : Nat
  /-- Where the line is broken, in reverse. -/
  breaks : List Nat

namespace Wrapping

/-- A break at the next word; there is none at the start. -/
def broken (w : Wrapping) : Wrapping :=
  if w.place = 0 then w else { w with breaks := w.place :: w.breaks }

/-- A word in pieces, each on a line of its own. -/
def addPieces (w : Wrapping) : List Text → Wrapping
  | [] => w
  | piece :: rest =>
    let w := w.broken
    addPieces { w with place := w.place + piece.length, cells := piece.cells } rest

/-- A word on the last line if it fits there, otherwise on a line of its own.  A
    word that is wider than a line may be cut. -/
def add (cuts : Bool) (width : Nat) (w : Wrapping) (word : Text) : Wrapping :=
  let needed := (trimEnd word).cells
  let place := w.place + word.length
  if w.cells + needed ≤ width then { w with place, cells := w.cells + word.cells }
  else if needed ≤ width && w.cells = 0 then { w with place }
  else if needed ≤ width || !cuts then { w.broken with place, cells := word.cells }
  else { w.addPieces (chop width word) with place }

end Wrapping

/-- Where a line is broken into lines of at most `width` cells; blanks at their ends
    may be beyond. -/
def breaks (cuts : Bool) (width : Nat) (line : Text) : List Nat :=
  (line.words.foldl (Wrapping.add cuts width) ⟨0, 0, []⟩).breaks.reverse

/-! ## Cropping -/

/-- The first `width` cells of some clusters, with a blank for half of one. -/
def cropFrom (width : Nat) : List Cluster → Text
  | [] => []
  | cluster :: rest =>
    if cluster.cells ≤ width then cluster.text ++ cropFrom (width - cluster.cells) rest
    else blankFor width
where
  /-- A blank if there is room for one. -/
  blankFor (width : Nat) : Text :=
    if width = 0 then [] else [.char ' ']

/-- The first `width` cells of a text. -/
def crop (width : Nat) (t : Text) : Text :=
  if width = 0 then [] else cropFrom width t.clusters

end Text

end FlowLens
