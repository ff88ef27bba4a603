/-
  Markup: tags in brackets open and close styles and are not shown, a backslash
  keeps a bracket, and codes stand for emoji.

  * `Markup.pieces` divides markup into tags and what is between them;
  * `Markup.read` is the text that markup stands for; a tag that closes nothing is
    a fault.
-/
import FlowLens.Console.Emoji
import FlowLens.Console.Literal
import FlowLens.Console.StyledText

namespace FlowLens

/-- Why markup cannot be shown. -/
inductive MarkupFault where
  /-- A tag that closes the last open one, though none is open. -/
  | nothingToClose (position : Nat)
  /-- A tag that closes one which is not open. -/
  | notOpen (tag : Text) (position : Nat)
  /-- A part of a colour has no number. -/
  | noNumber
  /-- What a tag for something to be done has behind its equals sign is no value. -/
  | literal (fault : LiteralFault)
  deriving DecidableEq, Repr

/-- The wording of a fault. -/
def MarkupFault.message : MarkupFault → Text
  | nothingToClose position =>
    "closing tag '[/]' at position " ++ natText position ++ " has nothing to close"
  | notOpen tag position =>
    "closing tag '" ++ tag ++ "' at position " ++ natText position ++ " doesn't match any open tag"
  | noNumber => "invalid literal for int() with base 10: ''"
  | literal fault => fault.message

namespace Markup

/-- A piece of markup. -/
inductive Piece where
  /-- Something to show. -/
  | plain (t : Text)
  /-- A tag, with where it starts and what it has between the brackets. -/
  | tag (position : Nat) (body : Text)
  deriving DecidableEq, Repr

/-! ## Pieces -/

/-- Whether a code point may start a tag. -/
def startsTag (c : CodePoint) : Bool :=
  (0x61 ≤ c.val && c.val ≤ 0x7A) || c = .char '#' || c = .char '/' || c = .char '@'

/-- What the tag at the front has between its brackets, and what follows it. -/
def takeTag? : Text → Option (Text × Text)
  | .char '[' :: c :: rest =>
    if startsTag c then
      match rest.span fun d => d ≠ .char ']' && d ≠ .char '[' with
      | (body, .char ']' :: rest') => some (c :: body, rest')
      | _ => none
    else none
  | _ => none

/-- A piece to show, unless it is empty. -/
def plainPiece (t : Text) : List Piece :=
  if t.isEmpty then [] else [.plain t]

/-- The pieces for a tag behind `slashes` backslashes: two of them stand for one,
    and one that is left over keeps the tag. -/
def tagPieces (position slashes : Nat) (body : Text) : List Piece :=
  plainPiece (List.replicate (slashes / 2) (.char '\\')) ++
    [if slashes % 2 = 1 then .plain (.char '[' :: (body ++ [.char ']']))
      else .tag (position + 2 * (slashes / 2)) body]

/-- The pieces of markup in at most `fuel` steps; `before` is to be shown in front
    of it. -/
def piecesWithin : Nat → Nat → Text → Text → List Piece
  | 0, _, before, t => plainPiece (before ++ t)
  | _ + 1, _, before, [] => plainPiece before
  | fuel + 1, position, before, c :: rest =>
    let (slashes, behind) := (c :: rest).span (· = .char '\\')
    let n := slashes.length
    match takeTag? behind with
    | some (body, behind) =>
      plainPiece before ++ tagPieces position n body ++
        piecesWithin fuel (position + n + body.length + 2) [] behind
    | none =>
      if n = 0 then piecesWithin fuel (position + 1) (before ++ [c]) rest
      else piecesWithin fuel (position + n) (before ++ slashes) behind

/-- The pieces of markup. -/
def pieces (t : Text) : List Piece :=
  piecesWithin t.length 0 [] t

/-! ## What is shown -/

/-- The text without the backslashes in front of brackets. -/
def dropBackslashes : Text → Text
  | .char '\\' :: .char '[' :: rest => .char '[' :: dropBackslashes rest
  | c :: rest => c :: dropBackslashes rest
  | [] => []

/-- The text by which the names of tags are compared. -/
def nameOf (name : Text) : Except MarkupFault Text :=
  match Style.normalForm name with
  | .ok t => .ok t
  | .error _ => .error .noNumber

/-- A tag that is open. -/
structure Opened where
  /-- Where its stretch starts. -/
  start : Nat
  /-- Its name in normal form. -/
  name : Text
  /-- What it has behind an equals sign. -/
  argument : Option Text
  deriving DecidableEq, Repr

/-- The words of the style of a tag. -/
def Opened.words (tag : Opened) : Text :=
  match tag.argument with
  | some argument => tag.name ++ (" " : Text) ++ argument
  | none => tag.name

/-- Whether a tag stands for something to be done, and not for a style. -/
def Opened.isAction (tag : Opened) : Bool :=
  tag.name.head? = some (.char '@')

/-- What has been read of markup. -/
structure Reading where
  /-- The text. -/
  plain : Text
  /-- The stretches, the last one first. -/
  stretches : List Stretch
  /-- The tags that are open, the last one first. -/
  opened : List Opened

namespace Reading

/-- The end of the stretch of a tag. -/
def finish (r : Reading) (tag : Opened) : Except MarkupFault Reading := do
  let words : Text ←
    if tag.isAction then
      match Literal.fault? (tag.argument.getD []) with
      | some fault => .error (.literal fault)
      | none => .ok "none"
    else .ok tag.words
  return { r with stretches := ⟨tag.start, r.plain.length, words⟩ :: r.stretches }

/-- What has been read after a tag that closes another one. -/
def close (r : Reading) (position : Nat) (body name : Text) : Except MarkupFault Reading :=
  if name.isEmpty then
    match r.opened with
    | [] => .error (.nothingToClose position)
    | tag :: opened => finish { r with opened } tag
  else do
    let name ← nameOf name
    match r.opened.find? (·.name = name) with
    | some tag => finish { r with opened := r.opened.eraseP (·.name = name) } tag
    | none => .error (.notOpen (.char '[' :: (body ++ [.char ']'])) position)

/-- What has been read after a tag. -/
def tag (r : Reading) (position : Nat) (body : Text) : Except MarkupFault Reading :=
  let (name, behind) := body.span (· ≠ .char '=')
  match name with
  | .char '/' :: name => r.close position body (Text.strip name)
  | name => do
    let argument := match behind with | [] => none | _ :: argument => some argument
    return { r with opened := ⟨r.plain.length, ← nameOf name, argument⟩ :: r.opened }

/-- What has been read after a piece. -/
def piece (r : Reading) : Piece → Except MarkupFault Reading
  | .plain t =>
    .ok { r with plain := r.plain ++ (Emoji.replace (dropBackslashes t)).filter (!movesCursor ·) }
  | .tag position body => r.tag position body

/-- The text that was read; tags that are still open reach to its end. -/
def text (base : Text) (r : Reading) : StyledText :=
  let still := r.opened.map fun tag => ⟨tag.start, r.plain.length, tag.words⟩
  ⟨r.plain, (still.reverse ++ r.stretches).mergeSort fun a b => a.start ≤ b.start, base⟩

end Reading

/-- The text that markup stands for, in a style. -/
def read (base t : Text) : Except MarkupFault StyledText := do
  let r ← (pieces t).foldlM Reading.piece ⟨[], [], []⟩
  return r.text base

end Markup

end FlowLens
