/-
  Codes of emoji: a name between colons, perhaps with the presentation that is
  wanted.
-/
import FlowLens.Console.EmojiNames
import FlowLens.Text.Blank
import FlowLens.Text.LowerCase

namespace FlowLens

namespace Emoji

/-- A code: what it says between the colons, its name, and the selector for the
    presentation that is wanted. -/
structure Code where
  /-- All between the colons. -/
  inner : Text
  /-- The name of the emoji. -/
  name : Text
  /-- The selector, empty if no presentation is asked for. -/
  selector : Text
  deriving DecidableEq, Repr

/-- The ends of a code, each with the selector that it asks for. -/
def codeEnds : List (Text × Text) :=
  [("-emoji:", "\ufe0f"), ("-text:", "\ufe0e"), (":", "")]

/-- The code that starts behind a colon, and what follows it.  `name` is the name
    so far; it ends as soon as it can. -/
def takeCode? (name : Text) : Text → Option (Code × Text)
  | [] => none
  | c :: rest =>
    match codeEnds.find? fun (stop, _) => stop.isPrefixOf (c :: rest) with
    | some (stop, selector) =>
      some (⟨name ++ stop.dropLast, name, selector⟩, (c :: rest).drop stop.length)
    | none => if c.isBlank then none else takeCode? (name ++ [c]) rest

/-- What is shown for a code: its emoji, or the code itself if it has none. -/
def Code.shown (code : Code) : Text :=
  match named? code.name.lower with
  | some emoji => emoji ++ code.selector
  | none => .char ':' :: (code.inner ++ [.char ':'])

/-- The first `fuel` steps of replacing codes. -/
def replaceWithin : Nat → Text → Text
  | 0, t => t
  | _ + 1, [] => []
  | fuel + 1, c :: rest =>
    if c = .char ':' then
      match takeCode? [] rest with
      | some (code, behind) => code.shown ++ replaceWithin fuel behind
      | none => c :: replaceWithin fuel rest
    else c :: replaceWithin fuel rest

/-- A text with an emoji for each code. -/
def replace (t : Text) : Text :=
  replaceWithin t.length t

end Emoji

end FlowLens
