/-
  Quoted text, as it appears inside lists and objects that are shown in a
  message: in single quotes, or in double quotes if it holds single ones only.
-/
import FlowLens.Text.Printable
import FlowLens.Number.Digits

namespace FlowLens

/-- How a code point is written between the quotes `quote`. -/
def CodePoint.quotedIn (quote : CodePoint) (c : CodePoint) : Text :=
  if c = quote ∨ c = .char '\\' then [.char '\\', c]
  else if c = .char '\t' then "\\t"
  else if c = .char '\n' then "\\n"
  else if c = .char '\r' then "\\r"
  else if c.isPrintable then [c]
  else if c.val < 0x100 then "\\x" ++ hexText 2 c.val
  else if c.val < 0x10000 then "\\u" ++ hexText 4 c.val
  else "\\U" ++ hexText 8 c.val

/-- The quotes for a text: double ones if it holds single ones only. -/
def Text.quoteFor (t : Text) : CodePoint :=
  if t.contains (.char '\'') && !t.contains (.char '"') then .char '"' else .char '\''

/-- A text in quotes. -/
def Text.quoted (t : Text) : Text :=
  let quote := t.quoteFor
  quote :: (t.flatMap (CodePoint.quotedIn quote) ++ [quote])

/-- A list of texts in quotes, in brackets. -/
def Text.quotedList (ts : List Text) : Text :=
  .char '[' :: (Text.joinWith ", " (ts.map Text.quoted) ++ [.char ']'])

end FlowLens
