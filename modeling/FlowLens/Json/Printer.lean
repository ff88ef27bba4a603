/-
  Writing a document as JSON text, in ASCII: every code point beyond it, and
  the last one in it, is escaped by number, a character beyond the first plane
  as a surrogate pair.

  * `print` writes a value over several lines, each level two blanks further
    in; empty lists and objects stay on their line.
-/
import FlowLens.Document.Value

namespace FlowLens

namespace Json

/-- An escaped number. -/
def numberedEscape (n : Nat) : Text :=
  "\\u" ++ hexText 4 n

/-- How a code point is written in a string. -/
def escape (c : CodePoint) : Text :=
  if c = .char '"' then "\\\""
  else if c = .char '\\' then "\\\\"
  else if c = .char '\x08' then "\\b"
  else if c = .char '\x0c' then "\\f"
  else if c = .char '\n' then "\\n"
  else if c = .char '\r' then "\\r"
  else if c = .char '\t' then "\\t"
  else if 0x20 ≤ c.val ∧ c.val < 0x7F then [c]
  else if c.val < 0x10000 then numberedEscape c.val
  else
    let n := c.val - 0x10000
    numberedEscape (0xD800 + n / 0x400) ++ numberedEscape (0xDC00 + n % 0x400)

/-- A text in double quotes. -/
def printString (t : Text) : Text :=
  .char '"' :: (t.flatMap escape ++ [.char '"'])

/-- A double: its shortest decimal, or one of three words. -/
def printDouble : Double → Text
  | .nan => "NaN"
  | .infinite negative => if negative then "-Infinity" else "Infinity"
  | x => x.text

/-- The start of a line that is `depth` levels in. -/
def newLine (depth : Nat) : Text :=
  .char '\n' :: List.replicate (2 * depth) (.char ' ')

mutual

/-- A value whose first line is `depth` levels in. -/
def printAt (depth : Nat) : Value → Text
  | .null => "null"
  | .bool b => if b then "true" else "false"
  | .int n => intText n
  | .float x => printDouble x
  | .str t => printString t
  | .moment t => printString t
  | .arr items =>
    if items.isEmpty then "[]"
    else .char '[' :: (newLine (depth + 1) ++ printItems (depth + 1) items ++ newLine depth ++ "]")
  | .obj members =>
    if members.isEmpty then "\x7b\x7d"
    else
      .char '\x7b' ::
        (newLine (depth + 1) ++ printMembers (depth + 1) members ++ newLine depth ++ "\x7d")

/-- The items of a list, each on a line of its own. -/
def printItems (depth : Nat) : List Value → Text
  | [] => []
  | [v] => printAt depth v
  | v :: w :: rest =>
    printAt depth v ++ .char ',' :: (newLine depth ++ printItems depth (w :: rest))

/-- The members of an object, each on a line of its own. -/
def printMembers (depth : Nat) : List (Text × Value) → Text
  | [] => []
  | [(name, v)] => printString name ++ ": " ++ printAt depth v
  | (name, v) :: w :: rest =>
    printString name ++ ": " ++ printAt depth v ++
      .char ',' :: (newLine depth ++ printMembers depth (w :: rest))

end

/-- A value as JSON text. -/
def print (v : Value) : Text :=
  printAt 0 v

mutual

/-- Whether every integer in a value may be written out. -/
def writable : Value → Bool
  | .int n => withinDigitLimit n
  | .arr items => writableItems items
  | .obj members => writableMembers members
  | _ => true

/-- Whether every integer in some items may be written out. -/
def writableItems : List Value → Bool
  | [] => true
  | v :: rest => writable v && writableItems rest

/-- Whether every integer in some members may be written out. -/
def writableMembers : List (Text × Value) → Bool
  | [] => true
  | (_, v) :: rest => writable v && writableMembers rest

end

end Json

end FlowLens
