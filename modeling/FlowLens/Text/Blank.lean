/-
  Two classes of blank.  `isSpace` is the White_Space property; `isBlank` adds
  the four information separators, which end a paragraph in some scripts and
  count as blank when a word is trimmed.
-/
import FlowLens.Text.Basic

namespace FlowLens

namespace CodePoint

/-- The White_Space property. -/
def isSpace (c : CodePoint) : Bool :=
  let n := c.val
  (9 ≤ n && n ≤ 13) || n == 0x20 || n == 0x85 || n == 0xA0 || n == 0x1680 ||
    (0x2000 ≤ n && n ≤ 0x200A) || n == 0x2028 || n == 0x2029 || n == 0x202F ||
    n == 0x205F || n == 0x3000

/-- White space or an information separator (`0x1C` to `0x1F`). -/
def isBlank (c : CodePoint) : Bool :=
  c.isSpace || (0x1C ≤ c.val && c.val ≤ 0x1F)

end CodePoint

/-- The text without blanks at its two ends. -/
def Text.strip (t : Text) : Text :=
  t.trimBy CodePoint.isBlank

end FlowLens
