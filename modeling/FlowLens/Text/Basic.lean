/-
  Text as a list of code points.  A checker may write half of a surrogate pair
  into its report, so a unit of text is a character or a surrogate that stands
  alone; everything else in this library works on such lists.

  * `CodePoint`, with `CodePoint.val` and its partial inverse `CodePoint.ofNat?`;
  * `Text`, and the operations on it that the rest needs: `has` (a fragment
    occurs), `removeFirst`, `replaceAll`, `splitBy`, `components` and `joinWith`.
-/

namespace FlowLens

/-! ## Code points -/

/-- A unit of text. -/
inductive CodePoint where
  /-- A character. -/
  | char (c : Char)
  /-- The surrogate `0xD800 + n`, without its partner. -/
  | lone (n : Fin 2048)
  deriving DecidableEq, Repr, Inhabited

namespace CodePoint

/-- The number of a code point. -/
def val : CodePoint → Nat
  | char c => c.toNat
  | lone n => 0xD800 + n.val

/-- The code point with a given number, if there is one. -/
def ofNat? (n : Nat) : Option CodePoint :=
  if n.isValidChar then some (char (Char.ofNat n))
  else if h : 0xD800 ≤ n ∧ n < 0xE000 then some (lone ⟨n - 0xD800, by omega⟩)
  else none

end CodePoint

instance : Coe Char CodePoint := ⟨CodePoint.char⟩

/-- A piece of text. -/
abbrev Text := List CodePoint

namespace Text

/-- The text of a string of characters. -/
def ofString (s : String) : Text :=
  s.toList.map .char

instance : Coe String Text := ⟨ofString⟩

/-- The characters of a text that has no lone surrogate. -/
def chars? : Text → Option (List Char)
  | [] => some []
  | .char c :: rest => (chars? rest).map (c :: ·)
  | .lone _ :: _ => none

/-! ## Fragments -/

/-- Whether `part` occurs somewhere. -/
def has (part : Text) : Text → Bool
  | [] => part.isEmpty
  | c :: rest => part.isPrefixOf (c :: rest) || has part rest

/-- The text without the first occurrence of `part`. -/
def removeFirst (part : Text) : Text → Text
  | [] => []
  | c :: rest =>
    if part.isPrefixOf (c :: rest) then (c :: rest).drop part.length
    else c :: removeFirst part rest

/-- Every `a` turned into `b`. -/
def replaceAll (a b : CodePoint) (t : Text) : Text :=
  t.map fun c => if c = a then b else c

/-- The pieces between the code points that satisfy `p`; one more than there
    are such code points. -/
def splitBy (p : CodePoint → Bool) : Text → List Text
  | [] => [[]]
  | c :: rest =>
    if p c then [] :: splitBy p rest
    else
      match splitBy p rest with
      | [] => [[c]]
      | piece :: pieces => (c :: piece) :: pieces

/-- The pieces of a path's text that count: all but empty ones and `.`. -/
def components (isSeparator : CodePoint → Bool) (t : Text) : List Text :=
  (splitBy isSeparator t).filter fun piece => !piece.isEmpty && piece ≠ ofString "."

/-- The pieces one after the other, with `sep` between them. -/
def joinWith (sep : Text) : List Text → Text
  | [] => []
  | [piece] => piece
  | piece :: pieces => piece ++ sep ++ joinWith sep pieces

/-- The lines one after the other, each with a line feed. -/
def unlines (lines : List Text) : Text :=
  lines.flatMap fun line => line ++ [.char '\n']

/-- The text without the code points that satisfy `p` at its two ends. -/
def trimBy (p : CodePoint → Bool) (t : Text) : Text :=
  ((t.dropWhile p).reverse.dropWhile p).reverse

end Text

end FlowLens
