/-
  How alike two texts are: the longest stretch that both have is matched, then
  what is before it on both sides and what is behind it, and so on.

  * `Text.matched` counts the code points that are matched;
  * `Text.closest` gives those of some words that are close to a text.
-/
import FlowLens.Text.Basic

namespace FlowLens

namespace Text

/-- The length of the longest common start. -/
def commonStart : Text → Text → Nat
  | a :: as, b :: bs => if a = b then commonStart as bs + 1 else 0
  | _, _ => 0

/-- A stretch that two texts have in common: where it starts in each, and its
    length. -/
structure Stretch where
  /-- Where it starts in the first text. -/
  here : Nat
  /-- Where it starts in the second text. -/
  there : Nat
  /-- Its length. -/
  length : Nat
  deriving DecidableEq, Repr

/-- The longest stretch that two texts have in common; of several, the first in
    the first text, then the first in the second. -/
def longestStretch (a b : Text) : Stretch :=
  (List.range a.length).foldl
    (fun best i =>
      (List.range b.length).foldl
        (fun best j =>
          let length := commonStart (a.drop i) (b.drop j)
          if length > best.length then ⟨i, j, length⟩ else best)
        best)
    ⟨0, 0, 0⟩

/-- The number of code points that two texts have matched, in at most `depth`
    nested stretches. -/
def matchedWithin : Nat → Text → Text → Nat
  | 0, _, _ => 0
  | depth + 1, a, b =>
    let s := longestStretch a b
    if s.length = 0 then 0
    else
      s.length + matchedWithin depth (a.take s.here) (b.take s.there) +
        matchedWithin depth (a.drop (s.here + s.length)) (b.drop (s.there + s.length))

/-- The number of code points that two texts have matched. -/
def matched (a b : Text) : Nat :=
  matchedWithin a.length a b

/-- Whether at least three fifths of two texts are matched. -/
def isClose (a b : Text) : Bool :=
  3 * (a.length + b.length) ≤ 10 * matched a b

/-- Whether a text comes before another one in the order of code points. -/
def comesBefore : Text → Text → Bool
  | _, [] => false
  | [], _ :: _ => true
  | a :: as, b :: bs => if a = b then comesBefore as bs else decide (a.val < b.val)

/-- Whether `a` is closer to a text than `b`; of two that are equally close, the
    later one in the order of code points comes first. -/
def isCloser (t a b : Text) : Bool :=
  let left := matched a t * (b.length + t.length)
  let right := matched b t * (a.length + t.length)
  left > right || (left == right && !comesBefore a b)

/-- Those of some words that are close to a text, the closest first. -/
def closest (words : List Text) (t : Text) : List Text :=
  (words.filter (isClose · t)).mergeSort (isCloser t)

end Text

end FlowLens
