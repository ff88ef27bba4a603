/-
  Numbers that a host hands in: an integer, a double or a truth value, which
  counts as 0 or 1.
-/
import FlowLens.Document.Value

namespace FlowLens

/-- A number of a host. -/
inductive Amount where
  | truth (b : Bool)
  | whole (n : Int)
  | real (x : Double)
  deriving DecidableEq, Repr

namespace Amount

/-- The number that a value is, if it is one. -/
def ofValue? : Value → Option Amount
  | .bool b => some (.truth b)
  | .int n => some (.whole n)
  | .float x => some (.real x)
  | _ => none

/-- The integer that a truth value counts as. -/
def ofBool (b : Bool) : Int :=
  if b then 1 else 0

/-- A number and an integer added up; `none` if the integer is beyond all
    doubles and has to become one. -/
def addInt? : Amount → Int → Option Amount
  | truth b, k => some (.whole (ofBool b + k))
  | whole n, k => some (.whole (n + k))
  | real x, k => if (Double.ofInt k).isFinite then some (.real (x.add (.ofInt k))) else none

/-- A number as text. -/
def text : Amount → Except TooManyDigits Text
  | truth b => .ok (if b then "True" else "False")
  | whole n => boundedIntText n
  | real x => .ok x.text

/-- A number as a value. -/
def toValue : Amount → Value
  | truth b => .bool b
  | whole n => .int n
  | real x => .float x

/-- Whether a number is at most a double. -/
def le : Amount → Double → Bool
  | truth b, x => Double.intLe (ofBool b) x
  | whole n, x => Double.intLe n x
  | real y, x => y.le x

end Amount

end FlowLens
