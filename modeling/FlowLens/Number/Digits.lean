/-
  Integers as decimal text.  Only integers of up to `digitLimit` digits are
  read or written; a longer one is refused with `TooManyDigits`.
-/
import FlowLens.Text.Digit

namespace FlowLens

/-- The decimal digits of a natural number. -/
def natText (n : Nat) : Text :=
  (Nat.toDigits 10 n).map .char

/-- An integer in decimal, with a minus sign if it is negative. -/
def intText (n : Int) : Text :=
  if n < 0 then .char '-' :: natText n.natAbs else natText n.natAbs

/-- An integer with a sign. -/
def signed (negative : Bool) (n : Nat) : Int :=
  if negative then -(n : Int) else n

/-- A sign at the front: whether it is a minus, and the rest. -/
def takeSign : Text → Bool × Text
  | .char '-' :: rest => (true, rest)
  | .char '+' :: rest => (false, rest)
  | t => (false, t)

/-- The natural number with the given digits, most significant first. -/
def ofDigits (base : Nat) (digits : List Nat) : Nat :=
  digits.foldl (fun n d => n * base + d) 0

/-- The value of a text of digits `0` to `9`; other code points count as `0`. -/
def asciiNat (t : Text) : Nat :=
  ofDigits 10 (t.map fun c => c.asciiDigit?.getD 0)

/-- A natural number in hexadecimal, padded with zeros to a width. -/
def hexText (width n : Nat) : Text :=
  let digits : Text := (Nat.toDigits 16 n).map .char
  List.replicate (width - digits.length) (.char '0') ++ digits

/-! ## The digit limit -/

/-- The most digits that an integer may have in text. -/
def digitLimit : Nat := 4300

/-- An integer has more digits than text may hold. -/
inductive TooManyDigits where
  /-- A text of that many digits was to be read. -/
  | reading (digits : Nat)
  /-- An integer was to be written. -/
  | writing
  deriving DecidableEq, Repr

/-- The wording of a refusal. -/
def TooManyDigits.message : TooManyDigits → Text
  | reading digits =>
    "Exceeds the limit (4300 digits) for integer string conversion: value has " ++ natText digits ++
      " digits; use sys.set_int_max_str_digits() to increase the limit"
  | writing =>
    "Exceeds the limit (4300 digits) for integer string conversion; " ++
      "use sys.set_int_max_str_digits() to increase the limit"

/-- Whether an integer may be written out. -/
def withinDigitLimit (n : Int) : Bool :=
  (natText n.natAbs).length ≤ digitLimit

/-- An integer in decimal, if it may be written out. -/
def boundedIntText (n : Int) : Except TooManyDigits Text :=
  if withinDigitLimit n then .ok (intText n) else .error .writing

end FlowLens
