/-
  Integers in text: white space around them, a sign, and digits of any script with
  single underscores between them.

  * `readInteger` is the integer that a text writes.
-/
import FlowLens.Number.Digits
import FlowLens.Text.Blank
import FlowLens.Text.Digit
import FlowLens.Text.Quoted

namespace FlowLens

/-- Why a text writes no integer. -/
inductive IntegerFault where
  /-- It is written otherwise. -/
  | notInteger (t : Text)
  /-- It has too many digits. -/
  | tooLong (cause : TooManyDigits)
  deriving DecidableEq, Repr

/-- The most that a message shows of a text in quotes. -/
def shownLimit : Nat := 200

/-- The wording of a fault. -/
def IntegerFault.message : IntegerFault → Text
  | notInteger t => "invalid literal for int() with base 10: " ++ t.quoted.take shownLimit
  | tooLong cause => cause.message

/-- The digits of a text in which single underscores may stand between digits
    of any script. -/
def groupedDigits? : Text → Option (List Nat)
  | [] => none
  | [c] => c.digit?.map ([·])
  | c :: .char '_' :: rest => do
    let d ← c.digit?
    let ds ← groupedDigits? rest
    return d :: ds
  | c :: rest => do
    let d ← c.digit?
    let ds ← groupedDigits? rest
    return d :: ds

/-- The integer that a text writes.  Too many digits are told apart before what
    follows them is looked at. -/
def readInteger (t : Text) : Except IntegerFault Int :=
  let (negative, rest) := takeSign (t.dropWhile CodePoint.isSpace)
  let (run, rest) := rest.span fun c => c.isDigit || c = .char '_'
  match groupedDigits? run with
  | none => .error (.notInteger t)
  | some digits =>
    if digits.length > digitLimit then .error (.tooLong (.reading digits.length))
    else if !(rest.dropWhile CodePoint.isSpace).isEmpty then .error (.notInteger t)
    else .ok (signed negative (ofDigits 10 digits))

end FlowLens
