/-
  Numbers at the start of a text, as a program reads them from its arguments:
  decimal or hexadecimal, with a fraction and an exponent, or by name.

  * `Numeral.leading?` reads the longest number that a text starts with;
  * `Numeral.outOfRange` holds of a number that no double comes near.
-/
import FlowLens.Number.Double
import FlowLens.Shell.Octets

namespace FlowLens

namespace Shell

/-- A number that was read. -/
structure Numeral where
  /-- Whether a minus sign stands before it. -/
  negative : Bool
  /-- The nearest double. -/
  value : Double
  /-- Whether the double is all of the number. -/
  exact : Bool
  /-- What stands behind it. -/
  rest : Octets

namespace Numeral

/-- Whether a number is too large for a double, or lost in being too small. -/
def outOfRange (x : Numeral) : Bool :=
  !x.exact &&
    match x.value with
    | .finite _ mantissa _ => mantissa < twoTo 52
    | .infinite _ => true
    | .nan => false

/-- The digits of a number and how many of them stand behind its point, and what
    follows; none if there is no digit. -/
def digits? (isDigit : Char → Bool) (t : Octets) : Option (Octets × Nat × Octets) :=
  let whole := t.takeWhile isDigit
  let rest := t.drop whole.length
  let (fraction, rest) : Octets × Octets :=
    match rest with
    | '.' :: more => (more.takeWhile isDigit, more.dropWhile isDigit)
    | rest => ([], rest)
  if whole.isEmpty && fraction.isEmpty then none
  else some (whole ++ fraction, fraction.length, rest)

/-- The exponent behind a letter, and what follows; zero if there is none. -/
def exponent (letter : Char) (t : Octets) : Int × Octets :=
  match t with
  | c :: more =>
    let (minus, digits) : Bool × Octets :=
      match more with
      | '-' :: digits => (true, digits)
      | '+' :: digits => (false, digits)
      | digits => (false, digits)
    let value := digits.takeWhile Char.isDigit
    if c.toLower = letter && !value.isEmpty then
      let n : Int := Octets.decimal value
      (if minus then -n else n, digits.drop value.length)
    else (0, t)
  | [] => (0, [])

/-- Whether a double is `n / d`. -/
def isRatio (x : Double) (n d : Nat) : Bool :=
  match x with
  | .finite _ mantissa exponent => mantissa * twoTo exponent.toNat * d = n * twoTo (-exponent).toNat
  | _ => false

/-- A decimal number. -/
def decimal? (negative : Bool) (t : Octets) : Option Numeral := do
  let (digits, places, rest) ← digits? Char.isDigit t
  let (e, rest) := exponent 'e' rest
  let n := Octets.decimal digits
  let power := e - places
  let value := Double.ofDecimal negative n power
  let isNear := value.isFinite && !value.isZero
  let exact := n = 0 || (isNear && isRatio value (n * tenTo power.toNat) (tenTo (-power).toNat))
  return ⟨negative, value, exact, rest⟩

/-- A power of two beyond which a number of few digits is no double. -/
def powerLimit (digits : Octets) : Nat := 1200 + 4 * digits.length

/-- A hexadecimal number. -/
def hexadecimal? (negative : Bool) (t : Octets) : Option Numeral := do
  let (digits, places, rest) ← digits? (fun c => Octets.digitValue c < 16) t
  let (e, rest) := exponent 'p' rest
  let n := Octets.ofDigitsIn 16 digits
  let limit : Int := powerLimit digits
  let power := max (-limit) (min limit (e - 4 * places))
  let value := Double.ofScaled negative n power
  return ⟨negative, value, isRatio value (n * twoTo power.toNat) (twoTo (-power).toNat), rest⟩

/-- What stands behind the name of no number, which may have a note in parentheses. -/
def behindNan (t : Octets) : Octets :=
  match t with
  | '(' :: more =>
    match more.dropWhile Octets.inName with
    | ')' :: rest => rest
    | _ => t
  | _ => t

/-- The number that a text starts with, behind blanks. -/
def leading? (t : Octets) : Option Numeral :=
  let body := t.dropWhile Octets.isSpace
  let (negative, body) : Bool × Octets :=
    match body with
    | '-' :: rest => (true, rest)
    | '+' :: rest => (false, rest)
    | body => (false, body)
  let named (name : Octets) : Bool := (body.take name.length).map Char.toLower = name
  if named "infinity" then some ⟨negative, .infinite negative, true, body.drop 8⟩
  else if named "inf" then some ⟨negative, .infinite negative, true, body.drop 3⟩
  else if named "nan" then some ⟨negative, .nan, true, behindNan (body.drop 3)⟩
  else if named "0x" then (hexadecimal? negative (body.drop 2)).or (decimal? negative body)
  else decimal? negative body

end Numeral

end Shell

end FlowLens
