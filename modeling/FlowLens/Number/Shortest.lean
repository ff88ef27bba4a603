/-
  The decimal text of a double: the fewest digits that read back as the same
  double, and of those the nearest ones.

  * `Double.shortest?` chooses the digits: for 1, 2, ... 17 digits it looks at
    the two neighbours of the value on that decimal grid;
  * `Double.text` lays them out: positional from `0.0001` up to below `10 ^ 16`,
    with an exponent of at least two digits outside of that.
-/
import FlowLens.Number.Double
import FlowLens.Number.Digits

namespace FlowLens

/-- The greatest `p` with `10 ^ p ≤ n / d`, for positive `n` and `d`. -/
def decimalExponent (n d : Nat) : Int :=
  let p : Int := ((Nat.toDigits 10 n).length : Int) - ((Nat.toDigits 10 d).length : Int)
  let (a, b) := scaleByTen n d p
  if b ≤ a then p else p - 1

namespace Double

/-- Whether `digits * 10 ^ places` reads as the positive double `x`. -/
def readsAs (x : Double) (digits : Nat) (places : Int) : Bool :=
  ofDecimal false digits places = x

/-- The multiple of `10 ^ places` next to `x = n / d` that reads as `x`: the
    nearer one of two, and the even one of two that are equally near. -/
def onGrid? (x : Double) (n d : Nat) (places : Int) : Option Nat :=
  let (a, b) := scaleByTen n d places
  let q := a / b
  let r := a % b
  let nearLow := 2 * r < b ∨ (2 * r = b ∧ q % 2 = 0)
  match x.readsAs q places, x.readsAs (q + 1) places with
  | true, true => some (if nearLow then q else q + 1)
  | true, false => some q
  | false, true => some (q + 1)
  | false, false => none

/-- The fewest digits that read as `± mantissa * 2 ^ exponent`, and the power
    of ten that they count. -/
def shortest? (mantissa : Nat) (exponent : Int) : Option (Nat × Int) :=
  let n := mantissa * twoTo exponent.toNat
  let d := twoTo (-exponent).toNat
  let top := decimalExponent n d
  (List.range 17).findSome? fun (k : Nat) =>
    let places := top - k
    (onGrid? (.finite false mantissa exponent) n d places).map (·, places)

/-! ## Layout -/

/-- `n` zeros. -/
def zeros (n : Nat) : Text :=
  List.replicate n (.char '0')

/-- The exponent of a number in scientific form: a sign and at least two
    digits. -/
def exponentText (e : Int) : Text :=
  let digits := natText e.natAbs
  .char 'e' :: .char (if e < 0 then '-' else '+') :: (zeros (2 - digits.length) ++ digits)

/-- The number `0.digits * 10 ^ point`, where `digits` has no zero at its ends. -/
def layout (digits : Text) (point : Int) : Text :=
  if -4 < point ∧ point ≤ 16 then
    if point ≤ 0 then "0." ++ zeros (-point).toNat ++ digits
    else if point < digits.length then
      digits.take point.toNat ++ .char '.' :: digits.drop point.toNat
    else digits ++ zeros (point.toNat - digits.length) ++ ".0"
  else
    match digits with
    | [] => []
    | [c] => c :: exponentText (point - 1)
    | c :: rest => c :: .char '.' :: (rest ++ exponentText (point - 1))

/-- A finite double without its sign. -/
def magnitudeText (mantissa : Nat) (exponent : Int) : Text :=
  if mantissa = 0 then "0.0"
  else
    match shortest? mantissa exponent with
    | none => []
    | some (n, places) =>
      let digits := natText n
      let trimmed := (digits.reverse.dropWhile (· = .char '0')).reverse
      layout trimmed (digits.length + places)

/-- The decimal text of a double. -/
def text : Double → Text
  | nan => "nan"
  | infinite s => if s then "-inf" else "inf"
  | finite s m e => (if s then "-" else "") ++ magnitudeText m e

end Double

end FlowLens
