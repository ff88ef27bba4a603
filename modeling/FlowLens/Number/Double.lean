/-
  Double-precision numbers as exact values.  A finite double is a mantissa below
  `2 ^ 53` times a power of two; each operation computes the exact result and
  rounds once, to the nearest double and to the even mantissa on a tie.

  * `roundDiv` rounds a quotient of naturals to the nearest natural;
  * `Double.ofRatio` rounds a quotient of naturals to a double, and every other
    operation goes through it: `ofInt`, `ofDecimal`, `divide`, `add`, `mul` and
    `roundHundredths`;
  * `Double.le` and `Double.intLe` compare exactly.
-/

namespace FlowLens

/-- The natural number nearest to `n / d`, the even one of two. -/
def roundDiv (n d : Nat) : Nat :=
  let q := n / d
  let r := n % d
  if 2 * r < d then q
  else if d < 2 * r then q + 1
  else if q % 2 = 0 then q
  else q + 1

/-- A double-precision number.  Finite ones are kept with the smallest exponent
    that holds them: `2 ^ 52 ≤ mantissa`, or `exponent = -1074`. -/
inductive Double where
  /-- No number. -/
  | nan
  /-- Beyond all numbers. -/
  | infinite (negative : Bool)
  /-- The number `mantissa * 2 ^ exponent`, with its sign. -/
  | finite (negative : Bool) (mantissa : Nat) (exponent : Int)
  deriving DecidableEq, Repr, Inhabited

/-- Two to the power `n`. -/
def twoTo (n : Nat) : Nat :=
  Nat.pow 2 n

/-- Ten to the power `n`. -/
def tenTo (n : Nat) : Nat :=
  Nat.pow 10 n

/-- The two naturals of `(n / d) / 2 ^ e`. -/
def scaleByTwo (n d : Nat) (e : Int) : Nat × Nat :=
  (n * twoTo (-e).toNat, d * twoTo e.toNat)

/-- The two naturals of `(n / d) / 10 ^ e`. -/
def scaleByTen (n d : Nat) (e : Int) : Nat × Nat :=
  (n * tenTo (-e).toNat, d * tenTo e.toNat)

/-- The greatest `k` with `2 ^ k ≤ n / d`, for positive `n` and `d`. -/
def binaryExponent (n d : Nat) : Int :=
  let k : Int := (n.log2 : Int) - (d.log2 : Int)
  let (a, b) := scaleByTwo n d k
  if b ≤ a then k else k - 1

namespace Double

/-- Zero, with a sign. -/
def zero (negative : Bool) : Double :=
  .finite negative 0 (-1074)

/-- A rounded mantissa at an exponent, brought into the kept form. -/
def pack (negative : Bool) (mantissa : Nat) (exponent : Int) : Double :=
  let (m, e) := if mantissa = twoTo 53 then (twoTo 52, exponent + 1) else (mantissa, exponent)
  if 971 < e then .infinite negative else .finite negative m e

/-- The double nearest to `n / d`, with a sign; infinite from the middle between
    the greatest double and the next power of two on. -/
def ofRatio (negative : Bool) (n d : Nat) : Double :=
  if n = 0 then zero negative
  else
    let e := max (-1074) (binaryExponent n d - 52)
    let (a, b) := scaleByTwo n d e
    pack negative (roundDiv a b) e

/-- The double nearest to `± m * 2 ^ e`. -/
def ofScaled (negative : Bool) (m : Nat) (e : Int) : Double :=
  ofRatio negative (m * twoTo e.toNat) (twoTo (-e).toNat)

/-- The double nearest to an integer. -/
def ofInt (n : Int) : Double :=
  ofRatio (n < 0) n.natAbs 1

/-- The double nearest to `± digits * 10 ^ places`.  A number with more than 310
    places before the point is beyond all doubles, and one that starts after
    the 330th place behind it is nearer to zero than to any other. -/
def ofDecimal (negative : Bool) (digits : Nat) (places : Int) : Double :=
  let top : Int := (Nat.toDigits 10 digits).length + places
  if digits = 0 ∨ top < -330 then zero negative
  else if 310 < top then .infinite negative
  else ofRatio negative (digits * tenTo places.toNat) (tenTo (-places).toNat)

/-- Whether a double is a number. -/
def isFinite : Double → Bool
  | finite _ _ _ => true
  | _ => false

/-- `± m * 2 ^ (e - low)`, for `low ≤ e`. -/
def signedAt (low : Int) (negative : Bool) (m : Nat) (e : Int) : Int :=
  let n : Nat := m * twoTo (e - low).toNat
  if negative then -(n : Int) else n

/-! ## Arithmetic -/

/-- The sum, rounded once. -/
def add : Double → Double → Double
  | nan, _ => nan
  | _, nan => nan
  | infinite s, infinite t => if s = t then .infinite s else nan
  | infinite s, _ => .infinite s
  | _, infinite s => .infinite s
  | finite s m e, finite t n f =>
    let low := min e f
    let sum := signedAt low s m e + signedAt low t n f
    if sum = 0 then zero (s && t) else ofScaled (sum < 0) sum.natAbs low

/-- The product, rounded once. -/
def mul : Double → Double → Double
  | nan, _ => nan
  | _, nan => nan
  | infinite s, infinite t => .infinite (s != t)
  | infinite s, finite t n _ => if n = 0 then nan else .infinite (s != t)
  | finite s m _, infinite t => if m = 0 then nan else .infinite (s != t)
  | finite s m e, finite t n f => ofScaled (s != t) (m * n) (e + f)

/-- The negative of a double. -/
def negate : Double → Double
  | nan => nan
  | infinite s => .infinite (!s)
  | finite s m e => .finite (!s) m e

/-- The difference, rounded once. -/
def sub (x y : Double) : Double :=
  x.add y.negate

/-- The quotient of two numbers, rounded once; a quotient by zero is no number. -/
def dividedBy : Double → Double → Double
  | finite s m e, finite t n f =>
    if n = 0 then nan
    else ofRatio (s != t) (m * twoTo (e - f).toNat) (n * twoTo (f - e).toNat)
  | _, _ => nan

/-- The quotient of two integers, rounded once; `none` beyond all doubles.  A
    zero over a negative number is a negative zero. -/
def divide (n d : Int) : Option Double :=
  match ofRatio ((n < 0) != (d < 0)) n.natAbs d.natAbs with
  | infinite _ => none
  | x => some x

/-- The double nearest to the multiple of one hundredth nearest to a double. -/
def roundHundredths : Double → Double
  | finite s m e =>
    let (a, b) := scaleByTwo (m * 100) 1 (-e)
    ofRatio s (roundDiv a b) 100
  | x => x

/-- A number without its fraction. -/
def truncate? : Double → Option Int
  | finite s m e =>
    let n : Nat := m * twoTo e.toNat / twoTo (-e).toNat
    some (if s then -(n : Int) else n)
  | _ => none

/-- The integer that a double is, if it is one. -/
def whole? : Double → Option Int
  | finite s m e =>
    if m * twoTo e.toNat % twoTo (-e).toNat = 0 then truncate? (.finite s m e) else none
  | _ => none

/-! ## Order -/

/-- Whether the first is at most the second; never for a NaN. -/
def le : Double → Double → Bool
  | nan, _ => false
  | _, nan => false
  | infinite s, infinite t => s || !t
  | infinite s, _ => s
  | _, infinite t => !t
  | finite s m e, finite t n f =>
    let low := min e f
    signedAt low s m e ≤ signedAt low t n f

/-- Whether an integer is at most a double. -/
def intLe (n : Int) : Double → Bool
  | nan => false
  | infinite s => !s
  | finite s m e => n * (twoTo (-e).toNat : Int) ≤ signedAt (min e 0) s m e

/-- Whether a double is zero, of either sign. -/
def isZero : Double → Bool
  | finite _ m _ => m == 0
  | _ => false

end Double

end FlowLens
