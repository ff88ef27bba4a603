/-
  Formatted output: a format is written once for the arguments that it takes, and
  again as long as some are left.

  * `unescaped` works out the escapes of a text;
  * `Printing.run` writes a format for all arguments.
-/
import FlowLens.Number.Shortest
import FlowLens.Shell.Numeral

namespace FlowLens

namespace Shell

/-! ## Escapes -/

/-- The byte that a letter behind a backslash writes. -/
def escapedByte? : Char → Option Char
  | 'a' => some '\x07'
  | 'b' => some '\x08'
  | 'e' => some '\x1b'
  | 'f' => some '\x0c'
  | 'n' => some '\n'
  | 'r' => some '\r'
  | 't' => some '\t'
  | 'v' => some '\x0b'
  | '\\' => some '\\'
  | _ => none

/-- The octal digits at the start of a string, at most `limit` of them. -/
def octalDigits (limit : Nat) (t : Octets) : Octets :=
  (t.take limit).takeWhile fun c => '0' ≤ c && c ≤ '7'

/-- The byte of octal digits. -/
def octalByte (digits : Octets) : Char :=
  Char.ofNat (Octets.ofDigitsIn 8 digits % 256)

/-- What stands behind a backslash in a format, and the rest.  Anything unknown
    leaves the backslash alone. -/
def readEscape (t : Octets) : Char × Octets :=
  let digits := octalDigits 3 t
  if !digits.isEmpty then (octalByte digits, t.drop digits.length)
  else
    match t with
    | c :: rest =>
      match escapedByte? c with
      | some b => (b, rest)
      | none => ('\\', t)
    | [] => ('\\', [])

/-- A text with its escapes worked out, and whether the output ends with it. -/
def unescaped : Nat → Octets → Octets × Bool
  | 0, t => (t, false)
  | _ + 1, [] => ([], false)
  | fuel + 1, '\\' :: rest =>
    match rest with
    | 'c' :: _ => ([], true)
    | '0' :: more =>
      let digits := octalDigits 3 more
      let (t, ended) := unescaped fuel (more.drop digits.length)
      (octalByte digits :: t, ended)
    | _ =>
      let (c, rest) := readEscape rest
      let (t, ended) := unescaped fuel rest
      (c :: t, ended)
  | fuel + 1, c :: rest =>
    let (t, ended) := unescaped fuel rest
    (c :: t, ended)

/-! ## Numbers -/

/-- How a conversion is written. -/
structure Layout where
  /-- Whether it is padded on the right. -/
  left : Bool
  /-- Whether a plus sign is written. -/
  plus : Bool
  /-- Whether a blank takes the place of a plus sign. -/
  blank : Bool
  /-- Whether zeros fill it up. -/
  zero : Bool
  /-- Whether its alternative form is written. -/
  alternative : Bool
  /-- The least width. -/
  width : Nat
  /-- The precision, if there is one. -/
  precision : Option Nat

/-- A string of zeros. -/
def zeroes (n : Nat) : Octets := List.replicate n '0'

/-- A string padded with blanks. -/
def Layout.padded (l : Layout) (t : Octets) : Octets :=
  let gap := List.replicate (l.width - t.length) ' '
  if l.left then t ++ gap else gap ++ t

/-- A number with its sign or mark in front of its digits, padded. -/
def Layout.numeral (l : Layout) (zero : Bool) (front digits : Octets) : Octets :=
  if zero && !l.left then
    front ++ zeroes (l.width - front.length - digits.length) ++ digits
  else l.padded (front ++ digits)

/-- The sign of a number. -/
def Layout.sign (l : Layout) (negative : Bool) : Octets :=
  if negative then "-" else if l.plus then "+" else if l.blank then " " else []

/-- The digits of an integer, at least as many as the precision asks for. -/
def Layout.digits (l : Layout) (t : Octets) : Octets :=
  match l.precision with
  | some 0 => if t = "0" then [] else t
  | some n => zeroes (n - t.length) ++ t
  | none => t

/-- A signed integer. -/
def Layout.signed (l : Layout) (n : Int) : Octets :=
  l.numeral (l.zero && l.precision.isNone) (l.sign (n < 0)) (l.digits (Octets.ofNat n.natAbs))

/-- An unsigned integer in a base. -/
def Layout.unsigned (l : Layout) (conversion : Char) (n : Nat) : Octets :=
  let base := if conversion = 'o' then 8 else if conversion = 'u' then 10 else 16
  let small := Nat.toDigits base n
  let digits := l.digits (if conversion = 'X' then small.map Char.toUpper else small)
  let digits :=
    if l.alternative && conversion = 'o' && digits.head? ≠ some '0' then '0' :: digits else digits
  let front : Octets :=
    if l.alternative && n ≠ 0 && base = 16 then ['0', conversion] else []
  l.numeral (l.zero && l.precision.isNone) front digits

/-- A positive number with a fixed number of places. -/
def fixedDigits (n d places : Nat) (point : Bool) : Octets :=
  let m := Octets.ofNat (roundDiv (n * tenTo places) d)
  let m := zeroes (places + 1 - m.length) ++ m
  let whole := m.take (m.length - places)
  if places = 0 then if point then whole ++ "." else whole
  else whole ++ '.' :: m.drop (m.length - places)

/-- The digits and the exponent of a number with one digit before its point. -/
def scientific (n d places : Nat) : Nat × Int :=
  if n = 0 then (0, 0)
  else
    let k := decimalExponent n d
    let (a, b) := scaleByTen n d (k - places)
    let m := roundDiv a b
    if m = tenTo (places + 1) then (m / 10, k + 1) else (m, k)

/-- An exponent with its sign and at least two digits. -/
def exponentDigits (e : Int) : Octets :=
  let digits := Octets.ofNat e.natAbs
  (if e < 0 then '-' else '+') :: zeroes (2 - digits.length) ++ digits

/-- Digits without zeros at the end of their fraction. -/
def withoutZeros (t : Octets) : Octets :=
  if t.contains '.' then
    let t := (t.reverse.dropWhile (· = '0')).reverse
    if t.getLast? = some '.' then t.dropLast else t
  else t

/-- A positive number with an exponent. -/
def exponentForm (n d places : Nat) (point trims : Bool) (letter : Char) : Octets :=
  let (m, e) := scientific n d places
  let digits := Octets.ofNat m
  let digits := digits ++ zeroes (places + 1 - digits.length)
  let mantissa :=
    if places = 0 then if point then digits ++ "." else digits
    else digits.take 1 ++ '.' :: digits.drop 1
  (if trims then withoutZeros mantissa else mantissa) ++ letter :: exponentDigits e

/-- A positive number with a mantissa in base 16 and a power of two.  Its first digit
    is 1 unless the number is below all normal ones; rounding may make it 2. -/
def hexadecimalForm (mantissa : Nat) (exponent : Int) (precision : Option Nat) (point : Bool) :
    Octets :=
  let power := if mantissa = 0 then 0 else exponent + 52
  let places := precision.getD 13
  let rounded :=
    if places < 13 then roundDiv mantissa (twoTo (4 * (13 - places)))
    else mantissa * twoTo (4 * (places - 13))
  let digits : Octets := Nat.toDigits 16 rounded
  let digits := zeroes (places + 1 - digits.length) ++ digits
  let fraction := digits.drop 1
  let fraction :=
    if precision.isNone then (fraction.reverse.dropWhile (· = '0')).reverse else fraction
  let sign : Char := if power < 0 then '-' else '+'
  digits.take 1 ++ (if fraction.isEmpty && !point then fraction else '.' :: fraction) ++ "p" ++
    sign :: Octets.ofNat power.natAbs

/-- A double as a conversion writes it, with the sign that was read. -/
def Layout.real (l : Layout) (conversion : Char) (signed : Bool) (x : Double) : Octets :=
  let upper := conversion.isUpper
  let cased (t : Octets) : Octets := if upper then t.map Char.toUpper else t
  let kind := conversion.toLower
  match x with
  | .nan => l.padded (l.sign signed ++ cased "nan")
  | .infinite negative => l.padded (l.sign negative ++ cased "inf")
  | .finite negative mantissa exponent =>
    let (n, d) := (mantissa * twoTo exponent.toNat, twoTo (-exponent).toNat)
    let letter := if upper then 'E' else 'e'
    let precision := l.precision.getD 6
    let digits :=
      if kind = 'a' then cased (hexadecimalForm mantissa exponent l.precision l.alternative)
      else if kind = 'f' then fixedDigits n d precision l.alternative
      else if kind = 'e' then exponentForm n d precision l.alternative false letter
      else
        let p := if precision = 0 then 1 else precision
        let e := (scientific n d (p - 1)).2
        if -4 ≤ e && e < p then
          let t := fixedDigits n d ((p : Int) - 1 - e).toNat l.alternative
          if l.alternative then t else withoutZeros t
        else exponentForm n d (p - 1) l.alternative (!l.alternative) letter
    let mark : Octets := if kind = 'a' then cased "0x" else []
    l.numeral l.zero (l.sign negative ++ mark) digits

/-! ## Formats -/

/-- Output while it is written. -/
structure Printing where
  /-- What is written. -/
  output : Octets
  /-- The arguments that are left. -/
  args : List Octets
  /-- The complaints about arguments. -/
  complaints : List Octets
  /-- The complaint that ended the output. -/
  failure : Option Octets
  /-- Whether an escape ended the output. -/
  ended : Bool

namespace Printing

/-- More output. -/
def write (p : Printing) (t : Octets) : Printing :=
  { p with output := p.output ++ t }

/-- The next argument. -/
def take (p : Printing) : Option Octets × Printing :=
  (p.args.head?, { p with args := p.args.tail })

/-- A complaint about an argument. -/
def complain (p : Printing) (arg text : Octets) : Printing :=
  { p with complaints := p.complaints ++ [arg ++ ": " ++ text] }

/-- The complaint about what is left of an argument that is read as a number. -/
def checkRest (p : Printing) (arg : Octets) (rest : Option Octets) (tooLarge : Bool) : Printing :=
  match rest with
  | none => if arg.isEmpty then p else p.complain arg "expected numeric value"
  | some [] => if tooLarge then p.complain arg "Numerical result out of range" else p
  | some _ => p.complain arg "not completely converted"

/-- The next argument as an integer, which `inRange` brings into the range of its
    type.  A quote gives the number of the byte behind it. -/
def integer (p : Printing) (inRange : Int → Int) : Int × Printing :=
  match p.take with
  | (none, p) => (0, p)
  | (some arg, p) =>
    match arg with
    | '"' :: rest => ((rest.headD '\x00').toNat, p)
    | '\'' :: rest => ((rest.headD '\x00').toNat, p)
    | _ =>
      match Octets.leadingInt? 0 arg with
      | none => (0, p.checkRest arg none false)
      | some (n, rest) => (inRange n, p.checkRest arg (some rest) (inRange n ≠ n))

/-- The next argument as a signed integer. -/
def signed (p : Printing) : Int × Printing :=
  p.integer fun n => max (-(twoTo 63 : Int)) (min (twoTo 63 - 1) n)

/-- The next argument as an unsigned integer; a negative one counts from above, and
    one beyond the range on either side is the greatest. -/
def unsigned (p : Printing) : Nat × Printing :=
  match p.integer fun n => if n.natAbs < twoTo 64 then n else twoTo 64 - 1 with
  | (n, p) => ((n % (twoTo 64 : Int)).toNat, p)

/-- The next argument as a double, and whether it has a minus sign. -/
def real (p : Printing) : Bool × Double × Printing :=
  match p.take with
  | (none, p) => (false, .zero false, p)
  | (some arg, p) =>
    match arg with
    | '"' :: rest => (false, .ofInt (rest.headD '\x00').toNat, p)
    | '\'' :: rest => (false, .ofInt (rest.headD '\x00').toNat, p)
    | _ =>
      match Numeral.leading? arg with
      | none => (false, .zero false, p.checkRest arg none false)
      | some x => (x.negative, x.value, p.checkRest arg (some x.rest) x.outOfRange)

/-- The next argument as a string. -/
def text (p : Printing) : Octets × Printing :=
  match p.take with
  | (arg, p) => (arg.getD [], p)

/-- A number of a format: digits, or a star for an argument. -/
def number (p : Printing) (t : Octets) : Option Int × Octets × Printing :=
  match t with
  | '*' :: rest =>
    match p.signed with
    | (n, p) => (some n, rest, p)
  | _ =>
    let digits := t.takeWhile Char.isDigit
    (if digits.isEmpty then none else some (Octets.decimal digits), t.drop digits.length, p)

/-- Writes one conversion, whose whole text is `shown`. -/
def convert (p : Printing) (l : Layout) (conversion : Char) (shown : Octets) : Printing :=
  if conversion = 's' then
    match p.text with
    | (t, p) => p.write (l.padded (match l.precision with | some n => t.take n | none => t))
  else if conversion = 'b' then
    match p.text with
    | (t, p) =>
      let (t, ended) := unescaped (t.length + 1) t
      let t := match l.precision with | some n => t.take n | none => t
      { p.write (l.padded t) with ended }
  else if conversion = 'c' then
    match p.text with
    | (t, p) => p.write (l.padded [t.headD '\x00'])
  else if conversion = 'd' || conversion = 'i' then
    match p.signed with
    | (n, p) => p.write (l.signed n)
  else if ("ouxX" : Octets).contains conversion then
    match p.unsigned with
    | (n, p) => p.write (l.unsigned conversion n)
  else if ("aAeEfFgG" : Octets).contains conversion then
    match p.real with
    | (negative, x, p) => p.write (l.real conversion negative x)
  else { p with failure := some (shown ++ ": invalid directive") }

/-- Writes a format once. -/
def once : Nat → Octets → Printing → Printing
  | 0, _, p => p
  | _ + 1, [], p => p
  | fuel + 1, '\\' :: rest, p =>
    let (c, rest) := readEscape rest
    once fuel rest (p.write [c])
  | fuel + 1, '%' :: '%' :: rest, p => once fuel rest (p.write "%")
  | fuel + 1, '%' :: rest, p =>
    let flags := rest.takeWhile ("#-+ 0" : Octets).contains
    let (width, after, p) := p.number (rest.drop flags.length)
    let (precision, after, p) : Option Int × Octets × Printing :=
      match after with
      | '.' :: more =>
        match p.number more with
        | (n, after, p) => (some (n.getD 0), after, p)
      | _ => (none, after, p)
    match after with
    | [] => { p with failure := some "missing format character" }
    | conversion :: after =>
      let shown : Octets := '%' :: rest.take (rest.length - after.length)
      let width := width.getD 0
      let l : Layout :=
        ⟨flags.contains '-' || width < 0, flags.contains '+', flags.contains ' ',
          flags.contains '0', flags.contains '#', width.natAbs,
          precision.bind fun n => if n < 0 then none else some n.toNat⟩
      let p := p.convert l conversion shown
      if p.ended || p.failure.isSome then p else once fuel after p
  | fuel + 1, c :: rest, p => once fuel rest (p.write [c])

/-- Writes a format until it takes no more arguments. -/
def again : Nat → Octets → Printing → Printing
  | 0, _, p => p
  | fuel + 1, format, p =>
    let q := once (format.length + 1) format p
    if q.args.isEmpty || q.args.length = p.args.length || q.ended || q.failure.isSome then q
    else again fuel format q

/-- Writes a format for some arguments. -/
def run (format : Octets) (args : List Octets) : Printing :=
  again (args.length + 1) format ⟨[], args, [], none, false⟩

end Printing

end Shell

end FlowLens
