/-
  Strings of bytes, as the shell sees every text.  A byte is written as the
  character of its number, so that a script reads like text while each element is
  still one byte.
-/
import FlowLens.Text.Utf8

namespace FlowLens

/-- A string of bytes, each written as the character of its number. -/
abbrev Octets := List Char

instance : Coe String Octets := ⟨String.toList⟩

namespace Octets

/-- Bytes as octets. -/
def ofBytes (bytes : List UInt8) : Octets :=
  bytes.map fun b => Char.ofNat b.toNat

/-- Octets as bytes. -/
def toBytes (t : Octets) : List UInt8 :=
  t.map fun c => UInt8.ofNat c.toNat

/-- A text in UTF-8. -/
def ofText (t : Text) : Octets :=
  ofBytes (Utf8.encode t)

/-- The text that some octets write in UTF-8. -/
def toText (t : Octets) : Text :=
  Utf8.decodeLossy t.toBytes

/-- A natural number in decimal digits. -/
def ofNat (n : Nat) : Octets :=
  Nat.toDigits 10 n

/-- An integer in decimal digits. -/
def ofInt (n : Int) : Octets :=
  if n < 0 then '-' :: ofNat n.natAbs else ofNat n.toNat

/-- Whether a byte may start a name. -/
def startsName (c : Char) : Bool :=
  c.isAlpha || c = '_'

/-- Whether a byte may stand in a name. -/
def inName (c : Char) : Bool :=
  c.isAlphanum || c = '_'

/-- Whether a string is a name. -/
def isName : Octets → Bool
  | [] => false
  | c :: rest => startsName c && rest.all inName

/-- Whether a byte is a space of the C locale. -/
def isSpace (c : Char) : Bool :=
  c = ' ' || (9 ≤ c.toNat && c.toNat ≤ 13)

/-- The number that decimal digits write. -/
def decimal (digits : Octets) : Nat :=
  digits.foldl (fun n c => n * 10 + (c.toNat - 48)) 0

/-- The number that a string of decimal digits writes. -/
def toNat? (t : Octets) : Option Nat :=
  if !t.isEmpty && t.all Char.isDigit then some (decimal t) else none

/-- The value of a digit in any base up to 36. -/
def digitValue (c : Char) : Nat :=
  if c.isDigit then c.toNat - 48
  else if c.isLower then c.toNat - 87
  else if c.isUpper then c.toNat - 55
  else 36

/-- The number that digits write in a base. -/
def ofDigitsIn (base : Nat) (digits : Octets) : Nat :=
  digits.foldl (fun n c => n * base + digitValue c) 0

/-- The pieces between the places of a byte. -/
def splitAt (c : Char) : Octets → List Octets
  | [] => [[]]
  | d :: rest =>
    if d = c then [] :: splitAt c rest
    else
      match splitAt c rest with
      | piece :: more => (d :: piece) :: more
      | [] => [[d]]

/-- Pieces with a string between them. -/
def joined (between : Octets) : List Octets → Octets
  | [] => []
  | [piece] => piece
  | piece :: rest => piece ++ between ++ joined between rest

/-- Whether one string comes before another, byte by byte. -/
def before : Octets → Octets → Bool
  | [], [] => false
  | [], _ :: _ => true
  | _ :: _, [] => false
  | a :: as, b :: bs => if a = b then before as bs else a.toNat < b.toNat

/-- The integer in front of a string, with the rest of the string.  Space may come
    before it; the base is read off it if `base` is 0. -/
def leadingInt? (base : Nat) (t : Octets) : Option (Int × Octets) :=
  let body := t.dropWhile isSpace
  let (negative, body) : Bool × Octets :=
    match body with
    | '-' :: rest => (true, rest)
    | '+' :: rest => (false, rest)
    | _ => (false, body)
  let isDigitOf (b : Nat) (c : Char) : Bool := digitValue c < b
  let (base, body) : Nat × Octets :=
    match body with
    | '0' :: x :: d :: rest =>
      if (base = 0 || base = 16) && (x = 'x' || x = 'X') && isDigitOf 16 d then (16, d :: rest)
      else if base = 0 && (x = 'b' || x = 'B') && isDigitOf 2 d then (2, d :: rest)
      else (if base = 0 then 8 else base, body)
    | '0' :: _ => (if base = 0 then 8 else base, body)
    | _ => (if base = 0 then 10 else base, body)
  let digits := body.takeWhile (isDigitOf base)
  if digits.isEmpty then none
  else
    let n := ofDigitsIn base digits
    some (if negative then -(n : Int) else n, body.drop digits.length)

/-- The number that a string writes, which is no more than a word of 31 bits holds.
    Space may stand around it. -/
def number? (t : Octets) : Option Nat :=
  match leadingInt? 10 t with
  | some (n, rest) =>
    if rest.all isSpace && 0 ≤ n && n < 2147483648 then some n.toNat else none
  | none => none

end Octets

end FlowLens
