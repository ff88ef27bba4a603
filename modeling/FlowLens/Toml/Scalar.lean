/-
  The single values of a TOML text: strings of four kinds, numbers, dates and
  times.  Each reader takes its value from the front and hands on the rest.
-/
import FlowLens.Document.Value

namespace FlowLens

namespace Toml

/-- Why a text was not read. -/
inductive ReadError where
  /-- It is no TOML. -/
  | malformed
  /-- It holds an integer of too many digits. -/
  | tooLong (cause : TooManyDigits)
  deriving DecidableEq, Repr

/-- A reading that fails. -/
def refuse {α : Type} : Except ReadError α :=
  .error .malformed

/-- Whether a code point is a control character other than the tab. -/
def isIllegal (c : CodePoint) : Bool :=
  (c.val < 0x20 && c ≠ .char '\t') || c.val = 0x7F

/-- Whether a code point may not stand in a string over several lines. -/
def isIllegalInLines (c : CodePoint) : Bool :=
  isIllegal c && c ≠ .char '\n'

/-- Whether a code point is a blank within a line. -/
def isGap (c : CodePoint) : Bool :=
  c = .char ' ' || c = .char '\t'

/-- Whether a code point is a blank or ends a line. -/
def isGapOrLine (c : CodePoint) : Bool :=
  isGap c || c = .char '\n'

/-- The text without blanks in front. -/
def skipGap (t : Text) : Text :=
  t.dropWhile isGap

/-! ## Strings -/

/-- A string in apostrophes, behind the first one. -/
def readLiteral (t : Text) : Except ReadError (Text × Text) :=
  match t.span (· ≠ .char '\'') with
  | (_, []) => refuse
  | (content, _ :: rest) => if content.any isIllegal then refuse else .ok (content, rest)

/-- The number that some hexadecimal digits write. -/
def hexNumber? (digits : Text) : Option Nat :=
  (digits.mapM CodePoint.hexDigit?).map (ofDigits 16)

/-- An escaped character of `width` hexadecimal digits. -/
def readNumbered (width : Nat) (t : Text) : Except ReadError (Text × Text) :=
  if t.length < width then refuse
  else
    match (hexNumber? (t.take width)).bind CodePoint.ofNat? with
    | some (.char c) => .ok ([.char c], t.drop width)
    | _ => refuse

/-- The rest of a string behind a line end that is escaped, without the blanks
    that it starts with; only blanks may stand before that line end. -/
def skipEscapedLine (t : Text) : Except ReadError Text :=
  match skipGap t with
  | [] => .ok []
  | .char '\n' :: rest => .ok (rest.dropWhile isGapOrLine)
  | _ => refuse

/-- What stands behind a backslash in a string in quotes. -/
def readEscape (lines : Bool) : Text → Except ReadError (Text × Text)
  | .char 'b' :: rest => .ok ([.char '\x08'], rest)
  | .char 't' :: rest => .ok ([.char '\t'], rest)
  | .char 'n' :: rest => .ok ([.char '\n'], rest)
  | .char 'f' :: rest => .ok ([.char '\x0c'], rest)
  | .char 'r' :: rest => .ok ([.char '\r'], rest)
  | .char '"' :: rest => .ok ([.char '"'], rest)
  | .char '\\' :: rest => .ok ([.char '\\'], rest)
  | .char 'u' :: rest => readNumbered 4 rest
  | .char 'U' :: rest => readNumbered 8 rest
  | c :: rest =>
    if lines && isGapOrLine c then (skipEscapedLine (c :: rest)).map ([], ·) else refuse
  | [] => refuse

/-- A string in quotes, behind the first ones; over several `lines` it ends with
    three. -/
def readBasic (lines : Bool) : Nat → Text → Except ReadError (Text × Text)
  | 0, _ => refuse
  | fuel + 1, t =>
    match t with
    | [] => refuse
    | .char '"' :: rest =>
      if lines then
        match rest with
        | .char '"' :: .char '"' :: rest' => .ok ([], rest')
        | _ => (readBasic lines fuel rest).map fun (s, r) => (.char '"' :: s, r)
      else .ok ([], rest)
    | .char '\\' :: rest => do
      let (s, rest) ← readEscape lines rest
      (readBasic lines fuel rest).map fun (s', r) => (s ++ s', r)
    | c :: rest =>
      if (if lines then isIllegalInLines c else isIllegal c) then refuse
      else (readBasic lines fuel rest).map fun (s, r) => (c :: s, r)

/-- What stands before three apostrophes, and the rest. -/
def untilTriple : Text → Option (Text × Text)
  | [] => none
  | .char '\'' :: .char '\'' :: .char '\'' :: rest => some ([], rest)
  | c :: rest => (untilTriple rest).map fun (s, r) => (c :: s, r)

/-- Up to two more of the delimiter belong to the string before it. -/
def takeTrailing (delimiter : CodePoint) (s rest : Text) : Text × Text :=
  let more := (rest.take 2).takeWhile (· = delimiter)
  (s ++ more, rest.drop more.length)

/-- The text without a line end in front. -/
def skipLineEnd : Text → Text
  | .char '\n' :: rest => rest
  | t => t

/-- A string over several lines in apostrophes, behind the first three. -/
def readLiteralLines (t : Text) : Except ReadError (Text × Text) :=
  match untilTriple (skipLineEnd t) with
  | none => refuse
  | some (s, rest) =>
    if s.any isIllegalInLines then refuse else .ok (takeTrailing (.char '\'') s rest)

/-- A string over several lines in quotes, behind the first three. -/
def readBasicLines (t : Text) : Except ReadError (Text × Text) := do
  let (s, rest) ← readBasic true (t.length + 1) (skipLineEnd t)
  return takeTrailing (.char '"') s rest

/-- A string of any kind. -/
def readString? : Text → Option (Except ReadError (Text × Text))
  | .char '"' :: .char '"' :: .char '"' :: rest => some (readBasicLines rest)
  | .char '"' :: rest => some (readBasic false (rest.length + 1) rest)
  | .char '\'' :: .char '\'' :: .char '\'' :: rest => some (readLiteralLines rest)
  | .char '\'' :: rest => some (readLiteral rest)
  | _ => none

/-! ## Dates and times -/

/-- Two digits at the front, as a number within bounds. -/
def takeTwo? (low high : Nat) : Text → Option (Nat × Text)
  | a :: b :: rest => do
    let a ← a.asciiDigit?
    let b ← b.asciiDigit?
    let n := 10 * a + b
    if low ≤ n ∧ n ≤ high then some (n, rest) else none
  | _ => none

/-- A given character at the front. -/
def expect? (c : Char) : Text → Option Text
  | d :: rest => if d = .char c then some rest else none
  | [] => none

/-- A fraction of a second at the front, if there is one. -/
def skipFraction (t : Text) : Text :=
  match t with
  | .char '.' :: rest =>
    match rest.span CodePoint.isAsciiDigit with
    | ([], _) => t
    | (_, rest') => rest'
  | _ => t

/-- A time of day at the front. -/
def skipTime? (t : Text) : Option Text := do
  let (_, t) ← takeTwo? 0 23 t
  let (_, t) ← takeTwo? 0 59 (← expect? ':' t)
  let (_, t) ← takeTwo? 0 59 (← expect? ':' t)
  return skipFraction t

/-- The distance of a time zone at the front. -/
def skipZone? : Text → Option Text
  | .char c :: rest =>
    if c = 'Z' ∨ c = 'z' then some rest
    else if c = '+' ∨ c = '-' then do
      let (_, rest) ← takeTwo? 0 23 rest
      let (_, rest) ← takeTwo? 0 59 (← expect? ':' rest)
      return rest
    else none
  | _ => none

/-- What may follow a date: a time, and then a time zone. -/
def skipTimeOfDate (t : Text) : Text :=
  match t with
  | .char c :: rest =>
    if c = 'T' ∨ c = 't' ∨ c = ' ' then
      match skipTime? rest with
      | some rest' => (skipZone? rest').getD rest'
      | none => t
    else t
  | _ => t

/-- The number of days of a month. -/
def daysOfMonth (year month : Nat) : Nat :=
  if month = 2 then
    if (year % 4 = 0 ∧ year % 100 ≠ 0) ∨ year % 400 = 0 then 29 else 28
  else if month = 4 ∨ month = 6 ∨ month = 9 ∨ month = 11 then 30
  else 31

/-- A date at the front: year, month, day and the rest. -/
def takeDate? (t : Text) : Option (Nat × Nat × Nat × Text) := do
  let (century, t) ← takeTwo? 0 99 t
  let (year, t) ← takeTwo? 0 99 t
  let (month, t) ← takeTwo? 1 12 (← expect? '-' t)
  let (day, t) ← takeTwo? 1 31 (← expect? '-' t)
  return (100 * century + year, month, day, t)

/-- What stands before the rest of a text. -/
def before (t rest : Text) : Text :=
  t.take (t.length - rest.length)

/-- A date, perhaps with a time, or a time at the front. -/
def readMoment? (t : Text) : Option (Except ReadError (Value × Text)) :=
  match takeDate? t with
  | some (year, month, day, rest) =>
    if 1 ≤ year ∧ day ≤ daysOfMonth year month then
      let rest := skipTimeOfDate rest
      some (.ok (.moment (before t rest), rest))
    else some refuse
  | none => (skipTime? t).map fun rest => .ok (.moment (before t rest), rest)

/-! ## Numbers -/

/-- The digits at the front behind a first one; an underscore may stand before
    each. -/
def moreDigits (p : CodePoint → Bool) : Text → Text × Text
  | .char '_' :: c :: rest =>
    if p c then
      let (digits, r) := moreDigits p rest
      (c :: digits, r)
    else ([], .char '_' :: c :: rest)
  | c :: rest =>
    if p c then
      let (digits, r) := moreDigits p rest
      (c :: digits, r)
    else ([], c :: rest)
  | [] => ([], [])

/-- One or more digits at the front. -/
def takeDigits? (p : CodePoint → Bool) : Text → Option (Text × Text)
  | c :: rest =>
    if p c then
      let (digits, r) := moreDigits p rest
      some (c :: digits, r)
    else none
  | [] => none

/-- Whether a code point is a digit of a base. -/
def isDigitOf (base : Nat) (c : CodePoint) : Bool :=
  c.hexDigit?.any (· < base)

/-- The base that a letter behind a zero names. -/
def baseOf? : CodePoint → Option Nat
  | .char 'x' => some 16
  | .char 'o' => some 8
  | .char 'b' => some 2
  | _ => none

/-- An integer of another base at the front. -/
def readBased? : Text → Option (Value × Text)
  | .char '0' :: c :: rest => do
    let base ← baseOf? c
    let (digits, rest) ← takeDigits? (isDigitOf base) rest
    return (.int (ofDigits base (digits.map fun d => d.hexDigit?.getD 0)), rest)
  | _ => none

/-- The integer part of a number at the front: a zero, or digits that start with
    none. -/
def takeWhole? : Text → Option (Text × Text)
  | .char '0' :: rest => some ([.char '0'], rest)
  | t => takeDigits? CodePoint.isAsciiDigit t

/-- A fraction at the front, if there is one. -/
def takeFraction? : Text → Option (Text × Text)
  | .char '.' :: rest => takeDigits? CodePoint.isAsciiDigit rest
  | _ => none

/-- An exponent at the front, if there is one. -/
def takeExponent? : Text → Option (Int × Text)
  | .char c :: rest =>
    if c = 'e' ∨ c = 'E' then do
      let (negative, rest) := takeSign rest
      let (digits, rest) ← takeDigits? CodePoint.isAsciiDigit rest
      return (signed negative (asciiNat digits), rest)
    else none
  | _ => none

/-- A decimal number at the front: a double if it has a fraction or an
    exponent. -/
def readDecimal? (t : Text) : Option (Except ReadError (Value × Text)) := do
  let (negative, t) := takeSign t
  let (digits, t) ← takeWhole? t
  let fraction := takeFraction? t
  let (places, t) := fraction.getD ([], t)
  let exponent := takeExponent? t
  let (power, t) := exponent.getD (0, t)
  if fraction.isSome || exponent.isSome then
    let number := asciiNat (digits ++ places)
    some (.ok (.float (.ofDecimal negative number (power - places.length)), t))
  else if digits.length ≤ digitLimit then some (.ok (.int (signed negative (asciiNat digits)), t))
  else some (.error (.tooLong (.reading digits.length)))

/-- The words for doubles that are no numbers. -/
def readDoubleWord? (t : Text) : Option (Value × Text) :=
  let (negative, rest) := takeSign t
  if ("inf" : Text).isPrefixOf rest then some (.float (.infinite negative), rest.drop 3)
  else if ("nan" : Text).isPrefixOf rest then some (.float .nan, rest.drop 3)
  else none

/-- A value that is no string, list or table. -/
def readAtom (t : Text) : Except ReadError (Value × Text) :=
  if ("true" : Text).isPrefixOf t then .ok (.bool true, t.drop 4)
  else if ("false" : Text).isPrefixOf t then .ok (.bool false, t.drop 5)
  else
    match readMoment? t with
    | some r => r
    | none =>
      match readBased? t with
      | some r => .ok r
      | none =>
        match readDecimal? t with
        | some r => r
        | none =>
          match readDoubleWord? t with
          | some r => .ok r
          | none => refuse

end Toml

end FlowLens
