/-
  Checks of single values.  Numbers, truth values and text may be written in
  more than one way: a number as text, a truth value as a number or a word.

  * `checkInt`, `checkText`, `checkBool`, `checkDouble` and `checkPath`;
  * `readInt?` and `readDouble?`, the numbers that a text may write.
-/
import FlowLens.Schema.Checked
import FlowLens.Text.Blank
import FlowLens.Path.Basic

namespace FlowLens

/-! ## Integers in text -/

/-- Why a text is not read as an integer. -/
inductive IntFault where
  /-- It writes none. -/
  | form
  /-- It has too many digits. -/
  | size
  deriving DecidableEq, Repr

/-- The integer that a text writes plainly: a minus perhaps, and digits without
    a zero in front.  Too many digits in a row are told apart, whatever follows
    them. -/
def readPlainInt? (t : Text) : Except IntFault Int :=
  let (negative, rest) :=
    match t with
    | .char '-' :: rest => (true, rest)
    | _ => (false, t)
  if rest = "0" then .ok 0
  else if rest.head? = some (.char '0') then .error .form
  else
    match rest.span CodePoint.isAsciiDigit with
    | ([], _) => .error .form
    | (digits, rest) =>
      if digits.length > digitLimit then .error .size
      else if !rest.isEmpty then .error .form
      else .ok (signed negative (asciiNat digits))

/-- The text behind the zeros in front, among which underscores may stand at
    will.  A zero is kept where no other digit follows; a minus may follow. -/
def dropLeadingZeros? : Text → Option Text
  | [] => none
  | c :: rest =>
    if c = .char '0' then go c rest
    else if c = .char '-' ∨ c.isAsciiDigit then some (c :: rest)
    else none
where
  /-- What is left behind the code point `last`, a zero or an underscore. -/
  go (last : CodePoint) : Text → Option Text
    | [] => some [last]
    | c :: rest =>
      if c = .char '0' ∨ c = .char '_' then go c rest
      else if c = .char '.' then some (last :: c :: rest)
      else if c = .char '-' ∨ c.isAsciiDigit then some (c :: rest)
      else none

/-- The text without a point and one or more zeros behind it at the end. -/
def dropZeroFraction (t : Text) : Text :=
  match t.span (· ≠ .char '.') with
  | (whole, _ :: fraction) => if !fraction.isEmpty && fraction.all (· = .char '0') then whole else t
  | _ => t

/-- Whether underscores stand neither at an end of the text nor side by side. -/
def wellGrouped (t : Text) : Bool :=
  t.head? ≠ some (.char '_') && t.getLast? ≠ some (.char '_') && !Text.has "__" t

/-- The text without underscores, unless they stand at an end or side by side. -/
def dropUnderscores? (t : Text) : Option Text :=
  if wellGrouped t then some (t.filter (· ≠ .char '_')) else none

/-- A text that writes an integer freely, written plainly: without white space
    around it, a plus, zeros in front, a fraction of zeros and underscores. -/
def plainly? (t : Text) : Option Text := do
  let t := t.trimBy CodePoint.isSpace
  match t with
  | .char '+' :: .char '-' :: _ => none
  | .char '+' :: rest => dropUnderscores? (dropZeroFraction (← dropLeadingZeros? rest))
  | .char '-' :: rest =>
    let rest ← dropUnderscores? (dropZeroFraction (← dropLeadingZeros? rest))
    return .char '-' :: rest
  | _ => dropUnderscores? (dropZeroFraction (← dropLeadingZeros? t))

/-- The integer that a text writes, plainly or else freely.  Only a text that
    starts plainly has too many digits; any other one then writes no integer. -/
def readInt? (t : Text) : Except IntFault Int :=
  match readPlainInt? t with
  | .ok n => .ok n
  | .error .size => .error .size
  | .error .form =>
    match (plainly? t).map readPlainInt? with
    | some (.ok n) => .ok n
    | _ => .error .form

/-! ## Doubles in text -/

/-- The words for doubles that are no numbers, in lower case. -/
def doubleWord? (negative : Bool) (word : Text) : Option Double :=
  if word = "inf" ∨ word = "infinity" then some (.infinite negative)
  else if word = "nan" then some .nan
  else none

/-- A letter from A to Z in lower case. -/
def asciiLower : CodePoint → CodePoint
  | .char c => .char c.toLower
  | c => c

/-- An exponent, or nothing. -/
def readExponent? : Text → Option Int
  | [] => some 0
  | c :: rest =>
    if c = .char 'e' ∨ c = .char 'E' then
      let (negative, digits) := takeSign rest
      if !digits.isEmpty && digits.all CodePoint.isAsciiDigit then
        some (signed negative (asciiNat digits))
      else none
    else none

/-- A decimal number without sign or underscores: digits, a point with digits on
    at least one side, an exponent. -/
def readMagnitude? (negative : Bool) (t : Text) : Option Double :=
  let (whole, rest) := t.span CodePoint.isAsciiDigit
  let (places, rest) :=
    match rest with
    | .char '.' :: rest => rest.span CodePoint.isAsciiDigit
    | rest => ([], rest)
  if whole.isEmpty && places.isEmpty then none
  else
    (readExponent? rest).map fun exponent =>
      Double.ofDecimal negative (asciiNat (whole ++ places)) (exponent - places.length)

/-- A double without underscores. -/
def readPlainDouble? (t : Text) : Option Double :=
  let (negative, rest) := takeSign t
  (doubleWord? negative (rest.map asciiLower)).or (readMagnitude? negative rest)

/-- The double that a text writes: with white space around it, or else with
    single underscores at any place within. -/
def readDouble? (t : Text) : Option Double :=
  (readPlainDouble? (t.trimBy CodePoint.isSpace)).or ((dropUnderscores? t).bind readPlainDouble?)

/-! ## Checks -/

/-- Reads a text that has no lone surrogate. -/
def checkChars {α : Type} (read : Text → Checked α) (t : Text) : Checked α :=
  if t.chars?.isSome then read t else .fail .stringUnicode

/-- An integer: itself, a truth value as 0 or 1, a whole double of less than 64
    bits, or a text that writes one. -/
def checkInt : Value → Checked Int
  | .int n => .good n
  | .bool b => .good (if b then 1 else 0)
  | .float x =>
    if x.isFinite then
      match x.whole? with
      | none => .fail .intFromFloat
      | some n =>
        if -(twoTo 63 : Int) < n ∧ n < (twoTo 63 : Int) then .good n else .fail .intParsingSize
    else .fail .finiteNumber
  | .str t =>
    checkChars (fun t =>
      match readInt? t with
      | .ok n => .good n
      | .error .form => .fail .intParsing
      | .error .size => .fail .intParsingSize) t
  | _ => .fail .intType

/-- A text. -/
def checkText : Value → Checked Text
  | .str t => .good t
  | _ => .fail .stringType

/-- The words for truth values. -/
def boolWord? (t : Text) : Option Bool :=
  if ["0", "off", "f", "false", "n", "no"].any (fun w => Text.ofString w = t) then some false
  else if ["1", "on", "t", "true", "y", "yes"].any (fun w => Text.ofString w = t) then some true
  else none

/-- The truth value that an integer stands for. -/
def boolOfInt (n : Int) : Checked Bool :=
  if n = 0 then .good false
  else if n = 1 then .good true
  else if -(twoTo 63 : Int) ≤ n ∧ n < (twoTo 63 : Int) then .fail .boolParsing
  else .fail .boolType

/-- A truth value: itself, 0 or 1, or a word for one in letters of either case. -/
def checkBool : Value → Checked Bool
  | .bool b => .good b
  | .int n => boolOfInt n
  | .float x =>
    match x.whole? with
    | some n => if -(twoTo 63 : Int) < n then boolOfInt n else .fail .boolType
    | none => .fail .boolType
  | .str t =>
    checkChars (fun t =>
      match boolWord? (t.map asciiLower) with
      | some b => .good b
      | none => .fail .boolParsing) t
  | _ => .fail .boolType

/-- A double: itself, an integer within reach, a truth value as 0 or 1, or a
    text that writes one. -/
def checkDouble : Value → Checked Double
  | .float x => .good x
  | .bool b => .good (.ofInt (if b then 1 else 0))
  | .int n => if (Double.ofInt n).isFinite then .good (.ofInt n) else .fail .floatType
  | .str t =>
    checkChars (fun t =>
      match readDouble? t with
      | some x => .good x
      | none => .fail .floatParsing) t
  | _ => .fail .floatType

/-- A double from `low` to `high`; the upper end is looked at first. -/
def within (low high : Int) (x : Double) : Checked Double :=
  if !x.le (.ofInt high) then .fail .lessThanEqual
  else if !(Double.ofInt low).le x then .fail .greaterThanEqual
  else .good x

/-- A double within bounds. -/
def checkDoubleWithin (low high : Int) (v : Value) : Checked Double :=
  match checkDouble v with
  | .good x => within low high x
  | .bad problems => .bad problems

/-- A path, written as text. -/
def checkPath : Value → Checked Path
  | .str t => .good (.ofText t)
  | _ => .fail .pathType

end FlowLens
