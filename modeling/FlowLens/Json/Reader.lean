/-
  Reading a JSON text.  The reader takes what it can from the front of the text
  and hands on the rest; what it refuses is a `Fault`, one per rule of the
  grammar, and an integer of too many digits is refused apart from those.

  * `readUnit` reads one code point of a string, escapes included;
  * `readNumber?` reads the longest number at the front;
  * `readValue` reads a value, and `read` a whole text.
-/
import FlowLens.Document.Value

namespace FlowLens

namespace Json

/-- A rule of the grammar that a text breaks. -/
inductive Fault where
  /-- No value where one must start. -/
  | valueExpected
  /-- Something after the value. -/
  | extraData
  /-- No string where a member's name must start. -/
  | nameExpected
  /-- No colon after a member's name. -/
  | colonExpected
  /-- Neither a comma nor the closing bracket after an item or member. -/
  | commaExpected
  /-- A string without its closing quote. -/
  | unterminated
  /-- A control character in a string. -/
  | controlCharacter
  /-- A backslash before a character that it does not escape. -/
  | badEscape
  /-- An escaped number that is not four hexadecimal digits. -/
  | badNumberedEscape
  /-- A byte order mark in front of the text. -/
  | byteOrderMark
  deriving DecidableEq, Repr

/-- The wording of a fault. -/
def Fault.message : Fault → Text
  | valueExpected => "Expecting value"
  | extraData => "Extra data"
  | nameExpected => "Expecting property name enclosed in double quotes"
  | colonExpected => "Expecting ':' delimiter"
  | commaExpected => "Expecting ',' delimiter"
  | unterminated => "Unterminated string starting at"
  | controlCharacter => "Invalid control character at"
  | badEscape => "Invalid \\escape"
  | badNumberedEscape => "Invalid \\uXXXX escape"
  | byteOrderMark => "Unexpected UTF-8 BOM (decode using utf-8-sig)"

/-- Why a text was not read. -/
inductive ReadError where
  /-- The text breaks a rule. -/
  | malformed (fault : Fault)
  /-- The text holds an integer of too many digits. -/
  | tooLong (cause : TooManyDigits)
  deriving DecidableEq, Repr

/-- Whether a code point may stand between the parts of a text. -/
def isGap (c : CodePoint) : Bool :=
  c = .char ' ' || c = .char '\t' || c = .char '\n' || c = .char '\r'

/-- The text without blanks in front. -/
def skipGap (t : Text) : Text :=
  t.dropWhile isGap

/-! ## Strings -/

/-- What the front of a string's text holds. -/
inductive Scanned where
  /-- The closing quote. -/
  | close (rest : Text)
  /-- One code point. -/
  | unit (c : CodePoint) (rest : Text)
  deriving Repr

/-- The number that four hexadecimal digits write. -/
def quad? (a b c d : CodePoint) : Option Nat := do
  let a ← a.hexDigit?
  let b ← b.hexDigit?
  let c ← c.hexDigit?
  let d ← d.hexDigit?
  return ofDigits 16 [a, b, c, d]

/-- Four hexadecimal digits at the front; something must follow them. -/
def takeQuad? : Text → Option (Nat × Text)
  | a :: b :: c :: d :: e :: rest => (quad? a b c d).map (·, e :: rest)
  | _ => none

/-- The code point of a surrogate pair. -/
def joinPair (high low : Nat) : CodePoint :=
  (CodePoint.ofNat? (0x10000 + (high - 0xD800) * 0x400 + (low - 0xDC00))).getD (.char ' ')

/-- The code point of an escaped number `n` before `rest`: together with a
    second one if the two are a pair. -/
def numberedUnit (n : Nat) (rest : Text) : Except Fault Scanned :=
  let alone := Scanned.unit ((CodePoint.ofNat? n).getD (.char ' ')) rest
  if 0xD800 ≤ n ∧ n ≤ 0xDBFF then
    match rest with
    | .char '\\' :: .char 'u' :: more =>
      if more.length ≤ 4 then .ok alone
      else
        match takeQuad? more with
        | none => .error .badNumberedEscape
        | some (m, rest') =>
          if 0xDC00 ≤ m ∧ m ≤ 0xDFFF then .ok (.unit (joinPair n m) rest') else .ok alone
    | _ => .ok alone
  else .ok alone

/-- The code point that a backslash and a letter write. -/
def plainEscape? : CodePoint → Option Char
  | .char '"' => some '"'
  | .char '\\' => some '\\'
  | .char '/' => some '/'
  | .char 'b' => some '\x08'
  | .char 'f' => some '\x0c'
  | .char 'n' => some '\n'
  | .char 'r' => some '\r'
  | .char 't' => some '\t'
  | _ => none

/-- One code point of a string, or its closing quote. -/
def readUnit : Text → Except Fault Scanned
  | [] => .error .unterminated
  | .char '"' :: rest => .ok (.close rest)
  | .char '\\' :: [] => .error .unterminated
  | .char '\\' :: .char 'u' :: rest =>
    match takeQuad? rest with
    | none => .error .badNumberedEscape
    | some (n, rest') => numberedUnit n rest'
  | .char '\\' :: c :: rest =>
    match plainEscape? c with
    | none => .error .badEscape
    | some d => .ok (.unit (.char d) rest)
  | c :: rest => if c.val < 0x20 then .error .controlCharacter else .ok (.unit c rest)

/-- The rest of a string after its opening quote. -/
def readString : Nat → Text → Except Fault (Text × Text)
  | 0, _ => .error .unterminated
  | fuel + 1, t =>
    match readUnit t with
    | .error fault => .error fault
    | .ok (.close rest) => .ok ([], rest)
    | .ok (.unit c rest) => (readString fuel rest).map fun (s, r) => (c :: s, r)

/-! ## Numbers -/

/-- The digits at the front, and the rest. -/
def takeDigits (t : Text) : Text × Text :=
  t.span CodePoint.isAsciiDigit

/-- The integer part at the front: a zero, or digits that do not start with
    one. -/
def takeWhole? : Text → Option (Text × Text)
  | .char '0' :: rest => some ([.char '0'], rest)
  | t =>
    match takeDigits t with
    | ([], _) => none
    | (digits, rest) => some (digits, rest)

/-- A fraction at the front, if there is one. -/
def takeFraction? : Text → Option (Text × Text)
  | .char '.' :: rest =>
    match takeDigits rest with
    | ([], _) => none
    | (digits, rest') => some (digits, rest')
  | _ => none

/-- An exponent at the front, if there is one. -/
def takeExponent? : Text → Option (Int × Text)
  | .char c :: rest =>
    if c = 'e' ∨ c = 'E' then
      let (negative, rest') := takeSign rest
      match takeDigits rest' with
      | ([], _) => none
      | (digits, rest'') =>
        some (signed negative (asciiNat digits), rest'')
    else none
  | _ => none

/-- The integer of a sign and digits. -/
def wholeNumber (negative : Bool) (digits : Text) : Except ReadError Value :=
  if digits.length ≤ digitLimit then .ok (.int (signed negative (asciiNat digits)))
  else .error (.tooLong (.reading digits.length))

/-- The number at the front without its sign: a double if it has a fraction or
    an exponent. -/
def readMagnitude? (negative : Bool) (t : Text) : Option (Except ReadError (Value × Text)) :=
  (takeWhole? t).map fun (digits, rest) =>
    match takeFraction? rest with
    | some (places, rest') =>
      let (exponent, rest'') := (takeExponent? rest').getD (0, rest')
      let x := Double.ofDecimal negative (asciiNat (digits ++ places)) (exponent - places.length)
      .ok (.float x, rest'')
    | none =>
      match takeExponent? rest with
      | some (exponent, rest') =>
        .ok (.float (.ofDecimal negative (asciiNat digits) exponent), rest')
      | none => (wholeNumber negative digits).map (·, rest)

/-- The number at the front. -/
def readNumber? : Text → Option (Except ReadError (Value × Text))
  | .char '-' :: rest => readMagnitude? true rest
  | t => readMagnitude? false t

/-! ## Values -/

/-- The words that stand for values. -/
def words : List (Text × Value) := [
  ("null", .null), ("true", .bool true), ("false", .bool false), ("NaN", .float .nan),
  ("Infinity", .float (.infinite false)), ("-Infinity", .float (.infinite true))]

/-- A word at the front. -/
def readWord? (t : Text) : Option (Value × Text) :=
  (words.find? fun w => w.1.isPrefixOf t).map fun w => (w.2, t.drop w.1.length)

/-- A value that is no list, object or string. -/
def readAtom (t : Text) : Except ReadError (Value × Text) :=
  match readWord? t with
  | some r => .ok r
  | none =>
    match readNumber? t with
    | some r => r
    | none => .error (.malformed .valueExpected)

/-- A member's name after its opening quote, and the text after the colon. -/
def readName (t : Text) : Except ReadError (Text × Text) :=
  match readString (t.length + 1) t with
  | .error fault => .error (.malformed fault)
  | .ok (name, rest) =>
    match skipGap rest with
    | .char ':' :: rest' => .ok (name, skipGap rest')
    | _ => .error (.malformed .colonExpected)

mutual

/-- A value at the front.  The first argument bounds the depth of the reading;
    the length of the text is enough. -/
def readValue : Nat → Text → Except ReadError (Value × Text)
  | 0, _ => .error (.malformed .valueExpected)
  | fuel + 1, t =>
    match t with
    | .char '"' :: rest =>
      match readString (rest.length + 1) rest with
      | .error fault => .error (.malformed fault)
      | .ok (s, rest') => .ok (.str s, rest')
    | .char '[' :: rest =>
      match skipGap rest with
      | .char ']' :: rest' => .ok (.arr [], rest')
      | rest' => (readItems fuel rest').map fun (items, r) => (.arr items, r)
    | .char '\x7b' :: rest =>
      match skipGap rest with
      | .char '\x7d' :: rest' => .ok (.obj [], rest')
      | .char '"' :: rest' =>
        (readMembers fuel rest').map fun (pairs, r) => (.obj (Members.ofPairs pairs), r)
      | _ => .error (.malformed .nameExpected)
    | t => readAtom t

/-- The items of a list up to its closing bracket. -/
def readItems : Nat → Text → Except ReadError (List Value × Text)
  | 0, _ => .error (.malformed .valueExpected)
  | fuel + 1, t => do
    let (v, rest) ← readValue fuel t
    match skipGap rest with
    | .char ']' :: rest' => .ok ([v], rest')
    | .char ',' :: rest' =>
      (readItems fuel (skipGap rest')).map fun (items, r) => (v :: items, r)
    | _ => .error (.malformed .commaExpected)

/-- The members of an object from behind the first name's opening quote up to
    the closing bracket. -/
def readMembers : Nat → Text → Except ReadError (List (Text × Value) × Text)
  | 0, _ => .error (.malformed .valueExpected)
  | fuel + 1, t => do
    let (name, rest) ← readName t
    let (v, rest) ← readValue fuel rest
    match skipGap rest with
    | .char '\x7d' :: rest' => .ok ([(name, v)], rest')
    | .char ',' :: rest' =>
      match skipGap rest' with
      | .char '"' :: rest'' =>
        (readMembers fuel rest'').map fun (pairs, r) => ((name, v) :: pairs, r)
      | _ => .error (.malformed .nameExpected)
    | _ => .error (.malformed .commaExpected)

end

/-- The value of a whole text. -/
def read (t : Text) : Except ReadError Value :=
  if t.head? = some (.char '\ufeff') then .error (.malformed .byteOrderMark)
  else do
    let (v, rest) ← readValue (t.length + 1) (skipGap t)
    if (skipGap rest).isEmpty then .ok v else .error (.malformed .extraData)

end Json

end FlowLens
