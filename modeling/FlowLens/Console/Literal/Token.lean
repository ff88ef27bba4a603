/-
  Tokens of the values in tags: words, numbers, quoted texts and signs, each
  with the number of brackets that are open after it.

  Some faults of a text are found while it is cut into tokens, and they win over
  any fault of the grammar (`tokens` fails).  Others, an open bracket at the end
  or a backslash that continues nothing, show only if the grammar asks for a
  token there (`Tokens.ending`).
-/
import FlowLens.Text.Printable
import FlowLens.Text.Word
import FlowLens.Number.Digits

namespace FlowLens

namespace Literal

/-! ## Tokens -/

/-- What a quoted text stands for. -/
inductive QuotedKind where
  /-- A text. -/
  | text
  /-- A string of octets. -/
  | octets
  /-- A text with fields that are filled in. -/
  | filled
  deriving DecidableEq, Repr

/-- The kinds of tokens. -/
inductive TokenKind where
  /-- A name or a keyword. -/
  | word (name : String)
  /-- A number, with a mark if it is imaginary. -/
  | number (isImaginary : Bool)
  /-- A quoted text, with the fault of its escapes. -/
  | quoted (kind : QuotedKind) (fault : Option String)
  /-- An operator or a piece of punctuation. -/
  | sign (name : String)
  /-- The end of a line. -/
  | newline
  /-- The end of the text. -/
  | stop
  deriving DecidableEq, Repr

/-- A token. -/
structure Token where
  /-- What it is. -/
  kind : TokenKind
  /-- The number of brackets open after it. -/
  level : Nat
  deriving DecidableEq, Repr

/-- A text cut into tokens. -/
structure Tokens where
  /-- The tokens in order. -/
  items : List Token
  /-- The fault of asking for one more. -/
  ending : String
  deriving DecidableEq, Repr

/-! ## Characters -/

/-- Whether a character is taken for part of an identifier at first: any that is
    not ASCII is. -/
def isWordChar (c : Char) : Bool :=
  c.isAlphanum || c = '_' || 0x80 ≤ c.toNat

/-- The fault of a character that has no place. -/
def strangeFault (c : Char) : String :=
  if (CodePoint.char c).isPrintable then
    "invalid character '" ++ c.toString ++ "' (U+"
      ++ ((String.ofList (hexDigits c)).toUpper) ++ ")"
  else "invalid non-printable character U+" ++ ((String.ofList (hexDigits c)).toUpper)
where
  /-- The number of a character, in four digits or more. -/
  hexDigits (c : Char) : List Char :=
    let digits := Nat.toDigits 16 c.toNat
    List.replicate (4 - digits.length) '0' ++ digits

/-- The fault of a word that is no identifier. -/
def wordFault? : List Char → Option String
  | [] => none
  | c :: rest =>
    if !(CodePoint.char c).startsIdentifier then some (strangeFault c)
    else (rest.find? fun c => !(CodePoint.char c).continuesIdentifier).map strangeFault

/-! ## Numbers -/

/-- Whether a keyword that may follow a number without a space comes next. -/
def startsKeyword (rest : List Char) : Bool :=
  (["and", "else", "for", "or", "not"].any fun word =>
    word.toList.isPrefixOf rest && !((rest.drop word.length).head?.any isWordChar))
    || ["if", "in", "is"].any fun word => word.toList.isPrefixOf rest

/-- The fault of a number of some kind that runs into what follows. -/
def runsInto? (kind : String) (rest : List Char) : Option String :=
  if startsKeyword rest then none
  else
    match rest with
    | c :: _ => if c.isAlphanum || c = '_' then some ("invalid " ++ kind ++ " literal") else none
    | [] => none

/-- What follows a number, or its fault. -/
def ended (kind : String) (rest : List Char) : Except String (List Char) :=
  match runsInto? kind rest with
  | some fault => .error fault
  | none => .ok rest

/-- What follows a run of decimal digits in which an underscore may stand
    between two. -/
def decimalTail : List Char → Except String (List Char)
  | [] => .ok []
  | '_' :: rest =>
    match rest with
    | d :: rest => if d.isDigit then decimalTail rest else .error "invalid decimal literal"
    | [] => .error "invalid decimal literal"
  | c :: rest => if c.isDigit then decimalTail rest else .ok (c :: rest)

/-- What follows the digits of a number with a given base. -/
def radixTail (kind : String) (isDigit : Char → Bool) : Bool → List Char → Except String (List Char)
  | fresh, [] => if fresh then .error ("invalid " ++ kind ++ " literal") else .ok []
  | _, '_' :: c :: rest =>
    if isDigit c then radixTail kind isDigit false rest
    else .error (misplaced c)
  | fresh, c :: rest =>
    if isDigit c then radixTail kind isDigit false rest
    else if c = '_' then .error ("invalid " ++ kind ++ " literal")
    else if fresh || (c.isDigit && kind != "hexadecimal") then .error (misplaced c)
    else ended kind (c :: rest)
where
  /-- The fault of a character in the place of a digit. -/
  misplaced (c : Char) : String :=
    if c.isDigit && kind != "hexadecimal" then
      "invalid digit '" ++ c.toString ++ ("' in " ++ kind ++ " literal")
    else "invalid " ++ kind ++ " literal"

/-- A number from its exponent or its imaginary mark on. -/
def afterFraction (rest : List Char) : Except String (Bool × List Char) := do
  let rest ← exponent rest
  match rest with
  | c :: after =>
    if c = 'j' || c = 'J' then return (true, ← ended "imaginary" after)
    else return (false, ← ended "decimal" rest)
  | [] => return (false, [])
where
  /-- What follows the exponent, if there is one. -/
  exponent : List Char → Except String (List Char)
    | c :: rest =>
      if c = 'e' || c = 'E' then
        match rest with
        | d :: after =>
          if d.isDigit then decimalTail after
          else if d = '+' || d = '-' then
            match after with
            | f :: after =>
              if f.isDigit then decimalTail after else .error "invalid decimal literal"
            | [] => .error "invalid decimal literal"
          else .ok (c :: rest)
        | [] => .ok (c :: rest)
      else .ok (c :: rest)
    | [] => .ok []

/-- A number from its point on. -/
def afterDigits (rest : List Char) : Except String (Bool × List Char) :=
  match rest with
  | '.' :: d :: after => do
    if d.isDigit then afterFraction (← decimalTail after) else afterFraction (d :: after)
  | '.' :: after => afterFraction after
  | _ => afterFraction rest

/-- What follows the zeros at the start of a number. -/
def zeros : List Char → Except String (List Char)
  | '0' :: rest => zeros rest
  | '_' :: '0' :: rest => zeros rest
  | '_' :: d :: rest => if d.isDigit then .ok (d :: rest) else .error "invalid decimal literal"
  | ['_'] => .error "invalid decimal literal"
  | rest => .ok rest

/-- The fault of a number that starts with zeros. -/
def leadingZeros : String :=
  "leading zeros in decimal integer literals are not permitted; use an 0o prefix for octal integers"

/-- A number that starts with a zero, after it. -/
def afterZero (rest : List Char) : Except String (Bool × List Char) :=
  match rest with
  | c :: digits =>
    if c = 'x' || c = 'X' then
      (radixTail "hexadecimal" (fun c => ((CodePoint.char c).hexDigit?).isSome) true digits).map
        (false, ·)
    else if c = 'o' || c = 'O' then
      (radixTail "octal" (fun c => '0' ≤ c && c ≤ '7') true digits).map (false, ·)
    else if c = 'b' || c = 'B' then
      (radixTail "binary" (fun c => c = '0' || c = '1') true digits).map (false, ·)
    else do
      let rest ← zeros rest
      match rest with
      | d :: after =>
        if d.isDigit then
          let rest ← decimalTail after
          match rest with
          | c :: _ =>
            if c = '.' || c = 'e' || c = 'E' || c = 'j' || c = 'J' then afterDigits rest
            else .error leadingZeros
          | [] => .error leadingZeros
        else afterDigits rest
      | [] => .ok (false, [])
  | [] => .ok (false, [])

/-- A number that starts with a digit or with a point before one. -/
def number (c : Char) (rest : List Char) : Except String (Bool × List Char) := do
  if c = '0' then afterZero rest
  else if c = '.' then afterDigits (c :: rest)
  else afterDigits (← decimalTail rest)

/-! ## Quoted texts -/

/-- How many hexadecimal digits a text starts with, up to a limit. -/
def hexCount (limit : Nat) (t : List Char) : Nat :=
  ((t.take limit).takeWhile fun c => ((CodePoint.char c).hexDigit?).isSome).length

/-- The fault of an escape in a text that starts at `start` and ends before
    `stop`. -/
def escapeFault (start stop : Nat) (reason : String) : String :=
  "(unicode error) 'unicodeescape' codec can't decode bytes in position "
    ++ toString start ++ "-" ++ toString (stop - 1) ++ ": " ++ reason

/-- The fault of the escapes of a text.  A character that is not ASCII counts as
    the ten characters of its escape. -/
def textFault? : Nat → Nat → List Char → Option String
  | fuel + 1, pos, '\\' :: c :: rest =>
    if c = 'x' || c = 'u' || c = 'U' then
      let size := if c = 'x' then 2 else if c = 'u' then 4 else 8
      let found := hexCount size rest
      if found < size then
        some (escapeFault pos (pos + 2 + found)
          ("truncated \\" ++ c.toString ++ (String.ofList (List.replicate size 'X')) ++ " escape"))
      else if (rest.take size).foldl (fun n c => n * 16 + ((CodePoint.char c).hexDigit?).getD 0) 0
          > 0x10FFFF then
        some (escapeFault pos (pos + 10) "illegal Unicode character")
      else textFault? fuel (pos + 2 + size) (rest.drop size)
    else if c = 'N' then
      match rest with
      | '\x7b' :: name =>
        let length := (name.takeWhile (· ≠ '\x7d')).length
        if length = name.length then
          some (escapeFault pos (pos + 3 + length) "malformed \\N character escape")
        else if length = 0 then
          some (escapeFault pos (pos + 3) "malformed \\N character escape")
        else textFault? fuel (pos + 4 + length) (name.drop (length + 1))
      | _ => some (escapeFault pos (pos + 2) "malformed \\N character escape")
    else if c.toNat < 0x80 then textFault? fuel (pos + 2) rest
    else textFault? fuel (pos + 16) rest
  | fuel + 1, pos, c :: rest => textFault? fuel (pos + if c.toNat < 0x80 then 1 else 10) rest
  | _, _, _ => none

/-- The fault of the escapes of a string of octets. -/
def octetsFault? : Nat → Nat → List Char → Option String
  | fuel + 1, pos, '\\' :: 'x' :: rest =>
    if hexCount 2 rest < 2 then
      some ("(value error) invalid \\x escape at position " ++ (toString pos))
    else octetsFault? fuel (pos + 4) (rest.drop 2)
  | fuel + 1, pos, '\\' :: _ :: rest => octetsFault? fuel (pos + 2) rest
  | fuel + 1, pos, _ :: rest => octetsFault? fuel (pos + 1) rest
  | _, _, _ => none

/-- The fault of the fields of a text, as far as their brackets go. -/
def fieldFault? : List Char → Option String
  | [] => none
  | '\x7b' :: '\x7b' :: rest | '\x7d' :: '\x7d' :: rest => fieldFault? rest
  | '\x7d' :: _ => some "f-string: single '\x7d' is not allowed"
  | '\x7b' :: rest =>
    if !rest.contains '\x7d' then some "f-string: expecting '\x7d'"
    else if (rest.takeWhile (· ≠ '\x7d')).all (· = ' ') then
      some "f-string: empty expression not allowed"
    else none
  | _ :: rest => fieldFault? rest

/-- The token of a quoted text with the given mark before the quotes. -/
def quotedToken (mark : String) (body : List Char) : TokenKind :=
  let isRaw := mark.contains 'r'
  if mark.contains 'b' then
    if body.any fun c => 0x80 ≤ c.toNat then
      .quoted .octets (some "bytes can only contain ASCII literal characters")
    else .quoted .octets (if isRaw then none else octetsFault? body.length 0 body)
  else if mark.contains 'f' then .quoted .filled (fieldFault? body)
  else .quoted .text (if isRaw then none else textFault? body.length 0 body)

/-- The body of a text in single quotes of either shape, and what follows. -/
def shortBody (quote : Char) : List Char → Option (List Char × List Char)
  | [] => none
  | '\n' :: _ => none
  | '\\' :: c :: rest => (shortBody quote rest).map fun (b, r) => ('\\' :: c :: b, r)
  | c :: rest =>
    if c = quote then some ([], rest) else (shortBody quote rest).map fun (b, r) => (c :: b, r)

/-- The body of a text in tripled quotes, and what follows. -/
def longBody (quote : Char) : List Char → Option (List Char × List Char)
  | [] => none
  | '\\' :: c :: rest => (longBody quote rest).map fun (b, r) => ('\\' :: c :: b, r)
  | c :: rest =>
    if c = quote && [quote, quote].isPrefixOf rest then some ([], rest.drop 2)
    else (longBody quote rest).map fun (b, r) => (c :: b, r)

/-! ## Signs -/

/-- The signs of more than one character, longer ones first. -/
def longSigns : List String :=
  ["**=", "//=", ">>=", "<<=", "...", "!=", "**", "//", "<<", ">>", "<=", ">=", "==", "->", "+=",
    "-=", "*=", "/=", "%=", "&=", "|=", "^=", "@=", ":=", "<>"]

/-- The sign at the start of a text. -/
def signAt (t : List Char) : String :=
  match longSigns.find? fun sign => sign.toList.isPrefixOf t with
  | some sign => sign
  | none => String.ofList (t.take 1)

/-! ## Cutting -/

/-- A bracket that is open. -/
structure OpenBracket where
  /-- Which. -/
  sign : Char
  /-- The line of it. -/
  line : Nat
  deriving DecidableEq, Repr

/-- The bracket that closes another. -/
def closing (sign : Char) : Char :=
  if sign = '(' then ')' else if sign = '[' then ']' else '\x7d'

/-- The fault of a closing bracket, if it closes nothing or the wrong one. -/
def closingFault? (c : Char) (line : Nat) : List OpenBracket → Option String
  | [] => some ("unmatched '" ++ c.toString ++ "'")
  | b :: _ =>
    if closing b.sign = c then none
    else
      some ("closing parenthesis '" ++ c.toString
        ++ "' does not match opening parenthesis '" ++ b.sign.toString ++ "'"
        ++ (if b.line = line then "" else (" on line " ++ toString b.line)))

/-- The fault of asking for a token after the last. -/
def endingOf : List OpenBracket → String
  | [] => "unexpected EOF while parsing"
  | b :: _ => "'" ++ b.sign.toString ++ "' was never closed"

/-- How many brackets may be open at once. -/
def bracketLimit : Nat := 200

/-- The marks that may stand before quotes. -/
def quoteMarks : List String :=
  ["", "b", "u", "r", "f", "br", "rb", "fr", "rf"]

/-- Cuts a text into tokens, given the brackets that are open, the line, and
    whether the line has tokens already. -/
def cut : Nat → List OpenBracket → Nat → Bool → List Char → Except String Tokens
  | 0, brackets, _, _, _ => .ok ⟨[], endingOf brackets⟩
  | _ + 1, [], _, hasTokens, [] =>
    .ok ⟨(if hasTokens then [⟨.newline, 0⟩] else []) ++ [⟨.stop, 0⟩], endingOf []⟩
  | _ + 1, brackets, _, _, [] => .ok ⟨[], endingOf brackets⟩
  | fuel + 1, brackets, line, hasTokens, c :: rest =>
    let emit (kind : TokenKind) (rest : List Char) : Except String Tokens :=
      (cut fuel brackets line true rest).map fun ts =>
        { ts with items := ⟨kind, brackets.length⟩ :: ts.items }
    if c = ' ' || c = '\t' || c = '\x0c' then cut fuel brackets line hasTokens rest
    else if c = '\n' then
      if hasTokens && brackets.isEmpty then
        (cut fuel brackets (line + 1) false rest).map fun ts =>
          { ts with items := ⟨.newline, 0⟩ :: ts.items }
      else cut fuel brackets (line + 1) hasTokens rest
    else if c = '#' then cut fuel brackets line hasTokens (rest.dropWhile (· ≠ '\n'))
    else if c = '\\' then
      match rest with
      | '\n' :: rest => cut fuel brackets (line + 1) hasTokens rest
      | _ => .ok ⟨[], "unexpected character after line continuation character"⟩
    else if c.isDigit || (c = '.' && (rest.head?.map Char.isDigit).getD false) then do
      let (isImaginary, rest) ← number c rest
      emit (.number isImaginary) rest
    else
      let word := (c :: rest).takeWhile isWordChar
      let after := rest.drop (word.length - 1)
      let mark := (String.ofList word).toLower
      let quote := if word.isEmpty then c else after.headD ' '
      if (quote = '\'' || quote = '"') && quoteMarks.contains mark then
        let inside := if word.isEmpty then rest else after.drop 1
        if [quote, quote].isPrefixOf inside then
          match longBody quote (inside.drop 2) with
          | some (body, rest) =>
            (cut fuel brackets (line + body.count '\n') true rest).map fun ts =>
              { ts with items := ⟨quotedToken mark body, brackets.length⟩ :: ts.items }
          | none =>
            .error ("unterminated triple-quoted string literal (detected at line "
              ++ (toString (line + inside.count '\n')) ++ ")")
        else
          match shortBody quote inside with
          | some (body, rest) => emit (quotedToken mark body) rest
          | none =>
            .error ("unterminated string literal (detected at line "
              ++ (toString line) ++ ")")
      else if !word.isEmpty then
        match wordFault? word with
        | some fault => .error fault
        | none => emit (.word (String.ofList word)) after
      else if c = '(' || c = '[' || c = '\x7b' then
        if brackets.length ≥ bracketLimit then .error "too many nested parentheses"
        else
          (cut fuel (⟨c, line⟩ :: brackets) line true rest).map fun ts =>
            { ts with items := ⟨.sign (String.ofList [c]), brackets.length + 1⟩ :: ts.items }
      else if c = ')' || c = ']' || c = '\x7d' then
        match closingFault? c line brackets with
        | some fault => .error fault
        | none =>
          (cut fuel (brackets.drop 1) line true rest).map fun ts =>
            { ts with items := ⟨.sign (String.ofList [c]), brackets.length - 1⟩ :: ts.items }
      else if !(CodePoint.char c).isPrintable then .error (strangeFault c)
      else
        let sign := signAt (c :: rest)
        emit (.sign sign) (rest.drop (sign.length - 1))

/-- The tokens of a text. -/
def tokens (t : List Char) : Except String Tokens :=
  cut (t.length + 1) [] 1 false t

end Literal

end FlowLens
