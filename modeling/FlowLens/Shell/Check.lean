/-
  Conditions on strings, numbers and files, as words write them.

  * `checkWords` says whether a condition holds.
-/
import FlowLens.Shell.Arithmetic

namespace FlowLens

namespace Shell

/-- What a word is in a condition. -/
inductive Role where
  /-- The end of the words. -/
  | finish
  /-- An operand. -/
  | operand
  /-- An operator in front of its operand. -/
  | unary
  /-- An operator between two operands. -/
  | binary
  | negation
  | conjunction
  | disjunction
  | openParen
  | closeParen
  deriving DecidableEq, Repr

/-- The operators in front of an operand. -/
def unaryOperators : List Octets :=
  ["-r", "-w", "-x", "-e", "-f", "-d", "-c", "-b", "-p", "-u", "-g", "-k", "-s", "-t", "-z", "-n",
    "-h", "-O", "-G", "-L", "-S"]

/-- The operators between two operands. -/
def binaryOperators : List Octets :=
  ["=", "!=", "<", ">", "-eq", "-ne", "-ge", "-gt", "-le", "-lt", "-nt", "-ot", "-ef"]

/-- What a word is if nothing stands around it. -/
def roleAlone (w : Octets) : Role :=
  if unaryOperators.contains w then .unary
  else if binaryOperators.contains w then .binary
  else if w = "!" then .negation
  else if w = "-a" then .conjunction
  else if w = "-o" then .disjunction
  else if w = "(" then .openParen
  else if w = ")" then .closeParen
  else .operand

/-- What the first of some words is.  An operator without an operand is an operand
    itself. -/
def roleOf : List Octets → Role
  | [] => .finish
  | [w] =>
    match roleAlone w with
    | .unary => .operand
    | .openParen => .operand
    | role => role
  | w :: next :: rest =>
    match roleAlone w with
    | .unary => if !rest.isEmpty && roleAlone next = .binary then .operand else .unary
    | role => role

/-- What a condition has to know of the machine. -/
structure Facts where
  /-- Whether an operator holds of a file. -/
  ofFile : Octets → Octets → Bool
  /-- Whether two paths name one file. -/
  same : Octets → Octets → Bool

/-- A value, and the words from the last one that was used on. -/
abbrev Verdict := Except Octets (Bool × List Octets)

/-- The complaint about a word. -/
def complaintAbout {α : Type} (w text : Octets) : Except Octets α :=
  .error (if w.isEmpty then text else w ++ ": " ++ text)

/-- The number that an operand writes. -/
def operandNumber (w : Octets) : Except Octets Int :=
  match Octets.leadingInt? 10 w with
  | some (n, rest) =>
    if rest.all Octets.isSpace && wordMin ≤ n && n ≤ wordMax then .ok n
    else .error ("Illegal number: " ++ w)
  | none => .error ("Illegal number: " ++ w)

/-- Whether an operator holds between two operands. -/
def compareWords (facts : Facts) (operator a b : Octets) : Except Octets Bool := do
  if operator = "=" then return a = b
  else if operator = "!=" then return a ≠ b
  else if operator = "<" then return Octets.before a b
  else if operator = ">" then return Octets.before b a
  else if operator = "-ef" then return facts.same a b
  else if operator = "-nt" || operator = "-ot" then return false
  else
    let m ← operandNumber a
    let n ← operandNumber b
    if operator = "-eq" then return m = n
    else if operator = "-ne" then return m ≠ n
    else if operator = "-ge" then return n ≤ m
    else if operator = "-gt" then return n < m
    else if operator = "-le" then return m ≤ n
    else return m < n

/-- Whether an operator holds of an operand. -/
def holdsOf (facts : Facts) (operator operand : Octets) : Except Octets Bool := do
  if operator = "-z" then return operand.isEmpty
  else if operator = "-n" then return !operand.isEmpty
  else if operator = "-t" then
    discard (operandNumber operand)
    return false
  else return facts.ofFile operator operand

mutual

/-- Conditions of which one must hold. -/
def anyOf (facts : Facts) : Nat → Role → List Octets → Verdict
  | 0, _, words => .ok (false, words)
  | fuel + 1, role, words => do
    let (a, words) ← allOf facts fuel role words
    if roleOf words.tail = .disjunction then
      let rest := words.drop 2
      let (b, words) ← anyOf facts fuel (roleOf rest) rest
      return (a || b, words)
    else return (a, words)

/-- Conditions that must all hold. -/
def allOf (facts : Facts) : Nat → Role → List Octets → Verdict
  | 0, _, words => .ok (false, words)
  | fuel + 1, role, words => do
    let (a, words) ← maybeNot facts fuel role words
    if roleOf words.tail = .conjunction then
      let rest := words.drop 2
      let (b, words) ← allOf facts fuel (roleOf rest) rest
      return (a && b, words)
    else return (a, words)

/-- A condition that may be turned round. -/
def maybeNot (facts : Facts) : Nat → Role → List Octets → Verdict
  | 0, _, words => .ok (false, words)
  | fuel + 1, role, words => do
    if role ≠ .negation then single facts fuel role words
    else
      let next := roleOf words.tail
      let (a, words) ← maybeNot facts fuel next (if next = .finish then words else words.tail)
      return (!a, words)

/-- A single condition, or one in parentheses. -/
def single (facts : Facts) : Nat → Role → List Octets → Verdict
  | 0, _, words => .ok (false, words)
  | fuel + 1, role, words => do
    match role, words with
    | .finish, _ => return (false, words)
    | _, [] => return (false, words)
    | .openParen, _ :: rest =>
      if roleOf rest = .closeParen then return (false, rest)
      else
        let (a, words) ← anyOf facts fuel (roleOf rest) rest
        if roleOf words.tail ≠ .closeParen then .error "closing paren expected"
        else return (a, words.tail)
    | .unary, operator :: rest =>
      match rest with
      | [] => complaintAbout operator "argument expected"
      | operand :: _ => return (← holdsOf facts operator operand, rest)
    | _, a :: rest =>
      match rest with
      | operator :: more =>
        if roleOf rest = .binary then
          match more with
          | [] => complaintAbout operator "argument expected"
          | b :: _ => return (← compareWords facts operator a b, more)
        else return (!a.isEmpty, words)
      | [] => return (!a.isEmpty, words)

end

/-- Whether a condition holds, where `negated` says how its value is taken. -/
def checkAs (facts : Facts) (negated : Bool) (role : Role) (words : List Octets) :
    Except Octets Bool := do
  let (a, rest) ← anyOf facts (4 * words.length + 8) role words
  match rest with
  | w :: _ :: _ => complaintAbout w "unexpected operator"
  | _ => return a != negated

/-- Whether a condition holds.  Three or four words are looked at by their number
    before anything else. -/
def checkWords (facts : Facts) (negated : Bool) (words : List Octets) : Except Octets Bool :=
  match words with
  | [] => .ok negated
  | first :: rest =>
    let byOperator := rest.length = 2 && rest.head?.any (roleAlone · = .binary)
    if byOperator then checkAs facts negated .operand words
    else if rest.length = 2 || rest.length = 3 then
      if first = "(" && rest.getLast? = some ")" then
        checkAs facts negated (roleOf rest.dropLast) rest.dropLast
      else if first = "!" then checkWords facts true rest
      else checkAs facts negated (roleOf words) words
    else checkAs facts negated (roleOf words) words

end Shell

end FlowLens
