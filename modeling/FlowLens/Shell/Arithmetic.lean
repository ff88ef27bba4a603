/-
  Arithmetic expressions over words of 64 bits, with variables and assignments.

  * `evaluate` gives the value of an expression, or its fault, and what it assigns.
-/
import FlowLens.Number.Double
import FlowLens.Shell.Octets

namespace FlowLens

namespace Shell

/-- Why an expression has no value. -/
inductive ArithmeticFault where
  /-- It is no expression. -/
  | malformed (text : Octets)
  /-- It divides by zero. -/
  | divisionByZero
  /-- It divides the smallest word by minus one, which no word comes to. -/
  | beyondWords
  /-- The value of a variable is no number. -/
  | badNumber (value : Octets)
  /-- A variable that stays as it is would be assigned. -/
  | readOnly (name : Octets)
  deriving DecidableEq, Repr

/-- The wording of a fault of an expression. -/
def ArithmeticFault.message (expression : Octets) : ArithmeticFault → Octets
  | malformed text => "arithmetic expression: " ++ text ++ ": \"" ++ expression ++ "\""
  | divisionByZero => "arithmetic expression: division by zero: \"" ++ expression ++ "\""
  | beyondWords => []
  | badNumber value => "Illegal number: " ++ value
  | readOnly name => name ++ ": is read only"

/-- A lexical unit of an expression. -/
inductive Term where
  | number (n : Int64)
  | variableName (name : Octets)
  | operator (text : Octets)
  | unknown
  deriving DecidableEq

/-- The largest word. -/
def wordMax : Int := twoTo 63 - 1

/-- The smallest word. -/
def wordMin : Int := -twoTo 63

/-- The word nearest to an integer. -/
def nearestWord (n : Int) : Int64 :=
  Int64.ofInt (if n > wordMax then wordMax else if n < wordMin then wordMin else n)

/-- The operators of more than one byte, longer ones first. -/
def longOperators : List Octets :=
  ["<<=", ">>=", "<<", ">>", "<=", ">=", "==", "!=", "&&", "||", "*=", "/=", "%=", "+=", "-=", "&=",
    "^=", "|="]

/-- The operators, longer ones first. -/
def operators : List Octets :=
  longOperators ++ ("*/%+-<>=!~&^|()?:" : Octets).map fun c => [c]

/-- The lexical units of an expression. -/
def terms : Nat → Octets → List Term
  | 0, _ => []
  | _ + 1, [] => []
  | fuel + 1, c :: rest =>
    let t : Octets := c :: rest
    if c = ' ' || c = '\t' || c = '\n' then terms fuel rest
    else if c.isDigit then
      match Octets.leadingInt? 0 t with
      | some (n, rest) => .number (nearestWord n) :: terms fuel rest
      | none => [.unknown]
    else if Octets.startsName c then
      let name := t.takeWhile Octets.inName
      .variableName name :: terms fuel (t.drop name.length)
    else
      match operators.find? (·.isPrefixOf t) with
      | some text => .operator text :: terms fuel (t.drop text.length)
      | none => [.unknown]

/-- How tightly a binary operator binds. -/
def binding? (text : Octets) : Option Nat :=
  if text = "*" || text = "/" || text = "%" then some 8
  else if text = "+" || text = "-" then some 7
  else if text = "<<" || text = ">>" then some 6
  else if text = "<" || text = "<=" || text = ">" || text = ">=" then some 5
  else if text = "==" || text = "!=" then some 4
  else if text = "&" then some 3
  else if text = "^" then some 2
  else if text = "|" then some 1
  else none

/-- The operator that an assignment applies first. -/
def assigning? (text : Octets) : Option Octets :=
  if text = "=" then some []
  else if text.length ≥ 2 && text.getLast? = some '=' && (binding? text.dropLast).isSome &&
      text ≠ "<=" && text ≠ ">=" then some text.dropLast
  else none

/-- A truth value as a word. -/
def truth (b : Bool) : Int64 := if b then 1 else 0

/-- The word that the value of a variable writes. -/
def wordOf (value : Octets) : Except ArithmeticFault Int64 :=
  match Octets.leadingInt? 0 value with
  | some (n, rest) =>
    if rest.all Octets.isSpace && wordMin ≤ n && n ≤ wordMax then .ok (Int64.ofInt n)
    else .error (.badNumber value)
  | none => if value.all Octets.isSpace then .ok 0 else .error (.badNumber value)

/-- An expression while it is worked out. -/
structure Calculation where
  /-- What is left of it. -/
  terms : List Term
  /-- The variables. -/
  lookup : Octets → Option Octets
  /-- Which variables stay as they are. -/
  isFixed : Octets → Bool
  /-- What is assigned, the last one first. -/
  assigned : List (Octets × Int64)

/-- A step of working out an expression. -/
abbrev Calculate := EStateM ArithmeticFault Calculation

/-- The value of a binary operator. -/
def applied (text : Octets) (a b : Int64) : Calculate Int64 :=
  if text = "*" then return a * b
  else if text = "/" || text = "%" then
    if b = 0 then throw .divisionByZero
    else if a = nearestWord wordMin && b = -1 then throw .beyondWords
    else return if text = "/" then a / b else a % b
  else if text = "+" then return a + b
  else if text = "-" then return a - b
  else if text = "<<" then return a <<< b
  else if text = ">>" then return a >>> b
  else if text = "<" then return truth (a < b)
  else if text = "<=" then return truth (a ≤ b)
  else if text = ">" then return truth (b < a)
  else if text = ">=" then return truth (b ≤ a)
  else if text = "==" then return truth (a = b)
  else if text = "!=" then return truth (a ≠ b)
  else if text = "&" then return a &&& b
  else if text = "^" then return a ^^^ b
  else return a ||| b

/-- The operator that comes next. -/
def nextOperator? : Calculate (Option Octets) := do
  match (← get).terms with
  | .operator text :: _ => return some text
  | _ => return none

/-- Steps over a lexical unit. -/
def skipTerm : Calculate Unit :=
  modify fun c => { c with terms := c.terms.tail }

/-- The value of a variable. -/
def variableValue (name : Octets) : Calculate Int64 := do
  let c ← get
  match c.assigned.lookup name with
  | some n => return n
  | none => ofExcept (wordOf ((c.lookup name).getD []))

mutual

/-- A primary expression; nothing is looked up if `idle` holds. -/
def primary : Nat → Bool → Calculate Int64
  | 0, _ => throw (.malformed "expecting primary")
  | fuel + 1, idle => do
    match (← get).terms with
    | .number n :: _ =>
      skipTerm
      return n
    | .variableName name :: _ =>
      skipTerm
      if idle then return 0 else variableValue name
    | .operator text :: _ =>
      skipTerm
      if text = "(" then
        let n ← assignmentValue fuel idle
        if (← nextOperator?) ≠ some ")" then throw (.malformed "expecting ')'")
        skipTerm
        return n
      else if text = "+" then primary fuel idle
      else if text = "-" then return -(← primary fuel idle)
      else if text = "!" then return truth ((← primary fuel idle) = 0)
      else if text = "~" then return ~~~(← primary fuel idle)
      else throw (.malformed "expecting primary")
    | _ => throw (.malformed "expecting primary")

/-- The binary operators that bind at least as tightly as `least`, behind their
    first operand. -/
def binary : Nat → Bool → Nat → Int64 → Calculate Int64
  | 0, _, _, a => return a
  | fuel + 1, idle, least, a => do
    match ← nextOperator? with
    | none => return a
    | some text =>
      match binding? text with
      | none => return a
      | some strength =>
        if strength < least then return a
        else
          skipTerm
          let b ← primary fuel idle
          let b ← binary fuel idle (strength + 1) b
          let c ← if idle then pure b else applied text a b
          binary fuel idle least c

/-- Operands that must all be true, or of which one must be. -/
def logical : Nat → Bool → Bool → Calculate Int64
  | 0, _, _ => throw (.malformed "expecting primary")
  | fuel + 1, idle, all => do
    let a ← if all then binary fuel idle 0 (← primary fuel idle) else logical fuel idle true
    if (← nextOperator?) = some (if all then ("&&" : Octets) else "||") then
      skipTerm
      let decided := if all then a = 0 else a ≠ 0
      let b ← logical fuel (idle || decided) all
      return truth (if all then a ≠ 0 && b ≠ 0 else a ≠ 0 || b ≠ 0)
    else return a

/-- A choice between two values. -/
def conditional : Nat → Bool → Calculate Int64
  | 0, _ => throw (.malformed "expecting primary")
  | fuel + 1, idle => do
    let a ← logical fuel idle false
    if (← nextOperator?) = some ("?" : Octets) then
      skipTerm
      let b ← assignmentValue fuel (idle || a = 0)
      if (← nextOperator?) ≠ some (":" : Octets) then throw (.malformed "expecting ':'")
      skipTerm
      let c ← conditional fuel (idle || a ≠ 0)
      return if a ≠ 0 then b else c
    else return a

/-- An assignment, or a value. -/
def assignmentValue : Nat → Bool → Calculate Int64
  | 0, _ => throw (.malformed "expecting primary")
  | fuel + 1, idle => do
    match (← get).terms with
    | .variableName name :: .operator text :: _ =>
      match assigning? text with
      | none => conditional fuel idle
      | some op =>
        skipTerm
        skipTerm
        let b ← assignmentValue fuel idle
        if idle then return b
        else
          let n ← if op.isEmpty then pure b else applied op (← variableValue name) b
          if (← get).isFixed name then throw (.readOnly name)
          modify fun c => { c with assigned := (name, n) :: c.assigned }
          return n
    | _ => conditional fuel idle

end

/-- The value of an expression, and what it assigns until it ends or fails. -/
def evaluate (lookup : Octets → Option Octets) (isFixed : Octets → Bool) (expression : Octets) :
    Except ArithmeticFault Int × List (Octets × Int) :=
  let terms := terms (expression.length + 1) expression
  let assigned (c : Calculation) : List (Octets × Int) :=
    c.assigned.reverse.map fun (name, n) => (name, n.toInt)
  match assignmentValue (8 * terms.length + 8) false ⟨terms, lookup, isFixed, []⟩ with
  | .error fault c => (.error fault, assigned c)
  | .ok n c =>
    if c.terms.isEmpty then (.ok n.toInt, assigned c)
    else (.error (.malformed "expecting EOF"), assigned c)

end Shell

end FlowLens
