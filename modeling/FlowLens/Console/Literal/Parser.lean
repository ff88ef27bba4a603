/-
  Pieces of a grammar with ordered choice and without second thoughts.  A piece asks
  for tokens one by one, and asking for one that is not there is a fault of its own.

  * `Parser` is a piece;
  * `Parser.slip` is one that only looks for a usual slip, when slips are looked for;
  * `Parser.kept` is one whose findings are kept, so that no work is done twice.
-/
import Std.Data.HashMap
import FlowLens.Console.Literal.Expression
import FlowLens.Console.Literal.Token

namespace FlowLens

namespace Literal

/-! ## Readings -/

/-- The rules of the grammar that call each other. -/
inductive Rule where
  | expression | plain | starExpressions | starExpression | starNamed | starNameds
  | assignment | named | namedSlip | disjunction | conjunction | inversion | comparison
  | binary (level : Nat) | factor | power | awaited | primary | atom | tuple | group
  | generator | pairs | pair | arguments | args | kwargs | clauses | clause | targets | target
  deriving DecidableEq, Repr, Hashable

/-- The state of a reading. -/
structure Reader where
  /-- The tokens. -/
  tokens : Array Token
  /-- The fault of asking for more. -/
  ending : String
  /-- Whether slips are looked for. -/
  explains : Bool
  /-- What was found so far. -/
  found : Std.HashMap (Rule × Nat) (Option (Expression × Nat))

/-- A piece of the grammar: it starts at a token and ends at a later one, or
    does not apply, or finds a fault. -/
abbrev Parser := StateT Nat (OptionT (EStateM String Reader))

namespace Parser

/-- The state of the reading. -/
def reader : Parser Reader :=
  fun pos => OptionT.mk do return some (← get, pos)

/-- A fault. -/
def raise {α : Type} (fault : String) : Parser α :=
  fun _ => OptionT.mk (throw fault)

/-- Does not apply. -/
def none' {α : Type} : Parser α :=
  fun _ => OptionT.mk (pure none)

/-- The first of two pieces that applies. -/
def or {α : Type} (p q : Parser α) : Parser α :=
  fun pos => OptionT.mk do
    match ← (p pos).run with
    | some r => return some r
    | none => (q pos).run

/-- The first piece of a list that applies. -/
def firstOf {α : Type} (ps : List (Parser α)) : Parser α :=
  ps.foldr or none'

/-- A piece that need not apply. -/
def maybe {α : Type} (p : Parser α) : Parser (Option α) :=
  or (do return some (← p)) (pure none)

/-- Whether a piece applies here; nothing is consumed. -/
def ahead {α : Type} (p : Parser α) : Parser Bool := do
  let pos ← get
  let r ← maybe p
  set pos
  return r.isSome

/-- A piece must apply here; nothing is consumed. -/
def present {α : Type} (p : Parser α) : Parser Unit := do
  if ← ahead p then return () else none'

/-- A piece must not apply here. -/
def absent {α : Type} (p : Parser α) : Parser Unit := do
  if ← ahead p then none' else return ()

/-- A piece as often as it applies, up to a number of times. -/
def manyUpTo {α : Type} (p : Parser α) : Nat → Parser (List α)
  | 0 => pure []
  | n + 1 => do
    match ← maybe p with
    | some a => return a :: (← manyUpTo p n)
    | none => return []

/-- A piece as often as it applies. -/
def many {α : Type} (p : Parser α) : Parser (List α) := do
  manyUpTo p (← reader).tokens.size

/-- A piece as often as it applies, which is once or more. -/
def many1 {α : Type} (p : Parser α) : Parser (List α) := do
  return (← p) :: (← many p)

/-! ## Tokens -/

/-- The next token. -/
def peek : Parser Token := do
  let r ← reader
  match r.tokens[← get]? with
  | some t => return t
  | none => raise r.ending

/-- The next token, if it fits. -/
def token (fits : TokenKind → Bool) : Parser TokenKind := do
  let t ← peek
  if fits t.kind then
    modify (· + 1)
    return t.kind
  else none'

/-- A sign. -/
def sign (name : String) : Parser Unit := do
  let _ ← token (· = .sign name)

/-- A keyword. -/
def keyword (name : String) : Parser Unit := do
  let _ ← token (· = .word name)

/-- The keywords. -/
def keywords : List String :=
  ["False", "None", "True", "and", "as", "assert", "async", "await", "break", "class", "continue",
    "def", "del", "elif", "else", "except", "finally", "for", "from", "global", "if", "import",
    "in", "is", "lambda", "nonlocal", "not", "or", "pass", "raise", "return", "try", "while",
    "with", "yield"]

/-- A name. -/
def name : Parser String := do
  match ← token fun
    | .word name => !keywords.contains name
    | _ => false with
  | .word name => return name
  | _ => none'

/-- A quoted text, with the fault of its escapes. -/
def quoted : Parser (QuotedKind × Option String) := do
  match ← token fun
    | .quoted _ _ => true
    | _ => false with
  | .quoted kind fault => return (kind, fault)
  | _ => none'

/-- The number of brackets open after the last token. -/
def lastLevel : Parser Nat := do
  let r ← reader
  let pos ← get
  return ((r.tokens[pos - 1]?).map Token.level).getD 0

/-- A piece once or more, with commas between. -/
def separated {α : Type} (p : Parser α) : Parser (List α) := do
  return (← p) :: (← many (do sign ","; p))

/-! ## Slips and memory -/

/-- A piece that only applies when slips are looked for. -/
def slip {α : Type} (p : Parser α) : Parser α := do
  if (← reader).explains then p else none'

/-- A piece inside which slips are not looked for. -/
def trusting {α : Type} (p : Parser α) : Parser α :=
  fun pos => OptionT.mk do
    let before := (← get).explains
    modify fun r => { r with explains := false }
    let result ← (p pos).run
    modify fun r => { r with explains := before }
    return result

/-- A rule whose findings are kept. -/
def kept (rule : Rule) (p : Parser Expression) : Parser Expression :=
  fun pos => OptionT.mk do
    match (← get).found[(rule, pos)]? with
    | some result => return result
    | none =>
      let result ← (p pos).run
      modify fun r => { r with found := r.found.insert (rule, pos) result }
      return result

end Parser

end Literal

end FlowLens
