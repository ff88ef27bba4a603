/-
  The grammar of the values in tags.  A text is read twice: the first reading only
  tells whether it is an expression; the second one, of a text that is none, also looks
  for slips, and the first that it meets names the fault.

  * `expression` is the expression that a text writes, or the fault of it.
-/
import FlowLens.Console.Literal.Slips

namespace FlowLens

namespace Literal

open FlowLens.Literal.Parser

/-! ## The rules -/

/-- The signs that join two operands, from the loosest on. -/
def operators : List (List String) :=
  [["|"], ["^"], ["&"], ["<<", ">>"], ["+", "-"], ["*", "/", "//", "%", "@"]]

/-- A run of operands joined from the left. -/
def joined (operand : Parser Expression) (signs : List String) : Parser Expression := do
  let first ← operand
  let rest ← many do
    let s ← firstOf (signs.map fun s => do sign s; return s)
    return (s, ← operand)
  return rest.foldl
    (fun a (s, b) => if s = "+" || s = "-" then .sum a b else .other "expression") first

/-- A comparison sign, with a mark if it asks for membership. -/
def comparisonSign : Parser Bool :=
  firstOf (["==", "!=", "<=", "<", ">=", ">"].map (fun s => do sign s; return false)
    ++ [do keyword "not"; keyword "in"; return false, do keyword "in"; return true,
      do keyword "is"; keyword "not"; return false, do keyword "is"; return false])

/-- Quoted texts in a row. -/
def quotedRun : Parser Expression := do
  let parts ← many1 quoted
  let isOctets := parts.head?.any (·.1 = .octets)
  match parts.findSome? fun (kind, fault) =>
      fault.or (if (kind = .octets) = isOctets then none
        else some "cannot mix bytes and nonbytes literals") with
  | some fault => raise fault
  | none =>
    return if parts.any (·.1 = .filled) then .other "f-string expression" else .quoted

variable (rule : Rules)

/-- An item with a star, or a piece. -/
def starOr (operand item : Parser Expression) : Parser Expression :=
  or (do sign "*"; return .starred (← operand)) item

/-- One item, or a tuple of items with commas between. -/
def listed (item : Parser Expression) : Parser Expression := do
  let first ← item
  let rest ← many (do sign ","; item)
  let comma ← maybe (sign ",")
  return if rest.isEmpty && comma.isNone then first else .tuple (first :: rest)

/-- Items with commas between, one of which may follow the last. -/
def items (item : Parser Expression) : Parser (List Expression) := do
  let all ← separated item
  let _ ← maybe (sign ",")
  return all

/-- The items of a tuple. -/
def itemsOf : Expression → List Expression
  | .tuple items => items
  | e => [e]

/-- An argument with its keyword. -/
def withKeyword : Parser Expression := do
  let _ ← name
  sign "="
  let _ ← rule .expression
  return .other "keyword"

/-- The parameters of a function without a name. -/
def parameters : Parser Unit := do
  let _ ← maybe (separated (firstOf [
    (do
      let _ ← name
      let _ ← maybe (do sign "="; rule .expression)),
    (do sign "*"; let _ ← maybe name),
    (do sign "**"; let _ ← name),
    sign "/"]))
  let _ ← maybe (sign ",")

/-- What follows a value: a member or a call. -/
def tail (callee : Expression) : Parser Expression :=
  firstOf [
    (do sign "."; let _ ← name; return .member),
    (do let _ ← rule .generator; return .call callee false),
    (do
      sign "("
      let args ← maybe (rule .arguments)
      sign ")"
      return .call callee args.isNone)]

/-- What follows a value, as often as there is something. -/
def tails : Nat → Expression → Parser Expression
  | 0, a => pure a
  | n + 1, a => do
    match ← maybe (tail rule a) with
    | some b => tails n b
    | none => return a

/-- A value in curly brackets. -/
def curly : Parser Expression :=
  firstOf [
    (do
      sign "\x7b"
      let pairs ← maybe (rule .pairs)
      sign "\x7d"
      return pairs.getD (.dict [])),
    (do sign "\x7b"; let e ← Slips.entries rule; sign "\x7d"; return e),
    (do
      sign "\x7b"
      let all ← rule .starNameds
      sign "\x7d"
      return .set (itemsOf all)),
    (do
      sign "\x7b"
      let _ ← rule .expression
      sign ":"
      let _ ← rule .expression
      let _ ← rule .clauses
      sign "\x7d"
      return .other "dict comprehension"),
    slip (Slips.spreadComprehension rule),
    (do
      sign "\x7b"
      let _ ← rule .named
      let _ ← rule .clauses
      sign "\x7d"
      return .other "set comprehension"),
    slip (Slips.comprehension rule)]

/-- A value that stands for itself. -/
def atom : Parser Expression := do
  let t ← peek
  match t.kind with
  | .word word =>
    modify (· + 1)
    if ["True", "False", "None"].contains word then return .constant word
    else if keywords.contains word then none'
    else return .name word
  | .number isImaginary =>
    modify (· + 1)
    return .number isImaginary
  | .quoted _ _ => quotedRun
  | .sign "(" => firstOf [rule .tuple, rule .group, rule .generator]
  | .sign "\x7b" => curly rule
  | .sign "..." =>
    modify (· + 1)
    return .constant "ellipsis"
  | _ => none'

/-- The clauses of one loop of a comprehension. -/
def clause : Parser Expression := do
  let start ← maybe do
    let _ ← maybe (keyword "async")
    keyword "for"
    let _ ← rule .targets
    keyword "in"
  match start with
  | some _ =>
    let _ ← rule .disjunction
    let _ ← many (do keyword "if"; rule .disjunction)
    return .other "clause"
  | none => slip (Slips.loopTarget rule)

/-- The target of a loop. -/
def target : Parser Expression :=
  firstOf [
    (do sign "*"; absent (sign "*"); rule .target),
    (do
      let word ← name
      let members ← many (do sign "."; name)
      absent (sign "(")
      return if members.isEmpty then .name word else .member),
    (do
      sign "("
      let _ ← maybe (rule .targets)
      sign ")"
      return .tuple [])]

/-- The arguments of a call, those with keywords last. -/
def args : Parser Expression := do
  let plain : Parser Expression := or (Slips.starred rule) do
    let e ← or (rule .assignment) (do
      let e ← rule .expression
      absent (sign ":=")
      return e)
    absent (sign "=")
    return e
  or (do
    let all ← separated plain
    match ← maybe (do sign ","; rule .kwargs) with
    | some (.arguments n spreads) => return .arguments (all.length + n) spreads
    | _ => return .arguments all.length false) (rule .kwargs)

/-- The arguments of a call from the first with a keyword on. -/
def kwargs : Parser Expression := do
  let starred := firstOf [slip (Slips.keywordArgument rule), withKeyword rule, Slips.starred rule]
  let spread := firstOf [slip (Slips.keywordArgument rule), withKeyword rule,
    (do sign "**"; let _ ← rule .expression; return .dict [])]
  let count (es : List Expression) : Expression :=
    .arguments (es.filter fun | .starred _ => true | _ => false).length
      (es.any fun | .dict _ => true | _ => false)
  firstOf [
    (do
      let a ← separated starred
      sign ","
      return count (a ++ (← separated spread))),
    (do return count (← separated starred)),
    (do return count (← separated spread))]

/-- One step of every rule. -/
def step : Rules
  | .expression => kept .expression (firstOf [
      slip (Slips.expression rule),
      slip (Slips.oldStatement rule),
      choice,
      lambda])
  | .plain => trusting (or choice lambda)
  | .starExpressions => listed (rule .starExpression)
  | .starExpression => kept .starExpression (starOr (rule (.binary 0)) (rule .expression))
  | .starNamed => starOr (rule (.binary 0)) (rule .named)
  | .starNameds => do return .tuple (← items (rule .starNamed))
  | .assignment => do
    let _ ← name
    sign ":="
    let _ ← rule .expression
    return .other "named expression"
  | .named => firstOf [
      rule .assignment,
      slip (rule .namedSlip),
      (do
        let e ← rule .expression
        absent (sign ":=")
        return e)]
  | .namedSlip => kept .namedSlip (Slips.named rule)
  | .disjunction => kept .disjunction (chained "or" .conjunction)
  | .conjunction => kept .conjunction (chained "and" .inversion)
  | .inversion => kept .inversion (or
      (do keyword "not"; let _ ← rule .inversion; return .other "expression")
      (rule .comparison))
  | .comparison => do
    let a ← rule (.binary 0)
    let rest ← many (do
      let isMembership ← comparisonSign
      let _ ← rule (.binary 0)
      return isMembership)
    match rest with
    | isMembership :: _ => return .comparison a isMembership
    | [] => return a
  | .binary level => kept (.binary level)
      (match operators[level]? with
      | some signs => joined (rule (.binary (level + 1))) signs
      | none => rule .factor)
  | .factor => kept .factor (firstOf [
      (do sign "+"; return .signed (← rule .factor)),
      (do sign "-"; return .signed (← rule .factor)),
      (do sign "~"; let _ ← rule .factor; return .other "expression"),
      rule .power])
  | .power => do
    let a ← rule .awaited
    match ← maybe (do sign "**"; rule .factor) with
    | some _ => return .other "expression"
    | none => return a
  | .awaited => kept .awaited (or
      (do keyword "await"; let _ ← rule .primary; return .other "await expression")
      (rule .primary))
  | .primary => kept .primary (do tails rule (← reader).tokens.size (← rule .atom))
  | .atom => atom rule
  | .tuple => do
    sign "("
    let all ← maybe (do
      let first ← rule .starNamed
      sign ","
      let rest ← maybe (rule .starNameds)
      return first :: (rest.map itemsOf).getD [])
    sign ")"
    return .tuple (all.getD [])
  | .group => or
      (do
        sign "("
        let e ← or yielded (rule .named)
        sign ")"
        return e)
      (slip (Slips.group rule))
  | .generator => or
      (do
        sign "("
        let _ ← or (rule .assignment) (do
          let e ← rule .expression
          absent (sign ":=")
          return e)
        let _ ← rule .clauses
        sign ")"
        return .other "generator expression")
      (slip (Slips.comprehension rule))
  | .pairs => do
    let all ← items (rule .pair)
    return .dict (all.flatMap fun
      | .dict entries => entries
      | _ => [])
  | .pair => or
      (do sign "**"; return .dict [(none, ← rule (.binary 0))])
      (do
        let key ← rule .expression
        sign ":"
        return .dict [(some key, ← rule .expression)])
  | .arguments => kept .arguments (or
      (do
        let a ← rule .args
        let _ ← maybe (sign ",")
        present (sign ")")
        return a)
      (slip (Slips.arguments rule)))
  | .args => args rule
  | .kwargs => kwargs rule
  | .clauses => do
    let _ ← many1 (rule .clause)
    return .other "clauses"
  | .clause => clause rule
  | .targets => listed (rule .target)
  | .target => target rule
where
  /-- An expression with a condition, or without. -/
  choice : Parser Expression := do
    let a ← rule .disjunction
    let other ← maybe do
      keyword "if"
      let _ ← rule .disjunction
      keyword "else"
      rule .expression
    return if other.isSome then .other "conditional expression" else a
  /-- A function without a name. -/
  lambda : Parser Expression := do
    keyword "lambda"
    parameters rule
    sign ":"
    let _ ← rule .expression
    return .other "lambda"
  /-- A value that is handed out. -/
  yielded : Parser Expression := do
    keyword "yield"
    let _ ← or (do keyword "from"; let _ ← rule .expression; return ())
      (do let _ ← maybe (rule .starExpressions); return ())
    return .other "yield expression"
  /-- Operands joined by a keyword. -/
  chained (word : String) (operand : Rule) : Parser Expression := do
    let a ← rule operand
    let rest ← many (do keyword word; rule operand)
    return if rest.isEmpty then a else .other "expression"

/-- The rules, down to a depth. -/
def rules : Nat → Rules
  | 0, _ => none'
  | depth + 1, r => step (rules depth) r

/-- A whole text. -/
def whole (depth : Nat) : Parser Expression := do
  let e ← listed (rules depth .expression)
  let _ ← many (token (· = .newline))
  let _ ← token (· = .stop)
  return e

/-! ## Reading a text -/

/-- One reading of some tokens. -/
def reading (ts : Tokens) (explains : Bool) : Except String (Option Expression) :=
  let depth := 40 * (ts.items.length + 2)
  let start : Reader := { tokens := ts.items.toArray, ending := ts.ending, explains, found := {} }
  match (whole depth 0).run start with
  | .ok result _ => .ok (result.map (·.1))
  | .error fault _ => .error fault

/-- The expression that a text writes, or the fault of it. -/
def expression (t : List Char) : Except String Expression := do
  let ts ← tokens t
  match ← reading ts false with
  | some e => return e
  | none =>
    let _ ← reading ts true
    throw "invalid syntax"

end Literal

end FlowLens
