/-
  The usual slips in the values of tags, each with the fault that it is told by.
-/
import FlowLens.Console.Literal.Parser

namespace FlowLens

namespace Literal

open FlowLens.Literal.Parser

/-- How the rules are called. -/
abbrev Rules := Rule → Parser Expression

/-- A message with a name in it. -/
def naming (before name after : String) : String :=
  (before ++ name ++ after)

/-- The fault of `=` where a value is wanted. -/
def meantEquality : String :=
  "invalid syntax. Maybe you meant '==' or ':=' instead of '='?"

/-- The fault of a generator among other arguments. -/
def bareGenerator : String :=
  "Generator expression must be parenthesized"

namespace Slips

variable (rule : Rules)

/-- Whether an expression is the name of a statement of old that took no
    brackets. -/
def isOldStatement : Expression → Bool
  | .name name => name = "print" || name = "exec"
  | _ => false

/-- Two expressions in a row inside brackets, or a condition without its other
    half. -/
def expression : Parser Expression := do
  let neighbours ← maybe do
    absent (or (do let _ ← name; let _ ← quoted) do
      let word ← name
      if ["_", "case", "match"].contains word then return () else none')
    let a ← rule .disjunction
    let _ ← rule .plain
    return (a, ← lastLevel)
  match neighbours with
  | some (a, level) =>
    if isOldStatement a || level = 0 then none'
    else raise "invalid syntax. Perhaps you forgot a comma?"
  | none =>
    let _ ← rule .disjunction
    keyword "if"
    let _ ← rule .disjunction
    absent (or (keyword "else") (sign ":"))
    raise "expected 'else' after 'if' expression"

/-- A statement of old. -/
def oldStatement : Parser Expression := do
  let word ← name
  absent (sign "(")
  let _ ← rule .starExpressions
  if isOldStatement (.name word) then
    raise ("Missing parentheses in call to '" ++ word ++ "'. Did you mean " ++ word ++ "(...)?")
  else none'

/-- An assignment where a value is wanted. -/
def named : Parser Expression := do
  firstOf [
    (do
      let a ← rule .expression
      sign ":="
      let _ ← rule .expression
      raise (naming "cannot use assignment expressions with " a.called "")),
    (do
      let _ ← name
      sign "="
      let _ ← rule (.binary 0)
      absent (or (sign "=") (sign ":="))
      raise meantEquality),
    (do
      absent (firstOf [rule .tuple, rule .generator,
        (do keyword "True"; return .quoted), (do keyword "None"; return .quoted),
        (do keyword "False"; return .quoted)])
      let a ← rule (.binary 0)
      sign "="
      let _ ← rule (.binary 0)
      absent (or (sign "=") (sign ":="))
      raise (naming "cannot assign to " a.called " here. Maybe you meant '==' instead of '='?"))]

/-- The items of a collection in place of it; a star with nothing after it is a
    fault. -/
def starred : Parser Expression :=
  or (do sign "*"; return .starred (← rule .expression))
    (do sign "*"; raise "Invalid star expression")

/-- A star in brackets that hold one item. -/
def group : Parser Expression :=
  or
    (do
      sign "("
      let _ ← starred rule
      sign ")"
      raise "cannot use starred expression here")
    (do
      sign "("
      sign "**"
      let _ ← rule .expression
      sign ")"
      raise "cannot use double starred expression here")

/-- A key with a star or with nothing for its value. -/
def value : Parser Expression := do
  let _ ← rule .expression
  sign ":"
  let starred ← or (do sign "*"; let _ ← rule (.binary 0); return true)
    (do present (or (sign "\x7d") (sign ",")); return false)
  raise (if starred then "cannot use a starred expression in a dictionary value"
    else "expression expected after dictionary key and ':'")

/-- An entry of a dictionary that lacks its value, after others or alone. -/
def entries : Parser Expression :=
  or (do
    let _ ← separated (rule .pair)
    sign ","
    or (do
      let _ ← rule .expression
      absent (sign ":")
      raise "':' expected after dictionary key") (value rule)) (value rule)

/-- A comprehension with a star, or with an item that lacks its brackets. -/
def comprehension : Parser Expression := do
  let bracket ← or (do sign "("; return '(') (do sign "\x7b"; return '\x7b')
  or (do
    let _ ← starred rule
    let _ ← rule .clauses
    raise "iterable unpacking cannot be used in comprehension") do
    if bracket = '(' then none'
    else
      let _ ← rule .starNamed
      sign ","
      let _ ← or (do let _ ← rule .starNameds; rule .clauses) (rule .clauses)
      raise "did you forget parentheses around the comprehension target?"

/-- A dictionary spread in a comprehension. -/
def spreadComprehension : Parser Expression := do
  sign "\x7b"
  sign "**"
  let _ ← rule (.binary 0)
  let _ ← rule .clauses
  sign "\x7d"
  raise "dict unpacking cannot be used in dict comprehension"

/-- A loop over what cannot be assigned to. -/
def loopTarget : Parser Expression := do
  let _ ← maybe (keyword "async")
  keyword "for"
  let a ← rule .starExpressions
  match a.unassignable? with
  | some part => raise (naming "cannot assign to " part.called "")
  | none => none'

/-- Arguments in the wrong order, or a generator among them. -/
def arguments : Parser Expression :=
  firstOf [
    (do
      let _ ← rule .args
      sign ","
      sign "*"
      raise "iterable argument unpacking follows keyword argument unpacking"),
    (do
      let _ ← rule .expression
      let _ ← rule .clauses
      sign ","
      let _ ← maybe (or (rule .args) (do let _ ← rule .expression; rule .clauses))
      raise bareGenerator),
    (do
      let _ ← name
      sign "="
      let _ ← rule .expression
      let _ ← rule .clauses
      raise meantEquality),
    (do
      let a ← rule .args
      let clauses ← maybe (rule .clauses)
      match clauses, a with
      | some _, .arguments plain _ => if plain ≤ 1 then return a else raise bareGenerator
      | _, _ => none'),
    (do
      let _ ← rule .args
      sign ","
      let _ ← rule .expression
      let _ ← rule .clauses
      raise bareGenerator),
    (do
      let a ← rule .args
      sign ","
      let _ ← rule .args
      match a with
      | .arguments _ true => raise "positional argument follows keyword argument unpacking"
      | _ => raise "positional argument follows keyword argument")]

/-- A keyword argument whose keyword is no name. -/
def keywordArgument : Parser Expression :=
  firstOf [
    (do
      let word ← firstOf
        (["True", "False", "None"].map fun word => do keyword word; return word)
      sign "="
      raise (naming "cannot assign to " word "")),
    (do
      let _ ← name
      sign "="
      let _ ← rule .expression
      let _ ← rule .clauses
      raise meantEquality),
    (do
      absent (do let _ ← name; sign "=")
      let _ ← rule .expression
      sign "="
      raise "expression cannot contain assignment, perhaps you meant \"==\"?")]

end Slips

end Literal

end FlowLens
