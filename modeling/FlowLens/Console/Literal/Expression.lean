/-
  Expressions, as far as the values in tags and the faults of their texts need
  them: what an expression is called in a message, and which part of it cannot
  be assigned to.
-/

namespace FlowLens

namespace Literal

/-- An expression. -/
inductive Expression where
  /-- A name. -/
  | name (name : String)
  /-- A number. -/
  | number (isImaginary : Bool)
  /-- A word or sign that stands for a value, with what it is called. -/
  | constant (called : String)
  /-- A quoted text or string of octets. -/
  | quoted
  /-- A tuple. -/
  | tuple (items : List Expression)
  /-- A set. -/
  | set (items : List Expression)
  /-- A dictionary; an entry without a key takes in another dictionary. -/
  | dict (entries : List (Option Expression × Expression))
  /-- A number with a sign before it. -/
  | signed (operand : Expression)
  /-- A sum or a difference. -/
  | sum (left right : Expression)
  /-- A call, with a mark if it has no arguments. -/
  | call (callee : Expression) (isBare : Bool)
  /-- The items of a collection in place of it. -/
  | starred (items : Expression)
  /-- A member of a value. -/
  | member
  /-- A comparison, with a mark if it asks for membership first. -/
  | comparison (left : Expression) (isMembership : Bool)
  /-- The arguments of a call: how many have no keyword, and whether a
      dictionary is spread among them. -/
  | arguments (plain : Nat) (spreads : Bool)
  /-- Any other, with what it is called. -/
  | other (called : String)

namespace Expression

/-- What a message calls an expression. -/
def called : Expression → String
  | name _ => "name"
  | number _ | quoted => "literal"
  | constant called | other called => called
  | tuple _ => "tuple"
  | set _ => "set display"
  | dict _ => "dict literal"
  | signed _ | sum _ _ => "expression"
  | call _ _ => "function call"
  | starred _ => "starred"
  | member => "attribute"
  | comparison _ _ => "comparison"
  | arguments _ _ => "function call"

mutual

/-- The first part of the target of a loop that cannot be assigned to. -/
def unassignable? : Expression → Option Expression
  | name _ | member => none
  | tuple items => unassignableIn? items
  | starred items => items.unassignable?
  | comparison left isMembership => if isMembership then left.unassignable? else none
  | e => some e

/-- The first part of some targets that cannot be assigned to. -/
def unassignableIn? : List Expression → Option Expression
  | [] => none
  | e :: rest =>
    match e.unassignable? with
    | some part => some part
    | none => unassignableIn? rest

end

end Expression

end Literal

end FlowLens
