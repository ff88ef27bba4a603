/-
  Values in the tags of markup.  A tag of an action holds a value after `=`: a
  number, a quoted text, a name such as `None`, or a collection of values; or a
  call, of which only the arguments are read.

  * `Literal.Value` is a value as far as its faults go: whether it can be a key;
  * `Literal.fault?` is the fault of a text that should write a value.
-/
import FlowLens.Console.Literal.Grammar
import FlowLens.Text.Blank
import FlowLens.Text.Quoted

namespace FlowLens

/-- Why a text writes no value. -/
structure LiteralFault where
  /-- The wording. -/
  message : Text
  deriving DecidableEq, Repr

namespace Literal

/-! ## Values -/

/-- The keys that a value can be: any, or none because of a part of some kind. -/
structure Value where
  /-- The kind of the part that keeps the value from being a key. -/
  mutablePart : Option String

/-- A value that can be a key. -/
def Value.fixed : Value := ⟨none⟩

/-- The fault of an expression that writes no value. -/
def malformed : String :=
  "malformed node or string on line 1"

/-- Whether an expression is a number, and an imaginary one. -/
def numeral? : Expression → Option Bool
  | .number isImaginary => some isImaginary
  | _ => none

/-- The same of a number that may have a sign. -/
def signedNumeral? : Expression → Option Bool
  | .signed e => numeral? e
  | e => numeral? e

/-- A key must be a value that cannot change. -/
def asKey (v : Value) : Except String Unit :=
  match v.mutablePart with
  | some kind => .error ("unhashable type: '" ++ kind ++ "'")
  | none => .ok ()

mutual

/-- The value of an expression. -/
def value : Expression → Except String Value
  | .number _ | .quoted | .constant _ => .ok .fixed
  | .tuple items => do
    let all ← values items
    return ⟨all.findSome? Value.mutablePart⟩
  | .set items => do
    keys items
    return ⟨some "set"⟩
  | .dict entries => do
    pairs entries
    return ⟨some "dict"⟩
  | .call (.name "set") true => .ok ⟨some "set"⟩
  | .signed e => if (numeral? e).isSome then .ok .fixed else .error malformed
  | .sum a b =>
    if signedNumeral? a = some false && numeral? b = some true then .ok .fixed
    else .error malformed
  | _ => .error malformed

/-- The values of the items of a tuple. -/
def values : List Expression → Except String (List Value)
  | [] => .ok []
  | e :: rest => do
    let v ← value e
    return v :: (← values rest)

/-- The items of a set are keys. -/
def keys : List Expression → Except String Unit
  | [] => .ok ()
  | e :: rest => do
    asKey (← value e)
    keys rest

/-- The entries of a dictionary. -/
def pairs : List (Option Expression × Expression) → Except String Unit
  | [] => .ok ()
  | (none, _) :: _ => .error "malformed node or string: None"
  | (some key, e) :: rest => do
    let k ← value key
    let _ ← value e
    asKey k
    pairs rest

end

/-! ## Tags -/

/-- The part of a tag's value that is read: the arguments of a call, or no
    arguments after a name alone. -/
def readPart (t : Text) : Text :=
  let rest := t.dropWhile fun c => c.isWordPart || c = .char '.'
  if rest.isEmpty then "()"
  else if rest.head? = some (.char '(') && rest.getLast? = some (.char ')') && rest.length ≥ 2
      && !rest.contains (.char '\n') then rest
  else t

/-- The fault of a text with surrogates, which no file can hold. -/
def surrogateFault? (t : Text) : Option Text :=
  let isLone : CodePoint → Bool := fun | .lone _ => true | .char _ => false
  let start := (t.takeWhile (!isLone ·)).length
  match t.drop start with
  | [] => none
  | c :: rest =>
    let more := (rest.takeWhile isLone).length
    let place : Text :=
      if more = 0 then
        Text.ofString "character '" ++ CodePoint.quotedIn (.char '\'') c
          ++ Text.ofString ("' in position " ++ toString start)
      else
        Text.ofString
          ("characters in position " ++ toString start ++ "-" ++ toString (start + more))
    some (Text.ofString "'utf-8' codec can't encode " ++ place
      ++ Text.ofString ": surrogates not allowed")

/-- Line ends of any kind, as single ones. -/
def plainLines : List Char → List Char
  | '\r' :: '\n' :: rest => '\n' :: plainLines rest
  | '\r' :: rest => '\n' :: plainLines rest
  | c :: rest => c :: plainLines rest
  | [] => []

/-- The fault of a text that is to write a value; an empty one writes none. -/
def fault? (t : Text) : Option LiteralFault :=
  if t.isEmpty then none
  else
    let part := readPart t.strip
    let fault (place why : Text) : Option LiteralFault :=
      some ⟨Text.ofString "error parsing " ++ place ++ Text.ofString "; " ++ why⟩
    match surrogateFault? part, part.chars? with
    | none, some chars =>
      match expression (plainLines chars) with
      | .ok e =>
        match value e with
        | .ok _ => none
        | .error why => fault t.quoted why
      | .error why => fault (part.quoted ++ Text.ofString " in " ++ t.quoted) why
    | some why, _ => fault t.quoted why
    | none, none => none

end Literal

end FlowLens
