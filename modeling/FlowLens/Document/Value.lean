/-
  Documents: the values that a report or a settings file holds.

  * `Value`, with objects as members in the order of their first mention;
  * `Members.put` and `Members.get?`: a name that is given again keeps its
    place and takes the new value;
  * `Value.isPresent`: what counts as given in an optional place;
  * `Value.display`: a value as it appears in a message.
-/
import FlowLens.Number.Shortest
import FlowLens.Text.Quoted

namespace FlowLens

/-- A value of a document. -/
inductive Value where
  /-- Nothing. -/
  | null
  /-- A truth value. -/
  | bool (b : Bool)
  /-- An integer of any size. -/
  | int (n : Int)
  /-- A number in double precision. -/
  | float (x : Double)
  /-- A piece of text. -/
  | str (t : Text)
  /-- A date, a time or both, as written. -/
  | moment (t : Text)
  /-- A list. -/
  | arr (items : List Value)
  /-- Members by name. -/
  | obj (members : List (Text × Value))
  deriving Inhabited

/-- The members of an object, in order. -/
abbrev Members := List (Text × Value)

namespace Members

/-- The value of a name. -/
def get? (name : Text) : Members → Option Value
  | [] => none
  | (n, v) :: rest => if n = name then some v else get? name rest

/-- The members with a name's value set: in place if the name is there, at the
    end if not. -/
def put (name : Text) (value : Value) : Members → Members
  | [] => [(name, value)]
  | (n, v) :: rest => if n = name then (n, value) :: rest else (n, v) :: put name value rest

/-- The members of a list of pairs in which a name may come again. -/
def ofPairs (pairs : List (Text × Value)) : Members :=
  pairs.foldl (fun members pair => members.put pair.1 pair.2) []

/-- The members of `base` with those of `later` set one by one. -/
def merge (base later : Members) : Members :=
  later.foldl (fun members pair => members.put pair.1 pair.2) base

end Members

namespace Value

/-- Whether a value counts as given: all but nothing, `false`, zero and what is
    empty. -/
def isPresent : Value → Bool
  | null => false
  | bool b => b
  | int n => n != 0
  | float x => !x.isZero
  | str t => !t.isEmpty
  | moment _ => true
  | arr items => !items.isEmpty
  | obj members => !members.isEmpty

/-- An optional value, `null` if there is none. -/
def ofOption {α : Type} (f : α → Value) : Option α → Value
  | none => null
  | some a => f a

/-! ## Display -/

mutual

/-- A value as it appears inside another one: text in quotes. -/
def quoted : Value → Text
  | null => "None"
  | bool b => if b then "True" else "False"
  | int n => intText n
  | float x => x.text
  | str t => t.quoted
  | moment t => t
  | arr items => .char '[' :: (quotedItems items ++ [.char ']'])
  | obj members => .char '\x7b' :: (quotedMembers members ++ [.char '\x7d'])

/-- The items of a list, divided by commas. -/
def quotedItems : List Value → Text
  | [] => []
  | [v] => quoted v
  | v :: w :: rest => quoted v ++ ", " ++ quotedItems (w :: rest)

/-- The members of an object, divided by commas. -/
def quotedMembers : List (Text × Value) → Text
  | [] => []
  | [(name, v)] => name.quoted ++ ": " ++ quoted v
  | (name, v) :: w :: rest => name.quoted ++ ": " ++ quoted v ++ ", " ++ quotedMembers (w :: rest)

end

/-- A value as it appears in a message: text as it is. -/
def display : Value → Text
  | str t => t
  | v => v.quoted

end Value

end FlowLens
