/-
  Checking a document against what is expected of it.  A check gives a value, or
  all problems of the document in order; each problem says where it is and which
  expectation fails.

  * `Checked`, an applicative functor that collects problems from both sides;
  * `Members.required` and `Members.optional`, which check the value of a field;
  * `checkEach`, which checks the items of a list.
-/
import FlowLens.Document.Value

namespace FlowLens

/-- A step from a value to a part of it. -/
inductive Step where
  /-- To the member of that name. -/
  | name (n : Text)
  /-- To the item at that index. -/
  | index (i : Nat)
  deriving DecidableEq, Repr

/-- An expectation that a value fails. -/
inductive Expectation where
  | missing
  | modelType
  | intType
  | intParsing
  | intParsingSize
  | intFromFloat
  | finiteNumber
  | stringType
  | stringUnicode
  | tupleType
  | tooShort
  | boolType
  | boolParsing
  | floatType
  | floatParsing
  | greaterThanEqual
  | lessThanEqual
  | pathType
  | enumMember
  | literalError
  | dictType
  | extraForbidden
  deriving DecidableEq, Repr

/-- The label of an expectation. -/
def Expectation.label : Expectation → Text
  | missing => "missing"
  | modelType => "model_type"
  | intType => "int_type"
  | intParsing => "int_parsing"
  | intParsingSize => "int_parsing_size"
  | intFromFloat => "int_from_float"
  | finiteNumber => "finite_number"
  | stringType => "string_type"
  | stringUnicode => "string_unicode"
  | tupleType => "tuple_type"
  | tooShort => "too_short"
  | boolType => "bool_type"
  | boolParsing => "bool_parsing"
  | floatType => "float_type"
  | floatParsing => "float_parsing"
  | greaterThanEqual => "greater_than_equal"
  | lessThanEqual => "less_than_equal"
  | pathType => "path_type"
  | enumMember => "enum"
  | literalError => "literal_error"
  | dictType => "dict_type"
  | extraForbidden => "extra_forbidden"

/-- A failed expectation and the way to the value that fails it. -/
structure Problem where
  /-- The steps from the whole document to the value. -/
  path : List Step
  /-- The expectation. -/
  expected : Expectation
  deriving DecidableEq, Repr

/-- A value, or the problems found on the way to it. -/
inductive Checked (α : Type) where
  /-- All expectations are met. -/
  | good (a : α)
  /-- Some are not. -/
  | bad (problems : List Problem)
  deriving Repr

namespace Checked

/-- A single problem with the value itself. -/
def fail {α : Type} (expected : Expectation) : Checked α :=
  .bad [⟨[], expected⟩]

/-- A function of the value. -/
def map {α β : Type} (f : α → β) : Checked α → Checked β
  | good a => good (f a)
  | bad problems => bad problems

/-- A function and its argument, with the problems of both in order. -/
def seq {α β : Type} : Checked (α → β) → Checked α → Checked β
  | good f, good a => good (f a)
  | good _, bad problems => bad problems
  | bad problems, good _ => bad problems
  | bad problems, bad more => bad (problems ++ more)

instance : Applicative Checked where
  pure := good
  seq f a := seq f (a ())
  map f a := map f a

/-- A check of a part, with its problems placed below `step`. -/
def under {α : Type} (step : Step) : Checked α → Checked α
  | good a => good a
  | bad problems => bad (problems.map fun p => { p with path := step :: p.path })

/-- The value, if there is one. -/
def toOption {α : Type} : Checked α → Option α
  | good a => some a
  | bad _ => none

/-- The problems. -/
def problems {α : Type} : Checked α → List Problem
  | good _ => []
  | bad problems => problems

end Checked

/-! ## Fields -/

/-- A field of a record: its own name, and the key that documents use for it. -/
structure Field where
  /-- The name of the field. -/
  name : Text
  /-- The key of the field in documents. -/
  key : Text
  deriving DecidableEq, Repr

/-- A field whose key is its name. -/
def Field.plain (name : Text) : Field :=
  ⟨name, name⟩

/-- The names under which a record's fields are written. -/
inductive Naming where
  /-- Their own names. -/
  | byName
  /-- The keys of documents. -/
  | byKey
  deriving DecidableEq, Repr

/-- What a field is called. -/
def Field.label (f : Field) : Naming → Text
  | .byName => f.name
  | .byKey => f.key

namespace Members

/-- A field's value and what it was called: its key comes before its name. -/
def lookup? (members : Members) (f : Field) : Option (Text × Value) :=
  match members.get? f.key with
  | some v => some (f.key, v)
  | none => (members.get? f.name).map (f.name, ·)

/-- A field that must be there. -/
def required {α : Type} (members : Members) (f : Field) (check : Value → Checked α) : Checked α :=
  match members.lookup? f with
  | some (label, v) => (check v).under (.name label)
  | none => .bad [⟨[.name f.key], .missing⟩]

/-- A field with a value to fall back on. -/
def optional {α : Type} (members : Members) (f : Field) (fallback : α) (check : Value → Checked α) :
    Checked α :=
  match members.lookup? f with
  | some (label, v) => (check v).under (.name label)
  | none => .good fallback

/-- The members that are the value of none of the given fields are problems. -/
def onlyFields (members : Members) (fields : List Field) : Checked Unit :=
  let known := fields.filterMap fun f => (members.lookup? f).map (·.1)
  match members.filter fun m => !known.contains m.1 with
  | [] => .good ()
  | unknown => .bad (unknown.map fun m => ⟨[.name m.1], .extraForbidden⟩)

end Members

/-- A check of an object's members. -/
def checkRecord {α : Type} (check : Members → Checked α) : Value → Checked α
  | .obj members => check members
  | _ => .fail .modelType

/-- A check that lets `null` pass. -/
def checkNullable {α : Type} (check : Value → Checked α) : Value → Checked (Option α)
  | .null => .good none
  | v => (check v).map some

/-- A check of each item from the index `i` on. -/
def checkEach {α : Type} (check : Value → Checked α) : Nat → List Value → List (Checked α)
  | _, [] => []
  | i, v :: rest => (check v).under (.index i) :: checkEach check (i + 1) rest

/-- All values, or all problems. -/
def collectAll {α : Type} : List (Checked α) → Checked (List α)
  | [] => .good []
  | c :: rest => List.cons <$> c <*> collectAll rest

/-- A check of a list of items. -/
def checkList {α : Type} (check : Value → Checked α) : Value → Checked (List α)
  | .arr items => collectAll (checkEach check 0 items)
  | _ => .fail .tupleType

end FlowLens
