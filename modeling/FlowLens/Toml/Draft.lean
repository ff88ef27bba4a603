/-
  A TOML document while it is read.  Tables may be written in several places, so
  a draft keeps, besides the members so far, which tables may still be added to.

  * `Draft.openTable` and `Draft.openItem` start the table of a header;
  * `Draft.assign` sets a key of the current table.
-/
import FlowLens.Toml.Scalar

namespace FlowLens

namespace Toml

/-- The names that lead to a value. -/
abbrev Key := List Text

/-- The members with those of the table at `key` changed; tables on the way are
    made if need be, and of a list of tables the last one is entered if
    `intoLists`. -/
def changeAt (intoLists : Bool) (change : Members → Option Members) : Key → Members → Option Members
  | [], members => change members
  | name :: key, members =>
    match members.get? name with
    | none => (changeAt intoLists change key []).map fun table => members.put name (.obj table)
    | some (.obj table) =>
      (changeAt intoLists change key table).map fun table => members.put name (.obj table)
    | some (.arr items) =>
      match intoLists, items.getLast? with
      | true, some (.obj table) =>
        (changeAt intoLists change key table).map fun table =>
          members.put name (.arr (items.dropLast ++ [.obj table]))
      | _, _ => none
    | some _ => none

/-- The members with a name that must be new. -/
def putNew (name : Text) (value : Value) (members : Members) : Option Members :=
  match members.get? name with
  | some _ => none
  | none => some (members.put name value)

/-- The members with one more empty table in the list of a name. -/
def appendTable (name : Text) (members : Members) : Option Members :=
  match members.get? name with
  | none => some (members.put name (.arr [.obj []]))
  | some (.arr items) => some (members.put name (.arr (items ++ [.obj []])))
  | some _ => none

/-- Whether a value is a list or a table, which is complete as it is written. -/
def isComplete : Value → Bool
  | .arr _ => true
  | .obj _ => true
  | _ => false

/-- A document so far. -/
structure Draft where
  /-- The members. -/
  members : Members
  /-- The values that are complete, and so is all below them. -/
  complete : List Key
  /-- The tables that may not be opened by a header again. -/
  opened : List Key
  /-- Those that are to be so from the next header on. -/
  pending : List Key
  /-- The current table. -/
  header : Key

namespace Draft

/-- A document with nothing in it. -/
def empty : Draft :=
  ⟨[], [], [], [], []⟩

/-- Whether a key is complete or below something that is. -/
def isSealed (d : Draft) (key : Key) : Bool :=
  d.complete.any (·.isPrefixOf key)

/-- The draft with the pending tables opened. -/
def settle (d : Draft) : Draft :=
  { d with opened := d.opened ++ d.pending, pending := [] }

/-- The draft behind the header of a table. -/
def openTable (d : Draft) (key : Key) : Option Draft :=
  let d := d.settle
  if d.opened.contains key || d.isSealed key then none
  else
    (changeAt true some key d.members).map fun members =>
      { d with members, opened := key :: d.opened, header := key }

/-- The draft behind the header of one more table in a list. -/
def openItem (d : Draft) (key : Key) : Option Draft :=
  let d := d.settle
  match key.getLast? with
  | none => none
  | some name =>
    if d.isSealed key then none
    else
      (changeAt true (appendTable name) key.dropLast d.members).map fun members =>
        { d with
          members
          complete := d.complete.filter (!key.isPrefixOf ·)
          opened := key :: d.opened.filter (!key.isPrefixOf ·)
          header := key }

/-- The tables on the way to a dotted key below the current one. -/
def onTheWay (d : Draft) (key : Key) : List Key :=
  (List.range (key.length - 1)).map fun n => d.header ++ key.take (n + 1)

/-- The draft with a key of the current table set. -/
def assign (d : Draft) (key : Key) (value : Value) : Option Draft :=
  match key.getLast? with
  | none => none
  | some name =>
    let way := d.onTheWay key
    let parent := d.header ++ key.dropLast
    if way.any d.opened.contains || d.isSealed parent then none
    else
      (changeAt true (putNew name value) parent d.members).map fun members =>
        { d with
          members
          complete := if isComplete value then (d.header ++ key) :: d.complete else d.complete
          pending := d.pending ++ way }

/-- The draft of a table within a line with a key set.  Nothing may be added to
    what is complete, and lists are not entered. -/
def assignInline (d : Draft) (key : Key) (value : Value) : Option Draft :=
  match key.getLast? with
  | none => none
  | some name =>
    if d.isSealed key then none
    else
      (changeAt false (putNew name value) key.dropLast d.members).map fun members =>
        { d with
          members
          complete := if isComplete value then key :: d.complete else d.complete }

end Draft

end Toml

end FlowLens
