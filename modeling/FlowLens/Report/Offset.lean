/-
  Where a checked snippet starts in the document around it.  A host gives the
  offset as an object, whose values are read as integers at once, or as a list,
  whose items are taken as they are and may turn out to be no numbers when they
  are added.

  * `Offset.ofMembers` and `Offset.ofList` take in an offset;
  * `Offset.shift` moves a position of the snippet into the document.
-/
import FlowLens.Number.Amount
import FlowLens.Number.IntegerText
import FlowLens.Report.Position

namespace FlowLens

/-- Why an offset cannot be used. -/
inductive OffsetFault where
  /-- Something that is no number, or too many of them. -/
  | wrongType
  /-- A text that writes no integer. -/
  | text (fault : IntegerFault)
  /-- A number that is none. -/
  | nan
  /-- A number beyond all numbers. -/
  | infinite
  /-- An integer beyond all doubles that has to be added to one. -/
  | tooLarge
  /-- An integer of too many digits. -/
  | tooLong (cause : TooManyDigits)
  /-- A moved position with problems. -/
  | invalid (problems : List Problem)
  deriving DecidableEq, Repr

/-- The wording of a fault; some have none. -/
def OffsetFault.message : OffsetFault → Text
  | text fault => fault.message
  | nan => "cannot convert float NaN to integer"
  | infinite => "cannot convert float infinity to integer"
  | tooLarge => "int too large to convert to float"
  | tooLong cause => cause.message
  | wrongType => []
  | invalid _ => []

/-- Where a snippet starts; `none` stands for what is no number. -/
structure Offset where
  /-- The lines before the snippet. -/
  line : Option Amount
  /-- The columns before its first line. -/
  column : Option Amount
  deriving DecidableEq, Repr

namespace Offset

/-- A snippet that is the whole document. -/
def none : Offset :=
  ⟨some (.whole 0), some (.whole 0)⟩

/-- The offset of two integers. -/
def ofInts (line column : Int) : Offset :=
  ⟨some (.whole line), some (.whole column)⟩

/-! ## Taking in an offset -/

/-- The integer that a value gives; a fraction is cut off. -/
def toInteger : Value → Except OffsetFault Int
  | .bool b => .ok (Amount.ofBool b)
  | .int n => .ok n
  | .str t => (readInteger t).mapError .text
  | .float x =>
    match x, x.truncate? with
    | _, some n => .ok n
    | .nan, .none => .error .nan
    | _, .none => .error .infinite
  | _ => .error .wrongType

/-- The offset that an object gives; what it leaves out is zero. -/
def ofMembers (members : Members) : Except OffsetFault Offset := do
  let line ← toInteger ((members.get? "line").getD (.int 0))
  let column ← toInteger ((members.get? "column").getD (.int 0))
  return ofInts line column

/-- The offset that a list gives; what it leaves out is zero. -/
def ofList : List Value → Except OffsetFault Offset
  | [] => .ok none
  | [line] => .ok ⟨Amount.ofValue? line, some (.whole 0)⟩
  | [line, column] => .ok ⟨Amount.ofValue? line, Amount.ofValue? column⟩
  | _ => .error .wrongType

/-- The offset that a host gives. -/
def ofValue : Value → Except OffsetFault Offset
  | .obj members => ofMembers members
  | .arr items => ofList items
  | _ => .error .wrongType

/-! ## Moving -/

/-- A part of an offset and an integer added up. -/
def plus (a : Option Amount) (n : Int) : Except OffsetFault Amount :=
  match a with
  | .none => .error .wrongType
  | some a =>
    match a.addInt? n with
    | some b => .ok b
    | .none => .error .tooLarge

/-- The position with a line and a column that may be no integers. -/
def position (line column : Amount) (offset : Option Int) : Except OffsetFault Position :=
  let checked := (fun line column => Position.mk line column offset)
    <$> (checkInt line.toValue).under (.name "line")
    <*> (checkInt column.toValue).under (.name "column")
  match checked with
  | .good p => .ok p
  | .bad problems => .error (.invalid problems)

/-- A position of the snippet in the document.  Only the line 0 shares its line
    with what stands before the snippet. -/
def shift (offset : Offset) (p : Position) : Except OffsetFault Position := do
  let column ← if p.line = 0 then plus offset.column p.column else .ok (.whole p.column)
  let line ← plus offset.line p.line
  position line column p.offset

/-- A place of the snippet in the document; without one, its very start. -/
def shiftPlace (offset : Offset) (place : Option Place) : Except OffsetFault Span := do
  let start := (place.map (·.start)).getD ⟨1, 1, some 0⟩
  let stop := (place.map (·.stop)).getD ⟨1, 1, some 0⟩
  return ⟨← offset.shift start, ← offset.shift stop⟩

end Offset

end FlowLens
