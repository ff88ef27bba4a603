/-
  What the checker says about a program: an entry has one or more messages, of
  which the first is the primary one, and further messages that its description
  refers to.

  * `Message`, `Extra` and `Entry`;
  * `Entry.place?`, the place that decides to which file an entry belongs;
  * `Entry.references`, the messages that a description may refer to.
-/
import FlowLens.Report.Position

namespace FlowLens

/-! ## Messages -/

/-- One part of what the checker says. -/
structure Message where
  /-- The file that it is about. -/
  path : Text
  /-- The description. -/
  descr : Text
  /-- The kind of message. -/
  kind : Option Text
  /-- The line where it starts. -/
  line : Int
  /-- The line where it ends. -/
  endLine : Int
  /-- The place that it is about. -/
  place : Option Place
  deriving DecidableEq, Repr

namespace Message

/-- What a kind of message is called. -/
def kindField : Field := ⟨"kind", "type"⟩

/-- The message that a document describes. -/
def check : Value → Checked Message :=
  checkRecord fun members =>
    Message.mk
      <$> members.optional (.plain "path") [] checkText
      <*> members.optional (.plain "descr") [] checkText
      <*> members.optional kindField (some "Blame") (checkNullable checkText)
      <*> members.optional (.plain "line") 0 checkInt
      <*> members.optional (.plain "endline") 0 checkInt
      <*> members.optional (.plain "loc") none (checkNullable Place.check)

/-- A message as a document. -/
def toValue (naming : Naming) (m : Message) : Value :=
  .obj [("path", .str m.path), ("descr", .str m.descr),
    (kindField.label naming, .ofOption .str m.kind), ("line", .int m.line),
    ("endline", .int m.endLine), ("loc", .ofOption (Place.toValue naming) m.place)]

end Message

/-! ## Extras -/

/-- Messages that a description refers to. -/
structure Extra where
  /-- The messages. -/
  messages : List Message
  deriving DecidableEq, Repr

namespace Extra

/-- The extra that a document describes. -/
def check : Value → Checked Extra :=
  checkRecord fun members =>
    Extra.mk <$> members.optional (.plain "message") [] (checkList Message.check)

/-- An extra as a document. -/
def toValue (naming : Naming) (e : Extra) : Value :=
  .obj [("message", .arr (e.messages.map (Message.toValue naming)))]

end Extra

/-! ## Entries -/

/-- One thing that the checker reports. -/
structure Entry where
  /-- The first message. -/
  primary : Message
  /-- The other messages. -/
  others : List Message
  /-- How serious it is, in the checker's words. -/
  level : Option Text
  /-- What the program does where it goes wrong. -/
  operation : Option Message
  /-- The messages that the description refers to. -/
  extras : Option (List Extra)
  deriving DecidableEq, Repr

/-- A check of a list of at least one item.  A list in which no item passes is
    also too short. -/
def checkNonEmpty {α : Type} (check : Value → Checked α) : Value → Checked (α × List α)
  | .arr items =>
    let results := checkEach check 0 items
    match collectAll results with
    | .good (a :: rest) => .good (a, rest)
    | .good [] => .fail .tooShort
    | .bad problems =>
      if results.any (·.toOption.isSome) then .bad problems
      else .bad (problems ++ [⟨[], .tooShort⟩])
  | _ => .fail .tupleType

namespace Entry

/-- The entry that a document describes. -/
def check : Value → Checked Entry :=
  checkRecord fun members =>
    (fun (messages : Message × List Message) => Entry.mk messages.1 messages.2)
      <$> members.required (.plain "message") (checkNonEmpty Message.check)
      <*> members.optional (.plain "level") none (checkNullable checkText)
      <*> members.optional (.plain "operation") none (checkNullable Message.check)
      <*> members.optional (.plain "extra") none (checkNullable (checkList Extra.check))

/-- An entry as a document. -/
def toValue (naming : Naming) (e : Entry) : Value :=
  .obj [("message", .arr ((e.primary :: e.others).map (Message.toValue naming))),
    ("level", .ofOption .str e.level),
    ("operation", .ofOption (Message.toValue naming) e.operation),
    ("extra", .ofOption (fun extras => .arr (extras.map (Extra.toValue naming))) e.extras)]

/-- The place that decides to which file an entry belongs: that of the
    operation, else that of the primary message. -/
def place? (e : Entry) : Option Place :=
  (e.operation.bind (·.place)).or e.primary.place

/-- The first message of each extra that has one. -/
def references (e : Entry) : List Message :=
  (e.extras.getD []).filterMap (·.messages.head?)

end Entry

end FlowLens
