/-
  What a command puts out, with long runs of one code point kept short.

  * `Printout.text` is the text that it stands for;
  * `Printout.cells` are the cells that it takes up on a console.
-/
import FlowLens.Text.Width

namespace FlowLens

/-- A piece of what is put out. -/
inductive Printed where
  /-- A text. -/
  | text (t : Text)
  /-- A code point of one cell, a number of times. -/
  | run (c : CodePoint) (n : Nat)
  deriving DecidableEq, Repr

/-- What is put out, piece by piece. -/
abbrev Printout := List Printed

/-- The text of a piece. -/
def Printed.expanded : Printed → Text
  | text t => t
  | run c n => List.replicate n c

namespace Printout

/-- The text that an output stands for. -/
def text (o : Printout) : Text :=
  o.flatMap Printed.expanded

/-- A text as an output. -/
def ofText (t : Text) : Printout :=
  [.text t]

/-- A number of blanks. -/
def blank (n : Nat) : Printout :=
  [.run (.char ' ') n]

/-- Whether there is nothing in an output. -/
def isBare (o : Printout) : Bool :=
  o.all fun piece =>
    match piece with
    | .text t => t.isEmpty
    | .run _ n => n = 0

/-- Whether all of an output can be written down. -/
def isWritable (o : Printout) : Bool :=
  o.all fun piece =>
    match piece with
    | .text t => t.chars?.isSome
    | .run c _ => (Text.chars? [c]).isSome

/-- The cells that an output takes up.  A text may join to itself the first code
    point of a run behind it. -/
def cells : Printout → Nat
  | [] => 0
  | .run _ n :: rest => n + cells rest
  | .text t :: .run c (n + 1) :: rest => Text.cells (t ++ [c]) + n + cells rest
  | .text t :: rest => t.cells + cells rest

end Printout

end FlowLens
