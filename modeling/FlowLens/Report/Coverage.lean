/-
  How much of a program has types: counts of covered and uncovered expressions,
  and the share of the covered ones as a percentage.
-/
import FlowLens.Schema.Scalar

namespace FlowLens

/-- Counts of expressions. -/
structure Coverage where
  /-- Those with a type. -/
  covered : Int
  /-- Those without one. -/
  uncovered : Int
  deriving DecidableEq, Repr

namespace Coverage

/-- Nothing was counted. -/
def none : Coverage := ⟨0, 0⟩

/-- What the first count is called. -/
def coveredField : Field := ⟨"covered_count", "coveredCount"⟩

/-- What the second count is called. -/
def uncoveredField : Field := ⟨"uncovered_count", "uncoveredCount"⟩

/-- The counts that a document describes. -/
def check : Value → Checked Coverage :=
  checkRecord fun members =>
    Coverage.mk
      <$> members.optional coveredField 0 checkInt
      <*> members.optional uncoveredField 0 checkInt

/-- Counts as members. -/
def members (naming : Naming) (c : Coverage) : Members :=
  [(coveredField.label naming, .int c.covered), (uncoveredField.label naming, .int c.uncovered)]

/-- Counts as a document. -/
def toValue (naming : Naming) (c : Coverage) : Value :=
  .obj (c.members naming)

/-- The number of expressions. -/
def total (c : Coverage) : Int :=
  c.covered + c.uncovered

/-- The covered share in percent, to two places; a program without expressions
    is covered.  `none` if the share is beyond all doubles. -/
def percent? (c : Coverage) : Option Double :=
  if c.total = 0 then some (.ofInt 100)
  else (Double.divide c.covered c.total).map fun share => (share.mul (.ofInt 100)).roundHundredths

end Coverage

end FlowLens
