/-
  The ledger of roots whose server is to be stopped at exit.  A root keeps the
  place where it was first written down, also when it is stopped and scheduled
  again.

  * `schedule` writes a root down, and says whether that was news;
  * `roots` are the roots to be stopped, in order;
  * `settle` crosses them all out.
-/
import FlowLens.Text.Basic

namespace FlowLens

/-- The roots that were ever written down, each with whether it is to be
    stopped, and whether the exit hook is registered. -/
structure Ledger where
  /-- The roots in the order in which they first came. -/
  entries : List (Text × Bool)
  /-- Whether the exit hook is registered. -/
  hooked : Bool
  deriving DecidableEq, Repr

namespace Ledger

/-- A ledger without roots. -/
def empty : Ledger :=
  ⟨[], false⟩

/-- Whether a root is to be stopped, by its first entry. -/
def scheduledIn (root : Text) : List (Text × Bool) → Bool
  | [] => false
  | (r, b) :: rest => if r = root then b else scheduledIn root rest

/-- The entries with a root to be stopped: in its place, or at the end. -/
def mark (root : Text) : List (Text × Bool) → List (Text × Bool)
  | [] => [(root, true)]
  | (r, b) :: rest => if r = root then (r, true) :: rest else (r, b) :: mark root rest

/-- Whether a root is to be stopped. -/
def isScheduled (l : Ledger) (root : Text) : Bool :=
  scheduledIn root l.entries

/-- The roots that are to be stopped. -/
def roots (l : Ledger) : List Text :=
  (l.entries.filter (·.2)).map (·.1)

/-- Writes a root down, and says whether it was not to be stopped before.  The
    first root registers the hook. -/
def schedule (l : Ledger) (root : Text) : Bool × Ledger :=
  if l.isScheduled root then (false, l) else (true, ⟨mark root l.entries, true⟩)

/-- The ledger with no root left to be stopped. -/
def settle (l : Ledger) : Ledger :=
  { l with entries := l.entries.map fun e => (e.1, false) }

end Ledger

end FlowLens
