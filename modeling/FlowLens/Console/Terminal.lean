/-
  What the environment says about a console: how wide it is, whether it is a
  terminal, and the colours that it shows.

  * `Environment.console` is the console of a stream.
-/
import FlowLens.Console.Color
import FlowLens.System.Host

namespace FlowLens

/-- A console. -/
structure Console where
  /-- The cells of a line. -/
  width : Nat
  /-- The colours that it shows, if it is a terminal that shows any. -/
  depth : Option ColorDepth
  deriving DecidableEq, Repr

/-- Why a line of blanks cannot be made. -/
inductive RoomFault where
  /-- No index reaches its end. -/
  | beyondIndex
  /-- No memory holds it. -/
  | beyondMemory
  deriving DecidableEq, Repr

/-- The wording of a fault. -/
def RoomFault.message : RoomFault → Text
  | beyondIndex => "cannot fit 'int' into an index-sized integer"
  | beyondMemory => []

/-- The fault of a line of so many blanks. -/
def roomFault? (blanks : Nat) : Option RoomFault :=
  if twoTo 63 ≤ blanks then some .beyondIndex
  else if twoTo 32 ≤ blanks then some .beyondMemory
  else none

namespace CodePoint

/-- Digits that are no decimal ones: raised, lowered, circled and the like. -/
def otherDigitRanges : List (Nat × Nat) := [
    (0xB2, 0xB3), (0xB9, 0xB9), (0x1369, 0x1371), (0x19DA, 0x19DA), (0x2070, 0x2070),
    (0x2074, 0x2079), (0x2080, 0x2089), (0x2460, 0x2468), (0x2474, 0x247C), (0x2488, 0x2490),
    (0x24EA, 0x24EA), (0x24F5, 0x24FD), (0x24FF, 0x24FF), (0x2776, 0x277E), (0x2780, 0x2788),
    (0x278A, 0x2792), (0x10A40, 0x10A43), (0x10E60, 0x10E68), (0x11052, 0x1105A),
    (0x1F100, 0x1F10A)]

/-- Whether a code point is a digit of any kind. -/
def isAnyDigit (c : CodePoint) : Bool :=
  c.isDigit || otherDigitRanges.any fun r => r.1 ≤ c.val && c.val ≤ r.2

end CodePoint

namespace Environment

/-- The number that a variable gives, if it holds digits only. -/
def number? (env : Environment) (name : Text) : Except IntegerFault (Option Nat) :=
  match env.get? name with
  | none => .ok none
  | some t =>
    if t.isEmpty || !t.all CodePoint.isAnyDigit then .ok none
    else (readInteger t).map fun n => some n.toNat

/-- The width of a console that says nothing about it. -/
def ordinaryWidth : Nat := 80

/-- Whether a stream counts as a terminal; `isTerminal` says whether it is one. -/
def countsAsTerminal (env : Environment) (isTerminal : Bool) : Bool :=
  let compatible := env.get? "TTY_COMPATIBLE"
  if compatible = some "0" then false
  else if compatible = some "1" then true
  else
    match env.get? "FORCE_COLOR" with
    | some t => !t.isEmpty
    | none => isTerminal

/-- Whether the kind of terminal is one that only takes plain text. -/
def isPlainTerminal (env : Environment) : Bool :=
  let term := ((env.get? "TERM").getD []).lower
  term = "dumb" || term = "unknown"

/-- The colours that a terminal shows. -/
def colorDepth (env : Environment) : Option ColorDepth :=
  let term := ((env.get? "TERM").getD []).lower
  let colors := ((env.get? "COLORTERM").getD []).strip.lower
  if env.isPlainTerminal then none
  else if colors = "truecolor" || colors = "24bit" then some .full
  else
    match (Text.splitBy (· = .char '-') term.strip).getLast? with
    | some kind => some (if kind = "256color" || kind = "kitty" then .indexed else .standard)
    | none => some .standard

/-- The console of a stream; `isTerminal` says whether it is a terminal.  A plain
    terminal is taken at its word only if it gives both sizes. -/
def console (env : Environment) (isTerminal : Bool) : Except IntegerFault Console := do
  let width ← env.number? "COLUMNS"
  let height ← env.number? "LINES"
  let isTerminal := env.countsAsTerminal isTerminal
  return {
    width :=
      if isTerminal && env.isPlainTerminal && height.isNone then ordinaryWidth
      else width.getD ordinaryWidth
    depth := if isTerminal then env.colorDepth else none }

end Environment

end FlowLens
