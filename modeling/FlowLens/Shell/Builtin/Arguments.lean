/-
  The arguments of built-in commands: options in front of the operands, and quotes.
-/
import FlowLens.Shell.Expand

namespace FlowLens

namespace Shell

/-! ## Options of commands -/

/-- The options in front of the operands.  A letter with a colon behind it takes an
    argument. -/
def optionsOf (spec : Octets) : Nat → List Octets → Act (List (Char × Octets) × List Octets)
  | 0, args => return ([], args)
  | _ + 1, [] => return ([], [])
  | fuel + 1, arg :: rest =>
    match arg with
    | '-' :: c :: more =>
      if arg = "--" then return ([], rest)
      else
        let takes := (spec.dropWhile (· ≠ c)).drop 1 |>.head? |> (· == some ':')
        if c = ':' || !spec.contains c then fail ("Illegal option -" ++ [c])
        else if takes then
          match more, rest with
          | [], [] => fail ("No arg for -" ++ [c] ++ " option")
          | [], value :: rest => do
            let (options, rest) ← optionsOf spec fuel rest
            return ((c, value) :: options, rest)
          | value, rest => do
            let (options, rest) ← optionsOf spec fuel rest
            return ((c, value) :: options, rest)
        else do
          let remaining : List Octets := if more.isEmpty then rest else ('-' :: more) :: rest
          let (options, rest) ← optionsOf spec fuel remaining
          return ((c, []) :: options, rest)
    | _ => return ([], arg :: rest)

/-- The options in front of the operands. -/
def splitOptions (spec : Octets) (args : List Octets) : Act (List (Char × Octets) × List Octets) :=
  optionsOf spec (args.foldl (fun n arg => n + arg.length + 1) 1) args

/-- A string in quotes that the shell reads back. -/
def shellQuoted : Nat → Octets → Octets
  | 0, t => t
  | fuel + 1, t =>
    let front := t.takeWhile (· ≠ '\'')
    let rest := t.drop front.length
    let quotes := rest.takeWhile (· = '\'')
    let more := rest.drop quotes.length
    let first : Octets := '\'' :: front ++ "'"
    if quotes.isEmpty then first
    else
      let second : Octets := '"' :: quotes ++ "\""
      if more.isEmpty then first ++ second else first ++ second ++ shellQuoted fuel more

/-- A string in quotes that the shell reads back. -/
def inQuotes (t : Octets) : Octets :=
  shellQuoted (t.length + 1) t

end Shell

end FlowLens
