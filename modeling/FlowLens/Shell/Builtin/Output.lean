/-
  Built-in commands that write their arguments or look at them: `echo`, `printf` and
  `test`.
-/
import FlowLens.Shell.Builtin.Arguments
import FlowLens.Shell.Check
import FlowLens.Shell.Format

namespace FlowLens

namespace Shell

/-! ## Output -/

/-- The words of an echo, up to an escape that ends them. -/
def echoed : List Octets → Octets × Bool
  | [] => ([], false)
  | [word] => unescaped (word.length + 1) word
  | word :: rest =>
    match unescaped (word.length + 1) word with
    | (t, true) => (t, true)
    | (t, false) =>
      let (more, ended) := echoed rest
      (t ++ ' ' :: more, ended)

/-- Writes words. -/
def echoCommand (args : List Octets) : Act Nat := do
  let (quiet, words) : Bool × List Octets :=
    match args with
    | first :: rest => if first = "-n" then (true, rest) else (false, args)
    | [] => (false, [])
  let (t, ended) := echoed words
  put (if quiet || ended then t else t ++ "\n")
  return 0

/-- Writes a format. -/
def printfCommand (args : List Octets) : Act Nat := do
  let (_, operands) ← splitOptions [] args
  match operands with
  | [] => fail "usage: printf format [arg ...]"
  | format :: args =>
    let p := Printing.run format args
    put p.output
    p.complaints.forM complain
    match p.failure with
    | some text => fail text
    | none => return if p.complaints.isEmpty then 0 else 1

/-! ## Conditions -/

/-- Whether an operator holds of a file. -/
def State.fileHolds (s : State) (operator path : Octets) : Bool :=
  if operator = "-h" || operator = "-L" then
    match s.world.tree.lookAt s.cwd path.toText with
    | .ok (.link _) => true
    | _ => false
  else
    match s.nodeAt path with
    | .error _ => false
    | .ok node =>
      if operator = "-f" then match node with | .file _ _ | .sealed _ => true | _ => false
      else if operator = "-d" then node.isDirectory
      else if operator = "-c" then node = .device
      else if operator = "-x" then
        match node with
        | .file _ executable => executable
        | .dir => true
        | _ => false
      else if operator = "-s" then
        match node with
        | .file bytes _ | .sealed bytes => !bytes.isEmpty
        | node => node.isDirectory
      else if operator = "-r" || operator = "-w" then
        match node with | .sealed _ => false | _ => true
      else (["-e", "-O", "-G"] : List Octets).contains operator

/-- Whether two paths name one file. -/
def State.sameFile (s : State) (a b : Octets) : Bool :=
  match s.world.tree.partsOf true s.cwd a.toText, s.world.tree.partsOf true s.cwd b.toText with
  | .ok p, .ok q => p = q
  | _, _ => false

/-- A condition. -/
def testCommand (bracketed : Bool) (args : List Octets) : Act Nat := do
  let s ← get
  if bracketed && !(args.getLast?.any (·.head? = some ']')) then fail "missing ]"
  let words := if bracketed then args.dropLast else args
  match checkWords ⟨s.fileHolds, s.sameFile⟩ false words with
  | .ok true => return 0
  | .ok false => return 1
  | .error text => fail text

end Shell

end FlowLens
