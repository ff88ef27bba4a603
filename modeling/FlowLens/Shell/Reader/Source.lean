/-
  A place in a shell script: its bytes, the documents that are announced, and the
  contexts in which quotes and words end.

  * `Reader` is a place in a script.
-/
import FlowLens.Shell.Script

namespace FlowLens

namespace Shell

/-- What is wrong with a script, and the line where it is seen. -/
structure Complaint where
  /-- The line. -/
  line : Nat
  /-- The wording. -/
  text : Octets
  deriving DecidableEq, Repr

/-- A document that is announced but not read yet. -/
structure Pending where
  /-- Its number. -/
  number : Nat
  /-- The line that ends it. -/
  delimiter : Octets
  /-- Whether it is taken as it is. -/
  literal : Bool
  /-- Whether tabs at the start of its lines are left out. -/
  strip : Bool

/-- A lexical unit of a script. -/
inductive Lexeme where
  | endOfFile
  | newline
  /-- An operator or a keyword. -/
  | symbol (text : Octets)
  /-- A redirection without its target. -/
  | redirection (descriptor : Nat) (direction : Direction) (strip : Bool)
  | word (word : Word)

/-- What a complaint calls a lexical unit. -/
def Lexeme.name : Lexeme → Octets
  | endOfFile => "end of file"
  | newline => "newline"
  | symbol text => '"' :: text ++ "\""
  | redirection _ _ _ => "redirection"
  | word _ => "word"

/-- Whether a lexical unit is a certain symbol. -/
def Lexeme.is (l : Lexeme) (text : Octets) : Bool :=
  match l with
  | symbol t => t = text
  | _ => false

/-- Whether a lexical unit can only stand behind a list of commands. -/
def Lexeme.endsList : Lexeme → Bool
  | endOfFile => true
  | symbol text =>
    let ends : List Octets :=
      [")", ";;", "do", "done", "elif", "else", "esac", "fi", "then", "\x7d"]
    ends.contains text
  | _ => false

/-- The words that stand for themselves at the start of a command. -/
def keywords : List Octets :=
  ["!", "case", "do", "done", "elif", "else", "esac", "fi", "for", "if", "in", "then", "until",
    "while", "\x7b", "\x7d"]

/-- The commands that no function may hide. -/
def specialCommands : List Octets :=
  [".", ":", "break", "continue", "eval", "exec", "exit", "export", "local", "readonly", "return",
    "set", "shift", "times", "trap", "unset"]

/-- A place in a script. -/
structure Reader where
  /-- What is left to read. -/
  rest : Octets
  /-- The number of the line. -/
  line : Nat
  /-- A lexical unit that is read once more. -/
  back : Option Lexeme
  /-- The documents that are announced. -/
  pending : List Pending
  /-- The document that is read. -/
  within : Option Pending
  /-- The documents that are read. -/
  documents : List (Nat × Document)
  /-- The number of the next document. -/
  count : Nat
  /-- The words that stand for other text. -/
  aliases : List (Octets × Octets)
  /-- The aliases inside their own text, with what is left behind it. -/
  inUse : List (Octets × Nat)
  /-- What is left behind the texts of aliases that end in a blank: the word there may
      be an alias too. -/
  openEnds : List Nat
  /-- How long the rest was when tabs were last left out in front of it. -/
  untabbed : Nat

/-- The start of a script. -/
def Reader.start (script : Octets) (count : Nat) : Reader :=
  ⟨script, 1, none, [], none, [], count, [], [], [], 0⟩

/-- A step of reading. -/
abbrev Read := StateT Reader (Except Complaint)

/-- A complaint about the place that is read. -/
def mistake {α : Type} (text : Octets) : Read α := do
  throw ⟨(← get).line, "Syntax error: " ++ text⟩

/-- A complaint about a lexical unit. -/
def unexpected {α : Type} (l : Lexeme) (expected : Option Octets) : Read α :=
  match expected with
  | some text => mistake (l.name ++ " unexpected (expecting " ++ text ++ ")")
  | none => mistake (l.name ++ " unexpected")

/-! ## Bytes -/

/-- Steps over some bytes. -/
def advance (n : Nat) : Read Unit :=
  modify fun r => { r with rest := r.rest.drop n, line := r.line + (r.rest.take n).count '\n' }

/-- The lines that are joined at the start of some bytes, and the rest. -/
def joins : Octets → Nat × Octets
  | '\\' :: '\n' :: rest =>
    let (n, rest) := joins rest
    (n + 1, rest)
  | rest => (0, rest)

/-- The next byte, behind joined lines. -/
def peek : Read (Option Char) :=
  modifyGet fun r =>
    let (n, rest) := joins r.rest
    (rest.head?, { r with rest, line := r.line + n })

/-- Steps over the next byte if it is a certain one. -/
def accept (c : Char) : Read Bool := do
  if (← peek) = some c then
    advance 1
    return true
  else return false

/-- Steps over the longest run of bytes of a kind. -/
def run (p : Char → Bool) : Read Octets := do
  let taken := (← get).rest.takeWhile p
  advance taken.length
  return taken

/-- Steps over the longest run of bytes of a kind, over joined lines. -/
def runOverLines (p : Char → Bool) : Nat → Read Octets
  | 0 => return []
  | fuel + 1 => do
    discard peek
    let taken ← run p
    if taken.isEmpty then return [] else return taken ++ (← runOverLines p fuel)

/-- What is left behind blanks, joined lines and a comment, and the lines in it. -/
def skipBlanks : Nat → Octets → Nat × Octets
  | 0, t => (0, t)
  | _ + 1, [] => (0, [])
  | fuel + 1, c :: rest =>
    if c = ' ' || c = '\t' then skipBlanks fuel rest
    else if c = '#' then (0, rest.dropWhile (· ≠ '\n'))
    else
      match joins (c :: rest) with
      | (0, t) => (0, t)
      | (n, t) =>
        let (m, t) := skipBlanks fuel t
        (n + m, t)

/-- What surrounds a run of pieces. -/
inductive Context where
  /-- Nothing: it is a word. -/
  | word
  /-- Double quotes. -/
  | double
  /-- The braces of a parameter, which may themselves be quoted. -/
  | brace (quoted : Bool)
  /-- A document. -/
  | document
  /-- The parentheses of an arithmetic expression. -/
  | arithmetic
  deriving DecidableEq

/-- Whether what stands in a context is quoted. -/
def Context.isQuoted : Context → Bool
  | word => false
  | brace quoted => quoted
  | _ => true

/-- Whether a byte is no more than itself in a context. -/
def Context.isPlain (ctx : Context) (c : Char) : Bool :=
  c ≠ '\\' && c ≠ '$' && c ≠ '\x60' &&
    match ctx with
    | word => !(" \t\n;&|<>()'\"" : Octets).contains c
    | double => c ≠ '"'
    | brace quoted => c ≠ '"' && c ≠ '\x7d' && (quoted || c ≠ '\'')
    | document => true
    | arithmetic => c ≠ '(' && c ≠ ')'

/-- Whether a byte ends the pieces of a context. -/
def Context.endsAt (ctx : Context) (c : Char) : Bool :=
  match ctx with
  | word => (" \t\n;&|<>()" : Octets).contains c
  | double => c = '"'
  | brace _ => c = '\x7d'
  | document => false
  | arithmetic => c = ')'

/-- What is missing where a context has no end.  In a document that is never a quote. -/
def Context.missing (inDocument : Bool) : Context → Octets
  | arithmetic => "Missing '))'"
  | brace quoted =>
    if quoted && !inDocument then "Unterminated quoted string" else "Missing '\x7d'"
  | _ => if inDocument then "Missing '\x7d'" else "Unterminated quoted string"

/-- Whether a backslash takes the meaning of a byte away in quotes. -/
def Context.escapes (ctx : Context) (c : Char) : Bool :=
  c = '\\' || c = '$' || c = '\x60' ||
    match ctx with
    | brace _ => c = '"' || c = '\x7d'
    | document => false
    | _ => c = '"'

/-- The parameters whose names are no names. -/
def isSpecialName (c : Char) : Bool :=
  ("@*#?-$!" : Octets).contains c

/-- The text between backquotes, with its backslashes worked out, and the rest
    behind them. -/
def backquoted (quoted : Bool) : Octets → Option (Octets × Octets)
  | [] => none
  | '\x60' :: rest => some ([], rest)
  | '\\' :: '\n' :: rest => backquoted quoted rest
  | '\\' :: c :: rest =>
    (backquoted quoted rest).map fun (t, rest) =>
      if c = '\\' || c = '\x60' || c = '$' || (quoted && c = '"') then (c :: t, rest)
      else ('\\' :: c :: t, rest)
  | c :: rest => (backquoted quoted rest).map fun (t, rest) => (c :: t, rest)

/-! ## Documents -/

/-- A line without tabs at its start, if they are left out. -/
def stripped (strip : Bool) (line : Octets) : Octets :=
  if strip then line.dropWhile (· = '\t') else line

/-- The text of a document that is taken as it is, its lines and the rest behind the
    line that ends it. -/
def takeLiteral (p : Pending) : Nat → Octets → Octets × Nat × Octets
  | 0, t => ([], 0, t)
  | _ + 1, [] => ([], 0, [])
  | fuel + 1, t =>
    let line := t.takeWhile (· ≠ '\n')
    let rest := t.drop line.length
    let shown := stripped p.strip line
    if shown = p.delimiter then ([], (if rest.isEmpty then 0 else 1), rest.drop 1)
    else if rest.isEmpty then (shown, 0, [])
    else
      let (body, n, rest) := takeLiteral p fuel (rest.drop 1)
      (shown ++ '\n' :: body, n + 1, rest)

/-- Starts a line of a document, and says whether it is the one that ends it.  That
    line is stepped over. -/
def startLine (p : Pending) : Read Bool := do
  discard peek
  let r ← get
  let rest := stripped p.strip r.rest
  let line := rest.takeWhile (· ≠ '\n')
  set { r with rest, untabbed := if rest.length < r.rest.length then rest.length else r.untabbed }
  if line = p.delimiter && !rest.isEmpty then
    advance (line.length + 1)
    return true
  else return false

/-- The bytes of a word that ends a document. -/
def delimiterOf : Word → Octets
  | [] => []
  | .plain text :: rest => text ++ delimiterOf rest
  | .escaped c :: rest => c :: delimiterOf rest
  | .single text :: rest => text ++ delimiterOf rest
  | .double parts :: rest => delimiterOf parts ++ delimiterOf rest
  | .parameter name _ :: rest => '$' :: name ++ delimiterOf rest
  | _ :: rest => delimiterOf rest

/-- Whether a word has no quotes. -/
def isUnquoted (w : Word) : Bool :=
  w.all fun part =>
    match part with
    | .escaped _ => false
    | .single _ => false
    | .double _ => false
    | _ => true

end Shell

end FlowLens
