/-
  Reading a TOML text, statement by statement: a statement sets a key, or opens
  a table, or opens one more table of a list.

  * `readValue` reads a value, lists and tables within a line included;
  * `read` reads a whole text.
-/
import FlowLens.Toml.Draft

namespace FlowLens

namespace Toml

/-- The text behind a comment at the front, if there is one. -/
def skipComment (t : Text) : Except ReadError Text :=
  match t with
  | .char '#' :: rest =>
    let (comment, rest) := rest.span (· ≠ .char '\n')
    if comment.any isIllegal then refuse else .ok rest
  | _ => .ok t

/-- The text behind blanks, line ends and comments. -/
def skipLines : Nat → Text → Except ReadError Text
  | 0, t => .ok t
  | fuel + 1, t =>
    match t.dropWhile isGapOrLine with
    | .char '#' :: rest => do skipLines fuel (← skipComment (.char '#' :: rest))
    | rest => .ok rest

/-! ## Keys -/

/-- Whether a code point may stand in a name without quotes. -/
def isBare (c : CodePoint) : Bool :=
  let n := c.val
  (0x61 ≤ n && n ≤ 0x7A) || (0x41 ≤ n && n ≤ 0x5A) || (0x30 ≤ n && n ≤ 0x39) ||
    c = .char '-' || c = .char '_'

/-- One name of a key. -/
def readName (t : Text) : Except ReadError (Text × Text) :=
  match t with
  | .char '\'' :: rest => readLiteral rest
  | .char '"' :: rest => readBasic false (rest.length + 1) rest
  | _ =>
    match t.span isBare with
    | ([], _) => refuse
    | (name, rest) => .ok (name, rest)

/-- A key: names divided by dots, with blanks around each. -/
def readKey : Nat → Text → Except ReadError (Key × Text)
  | 0, _ => refuse
  | fuel + 1, t => do
    let (name, rest) ← readName t
    match skipGap rest with
    | .char '.' :: rest => (readKey fuel (skipGap rest)).map fun (key, r) => (name :: key, r)
    | rest => .ok ([name], rest)

/-- A key and the equals sign behind it. -/
def readAssigned (t : Text) : Except ReadError (Key × Text) := do
  match ← readKey (t.length + 1) t with
  | (key, .char '=' :: rest) => .ok (key, skipGap rest)
  | _ => refuse

/-! ## Values -/

mutual

/-- A value at the front.  The first argument bounds the depth of the reading;
    the length of the text is enough. -/
def readValue : Nat → Text → Except ReadError (Value × Text)
  | 0, _ => refuse
  | fuel + 1, t =>
    match readString? t with
    | some r => r.map fun (s, rest) => (.str s, rest)
    | none =>
      match t with
      | .char '[' :: rest => do
        match ← skipLines (rest.length + 1) rest with
        | .char ']' :: rest => .ok (.arr [], rest)
        | rest => (readItems fuel rest).map fun (items, r) => (.arr items, r)
      | .char '\x7b' :: rest =>
        match skipGap rest with
        | .char '\x7d' :: rest => .ok (.obj [], rest)
        | rest => (readInline fuel .empty rest).map fun (d, r) => (.obj d.members, r)
      | _ => readAtom t

/-- The items of a list up to its closing bracket, before which a comma may
    stand. -/
def readItems : Nat → Text → Except ReadError (List Value × Text)
  | 0, _ => refuse
  | fuel + 1, t => do
    let (v, rest) ← readValue fuel t
    match ← skipLines (rest.length + 1) rest with
    | .char ']' :: rest => .ok ([v], rest)
    | .char ',' :: rest =>
      match ← skipLines (rest.length + 1) rest with
      | .char ']' :: rest => .ok ([v], rest)
      | rest => (readItems fuel rest).map fun (items, r) => (v :: items, r)
    | _ => refuse

/-- The keys of a table within a line up to its closing bracket. -/
def readInline : Nat → Draft → Text → Except ReadError (Draft × Text)
  | 0, _, _ => refuse
  | fuel + 1, d, t => do
    let (key, rest) ← readAssigned t
    let (v, rest) ← readValue fuel rest
    match d.assignInline key v with
    | none => refuse
    | some d =>
      match skipGap rest with
      | .char '\x7d' :: rest => .ok (d, rest)
      | .char ',' :: rest => readInline fuel d (skipGap rest)
      | _ => refuse

end

/-! ## Statements -/

/-- The draft behind a header, whose first bracket is read. -/
def readHeader (d : Draft) (t : Text) : Except ReadError (Draft × Text) :=
  match t with
  | .char '[' :: rest => do
    match ← readKey (rest.length + 1) (skipGap rest) with
    | (key, .char ']' :: .char ']' :: rest) =>
      match d.openItem key with
      | some d => .ok (d, rest)
      | none => refuse
    | _ => refuse
  | _ => do
    match ← readKey (t.length + 1) (skipGap t) with
    | (key, .char ']' :: rest) =>
      match d.openTable key with
      | some d => .ok (d, rest)
      | none => refuse
    | _ => refuse

/-- The draft behind a key and its value. -/
def readAssignment (d : Draft) (t : Text) : Except ReadError (Draft × Text) := do
  let (key, rest) ← readAssigned t
  let (v, rest) ← readValue (rest.length + 1) rest
  match d.assign key v with
  | some d => .ok (d, rest)
  | none => refuse

/-- Whether a code point may start a key. -/
def startsKey (c : CodePoint) : Bool :=
  isBare c || c = .char '"' || c = .char '\''

/-- The draft behind a statement at the front, or before a comment. -/
def readStatement (d : Draft) (t : Text) : Except ReadError (Draft × Text) :=
  match t with
  | .char '[' :: rest => readHeader d rest
  | .char '#' :: _ => .ok (d, t)
  | c :: _ => if startsKey c then readAssignment d t else refuse
  | [] => .ok (d, [])

/-- The draft at the end of the text. -/
def readStatements : Nat → Draft → Text → Except ReadError Draft
  | 0, d, _ => .ok d
  | fuel + 1, d, t =>
    match skipGap t with
    | [] => .ok d
    | .char '\n' :: rest => readStatements fuel d rest
    | t => do
      let (d, rest) ← readStatement d t
      match ← skipComment (skipGap rest) with
      | [] => .ok d
      | .char '\n' :: rest => readStatements fuel d rest
      | _ => refuse

/-- The text with a line feed for each carriage return that stands before one. -/
def joinLineEnds : Text → Text
  | [] => []
  | .char '\r' :: .char '\n' :: rest => .char '\n' :: joinLineEnds rest
  | c :: rest => c :: joinLineEnds rest

/-- The members of a whole text. -/
def read (t : Text) : Except ReadError Members := do
  let t := joinLineEnds t
  let d ← readStatements (t.length + 1) .empty t
  return d.members

end Toml

end FlowLens
