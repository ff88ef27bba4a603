/-
  The expansion of words: parameters, commands and arithmetic are replaced by what
  they stand for.

  * `expandFields` gives the fields of a word;
  * `expandWhole` gives a word as one string;
  * `expandPattern` gives a word as a pattern.

  How the output of a command is found is left to the caller.
-/
import FlowLens.Shell.Arithmetic
import FlowLens.Shell.Signals
import FlowLens.Shell.Field

namespace FlowLens

namespace Shell

/-- How the output of a command is found. -/
abbrev Capture := Option Command → Act Octets

/-- How a word is expanded. -/
structure Manner where
  /-- Whether it may come to more than one field. -/
  splits : Bool
  /-- Whether it stands in quotes. -/
  quoted : Bool
  /-- Whether its own bytes may be separators. -/
  loose : Bool

/-! ## Parameters -/

/-- The letters of the options in the order in which they are shown. -/
def shownOptions : List Char := "pubaCEVvxsnmiIfe"

/-- The value of a parameter that stands for one string. -/
def State.parameter? (s : State) (name : Octets) : Option Octets :=
  if name = "0" then some s.name
  else if name = "#" then some (Octets.ofNat s.params.length)
  else if name = "?" then some (Octets.ofNat s.status)
  else if name = "$" then some (Octets.ofNat s.leader)
  else if name = "!" then s.lastJob.map Octets.ofNat
  else if name = "-" then some (shownOptions.filter s.has)
  else if name.all Char.isDigit then
    let n := Octets.decimal name
    if n = 0 then some s.name else (s.params.drop (n - 1)).head?
  else s.value? name

/-- Whether a parameter stands for all positional ones. -/
def isAll (name : Octets) : Bool :=
  name = "@" || name = "*"

/-- What stands between the positional parameters in one string. -/
def State.joint (s : State) : Octets :=
  match s.value? "IFS" with
  | some separators => separators.take 1
  | none => " "

/-- The value of a parameter as one string. -/
def State.whole? (s : State) (name : Octets) : Option Octets :=
  if isAll name then some (Octets.joined s.joint s.params) else s.parameter? name

/-- What an expansion came to: pieces that are split if they are not quoted. -/
def Manner.result (m : Manner) (pieces : List Piece) : List Piece :=
  if m.quoted then pieces else .opened false :: (pieces ++ [.closed])

/-- A value as pieces. -/
def valuePieces (m : Manner) (t : Octets) : List Piece :=
  m.result (piecesOf m.quoted t)

/-- Positional parameters, cut apart. -/
def cutApart (quoted : Bool) : List Octets → List Piece
  | [] => []
  | [t] => piecesOf quoted t
  | t :: rest => piecesOf quoted t ++ .cut :: cutApart quoted rest

/-- Whether a parameter comes to as many fields as there are positional ones. -/
def Manner.separates (m : Manner) (name : Octets) : Bool :=
  m.splits && isAll name && (name = "@" || !m.quoted)

/-- The pieces of positional parameters that come to as many fields. -/
def State.separatePieces (s : State) (m : Manner) (params : List Octets) : List Piece :=
  if !m.quoted then m.result (cutApart false params)
  else if s.params.isEmpty then []
  else .opened true :: (cutApart true params ++ [.closed])

/-- The pieces of a parameter that is there. -/
def State.pieces (s : State) (m : Manner) (name value : Octets) : List Piece :=
  if m.separates name then s.separatePieces m s.params else valuePieces m value

/-- Positional parameters without what matches a pattern at the start.  All of them
    go if the longest match is all of the first one. -/
def trimAllStart (longest : Bool) (p : List Matcher) : List Octets → List Octets
  | [] => []
  | t :: rest => if longest && fits p t then [[]] else trimStart longest p t :: rest

/-- Positional parameters without what matches a pattern at the end of the last one
    that has a match, and without those behind it. -/
def trimLastEnd (p : List Matcher) : List Octets → Option (List Octets)
  | [] => none
  | t :: rest =>
    match trimLastEnd p rest with
    | some rest => some (t :: rest)
    | none =>
      let shorter := trimEnd false p t
      if shorter.length < t.length then some [shorter] else none

/-- Positional parameters without what matches a pattern at the end.  The longest
    match is looked for in the first one only, and ends them all. -/
def trimAllEnd (longest : Bool) (p : List Matcher) (params : List Octets) : List Octets :=
  match longest, params with
  | true, t :: rest =>
    let shorter := trimEnd true p t
    if fits p [] || shorter.length < t.length then [shorter] else t :: rest
  | false, params => if fits p [] then params else (trimLastEnd p params).getD params
  | _, [] => []

/-- The complaint that a parameter is missing. -/
def missing {α : Type} (name text : Octets) : Act α :=
  fail (name ++ ": " ++ text)

/-! ## Home directories -/

/-- The home directory that a name behind a tilde stands for. -/
def State.home? (s : State) (user : Octets) : Option Octets :=
  if user.isEmpty then s.value? "HOME"
  else if user = "root" then some "/root"
  else none

/-- A string whose tilde at the start is replaced by a home directory.  What is
    behind the name must be part of the string, unless the word ends with it. -/
def State.homeIn (s : State) (isEnd : Bool) (text : Octets) : Word :=
  match text with
  | '~' :: rest =>
    let user := rest.takeWhile (· ≠ '/')
    let after := rest.drop user.length
    match s.home? user, after.isEmpty && !isEnd with
    | some home, false => .single home :: (if after.isEmpty then [] else [.plain after])
    | _, _ => [.plain text]
  | text => [.plain text]

/-- A word whose tilde at the start is replaced by a home directory. -/
def State.withHome (s : State) (w : Word) : Word :=
  match w with
  | .plain text :: rest => s.homeIn rest.isEmpty text ++ rest
  | w => w

/-- Strings between colons, with their tildes replaced. -/
def State.homesIn (s : State) (isEnd : Bool) : List Octets → Word
  | [] => []
  | [text] => s.homeIn isEnd text
  | text :: rest => s.homeIn true text ++ .plain ":" :: s.homesIn isEnd rest

/-- A value that is assigned, whose tildes at the start and behind colons are
    replaced by home directories. -/
def State.withHomes (s : State) (atStart : Bool) : Word → Word
  | [] => []
  | .plain text :: rest =>
    let isEnd := rest.isEmpty
    let first : Word :=
      match Octets.splitAt ':' text with
      | [] => []
      | [only] => if atStart then s.homeIn isEnd only else [.plain only]
      | only :: more =>
        (if atStart then s.homeIn true only else [.plain only]) ++
          .plain ":" :: s.homesIn isEnd more
    first ++ s.withHomes (text.getLast? = some ':') rest
  | part :: rest => part :: s.withHomes false rest

/-! ## Words -/

/-- Output without the line feeds at its end and without NULs. -/
def captured (t : Octets) : Octets :=
  ((t.filter (· ≠ '\x00')).reverse.dropWhile (· = '\n')).reverse

/-- Whether quotes hold nothing but the positional parameters. -/
def isAllQuoted : List Part → Bool
  | [.parameter name .value] => name = "@"
  | _ => false

mutual

/-- The pieces that the parts of a word come to. -/
def expandParts (capture : Capture) : Nat → Manner → List Part → Act (List Piece)
  | 0, _, _ => return []
  | _ + 1, _, [] => return []
  | fuel + 1, m, part :: rest => do
    let pieces ← expandPart capture fuel m part
    return pieces ++ (← expandParts capture fuel m rest)

/-- The pieces that a part of a word comes to. -/
def expandPart (capture : Capture) : Nat → Manner → Part → Act (List Piece)
  | 0, _, _ => return []
  | fuel + 1, m, part => do
    match part with
    | .plain text =>
      let pieces := piecesOf m.quoted text
      return if m.loose && !text.isEmpty then m.result pieces else pieces
    | .escaped c => return [.byte c true]
    | .single text => return .mark :: (piecesOf true text ++ [.mark])
    | .double parts =>
      let pieces ← expandParts capture fuel { m with quoted := true } parts
      return if isAllQuoted parts && !m.quoted then pieces else .mark :: (pieces ++ [.mark])
    | .substitution script => return valuePieces m (captured (← capture script))
    | .arithmetic parts =>
      let pieces ← expandParts capture fuel ⟨false, true, false⟩ parts
      return valuePieces m (← calculate (bytesOf pieces))
    | .parameter name operation => expandParameter capture fuel m name operation

/-- What a division does whose result is no word: its signal ends the process.  A
    trap is no help, since the division is tried again behind it. -/
def failDivision {α : Type} : Act α := do
  match (← get).traps.lookup divisionSignal with
  | none => throw (.killed divisionSignal)
  | some [] => throw (.killed divisionSignal)
  | some _ => throw .endless

/-- The value of an arithmetic expression, with its assignments carried out. -/
def calculate (expression : Octets) : Act Octets := do
  let s ← get
  let isFixed (name : Octets) : Bool := (s.bindings.lookup name).any (·.readOnly)
  let (result, assigned) := evaluate s.value? isFixed expression
  assigned.forM fun (name, n) => assign name (Octets.ofInt n)
  match result with
  | .error .beyondWords => failDivision
  | .error fault => fail (fault.message expression)
  | .ok n => return Octets.ofInt n

/-- The pieces that a parameter comes to. -/
def expandParameter (capture : Capture) : Nat → Manner → Octets → Operation → Act (List Piece)
  | 0, _, _, _ => return []
  | fuel + 1, m, name, operation => do
    let s ← get
    let value := s.whole? name
    let isThere (orEmpty : Bool) : Bool :=
      match value with
      | some t => !(orEmpty && t.isEmpty)
      | none => false
    let needed : Act Octets :=
      match value with
      | some t => return t
      | none => if s.has 'u' && !isAll name then missing name "parameter not set" else return []
    let word (w : List Part) : Act (List Piece) :=
      expandParts capture fuel { m with loose := true } (if m.quoted then w else s.withHome w)
    let whole (w : List Part) : Act Octets := do
      let w := if m.quoted then w else s.withHome w
      return bytesOf (← expandParts capture fuel ⟨false, m.quoted, false⟩ w)
    match operation with
    | .invalid => fail "Bad substitution"
    | .value =>
      let t ← needed
      return if value.isSome then s.pieces m name t else []
    | .length =>
      let pieces := valuePieces m (Octets.ofNat (← needed).length)
      return if m.quoted && m.separates name && !s.params.isEmpty then
          .opened true :: (pieces ++ [.closed])
        else pieces
    | .orElse orEmpty w =>
      if isThere orEmpty then return s.pieces m name (value.getD []) else word w
    | .ifThere orEmpty w => if isThere orEmpty then word w else return m.result []
    | .orAssign orEmpty w =>
      if isThere orEmpty then return s.pieces m name (value.getD [])
      else
        let t ← whole w
        if !Octets.isName name then missing name "bad variable name"
        assign name t
        return valuePieces m t
    | .orFail orEmpty w =>
      if isThere orEmpty then return s.pieces m name (value.getD [])
      else if w.isEmpty then
        missing name (if orEmpty then "parameter not set or null" else "parameter not set")
      else missing name (← whole w)
    | .trimStart longest w =>
      let t ← needed
      if value.isNone then return []
      let p ← expandParts capture fuel ⟨false, false, false⟩ (s.withHome w)
      let pattern := (markedOf p).pattern
      if m.separates name then return s.separatePieces m (trimAllStart longest pattern s.params)
      else return valuePieces m (trimStart longest pattern t)
    | .trimEnd longest w =>
      let t ← needed
      if value.isNone then return []
      let p ← expandParts capture fuel ⟨false, false, false⟩ (s.withHome w)
      let pattern := (markedOf p).pattern
      if m.separates name then return s.separatePieces m (trimAllEnd longest pattern s.params)
      else return valuePieces m (trimEnd longest pattern t)

end

/-- More parts than a word has. -/
def partLimit : Nat := 100000

/-- The fields of a word. -/
def expandFields (capture : Capture) (w : Word) : Act (List Octets) := do
  let w := (← get).withHome w
  let pieces ← expandParts capture partLimit ⟨true, false, false⟩ w
  let s ← get
  return (split s.separators pieces).flatMap (matched s)

/-- A word as one string. -/
def expandWhole (capture : Capture) (w : Word) : Act Octets := do
  let w := (← get).withHome w
  return bytesOf (← expandParts capture partLimit ⟨false, false, false⟩ w)

/-- A value that is assigned. -/
def expandValue (capture : Capture) (w : Word) : Act Octets := do
  let w := (← get).withHomes true w
  return bytesOf (← expandParts capture partLimit ⟨false, false, false⟩ w)

/-- A word as a pattern. -/
def expandPattern (capture : Capture) (w : Word) : Act (List Matcher) := do
  let w := (← get).withHome w
  return (markedOf (← expandParts capture partLimit ⟨false, false, false⟩ w)).pattern

end Shell

end FlowLens
