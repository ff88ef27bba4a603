/-
  The programs that every machine has besides the shell: `cat` and `sleep`.
-/
import FlowLens.Shell.Format
import FlowLens.Shell.State

namespace FlowLens

namespace Shell

/-! ## Names in complaints -/

/-- Whether a byte can be shown. -/
def isShown (c : Char) : Bool :=
  32 ≤ c.toNat && c.toNat < 127

/-- Whether a byte is the same in all quotes. -/
def isHarmless (c : Char) : Bool :=
  c.isAlphanum || ("%+,-./:@]_" : Octets).contains c

/-- Whether a name has to be quoted, at least for this byte of it. -/
def needsQuotes (isFirst isOnly : Bool) (c : Char) : Bool :=
  if c = '\x7b' || c = '\x7d' then isOnly
  else if c = '#' || c = '~' then isFirst
  else !isShown c || (" !\"$&'()*;<=>?[\\^`|" : Octets).contains c

/-- The escape of a byte that cannot be shown. -/
def shownEscape (c : Char) : Octets :=
  match c with
  | '\x07' => "\\a"
  | '\x08' => "\\b"
  | '\t' => "\\t"
  | '\n' => "\\n"
  | '\x0b' => "\\v"
  | '\x0c' => "\\f"
  | '\r' => "\\r"
  | c =>
    let digits := Nat.toDigits 8 c.toNat
    '\\' :: zeroes (3 - digits.length) ++ digits

/-- The rest of a name in single quotes; `escaping` holds inside an escape. -/
def singleQuoted : Bool → Octets → Octets
  | _, [] => "'"
  | escaping, c :: rest =>
    if isShown c then
      let front : Octets := if escaping then "''" else []
      let shown : Octets := if c = '\'' then "'\\''" else [c]
      front ++ shown ++ singleQuoted false rest
    else
      let front : Octets := if escaping then [] else "'$'"
      front ++ shownEscape c ++ singleQuoted true rest

/-- A name of a file as a complaint shows it. -/
def quotedName (t : Octets) : Octets :=
  let needs :=
    match t with
    | [] => true
    | [c] => needsQuotes true true c
    | c :: rest => needsQuotes true false c || rest.any (needsQuotes false false)
  if !needs then t
  else if t.contains '\'' && t.all (fun c => c = ' ' || c = '\'' || isHarmless c) then
    '"' :: t ++ "\""
  else '\'' :: singleQuoted false t

/-! ## Options -/

/-- Words of a command sorted into options and operands. -/
structure Sorted where
  /-- The letters of the options. -/
  letters : List Char
  /-- The operands. -/
  operands : List Octets

/-- The options of a program: letters, and names with the letter that each stands
    for. -/
structure OptionTable where
  letters : List Char
  names : List (Octets × Char)

/-- The letter that a long option stands for; it may be cut short. -/
def OptionTable.letterOf (table : OptionTable) (word : Octets) : Except Octets Char :=
  let name := word.takeWhile (· ≠ '=')
  let hasValue := word.contains '='
  let allow (entry : Octets × Char) : Except Octets Char :=
    if hasValue then .error ("option '--" ++ entry.1 ++ "' doesn't allow an argument")
    else .ok entry.2
  match table.names.find? (·.1 = name) with
  | some entry => allow entry
  | none =>
    match table.names.filter (name.isPrefixOf ·.1) with
    | [] => .error ("unrecognized option '--" ++ word ++ "'")
    | [entry] => allow entry
    | entries =>
      let shown (entry : Octets × Char) : Octets := " '--" ++ entry.1 ++ "'"
      .error ("option '--" ++ word ++ "' is ambiguous; possibilities:" ++ entries.flatMap shown)

/-- Words sorted into options and operands. -/
def OptionTable.sort (table : OptionTable) : List Octets → Except Octets Sorted
  | [] => .ok ⟨[], []⟩
  | word :: rest =>
    if word = "--" then .ok ⟨[], rest⟩
    else
      match word with
      | '-' :: '-' :: name => do
        let letter ← table.letterOf name
        let sorted ← table.sort rest
        return { sorted with letters := letter :: sorted.letters }
      | '-' :: c :: more => do
        match (c :: more).find? (!table.letters.contains ·) with
        | some bad => .error ("invalid option -- '" ++ [bad] ++ "'")
        | none =>
          let sorted ← table.sort rest
          return { sorted with letters := c :: more ++ sorted.letters }
      | word => do
        let sorted ← table.sort rest
        return { sorted with operands := word :: sorted.operands }

/-- A complaint of a program. -/
def programComplaint (program text : Octets) : Act Unit :=
  discard (emit 2 (program ++ ": " ++ text ++ "\n"))

/-- The hint behind a complaint about how a program is called. -/
def usageHint (program : Octets) : Act Unit :=
  discard (emit 2 ("Try '" ++ program ++ " --help' for more information.\n"))

/-! ## Files one after the other -/

/-- The options of `cat`. -/
def catOptions : OptionTable :=
  ⟨"AbeEnstTuv",
    [("number-nonblank", 'b'), ("number", 'n'), ("squeeze-blank", 's'), ("show-nonprinting", 'v'),
      ("show-ends", 'E'), ("show-tabs", 'T'), ("show-all", 'A')]⟩

/-- How the bytes of files are shown. -/
structure Showing where
  number : Bool
  numberFilled : Bool
  squeeze : Bool
  ends : Bool
  tabs : Bool
  hidden : Bool

/-- How some options show bytes. -/
def Showing.ofLetters (letters : List Char) : Showing :=
  let has (cs : Octets) : Bool := letters.any cs.contains
  ⟨has "nb", has "b", has "s", has "AeE", has "AtT", has "Aetv"⟩

/-- Where in the lines of the output one is. -/
structure LinePlace where
  /-- The number of the last line. -/
  line : Nat
  /-- The empty lines just before, if a line starts here. -/
  empty : Option Nat

/-- The number in front of a line. -/
def lineNumber (n : Nat) : Octets :=
  let digits := Octets.ofNat n
  List.replicate (6 - digits.length) ' ' ++ digits ++ "\t"

/-- A byte below 128 as it is shown. -/
def shownLow (n : Nat) : Octets :=
  if n < 32 then ['^', Char.ofNat (n + 64)]
  else if n = 127 then "^?"
  else [Char.ofNat n]

/-- A byte inside a line as it is shown. -/
def Showing.byte (s : Showing) (c : Char) : Octets :=
  if c = '\t' then if s.tabs then "^I" else [c]
  else if !s.hidden then [c]
  else if c.toNat < 128 then shownLow c.toNat
  else "M-" ++ shownLow (c.toNat - 128)

/-- Bytes as they are shown, and where the lines are then. -/
def Showing.show (s : Showing) (place : LinePlace) : Octets → Octets × LinePlace
  | [] => ([], place)
  | '\n' :: rest =>
    let empty : Option Nat := place.empty.map fun n => min 2 (n + 1)
    if s.squeeze && empty = some 2 then s.show { place with empty } rest
    else
      let numbered := empty.isSome && s.number && !s.numberFilled
      let line := if numbered then place.line + 1 else place.line
      let (t, place) := s.show ⟨line, some (empty.getD 0)⟩ rest
      ((if numbered then lineNumber line else []) ++ (if s.ends then "$\n" else "\n") ++ t, place)
  | c :: rest =>
    let numbered := place.empty.isSome && s.number
    let line := if numbered then place.line + 1 else place.line
    let (t, after) := s.show ⟨line, none⟩ rest
    let shown : Octets := if c = '\r' && s.ends && rest.head? = some '\n' then "^M" else s.byte c
    ((if numbered then lineNumber line else []) ++ shown ++ t, after)

/-- Whether a channel would be written to its own file, behind what is left of it. -/
def State.copiesItself (s : State) (n : Nat) : Bool :=
  match s.world.channel? n, (s.descriptors.lookup 1).bind s.world.channel? with
  | some (.file parts offset _ _ _), some (.file target written _ _ appends) =>
    let written := if appends then (s.world.fileBytes target).length else written
    parts = target && offset < written
  | _, _ => false

/-- Writes what is left of a channel, and says where the lines are then. -/
def catChannel (program name : Octets) (showing : Option Showing) (place : LinePlace) (n : Nat) :
    Act (LinePlace × Bool) := do
  let s ← get
  let refuse (text : Octets) : Act (LinePlace × Bool) := do
    programComplaint program (quotedName name ++ ": " ++ text)
    return (place, false)
  if s.copiesItself n then refuse "input file is output file"
  else
    match s.world.unread? n with
    | .error r => refuse (Octets.ofText r.text)
    | .ok bytes =>
      modifyWorld (·.consume n bytes.length)
      match showing with
      | none => return (place, ← emit 1 bytes)
      | some showing =>
        let (shown, place) := showing.show place bytes
        return (place, ← emit 1 shown)

/-- Writes files one after the other. -/
def catFiles (program : Octets) (showing : Option Showing) : LinePlace → List Octets → Act Bool
  | _, [] => return true
  | place, name :: rest => do
    let s ← get
    let opened : Except Refusal (Nat × State) :=
      if name = "-" then
        match s.descriptors.lookup 0 with
        | some n => .ok (n, s)
        | none => .error .badDescriptor
      else
        match (deviceDescriptor? name).bind fun fd => s.descriptors.lookup fd with
        | some n => .ok (n, s)
        | none => do
          let channel ← s.openToRead name false
          let (n, world) := s.world.openChannel channel
          return (n, { s with world })
    let (place, ok) ←
      match opened with
      | .error r =>
        programComplaint program (quotedName name ++ ": " ++ Octets.ofText r.text)
        pure (place, false)
      | .ok (n, s) =>
        set s
        catChannel program name showing place n
    return (← catFiles program showing place rest) && ok

/-- Runs `cat` and gives its status. -/
def catProgram (program : Octets) (args : List Octets) : Act Nat := do
  match catOptions.sort args with
  | .error text =>
    programComplaint program text
    usageHint program
    return 1
  | .ok sorted =>
    if !(← get).descriptors.any (·.1 = 1) then
      programComplaint program "standard output: Bad file descriptor"
      return 1
    let letters := sorted.letters.filter (· ≠ 'u')
    let showing := if letters.isEmpty then none else some (Showing.ofLetters letters)
    let files : List Octets := if sorted.operands.isEmpty then ["-"] else sorted.operands
    let ok ← catFiles program showing ⟨0, some 0⟩ files
    if files.contains "-" && !(← get).descriptors.any (·.1 = 0) then
      programComplaint program "closing standard input: Bad file descriptor"
      return 1
    return if ok then 0 else 1

/-! ## Sleeping -/

/-- The seconds of a unit of time. -/
def unitSeconds? : Octets → Option Int
  | [] => some 1
  | ['s'] => some 1
  | ['m'] => some 60
  | ['h'] => some 3600
  | ['d'] => some 86400
  | _ => none

/-- The seconds that an operand asks for. -/
def interval? (t : Octets) : Option Double := do
  let x ← Numeral.leading? t
  let unit ← unitSeconds? x.rest
  if x.value = .nan || (x.negative && !x.value.isZero) then none
  else some (x.value.mul (.ofInt unit))

/-- Runs `sleep` and gives its status. -/
def sleepProgram (program : Octets) (args : List Octets) : Act Nat := do
  match (OptionTable.mk [] []).sort args with
  | .error text =>
    programComplaint program text
    usageHint program
    return 1
  | .ok sorted =>
    let bad := sorted.operands.filter fun t => (interval? t).isNone
    if sorted.operands.isEmpty then
      programComplaint program "missing operand"
      usageHint program
      return 1
    else if !bad.isEmpty then
      bad.forM fun t => programComplaint program ("invalid time interval '" ++ t ++ "'")
      usageHint program
      return 1
    else
      let total := (sorted.operands.filterMap interval?).foldl Double.add (.zero false)
      modifyWorld fun w => { w with clock := w.clock.add total }
      checkTime
      return 0

end Shell

end FlowLens
