/-
  The options of the shell, the modes of new files, and aliases: `set`, `getopts`,
  `umask`, `alias` and `unalias`.
-/
import FlowLens.Shell.Builtin.Variables
import FlowLens.Shell.Format

namespace FlowLens

namespace Shell

/-! ## Options of the shell -/

/-- The options of the shell with their letters.  The last two have letters that
    cannot be given. -/
def shellOptions : List (Octets × Char) :=
  [("errexit", 'e'), ("noglob", 'f'), ("ignoreeof", 'I'), ("interactive", 'i'), ("monitor", 'm'),
    ("noexec", 'n'), ("stdin", 's'), ("xtrace", 'x'), ("verbose", 'v'), ("vi", 'V'), ("emacs", 'E'),
    ("noclobber", 'C'), ("allexport", 'a'), ("notify", 'b'), ("nounset", 'u'), ("privileged", 'p'),
    ("nolog", 'L'), ("debug", 'D')]

/-- Does without job control, for which there is no terminal. -/
def refuseJobControl : Act Unit := do
  complain "can't access tty; job control turned off"

/-- Turns an option on or off, and some others off. -/
def turnWithout (others : List Char) (on : Bool) (letter : Char) : Act Unit :=
  if on && letter = 'm' then refuseJobControl
  else
    modify fun s =>
      let rest := s.options.filter fun c => c ≠ letter && !(on && others.contains c)
      { s with options := if on then letter :: rest else rest }

/-- Turns an option on or off by its letter.  Of the two editors only one is on. -/
def turn (on : Bool) (letter : Char) : Act Unit :=
  if shownOptions.contains letter then
    turnWithout (if letter = 'V' then ['E'] else if letter = 'E' then ['V'] else []) on letter
  else fail ("Illegal option -" ++ [letter])

/-- Turns an option on or off by its name. -/
def turnNamed (on : Bool) (name : Octets) : Act Unit :=
  match shellOptions.find? (·.1 = name) with
  | some (_, letter) => turnWithout [] on letter
  | none => fail ("Illegal option -o " ++ name)

/-- Shows the options.  All of them are shown as on at the start of a shell. -/
def showOptions (starting asTable : Bool) : Act Unit := do
  let s ← get
  let isOn (letter : Char) : Bool := starting || s.has letter
  if asTable then put "Current option settings\n"
  shellOptions.forM fun (name, letter) =>
    if asTable then
      put (name ++ List.replicate (16 - name.length) ' '
        ++ (if isOn letter then "on\n" else "off\n"))
    else
      put ((if isOn letter then ("set -o " : Octets) else "set +o ") ++ name ++ "\n")

/-- Turns options on or off by their letters, and gives the words that are left.
    Each `o` takes the name of an option from these. -/
def turnLetters (starting on : Bool) : Octets → List Octets → Act (List Octets)
  | [], words => return words
  | c :: letters, words => do
    if c = 'o' then
      match words with
      | name :: rest =>
        turnNamed on name
        turnLetters starting on letters rest
      | [] =>
        showOptions starting on
        turnLetters starting on letters []
    else
      if !((c = 'c' || c = 'l') && starting) then turn on c
      turnLetters starting on letters words

/-- Reads the options in front of some words, and gives what is left and whether a
    script is asked for. -/
def readOptions (starting : Bool) : Nat → List Octets → Act (Option (List Octets) × Bool)
  | 0, args => return (some args, false)
  | _ + 1, [] => return (none, false)
  | fuel + 1, arg :: rest => do
    let body (on : Bool) (letters : Octets) : Act (Option (List Octets) × Bool) := do
      let wantsScript := starting && letters.contains 'c'
      let words ← turnLetters starting on letters rest
      let (left, more) ← readOptions starting fuel words
      return (left, wantsScript || more)
    match arg with
    | ['-'] =>
      if !starting then
        modify fun s => { s with options := s.options.filter fun c => c ≠ 'x' && c ≠ 'v' }
      return (if rest.isEmpty then none else some rest, false)
    | ['-', '-'] => return (if rest.isEmpty && starting then none else some rest, false)
    | '-' :: letters => body true letters
    | '+' :: letters => body false letters
    | _ => return (some (arg :: rest), false)

/-- Sets options and positional parameters, or shows the variables. -/
def setCommand (args : List Octets) : Act Nat := do
  if args.isEmpty then showVariables [] fun v => v.value.isSome
  else
    match ← readOptions false (args.length + 1) args with
    | (some params, _) => modify fun s => { s with params, place := .start }
    | (none, _) => pure ()
  return 0

/-- What stands behind a letter in the letters of a script's options.  A letter may
    have a colon behind it. -/
def behindLetter? (c : Char) : Octets → Option Octets
  | [] => none
  | d :: ':' :: rest => if d = c then some (':' :: rest) else behindLetter? c rest
  | d :: rest => if d = c then some rest else behindLetter? c rest

/-- Reads the options of a script.  If what is read cannot be kept, the next reading
    starts over. -/
def getoptsCommand (args : List Octets) : Act Nat := do
  match args with
  | letters :: name :: given =>
    let s ← get
    let words := if given.isEmpty then s.params else given
    let place : OptionPlace := if words.length + 1 < s.place.index then .start else s.place
    let inside : Octets :=
      match place.offset with
      | some n => if place.index ≤ 1 then [] else ((words.drop (place.index - 2)).headD []).drop n
      | none => []
    let quiet := letters.head? = some ':'
    let finish (place : OptionPlace) (c : Char) (status : Nat) : Act Nat := do
      assign "OPTIND" (Octets.ofNat place.index)
      modify fun s => { s with place := .start }
      checkName name
      assign name [c]
      modify fun s => { s with place }
      return status
    let lacks (place : OptionPlace) (c : Char) (text : Octets) (mark : Char) : Act Nat := do
      if quiet then
        assign "OPTARG" [c]
        finish place mark 0
      else
        discard (emit 2 (text ++ [c] ++ (if mark = ':' then " option\n" else "\n")))
        unassign "OPTARG"
        finish place '?' 0
    let next : Nat × Octets :=
      if !inside.isEmpty then (place.index, inside)
      else
        match (words.drop (place.index - 1)).head? with
        | some ('-' :: c :: more) =>
          (place.index + 1, if c = '-' && more.isEmpty then [] else c :: more)
        | _ => (place.index, [])
    modify fun s => { s with place := .start }
    match next with
    | (index, []) => finish ⟨index, none⟩ '?' 1
    | (index, c :: more) =>
      let word := (words.drop (index - 2)).headD []
      let onward : OptionPlace := ⟨index, some (word.length - more.length)⟩
      match behindLetter? c letters with
      | none => lacks onward c "Illegal option -" '?'
      | some (':' :: _) =>
        if !more.isEmpty then
          assign "OPTARG" more
          finish ⟨index, none⟩ c 0
        else
          match (words.drop (index - 1)).head? with
          | some value =>
            assign "OPTARG" value
            finish ⟨index + 1, none⟩ c 0
          | none => lacks ⟨index, none⟩ c "No arg for -" ':'
      | some _ =>
        assign "OPTARG" []
        finish onward c 0
  | _ => fail "Usage: getopts optstring var [arg...]"

/-! ## Modes of new files -/

/-- The bits that a class of users has in a mode. -/
def classBits (users : Char) : Nat :=
  if users = 'u' then 448 else if users = 'g' then 56 else if users = 'o' then 7 else 511

/-- The bits of a permission. -/
def permissionBits (c : Char) : Nat :=
  if c = 'r' then 292 else if c = 'w' then 146 else if c = 'x' then 73 else 0

/-- A mode changed by one clause. -/
def clause? (mode : Nat) (t : Octets) : Option Nat :=
  let who := t.takeWhile ("ugoa" : Octets).contains
  let users := if who.isEmpty then 511 else who.foldl (fun n c => n ||| classBits c) 0
  match t.drop who.length with
  | op :: permissions =>
    if !("=+-" : Octets).contains op || !permissions.all ("rwx" : Octets).contains then none
    else
      let bits := (permissions.foldl (fun n c => n ||| permissionBits c) 0) &&& users
      some (if op = '=' then (mode &&& (511 ^^^ users)) ||| bits
        else if op = '+' then mode ||| bits
        else mode &&& (511 ^^^ bits))
  | [] => none

/-- The letters of three bits. -/
def permissionLetters (bits : Nat) : Octets :=
  (if bits &&& 4 ≠ 0 then ("r" : Octets) else []) ++
    (if bits &&& 2 ≠ 0 then ("w" : Octets) else []) ++
    (if bits &&& 1 ≠ 0 then ("x" : Octets) else [])

/-- Shows or sets the bits that files are made without. -/
def umaskCommand (args : List Octets) : Act Nat := do
  let (options, operands) ← splitOptions "S" args
  let s ← get
  match operands with
  | [] =>
    let mode := 511 ^^^ (s.mask &&& 511)
    if options.isEmpty then
      let digits := Nat.toDigits 8 s.mask
      put (zeroes (4 - digits.length) ++ digits ++ "\n")
    else
      put ("u=" ++ permissionLetters (mode / 64) ++ ",g=" ++ permissionLetters (mode / 8 % 8) ++
        ",o=" ++
        permissionLetters (mode % 8) ++ "\n")
  | t :: _ =>
    if t.head?.any Char.isDigit then
      if !t.all fun c => '0' ≤ c && c ≤ '7' then fail ("Illegal number: " ++ t)
      set { s with mask := Octets.ofDigitsIn 8 t &&& 511 }
    else
      match (Octets.splitAt ',' t).foldlM clause? (511 ^^^ (s.mask &&& 511)) with
      | some mode => set { s with mask := 511 ^^^ mode }
      | none => fail ("Illegal mode: " ++ t)
  return 0

/-! ## Aliases -/

/-- Makes or shows aliases. -/
def aliasCommand (args : List Octets) : Act Nat := do
  let s ← get
  let shown (entry : Octets × Octets) : Octets := entry.1 ++ "=" ++ inQuotes entry.2 ++ "\n"
  if args.isEmpty then
    (s.aliases.mergeSort fun a b => !Octets.before b.1 a.1).forM fun entry => put (shown entry)
    return 0
  else
    args.foldlM
      (fun status word => do
        match nameAndValue word with
        | ([], _) => return status
        | (name, some value) =>
          modify fun s => { s with aliases := (name, value) :: s.aliases.filter (·.1 ≠ name) }
          return status
        | (name, none) =>
          match (← get).aliases.lookup name with
          | some value =>
            put (shown (name, value))
            return status
          | none =>
            discard (emit 2 ("alias: " ++ name ++ " not found\n"))
            return 1)
      0

/-- Takes aliases away. -/
def unaliasCommand (args : List Octets) : Act Nat := do
  let (options, names) ← splitOptions "a" args
  if !options.isEmpty then
    modify fun s => { s with aliases := [] }
    return 0
  else
    names.foldlM
      (fun status name => do
        let s ← get
        if s.aliases.any (·.1 = name) then
          set { s with aliases := s.aliases.filter (·.1 ≠ name) }
          return status
        else
          discard (emit 2 ("unalias: " ++ name ++ " not found\n"))
          return 1)
      0

end Shell

end FlowLens
