/-
  Built-in commands that set variables: `read`, `export`, `readonly`, `unset`, `local`
  and `shift`.
-/
import FlowLens.Shell.Builtin.Arguments

namespace FlowLens

namespace Shell

/-! ## Reading -/

/-- The bytes of a line, each marked if a backslash stood before it, how many bytes
    were used, and whether the line has an end. -/
def readLine (raw : Bool) : Octets → Marked × Nat × Bool
  | [] => ([], 0, false)
  | '\n' :: _ => ([], 1, true)
  | '\\' :: rest =>
    if raw then
      let (t, n, ended) := readLine raw rest
      (('\\', false) :: t, n + 1, ended)
    else
      match rest with
      | [] => ([], 1, false)
      | '\n' :: more =>
        let (t, n, ended) := readLine raw more
        (t, n + 2, ended)
      | c :: more =>
        let (t, n, ended) := readLine raw more
        ((c, true) :: t, n + 2, ended)
  | c :: rest =>
    let (t, n, ended) := readLine raw rest
    (if c = '\x00' then t else (c, false) :: t, n + 1, ended)

/-- Whether a byte of a line is a blank between fields. -/
def isGap (separators : Octets) (c : Char × Bool) : Bool :=
  !c.2 && separators.contains c.1 && (c.1 = ' ' || c.1 = '\t' || c.1 = '\n')

/-- Whether a byte of a line divides fields. -/
def isSeparator (separators : Octets) (c : Char × Bool) : Bool :=
  !c.2 && separators.contains c.1

/-- The first field of a line that starts with no blank, and what stands behind its
    end. -/
def takeField (separators : Octets) (t : Marked) : Marked × Marked :=
  let field := t.takeWhile (!isSeparator separators ·)
  let rest := (t.drop field.length).dropWhile (isGap separators)
  let rest : Marked :=
    match rest with
    | c :: more =>
      if isSeparator separators c then more.dropWhile (isGap separators) else rest
    | [] => []
  (field, rest)

/-- The fields of a line for some names; the last one takes all that is left. -/
def lineFields (separators : Octets) : Nat → Marked → List Octets
  | 0, _ => []
  | 1, t =>
    let (field, rest) := takeField separators t
    if rest.isEmpty then [Marked.bytes field]
    else [Marked.bytes (t.reverse.dropWhile (isGap separators)).reverse]
  | n + 1, t =>
    let (field, rest) := takeField separators t
    Marked.bytes field :: lineFields separators n rest

/-- Reads a line into variables. -/
def readVariables (args : List Octets) : Act Nat := do
  let (options, names) ← splitOptions "p:r" args
  if names.isEmpty then fail "arg count"
  let s ← get
  let (t, ended) ←
    match s.descriptors.lookup 0 with
    | none => pure ([], false)
    | some n =>
      match s.world.unread? n with
      | .error _ => pure ([], false)
      | .ok bytes =>
        let (t, used, ended) := readLine (options.any (·.1 = 'r')) bytes
        modifyWorld (·.consume n used)
        pure (t, ended)
  let separators := s.separators
  let values := lineFields separators names.length (t.dropWhile (isGap separators))
  (names.zip values).forM fun (name, value) => do
    checkName name
    assign name value
  return if ended then 0 else 1

/-! ## Variables -/

/-- A line for each variable of a kind. -/
def showVariables (front : Octets) (kind : Variable → Bool) : Act Unit := do
  let s ← get
  s.bindings.forM fun (name, v) =>
    if !kind v then pure ()
    else
      let lead : Octets := if front.isEmpty then [] else front ++ " "
      match v.value with
      | some value => put (lead ++ name ++ "=" ++ inQuotes value ++ "\n")
      | none => if front.isEmpty then pure () else put (lead ++ name ++ "\n")

/-- A name and the value behind its equals sign. -/
def nameAndValue (t : Octets) : Octets × Option Octets :=
  let name := t.takeWhile (· ≠ '=')
  match t.drop name.length with
  | _ :: value => (name, some value)
  | [] => (name, none)

/-- Changes how a variable is kept. -/
def modifyVariable (name : Octets) (f : Variable → Variable) : Act Unit :=
  modify fun s =>
    let old := (s.bindings.lookup name).getD ⟨none, false, false⟩
    { s with bindings := putVariable name (f old) s.bindings }

/-- Marks variables for programs, or as never to change. -/
def exportCommand (forever : Bool) (args : List Octets) : Act Nat := do
  let (options, words) ← splitOptions "p" args
  if words.isEmpty || !options.isEmpty then
    showVariables (if forever then "readonly" else "export")
      (fun v => if forever then v.readOnly else v.exported)
  else
    words.forM fun word => do
      let (name, value) := nameAndValue word
      checkName name
      if let some value := value then assign name value
      modifyVariable name fun v =>
        if forever then { v with readOnly := true } else { v with exported := true }
  return 0

/-- Takes variables or functions away. -/
def unsetCommand (args : List Octets) : Act Nat := do
  let (options, names) ← splitOptions "vf" args
  let functions := options.getLast?.any (·.1 = 'f')
  names.forM fun name => do
    if functions then modify fun s => { s with functions := s.functions.filter (·.1 ≠ name) }
    else
      checkName name
      unassign name
  return 0

/-- Keeps a variable as it is, to be put back later. -/
def keepVariable (name : Octets) : Act Unit :=
  modify fun s =>
    match s.locals with
    | frame :: rest =>
      if frame.any (·.1 = name) then s
      else { s with locals := ((name, s.bindings.lookup name) :: frame) :: rest }
    | [] => s

/-- Makes variables of a function. -/
def localCommand (args : List Octets) : Act Nat := do
  if (← get).locals.isEmpty then fail "not in a function"
  args.forM fun word => do
    if word = "-" then
      modify fun s =>
        match s.locals with
        | frame :: rest =>
          { s with locals := (("-", some ⟨some s.options, false, false⟩) :: frame) :: rest }
        | [] => s
    else
      let (name, value) := nameAndValue word
      checkName name
      keepVariable name
      if let some value := value then assign name value
  return 0

/-- Moves the positional parameters. -/
def shiftCommand (args : List Octets) : Act Nat := do
  let n ← match args with | t :: _ => numberOf t | [] => pure 1
  let s ← get
  if s.params.length < n then fail "can't shift that many"
  set { s with params := s.params.drop n, place := .start }
  return 0

end Shell

end FlowLens
