/-
  Patterns of the shell, in which a quoted byte stands for itself.
-/
import FlowLens.Shell.Octets

namespace FlowLens

namespace Shell

/-- Bytes of which each is marked if it is quoted. -/
abbrev Marked := List (Char × Bool)

/-- The bytes without their marks. -/
def Marked.bytes (t : Marked) : Octets :=
  t.map (·.1)

/-- What a set of bytes holds. -/
inductive Member where
  /-- The bytes from one to another. -/
  | range (low high : Char)
  /-- The bytes of a class. -/
  | ofClass (name : Octets)
  deriving DecidableEq, Repr

/-- What matches at one place of a pattern. -/
inductive Matcher where
  /-- One byte. -/
  | exactly (c : Char)
  /-- Any byte. -/
  | anyOne
  /-- Any bytes. -/
  | anyRun
  /-- A byte of a set, or one outside it. -/
  | oneOf (inside : Bool) (members : List Member)
  deriving DecidableEq, Repr

/-- Whether a byte belongs to a class. -/
def isInClass (name : Octets) (c : Char) : Bool :=
  let isPrint := 32 ≤ c.toNat && c.toNat < 127
  if name = "alpha" then c.isAlpha
  else if name = "digit" then c.isDigit
  else if name = "alnum" then c.isAlphanum
  else if name = "upper" then c.isUpper
  else if name = "lower" then c.isLower
  else if name = "space" then Octets.isSpace c
  else if name = "blank" then c = ' ' || c = '\t'
  else if name = "punct" then isPrint && c ≠ ' ' && !c.isAlphanum
  else if name = "print" then isPrint
  else if name = "graph" then isPrint && c ≠ ' '
  else if name = "cntrl" then c.toNat < 32 || c.toNat = 127
  else if name = "xdigit" then Octets.digitValue c < 16
  else false

/-- Whether a byte is of a member. -/
def Member.holds (m : Member) (c : Char) : Bool :=
  match m with
  | range low high => low.toNat ≤ c.toNat && c.toNat ≤ high.toNat
  | ofClass name => isInClass name c

/-- The name of a class and what stands behind it, where one starts behind its
    bracket. -/
def className? (t : Marked) : Option (Octets × Marked) :=
  match t with
  | (':', false) :: rest =>
    let name := rest.takeWhile fun (c, _) => c.isAlpha
    match rest.drop name.length with
    | (':', _) :: (']', _) :: rest => some (Marked.bytes name, rest)
    | _ => none
  | _ => none

/-- The members of a set, and what stands behind its bracket. -/
def members? : Nat → Bool → Marked → Option (List Member × Marked)
  | 0, _, _ => none
  | _ + 1, _, [] => none
  | fuel + 1, isFirst, (c, quoted) :: rest =>
    if c = ']' && !quoted && !isFirst then some ([], rest)
    else
      match (if c = '[' && !quoted then className? rest else none) with
      | some (name, rest) => (members? fuel false rest).map fun (ms, t) => (.ofClass name :: ms, t)
      | none =>
        match rest with
        | ('-', false) :: (high, closes) :: more =>
          if high = ']' && !closes then
            (members? fuel false rest).map fun (ms, t) => (.range c c :: ms, t)
          else (members? fuel false more).map fun (ms, t) => (.range c high :: ms, t)
        | _ => (members? fuel false rest).map fun (ms, t) => (.range c c :: ms, t)

/-- The pattern that some bytes write. -/
def pattern : Nat → Marked → List Matcher
  | 0, _ => []
  | _ + 1, [] => []
  | fuel + 1, (c, quoted) :: rest =>
    if quoted then .exactly c :: pattern fuel rest
    else if c = '\\' then
      match rest with
      | (d, _) :: rest => .exactly d :: pattern fuel rest
      | [] => [.exactly c]
    else if c = '*' then .anyRun :: pattern fuel rest
    else if c = '?' then .anyOne :: pattern fuel rest
    else if c = '[' then
      let (inside, body) : Bool × Marked :=
        match rest with
        | ('!', false) :: body => (false, body)
        | _ => (true, rest)
      match members? (body.length + 1) true body with
      | some (ms, rest) => .oneOf inside ms :: pattern fuel rest
      | none => .exactly c :: pattern fuel rest
    else .exactly c :: pattern fuel rest

/-- The pattern that some bytes write. -/
def Marked.pattern (t : Marked) : List Matcher :=
  Shell.pattern (t.length + 1) t

/-- Whether a pattern holds more than bytes that stand for themselves. -/
def isProper (p : List Matcher) : Bool :=
  p.any fun m => match m with | .exactly _ => false | _ => true

/-- Whether a pattern matches all of a string. -/
def fits (p : List Matcher) (t : Octets) : Bool :=
  match p, t with
  | [], [] => true
  | [], _ :: _ => false
  | .anyRun :: p, [] => fits p []
  | .anyRun :: p, c :: t => fits p (c :: t) || fits (.anyRun :: p) t
  | _ :: _, [] => false
  | .exactly d :: p, c :: t => c = d && fits p t
  | .anyOne :: p, _ :: t => fits p t
  | .oneOf inside ms :: p, c :: t => (ms.any (·.holds c) == inside) && fits p t
termination_by (p.length + t.length, p.length)

/-- The lengths to try for a part of a string, the shortest first or last. -/
def lengths (longest : Bool) (n : Nat) : List Nat :=
  if longest then (List.range (n + 1)).reverse else List.range (n + 1)

/-- A string without the part at its start that matches. -/
def trimStart (longest : Bool) (p : List Matcher) (t : Octets) : Octets :=
  match (lengths longest t.length).find? fun n => fits p (t.take n) with
  | some n => t.drop n
  | none => t

/-- A string without the part at its end that matches. -/
def trimEnd (longest : Bool) (p : List Matcher) (t : Octets) : Octets :=
  match (lengths longest t.length).find? fun n => fits p (t.drop (t.length - n)) with
  | some n => t.take (t.length - n)
  | none => t

end Shell

end FlowLens
