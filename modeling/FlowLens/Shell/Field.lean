/-
  Fields: what an expanded word comes to once it is split at separators and its
  patterns are replaced by the files that match.
-/
import FlowLens.Shell.Pattern
import FlowLens.Shell.State

namespace FlowLens

namespace Shell

/-- A piece of an expanded word. -/
inductive Piece where
  /-- A byte, with a mark if it is quoted. -/
  | byte (c : Char) (quoted : Bool)
  /-- A place where quotes start or end, so that there is a field. -/
  | mark
  /-- The end of a positional parameter. -/
  | cut
  /-- The start of what an expansion came to.  It is split at separators, or only
      where positional parameters end. -/
  | opened (onlyCuts : Bool)
  /-- The end of what an expansion came to. -/
  | closed
  deriving DecidableEq, Repr

/-- Bytes, quoted or not. -/
def piecesOf (quoted : Bool) (t : Octets) : List Piece :=
  t.map fun c => .byte c quoted

/-- The bytes of pieces. -/
def bytesOf (pieces : List Piece) : Octets :=
  pieces.filterMap fun p => match p with | .byte c _ => some c | _ => none

/-- The bytes of pieces, each marked if it is quoted. -/
def markedOf (pieces : List Piece) : Marked :=
  pieces.filterMap fun p =>
    match p with
    | .byte c quoted => some (c, quoted)
    | _ => none

/-! ## Splitting -/

/-- Fields while they are split; the current one is turned round. -/
structure Splitting where
  /-- The fields that are complete, the last first. -/
  fields : List Marked
  /-- The current field. -/
  current : Marked
  /-- Whether there is something in the current field. -/
  started : Bool
  /-- Whether this is inside what an expansion came to. -/
  inside : Bool
  /-- Whether the last expansion is split only where positional parameters end. -/
  onlyCuts : Bool
  /-- Whether the one before it was. -/
  afterCuts : Bool
  /-- Whether a blank ended the last field, so that one separator may follow. -/
  afterBlank : Bool

namespace Splitting

/-- Before the first piece. -/
def start : Splitting :=
  ⟨[], [], false, false, false, false, false⟩

/-- The end of the current field. -/
def close (s : Splitting) (afterBlank : Bool) : Splitting :=
  { s with fields := s.current.reverse :: s.fields, current := [], started := false, afterBlank }

/-- A byte at the end of the current field. -/
def add (s : Splitting) (c : Char) (quoted : Bool) : Splitting :=
  { s with current := (c, quoted) :: s.current, started := true, afterBlank := false }

/-- Fields with a separator behind them, which may be a blank.  Behind positional
    parameters in quotes no blank is taken for one. -/
def separate (s : Splitting) (isBlank : Bool) : Splitting :=
  if s.afterBlank then { s with afterBlank := isBlank }
  else
    let isBlank := isBlank && !s.onlyCuts && !s.afterCuts
    if isBlank && !s.started then s else s.close isBlank

/-- Fields with one more piece. -/
def step (separators : Octets) (s : Splitting) : Piece → Splitting
  | .mark => { s with started := true }
  | .opened onlyCuts =>
    { s with inside := true, onlyCuts, afterCuts := s.onlyCuts, afterBlank := false }
  | .closed => { s with inside := false }
  | .cut => s.separate true
  | .byte c quoted =>
    if s.inside && !s.onlyCuts && separators.contains c then
      s.separate (c = ' ' || c = '\t' || c = '\n')
    else s.add c quoted

end Splitting

/-- The fields of an expanded word. -/
def split (separators : Octets) (pieces : List Piece) : List Marked :=
  let s := pieces.foldl (Splitting.step separators) .start
  (if s.started || s.onlyCuts then (s.close false).fields else s.fields).reverse

/-! ## Files that match -/

/-- The names in a directory, sorted, with the directory itself and the one above
    it. -/
def namesIn (tree : FileTree) (parts : List Text) : List Octets :=
  let names := tree.nodes.filterMap fun (p, _) =>
    if p.length = parts.length + 1 && parts.isPrefixOf p then (p.drop parts.length).head? else none
  let all : List Octets := "." :: ".." :: names.map Octets.ofText
  all.mergeSort fun a b => !Octets.before b a

/-- The pieces of a pattern between its slashes. -/
def components : Marked → List Marked
  | [] => [[]]
  | (c, quoted) :: rest =>
    if c = '/' then [] :: components rest
    else
      match components rest with
      | first :: more => ((c, quoted) :: first) :: more
      | [] => [[(c, quoted)]]

/-- The names in a directory that match a component of a pattern.  A name with a
    dot at its start is matched only by a dot. -/
def matchingNames (s : State) (directory : Octets) (component : Marked) : List Octets :=
  let path : Octets := if directory.isEmpty then "." else directory
  match s.world.tree.partsOf true s.cwd path.toText with
  | .error _ => []
  | .ok parts =>
    if !s.world.tree.isDirectoryAt parts then []
    else
      let p := component.pattern
      let startsWithDot := component.head?.any (·.1 = '.')
      (namesIn s.world.tree parts).filter fun name =>
        (startsWithDot || name.head? ≠ some '.') && fits p name

/-- The paths behind `before` that match the components of a pattern. -/
def matchingPaths (s : State) (before : Octets) : List Marked → List Octets
  | [] => [before]
  | [last] =>
    if isProper last.pattern then (matchingNames s before last).map (before ++ ·)
    else
      let path : Octets := before ++ last.bytes
      match s.world.tree.lookAt s.cwd path.toText with
      | .ok _ => [path]
      | .error _ => []
  | component :: rest =>
    if isProper component.pattern then
      (matchingNames s before component).flatMap fun name =>
        let path : Octets := before ++ name
        if s.isDirectory path then matchingPaths s (path ++ "/") rest else []
    else matchingPaths s (before ++ component.bytes ++ "/") rest

/-- What a field comes to: the files that match, or the field itself. -/
def matched (s : State) (field : Marked) : List Octets :=
  if s.has 'f' || !isProper field.pattern then [field.bytes]
  else
    match matchingPaths s [] (components field) with
    | [] => [field.bytes]
    | paths => paths.mergeSort fun a b => !Octets.before b a

end Shell

end FlowLens
