/-
  Paths as text.  A path is where it starts and its components; empty and `.`
  components vanish when it is read, `..` stays until the path is resolved.

  * `Path.ofText` and `Path.text` read and write a path;
  * `Path.join` puts one path after another;
  * `Path.resolve` makes a path absolute and works out its `..` components
    without looking at any file.
-/
import FlowLens.Text.Basic

namespace FlowLens

/-- Where a path starts. -/
inductive Anchor where
  /-- At the current directory. -/
  | here
  /-- At the root. -/
  | root
  /-- At the root that two slashes name, which differs from the other one. -/
  | doubleRoot
  deriving DecidableEq, Repr

/-- A path: where it starts, and its components. -/
structure Path where
  /-- Where the path starts. -/
  anchor : Anchor
  /-- The components, none of them empty. -/
  parts : List Text
  deriving DecidableEq, Repr

/-- The slashes that write an anchor. -/
def Anchor.text : Anchor → Text
  | here => ""
  | root => "/"
  | doubleRoot => "//"

namespace Path

/-- Whether a code point is a slash. -/
def isSlash (c : CodePoint) : Bool :=
  c = .char '/'

/-- Where the text of a path starts: exactly two slashes are an anchor of
    their own. -/
def anchorOf (t : Text) : Anchor :=
  match (t.takeWhile isSlash).length with
  | 0 => .here
  | 2 => .doubleRoot
  | _ => .root

/-- The path that a text writes. -/
def ofText (t : Text) : Path :=
  ⟨anchorOf t, t.components isSlash⟩

/-- A path as text; `.` if it has nothing to show. -/
def text (p : Path) : Text :=
  match p.anchor, p.parts with
  | .here, [] => "."
  | anchor, parts => anchor.text ++ Text.joinWith "/" parts

/-- Whether a path does not depend on the current directory. -/
def isAbsolute (p : Path) : Bool :=
  p.anchor ≠ .here

/-- The path `q` as seen from `p`. -/
def join (p q : Path) : Path :=
  match q.anchor with
  | .here => ⟨p.anchor, p.parts ++ q.parts⟩
  | _ => q

/-- The components with each `..` and the component before it taken out; at the
    root a `..` leads nowhere. -/
def collapse (parts : List Text) : List Text :=
  parts.foldl step []
where
  /-- The components after one more. -/
  step (done : List Text) (part : Text) : List Text :=
    if part = ".." then done.dropLast else done ++ [part]

/-- The absolute form of a path seen from the directory `cwd`, without `..`. -/
def resolve (cwd p : Path) : Path :=
  let q := cwd.join p
  ⟨q.anchor, collapse q.parts⟩

/-- The directory that holds a path; the root holds itself. -/
def parent (p : Path) : Path :=
  { p with parts := p.parts.dropLast }

/-- A path followed by a component. -/
def child (p : Path) (name : Text) : Path :=
  { p with parts := p.parts ++ [name] }

end Path

end FlowLens
