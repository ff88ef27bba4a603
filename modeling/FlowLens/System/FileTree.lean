/-
  The files that a program sees: regular files, directories and symbolic links,
  by their absolute components.  What may not be opened or entered is among them;
  devices that fail are not.

  * `FileTree.locate` follows a path through links to what it names, and
    `FileTree.lookAt` leaves a link at its end alone;
  * `FileTree.realPath` works out the links of a path, whether or not it names
    anything;
  * `FileTree.read` gives the bytes of a file.
-/
import FlowLens.Path.Basic
import FlowLens.Process.Call
import FlowLens.Text.Utf8

namespace FlowLens

/-- Something in a file tree. -/
inductive Node where
  /-- A file. -/
  | file (bytes : List UInt8) (executable : Bool)
  /-- A directory. -/
  | dir
  /-- A directory that may be listed, but not entered: nothing below it can be asked
      for. -/
  | locked
  /-- A link to another path. -/
  | link (target : Text)
  /-- A device that has nothing to read. -/
  | device
  /-- A file that may not be opened. -/
  | sealed (bytes : List UInt8)
  deriving DecidableEq, Repr

/-- Whether a node is a directory, of either kind. -/
def Node.isDirectory : Node → Bool
  | .dir => true
  | .locked => true
  | _ => false

/-- Files and directories by their components below the root. -/
structure FileTree where
  /-- The nodes. -/
  nodes : List (List Text × Node)
  deriving Repr

/-- Why the operating system refuses a file. -/
inductive Refusal where
  | noEntry
  | badFormat
  | badDescriptor
  | denied
  | notDirectory
  | isDirectory
  | nameTooLong
  | linkLoop
  deriving DecidableEq, Repr

namespace Refusal

/-- The number of a refusal. -/
def errno : Refusal → Int
  | noEntry => 2
  | badFormat => 8
  | badDescriptor => 9
  | denied => 13
  | notDirectory => 20
  | isDirectory => 21
  | nameTooLong => 36
  | linkLoop => 40

/-- The wording of a refusal. -/
def text : Refusal → Text
  | noEntry => "No such file or directory"
  | badFormat => "Exec format error"
  | badDescriptor => "Bad file descriptor"
  | denied => "Permission denied"
  | notDirectory => "Not a directory"
  | isDirectory => "Is a directory"
  | nameTooLong => "File name too long"
  | linkLoop => "Too many levels of symbolic links"

/-- Whether a refusal means no more than that a file is not there. -/
def isAbsence : Refusal → Bool
  | noEntry => true
  | notDirectory => true
  | linkLoop => true
  | _ => false

/-- The refusal of a file. -/
def about (r : Refusal) (file : Text) : SystemFault :=
  ⟨some r.errno, r.text, some file⟩

end Refusal

namespace FileTree

/-- The node at some components; the root is always there. -/
def find? (tree : FileTree) (parts : List Text) : Option Node :=
  if parts.isEmpty then some .dir else (tree.nodes.find? (·.1 = parts)).map (·.2)

/-- Whether there is a directory at some components. -/
def isDirectoryAt (tree : FileTree) (parts : List Text) : Bool :=
  (tree.find? parts).any Node.isDirectory

/-- The tree without a node and all below it. -/
def erase (tree : FileTree) (parts : List Text) : FileTree :=
  ⟨tree.nodes.filter fun entry => !parts.isPrefixOf entry.1⟩

/-- The tree with a node in place of what was there. -/
def insert (tree : FileTree) (parts : List Text) (node : Node) : FileTree :=
  ⟨tree.nodes.filter (·.1 ≠ parts) ++ [(parts, node)]⟩

/-- The tree with all directories that lead to some components. -/
def makeParents (tree : FileTree) (parts : List Text) : FileTree :=
  (List.range parts.length).foldl
    (fun tree n =>
      match tree.find? (parts.take n) with
      | some _ => tree
      | none => tree.insert (parts.take n) .dir)
    tree

/-- The tree with a node and the directories that lead to it. -/
def add (tree : FileTree) (parts : List Text) (node : Node) : FileTree :=
  (tree.makeParents parts).insert parts node

/-! ## Following a path -/

/-- The bytes that a name may have. -/
def nameLimit : Nat := 255

/-- The bytes that the text of a path stays below. -/
def pathLimit : Nat := 4096

/-- The bytes of a code point in a name.  A lone surrogate from U+DC80 to U+DCFF stands
    for one byte that is no part of a character; any other one has no bytes. -/
def bytesIn? : CodePoint → Option Nat
  | .char c => some c.utf8Size
  | .lone n => if 0x480 ≤ n.val ∧ n.val ≤ 0x4FF then some 1 else none

/-- The bytes of a text in a name. -/
def byteLength (t : Text) : Nat :=
  t.foldl (fun n c => n + (bytesIn? c).getD 0) 0

/-- Whether the operating system can be asked about a text: all of it has bytes, and
    none of them is NUL. -/
def isNameable (t : Text) : Bool :=
  t.all fun c => (bytesIn? c).isSome && c ≠ .char '\x00'

/-- The pieces of a path's text; an empty piece behind a slash asks for a
    directory. -/
def piecesOf (t : Text) : List Text :=
  Text.splitBy Path.isSlash t

/-- Where the pieces of a path lead from a directory, through at most `links`
    links.  A link at the very end is followed if `toEnd` holds.  Every piece but an
    empty one takes the directory that it is looked for in to be entered. -/
def follow (tree : FileTree) (toEnd : Bool) (links : Nat) (base : List Text) (pieces : List Text) :
    Except Refusal (List Text) :=
  match pieces with
  | [] => .ok base
  | piece :: rest =>
    if !tree.isDirectoryAt base then .error .notDirectory
    else if piece = "" then follow tree toEnd links base rest
    else if tree.find? base = some .locked then .error .denied
    else if piece = "." then follow tree toEnd links base rest
    else if piece = ".." then follow tree toEnd links base.dropLast rest
    else if byteLength piece > nameLimit then .error .nameTooLong
    else
      match tree.find? (base ++ [piece]) with
      | none => .error .noEntry
      | some (.link target) =>
        if rest.isEmpty && !toEnd then .ok (base ++ [piece])
        else
          match links with
          | 0 => .error .linkLoop
          | links + 1 =>
            let start := if Path.anchorOf target = .here then base else []
            follow tree toEnd links start (piecesOf target ++ rest)
      | some _ => follow tree toEnd links (base ++ [piece]) rest
termination_by (links, pieces.length)

/-- The links that a path may lead through. -/
def linkLimit : Nat := 40

/-- The components that a path leads to, seen from the directory `cwd`.  What the
    operating system cannot be asked about is not there. -/
def partsOf (tree : FileTree) (toEnd : Bool) (cwd : Path) (path : Text) :
    Except Refusal (List Text) :=
  if path.isEmpty || !isNameable path then .error .noEntry
  else if byteLength path ≥ pathLimit then .error .nameTooLong
  else
    let start := if Path.anchorOf path = .here then cwd.parts else []
    tree.follow toEnd linkLimit start (piecesOf path)

/-- The node at the components that a path leads to. -/
def nodeAt (tree : FileTree) (toEnd : Bool) (cwd : Path) (path : Text) : Except Refusal Node := do
  match tree.find? (← tree.partsOf toEnd cwd path) with
  | some node => .ok node
  | none => .error .noEntry

/-- The node that a path names, seen from the directory `cwd`. -/
def locate (tree : FileTree) (cwd : Path) (path : Text) : Except Refusal Node :=
  tree.nodeAt true cwd path

/-- The node that a path names, which may be a link. -/
def lookAt (tree : FileTree) (cwd : Path) (path : Text) : Except Refusal Node :=
  tree.nodeAt false cwd path

/-- The regular file that a path names, if there is one: its bytes, unless it may not
    be opened, and whether it may be run.  A refusal that means more than absence is
    one. -/
def regular? (tree : FileTree) (cwd : Path) (path : Text) :
    Except Refusal (Option (Option (List UInt8) × Bool)) :=
  match tree.locate cwd path with
  | .ok (.file bytes executable) => .ok (some (some bytes, executable))
  | .ok (.sealed _) => .ok (some (none, false))
  | .ok _ => .ok none
  | .error r => if r.isAbsence then .ok none else .error r

/-- Whether a path names a regular file that may be run. -/
def isProgram (tree : FileTree) (cwd : Path) (path : Text) : Bool :=
  match tree.locate cwd path with
  | .ok (.file _ executable) => executable
  | _ => false

/-- The bytes of the file that a path names. -/
def read (tree : FileTree) (cwd : Path) (path : Text) : Except Refusal (List UInt8) :=
  match tree.locate cwd path with
  | .ok (.file bytes _) => .ok bytes
  | .ok .device => .ok []
  | .ok (.sealed _) => .error .denied
  | .ok _ => .error .isDirectory
  | .error r => .error r

/-! ## Working out links -/

/-- Why a path cannot be worked out. -/
inductive Impasse where
  /-- It runs in a circle. -/
  | loop (path : Path)
  /-- It holds a NUL. -/
  | embeddedNul
  /-- It has a code point without bytes. -/
  | unencodable (path : Text)
  deriving DecidableEq, Repr

/-- The impasse of a path that the operating system cannot be asked about. -/
def Impasse.ofUnnameable (path : Text) : Impasse :=
  if path.all fun c => (bytesIn? c).isSome then .embeddedNul else .unencodable path

/-- The wording of an impasse. -/
def Impasse.message : Impasse → Text
  | loop path => "Symlink loop from " ++ path.text.quoted
  | embeddedNul => "embedded null byte"
  | unencodable path =>
    let start := path.findIdx fun c => (bytesIn? c).isNone
    let lone : Text :=
      (path.drop start).takeWhile fun c => match c with | .lone _ => true | .char _ => false
    let place : Text :=
      if lone.length = 1 then " " ++ Text.quoted lone ++ " in position " ++ natText start
      else "s in position " ++ natText start ++ "-" ++ natText (start + lone.length - 1)
    "'utf-8' codec can't encode character" ++ place ++ ": surrogates not allowed"

/-- The text of a path seen from another one. -/
def joinText (p q : Text) : Text :=
  if q.head? = some (.char '/') then q
  else if p.isEmpty || p.getLast? = some (.char '/') then p ++ q
  else p ++ .char '/' :: q

/-- The text of a path up to its last slash, and what is behind it.  Slashes at
    the end of the first part vanish, unless there is nothing else. -/
def splitLast (p : Text) : Text × Text :=
  let name := (p.reverse.takeWhile (!Path.isSlash ·)).reverse
  let front := p.take (p.length - name.length)
  (if front.all Path.isSlash then front else (front.reverse.dropWhile Path.isSlash).reverse, name)

/-- The text of the directory that holds a path. -/
def upFrom (p : Text) : Text :=
  if p.isEmpty then ".."
  else
    let (front, name) := splitLast p
    if name = ".." then joinText (joinText front "..") ".." else front

/-- What is known of the links on the way: where each leads, or nothing while
    that is worked out. -/
abbrev Known := List (Text × Option Text)

/-- How far a path is worked out. -/
structure WorkedOut where
  /-- The path so far. -/
  path : Text
  /-- Whether all its links are worked out. -/
  complete : Bool
  /-- What is known now. -/
  known : Known

/-- The pieces of a path worked out one by one behind `path`.  What is not there
    is taken as it is.  At a link inside its own target the rest stays as it is. -/
def workOut (tree : FileTree) (cwd : Path) (depth : Nat) (known : Known) (path : Text)
    (pieces : List Text) : WorkedOut :=
  match pieces with
  | [] => ⟨path, true, known⟩
  | piece :: rest =>
    if piece = "" ∨ piece = "." then workOut tree cwd depth known path rest
    else if piece = ".." then workOut tree cwd depth known (upFrom path) rest
    else
      let here := joinText path piece
      let stuck : WorkedOut := ⟨joinText here (Text.joinWith "/" rest), false, known⟩
      match tree.lookAt cwd here with
      | .ok (.link target) =>
        match known.lookup here with
        | some (some there) => workOut tree cwd depth known there rest
        | some none => stuck
        | none =>
          match depth with
          | 0 => stuck
          | depth + 1 =>
            let inner :=
              workOut tree cwd depth ((here, none) :: known)
                (if Path.anchorOf target = .here then path else "/") (piecesOf target)
            if inner.complete then
              workOut tree cwd (depth + 1) ((here, some inner.path) :: inner.known) inner.path rest
            else ⟨joinText inner.path (Text.joinWith "/" rest), false, inner.known⟩
      | _ => workOut tree cwd depth known here rest
termination_by (depth, pieces.length)

/-- A path with its links worked out, seen from the directory `cwd`.  Each link
    has at most one text for each directory above `cwd`, so the depth is enough. -/
def realPath (tree : FileTree) (cwd : Path) (p : Path) : Except Impasse Path :=
  let pieces := piecesOf p.text
  let nameable := pieces.takeWhile isNameable
  let depth := tree.nodes.length * (cwd.parts.length + 2) + 1
  let worked := tree.workOut cwd depth [] (if p.isAbsolute then "/" else "") nameable
  match pieces.drop nameable.length with
  | piece :: _ => .error (.ofUnnameable (joinText worked.path piece))
  | [] =>
    let real := cwd.resolve (.ofText worked.path)
    match tree.locate cwd real.text with
    | .error .linkLoop => .error (.loop real)
    | _ => .ok real

/-! ## Adding files -/

/-- The components of a file that is to be written, with the links before its
    name followed. -/
def placeFor (tree : FileTree) (cwd : Path) (p : Path) : List Text :=
  let full := cwd.join p
  match tree.realPath cwd full.parent with
  | .ok directory => directory.parts ++ full.parts.drop (full.parts.length - 1)
  | .error _ => full.parts

/-- The tree with a node at a path and the directories that lead to it. -/
def write (tree : FileTree) (cwd : Path) (p : Path) (node : Node) : FileTree :=
  tree.add (tree.placeFor cwd p) node

/-- The tree without what is at a path. -/
def remove (tree : FileTree) (cwd : Path) (p : Path) : FileTree :=
  tree.erase (tree.placeFor cwd p)

end FileTree

end FlowLens
