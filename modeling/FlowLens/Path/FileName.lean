/-
  The file name at the end of a path that was written on some other machine:
  slashes of both kinds divide it, and a drive letter or the name of a network
  share in front is no part of it.
-/
import FlowLens.Text.Basic

namespace FlowLens

namespace FileName

/-- Whether a code point is a backslash. -/
def isBackslash (c : CodePoint) : Bool :=
  c = .char '\\'

/-- Whether a code point is a letter from A to Z, of either case. -/
def isDriveLetter (c : CodePoint) : Bool :=
  (0x41 ≤ c.val && c.val ≤ 0x5A) || (0x61 ≤ c.val && c.val ≤ 0x7A)

/-- The text without the marks that make a path a literal one. -/
def dropLiteralMark (t : Text) : Text :=
  if ("\\\\?\\" : Text).isPrefixOf t then
    let rest := t.drop 4
    if ("UNC\\" : Text).isPrefixOf rest then rest.drop 3 |>.cons (.char '\\') else rest
  else t

/-- What follows the network share that a path starts with, if it does: two
    backslashes and no third, a machine and, behind one more, a share. -/
def afterShare? (t : Text) : Option Text :=
  match t with
  | .char '\\' :: .char '\\' :: rest =>
    if rest.head?.any isBackslash then none else
    match rest.dropWhile (!isBackslash ·) with
    | [] => none
    | _ :: share =>
      if share.head?.any isBackslash then none
      else some ((share.dropWhile (!isBackslash ·)).drop 1)
  | _ => none

/-- What follows the drive letter that a path starts with, if it does. -/
def afterDrive (t : Text) : Text :=
  match t with
  | c :: .char ':' :: rest => if isDriveLetter c then rest else t
  | _ => t

/-- The part of a path, written with backslashes, behind its root. -/
def behindRoot (t : Text) : Text :=
  match afterShare? t with
  | some rest => rest
  | none => (afterDrive t).dropWhile isBackslash

end FileName

/-- The last component of a path written with slashes of either kind; empty if
    it has none. -/
def fileName (t : Text) : Text :=
  let t := FileName.dropLiteralMark (t.replaceAll (.char '/') (.char '\\'))
  ((FileName.behindRoot t).components FileName.isBackslash).getLast?.getD []

end FlowLens
