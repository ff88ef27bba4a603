/-
  References in a description.  A description may refer to further messages by
  tokens such as ` [1]`; each token is replaced by where that message stands.

  * `pieces` cuts a description into tokens and the code points between them;
  * `seeAlso` says where a message in another file stands;
  * `describe` writes a description with its references resolved.
-/
import FlowLens.Path.FileName
import FlowLens.Report.Entry
import FlowLens.Report.Offset

namespace FlowLens

/-! ## Tokens -/

/-- A piece of a description. -/
inductive Piece where
  /-- A code point. -/
  | plain (c : CodePoint)
  /-- A token, without the blank in front of it. -/
  | token (t : Text)
  deriving DecidableEq, Repr

/-- The token at the front, behind a blank: one or more digits in brackets. -/
def tokenAt? : Text → Option Text
  | .char ' ' :: .char '[' :: rest =>
    match rest.span CodePoint.isDigit with
    | ([], _) => none
    | (digits, .char ']' :: _) => some (.char '[' :: (digits ++ [.char ']']))
    | _ => none
  | _ => none

/-- The pieces of a text behind its first `skip` code points, from left to
    right. -/
def piecesAfter : Nat → Text → List Piece
  | _, [] => []
  | skip + 1, _ :: rest => piecesAfter skip rest
  | 0, c :: rest =>
    match tokenAt? (c :: rest) with
    | some token => .token token :: piecesAfter token.length rest
    | none => .plain c :: piecesAfter 0 rest

/-- The pieces of a description. -/
def pieces (descr : Text) : List Piece :=
  piecesAfter 0 descr

/-! ## Where a message stands -/

/-- Where a message in another file stands: a library of the checker is shown in
    the checker's repository, any other file below the root. -/
def seeAlso (root version : Text) (m : Message) : Except TooManyDigits Text := do
  let line ← boundedIntText m.line
  if m.place.any (·.isLibrary) then
    return "https://github.com/facebook/flow/blob/v" ++ version ++ "/lib/" ++ fileName m.path ++
      "#L" ++ line
  else
    let below := (Text.removeFirst root m.path).replaceAll (.char '\\') (.char '/')
    return .char '.' :: (below ++ .char ':' :: line)

/-- The line of a message in the document around the snippet. -/
def documentLine (offset : Option Amount) (line : Int) : Except OffsetFault Text := do
  let sum ← Offset.plus offset line
  match sum.text with
  | .ok t => .ok t
  | .error cause => .error (.tooLong cause)

/-- What replaces a token: nothing if the message is on the line of the primary
    one, and the token itself if there is no such message. -/
def resolveToken (primary : Message) (references : List Message) (root version : Text)
    (offset : Option Amount) (token : Text) : Except OffsetFault Text :=
  match references.find? (·.descr = token) with
  | none => .ok (.char ' ' :: token)
  | some m =>
    if m.path ≠ primary.path then
      match seeAlso root version m with
      | .ok place => .ok (" (see " ++ place ++ ")")
      | .error cause => .error (.tooLong cause)
    else if m.line = primary.line then .ok []
    else (documentLine offset m.line).map fun line => " (see line " ++ line ++ ")"

/-- The description of a primary message, its references resolved. -/
def describe (primary : Message) (references : List Message) (root version : Text)
    (offset : Option Amount) : Except OffsetFault Text := do
  let texts ← (pieces primary.descr).mapM fun
    | .plain c => .ok [c]
    | .token t => resolveToken primary references root version offset t
  return texts.flatten

end FlowLens
