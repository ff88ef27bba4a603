/-
  Shell scripts as trees: words with their quoting and expansions, redirections
  and commands.
-/
import FlowLens.Shell.Octets

namespace FlowLens

namespace Shell

/-- What a redirection does. -/
inductive Direction where
  /-- Reads a file. -/
  | input
  /-- Writes a file anew. -/
  | output
  /-- Writes a file anew, even if it is protected. -/
  | clobber
  /-- Writes at the end of a file. -/
  | append
  /-- Reads and writes a file. -/
  | both
  /-- Takes over another descriptor, or closes this one. -/
  | duplicate (reading : Bool)
  /-- Reads the document of a number. -/
  | document (number : Nat)
  deriving DecidableEq, Repr

mutual

/-- A piece of a word. -/
inductive Part where
  /-- Bytes without quotes. -/
  | plain (text : Octets)
  /-- A byte behind a backslash. -/
  | escaped (c : Char)
  /-- Bytes in single quotes. -/
  | single (text : Octets)
  /-- Pieces in double quotes. -/
  | double (parts : List Part)
  /-- The value of a parameter. -/
  | parameter (name : Octets) (operation : Operation)
  /-- The output of a command. -/
  | substitution (script : Option Command)
  /-- The value of an arithmetic expression. -/
  | arithmetic (parts : List Part)

/-- What is done with the value of a parameter. -/
inductive Operation where
  /-- It is taken as it is. -/
  | value
  /-- Its length is taken. -/
  | length
  /-- A word takes its place if it is missing. -/
  | orElse (orEmpty : Bool) (word : List Part)
  /-- A word is assigned if it is missing. -/
  | orAssign (orEmpty : Bool) (word : List Part)
  /-- A word is a complaint if it is missing. -/
  | orFail (orEmpty : Bool) (word : List Part)
  /-- A word takes its place if it is there. -/
  | ifThere (orEmpty : Bool) (word : List Part)
  /-- What matches a pattern is taken off its start. -/
  | trimStart (longest : Bool) (pattern : List Part)
  /-- What matches a pattern is taken off its end. -/
  | trimEnd (longest : Bool) (pattern : List Part)
  /-- Nothing that the shell knows. -/
  | invalid

/-- A redirection of a descriptor. -/
inductive Redirect where
  | mk (descriptor : Nat) (direction : Direction) (target : List Part)

/-- A command. -/
inductive Command where
  /-- Assignments, words and redirections. -/
  | simple (line : Nat) (assignments words : List (List Part)) (redirects : List Redirect)
  /-- Commands of which each reads what the one before it writes. -/
  | pipeline (commands : List Command)
  /-- A command whose status is turned round. -/
  | negated (command : Command)
  /-- One command and then another. -/
  | sequence (first second : Command)
  /-- A second command if the first one succeeds, or fails. -/
  | chain (onSuccess : Bool) (first second : Command)
  /-- A command that is not waited for. -/
  | background (command : Command)
  /-- A command in a shell of its own. -/
  | subshell (line : Nat) (body : Command) (redirects : List Redirect)
  /-- A compound command with redirections. -/
  | redirected (line : Nat) (body : Command) (redirects : List Redirect)
  /-- A choice by the status of a command. -/
  | branch (condition yes : Command) (no : Option Command)
  /-- A loop by the status of a command. -/
  | loop (onSuccess : Bool) (condition body : Command)
  /-- A loop over words. -/
  | each (line : Nat) (name : Octets) (words : List (List Part)) (body : Command)
  /-- A choice by patterns. -/
  | choice (line : Nat) (subject : List Part) (arms : List (List (List Part) × Option Command))
  /-- The definition of a function. -/
  | define (line : Nat) (name : Octets) (body : Command)

end

/-- A word of a script. -/
abbrev Word := List Part

/-- A document of a script, with its expansions if it has any. -/
abbrev Document := Word

/-- The name that a word assigns to, and the rest of the word. -/
def assignment? : Word → Option (Octets × Word)
  | .plain text :: rest =>
    let name := text.takeWhile Octets.inName
    match text.drop name.length with
    | '=' :: value =>
      if Octets.isName name then some (name, if value.isEmpty then rest else .plain value :: rest)
      else none
    | _ => none
  | _ => none

end Shell

end FlowLens
