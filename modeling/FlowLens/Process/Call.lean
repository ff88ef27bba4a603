/-
  Calls of other programs: what is called, what comes back, and what can go
  wrong on the way.
-/
import FlowLens.Number.Shortest
import FlowLens.Text.Quoted

namespace FlowLens

/-- A program that is to be run. -/
structure Call where
  /-- The program and its arguments. -/
  args : List Text
  /-- What it is to read, if anything. -/
  input : Option Text
  deriving DecidableEq, Repr

/-- What a program leaves behind. -/
structure Output where
  /-- What it wrote, if anything was captured. -/
  stdout : Option Text
  /-- The status that it ended with. -/
  code : Int
  deriving DecidableEq, Repr

/-- A refusal of the operating system. -/
structure SystemFault where
  /-- Its number, if it has one. -/
  errno : Option Int
  /-- Its wording. -/
  text : Text
  /-- The file that it is about, if it is about one. -/
  file : Option Text
  deriving DecidableEq, Repr

namespace SystemFault

/-- A refusal that is only worded. -/
def worded (text : Text) : SystemFault :=
  ⟨none, text, none⟩

/-- The whole wording: the number in brackets, the text, the file in quotes. -/
def message (e : SystemFault) : Text :=
  (match e.errno with
    | some n => "[Errno " ++ intText n ++ "] " ++ e.text
    | none => e.text) ++
  (match e.file with
    | some f => ": " ++ f.quoted
    | none => [])

end SystemFault

/-- Why a call has no output. -/
inductive CallFault where
  /-- The operating system refuses. -/
  | system (e : SystemFault)
  /-- A value is wrong. -/
  | badValue (text : Text)
  /-- Something else fails. -/
  | failed (text : Text)
  /-- The program does not end in time. -/
  | timedOut (args : List Text) (seconds : Double)
  deriving DecidableEq, Repr

/-- The wording of a fault. -/
def CallFault.message : CallFault → Text
  | system e => e.message
  | badValue text => text
  | failed text => text
  | timedOut args seconds =>
    "Command '" ++ Text.quotedList args ++ "' timed out after " ++ seconds.text ++ " seconds"

end FlowLens
