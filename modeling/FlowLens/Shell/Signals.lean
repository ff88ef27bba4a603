/-
  Signals by number and name.
-/
import FlowLens.Shell.Octets

namespace FlowLens

namespace Shell

/-- The names of the ordinary signals, from 1 on. -/
def ordinarySignals : List Octets :=
  (["HUP", "INT", "QUIT", "ILL", "TRAP", "ABRT", "BUS", "FPE", "KILL", "USR1", "SEGV", "USR2",
    "PIPE", "ALRM", "TERM", "16", "CHLD", "CONT", "STOP", "TSTP", "TTIN", "TTOU", "URG", "XCPU",
    "XFSZ", "VTALRM", "PROF", "WINCH", "IO", "PWR", "SYS", "32", "33"] :
      List String).map String.toList

/-- The names of the signals, from 1 on. -/
def signalNames : List Octets :=
  let above := (List.range 15).map fun n => ("RTMIN+" : Octets) ++ Octets.ofNat (n + 1)
  let below := (List.range 14).map fun n => ("RTMAX-" : Octets) ++ Octets.ofNat (14 - n)
  ordinarySignals ++ [("RTMIN" : Octets)] ++ above ++ below ++ [("RTMAX" : Octets)]

/-- One more than the last signal. -/
def signalLimit : Nat := 65

/-- The signal of a division that cannot be done. -/
def divisionSignal : Nat := 8

/-- The name of a signal; 0 stands for the end of the shell. -/
def signalName (n : Nat) : Octets :=
  if n = 0 then "EXIT" else (signalNames.drop (n - 1)).headD []

/-- The signal that a number or a name stands for, in any case of its letters. -/
def signalOf? (least : Nat) (t : Octets) : Option Nat :=
  match Octets.toNat? t with
  | some n => if n < signalLimit then some n else none
  | none =>
    let upper := t.map Char.toUpper
    ((List.range signalLimit).filter (least ≤ ·)).find? fun n => signalName n = upper

/-- What is said of a process that a signal ended. -/
def signalText (n : Nat) : Octets :=
  match n with
  | 1 => "Hangup"
  | 2 => "Interrupt"
  | 3 => "Quit"
  | 4 => "Illegal instruction"
  | 5 => "Trace/breakpoint trap"
  | 6 => "Aborted"
  | 7 => "Bus error"
  | 8 => "Floating point exception"
  | 9 => "Killed"
  | 10 => "User defined signal 1"
  | 11 => "Segmentation fault"
  | 12 => "User defined signal 2"
  | 13 => "Broken pipe"
  | 14 => "Alarm clock"
  | 15 => "Terminated"
  | 16 => "Stack fault"
  | 24 => "CPU time limit exceeded"
  | 25 => "File size limit exceeded"
  | 26 => "Virtual timer expired"
  | 27 => "Profiling timer expired"
  | 29 => "I/O possible"
  | 30 => "Power failure"
  | 31 => "Bad system call"
  | n =>
    if 34 ≤ n then "Real-time signal " ++ Octets.ofNat (n - 34) else "Signal " ++ Octets.ofNat n

/-- What a signal does to a process that does nothing about it. -/
inductive Default where
  | ends
  | ignored
  | stops
  deriving DecidableEq, Repr

/-- What a signal does to a process that does nothing about it. -/
def defaultOf (n : Nat) : Default :=
  if n = 17 || n = 18 || n = 23 || n = 28 then .ignored
  else if 19 ≤ n && n ≤ 22 then .stops
  else .ends

end Shell

end FlowLens
