/-
  What a running shell sees and holds.  The world is what all processes share:
  the files, the open channels and the clock.  The rest belongs to one shell.

  * `World` with reading, writing and opening of channels;
  * `State` with variables, options and descriptors;
  * `Act` is a step of a shell, which may stop it.
-/
import FlowLens.Process.Spawn
import FlowLens.Shell.Reader
import FlowLens.System.Host

namespace FlowLens

namespace Shell

/-! ## Channels -/

/-- Bytes that were written. -/
structure Written where
  /-- The time. -/
  time : Double
  /-- The number of the background job that wrote them, or 0. -/
  job : Nat
  /-- The bytes. -/
  bytes : Octets

/-- What a descriptor leads to. -/
inductive Channel where
  /-- Nothing: reads end at once and writes vanish. -/
  | null
  /-- Bytes that can be read once. -/
  | source (rest : Octets)
  /-- What was written, the last first. -/
  | sink (written : List Written)
  /-- A file, read and written at an offset. -/
  | file (parts : List Text) (offset : Nat) (reads writes appends : Bool)
  /-- A directory. -/
  | directory

/-- What all processes share. -/
structure World where
  /-- The files. -/
  tree : FileTree
  /-- The open channels by their numbers. -/
  channels : List (Nat × Channel)
  /-- The number of the next channel. -/
  nextChannel : Nat
  /-- The documents of the scripts that were read. -/
  documents : List (Nat × Document)
  /-- The number of the next document. -/
  nextDocument : Nat
  /-- The number of the next process. -/
  nextProcess : Nat
  /-- The processes that run. -/
  alive : List Nat
  /-- Signals on their way to processes. -/
  signals : List (Nat × Nat)
  /-- The seconds that passed. -/
  clock : Double
  /-- How many more commands are run before a process is taken to be endless. -/
  patience : Nat
  /-- When the processes end that were not waited for. -/
  ends : List (Nat × Double)

namespace World

/-- The world with a new channel, and its number. -/
def openChannel (w : World) (c : Channel) : Nat × World :=
  (w.nextChannel,
    { w with channels := (w.nextChannel, c) :: w.channels, nextChannel := w.nextChannel + 1 })

/-- The channel of a number. -/
def channel? (w : World) (n : Nat) : Option Channel :=
  w.channels.lookup n

/-- The world with another channel under a number. -/
def setChannel (w : World) (n : Nat) (c : Channel) : World :=
  { w with channels := w.channels.map fun (m, d) => if m = n then (n, c) else (m, d) }

/-- The bytes of a file. -/
def fileBytes (w : World) (parts : List Text) : List UInt8 :=
  match w.tree.find? parts with
  | some (.file bytes _) => bytes
  | _ => []

/-- The world with other bytes in a file. -/
def setFileBytes (w : World) (parts : List Text) (bytes : List UInt8) : World :=
  let executable := match w.tree.find? parts with | some (.file _ x) => x | _ => false
  { w with tree := w.tree.insert parts (.file bytes executable) }

/-- What is left to read of a channel; nothing if it cannot be read. -/
def unread? (w : World) (n : Nat) : Except Refusal Octets :=
  match w.channel? n with
  | some .null => .ok []
  | some (.source rest) => .ok rest
  | some (.file parts offset true _ _) => .ok (Octets.ofBytes ((w.fileBytes parts).drop offset))
  | some .directory => .error .isDirectory
  | _ => .error .badDescriptor

/-- The world after some bytes of a channel are read. -/
def consume (w : World) (n count : Nat) : World :=
  match w.channel? n with
  | some (.source rest) => w.setChannel n (.source (rest.drop count))
  | some (.file parts offset reads writes appends) =>
    w.setChannel n (.file parts (offset + count) reads writes appends)
  | _ => w

/-- The world after some bytes are written to a channel, if that can be. -/
def write? (w : World) (job n : Nat) (bytes : Octets) : Option World :=
  match w.channel? n with
  | some .null => some w
  | some (.sink written) => some (w.setChannel n (.sink (⟨w.clock, job, bytes⟩ :: written)))
  | some (.file parts offset reads true appends) =>
    let old := w.fileBytes parts
    let offset := if appends then old.length else offset
    let gap := List.replicate (offset - old.length) 0
    let new := old.take offset ++ gap ++ bytes.toBytes ++ old.drop (offset + bytes.length)
    some ((w.setFileBytes parts new).setChannel n
      (.file parts (offset + bytes.length) reads true appends))
  | _ => none

/-- Writes in the order of their times; equal times keep their order. -/
def inOrder (written : List Written) : List Written :=
  written.mergeSort fun a b => a.time.le b.time

/-- What was written to a channel, in the order of time. -/
def collected (w : World) (n : Nat) : Octets :=
  match w.channel? n with
  | some (.sink written) => (inOrder written.reverse).flatMap (·.bytes)
  | _ => []

/-- The world without a channel. -/
def close (w : World) (n : Nat) : World :=
  { w with channels := w.channels.filter (·.1 ≠ n) }

/-- The world without the channels from a number on that nothing holds any more. -/
def forget (w : World) (mark : Nat) (held : List (Nat × Nat)) : World :=
  { w with channels := w.channels.filter fun (n, _) => n < mark || held.any (·.2 = n) }

/-- The world without what a job wrote after a time. -/
def withdraw (w : World) (job : Nat) (time : Double) : World :=
  { w with
    channels := w.channels.map fun (n, c) =>
      match c with
      | .sink written => (n, .sink (written.filter fun x => x.job ≠ job || x.time.le time))
      | c => (n, c) }

end World

/-! ## Shells -/

/-- A variable. -/
structure Variable where
  /-- Its value, if it is set. -/
  value : Option Octets
  /-- Whether programs see it. -/
  exported : Bool
  /-- Whether it stays as it is. -/
  readOnly : Bool

/-- A command that was not waited for. -/
structure Job where
  /-- Its number in the list of jobs. -/
  number : Nat
  /-- The number of its process. -/
  process : Nat
  /-- Its status, negative for the number of a signal. -/
  code : Int
  /-- When it ends. -/
  finish : Double
  /-- Whether the shell knows that it ended. -/
  noticed : Bool
  /-- Whether a script waited for it. -/
  waited : Bool

/-- A function of a script. -/
structure Function where
  /-- The line of its definition. -/
  line : Nat
  /-- Its body. -/
  body : Command

/-- Where the options of a script are read. -/
structure OptionPlace where
  /-- The next word, from 1 on. -/
  index : Nat
  /-- How far the word before it is read, if it is. -/
  offset : Option Nat

/-- The place of a word. -/
def OptionPlace.word (n : Nat) : OptionPlace := ⟨max n 1, none⟩

/-- The place of the first word. -/
def OptionPlace.start : OptionPlace := .word 1

/-- A running shell. -/
structure State where
  /-- What it shares with other processes. -/
  world : World
  /-- The number of its process. -/
  process : Nat
  /-- The number of the process that started it. -/
  parent : Nat
  /-- The number of the process of the shell that it is a copy of. -/
  leader : Nat
  /-- The background job that it belongs to, or 0. -/
  job : Nat
  /-- The current directory, without links. -/
  cwd : Path
  /-- The current directory as it is shown. -/
  shownCwd : Octets
  /-- The variables, in the order of their names. -/
  bindings : List (Octets × Variable)
  /-- The functions. -/
  functions : List (Octets × Function)
  /-- The aliases. -/
  aliases : List (Octets × Octets)
  /-- What the shell is called. -/
  name : Octets
  /-- The positional parameters. -/
  params : List Octets
  /-- The letters of the options that are on. -/
  options : List Char
  /-- The status of the last command. -/
  status : Nat
  /-- The status of the last command substitution. -/
  substituted : Nat
  /-- The line of the command that is run. -/
  line : Nat
  /-- The built-in command that is run. -/
  command : Option Octets
  /-- The channels of the descriptors. -/
  descriptors : List (Nat × Nat)
  /-- The descriptors that redirections closed, as far as the shell knows. -/
  shut : List Nat
  /-- What is done at signals; 0 stands for the end. -/
  traps : List (Nat × Octets)
  /-- Signals that are ignored from the start. -/
  ignored : List Nat
  /-- Signals that wait for their traps. -/
  waiting : List Nat
  /-- The status from before a trap. -/
  saved : Option Nat
  /-- The loops around the command. -/
  loops : Nat
  /-- The functions around the command. -/
  calls : Nat
  /-- The variables to be put back at the end of functions. -/
  locals : List (List (Octets × Option Variable))
  /-- The commands that were not waited for, the last first. -/
  jobs : List Job
  /-- The process of the last of them. -/
  lastJob : Option Nat
  /-- Where the options of a script are read. -/
  place : OptionPlace
  /-- The bits that files are made without. -/
  mask : Nat
  /-- The programs that were found on the search path. -/
  found : List (Octets × Octets)
  /-- What the built-in command that is run wrote.  It is passed on at its end. -/
  output : Octets

/-- Why a step ends early. -/
inductive Stop where
  /-- The shell ends with its status. -/
  | exit
  /-- A complaint was made. -/
  | fault
  /-- Loops are left, the last of them to go on if `again` holds. -/
  | leave (count : Nat) (again : Bool)
  /-- A function or a script is left. -/
  | returned
  /-- A signal ends the process. -/
  | killed (signal : Nat)
  /-- It would never end. -/
  | endless
  deriving DecidableEq, Repr

/-- A step of a shell. -/
abbrev Act := EStateM Stop State

/-- A step with what stopped it. -/
def attempt {α : Type} (act : Act α) : Act (Except Stop α) := fun s =>
  match act s with
  | .ok a s => .ok (.ok a) s
  | .error stop s => .ok (.error stop) s

/-- A step that is followed by another one, whatever stops it. -/
def followedBy {α : Type} (act : Act α) (last : Act Unit) : Act α := do
  match ← attempt act with
  | .ok a =>
    last
    return a
  | .error stop =>
    last
    throw stop

/-! ## Descriptors -/

/-- Changes the world. -/
def modifyWorld (f : World → World) : Act Unit :=
  modify fun s => { s with world := f s.world }

/-- Writes to a descriptor, and says whether that can be done. -/
def emit (fd : Nat) (bytes : Octets) : Act Bool := do
  let s ← get
  match s.descriptors.lookup fd with
  | none => return bytes.isEmpty
  | some n =>
    if bytes.isEmpty then return true
    else
      match s.world.write? s.job n bytes with
      | some world =>
        set { s with world }
        return true
      | none => return false

/-- Writes to the standard output of a built-in command. -/
def put (bytes : Octets) : Act Unit :=
  modify fun s => { s with output := s.output ++ bytes }

/-- Passes the output of a built-in command on, and says whether that can be done. -/
def passOn : Act Bool := do
  let s ← get
  set { s with output := [] }
  emit 1 s.output

/-- Leads a descriptor to a channel, or closes it. -/
def State.withDescriptor (s : State) (fd : Nat) (channel : Option Nat) : State :=
  { s with
    descriptors :=
      (channel.map fun n => (fd, n)).toList ++ s.descriptors.filter (·.1 ≠ fd) }

/-! ## Time -/

/-- The time from which on a process is taken to be endless. -/
def horizon : Double := .ofInt 600

/-- Stops a process that runs for too long. -/
def checkTime : Act Unit := do
  if horizon.le (← get).world.clock then throw .endless

/-! ## Complaints -/

/-- A complaint with the name of the shell and the line. -/
def complain (text : Octets) : Act Unit := do
  let s ← get
  let front : Octets := s.name ++ ": " ++ Octets.ofNat s.line ++ ": "
  let command : Octets := match s.command with | some c => c ++ ": " | none => []
  discard (emit 2 (front ++ command ++ text ++ "\n"))

/-- Sets the status. -/
def setStatus (n : Nat) : Act Unit :=
  modify fun s => { s with status := n }

/-- A complaint that stops the command. -/
def failWith {α : Type} (text : Octets) (status : Nat) : Act α := do
  setStatus status
  complain text
  throw .fault

/-- A complaint that stops the command with the usual status. -/
def fail {α : Type} (text : Octets) : Act α :=
  failWith text 2

/-- The number that an argument writes. -/
def numberOf (t : Octets) : Act Nat :=
  match Octets.number? t with
  | some n => return n
  | none => fail ("Illegal number: " ++ t)

/-! ## Variables -/

/-- Variables with one of them changed, in the order of their names. -/
def putVariable (name : Octets) (v : Variable) : List (Octets × Variable) → List (Octets × Variable)
  | [] => [(name, v)]
  | (n, w) :: rest =>
    if n = name then (n, v) :: rest
    else if Octets.before name n then (name, v) :: (n, w) :: rest
    else (n, w) :: putVariable name v rest

/-- Whether an option is on. -/
def State.has (s : State) (option : Char) : Bool :=
  s.options.contains option

/-- The value of a variable. -/
def State.value? (s : State) (name : Octets) : Option Octets :=
  (s.bindings.lookup name).bind (·.value)

/-- The value of a variable, empty if it is not set. -/
def State.valueOf (s : State) (name : Octets) : Octets :=
  (s.value? name).getD []

/-- The bytes that divide fields. -/
def State.separators (s : State) : Octets :=
  (s.value? "IFS").getD " \t\n"

/-- Lets options be read again, from the word on that a text gives. -/
def readOptionsFrom (value : Octets) : Act Unit := do
  let n ← numberOf value
  modify fun s => { s with place := .word n }

/-- Sets a variable; one that stays as it is stops the command. -/
def assign (name value : Octets) : Act Unit := do
  let s ← get
  let old := s.bindings.lookup name
  if old.any (·.readOnly) then fail (name ++ ": is read only")
  let exported := old.any (·.exported) || s.has 'a'
  if name = "OPTIND" then readOptionsFrom value
  modify fun s => { s with bindings := putVariable name ⟨some value, exported, false⟩ s.bindings }
  if name = "PATH" then modify fun s => { s with found := [] }

/-- Complains about what is no name. -/
def checkName (name : Octets) : Act Unit :=
  if Octets.isName name then pure () else fail (name ++ ": bad variable name")

/-- Takes a variable away. -/
def unassign (name : Octets) : Act Unit := do
  let s ← get
  if (s.bindings.lookup name).any (·.readOnly) then fail (name ++ ": is read only")
  if name = "OPTIND" then readOptionsFrom []
  modify fun s => { s with bindings := s.bindings.filter (·.1 ≠ name) }
  if name = "PATH" then modify fun s => { s with found := [] }

/-- The variables that programs see. -/
def State.environment (s : State) : List (Octets × Octets) :=
  s.bindings.filterMap fun (n, v) =>
    match v.value with
    | some value => if v.exported then some (n, value) else none
    | none => none

/-- The search path of a shell without one. -/
def defaultPath : Octets :=
  "/usr/local/sbin:/usr/local/bin:/usr/sbin:/usr/bin:/sbin:/bin"

/-! ## Files -/

/-- What a complaint says about a file that cannot be opened. -/
def openingText (creating : Bool) (r : Refusal) : Octets :=
  match r with
  | .noEntry => if creating then "Directory nonexistent" else "No such file"
  | .notDirectory => if creating then "Directory nonexistent" else "No such file"
  | r => Octets.ofText r.text

/-- What a complaint says about a program that cannot be run. -/
def runningText (r : Refusal) : Octets :=
  match r with
  | .noEntry => "not found"
  | .notDirectory => "not found"
  | r => Octets.ofText r.text

/-- The descriptor that the path of a device stands for. -/
def deviceDescriptor? (path : Octets) : Option Nat :=
  if path = "/dev/stdin" then some 0
  else if path = "/dev/stdout" then some 1
  else if path = "/dev/stderr" then some 2
  else if ("/dev/fd/" : Octets).isPrefixOf path then Octets.toNat? (path.drop 8)
  else none

/-- The node that a path names. -/
def State.nodeAt (s : State) (path : Octets) : Except Refusal Node :=
  s.world.tree.locate s.cwd path.toText

/-- Whether a path names a directory. -/
def State.isDirectory (s : State) (path : Octets) : Bool :=
  match s.nodeAt path with
  | .ok node => node.isDirectory
  | .error _ => false

/-- The components of a file that may have to be made. -/
def State.placeOf (s : State) (path : Octets) : Except Refusal (List Text) :=
  match s.world.tree.partsOf true s.cwd path.toText with
  | .ok parts => .ok parts
  | .error .noEntry =>
    let name : Octets := (path.reverse.takeWhile (· ≠ '/')).reverse
    let directory : Octets := path.take (path.length - name.length)
    let above : Except Refusal (List Text) :=
      if directory.isEmpty then .ok s.cwd.parts
      else s.world.tree.partsOf true s.cwd directory.toText
    match above with
    | .error r => .error r
    | .ok parts =>
      if name.isEmpty then .error .noEntry
      else if !s.world.tree.isDirectoryAt parts then .error .notDirectory
      else
        match s.world.tree.find? (parts ++ [name.toText]) with
        | some (.link target) => .ok (Path.resolve ⟨.root, parts⟩ (.ofText target)).parts
        | _ => .ok (parts ++ [name.toText])
  | .error r => .error r

/-- A channel to read a file. -/
def State.openToRead (s : State) (path : Octets) (writes : Bool) : Except Refusal Channel := do
  let parts ← s.world.tree.partsOf true s.cwd path.toText
  match s.world.tree.find? parts with
  | some (.file _ _) => .ok (.file parts 0 true writes false)
  | some .device => .ok .null
  | some (.sealed _) => .error .denied
  | some _ => if writes then .error .isDirectory else .ok .directory
  | none => .error .noEntry

/-- A channel to write a file, and the world with the file. -/
def State.openToWrite (s : State) (path : Octets) (appends keeps reads : Bool) :
    Except Refusal (Channel × World) := do
  if path.getLast? = some '/' then
    match s.world.tree.locate s.cwd path.toText with
    | .error .notDirectory => .error .notDirectory
    | _ => .error .isDirectory
  else
    let parts ← s.placeOf path
    match s.world.tree.find? parts with
    | some .dir | some .locked => .error .isDirectory
    | some .device => .ok (.null, s.world)
    | some (.sealed _) => .error .denied
    | some (.file _ _) =>
      let world := if appends || keeps then s.world else s.world.setFileBytes parts []
      .ok (.file parts 0 reads true appends, world)
    | _ =>
      .ok (.file parts 0 reads true appends, s.world.setFileBytes parts [])

end Shell

end FlowLens
