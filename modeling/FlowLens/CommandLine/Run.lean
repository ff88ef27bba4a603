/-
  Following a command line: settings, checker and source are found in this order,
  the checker is run, and what comes of it is written out.

  * `run` follows a command line;
  * `Ended.atExit` does what is left to be done at exit.
-/
import FlowLens.Checker.Collect
import FlowLens.CommandLine.Options
import FlowLens.Console.Announce
import FlowLens.Console.Table
import FlowLens.Json.Printer
import FlowLens.Settings.Locate

namespace FlowLens

namespace CommandLine

/-- Why a command line comes to no regular end. -/
inductive Fault where
  /-- It cannot be followed. -/
  | usage (fault : UsageFault)
  /-- The settings cannot be used, for a reason that is not announced. -/
  | settings (fault : SettingsFault)
  /-- A path cannot be worked out, or a place cannot be looked at. -/
  | locate (fault : LocateFault)
  /-- The source is no text. -/
  | notText
  /-- The check fails. -/
  | failure (fault : Failure)
  /-- Nothing can be announced. -/
  | announce (fault : AnnounceFault)
  /-- The diagnostics cannot be shown. -/
  | table (fault : TableFault)
  /-- The coverage cannot be told. -/
  | coverage (fault : CoverageFault)
  deriving DecidableEq, Repr

/-- How a command line ends. -/
inductive Conclusion where
  /-- With a status. -/
  | exit (code : Nat)
  /-- With a fault. -/
  | broken (fault : Fault)
  deriving DecidableEq, Repr

/-- What a command line leaves behind. -/
structure Ended where
  /-- What is on the standard output. -/
  stdout : Printout
  /-- What is on the error stream. -/
  stderr : Text
  /-- How it ended. -/
  conclusion : Conclusion
  /-- The checker that was run, if it came to that. -/
  checker : Option Checker
  /-- The calls and the roots to be stopped. -/
  session : Session

/-- An announcement on an error stream that is no terminal. -/
def say (env : Environment) (tone : Tone) (useEmoji : Bool) (msg : Text) : Except Fault Text :=
  (announce env .pipe tone useEmoji none msg).mapError .announce

/-! ## Finding what is needed -/

/-- What is needed to run the checker. -/
structure Setup where
  /-- The root of the project. -/
  root : Path
  /-- The settings. -/
  settings : Settings
  /-- The checker. -/
  checker : Checker
  /-- The file. -/
  target : Path
  /-- The text. -/
  source : Text

/-- An end before the checker is run. -/
inductive Early where
  /-- With a status, after an announcement. -/
  | exit (code : Nat) (stderr : Text)
  /-- With a fault. -/
  | broken (fault : Fault)

/-- The end with a status after an announcement. -/
def Early.announced (code : Nat) : Except Fault Text → Early
  | .ok stderr => .exit code stderr
  | .error fault => .broken fault

/-- An announcement of a failure. -/
def complain (env : Environment) (msg : Text) : Except Fault Text :=
  say env .fail false msg

/-- How a command line ends without settings.  Of a file that cannot be read and
    of settings with problems only the first line is said, and left open. -/
def withoutSettings (env : Environment) (fault : SettingsFault) : Early :=
  let said := complain env fault.message
  match fault with
  | .unreadable _ => .announced 2 (said.map List.dropLast)
  | .invalid _ => .announced 2 (said.map List.dropLast)
  | .notTable _ => .announced 2 said
  | fault => .broken (.settings fault)

/-- How a command line ends without a checker. -/
def withoutChecker (env : Environment) : LocateFault → Early
  | .notFound searched => .announced 1 (complain env (LocateFault.notFound searched).message)
  | fault => .broken (.locate fault)

/-- A path with its links worked out. -/
def follow (host : Host) (p : Path) : Except Early Path :=
  match host.realPath p with
  | .ok p => .ok p
  | .error cause => .error (.broken (.locate (.impasse cause)))

/-- The text of a file. -/
def readFile (host : Host) (target : Path) : Except Early Text :=
  match host.tree.read host.cwd target.text with
  | .error refusal =>
    .error (.announced 2 (complain host.env
      ("Unable to read " ++ target.text ++ ": " ++ (refusal.about target.text).message)))
  | .ok bytes =>
    match Utf8.decode? bytes with
    | some t => .ok t.unixLines
    | none => .error (.broken .notText)

/-- What is needed to run the checker, found in order. -/
def setup (host : Host) (stdin : Text) (c : Common) : Except Early Setup := do
  let root ← follow host (c.root.getD host.cwd)
  let settings ←
    match Settings.load host.tree host.cwd host.env (some root) with
    | .ok s => .ok s
    | .error fault => .error (withoutSettings host.env fault)
  let binary ←
    match host.checkerFor settings (some root) with
    | .ok b => .ok b
    | .error fault => .error (withoutChecker host.env fault)
  let target ← follow host c.file
  let source ← if c.fromStdin then .ok stdin.unixLines else readFile host target
  return ⟨root, settings, ⟨binary, settings.debug⟩, target, source⟩

/-- The text that the checker is asked about. -/
def Setup.request (p : Setup) (c : Common) : FlowLens.Request :=
  ⟨p.source, p.root.text, p.target.text, c.stop.getD p.settings.stopOnExit⟩

/-! ## Writing out -/

/-- What a command writes, and its status. -/
structure Written where
  /-- What goes to the standard output. -/
  stdout : Printout
  /-- What goes to the error stream. -/
  stderr : Text
  /-- The status. -/
  code : Nat

/-- A value on the standard output; one with an integer of too many digits is
    refused. -/
def jsonPrintout (v : Value) : Except Fault Printout :=
  if Json.writable v then .ok (.ofText (Json.print v ++ "\n"))
  else .error (.failure (.tooLong .writing))

/-- What is said if the checker gave no output. -/
def unsupportedNotice : Text :=
  "Flow produced no output; this platform may not be supported"

/-- The number of errors and warnings. -/
def tally (r : LintReport) : Text :=
  natText (r.count .error) ++ " error(s), " ++ natText (r.count .warning) ++ " warning(s)"

/-- What is written about the diagnostics of a file. -/
def writeLint (env : Environment) (c : Common) (r : LintReport) : Except Fault Written := do
  let code := if r.failed then 1 else 0
  if c.json then return ⟨← jsonPrintout r.payload, [], code⟩
  match r.status with
  | .skipped => return ⟨[], ← say env .info c.emoji (c.file.text ++ ": nothing to check"), code⟩
  | .unsupported => return ⟨[], ← say env .warn c.emoji unsupportedNotice, code⟩
  | .ok =>
    if r.diagnostics.isEmpty then
      return ⟨[], ← say env .ok c.emoji (c.file.text ++ ": no Flow errors"), code⟩
    else
      let table ← (r.table env).mapError .table
      let tone : Tone := if r.failed then .fail else .warn
      return ⟨table, ← say env tone c.emoji (tally r), code⟩

/-- A fault of a coverage. -/
def orCoverageFault {α : Type} : Except CoverageFault α → Except Fault α
  | .ok a => .ok a
  | .error fault => .error (.coverage fault)

/-- An integer in a message. -/
def countText (n : Int) : Except Fault Text :=
  match boundedIntText n with
  | .ok t => .ok t
  | .error cause => .error (.coverage (.tooLong cause))

/-- How far a file is covered, in words. -/
def coverageSummary (r : CoverageReport) : Except Fault Text := do
  let percent ← orCoverageFault r.percent
  let covered ← countText r.result.covered
  let total ← countText r.result.total
  return r.path ++ ": " ++ percent.text ++ "% covered (" ++ covered ++ "/" ++ total
    ++ " expressions)"

/-- What is announced about a coverage. -/
def announceCoverage (env : Environment) (c : Common) (r : CoverageReport)
    (minimum : Option Amount) :
    Except Fault Text := do
  match r.status with
  | .skipped => say env .info c.emoji (r.path ++ ": nothing to measure")
  | .unsupported => say env .warn c.emoji unsupportedNotice
  | .ok =>
    let summary ← coverageSummary r
    let short ←
      match minimum with
      | none => .ok none
      | some least => orCoverageFault (r.thresholdDiagnostic least)
    match short with
    | some d => say env .fail c.emoji (summary ++ ". " ++ d.message)
    | none => say env .ok c.emoji summary

/-- What is written about the coverage of a file. -/
def writeCoverage (env : Environment) (c : Common) (r : CoverageReport) (minimum : Option Amount) :
    Except Fault Written := do
  let stdout ← if c.json then jsonPrintout (← orCoverageFault r.payload) else .ok []
  let stderr ← if c.json then .ok [] else announceCoverage env c r minimum
  let enough ← orCoverageFault (r.meets minimum)
  return ⟨stdout, stderr, if enough then 0 else 1⟩

/-! ## Following a command line -/

/-- The end of a command that ran the checker.  Warnings about the run come
    first. -/
def finish {α : Type} (checker : Checker) (write : α → Except Fault Written) :
    Except Failure α × Session → Ended
  | (result, s) =>
    let warnings := Text.unlines s.exchange.warnings
    let written : Except Fault Written :=
      match result with
      | .ok a => write a
      | .error fault => .error (.failure fault)
    match written with
    | .ok w => ⟨w.stdout, warnings ++ w.stderr, .exit w.code, some checker, s⟩
    | .error fault => ⟨[], warnings, .broken fault, some checker, s⟩

/-- The end of a command that did not run the checker. -/
def endEarly (x : Exchange) : Early → Ended
  | .exit code stderr => ⟨[], stderr, .exit code, none, ⟨x, .empty⟩⟩
  | .broken fault => ⟨[], [], .broken fault, none, ⟨x, .empty⟩⟩

/-- Checks a file. -/
def runCheck (runner : Runner) (host : Host) (stdin : Text) (x : Exchange) (c : Common)
    (line column : Int) : Ended :=
  match setup host stdin c with
  | .error early => endEarly x early
  | .ok p =>
    finish p.checker (fun outcome => writeLint host.env c (.ofOutcome p.target.text outcome))
      (p.checker.collectAt runner host.cwd (p.request c) (.ofInts line column) ⟨x, .empty⟩)

/-- Measures the coverage of a file.  What the command line expects comes before
    what the settings expect. -/
def runCoverage (runner : Runner) (host : Host) (stdin : Text) (x : Exchange) (c : Common)
    (minimum : Option Double) : Ended :=
  match setup host stdin c with
  | .error early => endEarly x early
  | .ok p =>
    let least := (minimum.or p.settings.minCoverage).map Amount.real
    finish p.checker
      (fun outcome => writeCoverage host.env c (.ofOutcome p.target.text outcome) least)
      (p.checker.coverage runner (p.request c) ⟨x, .empty⟩)

/-- A conclusion that takes a console to be told, which may have a fault of its own. -/
def onConsole (env : Environment) (e : Conclusion) : Conclusion :=
  match env.console false with
  | .ok console =>
    match roomFault? console.width with
    | some fault => .broken (.announce (.room fault))
    | none => e
  | .error fault => .broken (.announce (.console fault))

/-- A conclusion as the whole program tells it: a fault of the command line itself is
    told on the console and gives a status. -/
def Conclusion.told (env : Environment) : Conclusion → Conclusion
  | .broken (.usage _) => onConsole env (.exit 2)
  | e => e

/-- The end of a command line that leads to no command. -/
def endWithout (x : Exchange) (e : Conclusion) : Ended :=
  ⟨[], [], e, none, ⟨x, .empty⟩⟩

/-- Follows a command line, with the calls of an exchange carried out by a
    runner.  One without arguments is told how to use the program, as is one that
    asks for it. -/
def run (runner : Runner) (host : Host) (stdin : Text) (x : Exchange) (args : List Text) : Ended :=
  match parse args with
  | .error .noArguments => endWithout x (onConsole host.env (.broken (.usage .noArguments)))
  | .error fault => endWithout x (.broken (.usage fault))
  | .ok .help => endWithout x (onConsole host.env (.exit 0))
  | .ok (.check c line column) => runCheck runner host stdin x c line column
  | .ok (.coverage c minimum) => runCoverage runner host stdin x c minimum

/-- Stops what is to be stopped at exit. -/
def Ended.atExit (runner : Runner) (e : Ended) : Except CallFault Unit × Session :=
  match e.checker with
  | some c =>
    if e.session.ledger.hooked then Checker.stopAll runner c.binary e.session
    else (.ok (), e.session)
  | none => (.ok (), e.session)

end CommandLine

end FlowLens
