/-
  Settings: which checker to run and how, from the settings file of a project and
  the environment.

  * `Settings.check` reads settings from a document;
  * `Settings.load` finds them for a project.
-/
import FlowLens.Schema.Scalar
import FlowLens.System.Host
import FlowLens.Text.LowerCase
import FlowLens.Text.Utf8
import FlowLens.Toml.Reader

namespace FlowLens

/-- How the checker is to be run. -/
structure Settings where
  /-- The checker, if it is not to be looked for. -/
  flowBin : Option Path
  /-- Whether diagnostics carry the whole report. -/
  debug : Bool
  /-- Whether servers are stopped at exit. -/
  stopOnExit : Bool
  /-- The least coverage in percent. -/
  minCoverage : Option Double
  deriving DecidableEq, Repr

/-- Why there are no settings. -/
inductive SettingsFault where
  /-- The settings file is no TOML, or may not be opened. -/
  | unreadable (file : Path)
  /-- The settings are no table. -/
  | notTable (file : Path)
  /-- The settings have problems. -/
  | invalid (problems : List Problem)
  /-- The settings file cannot be looked at. -/
  | refused (e : SystemFault)
  /-- The settings file is no text. -/
  | notText
  /-- The settings file holds an integer of too many digits. -/
  | tooLong (cause : TooManyDigits)
  deriving DecidableEq, Repr

/-- The first line of the wording of a fault. -/
def SettingsFault.message : SettingsFault → Text
  | unreadable file => "Failed to read " ++ file.text
  | notTable file => "[tool.flowdiag] in " ++ file.text ++ " must be a table"
  | invalid problems =>
    "Invalid flowdiag configuration: " ++ natText problems.length ++
      (if problems.length = 1 then " validation error" else " validation errors") ++
      " for FlowSettings"
  | refused e => e.message
  | notText => []
  | tooLong cause => cause.message

namespace Settings

/-- What the checker is called. -/
def flowBinField : Field := ⟨"flow_bin", "flow-bin"⟩

/-- What the debugging switch is called. -/
def debugField : Field := .plain "debug"

/-- What the switch for stopping servers is called. -/
def stopField : Field := ⟨"stop_on_exit", "stop-on-exit"⟩

/-- What the least coverage is called. -/
def minCoverageField : Field := ⟨"min_coverage", "min-coverage"⟩

/-- The settings that a document gives; it may give nothing else. -/
def check : Value → Checked Settings :=
  checkRecord fun members =>
    (fun flowBin debug stopOnExit minCoverage _ => Settings.mk flowBin debug stopOnExit minCoverage)
      <$> members.optional flowBinField none (checkNullable checkPath)
      <*> members.optional debugField false checkBool
      <*> members.optional stopField false checkBool
      <*> members.optional minCoverageField none (checkNullable (checkDoubleWithin 0 100))
      <*> members.onlyFields [flowBinField, debugField, stopField, minCoverageField]

/-- Settings as a document. -/
def toValue (naming : Naming) (s : Settings) : Value :=
  .obj [(flowBinField.label naming, .ofOption (fun p => .str p.text) s.flowBin),
    (debugField.label naming, .bool s.debug), (stopField.label naming, .bool s.stopOnExit),
    (minCoverageField.label naming, .ofOption .float s.minCoverage)]

/-! ## Where settings come from -/

/-- The part of a settings file that is meant for this program. -/
def sectionOf (file : Path) (document : Members) : Except SettingsFault Members :=
  match document.get? "tool" with
  | some (.obj tool) =>
    match Members.get? "flowdiag" tool with
    | none => .ok []
    | some (.obj settings) => .ok settings
    | some _ => .error (.notTable file)
  | _ => .ok []

/-- The document that the bytes of a settings file hold. -/
def documentOf (file : Path) (bytes : List UInt8) : Except SettingsFault Members :=
  match Utf8.decode? bytes with
  | none => .error .notText
  | some t =>
    match Toml.read t with
    | .ok members => .ok members
    | .error .malformed => .error (.unreadable file)
    | .error (.tooLong cause) => .error (.tooLong cause)

/-- The settings that a project's file gives; without such a file, none. -/
def fromFile (tree : FileTree) (cwd root : Path) : Except SettingsFault Members :=
  let file := root.child "pyproject.toml"
  match tree.regular? cwd file.text with
  | .ok (some (some bytes, _)) => do sectionOf file (← documentOf file bytes)
  | .ok (some (none, _)) => .error (.unreadable file)
  | .ok none => .ok []
  | .error r => .error (.refused (r.about file.text))

/-- Whether a variable switches something on. -/
def isOn (value : Option Text) : Bool :=
  match value with
  | none => false
  | some t => ["1", "true", "yes", "on"].any fun w => Text.ofString w = t.strip.lower

/-- Settings with those of the environment set over them. -/
def overlay (env : Environment) (members : Members) : Members :=
  let members :=
    match Environment.get? "FLOW_BIN" env with
    | some (c :: rest) => members.put flowBinField.key (.str (c :: rest))
    | _ => members
  if isOn (Environment.get? "DEBUG_FLOWTYPE_ERRORS" env) ||
      isOn (Environment.get? "DEBUG_FLOWTYPE_ERRRORS" env) then
    members.put debugField.key (.bool true)
  else members

/-- The settings for a project, or without one. -/
def load (tree : FileTree) (cwd : Path) (env : Environment) (root : Option Path) :
    Except SettingsFault Settings := do
  let members ←
    match root with
    | some root => fromFile tree cwd root
    | none => .ok []
  match check (.obj (overlay env members)) with
  | .good s => .ok s
  | .bad problems => .error (.invalid problems)

end Settings

end FlowLens
