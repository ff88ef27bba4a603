/-
  Checkers that are shared by all who ask for one.  The checker that is built
  first for a program is kept.  Who asks for that program again is handed it, or
  a copy of it with the debugging switch of the settings, which are read anew
  each time; the copies write into the registry of the checker that is kept.

  * `Shared.wanted` is what the settings of a project ask for;
  * `Shared.keep`, `Shared.switch` and `Shared.checkerFor` hand out a checker;
  * `Shared.withChecker` lets it work in its registry;
  * `Shared.atExit` runs the exit hooks.
-/
import FlowLens.Checker.Collect
import FlowLens.Process.Located
import FlowLens.Settings.Locate

namespace FlowLens

/-- The roots to be stopped at exit, and the program that stops them. -/
structure Registry where
  /-- The program. -/
  binary : Text
  /-- The roots. -/
  ledger : Ledger
  deriving DecidableEq, Repr

/-- A checker and the registry that it writes into. -/
structure SharedChecker extends Checker where
  /-- The number of the registry. -/
  registry : Nat
  deriving DecidableEq, Repr

/-- The checkers that are kept, and the registries. -/
structure Shared where
  /-- The checkers, by program. -/
  kept : List (Text × SharedChecker)
  /-- The registries, in the order in which they were made; their numbers start
      at zero. -/
  registries : List Registry
  /-- The registries with an exit hook, in the order in which they got it. -/
  hooks : List Nat
  deriving DecidableEq, Repr

/-- Why a shared checker gives nothing. -/
inductive SharedFault where
  /-- The settings cannot be used. -/
  | settings (fault : SettingsFault)
  /-- There is no checker to run. -/
  | locate (fault : LocateFault)
  /-- The check fails. -/
  | failure (fault : Failure)
  deriving DecidableEq, Repr

namespace Shared

/-- Nobody has asked yet. -/
def empty : Shared :=
  ⟨[], [], []⟩

/-! ## Handing out a checker -/

/-- Builds a checker.  Without a registry to write into it gets a new one. -/
def build (binary : Text) (debug : Bool) (registry : Option Nat) (s : Shared) :
    SharedChecker × Shared :=
  match registry with
  | some n => (⟨⟨binary, debug⟩, n⟩, s)
  | none =>
    (⟨⟨binary, debug⟩, s.registries.length⟩,
      { s with registries := s.registries ++ [⟨binary, .empty⟩] })

/-- The checker that is kept for a program.  The first time it is built, without
    debugging. -/
def keep (binary : Text) (s : Shared) : SharedChecker × Shared :=
  match s.kept.lookup binary with
  | some c => (c, s)
  | none =>
    let (c, s) := build binary false none s
    (c, { s with kept := s.kept ++ [(binary, c)] })

/-- A checker with debugging on or off; a copy if that is not what it has. -/
def switch (debug : Bool) (c : SharedChecker) (s : Shared) : SharedChecker × Shared :=
  if c.debug = debug then (c, s) else build c.binary debug (some c.registry) s

/-- What the settings of the moment ask for, of a project or without one. -/
def wanted (host : Host) (root : Option Path) : Except SharedFault Checker :=
  match Settings.load host.tree host.cwd host.env root with
  | .error fault => .error (.settings fault)
  | .ok settings =>
    match host.checkerFor settings root with
    | .error fault => .error (.locate fault)
    | .ok binary => .ok ⟨binary, settings.debug⟩

/-- The checker that is handed out for a project, or without one. -/
def checkerFor (host : Host) (root : Option Path) (s : Shared) :
    Except SharedFault SharedChecker × Shared :=
  match wanted host root with
  | .error fault => (.error fault, s)
  | .ok w =>
    let (c, s) := keep w.binary s
    let (c, s) := switch w.debug c s
    (.ok c, s)

/-! ## Working with it -/

/-- A registry by its number; one that was never made has no roots. -/
def registry (s : Shared) (n : Nat) : Registry :=
  s.registries[n]?.getD ⟨[], .empty⟩

/-- The state after the ledger of a registry became `ledger`.  If the ledger asks
    for its exit hook for the first time, the hook is registered. -/
def update (s : Shared) (n : Nat) (ledger : Ledger) : Shared :=
  { s with
    registries := s.registries.modify n fun r => { r with ledger }
    hooks :=
      if ledger.hooked && !(s.registry n).ledger.hooked then s.hooks ++ [n] else s.hooks }

/-- Something done with the checker for a project, in its registry. -/
def withChecker {α : Type} (host : Host) (root : Text)
    (work : Checker → Session → Except Failure α × Session) (x : Exchange) (s : Shared) :
    Except SharedFault α × Exchange × Shared :=
  match checkerFor host (some (.ofText root)) s with
  | (.error fault, s) => (.error fault, x, s)
  | (.ok c, s) =>
    let (result, session) := work c.toChecker ⟨x, (s.registry c.registry).ledger⟩
    (result.mapError .failure, session.exchange, s.update c.registry session.ledger)

/-- The diagnostics of a text. -/
def collect (host : Host) (r : Request) (offset : Except OffsetFault Offset) (x : Exchange)
    (s : Shared) : Except SharedFault (Outcome (List Diagnostic)) × Exchange × Shared :=
  withChecker host r.root (fun c => c.collect (.located host) host.cwd r offset) x s

/-- The coverage of a text. -/
def coverage (host : Host) (r : Request) (x : Exchange) (s : Shared) :
    Except SharedFault (Outcome Coverage) × Exchange × Shared :=
  withChecker host r.root (fun c => c.coverage (.located host) r) x s

/-! ## Exit -/

/-- Runs the hooks of some registries one after the other, up to the first fault. -/
def runHooks (host : Host) :
    List Nat → Exchange → Shared → Except CallFault Unit × Exchange × Shared
  | [], x, s => (.ok (), x, s)
  | n :: rest, x, s =>
    let r := s.registry n
    let (result, session) := Checker.stopAll (.located host) r.binary ⟨x, r.ledger⟩
    let s := s.update n session.ledger
    match result with
    | .ok () => runHooks host rest session.exchange s
    | .error fault => (.error fault, session.exchange, s)

/-- Runs the exit hooks, the last one first. -/
def atExit (host : Host) (x : Exchange) (s : Shared) : Except CallFault Unit × Exchange × Shared :=
  runHooks host s.hooks.reverse x s

end Shared

end FlowLens
