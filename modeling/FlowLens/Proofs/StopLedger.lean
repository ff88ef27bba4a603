/-
  The servers that a session leaves to be stopped, over all that one checker is
  asked to do.  Each time a root is newly scheduled it is stopped once, or still
  waits for it.

  * `Turn`, one thing that the checker is asked to do, with what its calls give;
  * `Chronicle`, what became of some turns, and `Chronicle.after`, one more turn;
  * `Chronicle.Kept`, the invariant, `Chronicle.kept_after`, one turn keeps it,
    and `kept_chronicle`, so do all of them.
-/
import FlowLens.Checker.Collect
import FlowLens.Proofs.Ledger
import Mathlib

namespace FlowLens

/-! ## Turns -/

/-- What a checker is asked to do. -/
inductive Deed where
  /-- The diagnostics of a text. -/
  | collect (r : Request) (offset : Except OffsetFault Offset)
  /-- The summary of the diagnostics of a text. -/
  | lint (r : Request) (offset : Except OffsetFault Offset)
  /-- The coverage of a text. -/
  | coverage (r : Request)
  /-- The summary of the coverage of a text. -/
  | coverageReport (r : Request)
  /-- The plain output for a text. -/
  | invoke (mode : Text) (r : Request)
  /-- A root is to be stopped at exit. -/
  | schedule (root : Text)
  /-- Whether a root is to be stopped at exit. -/
  | isScheduled (root : Text)
  /-- The servers of all roots are to be stopped now. -/
  | stopAll
  /-- The exit hooks are to run. -/
  | exit

/-- What comes of it. -/
inductive Reply where
  /-- Diagnostics. -/
  | collected (result : Except Failure (Outcome (List Diagnostic)))
  /-- A summary of diagnostics. -/
  | linted (result : Except Failure LintReport)
  /-- Coverage. -/
  | covered (result : Except Failure (Outcome Coverage))
  /-- A summary of coverage. -/
  | coverageReported (result : Except Failure CoverageReport)
  /-- An output. -/
  | invoked (result : Except CallFault Invocation)
  /-- Yes or no. -/
  | answered (yes : Bool)
  /-- The servers were stopped, unless there was a fault. -/
  | stopped (result : Except CallFault Unit)

/-- Something to do, with what the calls made for it give. -/
structure Turn where
  /-- What is to be done. -/
  deed : Deed
  /-- What its calls give. -/
  runs : List Run

/-- Stops all servers once for each exit hook, up to the first fault. -/
def runHooks (binary : Text) : Nat → Session → Except CallFault Unit × Session
  | 0, s => (.ok (), s)
  | hooks + 1, s =>
    match Checker.stopAll .scripted binary s with
    | (.ok (), s) => runHooks binary hooks s
    | (.error fault, s) => (.error fault, s)

/-- Does what is to be done, when so many exit hooks are registered. -/
def Deed.perform (c : Checker) (cwd : Path) (hooks : Nat) (s : Session) : Deed → Reply × Session
  | .collect r offset => (c.collect .scripted cwd r offset s).map .collected id
  | .lint r offset =>
    (c.collect .scripted cwd r offset s).map (fun x => .linted (x.map (.ofOutcome r.file))) id
  | .coverage r => (c.coverage .scripted r s).map .covered id
  | .coverageReport r =>
    (c.coverage .scripted r s).map (fun x => .coverageReported (x.map (.ofOutcome r.file))) id
  | .invoke mode r => (c.invoke .scripted mode r s).map .invoked id
  | .schedule root =>
    (.answered (s.ledger.schedule root).1, ⟨s.exchange, (s.ledger.schedule root).2⟩)
  | .isScheduled root => (.answered (s.ledger.isScheduled root), s)
  | .stopAll => (Checker.stopAll .scripted c.binary s).map .stopped id
  | .exit => (runHooks c.binary hooks s).map .stopped id

/-- The mode and the text that a checker is run on, if it is run.  An offset
    that cannot be taken in comes before that. -/
def Deed.check? : Deed → Option (Text × Request)
  | .collect r (.ok _) | .lint r (.ok _) => some ("check-contents", r)
  | .coverage r | .coverageReport r => some ("coverage", r)
  | .invoke mode r => some (mode, r)
  | _ => none

/-- Whether there is some output. -/
def Run.answers : Run → Bool
  | .prints (some (_ :: _)) _ => true
  | _ => false

/-- The root that is to be stopped after a text was checked: there was a text
    and an output, and the request says so. -/
def Request.asks (r : Request) (run : Run) : Option Text :=
  if r.source ≠ [] ∧ r.stop = true ∧ run.answers = true then some r.root else none

/-- The root that a turn asks to have stopped at exit. -/
def Turn.asks (t : Turn) : Option Text :=
  match t.deed with
  | .schedule root => some root
  | deed => deed.check?.bind fun check => check.2.asks (Script.ofList t.runs).next

/-! ## Chronicles -/

/-- What became of the turns of a session. -/
structure Chronicle where
  /-- The calls and the ledger. -/
  session : Session
  /-- How often an exit hook was registered. -/
  hooks : Nat
  /-- The roots that were newly scheduled, in order. -/
  news : List Text
  /-- The replies, in order. -/
  replies : List Reply

namespace Chronicle

/-- Nothing was asked yet. -/
def start : Chronicle :=
  ⟨⟨.start .silent, .empty⟩, 0, [], []⟩

/-- The root that a turn newly schedules: it asks for one that is not scheduled. -/
def newly (h : Chronicle) (t : Turn) : Option Text :=
  t.asks.filter fun root => !h.session.ledger.isScheduled root

/-- The session in which a turn is taken. -/
def prepared (h : Chronicle) (t : Turn) : Session :=
  ⟨{ h.session.exchange with script := .ofList t.runs }, h.session.ledger⟩

/-- The reply to a turn, and the session after it. -/
def take (c : Checker) (cwd : Path) (h : Chronicle) (t : Turn) : Reply × Session :=
  t.deed.perform c cwd h.hooks (h.prepared t)

/-- One more turn.  A hook is registered when the ledger says so for the first
    time. -/
def after (c : Checker) (cwd : Path) (h : Chronicle) (t : Turn) : Chronicle where
  session := (h.take c cwd t).2
  hooks := h.hooks +
    if (h.take c cwd t).2.ledger.hooked && !h.session.ledger.hooked then 1 else 0
  news := h.news ++ (h.newly t).toList
  replies := h.replies ++ [(h.take c cwd t).1]

/-- How often the server of a root was stopped. -/
def stops (binary root : Text) (h : Chronicle) : Nat :=
  h.session.exchange.calls.countP (·.args = [binary, "stop", root])

end Chronicle

/-- What becomes of some turns. -/
def chronicle (c : Checker) (cwd : Path) (turns : List Turn) : Chronicle :=
  turns.foldl (Chronicle.after c cwd) .start

/-! ## What a turn does -/

namespace Checker

variable {c : Checker} {mode binary : Text} {r : Request} {s : Session} {x : Exchange}

theorem ledger_takeOutput (out : Output) (ledger : Ledger) :
    (takeOutput r out ledger).2 =
      ledger.noted (if out.stdout.getD [] ≠ [] ∧ r.stop = true then some r.root else none) := by
  unfold takeOutput
  cases out.stdout.getD [] with
  | nil => rfl
  | cons a rest => cases hs : r.stop <;> rfl

/-- A check schedules its root if that is asked for. -/
theorem ledger_invoke :
    (c.invoke .scripted mode r s).2.ledger = s.ledger.noted (r.asks s.exchange.script.next) := by
  by_cases hsource : r.source = []
  · simp [invoke, Request.asks, hsource, Ledger.noted]
  · rw [invoke, if_neg (by simpa using hsource)]
    simp only [Runner.scripted]
    cases s.exchange.script.next with
    | prints stdout code =>
      refine (ledger_takeOutput ⟨stdout, code⟩ s.ledger).trans ?_
      rcases stdout with _ | _ | ⟨a, rest⟩ <;> simp [Request.asks, Run.answers, hsource]
    | refused | badValue | fails | timesOut =>
      simp [Request.asks, Run.answers, Run.result, Ledger.noted]

/-- A check makes no call but its own. -/
theorem calls_invoke (c : Checker) (mode : Text) (r : Request) (s : Session) :
    ∃ made, (c.invoke .scripted mode r s).2.exchange.calls = s.exchange.calls ++ made ∧
      ∀ call ∈ made, call = c.callFor mode r := by
  by_cases hempty : r.source.isEmpty = true
  · exact ⟨[], by simp [invoke, hempty], by simp⟩
  · refine ⟨[c.callFor mode r], ?_, by simp⟩
    rw [invoke, if_neg hempty]
    simp only [Runner.scripted]
    cases s.exchange.script.next <;> rfl

/-- The first of some stops, and then the others. -/
theorem stopEach_cons_of_ok {run : Runner} {root : Text} {rest : List Text}
    (hok : (stopEach run binary (root :: rest) x).1 = .ok ()) :
    stopEach run binary [root] x = (.ok (), (run (stopCall binary root) x).2) ∧
      stopEach run binary (root :: rest) x =
        stopEach run binary rest (run (stopCall binary root) x).2 := by
  simp only [stopEach] at hok ⊢
  rcases hrun : run (stopCall binary root) x with ⟨(fault | out), x'⟩
  · cases fault with
    | system => exact ⟨rfl, rfl⟩
    | badValue | failed | timedOut => simp only [hrun, reduceCtorEq] at hok
  · exact ⟨rfl, rfl⟩

theorem stopEach_of_ok {roots : List Text}
    (hok : (stopEach .scripted binary roots x).1 = .ok ()) :
    (stopEach .scripted binary roots x).2.calls = x.calls ++ roots.map (stopCall binary) := by
  induction roots generalizing x with
  | nil => simp [stopEach]
  | cons root rest ih =>
    have hrest := (stopEach_cons_of_ok hok).2
    rw [hrest] at hok ⊢
    rw [ih hok, List.map_cons]
    simp [Runner.scripted]

@[simp]
theorem snd_tell {α : Type} (read : Text → Except Failure α)
    (p : Except CallFault Invocation × Session) : (tell read p).2 = p.2 := by
  rcases p with ⟨_ | (_ | _ | _), _⟩ <;> rfl

end Checker

theorem ledger_runHooks_succ (binary : Text) (hooks : Nat) (s : Session) :
    (runHooks binary (hooks + 1) s).2.ledger = s.ledger.settle := by
  induction hooks generalizing s with
  | zero =>
    rw [runHooks]
    rcases hstop : Checker.stopAll .scripted binary s with ⟨_ | _, s'⟩ <;>
      exact (congrArg (·.2.ledger) hstop).symm
  | succ hooks ih =>
    rw [runHooks]
    rcases hstop : Checker.stopAll .scripted binary s with ⟨_ | _, s'⟩
    all_goals have hsettle : s.ledger.settle = s'.ledger := congrArg (·.2.ledger) hstop
    · exact hsettle.symm
    · exact (ih s').trans (by rw [← hsettle, Ledger.settle_settle])

/-- Hooks make no call when no root is scheduled. -/
theorem calls_runHooks {binary : Text} {s : Session} (hooks : Nat) (hroots : s.ledger.roots = []) :
    (runHooks binary hooks s).2.exchange.calls = s.exchange.calls := by
  induction hooks generalizing s with
  | zero => rfl
  | succ hooks ih =>
    rw [runHooks, Checker.stopAll, hroots]
    exact ih Ledger.roots_settle

theorem runHooks_one (binary : Text) (s : Session) :
    runHooks binary 1 s = Checker.stopAll .scripted binary s := by
  rw [runHooks]
  rcases Checker.stopAll .scripted binary s with ⟨_ | _, _⟩ <;> rfl

theorem Deed.session_of_check? {c : Checker} {cwd : Path} {hooks : Nat} {s : Session} {d : Deed}
    {mode : Text} {r : Request} (hcheck : d.check? = some (mode, r)) :
    (d.perform c cwd hooks s).2 = (c.invoke .scripted mode r s).2 := by
  unfold Deed.check? at hcheck
  split at hcheck <;> cases hcheck <;>
    simp [Deed.perform, Checker.collect, Checker.collectAt, Checker.coverage]

theorem Turn.asks_of_check? {d : Deed} {mode : Text} {r : Request} (runs : List Run)
    (hcheck : d.check? = some (mode, r)) :
    (Turn.mk d runs).asks = r.asks (Script.ofList runs).next := by
  unfold Deed.check? at hcheck
  split at hcheck <;> cases hcheck <;> rfl

/-- All servers are stopped: every root is crossed out, and unless there is a
    fault the calls for all of them are made, in order. -/
structure StopsAll (binary : Text) (s : Session) (p : Reply × Session) : Prop where
  ledger : p.2.ledger = s.ledger.settle
  calls : ∃ result, p.1 = .stopped result ∧ (result = .ok () →
    p.2.exchange.calls = s.exchange.calls ++ s.ledger.roots.map (Checker.stopCall binary))

/-- A root is scheduled if one is asked for, and no server is stopped. -/
structure Notes (asked : Option Text) (s s' : Session) : Prop where
  ledger : s'.ledger = s.ledger.noted asked
  calls : ∃ made, s'.exchange.calls = s.exchange.calls ++ made ∧
    ∀ call ∈ made, call.args.length = 5

theorem stopsAll_stopAll (binary : Text) (s : Session) :
    StopsAll binary s ((Checker.stopAll .scripted binary s).map .stopped id) where
  ledger := rfl
  calls := ⟨_, rfl, Checker.stopEach_of_ok⟩

theorem Notes.none_self (s : Session) : Notes none s s :=
  ⟨rfl, [], by simp, by simp⟩

/-- **What a turn can do.** -/
theorem Chronicle.take_cases (c : Checker) (cwd : Path) {h : Chronicle} (t : Turn)
    (hhooks : h.hooks ≤ 1) :
    (t.asks = none ∧ StopsAll c.binary (h.prepared t) (h.take c cwd t)) ∨
      Notes t.asks (h.prepared t) (h.take c cwd t).2 := by
  obtain ⟨deed, runs⟩ := t
  cases hcheck : deed.check? with
  | some check =>
    obtain ⟨mode, r⟩ := check
    have hasks := Turn.asks_of_check? runs hcheck
    have htake : (h.take c cwd ⟨deed, runs⟩).2 =
        (c.invoke .scripted mode r (h.prepared ⟨deed, runs⟩)).2 := Deed.session_of_check? hcheck
    obtain ⟨made, hcalls, hmade⟩ := c.calls_invoke mode r (h.prepared ⟨deed, runs⟩)
    refine .inr ⟨?_, made, ?_, ?_⟩
    · rw [htake, hasks, Checker.ledger_invoke]; rfl
    · rw [htake, hcalls]
    · rintro call hcall
      rw [hmade call hcall]; rfl
  | none =>
    cases deed with
    | schedule root => exact .inr ⟨rfl, [], by simp [Chronicle.take, Deed.perform], by simp⟩
    | isScheduled root => exact .inr (.none_self _)
    | stopAll => exact .inl ⟨rfl, stopsAll_stopAll c.binary _⟩
    | exit =>
      rcases Nat.le_one_iff_eq_zero_or_eq_one.1 hhooks with hzero | hone
      · refine .inr ?_
        rw [Chronicle.take, Deed.perform, hzero]
        exact .none_self _
      · refine .inl ⟨rfl, ?_⟩
        rw [Chronicle.take, Deed.perform, hone, runHooks_one]
        exact stopsAll_stopAll c.binary _
    | collect r offset | lint r offset =>
      cases offset with
      | ok => cases hcheck
      | error => exact .inr (.none_self _)
    | coverage | coverageReport | invoke => cases hcheck

/-! ## The invariant -/

namespace Chronicle

variable {c : Checker} {cwd : Path} {h : Chronicle} {t : Turn} {binary : Text}

/-- The ledger lists what was ever scheduled in the order in which it first was;
    every news was followed by a stop or still waits for it; and there is one
    hook, once there are news. -/
structure Kept (binary : Text) (h : Chronicle) : Prop where
  distinct : h.session.ledger.Distinct
  names : h.session.ledger.names = h.news.eraseDups
  balanced : ∀ root, h.news.count root =
    h.stops binary root + if h.session.ledger.isScheduled root then 1 else 0
  hooked : h.session.ledger.hooked = true ↔ h.news ≠ []
  hooks : h.hooks = if h.news = [] then 0 else 1

theorem kept_start : Kept binary start where
  distinct := List.nodup_nil
  names := rfl
  balanced _ := rfl
  hooked := by simp [start, Ledger.empty]
  hooks := rfl

theorem Kept.hooks_le (hk : h.Kept binary) : h.hooks ≤ 1 := by
  rw [hk.hooks]
  split_ifs <;> omega

/-- A turn that stops all servers makes each root's call once, if it waits for it. -/
theorem countP_stopCall {binary : Text} {ledger : Ledger} (hd : ledger.Distinct) (root : Text) :
    (ledger.roots.map (Checker.stopCall binary)).countP (·.args = [binary, "stop", root]) =
      if ledger.isScheduled root then 1 else 0 := by
  have hcount : (ledger.roots.map (Checker.stopCall binary)).countP
      (·.args = [binary, "stop", root]) = ledger.roots.count root := by
    rw [List.countP_map, List.count]
    refine List.countP_congr fun r _ => ?_
    simp [Checker.stopCall]
  rw [hcount, Ledger.count_roots hd]

theorem stops_after {made : List Call} (root : Text)
    (hcalls : (h.take c cwd t).2.exchange.calls = h.session.exchange.calls ++ made) :
    (h.after c cwd t).stops binary root =
      h.stops binary root + made.countP (·.args = [binary, "stop", root]) := by
  rw [stops, stops, after, hcalls, List.countP_append]

theorem newly_eq_some_iff {root : Text} :
    h.newly t = some root ↔ t.asks = some root ∧ h.session.ledger.isScheduled root = false := by
  simp [newly, Option.filter_eq_some_iff]

theorem newly_of_asks_eq_none (hasks : t.asks = none) : h.newly t = none := by
  rw [newly, hasks]; rfl

/-- A root that is scheduled already changes nothing. -/
theorem noted_asks : h.session.ledger.noted t.asks = h.session.ledger.noted (h.newly t) := by
  unfold newly
  cases t.asks with
  | none => rfl
  | some root =>
    rw [Option.filter_some]
    cases hroot : h.session.ledger.isScheduled root with
    | true => simp [Ledger.noted, Ledger.schedule_of_isScheduled hroot]
    | false => rfl

theorem eraseDups_append_singleton (news : List Text) (root : Text) :
    (news ++ [root]).eraseDups =
      if root ∈ news.eraseDups then news.eraseDups else news.eraseDups ++ [root] := by
  rw [List.eraseDups_append]
  split_ifs with hmem <;> simp_all [List.removeAll, List.eraseDups_cons]

theorem kept_of_stopsAll (hk : h.Kept c.binary) (hasks : t.asks = none)
    (hstop : StopsAll c.binary (h.prepared t) (h.take c cwd t))
    (hquiet : ∀ fault, (h.take c cwd t).1 ≠ .stopped (.error fault)) :
    (h.after c cwd t).Kept c.binary := by
  obtain ⟨hledger, result, hreply, hcalls⟩ := hstop
  have hok : result = .ok () := by
    cases result with
    | ok => rfl
    | error fault => exact absurd hreply (hquiet fault)
  have hnews : (h.after c cwd t).news = h.news := by
    simp [after, newly_of_asks_eq_none hasks]
  have hledger' : (h.after c cwd t).session.ledger = h.session.ledger.settle := hledger
  refine ⟨?_, ?_, fun root => ?_, ?_, ?_⟩
  · rw [hledger']; exact Ledger.distinct_settle hk.distinct
  · rw [hledger', hnews, Ledger.names_settle, hk.names]
  · rw [hledger', hnews, Ledger.isScheduled_settle hk.distinct, stops_after root (hcalls hok),
      hk.balanced root]
    rw [show (h.prepared t).ledger = h.session.ledger from rfl, countP_stopCall hk.distinct]
    rfl
  · rw [hledger', hnews, Ledger.hooked_settle, hk.hooked]
  · have hsame : (h.take c cwd t).2.ledger.hooked = h.session.ledger.hooked := by
      rw [hledger]; rfl
    rw [hnews, ← hk.hooks]
    simp [after, hsame]

theorem kept_of_notes (hk : h.Kept c.binary)
    (hnotes : Notes t.asks (h.prepared t) (h.take c cwd t).2) :
    (h.after c cwd t).Kept c.binary := by
  obtain ⟨hledger, made, hcalls, hmade⟩ := hnotes
  replace hledger : (h.take c cwd t).2.ledger = h.session.ledger.noted (h.newly t) :=
    hledger.trans noted_asks
  have hstops : ∀ root, (h.after c cwd t).stops c.binary root = h.stops c.binary root := by
    intro root
    rw [stops_after root hcalls, Nat.add_eq_left, List.countP_eq_zero]
    intro call hcall
    have hlength := hmade call hcall
    simp only [decide_eq_true_eq]
    intro hargs
    simp [hargs] at hlength
  cases hnew : h.newly t with
  | none =>
    rw [hnew] at hledger
    have hnews : (h.after c cwd t).news = h.news := by simp [after, hnew]
    have hledger' : (h.after c cwd t).session.ledger = h.session.ledger := hledger
    have hhooks : (h.after c cwd t).hooks = h.hooks := by simp [after, hledger, Ledger.noted]
    refine ⟨?_, ?_, fun root => ?_, ?_, ?_⟩
    · rw [hledger']; exact hk.distinct
    · rw [hledger', hnews, hk.names]
    · rw [hledger', hnews, hstops, hk.balanced]
    · rw [hledger', hnews, hk.hooked]
    · rw [hhooks, hnews, hk.hooks]
  | some root =>
    obtain ⟨-, hroot⟩ := newly_eq_some_iff.1 hnew
    rw [hnew] at hledger
    have hnews : (h.after c cwd t).news = h.news ++ [root] := by simp [after, hnew]
    have hledger' : (h.after c cwd t).session.ledger = (h.session.ledger.schedule root).2 := hledger
    refine ⟨?_, ?_, fun r => ?_, ?_, ?_⟩
    · rw [hledger']; exact Ledger.distinct_schedule hk.distinct
    · rw [hledger', hnews, eraseDups_append_singleton, ← hk.names,
        Ledger.schedule_of_not_isScheduled hroot]
      exact Ledger.map_mark root _
    · rw [hledger', hnews, hstops, List.count_append, hk.balanced, Ledger.isScheduled_schedule]
      by_cases hr : r = root
      · simp [hr, hroot]
      · simp [hr, Ne.symm hr]
    · rw [hledger', hnews, Ledger.schedule_of_not_isScheduled hroot]
      simp
    · have hhooked : (h.take c cwd t).2.ledger.hooked = true := by
        rw [hledger, Ledger.noted, Ledger.schedule_of_not_isScheduled hroot]
      rw [hnews, if_neg (by simp), after, hk.hooks]
      by_cases hempty : h.news = []
      · have hfirst : h.session.ledger.hooked = false := by simpa [hempty] using hk.hooked
        simp [hhooked, hfirst, hempty]
      · have hagain : h.session.ledger.hooked = true := hk.hooked.2 hempty
        simp [hagain, hempty]

/-- **One turn keeps the invariant**, if no stop of it has a fault. -/
theorem kept_after (hk : h.Kept c.binary)
    (hquiet : ∀ fault, (h.take c cwd t).1 ≠ .stopped (.error fault)) :
    (h.after c cwd t).Kept c.binary := by
  rcases take_cases c cwd t hk.hooks_le with ⟨hasks, hstop⟩ | hnotes
  · exact kept_of_stopsAll hk hasks hstop hquiet
  · exact kept_of_notes hk hnotes

/-- A root comes into the ledger's roots when a turn asks for it, and not
    otherwise. -/
theorem mem_roots_after (hk : h.Kept c.binary) {root : Text}
    (hroot : root ∉ h.session.ledger.roots) :
    root ∈ (h.after c cwd t).session.ledger.roots ↔ t.asks = some root := by
  rw [Ledger.mem_roots_iff hk.distinct, Bool.not_eq_true] at hroot
  rcases take_cases c cwd t hk.hooks_le with ⟨hasks, hstop⟩ | hnotes
  · rw [after, hstop.ledger, Ledger.roots_settle, hasks]
    simp
  · rw [after, hnotes.ledger, show (h.prepared t).ledger = h.session.ledger from rfl]
    cases t.asks with
    | none => simp [Ledger.noted, Ledger.mem_roots_iff hk.distinct, hroot]
    | some asked =>
      rw [Ledger.noted, Ledger.mem_roots_iff (Ledger.distinct_schedule hk.distinct),
        Ledger.isScheduled_schedule, hroot]
      simp [eq_comm]

theorem roots_after_exit (cwd : Path) (hk : h.Kept c.binary) (runs : List Run) :
    (h.after c cwd ⟨.exit, runs⟩).session.ledger.roots = [] := by
  have hhooks := hk.hooks
  split_ifs at hhooks with hnews
  · -- nothing was ever scheduled, and the hooks do nothing
    have hnames : h.session.ledger.names = [] := by rw [hk.names, hnews]; rfl
    rw [after, take, Deed.perform, hhooks]
    show h.session.ledger.roots = []
    rw [Ledger.roots_eq_filter hk.distinct, hnames, List.filter_nil]
  · rw [after, take, Deed.perform, hhooks]
    show (runHooks c.binary (0 + 1) _).2.ledger.roots = []
    rw [ledger_runHooks_succ, Ledger.roots_settle]

theorem calls_after_exit (hroots : h.session.ledger.roots = []) (runs : List Run) :
    (h.after c cwd ⟨.exit, runs⟩).session.exchange.calls = h.session.exchange.calls :=
  calls_runHooks h.hooks hroots

end Chronicle

/-! ## Sessions -/

theorem chronicle_append_singleton (c : Checker) (cwd : Path) (turns : List Turn) (t : Turn) :
    chronicle c cwd (turns ++ [t]) = (chronicle c cwd turns).after c cwd t := by
  rw [chronicle, List.foldl_append]
  rfl

/-- **All turns keep the invariant**, if no stop among them has a fault. -/
theorem kept_chronicle {c : Checker} {cwd : Path} {turns : List Turn}
    (hquiet : ∀ fault, Reply.stopped (.error fault) ∉ (chronicle c cwd turns).replies) :
    (chronicle c cwd turns).Kept c.binary := by
  induction turns using List.reverseRecOn with
  | nil => exact Chronicle.kept_start
  | append_singleton turns t ih =>
    rw [chronicle_append_singleton] at hquiet ⊢
    simp only [Chronicle.after, List.mem_append, List.mem_singleton, not_or] at hquiet
    exact Chronicle.kept_after (ih fun fault => (hquiet fault).1)
      fun fault hreply => (hquiet fault).2 hreply.symm

/-- **Every scheduled root is stopped once.**  In a session without faults among
    its stops, a root was newly scheduled as often as its server was stopped,
    and once more if it still waits for that.  What is new is what a turn asks
    for and does not wait already; the roots that wait are in the order in which
    they first came; there is one exit hook once there is something to stop; and
    after an exit nothing waits, so that a second one makes no call. -/
theorem chronicle_balanced (c : Checker) (cwd : Path) (turns : List Turn)
    (hquiet : ∀ fault, Reply.stopped (.error fault) ∉ (chronicle c cwd turns).replies) :
    let h := chronicle c cwd turns
    let ledger := h.session.ledger
    (∀ root, h.news.count root =
      h.stops c.binary root + if root ∈ ledger.roots then 1 else 0) ∧
    (∀ t, (h.after c cwd t).news = h.news ++ (t.asks.filter (· ∉ ledger.roots)).toList) ∧
    (∀ t root, root ∉ ledger.roots →
      (root ∈ (h.after c cwd t).session.ledger.roots ↔ t.asks = some root)) ∧
    ledger.roots.Nodup ∧
    ledger.roots = h.news.eraseDups.filter (· ∈ ledger.roots) ∧
    (∀ root runs, (h.take c cwd ⟨.isScheduled root, runs⟩).1 =
      .answered (decide (root ∈ ledger.roots))) ∧
    (∀ root runs, (h.take c cwd ⟨.schedule root, runs⟩).1 =
      .answered (decide (root ∉ ledger.roots))) ∧
    h.hooks = (if h.news = [] then 0 else 1) ∧
    ∀ runs runs', let out := h.after c cwd ⟨.exit, runs⟩
      out.session.ledger.roots = [] ∧
        (out.after c cwd ⟨.exit, runs'⟩).session.exchange.calls = out.session.exchange.calls := by
  intro h ledger
  have hk : h.Kept c.binary := kept_chronicle hquiet
  have hscheduled : ∀ root, ledger.isScheduled root = decide (root ∈ ledger.roots) := by
    intro root
    rw [Bool.eq_iff_iff, decide_eq_true_eq, Ledger.mem_roots_iff hk.distinct]
  refine ⟨fun root => ?_, fun t => ?_, fun t root => Chronicle.mem_roots_after hk,
    Ledger.nodup_roots hk.distinct, ?_, fun root runs => ?_, fun root runs => ?_, hk.hooks,
    fun runs runs' => ?_⟩
  · rw [hk.balanced root, hscheduled root]
    simp
  · show h.news ++ (h.newly t).toList = _
    simp only [decide_not, ← hscheduled]
    rfl
  · rw [← hk.names, ← funext hscheduled]
    exact Ledger.roots_eq_filter hk.distinct
  · exact congrArg Reply.answered (hscheduled root)
  · refine congrArg Reply.answered ?_
    show (ledger.schedule root).1 = _
    rw [Ledger.schedule, hscheduled]
    by_cases hroot : root ∈ ledger.roots <;> simp [hroot]
  · have hroots := Chronicle.roots_after_exit cwd hk runs
    exact ⟨hroots, Chronicle.calls_after_exit hroots runs'⟩

/-- A session that schedules a root by a check, another one by hand and the
    first one again, stops both, for one of which the system refuses it, and
    schedules the first one once more. -/
def sampleTurns : List Turn :=
  [⟨.invoke "check-contents" ⟨"var x", "/a", "x.js", true⟩, [.prints (some "no report") 2]⟩,
   ⟨.schedule "/b", []⟩, ⟨.schedule "/a", []⟩,
   ⟨.stopAll, [.refused (.worded "gone"), .prints none 0]⟩,
   ⟨.coverage ⟨"var x", "/a", "x.js", true⟩, [.prints (some "no report") 2]⟩]

theorem replies_sampleTurns : (chronicle ⟨"flow", false⟩ (.ofText "/") sampleTurns).replies =
    [.invoked (.ok (.completed "no report")), .answered true, .answered false,
      .stopped (.ok ()), .covered (.ok (.told .none))] := by
  cbv

theorem chronicle_sampleTurns :
    let h := chronicle ⟨"flow", false⟩ (.ofText "/") sampleTurns
    (∀ fault, Reply.stopped (.error fault) ∉ h.replies) ∧
      h.session.ledger.roots = [("/a" : Text)] ∧ h.news = [("/a" : Text), "/b", "/a"] ∧
      h.news.count ("/a" : Text) = h.stops "flow" "/a" + 1 ∧
      h.news.count ("/b" : Text) = h.stops "flow" "/b" := by
  intro h
  have hquiet : ∀ fault, Reply.stopped (.error fault) ∉ h.replies := by
    intro fault
    rw [replies_sampleTurns]
    simp
  have hroots : h.session.ledger.roots = [("/a" : Text)] := by cbv
  obtain ⟨hbalanced, -⟩ := chronicle_balanced ⟨"flow", false⟩ (.ofText "/") sampleTurns hquiet
  refine ⟨hquiet, hroots, by cbv, ?_, ?_⟩
  · exact (hbalanced "/a").trans (by rw [hroots, if_pos (by simp)])
  · exact (hbalanced "/b").trans (by rw [hroots, if_neg (by decide), Nat.add_zero])

end FlowLens
