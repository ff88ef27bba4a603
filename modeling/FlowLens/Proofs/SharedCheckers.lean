/-
  Checkers that are handed out, after all that was asked of them before.  What is
  kept from one visit to the next has no part in what the next one gives.

  * `Shared.Sound`: each checker that is kept, and each registry, stands for one
    program;
  * `Visit`, one request on a machine of its own, and `Shared.history`, what some
    visits leave behind;
  * `Shared.sound_leave`, one visit keeps the state sound, and
    `Shared.sound_history`, so do all of them;
  * `Shared.withChecker_eq_afresh`: in a sound state, work is done as by a checker
    that is built for it.
-/
import FlowLens.Checker.Shared
import FlowLens.Proofs.StopLedger

namespace FlowLens

/-! ## Visits -/

/-- What is asked of the shared checkers. -/
inductive Demand where
  /-- The checker for a project, or without one. -/
  | checker (root : Option Path)
  /-- The diagnostics of a text. -/
  | collect (r : Request) (offset : Except OffsetFault Offset)
  /-- The coverage of a text. -/
  | coverage (r : Request)
  /-- The exit hooks are to run. -/
  | exit

/-- Something that is asked, on the machine as it is then, with what the calls
    made for it give. -/
structure Visit where
  /-- The files, the current directory and the environment. -/
  host : Host
  /-- What is asked. -/
  demand : Demand
  /-- What the calls give. -/
  runs : List Run

/-- The exchange that the calls of a visit are made in. -/
def Visit.exchange (v : Visit) : Exchange :=
  .start (.ofList v.runs)

/-- What a visit leaves behind. -/
def Visit.leave (v : Visit) (s : Shared) : Shared :=
  match v.demand with
  | .checker root => (s.checkerFor v.host root).2
  | .collect r offset => (s.collect v.host r offset v.exchange).2.2
  | .coverage r => (s.coverage v.host r v.exchange).2.2
  | .exit => (s.atExit v.host v.exchange).2.2

namespace Shared

/-- What some visits leave behind. -/
def history (visits : List Visit) : Shared :=
  visits.foldl (fun s v => v.leave s) .empty

/-- Something done with a checker that is built for it, by the settings of the
    moment. -/
def afresh {α : Type} (host : Host) (root : Text)
    (work : Checker → Session → Except Failure α × Session) (x : Exchange) :
    Except SharedFault α × Exchange :=
  match wanted host (some (.ofText root)) with
  | .error fault => (.error fault, x)
  | .ok c =>
    let (result, session) := work c ⟨x, .empty⟩
    (result.mapError .failure, session.exchange)

/-! ## Sound states -/

/-- The registry with a number was made for a program. -/
def Serves (s : Shared) (n : Nat) (binary : Text) : Prop :=
  s.registries[n]?.map (·.binary) = some binary

/-- The checker that is kept for a program runs this program, without debugging,
    and writes into the one registry that was made for it. -/
def Sound (s : Shared) : Prop :=
  ∀ binary c, s.kept.lookup binary = some c ↔
    c.toChecker = ⟨binary, false⟩ ∧ s.Serves c.registry binary

variable {s : Shared} {host : Host} {root : Option Path} {w : Checker} {binary : Text} {m n : Nat}

theorem sound_empty : empty.Sound := by
  intro binary c
  simp [empty, Serves]

theorem Sound.lookup_of_serves (hs : s.Sound) (hn : s.Serves n binary) :
    s.kept.lookup binary = some ⟨⟨binary, false⟩, n⟩ :=
  (hs binary _).2 ⟨rfl, hn⟩

/-- A program has one registry. -/
theorem Sound.eq_of_serves (hs : s.Sound) (hm : s.Serves m binary) (hn : s.Serves n binary) :
    m = n := by
  have h := (hs.lookup_of_serves hm).symm.trans (hs.lookup_of_serves hn)
  simpa using h

/-! ## Handing out -/

/-- The state with a new registry. -/
def extended (s : Shared) (binary : Text) : Shared :=
  { s with
    kept := s.kept ++ [(binary, ⟨⟨binary, false⟩, s.registries.length⟩)]
    registries := s.registries ++ [⟨binary, .empty⟩] }

/-- A program has its registry already, or gets a new one. -/
theorem keep_cases (hs : s.Sound) (binary : Text) :
    (∃ n, s.Serves n binary ∧ s.keep binary = (⟨⟨binary, false⟩, n⟩, s)) ∨
      (∀ n, ¬ s.Serves n binary) ∧
        s.keep binary = (⟨⟨binary, false⟩, s.registries.length⟩, s.extended binary) := by
  unfold keep
  cases hc : s.kept.lookup binary with
  | some c =>
    obtain ⟨hchecker, hserves⟩ := (hs binary c).1 hc
    refine .inl ⟨c.registry, hserves, ?_⟩
    rw [← hchecker]
  | none =>
    refine .inr ⟨fun n hn => ?_, rfl⟩
    rw [hs.lookup_of_serves hn] at hc
    cases hc

theorem serves_extended_iff {b : Text} :
    (s.extended binary).Serves n b ↔
      s.Serves n b ∨ n = s.registries.length ∧ b = binary := by
  unfold Serves extended
  rcases Nat.lt_trichotomy n s.registries.length with hlt | rfl | hgt
  · simp [List.getElem?_append, hlt, Nat.ne_of_lt hlt]
  · simp [eq_comm]
  · have hout : s.registries.length ≤ n := Nat.le_of_lt hgt
    have hnew : (s.registries ++ [(⟨binary, .empty⟩ : Registry)]).length ≤ n := by
      rw [List.length_append]; exact hgt
    rw [List.getElem?_eq_none hout, List.getElem?_eq_none hnew]
    simp [Nat.ne_of_gt hgt]

theorem sound_extended (hs : s.Sound) (hnew : ∀ n, ¬ s.Serves n binary) :
    (s.extended binary).Sound := by
  have hnone : s.kept.lookup binary = none := by
    cases hc : s.kept.lookup binary with
    | none => rfl
    | some c => exact absurd ((hs binary c).1 hc).2 (hnew _)
  intro b c
  rw [serves_extended_iff]
  simp only [extended, List.lookup_append]
  by_cases hb : b = binary
  · subst hb
    obtain ⟨checker, n⟩ := c
    simp [hnone, hnew, eq_comm]
  · simp only [List.lookup_cons, beq_eq_false_iff_ne.2 hb, List.lookup_nil, Option.or_none, hs b c,
      hb, and_false, or_false]

theorem sound_keep (hs : s.Sound) (binary : Text) : (s.keep binary).2.Sound := by
  rcases keep_cases hs binary with ⟨n, -, hkeep⟩ | ⟨hnew, hkeep⟩
  · rw [hkeep]; exact hs
  · rw [hkeep]; exact sound_extended hs hnew

theorem checker_keep (hs : s.Sound) (binary : Text) :
    (s.keep binary).1.toChecker = ⟨binary, false⟩ := by
  rcases keep_cases hs binary with ⟨n, -, hkeep⟩ | ⟨-, hkeep⟩ <;> rw [hkeep]

theorem serves_keep (hs : s.Sound) (binary : Text) :
    (s.keep binary).2.Serves (s.keep binary).1.registry binary := by
  rcases keep_cases hs binary with ⟨n, hserves, hkeep⟩ | ⟨-, hkeep⟩
  · rw [hkeep]; exact hserves
  · rw [hkeep]; exact serves_extended_iff.2 (.inr ⟨rfl, rfl⟩)

theorem switch_eq (debug : Bool) (c : SharedChecker) (s : Shared) :
    s.switch debug c = (⟨⟨c.binary, debug⟩, c.registry⟩, s) := by
  unfold switch
  split_ifs with h
  · subst h; rfl
  · rfl

/-- **Who asks is handed what the settings ask for**, whatever is kept. -/
theorem checkerFor_of_wanted (hs : s.Sound) (hw : wanted host root = .ok w) :
    s.checkerFor host root =
      (.ok ⟨w, (s.keep w.binary).1.registry⟩, (s.keep w.binary).2) := by
  have hbinary : (s.keep w.binary).1.binary = w.binary := by rw [checker_keep hs w.binary]
  unfold checkerFor
  rw [hw]
  simp only [switch_eq, hbinary]

theorem checkerFor_of_error {fault : SharedFault} (hw : wanted host root = .error fault) :
    s.checkerFor host root = (.error fault, s) := by
  unfold checkerFor
  rw [hw]

/-! ## What keeps a state sound -/

theorem serves_update_iff {ledger : Ledger} :
    (s.update m ledger).Serves n binary ↔ s.Serves n binary := by
  unfold Serves update
  rw [List.getElem?_modify]
  cases s.registries[n]? with
  | none => rfl
  | some r => by_cases h : m = n <;> simp [h]

theorem sound_update (hs : s.Sound) (n : Nat) (ledger : Ledger) : (s.update n ledger).Sound := by
  intro binary c
  rw [serves_update_iff]
  exact hs binary c

theorem sound_checkerFor (hs : s.Sound) (host : Host) (root : Option Path) :
    (s.checkerFor host root).2.Sound := by
  cases hw : wanted host root with
  | error fault => rw [checkerFor_of_error hw]; exact hs
  | ok w => rw [checkerFor_of_wanted hs hw]; exact sound_keep hs w.binary

theorem sound_withChecker {α : Type} (hs : s.Sound) (host : Host) (root : Text)
    (work : Checker → Session → Except Failure α × Session) (x : Exchange) :
    (s.withChecker host root work x).2.2.Sound := by
  have hc := sound_checkerFor hs host (some (.ofText root))
  unfold withChecker
  split
  · next heq => rw [heq] at hc; exact hc
  · next heq => rw [heq] at hc; exact sound_update hc _ _

theorem sound_runHooks (hs : s.Sound) (host : Host) (ns : List Nat) (x : Exchange) :
    (s.runHooks host ns x).2.2.Sound := by
  induction ns generalizing x s with
  | nil => exact hs
  | cons n rest ih =>
    rw [runHooks]
    dsimp only
    split
    · exact ih (sound_update hs _ _) _
    · exact sound_update hs _ _

/-- **One visit keeps the state sound.** -/
theorem sound_leave (hs : s.Sound) (v : Visit) : (v.leave s).Sound := by
  unfold Visit.leave
  cases v.demand with
  | checker root => exact sound_checkerFor hs _ _
  | collect r offset => exact sound_withChecker hs _ _ _ _
  | coverage r => exact sound_withChecker hs _ _ _ _
  | exit => exact sound_runHooks hs _ _ _

theorem history_append_singleton (visits : List Visit) (v : Visit) :
    history (visits ++ [v]) = v.leave (history visits) := by
  rw [history, List.foldl_append]
  rfl

/-- **So do all visits.** -/
theorem sound_history (visits : List Visit) : (history visits).Sound := by
  induction visits using List.reverseRecOn with
  | nil => exact sound_empty
  | append_singleton visits v ih =>
    rw [history_append_singleton]
    exact sound_leave ih v

end Shared

/-! ## Work in a ledger -/

namespace Checker

/-- Work that takes nothing from the ledger: neither its result nor its calls. -/
def IgnoresLedger {α : Type} (work : Session → Except Failure α × Session) : Prop :=
  ∀ x l l', (work ⟨x, l⟩).1 = (work ⟨x, l'⟩).1 ∧
    (work ⟨x, l⟩).2.exchange = (work ⟨x, l'⟩).2.exchange

theorem fst_takeOutput (r : Request) (out : Output) (l l' : Ledger) :
    (takeOutput r out l).1 = (takeOutput r out l').1 := by
  unfold takeOutput
  cases out.stdout.getD [] <;> rfl

theorem invoke_ledger (run : Runner) (c : Checker) (mode : Text) (r : Request) (x : Exchange)
    (l l' : Ledger) :
    (c.invoke run mode r ⟨x, l⟩).1 = (c.invoke run mode r ⟨x, l'⟩).1 ∧
      (c.invoke run mode r ⟨x, l⟩).2.exchange = (c.invoke run mode r ⟨x, l'⟩).2.exchange := by
  unfold invoke
  split_ifs
  · exact ⟨rfl, rfl⟩
  · dsimp only
    rcases run (c.callFor mode r) x with ⟨(e | out), x'⟩
    · cases e <;> exact ⟨rfl, rfl⟩
    · exact ⟨congrArg Except.ok (fst_takeOutput r out l l'), rfl⟩

theorem fst_tell {α : Type} (read : Text → Except Failure α)
    {p q : Except CallFault Invocation × Session} (h : p.1 = q.1) :
    (tell read p).1 = (tell read q).1 := by
  obtain ⟨a, s⟩ := p
  obtain ⟨b, t⟩ := q
  obtain rfl : a = b := h
  rcases a with _ | (_ | _ | _) <;> rfl

theorem ignoresLedger_tell {α : Type} (read : Text → Except Failure α) (run : Runner) (c : Checker)
    (mode : Text) (r : Request) :
    IgnoresLedger fun s => tell read (c.invoke run mode r s) := by
  intro x l l'
  obtain ⟨hresult, hexchange⟩ := invoke_ledger run c mode r x l l'
  exact ⟨fst_tell read hresult, by simpa using hexchange⟩

theorem ignoresLedger_collect (run : Runner) (cwd : Path) (c : Checker) (r : Request)
    (offset : Except OffsetFault Offset) : IgnoresLedger (c.collect run cwd r offset) := by
  cases offset with
  | error fault => exact fun _ _ _ => ⟨rfl, rfl⟩
  | ok offset => exact ignoresLedger_tell _ run c "check-contents" r

theorem ignoresLedger_coverage (run : Runner) (c : Checker) (r : Request) :
    IgnoresLedger (c.coverage run r) :=
  ignoresLedger_tell _ run c "coverage" r

end Checker

/-! ## The next visit -/

namespace Shared

/-- **In a sound state, work is done as by a checker that is built for it.** -/
theorem withChecker_eq_afresh {α : Type} {s : Shared} (hs : s.Sound) (host : Host) (root : Text)
    {work : Checker → Session → Except Failure α × Session}
    (hwork : ∀ c, Checker.IgnoresLedger (work c)) (x : Exchange) :
    ((s.withChecker host root work x).1, (s.withChecker host root work x).2.1) =
      afresh host root work x := by
  unfold withChecker afresh
  cases hw : wanted host (some (.ofText root)) with
  | error fault => rw [checkerFor_of_error hw]
  | ok w =>
    rw [checkerFor_of_wanted hs hw]
    obtain ⟨hresult, hexchange⟩ := hwork w x
      ((s.keep w.binary).2.registry (s.keep w.binary).1.registry).ledger .empty
    simp only [hresult, hexchange]

/-- **The past has no part in the next visit.**  After any visits, on machines
    with any files and environments, what is asked next gives the result, the
    calls and the warnings that a checker gives which is built for it by the
    settings of the moment. -/
theorem history_eq_afresh (visits : List Visit) (host : Host) (r : Request) (x : Exchange) :
    let s := history visits
    (∀ offset, ((s.collect host r offset x).1, (s.collect host r offset x).2.1) =
      afresh host r.root (fun c => c.collect (.located host) host.cwd r offset) x) ∧
    ((s.coverage host r x).1, (s.coverage host r x).2.1) =
      afresh host r.root (fun c => c.coverage (.located host) r) x := by
  have hs := sound_history visits
  constructor
  · intro offset
    exact withChecker_eq_afresh hs host r.root
      (fun c => Checker.ignoresLedger_collect _ _ c r offset) x
  · exact withChecker_eq_afresh hs host r.root (fun c => Checker.ignoresLedger_coverage _ c r) x

end Shared

end FlowLens
