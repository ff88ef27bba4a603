/-
  The servers that the shared checkers leave to be stopped, over all visits.

  * `Book`, which programs have which roots to stop, by what the visits ask for
    alone;
  * `Shared.ledgerFor`, the ledger that all checkers of a program write into;
  * `Shared.Agrees`, the invariant: the ledgers and hooks are those of the book;
    `Shared.agrees_leave`, one visit keeps it, and `Shared.agrees_history`, so do
    all of them.
-/
import FlowLens.Proofs.Override
import FlowLens.Proofs.SharedCheckers
import Mathlib

namespace FlowLens

/-! ## What visits ask for -/

/-- The root that is to be stopped after a call: there was a text and an output,
    and the request says so. -/
def Request.asksAfter (r : Request) : Except CallFault Output → Option Text
  | .ok out =>
    if r.source ≠ [] ∧ r.stop = true ∧ out.stdout.getD [] ≠ [] then some r.root else none
  | .error _ => none

/-- The mode and the text that a checker is run on, if it is run. -/
def Demand.check? : Demand → Option (Text × Request)
  | .collect r (.ok _) => some ("check-contents", r)
  | .coverage r => some ("coverage", r)
  | _ => none

/-- The program that a project asks for, with the root that is asked for when its
    checker is run. -/
def Shared.under (host : Host) (root : Text) (asked : Checker → Option Text) :
    Option (Text × Text) :=
  match wanted host (some (.ofText root)) with
  | .error _ => none
  | .ok c => (asked c).map (c.binary, ·)

/-- The program that a visit runs, and the root that it asks to have stopped at
    exit. -/
def Visit.asks (v : Visit) : Option (Text × Text) :=
  v.demand.check?.bind fun (mode, r) =>
    Shared.under v.host r.root fun c =>
      r.asksAfter (Runner.located v.host (c.callFor mode r) v.exchange).1

/-- Which roots were newly scheduled under which programs, in order, and which of
    these pairs wait to be stopped. -/
structure Book where
  /-- The pairs that were newly scheduled. -/
  news : List (Text × Text)
  /-- The pairs that wait. -/
  waiting : List (Text × Text)

namespace Book

/-- Nothing is written down. -/
def blank : Book :=
  ⟨[], []⟩

/-- The book with one more pair. -/
def adding (k : Book) (p : Text × Text) : Book :=
  ⟨k.news ++ [p], k.waiting ++ [p]⟩

/-- The book after a pair was asked for, if one was.  It is news if it does not
    wait already. -/
def noting (k : Book) : Option (Text × Text) → Book
  | none => k
  | some p => if p ∈ k.waiting then k else k.adding p

/-- The book after one more visit; after an exit nothing waits. -/
def after (k : Book) (v : Visit) : Book :=
  match v.demand with
  | .exit => { k with waiting := [] }
  | _ => k.noting v.asks

/-- The programs under which something was newly scheduled, in the order in which
    this first happened. -/
def binaries (k : Book) : List Text :=
  (k.news.map (·.1)).eraseDups

/-- The roots that were newly scheduled under a program, in the order in which they
    first were. -/
def rootsOf (k : Book) (binary : Text) : List Text :=
  ((k.news.filter (·.1 = binary)).map (·.2)).eraseDups

/-- The pairs that an exit stops: the last program first, and its roots in order. -/
def toStop (k : Book) : List (Text × Text) :=
  k.binaries.reverse.flatMap fun binary =>
    ((k.rootsOf binary).filter fun root => (binary, root) ∈ k.waiting).map (binary, ·)

end Book

/-- The book of some visits. -/
def book (visits : List Visit) : Book :=
  visits.foldl Book.after .blank

/-! ## The book -/

namespace Book

variable {k : Book} {binary root : Text}

theorem nodup_eraseDups (l : List Text) : l.eraseDups.Nodup := by
  induction l using List.reverseRecOn with
  | nil => exact List.nodup_nil
  | append_singleton l a ih =>
    rw [Chronicle.eraseDups_append_singleton]
    split_ifs with ha
    · exact ih
    · exact ih.append (List.nodup_singleton a) (by simpa using ha)

theorem mem_rootsOf_iff : root ∈ k.rootsOf binary ↔ (binary, root) ∈ k.news := by
  simp [rootsOf, List.mem_eraseDups]

theorem mem_binaries_iff : binary ∈ k.binaries ↔ ∃ root, (binary, root) ∈ k.news := by
  simp [binaries, List.mem_eraseDups]

theorem rootsOf_adding (k : Book) (binary root b : Text) :
    (k.adding (binary, root)).rootsOf b =
      if b = binary then
        if root ∈ k.rootsOf b then k.rootsOf b else k.rootsOf b ++ [root]
      else k.rootsOf b := by
  by_cases hb : b = binary
  · subst hb
    have happend : (k.news ++ [(b, root)]).filter (·.1 = b) =
        k.news.filter (·.1 = b) ++ [(b, root)] := by simp
    rw [if_pos rfl, rootsOf, adding, happend, List.map_append]
    exact Chronicle.eraseDups_append_singleton _ root
  · rw [if_neg hb]
    simp [rootsOf, adding, Ne.symm hb]

theorem binaries_adding (k : Book) (binary root : Text) :
    (k.adding (binary, root)).binaries =
      if binary ∈ k.binaries then k.binaries else k.binaries ++ [binary] := by
  rw [binaries, adding, List.map_append]
  exact Chronicle.eraseDups_append_singleton _ binary

theorem nodup_toStop : k.toStop.Nodup := by
  refine List.nodup_flatMap.2 ⟨fun b _ => ?_, ?_⟩
  · exact ((nodup_eraseDups _).filter _).map fun _ _ h => (Prod.mk.inj h).2
  · -- pairs of two programs differ in the program
    refine (List.nodup_reverse.2 (nodup_eraseDups _)).imp fun hne => ?_
    rintro p hp hq
    obtain ⟨_, -, rfl⟩ := List.mem_map.1 hp
    obtain ⟨_, -, heq⟩ := List.mem_map.1 hq
    exact hne (congrArg Prod.fst heq).symm

theorem mem_toStop_iff (hwaiting : ∀ p ∈ k.waiting, p ∈ k.news) {p : Text × Text} :
    p ∈ k.toStop ↔ p ∈ k.waiting := by
  obtain ⟨b, r⟩ := p
  simp only [toStop, List.mem_flatMap, List.mem_reverse, List.mem_map, List.mem_filter,
    decide_eq_true_eq, Prod.mk.injEq, mem_binaries_iff, mem_rootsOf_iff]
  constructor
  · rintro ⟨_, -, _, ⟨-, hwait⟩, rfl, rfl⟩
    exact hwait
  · intro hwait
    have hnews := hwaiting _ hwait
    exact ⟨b, ⟨r, hnews⟩, r, ⟨hnews, hwait⟩, rfl, rfl⟩

end Book

/-! ## Ledgers by program -/

namespace Shared

/-- The ledger that the checkers of a program write into. -/
def ledgerFor (s : Shared) (binary : Text) : Ledger :=
  match s.kept.lookup binary with
  | some c => (s.registry c.registry).ledger
  | none => .empty

variable {s : Shared} {host : Host} {x : Exchange} {binary : Text} {n : Nat} {ledger : Ledger}

theorem Serves.lt (hn : s.Serves n binary) : n < s.registries.length := by
  unfold Serves at hn
  by_contra hlt
  rw [List.getElem?_eq_none (Nat.le_of_not_lt hlt)] at hn
  cases hn

theorem Serves.binary_registry (hn : s.Serves n binary) : (s.registry n).binary = binary := by
  unfold Serves at hn
  obtain ⟨r, hr, rfl⟩ := Option.map_eq_some_iff.1 hn
  rw [registry, hr]
  rfl

theorem Serves.ledgerFor_eq (hs : s.Sound) (hn : s.Serves n binary) :
    s.ledgerFor binary = (s.registry n).ledger := by
  rw [ledgerFor, hs.lookup_of_serves hn]

theorem ledgerFor_of_not_serves (hs : s.Sound) (hnone : ∀ n, ¬ s.Serves n binary) :
    s.ledgerFor binary = .empty := by
  unfold ledgerFor
  cases hc : s.kept.lookup binary with
  | none => rfl
  | some c => exact absurd ((hs binary c).1 hc).2 (hnone _)

theorem registry_update (hlt : n < s.registries.length) (m : Nat) :
    (s.update n ledger).registry m =
      if m = n then { s.registry m with ledger } else s.registry m := by
  unfold registry update
  rw [List.getElem?_modify]
  by_cases hm : m = n
  · subst hm
    simp [List.getElem?_eq_getElem hlt]
  · simp [hm, Ne.symm hm]

theorem hooks_update :
    (s.update n ledger).hooks =
      if ledger.hooked && !(s.registry n).ledger.hooked then s.hooks ++ [n] else s.hooks :=
  rfl

theorem hooks_update_of_hooked (h : ledger.hooked = (s.registry n).ledger.hooked) :
    (s.update n ledger).hooks = s.hooks := by
  rw [hooks_update, h, Bool.and_not_self]
  rfl

/-- A new ledger for a program is its own and no other's. -/
theorem ledgerFor_update (hs : s.Sound) (hn : s.Serves n binary) (ledger : Ledger) (b : Text) :
    (s.update n ledger).ledgerFor b = if b = binary then ledger else s.ledgerFor b := by
  have hs' := sound_update hs n ledger
  by_cases hb : ∃ m, s.Serves m b
  · obtain ⟨m, hm⟩ := hb
    rw [Serves.ledgerFor_eq hs' (serves_update_iff.2 hm), registry_update hn.lt,
      Serves.ledgerFor_eq hs hm]
    have hiff : m = n ↔ b = binary := by
      constructor
      · rintro rfl
        exact hm.binary_registry.symm.trans hn.binary_registry
      · rintro rfl
        exact hs.eq_of_serves hm hn
    by_cases h : b = binary
    · rw [if_pos h, if_pos (hiff.2 h)]
    · rw [if_neg h, if_neg (mt hiff.1 h)]
  · have hnone : ∀ m, ¬ s.Serves m b := not_exists.1 hb
    have hne : b ≠ binary := by
      rintro rfl
      exact hnone n hn
    rw [if_neg hne, ledgerFor_of_not_serves hs hnone,
      ledgerFor_of_not_serves hs' fun m => mt serves_update_iff.1 (hnone m)]

theorem serves_of_keep (hs : s.Sound) (b : Text) (hn : s.Serves n binary) :
    (s.keep b).2.Serves n binary := by
  rcases keep_cases hs b with ⟨_, -, hkeep⟩ | ⟨-, hkeep⟩
  · rw [hkeep]; exact hn
  · rw [hkeep]; exact serves_extended_iff.2 (.inl hn)

theorem hooks_keep (hs : s.Sound) (binary : Text) : (s.keep binary).2.hooks = s.hooks := by
  rcases keep_cases hs binary with ⟨_, -, hkeep⟩ | ⟨-, hkeep⟩
  · rw [hkeep]
  · rw [hkeep]; rfl

/-- A new registry changes the ledger of no program. -/
theorem ledgerFor_keep (hs : s.Sound) (binary b : Text) :
    (s.keep binary).2.ledgerFor b = s.ledgerFor b := by
  have hs' := sound_keep hs binary
  rcases keep_cases hs binary with ⟨_, -, hkeep⟩ | ⟨hnew, hkeep⟩
  · rw [hkeep]
  · rw [hkeep] at hs' ⊢
    by_cases hb : ∃ m, s.Serves m b
    · obtain ⟨m, hm⟩ := hb
      rw [Serves.ledgerFor_eq hs' (serves_extended_iff.2 (.inl hm)), Serves.ledgerFor_eq hs hm]
      simp [registry, extended, List.getElem?_append, hm.lt]
    · have hnone : ∀ m, ¬ s.Serves m b := not_exists.1 hb
      rw [ledgerFor_of_not_serves hs hnone]
      by_cases heq : b = binary
      · subst heq
        rw [Serves.ledgerFor_eq hs' (serves_extended_iff.2 (.inr ⟨rfl, rfl⟩))]
        simp [registry, extended]
      · refine ledgerFor_of_not_serves hs' fun m hm => ?_
        rcases serves_extended_iff.1 hm with hm | ⟨-, hm⟩
        · exact hnone m hm
        · exact heq hm

/-- What work with the checker for a project leaves behind. -/
theorem state_withChecker {α : Type} {root : Text} {w : Checker} (hs : s.Sound)
    (hw : wanted host (some (.ofText root)) = .ok w)
    (work : Checker → Session → Except Failure α × Session) :
    (s.withChecker host root work x).2.2 =
      (s.keep w.binary).2.update (s.keep w.binary).1.registry
        (work w ⟨x, s.ledgerFor w.binary⟩).2.ledger := by
  have hledger : ((s.keep w.binary).2.registry (s.keep w.binary).1.registry).ledger =
      s.ledgerFor w.binary := by
    rw [← Serves.ledgerFor_eq (sound_keep hs w.binary) (serves_keep hs w.binary),
      ledgerFor_keep hs]
  unfold withChecker
  rw [checkerFor_of_wanted hs hw]
  simp only [hledger]

end Shared

/-! ## The invariant -/

namespace Shared

/-- Every program's ledger lists what the book has for it, and the hooks are those
    of the book's programs, in order. -/
structure Agrees (s : Shared) (k : Book) : Prop where
  sound : s.Sound
  distinct : ∀ binary, (s.ledgerFor binary).Distinct
  names : ∀ binary, (s.ledgerFor binary).names = k.rootsOf binary
  waits : ∀ binary root,
    (s.ledgerFor binary).isScheduled root = true ↔ (binary, root) ∈ k.waiting
  hooked : ∀ binary, (s.ledgerFor binary).hooked = true ↔ binary ∈ k.binaries
  hooks : List.Forall₂ s.Serves s.hooks k.binaries

variable {s : Shared} {k : Book} {host : Host} {x : Exchange} {binary : Text} {n : Nat}

theorem agrees_empty : empty.Agrees .blank where
  sound := sound_empty
  distinct _ := List.nodup_nil
  names _ := rfl
  waits _ _ := by simp [ledgerFor, empty, Ledger.empty, Ledger.isScheduled, Ledger.scheduledIn,
    Book.blank]
  hooked _ := by simp [ledgerFor, empty, Ledger.empty, Book.blank, Book.binaries]
  hooks := .nil

theorem Agrees.roots (ha : s.Agrees k) (binary : Text) :
    (s.ledgerFor binary).roots =
      (k.rootsOf binary).filter fun root => (binary, root) ∈ k.waiting := by
  rw [Ledger.roots_eq_filter (ha.distinct binary), ha.names]
  refine List.filter_congr fun root _ => ?_
  rw [Bool.eq_iff_iff, ha.waits, decide_eq_true_eq]

theorem Agrees.mem_news (ha : s.Agrees k) : ∀ p ∈ k.waiting, p ∈ k.news := by
  rintro ⟨b, r⟩ hp
  have hname := Ledger.mem_names_of_isScheduled ((ha.waits b r).2 hp)
  rw [ha.names] at hname
  exact Book.mem_rootsOf_iff.1 hname

/-- What leaves the ledgers and the hooks as they are. -/
theorem Agrees.of_same {s' : Shared} (ha : s.Agrees k) (hs' : s'.Sound)
    (hledger : ∀ b, s'.ledgerFor b = s.ledgerFor b) (hhooks : s'.hooks = s.hooks)
    (hserves : ∀ m b, s.Serves m b → s'.Serves m b) : s'.Agrees k where
  sound := hs'
  distinct b := by rw [hledger]; exact ha.distinct b
  names b := by rw [hledger]; exact ha.names b
  waits b r := by rw [hledger]; exact ha.waits b r
  hooked b := by rw [hledger]; exact ha.hooked b
  hooks := by rw [hhooks]; exact ha.hooks.imp hserves

theorem agrees_keep (ha : s.Agrees k) (binary : Text) : (s.keep binary).2.Agrees k :=
  ha.of_same (sound_keep ha.sound binary) (ledgerFor_keep ha.sound binary)
    (hooks_keep ha.sound binary) fun _ _ => serves_of_keep ha.sound binary

/-- A ledger that stays as it is. -/
theorem agrees_update_self (ha : s.Agrees k) (hn : s.Serves n binary) :
    (s.update n (s.ledgerFor binary)).Agrees k := by
  refine ha.of_same (sound_update ha.sound _ _) (fun b => ?_) ?_ fun _ _ => serves_update_iff.2
  · rw [ledgerFor_update ha.sound hn]
    split_ifs with hb
    · rw [hb]
    · rfl
  · exact hooks_update_of_hooked (by rw [Serves.ledgerFor_eq ha.sound hn])

/-- A root that is new under a program is written into its ledger, and into the
    book. -/
theorem agrees_update_schedule (ha : s.Agrees k) (hn : s.Serves n binary) {root : Text}
    (hnew : (binary, root) ∉ k.waiting) :
    (s.update n ((s.ledgerFor binary).schedule root).2).Agrees (k.adding (binary, root)) := by
  have hroot : (s.ledgerFor binary).isScheduled root = false := by
    rw [← Bool.not_eq_true, ha.waits]
    exact hnew
  have hschedule := Ledger.schedule_of_not_isScheduled hroot
  have hledger := ledgerFor_update ha.sound hn ((s.ledgerFor binary).schedule root).2
  refine ⟨sound_update ha.sound _ _, fun b => ?_, fun b => ?_, fun b r => ?_, fun b => ?_, ?_⟩
  · rw [hledger]
    split_ifs
    · exact Ledger.distinct_schedule (ha.distinct binary)
    · exact ha.distinct b
  · rw [hledger, Book.rootsOf_adding]
    by_cases hb : b = binary
    · subst hb
      have hnames : (s.ledgerFor b).entries.map (·.1) = k.rootsOf b := ha.names b
      rw [if_pos rfl, if_pos rfl, hschedule, ← hnames]
      exact Ledger.map_mark root _
    · rw [if_neg hb, if_neg hb, ha.names]
  · rw [hledger]
    by_cases hb : b = binary
    · subst hb
      simp [Book.adding, Ledger.isScheduled_schedule, ha.waits, or_comm]
    · simp [Book.adding, ha.waits, hb]
  · rw [hledger, Book.binaries_adding]
    by_cases hb : b = binary
    · subst hb
      rw [if_pos rfl, hschedule]
      split_ifs with hmem <;> simp [hmem]
    · rw [if_neg hb, ha.hooked]
      split_ifs <;> simp [hb]
  · -- the hook is registered when the program comes into the book
    have hhooked : (s.registry n).ledger.hooked = true ↔ binary ∈ k.binaries := by
      rw [← Serves.ledgerFor_eq ha.sound hn, ha.hooked]
    have hserves : List.Forall₂ (s.update n ((s.ledgerFor binary).schedule root).2).Serves s.hooks
        k.binaries := ha.hooks.imp fun m b => serves_update_iff.2
    rw [Book.binaries_adding, hooks_update, hschedule]
    by_cases hmem : binary ∈ k.binaries
    · rw [if_pos hmem, if_neg (by simp [hhooked.2 hmem]), ← hschedule]
      exact hserves
    · have hfirst : (s.registry n).ledger.hooked = false := by
        rw [← Bool.not_eq_true, hhooked]
        exact hmem
      rw [if_neg hmem, if_pos (by simp [hfirst]), ← hschedule]
      exact List.rel_append hserves (.cons (serves_update_iff.2 hn) .nil)

/-- A ledger in which a root may be written down. -/
theorem agrees_update_noted (ha : s.Agrees k) (hn : s.Serves n binary) (asked : Option Text) :
    (s.update n ((s.ledgerFor binary).noted asked)).Agrees
      (k.noting (asked.map (binary, ·))) := by
  cases asked with
  | none =>
    exact agrees_update_self ha hn
  | some root =>
    rw [Option.map_some, Book.noting, Ledger.noted]
    split_ifs with hmem
    · rw [Ledger.schedule_of_isScheduled ((ha.waits binary root).2 hmem)]
      exact agrees_update_self ha hn
    · exact agrees_update_schedule ha hn hmem

theorem under_none (host : Host) (root : Text) : under host root (fun _ => none) = none := by
  unfold under
  split <;> rfl

/-- Work with the checker for a project writes down what it asks for. -/
theorem agrees_withChecker {α : Type} {root : Text}
    {work : Checker → Session → Except Failure α × Session} (asked : Checker → Option Text)
    (ha : s.Agrees k)
    (hwork : ∀ c ledger, (work c ⟨x, ledger⟩).2.ledger = ledger.noted (asked c)) :
    (s.withChecker host root work x).2.2.Agrees (k.noting (under host root asked)) := by
  unfold under
  cases hw : wanted host (some (.ofText root)) with
  | error fault =>
    rw [withChecker, checkerFor_of_error hw]
    exact ha
  | ok w =>
    rw [state_withChecker ha.sound hw, hwork, ← ledgerFor_keep ha.sound w.binary w.binary]
    exact agrees_update_noted (agrees_keep ha w.binary) (serves_keep ha.sound w.binary) (asked w)

end Shared

/-- A check schedules its root if that is asked for, whoever carries out the call. -/
theorem Checker.ledger_invoke_run (run : Runner) (c : Checker) (mode : Text) (r : Request)
    (s : Session) :
    (c.invoke run mode r s).2.ledger =
      s.ledger.noted (r.asksAfter (run (c.callFor mode r) s.exchange).1) := by
  unfold invoke
  by_cases hsource : r.source = []
  · rw [if_pos (by simpa using hsource)]
    rcases run (c.callFor mode r) s.exchange with ⟨(e | out), x⟩
    · rfl
    · simp [Request.asksAfter, hsource, Ledger.noted]
  · rw [if_neg (by simpa using hsource)]
    rcases run (c.callFor mode r) s.exchange with ⟨(e | out), x⟩
    · cases e <;> rfl
    · refine (ledger_takeOutput out s.ledger).trans ?_
      simp [Request.asksAfter, hsource, and_comm]

/-! ## Exit -/

/-- An exchange after some calls, whatever they gave. -/
def Runner.carry (run : Runner) (calls : List Call) (x : Exchange) : Exchange :=
  calls.foldl (fun x call => (run call x).2) x

/-- A call with its program replaced by where it is, if it is anywhere. -/
def Host.placed? (host : Host) (call : Call) : Option Call :=
  (host.normalizeArgs call.args).toOption.map fun args => { call with args }

/-- Of the calls that are carried out, those are made whose program is found. -/
theorem calls_carry_located (host : Host) (calls : List Call) (x : Exchange) :
    ((Runner.located host).carry calls x).calls = x.calls ++ calls.filterMap host.placed? := by
  induction calls generalizing x with
  | nil => simp [Runner.carry]
  | cons call rest ih =>
    refine (ih (Runner.located host call x).2).trans ?_
    unfold Runner.located
    cases hargs : host.normalizeArgs call.args with
    | error fault => simp [Host.placed?, hargs, Except.toOption]
    | ok args => simp [Host.placed?, hargs, Except.toOption, Runner.scripted]

theorem Checker.exchange_stopEach {run : Runner} {binary : Text} {roots : List Text} {x : Exchange}
    (hok : (stopEach run binary roots x).1 = .ok ()) :
    (stopEach run binary roots x).2 = run.carry (roots.map (stopCall binary)) x := by
  induction roots generalizing x with
  | nil => rfl
  | cons root rest ih =>
    have hrest := (stopEach_cons_of_ok hok).2
    rw [hrest] at hok ⊢
    exact ih hok

/-- A run that gives an output, or that the operating system refuses. -/
def Run.harmless : Run → Bool
  | prints _ _ | refused _ => true
  | badValue _ | fails _ | timesOut _ => false

/-- All runs to come are harmless. -/
def Script.Harmless (s : Script) : Prop :=
  ∀ run ∈ s.next :: s.later, run.harmless = true

instance (s : Script) : Decidable s.Harmless :=
  inferInstanceAs (Decidable (∀ run ∈ s.next :: s.later, run.harmless = true))

theorem Script.Harmless.advance {s : Script} (h : s.Harmless) : s.advance.Harmless := by
  unfold Script.advance
  cases hlater : s.later with
  | nil => exact h
  | cons r rest =>
    intro run hrun
    exact h run (List.mem_cons_of_mem _ (by rw [hlater]; exact hrun))

/-- Stops whose runs are harmless have no fault. -/
theorem Checker.stopEach_of_harmless (host : Host) (binary : Text) (roots : List Text)
    {x : Exchange} (hx : x.script.Harmless) :
    (stopEach (.located host) binary roots x).1 = .ok () ∧
      (stopEach (.located host) binary roots x).2.script.Harmless := by
  induction roots generalizing x with
  | nil => exact ⟨rfl, hx⟩
  | cons root rest ih =>
    have hnext := hx x.script.next (List.mem_cons_self ..)
    rw [stopEach]
    unfold Runner.located
    cases hargs : host.normalizeArgs (stopCall binary root).args with
    | ok args =>
      simp only [Runner.scripted]
      cases hrun : x.script.next with
      | prints | refused => exact ih hx.advance
      | badValue | fails | timesOut => rw [hrun] at hnext; cases hnext
    | error fault =>
      cases fault with
      | notFound program => exact ih hx
      | noProgram =>
        -- a stop has a program
        simp only [stopCall, Host.normalizeArgs] at hargs
        split at hargs
        · cases hargs
        · split at hargs <;> cases hargs

namespace Shared

variable {s : Shared} {k : Book} {host : Host} {x : Exchange} {binary : Text} {n : Nat}

/-- The calls that stop all roots of some programs. -/
def stopCalls (s : Shared) (bs : List Text) : List Call :=
  bs.flatMap fun b => (s.ledgerFor b).roots.map (Checker.stopCall b)

/-- The state after the roots of a program were crossed out. -/
theorem ledgerFor_settled (hs : s.Sound) (hn : s.Serves n binary) (b : Text) :
    (s.update n (s.ledgerFor binary).settle).ledgerFor b =
      if b = binary then (s.ledgerFor b).settle else s.ledgerFor b := by
  rw [ledgerFor_update hs hn]
  split_ifs with hb
  · rw [hb]
  · rfl

/-- One hook stops the roots of its program. -/
theorem runHooks_cons (hs : s.Sound) (hn : s.Serves n binary) (rest : List Nat) (x : Exchange) :
    s.runHooks host (n :: rest) x =
      match Checker.stopEach (.located host) binary (s.ledgerFor binary).roots x with
      | (.ok (), x') => (s.update n (s.ledgerFor binary).settle).runHooks host rest x'
      | (.error fault, x') => (.error fault, x', s.update n (s.ledgerFor binary).settle) := by
  rw [runHooks, hn.binary_registry, ← Serves.ledgerFor_eq hs hn, Checker.stopAll]
  rcases Checker.stopEach (.located host) binary (s.ledgerFor binary).roots x with ⟨(e | u), x'⟩
  · rfl
  · rfl

theorem stopCalls_settled {bs : List Text} (hs : s.Sound) (hn : s.Serves n binary)
    (hbs : binary ∉ bs) :
    (s.update n (s.ledgerFor binary).settle).stopCalls bs = s.stopCalls bs := by
  refine List.flatMap_congr fun b hb => ?_
  have hne : b ≠ binary := by
    rintro rfl
    exact hbs hb
  rw [ledgerFor_settled hs hn, if_neg hne]

/-- What the hooks of some programs do, unless there is a fault: every root of
    theirs is stopped and crossed out. -/
theorem runHooks_of_ok {ns : List Nat} {bs : List Text} (hs : s.Sound)
    (hns : List.Forall₂ s.Serves ns bs) (hbs : bs.Nodup)
    (hok : (s.runHooks host ns x).1 = .ok ()) :
    (s.runHooks host ns x).2.1 = (Runner.located host).carry (s.stopCalls bs) x ∧
      (s.runHooks host ns x).2.2.hooks = s.hooks ∧
      (∀ m b, (s.runHooks host ns x).2.2.Serves m b ↔ s.Serves m b) ∧
      ∀ b, (s.runHooks host ns x).2.2.ledgerFor b =
        if b ∈ bs then (s.ledgerFor b).settle else s.ledgerFor b := by
  induction ns generalizing bs s x with
  | nil =>
    cases hns
    exact ⟨rfl, rfl, fun _ _ => Iff.rfl, fun b => by simp [runHooks]⟩
  | cons n rest ih =>
    cases hns with
    | @cons _ binary _ bs hn hrest =>
      obtain ⟨hbinary, hbs⟩ := List.nodup_cons.1 hbs
      rw [runHooks_cons hs hn] at hok ⊢
      rcases hstop : Checker.stopEach (.located host) binary (s.ledgerFor binary).roots x with
        ⟨(fault | u), x'⟩
      · simp only [hstop, reduceCtorEq] at hok
      · have hx' : x' =
            (Runner.located host).carry
              ((s.ledgerFor binary).roots.map (Checker.stopCall binary)) x := by
          rw [← Checker.exchange_stopEach (by rw [hstop]), hstop]
        simp only [hstop] at hok ⊢
        obtain ⟨hexchange, hhooks, hserves, hledger⟩ := ih (sound_update hs _ _)
          (hrest.imp fun m b => serves_update_iff.2) hbs hok
        refine ⟨?_, ?_, fun m b => (hserves m b).trans serves_update_iff, fun b => ?_⟩
        · rw [hexchange, stopCalls_settled hs hn hbinary, hx', Runner.carry, Runner.carry,
            ← List.foldl_append]
          rfl
        · rw [hhooks]
          exact hooks_update_of_hooked (by rw [Serves.ledgerFor_eq hs hn, Ledger.hooked_settle])
        · rw [hledger, ledgerFor_settled hs hn]
          by_cases hb : b = binary
          · simp [hb, hbinary]
          · simp [hb]

/-- Hooks make no call when nothing waits. -/
theorem runHooks_of_roots_eq_nil {ns : List Nat} {bs : List Text} (hs : s.Sound)
    (hns : List.Forall₂ s.Serves ns bs) (hroots : ∀ b, (s.ledgerFor b).roots = []) :
    (s.runHooks host ns x).1 = .ok () ∧ (s.runHooks host ns x).2.1 = x := by
  induction ns generalizing bs s with
  | nil => exact ⟨rfl, rfl⟩
  | cons n rest ih =>
    cases hns with
    | @cons _ binary _ bs hn hrest =>
      rw [runHooks_cons hs hn, hroots]
      refine ih (sound_update hs _ _) (hrest.imp fun m b => serves_update_iff.2) fun b => ?_
      rw [ledgerFor_settled hs hn]
      split_ifs
      · exact Ledger.roots_settle
      · exact hroots b

theorem runHooks_of_harmless (s : Shared) (host : Host) (ns : List Nat)
    (hx : x.script.Harmless) : (s.runHooks host ns x).1 = .ok () := by
  induction ns generalizing s x with
  | nil => rfl
  | cons n rest ih =>
    obtain ⟨hok, hscript⟩ :=
      Checker.stopEach_of_harmless host (s.registry n).binary (s.registry n).ledger.roots hx
    rw [runHooks, Checker.stopAll]
    simp only [hok]
    exact ih _ hscript

/-- The book's pairs, as the calls that stop them. -/
theorem Agrees.stopCalls_eq (ha : s.Agrees k) :
    s.stopCalls k.binaries.reverse = k.toStop.map fun p => Checker.stopCall p.1 p.2 := by
  rw [stopCalls, Book.toStop, List.map_flatMap]
  refine List.flatMap_congr fun b _ => ?_
  rw [ha.roots, List.map_map]
  rfl

/-- **An exit** without fault makes the calls for all pairs that wait, in the order
    of the book, and then nothing waits. -/
theorem Agrees.atExit (ha : s.Agrees k) (hok : (s.atExit host x).1 = .ok ()) :
    (s.atExit host x).2.1 =
        (Runner.located host).carry (k.toStop.map fun p => Checker.stopCall p.1 p.2) x ∧
      (s.atExit host x).2.2.Agrees { k with waiting := [] } := by
  obtain ⟨hexchange, hhooks, hserves, hledger⟩ := runHooks_of_ok ha.sound
    (List.forall₂_reverse_iff.2 ha.hooks) (List.nodup_reverse.2 (Book.nodup_eraseDups _)) hok
  refine ⟨hexchange.trans (by rw [ha.stopCalls_eq]), sound_runHooks ha.sound _ _ _, fun b => ?_,
    fun b => ?_, fun b r => ?_, fun b => ?_, ?_⟩
  · rw [Shared.atExit, hledger]
    split_ifs
    · exact Ledger.distinct_settle (ha.distinct b)
    · exact ha.distinct b
  · rw [Shared.atExit, hledger]
    split_ifs
    · rw [Ledger.names_settle]; exact ha.names b
    · exact ha.names b
  · rw [Shared.atExit, hledger]
    split_ifs with hb
    · simp [Ledger.isScheduled_settle (ha.distinct b)]
    · -- a program that is not in the book has nothing that waits
      have hnot : (b, r) ∉ k.waiting := fun hp =>
        hb (List.mem_reverse.2 (Book.mem_binaries_iff.2 ⟨r, ha.mem_news _ hp⟩))
      simp [ha.waits, hnot]
  · rw [Shared.atExit, hledger]
    split_ifs
    · rw [Ledger.hooked_settle]; exact ha.hooked b
    · exact ha.hooked b
  · rw [Shared.atExit, hhooks]
    exact ha.hooks.imp fun m b => (hserves m b).2

/-! ## All visits -/

/-- **One visit keeps state and book together**, if it is no exit with a fault. -/
theorem agrees_leave (ha : s.Agrees k) (v : Visit)
    (hquiet : v.demand = .exit → (s.atExit v.host v.exchange).1 = .ok ()) :
    (v.leave s).Agrees (k.after v) := by
  obtain ⟨host, demand, runs⟩ := v
  cases demand with
  | exit => exact (ha.atExit (hquiet rfl)).2
  | checker root =>
    show (s.checkerFor host root).2.Agrees k
    cases hw : wanted host root with
    | error fault => rw [checkerFor_of_error hw]; exact ha
    | ok w => rw [checkerFor_of_wanted ha.sound hw]; exact agrees_keep ha w.binary
  | collect r offset =>
    cases offset with
    | error fault =>
      -- the offset is refused before the checker is run
      have h : (s.collect host r (.error fault) (.start (.ofList runs))).2.2.Agrees
          (k.noting (under host r.root fun _ => none)) :=
        agrees_withChecker _ ha fun _ _ => rfl
      rw [under_none] at h
      exact h
    | ok offset =>
      refine agrees_withChecker _ ha fun c ledger => ?_
      rw [Checker.collect, Checker.collectAt, Checker.snd_tell]
      exact Checker.ledger_invoke_run _ c _ r _
  | coverage r =>
    refine agrees_withChecker _ ha fun c ledger => ?_
    rw [Checker.coverage, Checker.snd_tell]
    exact Checker.ledger_invoke_run _ c _ r _

end Shared

/-- The exits among some visits had no fault. -/
def Quiet (visits : List Visit) : Prop :=
  ∀ past v, past ++ [v] <+: visits → v.demand = .exit →
    ((Shared.history past).atExit v.host v.exchange).1 = .ok ()

/-- Exits whose runs are harmless have no fault. -/
theorem quiet_of_harmless {visits : List Visit}
    (h : ∀ v ∈ visits, v.demand = .exit → v.exchange.script.Harmless) : Quiet visits := by
  intro past v hv hexit
  have hmem : v ∈ visits := hv.subset (by simp)
  exact Shared.runHooks_of_harmless _ _ _ (h v hmem hexit)

theorem book_append_singleton (visits : List Visit) (v : Visit) :
    book (visits ++ [v]) = (book visits).after v := by
  rw [book, List.foldl_append]
  rfl

namespace Shared

/-- **So do all visits**, if no exit among them has a fault. -/
theorem agrees_history {visits : List Visit} (hquiet : Quiet visits) :
    (history visits).Agrees (book visits) := by
  induction visits using List.reverseRecOn with
  | nil => exact agrees_empty
  | append_singleton visits v ih =>
    rw [history_append_singleton, book_append_singleton]
    refine agrees_leave (ih fun past w hpast => ?_) v ?_
    · exact hquiet past w (hpast.trans (List.prefix_append _ _))
    · exact hquiet visits v (List.prefix_rfl)

/-- **Every scheduled root is stopped once, by the program that was run for it.**
    After any visits, on machines with any files and environments, whose exits had
    no fault: there is one hook for each program under which a root was newly
    scheduled; a program has one registry, into which all its checkers write, with
    debugging or without, and whose roots are those that wait under the program.
    An exit has no fault if its runs are harmless.  Without one it makes one call for
    each pair that waits, the last program first and its roots in the order in which
    they first came, and another exit makes no call. -/
theorem history_stops_once (visits : List Visit) (hquiet : Quiet visits) :
    let s := history visits
    let k := book visits
    s.hooks.length = k.binaries.length ∧
    (∀ m n binary, s.Serves m binary → s.Serves n binary → m = n) ∧
    (∀ host root c s', s.checkerFor host root = (.ok c, s') →
      s'.Serves c.registry c.binary ∧
        ∀ r, r ∈ (s'.registry c.registry).ledger.roots ↔ (c.binary, r) ∈ k.waiting) ∧
    k.toStop.Nodup ∧ (∀ p, p ∈ k.toStop ↔ p ∈ k.waiting) ∧
    ∀ host x,
      let calls := k.toStop.map fun p => Checker.stopCall p.1 p.2
      (x.script.Harmless → (s.atExit host x).1 = .ok ()) ∧
      ((s.atExit host x).1 = .ok () →
        (s.atExit host x).2.1 = (Runner.located host).carry calls x ∧
        (s.atExit host x).2.1.calls = x.calls ++ calls.filterMap host.placed? ∧
        ∀ host' x', ((s.atExit host x).2.2.atExit host' x').1 = .ok () ∧
          ((s.atExit host x).2.2.atExit host' x').2.1 = x') := by
  intro s k
  have ha : s.Agrees k := agrees_history hquiet
  refine ⟨ha.hooks.length_eq, fun m n binary => ha.sound.eq_of_serves, ?_, Book.nodup_toStop,
    fun p => Book.mem_toStop_iff ha.mem_news, ?_⟩
  · intro host root c s' hc
    cases hw : wanted host root with
    | error fault =>
      rw [checkerFor_of_error hw] at hc
      cases hc
    | ok w =>
      rw [checkerFor_of_wanted ha.sound hw] at hc
      cases hc
      have hn := serves_keep ha.sound w.binary
      have ha' := agrees_keep ha w.binary
      refine ⟨hn, fun r => ?_⟩
      rw [← Serves.ledgerFor_eq ha'.sound hn, Ledger.mem_roots_iff (ha'.distinct w.binary)]
      exact ha'.waits w.binary r
  · intro host x calls
    refine ⟨runHooks_of_harmless s host _, fun hok => ?_⟩
    obtain ⟨hexchange, ha'⟩ := ha.atExit hok
    refine ⟨hexchange, ?_, fun host' x' => ?_⟩
    · rw [hexchange, calls_carry_located]
    · refine runHooks_of_roots_eq_nil ha'.sound (List.forall₂_reverse_iff.2 ha'.hooks) fun b => ?_
      rw [ha'.roots]
      simp

end Shared

/-- A machine without files. -/
def sampleHost (env : Environment) : Host :=
  ⟨⟨[]⟩, .ofText "/", env⟩

/-- An environment in which a checker is set, with debugging or without. -/
def sampleEnv (binary : Text) : Bool → Environment
  | true => [("FLOW_BIN", binary), ("DEBUG_FLOWTYPE_ERRORS", "on")]
  | false => [("FLOW_BIN", binary)]

/-- A visit that finds an output, and asks to have the server stopped. -/
def sampleVisit (env : Environment) : Visit :=
  ⟨sampleHost env, .coverage ⟨"x", "/p", "x.js", true⟩, [.prints (some "no report") 2]⟩

/-- One program is run without debugging, its server is stopped, and it is run with
    debugging; then another one is run for the same root. -/
def sampleVisits : List Visit :=
  [sampleVisit (sampleEnv "/a" false), ⟨sampleHost [], .exit, []⟩,
    sampleVisit (sampleEnv "/a" true), sampleVisit (sampleEnv "/b" true)]

theorem asks_sampleVisit {env : Environment} {path : Path} {debug : Bool}
    (hcheck : Settings.check (.obj (Settings.overlay env [])) =
      .good ⟨some path, debug, false, none⟩)
    (habsolute : (Path.ofText path.text).isAbsolute = true) :
    (sampleVisit env).asks = some (path.text, ("/p" : Text)) := by
  have htable : Settings.table (sampleHost env).tree (sampleHost env).cwd
      (some (.ofText "/p")) = .ok [] := by cbv
  have hwanted : Shared.wanted (sampleHost env) (some (.ofText "/p")) =
      .ok ⟨path.text, debug⟩ := by
    unfold Shared.wanted Host.checkerFor
    rw [Settings.load_of_table htable, show (sampleHost env).env = env from rfl, hcheck]
  have hasks : (sampleVisit env).asks = Shared.under (sampleHost env) "/p" fun c =>
      Request.asksAfter ⟨"x", "/p", "x.js", true⟩ (Runner.located (sampleHost env)
        (c.callFor "coverage" ⟨"x", "/p", "x.js", true⟩) (sampleVisit env).exchange).1 := rfl
  rw [hasks, Shared.under, hwanted]
  simp only [Runner.located, Host.normalizeArgs, Checker.callFor, habsolute, if_true]
  rfl

theorem check_sampleEnv :
    Settings.check (.obj (Settings.overlay (sampleEnv "/a" false) [])) =
        .good ⟨some (.ofText "/a"), false, false, none⟩ ∧
      Settings.check (.obj (Settings.overlay (sampleEnv "/a" true) [])) =
        .good ⟨some (.ofText "/a"), true, false, none⟩ ∧
      Settings.check (.obj (Settings.overlay (sampleEnv "/b" true) [])) =
        .good ⟨some (.ofText "/b"), true, false, none⟩ := by
  have hplain : Settings.overlay (sampleEnv "/a" false) [] =
      Members.put "flow-bin" (.str "/a") [] := by
    simp only [Settings.overlay,
      show Environment.get? "FLOW_BIN" (sampleEnv "/a" false) = some "/a" by decide,
      show Environment.get? "DEBUG_FLOWTYPE_ERRORS" (sampleEnv "/a" false) = none by decide,
      show Environment.get? "DEBUG_FLOWTYPE_ERRRORS" (sampleEnv "/a" false) = none by decide]
    rfl
  refine ⟨?_, by cbv, by cbv⟩
  rw [hplain]
  cbv

theorem book_sampleVisits : book sampleVisits =
    ⟨[("/a", "/p"), ("/a", "/p"), ("/b", "/p")], [("/a", "/p"), ("/b", "/p")]⟩ := by
  obtain ⟨hplain, hdebug, hother⟩ := check_sampleEnv
  have hbook : book sampleVisits =
      (Book.noting { Book.blank.noting (sampleVisit (sampleEnv "/a" false)).asks with waiting := [] }
        (sampleVisit (sampleEnv "/a" true)).asks).noting
        (sampleVisit (sampleEnv "/b" true)).asks := rfl
  rw [hbook, asks_sampleVisit hplain (by cbv), asks_sampleVisit hdebug (by cbv),
    asks_sampleVisit hother (by cbv)]
  cbv

/-- The second program is stopped before the first one, and each of them once. -/
theorem stops_sampleVisits :
    let s := Shared.history sampleVisits
    let x := Exchange.start .silent
    Quiet sampleVisits ∧ s.hooks.length = 2 ∧ (s.atExit (sampleHost []) x).1 = .ok () ∧
      (s.atExit (sampleHost []) x).2.1.calls =
        [⟨["/b", "stop", "/p"], none⟩, ⟨["/a", "stop", "/p"], none⟩] := by
  intro s x
  have hsilent : Script.silent.Harmless := by decide
  have hquiet : Quiet sampleVisits := by
    refine quiet_of_harmless fun v hv hexit => ?_
    simp only [sampleVisits, List.mem_cons, List.not_mem_nil, or_false] at hv
    rcases hv with rfl | rfl | rfl | rfl
    · cases hexit
    · exact hsilent
    · cases hexit
    · cases hexit
  obtain ⟨hhooks, -, -, -, -, hexit⟩ := Shared.history_stops_once sampleVisits hquiet
  obtain ⟨hok, hcalls⟩ := hexit (sampleHost []) x
  obtain ⟨-, hcalls, -⟩ := hcalls (hok hsilent)
  rw [book_sampleVisits] at hhooks hcalls
  exact ⟨hquiet, hhooks.trans (by cbv), hok hsilent, hcalls.trans (by cbv)⟩

end FlowLens
