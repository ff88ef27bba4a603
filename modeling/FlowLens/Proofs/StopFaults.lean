/-
  What becomes of the roots when a stop has a fault.  All of them are crossed out
  before the first call, and a fault that is no refusal of the operating system
  ends the calls, so that the roots behind it are neither stopped nor scheduled.

  * `Runner.noting`, any runner, with its calls written down, and `Runner.answers`,
    what it gives for some calls;
  * `Session.CutOff`, a root with such a fault before its turn;
  * `Checker.stopEach_noting`: the calls that are made, and how they end.
-/
import FlowLens.Proofs.StopLedger
import Mathlib

namespace FlowLens

/-! ## Runners -/

namespace Runner

/-- The runner that gives what `run` gives, and writes every call down. -/
def noting (run : Runner) : Runner := fun call x =>
  ((run call x).1, { (run call x).2 with calls := x.calls ++ [call] })

/-- What some calls give that are made one after the other. -/
def answers (run : Runner) : List Call → Exchange → List (Except CallFault Output)
  | [], _ => []
  | call :: rest, x => (run call x).1 :: answers run rest (run call x).2

theorem noting_scripted : scripted.noting = scripted := rfl

@[simp]
theorem length_answers (run : Runner) (calls : List Call) (x : Exchange) :
    (run.answers calls x).length = calls.length := by
  induction calls generalizing x with
  | nil => rfl
  | cons call rest ih => rw [answers, List.length_cons, ih, List.length_cons]

end Runner

/-- The fault of an answer that ends the stopping of servers: any but a refusal of
    the operating system. -/
def endingFault? : Except CallFault Output → Option CallFault
  | .ok _ => none
  | .error (.system _) => none
  | .error fault => some fault

/-- An answer after which the next server is stopped. -/
def goesOn (answer : Except CallFault Output) : Bool :=
  (endingFault? answer).isNone

/-! ## Stopping -/

namespace Checker

theorem stopEach_cons (run : Runner) (binary root : Text) (rest : List Text) (x : Exchange) :
    stopEach run binary (root :: rest) x =
      match endingFault? (run (stopCall binary root) x).1 with
      | none => stopEach run binary rest (run (stopCall binary root) x).2
      | some fault => (.error fault, (run (stopCall binary root) x).2) := by
  rw [stopEach]
  rcases run (stopCall binary root) x with ⟨(fault | out), x'⟩
  · cases fault <;> rfl
  · rfl

/-- **Stops one after the other.**  The calls are made up to the first answer that
    ends them, whose fault they end with. -/
theorem stopEach_noting (run : Runner) (binary : Text) (roots : List Text) (x : Exchange) :
    let answers := run.noting.answers (roots.map (stopCall binary)) x
    (stopEach run.noting binary roots x).1 =
        (match answers.findSome? endingFault? with
          | none => .ok ()
          | some fault => .error fault) ∧
      (stopEach run.noting binary roots x).2.calls =
        x.calls ++ (roots.take ((answers.takeWhile goesOn).length + 1)).map (stopCall binary) := by
  induction roots generalizing x with
  | nil => simp [stopEach, Runner.answers]
  | cons root rest ih =>
    simp only [List.map_cons, Runner.answers]
    rw [stopEach_cons]
    cases hanswer : endingFault? (run.noting (stopCall binary root) x).1 with
    | none =>
      obtain ⟨hresult, hcalls⟩ := ih (run.noting (stopCall binary root) x).2
      have hon : goesOn (run.noting (stopCall binary root) x).1 = true := by
        rw [goesOn, hanswer]; rfl
      rw [List.findSome?_cons_of_isNone (by rw [hanswer]; rfl), List.takeWhile_cons_of_pos hon]
      refine ⟨hresult, hcalls.trans ?_⟩
      simp [Runner.noting]
    | some fault =>
      have hoff : ¬ goesOn (run.noting (stopCall binary root) x).1 = true := by
        rw [goesOn, hanswer]; simp
      rw [List.findSome?_cons_of_isSome (by rw [hanswer]; rfl), hanswer,
        List.takeWhile_cons_of_neg hoff]
      exact ⟨rfl, rfl⟩

theorem stopCall_injective (binary : Text) : Function.Injective (stopCall binary) := by
  intro r r' h
  simpa [stopCall] using h

end Checker

/-- The first `k` of some items all satisfy `p` if and only if those that do so from
    the front are `k` at least. -/
theorem le_length_takeWhile_iff {α : Type} {p : α → Bool} {l : List α} {k : Nat}
    (hk : k ≤ l.length) : k ≤ (l.takeWhile p).length ↔ ∀ a ∈ l.take k, p a = true := by
  induction l generalizing k with
  | nil =>
    obtain rfl : k = 0 := by simpa using hk
    simp
  | cons a rest ih =>
    cases k with
    | zero => simp
    | succ k =>
      rw [List.takeWhile_cons, List.take_succ_cons, List.forall_mem_cons]
      rw [List.length_cons, Nat.succ_le_succ_iff] at hk
      cases ha : p a with
      | true => simp [ih hk]
      | false => simp

namespace Session

variable {run : Runner} {binary root : Text} {s : Session}

/-- What the stops of all scheduled roots give. -/
def stopAnswers (run : Runner) (binary : Text) (s : Session) : List (Except CallFault Output) :=
  run.answers (s.ledger.roots.map (Checker.stopCall binary)) s.exchange

/-- A root whose turn does not come: the stop of a root before it ends the
    stopping. -/
def CutOff (run : Runner) (binary : Text) (s : Session) (root : Text) : Prop :=
  ∃ answer ∈ (s.stopAnswers run binary).take (s.ledger.roots.idxOf root), goesOn answer = false

instance (run : Runner) (binary : Text) (s : Session) (root : Text) :
    Decidable (s.CutOff run binary root) :=
  inferInstanceAs (Decidable (∃ answer ∈ _, _))

/-- The roots whose turn comes. -/
def reached (run : Runner) (binary : Text) (s : Session) : List Text :=
  s.ledger.roots.take (((s.stopAnswers run binary).takeWhile goesOn).length + 1)

@[simp]
theorem length_stopAnswers : (s.stopAnswers run binary).length = s.ledger.roots.length := by
  rw [stopAnswers, Runner.length_answers, List.length_map]

/-- The turn of a root comes unless it is cut off. -/
theorem mem_reached_iff (hroot : root ∈ s.ledger.roots) :
    root ∈ s.reached run binary ↔ ¬ s.CutOff run binary root := by
  have hindex : s.ledger.roots.idxOf root ≤ (s.stopAnswers run binary).length := by
    rw [length_stopAnswers]
    exact (List.idxOf_lt_length_iff.2 hroot).le
  rw [reached, List.mem_take_iff_idxOf_lt hroot, Nat.lt_succ_iff, le_length_takeWhile_iff hindex,
    CutOff]
  simp

/-- No root is cut off if and only if no stop but the last ends the stopping. -/
theorem forall_not_cutOff_iff (hd : s.ledger.Distinct) :
    (∀ root ∈ s.ledger.roots, ¬ s.CutOff run binary root) ↔
      ∀ answer ∈ (s.stopAnswers run binary).dropLast, goesOn answer = true := by
  rw [List.dropLast_eq_take, length_stopAnswers]
  constructor
  · intro h answer hanswer
    by_cases hempty : s.ledger.roots = []
    · simp [hempty] at hanswer
    · -- the turn of the last root comes behind all other answers
      have hapart : s.ledger.roots.getLast hempty ∉ s.ledger.roots.dropLast := by
        have hnodup := Ledger.nodup_roots hd
        rw [← List.dropLast_append_getLast hempty] at hnodup
        exact fun hmem => (List.nodup_append.1 hnodup).2.2 _ hmem _ (by simp) rfl
      have hlast := List.idxOf_getLast hempty hapart
      have hreached := h _ (List.getLast_mem hempty)
      rw [CutOff, hlast] at hreached
      simp only [not_exists, not_and, Bool.not_eq_false] at hreached
      exact hreached answer hanswer
  · rintro h root hroot ⟨answer, hanswer, hends⟩
    have hindex : s.ledger.roots.idxOf root ≤ s.ledger.roots.length - 1 := by
      have := List.idxOf_lt_length_iff.2 hroot
      omega
    have hon := h answer ((List.take_subset_take_left _ hindex) hanswer)
    rw [hends] at hon
    cases hon

theorem count_map_reached (hd : s.ledger.Distinct) (hroot : root ∈ s.ledger.roots) :
    ((s.reached run binary).map (Checker.stopCall binary)).count (Checker.stopCall binary root) =
      if s.CutOff run binary root then 0 else 1 := by
  have hnodup : (s.reached run binary).Nodup :=
    (Ledger.nodup_roots hd).sublist (List.take_sublist _ _)
  rw [List.count_map_of_injective _ _ (Checker.stopCall_injective binary), hnodup.count]
  simp only [mem_reached_iff hroot, ite_not]

end Session

/-- **A fault cuts off the roots behind it.**  Whatever the runner does, all roots
    are crossed out, and a root that was scheduled is stopped once, unless the stop
    of a root before it has a fault that is no refusal of the operating system; then
    it is neither stopped nor scheduled.  So every root is stopped once or still
    scheduled if and only if no stop but the last has such a fault. -/
theorem stopAll_cuts_off {s : Session} (hd : s.ledger.Distinct) (run : Runner) (binary : Text) :
    let after := Checker.stopAll run.noting binary s
    let answers := s.stopAnswers run.noting binary
    ∃ made, after.2.exchange.calls = s.exchange.calls ++ made ∧
      after.1 = (match answers.findSome? endingFault? with
        | none => .ok ()
        | some fault => .error fault) ∧
      (∀ root, s.ledger.isScheduled root = true →
        after.2.ledger.isScheduled root = false ∧
          made.count (Checker.stopCall binary root) =
            if s.CutOff run.noting binary root then 0 else 1) ∧
      ((∀ root, s.ledger.isScheduled root = true →
          made.count (Checker.stopCall binary root) = 1 ∨
            after.2.ledger.isScheduled root = true) ↔
        ∀ answer ∈ answers.dropLast, goesOn answer = true) := by
  intro after answers
  obtain ⟨hresult, hcalls⟩ :=
    Checker.stopEach_noting run binary s.ledger.roots s.exchange
  have hsettled : ∀ root, after.2.ledger.isScheduled root = false :=
    fun root => Ledger.isScheduled_settle hd
  have hcount : ∀ root, s.ledger.isScheduled root = true →
      ((s.reached run.noting binary).map (Checker.stopCall binary)).count
        (Checker.stopCall binary root) = if s.CutOff run.noting binary root then 0 else 1 :=
    fun root hroot => Session.count_map_reached hd ((Ledger.mem_roots_iff hd).2 hroot)
  refine ⟨_, hcalls, hresult, fun root hroot => ⟨hsettled root, hcount root hroot⟩, ?_⟩
  rw [← Session.forall_not_cutOff_iff hd]
  refine forall_congr' fun root => ?_
  rw [Ledger.mem_roots_iff hd]
  refine forall_congr' fun hroot => ?_
  refine Iff.trans (b := (if s.CutOff run.noting binary root then 0 else 1) = 1) ?_ ?_
  · rw [← hcount root hroot, hsettled root]
    simp [Session.reached, Session.stopAnswers]
  · split_ifs with hcut <;> simp [hcut]

/-- Two roots are scheduled, and every call has a wrong value. -/
def brokenSession : Session :=
  ⟨.start ⟨.badValue "boom", []⟩, ⟨[("/a", true), ("/b", true)], true⟩⟩

/-- The first root is stopped, and the second one is forgotten. -/
theorem stopAll_brokenSession :
    let after := (Checker.stopAll .scripted "flow" brokenSession).2
    brokenSession.ledger.isScheduled "/b" = true ∧
      after.exchange.calls.count (Checker.stopCall "flow" "/a") = 1 ∧
      after.exchange.calls.count (Checker.stopCall "flow" "/b") = 0 ∧
      after.ledger.isScheduled "/b" = false := by
  intro after
  have hd : brokenSession.ledger.Distinct := by
    rw [Ledger.Distinct]; decide
  obtain ⟨made, hcalls, -, hroots, -⟩ := stopAll_cuts_off hd .scripted "flow"
  have ha := hroots "/a" (by decide)
  have hb := hroots "/b" (by decide)
  have hcuta : ¬ brokenSession.CutOff .scripted "flow" "/a" := by decide
  have hcutb : brokenSession.CutOff .scripted "flow" "/b" := by decide
  rw [Runner.noting_scripted] at hcalls ha hb
  rw [if_neg hcuta] at ha
  rw [if_pos hcutb] at hb
  have hmade : after.exchange.calls = made := hcalls
  rw [hmade]
  exact ⟨by decide, ha.2, hb.2, hb.1⟩

end FlowLens
