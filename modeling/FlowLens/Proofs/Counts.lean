/-
  What an output counts.  The counts of a coverage are taken from two places of the
  document, and nothing is counted unless both hold a count.

  * `Value.Counts` and `Value.TellsCounts`, said of the document alone;
  * `Coverage.counts?_eq_some_iff`: the counts that are read are those that are told;
  * `coverage_counts`: what is told of the output of a checker.
-/
import FlowLens.Proofs.Sorting
import Mathlib

namespace FlowLens

/-- A value that is a count: an integer, or a truth value as one or none. -/
inductive Value.Counts : Value → Int → Prop
  | number (n : Int) : Counts (.int n) n
  | yes : Counts (.bool true) 1
  | no : Counts (.bool false) 0

theorem countOf?_eq_some_iff {v : Value} {n : Int} : countOf? v = some n ↔ v.Counts n := by
  constructor
  · intro h
    cases v with
    | int m =>
      cases h
      exact .number _
    | bool b =>
      cases h
      cases b with
      | false => exact .no
      | true => exact .yes
    | null | float | str | moment | arr | obj => cases h
  · rintro (_ | _ | _) <;> rfl

/-- A document that tells how many expressions are covered and how many are not. -/
def Value.TellsCounts (covered uncovered : Int) (v : Value) : Prop :=
  ∃ members expressions : Members, v = .obj members ∧
    members.get? "expressions" = some (.obj expressions) ∧
    (∃ a, expressions.get? "covered_count" = some a ∧ a.Counts covered) ∧
    ∃ b, expressions.get? "uncovered_count" = some b ∧ b.Counts uncovered

/-- **Counts are read where a document tells them.** -/
theorem Coverage.counts?_eq_some_iff {v : Value} {covered uncovered : Int} :
    ofDocument.counts? v = some ⟨covered, uncovered⟩ ↔ v.TellsCounts covered uncovered := by
  constructor
  · intro h
    unfold ofDocument.counts? at h
    split at h
    · next members =>
      split at h
      · next expressions hget =>
        simp only [bind, Option.bind_eq_some_iff] at h
        obtain ⟨_, ⟨a, ha, hcovered⟩, _, ⟨b, hb, huncovered⟩, h⟩ := h
        cases h
        exact ⟨members, expressions, rfl, hget, ⟨a, ha, countOf?_eq_some_iff.1 hcovered⟩,
          b, hb, countOf?_eq_some_iff.1 huncovered⟩
      · cases h
    · cases h
  · rintro ⟨members, expressions, rfl, hget, ⟨a, ha, hcovered⟩, b, hb, huncovered⟩
    simp only [ofDocument.counts?, hget, ha, hb, Option.bind_some,
      countOf?_eq_some_iff.2 hcovered, countOf?_eq_some_iff.2 huncovered]
    rfl

/-- Documents with the same two values give the same counts, whatever else they hold. -/
theorem Coverage.ofDocument_congr {members members' expressions expressions' : Members}
    (hget : members.get? "expressions" = some (.obj expressions))
    (hget' : members'.get? "expressions" = some (.obj expressions'))
    (hcovered : expressions'.get? "covered_count" = expressions.get? "covered_count")
    (huncovered : expressions'.get? "uncovered_count" = expressions.get? "uncovered_count") :
    ofDocument (.obj members') = ofDocument (.obj members) := by
  simp only [ofDocument, ofDocument.counts?, hget, hget', hcovered, huncovered]

/-- What is told of an output: whoever runs the checker on a text, and gets this output,
    learns these counts. -/
def CoverageTold (stdout : Text) (coverage : Coverage) : Prop :=
  ∀ (run : Runner) (c : Checker) (r : Request) (s : Session) (code : Int) (x : Exchange),
    r.source ≠ [] → run (c.callFor "coverage" r) s.exchange = (.ok ⟨some stdout, code⟩, x) →
    (c.coverage run r s).1 = .ok (.told coverage)

section
variable {stdout : Text} {coverage : Coverage}

theorem coverageTold_of_coverageOf (hstdout : stdout ≠ []) (h : coverageOf stdout = .ok coverage) :
    CoverageTold stdout coverage := by
  intro run c r s code x hsource hrun
  have htold : (c.coverage run r s).1 = (coverageOf stdout).map .told :=
    Checker.tell_of_completed (Checker.invoke_of_output hsource hstdout hrun)
  rw [htold, h]
  rfl

theorem coverageOf_of_read {v : Value} (h : Json.read stdout = .ok v) :
    coverageOf stdout = .ok (.ofDocument v) := by
  rw [coverageOf, h]

/-- An output that can be read, or that is no JSON, gives counts. -/
theorem exists_coverageOf (hread : ∀ cause, Json.read stdout ≠ .error (.tooLong cause)) :
    ∃ coverage, coverageOf stdout = .ok coverage ∧
      (∀ covered uncovered, Holds (Value.TellsCounts covered uncovered) stdout →
        coverage = ⟨covered, uncovered⟩) ∧
      ((∀ covered uncovered, ¬ Holds (Value.TellsCounts covered uncovered) stdout) →
        coverage = ⟨0, 0⟩) := by
  cases hjson : Json.read stdout with
  | ok v =>
    refine ⟨_, coverageOf_of_read hjson, ?_, ?_⟩
    · rintro covered uncovered ⟨v', hv', htells⟩
      cases hjson.symm.trans hv'
      rw [Coverage.ofDocument, Coverage.counts?_eq_some_iff.2 htells]
      rfl
    · intro hnone
      rw [Coverage.ofDocument]
      cases hcounts : Coverage.ofDocument.counts? v with
      | none => rfl
      | some counts => exact absurd ⟨v, hjson, Coverage.counts?_eq_some_iff.1 hcounts⟩ (hnone _ _)
  | error e =>
    cases e with
    | tooLong cause => exact absurd hjson (hread cause)
    | malformed fault =>
      refine ⟨.none, by simp only [coverageOf, hjson], ?_, fun _ => rfl⟩
      rintro covered uncovered ⟨v, hv, -⟩
      cases hjson.symm.trans hv

/-- **Counts are both taken or none is.**  An output that can be read, or that is no JSON,
    always tells a coverage: the two counts, of any size and sign, where the document has
    both of them, and nothing in every other case.  Nothing else in the document
    matters. -/
theorem coverage_counts (hstdout : stdout ≠ [])
    (hread : ∀ cause, Json.read stdout ≠ .error (.tooLong cause)) :
    ∃ coverage, CoverageTold stdout coverage ∧
      (∀ covered uncovered, Holds (Value.TellsCounts covered uncovered) stdout →
        coverage = ⟨covered, uncovered⟩) ∧
      ((∀ covered uncovered, ¬ Holds (Value.TellsCounts covered uncovered) stdout) →
        coverage = ⟨0, 0⟩) ∧
      ∀ (stdout' : Text) (members members' expressions expressions' : Members), stdout' ≠ [] →
        Json.read stdout = .ok (.obj members) → Json.read stdout' = .ok (.obj members') →
        members.get? "expressions" = some (.obj expressions) →
        members'.get? "expressions" = some (.obj expressions') →
        expressions'.get? "covered_count" = expressions.get? "covered_count" →
        expressions'.get? "uncovered_count" = expressions.get? "uncovered_count" →
        CoverageTold stdout' coverage := by
  obtain ⟨coverage, hcoverage, hcounts, hnone⟩ := exists_coverageOf hread
  refine ⟨coverage, coverageTold_of_coverageOf hstdout hcoverage, hcounts, hnone, ?_⟩
  intro stdout' members members' expressions expressions' hstdout' hjson hjson' hget hget' hcovered
    huncovered
  rw [coverageOf_of_read hjson] at hcoverage
  refine coverageTold_of_coverageOf hstdout' ?_
  rw [coverageOf_of_read hjson', Coverage.ofDocument_congr hget hget' hcovered huncovered,
    hcoverage]

end

/-- An output with a truth value and a large negative integer for its counts, among other
    things. -/
def oddOutput : Text :=
  ["\x7b\"expressions\":\x7b\"covered_count\":true,",
    "\"uncovered_count\":-9007199254740993\x7d,\"errors\":7\x7d"].flatMap Text.ofString

theorem read_oddOutput : Json.read oddOutput =
    .ok (.obj [("expressions", .obj [("covered_count", .bool true),
      ("uncovered_count", .int (-9007199254740993))]), ("errors", .int 7)]) := by
  cbv

/-- Both are taken as they are. -/
theorem coverage_oddOutput :
    oddOutput ≠ [] ∧ (∀ cause, Json.read oddOutput ≠ .error (.tooLong cause)) ∧
    (Checker.coverage .scripted ⟨"flow", false⟩ sampleRequest (sampleSession oddOutput)).1 =
      .ok (.told ⟨1, -9007199254740993⟩) := by
  have hread : ∀ cause, Json.read oddOutput ≠ .error (.tooLong cause) := by
    intro cause h
    rw [read_oddOutput] at h
    cases h
  have htells : Holds (Value.TellsCounts 1 (-9007199254740993)) oddOutput :=
    ⟨_, read_oddOutput, _, _, rfl, rfl, ⟨_, rfl, .yes⟩, _, rfl, .number _⟩
  have hstdout : oddOutput ≠ [] := List.cons_ne_nil _ _
  obtain ⟨coverage, htold, hcounts, -⟩ := coverage_counts hstdout hread
  obtain rfl := hcounts _ _ htells
  exact ⟨hstdout, hread, htold _ _ _ _ _ _ (by decide) rfl⟩

end FlowLens
