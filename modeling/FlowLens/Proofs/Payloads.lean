/-
  What the host is given of a diagnostic.  Nothing is lost: the payload of a
  diagnostic that carries no report is checked to be that diagnostic, and no place in
  it is left empty.

  * `Value.StandsIn`, the parts of a value at any depth;
  * `Diagnostic.entries`, the members of a payload by field;
  * `Diagnostic.check_payload` and `Diagnostic.not_null_standsIn_payload`, from which
    `Diagnostic.payload_lossless` is put together.
-/
import FlowLens.Proofs.CommandVerdict
import FlowLens.Proofs.Rechecking
import FlowLens.Report.Diagnostic
import Mathlib

namespace FlowLens

/-! ## Parts of a value -/

/-- A value stands somewhere in another one, or is that one. -/
inductive Value.StandsIn (u : Value) : Value → Prop
  | self : StandsIn u u
  | item {items v} : v ∈ items → StandsIn u v → StandsIn u (.arr items)
  | member {members m} : m ∈ members → StandsIn u m.2 → StandsIn u (.obj members)

namespace Value

variable {v : Value}

theorem not_null_standsIn_str (t : Text) : ¬ null.StandsIn (.str t) := by
  intro h
  cases h

theorem not_null_standsIn_int (n : Int) : ¬ null.StandsIn (.int n) := by
  intro h
  cases h

theorem not_null_standsIn_obj {members : Members} (h : ∀ m ∈ members, ¬ null.StandsIn m.2) :
    ¬ null.StandsIn (.obj members) := by
  rintro (_ | _ | ⟨hm, hnull⟩)
  exact h _ hm hnull

/-- Nothing is empty in a record if nothing is in what is given of its fields. -/
theorem not_null_standsIn_ofFields {naming : Naming} {entries : List (Field × Option Value)}
    (h : ∀ e ∈ entries, ∀ v ∈ e.2, ¬ null.StandsIn v) :
    ¬ null.StandsIn (.obj (Members.ofFields naming entries)) := by
  refine not_null_standsIn_obj fun m hm => ?_
  obtain ⟨e, he, hgiven⟩ := List.mem_filterMap.1 hm
  obtain ⟨v, hv, rfl⟩ := Option.map_eq_some_iff.1 hgiven
  exact h e he v hv

theorem not_null_of_mem_map {α : Type} {write : α → Value} {o : Option α}
    (hwrite : ∀ a, ¬ null.StandsIn (write a)) (hv : v ∈ o.map write) : ¬ null.StandsIn v := by
  obtain ⟨a, -, rfl⟩ := Option.map_eq_some_iff.1 hv
  exact hwrite a

end Value

theorem Position.not_null_standsIn_payload (p : Position) : ¬ Value.null.StandsIn p.payload := by
  rw [payload_eq]
  refine Value.not_null_standsIn_ofFields ?_
  simp only [entries, List.forall_mem_cons, Option.mem_some_iff, forall_eq']
  refine ⟨Value.not_null_standsIn_int _, Value.not_null_standsIn_int _, fun v hv => ?_, by simp⟩
  exact Value.not_null_of_mem_map Value.not_null_standsIn_int hv

theorem Span.not_null_standsIn_payload (s : Span) : ¬ Value.null.StandsIn s.payload := by
  refine Value.not_null_standsIn_obj ?_
  simp only [List.forall_mem_cons]
  exact ⟨s.start.not_null_standsIn_payload, s.stop.not_null_standsIn_payload, by simp⟩

/-! ## Words -/

theorem Rule.check_label (r : Rule) : Rule.check (.str r.label) = .good r := by
  cases r <;> rfl

theorem Severity.check_label (s : Severity) : Severity.check (.str s.label) = .good s := by
  cases s <;> rfl

/-! ## Payloads -/

namespace Diagnostic

/-- What is told of a diagnostic, by field.  Of a report nothing is told. -/
def entries (d : Diagnostic) : List (Field × Option Value) :=
  [(ruleField, d.rule.map fun r => .str r.label), (severityField, some (.str d.severity.label)),
    (.plain "message", some (.str d.message)), (.plain "path", d.path.map .str),
    (startField, d.startLine.map .int), (endField, d.endLine.map .int),
    (spanField, some d.span.payload), (.plain "raw", none)]

theorem ownMembers_eq (d : Diagnostic) : d.ownMembers = Members.ofFields .byKey d.entries := by
  obtain ⟨_ | rule, severity, message, _ | path, _ | first, _ | last, span, raw⟩ := d <;> rfl

variable {d d' : Diagnostic}

/-- A diagnostic without a report tells its own members only. -/
theorem payload_eq (h : d.raw = none) : d.payload = .obj (Members.ofFields .byKey d.entries) := by
  have hnodup : (d.ownMembers.map (·.1)).Nodup := d.names_ownMembers_sublist.nodup (by decide)
  rw [payload, h, Option.getD_none, Members.merge_of_nodup (by simpa using hnodup),
    List.nil_append, ownMembers_eq]

/-- **A payload is checked to be the diagnostic that it was made of.** -/
theorem check_payload (h : d.raw = none) : check d.payload = .good d := by
  have hapart : [ruleField, severityField, .plain "message", .plain "path", startField, endField,
      spanField, .plain "raw"].Pairwise Field.Apart := by decide
  rw [payload_eq h]
  refine Checked.seq_good (Checked.seq_good (Checked.seq_good (Checked.seq_good (Checked.seq_good
    (Checked.seq_good (Checked.seq_good (Checked.map_good ?rule) ?severity) ?message) ?path)
    ?startLine) ?endLine) ?span) ?raw
  case rule =>
    exact Members.optional_ofFields hapart 0 rfl
      (Members.taken_map (fun r : Rule => .str r.label) fun r _ => ⟨nofun, r.check_label⟩)
  case severity => exact Members.required_ofFields hapart 1 rfl d.severity.check_label
  case message => exact Members.required_ofFields hapart 2 rfl rfl
  case path =>
    exact Members.optional_ofFields hapart 3 rfl
      (Members.taken_map .str fun _ _ => ⟨nofun, rfl⟩)
  case startLine =>
    exact Members.optional_ofFields hapart 4 rfl
      (Members.taken_map .int fun _ _ => ⟨nofun, rfl⟩)
  case endLine =>
    exact Members.optional_ofFields hapart 5 rfl
      (Members.taken_map .int fun _ _ => ⟨nofun, rfl⟩)
  case span => exact Members.required_ofFields hapart 6 rfl d.span.check_payload
  case raw => exact Members.optional_ofFields hapart 7 rfl h

/-- **No place in a payload is left empty.** -/
theorem not_null_standsIn_payload (h : d.raw = none) : ¬ Value.null.StandsIn d.payload := by
  rw [payload_eq h]
  refine Value.not_null_standsIn_ofFields ?_
  simp only [entries, List.forall_mem_cons, Option.mem_some_iff, forall_eq']
  refine ⟨fun v hv => ?_, Value.not_null_standsIn_str _, Value.not_null_standsIn_str _,
    fun v hv => ?_, fun v hv => ?_, fun v hv => ?_, d.span.not_null_standsIn_payload, by simp,
    by simp⟩
  · exact Value.not_null_of_mem_map (fun r : Rule => Value.not_null_standsIn_str r.label) hv
  · exact Value.not_null_of_mem_map Value.not_null_standsIn_str hv
  · exact Value.not_null_of_mem_map Value.not_null_standsIn_int hv
  · exact Value.not_null_of_mem_map Value.not_null_standsIn_int hv

/-- **A payload loses nothing.**  Of a diagnostic that carries no report, it holds no
    `null` at any depth and is checked to be that diagnostic; so two such diagnostics
    with the same payload are the same. -/
theorem payload_lossless :
    (∀ d : Diagnostic, d.raw = none →
      ¬ Value.null.StandsIn d.payload ∧ check d.payload = .good d) ∧
    ∀ d d' : Diagnostic, d.raw = none → d'.raw = none → d.payload = d'.payload → d = d' := by
  refine ⟨fun d h => ⟨not_null_standsIn_payload h, check_payload h⟩, ?_⟩
  intro d d' h h' hsame
  have hchecked : (Checked.good d : Checked Diagnostic) = .good d' := by
    rw [← check_payload h, hsame, check_payload h']
  cases hchecked
  rfl

/-- A diagnostic of which some things are unknown, with one of its two offsets. -/
def halfKnown (offset : Option Int) : Diagnostic :=
  ⟨some .general, .warning, "x", none, some 3, none, ⟨⟨3, 0, offset⟩, ⟨3, 5, some 0⟩⟩, none⟩

/-- Its payload leaves out what is unknown and is checked to be that diagnostic; an
    offset that is known to be zero is told apart from one that is not known. -/
theorem payload_halfKnown :
    (halfKnown none).raw = none ∧ ¬ Value.null.StandsIn (halfKnown none).payload ∧
      check (halfKnown none).payload = .good (halfKnown none) ∧
      (halfKnown none).payload ≠ (halfKnown (some 0)).payload := by
  obtain ⟨hall, hsame⟩ := payload_lossless
  obtain ⟨hnull, hcheck⟩ := hall (halfKnown none) rfl
  refine ⟨rfl, hnull, hcheck, fun h => ?_⟩
  have hspan := congrArg span (hsame _ _ rfl rfl h)
  exact absurd hspan (by decide)

end Diagnostic

end FlowLens
